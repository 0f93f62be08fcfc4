import Rehearsal.Proofs.Config.Reading
import Rehearsal.Proofs.Effects
import Rehearsal.Proofs.Session.History

/-!
# How computations fail

A computation is judged by the failures that it can give, as far as something is known of the
backend. What is known of it has to outlast each call, as the failures that it never gives do.
-/
namespace Rehearsal

variable {σ α β : Type}

namespace Backend

/-- From a state on, whatever it was asked before, the backend gives no failure of a kind. -/
def Never (b : Backend σ) (P : Failure → Prop) (s : σ) : Prop :=
  ∀ calls c f, (b.answer c (b.after calls s)).1 = .error f → ¬ P f

/-- What is known of the state outlasts every call. -/
def Keeps (b : Backend σ) (J : σ → Prop) : Prop := ∀ c s, J s → J (b.answer c s).2

variable {b : Backend σ} {P : Failure → Prop}

theorem never_of_keeps {J : σ → Prop} (keeps : b.Keeps J)
    (safe : ∀ c s f, J s → (b.answer c s).1 = .error f → ¬ P f) {s : σ} (h : J s) : b.Never P s := by
  intro calls
  induction calls generalizing s with
  | nil => exact fun c f => safe c s f h
  | cons c rest ih => exact ih (keeps c s h)

theorem Never.not_of_error {s : σ} (never : b.Never P s) {c : Call} {f : Failure}
    (h : (b.answer c s).1 = .error f) : ¬ P f := never [] c f h

theorem never_keeps (b : Backend σ) (P : Failure → Prop) : b.Keeps (b.Never P) :=
  fun c _ never calls => never (c :: calls)

end Backend

/-- What is known of the backend outlasts the computation. -/
def Task.Keeps (J : σ → Prop) (m : Task σ α) : Prop :=
  m.Ensures fun w w' => J w.backend → J w'.backend

/-- The same for a computation that may fail, which then fails in one of these ways only. -/
def Act.Fails (J : σ → Prop) (P : Failure → Prop) (m : Act σ α) : Prop :=
  ∀ w, J w.backend → J (m.run w).2.backend ∧ ∀ f, (m.run w).1 = .error f → P f

instance {J : σ → Prop} : IsPreorder (World σ) fun w w' => J w.backend → J w'.backend where
  refl _ := id
  trans _ _ _ h h' := h' ∘ h

section
variable {J : σ → Prop} {P Q : Failure → Prop}

theorem Act.Fails.mono {m : Act σ α} (h : m.Fails J P) (hPQ : ∀ f, P f → Q f) : m.Fails J Q :=
  fun w known => ⟨(h w known).1, fun f hf => hPQ f ((h w known).2 f hf)⟩

theorem Task.Keeps.lift {m : Task σ α} (h : m.Keeps J) : (liftM m : Act σ α).Fails J P :=
  fun w known => ⟨h w known, fun _ hf => nomatch hf⟩

/-- A computation that neither fails nor asks the backend. -/
theorem Act.fails_of_eq {m : Act σ α} (h : ∀ w, ∃ a, (m.run w).1 = .ok a)
    (same : ∀ w, (m.run w).2.backend = w.backend) : m.Fails J P := by
  refine fun w known => ⟨(same w).symm ▸ known, fun f hf => ?_⟩
  obtain ⟨a, ok⟩ := h w
  cases ok.symm.trans hf

theorem Act.fails_pure (a : α) : (pure a : Act σ α).Fails J P :=
  Act.fails_of_eq (fun _ => ⟨a, rfl⟩) fun _ => rfl

theorem Act.fails_fail {f : Failure} (h : P f) : (Act.fail f : Act σ α).Fails J P :=
  fun w known => ⟨known, fun g hg => by cases hg; exact h⟩

theorem Act.fails_ofExcept {r : Except Failure α} (h : ∀ f, r = .error f → P f) :
    (Act.ofExcept r : Act σ α).Fails J P :=
  fun _ known => ⟨known, h⟩

theorem Act.Fails.mapFailure {m : Act σ α} (h : m.Fails J P) {g : Failure → Failure}
    (hg : ∀ f, P f → Q (g f)) : (m.mapFailure g).Fails J Q := by
  refine fun w known => ⟨(h w known).1, fun f hf => ?_⟩
  rw [Act.run_mapFailure] at hf
  rcases hrun : (m.run w).1 with e | a
  · rw [hrun] at hf
    cases hf
    exact hg e ((h w known).2 e hrun)
  · rw [hrun] at hf
    cases hf

theorem Act.Fails.bind {m : Act σ α} {f : α → Act σ β} (hm : m.Fails J P)
    (hf : ∀ a, (f a).Fails J P) : (m >>= f).Fails J P := by
  intro w known
  have first := hm w known
  rw [Act.run_bind]
  rcases hrun : m.run w with ⟨e | a, w'⟩
  all_goals rw [hrun] at first
  · refine ⟨first.1, fun g hg => ?_⟩
    cases hg
    exact first.2 e rfl
  · exact hf a w' first.1

theorem Act.fails_ask {b : Backend σ} (keeps : b.Keeps J)
    (h : ∀ c s f, J s → (b.answer c s).1 = .error f → P f) (c : Call) :
    (Act.ask b c).Fails J P :=
  fun w known => ⟨keeps c _ known, fun f hf => h c w.backend f known hf⟩

theorem Act.keeps_attempt_ask {b : Backend σ} (keeps : b.Keeps J) (c : Call) :
    (Act.ask b c).attempt.Keeps J := fun w known => keeps c w.backend known

theorem Act.fails_layers : (World.layers : Act σ Session).Fails J P :=
  Act.fails_of_eq (fun w => ⟨w.session, rfl⟩) fun _ => rfl

theorem Act.fails_numbers : (World.numbers : Act σ Issued).Fails J P :=
  Act.fails_of_eq (fun w => ⟨w.issued, rfl⟩) fun _ => rfl

theorem Act.fails_setLayers (f : Session → Session) :
    (World.setLayers f : Act σ Unit).Fails J P :=
  Act.fails_of_eq (fun _ => ⟨(), rfl⟩) fun _ => rfl

theorem Act.fails_setNumbers (f : Issued → Issued) :
    (World.setNumbers f : Act σ Unit).Fails J P :=
  Act.fails_of_eq (fun _ => ⟨(), rfl⟩) fun _ => rfl

theorem Act.fails_say (e : Log.Event) : (World.say e : Act σ Unit).Fails J P :=
  Act.fails_of_eq (fun _ => ⟨(), rfl⟩) fun _ => rfl

/-- A look-up fails if the file cannot be read or does not have the key. -/
theorem Act.fails_lookup (missing : ∀ what, P (.configMissing what)) (io : ∀ fault, P (.io fault))
    (name key : String) : (Act.lookup name key : Act σ String).Fails J P := by
  refine fun w known => ⟨known, fun f hf => ?_⟩
  rcases Config.lookup_error hf with ⟨what, rfl⟩ | ⟨fault, rfl⟩
  · exact missing what
  · exact io fault

end

end Rehearsal
