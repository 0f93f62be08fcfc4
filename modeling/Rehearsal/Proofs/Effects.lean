import Mathlib.Order.Defs.Unbundled
import Rehearsal.Proofs.Config.Reading
import Rehearsal.Session.Task

/-!
# What computations do to the world

Each primitive has one equation for its run. A computation is judged by the worlds before and after
it: a preorder between worlds that all parts of a computation keep is kept by the whole, whatever
the parts give and wherever a failure cuts it off.
-/
namespace Rehearsal

variable {σ α β : Type}

namespace Task

@[simp] theorem run_say (e : Log.Event) (w : World σ) :
    (World.say e : Task σ Unit).run w = ((), { w with log := w.log ++ [⟨e, w.span⟩] }) := rfl

@[simp] theorem run_layers (w : World σ) :
    (World.layers : Task σ Session).run w = (w.session, w) := rfl

@[simp] theorem run_setLayers (f : Session → Session) (w : World σ) :
    (World.setLayers f : Task σ Unit).run w = ((), { w with session := f w.session }) := rfl

@[simp] theorem run_clock (w : World σ) :
    (World.clock : Task σ Nat).run w = (w.waitedMs, w) := rfl

end Task

namespace Act

@[simp] theorem run_say (e : Log.Event) (w : World σ) :
    (World.say e : Act σ Unit).run w = (.ok (), { w with log := w.log ++ [⟨e, w.span⟩] }) := rfl

@[simp] theorem run_layers (w : World σ) :
    (World.layers : Act σ Session).run w = (.ok w.session, w) := rfl

@[simp] theorem run_setLayers (f : Session → Session) (w : World σ) :
    (World.setLayers f : Act σ Unit).run w = (.ok (), { w with session := f w.session }) := rfl

@[simp] theorem run_numbers (w : World σ) :
    (World.numbers : Act σ Issued).run w = (.ok w.issued, w) := rfl

@[simp] theorem run_setNumbers (f : Issued → Issued) (w : World σ) :
    (World.setNumbers f : Act σ Unit).run w = (.ok (), { w with issued := f w.issued }) := rfl

@[simp] theorem run_ask (b : Backend σ) (c : Call) (w : World σ) :
    (ask b c).run w = ((b.answer c w.backend).1,
      { w with
        backend := (b.answer c w.backend).2
        trace := w.trace ++ [⟨c, (b.answer c w.backend).1⟩] }) := rfl

@[simp] theorem run_lookup (name key : String) (w : World σ) :
    (lookup name key).run w = ((w.config.lookup w.surroundings name key).1,
      { w with
        config := (w.config.lookup w.surroundings name key).2.1
        log := w.log ++ (w.config.lookup w.surroundings name key).2.2.map (⟨·, w.span⟩) }) := rfl

/-- A look-up in a configuration that is loaded changes nothing. -/
theorem run_lookup_of_table {w : World σ} {t : Ini} (h : w.config.table = some t)
    (name key : String) : (lookup name key).run w = (Config.value t name key, w) := by
  have found : w.config.lookup w.surroundings name key = (Config.value t name key, w.config, []) := by
    rw [Config.lookup, Config.load_of_table h]
    rfl
  rw [run_lookup, found]
  simp

end Act

/-- The computation keeps a relation between the worlds before and after it. -/
def Task.Ensures (R : World σ → World σ → Prop) (m : Task σ α) : Prop :=
  ∀ w, R w (m.run w).2

/-- The same for a computation that may fail: the relation also holds where it fails. -/
def Act.Ensures (R : World σ → World σ → Prop) (m : Act σ α) : Prop :=
  ∀ w, R w (m.run w).2

section
variable {R S : World σ → World σ → Prop}

theorem Task.Ensures.mono {m : Task σ α} (h : m.Ensures R) (hRS : ∀ w w', R w w' → S w w') :
    m.Ensures S := fun w => hRS _ _ (h w)

theorem Act.Ensures.mono {m : Act σ α} (h : m.Ensures R) (hRS : ∀ w w', R w w' → S w w') :
    m.Ensures S := fun w => hRS _ _ (h w)

theorem Act.Ensures.attempt {m : Act σ α} (h : m.Ensures R) : m.attempt.Ensures R := h

theorem Act.Ensures.mapFailure {m : Act σ α} (h : m.Ensures R) (f : Failure → Failure) :
    (m.mapFailure f).Ensures R := h

theorem Task.Ensures.lift {m : Task σ α} (h : m.Ensures R) : (liftM m : Act σ α).Ensures R := h

theorem Task.ensures_pure [Std.Refl R] (a : α) : (pure a : Task σ α).Ensures R :=
  fun w => Std.Refl.refl w

theorem Act.ensures_pure [Std.Refl R] (a : α) : (pure a : Act σ α).Ensures R :=
  fun w => Std.Refl.refl w

theorem Act.ensures_fail [Std.Refl R] (f : Failure) : (Act.fail f : Act σ α).Ensures R :=
  fun w => Std.Refl.refl w

theorem Act.ensures_ofExcept [Std.Refl R] (r : Except Failure α) :
    (Act.ofExcept r : Act σ α).Ensures R :=
  fun w => Std.Refl.refl w

theorem Task.Ensures.bind [IsTrans _ R] {m : Task σ α} {f : α → Task σ β} (hm : m.Ensures R)
    (hf : ∀ a, (f a).Ensures R) : (m >>= f).Ensures R :=
  fun w => IsTrans.trans _ _ _ (hm w) (hf _ _)

theorem Act.run_bind_of_ok {m : Act σ α} {f : α → Act σ β} {w w' : World σ} {a : α}
    (h : m.run w = (.ok a, w')) : (m >>= f).run w = (f a).run w' := by
  rw [Act.run_bind, h]

theorem Act.run_bind_of_error {m : Act σ α} {f : α → Act σ β} {w w' : World σ} {e : Failure}
    (h : m.run w = (.error e, w')) : (m >>= f).run w = (.error e, w') := by
  rw [Act.run_bind, h]

/-- Both parts succeed where the whole does. -/
theorem Act.exists_of_run_bind_ok {m : Act σ α} {f : α → Act σ β} {w w' : World σ} {b : β}
    (h : (m >>= f).run w = (.ok b, w')) :
    ∃ a v, m.run w = (.ok a, v) ∧ (f a).run v = (.ok b, w') := by
  rw [Act.run_bind] at h
  rcases hrun : m.run w with ⟨_ | a, v⟩ <;> rw [hrun] at h
  · cases h
  · exact ⟨a, v, rfl, h⟩

/-- What follows matters only in the worlds that the first part can lead to. -/
theorem Act.run_bind_congr {m : Act σ α} {f g : α → Act σ β} {w : World σ}
    (h : ∀ a w', m.run w = (.ok a, w') → (f a).run w' = (g a).run w') :
    (m >>= f).run w = (m >>= g).run w := by
  rw [Act.run_bind, Act.run_bind]
  rcases hrun : m.run w with ⟨_ | a, w'⟩
  · rfl
  · exact h a w' hrun

/-- What follows need keep the relation only from the worlds that the first part can lead to. -/
theorem Act.bind_ensures [IsTrans _ R] {m : Act σ α} {f : α → Act σ β} {w : World σ}
    (hm : R w (m.run w).2)
    (hf : ∀ a w', m.run w = (.ok a, w') → R w' ((f a).run w').2) : R w ((m >>= f).run w).2 := by
  rw [Act.run_bind]
  rcases hrun : m.run w with ⟨_ | a, w'⟩
  · simpa only [hrun] using hm
  · have first : R w w' := by simpa only [hrun] using hm
    exact IsTrans.trans _ _ _ first (hf a w' hrun)

theorem Act.Ensures.bind [IsTrans _ R] {m : Act σ α} {f : α → Act σ β} (hm : m.Ensures R)
    (hf : ∀ a, (f a).Ensures R) : (m >>= f).Ensures R :=
  fun w => Act.bind_ensures (hm w) fun a w' _ => hf a w'

end

end Rehearsal
