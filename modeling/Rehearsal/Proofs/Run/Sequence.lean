import Mathlib.Data.List.Forall2
import Rehearsal.Proofs.Effects
import Rehearsal.Proofs.Session.Moves

/-!
# One thing after the other

The steps of a case and the cases of a run are both carried out in sequence. Each is carried out once
and leaves its result and its exchanges with the backend; in between only the log changes.
-/
namespace Rehearsal

variable {σ : Type}

namespace World

/-- Nothing changed but the log and the span. -/
def Quiet (w w' : World σ) : Prop := ∃ log span, w' = { w with log, span }

instance : IsPreorder (World σ) Quiet where
  refl w := ⟨w.log, w.span, rfl⟩
  trans u v w := by
    rintro ⟨_, _, rfl⟩ ⟨log, span, rfl⟩
    exact ⟨log, span, rfl⟩

theorem Quiet.moves {P : Call → Prop} {w w' : World σ} (quiet : Quiet w w') : Moves P w w' := by
  obtain ⟨log, span, rfl⟩ := quiet
  exact moves_of_eq rfl rfl

theorem Quiet.trace {w w' : World σ} (quiet : Quiet w w') : w'.trace = w.trace := by
  obtain ⟨log, span, rfl⟩ := quiet
  rfl

theorem Quiet.session {w w' : World σ} (quiet : Quiet w w') : w'.session = w.session := by
  obtain ⟨log, span, rfl⟩ := quiet
  rfl

theorem Quiet.backend {w w' : World σ} (quiet : Quiet w w') : w'.backend = w.backend := by
  obtain ⟨log, span, rfl⟩ := quiet
  rfl

end World

/-- What is left of something that was carried out. -/
structure Done (ρ : Type) where
  result : ρ
  calls : List Exchange

inductive Sequence {ι ρ : Type} (m : ι → World σ → ρ × World σ) :
    World σ → List ι → List (Done ρ) → World σ → Prop
  | nil {w w' : World σ} : w.Quiet w' → Sequence m w [] [] w'
  | cons {w u v w' : World σ} {i : ι} {is : List ι} {d : Done ρ} {ds : List (Done ρ)} : w.Quiet u →
      m i u = (d.result, v) → v.trace = u.trace ++ d.calls → Sequence m v is ds w' →
      Sequence m w (i :: is) (d :: ds) w'

namespace Sequence

variable {ι ρ : Type} {m : ι → World σ → ρ × World σ} {w v w' : World σ} {is js : List ι}
  {ds es : List (Done ρ)}

theorem of_quiet (quiet : w.Quiet v) (done : Sequence m v is ds w') : Sequence m w is ds w' := by
  cases done with
  | nil quiet' => exact .nil (IsTrans.trans _ _ _ quiet quiet')
  | cons quiet' run trace rest => exact .cons (IsTrans.trans _ _ _ quiet quiet') run trace rest

theorem append (done : Sequence m w is ds v) (more : Sequence m v js es w') :
    Sequence m w (is ++ js) (ds ++ es) w' := by
  induction done with
  | nil quiet => exact of_quiet quiet more
  | cons quiet run trace _ ih => exact .cons quiet run trace (ih more)

theorem trace_eq (done : Sequence m w is ds w') :
    w'.trace = w.trace ++ ds.flatMap (·.calls) := by
  induction done with
  | nil quiet => simpa using quiet.trace
  | cons quiet _ trace _ ih => rw [ih, trace, quiet.trace, List.flatMap_cons, List.append_assoc]

/-- What each part does keeps a relation, so the sequence does. -/
theorem moves {P : Call → Prop} (done : Sequence m w is ds w')
    (each : ∀ i w, World.Moves P w (m i w).2) : World.Moves P w w' := by
  induction done with
  | nil quiet => exact quiet.moves
  | @cons w u v w' i is d ds quiet run _ _ ih =>
    have first := each i u
    rw [run] at first
    exact IsTrans.trans _ _ _ quiet.moves (IsTrans.trans _ _ _ first ih)

/-- What holds of each part where it is carried out holds of all of them, if what it takes outlasts
each part and does not hang on the log. By induction on the parts. -/
theorem forall₂ {I : World σ → Prop} {Q : ι → Done ρ → Prop} (done : Sequence m w is ds w')
    (quiet : ∀ w u, World.Quiet w u → I w → I u)
    (each : ∀ i ∈ is, ∀ u d v, m i u = (d.result, v) → v.trace = u.trace ++ d.calls → I u →
      Q i d ∧ I v)
    (start : I w) : List.Forall₂ Q is ds ∧ I w' := by
  induction done with
  | nil hquiet => exact ⟨.nil, quiet _ _ hquiet start⟩
  | @cons w u v w' i is d ds hquiet run trace _ ih =>
    obtain ⟨here, others⟩ := List.forall_mem_cons.mp each
    obtain ⟨first, known⟩ := here u d v run trace (quiet w u hquiet start)
    obtain ⟨rest, final⟩ := ih others known
    exact ⟨.cons first rest, final⟩

/-- What holds of every result, in whatever world it was obtained, holds of these. -/
theorem forall_result {P : ρ → Prop} (done : Sequence m w is ds w') (each : ∀ i w, P (m i w).1) :
    ∀ d ∈ ds, P d.result := by
  induction done with
  | nil _ => simp
  | @cons w u v w' i is d ds _ run _ _ ih =>
    have first := each i u
    rw [run] at first
    exact List.forall_mem_cons.mpr ⟨first, ih⟩

/-- The results stand at the positions of what they are results of. -/
theorem map_result {α : Type} {f : ι → α} {g : ρ → α} (done : Sequence m w is ds w')
    (each : ∀ i w, g (m i w).1 = f i) : (ds.map (·.result)).map g = is.map f := by
  induction done with
  | nil _ => rfl
  | @cons w u v w' i is d ds _ run _ _ ih =>
    have first := each i u
    rw [run] at first
    simp only [List.map_cons, ih, first]

end Sequence

end Rehearsal
