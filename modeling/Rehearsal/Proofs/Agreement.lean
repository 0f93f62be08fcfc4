import Rehearsal.Proofs.Effects

/-!
# Computations that agree

Two computations, each on worlds of its own, agree if they give the same result from worlds that are
related, and leave worlds that are related again. Where they may fail, success and failure can leave
different relations behind, since what follows a failure is left out on both sides.
-/
namespace Rehearsal

variable {σ τ α β : Type}

def Task.Agree (P Q : World σ → World τ → Prop) (m : Task σ α) (m' : Task τ α) : Prop :=
  ∀ w w', P w w' → (m.run w).1 = (m'.run w').1 ∧ Q (m.run w).2 (m'.run w').2

/-- Success leads from `P` to `Q` and failure to `E`. -/
def Act.Agree (E P Q : World σ → World τ → Prop) (m : Act σ α) (m' : Act τ α) : Prop :=
  ∀ w w', P w w' → (m.run w).1 = (m'.run w').1 ∧
    (if (m.run w).1.isOk then Q else E) (m.run w).2 (m'.run w').2

section
variable {E P Q S : World σ → World τ → Prop}

namespace Task.Agree

variable {m : Task σ α} {m' : Task τ α}

theorem mono {P' Q' : World σ → World τ → Prop} (h : m.Agree P Q m')
    (hP : ∀ w w', P' w w' → P w w') (hQ : ∀ w w', Q w w' → Q' w w') : m.Agree P' Q' m' := by
  intro w w' start
  obtain ⟨same, final⟩ := h w w' (hP w w' start)
  exact ⟨same, hQ _ _ final⟩

theorem of_pure (a : α) : (pure a : Task σ α).Agree P P (pure a) :=
  fun _ _ start => ⟨rfl, start⟩

theorem bind {f : α → Task σ β} {f' : α → Task τ β} (hm : m.Agree P Q m')
    (hf : ∀ a, (f a).Agree Q S (f' a)) : (m >>= f).Agree P S (m' >>= f') := by
  intro w w' start
  obtain ⟨same, middle⟩ := hm w w' start
  rw [Task.run_bind, Task.run_bind, ← same]
  exact hf _ _ _ middle

theorem lift (h : m.Agree P Q m') : (liftM m : Act σ α).Agree E P Q (liftM m') := by
  intro w w' start
  obtain ⟨same, final⟩ := h w w' start
  exact ⟨congrArg Except.ok same, final⟩

end Task.Agree

namespace Act.Agree

variable {m : Act σ α} {m' : Act τ α}

/-- Both succeed with the same value, or both fail in the same way. -/
theorem cases {w : World σ} {w' : World τ} (h : m.Agree E P Q m') (start : P w w') :
    (∃ a v v', m.run w = (.ok a, v) ∧ m'.run w' = (.ok a, v') ∧ Q v v') ∨
    ∃ f v v', m.run w = (.error f, v) ∧ m'.run w' = (.error f, v') ∧ E v v' := by
  have both := h w w' start
  rcases hrun : m.run w with ⟨f | a, v⟩
  all_goals
    rcases hrun' : m'.run w' with ⟨r, v'⟩
    rw [hrun, hrun'] at both
    obtain ⟨rfl, final⟩ := both
  · exact .inr ⟨f, v, v', rfl, rfl, final⟩
  · exact .inl ⟨a, v, v', rfl, rfl, final⟩

theorem mono {P' Q' : World σ → World τ → Prop} (h : m.Agree E P Q m')
    (hP : ∀ w w', P' w w' → P w w') (hQ : ∀ w w', Q w w' → Q' w w') : m.Agree E P' Q' m' := by
  intro w w' start
  rcases h.cases (hP w w' start) with ⟨a, v, v', run, run', final⟩ | ⟨f, v, v', run, run', final⟩
  · rw [run, run']
    exact ⟨rfl, hQ v v' final⟩
  · rw [run, run']
    exact ⟨rfl, final⟩

theorem weaken {E' : World σ → World τ → Prop} (h : m.Agree E P Q m')
    (hE : ∀ w w', E w w' → E' w w') : m.Agree E' P Q m' := by
  intro w w' start
  rcases h.cases start with ⟨a, v, v', run, run', final⟩ | ⟨f, v, v', run, run', final⟩
  · rw [run, run']
    exact ⟨rfl, final⟩
  · rw [run, run']
    exact ⟨rfl, hE v v' final⟩

theorem of_pure (a : α) (h : ∀ w w', P w w' → Q w w') : (pure a : Act σ α).Agree E P Q (pure a) :=
  fun w w' start => ⟨rfl, h w w' start⟩

theorem of_fail (f : Failure) (h : ∀ w w', P w w' → E w w') :
    (Act.fail f : Act σ α).Agree E P Q (Act.fail f) :=
  fun w w' start => ⟨rfl, h w w' start⟩

theorem of_ofExcept (r : Except Failure α) (h : ∀ w w', P w w' → E w w') :
    (Act.ofExcept r : Act σ α).Agree E P P (Act.ofExcept r) := by
  intro w w' start
  cases r with
  | ok a => exact ⟨rfl, start⟩
  | error f => exact ⟨rfl, h w w' start⟩

theorem bind {f : α → Act σ β} {f' : α → Act τ β} (hm : m.Agree E P Q m')
    (hf : ∀ a, (f a).Agree E Q S (f' a)) : (m >>= f).Agree E P S (m' >>= f') := by
  intro w w' start
  rw [Act.run_bind, Act.run_bind]
  rcases hm.cases start with ⟨a, v, v', run, run', middle⟩ | ⟨f, v, v', run, run', final⟩
  · rw [run, run']
    exact hf a v v' middle
  · rw [run, run']
    exact ⟨rfl, final⟩

theorem attempt (h : m.Agree E P Q m') (hQ : ∀ w w', Q w w' → E w w') :
    m.attempt.Agree P E m'.attempt := by
  intro w w' start
  rw [Act.run_attempt, Act.run_attempt]
  rcases h.cases start with ⟨a, v, v', run, run', final⟩ | ⟨f, v, v', run, run', final⟩
  · rw [run, run']
    exact ⟨rfl, hQ v v' final⟩
  · rw [run, run']
    exact ⟨rfl, final⟩

theorem of_attempt (h : m.attempt.Agree P Q m'.attempt) : m.Agree Q P Q m' := by
  intro w w' start
  obtain ⟨same, final⟩ := h w w' start
  exact ⟨same, by rwa [ite_self]⟩

theorem mapFailure (h : m.Agree E P Q m') (g : Failure → Failure) :
    (m.mapFailure g).Agree E P Q (m'.mapFailure g) := by
  intro w w' start
  rw [Act.run_mapFailure, Act.run_mapFailure]
  rcases h.cases start with ⟨a, v, v', run, run', final⟩ | ⟨f, v, v', run, run', final⟩
  all_goals
    rw [run, run']
    exact ⟨rfl, final⟩

/-- Computations in a row, one for each element. -/
theorem forM {ι : Type} {f : ι → Act σ Unit} {f' : ι → Act τ Unit} (xs : List ι)
    (h : ∀ x ∈ xs, (f x).Agree E P P (f' x)) :
    (List.forM xs f).Agree E P P (List.forM xs f') := by
  induction xs with
  | nil => exact .of_pure () fun _ _ => id
  | cons x xs ih =>
    rw [List.forall_mem_cons] at h
    exact h.1.bind fun _ => ih h.2

end Act.Agree

end

end Rehearsal
