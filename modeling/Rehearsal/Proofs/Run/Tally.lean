import Rehearsal.Proofs.Run.Cases

/-!
# The summary of a run

The cases of a summary are those that are selected, whatever becomes of them, and its counts and its
success are read off their outcomes. Cases may share their ids, so they are compared by position.
-/
namespace Rehearsal

variable {σ : Type}

/-- What tells which case an outcome is about. -/
def CaseOutcome.label (o : CaseOutcome) : String × String × String := (o.suiteId, o.caseId, o.name)

def Case.label (suite : Suite) (c : Case) : String × String × String := (suite.id, c.id, c.name)

namespace Selection

/-- By induction on the suites. -/
theorem selected_sublist (sel : Selection) (suites : List Suite) :
    ((sel.selected suites).map Prod.snd).Sublist (suites.flatMap (·.cases)) := by
  induction suites with
  | nil => exact .slnil
  | cons suite rest ih =>
    rw [List.flatMap_cons]
    by_cases h : sel.includesSuite suite
    · have cases : (((suite.cases.filter sel.includesCase).map (suite, ·)).map Prod.snd) =
          suite.cases.filter sel.includesCase := by
        simp [Function.comp_def]
      rw [selected_cons_of_includes rest h, List.map_append, cases]
      exact List.filter_sublist.append ih
    · rw [selected_cons_of_excludes rest h]
      exact ih.trans (List.sublist_append_right _ _)

theorem length_selected_le (sel : Selection) (s : Scenario) :
    (sel.selected s.suites).length ≤ s.caseCount := by
  simpa [Scenario.caseCount] using (sel.selected_sublist s.suites).length_le

/-- The empty selection admits every case. -/
theorem selected_empty (suites : List Suite) : ({} : Selection).selected suites =
    suites.flatMap fun suite => suite.cases.map (suite, ·) := by
  have suite : ({} : Selection).includesSuite = fun _ => true := rfl
  have case : ({} : Selection).includesCase = fun _ => true := rfl
  simp [selected, suite, case]

theorem length_selected_empty (s : Scenario) :
    (({} : Selection).selected s.suites).length = s.caseCount := by
  simp [selected_empty, Scenario.caseCount, List.length_flatMap]

end Selection

variable (b : Backend σ)

namespace Run

theorem label_runCase (suite : Suite) (c : Case) (w : World σ) :
    ((runCase b suite c).run w).1.label = c.label suite := by
  obtain ⟨_, _, _, _, _, _, _, _, outcome⟩ := runCase_parts b suite c w
  rw [outcome]
  rfl

theorem isTerminal_runCase (suite : Suite) (c : Case) (w : World σ) :
    ((runCase b suite c).run w).1.status.isTerminal := by
  obtain ⟨_, _, failure, _, _, _, _, _, outcome⟩ := runCase_parts b suite c w
  rw [outcome]
  cases failure with
  | none => rfl
  | some f => rfl

end Run

/-- The counts and the success of a summary agree with its cases. -/
structure Summary.Consistent (m : Summary) : Prop where
  total : m.total = m.cases.length
  passed : m.passed = m.cases.countP (·.status = .passed)
  passed_le : m.passed ≤ m.total
  sum : m.total = m.passed + m.failed
  success_iff : m.success ↔ ∀ o ∈ m.cases, o.status = .passed

namespace Run

theorem tally_consistent (stamp : Stamp) (ms : Nat) (os : List CaseOutcome) :
    (tally stamp ms os).Consistent := by
  have passed_le : (tally stamp ms os).passed ≤ os.length := List.length_filter_le _ _
  have sum : os.length = (tally stamp ms os).passed + (tally stamp ms os).failed :=
    (Nat.add_sub_cancel' passed_le).symm
  have all_passed : (os.filter (·.passed)).length = os.length ↔ ∀ o ∈ os, o.status = .passed := by
    rw [List.length_filter_eq_length_iff]
    simp [CaseOutcome.passed]
  refine ⟨rfl, List.countP_eq_length_filter.symm, passed_le, sum, ?_⟩
  refine Iff.trans ?_ all_passed
  change decide ((tally stamp ms os).failed = 0) = true ↔ (tally stamp ms os).passed = os.length
  rw [decide_eq_true_iff]
  omega

/-- Each case leaves its outcome at its own position. -/
theorem run_labels (stamp : Stamp) (sel : Selection) (s : Scenario) (w : World σ) :
    ((run b stamp sel s).run w).1.cases.map (·.label) =
      (sel.selected s.suites).map fun (suite, c) => c.label suite := by
  obtain ⟨ds, u, ms, runs, _, summary⟩ := run_parts b stamp sel s w
  rw [summary]
  exact runs.map_result fun p => label_runCase b p.1 p.2

theorem run_isTerminal (stamp : Stamp) (sel : Selection) (s : Scenario) (w : World σ) :
    ∀ o ∈ ((run b stamp sel s).run w).1.cases, o.status.isTerminal :=
  forall_run (isTerminal_runCase b) stamp sel s w

theorem run_consistent (stamp : Stamp) (sel : Selection) (s : Scenario) (w : World σ) :
    ((run b stamp sel s).run w).1.Consistent := by
  obtain ⟨ds, u, ms, _, _, summary⟩ := run_parts b stamp sel s w
  rw [summary]
  exact tally_consistent stamp ms _

theorem total_run (stamp : Stamp) (sel : Selection) (s : Scenario) (w : World σ) :
    ((run b stamp sel s).run w).1.total = (sel.selected s.suites).length := by
  rw [(run_consistent b stamp sel s w).total]
  simpa using congrArg List.length (run_labels b stamp sel s w)

/-- The summary of a run lists the outcomes of the selected cases in their order, each ended, and its
counts are those of the list. -/
theorem run_summary (stamp : Stamp) (sel : Selection) (s : Scenario) (w : World σ) :
    let m := ((run b stamp sel s).run w).1
    m.cases.map (·.label) = (sel.selected s.suites).map (fun (suite, c) => c.label suite) ∧
    (∀ o ∈ m.cases, o.status = .passed ∨ o.status = .failed) ∧
    m.Consistent ∧ m.total = (sel.selected s.suites).length ∧ m.total ≤ s.caseCount ∧
    ((run b stamp {} s).run w).1.total = s.caseCount := by
  intro m
  refine ⟨run_labels b stamp sel s w, ?_, run_consistent b stamp sel s w,
    total_run b stamp sel s w, ?_, ?_⟩
  · intro o ho
    have terminal := run_isTerminal b stamp sel s w o ho
    cases h : o.status with
    | pending => simp [h, CaseStatus.isTerminal] at terminal
    | running => simp [h, CaseStatus.isTerminal] at terminal
    | passed => exact .inl rfl
    | failed => exact .inr rfl
  · exact (total_run b stamp sel s w).le.trans (sel.length_selected_le s)
  · exact (total_run b stamp {} s w).trans (Selection.length_selected_empty s)

end Run

end Rehearsal
