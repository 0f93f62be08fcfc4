import Rehearsal.Proofs.Run.Moves
import Rehearsal.Proofs.Run.Sequence

/-!
# Cases one after the other

A case acquires its session, runs its steps and releases its session; a run does this for each case
that is selected, in order. Between these parts only the log changes.
-/
namespace Rehearsal

variable {σ : Type}

/-- The cases that are selected, each with its suite, in the order in which they are written. -/
def Selection.selected (sel : Selection) (suites : List Suite) : List (Suite × Case) :=
  (suites.filter sel.includesSuite).flatMap fun suite =>
    (suite.cases.filter sel.includesCase).map (suite, ·)

namespace Selection

theorem selected_cons_of_includes {sel : Selection} {suite : Suite} (rest : List Suite)
    (h : sel.includesSuite suite) : sel.selected (suite :: rest) =
      (suite.cases.filter sel.includesCase).map (suite, ·) ++ sel.selected rest := by
  simp [selected, h]

theorem selected_cons_of_excludes {sel : Selection} {suite : Suite} (rest : List Suite)
    (h : ¬ sel.includesSuite suite) : sel.selected (suite :: rest) = sel.selected rest := by
  simp [selected, h]

end Selection

variable (b : Backend σ)

namespace Run

/-- What a case does before it releases its session: it acquires one and then tries its steps. -/
def tried (c : Case) : Task σ (List StepOutcome × Option Failure) := do
  match ← (Session.create b).attempt with
  | .ok _ => runSteps b 1 c.steps
  | .error f => pure ([], some f)

theorem run_tried_of_error {c : Case} {w v : World σ} {f : Failure}
    (failed : (Session.create b).run w = (.error f, v)) :
    (tried b c).run w = (([], some f), v) := by
  rw [tried, Task.run_bind, Act.run_attempt, failed]
  rfl

theorem run_tried_of_ok {c : Case} {w v : World σ} (created : (Session.create b).run w = (.ok (), v)) :
    (tried b c).run w = (runSteps b 1 c.steps).run v := by
  rw [tried, Task.run_bind, Act.run_attempt, created]

/-- What a case does after it released its session: it logs how it ended, and gives its outcome. -/
def concluded (suite : Suite) (c : Case) (started : Nat) (steps : List StepOutcome)
    (failure : Option Failure) : Task σ CaseOutcome := do
  match failure with
  | none => World.say (.casePassed c.name)
  | some f =>
    World.say (.caseFailed c.name f)
    World.say (.caseFailureDetail f)
  let durationMs := (← World.clock) - started
  let status := if failure.isSome then .failed else .passed
  return ⟨suite.id, c.id, c.name, status, durationMs, steps, failure.map Failure.note⟩

theorem runCase_eq (suite : Suite) (c : Case) : runCase b suite c = (do
    World.say (.caseStarted c.name)
    let started ← World.clock
    let (steps, failure) ← tried b c
    Session.finish b
    concluded suite c started steps failure) := by
  refine bind_congr fun _ => bind_congr fun started => ?_
  rw [tried, bind_assoc]
  refine bind_congr fun created => ?_
  cases created with
  | ok _ => rfl
  | error f => rfl

theorem concluded_quiet (suite : Suite) (c : Case) (started : Nat) (steps : List StepOutcome)
    (failure : Option Failure) :
    (concluded suite c started steps failure : Task σ CaseOutcome).Ensures World.Quiet := by
  intro w
  cases failure with
  | none => exact ⟨_, _, rfl⟩
  | some f => exact ⟨_, _, rfl⟩

theorem concluded_outcome (suite : Suite) (c : Case) (started : Nat) (steps : List StepOutcome)
    (failure : Option Failure) (w : World σ) : ((concluded suite c started steps failure).run w).1 =
      { suiteId := suite.id, caseId := c.id, name := c.name, durationMs := w.waitedMs - started
        status := if failure.isSome then .failed else .passed, steps
        error := failure.map Failure.note } := by
  cases failure with
  | none => rfl
  | some f => rfl

/-- A case logs that it starts, tries its steps, releases its session and then concludes. -/
theorem run_runCase (suite : Suite) (c : Case) (w : World σ) : (runCase b suite c).run w =
    let r := (tried b c).run { w with log := w.log ++ [⟨.caseStarted c.name, w.span⟩] }
    (concluded suite c w.waitedMs r.1.1 r.1.2).run ((Session.finish b).run r.2).2 := by
  simp only [runCase_eq, Task.run_bind, Task.run_say, Task.run_clock]

/-- A case that gets no session fails for the reason that there was for that. -/
theorem runCase_of_not_created (suite : Suite) (c : Case) {w v : World σ} {f : Failure}
    (failed : (Session.create b).run { w with log := w.log ++ [⟨.caseStarted c.name, w.span⟩] } =
      (.error f, v)) : ((runCase b suite c).run w).1.error = some f.note := by
  rw [run_runCase]
  dsimp only
  rw [run_tried_of_error b failed, concluded_outcome]
  rfl

/-- The outcome of a case is read off what was tried. The release of the session has no part in it,
and nothing but the log changes before and after. -/
theorem runCase_parts (suite : Suite) (c : Case) (w : World σ) : ∃ u steps failure v ms,
    w.Quiet u ∧ (tried b c).run u = ((steps, failure), v) ∧
    ((Session.finish b).run v).2.Quiet ((runCase b suite c).run w).2 ∧
    ((runCase b suite c).run w).1 =
      { suiteId := suite.id, caseId := c.id, name := c.name, durationMs := ms, steps
        status := if failure.isSome then .failed else .passed
        error := failure.map Failure.note } := by
  let u : World σ := { w with log := w.log ++ [⟨.caseStarted c.name, w.span⟩] }
  rcases htried : (tried b c).run u with ⟨⟨steps, failure⟩, v⟩
  let v' := ((Session.finish b).run v).2
  have hrun : (runCase b suite c).run w =
      (concluded suite c w.waitedMs steps failure).run v' := by
    rw [run_runCase]
    simp only [u] at htried
    simp only [htried, v']
  refine ⟨u, steps, failure, v, v'.waitedMs - w.waitedMs, ⟨_, _, rfl⟩, htried, ?_, ?_⟩
  · rw [hrun]
    exact concluded_quiet suite c w.waitedMs steps failure v'
  · rw [hrun]
    exact concluded_outcome suite c w.waitedMs steps failure v'

/-- What is tried first releases what is still held of a context and a page, and from then on asks
for layers and calls pages only. -/
theorem tried_moves (c : Case) (w : World σ) :
    World.Moves (Call.Spares .page) ((Session.finish b).run w).2 ((tried b c).run w).2 := by
  have created : (Session.create b).run w = (Session.ensurePage b).run ((Session.finish b).run w).2 :=
    rfl
  have moves := Session.ensurePage_moves b ((Session.finish b).run w).2
  rw [tried, Task.run_bind, Act.run_attempt, created]
  rcases hrun : (Session.ensurePage b).run ((Session.finish b).run w).2 with ⟨f | _, v⟩
  all_goals rw [hrun] at moves
  · exact moves
  · exact IsTrans.trans _ _ _ moves (runSteps_moves b 1 c.steps v)

theorem runCase_moves (suite : Suite) (c : Case) :
    (runCase b suite c).Ensures (World.Moves (Call.Spares .context)) := by
  intro w
  obtain ⟨u, steps, failure, v, _, before, htried, after, _⟩ := runCase_parts b suite c w
  have first := (Session.finish_moves b u).mono fun _ => Call.Frees.spares
  have middle := (tried_moves b c u).mono fun _ => Call.Spares.mono (k := .context) (by decide)
  have last := (Session.finish_moves b v).mono fun _ => Call.Frees.spares
  rw [htried] at middle
  exact IsTrans.trans _ _ _ before.moves (IsTrans.trans _ _ _ first
    (IsTrans.trans _ _ _ middle (IsTrans.trans _ _ _ last after.moves)))

end Run

/-- Cases are run one after the other. -/
abbrev CaseRuns : World σ → List (Suite × Case) → List (Done CaseOutcome) → World σ → Prop :=
  Sequence fun p => (Run.runCase b p.1 p.2).run

variable {b} in
theorem CaseRuns.spares {w w' : World σ} {cs : List (Suite × Case)} {ds : List (Done CaseOutcome)}
    (runs : CaseRuns b w cs ds w') : World.Moves (Call.Spares .context) w w' :=
  runs.moves fun p => Run.runCase_moves b p.1 p.2

namespace Run

theorem run_runCases_of_excludes {sel : Selection} (suite : Suite) {c : Case} (rest : List Case)
    (h : ¬ sel.includesCase c) (w : World σ) : (runCases b sel suite (c :: rest)).run w =
      (runCases b sel suite rest).run { w with log := w.log ++ [⟨.caseSkipped c.id, w.span⟩] } := by
  rw [runCases, if_neg h]
  rfl

theorem runCases_caseRuns (sel : Selection) (suite : Suite) (cs : List Case) (w : World σ) :
    ∃ ds, CaseRuns b w ((cs.filter sel.includesCase).map (suite, ·)) ds
        ((runCases b sel suite cs).run w).2 ∧
      ((runCases b sel suite cs).run w).1 = ds.map (·.result) := by
  induction cs generalizing w with
  | nil => exact ⟨[], .nil (Std.Refl.refl w), rfl⟩
  | cons c rest ih =>
    by_cases h : sel.includesCase c
    · rcases hrun : (runCase b suite c).run { w with span := some ⟨suite.id, c.id⟩ } with ⟨outcome, v⟩
      obtain ⟨t, trace, _⟩ := runCase_moves b suite c { w with span := some ⟨suite.id, c.id⟩ }
      rw [hrun] at trace
      let v' : World σ := { v with span := w.span }
      obtain ⟨ds, runs, outcomes⟩ := ih v'
      have start : (runCases b sel suite (c :: rest)).run w =
          (outcome :: ((runCases b sel suite rest).run v').1,
            ((runCases b sel suite rest).run v').2) := by
        simp only [runCases, h, if_true, Task.run_bind, Task.run_within, hrun, Task.run_pure, v']
      have selected : (c :: rest).filter sel.includesCase = c :: rest.filter sel.includesCase := by
        simp [h]
      rw [start, selected, List.map_cons]
      refine ⟨⟨outcome, t⟩ :: ds, ?_, by rw [List.map_cons, ← outcomes]⟩
      exact .cons ⟨_, _, rfl⟩ hrun trace (.of_quiet ⟨_, _, rfl⟩ runs)
    · obtain ⟨ds, runs, outcomes⟩ := ih { w with log := w.log ++ [⟨.caseSkipped c.id, w.span⟩] }
      have selected : (c :: rest).filter sel.includesCase = rest.filter sel.includesCase := by
        simp [h]
      rw [run_runCases_of_excludes b suite rest h, selected]
      exact ⟨ds, .of_quiet ⟨_, _, rfl⟩ runs, outcomes⟩

theorem runSuites_caseRuns (sel : Selection) (suites : List Suite) (w : World σ) :
    ∃ ds, CaseRuns b w (sel.selected suites) ds ((runSuites b sel suites).run w).2 ∧
      ((runSuites b sel suites).run w).1 = ds.map (·.result) := by
  induction suites generalizing w with
  | nil => exact ⟨[], .nil (Std.Refl.refl w), rfl⟩
  | cons suite rest ih =>
    by_cases h : sel.includesSuite suite
    · let u : World σ := { w with log := w.log ++ [⟨.suiteStarted suite.name, w.span⟩] }
      obtain ⟨ds, runs, outcomes⟩ := runCases_caseRuns b sel suite suite.cases u
      rcases hrun : (runCases b sel suite suite.cases).run u with ⟨found, v⟩
      rw [hrun] at runs outcomes
      obtain ⟨es, more, others⟩ := ih v
      have start : (runSuites b sel (suite :: rest)).run w =
          (found ++ ((runSuites b sel rest).run v).1, ((runSuites b sel rest).run v).2) := by
        simp only [u] at hrun
        simp only [runSuites, h, if_true, runSuite, Task.run_bind, Task.run_say, hrun,
          Task.run_pure]
      rw [start, Selection.selected_cons_of_includes rest h]
      refine ⟨ds ++ es, .of_quiet ⟨_, _, rfl⟩ (runs.append more), ?_⟩
      rw [List.map_append, ← outcomes, ← others]
    · rw [runSuites, if_neg h, Selection.selected_cons_of_excludes rest h]
      exact ih w

/-- A run is its cases and then the release of the whole session. -/
theorem run_parts (stamp : Stamp) (sel : Selection) (s : Scenario) (w : World σ) : ∃ ds u ms,
    CaseRuns b w (sel.selected s.suites) ds u ∧
    ((Session.close b).run u).2.Quiet ((run b stamp sel s).run w).2 ∧
    ((run b stamp sel s).run w).1 = tally stamp ms (ds.map (·.result)) := by
  obtain ⟨ds, runs, outcomes⟩ := runSuites_caseRuns b sel s.suites w
  rcases hrun : (runSuites b sel s.suites).run w with ⟨found, u⟩
  rw [hrun] at runs outcomes
  refine ⟨ds, u, ((Session.close b).run u).2.waitedMs - w.waitedMs, runs, ?_, ?_⟩
  · simp only [run, Task.run_bind, Task.run_clock, hrun, Task.run_say]
    exact ⟨_, _, rfl⟩
  · simp only [run, Task.run_bind, Task.run_clock, hrun, Task.run_pure, outcomes]

variable {b} in
/-- What holds of the outcome of every case, in whatever world it is run, holds of the cases of a run. -/
theorem forall_run {P : CaseOutcome → Prop} (each : ∀ suite c w, P ((runCase b suite c).run w).1)
    (stamp : Stamp) (sel : Selection) (s : Scenario) (w : World σ) :
    ∀ o ∈ ((run b stamp sel s).run w).1.cases, P o := by
  obtain ⟨ds, u, ms, runs, _, summary⟩ := run_parts b stamp sel s w
  rw [summary]
  intro o ho
  obtain ⟨d, hd, rfl⟩ := List.mem_map.mp ho
  exact runs.forall_result (fun p => each p.1 p.2) d hd

end Run

/-- The world in which a case begins if it is the first of its suite that is not skipped. -/
def World.reaching (suite : Suite) (skipped : List Case) (c : Case) (w : World σ) : World σ :=
  { w with
    log := w.log ++ ⟨.suiteStarted suite.name, w.span⟩ ::
      skipped.map fun other => ⟨.caseSkipped other.id, w.span⟩
    span := some ⟨suite.id, c.id⟩ }

/-- A run that comes to a single case, which is the last of the only suite. By induction on the cases
that are skipped. -/
theorem Run.run_of_last {sel : Selection} {suite : Suite} (chosen : sel.includesSuite suite)
    {skipped : List Case} {c : Case} (cases : suite.cases = skipped ++ [c])
    (others : ∀ other ∈ skipped, ¬ sel.includesCase other) (taken : sel.includesCase c) (stamp : Stamp)
    (w : World σ) : ((run b stamp sel ⟨[suite]⟩).run w).1.cases =
      [((runCase b suite c).run (w.reaching suite skipped c)).1] := by
  have last (before : List Log.Entry) :
      ((runCases b sel suite (skipped ++ [c])).run { w with log := before }).1 =
        [((runCase b suite c).run { w with
          log := before ++ skipped.map fun other => ⟨.caseSkipped other.id, w.span⟩
          span := some ⟨suite.id, c.id⟩ }).1] := by
    clear cases
    induction skipped generalizing before with
    | nil =>
      rw [List.nil_append, runCases, if_pos taken, List.map_nil, List.append_nil]
      rfl
    | cons other rest ih =>
      rw [List.cons_append, run_runCases_of_excludes b suite _ (others other List.mem_cons_self),
        ih fun c hc => others c (List.mem_cons_of_mem _ hc)]
      simp only [List.map_cons, List.append_assoc, List.singleton_append]
  have whole : ((run b stamp sel ⟨[suite]⟩).run w).1.cases = ((runSuites b sel [suite]).run w).1 := rfl
  have started : ((runSuite b sel suite).run w).1 = ((runCases b sel suite suite.cases).run
      { w with log := w.log ++ [⟨.suiteStarted suite.name, w.span⟩] }).1 := rfl
  rw [whole, runSuites, if_pos chosen]
  refine (List.append_nil _).trans (started.trans ?_)
  rw [cases, last]
  simp only [World.reaching, List.append_assoc, List.singleton_append]

end Rehearsal
