import Rehearsal.Proofs.Config.Overhearing
import Rehearsal.Proofs.Run.Agreement
import Rehearsal.Proofs.Run.Cases
import Rehearsal.Proofs.Session.Attempts
import Rehearsal.Session.Scripted

/-!
# Selecting is pruning

To run a selection of a scenario is to run the scenario that consists of what is selected. The two runs
do the same in the same order; only the log of the first one says besides which cases were skipped. Where
that can be read as the configuration the two may part: `Run.configured_by_skipped_case`.
-/
namespace Rehearsal

variable {σ : Type}

/-- The scenario of what is selected: all other suites, and all other cases of its suites, are
deleted. -/
def Selection.prune (sel : Selection) (s : Scenario) : Scenario :=
  ⟨(s.suites.filter sel.includesSuite).map fun suite =>
    { suite with cases := suite.cases.filter sel.includesCase }⟩

/-- The log says that a case was skipped. -/
def Log.Event.isSkip (e : Event) : Bool := e matches .caseSkipped _

namespace World

open Log.Event (isSkip)

/-- Two worlds are the same save for what their logs say of skipped cases. -/
def SaveForSkips (w w' : World σ) : Prop :=
  ∃ log, Log.without isSkip w.log = Log.without isSkip log ∧ w' = { w with log }

/-- The worlds are the same save for skipped cases, and will be. -/
def Parallel (w w' : World σ) : Prop := w.DeafTo isSkip ∧ w.SaveForSkips w'

end World

open World in
theorem Act.lookup_parallel (name key : String) : (Act.lookup name key : Act σ String).Agree
    Parallel Parallel Parallel (Act.lookup name key) := by
  refine .of_attempt ?_
  rintro w _ ⟨deaf, log, same, rfl⟩
  have deaf' := deaf.lookup name key
  simp only [Act.run_attempt, Act.run_lookup] at deaf' ⊢
  rw [← deaf.lookup_eq same]
  exact ⟨rfl, deaf', _, Log.without_append_congr same _, rfl⟩

open World in
/-- All parts of operations are the same on both sides. -/
def Backend.parallel (b : Backend σ) : Bond b b where
  Rel := Parallel
  session := by
    rintro w _ ⟨_, log, _, rfl⟩
    rfl
  issued := by
    rintro w _ ⟨_, log, _, rfl⟩
    rfl
  waitedMs := by
    rintro w _ ⟨_, log, _, rfl⟩
    rfl
  span := by
    rintro w _ ⟨_, log, _, rfl⟩
    rfl
  say e start := by
    obtain ⟨deaf, log, same, rfl⟩ := start
    exact ⟨deaf, _, Log.without_append_congr same _, rfl⟩
  inSpan s start := by
    obtain ⟨deaf, log, same, rfl⟩ := start
    exact ⟨deaf, log, same, rfl⟩
  sleep ms start := by
    obtain ⟨deaf, log, same, rfl⟩ := start
    exact ⟨deaf, log, same, rfl⟩
  number f start := by
    obtain ⟨deaf, log, same, rfl⟩ := start
    exact ⟨deaf, log, same, rfl⟩
  layers f start := by
    obtain ⟨deaf, log, same, rfl⟩ := start
    exact ⟨deaf, log, same, rfl⟩
  ask q := by
    refine .of_attempt ?_
    rintro w _ ⟨deaf, log, same, rfl⟩
    exact ⟨rfl, deaf, log, same, rfl⟩
  lookupUi _ := Act.lookup_parallel _ _

namespace Run

variable (b : Backend σ)

theorem fill_parallel : FillAgree b.parallel.coupling := by
  intro source l
  refine Act.Agree.bind (Q := World.Parallel) ?_ fun text => Page.fillField_agree _ l text
  cases source with
  | literal text => exact .of_pure text fun _ _ => id
  | configured name key => exact Act.lookup_parallel name key

theorem runCases_cons_of_includes {sel : Selection} (suite : Suite) {c : Case} (rest : List Case)
    (h : sel.includesCase c) : runCases b sel suite (c :: rest) = (do
      let outcome ← Task.within ⟨suite.id, c.id⟩ (runCase b suite c)
      return outcome :: (← runCases b sel suite rest)) := by
  rw [runCases, if_pos h]

theorem runSuites_cons_of_includes {sel : Selection} {suite : Suite} (rest : List Suite)
    (h : sel.includesSuite suite) : runSuites b sel (suite :: rest) = (do
      let outcomes ← runSuite b sel suite
      return outcomes ++ (← runSuites b sel rest)) := by
  rw [runSuites, if_pos h]

/-- By induction on the cases: one that is skipped leaves a trace only in the log. -/
theorem runCases_pruned (sel : Selection) (suite : Suite) (cs : List Case) :
    TaskAgree b.parallel.coupling (runCases b sel suite cs)
      (runCases b {} suite (cs.filter sel.includesCase)) := by
  induction cs with
  | nil => exact .of_pure _
  | cons c rest ih =>
    by_cases h : sel.includesCase c
    · rw [List.filter_cons_of_pos h, runCases_cons_of_includes b suite rest h,
        runCases_cons_of_includes b suite _ rfl]
      refine (within_agree _ (runCase_agree (fill_parallel b) suite c)).bind fun outcome => ?_
      exact ih.bind fun _ => .of_pure _
    · rw [List.filter_cons_of_neg h, runCases, if_neg h]
      rintro w _ ⟨deaf, log, same, rfl⟩
      exact ih _ _ ⟨deaf, log, (Log.without_concat rfl w.log).trans same, rfl⟩

/-- A suite counts with its own names, whichever of its cases are left. -/
theorem runCases_cases (sel : Selection) (suite : Suite) (others cs : List Case) :
    runCases b sel { suite with cases := others } cs = runCases b sel suite cs := by
  induction cs with
  | nil => rfl
  | cons c rest ih =>
    rw [runCases, runCases, ih]
    rfl

theorem runSuite_pruned (sel : Selection) (suite : Suite) :
    TaskAgree b.parallel.coupling (runSuite b sel suite)
      (runSuite b {} { suite with cases := suite.cases.filter sel.includesCase }) := by
  refine (say_agree _ _).bind fun _ => ?_
  have cases := runCases_pruned b sel suite suite.cases
  rwa [← runCases_cases b {} suite (suite.cases.filter sel.includesCase)] at cases

theorem runSuites_pruned (sel : Selection) (s : Scenario) :
    TaskAgree b.parallel.coupling (runSuites b sel s.suites)
      (runSuites b {} (sel.prune s).suites) := by
  rw [Selection.prune]
  induction s.suites with
  | nil => exact .of_pure _
  | cons suite rest ih =>
    by_cases h : sel.includesSuite suite
    · rw [List.filter_cons_of_pos h, List.map_cons, runSuites_cons_of_includes b rest h,
        runSuites_cons_of_includes b _ rfl]
      exact (runSuite_pruned b sel suite).bind fun outcomes => ih.bind fun _ => .of_pure _
    · rw [List.filter_cons_of_neg h, runSuites, if_neg h]
      exact ih

/-- A run of a selection gives the same summary as a run of the scenario that is left of it, with the
same calls, and leaves the same behind. This is so from every world in which what the log says of skipped
cases cannot be read as the configuration. -/
theorem run_eq_pruned {w : World σ} (deaf : w.DeafTo Log.Event.isSkip) (stamp : Stamp) (sel : Selection)
    (s : Scenario) :
    let r := (run b stamp sel s).run w
    let r' := (run b stamp {} (sel.prune s)).run w
    r.1 = r'.1 ∧ r.2.trace = r'.2.trace ∧ r.2.session = r'.2.session ∧ r.2.SaveForSkips r'.2 := by
  intro r r'
  have start : World.Parallel w w := ⟨deaf, w.log, rfl, rfl⟩
  obtain ⟨same, _, log, told, rest⟩ :=
    run_agree b.parallel stamp (runSuites_pruned b sel s) w w start
  refine ⟨same, ?_, ?_, log, told, rest⟩
  · exact (congrArg World.trace rest).symm
  · exact (congrArg World.session rest).symm

/-- Three cases share an id, and two of them a tag. -/
theorem run_eq_pruned_of_tag :
    let b := Scripted.backend
    let w : World Scripted :=
      { backend := {}, config := .ofIni "[UI]\nbrowserType=Chromium\n", around := ⟨⟨[], []⟩, none⟩ }
    let look : Step := { action := "verifySuccessfulLogin", timeoutMs := some 5 }
    let s : Scenario := ⟨[
      { id := "S1", name := "Portal", cases := [
        { id := "C1", name := "Look", tags := ["smoke"], steps := [look] },
        { id := "C1", name := "Look twice", steps := [look, look] }] },
      { id := "S2", name := "Board", cases := [
        { id := "C1", name := "Swim", tags := ["slow", "smoke"], steps := [{ action := "swim" }] }] }]⟩
    let sel : Selection := { case := some "C1", tag := some "smoke" }
    let stamp : Stamp := ⟨.zero, .epoch⟩
    let r := (run b stamp sel s).run w
    let r' := (run b stamp {} (sel.prune s)).run w
    w.DeafTo Log.Event.isSkip ∧
      r.1.cases.map (fun o => (o.name, o.status)) = [("Look", .passed), ("Swim", .failed)] ∧
      r'.2.log.length < r.2.log.length ∧
      r.1 = r'.1 ∧ r.2.trace = r'.2.trace ∧ r.2.session = r'.2.session ∧ r.2.SaveForSkips r'.2 := by
  intro b w look s sel stamp r r'
  have deaf : w.DeafTo Log.Event.isSkip := World.deafTo_of_isLoaded rfl
  exact ⟨deaf, by decide, by decide, run_eq_pruned b deaf stamp sel s⟩

/-- The configuration is read from the log, which tells the id of the case that is skipped before the
browser is chosen: the id chooses the browser. The pruned scenario chooses none. -/
theorem configured_by_skipped_case :
    let b := Scripted.backend
    let w : World Scripted :=
      { backend := {}, config := .unread (some "run.log")
        around := ⟨⟨[], [(["run.log"], .file "".toUTF8)]⟩, none⟩
        journal := some ⟨["run.log"], .upTo .debug, .epoch⟩ }
    let s : Scenario := ⟨[{ id := "S1", name := "Portal", cases := [
      { id := "C1\n[UI]\nbrowserType=fox", name := "Skip", steps := [] },
      { id := "C2", name := "Look", steps := [] }] }]⟩
    let sel : Selection := { case := some "C2" }
    let stamp : Stamp := ⟨.zero, .epoch⟩
    ((run b stamp sel s).run w).1.cases.map (·.error) =
      [some (Failure.unsupportedBrowser "fox").note] ∧
    ((run b stamp {} (sel.prune s)).run w).1.cases.map (·.error) =
      [some (Failure.configMissing "no key 'browserType' in section [UI]").note] := by
  intro b w s sel stamp
  let skipped : Case := { id := "C1\n[UI]\nbrowserType=fox", name := "Skip", steps := [] }
  let c : Case := { id := "C2", name := "Look", steps := [] }
  let suite (others : List Case) : Suite := { id := "S1", name := "Portal", cases := others ++ [c] }
  let begun (others : List Case) : World Scripted :=
    let start := w.reaching (suite others) others c
    { start with log := start.log ++ [⟨.caseStarted c.name, start.span⟩] }
  -- The world in which the browser is chosen.
  let asked (others : List Case) : World Scripted := ((Session.ensureEngine b).run (begun others)).2
  have error {sel : Selection} {others : List Case} {f : Failure}
      (none : ∀ other ∈ others, ¬ sel.includesCase other) (taken : sel.includesCase c)
      (chosen : sel.includesSuite (suite others))
      (unwanted : (asked others).wantedKind (asked others).log = .error f) :
      ((run b stamp sel ⟨[suite others]⟩).run w).1.cases.map (·.error) = [some f.note] := by
    obtain ⟨_, failed⟩ :=
      Session.run_create_of_unwanted b (w := begun others) (v := asked others) rfl rfl unwanted
    rw [run_of_last b chosen rfl none taken]
    exact congrArg (fun e => [e]) (runCase_of_not_created b (suite others) c failed)
  have found : w.around.disk.find "run.log" = .ok (.present ["run.log"] (.file "".toUTF8)) :=
    Disk.Single.find_file (by decide) rfl
  have wanted (others : List Case) := congrArg (·.bind BrowserKind.ofName)
    (World.lookup_in_journal (w := asked others) rfl rfl found "UI" "browserType")
  have whole : s = ⟨[suite [skipped]]⟩ := rfl
  have pruned : sel.prune s = ⟨[suite []]⟩ := by decide
  constructor
  · rw [whole]
    have none : ∀ other ∈ [skipped], ¬ sel.includesCase other := by decide
    refine error none (by decide) (by decide) ((wanted [skipped]).trans ?_)
    rw [Ini.ofText_append_join]
    decide +kernel
  · rw [pruned]
    have none : ∀ other ∈ ([] : List Case), ¬ ({} : Selection).includesCase other := nofun
    refine error none rfl rfl ((wanted []).trans ?_)
    rw [Ini.ofText_append_join]
    decide +kernel

end Run

end Rehearsal
