import Rehearsal.Proofs.Run.Elements
import Rehearsal.Proofs.Run.FailFast
import Rehearsal.Proofs.Run.Tally

/-!
# The log and the summary tell the same story

What a run logs for its reader can be told from the summary alone: suite by suite, case by case and step
by step. The layers below the runner log in between, and nothing else is logged.
-/
namespace Rehearsal

variable {σ : Type}

namespace Log

/-- What a log shows of an entry. -/
structure Line where
  level : Level
  message : String
  fields : List (String × String) := []
  span : Option Span
deriving DecidableEq, Repr

def Entry.shown (e : Entry) : Line := ⟨e.event.level, e.event.message, e.event.fields, e.span⟩

/-- An entry counts from the level of information on, and if it is not of a layer below the runner. -/
def Entry.isTold (e : Entry) : Bool := e.event.level ≠ .debug && !e.event.speaker.isBelow

def told (log : List Entry) : List Line := (log.filter Entry.isTold).map Entry.shown

@[simp] theorem told_nil : told [] = [] := rfl

@[simp] theorem told_append (l l' : List Entry) : told (l ++ l') = told l ++ told l' := by
  simp [told]

theorem told_eq_nil {log : List Entry} (below : ∀ e ∈ log, e.event.speaker.isBelow) :
    told log = [] := by
  have none : log.filter Entry.isTold = [] := by
    simpa [List.filter_eq_nil_iff, Entry.isTold] using fun e he _ => below e he
  rw [told, none, List.map_nil]

end Log

theorem Config.speaker_of_load (around : Surroundings) (c : Config) :
    ∀ e ∈ (c.load around).2.2, e.speaker = .config := by
  rcases load_cases around c with ⟨t, _, hl⟩ | ⟨t, _, _, hl⟩ | ⟨f, _, _, hl⟩
  all_goals simp [hl, Log.Event.speaker]

namespace World

/-- These lines were told, in the span that the world is in, and the surroundings and the journal are
still the same. -/
structure Tells (lines : List Log.Line) (w w' : World σ) : Prop where
  around : w'.around = w.around
  journal : w'.journal = w.journal
  span : w'.span = w.span
  log : ∃ new, w'.log = w.log ++ new ∧ Log.told new = lines

theorem Tells.append {l l' : List Log.Line} {u v w : World σ} (first : Tells l u v)
    (second : Tells l' v w) : Tells (l ++ l') u w where
  around := second.around.trans first.around
  journal := second.journal.trans first.journal
  span := second.span.trans first.span
  log := by
    obtain ⟨new, log, rfl⟩ := first.log
    obtain ⟨new', log', rfl⟩ := second.log
    exact ⟨new ++ new', by rw [log', log, List.append_assoc], Log.told_append new new'⟩

theorem tells_of_log_eq {w w' : World σ} (around : w'.around = w.around)
    (journal : w'.journal = w.journal) (span : w'.span = w.span) (log : w'.log = w.log) :
    Tells [] w w' :=
  ⟨around, journal, span, [], by simpa using log, rfl⟩

instance : IsPreorder (World σ) (Tells []) where
  refl _ := tells_of_log_eq rfl rfl rfl rfl
  trans _ _ _ h h' := h.append h'

theorem tells_of_told (w : World σ) {e : Log.Event} {span : Option Log.Span} (at_span : w.span = span)
    (told : (⟨e, span⟩ : Log.Entry).isTold) :
    Tells [(⟨e, span⟩ : Log.Entry).shown] w { w with log := w.log ++ [⟨e, w.span⟩] } := by
  subst at_span
  exact ⟨rfl, rfl, rfl, _, rfl, by simp [Log.told, told]⟩

theorem tells_of_untold (w : World σ) {e : Log.Event}
    (untold : ∀ span, ¬ (⟨e, span⟩ : Log.Entry).isTold) :
    Tells [] w { w with log := w.log ++ [⟨e, w.span⟩] } :=
  ⟨rfl, rfl, rfl, _, rfl, by simp [Log.told, untold]⟩

/-- What is told inside of a span is told by what is done inside of it. -/
theorem Tells.within {lines : List Log.Line} {α : Type} {m : Task σ α} {w : World σ} {s : Log.Span}
    (h : Tells lines { w with span := some s } (m.run { w with span := some s }).2) :
    Tells lines w ((Task.within s m).run w).2 :=
  ⟨h.around, h.journal, rfl, h.log⟩

/-- The layers below the runner tell nothing. -/
theorem elements_tells (b : Backend σ) : Elements b (World.Tells []) where
  logs e below w := tells_of_untold w fun span => by simp [Log.Entry.isTold, below]
  calls _ _ := tells_of_log_eq rfl rfl rfl rfl
  looksUp name key w := by
    refine ⟨rfl, rfl, rfl, _, rfl, Log.told_eq_nil ?_⟩
    intro e he
    obtain ⟨event, hevent, rfl⟩ := List.mem_map.mp he
    have speaker := Config.speaker_of_load w.surroundings w.config event hevent
    simp [speaker, Log.Speaker.isBelow]
  holds _ _ := tells_of_log_eq rfl rfl rfl rfl
  issues _ _ := tells_of_log_eq rfl rfl rfl rfl
  waits _ _ := tells_of_log_eq rfl rfl rfl rfl

end World

/-- What is to be told of a step that has this position in its case. -/
def StepOutcome.story (span : Option Log.Span) (o : StepOutcome) (k : Nat) : List Log.Line :=
  { level := .info, message := "Executing step " ++ toString k ++ ": " ++ o.description.getD o.action
    fields := [("step", toString k), ("action", o.action)], span } ::
  match o.status with
  | .passed => [{ level := .info, message := "Step " ++ toString k ++ " passed"
                  fields := [("step", toString k)], span }]
  | .failed => o.error.toList.map fun note =>
    { level := .error, message := "Step " ++ toString k ++ " failed: " ++ note.message
      fields := [("step", toString k), ("code", note.code)], span }

/-- What is to be told of steps, the first at a position. -/
def stepStory (span : Option Log.Span) (index : Nat) (steps : List StepOutcome) : List Log.Line :=
  (steps.zipIdx index).flatMap fun (o, k) => o.story span k

@[simp] theorem stepStory_nil (span : Option Log.Span) (index : Nat) :
    stepStory span index [] = [] := rfl

theorem stepStory_cons (span : Option Log.Span) (index : Nat) (o : StepOutcome)
    (rest : List StepOutcome) : stepStory span index (o :: rest) =
      o.story span index ++ stepStory span (index + 1) rest := rfl

theorem stepStory_singleton (span : Option Log.Span) (index : Nat) (o : StepOutcome) :
    stepStory span index [o] = o.story span index := by
  rw [stepStory_cons, stepStory_nil, List.append_nil]

namespace CaseOutcome

def span (o : CaseOutcome) : Log.Span := ⟨o.suiteId, o.caseId⟩

/-- What is to be told at the end of a case. -/
def moral (o : CaseOutcome) : List Log.Line :=
  match o.status with
  | .passed => [{ level := .info, message := "Test case " ++ o.name ++ " completed successfully"
                  span := o.span }]
  | .failed => o.error.toList.map fun note =>
    { level := .error, message := "Test case " ++ o.name ++ " failed: " ++ note.message
      span := o.span }
  | .pending | .running => []

/-- What is to be told of a case, all of it in the span of its suite and its id. -/
def story (o : CaseOutcome) : List Log.Line :=
  { level := .info, message := "Running test case: " ++ o.name, span := o.span } ::
    (stepStory o.span 1 o.steps ++ o.moral)

/-- The case has passed or failed, and whatever failed has an error. -/
structure Complete (o : CaseOutcome) : Prop where
  terminal : o.status = .passed ∨ o.status = .failed
  error : o.status = .failed → ∃ note, o.error = some note
  step_error : ∀ s ∈ o.steps, s.status = .failed → ∃ note, s.error = some note

end CaseOutcome

/-- A suite that was run, and the outcomes of its cases. -/
structure Chapter where
  suite : Suite
  outcomes : List CaseOutcome

/-- What is to be told of a suite. -/
def Chapter.story (span : Option Log.Span) (ch : Chapter) : List Log.Line :=
  { level := .info, message := "Running test suite: " ++ ch.suite.name, span } ::
    ch.outcomes.flatMap CaseOutcome.story

/-- What is to be told at the end of a run. -/
def Summary.moral (span : Option Log.Span) (m : Summary) : Log.Line :=
  { level := .info, span
    message := "Test Results: " ++ toString m.passed ++ " passed, " ++ toString m.failed ++
      " failed, " ++ toString m.total ++ " total (" ++ toString m.durationMs ++ " ms)" }

/-- A failure is an error with a code and a message. -/
theorem exists_note_of_verdicts {os : List StepOutcome} {rs : List (Except Failure Unit)}
    (verdicts : os.map (·.verdict) = rs.map verdict) :
    ∀ s ∈ os, s.status = .failed → ∃ note, s.error = some note := by
  intro s hs failed
  have hmem : s.verdict ∈ os.map (·.verdict) := List.mem_map_of_mem hs
  rw [verdicts] at hmem
  obtain ⟨r, _, same⟩ := List.mem_map.mp hmem
  obtain ⟨status, error⟩ := Prod.mk.inj same
  cases r with
  | ok _ => cases status.trans failed
  | error f => exact ⟨f.note, error.symm⟩

namespace Run

variable (b : Backend σ)

theorem complete_runCase (suite : Suite) (c : Case) (w : World σ) :
    ((runCase b suite c).run w).1.Complete := by
  obtain ⟨_, _, _, ds, _, _, _, _, _, failFast, _⟩ := runCase_failFast b suite c w
  have failed := failFast.failed
  refine ⟨?_, fun status => ?_, exists_note_of_verdicts failFast.verdicts⟩
  · by_cases h : ((runCase b suite c).run w).1.status = .passed
    · exact .inl h
    · exact .inr (failed h).1
  · rcases (failed (by simp [status])).2 with ⟨f, _, _, error⟩ | ⟨_, f, _, _, _, _, error⟩
    · exact ⟨f.note, error⟩
    · exact ⟨f.note, error⟩

/-- By induction on the steps. -/
theorem runSteps_tells (index : Nat) (steps : List Step) {w : World σ} {span : Option Log.Span}
    (at_span : w.span = span) :
    World.Tells (stepStory span index ((runSteps b index steps).run w).1.1) w
      ((runSteps b index steps).run w).2 := by
  induction steps generalizing index w with
  | nil => exact Std.Refl.refl (r := World.Tells []) w
  | cons s rest ih =>
    let u : World σ := { w with log := w.log ++ [⟨.stepStarted index s.action s.label, w.span⟩] }
    have started := World.tells_of_told w (e := .stepStarted index s.action s.label) at_span rfl
    have carried := (World.elements_tells b).execute s u
    rcases hrun : (execute b s).run u with ⟨f | _, v⟩
    all_goals
      rw [hrun] at carried
      have before := started.append carried
      have still : v.span = span := before.span.trans at_span
    · rw [run_runSteps_of_error b index s rest hrun, stepStory_singleton]
      exact before.append (World.tells_of_told v (e := .stepFailed index f) still rfl)
    · rw [run_runSteps_of_ok b index s rest hrun, stepStory_cons]
      have passed := World.tells_of_told v (e := .stepPassed index) still rfl
      exact (before.append passed).append (ih (index + 1) still)

/-- What is tried in a case is told step by step; to acquire the session is not told. -/
theorem tried_tells (c : Case) {w : World σ} {span : Option Log.Span} (at_span : w.span = span) :
    World.Tells (stepStory span 1 ((tried b c).run w).1.1) w ((tried b c).run w).2 := by
  have created := (World.elements_tells b).create w
  rw [tried, Task.run_bind, Act.run_attempt]
  rcases hrun : (Session.create b).run w with ⟨f | _, v⟩
  all_goals rw [hrun] at created
  · exact created
  · exact created.append (runSteps_tells b 1 c.steps (created.span.trans at_span))

theorem concluded_tells (suite : Suite) (c : Case) (started : Nat) (steps : List StepOutcome)
    (failure : Option Failure) {w : World σ} (at_span : w.span = some ⟨suite.id, c.id⟩) :
    World.Tells ((concluded suite c started steps failure).run w).1.moral w
      ((concluded suite c started steps failure).run w).2 := by
  cases failure with
  | none => exact World.tells_of_told w (e := .casePassed c.name) at_span rfl
  | some f =>
    have failed := World.tells_of_told w (e := .caseFailed c.name f) at_span rfl
    exact failed.append (World.tells_of_untold _ (e := .caseFailureDetail f) fun _ => Bool.false_ne_true)

theorem concluded_story (suite : Suite) (c : Case) (started : Nat) (steps : List StepOutcome)
    (failure : Option Failure) (w : World σ) :
    ((concluded suite c started steps failure).run w).1.story =
      (⟨.caseStarted c.name, some ⟨suite.id, c.id⟩⟩ : Log.Entry).shown ::
        (stepStory (some ⟨suite.id, c.id⟩) 1 steps ++
          ((concluded suite c started steps failure).run w).1.moral) := by
  cases failure with
  | none => rfl
  | some f => rfl

theorem runCase_tells (suite : Suite) (c : Case) {w : World σ}
    (at_span : w.span = some ⟨suite.id, c.id⟩) :
    World.Tells ((runCase b suite c).run w).1.story w ((runCase b suite c).run w).2 := by
  let u : World σ := { w with log := w.log ++ [⟨.caseStarted c.name, w.span⟩] }
  have started := World.tells_of_told w (e := .caseStarted c.name) at_span rfl
  have steps := tried_tells b c (w := u) at_span
  rcases htried : (tried b c).run u with ⟨⟨outcomes, failure⟩, v⟩
  rw [htried] at steps
  have finished := (World.elements_tells b).finish v
  have still := (finished.span.trans steps.span).trans at_span
  have ended := concluded_tells suite c w.waitedMs outcomes failure still
  have run : (runCase b suite c).run w =
      (concluded suite c w.waitedMs outcomes failure).run ((Session.finish b).run v).2 := by
    simp only [u] at htried
    rw [run_runCase]
    simp only [htried]
  rw [run, concluded_story]
  exact started.append (steps.append (finished.append ended))

/-- By induction on the cases; a case that is left out is not told. -/
theorem runCases_tells (sel : Selection) (suite : Suite) (cs : List Case) (w : World σ) :
    World.Tells (((runCases b sel suite cs).run w).1.flatMap CaseOutcome.story) w
      ((runCases b sel suite cs).run w).2 := by
  induction cs generalizing w with
  | nil => exact Std.Refl.refl (r := World.Tells []) w
  | cons c rest ih =>
    by_cases h : sel.includesCase c
    · have first := World.Tells.within (runCase_tells b suite c
        (w := { w with span := some ⟨suite.id, c.id⟩ }) rfl)
      rw [runCases, if_pos h]
      exact first.append (ih _)
    · have skipped := World.tells_of_untold w (e := .caseSkipped c.id) fun _ => Bool.false_ne_true
      rw [runCases, if_neg h]
      exact skipped.append (ih _)

theorem labels_runCases (sel : Selection) (suite : Suite) (cs : List Case) (w : World σ) :
    ((runCases b sel suite cs).run w).1.map (·.label) =
      (cs.filter sel.includesCase).map (·.label suite) := by
  obtain ⟨ds, runs, outcomes⟩ := runCases_caseRuns b sel suite cs w
  rw [outcomes, runs.map_result fun p => label_runCase b p.1 p.2, List.map_map]
  rfl

/-- The outcomes of suites fall into chapters, which are told in order. By induction on the suites. -/
theorem runSuites_tells (sel : Selection) (suites : List Suite) {w : World σ}
    {span : Option Log.Span} (at_span : w.span = span) : ∃ chapters : List Chapter,
      chapters.map (·.suite) = suites.filter sel.includesSuite ∧
      (∀ ch ∈ chapters, ch.outcomes.map (·.label) =
        (ch.suite.cases.filter sel.includesCase).map (·.label ch.suite)) ∧
      chapters.flatMap (·.outcomes) = ((runSuites b sel suites).run w).1 ∧
      World.Tells (chapters.flatMap (·.story span)) w ((runSuites b sel suites).run w).2 := by
  induction suites generalizing w with
  | nil => exact ⟨[], rfl, by simp, rfl, Std.Refl.refl (r := World.Tells []) w⟩
  | cons suite rest ih =>
    by_cases h : sel.includesSuite suite
    · let u : World σ := { w with log := w.log ++ [⟨.suiteStarted suite.name, w.span⟩] }
      have started := World.tells_of_told w (e := .suiteStarted suite.name) at_span rfl
      have cases := runCases_tells b sel suite suite.cases u
      obtain ⟨chapters, suites, labels, outcomes, told⟩ := ih (cases.span.trans at_span)
      refine ⟨⟨suite, ((runCases b sel suite suite.cases).run u).1⟩ :: chapters, ?_, ?_, ?_, ?_⟩
      · simpa [h] using suites
      · exact List.forall_mem_cons.mpr ⟨labels_runCases b sel suite suite.cases u, labels⟩
      · rw [List.flatMap_cons, outcomes, runSuites, if_pos h]
        rfl
      · rw [List.flatMap_cons, runSuites, if_pos h]
        exact (started.append cases).append told
    · obtain ⟨chapters, suites, labels, outcomes, told⟩ := ih at_span
      rw [runSuites, if_neg h]
      exact ⟨chapters, by simpa [h] using suites, labels, outcomes, told⟩

theorem complete_run (stamp : Stamp) (sel : Selection) (s : Scenario) (w : World σ) :
    ∀ o ∈ ((run b stamp sel s).run w).1.cases, o.Complete :=
  forall_run (complete_runCase b) stamp sel s w

/-- The counts are told last. -/
theorem run_tells (stamp : Stamp) (sel : Selection) (s : Scenario) {w : World σ} {lines : List Log.Line}
    (suites : World.Tells lines w ((runSuites b sel s.suites).run w).2) :
    World.Tells (lines ++ [((run b stamp sel s).run w).1.moral w.span]) w
      ((run b stamp sel s).run w).2 := by
  have closed := (World.elements_tells b).close ((runSuites b sel s.suites).run w).2
  have span := closed.span.trans suites.span
  let m := ((run b stamp sel s).run w).1
  have last := World.tells_of_told _ (e := .tallied m.passed m.failed m.total m.durationMs) span rfl
  exact suites.append (closed.append last)

/-- What a run tells is its summary: each selected suite, in it each case with its steps and how it ended,
and the counts at last. Every failure that is told has its code and its message in the summary. -/
theorem run_told (stamp : Stamp) (sel : Selection) (s : Scenario) (w : World σ) :
    let m := ((run b stamp sel s).run w).1
    ∃ chapters : List Chapter,
      chapters.map (·.suite) = s.suites.filter sel.includesSuite ∧
      (∀ ch ∈ chapters, ch.outcomes.map (·.label) =
        (ch.suite.cases.filter sel.includesCase).map (·.label ch.suite)) ∧
      chapters.flatMap (·.outcomes) = m.cases ∧ (∀ o ∈ m.cases, o.Complete) ∧
      World.Tells (chapters.flatMap (·.story w.span) ++ [m.moral w.span]) w
        ((run b stamp sel s).run w).2 := by
  intro m
  obtain ⟨chapters, suites, labels, outcomes, told⟩ := runSuites_tells b sel s.suites (w := w) rfl
  exact ⟨chapters, suites, labels, outcomes, complete_run b stamp sel s w,
    run_tells b stamp sel s told⟩

end Run

end Rehearsal
