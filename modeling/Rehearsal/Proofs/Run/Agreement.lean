import Rehearsal.Proofs.Run.Tandem

/-!
# Runs that agree

What agrees for the operations of two sessions agrees for cases and runs on them. They are in tandem, on
the same pages and by the same clock, so their steps agree.
-/
namespace Rehearsal

variable {σ τ α : Type} {b : Backend σ} {b' : Backend τ} (pair : Coupling b b')

/-- What only calls the page of the session, once it is acquired. -/
theorem Session.current_bind_agree {f : Nat → Act σ α} {f' : Nat → Act τ α}
    (h : ∀ p, pair.Agree .settled .settled (f p) (f' p)) :
    pair.Agree .starting .starting (Session.current b >>= f) (Session.current b' >>= f') :=
  ((current_agree pair).bind h).mono (fun _ _ => id) fun _ _ => pair.starting

namespace Page

theorem resolveOne_agree (p : Nat) (l : Locator) :
    pair.Agree .settled .settled (resolveOne b p l) (resolveOne b' p l) :=
  (pair.tandem.resolveOne_agree p p l).mono (fun _ _ => And.intro rfl) fun _ _ => And.right

theorem fillField_agree (l : Locator) (text : String) :
    pair.Agree .starting .starting (fillField b l text) (fillField b' l text) :=
  pair.tandem.fillField_agree l text

end Page

namespace Run

/-- What is looked up and then filled in agrees. -/
def FillAgree (pair : Coupling b b') : Prop :=
  ∀ source (l : Locator), pair.Agree .starting .starting (resolve source >>= Page.fillField b l)
    (resolve source >>= Page.fillField b' l)

variable {pair}

theorem execute_agree (fill : FillAgree pair) (s : Step) :
    pair.Agree .starting .starting (execute b s) (execute b' s) :=
  pair.tandem.execute_agree fill s fun _ => trivial

section
variable (pair)

/-- Tasks that agree and keep what the worlds have in common all along. -/
abbrev TaskAgree (m : Task σ α) (m' : Task τ α) : Prop :=
  m.Agree (pair.Rel .starting) (pair.Rel .starting) m'

theorem say_agree (e : Log.Event) : TaskAgree pair (World.say e) (World.say e) :=
  fun _ _ start => ⟨rfl, pair.say e start⟩

theorem clock_agree : TaskAgree pair World.clock World.clock :=
  fun _ _ start => ⟨pair.waitedMs start, start⟩

variable {pair}

theorem within_agree (span : Log.Span) {m : Task σ α} {m' : Task τ α} (h : TaskAgree pair m m') :
    TaskAgree pair (Task.within span m) (Task.within span m') := by
  intro w w' start
  obtain ⟨same, final⟩ := h _ _ (pair.inSpan (some span) start)
  rw [Task.run_within, Task.run_within, ← pair.span start]
  exact ⟨same, pair.inSpan w.span final⟩

end

theorem runSteps_agree (fill : FillAgree pair) (index : Nat) (steps : List Step) :
    TaskAgree pair (runSteps b index steps) (runSteps b' index steps) :=
  pair.tandem.runSteps_agree fill index steps fun _ _ _ => trivial

theorem tried_agree (fill : FillAgree pair) (c : Case) :
    TaskAgree pair (tried b c) (tried b' c) := by
  refine ((Session.create_agree pair).attempt fun _ _ => pair.starting).bind fun created => ?_
  cases created with
  | ok _ => exact runSteps_agree fill 1 c.steps
  | error f => exact .of_pure _

theorem concluded_agree (suite : Suite) (c : Case) (started : Nat) (steps : List StepOutcome)
    (failure : Option Failure) : TaskAgree pair (concluded suite c started steps failure)
      (concluded suite c started steps failure) := by
  cases failure with
  | none => exact (say_agree pair _).bind fun _ => (clock_agree pair).bind fun _ => .of_pure _
  | some f =>
    refine (say_agree pair _).bind fun _ => (say_agree pair _).bind fun _ => ?_
    exact (clock_agree pair).bind fun _ => .of_pure _

theorem runCase_agree (fill : FillAgree pair) (suite : Suite) (c : Case) :
    TaskAgree pair (runCase b suite c) (runCase b' suite c) := by
  rw [runCase_eq, runCase_eq]
  refine (say_agree pair _).bind fun _ => (clock_agree pair).bind fun started => ?_
  refine (tried_agree fill c).bind fun r => (Session.finish_agree pair).bind fun _ => ?_
  exact concluded_agree suite c started r.1 r.2

/-- By induction on the cases; those that are not selected are only logged. -/
theorem runCases_agree (fill : FillAgree pair) (sel : Selection) (suite : Suite) (cs : List Case) :
    TaskAgree pair (runCases b sel suite cs) (runCases b' sel suite cs) := by
  induction cs with
  | nil => exact .of_pure _
  | cons c rest ih =>
    unfold runCases
    split
    · refine (within_agree _ (runCase_agree fill suite c)).bind fun outcome => ?_
      exact ih.bind fun _ => .of_pure _
    · exact (say_agree pair _).bind fun _ => ih

theorem runSuite_agree (fill : FillAgree pair) (sel : Selection) (suite : Suite) :
    TaskAgree pair (runSuite b sel suite) (runSuite b' sel suite) :=
  (say_agree pair _).bind fun _ => runCases_agree fill sel suite suite.cases

theorem runSuites_agree (fill : FillAgree pair) (sel : Selection) (suites : List Suite) :
    TaskAgree pair (runSuites b sel suites) (runSuites b' sel suites) := by
  induction suites with
  | nil => exact .of_pure _
  | cons suite rest ih =>
    unfold runSuites
    split
    · refine (runSuite_agree fill sel suite).bind fun outcomes => ?_
      exact ih.bind fun _ => .of_pure _
    · exact ih

/-- Two runs agree as their suites do. -/
theorem run_agree (bond : Bond b b') (stamp : Stamp) {sel sel' : Selection} {s s' : Scenario}
    (suites : TaskAgree bond.coupling (runSuites b sel s.suites) (runSuites b' sel' s'.suites)) :
    TaskAgree bond.coupling (run b stamp sel s) (run b' stamp sel' s') := by
  refine (clock_agree bond.coupling).bind fun started => suites.bind fun cases => ?_
  refine (Session.close_agree bond.coupling).bind fun _ => ?_
  exact (clock_agree bond.coupling).bind fun now => (say_agree bond.coupling _).bind fun _ => .of_pure _

end Run

end Rehearsal
