import Rehearsal.Page
import Rehearsal.Run.Outcome

/-!
Running scenarios. Suites, cases and steps run in the order in which they are written. Each case has a
session of its own on the shared browser and stops at its first failing step; a failing case does not
stop the others.
-/
namespace Rehearsal.Run

variable {σ : Type} (b : Backend σ)

/-- The value of a source. -/
def resolve : Source → Act σ String
  | .literal text => pure text
  | .configured name key => Act.lookup name key

/-- Whether an address belongs to a login page. -/
def isLoginAddress (url : String) : Bool :=
  Text.occurs "/login".toList url.toList || Text.occurs "signin".toList url.toList

/-- The expected titles, normalised, that are not among the items. -/
def missingTitles (expected items : List String) : List String :=
  (expected.map Text.collapse).filter fun title => !items.contains title

def perform : Action → Act σ Unit
  | .openLoginPage => Page.openLogin b
  | .fillUsername source => do Page.fillUsername b (← resolve source)
  | .fillPassword source => do Page.fillPassword b (← resolve source)
  | .clickLogin => Page.clickLogin b
  | .logIn username password => do
    Page.openLogin b
    Page.fillUsername b (← resolve username)
    Page.fillPassword b (← resolve password)
    Page.clickLogin b
  | .verifyLogin waitMs => do
    World.sleep waitMs
    let url ← Page.currentUrl b
    if isLoginAddress url then
      Act.fail (.assertionFailed ("login failed - still on login page. Current URL: " ++ url))
  | .openSection name => Page.openSection b name
  | .verifyItems column expected => do
    let items ← Page.items b column
    let missing := missingTitles expected items
    if !missing.isEmpty then
      Act.fail (.assertionFailed ("expected " ++ Text.quotedList missing ++ " in column '" ++ column ++
        "', found " ++ Text.quotedList items))
  | .confirmTags column task tags => do
    let actual ← Page.tagsOf b column task
    if TextSet.ofList actual ≠ tags then
      Act.fail (.assertionFailed ("tags of '" ++ task ++ "' in column '" ++ column ++ "': expected " ++
        Text.quotedSet tags ++ ", found " ++ Text.quotedList actual))

/-- Carries out one step. -/
def execute (s : Step) : Act σ Unit := do
  perform b (← Act.ofExcept s.decode)

/-- Carries out steps up to the first that fails. The outcomes are those of the steps that were tried;
the failure is that of the last one. -/
def runSteps (index : Nat) : List Step → Task σ (List StepOutcome × Option Failure)
  | [] => return ([], none)
  | s :: rest => do
    World.say (.stepStarted index s.action s.label)
    let started ← World.clock
    let result ← (execute b s).attempt
    let durationMs := (← World.clock) - started
    match result with
    | .ok _ =>
      World.say (.stepPassed index)
      let (outcomes, failure) ← runSteps (index + 1) rest
      return (⟨index, s.action, s.description, .passed, durationMs, none⟩ :: outcomes, failure)
    | .error f =>
      World.say (.stepFailed index f)
      return ([⟨index, s.action, s.description, .failed, durationMs, some f.note⟩], some f)

/-- Runs a case in a session of its own, which is released however the case ends. -/
def runCase (suite : Suite) (c : Case) : Task σ CaseOutcome := do
  World.say (.caseStarted c.name)
  let started ← World.clock
  let (steps, failure) ← match ← (Session.create b).attempt with
    | .ok _ => runSteps b 1 c.steps
    | .error f => pure ([], some f)
  Session.finish b
  match failure with
  | none => World.say (.casePassed c.name)
  | some f =>
    World.say (.caseFailed c.name f)
    World.say (.caseFailureDetail f)
  let durationMs := (← World.clock) - started
  let status := if failure.isSome then .failed else .passed
  return ⟨suite.id, c.id, c.name, status, durationMs, steps, failure.map Failure.note⟩

def runCases (sel : Selection) (suite : Suite) : List Case → Task σ (List CaseOutcome)
  | [] => return []
  | c :: rest => do
    if sel.includesCase c then
      let outcome ← Task.within ⟨suite.id, c.id⟩ (runCase b suite c)
      return outcome :: (← runCases sel suite rest)
    else
      World.say (.caseSkipped c.id)
      runCases sel suite rest

/-- Runs the selected cases of a suite. -/
def runSuite (sel : Selection) (suite : Suite) : Task σ (List CaseOutcome) := do
  World.say (.suiteStarted suite.name)
  runCases b sel suite suite.cases

def runSuites (sel : Selection) : List Suite → Task σ (List CaseOutcome)
  | [] => return []
  | suite :: rest => do
    if sel.includesSuite suite then
      let outcomes ← runSuite b sel suite
      return outcomes ++ (← runSuites sel rest)
    else runSuites sel rest

/-- What tells a run from others. -/
structure Stamp where
  id : Uuid
  startedAt : Timestamp

def tally (stamp : Stamp) (durationMs : Nat) (cases : List CaseOutcome) : Summary :=
  let passed := (cases.filter (·.passed)).length
  { runId := stamp.id, startedAt := stamp.startedAt, total := cases.length, passed,
    failed := cases.length - passed, durationMs, cases }

/-- Runs the selected cases of a scenario and releases the whole session. -/
def run (stamp : Stamp) (sel : Selection) (s : Scenario) : Task σ Summary := do
  let started ← World.clock
  let cases ← runSuites b sel s.suites
  Session.close b
  let summary := tally stamp ((← World.clock) - started) cases
  World.say (.tallied summary.passed summary.failed summary.total summary.durationMs)
  return summary

end Rehearsal.Run
