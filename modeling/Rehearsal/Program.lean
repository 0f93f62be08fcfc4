import Rehearsal.CommandLine
import Rehearsal.Log.Filter
import Rehearsal.Run
import Rehearsal.Run.Results
import Rehearsal.Scenario.Loading
import Rehearsal.Session.Unequipped

/-!
The program: loads a scenario, runs it and writes the results. It exits with 0 if every case passed,
with 1 if a case failed, with 2 if there was nothing to run or no way to write the results, and with
101 if the filter of the log cannot be cut into pieces.
-/
namespace Rehearsal.Program

/-- How the program ends: the exit code, what it logged, the disk it leaves, its exchanges with the
backend, what it prints in place of a run, and what it warns of. -/
structure Ending where
  exit : Nat
  log : List Log.Entry
  disk : Disk
  trace : List Exchange := []
  notice : String := ""
  warning : String := ""

def logName : String := "run.log"

/-- The disk with the log file opened in the reports folder, and its location or why it has none. -/
def openLog (d : Disk) (folder : String) : Disk × Except Disk.Fault Disk.Location :=
  match d.makeFolders folder with
  | .error f => (d, .error f)
  | .ok d =>
    match d.openToAppend (Disk.join folder logName) with
    | .error f => (d, .error f)
    | .ok (l, d) => (d, .ok l)

/-- The selection of the options. -/
def selection (o : CommandLine.Options) : Selection := ⟨o.suite, o.case, o.tag⟩

/-- Fails behind a log that the journal on the disk has. -/
def failed (journal : Option Log.Journal) (log : List Log.Entry) (trace : List Exchange) (f : Failure)
    (disk : Disk) : Ending :=
  let last : List Log.Entry := [⟨.programFailed f, none⟩]
  { exit := 2, log := log ++ last, disk := Log.journaled journal last disk, trace }

variable {σ : Type} (b : Backend σ)

/-- Runs a scenario and writes its results. -/
def runAndSave (initial : σ) (stamp : Run.Stamp) (o : CommandLine.Options)
    (configPath : Option String) (journal : Option Log.Journal) (disk : Disk)
    (log : List Log.Entry) (s : Scenario) : Ending :=
  let world : World σ :=
    { backend := initial, config := .unread o.config, around := ⟨disk, configPath⟩, log, journal }
  let (summary, world) := (Run.run b stamp (selection o) s).run world
  match Results.save world.disk o.reportsDir summary with
  | .error f => failed journal world.log world.trace f world.disk
  | .ok (path, disk) =>
    let last : List Log.Entry := [⟨.resultsWritten path, none⟩]
    { exit := if summary.success then 0 else 1
      log := world.log ++ last
      disk := Log.journaled journal last disk
      trace := world.trace }

/-- Carries out the options: in strict mode a scenario with a step that does not decode is not run. -/
def carryOut (initial : σ) (stamp : Run.Stamp) (o : CommandLine.Options)
    (configPath : Option String) (journal : Option Log.Journal) (disk : Disk) : Ending :=
  match Scenario.load disk o.scenario with
  | .error f => failed journal [] [] f disk
  | .ok s =>
    let log : List Log.Entry := [⟨.suitesLoaded s.suites.length, none⟩]
    let problems := if o.strict then s.problems else []
    if problems.isEmpty then
      let log := log ++ [⟨.casesLoaded s.caseCount, none⟩]
      runAndSave b initial stamp o configPath journal disk log s
    else
      let log := log ++ problems.map fun p => ⟨.problemFound p, none⟩
      failed journal log []
        (.unreadableScenario (toString problems.length ++ " invalid step(s) in " ++ o.scenario))
        (Log.journaled journal log disk)

def configVariable : String := "CONFIGURATION_PATH"

def filterVariable : String := "RUST_LOG"

/-- The filter of the log: the options may ask for debugging, and then the environment may name one. A
malformed one does not count. -/
def filter (o : CommandLine.Options) (env : List (String × String)) :
    Except Log.Trouble Log.Filter :=
  if o.debug then .ok (.upTo .debug)
  else match (env.lookup filterVariable).map Log.Filter.parse with
    | none | some (.error .malformed) => .ok (.upTo .info)
    | some (.error .splitCharacter) => .error .splitCharacter
    | some (.ok f) => .ok f

/-- The whole program over a backend. Its log is what the filter shows, and is kept in a log file besides
unless the options ask for none; without one that can be opened it goes on. -/
def start (initial : CommandLine.Options → Disk → σ) (stamp : Run.Stamp)
    (env : List (String × String)) (args : List String) (disk : Disk) : Ending :=
  match CommandLine.parse env args with
  | .error stop => { exit := stop.exit, log := [], disk, notice := stop.notice }
  | .ok o =>
    let (disk, file?, warning) : Disk × Option Disk.Location × String :=
      if o.noLogFile then (disk, none, "")
      else match openLog disk o.reportsDir with
        | (disk, .ok l) => (disk, some l, "")
        | (disk, .error f) => (disk, none, "Warning: could not open log file: " ++ f.message ++ "\n")
    match filter o env with
    | .error _ => { exit := 101, log := [], disk, warning }
    | .ok shown =>
      let journal := file?.map fun l => ⟨l, shown, stamp.startedAt⟩
      let ending := carryOut b (initial o disk) stamp o (env.lookup configVariable) journal disk
      { ending with log := shown.apply ending.log, warning }

/-- The variables that the program looks at. -/
def variableNames : List String :=
  configVariable :: filterVariable :: [CommandLine.Setting.reportsDir, .chrome].filterMap (·.envName?)

/-- The paths of which the program only sees whether something is there. -/
def probedPaths (env : List (String × String)) (args : List String) : List String :=
  match CommandLine.parse env args with
  | .error _ => []
  | .ok o => o.chrome.toList

/-- The paths whose contents the program looks at. -/
def paths (env : List (String × String)) (args : List String) : List String :=
  match CommandLine.parse env args with
  | .error _ => []
  | .ok o =>
    [o.scenario, Config.path (env.lookup configVariable) o.config,
      Disk.join o.reportsDir logName, Disk.join o.reportsDir Results.fileName]

/-- The program on a machine without a browser. -/
def unequipped (stamp : Run.Stamp) (env : List (String × String)) (args : List String)
    (disk : Disk) : Ending :=
  start Unequipped.backend (fun o d => .onDisk d o.chrome) stamp env args disk

end Rehearsal.Program
