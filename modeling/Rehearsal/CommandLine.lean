import Rehearsal.Text.Cut

/-!
The command line. A setting takes a value, which stands behind `=`, directly behind a short name or in
the next argument; a flag takes none. Short names may be joined. Each may be given once. Arguments
are gone through in order, and the first that asks for help or the version, or that is wrong, decides.
-/
namespace Rehearsal.CommandLine

inductive Setting
  | scenario
  | config
  | reportsDir
  | suite
  | case
  | tag
  | chrome
deriving DecidableEq, Repr

inductive Flag
  | strict
  | noLogFile
  | debug
  | help
  | version
deriving DecidableEq, Repr

inductive Name
  | setting (s : Setting)
  | flag (f : Flag)
deriving DecidableEq, Repr

def long? : String → Option Name
  | "config" => some (.setting .config)
  | "reports-dir" => some (.setting .reportsDir)
  | "suite" => some (.setting .suite)
  | "case" => some (.setting .case)
  | "tag" => some (.setting .tag)
  | "chrome" => some (.setting .chrome)
  | "strict" => some (.flag .strict)
  | "no-log-file" => some (.flag .noLogFile)
  | "debug" => some (.flag .debug)
  | "help" => some (.flag .help)
  | "version" => some (.flag .version)
  | _ => none

def short? : Char → Option Name
  | 'c' => some (.setting .config)
  | 'r' => some (.setting .reportsDir)
  | 't' => some (.setting .tag)
  | 'd' => some (.flag .debug)
  | 'h' => some (.flag .help)
  | 'V' => some (.flag .version)
  | _ => none

/-- Settings that are paths, which cannot be empty. -/
def Setting.isPath : Setting → Bool
  | .scenario | .config | .reportsDir | .chrome => true
  | .suite | .case | .tag => false

/-- The environment variable that gives a setting its value if the command line does not. -/
def Setting.envName? : Setting → Option String
  | .reportsDir => some "SCENARIO_REPORTS_DIR"
  | .chrome => some "CHROME_PATH"
  | _ => none

/-- Why a command line is not carried out. -/
inductive Stop
  | help
  | version
  | usage
deriving DecidableEq, Repr

def Stop.exit : Stop → Nat
  | .help | .version => 0
  | .usage => 2

def helpText : String :=
  "Usage: rehearsal [OPTIONS] [SCENARIO]\n\n" ++
  "  SCENARIO                 scenario file, or folder of scenario files\n" ++
  "  -c, --config FILE        INI configuration file\n" ++
  "  -r, --reports-dir DIR    folder for run.log and test-results.json\n" ++
  "      --suite ID           run only the suite with this id\n" ++
  "      --case ID            run only the case with this id\n" ++
  "  -t, --tag TAG            run only cases with this tag\n" ++
  "      --strict             run nothing if a step cannot be decoded\n" ++
  "      --no-log-file        log to the screen only\n" ++
  "      --chrome FILE        browser to launch\n" ++
  "  -d, --debug              log in detail\n" ++
  "  -h, --help               print this text\n" ++
  "  -V, --version            print the version\n"

def Stop.notice : Stop → String
  | .help | .usage => helpText
  | .version => "rehearsal 0.1.0\n"

structure Given where
  settings : List (Setting × String) := []
  flags : List Flag := []
deriving Repr

namespace Given

def set (g : Given) (s : Setting) (value : String) : Except Stop Given :=
  if (s.isPath ∧ value = "") ∨ (g.settings.lookup s).isSome then .error .usage
  else .ok { g with settings := (s, value) :: g.settings }

def raise (g : Given) (f : Flag) : Except Stop Given :=
  match f with
  | .help => .error .help
  | .version => .error .version
  | f => if g.flags.contains f then .error .usage else .ok { g with flags := f :: g.flags }

end Given

/-- What an argument leaves to be done: nothing, or giving a setting the next argument. -/
structure Pending where
  given : Given
  wants : Option Setting := none

/-- Joined short names; the text behind a setting is its value. -/
def readShort (g : Given) : List Char → Except Stop Pending
  | [] => .ok ⟨g, none⟩
  | c :: rest =>
    match short? c with
    | none => .error .usage
    | some (.flag f) => do readShort (← g.raise f) rest
    | some (.setting s) =>
      match rest with
      | [] => .ok ⟨g, some s⟩
      | '=' :: value => do return ⟨← g.set s (String.ofList value), none⟩
      | value => do return ⟨← g.set s (String.ofList value), none⟩

/-- A long name, with a value if there is a `=`. -/
def readLong (g : Given) (s : List Char) : Except Stop Pending :=
  let (name, value) := match Text.cut '=' s with
    | some (name, value) => (name, some (String.ofList value))
    | none => (s, none)
  match long? (String.ofList name), value with
  | none, _ => .error .usage
  | some (.flag _), some _ => .error .usage
  | some (.flag f), none => do return ⟨← g.raise f, none⟩
  | some (.setting s), some value => do return ⟨← g.set s value, none⟩
  | some (.setting s), none => .ok ⟨g, some s⟩

/-- A value that stands alone does not begin with a hyphen, unless it is one. -/
def standsAlone (arg : String) : Bool := arg = "-" || arg.toList.head? ≠ some '-'

def readArgs : Pending → List String → Except Stop Given
  | ⟨g, none⟩, [] => .ok g
  | ⟨_, some _⟩, [] => .error .usage
  | ⟨g, some s⟩, arg :: rest => do
    if standsAlone arg then readArgs ⟨← g.set s arg, none⟩ rest else .error .usage
  | ⟨g, none⟩, arg :: rest => do
    if arg = "--" then rest.foldlM (fun g arg => g.set .scenario arg) g
    else if standsAlone arg then readArgs ⟨← g.set .scenario arg, none⟩ rest
    else match arg.toList with
      | '-' :: '-' :: name => do readArgs (← readLong g name) rest
      | _ :: names => do readArgs (← readShort g names) rest
      | [] => .error .usage

structure Options where
  scenario : String
  config : Option String
  reportsDir : String
  suite : Option String
  case : Option String
  tag : Option String
  chrome : Option String
  strict : Bool
  noLogFile : Bool
  debug : Bool
deriving Repr

/-- Settings of the environment fill in for those that were not given. -/
def fillIn (env : List (String × String)) (g : Given) (s : Setting) : Except Stop Given :=
  match g.settings.lookup s, s.envName?.bind fun v => env.lookup v with
  | none, some value => g.set s value
  | _, _ => .ok g

def Given.options (g : Given) : Options where
  scenario := (g.settings.lookup .scenario).getD "./test-data/test-scenarios.json"
  config := g.settings.lookup .config
  reportsDir := (g.settings.lookup .reportsDir).getD "reports"
  suite := g.settings.lookup .suite
  case := g.settings.lookup .case
  tag := g.settings.lookup .tag
  chrome := g.settings.lookup .chrome
  strict := g.flags.contains .strict
  noLogFile := g.flags.contains .noLogFile
  debug := g.flags.contains .debug

def parse (env : List (String × String)) (args : List String) : Except Stop Options := do
  let g ← readArgs ⟨{}, none⟩ args
  let g ← fillIn env g .reportsDir
  let g ← fillIn env g .chrome
  return g.options

end Rehearsal.CommandLine
