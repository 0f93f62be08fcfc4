import Rehearsal.Disk
import Rehearsal.Failure
import Rehearsal.Scenario.Reader

/-!
Loading scenarios from a disk: from a file, or from all files of a folder with the right extension, in
the order of their paths.
-/
namespace Rehearsal.Scenario

/-- A scenario from the content of a file, whose path is for complaints. -/
def ofContent (path : String) (content : Except Disk.Fault String) : Except Failure Scenario :=
  match content with
  | .error f => .error (.unreadableScenario ("cannot read " ++ path ++ ": " ++ f.message))
  | .ok text =>
    match parse text with
    | .ok s => .ok s
    | .error r => .error (.unreadableScenario (path ++ ": " ++ r.message))

def ofFile (d : Disk) (path : String) : Except Failure Scenario :=
  ofContent path (d.readText path)

/-- Whether a name ends in `.json` with something before it. -/
def hasExtension (name : String) : Bool :=
  match Text.dropFront? ".json".toList.reverse name.toList.reverse with
  | some (_ :: _) => true
  | _ => false

/-- Whether a path comes first, or is the same; paths are compared name by name. -/
def pathLe : List String → List String → Bool
  | [], _ => true
  | _ :: _, [] => false
  | a :: as, b :: bs => if a = b then pathLe as bs else a < b

/-- The scenario files below a folder, in the order of their paths. -/
def filesIn (d : Disk) (l : Disk.Location) : List (List String × ByteArray) :=
  ((d.filesBelow l).filter fun (names, _) => (names.getLast?.map hasExtension).getD false).mergeSort
    fun a b => pathLe a.1 b.1

/-- The suites of all files, or the failure of the first that cannot be read. -/
def merge (path : String) : List (List String × ByteArray) → Except Failure (List Suite)
  | [] => .ok []
  | (names, content) :: rest => do
    let s ← ofContent (names.foldl Disk.join path) (Disk.decode content)
    return s.suites ++ (← merge path rest)

def ofFolder (d : Disk) (path : String) (l : Disk.Location) : Except Failure Scenario :=
  match filesIn d l with
  | [] => .error (.unreadableScenario ("no scenario files under " ++ path))
  | files => do return ⟨← merge path files⟩

def load (d : Disk) (path : String) : Except Failure Scenario :=
  match d.find path with
  | .ok (.present l .folder) => ofFolder d path l
  | _ => ofFile d path

end Rehearsal.Scenario
