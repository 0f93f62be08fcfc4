import Rehearsal.Program
import Std.Time

/-!
The command: takes a snapshot of the part of the disk that a run looks at, runs the program on it,
writes what has changed and prints the log.
-/
namespace Rehearsal.Command

def written (l : Disk.Location) : String := "/" ++ "/".intercalate l

/-- The entry at a location, a file without its content unless that is wanted. A link is taken to lead to
where it ends, or to itself if that is nowhere. -/
def entry? (withContent : Bool) (l : Disk.Location) : IO (Option Disk.Entry) := do
  let path := (← IO.currentDir) / written l
  try
    match (← path.symlinkMetadata).type with
    | .dir => return some .folder
    | .file => return some (.file (← if withContent then IO.FS.readBinFile path else pure .empty))
    | .symlink =>
      let target ← try pure (← IO.FS.realPath path).toString catch _ => pure (written l)
      return some (.link target)
    | .other => return none
  catch _ => return none

/-- Adds to a snapshot what is met on following names from a folder, and with contents all below their
end. -/
partial def capture (withContent : Bool) (d : Disk) (here : Disk.Location) :
    List String → IO Disk
  | [] => do
    let mut d := d
    if !withContent then return d
    for e in ← ((← IO.currentDir) / written here).readDir do
      let l := here ++ [e.fileName]
      match ← entry? withContent l with
      | some .folder => d ← capture withContent (d.set l .folder) l []
      | some entry => d := d.set l entry
      | none => pure ()
    return d
  | name :: rest => do
    if name = "" ∨ name = "." then capture withContent d here rest
    else if name = ".." then capture withContent d here.dropLast rest
    else
      let l := here ++ [name]
      match ← entry? withContent l with
      | none => return d
      | some .folder => capture withContent (d.set l .folder) l rest
      | some (.file content) => return d.set l (.file content)
      | some (.link target) =>
        let d := d.set l (.link target)
        if target = written l then return d
        else capture withContent d [] ((Disk.Path.ofText target).names ++ rest)

/-- The disk as far as some paths show it, with contents for the second of them. -/
def snapshot (probed paths : List String) : IO Disk := do
  let home := (Disk.Path.ofText (← IO.currentDir).toString).names.filter (· ≠ "")
  let mut d : Disk := ⟨home, []⟩
  for (path, withContent) in probed.map (·, false) ++ paths.map (·, true) do
    let p := Disk.Path.ofText path
    d ← capture withContent d (if p.absolute then [] else home) p.names
  return d

/-- Writes the entries that differ from the snapshot. -/
def restore (before after : Disk) : IO Unit := do
  for (l, e) in after.entries do
    match e with
    | .folder => if (before.entry? l).isNone then IO.FS.createDirAll (written l)
    | .file content =>
      if !before.holds l content then IO.FS.writeBinFile (written l) content
    | .link _ => pure ()

def environment : IO (List (String × String)) := do
  let mut env := []
  for name in Program.variableNames do
    if let some value ← IO.getEnv name then env := (name, value) :: env
  return env

/-- A random identifier and the present time. -/
def stamp : IO Run.Stamp := do
  let numbers ← (List.range 32).mapM fun _ => IO.rand 0 15
  let now := (← Std.Time.Timestamp.now).toSecondsSinceUnixEpoch
  return ⟨.random fun i => numbers.getD i 0, .ofSeconds now.val.toNat 0⟩

def run (args : List String) : IO UInt32 := do
  let env ← environment
  let before ← snapshot (Program.probedPaths env args) (Program.paths env args)
  let ending := Program.unequipped (← stamp) env args before
  IO.print ending.notice
  IO.eprint ending.warning
  restore before ending.disk
  (ending.log.map (·.line)).forM IO.println
  return UInt32.ofNat ending.exit

end Rehearsal.Command

def main (args : List String) : IO UInt32 := Rehearsal.Command.run args
