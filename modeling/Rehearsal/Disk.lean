import Rehearsal.Disk.Fault
import Rehearsal.Text.Cut

/-!
A disk: entries at locations, where a location is the list of names from the root. A path is followed
name by name from the root or from the home folder, through links, of which a path may meet forty.
-/
namespace Rehearsal

namespace Disk

inductive Entry
  | file (content : ByteArray)
  | folder
  | link (target : String)

abbrev Location := List String

end Disk

/-- The entries stand in the order in which the disk lists them; the root is not among them. -/
structure Disk where
  home : Disk.Location
  entries : List (Disk.Location × Disk.Entry)

namespace Disk

def entry? (d : Disk) (l : Location) : Option Entry :=
  if l = [] then some .folder else d.entries.lookup l

/-- Whether a file with this content is at a location. -/
def holds (d : Disk) (l : Location) (content : ByteArray) : Bool :=
  match d.entry? l with
  | some (.file there) => there.data == content.data
  | _ => false

/-- Puts an entry at a location, in the place of the one that is there. -/
def put (l : Location) (e : Entry) : List (Location × Entry) → List (Location × Entry)
  | [] => [(l, e)]
  | (l', e') :: rest => if l' = l then (l, e) :: rest else (l', e') :: put l e rest

def set (d : Disk) (l : Location) (e : Entry) : Disk := { d with entries := put l e d.entries }

/-- A path as it is written: whether it starts at the root, and the names between its slashes, which
may be empty. -/
structure Path where
  absolute : Bool
  names : List String
deriving DecidableEq

def Path.ofText (s : String) : Path where
  absolute := s.toList.head? = some '/'
  names := (Text.splitAll '/' s.toList).map String.ofList

/-- What a path leads to: an entry, or a free location in a folder. -/
inductive Place
  | present (l : Location) (e : Entry)
  | vacant (l : Location)

/-- What a path is followed for: to see what is there, to get hold of an entry itself even if it is a
link, or to open a file that is made if it is missing. -/
inductive Aim
  | see
  | grasp
  | make
deriving DecidableEq

/-- Follows names from a folder. A file is not made under a name with a slash behind it, whatever is
there. -/
def walk (d : Disk) (aim : Aim) (links : Nat) (here : Location) :
    List String → Except Refusal Place
  | [] => .ok (.present here .folder)
  | name :: rest =>
    if name = "" ∨ name = "." then walk d aim links here rest
    else if name = ".." then walk d aim links here.dropLast rest
    else if aim = .make ∧ rest ≠ [] ∧ rest.all (· = "") then .error .isDirectory
    else if 255 < name.utf8ByteSize then .error .nameTooLong
    else match d.entry? (here ++ [name]) with
      | none => if rest.all (· = "") then .ok (.vacant (here ++ [name])) else .error .notFound
      | some .folder => walk d aim links (here ++ [name]) rest
      | some (.file content) =>
        if rest = [] then .ok (.present (here ++ [name]) (.file content)) else .error .notDirectory
      | some (.link target) =>
        if rest = [] ∧ aim = .grasp then .ok (.present (here ++ [name]) (.link target))
        else match links with
          | 0 => .error .tooManyLinks
          | links + 1 =>
            let p := Path.ofText target
            walk d aim links (if p.absolute then [] else here) (p.names ++ rest)
termination_by names => (links, names.length)

def follow (d : Disk) (aim : Aim) (p : Path) : Except Refusal Place :=
  walk d aim 40 (if p.absolute then [] else d.home) p.names

/-- Paths are shorter than this number of bytes. -/
def pathLimit : Nat := 4096

/-- Where a written path leads. -/
def find (d : Disk) (path : String) (aim : Aim := .see) : Except Fault Place :=
  if path.toList.contains '\x00' then .error .nulInName
  else if path = "" then .error (.refused .notFound)
  else if pathLimit ≤ path.utf8ByteSize then .error (.refused .nameTooLong)
  else (d.follow aim (.ofText path)).mapError .refused

def has (d : Disk) (path : String) : Bool :=
  match d.find path with
  | .ok (.present ..) => true
  | _ => false

def hasFile (d : Disk) (path : String) : Bool :=
  match d.find path with
  | .ok (.present _ (.file _)) => true
  | _ => false

/-- The text of a content that is UTF-8. -/
def decode (content : ByteArray) : Except Fault String :=
  match String.fromUTF8? content with
  | some s => .ok s
  | none => .error .notUtf8

def readText (d : Disk) (path : String) : Except Fault String := do
  match ← d.find path with
  | .present _ (.file content) => decode content
  | .present _ _ => .error (.refused .isDirectory)
  | .vacant _ => .error (.refused .notFound)

/-- Gives a file a content, and makes the file if there is none. -/
def write (d : Disk) (path : String) (content : ByteArray) : Except Fault Disk := do
  match ← d.find path .make with
  | .present l (.file _) => return d.set l (.file content)
  | .present _ _ => .error (.refused .isDirectory)
  | .vacant l => return d.set l (.file content)

/-- Opens a file for writing at its end, and makes an empty file if there is none. -/
def openToAppend (d : Disk) (path : String) : Except Fault (Location × Disk) := do
  match ← d.find path .make with
  | .present l (.file _) => return (l, d)
  | .present _ _ => .error (.refused .isDirectory)
  | .vacant l => return (l, d.set l (.file .empty))

/-- Writes a text at the end of the file at a location. -/
def append (d : Disk) (l : Location) (text : String) : Disk :=
  match d.entry? l with
  | some (.file content) => d.set l (.file (content ++ text.toUTF8))
  | _ => d

/-- Makes one folder. A link in its place is not followed. -/
def makeFolder (d : Disk) (p : Path) : Except Refusal Disk := do
  let names := (p.names.reverse.dropWhile (· = "")).reverse
  match ← d.follow .grasp { p with names } with
  | .present .. => .error .exists
  | .vacant l => return d.set l .folder

def leadsToFolder (d : Disk) (p : Path) : Bool :=
  match d.follow .see p with
  | .ok (.present _ .folder) => true
  | _ => false

/-- Makes a folder and those above it that are missing. `names` is the path without empty names and
inner dots, last name first; `written` is how the folder itself is written. -/
def makeFoldersAt (d : Disk) (absolute : Bool) (written : List String) :
    List String → Except Refusal Disk
  | [] => .ok d
  | _ :: above => do
    let p : Path := ⟨absolute, written⟩
    let again (d : Disk) : Except Refusal Disk :=
      match d.makeFolder p with
      | .ok d => .ok d
      | .error r => if d.leadsToFolder p then .ok d else .error r
    match d.makeFolder p with
    | .ok d => .ok d
    | .error .notFound => again (← makeFoldersAt d absolute above.reverse above)
    | .error r => if d.leadsToFolder p then .ok d else .error r

/-- The names of a path without empty ones and without dots, but for a dot at its beginning. -/
def Path.normal (p : Path) : List String :=
  match p.names with
  | [] => []
  | first :: rest =>
    (if first = "" ∨ (first = "." ∧ p.absolute) then [] else [first]) ++
      rest.filter fun name => name ≠ "" ∧ name ≠ "."

def makeFolders (d : Disk) (path : String) : Except Fault Disk :=
  if path.toList.contains '\x00' then .error .nulInName
  else if pathLimit ≤ path.utf8ByteSize then .error (.refused .nameTooLong)
  else
    let p := Path.ofText path
    (d.makeFoldersAt p.absolute p.names p.normal.reverse).mapError .refused

/-- A path with a name behind it. -/
def join (path name : String) : String :=
  if path = "" ∨ path.toList.getLast? = some '/' then path ++ name else path ++ "/" ++ name

/-- The files below a folder, links not followed: their names from the folder on, and contents. -/
def filesBelow (d : Disk) (l : Location) : List (List String × ByteArray) :=
  d.entries.filterMap fun (l', e) =>
    match e with
    | .file content =>
      if l <+: l' ∧ l' ≠ l then some (l'.drop l.length, content) else none
    | _ => none

/-- Takes the entry at the end of a path off the disk; folders stay. -/
def remove (d : Disk) (path : String) : Disk :=
  match d.follow .grasp (.ofText path) with
  | .ok (.present _ .folder) => d
  | .ok (.present l _) => { d with entries := d.entries.filter fun (l', _) => l' ≠ l }
  | _ => d

/-- Puts an entry at the end of a path, with the folders above it. -/
def install (d : Disk) (path : String) (e : Entry) : Disk :=
  let p := Path.ofText path
  match e with
  | .folder => (d.makeFoldersAt p.absolute p.names p.normal.reverse).toOption.getD d
  | _ =>
    let above := p.normal.dropLast
    let d := (d.makeFoldersAt p.absolute above above.reverse).toOption.getD d
    let aim := match e with
      | .link _ => Aim.grasp
      | _ => .see
    match d.follow aim p with
    | .ok (.vacant l) => d.set l e
    | .ok (.present l (.file _)) => d.set l e
    | _ => d

end Disk

end Rehearsal
