import Rehearsal.Text.Blank
import Rehearsal.Text.Cut

/-!
INI texts. A line `[name]` opens a section, a line `key = value` sets a key of the open section; blank
lines, comments and assignments outside a section are skipped. A repeated header starts its section
over.
-/
namespace Rehearsal

/-- The keys of a section with their values; a key occurs once. -/
abbrev Ini.Block := List (String × String)

structure Ini where
  blocks : List (String × Ini.Block)
deriving DecidableEq, Repr

namespace Ini

/-- Sets the value of a key, in its place if it has one. -/
def put (key : String) (value : α) : List (String × α) → List (String × α)
  | [] => [(key, value)]
  | (k, v) :: rest => if k = key then (key, value) :: rest else (k, v) :: put key value rest

inductive Line
  | header (name : String)
  | assignment (key value : String)
  | other
deriving DecidableEq, Repr

/-- The name between brackets, if the line has them at both ends. -/
def headerName? (line : List Char) : Option (List Char) :=
  match line with
  | '[' :: rest => if rest.getLast? = some ']' then some rest.dropLast else none
  | _ => none

/-- What a trimmed line says. -/
def Line.ofChars (line : List Char) : Line :=
  if line.isEmpty || line.head? = some '#' then .other
  else match headerName? line with
    | some name => .header (String.ofList name)
    | none =>
      match Text.cut '=' line with
      | some (key, value) =>
        let key := Text.trim key
        if key.isEmpty then .other
        else .assignment (String.ofList key) (String.ofList (Text.trim value))
      | none => .other

structure Reading where
  table : Ini
  current : Option String

def Reading.step (r : Reading) : Line → Reading
  | .header name => ⟨⟨put name [] r.table.blocks⟩, some name⟩
  | .assignment key value =>
    match r.current with
    | none => r
    | some name =>
      match r.table.blocks.lookup name with
      | none => r
      | some block => ⟨⟨put name (put key value block) r.table.blocks⟩, r.current⟩
  | .other => r

def linesOf (text : String) : List Line :=
  (Text.lines text.toList).map fun line => Line.ofChars (Text.trim line)

def ofText (text : String) : Ini :=
  ((linesOf text).foldl Reading.step ⟨⟨[]⟩, none⟩).table

def get? (t : Ini) (name key : String) : Option String := do
  (← t.blocks.lookup name).lookup key

def hasSection (t : Ini) (name : String) : Bool :=
  (t.blocks.lookup name).isSome

def sectionCount (t : Ini) : Nat := t.blocks.length

/-- Whether every section and key of the one table has the same value in the other. -/
def within (a b : Ini) : Bool :=
  a.blocks.all fun (name, block) =>
    b.hasSection name && block.all fun (key, value) => b.get? name key == some value

/-- Whether two tables have the same sections and keys with the same values. -/
def agrees (a b : Ini) : Bool := a.within b && b.within a

end Ini

end Rehearsal
