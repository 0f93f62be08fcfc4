import Rehearsal.Json.Reader

/-!
Records in JSON. A layout lists the fields of a record with a reader for each. A record is written
as an object, whose members may come in any order and whose unknown members are skipped, or as an
array of the fields in order.
-/
namespace Rehearsal.Json

inductive Form
  | object
  | array
deriving DecidableEq

structure Layout (F : Type) (α : Type) where
  /-- What the record is called in complaints. -/
  title : String
  fields : List F
  Value : F → Type
  name : F → String
  /-- The field that a member of this name belongs to. -/
  field? : String → Option F
  /-- The value of a field that is not written, unless it is required. -/
  absent : Form → (f : F) → Option (Value f)
  /-- Reads a field; `settled` is the place for complaints without a place of their own. -/
  read : (f : F) → Node → (settled : Nat) → Except Fault (Value f)
  /-- Builds the record; an error is the first required field that is missing. -/
  build : ((f : F) → Except F (Value f)) → Except F α

namespace Layout

variable {F : Type} [DecidableEq F] {α : Type} (l : Layout F α)

/-- The fields read so far. -/
abbrev Draft := (f : F) → Option (l.Value f)

def Draft.empty : l.Draft := fun _ => none

variable {l}

def Draft.set (d : l.Draft) (f : F) (v : l.Value f) : l.Draft := fun g =>
  if h : f = g then some (h ▸ v) else d g

variable (l)

/-- The record of a draft. -/
def finish (form : Form) (d : l.Draft) : Except F α :=
  l.build fun f =>
    match (d f).or (l.absent form f) with
    | some v => .ok v
    | none => .error f

/-- Reads the members of an object, and gives the place behind it. -/
def gather : Members → l.Draft → Except Fault (l.Draft × Nat)
  | .closed stop, d => .ok (d, stop)
  | .torn wanted _, _ => .error wanted
  | .next key named node settled rest, d => do
    match l.field? (← key) with
    | none => node.skim; gather rest d
    | some f =>
      if (d f).isSome then .error ⟨.duplicateField (l.name f), named⟩
      else gather rest (d.set f (← l.read f node settled))

/-- Reads the elements of an array field by field; nothing may follow the last field. -/
def fill : List F → Elements → l.Draft → Except Fault (l.Draft × Nat)
  | _, .closed stop, d => .ok (d, stop)
  | [], .torn _ _ finished, _ => .error finished
  | [], .next start _ _ _, _ => .error ⟨.trailingCharacters, start + 1⟩
  | _ :: _, .torn wanted _ _, _ => .error wanted
  | f :: fs, .next _ node settled rest, d => do
    fill fs rest (d.set f (← l.read f node settled))

def ofNode : Node → Except Fault α
  | .object _ members => do
    let (d, stop) ← l.gather members (Draft.empty l)
    match l.finish .object d with
    | .ok a => .ok a
    | .error f => .error ⟨.missingField (l.name f), stop⟩
  | .array _ elements => do
    let (d, stop) ← l.fill l.fields elements (Draft.empty l)
    match l.finish .array d with
    | .ok a => .ok a
    | .error f => .error ⟨.wrongLength (l.fields.idxOf f) l.title l.fields.length, stop⟩
  | node => .error (node.refuse l.title)

end Layout

end Rehearsal.Json
