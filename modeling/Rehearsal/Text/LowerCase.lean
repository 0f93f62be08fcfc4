import Rehearsal.Text.LowerCase.Table

/-!
The lower case of a text. Each character has its own lower case, but for two rules: capital I with a
dot above becomes two characters, and a capital sigma at the end of a word takes its final form.
-/
namespace Rehearsal.Text.LowerCase

def capitalSigma : Char := 'Σ'

/-- The lower case of a character wherever it stands. -/
def ofChar (c : Char) : List Char :=
  if c.toNat = 0x130 then ['i', Char.ofNat 0x307]
  else match runs.findSome? (·.target? c.toNat) with
    | some n => [Char.ofNat n]
    | none => [c]

/-- Whether the nearest character that is not case-ignorable is cased. -/
def nextIsCased (s : List Char) : Bool :=
  ((s.dropWhile caseIgnorable.has).head?.map cased.has).getD false

/-- A sigma is final after a cased letter and before none. `before` is in reverse. -/
def sigma (before after : List Char) : Char :=
  if nextIsCased before && !nextIsCased after then 'ς' else 'σ'

def convert (before : List Char) : List Char → List Char
  | [] => []
  | c :: rest =>
    (if c = capitalSigma then [sigma before rest] else ofChar c) ++ convert (c :: before) rest

end Rehearsal.Text.LowerCase

namespace Rehearsal.Text

def lowerCase (s : String) : String :=
  String.ofList (LowerCase.convert [] s.toList)

end Rehearsal.Text
