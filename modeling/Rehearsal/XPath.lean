import Rehearsal.Text.Blank
import Rehearsal.Text.Cut

/-!
Texts as XPath 1.0 string expressions. A literal stands between apostrophes or between quotes and has
no escapes, so a text that holds both is a concatenation of literals.
-/
namespace Rehearsal.XPath

def apostrophe : Char := '\''

def single (s : List Char) : List Char := apostrophe :: s ++ [apostrophe]

def double (s : List Char) : List Char := '"' :: s ++ ['"']

/-- The arguments of the concatenation: the parts between apostrophes, with apostrophes between. -/
def concatenation (parts : List (List Char)) : List Char :=
  "concat(".toList ++ (", \"'\", ".toList).intercalate (parts.map single) ++ [')']

def literalChars (s : List Char) : List Char :=
  if !s.contains apostrophe then single s
  else if !s.contains '"' then double s
  else concatenation (Text.splitAll apostrophe s)

/-- An expression whose value is the text. -/
def literal (s : String) : String := String.ofList (literalChars s.toList)

/-- The condition that the first text of an element reads `s`, blanks aside. -/
def textEquals (s : String) : String :=
  "normalize-space(text())=" ++ literal (Text.collapse s)

end Rehearsal.XPath
