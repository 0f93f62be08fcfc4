import Rehearsal.Text.Quoted.Table

/-!
Texts, lists and sets in messages. A text stands in double quotes; a few characters have an escape of
one letter, every other character that would not be seen is written by its code point in braces.
-/
namespace Rehearsal.Text.Quoted

/-- Lower-case hexadecimal digits without leading zeros. -/
def hex (n : Nat) : List Char :=
  Nat.toDigits 16 n

def isShown (c : Char) : Bool :=
  !unprintable.has c && !fillers.has c && !extendingMarks.has c

def escape (c : Char) : List Char :=
  match c with
  | '\x00' => ['\\', '0']
  | '\t' => ['\\', 't']
  | '\n' => ['\\', 'n']
  | '\r' => ['\\', 'r']
  | '"' => ['\\', '"']
  | '\\' => ['\\', '\\']
  | c => if isShown c then [c] else ['\\', 'u', '\x7b'] ++ hex c.toNat ++ ['\x7d']

end Rehearsal.Text.Quoted

namespace Rehearsal.Text

/-- A text in double quotes, with escapes. -/
def quoted (s : String) : String :=
  String.ofList ('"' :: s.toList.flatMap Quoted.escape ++ ['"'])

def quotedList (xs : List String) : String :=
  "[" ++ ", ".intercalate (xs.map quoted) ++ "]"

def quotedSet (xs : List String) : String :=
  "\x7b" ++ ", ".intercalate (xs.map quoted) ++ "\x7d"

end Rehearsal.Text
