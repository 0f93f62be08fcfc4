import Rehearsal.Json.Numeral
import Rehearsal.Json.Quotation

/-!
JSON documents without places, and their two written forms: on one line without blanks, and with a
member or element a line, indented by two spaces.
-/
namespace Rehearsal.Json

inductive Document
  | null
  | bool (b : Bool)
  | number (n : Number)
  | string (s : String)
  | array (elements : List Document)
  | object (members : List (String × Document))

namespace Document

def nat (n : Nat) : Document := .number (.integer n)

def ofOption (write : α → Document) : Option α → Document
  | none => .null
  | some a => write a

def ofList (write : α → Document) (xs : List α) : Document := .array (xs.map write)

end Document

def Number.write : Number → List Char
  | .integer n => (if n < 0 then ['-'] else []) ++ Nat.toDigits 10 n.natAbs
  | .double bits => (Decimal.ofBits bits).toList

def separate (separator : List Char) : List (List Char) → List Char
  | [] => []
  | [x] => x
  | x :: xs => x ++ separator ++ separate separator xs

/-- A line feed and the indentation of a level. -/
def newLine (level : Nat) : List Char :=
  '\n' :: List.replicate (2 * level) ' '

/-- Items between brackets, each on a line of its own; without items the brackets alone. -/
def block (opening closing : Char) (level : Nat) (items : List (List Char)) : List Char :=
  if items.isEmpty then [opening, closing]
  else opening :: newLine (level + 1) ++ separate (',' :: newLine (level + 1)) items ++
    newLine level ++ [closing]

mutual

def Document.compact : Document → List Char
  | .null => "null".toList
  | .bool b => (if b then "true" else "false").toList
  | .number n => n.write
  | .string s => Quotation.write s.toList
  | .array xs => '[' :: separate [','] (compactElements xs) ++ [']']
  | .object ms => '\x7b' :: separate [','] (compactMembers ms) ++ ['\x7d']

def compactElements : List Document → List (List Char)
  | [] => []
  | x :: xs => x.compact :: compactElements xs

def compactMembers : List (String × Document) → List (List Char)
  | [] => []
  | (key, x) :: ms => (Quotation.write key.toList ++ ':' :: x.compact) :: compactMembers ms

end

mutual

def Document.pretty (level : Nat) : Document → List Char
  | .null => "null".toList
  | .bool b => (if b then "true" else "false").toList
  | .number n => n.write
  | .string s => Quotation.write s.toList
  | .array xs => block '[' ']' level (prettyElements (level + 1) xs)
  | .object ms => block '\x7b' '\x7d' level (prettyMembers (level + 1) ms)

def prettyElements (level : Nat) : List Document → List (List Char)
  | [] => []
  | x :: xs => x.pretty level :: prettyElements level xs

def prettyMembers (level : Nat) : List (String × Document) → List (List Char)
  | [] => []
  | (key, x) :: ms =>
    (Quotation.write key.toList ++ ':' :: ' ' :: x.pretty level) :: prettyMembers level ms

end

end Rehearsal.Json
