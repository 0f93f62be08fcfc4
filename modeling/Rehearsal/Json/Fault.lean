import Rehearsal.Decimal.Shortest
import Rehearsal.Text.Quoted

/-!
What can be wrong with a JSON text, and where. A fault has a cause and the number of bytes of the
text that were looked at when it was found; a report gives the place as line and column.
-/
namespace Rehearsal.Json

/-- What stands where something else was expected. A double is given by its bits. -/
inductive Found
  | null
  | bool (b : Bool)
  | integer (n : Int)
  | double (bits : UInt64)
  | text (s : String)
  | sequence
  | map
deriving DecidableEq, Repr

def Found.describe : Found → String
  | .null => "null"
  | .bool true => "boolean `true`"
  | .bool false => "boolean `false`"
  | .integer n => "integer `" ++ toString n ++ "`"
  | .double bits => "floating point `" ++ Decimal.ofBits bits ++ "`"
  | .text s => "string " ++ Text.quoted s
  | .sequence => "sequence"
  | .map => "map"

/-- Faults of grammar first, then faults of shape. -/
inductive Cause
  | endInValue
  | endInList
  | endInObject
  | endInString
  | valueExpected
  | wordExpected
  | listGoesOn
  | objectGoesOn
  | colonExpected
  | keyExpected
  | trailingComma
  | trailingCharacters
  | controlCharacter
  | badEscape
  | loneSurrogate
  | unfinishedSurrogate
  | badNumber
  | numberTooLarge
  | tooDeep
  | wrongType (found : Found) (expected : String)
  | wrongValue (found : Found) (expected : String)
  | missingField (name : String)
  | duplicateField (name : String)
  | wrongLength (found : Nat) (title : String) (fields : Nat)
  | noVariant (title : String)
deriving DecidableEq, Repr

def Cause.message : Cause → String
  | .endInValue => "EOF while parsing a value"
  | .endInList => "EOF while parsing a list"
  | .endInObject => "EOF while parsing an object"
  | .endInString => "EOF while parsing a string"
  | .valueExpected => "expected value"
  | .wordExpected => "expected ident"
  | .listGoesOn => "expected `,` or `]`"
  | .objectGoesOn => "expected `,` or `\x7d`"
  | .colonExpected => "expected `:`"
  | .keyExpected => "key must be a string"
  | .trailingComma => "trailing comma"
  | .trailingCharacters => "trailing characters"
  | .controlCharacter => "control character (\\u0000-\\u001F) found while parsing a string"
  | .badEscape => "invalid escape"
  | .loneSurrogate => "lone leading surrogate in hex escape"
  | .unfinishedSurrogate => "unexpected end of hex escape"
  | .badNumber => "invalid number"
  | .numberTooLarge => "number out of range"
  | .tooDeep => "recursion limit exceeded"
  | .wrongType found expected => "invalid type: " ++ found.describe ++ ", expected " ++ expected
  | .wrongValue found expected => "invalid value: " ++ found.describe ++ ", expected " ++ expected
  | .missingField name => "missing field `" ++ name ++ "`"
  | .duplicateField name => "duplicate field `" ++ name ++ "`"
  | .wrongLength found title fields =>
    "invalid length " ++ toString found ++ ", expected " ++ title ++ " with " ++ toString fields ++
      (if fields = 1 then " element" else " elements")
  | .noVariant title => "data did not match any variant of untagged enum " ++ title

/-- A cause and the number of bytes that were looked at. -/
structure Fault where
  cause : Cause
  upto : Nat
deriving DecidableEq, Repr

/-- A cause and its place: the line counts line feeds from 1, the column counts the bytes after the
last of them. -/
structure Report where
  cause : Cause
  line : Nat
  column : Nat
deriving DecidableEq, Repr

/-- Line and column of the end of the first `upto` bytes, from `offset` on in the line `line`, which
begins at `start`. -/
def place (upto line start offset : Nat) : List Char → Nat × Nat
  | [] => (line, upto - start)
  | c :: rest =>
    let next := offset + c.utf8Size
    if upto < next then (line, upto - start)
    else if c = '\n' then place upto (line + 1) next next rest
    else place upto line start next rest

def Fault.locate (f : Fault) (text : List Char) : Report :=
  let (line, column) := place f.upto 1 0 0 text
  ⟨f.cause, line, column⟩

def Report.message (r : Report) : String :=
  r.cause.message ++ " at line " ++ toString r.line ++ " column " ++ toString r.column

end Rehearsal.Json
