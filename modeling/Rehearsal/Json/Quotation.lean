import Rehearsal.Json.Cursor

/-!
Strings of a JSON text, read from behind the opening quote. `read` gives the content and insists on
paired surrogates; `skip` only finds the end. `write` is the other direction.
-/
namespace Rehearsal.Json.Quotation

def hexValue? (c : Char) : Option Nat :=
  if '0' ≤ c ∧ c ≤ '9' then some (c.toNat - '0'.toNat)
  else if 'a' ≤ c ∧ c ≤ 'f' then some (c.toNat - 'a'.toNat + 10)
  else if 'A' ≤ c ∧ c ≤ 'F' then some (c.toNat - 'A'.toNat + 10)
  else none

def hex4? (a b c d : Char) : Option Nat := do
  return (((← hexValue? a) * 16 + (← hexValue? b)) * 16 + (← hexValue? c)) * 16 + (← hexValue? d)

/-- What is wrong with the text behind `\u`, which begins at `n`, if it is not four digits. -/
def hexFault (rest : List Char) (n : Nat) : Fault :=
  if Cursor.bytes rest < 4 then ⟨.endInString, n + Cursor.bytes rest⟩ else ⟨.badEscape, n + 4⟩

def simpleEscape? : Char → Option Char
  | '"' => some '"'
  | '\\' => some '\\'
  | '/' => some '/'
  | 'b' => some '\x08'
  | 'f' => some '\x0c'
  | 'n' => some '\n'
  | 'r' => some '\r'
  | 't' => some '\t'
  | _ => none

def isHigh (u : Nat) : Bool := 0xD800 ≤ u && u ≤ 0xDBFF

def isLow (u : Nat) : Bool := 0xDC00 ≤ u && u ≤ 0xDFFF

def pair (high low : Nat) : Char :=
  Char.ofNat ((high - 0xD800) * 0x400 + (low - 0xDC00) + 0x10000)

def add (c : Char) : List Char × Cursor → List Char × Cursor
  | (cs, rest) => (c :: cs, rest)

/-- The content of a string and the cursor behind its closing quote. -/
def read : List Char → Nat → Except Fault (List Char × Cursor)
  | [], n => .error ⟨.endInString, n⟩
  | '"' :: rest, n => .ok ([], ⟨rest, n + 1⟩)
  | ['\\'], n => .error ⟨.endInString, n + 1⟩
  | '\\' :: 'u' :: a :: b :: c :: d :: rest, n =>
    match hex4? a b c d with
    | none => .error (hexFault (a :: b :: c :: d :: rest) (n + 2))
    | some u =>
      if isLow u then .error ⟨.loneSurrogate, n + 6⟩
      else if !isHigh u then add (Char.ofNat u) <$> read rest (n + 6)
      else match rest with
        | [] => .error ⟨.endInString, n + 6⟩
        | '\\' :: [] => .error ⟨.endInString, n + 7⟩
        | '\\' :: 'u' :: e :: f :: g :: h :: rest =>
          match hex4? e f g h with
          | none => .error (hexFault (e :: f :: g :: h :: rest) (n + 8))
          | some v =>
            if isLow v then add (pair u v) <$> read rest (n + 12)
            else .error ⟨.loneSurrogate, n + 12⟩
        | '\\' :: 'u' :: rest => .error (hexFault rest (n + 8))
        | '\\' :: _ => .error ⟨.unfinishedSurrogate, n + 8⟩
        | _ :: _ => .error ⟨.unfinishedSurrogate, n + 7⟩
  | '\\' :: 'u' :: rest, n => .error (hexFault rest (n + 2))
  | '\\' :: e :: rest, n =>
    match simpleEscape? e with
    | some c => add c <$> read rest (n + 2)
    | none => .error ⟨.badEscape, n + 2⟩
  | c :: rest, n =>
    if c.toNat < 0x20 then .error ⟨.controlCharacter, n + 1⟩
    else add c <$> read rest (n + c.utf8Size)

/-- The cursor behind the closing quote, whatever the escapes stand for. -/
def skip : List Char → Nat → Except Fault Cursor
  | [], n => .error ⟨.endInString, n⟩
  | '"' :: rest, n => .ok ⟨rest, n + 1⟩
  | ['\\'], n => .error ⟨.endInString, n + 1⟩
  | '\\' :: 'u' :: a :: b :: c :: d :: rest, n =>
    match hex4? a b c d with
    | none => .error (hexFault (a :: b :: c :: d :: rest) (n + 2))
    | some _ => skip rest (n + 6)
  | '\\' :: 'u' :: rest, n => .error (hexFault rest (n + 2))
  | '\\' :: e :: rest, n =>
    if (simpleEscape? e).isSome then skip rest (n + 2) else .error ⟨.badEscape, n + 2⟩
  | c :: rest, n =>
    if c.toNat < 0x20 then .error ⟨.controlCharacter, n⟩ else skip rest (n + c.utf8Size)

def hexDigit (n : Nat) : Char :=
  Char.ofNat (if n < 10 then n + 48 else n + 87)

/-- A character as it is written: quote, backslash and controls are escaped. -/
def escape (c : Char) : List Char :=
  match c with
  | '"' => ['\\', '"']
  | '\\' => ['\\', '\\']
  | '\x08' => ['\\', 'b']
  | '\x0c' => ['\\', 'f']
  | '\n' => ['\\', 'n']
  | '\r' => ['\\', 'r']
  | '\t' => ['\\', 't']
  | c =>
    if c.toNat < 0x20 then ['\\', 'u', '0', '0', hexDigit (c.toNat / 16), hexDigit (c.toNat % 16)]
    else [c]

def write (s : List Char) : List Char :=
  '"' :: s.flatMap escape ++ ['"']

end Rehearsal.Json.Quotation
