import Rehearsal.Json.Cursor

/-!
Numbers of a JSON text. A numeral is read digit by digit and then given a value: an integer if it has
neither fraction nor exponent and fits 64 bits, and a double if not.

The double is computed from the digits that fit 64 bits and a power of ten, so it may differ in the
last place from the double nearest to the numeral.
-/
namespace Rehearsal.Json

/-- The value of a numeral. A double is given by its bits. -/
inductive Number
  | integer (n : Int)
  | double (bits : UInt64)
deriving DecidableEq, Repr

def Number.found : Number → Found
  | .integer n => .integer n
  | .double bits => .double bits

structure Exponent where
  negative : Bool
  digits : List Char
  /-- Number of bytes of the text before the digits. -/
  offset : Nat
deriving DecidableEq, Repr

structure Numeral where
  negative : Bool
  whole : List Char
  fraction : Option (List Char)
  exponent : Option Exponent
deriving DecidableEq, Repr

namespace Numeral

/-- At least one digit; if there is none, the cursor where it is missing. -/
def digits (c : Cursor) : Except Cursor (List Char × Cursor) :=
  match c.takeWhile Char.isDigit with
  | ([], _) => .error c
  | found => .ok found

/-- A first digit `0` stands alone. -/
def readWhole (c : Cursor) : Except Cursor (List Char × Cursor) :=
  match c.eat? '0' with
  | some c' =>
    match c'.takeWhile Char.isDigit with
    | ([], _) => .ok (['0'], c')
    | _ => .error c'
  | none => digits c

def readFraction (c : Cursor) : Except Cursor (Option (List Char) × Cursor) :=
  match c.eat? '.' with
  | none => .ok (none, c)
  | some c => do
    let (ds, c) ← digits c
    return (some ds, c)

def readExponent (c : Cursor) : Except Cursor (Option Exponent × Cursor) :=
  match (c.eat? 'e').or (c.eat? 'E') with
  | none => .ok (none, c)
  | some c => do
    let signed := (c.eat? '-').isSome
    let c := if signed then c.pass '-' else c.pass '+'
    let (ds, c') ← digits c
    return (some ⟨signed, ds, c.offset⟩, c')

/-- Reads a numeral; an error is the cursor at which a digit is missing or one too many. -/
def read (c : Cursor) : Except Cursor (Numeral × Cursor) := do
  let negative := (c.eat? '-').isSome
  let (whole, c) ← readWhole (c.pass '-')
  let (fraction, c) ← readFraction c
  let (exponent, c) ← readExponent c
  return (⟨negative, whole, fraction, exponent⟩, c)

def digitValue (c : Char) : Nat := c.toNat - '0'.toNat

/-- Digits taken into 64 bits as long as they fit, and the number of digits left over. -/
def takeDigits : Nat → List Char → Nat × Nat
  | significand, [] => (significand, 0)
  | significand, d :: ds =>
    let next := significand * 10 + digitValue d
    if next < UInt64.size then takeDigits next ds else (significand, ds.length + 1)

/-- The value of the exponent's digits, or, if it passes 31 bits, the number of digits read then. -/
def exponentValue : Nat → Nat → List Char → Except Nat Nat
  | value, _, [] => .ok value
  | value, count, d :: ds =>
    let next := value * 10 + digitValue d
    if next < UInt32.size / 2 then exponentValue next (count + 1) ds else .error (count + 1)

/-- Divides by `10^308` until the exponent is in the range of the doubles or nothing is left. -/
def shrink : Nat → Float → Nat → Float
  | 0, f, _ => f
  | n + 1, f, e =>
    if e ≤ 308 then f / Float.ofScientific 1 false e
    else if f == 0 then f
    else shrink n (f / 1e308) (e - 308)

/-- `significand · 10^exponent`, or `none` if it is too large for a double. -/
def scale? (significand : Nat) (exponent : Int) : Option Float :=
  let f := (UInt64.ofNat significand).toFloat
  if 0 ≤ exponent then
    if exponent ≤ 308 then
      let g := f * Float.ofScientific 1 false exponent.toNat
      if g.isInf then none else some g
    else if f == 0 then some f
    else none
  else some (shrink 4 f exponent.natAbs)

def signed (negative : Bool) (f : Float) : Number :=
  .double (if negative then -f else f).toBits

/-- The value of a numeral that ends at `stop`. -/
def value (n : Numeral) (stop : Nat) : Except Fault Number :=
  let (whole, left) := takeDigits 0 n.whole
  if n.fraction.isNone ∧ n.exponent.isNone ∧ left = 0 ∧ !n.negative then
    .ok (.integer whole)
  else if n.fraction.isNone ∧ n.exponent.isNone ∧ left = 0 ∧ 0 < whole ∧ whole ≤ UInt64.size / 2 then
    .ok (.integer (-whole))
  else
    let places := n.fraction.getD []
    let (significand, spare) := takeDigits whole places
    let exponent := (left : Int) - (places.length - spare : Nat)
    let scaled (e : Int) : Except Fault Number :=
      match scale? significand e with
      | some f => .ok (signed n.negative f)
      | none => .error ⟨.numberTooLarge, stop⟩
    match n.exponent with
    | none => scaled exponent
    | some x =>
      match exponentValue 0 0 x.digits with
      | .ok e => scaled (if x.negative then exponent - e else exponent + e)
      | .error count =>
        if significand ≠ 0 ∧ !x.negative then .error ⟨.numberTooLarge, x.offset + count⟩
        else .ok (signed n.negative 0)

/-- What a digit that is missing or one too many means to a reader of the value. -/
def slip (c : Cursor) : Fault :=
  c.fault (if c.rest.isEmpty then .endInValue else .badNumber)

end Numeral

end Rehearsal.Json
