import Rehearsal.Json.Quotation
import Rehearsal.Text.Cut

/-!
Identifiers of runs: 32 hexadecimal digits, written in five groups. They may also be read without
hyphens, in braces or behind `urn:uuid:` in either case.
-/
namespace Rehearsal

structure Uuid where
  digits : List (Fin 16)
  size : digits.length = 32
deriving DecidableEq

namespace Uuid

instance : Repr Uuid := ⟨fun u _ => repr u.digits⟩

/-- The identifier whose digits are all 0. -/
def zero : Uuid := ⟨List.replicate 32 0, by simp⟩

/-- The identifier of version 4 whose other digits are made from numbers. -/
def random (number : Nat → Nat) : Uuid where
  digits := (List.range 32).map fun i =>
    Fin.ofNat 16 (if i = 12 then 4 else if i = 16 then 8 + number i % 4 else number i)
  size := by simp

def digit? (c : Char) : Option (Fin 16) :=
  (Json.Quotation.hexValue? c).map (Fin.ofNat 16 ·)

def ofDigits? (s : List Char) : Option Uuid := do
  let ds ← s.mapM digit?
  if h : ds.length = 32 then some ⟨ds, h⟩ else none

/-- Takes the hyphens out of their four places. -/
def dropHyphens? (s : List Char) : Option (List Char) :=
  let groups := Text.splitAll '-' s
  if groups.map List.length = [8, 4, 4, 4, 12] then some groups.flatten else none

def scheme : List Char := "urn:uuid:".toList

/-- The part between braces or behind the name of the scheme, whose letters may be of either case. -/
def unwrap (s : List Char) : List Char :=
  if (s.take scheme.length).map Char.toLower = scheme then s.drop scheme.length
  else match s with
    | '\x7b' :: rest => if rest.getLast? = some '\x7d' then rest.dropLast else s
    | _ => s

def ofText? (s : String) : Option Uuid :=
  (ofDigits? s.toList).or ((dropHyphens? (unwrap s.toList)).bind ofDigits?)

def chars (u : Uuid) : List Char := u.digits.map fun d => Json.Quotation.hexDigit d.val

def text (u : Uuid) : String :=
  let cs := u.chars
  String.ofList (cs.take 8 ++ '-' :: (cs.drop 8).take 4 ++ '-' :: (cs.drop 12).take 4 ++
    '-' :: (cs.drop 16).take 4 ++ '-' :: cs.drop 20)

end Uuid

end Rehearsal
