import Rehearsal.Json.Fault

/-!
A cursor is what is left of a text and the number of bytes before it.
-/
namespace Rehearsal.Json

structure Cursor where
  rest : List Char
  offset : Nat
deriving DecidableEq, Repr

namespace Cursor

def ofText (s : List Char) : Cursor := ⟨s, 0⟩

/-- Number of bytes of a text. -/
def bytes (s : List Char) : Nat :=
  s.foldr (fun c n => c.utf8Size + n) 0

/-- The bytes before the cursor and the one at it. -/
def peek (c : Cursor) : Nat :=
  match c.rest with
  | [] => c.offset
  | _ :: _ => c.offset + 1

/-- A fault that is seen at the cursor. -/
def fault (c : Cursor) (cause : Cause) : Fault := ⟨cause, c.peek⟩

/-- Blanks between tokens: space, line feed, tab, carriage return. -/
def isGap (c : Char) : Bool :=
  c == ' ' || c == '\n' || c == '\t' || c == '\r'

/-- Moves over the characters that satisfy `p`, and gives them. -/
def takeWhile (c : Cursor) (p : Char → Bool) : List Char × Cursor :=
  (c.rest.takeWhile p, ⟨c.rest.dropWhile p, c.offset + bytes (c.rest.takeWhile p)⟩)

def skipGaps (c : Cursor) : Cursor := (c.takeWhile isGap).2

/-- Moves over `d` if it is next. -/
def eat? (c : Cursor) (d : Char) : Option Cursor :=
  match c.rest with
  | [] => none
  | x :: rest => if x = d then some ⟨rest, c.offset + x.utf8Size⟩ else none

/-- Moves over `d` if it is next, and stays if not. -/
def pass (c : Cursor) (d : Char) : Cursor := (c.eat? d).getD c

end Cursor

end Rehearsal.Json
