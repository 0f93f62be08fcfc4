import Rehearsal.Json.Quotation
import Rehearsal.Text.Alphanumeric
import Rehearsal.Text.Blank
import Rehearsal.Text.Cut

/-!
Regular expressions, as far as it matters which of them are well formed. A reader gives what is left
behind the part that it reads, or nothing if that part is ill formed; groups and classes also tell how
deep they are nested, to which there is a limit. An expression describes characters and never a part
of one: what could match such a part is ill formed where the flag `u` is off. Assertions about words
are well formed only there.
-/
namespace Rehearsal.Log.Pattern

/-- The flags that matter: `u`, by which characters are those of Unicode and not of ASCII, and `x`, by
which blanks and comments may stand between the parts. -/
structure Mode where
  unicode : Bool := true
  spaced : Bool := false

/-- Drops blanks and comments, which go from `#` to the end of the line. -/
def dropSpace (inComment : Bool) : List Char → List Char
  | [] => []
  | c :: s =>
    if inComment then dropSpace (c ≠ '\n') s
    else if Text.isBlank c then dropSpace false s
    else if c = '#' then dropSpace true s
    else c :: s

namespace Mode

def skip (m : Mode) (s : List Char) : List Char := if m.spaced then dropSpace false s else s

/-- The next character. Only the sign of a comment is passed over, not the comment. -/
def next? (m : Mode) (s : List Char) : Option Char :=
  if m.spaced then
    match Text.trimStart s with
    | '#' :: s => (Text.trimStart s).head?
    | s => s.head?
  else s.head?

/-- Whether a character is one of those that are meant. -/
def knows (m : Mode) (c : Char) : Bool := m.unicode || c.toNat ≤ 0x7F

/-- The mode with a flag set or cleared. -/
def set (m : Mode) (flag : Char) (value : Bool) : Mode :=
  match flag with
  | 'u' => { m with unicode := value }
  | 'x' => { m with spaced := value }
  | _ => m

end Mode

/-- What an escape or a character that stands for itself describes. -/
inductive Piece
  | literal (c : Char)
  | characters
  | place

/-- A character that is given by so many hexadecimal digits, behind those that make `n`. -/
def readCode (m : Mode) : Nat → Nat → List Char → Option (Char × List Char)
  | 0, n, s => if n.isValidChar then some (Char.ofNat n, s) else none
  | count + 1, n, s =>
    match m.skip s with
    | [] => none
    | c :: s => do readCode m count (n * 16 + (← Json.Quotation.hexValue? c)) s

/-- The letters of the general categories, which are of either case. -/
def categories : List Char := ['c', 'l', 'm', 'n', 'p', 's', 'z']

/-- The characters with an escape of their own. -/
def control? : Char → Option Char
  | 'a' => some '\x07'
  | 'f' => some '\x0c'
  | 'n' => some '\n'
  | 'r' => some '\r'
  | 't' => some '\t'
  | 'v' => some '\x0b'
  | _ => none

/-- What follows a backslash. Marks of ASCII may all be escaped, but for the two that are
assertions. -/
def readEscape (m : Mode) : List Char → Option (Piece × List Char)
  | [] => none
  | 'x' :: s => do
    let (c, s) ← readCode m 2 0 s
    if m.knows c then some (.literal c, s) else none
  | 'u' :: s => (readCode m 4 0 s).map fun (c, s) => (.literal c, s)
  | 'U' :: s => (readCode m 8 0 s).map fun (c, s) => (.literal c, s)
  | 'p' :: s | 'P' :: s =>
    match m.skip s with
    | c :: s => if m.unicode && categories.contains c.toLower then some (.characters, s) else none
    | [] => none
  | 'd' :: s | 's' :: s | 'w' :: s => some (.characters, s)
  | 'D' :: s | 'S' :: s | 'W' :: s => if m.unicode then some (.characters, s) else none
  | 'A' :: s | 'z' :: s => some (.place, s)
  | 'b' :: s | 'B' :: s | '<' :: s | '>' :: s => if m.unicode then none else some (.place, s)
  | c :: s =>
    match control? c with
    | some c => some (.literal c, s)
    | none => if c.toNat ≤ 0x7F && !c.isAlphanum then some (.literal c, s) else none

/-- Parts in a row: how many there are, and how deep the deepest of them is nested. -/
structure Row where
  count : Nat := 0
  depth : Nat := 0

namespace Row

def add (r : Row) (depth : Nat) : Row := ⟨r.count + 1, max r.depth depth⟩

/-- Several parts together are nested one level deeper than one part. -/
def nested (r : Row) : Nat := if 1 < r.count then r.depth + 1 else r.depth

end Row

/-! ### Classes -/

/-- A member of a class that stands for itself or is escaped. -/
def readPiece (m : Mode) : List Char → Option (Piece × List Char)
  | [] => none
  | '\\' :: s => readEscape m s
  | c :: s => some (.literal c, s)

/-- A member of a class, or a range from one character to another. -/
def readRange (m : Mode) (s : List Char) : Option (List Char) := do
  let (first, s) ← readPiece m s
  let alone : Option (List Char) :=
    match first with
    | .literal c => if m.knows c then some s else none
    | .characters => some s
    | .place => none
  match m.skip s with
  | '-' :: s =>
    if m.next? s = some ']' ∨ m.next? s = some '-' then alone
    else
      let (last, s) ← readPiece m (m.skip s)
      match first, last with
      | .literal a, .literal b => if a ≤ b ∧ m.knows a ∧ m.knows b then some s else none
      | _, _ => none
  | _ => alone

def classNames : List String :=
  ["alnum", "alpha", "ascii", "blank", "cntrl", "digit", "graph", "lower", "print", "punct", "space",
    "upper", "word", "xdigit"]

/-- The class that a name between colons stands for, and whether it is inverted, behind its opening
bracket. -/
def readNamed? (s : List Char) : Option (Bool × List Char) := do
  let s ← Text.dropFront? [':'] s
  let inverted : Bool := s.head? = some '^'
  let (name, s) ← Text.cut ':' (if inverted then s.drop 1 else s)
  let s ← Text.dropFront? [']'] s
  if classNames.contains (String.ofList name) then some (inverted, s) else none

/-- What follows the opening bracket of a class, without the sign of its inversion. -/
def openClass (m : Mode) (s : List Char) : Option (List Char) :=
  match m.skip s with
  | '^' :: s => if m.unicode then some s else none
  | s => some s

/-- The depth of two sets that are joined by an operator, or of one. -/
def joined (left : Option Nat) (r : Row) : Nat :=
  left.elim r.nested fun left => max left r.nested + 1

/-- The members of a class up to its closing bracket. `left` is the depth of what stands before the
last operator, `row` what stands behind it. At the start of a class hyphens stand for themselves, and so
does a closing bracket that is the first member. -/
def readMembers (m : Mode) :
    Nat → Bool → Option Nat → Row → List Char → Option (Nat × List Char)
  | 0, _, _, _, _ => none
  | fuel + 1, atStart, left, row, s =>
    match m.skip s with
    | [] => none
    | c :: s =>
      if atStart ∧ c = '-' then readMembers m fuel true left (row.add 0) s
      else if atStart ∧ row.count = 0 ∧ c = ']' then readMembers m fuel false left (row.add 0) s
      else if c = ']' then some (joined left row + 1, s)
      else if c = '[' then
        match readNamed? s with
        | some (inverted, s) =>
          if inverted && !m.unicode then none
          else readMembers m fuel false left (row.add 0) s
        | none => do
          let (depth, s) ← readMembers m fuel true none {} (← openClass m s)
          readMembers m fuel false left (row.add depth) s
      else if ['&', '-', '~'].contains c ∧ s.head? = some c then
        readMembers m fuel false (some (joined left row)) {} (s.drop 1)
      else do readMembers m fuel false left (row.add 0) (← readRange m (c :: s))

/-! ### Groups -/

abbrev Name := List Char

/-- A group that is being read: the names that groups have so far, the branches before the last bar, the
parts behind it, and the depth of the last part if that may be repeated. -/
structure Group where
  mode : Mode := {}
  names : List Name := []
  branches : Row := {}
  parts : Row := {}
  last : Option Nat := none

namespace Group

def add (g : Group) (depth : Nat) : Group :=
  { g with parts := g.parts.add depth, last := some depth }

/-- Flags are a part that cannot be repeated. -/
def setMode (g : Group) (mode : Mode) : Group :=
  { g with mode, parts := g.parts.add 0, last := none }

/-- Repeats the last part, which has a depth. -/
def repeatLast (g : Group) (depth : Nat) : Group :=
  { g with parts := { g.parts with depth := max g.parts.depth (depth + 1) }, last := some (depth + 1) }

def branch (g : Group) : Group :=
  { g with branches := g.branches.add g.parts.nested, parts := {}, last := none }

def depth (g : Group) : Nat := (g.branches.add g.parts.nested).nested

end Group

/-- What stands behind an opening parenthesis: flags for the rest of the group around it, or the start of
a group with a mode, before which groups have these names. -/
inductive Opening
  | flags (mode : Mode)
  | group (mode : Mode) (names : List Name)

def flagLetters : List Char := ['i', 'm', 's', 'U', 'u', 'R', 'x']

/-- Flags up to a colon or a parenthesis. Those behind the hyphen are cleared. None may be there twice,
and a hyphen has a flag behind it. `seen` is what was read, the last first. -/
def readFlags (m : Mode) (names : List Name) (seen : List Char) :
    List Char → Option (Opening × List Char)
  | [] => none
  | ':' :: s => if seen.head? = some '-' then none else some (.group m names, s)
  | ')' :: s => if seen = [] ∨ seen.head? = some '-' then none else some (.flags m, s)
  | c :: s =>
    if ('-' :: flagLetters).contains c ∧ c ∉ seen then
      readFlags (m.set c (!seen.contains '-')) names (c :: seen) s
    else none

def opensName (c : Char) : Bool := c = '_' || Text.isLetter c

def continuesName (c : Char) : Bool := ['_', '.', '[', ']'].contains c || Text.isAlphanumeric c

/-- The name of a group, which no group before it has. -/
def readName (m : Mode) (names : List Name) (s : List Char) : Option (Opening × List Char) := do
  let (name, s) ← Text.cut '>' s
  match name with
  | [] => none
  | c :: rest =>
    if opensName c && rest.all continuesName && !names.contains name then
      some (.group m (name :: names), s)
    else none

def readOpening (m : Mode) (names : List Name) (s : List Char) : Option (Opening × List Char) :=
  match m.skip s with
  | '?' :: 'P' :: '<' :: s | '?' :: '<' :: s => readName m names s
  | '?' :: s => readFlags m names [] s
  | s => some (.group m names, s)

/-- The parts of a group up to its closing parenthesis, or of an expression up to its end. -/
def readParts : Nat → Bool → Group → List Char → Option (Group × List Char)
  | 0, _, _, _ => none
  | fuel + 1, inGroup, g, s =>
    match g.mode.skip s with
    | [] => if inGroup then none else some (g, [])
    | ')' :: s => if inGroup then some (g, s) else none
    | '|' :: s => readParts fuel inGroup g.branch s
    | '(' :: s => do
      match ← readOpening g.mode g.names s with
      | (.flags mode, s) => readParts fuel inGroup (g.setMode mode) s
      | (.group mode names, s) =>
        let (inner, s) ← readParts fuel true { mode, names } s
        readParts fuel inGroup ({ g with names := inner.names }.add (inner.depth + 1)) s
    | '[' :: s => do
      let (depth, s) ← readMembers g.mode fuel true none {} (← openClass g.mode s)
      readParts fuel inGroup (g.add depth) s
    | '*' :: s | '+' :: s | '?' :: s => do
      let depth ← g.last
      readParts fuel inGroup (g.repeatLast depth) ((Text.dropFront? ['?'] s).getD s)
    | '\x7b' :: _ => none
    | '.' :: s => if g.mode.unicode then readParts fuel inGroup (g.add 0) s else none
    | '\\' :: s => do
      let (_, s) ← readEscape g.mode s
      readParts fuel inGroup (g.add 0) s
    | _ :: s => readParts fuel inGroup (g.add 0) s

/-- How deep an expression may be nested. -/
def depthLimit : Nat := 250

/-- Whether a text is a well-formed expression. Counted repetitions do not occur, and a brace that
would open one is ill formed. -/
def isWellFormed (s : List Char) : Bool :=
  (readParts (s.length + 1) false {} s).any fun (g, _) => g.depth ≤ depthLimit

end Rehearsal.Log.Pattern
