/-!
Blank characters, words and trimming. A blank is a character with the Unicode property
`White_Space`; a word is a maximal run of other characters. `collapse` writes the words of a text
with single spaces between them.
-/
namespace Rehearsal.Text

/-- The characters with the Unicode property `White_Space`. -/
def isBlank (c : Char) : Bool :=
  let n := c.toNat
  (0x09 ≤ n && n ≤ 0x0D) || n == 0x20 || n == 0x85 || n == 0xA0 || n == 0x1680 ||
  (0x2000 ≤ n && n ≤ 0x200A) || n == 0x2028 || n == 0x2029 || n == 0x202F || n == 0x205F ||
  n == 0x3000

def trimStart (s : List Char) : List Char :=
  s.dropWhile isBlank

def trimEnd (s : List Char) : List Char :=
  (s.reverse.dropWhile isBlank).reverse

def trim (s : List Char) : List Char :=
  trimEnd (trimStart s)

/-- Puts `c` in front of the first word if `glued`, and makes it a word of its own if not. -/
def addFront (c : Char) (glued : Bool) (ws : List (List Char)) : List (List Char) :=
  match glued, ws with
  | true, w :: rest => (c :: w) :: rest
  | _, ws => [c] :: ws

/-- The maximal runs of characters that are not blank, in order. -/
def words : List Char → List (List Char)
  | [] => []
  | c :: rest =>
    if isBlank c then words rest
    else addFront c (rest.head?.any (!isBlank ·)) (words rest)

/-- The words with one space between neighbours. -/
def joinWords (ws : List (List Char)) : List Char :=
  [' '].intercalate ws

def collapseChars (s : List Char) : List Char :=
  joinWords (words s)

def trimmed (s : String) : String :=
  String.ofList (trim s.toList)

/-- The words of a text with single spaces between them and no blank at either end. -/
def collapse (s : String) : String :=
  String.ofList (collapseChars s.toList)

theorem words_cons_of_isBlank {c : Char} (h : isBlank c) (s : List Char) :
    words (c :: s) = words s := by
  simp [words, h]

end Rehearsal.Text
