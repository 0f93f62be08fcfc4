/-!
Cutting a text at a character. `cut` divides at the first occurrence; `lines` divides at every line
feed, drops one carriage return in front of it, and has no line after a final line feed. `splitBytes?`
divides at a number of bytes.
-/
namespace Rehearsal.Text

/-- What stands before and after the first `d`. -/
def cut (d : Char) : List Char → Option (List Char × List Char)
  | [] => none
  | c :: rest =>
    if c = d then some ([], rest)
    else (cut d rest).map fun (before, after) => (c :: before, after)

/-- The parts between the occurrences of `d`, one more than there are occurrences. -/
def splitAll (d : Char) : List Char → List (List Char)
  | [] => [[]]
  | c :: rest =>
    if c = d then [] :: splitAll d rest
    else match splitAll d rest with
      | part :: parts => (c :: part) :: parts
      | [] => [[c]]

def dropReturn (line : List Char) : List Char :=
  if line.getLast? = some '\r' then line.dropLast else line

/-- The lines of a text. The last part counts only if it is not empty, and keeps a carriage return
at its end, since no line feed follows it. -/
def lines (s : List Char) : List (List Char) :=
  let parts := splitAll '\n' s
  parts.dropLast.map dropReturn ++ (parts.getLast?.filter (!·.isEmpty)).toList

/-- What follows `front`, if the text begins with it. -/
def dropFront? : List Char → List Char → Option (List Char)
  | [], s => some s
  | _ :: _, [] => none
  | p :: front, c :: s => if p = c then dropFront? front s else none

/-- The first `n` bytes and the rest, unless a character stands across the end of those bytes. -/
def splitBytes? : Nat → List Char → Option (List Char × List Char)
  | 0, s => some ([], s)
  | _ + 1, [] => none
  | n + 1, c :: s =>
    if n + 1 < c.utf8Size then none
    else (splitBytes? (n + 1 - c.utf8Size) s).map fun (before, after) => (c :: before, after)

/-- Whether `part` stands anywhere in the text. -/
def occurs (part : List Char) : List Char → Bool
  | [] => part.isEmpty
  | c :: s => (dropFront? part (c :: s)).isSome || occurs part s

theorem cut_eq_some {d : Char} {s before after : List Char} (h : cut d s = some (before, after)) :
    s = before ++ d :: after := by
  induction s generalizing before after with
  | nil => simp [cut] at h
  | cons c rest ih =>
    by_cases hc : c = d
    · simp_all [cut]
    · simp only [cut, hc, if_false, Option.map_eq_some_iff] at h
      obtain ⟨⟨b, a⟩, hb, he⟩ := h
      simp only [Prod.mk.injEq] at he
      rw [← he.1, ← he.2, ih hb, List.cons_append]

theorem dropFront?_append (front s : List Char) : dropFront? front (front ++ s) = some s := by
  induction front with
  | nil => rfl
  | cons p front ih => simp [dropFront?, ih]

end Rehearsal.Text
