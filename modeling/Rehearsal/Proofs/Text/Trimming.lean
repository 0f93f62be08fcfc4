import Mathlib.Data.List.DropRight
import Rehearsal.Text.Blank

/-!
# Trimmed texts

Trimming takes off the blanks at both ends and nothing else: a text without blanks at its ends is left as
it is, and blanks that are put around a text are lost.
-/
namespace Rehearsal.Text

/-- No blank stands at either end. -/
def Bare (s : List Char) : Prop :=
  (∀ c, s.head? = some c → ¬ isBlank c) ∧ ∀ c, s.getLast? = some c → ¬ isBlank c

theorem trimEnd_eq_rdropWhile (s : List Char) : trimEnd s = s.rdropWhile isBlank := rfl

theorem trim_append_left {front : List Char} (blank : ∀ c ∈ front, isBlank c) (s : List Char) :
    trim (front ++ s) = trim s := by
  rw [trim, trim, trimStart, trimStart, List.dropWhile_append_of_pos blank]

theorem trim_concat_of_isBlank {c : Char} (blank : isBlank c) (s : List Char) :
    trim (s ++ [c]) = trim s := by
  rw [trim, trim, trimStart, trimStart, List.dropWhile_append]
  split
  · rename_i none
    rw [List.isEmpty_iff.mp none]
    simp [blank]
  · exact List.rdropWhile_concat_pos isBlank _ c blank

/-- By induction on the blanks from the right, since these are taken off one by one. -/
theorem trim_append_right {back : List Char} (blank : ∀ c ∈ back, isBlank c) (s : List Char) :
    trim (s ++ back) = trim s := by
  induction back using List.reverseRecOn with
  | nil => rw [List.append_nil]
  | append_singleton back c ih =>
    have last : isBlank c := blank c (by simp)
    rw [← List.append_assoc, trim_concat_of_isBlank last]
    exact ih fun d among => blank d (List.mem_append_left _ among)

theorem trim_of_blank {s : List Char} (blank : ∀ c ∈ s, isBlank c) : trim s = [] := by
  rw [← List.append_nil s, trim_append_left blank]
  rfl

theorem trimStart_of_bare {s : List Char} (bare : Bare s) : trimStart s = s := by
  cases s with
  | nil => rfl
  | cons c rest => exact List.dropWhile_cons_of_neg (bare.1 c rfl)

theorem trim_of_bare {s : List Char} (bare : Bare s) : trim s = s := by
  rw [trim, trimStart_of_bare bare, trimEnd_eq_rdropWhile, List.rdropWhile_eq_self_iff]
  exact fun there => bare.2 _ (List.getLast?_eq_some_getLast there)

theorem bare_trim (s : List Char) : Bare (trim s) := by
  constructor
  · intro c first
    -- What is taken off at the end leaves the first character where it is.
    obtain ⟨rest, whole⟩ : trim s <+: s.dropWhile isBlank := List.rdropWhile_prefix isBlank _
    have stops := List.head?_dropWhile_not isBlank s
    rw [← whole, List.head?_append, first] at stops
    simpa using stops
  · intro c last
    obtain ⟨start, whole⟩ := List.getLast?_eq_some_iff.mp last
    have there : trim s ≠ [] := by simp [whole]
    have stops := List.rdropWhile_last_not isBlank (trimStart s) there
    have same : (trim s).getLast there = c := by simp [whole]
    rwa [← same]

end Rehearsal.Text
