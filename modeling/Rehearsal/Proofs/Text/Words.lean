import Rehearsal.Proofs.Text.Splitting

/-!
# The words of a text

A text is collapsed to its words with single spaces between them. What is collapsed has the same words as
before, so two texts collapse to the same exactly if they have the same words in the same order.
-/
namespace Rehearsal.Text

/-- What stands between the blanks of a text, wherever there is something. -/
def wordsOf (s : String) : List (List Char) := (s.toList.splitOnP isBlank).filter (· ≠ [])

theorem wordsOf_eq_words (s : String) : wordsOf s = words s.toList := by
  rw [words_eq_filter_splitOnP]
  exact List.filter_congr fun w _ => by cases w <;> rfl

/-- A word has a character, and no blank. -/
theorem of_mem_words {s w : List Char} (h : w ∈ words s) : w ≠ [] ∧ ∀ c ∈ w, ¬ isBlank c := by
  rw [words_eq_filter_splitOnP] at h
  obtain ⟨part, there⟩ := List.mem_filter.mp h
  refine ⟨by simpa using there, fun c among => ?_⟩
  have kept := List.mem_flatten_of_mem part among
  rw [flatten_splitOnP, List.mem_filter] at kept
  simpa using kept.2

theorem words_append_cons {c : Char} (blank : isBlank c) (s t : List Char) :
    words (s ++ c :: t) = words s ++ words t := by
  rw [words_eq_filter_splitOnP, List.splitOnP_append_cons s t blank, List.filter_append,
    ← words_eq_filter_splitOnP, ← words_eq_filter_splitOnP]

theorem words_of_word {w : List Char} (there : w ≠ []) (solid : ∀ c ∈ w, ¬ isBlank c) : words w = [w] := by
  rw [words_eq_filter_splitOnP, List.splitOnP_eq_singleton fun c among => by simpa using solid c among]
  simp [there]

/-- By induction on the words: the space behind the first ends it. -/
theorem words_joinWords {ws : List (List Char)} (proper : ∀ w ∈ ws, w ≠ [] ∧ ∀ c ∈ w, ¬ isBlank c) :
    words (joinWords ws) = ws := by
  induction ws with
  | nil => rfl
  | cons w rest ih =>
    obtain ⟨⟨there, solid⟩, others⟩ := List.forall_mem_cons.mp proper
    cases rest with
    | nil => simpa [joinWords] using words_of_word there solid
    | cons v vs =>
      have spaced : joinWords (w :: v :: vs) = w ++ ' ' :: joinWords (v :: vs) := by
        simp [joinWords, List.intercalate_cons_cons]
      rw [spaced, words_append_cons (by decide), words_of_word there solid, ih others]
      rfl

theorem words_collapseChars (s : List Char) : words (collapseChars s) = words s :=
  words_joinWords fun _ => of_mem_words

theorem wordsOf_collapse (s : String) : wordsOf (collapse s) = wordsOf s := by
  rw [wordsOf_eq_words, wordsOf_eq_words, collapse, String.toList_ofList, words_collapseChars]

theorem collapse_eq_collapse_iff {s t : String} : collapse s = collapse t ↔ wordsOf s = wordsOf t := by
  constructor
  · intro same
    rw [← wordsOf_collapse s, same, wordsOf_collapse]
  · intro same
    rw [wordsOf_eq_words, wordsOf_eq_words] at same
    rw [collapse, collapse, collapseChars, collapseChars, same]

end Rehearsal.Text
