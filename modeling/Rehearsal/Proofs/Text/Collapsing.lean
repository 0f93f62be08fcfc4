import Rehearsal.Proofs.Text.Trimming
import Rehearsal.Proofs.Text.Words

/-!
# Collapsed texts

Collapsing brings a text into a normal form: its words, with one space between each two neighbours. There is
one text of this form for each sequence of words, so collapsing once is enough, and it is the words alone that
decide whether two texts collapse to the same.
-/
namespace Rehearsal.Text

/-- Every blank is a space, and has a character that is no blank right before it and right behind it. -/
def Spaced (s : List Char) : Prop :=
  ∀ before c after, s = before ++ c :: after → isBlank c →
    c = ' ' ∧ (∃ d, before.getLast? = some d ∧ ¬ isBlank d) ∧ ∃ d, after.head? = some d ∧ ¬ isBlank d

theorem Spaced.bare {s : List Char} (spaced : Spaced s) : Bare s := by
  constructor
  · intro c first blank
    obtain ⟨rest, rfl⟩ := List.head?_eq_some_iff.mp first
    obtain ⟨-, ⟨d, nothing, -⟩, -⟩ := spaced [] c rest rfl blank
    cases nothing
  · intro c last blank
    obtain ⟨start, rfl⟩ := List.getLast?_eq_some_iff.mp last
    obtain ⟨-, -, d, nothing, -⟩ := spaced start c [] rfl blank
    cases nothing

theorem head?_joinWords {w : List Char} (there : w ≠ []) (ws : List (List Char)) :
    (joinWords (w :: ws)).head? = w.head? := by
  cases ws with
  | nil => simp [joinWords]
  | cons v vs => simp [joinWords, List.intercalate_cons_cons, List.head?_append_of_ne_nil _ there]

theorem joinWords_cons_cons (w v : List Char) (ws : List (List Char)) :
    joinWords (w :: v :: ws) = w ++ ' ' :: joinWords (v :: ws) := by
  simp [joinWords, List.intercalate_cons_cons]

theorem spaced_of_solid {s : List Char} (solid : ∀ c ∈ s, ¬ isBlank c) : Spaced s := by
  rintro before c after rfl blank
  exact absurd blank (solid c (by simp))

/-- By induction on the words: a blank is the space behind the first of them, or stands among the others. -/
theorem spaced_joinWords {ws : List (List Char)} (proper : ∀ w ∈ ws, w ≠ [] ∧ ∀ c ∈ w, ¬ isBlank c) :
    Spaced (joinWords ws) := by
  induction ws with
  | nil => exact spaced_of_solid (by simp [joinWords])
  | cons w rest ih =>
    obtain ⟨⟨there, solid⟩, others⟩ := List.forall_mem_cons.mp proper
    cases rest with
    | nil => exact spaced_of_solid (by simpa [joinWords] using solid)
    | cons v vs =>
      obtain ⟨next, -⟩ := List.forall_mem_cons.mp others
      have behindWord : ∃ d, w.getLast? = some d ∧ ¬ isBlank d :=
        ⟨_, List.getLast?_eq_some_getLast there, solid _ (List.getLast_mem there)⟩
      have beforeWord : ∃ d, (joinWords (v :: vs)).head? = some d ∧ ¬ isBlank d := by
        rw [head?_joinWords next.1]
        exact ⟨_, List.head?_eq_some_head next.1, next.2 _ (List.head_mem next.1)⟩
      rw [joinWords_cons_cons]
      intro before c after whole blank
      rcases List.append_eq_append_iff.mp whole with ⟨front, rfl, tail⟩ | ⟨back, rfl, tail⟩
      · cases front with
        | nil =>
          cases tail
          exact ⟨rfl, by simpa using behindWord, beforeWord⟩
        | cons space front =>
          obtain ⟨-, tail⟩ := List.cons_eq_cons.mp tail
          obtain ⟨same, ⟨d, last, solid⟩, following⟩ := ih others front c after tail blank
          refine ⟨same, ⟨d, ?_, solid⟩, following⟩
          rw [List.getLast?_append, List.getLast?_cons, last]
          rfl
      · cases back with
        | nil =>
          cases tail
          exact ⟨rfl, by simpa using behindWord, beforeWord⟩
        | cons d back =>
          obtain ⟨rfl, -⟩ := List.cons_eq_cons.mp tail
          exact absurd blank (solid c (by simp))

theorem spaced_collapse (s : String) : Spaced (collapse s).toList := by
  rw [collapse, String.toList_ofList]
  exact spaced_joinWords fun _ => of_mem_words

theorem collapse_collapse (s : String) : collapse (collapse s) = collapse s :=
  collapse_eq_collapse_iff.mpr (wordsOf_collapse s)

/-- What a text collapses to has no blank at either end and none but single spaces inside, has the words of
the text in their order, and collapses to itself. Texts collapse to the same exactly if they have the same
words in the same order. -/
theorem collapse_canonical :
    (∀ s, Bare (collapse s).toList ∧ Spaced (collapse s).toList ∧ wordsOf (collapse s) = wordsOf s ∧
      collapse (collapse s) = collapse s) ∧
    ∀ s t, collapse s = collapse t ↔ wordsOf s = wordsOf t := by
  refine ⟨fun s => ?_, fun s t => collapse_eq_collapse_iff⟩
  have spaced := spaced_collapse s
  exact ⟨spaced.bare, spaced, wordsOf_collapse s, collapse_collapse s⟩

end Rehearsal.Text
