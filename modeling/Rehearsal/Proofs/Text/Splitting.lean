import Rehearsal.Text.Blank
import Rehearsal.Text.Cut

/-!
# Texts in parts

Words are what is left between blanks, and the parts between the occurrences of a character are those
that a text is put together from with that character in between.
-/
namespace Rehearsal.Text

variable {p : Char → Bool} {d : Char}

/-- Splitting loses what it splits at, and nothing else. -/
theorem flatten_splitOnP (p : Char → Bool) (s : List Char) :
    (s.splitOnP p).flatten = s.filter (!p ·) := by
  induction s with
  | nil => rfl
  | cons c s ih =>
    obtain ⟨part, parts, hs⟩ := List.exists_cons_of_ne_nil (List.splitOnP_ne_nil p s)
    rw [hs, List.flatten_cons] at ih
    rw [List.splitOnP_cons_eq_if_modifyHead, hs]
    by_cases h : p c
    · simp [h, ih]
    · simp [h, ih]

/-- The first part is empty exactly if there is nothing before the first place to split at. -/
theorem isEmpty_head_splitOnP {s part : List Char} {parts : List (List Char)}
    (h : s.splitOnP p = part :: parts) : (s.head?.any fun c => !p c) = !part.isEmpty := by
  cases s with
  | nil =>
    rw [List.splitOnP_nil] at h
    cases h
    rfl
  | cons c s =>
    obtain ⟨q, qs, hs⟩ := List.exists_cons_of_ne_nil (List.splitOnP_ne_nil p s)
    rw [List.splitOnP_cons_eq_if_modifyHead, hs] at h
    by_cases hc : p c
    · simp only [hc, if_true, List.cons.injEq] at h
      simp [hc, ← h.1]
    · simp only [hc, Bool.false_eq_true, if_false, List.modifyHead_cons, List.cons.injEq] at h
      simp [hc, ← h.1]

/-- The words of a text are its parts between blanks, save those that are empty. -/
theorem words_eq_filter_splitOnP (s : List Char) :
    words s = (s.splitOnP isBlank).filter (!·.isEmpty) := by
  induction s with
  | nil => rfl
  | cons c s ih =>
    obtain ⟨part, parts, hs⟩ := List.exists_cons_of_ne_nil (List.splitOnP_ne_nil isBlank s)
    rw [List.splitOnP_cons_eq_if_modifyHead]
    by_cases h : isBlank c
    · rw [words_cons_of_isBlank h, ih]
      simp [h]
    · have glued := isEmpty_head_splitOnP hs
      rw [hs] at ih
      simp only [words, h, Bool.false_eq_true, if_false, glued, ih, hs, List.modifyHead_cons]
      cases part with
      | nil => simp [addFront]
      | cons x xs => simp [addFront]

theorem splitAll_eq_splitOn (d : Char) (s : List Char) : splitAll d s = s.splitOn d := by
  rw [List.splitOn_eq_splitOnP]
  induction s with
  | nil => rfl
  | cons c s ih =>
    obtain ⟨part, parts, hs⟩ := List.exists_cons_of_ne_nil (List.splitOnP_ne_nil (· == d) s)
    rw [List.splitOnP_cons_eq_if_modifyHead, splitAll, ih, hs]
    by_cases h : c = d
    · simp [h]
    · simp [h]

theorem intercalate_splitAll (d : Char) (s : List Char) : [d].intercalate (splitAll d s) = s := by
  rw [splitAll_eq_splitOn]
  exact List.intercalate_splitOn d

theorem notMem_of_mem_splitAll {s part : List Char} (h : part ∈ splitAll d s) : d ∉ part := by
  intro hd
  rw [splitAll_eq_splitOn, List.splitOn_eq_splitOnP] at h
  have kept : d ∈ s.filter (!· == d) := by
    rw [← flatten_splitOnP]
    exact List.mem_flatten_of_mem h hd
  simp at kept

/-- A text that has the character comes in at least two parts. -/
theorem splitAll_of_mem {s : List Char} (h : d ∈ s) :
    ∃ a b rest, splitAll d s = a :: b :: rest := by
  have whole := intercalate_splitAll d s
  rcases hs : splitAll d s with _ | ⟨a, _ | ⟨b, rest⟩⟩
  · rw [hs, List.intercalate_nil] at whole
    rw [← whole] at h
    cases h
  · rw [hs, List.intercalate_singleton] at whole
    have here : a ∈ splitAll d s := hs ▸ List.mem_singleton_self a
    exact absurd (whole ▸ h) (notMem_of_mem_splitAll here)
  · exact ⟨a, b, rest, rfl⟩

theorem cut_append_of_notMem {s : List Char} (h : d ∉ s) (rest : List Char) :
    cut d (s ++ d :: rest) = some (s, rest) := by
  induction s with
  | nil => simp [cut]
  | cons c s ih =>
    rw [List.mem_cons, not_or] at h
    simp [cut, Ne.symm h.1, ih h.2]

/-- It is the first occurrence at which a text is cut. -/
theorem notMem_of_cut {s before after : List Char} (h : cut d s = some (before, after)) :
    d ∉ before := by
  induction s generalizing before after with
  | nil => simp [cut] at h
  | cons c s ih =>
    rw [cut] at h
    split at h
    · cases h
      exact List.not_mem_nil
    · rename_i other
      obtain ⟨⟨b, a⟩, found, same⟩ := Option.map_eq_some_iff.mp h
      cases same
      rw [List.mem_cons, not_or]
      exact ⟨Ne.symm other, ih found⟩

theorem cut_eq_some_iff {s before after : List Char} :
    cut d s = some (before, after) ↔ s = before ++ d :: after ∧ d ∉ before := by
  constructor
  · exact fun found => ⟨cut_eq_some found, notMem_of_cut found⟩
  · rintro ⟨rfl, first⟩
    exact cut_append_of_notMem first after

theorem eq_of_dropFront? {front s rest : List Char} (h : dropFront? front s = some rest) :
    s = front ++ rest := by
  induction front generalizing s with
  | nil => exact Option.some.inj h
  | cons p front ih =>
    cases s with
    | nil => cases h
    | cons c s =>
      rw [dropFront?] at h
      split at h
      · rename_i same
        rw [same, ih h, List.cons_append]
      · cases h

theorem dropFront?_eq_some_iff {front s rest : List Char} :
    dropFront? front s = some rest ↔ s = front ++ rest := by
  constructor
  · exact eq_of_dropFront?
  · rintro rfl
    exact dropFront?_append front rest

/-- Joined words hold what the words hold, and spaces. -/
theorem mem_joinWords_of_mem {c : Char} {ws : List (List Char)} (h : c ∈ ws.flatten) :
    c ∈ joinWords ws := by
  induction ws with
  | nil => simp at h
  | cons w ws ih =>
    cases ws with
    | nil => simpa [joinWords] using h
    | cons v vs =>
      rw [joinWords, List.intercalate_cons_cons, List.append_assoc, List.mem_append]
      rw [List.flatten_cons, List.mem_append] at h
      exact h.imp id fun hv => List.mem_append_right _ (ih hv)

theorem of_mem_joinWords {c : Char} {ws : List (List Char)} (h : c ∈ joinWords ws) :
    c = ' ' ∨ c ∈ ws.flatten := by
  induction ws with
  | nil => simp [joinWords] at h
  | cons w ws ih =>
    cases ws with
    | nil => exact .inr (by simpa [joinWords] using h)
    | cons v vs =>
      rw [joinWords, List.intercalate_cons_cons, List.append_assoc, List.mem_append,
        List.mem_append] at h
      rw [List.flatten_cons, List.mem_append]
      rcases h with hw | hs | hv
      · exact .inr (.inl hw)
      · exact .inl (List.mem_singleton.mp hs)
      · exact (ih hv).imp id .inr

end Rehearsal.Text
