import Rehearsal.Board
import Rehearsal.Proofs.XPath.Literals

/-!
# Elements by their titles

A locator names an element by a condition on its first text. XPath collapses the blanks of that text,
and knows four of them, whereas the blanks that are collapsed in titles are all those of Unicode. So
a title finds its own text exactly if it has no blanks that XPath does not know.
-/
namespace Rehearsal.XPath

/-- A text without blanks at its ends, and with one space for each run of blanks inside. -/
def normalizeSpace (s : String) : String :=
  String.ofList (Text.joinWords ((s.toList.splitOnP isBlank).filter (!·.isEmpty)))

/-- The text that a condition asks for. -/
def condition? (s : String) : Option StringExpr :=
  (Text.dropFront? "normalize-space(text())=".toList s.toList).bind expression?

/-- Whether a condition is true of an element with these texts, of which the first counts. -/
def holds (condition : String) (texts : List String) : Bool :=
  (condition? condition).any fun e => normalizeSpace (texts.headD "") = String.ofList e.value

/-- XPath knows all blanks of the text. -/
def Plain (s : String) : Prop := ∀ c ∈ s.toList, Text.isBlank c → isBlank c

theorem text_isBlank_of_isBlank {c : Char} (h : isBlank c) : Text.isBlank c := by
  simp only [isBlank, Bool.or_eq_true, decide_eq_true_eq] at h
  rcases h with ((rfl | rfl) | rfl) | rfl <;> decide

/-- The condition that is written for a title asks for the title, with its blanks collapsed. -/
theorem holds_textEquals (title : String) (texts : List String) :
    holds (textEquals title) texts =
      decide (normalizeSpace (texts.headD "") = Text.collapse title) := by
  obtain ⟨e, read, value⟩ := expression?_literalChars (Text.collapse title).toList
  have chars : (textEquals title).toList =
      "normalize-space(text())=".toList ++ literalChars (Text.collapse title).toList :=
    String.toList_append.trans (congrArg _ String.toList_ofList)
  have asked : condition? (textEquals title) = some e := by
    rw [condition?, chars, Text.dropFront?_append, Option.bind_some, read]
  rw [holds, asked, Option.any_some, value, String.ofList_toList]

private theorem splitOnP_congr {p q : Char → Bool} {s : List Char} (h : ∀ c ∈ s, p c = q c) :
    s.splitOnP p = s.splitOnP q := by
  induction s with
  | nil => rfl
  | cons c s ih =>
    rw [List.forall_mem_cons] at h
    rw [List.splitOnP_cons_eq_if_modifyHead, List.splitOnP_cons_eq_if_modifyHead, h.1, ih h.2]

/-- The two ways to collapse blanks agree on a text exactly if XPath knows all its blanks: one that it
does not know stays where it is on one side only. -/
theorem collapse_eq_normalizeSpace_iff {s : String} :
    Text.collapse s = normalizeSpace s ↔ Plain s := by
  constructor
  · intro same c hc blank
    by_cases known : isBlank c
    · exact known
    exfalso
    have same : Text.joinWords (Text.words s.toList) =
        Text.joinWords ((s.toList.splitOnP isBlank).filter (!·.isEmpty)) :=
      String.ofList_injective same
    have kept : c ∈ Text.joinWords ((s.toList.splitOnP isBlank).filter (!·.isEmpty)) := by
      refine Text.mem_joinWords_of_mem ?_
      rw [List.flatten_filter_not_isEmpty, Text.flatten_splitOnP]
      simpa [hc] using known
    rw [← same] at kept
    rcases Text.of_mem_joinWords kept with rfl | word
    · exact known rfl
    · rw [Text.words_eq_filter_splitOnP, List.flatten_filter_not_isEmpty,
        Text.flatten_splitOnP, List.mem_filter] at word
      simp [blank] at word
  · intro plain
    have same : s.toList.splitOnP Text.isBlank = s.toList.splitOnP isBlank := by
      refine splitOnP_congr fun c hc => Bool.eq_iff_iff.mpr ?_
      exact ⟨plain c hc, text_isBlank_of_isBlank⟩
    rw [Text.collapse, Text.collapseChars, Text.words_eq_filter_splitOnP, same]
    rfl

/-- All locators that name an element by a title do so by one condition. It asks for a first text that
XPath reads like the title with all its blanks collapsed. If XPath knows these blanks, such texts are
those that it reads like the title; otherwise not even the title itself is one. -/
theorem title_conditions (title : String) :
    let condition := textEquals title
    (sectionButton title = .xpath ("//button[.//h2[" ++ condition ++ "]]") ∧
      ∀ c : Column, c.title title = .xpath (c.container ++ "//h3[" ++ condition ++ "]") ∧
        c.tags title = .xpath (c.container ++ "//h3[" ++ condition ++
          "]/following-sibling::*[1][self::div]//span")) ∧
    (∀ t rest, holds condition (t :: rest) ↔ normalizeSpace t = Text.collapse title) ∧
    (Plain title → ∀ t rest,
      holds condition (t :: rest) ↔ normalizeSpace t = normalizeSpace title) ∧
    (holds condition [title] ↔ Plain title) := by
  intro condition
  have holds_iff (t : String) (rest : List String) :
      holds condition (t :: rest) ↔ normalizeSpace t = Text.collapse title := by
    rw [holds_textEquals, decide_eq_true_iff, List.headD_cons]
  refine ⟨⟨rfl, fun c => ⟨rfl, ?_⟩⟩, holds_iff, fun plain t rest => ?_, ?_⟩
  · simp only [Column.tags, Column.titlePath, condition, String.append_assoc]
    rfl
  · rw [holds_iff, collapse_eq_normalizeSpace_iff.mpr plain]
  · rw [holds_iff, eq_comm, collapse_eq_normalizeSpace_iff]

/-- A title with a no-break space does not find the element whose text it is. -/
theorem title_conditions_of_noBreakSpace :
    let title := "a\u00a0b"
    ¬ (holds (textEquals title) [title] ↔ normalizeSpace title = normalizeSpace title) ∧
    normalizeSpace title = title ∧ Text.collapse title = "a b" := by
  decide

end Rehearsal.XPath
