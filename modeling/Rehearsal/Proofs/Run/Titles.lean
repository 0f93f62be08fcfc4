import Mathlib.Data.Finset.Dedup
import Rehearsal.Proofs.Run.Login
import Rehearsal.Proofs.Run.Shown
import Rehearsal.Proofs.Text.Words
import Rehearsal.Session.Scripted

/-!
# Titles in a column

A step that verifies titles looks for each of them among the titles that the column shows. All that counts
of a title is its words, and all that counts of the lists is which titles are in them.
-/
namespace Rehearsal

/-- The step asks for these titles in a column, which it calls by this name. -/
structure Step.VerifiesItems (s : Step) (name : String) (c : Column) (titles : List String) : Prop where
  action : s.action = "verifyItemsInSection"
  column : s.column = some name
  known : Column.ofName name = .ok c
  expected : s.expected.map Expected.titles = some titles

namespace Text

/-- Each of the titles has the words of one of the texts. -/
def Covers (texts titles : List String) : Prop := ∀ title ∈ titles, ∃ t ∈ texts, wordsOf t = wordsOf title

instance (texts titles : List String) : Decidable (Covers texts titles) :=
  inferInstanceAs (Decidable (∀ title ∈ titles, ∃ t ∈ texts, wordsOf t = wordsOf title))

/-- The titles whose words none of the texts has, collapsed, one by one. -/
def unmet (titles texts : List String) : List String :=
  (titles.filter fun title => ∀ t ∈ texts, wordsOf t ≠ wordsOf title).map collapse

/-- The sequences of words that there are among texts. -/
def wordings (texts : List String) : Finset (List (List Char)) := (texts.map wordsOf).toFinset

variable {texts titles : List String}

theorem unmet_eq_nil_iff : unmet titles texts = [] ↔ Covers texts titles := by
  simp [unmet, Covers, List.filter_eq_nil_iff]

theorem mem_wordings {ws : List (List Char)} : ws ∈ wordings texts ↔ ∃ t ∈ texts, wordsOf t = ws := by
  simp [wordings]

theorem covers_iff_subset : Covers texts titles ↔ wordings titles ⊆ wordings texts := by
  constructor
  · intro covers ws among
    obtain ⟨title, expected, rfl⟩ := mem_wordings.mp among
    exact mem_wordings.mpr (covers title expected)
  · intro among title expected
    exact mem_wordings.mp (among (mem_wordings.mpr ⟨title, expected, rfl⟩))

theorem collapse_mem_map {title : String} :
    collapse title ∈ texts.map collapse ↔ ∃ t ∈ texts, wordsOf t = wordsOf title := by
  simp only [List.mem_map, collapse_eq_collapse_iff]

end Text

open Text

variable {σ : Type} {b : Backend σ} {w : World σ}
variable {s : Step} {name : String} {c : Column} {titles shown : List String}

/-- Whether it is one title or a list does not matter any more. -/
theorem Step.VerifiesItems.decode (asks : s.VerifiesItems name c titles) :
    s.decode = .ok (.verifyItems name titles) := by
  obtain ⟨expected, given, rfl⟩ := Option.map_eq_some_iff.mp asks.expected
  rw [Step.decode, asks.action, asks.column, given]
  rfl

namespace Run

/-- It is collapsed titles that are compared, but that is to compare the words. -/
theorem missingTitles_collapse (titles shown : List String) :
    missingTitles titles (shown.map collapse) = unmet titles shown := by
  rw [missingTitles, unmet, List.filter_map]
  congr 1
  refine List.filter_congr fun title _ => ?_
  rw [Bool.eq_iff_iff]
  simp only [Function.comp, Bool.not_eq_true', List.contains_eq_mem, decide_eq_false_iff_not,
    collapse_mem_map, not_exists, not_and, decide_eq_true_eq]

/-- What the step comes to, message and all. -/
theorem run_verifiesItems (asks : s.VerifiesItems name c titles) (shows : w.Shows b [(c.titles, shown)]) :
    ((execute b s).run w).1 =
      if Covers shown titles then .ok ()
      else .error (.assertionFailed ("expected " ++ quotedList (unmet titles shown) ++ " in column '" ++
        name ++ "', found " ++ quotedList (shown.map collapse))) := by
  obtain ⟨v, got⟩ := Page.run_items asks.known shows
  rw [execute_of_decode_ok b asks.decode, perform, Act.run_bind_of_ok got]
  dsimp only
  rw [missingTitles_collapse]
  by_cases covers : Covers shown titles
  · rw [if_pos covers, if_neg (by simpa using unmet_eq_nil_iff.mpr covers)]
    rfl
  · rw [if_neg covers, if_pos (by simpa using mt unmet_eq_nil_iff.mp covers)]
    rfl

theorem outcome_of_verifiesItems (asks : s.VerifiesItems name c titles)
    (shows : w.Shows b [(c.titles, shown)]) :
    outcome b s w =
      if wordings titles ⊆ wordings shown then .ok () else .error "ASSERTION_FAILED" := by
  rw [outcome, run_verifiesItems asks shows]
  by_cases covers : Covers shown titles
  · rw [if_pos covers, if_pos (covers_iff_subset.mp covers)]
    rfl
  · rw [if_neg covers, if_neg (mt covers_iff_subset.mpr covers)]
    rfl

/-- Titles are verified if the column shows each of them, word for word; if not, the message lists those
that it does not show, as often and in the order in which the step has them. Other steps on other pages come
to the same if the same words are expected and shown. To show more or to expect less does no harm, and one
title is a list of one. -/
theorem titles_by_words (asks : s.VerifiesItems name c titles) (shows : w.Shows b [(c.titles, shown)]) :
    (((execute b s).run w).1 = .ok () ↔ Covers shown titles) ∧
    (¬ Covers shown titles →
      ((execute b s).run w).1 = .error (.assertionFailed ("expected " ++ quotedList (unmet titles shown) ++
        " in column '" ++ name ++ "', found " ++ quotedList (shown.map collapse)))) ∧
    (∀ {τ : Type} (b' : Backend τ) (w' : World τ) (s' : Step) (name' : String) (c' : Column)
        (titles' shown' : List String), s'.VerifiesItems name' c' titles' →
        w'.Shows b' [(c'.titles, shown')] →
      (wordings titles' = wordings titles → wordings shown' = wordings shown →
        outcome b' s' w' = outcome b s w) ∧
      (wordings titles' ⊆ wordings titles → wordings shown ⊆ wordings shown' →
        outcome b s w = .ok () → outcome b' s' w' = .ok ())) ∧
    ∀ title, execute b { s with expected := some (.one title) } =
      execute b { s with expected := some (.many [title]) } := by
  refine ⟨?_, fun uncovered => ?_, fun b' w' s' name' c' titles' shown' asks' shows' => ⟨?_, ?_⟩, fun title => ?_⟩
  · rw [run_verifiesItems asks shows]
    by_cases covers : Covers shown titles
    · exact iff_of_true (if_pos covers) covers
    · rw [if_neg covers]
      exact iff_of_false (by simp) covers
  · rw [run_verifiesItems asks shows]
    exact if_neg uncovered
  · intro expected found
    rw [outcome_of_verifiesItems asks shows, outcome_of_verifiesItems asks' shows', expected, found]
  · rw [outcome_of_verifiesItems asks shows, outcome_of_verifiesItems asks' shows']
    intro fewer more ok
    have covers : wordings titles ⊆ wordings shown := by
      by_contra none
      rw [if_neg none] at ok
      cases ok
    exact if_pos ((fewer.trans covers).trans more)
  · rfl

/-- A card that is missing, and one that is there with other blanks and stays there when cards are added. -/
theorem titles_by_words_of_missing :
    let board (shown : List String) : World Scripted := {
      backend := { texts := [(Column.todo.titles.text, shown)] }
      around := ⟨⟨[], []⟩, none⟩, config := .ofIni "[UI]\nbrowserType=Chromium\n" }
    let asking (expected : Expected) : Step := {
      action := "verifyItemsInSection", column := some " ToDo", expected := some expected }
    let b := Scripted.backend
    let s := asking (.many ["Deploy  it", " Write tests"])
    let s' := asking (.one "Write\ttests ")
    let w := board ["Write\n  tests", "Fix bug"]
    let w' := board ["Review", "Fix bug", "Write tests"]
    s.VerifiesItems " ToDo" .todo ["Deploy  it", " Write tests"] ∧
    w.Shows b [(Column.todo.titles, ["Write\n  tests", "Fix bug"])] ∧
    ((execute b s).run w).1 = .error (.assertionFailed ("expected " ++ quotedList ["Deploy it"] ++
      " in column '" ++ " ToDo" ++ "', found " ++ quotedList ["Write tests", "Fix bug"])) ∧
    ((execute b s').run w).1 = .ok () ∧ outcome b s' w' = .ok () := by
  intro board asking b s s' w w'
  have asks (expected : Expected) : (asking expected).VerifiesItems " ToDo" .todo expected.titles :=
    ⟨rfl, rfl, by decide, rfl⟩
  have shows : w.Shows b [(Column.todo.titles, ["Write\n  tests", "Fix bug"])] :=
    ⟨_, _, rfl, by decide, trivial⟩
  have shows' : w'.Shows b [(Column.todo.titles, ["Review", "Fix bug", "Write tests"])] :=
    ⟨_, _, rfl, by decide, trivial⟩
  have missing : unmet ["Deploy  it", " Write tests"] ["Write\n  tests", "Fix bug"] = ["Deploy it"] := by
    decide
  obtain ⟨-, failed, -⟩ := titles_by_words (asks (.many ["Deploy  it", " Write tests"])) shows
  obtain ⟨verified, -, others, -⟩ := titles_by_words (asks (.one "Write\ttests ")) shows
  have ok : ((execute b s').run w).1 = .ok () := verified.mpr (by decide)
  have more := (others b w' s' _ _ _ _ (asks _) shows').2
  refine ⟨asks _, shows, (failed (by decide)).trans (by rw [Expected.titles, missing]; rfl), ok, ?_⟩
  exact more (by decide) (by decide) (by rw [outcome, ok]; rfl)

end Run

end Rehearsal
