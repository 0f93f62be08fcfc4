import Mathlib.Data.Finset.Basic
import Mathlib.Data.Finset.Dedup
import Mathlib.Data.List.Sort
import Mathlib.Data.String.Basic
import Rehearsal.Proofs.Run.Login
import Rehearsal.Proofs.Run.Shown
import Rehearsal.Proofs.Text.Trimming
import Rehearsal.Session.Scripted

/-!
# Tags of a card

A step that confirms tags compares two sets: the tags that it has itself and those that the card shows.
Both sides are trimmed and lose what is empty, and both are then put in order without repetition, so two
lists that differ in nothing else come to the same list.
-/
namespace Rehearsal

/-- The step asks whether a card has these tags, in a column which it calls by this name. -/
structure Step.ConfirmsTags (s : Step) (name : String) (c : Column) (task : String)
    (tags : List String) : Prop where
  action : s.action = "confirmTags"
  column : s.column = some name
  known : Column.ofName name = .ok c
  task : s.task = some task
  tags : s.tags = some tags

namespace TextSet

variable {x y : String} {xs ys : List String}

theorem mem_insert : y ∈ insert x xs ↔ y = x ∨ y ∈ xs := by
  induction xs with
  | nil => simp [insert]
  | cons z rest ih =>
    rw [insert]
    split
    · simp
    · split
      · rename_i same
        simp [same]
      · simp only [List.mem_cons, ih, or_left_comm]

/-- By induction on the elements: the new one is put in front of the first that is greater. -/
theorem pairwise_insert (x : String) (ascending : xs.Pairwise (· < ·)) : (insert x xs).Pairwise (· < ·) := by
  induction xs with
  | nil => simp [insert]
  | cons z rest ih =>
    obtain ⟨least, others⟩ := List.pairwise_cons.mp ascending
    rw [insert]
    split
    · rename_i less
      refine List.pairwise_cons.mpr ⟨fun y among => ?_, ascending⟩
      rcases List.mem_cons.mp among with rfl | behind
      · exact less
      · exact less.trans (least y behind)
    · rename_i atLeast
      split
      · exact ascending
      · rename_i other
        refine List.pairwise_cons.mpr ⟨fun y among => ?_, ih others⟩
        rcases mem_insert.mp among with rfl | behind
        · exact lt_of_le_of_ne (not_lt.mp atLeast) (Ne.symm other)
        · exact least y behind

theorem mem_ofList : y ∈ ofList xs ↔ y ∈ xs := by
  induction xs with
  | nil => rfl
  | cons x rest ih => rw [ofList, List.foldr_cons, mem_insert, List.mem_cons, ← ih, ofList]

theorem pairwise_ofList (xs : List String) : (ofList xs).Pairwise (· < ·) := by
  induction xs with
  | nil => exact .nil
  | cons x rest ih => exact pairwise_insert x ih

theorem ofList_eq_ofList_iff : ofList xs = ofList ys ↔ ∀ x, x ∈ xs ↔ x ∈ ys := by
  constructor
  · intro same x
    rw [← mem_ofList, same, mem_ofList]
  · intro same
    refine (pairwise_ofList xs).eq_of_mem_iff (pairwise_ofList ys) fun x => ?_
    rw [mem_ofList, mem_ofList, same]

end TextSet

/-- The tags that are meant by texts. -/
def tagSet (texts : List String) : Finset String := (texts.map Text.trimmed).toFinset.erase ""

/-- The second list of texts can be made of the first by changes to the order, the number and the blanks. -/
inductive Retouched : List String → List String → Prop
  | reordered {texts texts' : List String} : texts.Perm texts' → Retouched texts texts'
  | repeated {t : String} {texts : List String} : t ∈ texts → Retouched texts (t :: texts)
  | padded {front back : String} (t : String) (texts : List String) :
      (∀ c ∈ front.toList, Text.isBlank c) → (∀ c ∈ back.toList, Text.isBlank c) →
      Retouched (t :: texts) ((front ++ t ++ back) :: texts)
  | blank {t : String} (texts : List String) : (∀ c ∈ t.toList, Text.isBlank c) →
      Retouched texts (t :: texts)
  | undone {texts texts' : List String} : Retouched texts texts' → Retouched texts' texts
  | followed {texts texts' texts'' : List String} :
      Retouched texts texts' → Retouched texts' texts'' → Retouched texts texts''

variable {texts texts' : List String} {x : String}

theorem trimmed_append {front back : String} (t : String) (blankFront : ∀ c ∈ front.toList, Text.isBlank c)
    (blankBack : ∀ c ∈ back.toList, Text.isBlank c) :
    Text.trimmed (front ++ t ++ back) = Text.trimmed t := by
  rw [Text.trimmed, String.toList_append, String.toList_append, Text.trim_append_right blankBack,
    Text.trim_append_left blankFront, Text.trimmed]

theorem mem_tagSet : x ∈ tagSet texts ↔ x ≠ "" ∧ ∃ t ∈ texts, Text.trimmed t = x := by
  simp [tagSet]

theorem mem_cleanTags : x ∈ cleanTags texts ↔ x ∈ tagSet texts := by
  rw [mem_tagSet, and_comm]
  simp [cleanTags]

theorem ofList_cleanTags_eq_iff :
    TextSet.ofList (cleanTags texts) = TextSet.ofList (cleanTags texts') ↔ tagSet texts = tagSet texts' := by
  simp only [TextSet.ofList_eq_ofList_iff, mem_cleanTags, Finset.ext_iff]

/-- By induction on the changes: none of them adds or removes a tag. -/
theorem Retouched.tagSet_eq (retouched : Retouched texts texts') : tagSet texts = tagSet texts' := by
  induction retouched with
  | reordered order =>
    ext x
    simp only [mem_tagSet, order.mem_iff]
  | repeated among =>
    have kept := List.mem_map_of_mem (f := Text.trimmed) among
    rw [tagSet, tagSet, List.map_cons, List.toFinset_cons, Finset.insert_eq_of_mem (List.mem_toFinset.mpr kept)]
  | padded t texts blankFront blankBack =>
    rw [tagSet, tagSet, List.map_cons, List.map_cons, trimmed_append t blankFront blankBack]
  | blank texts blank =>
    rw [tagSet, tagSet, List.map_cons, Text.trimmed, Text.trim_of_blank blank, List.toFinset_cons]
    exact (Finset.erase_insert_eq_erase _ _).symm
  | undone _ same => exact same.symm
  | followed _ _ first second => exact first.trans second

variable {σ : Type} {b : Backend σ} {w : World σ}
variable {s : Step} {name task : String} {c : Column} {tags titles shown : List String}

theorem Step.ConfirmsTags.decode (asks : s.ConfirmsTags name c task tags) :
    s.decode = .ok (.confirmTags name task (.ofList (cleanTags tags))) := by
  rw [Step.decode, asks.action, asks.column, asks.task, asks.tags]
  rfl

namespace Run

theorem run_confirmsTags_of_nil (asks : s.ConfirmsTags name c task tags)
    (shows : w.Shows b [(c.title task, [])]) :
    ((execute b s).run w).1 = .error (.itemNotFound c.heading task) := by
  obtain ⟨v, got⟩ := Page.run_tagsOf_of_nil asks.known shows
  rw [execute_of_decode_ok b asks.decode, perform, Act.run_bind_of_error got]

/-- What the step comes to where the card is, message and all. -/
theorem run_confirmsTags (asks : s.ConfirmsTags name c task tags) (there : titles ≠ [])
    (shows : w.Shows b [(c.title task, titles), (c.tags task, shown)]) :
    ((execute b s).run w).1 =
      if tagSet shown = tagSet tags then .ok ()
      else .error (.assertionFailed ("tags of '" ++ task ++ "' in column '" ++ name ++ "': expected " ++
        Text.quotedSet (TextSet.ofList (cleanTags tags)) ++ ", found " ++ Text.quotedList (cleanTags shown))) := by
  obtain ⟨v, got⟩ := Page.run_tagsOf asks.known there shows
  rw [execute_of_decode_ok b asks.decode, perform, Act.run_bind_of_ok got]
  by_cases same : tagSet shown = tagSet tags
  · rw [if_pos same, if_neg (not_not.mpr (ofList_cleanTags_eq_iff.mpr same))]
    rfl
  · rw [if_neg same, if_pos (mt ofList_cleanTags_eq_iff.mp same)]
    rfl

/-- A card that the column does not have is reported as missing. If it has it, the tags are confirmed exactly
if those of the card are those of the step, as sets of trimmed texts that are not empty. Neither a change to
the tags of the step nor one to those of the card makes a difference as long as order, number and blanks are
all that is changed. -/
theorem tags_as_sets (b : Backend σ) (asks : s.ConfirmsTags name c task tags) :
    (∀ w : World σ, w.Shows b [(c.title task, [])] →
      ((execute b s).run w).1 = .error (.itemNotFound c.heading task)) ∧
    (∀ (w : World σ) (titles shown : List String), titles ≠ [] →
        w.Shows b [(c.title task, titles), (c.tags task, shown)] →
      (tagSet shown = tagSet tags → ((execute b s).run w).1 = .ok ()) ∧
      (tagSet shown ≠ tagSet tags → ((execute b s).run w).1 = .error (.assertionFailed ("tags of '" ++
        task ++ "' in column '" ++ name ++ "': expected " ++
        Text.quotedSet (TextSet.ofList (cleanTags tags)) ++ ", found " ++
        Text.quotedList (cleanTags shown))))) ∧
    ∀ {τ : Type} (b' : Backend τ) (w : World σ) (w' : World τ) (s' : Step)
        (titles shown tags' shown' : List String), s'.ConfirmsTags name c task tags' →
        w.Shows b [(c.title task, titles), (c.tags task, shown)] →
        w'.Shows b' [(c.title task, titles), (c.tags task, shown')] →
        Retouched tags tags' → Retouched shown shown' →
      outcome b' s' w' = outcome b s w := by
  refine ⟨fun w => run_confirmsTags_of_nil asks, fun w titles shown there shows => ⟨?_, ?_⟩, ?_⟩
  · intro same
    rw [run_confirmsTags asks there shows, if_pos same]
  · intro other
    rw [run_confirmsTags asks there shows, if_neg other]
  · intro τ b' w w' s' titles shown tags' shown' asks' shows shows' expected found
    rw [outcome, outcome]
    by_cases none : titles = []
    · subst none
      rw [run_confirmsTags_of_nil asks shows.first, run_confirmsTags_of_nil asks' shows'.first]
    · rw [run_confirmsTags asks none shows, run_confirmsTags asks' none shows', expected.tagSet_eq,
        found.tagSet_eq]
      split
      · rfl
      · rfl

/-- Tags in another order and with blanks; then one of them is written twice, and an empty one is shown. -/
theorem tags_as_sets_of_blanks :
    let board (shown : List String) : World Scripted := {
      backend := { texts := [
        ((Column.todo.title "Fix it").text, ["Fix it"]), ((Column.todo.tags "Fix it").text, shown)] }
      around := ⟨⟨[], []⟩, none⟩, config := .ofIni "[UI]\nbrowserType=Chromium\n" }
    let asking (tags : List String) : Step := {
      action := "confirmTags", column := some "ToDo", task := some "Fix it", tags := some tags }
    let b := Scripted.backend
    let s := asking ["Bug", "urgent "]
    let s' := asking ["Bug", "Bug", "urgent "]
    let w := board ["urgent", " Bug\n"]
    let w' := board ["", "urgent", " Bug\n"]
    s.ConfirmsTags "ToDo" .todo "Fix it" ["Bug", "urgent "] ∧
    w.Shows b [(Column.todo.title "Fix it", ["Fix it"]), (Column.todo.tags "Fix it", ["urgent", " Bug\n"])] ∧
    ((execute b s).run w).1 = .ok () ∧ outcome b s' w' = outcome b s w := by
  intro board asking b s s' w w'
  have asks (tags : List String) : (asking tags).ConfirmsTags "ToDo" .todo "Fix it" tags :=
    ⟨rfl, rfl, by decide, rfl, rfl⟩
  have shows : w.Shows b
      [(Column.todo.title "Fix it", ["Fix it"]), (Column.todo.tags "Fix it", ["urgent", " Bug\n"])] :=
    ⟨_, _, rfl, by decide, by decide, trivial⟩
  have shows' : w'.Shows b
      [(Column.todo.title "Fix it", ["Fix it"]), (Column.todo.tags "Fix it", ["", "urgent", " Bug\n"])] :=
    ⟨_, _, rfl, by decide, by decide, trivial⟩
  obtain ⟨-, confirmed, same⟩ := tags_as_sets b (asks ["Bug", "urgent "])
  refine ⟨asks _, shows, (confirmed w _ _ (by simp) shows).1 (by decide), ?_⟩
  exact same b w w' s' _ _ _ _ (asks _) shows shows' (.repeated (by simp)) (.blank _ (by simp))

end Run

end Rehearsal
