import Rehearsal.Proofs.Effects
import Rehearsal.Proofs.Ini.Sections
import Rehearsal.Run

/-!
# References to the configuration

A value is a reference if it begins with the marker, blanks aside. The forms that are meant have nothing
behind the marker, or a dot; but a value that runs on in another way is a reference too, and reads as if the
dot were there. A reference can name any value of an INI text whose section has a name, and one without a
dot: what is left of the first dot is the section, so keys may have dots.
-/
namespace Rehearsal

theorem Ini.bare_of_get? {text name key value : String}
    (given : (ofText text).get? name key = some value) : key ≠ "" ∧ Text.Bare key.toList := by
  obtain ⟨named, own, -, earlier, line, later, -, sets, -⟩ := get?_ofText_eq_some_iff.mp given
  obtain ⟨before, after, -, -, trimmed, -⟩ := sets
  exact ⟨named, trimmed ▸ Text.bare_trim before⟩

namespace Source

/-- The value is looked up. -/
def IsReference (s : Source) : Prop := ∃ name key, s = .configured name key

/-- Blanks aside the text is the marker alone, or the marker with a dot behind it. -/
def Documented (raw : String) : Prop :=
  Text.trimmed raw = "ConfigReader" ∨ ∃ rest, Text.trimmed raw = "ConfigReader." ++ rest

/-- Behind the marker the text runs on, and not with a dot. -/
def Glued (raw : String) : Prop :=
  ∃ c rest, c ≠ '.' ∧ Text.trimmed raw = "ConfigReader" ++ String.singleton c ++ rest

variable {raw : String} {tail : List Char}

theorem trimmed_eq_iff {s : String} : Text.trimmed raw = s ↔ Text.trim raw.toList = s.toList := by
  rw [Text.trimmed, ← String.toList_inj, String.toList_ofList]

theorem trim_eq_of_trimmed_eq {s t : String} (same : Text.trimmed raw = s ++ t) :
    Text.trim raw.toList = s.toList ++ t.toList := by
  rw [trimmed_eq_iff.mp same, String.toList_append]

/-- The two kinds of text that begin with the marker. -/
theorem marked_iff :
    (∃ tail, Text.trim raw.toList = marker.toList ++ tail) ↔ Documented raw ∨ Glued raw := by
  constructor
  · rintro ⟨_ | ⟨c, rest⟩, marked⟩
    · exact .inl (.inl (trimmed_eq_iff.mpr marked))
    · by_cases dot : c = '.'
      · subst dot
        exact .inl (.inr ⟨String.ofList rest, trimmed_eq_iff.mpr (by simp [marked, marker])⟩)
      · exact .inr ⟨c, String.ofList rest, dot, trimmed_eq_iff.mpr (by simp [marked, marker])⟩
  · rintro ((alone | ⟨rest, dotted⟩) | ⟨c, rest, -, glued⟩)
    · exact ⟨[], trimmed_eq_iff.mp alone⟩
    · exact ⟨'.' :: rest.toList, trim_eq_of_trimmed_eq dotted⟩
    · exact ⟨c :: rest.toList, by simpa [marker] using trim_eq_of_trimmed_eq glued⟩

theorem not_documented_of_glued (glued : Glued raw) : ¬ Documented raw := by
  obtain ⟨c, rest, other, glued⟩ := glued
  rintro (alone | ⟨tail, dotted⟩)
  · have same := glued.symm.trans alone
    simp [← String.toList_inj] at same
  · have same := glued.symm.trans dotted
    simp [← String.toList_inj, other] at same

theorem isReference_ofReference (reference : List Char) (key : String) :
    IsReference (ofReference reference key) := by
  rw [ofReference]
  split
  · exact ⟨_, _, rfl⟩
  · split <;> exact ⟨_, _, rfl⟩

theorem ofText_of_marked (marked : Text.trim raw.toList = marker.toList ++ tail) (key : String) :
    ofText raw key = ofReference (tail.dropWhile (· = '.')) key := by
  rw [ofText, Text.dropFront?_eq_some_iff.mpr marked]

theorem ofText_of_not_marked (unmarked : ∀ tail, Text.trim raw.toList ≠ marker.toList ++ tail)
    (key : String) : ofText raw key = .literal raw := by
  have none : Text.dropFront? marker.toList (Text.trim raw.toList) = none :=
    Option.eq_none_iff_forall_ne_some.mpr fun tail found =>
      unmarked tail (Text.dropFront?_eq_some_iff.mp found)
  rw [ofText, none]

theorem isReference_iff {key : String} :
    IsReference (ofText raw key) ↔ ∃ tail, Text.trim raw.toList = marker.toList ++ tail := by
  constructor
  · rintro ⟨name, k, referred⟩
    by_contra unmarked
    rw [ofText_of_not_marked (not_exists.mp unmarked)] at referred
    cases referred
  · rintro ⟨tail, marked⟩
    rw [ofText_of_marked marked]
    exact isReference_ofReference _ key

theorem last_append {front back : List Char} (solid : front.any Text.isBlank = false)
    (last : ∀ c, back.getLast? = some c → ¬ Text.isBlank c) :
    ∀ c, (front ++ back).getLast? = some c → ¬ Text.isBlank c := by
  intro c final
  rw [List.getLast?_append] at final
  cases there : back.getLast? with
  | some d =>
    rw [there] at final
    exact Option.some.inj final ▸ last d there
  | none =>
    rw [there] at final
    exact List.any_eq_false.mp solid c (List.mem_of_getLast? final)

/-- The marker has no blanks, so that a text that begins with it is trimmed as soon as its end is. -/
theorem trim_marked (last : ∀ c, tail.getLast? = some c → ¬ Text.isBlank c) :
    Text.trim (marker.toList ++ tail) = marker.toList ++ tail := by
  refine Text.trim_of_bare ⟨fun c first => ?_, last_append rfl last⟩
  obtain rfl : 'C' = c := Option.some.inj first
  decide

theorem last_of_marked (marked : Text.trim raw.toList = marker.toList ++ tail) :
    ∀ c, tail.getLast? = some c → ¬ Text.isBlank c := by
  intro c final
  have bare := Text.bare_trim raw.toList
  rw [marked] at bare
  exact bare.2 c (by rw [List.getLast?_append, final]; rfl)

/-- A text behind the marker and a dot is read up to its end, less the dots in front of it. -/
theorem ofText_dotted {s : String} (last : ∀ c, s.toList.getLast? = some c → ¬ Text.isBlank c)
    (key : String) :
    ofText ("ConfigReader." ++ s) key = ofReference (s.toList.dropWhile (· = '.')) key := by
  have dotted : ∀ c, (['.'] ++ s.toList).getLast? = some c → ¬ Text.isBlank c :=
    last_append rfl last
  have marked : Text.trim ("ConfigReader." ++ s).toList = marker.toList ++ '.' :: s.toList := by
    rw [String.toList_append]
    exact trim_marked dotted
  exact ofText_of_marked marked key

/-- A text is a reference if it has one of the documented forms, and stands for itself if it does not begin
with the marker. What runs on behind the marker without a dot is a reference besides, though it has none of
the forms: it reads as if the dot were there. -/
theorem reference_forms (raw key : String) :
    (¬ Glued raw →
      (IsReference (ofText raw key) ↔ Documented raw) ∧
        (¬ Documented raw → ofText raw key = .literal raw)) ∧
    (Glued raw → IsReference (ofText raw key) ∧ ¬ Documented raw) ∧
    ∀ tail, Text.trimmed raw = "ConfigReader" ++ tail →
      ofText raw key = ofText ("ConfigReader." ++ tail) key := by
  refine ⟨fun apart => ⟨?_, fun undocumented => ?_⟩, fun glued => ⟨?_, ?_⟩, fun tail marked => ?_⟩
  · rw [isReference_iff, marked_iff, or_iff_left apart]
  · refine ofText_of_not_marked (not_exists.mp fun marked => ?_) key
    exact (marked_iff.mp marked).elim undocumented apart
  · exact isReference_iff.mpr (marked_iff.mpr (.inr glued))
  · exact not_documented_of_glued glued
  · have here := trim_eq_of_trimmed_eq marked
    rw [ofText_of_marked here, ofText_dotted (last_of_marked here)]

/-- The reading of a user name that happens to begin with the marker. -/
theorem reference_forms_of_userName :
    ¬ (∀ raw key, (IsReference (ofText raw key) ↔ Documented raw) ∧
      (¬ Documented raw → ofText raw key = .literal raw)) ∧
    ofText "ConfigReader2" "email" = .configured "UI" "2" := by
  have read : ofText "ConfigReader2" "email" = .configured "UI" "2" := by decide
  refine ⟨fun claimed => ?_, read⟩
  have undocumented : ¬ Documented "ConfigReader2" :=
    not_documented_of_glued ⟨'2', "", by decide, by decide⟩
  cases read.symm.trans ((claimed "ConfigReader2" "email").2 undocumented)

theorem dropWhile_of_start {reference : List Char} (start : reference.head? ≠ some '.') :
    reference.dropWhile (· = '.') = reference := by
  cases reference with
  | nil => rfl
  | cons c rest => exact List.dropWhile_cons_of_neg (by simpa using start)

theorem head?_of_section {name : String} (named : name ≠ "") (undotted : '.' ∉ name.toList)
    (rest : List Char) : (name.toList ++ rest).head? ≠ some '.' := by
  intro first
  cases chars : name.toList with
  | nil => exact named (String.toList_eq_nil_iff.mp chars)
  | cons c others =>
    rw [chars] at first undotted
    obtain rfl : c = '.' := Option.some.inj first
    exact undotted List.mem_cons_self

theorem last_behind {key : String} (keyed : key ≠ "") (bare : Text.Bare key.toList) (front : List Char) :
    ∀ c, (front ++ key.toList).getLast? = some c → ¬ Text.isBlank c := by
  intro c final
  have there : key.toList ≠ [] := String.toList_eq_nil_iff.not.mpr keyed
  exact bare.2 c (List.getLast?_append_of_ne_nil front there ▸ final)

/-- Of a section and a key with a dot between, the section is what stands before the first dot. -/
theorem ofReference_section {name : String} (undotted : '.' ∉ name.toList) (key defaultKey : String) :
    ofReference (name.toList ++ '.' :: key.toList) defaultKey = .configured name key := by
  rw [ofReference, if_neg (by simp), Text.cut_append_of_notMem undotted]
  simp

theorem ofReference_key {key : String} (named : key ≠ "") (undotted : '.' ∉ key.toList)
    (defaultKey : String) : ofReference key.toList defaultKey = .configured "UI" key := by
  have uncut : Text.cut '.' key.toList = none := by
    refine Option.eq_none_iff_forall_ne_some.mpr fun (before, after) found => undotted ?_
    rw [Text.cut_eq_some found]
    simp
  rw [ofReference, if_neg (by simpa using named), uncut]
  simp [Config.uiSection]

/-- A reference has a section, and no dot in it: the dots in front are gone, and of the others the first
stands behind the section. -/
theorem section_of_ofReference {reference : List Char} {defaultKey name key : String}
    (start : reference.head? ≠ some '.')
    (referred : ofReference reference defaultKey = .configured name key) :
    name ≠ "" ∧ '.' ∉ name.toList := by
  have usual : Config.uiSection ≠ "" ∧ '.' ∉ Config.uiSection.toList := by decide
  rw [ofReference] at referred
  split at referred
  · obtain ⟨rfl, rfl⟩ := Source.configured.inj referred
    exact usual
  · split at referred
    · rename_i before after found
      obtain ⟨rfl, rfl⟩ := Source.configured.inj referred
      obtain ⟨rfl, first⟩ := Text.cut_eq_some_iff.mp found
      refine ⟨?_, by simpa using first⟩
      rintro none
      obtain rfl : before = [] := by simpa using none
      exact start rfl
    · obtain ⟨rfl, rfl⟩ := Source.configured.inj referred
      exact usual

theorem head?_dropWhile_dots (tail : List Char) :
    (tail.dropWhile (· = '.')).head? ≠ some '.' := by
  intro first
  have stops := List.head?_dropWhile_not (· = '.') tail
  rw [first] at stops
  simp at stops

/-- A value of an INI text can be referred to if its section has a name without dots, and only then. It is
referred to by its section and key, or by its key alone if the section is the usual one and the key has no
dots, whatever the default key is. Such a reference has the value, as long as the text is the configuration. -/
theorem exists_reference_iff {text name key value : String}
    (given : (Ini.ofText text).get? name key = some value) (defaultKey : String) :
    ((∃ raw, ofText raw defaultKey = .configured name key) ↔ name ≠ "" ∧ '.' ∉ name.toList) ∧
    (name ≠ "" ∧ '.' ∉ name.toList →
      ofText ("ConfigReader." ++ name ++ "." ++ key) defaultKey = .configured name key ∧
      (name = "UI" → '.' ∉ key.toList →
        ofText ("ConfigReader." ++ key) defaultKey = .configured name key) ∧
      ∀ {σ : Type} (w : World σ), w.config = .ofIni text →
        (Run.resolve (.configured name key)).run w = (.ok value, w)) := by
  obtain ⟨keyed, bare⟩ := Ini.bare_of_get? given
  have full (proper : name ≠ "" ∧ '.' ∉ name.toList) :
      ofText ("ConfigReader." ++ name ++ "." ++ key) defaultKey = .configured name key := by
    have chars : (name ++ "." ++ key).toList = name.toList ++ '.' :: key.toList := by simp
    have last : ∀ c, (name ++ "." ++ key).toList.getLast? = some c → ¬ Text.isBlank c := by
      rw [String.toList_append]
      exact last_behind keyed bare _
    have start := head?_of_section proper.1 proper.2 ('.' :: key.toList)
    have whole : "ConfigReader." ++ name ++ "." ++ key = "ConfigReader." ++ (name ++ "." ++ key) := by
      simp only [String.append_assoc]
    rw [whole, ofText_dotted last, chars, dropWhile_of_start start, ofReference_section proper.2]
  refine ⟨⟨?_, fun proper => ⟨_, full proper⟩⟩, fun proper => ⟨full proper, ?_, ?_⟩⟩
  · rintro ⟨raw, referred⟩
    obtain ⟨tail, marked⟩ := isReference_iff.mp ⟨name, key, referred⟩
    rw [ofText_of_marked marked] at referred
    exact section_of_ofReference (head?_dropWhile_dots tail) referred
  · rintro rfl undotted
    have start := head?_of_section keyed undotted []
    rw [List.append_nil] at start
    rw [ofText_dotted bare.2, dropWhile_of_start start, ofReference_key keyed undotted]
  · intro σ w loaded
    have table : w.config.table = some (Ini.ofText text) := by
      rw [loaded]
      rfl
    rw [Run.resolve, Act.run_lookup_of_table table, Config.value, given]

/-- A key with dots and a value with an equals sign; and a section that no reference leads to. -/
theorem exists_reference_iff_of_dots :
    let text := "[Admin Area]\n a.b = v=w\n[v1.2]\nkey = x\n"
    (Ini.ofText text).get? "Admin Area" "a.b" = some "v=w" ∧
    (Ini.ofText text).get? "v1.2" "key" = some "x" ∧
    ofText "ConfigReader.Admin Area.a.b" "email" = .configured "Admin Area" "a.b" ∧
    (∀ {σ : Type} (w : World σ), w.config = .ofIni text →
      (Run.resolve (.configured "Admin Area" "a.b")).run w = (.ok "v=w", w)) ∧
    ¬ ∃ raw, ofText raw "email" = .configured "v1.2" "key" := by
  intro text
  have given : (Ini.ofText text).get? "Admin Area" "a.b" = some "v=w" := by decide
  have hidden : (Ini.ofText text).get? "v1.2" "key" = some "x" := by decide
  obtain ⟨referred, -, resolved⟩ := (exists_reference_iff given "email").2 (by decide)
  refine ⟨given, hidden, referred, resolved, fun reached => ?_⟩
  exact absurd ((exists_reference_iff hidden "email").1.mp reached).2 (by decide)

end Source

end Rehearsal
