import Rehearsal.Ini
import Rehearsal.Proofs.Text.Splitting
import Rehearsal.Proofs.Text.Trimming

/-!
# The lines of an INI text

A text is read line by line, and all that counts of it are its trimmed lines that are neither blank nor
comments. These are the same whether lines end with a carriage return or not, and the lines of two texts
with a line feed in between are the lines of the one and then those of the other.
-/
namespace Rehearsal

namespace Text

theorem trim_dropReturn (line : List Char) : trim (dropReturn line) = trim line := by
  rw [dropReturn]
  split
  · rename_i last
    obtain ⟨start, rfl⟩ := List.getLast?_eq_some_iff.mp last
    rw [List.dropLast_concat, trim_concat_of_isBlank (by decide)]
  · rfl

end Text

namespace Ini

/-- A trimmed line counts if it is neither blank nor a comment. -/
def counts (line : List Char) : Bool := !line.isEmpty && line.head? != some '#'

/-- The lines that count, trimmed. -/
def contents (text : String) : List (List Char) :=
  ((text.toList.splitOn '\n').map Text.trim).filter counts

/-- The line that opens the section of a name. -/
def header (name : String) : List Char := '[' :: name.toList ++ [']']

/-- The line opens a section. -/
def Opens (line : List Char) : Prop := line.head? = some '[' ∧ line.getLast? = some ']'

/-- The line sets a key to a value: they stand before and behind the first `=` of it. -/
def Sets (line : List Char) (key value : String) : Prop :=
  ∃ before after, line = before ++ '=' :: after ∧ '=' ∉ before ∧
    Text.trim before = key.toList ∧ Text.trim after = value.toList

theorem contents_append (a b : String) : contents (a ++ "\n" ++ b) = contents a ++ contents b := by
  have joined : (a ++ "\n" ++ b).toList = a.toList ++ '\n' :: b.toList := by
    rw [String.toList_append, String.toList_append, List.append_assoc]
    rfl
  simp only [contents, joined, List.splitOn_append_cons_self, List.map_append, List.filter_append]

/-- Carriage returns and a line feed at the end make no difference. -/
theorem contents_eq_filter_lines (text : String) :
    contents text = ((Text.lines text.toList).map Text.trim).filter counts := by
  rw [contents, Text.lines, ← Text.splitAll_eq_splitOn]
  rcases (Text.splitAll '\n' text.toList).eq_nil_or_concat with none | ⟨start, last, parts⟩
  · rw [none]
    rfl
  · have returns : start.map (Text.trim ∘ Text.dropReturn) = start.map Text.trim :=
      List.map_congr_left fun line _ => Text.trim_dropReturn line
    rw [parts, List.concat_eq_append, List.dropLast_concat, List.getLast?_concat, List.map_append,
      List.map_append, List.map_map, returns, List.filter_append, List.filter_append]
    cases last with
    | nil => rfl
    | cons c rest => rfl

theorem ofChars_of_not_counts {line : List Char} (h : counts line = false) :
    Line.ofChars line = .other := by
  have blank : line.isEmpty || line.head? = some '#' := by
    revert h
    cases line <;> simp [counts]
  rw [Line.ofChars, if_pos (by simpa using blank)]

/-- What a text says, line by line. -/
def statements (text : String) : List Line := (contents text).map Line.ofChars

theorem statements_append (a b : String) :
    statements (a ++ "\n" ++ b) = statements a ++ statements b := by
  rw [statements, contents_append, List.map_append]
  rfl

/-- Lines that do not count leave no trace. By induction on the lines. -/
theorem foldl_step_filter (lines : List (List Char)) (r : Reading) :
    (lines.map Line.ofChars).foldl Reading.step r =
      ((lines.filter counts).map Line.ofChars).foldl Reading.step r := by
  induction lines generalizing r with
  | nil => rfl
  | cons line rest ih =>
    cases h : counts line with
    | true =>
      rw [List.filter_cons_of_pos h]
      exact ih _
    | false =>
      rw [List.filter_cons_of_neg (by simp [h]), List.map_cons, List.foldl_cons, ofChars_of_not_counts h]
      exact ih r

theorem ofText_eq (text : String) :
    ofText text = ((statements text).foldl Reading.step ⟨⟨[]⟩, none⟩).table := by
  have lines : linesOf text = ((Text.lines text.toList).map Text.trim).map Line.ofChars := by
    rw [linesOf, List.map_map]
    rfl
  rw [ofText, lines, foldl_step_filter, ← contents_eq_filter_lines, statements]

theorem headerName?_eq_some_iff {line name : List Char} :
    headerName? line = some name ↔ line = '[' :: name ++ [']'] := by
  constructor
  · intro h
    unfold headerName? at h
    split at h
    · split at h
      · rename_i rest last
        obtain ⟨start, rfl⟩ := List.getLast?_eq_some_iff.mp last
        rw [List.dropLast_concat] at h
        rw [← Option.some.inj h, List.cons_append]
      · cases h
    · cases h
  · rintro rfl
    simp [headerName?]

theorem opens_header (name : String) : Opens (header name) := ⟨rfl, List.getLast?_concat⟩

theorem opens_iff {line : List Char} : Opens line ↔ ∃ name, line = header name := by
  constructor
  · rintro ⟨first, last⟩
    obtain ⟨start, rfl⟩ := List.getLast?_eq_some_iff.mp last
    cases start with
    | nil => simp at first
    | cons c name =>
      obtain rfl : c = '[' := by simpa using first
      exact ⟨String.ofList name, by simp [header]⟩
  · rintro ⟨name, rfl⟩
    exact opens_header name

theorem ofChars_header (name : String) : Line.ofChars (header name) = .header name := by
  have found : headerName? (header name) = some name.toList := headerName?_eq_some_iff.mpr rfl
  rw [Line.ofChars, if_neg (by simp [header]), found]
  exact congrArg Line.header String.ofList_toList

/-- A line that opens no section is read at its first `=`. -/
theorem ofChars_of_not_opens {line : List Char} (h : counts line) (closed : ¬ Opens line) :
    Line.ofChars line = match Text.cut '=' line with
      | some (before, after) =>
        if (Text.trim before).isEmpty then .other
        else .assignment (String.ofList (Text.trim before)) (String.ofList (Text.trim after))
      | none => .other := by
  have nameless : headerName? line = none := by
    refine Option.eq_none_iff_forall_ne_some.mpr fun name found => closed (opens_iff.mpr ?_)
    exact ⟨String.ofList name, by rw [header, String.toList_ofList, headerName?_eq_some_iff.mp found]⟩
  have there : ¬ (line.isEmpty || line.head? = some '#') = true := by
    revert h
    cases line <;> simp [counts]
  rw [Line.ofChars, if_neg there]
  cases Text.cut '=' line <;> simp only [nameless]

theorem ofChars_eq_assignment_iff {line : List Char} {key value : String} :
    Line.ofChars line = .assignment key value ↔
      counts line ∧ ¬ Opens line ∧ key ≠ "" ∧ Sets line key value := by
  cases h : counts line with
  | false => simp [ofChars_of_not_counts h]
  | true =>
    by_cases opens : Opens line
    · obtain ⟨name, rfl⟩ := opens_iff.mp opens
      simp [ofChars_header, opens]
    · rw [ofChars_of_not_opens h opens]
      constructor
      · intro said
        split at said
        · rename_i before after found
          obtain ⟨rfl, first⟩ := Text.cut_eq_some_iff.mp found
          split at said
          · cases said
          · rename_i named
            obtain ⟨rfl, rfl⟩ := Line.assignment.inj said
            refine ⟨rfl, opens, ?_, before, after, rfl, first, ?_, ?_⟩
            · simpa using named
            · simp
            · simp
        · cases said
      · rintro ⟨-, -, named, before, after, rfl, first, key, value⟩
        rw [Text.cut_eq_some_iff.mpr ⟨rfl, first⟩]
        simp [key, value, named]

theorem ofChars_eq_header_iff {line : List Char} {name : String} :
    Line.ofChars line = .header name ↔ line = header name := by
  constructor
  · intro said
    by_cases opens : Opens line
    · obtain ⟨other, rfl⟩ := opens_iff.mp opens
      rw [ofChars_header] at said
      rw [Line.header.inj said]
    · cases h : counts line with
      | false =>
        rw [ofChars_of_not_counts h] at said
        cases said
      | true =>
        rw [ofChars_of_not_opens h opens] at said
        split at said
        · split at said <;> cases said
        · cases said
  · rintro rfl
    exact ofChars_header name

end Ini

end Rehearsal
