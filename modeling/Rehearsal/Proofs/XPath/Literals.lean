import Rehearsal.Proofs.XPath.Expression

/-!
# Texts as string expressions

Apostrophes and quotes may stand anywhere in a text, so none of the three forms that it can be written in
serves for all. Whichever is taken spells one expression, and the value of that is the text.
-/
namespace Rehearsal.XPath

/-- Parts without apostrophes, with the literal of an apostrophe between neighbours. By induction on
the parts, of which each but the first takes two commas. -/
theorem spelled_intercalate (part : List Char) (parts : List (List Char))
    (plain : ∀ q ∈ part :: parts, apostrophe ∉ q) :
    SpelledArguments (part :: parts.flatMap fun q => [[apostrophe], q])
      ((", \"'\", ".toList).intercalate ((part :: parts).map single)) := by
  induction parts generalizing part with
  | nil =>
    rw [List.map_singleton, List.intercalate_singleton]
    exact .last (.single (plain part List.mem_cons_self))
  | cons q rest ih =>
    rw [List.forall_mem_cons] at plain
    have middle : SpelledLiteral [apostrophe] (double [apostrophe]) := .double (by decide)
    have spelled := SpelledArguments.cons (.single plain.1) gap_nil gap_space
      (.cons middle gap_nil gap_space (ih q plain.2))
    rw [List.map_cons, List.map_cons, List.intercalate_cons_cons, List.append_assoc]
    exact spelled

theorem value_of_parts (part : List Char) (parts : List (List Char)) :
    part ++ (parts.flatMap fun q => [[apostrophe], q]).flatten =
      [apostrophe].intercalate (part :: parts) := by
  induction parts generalizing part with
  | nil => simp
  | cons q rest ih =>
    rw [List.intercalate_cons_cons, ← ih q]
    simp

theorem spelled_concatenation {first second : List Char} {rest : List (List Char)}
    (plain : ∀ q ∈ first :: second :: rest, apostrophe ∉ q) :
    Spelled (.concat first [apostrophe] (second :: rest.flatMap fun q => [[apostrophe], q]))
      (concatenation (first :: second :: rest)) := by
  have spelled := Spelled.concat gap_nil (spelled_intercalate first (second :: rest) plain) gap_nil
  have whole : concatenation (first :: second :: rest) = "concat(".toList ++
      ((", \"'\", ".toList).intercalate ((first :: second :: rest).map single) ++ [')']) :=
    List.append_assoc _ _ _
  rw [whole]
  exact spelled

/-- What is written for a text spells an expression whose value is the text. -/
theorem spelled_literalChars (s : List Char) : ∃ e, Spelled e (literalChars s) ∧ e.value = s := by
  unfold literalChars
  split
  · rename_i plain
    exact ⟨.literal s, .literal (.single (by simpa using plain)), rfl⟩
  · split
    · rename_i plain
      exact ⟨.literal s, .literal (.double (by simpa using plain)), rfl⟩
    · rename_i apostrophes _
      have apostrophes : apostrophe ∈ s := by simpa using apostrophes
      obtain ⟨first, second, rest, hs⟩ := Text.splitAll_of_mem apostrophes
      have plain : ∀ q ∈ first :: second :: rest, apostrophe ∉ q :=
        fun q hq => Text.notMem_of_mem_splitAll (hs ▸ hq)
      refine ⟨_, hs ▸ spelled_concatenation plain, ?_⟩
      have whole := value_of_parts first (second :: rest)
      rw [← hs, Text.intercalate_splitAll] at whole
      simpa [StringExpr.value] using whole

/-- It is read to its end. -/
theorem expression?_literalChars (s : List Char) :
    ∃ e, expression? (literalChars s) = some e ∧ e.value = s := by
  obtain ⟨e, spelled, value⟩ := spelled_literalChars s
  have read := spelled.read []
  rw [List.append_nil] at read
  exact ⟨e, expression?_of_read read, value⟩

/-- What is written for a text spells one string expression, from its first character to its last, and
the value of that is the text. So different texts are written differently. -/
theorem literal_denotes :
    (∀ text : String, ∃ e : StringExpr,
      (∀ e', Spelled e' (literal text).toList ↔ e' = e) ∧ e.value = text.toList) ∧
    Function.Injective literal := by
  have denotes (text : String) : ∃ e, Spelled e (literal text).toList ∧ e.value = text.toList := by
    rw [literal, String.toList_ofList]
    exact spelled_literalChars text.toList
  constructor
  · intro text
    obtain ⟨e, spelled, value⟩ := denotes text
    refine ⟨e, fun e' => ⟨fun spelled' => spelled'.unique spelled, ?_⟩, value⟩
    rintro rfl
    exact spelled
  · intro text text' same
    obtain ⟨e, spelled, value⟩ := denotes text
    obtain ⟨e', spelled', value'⟩ := denotes text'
    have one : e = e' := spelled.unique (same ▸ spelled')
    exact String.toList_injective (by rw [← value, ← value', one])

example : literal "it's \"so\"" = "concat('it', \"'\", 's \"so\"')" := by decide

end Rehearsal.XPath
