import Rehearsal.Proofs.Json.Spelling

/-!
# What is written spells the document

Both forms of a document, on one line and on many, spell it, provided that its numbers are natural ones of
64 bits.
-/
namespace Rehearsal.Json

/-- All numbers in the document are natural ones of 64 bits. -/
inductive Document.Plain : Document → Prop
  | null : Plain .null
  | bool (b : Bool) : Plain (.bool b)
  | nat {n : Nat} (fits : n < UInt64.size) : Plain (.nat n)
  | string (s : String) : Plain (.string s)
  | array {xs : List Document} (items : ∀ x ∈ xs, Plain x) : Plain (.array xs)
  | object {ms : List (String × Document)} (items : ∀ m ∈ ms, Plain m.2) : Plain (.object ms)

namespace Document.Plain

variable {α : Type} {write : α → Document}

theorem ofList_of_mem {xs : List α} (h : ∀ a ∈ xs, (write a).Plain) :
    (Document.ofList write xs).Plain := by
  refine .array fun x hx => ?_
  obtain ⟨a, ha, rfl⟩ := List.mem_map.mp hx
  exact h a ha

theorem ofList (h : ∀ a, (write a).Plain) (xs : List α) : (Document.ofList write xs).Plain :=
  ofList_of_mem fun a _ => h a

theorem ofOption (h : ∀ a, (write a).Plain) (o : Option α) : (Document.ofOption write o).Plain := by
  cases o with
  | none => exact .null
  | some a => exact h a

end Document.Plain

theorem separate_cons (separator item : List Char) (items : List (List Char)) :
    separate separator (item :: items) = item ++ items.flatMap (separator ++ ·) := by
  induction items generalizing item with
  | nil => simp [separate]
  | cons next items ih => simp [separate, ih]

variable {g : List Char} {write : Document → List Char}

theorem SpelledElements.further (gaps : Gaps g) {xs : List Document}
    (h : ∀ x ∈ xs, Spelled x (write x)) :
    SpelledElements false xs ((xs.map write).flatMap (',' :: g ++ ·)) := by
  induction xs with
  | nil => exact .nil false
  | cons x xs ih =>
    have tail := ih fun y hy => h y (List.mem_cons_of_mem x hy)
    have spelled : SpelledElements false (x :: xs) _ := .cons gaps (h x List.mem_cons_self) tail
    simpa [lead] using spelled

/-- Elements with a comma and blanks between them, and the same blanks before the first. -/
theorem SpelledElements.separate (gaps : Gaps g) {x : Document} {xs : List Document}
    (h : ∀ y ∈ x :: xs, Spelled y (write y)) :
    SpelledElements true (x :: xs) (g ++ separate (',' :: g) ((x :: xs).map write)) := by
  have tail := further gaps fun y hy => h y (List.mem_cons_of_mem x hy)
  rw [List.map_cons, separate_cons]
  exact .cons gaps (h x List.mem_cons_self) tail

theorem SpelledMembers.further (gaps : Gaps g) {inner : List Char} (inside : Gaps inner)
    {ms : List (String × Document)} (h : ∀ m ∈ ms, Spelled m.2 (write m.2)) :
    SpelledMembers false ms ((ms.map fun m =>
      Quotation.write m.1.toList ++ ':' :: (inner ++ write m.2)).flatMap (',' :: g ++ ·)) := by
  induction ms with
  | nil => exact .nil false
  | cons m ms ih =>
    have tail := ih fun n hn => h n (List.mem_cons_of_mem m hn)
    have spelled : SpelledMembers false (m :: ms) _ := .cons gaps inside (h m List.mem_cons_self) tail
    simpa [lead] using spelled

theorem SpelledMembers.separate (gaps : Gaps g) {inner : List Char} (inside : Gaps inner)
    {m : String × Document} {ms : List (String × Document)}
    (h : ∀ n ∈ m :: ms, Spelled n.2 (write n.2)) :
    SpelledMembers true (m :: ms) (g ++ separate (',' :: g) ((m :: ms).map fun m =>
      Quotation.write m.1.toList ++ ':' :: (inner ++ write m.2))) := by
  have tail := further gaps inside fun n hn => h n (List.mem_cons_of_mem m hn)
  rw [List.map_cons, separate_cons]
  have spelled : SpelledMembers true (m :: ms) _ := .cons gaps inside (h m List.mem_cons_self) tail
  simpa [lead] using spelled

theorem compactElements_eq (xs : List Document) : compactElements xs = xs.map Document.compact := by
  induction xs with
  | nil => rfl
  | cons x xs ih => rw [compactElements, ih, List.map_cons]

theorem compactMembers_eq (ms : List (String × Document)) : compactMembers ms =
    ms.map fun m => Quotation.write m.1.toList ++ ':' :: m.2.compact := by
  induction ms with
  | nil => rfl
  | cons m ms ih => rw [compactMembers, ih, List.map_cons]

/-- The form on one line spells the document. -/
theorem Document.Plain.spelled {d : Document} (h : d.Plain) : Spelled d d.compact := by
  induction h with
  | null => exact .null
  | bool b => exact .bool b
  | @nat n fits =>
    have written : (Document.nat n).compact = Nat.toDigits 10 n := by
      simp [Document.nat, compact, Number.write]
    rw [written]
    exact .nat fits
  | string s => exact .string s
  | @array xs _ ih =>
    have none : Gaps [] := by simp [Gaps]
    rw [compact, compactElements_eq]
    cases xs with
    | nil => exact .array (.nil true) none
    | cons x xs => exact .array (.separate none ih) none
  | @object ms _ ih =>
    have none : Gaps [] := by simp [Gaps]
    rw [compact, compactMembers_eq]
    cases ms with
    | nil => exact .object (.nil true) none
    | cons m ms => exact .object (.separate none none ih) none

/-! ## With a member or element a line -/

theorem gaps_newLine (level : Nat) : Gaps (newLine level) := by
  intro c hc
  rcases List.mem_cons.mp hc with rfl | space
  · rfl
  · rw [List.eq_of_mem_replicate space]
    rfl

theorem prettyElements_eq (level : Nat) (xs : List Document) :
    prettyElements level xs = xs.map (Document.pretty level) := by
  induction xs with
  | nil => rfl
  | cons x xs ih => rw [prettyElements, ih, List.map_cons]

theorem prettyMembers_eq (level : Nat) (ms : List (String × Document)) : prettyMembers level ms =
    ms.map fun m => Quotation.write m.1.toList ++ ':' :: ([' '] ++ m.2.pretty level) := by
  induction ms with
  | nil => rfl
  | cons m ms ih =>
    rw [prettyMembers, ih, List.map_cons]
    rfl

theorem block_of_ne_nil (opening closing : Char) (level : Nat) {items : List (List Char)}
    (some : items ≠ []) : block opening closing level items =
      opening :: ((newLine (level + 1) ++ separate (',' :: newLine (level + 1)) items) ++
        (newLine level ++ [closing])) := by
  simp [block, some]

/-- The form on many lines spells the document as well. -/
theorem Document.Plain.spelled_pretty {d : Document} (h : d.Plain) (level : Nat) :
    Spelled d (d.pretty level) := by
  induction h generalizing level with
  | null => exact .null
  | bool b => exact .bool b
  | @nat n fits =>
    have written : (Document.nat n).pretty level = Nat.toDigits 10 n := by
      simp [Document.nat, pretty, Number.write]
    rw [written]
    exact .nat fits
  | string s => exact .string s
  | @array xs _ ih =>
    rw [pretty, prettyElements_eq]
    cases xs with
    | nil => exact .array (.nil true) (by simp [Gaps] : Gaps [])
    | cons x xs =>
      rw [block_of_ne_nil _ _ _ (by simp)]
      exact .array (.separate (gaps_newLine _) fun y hy => ih y hy _) (gaps_newLine _)
  | @object ms _ ih =>
    have space : Gaps [' '] := by simp [Gaps, Cursor.isGap]
    rw [pretty, prettyMembers_eq]
    cases ms with
    | nil => exact .object (.nil true) (by simp [Gaps] : Gaps [])
    | cons m ms =>
      rw [block_of_ne_nil _ _ _ (by simp)]
      exact .object (.separate (gaps_newLine _) space fun n hn => ih n hn _) (gaps_newLine _)

end Rehearsal.Json
