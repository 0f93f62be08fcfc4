import Rehearsal.Proofs.Json.Tokens

/-!
# Documents are read back

A text spells a document if it is made up of the document's tokens, with blanks where a writer may leave
some to lay it out. A text that spells a document is read as a node that holds the document.
-/
namespace Rehearsal.Json

mutual

/-- The node is a value in the text that stands for the document. -/
inductive Node.Holds : Node → Document → Prop
  | null (stop : Nat) : Node.Holds (.null stop) .null
  | bool (b : Bool) (stop : Nat) : Node.Holds (.bool b stop) (.bool b)
  | number (n : Number) (stop : Nat) : Node.Holds (.number (.ok n) stop) (.number n)
  | string (s : String) (stop : Nat) : Node.Holds (.string (.ok s) stop) (.string s)
  | array (start : Nat) {elements : Elements} {xs : List Document} (items : elements.Hold xs) :
    Node.Holds (.array start elements) (.array xs)
  | object (start : Nat) {members : Members} {ms : List (String × Document)} (items : members.Hold ms) :
    Node.Holds (.object start members) (.object ms)

inductive Elements.Hold : Elements → List Document → Prop
  | closed (stop : Nat) : Elements.Hold (.closed stop) []
  | next (start settled : Nat) {node : Node} {x : Document} {rest : Elements} {xs : List Document}
    (head : node.Holds x) (tail : rest.Hold xs) : Elements.Hold (.next start node settled rest) (x :: xs)

inductive Members.Hold : Members → List (String × Document) → Prop
  | closed (stop : Nat) : Members.Hold (.closed stop) []
  | next (key : String) (named settled : Nat) {node : Node} {x : Document} {rest : Members}
    {ms : List (String × Document)} (head : node.Holds x) (tail : rest.Hold ms) :
    Members.Hold (.next (.ok key) named node settled rest) ((key, x) :: ms)

end

/-- Blanks between tokens. -/
def Gaps (g : List Char) : Prop := ∀ c ∈ g, Cursor.isGap c

/-- What stands before an item: blanks, and a comma before them unless the item is the first. -/
def lead (first : Bool) (g : List Char) : List Char := if first then g else ',' :: g

mutual

/-- The text is a written form of the document. The numbers are natural ones of 64 bits. -/
inductive Spelled : Document → List Char → Prop
  | null : Spelled .null "null".toList
  | bool (b : Bool) : Spelled (.bool b) (if b then "true" else "false").toList
  | nat {n : Nat} (fits : n < UInt64.size) : Spelled (.nat n) (Nat.toDigits 10 n)
  | string (s : String) : Spelled (.string s) (Quotation.write s.toList)
  | array {xs : List Document} {body g : List Char} (items : SpelledElements true xs body)
    (gaps : Gaps g) : Spelled (.array xs) ('[' :: (body ++ (g ++ [']'])))
  | object {ms : List (String × Document)} {body g : List Char} (items : SpelledMembers true ms body)
    (gaps : Gaps g) : Spelled (.object ms) ('\x7b' :: (body ++ (g ++ ['\x7d'])))

inductive SpelledElements : Bool → List Document → List Char → Prop
  | nil (first : Bool) : SpelledElements first [] []
  | cons {first : Bool} {x : Document} {xs : List Document} {g s rest : List Char} (gaps : Gaps g)
    (head : Spelled x s) (tail : SpelledElements false xs rest) :
    SpelledElements first (x :: xs) (lead first g ++ (s ++ rest))

inductive SpelledMembers : Bool → List (String × Document) → List Char → Prop
  | nil (first : Bool) : SpelledMembers first [] []
  | cons {first : Bool} {key : String} {x : Document} {ms : List (String × Document)}
    {g h s rest : List Char} (gaps : Gaps g) (inner : Gaps h) (head : Spelled x s)
    (tail : SpelledMembers false ms rest) :
    SpelledMembers first ((key, x) :: ms)
      (lead first g ++ (Quotation.write key.toList ++ (':' :: (h ++ (s ++ rest)))))

end

namespace Cursor

theorem skipGaps_append {g s : List Char} (gaps : Gaps g) (stops : ∀ c ∈ s.head?, ¬ isGap c) (k : Nat) :
    (⟨g ++ s, k⟩ : Cursor).skipGaps = ⟨s, k + bytes g⟩ := by
  rw [skipGaps, takeWhile_append k gaps stops]

end Cursor

/-- A character that a value may begin with. -/
def Begins (c : Char) : Prop := Cursor.isGap c = false ∧ c ≠ ',' ∧ c ≠ ']' ∧ c ≠ '\x7d'

instance : DecidablePred Begins := fun c =>
  inferInstanceAs (Decidable (Cursor.isGap c = false ∧ c ≠ ',' ∧ c ≠ ']' ∧ c ≠ '\x7d'))

theorem begins_of_isDigit {c : Char} (digit : c.isDigit) : Begins c := by
  simp only [Begins, Cursor.isGap, Bool.or_eq_false_iff, beq_eq_false_iff_ne]
  refine ⟨⟨⟨⟨?_, ?_⟩, ?_⟩, ?_⟩, ?_, ?_, ?_⟩ <;> rintro rfl <;> simp at digit

theorem Spelled.begins {d : Document} {s : List Char} (h : Spelled d s) :
    ∃ c rest, s = c :: rest ∧ Begins c := by
  cases h with
  | null => exact ⟨'n', _, rfl, by decide⟩
  | bool b =>
    cases b with
    | false => exact ⟨'f', _, rfl, by decide⟩
    | true => exact ⟨'t', _, rfl, by decide⟩
  | @nat n fits =>
    cases digits : Nat.toDigits 10 n with
    | nil => exact absurd digits Nat.toDigits_ne_nil
    | cons c rest =>
      have digit : c.isDigit := Nat.isDigit_of_mem_toDigits (b := 10) (n := n) (by decide) (by decide)
        (by simp [digits])
      exact ⟨c, rest, rfl, begins_of_isDigit digit⟩
  | string s => exact ⟨_, _, rfl, by decide⟩
  | array => exact ⟨_, _, rfl, by decide⟩
  | object => exact ⟨_, _, rfl, by decide⟩

/-! ## One step of the reader, once it is known what comes next -/

theorem Node.quotation_write (s rest : List Char) (k : Nat) :
    ∃ stop, quotation ⟨s.flatMap Quotation.escape ++ '"' :: rest, k⟩ =
      (.ok (String.ofList s), .ok ⟨rest, stop⟩) := by
  obtain ⟨stop, read⟩ := Quotation.read_flatMap_escape s rest k
  exact ⟨stop, by rw [quotation, read]⟩

theorem readNode_digit {fuel : Nat} {s : List Char} {k : Nat} (digit : ∀ c ∈ s.head?, c.isDigit)
    (some : s ≠ []) : readNode (fuel + 1) ⟨s, k⟩ = Node.numeral ⟨s, k⟩ := by
  cases s with
  | nil => exact absurd rfl some
  | cons c s =>
    have digit : c.isDigit := digit c rfl
    have gap : ¬ Cursor.isGap c := by simp [(begins_of_isDigit digit).1]
    have still : (⟨c :: s, k⟩ : Cursor).skipGaps = ⟨c :: s, k⟩ :=
      Cursor.skipGaps_append (g := []) (by simp [Gaps]) (by simpa using gap) k
    rw [readNode.eq_def]
    simp only [still]
    split <;> simp_all

theorem readElements_closed {g : List Char} (gaps : Gaps g) (fuel : Nat) (rest : List Char) (k : Nat)
    (first : Bool) : ∃ stop, readElements (fuel + 1) ⟨g ++ ']' :: rest, k⟩ first =
      (.closed stop, ⟨rest, stop⟩) := by
  have there := Cursor.skipGaps_append gaps (s := ']' :: rest) (by simp [Cursor.isGap]) k
  refine ⟨k + Cursor.bytes g + ']'.utf8Size, ?_⟩
  cases first <;> simp [readElements, there, Cursor.pass]

/-- A value is next: the element is read. -/
theorem readElements_lead {c : Char} (begins : Begins c) {g : List Char} (gaps : Gaps g) (fuel : Nat)
    (rest : List Char) (k : Nat) (first : Bool) :
    ∃ k', readElements (fuel + 1) ⟨lead first g ++ c :: rest, k⟩ first =
      readElement fuel ⟨c :: rest, k'⟩ := by
  obtain ⟨gap, _, bracket, _⟩ := begins
  have there (k : Nat) := Cursor.skipGaps_append gaps (s := c :: rest) (by simpa using gap) k
  cases first with
  | true =>
    refine ⟨k + Cursor.bytes g, ?_⟩
    rw [readElements.eq_def]
    simp only [lead, if_pos, there]
    split <;> simp_all
  | false =>
    have comma : (⟨lead false g ++ c :: rest, k⟩ : Cursor).skipGaps = ⟨',' :: (g ++ c :: rest), k⟩ :=
      Cursor.skipGaps_append (g := []) (by simp [Gaps]) (by simp [Cursor.isGap]) k
    refine ⟨k + ','.utf8Size + Cursor.bytes g, ?_⟩
    rw [readElements.eq_def]
    simp only [comma, Cursor.pass, Cursor.eat?_self, Option.getD_some, there]
    split <;> simp_all

theorem readMembers_closed {g : List Char} (gaps : Gaps g) (fuel : Nat) (rest : List Char) (k : Nat)
    (first : Bool) : ∃ stop, readMembers (fuel + 1) ⟨g ++ '\x7d' :: rest, k⟩ first =
      (.closed stop, ⟨rest, stop⟩) := by
  have there := Cursor.skipGaps_append gaps (s := '\x7d' :: rest) (by simp [Cursor.isGap]) k
  refine ⟨k + Cursor.bytes g + '\x7d'.utf8Size, ?_⟩
  cases first <;> simp [readMembers, there, Cursor.pass]

/-- A name is next: the member is read. -/
theorem readMembers_lead {g : List Char} (gaps : Gaps g) (fuel : Nat) (key rest : List Char) (k : Nat)
    (first : Bool) : ∃ k', readMembers (fuel + 1) ⟨lead first g ++ (Quotation.write key ++ rest), k⟩ first =
      readMember fuel ⟨Quotation.write key ++ rest, k'⟩ := by
  change ∃ k', readMembers (fuel + 1) ⟨lead first g ++ '"' :: (_ ++ rest), k⟩ first =
    readMember fuel ⟨'"' :: (_ ++ rest), k'⟩
  generalize key.flatMap Quotation.escape ++ ['"'] ++ rest = rest
  have there (k : Nat) := Cursor.skipGaps_append gaps (s := '"' :: rest) (by simp [Cursor.isGap]) k
  cases first with
  | true => exact ⟨k + Cursor.bytes g, by simp [readMembers, lead, there]⟩
  | false =>
    have comma : (⟨lead false g ++ '"' :: rest, k⟩ : Cursor).skipGaps = ⟨',' :: (g ++ '"' :: rest), k⟩ :=
      Cursor.skipGaps_append (g := []) (by simp [Gaps]) (by simp [Cursor.isGap]) k
    refine ⟨k + ','.utf8Size + Cursor.bytes g, ?_⟩
    simp only [readMembers, comma, Cursor.pass, Cursor.eat?_self, Option.getD_some, there]

theorem readNode_gaps {g s : List Char} (gaps : Gaps g) (stops : ∀ c ∈ s.head?, ¬ Cursor.isGap c)
    (fuel k : Nat) :
    readNode (fuel + 1) ⟨g ++ s, k⟩ = readNode (fuel + 1) ⟨s, k + Cursor.bytes g⟩ := by
  have still (k : Nat) : (⟨s, k⟩ : Cursor).skipGaps = ⟨s, k⟩ :=
    Cursor.skipGaps_append (g := []) (by simp [Gaps]) stops k
  rw [readNode, readNode, Cursor.skipGaps_append gaps stops, still]

theorem readElement_of_holds {fuel : Nat} {c c' : Cursor} {node : Node} {d : Document}
    (h : readNode fuel c = (node, c')) (holds : node.Holds d) :
    readElement (fuel + 1) c = (.next c.offset node c'.settleElement (readElements fuel c' false).1,
      (readElements fuel c' false).2) := by
  cases holds <;> simp [readElement, h]

/-- Behind a name and a colon the value is read. -/
theorem readMember_write (fuel : Nat) (key : String) (s : List Char) (k : Nat) :
    ∃ named k', ∀ {node c' d}, readNode fuel ⟨s, k'⟩ = (node, c') → node.Holds d →
      readMember (fuel + 1) ⟨Quotation.write key.toList ++ ':' :: s, k⟩ =
        (.next (.ok key) named node c'.settleMember (readMembers fuel c' false).1,
          (readMembers fuel c' false).2) := by
  obtain ⟨stop, read⟩ := Node.quotation_write key.toList (':' :: s) (k + '"'.utf8Size)
  have colon : (⟨':' :: s, stop⟩ : Cursor).skipGaps = ⟨':' :: s, stop⟩ :=
    Cursor.skipGaps_append (g := []) (by simp [Gaps]) (by simp [Cursor.isGap]) stop
  refine ⟨(⟨':' :: s, stop⟩ : Cursor).settleMember, stop + ':'.utf8Size, fun {node c' d} h holds => ?_⟩
  have opened : Quotation.write key.toList ++ ':' :: s =
      '"' :: (key.toList.flatMap Quotation.escape ++ '"' :: ':' :: s) := by simp [Quotation.write]
  rw [opened, readMember]
  simp only [Cursor.pass, Cursor.eat?_self, Option.getD_some, read, colon, String.ofList_toList, h]
  cases holds <;> rfl

/-- What follows a value does not continue it. -/
theorem ends_of_gaps {g : List Char} (gaps : Gaps g) {c : Char} (closes : c = ']' ∨ c = '\x7d')
    (rest : List Char) : Numeral.Ends (g ++ c :: rest) := by
  intro d first
  cases g with
  | nil =>
    cases first
    rcases closes with rfl | rfl <;> decide
  | cons b g =>
    cases first
    have gap := gaps d List.mem_cons_self
    simp only [Cursor.isGap, Bool.or_eq_true, beq_iff_eq] at gap
    rcases gap with ((rfl | rfl) | rfl) | rfl <;> decide

theorem ends_of_lead (g s : List Char) : Numeral.Ends (lead false g ++ s) := by
  simp [Numeral.Ends, lead]

theorem SpelledElements.ends {xs : List Document} {body g : List Char} (h : SpelledElements false xs body)
    (gaps : Gaps g) (rest : List Char) : Numeral.Ends (body ++ (g ++ ']' :: rest)) := by
  cases h with
  | nil => exact ends_of_gaps gaps (.inl rfl) rest
  | cons =>
    rw [List.append_assoc]
    exact ends_of_lead _ _

theorem SpelledMembers.ends {ms : List (String × Document)} {body g : List Char}
    (h : SpelledMembers false ms body) (gaps : Gaps g) (rest : List Char) :
    Numeral.Ends (body ++ (g ++ '\x7d' :: rest)) := by
  cases h with
  | nil => exact ends_of_gaps gaps (.inr rfl) rest
  | cons =>
    rw [List.append_assoc]
    exact ends_of_lead _ _

theorem readNode_null (fuel : Nat) (rest : List Char) (k : Nat) :
    readNode (fuel + 1) ⟨"null".toList ++ rest, k⟩ = (.null (k + 4), ⟨rest, k + 4⟩) := rfl

theorem readNode_bool (b : Bool) (fuel : Nat) (rest : List Char) (k : Nat) :
    ∃ stop, readNode (fuel + 1) ⟨(if b then "true" else "false").toList ++ rest, k⟩ =
      (.bool b stop, ⟨rest, stop⟩) := by
  cases b with
  | false => exact ⟨k + 5, rfl⟩
  | true => exact ⟨k + 4, rfl⟩

theorem readNode_toDigits {n : Nat} (fits : n < UInt64.size) (fuel : Nat) {rest : List Char}
    (ends : Numeral.Ends rest) (k : Nat) :
    ∃ stop, readNode (fuel + 1) ⟨Nat.toDigits 10 n ++ rest, k⟩ =
      (.number (.ok (.integer n)) stop, ⟨rest, stop⟩) := by
  obtain ⟨stop, read⟩ := Numeral.read_toDigits n ends k
  refine ⟨stop, ?_⟩
  rw [readNode_digit ?_ (by simp [Nat.toDigits_ne_nil]), Node.numeral, read]
  · simp only [Numeral.value_natural fits]
  · rw [List.head?_append_of_ne_nil _ Nat.toDigits_ne_nil]
    intro c first
    exact Nat.isDigit_of_mem_toDigits (by decide) (by decide) (List.mem_of_mem_head? first)

theorem readNode_write (s : String) (fuel : Nat) (rest : List Char) (k : Nat) :
    ∃ stop, readNode (fuel + 1) ⟨Quotation.write s.toList ++ rest, k⟩ =
      (.string (.ok s) stop, ⟨rest, stop⟩) := by
  obtain ⟨stop, read⟩ := Node.quotation_write s.toList rest (k + '"'.utf8Size)
  refine ⟨stop, ?_⟩
  have opened : Quotation.write s.toList ++ rest =
      '"' :: (s.toList.flatMap Quotation.escape ++ '"' :: rest) := by simp [Quotation.write]
  have still (s : List Char) : (⟨'"' :: s, k⟩ : Cursor).skipGaps = ⟨'"' :: s, k⟩ := rfl
  rw [opened, readNode, still]
  simp only [Cursor.pass, Cursor.eat?_self, Option.getD_some, Node.text, read, String.ofList_toList]

theorem readNode_bracket (fuel : Nat) (s : List Char) (k : Nat) :
    readNode (fuel + 1) ⟨'[' :: s, k⟩ = (.array k (readElements fuel ⟨s, k + 1⟩ true).1,
      (readElements fuel ⟨s, k + 1⟩ true).2) := rfl

theorem readNode_brace (fuel : Nat) (s : List Char) (k : Nat) :
    readNode (fuel + 1) ⟨'\x7b' :: s, k⟩ = (.object k (readMembers fuel ⟨s, k + 1⟩ true).1,
      (readMembers fuel ⟨s, k + 1⟩ true).2) := rfl

/-! ## The reader, led by the document -/

mutual

theorem readNode_of_spelled {d : Document} {s : List Char} (h : Spelled d s) {rest : List Char}
    (ends : Numeral.Ends rest) (fuel : Nat) (enough : 3 * s.length ≤ fuel) (k : Nat) :
    ∃ node stop, readNode fuel ⟨s ++ rest, k⟩ = (node, ⟨rest, stop⟩) ∧ node.Holds d := by
  obtain ⟨c, tail, starts, begins⟩ := h.begins
  obtain ⟨fuel, rfl⟩ : ∃ n, fuel = n + 1 := ⟨fuel - 1, by
    rw [starts, List.length_cons] at enough
    omega⟩
  match d, h with
  | .null, .null => exact ⟨_, _, readNode_null fuel rest k, .null _⟩
  | .bool b, .bool _ =>
    obtain ⟨stop, read⟩ := readNode_bool b fuel rest k
    exact ⟨_, stop, read, .bool b stop⟩
  | .number _, .nat fits =>
    obtain ⟨stop, read⟩ := readNode_toDigits fits fuel ends k
    exact ⟨_, stop, read, .number _ stop⟩
  | .string s, .string _ =>
    obtain ⟨stop, read⟩ := readNode_write s fuel rest k
    exact ⟨_, stop, read, .string s stop⟩
  | .array xs, .array items gaps =>
    simp only [List.length_cons, List.length_append] at enough
    obtain ⟨elements, stop, reads, hold⟩ :=
      readElements_of_spelled items gaps rest fuel (by omega) (k + 1)
    refine ⟨.array k elements, stop, ?_, .array k hold⟩
    simp only [List.cons_append, List.append_assoc, List.nil_append, readNode_bracket, reads]
  | .object ms, .object items gaps =>
    simp only [List.length_cons, List.length_append] at enough
    obtain ⟨members, stop, reads, hold⟩ :=
      readMembers_of_spelled items gaps rest fuel (by omega) (k + 1)
    refine ⟨.object k members, stop, ?_, .object k hold⟩
    simp only [List.cons_append, List.append_assoc, List.nil_append, readNode_brace, reads]

theorem readElements_of_spelled {xs : List Document} {first : Bool} {body g : List Char}
    (h : SpelledElements first xs body) (gaps : Gaps g) (rest : List Char) (fuel : Nat)
    (enough : 3 * body.length + 2 ≤ fuel) (k : Nat) :
    ∃ elements stop, readElements fuel ⟨body ++ (g ++ ']' :: rest), k⟩ first =
      (elements, ⟨rest, stop⟩) ∧ elements.Hold xs := by
  obtain ⟨fuel, rfl⟩ : ∃ n, fuel = n + 2 := ⟨fuel - 2, by omega⟩
  match xs, h with
  | [], .nil _ =>
    obtain ⟨stop, read⟩ := readElements_closed gaps (fuel + 1) rest k first
    exact ⟨_, stop, read, .closed stop⟩
  | x :: xs, @SpelledElements.cons _ _ _ _ s others between head tail =>
    obtain ⟨c, t, rfl, begins⟩ := head.begins
    simp only [List.length_append, List.length_cons] at enough
    obtain ⟨k', element⟩ := readElements_lead begins between (fuel + 1)
      (t ++ (others ++ (g ++ ']' :: rest))) k first
    obtain ⟨node, stop, read, holds⟩ := readNode_of_spelled head (tail.ends gaps rest) fuel
      (by rw [List.length_cons]; omega) k'
    obtain ⟨elements, stop', reads, hold⟩ :=
      readElements_of_spelled tail gaps rest fuel (by omega) stop
    have step := readElement_of_holds read holds
    rw [reads] at step
    simp only [List.append_assoc, List.cons_append] at step ⊢
    exact ⟨_, stop', element.trans step, .next _ _ holds hold⟩

theorem readMembers_of_spelled {ms : List (String × Document)} {first : Bool} {body g : List Char}
    (h : SpelledMembers first ms body) (gaps : Gaps g) (rest : List Char) (fuel : Nat)
    (enough : 3 * body.length + 2 ≤ fuel) (k : Nat) :
    ∃ members stop, readMembers fuel ⟨body ++ (g ++ '\x7d' :: rest), k⟩ first =
      (members, ⟨rest, stop⟩) ∧ members.Hold ms := by
  obtain ⟨fuel, rfl⟩ : ∃ n, fuel = n + 2 := ⟨fuel - 2, by omega⟩
  match ms, h with
  | [], .nil _ =>
    obtain ⟨stop, read⟩ := readMembers_closed gaps (fuel + 1) rest k first
    exact ⟨_, stop, read, .closed stop⟩
  | (key, x) :: ms, @SpelledMembers.cons _ _ _ _ _ inside s others between inner head tail =>
    simp only [List.length_append, List.length_cons] at enough
    obtain ⟨c, t, rfl, begins⟩ := head.begins
    obtain ⟨fuel, rfl⟩ : ∃ n, fuel = n + 1 := ⟨fuel - 1, by
      rw [List.length_cons] at enough
      omega⟩
    let value := c :: t ++ (others ++ (g ++ '\x7d' :: rest))
    obtain ⟨k₁, member⟩ := readMembers_lead between (fuel + 2) key.toList (':' :: (inside ++ value)) k first
    obtain ⟨named, k₂, pair⟩ := readMember_write (fuel + 1) key (inside ++ value) k₁
    obtain ⟨node, stop, read, holds⟩ := readNode_of_spelled head (tail.ends gaps rest) (fuel + 1)
      (by omega) (k₂ + Cursor.bytes inside)
    obtain ⟨members, stop', reads, hold⟩ :=
      readMembers_of_spelled tail gaps rest (fuel + 1) (by omega) stop
    have step := pair ((readNode_gaps inner (by simp [value, begins.1]) fuel k₂).trans read) holds
    rw [reads] at step
    simp only [value, List.append_assoc, List.cons_append] at member step ⊢
    exact ⟨_, stop', member.trans step, .next key _ _ holds hold⟩

end

/-- A text that spells a document is read to its end as the document. -/
theorem Reading.ofText_of_spelled {d : Document} {s : List Char} (h : Spelled d s) :
    ∃ node, Reading.ofText s = ⟨node, none⟩ ∧ node.Holds d := by
  have ends : Numeral.Ends [] := by simp [Numeral.Ends]
  obtain ⟨node, stop, read, holds⟩ := readNode_of_spelled h ends (3 * s.length + 3) (by omega) 0
  rw [List.append_nil] at read
  refine ⟨node, ?_, holds⟩
  simp only [ofText, Cursor.ofText, read]
  rfl

/-- A record ends with its brace: whatever is no gap behind it is too much. -/
theorem Reading.trailing_of_spelled {ms : List (String × Document)} {s : List Char}
    (h : Spelled (.object ms) s) {c : Char} (more : ¬ Cursor.isGap c) (rest : List Char) :
    (Reading.ofText (s ++ c :: rest)).trailing.isSome := by
  cases h with
  | @object _ body g items gaps =>
    obtain ⟨members, stop, reads, -⟩ := readMembers_of_spelled items gaps (c :: rest)
      (3 * ('\x7b' :: (body ++ (g ++ '\x7d' :: c :: rest))).length + 2)
      (by simp only [List.length_cons, List.length_append]; omega) 1
    have still : (⟨c :: rest, stop⟩ : Cursor).skipGaps = ⟨c :: rest, stop⟩ :=
      Cursor.skipGaps_append (g := []) nofun (by simpa using more) stop
    simp only [List.cons_append, List.append_assoc, List.nil_append, ofText, Cursor.ofText,
      readNode_brace, reads, still]
    rfl

end Rehearsal.Json
