import Rehearsal.Proofs.Text.Splitting
import Rehearsal.XPath

/-!
# String expressions

XPath 1.0 as far as texts are written in it: literals, which end at the first character like the one
that they start with, and concatenations of at least two literals. A grammar says which texts spell an
expression, and a reader finds the expression at the front of a text. Each says the same as the other,
so an expression ends where it ends, whatever follows it.
-/
namespace Rehearsal.XPath

/-- The characters that XPath takes for white space. -/
def isBlank (c : Char) : Bool := c = ' ' || c = '\t' || c = '\n' || c = '\r'

inductive StringExpr
  | literal (text : List Char)
  | concat (first second : List Char) (others : List (List Char))
deriving DecidableEq, Repr

def StringExpr.value : StringExpr → List Char
  | .literal text => text
  | .concat first second others => first ++ second ++ others.flatten

/-- The content of a literal, and what follows it. -/
def literal? : List Char → Option (List Char × List Char)
  | [] => none
  | c :: s => if c = apostrophe ∨ c = '"' then Text.cut c s else none

def skipBlanks (s : List Char) : List Char := s.dropWhile isBlank

/-- What follows a comma, with blanks on both sides of it. -/
def comma? (s : List Char) : Option (List Char) :=
  match skipBlanks s with
  | ',' :: rest => some (skipBlanks rest)
  | _ => none

theorem length_of_literal? {s text rest : List Char} (h : literal? s = some (text, rest)) :
    rest.length < s.length := by
  cases s with
  | nil => cases h
  | cons c s =>
    rw [literal?] at h
    split at h
    · have length := congrArg List.length (Text.cut_eq_some h)
      simp only [List.length_append, List.length_cons] at length ⊢
      omega
    · cases h

theorem length_of_comma? {s rest : List Char} (h : comma? s = some rest) :
    rest.length ≤ s.length := by
  have skip (s : List Char) : (skipBlanks s).length ≤ s.length := (List.dropWhile_sublist _).length_le
  unfold comma? at h
  split at h
  · rename_i more eq
    cases h
    have first := skip s
    have second := skip more
    rw [eq, List.length_cons] at first
    omega
  · cases h

/-- Literals with commas between them, and what follows. -/
def arguments? (s : List Char) : Option (List (List Char) × List Char) :=
  match _first : literal? s with
  | none => none
  | some (text, rest) =>
    match _more : comma? rest with
    | none => some ([text], skipBlanks rest)
    | some more => (arguments? more).map fun (texts, rest) => (text :: texts, rest)
termination_by s.length
decreasing_by exact Nat.lt_of_le_of_lt (length_of_comma? _more) (length_of_literal? _first)

/-- The expression that a text is, to its end. -/
def expression? (s : List Char) : Option StringExpr :=
  match literal? s with
  | some (text, []) => some (.literal text)
  | some _ => none
  | none => do
    let rest ← Text.dropFront? "concat(".toList s
    match arguments? (skipBlanks rest) with
    | some (first :: second :: others, [')']) => some (.concat first second others)
    | _ => none

/-- The expression at the front of a text, and what follows it. -/
def readExpression? (s : List Char) : Option (StringExpr × List Char) :=
  match literal? s with
  | some (text, rest) => some (.literal text, rest)
  | none => do
    let rest ← Text.dropFront? "concat(".toList s
    match arguments? (skipBlanks rest) with
    | some (first :: second :: others, ')' :: rest) => some (.concat first second others, rest)
    | _ => none

/-- Nothing but blanks, which may stand between tokens. -/
def Gap (g : List Char) : Prop := ∀ c ∈ g, isBlank c

theorem gap_nil : Gap [] := List.forall_mem_nil _

theorem gap_space : Gap [' '] := List.forall_mem_singleton.mpr rfl

/-- A literal stands between two of a delimiter that it does not contain. -/
inductive SpelledLiteral (text : List Char) : List Char → Prop
  | single (plain : apostrophe ∉ text) : SpelledLiteral text (single text)
  | double (plain : '"' ∉ text) : SpelledLiteral text (double text)

/-- Literals with commas between them. -/
inductive SpelledArguments : List (List Char) → List Char → Prop
  | last {text s : List Char} : SpelledLiteral text s → SpelledArguments [text] s
  | cons {text s g h t : List Char} {texts : List (List Char)} : SpelledLiteral text s → Gap g →
      Gap h → SpelledArguments texts t →
      SpelledArguments (text :: texts) (s ++ (g ++ ',' :: (h ++ t)))

/-- A literal, or a call that concatenates at least two of them. -/
inductive Spelled : StringExpr → List Char → Prop
  | literal {text s : List Char} : SpelledLiteral text s → Spelled (.literal text) s
  | concat {first second g s h : List Char} {others : List (List Char)} : Gap g →
      SpelledArguments (first :: second :: others) s → Gap h →
      Spelled (.concat first second others) ("concat(".toList ++ (g ++ (s ++ (h ++ [')']))))

theorem skipBlanks_append {g : List Char} (gap : Gap g) (s : List Char) :
    skipBlanks (g ++ s) = skipBlanks s :=
  List.dropWhile_append_of_pos gap

theorem exists_gap (s : List Char) : ∃ g, Gap g ∧ s = g ++ skipBlanks s :=
  ⟨s.takeWhile isBlank, List.all_eq_true.mp List.all_takeWhile,
    List.takeWhile_append_dropWhile.symm⟩

theorem literal?_eq_some_iff {s text rest : List Char} :
    literal? s = some (text, rest) ↔ ∃ t, SpelledLiteral text t ∧ s = t ++ rest := by
  constructor
  · intro read
    cases s with
    | nil => cases read
    | cons c s =>
      rw [literal?] at read
      split at read
      · rename_i delimiter
        have plain := Text.notMem_of_cut read
        have whole := Text.cut_eq_some read
        rcases delimiter with rfl | rfl
        · exact ⟨single text, .single plain, by simp [single, whole]⟩
        · exact ⟨double text, .double plain, by simp [double, whole]⟩
      · cases read
  · rintro ⟨t, spelled, rfl⟩
    cases spelled with
    | single plain => simp [single, literal?, Text.cut_append_of_notMem plain]
    | double plain => simp [double, literal?, Text.cut_append_of_notMem plain]

/-- A literal starts with a delimiter, which is no blank. -/
theorem SpelledLiteral.skipBlanks {text s : List Char} (spelled : SpelledLiteral text s)
    (rest : List Char) : XPath.skipBlanks (s ++ rest) = s ++ rest := by
  cases spelled <;> rfl

theorem SpelledArguments.skipBlanks {texts : List (List Char)} {s : List Char}
    (spelled : SpelledArguments texts s) (rest : List Char) :
    XPath.skipBlanks (s ++ rest) = s ++ rest := by
  cases spelled with
  | last first => exact first.skipBlanks rest
  | cons first _ _ _ => rw [List.append_assoc, first.skipBlanks]

theorem comma?_append {g h s : List Char} (before : Gap g) (after : Gap h) (start : skipBlanks s = s) :
    comma? (g ++ ',' :: (h ++ s)) = some s := by
  have here : skipBlanks (g ++ ',' :: (h ++ s)) = ',' :: (h ++ s) := skipBlanks_append before _
  rw [comma?, here]
  exact congrArg some ((skipBlanks_append after s).trans start)

theorem exists_of_comma? {s rest : List Char} (read : comma? s = some rest) :
    ∃ g h, Gap g ∧ Gap h ∧ s = g ++ ',' :: (h ++ rest) := by
  obtain ⟨g, before, whole⟩ := exists_gap s
  unfold comma? at read
  split at read
  · rename_i more here
    cases read
    obtain ⟨h, after, behind⟩ := exists_gap more
    exact ⟨g, h, before, after, by rw [← behind, ← here, ← whole]⟩
  · cases read

theorem arguments?_of_comma {s text rest more : List Char} (first : literal? s = some (text, rest))
    (h : comma? rest = some more) : arguments? s =
      (arguments? more).map fun (texts, rest) => (text :: texts, rest) := by
  rw [arguments?]
  split
  · simp_all
  · split <;> simp_all

theorem arguments?_of_end {s text rest : List Char} (first : literal? s = some (text, rest))
    (h : comma? rest = none) : arguments? s = some ([text], skipBlanks rest) := by
  rw [arguments?]
  split
  · simp_all
  · split <;> simp_all

/-- Arguments are read up to where no comma follows. By induction on how they are spelled. -/
theorem SpelledArguments.read {texts : List (List Char)} {s rest : List Char}
    (spelled : SpelledArguments texts s) (done : comma? rest = none) :
    arguments? (s ++ rest) = some (texts, XPath.skipBlanks rest) := by
  induction spelled with
  | last first => exact arguments?_of_end (literal?_eq_some_iff.mpr ⟨_, first, rfl⟩) done
  | @cons text s g h t texts first before after others ih =>
    have here : literal? (s ++ (g ++ ',' :: (h ++ t)) ++ rest) =
        some (text, g ++ ',' :: (h ++ (t ++ rest))) :=
      literal?_eq_some_iff.mpr ⟨s, first, by simp⟩
    rw [arguments?_of_comma here (comma?_append before after (others.skipBlanks rest)), ih]
    rfl

theorem spelled_of_arguments? {s rest : List Char} {texts : List (List Char)}
    (read : arguments? s = some (texts, rest)) :
    ∃ t g, SpelledArguments texts t ∧ Gap g ∧ s = t ++ (g ++ rest) := by
  fun_induction arguments? s generalizing texts with
  | case1 => cases read
  | case2 s text behind first _ =>
    cases read
    obtain ⟨t, spelled, rfl⟩ := literal?_eq_some_iff.mp first
    obtain ⟨g, gap, whole⟩ := exists_gap behind
    exact ⟨t, g, .last spelled, gap, congrArg (t ++ ·) whole⟩
  | case3 s text behind first more comma ih =>
    obtain ⟨⟨others, _⟩, read, same⟩ := Option.map_eq_some_iff.mp read
    cases same
    obtain ⟨t, spelled, rfl⟩ := literal?_eq_some_iff.mp first
    obtain ⟨g, h, before, after, rfl⟩ := exists_of_comma? comma
    obtain ⟨u, i, arguments, gap, rfl⟩ := ih read
    exact ⟨_, i, .cons spelled before after arguments, gap, by simp⟩

/-- What spells an expression is read as that, whatever follows. -/
theorem Spelled.read {e : StringExpr} {s : List Char} (spelled : Spelled e s) (rest : List Char) :
    readExpression? (s ++ rest) = some (e, rest) := by
  cases spelled with
  | literal spelled => rw [readExpression?, literal?_eq_some_iff.mpr ⟨s, spelled, rfl⟩]
  | @concat first second g s h others before spelled after =>
    let tail := h ++ ')' :: rest
    have none : literal? ("concat(".toList ++ (g ++ (s ++ tail))) = none := rfl
    have closed : XPath.skipBlanks tail = ')' :: rest := skipBlanks_append after _
    have done : comma? tail = Option.none := by rw [comma?, closed]; rfl
    have inner : arguments? (XPath.skipBlanks (g ++ (s ++ tail))) =
        some (first :: second :: others, ')' :: rest) := by
      rw [skipBlanks_append before, spelled.skipBlanks, spelled.read done, closed]
    have whole : "concat(".toList ++ (g ++ (s ++ (h ++ [')']))) ++ rest =
        "concat(".toList ++ (g ++ (s ++ tail)) := by simp [tail]
    rw [whole, readExpression?, none]
    simp only [Text.dropFront?_append, Option.bind_eq_bind, Option.bind_some, inner]

theorem readExpression?_eq_some_iff {e : StringExpr} {s rest : List Char} :
    readExpression? s = some (e, rest) ↔ ∃ t, Spelled e t ∧ s = t ++ rest := by
  constructor
  · intro read
    unfold readExpression? at read
    split at read
    · rename_i first
      cases read
      obtain ⟨t, spelled, rfl⟩ := literal?_eq_some_iff.mp first
      exact ⟨t, .literal spelled, rfl⟩
    · obtain ⟨behind, front, read⟩ := Option.bind_eq_some_iff.mp read
      split at read
      · rename_i arguments
        cases read
        obtain ⟨g, before, gap⟩ := exists_gap behind
        obtain ⟨t, h, spelled, after, inner⟩ := spelled_of_arguments? arguments
        refine ⟨_, .concat before spelled after, ?_⟩
        rw [Text.eq_of_dropFront? front, gap, inner]
        simp
      · cases read
  · rintro ⟨t, spelled, rfl⟩
    exact spelled.read rest

/-- No text spells two expressions. -/
theorem Spelled.unique {e e' : StringExpr} {s : List Char} (spelled : Spelled e s)
    (spelled' : Spelled e' s) : e = e' := by
  have same := (spelled.read []).symm.trans (spelled'.read [])
  exact congrArg Prod.fst (Option.some.inj same)

theorem expression?_of_read {e : StringExpr} {s : List Char}
    (read : readExpression? s = some (e, [])) : expression? s = some e := by
  unfold readExpression? at read
  rw [expression?]
  split at read
  · rename_i first
    cases read
    rw [first]
  · rename_i none
    obtain ⟨behind, front, read⟩ := Option.bind_eq_some_iff.mp read
    split at read
    · rename_i arguments
      cases read
      simp only [none, front, Option.bind_eq_bind, Option.bind_some, arguments]
    · cases read

end Rehearsal.XPath
