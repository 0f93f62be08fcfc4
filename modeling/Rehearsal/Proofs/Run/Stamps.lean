import Mathlib.Algebra.Group.Nat.Defs
import Mathlib.Data.List.Basic
import Mathlib.Data.List.TakeWhile
import Rehearsal.Proofs.Text.Splitting
import Rehearsal.Run.Timestamp
import Rehearsal.Run.Uuid

/-!
# Stamps are read back

The reader of times takes many forms and the reader of identifiers takes several. The one form that each
is written in is among them, and is read as what it was written for.
-/
namespace Rehearsal

namespace Decimal

theorem isDigit_of_mem_padded {width n : Nat} {c : Char} (h : c ∈ padded width n) : c.isDigit := by
  rcases List.mem_append.mp h with zero | digit
  · rw [List.eq_of_mem_replicate zero]
    rfl
  · exact Nat.isDigit_of_mem_toDigits (by decide) (by decide) digit

theorem length_padded {width n : Nat} (pos : 0 < width) (fits : n < 10 ^ width) :
    (padded width n).length = width := by
  have short := (Nat.length_toDigits_le_iff (b := 10) (by decide) pos).mpr fits
  rw [padded, List.length_append, List.length_replicate]
  omega

theorem padded_ne_nil (width n : Nat) : padded width n ≠ [] := by
  simp [padded, Nat.toDigits_ne_nil]

/-- Zeros in front change nothing. -/
theorem valueOf_padded (width n : Nat) : valueOf (padded width n) = n := by
  have zeros (k : Nat) : valueOf (List.replicate k '0') = 0 := by
    induction k with
    | zero => rfl
    | succ k ih =>
      rw [List.replicate_succ', valueOf_append, ih, Nat.zero_mul]
      rfl
  have digits : valueOf (Nat.toDigits 10 n) = n := by
    have read := Nat.ofDigitChars_toDigits (b := 10) (n := n) (by decide) (by decide)
    rw [Nat.ofDigitChars_eq_foldl] at read
    simpa only [valueOf, Nat.mul_comm] using read
  rw [padded, valueOf_append, zeros, digits, Nat.zero_mul, Nat.zero_add]

end Decimal

open Decimal

namespace Timestamp

variable {n width : Nat} (rest : List Char)

theorem trimStart_cons {c : Char} (h : Text.isBlank c = false) (s : List Char) :
    Text.trimStart (c :: s) = c :: s := by
  rw [Text.trimStart, List.dropWhile_cons_of_neg (by simp [h])]

theorem not_isBlank_of_isDigit {c : Char} (h : c.isDigit) : Text.isBlank c = false := by
  simp only [Char.isDigit, Bool.and_eq_true, decide_eq_true_eq] at h
  simp only [Text.isBlank, Bool.or_eq_false_iff, Bool.and_eq_false_iff, beq_eq_false_iff_ne,
    decide_eq_false_iff_not]
  have low : 48 ≤ c.toNat := h.1
  have high : c.toNat ≤ 57 := h.2
  omega

theorem trimStart_padded : Text.trimStart (padded width n ++ rest) = padded width n ++ rest := by
  cases digits : padded width n with
  | nil => exact absurd digits (padded_ne_nil width n)
  | cons c s =>
    have first : c ∈ padded width n := by simp [digits]
    exact trimStart_cons (not_isBlank_of_isDigit (isDigit_of_mem_padded first)) _

theorem takeWhile_padded : (padded width n).takeWhile Char.isDigit = padded width n :=
  List.takeWhile_eq_self_iff.mpr fun _ => isDigit_of_mem_padded

theorem takeWhile_padded_append {c : Char} (stops : c.isDigit = false) :
    (padded width n ++ c :: rest).takeWhile Char.isDigit = padded width n := by
  rw [List.takeWhile_append_of_pos fun _ => isDigit_of_mem_padded, List.takeWhile_cons_of_neg (by simp [stops]),
    List.append_nil]

theorem number_padded (pos : 0 < width) (fits : n < 10 ^ width) :
    number width (padded width n ++ rest) = some (n, rest) := by
  have length := length_padded pos fits
  have taken : (padded width n ++ rest).take width = padded width n := List.take_left' length
  rw [number]
  simp only [trimStart_padded, taken, takeWhile_padded, List.isEmpty_iff, padded_ne_nil, if_false,
    valueOf_padded, List.drop_left]

theorem separator_self {c : Char} (visible : Text.isBlank c = false) :
    separator c (c :: rest) = some ((), rest) := by
  rw [separator, trimStart_cons visible]
  simp

theorem signed_padded (sign : Int) {c : Char} (stops : c.isDigit = false) :
    year.signed sign (padded width n ++ c :: rest) = some (sign * n, c :: rest) := by
  rw [year.signed]
  simp only [takeWhile_padded_append rest stops, List.isEmpty_iff, padded_ne_nil, if_false, valueOf_padded,
    List.drop_left]

theorem year_padded (fits : n < 10 ^ 4) : year (padded 4 n ++ rest) = some ((n : Int), rest) := by
  have unsigned {c : Char} {s : List Char} (h : padded 4 n ++ rest = c :: s) : c.isDigit := by
    have first : c ∈ (padded 4 n ++ rest).head? := by simp [h]
    rw [List.head?_append_of_ne_nil _ (padded_ne_nil 4 n)] at first
    exact isDigit_of_mem_padded (List.mem_of_mem_head? first)
  rw [year, trimStart_padded]
  split
  · cases unsigned ‹_›
  · cases unsigned ‹_›
  · rw [number_padded _ (by decide) fits]
    rfl

/-- A year is read up to the hyphen behind it. -/
theorem year_yearChars (y : Int) : year (yearChars y ++ '-' :: rest) = some (y, '-' :: rest) := by
  have magnitude (sign : Int) (h : sign * y.natAbs = y) :
      year.signed sign (padded 4 y.natAbs ++ '-' :: rest) = some (y, '-' :: rest) := by
    rw [signed_padded rest sign (by decide), h]
  unfold yearChars
  split
  · have fits : y.toNat < 10 ^ 4 := by omega
    rw [year_padded _ fits, Int.toNat_of_nonneg (by omega)]
  · rw [List.cons_append]
    split
    · exact magnitude (-1) (by omega)
    · exact magnitude 1 (by omega)

/-- A time begins with a digit of its year or with the sign. -/
theorem head?_textWith (fraction : List Char) (t : Timestamp) :
    ∃ c, (t.textWith fraction).toList.head? = some c ∧ (c.isDigit ∨ c = '-' ∨ c = '+') := by
  have year : ∃ c s, yearChars t.date.year = c :: s ∧ (c.isDigit ∨ c = '-' ∨ c = '+') := by
    unfold yearChars
    split
    · obtain ⟨c, s, digits⟩ := List.exists_cons_of_ne_nil (padded_ne_nil 4 t.date.year.toNat)
      have first : c ∈ padded 4 t.date.year.toNat := by simp [digits]
      exact ⟨c, s, digits, .inl (isDigit_of_mem_padded first)⟩
    · refine ⟨_, _, rfl, .inr ?_⟩
      split
      · exact .inl rfl
      · exact .inr rfl
  obtain ⟨c, s, starts, first⟩ := year
  refine ⟨c, ?_, first⟩
  simp [textWith, starts]

/-- The digits of a fraction are those that nine digits begin with. -/
theorem fraction_padded (fits : width ≤ 9) (pos : 0 < width) (small : n < 10 ^ width) :
    fraction ('.' :: padded width n ++ 'Z' :: rest) = some (n * Nat.pow 10 (9 - width), 'Z' :: rest) := by
  have length := length_padded pos small
  have shown : (padded width n).take 9 = padded width n := List.take_of_length_le (by omega)
  rw [List.cons_append, fraction]
  simp only [takeWhile_padded_append rest (show 'Z'.isDigit = false from rfl), List.isEmpty_iff,
    padded_ne_nil, if_false, shown, valueOf_padded, length, List.drop_left' length]

theorem fraction_fractionChars {nanos : Nat} (small : nanos < 1000000000) :
    fraction (fractionChars nanos ++ 'Z' :: rest) = some (nanos, 'Z' :: rest) := by
  unfold fractionChars
  split
  · subst nanos
    rfl
  split
  · have scaled : nanos / 1000000 * Nat.pow 10 (9 - 3) = nanos := by
      change nanos / 1000000 * 1000000 = nanos
      omega
    rw [fraction_padded rest (by decide) (by decide) (by omega), scaled]
  split
  · have scaled : nanos / 1000 * Nat.pow 10 (9 - 6) = nanos := by
      change nanos / 1000 * 1000 = nanos
      omega
    rw [fraction_padded rest (by decide) (by decide) (by omega), scaled]
  · have scaled : nanos * Nat.pow 10 (9 - 9) = nanos := Nat.mul_one nanos
    rw [fraction_padded rest (by decide) (by decide) (by omega), scaled]

theorem valid_iff {t : Timestamp} : t.valid ↔ t.date.valid ∧ t.hour < 24 ∧ t.minute < 60 ∧
    t.second ≤ 60 ∧ t.nanos < 1000000000 := by
  simp [valid, and_assoc]

theorem dateAndTime_text {t : Timestamp} (h : t.valid) : dateAndTime t.text.toList = some (t, ['Z']) := by
  obtain ⟨date, hour, minute, second, nanos⟩ := valid_iff.mp h
  have month : t.date.month < 10 ^ 2 := by
    simp only [Date.valid, Bool.and_eq_true, decide_eq_true_eq] at date
    omega
  have day : t.date.day < 10 ^ 2 := by
    simp only [Date.valid, Bool.and_eq_true, decide_eq_true_eq] at date
    have length : Date.daysIn t.date.year t.date.month ≤ 31 := by
      unfold Date.daysIn
      split <;> first | omega | (split <;> omega)
    omega
  have two {n : Nat} (small : n < 10 ^ 2) (rest : List Char) :
      number 2 (padded 2 n ++ rest) = some (n, rest) := number_padded rest (by decide) small
  have hyphen (rest : List Char) := separator_self rest (c := '-') (by decide)
  have colon (rest : List Char) := separator_self rest (c := ':') (by decide)
  rw [text, textWith, String.toList_ofList, dateAndTime]
  simp only [List.append_assoc, List.cons_append, bind, Option.bind, year_yearChars, hyphen, colon, two month,
    two day, two (n := t.hour) (by omega), two (n := t.minute) (by omega),
    two (n := t.second) (by omega), fraction_fractionChars [] nanos]
  rfl

/-- No offset is no change. -/
theorem earlier_zero {t : Timestamp} (h : t.valid) : t.earlier 0 = t := by
  obtain ⟨-, hour, minute, -⟩ := valid_iff.mp h
  have before : ¬ ((t.hour : Int) * 60 + t.minute - 0 < 0) := by omega
  have after : ¬ (1440 ≤ (t.hour : Int) * 60 + t.minute - 0) := by omega
  have time : (((t.hour : Int) * 60 + t.minute - 0) % 1440).toNat = t.hour * 60 + t.minute := by omega
  have hours : (t.hour * 60 + t.minute) / 60 = t.hour := by omega
  have minutes : (t.hour * 60 + t.minute) % 60 = t.minute := by omega
  simp only [earlier, before, after, time, hours, minutes, if_false]

/-- A time is read back from its text. -/
theorem ofText?_text {t : Timestamp} (h : t.valid) : ofText? t.text = some t := by
  have offset : offset (Text.trimStart ['Z']) = some (0, []) := rfl
  have nothing : (Text.trimStart []).isEmpty := rfl
  rw [ofText?]
  simp only [dateAndTime_text h, bind, Option.bind, offset, earlier_zero h, nothing, h, Bool.and_self, if_true]

/-- What is read is a time of the calendar. -/
theorem valid_of_ofText? {text : String} {t : Timestamp} (h : ofText? text = some t) : t.valid := by
  obtain ⟨⟨there, s⟩, -, h⟩ := Option.bind_eq_some_iff.mp h
  obtain ⟨⟨minutes, s⟩, -, h⟩ := Option.bind_eq_some_iff.mp h
  dsimp only at h
  split at h
  · rename_i fine
    cases h
    exact (Bool.and_eq_true_iff.mp fine).2
  · cases h

end Timestamp

theorem Text.splitAll_append_of_notMem {d : Char} {part : List Char} (h : d ∉ part) (rest : List Char) :
    splitAll d (part ++ d :: rest) = part :: splitAll d rest := by
  induction part with
  | nil => rw [List.nil_append, splitAll, if_pos rfl]
  | cons c part ih =>
    rw [List.mem_cons, not_or] at h
    rw [List.cons_append, splitAll, if_neg (Ne.symm h.1), ih h.2]

theorem Text.splitAll_of_notMem {d : Char} {part : List Char} (h : d ∉ part) :
    splitAll d part = [part] := by
  induction part with
  | nil => rfl
  | cons c part ih =>
    rw [List.mem_cons, not_or] at h
    rw [splitAll, if_neg (Ne.symm h.1), ih h.2]

namespace Uuid

theorem digit?_hexDigit (d : Fin 16) : digit? (Json.Quotation.hexDigit d.val) = some d := by
  revert d
  decide

theorem ofDigits?_chars (u : Uuid) : ofDigits? u.chars = some u := by
  have digits : u.chars.mapM digit? = some u.digits := by
    rw [chars]
    generalize u.digits = ds
    induction ds with
    | nil => rfl
    | cons d ds ih => rw [List.map_cons, List.mapM_cons, digit?_hexDigit, ih]; rfl
  simp only [ofDigits?, digits, bind, Option.bind, u.size, dite_true]

/-- The five groups of digits. -/
def groups (u : Uuid) : List (List Char) :=
  [u.chars.take 8, (u.chars.drop 8).take 4, (u.chars.drop 12).take 4, (u.chars.drop 16).take 4,
    u.chars.drop 20]

theorem splitAll_text (u : Uuid) : Text.splitAll '-' u.text.toList = u.groups := by
  have absent : '-' ∉ u.chars := by
    have apart : ∀ d : Fin 16, '-' ≠ Json.Quotation.hexDigit d.val := by decide
    simp only [chars, List.mem_map, not_exists, not_and]
    exact fun d _ => (apart d).symm
  have inside (n k : Nat) : '-' ∉ (u.chars.drop n).take k := fun h =>
    absent (List.mem_of_mem_drop (List.mem_of_mem_take h))
  rw [text, String.toList_ofList]
  simp only [List.append_assoc, List.cons_append]
  rw [Text.splitAll_append_of_notMem fun h => absent (List.mem_of_mem_take h),
    Text.splitAll_append_of_notMem (inside 8 4), Text.splitAll_append_of_notMem (inside 12 4),
    Text.splitAll_append_of_notMem (inside 16 4),
    Text.splitAll_of_notMem fun h => absent (List.mem_of_mem_drop h)]
  rfl

theorem flatten_groups (u : Uuid) : u.groups.flatten = u.chars := by
  have cut (n : Nat) : (u.chars.drop n).take 4 ++ u.chars.drop (n + 4) = u.chars.drop n := by
    rw [← List.drop_drop, List.take_append_drop]
  simp only [groups, List.flatten_cons, List.flatten_nil, List.append_nil, cut, List.take_append_drop]

theorem dropHyphens?_text (u : Uuid) : dropHyphens? u.text.toList = some u.chars := by
  have lengths : u.groups.map List.length = [8, 4, 4, 4, 12] := by simp [groups, chars, u.size]
  simp only [dropHyphens?, splitAll_text, lengths, flatten_groups, if_true]

/-- The text begins with a digit, so it is taken as it is. -/
theorem unwrap_text (u : Uuid) : unwrap u.text.toList = u.text.toList := by
  have plain : ∀ d : Fin 16, (Json.Quotation.hexDigit d.val).toLower ≠ 'u' ∧
      Json.Quotation.hexDigit d.val ≠ '\x7b' := by decide
  obtain ⟨d, s, h⟩ : ∃ (d : Fin 16) (s : List Char),
      u.text.toList = Json.Quotation.hexDigit d.val :: s := by
    have size := u.size
    rcases digits : u.digits with _ | ⟨d, ds⟩
    · simp [digits] at size
    · exact ⟨d, _, by rw [text, String.toList_ofList, chars, digits]; rfl⟩
  have named : ((Json.Quotation.hexDigit d.val :: s).take scheme.length).map Char.toLower ≠ scheme :=
    fun same => (plain d).1 (List.cons.inj same).1
  rw [h, unwrap, if_neg named]
  exact fun _ same => (plain d).2 (List.cons.inj same).1

theorem mapM_eq_none {α β : Type} {f : α → Option β} {a : α} (h : f a = none) {as : List α}
    (there : a ∈ as) : as.mapM f = none := by
  induction as with
  | nil => cases there
  | cons b as ih =>
    rw [List.mapM_cons]
    rcases List.mem_cons.mp there with rfl | there
    · rw [h]
      rfl
    · rw [ih there]
      cases f b <;> rfl

/-- An identifier is read back from its text. -/
theorem ofText?_text (u : Uuid) : ofText? u.text = some u := by
  have hyphen : '-' ∈ u.text.toList := by simp [text]
  have unread : ofDigits? u.text.toList = none := by
    rw [ofDigits?, mapM_eq_none (by decide) hyphen]
    rfl
  rw [ofText?, unread, unwrap_text, dropHyphens?_text]
  exact ofDigits?_chars u

end Uuid

end Rehearsal
