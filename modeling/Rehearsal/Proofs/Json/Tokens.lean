import Mathlib.Data.Nat.Digits.Lemmas
import Rehearsal.Json.Document
import Rehearsal.Json.Node

/-!
# Tokens are read back

A string that was written between quotes is read as what it was, whatever follows it, and so is a natural
number of 64 bits if no character follows that would continue it.
-/
namespace Rehearsal.Json

namespace Quotation

theorem hex4?_hexDigit : ∀ n < 0x20, hex4? '0' '0' (hexDigit (n / 16)) (hexDigit (n % 16)) = some n := by
  decide

/-- Reading takes one character out of its escape. -/
theorem read_escape (c : Char) (rest : List Char) (n : Nat) :
    ∃ k, read (escape c ++ rest) n = add c <$> read rest (n + k) := by
  unfold escape
  split
  all_goals try exact ⟨2, by simp [read, simpleEscape?]⟩
  split
  · rename_i control
    refine ⟨6, ?_⟩
    have value := hex4?_hexDigit c.toNat control
    have plain : isLow c.toNat = false ∧ isHigh c.toNat = false := by
      simp only [isLow, isHigh, Bool.and_eq_false_iff, decide_eq_false_iff_not]
      omega
    simp [read, value, plain]
  · rename_i printable
    refine ⟨c.utf8Size, ?_⟩
    rw [List.singleton_append, read.eq_def]
    split <;> simp_all

theorem read_flatMap_escape (s rest : List Char) (n : Nat) :
    ∃ stop, read (s.flatMap escape ++ '"' :: rest) n = .ok (s, ⟨rest, stop⟩) := by
  induction s generalizing n with
  | nil => exact ⟨n + 1, by rw [List.flatMap_nil, List.nil_append, read]⟩
  | cons c s ih =>
    obtain ⟨k, step⟩ := read_escape c (s.flatMap escape ++ '"' :: rest) n
    obtain ⟨stop, there⟩ := ih (n + k)
    exact ⟨stop, by rw [List.flatMap_cons, List.append_assoc, step, there]; rfl⟩

end Quotation

theorem Cursor.takeWhile_append {p : Char → Bool} {s rest : List Char} (k : Nat) (all : ∀ c ∈ s, p c)
    (stops : ∀ c ∈ rest.head?, ¬ p c) :
    (⟨s ++ rest, k⟩ : Cursor).takeWhile p = (s, ⟨rest, k + bytes s⟩) := by
  have none : rest.takeWhile p = [] ∧ rest.dropWhile p = rest := by
    cases rest with
    | nil => exact ⟨rfl, rfl⟩
    | cons c rest => simp [stops c rfl]
  rw [takeWhile, List.takeWhile_append_of_pos all, List.dropWhile_append_of_pos all, none.1, none.2,
    List.append_nil]

@[simp] theorem Cursor.eat?_self (c : Char) (rest : List Char) (k : Nat) :
    (⟨c :: rest, k⟩ : Cursor).eat? c = some ⟨rest, k + c.utf8Size⟩ := if_pos rfl

theorem Cursor.eat?_eq_none {s : List Char} {d : Char} (h : d ∉ s.head?) (k : Nat) :
    (⟨s, k⟩ : Cursor).eat? d = none := by
  cases s with
  | nil => rfl
  | cons c s => exact if_neg fun same => h (by simp [same])

namespace Numeral

/-- The digits of a number begin with a zero only if it is zero. -/
theorem eq_zero_of_head?_toDigits {n : Nat} (h : '0' ∈ (Nat.toDigits 10 n).head?) : n = 0 := by
  induction n using Nat.strongRecOn with
  | ind n ih =>
    rw [Nat.toDigits_eq_if (by decide)] at h
    split at h
    · rename_i small
      have : ∀ m < 10, '0' ∈ [Nat.digitChar m].head? → m = 0 := by decide
      exact this n small h
    · rename_i large
      rw [List.head?_append_of_ne_nil _ Nat.toDigits_ne_nil] at h
      have := ih (n / 10) (by omega) h
      omega

theorem takeDigits_of_lt {ds : List Char} {start : Nat}
    (h : ds.foldl (fun n d => n * 10 + digitValue d) start < UInt64.size) :
    takeDigits start ds = (ds.foldl (fun n d => n * 10 + digitValue d) start, 0) := by
  have grows (ds : List Char) (m : Nat) : m ≤ ds.foldl (fun n d => n * 10 + digitValue d) m := by
    induction ds generalizing m with
    | nil => exact Nat.le_refl m
    | cons d ds ih => exact Nat.le_trans (by omega) (ih (m * 10 + digitValue d))
  induction ds generalizing start with
  | nil => rfl
  | cons d ds ih =>
    have fits := Nat.lt_of_le_of_lt (grows ds _) h
    rw [takeDigits, if_pos fits, ih h, List.foldl_cons]

/-- The text does not begin with something that continues a numeral. -/
def Ends (rest : List Char) : Prop :=
  ∀ c ∈ rest.head?, ¬ (c.isDigit ∨ c = '.' ∨ c = 'e' ∨ c = 'E')

/-- What stands for a natural number. -/
def natural (n : Nat) : Numeral := ⟨false, Nat.toDigits 10 n, none, none⟩

theorem value_natural {n : Nat} (h : n < UInt64.size) (stop : Nat) :
    (natural n).value stop = .ok (.integer n) := by
  have digits : (Nat.toDigits 10 n).foldl (fun n d => n * 10 + digitValue d) 0 = n := by
    have := Nat.ofDigitChars_toDigits (b := 10) (n := n) (by decide) (by decide)
    rw [Nat.ofDigitChars_eq_foldl] at this
    simpa only [digitValue, Nat.mul_comm] using this
  have taken : takeDigits 0 (Nat.toDigits 10 n) = (n, 0) := by
    rw [takeDigits_of_lt (by rwa [digits]), digits]
  simp [value, natural, taken]

theorem readWhole_toDigits (n : Nat) {rest : List Char} (ends : Ends rest) (k : Nat) :
    ∃ stop, readWhole ⟨Nat.toDigits 10 n ++ rest, k⟩ = .ok (Nat.toDigits 10 n, ⟨rest, stop⟩) := by
  have stops : ∀ c ∈ rest.head?, ¬ c.isDigit := fun c hc digit => ends c hc (.inl digit)
  have all : ∀ c ∈ Nat.toDigits 10 n, c.isDigit := fun c hc =>
    Nat.isDigit_of_mem_toDigits (by decide) (by decide) hc
  by_cases zero : n = 0
  · subst zero
    have nothing := Cursor.takeWhile_append (k + '0'.utf8Size) (s := []) (by simp) stops
    rw [List.nil_append] at nothing
    refine ⟨k + '0'.utf8Size, ?_⟩
    rw [Nat.toDigits_zero, List.singleton_append, readWhole, Cursor.eat?_self]
    simp only [nothing]
  · have first : '0' ∉ (Nat.toDigits 10 n ++ rest).head? := by
      rw [List.head?_append_of_ne_nil _ Nat.toDigits_ne_nil]
      exact fun h => zero (eq_zero_of_head?_toDigits h)
    refine ⟨k + Cursor.bytes (Nat.toDigits 10 n), ?_⟩
    rw [readWhole, Cursor.eat?_eq_none first, digits, Cursor.takeWhile_append k all stops]
    cases there : Nat.toDigits 10 n with
    | nil => exact absurd there Nat.toDigits_ne_nil
    | cons d ds => rfl

theorem read_toDigits (n : Nat) {rest : List Char} (ends : Ends rest) (k : Nat) :
    ∃ stop, read ⟨Nat.toDigits 10 n ++ rest, k⟩ = .ok (natural n, ⟨rest, stop⟩) := by
  obtain ⟨stop, whole⟩ := readWhole_toDigits n ends k
  refine ⟨stop, ?_⟩
  have unsigned : (⟨Nat.toDigits 10 n ++ rest, k⟩ : Cursor).eat? '-' = none := by
    refine Cursor.eat?_eq_none ?_ k
    rw [List.head?_append_of_ne_nil _ Nat.toDigits_ne_nil]
    intro minus
    have := Nat.isDigit_of_mem_toDigits (by decide) (by decide) (List.mem_of_mem_head? minus)
    exact absurd this (by decide)
  have apart {c : Char} (h : c.isDigit ∨ c = '.' ∨ c = 'e' ∨ c = 'E') :
      (⟨rest, stop⟩ : Cursor).eat? c = none :=
    Cursor.eat?_eq_none (fun there => ends c there h) stop
  simp [read, Cursor.pass, unsigned, whole, readFraction, readExponent, apart, natural, bind,
    Except.bind, pure, Except.pure]

end Numeral

end Rehearsal.Json
