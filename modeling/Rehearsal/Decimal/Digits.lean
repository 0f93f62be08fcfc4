/-!
Numbers written in decimal digits.
-/
namespace Rehearsal.Decimal

/-- The number that digits stand for, 0 if there are none. -/
def valueOf (ds : List Char) : Nat :=
  ds.foldl (fun n d => n * 10 + (d.toNat - '0'.toNat)) 0

theorem valueOf_append (ds es : List Char) :
    valueOf (ds ++ es) = valueOf ds * Nat.pow 10 es.length + valueOf es := by
  suffices h : ∀ n, es.foldl (fun n d => n * 10 + (d.toNat - '0'.toNat)) n =
      n * Nat.pow 10 es.length + valueOf es by
    rw [valueOf, List.foldl_append]; exact h _
  intro n
  induction es generalizing n with
  | nil => simp [valueOf]
  | cons e es ih =>
    have step : Nat.pow 10 (es.length + 1) = Nat.pow 10 es.length * 10 := rfl
    simp only [valueOf, List.foldl_cons, List.length_cons] at ih ⊢
    rw [ih, ih (0 * 10 + _), step]
    grind

end Rehearsal.Decimal
