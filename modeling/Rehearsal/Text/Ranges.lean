/-!
Sets of characters written as ascending ranges of code points.
-/
namespace Rehearsal.Text

/-- Ranges of code points, first and last included. -/
abbrev Ranges := List (Nat × Nat)

def Ranges.has (rs : Ranges) (c : Char) : Bool :=
  rs.any fun (first, last) => first ≤ c.toNat && c.toNat ≤ last

end Rehearsal.Text
