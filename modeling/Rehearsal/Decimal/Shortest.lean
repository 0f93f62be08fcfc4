/-!
The shortest decimal text of a double. A double is `m · 2^q`; the numbers nearest to it form an
interval, whose ends belong to it if `m` is even. The text shows the point of the coarsest grid of
powers of ten that has a point in this interval, and of two such points the nearer one, or the even one
if they are equally near.
-/
namespace Rehearsal.Decimal

/-- The fields of a double: sign bit, exponent field and fraction field. -/
structure Fields where
  negative : Bool
  exponent : Nat
  fraction : Nat
deriving DecidableEq

def Fields.ofBits (bits : UInt64) : Fields where
  negative := bits >>> 63 == 1
  exponent := ((bits >>> 52) &&& 0x7FF).toNat
  fraction := (bits &&& 0xFFFFFFFFFFFFF).toNat

/-- A finite positive double in quarters of its last place: the value is `value · 2^scale`, and the
numbers nearest to it lie between `low · 2^scale` and `high · 2^scale`. -/
structure Interval where
  low : Nat
  value : Nat
  high : Nat
  scale : Int
  closed : Bool
deriving DecidableEq

/-- Below a power of two the neighbour is only half as far away. -/
def Fields.interval (d : Fields) : Interval :=
  let m := if d.exponent = 0 then d.fraction else d.fraction + 0x10000000000000
  let below := if d.fraction = 0 ∧ 1 < d.exponent then 1 else 2
  { low := 4 * m - below, value := 4 * m, high := 4 * m + 2,
    scale := (if d.exponent = 0 then 1 else (d.exponent : Int)) - 1077,
    closed := m % 2 = 0 }

/-- `10^k` and `2^scale` as one fraction: a point `c · 10^k` is compared as `c · points`, an amount
`a · 2^scale` as `a · places`. -/
structure Grid where
  points : Nat
  places : Nat

def Interval.grid (i : Interval) (k : Int) : Grid where
  points := Nat.pow 10 k.toNat * Nat.pow 2 (-i.scale).toNat
  places := Nat.pow 2 i.scale.toNat * Nat.pow 10 (-k).toNat

def Interval.holds (i : Interval) (g : Grid) (c : Nat) : Bool :=
  let p := c * g.points
  if i.closed then i.low * g.places ≤ p && p ≤ i.high * g.places
  else i.low * g.places < p && p < i.high * g.places

/-- The point of the grid of `10^k` that is in the interval and nearest to the value; a tie goes to the
even point. -/
def Interval.pointAt? (i : Interval) (k : Int) : Option Nat :=
  let g := i.grid k
  let v := i.value * g.places
  let c := v / g.points
  let lower := 0 < c && i.holds g c
  let upper := i.holds g (c + 1)
  match lower, upper with
  | true, true =>
    let twice := 2 * (v - c * g.points)
    some (if twice < g.points ∨ (twice = g.points ∧ c % 2 = 0) then c else c + 1)
  | true, false => some c
  | false, true => some (c + 1)
  | false, false => none

/-- The exponents of ten from the coarsest grid that a double can meet to the finest. -/
def exponents : List Int :=
  (List.range 640).map fun n : Nat => (310 : Int) - n

/-- The digits and the power of ten of the shortest decimal in the interval. -/
def Interval.shortest? (i : Interval) : Option (Nat × Int) :=
  exponents.findSome? fun k => (i.pointAt? k).map fun c => (c, k)

/-- Choices of a notation: the exponents, of the first digit, that are written without a power of ten
run from `least` to `greatest`. A written exponent always has a sign. -/
structure Notation where
  least : Int
  greatest : Int

/-- Numbers in messages have a fraction part or an exponent. -/
def plain : Notation := ⟨-5, 15⟩

def padded (width n : Nat) : List Char :=
  let ds := Nat.toDigits 10 n
  List.replicate (width - ds.length) '0' ++ ds

/-- Writes `0.d₁d₂… · 10^(e+1)`, where `e` is the exponent of the first digit. -/
def Notation.write (w : Notation) (ds : List Char) (e : Int) : List Char :=
  if w.least ≤ e ∧ e ≤ w.greatest then
    if e < 0 then ['0', '.'] ++ List.replicate (-e - 1).toNat '0' ++ ds
    else
      let whole := ds.take (e.toNat + 1)
      let rest := ds.drop (e.toNat + 1)
      whole ++ List.replicate (e.toNat + 1 - ds.length) '0' ++ ['.'] ++
        (if rest.isEmpty then ['0'] else rest)
  else
    let mantissa := match ds with
      | d :: [] => [d]
      | d :: rest => d :: '.' :: rest
      | [] => []
    mantissa ++ ['e', if e < 0 then '-' else '+'] ++ Nat.toDigits 10 e.natAbs

/-- The text of a finite double. -/
def ofBits (bits : UInt64) : String :=
  let d := Fields.ofBits bits
  let sign := if d.negative then ['-'] else []
  let amount := if d.exponent = 0 ∧ d.fraction = 0 then none else d.interval.shortest?
  String.ofList <| sign ++ match amount with
    | some (c, k) =>
      let ds := Nat.toDigits 10 c
      plain.write ds (k + (ds.length : Int) - 1)
    | none => ['0', '.', '0']

end Rehearsal.Decimal
