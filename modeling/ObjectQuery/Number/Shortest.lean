import ObjectQuery.Number.Binary64

/-!
# Shortest decimal text

The fewest digits that read back as the same double. The doubles are decoded into exact integers;
the reals that round to one form an interval, and the first decimal grid with a point of the
interval next to the value gives the digits.
-/

namespace ObjectQuery

/-- Which of two equally near decimals is taken. -/
inductive Tie where
  | up
  | toEven
deriving DecidableEq

/-- The decimal `digits · 10 ^ exponent`. -/
structure Decimal where
  digits : Nat
  exponent : Int
deriving DecidableEq

/-- The reals that round to a positive double: the value and both ends over a common denominator. -/
structure RoundingInterval where
  low : Nat
  value : Nat
  high : Nat
  den : Nat
  closed : Bool

namespace RoundingInterval

/-- The interval of a finite double that is not zero. -/
def ofBinary64 (x : Binary64) : RoundingInterval :=
  let m := x.significand
  let q := x.scale - 2
  let unit := 1 <<< q.toNat
  let below := if m = Binary64.fractionCount ∧ -1074 < x.scale then 1 else 2
  { low := (4 * m - below) * unit
    value := 4 * m * unit
    high := (4 * m + 2) * unit
    den := 1 <<< (-q).toNat
    closed := m % 2 == 0 }

/-- Whether the decimal lies in the interval. -/
def contains (i : RoundingInterval) (d : Decimal) : Bool :=
  let n := d.digits * Nat.pow 10 d.exponent.toNat * i.den
  let unit := Nat.pow 10 (-d.exponent).toNat
  if i.closed then i.low * unit ≤ n && n ≤ i.high * unit
  else i.low * unit < n && n < i.high * unit

/-- The exponent `k` with `10 ^ k ≤ value < 10 ^ (k + 1)`. -/
def decimalExponent (i : RoundingInterval) : Int :=
  if i.den ≤ i.value then
    ((Nat.toDigits 10 (i.value / i.den)).length : Int) - 1
  else
    let ceiling := (i.den + i.value - 1) / i.value
    Int.negOfNat (Nat.toDigits 10 (ceiling - 1)).length

/-- The decimal of the interval next to the value on the grid of step `10 ^ g`, if there is one. -/
def nearestOn (i : RoundingInterval) (tie : Tie) (g : Int) : Option Decimal :=
  let num := i.value * Nat.pow 10 (-g).toNat
  let den := i.den * Nat.pow 10 g.toNat
  let floor := num / den
  let below : Decimal := ⟨floor, g⟩
  let above : Decimal := ⟨floor + 1, g⟩
  match i.contains below, i.contains above with
  | true, false => some below
  | false, true => some above
  | false, false => none
  | true, true =>
    let r := 2 * (num % den)
    if r < den then some below
    else if den < r then some above
    else
      match tie with
      | .up => some above
      | .toEven => some (if floor % 2 = 0 then below else above)

/-- The decimal with the fewest digits in the interval, and of those the nearest to the value. -/
def shortest (i : RoundingInterval) (tie : Tie) : Decimal :=
  let k := i.decimalExponent
  ((List.range 17).findSome? fun (n : Nat) => i.nearestOn tie (k - n)).getD ⟨0, 0⟩

end RoundingInterval

/-- How a double is written. -/
structure FloatFormat where
  /-- Which of two equally near decimals is taken. -/
  tie : Tie
  /-- Whether a number with this decimal exponent is written without an exponent. -/
  positional : Int → Bool
  /-- Whether a whole number ends in `.0`. -/
  wholeMark : Bool

namespace FloatFormat

/-- Digits with a decimal point and as many zeros as the exponent `k` of the first digit needs. -/
def positionalText (f : FloatFormat) (digits : List Char) (k : Int) : List Char :=
  if k < 0 then
    '0' :: '.' :: List.replicate (-k - 1).toNat '0' ++ digits
  else
    let whole := k.toNat + 1
    if digits.length ≤ whole then
      digits ++ List.replicate (whole - digits.length) '0' ++
        (if f.wholeMark then ['.', '0'] else [])
    else
      digits.take whole ++ '.' :: digits.drop whole

/-- Digits with a point after the first one and an exponent with its sign. -/
def exponentText (digits : List Char) (k : Int) : List Char :=
  let mantissa :=
    match digits with
    | d :: e :: rest => d :: '.' :: e :: rest
    | short => short
  let sign := if k < 0 then '-' else '+'
  mantissa ++ 'e' :: sign :: Nat.toDigits 10 k.natAbs

/-- The digits of a natural number without the zeros at its end. -/
def significantDigits (n : Nat) : List Char :=
  ((Nat.toDigits 10 n).reverse.dropWhile (· == '0')).reverse

/-- The text of a finite double. -/
def render (f : FloatFormat) (x : Binary64) : String :=
  let magnitude :=
    if x.isZero then
      '0' :: (if f.wholeMark then ['.', '0'] else [])
    else
      let d := (RoundingInterval.ofBinary64 x).shortest f.tie
      let k := d.exponent + (Nat.toDigits 10 d.digits).length - 1
      let digits := significantDigits d.digits
      if f.positional k then f.positionalText digits k else exponentText digits k
  String.ofList (if x.isNegative then '-' :: magnitude else magnitude)

/-- Numbers in running text and in SQL: never an exponent, a tie goes up. -/
def plain : FloatFormat :=
  ⟨.up, fun _ => true, false⟩

/-- Numbers in JSON: positional for exponents from -5 to 15, a tie goes to the even digit. -/
def json : FloatFormat :=
  ⟨.toEven, fun k => -5 ≤ k && k ≤ 15, true⟩

end FloatFormat

end ObjectQuery
