/-!
# Double-precision numbers

An IEEE 754 double is its 64 bits. A finite one stands for `± m · 2 ^ q`; rounding takes an exact
ratio to the nearest double, a tie to the even one, and products and quotients are rounded exact
results.
-/

namespace ObjectQuery

/-- An IEEE 754 double-precision number. -/
structure Binary64 where
  bits : UInt64
deriving DecidableEq

namespace Binary64

/-- Whether the sign bit is set. -/
def isNegative (x : Binary64) : Bool :=
  decide (0x8000000000000000 ≤ x.bits.toNat)

/-- How many fractions the stored bits tell apart. -/
def fractionCount : Nat :=
  0x10000000000000

/-- The biased exponent. -/
def exponentField (x : Binary64) : Nat :=
  x.bits.toNat / fractionCount % 2048

/-- The stored fraction bits. -/
def fractionField (x : Binary64) : Nat :=
  x.bits.toNat % fractionCount

/-- Whether the number is neither infinite nor NaN. -/
def isFinite (x : Binary64) : Bool :=
  x.exponentField != 2047

/-- Whether the number is a NaN. -/
def isNaN (x : Binary64) : Bool :=
  x.exponentField == 2047 && x.fractionField != 0

/-- Whether the number is `0` or `-0`. -/
def isZero (x : Binary64) : Bool :=
  x.exponentField == 0 && x.fractionField == 0

/-- The integer `m` of the magnitude `m · 2 ^ q`. -/
def significand (x : Binary64) : Nat :=
  if x.exponentField = 0 then x.fractionField else fractionCount + x.fractionField

/-- The exponent `q` of the magnitude `m · 2 ^ q`. -/
def scale (x : Binary64) : Int :=
  if x.exponentField = 0 then -1074 else (x.exponentField : Int) - 1075

/-- Numeric equality: a NaN differs from everything, and `0` equals `-0`. -/
def numEq (x y : Binary64) : Bool :=
  !x.isNaN && !y.isNaN && (x.bits == y.bits || (x.isZero && y.isZero))

/-- Positive infinity. -/
def infinity : Binary64 :=
  ⟨0x7ff0000000000000⟩

/-- The number with its sign bit set or cleared. -/
def withSign (negative : Bool) (x : Binary64) : Binary64 :=
  ⟨if negative then x.bits ||| 0x8000000000000000 else x.bits &&& 0x7fffffffffffffff⟩

/-- The integer nearest to `num / den`, a tie going to the even one. -/
def roundDiv (num den : Nat) : Nat :=
  let q := num / den
  let r := num % den
  if 2 * r < den then q
  else if den < 2 * r then q + 1
  else if q % 2 = 0 then q
  else q + 1

/-- The exponent `k` with `2 ^ k ≤ num / den < 2 ^ (k + 1)`, for positive `num` and `den`. -/
def binaryExponent (num den : Nat) : Int :=
  let k : Int := (num.log2 : Int) - den.log2
  if den <<< k.toNat ≤ num <<< (-k).toNat then k else k - 1

/-- The double nearest to the non-negative ratio `num / den`. -/
def ofRatio (num den : Nat) : Binary64 :=
  if num = 0 then ⟨0⟩
  else
    let q := max (binaryExponent num den - 52) (-1074)
    let m := roundDiv (num <<< (-q).toNat) (den <<< q.toNat)
    let bits := (q + 1074).toNat * fractionCount + m
    if 2047 * fractionCount ≤ bits then infinity else ⟨bits.toUInt64⟩

/-- The double nearest to a natural number. -/
def ofNat (n : Nat) : Binary64 :=
  ofRatio n 1

/-- The double nearest to `n · 10 ^ e`. -/
def ofDecimal (n : Nat) (e : Int) : Binary64 :=
  if n = 0 then ⟨0⟩
  else
    let size : Int := (Nat.toDigits 10 n).length
    if 310 < e + size then infinity
    else if e + size < -330 then ⟨0⟩
    else ofRatio (n * Nat.pow 10 e.toNat) (Nat.pow 10 (-e).toNat)

/-- The rounded product of the magnitudes of two finite numbers. -/
def mul (x y : Binary64) : Binary64 :=
  let q := x.scale + y.scale
  ofRatio ((x.significand * y.significand) <<< q.toNat) (1 <<< (-q).toNat)

/-- The rounded quotient of the magnitudes of two finite numbers, the second not zero. -/
def div (x y : Binary64) : Binary64 :=
  let q := x.scale - y.scale
  ofRatio (x.significand <<< q.toNat) (y.significand <<< (-q).toNat)

/-- Numeric equality holds of a number and itself exactly if it is not a NaN. -/
theorem numEq_self (x : Binary64) : x.numEq x = !x.isNaN := by
  simp [numEq]

/-- Numeric equality is symmetric. -/
theorem numEq_comm (x y : Binary64) : x.numEq y = y.numEq x := by
  simp only [numEq, Bool.beq_comm (a := x.bits)]
  cases x.isNaN <;> cases y.isNaN <;> cases x.isZero <;> cases y.isZero <;> simp [Bool.or_comm]

end Binary64

end ObjectQuery
