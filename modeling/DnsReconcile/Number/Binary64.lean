/-!
Finite binary floating point numbers of 64 bits, as exact values.

A number is a sign, a mantissa of at most 53 bits and a power of two. Results
of arithmetic are exact ratios of natural numbers that `round?` brings back to
the nearest such number, a tie going to the even mantissa; a result beyond the
greatest of them has none.
-/

namespace DnsReconcile

/-- The number `± mantissa * 2 ^ exponent`. -/
structure Binary64 where
  negative : Bool
  mantissa : Nat
  exponent : Int
  deriving DecidableEq

namespace Binary64

def minExponent : Int := -1074

def maxExponent : Int := 971

def zero (negative : Bool) : Binary64 := ⟨negative, 0, minExponent⟩

def withSign (negative : Bool) (x : Binary64) : Binary64 := { x with negative }

/-- `2 ^ e` times a ratio, as a ratio. -/
def scaled (e : Int) (ratio : Nat × Nat) : Nat × Nat :=
  if 0 ≤ e then (ratio.1 * Nat.pow 2 e.toNat, ratio.2)
  else (ratio.1, ratio.2 * Nat.pow 2 (-e).toNat)

/-- The natural number nearest to a ratio, a tie going to the even one. -/
def nearestEven (num den : Nat) : Nat :=
  let q := num / den
  let r := num % den
  if den < 2 * r ∨ (den = 2 * r ∧ q % 2 = 1) then q + 1 else q

/-- The number nearest to the ratio `num / den`, a tie going to the even
mantissa. -/
def round? (num den : Nat) : Option Binary64 :=
  if num = 0 then some (zero false)
  else
    let guess : Int := (Nat.log2 num : Int) - Nat.log2 den - 53
    let (n, d) := scaled (-guess) (num, den)
    let e := max (if n / d < Nat.pow 2 53 then guess else guess + 1) minExponent
    let (n, d) := scaled (-e) (num, den)
    let m := nearestEven n d
    let (m, e) := if m = Nat.pow 2 53 then (Nat.pow 2 52, e + 1) else (m, e)
    if maxExponent < e then none else some ⟨false, m, e⟩

def magnitude (x : Binary64) : Nat × Nat := scaled x.exponent (x.mantissa, 1)

/-- The rounded product of two absolute values. -/
def mul? (x y : Binary64) : Option Binary64 :=
  round? (x.magnitude.1 * y.magnitude.1) (x.magnitude.2 * y.magnitude.2)

def div? (x y : Binary64) : Option Binary64 :=
  round? (x.magnitude.1 * y.magnitude.2) (x.magnitude.2 * y.magnitude.1)

def powerOfTen? (n : Nat) : Option Binary64 := round? (Nat.pow 10 n) 1

end Binary64

end DnsReconcile
