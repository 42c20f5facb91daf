import DnsReconcile.Json.Value
import DnsReconcile.Text.Digits

/-!
Numbers in JSON text and the values they denote.

A numeral without fraction and exponent is an integer as far as 64 bits reach.
Any other is a floating point number: as many leading digits as fit into 64
bits without a sign, rounded, and then scaled by the rounded power of ten.
-/

namespace DnsReconcile

open Text

structure Numeral where
  negative : Bool
  whole : List Char
  /-- The digits behind the point; `none` without a point. -/
  fraction : Option (List Char)
  /-- The sign and the digits of the exponent; `none` without one. -/
  exponent : Option (Bool × List Char)
  deriving DecidableEq

namespace Numeral

/-- The numbers below `2 ^ 64` have their digits taken one by one. -/
def significandBound : Nat := Nat.pow 2 64

/-- Appends digits to a significand until it would not fit into 64 bits any
more, and counts the digits taken and those left over. -/
def takeDigits (significand : Nat) : List Char → Nat × Nat × Nat
  | [] => (significand, 0, 0)
  | d :: rest =>
    let next := significand * 10 + digitValue d
    if significandBound ≤ next then (significand, 0, (d :: rest).length)
    else
      let (s, taken, left) := takeDigits next rest
      (s, taken + 1, left)

/-- The greatest power of ten that a single step of scaling reaches. -/
def longestStep : Nat := 308

/-- A number times a power of ten, which a single step has to reach. -/
def scaleUp? (x : Binary64) (n : Nat) : Option Binary64 :=
  if longestStep < n then none
  else (Binary64.powerOfTen? n).bind x.mul?

/-- A number divided a number of times by the longest step, or until nothing is
left of it. -/
def divideByLongestStep? : Nat → Binary64 → Option Binary64
  | 0, x => some x
  | times + 1, x =>
    if x.mantissa = 0 then some x
    else ((Binary64.powerOfTen? longestStep).bind x.div?).bind (divideByLongestStep? times)

/-- A number divided by a power of ten, in steps none of which is longer than
the longest. -/
def scaleDown? (x : Binary64) (n : Nat) : Option Binary64 :=
  let times := (n - 1) / longestStep
  match divideByLongestStep? times x with
  | none => none
  | some y => (Binary64.powerOfTen? (n - longestStep * times)).bind y.div?

/-- The floating point number `significand * 10 ^ power`, or `none` beyond the
greatest. -/
def real? (significand : Nat) (power : Int) : Option Binary64 :=
  match Binary64.round? significand 1 with
  | none => none
  | some x =>
    if power < 0 then scaleDown? x power.natAbs
    else if x.mantissa = 0 then some x
    else scaleUp? x power.toNat

/-- The greatest exponent that is told apart from greater ones. -/
def exponentBound : Nat := Nat.pow 2 31

/-- The value of a numeral, unless it is beyond the floating point numbers. -/
def value? (n : Numeral) : Option Number :=
  let (significand, _, dropped) := takeDigits 0 n.whole
  let asReal (significand : Nat) (power : Int) : Option Number :=
    (real? significand power).map (fun x => .real (x.withSign n.negative))
  match n.fraction, n.exponent with
  | none, none =>
    if dropped ≠ 0 then asReal significand dropped
    else if !n.negative then some (.int significand)
    else if significand = 0 ∨ Nat.pow 2 63 < significand then asReal significand 0
    else some (.int (-(significand : Int)))
  | fraction, exponent =>
    let (significand, taken, _) := takeDigits significand (fraction.getD [])
    let power : Int := dropped - taken
    match exponent with
    | none => asReal significand power
    | some (down, ds) =>
      let e := ofDigits ds
      if exponentBound ≤ e then
        if significand = 0 ∨ down then some (.real (.zero n.negative)) else none
      else asReal significand (if down then power - e else power + e)

end Numeral

end DnsReconcile
