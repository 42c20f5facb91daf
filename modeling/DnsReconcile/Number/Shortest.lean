import DnsReconcile.Number.Binary64
import DnsReconcile.Text.Digits

/-!
The shortest decimal text of a binary floating point number.

`shortest` gives the fewest digits whose value still rounds to the number, and
of those the nearest to it. `Binary64.chars` lays them out: positionally while
the leading digit stands between the fifth place behind the point and the
sixteenth before it, always with a point, and else with an exponent that has a
sign.
-/

namespace DnsReconcile.Binary64

open Text

/-- The decimal numbers that round to a binary one: those between two bounds,
which are given with the number itself over one denominator. -/
structure Interval where
  low : Nat
  value : Nat
  high : Nat
  denominator : Nat
  closed : Bool

/-- The interval of a positive number. Its lower half is narrower at a power of
two, and its ends belong to it when the mantissa is even. -/
def interval (x : Binary64) : Interval :=
  let below := if x.mantissa = Nat.pow 2 52 ∧ minExponent < x.exponent then 1 else 2
  let quarters (n : Nat) : Nat := (scaled (x.exponent - 2) (n, 1)).1
  { low := quarters (4 * x.mantissa - below)
    value := quarters (4 * x.mantissa)
    high := quarters (4 * x.mantissa + 2)
    denominator := (scaled (x.exponent - 2) (1, 1)).2
    closed := x.mantissa % 2 = 0 }

def Interval.contains (i : Interval) (num den : Nat) : Bool :=
  if i.closed then i.low * den ≤ num * i.denominator ∧ num * i.denominator ≤ i.high * den
  else i.low * den < num * i.denominator ∧ num * i.denominator < i.high * den

def decimalRatio (digits : Nat) (power : Int) : Nat × Nat :=
  if 0 ≤ power then (digits * Nat.pow 10 power.toNat, 1)
  else (digits, Nat.pow 10 (-power).toNat)

/-- The number of places before the decimal point of `num / den`: the least `k`
from `start` on with `num / den < 10 ^ k`, looked for in `fuel` steps. -/
def pointPlace (num den : Nat) : Nat → Int → Int
  | 0, k => k
  | fuel + 1, k =>
    let (n, d) := decimalRatio 1 k
    if num * d < n * den then k else pointPlace num den fuel (k + 1)

/-- The distance between two ratios over the product of their denominators. -/
def distance (a b : Nat × Nat) : Nat :=
  let x := a.1 * b.2
  let y := b.1 * a.2
  if x ≤ y then y - x else x - y

/-- Of the two multiples of `10 ^ power` next to the number, the nearer one
that lies in the interval, if any does; a tie goes to the even one. -/
def neighbour? (i : Interval) (power : Int) : Option Nat :=
  let (n, d) := decimalRatio 1 power
  let below := i.value * d / (i.denominator * n)
  let ratio (k : Nat) := decimalRatio k power
  let inside (k : Nat) := i.contains (ratio k).1 (ratio k).2
  let gap (k : Nat) := distance (ratio k) (i.value, i.denominator)
  match inside below, inside (below + 1) with
  | true, true =>
    if gap below < gap (below + 1) then some below
    else if gap (below + 1) < gap below then some (below + 1)
    else if below % 2 = 0 then some below else some (below + 1)
  | true, false => some below
  | false, true => some (below + 1)
  | false, false => none

/-- Looks for the first number of digits, from `places` on, with which the
number can be written, and gives the digits and the power of ten of the last
one. -/
def shortestFrom (i : Interval) (point : Int) : Nat → Nat → Nat × Int
  | 0, _ => (0, 0)
  | fuel + 1, places =>
    match neighbour? i (point - places) with
    | some k => (k, point - places)
    | none => shortestFrom i point fuel (places + 1)

/-- The shortest decimal `k * 10 ^ p` that rounds to a positive number. -/
def shortest (x : Binary64) : Nat × Int :=
  let i := x.interval
  shortestFrom i (pointPlace i.value i.denominator 640 (-324)) 17 1

def dropFinalZeros (ds : List Char) : List Char := (ds.reverse.dropWhile (· == '0')).reverse

/-- Digits laid out with the decimal point behind the first `point` of them. -/
def layout (ds : List Char) (point : Int) : List Char :=
  if point ≤ -5 ∨ 16 < point then
    let mark := if 1 ≤ point then '+' else '-'
    let rest := ds.drop 1
    ds.take 1 ++ (if rest.isEmpty then [] else '.' :: rest) ++
      'e' :: mark :: decimal (point - 1).natAbs
  else if point ≤ 0 then '0' :: '.' :: List.replicate (-point).toNat '0' ++ ds
  else
    let n := point.toNat
    if n < ds.length then ds.take n ++ '.' :: ds.drop n
    else ds ++ List.replicate (n - ds.length) '0' ++ ['.', '0']

/-- The shortest decimal text. -/
def chars (x : Binary64) : List Char :=
  let sign := if x.negative then ['-'] else []
  if x.mantissa = 0 then sign ++ ['0', '.', '0']
  else
    let (k, power) := x.shortest
    let ds := decimal k
    sign ++ layout (dropFinalZeros ds) (power + ds.length)

end DnsReconcile.Binary64
