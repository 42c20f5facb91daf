/-!
Sets of characters and maps between them, given by ranges of code points.
-/

namespace DnsReconcile.Text

/-- A set of characters: the first and the last code point of each of its
ranges. -/
abbrev Ranges : Type := List (Nat × Nat)

def inRanges (ranges : Ranges) (c : Char) : Bool :=
  ranges.any (fun (low, high) => low ≤ c.toNat && c.toNat ≤ high)

/-- Characters at equal distances whose images stand in the same order. The
first image is `target`; each other one is as far from it as its character is
from the first. -/
structure Run where
  first : Nat
  last : Nat
  step : Nat
  target : Nat

def Run.image? (r : Run) (n : Nat) : Option Nat :=
  if r.first ≤ n ∧ n ≤ r.last ∧ (n - r.first) % r.step = 0 then some (r.target + (n - r.first))
  else none

def imageIn? (runs : List Run) (c : Char) : Option Char :=
  (runs.findSome? (·.image? c.toNat)).map Char.ofNat

end DnsReconcile.Text
