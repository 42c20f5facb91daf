/-!
Punycode: texts of any characters written in letters, digits and hyphens.

The ASCII characters of a text come first, closed by a hyphen if there are any.
Behind them stands a number for each other character, in ascending order of the
characters, which tells how many places to move on from the one before: each
place is a pair of a character and a position. The numbers have the base 36 and
end at the first digit below a threshold, which adapts to the numbers before.
-/

namespace DnsReconcile.Idna.Punycode

def digitChar (n : Nat) : Char :=
  if n < 26 then Char.ofNat (97 + n) else Char.ofNat (48 + (n - 26))

def digitValue? (c : Char) : Option Nat :=
  if 'a' ≤ c ∧ c ≤ 'z' then some (c.toNat - 97)
  else if '0' ≤ c ∧ c ≤ '9' then some (c.toNat - 48 + 26)
  else none

/-- The threshold of a digit, for a bias and the place of the digit, which
grows by 36 with each. -/
def threshold (bias place : Nat) : Nat := if place ≤ bias then 1 else min 26 (place - bias)

theorem one_le_threshold (bias place : Nat) : 1 ≤ threshold bias place := by
  unfold threshold
  split <;> omega

/-- The bias for a number that is small enough, else for a part of it. -/
def biasFor (n : Nat) : Nat :=
  if 455 < n then 36 + biasFor (n / 35) else 36 * n / (n + 38)
termination_by n

/-- The bias behind a number, when there are `size` characters so far. -/
def adapted (n size : Nat) (isFirst : Bool) : Nat :=
  let scaled := if isFirst then n / 700 else n / 2
  biasFor (scaled + scaled / size)

def writeNumber (bias place n : Nat) : List Char :=
  let t := threshold bias place
  if n < t then [digitChar n]
  else digitChar (t + (n - t) % (36 - t)) :: writeNumber bias (place + 36) ((n - t) / (36 - t))
termination_by n
decreasing_by
  have h := one_le_threshold bias place
  have : (n - threshold bias place) / (36 - threshold bias place) ≤ n - threshold bias place :=
    Nat.div_le_self _ _
  omega

structure Writer where
  written : List Char
  /-- The places since the character that was written last. -/
  places : Nat
  bias : Nat
  /-- How many characters of the text are written. -/
  size : Nat

namespace Writer

/-- Goes by a character of the text on the way through the places of the code
point `point`, which is its turn to be written. -/
def passBy (point plain : Nat) (w : Writer) (c : Char) : Writer :=
  if c.toNat < point then { w with places := w.places + 1 }
  else if c.toNat = point then
    { written := w.written ++ writeNumber w.bias 36 w.places
      places := 0
      bias := adapted w.places (w.size + 1) (w.size == plain)
      size := w.size + 1 }
  else w

/-- Writes the characters with some code points, which ascend from `next` on. -/
def writeAll (text : List Char) (plain : Nat) : Nat → List Nat → Writer → Writer
  | _, [], w => w
  | next, point :: rest, w =>
    let w := { w with places := w.places + (point - next) * (w.size + 1) }
    let w := text.foldl (passBy point plain) w
    writeAll text plain (point + 1) rest { w with places := w.places + 1 }

end Writer

def isPlain (c : Char) : Bool := c.toNat < 128

/-- The code points of the other characters, each once, ascending. -/
def otherPoints (text : List Char) : List Nat :=
  ((text.filter (!isPlain ·)).map Char.toNat).mergeSort.eraseDups

def encode (text : List Char) : List Char :=
  let plain := text.filter isPlain
  let start : Writer := { written := [], places := 0, bias := 72, size := plain.length }
  let w := start.writeAll text plain.length 128 (otherPoints text)
  plain ++ (if plain.isEmpty then [] else ['-']) ++ w.written

def readNumber (bias : Nat) : Nat → Nat → List Char → Option (Nat × List Char)
  | _, _, [] => none
  | place, weight, c :: rest => do
    let d ← digitValue? c
    let t := threshold bias place
    if d < t then return (d * weight, rest)
    let (n, rest) ← readNumber bias (place + 36) (weight * (36 - t)) rest
    return (d * weight + n, rest)

theorem length_lt_of_readNumber {bias place weight n : Nat} {cs rest : List Char}
    (h : readNumber bias place weight cs = some (n, rest)) : rest.length < cs.length := by
  induction cs generalizing place weight n rest with
  | nil => simp [readNumber] at h
  | cons c cs ih =>
    simp only [readNumber, Option.bind_eq_bind, Option.bind_eq_some_iff] at h
    obtain ⟨d, _, h⟩ := h
    split at h
    · simp only [Option.pure_def, Option.some.injEq, Prod.mk.injEq] at h
      simp [← h.2]
    · simp only [Option.bind_eq_some_iff] at h
      obtain ⟨⟨m, tail⟩, hm, h⟩ := h
      simp only [Option.pure_def, Option.some.injEq, Prod.mk.injEq] at h
      have := ih hm
      simp only [← h.2, List.length_cons]
      omega

/-- Reads characters into a text. The next one stands `place` places into those
of the code point `point`. -/
def readAll (text : List Char) (point place bias : Nat) (cs : List Char) : Option (List Char) :=
  if cs.isEmpty then some text
  else match h : readNumber bias 36 1 cs with
    | none => none
    | some (n, rest) =>
      let size := text.length + 1
      let next := point + (place + n) / size
      let index := (place + n) % size
      if next.isValidChar then
        readAll (text.insertIdx index (Char.ofNat next)) next (index + 1)
          (adapted n size (place == 0)) rest
      else none
termination_by cs.length
decreasing_by exact length_lt_of_readNumber h

def decode? (cs : List Char) : Option (List Char) :=
  let digits := (cs.reverse.takeWhile (· != '-')).reverse
  let plain := cs.take (cs.length - digits.length - 1)
  if plain.all isPlain then readAll plain 128 0 72 digits else none

end DnsReconcile.Idna.Punycode
