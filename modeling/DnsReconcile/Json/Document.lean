import DnsReconcile.Json.Numeral
import DnsReconcile.Json.Value

/-!
JSON text as it stands: the members of an object in their order and with their
repetitions, and the strings and numbers that denote no value.

Reading only asks for the grammar. A member that nobody looks at may hold a
number beyond all values, an escape that is no character, or any depth of
nesting; `Document.isSound` is what a part has to meet to be kept, and
`Document.toJson?` is the value of a part that meets it.
-/

namespace DnsReconcile

open Text

/-- A JSON text. Strings and numbers without a value are `none`. -/
inductive Document where
  | null
  | bool (value : Bool)
  | number (value : Option Number)
  | string (value : Option String)
  | array (elements : List Document)
  | object (members : List (Option String × Document))

namespace Document

instance : Inhabited Document := ⟨null⟩

def isSpace (c : Char) : Bool := c == ' ' || c == '\n' || c == '\t' || c == '\r'

def skipSpace (cs : List Char) : List Char := cs.dropWhile isSpace

def simpleEscape? : Char → Option Char
  | '"' => some '"'
  | '\\' => some '\\'
  | '/' => some '/'
  | 'b' => some '\x08'
  | 'f' => some '\x0c'
  | 'n' => some '\n'
  | 'r' => some '\r'
  | 't' => some '\t'
  | _ => none

def fourHexDigits? (a b c d : Char) : Option Nat := do
  let a ← hexValue? a
  let b ← hexValue? b
  let c ← hexValue? c
  let d ← hexValue? d
  return ((a * 16 + b) * 16 + c) * 16 + d

/-- Whether a code unit is the first half of a pair. -/
def isHighSurrogate (n : Nat) : Bool := 0xD800 ≤ n && n ≤ 0xDBFF

def isLowSurrogate (n : Nat) : Bool := 0xDC00 ≤ n && n ≤ 0xDFFF

/-- The text read so far inside a string, newest character first. -/
structure StringState where
  newestFirst : List Char
  /-- The first half of a pair whose second half has to follow at once. -/
  pending : Option Nat
  /-- Whether every escape so far denotes a character. -/
  sound : Bool

namespace StringState

def start : StringState := ⟨[], none, true⟩

def push (st : StringState) (c : Char) : StringState :=
  ⟨c :: st.newestFirst, none, st.sound && st.pending.isNone⟩

/-- One more code unit, from an escape with its number. -/
def pushUnit (st : StringState) (n : Nat) : StringState :=
  match st.pending with
  | some high =>
    if isLowSurrogate n then
      ⟨Char.ofNat ((high - 0xD800) * 0x400 + (n - 0xDC00) + 0x10000) :: st.newestFirst,
        none, st.sound⟩
    else ⟨st.newestFirst, none, false⟩
  | none =>
    if isHighSurrogate n then { st with pending := some n }
    else if isLowSurrogate n then { st with sound := false }
    else st.push (Char.ofNat n)

/-- The string that was read, if all of it denotes characters. -/
def finish (st : StringState) : Option String :=
  if st.sound && st.pending.isNone then some (String.ofList st.newestFirst.reverse) else none

end StringState

def readString (st : StringState) : List Char → Option (Option String × List Char)
  | [] => none
  | '"' :: rest => some (st.finish, rest)
  | '\\' :: 'u' :: a :: b :: c :: d :: rest =>
    match fourHexDigits? a b c d with
    | none => none
    | some n => readString (st.pushUnit n) rest
  | '\\' :: e :: rest =>
    match simpleEscape? e with
    | none => none
    | some c => readString (st.push c) rest
  | c :: rest => if c.toNat < 32 then none else readString (st.push c) rest

def readDigits (cs : List Char) : Option (List Char × List Char) :=
  let ds := cs.takeWhile Char.isDigit
  if ds.isEmpty then none else some (ds, cs.dropWhile Char.isDigit)

/-- Reads the whole part of a number: zero, or digits that do not start with
zero. -/
def readWhole : List Char → Option (List Char × List Char)
  | '0' :: rest =>
    match rest with
    | c :: _ => if c.isDigit then none else some (['0'], rest)
    | [] => some (['0'], rest)
  | cs => readDigits cs

def readFraction : List Char → Option (Option (List Char) × List Char)
  | '.' :: rest => (readDigits rest).map (fun (ds, rest) => (some ds, rest))
  | cs => some (none, cs)

def readExponentSign : List Char → Bool × List Char
  | '+' :: rest => (false, rest)
  | '-' :: rest => (true, rest)
  | cs => (false, cs)

def readExponent : List Char → Option (Option (Bool × List Char) × List Char)
  | c :: rest =>
    if c = 'e' ∨ c = 'E' then
      let (down, rest) := readExponentSign rest
      (readDigits rest).map (fun (ds, rest) => (some (down, ds), rest))
    else some (none, c :: rest)
  | [] => some (none, [])

def readUnsigned (negative : Bool) (cs : List Char) : Option (Numeral × List Char) := do
  let (whole, cs) ← readWhole cs
  let (fraction, cs) ← readFraction cs
  let (exponent, cs) ← readExponent cs
  return (⟨negative, whole, fraction, exponent⟩, cs)

def readNumber : List Char → Option (Numeral × List Char)
  | '-' :: rest => readUnsigned true rest
  | cs => readUnsigned false cs

mutual

/-- Reads a value at the front of a text, in at most `fuel` nested or repeated
steps. -/
def readValue : Nat → List Char → Option (Document × List Char)
  | 0, _ => none
  | fuel + 1, cs =>
    match skipSpace cs with
    | 'n' :: 'u' :: 'l' :: 'l' :: rest => some (.null, rest)
    | 't' :: 'r' :: 'u' :: 'e' :: rest => some (.bool true, rest)
    | 'f' :: 'a' :: 'l' :: 's' :: 'e' :: rest => some (.bool false, rest)
    | '"' :: rest => (readString .start rest).map (fun (s, rest) => (.string s, rest))
    | '[' :: rest =>
      match skipSpace rest with
      | ']' :: rest => some (.array [], rest)
      | rest => readElements fuel [] rest
    | '\x7b' :: rest =>
      match skipSpace rest with
      | '\x7d' :: rest => some (.object [], rest)
      | rest => readMembers fuel [] rest
    | rest => (readNumber rest).map (fun (n, rest) => (.number n.value?, rest))

def readElements : Nat → List Document → List Char → Option (Document × List Char)
  | 0, _, _ => none
  | fuel + 1, newestFirst, cs =>
    match readValue fuel cs with
    | none => none
    | some (x, rest) =>
      match skipSpace rest with
      | ',' :: rest => readElements fuel (x :: newestFirst) rest
      | ']' :: rest => some (.array (x :: newestFirst).reverse, rest)
      | _ => none

def readMembers : Nat → List (Option String × Document) → List Char →
    Option (Document × List Char)
  | 0, _, _ => none
  | fuel + 1, newestFirst, cs =>
    match skipSpace cs with
    | '"' :: rest =>
      match readString .start rest with
      | none => none
      | some (name, rest) =>
        match skipSpace rest with
        | ':' :: rest =>
          match readValue fuel rest with
          | none => none
          | some (x, rest) =>
            match skipSpace rest with
            | ',' :: rest => readMembers fuel ((name, x) :: newestFirst) rest
            | '\x7d' :: rest => some (.object ((name, x) :: newestFirst).reverse, rest)
            | _ => none
        | _ => none
    | _ => none

end

/-- Reads a whole text: one value with white space around it. Every step of
reading takes a character, so the length of the text is fuel enough. -/
def read? (cs : List Char) : Option Document :=
  match readValue (2 * cs.length + 1) cs with
  | some (d, rest) => if skipSpace rest = [] then some d else none
  | none => none

def ofString? (s : String) : Option Document := read? s.toList

mutual

def ofJson : Json → Document
  | .null => .null
  | .bool b => .bool b
  | .number n => .number (some n)
  | .string s => .string (some s)
  | .array xs => .array (ofElements xs)
  | .object ms => .object (ofMembers ms)

def ofElements : List Json → List Document
  | [] => []
  | x :: rest => ofJson x :: ofElements rest

def ofMembers : List (String × Json) → List (Option String × Document)
  | [] => []
  | (n, v) :: rest => (some n, ofJson v) :: ofMembers rest

end

mutual

def depth : Document → Nat
  | array xs => elementDepth xs + 1
  | object ms => memberDepth ms + 1
  | _ => 0

def elementDepth : List Document → Nat
  | [] => 0
  | x :: rest => max x.depth (elementDepth rest)

def memberDepth : List (Option String × Document) → Nat
  | [] => 0
  | (_, x) :: rest => max x.depth (memberDepth rest)

end

mutual

def toJson? : Document → Option Json
  | null => some .null
  | bool b => some (.bool b)
  | number n => n.map .number
  | string s => s.map .string
  | array xs => (elementsToJson? xs).map .array
  | object ms => (membersToJson? ms).map Json.ofMembers

def elementsToJson? : List Document → Option (List Json)
  | [] => some []
  | x :: rest =>
    match x.toJson?, elementsToJson? rest with
    | some v, some vs => some (v :: vs)
    | _, _ => none

/-- The members with their values, repetitions included. -/
def membersToJson? : List (Option String × Document) → Option (List (String × Json))
  | [] => some []
  | (n, x) :: rest =>
    match n, x.toJson?, membersToJson? rest with
    | some n, some v, some vs => some ((n, v) :: vs)
    | _, _, _ => none

end

/-- The greatest depth of nesting of a text whose parts are kept. -/
def maxDepth : Nat := 127

/-- The value of a document inside `level` arrays and objects, if it has one
and is not nested too deeply. -/
def keptJson? (level : Nat) (d : Document) : Option Json :=
  if level + d.depth ≤ maxDepth then d.toJson? else none

/-- Whether a document inside `level` arrays and objects could be kept. -/
def isSound (level : Nat) (d : Document) : Bool := (d.keptJson? level).isSome

end Document

end DnsReconcile
