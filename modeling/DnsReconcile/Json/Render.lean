import DnsReconcile.Json.Value
import DnsReconcile.Number.Shortest

/-!
The compact text of a JSON value: no white space, members in their order, and
an escape only where JSON asks for one. All other characters stand for
themselves.
-/

namespace DnsReconcile

open Text

namespace Number

def chars : Number → List Char
  | int i => if i < 0 then '-' :: decimal i.natAbs else decimal i.natAbs
  | real x => x.chars

end Number

namespace Json

def twoHexDigits (n : Nat) : List Char :=
  if n < 16 then '0' :: hexadecimal n else hexadecimal n

def charEscape (c : Char) : List Char :=
  if c = '"' then ['\\', '"']
  else if c = '\\' then ['\\', '\\']
  else if c = '\n' then ['\\', 'n']
  else if c = '\r' then ['\\', 'r']
  else if c = '\t' then ['\\', 't']
  else if c.toNat = 8 then ['\\', 'b']
  else if c.toNat = 12 then ['\\', 'f']
  else if c.toNat < 32 then '\\' :: 'u' :: '0' :: '0' :: twoHexDigits c.toNat
  else [c]

def stringChars (s : String) : List Char :=
  '"' :: s.toList.flatMap charEscape ++ ['"']

mutual

def chars : Json → List Char
  | null => ['n', 'u', 'l', 'l']
  | bool true => ['t', 'r', 'u', 'e']
  | bool false => ['f', 'a', 'l', 's', 'e']
  | number n => n.chars
  | string s => stringChars s
  | array xs => '[' :: elementChars xs
  | object ms => '\x7b' :: memberChars ms

def elementChars : List Json → List Char
  | [] => [']']
  | x :: rest => x.chars ++ furtherElementChars rest

def furtherElementChars : List Json → List Char
  | [] => [']']
  | x :: rest => ',' :: x.chars ++ furtherElementChars rest

def memberChars : List (String × Json) → List Char
  | [] => ['\x7d']
  | (n, v) :: rest => stringChars n ++ ':' :: v.chars ++ furtherMemberChars rest

def furtherMemberChars : List (String × Json) → List Char
  | [] => ['\x7d']
  | (n, v) :: rest => ',' :: stringChars n ++ ':' :: v.chars ++ furtherMemberChars rest

end

def render (v : Json) : String := String.ofList v.chars

end Json

end DnsReconcile
