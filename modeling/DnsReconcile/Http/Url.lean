import DnsReconcile.Http.Host

/-!
URLs of servers that speak HTTP.

Reading is forgiving: slashes may be missing, doubled or reversed, tabs and
line breaks are passed over, and characters that cannot stand in a part of a
URL are percent-encoded. The path is taken apart at its slashes, and segments
of one and of two dots are resolved. A user and a password do not belong to the
URL, unless they are no text. What cannot be read at all is the host or the
port.
-/

namespace DnsReconcile.Http

open Text

inductive Scheme where
  | http
  | https
  deriving DecidableEq, Inhabited

def Scheme.text : Scheme → String
  | http => "http"
  | https => "https"

/-- The port of a scheme where none is told. -/
def Scheme.port : Scheme → Nat
  | http => 80
  | https => 443

structure Url where
  scheme : Scheme
  /-- A user and a password with the sign behind them, if they cannot be read. -/
  unreadUser : String
  host : Host
  /-- The port, if it is not that of the scheme. -/
  port : Option Nat
  path : String
  query : Option String
  fragment : Option String
  deriving DecidableEq

def fragmentSpecials : List Char := [' ', '"', '<', '>', Char.ofNat 96]

def pathSpecials : List Char := fragmentSpecials ++ ['#', '?', '\x7b', '\x7d']

def querySpecials : List Char := [' ', '"', '#', '<', '>', '\'']

/-- The characters that are encoded in a user and in a password. -/
def userSpecials : List Char :=
  pathSpecials ++ ['/', ':', ';', '=', '@', '[', '\\', ']', '^', '|']

def isSlash (c : Char) : Bool := c == '/' || c == '\\'

def splitSlashes : List Char → List (List Char)
  | [] => [[]]
  | c :: rest =>
    if isSlash c then [] :: splitSlashes rest
    else match splitSlashes rest with
      | [] => [[c]]
      | part :: parts => (c :: part) :: parts

/-- A segment with its encoded dots decoded. -/
def plainDots : List Char → List Char
  | '%' :: '2' :: e :: rest => if e.toLower = 'e' then '.' :: plainDots rest
      else '%' :: '2' :: e :: plainDots rest
  | c :: rest => c :: plainDots rest
  | [] => []

def resolveSegments (newestFirst : List (List Char)) : List (List Char) → List (List Char)
  | [] => newestFirst.reverse
  | segment :: rest =>
    let isLast := rest.isEmpty
    if plainDots segment = ['.', '.'] then
      let left := newestFirst.drop 1
      resolveSegments (if isLast then [] :: left else left) rest
    else if plainDots segment = ['.'] then
      resolveSegments (if isLast then [] :: newestFirst else newestFirst) rest
    else resolveSegments (segment.flatMap (encodedChar pathSpecials) :: newestFirst) rest

def pathText (cs : List Char) : String :=
  let segments := resolveSegments [] ((splitSlashes cs).drop 1)
  String.ofList (if segments.isEmpty then ['/'] else segments.flatMap ('/' :: ·))

def markedPart (special : List Char) : List Char → Option String
  | [] => none
  | _ :: cs => some (String.ofList (cs.flatMap (encodedChar special)))

def splitUser (cs : List Char) : List Char × List Char :=
  let fromEnd := cs.reverse
  (((fromEnd.dropWhile (· != '@')).drop 1).reverse, (fromEnd.takeWhile (· != '@')).reverse)

def isEncodedText (cs : List Char) : Bool :=
  (String.fromUTF8? ⟨(percentDecoded cs).toArray⟩).isSome

/-- What stays in a URL of a user and a password: all of it if the user is no
text, or if there is no user and the password is no text. -/
def unreadUserText (cs : List Char) : String :=
  let user := cs.takeWhile (· != ':')
  let password := (cs.dropWhile (· != ':')).drop 1
  if isEncodedText (if user.isEmpty then password else user) then ""
  else
    let encoded (part : List Char) : List Char := part.flatMap (encodedChar userSpecials)
    String.ofList (encoded user ++ (if password.isEmpty then [] else ':' :: encoded password) ++
      ['@'])

/-- The host at the front of a text, and what stands behind it: nothing or a
colon and the port. Colons inside square brackets belong to the host. -/
def splitPort (inBrackets : Bool) : List Char → List Char × List Char
  | [] => ([], [])
  | c :: rest =>
    if c = ':' ∧ !inBrackets then ([], c :: rest)
    else
      let inside := if c = '[' then true else if c = ']' then false else inBrackets
      let (host, port) := splitPort inside rest
      (c :: host, port)

/-- The port behind a colon, if it is not that of the scheme. -/
def port? (scheme : Scheme) (cs : List Char) : Option (Option Nat) :=
  let ds := cs.drop 1
  let n := ofDigits ds
  if !ds.all Char.isDigit || 65535 < n then none
  else some (if ds.isEmpty || n == scheme.port then none else some n)

def scheme? (cs : List Char) : Option (Scheme × List Char) :=
  let name := (cs.takeWhile (· != ':')).map Char.toLower
  let rest := (cs.dropWhile (· != ':')).drop 1
  if name = "http".toList then some (.http, rest)
  else if name = "https".toList then some (.https, rest)
  else none

/-- A text without what is passed over: controls and spaces at its ends, tabs
and line breaks anywhere. -/
def cleaned (cs : List Char) : List Char :=
  let isOuter (c : Char) : Bool := c.toNat ≤ 32
  (dropEndWhile isOuter (cs.dropWhile isOuter)).filter
    (fun c => c != '\t' && c != '\n' && c != '\r')

namespace Url

def ofString? (s : String) : Option Url := do
  let (scheme, rest) ← scheme? (cleaned s.toList)
  let rest := rest.dropWhile isSlash
  let isEnd (c : Char) : Bool := isSlash c || c == '?' || c == '#'
  let (user, server) := splitUser (rest.takeWhile (!isEnd ·))
  let rest := rest.dropWhile (!isEnd ·)
  let (hostChars, portChars) := splitPort false server
  let host ← Host.ofChars? hostChars
  let port ← port? scheme portChars
  let shown := rest.takeWhile (· != '#')
  return {
    scheme, host, port
    unreadUser := unreadUserText user
    path := pathText (shown.takeWhile (· != '?'))
    query := markedPart querySpecials (shown.dropWhile (· != '?'))
    fragment := markedPart fragmentSpecials (rest.dropWhile (· != '#')) }

def marked (mark : String) : Option String → String
  | some part => mark ++ part
  | none => ""

/-- What of a URL is sent to the server: the path and the query. -/
def target (u : Url) : String := u.path ++ marked "?" u.query

def server (u : Url) : String := u.host.text ++ marked ":" (u.port.map (fun n => s!"{n}"))

def origin (u : Url) : String := s!"{u.scheme.text}://{u.server}"

def text (u : Url) : String :=
  s!"{u.scheme.text}://{u.unreadUser}{u.server}{u.target}" ++ marked "#" u.fragment

/-- The most bytes that a URL may have to be sent. -/
def longestSent : Nat := 65534

/-- The characters of host names, among those of ASCII, that keep a URL from
being sent. -/
def unsentSpecials : List Char := ['"', Char.ofNat 96, '\x7b', '\x7d']

def canBeSent (u : Url) : Bool :=
  u.text.utf8ByteSize ≤ longestSent && !u.host.text.toList.any (unsentSpecials.contains ·)

end Url

end DnsReconcile.Http
