import DnsReconcile.Http.Status
import DnsReconcile.Http.Url
import DnsReconcile.Json.Render

/-!
HTTP requests, responses and what carries them.
-/

namespace DnsReconcile.Http

inductive Method where
  | get
  | post
  | put
  | delete
  deriving DecidableEq, Inhabited

def Method.text : Method → String
  | get => "GET"
  | post => "POST"
  | put => "PUT"
  | delete => "DELETE"

/-- A request. A body is sent as JSON. -/
structure Request where
  method : Method
  url : Url
  authorization : String
  body : Option Json

structure Response where
  status : Nat
  body : String
  deriving DecidableEq, Inhabited

/-- What carries requests to a server. A request that gets no response gets the
reason for it. -/
structure Transport (τ : Type) where
  send : Request → τ → Except String Response × τ

def Transport.offline : Transport Unit :=
  ⟨fun r s => (.error s!"error sending request for url ({r.url.text})", s)⟩

/-- Whether a text can stand in a header: it has no control character but the
tab. -/
def isHeaderText (s : String) : Bool :=
  s.toList.all (fun c => (32 ≤ c.toNat && c.toNat != 127) || c == '\t')

/-- A header as its reader gets it, without blanks and tabs at its ends. -/
def headerValue (s : String) : String :=
  let isOptional (c : Char) : Bool := c == ' ' || c == '\t'
  String.ofList ((s.toList.dropWhile isOptional).reverse.dropWhile isOptional).reverse

end DnsReconcile.Http
