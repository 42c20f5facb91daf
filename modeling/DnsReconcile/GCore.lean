import DnsReconcile.GCore.Api
import DnsReconcile.Http.Exchange

/-!
The provider behind the G-Core DNS API.

Every call is one request. A response that does not tell success becomes the
error of its status, with the message that its body gives. Zones and names go
without their final dot.
-/

namespace DnsReconcile

structure GCore where
  apiKey : String
  /-- The address of the API, without a final slash. -/
  baseUrl : String
  deriving DecidableEq, Inhabited

namespace GCore

open Http

def publicUrl : String := "https://api.gcore.com/dns"

def providerName : String := "gcore"

def nameservers : List String := ["ns1.gcorelabs.net", "ns2.gcdn.services"]

/-- All types can be hosted, but no null target. -/
def capabilities : Capabilities := { allowsNullTarget := false }

/-- Access with a key, which must not be empty, to an address. -/
def new (apiKey baseUrl : String) : Except Error GCore :=
  if apiKey = "" then .error (.config "G-Core API key cannot be empty")
  else .ok ⟨apiKey, String.ofList (Text.dropEndWhile (· == '/') baseUrl.toList)⟩

/-- How access is shown to a reader, who does not get to see the key. -/
def shown (g : GCore) : String :=
  "GcoreProvider \x7b api_key: \"<REDACTED>\", base_url: " ++ s!"{Text.shownQuoted g.baseUrl} \x7d"

def zonesUrl (g : GCore) : String := s!"{g.baseUrl}/v2/zones"

def zoneUrl (g : GCore) (zone : String) : String :=
  s!"{g.baseUrl}/v2/zones/{withoutFinalDot zone}"

def setUrl (g : GCore) (zone name : String) (type : RecordType) : String :=
  s!"{g.baseUrl}/v2/zones/{withoutFinalDot zone}/{withoutFinalDot name}/{type.text}"

def context {α : Type} : Call α → String
  | .zoneExists _ => "list zones"
  | .createZone zone => s!"create zone {withoutFinalDot zone}"
  | .list zone => s!"get zone {withoutFinalDot zone}"
  | .get _ name type => s!"get rrset {withoutFinalDot name} {type.text}"
  | .create _ name type _ => s!"create rrset {withoutFinalDot name} {type.text}"
  | .update _ name type _ => s!"update rrset {withoutFinalDot name} {type.text}"
  | .delete _ name type => s!"delete rrset {withoutFinalDot name} {type.text}"
  | .nameservers _ => "nameservers"

def statusError (status : Nat) (context message : String) : Error :=
  if status = 401 ∨ status = 403 then
    .authentication (s!"{context}: invalid API key or insufficient permissions " ++
      s!"({statusText status}): {message}")
  else if status = 404 then .notFound s!"{context}: {message}"
  else if status = 409 then
    .provider providerName s!"{context}: conflict ({statusText status}): {message}"
  else if status = 429 then .rateLimited s!"{context}: {message}"
  else if 500 ≤ status ∧ status ≤ 599 then
    .provider providerName
      s!"{context}: server error (transient) ({statusText status}): {message}"
  else .provider providerName s!"{context}: {statusText status}: {message}"

def request? (g : GCore) (method : Method) (url : String) (body : Option Json) :
    Except String Request :=
  let authorization := s!"APIKey {g.apiKey}"
  match Url.ofString? url with
  | none => .error "builder error"
  | some url =>
    if !isHeaderText authorization then .error "builder error"
    else if !url.canBeSent then .error s!"builder error for url ({url.text})"
    else .ok ⟨method, url, authorization, body⟩

section exchange

variable {τ : Type}

def send (g : GCore) (t : Transport τ) (context : String) (method : Method) (url : String)
    (body : Option Json) (s : τ) : Except Error String × τ :=
  let failed (reason : String) : Error := .http s!"{context}: HTTP request failed: {reason}"
  match g.request? method url body with
  | .error reason => (.error (failed reason), s)
  | .ok request =>
    match t.send request s with
    | (.error reason, s) => (.error (failed reason), s)
    | (.ok response, s) =>
      if isSuccess response.status then (.ok response.body, s)
      else
        let message := (errorMessage? response.body).getD response.body
        (.error (statusError response.status context message), s)

def sendAndRead {α : Type} (g : GCore) (t : Transport τ) (context url : String)
    (read : Document → Option α) (s : τ) : Except Error α × τ :=
  match g.send t context .get url none s with
  | (.error e, s) => (.error e, s)
  | (.ok body, s) =>
    match (Document.ofString? body).bind read with
    | some a => (.ok a, s)
    | none =>
      (.error (.http s!"{context}: failed to parse response: error decoding response body"), s)

def sendOnly (g : GCore) (t : Transport τ) (context : String) (method : Method) (url : String)
    (body : Option Json) (s : τ) : Except Error Unit × τ :=
  let (outcome, s) := g.send t context method url body s
  (outcome.map (fun _ => ()), s)

def answer (g : GCore) (t : Transport τ) {α : Type} (c : Call α) (s : τ) : Except Error α × τ :=
  let about := context c
  match c with
  | .zoneExists zone =>
    let (names, s) := g.sendAndRead t about g.zonesUrl zoneNames? s
    (names.map (fun names => names.any (fun name =>
      Text.sameIgnoringCase (withoutFinalDot name) (withoutFinalDot zone))), s)
  | .createZone zone =>
    g.sendOnly t about .post g.zonesUrl
      (some (.ofMembers [("name", .string (withoutFinalDot zone))])) s
  | .list zone => g.sendAndRead t about (g.zoneUrl zone) zoneSets? s
  | .get zone name type =>
    g.sendAndRead t about (g.setUrl zone name type) (NativeSet.ofDocument? 0) s
  | .create zone name type set =>
    g.sendOnly t about .post (g.setUrl zone name type) (some set.toJson) s
  | .update zone name type set =>
    g.sendOnly t about .put (g.setUrl zone name type) (some set.toJson) s
  | .delete zone name type => g.sendOnly t about .delete (g.setUrl zone name type) none s
  | .nameservers _ => (.ok nameservers, s)

def provider (g : GCore) (t : Transport τ) : Provider τ :=
  { name := providerName, capabilities, answer := g.answer t, isRemote := true }

end exchange

end GCore

end DnsReconcile
