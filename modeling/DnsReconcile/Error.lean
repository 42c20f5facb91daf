/-!
What can go wrong, by cause, and the one line that reports it.

`Error.isFatal` tells the causes that end a run before anything is changed from
those that belong to a single call.
-/

namespace DnsReconcile

inductive Error where
  /-- The observed state could not be read from the provider. -/
  | fetch (message : String)
  /-- A native record set does not have the layout of its type. -/
  | parse (message : String)
  /-- The provider cannot host a record or a record set. -/
  | unsupported (message : String)
  /-- A label to be written has no desired records. -/
  | planningInvariant (label operation : String)
  /-- One correction failed. -/
  | mutation (correction message : String)
  /-- The configuration does not hold together. -/
  | config (message : String)
  /-- A file could not be read. -/
  | io (message : String)
  /-- A text is not the JSON that was expected. -/
  | json
  /-- A request could not be sent or its answer not be read. -/
  | http (message : String)
  /-- The provider rejected the credentials. -/
  | authentication (message : String)
  /-- The provider asked for fewer requests. -/
  | rateLimited (message : String)
  /-- A zone or a record set does not exist. -/
  | notFound (message : String)
  /-- Any other failure of the named provider. -/
  | provider (name message : String)
  deriving DecidableEq, Inhabited

namespace Error

def message : Error → String
  | fetch m => s!"Fetch error: {m}"
  | parse m => s!"Parse error: {m}"
  | unsupported m => s!"Unsupported: {m}"
  | planningInvariant label operation =>
    s!"Planning invariant violated for {label} ({operation}): " ++
      "desired records produced no native record set"
  | mutation correction m => s!"Correction failed: {correction}: {m}"
  | config m => s!"Configuration error: {m}"
  | io m => s!"I/O error: {m}"
  | json => "JSON error"
  | http m => s!"HTTP error: {m}"
  | authentication m => s!"Authentication failed: {m}"
  | rateLimited m => s!"Rate limited: {m}"
  | notFound m => s!"Not found: {m}"
  | provider name m => s!"Provider error ({name}): {m}"

/-- Whether the error ends a run before any correction is tried. -/
def isFatal : Error → Bool
  | fetch _ | parse _ | unsupported _ | planningInvariant .. | config _ => true
  | _ => false

end Error

end DnsReconcile
