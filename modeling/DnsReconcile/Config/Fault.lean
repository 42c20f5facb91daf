import DnsReconcile.Error

/-!
What a configuration can get wrong, and how it is reported.
-/

namespace DnsReconcile

inductive ConfigFault where
  | noDomains
  | emptyKey
  | badScheme (url : String)
  | emptyFactory
  | nullConfig
  | noParallelism
  | noEventCapacity
  | repeatedDomain (name : String)
  | nameTooLong (size : Nat) (name : String)
  | nameNotAscii (name : String)
  | labelTooLong (size : Nat) (label : String)
  | rootDomain
  | zeroTtl (name : String)
  | noStrings (name : String)
  | outsideZone (owner zone : String)
  deriving DecidableEq

namespace ConfigFault

def message : ConfigFault → String
  | noDomains => "No domains configured"
  | emptyKey => "G-Core API key cannot be empty"
  | badScheme url => s!"G-Core API URL must use HTTP or HTTPS scheme. Got: {url}"
  | emptyFactory => "Custom provider factory cannot be empty"
  | nullConfig => "Custom provider config cannot be null"
  | noParallelism => "max_parallel_per_pass must be > 0"
  | noEventCapacity => "event_channel_capacity must be > 0"
  | repeatedDomain name => s!"Domain {name} is configured more than once"
  | nameTooLong size name => s!"Name too long: {size} chars (max 253). Got: {name}"
  | nameNotAscii name =>
    s!"Name must be ASCII (use punycode for internationalized names): {name}"
  | labelTooLong size label => s!"Label too long: {size} chars (max 63). Label: '{label}'"
  | rootDomain => "Domain name cannot be the root"
  | zeroTtl name => s!"{name}: TTL must be > 0"
  | noStrings name => s!"{name}: TXT record needs at least one string"
  | outsideZone owner zone => s!"{owner} is outside zone {zone}"

def toError (f : ConfigFault) : Error := .config f.message

end ConfigFault

end DnsReconcile
