import DnsReconcile.Error

/-!
Reports on the application of corrections.
-/

namespace DnsReconcile

structure CorrectionFailure where
  /-- The place of the correction in the list. -/
  index : Nat
  message : String
  /-- The report of its last error. -/
  error : String
  deriving DecidableEq

structure Report where
  zone : String
  planned : Nat
  applied : Nat := 0
  /-- The corrections that failed, in the order of the list. -/
  failures : List CorrectionFailure := []
  /-- Whether a failure kept corrections from being tried. -/
  aborted : Bool := false
  deriving DecidableEq

namespace Report

def isSuccess (r : Report) : Bool := r.failures.isEmpty && !r.aborted

/-- The number of corrections that were never tried. -/
def skipped (r : Report) : Nat := r.planned - r.applied - r.failures.length

def result (r : Report) : Except Error Unit :=
  match r.failures with
  | [] => .ok ()
  | f :: _ => .error (.mutation f.message f.error)

end Report

end DnsReconcile
