import IngressGateway.Notification.Basic

/-!
The severity from which on a run counts as failed.
-/

set_option autoImplicit false

namespace IngressGateway

inductive Threshold where
  | never
  | warning
  | error
deriving DecidableEq, Repr

namespace Threshold

def severity? : Threshold → Option Severity
  | .never => none
  | .warning => some .warning
  | .error => some .error

def all : List Threshold := [.never, .warning, .error]

def label : Threshold → String
  | .never => "never"
  | .warning => "warning"
  | .error => "error"

def codec : Codec Threshold := .named label all

def ofLabel? (s : String) : Option Threshold := all.find? fun t => t.label = s

def isReached (t : Threshold) (gravest : Option Severity) : Bool :=
  match t.severity?, gravest with
  | some least, some s => least.rank ≤ s.rank
  | _, _ => false

end Threshold

end IngressGateway
