import IngressGateway.ObjectRef

/-!
Notifications: what a conversion has to say about an object. They are collected in the order in which
they come up, and nothing is ever taken back.
-/

set_option autoImplicit false

namespace IngressGateway

/-- How much is lost: a nuance, a requested feature, or the whole object. -/
inductive Severity where
  | info
  | warning
  | error
deriving DecidableEq, Repr

namespace Severity

def all : List Severity := [.info, .warning, .error]

def rank : Severity → Nat
  | .info => 0
  | .warning => 1
  | .error => 2

def label : Severity → String
  | .info => "Info"
  | .warning => "Warning"
  | .error => "Error"

def tag : Severity → String
  | .info => "INFO"
  | .warning => "WARNING"
  | .error => "ERROR"

def codec : Codec Severity := .named label all

def worse (a b : Severity) : Severity := if a.rank < b.rank then b else a

end Severity

structure Notification where
  severity : Severity
  message : String
  source : ObjectRef
deriving DecidableEq, Repr

namespace Notification

def record : Record Notification Notification :=
  mk <$> .required "severity" Severity.codec severity <*> .required "message" .text message
    <*> .required "source" ObjectRef.codec source

def codec : Codec Notification := record.codec

def line (n : Notification) : String :=
  "[" ++ n.severity.tag ++ "] " ++ n.source.display ++ ": " ++ n.message ++ "\n"

end Notification

/-- A collection of notifications in the order of their arrival. -/
structure Notifications where
  entries : List Notification
deriving DecidableEq, Repr, Inhabited

namespace Notifications

def empty : Notifications := ⟨[]⟩

def push (c : Notifications) (severity : Severity) (source : ObjectRef) (message : String) :
    Notifications :=
  ⟨c.entries ++ [⟨severity, message, source⟩]⟩

def info (c : Notifications) (source : ObjectRef) (message : String) : Notifications :=
  c.push .info source message

def warning (c : Notifications) (source : ObjectRef) (message : String) : Notifications :=
  c.push .warning source message

def error (c : Notifications) (source : ObjectRef) (message : String) : Notifications :=
  c.push .error source message

/-- One collection after another. -/
def extend (c d : Notifications) : Notifications := ⟨c.entries ++ d.entries⟩

def size (c : Notifications) : Nat := c.entries.length

def isEmpty (c : Notifications) : Bool := c.entries.isEmpty

def ofSeverity (c : Notifications) (s : Severity) : List Notification :=
  c.entries.filter fun n => n.severity = s

def count (c : Notifications) (s : Severity) : Nat := (c.ofSeverity s).length

/-- The gravest severity, if there is any notification. -/
def maxSeverity? (c : Notifications) : Option Severity :=
  c.entries.foldl (fun worst n => some (match worst with
    | none => n.severity
    | some s => s.worse n.severity)) none

def report (c : Notifications) : String := String.join (c.entries.map Notification.line)

end Notifications

end IngressGateway
