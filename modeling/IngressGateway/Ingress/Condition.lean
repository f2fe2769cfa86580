import IngressGateway.Ingress.Action

/-!
Conditions on a request, as they are written: several members of which one should be set, and a value.
`Criterion` is a condition of which that has been checked.
-/

set_option autoImplicit false

namespace IngressGateway.Ingress

structure Condition where
  header : Option String
  cookie : Option String
  argument : Option String
  internal : Option String
  value : String
deriving DecidableEq, Repr

def Condition.record : Record Condition Condition :=
  Condition.mk <$> .optional "header" .text Condition.header
    <*> .optional "cookie" .text Condition.cookie
    <*> .optional "argument" .text Condition.argument
    <*> .optional "variable" .text Condition.internal
    <*> .textOrEmpty "value" Condition.value

inductive Subject where
  | header (name : String)
  | argument (name : String)
  | cookie (name : String)
  | internal (name : String)
deriving DecidableEq, Repr

namespace Subject

def label : Subject → String
  | .header _ => "Header"
  | .argument _ => "Query parameter"
  | .cookie _ => "Cookie"
  | .internal _ => "Variable"

def name : Subject → String
  | .header n => n
  | .argument n => n
  | .cookie n => n
  | .internal n => n

def display (s : Subject) : String := s.label ++ " '" ++ s.name ++ "'"

/-- Whether the subject is a variable of the proxy, which no request carries. -/
def isInternal : Subject → Bool
  | .internal _ => true
  | _ => false

end Subject

/-- The value of a condition: a mark of exclamation in front asks for anything else. -/
structure Wanted where
  pattern : String
  negated : Bool
deriving DecidableEq, Repr

namespace Wanted

/-- The value that a text writes; one mark in front is taken off. -/
def ofText (raw : String) : Wanted :=
  match raw.toList with
  | '!' :: rest => ⟨String.ofList rest, true⟩
  | _ => ⟨raw, false⟩

def isBlank (w : Wanted) : Bool := w.pattern.isEmpty && !w.negated

end Wanted

structure Criterion where
  subject : Subject
  wanted : Wanted
deriving DecidableEq, Repr

/-- Why a condition has no one subject. -/
inductive ConditionError where
  | empty
  | ambiguous (members : List String)
deriving DecidableEq, Repr

def ConditionError.message : ConditionError → String
  | .empty => "condition has none of header, argument, cookie or variable set"
  | .ambiguous members => "condition sets more than one of " ++ ", ".intercalate members

/-- The members of a condition that are set, each with the subject that it names. -/
def Condition.candidates (c : Condition) : List (String × Subject) :=
  [ (Text.present? c.header).map fun n => ("header", .header n),
    (Text.present? c.argument).map fun n => ("argument", .argument n),
    (Text.present? c.cookie).map fun n => ("cookie", .cookie n),
    (Text.present? c.internal).map fun n => ("variable", .internal n) ].filterMap id

/-- The condition with its one subject; exactly one member has to be set and not empty. -/
def Condition.criterion (c : Condition) : Except ConditionError Criterion :=
  match c.candidates with
  | [] => .error .empty
  | [(_, s)] => .ok ⟨s, .ofText c.value⟩
  | several => .error (.ambiguous (several.map Prod.fst))

end IngressGateway.Ingress
