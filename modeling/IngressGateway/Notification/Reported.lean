import IngressGateway.Notification.Basic

/-!
Values with the notifications that came up while they were made. Steps are chained with `do`; a list is
gone through with `Reported.each`, whose values and notifications are those of the steps, in order.
-/

set_option autoImplicit false

namespace IngressGateway

structure Reported (α : Type) where
  value : α
  notes : List Notification
deriving DecidableEq, Repr

namespace Reported

variable {α β : Type}

instance : Monad Reported where
  pure a := ⟨a, []⟩
  bind r f := ⟨(f r.value).value, r.notes ++ (f r.value).notes⟩

def tell (severity : Severity) (source : ObjectRef) (message : String) : Reported Unit :=
  ⟨(), [⟨severity, message, source⟩]⟩

def info (source : ObjectRef) (message : String) : Reported Unit := tell .info source message

def warning (source : ObjectRef) (message : String) : Reported Unit := tell .warning source message

def error (source : ObjectRef) (message : String) : Reported Unit := tell .error source message

def each (items : List α) (step : α → Reported β) : Reported (List β) :=
  ⟨items.map fun a => (step a).value, items.flatMap fun a => (step a).notes⟩

def tellEach (severity : Severity) (source : ObjectRef) (messages : List String) : Reported Unit :=
  ⟨(), messages.map fun m => ⟨severity, m, source⟩⟩

@[simp] theorem value_pure (a : α) : (pure a : Reported α).value = a := rfl

@[simp] theorem notes_pure (a : α) : (pure a : Reported α).notes = [] := rfl

@[simp] theorem value_bind (r : Reported α) (f : α → Reported β) :
    (r >>= f).value = (f r.value).value := rfl

@[simp] theorem notes_bind (r : Reported α) (f : α → Reported β) :
    (r >>= f).notes = r.notes ++ (f r.value).notes := rfl

@[simp] theorem value_map (g : α → β) (r : Reported α) : (g <$> r).value = g r.value := rfl

@[simp] theorem notes_map (g : α → β) (r : Reported α) : (g <$> r).notes = r.notes :=
  List.append_nil _

@[simp] theorem value_each (items : List α) (step : α → Reported β) :
    (each items step).value = items.map fun a => (step a).value := rfl

@[simp] theorem notes_each (items : List α) (step : α → Reported β) :
    (each items step).notes = items.flatMap fun a => (step a).notes := rfl

@[simp] theorem notes_tell (severity : Severity) (source : ObjectRef) (message : String) :
    (tell severity source message).notes = [⟨severity, message, source⟩] := rfl

end Reported

end IngressGateway
