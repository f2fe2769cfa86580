import IngressGateway.Gateway.Route
import IngressGateway.Notification.Reported
import IngressGateway.Text.Blank
import IngressGateway.Text.Cut

/-!
Path matches for the paths of routes. A modifier in front of the path says how it is compared: a tilde
for a regular expression, with a star after it in any letter case, and an equals sign for the whole path.
-/

set_option autoImplicit false

namespace IngressGateway.Matching

open Gateway (PathMatch PathMatchType MethodMatch)

def pathOf (type : PathMatchType) (value : String) : PathMatch := ⟨some type, some value⟩

def readPath (path : String) : PathMatch :=
  match path.toList with
  | '~' :: '*' :: rest => pathOf .regularExpression ("(?i)" ++ Text.trimStart (String.ofList rest))
  | '~' :: rest => pathOf .regularExpression (Text.trimStart (String.ofList rest))
  | '=' :: rest => pathOf .exact (Text.trimStart (String.ofList rest))
  | [] => pathOf .pathPrefix "/"
  | _ => pathOf .pathPrefix path

/-- Whether a path asks for a regular expression in any letter case. -/
def ignoresCase (path : String) : Bool := (Text.stripStart? ['~', '*'] path.toList).isSome

/-- The match for a path, with a remark if letter case is ignored. -/
def translatePath (path : String) (source : ObjectRef) : Reported PathMatch := do
  if ignoresCase path then
    Reported.info source
      s!"Case-insensitive regex path '{path}' converted with an inline (?i) flag"
  return readPath path

/-- The method that a path `/package.Service/Method` names. -/
def methodOfPath? (path : String) : Option MethodMatch :=
  match Text.trim '/' path.toList with
  | [] => none
  | trimmed =>
    match Text.cutLast? '/' trimmed with
    | some (service, method) =>
      some ⟨some .exact, some (String.ofList service),
        if method = [] then none else some (String.ofList method)⟩
    | none => some ⟨some .exact, some (String.ofList trimmed), none⟩

/-- The method match for a path match; regular expressions and bare slashes have none. -/
def translateMethod (path : Option PathMatch) (source : ObjectRef) :
    Reported (Option MethodMatch) :=
  match path with
  | some ⟨type, some value⟩ =>
    if type = some .regularExpression then do
      Reported.info source
        (s!"Regex path '{value}' cannot be expressed as a gRPC method match "
          ++ "and matches all methods")
      return none
    else return methodOfPath? value
  | _ => return none

end IngressGateway.Matching
