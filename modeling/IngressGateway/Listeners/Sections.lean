import IngressGateway.Json.Codec

/-!
The listeners of the shared gateway that a virtual server is served on.
-/

set_option autoImplicit false

namespace IngressGateway.Listeners

/-- The names of the listeners of a virtual server, and the port of its encrypted site. -/
structure Sections where
  http : Option String
  https : Option String
  httpsPort : Unsigned16
deriving DecidableEq, Repr

namespace Sections

def none : Sections := ⟨.none, .none, .zero⟩

/-- The listener of the site itself: the encrypted one, if there is one. -/
def primary? (s : Sections) : Option String := s.https <|> s.http

/-- Every member may be missing. -/
def record : Record Sections Sections :=
  mk <$> .optional "http" .text http <*> .optional "https" .text https
    <*> .defaulted "httpsPort" .unsigned16 .zero httpsPort

end Sections

end IngressGateway.Listeners
