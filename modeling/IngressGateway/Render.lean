import IngressGateway.Bundle
import IngressGateway.Json.Printer
import IngressGateway.Yaml.Printer

/-!
Printing a bundle: as one list in JSON or as one YAML document for each object. The members of every
object are printed in the order of their names.
-/

set_option autoImplicit false

namespace IngressGateway

inductive OutputFormat where
  | yaml
  | json
deriving DecidableEq, Repr

namespace OutputFormat

def all : List OutputFormat := [.yaml, .json]

def label : OutputFormat → String
  | .yaml => "yaml"
  | .json => "json"

def ofLabel? (s : String) : Option OutputFormat := all.find? fun f => f.label = s

end OutputFormat

namespace Bundle

def collected (b : Bundle) : List Json := b.objects.map fun o => o.write.sorted

def asList (b : Bundle) : Json :=
  .obj [("apiVersion", .str "v1"), ("items", .arr b.collected), ("kind", .str "List")]

def render (b : Bundle) : OutputFormat → String
  | .json => Json.pretty 0 b.asList ++ "\n"
  | .yaml => "---\n".intercalate (b.collected.map Yaml.document)

end Bundle

end IngressGateway
