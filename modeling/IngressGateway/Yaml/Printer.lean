import IngressGateway.Json.Value
import IngressGateway.Yaml.Scalar

/-!
JSON values as YAML in block style. The items of a list stand under their key without a margin of their
own, and lines are never folded. A key that is long or has several lines is written after a question mark.
-/

set_option autoImplicit false

namespace IngressGateway.Yaml

def marginText (n : Nat) : String := String.ofList (spaces n)

mutual

/-- A value from the present place on, its other lines with a margin; it ends with a line end. The scalars
in it stand two columns further to the right. -/
def node (margin : Nat) : Json → String
  | .null => "null\n"
  | .bool b => if b then "true\n" else "false\n"
  | .int n => toString n ++ "\n"
  | .decimal w => w ++ "\n"
  | .str s => scalar margin s
  | .arr items => if items.isEmpty then "[]\n" else listItems margin items
  | .obj members => if members.isEmpty then "\x7b\x7d\n" else mapMembers margin members
termination_by structural j => j

/-- The items of a list, the first one at the present place. -/
def listItems (margin : Nat) : List Json → String
  | [] => ""
  | j :: rest =>
    "- " ++ node (margin + 2) j
      ++ (if rest.isEmpty then "" else marginText margin ++ listItems margin rest)
termination_by structural js => js

/-- The members of a mapping, the first one at the present place. -/
def mapMembers (margin : Nat) : List (String × Json) → String
  | [] => ""
  | m :: rest =>
    mapMember margin m
      ++ (if rest.isEmpty then "" else marginText margin ++ mapMembers margin rest)
termination_by structural ms => ms

def mapMember (margin : Nat) : String × Json → String
  | (key, j) =>
    if canBeShortKey key then keyScalar key ++ ":" ++ afterKey margin j
    else "? " ++ scalar (margin + 2) key ++ marginText margin ++ ": " ++ node (margin + 2) j
termination_by structural m => m

/-- A value after a key and its colon. -/
def afterKey (margin : Nat) : Json → String
  | .null => " null\n"
  | .bool b => if b then " true\n" else " false\n"
  | .int n => " " ++ toString n ++ "\n"
  | .decimal w => " " ++ w ++ "\n"
  | .str s => " " ++ scalar (margin + 2) s
  | .arr items =>
    if items.isEmpty then " []\n" else "\n" ++ marginText margin ++ listItems margin items
  | .obj members =>
    if members.isEmpty then " \x7b\x7d\n"
    else "\n" ++ marginText (margin + 2) ++ mapMembers (margin + 2) members
termination_by structural j => j

end

def document (j : Json) : String := node 0 j

end IngressGateway.Yaml
