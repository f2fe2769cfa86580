import IngressGateway.SortedMap

/-!
JSON values. A number is a whole number of at most 64 bits or is kept as it was written. The members of
an object are a list; `sorted` puts the members of every object into the order of their names.
-/

set_option autoImplicit false

namespace IngressGateway

inductive Json where
  | null
  | bool (b : Bool)
  | int (n : Int)
  | decimal (written : String)
  | str (s : String)
  | arr (items : List Json)
  | obj (members : List (String × Json))
deriving Inhabited, BEq, Repr

namespace Json

/-- The member of that name; the first one counts. -/
def find? (name : String) : List (String × Json) → Option Json
  | [] => none
  | (n, v) :: rest => if n = name then some v else find? name rest

def member? (name : String) : Json → Option Json
  | .obj members => find? name members
  | _ => none

def text? : Json → Option String
  | .str s => some s
  | _ => none

def items? : Json → Option (List Json)
  | .arr items => some items
  | _ => none

mutual

/-- The value with the members of every object in the order of their names. -/
def sorted : Json → Json
  | .arr items => .arr (sortedItems items)
  | .obj members => .obj (SortedMap.ofList (sortedMembers members)).entries
  | .null => .null
  | .bool b => .bool b
  | .int n => .int n
  | .decimal w => .decimal w
  | .str s => .str s
termination_by structural j => j

def sortedItems : List Json → List Json
  | [] => []
  | j :: rest => sorted j :: sortedItems rest
termination_by structural js => js

def sortedMembers : List (String × Json) → List (String × Json)
  | [] => []
  | m :: rest => sortedMember m :: sortedMembers rest
termination_by structural ms => ms

def sortedMember : String × Json → String × Json
  | (name, j) => (name, sorted j)
termination_by structural m => m

end

end Json

end IngressGateway
