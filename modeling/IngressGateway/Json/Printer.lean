import IngressGateway.Json.Value
import IngressGateway.Text.Digits

/-!
Writing JSON text: on one line, or over several lines with two spaces for each level and an empty list
or object kept on its line.
-/

set_option autoImplicit false

namespace IngressGateway.Json

def escaped (c : Char) : List Char :=
  match c with
  | '"' => ['\\', '"']
  | '\\' => ['\\', '\\']
  | '\n' => ['\\', 'n']
  | '\r' => ['\\', 'r']
  | '\t' => ['\\', 't']
  | '\x08' => ['\\', 'b']
  | '\x0c' => ['\\', 'f']
  | c => if c.toNat < 0x20 then '\\' :: 'u' :: Text.hexOf Text.smallHexDigits 4 c.toNat else [c]

/-- A number that was not kept as a whole one. It is written as a fraction, so that it is none to any
reader. -/
def decimalText (written : String) : String :=
  if written.toList.all fun c => c.isDigit || c = '-' then written ++ ".0" else written

def quoted (s : String) : String := "\"" ++ String.ofList (s.toList.flatMap escaped) ++ "\""

mutual

def compact : Json → String
  | .null => "null"
  | .bool b => if b then "true" else "false"
  | .int n => toString n
  | .decimal w => decimalText w
  | .str s => quoted s
  | .arr items => "[" ++ compactItems items ++ "]"
  | .obj members => "\x7b" ++ compactMembers members ++ "\x7d"
termination_by structural j => j

def compactItems : List Json → String
  | [] => ""
  | j :: rest => compact j ++ (if rest.isEmpty then "" else ",") ++ compactItems rest
termination_by structural js => js

def compactMembers : List (String × Json) → String
  | [] => ""
  | m :: rest => compactMember m ++ (if rest.isEmpty then "" else ",") ++ compactMembers rest
termination_by structural ms => ms

def compactMember : String × Json → String
  | (name, j) => quoted name ++ ":" ++ compact j
termination_by structural m => m

end

/-- The start of a line at a level. -/
def margin (level : Nat) : String := String.ofList (List.replicate (2 * level) ' ')

mutual

/-- The value over several lines, its first line at the present place and the others at a level. -/
def pretty (level : Nat) : Json → String
  | .null => "null"
  | .bool b => if b then "true" else "false"
  | .int n => toString n
  | .decimal w => decimalText w
  | .str s => quoted s
  | .arr items =>
    if items.isEmpty then "[]"
    else "[\n" ++ prettyItems (level + 1) items ++ margin level ++ "]"
  | .obj members =>
    if members.isEmpty then "\x7b\x7d"
    else "\x7b\n" ++ prettyMembers (level + 1) members ++ margin level ++ "\x7d"
termination_by structural j => j

def prettyItems (level : Nat) : List Json → String
  | [] => ""
  | j :: rest =>
    margin level ++ pretty level j ++ (if rest.isEmpty then "\n" else ",\n")
      ++ prettyItems level rest
termination_by structural js => js

def prettyMembers (level : Nat) : List (String × Json) → String
  | [] => ""
  | m :: rest =>
    margin level ++ prettyMember level m ++ (if rest.isEmpty then "\n" else ",\n")
      ++ prettyMembers level rest
termination_by structural ms => ms

def prettyMember (level : Nat) : String × Json → String
  | (name, j) => quoted name ++ ": " ++ pretty level j
termination_by structural m => m

end

end IngressGateway.Json
