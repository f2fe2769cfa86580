import IngressGateway.Json.Value

/-!
Values written as JSON and read back. A `Codec` holds both directions of a type; a `Record` holds both
directions of a structure, member by member, and is put together from its members as the structure is
put together from its fields. So what a structure writes and what it reads cannot drift apart.

A member that may be missing counts null as missing. Where a record, a list or a map is wanted, null is
refused or taken for an empty one: that is the reader's `NullRule`.
-/

set_option autoImplicit false

namespace IngressGateway

/-- What null stands for where a record, a list or a map is wanted. -/
inductive NullRule where
  | refused
  | empty
deriving DecidableEq, Repr

structure Codec (α : Type) where
  write : α → Json
  read : NullRule → Json → Option α

abbrev Bounded (lo hi : Int) := { n : Int // lo ≤ n ∧ n ≤ hi }

/-- Numbers of sixteen bits without a sign. -/
abbrev Unsigned16 := Bounded 0 65535

abbrev Signed32 := Bounded (-2147483648) 2147483647

abbrev Signed64 := Bounded (-9223372036854775808) 9223372036854775807

def Unsigned16.zero : Unsigned16 := ⟨0, by decide⟩

def Signed32.zero : Signed32 := ⟨0, by decide⟩

def Unsigned16.toSigned32 (n : Unsigned16) : Signed32 :=
  ⟨n.val, by have := n.property; omega⟩

def Unsigned16.toSigned64 (n : Unsigned16) : Signed64 :=
  ⟨n.val, by have := n.property; omega⟩

namespace Codec

variable {α : Type}

def any : Codec Json := ⟨id, fun _ j => some j⟩

def text : Codec String where
  write := .str
  read _ j := j.text?

def flag : Codec Bool where
  write := .bool
  read
    | _, .bool b => some b
    | _, _ => none

def bounded (lo hi : Int) : Codec (Bounded lo hi) where
  write n := .int n.val
  read
    | _, .int n => if h : lo ≤ n ∧ n ≤ hi then some ⟨n, h⟩ else none
    | _, _ => none

def unsigned16 : Codec Unsigned16 := bounded _ _

def signed32 : Codec Signed32 := bounded _ _

def signed64 : Codec Signed64 := bounded _ _

/-- A value out of a list of named ones. It may also be written as an object whose only member has the
name of the value and is null. -/
def named (name : α → String) (values : List α) : Codec α where
  write a := .str (name a)
  read
    | _, .str s => values.find? fun a => name a = s
    | _, .obj [(s, .null)] => values.find? fun a => name a = s
    | _, _ => none

def itemsOf? : NullRule → Json → Option (List Json)
  | _, .arr items => some items
  | .empty, .null => some []
  | _, _ => none

def membersOf? : NullRule → Json → Option (List (String × Json))
  | _, .obj members => some members
  | .empty, .null => some []
  | _, _ => none

def list (c : Codec α) : Codec (List α) where
  write as := .arr (as.map c.write)
  read rule j := (itemsOf? rule j).bind fun items => items.mapM (c.read rule)

def map (c : Codec α) : Codec (SortedMap String α) where
  write m := .obj (m.entries.map fun e => (e.1, c.write e.2))
  read rule j :=
    (membersOf? rule j).bind fun members =>
      (members.mapM fun e => (c.read rule e.2).map fun a => (e.1, a)).map SortedMap.ofList

end Codec

/-- Both directions of a part `α` of a structure `σ` that is written as members of an object. It can be
read from the members of an object, by their names, and from the items of a list, by their order; `take`
gives the items that are left. A member counts as missing where the list has come to its end. -/
structure Record (σ α : Type) where
  write : σ → List (String × Json)
  read : NullRule → List (String × Json) → Option α
  take : NullRule → List Json → Option (α × List Json)

namespace Record

variable {σ τ α β : Type}

/-- The record without members. -/
def of (a : α) : Record σ α := ⟨fun _ => [], fun _ _ => some a, fun _ items => some (a, items)⟩

/-- The members of two records, the second one giving the argument of the first one. -/
def apply (r : Record σ (α → β)) (s : Record σ α) : Record σ β where
  write x := r.write x ++ s.write x
  read rule members := (r.read rule members).bind fun f => (s.read rule members).map f
  take rule items := (r.take rule items).bind fun (f, items) =>
    (s.take rule items).map fun (a, rest) => (f a, rest)

instance : Functor (Record σ) where
  map f r :=
    ⟨r.write, fun rule members => (r.read rule members).map f,
      fun rule items => (r.take rule items).map fun (a, rest) => (f a, rest)⟩

instance : Pure (Record σ) := ⟨of⟩

instance : Seq (Record σ) := ⟨fun r s => apply r (s ())⟩

/-- A member, read by `read` from its value or from nothing. -/
def member (name : String) (write : σ → List (String × Json))
    (read : NullRule → Option Json → Option α) : Record σ α where
  write := write
  read rule members := read rule (Json.find? name members)
  take rule items := (read rule items.head?).map fun a => (a, items.tail)

def required (name : String) (c : Codec α) (get : σ → α) : Record σ α :=
  member name (fun x => [(name, c.write (get x))]) fun rule j? => j?.bind (c.read rule)

/-- A member that may be missing or null. -/
def optional (name : String) (c : Codec α) (get : σ → Option α) : Record σ (Option α) :=
  member name (fun x => ((get x).map fun a => (name, c.write a)).toList) fun rule j? =>
    match j? with
    | none | some .null => some none
    | some j => (c.read rule j).map some

/-- A member with a value for when it is missing; it is always written. -/
def defaulted (name : String) (c : Codec α) (fallback : α) (get : σ → α) : Record σ α :=
  member name (fun x => [(name, c.write (get x))]) fun rule j? =>
    match j? with
    | none => some fallback
    | some j => c.read rule j

/-- A member with a value for when it is missing; that value is not written. -/
def omitted (name : String) (c : Codec α) (fallback : α) (isFallback : α → Bool)
    (get : σ → α) : Record σ α :=
  member name (fun x => if isFallback (get x) then [] else [(name, c.write (get x))]) fun rule j? =>
    match j? with
    | none => some fallback
    | some j => c.read rule j

/-- A list that is left out when it is empty. -/
def items (name : String) (c : Codec α) (get : σ → List α) : Record σ (List α) :=
  omitted name c.list [] List.isEmpty get

/-- A text that is left out when it is empty. -/
def textIfAny (name : String) (get : σ → String) : Record σ String :=
  omitted name Codec.text "" String.isEmpty get

/-- A text that is empty when it is missing. -/
def textOrEmpty (name : String) (get : σ → String) : Record σ String :=
  defaulted name Codec.text "" get

/-- A flag that is off when it is missing. -/
def flagOrOff (name : String) (get : σ → Bool) : Record σ Bool :=
  defaulted name Codec.flag false get

def within (get : τ → σ) (r : Record σ α) : Record τ α := ⟨fun x => r.write (get x), r.read, r.take⟩

/-- What a value of a structure reads as, by the names of members only. -/
def readNamed (r : Record σ α) (rule : NullRule) (j : Json) : Option α :=
  (Codec.membersOf? rule j).bind (r.read rule)

/-- What a value of a structure reads as. A list may hold no more items than there are members. -/
def readValue (r : Record σ α) (rule : NullRule) : Json → Option α
  | .arr items =>
    match r.take rule items with
    | some (a, []) => some a
    | _ => none
  | j => r.readNamed rule j

def codec (r : Record σ σ) : Codec σ := ⟨fun x => .obj (r.write x), r.readValue⟩

/-- A structure as an object, which is not read from a list. -/
def namedCodec (r : Record σ σ) : Codec σ := ⟨fun x => .obj (r.write x), r.readNamed⟩

end Record

end IngressGateway
