import Conform.Number.Basic

set_option autoImplicit false

namespace Conform

inductive Json where
  | null
  | bool (value : Bool)
  | number (value : Number)
  | string (value : String)
  | array (items : List Json)
  | object (members : List (String × Json))
deriving Inhabited

inductive Kind where
  | object
  | array
  | string
  | integer
  | number
  | boolean
  | null
deriving DecidableEq, Repr

namespace Kind

def all : List Kind :=
  [.object, .array, .string, .integer, .number, .boolean, .null]

def name : Kind → String
  | .object => "object"
  | .array => "array"
  | .string => "string"
  | .integer => "integer"
  | .number => "number"
  | .boolean => "boolean"
  | .null => "null"

def ofName? (name : String) : Option Kind :=
  all.find? fun kind => kind.name == name

end Kind

def member? {α : Type} (key : String) : List (String × α) → Option α
  | [] => none
  | (k, v) :: rest => if k = key then some v else member? key rest

def hasMember {α : Type} (key : String) (members : List (String × α)) : Bool :=
  (member? key members).isSome

-- Sets a member: a new key goes to the end, a present key keeps its place.
def setMember {α : Type} (key : String) (value : α) : List (String × α) → List (String × α)
  | [] => [(key, value)]
  | (k, v) :: rest => if k = key then (k, value) :: rest else (k, v) :: setMember key value rest

namespace Json

def kinds : Json → List Kind
  | .null => [.null]
  | .bool _ => [.boolean]
  | .number n => if n.isIntegral then [.integer, .number] else [.number]
  | .string _ => [.string]
  | .array _ => [.array]
  | .object _ => [.object]

def sameKeys (left right : List (String × Json)) : Bool :=
  left.all (fun entry => hasMember entry.1 right) && right.all (fun entry => hasMember entry.1 left)

mutual
def same : Json → Json → Bool
  | .null, .null => true
  | .bool a, .bool b => a == b
  | .number a, .number b => a.equal b
  | .string a, .string b => a == b
  | .array left, .array right => sameItems left right
  | .object left, .object right => sameKeys left right && sameMembers left right
  | _, _ => false

def sameItems : List Json → List Json → Bool
  | [], [] => true
  | a :: left, b :: right => same a b && sameItems left right
  | _, _ => false

def sameMembers : List (String × Json) → List (String × Json) → Bool
  | [], _ => true
  | (key, value) :: rest, right =>
      (match member? key right with
        | some other => same value other
        | none => false) && sameMembers rest right
end

mutual
def depth : Json → Nat
  | .array items => depthItems items + 1
  | .object members => depthMembers members + 1
  | _ => 0

def depthItems : List Json → Nat
  | [] => 0
  | item :: rest => max (depth item) (depthItems rest)

def depthMembers : List (String × Json) → Nat
  | [] => 0
  | (_, value) :: rest => max (depth value) (depthMembers rest)
end

end Json

end Conform
