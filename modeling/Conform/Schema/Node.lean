import Conform.Json.Basic

set_option autoImplicit false

namespace Conform.Schema

inductive Extra (α : Type) where
  | permit (allowed : Bool)
  | schema (node : α)

inductive Demand (α : Type) where
  | keys (names : List String)
  | schema (node : α)

-- A keyword whose value has the wrong kind counts as absent.
structure Assertions where
  title : Option String := none
  description : Option String := none
  reference : Option String := none
  kinds : Option (List Kind) := none
  values : Option (List Json) := none
  maxLength : Option Int := none
  minLength : Option Int := none
  pattern : Option String := none
  multipleOf : Option Number := none
  minimum : Option Number := none
  exclusiveMinimum : Bool := false
  maximum : Option Number := none
  exclusiveMaximum : Bool := false
  minItems : Option Int := none
  maxItems : Option Int := none
  uniqueItems : Bool := false
  maxProperties : Option Int := none
  minProperties : Option Int := none
  required : Option (List String) := none
  format : Option String := none

structure Node where
  own : Assertions := {}
  allOf : Option (List Node) := none
  anyOf : Option (List Node) := none
  oneOf : Option (List Node) := none
  negation : Option Node := none
  items : Option Node := none
  tupleItems : Option (List Node) := none
  additionalItems : Extra Node := .permit true
  properties : Option (List (String × Node)) := none
  patternProperties : Option (List (String × Node)) := none
  additionalProperties : Option (Extra Node) := none
  dependencies : Option (List (String × Demand Node)) := none

instance : Inhabited Node := ⟨{}⟩

def Node.speaksOfMembers (node : Node) : Bool :=
  node.properties.isSome || node.patternProperties.isSome || node.additionalProperties.isSome

end Conform.Schema

namespace Conform.Json

def asString? : Json → Option String
  | .string s => some s
  | _ => none

def asNumber? : Json → Option Number
  | .number n => some n
  | _ => none

def asInt? : Json → Option Int
  | .number n => n.toInt?
  | _ => none

def isTrue : Json → Bool
  | .bool b => b
  | _ => false

def asItems? : Json → Option (List Json)
  | .array items => some items
  | _ => none

def asStrings? (value : Json) : Option (List String) :=
  value.asItems?.map fun items => items.filterMap asString?

def asKinds? : Json → Option (List Kind)
  | .string name => some (Kind.ofName? name).toList
  | .array items =>
      let named := items.filterMap fun item => item.asString?.bind Kind.ofName?
      some (Kind.all.filter named.contains)
  | _ => none

end Conform.Json

namespace Conform.Schema

-- A value together with what it means where schemas are expected: the schema that it is, the schemas
-- that it lists, the schemas that it names, and the demands that its keys make.
structure Reading where
  value : Json
  node : Node := {}
  list : Option (List Node) := none
  named : Option (List (String × Node)) := none
  demands : Option (List (String × Demand Node)) := none

namespace Reading

def object? (r : Reading) : Option Node :=
  match r.value with
  | .object _ => some r.node
  | _ => none

def extra? (r : Reading) : Option (Extra Node) :=
  match r.value with
  | .bool b => some (.permit b)
  | .object _ => some (.schema r.node)
  | _ => none

def demand? (r : Reading) : Option (Demand Node) :=
  match r.value with
  | .object _ => some (.schema r.node)
  | value => value.asStrings?.map .keys

end Reading

def assertions (members : List (String × Json)) : Assertions where
  title := (member? "title" members).bind Json.asString?
  description := (member? "description" members).bind Json.asString?
  reference := (member? "$ref" members).bind Json.asString?
  kinds := (member? "type" members).bind Json.asKinds?
  values := (member? "enum" members).bind Json.asItems?
  maxLength := (member? "maxLength" members).bind Json.asInt?
  minLength := (member? "minLength" members).bind Json.asInt?
  pattern := (member? "pattern" members).bind Json.asString?
  multipleOf := (member? "multipleOf" members).bind Json.asNumber?
  minimum := (member? "minimum" members).bind Json.asNumber?
  exclusiveMinimum := (member? "exclusiveMinimum" members).any Json.isTrue
  maximum := (member? "maximum" members).bind Json.asNumber?
  exclusiveMaximum := (member? "exclusiveMaximum" members).any Json.isTrue
  minItems := (member? "minItems" members).bind Json.asInt?
  maxItems := (member? "maxItems" members).bind Json.asInt?
  uniqueItems := (member? "uniqueItems" members).any Json.isTrue
  maxProperties := (member? "maxProperties" members).bind Json.asInt?
  minProperties := (member? "minProperties" members).bind Json.asInt?
  required := (member? "required" members).bind Json.asStrings?
  format := (member? "format" members).bind Json.asString?

def assemble (members : List (String × Json)) (readings : List (String × Reading)) : Node where
  own := assertions members
  allOf := (member? "allOf" readings).bind (·.list)
  anyOf := (member? "anyOf" readings).bind (·.list)
  oneOf := (member? "oneOf" readings).bind (·.list)
  negation := (member? "not" readings).bind (·.object?)
  items := (member? "items" readings).bind (·.object?)
  tupleItems := (member? "items" readings).bind (·.list)
  additionalItems := ((member? "additionalItems" readings).bind (·.extra?)).getD (.permit true)
  properties := (member? "properties" readings).bind (·.named)
  patternProperties := (member? "patternProperties" readings).bind (·.named)
  additionalProperties := (member? "additionalProperties" readings).bind (·.extra?)
  dependencies := (member? "dependencies" readings).bind (·.demands)

mutual
def read : Json → Reading
  | .array items => { value := .array items, list := some (readItems items) }
  | .object members =>
      let readings := readMembers members
      { value := .object members
        node := assemble members readings
        named := some (readings.map fun (key, r) => (key, r.node))
        demands := some (readings.filterMap fun (key, r) => r.demand?.map fun demand => (key, demand)) }
  | value => { value := value }

def readItems : List Json → List Node
  | [] => []
  | item :: rest => (read item).node :: readItems rest

def readMembers : List (String × Json) → List (String × Reading)
  | [] => []
  | (key, value) :: rest => (key, read value) :: readMembers rest
end

def Node.decode (value : Json) : Node :=
  (read value).node

end Conform.Schema
