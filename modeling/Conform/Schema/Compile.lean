import Conform.Formats
import Conform.Reference
import Conform.Schema.Node
import Conform.Schema.Scope

set_option autoImplicit false

namespace Conform.Schema

structure Context where
  document : Json
  formats : Formats

abbrev Expansion := Scope → String → Traced Check

def whenGiven {α : Type} (value : Option α) (check : α → Check) : Traced (List Check) :=
  match value with
  | none => .result []
  | some a => .result [check a]

-- A limit is written into the message of its check as soon as the check is made.
def whenWritten {α : Type} (value : Option α) (shown : α → List Number) (check : α → Check) : Traced (List Check) :=
  match value with
  | none => .result []
  | some a => do
      Keyword.write (shown a)
      return [check a]

def whenSized (size : Option Int) (check : Int → Json → Findings) : Traced (List Check) :=
  whenWritten size (fun n => [.integer n]) fun n => Check.ofFindings (check n)

def referenceChecks (refer : Expansion) (scope : Scope) (reference : Option String) : Traced (List Check) :=
  match reference with
  | none => .result []
  | some r => do return [← refer scope r]

def patternChecks (source : Option String) : Traced (List Check) :=
  match source with
  | none => .result []
  | some s => do return [← Keyword.pattern s]

def formatChecks (formats : Formats) (name : Option String) : Traced (List Check) :=
  match name with
  | none => .result []
  | some format =>
      match formats.find? format with
      | some check => .result [check]
      | none => do
          Logged.note .warning .compiler ("Unsupported format '" ++ format ++ "' in schema")
          return [Check.reject ("'format' validation of '" ++ format ++ "' is not supported")]

def atMost (limit : Int) (count : Int) : Bool :=
  count ≤ limit

def atLeast (limit : Int) (count : Int) : Bool :=
  limit ≤ count

def plainChecks (own : Assertions) : List (Traced (List Check)) :=
  [ whenGiven own.values Keyword.enumCheck,
    whenSized own.maxLength fun n => Keyword.length (atMost n) s!"Length of string is larger than max length {n}",
    whenSized own.minLength fun n =>
      Keyword.length (atLeast n) s!"Length of string is smaller than minimum length {n}",
    patternChecks own.pattern,
    whenWritten own.multipleOf Keyword.badDivisors Keyword.multipleOf,
    whenWritten own.minimum (fun n => [n]) fun n => Check.ofFindings (Keyword.minimum n own.exclusiveMinimum),
    whenWritten own.maximum (fun n => [n]) fun n => Check.ofFindings (Keyword.maximum n own.exclusiveMaximum),
    whenSized own.minItems fun n =>
      Keyword.itemCount (atLeast n) s!"Length of array is smaller than the minimum {n}",
    whenSized own.maxItems fun n => Keyword.itemCount (atMost n) s!"Length of array is greater than maximum {n}",
    whenGiven (if own.uniqueItems then some () else none) fun _ => Keyword.uniqueItemsCheck ]

def memberChecks (own : Assertions) : List (Traced (List Check)) :=
  [ whenSized own.maxProperties fun n =>
      Keyword.memberCount (atMost n) s!"Amount of properties is greater than maximum permitted {n}",
    whenSized own.minProperties fun n =>
      Keyword.memberCount (atLeast n) s!"Amount of properties is less than the required amount {n}",
    whenGiven own.required fun keys => Check.ofFindings (Keyword.required keys) ]

def permitted (allowed : Bool) (message : String) : Check :=
  if allowed then Check.accept else Check.reject message

def noMoreItems : String :=
  "Additional items are not permitted in this array"

def noMoreProperties : String :=
  "Additional properties are not permitted in this object"

mutual
def Node.checks (formats : Formats) (refer : Expansion) (node : Node) (scope : Scope) : Traced (List Check) :=
  match node with
  | ⟨own, allOf, anyOf, oneOf, negation, items, tupleItems, additionalItems, properties, patternProperties,
      additionalProperties, dependencies⟩ =>
      Logged.joined
        ([ referenceChecks refer scope own.reference,
           whenGiven own.kinds Keyword.typeCheck,
           combinedChecks formats refer Check.all allOf scope,
           combinedChecks formats refer Check.any anyOf scope,
           combinedChecks formats refer Check.one oneOf scope,
           negatedChecks formats refer negation scope ]
          ++ plainChecks own ++
         [ (match items, tupleItems with
            | some item, _ => do return [Check.items (Check.all (← item.checks formats refer scope.descend))]
            | none, some nodes => do
                let checks ← checkList formats refer nodes scope.descend
                let rest ← checkExtra formats refer noMoreItems additionalItems scope.descend
                return [Check.tuple checks rest]
            | none, none => .result []) ]
          ++ memberChecks own ++
         [ (if properties.isSome || patternProperties.isSome || additionalProperties.isSome then do
              let declared ← checkNamed formats refer properties scope.descend
              let patterns ← checkNamed formats refer patternProperties scope.descend
              let rest ← checkRest formats refer additionalProperties scope.descend
              return [← Keyword.properties declared patterns rest]
            else .result []),
           demandChecks formats refer dependencies scope,
           formatChecks formats own.format ])
termination_by structural node

def checkList (formats : Formats) (refer : Expansion) (nodes : List Node) (scope : Scope) :
    Traced (List Check) :=
  match nodes with
  | [] => .result []
  | node :: rest => do
      let checks ← node.checks formats refer scope
      let others ← checkList formats refer rest scope
      return Check.all checks :: others
termination_by structural nodes

def combinedChecks (formats : Formats) (refer : Expansion) (combine : List Check → Check)
    (nodes : Option (List Node)) (scope : Scope) : Traced (List Check) :=
  match nodes with
  | none => .result []
  | some nodes => do return [combine (← checkList formats refer nodes scope)]
termination_by structural nodes

def negatedChecks (formats : Formats) (refer : Expansion) (negation : Option Node) (scope : Scope) :
    Traced (List Check) :=
  match negation with
  | none => .result []
  | some node => do return [Check.negate (Check.all (← node.checks formats refer scope))]
termination_by structural negation

def checkExtra (formats : Formats) (refer : Expansion) (message : String) (extra : Extra Node) (scope : Scope) :
    Traced Check :=
  match extra with
  | .permit allowed => .result (permitted allowed message)
  | .schema node => do return Check.all (← node.checks formats refer scope)
termination_by structural extra

def checkRest (formats : Formats) (refer : Expansion) (extra : Option (Extra Node)) (scope : Scope) :
    Traced Check :=
  match extra with
  | none => .result Check.accept
  | some extra => checkExtra formats refer noMoreProperties extra scope
termination_by structural extra

def checkEntries (formats : Formats) (refer : Expansion) (nodes : List (String × Node)) (scope : Scope) :
    Traced (List (String × Check)) :=
  match nodes with
  | [] => .result []
  | (key, node) :: rest => do
      let checks ← node.checks formats refer scope
      let others ← checkEntries formats refer rest scope
      return (key, Check.all checks) :: others
termination_by structural nodes

def checkNamed (formats : Formats) (refer : Expansion) (nodes : Option (List (String × Node))) (scope : Scope) :
    Traced (List (String × Check)) :=
  match nodes with
  | none => .result []
  | some nodes => checkEntries formats refer nodes scope
termination_by structural nodes

def checkDemands (formats : Formats) (refer : Expansion) (demands : List (String × Demand Node))
    (scope : Scope) : Traced (List Check) :=
  match demands with
  | [] => .result []
  | (key, .keys names) :: rest => do
      let others ← checkDemands formats refer rest scope
      return Check.ofFindings (Keyword.dependency key names) :: others
  | (key, .schema node) :: rest => do
      let checks ← node.checks formats refer scope
      let others ← checkDemands formats refer rest scope
      return Check.whenPresent key (Check.all checks) :: others
termination_by structural demands

def demandChecks (formats : Formats) (refer : Expansion) (demands : Option (List (String × Demand Node)))
    (scope : Scope) : Traced (List Check) :=
  match demands with
  | none => .result []
  | some demands => checkDemands formats refer demands scope
termination_by structural demands
end

def Node.check (formats : Formats) (refer : Expansion) (node : Node) (scope : Scope) : Traced Check := do
  return Check.all (← node.checks formats refer scope)

def circularMessage (reference : String) : String :=
  "Circular $ref '" ++ reference ++ "' does not descend into the value"

-- A reference that would be expanded forever. The warning and the check that rejects everything come
-- together.
def circular (reference : String) : Traced Check := do
  Logged.note .warning .reference (circularMessage reference)
  return Check.reject (circularMessage reference)

def complaint (reference : String) : Reference.Fault → Traced String
  | .tooManyDigits count => .fault (.tooManyDigits (some count))
  | fault => do
      Logged.note .warning .reference ("Unresolvable $ref: " ++ fault.message reference)
      return fault.message reference

def unresolved (reference : String) (fault : Reference.Fault) : Traced Check := do
  return Check.reject (← complaint reference fault)

-- The check of a reference. The budget bounds how many references are expanded inside each other, and
-- `later` is the check of a reference whose expansion waits.
def expand (context : Context) (later : String → Node → Check) : Nat → Expansion
  | 0, _, _ => .fault .exhausted
  | budget + 1, scope, reference =>
      if scope.level.contains reference then circular reference
      else
        match Reference.resolve context.document reference with
        | .error fault => unresolved reference fault
        | .ok target =>
            let node := Node.decode target
            if scope.stack.contains reference then return later reference node
            else node.check context.formats (expand context later budget) (scope.enter reference)

end Conform.Schema

namespace Conform.Json

mutual
def references : Json → List String
  | .array items => referencesOfItems items
  | .object members => referencesOfMembers members
  | _ => []

def referencesOfItems : List Json → List String
  | [] => []
  | item :: rest => references item ++ referencesOfItems rest

def referencesOfMembers : List (String × Json) → List String
  | [] => []
  | (key, value) :: rest =>
      (if key = "$ref" then value.asString?.toList else []) ++ references value ++ referencesOfMembers rest
end

end Conform.Json

namespace Conform.Schema

-- No chain of references inside each other is longer than this: each is a reference of the document,
-- save the first, and none but the last comes twice.
def Context.budget (context : Context) : Nat :=
  context.document.references.length + 2

def expandLater (context : Context) (budget : Nat) : Nat → String → Node → Check
  | 0, _, _ => fun _ => .fault .exhausted
  | depth + 1, reference, node => fun value => do
      let check ← node.check context.formats (expand context (expandLater context budget depth) budget)
        (Scope.restart reference)
      check value

-- The check of a reference that waited. A reference waits again only at a part of the value.
def later (context : Context) (reference : String) (node : Node) : Check :=
  fun value => expandLater context context.budget (value.depth + 1) reference node value

def refer (context : Context) : Expansion :=
  expand context (later context) context.budget

end Conform.Schema
