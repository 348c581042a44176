import Conform.Proofs.Links

set_option autoImplicit false

namespace Conform

def Json.Affirmative (document : Json) : Prop :=
  ∀ members, Contains document (.object members) → hasMember "not" members = false ∧ hasMember "oneOf" members = false

namespace Json

theorem affirmative_iff (value : Json) : value.Affirmative ↔
    (∀ members, value = .object members → hasMember "not" members = false ∧ hasMember "oneOf" members = false) ∧
      ∀ part ∈ value.parts, part.Affirmative := by
  constructor
  · intro affirmative
    constructor
    · rintro members rfl
      exact affirmative members (.self _)
    · exact fun part member members contained => affirmative members (.part member contained)
  · rintro ⟨own, parts⟩ members contained
    cases contained with
    | self => exact own members rfl
    | part member inner => exact parts _ member members inner

@[simp] theorem affirmative_object (members : List (String × Json)) : (object members).Affirmative ↔
    (hasMember "not" members = false ∧ hasMember "oneOf" members = false) ∧ ∀ entry ∈ members, entry.2.Affirmative := by
  rw [affirmative_iff]
  have inside : (∀ part ∈ (object members).parts, part.Affirmative) ↔ ∀ entry ∈ members, entry.2.Affirmative :=
    List.forall_mem_map
  rw [inside]
  simp

@[simp] theorem affirmative_array (items : List Json) : (array items).Affirmative ↔ ∀ item ∈ items, item.Affirmative := by
  rw [affirmative_iff]
  simp [parts]

@[simp] theorem affirmative_string (text : String) : (string text).Affirmative := by
  rw [affirmative_iff]
  simp [parts]

end Json

def Pattern.Finds (source text : String) : Prop :=
  ∃ pattern, Pattern.compile source = .ok pattern ∧ pattern.found? text = some true

namespace Schema

def Node.leaves (formats : Formats) (node : Node) : List (Traced (List Check)) :=
  (whenGiven node.own.kinds Keyword.typeCheck) :: plainChecks node.own
    ++ memberChecks node.own ++ [formatChecks formats node.own.format]

def Node.LeavesHold (formats : Formats) (node : Node) (value : Json) : Prop :=
  ∀ group ∈ node.leaves formats, ∀ checks, group.outcome = .ok checks → ∀ check ∈ checks, (check value).outcome = .ok []

def Node.Names (node : Node) (key : String) : Prop :=
  hasMember key (node.properties.getD []) = true ∨
    ∃ entry ∈ node.patternProperties.getD [], Pattern.Finds entry.1 key

inductive Node.AsksOfItems (node : Node) (items : List Json) : Node → Json → Prop where
  | each {inner : Node} {item : Json} (given : node.items = some inner) (member : item ∈ items) :
      AsksOfItems node items inner item
  | position {nodes : List Node} {inner : Node} {item : Json} (single : node.items = none)
      (given : node.tupleItems = some nodes) (paired : (inner, item) ∈ nodes.zip items) :
      AsksOfItems node items inner item
  | further {nodes : List Node} {inner : Node} {item : Json} (single : node.items = none)
      (given : node.tupleItems = some nodes) (extra : node.additionalItems = .schema inner)
      (member : item ∈ items.drop nodes.length) : AsksOfItems node items inner item

inductive Node.AsksOfMembers (node : Node) (members : List (String × Json)) : Node → Json → Prop where
  | named {key : String} {inner : Node} {value : Json} (member : (key, value) ∈ members)
      (given : member? key (node.properties.getD []) = some inner) : AsksOfMembers node members inner value
  | matched {key source : String} {inner : Node} {value : Json} (member : (key, value) ∈ members)
      (given : (source, inner) ∈ node.patternProperties.getD []) (found : Pattern.Finds source key) :
      AsksOfMembers node members inner value
  | further {key : String} {inner : Node} {value : Json} (member : (key, value) ∈ members)
      (unnamed : ¬ node.Names key) (extra : node.additionalProperties = some (.schema inner)) :
      AsksOfMembers node members inner value

inductive Node.Asks (node : Node) : Json → Node → Json → Prop where
  | all {inner : Node} {value : Json} (member : inner ∈ node.allOf.getD []) : Asks node value inner value
  | demand {key : String} {inner : Node} {members : List (String × Json)}
      (given : (key, .schema inner) ∈ node.dependencies.getD []) (present : hasMember key members = true) :
      Asks node (.object members) inner (.object members)
  | items {inner : Node} {item : Json} {items : List Json} (asked : node.AsksOfItems items inner item) :
      Asks node (.array items) inner item
  | members {inner : Node} {value : Json} {members : List (String × Json)}
      (asked : node.AsksOfMembers members inner value) : Asks node (.object members) inner value

def Node.PermitsItems (node : Node) (items : List Json) : Prop :=
  ∀ nodes, node.items = none → node.tupleItems = some nodes → node.additionalItems = .permit false →
    items.drop nodes.length = []

structure Node.PermitsMembers (node : Node) (members : List (String × Json)) : Prop where
  patterns : ∀ entry ∈ node.patternProperties.getD [], ∃ pattern, Pattern.compile entry.1 = .ok pattern
  unnamed : node.additionalProperties = some (.permit false) → ∀ entry ∈ members, node.Names entry.1

structure Node.Permits (node : Node) (value : Json) : Prop where
  items : ∀ items, value = .array items → node.PermitsItems items
  members : ∀ members, value = .object members → node.PermitsMembers members
  keys : ∀ key names, (key, .keys names) ∈ node.dependencies.getD [] → Keyword.dependency key names value = []

inductive Judgement where
  | schema (node : Node) (value : Json)
  | some (nodes : List Node) (value : Json)
  | reference (r : String) (value : Json)

structure Node.Holds (formats : Formats) (holds : Judgement → Prop) (node : Node) (value : Json) : Prop where
  leaves : node.LeavesHold formats value
  permits : node.Permits value
  reference : ∀ r, node.own.reference = some r → holds (.reference r value)
  any : ∀ nodes, node.anyOf = some nodes → holds (.some nodes value)
  asks : ∀ inner part, node.Asks value inner part → holds (.schema inner part)

-- Derivations by the rules of the keywords, without certain references at certain values.
inductive Derives (context : Context) (barred : String → Json → Prop) : Judgement → Prop where
  | schema {node : Node} {value : Json} (leaves : node.LeavesHold context.formats value) (permits : node.Permits value)
      (reference : ∀ r, node.own.reference = some r → Derives context barred (.reference r value))
      (any : ∀ nodes, node.anyOf = some nodes → Derives context barred (.some nodes value))
      (asks : ∀ inner part, node.Asks value inner part → Derives context barred (.schema inner part)) :
      Derives context barred (.schema node value)
  | some {nodes : List Node} {inner : Node} {value : Json} (member : inner ∈ nodes)
      (holds : Derives context barred (.schema inner value)) : Derives context barred (.some nodes value)
  | reference {r : String} {value target : Json} (free : ¬ barred r value)
      (resolved : Reference.resolve context.document r = .ok target)
      (holds : Derives context barred (.schema (Node.decode target) value)) : Derives context barred (.reference r value)

def Accepts (context : Context) (node : Node) (value : Json) : Prop :=
  Derives context (fun _ _ => False) (.schema node value)

section Derivations

variable {context : Context} {barred : String → Json → Prop}

theorem derives_schema (node : Node) (value : Json) :
    Derives context barred (.schema node value) ↔ node.Holds context.formats (Derives context barred) value := by
  constructor
  · intro derived
    cases derived with
    | schema leaves permits reference any asks => exact ⟨leaves, permits, reference, any, asks⟩
  · rintro ⟨leaves, permits, reference, any, asks⟩
    exact .schema leaves permits reference any asks

theorem derives_some (nodes : List Node) (value : Json) :
    Derives context barred (.some nodes value) ↔ ∃ inner ∈ nodes, Derives context barred (.schema inner value) := by
  constructor
  · intro derived
    cases derived with
    | some member holds => exact ⟨_, member, holds⟩
  · rintro ⟨inner, member, holds⟩
    exact .some member holds

theorem derives_fewer {fewer : String → Json → Prop} (less : ∀ r value, fewer r value → barred r value)
    {judgement : Judgement} (derived : Derives context barred judgement) : Derives context fewer judgement := by
  induction derived with
  | schema leaves permits _ _ _ reference any asks => exact .schema leaves permits reference any asks
  | some member _ ih => exact .some member ih
  | reference free resolved _ ih => exact .reference (fun held => free (less _ _ held)) resolved ih

-- A derivation that uses a reference again inside itself can be cut short: the target is derived without it.
theorem derives_target {r : String} {value target : Json} (derived : Derives context barred (.reference r value))
    (resolved : Reference.resolve context.document r = .ok target) :
    Derives context (fun s part => barred s part ∨ s = r ∧ part = value) (.schema (Node.decode target) value) := by
  by_contra needed
  have avoided : ∀ judgement, Derives context barred judgement →
      Derives context (fun s part => barred s part ∨ s = r ∧ part = value) judgement := by
    intro judgement found
    induction found with
    | schema leaves permits _ _ _ reference any asks => exact .schema leaves permits reference any asks
    | some member _ ih => exact .some member ih
    | @reference s part other free reached _ ih =>
        refine .reference (fun held => ?_) reached ih
        rcases held with before | ⟨rfl, rfl⟩
        · exact free before
        · cases reached.symm.trans resolved
          exact needed ih
  cases derived with
  | reference _ reached holds =>
      cases reached.symm.trans resolved
      exact needed (avoided _ holds)

end Derivations

section Affirmed

variable {document : Json} {node : Node}

theorem decoded_affirmed (affirmative : document.Affirmative) (decoded : Decoded document node) :
    node.oneOf = none ∧ node.negation = none := by
  obtain ⟨sub, contained, rfl⟩ := decoded
  cases sub with
  | object members =>
      obtain ⟨negated, counted⟩ := affirmative members contained
      have absent : ∀ key, hasMember key members = false → member? key (readMembers members) = none := by
        intro key missing
        rw [read_member]
        cases found : member? key members with
        | none => rfl
        | some value => simp [hasMember, found] at missing
      constructor
      · change (member? "oneOf" (readMembers members)).bind _ = none
        rw [absent "oneOf" counted]
        rfl
      · change (member? "not" (readMembers members)).bind _ = none
        rw [absent "not" negated]
        rfl
  | _ => exact ⟨rfl, rfl⟩

theorem compiled_affirmed {context : Context} (affirmative : context.document.Affirmative)
    (compiled : context.Compiled node) : node.oneOf = none ∧ node.negation = none :=
  decoded_affirmed affirmative (compiled_decoded compiled)

end Affirmed

end Schema

end Conform
