import Conform.Proofs.Compilation
import Conform.Proofs.Indifference

set_option autoImplicit false

namespace Conform

open Comparison (results)

variable {L : Likeness}

namespace Json

section Lookups

variable {left right : List (String × Json)}

theorem lookup_same {α : Type} {get : Json → Option α} (members : Reordered (Like L) left right) (key : String)
    (blind : ∀ v w, v.Like L w → get v = get w) : (member? key left).bind get = (member? key right).bind get := by
  have lookup := reordered_member members key
  generalize member? key left = a, member? key right = b at lookup
  cases lookup with
  | none => rfl
  | some alike => exact blind _ _ alike

theorem lookup_true (members : Reordered (Like L) left right) (key : String) :
    (member? key left).any isTrue = (member? key right).any isTrue := by
  have lookup := reordered_member members key
  generalize member? key left = a, member? key right = b at lookup
  cases lookup with
  | none => rfl
  | some alike => cases alike <;> rfl

end Lookups

variable {v w : Json}

theorem like_int (like : v.Like L w) : v.asInt? = w.asInt? := by
  cases like with
  | number same => exact L.to_int same
  | _ => rfl

theorem like_items (like : v.Like L w) : Option.Rel (List.Forall₂ (Like L)) v.asItems? w.asItems? := by
  cases like with
  | array items => exact .some items
  | _ => exact .none

theorem filter_map_like {α : Type} {get : Json → Option α} {left right : List Json}
    (items : List.Forall₂ (Like L) left right) (blind : ∀ v w, v.Like L w → get v = get w) :
    left.filterMap get = right.filterMap get := by
  induction items with
  | nil => rfl
  | cons first _ ih => rw [List.filterMap_cons, List.filterMap_cons, ih, blind _ _ first]

theorem like_strings (like : v.Like L w) : v.asStrings? = w.asStrings? := by
  cases like with
  | array items =>
      simp only [asStrings?, asItems?, Option.map_some]
      rw [filter_map_like items fun _ _ => like_string]
  | _ => rfl

theorem like_named_kinds (like : v.Like L w) : v.asKinds? = w.asKinds? := by
  cases like with
  | array items =>
      simp only [asKinds?]
      rw [filter_map_like items fun _ _ alike => by rw [like_string alike]]
  | _ => rfl

end Json

namespace Schema

structure Assertions.Like (L : Likeness) (own other : Assertions) : Prop where
  reference : own.reference = other.reference
  kinds : own.kinds = other.kinds
  values : Option.Rel (List.Forall₂ (Json.Like L)) own.values other.values
  maxLength : own.maxLength = other.maxLength
  minLength : own.minLength = other.minLength
  pattern : own.pattern = other.pattern
  multipleOf : own.multipleOf = other.multipleOf ∧ (L.texts ∨ own.multipleOf = none)
  minimum : Option.Rel L.number own.minimum other.minimum
  exclusiveMinimum : own.exclusiveMinimum = other.exclusiveMinimum
  maximum : Option.Rel L.number own.maximum other.maximum
  exclusiveMaximum : own.exclusiveMaximum = other.exclusiveMaximum
  minItems : own.minItems = other.minItems
  maxItems : own.maxItems = other.maxItems
  uniqueItems : own.uniqueItems = other.uniqueItems
  maxProperties : own.maxProperties = other.maxProperties
  minProperties : own.minProperties = other.minProperties
  required : own.required = other.required
  format : own.format = other.format

inductive Extra.Rel {α β : Type} (r : α → β → Prop) : Extra α → Extra β → Prop where
  | permit (allowed : Bool) : Rel r (.permit allowed) (.permit allowed)
  | schema {a : α} {b : β} (holds : r a b) : Rel r (.schema a) (.schema b)

inductive Demand.Rel {α β : Type} (r : α → β → Prop) : Demand α → Demand β → Prop where
  | keys (names : List String) : Rel r (.keys names) (.keys names)
  | schema {a : α} {b : β} (holds : r a b) : Rel r (.schema a) (.schema b)

-- Schemas that match keyword by keyword, where the schemas inside them are related.
structure Node.Matches (L : Likeness) (r : Node → Node → Prop) (node other : Node) : Prop where
  own : node.own.Like L other.own
  allOf : Option.Rel (List.Forall₂ r) node.allOf other.allOf
  anyOf : Option.Rel (List.Forall₂ r) node.anyOf other.anyOf
  oneOf : Option.Rel (List.Forall₂ r) node.oneOf other.oneOf
  negation : Option.Rel r node.negation other.negation
  items : Option.Rel r node.items other.items
  tupleItems : Option.Rel (List.Forall₂ r) node.tupleItems other.tupleItems
  additionalItems : Extra.Rel r node.additionalItems other.additionalItems
  properties : Option.Rel (Reordered r) node.properties other.properties
  patternProperties : Option.Rel (Reordered r) node.patternProperties other.patternProperties
  additionalProperties : Option.Rel (Extra.Rel r) node.additionalProperties other.additionalProperties
  dependencies : Option.Rel (Reordered (Demand.Rel r)) node.dependencies other.dependencies

structure Reading.Like (L : Likeness) (r : Node → Node → Prop) (reading other : Reading) : Prop where
  value : reading.value.Like L other.value
  node : r reading.node other.node
  list : Option.Rel (List.Forall₂ r) reading.list other.list
  named : Option.Rel (Reordered r) reading.named other.named
  demands : Option.Rel (Reordered (Demand.Rel r)) reading.demands other.demands

section Read

variable {r : Node → Node → Prop} {reading other : Reading} {left right : List (String × Json)}

theorem object_like (alike : reading.Like L r other) : Option.Rel r reading.object? other.object? := by
  have node := alike.node
  have value := alike.value
  unfold Reading.object?
  generalize reading.value = v, other.value = w at value
  cases value with
  | object => exact .some node
  | _ => exact .none

theorem extra_like (alike : reading.Like L r other) : Option.Rel (Extra.Rel r) reading.extra? other.extra? := by
  have node := alike.node
  have value := alike.value
  unfold Reading.extra?
  generalize reading.value = v, other.value = w at value
  cases value with
  | bool b => exact .some (.permit b)
  | object => exact .some (.schema node)
  | _ => exact .none

theorem demand_like (alike : reading.Like L r other) : Option.Rel (Demand.Rel r) reading.demand? other.demand? := by
  have node := alike.node
  have value := alike.value
  unfold Reading.demand?
  generalize reading.value = v, other.value = w at value
  cases value with
  | object => exact .some (.schema node)
  | array items =>
      simp only [Json.like_strings (.array items)]
      exact .some (.keys _)
  | _ => exact .none

theorem assertions_like (members : Reordered (Json.Like L) left right)
    (divisors : L.texts ∨ (member? "multipleOf" left).bind Json.asNumber? = none) :
    (assertions left).Like L (assertions right) where
  reference := Json.lookup_same members _ fun _ _ => Json.like_string
  kinds := Json.lookup_same members _ fun _ _ => Json.like_named_kinds
  values := reordered_bind members _ fun _ _ => Json.like_items
  maxLength := Json.lookup_same members _ fun _ _ => Json.like_int
  minLength := Json.lookup_same members _ fun _ _ => Json.like_int
  pattern := Json.lookup_same members _ fun _ _ => Json.like_string
  multipleOf := by
    have related := reordered_bind members "multipleOf" fun _ _ => Json.like_number
    change (member? "multipleOf" left).bind Json.asNumber? = (member? "multipleOf" right).bind Json.asNumber? ∧
      (L.texts ∨ (member? "multipleOf" left).bind Json.asNumber? = none)
    refine ⟨?_, divisors⟩
    generalize (member? "multipleOf" left).bind Json.asNumber? = a, (member? "multipleOf" right).bind Json.asNumber? = b
      at related divisors
    cases related with
    | none => rfl
    | some same => rw [L.text (divisors.resolve_right nofun) _ _ same]
  minimum := reordered_bind members _ fun _ _ => Json.like_number
  exclusiveMinimum := Json.lookup_true members _
  maximum := reordered_bind members _ fun _ _ => Json.like_number
  exclusiveMaximum := Json.lookup_true members _
  minItems := Json.lookup_same members _ fun _ _ => Json.like_int
  maxItems := Json.lookup_same members _ fun _ _ => Json.like_int
  uniqueItems := Json.lookup_true members _
  maxProperties := Json.lookup_same members _ fun _ _ => Json.like_int
  minProperties := Json.lookup_same members _ fun _ _ => Json.like_int
  required := Json.lookup_same members _ fun _ _ => Json.like_strings
  format := Json.lookup_same members _ fun _ _ => Json.like_string

theorem assemble_matches {readings others : List (String × Reading)} (members : Reordered (Json.Like L) left right)
    (read : Reordered (Reading.Like L r) readings others)
    (divisors : L.texts ∨ (member? "multipleOf" left).bind Json.asNumber? = none) :
    (assemble left readings).Matches L r (assemble right others) where
  own := assertions_like members divisors
  allOf := reordered_bind read _ fun _ _ alike => alike.list
  anyOf := reordered_bind read _ fun _ _ alike => alike.list
  oneOf := reordered_bind read _ fun _ _ alike => alike.list
  negation := reordered_bind read _ fun _ _ => object_like
  items := reordered_bind read _ fun _ _ => object_like
  tupleItems := reordered_bind read _ fun _ _ alike => alike.list
  additionalItems := by
    have related : Option.Rel (Extra.Rel r) ((member? "additionalItems" readings).bind (·.extra?))
        ((member? "additionalItems" others).bind (·.extra?)) := reordered_bind read _ fun _ _ => extra_like
    change Extra.Rel r (((member? "additionalItems" readings).bind (·.extra?)).getD (.permit true))
      (((member? "additionalItems" others).bind (·.extra?)).getD (.permit true))
    generalize (member? "additionalItems" readings).bind (·.extra?) = a,
      (member? "additionalItems" others).bind (·.extra?) = b at related
    cases related with
    | none => exact .permit true
    | some alike => exact alike
  properties := reordered_bind read _ fun _ _ alike => alike.named
  patternProperties := reordered_bind read _ fun _ _ alike => alike.named
  additionalProperties := reordered_bind read _ fun _ _ => extra_like
  dependencies := reordered_bind read _ fun _ _ alike => alike.demands

theorem read_items_eq (items : List Json) : readItems items = items.map Node.decode := by
  induction items with
  | nil => rfl
  | cons head tail ih => rw [readItems, List.map_cons, ih, Node.decode]

theorem read_members_eq (members : List (String × Json)) :
    readMembers members = members.map fun entry => (entry.1, read entry.2) := by
  induction members with
  | nil => rfl
  | cons head tail ih => rw [readMembers, List.map_cons, ih]

theorem blank_matches : Node.Matches L r {} {} where
  own := ⟨rfl, rfl, .none, rfl, rfl, rfl, ⟨rfl, .inr rfl⟩, .none, rfl, .none, rfl, rfl, rfl, rfl, rfl, rfl, rfl, rfl⟩
  allOf := .none
  anyOf := .none
  oneOf := .none
  negation := .none
  items := .none
  tupleItems := .none
  additionalItems := .permit true
  properties := .none
  patternProperties := .none
  additionalProperties := .none
  dependencies := .none

theorem read_like (close : ∀ node other, Node.Matches L r node other → r node other) {v w : Json}
    (divisors : L.texts ∨ v.Undivided) (like : v.Like L w) : (read v).Like L r (read w) := by
  induction like using Json.like_induction with
  | array left right items ih =>
      refine ⟨.array items, close _ _ blank_matches, .some ?_, .none, .none⟩
      rw [read_items_eq, read_items_eq, List.forall₂_map_left_iff, List.forall₂_map_right_iff]
      refine related_members ih fun item member _ _ ⟨_, alike⟩ => (alike (divisors.imp_right fun undivided => ?_)).node
      exact Json.objects_part undivided (show item ∈ (Json.array left).parts from member)
  | object left right members ih =>
      have readings : Reordered (Reading.Like L r) (readMembers left) (readMembers right) := by
        rw [read_members_eq, read_members_eq]
        refine reordered_map (reordered_weaken ih fun entry member b ⟨_, alike⟩ => ?_) fun _ _ holds => holds
        exact alike (divisors.imp_right fun undivided => Json.objects_part undivided (List.mem_map_of_mem member))
      have undivided := divisors.imp_right fun undivided => undivided left (.self _)
      refine ⟨.object members, close _ _ (assemble_matches members readings undivided), .none, .some ?_, .some ?_⟩
      · exact reordered_map readings fun _ _ alike => alike.node
      · exact reordered_filter_map readings fun _ _ => demand_like
  | null => exact ⟨.null, close _ _ blank_matches, .none, .none, .none⟩
  | bool b => exact ⟨.bool b, close _ _ blank_matches, .none, .none, .none⟩
  | number a b same => exact ⟨.number same, close _ _ blank_matches, .none, .none, .none⟩
  | string s => exact ⟨.string s, close _ _ blank_matches, .none, .none, .none⟩

end Read

end Schema

end Conform
