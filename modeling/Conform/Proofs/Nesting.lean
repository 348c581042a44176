import Conform.Proofs.Check
import Conform.Proofs.Formats
import Conform.Schema
import Mathlib.Logic.Relation

set_option autoImplicit false

namespace Conform

namespace Json

inductive Contains : Json → Json → Prop where
  | self (value : Json) : Contains value value
  | part {value part deep : Json} (member : part ∈ value.parts) (inner : Contains part deep) : Contains value deep

theorem contains_trans {value middle deep : Json} (outer : Contains value middle) (inner : Contains middle deep) :
    Contains value deep := by
  induction outer with
  | self => exact inner
  | part member _ ih => exact .part member (ih inner)

theorem references_item (items : List Json) (item : Json) (member : item ∈ items) :
    item.references ⊆ referencesOfItems items := by
  induction items with
  | nil => simp at member
  | cons head tail ih =>
      intro r found
      rw [referencesOfItems]
      rcases List.mem_cons.mp member with rfl | later
      · exact List.mem_append_left _ found
      · exact List.mem_append_right _ (ih later found)

theorem references_member (members : List (String × Json)) (entry : String × Json) (member : entry ∈ members) :
    entry.2.references ⊆ referencesOfMembers members := by
  induction members with
  | nil => simp at member
  | cons head tail ih =>
      intro r found
      obtain ⟨key, value⟩ := head
      rw [referencesOfMembers]
      rcases List.mem_cons.mp member with rfl | later
      · exact List.mem_append_left _ (List.mem_append_right _ found)
      · exact List.mem_append_right _ (ih later found)

theorem reference_member (members : List (String × Json)) (value : Json) (r : String)
    (member : ("$ref", value) ∈ members) (text : value.asString? = some r) : r ∈ referencesOfMembers members := by
  induction members with
  | nil => simp at member
  | cons head tail ih =>
      obtain ⟨key, first⟩ := head
      rw [referencesOfMembers]
      rcases List.mem_cons.mp member with same | later
      · cases same
        simp [text]
      · exact List.mem_append_right _ (ih later)

theorem references_contained {value deep : Json} (contained : Contains value deep) :
    deep.references ⊆ value.references := by
  induction contained with
  | self => exact fun _ found => found
  | @part value part deep member _ ih =>
      intro r found
      cases value with
      | array items => exact references_item items part member (ih found)
      | object members =>
          obtain ⟨entry, here, rfl⟩ := List.mem_map.mp member
          exact references_member members entry here (ih found)
      | _ => simp [parts] at member

end Json

namespace Reference

theorem child_part (step : String) (node found : Json) (reached : child step node = .ok found) :
    found ∈ node.parts := by
  cases node with
  | array items =>
      simp only [child, item] at reached
      split at reached
      · cases reached
      · split at reached
        · cases reached
        · split at reached
          · cases reached
            exact List.mem_of_getElem? ‹_›
          · cases reached
  | object members =>
      simp only [child] at reached
      cases lookup : member? step members with
      | none => simp [lookup] at reached
      | some value =>
          simp only [lookup, Except.ok.injEq] at reached
          subst reached
          exact List.mem_map_of_mem (member_of_key step members value lookup)
  | _ => cases reached

theorem follow_contained (steps : List String) (node target : Json) (reached : follow steps node = .ok target) :
    Json.Contains node target := by
  induction steps generalizing node with
  | nil =>
      cases reached
      exact .self _
  | cons step rest ih =>
      cases first : child step node with
      | error fault => simp [follow, first, bind, Except.bind] at reached
      | ok found =>
          simp only [follow, first, bind, Except.bind] at reached
          exact .part (child_part step node found first) (ih found reached)

theorem resolve_contained (document target : Json) (reference : String)
    (resolved : resolve document reference = .ok target) : Json.Contains document target := by
  unfold resolve at resolved
  split at resolved
  · cases resolved
    exact .self _
  · exact follow_contained _ _ _ resolved
  · cases resolved

end Reference

namespace Schema

def Extra.schemas {α : Type} : Extra α → List α
  | .permit _ => []
  | .schema node => [node]

def Demand.schemas {α : Type} : Demand α → List α
  | .keys _ => []
  | .schema node => [node]

def Node.peers (node : Node) : List Node :=
  node.allOf.getD [] ++ node.anyOf.getD [] ++ node.oneOf.getD [] ++ node.negation.toList
    ++ (node.dependencies.getD []).flatMap (·.2.schemas)

-- The schemas for items. A list of schemas counts only where there is no schema for all items, and a schema
-- for further items only beside such a list.
def Node.itemSchemas (node : Node) : List Node :=
  match node.items, node.tupleItems with
  | some item, _ => [item]
  | none, some nodes => nodes ++ node.additionalItems.schemas
  | none, none => []

def Node.children (node : Node) : List Node :=
  node.itemSchemas ++ (node.properties.getD []).map (·.2) ++ (node.patternProperties.getD []).map (·.2)
    ++ (node.additionalProperties.map Extra.schemas).getD []

inductive Node.Nested : Node → Node → Prop where
  | self (node : Node) : Nested node node
  | peer {node inner deep : Node} (member : inner ∈ node.peers) (nested : Nested inner deep) : Nested node deep
  | child {node inner deep : Node} (member : inner ∈ node.children) (nested : Nested inner deep) : Nested node deep

inductive Node.Here : Node → String → Prop where
  | own {node : Node} {r : String} (named : node.own.reference = some r) : Here node r
  | peer {node inner : Node} {r : String} (member : inner ∈ node.peers) (here : Here inner r) : Here node r

inductive Node.Below : Node → String → Prop where
  | peer {node inner : Node} {r : String} (member : inner ∈ node.peers) (below : Below inner r) : Below node r
  | child {node inner : Node} {r : String} (member : inner ∈ node.children) (here : Node.Here inner r) : Below node r
  | deeper {node inner : Node} {r : String} (member : inner ∈ node.children) (below : Below inner r) : Below node r

theorem nested_trans {node middle deep : Node} (outer : node.Nested middle) (inner : middle.Nested deep) :
    node.Nested deep := by
  induction outer with
  | self => exact inner
  | peer member _ ih => exact .peer member (ih inner)
  | child member _ ih => exact .child member (ih inner)

theorem here_nested {node inner : Node} {r : String} (nested : node.Nested inner) (here : inner.Here r) :
    node.Here r ∨ node.Below r := by
  induction nested with
  | self => exact .inl here
  | peer member _ ih =>
      rcases ih here with here | below
      · exact .inl (.peer member here)
      · exact .inr (.peer member below)
  | child member _ ih =>
      rcases ih here with here | below
      · exact .inr (.child member here)
      · exact .inr (.deeper member below)

theorem below_nested {node inner : Node} {r : String} (nested : node.Nested inner) (below : inner.Below r) :
    node.Below r := by
  induction nested with
  | self => exact below
  | peer member _ ih => exact .peer member (ih below)
  | child member _ ih => exact .deeper member (ih below)

theorem schema_of_extra_smaller (extra : Extra Node) (node : Node) (member : node ∈ extra.schemas) :
    sizeOf node < sizeOf extra := by
  cases extra with
  | permit => simp [Extra.schemas] at member
  | schema inner =>
      obtain rfl : node = inner := by simpa [Extra.schemas] using member
      simp

theorem listed_smaller {α : Type} [SizeOf α] (given : Option (List α)) (a : α) (member : a ∈ given.getD []) :
    sizeOf a < sizeOf given := by
  cases given with
  | none => simp at member
  | some list =>
      have smaller := List.sizeOf_lt_of_mem (show a ∈ list from member)
      simp only [Option.some.sizeOf_spec]
      omega

theorem peer_smaller (node inner : Node) (member : inner ∈ node.peers) : sizeOf inner < sizeOf node := by
  obtain ⟨own, allOf, anyOf, oneOf, negation, items, tupleItems, additionalItems, properties, patternProperties,
    additionalProperties, dependencies⟩ := node
  simp only [Node.peers, List.mem_append, List.mem_flatMap] at member
  simp only [Node.mk.sizeOf_spec]
  rcases member with (((all | any) | one) | negated) | ⟨⟨key, demand⟩, demanded, schema⟩
  · have := listed_smaller _ _ all
    omega
  · have := listed_smaller _ _ any
    omega
  · have := listed_smaller _ _ one
    omega
  · obtain rfl : negation = some inner := by simpa using negated
    simp only [Option.some.sizeOf_spec]
    omega
  · have outer := listed_smaller _ _ demanded
    cases demand with
    | keys => simp [Demand.schemas] at schema
    | schema found =>
        obtain rfl : inner = found := by simpa [Demand.schemas] using schema
        simp only [Prod.mk.sizeOf_spec, Demand.schema.sizeOf_spec] at outer
        omega

theorem child_smaller (node inner : Node) (member : inner ∈ node.children) : sizeOf inner < sizeOf node := by
  obtain ⟨own, allOf, anyOf, oneOf, negation, items, tupleItems, additionalItems, properties, patternProperties,
    additionalProperties, dependencies⟩ := node
  simp only [Node.children, List.mem_append, List.mem_map] at member
  simp only [Node.mk.sizeOf_spec]
  rcases member with ((item | ⟨⟨key, found⟩, named, rfl⟩) | ⟨⟨key, found⟩, named, rfl⟩) | extra
  · unfold Node.itemSchemas at item
    dsimp only at item
    split at item
    · obtain rfl := List.mem_singleton.mp item
      simp only [Option.some.sizeOf_spec]
      omega
    · simp only [Option.some.sizeOf_spec]
      rcases List.mem_append.mp item with listed | more
      · have := List.sizeOf_lt_of_mem listed
        omega
      · have := schema_of_extra_smaller _ _ more
        omega
    · simp at item
  · have := listed_smaller _ _ named
    simp only [Prod.mk.sizeOf_spec] at this
    dsimp only
    omega
  · have := listed_smaller _ _ named
    simp only [Prod.mk.sizeOf_spec] at this
    dsimp only
    omega
  · cases additionalProperties with
    | none => simp at extra
    | some given =>
        have := schema_of_extra_smaller given inner extra
        simp only [Option.some.sizeOf_spec]
        omega

theorem node_induction {motive : Node → Prop}
    (step : ∀ node : Node, (∀ inner ∈ node.peers, motive inner) → (∀ inner ∈ node.children, motive inner) →
      motive node) (node : Node) : motive node :=
  step node (fun inner _ => node_induction step inner) (fun inner _ => node_induction step inner)
termination_by sizeOf node
decreasing_by
  · exact peer_smaller node inner ‹_›
  · exact child_smaller node inner ‹_›

end Schema

end Conform
