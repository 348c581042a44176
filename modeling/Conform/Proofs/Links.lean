import Conform.Proofs.Nesting
import Mathlib.Data.Finset.Card
import Mathlib.Data.Finset.Dedup

set_option autoImplicit false

namespace Conform.Schema

open Json (Contains)

def Decoded (value : Json) (node : Node) : Prop :=
  ∃ sub, Contains value sub ∧ node = Node.decode sub

theorem decoded_part {value part : Json} {node : Node} (member : part ∈ value.parts) (decoded : Decoded part node) :
    Decoded value node := by
  obtain ⟨sub, contained, rfl⟩ := decoded
  exact ⟨sub, .part member contained, rfl⟩

theorem read_items_member (items : List Json) (node : Node) (member : node ∈ readItems items) :
    ∃ item ∈ items, node = Node.decode item := by
  induction items with
  | nil => simp [readItems] at member
  | cons head tail ih =>
      rcases List.mem_cons.mp member with rfl | later
      · exact ⟨head, by simp, rfl⟩
      · obtain ⟨item, found, same⟩ := ih later
        exact ⟨item, by simp [found], same⟩

theorem read_members_member (members : List (String × Json)) (entry : String × Reading)
    (member : entry ∈ readMembers members) : ∃ value, (entry.1, value) ∈ members ∧ entry.2 = read value := by
  induction members with
  | nil => simp [readMembers] at member
  | cons head tail ih =>
      obtain ⟨key, value⟩ := head
      rcases List.mem_cons.mp member with rfl | later
      · exact ⟨value, by simp, rfl⟩
      · obtain ⟨found, kept, same⟩ := ih later
        exact ⟨found, by simp [kept], same⟩

theorem read_member (key : String) (members : List (String × Json)) :
    member? key (readMembers members) = (member? key members).map read := by
  induction members with
  | nil => rfl
  | cons head tail ih =>
      obtain ⟨name, value⟩ := head
      by_cases same : name = key
      · simp [readMembers, member?, same]
      · simp [readMembers, member?, same, ih]

theorem read_list_decoded (value : Json) (nodes : List Node) (listed : (read value).list = some nodes) (node : Node)
    (member : node ∈ nodes) : Decoded value node := by
  cases value with
  | array items =>
      cases listed
      obtain ⟨item, found, rfl⟩ := read_items_member items node member
      exact ⟨item, .part found (.self item), rfl⟩
  | _ => simp [read] at listed

theorem read_object_decoded (value : Json) (node : Node) (object : (read value).object? = some node) :
    Decoded value node := by
  cases value with
  | object members =>
      cases object
      exact ⟨_, .self _, rfl⟩
  | _ => simp [read, Reading.object?] at object

theorem read_extra_decoded (value : Json) (extra : Extra Node) (given : (read value).extra? = some extra)
    (node : Node) (member : node ∈ extra.schemas) : Decoded value node := by
  cases value with
  | object members =>
      cases given
      obtain rfl := List.mem_singleton.mp member
      exact ⟨_, .self _, rfl⟩
  | bool allowed =>
      cases given
      simp [Extra.schemas] at member
  | _ => simp [read, Reading.extra?] at given

theorem read_named_decoded (value : Json) (entries : List (String × Node)) (named : (read value).named = some entries)
    (node : Node) (member : node ∈ entries.map (·.2)) : Decoded value node := by
  cases value with
  | object members =>
      cases named
      simp only [List.map_map, List.mem_map, Function.comp_apply] at member
      obtain ⟨entry, found, rfl⟩ := member
      obtain ⟨inner, kept, same⟩ := read_members_member members entry found
      exact ⟨inner, .part (List.mem_map_of_mem kept) (.self inner), by rw [same]; rfl⟩
  | _ => simp [read] at named

theorem read_demands_decoded (value : Json) (entries : List (String × Demand Node))
    (given : (read value).demands = some entries) (node : Node)
    (member : node ∈ entries.flatMap (·.2.schemas)) : Decoded value node := by
  cases value with
  | object members =>
      cases given
      obtain ⟨⟨key, demand⟩, listed, schema⟩ := List.mem_flatMap.mp member
      obtain ⟨⟨name, reading⟩, found, made⟩ := List.mem_filterMap.mp listed
      obtain ⟨inner, kept, rfl⟩ := read_members_member members (name, reading) found
      obtain ⟨demanded, asked, same⟩ := Option.map_eq_some_iff.mp made
      cases same
      refine decoded_part (List.mem_map_of_mem kept) ?_
      cases inner with
      | object inside =>
          cases asked
          obtain rfl := List.mem_singleton.mp schema
          exact ⟨_, .self _, rfl⟩
      | array items =>
          cases asked
          simp [Demand.schemas] at schema
      | _ => simp [read, Reading.demand?, Json.asStrings?, Json.asItems?] at asked
  | _ => simp [read] at given

theorem member_decoded {α : Type} {members : List (String × Json)} {key : String} {get : Reading → Option α} {a : α}
    {node : Node} (given : (member? key (readMembers members)).bind get = some a)
    (source : ∀ value, get (read value) = some a → Decoded value node) : Decoded (.object members) node := by
  rw [read_member] at given
  cases found : member? key members with
  | none => simp [found] at given
  | some value =>
      rw [found] at given
      exact decoded_part (List.mem_map_of_mem (member_of_key key members value found)) (source value given)

theorem listed_decoded {α : Type} {given : Option (List α)} {a : α} (member : a ∈ given.getD []) :
    ∃ list, given = some list ∧ a ∈ list := by
  cases given with
  | none => simp at member
  | some list => exact ⟨list, rfl, member⟩

theorem peer_decoded (value : Json) (inner : Node) (member : inner ∈ (Node.decode value).peers) :
    Decoded value inner := by
  cases value with
  | object members =>
      simp only [Node.peers, List.mem_append] at member
      rcases member with (((all | any) | one) | negated) | demanded
      · obtain ⟨list, given, found⟩ := listed_decoded all
        exact member_decoded given fun value listed => read_list_decoded value list listed inner found
      · obtain ⟨list, given, found⟩ := listed_decoded any
        exact member_decoded given fun value listed => read_list_decoded value list listed inner found
      · obtain ⟨list, given, found⟩ := listed_decoded one
        exact member_decoded given fun value listed => read_list_decoded value list listed inner found
      · exact member_decoded (Option.mem_toList.mp negated) fun value => read_object_decoded value inner
      · cases given : (Node.decode (.object members)).dependencies with
        | none => simp [given] at demanded
        | some list =>
            rw [given] at demanded
            exact member_decoded given fun value listed => read_demands_decoded value list listed inner demanded
  | _ => simp [Node.decode, read, Node.peers] at member

theorem more_items_decoded (members : List (String × Json)) (inner : Node)
    (member : inner ∈ (Node.decode (.object members)).additionalItems.schemas) : Decoded (.object members) inner := by
  change inner ∈ (((member? "additionalItems" (readMembers members)).bind (·.extra?)).getD (.permit true)).schemas
    at member
  cases given : (member? "additionalItems" (readMembers members)).bind (·.extra?) with
  | none => simp [given, Extra.schemas] at member
  | some extra =>
      rw [given] at member
      exact member_decoded given fun value found => read_extra_decoded value extra found inner member

theorem item_schema_decoded (members : List (String × Json)) (inner : Node)
    (member : inner ∈ (Node.decode (.object members)).itemSchemas) : Decoded (.object members) inner := by
  cases single : (Node.decode (.object members)).items with
  | some item =>
      simp only [Node.itemSchemas, single, List.mem_singleton] at member
      subst member
      exact member_decoded single fun value => read_object_decoded value inner
  | none =>
      cases listed : (Node.decode (.object members)).tupleItems with
      | none => simp [Node.itemSchemas, single, listed] at member
      | some nodes =>
          simp only [Node.itemSchemas, single, listed, List.mem_append] at member
          rcases member with found | more
          · exact member_decoded listed fun value read => read_list_decoded value nodes read inner found
          · exact more_items_decoded members inner more

theorem child_decoded (value : Json) (inner : Node) (member : inner ∈ (Node.decode value).children) :
    Decoded value inner := by
  cases value with
  | object members =>
      simp only [Node.children, List.mem_append] at member
      rcases member with ((item | declared) | pattern) | extra
      · exact item_schema_decoded members inner item
      · cases given : (Node.decode (.object members)).properties with
        | none => simp [given] at declared
        | some list =>
            rw [given] at declared
            exact member_decoded given fun value named => read_named_decoded value list named inner declared
      · cases given : (Node.decode (.object members)).patternProperties with
        | none => simp [given] at pattern
        | some list =>
            rw [given] at pattern
            exact member_decoded given fun value named => read_named_decoded value list named inner pattern
      · cases given : (Node.decode (.object members)).additionalProperties with
        | none => simp [given] at extra
        | some more =>
            rw [given] at extra
            exact member_decoded given fun value found => read_extra_decoded value more found inner extra
  | _ => simp [Node.decode, read, Node.children, Node.itemSchemas] at member

theorem nested_decoded (value : Json) (inner : Node) (nested : (Node.decode value).Nested inner) :
    Decoded value inner := by
  generalize start : Node.decode value = node at nested
  induction nested generalizing value with
  | self =>
      subst start
      exact ⟨value, .self value, rfl⟩
  | peer member _ ih =>
      subst start
      obtain ⟨sub, contained, rfl⟩ := peer_decoded value _ member
      obtain ⟨deep, inside, rfl⟩ := ih sub rfl
      exact ⟨deep, Json.contains_trans contained inside, rfl⟩
  | child member _ ih =>
      subst start
      obtain ⟨sub, contained, rfl⟩ := child_decoded value _ member
      obtain ⟨deep, inside, rfl⟩ := ih sub rfl
      exact ⟨deep, Json.contains_trans contained inside, rfl⟩

theorem own_reference_listed (value : Json) (r : String) (named : (Node.decode value).own.reference = some r) :
    r ∈ value.references := by
  cases value with
  | object members =>
      change (member? "$ref" members).bind Json.asString? = some r at named
      obtain ⟨text, found, read⟩ := Option.bind_eq_some_iff.mp named
      exact Json.reference_member members text r (member_of_key _ _ _ found) read
  | _ => simp [Node.decode, read] at named

theorem here_owner {node : Node} {r : String} (here : node.Here r) :
    ∃ inner, node.Nested inner ∧ inner.own.reference = some r := by
  induction here with
  | own named => exact ⟨_, .self _, named⟩
  | peer member _ ih =>
      obtain ⟨inner, nested, named⟩ := ih
      exact ⟨inner, .peer member nested, named⟩

theorem below_owner {node : Node} {r : String} (below : node.Below r) :
    ∃ inner, node.Nested inner ∧ inner.own.reference = some r := by
  induction below with
  | peer member _ ih =>
      obtain ⟨inner, nested, named⟩ := ih
      exact ⟨inner, .peer member nested, named⟩
  | child member here =>
      obtain ⟨inner, nested, named⟩ := here_owner here
      exact ⟨inner, .child member nested, named⟩
  | deeper member _ ih =>
      obtain ⟨inner, nested, named⟩ := ih
      exact ⟨inner, .child member nested, named⟩

theorem nested_reference_listed (value : Json) (inner : Node) (r : String)
    (nested : (Node.decode value).Nested inner) (named : inner.own.reference = some r) : r ∈ value.references := by
  obtain ⟨sub, contained, rfl⟩ := nested_decoded value inner nested
  exact Json.references_contained contained (own_reference_listed sub r named)

namespace Context

variable (context : Context)

def Same (r s : String) : Prop :=
  ∃ target, Reference.resolve context.document r = .ok target ∧ (Node.decode target).Here s

def Inside (r s : String) : Prop :=
  ∃ target, Reference.resolve context.document r = .ok target ∧ (Node.decode target).Below s

def Leads (r s : String) : Prop :=
  context.Same r s ∨ context.Inside r s

def Reachable (r : String) : Prop :=
  Relation.ReflTransGen context.Leads rootReference r

-- A reference that comes back to itself without a step down into the value.
def Circular (r : String) : Prop :=
  Relation.TransGen context.Same r r

def Guarded : Prop :=
  ∀ r, context.Reachable r → ¬ context.Circular r

def Compiled (node : Node) : Prop :=
  ∃ r target, context.Reachable r ∧ Reference.resolve context.document r = .ok target ∧
    (Node.decode target).Nested node

variable {context}

theorem resolve_root (document : Json) : Reference.resolve document rootReference = .ok document := by
  rfl

theorem target_reference_listed {r s : String} {target : Json}
    (resolved : Reference.resolve context.document r = .ok target)
    (met : (Node.decode target).Here s ∨ (Node.decode target).Below s) : s ∈ context.document.references := by
  have contained := Reference.resolve_contained _ _ _ resolved
  have owner : ∃ inner, (Node.decode target).Nested inner ∧ inner.own.reference = some s :=
    met.elim here_owner below_owner
  obtain ⟨inner, nested, named⟩ := owner
  exact Json.references_contained contained (nested_reference_listed target inner s nested named)

theorem leads_of_met {r s : String} {target : Json} (resolved : Reference.resolve context.document r = .ok target)
    (met : (Node.decode target).Here s ∨ (Node.decode target).Below s) : context.Leads r s :=
  met.imp (fun here => ⟨target, resolved, here⟩) fun below => ⟨target, resolved, below⟩

theorem leads_listed {r s : String} (leads : context.Leads r s) : s ∈ context.document.references := by
  rcases leads with ⟨target, resolved, here⟩ | ⟨target, resolved, below⟩
  · exact target_reference_listed resolved (.inl here)
  · exact target_reference_listed resolved (.inr below)

theorem reachable_next {r s : String} {target : Json} (reachable : context.Reachable r)
    (resolved : Reference.resolve context.document r = .ok target)
    (met : (Node.decode target).Here s ∨ (Node.decode target).Below s) : context.Reachable s :=
  reachable.tail (leads_of_met resolved met)

theorem reachable_listed {r : String} (reachable : context.Reachable r) :
    r = rootReference ∨ r ∈ context.document.references := by
  rcases Relation.ReflTransGen.cases_tail reachable with same | ⟨_, _, leads⟩
  · exact .inl same
  · exact .inr (leads_listed leads)

end Context

theorem root_compiled (context : Context) : context.Compiled (Node.decode context.document) :=
  ⟨rootReference, _, .refl, Context.resolve_root _, .self _⟩

theorem compiled_decoded {context : Context} {node : Node} (compiled : context.Compiled node) :
    Decoded context.document node := by
  obtain ⟨r, target, _, resolved, nested⟩ := compiled
  obtain ⟨sub, contained, rfl⟩ := nested_decoded target node nested
  exact ⟨sub, Json.contains_trans (Reference.resolve_contained _ _ _ resolved) contained, rfl⟩

end Conform.Schema
