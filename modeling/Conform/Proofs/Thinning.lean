import Conform.Proofs.Rereading

set_option autoImplicit false

namespace Conform

namespace Schema

open Json (Contains)

def schemaKeys : List String :=
  ["not", "items", "additionalItems", "additionalProperties"]

def listKeys : List String :=
  ["allOf", "anyOf", "oneOf", "items"]

def namedKeys : List String :=
  ["properties", "patternProperties", "dependencies"]

inductive Within (r : Json → Json → Prop) : String × Json → String × Json → Prop where
  | whole (key : String) (value : Json) : Within r (key, value) (key, value)
  | schema {key : String} {left right : List (String × Json)} (position : key ∈ schemaKeys)
      (holds : r (.object left) (.object right)) : Within r (key, .object left) (key, .object right)
  | list {key : String} {left right : List Json} (position : key ∈ listKeys) (items : List.Forall₂ r left right) :
      Within r (key, .array left) (key, .array right)
  | named {key : String} {left right : List (String × Json)} (position : key ∈ namedKeys)
      (names : left.map (·.1) = right.map (·.1)) (values : List.Forall₂ r (left.map (·.2)) (right.map (·.2))) :
      Within r (key, .object left) (key, .object right)

inductive Thinned (gone : String → Json → Prop) (r : Json → Json → Prop) :
    List (String × Json) → List (String × Json) → Prop where
  | nil : Thinned gone r [] []
  | drop {key : String} {value : Json} {left right : List (String × Json)} (goes : gone key value)
      (rest : Thinned gone r left right) : Thinned gone r ((key, value) :: left) right
  | keep {key : String} {v w : Json} {left right : List (String × Json)} (stays : Within r (key, v) (key, w))
      (rest : Thinned gone r left right) : Thinned gone r ((key, v) :: left) ((key, w) :: right)

-- The schema on the right is the one on the left less some members that may go, of any objects that stand for schemas.
inductive Pruned (gone : String → Json → Prop) : Json → Json → Prop where
  | same (value : Json) : Pruned gone value value
  | object {left right : List (String × Json)} (members : Thinned gone (Pruned gone) left right) :
      Pruned gone (.object left) (.object right)

section Thinned

variable {gone : String → Json → Prop} {r s : Json → Json → Prop} {left right : List (String × Json)}

theorem within_weaken {key : String} {v w : Json} (within : Within r (key, v) (key, w))
    (weaker : ∀ x y, Contains v x → r x y → s x y) : Within s (key, v) (key, w) := by
  cases within with
  | whole => exact .whole key v
  | schema position holds => exact .schema position (weaker _ _ (.self _) holds)
  | list position items =>
      exact .list position (related_members items fun a member b _ => weaker a b (.part member (.self a)))
  | named position names values =>
      exact .named position names (related_members values fun a member b _ => weaker a b (.part member (.self a)))

theorem thinned_weaken {gone' : String → Json → Prop} (thinned : Thinned gone r left right)
    (goes : ∀ key value, gone key value → gone' key value)
    (stays : ∀ x y, (∃ entry ∈ left, Contains entry.2 x) → r x y → s x y) : Thinned gone' s left right := by
  induction thinned with
  | nil => exact .nil
  | drop holds _ ih =>
      refine .drop (goes _ _ holds) (ih fun x y ⟨entry, member, inside⟩ => ?_)
      exact stays x y ⟨entry, List.mem_cons_of_mem _ member, inside⟩
  | keep within _ ih =>
      refine .keep (within_weaken within fun x y inside => stays x y ⟨_, List.mem_cons_self .., inside⟩) ?_
      exact ih fun x y ⟨entry, member, inside⟩ => stays x y ⟨entry, List.mem_cons_of_mem _ member, inside⟩

theorem contained_depth {v x : Json} (contained : Contains v x) : x.depth ≤ v.depth := by
  induction contained with
  | self => exact Nat.le_refl _
  | @part v part deep member _ ih => exact Nat.le_of_lt (Nat.lt_of_le_of_lt ih (Json.depth_part v part member))

theorem pruned_induction {motive : Json → Json → Prop} (same : ∀ value, motive value value)
    (object : ∀ left right, (left.map (·.1)).Nodup → Thinned gone (fun v w => Pruned gone v w ∧ motive v w) left right →
      motive (.object left) (.object right)) {v w : Json} (distinct : v.Distinct) (pruned : Pruned gone v w) :
    motive v w := by
  cases pruned with
  | same => exact same v
  | @object left right members =>
      refine object left right (distinct left (.self _)) (thinned_weaken members (fun _ _ goes => goes)
        fun x y ⟨entry, member, inside⟩ inner => ?_)
      have part : entry.2 ∈ (Json.object left).parts := List.mem_map_of_mem member
      have smaller := Nat.lt_of_le_of_lt (contained_depth inside) (Json.depth_part _ _ part)
      exact ⟨inner, pruned_induction same object (Json.objects_contained distinct (.part part inside)) inner⟩
termination_by v.depth

theorem pruned_members (pruned : Pruned gone (.object left) (.object right)) :
    left = right ∨ Thinned gone (Pruned gone) left right := by
  cases pruned with
  | same => exact .inl rfl
  | object members => exact .inr members

theorem pruned_weaken {gone' : String → Json → Prop} {v w : Json} (distinct : v.Distinct) (pruned : Pruned gone v w)
    (goes : ∀ key value, gone key value → gone' key value) : Pruned gone' v w := by
  refine pruned_induction (motive := Pruned gone') .same (fun left right _ members => ?_) distinct pruned
  exact .object (thinned_weaken members goes fun _ _ _ inner => inner.2)

theorem thinned_names (thinned : Thinned gone r left right) : (right.map (·.1)).Sublist (left.map (·.1)) := by
  induction thinned with
  | nil => exact .slnil
  | drop _ _ ih => exact ih.cons _
  | keep _ _ ih => exact ih.cons_cons _

theorem differs_of_found {α : Type} {key name : String} {value : α} {rest : List (String × α)} (fresh : name ∉ rest.map (·.1))
    (found : member? key rest = some value) : name ≠ key := by
  rintro rfl
  exact fresh (List.mem_map.mpr ⟨(name, value), member_of_key name rest value found, rfl⟩)

theorem thinned_again {gone' : String → Json → Prop} (distinct : (left.map (·.1)).Nodup) (thinned : Thinned gone r left right)
    (goes : ∀ key value, member? key left = some value → member? key right = none → gone' key value)
    (stays : ∀ key v w, member? key left = some v → member? key right = some w → Within r (key, v) (key, w) →
      Within s (key, v) (key, w)) : Thinned gone' s left right := by
  induction thinned with
  | nil => exact .nil
  | @drop name value left right _ rest ih =>
      obtain ⟨fresh, later⟩ := List.nodup_cons.mp distinct
      have absent : member? name right = none := member_absent fun member => fresh ((thinned_names rest).subset member)
      have skip : ∀ {key v}, member? key left = some v → member? key ((name, value) :: left) = some v := fun found => by
        rw [member?, if_neg (differs_of_found fresh found), found]
      refine .drop (goes name value (by rw [member?, if_pos rfl]) absent) (ih later ?_ ?_)
      · exact fun key v found missing => goes key v (skip found) missing
      · exact fun key v w found found' => stays key v w (skip found) found'
  | @keep name first second left right within rest ih =>
      obtain ⟨fresh, later⟩ := List.nodup_cons.mp distinct
      refine .keep (stays name first second (by rw [member?, if_pos rfl]) (by rw [member?, if_pos rfl]) within) (ih later ?_ ?_)
      · intro key v found missing
        have different := differs_of_found fresh found
        exact goes key v (by rw [member?, if_neg different, found]) (by rw [member?, if_neg different, missing])
      · intro key v w found found'
        have different := differs_of_found fresh found
        exact stays key v w (by rw [member?, if_neg different, found]) (by rw [member?, if_neg different, found'])

theorem thinned_lookup (distinct : (left.map (·.1)).Nodup) (thinned : Thinned gone r left right) (key : String) :
    (∃ value, member? key left = some value ∧ gone key value ∧ member? key right = none) ∨
      Option.Rel (fun v w => Within r (key, v) (key, w)) (member? key left) (member? key right) := by
  induction thinned with
  | nil => exact .inr .none
  | @drop name value _ right goes rest ih =>
      obtain ⟨fresh, later⟩ := List.nodup_cons.mp distinct
      by_cases same : name = key
      · subst same
        have absent : member? name right = none := member_absent fun member => fresh ((thinned_names rest).subset member)
        exact .inl ⟨value, by rw [member?, if_pos rfl], goes, absent⟩
      · rw [member?, if_neg same]
        exact ih later
  | @keep name v w _ _ stays rest ih =>
      by_cases same : name = key
      · subst same
        rw [member?, member?, if_pos rfl, if_pos rfl]
        exact .inr (.some stays)
      · rw [member?, member?, if_neg same, if_neg same]
        exact ih (List.nodup_cons.mp distinct).2

theorem lookup_kept {β : Type} (make : Option Json → β) {key : String} (distinct : (left.map (·.1)).Nodup)
    (thinned : Thinned gone r left right) (unused : ∀ value, gone key value → make (some value) = make none)
    (kept : ∀ v w, Within r (key, v) (key, w) → make (some v) = make (some w)) :
    make (member? key left) = make (member? key right) := by
  rcases thinned_lookup distinct thinned key with ⟨value, found, goes, absent⟩ | related
  · rw [found, absent, unused value goes]
  · generalize member? key left = a, member? key right = b at related
    cases related with
    | none => rfl
    | some stays => exact kept _ _ stays

end Thinned

end Schema

end Conform
