import Conform.Json.Text
import Conform.Proofs.Nesting
import Conform.Proofs.Reordering
import Mathlib.Data.String.Basic

set_option autoImplicit false

namespace Conform

namespace Number

def Point.whole? : Point → Option Int
  | .at value => if value.den = 1 then some value.num else none
  | _ => none

theorem to_int_by_point (a : Number) : a.toInt? = a.point?.bind Point.whole? := by
  cases a with
  | integer n => simp [toInt?, point?, Point.whole?]
  | binary x =>
      cases x with
      | nan => rfl
      | infinite negative => cases negative <;> rfl
      | finite negative significand exponent => cases negative <;> rfl

theorem equal_iff (a b : Number) : a.equal b = true ↔ ∃ p, a.point? = some p ∧ b.point? = some p := by
  unfold equal
  cases a.point? <;> cases b.point? <;> simp [eq_comm]

end Number

-- Which numbers are alike, and whether their texts are alike too. Alike numbers stand at the same point.
structure Likeness where
  number : Number → Number → Prop
  texts : Prop
  point : ∀ a b, number a b → a.point? = b.point?
  text : texts → ∀ a b, number a b → a = b
  symm : ∀ a b, number a b → number b a

namespace Likeness

def byValue : Likeness where
  number a b := a.equal b = true
  texts := False
  point a b same := by
    obtain ⟨p, first, second⟩ := (Number.equal_iff a b).mp same
    rw [first, second]
  text impossible := impossible.elim
  symm _ _ same := by
    obtain ⟨p, first, second⟩ := (Number.equal_iff _ _).mp same
    exact (Number.equal_iff _ _).mpr ⟨p, second, first⟩

def byText : Likeness where
  number := Eq
  texts := True
  point _ _ same := congrArg Number.point? same
  text _ _ _ same := same
  symm _ _ same := same.symm

variable (L : Likeness)

theorem to_int {a b : Number} (like : L.number a b) : a.toInt? = b.toInt? := by
  rw [Number.to_int_by_point, Number.to_int_by_point, L.point a b like]

theorem less {a b c d : Number} (left : L.number a b) (right : L.number c d) : a.less c = b.less d := by
  rw [Number.less, Number.less, L.point a b left, L.point c d right]

theorem equal {a b c d : Number} (left : L.number a b) (right : L.number c d) : a.equal c = b.equal d := by
  rw [Number.equal, Number.equal, L.point a b left, L.point c d right]

theorem writable {a b : Number} (like : L.number a b) : a.isWritable = b.isWritable := by
  rw [Number.isWritable, Number.isWritable, L.to_int like]

end Likeness

namespace Json

inductive Like (L : Likeness) : Json → Json → Prop where
  | null : Like L .null .null
  | bool (b : Bool) : Like L (.bool b) (.bool b)
  | number {a b : Number} (same : L.number a b) : Like L (.number a) (.number b)
  | string (s : String) : Like L (.string s) (.string s)
  | array {left right : List Json} (items : List.Forall₂ (Like L) left right) : Like L (.array left) (.array right)
  | object {left right : List (String × Json)} (members : Reordered (Like L) left right) :
      Like L (.object left) (.object right)

variable {L : Likeness} {v w : Json}

theorem like_induction {motive : (v w : Json) → v.Like L w → Prop} (null : motive _ _ .null)
    (bool : ∀ b, motive _ _ (.bool b)) (number : ∀ a b, ∀ same : L.number a b, motive _ _ (.number same))
    (string : ∀ s, motive _ _ (.string s))
    (array : ∀ left right, ∀ items : List.Forall₂ (Like L) left right,
      List.Forall₂ (fun a b => ∃ alike : a.Like L b, motive a b alike) left right → motive _ _ (.array items))
    (object : ∀ left right, ∀ members : Reordered (Like L) left right,
      Reordered (fun a b => ∃ alike : a.Like L b, motive a b alike) left right → motive _ _ (.object members))
    {v w : Json} (like : v.Like L w) : motive v w like := by
  have inside : ∀ part ∈ v.parts, ∀ other, ∀ alike : part.Like L other, motive part other alike :=
    fun part _ other alike => like_induction null bool number string array object alike
  cases like with
  | null => exact null
  | bool b => exact bool b
  | number same => exact number _ _ same
  | string s => exact string s
  | array items =>
      exact array _ _ items (related_members items fun a member b _ alike => ⟨alike, inside a member b alike⟩)
  | object members =>
      exact object _ _ members (reordered_weaken members fun entry member b alike =>
        ⟨alike, inside entry.2 (List.mem_map_of_mem member) b alike⟩)
termination_by v.depth
decreasing_by exact depth_part v part ‹_›

theorem like_symm (like : v.Like L w) : w.Like L v := by
  induction like using like_induction with
  | null => exact .null
  | bool b => exact .bool b
  | number a b same => exact .number (L.symm a b same)
  | string s => exact .string s
  | array left right _ items => exact .array (List.Forall₂.flip (items.imp fun _ _ ⟨_, flipped⟩ => flipped))
  | object left right _ members => exact .object (reordered_flip members fun _ _ ⟨_, flipped⟩ => flipped)

theorem depth_members_le (members : List (String × Json)) (bound : Nat) :
    depthMembers members ≤ bound ↔ ∀ entry ∈ members, entry.2.depth ≤ bound := by
  induction members with
  | nil => simp [depthMembers]
  | cons head tail ih => rw [depthMembers, Nat.max_le, ih, List.forall_mem_cons]

theorem depth_items_le (items : List Json) (bound : Nat) :
    depthItems items ≤ bound ↔ ∀ item ∈ items, item.depth ≤ bound := by
  induction items with
  | nil => simp [depthItems]
  | cons head tail ih => rw [depthItems, Nat.max_le, ih, List.forall_mem_cons]

theorem like_depth_le (like : v.Like L w) : w.depth ≤ v.depth := by
  induction like using like_induction with
  | array left right _ items =>
      refine Nat.succ_le_succ ((depth_items_le right _).mpr fun item member => ?_)
      obtain ⟨source, found, _, smaller⟩ := shuffled_source (shuffled_of_related items) item member
      exact Nat.le_trans smaller (depth_item left source found)
  | object left right _ members =>
      refine Nat.succ_le_succ ((depth_members_le right _).mpr fun entry member => ?_)
      obtain ⟨source, found, _, _, smaller⟩ := shuffled_source (reordered_pairs members) entry member
      exact Nat.le_trans smaller (depth_member left source found)
  | _ => exact Nat.le_refl _

theorem like_depth (like : v.Like L w) : v.depth = w.depth :=
  Nat.le_antisymm (like_depth_le (like_symm like)) (like_depth_le like)

theorem references_of_members (members : List (String × Json)) : referencesOfMembers members =
    members.flatMap fun entry => (if entry.1 = "$ref" then entry.2.asString?.toList else []) ++ entry.2.references := by
  induction members with
  | nil => rfl
  | cons head tail ih => rw [referencesOfMembers, List.flatMap_cons, ih]

theorem references_of_items (items : List Json) : referencesOfItems items = items.flatMap references := by
  induction items with
  | nil => rfl
  | cons head tail ih => rw [referencesOfItems, List.flatMap_cons, ih]

theorem like_string (like : v.Like L w) : v.asString? = w.asString? := by
  cases like <;> rfl

theorem like_number (like : v.Like L w) : Option.Rel L.number v.asNumber? w.asNumber? := by
  cases like with
  | number same => exact .some same
  | _ => exact .none

theorem like_references (like : v.Like L w) : v.references.Perm w.references := by
  induction like using like_induction with
  | array left right _ items =>
      rw [references, references, references_of_items, references_of_items]
      exact shuffled_flat_map (shuffled_of_related items) fun _ _ ⟨_, same⟩ => same
  | object left right _ members =>
      rw [references, references, references_of_members, references_of_members]
      refine shuffled_flat_map (reordered_pairs members) fun a b ⟨name, alike, same⟩ => ?_
      rw [name, like_string alike]
      exact same.append_left _
  | _ => exact .refl _

theorem like_kinds (like : v.Like L w) : v.kinds = w.kinds := by
  cases like with
  | number same => rw [kinds, kinds, Number.isIntegral, Number.isIntegral, L.to_int same]
  | _ => rfl

def Objects (holds : List (String × Json) → Prop) (value : Json) : Prop :=
  ∀ members, Contains value (.object members) → holds members

abbrev Distinct (value : Json) : Prop :=
  value.Objects fun members => (members.map (·.1)).Nodup

abbrev Undivided (value : Json) : Prop :=
  value.Objects fun members => (member? "multipleOf" members).bind asNumber? = none

theorem objects_iff {holds : List (String × Json) → Prop} (value : Json) : value.Objects holds ↔
    (∀ members, value = .object members → holds members) ∧ ∀ part ∈ value.parts, part.Objects holds := by
  constructor
  · intro every
    constructor
    · rintro members rfl
      exact every members (.self _)
    · exact fun part member members contained => every members (.part member contained)
  · rintro ⟨own, parts⟩ members contained
    cases contained with
    | self => exact own members rfl
    | part member inner => exact parts _ member members inner

@[simp] theorem objects_object (holds : List (String × Json) → Prop) (members : List (String × Json)) :
    (object members).Objects holds ↔ holds members ∧ ∀ entry ∈ members, entry.2.Objects holds := by
  rw [objects_iff]
  have inside : (∀ part ∈ (object members).parts, part.Objects holds) ↔ ∀ entry ∈ members, entry.2.Objects holds :=
    List.forall_mem_map
  rw [inside]
  simp

@[simp] theorem objects_array (holds : List (String × Json) → Prop) (items : List Json) :
    (array items).Objects holds ↔ ∀ item ∈ items, item.Objects holds := by
  rw [objects_iff]
  simp [parts]

@[simp] theorem objects_null (holds : List (String × Json) → Prop) : null.Objects holds := by
  rw [objects_iff]
  simp [parts]

@[simp] theorem objects_bool (holds : List (String × Json) → Prop) (b : Bool) : (bool b).Objects holds := by
  rw [objects_iff]
  simp [parts]

@[simp] theorem objects_number (holds : List (String × Json) → Prop) (n : Number) : (number n).Objects holds := by
  rw [objects_iff]
  simp [parts]

@[simp] theorem objects_string (holds : List (String × Json) → Prop) (text : String) : (string text).Objects holds := by
  rw [objects_iff]
  simp [parts]

theorem objects_contained {holds : List (String × Json) → Prop} {deep : Json} (every : v.Objects holds)
    (contained : Contains v deep) : deep.Objects holds :=
  fun members inner => every members (contains_trans contained inner)

theorem objects_part {holds : List (String × Json) → Prop} {part : Json} (every : v.Objects holds)
    (member : part ∈ v.parts) : part.Objects holds :=
  objects_contained every (.part member (.self part))

theorem objects_like {holds other : List (String × Json) → Prop}
    (onward : ∀ left right, Reordered (Like L) left right → holds left → other right) (like : v.Like L w)
    (every : v.Objects holds) : w.Objects other := by
  induction like using like_induction with
  | array left right _ items =>
      refine (objects_iff _).mpr ⟨fun members same => (by cases same), fun item member => ?_⟩
      obtain ⟨source, found, _, passed⟩ := shuffled_source (shuffled_of_related items) item member
      exact passed (objects_part every (show source ∈ (array left).parts from found))
  | object left right members ih =>
      refine (objects_iff _).mpr ⟨fun own same => ?_, fun part member => ?_⟩
      · cases same
        exact onward left right members (every left (.self _))
      · obtain ⟨entry, found, rfl⟩ := List.mem_map.mp member
        obtain ⟨source, here, _, _, passed⟩ := shuffled_source (reordered_pairs ih) entry found
        exact passed (objects_part every (List.mem_map_of_mem here))
  | _ => exact (objects_iff _).mpr ⟨fun members same => (by cases same), by simp [parts]⟩

theorem like_distinct (like : v.Like L w) : w.Distinct :=
  objects_like (fun _ _ members (_ : True) => (reordered_distinct members).2) like fun _ _ => trivial

theorem like_undivided (like : v.Like L w) (undivided : v.Undivided) : w.Undivided := by
  refine objects_like (fun left right members none => ?_) like undivided
  have both := option_some_same (reordered_bind members "multipleOf" fun _ _ => like_number)
  rwa [none, Option.isSome_none, eq_comm, Option.isSome_eq_false_iff, Option.isNone_iff_eq_none] at both

section Same

theorem same_items_iff (left right : List Json) :
    sameItems left right = true ↔ List.Forall₂ (fun a b => same a b = true) left right := by
  induction left generalizing right with
  | nil => cases right <;> simp [sameItems]
  | cons a left ih => cases right <;> simp [sameItems, ih]

theorem same_members_iff (left right : List (String × Json)) : sameMembers left right = true ↔
    ∀ entry ∈ left, ∃ other, member? entry.1 right = some other ∧ same entry.2 other = true := by
  induction left with
  | nil => simp [sameMembers]
  | cons head tail ih =>
      obtain ⟨key, value⟩ := head
      rw [sameMembers, Bool.and_eq_true, ih, List.forall_mem_cons]
      cases member? key right <;> simp

theorem same_object_iff {left right : List (String × Json)} (distinct : (left.map (·.1)).Nodup) :
    (object left).same (object right) = true ↔
      ∀ key, Option.Rel (fun a b => same a b = true) (member? key left) (member? key right) := by
  rw [same, Bool.and_eq_true, same_members_iff, sameKeys, Bool.and_eq_true, List.all_eq_true, List.all_eq_true]
  constructor
  · rintro ⟨⟨_, covered⟩, members⟩ key
    cases first : member? key left with
    | some value =>
        obtain ⟨other, second, equal⟩ := members _ (member_of_key key left value first)
        rw [second]
        exact .some equal
    | none =>
        cases second : member? key right with
        | none => exact .none
        | some other =>
            have known := covered _ (member_of_key key right other second)
            simp [hasMember, first] at known
  · intro lookups
    refine ⟨⟨fun entry member => ?_, fun entry member => ?_⟩, fun entry member => ?_⟩
    · have lookup := lookups entry.1
      rw [member_of_distinct distinct member] at lookup
      rcases second : member? entry.1 right with _ | other <;> rw [second] at lookup <;> cases lookup
      simp [hasMember, second]
    · have lookup := lookups entry.1
      have known := (has_member_iff entry.1 right).mpr (List.mem_map_of_mem member)
      unfold hasMember at known ⊢
      rcases first : member? entry.1 left with _ | value <;> rw [first] at lookup
      · rcases second : member? entry.1 right with _ | other <;> rw [second] at lookup known <;> cases lookup
        cases known
      · rfl
    · have lookup := lookups entry.1
      rw [member_of_distinct distinct member] at lookup
      rcases second : member? entry.1 right with _ | other <;> rw [second] at lookup <;> cases lookup
      exact ⟨other, rfl, ‹_›⟩

theorem like_same {x y : Json} (like : v.Like L w) (other : x.Like L y) : v.same x = w.same y := by
  induction like using like_induction generalizing x y with
  | number a b alike =>
      cases other with
      | number alike' => rw [same, same, L.equal alike alike']
      | _ => rfl
  | array left right items ih =>
      cases other with
      | @array left' right' items' =>
          rw [same, same]
          clear items
          induction ih generalizing left' right' with
          | nil => cases items' <;> rfl
          | cons first _ rest =>
              cases items' with
              | nil => rfl
              | cons first' rest' =>
                  obtain ⟨_, equal⟩ := first
                  rw [sameItems, sameItems, equal first', rest rest']
      | _ => rfl
  | object left right members ih =>
      cases other with
      | @object left' right' members' =>
          rw [Bool.eq_iff_iff, same_object_iff (reordered_distinct members).1, same_object_iff (reordered_distinct members).2]
          refine forall_congr' fun key => ?_
          have lookup := reordered_member ih key
          have lookup' := reordered_member members' key
          generalize member? key left = a, member? key right = b at lookup
          generalize member? key left' = x, member? key right' = y at lookup'
          rcases lookup with ⟨_, equal⟩ | _ <;> rcases lookup' with alike | _
          · rw [Option.rel_some_some, Option.rel_some_some, equal alike]
          · exact ⟨nofun, nofun⟩
          · exact ⟨nofun, nofun⟩
          · exact Iff.rfl
      | _ => rfl
  | _ => cases other <;> rfl

theorem like_refl {v : Json} (numbers : ∀ n, L.number n n) (distinct : v.Distinct) : v.Like L v := by
  have inside : ∀ part ∈ v.parts, part.Like L part := fun part member => like_refl numbers (objects_part distinct member)
  cases v with
  | null => exact .null
  | bool b => exact .bool b
  | number n => exact .number (numbers n)
  | string s => exact .string s
  | array items => exact .array (List.forall₂_same.mpr inside)
  | object members =>
      exact .object (.intro (distinct members (.self _)) (.refl members) rfl (List.forall₂_same.mpr inside))
termination_by v.depth
decreasing_by exact depth_part v part member

theorem like_of_same {v w : Json} (equal : v.same w = true) (distinct : v.Distinct) (distinct' : w.Distinct) :
    v.Like .byValue w := by
  have inside : ∀ part ∈ v.parts, ∀ other ∈ w.parts, part.same other = true → part.Like .byValue other :=
    fun part member other member' alike => like_of_same alike (objects_part distinct member) (objects_part distinct' member')
  cases v with
  | null =>
      cases w with
      | null => exact .null
      | _ => cases equal
  | bool b =>
      cases w with
      | bool b' =>
          obtain rfl : b = b' := by simpa [same] using equal
          exact .bool b
      | _ => cases equal
  | number a =>
      cases w with
      | number b => exact .number (by rwa [same] at equal)
      | _ => cases equal
  | string s =>
      cases w with
      | string s' =>
          obtain rfl : s = s' := by simpa [same] using equal
          exact .string s
      | _ => cases equal
  | array left =>
      cases w with
      | array right =>
          rw [same, same_items_iff] at equal
          exact .array (related_members equal inside)
      | _ => cases equal
  | object left =>
      cases w with
      | object right =>
          have apart := distinct left (.self _)
          have apart' := distinct' right (.self _)
          have lookups := (same_object_iff apart).mp equal
          refine .object (reordered_of_member apart apart' fun key => ?_)
          have lookup := lookups key
          cases first : member? key left <;> cases second : member? key right <;> rw [first, second] at lookup
          · exact .none
          · cases lookup
          · cases lookup
          · have here := List.mem_map_of_mem (f := (·.2)) (member_of_key _ _ _ first)
            have there := List.mem_map_of_mem (f := (·.2)) (member_of_key _ _ _ second)
            cases lookup with
            | some alike => exact .some (inside _ here _ there alike)
      | _ => cases equal
termination_by v.depth
decreasing_by exact depth_part v part member

theorem same_of_like (like : v.Like .byValue w) : v.same w = true := by
  induction like using like_induction with
  | null => rfl
  | bool b => simp [same]
  | number a b alike => rwa [same]
  | string s => simp [same]
  | array left right _ items =>
      rw [same, same_items_iff]
      exact items.imp fun _ _ ⟨_, equal⟩ => equal
  | object left right members ih =>
      refine (same_object_iff (reordered_distinct members).1).mpr fun key => ?_
      have lookup := reordered_member ih key
      generalize member? key left = a, member? key right = b at lookup
      rcases lookup with ⟨_, equal⟩ | _
      · exact .some equal
      · exact .none

end Same

section Describe

theorem insert_by_key_comm {α : Type} {a b : String × α} (different : a.1 ≠ b.1) (entries : List (String × α)) :
    insertByKey a (insertByKey b entries) = insertByKey b (insertByKey a entries) := by
  induction entries with
  | nil =>
      rcases lt_or_gt_of_ne different with less | less
      · simp [insertByKey, less, less.not_gt]
      · simp [insertByKey, less, less.not_gt]
  | cons head tail ih =>
      rcases lt_or_gt_of_ne different with less | less <;> by_cases before : a.1 < head.1 <;>
        by_cases before' : b.1 < head.1
      · simp [insertByKey, less, less.not_gt, before, before']
      · simp [insertByKey, before, before', less.not_gt]
      · exact absurd (less.trans before') before
      · simp [insertByKey, before, before', ih]
      · simp [insertByKey, less, less.not_gt, before, before']
      · exact absurd (less.trans before) before'
      · simp [insertByKey, before, before', less.not_gt]
      · simp [insertByKey, before, before', ih]

theorem sort_by_key_perm {α : Type} {left right : List (String × α)} (distinct : (left.map (·.1)).Nodup)
    (order : left.Perm right) : sortByKey left = sortByKey right := by
  induction order with
  | nil => rfl
  | cons entry _ ih => rw [sortByKey, sortByKey, ih (List.nodup_cons.mp distinct).2]
  | swap a b rest =>
      have different : b.1 ≠ a.1 := fun same => (List.nodup_cons.mp distinct).1 (by simp [same])
      simp only [sortByKey, insert_by_key_comm different]
  | trans order _ ih ih' => rw [ih distinct, ih' ((order.map _).nodup_iff.mp distinct)]

theorem describe_members_eq (members : List (String × Json)) :
    describeMembers members = members.map fun entry => (entry.1, entry.2.describe) := by
  induction members with
  | nil => rfl
  | cons head tail ih => rw [describeMembers, List.map_cons, ih]

theorem describe_items_eq (items : List Json) : describeItems items = items.map describe := by
  induction items with
  | nil => rfl
  | cons head tail ih => rw [describeItems, List.map_cons, ih]

theorem like_describe (texts : L.texts) (like : v.Like L w) : v.describe = w.describe := by
  induction like using like_induction with
  | number a b alike => rw [L.text texts a b alike]
  | array left right _ items =>
      have texts : describeItems left = describeItems right := by
        rw [describe_items_eq, describe_items_eq, ← List.forall₂_eq_eq_eq]
        exact List.rel_map (fun a b ⟨_, equal⟩ => equal) items
      rw [describe, describe, texts]
  | object left right members ih =>
      have shuffled : Shuffled Eq (describeMembers left) (describeMembers right) := by
        rw [describe_members_eq, describe_members_eq]
        exact shuffled_map (reordered_pairs ih) fun a b ⟨name, _, equal⟩ => Prod.ext name equal
      have distinct : ((describeMembers left).map (·.1)).Nodup := by
        rw [describe_members_eq, List.map_map]
        exact (reordered_distinct members).1
      rw [describe, describe, sort_by_key_perm distinct (shuffled_perm shuffled)]
  | _ => rfl

end Describe

end Json

end Conform
