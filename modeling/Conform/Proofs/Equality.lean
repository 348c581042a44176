import Conform.Proofs.Likeness

set_option autoImplicit false

namespace Conform

-- A value without regard to how its numbers are written and in which order its members stand.
inductive Canonical where
  | null
  | bool (value : Bool)
  | number (place : Option Number.Point)
  | string (value : String)
  | array (items : List Canonical)
  | object (members : String → Option Canonical)

theorem Number.point_none_iff (n : Number) : n.point? = none ↔ n = .binary .nan := by
  cases n with
  | integer n => simp [point?]
  | binary x =>
      cases x with
      | nan => simp [point?]
      | infinite negative => cases negative <;> simp [point?]
      | finite negative significand exponent => cases negative <;> simp [point?, Binary64.toRat?]

namespace Json

mutual
def canonical : Json → Canonical
  | .null => .null
  | .bool b => .bool b
  | .number n => .number n.point?
  | .string s => .string s
  | .array items => .array (canonicalItems items)
  | .object members => .object fun key => member? key (canonicalMembers members)

def canonicalItems : List Json → List Canonical
  | [] => []
  | item :: rest => canonical item :: canonicalItems rest

def canonicalMembers : List (String × Json) → List (String × Canonical)
  | [] => []
  | (key, value) :: rest => (key, canonical value) :: canonicalMembers rest
end

theorem canonical_items_eq (items : List Json) : canonicalItems items = items.map canonical := by
  induction items with
  | nil => rfl
  | cons head tail ih => rw [canonicalItems, List.map_cons, ih]

theorem canonical_member (key : String) (members : List (String × Json)) :
    member? key (canonicalMembers members) = (member? key members).map canonical := by
  induction members with
  | nil => rfl
  | cons head tail ih =>
      obtain ⟨name, value⟩ := head
      rw [canonicalMembers, member?, member?, ih]
      split <;> rfl

def WithoutNaN (value : Json) : Prop :=
  ¬ Contains value (.number (.binary .nan))

theorem without_nan_iff (value : Json) : value.WithoutNaN ↔
    value ≠ .number (.binary .nan) ∧ ∀ part ∈ value.parts, part.WithoutNaN := by
  constructor
  · intro free
    refine ⟨fun same => free (same ▸ .self _), fun part member inner => free (.part member inner)⟩
  · rintro ⟨other, inside⟩ contained
    cases contained with
    | self => exact other rfl
    | part member inner => exact inside _ member inner

@[simp] theorem without_nan_null : null.WithoutNaN := by
  rw [without_nan_iff]
  simp [parts]

@[simp] theorem without_nan_bool (b : Bool) : (bool b).WithoutNaN := by
  rw [without_nan_iff]
  simp [parts]

@[simp] theorem without_nan_number (n : Number) : (number n).WithoutNaN ↔ n ≠ .binary .nan := by
  rw [without_nan_iff]
  simp [parts]

@[simp] theorem without_nan_string (s : String) : (string s).WithoutNaN := by
  rw [without_nan_iff]
  simp [parts]

@[simp] theorem without_nan_array (items : List Json) : (array items).WithoutNaN ↔ ∀ item ∈ items, item.WithoutNaN := by
  rw [without_nan_iff]
  simp [parts]

@[simp] theorem without_nan_object (members : List (String × Json)) :
    (object members).WithoutNaN ↔ ∀ entry ∈ members, entry.2.WithoutNaN := by
  rw [without_nan_iff]
  have inside : (∀ part ∈ (object members).parts, part.WithoutNaN) ↔ ∀ entry ∈ members, entry.2.WithoutNaN :=
    List.forall_mem_map
  rw [inside]
  simp

theorem without_nan_lookups {members : List (String × Json)} (distinct : (members.map (·.1)).Nodup) :
    (object members).WithoutNaN ↔ ∀ key value, member? key members = some value → value.WithoutNaN := by
  rw [without_nan_object]
  constructor
  · exact fun free key value found => free _ (member_of_key key members value found)
  · exact fun free entry member => free entry.1 entry.2 (member_of_distinct distinct member)

theorem same_number_iff (a b : Number) : a.equal b = true ↔ a.point? = b.point? ∧ a ≠ .binary .nan ∧ b ≠ .binary .nan := by
  rw [Number.equal_iff, ne_eq, ne_eq, ← Number.point_none_iff, ← Number.point_none_iff]
  cases a.point? <;> cases b.point? <;> simp [eq_comm]

theorem items_canonical {r : Json → Json → Prop} (left right : List Json)
    (each : ∀ a ∈ left, ∀ b ∈ right, r a b ↔ a.canonical = b.canonical ∧ a.WithoutNaN ∧ b.WithoutNaN) :
    List.Forall₂ r left right ↔ left.map canonical = right.map canonical ∧
      (∀ item ∈ left, item.WithoutNaN) ∧ ∀ item ∈ right, item.WithoutNaN := by
  induction left generalizing right with
  | nil => cases right <;> simp
  | cons head tail ih =>
      cases right with
      | nil => simp
      | cons head' tail' =>
          have first := each head (List.mem_cons_self ..) head' (List.mem_cons_self ..)
          have rest := ih tail' fun a member b member' => each a (List.mem_cons_of_mem _ member) b (List.mem_cons_of_mem _ member')
          rw [List.forall₂_cons, first, rest, List.map_cons, List.map_cons, List.cons.injEq, List.forall_mem_cons,
            List.forall_mem_cons]
          tauto

theorem option_canonical {r : Json → Json → Prop} {a b : Option Json}
    (each : ∀ x ∈ a, ∀ y ∈ b, r x y ↔ x.canonical = y.canonical ∧ x.WithoutNaN ∧ y.WithoutNaN) :
    Option.Rel r a b ↔ a.map canonical = b.map canonical ∧ (∀ x ∈ a, x.WithoutNaN) ∧ ∀ y ∈ b, y.WithoutNaN := by
  cases a <;> cases b <;> simp_all

theorem same_iff_canonical {v w : Json} (distinct : v.Distinct) (distinct' : w.Distinct) :
    v.same w = true ↔ v.canonical = w.canonical ∧ v.WithoutNaN ∧ w.WithoutNaN := by
  -- The recursion is on the first value: its parts are asked about any parts of the other.
  have inside : ∀ part ∈ v.parts, ∀ other ∈ w.parts,
      part.same other = true ↔ part.canonical = other.canonical ∧ part.WithoutNaN ∧ other.WithoutNaN :=
    fun part member other member' => same_iff_canonical (objects_part distinct member) (objects_part distinct' member')
  cases v with
  | null => cases w <;> simp [same, canonical]
  | bool b => cases w <;> simp [same, canonical]
  | number a => cases w <;> simp [same, canonical, same_number_iff]
  | string s => cases w <;> simp [same, canonical]
  | array left =>
      cases w with
      | array right =>
          rw [same, same_items_iff, items_canonical left right inside, canonical, canonical, canonical_items_eq, canonical_items_eq,
            Canonical.array.injEq, without_nan_array, without_nan_array]
      | _ => simp [same, canonical]
  | object left =>
      cases w with
      | object right =>
          have apart := distinct left (.self _)
          have apart' := distinct' right (.self _)
          have lookups : ∀ key, Option.Rel (fun a b => same a b = true) (member? key left) (member? key right) ↔
              (member? key left).map canonical = (member? key right).map canonical ∧
                (∀ x ∈ member? key left, x.WithoutNaN) ∧ ∀ y ∈ member? key right, y.WithoutNaN := by
            refine fun key => option_canonical fun a found b found' => inside a ?_ b ?_
            · exact List.mem_map_of_mem (f := (·.2)) (member_of_key key left a found)
            · exact List.mem_map_of_mem (f := (·.2)) (member_of_key key right b found')
          rw [same_object_iff apart, forall_congr' lookups, forall_and, forall_and, without_nan_lookups apart,
            without_nan_lookups apart', canonical, canonical, Canonical.object.injEq, funext_iff]
          simp only [canonical_member, Option.mem_def]
      | _ => simp [same, canonical]
termination_by v.depth
decreasing_by exact depth_part v part member

theorem same_kinds {v w : Json} (equal : v.same w = true) : v.kinds = w.kinds := by
  cases v with
  | number a =>
      cases w with
      | number b =>
          obtain ⟨p, first, second⟩ := (Number.equal_iff a b).mp (by rwa [same] at equal)
          rw [kinds, kinds, Number.isIntegral, Number.isIntegral, Number.to_int_by_point, Number.to_int_by_point, first, second]
      | _ => simp [same] at equal
  | _ => cases w <;> simp [same, kinds] at equal ⊢

theorem same_is_equality :
    (∀ v w : Json, v.Distinct → w.Distinct → v.same w = w.same v) ∧
    (∀ u v w : Json, u.Distinct → v.Distinct → w.Distinct → u.same v = true → v.same w = true → u.same w = true) ∧
    (∀ v : Json, v.Distinct → (v.same v = true ↔ v.WithoutNaN)) ∧
    (∀ v w : Json, v.Distinct → w.Distinct → v.WithoutNaN → w.WithoutNaN →
      (v.same w = true ↔ v.canonical = w.canonical)) ∧
    ∀ v w : Json, v.same w = true → v.kinds = w.kinds := by
  refine ⟨fun v w left right => ?_, fun u v w first second third equal equal' => ?_, fun v own => ?_,
    fun v w left right free free' => ?_, fun v w => same_kinds⟩
  · rw [Bool.eq_iff_iff, same_iff_canonical left right, same_iff_canonical right left, eq_comm, and_comm (a := v.WithoutNaN)]
  · obtain ⟨form, free, _⟩ := (same_iff_canonical first second).mp equal
    obtain ⟨form', _, free'⟩ := (same_iff_canonical second third).mp equal'
    exact (same_iff_canonical first third).mpr ⟨form.trans form', free, free'⟩
  · rw [same_iff_canonical own own]
    simp
  · rw [same_iff_canonical left right]
    simp [free, free']

theorem same_is_equality_for_large :
    let large := number (.integer 9007199254740992)
    let point := number (.binary (.finite false 4503599627370496 1))
    let first := object [("a", large), ("b", bool true)]
    let second := object [("b", bool true), ("a", point)]
    let third := object [("b", bool true), ("a", large)]
    let next := object [("a", number (.integer 9007199254740993)), ("b", bool true)]
    let odd := array [large, number (.binary .nan)]
    second.same first = first.same second ∧ first.same third = true ∧ first.same first = true ∧ odd.same odd ≠ true ∧
      first.canonical = second.canonical ∧ next.canonical ≠ second.canonical ∧ large.kinds = point.kinds := by
  intro large point first second third next odd
  have distinct : first.Distinct ∧ second.Distinct ∧ third.Distinct ∧ next.Distinct ∧ odd.Distinct := by
    simp [first, second, third, next, odd, large, point]
  have free : first.WithoutNaN ∧ second.WithoutNaN ∧ next.WithoutNaN := by
    simp [first, second, next, large, point]
  obtain ⟨one, two, three, four, five⟩ := distinct
  obtain ⟨clean, clean', clean''⟩ := free
  obtain ⟨symmetric, transitive, reflexive, forms, tags⟩ := same_is_equality
  have different : next.same second ≠ true := by decide +kernel
  have absent : ¬ odd.WithoutNaN := by simp [odd]
  refine ⟨symmetric _ _ two one, transitive first second third one two three ?_ ?_, (reflexive _ one).mpr clean,
    fun same => absent ((reflexive _ five).mp same), (forms _ _ one two clean clean').mp ?_,
    fun form => different ((forms _ _ four two clean'' clean').mpr form), tags _ _ ?_⟩ <;> decide +kernel

end Json

end Conform
