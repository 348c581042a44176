import Conform.Keyword
import Conform.Proofs.Equality

set_option autoImplicit false

namespace Conform.Keyword

def Recurs (items : List Json) (place : Nat) : Prop :=
  ∃ later item other, place < later ∧ items[place]? = some item ∧ items[later]? = some other ∧ item.same other = true

theorem recurs_first (head : Json) (tail : List Json) : Recurs (head :: tail) 0 ↔ tail.any head.same = true := by
  rw [List.any_eq_true]
  constructor
  · rintro ⟨later, item, other, behind, first, second, equal⟩
    obtain ⟨place, rfl⟩ := Nat.exists_eq_succ_of_ne_zero (Nat.pos_iff_ne_zero.mp behind)
    cases first
    exact ⟨other, List.mem_of_getElem? second, equal⟩
  · rintro ⟨other, member, equal⟩
    obtain ⟨place, found⟩ := List.mem_iff_getElem?.mp member
    exact ⟨place + 1, head, other, place.succ_pos, rfl, found, equal⟩

theorem recurs_behind (head : Json) (tail : List Json) (place : Nat) :
    Recurs (head :: tail) (place + 1) ↔ Recurs tail place := by
  constructor
  · rintro ⟨later, item, other, behind, first, second, equal⟩
    obtain ⟨place', rfl⟩ := Nat.exists_eq_succ_of_ne_zero (Nat.pos_iff_ne_zero.mp (Nat.zero_lt_of_lt behind))
    exact ⟨place', item, other, Nat.lt_of_succ_lt_succ behind, first, second, equal⟩
  · rintro ⟨later, item, other, behind, first, second, equal⟩
    exact ⟨later + 1, item, other, Nat.succ_lt_succ behind, first, second, equal⟩

def AllDifferent (items : List Json) : Prop :=
  ∀ (place other : Nat) (a b : Json), place ≠ other → items[place]? = some a → items[other]? = some b → a.same b = false

theorem first_repeated_place {items : List Json} {item : Json} (found : firstRepeated items = some item) :
    ∃ place, items[place]? = some item ∧ Recurs items place ∧ ∀ before < place, ¬ Recurs items before := by
  induction items with
  | nil => cases found
  | cons head tail ih =>
      rw [firstRepeated] at found
      by_cases again : tail.any head.same = true
      · rw [if_pos again] at found
        cases found
        exact ⟨0, rfl, (recurs_first _ tail).mpr again, nofun⟩
      · rw [if_neg again] at found
        obtain ⟨place, here, recurs, none⟩ := ih found
        refine ⟨place + 1, here, (recurs_behind head tail place).mpr recurs, fun before less => ?_⟩
        cases before with
        | zero => rwa [recurs_first]
        | succ before => rw [recurs_behind]; exact none before (Nat.lt_of_succ_lt_succ less)

theorem first_repeated_none (items : List Json) :
    firstRepeated items = none ↔ items.Pairwise fun a b => a.same b = false := by
  induction items with
  | nil => simp [firstRepeated]
  | cons head tail ih =>
      have alone : (∀ other ∈ tail, head.same other = false) ↔ tail.any head.same = false := by simp
      rw [firstRepeated, List.pairwise_cons, ← ih, alone]
      cases tail.any head.same <;> simp

def mark (value : Json) : Canonical × Prop :=
  (value.canonical, value.WithoutNaN)

def Differ (a b : Canonical × Prop) : Prop :=
  ¬ (a.1 = b.1 ∧ a.2 ∧ b.2)

theorem differ_symm {a b : Canonical × Prop} (differ : Differ a b) : Differ b a :=
  fun ⟨form, own, other⟩ => differ ⟨form.symm, other, own⟩

theorem differ_iff {v w : Json} (distinct : v.Distinct) (distinct' : w.Distinct) :
    v.same w = false ↔ Differ (mark v) (mark w) := by
  rw [Bool.eq_false_iff, ne_eq, Json.same_iff_canonical distinct distinct']
  rfl

theorem mark_of_same {v w : Json} (distinct : v.Distinct) (distinct' : w.Distinct) (equal : v.same w = true) :
    mark v = mark w := by
  obtain ⟨form, free, free'⟩ := (Json.same_iff_canonical distinct distinct').mp equal
  exact Prod.ext form (propext (iff_of_true free free'))

section Unique

variable {items : List Json} (distinct : ∀ item ∈ items, item.Distinct)
include distinct

theorem unrepeated_iff_marks : firstRepeated items = none ↔ (items.map mark).Pairwise Differ := by
  rw [first_repeated_none, List.pairwise_map]
  exact List.Pairwise.iff_of_mem fun member member' => differ_iff (distinct _ member) (distinct _ member')

theorem unrepeated_iff_different : firstRepeated items = none ↔ AllDifferent items := by
  rw [first_repeated_none, List.pairwise_iff_getElem]
  constructor
  · intro ordered place other a b different first second
    obtain ⟨inside, rfl⟩ := List.getElem?_eq_some_iff.mp first
    obtain ⟨inside', rfl⟩ := List.getElem?_eq_some_iff.mp second
    rcases Nat.lt_or_gt_of_ne different with before | behind
    · exact ordered place other inside inside' before
    · have swapped := ordered other place inside' inside behind
      rw [differ_iff (distinct _ (List.getElem_mem _)) (distinct _ (List.getElem_mem _))] at swapped ⊢
      exact differ_symm swapped
  · intro apart place other inside inside' before
    exact apart place other _ _ before.ne (List.getElem?_eq_getElem inside) (List.getElem?_eq_getElem inside')

theorem unrepeated_rearranged {moved items' : List Json} (order : items.Perm moved)
    (replaced : List.Forall₂ (fun a b => a = b ∨ a.same b = true) moved items') (distinct' : ∀ item ∈ items', item.Distinct) :
    firstRepeated items = none ↔ firstRepeated items' = none := by
  have marks : moved.map mark = items'.map mark := by
    refine related_iff_map.mp (related_members replaced fun a member b member' same => ?_)
    rcases same with rfl | equal
    · rfl
    · exact mark_of_same (distinct a (order.mem_iff.mpr member)) (distinct' b member') equal
  rw [unrepeated_iff_marks distinct, unrepeated_iff_marks distinct', ← marks]
  exact (order.map mark).pairwise_iff differ_symm

end Unique

theorem unique_items_accepts (items : List Json) : uniqueItems (.array items) = [] ↔ firstRepeated items = none := by
  cases found : firstRepeated items <;> simp [uniqueItems, found]

theorem unique_items_exact {items : List Json} (distinct : ∀ item ∈ items, item.Distinct) :
    (uniqueItems (.array items) = [] ↔ AllDifferent items) ∧
    (∀ moved items', items.Perm moved → List.Forall₂ (fun a b => a = b ∨ a.same b = true) moved items' →
      (∀ item ∈ items', item.Distinct) → (uniqueItems (.array items) = [] ↔ uniqueItems (.array items') = [])) ∧
    (uniqueItems (.array items) ≠ [] → ∃ place item, items[place]? = some item ∧ Recurs items place ∧
      (∀ before < place, ¬ Recurs items before) ∧
      uniqueItems (.array items) = ["Items of array must be unique, " ++ item.describe ++ " appears more than once"]) := by
  refine ⟨?_, fun moved items' order replaced distinct' => ?_, fun rejected => ?_⟩
  · rw [unique_items_accepts, unrepeated_iff_different distinct]
  · rw [unique_items_accepts, unique_items_accepts, unrepeated_rearranged distinct order replaced distinct']
  · rw [ne_eq, unique_items_accepts, ← ne_eq, Option.ne_none_iff_exists'] at rejected
    obtain ⟨item, found⟩ := rejected
    obtain ⟨place, here, recurs, first⟩ := first_repeated_place found
    exact ⟨place, item, here, recurs, first, by simp only [uniqueItems, found]⟩

theorem unique_items_exact_for_pairs :
    let one := Json.number (.integer 1)
    let point := Json.number (.binary (.finite false 4503599627370496 (-52)))
    let pair := Json.object [("a", one), ("b", .null)]
    let pair' := Json.object [("b", .null), ("a", point)]
    AllDifferent [one, pair, .bool true] ∧ uniqueItems (.array [pair', .bool true, one]) = [] ∧
      uniqueItems (.array [one, pair, pair', point]) = ["Items of array must be unique, 1 appears more than once"] := by
  intro one point pair pair'
  have distinct : pair.Distinct ∧ pair'.Distinct := by simp [pair, pair', one, point]
  have apart : ∀ item ∈ [one, pair, .bool true], item.Distinct := by simp [one, distinct]
  have apart' : ∀ item ∈ [pair', .bool true, one], item.Distinct := by simp [one, distinct]
  have repeated : ∀ item ∈ [one, pair, pair', point], item.Distinct := by simp [one, point, distinct]
  obtain ⟨accepts, blind, _⟩ := unique_items_exact apart
  obtain ⟨_, _, names⟩ := unique_items_exact repeated
  have accepted : uniqueItems (.array [one, pair, .bool true]) = [] := by decide +kernel
  have order : [one, pair, .bool true].Perm [pair, .bool true, one] := (List.perm_append_singleton one _).symm
  have replaced : List.Forall₂ (fun a b => a = b ∨ a.same b = true) [pair, .bool true, one] [pair', .bool true, one] :=
    .cons (.inr (by decide +kernel)) (.cons (.inl rfl) (.cons (.inl rfl) .nil))
  refine ⟨accepts.mp accepted, (blind _ _ order replaced apart').mp accepted, ?_⟩
  obtain ⟨place, item, here, _, first, message⟩ := names (by decide +kernel)
  have recurs : Recurs [one, pair, pair', point] 0 := (recurs_first _ _).mpr (by decide +kernel)
  obtain rfl : place = 0 := Nat.le_zero.mp (Nat.le_of_not_lt fun behind => first 0 behind recurs)
  cases here
  exact message

end Conform.Keyword
