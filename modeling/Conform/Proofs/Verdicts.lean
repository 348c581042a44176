import Conform.Proofs.Compilation
import Conform.Proofs.Rules

set_option autoImplicit false

namespace Conform

open Logged

structure Decides (x : Traced Findings) (sure possible : Prop) : Prop where
  sound : x.outcome = .ok [] → sure
  complete : possible → ∀ found, x.outcome = .ok found → found = []

section Combinators

variable {sure possible sure' possible' : Prop}

theorem decides_of_returned {x : Traced Findings}
    (returned : ∀ found, x.outcome = .ok found → (found = [] → sure) ∧ (possible → found = [])) : Decides x sure possible :=
  ⟨fun accepted => (returned [] accepted).1 rfl, fun holds found answered => (returned found answered).2 holds⟩

theorem decides_iff {x : Traced Findings} (decides : Decides x sure possible) (onward : sure → sure')
    (back : possible' → possible) : Decides x sure' possible' :=
  ⟨fun accepted => onward (decides.sound accepted), fun holds => decides.complete (back holds)⟩

theorem decides_result (found : Findings) : Decides (.result found) (found = []) (found = []) := by
  constructor
  · exact fun accepted => Except.ok.inj accepted
  · rintro rfl other returned
    exact (Except.ok.inj returned).symm

theorem decides_append {x y : Traced Findings} (first : Decides x sure possible) (second : Decides y sure' possible') :
    Decides (x.andThen fun a => y.andThen fun b => .result (a ++ b)) (sure ∧ sure') (possible ∧ possible') := by
  constructor
  · intro accepted
    obtain ⟨a, left, rest⟩ := (and_then_ok _ _ _).mp accepted
    obtain ⟨b, right, last⟩ := (and_then_ok _ _ _).mp rest
    obtain ⟨rfl, rfl⟩ := List.append_eq_nil_iff.mp (Except.ok.inj last)
    exact ⟨first.sound left, second.sound right⟩
  · rintro ⟨holds, holds'⟩ found returned
    obtain ⟨a, left, rest⟩ := (and_then_ok _ _ _).mp returned
    obtain ⟨b, right, last⟩ := (and_then_ok _ _ _).mp rest
    cases last
    rw [first.complete holds a left, second.complete holds' b right, List.append_nil]

theorem decides_compiled {x : Traced Check} {check : Check} {value : Json} (compiled : x.outcome = .ok check)
    (decides : Decides (x.andThen fun check => check value) sure possible) : Decides (check value) sure possible := by
  have same : (x.andThen fun check => check value).outcome = (check value).outcome := by
    rw [and_then_outcome, compiled]
    rfl
  exact ⟨fun accepted => decides.sound (same.trans accepted),
    fun holds found returned => decides.complete holds found (same.trans returned)⟩

theorem decides_of_compiled {x : Traced Check} {value : Json}
    (decides : ∀ check, x.outcome = .ok check → Decides (check value) sure possible) :
    Decides (x.andThen fun check => check value) sure possible := by
  constructor
  · intro accepted
    obtain ⟨check, compiled, applied⟩ := (and_then_ok _ _ _).mp accepted
    exact (decides check compiled).sound applied
  · intro holds found returned
    obtain ⟨check, compiled, applied⟩ := (and_then_ok _ _ _).mp returned
    exact (decides check compiled).complete holds found applied

def gathered (x : Traced (List Findings)) : Traced Findings :=
  x.andThen fun found => .result found.flatten

theorem gathered_cons (x : Traced Findings) (rest : Traced (List Findings)) :
    gathered (x.andThen fun found => rest.andThen fun others => .result (found :: others)) =
      x.andThen fun found => (gathered rest).andThen fun others => .result (found ++ others) := by
  simp only [gathered, and_then_assoc, result_and_then, List.flatten_cons]

theorem decides_nil : Decides (gathered (.result [])) True True :=
  decides_iff (decides_result []) (fun _ => trivial) fun _ => rfl

theorem decides_each {α : Type} {f : α → Traced Findings} {sure possible : α → Prop} {as : List α}
    (steps : ∀ a ∈ as, Decides (f a) (sure a) (possible a)) :
    Decides (gathered (each f as)) (∀ a ∈ as, sure a) (∀ a ∈ as, possible a) := by
  induction as with
  | nil => exact decides_iff decides_nil (fun _ _ member => absurd member List.not_mem_nil) fun _ => trivial
  | cons head tail ih =>
      have both := decides_append (steps head (List.mem_cons_self ..)) (ih fun a member => steps a (List.mem_cons_of_mem _ member))
      rw [each, gathered_cons]
      exact decides_iff both List.forall_mem_cons.mpr List.forall_mem_cons.mp

theorem decides_all {α : Type} {checks : List Check} {as : List α} {value : Json} {sure possible : α → Prop}
    (steps : List.Forall₂ (fun a check => Decides (check value) (sure a) (possible a)) as checks) :
    Decides (Check.all checks value) (∀ a ∈ as, sure a) (∀ a ∈ as, possible a) := by
  change Decides (gathered (each (fun check : Check => check value) checks)) _ _
  induction steps with
  | nil => exact decides_iff decides_nil (fun _ _ member => absurd member List.not_mem_nil) fun _ => trivial
  | cons first _ ih =>
      rw [each, gathered_cons]
      exact decides_iff (decides_append first ih) List.forall_mem_cons.mpr List.forall_mem_cons.mp

-- An attempt that finds nothing ends the search; what is found before it does not count.
theorem decides_any_after {α : Type} {checks : List Check} {as : List α} {value : Json} {sure possible : α → Prop}
    (steps : List.Forall₂ (fun a check => Decides (check value) (sure a) (possible a)) as checks) (before : Findings) :
    Decides (Check.anyAfter before checks value) (∃ a ∈ as, sure a) (∃ a ∈ as, possible a) := by
  induction steps generalizing before with
  | nil =>
      constructor
      · intro accepted
        have none : (if before.isEmpty then _ else before) = [] := Except.ok.inj accepted
        split at none
        · cases none
        · simp_all
      · rintro ⟨_, member, _⟩
        exact absurd member List.not_mem_nil
  | @cons a check _ checks first _ ih =>
      constructor
      · intro accepted
        obtain ⟨own, returned, rest⟩ := (and_then_ok _ _ _).mp accepted
        by_cases empty : own.isEmpty
        · obtain rfl := List.isEmpty_iff.mp empty
          exact ⟨a, List.mem_cons_self .., first.sound returned⟩
        · rw [if_neg empty] at rest
          obtain ⟨b, member, holds⟩ := (ih (before ++ own)).sound rest
          exact ⟨b, List.mem_cons_of_mem _ member, holds⟩
      · rintro ⟨b, member, holds⟩ found returned
        obtain ⟨own, answered, rest⟩ := (and_then_ok _ _ _).mp returned
        by_cases empty : own.isEmpty
        · rw [if_pos empty] at rest
          exact (Except.ok.inj rest).symm
        · rw [if_neg empty] at rest
          rcases List.mem_cons.mp member with rfl | later
          · exact absurd (List.isEmpty_iff.mpr (first.complete holds own answered)) empty
          · exact (ih (before ++ own)).complete ⟨b, later, holds⟩ found rest

theorem decides_items {check : Check} {items : List Json} {sure possible : Json → Prop}
    (steps : ∀ item ∈ items, Decides (check item) (sure item) (possible item)) :
    Decides (Check.items check (.array items)) (∀ item ∈ items, sure item) (∀ item ∈ items, possible item) :=
  decides_each steps

theorem decides_positional {α : Type} {checks : List Check} {as : List α} {rest : Check} {on : Json → Prop}
    {sure possible : α → Json → Prop} {sureRest possibleRest : Json → Prop}
    (steps : List.Forall₂ (fun a check => ∀ item, on item → Decides (check item) (sure a item) (possible a item)) as checks)
    (others : ∀ item, on item → Decides (rest item) (sureRest item) (possibleRest item)) (items : List Json)
    (holds : ∀ item ∈ items, on item) :
    Decides (gathered (Check.positional rest checks items))
      ((∀ pair ∈ as.zip items, sure pair.1 pair.2) ∧ ∀ item ∈ items.drop as.length, sureRest item)
      ((∀ pair ∈ as.zip items, possible pair.1 pair.2) ∧ ∀ item ∈ items.drop as.length, possibleRest item) := by
  induction steps generalizing items with
  | nil =>
      cases items with
      | nil => exact decides_iff decides_nil (by simp) fun _ => trivial
      | cons item items =>
          exact decides_iff (decides_each fun item member => others item (holds item member)) (by simp) (by simp)
  | @cons a check _ checks first _ ih =>
      cases items with
      | nil => exact decides_iff decides_nil (by simp) fun _ => trivial
      | cons item items =>
          have head := first item (holds item (List.mem_cons_self ..))
          have tail := ih items fun other member => holds other (List.mem_cons_of_mem _ member)
          have both : Decides (gathered (Check.positional rest (check :: checks) (item :: items))) _ _ :=
            (gathered_cons (check item) (Check.positional rest checks items)).symm ▸ decides_append head tail
          refine decides_iff both ?_ ?_
          · rintro ⟨paired, ⟨pairs, more⟩⟩
            exact ⟨List.forall_mem_cons.mpr ⟨paired, pairs⟩, more⟩
          · rintro ⟨pairs, more⟩
            obtain ⟨paired, pairs⟩ := List.forall_mem_cons.mp pairs
            exact ⟨paired, pairs, more⟩

def Called (condition sure possible : Prop) : Option Findings → Prop
  | none => ¬ condition
  | some found => condition ∧ (found = [] → sure) ∧ (possible → found = [])

theorem called_findings {α : Type} {condition sure possible : α → Prop} {as : List α} {results : List (Option Findings)}
    (called : List.Forall₂ (fun a => Called (condition a) (sure a) (possible a)) as results) :
    (results.filterMap id = [] ↔ ∀ a ∈ as, ¬ condition a) ∧
      ((results.filterMap id).flatten = [] → ∀ a ∈ as, condition a → sure a) ∧
        ((∀ a ∈ as, condition a → possible a) → (results.filterMap id).flatten = []) := by
  induction called with
  | nil => simp
  | @cons a result _ results first _ ih =>
      obtain ⟨none, sound, complete⟩ := ih
      cases result with
      | none =>
          have uncalled : ¬ condition a := first
          refine ⟨by simpa [uncalled] using none, fun empty => ?_, fun holds => ?_⟩
          · exact List.forall_mem_cons.mpr ⟨fun condition => absurd condition uncalled, sound (by simpa using empty)⟩
          · simpa using complete (List.forall_mem_cons.mp holds).2
      | some found =>
          obtain ⟨condition, accepted, allowed⟩ := first
          have split : ((some found :: results).filterMap id).flatten = found ++ (results.filterMap id).flatten := rfl
          refine ⟨by simp [condition], fun empty => ?_, fun holds => ?_⟩
          · rw [split, List.append_eq_nil_iff] at empty
            exact List.forall_mem_cons.mpr ⟨fun _ => accepted empty.1, sound empty.2⟩
          · obtain ⟨own, others⟩ := List.forall_mem_cons.mp holds
            rw [split, allowed (own condition), complete others, List.append_nil]

theorem when_called_returned {test : Traced Bool} {check : Check} {value : Json} {result : Option Findings}
    {condition sure possible : Prop} (tests : ∀ answer, test.outcome = .ok answer → (answer = true ↔ condition))
    (decides : Decides (check value) sure possible)
    (returned : (Check.whenCalled test check value).outcome = .ok result) :
    Called condition sure possible result := by
  obtain ⟨answer, tested, rest⟩ := (and_then_ok _ _ _).mp returned
  have called := tests answer tested
  cases answer with
  | false =>
      cases rest
      exact fun holds => Bool.false_ne_true (called.mpr holds)
  | true =>
      obtain ⟨found, answered, last⟩ := (and_then_ok _ _ _).mp rest
      cases last
      exact ⟨called.mp rfl, fun empty => decides.sound (empty ▸ answered), fun holds => decides.complete holds found answered⟩

variable {α : Type} {declared : List (String × Check)} {patterns : List ((String → Traced Bool) × Check)} {rest : Check}
  {named sources : List (String × α)}

def MemberHolds (named sources : List (String × α)) (holds : α → Prop) (rest : Prop) (key : String) : Prop :=
  (∀ a, member? key named = some a → holds a) ∧ (∀ entry ∈ sources, Pattern.Finds entry.1 key → holds entry.2) ∧
    (hasMember key named = false → (∀ entry ∈ sources, ¬ Pattern.Finds entry.1 key) → rest)

theorem member_returned {key : String} {value : Json} {found : Findings}
    (returned : (Check.member declared patterns rest (key, value)).outcome = .ok found) :
    ∃ own matched, (Check.outcomes (member? key declared).toList value).outcome = .ok own ∧
      (Logged.each (fun p => Check.whenCalled (p.1 key) p.2 value) patterns).outcome = .ok matched ∧
        ((own = [] ∧ matched.filterMap id = []) ∧
            (∃ answer, (rest value).outcome = .ok answer ∧ (found = [] ↔ answer = [])) ∨
          ¬ (own = [] ∧ matched.filterMap id = []) ∧ found = own.flatten ++ (matched.filterMap id).flatten) := by
  obtain ⟨own, first, next⟩ := (and_then_ok _ _ _).mp returned
  obtain ⟨matched, second, last⟩ := (and_then_ok _ _ _).mp next
  refine ⟨own, matched, first, second, ?_⟩
  cases called : own ++ matched.filterMap id with
  | nil =>
      rw [called] at last
      obtain ⟨answer, answered, done⟩ := (and_then_ok _ _ _).mp last
      cases done
      exact .inl ⟨List.append_eq_nil_iff.mp called, answer, answered, List.map_eq_nil_iff⟩
  | cons head tail =>
      rw [called] at last
      cases last
      refine .inr ⟨fun none => ?_, ?_⟩
      · rw [List.append_eq_nil_iff.mpr none] at called
        cases called
      · rw [← called, List.flatten_append]

theorem decides_member {sure possible : α → Prop} {sureRest possibleRest : Prop} (key : String) (value : Json)
    (names : List.Forall₂ (fun a c => a.1 = c.1 ∧ Decides (c.2 value) (sure a.2) (possible a.2)) named declared)
    (matchers : List.Forall₂ (fun a p =>
        (∀ answer, (p.1 key).outcome = .ok answer → (answer = true ↔ Pattern.Finds a.1 key)) ∧
          Decides (p.2 value) (sure a.2) (possible a.2)) sources patterns)
    (others : Decides (rest value) sureRest possibleRest) :
    Decides (Check.member declared patterns rest (key, value)) (MemberHolds named sources sure sureRest key)
      (MemberHolds named sources possible possibleRest key) := by
  refine decides_of_returned fun found returned => ?_
  obtain ⟨own, matched, first, second, ending⟩ := member_returned returned
  have checks : List.Forall₂ (fun a (c : Check) => Decides (c value) (sure a) (possible a)) (member? key named).toList
      (member? key declared).toList := member_of_name_related names key
  have byName : List.Forall₂ (fun a => Called True (sure a) (possible a)) (member? key named).toList (own.map some) := by
    rw [List.forall₂_map_right_iff]
    refine each_ok_related _ (checks.imp fun a c decides answer answered => ?_) first
    exact ⟨trivial, fun empty => decides.sound (empty ▸ answered), fun holds => decides.complete holds answer answered⟩
  have byPattern : List.Forall₂ (fun a => Called (Pattern.Finds a.1 key) (sure a.2) (possible a.2)) sources matched :=
    each_ok_related _ (matchers.imp fun a p called result answered => when_called_returned called.1 called.2 answered) second
  obtain ⟨noName, soundName, completeName⟩ := called_findings byName
  obtain ⟨noPattern, soundPattern, completePattern⟩ := called_findings byPattern
  have same : (own.map some).filterMap id = own := by simp
  rw [same] at noName soundName completeName
  have unnamed : own = [] ↔ hasMember key named = false := by
    rw [noName]
    cases lookup : member? key named <;> simp [hasMember, lookup]
  rcases ending with ⟨⟨noOwn, noMatched⟩, answer, answered, same⟩ | ⟨called, rfl⟩
  · rw [same]
    constructor
    · rintro rfl
      refine ⟨fun a given => ?_, fun entry member finds => absurd finds (noPattern.mp noMatched entry member), fun _ _ => ?_⟩
      · exact absurd trivial (noName.mp noOwn a (Option.mem_toList.mpr given))
      · exact others.sound answered
    · rintro ⟨_, _, further⟩
      exact others.complete (further (unnamed.mp noOwn) (noPattern.mp noMatched)) answer answered
  · rw [List.append_eq_nil_iff]
    constructor
    · rintro ⟨ownEmpty, matchedEmpty⟩
      refine ⟨fun a given => soundName ownEmpty a (Option.mem_toList.mpr given) trivial, soundPattern matchedEmpty,
        fun noKey noSource => ?_⟩
      exact absurd ⟨unnamed.mpr noKey, noPattern.mpr noSource⟩ called
    · rintro ⟨byKey, bySource, _⟩
      exact ⟨completeName fun a member _ => byKey a (Option.mem_toList.mp member), completePattern bySource⟩

theorem decides_members {members : List (String × Json)} {holds possible : String × Json → Prop} (defects : Findings)
    (steps : defects = [] → ∀ entry ∈ members, Decides (Check.member declared patterns rest entry) (holds entry) (possible entry)) :
    Decides (Check.members declared patterns defects rest (.object members))
      (defects = [] ∧ ∀ entry ∈ members, holds entry) (defects = [] ∧ ∀ entry ∈ members, possible entry) := by
  by_cases sane : defects = []
  · subst sane
    exact decides_iff (decides_each (steps rfl)) (fun each => ⟨rfl, each⟩) And.right
  · refine decides_of_returned fun found returned => ⟨fun empty => ?_, fun holds => absurd holds.1 sane⟩
    obtain ⟨each, _, last⟩ := (and_then_ok _ _ _).mp returned
    exact absurd (List.append_eq_nil_iff.mp ((Except.ok.inj last).trans empty)).1 sane

end Combinators

end Conform
