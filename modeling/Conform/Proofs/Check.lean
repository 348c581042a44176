import Conform.Keyword
import Conform.Proofs.Trace

set_option autoImplicit false

namespace Conform

theorem member_of_name_related {α β : Type} {r : α → β → Prop} {as : List (String × α)} {bs : List (String × β)}
    (related : List.Forall₂ (fun a b => a.1 = b.1 ∧ r a.2 b.2) as bs) (key : String) :
    List.Forall₂ r (member? key as).toList (member? key bs).toList := by
  induction related with
  | nil => exact .nil
  | @cons a b _ _ first _ ih =>
      obtain ⟨name, left⟩ := a
      obtain ⟨_, right⟩ := b
      obtain ⟨rfl, holds⟩ := first
      dsimp only at holds
      by_cases same : name = key
      · simpa [member?, same] using holds
      · simpa [member?, same] using ih

namespace Json

def parts : Json → List Json
  | .array items => items
  | .object members => members.map (·.2)
  | _ => []

theorem depth_item (items : List Json) (item : Json) (member : item ∈ items) : item.depth ≤ depthItems items := by
  induction items with
  | nil => simp at member
  | cons head tail ih =>
      rcases List.mem_cons.mp member with rfl | later
      · exact Nat.le_max_left _ _
      · exact Nat.le_trans (ih later) (Nat.le_max_right _ _)

theorem depth_member (members : List (String × Json)) (entry : String × Json) (member : entry ∈ members) :
    entry.2.depth ≤ depthMembers members := by
  induction members with
  | nil => simp at member
  | cons head tail ih =>
      rcases List.mem_cons.mp member with rfl | later
      · exact Nat.le_max_left _ _
      · exact Nat.le_trans (ih later) (Nat.le_max_right _ _)

theorem depth_part (value part : Json) (member : part ∈ value.parts) : part.depth < value.depth := by
  cases value with
  | array items => exact Nat.lt_succ_of_le (depth_item items part member)
  | object members =>
      obtain ⟨entry, found, rfl⟩ := List.mem_map.mp member
      exact Nat.lt_succ_of_le (depth_member members entry found)
  | _ => simp [parts] at member

end Json

namespace Comparison

variable (K : Comparison)

def Agree (on : Json → Prop) (c d : Check) : Prop :=
  ∀ value, on value → K.relates Eq (c value) (d value)

def AgreeNamed (on : Json → Prop) (a b : String × Check) : Prop :=
  a.1 = b.1 ∧ K.Agree on a.2 b.2

variable {K} {on inside : Json → Prop}

theorem agree_of_results (judge : Json → Findings) : K.Agree on (Check.ofFindings judge) (Check.ofFindings judge) :=
  fun _ _ => K.result rfl

theorem agree_fewer {fewer : Json → Prop} {c d : Check} (agree : K.Agree on c d)
    (less : ∀ value, fewer value → on value) : K.Agree fewer c d :=
  fun value holds => agree value (less value holds)

theorem outcomes_agree {cs ds : List Check} (agree : List.Forall₂ (K.Agree on) cs ds) (value : Json)
    (holds : on value) : K.relates Eq (Check.outcomes cs value) (Check.outcomes ds value) := by
  have steps : List.Forall₂ (fun c d : Check => K.relates Eq (c value) (d value)) cs ds :=
    agree.imp fun c d related => related value holds
  exact weaken (each_related steps) fun _ _ same => by rwa [List.forall₂_eq_eq_eq] at same

theorem agree_all {cs ds : List Check} (agree : List.Forall₂ (K.Agree on) cs ds) :
    K.Agree on (Check.all cs) (Check.all ds) := by
  intro value holds
  refine K.andThen (outcomes_agree agree value holds) fun found _ same => ?_
  subst same
  exact K.result rfl

theorem any_after_agree {cs ds : List Check} (agree : List.Forall₂ (K.Agree on) cs ds) (found : Findings) :
    K.Agree on (Check.anyAfter found cs) (Check.anyAfter found ds) := by
  intro value holds
  induction agree generalizing found with
  | nil => exact K.result rfl
  | cons first _ ih =>
      refine K.andThen (first value holds) fun own _ same => ?_
      subst same
      split
      · exact K.result rfl
      · exact ih (found ++ own)

theorem agree_any {cs ds : List Check} (agree : List.Forall₂ (K.Agree on) cs ds) :
    K.Agree on (Check.any cs) (Check.any ds) :=
  any_after_agree agree []

theorem agree_one {cs ds : List Check} (agree : List.Forall₂ (K.Agree on) cs ds) :
    K.Agree on (Check.one cs) (Check.one ds) := by
  intro value holds
  refine K.andThen (outcomes_agree agree value holds) fun found _ same => ?_
  subst same
  dsimp only
  split
  · exact K.result rfl
  · split <;> exact K.result rfl

theorem agree_negate {c d : Check} (agree : K.Agree on c d) : K.Agree on (Check.negate c) (Check.negate d) := by
  intro value holds
  refine K.andThen (agree value holds) fun found _ same => ?_
  subst same
  exact K.result rfl

theorem agree_when_present {c d : Check} (key : String) (agree : K.Agree on c d) :
    K.Agree on (Check.whenPresent key c) (Check.whenPresent key d) := by
  intro value holds
  cases value with
  | object entries =>
      dsimp only [Check.whenPresent]
      split
      · exact agree _ holds
      · exact K.result rfl
  | _ => exact K.result rfl

variable (descends : ∀ value, on value → ∀ part ∈ value.parts, inside part)
include descends

theorem agree_items {c d : Check} (agree : K.Agree inside c d) : K.Agree on (Check.items c) (Check.items d) := by
  intro value holds
  cases value with
  | array values =>
      have steps : K.relates Eq (Logged.each c values) (Logged.each d values) :=
        each_same fun item member => agree item (descends _ holds item member)
      refine K.andThen steps fun found _ same => ?_
      subst same
      exact K.result rfl
  | _ => exact K.result rfl

omit descends in
theorem positional_related {rest other : Check} {cs ds : List Check} (agree : List.Forall₂ (K.Agree inside) cs ds)
    (agreeRest : K.Agree inside rest other) (values : List Json) (holds : ∀ item ∈ values, inside item) :
    K.relates Eq (Check.positional rest cs values) (Check.positional other ds values) := by
  induction agree generalizing values with
  | nil =>
      cases values with
      | nil => exact K.result rfl
      | cons value values => exact each_same fun item member => agreeRest item (holds item member)
  | cons first _ ih =>
      cases values with
      | nil => exact K.result rfl
      | cons value values =>
          refine K.andThen (first value (holds value (by simp))) fun found _ same => ?_
          subst same
          refine K.andThen (ih values fun item member => holds item (by simp [member])) fun others _ same => ?_
          subst same
          exact K.result rfl

theorem agree_tuple {rest other : Check} {cs ds : List Check} (agree : List.Forall₂ (K.Agree inside) cs ds)
    (agreeRest : K.Agree inside rest other) : K.Agree on (Check.tuple cs rest) (Check.tuple ds other) := by
  intro value holds
  cases value with
  | array values =>
      refine K.andThen (positional_related agree agreeRest values (descends _ holds)) fun found _ same => ?_
      subst same
      exact K.result rfl
  | _ => exact K.result rfl

omit descends in
theorem when_called_related {test other : Traced Bool} {c d : Check} (tests : K.relates Eq test other)
    (agree : K.Agree on c d) (value : Json) (holds : on value) :
    K.relates Eq (Check.whenCalled test c value) (Check.whenCalled other d value) := by
  refine K.andThen tests fun called _ same => ?_
  subst same
  split
  · refine K.andThen (agree value holds) fun found _ same => ?_
    subst same
    exact K.result rfl
  · exact K.result rfl

omit descends in
theorem member_related {declared declared' : List (String × Check)}
    {patterns patterns' : List ((String → Traced Bool) × Check)} {rest rest' : Check}
    (agree : List.Forall₂ (K.AgreeNamed on) declared declared') (entry : String × Json)
    (agreePatterns : List.Forall₂ (fun p q => K.relates Eq (p.1 entry.1) (q.1 entry.1) ∧ K.Agree on p.2 q.2)
      patterns patterns') (agreeRest : K.Agree on rest rest') (holds : on entry.2) :
    K.relates Eq (Check.member declared patterns rest entry) (Check.member declared' patterns' rest' entry) := by
  obtain ⟨key, value⟩ := entry
  refine K.andThen (outcomes_agree (member_of_name_related agree key) value holds) fun named _ same => ?_
  subst same
  have called : K.relates Eq
      (Logged.each (fun pattern => Check.whenCalled (pattern.1 key) pattern.2 value) patterns)
      (Logged.each (fun pattern => Check.whenCalled (pattern.1 key) pattern.2 value) patterns') := by
    have steps := agreePatterns.imp fun p q related => when_called_related related.1 related.2 value holds
    exact weaken (each_related steps) fun _ _ same => by rwa [List.forall₂_eq_eq_eq] at same
  refine K.andThen called fun matched _ same => ?_
  subst same
  split
  · refine K.andThen (agreeRest value holds) fun found _ same => ?_
    subst same
    exact K.result rfl
  · exact K.result rfl

theorem agree_members {declared declared' : List (String × Check)}
    {patterns patterns' : List ((String → Traced Bool) × Check)} {rest rest' : Check} (defects : Findings)
    (agree : List.Forall₂ (K.AgreeNamed inside) declared declared')
    (agreePatterns : List.Forall₂ (fun p q => (∀ entries, on (.object entries) → ∀ entry ∈ entries,
      K.relates Eq (p.1 entry.1) (q.1 entry.1)) ∧ K.Agree inside p.2 q.2) patterns patterns')
    (agreeRest : K.Agree inside rest rest') :
    K.Agree on (Check.members declared patterns defects rest) (Check.members declared' patterns' defects rest') := by
  intro value holds
  cases value with
  | object entries =>
      have steps : K.relates Eq (Logged.each (Check.member declared patterns rest) entries)
          (Logged.each (Check.member declared' patterns' rest') entries) :=
        each_same fun entry found => member_related agree entry
          (agreePatterns.imp fun p q related => ⟨related.1 entries holds entry found, related.2⟩) agreeRest
          (descends _ holds entry.2 (List.mem_map_of_mem found))
      refine K.andThen steps fun found _ same => ?_
      subst same
      exact K.result rfl
  | _ => exact K.result rfl

end Comparison

end Conform
