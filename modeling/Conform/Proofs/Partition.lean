import Conform.Proofs.Conjunction
import Conform.Proofs.Patterns
import Conform.Proofs.Verdicts

set_option autoImplicit false

namespace Conform.Keyword

variable {declared patterns : List (String × Check)} {rest other : Check} {key : String} {value : Json}

def isFoundIn (source text : String) : Bool :=
  (meaning? source).any fun pattern => pattern.found? text == some true

def Searchable (source text : String) : Prop :=
  ∀ pattern, Pattern.compile source = .ok pattern → pattern.found? text ≠ none

def calls (declared patterns : List (String × Check)) (key : String) : List Check :=
  (member? key declared).toList ++ (patterns.filter fun entry => isFoundIn entry.1 key).map (·.2)

def Answers (value : Json) (checks : List Check) (found : List Findings) : Prop :=
  List.Forall₂ (fun check own => (check value).outcome = .ok own) checks found

-- The share of one member in the findings on an object.
inductive Finds (declared patterns : List (String × Check)) (rest : Check) : String × Json → Findings → Prop where
  | called {key : String} {value : Json} {own : List Findings} (some : calls declared patterns key ≠ [])
      (answers : Answers value (calls declared patterns key) own) : Finds declared patterns rest (key, value) own.flatten
  | further {key : String} {value : Json} {own : Findings} (none : calls declared patterns key = [])
      (answers : (rest value).outcome = .ok own) :
      Finds declared patterns rest (key, value) (own.map fun message => "Property '" ++ key ++ "': " ++ message)

theorem is_found_in_iff (source text : String) : isFoundIn source text = true ↔ Pattern.Finds source text := by
  unfold isFoundIn Pattern.Finds
  cases read : meaning? source with
  | none =>
      have unread : ∀ pattern, Pattern.compile source ≠ .ok pattern := by
        intro pattern compiled
        rw [(meaning_iff source pattern).mpr compiled] at read
        cases read
      simp [unread]
  | some pattern => simp [(meaning_iff source pattern).mp read]

theorem calls_nothing (declared patterns : List (String × Check)) (key : String) : calls declared patterns key = [] ↔
    hasMember key declared = false ∧ ∀ entry ∈ patterns, ¬ Pattern.Finds entry.1 key := by
  simp only [calls, List.append_eq_nil_iff, List.map_eq_nil_iff, List.filter_eq_nil_iff, is_found_in_iff]
  cases named : member? key declared <;> simp [hasMember, named]

theorem searchable_compiled {source : String} {pattern : Pattern} (read : meaning? source = some pattern) (text : String) :
    (Searchable source text ↔ pattern.found? text ≠ none) ∧ isFoundIn source text = (pattern.found? text == some true) := by
  have compiled := (meaning_iff source pattern).mp read
  simp [Searchable, isFoundIn, compiled, read]

theorem searchable_defective {source : String} (read : meaning? source = none) (text : String) :
    Searchable source text ∧ isFoundIn source text = false := by
  constructor
  · intro pattern compiled
    rw [(meaning_iff source pattern).mpr compiled] at read
    cases read
  · simp [isFoundIn, read]

theorem when_found {pattern : Pattern} {check : Check} {answer : Bool} (found : pattern.found? key = some answer) :
    Check.whenCalled (isFound pattern key) check value =
      if answer then (check value).andThen fun own => .result (some own) else .result none := by
  simp only [Check.whenCalled, isFound, found, Logged.bind_eq, Logged.result_and_then]
  rfl

theorem when_crossed {pattern : Pattern} {check : Check} (crossed : pattern.found? key = none) :
    (Check.whenCalled (isFound pattern key) check value).outcome = .error .crossedGroup := by
  simp only [Check.whenCalled, isFound, crossed]
  rfl

theorem when_called_ok {pattern : Pattern} {check : Check} {result : Option Findings} :
    (Check.whenCalled (isFound pattern key) check value).outcome = .ok result ↔ pattern.found? key ≠ none ∧
      if pattern.found? key = some true then ∃ own, (check value).outcome = .ok own ∧ result = some own
      else result = none := by
  cases found : pattern.found? key with
  | none => simp [when_crossed found]
  | some answer =>
      rw [when_found found]
      cases answer with
      | false => simp [Logged.result, eq_comm]
      | true =>
          have same : ∀ own : Findings, some own = result ↔ result = some own := fun own => eq_comm
          simp [Logged.and_then_ok, Logged.result, same]

def Searches (key : String) (value : Json) (patterns : List (String × Check)) (own : List Findings) : Prop :=
  ∃ matched, (Logged.each (fun search => Check.whenCalled (search.1 key) search.2 value)
    (patterns.filterMap searchOf)).outcome = .ok matched ∧ matched.filterMap id = own

theorem searches_defective {entry : String × Check} (read : meaning? entry.1 = none) (own : List Findings) :
    Searches key value (entry :: patterns) own ↔ Searches key value patterns own := by
  have none : searchOf entry = none := by simp [searchOf, read]
  rw [Searches, List.filterMap_cons_none none, Searches]

theorem searches_compiled {entry : String × Check} {pattern : Pattern} (read : meaning? entry.1 = some pattern)
    (own : List Findings) : Searches key value (entry :: patterns) own ↔
      ∃ result more, (Check.whenCalled (isFound pattern key) entry.2 value).outcome = .ok result ∧
        Searches key value patterns more ∧ own = result.toList ++ more := by
  have some : searchOf entry = some (isFound pattern, entry.2) := by simp [searchOf, read]
  rw [Searches, List.filterMap_cons_some some]
  simp only [Logged.each_ok_iff, List.forall₂_cons_left_iff, Searches]
  constructor
  · rintro ⟨_, ⟨result, matched, first, later, rfl⟩, rfl⟩
    exact ⟨result, _, first, ⟨matched, later, rfl⟩, by cases result <;> rfl⟩
  · rintro ⟨result, _, first, ⟨matched, later, rfl⟩, rfl⟩
    exact ⟨_, ⟨result, matched, first, later, rfl⟩, by cases result <;> rfl⟩

theorem searches_ok (own : List Findings) : Searches key value patterns own ↔
    (∀ entry ∈ patterns, Searchable entry.1 key) ∧
      Answers value ((patterns.filter fun entry => isFoundIn entry.1 key).map (·.2)) own := by
  induction patterns generalizing own with
  | nil => simp [Searches, Logged.each, Logged.result, Answers, eq_comm]
  | cons entry patterns ih =>
      rw [List.forall_mem_cons]
      cases read : meaning? entry.1 with
      | none =>
          obtain ⟨searchable, unfound⟩ := searchable_defective read key
          rw [searches_defective read, ih, List.filter_cons_of_neg (by simp [unfound])]
          simp only [searchable, true_and]
      | some pattern =>
          obtain ⟨searchable, answered⟩ := searchable_compiled read key
          rw [searches_compiled read, searchable]
          simp only [when_called_ok, ih]
          by_cases found : pattern.found? key = some true
          · rw [List.filter_cons_of_pos (by simp [answered, found])]
            simp only [found, if_true, List.map_cons, Answers, List.forall₂_cons_left_iff]
            constructor
            · rintro ⟨_, more, ⟨searched, answer, told, rfl⟩, ⟨others, answers⟩, same⟩
              exact ⟨⟨searched, others⟩, answer, more, told, answers, same⟩
            · rintro ⟨⟨searched, others⟩, answer, more, told, answers, same⟩
              exact ⟨some answer, more, ⟨searched, answer, told, rfl⟩, ⟨others, answers⟩, same⟩
          · rw [List.filter_cons_of_neg (by simp [answered, found])]
            simp only [found, if_false]
            constructor
            · rintro ⟨_, more, ⟨searched, rfl⟩, ⟨others, answers⟩, rfl⟩
              exact ⟨⟨searched, others⟩, answers⟩
            · rintro ⟨⟨searched, others⟩, answers⟩
              exact ⟨none, own, ⟨searched, rfl⟩, ⟨others, answers⟩, rfl⟩

theorem answers_split {checks more : List Check} {found : List Findings} (answers : Answers value (checks ++ more) found) :
    ∃ own others, Answers value checks own ∧ Answers value more others ∧ found = own ++ others := by
  have front := List.forall₂_take checks.length answers
  have back := List.forall₂_drop checks.length answers
  rw [List.take_left] at front
  rw [List.drop_left] at back
  exact ⟨_, _, front, back, (List.take_append_drop _ _).symm⟩

theorem answers_empty_iff {checks : List Check} {found : List Findings} (answers : Answers value checks found) :
    checks = [] ↔ found = [] := by
  rw [← List.length_eq_zero_iff, ← List.length_eq_zero_iff, answers.length_eq]

def share (rest : Check) (key : String) (value : Json) : List Findings → Traced Findings
  | [] => (rest value).andThen fun found => .result (found.map fun message => "Property '" ++ key ++ "': " ++ message)
  | called => .result called.flatten

theorem member_runs (found : Findings) :
    (Check.member declared (patterns.filterMap searchOf) rest (key, value)).outcome = .ok found ↔
      (∀ entry ∈ patterns, Searchable entry.1 key) ∧
        ∃ own, Answers value (calls declared patterns key) own ∧ (share rest key value own).outcome = .ok found := by
  constructor
  · intro returned
    obtain ⟨named, first, next⟩ := (Logged.and_then_ok _ _ _).mp returned
    obtain ⟨matched, second, last⟩ := (Logged.and_then_ok _ _ _).mp next
    obtain ⟨searched, byPattern⟩ := (searches_ok _).mp ⟨matched, second, rfl⟩
    have byName : Answers value (member? key declared).toList named := (Logged.each_ok_iff _ _ _).mp first
    exact ⟨searched, _, List.rel_append byName byPattern, last⟩
  · rintro ⟨searched, own, answers, told⟩
    obtain ⟨named, others, byName, byPattern, rfl⟩ := answers_split answers
    obtain ⟨matched, second, rfl⟩ := (searches_ok others).mpr ⟨searched, byPattern⟩
    apply (Logged.and_then_ok _ _ _).mpr
    exact ⟨named, (Logged.each_ok_iff _ _ _).mpr byName, (Logged.and_then_ok _ _ _).mpr ⟨matched, second, told⟩⟩

theorem finds_share (found : Findings) : Finds declared patterns rest (key, value) found ↔
    ∃ own, Answers value (calls declared patterns key) own ∧ (share rest key value own).outcome = .ok found := by
  constructor
  · intro finds
    cases finds with
    | @called _ _ own some answers =>
        refine ⟨own, answers, ?_⟩
        cases own with
        | nil => exact absurd ((answers_empty_iff answers).mpr rfl) some
        | cons => rfl
    | further none answered =>
        refine ⟨[], ?_, (Logged.and_then_ok _ _ _).mpr ⟨_, answered, rfl⟩⟩
        rw [none]
        exact .nil
  · rintro ⟨own, answers, told⟩
    cases own with
    | nil =>
        obtain ⟨found, answered, same⟩ := (Logged.and_then_ok _ _ _).mp told
        cases same
        exact .further ((answers_empty_iff answers).mpr rfl) answered
    | cons head tail =>
        cases told
        apply Finds.called _ answers
        simp [answers_empty_iff answers]

theorem member_ok {member : String × Json} {found : Findings} :
    (Check.member declared (patterns.filterMap searchOf) rest member).outcome = .ok found ↔
      (∀ entry ∈ patterns, Searchable entry.1 member.1) ∧ Finds declared patterns rest member found := by
  rw [finds_share]
  exact member_runs found

theorem answers_nothing {checks : List Check} {found : List Findings} (answers : Answers value checks found) :
    found.flatten = [] ↔ ∀ check ∈ checks, (check value).outcome = .ok [] := by
  induction answers with
  | nil => simp
  | @cons check own _ _ first _ ih => simp [first, ih]

theorem finds_nothing (member : String × Json) : Finds declared patterns rest member [] ↔
    MemberHolds declared patterns (fun check => (check member.2).outcome = .ok []) ((rest member.2).outcome = .ok [])
      member.1 := by
  obtain ⟨key, value⟩ := member
  have byName : (∀ check ∈ calls declared patterns key, (check value).outcome = .ok []) ↔
      (∀ check, member? key declared = some check → (check value).outcome = .ok []) ∧
        ∀ entry ∈ patterns, Pattern.Finds entry.1 key → (entry.2 value).outcome = .ok [] := by
    simp only [calls, List.forall_mem_append, List.forall_mem_map, List.mem_filter, is_found_in_iff, and_imp,
      Option.mem_toList]
  unfold MemberHolds
  rw [← and_assoc, ← byName, ← and_imp, ← calls_nothing]
  constructor
  · have sound : ∀ found, Finds declared patterns rest (key, value) found → found = [] →
        (∀ check ∈ calls declared patterns key, (check value).outcome = .ok []) ∧
          (calls declared patterns key = [] → (rest value).outcome = .ok []) := by
      intro found finds nothing
      cases finds with
      | called some answers => exact ⟨(answers_nothing answers).mp nothing, fun none => absurd none some⟩
      | further none answered =>
          rw [List.map_eq_nil_iff.mp nothing] at answered
          exact ⟨by simp [none], fun _ => answered⟩
    exact fun finds => sound [] finds rfl
  · rintro ⟨accepted, further⟩
    by_cases none : calls declared patterns key = []
    · exact .further none (further none)
    · have answers : Answers value (calls declared patterns key) ((calls declared patterns key).map fun _ => []) :=
        List.forall₂_map_right_iff.mpr (List.forall₂_same.mpr accepted)
      have found : Finds declared patterns rest (key, value) _ := .called none answers
      rwa [(answers_nothing answers).mpr accepted] at found

theorem member_claimed (unclaimed : calls declared patterns key = [] → rest value = other value) :
    Check.member declared (patterns.filterMap searchOf) rest (key, value) =
      Check.member declared (patterns.filterMap searchOf) other (key, value) := by
  refine Logged.and_then_congr fun named first => Logged.and_then_congr fun matched second => ?_
  have byName : Answers value (member? key declared).toList named := (Logged.each_ok_iff _ _ _).mp first
  have byPattern := ((searches_ok _).mp ⟨matched, second, rfl⟩).2
  have answers : Answers value (calls declared patterns key) (named ++ matched.filterMap id) := List.rel_append byName byPattern
  by_cases nothing : named ++ matched.filterMap id = []
  · rw [nothing, unclaimed ((answers_empty_iff answers).mpr nothing)]
  · obtain ⟨head, tail, some⟩ := List.exists_cons_of_ne_nil nothing
    rw [some]

theorem members_ok {defects found : Findings} {members : List (String × Json)} :
    (Check.members declared (patterns.filterMap searchOf) defects rest (.object members)).outcome = .ok found ↔
      (∀ member ∈ members, ∀ entry ∈ patterns, Searchable entry.1 member.1) ∧
        ∃ shares, List.Forall₂ (Finds declared patterns rest) members shares ∧ found = defects ++ shares.flatten := by
  have shares : ∀ shares, (Logged.each (Check.member declared (patterns.filterMap searchOf) rest) members).outcome = .ok shares ↔
      (∀ member ∈ members, ∀ entry ∈ patterns, Searchable entry.1 member.1) ∧
        List.Forall₂ (Finds declared patterns rest) members shares := by
    intro shares
    simp only [Logged.each_ok_iff, member_ok]
    exact List.forall₂_and_left _ _
  rw [Check.members, Logged.bind_eq, Logged.and_then_ok]
  simp only [shares, and_assoc, exists_and_left]
  simp [pure, Logged.result, eq_comm]

theorem no_defects (patterns : List (String × Check)) : patterns.filterMap defectOf = [] ↔
    ∀ entry ∈ patterns, ∃ pattern, Pattern.compile entry.1 = .ok pattern := by
  simp only [List.filterMap_eq_nil_iff, ← meaning_iff, ← Option.isSome_iff_exists]
  refine forall₂_congr fun entry _ => ?_
  by_cases read : (meaning? entry.1).isSome <;> simp [defectOf, read]

theorem members_partitioned (declared patterns : List (String × Check)) (rest : Check)
    (legible : ∀ entry ∈ patterns, Pattern.Legible entry.1) :
    ∃ check, (properties declared patterns rest).outcome = .ok check ∧
      (∀ value, (∀ members, value ≠ .object members) → check value = .result []) ∧
      (∀ members found, (check (.object members)).outcome = .ok found ↔
        (∀ member ∈ members, ∀ entry ∈ patterns, Searchable entry.1 member.1) ∧
          ∃ shares, List.Forall₂ (Finds declared patterns rest) members shares ∧
            found = patterns.filterMap defectOf ++ shares.flatten) ∧
      (∀ members, (check (.object members)).outcome = .ok [] ↔
        (∀ entry ∈ patterns, ∃ pattern, Pattern.compile entry.1 = .ok pattern) ∧
          ∀ member ∈ members, (∀ entry ∈ patterns, Searchable entry.1 member.1) ∧
            MemberHolds declared patterns (fun check => (check member.2).outcome = .ok []) ((rest member.2).outcome = .ok [])
              member.1) ∧
      ∀ other, ∃ check', (properties declared patterns other).outcome = .ok check' ∧ ∀ members,
        (∀ member ∈ members, calls declared patterns member.1 = [] → rest member.2 = other member.2) →
          check (.object members) = check' (.object members) := by
  have compiled : ∀ other, (properties declared patterns other).outcome =
      .ok (Check.members declared (patterns.filterMap searchOf) (patterns.filterMap defectOf) other) :=
    fun other => properties_ok.mpr ⟨legible, rfl⟩
  refine ⟨_, compiled rest, ?_, fun members found => members_ok, fun members => ?_, fun other => ⟨_, compiled other, ?_⟩⟩
  · intro value other
    cases value with
    | object members => exact absurd rfl (other members)
    | _ => rfl
  · rw [members_ok, ← no_defects, forall₂_and]
    have accepted : (∃ shares, List.Forall₂ (Finds declared patterns rest) members shares ∧ [] = shares.flatten) ↔
        ∀ member ∈ members, Finds declared patterns rest member [] := Check.shares_nothing
    simp only [← finds_nothing, ← accepted, List.nil_eq_append_iff]
    constructor
    · rintro ⟨searched, shares, finds, sane, nothing⟩
      exact ⟨sane, searched, shares, finds, nothing.symm⟩
    · rintro ⟨sane, searched, shares, finds, nothing⟩
      exact ⟨searched, shares, finds, sane, nothing.symm⟩
  · intro members unclaimed
    have same : Logged.each (Check.member declared (patterns.filterMap searchOf) rest) members =
        Logged.each (Check.member declared (patterns.filterMap searchOf) other) members :=
      Logged.each_congr fun member inside => member_claimed (unclaimed member inside)
    rw [Check.members, Check.members, same]

theorem members_partitioned_for_overlaps :
    let declared := [("ab", Check.reject "declared")]
    let patterns := [("^a", Check.reject "first"), ("(", Check.accept), ("b$", Check.reject "last")]
    let members := [("ab", Json.null), ("cb", Json.null), ("c", Json.null)]
    let message := "Pattern '(' of 'patternProperties' is not a valid regular expression"
    (∀ entry ∈ patterns, Pattern.Legible entry.1) ∧ ∃ shares,
      List.Forall₂ (Finds declared patterns (Check.reject "more")) members shares ∧
        [message, "declared", "first", "last", "last", "Property 'c': more"] =
          patterns.filterMap defectOf ++ shares.flatten := by
  intro declared patterns members message
  have legible : ∀ entry ∈ patterns, Pattern.Legible entry.1 := by
    simp only [patterns, List.forall_mem_cons, ← read_pattern_legible "regular expression"]
    exact ⟨⟨_, rfl⟩, ⟨_, rfl⟩, ⟨_, rfl⟩, nofun⟩
  obtain ⟨check, compiled, _, gathered, _⟩ := members_partitioned declared patterns (Check.reject "more") legible
  have found : (check (.object members)).outcome =
      .ok [message, "declared", "first", "last", "last", "Property 'c': more"] := by
    cases compiled
    rfl
  exact ⟨legible, ((gathered members _).mp found).2⟩

end Conform.Keyword
