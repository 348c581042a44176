import Conform.Proofs.Patterns
import Conform.Proofs.Verdicts

set_option autoImplicit false

namespace Conform.Schema

open Logged

-- Compiled checks that all accept make a statement sure; its being possible rules out findings of each.
structure Settles (group : Traced (List Check)) (value : Json) (sure possible : Prop) : Prop where
  sound : ∀ checks, group.outcome = .ok checks → (∀ check ∈ checks, (check value).outcome = .ok []) → sure
  complete : possible → ∀ checks, group.outcome = .ok checks → ∀ check ∈ checks, ∀ found,
    (check value).outcome = .ok found → found = []

theorem settles_none {value : Json} {sure possible : Prop} (holds : sure) : Settles (.result []) value sure possible := by
  constructor
  · exact fun _ _ _ => holds
  · intro _ checks compiled check member
    cases compiled
    exact absurd member List.not_mem_nil

theorem settles_check {check : Check} {value : Json} {sure possible : Prop} (decides : Decides (check value) sure possible) :
    Settles (.result [check]) value sure possible := by
  constructor
  · intro checks compiled accepted
    cases compiled
    exact decides.sound (accepted check (List.mem_singleton_self _))
  · intro holds checks compiled own member found returned
    cases compiled
    obtain rfl := List.mem_singleton.mp member
    exact decides.complete holds found returned

theorem settles_then {α : Type} {x : Traced α} {f : α → Traced (List Check)} {value : Json} {sure possible : Prop}
    (next : ∀ a, x.outcome = .ok a → Settles (f a) value sure possible) : Settles (x.andThen f) value sure possible := by
  constructor
  · intro checks compiled
    obtain ⟨a, first, second⟩ := (and_then_ok _ _ _).mp compiled
    exact (next a first).sound checks second
  · intro holds checks compiled
    obtain ⟨a, first, second⟩ := (and_then_ok _ _ _).mp compiled
    exact (next a first).complete holds checks second

theorem settles_each {α : Type} {f : α → Traced Check} {as : List α} {value : Json} {sure possible : α → Prop}
    (steps : ∀ a ∈ as, ∀ check, (f a).outcome = .ok check → Decides (check value) (sure a) (possible a)) :
    Settles (each f as) value (∀ a ∈ as, sure a) (∀ a ∈ as, possible a) := by
  constructor
  · intro checks compiled accepted a member
    obtain ⟨check, kept, returned⟩ := each_ok_member f as checks compiled a member
    exact (steps a member check returned).sound (accepted check kept)
  · intro holds checks compiled check kept found answered
    obtain ⟨a, member, returned⟩ := each_ok_source f as checks compiled check kept
    exact (steps a member check returned).complete (holds a member) found answered

theorem settles_iff {group : Traced (List Check)} {value : Json} {sure possible sure' possible' : Prop}
    (settles : Settles group value sure possible) (onward : sure → sure') (back : possible' → possible) :
    Settles group value sure' possible' :=
  ⟨fun checks compiled accepted => onward (settles.sound checks compiled accepted), fun holds => settles.complete (back holds)⟩

theorem is_found_ok {source text : String} {pattern : Pattern} {answer : Bool}
    (compiled : Pattern.compile source = .ok pattern) (returned : (Keyword.isFound pattern text).outcome = .ok answer) :
    answer = true ↔ Pattern.Finds source text := by
  unfold Keyword.isFound at returned
  split at returned
  case h_1 own found =>
    cases returned
    constructor
    · rintro rfl
      exact ⟨pattern, compiled, found⟩
    · rintro ⟨other, again, finds⟩
      cases compiled.symm.trans again
      exact Option.some.inj (found.symm.trans finds)
  case h_2 => cases returned

theorem patterns_read {α : Type} (relates : α → Check → Prop) {sources : List (String × α)}
    {patterns : List (String × Check)}
    (names : List.Forall₂ (fun a c => a.1 = c.1 ∧ relates a.2 c.2) sources patterns) :
    (patterns.filterMap Keyword.defectOf = [] ↔ ∀ entry ∈ sources, ∃ pattern, Pattern.compile entry.1 = .ok pattern) ∧
    ((∀ entry ∈ sources, ∃ pattern, Pattern.compile entry.1 = .ok pattern) →
      List.Forall₂ (fun (a : String × α) (p : (String → Traced Bool) × Check) =>
          (∀ key answer, (p.1 key).outcome = .ok answer → (answer = true ↔ Pattern.Finds a.1 key)) ∧ relates a.2 p.2)
        sources (patterns.filterMap Keyword.searchOf)) := by
  induction names with
  | nil => exact ⟨by simp, fun _ => .nil⟩
  | @cons a c _ _ first _ ih =>
      obtain ⟨none, kept⟩ := ih
      have source := Keyword.meaning_iff c.1
      rw [← first.1] at source
      cases read : Keyword.meaning? a.1 with
      | none =>
          have refused : ¬ ∃ pattern, Pattern.compile a.1 = .ok pattern := by
            rintro ⟨pattern, compiled⟩
            cases read.symm.trans ((source pattern).mpr compiled)
          refine ⟨?_, fun all => absurd (all a (List.mem_cons_self ..)) refused⟩
          simp [refused, Keyword.defectOf, ← first.1, read]
      | some pattern =>
          have compiled : Pattern.compile a.1 = .ok pattern := (source pattern).mp read
          constructor
          · simp [compiled, none, Keyword.defectOf, ← first.1, read]
          · intro all
            have search : Keyword.searchOf c = some (Keyword.isFound pattern, c.2) := by
              rw [Keyword.searchOf, ← first.1, read]
              rfl
            rw [List.filterMap_cons_some search]
            refine .cons ⟨fun key answer answered => is_found_ok compiled answered, first.2⟩ (kept fun entry member => ?_)
            exact all entry (List.mem_cons_of_mem _ member)

section Groups

variable (formats : Formats) (refer : Expansion) (sure possible : Judgement → Prop)

def Node.Decided (scope : Scope) (node : Node) (value : Json) : Prop :=
  Decides ((node.check formats refer scope).andThen fun check => check value) (sure (.schema node value))
    (possible (.schema node value))

variable {formats refer sure possible} {scope : Scope} {node : Node} {value : Json}

theorem list_decided {nodes : List Node} {checks : List Check} (on : Json → Prop)
    (decided : ∀ inner ∈ nodes, ∀ value, on value → inner.Decided formats refer sure possible scope value)
    (compiled : (each (fun inner => inner.check formats refer scope) nodes).outcome = .ok checks) :
    List.Forall₂ (fun inner check => ∀ value, on value →
      Decides (check value) (sure (.schema inner value)) (possible (.schema inner value))) nodes checks := by
  refine each_ok_related _ (List.forall₂_same.mpr fun inner member check returned value holds => ?_) compiled
  exact decides_compiled returned (decided inner member value holds)

theorem reference_settles (own : Option String)
    (decided : ∀ r, own = some r →
      Decides ((refer scope r).andThen fun check => check value) (sure (.reference r value)) (possible (.reference r value))) :
    Settles (referenceChecks refer scope own) value (∀ r, own = some r → sure (.reference r value))
      (∀ r, own = some r → possible (.reference r value)) := by
  cases own with
  | none => exact settles_none nofun
  | some r =>
      refine settles_iff (settles_then fun check compiled => settles_check (decides_compiled compiled (decided r rfl))) ?_ ?_
      · rintro holds s ⟨⟩
        exact holds
      · exact fun holds => holds r rfl

theorem peers_decided {nodes : List Node} {checks : List Check}
    (decided : ∀ inner ∈ nodes, inner.Decided formats refer sure possible scope value)
    (compiled : (each (fun inner => inner.check formats refer scope) nodes).outcome = .ok checks) :
    List.Forall₂ (fun inner check => Decides (check value) (sure (.schema inner value)) (possible (.schema inner value)))
      nodes checks := by
  have steps := list_decided (· = value) (fun inner member _ same => same ▸ decided inner member) compiled
  exact steps.imp fun _ _ decides => decides value rfl

theorem all_settles (nodes : Option (List Node))
    (decided : ∀ inner ∈ nodes.getD [], inner.Decided formats refer sure possible scope value) :
    Settles (combinedGroup formats refer Check.all nodes scope) value (∀ inner ∈ nodes.getD [], sure (.schema inner value))
      (∀ inner ∈ nodes.getD [], possible (.schema inner value)) := by
  cases nodes with
  | none => exact settles_none fun _ member => absurd member List.not_mem_nil
  | some nodes => exact settles_then fun _ compiled => settles_check (decides_all (peers_decided decided compiled))

theorem any_settles (nodes : Option (List Node))
    (decided : ∀ inner ∈ nodes.getD [], inner.Decided formats refer sure possible scope value) :
    Settles (combinedGroup formats refer Check.any nodes scope) value
      (∀ list, nodes = some list → ∃ inner ∈ list, sure (.schema inner value))
      (∀ list, nodes = some list → ∃ inner ∈ list, possible (.schema inner value)) := by
  cases nodes with
  | none => exact settles_none nofun
  | some nodes =>
      refine settles_iff (settles_then fun _ compiled =>
        settles_check (decides_any_after (peers_decided decided compiled) [])) ?_ ?_
      · rintro holds list ⟨⟩
        exact holds
      · exact fun holds => holds nodes rfl

def Extra.Holds (holds : Node → Prop) : Extra Node → Prop
  | .permit allowed => allowed = true
  | .schema node => holds node

theorem extra_decided {message : String} {extra : Extra Node} {check : Check}
    (decided : ∀ inner ∈ extra.schemas, inner.Decided formats refer sure possible scope value)
    (compiled : (checkExtra formats refer message extra scope).outcome = .ok check) :
    Decides (check value) (extra.Holds fun inner => sure (.schema inner value))
      (extra.Holds fun inner => possible (.schema inner value)) := by
  cases extra with
  | permit allowed =>
      cases compiled
      cases allowed with
      | true => exact decides_iff (decides_result []) (fun _ => rfl) fun _ => rfl
      | false => exact decides_iff (decides_result [message]) nofun nofun
  | schema inner => exact decides_compiled compiled (decided inner (List.mem_singleton_self _))

def Node.ItemsHold (node : Node) (holds : Judgement → Prop) (value : Json) : Prop :=
  ∀ items, value = .array items →
    node.PermitsItems items ∧ ∀ inner item, node.AsksOfItems items inner item → holds (.schema inner item)

theorem each_item_holds {holds : Judgement → Prop} {inner : Node} {items : List Json} (given : node.items = some inner) :
    node.ItemsHold holds (.array items) ↔ ∀ item ∈ items, holds (.schema inner item) := by
  constructor
  · exact fun all item member => (all items rfl).2 inner item (.each given member)
  · rintro each _ ⟨⟩
    refine ⟨fun nodes none => absurd (given.symm.trans none) nofun, fun other item asked => ?_⟩
    cases asked with
    | each found member =>
        cases given.symm.trans found
        exact each item member
    | position none => exact absurd (given.symm.trans none) nofun
    | further none => exact absurd (given.symm.trans none) nofun

theorem listed_items_hold {holds : Judgement → Prop} {nodes : List Node} {items : List Json} (single : node.items = none)
    (given : node.tupleItems = some nodes) :
    node.ItemsHold holds (.array items) ↔ (∀ pair ∈ nodes.zip items, holds (.schema pair.1 pair.2)) ∧
      ∀ item ∈ items.drop nodes.length, node.additionalItems.Holds fun inner => holds (.schema inner item) := by
  constructor
  · intro all
    obtain ⟨permits, asks⟩ := all items rfl
    refine ⟨fun pair paired => asks _ _ (.position single given paired), fun item member => ?_⟩
    cases extra : node.additionalItems with
    | permit allowed =>
        cases allowed with
        | true => exact rfl
        | false => exact absurd (permits nodes single given extra ▸ member) List.not_mem_nil
    | schema inner => exact asks inner item (.further single given extra member)
  · rintro ⟨paired, more⟩ _ ⟨⟩
    constructor
    · intro others _ found extra
      cases given.symm.trans found
      refine List.eq_nil_iff_forall_not_mem.mpr fun item member => ?_
      have allowed := more item member
      rw [extra] at allowed
      exact Bool.false_ne_true allowed
    · intro inner item asked
      cases asked with
      | each found => exact absurd (single.symm.trans found) nofun
      | position _ found pair =>
          cases given.symm.trans found
          exact paired _ pair
      | further _ found extra member =>
          cases given.symm.trans found
          have holds := more item member
          rwa [extra] at holds

theorem items_settle
    (decided : ∀ inner ∈ node.itemSchemas, ∀ part ∈ value.parts, inner.Decided formats refer sure possible scope part) :
    Settles (node.itemGroup formats refer scope) value (node.ItemsHold sure value) (node.ItemsHold possible value) := by
  cases single : node.items with
  | some inner =>
      simp only [Node.itemGroup, Node.itemSchemas, single, List.mem_singleton, forall_eq] at decided ⊢
      refine settles_then fun check compiled => settles_check ?_
      cases value with
      | array items =>
          rw [each_item_holds single, each_item_holds single]
          exact decides_items fun item member => decides_compiled compiled (decided item member)
      | _ => exact decides_iff (decides_result []) (fun _ _ same => by cases same) fun _ => rfl
  | none =>
      cases listed : node.tupleItems with
      | none =>
          simp only [Node.itemGroup, single, listed]
          refine settles_none fun items _ => ⟨fun nodes _ given => (by cases listed.symm.trans given), fun inner item asked => ?_⟩
          cases asked with
          | each found => cases single.symm.trans found
          | position _ found => cases listed.symm.trans found
          | further _ found => cases listed.symm.trans found
      | some nodes =>
          simp only [Node.itemGroup, Node.itemSchemas, single, listed, List.mem_append] at decided ⊢
          refine settles_then fun checks first => settles_then fun rest second => settles_check ?_
          cases value with
          | array items =>
              rw [listed_items_hold single listed, listed_items_hold single listed]
              have steps := list_decided (· ∈ items) (fun inner member => decided inner (.inl member)) first
              exact decides_positional steps
                (fun item holds => extra_decided (fun inner member => decided inner (.inr member) item holds) second)
                items fun _ member => member
          | _ => exact decides_iff (decides_result []) (fun _ _ same => by cases same) fun _ => rfl

def Node.MembersHold (node : Node) (holds : Judgement → Prop) (value : Json) : Prop :=
  ∀ members, value = .object members →
    node.PermitsMembers members ∧ ∀ inner part, node.AsksOfMembers members inner part → holds (.schema inner part)

def RestHolds (extra : Option (Extra Node)) (holds : Judgement → Prop) (value : Json) : Prop :=
  ∀ given, extra = some given → given.Holds fun inner => holds (.schema inner value)

theorem members_hold {holds : Judgement → Prop} {members : List (String × Json)} :
    node.MembersHold holds (.object members) ↔
      (∀ entry ∈ node.patternProperties.getD [], ∃ pattern, Pattern.compile entry.1 = .ok pattern) ∧
        ∀ entry ∈ members, MemberHolds (node.properties.getD []) (node.patternProperties.getD [])
          (fun inner => holds (.schema inner entry.2)) (RestHolds node.additionalProperties holds entry.2) entry.1 := by
  constructor
  · intro all
    obtain ⟨permits, asks⟩ := all members rfl
    refine ⟨permits.patterns, fun entry member => ⟨?_, ?_, ?_⟩⟩
    · exact fun inner given => asks inner entry.2 (.named member given)
    · exact fun source given finds => asks source.2 entry.2 (.matched member given finds)
    · intro noKey noSource given extra
      have unnamed : ¬ node.Names entry.1 := by
        rintro (byKey | ⟨source, found, finds⟩)
        · exact Bool.false_ne_true (noKey.symm.trans byKey)
        · exact noSource source found finds
      cases given with
      | permit allowed =>
          cases allowed with
          | true => exact rfl
          | false => exact absurd (permits.unnamed extra entry member) unnamed
      | schema inner => exact asks inner entry.2 (.further member unnamed extra)
  · rintro ⟨readable, each⟩ _ ⟨⟩
    have rest : ∀ entry ∈ members, ¬ node.Names entry.1 → RestHolds node.additionalProperties holds entry.2 := by
      intro entry member unnamed
      refine (each entry member).2.2 ?_ fun source found finds => unnamed (.inr ⟨source, found, finds⟩)
      exact Bool.eq_false_iff.mpr fun byKey => unnamed (.inl byKey)
    refine ⟨⟨readable, fun forbidden entry member => ?_⟩, fun inner part asked => ?_⟩
    · by_contra unnamed
      exact Bool.false_ne_true (rest entry member unnamed _ forbidden)
    · cases asked with
      | named member given => exact (each _ member).1 inner given
      | matched member given finds => exact (each _ member).2.1 _ given finds
      | further member unnamed extra => exact rest _ member unnamed _ extra

theorem named_decided {nodes : Option (List (String × Node))} {checks : List (String × Check)} (on : Json → Prop)
    (decided : ∀ entry ∈ nodes.getD [], ∀ value, on value → entry.2.Decided formats refer sure possible scope value)
    (compiled : (namedGroup formats refer nodes scope).outcome = .ok checks) :
    List.Forall₂ (fun (a : String × Node) (c : String × Check) => a.1 = c.1 ∧ ∀ value, on value →
      Decides (c.2 value) (sure (.schema a.2 value)) (possible (.schema a.2 value))) (nodes.getD []) checks := by
  refine each_ok_related _ (List.forall₂_same.mpr fun entry member check returned => ?_) compiled
  obtain ⟨own, first, last⟩ := (and_then_ok _ _ _).mp returned
  cases last
  exact ⟨rfl, fun value holds => decides_compiled first (decided entry member value holds)⟩

theorem rest_decided {extra : Option (Extra Node)} {check : Check}
    (decided : ∀ inner ∈ (extra.map Extra.schemas).getD [], inner.Decided formats refer sure possible scope value)
    (compiled : (checkRest formats refer extra scope).outcome = .ok check) :
    Decides (check value) (RestHolds extra sure value) (RestHolds extra possible value) := by
  cases extra with
  | none =>
      cases compiled
      exact decides_iff (decides_result []) (fun _ _ same => by cases same) fun _ => rfl
  | some given =>
      refine decides_iff (extra_decided decided compiled) ?_ fun holds => holds given rfl
      rintro holds _ ⟨⟩
      exact holds

theorem members_settle
    (decided : ∀ inner ∈ node.children, ∀ part ∈ value.parts, inner.Decided formats refer sure possible scope part) :
    Settles (node.propertyGroup formats refer scope) value (node.MembersHold sure value) (node.MembersHold possible value) := by
  simp only [Node.children, List.mem_append, List.mem_map] at decided
  unfold Node.propertyGroup
  split
  · refine settles_then fun declared first => settles_then fun patterns second => settles_then fun rest third =>
      settles_then fun check fourth => settles_check ?_
    obtain ⟨_, rfl⟩ := Keyword.properties_ok.mp fourth
    cases value with
    | object members =>
        have inside : ∀ entry ∈ members, entry.2 ∈ (Json.object members).parts := fun entry => List.mem_map_of_mem
        have names := named_decided (· ∈ (Json.object members).parts)
          (fun entry member => decided entry.2 (.inl (.inl (.inr ⟨entry, member, rfl⟩)))) first
        have sources := named_decided (· ∈ (Json.object members).parts)
          (fun entry member => decided entry.2 (.inl (.inr ⟨entry, member, rfl⟩))) second
        obtain ⟨defective, matchers⟩ := patterns_read (fun inner check => ∀ part ∈ (Json.object members).parts,
          Decides (check part) (sure (.schema inner part)) (possible (.schema inner part))) sources
        rw [members_hold, members_hold, ← defective]
        refine decides_members _ fun sane entry member => ?_
        refine decides_member entry.1 entry.2 (names.imp fun _ _ related => ⟨related.1, related.2 _ (inside entry member)⟩)
          ((matchers (defective.mp sane)).imp fun _ _ related => ⟨related.1 entry.1, related.2 _ (inside entry member)⟩) ?_
        exact rest_decided (fun inner given => decided inner (.inr given) _ (inside entry member)) third
    | _ => exact decides_iff (decides_result []) (fun _ _ same => by cases same) fun _ => rfl
  · next silent =>
      obtain ⟨own, allOf, anyOf, oneOf, negation, items, tupleItems, additionalItems, properties, patternProperties,
        additionalProperties, dependencies⟩ := node
      simp only [Node.speaksOfMembers, Bool.or_eq_true, not_or, Option.not_isSome_iff_eq_none] at silent
      obtain ⟨⟨rfl, rfl⟩, rfl⟩ := silent
      refine settles_none fun members _ => ⟨⟨fun _ member => absurd member List.not_mem_nil, fun given => (by cases given)⟩, fun inner part asked => ?_⟩
      cases asked with
      | named _ given => cases given
      | matched _ given => exact absurd given List.not_mem_nil
      | further _ _ extra => cases extra

def DemandHolds (holds : Judgement → Prop) (value : Json) (entry : String × Demand Node) : Prop :=
  match entry.2 with
  | .keys names => Keyword.dependency entry.1 names value = []
  | .schema inner => ∀ members, value = .object members → hasMember entry.1 members = true → holds (.schema inner value)

theorem demands_settle (demands : List (String × Demand Node))
    (decided : ∀ inner ∈ demands.flatMap (·.2.schemas), inner.Decided formats refer sure possible scope value) :
    Settles (each (demandCheck formats refer scope) demands) value (∀ entry ∈ demands, DemandHolds sure value entry)
      (∀ entry ∈ demands, DemandHolds possible value entry) := by
  have step : ∀ entry ∈ demands, ∀ check, (demandCheck formats refer scope entry).outcome = .ok check →
      Decides (check value) (DemandHolds sure value entry) (DemandHolds possible value entry) := by
    rintro ⟨key, demand⟩ member check compiled
    cases demand with
    | keys names =>
        cases compiled
        exact decides_result _
    | schema inner =>
        obtain ⟨own, first, last⟩ := (and_then_ok _ _ _).mp compiled
        cases last
        have known := decided inner (List.mem_flatMap.mpr ⟨_, member, List.mem_singleton_self _⟩)
        cases value with
        | object members =>
            dsimp only [Check.whenPresent]
            split
            case isTrue present =>
              refine decides_iff (decides_compiled first known) ?_ fun holds => holds members rfl present
              rintro holds _ ⟨⟩ _
              exact holds
            case isFalse absent =>
              refine decides_iff (decides_result []) ?_ fun _ => rfl
              rintro _ _ ⟨⟩ present
              exact absurd present absent
        | _ => exact decides_iff (decides_result []) (fun _ => nofun) fun _ => rfl
  exact settles_each step

theorem holds_by_group {holds : Judgement → Prop} : node.Holds formats holds value ↔
    node.LeavesHold formats value ∧ (∀ r, node.own.reference = some r → holds (.reference r value)) ∧
      (∀ inner ∈ node.allOf.getD [], holds (.schema inner value)) ∧
        (∀ nodes, node.anyOf = some nodes → holds (.some nodes value)) ∧ node.ItemsHold holds value ∧
          node.MembersHold holds value ∧ ∀ entry ∈ node.dependencies.getD [], DemandHolds holds value entry := by
  constructor
  · rintro ⟨leaves, permits, reference, any, asks⟩
    refine ⟨leaves, reference, fun inner member => asks inner value (.all member), any, ?_, ?_, ?_⟩
    · rintro items rfl
      exact ⟨permits.items items rfl, fun inner item asked => asks inner item (.items asked)⟩
    · rintro members rfl
      exact ⟨permits.members members rfl, fun inner part asked => asks inner part (.members asked)⟩
    · rintro ⟨key, demand⟩ member
      cases demand with
      | keys names => exact permits.keys key names member
      | schema inner =>
          rintro members rfl present
          exact asks inner _ (.demand member present)
  · rintro ⟨leaves, reference, all, any, items, members, demands⟩
    refine ⟨leaves, ⟨fun list same => (items list same).1, fun list same => (members list same).1, ?_⟩, reference, any, ?_⟩
    · exact fun key names member => demands _ member
    · intro inner part asked
      cases asked with
      | all member => exact all inner member
      | demand given present => exact demands _ given _ rfl present
      | items asked => exact (items _ rfl).2 inner part asked
      | members asked => exact (members _ rfl).2 inner part asked

def GroupHolds (group : Traced (List Check)) (value : Json) : Prop :=
  ∀ checks, group.outcome = .ok checks → ∀ check ∈ checks, (check value).outcome = .ok []

theorem leaf_settles (group : Traced (List Check)) : Settles group value (GroupHolds group value) (GroupHolds group value) := by
  constructor
  · intro checks compiled accepted again same
    cases compiled.symm.trans same
    exact accepted
  · intro holds checks compiled check member found returned
    cases (holds checks compiled check member).symm.trans returned
    rfl

theorem groups_decided {groups : List (Traced (List Check))} {checks : List Check}
    (compiled : (joined groups).outcome = .ok checks) {sure possible : Prop}
    (sound : (∀ group ∈ groups, ∀ sure possible, Settles group value sure possible → sure) → sure)
    (complete : possible → ∀ group ∈ groups, ∃ sure possible, Settles group value sure possible ∧ possible) :
    Decides (Check.all checks value) sure possible := by
  have each : Decides (Check.all checks value) (∀ check ∈ checks, (check value).outcome = .ok [])
      (∀ check ∈ checks, ∀ found, (check value).outcome = .ok found → found = []) :=
    decides_each fun check _ => ⟨id, id⟩
  refine decides_iff each (fun accepted => sound fun group member _ _ settles => ?_) fun holds check kept found returned => ?_
  · obtain ⟨part, same, inside⟩ := joined_ok_member groups checks compiled group member
    exact settles.sound part same fun check found => accepted check (inside found)
  · obtain ⟨group, member, part, same, inside⟩ := joined_ok_source groups checks compiled check kept
    obtain ⟨_, _, settles, given⟩ := complete holds group member
    exact settles.complete given part same check inside found returned

theorem node_decided (plain : node.oneOf = none ∧ node.negation = none)
    (reference : ∀ r, node.own.reference = some r →
      Decides ((refer scope r).andThen fun check => check value) (sure (.reference r value)) (possible (.reference r value)))
    (peers : ∀ inner ∈ node.peers, inner.Decided formats refer sure possible scope value)
    (children : ∀ inner ∈ node.children, ∀ part ∈ value.parts, inner.Decided formats refer sure possible scope.descend part)
    (closed : ∀ nodes, (∃ inner ∈ nodes, sure (.schema inner value)) → sure (.some nodes value))
    (opened : ∀ nodes, possible (.some nodes value) → ∃ inner ∈ nodes, possible (.schema inner value)) :
    Decides ((node.check formats refer scope).andThen fun check => check value) (node.Holds formats sure value)
      (node.Holds formats possible value) := by
  obtain ⟨notOne, notNegated⟩ := plain
  have peer := peers
  simp only [Node.peers, List.mem_append] at peer
  have reference := reference_settles node.own.reference reference
  have all := all_settles node.allOf fun inner member => peer inner (.inl (.inl (.inl (.inl member))))
  have any := any_settles node.anyOf fun inner member => peer inner (.inl (.inl (.inl (.inr member))))
  have items : Settles (node.itemGroup formats refer scope.descend) value (node.ItemsHold sure value)
      (node.ItemsHold possible value) := items_settle fun inner member => children inner (by simp [Node.children, member])
  have members : Settles (node.propertyGroup formats refer scope.descend) value (node.MembersHold sure value)
      (node.MembersHold possible value) := members_settle children
  have demands := demands_settle (node.dependencies.getD []) fun inner member => peer inner (.inr member)
  refine decides_of_compiled fun check compiled => ?_
  obtain ⟨checks, built, last⟩ := (and_then_ok _ _ _).mp compiled
  cases last
  rw [checks_eq] at built
  refine groups_decided built (fun settled => ?_) fun holds group member => ?_
  · refine holds_by_group.mpr ⟨fun group member => ?_, ?_, ?_, ?_, ?_, ?_, ?_⟩
    · refine settled group ?_ _ _ (leaf_settles group)
      simp only [Node.leaves, Node.groups, List.mem_append, List.mem_cons] at member ⊢
      tauto
    · exact settled _ (by simp [Node.groups]) _ _ reference
    · exact settled _ (by simp [Node.groups]) _ _ all
    · exact fun nodes given => closed nodes (settled _ (by simp [Node.groups]) _ _ any nodes given)
    · exact settled _ (by simp [Node.groups]) _ _ items
    · exact settled _ (by simp [Node.groups]) _ _ members
    · exact settled _ (by simp [Node.groups]) _ _ demands
  · obtain ⟨leaves, byReference, byAll, byAny, byItems, byMembers, byDemands⟩ := holds_by_group.mp holds
    have leaf : ∀ group ∈ node.leaves formats, ∃ sure possible, Settles group value sure possible ∧ possible :=
      fun group member => ⟨_, _, leaf_settles group, leaves group member⟩
    have empty : ∃ sure possible, Settles (.result []) value sure possible ∧ possible :=
      ⟨True, True, settles_none trivial, trivial⟩
    simp only [Node.leaves, List.mem_append, List.mem_cons, List.not_mem_nil, or_false] at leaf
    simp only [Node.groups, List.mem_append, List.mem_cons, List.not_mem_nil, or_false] at member
    rcases member with (((first | plain) | rfl) | counted) | rfl | rfl | rfl
    · rcases first with rfl | rfl | rfl | rfl | rfl | rfl
      · exact ⟨_, _, reference, byReference⟩
      · exact leaf _ (.inl (.inl (.inl rfl)))
      · exact ⟨_, _, all, byAll⟩
      · exact ⟨_, _, any, fun nodes given => opened nodes (byAny nodes given)⟩
      · rw [notOne]
        exact empty
      · rw [notNegated]
        exact empty
    · exact leaf _ (.inl (.inl (.inr plain)))
    · exact ⟨_, _, items, byItems⟩
    · exact leaf _ (.inl (.inr counted))
    · exact ⟨_, _, members, byMembers⟩
    · exact ⟨_, _, demands, byDemands⟩
    · exact leaf _ (.inr rfl)

end Groups

end Conform.Schema
