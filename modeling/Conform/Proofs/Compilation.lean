import Conform.Proofs.Links
import Conform.Proofs.Patterns
import Conform.Proofs.Writing

set_option autoImplicit false

namespace Conform.Schema

section Groups

variable (formats : Formats) (refer : Expansion)

def Node.itemGroup (node : Node) (scope : Scope) : Traced (List Check) :=
  match node.items, node.tupleItems with
  | some item, _ => (item.check formats refer scope).andThen fun check => .result [Check.items check]
  | none, some nodes =>
      (Logged.each (fun inner => inner.check formats refer scope) nodes).andThen fun checks =>
        (checkExtra formats refer noMoreItems node.additionalItems scope).andThen fun rest =>
          .result [Check.tuple checks rest]
  | none, none => .result []

def namedGroup (nodes : Option (List (String × Node))) (scope : Scope) : Traced (List (String × Check)) :=
  Logged.each (fun entry => (entry.2.check formats refer scope).andThen fun check => .result (entry.1, check))
    (nodes.getD [])

def Node.propertyGroup (node : Node) (scope : Scope) : Traced (List Check) :=
  if node.speaksOfMembers then
    (namedGroup formats refer node.properties scope).andThen fun declared =>
      (namedGroup formats refer node.patternProperties scope).andThen fun patterns =>
        (checkRest formats refer node.additionalProperties scope).andThen fun rest =>
          (Keyword.properties declared patterns rest).andThen fun check => .result [check]
  else .result []

def demandCheck (scope : Scope) (entry : String × Demand Node) : Traced Check :=
  match entry.2 with
  | .keys names => .result (Check.ofFindings (Keyword.dependency entry.1 names))
  | .schema node => (node.check formats refer scope).andThen fun check => .result (Check.whenPresent entry.1 check)

def combinedGroup (combine : List Check → Check) (nodes : Option (List Node)) (scope : Scope) :
    Traced (List Check) :=
  match nodes with
  | none => .result []
  | some nodes =>
      (Logged.each (fun inner => inner.check formats refer scope) nodes).andThen fun checks => .result [combine checks]

def negatedGroup (negation : Option Node) (scope : Scope) : Traced (List Check) :=
  match negation with
  | none => .result []
  | some node => (node.check formats refer scope).andThen fun check => .result [Check.negate check]

def Node.groups (node : Node) (scope : Scope) : List (Traced (List Check)) :=
  [ referenceChecks refer scope node.own.reference,
    whenGiven node.own.kinds Keyword.typeCheck,
    combinedGroup formats refer Check.all node.allOf scope,
    combinedGroup formats refer Check.any node.anyOf scope,
    combinedGroup formats refer Check.one node.oneOf scope,
    negatedGroup formats refer node.negation scope ]
  ++ plainChecks node.own ++ [node.itemGroup formats refer scope.descend]
  ++ memberChecks node.own ++
  [ node.propertyGroup formats refer scope.descend,
    Logged.each (demandCheck formats refer scope) (node.dependencies.getD []),
    formatChecks formats node.own.format ]

theorem check_eq (node : Node) (scope : Scope) : node.check formats refer scope =
    (node.checks formats refer scope).andThen fun checks => .result (Check.all checks) := rfl

theorem check_and_then {α : Type} (node : Node) (scope : Scope) (next : Check → Traced α) :
    ((node.checks formats refer scope).andThen fun checks => next (Check.all checks)) =
      (node.check formats refer scope).andThen next := by
  simp only [check_eq, Logged.and_then_assoc, Logged.result_and_then]

theorem check_list_eq (nodes : List Node) (scope : Scope) :
    checkList formats refer nodes scope = Logged.each (fun node => node.check formats refer scope) nodes := by
  induction nodes with
  | nil => rfl
  | cons node rest ih =>
      rw [checkList, Logged.each, ih]
      exact check_and_then formats refer node scope fun check =>
        (Logged.each _ rest).andThen fun others => .result (check :: others)

theorem check_entries_eq (nodes : List (String × Node)) (scope : Scope) :
    checkEntries formats refer nodes scope = namedGroup formats refer (some nodes) scope := by
  induction nodes with
  | nil => rfl
  | cons entry rest ih =>
      obtain ⟨key, node⟩ := entry
      rw [checkEntries, ih]
      simp only [namedGroup, Option.getD_some, Logged.each, Logged.and_then_assoc, Logged.result_and_then]
      exact check_and_then formats refer node scope fun check =>
        (Logged.each _ rest).andThen fun others => .result ((key, check) :: others)

theorem check_named_eq (nodes : Option (List (String × Node))) (scope : Scope) :
    checkNamed formats refer nodes scope = namedGroup formats refer nodes scope := by
  cases nodes with
  | none => rfl
  | some nodes => exact check_entries_eq formats refer nodes scope

theorem check_demands_eq (demands : List (String × Demand Node)) (scope : Scope) :
    checkDemands formats refer demands scope = Logged.each (demandCheck formats refer scope) demands := by
  induction demands with
  | nil => rfl
  | cons entry rest ih =>
      obtain ⟨key, demand⟩ := entry
      cases demand with
      | keys names =>
          rw [checkDemands, Logged.each, ih, demandCheck, Logged.result_and_then]
          rfl
      | schema node =>
          rw [checkDemands, Logged.each, ih]
          simp only [demandCheck, Logged.and_then_assoc, Logged.result_and_then]
          exact check_and_then formats refer node scope fun check =>
            (Logged.each _ rest).andThen fun others => .result (Check.whenPresent key check :: others)

theorem combined_checks_eq (combine : List Check → Check) (nodes : Option (List Node)) (scope : Scope) :
    combinedChecks formats refer combine nodes scope = combinedGroup formats refer combine nodes scope := by
  cases nodes with
  | none => rfl
  | some nodes =>
      rw [combinedChecks, combinedGroup, check_list_eq]
      rfl

theorem negated_checks_eq (negation : Option Node) (scope : Scope) :
    negatedChecks formats refer negation scope = negatedGroup formats refer negation scope := by
  cases negation with
  | none => rfl
  | some node =>
      rw [negatedChecks, negatedGroup, ← check_and_then]
      rfl

theorem demand_checks_eq (demands : Option (List (String × Demand Node))) (scope : Scope) :
    demandChecks formats refer demands scope = Logged.each (demandCheck formats refer scope) (demands.getD []) := by
  cases demands with
  | none => rfl
  | some demands => exact check_demands_eq formats refer demands scope

theorem checks_eq (node : Node) (scope : Scope) :
    node.checks formats refer scope = Logged.joined (node.groups formats refer scope) := by
  have items : ∀ inner : Option Node, ∀ listed : Option (List Node), node.items = inner → node.tupleItems = listed →
      (match inner, listed with
        | some item, _ => do return [Check.items (Check.all (← item.checks formats refer scope.descend))]
        | none, some nodes => do
            let checks ← checkList formats refer nodes scope.descend
            let rest ← checkExtra formats refer noMoreItems node.additionalItems scope.descend
            return [Check.tuple checks rest]
        | none, none => .result []) = node.itemGroup formats refer scope.descend := by
    rintro inner listed rfl rfl
    unfold Node.itemGroup
    split
    · exact check_and_then formats refer _ scope.descend fun check => .result [Check.items check]
    · rw [check_list_eq]
      rfl
    · rfl
  have properties : (if node.speaksOfMembers then do
      let declared ← checkNamed formats refer node.properties scope.descend
      let patterns ← checkNamed formats refer node.patternProperties scope.descend
      let rest ← checkRest formats refer node.additionalProperties scope.descend
      return [← Keyword.properties declared patterns rest]
      else .result []) = node.propertyGroup formats refer scope.descend := by
    simp only [check_named_eq]
    rfl
  rw [Node.groups, ← items _ _ rfl rfl, ← properties, ← combined_checks_eq, ← combined_checks_eq,
    ← combined_checks_eq, ← negated_checks_eq, ← demand_checks_eq]
  obtain ⟨own, allOf, anyOf, oneOf, negation, single, listed, additionalItems, declared, patterns, more, demands⟩ := node
  cases single with
  | some item => rfl
  | none => cases listed <;> rfl

end Groups

inductive Node.Searches (node : Node) (source : String) : Json → String → Prop where
  | text {text : String} (given : node.own.pattern = some source) : Searches node source (.string text) text
  | key {members : List (String × Json)} {entry : String × Json}
      (given : source ∈ (node.patternProperties.getD []).map (·.1)) (member : entry ∈ members) :
      Searches node source (.object members) entry.1

-- What a comparison of built checks has to accept of a schema without looking into it.
structure Node.Readable (building : Comparison) (node : Node) : Prop where
  text : ∀ source, node.own.pattern = some source → building.Fine (Keyword.readPattern "regular expression" source)
  keys : ∀ source ∈ (node.patternProperties.getD []).map (·.1),
    building.Fine (Keyword.readPattern "patternProperties expression" source)
  written : ∀ numbers ⊆ node.own.written, building.Fine (Keyword.write numbers)
  unsupported : ∀ name : String,
    building.Fine (Logged.note .warning .compiler ("Unsupported format '" ++ name ++ "' in schema"))

-- What a comparison of running checks has to accept, on values of a kind.
structure Node.Applicable (running : Comparison) (formats : Formats) (on : Json → Prop) (node : Node) : Prop where
  searches : ∀ source value text pattern, on value → node.Searches source value text →
    Pattern.compile source = .ok pattern → running.Fine (Keyword.isFound pattern text)
  judges : ∀ check ∈ node.own.judges, ∀ value, on value → running.Fine (check value)
  format : ∀ name check, node.own.format = some name → formats.find? name = some check →
    ∀ value, on value → running.Fine (check value)

theorem readable_of_all {building : Comparison} {node : Node} (fine : ∀ {α : Type} (x : Traced α), building.Fine x) :
    node.Readable building :=
  ⟨fun _ _ => fine _, fun _ _ => fine _, fun _ _ => fine _, fun _ => fine _⟩

theorem applicable_of_all {running : Comparison} {formats : Formats} {on : Json → Prop} {node : Node}
    (fine : ∀ {α : Type} (x : Traced α), running.Fine x) : node.Applicable running formats on :=
  ⟨fun _ _ _ _ _ _ _ => fine _, fun _ _ _ _ => fine _, fun _ _ _ _ _ _ => fine _⟩

theorem applicable_fewer {running : Comparison} {formats : Formats} {on fewer : Json → Prop} {node : Node}
    (applicable : node.Applicable running formats on) (less : ∀ value, fewer value → on value) :
    node.Applicable running formats fewer where
  searches source value text pattern holds := applicable.searches source value text pattern (less value holds)
  judges check member value holds := applicable.judges check member value (less value holds)
  format name check given found value holds := applicable.format name check given found value (less value holds)

-- Two ways to compile a schema treat its references alike, those for the value and those for its parts.
structure Alike (building running : Comparison) (formats : Formats) (on inside : Json → Prop) (refer other : Expansion)
    (scope scope' : Scope) (node : Node) : Prop where
  here : ∀ r, node.Here r → building.relates (running.Agree on) (refer scope r) (other scope' r)
  below : ∀ r, node.Below r → building.relates (running.Agree inside) (refer scope.descend r) (other scope'.descend r)
  readable : ∀ inner, node.Nested inner → inner.Readable building
  applicable : ∀ inner, node.Nested inner → inner.Applicable running formats fun value => on value ∨ inside value

section Related

variable {building running : Comparison} {on inside : Json → Prop} {refer other : Expansion} {scope scope' : Scope}
  {formats : Formats} {node inner : Node}

theorem alike_peer (alike : Alike building running formats on inside refer other scope scope' node)
    (member : inner ∈ node.peers) : Alike building running formats on inside refer other scope scope' inner where
  here r here := alike.here r (.peer member here)
  below r below := alike.below r (.peer member below)
  readable deep nested := alike.readable deep (.peer member nested)
  applicable deep nested := alike.applicable deep (.peer member nested)

theorem alike_child (alike : Alike building running formats on inside refer other scope scope' node)
    (member : inner ∈ node.children) :
    Alike building running formats inside inside refer other scope.descend scope'.descend inner where
  here r here := alike.below r (.child member here)
  below r below := alike.below r (.deeper member below)
  readable deep nested := alike.readable deep (.child member nested)
  applicable deep nested :=
    applicable_fewer (alike.applicable deep (.child member nested)) fun _ holds => .inr (or_self_iff.mp holds)

theorem when_given_related {α : Type} (given : Option α) (check : α → Check)
    (agree : ∀ a, given = some a → running.Agree on (check a) (check a)) :
    building.relates (List.Forall₂ (running.Agree on)) (whenGiven given check) (whenGiven given check) := by
  cases given with
  | none => exact building.result .nil
  | some a => exact building.result (.cons (agree a rfl) .nil)

theorem when_written_related {α : Type} (given : Option α) (shown : α → List Number) (check : α → Check)
    (fine : ∀ a, given = some a → building.Fine (Keyword.write (shown a)))
    (agree : ∀ a, given = some a → running.Agree on (check a) (check a)) :
    building.relates (List.Forall₂ (running.Agree on)) (whenWritten given shown check) (whenWritten given shown check) := by
  cases given with
  | none => exact building.result .nil
  | some a => exact Comparison.and_then_fine (fine a rfl) fun _ => building.result (.cons (agree a rfl) .nil)

theorem when_sized_related (size : Option Int) (check : Int → Json → Findings) (readable : node.Readable building)
    (listed : ∀ n, size = some n → .integer n ∈ node.own.written) :
    building.relates (List.Forall₂ (running.Agree on)) (whenSized size check) (whenSized size check) :=
  when_written_related _ _ _ (fun n given => readable.written _ (List.cons_subset.mpr ⟨listed n given, List.nil_subset _⟩))
    fun _ _ => Comparison.agree_of_results _

theorem single_related {x y : Traced Check} {c d : Check → Check} (related : building.relates (running.Agree inside) x y)
    (lifted : ∀ a b, running.Agree inside a b → running.Agree on (c a) (d b)) :
    building.relates (List.Forall₂ (running.Agree on)) (x.andThen fun check => .result [c check])
      (y.andThen fun check => .result [d check]) :=
  building.andThen related fun a b agree => building.result (.cons (lifted a b agree) .nil)

theorem reference_checks_related (alike : Alike building running formats on inside refer other scope scope' node) :
    building.relates (List.Forall₂ (running.Agree on)) (referenceChecks refer scope node.own.reference)
      (referenceChecks other scope' node.own.reference) := by
  cases named : node.own.reference with
  | none => exact building.result .nil
  | some r => exact building.andThen (alike.here r (.own named)) fun _ _ agree => building.result (.cons agree .nil)

theorem pattern_checks_related (readable : node.Readable building) (applicable : node.Applicable running formats on) :
    building.relates (List.Forall₂ (running.Agree on)) (patternChecks node.own.pattern)
      (patternChecks node.own.pattern) := by
  cases given : node.own.pattern with
  | none => exact building.result .nil
  | some source =>
      have related : building.relates (running.Agree on) (Keyword.pattern source) (Keyword.pattern source) := by
        refine building.andThen (Keyword.read_pattern_related (readable.text source given)) ?_
        rintro _ _ ⟨rfl, rfl⟩
        cases known : Keyword.meaning? source with
        | none => exact building.result (Comparison.agree_of_results _)
        | some pattern =>
            refine building.result fun value holds => ?_
            cases value with
            | string text =>
                have fine := applicable.searches source _ text pattern holds (.text given)
                  ((Keyword.meaning_iff source pattern).mp known)
                exact Comparison.and_then_fine fine fun _ => running.result rfl
            | _ => exact running.result rfl
      exact building.andThen related fun _ _ agree => building.result (.cons agree .nil)

theorem judge_agrees (applicable : node.Applicable running formats on) {check : Check}
    (member : check ∈ node.own.judges) : running.Agree on check check :=
  applicable.judges check member

theorem plain_checks_related (readable : node.Readable building) (applicable : node.Applicable running formats on) :
    List.Forall₂ (building.relates (List.Forall₂ (running.Agree on))) (plainChecks node.own) (plainChecks node.own) := by
  have single : ∀ n ∈ node.own.written, building.Fine (Keyword.write [n]) := fun n member =>
    readable.written _ (List.cons_subset.mpr ⟨member, List.nil_subset _⟩)
  refine List.forall₂_same.mpr fun group member => ?_
  simp only [plainChecks, List.mem_cons, List.not_mem_nil, or_false] at member
  rcases member with rfl | rfl | rfl | rfl | rfl | rfl | rfl | rfl | rfl | rfl
  · exact when_given_related _ _ fun values given => judge_agrees applicable (by simp [Assertions.judges, given])
  · exact when_sized_related _ _ readable fun n given => by simp [Assertions.written, given]
  · exact when_sized_related _ _ readable fun n given => by simp [Assertions.written, given]
  · exact pattern_checks_related readable applicable
  · refine when_written_related _ _ _ (fun divisor given => readable.written _ fun n shown => ?_) fun divisor given =>
      judge_agrees applicable (by simp [Assertions.judges, given])
    simp [Assertions.written, given, shown]
  · exact when_written_related _ _ _ (fun n given => single n (by simp [Assertions.written, given])) fun _ _ =>
      Comparison.agree_of_results _
  · exact when_written_related _ _ _ (fun n given => single n (by simp [Assertions.written, given])) fun _ _ =>
      Comparison.agree_of_results _
  · exact when_sized_related _ _ readable fun n given => by simp [Assertions.written, given]
  · exact when_sized_related _ _ readable fun n given => by simp [Assertions.written, given]
  · refine when_given_related _ _ fun _ given => judge_agrees applicable ?_
    have unique : node.own.uniqueItems = true := by
      by_contra other
      rw [if_neg other] at given
      cases given
    simp [Assertions.judges, unique]

theorem member_checks_related (readable : node.Readable building) :
    List.Forall₂ (building.relates (List.Forall₂ (running.Agree on))) (memberChecks node.own) (memberChecks node.own) := by
  refine List.forall₂_same.mpr fun group member => ?_
  simp only [memberChecks, List.mem_cons, List.not_mem_nil, or_false] at member
  rcases member with rfl | rfl | rfl
  · exact when_sized_related _ _ readable fun n given => by simp [Assertions.written, given]
  · exact when_sized_related _ _ readable fun n given => by simp [Assertions.written, given]
  · exact when_given_related _ _ fun _ _ => Comparison.agree_of_results _

theorem format_checks_related (readable : node.Readable building) (applicable : node.Applicable running formats on) :
    building.relates (List.Forall₂ (running.Agree on)) (formatChecks formats node.own.format)
      (formatChecks formats node.own.format) := by
  cases given : node.own.format with
  | none => exact building.result .nil
  | some format =>
      cases found : formats.find? format with
      | some check =>
          simp only [formatChecks, found]
          exact building.result (.cons (applicable.format format check given found) .nil)
      | none =>
          simp only [formatChecks, found]
          refine Comparison.and_then_fine (readable.unsupported format) fun _ => ?_
          exact building.result (.cons (fun _ _ => running.result rfl) .nil)

section Properties

variable {patterns patterns' : List (String × Check)}

theorem names_read (agree : List.Forall₂ (running.AgreeNamed on) patterns patterns')
    (fine : ∀ entry ∈ patterns, building.Fine (Keyword.readPattern "patternProperties expression" entry.1)) :
    building.relates
      (fun read others => read = patterns.map (fun entry => Keyword.meaning? entry.1) ∧
        others = patterns'.map fun entry => Keyword.meaning? entry.1)
      (Logged.each (fun entry => Keyword.readPattern "patternProperties expression" entry.1) patterns)
      (Logged.each (fun entry => Keyword.readPattern "patternProperties expression" entry.1) patterns') := by
  induction agree with
  | nil => exact building.result ⟨rfl, rfl⟩
  | @cons entry other _ _ first _ ih =>
      obtain ⟨head, tail⟩ := List.forall_mem_cons.mp fine
      obtain ⟨name, right⟩ := other
      obtain ⟨rfl, _⟩ := first
      refine building.andThen (Keyword.read_pattern_related head) ?_
      rintro _ _ ⟨rfl, rfl⟩
      refine building.andThen (ih tail) ?_
      rintro _ _ ⟨rfl, rfl⟩
      exact building.result ⟨rfl, rfl⟩

theorem searches_related (agree : List.Forall₂ (running.AgreeNamed inside) patterns patterns')
    (fine : ∀ entry ∈ patterns, ∀ pattern, Pattern.compile entry.1 = .ok pattern → ∀ members, on (.object members) →
      ∀ member ∈ members, running.Fine (Keyword.isFound pattern member.1)) :
    List.Forall₂ (fun p q : (String → Traced Bool) × Check => (∀ members, on (.object members) → ∀ member ∈ members,
        running.relates Eq (p.1 member.1) (q.1 member.1)) ∧ running.Agree inside p.2 q.2)
      (patterns.filterMap Keyword.searchOf) (patterns'.filterMap Keyword.searchOf) := by
  induction agree with
  | nil => exact .nil
  | @cons entry other _ _ first _ ih =>
      obtain ⟨head, tail⟩ := List.forall_mem_cons.mp fine
      obtain ⟨name, check⟩ := other
      obtain ⟨rfl, same⟩ := first
      cases known : Keyword.meaning? entry.1 with
      | none => simpa [Keyword.searchOf, known] using ih tail
      | some pattern =>
          simp only [List.filterMap_cons, Keyword.searchOf, known, Option.map_some]
          exact .cons ⟨head pattern ((Keyword.meaning_iff _ _).mp known), same⟩ (ih tail)

theorem defects_same (agree : List.Forall₂ (running.AgreeNamed on) patterns patterns') :
    patterns.filterMap Keyword.defectOf = patterns'.filterMap Keyword.defectOf := by
  induction agree with
  | nil => rfl
  | cons first _ ih => simp only [List.filterMap_cons, Keyword.defectOf, first.1, ih]

theorem properties_related {declared declared' : List (String × Check)} {rest rest' : Check}
    (descends : ∀ value, on value → ∀ part ∈ value.parts, inside part)
    (agree : List.Forall₂ (running.AgreeNamed inside) declared declared')
    (agreePatterns : List.Forall₂ (running.AgreeNamed inside) patterns patterns')
    (agreeRest : running.Agree inside rest rest')
    (fine : ∀ entry ∈ patterns, building.Fine (Keyword.readPattern "patternProperties expression" entry.1))
    (searches : ∀ entry ∈ patterns, ∀ pattern, Pattern.compile entry.1 = .ok pattern → ∀ members, on (.object members) →
      ∀ member ∈ members, running.Fine (Keyword.isFound pattern member.1)) :
    building.relates (running.Agree on) (Keyword.properties declared patterns rest)
      (Keyword.properties declared' patterns' rest') := by
  refine building.andThen (names_read agreePatterns fine) ?_
  rintro _ _ ⟨rfl, rfl⟩
  dsimp only
  rw [Keyword.searches_of_read, Keyword.searches_of_read, Keyword.defects_of_read, Keyword.defects_of_read,
    defects_same agreePatterns]
  exact building.result (Comparison.agree_members descends _ agree (searches_related agreePatterns searches) agreeRest)

end Properties

theorem list_checks_related {nodes : List Node}
    (related : ∀ inner ∈ nodes, building.relates (running.Agree on) (inner.check formats refer scope)
      (inner.check formats other scope')) :
    building.relates (List.Forall₂ (running.Agree on)) (Logged.each (fun inner => inner.check formats refer scope) nodes)
      (Logged.each (fun inner => inner.check formats other scope') nodes) :=
  Comparison.each_related (List.forall₂_same.mpr related)

theorem combined_group_related {nodes : Option (List Node)} {combine : List Check → Check}
    (related : ∀ inner ∈ nodes.getD [], building.relates (running.Agree on) (inner.check formats refer scope)
      (inner.check formats other scope'))
    (lifted : ∀ cs ds, List.Forall₂ (running.Agree on) cs ds → running.Agree on (combine cs) (combine ds)) :
    building.relates (List.Forall₂ (running.Agree on)) (combinedGroup formats refer combine nodes scope)
      (combinedGroup formats other combine nodes scope') := by
  cases nodes with
  | none => exact building.result .nil
  | some nodes =>
      refine building.andThen (list_checks_related related) fun cs ds agree => ?_
      exact building.result (.cons (lifted cs ds agree) .nil)

theorem named_group_related (nodes : Option (List (String × Node))) (legible : String → Prop)
    (names : ∀ entry ∈ nodes.getD [], legible entry.1)
    (related : ∀ entry ∈ nodes.getD [], building.relates (running.Agree on) (entry.2.check formats refer scope)
      (entry.2.check formats other scope')) :
    building.relates (List.Forall₂ fun a b => legible a.1 ∧ running.AgreeNamed on a b)
      (namedGroup formats refer nodes scope) (namedGroup formats other nodes scope') := by
  refine Comparison.each_related (List.forall₂_same.mpr fun entry member => ?_)
  refine building.andThen (related entry member) fun c d agree => ?_
  exact building.result ⟨names entry member, rfl, agree⟩

theorem extra_related (message : String) (extra : Extra Node)
    (related : ∀ inner ∈ extra.schemas, building.relates (running.Agree on) (inner.check formats refer scope)
      (inner.check formats other scope')) :
    building.relates (running.Agree on) (checkExtra formats refer message extra scope)
      (checkExtra formats other message extra scope') := by
  cases extra with
  | permit allowed =>
      refine building.result fun value _ => ?_
      cases allowed <;> exact running.result rfl
  | schema node => exact related node (by simp [Extra.schemas])

theorem rest_related (extra : Option (Extra Node))
    (related : ∀ inner ∈ (extra.map Extra.schemas).getD [], building.relates (running.Agree on)
      (inner.check formats refer scope) (inner.check formats other scope')) :
    building.relates (running.Agree on) (checkRest formats refer extra scope) (checkRest formats other extra scope') := by
  cases extra with
  | none => exact building.result fun _ _ => running.result rfl
  | some extra => exact extra_related noMoreProperties extra related

theorem demands_related {demands : List (String × Demand Node)}
    (related : ∀ inner ∈ demands.flatMap (·.2.schemas), building.relates (running.Agree on)
      (inner.check formats refer scope) (inner.check formats other scope')) :
    building.relates (List.Forall₂ (running.Agree on)) (Logged.each (demandCheck formats refer scope) demands)
      (Logged.each (demandCheck formats other scope') demands) := by
  refine Comparison.each_related (List.forall₂_same.mpr fun entry member => ?_)
  obtain ⟨key, demand⟩ := entry
  cases demand with
  | keys names => exact building.result (Comparison.agree_of_results _)
  | schema inner =>
      refine building.andThen (related inner (List.mem_flatMap.mpr ⟨_, member, by simp [Demand.schemas]⟩))
        fun c d agree => ?_
      exact building.result (Comparison.agree_when_present key agree)

theorem item_group_related (descends : ∀ value, on value → ∀ part ∈ value.parts, inside part)
    (related : ∀ inner ∈ node.itemSchemas, building.relates (running.Agree inside) (inner.check formats refer scope)
      (inner.check formats other scope')) :
    building.relates (List.Forall₂ (running.Agree on)) (node.itemGroup formats refer scope)
      (node.itemGroup formats other scope') := by
  cases single : node.items with
  | some item =>
      simp only [Node.itemGroup, Node.itemSchemas, single, List.mem_singleton, forall_eq] at related ⊢
      exact single_related related fun _ _ agree => Comparison.agree_items descends agree
  | none =>
      cases listed : node.tupleItems with
      | none =>
          simp only [Node.itemGroup, single, listed]
          exact building.result .nil
      | some nodes =>
          simp only [Node.itemGroup, Node.itemSchemas, single, listed, List.mem_append] at related ⊢
          refine building.andThen (list_checks_related fun inner member => related inner (.inl member))
            fun cs ds agree => ?_
          refine building.andThen (extra_related _ _ fun inner member => related inner (.inr member))
            fun rest others agreeRest => ?_
          exact building.result (.cons (Comparison.agree_tuple descends agree agreeRest) .nil)

theorem property_group_related (readable : node.Readable building) (applicable : node.Applicable running formats on)
    (descends : ∀ value, on value → ∀ part ∈ value.parts, inside part)
    (related : ∀ inner ∈ node.children, building.relates (running.Agree inside) (inner.check formats refer scope)
      (inner.check formats other scope')) :
    building.relates (List.Forall₂ (running.Agree on)) (node.propertyGroup formats refer scope)
      (node.propertyGroup formats other scope') := by
  simp only [Node.children, List.mem_append, List.mem_map] at related
  unfold Node.propertyGroup
  split
  · have declared := named_group_related node.properties (fun _ => True) (fun _ _ => trivial)
      fun entry member => related entry.2 (.inl (.inl (.inr ⟨entry, member, rfl⟩)))
    refine building.andThen declared fun names others agree => ?_
    have patterns := named_group_related node.patternProperties (· ∈ (node.patternProperties.getD []).map (·.1))
      (fun _ => List.mem_map_of_mem) fun entry member => related entry.2 (.inl (.inr ⟨entry, member, rfl⟩))
    refine building.andThen patterns fun sources others' agreePatterns => ?_
    refine building.andThen (rest_related _ fun inner member => related inner (.inr member)) fun rest _ agreeRest => ?_
    obtain ⟨listed, agreePatterns⟩ := (List.forall₂_and_left _ _).mp agreePatterns
    have fine : ∀ entry ∈ sources, building.Fine (Keyword.readPattern "patternProperties expression" entry.1) :=
      fun entry member => readable.keys entry.1 (listed entry member)
    refine building.andThen (properties_related descends ((List.forall₂_and_left _ _).mp agree).2 agreePatterns agreeRest fine
      fun entry member pattern compiled members holds other present => ?_) fun c d agree => building.result (.cons agree .nil)
    exact applicable.searches entry.1 _ other.1 pattern holds (.key (listed entry member) present) compiled
  · exact building.result .nil

theorem groups_related (descends : ∀ value, on value → ∀ part ∈ value.parts, inside part)
    (alike : Alike building running formats on inside refer other scope scope' node)
    (peers : ∀ inner ∈ node.peers, building.relates (running.Agree on) (inner.check formats refer scope)
      (inner.check formats other scope'))
    (children : ∀ inner ∈ node.children, building.relates (running.Agree inside)
      (inner.check formats refer scope.descend) (inner.check formats other scope'.descend)) :
    List.Forall₂ (building.relates (List.Forall₂ (running.Agree on))) (node.groups formats refer scope)
      (node.groups formats other scope') := by
  have readable := alike.readable node (.self node)
  have applicable := applicable_fewer (alike.applicable node (.self node)) fun _ holds => .inl holds
  have peer := peers
  simp only [Node.peers, List.mem_append] at peer
  have items : ∀ inner ∈ node.itemSchemas, building.relates (running.Agree inside)
      (inner.check formats refer scope.descend) (inner.check formats other scope'.descend) :=
    fun inner member => children inner (by simp [Node.children, member])
  have first : List.Forall₂ (building.relates (List.Forall₂ (running.Agree on)))
      [ referenceChecks refer scope node.own.reference,
        whenGiven node.own.kinds Keyword.typeCheck,
        combinedGroup formats refer Check.all node.allOf scope, combinedGroup formats refer Check.any node.anyOf scope,
        combinedGroup formats refer Check.one node.oneOf scope, negatedGroup formats refer node.negation scope ]
      [ referenceChecks other scope' node.own.reference,
        whenGiven node.own.kinds Keyword.typeCheck,
        combinedGroup formats other Check.all node.allOf scope', combinedGroup formats other Check.any node.anyOf scope',
        combinedGroup formats other Check.one node.oneOf scope', negatedGroup formats other node.negation scope' ] := by
    refine .cons (reference_checks_related alike) (.cons (when_given_related _ _ fun kinds given => ?_)
      (.cons ?_ (.cons ?_ (.cons ?_ (.cons ?_ .nil)))))
    · exact judge_agrees applicable (by simp [Assertions.judges, given])
    · exact combined_group_related (fun inner member => peer inner (.inl (.inl (.inl (.inl member)))))
        fun _ _ => Comparison.agree_all
    · exact combined_group_related (fun inner member => peer inner (.inl (.inl (.inl (.inr member)))))
        fun _ _ => Comparison.agree_any
    · exact combined_group_related (fun inner member => peer inner (.inl (.inl (.inr member))))
        fun _ _ => Comparison.agree_one
    · cases negated : node.negation with
      | none => exact building.result .nil
      | some inner =>
          exact single_related (peer inner (.inl (.inr (by simp [negated])))) fun _ _ => Comparison.agree_negate
  have last : List.Forall₂ (building.relates (List.Forall₂ (running.Agree on)))
      [ node.propertyGroup formats refer scope.descend,
        Logged.each (demandCheck formats refer scope) (node.dependencies.getD []), formatChecks formats node.own.format ]
      [ node.propertyGroup formats other scope'.descend,
        Logged.each (demandCheck formats other scope') (node.dependencies.getD []), formatChecks formats node.own.format ] := by
    refine .cons (property_group_related readable applicable descends children) (.cons ?_
      (.cons (format_checks_related readable applicable) .nil))
    exact demands_related fun inner member => peer inner (.inr member)
  have item := item_group_related descends items
  exact List.rel_append (List.rel_append (List.rel_append (List.rel_append first (plain_checks_related readable applicable))
    (.cons item .nil)) (member_checks_related readable)) last

theorem checks_related (descends : ∀ value, on value → ∀ part ∈ value.parts, inside part)
    (deeper : ∀ value, inside value → ∀ part ∈ value.parts, inside part)
    (alike : Alike building running formats on inside refer other scope scope' node) :
    building.relates (List.Forall₂ (running.Agree on)) (node.checks formats refer scope)
      (node.checks formats other scope') := by
  induction node using node_induction generalizing on scope scope' with
  | step node peers children =>
      rw [checks_eq, checks_eq]
      refine Comparison.joined_related (groups_related descends alike (fun inner member => ?_) fun inner member => ?_)
      · exact building.andThen (peers inner member descends (alike_peer alike member)) fun cs ds agree =>
          building.result (Comparison.agree_all agree)
      · exact building.andThen (children inner member deeper (alike_child alike member)) fun cs ds agree =>
          building.result (Comparison.agree_all agree)

theorem check_related (descends : ∀ value, on value → ∀ part ∈ value.parts, inside part)
    (deeper : ∀ value, inside value → ∀ part ∈ value.parts, inside part)
    (alike : Alike building running formats on inside refer other scope scope' node) :
    building.relates (running.Agree on) (node.check formats refer scope) (node.check formats other scope') :=
  building.andThen (checks_related descends deeper alike) fun _ _ agree =>
    building.result (Comparison.agree_all agree)

end Related

end Conform.Schema
