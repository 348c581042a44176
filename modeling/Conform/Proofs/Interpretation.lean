import Conform.Proofs.Interpreter
import Conform.Proofs.Visits

set_option autoImplicit false

namespace Conform.Schema

def unresolvedAnswer (r : String) : Reference.Fault → Traced Findings
  | .tooManyDigits count => .fault (.tooManyDigits (some count))
  | fault => .result [fault.message r]

-- A reference means what its target says of the same value. The fuel bounds how many are read inside each other.
def interpretReference (context : Context) : Nat → Meaning
  | 0, _, _ => .fault .exhausted
  | fuel + 1, r, value =>
      match Reference.resolve context.document r with
      | .error fault => unresolvedAnswer r fault
      | .ok target => (Node.decode target).answer context.formats (interpretReference context fuel) value

def interpret (context : Context) (fuel : Nat) (node : Node) (value : Json) : Traced Findings :=
  node.answer context.formats (interpretReference context fuel) value

namespace Context

def fuel (context : Context) (value : Json) : Nat :=
  (value.depth + 1) * (context.document.references.length + 1)

open Classical in
noncomputable def height (context : Context) (r : String) : Nat :=
  (context.document.references.toFinset.filter fun s => Relation.TransGen context.Same r s).card

theorem height_bound (context : Context) (r : String) : context.height r ≤ context.document.references.length := by
  classical
  exact Nat.le_trans (Finset.card_filter_le _ _) (List.toFinset_card_le _)

theorem height_deeper (context : Context) (r : String) {depth limit : Nat} (deeper : depth < limit) :
    depth * (context.document.references.length + 1) + context.height r <
      limit * (context.document.references.length + 1) := by
  have bound := Nat.mul_le_mul_right (context.document.references.length + 1) (Nat.succ_le_of_lt deeper)
  have low := height_bound context r
  rw [Nat.succ_mul] at bound
  omega

variable {context : Context}

theorem height_edge {r s : String} (edge : context.Same r s) (straight : ¬ context.Circular s) :
    context.height s < context.height r := by
  classical
  obtain ⟨target, resolved, here⟩ := edge
  have listed := target_reference_listed resolved (.inl here)
  apply Finset.card_lt_card
  rw [Finset.ssubset_iff_of_subset]
  · refine ⟨s, ?_, ?_⟩
    · simp only [Finset.mem_filter, List.mem_toFinset]
      exact ⟨listed, .single ⟨target, resolved, here⟩⟩
    · simp only [Finset.mem_filter, not_and]
      exact fun _ => straight
  · intro t member
    simp only [Finset.mem_filter] at member ⊢
    exact ⟨member.1, .head ⟨target, resolved, here⟩ member.2⟩

end Context

-- When a comparison of built checks and one of running them can tell that compiled references mean what they
-- are interpreted as: a reference that is compiled has to give a check whenever the first one asks for it.
structure Simulation (context : Context) (building running : Comparison) : Prop where
  accepts : ∀ {α : Type} (x : Traced α), running.Fine x
  ends : ∀ {x y : Traced Findings}, x.outcome = y.outcome → running.relates Eq x y
  readable : ∀ node, context.Compiled node → node.Readable building
  lift : ∀ scope r, context.Reachable r → r ∈ context.document.references → ∀ on meaning,
    (∀ value, on value → running.relates Eq (context.run scope r value) (meaning value)) →
    building.relates (running.Agree on) (refer context scope r) (.result meaning)
  lower : ∀ {c d : Traced Check} {on : Json → Prop}, building.relates (running.Agree on) c d →
    running.relates (running.Agree on) c d
  answered : ∀ node, context.Compiled node → ∀ meaning value {x : Traced Findings},
    running.relates Eq x ((node.check context.formats (refers meaning) {}).andThen fun check => check value) →
    running.relates Eq x (node.answer context.formats meaning value)

theorem compiled_nested {context : Context} {node inner : Node} (compiled : context.Compiled node)
    (nested : node.Nested inner) : context.Compiled inner := by
  obtain ⟨r, target, reachable, resolved, outer⟩ := compiled
  exact ⟨r, target, reachable, resolved, nested_trans outer nested⟩

section Simulated

variable {context : Context} {building running : Comparison}

theorem run_unresolved {scope : Scope} {r : String} {fault : Reference.Fault} (first : r ∉ scope.level)
    (failed : Reference.resolve context.document r = .error fault) (fuel : Nat) (value : Json) :
    (context.run scope r value).outcome = (interpretReference context (fuel + 1) r value).outcome := by
  rw [Context.run, refer_unresolved first failed, unresolved_eq, interpretReference, failed]
  cases fault <;> rfl

theorem check_simulated (simulation : Simulation context building running) {scope : Scope} {node : Node}
    (compiled : context.Compiled node) (fuel : Nat) (value : Json)
    (here : ∀ s, node.Here s → s ∈ context.document.references ∧ context.Reachable s ∧
      ∀ part, Shallow (value.depth + 1) part →
        running.relates Eq (context.run scope s part) (interpretReference context fuel s part))
    (below : ∀ s, node.Below s → s ∈ context.document.references ∧ context.Reachable s ∧
      ∀ part, Shallow value.depth part →
        running.relates Eq (context.run scope.descend s part) (interpretReference context fuel s part)) :
    running.relates Eq ((node.check context.formats (refer context) scope).andThen fun check => check value)
      (interpret context fuel node value) := by
  have related : building.relates (running.Agree (Shallow (value.depth + 1)))
      (node.check context.formats (refer context) scope)
      (node.check context.formats (refers (interpretReference context fuel)) {}) := by
    refine check_related (shallow_part (value.depth + 1)) (shallow_below value.depth) ⟨?_, ?_, ?_, ?_⟩
    · intro s met
      obtain ⟨listed, found, runs⟩ := here s met
      exact simulation.lift scope s found listed _ _ runs
    · intro s met
      obtain ⟨listed, found, runs⟩ := below s met
      exact simulation.lift scope.descend s found listed _ _ runs
    · exact fun inner nested => simulation.readable inner (compiled_nested compiled nested)
    · exact fun _ _ => applicable_of_all simulation.accepts
  exact simulation.answered node compiled _ value
    (running.andThen (simulation.lower related) fun c d agree => agree value (Nat.lt_succ_self _))

theorem reference_simulated (simulation : Simulation context building running) (guarded : context.Guarded) (fuel : Nat)
    (scope : Scope) (r : String) (reachable : context.Reachable r) (listed : r ∈ context.document.references)
    (level : ∀ s ∈ scope.level, Relation.TransGen context.Same s r) (value : Json)
    (enough : value.depth * (context.document.references.length + 1) + context.height r < fuel) :
    running.relates Eq (context.run scope r value) (interpretReference context fuel r value) := by
  -- The level holds only references that come before, so none of them is met again. A step at the same value
  -- lowers the height, a step down into the value lowers its depth.
  induction fuel generalizing scope r value with
  | zero => omega
  | succ fuel ih =>
      have first : r ∉ scope.level := fun member => guarded r reachable (level r member)
      cases resolved : Reference.resolve context.document r with
      | error fault => exact simulation.ends (run_unresolved first resolved fuel value)
      | ok target =>
          rw [run_step listed first resolved, interpretReference, resolved]
          have compiled : context.Compiled (Node.decode target) := ⟨r, target, reachable, resolved, .self _⟩
          refine check_simulated simulation compiled fuel value (fun s here => ?_) fun s below => ?_
          · have edge : context.Same r s := ⟨target, resolved, here⟩
            have found := reachable.tail (.inl edge)
            have lower := Context.height_edge edge (guarded s found)
            have levelNext : ∀ t ∈ (scope.next r).level, Relation.TransGen context.Same t s := by
              intro t member
              rcases next_level member with old | rfl
              · exact (level t old).tail edge
              · exact .single edge
            refine ⟨Context.target_reference_listed resolved (.inl here), found, fun part shallow => ?_⟩
            refine ih (scope.next r) s found (Context.target_reference_listed resolved (.inl here)) levelNext part ?_
            have bound := Nat.mul_le_mul_right (context.document.references.length + 1) (Nat.le_of_lt_succ shallow)
            omega
          · have found := reachable.tail (.inr ⟨target, resolved, below⟩)
            refine ⟨Context.target_reference_listed resolved (.inr below), found, fun part shallow => ?_⟩
            refine ih (scope.next r).descend s found (Context.target_reference_listed resolved (.inr below))
              (fun t member => absurd member List.not_mem_nil) part ?_
            have lower := context.height_deeper s shallow
            omega

theorem node_simulated (simulation : Simulation context building running) (guarded : context.Guarded) {scope : Scope}
    {node : Node} (compiled : context.Compiled node)
    (level : ∀ r, node.Here r → ∀ s ∈ scope.level, Relation.TransGen context.Same s r) (fuel : Nat) (value : Json)
    (enough : context.fuel value ≤ fuel) :
    running.relates Eq ((node.check context.formats (refer context) scope).andThen fun check => check value)
      (interpret context fuel node value) := by
  obtain ⟨r, target, reachable, resolved, nested⟩ := compiled
  have met : ∀ s, node.Here s ∨ node.Below s → (Node.decode target).Here s ∨ (Node.decode target).Below s :=
    fun s found => found.elim (here_nested nested) fun below => .inr (below_nested nested below)
  have room : ∀ s part, Shallow (value.depth + 1) part →
      part.depth * (context.document.references.length + 1) + context.height s < fuel :=
    fun s part shallow => Nat.lt_of_lt_of_le (context.height_deeper s shallow) enough
  refine check_simulated simulation ⟨r, target, reachable, resolved, nested⟩ fuel value (fun s here => ?_) fun s below => ?_
  · have listed := Context.target_reference_listed resolved (met s (.inl here))
    have found := Context.reachable_next reachable resolved (met s (.inl here))
    exact ⟨listed, found, fun part shallow => reference_simulated simulation guarded fuel scope s found listed
      (level s here) part (room s part shallow)⟩
  · have listed := Context.target_reference_listed resolved (met s (.inr below))
    have found := Context.reachable_next reachable resolved (met s (.inr below))
    exact ⟨listed, found, fun part shallow => reference_simulated simulation guarded fuel scope.descend s found listed
      (fun t member => absurd member List.not_mem_nil) part (room s part (Nat.lt_succ_of_lt shallow))⟩

end Simulated

theorem run_outcome {context : Context} {scope : Scope} {r : String} {check : Check}
    (returned : (refer context scope r).outcome = .ok check) (value : Json) :
    (context.run scope r value).outcome = (check value).outcome := by
  rw [Context.run, Logged.and_then_outcome, returned]
  rfl

theorem results_simulated (context : Context) : Simulation context Comparison.results Comparison.results where
  accepts := Comparison.results_fine
  ends same a returned := ⟨a, same ▸ returned, rfl⟩
  readable _ _ := readable_of_all Comparison.results_fine
  lift scope r _ _ on meaning runs check returned := by
    refine ⟨meaning, rfl, fun value holds found answered => ?_⟩
    exact runs value holds found ((run_outcome returned value).trans answered)
  lower related := related
  answered node _ meaning value x related a returned := by
    obtain ⟨_, interpreted, rfl⟩ := related a returned
    obtain ⟨check, compiled, found⟩ := (Logged.and_then_ok _ _ _).mp interpreted
    have same := Comparison.outcomes_eq (node_answered node {} check compiled value trivial)
    exact ⟨a, same.symm.trans found, rfl⟩

section Outcomes

variable {context : Context} (legible : context.Legible) (writable : context.Writable)
include legible writable

theorem compiled_readable (node : Node) (compiled : context.Compiled node) :
    node.Readable (Comparison.outcomes fun _ => False) :=
  readable_returns (legible node compiled) (writable node compiled)

theorem meant_compiled (node : Node) (compiled : context.Compiled node) (meaning : Meaning) :
    (node.check context.formats (refers meaning) {}).Returns := by
  have fine : ∀ {α : Type} (x : Traced α), (Comparison.outcomes fun _ => True).Fine x := fun x =>
    Comparison.outcomes_fine.mpr fun _ _ => trivial
  have related : (Comparison.outcomes fun _ => False).relates ((Comparison.outcomes fun _ => True).Agree fun _ => True)
      (node.check context.formats (refers meaning) {}) (node.check context.formats (refers meaning) {}) := by
    refine check_related (fun _ _ _ _ => trivial) (fun _ _ _ _ => trivial) ⟨?_, ?_, ?_, ?_⟩
    · exact fun _ _ => Comparison.result _ fun _ _ => fine _
    · exact fun _ _ => Comparison.result _ fun _ _ => fine _
    · exact fun inner nested => compiled_readable legible writable inner (compiled_nested compiled nested)
    · exact fun _ _ => applicable_of_all fine
  obtain ⟨check, _, returned, _⟩ := Comparison.outcomes_return.mp related
  exact ⟨check, returned⟩

theorem outcomes_simulated (short : context.ShortIndices) :
    Simulation context (Comparison.outcomes fun _ => False) (Comparison.outcomes fun _ => True) where
  accepts _ := Comparison.outcomes_fine.mpr fun _ _ => trivial
  ends := Comparison.outcomes_same
  readable := compiled_readable legible writable
  lift scope r reachable listed on meaning runs := by
    obtain ⟨check, returned⟩ := refer_returns legible writable short scope reachable listed
    refine Comparison.outcomes_return.mpr ⟨check, meaning, returned, rfl, fun value holds => ?_⟩
    have same := Comparison.outcomes_eq (runs value holds)
    rw [run_outcome returned] at same
    exact Comparison.outcomes_same same
  lower related := Comparison.outcomes_permit related fun _ impossible => impossible.elim
  answered node compiled meaning value x related := by
    obtain ⟨check, returned⟩ := meant_compiled legible writable node compiled meaning
    have same := Comparison.outcomes_eq (node_answered node {} check returned value trivial)
    have ends := Comparison.outcomes_eq related
    rw [Logged.and_then_outcome, returned] at ends
    exact Comparison.outcomes_same (ends.trans same)

end Outcomes

theorem root_level {context : Context} (s t : String) (here : (Node.decode context.document).Here s)
    (member : t ∈ rootScope.level) : Relation.TransGen context.Same t s := by
  obtain rfl := List.mem_singleton.mp member
  exact .single ⟨_, Context.resolve_root _, here⟩

theorem scopes_invisible (document : Json) (extras : Formats) :
    let schema := ofDocument document extras
    let context := schema.context
    let meets := fun node stack value =>
      ((Node.check context.formats (refer context) node ⟨stack, []⟩).andThen fun check => check value).outcome
    context.Guarded →
      (context.Legible → context.Writable → context.ShortIndices → schema.compile.Returns) ∧
      (∀ value, ∀ fuel ≥ context.fuel value, (schema.validate value).outcome =
        schema.compile.outcome.bind fun _ => (interpret context fuel schema.root value).outcome) ∧
      ∀ node, context.Compiled node → ∀ stack stack' value,
        (∀ found found', meets node stack value = .ok found → meets node stack' value = .ok found' → found = found') ∧
        (schema.compile.Returns → meets node stack value = meets node stack' value) := by
  intro schema context meets guarded
  refine ⟨compile_returns schema, ?_, ?_⟩
  · intro value fuel enough
    rw [validate_outcome]
    cases compiled : schema.compile.outcome with
    | error fault => rfl
    | ok checks =>
        obtain ⟨legible, writable, short⟩ := compile_reads_all schema ⟨checks, compiled⟩
        exact Comparison.outcomes_eq (node_simulated (outcomes_simulated legible writable short) guarded
          (root_compiled context) (fun r here s => root_level r s here) fuel value enough)
  · intro node compiled stack stack' value
    have level : ∀ stack r, node.Here r → ∀ s ∈ (Scope.mk stack []).level, Relation.TransGen context.Same s r :=
      fun _ _ _ _ member => absurd member List.not_mem_nil
    constructor
    · intro found found' first second
      obtain ⟨_, answer, rfl⟩ := node_simulated (results_simulated context) guarded compiled (level stack) _ value
        (Nat.le_refl _) found first
      obtain ⟨_, answer', rfl⟩ := node_simulated (results_simulated context) guarded compiled (level stack') _ value
        (Nat.le_refl _) found' second
      exact Except.ok.inj (answer.symm.trans answer')
    · intro returned
      obtain ⟨legible, writable, short⟩ := compile_reads_all schema returned
      have simulation := outcomes_simulated legible writable short
      have first := Comparison.outcomes_eq (node_simulated simulation guarded compiled (level stack) _ value (Nat.le_refl _))
      have second := Comparison.outcomes_eq (node_simulated simulation guarded compiled (level stack') _ value (Nat.le_refl _))
      exact first.trans second.symm

theorem scopes_invisible_for_lists :
    let document := Json.object [("allOf", .array [.object [("$ref", .string "#/definitions/list")]]),
      ("definitions", .object [("list", .object [("items", .object [("$ref", .string "#")])])])]
    let schema := ofDocument document []
    let value := Json.array [.array []]
    schema.context.Guarded ∧ (schema.validate value).outcome = schema.compile.outcome.bind fun _ =>
      (interpret schema.context (schema.context.fuel value) schema.root value).outcome := by
  intro document schema value
  have list : ∀ s, ¬ schema.context.Same "#/definitions/list" s := by
    rintro s ⟨target, resolved, here⟩
    have same : Reference.resolve document "#/definitions/list" =
        .ok (.object [("items", .object [("$ref", .string "#")])]) := rfl
    cases same.symm.trans resolved
    cases here with
    | own named => cases named
    | peer member _ => exact absurd member List.not_mem_nil
  have root : ∀ s, schema.context.Same rootReference s → s = "#/definitions/list" := by
    rintro s ⟨target, resolved, here⟩
    cases (Context.resolve_root document).symm.trans resolved
    cases here with
    | own named => cases named
    | peer member met =>
        obtain rfl := List.mem_singleton.mp member
        cases met with
        | own named => exact (Option.some.inj named).symm
        | peer member _ => exact absurd member List.not_mem_nil
  have guarded : schema.context.Guarded := by
    intro r reachable circular
    have listed : r = rootReference ∨ r = "#/definitions/list" := by
      rcases Context.reachable_listed reachable with same | found
      · exact .inl same
      · have members : r ∈ ["#/definitions/list", rootReference] := found
        exact (List.mem_cons.mp members).symm.imp_left List.mem_singleton.mp
    obtain ⟨s, edge, rest⟩ := Relation.TransGen.head'_iff.mp circular
    rcases listed with rfl | rfl
    · obtain rfl := root s edge
      rcases Relation.ReflTransGen.cases_head rest with same | ⟨t, second, _⟩
      · exact absurd same (by decide)
      · exact list t second
    · exact list s edge
  exact ⟨guarded, (scopes_invisible document [] guarded).2.1 value _ (Nat.le_refl _)⟩

end Conform.Schema
