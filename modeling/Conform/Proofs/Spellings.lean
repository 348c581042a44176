import Conform.Proofs.Agreement
import Conform.Proofs.Conjunction
import Conform.Proofs.Endings

set_option autoImplicit false

namespace Conform

namespace Logged

variable {ε α β γ : Type}

theorem joined_outcome {xs ys : List (Logged ε (List α))} (same : List.Forall₂ (fun x y => x.outcome = y.outcome) xs ys) :
    (joined xs).outcome = (joined ys).outcome := by
  induction same with
  | nil => rfl
  | cons first _ ih => simp only [joined, and_then_outcome, first, ih]

theorem each_map (f : α → Logged ε β) (g : γ → α) (as : List γ) : each f (as.map g) = each (fun a => f (g a)) as := by
  induction as with
  | nil => rfl
  | cons a rest ih => simp only [List.map_cons, each, ih]

theorem each_then (f : α → Logged ε β) (g : β → γ) (as : List α) :
    each (fun a => (f a).andThen fun b => result (g b)) as = (each f as).andThen fun bs => result (bs.map g) := by
  induction as with
  | nil => rfl
  | cons a rest ih => simp only [each, ih, and_then_assoc, result_and_then, List.map_cons]

theorem each_copies (f : α → Logged ε β) (a : α) (count : Nat) (g : List β → β → γ) :
    ((each f (List.replicate count a)).andThen fun bs => (f a).andThen fun b => result (g bs b)).outcome =
      ((f a).andThen fun b => result (g (List.replicate count b) b)).outcome := by
  induction count generalizing g with
  | zero => rw [List.replicate_zero, each, result_and_then]; rfl
  | succ count ih =>
      have later : ∀ b, ((each f (List.replicate count a)).andThen fun bs => (f a).andThen fun last =>
          result (g (b :: bs) last)).outcome = ((f a).andThen fun last => result (g (b :: List.replicate count last) last)).outcome :=
        fun b => ih fun bs last => g (b :: bs) last
      simp only [List.replicate_succ, each, and_then_assoc, result_and_then]
      rw [and_then_outcome]
      simp only [later, and_then_outcome]
      cases (f a).outcome <;> rfl

theorem returns_and_then (x : Logged ε α) (f : α → Logged ε β) :
    (x.andThen f).Returns ↔ ∃ a, x.outcome = .ok a ∧ (f a).Returns := by
  simp only [Returns, and_then_ok]
  exact ⟨fun ⟨b, a, first, second⟩ => ⟨a, first, b, second⟩, fun ⟨a, first, b, second⟩ => ⟨b, a, first, second⟩⟩

theorem each_returns (f : α → Logged ε β) (as : List α) : (each f as).Returns ↔ ∀ a ∈ as, (f a).Returns := by
  constructor
  · rintro ⟨bs, returned⟩ a member
    obtain ⟨b, _, first⟩ := each_ok_member f as bs returned a member
    exact ⟨b, first⟩
  · intro returns
    induction as with
    | nil => exact ⟨[], rfl⟩
    | cons a rest ih =>
        obtain ⟨⟨b, first⟩, later⟩ := List.forall_mem_cons.mp returns
        obtain ⟨bs, second⟩ := ih later
        exact ⟨b :: bs, (each_ok_iff _ _ _).mpr (.cons first ((each_ok_iff _ _ _).mp second))⟩

end Logged

def Logged.verdict (x : Traced Findings) : Except Fault Bool :=
  x.outcome.map List.isEmpty

namespace Check

open Logged

theorem all_all (checks more : List Check) : all [all checks, all more] = all (checks ++ more) := by
  funext value
  rw [← List.singleton_append, all_append, all_append, all_one, all_one]

theorem any_one (check : Check) : any [check] = check := by
  funext value
  have kept : ∀ own : Findings, (if own.isEmpty then Logged.result [] else anyAfter ([] ++ own) [] value) = Logged.result own := by
    intro own
    cases own <;> simp [anyAfter]
  calc any [check] value = (check value).andThen fun own => if own.isEmpty then .result [] else anyAfter ([] ++ own) [] value := rfl
    _ = (check value).andThen .result := by simp only [kept]
    _ = check value := and_then_result _

theorem one_of_one (check : Check) (value : Json) : one [check] value = (check value).andThen fun own =>
    .result (if own.isEmpty then [] else "Value does not match any of the 'oneOf' schemas" :: own) := by
  simp only [one, outcomes, each_one, bind_eq, and_then_assoc, result_and_then]
  congr
  funext own
  cases own <;> simp [pure]

theorem negate_negate (check : Check) (value : Json) : negate (negate check) value = (check value).andThen fun own =>
    .result (if own.isEmpty then [] else ["Value must not match the 'not' schema"]) := by
  simp only [negate, bind_eq, and_then_assoc, pure, result_and_then]
  congr
  funext own
  cases own <;> simp

theorem positional_copies (check : Check) (count : Nat) (values : List Json) :
    positional check (List.replicate count check) values = each check values := by
  induction count generalizing values with
  | zero => cases values <;> rfl
  | succ count ih =>
      cases values with
      | nil => rfl
      | cons value values =>
          rw [List.replicate_succ, positional, ih]
          rfl

theorem tuple_copies (check : Check) (count : Nat) : tuple (List.replicate count check) check = items check := by
  funext value
  cases value with
  | array values => rw [tuple, positional_copies]; rfl
  | _ => rfl

theorem all_negated (checks : List Check) (value : Json) : all (checks.map negate) value =
    (outcomes checks value).andThen fun found =>
      .result (found.flatMap fun own => if own.isEmpty then ["Value must not match the 'not' schema"] else []) := by
  have negated : outcomes (checks.map negate) value = (outcomes checks value).andThen fun found =>
      .result (found.map fun own => if own.isEmpty then ["Value must not match the 'not' schema"] else []) := by
    rw [outcomes, each_map]
    exact each_then (fun check : Check => check value) _ checks
  rw [all, bind_eq, negated, and_then_assoc]
  simp only [pure, result_and_then, List.flatMap]

end Check

namespace Schema

open Logged

variable (formats : Formats) (refer : Expansion) (scope : Scope)

section Alone

variable {node : Node}

theorem check_alone (before after : Nat) (group : Traced (List Check)) (alone : node.groups formats refer scope =
    List.replicate before (.result []) ++ [group] ++ List.replicate after (.result [])) :
    node.check formats refer scope = group.andThen fun checks => .result (Check.all checks) := by
  rw [check_eq, checks_eq, alone, joined_padded, joined_one]

theorem check_combined (before after : Nat) {combine : List Check → Check} {nodes : List Node}
    (alone : node.groups formats refer scope = List.replicate before (.result []) ++
      [combinedGroup formats refer combine (some nodes) scope] ++ List.replicate after (.result [])) :
    node.check formats refer scope =
      (each (fun inner => inner.check formats refer scope) nodes).andThen fun checks => .result (combine checks) := by
  rw [check_alone formats refer scope before after _ alone]
  simp only [combinedGroup, and_then_assoc, result_and_then, Check.all_one]

end Alone

theorem check_all_of (nodes : List Node) : Node.check formats refer { allOf := some nodes } scope =
    (each (fun inner => inner.check formats refer scope) nodes).andThen fun checks => .result (Check.all checks) :=
  check_combined formats refer scope 2 20 rfl

theorem check_any_of (nodes : List Node) : Node.check formats refer { anyOf := some nodes } scope =
    (each (fun inner => inner.check formats refer scope) nodes).andThen fun checks => .result (Check.any checks) :=
  check_combined formats refer scope 3 19 rfl

theorem check_one_of (nodes : List Node) : Node.check formats refer { oneOf := some nodes } scope =
    (each (fun inner => inner.check formats refer scope) nodes).andThen fun checks => .result (Check.one checks) :=
  check_combined formats refer scope 4 18 rfl

theorem check_not (inner : Node) : Node.check formats refer { negation := some inner } scope =
    (inner.check formats refer scope).andThen fun check => .result (Check.negate check) := by
  rw [check_alone formats refer scope 5 17 (negatedGroup formats refer (some inner) scope) rfl]
  simp only [negatedGroup, and_then_assoc, result_and_then, Check.all_one]

theorem check_demand (key : String) (demand : Demand Node) : Node.check formats refer { dependencies := some [(key, demand)] } scope =
    demandCheck formats refer scope (key, demand) := by
  rw [check_eq, demand_checks_alone, and_then_assoc]
  simp only [result_and_then, Check.all_one]
  exact and_then_result _

theorem item_group_copies (node inner : Node) (count : Nat) :
    (Node.itemGroup formats refer
      { node with items := none, tupleItems := some (List.replicate count inner), additionalItems := .schema inner } scope).outcome =
    (Node.itemGroup formats refer { node with items := some inner } scope).outcome := by
  have copies := each_copies (fun inner : Node => inner.check formats refer scope) inner count
    fun checks rest => [Check.tuple checks rest]
  simp only [Check.tuple_copies] at copies
  exact copies

theorem checks_outcome {node other : Node} (same : List.Forall₂ (fun x y => x.outcome = y.outcome)
    (node.groups formats refer scope) (other.groups formats refer scope)) (value : Json) :
    (node.run formats refer scope value).outcome = (other.run formats refer scope value).outcome := by
  rw [run_eq, run_eq, checks_eq, checks_eq, and_then_outcome, and_then_outcome, joined_outcome same]

theorem run_copies (node inner : Node) (count : Nat) (value : Json) :
    (Node.run formats refer { node with items := some inner } scope value).outcome = (Node.run formats refer
      { node with items := none, tupleItems := some (List.replicate count inner), additionalItems := .schema inner }
        scope value).outcome := by
  apply checks_outcome
  have others : ∀ groups : List (Traced (List Check)), List.Forall₂ (fun x y => x.outcome = y.outcome) groups groups :=
    fun groups => List.forall₂_same.mpr fun _ _ => rfl
  have item := item_group_copies formats refer scope.descend node inner count
  exact List.rel_append (List.rel_append (others ((node.groups formats refer scope).take 16)) (.cons item.symm .nil))
    (others ((node.groups formats refer scope).drop 17))

def missing (key : String) (names : List String) : Json → List String
  | .object members => if hasMember key members then names.filter fun name => !hasMember name members else []
  | _ => []

theorem run_names (key : String) (names : List String) (value : Json) :
    Node.run formats refer { dependencies := some [(key, .keys names)] } scope value =
      .result ((missing key names value).map fun name => "'" ++ key ++ "' is missing its dependency of '" ++ name ++ "'") := by
  rw [Node.run, check_demand, demandCheck, result_and_then, Check.ofFindings]
  cases value with
  | object members => by_cases present : hasMember key members <;> simp [Keyword.dependency, missing, present]
  | _ => rfl

theorem check_required (names : List String) : Node.check formats refer { own := { required := some names } } scope =
    .result (Check.ofFindings (Keyword.required names)) := by
  rw [check_alone formats refer scope 19 3 (.result [Check.ofFindings (Keyword.required names)]) rfl, result_and_then,
    Check.all_one]

theorem run_required (key : String) (names : List String) (value : Json) :
    Node.run formats refer { dependencies := some [(key, .schema { own := { required := some names } })] } scope value =
      .result ((missing key names value).map fun name => "Required property '" ++ name ++ "' is missing") := by
  rw [Node.run, check_demand]
  simp only [demandCheck, check_required, result_and_then]
  cases value with
  | object members =>
      by_cases present : hasMember key members <;>
        simp [Check.whenPresent, Check.ofFindings, Keyword.required, missing, present]
  | _ => rfl

theorem verdict_and_then (x : Traced Findings) (f : Findings → Findings) (keeps : ∀ found, (f found).isEmpty = found.isEmpty) :
    (x.andThen fun found => .result (f found)).verdict = x.verdict := by
  rw [verdict, verdict, and_then_outcome]
  cases x.outcome with
  | error fault => rfl
  | ok found => simp [Except.bind, Except.map, Logged.result, keeps]

theorem check_all_of_one (inner : Node) : Node.check formats refer { allOf := some [inner] } scope = inner.check formats refer scope := by
  rw [check_all_of, each_one, and_then_assoc]
  simp only [result_and_then, Check.all_one]
  exact and_then_result _

theorem check_any_of_one (inner : Node) : Node.check formats refer { anyOf := some [inner] } scope = inner.check formats refer scope := by
  rw [check_any_of, each_one, and_then_assoc]
  simp only [result_and_then, Check.any_one]
  exact and_then_result _

theorem verdict_one_of_one (inner : Node) (value : Json) :
    (Node.run formats refer { oneOf := some [inner] } scope value).verdict = (inner.run formats refer scope value).verdict := by
  rw [Node.run, check_one_of, each_one, and_then_assoc, and_then_assoc]
  simp only [result_and_then, Check.one_of_one]
  rw [← and_then_assoc]
  exact verdict_and_then _ _ fun found => by cases found <;> rfl

theorem verdict_not_not (inner : Node) (value : Json) :
    (Node.run formats refer { negation := some { negation := some inner } } scope value).verdict =
      (inner.run formats refer scope value).verdict := by
  rw [Node.run, check_not, check_not]
  simp only [and_then_assoc, result_and_then, Check.negate_negate]
  rw [← and_then_assoc]
  exact verdict_and_then _ _ fun found => by cases found <;> rfl

theorem check_all_of_append (nodes more : List Node) :
    Node.check formats refer { allOf := some [{ allOf := some nodes }, { allOf := some more }] } scope =
      Node.check formats refer { allOf := some (nodes ++ more) } scope := by
  simp only [check_all_of, each, each_append, and_then_assoc, result_and_then, Check.all_all]

theorem check_negations (nodes : List Node) : Node.check formats refer { allOf := some (nodes.map fun inner => { negation := some inner }) } scope =
    (each (fun inner => inner.check formats refer scope) nodes).andThen fun checks => .result (Check.all (checks.map Check.negate)) := by
  rw [check_all_of, each_map]
  simp only [check_not]
  rw [each_then, and_then_assoc]
  simp only [result_and_then]

theorem run_negations (nodes : List Node) (value : Json) :
    Node.run formats refer { allOf := some (nodes.map fun inner => { negation := some inner }) } scope value =
      (each (fun inner => inner.check formats refer scope) nodes).andThen fun checks =>
        Check.all (checks.map Check.negate) value := by
  rw [Node.run, check_negations, and_then_assoc]
  simp only [result_and_then]

theorem run_negated_choice (nodes : List Node) (value : Json) :
    Node.run formats refer { negation := some { anyOf := some nodes } } scope value =
      (each (fun inner => inner.check formats refer scope) nodes).andThen fun checks =>
        Check.negate (Check.any checks) value := by
  rw [Node.run, check_not, check_any_of]
  simp only [and_then_assoc, result_and_then]

theorem negations_return (nodes : List Node) (value : Json) : (Node.run formats refer
      { allOf := some (nodes.map fun inner => { negation := some inner }) } scope value).Returns ↔
    ∀ inner ∈ nodes, (inner.run formats refer scope value).Returns := by
  have applied : ∀ checks : List Check, (Check.all (checks.map Check.negate) value).Returns ↔
      ∀ check ∈ checks, (check value).Returns := by
    intro checks
    rw [Check.all_negated, returns_and_then, ← each_returns]
    exact ⟨fun ⟨found, answered, _⟩ => ⟨found, answered⟩, fun ⟨found, answered⟩ => ⟨found, answered, _, rfl⟩⟩
  rw [run_negations, returns_and_then]
  simp only [applied]
  constructor
  · rintro ⟨checks, compiled, answers⟩ inner member
    obtain ⟨check, kept, made⟩ := each_ok_member _ nodes checks compiled inner member
    exact (returns_and_then _ _).mpr ⟨check, made, answers check kept⟩
  · intro returns
    have compiles : (each (fun inner => inner.check formats refer scope) nodes).Returns := by
      apply (each_returns _ nodes).mpr
      intro inner member
      obtain ⟨check, made, _⟩ := (returns_and_then _ _).mp (returns inner member)
      exact ⟨check, made⟩
    obtain ⟨checks, compiled⟩ := compiles
    refine ⟨checks, compiled, fun check kept => ?_⟩
    obtain ⟨inner, member, made⟩ := each_ok_source _ nodes checks compiled check kept
    obtain ⟨again, same, answers⟩ := (returns_and_then _ _).mp (returns inner member)
    cases made.symm.trans same
    exact answers

theorem negations_verdict {nodes : List Node} {value : Json} (returned : (Node.run formats refer
      { allOf := some (nodes.map fun inner => { negation := some inner }) } scope value).Returns) :
    (Node.run formats refer { negation := some { anyOf := some nodes } } scope value).verdict =
      (Node.run formats refer { allOf := some (nodes.map fun inner => { negation := some inner }) } scope value).verdict := by
  rw [run_negations] at returned ⊢
  rw [run_negated_choice]
  obtain ⟨found, returned⟩ := returned
  obtain ⟨checks, compiled, all⟩ := (and_then_ok _ _ _).mp returned
  obtain ⟨shares, answered, last⟩ := (and_then_ok _ _ _).mp (Check.all_negated checks value ▸ all)
  cases last
  obtain ⟨choice, chosen, accepts⟩ := Check.any_after_returned answered []
  have negated : ((each (fun inner => inner.check formats refer scope) nodes).andThen fun checks =>
      Check.negate (Check.any checks) value).outcome =
        .ok (if choice.isEmpty then ["Value must not match the 'not' schema"] else []) :=
    (and_then_ok _ _ _).mpr ⟨checks, compiled, (and_then_ok _ _ _).mpr ⟨choice, chosen, rfl⟩⟩
  rw [verdict, verdict, negated, returned]
  by_cases accepted : choice = []
  · have member := accepts.mp accepted
    simp [Except.map, accepted, member]
  · have absent := mt accepts.mpr accepted
    have none : ∀ share ∈ shares, share ≠ [] := fun share member empty => absent (empty ▸ member)
    simpa [Except.map, accepted] using none

-- A choice may end before a schema that fails, so its negation is compared with the negations where they end. Where the
-- patterns can be read, few things are left to keep a schema from that.
theorem spellings_agree (formats : Formats) (refer : Expansion) (scope : Scope) (value : Json) :
    let run := fun node : Node => node.run formats refer scope value
    (∀ (node inner : Node) (count : Nat), (run { node with items := some inner }).outcome = (run { node with
      items := none, tupleItems := some (List.replicate count inner), additionalItems := .schema inner }).outcome) ∧
    (∀ key names,
      (run { dependencies := some [(key, .keys names)] }).outcome = .ok ((missing key names value).map fun name =>
        "'" ++ key ++ "' is missing its dependency of '" ++ name ++ "'") ∧
      (run { dependencies := some [(key, .schema { own := { required := some names } })] }).outcome =
        .ok ((missing key names value).map fun name => "Required property '" ++ name ++ "' is missing")) ∧
    (∀ inner, run { allOf := some [inner] } = run inner ∧ run { anyOf := some [inner] } = run inner ∧
      (run { oneOf := some [inner] }).verdict = (run inner).verdict ∧
      (run { negation := some { negation := some inner } }).verdict = (run inner).verdict) ∧
    (∀ nodes more, run { allOf := some [{ allOf := some nodes }, { allOf := some more }] } =
      run { allOf := some (nodes ++ more) }) ∧
    (∀ nodes,
      let negations : Node := { allOf := some (nodes.map fun inner => { negation := some inner }) }
      ((run negations).Returns ↔ ∀ inner ∈ nodes, (run inner).Returns) ∧
      ((run negations).Returns → (run { negation := some { anyOf := some nodes } }).verdict = (run negations).verdict)) ∧
    ∀ (context : Context) (extras : Formats), context.formats = Formats.extend extras → context.Legible →
      ∀ inner, context.Compiled inner → ∀ fault,
        (inner.run context.formats (Schema.refer context) scope value).outcome = .error fault →
          Fails context extras value fault := by
  intro run
  refine ⟨fun node inner count => run_copies formats refer scope node inner count value, fun key names => ?_, fun inner => ?_,
    fun nodes more => ?_, fun nodes => ?_, fun context extras supplied legible inner compiled fault failed => ?_⟩
  · simp only [run, run_names, run_required, Logged.result, and_self]
  · refine ⟨?_, ?_, verdict_one_of_one formats refer scope inner value, verdict_not_not formats refer scope inner value⟩
    · simp only [run, Node.run, check_all_of_one]
    · simp only [run, Node.run, check_any_of_one]
  · simp only [run, Node.run, check_all_of_append]
  · exact ⟨negations_return formats refer scope nodes value, negations_verdict formats refer scope⟩
  · exact Comparison.outcomes_fine.mp (compiled_failing legible supplied compiled scope value) fault failed

theorem spellings_agree_for_kinds :
    let nodes : List Node := [{ own := { kinds := some [.string] } }, { own := { kinds := some [.null] } }]
    let run := fun node : Node => node.run Formats.standard (fun _ _ => .result Check.accept) {} (.bool true)
    (run { allOf := some (nodes.map fun inner => { negation := some inner }) }).Returns ∧
      (run { negation := some { anyOf := some nodes } }).verdict = .ok true := by
  intro nodes run
  obtain ⟨_, _, _, _, choices, _⟩ := spellings_agree Formats.standard (fun _ _ => .result Check.accept) {} (.bool true)
  obtain ⟨_, agree⟩ := choices nodes
  have returned : (run { allOf := some (nodes.map fun inner => { negation := some inner }) }).Returns := ⟨_, rfl⟩
  exact ⟨returned, agree returned⟩

end Schema

end Conform
