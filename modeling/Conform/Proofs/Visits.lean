import Conform.Proofs.Coverage
import Conform.Proofs.Expansion
import Conform.Proofs.Writing

set_option autoImplicit false

namespace Conform

namespace Schema

structure Node.Legible (node : Node) : Prop where
  text : ∀ source, node.own.pattern = some source → Pattern.Legible source
  keys : ∀ entry ∈ node.patternProperties.getD [], Pattern.Legible entry.1

def Node.Writable (node : Node) : Prop :=
  ∀ n ∈ node.own.written, n.isWritable = true

theorem readable_returns {node : Node} (legible : node.Legible) (writable : node.Writable) :
    node.Readable (Comparison.outcomes fun _ => False) := by
  have fine : ∀ {α : Type} {x : Traced α}, x.Returns → (Comparison.outcomes fun _ => False).Fine x :=
    fun ⟨a, returned⟩ => Comparison.outcomes_return.mpr ⟨a, a, returned, returned, rfl⟩
  constructor
  · exact fun source given => fine ((Keyword.read_pattern_legible _ source).mpr (legible.text source given))
  · intro source listed
    obtain ⟨entry, member, rfl⟩ := List.mem_map.mp listed
    exact fine ((Keyword.read_pattern_legible _ entry.1).mpr (legible.keys entry member))
  · exact fun numbers listed => fine ((Keyword.write_returns numbers).mpr fun n member => writable n (listed member))
  · exact fun _ => fine ⟨_, rfl⟩

namespace Context

variable (context : Context)

inductive Expands : Scope → String → Prop where
  | root : Expands rootScope rootReference
  | same {scope : Scope} {r s : String} {target inner : Json} (outer : Expands scope r)
      (resolved : Reference.resolve context.document r = .ok target) (met : (Node.decode target).Here s)
      (fresh : s ∉ scope.stack) (found : Reference.resolve context.document s = .ok inner) : Expands (scope.enter s) s
  | inside {scope : Scope} {r s : String} {target inner : Json} (outer : Expands scope r)
      (resolved : Reference.resolve context.document r = .ok target) (met : (Node.decode target).Below s)
      (fresh : s ∉ scope.stack) (found : Reference.resolve context.document s = .ok inner) :
      Expands (scope.descend.enter s) s

def Legible : Prop :=
  ∀ node, context.Compiled node → node.Legible

def Writable : Prop :=
  ∀ node, context.Compiled node → node.Writable

def ShortIndices : Prop :=
  ∀ r count, context.Reachable r → Reference.resolve context.document r ≠ .error (.tooManyDigits count)

variable {context}

theorem expands_resolved {scope : Scope} {r : String} (expands : context.Expands scope r) :
    ∃ target, Reference.resolve context.document r = .ok target := by
  cases expands with
  | root => exact ⟨_, resolve_root _⟩
  | same _ _ _ _ found => exact ⟨_, found⟩
  | inside _ _ _ _ found => exact ⟨_, found⟩

theorem expands_level {scope : Scope} {r : String} (expands : context.Expands scope r) : scope.level ⊆ scope.stack := by
  induction expands with
  | root => exact fun _ member => member
  | same _ _ _ _ _ ih =>
      intro t member
      rcases List.mem_append.mp member with old | new
      · exact List.mem_append_left _ (ih old)
      · exact List.mem_append_right _ new
  | inside => exact fun _ member => List.mem_append_right _ member

-- What stands on the stack was expanded before, where the stack was shorter.
theorem expands_stack {scope : Scope} {r t : String} (expands : context.Expands scope r) (member : t ∈ scope.stack) :
    t = r ∨ ∃ outer, context.Expands outer t ∧ outer.stack.length < scope.stack.length := by
  induction expands with
  | root => exact .inl (List.mem_singleton.mp member)
  | @same scope r s _ _ outer _ _ _ _ ih =>
      have longer : scope.stack.length < (scope.enter s).stack.length := by simp [Scope.enter]
      rcases List.mem_append.mp member with old | new
      · rcases ih old with rfl | ⟨first, expanded, shorter⟩
        · exact .inr ⟨scope, outer, longer⟩
        · exact .inr ⟨first, expanded, Nat.lt_trans shorter longer⟩
      · exact .inl (List.mem_singleton.mp new)
  | @inside scope r s _ _ outer _ _ _ _ ih =>
      have longer : scope.stack.length < (scope.descend.enter s).stack.length := by simp [Scope.enter, Scope.descend]
      rcases List.mem_append.mp member with old | new
      · rcases ih old with rfl | ⟨first, expanded, shorter⟩
        · exact .inr ⟨scope, outer, longer⟩
        · exact .inr ⟨first, expanded, Nat.lt_trans shorter longer⟩
      · exact .inl (List.mem_singleton.mp new)

theorem expands_again {scope : Scope} {r t : String} (expands : context.Expands scope r) (member : t ∈ scope.stack) :
    ∃ outer, context.Expands outer t := by
  rcases expands_stack expands member with rfl | ⟨outer, expanded, _⟩
  · exact ⟨scope, expands⟩
  · exact ⟨outer, expanded⟩

theorem reachable_expands {r : String} {target : Json} (reachable : context.Reachable r)
    (resolved : Reference.resolve context.document r = .ok target) : ∃ scope, context.Expands scope r := by
  induction reachable generalizing target with
  | refl => exact ⟨rootScope, .root⟩
  | @tail r s _ leads ih =>
      rcases leads with ⟨outerTarget, found, met⟩ | ⟨outerTarget, found, met⟩
      · obtain ⟨scope, expanded⟩ := ih found
        by_cases above : s ∈ scope.stack
        · exact expands_again expanded above
        · exact ⟨scope.enter s, .same expanded found met above resolved⟩
      · obtain ⟨scope, expanded⟩ := ih found
        by_cases above : s ∈ scope.stack
        · exact expands_again expanded above
        · exact ⟨scope.descend.enter s, .inside expanded found met above resolved⟩

theorem expands_run {scope : Scope} {r : String} {target : Json} (expands : context.Expands scope r)
    (resolved : Reference.resolve context.document r = .ok target) :
    ((Node.decode context.document).checks context.formats (refer context) rootScope).Runs
      ((Node.decode target).checks context.formats (refer context) scope) := by
  induction expands generalizing target with
  | root =>
      cases resolved
      exact Logged.runs_self _
  | @same scope r s outerTarget _ outer found met fresh _ ih =>
      have first : s ∉ scope.level := fun member => fresh (expands_level outer member)
      have eager := refer_eager (target_reference_listed found (.inl met)) first resolved fresh
      have reference := Logged.runs_trans (ih found) (checks_run_here met)
      rw [eager] at reference
      exact Logged.runs_trans reference check_runs_checks
  | @inside scope r s outerTarget _ outer found met fresh _ ih =>
      have first : s ∉ scope.descend.level := List.not_mem_nil
      have eager := refer_eager (target_reference_listed found (.inr met)) first resolved fresh
      have reference := Logged.runs_trans (ih found) (checks_run_below met)
      rw [eager] at reference
      exact Logged.runs_trans reference check_runs_checks

-- Every reference but that to the document itself is made by some target that is expanded.
theorem reachable_met {s : String} (reachable : context.Reachable s) :
    s = rootReference ∨ ∃ scope r target, context.Expands scope r ∧
      Reference.resolve context.document r = .ok target ∧
        ((Node.decode target).Here s ∨ (Node.decode target).Below s) := by
  rcases Relation.ReflTransGen.cases_tail reachable with same | ⟨r, before, leads⟩
  · exact .inl same
  · rcases leads with ⟨target, resolved, met⟩ | ⟨target, resolved, met⟩
    · obtain ⟨scope, expanded⟩ := reachable_expands before resolved
      exact .inr ⟨scope, r, target, expanded, resolved, .inl met⟩
    · obtain ⟨scope, expanded⟩ := reachable_expands before resolved
      exact .inr ⟨scope, r, target, expanded, resolved, .inr met⟩

theorem reachable_complained {s : String} {fault : Reference.Fault} (reachable : context.Reachable s)
    (failed : Reference.resolve context.document s = .error fault) :
    ((Node.decode context.document).checks context.formats (refer context) rootScope).Runs (complaint s fault) := by
  rcases reachable_met reachable with rfl | ⟨scope, r, target, expanded, resolved, met⟩
  · cases failed
  · have unresolvable : s ∉ scope.level := by
      intro member
      obtain ⟨_, again⟩ := expands_again expanded (expands_level expanded member)
      obtain ⟨inner, found⟩ := expands_resolved again
      rw [found] at failed
      cases failed
    have whole := expands_run expanded resolved
    rcases met with here | below
    · have reference := Logged.runs_trans whole (checks_run_here here)
      rw [refer_unresolved unresolvable failed, unresolved_eq] at reference
      exact Logged.runs_trans reference (Logged.runs_first _ _)
    · have reference := Logged.runs_trans whole (checks_run_below below)
      rw [refer_unresolved List.not_mem_nil failed, unresolved_eq] at reference
      exact Logged.runs_trans reference (Logged.runs_first _ _)

end Context

theorem complaint_returns (r : String) (fault : Reference.Fault) :
    (complaint r fault).Returns ↔ ∀ count, fault ≠ .tooManyDigits count := by
  constructor
  · rintro ⟨message, returned⟩ count rfl
    cases returned
  · intro short
    cases fault with
    | remote => exact ⟨_, rfl⟩
    | notFound step => exact ⟨_, rfl⟩
    | tooManyDigits count => exact absurd rfl (short count)

theorem compile_reads_all (schema : Schema) (returned : schema.compile.Returns) :
    schema.context.Legible ∧ schema.context.Writable ∧ schema.context.ShortIndices := by
  have whole : schema.compile.Runs (schema.root.checks schema.formats (refer schema.context) rootScope) :=
    Logged.runs_first _ _
  have compiled : ∀ node, schema.context.Compiled node → ∀ {α : Type} (part : Traced α),
      (∀ scope, (node.checks schema.formats (refer schema.context) scope).Runs part) → part.Returns := by
    rintro node ⟨r, target, reachable, resolved, nested⟩ α part runs
    obtain ⟨scope, expanded⟩ := Context.reachable_expands reachable resolved
    have reached := Logged.runs_trans whole (Context.expands_run expanded resolved)
    exact (Logged.runs_trans reached (checks_run_nested nested part runs) returned).1
  refine ⟨fun node met => ⟨fun source given => ?_, fun entry member => ?_⟩, fun node met n member => ?_,
    fun r count reachable failed => ?_⟩
  · exact (Keyword.read_pattern_legible _ source).mp (compiled node met _ fun _ => checks_run_text given)
  · exact (Keyword.read_pattern_legible _ entry.1).mp (compiled node met _ fun _ => checks_run_key member)
  · exact (Keyword.write_returns [n]).mp (compiled node met _ fun _ => checks_run_written member) n (List.mem_singleton_self n)
  · have complained := Logged.runs_trans whole (Context.reachable_complained reachable failed)
    exact (complaint_returns r _).mp (complained returned).1 count rfl

theorem anything_applies (context : Context) (met : Scope → String → Prop) : Applies context Comparison.anything met :=
  fun _ _ _ _ _ _ _ => applicable_of_all fun _ => trivial

theorem anything_kept {context : Context} {building : Comparison} {met : Scope → String → Prop}
    (invariant : Invariant context building met) : Invariant context Comparison.anything met where
  circular _ _ _ _ := trivial
  unresolved _ _ _ _ _ := trivial
  readable _ _ _ _ _ _ _ := readable_of_all fun _ => trivial
  here := invariant.here
  below := invariant.below

section Returning

variable {context : Context} (legible : context.Legible) (writable : context.Writable) (short : context.ShortIndices)
include legible writable short

theorem returning_kept : Invariant context (Comparison.outcomes fun _ => False) fun _ r => context.Reachable r where
  circular _ _ _ _ := Comparison.outcomes_return.mpr ⟨_, _, rfl, rfl, rfl⟩
  unresolved _ r fault reachable failed := by
    have notLong : ∀ count, fault ≠ .tooManyDigits count := fun count same => short r count reachable (same ▸ failed)
    obtain ⟨message, returned⟩ := (complaint_returns r fault).mpr notLong
    exact Comparison.outcomes_return.mpr ⟨message, message, returned, returned, rfl⟩
  readable _ r target reachable resolved inner nested :=
    have compiled : context.Compiled inner := ⟨r, target, reachable, resolved, nested⟩
    readable_returns (legible inner compiled) (writable inner compiled)
  here _ _ target _ reachable _ resolved here := Context.reachable_next reachable resolved (.inl here)
  below _ _ target _ reachable _ resolved below := Context.reachable_next reachable resolved (.inr below)

theorem refer_returns (scope : Scope) {r : String} (reachable : context.Reachable r)
    (listed : r ∈ context.document.references) : (refer context scope r).Returns := by
  have kept := returning_kept legible writable short
  have related := refer_fine (anything_applies context _) kept (anything_kept kept) 0 scope r reachable listed
  obtain ⟨check, _, returned, _⟩ := Comparison.outcomes_return.mp related
  exact ⟨check, returned⟩

end Returning

theorem compile_returns (schema : Schema) (legible : schema.context.Legible) (writable : schema.context.Writable)
    (short : schema.context.ShortIndices) : schema.compile.Returns := by
  have kept := returning_kept legible writable short
  have compiled := compile_fine schema (anything_applies schema.context _) kept (anything_kept kept)
    (fun text => Comparison.outcomes_return.mpr ⟨_, _, rfl, rfl, rfl⟩) .refl 0
  obtain ⟨checks, _, returned, _⟩ := Comparison.outcomes_return.mp compiled
  exact ⟨checks, returned⟩

end Schema

end Conform
