import Conform.Proofs.Compilation

set_option autoImplicit false

namespace Conform.Schema

open Logged

variable {formats : Formats} {refer : Expansion} {scope : Scope} {node inner : Node}

theorem check_runs_checks : (node.check formats refer scope).Runs (node.checks formats refer scope) :=
  runs_first _ _

theorem checks_run_group (group : Traced (List Check)) (member : group ∈ node.groups formats refer scope) :
    (node.checks formats refer scope).Runs group := by
  rw [checks_eq]
  exact joined_runs _ group member

theorem combined_group_runs (combine : List Check → Check) (nodes : Option (List Node))
    (member : inner ∈ nodes.getD []) :
    (combinedGroup formats refer combine nodes scope).Runs (inner.check formats refer scope) := by
  cases nodes with
  | none => simp at member
  | some nodes => exact runs_trans (runs_first _ _) (each_runs _ nodes inner member)

theorem demands_run (demands : List (String × Demand Node)) (member : inner ∈ demands.flatMap (·.2.schemas)) :
    (each (demandCheck formats refer scope) demands).Runs (inner.check formats refer scope) := by
  obtain ⟨⟨key, demand⟩, listed, schema⟩ := List.mem_flatMap.mp member
  refine runs_trans (each_runs _ demands _ listed) ?_
  cases demand with
  | keys => simp [Demand.schemas] at schema
  | schema found =>
      obtain rfl := List.mem_singleton.mp schema
      exact runs_first _ _

theorem named_group_runs (nodes : Option (List (String × Node))) (member : inner ∈ (nodes.getD []).map (·.2)) :
    (namedGroup formats refer nodes scope).Runs (inner.check formats refer scope) := by
  obtain ⟨entry, found, rfl⟩ := List.mem_map.mp member
  exact runs_trans (each_runs _ _ entry found) (runs_first _ _)

theorem extra_runs (message : String) (extra : Extra Node) (member : inner ∈ extra.schemas) :
    (checkExtra formats refer message extra scope).Runs (inner.check formats refer scope) := by
  cases extra with
  | permit => simp [Extra.schemas] at member
  | schema found =>
      obtain rfl := List.mem_singleton.mp member
      exact runs_self _

theorem item_group_runs (member : inner ∈ node.itemSchemas) :
    (node.itemGroup formats refer scope).Runs (inner.check formats refer scope) := by
  cases single : node.items with
  | some item =>
      simp only [Node.itemGroup, Node.itemSchemas, single, List.mem_singleton] at member ⊢
      subst member
      exact runs_first _ _
  | none =>
      cases listed : node.tupleItems with
      | none => simp [Node.itemSchemas, single, listed] at member
      | some nodes =>
          simp only [Node.itemGroup, Node.itemSchemas, single, listed, List.mem_append] at member ⊢
          rcases member with found | more
          · exact runs_trans (runs_first _ _) (each_runs _ nodes inner found)
          · exact runs_next fun _ _ => runs_trans (runs_first _ _) (extra_runs _ _ more)

theorem property_group_runs
    (member : inner ∈ (node.properties.getD []).map (·.2) ++ (node.patternProperties.getD []).map (·.2)
      ++ (node.additionalProperties.map Extra.schemas).getD []) :
    (node.propertyGroup formats refer scope).Runs (inner.check formats refer scope) := by
  have speaks : node.speaksOfMembers = true := by
    unfold Node.speaksOfMembers
    cases declared : node.properties <;> cases patterns : node.patternProperties <;>
      cases more : node.additionalProperties <;> simp_all
  unfold Node.propertyGroup
  rw [if_pos speaks]
  simp only [List.mem_append] at member
  rcases member with (declared | pattern) | more
  · exact runs_trans (runs_first _ _) (named_group_runs _ declared)
  · exact runs_next fun _ _ => runs_trans (runs_first _ _) (named_group_runs _ pattern)
  · refine runs_next fun _ _ => runs_next fun _ _ => runs_trans (runs_first _ _) ?_
    cases given : node.additionalProperties with
    | none => simp [given] at more
    | some extra =>
        rw [given] at more
        exact extra_runs _ extra more

theorem checks_run_peer (member : inner ∈ node.peers) :
    (node.checks formats refer scope).Runs (inner.check formats refer scope) := by
  simp only [Node.peers, List.mem_append] at member
  rcases member with (((all | any) | one) | negated) | demanded
  · exact runs_trans (checks_run_group _ (by simp [Node.groups])) (combined_group_runs Check.all node.allOf all)
  · exact runs_trans (checks_run_group _ (by simp [Node.groups])) (combined_group_runs Check.any node.anyOf any)
  · exact runs_trans (checks_run_group _ (by simp [Node.groups])) (combined_group_runs Check.one node.oneOf one)
  · refine runs_trans (checks_run_group (negatedGroup formats refer node.negation scope) (by simp [Node.groups])) ?_
    rw [Option.mem_toList.mp negated]
    exact runs_first _ _
  · exact runs_trans (checks_run_group _ (by simp [Node.groups])) (demands_run _ demanded)

theorem checks_run_child (member : inner ∈ node.children) :
    (node.checks formats refer scope).Runs (inner.check formats refer scope.descend) := by
  rw [Node.children, List.append_assoc, List.append_assoc, ← List.append_assoc] at member
  rcases List.mem_append.mp member with first | second
  · rcases List.mem_append.mp first with item | declared
    · exact runs_trans (checks_run_group (node.itemGroup formats refer scope.descend) (by simp [Node.groups]))
        (item_group_runs item)
    · exact runs_trans (checks_run_group (node.propertyGroup formats refer scope.descend) (by simp [Node.groups]))
        (property_group_runs (List.mem_append_left _ (List.mem_append_left _ declared)))
  · refine runs_trans (checks_run_group (node.propertyGroup formats refer scope.descend) (by simp [Node.groups]))
      (property_group_runs ?_)
    rw [List.append_assoc]
    exact List.mem_append_right _ second

theorem checks_run_own {r : String} (named : node.own.reference = some r) :
    (node.checks formats refer scope).Runs (refer scope r) := by
  refine runs_trans (checks_run_group (referenceChecks refer scope node.own.reference) (by simp [Node.groups])) ?_
  rw [named]
  exact runs_first _ _

theorem checks_run_here {r : String} (here : node.Here r) : (node.checks formats refer scope).Runs (refer scope r) := by
  induction here with
  | own named => exact checks_run_own named
  | peer member _ ih => exact runs_trans (checks_run_peer member) (runs_trans check_runs_checks ih)

theorem checks_run_below {r : String} (below : node.Below r) :
    (node.checks formats refer scope).Runs (refer scope.descend r) := by
  induction below generalizing scope with
  | peer member _ ih => exact runs_trans (checks_run_peer member) (runs_trans check_runs_checks ih)
  | child member here =>
      exact runs_trans (checks_run_child member) (runs_trans check_runs_checks (checks_run_here here))
  | deeper member _ ih => exact runs_trans (checks_run_child member) (runs_trans check_runs_checks ih)

theorem checks_run_text {source : String} (given : node.own.pattern = some source) :
    (node.checks formats refer scope).Runs (Keyword.readPattern "regular expression" source) := by
  refine runs_trans (checks_run_group (patternChecks node.own.pattern) (by simp [Node.groups, plainChecks])) ?_
  rw [given]
  exact runs_trans (runs_first _ _) (runs_first _ _)

theorem checks_run_limit {α : Type} {given : Option α} {shown : α → List Number} {check : α → Check} {a : α}
    {numbers : List Number} (position : Nat)
    (group : (plainChecks node.own ++ memberChecks node.own)[position]? = some (whenWritten given shown check))
    (present : given = some a) (written : shown a = numbers) :
    (node.checks formats refer scope).Runs (Keyword.write numbers) := by
  have member : whenWritten given shown check ∈ node.groups formats refer scope := by
    have listed := List.mem_append.mp (List.mem_of_getElem? group)
    simp only [Node.groups, List.mem_append]
    exact listed.elim (fun plain => .inl (.inl (.inl (.inr plain)))) fun counted => .inl (.inr counted)
  refine runs_trans (checks_run_group _ member) ?_
  subst present written
  exact runs_first _ _

theorem checks_run_size {size : Option Int} {check : Int → Json → Findings} {n : Int} (position : Nat)
    (group : (plainChecks node.own ++ memberChecks node.own)[position]? = some (whenSized size check))
    (present : some n = size) : (node.checks formats refer scope).Runs (Keyword.write [.integer n]) :=
  checks_run_limit position group present.symm rfl

theorem checks_run_written {n : Number} (member : n ∈ node.own.written) :
    (node.checks formats refer scope).Runs (Keyword.write [n]) := by
  simp only [Assertions.written, List.mem_append, List.mem_map, List.mem_filterMap, List.mem_cons, List.not_mem_nil, or_false,
    Option.mem_toList, List.mem_flatMap] at member
  rcases member with ((⟨size, ⟨_, listed, rfl⟩, rfl⟩ | lower) | upper) | ⟨divisor, given, bad⟩
  · rcases listed with given | given | given | given | given | given
    · exact checks_run_size 1 rfl given
    · exact checks_run_size 2 rfl given
    · exact checks_run_size 7 rfl given
    · exact checks_run_size 8 rfl given
    · exact checks_run_size 10 rfl given
    · exact checks_run_size 11 rfl given
  · exact checks_run_limit 5 rfl lower rfl
  · exact checks_run_limit 6 rfl upper rfl
  · have shown : Keyword.badDivisors divisor = [n] := by
      unfold Keyword.badDivisors at bad ⊢
      split at bad <;> simp_all
    exact checks_run_limit 4 rfl given shown

theorem properties_run_key (declared patterns : List (String × Check)) (rest : Check) (entry : String × Check)
    (member : entry ∈ patterns) :
    (Keyword.properties declared patterns rest).Runs (Keyword.readPattern "patternProperties expression" entry.1) := by
  have read := each_runs (fun entry : String × Check => Keyword.readPattern "patternProperties expression" entry.1)
    patterns entry member
  unfold Keyword.properties
  rw [bind_eq]
  exact runs_trans (runs_first _ _) read

theorem checks_run_key {entry : String × Node} (member : entry ∈ node.patternProperties.getD []) :
    (node.checks formats refer scope).Runs (Keyword.readPattern "patternProperties expression" entry.1) := by
  refine runs_trans (checks_run_group (node.propertyGroup formats refer scope.descend) (by simp [Node.groups])) ?_
  have speaks : node.speaksOfMembers = true := by
    unfold Node.speaksOfMembers
    cases patterns : node.patternProperties <;> simp_all
  unfold Node.propertyGroup
  rw [if_pos speaks]
  refine runs_next fun declared _ => runs_next fun patterns returned => runs_next fun rest _ => ?_
  obtain ⟨compiled, kept, first⟩ := each_ok_member _ _ _ returned entry member
  obtain ⟨check, _, same⟩ := (and_then_ok _ _ _).mp first
  have name : entry.1 = compiled.1 := congrArg Prod.fst (Except.ok.inj same)
  rw [name]
  exact runs_trans (runs_first _ _) (properties_run_key declared patterns rest compiled kept)

theorem checks_run_nested {α : Type} (nested : node.Nested inner) (part : Traced α)
    (runs : ∀ scope, (inner.checks formats refer scope).Runs part) : (node.checks formats refer scope).Runs part := by
  induction nested generalizing scope with
  | self => exact runs scope
  | peer member _ ih => exact runs_trans (checks_run_peer member) (runs_trans check_runs_checks (ih runs))
  | child member _ ih => exact runs_trans (checks_run_child member) (runs_trans check_runs_checks (ih runs))

end Conform.Schema
