import Conform.Proofs.Compilation

set_option autoImplicit false

namespace Conform.Schema

def Scope.next (scope : Scope) (r : String) : Scope :=
  if r ∈ scope.stack then Scope.restart r else scope.enter r

-- No step down into the value has been made since the outermost reference: nothing can wait here.
def Scope.Flat (scope : Scope) : Prop :=
  ∀ r ∈ scope.stack, r ∈ scope.level

theorem next_level {scope : Scope} {r t : String} (member : t ∈ (scope.next r).level) : t ∈ scope.level ∨ t = r := by
  unfold Scope.next at member
  split at member
  · exact .inr (List.mem_singleton.mp member)
  · exact (List.mem_append.mp member).imp_right List.mem_singleton.mp

def Shallow (limit : Nat) (value : Json) : Prop :=
  value.depth < limit

theorem flat_restart (r : String) : (Scope.restart r).Flat :=
  fun _ member => member

theorem flat_enter (scope : Scope) (r : String) (flat : scope.Flat) : (scope.enter r).Flat := by
  intro s member
  rcases List.mem_append.mp member with old | new
  · exact List.mem_append_left _ (flat s old)
  · exact List.mem_append_right _ new

theorem shallow_part (limit : Nat) (value : Json) (holds : Shallow limit value) (part : Json)
    (member : part ∈ value.parts) : Shallow (limit - 1) part := by
  have smaller := Json.depth_part value part member
  unfold Shallow at holds ⊢
  omega

theorem shallow_below (limit : Nat) (value : Json) (holds : Shallow limit value) (part : Json)
    (member : part ∈ value.parts) : Shallow limit part := by
  have smaller := Json.depth_part value part member
  unfold Shallow at holds ⊢
  omega

def Context.room (context : Context) (scope : Scope) : Nat :=
  (context.document.references.toFinset.filter (· ∉ scope.stack)).card

theorem room_bound (context : Context) (scope : Scope) : context.room scope ≤ context.document.references.length :=
  Nat.le_trans (Finset.card_filter_le _ _) (List.toFinset_card_le _)

theorem budget_suffices (context : Context) : context.document.references.length < context.budget := by
  simp only [Context.budget]
  omega

theorem room_enter (context : Context) (scope : Scope) (r : String) (listed : r ∈ context.document.references)
    (fresh : r ∉ scope.stack) : context.room (scope.enter r) < context.room scope := by
  apply Finset.card_lt_card
  rw [Finset.ssubset_iff_of_subset]
  · exact ⟨r, by simp [listed, fresh], by simp [Scope.enter]⟩
  · intro s member
    simp only [Finset.mem_filter, Scope.enter, List.mem_append, not_or] at member ⊢
    exact ⟨member.1, member.2.1⟩

theorem circular_eq (r : String) : circular r =
    (Logged.note .warning .reference (circularMessage r)).andThen fun _ => .result (Check.reject (circularMessage r)) :=
  rfl

theorem unresolved_eq (r : String) (fault : Reference.Fault) :
    unresolved r fault = (complaint r fault).andThen fun message => .result (Check.reject message) :=
  rfl

abbrev rootScope : Scope :=
  Scope.enter {} rootReference

section Steps

variable {context : Context} {later : String → Node → Check} {budget : Nat} {scope : Scope} {r : String}

theorem expand_circular (again : r ∈ scope.level) : expand context later (budget + 1) scope r = circular r := by
  rw [expand, if_pos (by simpa using again)]

theorem expand_unresolved {fault : Reference.Fault} (first : r ∉ scope.level)
    (failed : Reference.resolve context.document r = .error fault) :
    expand context later (budget + 1) scope r = unresolved r fault := by
  rw [expand, if_neg (by simpa using first), failed]

theorem expand_waiting {target : Json} (first : r ∉ scope.level)
    (resolved : Reference.resolve context.document r = .ok target) (above : r ∈ scope.stack) :
    expand context later (budget + 1) scope r = .result (later r (Node.decode target)) := by
  rw [expand, if_neg (by simpa using first), resolved]
  simp only [List.contains_iff_mem, if_pos above]
  rfl

theorem expand_eager {target : Json} (first : r ∉ scope.level)
    (resolved : Reference.resolve context.document r = .ok target) (fresh : r ∉ scope.stack) :
    expand context later (budget + 1) scope r =
      (Node.decode target).check context.formats (expand context later budget) (scope.enter r) := by
  rw [expand, if_neg (by simpa using first), resolved]
  simp only [List.contains_iff_mem, if_neg fresh]

end Steps

-- A property of the references met in scopes that compilation keeps, and what the comparison of built checks
-- has to accept about the references that are met.
structure Invariant (context : Context) (building : Comparison) (met : Scope → String → Prop) : Prop where
  circular : ∀ scope r, met scope r → r ∈ scope.level →
    building.Fine (Logged.note .warning .reference (circularMessage r))
  unresolved : ∀ scope r fault, met scope r → Reference.resolve context.document r = .error fault →
    building.Fine (complaint r fault)
  readable : ∀ scope r target, met scope r → Reference.resolve context.document r = .ok target →
    ∀ inner, (Node.decode target).Nested inner → inner.Readable building
  here : ∀ scope r target s, met scope r → r ∉ scope.level → Reference.resolve context.document r = .ok target →
    (Node.decode target).Here s → met (scope.next r) s
  below : ∀ scope r target s, met scope r → r ∉ scope.level → Reference.resolve context.document r = .ok target →
    (Node.decode target).Below s → met (scope.next r).descend s

def Applies (context : Context) (running : Comparison) (met : Scope → String → Prop) : Prop :=
  ∀ scope r target, met scope r → Reference.resolve context.document r = .ok target →
    ∀ inner, (Node.decode target).Nested inner → inner.Applicable running context.formats fun _ => True

theorem applied {context : Context} {running : Comparison} {met : Scope → String → Prop} {scope : Scope} {r : String}
    {target : Json} {on : Json → Prop} (applies : Applies context running met) (known : met scope r)
    (resolved : Reference.resolve context.document r = .ok target) (inner : Node) (nested : (Node.decode target).Nested inner) :
    inner.Applicable running context.formats on :=
  applicable_fewer (applies scope r target known resolved inner nested) fun _ _ => trivial

def WaitAlike (context : Context) (running : Comparison) (met : Scope → String → Prop) (limit : Nat)
    (later other : String → Node → Check) : Prop :=
  ∀ scope r target, met scope r → r ∉ scope.level → r ∈ scope.stack → Reference.resolve context.document r = .ok target →
    running.Agree (Shallow limit) (later r (Node.decode target)) (other r (Node.decode target))

section Fuel

variable {context : Context} {building running : Comparison} {met : Scope → String → Prop}

theorem expand_related (applies : Applies context running met)
    (invariant : Invariant context building met) {later other : String → Node → Check} {limit : Nat}
    (waiting : WaitAlike context running met limit later other)
    (budget budget' : Nat) (scope : Scope) (r : String) (known : met scope r)
    (listed : r ∈ context.document.references) (enough : context.room scope < budget)
    (enough' : context.room scope < budget') (depth : Nat)
    (reach : depth ≤ limit ∨ depth = limit + 1 ∧ scope.Flat) :
    building.relates (running.Agree (Shallow depth)) (expand context later budget scope r)
      (expand context other budget' scope r) := by
  -- The induction is on the budget, that is on the references that are not yet being expanded. On a flat scope
  -- nothing waits before the next step down, so there the checks are related one level deeper than those that wait.
  induction budget generalizing budget' scope r depth with
  | zero => omega
  | succ budget ih =>
      obtain ⟨spare, rfl⟩ : ∃ spare, budget' = spare + 1 := ⟨budget' - 1, by omega⟩
      by_cases again : r ∈ scope.level
      · rw [expand_circular again, expand_circular again, circular_eq]
        refine Comparison.and_then_fine (invariant.circular scope r known again) fun _ => ?_
        exact building.result fun _ _ => running.result rfl
      cases resolved : Reference.resolve context.document r with
      | error fault =>
          rw [expand_unresolved again resolved, expand_unresolved again resolved, unresolved_eq]
          refine Comparison.and_then_fine (invariant.unresolved scope r fault known resolved) fun _ => ?_
          exact building.result fun _ _ => running.result rfl
      | ok target =>
          by_cases above : r ∈ scope.stack
          · rw [expand_waiting again resolved above, expand_waiting again resolved above]
            have shallow : depth ≤ limit := reach.resolve_right fun deeper => again (deeper.2 r above)
            refine building.result (Comparison.agree_fewer (waiting scope r target known again above resolved) ?_)
            exact fun value holds => Nat.lt_of_lt_of_le holds shallow
          · rw [expand_eager again resolved above, expand_eager again resolved above]
            have smaller := room_enter context scope r listed above
            have entered : scope.next r = scope.enter r := if_neg above
            refine check_related (shallow_part depth) (shallow_below (depth - 1)) ⟨?_, ?_, ?_, ?_⟩
            · intro s here
              have knownNext := invariant.here scope r target s known again resolved here
              rw [entered] at knownNext
              exact ih spare (scope.enter r) s knownNext (Context.target_reference_listed resolved (.inl here)) (by omega)
                (by omega) depth (reach.imp_right fun deeper => ⟨deeper.1, flat_enter scope r deeper.2⟩)
            · intro s below
              have knownNext := invariant.below scope r target s known again resolved below
              rw [entered] at knownNext
              refine ih spare (scope.enter r).descend s knownNext (Context.target_reference_listed resolved (.inr below))
                ?_ ?_ (depth - 1) (.inl ?_)
              · exact Nat.lt_of_lt_of_le smaller (by omega)
              · exact Nat.lt_of_lt_of_le smaller (by omega)
              · omega
            · exact invariant.readable scope r target known resolved
            · exact applied applies known resolved

theorem expand_later_related (applies : Applies context running met)
    (invariant : Invariant context running met) (budget budget' : Nat)
    (enough : context.document.references.length < budget) (enough' : context.document.references.length < budget')
    (limit depth depth' : Nat) (within : limit ≤ depth) (within' : limit ≤ depth') :
    WaitAlike context running met limit (expandLater context budget depth) (expandLater context budget' depth') := by
  induction limit generalizing depth depth' with
  | zero => exact fun _ _ _ _ _ _ _ value holds => absurd holds (Nat.not_lt_zero _)
  | succ limit ih =>
      obtain ⟨depth, rfl⟩ : ∃ fewer, depth = fewer + 1 := ⟨depth - 1, by omega⟩
      obtain ⟨depth', rfl⟩ : ∃ fewer, depth' = fewer + 1 := ⟨depth' - 1, by omega⟩
      intro scope r target known again above resolved value holds
      have restarted : scope.next r = Scope.restart r := if_pos above
      have waiting : WaitAlike context running met limit (expandLater context budget depth)
          (expandLater context budget' depth') := ih depth depth' (by omega) (by omega)
      refine running.andThen (check_related (shallow_part (limit + 1)) (shallow_below limit) ⟨?_, ?_, ?_, ?_⟩)
        fun c d agree => agree value holds
      · intro s here
        have knownNext := invariant.here scope r target s known again resolved here
        rw [restarted] at knownNext
        have bound := room_bound context (Scope.restart r)
        exact expand_related applies invariant waiting budget budget' (Scope.restart r) s knownNext
          (Context.target_reference_listed resolved (.inl here)) (by omega) (by omega) (limit + 1)
          (.inr ⟨rfl, flat_restart r⟩)
      · intro s below
        have knownNext := invariant.below scope r target s known again resolved below
        rw [restarted] at knownNext
        have bound := room_bound context (Scope.restart r).descend
        exact expand_related applies invariant waiting budget budget' (Scope.restart r).descend s knownNext
          (Context.target_reference_listed resolved (.inr below)) (by omega) (by omega) limit (.inl (Nat.le_refl _))
      · exact invariant.readable scope r target known resolved
      · exact applied applies known resolved

theorem later_within_related (applies : Applies context running met)
    (invariant : Invariant context running met) (budget limit depth : Nat)
    (enough : context.document.references.length < budget) (within : limit ≤ depth) :
    WaitAlike context running met limit (later context) (expandLater context budget depth) := by
  intro scope r target known again above resolved value holds
  exact expand_later_related applies invariant context.budget budget (budget_suffices context) enough (value.depth + 1)
    (value.depth + 1) depth (Nat.le_refl _) (Nat.le_trans holds within) scope r target known again above resolved value
    (Nat.lt_succ_self _)

theorem later_fine (applies : Applies context running met) (invariant : Invariant context running met)
    (limit : Nat) : WaitAlike context running met limit (later context) (later context) := by
  intro scope r target known again above resolved value holds
  have enough := budget_suffices context
  exact expand_later_related applies invariant context.budget context.budget enough enough (value.depth + 1)
    (value.depth + 1) (value.depth + 1) (Nat.le_refl _) (Nat.le_refl _) scope r target known again above resolved value
    (Nat.lt_succ_self _)

theorem refer_fine (applies : Applies context running met) (invariant : Invariant context building met)
    (kept : Invariant context running met) (limit : Nat) (scope : Scope) (r : String) (known : met scope r)
    (listed : r ∈ context.document.references) :
    building.relates (running.Agree (Shallow limit)) (refer context scope r) (refer context scope r) := by
  have enough := Nat.lt_of_le_of_lt (room_bound context scope) (budget_suffices context)
  exact expand_related applies invariant (later_fine applies kept limit) context.budget context.budget scope r known
    listed enough enough limit (.inl (Nat.le_refl _))

theorem root_related (applies : Applies context running met)
    (invariant : Invariant context building met) {later other : String → Node → Check} {limit : Nat}
    (waiting : WaitAlike context running met limit later other)
    (budget budget' : Nat) (enough : context.document.references.length < budget)
    (enough' : context.document.references.length < budget') (known : met {} rootReference) :
    building.relates (List.Forall₂ (running.Agree (Shallow (limit + 1))))
      ((Node.decode context.document).checks context.formats (expand context later budget) rootScope)
      ((Node.decode context.document).checks context.formats (expand context other budget') rootScope) := by
  have resolved := Context.resolve_root context.document
  have first : rootReference ∉ ({} : Scope).level := List.not_mem_nil
  have bound := fun scope => room_bound context scope
  -- The document itself is compiled in a flat scope: what waits there waits one level deeper.
  refine checks_related (shallow_part (limit + 1)) (shallow_below limit) ⟨?_, ?_, ?_, ?_⟩
  · intro s here
    exact expand_related applies invariant waiting budget budget' rootScope s
      (invariant.here {} rootReference _ s known first resolved here)
      (Context.target_reference_listed resolved (.inl here)) (Nat.lt_of_le_of_lt (bound _) enough)
      (Nat.lt_of_le_of_lt (bound _) enough') (limit + 1) (.inr ⟨rfl, flat_restart rootReference⟩)
  · intro s below
    exact expand_related applies invariant waiting budget budget' rootScope.descend s
      (invariant.below {} rootReference _ s known first resolved below)
      (Context.target_reference_listed resolved (.inr below)) (Nat.lt_of_le_of_lt (bound _) enough)
      (Nat.lt_of_le_of_lt (bound _) enough') limit (.inl (Nat.le_refl _))
  · exact invariant.readable {} rootReference _ known resolved
  · exact applied applies known resolved

theorem compile_related (schema : Schema) {on : Json → Prop} {refer other : Expansion}
    (noted : ∀ text, building.Fine (Logged.note .debug .schema text))
    (related : building.relates (List.Forall₂ (running.Agree on))
      (schema.root.checks schema.formats refer rootScope) (schema.root.checks schema.formats other rootScope)) :
    building.relates (List.Forall₂ (running.Agree on)) (schema.compileWith refer) (schema.compileWith other) := by
  refine building.andThen related fun checks others agree => ?_
  rw [agree.length_eq]
  exact Comparison.and_then_fine (noted _) fun _ => building.result agree

theorem validate_related (schema : Schema) {on : Json → Prop} {refer other : Expansion}
    (compiled : running.relates (List.Forall₂ (running.Agree on)) (schema.compileWith refer) (schema.compileWith other))
    (value : Json) (holds : on value) :
    running.relates Eq (schema.validateWith refer value) (schema.validateWith other value) :=
  running.andThen compiled fun _ _ agree => Comparison.agree_all agree value holds

theorem compile_fine (schema : Schema) (applies : Applies schema.context running met) (invariant : Invariant schema.context building met)
    (kept : Invariant schema.context running met) (noted : ∀ text, building.Fine (Logged.note .debug .schema text))
    (known : met {} rootReference) (limit : Nat) :
    building.relates (List.Forall₂ (running.Agree (Shallow (limit + 1)))) schema.compile schema.compile := by
  have enough := budget_suffices schema.context
  have waiting := later_fine applies kept limit
  exact compile_related schema noted (root_related applies invariant waiting _ _ enough enough known)

theorem validate_fine (schema : Schema) (applies : Applies schema.context running met)
    (invariant : Invariant schema.context running met) (noted : ∀ text, running.Fine (Logged.note .debug .schema text))
    (known : met {} rootReference) (value : Json) : running.Fine (schema.validate value) :=
  validate_related schema (compile_fine schema applies invariant invariant noted known value.depth) value
    (Nat.lt_succ_self _)

end Fuel

section Equations

theorem any_applies (context : Context) : Applies context Comparison.equal fun _ _ => True :=
  fun _ _ _ _ _ _ _ => applicable_of_all Comparison.equal_fine

theorem any_kept (context : Context) : Invariant context Comparison.equal fun _ _ => True where
  circular _ _ _ _ := Comparison.equal_fine _
  unresolved _ _ _ _ _ := Comparison.equal_fine _
  readable _ _ _ _ _ _ _ := readable_of_all Comparison.equal_fine
  here _ _ _ _ _ _ _ _ := trivial
  below _ _ _ _ _ _ _ _ := trivial

theorem shallow_eq {x y : Traced Check}
    (related : ∀ limit, Comparison.equal.relates
      (Comparison.equal.Agree (Shallow limit)) x y) : x = y := by
  obtain ⟨log, outcome⟩ := x
  obtain ⟨other, ending⟩ := y
  obtain ⟨rfl, _, alike⟩ := related 0
  cases outcome with
  | error fault =>
      cases ending with
      | error other => rw [alike.1]
      | ok d => exact alike.elim
  | ok c =>
      cases ending with
      | error other => exact alike.elim
      | ok d =>
          have same : c = d := funext fun value =>
            Comparison.identical_eq ((related (value.depth + 1)).2.2 value (Nat.lt_succ_self _))
          rw [same]

variable {context : Context} {scope : Scope} {r : String} {target : Json}

theorem refer_circular (again : r ∈ scope.level) : refer context scope r = circular r :=
  expand_circular again

theorem refer_unresolved {fault : Reference.Fault} (first : r ∉ scope.level)
    (failed : Reference.resolve context.document r = .error fault) : refer context scope r = unresolved r fault :=
  expand_unresolved first failed

theorem refer_waiting (first : r ∉ scope.level) (resolved : Reference.resolve context.document r = .ok target)
    (above : r ∈ scope.stack) : refer context scope r = .result (later context r (Node.decode target)) :=
  expand_waiting first resolved above

theorem refer_eager (listed : r ∈ context.document.references) (first : r ∉ scope.level)
    (resolved : Reference.resolve context.document r = .ok target) (fresh : r ∉ scope.stack) :
    refer context scope r = (Node.decode target).check context.formats (refer context) (scope.enter r) := by
  have smaller := room_enter context scope r listed fresh
  have bound := room_bound context scope
  have enough := budget_suffices context
  refine (expand_eager first resolved fresh).trans (shallow_eq fun limit => ?_)
  have inner : ∀ deeper : Scope, context.room deeper < context.room scope → ∀ s ∈ context.document.references,
      ∀ depth ≤ limit, Comparison.equal.relates
        (Comparison.equal.Agree (Shallow depth))
        (expand context (later context) (context.document.references.length + 1) deeper s) (refer context deeper s) := by
    intro deeper room s met depth reach
    have waiting := later_fine (any_applies context) (any_kept context) limit
    exact expand_related (any_applies context) (any_kept context) waiting _ context.budget deeper s trivial met (by omega)
      (by omega) depth (.inl reach)
  refine check_related (shallow_part limit) (shallow_below (limit - 1)) ⟨?_, ?_, ?_, ?_⟩
  · exact fun s here => inner (scope.enter r) smaller s (Context.target_reference_listed resolved (.inl here)) limit
      (Nat.le_refl _)
  · exact fun s below => inner (scope.enter r).descend smaller s (Context.target_reference_listed resolved (.inr below))
      (limit - 1) (Nat.sub_le _ _)
  · exact fun _ _ => readable_of_all Comparison.equal_fine
  · exact fun _ _ => applicable_of_all Comparison.equal_fine

theorem later_eq (resolved : Reference.resolve context.document r = .ok target) (value : Json) :
    later context r (Node.decode target) value =
      ((Node.decode target).check context.formats (refer context) (Scope.restart r)).andThen fun check => check value := by
  have bound := fun scope => room_bound context scope
  have enough := budget_suffices context
  have inner : ∀ scope : Scope, ∀ s ∈ context.document.references, ∀ depth,
      depth ≤ value.depth ∨ depth = value.depth + 1 ∧ scope.Flat →
      Comparison.equal.relates (Comparison.equal.Agree (Shallow depth)) (refer context scope s)
        (expand context (expandLater context context.budget value.depth) context.budget scope s) := by
    intro scope s met depth reach
    have waiting := later_within_related (any_applies context) (any_kept context) context.budget value.depth
      value.depth enough (Nat.le_refl _)
    exact expand_related (any_applies context) (any_kept context) waiting context.budget context.budget scope s trivial met
      (Nat.lt_of_le_of_lt (bound scope) enough) (Nat.lt_of_le_of_lt (bound scope) enough) depth reach
  have related : Comparison.equal.relates (Comparison.equal.Agree (Shallow (value.depth + 1)))
      ((Node.decode target).check context.formats (refer context) (Scope.restart r))
      ((Node.decode target).check context.formats
        (expand context (expandLater context context.budget value.depth) context.budget) (Scope.restart r)) :=
    check_related (shallow_part (value.depth + 1)) (shallow_below value.depth)
    ⟨fun s here => inner (Scope.restart r) s (Context.target_reference_listed resolved (.inl here)) (value.depth + 1)
        (.inr ⟨rfl, flat_restart r⟩),
      fun s below => inner (Scope.restart r).descend s (Context.target_reference_listed resolved (.inr below)) value.depth
        (.inl (Nat.le_refl _)),
      fun _ _ => readable_of_all Comparison.equal_fine, fun _ _ => applicable_of_all Comparison.equal_fine⟩
  exact (Comparison.identical_eq (Comparison.equal.andThen related fun c d agree =>
    agree value (Nat.lt_succ_self _))).symm

def Context.run (context : Context) (scope : Scope) (r : String) (value : Json) : Traced Findings :=
  (refer context scope r).andThen fun check => check value

theorem run_step (listed : r ∈ context.document.references) (first : r ∉ scope.level)
    (resolved : Reference.resolve context.document r = .ok target) (value : Json) :
    context.run scope r value =
      ((Node.decode target).check context.formats (refer context) (scope.next r)).andThen fun check => check value := by
  unfold Context.run
  by_cases above : r ∈ scope.stack
  · rw [refer_waiting first resolved above, Logged.result_and_then, later_eq resolved, Scope.next, if_pos above]
  · rw [refer_eager listed first resolved above, Scope.next, if_neg above]

theorem validate_run (schema : Schema) (value : Json) : (schema.validate value).outcome =
    ((schema.root.check schema.formats (refer schema.context) rootScope).andThen fun check => check value).outcome := by
  change (((schema.root.checks schema.formats (refer schema.context) rootScope).andThen _).andThen _).outcome = _
  rw [check_eq, Logged.and_then_assoc, Logged.and_then_assoc, Logged.and_then_outcome, Logged.and_then_outcome]
  rfl

theorem validate_outcome (schema : Schema) (value : Json) :
    (schema.validate value).outcome = schema.compile.outcome.bind fun _ =>
      ((schema.root.check schema.formats (refer schema.context) rootScope).andThen fun check => check value).outcome := by
  cases compiled : schema.compile.outcome with
  | error fault =>
      change (schema.compile.andThen _).outcome = _
      rw [Logged.and_then_outcome, compiled]
      rfl
  | ok checks => exact validate_run schema value

end Equations

section Recursion

variable {context : Context}

instance (scope : Scope) : Decidable scope.Flat :=
  inferInstanceAs (Decidable (∀ r ∈ scope.stack, r ∈ scope.level))

-- How often references can follow each other at the same value: each of the document once, and all of them
-- once more where one may wait.
def Context.patience (context : Context) (scope : Scope) : Nat :=
  context.room scope + if scope.Flat then 0 else context.document.references.length + 1

theorem patience_next (scope : Scope) (r : String) (listed : r ∈ context.document.references) (first : r ∉ scope.level) :
    context.patience (scope.next r) < context.patience scope := by
  unfold Context.patience
  by_cases above : r ∈ scope.stack
  · have bound := room_bound context (Scope.restart r)
    have waits : ¬ scope.Flat := fun flat => first (flat r above)
    rw [Scope.next, if_pos above, if_pos (flat_restart r), if_neg waits]
    omega
  · have smaller := room_enter context scope r listed above
    rw [Scope.next, if_neg above]
    by_cases flat : scope.Flat
    · rw [if_pos (flat_enter scope r flat), if_pos flat]
      omega
    · rw [if_neg flat]
      split <;> omega

theorem run_induction {motive : Scope → String → Json → Prop}
    (step : ∀ scope r value, r ∈ context.document.references →
      (∀ target s, r ∉ scope.level → Reference.resolve context.document r = .ok target → (Node.decode target).Here s →
        motive (scope.next r) s value) →
      (∀ target s part, r ∉ scope.level → Reference.resolve context.document r = .ok target →
        (Node.decode target).Below s → part.depth < value.depth → motive (scope.next r).descend s part) →
      motive scope r value)
    (scope : Scope) (r : String) (value : Json) (listed : r ∈ context.document.references) : motive scope r value := by
  refine step scope r value listed (fun target s first resolved here => ?_) fun target s part first resolved below deeper => ?_
  · have smaller := patience_next scope r listed first
    exact run_induction step (scope.next r) s value (Context.target_reference_listed resolved (.inl here))
  · exact run_induction step (scope.next r).descend s part (Context.target_reference_listed resolved (.inr below))
termination_by (value.depth, context.patience scope)

end Recursion

end Conform.Schema
