import Conform.Proofs.Compilation

set_option autoImplicit false

namespace Conform

namespace Logged

variable {ε α β : Type}

theorem joined_one (x : Logged ε (List α)) : joined [x] = x := by
  simp only [joined, result_and_then, List.append_nil]
  exact and_then_result x

theorem joined_append (xs ys : List (Logged ε (List α))) :
    joined (xs ++ ys) = (joined xs).andThen fun as => (joined ys).andThen fun bs => result (as ++ bs) := by
  induction xs with
  | nil =>
      rw [List.nil_append, joined, result_and_then]
      exact (and_then_result _).symm
  | cons x rest ih => simp only [List.cons_append, joined, ih, and_then_assoc, result_and_then, List.append_assoc]

theorem joined_join (xs ys zs : List (Logged ε (List α))) : joined (xs ++ [joined ys] ++ zs) = joined (xs ++ ys ++ zs) := by
  simp only [joined_append, joined_one]

theorem joined_nothing (count : Nat) : joined (List.replicate count (result [])) = (result [] : Logged ε (List α)) := by
  induction count with
  | zero => rfl
  | succ count ih => rw [List.replicate_succ, joined, result_and_then, ih, result_and_then, List.nil_append]

theorem joined_padded (before after : Nat) (xs : List (Logged ε (List α))) :
    joined (List.replicate before (result []) ++ xs ++ List.replicate after (result [])) = joined xs := by
  simp only [joined_append, joined_nothing, result_and_then, List.nil_append, List.append_nil]
  rw [and_then_result, and_then_result]

theorem each_one (f : α → Logged ε β) (a : α) : each f [a] = (f a).andThen fun b => result [b] := by
  simp only [each, result_and_then]

theorem each_append (f : α → Logged ε β) (as more : List α) :
    each f (as ++ more) = (each f as).andThen fun bs => (each f more).andThen fun cs => result (bs ++ cs) := by
  induction as with
  | nil =>
      rw [List.nil_append, each, result_and_then]
      exact (and_then_result _).symm
  | cons a rest ih => simp only [List.cons_append, each, ih, and_then_assoc, result_and_then]

theorem each_joined (f : α → Logged ε β) (as : List α) :
    each f as = joined (as.map fun a => (f a).andThen fun b => result [b]) := by
  induction as with
  | nil => rfl
  | cons a rest ih =>
      simp only [List.map_cons, each, joined, ← ih, and_then_assoc, result_and_then, List.singleton_append]

end Logged

namespace Check

theorem all_append (checks more : List Check) (value : Json) : all (checks ++ more) value =
    (all checks value).andThen fun found => (all more value).andThen fun others => .result (found ++ others) := by
  simp only [all, outcomes, Logged.bind_eq, Logged.each_append, Logged.and_then_assoc, Logged.result_and_then]
  simp only [pure, Logged.result_and_then, List.flatten_append]

theorem all_one (check : Check) : all [check] = check := by
  funext value
  simp only [all, outcomes, Logged.each_one, Logged.bind_eq, Logged.and_then_assoc, Logged.result_and_then]
  simp [pure, Logged.and_then_result]

theorem nothing_shared {α : Type} {r : α → Findings → Prop} {as : List α} {shares : List Findings}
    (each : List.Forall₂ r as shares) (nothing : shares.flatten = []) : ∀ a ∈ as, r a [] := by
  induction each with
  | nil => simp
  | cons first _ ih =>
      obtain ⟨here, later⟩ := List.append_eq_nil_iff.mp (List.flatten_cons ▸ nothing)
      rw [here] at first
      exact List.forall_mem_cons.mpr ⟨first, ih later⟩

theorem shares_nothing {α : Type} {r : α → Findings → Prop} {as : List α} :
    (∃ shares, List.Forall₂ r as shares ∧ [] = shares.flatten) ↔ ∀ a ∈ as, r a [] := by
  constructor
  · rintro ⟨shares, each, nothing⟩
    exact nothing_shared each nothing.symm
  · intro accepted
    refine ⟨as.map fun _ => [], List.forall₂_map_right_iff.mpr (List.forall₂_same.mpr accepted), ?_⟩
    simp

theorem all_joined (groups : List (Traced (List Check))) (value : Json) (found : Findings) :
    ((Logged.joined groups).andThen fun checks => all checks value).outcome = .ok found ↔
      ∃ shares, List.Forall₂ (fun group share => (group.andThen fun checks => all checks value).outcome = .ok share)
        groups shares ∧ found = shares.flatten := by
  induction groups generalizing found with
  | nil =>
      constructor
      · rintro ⟨⟩
        exact ⟨[], .nil, rfl⟩
      · rintro ⟨_, ⟨⟩, rfl⟩
        rfl
  | cons group rest ih =>
      simp only [Logged.joined, Logged.and_then_assoc, Logged.result_and_then, all_append]
      constructor
      · intro returned
        obtain ⟨checks, compiled, returned⟩ := (Logged.and_then_ok _ _ _).mp returned
        obtain ⟨others, compiledRest, returned⟩ := (Logged.and_then_ok _ _ _).mp returned
        obtain ⟨share, first, returned⟩ := (Logged.and_then_ok _ _ _).mp returned
        obtain ⟨more, second, last⟩ := (Logged.and_then_ok _ _ _).mp returned
        cases last
        obtain ⟨shares, later, rfl⟩ := (ih more).mp ((Logged.and_then_ok _ _ _).mpr ⟨others, compiledRest, second⟩)
        exact ⟨share :: shares, .cons ((Logged.and_then_ok _ _ _).mpr ⟨checks, compiled, first⟩) later, rfl⟩
      · rintro ⟨_, _ | ⟨first, later⟩, rfl⟩
        obtain ⟨checks, compiled, first⟩ := (Logged.and_then_ok _ _ _).mp first
        obtain ⟨others, compiledRest, second⟩ := (Logged.and_then_ok _ _ _).mp ((ih _).mpr ⟨_, later, rfl⟩)
        refine (Logged.and_then_ok _ _ _).mpr ⟨checks, compiled, ?_⟩
        refine (Logged.and_then_ok _ _ _).mpr ⟨others, compiledRest, ?_⟩
        refine (Logged.and_then_ok _ _ _).mpr ⟨_, first, ?_⟩
        exact (Logged.and_then_ok _ _ _).mpr ⟨_, second, rfl⟩

end Check

namespace Schema

-- The restrictions to the groups that stand before the dependencies. What is read together stays together.
def Node.leadingParts (node : Node) : List Node :=
  [ { own := { reference := node.own.reference } },
    { own := { kinds := node.own.kinds } },
    { allOf := node.allOf },
    { anyOf := node.anyOf },
    { oneOf := node.oneOf },
    { negation := node.negation },
    { own := { values := node.own.values } },
    { own := { maxLength := node.own.maxLength } },
    { own := { minLength := node.own.minLength } },
    { own := { pattern := node.own.pattern } },
    { own := { multipleOf := node.own.multipleOf } },
    { own := { minimum := node.own.minimum, exclusiveMinimum := node.own.exclusiveMinimum } },
    { own := { maximum := node.own.maximum, exclusiveMaximum := node.own.exclusiveMaximum } },
    { own := { minItems := node.own.minItems } },
    { own := { maxItems := node.own.maxItems } },
    { own := { uniqueItems := node.own.uniqueItems } },
    { items := node.items, tupleItems := node.tupleItems, additionalItems := node.additionalItems },
    { own := { maxProperties := node.own.maxProperties } },
    { own := { minProperties := node.own.minProperties } },
    { own := { required := node.own.required } },
    { properties := node.properties, patternProperties := node.patternProperties,
      additionalProperties := node.additionalProperties } ]

def Node.parts (node : Node) : List Node :=
  node.leadingParts ++ (node.dependencies.getD []).map (fun entry => { dependencies := some [entry] }) ++
    [ { own := { format := node.own.format } } ]

def Node.run (formats : Formats) (refer : Expansion) (node : Node) (scope : Scope) (value : Json) : Traced Findings :=
  (node.check formats refer scope).andThen fun check => check value

section Parts

variable (formats : Formats) (refer : Expansion) (node : Node) (scope : Scope)

theorem leading_groups : node.leadingParts.map (fun part => part.groups formats refer scope) =
    (List.range 21).map fun i => List.replicate i (.result []) ++ ((node.groups formats refer scope).drop i).take 1 ++
      List.replicate (22 - i) (.result []) := rfl

theorem leading_checks : node.leadingParts.map (fun part => part.checks formats refer scope) =
    (node.groups formats refer scope).take 21 := by
  have joined : ∀ part : Node, part.checks formats refer scope = Logged.joined (part.groups formats refer scope) :=
    fun part => checks_eq formats refer part scope
  calc node.leadingParts.map (fun part => part.checks formats refer scope)
      = (node.leadingParts.map fun part => part.groups formats refer scope).map Logged.joined := by
        rw [List.map_map]
        exact List.map_congr_left fun part _ => joined part
    _ = (List.range 21).map fun i => Logged.joined (((node.groups formats refer scope).drop i).take 1) := by
        rw [leading_groups, List.map_map]
        exact List.map_congr_left fun i _ => Logged.joined_padded i (22 - i) _
    _ = ((node.groups formats refer scope).take 21).map fun group => Logged.joined [group] := rfl
    _ = (node.groups formats refer scope).take 21 := by simp only [Logged.joined_one, List.map_id']

theorem demand_checks_alone (entry : String × Demand Node) :
    Node.checks formats refer { dependencies := some [entry] } scope =
      (demandCheck formats refer scope entry).andThen fun check => .result [check] := by
  rw [checks_eq]
  refine (Logged.joined_padded 21 1 [Logged.each (demandCheck formats refer scope) [entry]]).trans ?_
  rw [Logged.joined_one, Logged.each_joined, List.map_singleton, Logged.joined_one]

theorem format_checks_alone (name : Option String) :
    Node.checks formats refer { own := { format := name } } scope = formatChecks formats name := by
  rw [checks_eq]
  exact (Logged.joined_padded 22 0 [formatChecks formats name]).trans (Logged.joined_one _)

theorem checks_parts : node.checks formats refer scope =
    Logged.joined (node.parts.map fun part => part.checks formats refer scope) := by
  have groups : node.groups formats refer scope = (node.groups formats refer scope).take 21 ++
      [Logged.each (demandCheck formats refer scope) (node.dependencies.getD [])] ++
        [formatChecks formats node.own.format] := rfl
  rw [checks_eq, groups, Logged.each_joined, Logged.joined_join, Node.parts, List.map_append, List.map_append,
    leading_checks, List.map_map, List.map_singleton, format_checks_alone]
  have demands : ∀ entry : String × Demand Node,
      ((fun part => Node.checks formats refer part scope) ∘ fun entry => { dependencies := some [entry] }) entry =
        (demandCheck formats refer scope entry).andThen fun check => .result [check] :=
    fun entry => demand_checks_alone formats refer scope entry
  rw [List.map_congr_left fun entry _ => demands entry]

theorem run_eq (value : Json) : node.run formats refer scope value =
    (node.checks formats refer scope).andThen fun checks => Check.all checks value := by
  rw [Node.run, check_eq, Logged.and_then_assoc]
  simp only [Logged.result_and_then]

end Parts

theorem findings_of_parts (formats : Formats) (refer : Expansion) (node : Node) (scope : Scope) (value : Json) :
    (∀ found, (node.run formats refer scope value).outcome = .ok found ↔
      ∃ shares, List.Forall₂ (fun part share => (Node.run formats refer part scope value).outcome = .ok share)
        node.parts shares ∧ found = shares.flatten) ∧
    ((node.run formats refer scope value).outcome = .ok [] ↔
      ∀ part ∈ node.parts, (Node.run formats refer part scope value).outcome = .ok []) := by
  have gathered : ∀ found, (node.run formats refer scope value).outcome = .ok found ↔
      ∃ shares, List.Forall₂ (fun part share => (Node.run formats refer part scope value).outcome = .ok share)
        node.parts shares ∧ found = shares.flatten := by
    intro found
    simp only [run_eq]
    rw [checks_parts, Check.all_joined]
    simp only [List.forall₂_map_left_iff]
  refine ⟨gathered, ?_⟩
  rw [gathered []]
  exact Check.shares_nothing

end Schema

end Conform
