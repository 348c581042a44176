import Conform.Proofs.Expansion

set_option autoImplicit false

namespace Conform.Schema

section Inner

variable (compile : Scope → Node → Traced Check)

def combinedOver (combine : List Check → Check) (nodes : Option (List Node)) (scope : Scope) : Traced (List Check) :=
  match nodes with
  | none => .result []
  | some nodes => (Logged.each (compile scope) nodes).andThen fun checks => .result [combine checks]

def negatedOver (negation : Option Node) (scope : Scope) : Traced (List Check) :=
  match negation with
  | none => .result []
  | some node => (compile scope node).andThen fun check => .result [Check.negate check]

def extraOver (message : String) (extra : Extra Node) (scope : Scope) : Traced Check :=
  match extra with
  | .permit allowed => .result (permitted allowed message)
  | .schema node => compile scope node

def restOver (extra : Option (Extra Node)) (scope : Scope) : Traced Check :=
  match extra with
  | none => .result Check.accept
  | some extra => extraOver compile noMoreProperties extra scope

def Node.itemsOver (node : Node) (scope : Scope) : Traced (List Check) :=
  match node.items, node.tupleItems with
  | some item, _ => (compile scope item).andThen fun check => .result [Check.items check]
  | none, some nodes =>
      (Logged.each (compile scope) nodes).andThen fun checks =>
        (extraOver compile noMoreItems node.additionalItems scope).andThen fun rest => .result [Check.tuple checks rest]
  | none, none => .result []

def namedOver (nodes : Option (List (String × Node))) (scope : Scope) : Traced (List (String × Check)) :=
  Logged.each (fun entry => (compile scope entry.2).andThen fun check => .result (entry.1, check)) (nodes.getD [])

def Node.propertiesOver (node : Node) (scope : Scope) : Traced (List Check) :=
  if node.speaksOfMembers then
    (namedOver compile node.properties scope).andThen fun declared =>
      (namedOver compile node.patternProperties scope).andThen fun patterns =>
        (restOver compile node.additionalProperties scope).andThen fun rest =>
          (Keyword.properties declared patterns rest).andThen fun check => .result [check]
  else .result []

def demandOver (scope : Scope) (entry : String × Demand Node) : Traced Check :=
  match entry.2 with
  | .keys names => .result (Check.ofFindings (Keyword.dependency entry.1 names))
  | .schema node => (compile scope node).andThen fun check => .result (Check.whenPresent entry.1 check)

def Node.groupsOver (formats : Formats) (refer : Expansion) (node : Node) (scope : Scope) : List (Traced (List Check)) :=
  [ referenceChecks refer scope node.own.reference,
    whenGiven node.own.kinds Keyword.typeCheck,
    combinedOver compile Check.all node.allOf scope,
    combinedOver compile Check.any node.anyOf scope,
    combinedOver compile Check.one node.oneOf scope,
    negatedOver compile node.negation scope ]
  ++ plainChecks node.own ++ [node.itemsOver compile scope.descend]
  ++ memberChecks node.own ++
  [ node.propertiesOver compile scope.descend,
    Logged.each (demandOver compile scope) (node.dependencies.getD []),
    formatChecks formats node.own.format ]

end Inner

section Over

variable {compile other : Scope → Node → Traced Check} {formats : Formats} {refer refer' : Expansion} {node : Node}
  {scope : Scope}

theorem combined_over_congr {combine : List Check → Check} {nodes : Option (List Node)}
    (same : ∀ inner ∈ nodes.getD [], compile scope inner = other scope inner) :
    combinedOver compile combine nodes scope = combinedOver other combine nodes scope := by
  cases nodes with
  | none => rfl
  | some nodes =>
      have each : Logged.each (compile scope) nodes = Logged.each (other scope) nodes := Logged.each_congr same
      rw [combinedOver, combinedOver, each]

theorem negated_over_congr {negation : Option Node}
    (same : ∀ inner ∈ negation.toList, compile scope inner = other scope inner) :
    negatedOver compile negation scope = negatedOver other negation scope := by
  cases negation with
  | none => rfl
  | some node => rw [negatedOver, negatedOver, same node (by simp)]

theorem extra_over_congr {message : String} {extra : Extra Node}
    (same : ∀ inner ∈ extra.schemas, compile scope inner = other scope inner) :
    extraOver compile message extra scope = extraOver other message extra scope := by
  cases extra with
  | permit => rfl
  | schema node => exact same node (by simp [Extra.schemas])

theorem rest_over_congr {extra : Option (Extra Node)}
    (same : ∀ inner ∈ (extra.map Extra.schemas).getD [], compile scope inner = other scope inner) :
    restOver compile extra scope = restOver other extra scope := by
  cases extra with
  | none => rfl
  | some extra => exact extra_over_congr same

theorem items_over_congr (same : ∀ inner ∈ node.itemSchemas, compile scope inner = other scope inner) :
    node.itemsOver compile scope = node.itemsOver other scope := by
  unfold Node.itemSchemas at same
  unfold Node.itemsOver
  split
  case h_1 item single =>
    rw [single] at same
    rw [same item (List.mem_singleton_self _)]
  case h_2 nodes single listed =>
    rw [single, listed] at same
    rw [Logged.each_congr fun inner member => same inner (List.mem_append_left _ member),
      extra_over_congr fun inner member => same inner (List.mem_append_right _ member)]
  case h_3 => rfl

theorem named_over_congr {nodes : Option (List (String × Node))}
    (same : ∀ inner ∈ (nodes.getD []).map (·.2), compile scope inner = other scope inner) :
    namedOver compile nodes scope = namedOver other nodes scope :=
  Logged.each_congr fun entry member => by rw [same entry.2 (List.mem_map_of_mem member)]

theorem demands_over_congr {demands : List (String × Demand Node)}
    (same : ∀ inner ∈ demands.flatMap (·.2.schemas), compile scope inner = other scope inner) :
    Logged.each (demandOver compile scope) demands = Logged.each (demandOver other scope) demands := by
  refine Logged.each_congr fun entry member => ?_
  obtain ⟨key, demand⟩ := entry
  cases demand with
  | keys names => rfl
  | schema inner =>
      have inside : inner ∈ demands.flatMap (·.2.schemas) :=
        List.mem_flatMap.mpr ⟨_, member, List.mem_singleton_self _⟩
      simp only [demandOver, same inner inside]

theorem properties_over_congr (same : ∀ inner ∈ node.children, compile scope inner = other scope inner) :
    node.propertiesOver compile scope = node.propertiesOver other scope := by
  simp only [Node.children, List.mem_append] at same
  rw [Node.propertiesOver, Node.propertiesOver,
    named_over_congr fun inner member => same inner (.inl (.inl (.inr member))),
    named_over_congr fun inner member => same inner (.inl (.inr member)),
    rest_over_congr fun inner member => same inner (.inr member)]

theorem groups_over_congr (own : ∀ r, node.own.reference = some r → refer scope r = refer' scope r)
    (peers : ∀ inner ∈ node.peers, compile scope inner = other scope inner)
    (children : ∀ inner ∈ node.children, compile scope.descend inner = other scope.descend inner) :
    node.groupsOver compile formats refer scope = node.groupsOver other formats refer' scope := by
  have reference : referenceChecks refer scope node.own.reference = referenceChecks refer' scope node.own.reference := by
    cases named : node.own.reference with
    | none => rfl
    | some r => rw [referenceChecks, referenceChecks, own r named]
  simp only [Node.peers, List.mem_append] at peers
  have items : ∀ inner ∈ node.itemSchemas, compile scope.descend inner = other scope.descend inner :=
    fun inner member => children inner (by simp [Node.children, member])
  rw [Node.groupsOver, Node.groupsOver, reference,
    combined_over_congr fun inner member => peers inner (.inl (.inl (.inl (.inl member)))),
    combined_over_congr fun inner member => peers inner (.inl (.inl (.inl (.inr member)))),
    combined_over_congr fun inner member => peers inner (.inl (.inl (.inr member))),
    negated_over_congr fun inner member => peers inner (.inl (.inr member)),
    items_over_congr items, properties_over_congr children,
    demands_over_congr fun inner member => peers inner (.inr member)]

theorem extra_over_check (message : String) (extra : Extra Node) (scope : Scope) :
    extraOver (fun scope inner => inner.check formats refer scope) message extra scope =
      checkExtra formats refer message extra scope := by
  cases extra <;> rfl

theorem groups_over_check : node.groupsOver (fun scope inner => inner.check formats refer scope) formats refer scope =
    node.groups formats refer scope := by
  have items : node.itemsOver (fun scope inner => inner.check formats refer scope) scope.descend =
      node.itemGroup formats refer scope.descend := by
    unfold Node.itemsOver
    simp only [extra_over_check]
    rfl
  have rest : ∀ extra, restOver (fun scope inner => inner.check formats refer scope) extra scope.descend =
      checkRest formats refer extra scope.descend := by
    intro extra
    cases extra with
    | none => rfl
    | some extra => exact extra_over_check noMoreProperties extra scope.descend
  have properties : node.propertiesOver (fun scope inner => inner.check formats refer scope) scope.descend =
      node.propertyGroup formats refer scope.descend := by
    unfold Node.propertiesOver
    simp only [rest]
    rfl
  rw [Node.groupsOver, items, properties]
  rfl

end Over

abbrev Visit := Scope → Node → Traced Unit

-- A schema is compiled under a visit at the head of every call. The schemas inside are smaller, so the test
-- of the size never fails.
noncomputable def Node.watched (visit : Visit) (formats : Formats) (refer : Expansion) (node : Node) (scope : Scope) :
    Traced (List Check) :=
  (visit scope node).andThen fun _ =>
    Logged.joined (node.groupsOver
      (fun scope inner =>
        if sizeOf inner < sizeOf node then
          (inner.watched visit formats refer scope).andThen fun checks => .result (Check.all checks)
        else .result Check.accept) formats refer scope)
termination_by sizeOf node

noncomputable def Node.watchedCheck (visit : Visit) (formats : Formats) (refer : Expansion) (node : Node)
    (scope : Scope) : Traced Check :=
  (node.watched visit formats refer scope).andThen fun checks => .result (Check.all checks)

theorem watched_eq (visit : Visit) (formats : Formats) (refer : Expansion) (node : Node) (scope : Scope) :
    node.watched visit formats refer scope = (visit scope node).andThen fun _ =>
      Logged.joined
        (node.groupsOver (fun scope inner => inner.watchedCheck visit formats refer scope) formats refer scope) := by
  have groups : node.groupsOver (fun scope inner => if sizeOf inner < sizeOf node
        then inner.watchedCheck visit formats refer scope else .result Check.accept) formats refer scope =
      node.groupsOver (fun scope inner => inner.watchedCheck visit formats refer scope) formats refer scope :=
    groups_over_congr (fun _ _ => rfl) (fun inner member => if_pos (peer_smaller node inner member))
      fun inner member => if_pos (child_smaller node inner member)
  rw [Node.watched, ← groups]
  rfl

section Watched

variable (visit : Visit) (context : Context)

noncomputable def expandWatched (later : String → Node → Check) : Nat → Expansion
  | 0, _, _ => .fault .exhausted
  | budget + 1, scope, reference =>
      if scope.level.contains reference then circular reference
      else
        match Reference.resolve context.document reference with
        | .error fault => unresolved reference fault
        | .ok target =>
            let node := Node.decode target
            if scope.stack.contains reference then return later reference node
            else node.watchedCheck visit context.formats (expandWatched later budget) (scope.enter reference)

noncomputable def expandLaterWatched (budget : Nat) : Nat → String → Node → Check
  | 0, _, _ => fun _ => .fault .exhausted
  | depth + 1, reference, node => fun value => do
      let check ← node.watchedCheck visit context.formats
        (expandWatched visit context (expandLaterWatched budget depth) budget) (Scope.restart reference)
      check value

noncomputable def laterWatched (reference : String) (node : Node) : Check :=
  fun value => expandLaterWatched visit context context.budget (value.depth + 1) reference node value

noncomputable def referWatched : Expansion :=
  expandWatched visit context (laterWatched visit context) context.budget

end Watched

noncomputable def compileWatched (visit : Visit) (schema : Schema) : Traced (List Check) := do
  let checks ← schema.root.watched visit schema.formats (referWatched visit schema.context) rootScope
  Logged.note .debug .schema s!"Compiled {checks.length} validators for schema '{schema.label}'"
  return checks

noncomputable def validateWatched (visit : Visit) (schema : Schema) (value : Json) : Traced Findings := do
  let checks ← schema.compileWatched visit
  Check.all checks value

-- The schema is compiled in the scope while the value is validated, if it can be noticed what is done at the head
-- of just this call.
def Compiles (schema : Schema) (value : Json) (scope : Scope) (node : Node) : Prop :=
  ∃ visit : Visit, (∀ s n, visit s n ≠ .result () → s = scope ∧ n = node) ∧
    schema.validateWatched visit value ≠ schema.validate value

namespace Context

variable (context : Context)

inductive Calls : Scope → Node → Prop where
  | document : Calls rootScope (Node.decode context.document)
  | peer {scope : Scope} {node inner : Node} (outer : Calls scope node) (member : inner ∈ node.peers) : Calls scope inner
  | child {scope : Scope} {node inner : Node} (outer : Calls scope node) (member : inner ∈ node.children) :
      Calls scope.descend inner
  | reference {scope : Scope} {node : Node} {r : String} {target : Json} (outer : Calls scope node)
      (named : node.own.reference = some r) (first : r ∉ scope.level)
      (resolved : Reference.resolve context.document r = .ok target) : Calls (scope.next r) (Node.decode target)

inductive Waits : String → Node → Prop where
  | below {scope : Scope} {node : Node} {r : String} {target : Json} (outer : context.Calls scope node)
      (named : node.own.reference = some r) (first : r ∉ scope.level) (above : r ∈ scope.stack)
      (resolved : Reference.resolve context.document r = .ok target) : Waits r (Node.decode target)

variable {context}

theorem waits_calls {r : String} {node : Node} (waits : context.Waits r node) : context.Calls (Scope.restart r) node := by
  obtain ⟨outer, named, first, above, resolved⟩ := waits
  have called := Calls.reference outer named first resolved
  rwa [Scope.next, if_pos above] at called

end Context

section Quiet

variable {context : Context} {visit : Visit}
  (quiet : ∀ scope node, context.Calls scope node → visit scope node = .result ())

include quiet

theorem watched_quiet {refer other : Expansion}
    (same : ∀ scope node r, context.Calls scope node → node.own.reference = some r → other scope r = refer scope r)
    (scope : Scope) (node : Node) (called : context.Calls scope node) :
    node.watched visit context.formats other scope = node.checks context.formats refer scope := by
  induction node using node_induction generalizing scope with
  | step node peers children =>
      rw [watched_eq, quiet scope node called, Logged.result_and_then, checks_eq, ← groups_over_check]
      refine congrArg Logged.joined (groups_over_congr ?_ ?_ ?_)
      · exact fun r named => same scope node r called named
      · intro inner member
        rw [Node.watchedCheck, peers inner member scope (.peer called member)]
        rfl
      · intro inner member
        rw [Node.watchedCheck, children inner member scope.descend (.child called member)]
        rfl

theorem watched_check_quiet {refer other : Expansion}
    (same : ∀ scope node r, context.Calls scope node → node.own.reference = some r → other scope r = refer scope r)
    (scope : Scope) (node : Node) (called : context.Calls scope node) :
    node.watchedCheck visit context.formats other scope = node.check context.formats refer scope := by
  rw [Node.watchedCheck, watched_quiet quiet same scope node called]
  rfl

theorem expand_watched_quiet {later other : String → Node → Check}
    (same : ∀ r node, context.Waits r node → other r node = later r node) (budget : Nat) (scope : Scope) (node : Node)
    (r : String) (called : context.Calls scope node) (named : node.own.reference = some r) :
    expandWatched visit context other budget scope r = expand context later budget scope r := by
  induction budget generalizing scope node r with
  | zero => rfl
  | succ budget ih =>
      by_cases again : r ∈ scope.level
      · rw [expand_circular again, expandWatched, if_pos (by simpa using again)]
      cases resolved : Reference.resolve context.document r with
      | error fault =>
          rw [expand_unresolved again resolved, expandWatched, if_neg (by simpa using again), resolved]
      | ok target =>
          rw [expandWatched, if_neg (by simpa using again), resolved]
          simp only [List.contains_iff_mem]
          by_cases above : r ∈ scope.stack
          · rw [expand_waiting again resolved above, if_pos above, same r _ (.below called named again above resolved)]
            rfl
          · have inner := Context.Calls.reference called named again resolved
            rw [Scope.next, if_neg above] at inner
            rw [expand_eager again resolved above, if_neg above]
            exact watched_check_quiet quiet ih (scope.enter r) _ inner

theorem expand_later_watched_quiet (budget depth : Nat) (r : String) (node : Node) (waits : context.Waits r node) :
    expandLaterWatched visit context budget depth r node = expandLater context budget depth r node := by
  induction depth generalizing r node with
  | zero => rfl
  | succ depth ih =>
      have expanded := watched_check_quiet quiet (expand_watched_quiet quiet ih budget) (Scope.restart r) node
        (Context.waits_calls waits)
      unfold expandLaterWatched expandLater
      rw [expanded]

theorem refer_watched_quiet (scope : Scope) (node : Node) (r : String) (called : context.Calls scope node)
    (named : node.own.reference = some r) : referWatched visit context scope r = refer context scope r := by
  refine expand_watched_quiet quiet (fun r node waits => funext fun value => ?_) context.budget scope node r called named
  exact congrFun (expand_later_watched_quiet quiet context.budget (value.depth + 1) r node waits) value

end Quiet

theorem validate_watched_quiet (schema : Schema) (visit : Visit)
    (quiet : ∀ scope node, schema.context.Calls scope node → visit scope node = .result ()) (value : Json) :
    schema.validateWatched visit value = schema.validate value := by
  have compiled := watched_quiet quiet (refer_watched_quiet quiet) rootScope schema.root .document
  have same : schema.compileWatched visit = schema.compile := by
    rw [compileWatched, show schema.formats = schema.context.formats from rfl, compiled]
    rfl
  rw [validateWatched, same]
  rfl

theorem compiles_calls {schema : Schema} {value : Json} {scope : Scope} {node : Node}
    (compiles : schema.Compiles value scope node) : schema.context.Calls scope node := by
  obtain ⟨visit, just, noticed⟩ := compiles
  by_contra missing
  refine noticed (validate_watched_quiet schema visit (fun s n called => ?_) value)
  by_contra done
  obtain ⟨rfl, rfl⟩ := just s n done
  exact missing called

end Conform.Schema
