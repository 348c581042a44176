import Conform.Proofs.Termination

set_option autoImplicit false

namespace Conform

namespace Json

def Mentions (document : Json) (key text : String) : Prop :=
  ∃ members, Contains document (.object members) ∧ (key, .string text) ∈ members

theorem mentions_contained {value deep : Json} {key text : String} (contained : Contains value deep)
    (mentions : deep.Mentions key text) : value.Mentions key text := by
  obtain ⟨members, inside, found⟩ := mentions
  exact ⟨members, contains_trans contained inside, found⟩

theorem text_mentioned {members : List (String × Json)} {key text : String}
    (given : (member? key members).bind asString? = some text) : (object members).Mentions key text := by
  obtain ⟨value, found, read⟩ := Option.bind_eq_some_iff.mp given
  cases value with
  | string own =>
      cases read
      exact ⟨members, .self _, member_of_key key members _ found⟩
  | _ => cases read

theorem mentions_iff (value : Json) (key text : String) : value.Mentions key text ↔
    (∃ members, value = .object members ∧ (key, .string text) ∈ members) ∨ ∃ part ∈ value.parts, part.Mentions key text := by
  constructor
  · rintro ⟨members, contained, found⟩
    cases contained with
    | self => exact .inl ⟨members, rfl, found⟩
    | part member inner => exact .inr ⟨_, member, members, inner, found⟩
  · rintro (⟨members, rfl, found⟩ | ⟨part, member, members, inner, found⟩)
    · exact ⟨members, .self _, found⟩
    · exact ⟨members, .part member inner, found⟩

@[simp] theorem mentions_object (members : List (String × Json)) (key text : String) :
    (object members).Mentions key text ↔
      (key, .string text) ∈ members ∨ ∃ entry ∈ members, entry.2.Mentions key text := by
  rw [mentions_iff]
  have inside : (∃ part ∈ (object members).parts, part.Mentions key text) ↔ ∃ entry ∈ members, entry.2.Mentions key text := by
    constructor
    · rintro ⟨_, member, mentions⟩
      obtain ⟨entry, found, rfl⟩ := List.mem_map.mp member
      exact ⟨entry, found, mentions⟩
    · rintro ⟨entry, found, mentions⟩
      exact ⟨_, List.mem_map_of_mem found, mentions⟩
  rw [inside]
  simp

@[simp] theorem mentions_string (own key text : String) : ¬ (string own).Mentions key text := by
  rw [mentions_iff]
  simp [parts]

end Json

namespace Schema

theorem nested_text_mentioned {key : String} {field : Assertions → Option String}
    (reads : ∀ members, field (assertions members) = (member? key members).bind Json.asString?)
    (bare : field {} = none) {value : Json} {inner : Node} {text : String}
    (nested : (Node.decode value).Nested inner) (given : field inner.own = some text) : value.Mentions key text := by
  obtain ⟨sub, contained, rfl⟩ := nested_decoded value inner nested
  cases sub with
  | object members => exact Json.mentions_contained contained (Json.text_mentioned ((reads members).symm.trans given))
  | _ => exact nomatch bare.symm.trans given

def keywords : List String :=
  ["title", "description", "$ref", "type", "allOf", "anyOf", "oneOf", "not", "enum", "maxLength", "minLength", "pattern",
    "multipleOf", "minimum", "exclusiveMinimum", "maximum", "exclusiveMaximum", "minItems", "maxItems", "uniqueItems",
    "items", "additionalItems", "maxProperties", "minProperties", "required", "properties", "patternProperties",
    "additionalProperties", "dependencies", "format"]

theorem decode_keywords {members others : List (String × Json)}
    (same : ∀ key ∈ keywords, member? key members = member? key others) :
    Node.decode (.object members) = Node.decode (.object others) := by
  have read : ∀ key ∈ keywords, member? key (readMembers members) = member? key (readMembers others) :=
    fun key keyword => by rw [read_member, read_member, same key keyword]
  simp only [keywords, List.forall_mem_cons] at same read
  simp only [Node.decode, Schema.read, assemble, assertions, same, read]

section Same

variable {formats formats' : Formats} {refer other : Expansion} {node : Node}

structure Node.Agreed (formats formats' : Formats) (refer other : Expansion) (node : Node) : Prop where
  references : ∀ inner r, node.Nested inner → inner.own.reference = some r → ∀ scope, refer scope r = other scope r
  formats : ∀ inner name, node.Nested inner → inner.own.format = some name → formats.find? name = formats'.find? name

theorem agreed_peer {inner : Node} (agreed : node.Agreed formats formats' refer other) (member : inner ∈ node.peers) :
    inner.Agreed formats formats' refer other where
  references deep r nested := agreed.references deep r (.peer member nested)
  formats deep name nested := agreed.formats deep name (.peer member nested)

theorem agreed_child {inner : Node} (agreed : node.Agreed formats formats' refer other) (member : inner ∈ node.children) :
    inner.Agreed formats formats' refer other where
  references deep r nested := agreed.references deep r (.child member nested)
  formats deep name nested := agreed.formats deep name (.child member nested)

theorem format_checks_same (agreed : node.Agreed formats formats' refer other) :
    formatChecks formats node.own.format = formatChecks formats' node.own.format := by
  cases given : node.own.format with
  | none => rfl
  | some name => rw [formatChecks, formatChecks, agreed.formats node name (.self node) given]

theorem reference_checks_same (agreed : node.Agreed formats formats' refer other) (scope : Scope) :
    referenceChecks refer scope node.own.reference = referenceChecks other scope node.own.reference := by
  cases given : node.own.reference with
  | none => rfl
  | some r => rw [referenceChecks, referenceChecks, agreed.references node r (.self node) given scope]

theorem combined_group_same {combine : List Check → Check} {nodes : Option (List Node)} {scope : Scope}
    (same : ∀ inner ∈ nodes.getD [], inner.check formats refer scope = inner.check formats' other scope) :
    combinedGroup formats refer combine nodes scope = combinedGroup formats' other combine nodes scope := by
  cases nodes with
  | none => rfl
  | some nodes =>
      rw [Option.getD_some] at same
      rw [combinedGroup, combinedGroup, Logged.each_congr same]

theorem named_group_same {nodes : Option (List (String × Node))} {scope : Scope}
    (same : ∀ entry ∈ nodes.getD [], entry.2.check formats refer scope = entry.2.check formats' other scope) :
    namedGroup formats refer nodes scope = namedGroup formats' other nodes scope :=
  Logged.each_congr fun entry member => by rw [same entry member]

theorem extra_same {message : String} {extra : Extra Node} {scope : Scope}
    (same : ∀ inner ∈ extra.schemas, inner.check formats refer scope = inner.check formats' other scope) :
    checkExtra formats refer message extra scope = checkExtra formats' other message extra scope := by
  cases extra with
  | permit => rfl
  | schema inner => exact same inner (List.mem_singleton_self _)

theorem item_group_same {scope : Scope}
    (same : ∀ inner ∈ node.itemSchemas, inner.check formats refer scope = inner.check formats' other scope) :
    node.itemGroup formats refer scope = node.itemGroup formats' other scope := by
  unfold Node.itemGroup
  cases single : node.items with
  | some item =>
      simp only [Node.itemSchemas, single, List.mem_singleton, forall_eq] at same ⊢
      rw [same]
  | none =>
      cases listed : node.tupleItems with
      | none => rfl
      | some nodes =>
          simp only [Node.itemSchemas, single, listed, List.mem_append] at same ⊢
          rw [Logged.each_congr fun inner member => same inner (.inl member),
            extra_same fun inner member => same inner (.inr member)]

theorem property_group_same {scope : Scope}
    (same : ∀ inner ∈ node.children, inner.check formats refer scope = inner.check formats' other scope) :
    node.propertyGroup formats refer scope = node.propertyGroup formats' other scope := by
  simp only [Node.children, List.mem_append, List.mem_map] at same
  have rest : checkRest formats refer node.additionalProperties scope =
      checkRest formats' other node.additionalProperties scope := by
    cases given : node.additionalProperties with
    | none => rfl
    | some extra => exact extra_same fun inner member => same inner (.inr (by rwa [given]))
  rw [Node.propertyGroup, Node.propertyGroup, rest,
    named_group_same fun entry member => same entry.2 (.inl (.inl (.inr ⟨entry, member, rfl⟩))),
    named_group_same fun entry member => same entry.2 (.inl (.inr ⟨entry, member, rfl⟩))]

theorem demand_check_same {scope : Scope} {entry : String × Demand Node}
    (same : ∀ inner ∈ entry.2.schemas, inner.check formats refer scope = inner.check formats' other scope) :
    demandCheck formats refer scope entry = demandCheck formats' other scope entry := by
  obtain ⟨key, demand⟩ := entry
  cases demand with
  | keys => rfl
  | schema inner =>
      have checked := same inner (List.mem_singleton_self _)
      simp only [demandCheck, checked]

theorem groups_same (agreed : node.Agreed formats formats' refer other) (scope : Scope)
    (peers : ∀ inner ∈ node.peers, inner.check formats refer scope = inner.check formats' other scope)
    (children : ∀ inner ∈ node.children, inner.check formats refer scope.descend = inner.check formats' other scope.descend) :
    node.groups formats refer scope = node.groups formats' other scope := by
  have peer := peers
  simp only [Node.peers, List.mem_append] at peer
  have negated : negatedGroup formats refer node.negation scope = negatedGroup formats' other node.negation scope := by
    cases given : node.negation with
    | none => rfl
    | some inner => rw [negatedGroup, negatedGroup, peer inner (.inl (.inr (by simp [given])))]
  have demanded : Logged.each (demandCheck formats refer scope) (node.dependencies.getD []) =
      Logged.each (demandCheck formats' other scope) (node.dependencies.getD []) :=
    Logged.each_congr fun entry member => demand_check_same fun inner inside =>
      peer inner (.inr (List.mem_flatMap.mpr ⟨entry, member, inside⟩))
  rw [Node.groups, Node.groups, reference_checks_same agreed, negated, demanded, format_checks_same agreed,
    property_group_same children, item_group_same fun inner member => children inner (by simp [Node.children, member]),
    combined_group_same fun inner member => peer inner (.inl (.inl (.inl (.inl member)))),
    combined_group_same fun inner member => peer inner (.inl (.inl (.inl (.inr member)))),
    combined_group_same fun inner member => peer inner (.inl (.inl (.inr member)))]

theorem checks_same (agreed : node.Agreed formats formats' refer other) (scope : Scope) :
    node.checks formats refer scope = node.checks formats' other scope := by
  induction node using node_induction generalizing scope with
  | step node peers children =>
      rw [checks_eq, checks_eq, groups_same agreed scope (fun inner member => ?_) fun inner member => ?_]
      · rw [check_eq, check_eq, peers inner member (agreed_peer agreed member)]
      · rw [check_eq, check_eq, children inner member (agreed_child agreed member)]

theorem check_same (agreed : node.Agreed formats formats' refer other) (scope : Scope) :
    node.check formats refer scope = node.check formats' other scope := by
  rw [check_eq, check_eq, checks_same agreed]

end Same

-- Another context reads the same wherever the document of this one leads.
structure Context.Agrees (context other : Context) : Prop where
  root : Node.decode context.document = Node.decode other.document
  targets : ∀ r, context.document.Mentions "$ref" r →
    (Reference.resolve context.document r).map Node.decode = (Reference.resolve other.document r).map Node.decode
  formats : ∀ name, context.document.Mentions "format" name → context.formats.find? name = other.formats.find? name

section Contexts

variable {context other : Context}

theorem target_agreed (agrees : context.Agrees other) {refer refer' : Expansion} {target : Json}
    (contained : Json.Contains context.document target)
    (same : ∀ scope r, context.document.Mentions "$ref" r → refer scope r = refer' scope r) :
    (Node.decode target).Agreed context.formats other.formats refer refer' where
  references _ r nested given scope := same scope r
    (Json.mentions_contained contained (nested_text_mentioned (fun _ => rfl) rfl nested given))
  formats _ name nested given := agrees.formats name
    (Json.mentions_contained contained (nested_text_mentioned (fun _ => rfl) rfl nested given))

theorem expand_same (agrees : context.Agrees other) {later later' : String → Node → Check}
    (waits : ∀ r target, Json.Contains context.document target → later r (Node.decode target) = later' r (Node.decode target))
    (budget : Nat) (scope : Scope) (r : String) (mentioned : context.document.Mentions "$ref" r) :
    expand context later budget scope r = expand other later' budget scope r := by
  induction budget generalizing scope r with
  | zero => rfl
  | succ budget ih =>
      by_cases again : r ∈ scope.level
      · rw [expand_circular again, expand_circular again]
      have same := agrees.targets r mentioned
      cases first : Reference.resolve context.document r with
      | error fault =>
          cases second : Reference.resolve other.document r with
          | error fault' =>
              rw [first, second] at same
              cases same
              rw [expand_unresolved again first, expand_unresolved again second]
          | ok target' =>
              rw [first, second] at same
              cases same
      | ok target =>
          cases second : Reference.resolve other.document r with
          | error fault' =>
              rw [first, second] at same
              cases same
          | ok target' =>
              rw [first, second] at same
              have decoded : Node.decode target = Node.decode target' := Except.ok.inj same
              have contained := Reference.resolve_contained _ _ _ first
              by_cases above : r ∈ scope.stack
              · rw [expand_waiting again first above, expand_waiting again second above, ← decoded, waits r target contained]
              · rw [expand_eager again first above, expand_eager again second above, ← decoded,
                  check_same (target_agreed agrees contained ih)]

theorem expand_later_same (agrees : context.Agrees other) (budget depth : Nat) (r : String) (target : Json)
    (contained : Json.Contains context.document target) :
    expandLater context budget depth r (Node.decode target) = expandLater other budget depth r (Node.decode target) := by
  induction depth generalizing r target with
  | zero => rfl
  | succ depth ih =>
      have inner := expand_same agrees ih budget
      funext value
      rw [expandLater, expandLater, check_same (target_agreed agrees contained inner)]

theorem refers_within_same (agrees : context.Agrees other) (budget depth : Nat) (scope : Scope) (r : String)
    (mentioned : context.document.Mentions "$ref" r) :
    refersWithin context budget depth scope r = refersWithin other budget depth scope r :=
  expand_same agrees (expand_later_same agrees budget depth) budget scope r mentioned

end Contexts

theorem validate_within (schema : Schema) (value : Json) (budget depth : Nat)
    (enough : schema.document.references.length < budget) (deep : value.depth ≤ depth) :
    schema.validateWith (refersWithin schema.context budget depth) value = schema.validate value := by
  have applies := any_applies schema.context
  have kept := any_kept schema.context
  have waiting := later_within_related applies kept budget value.depth depth enough deep
  have root := root_related applies kept waiting schema.context.budget budget (budget_suffices schema.context) enough
    trivial
  have compiled := compile_related schema (fun _ => Comparison.equal_fine _) root
  exact (Comparison.identical_eq (validate_related schema compiled value (Nat.lt_succ_self _))).symm

theorem validate_same {schema other : Schema} (agrees : schema.context.Agrees other.context) (value : Json) :
    schema.validate value = other.validate value := by
  let budget := schema.document.references.length + other.document.references.length + 1
  have within := validate_within schema value budget value.depth (by omega) (Nat.le_refl _)
  have within' := validate_within other value budget value.depth (by omega) (Nat.le_refl _)
  have root : schema.root = other.root := agrees.root
  have checks : schema.root.checks schema.formats (refersWithin schema.context budget value.depth) rootScope =
      other.root.checks other.formats (refersWithin other.context budget value.depth) rootScope := by
    rw [← root]
    exact checks_same (target_agreed agrees (.self _) fun scope r => refers_within_same agrees budget value.depth scope r)
      rootScope
  have label : schema.label = other.label := by
    rw [label, label, title, title, root]
  rw [← within, ← within', validateWith, validateWith, compileWith, compileWith, checks, label]

theorem decode_set_other {members : List (String × Json)} {key : String} (x : Json) (free : key ∉ keywords) :
    Node.decode (.object (setMember key x members)) = Node.decode (.object members) :=
  decode_keywords fun keyword listed => member_set_other key keyword x members fun same => free (same ▸ listed)

theorem resolve_other {members : List (String × Json)} {key r : String} (x : Json) (free : key ∉ keywords)
    (elsewhere : ∀ path, r.toList = '#' :: '/' :: path → (Reference.steps ('/' :: path)).head? ≠ some key) :
    (Reference.resolve (.object (setMember key x members)) r).map Node.decode =
      (Reference.resolve (.object members) r).map Node.decode := by
  have root : Node.decode (.object (setMember key x members)) = Node.decode (.object members) := decode_set_other x free
  unfold Reference.resolve
  split
  · exact congrArg Except.ok root
  · rename_i path form
    cases steps : Reference.steps ('/' :: path) with
    | nil => exact congrArg Except.ok root
    | cons step rest =>
        have different : step ≠ key := fun same => elsewhere path form (by rw [steps, same]; rfl)
        simp only [Reference.follow, Reference.child, member_set_other key step x members different]
  · rfl

theorem unmentioned_irrelevant :
    (∀ (members : List (String × Json)) (key : String) (x : Json) (extras : Formats), key ∉ keywords →
      (∀ r path, (Json.object members).Mentions "$ref" r → r.toList = '#' :: '/' :: path →
        (Reference.steps ('/' :: path)).head? ≠ some key) →
      ∀ value, (ofDocument (.object (setMember key x members)) extras).validate value =
        (ofDocument (.object members) extras).validate value) ∧
    ∀ (document : Json) (extras others : Formats),
      (∀ name, document.Mentions "format" name → (Formats.extend extras).find? name = (Formats.extend others).find? name) →
      ∀ value, (ofDocument document extras).validate value = (ofDocument document others).validate value := by
  constructor
  · intro members key x extras free elsewhere value
    have agrees : (ofDocument (.object members) extras).context.Agrees
        (ofDocument (.object (setMember key x members)) extras).context :=
      ⟨(decode_set_other x free).symm,
        fun r mentioned => (resolve_other x free fun path => elsewhere r path mentioned).symm, fun _ _ => rfl⟩
    exact (validate_same agrees value).symm
  · intro document extras others named value
    have agrees : (ofDocument document extras).context.Agrees (ofDocument document others).context :=
      ⟨rfl, fun _ _ => rfl, named⟩
    exact validate_same agrees value

theorem unmentioned_irrelevant_for_lists :
    let members := [("format", Json.string "short"), ("items", Json.object [("$ref", .string "#")])]
    let short := ("short", some (Check.ofFindings (Keyword.itemCount (atMost 1) "long")))
    ∀ x value, (ofDocument (.object (setMember "definitions" x members)) [short, ("long", none)]).validate value =
      (ofDocument (.object members) [short]).validate value := by
  intro members short x value
  obtain ⟨parts, formats⟩ := unmentioned_irrelevant
  have free : "definitions" ∉ keywords := by decide
  have elsewhere : ∀ r path, (Json.object members).Mentions "$ref" r → r.toList = '#' :: '/' :: path →
      (Reference.steps ('/' :: path)).head? ≠ some "definitions" := by
    intro r path mentioned form
    obtain rfl : r = "#" := by simpa [members] using mentioned
    cases form
  rw [parts members "definitions" x _ free elsewhere]
  refine formats (.object members) _ _ (fun name mentioned => ?_) value
  obtain rfl : name = "short" := by simpa [members] using mentioned
  rw [Formats.find_extend _ (by decide), Formats.find_extend _ (by decide)]
  rfl

end Schema

end Conform
