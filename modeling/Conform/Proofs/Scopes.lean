import Conform.Proofs.Calls
import Conform.Proofs.Conjunction
import Mathlib.Data.List.Chain
import Mathlib.Data.List.Dedup

set_option autoImplicit false

namespace Conform.Schema

inductive Scope.Made : Scope → Prop where
  | fresh : Made {}
  | enter {scope : Scope} (made : Made scope) (r : String) : Made (scope.enter r)
  | descend {scope : Scope} (made : Made scope) : Made scope.descend
  | restart {scope : Scope} (made : Made scope) (r : String) : Made (Scope.restart r)

theorem made_suffix {scope : Scope} (made : scope.Made) : scope.level <:+ scope.stack := by
  induction made with
  | fresh => exact List.suffix_rfl
  | enter _ r ih =>
      obtain ⟨outer, same⟩ := ih
      exact ⟨outer, by rw [Scope.enter, ← same, List.append_assoc]⟩
  | descend => exact List.nil_suffix
  | restart => exact List.suffix_rfl

def Node.Beside : Node → Node → Prop :=
  Relation.ReflTransGen fun outer inner => inner ∈ outer.peers

theorem beside_here {node inner : Node} {r : String} (beside : node.Beside inner)
    (named : inner.own.reference = some r) : node.Here r := by
  induction beside using Relation.ReflTransGen.head_induction_on with
  | refl => exact .own named
  | head member _ ih => exact .peer member ih

namespace Context

variable (context : Context)

def Holds (r : String) (node : Node) : Prop :=
  ∃ target, Reference.resolve context.document r = .ok target ∧ (Node.decode target).Beside node

-- What a scope says of the schema that is compiled in it. Nothing but the document itself is on the stack without
-- being referred to; the level is linked at one value, from each reference to the next and from the last to the schema.
structure Sound (scope : Scope) (node : Node) : Prop where
  made : scope.Made
  distinct : scope.stack.Nodup
  resolved : ∀ r ∈ scope.stack, ∃ target, Reference.resolve context.document r = .ok target
  listed : ∀ r ∈ scope.stack, r = rootReference ∨ r ∈ context.document.references
  linked : scope.level.IsChain context.Same
  last : ∀ r ∈ scope.level.getLast?, context.Holds r node

variable {context : Context} {scope : Scope} {node inner : Node} {r : String} {target : Json}

theorem holds_target (resolved : Reference.resolve context.document r = .ok target) :
    context.Holds r (Node.decode target) :=
  ⟨target, resolved, .refl⟩

theorem decoded_nested {value : Json} (decoded : Decoded value node) (nested : node.Nested inner) : Decoded value inner := by
  obtain ⟨sub, contained, rfl⟩ := decoded
  obtain ⟨deep, inside, rfl⟩ := nested_decoded sub inner nested
  exact ⟨deep, Json.contains_trans contained inside, rfl⟩

theorem calls_decoded (called : context.Calls scope node) : Decoded context.document node := by
  induction called with
  | document => exact ⟨_, .self _, rfl⟩
  | peer _ member ih => exact decoded_nested ih (.peer member (.self _))
  | child _ member ih => exact decoded_nested ih (.child member (.self _))
  | reference _ _ _ resolved => exact ⟨_, Reference.resolve_contained _ _ _ resolved, rfl⟩

theorem calls_listed (called : context.Calls scope node) (named : node.own.reference = some r) :
    r ∈ context.document.references := by
  obtain ⟨sub, contained, rfl⟩ := calls_decoded called
  exact Json.references_contained contained (own_reference_listed sub r named)

theorem sound_restart (made : (Scope.restart r).Made) (listed : r = rootReference ∨ r ∈ context.document.references)
    (resolved : Reference.resolve context.document r = .ok target) :
    context.Sound (Scope.restart r) (Node.decode target) where
  made := made
  distinct := List.nodup_singleton r
  resolved s member := ⟨target, by rwa [List.mem_singleton.mp member]⟩
  listed s member := by rwa [List.mem_singleton.mp member]
  linked := List.isChain_singleton r
  last s found := by
    obtain rfl : r = s := Option.some.inj found
    exact holds_target resolved

theorem sound_document : context.Sound rootScope (Node.decode context.document) :=
  sound_restart (.enter .fresh rootReference) (.inl rfl) (resolve_root context.document)

theorem sound_peer (sound : context.Sound scope node) (member : inner ∈ node.peers) : context.Sound scope inner :=
  { sound with
    last := fun r found => by
      obtain ⟨target, resolved, beside⟩ := sound.last r found
      exact ⟨target, resolved, beside.tail member⟩ }

theorem sound_descend (sound : context.Sound scope node) : context.Sound scope.descend inner where
  made := .descend sound.made
  distinct := sound.distinct
  resolved := sound.resolved
  listed := sound.listed
  linked := List.isChain_nil
  last := nofun

theorem sound_enter (sound : context.Sound scope node) (named : node.own.reference = some r)
    (listed : r ∈ context.document.references) (fresh : r ∉ scope.stack)
    (resolved : Reference.resolve context.document r = .ok target) :
    context.Sound (scope.enter r) (Node.decode target) where
  made := .enter sound.made r
  distinct := by
    refine List.nodup_append.mpr ⟨sound.distinct, List.nodup_singleton r, fun s old t new same => fresh ?_⟩
    rwa [same, List.mem_singleton.mp new] at old
  resolved s member := by
    rcases List.mem_append.mp member with old | new
    · exact sound.resolved s old
    · exact ⟨target, by rwa [List.mem_singleton.mp new]⟩
  listed s member := by
    rcases List.mem_append.mp member with old | new
    · exact sound.listed s old
    · exact .inr (by rwa [List.mem_singleton.mp new])
  linked := by
    refine List.isChain_append.mpr ⟨sound.linked, List.isChain_singleton r, fun s last t first => ?_⟩
    obtain rfl : r = t := Option.some.inj first
    obtain ⟨outer, found, beside⟩ := sound.last s last
    exact ⟨outer, found, beside_here beside named⟩
  last s found := by
    obtain rfl : r = s := by simpa [Scope.enter] using found
    exact holds_target resolved

theorem calls_sound (called : context.Calls scope node) : context.Sound scope node := by
  induction called with
  | document => exact sound_document
  | peer _ member ih => exact sound_peer ih member
  | child _ _ ih => exact sound_descend ih
  | @reference scope node r target outer named first resolved ih =>
      have listed := calls_listed outer named
      by_cases above : r ∈ scope.stack
      · rw [Scope.next, if_pos above]
        exact sound_restart (.restart ih.made r) (.inr listed) resolved
      · rw [Scope.next, if_neg above]
        exact sound_enter ih named listed above resolved

theorem sound_bounded (sound : context.Sound scope node) :
    scope.stack.length ≤ context.document.references.dedup.length + 1 := by
  have inside : scope.stack ⊆ rootReference :: context.document.references.dedup := by
    intro r member
    rcases sound.listed r member with rfl | found
    · exact List.mem_cons_self
    · exact List.mem_cons_of_mem _ (List.mem_dedup.mpr found)
  exact (sound.distinct.subperm inside).length_le

end Context

theorem scopes_sound (schema : Schema) :
    (∀ scope : Scope, scope.Made → scope.level <:+ scope.stack) ∧
    (∀ value, schema.validateWatched (fun _ _ => .result ()) value = schema.validate value) ∧
    ∀ value scope node, schema.Compiles value scope node →
      schema.context.Sound scope node ∧ scope.stack.length ≤ schema.document.references.dedup.length + 1 := by
  refine ⟨fun _ made => made_suffix made, ?_, fun value scope node compiles => ?_⟩
  · exact validate_watched_quiet schema _ fun _ _ _ => rfl
  · have sound := Context.calls_sound (compiles_calls compiles)
    exact ⟨sound, Context.sound_bounded sound⟩

theorem watched_alone {visit : Visit} {formats : Formats} {refer : Expansion} {node : Node} {scope : Scope}
    (quiet : visit scope node = .result ()) (before after : Nat) (group : Traced (List Check))
    (alone : node.groupsOver (fun scope inner => inner.watchedCheck visit formats refer scope) formats refer scope =
      List.replicate before (.result []) ++ [group] ++ List.replicate after (.result [])) :
    node.watchedCheck visit formats refer scope = group.andThen fun checks => .result (Check.all checks) := by
  rw [Node.watchedCheck, watched_eq, quiet, Logged.result_and_then, alone, Logged.joined_padded, Logged.joined_one]

theorem validate_watched_outcome (visit : Visit) (schema : Schema) (value : Json) :
    (schema.validateWatched visit value).outcome =
      ((schema.root.watchedCheck visit schema.formats (referWatched visit schema.context) rootScope).andThen fun check =>
        check value).outcome := by
  simp only [validateWatched, compileWatched, Node.watchedCheck, Logged.bind_eq, Logged.and_then_assoc,
    Logged.and_then_outcome]
  rfl

theorem waiting_compiled :
    let list := Json.object [("items", .object [("$ref", .string "#/definitions/list")])]
    let schema := ofDocument
      (.object [("$ref", .string "#/definitions/list"), ("definitions", .object [("list", list)])]) []
    schema.Compiles (.array [.null]) (Scope.restart "#/definitions/list") (Node.decode list) := by
  classical
  intro list schema
  let item := Node.decode (.object [("$ref", .string "#/definitions/list")])
  let entered := rootScope.enter "#/definitions/list"
  let waiting := Scope.restart "#/definitions/list"
  let visit : Visit := fun s n => if s = waiting ∧ n = Node.decode list then .fault .exhausted else .result ()
  have quiet : ∀ s n, s ≠ waiting → visit s n = .result () := fun s n other => if_neg fun same => other same.1
  refine ⟨visit, fun s n done => by_contra fun other => done (if_neg other), fun same => ?_⟩
  let later := laterWatched visit schema.context "#/definitions/list" (Node.decode list)
  let refer := expandWatched visit schema.context (laterWatched visit schema.context) 3
  have inner : item.watchedCheck visit schema.formats refer entered.descend = .result (Check.all [later]) :=
    watched_alone (quiet _ item (by decide)) 0 22 (.result [later]) rfl
  have outer : (Node.decode list).watchedCheck visit schema.formats refer entered =
      .result (Check.all [Check.items (Check.all [later])]) := by
    have alone := watched_alone (quiet entered (Node.decode list) (by decide)) 16 6
      ((item.watchedCheck visit schema.formats refer entered.descend).andThen fun check => .result [Check.items check]) rfl
    rw [alone, inner]
    rfl
  have root : schema.root.watchedCheck visit schema.formats (referWatched visit schema.context) rootScope =
      .result (Check.all [Check.all [Check.items (Check.all [later])]]) := by
    have alone : schema.root.watchedCheck visit schema.formats (referWatched visit schema.context) rootScope = _ :=
      watched_alone (quiet rootScope schema.root (by decide)) 0 22
        (((Node.decode list).watchedCheck visit schema.formats refer entered).andThen fun check => .result [check]) rfl
    rw [alone, outer]
    rfl
  have stopped : later .null = .fault .exhausted := by
    have head : visit waiting (Node.decode list) = .fault .exhausted := if_pos ⟨rfl, rfl⟩
    change ((Node.decode list).watchedCheck visit schema.formats _ waiting).andThen _ = _
    rw [Node.watchedCheck, watched_eq, head]
    rfl
  have failed : (schema.validateWatched visit (.array [.null])).outcome = .error .exhausted := by
    rw [validate_watched_outcome, root]
    simp only [Logged.result_and_then, Check.all, Check.outcomes, Check.items, Logged.each, stopped]
    rfl
  have accepted : (schema.validate (.array [.null])).outcome = .ok [] := by rfl
  rw [same, accepted] at failed
  cases failed

theorem scopes_sound_for_waiting :
    let list := Json.object [("items", .object [("$ref", .string "#/definitions/list")])]
    let schema := ofDocument
      (.object [("$ref", .string "#/definitions/list"), ("definitions", .object [("list", list)])]) []
    let waiting := Scope.restart "#/definitions/list"
    waiting.Made ∧ waiting.level <:+ waiting.stack ∧ schema.Compiles (.array [.null]) waiting (Node.decode list) ∧
      schema.context.Sound waiting (Node.decode list) ∧
      waiting.stack.length ≤ schema.document.references.dedup.length + 1 := by
  intro list schema waiting
  have made : waiting.Made := .restart .fresh "#/definitions/list"
  have compiles : schema.Compiles (.array [.null]) waiting (Node.decode list) := waiting_compiled
  obtain ⟨suffix, _, sound⟩ := scopes_sound schema
  exact ⟨made, suffix waiting made, compiles, sound (.array [.null]) waiting (Node.decode list) compiles⟩

end Conform.Schema
