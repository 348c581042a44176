import Conform.Proofs.Endings
import Conform.Proofs.Keywords

set_option autoImplicit false

namespace Conform.Schema

def Barred (level : List String) (value : Json) (r : String) (part : Json) : Prop :=
  part = value ∧ r ∈ level

abbrev Derivable (context : Context) : Judgement → Prop :=
  Derives context fun _ _ => False

section Decided

variable {context : Context} {refer : Expansion} {barred : String → Json → Prop}

theorem check_decided (node : Node) (plain : ∀ inner, node.Nested inner → inner.oneOf = none ∧ inner.negation = none)
    (scope : Scope) (value : Json)
    (here : ∀ r, node.Here r → Decides ((refer scope r).andThen fun check => check value)
      (Derivable context (.reference r value)) (Derives context barred (.reference r value)))
    (below : ∀ r part, node.Below r → part.depth < value.depth →
      Decides ((refer scope.descend r).andThen fun check => check part)
        (Derivable context (.reference r part)) (Derives context barred (.reference r part))) :
    node.Decided context.formats refer (Derivable context) (Derives context barred) scope value := by
  -- What the references decide at the value and below it is all that is used of how they are
  -- compiled, so the induction on the schema needs nothing about scopes.
  induction node using node_induction generalizing scope value with
  | step node peers children =>
      refine decides_iff (node_decided (plain node (.self node)) (fun r named => here r (.own named)) (fun inner member => ?_)
        (fun inner member part inside => ?_) (fun nodes => (derives_some nodes value).mpr)
        fun nodes => (derives_some nodes value).mp) (derives_schema node value).mpr (derives_schema node value).mp
      · exact peers inner member (fun deep nested => plain deep (.peer member nested)) scope value
          (fun r met => here r (.peer member met)) fun r part met => below r part (.peer member met)
      · have smaller := Json.depth_part value part inside
        refine children inner member (fun deep nested => plain deep (.child member nested)) scope.descend part ?_ ?_
        · exact fun r met => below r part (.child member met) smaller
        · exact fun r deep met less => below r deep (.deeper member met) (Nat.lt_trans less smaller)

theorem circular_decided {scope : Scope} {r : String} (again : r ∈ scope.level) (value : Json) :
    Decides (context.run scope r value) (Derivable context (.reference r value))
      (Derives context (Barred scope.level value) (.reference r value)) := by
  rw [Context.run, refer_circular again, circular_eq, Logged.and_then_assoc]
  constructor
  · intro accepted
    cases accepted
  · intro derived
    cases derived with
    | reference free _ _ => exact absurd ⟨rfl, again⟩ free

theorem unresolved_decided {scope : Scope} {r : String} {fault : Reference.Fault} (first : r ∉ scope.level)
    (failed : Reference.resolve context.document r = .error fault) (value : Json) :
    Decides (context.run scope r value) (Derivable context (.reference r value))
      (Derives context (Barred scope.level value) (.reference r value)) := by
  rw [Context.run, refer_unresolved first failed, unresolved_eq, Logged.and_then_assoc]
  constructor
  · intro accepted
    obtain ⟨message, _, last⟩ := (Logged.and_then_ok _ _ _).mp accepted
    cases last
  · intro derived
    cases derived with
    | reference _ resolved _ => cases failed.symm.trans resolved

theorem target_derives {scope : Scope} {r : String} {target : Json} {value : Json}
    (resolved : Reference.resolve context.document r = .ok target)
    (derived : Derives context (Barred scope.level value) (.reference r value)) :
    Derives context (Barred (scope.next r).level value) (.schema (Node.decode target) value) := by
  -- A derivation of a reference needs the reference only once, so its target is derived without it; that is
  -- what the next level bars.
  refine derives_fewer (fun s part held => ?_) (derives_target derived resolved)
  obtain ⟨same, member⟩ := held
  rcases next_level member with old | new
  · exact .inl ⟨same, old⟩
  · exact .inr ⟨new, same⟩

theorem derives_below {level : List String} {value : Json} {s : String} {part : Json}
    (derived : Derives context (Barred level value) (.reference s part)) :
    Derives context (Barred [] part) (.reference s part) :=
  derives_fewer (fun _ _ held => absurd held.2 List.not_mem_nil) derived

theorem target_decided (affirmative : context.document.Affirmative) {scope : Scope} {r : String} {target value : Json}
    (reachable : context.Reachable r) (resolved : Reference.resolve context.document r = .ok target)
    (here : ∀ s, (Node.decode target).Here s → Decides (context.run (scope.next r) s value)
      (Derivable context (.reference s value)) (Derives context (Barred (scope.next r).level value) (.reference s value)))
    (below : ∀ s part, (Node.decode target).Below s → part.depth < value.depth →
      Decides (context.run (scope.next r).descend s part) (Derivable context (.reference s part))
        (Derives context (Barred [] part) (.reference s part))) :
    Decides (((Node.decode target).check context.formats (Schema.refer context) (scope.next r)).andThen fun check => check value)
      (Derivable context (.reference r value)) (Derives context (Barred scope.level value) (.reference r value)) := by
  have plain : ∀ inner, (Node.decode target).Nested inner → inner.oneOf = none ∧ inner.negation = none :=
    fun inner nested => compiled_affirmed affirmative ⟨r, target, reachable, resolved, nested⟩
  have decided := check_decided (Node.decode target) plain (scope.next r) value here fun s part met smaller =>
    decides_iff (below s part met smaller) id derives_below
  exact decides_iff decided (.reference nofun resolved) (target_derives resolved)

theorem run_decided (affirmative : context.document.Affirmative) (scope : Scope) (r : String) (value : Json)
    (listed : r ∈ context.document.references) (reachable : context.Reachable r) :
    Decides (context.run scope r value) (Derivable context (.reference r value))
      (Derives context (Barred scope.level value) (.reference r value)) := by
  refine run_induction (motive := fun scope r value => context.Reachable r → Decides (context.run scope r value)
    (Derivable context (.reference r value)) (Derives context (Barred scope.level value) (.reference r value)))
    (fun scope r value listed here below reachable => ?_) scope r value listed reachable
  by_cases again : r ∈ scope.level
  · exact circular_decided again value
  · cases resolved : Reference.resolve context.document r with
    | error fault => exact unresolved_decided again resolved value
    | ok target =>
        rw [run_step listed again resolved]
        refine target_decided affirmative reachable resolved (fun s met => ?_) fun s part met smaller => ?_
        · exact here target s again resolved met (Context.reachable_next reachable resolved (.inl met))
        · exact below target s part again resolved met smaller (Context.reachable_next reachable resolved (.inr met))

theorem root_decided (context : Context) (affirmative : context.document.Affirmative) (value : Json) :
    Decides (((Node.decode context.document).check context.formats (Schema.refer context) rootScope).andThen fun check =>
      check value) (Accepts context (Node.decode context.document) value)
      (Accepts context (Node.decode context.document) value) := by
  have resolved := Context.resolve_root context.document
  have met : ∀ s, (Node.decode context.document).Here s ∨ (Node.decode context.document).Below s →
      s ∈ context.document.references ∧ context.Reachable s :=
    fun s found => ⟨Context.target_reference_listed resolved found, .single (Context.leads_of_met resolved found)⟩
  -- The document is compiled as the target of the reference to itself.
  have decided : Decides (((Node.decode context.document).check context.formats (Schema.refer context)
      (({} : Scope).next rootReference)).andThen fun check => check value) _ _ :=
    target_decided affirmative .refl resolved
      (fun s here => run_decided affirmative _ s value (met s (.inl here)).1 (met s (.inl here)).2)
      fun s part below _ => run_decided affirmative _ s part (met s (.inr below)).1 (met s (.inr below)).2
  refine decides_iff decided (fun derived => ?_) fun accepts => ?_
  · cases derived with
    | reference _ found holds =>
        cases found.symm.trans resolved
        exact holds
  · exact .reference (fun held => absurd held.2 List.not_mem_nil) resolved
      (derives_fewer (fun _ _ held => absurd held.2 List.not_mem_nil) accepts)

end Decided

theorem valid_iff_derivable (document : Json) (extras : Formats) (affirmative : document.Affirmative) :
    let schema := ofDocument document extras
    (∀ value found, (schema.validate value).outcome = .ok found →
      (found = [] ↔ Accepts schema.context schema.root value)) ∧
    (schema.context.Legible → ∀ value fault, (schema.validate value).outcome = .error fault →
      Fails schema.context extras value fault) ∧
    (schema.context.Legible → schema.context.ShortIndices → document.isWritable = true →
      (extras.Every fun check => ∀ part, (check part).Returns) → ∀ value, value.isWritable = true →
        schema.context.Uncrossed value →
          ((schema.validate value).outcome = .ok [] ↔ Accepts schema.context schema.root value)) := by
  intro schema
  have verdict : ∀ value found, (schema.validate value).outcome = .ok found →
      (found = [] ↔ Accepts schema.context schema.root value) := by
    intro value found returned
    have decided := root_decided schema.context affirmative value
    rw [validate_run] at returned
    constructor
    · rintro rfl
      exact decided.sound returned
    · exact fun accepts => decided.complete accepts found returned
  refine ⟨verdict, fun legible value fault => validation_fails legible, fun legible short written supplied value shown uncrossed => ?_⟩
  obtain ⟨found, returned⟩ := validation_returns legible short ⟨written, shown⟩ uncrossed supplied
  rw [returned, ← verdict value found returned]
  exact ⟨fun same => Except.ok.inj same, fun none => none ▸ rfl⟩

theorem valid_iff_derivable_for_choices :
    let document := Json.object [("anyOf", .array [.object [("$ref", .string "#")], .object [("type", .string "string")],
      .object [("type", .string "array"), ("items", .object [("$ref", .string "#")])]])]
    let schema := ofDocument document []
    document.Affirmative ∧ Accepts schema.context schema.root (.array [.string "a"]) ∧
      ¬ Accepts schema.context schema.root (.array [.null]) ∧ schema.context.Uncrossed (.array [.array []]) ∧
      ((schema.validate (.array [.array []])).outcome = .ok [] ↔ Accepts schema.context schema.root (.array [.array []])) := by
  intro document schema
  have affirmative : document.Affirmative := by simp [document, hasMember, member?]
  obtain ⟨verdict, _, decides⟩ := valid_iff_derivable document [] affirmative
  have accepted : (schema.validate (.array [.string "a"])).outcome = .ok [] := by rfl
  have found : ∃ message rest, (schema.validate (.array [.null])).outcome = .ok (message :: rest) := ⟨_, _, rfl⟩
  obtain ⟨message, rest, rejected⟩ := found
  have compiled : schema.compile.Returns := ⟨_, rfl⟩
  obtain ⟨legible, _, short⟩ := compile_reads_all schema compiled
  have uncrossed : schema.context.Uncrossed (.array [.array []]) := by
    intro node part source text pattern _ contained searched
    have lists : part = .array [.array []] ∨ part = .array [] := by
      cases contained with
      | self => exact .inl rfl
      | part member inside =>
          obtain rfl := List.mem_singleton.mp member
          cases inside with
          | self => exact .inr rfl
          | part member _ => exact absurd member List.not_mem_nil
    rcases lists with rfl | rfl <;> cases searched
  exact ⟨affirmative, (verdict _ _ accepted).mp rfl, fun accepts => List.cons_ne_nil _ _ ((verdict _ _ rejected).mpr accepts),
    uncrossed, decides legible short (by decide) (fun _ _ member => absurd member List.not_mem_nil) _ (by decide) uncrossed⟩

end Conform.Schema
