import Conform.Proofs.Visits

set_option autoImplicit false

namespace Conform

def Formats.Notes (registry : Formats) (entry : Entry) : Prop :=
  ∃ name check value, (name, some check) ∈ registry ∧ entry ∈ (check value).log

namespace Schema

def circularWarning (r : String) : Entry :=
  ⟨.warning, .reference, circularMessage r⟩

theorem circular_warning_names {r s : String} (same : circularWarning r = circularWarning s) : r = s := by
  have text : circularMessage r = circularMessage s := congrArg Entry.text same
  unfold circularMessage at text
  exact (String.append_right_inj _).mp ((String.append_left_inj _).mp text)

theorem complaint_no_warning (r s : String) (fault : Reference.Fault) : circularWarning s ∉ (complaint r fault).log := by
  have starts : ∀ text, circularMessage s ≠ "Unresolvable $ref: " ++ text := by
    intro text same
    have whole := congrArg String.toList same
    unfold circularMessage at whole
    rw [String.toList_append, String.toList_append, String.toList_append] at whole
    exact absurd (List.cons.inj whole).1 (by decide)
  intro warned
  cases fault with
  | remote => exact starts _ (congrArg Entry.text (List.mem_singleton.mp warned))
  | notFound step => exact starts _ (congrArg Entry.text (List.mem_singleton.mp warned))
  | tooManyDigits count => exact absurd warned List.not_mem_nil

theorem read_pattern_origin (what source : String) (entry : Entry)
    (noted : entry ∈ (Keyword.readPattern what source).log) : entry.origin = .keywords := by
  unfold Keyword.readPattern at noted
  split at noted
  case h_2 => exact congrArg Entry.origin (List.mem_singleton.mp noted)
  all_goals exact absurd noted List.not_mem_nil

theorem is_found_silent (pattern : Pattern) (text : String) : (Keyword.isFound pattern text).log = [] := by
  unfold Keyword.isFound
  split <;> rfl

namespace Context

variable (context : Context)

inductive Meets : Scope → String → Prop where
  | document : Meets {} rootReference
  | same {scope : Scope} {r s : String} {target : Json} (outer : Meets scope r) (first : r ∉ scope.level)
      (resolved : Reference.resolve context.document r = .ok target) (met : (Node.decode target).Here s) :
      Meets (scope.next r) s
  | inside {scope : Scope} {r s : String} {target : Json} (outer : Meets scope r) (first : r ∉ scope.level)
      (resolved : Reference.resolve context.document r = .ok target) (met : (Node.decode target).Below s) :
      Meets (scope.next r).descend s

variable {context}

theorem meets_reachable {scope : Scope} {r : String} (meets : context.Meets scope r) : context.Reachable r := by
  induction meets with
  | document => exact .refl
  | same _ _ resolved met ih => exact reachable_next ih resolved (.inl met)
  | inside _ _ resolved met ih => exact reachable_next ih resolved (.inr met)

theorem meets_level {scope : Scope} {r s : String} (meets : context.Meets scope r) (member : s ∈ scope.level) :
    Relation.TransGen context.Same s r := by
  -- The level holds only references that lead to the one that is met, all at the same value.
  induction meets with
  | document => exact absurd member List.not_mem_nil
  | @same scope r t target _ _ resolved met ih =>
      have edge : context.Same r t := ⟨target, resolved, met⟩
      rcases next_level member with old | rfl
      · exact (ih old).tail edge
      · exact .single edge
  | inside => exact absurd member List.not_mem_nil

end Context

def Truthful (context : Context) (extras : Formats) (entry : Entry) : Prop :=
  ∀ r, entry = circularWarning r → context.Reachable r ∧ context.Circular r ∨ extras.Notes entry

abbrev truthful (context : Context) (extras : Formats) : Comparison :=
  .identical (Truthful context extras) fun _ => True

section Truthful

variable {context : Context} {extras : Formats}

theorem truthful_fine {α : Type} {x : Traced α} (entries : ∀ entry ∈ x.log, Truthful context extras entry) :
    (truthful context extras).Fine x :=
  Comparison.identical_fine.mpr ⟨entries, fun _ _ => trivial⟩

theorem silent_fine {α : Type} {x : Traced α} (silent : x.log = []) : (truthful context extras).Fine x :=
  truthful_fine fun _ noted => absurd (silent ▸ noted) List.not_mem_nil

theorem other_origin_fine {α : Type} {x : Traced α} (others : ∀ entry ∈ x.log, entry.origin ≠ .reference) :
    (truthful context extras).Fine x := by
  refine truthful_fine fun entry noted r same => ?_
  subst same
  exact absurd rfl (others _ noted)

theorem note_fine (level : Level) (origin : Origin) (text : String) (other : origin ≠ .reference) :
    (truthful context extras).Fine (Logged.note level origin text) :=
  other_origin_fine fun _ noted => by rwa [List.mem_singleton.mp noted]

theorem truthful_applies (document : Json) (extras : Formats) : Applies (ofDocument document extras).context
    (truthful (ofDocument document extras).context extras) (ofDocument document extras).context.Meets := by
  refine fun _ _ _ _ _ inner _ => ⟨fun _ _ text pattern _ _ _ => silent_fine (is_found_silent pattern text),
    fun check member value _ => silent_fine (judge_silent member value), fun name check _ found value _ => ?_⟩
  have noted : (Formats.extend extras).Every fun check => ∀ value, ∀ entry ∈ (check value).log, extras.Notes entry :=
    Formats.every_extend (fun _ _ _ noted => absurd noted List.not_mem_nil) extras
      fun name check member value entry noted => ⟨name, check, value, member, noted⟩
  exact truthful_fine fun entry member _ _ => .inr (Formats.every_found noted name check found value entry member)

theorem truthful_kept (context : Context) (extras : Formats) :
    Invariant context (truthful context extras) context.Meets where
  circular scope r meets again := by
    refine truthful_fine fun entry noted s same => .inl ?_
    obtain rfl : entry = circularWarning r := List.mem_singleton.mp noted
    rw [← circular_warning_names same]
    exact ⟨Context.meets_reachable meets, Context.meets_level meets again⟩
  unresolved scope r fault _ _ := by
    refine truthful_fine fun entry noted s same => ?_
    rw [same] at noted
    exact absurd noted (complaint_no_warning r s fault)
  readable _ _ _ _ _ _ _ := by
    have fine : ∀ what source, (truthful context extras).Fine (Keyword.readPattern what source) := by
      intro what source
      refine other_origin_fine fun entry noted => ?_
      rw [read_pattern_origin what source entry noted]
      decide
    exact ⟨fun source _ => fine _ source, fun source _ => fine _ source,
      fun numbers _ => silent_fine (Keyword.write_silent numbers), fun _ => note_fine _ _ _ (by decide)⟩
  here _ _ _ _ meets first resolved here := .same meets first resolved here
  below _ _ _ _ meets first resolved below := .inside meets first resolved below

theorem validation_truthful (document : Json) (extras : Formats) (value : Json) :
    ∀ entry ∈ ((ofDocument document extras).validate value).log,
      Truthful (ofDocument document extras).context extras entry := by
  have fine := validate_fine (ofDocument document extras) (truthful_applies document extras) (truthful_kept _ extras)
    (fun text => note_fine _ _ text (by decide)) .document value
  exact (Comparison.identical_fine.mp fine).1

theorem compilation_truthful (schema : Schema) : ∀ entry ∈ schema.compile.log, Truthful schema.context [] entry := by
  have kept := truthful_kept schema.context []
  have related := compile_fine schema (anything_applies schema.context _) kept (anything_kept kept)
    (fun text => note_fine _ _ text (by decide)) .document 0
  exact (Comparison.identical_left related).1

end Truthful

namespace Context

variable {context : Context}

theorem expands_self {scope : Scope} {r : String} (expands : context.Expands scope r) : r ∈ scope.level := by
  cases expands with
  | root => exact List.mem_singleton_self _
  | same => exact List.mem_append_right _ (List.mem_singleton_self _)
  | inside => exact List.mem_append_right _ (List.mem_singleton_self _)

theorem expands_warns {scope : Scope} {r s : String} (expands : context.Expands scope r) (edge : context.Same r s)
    (again : s ∈ scope.level) :
    ((Node.decode context.document).checks context.formats (refer context) rootScope).Runs (circular s) := by
  obtain ⟨target, resolved, here⟩ := edge
  have met := Logged.runs_trans (expands_run expands resolved) (checks_run_here here)
  rwa [refer_circular again] at met

theorem cycle_warns {scope : Scope} {a r : String} (path : Relation.TransGen context.Same a r)
    (back : Relation.ReflTransGen context.Same r a) (expands : context.Expands scope a) (start : r ∈ scope.level)
    (none : ∀ t ∈ scope.stack, context.Circular t → t ∈ scope.level) :
    ∃ t, ((Node.decode context.document).checks context.formats (refer context) rootScope).Runs (circular t) := by
  -- Follow the cycle. Where no circular reference waits, each next one is expanded, until one is met again.
  induction path using Relation.TransGen.head_induction_on generalizing scope with
  | single edge => exact ⟨r, expands_warns expands edge start⟩
  | @head a b edge rest ih =>
      by_cases again : b ∈ scope.level
      · exact ⟨b, expands_warns expands edge again⟩
      · obtain ⟨target, resolved, here⟩ := edge
        have around := back.tail ⟨target, resolved, here⟩
        have fresh : b ∉ scope.stack := fun member => again (none b member (rest.trans_left around))
        obtain ⟨_, ⟨inner, found, _⟩, _⟩ := Relation.TransGen.head'_iff.mp rest
        refine ih around (.same expands resolved here fresh found) (List.mem_append_left _ start) fun t member circular => ?_
        rcases List.mem_append.mp member with old | new
        · exact List.mem_append_left _ (none t old circular)
        · exact List.mem_append_right _ new

theorem circular_warns {scope : Scope} {r : String} (expands : context.Expands scope r) (circular : context.Circular r) :
    ∃ t, ((Node.decode context.document).checks context.formats (refer context) rootScope).Runs
      (Schema.circular t) := by
  -- Among the circular references take one that is expanded under as few others as possible: none of those waits.
  induction size : scope.stack.length using Nat.strong_induction_on generalizing scope r with
  | _ size ih =>
      subst size
      by_cases none : ∀ t ∈ scope.stack, context.Circular t → t ∈ scope.level
      · exact cycle_warns circular .refl expands (expands_self expands) none
      · push Not at none
        obtain ⟨t, member, circle, away⟩ := none
        rcases expands_stack expands member with rfl | ⟨outer, expanded, shorter⟩
        · exact absurd (expands_self expands) away
        · exact ih _ shorter expanded circle rfl

end Context

theorem circularity_reported (document : Json) (extras : Formats) :
    let schema := ofDocument document extras
    let context := schema.context
    (∀ r, circularWarning r ∈ schema.compile.log → context.Circular r) ∧
    (∀ value r, circularWarning r ∈ (schema.validate value).log →
      context.Circular r ∨ extras.Notes (circularWarning r)) ∧
    (∀ scope r, context.Meets scope r → r ∈ scope.level → refer context scope r = circular r ∧ context.Circular r) ∧
    (context.Legible → context.Writable → context.ShortIndices → schema.compile.Returns) ∧
    (schema.compile.Returns → (∃ r, context.Reachable r ∧ context.Circular r) →
      ∃ r, circularWarning r ∈ schema.compile.log) ∧
    (context.Guarded → (∀ scope r, context.Meets scope r → r ∉ scope.level) ∧
      ∀ value r, circularWarning r ∈ (schema.validate value).log → extras.Notes (circularWarning r)) := by
  intro schema context
  refine ⟨?_, ?_, ?_, compile_returns schema, ?_, fun guarded => ⟨?_, ?_⟩⟩
  · intro r warned
    rcases compilation_truthful schema _ warned r rfl with ⟨_, circular⟩ | ⟨name, check, value, member, _⟩
    · exact circular
    · exact absurd member List.not_mem_nil
  · exact fun value r warned => (validation_truthful document extras value _ warned r rfl).imp_left And.right
  · exact fun scope r meets again => ⟨refer_circular again, Context.meets_level meets again⟩
  · rintro returned ⟨r, reachable, circular⟩
    obtain ⟨s, ⟨target, resolved, _⟩, _⟩ := Relation.TransGen.head'_iff.mp circular
    obtain ⟨scope, expanded⟩ := Context.reachable_expands reachable resolved
    obtain ⟨t, runs⟩ := Context.circular_warns expanded circular
    have whole : schema.compile.Runs (schema.root.checks schema.formats (refer context) rootScope) := Logged.runs_first _ _
    exact ⟨t, (Logged.runs_trans whole runs returned).2 (List.mem_singleton_self _)⟩
  · exact fun scope r meets again => guarded r (Context.meets_reachable meets) (Context.meets_level meets again)
  · intro value r warned
    refine (validation_truthful document extras value _ warned r rfl).resolve_left ?_
    exact fun ⟨reachable, circular⟩ => guarded r reachable circular

theorem circularity_reported_for_negation :
    let loop := Json.object [("not", .object [("$ref", .string "#/definitions/loop")])]
    let document := Json.object [("items", .object [("$ref", .string "#/definitions/loop")]),
      ("definitions", .object [("loop", loop)])]
    let schema := ofDocument document []
    schema.compile.Returns ∧ schema.context.Reachable "#/definitions/loop" ∧ schema.context.Circular "#/definitions/loop" ∧
      ∃ r, circularWarning r ∈ schema.compile.log := by
  intro loop document schema
  have named : (Node.decode (.object [("$ref", .string "#/definitions/loop")])).Here "#/definitions/loop" := .own rfl
  have circular : schema.context.Circular "#/definitions/loop" :=
    .single ⟨loop, rfl, .peer (show Node.decode (.object [("$ref", .string "#/definitions/loop")]) ∈ (Node.decode loop).peers from
      List.mem_singleton_self _) named⟩
  have reachable : schema.context.Reachable "#/definitions/loop" :=
    .single (.inr ⟨document, Context.resolve_root _, .child
      (show Node.decode (.object [("$ref", .string "#/definitions/loop")]) ∈ (Node.decode document).children from
        List.mem_singleton_self _) named⟩)
  have returned : schema.compile.Returns := ⟨_, rfl⟩
  obtain ⟨_, _, _, _, reported, _⟩ := circularity_reported document []
  exact ⟨returned, reachable, circular, reported returned ⟨_, reachable, circular⟩⟩

end Schema

end Conform
