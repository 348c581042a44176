import Conform.Proofs.Expansion
import Conform.Proofs.Rereading

set_option autoImplicit false

namespace Conform.Schema

open Comparison (results)

def Node.Likened (L : Likeness) (formats : Formats) (refer refer' : Expansion) (node other : Node) : Prop :=
  ∀ scope, results.relates L.Judges (node.check formats refer scope) (other.check formats refer' scope)

structure Referred (L : Likeness) (formats : Formats) (refer refer' : Expansion) : Prop where
  references : ∀ scope r, results.relates L.Judges (refer scope r) (refer' scope r)
  formats : formats.Every fun check => L.Judges check check

section Groups

variable {L : Likeness} {formats : Formats} {refer refer' : Expansion} {node other : Node} {own own' : Assertions}

abbrev GroupsLike (L : Likeness) (group other : Traced (List Check)) : Prop :=
  results.relates (Shuffled L.Judges) group other

theorem no_check_like : GroupsLike L (.result []) (.result []) :=
  results.result (shuffled_of_related .nil)

theorem one_check_like {c d : Check} (judged : L.Judges c d) : GroupsLike L (.result [c]) (.result [d]) :=
  results.result (shuffled_of_related (.cons judged .nil))

theorem single_like {x y : Traced Check} {c d : Check → Check} (related : results.relates L.Judges x y)
    (lifted : ∀ a b, L.Judges a b → L.Judges (c a) (d b)) :
    GroupsLike L (x.andThen fun check => .result [c check]) (y.andThen fun check => .result [d check]) :=
  results.andThen related fun a b judged => one_check_like (lifted a b judged)

theorem given_like {α : Type} {t : α → α → Prop} {a b : Option α} {check check' : α → Check} (related : Option.Rel t a b)
    (judges : ∀ a b, t a b → L.Judges (check a) (check' b)) : GroupsLike L (whenGiven a check) (whenGiven b check') := by
  cases related with
  | none => exact no_check_like
  | some holds => exact one_check_like (judges _ _ holds)

theorem given_same {α : Type} (a : Option α) {check : α → Check} (judges : ∀ a, L.Judges (check a) (check a)) :
    GroupsLike L (whenGiven a check) (whenGiven a check) := by
  cases a with
  | none => exact no_check_like
  | some a => exact one_check_like (judges a)

theorem written_like {α : Type} {t : α → α → Prop} {a b : Option α} {shown : α → List Number} {check check' : α → Check}
    (related : Option.Rel t a b) (same : ∀ a b, t a b → Keyword.write (shown a) = Keyword.write (shown b))
    (judges : ∀ a b, t a b → L.Judges (check a) (check' b)) :
    GroupsLike L (whenWritten a shown check) (whenWritten b shown check') := by
  cases related with
  | none => exact no_check_like
  | some holds =>
      rw [whenWritten, whenWritten, same _ _ holds]
      exact Comparison.and_then_fine (Comparison.results_fine _) fun _ => one_check_like (judges _ _ holds)

theorem written_same {α : Type} (a : Option α) {shown : α → List Number} {check : α → Check}
    (judges : ∀ a, L.Judges (check a) (check a)) : GroupsLike L (whenWritten a shown check) (whenWritten a shown check) := by
  cases a with
  | none => exact no_check_like
  | some a => exact Comparison.and_then_fine (Comparison.results_fine _) fun _ => one_check_like (judges a)

theorem pattern_checks_like (source : Option String) : GroupsLike L (patternChecks source) (patternChecks source) := by
  cases source with
  | none => exact no_check_like
  | some source => exact single_like (Keyword.pattern_judged source) fun _ _ judged => judged

theorem multiples_like (alike : own.Like L own') :
    GroupsLike L (whenWritten own.multipleOf Keyword.badDivisors Keyword.multipleOf)
      (whenWritten own'.multipleOf Keyword.badDivisors Keyword.multipleOf) := by
  rw [← alike.multipleOf.1]
  rcases alike.multipleOf.2 with texts | none
  · exact written_same _ fun divisor => Keyword.judges_multiple_of texts divisor
  · rw [none]
    exact no_check_like

theorem plain_checks_like (alike : own.Like L own') :
    List.Forall₂ (GroupsLike L) (plainChecks own) (plainChecks own') := by
  have multiples := multiples_like alike
  rw [plainChecks, plainChecks, ← alike.maxLength, ← alike.minLength, ← alike.pattern, ← alike.exclusiveMinimum,
    ← alike.exclusiveMaximum, ← alike.minItems, ← alike.maxItems, ← alike.uniqueItems]
  refine .cons (given_like alike.values fun _ _ => Keyword.judges_enum)
    (.cons (written_same _ fun _ => Keyword.judges_length _ _) (.cons (written_same _ fun _ => Keyword.judges_length _ _)
    (.cons (pattern_checks_like _) (.cons multiples (.cons ?_ (.cons ?_
    (.cons (written_same _ fun _ => Keyword.judges_item_count _ _) (.cons (written_same _ fun _ => Keyword.judges_item_count _ _)
    (.cons (given_same _ fun _ => Keyword.judges_unique_items) .nil)))))))))
  · exact written_like alike.minimum (fun _ _ => Keyword.write_like) fun _ _ same => Keyword.judges_minimum same _
  · exact written_like alike.maximum (fun _ _ => Keyword.write_like) fun _ _ same => Keyword.judges_maximum same _

theorem member_checks_like (alike : own.Like L own') :
    List.Forall₂ (GroupsLike L) (memberChecks own) (memberChecks own') := by
  rw [memberChecks, memberChecks, ← alike.maxProperties, ← alike.minProperties, ← alike.required]
  exact .cons (written_same _ fun _ => Keyword.judges_member_count _ _)
    (.cons (written_same _ fun _ => Keyword.judges_member_count _ _) (.cons (given_same _ fun _ => Keyword.judges_required _) .nil))

theorem reference_checks_like (referred : Referred L formats refer refer') (scope : Scope) (reference : Option String) :
    GroupsLike L (referenceChecks refer scope reference) (referenceChecks refer' scope reference) := by
  cases reference with
  | none => exact no_check_like
  | some r => exact single_like (referred.references scope r) fun _ _ judged => judged

theorem format_checks_like (referred : Referred L formats refer refer') (name : Option String) :
    GroupsLike L (formatChecks formats name) (formatChecks formats name) := by
  cases name with
  | none => exact no_check_like
  | some name =>
      cases found : formats.find? name with
      | some check =>
          simp only [formatChecks, found]
          exact one_check_like (Formats.every_found referred.formats name check found)
      | none =>
          simp only [formatChecks, found]
          refine Comparison.and_then_fine (Comparison.results_fine _) fun _ => ?_
          exact one_check_like (judges_reject _)

theorem list_like {nodes others : List Node} (related : List.Forall₂ (Node.Likened L formats refer refer') nodes others)
    (scope : Scope) : results.relates (List.Forall₂ L.Judges) (Logged.each (fun inner => inner.check formats refer scope) nodes)
      (Logged.each (fun inner => inner.check formats refer' scope) others) :=
  Comparison.each_related (related.imp fun _ _ likened => likened scope)

theorem combined_group_like {nodes others : Option (List Node)} {combine : List Check → Check}
    (related : Option.Rel (List.Forall₂ (Node.Likened L formats refer refer')) nodes others)
    (lifted : ∀ cs ds, List.Forall₂ L.Judges cs ds → L.Judges (combine cs) (combine ds)) (scope : Scope) :
    GroupsLike L (combinedGroup formats refer combine nodes scope) (combinedGroup formats refer' combine others scope) := by
  cases related with
  | none => exact no_check_like
  | some inner =>
      refine results.andThen (list_like inner scope) fun cs ds judges => ?_
      exact one_check_like (lifted cs ds judges)

theorem negated_group_like {inner inner' : Option Node}
    (related : Option.Rel (Node.Likened L formats refer refer') inner inner') (scope : Scope) :
    GroupsLike L (negatedGroup formats refer inner scope) (negatedGroup formats refer' inner' scope) := by
  cases related with
  | none => exact no_check_like
  | some likened => exact single_like (likened scope) fun _ _ => judges_negate

theorem extra_check_like {extra extra' : Extra Node} (related : Extra.Rel (Node.Likened L formats refer refer') extra extra')
    (message : String) (scope : Scope) :
    results.relates L.Judges (checkExtra formats refer message extra scope) (checkExtra formats refer' message extra' scope) := by
  cases related with
  | permit allowed => exact results.result (judges_permitted allowed message)
  | schema likened => exact likened scope

theorem rest_check_like {extra extra' : Option (Extra Node)}
    (related : Option.Rel (Extra.Rel (Node.Likened L formats refer refer')) extra extra') (scope : Scope) :
    results.relates L.Judges (checkRest formats refer extra scope) (checkRest formats refer' extra' scope) := by
  cases related with
  | none => exact results.result (judges_permitted true "")
  | some inner => exact extra_check_like inner _ scope

theorem item_group_like (related : node.Matches L (Node.Likened L formats refer refer') other) (scope : Scope) :
    GroupsLike L (node.itemGroup formats refer scope) (other.itemGroup formats refer' scope) := by
  have single := related.items
  have listed := related.tupleItems
  unfold Node.itemGroup
  generalize node.items = a, other.items = b at single
  generalize node.tupleItems = as, other.tupleItems = bs at listed
  cases single with
  | some likened => exact single_like (likened scope) fun _ _ => judges_items
  | none =>
      cases listed with
      | none => exact no_check_like
      | some nodes =>
          refine results.andThen (list_like nodes scope) fun cs ds judges => ?_
          refine results.andThen (extra_check_like related.additionalItems _ scope) fun c d judged => ?_
          exact one_check_like (judges_tuple judges judged)

theorem named_group_names {nodes : Option (List (String × Node))} {scope : Scope} {checks : List (String × Check)}
    (returned : (namedGroup formats refer nodes scope).outcome = .ok checks) :
    checks.map (·.1) = (nodes.getD []).map (·.1) := by
  have steps : List.Forall₂ (fun a b => a = b) ((nodes.getD []).map (·.1)) (checks.map (·.1)) := by
    rw [List.forall₂_map_left_iff, List.forall₂_map_right_iff]
    refine Logged.each_ok_related _ (List.forall₂_same.mpr fun entry _ named made => ?_) returned
    obtain ⟨check, _, last⟩ := (Logged.and_then_ok _ _ _).mp made
    exact congrArg Prod.fst (Except.ok.inj last)
  exact (List.forall₂_eq_eq_eq ▸ steps : _ = _).symm

theorem named_group_like {nodes others : Option (List (String × Node))}
    (related : Option.Rel (Reordered (Node.Likened L formats refer refer')) nodes others) (scope : Scope) :
    results.relates (Reordered L.Judges) (namedGroup formats refer nodes scope) (namedGroup formats refer' others scope) := by
  have reordered : Reordered (Node.Likened L formats refer refer') (nodes.getD []) (others.getD []) := by
    cases related with
    | none => exact .intro List.nodup_nil (.refl []) rfl .nil
    | some inner => exact inner
  have steps : ∀ a b, Paired (Node.Likened L formats refer refer') a b → results.relates (Paired L.Judges)
      ((a.2.check formats refer scope).andThen fun check => .result (a.1, check))
      ((b.2.check formats refer' scope).andThen fun check => .result (b.1, check)) :=
    fun a b ⟨name, likened⟩ => results.andThen (likened scope) fun c d judged =>
      results.result (show Paired L.Judges (a.1, c) (b.1, d) from ⟨name, judged⟩)
  intro checks returned
  obtain ⟨checks', returned', shuffled⟩ := Comparison.each_shuffled (reordered_pairs reordered) steps checks returned
  have distinct : (checks.map (·.1)).Nodup := by
    rw [named_group_names returned]
    exact (reordered_distinct reordered).1
  exact ⟨checks', returned', reordered_iff.mpr ⟨distinct, shuffled⟩⟩

theorem property_group_like (related : node.Matches L (Node.Likened L formats refer refer') other) (scope : Scope) :
    GroupsLike L (node.propertyGroup formats refer scope) (other.propertyGroup formats refer' scope) := by
  have speaks : node.speaksOfMembers = other.speaksOfMembers := by
    rw [Node.speaksOfMembers, Node.speaksOfMembers, option_some_same related.properties,
      option_some_same related.patternProperties, option_some_same related.additionalProperties]
  rw [Node.propertyGroup, Node.propertyGroup, speaks]
  split
  · refine results.andThen (named_group_like related.properties scope) fun declared declared' named => ?_
    refine results.andThen (named_group_like related.patternProperties scope) fun patterns patterns' matched => ?_
    refine results.andThen (rest_check_like related.additionalProperties scope) fun rest rest' further => ?_
    exact single_like (properties_judged named matched further) fun _ _ judged => judged
  · exact no_check_like

theorem demand_check_like {a b : String × Demand Node}
    (pair : Paired (Demand.Rel (Node.Likened L formats refer refer')) a b) (scope : Scope) :
    results.relates L.Judges (demandCheck formats refer scope a) (demandCheck formats refer' scope b) := by
  obtain ⟨key, demand⟩ := a
  obtain ⟨_, demand'⟩ := b
  obtain ⟨rfl, related⟩ := pair
  cases related with
  | keys names => exact results.result (Keyword.judges_dependency key names)
  | schema likened =>
      exact results.andThen (likened scope) fun _ _ judged => results.result (judges_when_present key judged)

theorem demands_like {demands demands' : Option (List (String × Demand Node))}
    (related : Option.Rel (Reordered (Demand.Rel (Node.Likened L formats refer refer'))) demands demands') (scope : Scope) :
    GroupsLike L (Logged.each (demandCheck formats refer scope) (demands.getD []))
      (Logged.each (demandCheck formats refer' scope) (demands'.getD [])) := by
  cases related with
  | none => exact no_check_like
  | some inner => exact Comparison.each_shuffled (reordered_pairs inner) fun _ _ pair => demand_check_like pair scope

theorem groups_like (related : node.Matches L (Node.Likened L formats refer refer') other)
    (referred : Referred L formats refer refer') (scope : Scope) :
    List.Forall₂ (GroupsLike L) (node.groups formats refer scope) (other.groups formats refer' scope) := by
  have references := reference_checks_like referred scope node.own.reference
  have kinds : GroupsLike L (whenGiven node.own.kinds Keyword.typeCheck) _ :=
    given_same _ fun kinds => Keyword.judges_type kinds
  have named := format_checks_like referred node.own.format
  rw [Node.groups, Node.groups, ← related.own.reference, ← related.own.kinds, ← related.own.format]
  refine List.rel_append (List.rel_append (List.rel_append (List.rel_append ?_ (plain_checks_like related.own))
    (.cons (item_group_like related scope.descend) .nil)) (member_checks_like related.own)) ?_
  · refine .cons references (.cons kinds (.cons ?_ (.cons ?_ (.cons ?_ (.cons ?_ .nil)))))
    · exact combined_group_like related.allOf (fun _ _ judges => judges_all (shuffled_of_related judges)) scope
    · exact combined_group_like related.anyOf (fun _ _ => judges_any) scope
    · exact combined_group_like related.oneOf (fun _ _ => judges_one) scope
    · exact negated_group_like related.negation scope
  · exact .cons (property_group_like related scope.descend) (.cons (demands_like related.dependencies scope) (.cons named .nil))

theorem checks_like (related : node.Matches L (Node.Likened L formats refer refer') other)
    (referred : Referred L formats refer refer') (scope : Scope) :
    results.relates (Shuffled L.Judges) (node.checks formats refer scope) (other.checks formats refer' scope) := by
  rw [checks_eq, checks_eq]
  exact Comparison.joined_shuffled (groups_like related referred scope)

theorem matches_likened (referred : Referred L formats refer refer') (node other : Node)
    (related : node.Matches L (Node.Likened L formats refer refer') other) : node.Likened L formats refer refer' other :=
  fun scope => results.andThen (checks_like related referred scope) fun _ _ judges => results.result (judges_all judges)

theorem decode_likened (referred : Referred L formats refer refer') {v w : Json} (divisors : L.texts ∨ v.Undivided)
    (like : v.Like L w) : (Node.decode v).Likened L formats refer refer' (Node.decode w) :=
  (read_like (matches_likened referred) divisors like).node

end Groups

section References

variable {L : Likeness}

inductive Found (L : Likeness) : Except Reference.Fault Json → Except Reference.Fault Json → Prop where
  | failed (fault : Reference.Fault) : Found L (.error fault) (.error fault)
  | target {v w : Json} (like : v.Like L w) : Found L (.ok v) (.ok w)

theorem child_like (step : String) {v w : Json} (like : v.Like L w) :
    Found L (Reference.child step v) (Reference.child step w) := by
  cases like with
  | @object left right members =>
      have lookup := reordered_member members step
      unfold Reference.child
      dsimp only
      generalize member? step left = a, member? step right = b at lookup
      cases lookup with
      | none => exact .failed _
      | some alike => exact .target alike
  | @array left right items =>
      unfold Reference.child Reference.item
      dsimp only
      split
      · exact .failed _
      · rename_i digits _
        split
        · exact .failed _
        · have lookup := related_get items (Text.valueIn 10 digits)
          generalize left[Text.valueIn 10 digits]? = a, right[Text.valueIn 10 digits]? = b at lookup
          cases lookup with
          | none => exact .failed _
          | some alike => exact .target alike
  | _ => exact .failed _

theorem follow_like (steps : List String) {v w : Json} (like : v.Like L w) :
    Found L (Reference.follow steps v) (Reference.follow steps w) := by
  induction steps generalizing v w with
  | nil => exact .target like
  | cons step rest ih =>
      have first := child_like step like
      unfold Reference.follow
      generalize Reference.child step v = a, Reference.child step w = b at first
      cases first with
      | failed fault => exact .failed fault
      | target alike => exact ih alike

theorem resolve_like (r : String) {v w : Json} (like : v.Like L w) :
    Found L (Reference.resolve v r) (Reference.resolve w r) := by
  unfold Reference.resolve
  split
  · exact .target like
  · exact follow_like _ like
  · exact .failed _

end References

structure Context.Like (L : Likeness) (context other : Context) : Prop where
  document : context.document.Like L other.document
  divisors : L.texts ∨ context.document.Undivided
  formats : context.formats = other.formats
  judged : context.formats.Every fun check => L.Judges check check

section Runs

variable {L : Likeness} {context other : Context}

theorem expand_like (alike : context.Like L other) {later later' : String → Node → Check}
    (waits : ∀ r v w, L.texts ∨ v.Undivided → v.Like L w → L.Judges (later r (Node.decode v)) (later' r (Node.decode w)))
    (budget : Nat) (scope : Scope) (r : String) :
    results.relates L.Judges (expand context later budget scope r) (expand other later' budget scope r) := by
  induction budget generalizing scope r with
  | zero => exact nofun
  | succ budget ih =>
      by_cases again : r ∈ scope.level
      · rw [expand_circular again, expand_circular again]
        exact Comparison.and_then_fine (Comparison.results_fine _) fun _ => results.result (judges_reject _)
      have found := resolve_like r alike.document
      cases first : Reference.resolve context.document r with
      | error fault =>
          rw [first] at found
          cases second : Reference.resolve other.document r with
          | ok target' => rw [second] at found; cases found
          | error fault' =>
              rw [second] at found
              cases found
              rw [expand_unresolved again first, expand_unresolved again second]
              exact Comparison.and_then_fine (Comparison.results_fine _) fun _ => results.result (judges_reject _)
      | ok target =>
          rw [first] at found
          cases second : Reference.resolve other.document r with
          | error fault' => rw [second] at found; cases found
          | ok target' =>
              rw [second] at found
              cases found with
              | target like =>
                  have divisors := alike.divisors.imp_right fun undivided =>
                    Json.objects_contained undivided (Reference.resolve_contained _ _ _ first)
                  by_cases above : r ∈ scope.stack
                  · rw [expand_waiting again first above, expand_waiting again second above]
                    exact results.result (waits r target target' divisors like)
                  · rw [expand_eager again first above, expand_eager again second above, ← alike.formats]
                    exact decode_likened ⟨ih, alike.judged⟩ divisors like (scope.enter r)

theorem expand_later_like (alike : context.Like L other) (budget depth : Nat) (r : String) (v w : Json)
    (divisors : L.texts ∨ v.Undivided) (like : v.Like L w) :
    L.Judges (expandLater context budget depth r (Node.decode v)) (expandLater other budget depth r (Node.decode w)) := by
  induction depth generalizing r v w with
  | zero => exact fun _ _ _ => nofun
  | succ depth ih =>
      have referred : Referred L context.formats (expand context (expandLater context budget depth) budget)
          (expand other (expandLater other budget depth) budget) := ⟨expand_like alike ih budget, alike.judged⟩
      intro value value' values
      rw [expandLater, expandLater, ← alike.formats]
      exact results.andThen (decode_likened referred divisors like (Scope.restart r)) fun _ _ judged =>
        judged value value' values

theorem budget_like (alike : context.Like L other) : context.budget = other.budget := by
  rw [Context.budget, Context.budget, (Json.like_references alike.document).length_eq]

theorem refer_like (alike : context.Like L other) (scope : Scope) (r : String) :
    results.relates L.Judges (refer context scope r) (refer other scope r) := by
  rw [refer, refer, ← budget_like alike]
  refine expand_like alike (fun r v w divisors like value value' values => ?_) context.budget scope r
  rw [later, later, ← budget_like alike, ← Json.like_depth values]
  exact expand_later_like alike context.budget (value.depth + 1) r v w divisors like value value' values

theorem validate_like {schema other : Schema} (alike : schema.context.Like L other.context) {value value' : Json}
    (values : value.Like L value') : results.relates L.Answers (schema.validate value) (other.validate value') := by
  have referred : Referred L schema.formats (refer schema.context) (refer other.context) :=
    ⟨refer_like alike, alike.judged⟩
  have formats : schema.formats = other.formats := alike.formats
  have roots : schema.root.Likened L schema.formats (refer schema.context) (refer other.context) other.root :=
    decode_likened referred alike.divisors alike.document
  have run := results.andThen (roots rootScope) fun _ _ judged => judged value value' values
  intro found returned
  rw [validate_run] at returned
  rw [validate_run, ← formats]
  exact run found returned

theorem context_symm (alike : context.Like L other) : other.Like L context where
  document := Json.like_symm alike.document
  divisors := alike.divisors.imp_right (Json.like_undivided alike.document)
  formats := alike.formats.symm
  judged := alike.formats ▸ alike.judged

theorem validate_both_ways {schema other : Schema} (alike : schema.context.Like L other.context) {value value' : Json}
    (values : value.Like L value') :
    ((schema.validate value).Returns ↔ (other.validate value').Returns) ∧
    ∀ found found', (schema.validate value).outcome = .ok found → (other.validate value').outcome = .ok found' →
      L.Answers found found' := by
  have onward := validate_like alike values
  have back := validate_like (context_symm alike) (Json.like_symm values)
  refine ⟨⟨fun ⟨found, returned⟩ => ?_, fun ⟨found, returned⟩ => ?_⟩, fun found found' returned returned' => ?_⟩
  · obtain ⟨found', returned', _⟩ := onward found returned
    exact ⟨found', returned'⟩
  · obtain ⟨found', returned', _⟩ := back found returned
    exact ⟨found', returned'⟩
  · obtain ⟨same, second, answers⟩ := onward found returned
    obtain rfl : same = found' := Except.ok.inj (second.symm.trans returned')
    exact answers

end Runs

theorem rearranged_alike (document document' value value' : Json) (extras : Formats)
    (documents : document.Like .byText document') (values : value.Like .byText value')
    (blind : extras.Every fun check => ∀ v w found, v.Like .byText w → (check v).outcome = .ok found →
      ∃ found', (check w).outcome = .ok found' ∧ found.Perm found') :
    let schema := ofDocument document extras
    let other := ofDocument document' extras
    ((schema.validate value).Returns ↔ (other.validate value').Returns) ∧
    ∀ found found', (schema.validate value).outcome = .ok found → (other.validate value').outcome = .ok found' →
      found.Perm found' ∧ found.isEmpty = found'.isEmpty := by
  intro schema other
  have supplied : extras.Every fun check => Likeness.byText.Judges check check := by
    intro name check member v w like found returned
    obtain ⟨found', returned', order⟩ := blind name check member v w found like returned
    exact ⟨found', returned', answers_perm order⟩
  have alike : schema.context.Like .byText other.context := ⟨documents, .inl trivial, rfl, formats_judged extras supplied⟩
  obtain ⟨ends, answers⟩ := validate_both_ways alike values
  refine ⟨ends, fun found found' returned returned' => ?_⟩
  have both := answers found found' returned returned'
  exact ⟨both.2 trivial, answers_empty both⟩

theorem rearranged_alike_for_pairs :
    let strings := ("properties", Json.object [("a", .object [("type", .string "string")])])
    let closed := ("additionalProperties", Json.bool false)
    let a := ("a", Json.object [("x", .null), ("y", .bool true)])
    let b := ("b", Json.null)
    let schema := ofDocument (.object [strings, closed]) []
    let other := ofDocument (.object [closed, strings]) []
    ∃ found found', (schema.validate (.object [a, b])).outcome = .ok found ∧
      (other.validate (.object [b, a])).outcome = .ok found' ∧ found.length = 2 ∧ found.Perm found' := by
  intro strings closed a b schema other
  have swapped : ∀ first second : String × Json, (Json.object [first, second]).Distinct →
      (Json.object [first, second]).Like .byText (.object [second, first]) := by
    intro first second distinct
    have same : ∀ entry ∈ [second, first], entry.2.Like .byText entry.2 := fun entry member =>
      Json.like_refl (fun _ => rfl) ((Json.objects_object _ _).mp distinct |>.2 entry (by simpa [or_comm] using member))
    refine .object (.intro (distinct _ (.self _)) (.swap second first []) rfl (List.forall₂_same.mpr fun value member => ?_))
    obtain ⟨entry, found, rfl⟩ := List.mem_map.mp member
    exact same entry found
  have document : (Json.object [strings, closed]).Distinct := by simp [strings, closed]
  have value : (Json.object [a, b]).Distinct := by simp [a, b]
  obtain ⟨_, answers⟩ := rearranged_alike _ _ _ _ [] (swapped strings closed document) (swapped a b value)
    fun _ _ member => absurd member List.not_mem_nil
  have first : ∃ found, (schema.validate (.object [a, b])).outcome = .ok found ∧ found.length = 2 := ⟨_, rfl, rfl⟩
  have second : ∃ found, (other.validate (.object [b, a])).outcome = .ok found := ⟨_, rfl⟩
  obtain ⟨found, returned, two⟩ := first
  obtain ⟨found', returned'⟩ := second
  exact ⟨found, found', returned, returned', two, (answers found found' returned returned').1⟩

end Conform.Schema
