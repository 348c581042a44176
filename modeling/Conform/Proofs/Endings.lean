import Conform.Proofs.Visits

set_option autoImplicit false

namespace Conform.Schema

open Json (Contains)

inductive Node.Breaks (node : Node) : Json → Fault → Prop where
  | search {source text : String} {value : Json} {pattern : Pattern} (searched : node.Searches source value text)
      (compiled : Pattern.compile source = .ok pattern) (crossed : pattern.found? text = none) : Breaks node value .crossedGroup
  | finding {check : Check} {value : Json} (judge : check ∈ node.own.judges) (long : node.own.Long value)
      (failed : (check value).outcome = .error (.tooManyDigits none)) : Breaks node value (.tooManyDigits none)

-- What is left to end the validation of a value where every pattern can be read.
inductive Fails (context : Context) (extras : Formats) (value : Json) : Fault → Prop where
  | index {r : String} {count : Nat} (reachable : context.Reachable r)
      (failed : Reference.resolve context.document r = .error (.tooManyDigits count)) :
      Fails context extras value (.tooManyDigits (some count))
  | limit {node : Node} {n : Number} (compiled : context.Compiled node) (written : n ∈ node.own.written)
      (long : n.isWritable = false) : Fails context extras value (.tooManyDigits none)
  | breaks {node : Node} {part : Json} {fault : Fault} (compiled : context.Compiled node) (contained : Contains value part)
      (breaks : node.Breaks part fault) : Fails context extras value fault
  | format {node : Node} {name : String} {check : Check} {part : Json} {fault : Fault} (compiled : context.Compiled node)
      (contained : Contains value part) (named : node.own.format = some name) (supplied : (name, some check) ∈ extras)
      (failed : (check part).outcome = .error fault) : Fails context extras value fault

abbrev failing (context : Context) (extras : Formats) (value : Json) : Comparison :=
  .outcomes (Fails context extras value)

section Failing

variable {context : Context} {extras : Formats} {whole value : Json} {scope : Scope} {r : String} {node : Node}

theorem returning_fine {α : Type} {x : Traced α} (returns : x.Returns) : (failing context extras whole).Fine x := by
  obtain ⟨a, returned⟩ := returns
  exact Comparison.outcomes_fine.mpr fun fault failed => nomatch returned.symm.trans failed

theorem failing_readable (legible : context.Legible) (compiled : context.Compiled node) :
    node.Readable (failing context extras whole) := by
  have readable := legible node compiled
  constructor
  · exact fun source given => returning_fine ((Keyword.read_pattern_legible _ source).mpr (readable.text source given))
  · intro source listed
    obtain ⟨entry, member, rfl⟩ := List.mem_map.mp listed
    exact returning_fine ((Keyword.read_pattern_legible _ entry.1).mpr (readable.keys entry member))
  · refine fun numbers listed => Comparison.outcomes_fine.mpr fun fault failed => ?_
    obtain ⟨rfl, n, member, long⟩ := Keyword.write_fault failed
    exact .limit compiled (listed member) long
  · exact fun _ => returning_fine ⟨_, rfl⟩

theorem failing_applicable (supplied : context.formats = Formats.extend extras) (compiled : context.Compiled node) :
    node.Applicable (failing context extras whole) context.formats (Contains whole) := by
  constructor
  · refine fun source part text pattern contained searched found => Comparison.outcomes_fine.mpr fun fault failed => ?_
    unfold Keyword.isFound at failed
    split at failed
    · cases failed
    · cases failed
      exact .breaks compiled contained (.search searched found ‹_›)
  · refine fun check judge part contained => Comparison.outcomes_fine.mpr fun fault failed => ?_
    obtain ⟨rfl, long⟩ := judge_fault judge failed
    exact .breaks compiled contained (.finding judge long failed)
  · refine fun name check named found part contained => Comparison.outcomes_fine.mpr fun fault failed => ?_
    rw [supplied] at found
    rcases Formats.extended_source found with caller | ⟨judge, rfl⟩
    · exact .format compiled contained named caller failed
    · cases failed

theorem failing_complaint {fault : Reference.Fault} (reachable : context.Reachable r)
    (unresolvable : Reference.resolve context.document r = .error fault) :
    (failing context extras whole).Fine (complaint r fault) := by
  refine Comparison.outcomes_fine.mpr fun other failed => ?_
  cases fault with
  | remote => cases failed
  | notFound step => cases failed
  | tooManyDigits count =>
      cases failed
      exact .index reachable unresolvable

theorem failing_kept (legible : context.Legible) :
    Invariant context (failing context extras whole) fun _ r => context.Reachable r where
  circular _ _ _ _ := returning_fine ⟨_, rfl⟩
  unresolved _ _ _ reachable unresolvable := failing_complaint reachable unresolvable
  readable _ r target reachable resolved _ nested := failing_readable legible ⟨r, target, reachable, resolved, nested⟩
  here _ _ _ _ reachable _ resolved here := Context.reachable_next reachable resolved (.inl here)
  below _ _ _ _ reachable _ resolved below := Context.reachable_next reachable resolved (.inr below)

variable (legible : context.Legible)
include legible

theorem refer_fails (reachable : context.Reachable r) (listed : r ∈ context.document.references) {fault : Fault}
    (failed : (refer context scope r).outcome = .error fault) : Fails context extras whole fault := by
  have kept : Invariant context (failing context extras whole) _ := failing_kept legible
  have related := refer_fine (anything_applies context _) kept (anything_kept kept) 0 scope r reachable listed
  change EndsAlike _ _ _ _ at related
  rw [failed] at related
  exact related.2

theorem refer_failing {on : Json → Prop} (reachable : context.Reachable r) (listed : r ∈ context.document.references)
    (runs : ∀ part, on part → (failing context extras whole).Fine (context.run scope r part)) :
    (failing context extras whole).relates ((failing context extras whole).Agree on) (refer context scope r)
      (refer context scope r) := by
  change EndsAlike _ _ _ _
  cases built : (refer context scope r).outcome with
  | error fault => exact ⟨rfl, refer_fails legible reachable listed built⟩
  | ok check =>
      refine fun part holds => Comparison.outcomes_fine.mpr fun fault failed => ?_
      refine Comparison.outcomes_fine.mp (runs part holds) fault ?_
      rw [Context.run, Logged.and_then_outcome, built]
      exact failed

variable (supplied : context.formats = Formats.extend extras)
include supplied

theorem check_failing (compiled : context.Compiled node) (contained : Contains whole value)
    (here : ∀ s, node.Here s → (failing context extras whole).Fine (context.run scope s value))
    (below : ∀ s part, node.Below s → Contains whole part → part.depth < value.depth →
      (failing context extras whole).Fine (context.run scope.descend s part)) :
    (failing context extras whole).Fine ((node.check context.formats (refer context) scope).andThen fun check => check value) := by
  obtain ⟨r, target, reachable, resolved, nested⟩ := compiled
  have met : ∀ s, node.Here s ∨ node.Below s → s ∈ context.document.references ∧ context.Reachable s := by
    intro s found
    have deep := found.elim (here_nested nested) fun below => .inr (below_nested nested below)
    exact ⟨Context.target_reference_listed resolved deep, Context.reachable_next reachable resolved deep⟩
  let inside := fun part => Contains whole part ∧ part.depth < value.depth
  have descends : ∀ part, part = value → ∀ deep ∈ part.parts, inside deep := by
    rintro _ rfl deep member
    exact ⟨Json.contains_trans contained (.part member (.self deep)), Json.depth_part _ deep member⟩
  have deeper : ∀ part, inside part → ∀ deep ∈ part.parts, inside deep := fun part holds deep member =>
    ⟨Json.contains_trans holds.1 (.part member (.self deep)), Nat.lt_trans (Json.depth_part part deep member) holds.2⟩
  have alike : Alike (failing context extras whole) (failing context extras whole) context.formats (· = value) inside
      (refer context) (refer context) scope scope node := ⟨?_, ?_, ?_, ?_⟩
  · exact Comparison.andThen _ (check_related descends deeper alike) fun _ _ agree => agree value rfl
  · exact fun s found => refer_failing legible (met s (.inl found)).2 (met s (.inl found)).1 fun part same => same ▸ here s found
  · exact fun s found => refer_failing legible (met s (.inr found)).2 (met s (.inr found)).1
      fun part holds => below s part found holds.1 holds.2
  · exact fun inner deep => failing_readable legible ⟨r, target, reachable, resolved, nested_trans nested deep⟩
  · refine fun inner deep => applicable_fewer
      (failing_applicable supplied ⟨r, target, reachable, resolved, nested_trans nested deep⟩) fun part holds => ?_
    exact holds.elim (fun same => same ▸ contained) And.left

theorem run_failing (scope : Scope) (r : String) (value : Json) (listed : r ∈ context.document.references)
    (reachable : context.Reachable r) (contained : Contains whole value) :
    (failing context extras whole).Fine (context.run scope r value) := by
  refine run_induction (motive := fun scope r value => context.Reachable r → Contains whole value →
    (failing context extras whole).Fine (context.run scope r value))
    (fun scope r value listed here below reachable contained => ?_) scope r value listed reachable contained
  by_cases again : r ∈ scope.level
  · rw [Context.run, refer_circular again]
    exact returning_fine ⟨_, rfl⟩
  · cases resolved : Reference.resolve context.document r with
    | error fault =>
        rw [Context.run, refer_unresolved again resolved, unresolved_eq, Logged.and_then_assoc]
        exact Comparison.and_then_fine (failing_complaint reachable resolved) fun _ => returning_fine ⟨_, rfl⟩
    | ok target =>
        rw [run_step listed again resolved]
        refine check_failing legible supplied ⟨r, target, reachable, resolved, .self _⟩ contained (fun s met => ?_)
          fun s part met inside smaller => ?_
        · exact here target s again resolved met (Context.reachable_next reachable resolved (.inl met)) contained
        · exact below target s part again resolved met smaller (Context.reachable_next reachable resolved (.inr met)) inside

theorem compiled_failing (compiled : context.Compiled node) (scope : Scope) (value : Json) :
    (failing context extras value).Fine ((node.check context.formats (refer context) scope).andThen fun check => check value) := by
  obtain ⟨r, target, reachable, resolved, nested⟩ := compiled
  have met : ∀ s, node.Here s ∨ node.Below s → s ∈ context.document.references ∧ context.Reachable s := by
    intro s found
    have deep := found.elim (here_nested nested) fun below => .inr (below_nested nested below)
    exact ⟨Context.target_reference_listed resolved deep, Context.reachable_next reachable resolved deep⟩
  refine check_failing legible supplied ⟨r, target, reachable, resolved, nested⟩ (.self value) (fun s here => ?_)
    fun s part below inside _ => ?_
  · exact run_failing legible supplied scope s value (met s (.inl here)).1 (met s (.inl here)).2 (.self value)
  · exact run_failing legible supplied scope.descend s part (met s (.inr below)).1 (met s (.inr below)).2 inside

end Failing

theorem validation_fails {document value : Json} {extras : Formats} {fault : Fault}
    (legible : (ofDocument document extras).context.Legible)
    (failed : ((ofDocument document extras).validate value).outcome = .error fault) :
    Fails (ofDocument document extras).context extras value fault := by
  rw [validate_run] at failed
  exact Comparison.outcomes_fine.mp (compiled_failing legible rfl (root_compiled _) rootScope value) fault failed

theorem int_writable {n : Number} {size : Int} (whole : n.toInt? = some size) (writable : n.isWritable = true) :
    (Number.integer size).isWritable = true := by
  rw [Number.isWritable, whole] at writable
  exact writable

theorem contained_writable {value part : Json} (contained : Contains value part) (writable : value.isWritable = true) :
    part.isWritable = true := by
  induction contained with
  | self => exact writable
  | @part value part _ member _ ih =>
      apply ih
      cases value with
      | array items => exact (Json.are_writable_iff items).mp writable part member
      | object members =>
          obtain ⟨entry, found, rfl⟩ := List.mem_map.mp member
          exact (Json.members_writable_iff members).mp writable entry found
      | _ => exact absurd member List.not_mem_nil

section Writable

variable {members : List (String × Json)} (writable : (Json.object members).isWritable = true)
include writable

theorem member_writable {key : String} {value : Json} (found : member? key members = some value) : value.isWritable = true :=
  (Json.members_writable_iff members).mp writable _ (member_of_key key members value found)

theorem number_writable {key : String} {n : Number} (given : (member? key members).bind Json.asNumber? = some n) :
    n.isWritable = true := by
  obtain ⟨value, found, read⟩ := Option.bind_eq_some_iff.mp given
  have whole := member_writable writable found
  cases value with
  | number m =>
      cases read
      exact whole
  | _ => cases read

theorem size_writable {key : String} {size : Int} (given : (member? key members).bind Json.asInt? = some size) :
    (Number.integer size).isWritable = true := by
  obtain ⟨value, found, read⟩ := Option.bind_eq_some_iff.mp given
  have whole := member_writable writable found
  cases value with
  | number m => exact int_writable read whole
  | _ => cases read

theorem values_writable {values : List Json} (given : (member? "enum" members).bind Json.asItems? = some values) :
    Json.areWritable values = true := by
  obtain ⟨value, found, read⟩ := Option.bind_eq_some_iff.mp given
  have whole := member_writable writable found
  cases value with
  | array items =>
      cases read
      exact whole
  | _ => cases read

theorem assertions_written {n : Number} (member : n ∈ (assertions members).written) : n.isWritable = true := by
  simp only [Assertions.written, List.mem_append, List.mem_map, List.mem_filterMap, List.mem_cons, List.not_mem_nil, or_false,
    Option.mem_toList, List.mem_flatMap] at member
  rcases member with ((⟨size, ⟨_, listed, rfl⟩, rfl⟩ | lower) | upper) | ⟨divisor, given, bad⟩
  · rcases listed with given | given | given | given | given | given <;> exact size_writable writable given.symm
  · exact number_writable writable lower
  · exact number_writable writable upper
  · unfold Keyword.badDivisors at bad
    split at bad
    · obtain rfl := List.mem_singleton.mp bad
      exact number_writable writable given
    · cases bad

end Writable

theorem decoded_writable {document : Json} {node : Node} (writable : document.isWritable = true)
    (decoded : Decoded document node) :
    node.Writable ∧ ∀ value, value.isWritable = true → ¬ node.own.Long value := by
  obtain ⟨sub, contained, rfl⟩ := decoded
  have whole := contained_writable contained writable
  cases sub with
  | object members =>
      refine ⟨fun n => assertions_written whole, fun value shown long => ?_⟩
      rcases long with long | ⟨values, given, long⟩ | ⟨divisor, given, long⟩
      · exact Bool.false_ne_true (long.symm.trans shown)
      · exact Bool.false_ne_true (long.symm.trans (values_writable whole given))
      · exact Bool.false_ne_true (long.symm.trans (number_writable whole given))
  | _ =>
      refine ⟨fun n member => absurd member List.not_mem_nil, fun value shown long => ?_⟩
      rcases long with long | ⟨_, given, _⟩ | ⟨_, given, _⟩
      · exact Bool.false_ne_true (long.symm.trans shown)
      · cases given
      · cases given

def Context.Uncrossed (context : Context) (value : Json) : Prop :=
  ∀ node part source text pattern, context.Compiled node → Contains value part → node.Searches source part text →
    Pattern.compile source = .ok pattern → pattern.found? text ≠ none

theorem validation_returns {document value : Json} {extras : Formats} (legible : (ofDocument document extras).context.Legible)
    (short : (ofDocument document extras).context.ShortIndices)
    (writable : document.isWritable = true ∧ value.isWritable = true)
    (uncrossed : (ofDocument document extras).context.Uncrossed value)
    (supplied : extras.Every fun check => ∀ part, (check part).Returns) :
    ((ofDocument document extras).validate value).Returns := by
  cases ended : ((ofDocument document extras).validate value).outcome with
  | ok found => exact ⟨found, ended⟩
  | error fault =>
      cases validation_fails legible ended with
      | index reachable unresolvable => exact absurd unresolvable (short _ _ reachable)
      | limit compiled written long =>
          exact absurd ((decoded_writable writable.1 (compiled_decoded compiled)).1 _ written) (Bool.eq_false_iff.mp long)
      | breaks compiled contained breaks =>
          cases breaks with
          | search searched found crossed => exact absurd crossed (uncrossed _ _ _ _ _ compiled contained searched found)
          | finding _ long _ =>
              have shown := contained_writable contained writable.2
              exact absurd long ((decoded_writable writable.1 (compiled_decoded compiled)).2 _ shown)
      | format _ _ _ caller failed =>
          obtain ⟨found, returned⟩ := supplied _ _ caller _
          cases returned.symm.trans failed

end Conform.Schema
