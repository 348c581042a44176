import Conform.Proofs.Agreement
import Conform.Proofs.Endings

set_option autoImplicit false

namespace Conform.Schema

open Json (Contains)

-- What no value of a kind gets past in a schema that is compiled in a scope, and the message that tells of it.
inductive Node.Defect (context : Context) (scope : Scope) (node : Node) : Json → String → Prop where
  | pattern {source text : String} {defect : Pattern.Defect} (given : node.own.pattern = some source)
      (refused : Pattern.compile source = .error (.defective defect)) :
      Defect context scope node (.string text) ("Pattern '" ++ source ++ "' is not a valid regular expression")
  | key {entry : String × Node} {defect : Pattern.Defect} {members : List (String × Json)}
      (given : entry ∈ node.patternProperties.getD []) (refused : Pattern.compile entry.1 = .error (.defective defect)) :
      Defect context scope node (.object members)
        ("Pattern '" ++ entry.1 ++ "' of 'patternProperties' is not a valid regular expression")
  | divisor {divisor number : Number} (given : node.own.multipleOf = some divisor)
      (bad : Keyword.isBadDivisor divisor = true) :
      Defect context scope node (.number number) ("'multipleOf' must be greater than 0, got " ++ divisor.plain)
  | circular {r : String} {value : Json} (given : node.own.reference = some r) (again : r ∈ scope.level) :
      Defect context scope node value (circularMessage r)
  | unresolved {r : String} {fault : Reference.Fault} {value : Json} (given : node.own.reference = some r)
      (first : r ∉ scope.level) (failed : Reference.resolve context.document r = .error fault) :
      Defect context scope node value (fault.message r)
  | format {name : String} {value : Json} (given : node.own.format = some name)
      (unknown : context.formats.find? name = none) :
      Defect context scope node value ("'format' validation of '" ++ name ++ "' is not supported")

section Reported

variable {context : Context} {scope : Scope} {node : Node} {value : Json} {message : String} {found : Findings}

theorem all_reports {checks : List Check} {check : Check} (member : check ∈ checks)
    (reports : ∀ own, (check value).outcome = .ok own → message ∈ own)
    (returned : (Check.all checks value).outcome = .ok found) : message ∈ found := by
  obtain ⟨results, each, last⟩ := (Logged.and_then_ok _ _ found).mp returned
  cases last
  obtain ⟨own, kept, answered⟩ := Logged.each_ok_member _ checks results each check member
  exact List.mem_flatten.mpr ⟨own, kept, reports own answered⟩

theorem group_reports {formats : Formats} {refer : Expansion} {check : Check} (group : Traced (List Check))
    (member : group ∈ node.groups formats refer scope)
    (reports : ∀ own, group.outcome = .ok own → ∃ part ∈ own, ∀ found, (part value).outcome = .ok found → message ∈ found)
    (compiled : (node.check formats refer scope).outcome = .ok check) (returned : (check value).outcome = .ok found) :
    message ∈ found := by
  rw [check_eq, checks_eq] at compiled
  obtain ⟨checks, joined, last⟩ := (Logged.and_then_ok _ _ check).mp compiled
  cases last
  obtain ⟨own, grouped, kept⟩ := Logged.joined_ok_member _ checks joined group member
  obtain ⟨part, inside, rejects⟩ := reports own grouped
  exact all_reports (kept inside) rejects returned

theorem reject_reports {message : String} (returned : (Check.reject message value).outcome = .ok found) :
    message ∈ found := by
  cases returned
  exact List.mem_singleton.mpr rfl

theorem key_reported {formats : Formats} {refer : Expansion} {entry : String × Node} {defect : Pattern.Defect}
    {members : List (String × Json)} {own : List Check} (given : entry ∈ node.patternProperties.getD [])
    (refused : Pattern.compile entry.1 = .error (.defective defect))
    (compiled : (node.propertyGroup formats refer scope).outcome = .ok own) : ∃ part ∈ own, ∀ found,
      (part (.object members)).outcome = .ok found →
        "Pattern '" ++ entry.1 ++ "' of 'patternProperties' is not a valid regular expression" ∈ found := by
  have speaks : node.speaksOfMembers = true := by
    unfold Node.speaksOfMembers
    cases patterns : node.patternProperties <;> simp_all
  rw [Node.propertyGroup, if_pos speaks] at compiled
  obtain ⟨declared, _, afterDeclared⟩ := (Logged.and_then_ok _ _ own).mp compiled
  obtain ⟨patterns, read, afterPatterns⟩ := (Logged.and_then_ok _ _ own).mp afterDeclared
  obtain ⟨rest, _, afterRest⟩ := (Logged.and_then_ok _ _ own).mp afterPatterns
  obtain ⟨check, made, last⟩ := (Logged.and_then_ok _ _ own).mp afterRest
  cases last
  obtain ⟨_, rfl⟩ := Keyword.properties_ok.mp made
  obtain ⟨source, kept, first⟩ := Logged.each_ok_member _ _ _ read entry given
  obtain ⟨_, _, same⟩ := (Logged.and_then_ok _ _ _).mp first
  have name : entry.1 = source.1 := congrArg Prod.fst (Except.ok.inj same)
  refine ⟨_, List.mem_singleton.mpr rfl, fun found returned => ?_⟩
  obtain ⟨results, _, last⟩ := (Logged.and_then_ok _ _ found).mp returned
  cases last
  refine List.mem_append_left _ (List.mem_filterMap.mpr ⟨source, kept, ?_⟩)
  rw [Keyword.defectOf, ← name, Keyword.meaning?, refused]
  rfl

theorem defect_reported {check : Check} (defect : node.Defect context scope value message)
    (compiled : (node.check context.formats (refer context) scope).outcome = .ok check)
    (returned : (check value).outcome = .ok found) : message ∈ found := by
  cases defect with
  | @pattern source text defect given refused =>
      refine group_reports (patternChecks node.own.pattern) (by simp [Node.groups, plainChecks]) (fun own made => ?_)
        compiled returned
      rw [given] at made
      obtain ⟨part, read, last⟩ := (Logged.and_then_ok _ _ own).mp made
      cases last
      refine ⟨part, List.mem_singleton.mpr rfl, fun found answered => ?_⟩
      rw [Keyword.pattern, Keyword.readPattern, refused] at read
      cases read
      cases answered
      exact List.mem_singleton.mpr rfl
  | key given refused =>
      exact group_reports (node.propertyGroup context.formats (refer context) scope.descend) (by simp [Node.groups])
        (fun own made => key_reported given refused made) compiled returned
  | divisor given bad =>
      refine group_reports (whenWritten node.own.multipleOf Keyword.badDivisors Keyword.multipleOf)
        (by simp [Node.groups, plainChecks]) (fun own made => ?_) compiled returned
      rw [given] at made
      obtain ⟨_, _, last⟩ := (Logged.and_then_ok _ _ own).mp made
      cases last
      refine ⟨_, List.mem_singleton.mpr rfl, fun found answered => ?_⟩
      rw [Keyword.multipleOf, if_pos bad] at answered
      cases answered
      exact List.mem_singleton.mpr rfl
  | circular given again =>
      refine group_reports (referenceChecks (refer context) scope node.own.reference) (by simp [Node.groups])
        (fun own made => ?_) compiled returned
      rw [given, referenceChecks, refer_circular again] at made
      cases made
      exact ⟨_, List.mem_singleton.mpr rfl, fun found => reject_reports⟩
  | @unresolved r fault value given first failed =>
      refine group_reports (referenceChecks (refer context) scope node.own.reference) (by simp [Node.groups])
        (fun own made => ?_) compiled returned
      rw [given, referenceChecks, refer_unresolved first failed] at made
      cases fault with
      | tooManyDigits count => cases made
      | remote =>
          cases made
          exact ⟨_, List.mem_singleton.mpr rfl, fun found => reject_reports⟩
      | notFound step =>
          cases made
          exact ⟨_, List.mem_singleton.mpr rfl, fun found => reject_reports⟩
  | format given unknown =>
      refine group_reports (formatChecks context.formats node.own.format) (by simp [Node.groups]) (fun own made => ?_)
        compiled returned
      rw [given, formatChecks, unknown] at made
      cases made
      exact ⟨_, List.mem_singleton.mpr rfl, fun found => reject_reports⟩

theorem root_defect_reported {schema : Schema} (defect : schema.root.Defect schema.context rootScope value message)
    (returned : (schema.validate value).outcome = .ok found) : message ∈ found := by
  rw [validate_run] at returned
  obtain ⟨check, made, answered⟩ := (Logged.and_then_ok _ _ found).mp returned
  exact defect_reported defect made answered

end Reported

theorem validation_breaks {document value : Json} {fault : Fault} (returned : (ofDocument document []).compile.Returns)
    (failed : ((ofDocument document []).validate value).outcome = .error fault) :
    ∃ node part, (ofDocument document []).context.Compiled node ∧ Contains value part ∧ node.Breaks part fault := by
  obtain ⟨legible, writable, short⟩ := compile_reads_all (ofDocument document []) returned
  cases validation_fails legible failed with
  | index reachable unresolvable => exact absurd unresolvable (short _ _ reachable)
  | limit compiled written long => exact absurd (writable _ compiled _ written) (Bool.eq_false_iff.mp long)
  | breaks compiled contained breaks => exact ⟨_, _, compiled, contained, breaks⟩
  | format _ _ _ supplied _ => exact absurd supplied List.not_mem_nil

theorem problems_reported (document : Json) :
    let schema := ofDocument document []
    (schema.compile.Returns ↔ schema.context.Legible ∧ schema.context.Writable ∧ schema.context.ShortIndices) ∧
    (schema.compile.Returns → ∀ value fault, (schema.validate value).outcome = .error fault →
      ∃ node part, schema.context.Compiled node ∧ Contains value part ∧ node.Breaks part fault) ∧
    (schema.compile.Returns → document.isWritable = true → ∀ value, value.isWritable = true →
      schema.context.Uncrossed value → (schema.validate value).Returns) ∧
    (∀ n divisor : Number, Keyword.isBadDivisor divisor = false → ∃ answer, n.isMultipleOf divisor = .ok answer) ∧
    (∀ divisor value fault, (Keyword.multipleOf divisor value).outcome = .error fault → fault = .tooManyDigits none) ∧
    (∀ (node : Node) (scope : Scope) (value : Json) (message : String) (check : Check) (found : Findings),
      node.Defect schema.context scope value message →
        (node.check schema.formats (refer schema.context) scope).outcome = .ok check →
          (check value).outcome = .ok found → message ∈ found) ∧
    (∀ value found, (schema.validate value).outcome = .ok found →
      ∀ message, schema.root.Defect schema.context rootScope value message → message ∈ found) ∧
    Check.Consistent := by
  intro schema
  refine ⟨⟨compile_reads_all schema, fun readable => compile_returns schema readable.1 readable.2.1 readable.2.2⟩,
    fun returned value fault => validation_breaks returned, fun returned written value shown uncrossed => ?_,
    Keyword.quotient_exists, fun divisor value fault failed => (Keyword.multiple_of_fault failed).1,
    fun node scope value message check found defect compiled returned => defect_reported defect compiled returned,
    fun value found returned message defect => root_defect_reported defect returned, Check.consistent⟩
  obtain ⟨legible, _, short⟩ := compile_reads_all schema returned
  exact validation_returns legible short ⟨written, shown⟩ uncrossed fun _ _ supplied => absurd supplied List.not_mem_nil

theorem problems_reported_for_nonsense :
    let schema := ofDocument (.object [("$ref", .string "#"), ("format", .string "date"),
      ("multipleOf", .number (.integer (-2)))]) []
    schema.compile.Returns ∧ ∃ found, (schema.validate (.number (.integer 3))).outcome = .ok found ∧
      circularMessage "#" ∈ found ∧ "'format' validation of '" ++ "date" ++ "' is not supported" ∈ found ∧
        "'multipleOf' must be greater than 0, got " ++ Number.plain (.integer (-2)) ∈ found := by
  intro schema
  have returned : schema.compile.Returns := ⟨_, rfl⟩
  have answered : ∃ found, (schema.validate (.number (.integer 3))).outcome = .ok found := ⟨_, rfl⟩
  obtain ⟨found, answered⟩ := answered
  obtain ⟨_, _, _, _, _, _, told, _⟩ := problems_reported (.object [("$ref", .string "#"), ("format", .string "date"),
    ("multipleOf", .number (.integer (-2)))])
  have told := told _ found answered
  exact ⟨returned, found, answered, told _ (.circular rfl (by decide)), told _ (.format rfl rfl), told _ (.divisor rfl rfl)⟩

-- A count that is too large is no defect of a pattern but a fault, and it leaves the engine.
theorem count_not_reported :
    ((ofDocument (.object [("pattern", .string "a{99999999999}")]) []).validate (.string "a")).outcome
      = .error .countTooLarge := by
  have raised : (match ((ofDocument (.object [("pattern", .string "a{99999999999}")]) []).validate (.string "a")).outcome with
      | .error fault => fault == .countTooLarge
      | .ok _ => false) = true := by
    decide +kernel
  split at raised
  · rename_i fault failed
    rw [failed, beq_iff_eq.mp raised]
  · cases raised

end Conform.Schema
