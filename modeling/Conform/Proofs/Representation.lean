import Conform.Proofs.Acceptance
import Conform.Proofs.Rearrangement

set_option autoImplicit false

namespace Conform.Schema

theorem verdict_by_value (document document' value value' : Json) (extras : Formats)
    (documents : document.same document' = true) (values : value.same value' = true)
    (distinct : document.Distinct ∧ document'.Distinct ∧ value.Distinct ∧ value'.Distinct) (undivided : document.Undivided)
    (blind : extras.Every fun check => ∀ v w found, v.same w = true → v.Distinct → w.Distinct →
      (check v).outcome = .ok found → ∃ found', (check w).outcome = .ok found' ∧ (found = [] ↔ found' = [])) :
    let schema := ofDocument document extras
    let other := ofDocument document' extras
    ((schema.validate value).Returns ↔ (other.validate value').Returns) ∧
    (∀ found found', (schema.validate value).outcome = .ok found → (other.validate value').outcome = .ok found' →
      found.isEmpty = found'.isEmpty) ∧
    (schema.context.Legible → ∀ fault, (schema.validate value).outcome = .error fault →
      Fails schema.context extras value fault) := by
  intro schema other
  obtain ⟨left, right, leftValue, rightValue⟩ := distinct
  have supplied : extras.Every fun check => Likeness.byValue.Judges check check := by
    intro name check member v w like found returned
    obtain ⟨found', returned', verdict⟩ := blind name check member v w found (Json.same_of_like like)
      (Json.like_distinct (Json.like_symm like)) (Json.like_distinct like) returned
    exact ⟨found', returned', verdict, False.elim⟩
  have alike : schema.context.Like .byValue other.context :=
    ⟨Json.like_of_same documents left right, .inr undivided, rfl, formats_judged extras supplied⟩
  obtain ⟨ends, answers⟩ := validate_both_ways alike (Json.like_of_same values leftValue rightValue)
  exact ⟨ends, fun found found' returned returned' => answers_empty (answers found found' returned returned'),
    fun legible fault => validation_fails legible⟩

theorem verdict_by_value_for_one :
    let one := Json.number (.integer 1)
    let point := Json.number (.binary (.finite false 4503599627370496 (-52)))
    let document := Json.object [("minimum", one), ("enum", .array [one, .object [("a", .null), ("b", one)]])]
    let document' := Json.object [("enum", .array [point, .object [("b", point), ("a", .null)]]), ("minimum", point)]
    document.same document' = true ∧ one.same point = true ∧
      ∃ found found', ((ofDocument document []).validate one).outcome = .ok found ∧
        ((ofDocument document' []).validate point).outcome = .ok found' ∧ found = [] ∧ found.isEmpty = found'.isEmpty := by
  intro one point document document'
  have documents : document.same document' = true := by decide +kernel
  have values : one.same point = true := by decide +kernel
  have distinct : document.Distinct ∧ document'.Distinct ∧ one.Distinct ∧ point.Distinct := by
    simp [document, document', one, point]
  have undivided : document.Undivided := by simp [document, one, member?]
  obtain ⟨_, verdicts, _⟩ := verdict_by_value document document' one point [] documents values distinct undivided
    fun _ _ member => absurd member List.not_mem_nil
  have accepted : ((ofDocument document []).validate one).outcome = .ok [] := rfl
  have returned : ∃ found', ((ofDocument document' []).validate point).outcome = .ok found' := ⟨_, rfl⟩
  obtain ⟨found', returned⟩ := returned
  exact ⟨documents, values, [], found', accepted, returned, rfl, verdicts _ _ accepted returned⟩

end Conform.Schema
