import Conform.Keyword
import Conform.Proofs.Trace
import Conform.Report

set_option autoImplicit false

namespace Conform.Check

open Logged

def Reports (check : Check) (value : Json) (verdict : Bool) : Prop :=
  ∃ found, (check value).outcome = .ok found ∧ Report.make verdict found none = .ok ⟨found, none⟩

theorem make_iff {verdict : Bool} {found : Findings} :
    Report.make verdict found none = .ok ⟨found, none⟩ ↔ found.isEmpty = verdict := by
  unfold Report.make
  cases verdict <;> cases found.isEmpty <;> simp

theorem reports_of_returned {check : Check} {value : Json} {verdict : Bool} {found : Findings}
    (returned : (check value).outcome = .ok found) (agrees : found.isEmpty = verdict) : check.Reports value verdict :=
  ⟨found, returned, make_iff.mpr agrees⟩

theorem append_empty (before : Findings) (shares : List Findings) :
    (before ++ shares.flatten).isEmpty = (before.isEmpty && shares.all List.isEmpty) := by
  rw [Bool.eq_iff_iff, List.isEmpty_iff, List.append_eq_nil_iff, List.flatten_eq_nil_iff, Bool.and_eq_true, List.isEmpty_iff,
    List.all_eq_true]
  simp only [List.isEmpty_iff]

-- The verdict of a combination, made from the verdicts on its parts, goes with its messages.
structure Consistent : Prop where
  all : ∀ checks value shares, (outcomes checks value).outcome = .ok shares →
    (Check.all checks).Reports value (shares.all List.isEmpty)
  any : ∀ checks value shares, (outcomes checks value).outcome = .ok shares →
    (Check.any checks).Reports value (shares.any List.isEmpty)
  one : ∀ checks value shares, (outcomes checks value).outcome = .ok shares →
    (Check.one checks).Reports value (shares.countP List.isEmpty == 1)
  negate : ∀ check value share, (check value).outcome = .ok share → (Check.negate check).Reports value !share.isEmpty
  items : ∀ check values shares, (each check values).outcome = .ok shares →
    (Check.items check).Reports (.array values) (shares.all List.isEmpty)
  tuple : ∀ checks rest values shares, (positional rest checks values).outcome = .ok shares →
    (Check.tuple checks rest).Reports (.array values) (shares.all List.isEmpty)
  members : ∀ declared patterns defects rest entries shares, (each (member declared patterns rest) entries).outcome = .ok shares →
    (Check.members declared patterns defects rest).Reports (.object entries) (defects.isEmpty && shares.all List.isEmpty)
  further : ∀ rest key value share, (rest value).outcome = .ok share →
    Check.Reports (fun part => member [] [] rest (key, part)) value share.isEmpty
  required : ∀ keys entries, (ofFindings (Keyword.required keys)).Reports (.object entries)
    (keys.all fun key => hasMember key entries)
  dependency : ∀ key keys entries, (ofFindings (Keyword.dependency key keys)).Reports (.object entries)
    (!hasMember key entries || keys.all fun other => hasMember other entries)

theorem any_after_returned {checks : List Check} {value : Json} {found : List Findings}
    (returned : (outcomes checks value).outcome = .ok found) (before : Findings) :
    ∃ own, (anyAfter before checks value).outcome = .ok own ∧ (own = [] ↔ [] ∈ found) := by
  have answers := each_ok _ _ _ returned
  clear returned
  induction answers generalizing before with
  | nil =>
      refine ⟨_, rfl, ?_⟩
      cases before <;> simp
  | @cons check share checks found first _ ih =>
      have step : (anyAfter before (check :: checks) value).outcome =
          (if share.isEmpty then Logged.result [] else anyAfter (before ++ share) checks value).outcome := by
        rw [anyAfter, bind_eq, and_then_outcome, first]
        rfl
      rw [step]
      by_cases empty : share = []
      · exact ⟨[], by simp [empty, Logged.result], by simp [empty]⟩
      · obtain ⟨own, answered, accepts⟩ := ih (before ++ share)
        refine ⟨own, by simp [empty, answered], ?_⟩
        simp [accepts, Ne.symm empty]

theorem gathered_reports {check : Check} {value : Json} {x : Traced (List Findings)} {shares : List Findings} (before : Findings)
    (gathers : check value = x.andThen fun shares => .result (before ++ shares.flatten)) (returned : x.outcome = .ok shares) :
    check.Reports value (before.isEmpty && shares.all List.isEmpty) := by
  refine reports_of_returned ?_ (append_empty before shares)
  rw [gathers]
  exact (and_then_ok _ _ _).mpr ⟨shares, returned, rfl⟩

theorem one_reports {checks : List Check} {value : Json} {shares : List Findings}
    (returned : (outcomes checks value).outcome = .ok shares) :
    (one checks).Reports value (shares.countP List.isEmpty == 1) := by
  have step : (one checks value).outcome = _ := (and_then_outcome _ _).trans (congrArg (Except.bind · _) returned)
  by_cases single : shares.countP List.isEmpty = 1
  · refine reports_of_returned (step.trans (congrArg Logged.outcome (if_pos single))) ?_
    simp [single]
  · by_cases none : shares.countP List.isEmpty = 0
    · refine reports_of_returned (step.trans (congrArg Logged.outcome ((if_neg single).trans (if_pos none)))) ?_
      simp [none]
    · refine reports_of_returned (step.trans (congrArg Logged.outcome ((if_neg single).trans (if_neg none)))) ?_
      simp [single]

theorem filter_empty (keys : List String) (holds : String → Bool) (message : String → String) :
    ((keys.filter fun key => !holds key).map message).isEmpty = keys.all holds := by
  induction keys with
  | nil => rfl
  | cons key rest ih =>
      rw [List.filter_cons, List.all_cons, ← ih]
      cases holds key <;> rfl

theorem consistent : Consistent where
  all checks value shares returned := gathered_reports [] rfl returned
  any checks value shares returned := by
    obtain ⟨own, answered, accepts⟩ := any_after_returned returned []
    refine reports_of_returned answered ?_
    rw [Bool.eq_iff_iff, List.isEmpty_iff, accepts, List.any_eq_true]
    simp
  one _ _ _ := one_reports
  negate check value share returned := by
    refine reports_of_returned ((and_then_ok _ _ _).mpr ⟨share, returned, rfl⟩) ?_
    cases share <;> rfl
  items check values shares returned := gathered_reports [] rfl returned
  tuple checks rest values shares returned := gathered_reports [] rfl returned
  members declared patterns defects rest entries shares returned := gathered_reports defects rfl returned
  further rest key value share returned := by
    refine reports_of_returned ((and_then_ok _ _ _).mpr ⟨share, returned, rfl⟩) ?_
    cases share <;> rfl
  required keys entries := reports_of_returned rfl (filter_empty keys _ _)
  dependency key keys entries := by
    refine reports_of_returned rfl ?_
    simp only [Keyword.dependency]
    cases hasMember key entries with
    | true => exact filter_empty keys _ _
    | false => rfl

end Conform.Check
