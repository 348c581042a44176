import Conform.Proofs.Division
import Conform.Schema.Node

set_option autoImplicit false

namespace Conform

namespace Json

theorem are_writable_iff (items : List Json) : areWritable items = true ↔ ∀ item ∈ items, item.isWritable = true := by
  induction items with
  | nil => simp [areWritable]
  | cons item rest ih => rw [areWritable, Bool.and_eq_true, ih, List.forall_mem_cons]

theorem members_writable_iff (members : List (String × Json)) :
    membersWritable members = true ↔ ∀ entry ∈ members, entry.2.isWritable = true := by
  induction members with
  | nil => simp [membersWritable]
  | cons entry rest ih => rw [membersWritable, Bool.and_eq_true, ih, List.forall_mem_cons]

end Json

namespace Keyword

theorem write_returns (numbers : List Number) : (write numbers).Returns ↔ ∀ n ∈ numbers, n.isWritable = true := by
  rw [← List.all_eq_true]
  unfold write
  split
  case isTrue writable => exact iff_of_true ⟨(), rfl⟩ writable
  case isFalse long => exact iff_of_false (fun ⟨_, returned⟩ => nomatch returned) long

theorem write_fault {numbers : List Number} {fault : Fault} (failed : (write numbers).outcome = .error fault) :
    fault = .tooManyDigits none ∧ ∃ n ∈ numbers, n.isWritable = false := by
  unfold write at failed
  split at failed
  case isTrue => cases failed
  case isFalse long =>
    cases failed
    exact ⟨rfl, by simpa using long⟩

theorem write_silent (numbers : List Number) : (write numbers).log = [] := by
  unfold write
  split <;> rfl

section Showing

variable {shown : Json → List Json} {judge : Json → Findings} {value : Json}

theorem showing_ok {found : Findings} : (showing shown judge value).outcome = .ok found ↔
    found = judge value ∧ (judge value = [] ∨ ∀ part ∈ shown value, part.isWritable = true) := by
  have writable : ((judge value).isEmpty || (shown value).all Json.isWritable) = true ↔
      judge value = [] ∨ ∀ part ∈ shown value, part.isWritable = true := by simp
  rw [← writable]
  unfold showing
  dsimp only
  split
  case isTrue whole => simp [Logged.result, whole, eq_comm]
  case isFalse long => simp [Logged.fault, long]

theorem showing_fault {fault : Fault} (failed : (showing shown judge value).outcome = .error fault) :
    fault = .tooManyDigits none ∧ judge value ≠ [] ∧ ∃ part ∈ shown value, part.isWritable = false := by
  unfold showing at failed
  dsimp only at failed
  split at failed
  case isTrue => cases failed
  case isFalse long =>
    cases failed
    exact ⟨rfl, by simpa using long⟩

theorem showing_silent (shown : Json → List Json) (judge : Json → Findings) (value : Json) :
    (showing shown judge value).log = [] := by
  unfold showing
  dsimp only
  split <;> rfl

end Showing

def refusal (divisor value : Number) : Findings :=
  [value.plain ++ " is not a multiple of " ++ divisor.plain]

theorem multiple_of_good {divisor : Number} (good : isBadDivisor divisor = false) (n : Number) :
    ∃ answer, n.isMultipleOf divisor = .ok answer ∧ multipleOf divisor (.number n) =
      if answer then .result [] else (write [n, divisor]).andThen fun _ => .result (refusal divisor n) := by
  obtain ⟨answer, known⟩ := quotient_exists n divisor good
  refine ⟨answer, known, ?_⟩
  simp only [multipleOf, good, known]
  cases answer <;> rfl

theorem multiple_of_fault {divisor : Number} {value : Json} {fault : Fault}
    (failed : (multipleOf divisor value).outcome = .error fault) :
    fault = .tooManyDigits none ∧ ∃ n, value = .number n ∧ isBadDivisor divisor = false ∧
      n.isMultipleOf divisor = .ok false ∧ (n.isWritable = false ∨ divisor.isWritable = false) := by
  cases value with
  | number n =>
      by_cases bad : isBadDivisor divisor = true
      · rw [multipleOf, if_pos bad] at failed
        cases failed
      · have good := Bool.eq_false_iff.mpr bad
        obtain ⟨answer, known, whole⟩ := multiple_of_good good n
        rw [whole] at failed
        cases answer with
        | true => cases failed
        | false =>
            rw [if_neg Bool.false_ne_true, Logged.and_then_outcome] at failed
            cases written : (write [n, divisor]).outcome with
            | ok =>
                rw [written] at failed
                cases failed
            | error other =>
                rw [written] at failed
                cases failed
                obtain ⟨same, long⟩ := write_fault written
                exact ⟨same, n, rfl, good, known, by simpa using long⟩
  | _ => cases failed

theorem multiple_of_silent (divisor : Number) (value : Json) : (multipleOf divisor value).log = [] := by
  cases value with
  | number n =>
      by_cases bad : isBadDivisor divisor = true
      · rw [multipleOf, if_pos bad]
        rfl
      · obtain ⟨answer, _, whole⟩ := multiple_of_good (Bool.eq_false_iff.mpr bad) n
        rw [whole]
        unfold write
        cases answer
        · rw [if_neg Bool.false_ne_true]
          split <;> rfl
        · rfl
  | _ => rfl

theorem first_repeated_member {items : List Json} {item : Json} (found : firstRepeated items = some item) : item ∈ items := by
  induction items with
  | nil => cases found
  | cons head tail ih =>
      rw [firstRepeated] at found
      split at found
      · exact Option.some.inj found ▸ List.mem_cons_self
      · exact List.mem_cons_of_mem _ (ih found)

theorem repeated_writable {value part : Json} (writable : value.isWritable = true) (shown : part ∈ repeated value) :
    part.isWritable = true := by
  cases value with
  | array items =>
      have member := first_repeated_member (Option.mem_toList.mp shown)
      exact (Json.are_writable_iff items).mp writable part member
  | _ => cases shown

end Keyword

namespace Schema

def Assertions.written (own : Assertions) : List Number :=
  ([own.maxLength, own.minLength, own.minItems, own.maxItems, own.maxProperties, own.minProperties].filterMap id).map .integer
    ++ own.minimum.toList ++ own.maximum.toList ++ own.multipleOf.toList.flatMap Keyword.badDivisors

def Assertions.judges (own : Assertions) : List Check :=
  own.kinds.toList.map Keyword.typeCheck ++ own.values.toList.map Keyword.enumCheck
    ++ own.multipleOf.toList.map Keyword.multipleOf ++ if own.uniqueItems then [Keyword.uniqueItemsCheck] else []

def Assertions.Long (own : Assertions) (value : Json) : Prop :=
  value.isWritable = false ∨ (∃ values, own.values = some values ∧ Json.areWritable values = false) ∨
    ∃ divisor, own.multipleOf = some divisor ∧ divisor.isWritable = false

theorem judge_cases {own : Assertions} {check : Check} (member : check ∈ own.judges) :
    (∃ kinds, check = Keyword.typeCheck kinds) ∨ (∃ values, own.values = some values ∧ check = Keyword.enumCheck values) ∨
      (∃ divisor, own.multipleOf = some divisor ∧ check = Keyword.multipleOf divisor) ∨ check = Keyword.uniqueItemsCheck := by
  simp only [Assertions.judges, List.mem_append, List.mem_map, Option.mem_toList] at member
  rcases member with ((⟨kinds, _, rfl⟩ | ⟨values, given, rfl⟩) | ⟨divisor, given, rfl⟩) | unique
  · exact .inl ⟨kinds, rfl⟩
  · exact .inr (.inl ⟨values, given, rfl⟩)
  · exact .inr (.inr (.inl ⟨divisor, given, rfl⟩))
  · split at unique
    · exact .inr (.inr (.inr (List.mem_singleton.mp unique)))
    · cases unique

theorem judge_fault {own : Assertions} {check : Check} {value : Json} {fault : Fault} (member : check ∈ own.judges)
    (failed : (check value).outcome = .error fault) : fault = .tooManyDigits none ∧ own.Long value := by
  rcases judge_cases member with ⟨kinds, rfl⟩ | ⟨values, given, rfl⟩ | ⟨divisor, given, rfl⟩ | rfl
  · obtain ⟨same, _, part, shown, long⟩ := Keyword.showing_fault failed
    split at shown
    · cases shown
    · obtain rfl := List.mem_singleton.mp shown
      exact ⟨same, .inl long⟩
  · obtain ⟨same, _, part, shown, long⟩ := Keyword.showing_fault failed
    rcases List.mem_cons.mp shown with rfl | literal
    · exact ⟨same, .inl long⟩
    · obtain rfl := List.mem_singleton.mp literal
      exact ⟨same, .inr (.inl ⟨values, given, long⟩)⟩
  · obtain ⟨same, n, rfl, _, _, long | long⟩ := Keyword.multiple_of_fault failed
    · exact ⟨same, .inl long⟩
    · exact ⟨same, .inr (.inr ⟨divisor, given, long⟩)⟩
  · obtain ⟨same, _, part, shown, long⟩ := Keyword.showing_fault failed
    refine ⟨same, .inl (Bool.eq_false_iff.mpr fun writable => ?_)⟩
    rw [Keyword.repeated_writable writable shown] at long
    cases long

theorem judge_silent {own : Assertions} {check : Check} (member : check ∈ own.judges) (value : Json) :
    (check value).log = [] := by
  rcases judge_cases member with ⟨kinds, rfl⟩ | ⟨values, _, rfl⟩ | ⟨divisor, _, rfl⟩ | rfl
  · exact Keyword.showing_silent _ _ value
  · exact Keyword.showing_silent _ _ value
  · exact Keyword.multiple_of_silent divisor value
  · exact Keyword.showing_silent _ _ value

end Schema

end Conform
