import Conform.Files.Volume
import Mathlib.Data.List.TakeWhile

set_option autoImplicit false

namespace Conform

namespace Json

theorem digit_other {c d : Char} (digit : Text.isDigit c = true) (other : Text.isDigit d = false) : c ≠ d := by
  rintro rfl
  exact absurd digit (Bool.eq_false_iff.mp other)

theorem read_value_digit {c : Char} (digit : Text.isDigit c = true) (budget : Nat) (rest : List Char) :
    readValue (budget + 1) (c :: rest) = readNumber (c :: rest) := by
  have wordless : readWord (c :: rest) = none := by
    simp [readWord, words, after?, (digit_other digit (by decide) : c ≠ 'n').symm, (digit_other digit (by decide) : c ≠ 't').symm,
      (digit_other digit (by decide) : c ≠ 'f').symm, (digit_other digit (by decide) : c ≠ 'N').symm,
      (digit_other digit (by decide) : c ≠ 'I').symm, (digit_other digit (by decide) : c ≠ '-').symm]
  rw [readValue, wordless]
  · exact fun _ same => absurd (List.cons.inj same).1 (digit_other digit (by decide))
  · exact fun _ same => absurd (List.cons.inj same).1 (digit_other digit (by decide))
  · exact fun _ same => absurd (List.cons.inj same).1 (digit_other digit (by decide))

theorem read_number_long {digits : List Char} (all : ∀ c ∈ digits, Text.isDigit c = true) (starts : digits.head? ≠ some '0')
    (long : Text.digitLimit < digits.length) : readNumber digits = stop (.tooManyDigits digits.length) digits := by
  cases digits with
  | nil => exact absurd long (Nat.not_lt_zero _)
  | cons c rest =>
      obtain ⟨digit, others⟩ := List.forall_mem_cons.mp all
      have unsigned : ((c :: rest).head? == some '-') = false := by
        simpa using digit_other digit (by decide : Text.isDigit '-' = false)
      have filled : (c :: rest).isEmpty = false := rfl
      have whole : wholeDigits (c :: rest) = c :: rest := by
        rw [wholeDigits, if_neg (fun zero => starts (congrArg some zero)), if_pos digit,
          List.takeWhile_eq_self_iff.mpr others]
      simp only [readNumber, unsigned, Bool.false_eq_true, if_false, whole, filled, List.drop_length, readFraction, readExponent,
        if_pos long]

theorem read_long_numeral {digits : List Char} (all : ∀ c ∈ digits, Text.isDigit c = true) (starts : digits.head? ≠ some '0')
    (long : Text.digitLimit < digits.length) :
    read (String.ofList digits) = .error ⟨.tooManyDigits digits.length, 0, 1, 1⟩ := by
  have stopped := read_number_long all starts long
  cases digits with
  | nil => exact absurd long (Nat.not_lt_zero _)
  | cons c rest =>
      have digit := all c List.mem_cons_self
      have solid : isSpace c = false := by
        have blank := digit_other digit (by decide : Text.isDigit ' ' = false)
        have tab := digit_other digit (by decide : Text.isDigit '\t' = false)
        have feed := digit_other digit (by decide : Text.isDigit '\n' = false)
        have ret := digit_other digit (by decide : Text.isDigit '\r' = false)
        simp [isSpace, blank, tab, feed, ret]
      have unmarked : (c :: rest).head? ≠ some '\ufeff' :=
        fun same => digit_other digit (by decide) (Option.some.inj same)
      have skipped : skipSpace (c :: rest) = c :: rest := by rw [skipSpace, solid]; rfl
      have failed : readDocument (c :: rest) = stop (.tooManyDigits (c :: rest).length) (c :: rest) := by
        rw [readDocument, if_neg unmarked, skipped]
        simp only [read_value_digit digit, stopped]
        rfl
      simp [read, String.toList_ofList, failed, stop, Stop.locate]

end Json

namespace Utf8

theorem decode_ascii {bytes : List UInt8} (ascii : ∀ byte ∈ bytes, byte < 0x80) (start : Nat) :
    decode bytes.length start bytes = .ok (bytes.map fun byte => Char.ofNat byte.toNat) := by
  induction bytes generalizing start with
  | nil => rfl
  | cons first rest ih =>
      obtain ⟨low, others⟩ := List.forall_mem_cons.mp ascii
      have one : front first rest = .char (Char.ofNat first.toNat) 1 := by simp only [front, size?, if_pos low]
      simp only [List.length_cons, decode, one, Nat.sub_self, List.drop_zero, ih others, Except.map, List.map_cons]

end Utf8

namespace Volume

theorem unify_plain {text : List Char} (plain : '\r' ∉ text) : unifyLineEnds text = text := by
  induction text with
  | nil => rfl
  | cons c rest ih =>
      obtain ⟨other, clean⟩ := List.ne_and_not_mem_of_not_mem_cons plain
      rw [unifyLineEnds, ih clean]
      · exact fun _ same => absurd same other.symm
      · exact fun same => absurd same other.symm

end Volume

end Conform
