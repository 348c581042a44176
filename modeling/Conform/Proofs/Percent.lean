import Conform.Text.Percent
import Mathlib.Data.List.Forall2
import Mathlib.Data.Set.Defs

set_option autoImplicit false

namespace Conform

namespace Utf8

theorem is_continuation_iff (byte : UInt8) :
    isContinuation byte = true ↔ 0x80 ≤ byte.toNat ∧ byte.toNat ≤ 0xBF := by
  simp [isContinuation, UInt8.le_iff_toNat_le]

theorem size_of_first (first : UInt8) : size? first =
    if first.toNat < 0x80 then some 1
    else if first.toNat < 0xC2 then none
    else if first.toNat < 0xE0 then some 2
    else if first.toNat < 0xF0 then some 3
    else if first.toNat < 0xF5 then some 4
    else none := by
  simp only [size?, UInt8.lt_iff_toNat_lt]
  rfl

theorem suits_iff (first second : UInt8) : suits first second = true ↔
    isContinuation second = true ∧ (first.toNat = 0xE0 → 0xA0 ≤ second.toNat) ∧
      (first.toNat = 0xED → second.toNat < 0xA0) ∧ (first.toNat = 0xF0 → 0x90 ≤ second.toNat) ∧
      (first.toNat = 0xF4 → second.toNat < 0x90) := by
  simp [suits, UInt8.lt_iff_toNat_lt, UInt8.le_iff_toNat_le, ← UInt8.toNat_inj, and_assoc, Decidable.imp_iff_not_or]

theorem front_char {first : UInt8} {rest : List UInt8} {size : Nat} (sized : size? first = some size) (several : size ≠ 1)
    (agreed : agreement first size rest = size - 1) :
    front first rest = .char (Char.ofNat (codeOf first size rest)) size := by
  unfold front
  rw [sized]
  split
  · contradiction
  · rename_i same
    exact absurd (Option.some.inj same) several
  · rename_i same
    obtain rfl := Option.some.inj same
    exact if_pos agreed

section Encoded

variable {code : Nat} {first second third fourth : UInt8} {more : List UInt8}

theorem front_one (low : code < 0x80) (lead : first.toNat = code) : front first more = .char (Char.ofNat code) 1 := by
  have sized : size? first = some 1 := by
    rw [size_of_first, if_pos (by omega)]
  simp only [front, sized, lead]

theorem front_two (low : 0x80 ≤ code) (high : code ≤ 0x7ff) (lead : first.toNat = code / 64 + 0xC0)
    (last : second.toNat = code % 64 + 0x80) : front first (second :: more) = .char (Char.ofNat code) 2 := by
  have sized : size? first = some 2 := by
    rw [size_of_first, if_neg (by omega), if_neg (by omega), if_pos (by omega)]
  have suited : suits first second = true := by
    rw [suits_iff, is_continuation_iff]
    omega
  have read : codeOf first 2 (second :: more) = code := by
    simp [codeOf]
    omega
  rw [front_char sized (by decide) (by simp [agreement, suited]), read]

theorem front_three (low : 0x800 ≤ code) (high : code ≤ 0xffff) (scalar : code < 0xD800 ∨ 0xDFFF < code)
    (lead : first.toNat = code / 4096 + 0xE0) (middle : second.toNat = code / 64 % 64 + 0x80)
    (last : third.toNat = code % 64 + 0x80) : front first (second :: third :: more) = .char (Char.ofNat code) 3 := by
  have sized : size? first = some 3 := by
    rw [size_of_first, if_neg (by omega), if_neg (by omega), if_neg (by omega), if_pos (by omega)]
  have suited : suits first second = true := by
    rw [suits_iff, is_continuation_iff]
    omega
  have continued : isContinuation third = true := by
    rw [is_continuation_iff]
    omega
  have read : codeOf first 3 (second :: third :: more) = code := by
    simp [codeOf]
    omega
  rw [front_char sized (by decide) (by simp [agreement, suited, continued]), read]

theorem front_four (low : 0x10000 ≤ code) (high : code < 0x110000) (lead : first.toNat = code / 262144 + 0xF0)
    (next : second.toNat = code / 4096 % 64 + 0x80) (middle : third.toNat = code / 64 % 64 + 0x80)
    (last : fourth.toNat = code % 64 + 0x80) :
    front first (second :: third :: fourth :: more) = .char (Char.ofNat code) 4 := by
  have sized : size? first = some 4 := by
    rw [size_of_first, if_neg (by omega), if_neg (by omega), if_neg (by omega), if_neg (by omega), if_pos (by omega)]
  have suited : suits first second = true := by
    rw [suits_iff, is_continuation_iff]
    omega
  have continued : isContinuation third = true ∧ isContinuation fourth = true := by
    rw [is_continuation_iff, is_continuation_iff]
    omega
  have read : codeOf first 4 (second :: third :: fourth :: more) = code := by
    simp [codeOf]
    omega
  rw [front_char sized (by decide) (by simp [agreement, suited, continued]), read]

end Encoded

theorem byte_value {n m : Nat} (small : n < 256) (same : n = m) : (UInt8.ofNat n).toNat = m :=
  (UInt8.toNat_ofNat_of_lt' small).trans same

theorem front_encoded (c : Char) (more : List UInt8) : ∃ first rest, String.utf8EncodeChar c = first :: rest ∧
    front first (rest ++ more) = .char c (rest.length + 1) := by
  have valid : c.val.toNat < 0xD800 ∨ 0xDFFF < c.val.toNat ∧ c.val.toNat < 0x110000 := c.valid
  have back : Char.ofNat c.val.toNat = c := Char.ofNat_toNat c
  by_cases one : c.val.toNat ≤ 0x7f
  · refine ⟨_, _, if_pos one, (front_one (by omega) ?_).trans (congrArg (Front.char · 1) back)⟩
    exact byte_value (by omega) rfl
  · by_cases two : c.val.toNat ≤ 0x7ff
    · refine ⟨_, _, (if_neg one).trans (if_pos two), ?_⟩
      refine (front_two (by omega) two ?_ ?_).trans (congrArg (Front.char · 2) back)
      all_goals exact byte_value (by omega) (by omega)
    · by_cases three : c.val.toNat ≤ 0xffff
      · refine ⟨_, _, (if_neg one).trans ((if_neg two).trans (if_pos three)), ?_⟩
        refine (front_three (by omega) three (by omega) ?_ ?_ ?_).trans (congrArg (Front.char · 3) back)
        all_goals exact byte_value (by omega) (by omega)
      · refine ⟨_, _, (if_neg one).trans ((if_neg two).trans (if_neg three)), ?_⟩
        refine (front_four (by omega) (by omega) ?_ ?_ ?_ ?_).trans (congrArg (Front.char · 4) back)
        all_goals exact byte_value (by omega) (by omega)

theorem decode_encoded_char (c : Char) (more : List UInt8) (budget : Nat) :
    decodeReplacing (budget + 1) (String.utf8EncodeChar c ++ more) = c :: decodeReplacing budget more := by
  obtain ⟨first, rest, bytes, read⟩ := front_encoded c more
  rw [bytes, List.cons_append, decodeReplacing, read]
  simp

theorem decode_encoded (text : List Char) (budget : Nat) (enough : text.length ≤ budget) :
    decodeReplacing budget (text.flatMap String.utf8EncodeChar) = text := by
  induction text generalizing budget with
  | nil => cases budget <;> rfl
  | cons c rest ih =>
      cases budget with
      | zero => simp at enough
      | succ budget =>
          rw [List.flatMap_cons, decode_encoded_char, ih budget (Nat.le_of_succ_le_succ enough)]

theorem encoded_length (text : List Char) : text.length ≤ (text.flatMap String.utf8EncodeChar).length := by
  induction text with
  | nil => simp
  | cons c rest ih =>
      have some : 0 < (String.utf8EncodeChar c).length := List.length_pos_iff.mpr String.utf8EncodeChar_ne_nil
      simp only [List.flatMap_cons, List.length_append, List.length_cons]
      omega

theorem text_encoded (text : List Char) : toTextReplacing (text.flatMap String.utf8EncodeChar) = text :=
  decode_encoded text _ (encoded_length text)

end Utf8

namespace Text

def Sequence (byte : UInt8) (written : List Char) : Prop :=
  ∃ a b, written = ['%', a, b] ∧ isHexDigit a = true ∧ isHexDigit b = true ∧ valueIn 16 [a, b] = byte.toNat

inductive Written (chosen : Set Char) : List Char → List Char → Prop where
  | nil : Written chosen [] []
  | plain {c : Char} {text written : List Char} (kept : c ∉ chosen) (rest : Written chosen text written) :
      Written chosen (c :: text) (c :: written)
  | coded {c : Char} {sequences : List (List Char)} {text written : List Char} (hidden : c ∈ chosen)
      (bytes : List.Forall₂ Sequence (String.utf8EncodeChar c) sequences) (rest : Written chosen text written) :
      Written chosen (c :: text) (sequences.flatten ++ written)

variable {chosen : Set Char} {text written : List Char}

theorem percent_bytes_plain {c : Char} (other : c ≠ '%') (rest : List Char) :
    percentBytes (c :: rest) = UInt8.ofNat c.toNat :: percentBytes rest := by
  rw [percentBytes]
  intro a b more same
  exact absurd same other

theorem percent_bytes_sequence {byte : UInt8} {sequence : List Char} (coded : Sequence byte sequence) (rest : List Char) :
    percentBytes (sequence ++ rest) = byte :: percentBytes rest := by
  obtain ⟨a, b, rfl, first, second, value⟩ := coded
  rw [List.cons_append, List.cons_append, List.cons_append, List.nil_append, percentBytes, if_pos ⟨first, second⟩, value,
    UInt8.ofNat_toNat]

theorem percent_bytes_sequences {bytes : List UInt8} {sequences : List (List Char)}
    (coded : List.Forall₂ Sequence bytes sequences) (rest : List Char) :
    percentBytes (sequences.flatten ++ rest) = bytes ++ percentBytes rest := by
  induction coded with
  | nil => rfl
  | cons first _ ih => rw [List.flatten_cons, List.append_assoc, percent_bytes_sequence first, ih, List.cons_append]

theorem hex_digit_ascii {c : Char} (digit : isHexDigit c = true) : c.toNat < 128 := by
  simp only [isHexDigit, isDigit, Bool.or_eq_true, Bool.and_eq_true, decide_eq_true_eq, Char.le_def,
    UInt32.le_iff_toNat_le] at digit
  change c.val.toNat < 128
  rcases digit with (⟨_, high⟩ | ⟨_, high⟩) | ⟨_, high⟩
  · exact Nat.lt_of_le_of_lt high (by decide)
  · exact Nat.lt_of_le_of_lt high (by decide)
  · exact Nat.lt_of_le_of_lt high (by decide)

theorem sequence_ascii {byte : UInt8} {sequence : List Char} (coded : Sequence byte sequence) :
    ∀ c ∈ sequence, c.toNat < 128 := by
  obtain ⟨a, b, rfl, first, second, _⟩ := coded
  simp [hex_digit_ascii first, hex_digit_ascii second]

theorem sequences_ascii {bytes : List UInt8} {sequences : List (List Char)} (coded : List.Forall₂ Sequence bytes sequences) :
    ∀ c ∈ sequences.flatten, c.toNat < 128 := by
  induction coded with
  | nil => simp
  | cons first _ ih =>
      intro c member
      rcases List.mem_append.mp (List.flatten_cons ▸ member) with here | later
      · exact sequence_ascii first c here
      · exact ih c later

theorem written_append {first second : List Char} (left : Written chosen text first) {more : List Char}
    (right : Written chosen more second) : Written chosen (text ++ more) (first ++ second) := by
  induction left with
  | nil => exact right
  | plain kept _ ih => exact .plain kept ih
  | coded hidden bytes _ ih =>
      rw [List.append_assoc]
      exact .coded hidden bytes ih

theorem written_bytes (percent : '%' ∈ chosen) (writes : Written chosen text written)
    (ascii : ∀ c ∈ written, c.toNat < 128) : percentBytes written = text.flatMap String.utf8EncodeChar := by
  induction writes with
  | nil => rfl
  | @plain c text written kept _ ih =>
      obtain ⟨low, later⟩ := List.forall_mem_cons.mp ascii
      have other : c ≠ '%' := fun same => kept (same ▸ percent)
      have single : String.utf8EncodeChar c = [UInt8.ofNat c.toNat] := if_pos (Nat.le_of_lt_succ low)
      rw [percent_bytes_plain other, ih later, List.flatMap_cons, single, List.singleton_append]
  | coded _ bytes _ ih =>
      rw [percent_bytes_sequences bytes, ih fun c member => ascii c (List.mem_append_right _ member), List.flatMap_cons]

theorem run_decoded (percent : '%' ∈ chosen) (writes : Written chosen text written)
    (ascii : ∀ c ∈ written, c.toNat < 128) : Utf8.toTextReplacing (percentBytes written) = text := by
  rw [written_bytes percent writes ascii, Utf8.text_encoded]

theorem percent_runs_ascii (front : List Char) (ascii : ∀ c ∈ front, c.toNat < 128) (run rest : List Char) :
    percentRuns run (front ++ rest) = percentRuns (front.reverse ++ run) rest := by
  induction front generalizing run with
  | nil => rfl
  | cons c front ih =>
      obtain ⟨low, later⟩ := List.forall_mem_cons.mp ascii
      rw [List.cons_append, percentRuns, if_pos low, ih later, List.reverse_cons, List.append_assoc, List.singleton_append]

theorem percent_runs_written (percent : '%' ∈ chosen) (writes : Written chosen text written) {before run : List Char}
    (earlier : Written chosen before run.reverse) (ascii : ∀ c ∈ run, c.toNat < 128) :
    percentRuns run written = before ++ text := by
  -- The run so far is ASCII and writes the text before, so a character that is not ASCII may end it anywhere.
  induction writes generalizing before run with
  | nil =>
      rw [percentRuns, run_decoded percent earlier (by simpa using ascii), List.append_nil]
  | @plain c text written kept _ ih =>
      by_cases low : c.toNat < 128
      · have longer : Written chosen (before ++ [c]) (c :: run).reverse := by
          rw [List.reverse_cons]
          exact written_append earlier (.plain kept .nil)
        rw [percentRuns, if_pos low, ih longer (List.forall_mem_cons.mpr ⟨low, ascii⟩), List.append_assoc,
          List.singleton_append]
      · rw [percentRuns, if_neg low, run_decoded percent earlier (by simpa using ascii), ih .nil (by simp), List.nil_append]
  | @coded c sequences text written hidden bytes _ ih =>
      have low := sequences_ascii bytes
      have longer : Written chosen (before ++ [c]) (sequences.flatten.reverse ++ run).reverse := by
        rw [List.reverse_append, List.reverse_reverse]
        have last := written_append earlier (.coded hidden bytes .nil)
        rwa [List.append_nil] at last
      have all : ∀ d ∈ sequences.flatten.reverse ++ run, d.toNat < 128 := by
        intro d member
        rcases List.mem_append.mp member with here | there
        · exact low d (List.mem_reverse.mp here)
        · exact ascii d there
      rw [percent_runs_ascii _ low, ih longer all, List.append_assoc, List.singleton_append]

theorem percent_decode_written (percent : '%' ∈ chosen) (writes : Written chosen text written) :
    percentDecode written = text := by
  have nothing : Written chosen [] ([] : List Char).reverse := .nil
  exact percent_runs_written percent writes nothing (by simp)

end Text

end Conform
