import Conform.Proofs.Trace
import Conform.Text.Split
import Conform.Text.Trim
import Mathlib.Data.List.DropRight

set_option autoImplicit false

namespace Conform

namespace Text

def trimmedLines (text : List Char) : List (List Char) :=
  (split '\n' text).map trim

def leading (text : List Char) : List Char :=
  text.takeWhile isBlank

def trailing (text : List Char) : List Char :=
  (text.dropWhile isBlank).rtakeWhile isBlank

def numbered (first : Nat) (lines : List (List Char)) : List (List Char × Nat) :=
  (lines.zipIdx first).filter fun line => !line.1.isEmpty

def records (text : List Char) : List (List Char × Nat) :=
  numbered 1 (trimmedLines text)

theorem blank_feed : isBlank '\n' = true := by
  decide

theorem split_cons (mark : Char) (text : List Char) : ∃ piece pieces, split mark text = piece :: pieces := by
  cases text with
  | nil => exact ⟨[], [], rfl⟩
  | cons c rest =>
      by_cases same : c = mark
      · exact ⟨[], split mark rest, by simp [split, same]⟩
      · cases later : split mark rest with
        | nil => exact ⟨[c], [], by simp [split, same, later]⟩
        | cons piece pieces => exact ⟨c :: piece, pieces, by simp [split, same, later]⟩

theorem split_other {mark c : Char} (other : c ≠ mark) {rest piece : List Char} {pieces : List (List Char)}
    (later : split mark rest = piece :: pieces) : split mark (c :: rest) = (c :: piece) :: pieces := by
  simp [split, other, later]

theorem split_piece {mark : Char} {piece : List Char} (clean : mark ∉ piece) {rest front : List Char}
    {pieces : List (List Char)} (later : split mark rest = front :: pieces) :
    split mark (piece ++ rest) = (piece ++ front) :: pieces := by
  induction piece with
  | nil => exact later
  | cons c piece ih =>
      obtain ⟨other, clean⟩ := List.ne_and_not_mem_of_not_mem_cons clean
      rw [List.cons_append, split, if_neg (Ne.symm other), ih clean]
      rfl

theorem trim_eq (text : List Char) : trim text = (text.dropWhile isBlank).rdropWhile isBlank :=
  rfl

theorem trim_kept {text : List Char} (first : ∀ c ∈ text.head?, isBlank c = false)
    (last : ∀ c ∈ text.getLast?, isBlank c = false) : trim text = text := by
  have front : text.dropWhile isBlank = text := by
    cases text with
    | nil => rfl
    | cons c rest => exact List.dropWhile_cons_of_neg (Bool.eq_false_iff.mp (first c rfl))
  rw [trim_eq, front, List.rdropWhile_eq_self_iff]
  exact fun filled => Bool.eq_false_iff.mp (last _ (List.getLast?_eq_some_getLast filled))

theorem trim_before {c : Char} (blank : isBlank c = true) (text : List Char) : trim (c :: text) = trim text := by
  rw [trim_eq, trim_eq, List.dropWhile_cons_of_pos blank]

theorem trim_after {c : Char} (blank : isBlank c = true) (text : List Char) : trim (text ++ [c]) = trim text := by
  rw [trim_eq, trim_eq, List.dropWhile_append]
  split
  case isTrue empty => simp [List.isEmpty_iff.mp empty, List.dropWhile_cons_of_pos blank]
  case isFalse => exact List.rdropWhile_concat_pos _ _ _ blank

theorem trimmed_around (text : List Char) : leading text ++ trim text ++ trailing text = text := by
  rw [trim_eq, trailing, List.append_assoc, List.rdropWhile_append_rtakeWhile, leading, List.takeWhile_append_dropWhile]

theorem feeds_cons (c : Char) (rest : List Char) : (c :: rest).count '\n' = [c].count '\n' + rest.count '\n' := by
  rw [← List.count_append, List.singleton_append]

theorem lines_before {c : Char} (blank : isBlank c = true) (text : List Char) :
    trimmedLines (c :: text) = List.replicate ([c].count '\n') [] ++ trimmedLines text := by
  by_cases feed : c = '\n'
  · subst feed
    rfl
  · obtain ⟨piece, pieces, lines⟩ := split_cons '\n' text
    have none : [c].count '\n' = 0 := by simp [feed]
    rw [trimmedLines, trimmedLines, split_other feed lines, lines, none]
    simp [trim_before blank]

theorem split_feed (mark : Char) (text : List Char) : split mark (text ++ [mark]) = split mark text ++ [[]] := by
  induction text with
  | nil => simp [split]
  | cons c rest ih =>
      by_cases same : c = mark
      · simp [split, same, ih]
      · obtain ⟨piece, pieces, later⟩ := split_cons mark rest
        rw [later, List.cons_append] at ih
        rw [List.cons_append, split_other same ih, split_other same later, List.cons_append]

theorem split_extended {mark c : Char} (other : c ≠ mark) (text : List Char) :
    List.Forall₂ (fun long piece => long = piece ∨ long = piece ++ [c]) (split mark (text ++ [c])) (split mark text) := by
  induction text with
  | nil =>
      rw [List.nil_append, split_other other (rfl : split mark [] = [[]])]
      exact .cons (.inr rfl) .nil
  | cons d rest ih =>
      by_cases same : d = mark
      · simpa [split, same] using ih
      · obtain ⟨long, longs, extended⟩ := split_cons mark (rest ++ [c])
        obtain ⟨piece, pieces, later⟩ := split_cons mark rest
        rw [extended, later] at ih
        rw [List.cons_append, split_other same extended, split_other same later]
        cases ih with
        | cons first others => exact .cons (first.imp (congrArg (d :: ·)) (congrArg (d :: ·))) others

theorem lines_after {c : Char} (blank : isBlank c = true) (text : List Char) :
    trimmedLines (text ++ [c]) = trimmedLines text ++ List.replicate ([c].count '\n') [] := by
  by_cases feed : c = '\n'
  · subst feed
    rw [trimmedLines, split_feed, List.map_append]
    rfl
  · have none : [c].count '\n' = 0 := by simp [feed]
    have trimmed : ∀ long piece, long = piece ∨ long = piece ++ [c] → trim long = trim piece := by
      intro long piece extended
      cases extended with
      | inl same => rw [same]
      | inr longer => rw [longer, trim_after blank]
    rw [none, List.replicate_zero, List.append_nil]
    exact related_iff_map.mp ((split_extended feed text).imp trimmed)

theorem lines_leading (blanks : List Char) (all : ∀ c ∈ blanks, isBlank c = true) (text : List Char) :
    trimmedLines (blanks ++ text) = List.replicate (blanks.count '\n') [] ++ trimmedLines text := by
  induction blanks with
  | nil => rfl
  | cons c rest ih =>
      obtain ⟨blank, others⟩ := List.forall_mem_cons.mp all
      rw [List.cons_append, lines_before blank, ih others, ← List.append_assoc, ← List.replicate_add, ← feeds_cons]

theorem lines_trailing (blanks : List Char) (all : ∀ c ∈ blanks, isBlank c = true) (text : List Char) :
    trimmedLines (text ++ blanks) = trimmedLines text ++ List.replicate (blanks.count '\n') [] := by
  induction blanks generalizing text with
  | nil => simp
  | cons c rest ih =>
      obtain ⟨blank, others⟩ := List.forall_mem_cons.mp all
      rw [List.append_cons, ih others, lines_after blank, List.append_assoc, ← List.replicate_add, ← feeds_cons]

theorem lines_around (text : List Char) : trimmedLines text =
    List.replicate ((leading text).count '\n') [] ++ trimmedLines (trim text) ++
      List.replicate ((trailing text).count '\n') [] := by
  have before : ∀ c ∈ leading text, isBlank c = true := fun c member => List.mem_takeWhile_imp member
  have after : ∀ c ∈ trailing text, isBlank c = true := fun c member => List.mem_rtakeWhile_imp member
  calc trimmedLines text
      = trimmedLines (leading text ++ (trim text ++ trailing text)) := by rw [← List.append_assoc, trimmed_around]
    _ = _ := by rw [lines_leading _ before, lines_trailing _ after, List.append_assoc]

theorem numbered_skip {line : List Char} (blank : line.isEmpty = true) (first : Nat) (lines : List (List Char)) :
    numbered first (line :: lines) = numbered (first + 1) lines :=
  List.filter_cons_of_neg (by simp [blank])

theorem numbered_keep {line : List Char} (filled : ¬ line.isEmpty = true) (first : Nat) (lines : List (List Char)) :
    numbered first (line :: lines) = (line, first) :: numbered (first + 1) lines :=
  List.filter_cons_of_pos (by simp [filled])

theorem numbered_append (first : Nat) (lines more : List (List Char)) :
    numbered first (lines ++ more) = numbered first lines ++ numbered (first + lines.length) more := by
  rw [numbered, List.zipIdx_append, List.filter_append]
  rfl

theorem numbered_blank (first count : Nat) : numbered first (List.replicate count []) = [] := by
  apply List.filter_eq_nil_iff.mpr
  intro line member
  have blank := List.eq_of_mem_replicate (List.fst_mem_of_mem_zipIdx member)
  simp [blank]

theorem numbered_later (first count : Nat) (lines : List (List Char)) :
    numbered (first + count) lines = (numbered first lines).map fun line => (line.1, line.2 + count) := by
  induction lines generalizing first with
  | nil => rfl
  | cons line rest ih =>
      have later := ih (first + 1)
      rw [Nat.add_right_comm] at later
      by_cases blank : line.isEmpty = true
      · rw [numbered_skip blank, numbered_skip blank, later]
      · rw [numbered_keep blank, numbered_keep blank, later, List.map_cons]

theorem numbered_lines (first : Nat) (lines : List (List Char)) :
    (numbered first lines).map (·.1) = lines.filter fun line => !line.isEmpty := by
  have all : (lines.zipIdx first).map (·.1) = lines := List.zipIdx_map_fst first lines
  calc (numbered first lines).map (·.1) = ((lines.zipIdx first).map (·.1)).filter fun line => !line.isEmpty := by
        rw [List.filter_map]; rfl
    _ = lines.filter fun line => !line.isEmpty := by rw [all]

theorem numbered_from {first : Nat} {lines : List (List Char)} {line : List Char × Nat}
    (member : line ∈ numbered first lines) : first ≤ line.2 :=
  List.le_snd_of_mem_zipIdx (List.mem_of_mem_filter member)

theorem numbers_distinct (first : Nat) (lines : List (List Char)) : ((numbered first lines).map (·.2)).Nodup := by
  have all : ((lines.zipIdx first).map (·.2)).Nodup := by
    rw [List.zipIdx_map_snd]
    exact List.nodup_range'
  exact all.sublist (List.filter_sublist.map _)

-- The lines of the trimmed text are those of the text, moved up by the blank lines that it starts with.
theorem records_around (text : List Char) :
    records text = (records (trim text)).map fun line => (line.1, line.2 + (leading text).count '\n') := by
  rw [records, lines_around, numbered_append, numbered_append, numbered_blank, numbered_blank, List.append_nil,
    List.nil_append, List.length_replicate, numbered_later]
  rfl

theorem filled_around (text : List Char) : (trimmedLines (trim text)).filter (fun line => !line.isEmpty) =
    (trimmedLines text).filter fun line => !line.isEmpty := by
  rw [← numbered_lines 1, ← numbered_lines 1]
  calc (records (trim text)).map (·.1)
      = ((records (trim text)).map fun line => (line.1, line.2 + (leading text).count '\n')).map (·.1) := by
        rw [List.map_map]; rfl
    _ = (records text).map (·.1) := by rw [← records_around]

theorem record_after {text : List Char} {line : List Char × Nat} (member : line ∈ records text) :
    (leading text).count '\n' < line.2 := by
  rw [records_around] at member
  obtain ⟨moved, kept, rfl⟩ := List.mem_map.mp member
  have first := numbered_from kept
  omega

theorem trim_starts {text rest : List Char} {c : Char} (starts : trim text = c :: rest) : isBlank c = false := by
  have dropped : text.dropWhile isBlank = c :: (rest ++ trailing text) := by
    rw [← List.cons_append, ← starts, trim_eq, trailing, List.rdropWhile_append_rtakeWhile]
  have first := List.head?_dropWhile_not isBlank text
  rw [dropped] at first
  simpa using first

theorem trim_filled {c : Char} (filled : isBlank c = false) (rest : List Char) : ¬ (trim (c :: rest)).isEmpty = true := by
  rw [trim_eq, List.dropWhile_cons_of_neg (by simp [filled]), List.isEmpty_iff, List.rdropWhile_eq_nil_iff]
  intro all
  exact absurd (all c List.mem_cons_self) (by simp [filled])

theorem first_record {text : List Char} {line : List Char × Nat} (first : (records text).head? = some line) :
    line.2 = (leading text).count '\n' + 1 := by
  rw [records_around, records, trimmedLines] at first
  cases trimmed : trim text with
  | nil =>
      rw [trimmed] at first
      cases first
  | cons c rest =>
      have filled := trim_starts trimmed
      have other : c ≠ '\n' := by
        intro feed
        rw [feed, blank_feed] at filled
        cases filled
      obtain ⟨piece, pieces, lines⟩ := split_cons '\n' rest
      rw [trimmed, split_other other lines, List.map_cons, numbered_keep (trim_filled filled piece)] at first
      cases first
      exact Nat.add_comm _ _

end Text

end Conform
