import Conform.Files.Instances
import Conform.Proofs.Lines
import Conform.Proofs.Resolution
import Conform.Proofs.Trace

set_option autoImplicit false

namespace Conform

namespace Labelled

variable {V : Type} (reader : Reader V)

structure Reads (entry : Labelled V) (text : List Char) : Prop where
  content : entry.content = reader.read (String.ofList text)
  broken : ∀ fault, entry.content = .error fault → fault.cause.isSyntax = true

section Lines

variable {file label : String} {line : List Char} {entry : Labelled V}

theorem of_line_ok : ofLine reader label line = .ok entry ↔ entry.label = label ∧ entry.Reads reader line := by
  obtain ⟨name, content⟩ := entry
  constructor
  · intro made
    unfold ofLine at made
    cases read : reader.read (String.ofList line) with
    | ok value =>
        simp only [read] at made
        cases made
        exact ⟨rfl, read.symm, nofun⟩
    | error fault =>
        by_cases plain : fault.cause.isSyntax = true
        · simp only [read, if_pos plain] at made
          cases made
          exact ⟨rfl, read.symm, fun _ same => Except.error.inj same ▸ plain⟩
        · simp only [read, if_neg plain] at made
          cases made
  · rintro ⟨rfl, rfl, broken⟩
    unfold ofLine
    cases read : reader.read (String.ofList line) with
    | ok value => rfl
    | error fault => exact if_pos (broken fault read)

theorem of_lines_cons {first : Except Volume.Fault (Labelled V)} {others : Except Volume.Fault (List (Labelled V))}
    {entries : List (Labelled V)} : (do return (← first) :: (← others)) = Except.ok entries ↔
      ∃ own rest, first = .ok own ∧ others = .ok rest ∧ entries = own :: rest := by
  cases first with
  | error fault => exact ⟨nofun, fun ⟨_, _, made, _⟩ => nomatch made⟩
  | ok own =>
      cases others with
      | error fault => exact ⟨nofun, fun ⟨_, _, _, made, _⟩ => nomatch made⟩
      | ok rest =>
          constructor
          · intro made
            cases made
            exact ⟨own, rest, rfl, rfl, rfl⟩
          · rintro ⟨_, _, ⟨⟩, ⟨⟩, rfl⟩
            rfl

theorem of_lines_ok (number : Nat) (lines : List (List Char)) (entries : List (Labelled V)) :
    ofLines reader file number lines = .ok entries ↔
      List.Forall₂ (fun line entry => entry.label = s!"{file}:{line.2}" ∧ entry.Reads reader line.1)
        (Text.numbered number (lines.map Text.trim)) entries := by
  induction lines generalizing number entries with
  | nil =>
      rw [List.map_nil, Text.numbered, List.zipIdx_nil, List.filter_nil, List.forall₂_nil_left_iff]
      exact ⟨fun made => (Except.ok.inj made).symm, fun none => none ▸ rfl⟩
  | cons line rest ih =>
      rw [ofLines, List.map_cons]
      by_cases blank : (Text.trim line).isEmpty = true
      · rw [if_pos blank, Text.numbered_skip blank]
        exact ih (number + 1) entries
      · rw [if_neg blank, Text.numbered_keep blank, of_lines_cons, List.forall₂_cons_left_iff]
        simp only [of_line_ok, ih]

theorem of_lines_error (number : Nat) {lines : List (List Char)} {before after : List (List Char)} {fault : Json.ReadError}
    (split : (lines.map Text.trim).filter (fun line => !line.isEmpty) = before ++ line :: after)
    (fine : ∀ own ∈ before, ∀ other, reader.read (String.ofList own) = .error other → other.cause.isSyntax = true)
    (failed : reader.read (String.ofList line) = .error fault) (long : fault.cause.isSyntax = false) :
    ofLines reader file number lines = .error (.notJson fault) := by
  induction lines generalizing number before with
  | nil => simp at split
  | cons first rest ih =>
      rw [ofLines]
      by_cases blank : (Text.trim first).isEmpty = true
      · rw [if_pos blank]
        rw [List.map_cons, List.filter_cons_of_neg (by simp [blank])] at split
        exact ih (number + 1) split fine
      · rw [if_neg blank]
        rw [List.map_cons, List.filter_cons_of_pos (by simp [blank])] at split
        cases before with
        | nil =>
            obtain ⟨same, _⟩ := List.cons.inj split
            simp only [same, ofLine, failed, long]
            rfl
        | cons head others =>
            obtain ⟨same, later⟩ := List.cons.inj split
            obtain ⟨own, kept⟩ := List.forall_mem_cons.mp fine
            have made : ∃ entry, ofLine reader s!"{file}:{number}" (Text.trim first) = .ok entry := by
              rw [same]
              unfold ofLine
              cases read : reader.read (String.ofList head) with
              | ok value => exact ⟨_, rfl⟩
              | error other => exact ⟨_, if_pos (own other read)⟩
            obtain ⟨entry, made⟩ := made
            rw [made, ih (number + 1) later kept]
            rfl

end Lines

section Loaded

variable {reader} {volume : Volume} {source : Source} {text : List Char} (wantsArray : Bool)

theorem load_text (readable : source.text volume = .ok text) :
    (load reader volume source wantsArray).outcome = (ofText reader source.label wantsArray text).outcome := by
  rw [load, readable, Logged.and_then_outcome]
  rfl

theorem load_value {value : V} (readable : source.text volume = .ok text)
    (read : reader.read (String.ofList (Text.trim text)) = .ok value) :
    (load reader volume source wantsArray).outcome = .ok (ofValue reader source.label wantsArray value) := by
  rw [load_text wantsArray readable, ofText, read]
  rfl

theorem load_fault {fault : Json.ReadError} (readable : source.text volume = .ok text)
    (read : reader.read (String.ofList (Text.trim text)) = .error fault) : (load reader volume source wantsArray).outcome =
      if fault.cause.isSyntax then ofLines reader source.label 1 (Text.split '\n' (Text.trim text))
      else .error (.notJson fault) := by
  rw [load_text wantsArray readable, ofText, read]
  by_cases plain : fault.cause.isSyntax = true
  · simp only [plain, if_true]
    rfl
  · simp only [plain]
    rfl

theorem load_lines {fault : Json.ReadError} (readable : source.text volume = .ok text)
    (broken : reader.read (String.ofList (Text.trim text)) = .error fault) (plain : fault.cause.isSyntax = true)
    (entries : List (Labelled V)) : (load reader volume source wantsArray).outcome = .ok entries ↔
      List.Forall₂ (fun line entry => entry.label = s!"{source.label}:{line.2}" ∧ entry.Reads reader line.1)
        (Text.records (Text.trim text)) entries := by
  rw [load_fault wantsArray readable broken, if_pos plain]
  exact of_lines_ok reader 1 _ entries

end Loaded

end Labelled

namespace Instance

abbrev Reads (entry : Instance) (text : List Char) : Prop :=
  Labelled.Reads Json.reader entry text

theorem load_lines {volume : Volume} {source : Source} {text : List Char} {fault : Json.ReadError} (wantsArray : Bool)
    (readable : source.text volume = .ok text) (broken : Json.read (String.ofList (Text.trim text)) = .error fault)
    (plain : fault.cause.isSyntax = true) (entries : List Instance) : (load volume source wantsArray).outcome = .ok entries ↔
      List.Forall₂ (fun line entry => entry.label = s!"{source.label}:{line.2}" ∧ entry.Reads line.1)
        (Text.records (Text.trim text)) entries :=
  Labelled.load_lines wantsArray readable broken plain entries

theorem numeral_injective : Function.Injective Nat.repr := by
  intro number other same
  have digits : Nat.toDigits 10 number = Nat.toDigits 10 other := String.ofList_injective same
  rw [← (Text.numeral_digits number).2.1, digits, (Text.numeral_digits other).2.1]

theorem line_label_injective (file : String) : Function.Injective fun number : Nat => s!"{file}:{number}" := by
  intro number other same
  exact numeral_injective ((String.append_right_inj _).mp same)

-- A label counts from the first line that is not blank, so it is right exactly where no blank line comes before.
theorem lines_labelled {volume : Volume} {source : Source} {text : List Char} (wantsArray : Bool) {fault : Json.ReadError}
    (readable : source.text volume = .ok text)
    (broken : Json.read (String.ofList (Text.trim text)) = .error fault) (plain : fault.cause.isSyntax = true)
    (entries : List Instance) :
    let before := (Text.leading text).count '\n'
    ((load volume source wantsArray).outcome = .ok entries ↔
      List.Forall₂ (fun line entry => entry.label = s!"{source.label}:{line.2 - before}" ∧ entry.Reads line.1)
        (Text.records text) entries) ∧
    (∀ line, (Text.records text).head? = some line → line.2 = before + 1) ∧
    ∀ line ∈ Text.records text, before < line.2 ∧
      (s!"{source.label}:{line.2 - before}" = s!"{source.label}:{line.2}" ↔ before = 0) := by
  intro before
  refine ⟨?_, fun line first => Text.first_record first, ?_⟩
  · rw [load_lines wantsArray readable broken plain, Text.records_around text, List.forall₂_map_left_iff]
    simp only [Nat.add_sub_cancel, before]
  · intro line member
    have later : before < line.2 := Text.record_after member
    refine ⟨later, fun same => ?_, fun none => by rw [none, Nat.sub_zero]⟩
    have number := line_label_injective source.label same
    omega

theorem lines_labelled_for_gap :
    let volume : Volume := [("a.jsonl", [49, 10, 10, 91])]
    let text := ['1', '\n', '\n', '[']
    Text.records text = [(['1'], 1), (['['], 3)] ∧ (load volume (.file "a.jsonl") false).outcome =
      .ok [⟨"a.jsonl:1", .ok (.number (.integer 1))⟩, ⟨"a.jsonl:3", .error ⟨.expectingValue, 1, 1, 2⟩⟩] := by
  intro volume text
  have readable : (Source.file "a.jsonl").text volume = .ok text := returned_of_option (by decide +kernel)
  have lines : Text.records text = [(['1'], 1), (['['], 3)] := by decide
  have before : (Text.leading text).count '\n' = 0 := by decide
  have trimmed : Text.trim text = ['1', '\n', '\n', '['] := by decide
  have broken : Json.read (String.ofList (Text.trim text)) = .error ⟨.extraData, 3, 3, 1⟩ := by rw [trimmed]; rfl
  refine ⟨lines, (lines_labelled false readable broken rfl _).1.mpr ?_⟩
  rw [lines, before]
  exact .cons ⟨rfl, rfl, nofun⟩ (.cons ⟨rfl, rfl, fun _ same => Except.error.inj same ▸ rfl⟩ .nil)

theorem leading_line_not_counted :
    let volume : Volume := [("a.jsonl", [10, 49, 10, 50])]
    let text := ['\n', '1', '\n', '2']
    (Source.file "a.jsonl").text volume = .ok text ∧ Text.records text = [(['1'], 2), (['2'], 3)] ∧
      (load volume (.file "a.jsonl") false).outcome =
        .ok [⟨"a.jsonl:1", .ok (.number (.integer 1))⟩, ⟨"a.jsonl:2", .ok (.number (.integer 2))⟩] := by
  intro volume text
  have readable : (Source.file "a.jsonl").text volume = .ok text := returned_of_option (by decide +kernel)
  have trimmed : Text.trim text = ['1', '\n', '2'] := by decide
  have lines : Text.records (Text.trim text) = [(['1'], 1), (['2'], 2)] := by decide
  have broken : Json.read (String.ofList (Text.trim text)) = .error ⟨.extraData, 2, 2, 1⟩ := by rw [trimmed]; rfl
  refine ⟨readable, by decide, (load_lines false readable broken rfl _).mpr ?_⟩
  rw [lines]
  exact .cons ⟨rfl, rfl, nofun⟩ (.cons ⟨rfl, rfl, nofun⟩ .nil)

end Instance

end Conform
