import Conform.Files.Batch
import Conform.Proofs.Instances
import Conform.Proofs.Reading
import Mathlib.Data.List.Nodup

set_option autoImplicit false

namespace Conform

theorem Logged.map_fault_ok {ε ε' α : Type} (f : ε → ε') (x : Logged ε α) (a : α) :
    (x.mapFault f).outcome = .ok a ↔ x.outcome = .ok a := by
  cases outcome : x.outcome <;> simp [mapFault, outcome]

namespace Labelled

variable {V : Type} {reader : Reader V} {volume : Volume} {source : Source} {wantsArray : Bool} {entries : List (Labelled V)}

theorem of_items_contents (file : String) (index : Nat) (items : List V) :
    (ofItems file index items).map content = items.map .ok := by
  induction items generalizing index with
  | nil => rfl
  | cons item rest ih => rw [ofItems, List.map_cons, List.map_cons, ih]

theorem of_items_labels (file : String) (index : Nat) (items : List V) :
    (ofItems file index items).map label = (List.range' index items.length).map fun place => s!"{file}[{place}]" := by
  induction items generalizing index with
  | nil => rfl
  | cons item rest ih => rw [ofItems, List.map_cons, ih, List.length_cons, List.range'_succ, List.map_cons]

theorem item_label_injective (file : String) : Function.Injective fun place : Nat => s!"{file}[{place}]" := by
  intro place other same
  exact Instance.numeral_injective ((String.append_right_inj _).mp ((String.append_left_inj _).mp same))

structure Placed (file : String) (labels : List String) : Prop where
  named : ∀ label ∈ labels, ∃ place, label = file ++ place
  distinct : labels.Nodup

theorem placed_by_number {file : String} {label : Nat → String} (named : ∀ number, ∃ place, label number = file ++ place)
    (different : Function.Injective label) {numbers : List Nat} (distinct : numbers.Nodup) :
    Placed file (numbers.map label) where
  named := by
    intro found member
    obtain ⟨number, _, rfl⟩ := List.mem_map.mp member
    exact named number
  distinct := (List.nodup_map_iff different).mpr distinct

theorem placed_items (file : String) (items : List V) : Placed file ((ofItems file 0 items).map label) := by
  rw [of_items_labels]
  have named : ∀ place : Nat, ∃ after, s!"{file}[{place}]" = file ++ after := by
    intro place
    exact ⟨"[" ++ (toString place ++ "]"), by simp only [toString, String.append_assoc]⟩
  exact placed_by_number named (item_label_injective file) List.nodup_range'

theorem placed_alone (file : String) : Placed file [file] where
  named _ member := ⟨"", List.mem_singleton.mp member ▸ String.append_empty.symm⟩
  distinct := List.nodup_singleton file

theorem placed_lines {file : String} {number : Nat} {lines : List (List Char)}
    (made : ofLines reader file number lines = .ok entries) : Placed file (entries.map label) := by
  have labels : entries.map label =
      ((Text.numbered number (lines.map Text.trim)).map (·.2)).map fun number => s!"{file}:{number}" := by
    rw [List.map_map]
    exact (related_iff_map.mp (((of_lines_ok reader number lines entries).mp made).imp fun _ _ labelled => labelled.1.symm)).symm
  have named : ∀ number : Nat, ∃ after, s!"{file}:{number}" = file ++ after := by
    intro number
    exact ⟨":" ++ toString number, by simp only [toString, String.append_assoc]⟩
  rw [labels]
  exact placed_by_number named (Instance.line_label_injective file) (Text.numbers_distinct _ _)

theorem placed_value (file : String) (value : V) : Placed file ((ofValue reader file wantsArray value).map label) := by
  unfold ofValue
  split
  · exact placed_items file _
  · exact placed_alone file

theorem placed_loaded {text : List Char} (readable : source.text volume = .ok text)
    (loaded : (load reader volume source wantsArray).outcome = .ok entries) : Placed source.label (entries.map label) := by
  cases read : reader.read (String.ofList (Text.trim text)) with
  | ok value =>
      rw [load_value wantsArray readable read] at loaded
      cases loaded
      exact placed_value source.label value
  | error fault =>
      rw [load_fault wantsArray readable read] at loaded
      by_cases plain : fault.cause.isSyntax = true
      · rw [if_pos plain] at loaded
        exact placed_lines loaded
      · rw [if_neg plain] at loaded
        cases loaded

end Labelled

namespace Engine

open Labelled

variable {V : Type} (engine : Engine V) (document : V)

def Finds (value : V) (found : Findings) : Prop :=
  (engine.judge document value).outcome = .ok found

def TextFinds (text : List Char) (found : Findings) : Prop :=
  (∃ value, engine.read (String.ofList text) = .ok value ∧ Finds engine document value found) ∨
    ∃ fault, engine.read (String.ofList text) = .error fault ∧ fault.cause.isSyntax = true ∧
      found = ["Invalid JSON: " ++ fault.cause.message]

def ContentFinds (content : Except Json.ReadError V) (found : Findings) : Prop :=
  match content with
  | .ok value => Finds engine document value found
  | .error fault => found = ["Invalid JSON: " ++ fault.cause.message]

theorem mapped_ok {ε α β : Type} {x : Except ε α} {f : α → β} {b : β} : x.map f = .ok b ↔ ∃ a, x = .ok a ∧ f a = b := by
  cases x <;> simp [Except.map]

section Reports

variable {engine document} {entry : Labelled V} {report : Report}

theorem report_on_ok : (reportOn (engine.judge document) entry).outcome = .ok report ↔
    report.location = some entry.label ∧ ContentFinds engine document entry.content report.findings := by
  obtain ⟨label, content⟩ := entry
  obtain ⟨findings, location⟩ := report
  cases content with
  | error fault =>
      simp only [reportOn, ContentFinds, Logged.result, Except.ok.injEq, Report.mk.injEq]
      exact ⟨fun ⟨found, place⟩ => ⟨place.symm, found.symm⟩, fun ⟨place, found⟩ => ⟨found.symm, place.symm⟩⟩
  | ok value =>
      simp only [reportOn, ContentFinds, Finds, Logged.bind_eq, Logged.and_then_ok, Logged.map_fault_ok, pure,
        Logged.result, Except.ok.injEq, Report.mk.injEq]
      constructor
      · rintro ⟨found, validated, rfl, place⟩
        exact ⟨place.symm, validated⟩
      · exact fun ⟨place, validated⟩ => ⟨findings, validated, rfl, place.symm⟩

theorem reports_told (entries : List (Labelled V)) (founds : List Findings) :
    List.Forall₂ (ContentFinds engine document) (entries.map content) founds ↔
      ∃ reports, List.Forall₂ (fun entry report => (reportOn (engine.judge document) entry).outcome = .ok report) entries reports ∧
        reports.map Report.findings = founds := by
  rw [List.forall₂_map_left_iff]
  constructor
  · intro told
    induction told with
    | nil => exact ⟨[], .nil, rfl⟩
    | @cons entry found _ _ first _ ih =>
        obtain ⟨reports, made, rfl⟩ := ih
        exact ⟨⟨found, some entry.label⟩ :: reports, .cons (report_on_ok.mpr ⟨rfl, first⟩) made, rfl⟩
  · rintro ⟨reports, made, rfl⟩
    exact List.forall₂_map_right_iff.mpr (made.imp fun _ _ reported => (report_on_ok.mp reported).2)

theorem text_found {label : String} {text : List Char} {found : Findings} :
    (∃ entry : Labelled V, (entry.label = label ∧ entry.Reads engine.toReader text) ∧
      ContentFinds engine document entry.content found) ↔ TextFinds engine document text found := by
  constructor
  · rintro ⟨entry, ⟨_, read, broken⟩, told⟩
    cases content : entry.content with
    | ok value =>
        rw [content] at told read
        exact .inl ⟨value, read.symm, told⟩
    | error fault =>
        rw [content] at told read
        exact .inr ⟨fault, read.symm, broken fault content, told⟩
  · rintro (⟨value, read, told⟩ | ⟨fault, read, plain, told⟩)
    · exact ⟨⟨label, .ok value⟩, ⟨rfl, read.symm, nofun⟩, told⟩
    · exact ⟨⟨label, .error fault⟩, ⟨rfl, read.symm, fun _ same => Except.error.inj same ▸ plain⟩, told⟩

end Reports

theorem forall_through {α β γ : Type} {R : α → β → Prop} {S : β → γ → Prop} {as : List α} {cs : List γ} :
    (∃ bs, List.Forall₂ R as bs ∧ List.Forall₂ S bs cs) ↔ List.Forall₂ (fun a c => ∃ b, R a b ∧ S b c) as cs := by
  constructor
  · rintro ⟨bs, first, second⟩
    induction first generalizing cs with
    | nil =>
        cases second
        exact .nil
    | cons step _ ih =>
        cases second with
        | cons next rest => exact .cons ⟨_, step, next⟩ (ih rest)
  · intro steps
    induction steps with
    | nil => exact ⟨[], .nil, .nil⟩
    | cons step _ ih =>
        obtain ⟨b, first, second⟩ := step
        obtain ⟨bs, firsts, seconds⟩ := ih
        exact ⟨b :: bs, .cons first firsts, .cons second seconds⟩

section Checked

variable {engine document} {volume : Volume} {source : Source} {schemaFile : String}
  (schemaRead : volume.document engine.read schemaFile = .ok document)
include schemaRead

theorem check_eq : engine.check volume source schemaFile =
    (Labelled.load engine.toReader volume source (engine.wantsArray document)).andThen fun entries =>
      Logged.each (reportOn (engine.judge document)) entries := by
  rw [check, schemaRead]
  rfl

theorem check_ok (reports : List Report) : (engine.check volume source schemaFile).outcome = .ok reports ↔
    ∃ entries, (Labelled.load engine.toReader volume source (engine.wantsArray document)).outcome = .ok entries ∧
      List.Forall₂ (fun entry report => (reportOn (engine.judge document) entry).outcome = .ok report) entries reports := by
  rw [check_eq schemaRead]
  simp only [Logged.and_then_ok, Logged.each_ok_iff]

theorem findings_ok (founds : List Findings) :
    (engine.check volume source schemaFile).outcome.map (List.map Report.findings) = .ok founds ↔
      ∃ entries, (Labelled.load engine.toReader volume source (engine.wantsArray document)).outcome = .ok entries ∧
        List.Forall₂ (ContentFinds engine document) (entries.map content) founds := by
  rw [mapped_ok]
  simp only [check_ok schemaRead, reports_told]
  exact ⟨fun ⟨reports, ⟨entries, loaded, made⟩, same⟩ => ⟨entries, loaded, reports, made, same⟩,
    fun ⟨entries, loaded, reports, made, same⟩ => ⟨reports, ⟨entries, loaded, made⟩, same⟩⟩

theorem load_fails {fault : Volume.Fault}
    (failed : (Labelled.load engine.toReader volume source (engine.wantsArray document)).outcome = .error fault) :
    (engine.check volume source schemaFile).outcome = .error fault := by
  rw [check_eq schemaRead, Logged.and_then_outcome, failed]
  rfl

theorem placed_reports {text : List Char} (readable : source.text volume = .ok text) {reports : List Report}
    (checked : (engine.check volume source schemaFile).outcome = .ok reports) :
    (∀ report ∈ reports, ∃ place, report.location = some (source.label ++ place)) ∧ (reports.map Report.location).Nodup := by
  obtain ⟨entries, loaded, made⟩ := (check_ok schemaRead reports).mp checked
  have located : reports.map Report.location = (entries.map label).map some := by
    rw [List.map_map]
    exact (related_iff_map.mp (made.imp fun _ _ reported => (report_on_ok.mp reported).1.symm)).symm
  obtain ⟨named, distinct⟩ := placed_loaded readable loaded
  constructor
  · intro report member
    have kept : report.location ∈ (entries.map label).map some := located ▸ List.mem_map_of_mem member
    obtain ⟨label, listed, same⟩ := List.mem_map.mp kept
    obtain ⟨place, rfl⟩ := named label listed
    exact ⟨place, same.symm⟩
  · rw [located, List.nodup_map_iff fun _ _ same => Option.some.inj same]
    exact distinct

variable {text : List Char} (readable : source.text volume = .ok text)
include readable

theorem value_found {value : V} (read : engine.read (String.ofList (Text.trim text)) = .ok value) {values : List V}
    (contents : (ofValue engine.toReader source.label (engine.wantsArray document) value).map content = values.map .ok)
    (founds : List Findings) :
    (engine.check volume source schemaFile).outcome.map (List.map Report.findings) = .ok founds ↔
      List.Forall₂ (Finds engine document) values founds := by
  simp only [findings_ok schemaRead, load_value _ readable read, Except.ok.injEq, exists_eq_left']
  rw [contents, List.forall₂_map_left_iff]
  rfl

theorem items_found {value : V} {items : List V} (read : engine.read (String.ofList (Text.trim text)) = .ok value)
    (array : engine.items? value = some items) (unwanted : engine.wantsArray document = false) (founds : List Findings) :
    (engine.check volume source schemaFile).outcome.map (List.map Report.findings) = .ok founds ↔
      List.Forall₂ (Finds engine document) items founds := by
  refine value_found schemaRead readable read ?_ founds
  rw [ofValue, unwanted, if_neg Bool.false_ne_true, array]
  exact of_items_contents _ _ _

theorem whole_found {value : V} (read : engine.read (String.ofList (Text.trim text)) = .ok value)
    (whole : ∀ items, engine.items? value = some items → engine.wantsArray document = true) (founds : List Findings) :
    (engine.check volume source schemaFile).outcome.map (List.map Report.findings) = .ok founds ↔
      List.Forall₂ (Finds engine document) [value] founds := by
  refine value_found schemaRead readable read ?_ founds
  unfold ofValue
  split
  · rename_i items given
    by_cases wanted : engine.wantsArray document = true
    · rw [if_pos wanted] at given
      cases given
    · rw [if_neg wanted] at given
      exact absurd (whole items given) wanted
  · rfl

variable {fault : Json.ReadError} (broken : engine.read (String.ofList (Text.trim text)) = .error fault)
include broken

theorem lines_found (plain : fault.cause.isSyntax = true) (founds : List Findings) :
    (engine.check volume source schemaFile).outcome.map (List.map Report.findings) = .ok founds ↔
      List.Forall₂ (TextFinds engine document) ((Text.trimmedLines text).filter fun line => !line.isEmpty) founds := by
  rw [findings_ok schemaRead]
  simp only [load_lines _ readable broken plain, List.forall₂_map_left_iff]
  rw [forall_through]
  simp only [text_found]
  rw [← Text.filled_around, ← Text.numbered_lines 1, List.forall₂_map_left_iff]
  rfl

theorem line_fails (plain : fault.cause.isSyntax = true) {before after : List (List Char)} {line : List Char}
    {long : Json.ReadError} (split : (Text.trimmedLines text).filter (fun line => !line.isEmpty) = before ++ line :: after)
    (fine : ∀ own ∈ before, ∀ other, engine.read (String.ofList own) = .error other → other.cause.isSyntax = true)
    (failed : engine.read (String.ofList line) = .error long) (refused : long.cause.isSyntax = false) :
    (engine.check volume source schemaFile).outcome = .error (.notJson long) := by
  apply load_fails schemaRead
  rw [load_fault _ readable broken, if_pos plain]
  exact of_lines_error engine.toReader 1 (Text.filled_around text ▸ split) fine failed refused

theorem unreadable_fails (long : fault.cause.isSyntax = false) :
    (engine.check volume source schemaFile).outcome = .error (.notJson fault) := by
  apply load_fails schemaRead
  rw [load_fault _ readable broken, if_neg (Bool.eq_false_iff.mp long)]

end Checked

def longBytes (count : Nat) : List UInt8 :=
  [49, 10, 50, 10] ++ List.replicate count 49

def longText (count : Nat) : List Char :=
  ['1', '\n', '2', '\n'] ++ List.replicate count '1'

theorem long_text_decoded (count : Nat) : Volume.decode (longBytes count) = .ok (longText count) := by
  have ascii : ∀ byte ∈ longBytes count, byte < 0x80 := by
    simp only [longBytes, List.mem_append, List.mem_replicate, List.mem_cons, List.not_mem_nil, or_false]
    rintro byte ((rfl | rfl | rfl | rfl) | ⟨_, rfl⟩) <;> decide
  have text : (longBytes count).map (fun byte => Char.ofNat byte.toNat) = longText count := by
    rw [longBytes, List.map_append, List.map_replicate]
    rfl
  have plain : '\r' ∉ longText count := by simp [longText, List.mem_replicate]
  rw [Volume.decode, Utf8.toText, Utf8.decode_ascii ascii, text]
  exact congrArg Except.ok (Volume.unify_plain plain)

theorem long_text_trimmed (others : Nat) : Text.trim (longText (others + 1)) = longText (others + 1) := by
  have last : (longText (others + 1)).getLast? = some '1' := by
    rw [longText, List.getLast?_append, List.getLast?_replicate]
    rfl
  refine Text.trim_kept (fun c starts => ?_) fun c ends => ?_
  · obtain rfl := Option.some.inj starts
    decide
  · obtain rfl := Option.some.inj (last.symm.trans ends)
    decide

theorem long_text_lines (others : Nat) : (Text.trimmedLines (longText (others + 1))).filter (fun line => !line.isEmpty) =
    [['1'], ['2'], List.replicate (others + 1) '1'] := by
  have clean : '\n' ∉ List.replicate (others + 1) '1' := by simp [List.mem_replicate]
  have last : Text.split '\n' (List.replicate (others + 1) '1' ++ []) = [List.replicate (others + 1) '1' ++ []] :=
    Text.split_piece clean rfl
  rw [List.append_nil] at last
  have pieces : Text.split '\n' (longText (others + 1)) = [['1'], ['2'], List.replicate (others + 1) '1'] := by
    simp [longText, Text.split, last]
  have ones : Text.trim (List.replicate (others + 1) '1') = List.replicate (others + 1) '1' := by
    refine Text.trim_kept (fun c starts => ?_) fun c ends => ?_
    · rw [List.eq_of_mem_replicate (List.mem_of_mem_head? starts)]
      decide
    · rw [List.eq_of_mem_replicate (List.mem_of_mem_getLast? ends)]
      decide
  rw [Text.trimmedLines, pieces, List.map_cons, List.map_cons, List.map_singleton, ones]
  rfl

theorem long_text_ends_check {volume : Volume} {source : Source} {schemaFile : String} {document : Json} {others : Nat}
    (schemaRead : volume.document standard.read schemaFile = .ok document)
    (readable : source.text volume = .ok (longText (others + 1))) (long : Text.digitLimit ≤ others) :
    (standard.check volume source schemaFile).outcome = .error (.notJson ⟨.tooManyDigits (others + 1), 0, 1, 1⟩) := by
  obtain ⟨fault, broken, plain⟩ : ∃ fault, Json.read (String.ofList (Text.trim (longText (others + 1)))) = .error fault ∧
      fault.cause.isSyntax = true := by
    rw [long_text_trimmed, Json.read, String.toList_ofList]
    exact ⟨_, rfl, rfl⟩
  have size : (List.replicate (others + 1) '1').length = others + 1 := List.length_replicate
  have digits : ∀ c ∈ List.replicate (others + 1) '1', Text.isDigit c = true := by
    intro c member
    rw [List.eq_of_mem_replicate member]
    rfl
  have starts : (List.replicate (others + 1) '1').head? ≠ some '0' := by simp [List.replicate_succ]
  have refused := Json.read_long_numeral digits starts (size.symm ▸ Nat.lt_succ_of_le long)
  rw [size] at refused
  have split : (Text.trimmedLines (longText (others + 1))).filter (fun line => !line.isEmpty) =
      [['1'], ['2']] ++ List.replicate (others + 1) '1' :: [] := long_text_lines others
  refine line_fails schemaRead readable broken plain split (fun own member other failed => ?_) refused rfl
  rcases List.mem_pair.mp member with rfl | rfl <;> cases failed

theorem long_text_read (count : Nat) :
    let volume : Volume := [("s.json", [123, 125]), ("a.jsonl", longBytes count)]
    volume.document Json.read "s.json" = .ok (.object []) ∧
      (Source.file "a.jsonl").text volume = .ok (longText count) := by
  intro volume
  have schemaPath : Volume.steps "s.json" = ["s.json"] := by decide +kernel
  have path : Volume.steps "a.jsonl" = ["a.jsonl"] := by decide +kernel
  have schemaPlace : Volume.place "s.json" = ["s.json"] := by decide +kernel
  have place : Volume.place "a.jsonl" = ["a.jsonl"] := by decide +kernel
  have schemaSize : "s.json".utf8ByteSize = 6 := by decide +kernel
  have size : "a.jsonl".utf8ByteSize = 7 := by decide +kernel
  have schemaText : volume.text "s.json" = .ok ['\x7b', '\x7d'] := by
    simp [volume, Volume.text, Volume.bytes, schemaPath, schemaSize, Volume.follow, Volume.nameLimit, Volume.pathLimit, schemaPlace]
    rfl
  have bytes : volume.bytes "a.jsonl" = .ok (longBytes count) := by
    simp [volume, Volume.bytes, path, size, Volume.follow, Volume.nameLimit, Volume.pathLimit, schemaPlace, place]
  constructor
  · rw [Volume.document, schemaText]
    rfl
  · rw [Source.text, Volume.text, bytes]
    exact long_text_decoded count

-- A text is a document, or it is none and its lines are read, whoever reads them. A fault that is not that of a text that is
-- no document, such as that of a number too long, ends the check.
theorem reports_of_source {V : Type} (engine : Engine V) {volume : Volume} {source : Source} {schemaFile : String} {document : V}
    {text : List Char} (schemaRead : volume.document engine.read schemaFile = .ok document)
    (readable : source.text volume = .ok text) :
    let content := engine.read (String.ofList (Text.trim text))
    let outcome := (engine.check volume source schemaFile).outcome
    let lines := (Text.trimmedLines text).filter fun line => !line.isEmpty
    (∀ value items, content = .ok value → engine.items? value = some items → engine.wantsArray document = false → ∀ founds,
      outcome.map (List.map Report.findings) = .ok founds ↔ List.Forall₂ (Finds engine document) items founds) ∧
    (∀ value, content = .ok value → (∀ items, engine.items? value = some items → engine.wantsArray document = true) →
      ∀ founds, outcome.map (List.map Report.findings) = .ok founds ↔ List.Forall₂ (Finds engine document) [value] founds) ∧
    (∀ fault, content = .error fault → fault.cause.isSyntax = true →
      (∀ founds, outcome.map (List.map Report.findings) = .ok founds ↔
        List.Forall₂ (TextFinds engine document) lines founds) ∧
      ∀ before line after long, lines = before ++ line :: after →
        (∀ own ∈ before, ∀ other, engine.read (String.ofList own) = .error other → other.cause.isSyntax = true) →
          engine.read (String.ofList line) = .error long → long.cause.isSyntax = false → outcome = .error (.notJson long)) ∧
    (∀ fault, content = .error fault → fault.cause.isSyntax = false → outcome = .error (.notJson fault)) ∧
    (Text.trimmedLines (Text.trim text)).filter (fun line => !line.isEmpty) = lines ∧
    ∀ reports, outcome = .ok reports → (∀ report ∈ reports, ∃ place, report.location = some (source.label ++ place)) ∧
      (reports.map Report.location).Nodup := by
  intro content outcome lines
  refine ⟨fun value items read array unwanted => ?_, fun value read whole => ?_, fun fault broken plain => ⟨?_, ?_⟩,
    fun fault broken long => unreadable_fails schemaRead readable broken long, Text.filled_around text,
    fun reports checked => placed_reports schemaRead readable checked⟩
  · exact items_found schemaRead readable read array unwanted
  · exact whole_found schemaRead readable read whole
  · exact lines_found schemaRead readable broken plain
  · intro before line after long split fine failed refused
    exact line_fails schemaRead readable broken plain split fine failed refused

theorem reports_of_source_for_lines :
    let volume : Volume := [("s.json", [123, 125]), ("a.jsonl", [110, 117, 108, 108, 10, 10, 49, 10, 91])]
    let text := ['n', 'u', 'l', 'l', '\n', '\n', '1', '\n', '[']
    volume.document Json.read "s.json" = .ok (.object []) ∧ (Source.file "a.jsonl").text volume = .ok text ∧
      (standard.check volume (.file "a.jsonl") "s.json").outcome.map (List.map Report.findings) =
        .ok [[], [], ["Invalid JSON: Expecting value"]] := by
  intro volume text
  have schemaText : volume.text "s.json" = .ok ['\x7b', '\x7d'] := returned_of_option (by decide +kernel)
  have schemaRead : volume.document standard.read "s.json" = .ok (.object []) := by
    rw [Volume.document, schemaText]
    rfl
  have readable : (Source.file "a.jsonl").text volume = .ok text := returned_of_option (by decide +kernel)
  have trimmed : Text.trim text = ['n', 'u', 'l', 'l', '\n', '\n', '1', '\n', '['] := by decide
  have broken : Json.read (String.ofList (Text.trim text)) = .error ⟨.extraData, 6, 3, 1⟩ := by
    rw [trimmed]
    rfl
  have lines : (Text.trimmedLines text).filter (fun line => !line.isEmpty) = [['n', 'u', 'l', 'l'], ['1'], ['[']] := by
    decide
  obtain ⟨_, _, found, _⟩ := reports_of_source standard schemaRead readable
  refine ⟨schemaRead, readable, ((found _ broken rfl).1 _).mpr ?_⟩
  rw [lines]
  exact .cons (.inl ⟨.null, rfl, rfl⟩) (.cons (.inl ⟨.number (.integer 1), rfl, rfl⟩)
    (.cons (.inr ⟨⟨.expectingValue, 1, 1, 2⟩, rfl, rfl, rfl⟩) .nil))

theorem long_line_ends_check :
    let volume : Volume := [("s.json", [123, 125]), ("a.jsonl", longBytes 5000)]
    volume.document Json.read "s.json" = .ok (.object []) ∧ (Source.file "a.jsonl").text volume = .ok (longText 5000) ∧
      (Text.trimmedLines (longText 5000)).filter (fun line => !line.isEmpty) = [['1'], ['2'], List.replicate 5000 '1'] ∧
      (standard.check volume (.file "a.jsonl") "s.json").outcome = .error (.notJson ⟨.tooManyDigits 5000, 0, 1, 1⟩) := by
  obtain ⟨schemaRead, readable⟩ := long_text_read 5000
  exact ⟨schemaRead, readable, long_text_lines 4999, long_text_ends_check schemaRead readable (by decide)⟩

end Engine

end Conform
