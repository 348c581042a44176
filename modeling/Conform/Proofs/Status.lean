import Conform.Proofs.Arguments
import Conform.Proofs.Trace

set_option autoImplicit false

namespace Conform

namespace Console

variable {console : Console}

def Takes (console : Console) (texts : List String) : Prop :=
  ∀ text ∈ texts, console text = none

theorem print_behind {before : List String} (taken : console.Takes before) (rest : List String) :
    console.print (before ++ rest) = ⟨String.join before ++ (console.print rest).output, (console.print rest).refusal⟩ := by
  induction before with
  | nil => simp [String.join]
  | cons text others ih =>
      obtain ⟨first, later⟩ := List.forall_mem_cons.mp taken
      rw [List.cons_append, print, first, ih later, String.join_cons, String.append_assoc]

theorem print_taken {texts : List String} (taken : console.Takes texts) : console.print texts = ⟨String.join texts, none⟩ := by
  have behind := print_behind taken []
  rwa [List.append_nil, print, Printed.nothing, String.append_empty] at behind

theorem print_refused {text message : String} (refused : console text = some message) (rest : List String) :
    console.print (text :: rest) = ⟨"", some message⟩ := by
  rw [print, refused]

theorem refusal_iff (texts : List String) : (console.print texts).refusal = none ↔ console.Takes texts := by
  induction texts with
  | nil => exact iff_of_true rfl fun _ member => absurd member List.not_mem_nil
  | cons text rest ih =>
      unfold Takes at ih ⊢
      rw [List.forall_mem_cons, print]
      cases answer : console text with
      | none => simpa using ih
      | some message => simp

end Console

namespace Batch

section Through

variable {check : Source → Logged Volume.Fault (List Report)} {tell : List Report → Printed} {results : List (List Report)}

abbrev Checked (check : Source → Logged Volume.Fault (List Report)) (sources : List Source) (results : List (List Report)) : Prop :=
  List.Forall₂ (fun source reports => (check source).outcome = .ok reports) sources results

abbrev Told (tell : List Report → Printed) (results : List (List Report)) : Prop :=
  ∀ reports ∈ results, (tell reports).refusal = none

def outputs (tell : List Report → Printed) (results : List (List Report)) : String :=
  String.join (results.map fun reports => (tell reports).output)

theorem through_behind {before : List Source} (checked : Checked check before results) (told : Told tell results)
    (rest : List Source) :
    let batch := through check tell (before ++ rest)
    let behind := through check tell rest
    batch.reports = results.flatten ++ behind.reports ∧ batch.output = outputs tell results ++ behind.output ∧
      batch.failure = behind.failure ∧ batch.refusal = behind.refusal := by
  induction checked with
  | nil => exact ⟨rfl, (String.empty_append).symm, rfl, rfl⟩
  | @cons source reports _ _ first _ ih =>
      obtain ⟨own, later⟩ := List.forall_mem_cons.mp told
      obtain ⟨reported, printed, failure, refusal⟩ := ih later
      rw [List.cons_append, through, first]
      simp only [own]
      rw [reported, printed, failure, refusal, outputs, outputs, List.map_cons, String.join_cons, String.append_assoc,
        List.flatten_cons, List.append_assoc]
      exact ⟨rfl, rfl, rfl, rfl⟩

theorem through_finished {sources : List Source} (checked : Checked check sources results) (told : Told tell results) :
    let batch := through check tell sources
    batch.reports = results.flatten ∧ batch.output = outputs tell results ∧ batch.failure = none ∧ batch.refusal = none := by
  have behind := through_behind checked told []
  simpa only [List.append_nil, through, String.append_empty] using behind

theorem through_stopped {before : List Source} {source : Source} {fault : Volume.Fault} (after : List Source)
    (checked : Checked check before results) (told : Told tell results) (failed : (check source).outcome = .error fault) :
    let batch := through check tell (before ++ source :: after)
    batch.output = outputs tell results ∧ batch.failure = some fault := by
  obtain ⟨_, printed, failure, _⟩ := through_behind checked told (source :: after)
  rw [through, failed] at printed failure
  exact ⟨printed.trans String.append_empty, failure⟩

theorem through_refused {before : List Source} {source : Source} {reports : List Report} {message : String} (after : List Source)
    (checked : Checked check before results) (told : Told tell results) (returned : (check source).outcome = .ok reports)
    (refused : (tell reports).refusal = some message) :
    let batch := through check tell (before ++ source :: after)
    batch.output = outputs tell results ++ (tell reports).output ∧ batch.failure = none ∧ batch.refusal = some message := by
  obtain ⟨_, printed, failure, refusal⟩ := through_behind checked told (source :: after)
  rw [through, returned] at printed failure refusal
  simp only [refused] at printed failure refusal
  exact ⟨printed, failure, refusal⟩

theorem through_ends (check : Source → Logged Volume.Fault (List Report)) (tell : List Report → Printed) (sources : List Source) :
    (∃ results, Checked check sources results ∧ Told tell results) ∨
    (∃ before source after results fault, sources = before ++ source :: after ∧ Checked check before results ∧
      Told tell results ∧ (check source).outcome = .error fault) ∨
    ∃ before source after results reports message, sources = before ++ source :: after ∧ Checked check before results ∧
      Told tell results ∧ (check source).outcome = .ok reports ∧ (tell reports).refusal = some message := by
  induction sources with
  | nil => exact .inl ⟨[], .nil, fun _ member => absurd member List.not_mem_nil⟩
  | cons first rest ih =>
      cases own : (check first).outcome with
      | error fault => exact .inr (.inl ⟨[], first, rest, [], fault, rfl, .nil, fun _ member => absurd member List.not_mem_nil, own⟩)
      | ok reports =>
          cases told : (tell reports).refusal with
          | some message =>
              exact .inr (.inr ⟨[], first, rest, [], reports, message, rfl, .nil,
                fun _ member => absurd member List.not_mem_nil, own, told⟩)
          | none =>
              rcases ih with ⟨results, checked, all⟩ | ⟨before, source, after, results, fault, rfl, checked, all, failed⟩ |
                ⟨before, source, after, results, others, message, rfl, checked, all, returned, refused⟩
              · exact .inl ⟨reports :: results, .cons own checked, List.forall_mem_cons.mpr ⟨told, all⟩⟩
              · exact .inr (.inl ⟨first :: before, source, after, reports :: results, fault, rfl, .cons own checked,
                  List.forall_mem_cons.mpr ⟨told, all⟩, failed⟩)
              · exact .inr (.inr ⟨first :: before, source, after, reports :: results, others, message, rfl, .cons own checked,
                  List.forall_mem_cons.mpr ⟨told, all⟩, returned, refused⟩)

theorem checked_valid {sources : List Source} (checked : Checked check sources results) :
    (∀ report ∈ results.flatten, report.isValid = true) ↔ ∀ source ∈ sources,
      ∃ reports, (check source).outcome = .ok reports ∧ ∀ report ∈ reports, report.isValid = true := by
  induction checked with
  | nil => simp
  | cons first _ ih =>
      rw [List.flatten_cons, List.forall_mem_append, List.forall_mem_cons, ih, first]
      simp only [Except.ok.injEq, exists_eq_left']

end Through

theorem invalid_none_iff (batch : Batch) : batch.invalidCount = 0 ↔ ∀ report ∈ batch.reports, report.isValid = true := by
  rw [invalidCount, List.countP_eq_zero]
  simp

theorem counts_add (batch : Batch) : batch.validCount + batch.invalidCount = batch.reports.length := by
  rw [validCount, invalidCount, List.length_eq_countP_add_countP Report.isValid]
  simp

theorem lines_listed {reports : List Report} {results : List (List Report)} (listed : reports ∈ results) :
    lines reports ⊆ lines results.flatten := by
  intro text shown
  obtain ⟨report, member, part⟩ := List.mem_flatMap.mp shown
  exact List.mem_flatMap.mpr ⟨report, List.mem_flatten_of_mem listed member, part⟩

theorem lines_append (reports more : List Report) : lines (reports ++ more) = lines reports ++ lines more := by
  simp [lines]

end Batch

namespace CommandLine

open Batch (Checked Told outputs)

variable {check : Checking} {console : Console} {input : List UInt8} {files : List String} {schema : String}

theorem say_told {quiet : Bool} {results : List (List Report)} (taken : quiet = true ∨ console.Takes (Batch.lines results.flatten)) :
    Told (fun reports => say console quiet (Batch.lines reports)) results ∧
      outputs (fun reports => say console quiet (Batch.lines reports)) results =
        if quiet then "" else String.join (Batch.lines results.flatten) := by
  induction results with
  | nil => cases quiet <;> exact ⟨fun _ member => absurd member List.not_mem_nil, rfl⟩
  | cons reports rest ih =>
      rw [List.flatten_cons, Batch.lines_append]
      cases quiet with
      | true =>
          obtain ⟨told, printed⟩ := ih (.inl rfl)
          exact ⟨List.forall_mem_cons.mpr ⟨rfl, told⟩, by rw [outputs, List.map_cons, String.join_cons, ← outputs, printed]; rfl⟩
      | false =>
          rw [List.flatten_cons, Batch.lines_append] at taken
          obtain ⟨own, later⟩ := List.forall_mem_append.mp (taken.resolve_left Bool.false_ne_true)
          obtain ⟨told, printed⟩ := ih (.inr later)
          have first : say console false (Batch.lines reports) = ⟨String.join (Batch.lines reports), none⟩ := Console.print_taken own
          refine ⟨List.forall_mem_cons.mpr ⟨congrArg Printed.refusal first, told⟩, ?_⟩
          rw [outputs, List.map_cons, String.join_cons, ← outputs, printed, first]
          simp [String.join_append]

theorem told_taken {quiet : Bool} {results : List (List Report)}
    (told : Told (fun reports => say console quiet (Batch.lines reports)) results) :
    quiet = true ∨ console.Takes (Batch.lines results.flatten) := by
  cases quiet with
  | true => exact .inl rfl
  | false =>
      right
      induction results with
      | nil => exact fun _ member => absurd member List.not_mem_nil
      | cons reports rest ih =>
          obtain ⟨first, later⟩ := List.forall_mem_cons.mp told
          rw [List.flatten_cons, Batch.lines_append]
          exact List.forall_mem_append.mpr ⟨(Console.refusal_iff _).mp first, ih later⟩

abbrev batchOf (check : Checking) (console : Console) (quiet : Bool) (files : List String) (schema : String) : Batch :=
  Batch.through (check schema) (fun reports => say console quiet (Batch.lines reports)) (files.map Source.file)

def summaryOf (reports : List Report) : List String :=
  [s!"\nValidation summary: {reports.countP Report.isValid}/{reports.length} instances valid", "\n"]

def errorOf (message : String) : List String :=
  ["Error: ", " ", message, "\n"]

theorem summary_line_eq (batch : Batch) : [summaryLine batch, "\n"] = summaryOf batch.reports := by
  unfold summaryLine
  rw [Batch.counts_add]
  rfl

abbrev Answers (check : Checking) (schema : String) (files : List String) (results : List (List Report)) : Prop :=
  List.Forall₂ (fun name reports => (check schema (.file name)).outcome = .ok reports) files results

theorem all_checked {names : List String} (every : ∀ name ∈ names, ∃ reports, (check schema (.file name)).outcome = .ok reports) :
    ∃ results, Answers check schema names results := by
  induction names with
  | nil => exact ⟨[], .nil⟩
  | cons name rest ih =>
      obtain ⟨⟨reports, returned⟩, later⟩ := List.forall_mem_cons.mp every
      obtain ⟨results, checked⟩ := ih later
      exact ⟨reports :: results, .cons returned checked⟩

theorem checked_member {results : List (List Report)} (every : Answers check schema files results) (name : String)
    (member : name ∈ files) :
    ∃ reports ∈ results, (check schema (.file name)).outcome = .ok reports := by
  induction every with
  | nil => exact absurd member List.not_mem_nil
  | @cons first reports _ _ returned _ ih =>
      rcases List.mem_cons.mp member with rfl | later
      · exact ⟨reports, List.mem_cons_self, returned⟩
      · obtain ⟨others, listed, same⟩ := ih later
        exact ⟨others, List.mem_cons_of_mem _ listed, same⟩

theorem answers_valid {results : List (List Report)} (every : Answers check schema files results) :
    (∀ report ∈ results.flatten, report.isValid = true) ↔ ∀ name ∈ files,
      ∃ reports, (check schema (.file name)).outcome = .ok reports ∧ ∀ report ∈ reports, report.isValid = true := by
  have sources : Checked (check schema) (files.map Source.file) results := List.forall₂_map_left_iff.mpr every
  rw [Batch.checked_valid sources, List.forall_mem_map]

section Outcome

variable (quiet : Bool) (filled : files ≠ []) (plain : ∀ name ∈ schema :: files, IsPlainName name)
include filled plain

theorem run_request : runOn console check input (arguments files schema quiet) =
    validate console check input { inputs := files, schema := schema, quiet := quiet, level := .warning } := by
  rw [runOn, request_read quiet plain filled]

theorem run_ended {message : String} (ended : message? (batchOf check console quiet files schema) = some message) :
    runOn console check input (arguments files schema quiet) =
      ⟨1, (batchOf check console quiet files schema).output ++ (console.print (errorOf message)).output,
        logText .warning (batchOf check console quiet files schema).log⟩ := by
  have given : files.isEmpty = false := by simpa using filled
  rw [run_request quiet filled plain, validate]
  simp only [given, Bool.false_eq_true, if_false, ended, errorOf]

theorem run_finished {results : List (List Report)} (checked : Answers check schema files results)
    (taken : quiet = true ∨ console.Takes (Batch.lines results.flatten)) :
    let summary := say console quiet (summaryOf results.flatten)
    let outcome := runOn console check input (arguments files schema quiet)
    (outcome.status = 0 ∨ outcome.status = 1) ∧
      (outcome.status = 0 ↔ (∀ report ∈ results.flatten, report.isValid = true) ∧ summary.refusal = none) ∧
      outcome.output = (if quiet then "" else String.join (Batch.lines results.flatten)) ++ summary.output := by
  have given : files.isEmpty = false := by simpa using filled
  obtain ⟨told, printed⟩ := say_told taken
  obtain ⟨reports, output, failure, refusal⟩ := Batch.through_finished (List.forall₂_map_left_iff.mpr checked) told
  rw [run_request quiet filled plain, validate]
  simp only [given, Bool.false_eq_true, if_false, message?, failure, refusal, Option.map_none, Option.or_none, summary_line_eq,
    reports, output, printed, Batch.invalid_none_iff]
  by_cases perfect : (∀ report ∈ results.flatten, report.isValid = true) ∧
      (say console quiet (summaryOf results.flatten)).refusal = none
  · rw [if_pos perfect]
    exact ⟨.inl rfl, iff_of_true rfl perfect, trivial⟩
  · rw [if_neg perfect]
    exact ⟨.inr rfl, iff_of_false Nat.one_ne_zero perfect, trivial⟩

theorem run_stopped {before after : List String} {name : String} {results : List (List Report)} {fault : Volume.Fault}
    (split : files = before ++ name :: after) (checked : Answers check schema before results)
    (taken : quiet = true ∨ console.Takes (Batch.lines results.flatten))
    (failed : (check schema (.file name)).outcome = .error fault) :
    (runOn console check input (arguments files schema quiet)).status = 1 ∧
      (runOn console check input (arguments files schema quiet)).output =
        (if quiet then "" else String.join (Batch.lines results.flatten)) ++ (console.print (errorOf fault.message)).output := by
  obtain ⟨told, printed⟩ := say_told taken
  obtain ⟨output, failure⟩ := Batch.through_stopped (after.map Source.file) (List.forall₂_map_left_iff.mpr checked) told failed
  rw [← List.map_cons, ← List.map_append, ← split] at output failure
  have ended : message? (batchOf check console quiet files schema) = some fault.message := by rw [message?, failure]; rfl
  rw [run_ended quiet filled plain ended, output, printed]
  exact ⟨rfl, rfl⟩

theorem run_refused {before after : List String} {name : String} {results : List (List Report)} {reports : List Report}
    {message : String} (split : files = before ++ name :: after) (checked : Answers check schema before results)
    (taken : console.Takes (Batch.lines results.flatten)) (returned : (check schema (.file name)).outcome = .ok reports)
    (refused : (console.print (Batch.lines reports)).refusal = some message) :
    (runOn console check input (arguments files schema false)).status = 1 ∧
      (runOn console check input (arguments files schema false)).output = String.join (Batch.lines results.flatten) ++
        (console.print (Batch.lines reports)).output ++ (console.print (errorOf message)).output := by
  obtain ⟨told, printed⟩ := @say_told console false results (.inr taken)
  obtain ⟨output, failure, refusal⟩ := Batch.through_refused (after.map Source.file) (List.forall₂_map_left_iff.mpr checked) told
    returned refused
  rw [← List.map_cons, ← List.map_append, ← split] at output failure refusal
  have ended : message? (batchOf check console false files schema) = some message := by rw [message?, failure, refusal]; rfl
  rw [run_ended false filled plain ended, output, printed]
  exact ⟨rfl, rfl⟩

theorem run_ends : (∃ results, Answers check schema files results ∧
      (quiet = true ∨ console.Takes (Batch.lines results.flatten))) ∨
    (runOn console check input (arguments files schema quiet)).status = 1 ∧
      ((∃ name ∈ files, ∃ fault, (check schema (.file name)).outcome = .error fault) ∨ quiet = false ∧
        ∀ results, Answers check schema files results →
          ¬ console.Takes (Batch.lines results.flatten)) := by
  rcases Batch.through_ends (check schema) (fun reports => say console quiet (Batch.lines reports)) (files.map Source.file) with
    ⟨results, checked, told⟩ | ⟨before, source, after, results, fault, split, checked, told, failed⟩ |
      ⟨before, source, after, results, reports, message, split, checked, told, returned, refused⟩
  · exact .inl ⟨results, List.forall₂_map_left_iff.mp checked, told_taken told⟩
  · obtain ⟨first, rest, rfl, rfl, behind⟩ := List.map_eq_append_iff.mp split
    obtain ⟨name, last, rfl, rfl, rfl⟩ := List.map_eq_cons_iff.mp behind
    refine .inr ⟨?_, .inl ⟨name, by simp, fault, failed⟩⟩
    exact (run_stopped quiet filled plain rfl (List.forall₂_map_left_iff.mp checked) (told_taken told) failed).1
  · obtain ⟨first, rest, rfl, rfl, behind⟩ := List.map_eq_append_iff.mp split
    obtain ⟨name, last, rfl, rfl, rfl⟩ := List.map_eq_cons_iff.mp behind
    cases quiet with
    | true => cases refused
    | false =>
        have lines := (told_taken told).resolve_left Bool.false_ne_true
        refine .inr ⟨(run_refused filled plain rfl (List.forall₂_map_left_iff.mp checked) lines returned refused).1,
          .inr ⟨rfl, fun all every taken => ?_⟩⟩
        obtain ⟨own, listed, same⟩ := checked_member every name (by simp)
        obtain rfl : own = reports := Except.ok.inj (same.symm.trans returned)
        have kept : console.Takes (Batch.lines own) := fun text shown => taken text (Batch.lines_listed listed shown)
        cases ((Console.refusal_iff _).mpr kept).symm.trans refused

theorem status_small : (runOn console check input (arguments files schema quiet)).status = 0 ∨
    (runOn console check input (arguments files schema quiet)).status = 1 := by
  rcases run_ends quiet filled plain with ⟨results, every, taken⟩ | ⟨failed, _⟩
  · exact (run_finished quiet filled plain every taken).1
  · exact .inr failed

theorem status_quiet_iff : (runOn console check input (arguments files schema true)).status = 0 ↔
    ∀ name ∈ files, ∃ reports, (check schema (.file name)).outcome = .ok reports ∧ ∀ report ∈ reports, report.isValid = true := by
  rcases run_ends true filled plain with ⟨results, every, taken⟩ | ⟨failed, ⟨name, member, fault, broken⟩ | ⟨loud, _⟩⟩
  · obtain ⟨_, status, _⟩ := run_finished true filled plain every taken
    exact status.trans ((and_iff_left rfl).trans (answers_valid every))
  · refine iff_of_false (by rw [failed]; decide) fun fine => ?_
    obtain ⟨_, returned, _⟩ := fine name member
    cases returned.symm.trans broken
  · cases loud

theorem status_loud_iff : (runOn console check input (arguments files schema false)).status = 0 ↔
    (runOn console check input (arguments files schema true)).status = 0 ∧ ∀ results, Answers check schema files results →
      console.Takes (Batch.lines results.flatten ++ summaryOf results.flatten) := by
  rw [status_quiet_iff filled plain]
  rcases run_ends false filled plain with ⟨results, every, taken⟩ | ⟨failed, ⟨name, member, fault, broken⟩ | ⟨_, refused⟩⟩
  · obtain ⟨_, status, _⟩ := run_finished false filled plain every taken
    refine status.trans (and_congr (answers_valid every) ((Console.refusal_iff _).trans ?_))
    constructor
    · intro summary others again
      obtain rfl := List.right_unique_forall₂' (fun _ _ _ first second => Except.ok.inj (first.symm.trans second)) every again
      exact List.forall_mem_append.mpr ⟨taken.resolve_left Bool.false_ne_true, summary⟩
    · exact fun whole => (List.forall_mem_append.mp (whole results every)).2
  · refine iff_of_false (by rw [failed]; decide) fun fine => ?_
    obtain ⟨_, returned, _⟩ := fine.1 name member
    cases returned.symm.trans broken
  · refine iff_of_false (by rw [failed]; decide) fun fine => ?_
    obtain ⟨results, every⟩ := all_checked fun name member => (fine.1 name member).imp fun _ found => found.1
    exact refused results every (List.forall_mem_append.mp (fine.2 results every)).1

end Outcome

end CommandLine

end Conform
