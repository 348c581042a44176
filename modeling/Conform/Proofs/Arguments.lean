import Conform.CommandLine.Program
import Mathlib.Data.List.Basic

set_option autoImplicit false

namespace Conform.CommandLine

abbrev IsPlainName (name : String) : Prop :=
  name.toList.head? ≠ some '-'

section Roles

variable {grammar : Grammar} {name : String} {names : List String}

theorem role_of_plain (plain : IsPlainName name) : roleOf grammar name = .ok .word := by
  rw [roleOf, if_pos (.inl plain)]
  rfl

theorem plain_not_separator (plain : IsPlainName name) : name ≠ "--" := by
  rintro rfl
  exact plain rfl

theorem roles_word {rest : List String} {others : List (String × Role)} (plain : IsPlainName name)
    (read : roles grammar rest = .ok others) : roles grammar (name :: rest) = .ok ((name, .word) :: others) := by
  rw [roles, if_neg (plain_not_separator plain), role_of_plain plain, read]
  rfl

theorem roles_words {rest : List String} {others : List (String × Role)} (plain : ∀ name ∈ names, IsPlainName name)
    (read : roles grammar rest = .ok others) :
    roles grammar (names ++ rest) = .ok (names.map (fun name => (name, .word)) ++ others) := by
  induction names with
  | nil => exact read
  | cons name names ih =>
      obtain ⟨first, later⟩ := List.forall_mem_cons.mp plain
      exact roles_word first (ih later)

theorem roles_names {args : List String} {read : List (String × Role)} (returned : roles grammar args = .ok read) :
    read.map (·.1) = args := by
  induction args generalizing read with
  | nil =>
      cases returned
      rfl
  | cons arg rest ih =>
      rw [roles] at returned
      by_cases separator : arg = "--"
      · rw [if_pos separator] at returned
        cases returned
        simp [Function.comp_def]
      · rw [if_neg separator] at returned
        cases own : roleOf grammar arg with
        | error halt =>
            rw [own] at returned
            cases returned
        | ok role =>
            cases behind : roles grammar rest with
            | error halt =>
                rw [own, behind] at returned
                cases returned
            | ok others =>
                rw [own, behind] at returned
                cases returned
                rw [List.map_cons, ih behind]

end Roles

section Reading

variable {grammar : Grammar} {found : Found} (budget : Nat)

theorem words_taken {first : String} {rest : List (String × Role)} {words : List String} {size : Nat}
    (fresh : found.words = none) (taken : takeWords grammar.words ((first, .word) :: rest) = .ok (some (words, size + 1))) :
    readFrom grammar (budget + 1) ((first, .word) :: rest) found =
      readFrom grammar budget (rest.drop size) { found with words := some words } := by
  rw [readFrom]
  · simp only [fresh, taken]
    rfl
  · exact nofun
  · exact nofun

theorem nothing_left {words : List String} (known : found.words = some words) :
    readFrom grammar budget [] found = .ok found := by
  obtain ⟨given, words', extras⟩ := found
  cases known
  cases budget with
  | zero => rfl
  | succ budget => rw [readFrom] <;> simp

end Reading

-- The words at the front are taken all at once, up to the first option.
theorem take_words {names : List String} {rest : List (String × Role)} (plain : ∀ name ∈ names, IsPlainName name)
    (ended : rest.takeWhile (fun entry => isPlain entry.2) = []) :
    takeWords .any (names.map (fun name => (name, .word)) ++ rest) = .ok (some (names, names.length)) := by
  have taken : (names.map (fun name => (name, Role.word)) ++ rest).takeWhile (fun entry => isPlain entry.2) =
      names.map fun name => (name, .word) := by
    rw [List.takeWhile_append_of_pos (by simp [isPlain]), ended, List.append_nil]
  have named : (names.map fun name => (name, Role.word)).map (·.1) = names := by simp [Function.comp_def]
  have kept : names.erase "--" = names :=
    List.erase_of_not_mem fun member => plain_not_separator (plain _ member) rfl
  simp only [takeWords, taken, named, kept, List.length_map]

def options (schema : String) (quiet : Bool) : List String :=
  "--schema" :: schema :: if quiet then ["--quiet"] else []

def arguments (files : List String) (schema : String) (quiet : Bool) : List String :=
  "validate" :: (files ++ options schema quiet)

def schemaSwitch : Switch where
  names := ["--schema"]
  takesValue := true
  required := true

def quietSwitch : Switch where
  names := ["--quiet"]

def optionRoles (schema : String) (quiet : Bool) : List (String × Role) :=
  ("--schema", .option schemaSwitch "--schema" none) :: (schema, .word) ::
    if quiet then [("--quiet", .option quietSwitch "--quiet" none)] else []

def optionsGiven (schema : String) (quiet : Bool) : List (String × Option String) :=
  ("--schema", some schema) :: if quiet then [("--quiet", none)] else []

section Request

variable {files : List String} {schema : String} (quiet : Bool)

theorem command_options (named : IsPlainName schema) : ∃ others, roles mainGrammar (options schema quiet) = .ok others := by
  have behind : ∃ others, roles mainGrammar (if quiet then ["--quiet"] else []) = .ok others := by
    cases quiet <;> exact ⟨_, rfl⟩
  obtain ⟨others, behind⟩ := behind
  refine ⟨("--schema", .stray) :: (schema, .word) :: others, ?_⟩
  rw [options, roles, roles_word named behind]
  rfl

theorem validate_options (named : IsPlainName schema) :
    roles validateGrammar (options schema quiet) = .ok (optionRoles schema quiet) := by
  have behind : roles validateGrammar (if quiet then ["--quiet"] else []) =
      .ok (if quiet then [("--quiet", .option quietSwitch "--quiet" none)] else []) := by
    cases quiet <;> rfl
  rw [options, roles, roles_word named behind]
  rfl

theorem options_read (budget : Nat) (words : List String) :
    readFrom validateGrammar (budget + 2) (optionRoles schema quiet) { words := some words } =
      .ok { given := optionsGiven schema quiet, words := some words } := by
  have read : ∃ left, readFrom validateGrammar (budget + 2) (optionRoles schema quiet) { words := some words } =
      readFrom validateGrammar left [] { given := optionsGiven schema quiet, words := some words } := by
    cases quiet with
    | false => exact ⟨budget + 1, rfl⟩
    | true => exact ⟨budget, rfl⟩
  obtain ⟨left, read⟩ := read
  rw [read, nothing_left left rfl]

variable (plain : ∀ name ∈ schema :: files, IsPlainName name)
include plain

theorem command_read : readArguments mainGrammar (arguments files schema quiet) =
    .ok { words := some (arguments files schema quiet) } := by
  obtain ⟨named, listed⟩ := List.forall_mem_cons.mp plain
  obtain ⟨others, read⟩ := command_options quiet named
  have command : IsPlainName "validate" := by decide
  have all := roles_word command (roles_words listed read)
  have same := roles_names all
  generalize files.map (fun name => (name, Role.word)) ++ others = behind at all same
  have taken : takeWords mainGrammar.words (("validate", .word) :: behind) =
      .ok (some (arguments files schema quiet, behind.length + 1)) := by
    rw [arguments, ← same]
    rfl
  rw [readArguments, arguments, all]
  change (readFrom mainGrammar (behind.length + 1 + 1) (("validate", .word) :: behind) {}).bind _ = _
  rw [words_taken _ rfl taken, List.drop_length, nothing_left _ rfl]
  rfl

theorem files_read (filled : files ≠ []) : readArguments validateGrammar (files ++ options schema quiet) =
    .ok { given := optionsGiven schema quiet, words := some files } := by
  obtain ⟨named, listed⟩ := List.forall_mem_cons.mp plain
  have taken : takeWords .any (files.map (fun name => (name, .word)) ++ optionRoles schema quiet) =
      .ok (some (files, files.length)) := take_words listed rfl
  have all := roles_words listed (validate_options quiet named)
  obtain ⟨first, others, rfl⟩ := List.exists_cons_of_ne_nil filled
  rw [readArguments, all]
  generalize behind : others.map (fun name => (name, Role.word)) ++ optionRoles schema quiet = rest
  have long : ∃ budget, rest.length + 1 = budget + 2 :=
    ⟨others.length + (optionRoles schema quiet).tail.length, by simp [← behind, optionRoles]; omega⟩
  have dropped : rest.drop others.length = optionRoles schema quiet := by
    rw [← behind]
    exact List.drop_left' (by simp)
  obtain ⟨budget, long⟩ := long
  rw [List.map_cons, List.cons_append, behind] at taken ⊢
  change (readFrom validateGrammar (rest.length + 1 + 1) ((first, .word) :: rest) {}).bind _ = _
  rw [words_taken _ rfl taken, dropped, long, options_read]
  cases quiet <;> rfl

theorem request_read (filled : files ≠ []) : readTask (arguments files schema quiet) =
    .ok (.validate { inputs := files, schema := schema, quiet := quiet, level := .warning }) := by
  rw [readTask, command_read quiet plain]
  have inner : readArguments validateGrammar ((arguments files schema quiet).drop 1) = _ := files_read quiet plain filled
  simp only [bind, Except.bind, Except.mapError, inner]
  cases quiet <;> rfl

end Request

end Conform.CommandLine
