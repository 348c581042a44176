import Conform.Proofs.Check

set_option autoImplicit false

namespace Conform

-- Patterns that are of use or rejected as defective. All others end the compilation.
def Pattern.Legible (source : String) : Prop :=
  (∃ pattern, Pattern.compile source = .ok pattern) ∨ ∃ defect, Pattern.compile source = .error (.defective defect)

theorem Keyword.read_pattern_legible (what source : String) :
    (readPattern what source).Returns ↔ Pattern.Legible source := by
  constructor
  · rintro ⟨read, returned⟩
    unfold readPattern at returned
    split at returned
    case h_1 pattern compiled => exact .inl ⟨pattern, compiled⟩
    case h_2 defect compiled => exact .inr ⟨defect, compiled⟩
    all_goals cases returned
  · rintro (⟨pattern, compiled⟩ | ⟨defect, compiled⟩)
    · exact ⟨some pattern, by rw [readPattern, compiled]; rfl⟩
    · exact ⟨none, by rw [readPattern, compiled]; rfl⟩

namespace Keyword

def meaning? (source : String) : Option Pattern :=
  match Pattern.compile source with
  | .ok pattern => some pattern
  | .error _ => none

theorem meaning_iff (source : String) (pattern : Pattern) :
    meaning? source = some pattern ↔ Pattern.compile source = .ok pattern := by
  unfold meaning?
  cases Pattern.compile source <;> simp

def searchOf (entry : String × Check) : Option ((String → Traced Bool) × Check) :=
  (meaning? entry.1).map fun pattern => (isFound pattern, entry.2)

def defectOf (entry : String × Check) : Option String :=
  if (meaning? entry.1).isSome then none
  else some ("Pattern '" ++ entry.1 ++ "' of 'patternProperties' is not a valid regular expression")

theorem read_pattern_answer {what source : String} {read : Option Pattern}
    (returned : (readPattern what source).outcome = .ok read) : read = meaning? source := by
  unfold readPattern at returned
  split at returned
  case h_1 pattern compiled =>
    cases returned
    rw [meaning?, compiled]
  case h_2 defect compiled =>
    cases returned
    rw [meaning?, compiled]
  all_goals cases returned

theorem read_pattern_returned {what source : String} (legible : Pattern.Legible source) :
    (readPattern what source).outcome = .ok (meaning? source) := by
  obtain ⟨read, returned⟩ := (read_pattern_legible what source).mpr legible
  rw [returned, read_pattern_answer returned]

theorem read_pattern_only (what source : String) :
    ((readPattern what source).andThen fun _ => .result (meaning? source)) = readPattern what source := by
  unfold readPattern meaning?
  cases compiled : Pattern.compile source with
  | ok pattern => rfl
  | error refusal => cases refusal <;> rfl

theorem read_pattern_related {K : Comparison} {what source : String} (fine : K.Fine (readPattern what source)) :
    K.relates (fun a b => a = meaning? source ∧ b = meaning? source) (readPattern what source) (readPattern what source) := by
  rw [← read_pattern_only]
  exact Comparison.and_then_fine fine fun _ => K.result ⟨rfl, rfl⟩

theorem patterns_answer {what : String} {patterns : List (String × Check)} {read : List (Option Pattern)} :
    (Logged.each (fun entry => readPattern what entry.1) patterns).outcome = .ok read ↔
      (∀ entry ∈ patterns, Pattern.Legible entry.1) ∧ read = patterns.map fun entry => meaning? entry.1 := by
  induction patterns generalizing read with
  | nil => simp [Logged.each, Logged.result, eq_comm]
  | cons entry rest ih =>
      constructor
      · intro returned
        obtain ⟨own, first, after⟩ := (Logged.and_then_ok _ _ read).mp returned
        obtain ⟨others, second, last⟩ := (Logged.and_then_ok _ _ read).mp after
        cases last
        obtain ⟨legible, rfl⟩ := ih.mp second
        have here := (read_pattern_legible what entry.1).mp ⟨own, first⟩
        rw [read_pattern_answer first]
        exact ⟨List.forall_mem_cons.mpr ⟨here, legible⟩, rfl⟩
      · rintro ⟨legible, rfl⟩
        obtain ⟨here, later⟩ := List.forall_mem_cons.mp legible
        refine (Logged.and_then_ok _ _ _).mpr ⟨_, read_pattern_returned here, ?_⟩
        exact (Logged.and_then_ok _ _ _).mpr ⟨_, ih.mpr ⟨later, rfl⟩, rfl⟩

theorem searches_of_read (patterns : List (String × Check)) :
    (((patterns.map fun entry => meaning? entry.1).zip patterns).filterMap fun (p, entry) =>
      p.map fun p => (isFound p, entry.2)) = patterns.filterMap searchOf := by
  induction patterns with
  | nil => rfl
  | cons entry rest ih => simp only [List.map_cons, List.zip_cons_cons, List.filterMap_cons, ih, searchOf]

theorem defects_of_read (patterns : List (String × Check)) :
    ((((patterns.map fun entry => meaning? entry.1).zip patterns).filter fun entry => entry.1.isNone).map fun entry =>
      "Pattern '" ++ entry.2.1 ++ "' of 'patternProperties' is not a valid regular expression") =
        patterns.filterMap defectOf := by
  induction patterns with
  | nil => rfl
  | cons entry rest ih =>
      rw [List.map_cons, List.zip_cons_cons, List.filter_cons, List.filterMap_cons, ← ih]
      cases read : meaning? entry.1 <;> simp [defectOf, read]

theorem properties_ok {declared patterns : List (String × Check)} {rest check : Check} :
    (properties declared patterns rest).outcome = .ok check ↔ (∀ entry ∈ patterns, Pattern.Legible entry.1) ∧
      check = Check.members declared (patterns.filterMap searchOf) (patterns.filterMap defectOf) rest := by
  constructor
  · intro returned
    obtain ⟨read, first, last⟩ := (Logged.and_then_ok _ _ check).mp returned
    obtain ⟨legible, rfl⟩ := patterns_answer.mp first
    cases last
    rw [searches_of_read, defects_of_read]
    exact ⟨legible, rfl⟩
  · rintro ⟨legible, rfl⟩
    refine (Logged.and_then_ok _ _ _).mpr ⟨_, patterns_answer.mpr ⟨legible, rfl⟩, ?_⟩
    rw [← searches_of_read, ← defects_of_read]
    rfl

end Keyword

end Conform
