import Conform.Proofs.Expansion

set_option autoImplicit false

namespace Conform

def Logged.Ends {α : Type} (x : Traced α) : Prop :=
  x.outcome ≠ .error .exhausted

def Check.Ends (check : Check) : Prop :=
  ∀ value, (check value).Ends

theorem Logged.and_then_ends {α β : Type} (x : Traced α) (f : α → Traced β) (ends : (x.andThen f).Ends) : x.Ends := by
  intro exhausted
  apply ends
  rw [Logged.and_then_outcome, exhausted]
  rfl

namespace Comparison

def ending : Comparison :=
  identical (fun _ => True) fun fault => fault ≠ .exhausted

theorem ending_fine {α : Type} {x : Traced α} (ends : x.Ends) : ending.Fine x :=
  identical_fine.mpr ⟨fun _ _ => trivial, fun fault failed same => ends (by rw [failed, same])⟩

end Comparison

namespace Keyword

theorem is_found_ends (pattern : Pattern) (text : String) : (isFound pattern text).Ends := by
  intro exhausted
  unfold isFound at exhausted
  split at exhausted <;> cases exhausted

theorem write_ends (numbers : List Number) : (write numbers).Ends :=
  fun exhausted => nomatch (write_fault exhausted).1

theorem read_pattern_ends (what source : String) : (readPattern what source).Ends := by
  intro exhausted
  unfold readPattern at exhausted
  split at exhausted <;> cases exhausted

end Keyword

namespace Schema

theorem complaint_ends (r : String) (fault : Reference.Fault) : (complaint r fault).Ends := by
  intro exhausted
  cases fault <;> cases exhausted

theorem ending_applies {context : Context} (supplied : context.formats.Every Check.Ends) :
    Applies context Comparison.ending fun _ _ => True := by
  refine fun _ _ _ _ _ inner _ => ⟨fun _ _ text pattern _ _ _ => ?_, fun check member value _ => ?_,
    fun name check _ found value _ => ?_⟩
  · exact Comparison.ending_fine (Keyword.is_found_ends pattern text)
  · exact Comparison.ending_fine fun exhausted => nomatch (judge_fault member exhausted).1
  · exact Comparison.ending_fine (Formats.every_found supplied name check found value)

theorem ending_kept (context : Context) : Invariant context Comparison.ending fun _ _ => True where
  circular _ _ _ _ := Comparison.ending_fine nofun
  unresolved _ r fault _ _ := Comparison.ending_fine (complaint_ends r fault)
  readable _ _ _ _ _ _ _ :=
    ⟨fun _ _ => Comparison.ending_fine (Keyword.read_pattern_ends _ _),
      fun _ _ => Comparison.ending_fine (Keyword.read_pattern_ends _ _),
      fun numbers _ => Comparison.ending_fine (Keyword.write_ends numbers), fun _ => Comparison.ending_fine nofun⟩
  here _ _ _ _ _ _ _ _ := trivial
  below _ _ _ _ _ _ _ _ := trivial

-- The meaning of references within fixed bounds: how many are expanded inside each other, and how many wait
-- behind each other. Where either runs out the computation is exhausted.
def refersWithin (context : Context) (budget depth : Nat) : Expansion :=
  expand context (expandLater context budget depth) budget

theorem bounds_suffice (document : Json) (extras : Formats) (supplied : extras.Every Check.Ends) (value : Json)
    (budget depth : Nat) (enough : document.references.length < budget) (deep : value.depth ≤ depth) :
    let schema := ofDocument document extras
    let within := refersWithin schema.context budget depth
    (schema.compileWith within).Ends ∧ (schema.validateWith within value).Ends ∧
      schema.compile.Ends ∧ (schema.validate value).Ends ∧ schema.validateWith within value = schema.validate value := by
  intro schema within
  have applies : Applies schema.context Comparison.ending fun _ _ => True :=
    ending_applies (Formats.every_extend (fun _ _ => nofun) extras supplied)
  have kept := ending_kept schema.context
  have waiting := later_within_related applies kept budget value.depth depth enough deep
  have root := root_related applies kept waiting schema.context.budget budget (budget_suffices schema.context) enough
    trivial
  have compiled : Comparison.ending.relates (List.Forall₂ (Comparison.ending.Agree (Shallow (value.depth + 1))))
      schema.compile (schema.compileWith within) :=
    compile_related schema (fun _ => Comparison.ending_fine nofun) root
  have related := validate_related schema compiled value (Nat.lt_succ_self _)
  have same := Comparison.identical_eq related
  have ends : (schema.validate value).Ends := fun exhausted => (Comparison.identical_left related).2 _ exhausted rfl
  have endsWithin : (schema.validateWith within value).Ends := same ▸ ends
  exact ⟨Logged.and_then_ends _ _ endsWithin, endsWithin, Logged.and_then_ends _ _ ends, ends, same.symm⟩

theorem bounds_suffice_for_lists :
    let document := Json.object [("format", .string "short"), ("items", .object [("$ref", .string "#")])]
    let schema := ofDocument document [("short", some (Check.ofFindings (Keyword.itemCount (atMost 1) "long")))]
    let value := Json.array [.array []]
    document.references.length < 2 ∧ value.depth ≤ 2 ∧ (schema.validateWith (refersWithin schema.context 2 2) value).Ends ∧
      schema.validateWith (refersWithin schema.context 2 2) value = schema.validate value := by
  intro document schema value
  have supplied : Formats.Every Check.Ends
      [("short", some (Check.ofFindings (Keyword.itemCount (atMost 1) "long")))] := by
    intro name check found
    simp only [List.mem_singleton, Prod.mk.injEq, Option.some.injEq] at found
    obtain ⟨_, rfl⟩ := found
    exact fun _ => nofun
  have few : document.references.length < 2 := by decide
  have deep : value.depth ≤ 2 := by decide
  obtain ⟨_, ends, _, _, same⟩ := bounds_suffice document _ supplied value 2 2 few deep
  exact ⟨few, deep, ends, same⟩

end Schema

end Conform
