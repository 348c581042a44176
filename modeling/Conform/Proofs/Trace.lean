import Conform.Trace
import Mathlib.Data.List.Forall2

set_option autoImplicit false

namespace Conform

theorem returned_of_option {ε α : Type} {result : Except ε α} {a : α} (given : result.toOption = some a) : result = .ok a := by
  cases result with
  | error fault => cases given
  | ok other => rw [Option.some.inj given]

theorem failed_of_option {ε α : Type} {result : Except ε α} (given : result.toOption = none) :
    ∃ fault, result = .error fault := by
  cases result with
  | error fault => exact ⟨fault, rfl⟩
  | ok a => cases given

theorem related_iff_map {α β γ : Type} {f : α → γ} {g : β → γ} {as : List α} {bs : List β} :
    List.Forall₂ (fun a b => f a = g b) as bs ↔ as.map f = bs.map g := by
  rw [← List.forall₂_eq_eq_eq, List.forall₂_map_left_iff, List.forall₂_map_right_iff]

namespace Logged

variable {ε α β γ : Type}

theorem bind_eq (x : Logged ε α) (f : α → Logged ε β) : x >>= f = x.andThen f := rfl

theorem and_then_result (x : Logged ε α) : x.andThen result = x := by
  obtain ⟨log, outcome⟩ := x
  cases outcome <;> simp [andThen, result]

theorem result_and_then (a : α) (f : α → Logged ε β) : (result a).andThen f = f a := by
  simp [andThen, result]

theorem and_then_assoc (x : Logged ε α) (f : α → Logged ε β) (g : β → Logged ε γ) :
    (x.andThen f).andThen g = x.andThen fun a => (f a).andThen g := by
  obtain ⟨log, outcome⟩ := x
  cases outcome with
  | error e => rfl
  | ok a =>
      simp only [andThen]
      cases (f a).outcome <;> simp

theorem and_then_outcome (x : Logged ε α) (f : α → Logged ε β) :
    (x.andThen f).outcome = x.outcome.bind fun a => (f a).outcome := by
  cases outcome : x.outcome <;> simp [andThen, outcome, Except.bind]

theorem and_then_ok (x : Logged ε α) (f : α → Logged ε β) (b : β) :
    (x.andThen f).outcome = .ok b ↔ ∃ a, x.outcome = .ok a ∧ (f a).outcome = .ok b := by
  rw [and_then_outcome]
  cases x.outcome <;> simp [Except.bind]

theorem and_then_log (x : Logged ε α) (f : α → Logged ε β) (a : α) (returned : x.outcome = .ok a) :
    (x.andThen f).log = x.log ++ (f a).log := by
  simp [andThen, returned]

theorem and_then_prefix (x : Logged ε α) (f : α → Logged ε β) : x.log ⊆ (x.andThen f).log := by
  cases outcome : x.outcome <;> simp [andThen, outcome]

theorem and_then_congr {x : Logged ε α} {f g : α → Logged ε β} (same : ∀ a, x.outcome = .ok a → f a = g a) :
    x.andThen f = x.andThen g := by
  cases outcome : x.outcome with
  | error e => simp [andThen, outcome]
  | ok a => simp [andThen, outcome, same a outcome]

def Returns (x : Logged ε α) : Prop :=
  ∃ a, x.outcome = .ok a

def Runs (whole : Logged ε α) (part : Logged ε β) : Prop :=
  whole.Returns → part.Returns ∧ part.log ⊆ whole.log

theorem runs_self (x : Logged ε α) : x.Runs x :=
  fun returned => ⟨returned, fun _ member => member⟩

theorem runs_trans {x : Logged ε α} {y : Logged ε β} {z : Logged ε γ} (outer : x.Runs y) (inner : y.Runs z) :
    x.Runs z := by
  intro returned
  obtain ⟨middle, kept⟩ := outer returned
  obtain ⟨last, keptLast⟩ := inner middle
  exact ⟨last, fun _ member => kept (keptLast member)⟩

theorem runs_first (x : Logged ε α) (f : α → Logged ε β) : (x.andThen f).Runs x := by
  rintro ⟨b, returned⟩
  obtain ⟨a, first, _⟩ := (and_then_ok x f b).mp returned
  exact ⟨⟨a, first⟩, and_then_prefix x f⟩

theorem runs_next {x : Logged ε α} {f : α → Logged ε β} {part : Logged ε γ}
    (inner : ∀ a, x.outcome = .ok a → (f a).Runs part) : (x.andThen f).Runs part := by
  rintro ⟨b, returned⟩
  obtain ⟨a, first, second⟩ := (and_then_ok x f b).mp returned
  obtain ⟨last, kept⟩ := inner a first ⟨b, second⟩
  refine ⟨last, fun entry member => ?_⟩
  rw [and_then_log x f a first]
  exact List.mem_append_right _ (kept member)

theorem joined_runs (xs : List (Logged ε (List α))) (x : Logged ε (List α)) (member : x ∈ xs) :
    (joined xs).Runs x := by
  induction xs with
  | nil => simp at member
  | cons head tail ih =>
      rcases List.mem_cons.mp member with rfl | later
      · exact runs_first _ _
      · exact runs_next fun as _ => runs_trans (runs_first _ _) (ih later)

theorem each_runs (f : α → Logged ε β) (as : List α) (a : α) (member : a ∈ as) : (each f as).Runs (f a) := by
  induction as with
  | nil => simp at member
  | cons head tail ih =>
      rcases List.mem_cons.mp member with rfl | later
      · exact runs_first _ _
      · exact runs_next fun b _ => runs_trans (runs_first _ _) (ih later)

theorem each_ok (f : α → Logged ε β) (as : List α) (bs : List β) (returned : (each f as).outcome = .ok bs) :
    List.Forall₂ (fun a b => (f a).outcome = .ok b) as bs := by
  induction as generalizing bs with
  | nil =>
      cases returned
      exact .nil
  | cons head tail ih =>
      obtain ⟨b, first, rest⟩ := (and_then_ok _ _ bs).mp returned
      obtain ⟨others, second, last⟩ := (and_then_ok _ _ bs).mp rest
      cases last
      exact .cons first (ih others second)

theorem each_ok_iff (f : α → Logged ε β) (as : List α) (bs : List β) :
    (each f as).outcome = .ok bs ↔ List.Forall₂ (fun a b => (f a).outcome = .ok b) as bs := by
  constructor
  · exact each_ok f as bs
  · intro steps
    induction steps with
    | nil => rfl
    | cons first _ ih =>
        apply (and_then_ok _ _ _).mpr
        exact ⟨_, first, (and_then_ok _ _ _).mpr ⟨_, ih, rfl⟩⟩

theorem each_ok_related {r : γ → β → Prop} (f : α → Logged ε β) {cs : List γ} {as : List α} {bs : List β}
    (steps : List.Forall₂ (fun c a => ∀ b, (f a).outcome = .ok b → r c b) cs as)
    (returned : (each f as).outcome = .ok bs) : List.Forall₂ r cs bs := by
  induction steps generalizing bs with
  | nil =>
      cases returned
      exact .nil
  | cons step _ ih =>
      obtain ⟨b, first, rest⟩ := (and_then_ok _ _ bs).mp returned
      obtain ⟨others, second, last⟩ := (and_then_ok _ _ bs).mp rest
      cases last
      exact .cons (step b first) (ih second)

theorem each_ok_member (f : α → Logged ε β) (as : List α) (bs : List β) (returned : (each f as).outcome = .ok bs)
    (a : α) (member : a ∈ as) : ∃ b ∈ bs, (f a).outcome = .ok b := by
  have steps := each_ok f as bs returned
  clear returned
  induction steps with
  | nil => simp at member
  | @cons head b _ _ first _ ih =>
      rcases List.mem_cons.mp member with rfl | later
      · exact ⟨b, by simp, first⟩
      · obtain ⟨found, kept, same⟩ := ih later
        exact ⟨found, by simp [kept], same⟩

theorem each_ok_source (f : α → Logged ε β) (as : List α) (bs : List β) (returned : (each f as).outcome = .ok bs)
    (b : β) (member : b ∈ bs) : ∃ a ∈ as, (f a).outcome = .ok b := by
  have steps := each_ok f as bs returned
  clear returned
  induction steps with
  | nil => simp at member
  | @cons a head _ _ first _ ih =>
      rcases List.mem_cons.mp member with rfl | later
      · exact ⟨a, by simp, first⟩
      · obtain ⟨found, kept, same⟩ := ih later
        exact ⟨found, by simp [kept], same⟩

theorem joined_ok_member (xs : List (Logged ε (List α))) (as : List α) (returned : (joined xs).outcome = .ok as)
    (x : Logged ε (List α)) (member : x ∈ xs) : ∃ part, x.outcome = .ok part ∧ part ⊆ as := by
  induction xs generalizing as with
  | nil => simp at member
  | cons head tail ih =>
      obtain ⟨own, first, rest⟩ := (and_then_ok _ _ as).mp returned
      obtain ⟨others, second, last⟩ := (and_then_ok _ _ as).mp rest
      cases last
      rcases List.mem_cons.mp member with rfl | later
      · exact ⟨own, first, List.subset_append_left own others⟩
      · obtain ⟨part, same, kept⟩ := ih others second later
        exact ⟨part, same, fun a found => List.mem_append_right own (kept found)⟩

theorem joined_ok_source (xs : List (Logged ε (List α))) (as : List α) (returned : (joined xs).outcome = .ok as)
    (a : α) (member : a ∈ as) : ∃ x ∈ xs, ∃ part, x.outcome = .ok part ∧ a ∈ part := by
  induction xs generalizing as with
  | nil =>
      cases returned
      simp at member
  | cons head tail ih =>
      obtain ⟨own, first, rest⟩ := (and_then_ok _ _ as).mp returned
      obtain ⟨others, second, last⟩ := (and_then_ok _ _ as).mp rest
      cases last
      rcases List.mem_append.mp member with here | later
      · exact ⟨head, by simp, own, first, here⟩
      · obtain ⟨x, kept, part, same, found⟩ := ih others second later
        exact ⟨x, by simp [kept], part, same, found⟩

theorem each_congr {f g : α → Logged ε β} {as : List α} (same : ∀ a ∈ as, f a = g a) :
    each f as = each g as := by
  induction as with
  | nil => rfl
  | cons head tail ih =>
      obtain ⟨first, rest⟩ := List.forall_mem_cons.mp same
      rw [each, each, first, ih rest]

end Logged

-- A way to hold two computations against each other while both go on. Every relation between their results
-- is lifted to one between the computations, and steps that are related stay so when they are put in sequence.
structure Comparison where
  relates : {α β : Type} → (α → β → Prop) → Traced α → Traced β → Prop
  result : ∀ {α β : Type} {r : α → β → Prop} {a : α} {b : β}, r a b → relates r (.result a) (.result b)
  andThen : ∀ {α β γ δ : Type} {r : α → β → Prop} {s : γ → δ → Prop} {x : Traced α} {y : Traced β}
    {f : α → Traced γ} {g : β → Traced δ},
    relates r x y → (∀ a b, r a b → relates s (f a) (g b)) → relates s (x.andThen f) (y.andThen g)

namespace Comparison

variable {α β γ δ : Type} (K : Comparison)

def Fine (x : Traced α) : Prop :=
  K.relates Eq x x

variable {K}

theorem weaken {r s : α → β → Prop} {x : Traced α} {y : Traced β} (related : K.relates r x y)
    (weaker : ∀ a b, r a b → s a b) : K.relates s x y := by
  have steps := K.andThen related fun a b holds => K.result (weaker a b holds)
  rwa [Logged.and_then_result, Logged.and_then_result] at steps

theorem and_then_fine {s : γ → δ → Prop} {x : Traced α} {f : α → Traced γ} {g : α → Traced δ} (fine : K.Fine x)
    (next : ∀ a, K.relates s (f a) (g a)) : K.relates s (x.andThen f) (x.andThen g) := by
  refine K.andThen fine fun a b same => ?_
  subst same
  exact next a

theorem each_related {s : γ → δ → Prop} {f : α → Traced γ} {g : β → Traced δ} {as : List α} {bs : List β}
    (steps : List.Forall₂ (fun a b => K.relates s (f a) (g b)) as bs) :
    K.relates (List.Forall₂ s) (Logged.each f as) (Logged.each g bs) := by
  induction steps with
  | nil => exact K.result .nil
  | cons first _ ih =>
      exact K.andThen first fun c d head => K.andThen ih fun cs ds tail => K.result (.cons head tail)

theorem each_same {f g : α → Traced γ} {as : List α} (steps : ∀ a ∈ as, K.relates Eq (f a) (g a)) :
    K.relates Eq (Logged.each f as) (Logged.each g as) := by
  have related : K.relates (List.Forall₂ Eq) (Logged.each f as) (Logged.each g as) :=
    each_related (List.forall₂_same.mpr steps)
  exact weaken related fun cs ds same => by rwa [List.forall₂_eq_eq_eq] at same

theorem joined_related {s : γ → δ → Prop} {xs : List (Traced (List γ))} {ys : List (Traced (List δ))}
    (steps : List.Forall₂ (K.relates (List.Forall₂ s)) xs ys) :
    K.relates (List.Forall₂ s) (Logged.joined xs) (Logged.joined ys) := by
  induction steps with
  | nil => exact K.result .nil
  | cons first _ ih =>
      exact K.andThen first fun c d head =>
        K.andThen ih fun cs ds tail => K.result (List.rel_append head tail)

end Comparison

def EndsAlike {α β : Type} (faults : Fault → Prop) (r : α → β → Prop) : Except Fault α → Except Fault β → Prop
  | .ok a, .ok b => r a b
  | .error e, .error other => e = other ∧ faults e
  | _, _ => False

namespace Comparison

def identical (entries : Entry → Prop) (faults : Fault → Prop) : Comparison where
  relates r x y := x.log = y.log ∧ (∀ entry ∈ x.log, entries entry) ∧ EndsAlike faults r x.outcome y.outcome
  result holds := ⟨rfl, by simp [Logged.result], holds⟩
  andThen := by
    rintro α β γ δ r s ⟨log, outcome⟩ ⟨other, ending⟩ f g ⟨rfl, permitted, alike⟩ next
    cases outcome with
    | error e =>
        cases ending with
        | error e' => exact ⟨rfl, permitted, alike⟩
        | ok b => exact alike.elim
    | ok a =>
        cases ending with
        | error e' => exact alike.elim
        | ok b =>
            obtain ⟨sameLog, permittedNext, alikeNext⟩ := next a b alike
            refine ⟨congrArg (log ++ ·) sameLog, fun entry member => ?_, alikeNext⟩
            rcases List.mem_append.mp member with first | second
            · exact permitted entry first
            · exact permittedNext entry second

abbrev equal : Comparison :=
  identical (fun _ => True) fun _ => True

def outcomes (faults : Fault → Prop) : Comparison where
  relates r x y := EndsAlike faults r x.outcome y.outcome
  result holds := holds
  andThen := by
    rintro α β γ δ r s ⟨log, outcome⟩ ⟨other, ending⟩ f g alike next
    cases outcome with
    | error e =>
        cases ending with
        | error e' => exact alike
        | ok b => exact alike.elim
    | ok a =>
        cases ending with
        | error e' => exact alike.elim
        | ok b => exact next a b alike

-- A result on the left comes with a related one on the right; a fault on the left says nothing.
def results : Comparison where
  relates r x y := ∀ a, x.outcome = .ok a → ∃ b, y.outcome = .ok b ∧ r a b
  result holds := by
    rintro a ⟨⟩
    exact ⟨_, rfl, holds⟩
  andThen := by
    intro α β γ δ r s x y f g related next c returned
    obtain ⟨a, first, second⟩ := (Logged.and_then_ok x f c).mp returned
    obtain ⟨b, other, holds⟩ := related a first
    obtain ⟨d, last, holdsLast⟩ := next a b holds c second
    exact ⟨d, (Logged.and_then_ok y g d).mpr ⟨b, other, last⟩, holdsLast⟩

def anything : Comparison where
  relates _ _ _ := True
  result _ := trivial
  andThen _ _ := trivial

variable {α β : Type}

theorem identical_fine {entries : Entry → Prop} {faults : Fault → Prop} {x : Traced α} :
    (identical entries faults).Fine x ↔
      (∀ entry ∈ x.log, entries entry) ∧ ∀ fault, x.outcome = .error fault → faults fault := by
  constructor
  · rintro ⟨_, permitted, alike⟩
    refine ⟨permitted, fun fault failed => ?_⟩
    rw [failed] at alike
    exact alike.2
  · rintro ⟨permitted, faulty⟩
    refine ⟨rfl, permitted, ?_⟩
    cases outcome : x.outcome with
    | error fault => exact ⟨rfl, faulty fault outcome⟩
    | ok a => exact rfl

theorem identical_eq {entries : Entry → Prop} {faults : Fault → Prop} {x y : Traced α}
    (related : (identical entries faults).relates Eq x y) : x = y := by
  obtain ⟨log, outcome⟩ := x
  obtain ⟨other, ending⟩ := y
  obtain ⟨rfl, _, alike⟩ := related
  cases outcome <;> cases ending <;> first | exact alike.elim | (obtain rfl := alike; rfl) | (obtain ⟨rfl, _⟩ := alike; rfl)

theorem equal_fine (x : Traced α) : equal.Fine x :=
  identical_fine.mpr ⟨fun _ _ => trivial, fun _ _ => trivial⟩

theorem identical_left {entries : Entry → Prop} {faults : Fault → Prop} {r : α → β → Prop} {x : Traced α} {y : Traced β}
    (related : (identical entries faults).relates r x y) :
    (∀ entry ∈ x.log, entries entry) ∧ ∀ fault, x.outcome = .error fault → faults fault := by
  obtain ⟨_, permitted, alike⟩ := related
  refine ⟨permitted, fun fault failed => ?_⟩
  rw [failed] at alike
  cases outcome : y.outcome with
  | error other => rw [outcome] at alike; exact alike.2
  | ok b => rw [outcome] at alike; exact alike.elim

theorem outcomes_fine {faults : Fault → Prop} {x : Traced α} :
    (outcomes faults).Fine x ↔ ∀ fault, x.outcome = .error fault → faults fault := by
  constructor
  · intro alike fault failed
    change EndsAlike faults Eq x.outcome x.outcome at alike
    rw [failed] at alike
    exact alike.2
  · intro faulty
    change EndsAlike faults Eq x.outcome x.outcome
    cases outcome : x.outcome with
    | error fault => exact ⟨rfl, faulty fault outcome⟩
    | ok a => exact rfl

theorem outcomes_eq {faults : Fault → Prop} {x y : Traced α} (related : (outcomes faults).relates Eq x y) :
    x.outcome = y.outcome := by
  change EndsAlike faults Eq x.outcome y.outcome at related
  cases first : x.outcome <;> cases second : y.outcome <;> rw [first, second] at related
  · rw [related.1]
  · exact related.elim
  · exact related.elim
  · rw [show _ = _ from related]

theorem outcomes_same {x y : Traced α} (same : x.outcome = y.outcome) : (outcomes fun _ => True).relates Eq x y := by
  change EndsAlike _ Eq x.outcome y.outcome
  rw [same]
  exact outcomes_fine.mpr fun _ _ => trivial

theorem outcomes_return {r : α → β → Prop} {x : Traced α} {y : Traced β} :
    (outcomes fun _ => False).relates r x y ↔ ∃ a b, x.outcome = .ok a ∧ y.outcome = .ok b ∧ r a b := by
  constructor
  · intro alike
    change EndsAlike _ r x.outcome y.outcome at alike
    cases first : x.outcome <;> cases second : y.outcome <;> rw [first, second] at alike
    · exact alike.2.elim
    · exact alike.elim
    · exact alike.elim
    · exact ⟨_, _, rfl, rfl, alike⟩
  · rintro ⟨a, b, first, second, holds⟩
    change EndsAlike _ r x.outcome y.outcome
    rw [first, second]
    exact holds

theorem outcomes_permit {faults more : Fault → Prop} {r : α → β → Prop} {x : Traced α} {y : Traced β}
    (related : (outcomes faults).relates r x y) (permitted : ∀ fault, faults fault → more fault) :
    (outcomes more).relates r x y := by
  change EndsAlike faults r x.outcome y.outcome at related
  change EndsAlike more r x.outcome y.outcome
  cases first : x.outcome <;> cases second : y.outcome <;> rw [first, second] at related
  · exact ⟨related.1, permitted _ related.2⟩
  · exact related.elim
  · exact related.elim
  · exact related

theorem results_fine (x : Traced α) : results.Fine x :=
  fun a returned => ⟨a, returned, rfl⟩

end Comparison

end Conform
