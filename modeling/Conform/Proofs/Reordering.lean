import Conform.Proofs.Check
import Conform.Proofs.Formats
import Mathlib.Data.List.Nodup
import Mathlib.Data.List.Perm.Basic

set_option autoImplicit false

namespace Conform

variable {α β γ δ : Type}

theorem related_members {r s : α → β → Prop} {as : List α} {bs : List β} (related : List.Forall₂ r as bs)
    (stronger : ∀ a ∈ as, ∀ b ∈ bs, r a b → s a b) : List.Forall₂ s as bs := by
  induction related with
  | nil => exact .nil
  | cons first _ ih =>
      refine .cons (stronger _ (List.mem_cons_self ..) _ (List.mem_cons_self ..) first) (ih fun a member b member' => ?_)
      exact stronger a (List.mem_cons_of_mem _ member) b (List.mem_cons_of_mem _ member')

theorem related_both {r s : α → β → Prop} {as : List α} {bs : List β} (first : List.Forall₂ r as bs)
    (second : List.Forall₂ s as bs) : List.Forall₂ (fun a b => r a b ∧ s a b) as bs := by
  induction first with
  | nil => exact .nil
  | cons holds _ ih =>
      cases second with
      | cons holds' later => exact .cons ⟨holds, holds'⟩ (ih later)

theorem related_get {r : α → β → Prop} {as : List α} {bs : List β} (related : List.Forall₂ r as bs) (index : Nat) :
    Option.Rel r as[index]? bs[index]? := by
  induction related generalizing index with
  | nil => exact .none
  | cons first _ ih =>
      cases index with
      | zero => exact .some first
      | succ index => exact ih index

theorem option_related {r : α → β → Prop} {a : Option α} {b : Option β} (related : Option.Rel r a b) :
    List.Forall₂ r a.toList b.toList := by
  cases related with
  | none => exact .nil
  | some holds => exact .cons holds .nil

theorem option_some_same {r : α → β → Prop} {a : Option α} {b : Option β} (related : Option.Rel r a b) :
    a.isSome = b.isSome := by
  cases related <;> rfl

def Shuffled (s : α → β → Prop) (as : List α) (bs : List β) : Prop :=
  ∃ middle, as.Perm middle ∧ List.Forall₂ s middle bs

section Shuffled

variable {s : α → β → Prop} {t : γ → δ → Prop} {as : List α} {bs : List β}

theorem shuffled_of_related (related : List.Forall₂ s as bs) : Shuffled s as bs :=
  ⟨as, .refl as, related⟩

theorem shuffled_append {as' : List α} {bs' : List β} (first : Shuffled s as bs) (second : Shuffled s as' bs') :
    Shuffled s (as ++ as') (bs ++ bs') := by
  obtain ⟨middle, order, related⟩ := first
  obtain ⟨middle', order', related'⟩ := second
  exact ⟨middle ++ middle', order.append order', List.rel_append related related'⟩

theorem shuffled_map {f : α → γ} {g : β → δ} (shuffled : Shuffled s as bs) (onward : ∀ a b, s a b → t (f a) (g b)) :
    Shuffled t (as.map f) (bs.map g) := by
  obtain ⟨middle, order, related⟩ := shuffled
  exact ⟨middle.map f, order.map f, List.rel_map (fun a b holds => onward a b holds) related⟩

theorem shuffled_filter_map {f : α → Option γ} {g : β → Option δ} (shuffled : Shuffled s as bs)
    (onward : ∀ a b, s a b → Option.Rel t (f a) (g b)) : Shuffled t (as.filterMap f) (bs.filterMap g) := by
  obtain ⟨middle, order, related⟩ := shuffled
  exact ⟨middle.filterMap f, order.filterMap f, List.rel_filterMap (fun a b holds => onward a b holds) related⟩

theorem shuffled_weaken {r : α → β → Prop} (shuffled : Shuffled s as bs) (weaker : ∀ a ∈ as, ∀ b, s a b → r a b) :
    Shuffled r as bs := by
  obtain ⟨middle, order, related⟩ := shuffled
  exact ⟨middle, order, related_members related fun a member b _ => weaker a (order.mem_iff.mpr member) b⟩

theorem shuffled_length (shuffled : Shuffled s as bs) : as.length = bs.length := by
  obtain ⟨middle, order, related⟩ := shuffled
  rw [order.length_eq, related.length_eq]

theorem shuffled_source (shuffled : Shuffled s as bs) (b : β) (member : b ∈ bs) : ∃ a ∈ as, s a b := by
  obtain ⟨middle, order, related⟩ := shuffled
  simp only [order.mem_iff]
  clear order
  induction related with
  | nil => exact absurd member List.not_mem_nil
  | cons first _ ih =>
      rcases List.mem_cons.mp member with rfl | later
      · exact ⟨_, List.mem_cons_self .., first⟩
      · obtain ⟨a, found, holds⟩ := ih later
        exact ⟨a, List.mem_cons_of_mem _ found, holds⟩

theorem shuffled_flat_map {f : α → List γ} {g : β → List γ} (shuffled : Shuffled s as bs)
    (onward : ∀ a b, s a b → (f a).Perm (g b)) : (as.flatMap f).Perm (bs.flatMap g) := by
  obtain ⟨middle, order, related⟩ := shuffled
  refine (order.flatMap_right f).trans ?_
  clear order
  induction related with
  | nil => exact .refl _
  | cons first _ ih =>
      rw [List.flatMap_cons, List.flatMap_cons]
      exact (onward _ _ first).append ih

theorem shuffled_perm {as bs : List α} (shuffled : Shuffled Eq as bs) : as.Perm bs := by
  obtain ⟨middle, order, related⟩ := shuffled
  rw [List.forall₂_eq_eq_eq] at related
  rwa [← related]

end Shuffled

namespace Comparison

theorem each_perm {f : α → Traced γ} {as bs : List α} (order : as.Perm bs) :
    results.relates List.Perm (Logged.each f as) (Logged.each f bs) := by
  induction order with
  | nil => exact results.result .nil
  | cons a _ ih =>
      refine and_then_fine (results_fine (f a)) fun c => results.andThen ih fun cs ds order => ?_
      exact results.result (order.cons c)
  | swap a b rest =>
      rintro _ returned
      obtain ⟨second, former, after⟩ := (Logged.and_then_ok _ _ _).mp returned
      obtain ⟨_, latter, last⟩ := (Logged.and_then_ok _ _ _).mp after
      obtain ⟨first, former', after'⟩ := (Logged.and_then_ok _ _ _).mp latter
      obtain ⟨others, later, last'⟩ := (Logged.and_then_ok _ _ _).mp after'
      cases last'
      cases last
      refine ⟨first :: second :: others, ?_, .swap first second others⟩
      have inner : (Logged.each f (b :: rest)).outcome = .ok (second :: others) :=
        (Logged.and_then_ok _ _ _).mpr ⟨second, former, (Logged.and_then_ok _ _ _).mpr ⟨others, later, rfl⟩⟩
      exact (Logged.and_then_ok _ _ _).mpr ⟨first, former', (Logged.and_then_ok _ _ _).mpr ⟨_, inner, rfl⟩⟩
  | trans _ _ ih ih' =>
      intro cs returned
      obtain ⟨middle, second, order⟩ := ih cs returned
      obtain ⟨ds, third, order'⟩ := ih' middle second
      exact ⟨ds, third, order.trans order'⟩

theorem each_shuffled {s : α → β → Prop} {t : γ → δ → Prop} {f : α → Traced γ} {g : β → Traced δ} {as : List α}
    {bs : List β} (shuffled : Shuffled s as bs) (steps : ∀ a b, s a b → results.relates t (f a) (g b)) :
    results.relates (Shuffled t) (Logged.each f as) (Logged.each g bs) := by
  obtain ⟨middle, order, related⟩ := shuffled
  intro cs returned
  obtain ⟨inner, second, reordered⟩ := each_perm order cs returned
  obtain ⟨ds, third, holds⟩ := each_related (related.imp fun a b holds => steps a b holds) inner second
  exact ⟨ds, third, inner, reordered, holds⟩

theorem joined_shuffled {s : γ → δ → Prop} {xs : List (Traced (List γ))} {ys : List (Traced (List δ))}
    (steps : List.Forall₂ (results.relates (Shuffled s)) xs ys) :
    results.relates (Shuffled s) (Logged.joined xs) (Logged.joined ys) := by
  induction steps with
  | nil => exact results.result (shuffled_of_related .nil)
  | cons first _ ih =>
      exact results.andThen first fun c d head => results.andThen ih fun cs ds tail =>
        results.result (shuffled_append head tail)

end Comparison

def Paired (r : α → β → Prop) (a : String × α) (b : String × β) : Prop :=
  a.1 = b.1 ∧ r a.2 b.2

-- Distinct names on the left, the same names on the right in any order, and related values under each name.
inductive Reordered (r : α → β → Prop) : List (String × α) → List (String × β) → Prop where
  | intro {middle as : List (String × α)} {bs : List (String × β)} (distinct : (as.map (·.1)).Nodup)
      (order : as.Perm middle) (names : middle.map (·.1) = bs.map (·.1))
      (values : List.Forall₂ r (middle.map (·.2)) (bs.map (·.2))) : Reordered r as bs

section Reordered

variable {r : α → β → Prop} {as : List (String × α)} {bs : List (String × β)}

theorem related_pairs : List.Forall₂ (Paired r) as bs ↔
    as.map (·.1) = bs.map (·.1) ∧ List.Forall₂ r (as.map (·.2)) (bs.map (·.2)) := by
  induction as generalizing bs with
  | nil => cases bs <;> simp
  | cons a as ih =>
      cases bs with
      | nil => simp
      | cons b bs => simp only [List.forall₂_cons, ih, Paired, List.map_cons, List.cons.injEq, and_and_and_comm]

theorem reordered_iff : Reordered r as bs ↔ (as.map (·.1)).Nodup ∧ Shuffled (Paired r) as bs := by
  constructor
  · rintro ⟨distinct, order, names, values⟩
    exact ⟨distinct, _, order, related_pairs.mpr ⟨names, values⟩⟩
  · rintro ⟨distinct, middle, order, related⟩
    obtain ⟨names, values⟩ := related_pairs.mp related
    exact .intro distinct order names values

theorem reordered_pairs (reordered : Reordered r as bs) : Shuffled (Paired r) as bs :=
  (reordered_iff.mp reordered).2

theorem reordered_distinct (reordered : Reordered r as bs) : (as.map (·.1)).Nodup ∧ (bs.map (·.1)).Nodup := by
  obtain ⟨distinct, order, names, _⟩ := reordered
  exact ⟨distinct, names ▸ (order.map _).nodup_iff.mp distinct⟩

theorem member_of_distinct {entry : String × α} (distinct : (as.map (·.1)).Nodup) (member : entry ∈ as) :
    member? entry.1 as = some entry.2 := by
  induction as with
  | nil => exact absurd member List.not_mem_nil
  | cons head tail ih =>
      obtain ⟨fresh, later⟩ := List.nodup_cons.mp distinct
      rcases List.mem_cons.mp member with rfl | inside
      · rw [member?, if_pos rfl]
      · have different : head.1 ≠ entry.1 := fun same => fresh (List.mem_map.mpr ⟨entry, inside, same.symm⟩)
        rw [member?, if_neg different, ih later inside]

theorem member_iff_of_distinct {key : String} {value : α} (distinct : (as.map (·.1)).Nodup) :
    member? key as = some value ↔ (key, value) ∈ as :=
  ⟨member_of_key key as value, fun member => member_of_distinct distinct member⟩

theorem member_perm {as' : List (String × α)} (distinct : (as.map (·.1)).Nodup) (order : as.Perm as') (key : String) :
    member? key as = member? key as' := by
  have distinct' : (as'.map (·.1)).Nodup := (order.map _).nodup_iff.mp distinct
  refine Option.ext fun value => ?_
  rw [member_iff_of_distinct distinct, member_iff_of_distinct distinct', order.mem_iff]

theorem reordered_member (reordered : Reordered r as bs) (key : String) :
    Option.Rel r (member? key as) (member? key bs) := by
  obtain ⟨distinct, middle, order, related⟩ := reordered_iff.mp reordered
  rw [member_perm distinct order]
  clear reordered distinct order
  induction related with
  | nil => exact .none
  | @cons a b _ _ first _ ih =>
      obtain ⟨name, value⟩ := a
      obtain ⟨_, value'⟩ := b
      obtain ⟨rfl, holds⟩ := first
      by_cases same : name = key
      · rw [member?, member?, if_pos same, if_pos same]
        exact .some holds
      · rwa [member?, member?, if_neg same, if_neg same]

theorem reordered_bind {t : γ → δ → Prop} {f : α → Option γ} {g : β → Option δ} (reordered : Reordered r as bs)
    (key : String) (onward : ∀ a b, r a b → Option.Rel t (f a) (g b)) :
    Option.Rel t ((member? key as).bind f) ((member? key bs).bind g) := by
  have lookup := reordered_member reordered key
  generalize member? key as = a, member? key bs = b at lookup
  cases lookup with
  | none => exact .none
  | some holds => exact onward _ _ holds

theorem reordered_of_member (distinct : (as.map (·.1)).Nodup) (distinct' : (bs.map (·.1)).Nodup)
    (lookups : ∀ key, Option.Rel r (member? key as) (member? key bs)) : Reordered r as bs := by
  have answers : ∀ entry ∈ bs, ∃ value, (entry.1, value) ∈ as ∧ r value entry.2 := by
    intro entry member
    have lookup := lookups entry.1
    rw [member_of_distinct distinct' member] at lookup
    cases found : member? entry.1 as with
    | none =>
        rw [found] at lookup
        cases lookup
    | some value =>
        rw [found] at lookup
        cases lookup with
        | some holds => exact ⟨value, member_of_key _ _ _ found, holds⟩
  have listed : ∃ middle, (∀ entry ∈ middle, entry ∈ as) ∧ List.Forall₂ (Paired r) middle bs := by
    clear lookups distinct'
    induction bs with
    | nil => exact ⟨[], nofun, .nil⟩
    | cons head tail ih =>
        obtain ⟨here, later⟩ := List.forall_mem_cons.mp answers
        obtain ⟨value, found, holds⟩ := here
        obtain ⟨middle, inside, related⟩ := ih later
        exact ⟨(head.1, value) :: middle, List.forall_mem_cons.mpr ⟨found, inside⟩, .cons ⟨rfl, holds⟩ related⟩
  obtain ⟨middle, inside, related⟩ := listed
  have names := (related_pairs.mp related).1
  have apart : (middle.map (·.1)).Nodup := names ▸ distinct'
  refine reordered_iff.mpr ⟨distinct, middle, ?_, related⟩
  refine (List.perm_ext_iff_of_nodup (List.Nodup.of_map _ distinct) (List.Nodup.of_map _ apart)).mpr fun entry =>
    ⟨fun member => ?_, inside entry⟩
  have lookup := lookups entry.1
  rw [member_of_distinct distinct member] at lookup
  cases found : member? entry.1 bs with
  | none =>
      rw [found] at lookup
      cases lookup
  | some value =>
      have named : entry.1 ∈ middle.map (·.1) := names ▸ List.mem_map_of_mem (member_of_key _ _ _ found)
      obtain ⟨other, kept, same⟩ := List.mem_map.mp named
      have value' := member_of_distinct distinct (inside other kept)
      rw [same, member_of_distinct distinct member] at value'
      rwa [Prod.ext same.symm (Option.some.inj value')]

theorem reordered_flip {s : β → α → Prop} (reordered : Reordered r as bs) (flipped : ∀ a b, r a b → s b a) :
    Reordered s bs as := by
  obtain ⟨distinct, distinct'⟩ := reordered_distinct reordered
  refine reordered_of_member distinct' distinct fun key => ?_
  have lookup := reordered_member reordered key
  generalize member? key as = a, member? key bs = b at lookup
  cases lookup with
  | none => exact .none
  | some holds => exact .some (flipped _ _ holds)

theorem reordered_has_member (reordered : Reordered r as bs) (key : String) : hasMember key as = hasMember key bs :=
  option_some_same (reordered_member reordered key)

theorem reordered_length (reordered : Reordered r as bs) : as.length = bs.length :=
  shuffled_length (reordered_pairs reordered)

theorem reordered_weaken {s : α → β → Prop} (reordered : Reordered r as bs)
    (weaker : ∀ entry ∈ as, ∀ b, r entry.2 b → s entry.2 b) : Reordered s as bs := by
  obtain ⟨distinct, shuffled⟩ := reordered_iff.mp reordered
  exact reordered_iff.mpr ⟨distinct, shuffled_weaken shuffled fun entry member b holds =>
    ⟨holds.1, weaker entry member b.2 holds.2⟩⟩

theorem names_kept (f : α → Option γ) (as : List (String × α)) :
    ((as.filterMap fun entry => (f entry.2).map fun c => (entry.1, c)).map (·.1)).Sublist (as.map (·.1)) := by
  induction as with
  | nil => exact .slnil
  | cons entry rest ih =>
      cases made : f entry.2 with
      | none =>
          rw [List.filterMap_cons_none (by rw [made]; rfl)]
          exact ih.cons _
      | some c =>
          rw [List.filterMap_cons_some (by rw [made]; rfl)]
          exact ih.cons_cons _

theorem reordered_filter_map {t : γ → δ → Prop} {f : α → Option γ} {g : β → Option δ} (reordered : Reordered r as bs)
    (onward : ∀ a b, r a b → Option.Rel t (f a) (g b)) :
    Reordered t (as.filterMap fun entry => (f entry.2).map fun c => (entry.1, c))
      (bs.filterMap fun entry => (g entry.2).map fun d => (entry.1, d)) := by
  obtain ⟨distinct, shuffled⟩ := reordered_iff.mp reordered
  refine reordered_iff.mpr ⟨?_, shuffled_filter_map shuffled fun a b holds => ?_⟩
  · exact distinct.sublist (names_kept f as)
  · have made := onward a.2 b.2 holds.2
    cases first : f a.2 <;> cases second : g b.2 <;> rw [first, second] at made <;> cases made
    · exact .none
    · exact .some ⟨holds.1, ‹_›⟩

theorem reordered_map {t : γ → δ → Prop} {f : α → γ} {g : β → δ} (reordered : Reordered r as bs)
    (onward : ∀ a b, r a b → t (f a) (g b)) :
    Reordered t (as.map fun entry => (entry.1, f entry.2)) (bs.map fun entry => (entry.1, g entry.2)) := by
  obtain ⟨distinct, shuffled⟩ := reordered_iff.mp reordered
  refine reordered_iff.mpr ⟨?_, shuffled_map shuffled fun a b holds => ⟨holds.1, onward _ _ holds.2⟩⟩
  rwa [List.map_map]

end Reordered

end Conform
