import Conform.Formats

set_option autoImplicit false

namespace Conform

theorem member_of_key {α : Type} (key : String) (members : List (String × α)) (value : α)
    (found : member? key members = some value) : (key, value) ∈ members := by
  induction members with
  | nil => simp [member?] at found
  | cons head tail ih =>
      obtain ⟨name, first⟩ := head
      by_cases same : name = key
      · rw [member?, if_pos same] at found
        cases found
        simp [same]
      · rw [member?, if_neg same] at found
        exact List.mem_cons_of_mem _ (ih found)

theorem has_member_iff {α : Type} (key : String) (members : List (String × α)) :
    hasMember key members = true ↔ key ∈ members.map (·.1) := by
  unfold hasMember
  induction members with
  | nil => simp [member?]
  | cons head tail ih =>
      obtain ⟨name, first⟩ := head
      by_cases same : name = key
      · simp [member?, same]
      · rw [member?, if_neg same, ih, List.map_cons, List.mem_cons, or_iff_right (Ne.symm same)]

theorem member_absent {α : Type} {key : String} {members : List (String × α)} (absent : key ∉ members.map (·.1)) :
    member? key members = none := by
  rw [← Option.not_isSome_iff_eq_none]
  exact fun known => absent ((has_member_iff key members).mp known)

theorem member_set_other {α : Type} (key other : String) (value : α) (members : List (String × α)) (different : other ≠ key) :
    member? other (setMember key value members) = member? other members := by
  induction members with
  | nil => simp [setMember, member?, different.symm]
  | cons head tail ih =>
      obtain ⟨name, first⟩ := head
      by_cases same : name = key
      · have otherName : name ≠ other := fun equal => different (equal ▸ same)
        rw [setMember, if_pos same, member?, member?, if_neg (same ▸ otherName), if_neg otherName]
      · rw [setMember, if_neg same, member?, member?, ih]

theorem member_set_same {α : Type} (key : String) (value : α) (members : List (String × α)) :
    member? key (setMember key value members) = some value := by
  induction members with
  | nil => simp [setMember, member?]
  | cons head tail ih =>
      obtain ⟨name, first⟩ := head
      by_cases same : name = key
      · rw [setMember, if_pos same, member?, if_pos same]
      · rw [setMember, if_neg same, member?, if_neg same, ih]

theorem set_member_source {α : Type} (key : String) (value : α) (members : List (String × α)) (entry : String × α)
    (found : entry ∈ setMember key value members) : entry = (key, value) ∨ entry ∈ members := by
  induction members with
  | nil => exact .inl (List.mem_singleton.mp found)
  | cons head tail ih =>
      obtain ⟨name, first⟩ := head
      by_cases same : name = key
      · rw [setMember, if_pos same] at found
        rcases List.mem_cons.mp found with here | later
        · exact .inl (by rw [here, same])
        · exact .inr (List.mem_cons_of_mem _ later)
      · rw [setMember, if_neg same] at found
        rcases List.mem_cons.mp found with here | later
        · exact .inr (by simp [here])
        · exact (ih later).imp_right (List.mem_cons_of_mem _)

namespace Formats

def Every (holds : Check → Prop) (registry : Formats) : Prop :=
  ∀ name check, (name, some check) ∈ registry → holds check

theorem every_set {holds : Check → Prop} (registry : Formats) (entry : String × Option Check)
    (every : Every holds registry) (fresh : ∀ check, entry.2 = some check → holds check) :
    Every holds (setMember entry.1 entry.2 registry) := by
  intro name check found
  rcases set_member_source entry.1 entry.2 registry (name, some check) found with new | old
  · exact fresh check (congrArg Prod.snd new).symm
  · exact every name check old

theorem every_added {holds : Check → Prop} (extras registry : Formats) (every : Every holds extras)
    (known : Every holds registry) :
    Every holds (extras.foldl (fun registry entry => setMember entry.1 entry.2 registry) registry) := by
  induction extras generalizing registry with
  | nil => exact known
  | cons head tail ih =>
      refine ih _ (fun name check later => every name check (List.mem_cons_of_mem _ later))
        (every_set registry head known fun check given => ?_)
      exact every head.1 check (by rw [← given]; exact List.mem_cons_self ..)

theorem added_source {extras registry : Formats} {entry : String × Option Check}
    (found : entry ∈ extras.foldl (fun registry entry => setMember entry.1 entry.2 registry) registry) :
    entry ∈ extras ∨ entry ∈ registry := by
  induction extras generalizing registry with
  | nil => exact .inr found
  | cons head tail ih =>
      rcases ih found with supplied | known
      · exact .inl (List.mem_cons_of_mem _ supplied)
      · exact (set_member_source head.1 head.2 registry entry known).imp_left fun same => by rw [same]; exact List.mem_cons_self

theorem every_standard {holds : Check → Prop} (ipv4 : holds (Check.ofFindings Keyword.ipv4))
    (ipv6 : holds (Check.ofFindings Keyword.ipv6)) : Every holds standard := by
  intro name check found
  simp only [standard, List.mem_cons, Prod.mk.injEq, Option.some.injEq, List.not_mem_nil, or_false] at found
  rcases found with ⟨_, rfl⟩ | ⟨_, rfl⟩
  · exact ipv4
  · exact ipv6

theorem every_extend {holds : Check → Prop} (own : ∀ judge, holds (Check.ofFindings judge)) (extras : Formats)
    (every : Every holds extras) : Every holds (extend extras) :=
  every_added extras standard every (every_standard (own _) (own _))

theorem every_found {holds : Check → Prop} {registry : Formats} (every : Every holds registry) (name : String)
    (check : Check) (found : registry.find? name = some check) : holds check := by
  exact every name check (member_of_key name registry _ (Option.join_eq_some_iff.mp found))

theorem extended_source {extras : Formats} {name : String} {check : Check} (found : (extend extras).find? name = some check) :
    (name, some check) ∈ extras ∨ ∃ judge, check = Check.ofFindings judge := by
  refine (added_source (member_of_key name _ _ (Option.join_eq_some_iff.mp found))).imp_right fun known => ?_
  exact @every_standard (fun check => ∃ judge, check = Check.ofFindings judge) ⟨_, rfl⟩ ⟨_, rfl⟩ name check known

theorem find_extend (extras : Formats) (distinct : (extras.map (·.1)).Nodup) (name : String) :
    (extend extras).find? name = (member? name extras).getD (standard.find? name) := by
  have added : ∀ registry : Formats,
      find? (extras.foldl (fun registry entry => setMember entry.1 entry.2 registry) registry) name =
        (member? name extras).getD (find? registry name) := by
    induction extras with
    | nil => exact fun _ => rfl
    | cons head tail ih =>
        intro registry
        obtain ⟨key, check⟩ := head
        obtain ⟨fresh, later⟩ := List.nodup_cons.mp distinct
        rw [List.foldl_cons, ih later, member?]
        by_cases same : key = name
        · subst same
          rw [if_pos rfl, member_absent fresh, find?, member_set_same]
          rfl
        · rw [if_neg same, find?, member_set_other key name check registry (Ne.symm same)]
          rfl
  exact added standard

end Formats

end Conform
