import Conform.Reference
import Mathlib.Algebra.Group.Nat.Defs
import Mathlib.Data.List.Induction

set_option autoImplicit false

namespace Conform

namespace Text

theorem is_digit_iff (c : Char) : isDigit c = true ↔ 48 ≤ c.toNat ∧ c.toNat ≤ 57 := by
  simp [isDigit, Char.le_def, UInt32.le_iff_toNat_le]

theorem digit_char_value {n : Nat} (small : n < 10) : isDigit n.digitChar = true ∧ digitValue n.digitChar = n := by
  decide +revert

theorem digit_char_back {c : Char} (digit : isDigit c = true) : digitValue c < 10 ∧ (digitValue c).digitChar = c := by
  obtain ⟨low, high⟩ := (is_digit_iff c).mp digit
  have same : Char.ofNat c.toNat = c := Char.ofNat_toNat c
  have back : ∀ n < 10, Nat.digitChar n = Char.ofNat (n + 48) := by decide
  have value : digitValue c = c.toNat - 48 := if_pos digit
  refine ⟨by omega, ?_⟩
  rw [value, back _ (by omega), Nat.sub_add_cancel low, same]

theorem value_append (digits : List Char) (c : Char) :
    valueIn 10 (digits ++ [c]) = 10 * valueIn 10 digits + digitValue c := by
  simp [valueIn]

theorem head_append (front back : List Char) (some : front ≠ []) : (front ++ back).head? = front.head? := by
  cases front with
  | nil => exact absurd rfl some
  | cons c rest => rfl

theorem numeral_digits (i : Nat) : (∀ c ∈ Nat.toDigits 10 i, isDigit c = true) ∧ valueIn 10 (Nat.toDigits 10 i) = i ∧
    (i ≠ 0 → (Nat.toDigits 10 i).head? ≠ some '0') := by
  induction i using Nat.strongRecOn with
  | ind i ih =>
      by_cases small : i < 10
      · rw [Nat.toDigits_of_lt_base small]
        obtain ⟨digit, value⟩ := digit_char_value small
        refine ⟨by simpa using digit, by simpa [valueIn] using value, fun positive leads => positive ?_⟩
        rw [← value, Option.some.inj leads]
        rfl
      · have lower : i / 10 < i := by omega
        obtain ⟨digits, value, lead⟩ := ih (i / 10) lower
        obtain ⟨last, lastValue⟩ := digit_char_value (Nat.mod_lt i (by decide : 0 < 10))
        rw [Nat.toDigits_of_base_le (by decide) (Nat.le_of_not_lt small)]
        refine ⟨?_, ?_, fun _ => ?_⟩
        · intro c member
          rcases List.mem_append.mp member with front | back
          · exact digits c front
          · rwa [List.mem_singleton.mp back]
        · rw [value_append, value, lastValue]
          omega
        · rw [head_append _ _ Nat.toDigits_ne_nil]
          exact lead (by omega)

theorem digits_of_value (digits : List Char) (some : digits ≠ []) (all : ∀ c ∈ digits, isDigit c = true)
    (lead : digits.head? ≠ Option.some '0') : 0 < valueIn 10 digits ∧ Nat.toDigits 10 (valueIn 10 digits) = digits := by
  induction digits using List.reverseRecOn with
  | nil => exact absurd rfl some
  | append_singleton front c ih =>
      have last := all c (List.mem_append_right front (List.mem_singleton.mpr rfl))
      obtain ⟨small, back⟩ := digit_char_back last
      by_cases single : front = []
      · subst single
        have value : valueIn 10 ([] ++ [c]) = digitValue c := by simp [valueIn]
        rw [value]
        refine ⟨Nat.pos_of_ne_zero fun zero => ?_, ?_⟩
        · rw [zero] at back
          exact lead (congrArg Option.some back.symm)
        · rw [Nat.toDigits_of_lt_base small, back, List.nil_append]
      · rw [head_append _ _ single] at lead
        obtain ⟨positive, same⟩ := ih single (fun d member => all d (List.mem_append_left _ member)) lead
        have joined := Nat.toDigits_append_toDigits (by decide : 1 < 10) positive small
        rw [value_append, ← joined, same, Nat.toDigits_of_lt_base small, back]
        exact ⟨by omega, rfl⟩

end Text

namespace Reference

def numeral (i : Nat) : String :=
  Nat.repr i

def Numbers (i : Nat) (token : String) : Prop :=
  token = numeral i ∨ token = numeral i ++ "\n"

theorem canonical_iff (digits : List Char) :
    (digits = ['0'] ∨ (digits.head? ≠ some '0' ∧ !digits.isEmpty ∧ digits.all Text.isDigit)) ↔
      ∃ i, digits = Nat.toDigits 10 i := by
  constructor
  · rintro (rfl | ⟨lead, some, all⟩)
    · exact ⟨0, rfl⟩
    · have filled : digits ≠ [] := by simpa using some
      exact ⟨_, (Text.digits_of_value digits filled (List.all_eq_true.mp all) lead).2.symm⟩
  · rintro ⟨i, rfl⟩
    obtain ⟨all, _, lead⟩ := Text.numeral_digits i
    by_cases zero : i = 0
    · exact .inl (by rw [zero]; rfl)
    · exact .inr ⟨lead zero, by simp, List.all_eq_true.mpr all⟩

theorem numeral_not_ended (i : Nat) : (Nat.toDigits 10 i).getLast? ≠ some '\n' := by
  intro last
  have member := List.mem_of_getLast? last
  exact absurd ((Text.numeral_digits i).1 _ member) (by decide)

theorem index_digits_eq (step digits : List Char) : indexDigits? step = some digits ↔
    digits = (if step.getLast? = some '\n' then step.dropLast else step) ∧ ∃ i, digits = Nat.toDigits 10 i := by
  rw [← canonical_iff]
  unfold indexDigits?
  dsimp only
  generalize (if step.getLast? = some '\n' then step.dropLast else step) = rest
  split
  · rename_i canonical
    constructor
    · rintro ⟨⟩
      exact ⟨rfl, canonical⟩
    · rintro ⟨rfl, _⟩
      rfl
  · rename_i other
    constructor
    · rintro ⟨⟩
    · rintro ⟨rfl, canonical⟩
      exact absurd canonical other

theorem index_digits_iff (token : String) (digits : List Char) :
    indexDigits? token.toList = some digits ↔ ∃ i, Numbers i token ∧ digits = Nat.toDigits 10 i := by
  have numbers : ∀ i, Numbers i token ↔
      token.toList = Nat.toDigits 10 i ∨ token.toList = Nat.toDigits 10 i ++ ['\n'] := by
    intro i
    simp [Numbers, numeral, ← String.toList_inj]
  rw [index_digits_eq]
  constructor
  · rintro ⟨rest, i, canonical⟩
    refine ⟨i, (numbers i).mpr ?_, canonical⟩
    by_cases ended : token.toList.getLast? = some '\n'
    · obtain ⟨front, split⟩ := List.getLast?_eq_some_iff.mp ended
      rw [if_pos ended, split, List.dropLast_concat] at rest
      exact .inr (by rw [split, ← rest, canonical])
    · rw [if_neg ended] at rest
      exact .inl (rest.symm.trans canonical)
  · rintro ⟨i, named, rfl⟩
    refine ⟨?_, i, rfl⟩
    rcases (numbers i).mp named with plain | ended
    · rw [plain, if_neg (numeral_not_ended i)]
    · rw [ended, if_pos List.getLast?_concat, List.dropLast_concat]

-- One step of a walk. An array has no place whose numeral is longer than what can be read as a number.
inductive Selects : Json → String → Json → Prop where
  | member {members : List (String × Json)} {key : String} {child : Json} (found : member? key members = some child) :
      Selects (.object members) key child
  | item {items : List Json} {i : Nat} {token : String} {child : Json} (named : Numbers i token)
      (short : i < 10 ^ Text.digitLimit) (found : items[i]? = some child) : Selects (.array items) token child

inductive Leads : Json → List String → Json → Prop where
  | here (node : Json) : Leads node [] node
  | step {node child target : Json} {token : String} {rest : List String} (first : Selects node token child)
      (later : Leads child rest target) : Leads node (token :: rest) target

inductive Stops : Json → List String → Json → String → Prop where
  | here {node : Json} {token : String} {rest : List String} (nothing : ∀ child, ¬ Selects node token child) :
      Stops node (token :: rest) node token
  | step {node child last : Json} {token stuck : String} {rest : List String} (first : Selects node token child)
      (later : Stops child rest last stuck) : Stops node (token :: rest) last stuck

def Overlong (node : Json) (token : String) (count : Nat) : Prop :=
  ∃ items i, node = .array items ∧ Numbers i token ∧ 10 ^ Text.digitLimit ≤ i ∧ count = (numeral i).length

theorem numeral_short (i : Nat) : ¬ Text.digitLimit < (Nat.toDigits 10 i).length ↔ i < 10 ^ Text.digitLimit := by
  rw [Nat.not_lt]
  exact Nat.length_toDigits_le_iff (by decide) (by decide)

theorem numbers_unique {i j : Nat} {token : String} (first : Numbers i token) (second : Numbers j token) : i = j := by
  have read : ∀ k, Numbers k token → indexDigits? token.toList = some (Nat.toDigits 10 k) :=
    fun k named => (index_digits_iff token _).mpr ⟨k, named, rfl⟩
  have same : Nat.toDigits 10 i = Nat.toDigits 10 j := Option.some.inj ((read i first).symm.trans (read j second))
  rw [← (Text.numeral_digits i).2.1, same, (Text.numeral_digits j).2.1]

theorem item_eq (items : List Json) (token : String) (i : Nat) (named : Numbers i token) : item token items =
    if i < 10 ^ Text.digitLimit then (items[i]?.elim (.error (.notFound token)) .ok)
    else .error (.tooManyDigits (numeral i).length) := by
  have read := (index_digits_iff token _).mpr ⟨i, named, rfl⟩
  have value := (Text.numeral_digits i).2.1
  unfold item
  rw [read]
  dsimp only
  rw [value]
  by_cases short : i < 10 ^ Text.digitLimit
  · rw [if_neg ((numeral_short i).mpr short), if_pos short]
    cases items[i]? <;> rfl
  · have long := mt (numeral_short i).mp short
    rw [if_pos (Decidable.not_not.mp long), if_neg short]
    simp [numeral, ← String.length_toList]

theorem item_unnamed (items : List Json) (token : String) (unnamed : ∀ i, ¬ Numbers i token) :
    item token items = .error (.notFound token) := by
  have unread : indexDigits? token.toList = none := by
    cases read : indexDigits? token.toList with
    | none => rfl
    | some digits =>
        obtain ⟨i, named, _⟩ := (index_digits_iff token digits).mp read
        exact absurd named (unnamed i)
  unfold item
  rw [unread]

theorem child_selects (node : Json) (token : String) (target : Json) :
    child token node = .ok target ↔ Selects node token target := by
  constructor
  · intro found
    cases node with
    | object members =>
        simp only [child] at found
        split at found
        · rename_i known
          cases found
          exact .member known
        · cases found
    | array items =>
        by_cases named : ∃ i, Numbers i token
        · obtain ⟨i, named⟩ := named
          rw [child, item_eq items token i named] at found
          split at found
          · rename_i short
            cases known : items[i]? with
            | none => simp [known] at found
            | some known =>
                rw [known] at found
                cases found
                exact .item named short known
          · cases found
        · rw [child, item_unnamed items token (not_exists.mp named)] at found
          cases found
    | _ => cases found
  · intro selected
    cases selected with
    | member found => simp [child, found]
    | item named short found => rw [child, item_eq _ token _ named, if_pos short, found]; rfl

theorem child_fails {node : Json} {token : String} {fault : Fault} (failed : child token node = .error fault) :
    (∀ target, ¬ Selects node token target) ∧
      ((∀ count, ¬ Overlong node token count) ∧ fault = .notFound token ∨
        ∃ count, Overlong node token count ∧ fault = .tooManyDigits count) := by
  constructor
  · intro target selected
    cases failed.symm.trans ((child_selects node token target).mpr selected)
  · cases node with
    | object members =>
        refine .inl ⟨nofun, ?_⟩
        simp only [child] at failed
        split at failed
        · cases failed
        · exact (Except.error.inj failed).symm
    | array items =>
        by_cases named : ∃ i, Numbers i token
        · obtain ⟨i, named⟩ := named
          rw [child, item_eq items token i named] at failed
          by_cases short : i < 10 ^ Text.digitLimit
          · refine .inl ⟨?_, ?_⟩
            · rintro count ⟨_, j, _, other, long, _⟩
              rw [numbers_unique named other] at short
              omega
            · rw [if_pos short] at failed
              cases known : items[i]? with
              | none => simpa [known, eq_comm] using failed
              | some known => simp [known] at failed
          · rw [if_neg short] at failed
            exact .inr ⟨_, ⟨items, i, rfl, named, Nat.le_of_not_lt short, rfl⟩, (Except.error.inj failed).symm⟩
        · have unnamed := not_exists.mp named
          rw [child, item_unnamed items token unnamed] at failed
          refine .inl ⟨?_, (Except.error.inj failed).symm⟩
          rintro count ⟨_, i, _, named, _⟩
          exact unnamed i named
    | _ => exact .inl ⟨nofun, (Except.error.inj failed).symm⟩

theorem follow_leads (tokens : List String) (node target : Json) :
    follow tokens node = .ok target ↔ Leads node tokens target := by
  induction tokens generalizing node with
  | nil =>
      constructor
      · rintro ⟨⟩
        exact .here _
      · rintro ⟨⟩
        rfl
  | cons token rest ih =>
      have step : follow (token :: rest) node = (child token node).bind (follow rest) := rfl
      rw [step]
      constructor
      · intro led
        cases first : child token node with
        | error fault =>
            rw [first] at led
            cases led
        | ok next =>
            rw [first] at led
            exact .step ((child_selects node token next).mp first) ((ih next).mp led)
      · rintro (_ | ⟨first, later⟩)
        rw [(child_selects node token _).mpr first]
        exact (ih _).mpr later

theorem follow_stops {tokens : List String} {node : Json} {fault : Fault} (failed : follow tokens node = .error fault) :
    ∃ last token, Stops node tokens last token ∧ child token last = .error fault := by
  induction tokens generalizing node with
  | nil => cases failed
  | cons token rest ih =>
      change (child token node).bind (follow rest) = .error fault at failed
      cases first : child token node with
      | error other =>
          rw [first] at failed
          cases failed
          exact ⟨node, token, .here (child_fails first).1, first⟩
      | ok next =>
          rw [first] at failed
          obtain ⟨last, stuck, stops, reason⟩ := ih failed
          exact ⟨last, stuck, .step ((child_selects node token next).mp first) stops, reason⟩

theorem resolve_root_eq (document : Json) : resolve document "#" = .ok document := rfl

theorem resolve_path_eq (document : Json) {reference : String} {path : List Char}
    (along : reference.toList = '#' :: '/' :: path) :
    resolve document reference = follow (steps ('/' :: path)) document := by
  unfold resolve
  rw [along]
  rfl

theorem resolve_remote_eq (document : Json) {reference : String} (other : reference ≠ "#")
    (remote : ∀ path, reference.toList ≠ '#' :: '/' :: path) : resolve document reference = .error .remote := by
  unfold resolve
  split
  · rename_i same
    exact absurd (String.toList_inj.mp same) other
  · rename_i path same
    exact absurd same (remote path)
  · rfl

theorem reference_form (reference : String) : reference = "#" ∨ (∃ path, reference.toList = '#' :: '/' :: path) ∨
    reference ≠ "#" ∧ ∀ path, reference.toList ≠ '#' :: '/' :: path := by
  by_cases root : reference = "#"
  · exact .inl root
  · by_cases along : ∃ path, reference.toList = '#' :: '/' :: path
    · exact .inr (.inl along)
    · exact .inr (.inr ⟨root, not_exists.mp along⟩)

theorem find_ok (document : Json) (reference : String) (node : Json) :
    find document reference = .ok node ↔ resolve document reference = .ok node := by
  unfold find
  cases resolve document reference <;> simp [Except.mapError]

theorem find_error (document : Json) (reference : String) (failure : Failure) :
    find document reference = .error failure ↔
      ∃ fault, resolve document reference = .error fault ∧ failure = ⟨reference, fault⟩ := by
  unfold find
  cases resolve document reference <;> simp [Except.mapError, eq_comm]

theorem resolves_by_walk (document : Json) (reference : String) :
    (∀ node, find document reference = .ok node ↔ reference = "#" ∧ node = document ∨
      ∃ path, reference.toList = '#' :: '/' :: path ∧ Leads document (steps ('/' :: path)) node) ∧
    ∀ failure, find document reference = .error failure → failure.reference = reference ∧
      ((reference ≠ "#" ∧ (∀ path, reference.toList ≠ '#' :: '/' :: path) ∧ failure.fault = .remote ∧
          failure.message = "Remote $ref '" ++ reference ++ "' is not yet supported") ∨
        ∃ path node token, reference.toList = '#' :: '/' :: path ∧ Stops document (steps ('/' :: path)) node token ∧
          ((∀ count, ¬ Overlong node token count) ∧ failure.fault = .notFound token ∧
              failure.message = "Reference not found '" ++ token ++ "' in '" ++ reference ++ "'" ∨
            ∃ count, Overlong node token count ∧ failure.fault = .tooManyDigits count)) := by
  constructor
  · intro node
    rw [find_ok]
    rcases reference_form reference with root | ⟨path, along⟩ | ⟨other, remote⟩
    · subst root
      rw [resolve_root_eq, Except.ok.injEq]
      refine ⟨fun same => .inl ⟨rfl, same.symm⟩, ?_⟩
      rintro (⟨_, same⟩ | ⟨path, along, _⟩)
      · exact same.symm
      · cases along
    · rw [resolve_path_eq document along, follow_leads]
      refine ⟨fun leads => .inr ⟨path, along, leads⟩, ?_⟩
      rintro (⟨rfl, _⟩ | ⟨_, again, leads⟩)
      · cases along
      · rw [along] at again
        cases again
        exact leads
    · rw [resolve_remote_eq document other remote]
      refine ⟨nofun, ?_⟩
      rintro (⟨root, _⟩ | ⟨path, along, _⟩)
      · exact absurd root other
      · exact absurd along (remote path)
  · intro failure failed
    obtain ⟨fault, reason, rfl⟩ := (find_error document reference failure).mp failed
    refine ⟨rfl, ?_⟩
    rcases reference_form reference with root | ⟨path, along⟩ | ⟨other, remote⟩
    · rw [root, resolve_root_eq] at reason
      cases reason
    · rw [resolve_path_eq document along] at reason
      obtain ⟨last, token, stops, stuck⟩ := follow_stops reason
      refine .inr ⟨path, last, token, along, stops, ?_⟩
      rcases (child_fails stuck).2 with ⟨short, rfl⟩ | ⟨count, long, rfl⟩
      · exact .inl ⟨short, rfl, rfl⟩
      · exact .inr ⟨count, long, rfl⟩
    · rw [resolve_remote_eq document other remote] at reason
      cases reason
      exact .inl ⟨other, remote, rfl, rfl⟩

-- A line end behind the numeral goes unnoticed, so that the place has a second token.
theorem ended_numeral_selects : find (.array [.bool true]) "#/0%0A" = .ok (.bool true) ∧
    steps "/0%0A".toList = ["0\n"] ∧ ∀ i, numeral i ≠ "0\n" := by
  refine ⟨rfl, rfl, ?_⟩
  intro i same
  have member : '\n' ∈ Nat.toDigits 10 i := by
    have chars : Nat.toDigits 10 i = ['0', '\n'] := by simpa [numeral] using congrArg String.toList same
    simp [chars]
  exact absurd ((Text.numeral_digits i).1 _ member) (by decide)

end Reference

end Conform
