import Conform.Proofs.Lines
import Conform.Proofs.Percent
import Conform.Proofs.Resolution

set_option autoImplicit false

namespace Conform

namespace Text

theorem written_same {chosen other : Set Char} {text written : List Char} (same : ∀ c ∈ text, c ∈ chosen ↔ c ∈ other)
    (writes : Written chosen text written) : Written other text written := by
  induction writes with
  | nil => exact .nil
  | plain kept _ ih =>
      obtain ⟨first, later⟩ := List.forall_mem_cons.mp same
      exact .plain (mt first.mpr kept) (ih later)
  | coded hidden bytes _ ih =>
      obtain ⟨first, later⟩ := List.forall_mem_cons.mp same
      exact .coded (first.mp hidden) bytes (ih later)

theorem hex_char_value {n : Nat} (small : n < 16) : isHexDigit n.digitChar = true ∧ digitValue n.digitChar = n := by
  decide +revert

theorem sequence_exists (byte : UInt8) : ∃ sequence, Sequence byte sequence := by
  have high : byte.toNat / 16 < 16 := Nat.div_lt_of_lt_mul byte.toNat_lt
  obtain ⟨firstDigit, firstValue⟩ := hex_char_value high
  obtain ⟨secondDigit, secondValue⟩ := hex_char_value (Nat.mod_lt byte.toNat (by decide : 0 < 16))
  refine ⟨_, _, _, rfl, firstDigit, secondDigit, ?_⟩
  have value : ∀ a b : Char, valueIn 16 [a, b] = 16 * digitValue a + digitValue b := fun a b => by simp [valueIn]
  rw [value, firstValue, secondValue, Nat.div_add_mod]

theorem sequences_exist (bytes : List UInt8) : ∃ sequences, List.Forall₂ Sequence bytes sequences := by
  induction bytes with
  | nil => exact ⟨[], .nil⟩
  | cons byte _ ih =>
      obtain ⟨sequence, first⟩ := sequence_exists byte
      obtain ⟨sequences, later⟩ := ih
      exact ⟨sequence :: sequences, .cons first later⟩

theorem written_exists (chosen : Set Char) (text : List Char) : ∃ written, Written chosen text written := by
  induction text with
  | nil => exact ⟨[], .nil⟩
  | cons c _ ih =>
      obtain ⟨written, later⟩ := ih
      by_cases hidden : c ∈ chosen
      · obtain ⟨sequences, bytes⟩ := sequences_exist (String.utf8EncodeChar c)
        exact ⟨_, .coded hidden bytes later⟩
      · exact ⟨_, .plain hidden later⟩

theorem split_marked (mark : Char) {pieces : List (List Char)} (clean : ∀ piece ∈ pieces, mark ∉ piece) :
    split mark (pieces.flatMap (mark :: ·)) = [] :: pieces := by
  induction pieces with
  | nil => rfl
  | cons piece rest ih =>
      obtain ⟨first, later⟩ := List.forall_mem_cons.mp clean
      rw [List.flatMap_cons, List.cons_append, split, if_pos rfl, split_piece first (ih later), List.append_nil]

end Text

namespace Reference

inductive Step where
  | key (name : String)
  | index (i : Nat)

def at? : List Step → Json → Option Json
  | [], node => some node
  | .key name :: rest, .object members => (member? name members).bind (at? rest)
  | .index i :: rest, .array items => items[i]?.bind (at? rest)
  | _, _ => none

def Step.token : Step → String
  | .key name => name
  | .index i => numeral i

def escape (token : List Char) : List Char :=
  token.flatMap fun c => if c = '~' then ['~', '0'] else if c = '/' then ['~', '1'] else [c]

variable {chosen : Set Char}

inductive Points (chosen : Set Char) : List Step → List Char → Prop where
  | root : Points chosen [] []
  | step {step : Step} {rest : List Step} {written pointer : List Char}
      (first : Text.Written chosen (escape step.token.toList) written) (later : Points chosen rest pointer) :
      Points chosen (step :: rest) ('/' :: (written ++ pointer))

theorem points_exist (chosen : Set Char) (path : List Step) : ∃ pointer, Points chosen path pointer := by
  induction path with
  | nil => exact ⟨[], .root⟩
  | cons step _ ih =>
      obtain ⟨written, first⟩ := Text.written_exists chosen (escape step.token.toList)
      obtain ⟨pointer, later⟩ := ih
      exact ⟨_, .step first later⟩

theorem escape_cons (c : Char) (rest : List Char) :
    escape (c :: rest) = (if c = '~' then ['~', '0'] else if c = '/' then ['~', '1'] else [c]) ++ escape rest :=
  List.flatMap_cons

theorem escape_clean (token : List Char) : '/' ∉ escape token := by
  induction token with
  | nil => simp [escape]
  | cons c rest ih =>
      rw [escape_cons]
      by_cases tilde : c = '~'
      · simp [tilde, ih]
      · by_cases slash : c = '/'
        · simp [slash, ih]
        · simp [tilde, slash, Ne.symm slash, ih]

theorem replace_tilde_hit (digit replacement : Char) (rest : List Char) :
    replaceTilde digit replacement ('~' :: digit :: rest) = replacement :: replaceTilde digit replacement rest := by
  rw [replaceTilde, if_pos ⟨rfl, rfl⟩]

theorem replace_tilde_kept {digit replacement c : Char} {rest : List Char} (kept : c ≠ '~' ∨ rest.head? ≠ some digit) :
    replaceTilde digit replacement (c :: rest) = c :: replaceTilde digit replacement rest := by
  cases rest with
  | nil => simp [replaceTilde]
  | cons d rest =>
      have other : ¬ (c = '~' ∧ d = digit) := by
        rintro ⟨tilde, same⟩
        rcases kept with plain | behind
        · exact plain tilde
        · exact behind (congrArg some same)
      rw [replaceTilde, if_neg other]

theorem slashes_back (token : List Char) :
    replaceTilde '1' '/' (escape token) = token.flatMap fun c => if c = '~' then ['~', '0'] else [c] := by
  induction token with
  | nil => rfl
  | cons c rest ih =>
      rw [escape_cons, List.flatMap_cons, ← ih]
      -- Where a tilde was escaped its zero keeps it apart from a one behind it.
      by_cases tilde : c = '~'
      · have zero : ('0' :: escape rest).head? ≠ some '1' := by simp
        rw [if_pos tilde, if_pos tilde, List.cons_append, List.singleton_append, replace_tilde_kept (.inr zero),
          replace_tilde_kept (.inl (by decide))]
        rfl
      · rw [if_neg tilde, if_neg tilde]
        by_cases slash : c = '/'
        · rw [if_pos slash, List.cons_append, List.singleton_append, replace_tilde_hit, slash, List.singleton_append]
        · rw [if_neg slash, List.singleton_append, replace_tilde_kept (.inl tilde), List.singleton_append]

theorem tildes_back (token : List Char) :
    replaceTilde '0' '~' (token.flatMap fun c => if c = '~' then ['~', '0'] else [c]) = token := by
  induction token with
  | nil => rfl
  | cons c rest ih =>
      rw [List.flatMap_cons]
      by_cases tilde : c = '~'
      · rw [if_pos tilde, List.cons_append, List.singleton_append, replace_tilde_hit, ih, tilde]
      · rw [if_neg tilde, List.singleton_append, replace_tilde_kept (.inl tilde), ih]

theorem unescape_escape (token : List Char) : unescape (escape token) = token := by
  rw [unescape, slashes_back, tildes_back]

theorem pointer_written {path : List Step} {pointer : List Char} (points : Points chosen path pointer) :
    Text.Written (chosen \ {'/'}) ((path.map fun step => escape step.token.toList).flatMap ('/' :: ·)) pointer := by
  induction points with
  | root => exact .nil
  | @step step rest written pointer first _ ih =>
      -- The slashes between the steps stay whether or not the slash is chosen: no escaped token holds one.
      have same : ∀ c ∈ escape step.token.toList, c ∈ chosen ↔ c ∈ chosen \ {'/'} := by
        intro c member
        have other : c ≠ '/' := fun slash => escape_clean _ (slash ▸ member)
        exact ⟨fun hidden => ⟨hidden, other⟩, fun hidden => hidden.1⟩
      have token := Text.written_same same first
      rw [List.map_cons, List.flatMap_cons, List.cons_append]
      exact .plain (fun slash => slash.2 rfl) (Text.written_append token ih)

theorem steps_pointer (percent : '%' ∈ chosen) {path : List Step} {pointer : List Char}
    (points : Points chosen path pointer) : steps pointer = path.map Step.token := by
  have clean : ∀ token ∈ path.map (fun step => escape step.token.toList), '/' ∉ token := by
    intro token member
    obtain ⟨step, _, rfl⟩ := List.mem_map.mp member
    exact escape_clean _
  have hidden : '%' ∈ chosen \ {'/'} := ⟨percent, (by decide : '%' ≠ '/')⟩
  rw [steps, Text.percent_decode_written hidden (pointer_written points), Text.split_marked '/' clean, List.drop_one,
    List.tail_cons, List.map_map]
  apply List.map_congr_left
  intro step _
  rw [Function.comp_apply, unescape_escape, String.ofList_toList]

theorem path_leads {path : List Step} {document node : Json} (there : at? path document = some node)
    (short : ∀ i, Step.index i ∈ path → i < 10 ^ Text.digitLimit) : Leads document (path.map Step.token) node := by
  induction path generalizing document with
  | nil =>
      cases there
      exact .here _
  | cons step rest ih =>
      have later : ∀ i, Step.index i ∈ rest → i < 10 ^ Text.digitLimit :=
        fun i member => short i (List.mem_cons_of_mem _ member)
      cases step with
      | key name =>
          cases document with
          | object members =>
              obtain ⟨child, found, there⟩ := Option.bind_eq_some_iff.mp there
              exact .step (.member found) (ih there later)
          | _ => cases there
      | index i =>
          cases document with
          | array items =>
              obtain ⟨child, found, there⟩ := Option.bind_eq_some_iff.mp there
              exact .step (.item (.inl rfl) (short i List.mem_cons_self) found) (ih there later)
          | _ => cases there

theorem pointers_resolve (document node : Json) (path : List Step) (chosen : Set Char)
    (there : at? path document = some node) (percent : '%' ∈ chosen)
    (short : ∀ i, Step.index i ∈ path → i < 10 ^ Text.digitLimit) :
    (∃ pointer, Points chosen path pointer) ∧
      ∀ pointer, Points chosen path pointer → find document (String.ofList ('#' :: pointer)) = .ok node := by
  refine ⟨points_exist chosen path, ?_⟩
  intro pointer points
  rw [find_ok]
  have tokens := steps_pointer percent points
  have leads := path_leads there short
  cases points with
  | root =>
      cases there
      exact resolve_root_eq document
  | step first later =>
      rw [resolve_path_eq document (String.toList_ofList), tokens, follow_leads]
      exact leads

theorem pointers_resolve_for_escapes :
    let path : List Step := [.key "~01%2F", .index 1, .key "é/"]
    let document : Json := .object [("~01%2F", .array [.null, .object [("", .null), ("é/", .bool true)]])]
    let chosen : Set Char := fun c => c ∈ ['%', '1', 'é']
    at? path document = some (.bool true) ∧ '%' ∈ chosen ∧ (∀ i, Step.index i ∈ path → i < 10 ^ Text.digitLimit) ∧
      Points chosen path "/~00%31%252F/%31/%c3%A9~%31".toList ∧
      find document "#/~00%31%252F/%31/%c3%A9~%31" = .ok (.bool true) := by
  intro path document chosen
  have there : at? path document = some (.bool true) := rfl
  have percent : '%' ∈ chosen := (by decide : '%' ∈ ['%', '1', 'é'])
  have one : '1' ∈ chosen := (by decide : '1' ∈ ['%', '1', 'é'])
  have accent : 'é' ∈ chosen := (by decide : 'é' ∈ ['%', '1', 'é'])
  have kept : ∀ c, c ∉ ['%', '1', 'é'] → c ∉ chosen := fun _ other => other
  have short : ∀ i, Step.index i ∈ path → i < 10 ^ Text.digitLimit := by
    intro i member
    have place : i = 1 := by simpa [path] using member
    rw [place]
    exact Nat.one_lt_pow (by decide) (by decide)
  have key : Text.Written chosen "~001%2F".toList "~00%31%252F".toList :=
    .plain (kept _ (by decide)) (.plain (kept _ (by decide)) (.plain (kept _ (by decide))
      (.coded one (.cons ⟨'3', '1', rfl, rfl, rfl, rfl⟩ .nil) (.coded percent (.cons ⟨'2', '5', rfl, rfl, rfl, rfl⟩ .nil)
        (.plain (kept _ (by decide)) (.plain (kept _ (by decide)) .nil))))))
  have place : Text.Written chosen "1".toList "%31".toList :=
    .coded one (.cons ⟨'3', '1', rfl, rfl, rfl, rfl⟩ .nil) .nil
  have last : Text.Written chosen "é~1".toList "%c3%A9~%31".toList :=
    .coded accent (.cons ⟨'c', '3', rfl, rfl, rfl, rfl⟩ (.cons ⟨'A', '9', rfl, rfl, rfl, rfl⟩ .nil))
      (.plain (kept _ (by decide)) (.coded one (.cons ⟨'3', '1', rfl, rfl, rfl, rfl⟩ .nil) .nil))
  have points : Points chosen path _ := .step key (.step place (.step last .root))
  exact ⟨there, percent, short, points,
    (pointers_resolve document (.bool true) path chosen there percent short).2 _ points⟩

end Reference

end Conform
