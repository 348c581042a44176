import Conform.Formats
import Conform.Proofs.Likeness
import Conform.Proofs.Patterns
import Conform.Proofs.Writing

set_option autoImplicit false

namespace Conform

open Comparison (results)

def Likeness.Answers (L : Likeness) (f g : Findings) : Prop :=
  (f = [] ↔ g = []) ∧ (L.texts → f.Perm g)

def Likeness.Judges (L : Likeness) (c d : Check) : Prop :=
  ∀ v w, v.Like L w → results.relates L.Answers (c v) (d w)

variable {L : Likeness}

section Answers

theorem answers_perm {f g : Findings} (order : f.Perm g) : L.Answers f g :=
  ⟨⟨fun none => (none ▸ order).nil_eq.symm, fun none => (none ▸ order).eq_nil⟩, fun _ => order⟩

theorem answers_same (f : Findings) : L.Answers f f :=
  answers_perm (.refl f)

theorem answers_append {f g f' g' : Findings} (first : L.Answers f g) (second : L.Answers f' g') :
    L.Answers (f ++ f') (g ++ g') := by
  refine ⟨?_, fun texts => (first.2 texts).append (second.2 texts)⟩
  rw [List.append_eq_nil_iff, List.append_eq_nil_iff, first.1, second.1]

theorem answers_flatten {fs gs : List Findings} (shuffled : Shuffled L.Answers fs gs) :
    L.Answers fs.flatten gs.flatten := by
  obtain ⟨middle, order, related⟩ := shuffled
  have inner : L.Answers middle.flatten gs.flatten := by
    clear order
    induction related with
    | nil => exact answers_same []
    | cons first _ ih => exact answers_append first ih
  have outer : L.Answers fs.flatten middle.flatten := answers_perm order.flatten
  exact ⟨outer.1.trans inner.1, fun texts => (outer.2 texts).trans (inner.2 texts)⟩

theorem answers_map {f g : Findings} (rename : String → String) (answers : L.Answers f g) :
    L.Answers (f.map rename) (g.map rename) := by
  refine ⟨?_, fun texts => (answers.2 texts).map rename⟩
  rw [List.map_eq_nil_iff, List.map_eq_nil_iff, answers.1]

theorem answers_message {m m' : String} (same : L.texts → m = m') : L.Answers [m] [m'] :=
  ⟨iff_of_false (List.cons_ne_nil _ _) (List.cons_ne_nil _ _), fun texts => by rw [same texts]⟩

theorem answers_test {b b' : Bool} {m m' : String} (tests : b = b') (same : L.texts → m = m') :
    L.Answers (if b then [] else [m]) (if b' then [] else [m']) := by
  subst tests
  cases b with
  | true => exact answers_same []
  | false => exact answers_message same

theorem answers_empty {f g : Findings} (answers : L.Answers f g) : f.isEmpty = g.isEmpty := by
  rw [Bool.eq_iff_iff, List.isEmpty_iff, List.isEmpty_iff, answers.1]

end Answers

section Combinators

variable {cs ds : List Check} {c d : Check}

theorem judges_findings {judge judge' : Json → Findings}
    (answers : ∀ v w, v.Like L w → L.Answers (judge v) (judge' w)) :
    L.Judges (Check.ofFindings judge) (Check.ofFindings judge') :=
  fun v w like => results.result (answers v w like)

theorem outcomes_judged (judges : List.Forall₂ L.Judges cs ds) {v w : Json} (like : v.Like L w) :
    results.relates (List.Forall₂ L.Answers) (Check.outcomes cs v) (Check.outcomes ds w) :=
  Comparison.each_related (judges.imp fun _ _ judged => judged v w like)

theorem judges_all (judges : Shuffled L.Judges cs ds) : L.Judges (Check.all cs) (Check.all ds) :=
  fun v w like => results.andThen (Comparison.each_shuffled judges fun _ _ judged => judged v w like)
    fun _ _ answers => results.result (answers_flatten answers)

theorem any_after_judged (judges : List.Forall₂ L.Judges cs ds) {found found' : Findings}
    (answers : L.Answers found found') : L.Judges (Check.anyAfter found cs) (Check.anyAfter found' ds) := by
  intro v w like
  induction judges generalizing found found' with
  | nil =>
      rw [Check.anyAfter, Check.anyAfter, answers_empty answers]
      refine results.result ?_
      split
      · exact answers_same _
      · exact answers
  | cons first _ ih =>
      refine results.andThen (first v w like) fun own own' more => ?_
      rw [answers_empty more]
      split
      · exact results.result (answers_same [])
      · exact ih (answers_append answers more)

theorem judges_any (judges : List.Forall₂ L.Judges cs ds) : L.Judges (Check.any cs) (Check.any ds) :=
  any_after_judged judges (answers_same [])

theorem matched_same {fs gs : List Findings} (answers : List.Forall₂ L.Answers fs gs) :
    fs.countP List.isEmpty = gs.countP List.isEmpty := by
  induction answers with
  | nil => rfl
  | cons first _ ih => rw [List.countP_cons, List.countP_cons, ih, answers_empty first]

theorem judges_one (judges : List.Forall₂ L.Judges cs ds) : L.Judges (Check.one cs) (Check.one ds) := by
  intro v w like
  refine results.andThen (outcomes_judged judges like) fun found found' answers => ?_
  dsimp only
  rw [matched_same answers]
  split
  · exact results.result (answers_same [])
  · split
    · exact results.result (answers_append (answers_same [_]) (answers_flatten (shuffled_of_related answers)))
    · exact results.result (answers_same _)

theorem judges_negate (judged : L.Judges c d) : L.Judges (Check.negate c) (Check.negate d) := by
  intro v w like
  refine results.andThen (judged v w like) fun found found' answers => results.result ?_
  rw [answers_empty answers]
  exact answers_same _

theorem judges_reject (message : String) : L.Judges (Check.reject message) (Check.reject message) :=
  fun _ _ _ => results.result (answers_same _)

theorem judges_permitted (allowed : Bool) (message : String) :
    L.Judges (Schema.permitted allowed message) (Schema.permitted allowed message) := by
  intro v w _
  cases allowed <;> exact results.result (answers_same _)

theorem judges_items (judged : L.Judges c d) : L.Judges (Check.items c) (Check.items d) := by
  intro v w like
  cases like with
  | array items =>
      have each := Comparison.each_related (items.imp fun a b alike => judged a b alike)
      refine results.andThen each fun found found' answers => ?_
      exact results.result (answers_flatten (shuffled_of_related answers))
  | _ => exact results.result (answers_same [])

theorem positional_judged (judges : List.Forall₂ L.Judges cs ds) (judged : L.Judges c d) {left right : List Json}
    (items : List.Forall₂ (Json.Like L) left right) :
    results.relates (List.Forall₂ L.Answers) (Check.positional c cs left) (Check.positional d ds right) := by
  induction judges generalizing left right with
  | nil =>
      cases items with
      | nil => exact results.result .nil
      | cons first rest =>
          exact Comparison.each_related ((List.Forall₂.cons first rest).imp fun a b alike => judged a b alike)
  | cons head _ ih =>
      cases items with
      | nil => exact results.result .nil
      | cons first rest =>
          refine results.andThen (head _ _ first) fun found found' answers => ?_
          exact results.andThen (ih rest) fun others others' tail => results.result (.cons answers tail)

theorem judges_tuple (judges : List.Forall₂ L.Judges cs ds) (judged : L.Judges c d) :
    L.Judges (Check.tuple cs c) (Check.tuple ds d) := by
  intro v w like
  cases like with
  | array items =>
      refine results.andThen (positional_judged judges judged items) fun found found' answers => ?_
      exact results.result (answers_flatten (shuffled_of_related answers))
  | _ => exact results.result (answers_same [])

theorem judges_when_present (key : String) (judged : L.Judges c d) :
    L.Judges (Check.whenPresent key c) (Check.whenPresent key d) := by
  intro v w like
  cases like with
  | @object left right members =>
      rw [Check.whenPresent, Check.whenPresent, reordered_has_member members]
      split
      · exact judged _ _ (.object members)
      · exact results.result (answers_same [])
  | _ => exact results.result (answers_same [])

end Combinators

section Members

variable {declared declared' : List (String × Check)} {patterns patterns' : List ((String → Traced Bool) × Check)}
  {rest rest' : Check}

theorem when_called_judged {p q : (String → Traced Bool) × Check} (same : p.1 = q.1) (judged : L.Judges p.2 q.2)
    (key : String) {v w : Json} (like : v.Like L w) :
    results.relates (Option.Rel L.Answers) (Check.whenCalled (p.1 key) p.2 v) (Check.whenCalled (q.1 key) q.2 w) := by
  rw [same]
  refine Comparison.and_then_fine (Comparison.results_fine _) fun called => ?_
  split
  · exact results.andThen (judged v w like) fun found found' answers => results.result (.some answers)
  · exact results.result .none

theorem member_judged (named : Reordered L.Judges declared declared')
    (matched : Shuffled (fun p q => p.1 = q.1 ∧ L.Judges p.2 q.2) patterns patterns') (further : L.Judges rest rest')
    {a b : String × Json} (pair : Paired (Json.Like L) a b) :
    results.relates L.Answers (Check.member declared patterns rest a) (Check.member declared' patterns' rest' b) := by
  obtain ⟨key, v⟩ := a
  obtain ⟨_, w⟩ := b
  obtain ⟨rfl, like⟩ := pair
  have lookup : List.Forall₂ L.Judges (member? key declared).toList (member? key declared').toList :=
    option_related (reordered_member named key)
  refine results.andThen (outcomes_judged lookup like) fun own own' ownAnswers => ?_
  refine results.andThen (Comparison.each_shuffled matched fun p q both => when_called_judged both.1 both.2 key like)
    fun called called' calledAnswers => ?_
  have whole : Shuffled L.Answers (own ++ called.filterMap id) (own' ++ called'.filterMap id) :=
    shuffled_append (shuffled_of_related ownAnswers) (shuffled_filter_map calledAnswers fun _ _ answers => answers)
  generalize own ++ called.filterMap id = all, own' ++ called'.filterMap id = all' at whole
  have length := shuffled_length whole
  cases all with
  | nil =>
      obtain rfl : all' = [] := List.length_eq_zero_iff.mp length.symm
      exact results.andThen (further v w like) fun found found' answers => results.result (answers_map _ answers)
  | cons head tail =>
      cases all' with
      | nil => cases length
      | cons head' tail' => exact results.result (answers_flatten whole)

theorem judges_members (named : Reordered L.Judges declared declared')
    (matched : Shuffled (fun p q => p.1 = q.1 ∧ L.Judges p.2 q.2) patterns patterns') {defects defects' : Findings}
    (told : defects.Perm defects') (further : L.Judges rest rest') :
    L.Judges (Check.members declared patterns defects rest) (Check.members declared' patterns' defects' rest') := by
  intro v w like
  cases like with
  | object members =>
      refine results.andThen (Comparison.each_shuffled (reordered_pairs members) fun a b pair =>
        member_judged named matched further pair) fun found found' answers => ?_
      exact results.result (answers_append (answers_perm told) (answers_flatten answers))
  | _ => exact results.result (answers_same [])

theorem properties_judged {sources sources' : List (String × Check)} (named : Reordered L.Judges declared declared')
    (matched : Reordered L.Judges sources sources') (further : L.Judges rest rest') :
    results.relates L.Judges (Keyword.properties declared sources rest) (Keyword.properties declared' sources' rest') := by
  intro check returned
  obtain ⟨legible, rfl⟩ := Keyword.properties_ok.mp returned
  have pairs := reordered_pairs matched
  have legible' : ∀ entry ∈ sources', Pattern.Legible entry.1 := by
    intro entry member
    obtain ⟨source, found, name, _⟩ := shuffled_source pairs entry member
    exact name ▸ legible source found
  refine ⟨_, Keyword.properties_ok.mpr ⟨legible', rfl⟩, judges_members named ?_ ?_ further⟩
  · refine shuffled_filter_map pairs fun a b ⟨name, judged⟩ => ?_
    rw [Keyword.searchOf, Keyword.searchOf, name]
    cases Keyword.meaning? b.1 with
    | none => exact .none
    | some pattern => exact .some ⟨rfl, judged⟩
  · refine shuffled_perm (shuffled_filter_map pairs fun a b ⟨name, _⟩ => ?_)
    rw [Keyword.defectOf, Keyword.defectOf, name]
    split
    · exact .none
    · exact .some rfl

end Members

theorem Json.like_writable {v w : Json} (like : v.Like L w) (writable : v.isWritable = true) : w.isWritable = true := by
  induction like using Json.like_induction with
  | number a b alike => exact (L.writable alike).symm.trans writable
  | array left right _ items =>
      refine (Json.are_writable_iff right).mpr fun item member => ?_
      obtain ⟨source, found, _, kept⟩ := shuffled_source (shuffled_of_related items) item member
      exact kept ((Json.are_writable_iff left).mp writable source found)
  | object left right _ members =>
      refine (Json.members_writable_iff right).mpr fun entry member => ?_
      obtain ⟨source, found, _, _, kept⟩ := shuffled_source (reordered_pairs members) entry member
      exact kept ((Json.members_writable_iff left).mp writable source found)
  | _ => rfl

section Keywords

namespace Keyword

theorem write_like {n m : Number} (alike : L.number n m) : write [n] = write [m] := by
  rw [write, write, List.all_cons, List.all_cons, L.writable alike]

theorem judges_showing {shown shown' : Json → List Json} {judge judge' : Json → Findings}
    (answers : ∀ v w, v.Like L w → L.Answers (judge v) (judge' w))
    (written : ∀ v w, v.Like L w → List.Forall₂ (Json.Like L) (shown v) (shown' w)) :
    L.Judges (showing shown judge) (showing shown' judge') := by
  intro v w like found returned
  obtain ⟨rfl, whole⟩ := showing_ok.mp returned
  refine ⟨_, showing_ok.mpr ⟨rfl, whole.imp (answers v w like).1.mp fun writable part member => ?_⟩, answers v w like⟩
  obtain ⟨source, kept, alike⟩ := shuffled_source (shuffled_of_related (written v w like)) part member
  exact Json.like_writable alike (writable source kept)

theorem judges_type (kinds : List Kind) : L.Judges (typeCheck kinds) (typeCheck kinds) := by
  refine judges_showing (fun v w like => ?_) fun v w like => ?_
  · unfold type ofKinds
    split
    · exact answers_same _
    · exact answers_test (by rw [Json.like_kinds like]) fun texts => by rw [Json.like_describe texts like]
  · split
    · exact .nil
    · exact .cons like .nil

theorem any_same_like {left right : List Json} (items : List.Forall₂ (Json.Like L) left right) {v w : Json}
    (like : v.Like L w) : left.any v.same = right.any w.same := by
  induction items with
  | nil => rfl
  | cons first _ ih => rw [List.any_cons, List.any_cons, ih, Json.like_same like first]

theorem judges_enum {values values' : List Json} (alike : List.Forall₂ (Json.Like L) values values') :
    L.Judges (enumCheck values) (enumCheck values') := by
  refine judges_showing (fun v w like => ?_) fun v w like => .cons like (.cons (.array alike) .nil)
  refine answers_test (any_same_like alike like) fun texts => ?_
  rw [Json.like_describe texts like, Json.like_describe texts (.array alike)]

theorem judges_strings {judge : Json → Findings} (others : ∀ v, v.asString? = none → judge v = []) :
    L.Judges (Check.ofFindings judge) (Check.ofFindings judge) := by
  refine judges_findings fun v w like => ?_
  cases text : v.asString? with
  | none =>
      rw [others v text, others w ((Json.like_string like).symm.trans text)]
      exact answers_same []
  | some s =>
      cases like with
      | string => exact answers_same _
      | _ => cases text

theorem judges_length (test : Int → Bool) (message : String) :
    L.Judges (Check.ofFindings (length test message)) (Check.ofFindings (length test message)) :=
  judges_strings fun v other => by cases v <;> first | rfl | cases other

theorem judges_item_count (test : Int → Bool) (message : String) :
    L.Judges (Check.ofFindings (itemCount test message)) (Check.ofFindings (itemCount test message)) := by
  refine judges_findings fun v w like => ?_
  cases like with
  | array items => exact answers_test (by rw [items.length_eq]) fun _ => rfl
  | _ => exact answers_same []

theorem judges_member_count (test : Int → Bool) (message : String) :
    L.Judges (Check.ofFindings (memberCount test message)) (Check.ofFindings (memberCount test message)) := by
  refine judges_findings fun v w like => ?_
  cases like with
  | object members => exact answers_test (by rw [reordered_length members]) fun _ => rfl
  | _ => exact answers_same []

theorem judges_bound {test test' : Number → Bool} {message message' : String}
    (tests : ∀ n m, L.number n m → test n = test' m) (same : L.texts → message = message') :
    L.Judges (Check.ofFindings (bound test message)) (Check.ofFindings (bound test' message')) := by
  refine judges_findings fun v w like => ?_
  cases like with
  | number alike => exact answers_test (tests _ _ alike) same
  | _ => exact answers_same []

theorem judges_minimum {limit limit' : Number} (alike : L.number limit limit') (exclusive : Bool) :
    L.Judges (Check.ofFindings (minimum limit exclusive)) (Check.ofFindings (minimum limit' exclusive)) := by
  cases exclusive with
  | true => exact judges_bound (fun n m other => L.less alike other) fun texts => by rw [L.text texts _ _ alike]
  | false =>
      exact judges_bound (fun n m other => by rw [L.less alike other, L.equal other alike]) fun texts => by
        rw [L.text texts _ _ alike]

theorem judges_maximum {limit limit' : Number} (alike : L.number limit limit') (exclusive : Bool) :
    L.Judges (Check.ofFindings (maximum limit exclusive)) (Check.ofFindings (maximum limit' exclusive)) := by
  cases exclusive with
  | true => exact judges_bound (fun n m other => L.less other alike) fun texts => by rw [L.text texts _ _ alike]
  | false =>
      exact judges_bound (fun n m other => by rw [L.less other alike, L.equal other alike]) fun texts => by
        rw [L.text texts _ _ alike]

theorem judges_multiple_of (texts : L.texts) (divisor : Number) : L.Judges (multipleOf divisor) (multipleOf divisor) := by
  intro v w like
  have same : ∀ x, results.relates L.Answers (multipleOf divisor x) (multipleOf divisor x) :=
    fun x => Comparison.weaken (Comparison.results_fine _) fun f g equal => equal ▸ answers_same f
  cases like with
  | @number a b alike =>
      -- Quotients are rounded, so here alike numbers have to be equal.
      obtain rfl := L.text texts a b alike
      exact same _
  | _ => exact results.result (answers_same [])

theorem first_repeated_like {left right : List Json} (items : List.Forall₂ (Json.Like L) left right) :
    Option.Rel (Json.Like L) (firstRepeated left) (firstRepeated right) := by
  induction items with
  | nil => exact .none
  | cons first rest ih =>
      rw [firstRepeated, firstRepeated, any_same_like rest first]
      split
      · exact .some first
      · exact ih

theorem judges_unique_items : L.Judges uniqueItemsCheck uniqueItemsCheck := by
  refine judges_showing (fun v w like => ?_) fun v w like => ?_
  · cases like with
    | @array left right items =>
        have found := first_repeated_like items
        unfold uniqueItems
        dsimp only
        generalize firstRepeated left = a, firstRepeated right = b at found
        cases found with
        | none => exact answers_same []
        | some alike => exact answers_message fun texts => by rw [Json.like_describe texts alike]
    | _ => exact answers_same []
  · cases like with
    | array items => exact option_related (first_repeated_like items)
    | _ => exact .nil

theorem judges_required (keys : List String) :
    L.Judges (Check.ofFindings (required keys)) (Check.ofFindings (required keys)) := by
  refine judges_findings fun v w like => ?_
  cases like with
  | object members =>
      simp only [required, reordered_has_member members]
      exact answers_same _
  | _ => exact answers_same []

theorem judges_dependency (key : String) (keys : List String) :
    L.Judges (Check.ofFindings (dependency key keys)) (Check.ofFindings (dependency key keys)) := by
  refine judges_findings fun v w like => ?_
  cases like with
  | object members =>
      simp only [dependency, reordered_has_member members]
      exact answers_same _
  | _ => exact answers_same []

theorem judges_found (source : String) (pattern : Pattern) : L.Judges (found source pattern) (found source pattern) := by
  intro v w like
  cases like with
  | string s => exact Comparison.weaken (Comparison.results_fine _) fun f g equal => equal ▸ answers_same f
  | _ => exact results.result (answers_same [])

theorem pattern_judged (source : String) : results.relates L.Judges (pattern source) (pattern source) := by
  refine Comparison.and_then_fine (Comparison.results_fine _) fun read => ?_
  cases read with
  | none => exact results.result (judges_strings fun v other => by cases v <;> first | rfl | cases other)
  | some pattern => exact results.result (judges_found source pattern)

end Keyword

theorem formats_judged (extras : Formats) (supplied : extras.Every fun check => L.Judges check check) :
    (Formats.extend extras).Every fun check => L.Judges check check := by
  refine Formats.every_added extras Formats.standard supplied (Formats.every_standard ?_ ?_)
  · exact Keyword.judges_strings fun v other => by cases v <;> first | rfl | cases other
  · exact Keyword.judges_strings fun v other => by cases v <;> first | rfl | cases other

end Keywords

end Conform
