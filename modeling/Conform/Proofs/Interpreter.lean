import Conform.Proofs.Conjunction
import Conform.Proofs.Expansion

set_option autoImplicit false

namespace Conform.Schema

-- Answers to a value, from whatever answers references, keyword by keyword in the order of compilation.
section Answers

abbrev Meaning := String → Json → Traced Findings

def given {α : Type} (keyword : Option α) (answer : α → Traced Findings) : Traced Findings :=
  match keyword with
  | none => .result []
  | some a => answer a

def sourceAnswer (source : String) (value : Json) : Traced Findings :=
  match Pattern.compile source with
  | .ok pattern => Keyword.found source pattern value
  | .error _ => .result (Keyword.defectivePattern source value)

def formatAnswer (formats : Formats) (name : String) (value : Json) : Traced Findings :=
  match formats.find? name with
  | some check => check value
  | none => .result ["'format' validation of '" ++ name ++ "' is not supported"]

def plainAnswers (own : Assertions) (value : Json) : List (Traced Findings) :=
  [ given own.values fun values => Keyword.enumCheck values value,
    given own.maxLength fun n => .result
      (Keyword.length (fun count => count ≤ n) s!"Length of string is larger than max length {n}" value),
    given own.minLength fun n => .result
      (Keyword.length (fun count => n ≤ count) s!"Length of string is smaller than minimum length {n}" value),
    given own.pattern fun source => sourceAnswer source value,
    given own.multipleOf fun divisor => Keyword.multipleOf divisor value,
    given own.minimum fun n => .result (Keyword.minimum n own.exclusiveMinimum value),
    given own.maximum fun n => .result (Keyword.maximum n own.exclusiveMaximum value),
    given own.minItems fun n => .result
      (Keyword.itemCount (fun count => n ≤ count) s!"Length of array is smaller than the minimum {n}" value),
    given own.maxItems fun n => .result
      (Keyword.itemCount (fun count => count ≤ n) s!"Length of array is greater than maximum {n}" value),
    if own.uniqueItems then Keyword.uniqueItemsCheck value else .result [] ]

def countAnswers (own : Assertions) (value : Json) : List (Traced Findings) :=
  [ given own.maxProperties fun n => .result
      (Keyword.memberCount (fun count => count ≤ n) s!"Amount of properties is greater than maximum permitted {n}" value),
    given own.minProperties fun n => .result
      (Keyword.memberCount (fun count => n ≤ count) s!"Amount of properties is less than the required amount {n}" value),
    given own.required fun keys => .result (Keyword.required keys value) ]

def defectsOf (patterns : List (String × Node)) : Findings :=
  patterns.filterMap fun entry =>
    match Pattern.compile entry.1 with
    | .ok _ => none
    | .error _ => some ("Pattern '" ++ entry.1 ++ "' of 'patternProperties' is not a valid regular expression")

def memberAnswer (named matched : String → Json → Traced (List Findings)) (further : Json → Traced Findings)
    (member : String × Json) : Traced Findings := do
  let called := (← named member.1 member.2) ++ (← matched member.1 member.2)
  match called with
  | [] => return (← further member.2).map fun message => "Property '" ++ member.1 ++ "': " ++ message
  | shares => return shares.flatten

def membersAnswer (defects : Findings) (answer : String × Json → Traced Findings) : Json → Traced Findings
  | .object members => do return defects ++ (← Logged.each answer members).flatten
  | _ => .result []

def holdsKey (key : String) : Json → Bool
  | .object members => hasMember key members
  | _ => false

mutual
def Node.answer (formats : Formats) (meaning : Meaning) (node : Node) (value : Json) : Traced Findings :=
  match node with
  | ⟨own, allOf, anyOf, oneOf, negation, items, tupleItems, additionalItems, properties, patternProperties,
      additionalProperties, dependencies⟩ =>
      Logged.joined
        ([ given own.reference fun r => meaning r value,
           given own.kinds fun kinds => Keyword.typeCheck kinds value,
           allAnswer formats meaning allOf value,
           anyAnswer formats meaning anyOf value,
           oneAnswer formats meaning oneOf value,
           notAnswer formats meaning negation value ]
          ++ plainAnswers own value ++
         [ itemsAnswer formats meaning items (tupleAnswer formats meaning tupleItems
             fun item => extraAnswer formats meaning noMoreItems additionalItems item) value ]
          ++ countAnswers own value ++
         [ membersAnswer (defectsOf (patternProperties.getD []))
             (memberAnswer (fun key value => namedAnswer formats meaning properties key value)
               (fun key value => matchedAnswer formats meaning patternProperties key value)
               fun value => furtherAnswer formats meaning additionalProperties value) value,
           dependenciesAnswer formats meaning dependencies value,
           given own.format fun name => formatAnswer formats name value ])
termination_by structural node

def allAnswer (formats : Formats) (meaning : Meaning) (nodes : Option (List Node)) (value : Json) : Traced Findings :=
  match nodes with
  | none => .result []
  | some nodes => do return (← answers formats meaning nodes value).flatten
termination_by structural nodes

def anyAnswer (formats : Formats) (meaning : Meaning) (nodes : Option (List Node)) (value : Json) : Traced Findings :=
  match nodes with
  | none => .result []
  | some nodes => firstAnswer formats meaning nodes value []
termination_by structural nodes

def oneAnswer (formats : Formats) (meaning : Meaning) (nodes : Option (List Node)) (value : Json) : Traced Findings :=
  match nodes with
  | none => .result []
  | some nodes => do
      let shares ← answers formats meaning nodes value
      match (shares.filter List.isEmpty).length with
      | 0 => return "Value does not match any of the 'oneOf' schemas" :: shares.flatten
      | 1 => return []
      | count => return [s!"Value matches more than one of the 'oneOf' schemas ({count} matched)"]
termination_by structural nodes

def notAnswer (formats : Formats) (meaning : Meaning) (negation : Option Node) (value : Json) : Traced Findings :=
  match negation with
  | none => .result []
  | some node => do
      match ← node.answer formats meaning value with
      | [] => return ["Value must not match the 'not' schema"]
      | _ => return []
termination_by structural negation

def itemsAnswer (formats : Formats) (meaning : Meaning) (items : Option Node) (tuple : Json → Traced Findings) (value : Json) :
    Traced Findings :=
  match items, value with
  | none, value => tuple value
  | some node, .array values => do
      return (← Logged.each (fun item => node.answer formats meaning item) values).flatten
  | some _, _ => .result []
termination_by structural items

def tupleAnswer (formats : Formats) (meaning : Meaning) (tupleItems : Option (List Node)) (rest : Json → Traced Findings)
    (value : Json) : Traced Findings :=
  match tupleItems, value with
  | some nodes, .array values => do return (← answersByPosition formats meaning nodes rest values).flatten
  | _, _ => .result []
termination_by structural tupleItems

def namedAnswer (formats : Formats) (meaning : Meaning) (nodes : Option (List (String × Node))) (key : String) (value : Json) :
    Traced (List Findings) :=
  match nodes with
  | none => .result []
  | some nodes => namedAnswers formats meaning nodes key value
termination_by structural nodes

def matchedAnswer (formats : Formats) (meaning : Meaning) (nodes : Option (List (String × Node))) (key : String) (value : Json) :
    Traced (List Findings) :=
  match nodes with
  | none => .result []
  | some nodes => matchedAnswers formats meaning nodes key value
termination_by structural nodes

def furtherAnswer (formats : Formats) (meaning : Meaning) (extra : Option (Extra Node)) (value : Json) : Traced Findings :=
  match extra with
  | none => .result []
  | some extra => extraAnswer formats meaning noMoreProperties extra value
termination_by structural extra

def dependenciesAnswer (formats : Formats) (meaning : Meaning) (demands : Option (List (String × Demand Node)))
    (value : Json) : Traced Findings :=
  match demands with
  | none => .result []
  | some demands => demandAnswers formats meaning demands value
termination_by structural demands

def answers (formats : Formats) (meaning : Meaning) (nodes : List Node) (value : Json) : Traced (List Findings) :=
  match nodes with
  | [] => .result []
  | node :: rest => do
      let own ← node.answer formats meaning value
      return own :: (← answers formats meaning rest value)
termination_by structural nodes

def firstAnswer (formats : Formats) (meaning : Meaning) (nodes : List Node) (value : Json) (before : Findings) :
    Traced Findings :=
  match nodes with
  | [] => .result (if before = [] then ["Value does not match any of the 'anyOf' schemas"] else before)
  | node :: rest => do
      match ← node.answer formats meaning value with
      | [] => return []
      | own => firstAnswer formats meaning rest value (before ++ own)
termination_by structural nodes

def answersByPosition (formats : Formats) (meaning : Meaning) (nodes : List Node) (rest : Json → Traced Findings)
    (values : List Json) : Traced (List Findings) :=
  match nodes, values with
  | [], values => Logged.each rest values
  | _, [] => .result []
  | node :: nodes, value :: values => do
      let own ← node.answer formats meaning value
      return own :: (← answersByPosition formats meaning nodes rest values)
termination_by structural nodes

def extraAnswer (formats : Formats) (meaning : Meaning) (message : String) (extra : Extra Node) (value : Json) :
    Traced Findings :=
  match extra with
  | .permit true => .result []
  | .permit false => .result [message]
  | .schema node => node.answer formats meaning value
termination_by structural extra

def namedAnswers (formats : Formats) (meaning : Meaning) (nodes : List (String × Node)) (key : String) (value : Json) :
    Traced (List Findings) :=
  match nodes with
  | [] => .result []
  | (name, node) :: rest =>
      if name = key then do return [← node.answer formats meaning value]
      else namedAnswers formats meaning rest key value
termination_by structural nodes

def matchedAnswers (formats : Formats) (meaning : Meaning) (nodes : List (String × Node)) (key : String) (value : Json) :
    Traced (List Findings) :=
  match nodes with
  | [] => .result []
  | (source, node) :: rest =>
      match Pattern.compile source with
      | .error _ => matchedAnswers formats meaning rest key value
      | .ok pattern => do
          if ← Keyword.isFound pattern key then
            let own ← node.answer formats meaning value
            return own :: (← matchedAnswers formats meaning rest key value)
          else matchedAnswers formats meaning rest key value
termination_by structural nodes

def demandAnswers (formats : Formats) (meaning : Meaning) (demands : List (String × Demand Node)) (value : Json) :
    Traced Findings :=
  match demands with
  | [] => .result []
  | (key, .keys names) :: rest => do
      return Keyword.dependency key names value ++ (← demandAnswers formats meaning rest value)
  | (key, .schema node) :: rest =>
      if holdsKey key value then do
        return (← node.answer formats meaning value) ++ (← demandAnswers formats meaning rest value)
      else demandAnswers formats meaning rest value
termination_by structural demands
end

end Answers

section Equations

variable {formats : Formats} {meaning : Meaning}

theorem outcomes_answers (nodes : List Node) (value : Json) :
    Check.outcomes (nodes.map (Node.answer formats meaning)) value = answers formats meaning nodes value := by
  induction nodes with
  | nil => rfl
  | cons node rest ih =>
      rw [List.map_cons, answers, Logged.bind_eq]
      exact congrArg _ (funext fun own => by rw [← ih]; rfl)

theorem any_after_answers (nodes : List Node) (value : Json) (before : Findings) :
    Check.anyAfter before (nodes.map (Node.answer formats meaning)) value = firstAnswer formats meaning nodes value before := by
  induction nodes generalizing before with
  | nil => cases before <;> rfl
  | cons node rest ih =>
      rw [List.map_cons, Check.anyAfter, firstAnswer]
      refine congrArg _ (funext fun own => ?_)
      cases own with
      | nil => rfl
      | cons head tail => exact ih _

theorem positional_answers (nodes : List Node) (rest : Check) (values : List Json) :
    Check.positional rest (nodes.map (Node.answer formats meaning)) values = answersByPosition formats meaning nodes rest values := by
  induction nodes generalizing values with
  | nil => cases values <;> rfl
  | cons node nodes ih =>
      cases values with
      | nil => rfl
      | cons value values =>
          rw [List.map_cons, Check.positional, answersByPosition]
          exact congrArg _ (funext fun own => by rw [ih])

theorem named_answers (nodes : List (String × Node)) (key : String) (value : Json) :
    Check.outcomes (member? key (nodes.map fun entry => (entry.1, entry.2.answer formats meaning))).toList value =
      namedAnswers formats meaning nodes key value := by
  induction nodes with
  | nil => rfl
  | cons entry rest ih =>
      obtain ⟨name, node⟩ := entry
      rw [List.map_cons, member?, namedAnswers]
      split
      · rfl
      · exact ih

theorem matched_answers (nodes : List (String × Node)) (key : String) (value : Json) :
    ((Logged.each (fun pattern => Check.whenCalled (pattern.1 key) pattern.2 value)
      ((nodes.map fun entry => (entry.1, entry.2.answer formats meaning)).filterMap Keyword.searchOf)).andThen fun matched =>
        .result (matched.filterMap id)) = matchedAnswers formats meaning nodes key value := by
  induction nodes with
  | nil => rfl
  | cons entry rest ih =>
      obtain ⟨source, node⟩ := entry
      rw [List.map_cons, List.filterMap_cons, matchedAnswers]
      cases compiled : Pattern.compile source with
      | error fault => simpa [Keyword.searchOf, Keyword.meaning?, compiled] using ih
      | ok pattern =>
          simp only [Keyword.searchOf, Keyword.meaning?, compiled, Option.map_some, Logged.each, Check.whenCalled,
            Logged.bind_eq, Logged.and_then_assoc, ← ih]
          refine congrArg _ (funext fun called => ?_)
          cases called <;> simp [pure, Logged.and_then_assoc, Logged.result_and_then]

theorem defects_answers (nodes : List (String × Node)) :
    (nodes.map fun entry => (entry.1, entry.2.answer formats meaning)).filterMap Keyword.defectOf = defectsOf nodes := by
  rw [List.filterMap_map, defectsOf]
  refine List.filterMap_congr fun entry _ => ?_
  cases compiled : Pattern.compile entry.1 <;> simp [Keyword.defectOf, Keyword.meaning?, compiled]

end Equations

def Yields (group : Traced (List Check)) (value : Json) (answer : Traced Findings) : Prop :=
  ∀ checks, group.outcome = .ok checks → (Check.all checks value).outcome = answer.outcome

abbrev ending : Comparison :=
  .outcomes fun _ => True

section Yields

variable {value : Json} {answer : Traced Findings}

theorem yields_none : Yields (.result []) value (.result []) := by
  rintro _ ⟨⟩
  rfl

theorem yields_check {check : Check} (same : (check value).outcome = answer.outcome) :
    Yields (.result [check]) value answer := by
  rintro _ ⟨⟩
  rw [Check.all_one, same]

theorem yields_then {α : Type} {x : Traced α} {f : α → Traced (List Check)}
    (next : ∀ a, x.outcome = .ok a → Yields (f a) value answer) : Yields (x.andThen f) value answer := by
  intro checks returned
  obtain ⟨a, first, second⟩ := (Logged.and_then_ok _ _ _).mp returned
  exact next a first checks second

theorem yields_given {α : Type} (keyword : Option α) {check : α → Check} {answer : α → Traced Findings}
    (same : ∀ a, (check a value).outcome = (answer a).outcome) : Yields (whenGiven keyword check) value (given keyword answer) := by
  cases keyword with
  | none => exact yields_none
  | some a => exact yields_check (same a)

theorem yields_written {α : Type} (keyword : Option α) {shown : α → List Number} {check : α → Check}
    {answer : α → Traced Findings} (same : ∀ a, (check a value).outcome = (answer a).outcome) :
    Yields (whenWritten keyword shown check) value (given keyword answer) := by
  cases keyword with
  | none => exact yields_none
  | some a => exact yields_then fun _ _ => yields_check (same a)

theorem yields_joined {groups : List (Traced (List Check))} {parts : List (Traced Findings)}
    (yields : List.Forall₂ (fun group part => Yields group value part) groups parts) :
    Yields (Logged.joined groups) value (Logged.joined parts) := by
  induction yields with
  | nil => exact yields_none
  | cons first _ ih =>
      intro checks returned
      obtain ⟨own, compiled, rest⟩ := (Logged.and_then_ok _ _ _).mp returned
      obtain ⟨others, compiledRest, last⟩ := (Logged.and_then_ok _ _ _).mp rest
      cases last
      rw [Check.all_append, Logged.joined]
      simp only [Logged.and_then_outcome, first own compiled, ih others compiledRest]

end Yields

def Node.Answered (formats : Formats) (meaning : Meaning) (node : Node) : Prop :=
  ∀ scope check, (node.check formats (fun _ r => .result (meaning r)) scope).outcome = .ok check →
    ending.Agree (fun _ => True) check (node.answer formats meaning)

section Keywords

variable {formats : Formats} {meaning : Meaning} {scope : Scope} {value : Json} {own : Assertions}

abbrev refers (meaning : Meaning) : Expansion :=
  fun _ r => .result (meaning r)

theorem references_yield (reference : Option String) :
    Yields (referenceChecks (refers meaning) scope reference) value (given reference fun r => meaning r value) := by
  cases reference with
  | none => exact yields_none
  | some r => exact yields_check rfl

theorem pattern_yields (source : Option String) :
    Yields (patternChecks source) value (given source fun source => sourceAnswer source value) := by
  cases source with
  | none => exact yields_none
  | some source =>
      refine yields_then fun check returned => yields_check ?_
      obtain ⟨read, first, last⟩ := (Logged.and_then_ok _ _ _).mp returned
      obtain rfl := Keyword.read_pattern_answer first
      unfold given sourceAnswer
      cases compiled : Pattern.compile source <;> simp only [Keyword.meaning?, compiled] at last ⊢ <;> cases last <;> rfl

theorem plain_yield : List.Forall₂ (fun group answer => Yields group value answer) (plainChecks own) (plainAnswers own value) := by
  refine .cons (yields_given _ fun _ => rfl) (.cons (yields_written _ fun _ => rfl) (.cons (yields_written _ fun _ => rfl)
    (.cons (pattern_yields _) (.cons (yields_written _ fun _ => rfl) (.cons (yields_written _ fun _ => rfl)
    (.cons (yields_written _ fun _ => rfl) (.cons (yields_written _ fun _ => rfl) (.cons (yields_written _ fun _ => rfl)
    (.cons ?_ .nil)))))))))
  cases own.uniqueItems with
  | true => exact yields_check rfl
  | false => exact yields_none

theorem counts_yield : List.Forall₂ (fun group answer => Yields group value answer) (memberChecks own) (countAnswers own value) :=
  .cons (yields_written _ fun _ => rfl) (.cons (yields_written _ fun _ => rfl) (.cons (yields_given _ fun _ => rfl) .nil))

theorem format_yields (name : Option String) :
    Yields (formatChecks formats name) value (given name fun name => formatAnswer formats name value) := by
  cases name with
  | none => exact yields_none
  | some name =>
      cases found : formats.find? name with
      | some check =>
          simp only [formatChecks, given, formatAnswer, found]
          exact yields_check rfl
      | none =>
          simp only [formatChecks, given, formatAnswer, found]
          refine yields_then fun _ _ => ?_
          rintro _ ⟨⟩
          rfl

end Keywords

section Schemas

variable {formats : Formats} {meaning : Meaning} {scope : Scope} {value : Json}

theorem list_answered {nodes : List Node} (answered : ∀ node ∈ nodes, node.Answered formats meaning) {checks : List Check}
    (returned : (Logged.each (fun node => Node.check formats (refers meaning) node scope) nodes).outcome = .ok checks) :
    List.Forall₂ (ending.Agree fun _ => True) checks (nodes.map (Node.answer formats meaning)) := by
  rw [List.forall₂_map_right_iff]
  refine List.Forall₂.flip (Logged.each_ok_related _ (List.forall₂_same.mpr fun node member check => ?_) returned)
  exact answered node member scope check

theorem combined_yields {nodes : List Node} {combine : List Check → Check} {answer : Traced Findings}
    (answered : ∀ node ∈ nodes, node.Answered formats meaning)
    (lifted : ∀ cs ds, List.Forall₂ (ending.Agree fun _ => True) cs ds → ending.Agree (fun _ => True) (combine cs) (combine ds))
    (same : combine (nodes.map (Node.answer formats meaning)) value = answer) :
    Yields (combinedGroup formats (refers meaning) combine (some nodes) scope) value answer := by
  refine yields_then fun checks returned => yields_check ?_
  rw [← same]
  exact Comparison.outcomes_eq (lifted _ _ (list_answered answered returned) value trivial)

theorem single_yields {x : Traced Check} {combine : Check → Check} {answer other : Check}
    (answered : ∀ check, x.outcome = .ok check → ending.Agree (fun _ => True) check answer)
    (lifted : ∀ c, ending.Agree (fun _ => True) c answer → ending.Agree (fun _ => True) (combine c) other) :
    Yields (x.andThen fun check => .result [combine check]) value (other value) :=
  yields_then fun check returned => yields_check (Comparison.outcomes_eq (lifted check (answered check returned) value trivial))

theorem extra_answered {extra : Extra Node} (message : String) (answered : ∀ node ∈ extra.schemas, node.Answered formats meaning)
    {check : Check} (returned : (checkExtra formats (refers meaning) message extra scope).outcome = .ok check) :
    ending.Agree (fun _ => True) check (extraAnswer formats meaning message extra) := by
  cases extra with
  | permit allowed =>
      cases returned
      intro value _
      cases allowed <;> exact Comparison.outcomes_same rfl
  | schema node => exact answered node (List.mem_singleton_self _) scope check returned

theorem rest_answered {extra : Option (Extra Node)}
    (answered : ∀ node ∈ (extra.map Extra.schemas).getD [], node.Answered formats meaning)
    {check : Check} (returned : (checkRest formats (refers meaning) extra scope).outcome = .ok check) :
    ending.Agree (fun _ => True) check (furtherAnswer formats meaning extra) := by
  cases extra with
  | none =>
      cases returned
      exact fun _ _ => Comparison.outcomes_same rfl
  | some extra => exact extra_answered noMoreProperties answered returned

theorem named_answered {nodes : Option (List (String × Node))}
    (answered : ∀ entry ∈ nodes.getD [], entry.2.Answered formats meaning)
    {checks : List (String × Check)} (returned : (namedGroup formats (refers meaning) nodes scope).outcome = .ok checks) :
    List.Forall₂ (ending.AgreeNamed fun _ => True) checks
      ((nodes.getD []).map fun entry => (entry.1, entry.2.answer formats meaning)) := by
  rw [List.forall₂_map_right_iff]
  refine List.Forall₂.flip (Logged.each_ok_related _ (List.forall₂_same.mpr fun entry member named made => ?_) returned)
  obtain ⟨check, compiled, last⟩ := (Logged.and_then_ok _ _ _).mp made
  cases last
  exact ⟨rfl, answered entry member scope check compiled⟩

theorem items_yield {node : Node} (answered : ∀ inner ∈ node.itemSchemas, inner.Answered formats meaning) :
    Yields (node.itemGroup formats (refers meaning) scope) value (itemsAnswer formats meaning node.items
      (tupleAnswer formats meaning node.tupleItems (extraAnswer formats meaning noMoreItems node.additionalItems)) value) := by
  unfold Node.itemSchemas at answered
  unfold Node.itemGroup
  generalize node.items = single, node.tupleItems = listed at answered
  cases single with
  | some inner =>
      have same : Yields _ value _ := single_yields (answered inner (List.mem_singleton_self _) scope)
        fun c => Comparison.agree_items fun _ _ _ _ => trivial
      cases value <;> exact same
  | none =>
      cases listed with
      | none => cases value <;> exact yields_none
      | some nodes =>
          refine yields_then fun checks compiled => yields_then fun rest compiledRest => yields_check ?_
          have agree := Comparison.agree_tuple (fun _ (_ : True) _ _ => trivial)
            (list_answered (fun inner member => answered inner (List.mem_append_left _ member)) compiled)
            (extra_answered noMoreItems (fun inner member => answered inner (List.mem_append_right _ member)) compiledRest)
          have same := Comparison.outcomes_eq (agree value trivial)
          cases value with
          | array values => exact same.trans (by rw [Check.tuple, positional_answers]; rfl)
          | _ => exact same

section Members

variable {node : Node}

theorem member_answer (named matched : Option (List (String × Node))) (further : Check) (member : String × Json) :
    Check.member ((named.getD []).map fun entry => (entry.1, entry.2.answer formats meaning))
      (((matched.getD []).map fun entry => (entry.1, entry.2.answer formats meaning)).filterMap Keyword.searchOf) further member =
      memberAnswer (namedAnswer formats meaning named) (matchedAnswer formats meaning matched) further member := by
  have byName : Check.outcomes (member? member.1 ((named.getD []).map fun entry =>
      (entry.1, entry.2.answer formats meaning))).toList member.2 = namedAnswer formats meaning named member.1 member.2 := by
    cases named with
    | none => rfl
    | some nodes => exact named_answers nodes member.1 member.2
  have byPattern : ((Logged.each (fun pattern => Check.whenCalled (pattern.1 member.1) pattern.2 member.2)
      (((matched.getD []).map fun entry => (entry.1, entry.2.answer formats meaning)).filterMap Keyword.searchOf)).andThen
        fun called => .result (called.filterMap id)) = matchedAnswer formats meaning matched member.1 member.2 := by
    cases matched with
    | none => rfl
    | some nodes => exact matched_answers nodes member.1 member.2
  rw [memberAnswer, ← byName, ← byPattern]
  simp only [Logged.bind_eq, Logged.and_then_assoc, Logged.result_and_then]
  rfl

theorem nothing_named (members : List (String × Json)) (further : Check) (accepts : ∀ value, further value = .result []) :
    Logged.each (memberAnswer (fun _ _ => .result []) (fun _ _ => .result []) further) members =
      .result (members.map fun _ => []) := by
  induction members with
  | nil => rfl
  | cons member rest ih =>
      have alone : memberAnswer (fun _ _ => .result []) (fun _ _ => .result []) further member = .result [] := by
        simp only [memberAnswer, Logged.bind_eq, Logged.result_and_then, List.append_nil, accepts]
        rfl
      rw [Logged.each, alone, ih]
      rfl

theorem members_yield (answered : ∀ inner ∈ node.children, inner.Answered formats meaning) :
    Yields (node.propertyGroup formats (refers meaning) scope) value
      (membersAnswer (defectsOf (node.patternProperties.getD [])) (memberAnswer (namedAnswer formats meaning node.properties)
        (matchedAnswer formats meaning node.patternProperties) (furtherAnswer formats meaning node.additionalProperties)) value) := by
  simp only [Node.children, List.mem_append, List.mem_map] at answered
  unfold Node.propertyGroup
  split
  · refine yields_then fun declared compiled => yields_then fun patterns compiledPatterns => yields_then fun rest compiledRest =>
      yields_then fun check made => yields_check ?_
    obtain ⟨_, rfl⟩ := Keyword.properties_ok.mp made
    have byName := named_answered (fun entry member => answered entry.2 (.inl (.inl (.inr ⟨entry, member, rfl⟩)))) compiled
    have byPattern := named_answered (fun entry member => answered entry.2 (.inl (.inr ⟨entry, member, rfl⟩))) compiledPatterns
    have further := rest_answered (fun inner member => answered inner (.inr member)) compiledRest
    have searches := @searches_related ending (fun _ => True) _ _ _ byPattern fun _ _ _ _ _ _ _ _ =>
      Comparison.outcomes_fine.mpr fun _ _ => trivial
    have agree := @Comparison.agree_members ending (fun _ => True) _ (fun _ _ _ _ => trivial) _ _ _ _ _ _
      (defectsOf (node.patternProperties.getD [])) byName searches further
    rw [defects_same byPattern, defects_answers]
    have same := Comparison.outcomes_eq (agree value trivial)
    cases value with
    | object members =>
        refine same.trans ?_
        rw [Check.members, ← funext (member_answer node.properties node.patternProperties _)]
        rfl
    | _ => exact same
  · obtain ⟨noNames, noPatterns, noMore⟩ : node.properties = none ∧ node.patternProperties = none ∧ node.additionalProperties = none := by
      simpa [Node.speaksOfMembers, and_assoc] using ‹¬ node.speaksOfMembers = true›
    have nothing : ∀ members : List (String × Json), (members.map fun _ => ([] : Findings)).flatten = [] := by simp
    rintro _ ⟨⟩
    cases value with
    | object members =>
        have found := nothing_named members (furtherAnswer formats meaning none) fun _ => rfl
        rw [noNames, noPatterns, noMore, membersAnswer]
        simp only [namedAnswer, matchedAnswer, found, Logged.bind_eq, Logged.result_and_then, nothing]
        rfl
    | _ => rfl

end Members

theorem when_present_eq (key : String) (check : Check) (value : Json) :
    Check.whenPresent key check value = if holdsKey key value then check value else .result [] := by
  cases value <;> rfl

theorem demands_yield (demands : List (String × Demand Node))
    (answered : ∀ inner ∈ demands.flatMap (·.2.schemas), inner.Answered formats meaning) :
    Yields (Logged.each (demandCheck formats (refers meaning) scope) demands) value (demandAnswers formats meaning demands value) := by
  induction demands with
  | nil => exact yields_none
  | cons entry rest ih =>
      obtain ⟨key, demand⟩ := entry
      rw [List.flatMap_cons, List.forall_mem_append] at answered
      obtain ⟨here, later⟩ := answered
      intro checks returned
      obtain ⟨check, compiled, after⟩ := (Logged.and_then_ok _ _ _).mp returned
      obtain ⟨others, compiledRest, last⟩ := (Logged.and_then_ok _ _ _).mp after
      cases last
      have tail := ih later others compiledRest
      rw [← List.singleton_append, Check.all_append, Check.all_one]
      cases demand with
      | keys names =>
          cases compiled
          rw [demandAnswers, Logged.bind_eq, Logged.and_then_outcome, Logged.and_then_outcome, ← tail]
          exact Logged.and_then_outcome _ _
      | schema inner =>
          obtain ⟨own, made, last⟩ := (Logged.and_then_ok _ _ _).mp compiled
          cases last
          have agree := Comparison.agree_when_present key (here inner (List.mem_singleton_self _) scope own made)
          have first := Comparison.outcomes_eq (agree value trivial)
          rw [Logged.and_then_outcome, first, when_present_eq, demandAnswers]
          simp only [Logged.and_then_outcome, tail]
          split
          · simp only [Logged.bind_eq, Logged.and_then_outcome]
            rfl
          · cases (demandAnswers formats meaning rest value).outcome <;> rfl

theorem dependencies_yield {demands : Option (List (String × Demand Node))}
    (answered : ∀ inner ∈ (demands.getD []).flatMap (·.2.schemas), inner.Answered formats meaning) :
    Yields (Logged.each (demandCheck formats (refers meaning) scope) (demands.getD [])) value
      (dependenciesAnswer formats meaning demands value) := by
  cases demands with
  | none => exact yields_none
  | some demands => exact demands_yield demands answered

theorem all_yields {nodes : Option (List Node)} (answered : ∀ inner ∈ nodes.getD [], inner.Answered formats meaning) :
    Yields (combinedGroup formats (refers meaning) Check.all nodes scope) value (allAnswer formats meaning nodes value) := by
  cases nodes with
  | none => exact yields_none
  | some nodes =>
      refine combined_yields answered (fun _ _ => Comparison.agree_all) ?_
      rw [Check.all, outcomes_answers]
      rfl

theorem any_yields {nodes : Option (List Node)} (answered : ∀ inner ∈ nodes.getD [], inner.Answered formats meaning) :
    Yields (combinedGroup formats (refers meaning) Check.any nodes scope) value (anyAnswer formats meaning nodes value) := by
  cases nodes with
  | none => exact yields_none
  | some nodes => exact combined_yields answered (fun _ _ => Comparison.agree_any) (any_after_answers nodes value [])

theorem one_yields {nodes : Option (List Node)} (answered : ∀ inner ∈ nodes.getD [], inner.Answered formats meaning) :
    Yields (combinedGroup formats (refers meaning) Check.one nodes scope) value (oneAnswer formats meaning nodes value) := by
  cases nodes with
  | none => exact yields_none
  | some nodes =>
      refine combined_yields answered (fun _ _ => Comparison.agree_one) ?_
      rw [Check.one, outcomes_answers, oneAnswer]
      refine congrArg _ (funext fun shares => ?_)
      simp only [List.countP_eq_length_filter]
      generalize (shares.filter List.isEmpty).length = count
      match count with
      | 0 => rfl
      | 1 => rfl
      | count + 2 => rfl

theorem not_yields {negation : Option Node} (answered : ∀ inner ∈ negation.toList, inner.Answered formats meaning) :
    Yields (negatedGroup formats (refers meaning) negation scope) value (notAnswer formats meaning negation value) := by
  cases negation with
  | none => exact yields_none
  | some inner =>
      have negated : Check.negate (inner.answer formats meaning) value = notAnswer formats meaning (some inner) value := by
        refine congrArg _ (funext fun found => ?_)
        cases found <;> rfl
      rw [← negated]
      exact single_yields (answered inner (List.mem_singleton_self _) scope) fun _ => Comparison.agree_negate

theorem answer_eq (node : Node) : node.answer formats meaning value = Logged.joined
    ([ given node.own.reference fun r => meaning r value,
       given node.own.kinds fun kinds => Keyword.typeCheck kinds value,
       allAnswer formats meaning node.allOf value,
       anyAnswer formats meaning node.anyOf value,
       oneAnswer formats meaning node.oneOf value,
       notAnswer formats meaning node.negation value ]
      ++ plainAnswers node.own value ++
     [ itemsAnswer formats meaning node.items (tupleAnswer formats meaning node.tupleItems
         (extraAnswer formats meaning noMoreItems node.additionalItems)) value ]
      ++ countAnswers node.own value ++
     [ membersAnswer (defectsOf (node.patternProperties.getD [])) (memberAnswer (namedAnswer formats meaning node.properties)
         (matchedAnswer formats meaning node.patternProperties) (furtherAnswer formats meaning node.additionalProperties)) value,
       dependenciesAnswer formats meaning node.dependencies value,
       given node.own.format fun name => formatAnswer formats name value ]) := by
  cases node
  rfl

theorem node_answered (node : Node) : node.Answered formats meaning := by
  induction node using node_induction with
  | step node peers children =>
      intro scope check compiled value _
      rw [check_eq, checks_eq] at compiled
      obtain ⟨checks, joined, last⟩ := (Logged.and_then_ok _ _ _).mp compiled
      cases last
      apply Comparison.outcomes_same
      have peer : (∀ inner ∈ node.allOf.getD [], inner.Answered formats meaning) ∧
          (∀ inner ∈ node.anyOf.getD [], inner.Answered formats meaning) ∧
          (∀ inner ∈ node.oneOf.getD [], inner.Answered formats meaning) ∧
          (∀ inner ∈ node.negation.toList, inner.Answered formats meaning) ∧
          ∀ inner ∈ (node.dependencies.getD []).flatMap (·.2.schemas), inner.Answered formats meaning := by
        simpa only [Node.peers, List.forall_mem_append, and_assoc] using peers
      have first : List.Forall₂ (fun group answer => Yields group value answer)
          [ referenceChecks (refers meaning) scope node.own.reference,
            whenGiven node.own.kinds Keyword.typeCheck,
            combinedGroup formats (refers meaning) Check.all node.allOf scope,
            combinedGroup formats (refers meaning) Check.any node.anyOf scope,
            combinedGroup formats (refers meaning) Check.one node.oneOf scope,
            negatedGroup formats (refers meaning) node.negation scope ] _ :=
        .cons (references_yield _) (.cons (yields_given _ fun _ => rfl) (.cons (all_yields peer.1)
          (.cons (any_yields peer.2.1) (.cons (one_yields peer.2.2.1) (.cons (not_yields peer.2.2.2.1) .nil)))))
      have last : List.Forall₂ (fun group answer => Yields group value answer)
          [ node.propertyGroup formats (refers meaning) scope.descend,
            Logged.each (demandCheck formats (refers meaning) scope) (node.dependencies.getD []),
            formatChecks formats node.own.format ] _ :=
        .cons (members_yield children) (.cons (dependencies_yield peer.2.2.2.2) (.cons (format_yields _) .nil))
      have item : Yields (node.itemGroup formats (refers meaning) scope.descend) value _ :=
        items_yield fun inner member => children inner (by simp [Node.children, member])
      rw [answer_eq]
      exact yields_joined (List.rel_append (List.rel_append (List.rel_append (List.rel_append first plain_yield)
        (.cons item .nil)) counts_yield) last) checks joined

end Schemas

end Conform.Schema
