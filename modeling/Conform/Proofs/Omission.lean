import Conform.Proofs.Thinning

set_option autoImplicit false

namespace Conform

namespace Schema

inductive Shape where
  | text
  | number
  | size
  | yes
  | list
  | object
  | textOrList
  | objectOrList
  | objectOrFlag

def Shape.fits : Shape → Json → Bool
  | .text, .string _ => true
  | .number, .number _ => true
  | .size, .number n => n.isIntegral
  | .yes, .bool b => b
  | .list, .array _ => true
  | .object, .object _ => true
  | .textOrList, .string _ => true
  | .textOrList, .array _ => true
  | .objectOrList, .object _ => true
  | .objectOrList, .array _ => true
  | .objectOrFlag, .object _ => true
  | .objectOrFlag, .bool _ => true
  | _, _ => false

def shapes : List (String × Shape) :=
  [("title", .text), ("description", .text), ("$ref", .text), ("type", .textOrList), ("allOf", .list), ("anyOf", .list),
    ("oneOf", .list), ("not", .object), ("enum", .list), ("maxLength", .size), ("minLength", .size), ("pattern", .text),
    ("multipleOf", .number), ("minimum", .number), ("exclusiveMinimum", .yes), ("maximum", .number),
    ("exclusiveMaximum", .yes), ("minItems", .size), ("maxItems", .size), ("uniqueItems", .yes), ("items", .objectOrList),
    ("additionalItems", .objectOrFlag), ("maxProperties", .size), ("minProperties", .size), ("required", .list),
    ("properties", .object), ("patternProperties", .object), ("additionalProperties", .objectOrFlag),
    ("dependencies", .object), ("format", .text)]

def usable (key : String) (value : Json) : Bool :=
  (member? key shapes).any fun shape => shape.fits value

section Readings

variable (value : Json)

theorem text_read : value.asString?.isSome = Shape.text.fits value := by
  cases value <;> rfl

theorem number_read : value.asNumber?.isSome = Shape.number.fits value := by
  cases value <;> rfl

theorem size_read : value.asInt?.isSome = Shape.size.fits value := by
  cases value <;> rfl

theorem yes_read : value.isTrue = Shape.yes.fits value := by
  cases value <;> rfl

theorem values_read : value.asItems?.isSome = Shape.list.fits value := by
  cases value <;> rfl

theorem strings_read : value.asStrings?.isSome = Shape.list.fits value := by
  cases value <;> rfl

theorem kinds_read : value.asKinds?.isSome = Shape.textOrList.fits value := by
  cases value <;> rfl

theorem list_read : (read value).list.isSome = Shape.list.fits value := by
  cases value <;> rfl

theorem object_read : (read value).object?.isSome = Shape.object.fits value := by
  cases value <;> rfl

theorem named_read : (read value).named.isSome = Shape.object.fits value := by
  cases value <;> rfl

theorem demands_read : (read value).demands.isSome = Shape.object.fits value := by
  cases value <;> rfl

theorem extra_read : (read value).extra?.isSome = Shape.objectOrFlag.fits value := by
  cases value <;> rfl

theorem items_read : ((read value).object?.isSome || (read value).list.isSome) = Shape.objectOrList.fits value := by
  cases value <;> rfl

end Readings

-- Values that are read for the same schema. All but objects are read for none, so these are equal.
inductive SameSchema : Json → Json → Prop where
  | same (value : Json) : SameSchema value value
  | object {left right : List (String × Json)} (decoded : Node.decode (.object left) = Node.decode (.object right)) :
      SameSchema (.object left) (.object right)

theorem alike_decode {v w : Json} (alike : SameSchema v w) : Node.decode v = Node.decode w := by
  cases alike with
  | same => rfl
  | object decoded => exact decoded

theorem alike_demand {v w : Json} (alike : SameSchema v w) : (read v).demand? = (read w).demand? := by
  cases alike with
  | same => rfl
  | object decoded => exact congrArg (some ∘ Demand.schema) decoded

theorem named_eq (members : List (String × Json)) :
    (read (.object members)).named = some (members.map fun entry => (entry.1, Node.decode entry.2)) := by
  rw [read, read_members_eq, List.map_map]
  rfl

def entryDemand (entry : String × Json) : Option (String × Demand Node) :=
  (read entry.2).demand?.map fun demand => (entry.1, demand)

theorem demands_eq (members : List (String × Json)) :
    (read (.object members)).demands = some ((members.map entryDemand).filterMap id) := by
  rw [read, read_members_eq, List.filterMap_map, List.filterMap_map]
  rfl

section Within

variable {key : String} {v w : Json}

theorem within_plain {r : Json → Json → Prop} (plain : key ∉ schemaKeys ++ listKeys ++ namedKeys)
    (within : Within r (key, v) (key, w)) : v = w := by
  simp only [List.mem_append, not_or] at plain
  cases within with
  | whole => rfl
  | schema position => exact absurd position plain.1.1
  | list position => exact absurd position plain.1.2
  | named position => exact absurd position plain.2

variable (within : Within SameSchema (key, v) (key, w))
include within

theorem within_list : (read v).list = (read w).list := by
  cases within with
  | @list _ left right _ items =>
      change some (readItems left) = some (readItems right)
      rw [read_items_eq, read_items_eq, related_iff_map.mp (items.imp fun _ _ => alike_decode)]
  | _ => rfl

theorem within_object (single : key ∉ namedKeys) : (read v).object? = (read w).object? := by
  cases within with
  | schema _ holds => exact congrArg some (alike_decode holds)
  | named position => exact absurd position single
  | _ => rfl

theorem within_extra (single : key ∉ namedKeys) : (read v).extra? = (read w).extra? := by
  cases within with
  | schema _ holds => exact congrArg (some ∘ Extra.schema) (alike_decode holds)
  | named position => exact absurd position single
  | _ => rfl

theorem within_named (several : key ∉ schemaKeys) : (read v).named = (read w).named := by
  cases within with
  | schema position => exact absurd position several
  | @named _ left right _ names values =>
      rw [named_eq, named_eq]
      refine congrArg some (related_iff_map.mp ((related_pairs.mpr ⟨names, values⟩).imp fun a b paired => ?_))
      exact Prod.ext paired.1 (alike_decode paired.2)
  | _ => rfl

theorem within_demands (several : key ∉ schemaKeys) : (read v).demands = (read w).demands := by
  cases within with
  | schema position => exact absurd position several
  | @named _ left right _ names values =>
      have asked : left.map entryDemand = right.map entryDemand := by
        refine related_iff_map.mp ((related_pairs.mpr ⟨names, values⟩).imp fun a b paired => ?_)
        rw [entryDemand, entryDemand, paired.1, alike_demand paired.2]
      rw [demands_eq, demands_eq, asked]
  | _ => rfl

end Within

def Useless (key : String) (value : Json) : Prop :=
  usable key value = false

-- Members that leave a schema as it is: useless ones, and the one that permits what is permitted anyway.
def Idle (key : String) (value : Json) : Prop :=
  Useless key value ∨ key = "additionalItems" ∧ value = .bool true

theorem useless_of_idle {key : String} {value : Json} (other : key ≠ "additionalItems") (idle : Idle key value) :
    Useless key value :=
  idle.resolve_right fun permitted => other permitted.1

theorem unread_useless {α : Type} {get : Json → Option α} {key : String} {shape : Shape} {value : Json}
    (listed : member? key shapes = some shape) (reads : ∀ value, (get value).isSome = shape.fits value)
    (useless : Useless key value) : get value = none := by
  rw [Useless, usable, listed] at useless
  rw [← Option.not_isSome_iff_eq_none, reads]
  exact Bool.eq_false_iff.mp useless

theorem read_under {α : Type} (get : Reading → Option α) (key : String) (members : List (String × Json)) :
    (member? key (readMembers members)).bind get = (member? key members).bind fun value => get (read value) := by
  rw [read_member, Option.bind_map]
  rfl

theorem other_of_plain {key : String} (plain : key ∉ schemaKeys ++ listKeys ++ namedKeys) : key ≠ "additionalItems" := by
  rintro rfl
  exact plain (by decide)

theorem permission_read (members : List (String × Json)) : (Node.decode (.object members)).additionalItems =
    ((member? "additionalItems" members).bind fun value => (read value).extra?).getD (.permit true) := by
  rw [← read_under]
  rfl

section Kept

variable {left right : List (String × Json)} (distinct : (left.map (·.1)).Nodup)
  (thinned : Thinned Idle SameSchema left right)
include distinct thinned

theorem read_kept {α : Type} {get : Json → Option α} {shape : Shape} (key : String) (listed : member? key shapes = some shape)
    (other : key ≠ "additionalItems") (reads : ∀ value, (get value).isSome = shape.fits value)
    (same : ∀ v w, Within SameSchema (key, v) (key, w) → get v = get w) :
    (member? key left).bind get = (member? key right).bind get :=
  lookup_kept (·.bind get) distinct thinned (fun _ idle => unread_useless listed reads (useless_of_idle other idle)) same

theorem plain_kept {α : Type} {get : Json → Option α} {shape : Shape} (key : String) (listed : member? key shapes = some shape)
    (plain : key ∉ schemaKeys ++ listKeys ++ namedKeys) (reads : ∀ value, (get value).isSome = shape.fits value) :
    (member? key left).bind get = (member? key right).bind get :=
  read_kept distinct thinned key listed (other_of_plain plain) reads fun _ _ within => by rw [within_plain plain within]

theorem yes_kept (key : String) (listed : member? key shapes = some .yes) (plain : key ∉ schemaKeys ++ listKeys ++ namedKeys) :
    (member? key left).any Json.isTrue = (member? key right).any Json.isTrue := by
  refine lookup_kept (·.any Json.isTrue) distinct thinned (fun value idle => ?_) fun v w within => ?_
  · have useless := useless_of_idle (other_of_plain plain) idle
    rw [Useless, usable, listed] at useless
    exact (yes_read value).trans useless
  · rw [within_plain plain within]

theorem assertions_kept : assertions left = assertions right := by
  have text := fun key listed plain => plain_kept distinct thinned key listed plain text_read
  have size := fun key listed plain => plain_kept distinct thinned key listed plain size_read
  have number := fun key listed plain => plain_kept distinct thinned key listed plain number_read
  have yes := yes_kept distinct thinned
  rw [assertions, assertions, text "title" rfl (by decide), text "description" rfl (by decide), text "$ref" rfl (by decide),
    text "pattern" rfl (by decide), text "format" rfl (by decide),
    plain_kept distinct thinned "type" rfl (by decide) kinds_read,
    plain_kept distinct thinned "enum" rfl (by decide) values_read,
    plain_kept distinct thinned "required" rfl (by decide) strings_read,
    size "maxLength" rfl (by decide), size "minLength" rfl (by decide), size "minItems" rfl (by decide),
    size "maxItems" rfl (by decide), size "maxProperties" rfl (by decide), size "minProperties" rfl (by decide),
    number "multipleOf" rfl (by decide), number "minimum" rfl (by decide), number "maximum" rfl (by decide),
    yes "exclusiveMinimum" rfl (by decide), yes "exclusiveMaximum" rfl (by decide), yes "uniqueItems" rfl (by decide)]

theorem items_kept :
    ((member? "items" left).bind fun value => (read value).object?) = ((member? "items" right).bind fun value => (read value).object?) ∧
      ((member? "items" left).bind fun value => (read value).list) = ((member? "items" right).bind fun value => (read value).list) := by
  have unread : ∀ value, Idle "items" value → (read value).object? = none ∧ (read value).list = none := by
    intro value idle
    have neither := (items_read value).trans (useless_of_idle (by decide) idle)
    rwa [Bool.or_eq_false_iff, Option.isSome_eq_false_iff, Option.isNone_iff_eq_none, Option.isSome_eq_false_iff,
      Option.isNone_iff_eq_none] at neither
  constructor
  · exact lookup_kept (·.bind fun value => (read value).object?) distinct thinned (fun value idle => (unread value idle).1)
      fun v w within => within_object within (by decide)
  · exact lookup_kept (·.bind fun value => (read value).list) distinct thinned (fun value idle => (unread value idle).2)
      fun v w within => within_list within

theorem permission_kept :
    (((member? "additionalItems" left).bind fun value => (read value).extra?).getD (.permit true)) =
      (((member? "additionalItems" right).bind fun value => (read value).extra?).getD (.permit true)) := by
  refine lookup_kept (fun found => (found.bind fun value => (read value).extra?).getD (.permit true)) distinct thinned
    (fun value idle => ?_) fun v w within => ?_
  · rcases idle with useless | ⟨_, rfl⟩
    · exact congrArg (·.getD (.permit true)) (unread_useless rfl extra_read useless)
    · rfl
  · exact congrArg (·.getD (.permit true)) (within_extra within (by decide))

theorem decode_kept : Node.decode (.object left) = Node.decode (.object right) := by
  have list := fun key listed other => read_kept distinct thinned key listed other list_read fun _ _ => within_list
  have named := fun key listed other several => read_kept distinct thinned key listed other named_read
    fun _ _ within => within_named within several
  have negation := read_kept distinct thinned "not" rfl (by decide) object_read
    fun _ _ within => within_object within (by decide)
  have extra := read_kept distinct thinned "additionalProperties" rfl (by decide) extra_read
    fun _ _ within => within_extra within (by decide)
  have demands := read_kept distinct thinned "dependencies" rfl (by decide) demands_read
    fun _ _ within => within_demands within (by decide)
  obtain ⟨items, tuple⟩ := items_kept distinct thinned
  change assemble left (readMembers left) = assemble right (readMembers right)
  simp only [assemble, read_under]
  rw [assertions_kept distinct thinned, list "allOf" rfl (by decide), list "anyOf" rfl (by decide),
    list "oneOf" rfl (by decide), negation, items, tuple, permission_kept distinct thinned,
    named "properties" rfl (by decide) (by decide), named "patternProperties" rfl (by decide) (by decide), extra, demands]

end Kept

theorem decode_pruned {v w : Json} (distinct : v.Distinct) (pruned : Pruned Idle v w) : SameSchema v w := by
  refine pruned_induction (motive := SameSchema) .same (fun left right apart members => ?_) distinct pruned
  exact .object (decode_kept apart (thinned_weaken members (fun _ _ idle => idle) fun _ _ _ inner => inner.2))

section Dropped

variable {left right : List (String × Json)} {key : String} {value : Json} (found : member? key left = some value)
  (absent : member? key right = none)
include found absent

theorem useless_of_unread {α : Type} {get : Json → Option α} {shape : Shape} (listed : member? key shapes = some shape)
    (reads : ∀ value, (get value).isSome = shape.fits value)
    (same : (member? key left).bind get = (member? key right).bind get) : Idle key value := by
  rw [found, absent, Option.bind_some, Option.bind_none] at same
  refine .inl ?_
  rw [Useless, usable, listed, Option.any_some, ← reads, same]
  rfl

theorem useless_of_silent (listed : member? key shapes = some .yes)
    (same : (member? key left).any Json.isTrue = (member? key right).any Json.isTrue) : Idle key value := by
  rw [found, absent, Option.any_some, Option.any_none, yes_read] at same
  exact .inl (by rw [Useless, usable, listed, Option.any_some, same])

theorem useless_of_unwritten {α : Type} {get : Reading → Option α} {shape : Shape} (listed : member? key shapes = some shape)
    (reads : ∀ value, (get (read value)).isSome = shape.fits value)
    (same : (member? key (readMembers left)).bind get = (member? key (readMembers right)).bind get) : Idle key value := by
  rw [read_under, read_under] at same
  exact useless_of_unread found absent listed reads same

end Dropped

theorem read_same {α : Type} {get : Reading → Option α} {left right : List (String × Json)} {key : String} {v w : Json}
    (found : member? key left = some v) (found' : member? key right = some w)
    (same : (member? key (readMembers left)).bind get = (member? key (readMembers right)).bind get) :
    get (read v) = get (read w) := by
  rwa [read_under, read_under, found, found'] at same

section Same

variable {left right : List (String × Json)} (same : Node.decode (.object left) = Node.decode (.object right))
include same

theorem useless_of_no_items {value : Json} (found : member? "items" left = some value) (absent : member? "items" right = none) :
    Useless "items" value := by
  have single := congrArg Node.items same
  have tuple := congrArg Node.tupleItems same
  change (member? "items" (readMembers left)).bind _ = (member? "items" (readMembers right)).bind _ at single tuple
  rw [read_under, read_under, found, absent, Option.bind_some, Option.bind_none] at single tuple
  have neither := items_read value
  rw [single, tuple] at neither
  exact neither.symm

theorem idle_of_permitted {value : Json} (found : member? "additionalItems" left = some value)
    (absent : member? "additionalItems" right = none) : Idle "additionalItems" value := by
  have permission := congrArg Node.additionalItems same
  rw [permission_read, permission_read, found, absent] at permission
  cases value with
  | bool allowed =>
      cases permission
      exact .inr ⟨rfl, rfl⟩
  | object members => cases permission
  | _ => exact .inl rfl

theorem idle_of_dropped {key : String} {value : Json} (found : member? key left = some value)
    (absent : member? key right = none) : Idle key value := by
  by_cases listed : key ∈ shapes.map (·.1)
  · have own := congrArg Node.own same
    simp only [shapes, List.map_cons, List.map_nil, List.mem_cons, List.not_mem_nil, or_false] at listed
    rcases listed with rfl | rfl | rfl | rfl | rfl | rfl | rfl | rfl | rfl | rfl | rfl | rfl | rfl | rfl | rfl | rfl | rfl |
      rfl | rfl | rfl | rfl | rfl | rfl | rfl | rfl | rfl | rfl | rfl | rfl | rfl
    · exact useless_of_unread found absent rfl text_read (congrArg Assertions.title own)
    · exact useless_of_unread found absent rfl text_read (congrArg Assertions.description own)
    · exact useless_of_unread found absent rfl text_read (congrArg Assertions.reference own)
    · exact useless_of_unread found absent rfl kinds_read (congrArg Assertions.kinds own)
    · exact useless_of_unwritten found absent rfl list_read (congrArg Node.allOf same)
    · exact useless_of_unwritten found absent rfl list_read (congrArg Node.anyOf same)
    · exact useless_of_unwritten found absent rfl list_read (congrArg Node.oneOf same)
    · exact useless_of_unwritten found absent rfl object_read (congrArg Node.negation same)
    · exact useless_of_unread found absent rfl values_read (congrArg Assertions.values own)
    · exact useless_of_unread found absent rfl size_read (congrArg Assertions.maxLength own)
    · exact useless_of_unread found absent rfl size_read (congrArg Assertions.minLength own)
    · exact useless_of_unread found absent rfl text_read (congrArg Assertions.pattern own)
    · exact useless_of_unread found absent rfl number_read (congrArg Assertions.multipleOf own)
    · exact useless_of_unread found absent rfl number_read (congrArg Assertions.minimum own)
    · exact useless_of_silent found absent rfl (congrArg Assertions.exclusiveMinimum own)
    · exact useless_of_unread found absent rfl number_read (congrArg Assertions.maximum own)
    · exact useless_of_silent found absent rfl (congrArg Assertions.exclusiveMaximum own)
    · exact useless_of_unread found absent rfl size_read (congrArg Assertions.minItems own)
    · exact useless_of_unread found absent rfl size_read (congrArg Assertions.maxItems own)
    · exact useless_of_silent found absent rfl (congrArg Assertions.uniqueItems own)
    · exact .inl (useless_of_no_items same found absent)
    · exact idle_of_permitted same found absent
    · exact useless_of_unread found absent rfl size_read (congrArg Assertions.maxProperties own)
    · exact useless_of_unread found absent rfl size_read (congrArg Assertions.minProperties own)
    · exact useless_of_unread found absent rfl strings_read (congrArg Assertions.required own)
    · exact useless_of_unwritten found absent rfl named_read (congrArg Node.properties same)
    · exact useless_of_unwritten found absent rfl named_read (congrArg Node.patternProperties same)
    · exact useless_of_unwritten found absent rfl extra_read (congrArg Node.additionalProperties same)
    · exact useless_of_unwritten found absent rfl demands_read (congrArg Node.dependencies same)
    · exact useless_of_unread found absent rfl text_read (congrArg Assertions.format own)
  · refine .inl ?_
    rw [Useless, usable, member_absent listed]
    rfl

theorem schemas_same {key : String} {members members' : List (String × Json)} (position : key ∈ schemaKeys)
    (found : member? key left = some (.object members)) (found' : member? key right = some (.object members')) :
    Node.decode (.object members) = Node.decode (.object members') := by
  simp only [schemaKeys, List.mem_cons, List.not_mem_nil, or_false] at position
  rcases position with rfl | rfl | rfl | rfl
  · exact Option.some.inj (read_same found found' (congrArg Node.negation same))
  · exact Option.some.inj (read_same found found' (congrArg Node.items same))
  · have permission := congrArg Node.additionalItems same
    rw [permission_read, permission_read, found, found'] at permission
    exact Extra.schema.inj permission
  · exact Extra.schema.inj (Option.some.inj (read_same found found' (congrArg Node.additionalProperties same)))

theorem lists_same {key : String} {items items' : List Json} (position : key ∈ listKeys)
    (found : member? key left = some (.array items)) (found' : member? key right = some (.array items')) :
    List.Forall₂ (fun v w => Node.decode v = Node.decode w) items items' := by
  have nodes : (read (.array items)).list = (read (.array items')).list := by
    simp only [listKeys, List.mem_cons, List.not_mem_nil, or_false] at position
    rcases position with rfl | rfl | rfl | rfl
    · exact read_same found found' (congrArg Node.allOf same)
    · exact read_same found found' (congrArg Node.anyOf same)
    · exact read_same found found' (congrArg Node.oneOf same)
    · exact read_same found found' (congrArg Node.tupleItems same)
  rw [read, read, read_items_eq, read_items_eq] at nodes
  exact related_iff_map.mpr (Option.some.inj nodes)

end Same

theorem chosen_same {α : Type} {as bs : List (Option α)} (alike : List.Forall₂ (fun a b => a.isSome = b.isSome) as bs)
    (same : as.filterMap id = bs.filterMap id) : as = bs := by
  induction alike with
  | nil => rfl
  | @cons a b _ _ first _ ih =>
      cases a with
      | none =>
          cases b with
          | none => rw [ih same]
          | some => cases first
      | some a =>
          cases b with
          | none => cases first
          | some b =>
              obtain ⟨rfl, later⟩ := List.cons.inj same
              rw [ih later]

section Demands

variable {gone : String → Json → Prop} {v w : Json} (pruned : Pruned gone v w)
include pruned

theorem demand_remains : (read v).demand?.isSome = (read w).demand?.isSome := by
  cases pruned <;> rfl

theorem demand_same (same : (read v).demand? = (read w).demand?) : Node.decode v = Node.decode w := by
  cases pruned with
  | same => rfl
  | object => exact Demand.schema.inj (Option.some.inj same)

end Demands

section Named

variable {members members' : List (String × Json)}

theorem named_same (same : (read (.object members)).named = (read (.object members')).named) :
    List.Forall₂ (Paired fun v w => Node.decode v = Node.decode w) members members' := by
  rw [named_eq, named_eq] at same
  exact (related_iff_map.mpr (Option.some.inj same)).imp fun a b equal => Prod.mk.inj equal

theorem demands_same {gone : String → Json → Prop} (pruned : List.Forall₂ (Paired (Pruned gone)) members members')
    (same : (read (.object members)).demands = (read (.object members')).demands) :
    List.Forall₂ (Paired fun v w => Node.decode v = Node.decode w) members members' := by
  rw [demands_eq, demands_eq] at same
  have alike : List.Forall₂ (fun a b => a.isSome = b.isSome) (members.map entryDemand) (members'.map entryDemand) := by
    rw [List.forall₂_map_left_iff, List.forall₂_map_right_iff]
    refine pruned.imp fun a b ⟨_, inner⟩ => ?_
    rw [entryDemand, entryDemand, Option.isSome_map, Option.isSome_map, demand_remains inner]
  -- Keys that ask for nothing are dropped on both sides, so what the others ask for stands in line.
  have asked := related_iff_map.mpr (chosen_same alike (Option.some.inj same))
  refine (related_both pruned asked).imp fun a b ⟨⟨name, inner⟩, equal⟩ => ⟨name, ?_⟩
  rw [entryDemand, entryDemand, name] at equal
  exact demand_same inner (Option.map_injective (Prod.mk_right_injective b.1) equal)

end Named

theorem within_same {gone : String → Json → Prop} {s : Json → Json → Prop} {left right : List (String × Json)}
    (same : Node.decode (.object left) = Node.decode (.object right)) {key : String} {v w : Json}
    (found : member? key left = some v) (found' : member? key right = some w)
    (within : Within (fun v w => Pruned gone v w ∧ (Node.decode v = Node.decode w → s v w)) (key, v) (key, w)) :
    Within s (key, v) (key, w) := by
  cases within with
  | whole => exact .whole key v
  | schema position holds => exact .schema position (holds.2 (schemas_same same position found found'))
  | list position items =>
      have decoded := lists_same same position found found'
      exact .list position ((related_both items decoded).imp fun a b ⟨inner, equal⟩ => inner.2 equal)
  | @named _ members members' position names values =>
      have entries := related_pairs.mpr ⟨names, values⟩
      have decoded : List.Forall₂ (Paired fun v w => Node.decode v = Node.decode w) members members' := by
        simp only [namedKeys, List.mem_cons, List.not_mem_nil, or_false] at position
        rcases position with rfl | rfl | rfl
        · exact named_same (read_same found found' (congrArg Node.properties same))
        · exact named_same (read_same found found' (congrArg Node.patternProperties same))
        · have pruned : List.Forall₂ (Paired (Pruned gone)) members members' :=
            entries.imp fun a b paired => ⟨paired.1, paired.2.1⟩
          exact demands_same pruned (read_same found found' (congrArg Node.dependencies same))
      refine .named position names ((related_both values (related_pairs.mp decoded).2).imp fun a b ⟨inner, equal⟩ => ?_)
      exact inner.2 equal

theorem idle_of_unchanged {gone : String → Json → Prop} {v w : Json} (distinct : v.Distinct) (pruned : Pruned gone v w)
    (same : Node.decode v = Node.decode w) : Pruned Idle v w := by
  refine pruned_induction (motive := fun v w => Node.decode v = Node.decode w → Pruned Idle v w) (fun value _ => .same value)
    (fun left right apart members equal => ?_) distinct pruned same
  refine .object (thinned_again apart members (fun _ _ => idle_of_dropped equal) fun _ _ _ found found' within => ?_)
  exact within_same equal found found' within

theorem useless_members_ignored (schema : Json) (distinct : schema.Distinct) :
    (∀ pruned, Pruned Useless schema pruned → Node.decode pruned = Node.decode schema) ∧
    ∀ pruned, Pruned (fun _ _ => True) schema pruned →
      (Node.decode pruned = Node.decode schema ↔ Pruned Idle schema pruned) := by
  have ignored : ∀ pruned, Pruned Idle schema pruned → Node.decode pruned = Node.decode schema :=
    fun pruned idle => (alike_decode (decode_pruned distinct idle)).symm
  refine ⟨fun pruned useless => ignored pruned ?_, fun pruned less => ⟨fun same => ?_, ignored pruned⟩⟩
  · exact pruned_weaken distinct useless fun _ _ => .inl
  · exact idle_of_unchanged distinct less same.symm

theorem useless_members_ignored_for_places :
    let strings := ("type", Json.string "string")
    let long := ("maxLength", Json.bool true)
    let odd := ("title", Json.null)
    let schema := Json.object [odd, ("items", .object [strings, long]), ("allOf", .array [.object [long], odd.2]),
      ("dependencies", .object [("a", .object [odd])])]
    let pruned := Json.object [("items", .object [strings]), ("allOf", .array [.object [], odd.2]),
      ("dependencies", .object [("a", .object [])])]
    let less := Json.object [odd, ("allOf", .array [.object [long], odd.2]), ("dependencies", .object [("a", .object [odd])])]
    schema.Distinct ∧ Pruned Useless schema pruned ∧ Pruned (fun _ _ => True) schema less ∧
      Node.decode pruned = Node.decode schema ∧ Node.decode less ≠ Node.decode schema := by
  intro strings long odd schema pruned less
  have distinct : schema.Distinct := by simp [schema, strings, long, odd]
  have silent : Useless "title" .null ∧ Useless "maxLength" (.bool true) := ⟨rfl, rfl⟩
  have useless : Pruned Useless schema pruned := by
    refine .object (.drop silent.1 (.keep (.schema (by decide) ?_) (.keep (.list (by decide) ?_) (.keep ?_ .nil))))
    · exact .object (.keep (.whole ..) (.drop silent.2 .nil))
    · exact .cons (.object (.drop silent.2 .nil)) (.cons (.same _) .nil)
    · exact .named (by decide) rfl (.cons (.object (.drop silent.1 .nil)) .nil)
  have gone : Pruned (fun _ _ => True) schema less :=
    .object (.keep (.whole ..) (.drop trivial (.keep (.whole ..) (.keep (.whole ..) .nil))))
  obtain ⟨ignored, exact⟩ := useless_members_ignored schema distinct
  refine ⟨distinct, useless, gone, ignored pruned useless, fun same => ?_⟩
  rcases pruned_members ((exact less gone).mp same) with equal | members
  · cases congrArg List.length equal
  · rcases thinned_lookup (distinct _ (.self _)) members "items" with ⟨value, found, idle, _⟩ | related
    · cases found
      cases idle.resolve_right fun ⟨other, _⟩ => absurd other (by decide)
    · cases related

end Schema

end Conform
