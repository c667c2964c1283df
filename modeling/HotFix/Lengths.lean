import HotFix.Trees

/-!
The announced length. `calculate_length` counts every group of a map, while the
writer comes to a group only through its count field.
-/
namespace HotFix

/-! ### Maps that the operations make -/

namespace FieldMap

mutual
/-- The keys of every map are distinct. -/
def Keyed : FieldMap → Prop
  | .mk fields groups => (fields.map Field.tag).Nodup ∧ (groups.map Prod.fst).Nodup ∧ KeyedGroups groups
def KeyedGroups : List (TagU32 × List RepeatingGroup) → Prop
  | [] => True
  | (_,entries) :: rest => KeyedEntries entries ∧ KeyedGroups rest
def KeyedEntries : List RepeatingGroup → Prop
  | [] => True
  | .mk _ _ fields :: rest => Keyed fields ∧ KeyedEntries rest
end

mutual
/-- There is no field at any level. -/
def Hollow : FieldMap → Prop
  | .mk fields groups => fields = [] ∧ HollowGroups groups
def HollowGroups : List (TagU32 × List RepeatingGroup) → Prop
  | [] => True
  | (_,entries) :: rest => HollowEntries entries ∧ HollowGroups rest
def HollowEntries : List RepeatingGroup → Prop
  | [] => True
  | .mk _ _ fields :: rest => Hollow fields ∧ HollowEntries rest
end

mutual
/-- Every group has its count field, or no field at all. -/
def Counted : FieldMap → Prop
  | .mk fields groups => CountedGroups (fields.map Field.tag) groups
def CountedGroups (tags : List TagU32) : List (TagU32 × List RepeatingGroup) → Prop
  | [] => True
  | (tag,entries) :: rest => (tag ∈ tags ∧ CountedEntries entries ∨ HollowEntries entries) ∧ CountedGroups tags rest
def CountedEntries : List RepeatingGroup → Prop
  | [] => True
  | .mk _ _ fields :: rest => Counted fields ∧ CountedEntries rest
end

theorem keyedGroups_iff {groups : List (TagU32 × List RepeatingGroup)} :
    KeyedGroups groups ↔ ∀ g ∈ groups, KeyedEntries g.2 := by
  induction groups with
  | nil => simp [KeyedGroups]
  | cons g rest ih =>
    obtain ⟨tag,entries⟩ := g
    simp [KeyedGroups,ih]

theorem keyedEntries_iff {entries : List RepeatingGroup} : KeyedEntries entries ↔ ∀ g ∈ entries, g.get_fields.Keyed := by
  induction entries with
  | nil => simp [KeyedEntries]
  | cons g rest ih =>
    obtain ⟨_,_,_⟩ := g
    simp [KeyedEntries,ih,RepeatingGroup.get_fields]

theorem countedGroups_iff {tags : List TagU32} {groups : List (TagU32 × List RepeatingGroup)} :
    CountedGroups tags groups ↔ ∀ g ∈ groups, g.1 ∈ tags ∧ CountedEntries g.2 ∨ HollowEntries g.2 := by
  induction groups with
  | nil => simp [CountedGroups]
  | cons g rest ih =>
    obtain ⟨tag,entries⟩ := g
    simp [CountedGroups,ih]

/-! ### The calculated length -/

theorem field_length_pos (f : Field) : 0 < f.calculate_length := by
  rw [Field.calculate_length]
  omega

mutual
theorem hollow_iff : ∀ m : FieldMap, calculate_length [] m = 0 ↔ Hollow m
  | .mk fields groups => by
    rw [calculate_length,Hollow,Nat.add_eq_zero_iff,hollow_groups groups]
    refine and_congr_left (fun _ => ?_)
    cases fields with
    | nil => simp
    | cons f rest =>
      have positive := field_length_pos f
      simp only [List.contains_nil,Bool.not_false,List.filter_true,List.map_cons,List.sum_cons,reduceCtorEq,iff_false]
      omega
theorem hollow_groups : ∀ groups : List (TagU32 × List RepeatingGroup), groups_length groups = 0 ↔ HollowGroups groups
  | [] => by simp [groups_length,HollowGroups]
  | (tag,entries) :: rest => by
    rw [groups_length,HollowGroups,Nat.add_eq_zero_iff,hollow_entries entries,hollow_groups rest]
theorem hollow_entries : ∀ entries : List RepeatingGroup, entries_length entries = 0 ↔ HollowEntries entries
  | [] => by simp [entries_length,HollowEntries]
  | .mk _ _ fields :: rest => by
    rw [entries_length,HollowEntries,Nat.add_eq_zero_iff,hollow_iff fields,hollow_entries rest]
end

/-- The fields that the writer comes to, of the groups under some tags. -/
def reached_length (tags : List TagU32) (groups : List (TagU32 × List RepeatingGroup)) : Nat :=
  ((groups.filter (fun g => tags.contains g.1)).map (fun g => fields_length (Item.flatten_entries (entry_trees g.2)))).sum

theorem reached_length_cons (tags : List TagU32) (tag : TagU32) (entries : List RepeatingGroup)
    (rest : List (TagU32 × List RepeatingGroup)) :
    reached_length tags ((tag,entries) :: rest) =
      (if tag ∈ tags then fields_length (Item.flatten_entries (entry_trees entries)) else 0) + reached_length tags rest := by
  rw [reached_length,List.filter_cons]
  by_cases listed : tag ∈ tags
  · simp [listed,reached_length]
  · simp [listed,reached_length]

/-- The length of what is written of some fields and of the groups under their tags. -/
theorem written_length {fields : List Field} {groups : List (TagU32 × List RepeatingGroup)} (distinct : (fields.map Field.tag).Nodup)
    (keys : (groups.map Prod.fst).Nodup) :
    fields_length (Item.flatten_items
        (fields.map (fun f => item_of f ((IndexMap.get Prod.fst f.tag (group_trees groups)).map Prod.snd)))) =
      fields_length fields + reached_length (fields.map Field.tag) groups := by
  have keys' : ((group_trees groups).map Prod.fst).Nodup := by
    rwa [group_trees_eq,List.map_map]
  have found := (IndexMap.chosen_perm distinct keys').map (fun g => fields_length (Item.flatten_entries g.2))
  rw [flatten_length,found.sum_nat,group_trees_eq,List.filter_map,List.map_map,reached_length]
  rfl

mutual
/-- At most the calculated length is written, and exactly that when every group has its
    count field. -/
theorem length_iff : ∀ m : FieldMap, m.Keyed → fields_length (Item.flatten_items m.tree) ≤ calculate_length [] m ∧
    (calculate_length [] m = fields_length (Item.flatten_items m.tree) ↔ m.Counted)
  | .mk fields groups,keyed => by
    obtain ⟨distinct,keys,inside⟩ := keyed
    obtain ⟨below,exact⟩ := groups_iff groups inside (fields.map Field.tag)
    have all : ((fields.filter (fun f => !([] : List TagU32).contains f.tag)).map Field.calculate_length).sum = fields_length fields := by
      simp [fields_length]
    rw [calculate_length,all,tree,written_length distinct keys,Counted,← exact]
    omega
theorem groups_iff : ∀ groups : List (TagU32 × List RepeatingGroup), KeyedGroups groups → ∀ tags,
    reached_length tags groups ≤ groups_length groups ∧
      (groups_length groups = reached_length tags groups ↔ CountedGroups tags groups)
  | [],_,tags => by simp [reached_length,groups_length,CountedGroups]
  | (tag,entries) :: rest,keyed,tags => by
    obtain ⟨below,exact⟩ := entries_iff entries keyed.1
    obtain ⟨below_rest,exact_rest⟩ := groups_iff rest keyed.2 tags
    rw [reached_length_cons,groups_length,CountedGroups,← exact_rest,← exact,← hollow_entries]
    by_cases listed : tag ∈ tags
    · simp only [listed,if_true,true_and]
      omega
    · simp only [listed,if_false,false_and,false_or]
      omega
theorem entries_iff : ∀ entries : List RepeatingGroup, KeyedEntries entries →
    fields_length (Item.flatten_entries (entry_trees entries)) ≤ entries_length entries ∧
      (entries_length entries = fields_length (Item.flatten_entries (entry_trees entries)) ↔ CountedEntries entries)
  | [],_ => by simp [entries_length,entry_trees,Item.flatten_entries,fields_length,CountedEntries]
  | .mk _ _ fields :: rest,keyed => by
    obtain ⟨below,exact⟩ := length_iff fields keyed.1
    obtain ⟨below_rest,exact_rest⟩ := entries_iff rest keyed.2
    rw [entries_length,entry_trees,Item.flatten_entries,fields_length_append,CountedEntries,← exact,← exact_rest]
    omega
end

/-- What is written of a map, its first fields in front. -/
theorem write_ordered (separator : UInt8) (tags : List TagU32) (m : FieldMap) : m.write separator tags = wire_bytes separator
    (Item.flatten_items ((tags.filterMap (fun tag => IndexMap.get Field.tag tag m.fields) ++
      m.fields.filter (fun f => !tags.contains f.tag)).map
        (fun f => item_of f ((IndexMap.get Prod.fst f.tag (group_trees m.groups)).map Prod.snd)))) := by
  obtain ⟨fields,groups⟩ := m
  rw [write,write_groups_eq separator groups,flatten_items_eq,List.flatMap_map,wire_bytes,List.flatMap_assoc]
  exact List.flatMap_congr (fun f _ => write_field_eq separator f (group_trees groups))

end FieldMap

/-! ### The parts of a frame -/

namespace Message
open FieldMap
variable {m : Message}

/-- A field of the header, with what is written of its group. -/
def header_item (m : Message) (f : Field) : Item :=
  item_of f ((IndexMap.get Prod.fst f.tag (group_trees m.header.groups)).map Prod.snd)

/-- The BeginString, as it is written. -/
def opening (m : Message) (separator : UInt8) : Bytes :=
  wire_bytes separator (Item.flatten_items ((IndexMap.get Field.tag BEGIN_STRING.tag m.header.fields).toList.map m.header_item))

/-- What is written of the group under BodyLength. -/
def length_entries (m : Message) : List Field :=
  Item.flatten_entries (((IndexMap.get Prod.fst BODY_LENGTH.tag (group_trees m.header.groups)).map Prod.snd).getD [])

/-- The MsgType and the fields of the header behind it. -/
def later_fields (m : Message) : List Field :=
  (IndexMap.get Field.tag MSG_TYPE.tag m.header.fields).toList ++
    m.header.fields.filter (fun f => !starting_fields.contains f.tag)

/-- What is written between the BodyLength and the checksum. -/
def between (m : Message) (separator : UInt8) : Bytes :=
  wire_bytes separator (m.length_entries ++ Item.flatten_items (m.later_fields.map m.header_item)) ++
    (m.body.write separator [] ++ (m.trailer.pop CHECK_SUM.tag).2.write separator [])

/-- The BodyLength as a field. -/
def length_field (n : Nat) : Field := ⟨BODY_LENGTH.tag,Decimal.decimal n⟩

theorem length_item (m : Message) (n : Nat) : (m.header_item (length_field n)).flatten = length_field n :: m.length_entries := by
  rw [header_item,length_entries,show (length_field n).tag = BODY_LENGTH.tag from rfl]
  cases IndexMap.get Prod.fst BODY_LENGTH.tag (group_trees m.header.groups) with
  | none => rfl
  | some g => rfl

/-- The header fields with their new length, those in front first. -/
theorem header_ordered (m : Message) (n : Nat) :
    starting_fields.filterMap (fun tag => IndexMap.get Field.tag tag (m.header.set BODY_LENGTH (Decimal.decimal n)).fields) ++
        (m.header.set BODY_LENGTH (Decimal.decimal n)).fields.filter (fun f => !starting_fields.contains f.tag) =
      (IndexMap.get Field.tag BEGIN_STRING.tag m.header.fields).toList ++ length_field n :: m.later_fields := by
  have fields : (m.header.set BODY_LENGTH (Decimal.decimal n)).fields = IndexMap.insert Field.tag (length_field n) m.header.fields :=
    insertField_eq _ _
  have found (tag : TagU32) : IndexMap.get Field.tag tag (IndexMap.insert Field.tag (length_field n) m.header.fields) =
      if BODY_LENGTH.tag = tag then some (length_field n) else IndexMap.get Field.tag tag m.header.fields :=
    IndexMap.get_insert (length_field n) tag m.header.fields
  have first := found BEGIN_STRING.tag
  have second := found BODY_LENGTH.tag
  have third := found MSG_TYPE.tag
  rw [if_neg (show BODY_LENGTH.tag ≠ BEGIN_STRING.tag by decide)] at first
  rw [if_pos rfl] at second
  rw [if_neg (show BODY_LENGTH.tag ≠ MSG_TYPE.tag by decide)] at third
  have others := @IndexMap.filter_insert _ _ _ Field.tag (length_field n) (fun f => !starting_fields.contains f.tag) m.header.fields
    (by
      intro f same
      rw [show f.tag = BODY_LENGTH.tag from same]
      decide)
  rw [fields,others,later_fields]
  simp only [starting_fields,List.filterMap_cons,List.filterMap_nil,first,second,third]
  cases IndexMap.get Field.tag BEGIN_STRING.tag m.header.fields <;>
    cases IndexMap.get Field.tag MSG_TYPE.tag m.header.fields <;> rfl

/-- The length stands behind the BeginString, the rest behind the length. -/
theorem front_parts (m : Message) (separator : UInt8) (n : Nat) :
    m.front separator n = m.opening separator ++ (write_field separator (length_field n) ++ m.between separator) := by
  have groups : (m.header.set BODY_LENGTH (Decimal.decimal n)).groups = m.header.groups := rfl
  rw [front,write_ordered,header_ordered,groups,List.map_append,List.map_cons,flatten_items_eq,List.flatMap_append,
    List.flatMap_cons,wire_bytes_append]
  change _ ++ wire_bytes separator ((m.header_item (length_field n)).flatten ++ _) ++ _ ++ _ = _
  rw [length_item,List.cons_append,opening,flatten_items_eq,between,flatten_items_eq]
  simp only [wire_bytes,List.flatMap_cons,List.append_assoc]
  rfl

/-- The fields that are counted are those written behind the length. -/
theorem later_perm (distinct : (m.header.fields.map Field.tag).Nodup) :
    m.later_fields.Perm (m.header.fields.filter (fun f => !(([BEGIN_STRING.tag,BODY_LENGTH.tag] : List TagU32).contains f.tag))) := by
  have fields : (m.header.set BODY_LENGTH (Decimal.decimal 0)).fields = IndexMap.insert Field.tag (length_field 0) m.header.fields :=
    insertField_eq _ _
  have ordered := IndexMap.ordered_perm (show starting_fields.Nodup by decide)
    (show ((m.header.set BODY_LENGTH (Decimal.decimal 0)).fields.map Field.tag).Nodup by
      rw [fields]
      exact IndexMap.nodup_insert _ distinct)
  rw [header_ordered,fields] at ordered
  have counted := ordered.filter (fun f => !(([BEGIN_STRING.tag,BODY_LENGTH.tag] : List TagU32).contains f.tag))
  rw [IndexMap.filter_insert _ (by
    intro f same
    rw [show f.tag = BODY_LENGTH.tag from same]
    decide),List.filter_append,List.filter_cons_of_neg (by simp [length_field])] at counted
  have first : (IndexMap.get Field.tag BEGIN_STRING.tag m.header.fields).toList.filter
      (fun f => !(([BEGIN_STRING.tag,BODY_LENGTH.tag] : List TagU32).contains f.tag)) = [] := by
    rw [List.filter_eq_nil_iff]
    intro f member
    rw [(IndexMap.mem_of_get (Option.mem_toList.mp member)).2]
    decide
  have others : m.later_fields.filter (fun f => !(([BEGIN_STRING.tag,BODY_LENGTH.tag] : List TagU32).contains f.tag)) = m.later_fields := by
    rw [List.filter_eq_self]
    intro f member
    rcases List.mem_append.mp member with third | other
    · rw [(IndexMap.mem_of_get (Option.mem_toList.mp third)).2]
      decide
    · have outside := (List.mem_filter.mp other).2
      simp only [starting_fields,List.contains_cons,List.contains_nil,Bool.or_false,Bool.not_or,Bool.and_eq_true] at outside ⊢
      exact ⟨outside.1,outside.2.1⟩
  rwa [first,others,List.nil_append] at counted

/-- Groups of the header that are written behind the length: those under BodyLength or
    another field, but not under BeginString. -/
def HeaderCounted (m : FieldMap) : Prop :=
  CountedGroups (BODY_LENGTH.tag :: (m.fields.map Field.tag).filter (fun tag => tag ≠ BEGIN_STRING.tag)) m.groups

theorem headerCounted_iff (distinct : (m.header.fields.map Field.tag).Nodup) :
    CountedGroups (BODY_LENGTH.tag :: m.later_fields.map Field.tag) m.header.groups ↔ HeaderCounted m.header := by
  have same (tag : TagU32) : tag ∈ BODY_LENGTH.tag :: m.later_fields.map Field.tag ↔
      tag ∈ BODY_LENGTH.tag :: (m.header.fields.map Field.tag).filter (fun tag => tag ≠ BEGIN_STRING.tag) := by
    have perm := ((later_perm distinct).map Field.tag).mem_iff (a := tag)
    rw [List.mem_cons,List.mem_cons,perm]
    by_cases length : tag = BODY_LENGTH.tag
    · simp [length]
    · simp only [length,false_or,List.mem_map,List.mem_filter]
      constructor
      · rintro ⟨f,⟨member,outside⟩,rfl⟩
        exact ⟨⟨f,member,rfl⟩,by simp at outside; simpa using outside.1⟩
      · rintro ⟨⟨f,member,rfl⟩,outside⟩
        exact ⟨f,⟨member,by simp at outside; simpa using ⟨outside,length⟩⟩,rfl⟩
  rw [HeaderCounted,countedGroups_iff,countedGroups_iff]
  simp only [same]

/-- What is written of the header behind the length. -/
theorem header_between (keyed : m.header.Keyed) :
    fields_length (m.length_entries ++ Item.flatten_items (m.later_fields.map m.header_item)) =
      fields_length m.later_fields + reached_length (BODY_LENGTH.tag :: m.later_fields.map Field.tag) m.header.groups := by
  obtain ⟨distinct,keys⟩ : (m.header.fields.map Field.tag).Nodup ∧ (m.header.groups.map Prod.fst).Nodup := by
    obtain ⟨⟨fields,groups⟩,_,_⟩ := m
    exact ⟨keyed.1,keyed.2.1⟩
  have later_distinct : ((length_field 0 :: m.later_fields).map Field.tag).Nodup := by
    have perm := (later_perm distinct).map Field.tag
    rw [List.map_cons,List.nodup_cons,perm.nodup_iff,perm.mem_iff]
    refine ⟨?_,(List.filter_sublist.map _).nodup distinct⟩
    rw [List.mem_map]
    rintro ⟨f,member,same⟩
    have outside := (List.mem_filter.mp member).2
    rw [same] at outside
    exact absurd outside (by decide)
  have written := written_length later_distinct keys
  rw [List.map_cons,Item.flatten_items,fields_length_append] at written
  change fields_length (m.header_item (length_field 0)).flatten + fields_length (Item.flatten_items (m.later_fields.map m.header_item)) = _ at written
  rw [length_item] at written
  rw [fields_length_append]
  simp only [fields_length,List.map_cons,List.sum_cons] at written ⊢
  have tag : (length_field 0).tag = BODY_LENGTH.tag := rfl
  rw [tag] at written
  omega

/-- The keys of all parts are distinct, and the trailer has no groups. -/
structure Keyed (m : Message) : Prop where
  header : m.header.Keyed
  body : m.body.Keyed
  trailer_distinct : (m.trailer.fields.map Field.tag).Nodup
  trailer_flat : m.trailer.groups = []

theorem calculate_skip (skip : List TagU32) (m : FieldMap) :
    FieldMap.calculate_length skip m = fields_length (m.fields.filter (fun f => !skip.contains f.tag)) + groups_length m.groups := by
  obtain ⟨fields,groups⟩ := m
  rfl

/-- The trailer is counted as it is written. -/
theorem trailer_length (keyed : m.Keyed) (separator : UInt8) :
    ((m.trailer.pop CHECK_SUM.tag).2.write separator []).length = FieldMap.calculate_length [CHECK_SUM.tag] (m.trailer.pop CHECK_SUM.tag).2 := by
  have flat : ((m.trailer.pop CHECK_SUM.tag).2).groups = [] := keyed.trailer_flat
  have left : ∀ f ∈ ((m.trailer.pop CHECK_SUM.tag).2).fields, f.tag ≠ CHECK_SUM.tag :=
    IndexMap.erase_distinct keyed.trailer_distinct
  have kept : ((m.trailer.pop CHECK_SUM.tag).2).fields.filter (fun f => !(([CHECK_SUM.tag] : List TagU32).contains f.tag)) =
      ((m.trailer.pop CHECK_SUM.tag).2).fields :=
    List.filter_eq_self.mpr (fun f member => by simp [left f member])
  rw [write_flat flat,wire_bytes_length,length_flat flat,kept]
  simp

/-- The announced length against what is written. -/
theorem announced_eq_iff (keyed : m.Keyed) (separator : UInt8) :
    m.announced = (m.between separator).length ↔ HeaderCounted m.header ∧ m.body.Counted := by
  obtain ⟨distinct,inside⟩ : (m.header.fields.map Field.tag).Nodup ∧ KeyedGroups m.header.groups := by
    have header := keyed.header
    obtain ⟨⟨fields,groups⟩,_,_⟩ := m
    exact ⟨header.1,header.2.2⟩
  obtain ⟨header_below,header_exact⟩ := groups_iff m.header.groups inside (BODY_LENGTH.tag :: m.later_fields.map Field.tag)
  obtain ⟨body_below,body_exact⟩ := length_iff m.body keyed.body
  have counted : fields_length (m.header.fields.filter (fun f => !(([BEGIN_STRING.tag,BODY_LENGTH.tag] : List TagU32).contains f.tag))) =
      fields_length m.later_fields :=
    (((later_perm distinct).map Field.calculate_length).sum_nat).symm
  rw [announced,calculate_skip,counted,between,List.length_append,List.length_append,wire_bytes_length,header_between keyed.header,
    write_eq,wire_bytes_length,trailer_length keyed,← headerCounted_iff distinct,← header_exact,← body_exact]
  omega

/-! ### Messages that an application makes -/

mutual
/-- One call of an operation of `Part`. -/
inductive PartStep : FieldMap → FieldMap → Prop where
  | store_field (m : FieldMap) (f : Field) : PartStep m (m.insert f)
  | pop (m : FieldMap) (tag : TagU32) : PartStep m (m.pop tag).2
  | set_groups {m m' : FieldMap} {groups : List RepeatingGroup} (made : ∀ g ∈ groups, MadeGroup g)
    (done : m.set_groups groups = .ok m') : PartStep m m'
/-- A group that was created empty and changed by such calls. -/
inductive MadeGroup : RepeatingGroup → Prop where
  | new (start_tag delimiter_tag : TagU32) : MadeGroup (.new_with_tags start_tag delimiter_tag)
  | step {start_tag delimiter_tag : TagU32} {m m' : FieldMap} (made : MadeGroup (.mk start_tag delimiter_tag m))
    (step : PartStep m m') : MadeGroup (.mk start_tag delimiter_tag m')
end

/-- A message that the public operations lead to. -/
inductive Built : Message → Prop where
  | new (begin_string message_type : Bytes) : Built (Message.new begin_string message_type)
  | set {m : Message} (built : Built m) (field : FieldDefinition) (value : Bytes) : Built (m.set field value)
  | header {m : Message} {header : FieldMap} (built : Built m) (step : PartStep m.header header) : Built { m with header := header }
  | body {m : Message} {body : FieldMap} (built : Built m) (step : PartStep m.body body) : Built { m with body := body }
  | encode {m : Message} (built : Built m) (config : Config) : Built (m.encode config).1

theorem keyed_insert {m : FieldMap} (keyed : m.Keyed) (f : Field) : (m.insert f).Keyed := by
  obtain ⟨fields,groups⟩ := m
  obtain ⟨distinct,keys,inside⟩ := keyed
  refine ⟨?_,keys,inside⟩
  rw [insertField_eq]
  exact IndexMap.nodup_insert f distinct

theorem keyed_pop {m : FieldMap} (keyed : m.Keyed) (tag : TagU32) : (m.pop tag).2.Keyed := by
  obtain ⟨fields,groups⟩ := m
  obtain ⟨distinct,keys,inside⟩ := keyed
  exact ⟨(List.eraseP_sublist.map _).nodup distinct,keys,inside⟩

theorem keyed_set_groups {m m' : FieldMap} {groups : List RepeatingGroup} (keyed : m.Keyed)
    (entries : ∀ g ∈ groups, g.get_fields.Keyed) (done : m.set_groups groups = .ok m') : m'.Keyed := by
  obtain ⟨start_tag,rfl⟩ : ∃ start_tag, m' = m.insert_groups start_tag groups := by
    unfold FieldMap.set_groups at done
    split at done
    · cases done
    · split_ifs at done
      cases done
      exact ⟨_,rfl⟩
  obtain ⟨fields,others⟩ := m
  obtain ⟨distinct,keys,inside⟩ := keyed
  refine ⟨distinct,IndexMap.nodup_insert _ keys,keyedGroups_iff.mpr ?_⟩
  intro g member
  rcases IndexMap.mem_insert member with rfl | there
  · exact keyedEntries_iff.mpr entries
  · exact keyedGroups_iff.mp inside g there

mutual
theorem PartStep.keyed : ∀ {m m' : FieldMap}, PartStep m m' → m.Keyed → m'.Keyed
  | _,_,.store_field _ f,keyed => keyed_insert keyed f
  | _,_,.pop _ tag,keyed => keyed_pop keyed tag
  | _,_,.set_groups made done,keyed => keyed_set_groups keyed (fun g member => (made g member).keyed) done
theorem MadeGroup.keyed : ∀ {g : RepeatingGroup}, MadeGroup g → g.get_fields.Keyed
  | _,.new _ _ => ⟨List.nodup_nil,List.nodup_nil,trivial⟩
  | _,.step made step => step.keyed made.keyed
end

theorem keyed_set (keyed : m.Keyed) (field : FieldDefinition) (value : Bytes) : (m.set field value).Keyed := by
  obtain ⟨header,body,trailer_distinct,trailer_flat⟩ := keyed
  rw [Message.set]
  cases field.location with
  | Header => exact ⟨keyed_insert header _,body,trailer_distinct,trailer_flat⟩
  | Body => exact ⟨header,keyed_insert body _,trailer_distinct,trailer_flat⟩
  | Trailer =>
    refine ⟨header,body,?_,trailer_flat⟩
    change ((insertField _ m.trailer.fields).map Field.tag).Nodup
    rw [insertField_eq]
    exact IndexMap.nodup_insert _ trailer_distinct

theorem Built.keyed (built : Built m) : m.Keyed := by
  induction built with
  | new begin_string message_type =>
    have empty : FieldMap.empty.Keyed := ⟨List.nodup_nil,List.nodup_nil,trivial⟩
    have initial : (⟨FieldMap.empty,FieldMap.empty,FieldMap.empty⟩ : Message).Keyed := ⟨empty,empty,List.nodup_nil,rfl⟩
    exact keyed_set (keyed_set initial BEGIN_STRING begin_string) MSG_TYPE message_type
  | set _ field value ih => exact keyed_set ih field value
  | header _ step ih => exact { ih with header := step.keyed ih.header }
  | body _ step ih => exact { ih with body := step.keyed ih.body }
  | @encode m _ config ih =>
    have popped : ({ m with trailer := (m.trailer.pop CHECK_SUM.tag).2 } : Message).Keyed :=
      ⟨ih.header,ih.body,(List.eraseP_sublist.map _).nodup ih.trailer_distinct,ih.trailer_flat⟩
    exact keyed_set (keyed_set popped BODY_LENGTH _) CHECK_SUM _

/-- The length that a message announces, and when it is that of what follows. -/
theorem announced_iff (built : Built m) (config : Config) :
    (m.encode config).2 = m.opening config.separator ++ (write_field config.separator (length_field m.announced) ++
        (m.between config.separator ++ write_field config.separator
          ⟨CHECK_SUM.tag,three_digits (CheckSum.compute (m.front config.separator m.announced)).toNat⟩)) ∧
      (m.announced = (m.between config.separator).length ↔ HeaderCounted m.header ∧ m.body.Counted) := by
  refine ⟨?_,announced_eq_iff built.keyed config.separator⟩
  rw [encode_front]
  nth_rewrite 1 [front_parts]
  simp only [List.append_assoc]

/-- A party, in a group that has no count field. -/
def party : RepeatingGroup :=
  .mk SmallDictionary.NO_PARTY_IDS SmallDictionary.PARTY_ID (FieldMap.empty.insert ⟨SmallDictionary.PARTY_ID,ascii "a"⟩)

def uncounted : Message :=
  { Message.new (ascii "F") (ascii "B") with body := .mk [] [(SmallDictionary.NO_PARTY_IDS,[party])] }

theorem uncounted_built : Built uncounted := by
  have made : ∀ g ∈ [party], MadeGroup g := by
    intro g member
    rw [List.mem_singleton.mp member]
    exact .step (.new _ _) (.store_field _ _)
  exact Built.body (Built.new (ascii "F") (ascii "B")) (.set_groups made rfl)

theorem uncounted_announced_iff : Built uncounted ∧
    (uncounted.encode Config.default).2 = uncounted.opening SOH ++ (write_field SOH (length_field uncounted.announced) ++
        (uncounted.between SOH ++ write_field SOH
          ⟨CHECK_SUM.tag,three_digits (CheckSum.compute (uncounted.front SOH uncounted.announced)).toNat⟩)) ∧
      (uncounted.announced = (uncounted.between SOH).length ↔ HeaderCounted uncounted.header ∧ uncounted.body.Counted) :=
  ⟨uncounted_built,announced_iff uncounted_built Config.default⟩

/-- Six bytes are announced that are never written. -/
theorem uncounted_announced : ¬ ∀ (m : Message) (config : Config), Built m →
    m.announced = (m.between config.separator).length := by
  intro right
  exact absurd (right uncounted Config.default uncounted_built) (by decide +kernel)

end Message
end HotFix
