import HotFix.Accounting

/-!
Maps as trees. The tree of a map is its fields in order, each with the entries of
its group; what is written of a map are the fields of its tree. Storing a tree gives
a map with the same fields and the same entries.
-/
namespace HotFix

namespace FieldMap

/-- The tag that the first entry starts with. -/
def first_tag (count : TagU32) : List (List Item) → TagU32
  | (item :: _) :: _ => item.tag
  | _ => count

/-- A field with the entries of its group, if it has one. -/
def item_of (f : Field) : Option (List (List Item)) → Item
  | some entries => .group f (first_tag f.tag entries) entries
  | none => .plain f

mutual
/-- The fields of a map in order, each with the entries of its group. -/
def tree : FieldMap → List Item
  | .mk fields groups =>
    let trees := group_trees groups
    fields.map (fun f => item_of f ((IndexMap.get Prod.fst f.tag trees).map Prod.snd))
def group_trees : List (TagU32 × List RepeatingGroup) → List (TagU32 × List (List Item))
  | [] => []
  | (tag,entries) :: rest => (tag,entry_trees entries) :: group_trees rest
def entry_trees : List RepeatingGroup → List (List Item)
  | [] => []
  | .mk _ _ fields :: rest => tree fields :: entry_trees rest
end

theorem group_trees_eq (groups : List (TagU32 × List RepeatingGroup)) :
    group_trees groups = groups.map (fun g => (g.1,entry_trees g.2)) := by
  induction groups with
  | nil => rfl
  | cons g rest ih =>
    obtain ⟨tag,entries⟩ := g
    rw [group_trees,ih,List.map_cons]

theorem tree_eq (m : FieldMap) : m.tree = m.fields.map (fun f => item_of f ((m.get_groups f.tag).map entry_trees)) := by
  obtain ⟨fields,groups⟩ := m
  rw [tree]
  refine List.map_congr_left (fun f _ => ?_)
  rw [group_trees_eq,IndexMap.get,List.find?_map,get_groups,IndexMap.get,Option.map_map,Option.map_map]
  rfl

/-! ### What is written -/

theorem flatten_items_eq (items : List Item) : Item.flatten_items items = items.flatMap Item.flatten := by
  induction items with
  | nil => rfl
  | cons item rest ih => rw [Item.flatten_items,ih,List.flatMap_cons]

/-- The bytes of fields, one after the other. -/
def wire_bytes (separator : UInt8) (fields : List Field) : Bytes := fields.flatMap (write_field separator)

theorem wire_bytes_append (separator : UInt8) (fields more : List Field) :
    wire_bytes separator (fields ++ more) = wire_bytes separator fields ++ wire_bytes separator more :=
  List.flatMap_append

theorem write_field_eq (separator : UInt8) (f : Field) (trees : List (TagU32 × List (List Item))) :
    write_field separator f ++
        (((trees.map (fun g => (g.1,wire_bytes separator (Item.flatten_entries g.2)))).find? (fun g => g.1 = f.tag)).map
          Prod.snd).getD [] =
      wire_bytes separator (item_of f ((IndexMap.get Prod.fst f.tag trees).map Prod.snd)).flatten := by
  rw [List.find?_map,IndexMap.get]
  dsimp only [Function.comp_def]
  cases trees.find? (fun g => g.1 = f.tag) with
  | none => simp [item_of,Item.flatten,wire_bytes]
  | some g => simp [item_of,Item.flatten,wire_bytes]

mutual
/-- A map is written as the fields of its tree. -/
theorem write_eq (separator : UInt8) : ∀ m : FieldMap, m.write separator [] = wire_bytes separator (Item.flatten_items m.tree)
  | .mk fields groups => by
    rw [write,write_groups_eq separator groups,tree,flatten_items_eq,List.flatMap_map,wire_bytes,List.flatMap_assoc]
    simp only [List.filterMap_nil,List.nil_append,List.contains_nil,Bool.not_false,List.filter_true]
    refine List.flatMap_congr (fun f _ => write_field_eq separator f (group_trees groups))
theorem write_groups_eq (separator : UInt8) : ∀ groups : List (TagU32 × List RepeatingGroup),
    write_groups separator groups = (group_trees groups).map (fun g => (g.1,wire_bytes separator (Item.flatten_entries g.2)))
  | [] => rfl
  | (tag,entries) :: rest => by
    rw [write_groups,write_groups_eq separator rest,write_entries_eq separator entries,group_trees,List.map_cons]
theorem write_entries_eq (separator : UInt8) : ∀ entries : List RepeatingGroup,
    write_entries separator entries = wire_bytes separator (Item.flatten_entries (entry_trees entries))
  | [] => rfl
  | .mk _ _ fields :: rest => by
    rw [write_entries,write_eq separator fields,write_entries_eq separator rest,entry_trees,Item.flatten_entries,
      wire_bytes_append]
end

/-! ### The length of what is written -/

mutual
/-- The keys are distinct, and every group has its count field. -/
def Tidy : FieldMap → Prop
  | .mk fields groups => (fields.map Field.tag).Nodup ∧ (groups.map Prod.fst).Nodup ∧
      (∀ g ∈ groups, g.1 ∈ fields.map Field.tag) ∧ TidyGroups groups
def TidyGroups : List (TagU32 × List RepeatingGroup) → Prop
  | [] => True
  | (_,entries) :: rest => TidyEntries entries ∧ TidyGroups rest
def TidyEntries : List RepeatingGroup → Prop
  | [] => True
  | .mk _ _ fields :: rest => Tidy fields ∧ TidyEntries rest
end

theorem tidyGroups_iff {groups : List (TagU32 × List RepeatingGroup)} :
    TidyGroups groups ↔ ∀ g ∈ groups, TidyEntries g.2 := by
  induction groups with
  | nil => simp [TidyGroups]
  | cons g rest ih =>
    obtain ⟨tag,entries⟩ := g
    simp [TidyGroups,ih]

/-- The length of fields, as it is calculated. -/
def fields_length (fields : List Field) : Nat := (fields.map Field.calculate_length).sum

theorem wire_bytes_length (separator : UInt8) (fields : List Field) :
    (wire_bytes separator fields).length = fields_length fields := by
  induction fields with
  | nil => rfl
  | cons f rest ih =>
    simp only [wire_bytes,List.flatMap_cons,List.length_append,fields_length,List.map_cons,List.sum_cons] at ih ⊢
    rw [ih]
    simp only [write_field,Field.calculate_length,List.length_append,List.length_cons,List.length_nil]
    omega

theorem fields_length_append (fields more : List Field) :
    fields_length (fields ++ more) = fields_length fields + fields_length more := by
  simp [fields_length]

mutual
/-- The calculated length of a map counts its fields and those of its groups. -/
theorem length_all : ∀ m : FieldMap, calculate_length [] m = fields_length m.all
  | .mk fields groups => by
    rw [calculate_length,all,fields_length_append,groups_length_all groups]
    simp [fields_length]
theorem groups_length_all : ∀ groups : List (TagU32 × List RepeatingGroup), groups_length groups = fields_length (all_groups groups)
  | [] => rfl
  | (tag,entries) :: rest => by
    rw [groups_length,entries_length_all entries,groups_length_all rest,all_groups,fields_length_append]
theorem entries_length_all : ∀ entries : List RepeatingGroup, entries_length entries = fields_length (all_entries entries)
  | [] => rfl
  | .mk _ _ fields :: rest => by
    rw [entries_length,length_all fields,entries_length_all rest,all_entries,fields_length_append]
end

/-- The fields of a tree are its own with those of the groups that they count. -/
theorem flatten_perm (fields : List Field) (trees : List (TagU32 × List (List Item))) :
    (Item.flatten_items (fields.map (fun f => item_of f ((IndexMap.get Prod.fst f.tag trees).map Prod.snd)))).Perm
      (fields ++ ((fields.map Field.tag).filterMap (fun tag => IndexMap.get Prod.fst tag trees)).flatMap
        (fun g => Item.flatten_entries g.2)) := by
  induction fields with
  | nil => exact List.Perm.refl _
  | cons f rest ih =>
    rw [List.map_cons,Item.flatten_items,List.map_cons,List.filterMap_cons]
    cases IndexMap.get Prod.fst f.tag trees with
    | none => exact ih.cons f
    | some g => exact ((ih.append_left _).trans (List.perm_append_comm_assoc _ _ _)).cons f

theorem flatten_length (fields : List Field) (trees : List (TagU32 × List (List Item))) :
    fields_length (Item.flatten_items (fields.map (fun f => item_of f ((IndexMap.get Prod.fst f.tag trees).map Prod.snd)))) =
      fields_length fields + (((fields.map Field.tag).filterMap (fun tag => IndexMap.get Prod.fst tag trees)).map
        (fun g => fields_length (Item.flatten_entries g.2))).sum := by
  have groups (gs : List (TagU32 × List (List Item))) : fields_length (gs.flatMap (fun g => Item.flatten_entries g.2)) =
      (gs.map (fun g => fields_length (Item.flatten_entries g.2))).sum := by
    induction gs with
    | nil => rfl
    | cons g rest ih => rw [List.flatMap_cons,fields_length_append,ih,List.map_cons,List.sum_cons]
  rw [← groups,← fields_length_append]
  exact ((flatten_perm fields trees).map Field.calculate_length).sum_nat

mutual
/-- The tree of a tidy map has the fields of the map, with those of its groups. -/
theorem tree_perm : ∀ m : FieldMap, m.Tidy → (Item.flatten_items m.tree).Perm m.all
  | .mk fields groups,tidy => by
    obtain ⟨distinct,keys,counted,inside⟩ := tidy
    have keys' : ((group_trees groups).map Prod.fst).Nodup := by
      rwa [group_trees_eq,List.map_map]
    have counted' : ∀ g ∈ group_trees groups, g.1 ∈ fields.map Field.tag := by
      rw [group_trees_eq]
      intro g member
      obtain ⟨h,there,rfl⟩ := List.mem_map.mp member
      exact counted h there
    have chosen := IndexMap.chosen_perm distinct keys'
    rw [List.filter_eq_self.mpr (fun g member => List.contains_iff_mem.mpr (counted' g member))] at chosen
    rw [tree,all]
    exact (flatten_perm fields _).trans (((chosen.flatMap_right _).trans (groups_perm groups inside)).append_left fields)
theorem groups_perm : ∀ groups : List (TagU32 × List RepeatingGroup), TidyGroups groups →
    ((group_trees groups).flatMap (fun g => Item.flatten_entries g.2)).Perm (all_groups groups)
  | [],_ => List.Perm.refl _
  | (tag,entries) :: rest,tidy => by
    rw [group_trees,List.flatMap_cons,all_groups]
    exact (entries_perm entries tidy.1).append (groups_perm rest tidy.2)
theorem entries_perm : ∀ entries : List RepeatingGroup, TidyEntries entries →
    (Item.flatten_entries (entry_trees entries)).Perm (all_entries entries)
  | [],_ => List.Perm.refl _
  | .mk _ _ fields :: rest,tidy => by
    rw [entry_trees,Item.flatten_entries,all_entries]
    exact (tree_perm fields tidy.1).append (entries_perm rest tidy.2)
end
/-- The calculated length of a tidy map is that of the fields of its tree. -/
theorem length_eq (m : FieldMap) (tidy : m.Tidy) : calculate_length [] m = fields_length (Item.flatten_items m.tree) := by
  rw [length_all]
  exact ((tree_perm m tidy).map Field.calculate_length).sum_nat.symm

/-! ### What is stored -/

mutual
/-- The same fields in the same order, and the same entries under every tag. -/
inductive Same : FieldMap → FieldMap → Prop where
  | intro {m m' : FieldMap} (fields : m.fields = m'.fields)
    (groups : ∀ tag, SameGroups (m.get_groups tag) (m'.get_groups tag)) : Same m m'
inductive SameGroups : Option (List RepeatingGroup) → Option (List RepeatingGroup) → Prop where
  | none : SameGroups none none
  | some {entries entries' : List RepeatingGroup} (same : SameEntries entries entries') :
    SameGroups (some entries) (some entries')
inductive SameEntries : List RepeatingGroup → List RepeatingGroup → Prop where
  | nil : SameEntries [] []
  | cons {start_tag start_tag' delimiter_tag delimiter_tag' : TagU32} {m m' : FieldMap} {rest rest' : List RepeatingGroup}
    (first : Same m m') (others : SameEntries rest rest') :
    SameEntries (.mk start_tag delimiter_tag m :: rest) (.mk start_tag' delimiter_tag' m' :: rest')
end

mutual
theorem Same.tree_eq : ∀ {m m' : FieldMap}, Same m m' → m.tree = m'.tree
  | m,m',.intro fields groups => by
    rw [FieldMap.tree_eq,FieldMap.tree_eq,fields]
    refine List.map_congr_left (fun f _ => ?_)
    rw [SameGroups.trees_eq (groups f.tag)]
theorem SameGroups.trees_eq : ∀ {found found' : Option (List RepeatingGroup)}, SameGroups found found' →
    found.map entry_trees = found'.map entry_trees
  | _,_,.none => rfl
  | _,_,.some same => by rw [Option.map_some,Option.map_some,same.trees_eq]
theorem SameEntries.trees_eq : ∀ {entries entries' : List RepeatingGroup}, SameEntries entries entries' →
    entry_trees entries = entry_trees entries'
  | _,_,.nil => rfl
  | _,_,.cons first others => by rw [entry_trees,entry_trees,first.tree_eq,others.trees_eq]
end

theorem item_of_field (f : Field) (found : Option (List (List Item))) : (item_of f found).field = f := by
  cases found <;> rfl

theorem tree_fields (m : FieldMap) : m.tree.map Item.field = m.fields := by
  rw [tree_eq,List.map_map]
  exact List.map_id'' (fun f => item_of_field f _) m.fields

/-- What is stored of the entries under a tag. -/
def stored_entries (m : FieldMap) (tag : TagU32) : Option (List RepeatingGroup) :=
  (m.get_groups tag).map
    (fun entries => Item.store_entries tag (first_tag tag (entry_trees entries)) (entry_trees entries))

theorem tree_pairs (m : FieldMap) :
    m.tree.filterMap Item.pair = m.fields.filterMap (fun f => (m.stored_entries f.tag).map (fun entries => (f.tag,entries))) := by
  rw [tree_eq,List.filterMap_map]
  refine List.filterMap_congr (fun f _ => ?_)
  rw [Function.comp_apply,stored_entries]
  cases m.get_groups f.tag <;> rfl

/-- What the fields of a map have under their tags is found under the tags. -/
theorem get_filterMap {ν : Type} (fields : List Field) (value : TagU32 → Option ν) (tag : TagU32) :
    (IndexMap.get Prod.fst tag (fields.filterMap (fun f => (value f.tag).map (fun v => (f.tag,v))))).map Prod.snd =
      if tag ∈ fields.map Field.tag then value tag else none := by
  induction fields with
  | nil => rfl
  | cons f rest ih =>
    by_cases same : f.tag = tag
    · subst same
      rw [if_pos (by simp)]
      cases found : value f.tag with
      | none =>
        rw [List.filterMap_cons_none (by rw [found]; rfl),ih,found]
        split_ifs <;> rfl
      | some v =>
        rw [List.filterMap_cons_some (by rw [found]; rfl)]
        simp [IndexMap.get]
    · have others : (tag ∈ (f :: rest).map Field.tag) ↔ tag ∈ rest.map Field.tag := by
        simp [Ne.symm same]
      rw [if_congr others rfl rfl,← ih]
      cases found : value f.tag with
      | none => rw [List.filterMap_cons_none (by rw [found]; rfl)]
      | some v =>
        rw [List.filterMap_cons_some (by rw [found]; rfl)]
        simp [IndexMap.get,same]

theorem filterMap_keys {ν : Type} (fields : List Field) (value : TagU32 → Option ν) :
    ((fields.filterMap (fun f => (value f.tag).map (fun v => (f.tag,v)))).map Prod.fst).Sublist (fields.map Field.tag) := by
  induction fields with
  | nil => exact List.Sublist.slnil
  | cons f rest ih =>
    cases found : value f.tag with
    | none =>
      rw [List.filterMap_cons_none (by rw [found]; rfl),List.map_cons]
      exact ih.cons _
    | some v =>
      rw [List.filterMap_cons_some (by rw [found]; rfl),List.map_cons,List.map_cons]
      exact ih.cons_cons _

theorem get_groups_mem {m : FieldMap} {tag : TagU32} {entries : List RepeatingGroup}
    (found : m.get_groups tag = some entries) : (tag,entries) ∈ m.groups := by
  obtain ⟨⟨key,_⟩,looked_up,rfl⟩ := Option.map_eq_some_iff.mp found
  obtain ⟨member,rfl⟩ := IndexMap.mem_of_get looked_up
  exact member

namespace Tidy
variable {m : FieldMap}

theorem distinct (tidy : m.Tidy) : (m.fields.map Field.tag).Nodup := by
  obtain ⟨_,_⟩ := m
  exact tidy.1

theorem counted (tidy : m.Tidy) {tag : TagU32} {entries : List RepeatingGroup}
    (found : m.get_groups tag = some entries) : tag ∈ m.fields.map Field.tag := by
  have member := get_groups_mem found
  obtain ⟨_,_⟩ := m
  exact tidy.2.2.1 _ member

/-- The fields of a stored tree. -/
theorem store_fields (tidy : m.Tidy) : (Item.store_items FieldMap.empty m.tree).fields = m.fields := by
  rw [Item.store_items_eq,tree_fields]
  exact IndexMap.insertAll_fresh tidy.distinct

/-- The entries of a stored tree under a tag. -/
theorem store_groups (tidy : m.Tidy) (tag : TagU32) :
    (Item.store_items FieldMap.empty m.tree).get_groups tag = m.stored_entries tag := by
  have keys := (filterMap_keys m.fields m.stored_entries).nodup tidy.distinct
  have stored : IndexMap.insertAll Prod.fst [] (m.tree.filterMap Item.pair) = m.tree.filterMap Item.pair := by
    rw [tree_pairs]
    exact IndexMap.insertAll_fresh keys
  rw [Item.store_items_eq,get_groups,FieldMap.groups,show FieldMap.empty.groups = [] from rfl,stored,tree_pairs,get_filterMap]
  split_ifs with listed
  · rfl
  · rw [stored_entries]
    cases found : m.get_groups tag with
    | none => rfl
    | some entries => exact absurd (tidy.counted found) listed

end Tidy

mutual
/-- Storing the tree of a tidy map gives the same map. -/
theorem same_store : ∀ m : FieldMap, m.Tidy → Same (Item.store_items FieldMap.empty m.tree) m
  | .mk fields groups,tidy => by
    refine .intro tidy.store_fields (fun tag => ?_)
    rw [tidy.store_groups,stored_entries]
    cases found : (FieldMap.mk fields groups).get_groups tag with
    | none => exact .none
    | some entries => exact .some (same_groups groups tidy.2.2.2 tag entries (get_groups_mem found) tag _)
theorem same_groups : ∀ groups : List (TagU32 × List RepeatingGroup), TidyGroups groups → ∀ tag entries,
    (tag,entries) ∈ groups → ∀ start_tag delimiter,
      SameEntries (Item.store_entries start_tag delimiter (entry_trees entries)) entries
  | [],_,_,_,member => by cases member
  | (_,first) :: rest,tidy,tag,entries,member => by
    intro start_tag delimiter
    rcases List.mem_cons.mp member with same | later
    · cases same
      exact same_entries first tidy.1 start_tag delimiter
    · exact same_groups rest tidy.2 tag entries later start_tag delimiter
theorem same_entries : ∀ entries : List RepeatingGroup, TidyEntries entries → ∀ start_tag delimiter,
    SameEntries (Item.store_entries start_tag delimiter (entry_trees entries)) entries
  | [],_,_,_ => .nil
  | .mk _ _ fields :: rest,tidy,start_tag,delimiter => by
    rw [entry_trees,Item.store_entries]
    exact .cons (same_store fields tidy.1) (same_entries rest tidy.2 start_tag delimiter)
end

/-- A stored tree is tidy if the entries of its groups are. -/
theorem tidy_items {items : List Item} (inside : ∀ item ∈ items, ∀ g ∈ item.pair, TidyEntries g.2) :
    (Item.store_items FieldMap.empty items).Tidy := by
  rw [Item.store_items_eq]
  refine ⟨IndexMap.nodup_insertAll _ List.nodup_nil,IndexMap.nodup_insertAll _ List.nodup_nil,?_,?_⟩
  · intro g member
    obtain ⟨item,there,made⟩ := List.mem_filterMap.mp ((IndexMap.mem_insertAll member).resolve_left (by
      simp [FieldMap.empty,FieldMap.groups]))
    refine IndexMap.key_mem_insertAll (.inr ?_)
    have same : g.1 = item.field.tag := by
      cases item with
      | plain f => cases made
      | group f delimiter entries => cases made; rfl
    rw [same]
    exact List.mem_map_of_mem (List.mem_map_of_mem there)
  · rw [tidyGroups_iff]
    intro g member
    obtain ⟨item,there,made⟩ := List.mem_filterMap.mp ((IndexMap.mem_insertAll member).resolve_left (by
      simp [FieldMap.empty,FieldMap.groups]))
    exact inside item there g made

mutual
/-- Whatever is stored of a tree is tidy. -/
theorem tidy_pair : ∀ item : Item, ∀ g ∈ item.pair, TidyEntries g.2
  | .plain f,g,made => by cases made
  | .group f delimiter entries,g,made => by
    cases made
    exact tidy_entries f.tag delimiter entries
theorem tidy_pairs : ∀ items : List Item, ∀ item ∈ items, ∀ g ∈ item.pair, TidyEntries g.2
  | [],item,member => by cases member
  | first :: rest,item,member => by
    rcases List.mem_cons.mp member with same | later
    · rw [same]
      exact tidy_pair first
    · exact tidy_pairs rest item later
theorem tidy_entries (start_tag delimiter : TagU32) : ∀ entries : List (List Item),
    TidyEntries (Item.store_entries start_tag delimiter entries)
  | [] => trivial
  | items :: rest => by
    rw [Item.store_entries]
    exact ⟨tidy_items (tidy_pairs items),tidy_entries start_tag delimiter rest⟩
end

theorem tidy_store (items : List Item) : (Item.store_items FieldMap.empty items).Tidy := tidy_items (tidy_pairs items)

end FieldMap

/-! ### What is encoded -/

namespace FieldMap
variable {m : FieldMap}

theorem write_flat (flat : m.groups = []) (separator : UInt8) (tags : List TagU32) :
    m.write separator tags = wire_bytes separator (tags.filterMap (fun tag => IndexMap.get Field.tag tag m.fields) ++
      m.fields.filter (fun f => !tags.contains f.tag)) := by
  obtain ⟨fields,groups⟩ := m
  obtain rfl : groups = [] := flat
  simp only [write,write_groups,List.find?_nil,Option.map_none,Option.getD_none,List.append_nil]
  rfl

theorem length_flat (flat : m.groups = []) (skip : List TagU32) :
    calculate_length skip m = fields_length (m.fields.filter (fun f => !skip.contains f.tag)) := by
  obtain ⟨fields,groups⟩ := m
  obtain rfl : groups = [] := flat
  rw [calculate_length,groups_length]
  rfl

theorem set_fields (field : FieldDefinition) (value : Bytes) :
    (m.set field value).fields = IndexMap.insert Field.tag ⟨field.tag,value⟩ m.fields :=
  insertField_eq _ _

end FieldMap

namespace Message

/-- The length that `encode` announces. -/
def announced (m : Message) : Nat :=
  FieldMap.calculate_length [BEGIN_STRING.tag,BODY_LENGTH.tag] m.header + FieldMap.calculate_length [] m.body +
    FieldMap.calculate_length [CHECK_SUM.tag] (m.trailer.pop CHECK_SUM.tag).2

def starting_fields : List TagU32 := [BEGIN_STRING.tag,BODY_LENGTH.tag,MSG_TYPE.tag]

/-- What is written in front of the checksum. -/
def front (m : Message) (separator : UInt8) (body_length : Nat) : Bytes :=
  (m.header.set BODY_LENGTH (Decimal.decimal body_length)).write separator starting_fields ++
    m.body.write separator [] ++ (m.trailer.pop CHECK_SUM.tag).2.write separator []

theorem encode_front (m : Message) (config : Config) :
    (m.encode config).2 = m.front config.separator m.announced ++
      FieldMap.write_field config.separator
        ⟨CHECK_SUM.tag,three_digits (CheckSum.compute (m.front config.separator m.announced)).toNat⟩ := by
  have tag : Decimal.decimal CHECK_SUM.tag.get = [49,48] := by decide
  have written : (m.encode config).2 = m.front config.separator m.announced ++ [49,48,61] ++
      three_digits (CheckSum.compute (m.front config.separator m.announced)).toNat ++ [config.separator] := rfl
  rw [written,FieldMap.write_field,tag]
  simp only [List.append_assoc,List.cons_append,List.nil_append]

end Message
end HotFix
