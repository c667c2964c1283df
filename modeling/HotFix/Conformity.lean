import HotFix.Trees
import HotFix.Declared

/-!
Maps that conform to a specification. Their fields are declared, each group stands
behind its count field and has entries, and an entry lists declared fields in the
order of the declaration, from the delimiter on. The tree of such a map is one that
the grammar allows.
-/
namespace HotFix

/-! ### Specifications -/

mutual
/-- Every tag of the group, at any level, has the property. -/
def GroupSpecification.AllTags (P : TagU32 → Prop) : GroupSpecification → Prop
  | .mk _ fields nested_groups => (∀ f ∈ fields, P f.tag) ∧ GroupSpecification.NestedTags P nested_groups
def GroupSpecification.NestedTags (P : TagU32 → Prop) : List (TagU32 × GroupSpecification) → Prop
  | [] => True
  | (_,spec) :: rest => spec.AllTags P ∧ GroupSpecification.NestedTags P rest
end

def MessageSpecification.AllTags (P : TagU32 → Prop) (spec : MessageSpecification) : Prop :=
  (∀ f ∈ spec.fields, P f.tag) ∧ GroupSpecification.NestedTags P spec.groups

mutual
/-- At every level a tag is declared once, and a group starts with a plain field. -/
def GroupSpecification.Orderly : GroupSpecification → Prop
  | .mk _ fields nested_groups => (fields.map FieldSpecification.tag).Nodup ∧ (nested_groups.map Prod.fst).Nodup ∧
      (∃ first ∈ fields.head?, IndexMap.get Prod.fst first.tag nested_groups = none) ∧
      GroupSpecification.NestedOrderly nested_groups
def GroupSpecification.NestedOrderly : List (TagU32 × GroupSpecification) → Prop
  | [] => True
  | (_,spec) :: rest => spec.Orderly ∧ GroupSpecification.NestedOrderly rest
end

def MessageSpecification.Orderly (spec : MessageSpecification) : Prop :=
  (spec.fields.map FieldSpecification.tag).Nodup ∧ (spec.groups.map Prod.fst).Nodup ∧
    GroupSpecification.NestedOrderly spec.groups

/-- The fields and nested groups of an entry, as those of a message. -/
def GroupSpecification.level (spec : GroupSpecification) : MessageSpecification := ⟨spec.fields,spec.nested_groups⟩

theorem nestedTags_iff {P : TagU32 → Prop} {groups : List (TagU32 × GroupSpecification)} :
    GroupSpecification.NestedTags P groups ↔ ∀ g ∈ groups, g.2.AllTags P := by
  induction groups with
  | nil => simp [GroupSpecification.NestedTags]
  | cons g rest ih =>
    obtain ⟨tag,spec⟩ := g
    simp [GroupSpecification.NestedTags,ih]

theorem nestedOrderly_iff {groups : List (TagU32 × GroupSpecification)} :
    GroupSpecification.NestedOrderly groups ↔ ∀ g ∈ groups, g.2.Orderly := by
  induction groups with
  | nil => simp [GroupSpecification.NestedOrderly]
  | cons g rest ih =>
    obtain ⟨tag,spec⟩ := g
    simp [GroupSpecification.NestedOrderly,ih]

theorem GroupSpecification.AllTags.level {P : TagU32 → Prop} {spec : GroupSpecification} (all : spec.AllTags P) :
    spec.level.AllTags P := by
  obtain ⟨_,_,_⟩ := spec
  exact all

theorem GroupSpecification.Orderly.level {spec : GroupSpecification} (orderly : spec.Orderly) : spec.level.Orderly := by
  obtain ⟨_,_,_⟩ := spec
  exact ⟨orderly.1,orderly.2.1,orderly.2.2.2⟩

/-- The delimiter of an orderly group, which counts no group. -/
theorem GroupSpecification.Orderly.delimiter {spec : GroupSpecification} (orderly : spec.Orderly) :
    ∃ delimiter, spec.delimiter_tag = .ok delimiter ∧ spec.fields.head?.map FieldSpecification.tag = some delimiter ∧
      spec.get_nested_group delimiter = none := by
  obtain ⟨_,fields,nested_groups⟩ := spec
  obtain ⟨first,head,plain⟩ := orderly.2.2.1
  rw [Option.mem_def] at head
  refine ⟨first.tag,?_,?_,?_⟩
  · rw [GroupSpecification.delimiter_tag,GroupSpecification.fields,head]
    rfl
  · rw [GroupSpecification.fields,head]
    rfl
  · rw [GroupSpecification.get_nested_group,GroupSpecification.nested_groups,plain]
    rfl

mutual
theorem GroupSpecification.AllTags.combine {P Q R : TagU32 → Prop} (both : ∀ tag, P tag → Q tag → R tag) :
    ∀ spec : GroupSpecification, spec.AllTags P → spec.AllTags Q → spec.AllTags R
  | .mk _ _ nested_groups,first,second =>
    ⟨fun f member => both f.tag (first.1 f member) (second.1 f member),
      GroupSpecification.NestedTags.combine both nested_groups first.2 second.2⟩
theorem GroupSpecification.NestedTags.combine {P Q R : TagU32 → Prop} (both : ∀ tag, P tag → Q tag → R tag) :
    ∀ groups : List (TagU32 × GroupSpecification), GroupSpecification.NestedTags P groups →
      GroupSpecification.NestedTags Q groups → GroupSpecification.NestedTags R groups
  | [],_,_ => trivial
  | (_,spec) :: rest,first,second =>
    ⟨GroupSpecification.AllTags.combine both spec first.1 second.1,
      GroupSpecification.NestedTags.combine both rest first.2 second.2⟩
end

namespace MessageSpecification
variable {level : MessageSpecification} {P : TagU32 → Prop} {tag : TagU32} {inner : GroupSpecification}

theorem AllTags.combine {Q R : TagU32 → Prop} (both : ∀ tag, P tag → Q tag → R tag) (first : level.AllTags P)
    (second : level.AllTags Q) : level.AllTags R :=
  ⟨fun f member => both f.tag (first.1 f member) (second.1 f member),
    GroupSpecification.NestedTags.combine both level.groups first.2 second.2⟩

theorem group_mem (found : level.get_group tag = some inner) : (tag,inner) ∈ level.groups := by
  obtain ⟨⟨key,_⟩,looked_up,rfl⟩ := Option.map_eq_some_iff.mp found
  obtain ⟨member,rfl⟩ := IndexMap.mem_of_get looked_up
  exact member

theorem AllTags.group (all : level.AllTags P) (found : level.get_group tag = some inner) : inner.AllTags P :=
  nestedTags_iff.mp all.2 _ (group_mem found)

theorem AllTags.contains (all : level.AllTags P) (listed : level.contains_tag tag = true) : P tag := by
  obtain ⟨f,member,same⟩ := List.any_eq_true.mp listed
  rw [← of_decide_eq_true same]
  exact all.1 f member

theorem Orderly.group (orderly : level.Orderly) (found : level.get_group tag = some inner) : inner.Orderly :=
  nestedOrderly_iff.mp orderly.2.2 _ (group_mem found)

end MessageSpecification

/-! ### Conforming maps -/

/-- The tag behind the field of a tag, else `after`. -/
def next_tag (tag : TagU32) (after : Option TagU32) : List Field → Option TagU32
  | [] => after
  | f :: rest => if f.tag = tag then (rest.head?.map Field.tag).or after else next_tag tag after rest

/-- The tag behind an entry: the delimiter of the next one, else `after`. -/
def behind_entry (spec : GroupSpecification) (after : Option TagU32) : List RepeatingGroup → Option TagU32
  | [] => after
  | _ :: _ => spec.fields.head?.map FieldSpecification.tag

/-- An entry starts with the delimiter, lists declared fields in the order of the
    declaration, and has the required ones. -/
structure Listed (spec : GroupSpecification) (fields : List Field) : Prop where
  starts : fields.head?.map Field.tag = spec.fields.head?.map FieldSpecification.tag
  ordered : (fields.map Field.tag).Sublist (spec.fields.map FieldSpecification.tag)
  required : ∀ f ∈ spec.fields, f.is_required = true → f.tag ∈ fields.map Field.tag

mutual
/-- The fields of a map are declared, its count fields have entries, and its groups
    conform. The field behind a group is not declared in it. -/
def Conforms (level : MessageSpecification) (after : Option TagU32) : FieldMap → Prop
  | .mk fields groups => (∀ f ∈ fields, level.contains_tag f.tag = true) ∧
      (∀ f ∈ fields, (level.get_group f.tag).isSome = true → f.tag ∈ groups.map Prod.fst) ∧
      GroupsConform level fields after groups
def GroupsConform (level : MessageSpecification) (fields : List Field) (after : Option TagU32) :
    List (TagU32 × List RepeatingGroup) → Prop
  | [] => True
  | (tag,entries) :: rest =>
    (∃ inner, level.get_group tag = some inner ∧ entries ≠ [] ∧
      (∀ next ∈ next_tag tag after fields, inner.contains_tag next = false) ∧
      EntriesConform inner (next_tag tag after fields) entries) ∧ GroupsConform level fields after rest
def EntriesConform (spec : GroupSpecification) (after : Option TagU32) : List RepeatingGroup → Prop
  | [] => True
  | .mk _ _ m :: rest => Listed spec m.fields ∧ Conforms spec.level (behind_entry spec after rest) m ∧
      EntriesConform spec after rest
end

theorem groupsConform_iff {level : MessageSpecification} {fields : List Field} {after : Option TagU32}
    {groups : List (TagU32 × List RepeatingGroup)} :
    GroupsConform level fields after groups ↔ ∀ g ∈ groups, ∃ inner, level.get_group g.1 = some inner ∧ g.2 ≠ [] ∧
      (∀ next ∈ next_tag g.1 after fields, inner.contains_tag next = false) ∧
      EntriesConform inner (next_tag g.1 after fields) g.2 := by
  induction groups with
  | nil => simp [GroupsConform]
  | cons g rest ih =>
    obtain ⟨tag,entries⟩ := g
    simp [GroupsConform,ih]

theorem next_tag_mem {tag next : TagU32} {after : Option TagU32} {fields : List Field}
    (found : next ∈ next_tag tag after fields) : next ∈ after ∨ ∃ f ∈ fields, f.tag = next := by
  induction fields with
  | nil => exact .inl found
  | cons f rest ih =>
    rw [next_tag] at found
    split_ifs at found
    · cases rest with
      | nil => exact .inl found
      | cons g rest =>
        refine .inr ⟨g,by simp,?_⟩
        exact Option.some.inj found
    · rcases ih found with behind | ⟨g,member,same⟩
      · exact .inl behind
      · exact .inr ⟨g,by simp [member],same⟩

/-- The tag behind a field is that of the field that follows it. -/
theorem next_tag_suffix {front rest : List Field} {f : Field} (after : Option TagU32)
    (distinct : ((front ++ f :: rest).map Field.tag).Nodup) :
    next_tag f.tag after (front ++ f :: rest) = (rest.head?.map Field.tag).or after := by
  induction front with
  | nil => rw [List.nil_append,next_tag,if_pos rfl]
  | cons g front ih =>
    rw [List.cons_append,List.map_cons,List.nodup_cons] at distinct
    have other : g.tag ≠ f.tag := by
      intro same
      exact distinct.1 (by simp [same])
    rw [List.cons_append,next_tag,if_neg other,ih distinct.2]

/-! ### The grammar allows them -/

/-- The position of a declared tag that stands no earlier than `idx`, and what may
    follow it. -/
theorem sublist_position {declared : List FieldSpecification} {idx : Nat} {tag : TagU32} {tags : List TagU32}
    (distinct : (declared.map FieldSpecification.tag).Nodup)
    (ordered : (tag :: tags).Sublist ((declared.drop idx).map FieldSpecification.tag)) :
    ∃ position, idx ≤ position ∧ declared.findIdx? (fun d => d.tag = tag) = some position ∧
      tags.Sublist ((declared.drop (position + 1)).map FieldSpecification.tag) := by
  induction declared generalizing idx with
  | nil => simp at ordered
  | cons d rest ih =>
    rw [List.map_cons,List.nodup_cons] at distinct
    match idx with
    | 0 =>
      rw [List.drop_zero,List.map_cons,List.cons_sublist_cons'] at ordered
      rcases ordered with later | ⟨same,behind⟩
      · obtain ⟨position,_,found,behind⟩ := @ih 0 distinct.2 (by simpa using later)
        have other : d.tag ≠ tag := by
          rintro rfl
          exact distinct.1 (later.subset (by simp))
        refine ⟨position + 1,by omega,?_,by simpa using behind⟩
        rw [List.findIdx?_cons]
        simp [other,found]
      · refine ⟨0,by omega,?_,by simpa using behind⟩
        simp [List.findIdx?_cons,same]
    | idx+1 =>
      rw [List.drop_succ_cons] at ordered
      obtain ⟨position,above,found,behind⟩ := ih distinct.2 ordered
      have other : d.tag ≠ tag := by
        rintro rfl
        have inside : d.tag ∈ (rest.drop idx).map FieldSpecification.tag := ordered.subset (by simp)
        exact distinct.1 (((List.drop_sublist idx rest).map _).subset inside)
      refine ⟨position + 1,by omega,?_,by simpa using behind⟩
      rw [List.findIdx?_cons]
      simp [other,found]

namespace MessageBuilder
variable {b : MessageBuilder} {last : TagU32}

/-- The entries of a group of a map are allowed in front of the tag behind it;
    `last` is the tag behind the whole map. -/
structure GroupReady (b : MessageBuilder) (last : TagU32) (level : MessageSpecification) (fields : List Field)
    (after : Option TagU32) (tag : TagU32) (entries : List RepeatingGroup) (inner : GroupSpecification) : Prop where
  found : level.get_group tag = some inner
  delimiter : inner.delimiter_tag = .ok (FieldMap.first_tag tag (FieldMap.entry_trees entries))
  entries_ok : b.Entries inner (FieldMap.first_tag tag (FieldMap.entry_trees entries))
    (some ((next_tag tag after fields).getD last)) (FieldMap.entry_trees entries)
  nonempty : FieldMap.entry_trees entries ≠ []
  closes : ¬ b.Absorbs inner ((next_tag tag after fields).getD last)

/-- The item of a field. -/
def item_at (m : FieldMap) (f : Field) : Item := FieldMap.item_of f ((m.get_groups f.tag).map FieldMap.entry_trees)

theorem following_items (m : FieldMap) (rest : List Field) (after : Option TagU32) :
    following (rest.map (item_at m)) (some (after.getD last)) = some (((rest.head?.map Field.tag).or after).getD last) := by
  cases rest with
  | nil => rfl
  | cons f rest =>
    rw [List.map_cons,following,Item.tag,item_at,FieldMap.item_of_field]
    rfl

/-- The items of an entry behind its delimiter. -/
theorem entry_rest {spec : GroupSpecification} {delimiter : TagU32} {after : Option TagU32} {m : FieldMap}
    (orderly : spec.Orderly) (first : spec.fields.head?.map FieldSpecification.tag = some delimiter) (tidy : m.Tidy)
    (counted : ∀ f ∈ m.fields, (spec.level.get_group f.tag).isSome = true → f.tag ∈ m.groups.map Prod.fst)
    (ready : ∀ tag entries, m.get_groups tag = some entries →
      ∃ inner, GroupReady b last spec.level m.fields after tag entries inner)
    (rest : List Field) : ∀ (front : List Field) (idx : Nat), m.fields = front ++ rest → 0 < idx →
      (rest.map Field.tag).Sublist ((spec.fields.drop idx).map FieldSpecification.tag) →
      b.EntryItems spec delimiter idx (some (after.getD last)) (rest.map (item_at m)) := by
  induction rest with
  | nil => intros; trivial
  | cons f rest ih =>
    intro front idx split positive ordered
    rw [List.map_cons] at ordered
    have declared : (spec.fields.map FieldSpecification.tag).Nodup := orderly.level.1
    obtain ⟨position,above,found,behind⟩ := sublist_position declared ordered
    refine ⟨position + 1,?_,ih (front ++ [f]) (position + 1) (by simp [split]) (by omega) behind⟩
    have distinct := tidy.distinct
    have next := @following_items last m rest after
    rw [split] at distinct
    rw [next,← next_tag_suffix after distinct,← split]
    -- the delimiter is declared first
    have other : f.tag ≠ delimiter := by
      rintro rfl
      obtain ⟨_,fields,_⟩ := spec
      cases fields with
      | nil => cases first
      | cons d others =>
        have same : d.tag = f.tag := Option.some.inj first
        simp only [GroupSpecification.fields,List.findIdx?_cons,same,decide_true,if_true,Option.some.injEq] at found
        omega
    rw [item_at]
    cases grouped : m.get_groups f.tag with
    | none =>
      refine .inr (.inr ⟨position,⟨other,found⟩,above,?_,rfl⟩)
      by_contra nested
      have key := counted f (by simp [split]) (Option.isSome_iff_ne_none.mpr nested)
      rw [FieldMap.get_groups,Option.map_eq_none_iff,IndexMap.get_eq_none] at grouped
      exact grouped key
    | some entries =>
      obtain ⟨inner,group⟩ := ready f.tag entries grouped
      refine ⟨position,inner,⟨other,found⟩,above,group.found,group.delimiter,group.entries_ok,?_,rfl⟩
      intro tag behind
      cases behind
      exact ⟨group.nonempty,group.closes⟩

/-- The items of an entry. -/
theorem entry_items {spec : GroupSpecification} {delimiter : TagU32} {after : Option TagU32} {m : FieldMap}
    (orderly : spec.Orderly) (first : spec.fields.head?.map FieldSpecification.tag = some delimiter)
    (plain : spec.get_nested_group delimiter = none) (tidy : m.Tidy) (listed : Listed spec m.fields)
    (counted : ∀ f ∈ m.fields, (spec.level.get_group f.tag).isSome = true → f.tag ∈ m.groups.map Prod.fst)
    (ready : ∀ tag entries, m.get_groups tag = some entries →
      ∃ inner, GroupReady b last spec.level m.fields after tag entries inner) :
    following m.tree none = some delimiter ∧ b.EntryItems spec delimiter 0 (some (after.getD last)) m.tree := by
  have starts := listed.starts
  have ordered := listed.ordered
  rw [FieldMap.tree_eq]
  cases split : m.fields with
  | nil =>
    rw [split,first] at starts
    cases starts
  | cons f rest =>
    rw [split,first] at starts
    rw [split,List.map_cons] at ordered
    have opens : f.tag = delimiter := Option.some.inj starts
    have flat : m.get_groups f.tag = none := by
      cases grouped : m.get_groups f.tag with
      | none => rfl
      | some entries =>
        obtain ⟨inner,group⟩ := ready f.tag entries grouped
        have nested : spec.get_nested_group f.tag = some inner := group.found
        rw [opens,plain] at nested
        cases nested
    have declared : (spec.fields.map FieldSpecification.tag).Nodup := orderly.level.1
    obtain ⟨position,_,found,behind⟩ := @sublist_position spec.fields 0 _ _ declared (by simpa using ordered)
    have here : position = 0 := by
      obtain ⟨_,fields,_⟩ := spec
      cases fields with
      | nil => cases first
      | cons d others =>
        have same : d.tag = f.tag := (Option.some.inj first).trans opens.symm
        simp only [GroupSpecification.fields,List.findIdx?_cons,same,decide_true,if_true,Option.some.injEq] at found
        exact found.symm
    subst here
    have rest_ok := entry_rest orderly first tidy counted ready rest [f] 1 split (by omega) behind
    rw [List.map_cons,flat]
    exact ⟨congrArg some opens,1,.inl ⟨opens,rfl,rfl⟩,rest_ok⟩

/-- A tag that the dictionary knows, other than `last`. -/
structure Fenced (b : MessageBuilder) (last : TagU32) (tag : TagU32) : Prop where
  other : tag ≠ last
  known : b.should_accept_unknown_user_defined tag = false

theorem first_tag_entries {spec : GroupSpecification} {delimiter count : TagU32} {after : Option TagU32}
    {entries : List RepeatingGroup} (nonempty : entries ≠ [])
    (run : b.Entries spec delimiter after (FieldMap.entry_trees entries)) :
    FieldMap.first_tag count (FieldMap.entry_trees entries) = delimiter ∧ FieldMap.entry_trees entries ≠ [] := by
  match entries with
  | [] => exact absurd rfl nonempty
  | .mk _ _ m :: rest =>
    rw [FieldMap.entry_trees] at run ⊢
    have first := run.1
    refine ⟨?_,by simp⟩
    cases items : m.tree with
    | nil =>
      rw [items] at first
      cases first
    | cons item more =>
      rw [items] at first
      exact Option.some.inj first

theorem contains_of_head {spec : GroupSpecification} {tag : TagU32}
    (first : spec.fields.head?.map FieldSpecification.tag = some tag) : spec.level.contains_tag tag = true := by
  obtain ⟨f,head,rfl⟩ := Option.map_eq_some_iff.mp first
  exact List.any_eq_true.mpr ⟨f,List.mem_of_head? head,by simp⟩

/-- The tag behind an entry is known. -/
theorem behind_known {spec : GroupSpecification} {after : Option TagU32} {rest : List RepeatingGroup}
    (fenced : spec.AllTags (Fenced b last)) (known : ∀ t ∈ after, b.should_accept_unknown_user_defined t = false) :
    ∀ t ∈ behind_entry spec after rest, b.should_accept_unknown_user_defined t = false := by
  intro t behind
  cases rest with
  | nil => exact known t behind
  | cons g rest => exact (fenced.level.contains (contains_of_head behind)).known

theorem next_entry_behind {spec : GroupSpecification} {delimiter : TagU32} (after : Option TagU32)
    (rest : List RepeatingGroup) (first : spec.fields.head?.map FieldSpecification.tag = some delimiter) :
    next_entry delimiter (FieldMap.entry_trees rest) (some (after.getD last)) =
      some ((behind_entry spec after rest).getD last) := by
  rcases rest with _ | ⟨⟨_,_,_⟩,_⟩
  · rfl
  · rw [behind_entry,first]
    rfl

/-- The tag behind a group is not taken into it. -/
theorem group_closes {inner : GroupSpecification} {next : Option TagU32} (fenced : inner.AllTags (Fenced b last))
    (last_known : b.should_accept_unknown_user_defined last = false) (closed : ∀ t ∈ next, inner.contains_tag t = false)
    (known : ∀ t ∈ next, b.should_accept_unknown_user_defined t = false) : ¬ b.Absorbs inner (next.getD last) := by
  cases next with
  | none =>
    rintro (contained | accepted)
    · exact (fenced.level.contains contained).other rfl
    · rw [Option.getD_none,last_known] at accepted
      cases accepted
  | some t =>
    rintro (contained | accepted)
    · rw [Option.getD_some,closed t rfl] at contained
      cases contained
    · rw [Option.getD_some,known t rfl] at accepted
      cases accepted

mutual
/-- The groups of a conforming map are allowed by the grammar. -/
theorem map_ready (last_known : b.should_accept_unknown_user_defined last = false) :
    ∀ (m : FieldMap) {level : MessageSpecification} {after : Option TagU32}, Conforms level after m → m.Tidy →
    level.Orderly → level.AllTags (Fenced b last) → (∀ t ∈ after, b.should_accept_unknown_user_defined t = false) →
    ∀ tag entries, m.get_groups tag = some entries → ∃ inner, GroupReady b last level m.fields after tag entries inner
  | .mk fields groups,level,after,conforms,tidy,orderly,fenced,known,tag,entries,found => by
    have next_known : ∀ tag, ∀ t ∈ next_tag tag after fields, b.should_accept_unknown_user_defined t = false := by
      intro tag t next
      rcases next_tag_mem next with behind | ⟨f,member,rfl⟩
      · exact known t behind
      · exact (fenced.contains (conforms.1 f member)).known
    exact groups_ready last_known groups conforms.2.2 tidy.2.2.2 orderly fenced next_known tag entries (FieldMap.get_groups_mem found)
theorem groups_ready (last_known : b.should_accept_unknown_user_defined last = false) :
    ∀ (groups : List (TagU32 × List RepeatingGroup)) {level : MessageSpecification} {fields : List Field}
    {after : Option TagU32}, GroupsConform level fields after groups → FieldMap.TidyGroups groups → level.Orderly →
    level.AllTags (Fenced b last) →
    (∀ tag, ∀ t ∈ next_tag tag after fields, b.should_accept_unknown_user_defined t = false) →
    ∀ tag entries, (tag,entries) ∈ groups → ∃ inner, GroupReady b last level fields after tag entries inner
  | [],_,_,_,_,_,_,_,_,_,_,member => by cases member
  | (count,first) :: rest,level,fields,after,conforms,tidy,orderly,fenced,known,tag,entries,member => by
    rcases List.mem_cons.mp member with same | later
    · cases same
      obtain ⟨inner,found,nonempty,closed,inside⟩ := conforms.1
      obtain ⟨delimiter,opens,head,plain⟩ := (orderly.group found).delimiter
      have run := entries_ready last_known first inside tidy.1 (orderly.group found) (fenced.group found) (known count) head plain
      have counted := @first_tag_entries b inner delimiter count _ first nonempty run
      refine ⟨inner,found,?_,?_,counted.2,group_closes (fenced.group found) last_known closed (known count)⟩
      · rw [counted.1]
        exact opens
      · rw [counted.1]
        exact run
    · exact groups_ready last_known rest conforms.2 tidy.2 orderly fenced known tag entries later
theorem entries_ready (last_known : b.should_accept_unknown_user_defined last = false) :
    ∀ (entries : List RepeatingGroup) {spec : GroupSpecification} {after : Option TagU32}
    {delimiter : TagU32}, EntriesConform spec after entries → FieldMap.TidyEntries entries → spec.Orderly →
    spec.AllTags (Fenced b last) → (∀ t ∈ after, b.should_accept_unknown_user_defined t = false) →
    spec.fields.head?.map FieldSpecification.tag = some delimiter → spec.get_nested_group delimiter = none →
    b.Entries spec delimiter (some (after.getD last)) (FieldMap.entry_trees entries)
  | [],_,_,_,_,_,_,_,_,_,_ => trivial
  | .mk _ _ m :: rest,spec,after,delimiter,conforms,tidy,orderly,fenced,known,first,plain => by
    obtain ⟨listed,inside,others⟩ := conforms
    have ready := map_ready last_known m inside tidy.1 orderly.level fenced.level (behind_known fenced known)
    have counted : ∀ f ∈ m.fields, (spec.level.get_group f.tag).isSome = true → f.tag ∈ m.groups.map Prod.fst := by
      obtain ⟨_,_⟩ := m
      exact inside.2.1
    have items := entry_items orderly first plain tidy.1 listed counted ready
    rw [FieldMap.entry_trees]
    refine ⟨items.1,?_,entries_ready last_known rest others tidy.2 orderly fenced known first plain⟩
    rw [next_entry_behind after rest first]
    exact items.2
end

/-! ### Required fields -/

theorem get_raw_isSome {m : FieldMap} {tag : TagU32} (there : tag ∈ m.fields.map Field.tag) : (m.get_raw tag).isSome = true := by
  rw [FieldMap.get_raw,Option.isSome_map,List.find?_isSome]
  obtain ⟨f,member,rfl⟩ := List.mem_map.mp there
  exact ⟨f,member,by simp⟩

theorem required_present {group_tag : TagU32} {declared : List FieldSpecification} {m : FieldMap}
    (present : ∀ f ∈ declared, f.is_required = true → f.tag ∈ m.fields.map Field.tag) :
    check_required_fields group_tag declared m = .ok () := by
  have none_missing : declared.find? (fun f => f.is_required && (m.get_raw f.tag).isNone) = none := by
    rw [List.find?_eq_none]
    intro f member missing
    rw [Bool.and_eq_true] at missing
    have there := get_raw_isSome (present f member missing.1)
    rw [Option.isNone_iff_eq_none] at missing
    rw [missing.2] at there
    cases there
  rw [check_required_fields,none_missing]
  rfl

mutual
/-- The entries of a conforming group have the required fields, at every level. -/
theorem required_ok : ∀ (spec : GroupSpecification) {after : Option TagU32} (start_tag delimiter : TagU32)
    (entries : List RepeatingGroup), spec.Orderly → EntriesConform spec after entries → FieldMap.TidyEntries entries →
    check_required_fields_in_groups (Item.store_entries start_tag delimiter (FieldMap.entry_trees entries)) spec = .ok ()
  | .mk group_tag fields nested_groups,after,start_tag,delimiter,entries,orderly,conforms,tidy => by
    rw [check_required_fields_in_groups]
    induction entries with
    | nil => rfl
    | cons entry rest ih =>
      obtain ⟨_,_,m⟩ := entry
      obtain ⟨listed,inside,others⟩ := conforms
      have level : (GroupSpecification.mk group_tag fields nested_groups).level.Orderly := orderly.level
      have nested := nested_required nested_groups (fun g member => member) level inside tidy.1
      have present : ∀ f ∈ fields, f.is_required = true →
          f.tag ∈ (Item.store_items FieldMap.empty m.tree).fields.map Field.tag := by
        rw [tidy.1.store_fields]
        exact listed.required
      rw [FieldMap.entry_trees,Item.store_entries]
      exact bind_eq_ok.mpr ⟨(),bind_eq_ok.mpr ⟨(),required_present present,nested⟩,ih others tidy.2⟩
theorem nested_required : ∀ (nested_groups : List (TagU32 × GroupSpecification)) {level : MessageSpecification}
    {after : Option TagU32} {m : FieldMap}, (∀ g ∈ nested_groups, g ∈ level.groups) → level.Orderly →
    Conforms level after m → m.Tidy →
    check_nested_groups (Item.store_items FieldMap.empty m.tree) nested_groups = .ok ()
  | [],_,_,_,_,_,_,_ => rfl
  | (nested_tag,nested_spec) :: rest,level,after,m,listed,orderly,conforms,tidy => by
    have others := nested_required rest (fun g member => listed g (by simp [member])) orderly conforms tidy
    rw [check_nested_groups,tidy.store_groups,FieldMap.stored_entries]
    cases found : m.get_groups nested_tag with
    | none => exact others
    | some entries =>
      have found_spec : level.get_group nested_tag = some nested_spec := by
        rw [MessageSpecification.get_group,IndexMap.get_of_mem orderly.2.1 (listed _ List.mem_cons_self)]
        rfl
      have member := FieldMap.get_groups_mem found
      obtain ⟨fields,groups⟩ := m
      obtain ⟨inner,found_inner,_,_,inside⟩ := groupsConform_iff.mp conforms.2.2 _ member
      rw [found_spec] at found_inner
      cases found_inner
      have checked := required_ok nested_spec nested_tag (FieldMap.first_tag nested_tag (FieldMap.entry_trees entries)) entries
        (orderly.group found_spec) inside (FieldMap.tidyGroups_iff.mp tidy.2.2.2 _ member)
      simp only [Option.map_some]
      rw [checked]
      exact others
end

/-! ### Bodies -/

/-- The tree of a conforming body is one that its message allows. -/
theorem body_items {spec : MessageSpecification} {m : FieldMap}
    (last_known : b.should_accept_unknown_user_defined last = false) (orderly : spec.Orderly)
    (fenced : spec.AllTags (Fenced b last)) (defined : ∀ f ∈ spec.fields, (b.dict.field_by_tag f.tag.get).isSome = true)
    (tidy : m.Tidy) (conforms : Conforms spec none m) : b.BodyItems spec (some last) m.tree := by
  have ready := map_ready last_known m conforms tidy orderly fenced nofun
  obtain ⟨declared,counted⟩ : (∀ f ∈ m.fields, spec.contains_tag f.tag = true) ∧
      ∀ f ∈ m.fields, (spec.get_group f.tag).isSome = true → f.tag ∈ m.groups.map Prod.fst := by
    obtain ⟨_,_⟩ := m
    exact ⟨conforms.1,conforms.2.1⟩
  have known {f : Field} (member : f ∈ m.fields) : (b.dict.field_by_tag f.tag.get).isSome = true := by
    obtain ⟨d,listed,same⟩ := List.any_eq_true.mp (declared f member)
    rw [← of_decide_eq_true same]
    exact defined d listed
  have suffix (rest : List Field) : ∀ front, m.fields = front ++ rest → b.BodyItems spec (some last) (rest.map (item_at m)) := by
    induction rest with
    | nil => intros; trivial
    | cons f rest ih =>
      intro front split
      refine ⟨?_,ih (front ++ [f]) (by simp [split])⟩
      have member : f ∈ m.fields := by simp [split]
      have distinct := tidy.distinct
      have next := @following_items last m rest none
      rw [split] at distinct
      rw [Option.getD_none] at next
      rw [next,← next_tag_suffix none distinct,← split,item_at]
      cases grouped : m.get_groups f.tag with
      | none =>
        refine .inl ⟨declared f member,known member,?_⟩
        by_contra nested
        have key := counted f member (Option.isSome_iff_ne_none.mpr nested)
        rw [FieldMap.get_groups,Option.map_eq_none_iff,IndexMap.get_eq_none] at grouped
        exact grouped key
      | some entries =>
        obtain ⟨inner,group⟩ := ready f.tag entries grouped
        refine ⟨declared f member,known member,inner,group.found,group.delimiter,group.entries_ok,?_,fun _ => ?_⟩
        · intro tag behind
          cases behind
          exact ⟨group.nonempty,group.closes⟩
        · have there := FieldMap.get_groups_mem grouped
          obtain ⟨fields,groups⟩ := m
          obtain ⟨inner',found,_,_,inside⟩ := groupsConform_iff.mp conforms.2.2 _ there
          rw [group.found] at found
          cases found
          exact required_ok inner f.tag _ entries (orderly.group group.found) inside
            (FieldMap.tidyGroups_iff.mp tidy.2.2.2 _ there)
  rw [FieldMap.tree_eq]
  exact suffix m.fields [] rfl

end MessageBuilder

/-! ### Tags of a dictionary -/

/-- The dictionary has a field of the tag. -/
def Known (dict : Dictionary) (tag : TagU32) : Prop := (dict.field_by_tag tag.get).isSome = true

theorem known_of_found {dict : Dictionary} {n : Nat} {field : FieldData} {tag : TagU32}
    (found : unwrap (dict.field_by_tag n) = .ok field) (converted : field.tag_u32 = .ok tag) : Known dict tag := by
  rw [unwrap_ok] at found
  rw [Known,← tag_u32_ok found converted,found]
  rfl

theorem extract_fields_known {dict : Dictionary} {depth : Nat} {item : LayoutItemData} {fields : List FieldSpecification}
    (extracted : extract_fields dict depth item = .ok fields) : ∀ f ∈ fields, Known dict f.tag := by
  induction depth using Nat.strongRecOn generalizing item fields with
  | ind depth ih =>
    cases item with
    | Field required tag =>
      obtain ⟨tag',rfl,found,rfl⟩ := field_extracted extracted
      exact List.forall_mem_singleton.mpr found
    | Group required tag inner =>
      obtain ⟨tag',rfl,found,rfl⟩ := count_extracted extracted
      exact List.forall_mem_singleton.mpr found
    | Component required name =>
      obtain ⟨below,component,rfl,_,flat⟩ := component_extracted extracted
      intro f member
      obtain ⟨item,_,xs,result,member⟩ := flat_results_mem flat f member
      exact ih below (Nat.lt_succ_self below) result f member

theorem layout_fields_known {dict : Dictionary} {items : List LayoutItemData} {fields : List FieldSpecification}
    (extracted : flat_results (extract_fields dict dict.depth) items = .ok fields) : ∀ f ∈ fields, Known dict f.tag := by
  intro f member
  obtain ⟨item,_,xs,result,inside⟩ := flat_results_mem extracted f member
  exact extract_fields_known result f inside

mutual
/-- The dictionary knows the tags of the groups that are derived from it. -/
theorem Derived.known {dict : Dictionary} : ∀ {spec : GroupSpecification} {items : List LayoutItemData},
    Derived dict items spec → spec.AllTags (Known dict)
  | .mk _ _ _,_,derived => ⟨layout_fields_known derived.1,AllDerived.known derived.2⟩
theorem AllDerived.known {dict : Dictionary} : ∀ {groups : List (TagU32 × GroupSpecification)} {items : List LayoutItemData},
    AllDerived dict items groups → GroupSpecification.NestedTags (Known dict) groups
  | [],_,_ => trivial
  | (_,_) :: _,_,derived => by
    obtain ⟨⟨inner,_,inside⟩,others⟩ := derived
    exact ⟨inside.known,AllDerived.known others⟩
end

theorem tags_for_component_known {dict : Dictionary} {name : Bytes} {tags : List TagU32}
    (collected : get_tags_for_component dict name = .ok tags) : ∀ tag ∈ tags, Known dict tag := by
  rw [get_tags_for_component] at collected
  obtain ⟨c,_,collected⟩ := MessageBuilder.bind_eq_ok.mp collected
  obtain ⟨lists,mapped,collected⟩ := MessageBuilder.bind_eq_ok.mp collected
  cases collected
  intro tag member
  obtain ⟨direct,inside,here⟩ := List.mem_flatten.mp member
  obtain ⟨item,_,result⟩ := mapM_mem mapped direct inside
  cases item with
  | Field required n =>
    rw [direct_tag] at result
    obtain ⟨field,found,result⟩ := MessageBuilder.bind_eq_ok.mp result
    obtain ⟨tag',converted,result⟩ := MessageBuilder.bind_eq_ok.mp result
    cases result
    rw [List.mem_singleton] at here
    exact here ▸ known_of_found found converted
  | Group required n inner =>
    obtain ⟨_,_,result⟩ := MessageBuilder.bind_eq_ok.mp result
    cases result
    cases here
  | Component required component =>
    obtain ⟨_,_,result⟩ := MessageBuilder.bind_eq_ok.mp result
    cases result
    cases here

namespace MessageBuilder

/-- The builder of a dictionary knows the tags of its messages and of the trailer. -/
theorem known_of_new {dict : Dictionary} {config : Config} {b : MessageBuilder} (made : new dict config = .ok b) :
    (∀ tag, b.is_trailer_tag tag = true → Known b.dict tag) ∧
      ∀ name spec, b.get_message_def name = .ok spec → spec.AllTags (Known b.dict) := by
  constructor
  · rw [new] at made
    obtain ⟨header_tags,_,made⟩ := bind_eq_ok.mp made
    obtain ⟨trailer_tags,collected,made⟩ := bind_eq_ok.mp made
    obtain ⟨specifications,_,made⟩ := bind_eq_ok.mp made
    cases made
    intro tag listed
    exact tags_for_component_known collected tag (by simpa [is_trailer_tag] using listed)
  · intro name spec specified
    obtain ⟨_,_,made⟩ := made_of_new made
    obtain ⟨message,_,derived⟩ := made.specified name spec specified
    obtain ⟨flat,groups⟩ := message_specification_derived derived
    rw [made.dict_eq]
    exact ⟨layout_fields_known flat,groups.known⟩

theorem not_accepted {b : MessageBuilder} {tag : TagU32} (known : Known b.dict tag) :
    b.should_accept_unknown_user_defined tag = false := by
  rw [Known] at known
  simp [should_accept_unknown_user_defined,Option.isNone_eq_false_iff.mpr known]

end MessageBuilder
end HotFix
