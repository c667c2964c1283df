import HotFix.Language

/-!
Where the entries of a group come from. A count field is stored as it was read, and its
value is not looked at: behind it the entries are cut at the delimiters.
-/
namespace HotFix

mutual
/-- The count fields of a map give the numbers of entries. -/
def FieldMap.Honest : FieldMap → Prop
  | .mk fields groups => FieldMap.HonestGroups fields groups
def FieldMap.HonestGroups (fields : List Field) : List (TagU32 × List RepeatingGroup) → Prop
  | [] => True
  | (tag,entries) :: rest => (∃ f ∈ fields, f.tag = tag ∧ Decimal.parseBelow U64 f.data = some entries.length) ∧
      FieldMap.HonestEntries entries ∧ FieldMap.HonestGroups fields rest
def FieldMap.HonestEntries : List RepeatingGroup → Prop
  | [] => True
  | .mk _ _ fields :: rest => fields.Honest ∧ FieldMap.HonestEntries rest
end

/-- All counts of a message are honest. -/
def Message.Honest (m : Message) : Prop := m.header.Honest ∧ m.body.Honest ∧ m.trailer.Honest

theorem FieldMap.HonestGroups.count {fields : List Field} {groups : List (TagU32 × List RepeatingGroup)}
    (honest : FieldMap.HonestGroups fields groups) :
    ∀ g ∈ groups, ∃ f ∈ fields, f.tag = g.1 ∧ Decimal.parseBelow U64 f.data = some g.2.length := by
  induction groups with
  | nil => exact List.forall_mem_nil _
  | cons g rest ih =>
    obtain ⟨tag,entries⟩ := g
    rw [FieldMap.HonestGroups] at honest
    exact List.forall_mem_cons.mpr ⟨honest.1,ih honest.2.2⟩

mutual
/-- The groups of a map are those of the items: each has its count field beside it, and an
    entry for every delimiter behind the count field. -/
def FieldMap.Cut : FieldMap → List Item → Prop
  | .mk fields groups,items => FieldMap.GroupsCut fields groups items
def FieldMap.GroupsCut (fields : List Field) : List (TagU32 × List RepeatingGroup) → List Item → Prop
  | [],_ => True
  | (tag,entries) :: rest,items =>
    (∃ f delimiter runs, .group f delimiter runs ∈ items ∧ f ∈ fields ∧ f.tag = tag ∧ entries ≠ [] ∧
      entries.length = runs.flatten.countP (fun item => item.tag = delimiter) ∧ FieldMap.EntriesCut entries runs) ∧
    FieldMap.GroupsCut fields rest items
def FieldMap.EntriesCut : List RepeatingGroup → List (List Item) → Prop
  | [],_ => True
  | .mk _ _ _ :: _,[] => False
  | .mk _ _ fields :: rest,items :: runs => fields.Cut items ∧ FieldMap.EntriesCut rest runs
end

theorem FieldMap.groupsCut_iff {fields : List Field} {groups : List (TagU32 × List RepeatingGroup)} {items : List Item} :
    FieldMap.GroupsCut fields groups items ↔ ∀ g ∈ groups, ∃ f delimiter runs, .group f delimiter runs ∈ items ∧ f ∈ fields ∧
      f.tag = g.1 ∧ g.2 ≠ [] ∧ g.2.length = runs.flatten.countP (fun item => item.tag = delimiter) ∧
      FieldMap.EntriesCut g.2 runs := by
  induction groups with
  | nil => simp [FieldMap.GroupsCut]
  | cons g rest ih =>
    obtain ⟨tag,entries⟩ := g
    rw [FieldMap.GroupsCut,ih,List.forall_mem_cons]

theorem Item.store_entries_length (start_tag delimiter : TagU32) (runs : List (List Item)) :
    (Item.store_entries start_tag delimiter runs).length = runs.length := by
  induction runs with
  | nil => rfl
  | cons items rest ih => rw [Item.store_entries,List.length_cons,List.length_cons,ih]

/-- A stored group is that of an item, whose count field is stored as well. -/
theorem Item.stored_group {items : List Item} (uniform : Item.UniformItems items) {g : TagU32 × List RepeatingGroup}
    (member : g ∈ (Item.store_items FieldMap.empty items).groups) :
    ∃ f delimiter runs, .group f delimiter runs ∈ items ∧ f ∈ (Item.store_items FieldMap.empty items).fields ∧
      g = (f.tag,Item.store_entries f.tag delimiter runs) := by
  have keyed (item : Item) (g : TagU32 × List RepeatingGroup) (made : item.pair = some g) : g.1 = item.tag := by
    cases item with
    | plain f => cases made
    | group f delimiter entries => cases made; rfl
  rw [Item.store_items_eq] at member ⊢
  have last : g ∈ IndexMap.lasts Prod.fst (items.filterMap Item.pair) := (IndexMap.insertAll_perm _).mem_iff.mp member
  rw [IndexMap.lasts_filterMap keyed uniform.pairwise,List.mem_filterMap] at last
  obtain ⟨item,kept,made⟩ := last
  cases item with
  | plain f => cases made
  | group f delimiter runs =>
    cases made
    have listed : .group f delimiter runs ∈ items :=
      (IndexMap.lasts_append_replaced items).subset (List.mem_append_left _ kept)
    refine ⟨f,delimiter,runs,listed,?_,rfl⟩
    have field : f ∈ IndexMap.lasts Field.tag (items.map Item.field) := by
      rw [IndexMap.lasts_map]
      exact List.mem_map.mpr ⟨_,kept,rfl⟩
    exact (IndexMap.insertAll_perm _).mem_iff.mpr field

namespace MessageBuilder
variable {arith : Arith} {b : MessageBuilder}

/-- An entry has one delimiter. -/
theorem delimiters_counted {spec : GroupSpecification} {delimiter : TagU32} {after : Option TagU32} {runs : List (List Item)}
    (first : spec.delimiter_tag = .ok delimiter) (allowed : b.Entries spec delimiter after runs) :
    runs.flatten.countP (fun item => item.tag = delimiter) = runs.length := by
  induction runs with
  | nil => rfl
  | cons items rest ih =>
    obtain ⟨f,more,rfl,tagged,more_allowed⟩ := entry_opens first allowed
    have others : more.countP (fun item => item.tag = delimiter) = 0 := by
      rw [List.countP_eq_zero]
      intro item member
      have placed := items_placed (Nat.le_refl 1) more_allowed _ (List.mem_map_of_mem member)
      simpa using placed_other first placed
    have opener : Item.tag (.plain f) = delimiter := tagged
    rw [List.flatten_cons,List.countP_append,List.countP_cons,others,ih allowed.2.2]
    simp [opener,Nat.add_comm]

theorem following_some (items : List Item) (tag : TagU32) : ∃ next, following items (some tag) = some next := by
  cases items with
  | nil => exact ⟨tag,rfl⟩
  | cons item rest => exact ⟨item.tag,rfl⟩

theorem next_entry_some (delimiter : TagU32) (entries : List (List Item)) (tag : TagU32) :
    ∃ next, next_entry delimiter entries (some tag) = some next := by
  cases entries with
  | nil => exact ⟨tag,rfl⟩
  | cons items rest => exact ⟨delimiter,rfl⟩

/-- A group that has ended is stored with an entry for every delimiter. -/
def GroupCut (item : Item) : Prop :=
  ∀ f delimiter runs, item = .group f delimiter runs → runs ≠ [] ∧
    runs.flatten.countP (fun item => item.tag = delimiter) = runs.length ∧
    FieldMap.EntriesCut (Item.store_entries f.tag delimiter runs) runs

theorem items_cut {items : List Item} (uniform : Item.UniformItems items) (each : ∀ item ∈ items, GroupCut item) :
    (Item.store_items FieldMap.empty items).Cut items := by
  rcases stored : Item.store_items FieldMap.empty items with ⟨fields,groups⟩
  rw [FieldMap.Cut,FieldMap.groupsCut_iff]
  intro g member
  have inside : g ∈ (Item.store_items FieldMap.empty items).groups := by
    rw [stored]
    exact member
  obtain ⟨f,delimiter,runs,listed,kept,rfl⟩ := Item.stored_group uniform inside
  rw [stored] at kept
  obtain ⟨nonempty,counted,cut⟩ := each _ listed f delimiter runs rfl
  have length := Item.store_entries_length f.tag delimiter runs
  refine ⟨f,delimiter,runs,listed,kept,rfl,?_,length.trans counted.symm,cut⟩
  intro none
  dsimp only at none
  rw [none] at length
  exact nonempty (List.length_eq_zero_iff.mp length.symm)

mutual
theorem step_cut : ∀ {item : Item} {spec : GroupSpecification} {delimiter : TagU32} {idx idx' : Nat} {tag : TagU32},
    b.ItemStep spec delimiter idx idx' (some tag) item → GroupCut item
  | .plain f,spec,delimiter,idx,idx',tag,step => by
    intro f delimiter runs same
    cases same
  | .group f inner_delimiter runs,spec,delimiter,idx,idx',tag,step => by
    obtain ⟨position,inner,_,_,_,first,allowed,closed,_⟩ := step
    rintro _ _ _ ⟨⟩
    exact ⟨(closed tag rfl).1,delimiters_counted first allowed,runs_cut _ allowed⟩
theorem entry_cut : ∀ {items : List Item} {spec : GroupSpecification} {delimiter : TagU32} {idx : Nat} {tag : TagU32},
    b.EntryItems spec delimiter idx (some tag) items → ∀ item ∈ items, GroupCut item
  | [],_,_,_,_,_ => List.forall_mem_nil _
  | item :: rest,spec,delimiter,idx,tag,allowed => by
    obtain ⟨idx',step,rest_allowed⟩ := allowed
    obtain ⟨next,follows⟩ := following_some rest tag
    rw [follows] at step
    exact List.forall_mem_cons.mpr ⟨step_cut step,entry_cut rest_allowed⟩
theorem runs_cut (start_tag : TagU32) : ∀ {runs : List (List Item)} {spec : GroupSpecification} {delimiter : TagU32} {tag : TagU32},
    b.Entries spec delimiter (some tag) runs → FieldMap.EntriesCut (Item.store_entries start_tag delimiter runs) runs
  | [],_,_,_,_ => by
    rw [Item.store_entries,FieldMap.EntriesCut]
    trivial
  | items :: rest,spec,delimiter,tag,allowed => by
    obtain ⟨_,items_allowed,rest_allowed⟩ := allowed
    obtain ⟨next,ahead⟩ := next_entry_some delimiter rest tag
    have uniform := uniform_of_kind (entry_kind spec delimiter) (entry_uniform items_allowed)
    rw [ahead] at items_allowed
    rw [Item.store_entries,FieldMap.EntriesCut]
    exact ⟨items_cut uniform (entry_cut items_allowed),runs_cut start_tag rest_allowed⟩
end

theorem body_cut {spec : MessageSpecification} {tag : TagU32} {items : List Item} (allowed : b.BodyItems spec (some tag) items) :
    ∀ item ∈ items, GroupCut item := by
  induction items with
  | nil => exact List.forall_mem_nil _
  | cons item rest ih =>
    refine List.forall_mem_cons.mpr ⟨?_,ih allowed.2⟩
    obtain ⟨next,follows⟩ := following_some rest tag
    have step := allowed.1
    rw [follows] at step
    rintro f delimiter runs rfl
    obtain ⟨_,_,group_def,_,first,run,closed,_⟩ := step
    exact ⟨(closed next rfl).1,delimiters_counted first run,runs_cut _ run⟩

/-- The groups of a valid message are cut at the delimiters on the wire, whatever their
    count fields say. -/
theorem groups_by_delimiter (arith : Arith) (b : MessageBuilder) (data : Bytes) (m : Message)
    (built : build arith b data = .ok (.Valid m)) :
    m.header.groups = [] ∧ m.trailer.groups = [] ∧ ∃ r, Sectioned arith b data r ∧ m = r.message ∧ m.body.Cut r.items := by
  obtain ⟨r,sectioned,rfl⟩ := build_valid.mp built
  have flat (fields : List Field) : (FieldMap.empty.insert_fields fields).groups = [] := by
    rw [FieldMap.insert_fields_eq]
    rfl
  refine ⟨flat _,flat _,r,sectioned,rfl,?_⟩
  obtain ⟨p₁,p₂,p₃,p₄,p₅,n,body_end,first_body,first_trailer,name,spec,stop,reads⟩ := sectioned
  have allowed := reads.body.items_ok
  exact items_cut (body_uniform allowed) (body_cut allowed)

/-- Two parties are announced, and one is there. -/
def overstated : Bytes := ascii "8=F|9=17|35=B|453=2|448=x|10=076|"

/-- A group with one entry, and all fields of the body say two. -/
def overstates (m : Message) : Bool :=
  m.body.groups.any (fun g => g.2.length = 1) && m.body.fields.all (fun f => Decimal.parseBelow U64 f.data = some 2)

theorem overstated_valid : ∃ m, build .exact SmallDictionary.builder overstated = .ok (.Valid m) ∧ overstates m = true :=
  Checked.valid_of_holds (by decide +kernel)

theorem overstated_cut : ∃ m, build .exact SmallDictionary.builder overstated = .ok (.Valid m) ∧
    ∃ r, Sectioned .exact SmallDictionary.builder overstated r ∧ m = r.message ∧ m.body.Cut r.items := by
  obtain ⟨m,built,-⟩ := overstated_valid
  exact ⟨m,built,(groups_by_delimiter .exact SmallDictionary.builder overstated m built).2.2⟩

/-- A count is taken as it comes. -/
theorem counts_unchecked : ¬ ∀ (arith : Arith) (dict : Dictionary) (config : Config) (b : MessageBuilder) (data : Bytes)
    (m : Message), new dict config = .ok b → build arith b data = .ok (.Valid m) → m.Honest := by
  intro always
  obtain ⟨m,built,overstating⟩ := overstated_valid
  have honest := (always .exact SmallDictionary.dict SmallDictionary.config SmallDictionary.builder overstated m
    SmallDictionary.builder_made built).2.1
  rcases body : m.body with ⟨fields,groups⟩
  rw [overstates,body,Bool.and_eq_true] at overstating
  rw [body,FieldMap.Honest] at honest
  obtain ⟨g,member,one⟩ := List.any_eq_true.mp overstating.1
  obtain ⟨f,listed,_,count⟩ := honest.count g member
  have two := of_decide_eq_true (List.all_eq_true.mp overstating.2 f listed)
  rw [two,of_decide_eq_true one] at count
  cases count

end MessageBuilder
end HotFix
