import HotFix.QuickFix
import Mathlib.Logic.Relation
import Mathlib.Data.Finset.Card

/-!
Dictionaries that can be used. The reader notes the components of a layout by name,
without looking them up; the message builder looks them up when it derives the
specifications, and follows them to the end. So the builder can be made if every
component that a message reaches exists and is not reached from itself, and its
groups have a delimiter if each of them declares a field. That a component is not reached
from itself is a matter of ranks: the number of elements that can be reached goes down
with each step of a finite relation without cycles, and what goes down meets no cycle.
-/
namespace HotFix.Ranks
open Relation
variable {α : Type} {nodes : Finset α} {step : α → α → Prop} {a b : α}

/-! ### Finite relations without cycles -/

open Classical in
/-- The number of elements that can be reached, itself included. -/
noncomputable def rank (nodes : Finset α) (step : α → α → Prop) (a : α) : Nat :=
  (nodes.filter (fun b => ReflTransGen step a b)).card

theorem rank_le (nodes : Finset α) (step : α → α → Prop) (a : α) : rank nodes step a ≤ nodes.card := by
  classical
  exact Finset.card_filter_le _ _

theorem rank_pos (listed : a ∈ nodes) : 0 < rank nodes step a := by
  classical
  exact Finset.card_pos.mpr ⟨a,Finset.mem_filter.mpr ⟨listed,.refl⟩⟩

theorem rank_lt (listed : a ∈ nodes) (acyclic : ¬ TransGen step a a) (next : step a b) :
    rank nodes step b < rank nodes step a := by
  classical
  refine Finset.card_lt_card (Finset.ssubset_iff_subset_ne.mpr ⟨fun c member => ?_,fun same => ?_⟩)
  · obtain ⟨inside,reached⟩ := Finset.mem_filter.mp member
    exact Finset.mem_filter.mpr ⟨inside,reached.head next⟩
  · have there : a ∈ nodes.filter (fun c => ReflTransGen step b c) := by
      rw [same]
      exact Finset.mem_filter.mpr ⟨listed,.refl⟩
    exact acyclic (.head' next (Finset.mem_filter.mp there).2)

section
variable {P : Nat → α → Prop} (descends : ∀ d a b, P d a → step a b → ∃ d' < d, P d' b)
include descends

theorem reached_below {d : Nat} (holds : P d a) (reached : ReflTransGen step a b) : ∃ d' ≤ d, P d' b := by
  induction reached with
  | refl => exact ⟨d,Nat.le_refl d,holds⟩
  | tail _ next ih =>
    obtain ⟨d',below,holds'⟩ := ih
    obtain ⟨d'',further,holds''⟩ := descends d' _ _ holds' next
    exact ⟨d'',by omega,holds''⟩

theorem no_cycle {d : Nat} (holds : P d a) : ¬ TransGen step a a := by
  induction d using Nat.strongRecOn with
  | ind d ih =>
    intro cycle
    obtain ⟨b,next,back⟩ := TransGen.head'_iff.mp cycle
    obtain ⟨d',below,holds'⟩ := descends d a b holds next
    obtain ⟨d'',further,holds''⟩ := reached_below descends holds' back
    exact ih d'' (by omega) holds'' cycle

end
end HotFix.Ranks

namespace HotFix.References
open HotFix.QuickFix Relation

/-! ### Components that are reached -/

/-- The layout refers to the component, itself or in one of its groups. -/
inductive Mentions : List LayoutItemData → Bytes → Prop where
  | component {items : List LayoutItemData} {required : Bool} {name : Bytes} (listed : .Component required name ∈ items) :
    Mentions items name
  | inside {items inner : List LayoutItemData} {required : Bool} {tag : Nat} {name : Bytes}
    (listed : .Group required tag inner ∈ items) (deeper : Mentions inner name) : Mentions items name

/-- The component of the first name refers to the second. -/
def Refers (dict : Dictionary) (name other : Bytes) : Prop :=
  ∃ c, dict.component_by_name name = some c ∧ Mentions c.layout_items other

/-- Every component that is reached from the name exists, and is not reached from
    itself. -/
def Sound (dict : Dictionary) (name : Bytes) : Prop :=
  ∀ other, ReflTransGen (Refers dict) name other →
    (dict.component_by_name other).isSome = true ∧ ¬ TransGen (Refers dict) other other

/-- Every component that the layout reaches exists, and is not reached from itself. -/
def Closed (dict : Dictionary) (items : List LayoutItemData) : Prop := ∀ name, Mentions items name → Sound dict name

variable {dict : Dictionary}

theorem Sound.step {name other : Bytes} (sound : Sound dict name) (next : Refers dict name other) : Sound dict other :=
  fun further reached => sound further (reached.head next)

theorem Closed.component {items : List LayoutItemData} {required : Bool} {name : Bytes} {c : ComponentData}
    (closed : Closed dict items) (listed : .Component required name ∈ items) (found : dict.component_by_name name = some c) :
    Closed dict c.layout_items :=
  fun _ mentioned => (closed name (.component listed)).step ⟨c,found,mentioned⟩

theorem Closed.inside {items inner : List LayoutItemData} {required : Bool} {tag : Nat} (closed : Closed dict items)
    (listed : .Group required tag inner ∈ items) : Closed dict inner :=
  fun name mentioned => closed name (.inside listed mentioned)

theorem Mentions.mono {items more : List LayoutItemData} {name : Bytes} (mentioned : Mentions items name) (part : items ⊆ more) :
    Mentions more name := by
  cases mentioned with
  | component listed => exact .component (part listed)
  | inside listed deeper => exact .inside (part listed) deeper

theorem Closed.mono {items more : List LayoutItemData} (closed : Closed dict more) (part : items ⊆ more) : Closed dict items :=
  fun name mentioned => closed name (mentioned.mono part)

theorem wired_mono {items more : List LayoutItemData} (known : Wired dict more) (part : items ⊆ more) : Wired dict items := by
  intro tag used
  cases used with
  | field listed => exact known tag (.field (part listed))
  | group listed => exact known tag (.group (part listed))
  | inside listed deeper => exact known tag (.inside (part listed) deeper)

/-! ### Every reference leads to an end -/

/-- The number of components that are reached from the name. -/
noncomputable def rank (dict : Dictionary) (name : Bytes) : Nat :=
  Ranks.rank (dict.components_by_name.map ComponentData.name).toFinset (Refers dict) name

theorem rank_le_depth (dict : Dictionary) (name : Bytes) : rank dict name ≤ dict.depth := by
  have counted := List.toFinset_card_le (dict.components_by_name.map ComponentData.name)
  rw [List.length_map] at counted
  exact (Ranks.rank_le _ _ _).trans counted

theorem listed_name {name : Bytes} {c : ComponentData} (found : dict.component_by_name name = some c) :
    name ∈ (dict.components_by_name.map ComponentData.name).toFinset := by
  obtain ⟨member,rfl⟩ := IndexMap.mem_of_get found
  exact List.mem_toFinset.mpr (List.mem_map_of_mem member)

theorem rank_step {name other : Bytes} (sound : Sound dict name) (next : Refers dict name other) :
    rank dict other < rank dict name := by
  obtain ⟨c,found,_⟩ := id next
  exact Ranks.rank_lt (listed_name found) (sound name .refl).2 next

theorem field_found {tag : Nat} (known : 0 < tag ∧ (dict.field_by_tag tag).isSome = true) :
    ∃ field tag', dict.field_by_tag tag = some field ∧ field.tag_u32 = .ok tag' := by
  obtain ⟨field,found⟩ := Option.isSome_iff_exists.mp known.2
  have same : field.tag = tag := (IndexMap.mem_of_get found).2
  have valid : 0 < field.tag ∧ field.tag < U32 := ⟨same ▸ known.1,field.fits⟩
  refine ⟨field,⟨field.tag,valid.1,valid.2⟩,found,?_⟩
  rw [FieldData.tag_u32,TagU32.new,dif_pos valid]
  rfl

theorem extract_own_field (depth : Nat) (required : Bool) {tag : Nat} (known : 0 < tag ∧ (dict.field_by_tag tag).isSome = true) :
    ∃ tag', extract_fields dict depth (.Field required tag) = .ok [⟨tag',required⟩] := by
  obtain ⟨field,tag',found,converted⟩ := field_found known
  refine ⟨tag',?_⟩
  rw [extract_fields,found]
  exact MessageBuilder.bind_eq_ok.mpr ⟨field,rfl,MessageBuilder.bind_eq_ok.mpr ⟨tag',converted,rfl⟩⟩

theorem extract_count_field (depth : Nat) (required : Bool) (inner : List LayoutItemData) {tag : Nat}
    (known : 0 < tag ∧ (dict.field_by_tag tag).isSome = true) :
    ∃ tag', extract_fields dict depth (.Group required tag inner) = .ok [⟨tag',required⟩] := by
  obtain ⟨field,tag',found,converted⟩ := field_found known
  refine ⟨tag',?_⟩
  rw [extract_fields,found]
  exact MessageBuilder.bind_eq_ok.mpr ⟨field,rfl,MessageBuilder.bind_eq_ok.mpr ⟨tag',converted,rfl⟩⟩

theorem extract_component {depth : Nat} {required : Bool} {name : Bytes} {c : ComponentData}
    (found : dict.component_by_name name = some c) :
    extract_fields dict (depth+1) (.Component required name) = flat_results (extract_fields dict depth) c.layout_items := by
  rw [extract_fields,found]
  change (ok_or (.InvalidComponent c.name) (dict.component_by_name c.name) >>= _) = _
  rw [component_name found,found]
  rfl

theorem flat_results_ok {α β : Type} {f : α → ParserResult (List β)} {as : List α} (each : ∀ a ∈ as, ∃ bs, f a = .ok bs) :
    ∃ bs, flat_results f as = .ok bs := by
  induction as with
  | nil => exact ⟨[],rfl⟩
  | cons a rest ih =>
    obtain ⟨bs,here⟩ := each a List.mem_cons_self
    obtain ⟨more,later⟩ := ih (fun a' member => each a' (List.mem_cons_of_mem a member))
    refine ⟨bs ++ more,?_⟩
    rw [flat_results,here,later]
    rfl

theorem component_wired (wired : AllWired dict) {name : Bytes} {c : ComponentData} (found : dict.component_by_name name = some c) :
    Wired dict c.layout_items :=
  wired.components c (IndexMap.mem_of_get found).1

/-- The fields of a closed layout can be extracted. -/
theorem extract_fields_ok (wired : AllWired dict) {depth : Nat} {items : List LayoutItemData} (known : Wired dict items)
    (closed : Closed dict items) (ranked : ∀ name, Mentions items name → rank dict name ≤ depth) :
    ∀ item ∈ items, ∃ fields, extract_fields dict depth item = .ok fields := by
  induction depth using Nat.strongRecOn generalizing items with
  | ind depth ih =>
    intro item listed
    match item with
    | .Field required tag =>
      obtain ⟨tag',extracted⟩ := extract_own_field depth required (known tag (.field listed))
      exact ⟨_,extracted⟩
    | .Group required tag inner =>
      obtain ⟨tag',extracted⟩ := extract_count_field depth required inner (known tag (.group listed))
      exact ⟨_,extracted⟩
    | .Component required name =>
      have sound := closed name (.component listed)
      obtain ⟨c,found⟩ := Option.isSome_iff_exists.mp (sound name .refl).1
      have positive : 0 < rank dict name := Ranks.rank_pos (listed_name found)
      have bounded := ranked name (.component listed)
      obtain ⟨below,rfl⟩ : ∃ below, depth = below+1 := ⟨depth-1,by omega⟩
      rw [extract_component found]
      refine flat_results_ok (ih below (Nat.lt_succ_self below) (component_wired wired found) (closed.component listed found) ?_)
      intro other mentioned
      have lower := rank_step sound ⟨c,found,mentioned⟩
      omega

/-- So can the fields of its groups. -/
theorem layout_fields_ok (wired : AllWired dict) {items : List LayoutItemData} (known : Wired dict items) (closed : Closed dict items) :
    ∃ fields, flat_results (extract_fields dict dict.depth) items = .ok fields :=
  flat_results_ok (extract_fields_ok wired known closed (fun name _ => rank_le_depth dict name))

mutual
/-- The groups of a closed item can be extracted where those of its components can. -/
theorem item_groups_ok (wired : AllWired dict) (component : Bytes → ParserResult Groups) : ∀ {item : LayoutItemData},
    Wired dict [item] → Closed dict [item] → (∀ name, Mentions [item] name → ∃ groups, component name = .ok groups) →
      ∃ groups, item_groups dict component item = .ok groups
  | .Field required tag,known,closed,available => by
    obtain ⟨field,tag',found,converted⟩ := field_found (known tag (.field List.mem_cons_self))
    refine ⟨[],?_⟩
    rw [item_groups,found]
    rfl
  | .Component required name,known,closed,available => by
    obtain ⟨c,found⟩ := Option.isSome_iff_exists.mp (closed name (.component List.mem_cons_self) name .refl).1
    obtain ⟨groups,extracted⟩ := available name (.component List.mem_cons_self)
    refine ⟨groups,?_⟩
    rw [item_groups,found]
    change component c.name = .ok groups
    rw [component_name found]
    exact extracted
  | .Group required tag inner,known,closed,available => by
    have inner_known : Wired dict inner := fun t used => known t (.inside List.mem_cons_self used)
    have inner_closed := closed.inside (List.mem_singleton.mpr rfl)
    obtain ⟨field,tag',found,converted⟩ := field_found (known tag (.group List.mem_cons_self))
    obtain ⟨nested,extracted⟩ := layout_groups_ok wired component [] inner_known inner_closed
      (fun name mentioned => available name (.inside List.mem_cons_self mentioned))
    obtain ⟨fields,flat⟩ := layout_fields_ok wired inner_known inner_closed
    refine ⟨[(tag',.mk tag' fields nested)],?_⟩
    rw [item_groups,found]
    exact MessageBuilder.bind_eq_ok.mpr ⟨field,rfl,MessageBuilder.bind_eq_ok.mpr ⟨nested,extracted,
      MessageBuilder.bind_eq_ok.mpr ⟨tag',converted,MessageBuilder.bind_eq_ok.mpr ⟨fields,flat,rfl⟩⟩⟩⟩
theorem layout_groups_ok (wired : AllWired dict) (component : Bytes → ParserResult Groups) : ∀ {items : List LayoutItemData}
    (groups : Groups), Wired dict items → Closed dict items →
      (∀ name, Mentions items name → ∃ groups, component name = .ok groups) →
        ∃ result, layout_groups dict component groups items = .ok result
  | [],groups,known,closed,available => ⟨groups,by rw [layout_groups]⟩
  | item :: rest,groups,known,closed,available => by
    have first : [item] ⊆ item :: rest := by simp
    have later : rest ⊆ item :: rest := by simp
    obtain ⟨more,here⟩ := item_groups_ok wired component (wired_mono known first) (closed.mono first)
      (fun name mentioned => available name (mentioned.mono first))
    obtain ⟨result,there⟩ := layout_groups_ok wired component (extend groups more) (wired_mono known later) (closed.mono later)
      (fun name mentioned => available name (mentioned.mono later))
    refine ⟨result,?_⟩
    rw [layout_groups]
    exact MessageBuilder.bind_eq_ok.mpr ⟨more,here,there⟩
end

theorem component_groups_ok (wired : AllWired dict) {depth : Nat} {name : Bytes} (sound : Sound dict name) (ranked : rank dict name ≤ depth) :
    ∃ groups, component_groups dict depth name = .ok groups := by
  induction depth generalizing name with
  | zero =>
    obtain ⟨c,found⟩ := Option.isSome_iff_exists.mp (sound name .refl).1
    have positive : 0 < rank dict name := Ranks.rank_pos (listed_name found)
    omega
  | succ depth ih =>
    obtain ⟨c,found⟩ := Option.isSome_iff_exists.mp (sound name .refl).1
    rw [component_groups,found]
    refine layout_groups_ok wired _ [] (component_wired wired found) (fun _ mentioned => sound.step ⟨c,found,mentioned⟩)
      (fun other mentioned => ?_)
    have lower := rank_step sound ⟨c,found,mentioned⟩
    exact ih (sound.step ⟨c,found,mentioned⟩) (by omega)

/-- A closed layout has a specification. -/
theorem specification_ok (wired : AllWired dict) {message : MessageData} (known : Wired dict message.layout_items)
    (closed : Closed dict message.layout_items) :
    ∃ spec, build_message_specification dict message = .ok spec := by
  obtain ⟨fields,flat⟩ := layout_fields_ok wired known closed
  obtain ⟨groups,extracted⟩ := layout_groups_ok wired (component_groups dict dict.depth) [] known closed
    (fun name mentioned => component_groups_ok wired (closed name mentioned) (rank_le_depth dict name))
  exact ⟨⟨fields,groups⟩,MessageBuilder.bind_eq_ok.mpr ⟨fields,flat,MessageBuilder.bind_eq_ok.mpr ⟨groups,extracted,rfl⟩⟩⟩

/-! ### What the specifications lead to -/

theorem layout_groups_items {component : Bytes → ParserResult Groups} {items : List LayoutItemData} {groups result : Groups}
    (extracted : layout_groups dict component groups items = .ok result) :
    ∀ item ∈ items, ∃ more, item_groups dict component item = .ok more := by
  induction items generalizing groups with
  | nil => exact List.forall_mem_nil _
  | cons item rest ih =>
    rw [layout_groups] at extracted
    obtain ⟨more,first,extracted⟩ := MessageBuilder.bind_eq_ok.mp extracted
    exact List.forall_mem_cons.mpr ⟨⟨more,first⟩,ih extracted⟩

/-- Every component that a layout refers to was looked up. -/
theorem mentioned_extracted {component : Bytes → ParserResult Groups} {items : List LayoutItemData} {name : Bytes} {groups result : Groups}
    (mentioned : Mentions items name) (extracted : layout_groups dict component groups items = .ok result) :
    ∃ more, component name = .ok more := by
  induction mentioned generalizing groups result with
  | component listed =>
    obtain ⟨more,first⟩ := layout_groups_items extracted _ listed
    rw [item_groups] at first
    obtain ⟨c,found,first⟩ := MessageBuilder.bind_eq_ok.mp first
    rw [component_name (unwrap_ok.mp found)] at first
    exact ⟨more,first⟩
  | inside listed deeper ih =>
    obtain ⟨more,first⟩ := layout_groups_items extracted _ listed
    rw [item_groups] at first
    obtain ⟨len_field,found,first⟩ := MessageBuilder.bind_eq_ok.mp first
    obtain ⟨nested,recursive,first⟩ := MessageBuilder.bind_eq_ok.mp first
    exact ih recursive

/-- The groups of the component were extracted within so many references. -/
def Extracted (dict : Dictionary) (depth : Nat) (name : Bytes) : Prop := ∃ groups, component_groups dict depth name = .ok groups

theorem Extracted.found {depth : Nat} {name : Bytes} (extracted : Extracted dict depth name) :
    (dict.component_by_name name).isSome = true := by
  obtain ⟨groups,extracted⟩ := extracted
  obtain ⟨c,found,-⟩ := component_groups_derived dict depth name groups extracted
  rw [found]
  rfl

theorem extracted_descends (depth : Nat) (name other : Bytes) (extracted : Extracted dict depth name) (next : Refers dict name other) :
    ∃ below < depth, Extracted dict below other := by
  obtain ⟨groups,extracted⟩ := extracted
  obtain ⟨c,found,mentioned⟩ := next
  cases depth with
  | zero => cases extracted
  | succ depth =>
    rw [component_groups,found] at extracted
    exact ⟨depth,Nat.lt_succ_self depth,mentioned_extracted mentioned extracted⟩

theorem Extracted.sound {depth : Nat} {name : Bytes} (extracted : Extracted dict depth name) : Sound dict name := by
  intro other reached
  obtain ⟨below,_,later⟩ := Ranks.reached_below extracted_descends extracted reached
  exact ⟨later.found,Ranks.no_cycle extracted_descends later⟩

/-- A layout that has a specification is closed. -/
theorem specification_closed {message : MessageData} {spec : MessageSpecification}
    (specified : build_message_specification dict message = .ok spec) : Closed dict message.layout_items := by
  rw [build_message_specification] at specified
  obtain ⟨fields,-,specified⟩ := MessageBuilder.bind_eq_ok.mp specified
  obtain ⟨groups,extracted,-⟩ := MessageBuilder.bind_eq_ok.mp specified
  exact fun name mentioned => Extracted.sound (mentioned_extracted mentioned extracted)

/-! ### Nothing is reported -/

/-- The computation returns or panics. -/
def Unreported {α : Type} (x : ParserResult α) : Prop := ∀ e, x ≠ .error (.Error e)

theorem unreported_ok {α : Type} (a : α) : Unreported (.ok a) := by
  intro e same
  cases same

theorem unreported_panic {α : Type} (message : String) : Unreported (.error (.Panic message) : ParserResult α) := by
  intro e same
  cases same

theorem unreported_unwrap {α : Type} (value : Option α) : Unreported (unwrap value) := by
  cases value with
  | none => exact unreported_panic _
  | some a => exact unreported_ok a

theorem unreported_bind {α β : Type} {x : ParserResult α} {f : α → ParserResult β} (first : Unreported x)
    (next : ∀ a, x = .ok a → Unreported (f a)) : Unreported (x >>= f) := by
  rcases x with (e | message) | a
  · exact absurd rfl (first e)
  · exact unreported_panic message
  · exact next a rfl

theorem unreported_mapM {α β : Type} {f : α → ParserResult β} {as : List α} (each : ∀ a, Unreported (f a)) : Unreported (as.mapM f) := by
  induction as with
  | nil => exact unreported_ok _
  | cons a rest ih =>
    rw [List.mapM_cons]
    exact unreported_bind (each a) (fun _ _ => unreported_bind ih (fun _ _ => unreported_ok _))

theorem unreported_flat {α β : Type} (f : α → ParserResult (List β)) (as : List α) : Unreported (flat_results f as) := by
  induction as with
  | nil => exact unreported_ok _
  | cons a rest ih =>
    rw [flat_results]
    rcases f a with (e | message) | bs
    · exact ih
    · exact unreported_panic message
    · dsimp only
      rcases more : flat_results f rest with (e | message) | bs'
      · exact absurd more (ih e)
      · exact unreported_panic message
      · exact unreported_ok _

theorem unreported_extract (depth : Nat) (item : LayoutItemData) : Unreported (extract_fields dict depth item) := by
  match depth,item with
  | depth,.Field required tag =>
    rw [extract_fields]
    exact unreported_bind (unreported_unwrap _) (fun _ _ => unreported_bind (unreported_unwrap _) (fun _ _ => unreported_ok _))
  | depth,.Group required tag inner =>
    rw [extract_fields]
    exact unreported_bind (unreported_unwrap _) (fun _ _ => unreported_bind (unreported_unwrap _) (fun _ _ => unreported_ok _))
  | 0,.Component required name =>
    rw [extract_fields]
    exact unreported_panic _
  | depth+1,.Component required name =>
    cases found : dict.component_by_name name with
    | none =>
      rw [extract_fields,found]
      exact unreported_panic _
    | some c =>
      rw [extract_component found]
      exact unreported_flat _ _

mutual
theorem unreported_item {component : Bytes → ParserResult Groups}
    (each : ∀ name, (dict.component_by_name name).isSome = true → Unreported (component name)) :
    ∀ item : LayoutItemData, Unreported (item_groups dict component item)
  | .Field required tag => by
    rw [item_groups]
    exact unreported_bind (unreported_unwrap _) (fun _ _ => unreported_ok _)
  | .Component required name => by
    rw [item_groups]
    refine unreported_bind (unreported_unwrap _) (fun c found => each c.name ?_)
    rw [unwrap_ok] at found
    rw [component_name found,found]
    rfl
  | .Group required tag inner => by
    rw [item_groups]
    refine unreported_bind (unreported_unwrap _) (fun _ _ => unreported_bind (unreported_layout each inner []) (fun _ _ => ?_))
    exact unreported_bind (unreported_unwrap _) (fun _ _ => unreported_bind (unreported_flat _ _) (fun _ _ => unreported_ok _))
theorem unreported_layout {component : Bytes → ParserResult Groups}
    (each : ∀ name, (dict.component_by_name name).isSome = true → Unreported (component name)) :
    ∀ (items : List LayoutItemData) (groups : Groups), Unreported (layout_groups dict component groups items)
  | [],groups => by
    rw [layout_groups]
    exact unreported_ok _
  | item :: rest,groups => by
    rw [layout_groups]
    exact unreported_bind (unreported_item each item) (fun _ _ => unreported_layout each rest _)
end

theorem unreported_component (depth : Nat) : ∀ name, (dict.component_by_name name).isSome = true →
    Unreported (component_groups dict depth name) := by
  induction depth with
  | zero => exact fun _ _ => unreported_panic _
  | succ depth ih =>
    intro name present
    obtain ⟨c,found⟩ := Option.isSome_iff_exists.mp present
    rw [component_groups,found]
    exact unreported_layout ih _ _

theorem unreported_specifications (dict : Dictionary) : Unreported (build_message_specifications dict) := by
  refine unreported_mapM (fun message => unreported_bind (unreported_bind (unreported_flat _ _) (fun _ _ => ?_)) (fun _ _ => unreported_ok _))
  exact unreported_bind (unreported_layout (unreported_component dict.depth) _ _) (fun _ _ => unreported_ok _)

/-! ### Headers and trailers -/

/-- The components that the layout itself refers to exist. -/
def Present (dict : Dictionary) (items : List LayoutItemData) : Prop :=
  ∀ required name, .Component required name ∈ items → (dict.component_by_name name).isSome = true

theorem unreported_direct (item : LayoutItemData) : Unreported (direct_tag dict item) := by
  cases item with
  | Field required tag =>
    exact unreported_bind (unreported_unwrap _) (fun _ _ => unreported_bind (unreported_unwrap _) (fun _ _ => unreported_ok _))
  | Group required tag inner => exact unreported_bind (unreported_unwrap _) (fun _ _ => unreported_ok _)
  | Component required name => exact unreported_bind (unreported_unwrap _) (fun _ _ => unreported_ok _)

theorem mapM_each {α β : Type} {f : α → ParserResult β} {as : List α} : (∃ bs, as.mapM f = .ok bs) ↔ ∀ a ∈ as, ∃ b, f a = .ok b := by
  induction as with
  | nil => exact ⟨fun _ => List.forall_mem_nil _,fun _ => ⟨[],rfl⟩⟩
  | cons a rest ih =>
    rw [List.forall_mem_cons,← ih,List.mapM_cons]
    constructor
    · rintro ⟨bs,mapped⟩
      obtain ⟨b,first,mapped⟩ := MessageBuilder.bind_eq_ok.mp mapped
      obtain ⟨more,later,-⟩ := MessageBuilder.bind_eq_ok.mp mapped
      exact ⟨⟨b,first⟩,more,later⟩
    · rintro ⟨⟨b,first⟩,more,later⟩
      exact ⟨b :: more,MessageBuilder.bind_eq_ok.mpr ⟨b,first,MessageBuilder.bind_eq_ok.mpr ⟨more,later,rfl⟩⟩⟩

theorem direct_tag_ok {item : LayoutItemData} (known : Wired dict [item]) :
    (∃ tags, direct_tag dict item = .ok tags) ↔ Present dict [item] := by
  cases item with
  | Field required tag =>
    obtain ⟨field,tag',found,converted⟩ := field_found (known tag (.field List.mem_cons_self))
    refine ⟨fun _ required name listed => by simp at listed,fun _ => ⟨[tag'],?_⟩⟩
    rw [direct_tag,found]
    exact MessageBuilder.bind_eq_ok.mpr ⟨field,rfl,MessageBuilder.bind_eq_ok.mpr ⟨tag',converted,rfl⟩⟩
  | Group required tag inner =>
    obtain ⟨field,tag',found,converted⟩ := field_found (known tag (.group List.mem_cons_self))
    refine ⟨fun _ required name listed => by simp at listed,fun _ => ⟨[],?_⟩⟩
    rw [direct_tag,found]
    rfl
  | Component required name =>
    constructor
    · rintro ⟨tags,resolved⟩ required' name' listed
      cases List.mem_singleton.mp listed
      obtain ⟨c,found,-⟩ := MessageBuilder.bind_eq_ok.mp resolved
      rw [unwrap_ok.mp found]
      rfl
    · intro present
      obtain ⟨c,found⟩ := Option.isSome_iff_exists.mp (present required name List.mem_cons_self)
      refine ⟨[],?_⟩
      rw [direct_tag,found]
      rfl

theorem present_each {items : List LayoutItemData} : Present dict items ↔ ∀ item ∈ items, Present dict [item] := by
  constructor
  · intro present item listed required name here
    exact present required name (List.mem_singleton.mp here ▸ listed)
  · intro each required name listed
    exact each _ listed required name List.mem_cons_self

theorem component_tags_eq {name : Bytes} {c : ComponentData} (found : dict.component_by_name name = some c) :
    get_tags_for_component dict name = (do return (← c.layout_items.mapM (direct_tag dict)).flatten) := by
  rw [get_tags_for_component,found]
  rfl

theorem component_tags_ok (wired : AllWired dict) {name : Bytes} {c : ComponentData} (found : dict.component_by_name name = some c) :
    (∃ tags, get_tags_for_component dict name = .ok tags) ↔ Present dict c.layout_items := by
  have each : (∃ tags, c.layout_items.mapM (direct_tag dict) = .ok tags) ↔ Present dict c.layout_items := by
    rw [mapM_each,present_each]
    refine forall₂_congr (fun item listed => direct_tag_ok (wired_mono (component_wired wired found) ?_))
    exact List.cons_subset.mpr ⟨listed,List.nil_subset _⟩
  rw [← each,component_tags_eq found]
  constructor
  · rintro ⟨tags,collected⟩
    obtain ⟨lists,mapped,-⟩ := MessageBuilder.bind_eq_ok.mp collected
    exact ⟨lists,mapped⟩
  · rintro ⟨lists,mapped⟩
    exact ⟨lists.flatten,MessageBuilder.bind_eq_ok.mpr ⟨lists,mapped,rfl⟩⟩

theorem unreported_tags {name : Bytes} {c : ComponentData} (found : dict.component_by_name name = some c) :
    Unreported (get_tags_for_component dict name) := by
  rw [component_tags_eq found]
  exact unreported_bind (unreported_mapM unreported_direct) (fun _ _ => unreported_ok _)

/-! ### The groups of a layout -/

/-- The groups that a layout lists, those of its components among them, each with its
    count field and its own layout. -/
inductive Lists (dict : Dictionary) : List LayoutItemData → List (Nat × List LayoutItemData) → Prop where
  | nil : Lists dict [] []
  | field {rest : List LayoutItemData} {groups : List (Nat × List LayoutItemData)} {required : Bool} {tag : Nat}
    (later : Lists dict rest groups) : Lists dict (.Field required tag :: rest) groups
  | group {rest inner : List LayoutItemData} {groups : List (Nat × List LayoutItemData)} {required : Bool} {tag : Nat}
    (later : Lists dict rest groups) : Lists dict (.Group required tag inner :: rest) ((tag,inner) :: groups)
  | component {rest : List LayoutItemData} {more groups : List (Nat × List LayoutItemData)} {required : Bool} {name : Bytes}
    {c : ComponentData} (found : dict.component_by_name name = some c) (inside : Lists dict c.layout_items more)
    (later : Lists dict rest groups) : Lists dict (.Component required name :: rest) (more ++ groups)

theorem Lists.unique {items : List LayoutItemData} {groups groups' : List (Nat × List LayoutItemData)}
    (lists : Lists dict items groups) (lists' : Lists dict items groups') : groups = groups' := by
  induction lists generalizing groups' with
  | nil =>
    cases lists'
    rfl
  | field later ih =>
    cases lists' with
    | field later' => exact ih later'
  | group later ih =>
    cases lists' with
    | group later' => rw [ih later']
  | component found inside later ih_inside ih =>
    cases lists' with
    | component found' inside' later' =>
      rw [found] at found'
      cases found'
      rw [ih_inside inside',ih later']

/-- The layout has a group of `inner` that no later one with the same count field
    replaces. -/
def Counts (dict : Dictionary) (items inner : List LayoutItemData) : Prop :=
  ∃ groups tag, Lists dict items groups ∧ (tag,inner) ∈ IndexMap.lasts Prod.fst groups

/-- The layout declares a field. -/
def Declares (dict : Dictionary) (items : List LayoutItemData) : Prop := ∃ tag, Declared dict items tag

/-- A group specification as it is made from a layout. -/
def Made (dict : Dictionary) (inner : List LayoutItemData) (spec : GroupSpecification) : Prop :=
  flat_results (extract_fields dict dict.depth) inner = .ok spec.fields ∧
    ∃ depth, layout_groups dict (component_groups dict depth) [] inner = .ok spec.nested_groups

/-- The listed group and the specification belong together. -/
def Entry (dict : Dictionary) (listed : Nat × List LayoutItemData) (made : TagU32 × GroupSpecification) : Prop :=
  listed.1 = made.1.get ∧ Made dict listed.2 made.2

theorem extend_append (groups first later : Groups) : extend groups (first ++ later) = extend (extend groups first) later := by
  unfold extend IndexMap.insertAll
  exact List.foldl_append

/-- The groups of a layout are those it lists, put into the map one after the other. -/
theorem layout_groups_listed {depth : Nat}
    (components : ∀ name groups, component_groups dict depth name = .ok groups → ∃ c lists made,
      dict.component_by_name name = some c ∧ Lists dict c.layout_items lists ∧ List.Forall₂ (Entry dict) lists made ∧
        groups = extend [] made)
    {items : List LayoutItemData} {groups result : Groups}
    (extracted : layout_groups dict (component_groups dict depth) groups items = .ok result) :
    ∃ lists made, Lists dict items lists ∧ List.Forall₂ (Entry dict) lists made ∧ result = extend groups made := by
  induction items generalizing groups with
  | nil =>
    rw [layout_groups] at extracted
    cases extracted
    exact ⟨[],[],.nil,.nil,rfl⟩
  | cons item rest ih =>
    rw [layout_groups] at extracted
    obtain ⟨more,first,extracted⟩ := MessageBuilder.bind_eq_ok.mp extracted
    obtain ⟨lists,made,later,related,rfl⟩ := ih extracted
    cases item with
    | Field required tag =>
      rw [item_groups] at first
      obtain ⟨field,found,first⟩ := MessageBuilder.bind_eq_ok.mp first
      cases first
      exact ⟨lists,made,.field later,related,rfl⟩
    | Group required tag inner =>
      rw [item_groups] at first
      obtain ⟨len_field,found,first⟩ := MessageBuilder.bind_eq_ok.mp first
      obtain ⟨nested,recursive,first⟩ := MessageBuilder.bind_eq_ok.mp first
      obtain ⟨tag',converted,first⟩ := MessageBuilder.bind_eq_ok.mp first
      obtain ⟨fields,flat,first⟩ := MessageBuilder.bind_eq_ok.mp first
      cases first
      have tagged := tag_u32_ok (unwrap_ok.mp found) converted
      exact ⟨(tag,inner) :: lists,(tag',.mk tag' fields nested) :: made,.group later,.cons ⟨tagged,flat,depth,recursive⟩ related,rfl⟩
    | Component required name =>
      rw [item_groups] at first
      obtain ⟨c,found,first⟩ := MessageBuilder.bind_eq_ok.mp first
      rw [component_name (unwrap_ok.mp found)] at first
      obtain ⟨c',lists',made',found',inside,related',rfl⟩ := components name more first
      refine ⟨lists' ++ lists,made' ++ made,.component found' inside later,List.rel_append related' related,?_⟩
      rw [extend_append]
      congr 1
      exact IndexMap.insertAll_insertAll groups made'

theorem component_groups_listed (depth : Nat) : ∀ name groups, component_groups dict depth name = .ok groups → ∃ c lists made,
    dict.component_by_name name = some c ∧ Lists dict c.layout_items lists ∧ List.Forall₂ (Entry dict) lists made ∧
      groups = extend [] made := by
  induction depth with
  | zero =>
    intro name groups extracted
    cases extracted
  | succ depth ih =>
    intro name groups extracted
    rw [component_groups] at extracted
    obtain ⟨c,found,extracted⟩ := MessageBuilder.bind_eq_ok.mp extracted
    obtain ⟨lists,made,listed,related,same⟩ := layout_groups_listed ih extracted
    exact ⟨c,lists,made,ok_or_ok.mp found,listed,related,same⟩

theorem tag_injective : Function.Injective TagU32.get := by
  rintro ⟨n,_,_⟩ ⟨m,_,_⟩ same
  cases same
  rfl

theorem forall₂_left {α β : Type} {R : α → β → Prop} {as : List α} {bs : List β} (related : List.Forall₂ R as bs) :
    ∀ a ∈ as, ∃ b ∈ bs, R a b := by
  induction related with
  | nil => exact List.forall_mem_nil _
  | @cons a b as bs first rest ih =>
    refine List.forall_mem_cons.mpr ⟨⟨b,List.mem_cons_self,first⟩,fun a' listed => ?_⟩
    obtain ⟨b',listed',related'⟩ := ih a' listed
    exact ⟨b',List.mem_cons_of_mem b listed',related'⟩

/-- The groups that count in a layout, and those of its specification, belong together. -/
theorem level_entries {depth : Nat} {items : List LayoutItemData} {groups : Groups}
    (extracted : layout_groups dict (component_groups dict depth) [] items = .ok groups) :
    (∀ g ∈ groups, ∃ inner, Counts dict items inner ∧ Made dict inner g.2) ∧
      ∀ inner, Counts dict items inner → ∃ g ∈ groups, Made dict inner g.2 := by
  obtain ⟨lists,made,listed,related,rfl⟩ := layout_groups_listed (component_groups_listed depth) extracted
  have last : List.Forall₂ (Entry dict) (IndexMap.lasts Prod.fst lists) (IndexMap.lasts Prod.fst made) :=
    IndexMap.lasts_forall₂ tag_injective (fun _ _ entry => entry.1) related
  have same : (extend [] made).Perm (IndexMap.lasts Prod.fst made) := IndexMap.insertAll_perm made
  constructor
  · intro g member
    obtain ⟨⟨tag,inner⟩,counted,entry⟩ := forall₂_left last.flip g (same.mem_iff.mp member)
    exact ⟨inner,⟨lists,tag,listed,counted⟩,entry.2⟩
  · rintro inner ⟨lists',tag,listed',counted⟩
    obtain rfl := listed.unique listed'
    obtain ⟨g,member,entry⟩ := forall₂_left last (tag,inner) counted
    exact ⟨g,same.mem_iff.mpr member,entry.2⟩

/-! ### Delimiters -/

/-- A specification of the groups, at any depth. -/
inductive Nested (groups : Groups) : GroupSpecification → Prop where
  | here {g : TagU32 × GroupSpecification} (listed : g ∈ groups) : Nested groups g.2
  | inside {spec : GroupSpecification} {g : TagU32 × GroupSpecification} (outer : Nested groups spec)
    (listed : g ∈ spec.nested_groups) : Nested groups g.2

theorem nested_counts {depth : Nat} {items : List LayoutItemData} {groups : Groups} {spec : GroupSpecification}
    (extracted : layout_groups dict (component_groups dict depth) [] items = .ok groups) (nested : Nested groups spec) :
    ∃ inner, TransGen (Counts dict) items inner ∧ Made dict inner spec := by
  induction nested with
  | here listed =>
    obtain ⟨inner,counts,made⟩ := (level_entries extracted).1 _ listed
    exact ⟨inner,.single counts,made⟩
  | inside outer listed ih =>
    obtain ⟨outside,reached,-,depth',recursive⟩ := ih
    obtain ⟨inner,counts,made⟩ := (level_entries recursive).1 _ listed
    exact ⟨inner,reached.tail counts,made⟩

theorem counts_nested {depth : Nat} {items inner : List LayoutItemData} {groups : Groups}
    (extracted : layout_groups dict (component_groups dict depth) [] items = .ok groups) (reached : TransGen (Counts dict) items inner) :
    ∃ spec, Nested groups spec ∧ Made dict inner spec := by
  induction reached with
  | single counts =>
    obtain ⟨g,listed,made⟩ := (level_entries extracted).2 _ counts
    exact ⟨g.2,.here listed,made⟩
  | tail _ counts ih =>
    obtain ⟨outer,nested,-,depth',recursive⟩ := ih
    obtain ⟨g,listed,made⟩ := (level_entries recursive).2 _ counts
    exact ⟨g.2,.inside nested listed,made⟩

/-- What the items give is all there. -/
theorem flat_results_part {α β : Type} {f : α → ParserResult (List β)} {as : List α} {bs : List β} (flat : flat_results f as = .ok bs)
    (each : ∀ a, Unreported (f a)) : ∀ a ∈ as, ∃ xs, f a = .ok xs ∧ xs ⊆ bs := by
  induction as generalizing bs with
  | nil => exact List.forall_mem_nil _
  | cons a rest ih =>
    rw [flat_results] at flat
    rcases here : f a with (e | message) | xs
    · exact absurd here (each a e)
    · rw [here] at flat
      cases flat
    · rw [here] at flat
      rcases later : flat_results f rest with e | ys
      · rw [later] at flat
        cases flat
      · rw [later] at flat
        cases flat
        refine List.forall_mem_cons.mpr ⟨⟨xs,here,List.subset_append_left xs ys⟩,fun a' listed => ?_⟩
        obtain ⟨xs',there,part⟩ := ih later a' listed
        exact ⟨xs',there,List.Subset.trans part (List.subset_append_right xs ys)⟩

theorem declared_extracted {depth : Nat} {items : List LayoutItemData} {tag : TagU32} {fields : List FieldSpecification}
    (declared : Declared dict items tag) (flat : flat_results (extract_fields dict depth) items = .ok fields) : fields ≠ [] := by
  induction declared generalizing depth fields with
  | field listed =>
    obtain ⟨xs,extracted,part⟩ := flat_results_part flat (unreported_extract depth) _ listed
    obtain ⟨tag',-,-,rfl⟩ := field_extracted extracted
    exact List.ne_nil_of_mem (part List.mem_cons_self)
  | group listed =>
    obtain ⟨xs,extracted,part⟩ := flat_results_part flat (unreported_extract depth) _ listed
    obtain ⟨tag',-,-,rfl⟩ := count_extracted extracted
    exact List.ne_nil_of_mem (part List.mem_cons_self)
  | component listed found inside ih =>
    obtain ⟨xs,extracted,part⟩ := flat_results_part flat (unreported_extract depth) _ listed
    obtain ⟨below,component,rfl,again,inner⟩ := component_extracted extracted
    cases found.symm.trans again
    obtain ⟨f,member⟩ := List.exists_mem_of_ne_nil xs (ih inner)
    exact List.ne_nil_of_mem (part member)

theorem made_declares {inner : List LayoutItemData} {spec : GroupSpecification} (made : Made dict inner spec) :
    spec.fields ≠ [] ↔ Declares dict inner := by
  constructor
  · intro nonempty
    obtain ⟨f,member⟩ := List.exists_mem_of_ne_nil spec.fields nonempty
    exact ⟨f.tag,layout_fields_declared made.1 f member⟩
  · rintro ⟨tag,declared⟩
    exact declared_extracted declared made.1

/-- The groups of a message all have a first field. -/
def Delimited (spec : MessageSpecification) : Prop := ∀ g, Nested spec.groups g → g.fields ≠ []

theorem delimited_iff {message : MessageData} {spec : MessageSpecification} (specified : build_message_specification dict message = .ok spec) :
    Delimited spec ↔ ∀ inner, TransGen (Counts dict) message.layout_items inner → Declares dict inner := by
  rw [build_message_specification] at specified
  obtain ⟨fields,-,specified⟩ := MessageBuilder.bind_eq_ok.mp specified
  obtain ⟨groups,extracted,specified⟩ := MessageBuilder.bind_eq_ok.mp specified
  cases specified
  constructor
  · intro delimited inner reached
    obtain ⟨g,nested,made⟩ := counts_nested extracted reached
    exact (made_declares made).mp (delimited g nested)
  · intro declares g nested
    obtain ⟨inner,reached,made⟩ := nested_counts extracted nested
    exact (made_declares made).mpr (declares inner reached)

/-! ### Dictionaries that can be used -/

/-- Every component that the message reaches exists and is not reached from itself, and
    every group that counts in it declares a field. -/
structure Fit (dict : Dictionary) (message : MessageData) : Prop where
  closed : Closed dict message.layout_items
  declares : ∀ inner, TransGen (Counts dict) message.layout_items inner → Declares dict inner

/-- Where there is a header, the components it refers to exist; where there is a trailer
    too, so do those of the trailer, and every message is fit. -/
def Usable (dict : Dictionary) : Prop :=
  ∀ header, dict.component_by_name (ascii "StandardHeader") = some header → Present dict header.layout_items ∧
    ∀ trailer, dict.component_by_name (ascii "StandardTrailer") = some trailer → Present dict trailer.layout_items ∧
      ∀ message ∈ dict.messages_by_msgtype, Fit dict message

/-- The builder was made, with groups that have a first field, or the error was
    reported. -/
def Used : ParserResult MessageBuilder → Prop
  | .ok b => ∀ entry ∈ b.message_specification, Delimited entry.2
  | .error (.Error _) => True
  | .error (.Panic _) => False

theorem mapM_result {α β : Type} {f : α → ParserResult β} {as : List α} {bs : List β} (mapped : as.mapM f = .ok bs) :
    ∀ a ∈ as, ∃ b ∈ bs, f a = .ok b := by
  induction as generalizing bs with
  | nil => exact List.forall_mem_nil _
  | cons a rest ih =>
    rw [List.mapM_cons] at mapped
    obtain ⟨b,first,mapped⟩ := MessageBuilder.bind_eq_ok.mp mapped
    obtain ⟨more,later,mapped⟩ := MessageBuilder.bind_eq_ok.mp mapped
    cases mapped
    refine List.forall_mem_cons.mpr ⟨⟨b,List.mem_cons_self,first⟩,fun a' listed => ?_⟩
    obtain ⟨b',member,result⟩ := ih later a' listed
    exact ⟨b',List.mem_cons_of_mem b member,result⟩

/-- The specifications can be built and have first fields if and only if the messages
    are fit. -/
theorem specifications_fit (wired : AllWired dict) :
    (∃ specs, build_message_specifications dict = .ok specs ∧ ∀ entry ∈ specs, Delimited entry.2) ↔
      ∀ message ∈ dict.messages_by_msgtype, Fit dict message := by
  constructor
  · rintro ⟨specs,built,delimited⟩ message listed
    obtain ⟨entry,member,result⟩ := mapM_result built message listed
    obtain ⟨spec,specified,result⟩ := MessageBuilder.bind_eq_ok.mp result
    cases result
    exact ⟨specification_closed specified,(delimited_iff specified).mp (delimited _ member)⟩
  · intro fit
    have each : ∀ message ∈ dict.messages_by_msgtype, ∃ entry : Bytes × MessageSpecification,
        (do return (message.msg_type,← build_message_specification dict message)) = .ok entry := by
      intro message listed
      obtain ⟨spec,specified⟩ := specification_ok wired (wired.messages message listed) (fit message listed).closed
      exact ⟨(message.msg_type,spec),MessageBuilder.bind_eq_ok.mpr ⟨spec,specified,rfl⟩⟩
    obtain ⟨specs,built⟩ := mapM_each.mpr each
    refine ⟨specs,built,fun entry member => ?_⟩
    obtain ⟨message,listed,result⟩ := mapM_mem built entry member
    obtain ⟨spec,specified,result⟩ := MessageBuilder.bind_eq_ok.mp result
    cases result
    exact (delimited_iff specified).mpr (fit message listed).declares

/-- A step that reports nothing has to return something that can be used. -/
theorem used_bind {α : Type} {x : ParserResult α} {f : α → ParserResult MessageBuilder} (first : Unreported x) :
    Used (x >>= f) ↔ ∃ a, x = .ok a ∧ Used (f a) := by
  rcases x with (e | message) | a
  · exact absurd rfl (first e)
  · constructor
    · exact False.elim
    · rintro ⟨a,same,_⟩
      cases same
  · constructor
    · exact fun used => ⟨a,rfl,used⟩
    · rintro ⟨_,same,used⟩
      cases same
      exact used

/-- A component that is missing is reported; one that is there has to refer to what
    exists. -/
theorem used_tags (wired : AllWired dict) {name : Bytes} {f : List TagU32 → ParserResult MessageBuilder} {P : Prop}
    (next : ∀ tags, Used (f tags) ↔ P) :
    Used (get_tags_for_component dict name >>= f) ↔
      ∀ c, dict.component_by_name name = some c → Present dict c.layout_items ∧ P := by
  cases found : dict.component_by_name name with
  | none =>
    have reported : get_tags_for_component dict name = .error (.Error (.InvalidComponent name)) := by
      rw [get_tags_for_component,found]
      rfl
    rw [reported]
    refine ⟨fun _ c same => ?_,fun _ => trivial⟩
    cases same
  | some c =>
    rw [used_bind (unreported_tags found)]
    constructor
    · rintro ⟨tags,collected,used⟩ c' same
      cases same
      exact ⟨(component_tags_ok wired found).mp ⟨tags,collected⟩,(next tags).mp used⟩
    · intro present
      obtain ⟨tags,collected⟩ := (component_tags_ok wired found).mpr (present c rfl).1
      exact ⟨tags,collected,(next tags).mpr (present c rfl).2⟩

/-- A dictionary that was read can be used if and only if the references that the builder
    follows lead to an end, and every group that it meets declares a field. -/
theorem loaded_usable {root : Node} (read : QuickFixReader.new root = .ok dict) (config : Config) :
    Used (MessageBuilder.new dict config) ↔ Usable dict := by
  have wired := read_wired read
  unfold MessageBuilder.new
  refine used_tags wired (fun header_tags => used_tags wired (fun trailer_tags => ?_))
  rw [used_bind (unreported_specifications dict),← specifications_fit wired]
  rfl

/-! ### Specifications with lines of text -/

def element (tag_name : String) (attributes : List (String × String)) (children : List Node) : Node :=
  .Element (ascii tag_name) (attributes.map (fun a => (ascii a.1,ascii a.2))) children

/-- A specification with two fields. -/
def specification (components messages : List Node) : Node :=
  element "fix" [("type","FIX"),("major","4"),("minor","4")]
    [element "header" [] [],element "trailer" [] [],element "messages" [] messages,element "components" [] components,
      element "fields" []
        [element "field" [("number","33"),("name","NoLinesOfText"),("type","NUMINGROUP")] [],
          element "field" [("number","58"),("name","Text"),("type","STRING")] []]]

def reference (kind name : String) (children : List Node) : Node := element kind [("name",name),("required","Y")] children

/-- A message of a group of lines. -/
def news : Node :=
  element "message" [("name","News"),("msgtype","B")] [reference "group" "NoLinesOfText" [reference "component" "Line" []]]

/-- The component of a line. -/
def line (children : List Node) : Node := element "component" [("name","Line")] children

def NO_LINES_OF_TEXT : FieldDefinition := ⟨⟨33,by decide,by decide⟩,.Body⟩

/-- The header and the trailer, which are empty. -/
def ends : List ComponentData := [⟨ascii "StandardHeader",[]⟩,⟨ascii "StandardTrailer",[]⟩]

/-- The dictionary of a specification whose lines, if it has them, are laid out so. -/
def lines_dict (lines : List ComponentData) (distinct : ((lines ++ ends).map ComponentData.name).Nodup) : Dictionary where
  fields_by_tags := [NO_LINES_OF_TEXT.tag,TEXT.tag].map FieldData.of_tag
  components_by_name := lines ++ ends
  messages_by_msgtype := [⟨ascii "B",[.Group true 33 [.Component true (ascii "Line")]]⟩]
  tags_distinct := by decide
  names_distinct := distinct
  msgtypes_distinct := by decide

def text_dict : Dictionary := lines_dict [⟨ascii "Line",[.Field true 58]⟩] (by decide)

def lines_spec : GroupSpecification := .mk NO_LINES_OF_TEXT.tag [⟨TEXT.tag,true⟩] []

def text_builder : MessageBuilder where
  dict := text_dict
  header_tags := []
  trailer_tags := []
  message_specification := [(ascii "B",⟨[⟨NO_LINES_OF_TEXT.tag,true⟩],[(NO_LINES_OF_TEXT.tag,lines_spec)]⟩)]
  config := Config.default

theorem text_used : Used (MessageBuilder.new text_dict Config.default) := by
  have made : MessageBuilder.new text_dict Config.default = .ok text_builder := rfl
  have alone : ∀ g, Nested [(NO_LINES_OF_TEXT.tag,lines_spec)] g → g = lines_spec := by
    intro g nested
    induction nested with
    | here listed => rw [List.mem_singleton.mp listed]
    | inside outer listed ih =>
      rw [ih] at listed
      cases listed
  rw [made]
  refine List.forall_mem_singleton.mpr (fun g nested => ?_)
  rw [alone g nested]
  simp [lines_spec,GroupSpecification.fields]

/-- A specification whose lines have a text. -/
theorem text_usable : QuickFixReader.new (specification [line [reference "field" "Text" []]] [news]) = .ok text_dict ∧ Usable text_dict := by
  have read : QuickFixReader.new (specification [line [reference "field" "Text" []]] [news]) = .ok text_dict := rfl
  exact ⟨read,(loaded_usable read Config.default).mp text_used⟩

/-- Specifications that are read without the component, and with one that refers to
    itself. The builder looks the one up in vain and follows the other without end. -/
theorem lines_unusable :
    (∃ dict, QuickFixReader.new (specification [] [news]) = .ok dict ∧ ¬ Used (MessageBuilder.new dict Config.default)) ∧
      ∃ dict, QuickFixReader.new (specification [line [reference "component" "Line" []]] [news]) = .ok dict ∧
        ¬ Used (MessageBuilder.new dict Config.default) := by
  refine ⟨⟨lines_dict [] (by decide),rfl,?_⟩,lines_dict [⟨ascii "Line",[.Component true (ascii "Line")]⟩] (by decide),rfl,?_⟩
  · exact id
  · exact id

end HotFix.References
