import HotFix.Program
import HotFix.Message
import HotFix.IndexMap

/-!
The FIX dictionary, and the specifications of messages and repeating groups that
the message builder derives from it. A layout refers to its fields by tag and to
components by name; the references are resolved when a specification is built, and
one that leads nowhere is a panic there.
-/
namespace HotFix

/-- An entry in a sequence of field definitions. -/
inductive LayoutItemData where
  | Component (required : Bool) (name : Bytes)
  | Group (required : Bool) (len_field_tag : Nat) (items : List LayoutItemData)
  | Field (required : Bool) (tag : Nat)

structure FieldData where
  tag : Nat
  fits : tag < U32

def FieldData.of_tag (tag : TagU32) : FieldData := ⟨tag.get,tag.fits⟩

structure ComponentData where
  name : Bytes
  layout_items : List LayoutItemData

structure MessageData where
  msg_type : Bytes
  layout_items : List LayoutItemData

/-- The tables of a dictionary, each under its primary key. -/
structure Dictionary where
  fields_by_tags : List FieldData
  components_by_name : List ComponentData
  messages_by_msgtype : List MessageData
  tags_distinct : (fields_by_tags.map FieldData.tag).Nodup
  names_distinct : (components_by_name.map ComponentData.name).Nodup
  msgtypes_distinct : (messages_by_msgtype.map MessageData.msg_type).Nodup

namespace Dictionary

def field_by_tag (dict : Dictionary) (tag : Nat) : Option FieldData :=
  IndexMap.get FieldData.tag tag dict.fields_by_tags

def component_by_name (dict : Dictionary) (name : Bytes) : Option ComponentData :=
  IndexMap.get ComponentData.name name dict.components_by_name

def message_by_msgtype (dict : Dictionary) (msgtype : Bytes) : Option MessageData :=
  IndexMap.get MessageData.msg_type msgtype dict.messages_by_msgtype

end Dictionary

/-! ### Specifications -/

inductive ParserError where
  | IOError
  | InvalidField (tag : Nat)
  | InvalidGroup (tag : Nat)
  | InvalidGroupFieldOrder (tag : Nat) (group_tag : Nat)
  | InvalidComponent (name : Bytes)
  | InvalidMsgType (msg_type : Bytes)
  | RequiredFieldMissing (tag : Nat) (group_tag : Option Nat)
  | Malformed (text : String)
  deriving DecidableEq

/-- What the builder returns, an error it reports, or a panic. -/
abbrev ParserResult := Except (Abort ParserError)

def unwrap {α : Type} : Option α → ParserResult α
  | some a => .ok a
  | none => .error (.Panic "called `Option::unwrap()` on a `None` value")

def expect {α : Type} (message : String) : Option α → ParserResult α
  | some a => .ok a
  | none => .error (.Panic message)

def ok_or {α : Type} (error : ParserError) : Option α → ParserResult α
  | some a => .ok a
  | none => .error (.Error error)

/-- `NonZeroU32::new`, on a number of 32 bits. -/
def TagU32.new (n : Nat) : Option TagU32 :=
  if valid : 0 < n ∧ n < U32 then some ⟨n,valid.1,valid.2⟩ else none

def FieldData.tag_u32 (f : FieldData) : ParserResult TagU32 := unwrap (TagU32.new f.tag)

structure FieldSpecification where
  tag : TagU32
  is_required : Bool
  deriving DecidableEq

inductive GroupSpecification where
  | mk (number_of_entries_tag : TagU32) (fields : List FieldSpecification)
    (nested_groups : List (TagU32 × GroupSpecification))

namespace GroupSpecification

def number_of_entries_tag : GroupSpecification → TagU32
  | .mk number_of_entries_tag _ _ => number_of_entries_tag

def fields : GroupSpecification → List FieldSpecification
  | .mk _ fields _ => fields

def nested_groups : GroupSpecification → List (TagU32 × GroupSpecification)
  | .mk _ _ nested_groups => nested_groups

def delimiter_tag (spec : GroupSpecification) : ParserResult TagU32 :=
  (expect "groups always have at least one field" spec.fields.head?).map FieldSpecification.tag

def contains_tag (spec : GroupSpecification) (tag : TagU32) : Bool := spec.fields.any (fun f => f.tag = tag)

def get_nested_group (spec : GroupSpecification) (tag : TagU32) : Option GroupSpecification :=
  (IndexMap.get Prod.fst tag spec.nested_groups).map Prod.snd

end GroupSpecification

structure MessageSpecification where
  fields : List FieldSpecification
  groups : List (TagU32 × GroupSpecification)

namespace MessageSpecification

def contains_tag (spec : MessageSpecification) (tag : TagU32) : Bool := spec.fields.any (fun f => f.tag = tag)

def get_group (spec : MessageSpecification) (tag : TagU32) : Option GroupSpecification :=
  (IndexMap.get Prod.fst tag spec.groups).map Prod.snd

end MessageSpecification

/-- `flat_map` over results, then `flatten`: errors are dropped, a panic is not. -/
def flat_results {α β : Type} (f : α → ParserResult (List β)) : List α → ParserResult (List β)
  | [] => .ok []
  | a :: rest =>
    match f a with
    | .ok bs => (flat_results f rest).map (bs ++ ·)
    | .error (.Error _) => flat_results f rest
    | .error (.Panic message) => .error (.Panic message)

/-- Component references that lead through more components than there are meet one
    twice, and the recursion has no end. -/
def Dictionary.depth (dict : Dictionary) : Nat := dict.components_by_name.length

/-- The fields of an item; `depth` component references may be followed one inside
    the other. -/
def extract_fields (dict : Dictionary) : Nat → LayoutItemData → ParserResult (List FieldSpecification)
  | _,.Field required tag => do
    let field ← unwrap (dict.field_by_tag tag)
    return [⟨← field.tag_u32,required⟩]
  | _,.Group required len_field_tag _ => do
    let len_field ← unwrap (dict.field_by_tag len_field_tag)
    return [⟨← len_field.tag_u32,required⟩]
  | 0,.Component _ _ => .error (.Panic "stack overflow")
  | depth+1,.Component _ name => do
    let c ← unwrap (dict.component_by_name name)
    let component ← ok_or (.InvalidComponent c.name) (dict.component_by_name c.name)
    flat_results (extract_fields dict depth) component.layout_items

/-- Groups by the tags of their count fields. -/
abbrev Groups := List (TagU32 × GroupSpecification)

/-- `HashMap::extend`. -/
def extend (groups more : Groups) : Groups := IndexMap.insertAll Prod.fst groups more

mutual
/-- `extract_groups` on one item; `component` gives the groups of the component of
    a name. -/
def item_groups (dict : Dictionary) (component : Bytes → ParserResult Groups) : LayoutItemData → ParserResult Groups
  | .Component _ name => do
    let c ← unwrap (dict.component_by_name name)
    component c.name
  | .Group _ len_field_tag items => do
    let len_field ← unwrap (dict.field_by_tag len_field_tag)
    let nested_groups ← layout_groups dict component [] items
    let tag ← len_field.tag_u32
    let fields ← flat_results (extract_fields dict dict.depth) items
    return [(tag,.mk tag fields nested_groups)]
  | .Field _ tag => do
    let _ ← unwrap (dict.field_by_tag tag)
    return []
/-- `extract_groups` on the items of a layout, each extending the map. -/
def layout_groups (dict : Dictionary) (component : Bytes → ParserResult Groups) (groups : Groups) :
    List LayoutItemData → ParserResult Groups
  | [] => .ok groups
  | item :: rest => do
    let more ← item_groups dict component item
    layout_groups dict component (extend groups more) rest
end

def component_groups (dict : Dictionary) : Nat → Bytes → ParserResult Groups
  | 0,_ => .error (.Panic "stack overflow")
  | depth+1,name => do
    let component ← ok_or (.InvalidComponent name) (dict.component_by_name name)
    layout_groups dict (component_groups dict depth) [] component.layout_items

def build_message_specification (dict : Dictionary) (message : MessageData) : ParserResult MessageSpecification := do
  let fields ← flat_results (extract_fields dict dict.depth) message.layout_items
  let groups ← layout_groups dict (component_groups dict dict.depth) [] message.layout_items
  return ⟨fields,groups⟩

/-- One specification for each message, under its type. -/
def build_message_specifications (dict : Dictionary) : ParserResult (List (Bytes × MessageSpecification)) :=
  dict.messages_by_msgtype.mapM (fun message => do
    return (message.msg_type,← build_message_specification dict message))

/-- The tag of an item that is a field itself. The references of the other items are
    resolved as well. -/
def direct_tag (dict : Dictionary) : LayoutItemData → ParserResult (List TagU32)
  | .Field _ tag => do
    let field ← unwrap (dict.field_by_tag tag)
    return [← field.tag_u32]
  | .Group _ len_field_tag _ => do
    let _ ← unwrap (dict.field_by_tag len_field_tag)
    return []
  | .Component _ name => do
    let _ ← unwrap (dict.component_by_name name)
    return []

def get_tags_for_component (dict : Dictionary) (component_name : Bytes) : ParserResult (List TagU32) := do
  let component ← ok_or (.InvalidComponent component_name) (dict.component_by_name component_name)
  let tags ← component.layout_items.mapM (direct_tag dict)
  return tags.flatten

end HotFix
