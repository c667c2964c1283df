import HotFix.Store
import HotFix.Dictionary
import Mathlib.Data.List.Sort

/-!
The message builder: from the bytes of a frame to a message. The integrity check
reads the first fields and the checksum, then the header, the body with its
repeating groups and the trailer are read one after the other from one cursor.
Panics are results. Loops take a number of rounds; `build` gives them more than
there are bytes, and every round reads a field.
-/
namespace HotFix

/-- A value, or the panic that came before it. -/
abbrev Checked := Except String

def Checked.lift {ε α : Type} : Checked α → Except (Abort ε) α
  | .ok a => .ok a
  | .error message => .error (.Panic message)

/-- A checked result is the number, within the bound. -/
theorem checked_eq_ok {bound x result : Nat} {message : String} :
    (if x < bound then .ok x else .error message : Checked Nat) = .ok result ↔ x = result ∧ result < bound := by
  split_ifs with fits
  · constructor
    · intro same
      cases same
      exact ⟨rfl,fits⟩
    · rintro ⟨rfl,_⟩
      rfl
  · constructor
    · intro same
      cases same
    · rintro ⟨rfl,below⟩
      exact absurd below fits

def usize_add (arith : Arith) (a b : Nat) : Checked Nat :=
  match arith with
  | .exact => if a + b < U64 then .ok (a + b) else .error "attempt to add with overflow"
  | .wrapping => .ok ((a + b) % U64)

/-- `tag * 10 + (byte as u32 - b'0' as u32)`. -/
def tag_digit (arith : Arith) (tag : Nat) (byte : UInt8) : Checked Nat :=
  match arith with
  | .exact =>
    if U32 ≤ tag * 10 then .error "attempt to multiply with overflow"
    else if byte.toNat < 48 then .error "attempt to subtract with overflow"
    else if U32 ≤ tag * 10 + (byte.toNat - 48) then .error "attempt to add with overflow"
    else .ok (tag * 10 + (byte.toNat - 48))
  | .wrapping => .ok ((tag * 10 + (byte.toNat + U32 - 48)) % U32)

def tag_from_bytes (arith : Arith) (bytes : Bytes) : Checked (Option TagU32) := do
  let tag ← bytes.foldlM (tag_digit arith) 0
  return TagU32.new tag

/-! ### The cursor -/

structure Parser where
  position : Nat
  raw_data : Bytes
  config : Config

namespace Parser
variable (arith : Arith)

/-- The field at a position, and where its separator stands. The tag ends at the
    first equal sign, wherever that is. -/
def parse_field_at (p : Parser) (position : Nat) : Checked (Option (Field × Nat)) :=
  if p.raw_data.length < position then .error "range start index out of range for slice" else
  let iter := p.raw_data.drop position
  match iter.findIdx? (fun c => c = 61) with
  | none => .ok none
  | some until_equal_sign =>
    let after := iter.drop (until_equal_sign + 1)
    match after.findIdx? (fun c => c = p.config.separator) with
    | none => .ok none
    | some bytes_until_separator => do
      let some tag ← tag_from_bytes arith (iter.take until_equal_sign) | return none
      let separator_position := position + until_equal_sign + bytes_until_separator + 1
      return some (⟨tag,after.take bytes_until_separator⟩,separator_position)

/-- The next field and the cursor behind it. Without a field the cursor stays. -/
def next_field (p : Parser) : Checked (Option (Field × Parser)) := do
  let some (field,end_position) ← p.parse_field_at arith p.position | return none
  return some (field,{ p with position := end_position + 1 })

end Parser

/-! ### The integrity check -/

namespace CheckSum

def compute (data : Bytes) : UInt8 := data.foldl (fun value byte => value + byte) 0

/-- Three ASCII digits; the value wraps at 256. -/
def deserialize : Bytes → Option UInt8
  | [a,b,c] =>
    if Decimal.isDigit a && Decimal.isDigit b && Decimal.isDigit c then
      some ((a - 48) * 100 + (b - 48) * 10 + (c - 48))
    else none
  | _ => none

end CheckSum

/-- `10=`, three bytes for the value, and the separator. -/
def CHECKSUM_LENGTH : Nat := 7

def USER_DEFINED_TAG_MIN : Nat := 5000

inductive MessageIntegrityError where
  | InvalidBeginString
  | InvalidBodyLength
  | InvalidMsgType
  | InvalidCheckSum
  deriving DecidableEq

def MessageIntegrityError.parsed : MessageIntegrityError → ParsedMessage
  | .InvalidBeginString => .Garbled .InvalidBeginString
  | .InvalidBodyLength => .Garbled .InvalidBodyLength
  | .InvalidMsgType => .Garbled .InvalidMsgType
  | .InvalidCheckSum => .Garbled .InvalidChecksum

abbrev IntegrityResult := Except (Abort MessageIntegrityError)

/-- What `parse_begin_string`, `parse_body_length` and `parse_message_type` do: the
    next field, which must have the tag. -/
def Parser.parse_leading (arith : Arith) (p : Parser) (tag : TagU32) (error : MessageIntegrityError) :
    IntegrityResult (Field × Parser) := do
  match ← (p.next_field arith).lift with
  | some (field,p) => if field.tag = tag then return (field,p) else throw (.Error error)
  | none => throw (.Error error)

def Parser.parse_begin_string (arith : Arith) (p : Parser) : IntegrityResult (Field × Parser) :=
  p.parse_leading arith BEGIN_STRING.tag .InvalidBeginString
def Parser.parse_body_length (arith : Arith) (p : Parser) : IntegrityResult (Field × Parser) :=
  p.parse_leading arith BODY_LENGTH.tag .InvalidBodyLength
def Parser.parse_message_type (arith : Arith) (p : Parser) : IntegrityResult (Field × Parser) :=
  p.parse_leading arith MSG_TYPE.tag .InvalidMsgType

def Parser.parse_checksum (arith : Arith) (p : Parser) (checksum_start : Nat) : IntegrityResult Field := do
  match ← (p.parse_field_at arith checksum_start).lift with
  | some (checksum,_) => if checksum.tag = CHECK_SUM.tag then return checksum else throw (.Error .InvalidCheckSum)
  | none => throw (.Error .InvalidCheckSum)

/-- The first three fields and the checksum, with the cursor behind MsgType. A
    checksum that does not read as one is not compared. -/
def verify_integrity (arith : Arith) (parser : Parser) : IntegrityResult (FieldMap × FieldMap × Parser) := do
  let (begin_string_field,parser) ← parser.parse_begin_string arith
  let header := FieldMap.empty.insert begin_string_field
  let (body_length_field,parser) ← parser.parse_body_length arith
  let header := header.insert body_length_field
  let some body_length := header.get_u64 BODY_LENGTH | throw (.Error .InvalidBodyLength)
  let body_end ← (usize_add arith parser.position body_length).lift
  let expected_length ← (usize_add arith body_end CHECKSUM_LENGTH).lift
  if parser.raw_data.length ≠ expected_length then throw (.Error .InvalidBodyLength)
  let checksum_field ← parser.parse_checksum arith body_end
  let trailer := FieldMap.empty.insert checksum_field
  match (trailer.get_raw CHECK_SUM.tag).bind CheckSum.deserialize with
  | some checksum =>
    if CheckSum.compute (parser.raw_data.take body_end) ≠ checksum then throw (.Error .InvalidCheckSum)
  | none => pure ()
  let (msg_type_field,parser) ← parser.parse_message_type arith
  return (header.insert msg_type_field,trailer,parser)

/-! ### Repeating groups -/

inductive SetGroupsError where
  | EmptyGroups
  | MultipleStartTagsAndDelimiters

def SetGroupsError.to_string : SetGroupsError → String
  | .EmptyGroups => "Supplied empty vector of groups"
  | .MultipleStartTagsAndDelimiters => "Supplied groups contain multiple start tags"

namespace RepeatingGroup

def start_tag : RepeatingGroup → TagU32
  | .mk start_tag _ _ => start_tag

def delimiter_tag : RepeatingGroup → TagU32
  | .mk _ delimiter_tag _ => delimiter_tag

def get_fields : RepeatingGroup → FieldMap
  | .mk _ _ fields => fields

def new_with_tags (start_tag delimiter_tag : TagU32) : RepeatingGroup := .mk start_tag delimiter_tag FieldMap.empty

def store_field (g : RepeatingGroup) (f : Field) : RepeatingGroup :=
  .mk g.start_tag g.delimiter_tag (g.get_fields.insert f)

end RepeatingGroup

namespace FieldMap

def get_groups (m : FieldMap) (tag : TagU32) : Option (List RepeatingGroup) :=
  (IndexMap.get Prod.fst tag m.groups).map Prod.snd

def insert_groups (m : FieldMap) (start_tag : TagU32) (groups : List RepeatingGroup) : FieldMap :=
  .mk m.fields (IndexMap.insert Prod.fst (start_tag,groups) m.groups)

/-- The entries must agree on their start and delimiter tags. -/
def set_groups (m : FieldMap) (groups : List RepeatingGroup) : Except SetGroupsError FieldMap :=
  match groups with
  | [] => .error .EmptyGroups
  | g :: rest =>
    if rest.all (fun h => h.start_tag = g.start_tag ∧ h.delimiter_tag = g.delimiter_tag) then
      .ok (m.insert_groups g.start_tag groups)
    else .error .MultipleStartTagsAndDelimiters

end FieldMap

structure MessageBuilder where
  dict : Dictionary
  header_tags : List TagU32
  trailer_tags : List TagU32
  message_specification : List (Bytes × MessageSpecification)
  config : Config

namespace MessageBuilder

def new (dict : Dictionary) (config : Config) : ParserResult MessageBuilder := do
  let header_tags ← get_tags_for_component dict (ascii "StandardHeader")
  let trailer_tags ← get_tags_for_component dict (ascii "StandardTrailer")
  let message_definitions ← build_message_specifications dict
  return ⟨dict,header_tags,trailer_tags,message_definitions,config⟩

variable (arith : Arith) (b : MessageBuilder)

def is_header_tag (tag : TagU32) : Bool := b.header_tags.contains tag

def is_trailer_tag (tag : TagU32) : Bool := b.trailer_tags.contains tag

def is_user_defined (tag : TagU32) : Bool := USER_DEFINED_TAG_MIN ≤ tag.get

def should_accept_unknown_user_defined (tag : TagU32) : Bool :=
  !b.config.validate_user_defined_fields && is_user_defined tag && (b.dict.field_by_tag tag.get).isNone

def get_message_def (msg_type : Bytes) : ParserResult MessageSpecification :=
  ok_or (.InvalidMsgType msg_type) ((IndexMap.get Prod.fst msg_type b.message_specification).map Prod.snd)

def get_dict_field_by_tag (tag : Nat) : ParserResult FieldData := ok_or (.InvalidField tag) (b.dict.field_by_tag tag)

/-- The next field, or a malformed message. -/
def required_field (parser : Parser) (text : String) : ParserResult (Field × Parser) := do
  let next ← (parser.next_field arith).lift
  ok_or (.Malformed text) next

/-- The loop of `parse_groups`, from the field in hand. `enter` parses the entries
    of a nested group. -/
def group_round (enter : GroupSpecification → TagU32 → Parser → ParserResult (List RepeatingGroup × Field × Parser))
    (again : List RepeatingGroup → Option RepeatingGroup → Nat → Field → Parser →
      ParserResult (List RepeatingGroup × Field × Parser))
    (group_def : GroupSpecification) (start_tag delimiter_tag : TagU32)
    (groups : List RepeatingGroup) (current_group : Option RepeatingGroup) (next_declared_idx : Nat)
    (field : Field) (parser : Parser) : ParserResult (List RepeatingGroup × Field × Parser) := do
  if field.tag = delimiter_tag then
    -- the delimiter starts a new entry
    let groups := groups ++ current_group.toList
    let new_group := (RepeatingGroup.new_with_tags start_tag delimiter_tag).store_field field
    let (next,parser) ← required_field arith parser "incomplete group"
    again groups (some new_group) 1 next parser
  else if group_def.contains_tag field.tag then
    -- a declared tag, in declaration order
    let position ← expect "contains_tag guarantees the tag is present in fields()"
      (group_def.fields.findIdx? (fun f => f.tag = field.tag))
    if position < next_declared_idx then
      throw (.Error (.InvalidGroupFieldOrder field.tag.get group_def.number_of_entries_tag.get))
    let group ← expect "the delimiter opens a group before any declared field is seen" current_group
    let group := group.store_field field
    match group_def.get_nested_group field.tag with
    | some nested_group_def =>
      let (nested_groups,next,parser) ← enter nested_group_def field.tag parser
      match group.get_fields.set_groups nested_groups with
      | .ok fields => again groups (some (.mk group.start_tag group.delimiter_tag fields)) (position + 1) next parser
      | .error _ =>
        throw (.Panic "parse_groups yields a non-empty run of entries sharing one start and delimiter tag")
    | none =>
      let (next,parser) ← required_field arith parser "incomplete group"
      again groups (some group) (position + 1) next parser
  else if b.should_accept_unknown_user_defined field.tag then
    let group ← expect "the delimiter opens a group before any user-defined field is seen" current_group
    let (next,parser) ← required_field arith parser "incomplete group"
    again groups (some (group.store_field field)) next_declared_idx next parser
  else return (groups ++ current_group.toList,field,parser)

/-- The start of `parse_groups`: the delimiter must come first. -/
def enter_groups (loop : GroupSpecification → TagU32 → TagU32 → List RepeatingGroup → Option RepeatingGroup → Nat →
      Field → Parser → ParserResult (List RepeatingGroup × Field × Parser))
    (group_def : GroupSpecification) (start_tag : TagU32) (parser : Parser) :
    ParserResult (List RepeatingGroup × Field × Parser) := do
  let delimiter_tag ← group_def.delimiter_tag
  let (field,parser) ← required_field arith parser "missing delimiter field"
  if field.tag ≠ delimiter_tag then
    throw (.Error (.InvalidGroupFieldOrder field.tag.get group_def.number_of_entries_tag.get))
  loop group_def start_tag delimiter_tag [] none 0 field parser

def group_loop : Nat → GroupSpecification → TagU32 → TagU32 → List RepeatingGroup → Option RepeatingGroup → Nat →
    Field → Parser → ParserResult (List RepeatingGroup × Field × Parser)
  | 0,_,_,_,_,_,_,_,_ => throw (.Panic "out of rounds")
  | rounds+1,group_def,start_tag,delimiter_tag,groups,current_group,next_declared_idx,field,parser =>
    group_round arith b (enter_groups arith (group_loop rounds)) (group_loop rounds group_def start_tag delimiter_tag)
      group_def start_tag delimiter_tag groups current_group next_declared_idx field parser

/-- The entries of a group and the field behind them. -/
def parse_groups (rounds : Nat) (parser : Parser) (group_def : GroupSpecification) (start_tag : TagU32) :
    ParserResult (List RepeatingGroup × Field × Parser) :=
  enter_groups arith (group_loop arith b rounds) group_def start_tag parser

def check_required_fields (group_tag : TagU32) (fields : List FieldSpecification) (field_map : FieldMap) :
    ParserResult Unit :=
  match fields.find? (fun f => f.is_required && (field_map.get_raw f.tag).isNone) with
  | some field_def => throw (.Error (.RequiredFieldMissing field_def.tag.get (some group_tag.get)))
  | none => return ()

mutual
def check_required_fields_in_groups (groups : List RepeatingGroup) : GroupSpecification → ParserResult Unit
  | .mk group_tag fields nested_groups =>
    groups.forM (fun entry => do
      check_required_fields group_tag fields entry.get_fields
      check_nested_groups entry.get_fields nested_groups)
/-- In the order of the list: see `hashed`. -/
def check_nested_groups (field_map : FieldMap) : List (TagU32 × GroupSpecification) → ParserResult Unit
  | [] => return ()
  | (nested_tag,nested_spec) :: rest => do
    match field_map.get_groups nested_tag with
    | some nested_entries => check_required_fields_in_groups nested_entries nested_spec
    | none => pure ()
    check_nested_groups field_map rest
end

/-! ### The sections of a message -/

/-- The header fields that follow MsgType, and the first field behind them. The
    header is left as it stands when an error is met. -/
def build_header : Nat → FieldMap → Parser → FieldMap × ParserResult (Field × Parser)
  | 0,header,_ => (header,throw (.Panic "out of rounds"))
  | rounds+1,header,parser =>
    match required_field arith parser "message ended within header" with
    | .error stop => (header,.error stop)
    | .ok (field,parser) =>
      if b.is_header_tag field.tag then build_header rounds (header.insert field) parser
      else (header,do
        let msg_type ← expect "this never fails as we've verified the integrity of the header" (header.get_str MSG_TYPE)
        if (b.dict.message_by_msgtype msg_type).isNone then throw (.Error (.InvalidMsgType msg_type))
        return (field,parser))

/-- The loop of `build_body`, up to a field that is not of the body. -/
def body_loop (message_def : MessageSpecification) : Nat → FieldMap → Field → Parser →
    ParserResult (FieldMap × Field × Parser)
  | 0,_,_,_ => throw (.Panic "out of rounds")
  | rounds+1,body,field,parser => do
    if message_def.contains_tag field.tag then
      let body := body.insert field
      let field_def ← b.get_dict_field_by_tag field.tag.get
      match message_def.get_group field.tag with
      | some group_def =>
        let start_tag ← field_def.tag_u32
        let (groups,next,parser) ← parse_groups arith b rounds parser group_def start_tag
        check_required_fields_in_groups groups group_def
        match body.set_groups groups with
        | .ok body => body_loop message_def rounds body next parser
        | .error err =>
          throw (.Error (.Malformed ("failed to set groups for tag " ++ toString field.tag.get ++ ": " ++ err.to_string)))
      | none =>
        let (next,parser) ← required_field arith parser "message ended within the body"
        body_loop message_def rounds body next parser
    else if b.should_accept_unknown_user_defined field.tag then
      let (next,parser) ← required_field arith parser "message ended within the body"
      body_loop message_def rounds (body.insert field) next parser
    else return (body,field,parser)

def build_body (rounds : Nat) (msg_type : Bytes) (parser : Parser) (next_field : Field) :
    ParserResult (FieldMap × Field × Parser) := do
  let message_def ← b.get_message_def msg_type
  let (body,field,parser) ← body_loop arith b message_def rounds FieldMap.empty next_field parser
  if !b.is_trailer_tag field.tag then throw (.Error (.InvalidField field.tag.get))
  return (body,field,parser)

/-- Every field up to the first CheckSum. -/
def build_trailer : Nat → FieldMap → Parser → Field → Checked FieldMap
  | 0,_,_,_ => throw "out of rounds"
  | rounds+1,trailer,parser,f => do
    if f.tag = CHECK_SUM.tag then return trailer
    match ← parser.next_field arith with
    | some (next,parser) => build_trailer rounds (trailer.insert f) parser next
    | none => return trailer.insert f

def with_header (header : FieldMap) : Message := ⟨header,FieldMap.empty,FieldMap.empty⟩

def parser_error_to_parsed_message (err : ParserError) (header : FieldMap) : ParsedMessage :=
  match err with
  | .IOError => .Garbled .Malformed
  | .InvalidField tag => .Invalid (with_header header) (.InvalidField tag)
  | .InvalidGroup tag => .Invalid (with_header header) (.InvalidGroup tag)
  | .InvalidGroupFieldOrder tag group_tag => .Invalid (with_header header) (.InvalidOrderInGroup tag group_tag)
  | .InvalidComponent name => .Invalid (with_header header) (.InvalidComponent name)
  | .InvalidMsgType msg_type => .Invalid (with_header header) (.InvalidMsgType msg_type)
  | .RequiredFieldMissing tag group_tag => .Invalid (with_header header) (.RequiredFieldMissing tag group_tag)
  | .Malformed _ => .Garbled .Malformed

/-- What an error of the header or the body becomes; a panic stays one. -/
def or_invalid {α : Type} (header : FieldMap) (result : ParserResult α) (valid : α → Checked ParsedMessage) :
    Checked ParsedMessage :=
  match result with
  | .ok a => valid a
  | .error (.Error err) => return parser_error_to_parsed_message err header
  | .error (.Panic message) => throw message

def build (data : Bytes) : Checked ParsedMessage :=
  let rounds := data.length + 1
  match verify_integrity arith ⟨0,data,b.config⟩ with
  | .error (.Error err) => return err.parsed
  | .error (.Panic message) => throw message
  | .ok (header,trailer,parser) =>
    let (header,next) := build_header arith b rounds header parser
    or_invalid header next (fun (next,parser) =>
      or_invalid header (do
        let msg_type ← expect
          "we know this is valid at this point as we have already verified the integrity of the header"
          (header.get_str MSG_TYPE)
        build_body arith b rounds msg_type parser next) (fun (body,next,parser) => do
      let trailer ← build_trailer arith rounds trailer parser next
      return .Valid ⟨header,body,trailer⟩))

end MessageBuilder

/-! ### The order of a HashMap

The nested groups of a specification are a `HashMap`, and the check of the required
fields goes through it in an order of its own. `new` lists the groups as they are
declared; the builders with the same maps in another order are the `hashed` ones. -/

/-- The entries of a map in the order in which it iterates, which may be any. -/
def iterated {α : Type} (rank : TagU32 → Nat) (entries : List (TagU32 × α)) : List (TagU32 × α) :=
  entries.insertionSort (fun g h => rank g.1 ≤ rank h.1)

mutual
/-- A specification each of whose maps has an order of its own, found by the groups
    that lead to it. -/
def GroupSpecification.hashed (rank : List TagU32 → TagU32 → Nat) (path : List TagU32) :
    GroupSpecification → GroupSpecification
  | .mk group_tag fields nested_groups =>
    .mk group_tag fields (iterated (rank path) (GroupSpecification.hashed_all rank path nested_groups))
def GroupSpecification.hashed_all (rank : List TagU32 → TagU32 → Nat) (path : List TagU32) :
    List (TagU32 × GroupSpecification) → List (TagU32 × GroupSpecification)
  | [] => []
  | (tag,spec) :: rest => (tag,spec.hashed rank (tag :: path)) :: GroupSpecification.hashed_all rank path rest
end

def MessageBuilder.hashed (b : MessageBuilder) (rank : Bytes → List TagU32 → TagU32 → Nat) : MessageBuilder :=
  { b with
    message_specification := b.message_specification.map (fun (msg_type,spec) =>
      (msg_type,⟨spec.fields,GroupSpecification.hashed_all (rank msg_type) [] spec.groups⟩)) }

end HotFix
