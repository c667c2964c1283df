import HotFix.Timestamp
import Mathlib.Algebra.GroupWithZero.Nat

/-!
FIX messages: fields, field maps with their repeating groups, and messages made
of a header, a body and a trailer. An insertion-ordered map of fields is the list
of its fields; inserting a tag that is there replaces its value where it stands.
-/
namespace HotFix

/-- A non-zero 32-bit tag number. -/
structure TagU32 where
  get : Nat
  pos : 0 < get
  fits : get < U32
  deriving DecidableEq

structure Field where
  tag : TagU32
  data : Bytes
  deriving DecidableEq

def Field.calculate_length (f : Field) : Nat := (Decimal.decimal f.tag.get).length + f.data.length + 2

mutual
inductive FieldMap where
  | mk (fields : List Field) (groups : List (TagU32 × List RepeatingGroup))
inductive RepeatingGroup where
  | mk (start_tag : TagU32) (delimiter_tag : TagU32) (fields : FieldMap)
end

namespace FieldMap

def fields : FieldMap → List Field
  | .mk fields _ => fields

def groups : FieldMap → List (TagU32 × List RepeatingGroup)
  | .mk _ groups => groups

def empty : FieldMap := .mk [] []

/-- `IndexMap::insert` on the fields: in place for a tag that is there, else at the end. -/
def insertField (f : Field) : List Field → List Field
  | [] => [f]
  | g :: rest => if g.tag = f.tag then f :: rest else g :: insertField f rest

def insert (m : FieldMap) (f : Field) : FieldMap := .mk (insertField f m.fields) m.groups

def get_raw (m : FieldMap) (tag : TagU32) : Option Bytes := (m.fields.find? (fun f => f.tag = tag)).map Field.data

/-- `shift_remove`: the field of the tag, and the map without it. -/
def pop (m : FieldMap) (tag : TagU32) : Option Field × FieldMap :=
  (m.fields.find? (fun f => f.tag = tag),.mk (m.fields.eraseP (fun f => f.tag = tag)) m.groups)

mutual
/-- The length of the written fields outside `skip`, with every group. -/
def calculate_length (skip : List TagU32) : FieldMap → Nat
  | .mk fields groups =>
    ((fields.filter (fun f => !skip.contains f.tag)).map Field.calculate_length).sum + groups_length groups
def groups_length : List (TagU32 × List RepeatingGroup) → Nat
  | [] => 0
  | (_,entries) :: rest => entries_length entries + groups_length rest
def entries_length : List RepeatingGroup → Nat
  | [] => 0
  | .mk _ _ fields :: rest => calculate_length [] fields + entries_length rest
end

def write_field (separator : UInt8) (f : Field) : Bytes := Decimal.decimal f.tag.get ++ [61] ++ f.data ++ [separator]

mutual
/-- The fields of `pre_fields` first, then the others in order; the entries of a
    group follow its count field. -/
def write (separator : UInt8) (pre_fields : List TagU32) : FieldMap → Bytes
  | .mk fields groups =>
    let written := write_groups separator groups
    let ordered := pre_fields.filterMap (fun tag => fields.find? (fun f => f.tag = tag)) ++
      fields.filter (fun f => !pre_fields.contains f.tag)
    ordered.flatMap (fun f => write_field separator f ++ ((written.find? (fun g => g.1 = f.tag)).map Prod.snd).getD [])
def write_groups (separator : UInt8) : List (TagU32 × List RepeatingGroup) → List (TagU32 × Bytes)
  | [] => []
  | (tag,entries) :: rest => (tag,write_entries separator entries) :: write_groups separator rest
def write_entries (separator : UInt8) : List RepeatingGroup → Bytes
  | [] => []
  | .mk _ _ fields :: rest => write separator [] fields ++ write_entries separator rest
end

/-- The value of a tag after an insertion. -/
theorem get_raw_insert (m : FieldMap) (f : Field) (tag : TagU32) :
    (m.insert f).get_raw tag = if f.tag = tag then some f.data else m.get_raw tag := by
  obtain ⟨fields,groups⟩ := m
  simp only [get_raw,insert,FieldMap.fields]
  induction fields with
  | nil =>
    by_cases same : f.tag = tag
    · simp [insertField,same]
    · simp [insertField,same]
  | cons g rest ih =>
    by_cases replaced : g.tag = f.tag
    · by_cases same : f.tag = tag
      · simp [insertField,replaced,same]
      · simp [insertField,replaced,same]
    · by_cases same : g.tag = tag
      · subst same
        simp [insertField,replaced,Ne.symm replaced]
      · simpa [insertField,replaced,same] using ih

/-- The value of another tag after a removal. -/
theorem get_raw_pop (m : FieldMap) {removed tag : TagU32} (other : removed ≠ tag) :
    (m.pop removed).2.get_raw tag = m.get_raw tag := by
  obtain ⟨fields,groups⟩ := m
  simp only [get_raw,pop,FieldMap.fields]
  induction fields with
  | nil => rfl
  | cons g rest ih =>
    by_cases gone : g.tag = removed
    · simp [gone,other]
    · by_cases same : g.tag = tag
      · simp [same,Ne.symm other]
      · simpa [gone,same] using ih

end FieldMap

/-! ### Messages -/

inductive FieldLocation where
  | Header
  | Body
  | Trailer
  deriving DecidableEq

structure FieldDefinition where
  tag : TagU32
  location : FieldLocation
  deriving DecidableEq

structure Message where
  header : FieldMap
  body : FieldMap
  trailer : FieldMap

/-- The separator of the wire format; the other settings belong to the parser. -/
structure Config where
  separator : UInt8
  validate_user_defined_fields : Bool
  deriving DecidableEq

def SOH : UInt8 := 1

def Config.default : Config := ⟨SOH,true⟩

def BEGIN_STRING : FieldDefinition := ⟨⟨8,by decide,by decide⟩,.Header⟩
def BODY_LENGTH : FieldDefinition := ⟨⟨9,by decide,by decide⟩,.Header⟩
def CHECK_SUM : FieldDefinition := ⟨⟨10,by decide,by decide⟩,.Trailer⟩
def MSG_SEQ_NUM : FieldDefinition := ⟨⟨34,by decide,by decide⟩,.Header⟩
def MSG_TYPE : FieldDefinition := ⟨⟨35,by decide,by decide⟩,.Header⟩
def POSS_DUP_FLAG : FieldDefinition := ⟨⟨43,by decide,by decide⟩,.Header⟩
def SENDER_COMP_ID : FieldDefinition := ⟨⟨49,by decide,by decide⟩,.Header⟩
def SENDING_TIME : FieldDefinition := ⟨⟨52,by decide,by decide⟩,.Header⟩
def TARGET_COMP_ID : FieldDefinition := ⟨⟨56,by decide,by decide⟩,.Header⟩
def ORIG_SENDING_TIME : FieldDefinition := ⟨⟨122,by decide,by decide⟩,.Header⟩
def BEGIN_SEQ_NO : FieldDefinition := ⟨⟨7,by decide,by decide⟩,.Body⟩
def END_SEQ_NO : FieldDefinition := ⟨⟨16,by decide,by decide⟩,.Body⟩
def NEW_SEQ_NO : FieldDefinition := ⟨⟨36,by decide,by decide⟩,.Body⟩
def REF_SEQ_NUM : FieldDefinition := ⟨⟨45,by decide,by decide⟩,.Body⟩
def TEXT : FieldDefinition := ⟨⟨58,by decide,by decide⟩,.Body⟩
def ENCRYPT_METHOD : FieldDefinition := ⟨⟨98,by decide,by decide⟩,.Body⟩
def HEART_BT_INT : FieldDefinition := ⟨⟨108,by decide,by decide⟩,.Body⟩
def TEST_REQ_ID : FieldDefinition := ⟨⟨112,by decide,by decide⟩,.Body⟩
def GAP_FILL_FLAG : FieldDefinition := ⟨⟨123,by decide,by decide⟩,.Body⟩
def RESET_SEQ_NUM_FLAG : FieldDefinition := ⟨⟨141,by decide,by decide⟩,.Body⟩
def REF_MSG_TYPE : FieldDefinition := ⟨⟨372,by decide,by decide⟩,.Body⟩
def SESSION_REJECT_REASON : FieldDefinition := ⟨⟨373,by decide,by decide⟩,.Body⟩
def BUSINESS_REJECT_REASON : FieldDefinition := ⟨⟨380,by decide,by decide⟩,.Body⟩
def NEXT_EXPECTED_MSG_SEQ_NUM : FieldDefinition := ⟨⟨789,by decide,by decide⟩,.Body⟩

/-- `2^64`, the bound of the sequence number type. -/
def U64 : Nat := UInt64.size

def continuation (byte : UInt8) : Bool := 0x80 ≤ byte.toNat && byte.toNat ≤ 0xBF

/-- The second byte that may follow the first of a sequence of three or four. -/
def second_byte (a b : UInt8) : Bool :=
  if a = 0xE0 then 0xA0 ≤ b.toNat && b.toNat ≤ 0xBF
  else if a = 0xED then 0x80 ≤ b.toNat && b.toNat ≤ 0x9F
  else if a = 0xF0 then 0x90 ≤ b.toNat && b.toNat ≤ 0xBF
  else if a = 0xF4 then 0x80 ≤ b.toNat && b.toNat ≤ 0x8F
  else continuation b

/-- Whether `std::str::from_utf8` accepts the bytes. -/
def valid_utf8 : Bytes → Bool
  | [] => true
  | a :: after_a =>
    if a.toNat < 0x80 then valid_utf8 after_a else
    match after_a with
    | [] => false
    | b :: after_b =>
      if 0xC2 ≤ a.toNat ∧ a.toNat ≤ 0xDF then continuation b && valid_utf8 after_b else
      match after_b with
      | [] => false
      | c :: after_c =>
        if 0xE0 ≤ a.toNat ∧ a.toNat ≤ 0xEF then second_byte a b && continuation c && valid_utf8 after_c else
        match after_c with
        | [] => false
        | d :: after_d =>
          decide (0xF0 ≤ a.toNat ∧ a.toNat ≤ 0xF4) && second_byte a b && continuation c && continuation d &&
            valid_utf8 after_d

namespace FieldMap

def get_u64 (m : FieldMap) (field : FieldDefinition) : Option Nat :=
  (m.get_raw field.tag).bind (Decimal.parseBelow U64)

def get_bool (m : FieldMap) (field : FieldDefinition) : Option Bool :=
  (m.get_raw field.tag).bind (fun data => if data = [89] then some true else if data = [78] then some false else none)

def get_str (m : FieldMap) (field : FieldDefinition) : Option Bytes :=
  (m.get_raw field.tag).bind (fun data => if valid_utf8 data then some data else none)

def get_timestamp (m : FieldMap) (field : FieldDefinition) : Option Timestamp :=
  (m.get_raw field.tag).bind Timestamp.parse

def set (m : FieldMap) (field : FieldDefinition) (value : Bytes) : FieldMap := m.insert ⟨field.tag,value⟩

theorem get_raw_set (m : FieldMap) (field : FieldDefinition) (value : Bytes) (tag : TagU32) :
    (m.set field value).get_raw tag = if field.tag = tag then some value else m.get_raw tag :=
  get_raw_insert m ⟨field.tag,value⟩ tag

end FieldMap

def bool_bytes (value : Bool) : Bytes := if value then [89] else [78]

namespace Message

def set (m : Message) (field : FieldDefinition) (value : Bytes) : Message :=
  match field.location with
  | .Header => { m with header := m.header.set field value }
  | .Body => { m with body := m.body.set field value }
  | .Trailer => { m with trailer := m.trailer.set field value }

def new (begin_string message_type : Bytes) : Message :=
  ((⟨FieldMap.empty,FieldMap.empty,FieldMap.empty⟩ : Message).set BEGIN_STRING begin_string).set MSG_TYPE message_type

/-- A number in three digits, as `{:03}` formats one below a thousand. -/
def three_digits (n : Nat) : Bytes := [digit_to_ascii (n/100%10),digit_to_ascii (n/10%10),digit_to_ascii (n%10)]

/-- The message with its new BodyLength and CheckSum, and its bytes on the wire.
    Writing into a vector never fails. -/
def encode (m : Message) (config : Config) : Message × Bytes :=
  let m := { m with trailer := (m.trailer.pop CHECK_SUM.tag).2 }
  let body_length := FieldMap.calculate_length [BEGIN_STRING.tag,BODY_LENGTH.tag] m.header +
    FieldMap.calculate_length [] m.body + FieldMap.calculate_length [CHECK_SUM.tag] m.trailer
  let m := m.set BODY_LENGTH (Decimal.decimal body_length)
  let starting_fields := [BEGIN_STRING.tag,BODY_LENGTH.tag,MSG_TYPE.tag]
  let buffer := m.header.write config.separator starting_fields ++ m.body.write config.separator [] ++
    m.trailer.write config.separator []
  let checksum_value := three_digits (buffer.foldl (fun sum byte => sum + byte) (0 : UInt8)).toNat
  (m.set CHECK_SUM checksum_value,buffer ++ [49,48,61] ++ checksum_value ++ [config.separator])

end Message

inductive InvalidReason where
  | InvalidField (tag : Nat)
  | InvalidGroup (tag : Nat)
  | InvalidOrderInGroup (tag : Nat) (group_tag : Nat)
  | InvalidComponent (name : Bytes)
  | InvalidMsgType (msg_type : Bytes)
  | RequiredFieldMissing (tag : Nat) (group_tag : Option Nat)
  deriving DecidableEq

inductive GarbledReason where
  | Malformed
  | InvalidBeginString
  | InvalidBodyLength
  | InvalidMsgType
  | InvalidChecksum
  deriving DecidableEq

/-- What the message builder makes of the bytes of a frame. -/
inductive ParsedMessage where
  | Valid (message : Message)
  | Invalid (message : Message) (reason : InvalidReason)
  | Garbled (reason : GarbledReason)
  | UnexpectedError (text : Bytes)

def ParsedMessage.into_message : ParsedMessage → Option Message
  | .Valid message => some message
  | .Invalid message _ => some message
  | _ => none

end HotFix
