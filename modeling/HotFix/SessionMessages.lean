import HotFix.Message

/-!
The messages of the session layer: their types, what each writes into a message,
how an outbound message is generated, and how a stored one is prepared for a
resend.
-/
namespace HotFix

/-- What is sent: a message type, and how the fields are written. A write that
    panics is an exception with the panic's text. -/
structure OutboundMessage where
  message_type : Bytes
  write : Message → Except String Message

/-- Writes the value of an optional field. -/
def Message.set_opt (m : Message) (field : FieldDefinition) : Option Bytes → Message
  | some value => m.set field value
  | none => m

structure Heartbeat where
  test_req_id : Option Bytes
def Heartbeat.MSG_TYPE : Bytes := ascii "0"
def Heartbeat.default : Heartbeat := ⟨none⟩
def Heartbeat.for_request (test_req_id : Bytes) : Heartbeat := ⟨some test_req_id⟩
def Heartbeat.outbound (h : Heartbeat) : OutboundMessage :=
  ⟨Heartbeat.MSG_TYPE,fun msg => .ok (msg.set_opt TEST_REQ_ID h.test_req_id)⟩

structure TestRequest where
  test_req_id : Bytes
def TestRequest.MSG_TYPE : Bytes := ascii "1"
def TestRequest.outbound (t : TestRequest) : OutboundMessage :=
  ⟨TestRequest.MSG_TYPE,fun msg => .ok (msg.set TEST_REQ_ID t.test_req_id)⟩

structure ResendRequest where
  begin_seq_no : Nat
  end_seq_no : Nat
def ResendRequest.MSG_TYPE : Bytes := ascii "2"
def ResendRequest.outbound (r : ResendRequest) : OutboundMessage :=
  ⟨ResendRequest.MSG_TYPE,fun msg => .ok
    ((msg.set BEGIN_SEQ_NO (Decimal.decimal r.begin_seq_no)).set END_SEQ_NO (Decimal.decimal r.end_seq_no))⟩

/-- The reasons the session gives, with their values in the dictionary. -/
inductive SessionRejectReason where
  | InvalidTagNumber
  | RequiredTagMissing
  | ValueIsIncorrect
  | SendingtimeAccuracyProblem
  | InvalidMsgtype
  | RepeatingGroupFieldsOutOfOrder
  deriving DecidableEq
def SessionRejectReason.value : SessionRejectReason → Nat
  | .InvalidTagNumber => 0
  | .RequiredTagMissing => 1
  | .ValueIsIncorrect => 5
  | .SendingtimeAccuracyProblem => 10
  | .InvalidMsgtype => 11
  | .RepeatingGroupFieldsOutOfOrder => 15

structure Reject where
  ref_seq_num : Nat
  session_reject_reason : SessionRejectReason
  text : Bytes
def Reject.MSG_TYPE : Bytes := ascii "3"
def Reject.outbound (r : Reject) : OutboundMessage :=
  ⟨Reject.MSG_TYPE,fun msg => .ok
    (((msg.set REF_SEQ_NUM (Decimal.decimal r.ref_seq_num)).set SESSION_REJECT_REASON
      (Decimal.decimal r.session_reject_reason.value)).set TEXT r.text)⟩

structure SequenceReset where
  gap_fill : Bool
  new_seq_no : Nat
def SequenceReset.MSG_TYPE : Bytes := ascii "4"
def SequenceReset.outbound (s : SequenceReset) : OutboundMessage :=
  ⟨SequenceReset.MSG_TYPE,fun msg =>
    let msg := (msg.set GAP_FILL_FLAG (bool_bytes s.gap_fill)).set NEW_SEQ_NO (Decimal.decimal s.new_seq_no)
    match msg.header.get_timestamp SENDING_TIME with
    | some sending_time => .ok { msg with header :=
        (msg.header.set ORIG_SENDING_TIME sending_time.to_bytes).set POSS_DUP_FLAG (bool_bytes true) }
    | none => .error "sending time should always be present due to previously having validated message"⟩

structure Logout where
  text : Option Bytes
def Logout.MSG_TYPE : Bytes := ascii "5"
def Logout.with_reason (reason : Bytes) : Logout := ⟨some reason⟩
def Logout.outbound (l : Logout) : OutboundMessage :=
  ⟨Logout.MSG_TYPE,fun msg => .ok (msg.set_opt TEXT l.text)⟩

inductive ResetSeqNumConfig where
  | Reset
  | NoReset (next : Option Nat)

structure Logon where
  heartbeat_interval : Nat
  reset_seq_num_flag : Bool
  next_expected_msg_seq_num : Option Nat
def Logon.MSG_TYPE : Bytes := ascii "A"
def Logon.new (heartbeat_interval : Nat) : ResetSeqNumConfig → Logon
  | .Reset => ⟨heartbeat_interval,true,none⟩
  | .NoReset next => ⟨heartbeat_interval,false,next⟩
def Logon.outbound (l : Logon) : OutboundMessage :=
  ⟨Logon.MSG_TYPE,fun msg => .ok
    ((((msg.set ENCRYPT_METHOD (ascii "0")).set HEART_BT_INT (Decimal.decimal l.heartbeat_interval)).set
      RESET_SEQ_NUM_FLAG (bool_bytes l.reset_seq_num_flag)).set_opt NEXT_EXPECTED_MSG_SEQ_NUM
        (l.next_expected_msg_seq_num.map Decimal.decimal))⟩

inductive BusinessRejectReason where
  | Other
  | UnknownId
  | UnknownSecurity
  | UnsupportedMessageType
  | ApplicationNotAvailable
  | ConditionallyRequiredFieldMissing
  | NotAuthorized
  | DeliverToFirmNotAvailable
  deriving DecidableEq
def BusinessRejectReason.value : BusinessRejectReason → Nat
  | .Other => 0
  | .UnknownId => 1
  | .UnknownSecurity => 2
  | .UnsupportedMessageType => 3
  | .ApplicationNotAvailable => 4
  | .ConditionallyRequiredFieldMissing => 5
  | .NotAuthorized => 6
  | .DeliverToFirmNotAvailable => 7

structure BusinessReject where
  ref_msg_type : Bytes
  reason : BusinessRejectReason
  ref_seq_num : Option Nat
  text : Option Bytes
def BusinessReject.MSG_TYPE : Bytes := ascii "j"
def BusinessReject.outbound (b : BusinessReject) : OutboundMessage :=
  ⟨BusinessReject.MSG_TYPE,fun msg => .ok
    ((((msg.set REF_MSG_TYPE b.ref_msg_type).set BUSINESS_REJECT_REASON (Decimal.decimal b.reason.value)).set_opt
      REF_SEQ_NUM (b.ref_seq_num.map Decimal.decimal)).set_opt TEXT b.text)⟩

/-- The message types the session dispatches on; every other type is the
    application's. -/
inductive MsgKind where
  | Heartbeat
  | TestRequest
  | ResendRequest
  | Reject
  | SequenceReset
  | Logout
  | Logon
  | Application
  deriving DecidableEq

def msg_kind (message_type : Bytes) : MsgKind :=
  if message_type = Heartbeat.MSG_TYPE then .Heartbeat
  else if message_type = TestRequest.MSG_TYPE then .TestRequest
  else if message_type = ResendRequest.MSG_TYPE then .ResendRequest
  else if message_type = Reject.MSG_TYPE then .Reject
  else if message_type = SequenceReset.MSG_TYPE then .SequenceReset
  else if message_type = Logout.MSG_TYPE then .Logout
  else if message_type = Logon.MSG_TYPE then .Logon
  else .Application

def ADMIN_TYPES : List Bytes :=
  [Logon.MSG_TYPE,Heartbeat.MSG_TYPE,TestRequest.MSG_TYPE,ResendRequest.MSG_TYPE,Reject.MSG_TYPE,
    SequenceReset.MSG_TYPE,Logout.MSG_TYPE]

def is_admin (message_type : Bytes) : Bool := ADMIN_TYPES.contains message_type

namespace Message

def msg_type (m : Message) : Option Bytes := m.header.get_str MSG_TYPE
def msg_seq_num (m : Message) : Option Nat := m.header.get_u64 MSG_SEQ_NUM
/-- What the session takes the message for; none without a MsgType. -/
def kind (m : Message) : Option MsgKind := m.msg_type.map msg_kind
def poss_dup (m : Message) : Bool := (m.header.get_bool POSS_DUP_FLAG).getD false

end Message

/-- The message after the preparation and whether it succeeded. A SendingTime
    that does not parse is gone from the message. -/
def prepare_message_for_resend (msg : Message) (now : Timestamp) : Message × Except String Unit :=
  let header := msg.header
  if header.get_raw SENDING_TIME.tag = none then (msg,.error "Missing SendingTime (52)") else
  let already_poss_dup := msg.poss_dup
  let has_orig_sending_time := (header.get_raw ORIG_SENDING_TIME.tag).isSome
  if already_poss_dup && has_orig_sending_time then
    match header.pop SENDING_TIME.tag with
    | (some _,header) => ({ msg with header := header.set SENDING_TIME now.to_bytes },.ok ())
    | (none,header) => ({ msg with header := header },.error "Failed to extract previous SendingTime")
  else
    match header.pop SENDING_TIME.tag with
    | (some original_sending_time_field,header) =>
      match Timestamp.parse original_sending_time_field.data with
      | some original_ts =>
        let header := header.set ORIG_SENDING_TIME original_ts.to_bytes
        let header := header.set SENDING_TIME now.to_bytes
        ({ msg with header := header.set POSS_DUP_FLAG (bool_bytes true) },.ok ())
      | none => ({ msg with header := header },.error "Invalid original SendingTime format")
    | (none,header) => ({ msg with header := header },.error "Failed to extract original SendingTime")

/-- The message and its bytes. -/
def generate_message (begin_string sender_comp_id target_comp_id : Bytes) (msg_seq_num : Nat)
    (message : OutboundMessage) (now : Timestamp) : Except String (Message × Bytes) := do
  let msg := Message.new begin_string message.message_type
  let msg := msg.set SENDER_COMP_ID sender_comp_id
  let msg := msg.set TARGET_COMP_ID target_comp_id
  let msg := msg.set MSG_SEQ_NUM (Decimal.decimal msg_seq_num)
  let msg := msg.set SENDING_TIME now.to_bytes
  let msg ← message.write msg
  return msg.encode Config.default

theorem is_admin_iff (message_type : Bytes) : is_admin message_type = true ↔ msg_kind message_type ≠ .Application := by
  simp only [is_admin,ADMIN_TYPES,List.contains_eq_mem,List.mem_cons,List.not_mem_nil,or_false,decide_eq_true_eq,
    msg_kind]
  split_ifs <;> simp_all

theorem msg_kind_resendRequest (message_type : Bytes) :
    msg_kind message_type = .ResendRequest ↔ message_type = ResendRequest.MSG_TYPE := by
  unfold msg_kind
  split_ifs <;> simp_all <;> decide

theorem msg_kind_logon (message_type : Bytes) : msg_kind message_type = .Logon ↔ message_type = Logon.MSG_TYPE := by
  unfold msg_kind
  split_ifs <;> simp_all <;> decide

end HotFix
