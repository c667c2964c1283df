import HotFix.SessionMessages

/-!
What the session puts on the wire: the header and body fields of a generated
frame, and those of a stored message that is prepared for a resend.
-/
namespace HotFix.Frames

private theorem header_encode (m : Message) (config : Config) :
    (m.encode config).1.header = m.header.set BODY_LENGTH (Decimal.decimal
      (FieldMap.calculate_length [BEGIN_STRING.tag,BODY_LENGTH.tag] m.header +
        FieldMap.calculate_length [] m.body +
        FieldMap.calculate_length [CHECK_SUM.tag] (m.trailer.pop CHECK_SUM.tag).2)) := rfl

/-- Encoding changes no header field but BodyLength. -/
theorem encode_get_raw (m : Message) (config : Config) {tag : TagU32} (other : BODY_LENGTH.tag ≠ tag) :
    (m.encode config).1.header.get_raw tag = m.header.get_raw tag := by
  rw [header_encode,FieldMap.get_raw_set,if_neg other]

theorem encode_body (m : Message) (config : Config) : (m.encode config).1.body = m.body := rfl

theorem encode_msg_type (m : Message) (config : Config) : (m.encode config).1.msg_type = m.msg_type := by
  unfold Message.msg_type FieldMap.get_str
  rw [encode_get_raw m config (by decide)]

theorem encode_msg_seq_num (m : Message) (config : Config) :
    (m.encode config).1.msg_seq_num = m.msg_seq_num := by
  unfold Message.msg_seq_num FieldMap.get_u64
  rw [encode_get_raw m config (by decide)]

/-! ### Generated frames -/

/-- The message before its own fields are written. -/
def blank (begin_string sender target message_type : Bytes) (n : Nat) (now : Timestamp) : Message :=
  ((((Message.new begin_string message_type).set SENDER_COMP_ID sender).set TARGET_COMP_ID target).set
    MSG_SEQ_NUM (Decimal.decimal n)).set SENDING_TIME now.to_bytes

section
variable (begin_string sender target message_type : Bytes) (n : Nat) (now : Timestamp)

theorem blank_msg_type (valid : valid_utf8 message_type = true) :
    (blank begin_string sender target message_type n now).msg_type = some message_type := by
  simp [blank,Message.msg_type,FieldMap.get_str,Message.set,Message.new,FieldMap.get_raw_set,SENDING_TIME,
    MSG_SEQ_NUM,TARGET_COMP_ID,SENDER_COMP_ID,MSG_TYPE,valid]

theorem blank_msg_seq_num (fits : n < U64) :
    (blank begin_string sender target message_type n now).msg_seq_num = some n := by
  simp [blank,Message.msg_seq_num,FieldMap.get_u64,Message.set,Message.new,FieldMap.get_raw_set,SENDING_TIME,
    MSG_SEQ_NUM,Decimal.parseBelow_decimal fits]

theorem blank_sending_time :
    (blank begin_string sender target message_type n now).header.get_timestamp SENDING_TIME = some now := by
  simp [blank,FieldMap.get_timestamp,Message.set,Message.new,FieldMap.get_raw_set,SENDING_TIME,
    Timestamp.parse_to_bytes]

end

section
variable {o : OutboundMessage} {begin_string sender target : Bytes} {n : Nat} {now : Timestamp}
  {frame : Message × Bytes}

theorem generate_message_eq (o : OutboundMessage) (begin_string sender target : Bytes) (n : Nat) (now : Timestamp) :
    generate_message begin_string sender target n o now =
      (o.write (blank begin_string sender target o.message_type n now)).map (fun m => m.encode Config.default) := by
  unfold generate_message
  change (o.write (blank begin_string sender target o.message_type n now) >>= fun written =>
    pure (written.encode Config.default)) = _
  cases o.write (blank begin_string sender target o.message_type n now) <;> rfl

theorem generate_message_ok (generated : generate_message begin_string sender target n o now = .ok frame) :
    ∃ written, o.write (blank begin_string sender target o.message_type n now) = .ok written ∧
      written.encode Config.default = frame := by
  rw [generate_message_eq] at generated
  cases wrote : o.write (blank begin_string sender target o.message_type n now) with
  | error text => simp [wrote,Except.map] at generated
  | ok written =>
    rw [wrote] at generated
    exact ⟨written,rfl,Except.ok.inj generated⟩

/-- The write leaves the type of the message as it finds it. -/
def KeepsType (o : OutboundMessage) : Prop := ∀ m m', o.write m = .ok m' → m'.msg_type = m.msg_type

theorem generate_message_kind (keeps : KeepsType o) (valid : valid_utf8 o.message_type = true)
    (generated : generate_message begin_string sender target n o now = .ok frame) :
    frame.1.kind = some (msg_kind o.message_type) := by
  obtain ⟨written,wrote,rfl⟩ := generate_message_ok generated
  unfold Message.kind
  rw [encode_msg_type,keeps _ _ wrote,blank_msg_type _ _ _ _ _ _ valid]
  rfl

end

/-- The frames of the message are no requests for a resend. -/
def NoRequest (o : OutboundMessage) : Prop :=
  ∀ begin_string sender target n now frame,
    generate_message begin_string sender target n o now = .ok frame → frame.1.kind ≠ some .ResendRequest

/-- The write does not panic. -/
def Total (o : OutboundMessage) : Prop := ∀ m, ∃ m', o.write m = .ok m'

theorem generate_message_total {o : OutboundMessage} (total : Total o) (begin_string sender target : Bytes) (n : Nat)
    (now : Timestamp) : ∃ frame, generate_message begin_string sender target n o now = .ok frame := by
  obtain ⟨written,wrote⟩ := total (blank begin_string sender target o.message_type n now)
  exact ⟨written.encode Config.default,by rw [generate_message_eq,wrote]; rfl⟩

theorem noRequest_of {o : OutboundMessage} (keeps : KeepsType o) (valid : valid_utf8 o.message_type = true)
    (other : msg_kind o.message_type ≠ .ResendRequest) : NoRequest o := by
  intro _ _ _ _ _ _ generated
  rw [generate_message_kind keeps valid generated]
  simpa using other

/-- The write only sets fields of the body. -/
def BodyOnly (o : OutboundMessage) : Prop := ∃ f : FieldMap → FieldMap, ∀ m, o.write m = .ok { m with body := f m.body }

theorem BodyOnly.total {o : OutboundMessage} (body : BodyOnly o) : Total o := by
  obtain ⟨f,write⟩ := body
  exact fun m => ⟨_,write m⟩

theorem BodyOnly.keepsType {o : OutboundMessage} (body : BodyOnly o) : KeepsType o := by
  obtain ⟨f,write⟩ := body
  intro m m' wrote
  rw [write] at wrote
  cases wrote
  rfl

/-- A message that the session can always write, and that requests no resend. -/
structure Plain (o : OutboundMessage) : Prop where
  total : Total o
  noRequest : NoRequest o

theorem plain_of {o : OutboundMessage} (message_type : Bytes) (body : BodyOnly o) (typed : o.message_type = message_type)
    (valid : valid_utf8 message_type = true) (other : msg_kind message_type ≠ .ResendRequest) : Plain o :=
  ⟨body.total,noRequest_of body.keepsType (typed ▸ valid) (typed ▸ other)⟩

/-- Setting an optional field of the body, on the body alone. -/
def set_body_opt (field : FieldDefinition) (value : Option Bytes) (body : FieldMap) : FieldMap :=
  match value with
  | some value => body.set field value
  | none => body

theorem set_opt_body (m : Message) (field : FieldDefinition) (located : field.location = .Body) (value : Option Bytes) :
    m.set_opt field value = { m with body := set_body_opt field value m.body } := by
  cases value with
  | none => rfl
  | some value => simp [Message.set_opt,Message.set,located,set_body_opt]

theorem heartbeat_bodyOnly (h : Heartbeat) : BodyOnly h.outbound :=
  ⟨_,fun m => congrArg Except.ok (set_opt_body m TEST_REQ_ID rfl h.test_req_id)⟩

theorem testRequest_bodyOnly (t : TestRequest) : BodyOnly t.outbound :=
  ⟨fun body => body.set TEST_REQ_ID t.test_req_id,fun _ => rfl⟩

theorem reject_bodyOnly (r : Reject) : BodyOnly r.outbound :=
  ⟨fun body => ((body.set REF_SEQ_NUM (Decimal.decimal r.ref_seq_num)).set SESSION_REJECT_REASON
    (Decimal.decimal r.session_reject_reason.value)).set TEXT r.text,fun _ => rfl⟩

theorem logout_bodyOnly (l : Logout) : BodyOnly l.outbound :=
  ⟨_,fun m => congrArg Except.ok (set_opt_body m TEXT rfl l.text)⟩

theorem logon_bodyOnly (l : Logon) : BodyOnly l.outbound :=
  ⟨fun body => set_body_opt NEXT_EXPECTED_MSG_SEQ_NUM (l.next_expected_msg_seq_num.map Decimal.decimal)
    (((body.set ENCRYPT_METHOD (ascii "0")).set HEART_BT_INT (Decimal.decimal l.heartbeat_interval)).set
      RESET_SEQ_NUM_FLAG (bool_bytes l.reset_seq_num_flag)),
    fun _ => congrArg Except.ok (set_opt_body _ _ rfl _)⟩

theorem businessReject_bodyOnly (b : BusinessReject) : BodyOnly b.outbound :=
  ⟨fun body => set_body_opt TEXT b.text (set_body_opt REF_SEQ_NUM (b.ref_seq_num.map Decimal.decimal)
    ((body.set REF_MSG_TYPE b.ref_msg_type).set BUSINESS_REJECT_REASON (Decimal.decimal b.reason.value))),
    fun _ => congrArg Except.ok (by rw [set_opt_body _ _ rfl,set_opt_body _ _ rfl]; rfl)⟩

theorem plain_heartbeat (h : Heartbeat) : Plain h.outbound :=
  plain_of Heartbeat.MSG_TYPE (heartbeat_bodyOnly h) rfl (by decide) (by decide)

theorem plain_testRequest (t : TestRequest) : Plain t.outbound :=
  plain_of TestRequest.MSG_TYPE (testRequest_bodyOnly t) rfl (by decide) (by decide)

theorem plain_reject (r : Reject) : Plain r.outbound :=
  plain_of Reject.MSG_TYPE (reject_bodyOnly r) rfl (by decide) (by decide)

theorem plain_logout (l : Logout) : Plain l.outbound :=
  plain_of Logout.MSG_TYPE (logout_bodyOnly l) rfl (by decide) (by decide)

theorem plain_logon (l : Logon) : Plain l.outbound :=
  plain_of Logon.MSG_TYPE (logon_bodyOnly l) rfl (by decide) (by decide)

theorem plain_businessReject (b : BusinessReject) : Plain b.outbound :=
  plain_of BusinessReject.MSG_TYPE (businessReject_bodyOnly b) rfl (by decide) (by decide)

theorem resendRequest_bodyOnly (r : ResendRequest) : BodyOnly r.outbound :=
  ⟨fun body => (body.set BEGIN_SEQ_NO (Decimal.decimal r.begin_seq_no)).set END_SEQ_NO (Decimal.decimal r.end_seq_no),
    fun _ => rfl⟩

theorem resendRequest_kind {r : ResendRequest} {begin_string sender target : Bytes} {n : Nat} {now : Timestamp}
    {frame : Message × Bytes} (generated : generate_message begin_string sender target n r.outbound now = .ok frame) :
    frame.1.kind = some .ResendRequest :=
  generate_message_kind (o := r.outbound) (resendRequest_bodyOnly r).keepsType
    (show valid_utf8 ResendRequest.MSG_TYPE = true by decide) generated

/-! ### Gap fills and resent messages -/

/-- What a SequenceReset writes into a message that has a SendingTime. -/
theorem sequenceReset_write (s : SequenceReset) {m : Message} {sent : Timestamp}
    (sending : m.header.get_timestamp SENDING_TIME = some sent) :
    s.outbound.write m = .ok
      { m with
        header := (m.header.set ORIG_SENDING_TIME sent.to_bytes).set POSS_DUP_FLAG (bool_bytes true)
        body := (m.body.set GAP_FILL_FLAG (bool_bytes s.gap_fill)).set NEW_SEQ_NO (Decimal.decimal s.new_seq_no) } := by
  simp only [SequenceReset.outbound,Message.set,GAP_FILL_FLAG,NEW_SEQ_NO]
  rw [sending]

/-- A gap fill is always written: its type, its number and its NewSeqNo. -/
theorem gapFill_generated (begin_string sender target : Bytes) (first last : Nat) (now : Timestamp) :
    ∃ frame, generate_message begin_string sender target first (SequenceReset.outbound ⟨true,last⟩) now = .ok frame ∧
      frame.1.kind = some .SequenceReset ∧ (first < U64 → frame.1.msg_seq_num = some first) ∧
      (last < U64 → frame.1.body.get_u64 NEW_SEQ_NO = some last) ∧
      frame.1.body.get_bool GAP_FILL_FLAG = some true := by
  let m := blank begin_string sender target SequenceReset.MSG_TYPE first now
  have written := sequenceReset_write ⟨true,last⟩
    (blank_sending_time begin_string sender target SequenceReset.MSG_TYPE first now)
  refine ⟨_,by rw [generate_message_eq]; exact congrArg (Except.map _) written,?_,?_,?_,?_⟩
  · have same : ∀ h b t : FieldMap, (⟨(h.set ORIG_SENDING_TIME now.to_bytes).set POSS_DUP_FLAG (bool_bytes true),b,t⟩ :
        Message).msg_type = (⟨h,b,t⟩ : Message).msg_type := by
      intro h b t
      simp [Message.msg_type,FieldMap.get_str,FieldMap.get_raw_set,ORIG_SENDING_TIME,POSS_DUP_FLAG,MSG_TYPE]
    have typed := blank_msg_type begin_string sender target SequenceReset.MSG_TYPE first now (by decide)
    unfold Message.kind
    rw [encode_msg_type,same]
    exact (congrArg (Option.map msg_kind) typed).trans (by decide)
  · intro fits
    rw [encode_msg_seq_num]
    have number := blank_msg_seq_num begin_string sender target SequenceReset.MSG_TYPE first now fits
    simpa [Message.msg_seq_num,FieldMap.get_u64,FieldMap.get_raw_set,ORIG_SENDING_TIME,POSS_DUP_FLAG,MSG_SEQ_NUM]
      using number
  · intro fits
    simp [encode_body,FieldMap.get_u64,FieldMap.get_raw_set,Decimal.parseBelow_decimal fits]
  · simp [encode_body,FieldMap.get_bool,FieldMap.get_raw_set,GAP_FILL_FLAG,NEW_SEQ_NO,bool_bytes]

/-- The four ends of a preparation: no SendingTime, a message that was resent before, a first
    resend, and a SendingTime that does not parse, which is lost. -/
theorem prepare_message_for_resend_cases (m : Message) (now : Timestamp) :
    (m.header.get_raw SENDING_TIME.tag = none ∧
      prepare_message_for_resend m now = (m,.error "Missing SendingTime (52)")) ∨
    ∃ data, m.header.get_raw SENDING_TIME.tag = some data ∧
      ((m.poss_dup && (m.header.get_raw ORIG_SENDING_TIME.tag).isSome) = true ∧
        prepare_message_for_resend m now =
          ({ m with header := (m.header.pop SENDING_TIME.tag).2.set SENDING_TIME now.to_bytes },.ok ()) ∨
      (m.poss_dup && (m.header.get_raw ORIG_SENDING_TIME.tag).isSome) = false ∧
        ((∃ t, Timestamp.parse data = some t ∧ prepare_message_for_resend m now =
          ({ m with header := (((m.header.pop SENDING_TIME.tag).2.set ORIG_SENDING_TIME t.to_bytes).set SENDING_TIME
            now.to_bytes).set POSS_DUP_FLAG (bool_bytes true) },.ok ())) ∨
        (Timestamp.parse data = none ∧ prepare_message_for_resend m now =
          ({ m with header := (m.header.pop SENDING_TIME.tag).2 },.error "Invalid original SendingTime format")))) := by
  cases found : m.header.fields.find? (fun f => f.tag = SENDING_TIME.tag) with
  | none =>
    have missing : m.header.get_raw SENDING_TIME.tag = none := congrArg (Option.map Field.data) found
    refine .inl ⟨missing,?_⟩
    unfold prepare_message_for_resend
    exact if_pos missing
  | some field =>
    have present : m.header.get_raw SENDING_TIME.tag = some field.data := congrArg (Option.map Field.data) found
    have popped : m.header.pop SENDING_TIME.tag = (some field,(m.header.pop SENDING_TIME.tag).2) := congrArg (·,_) found
    have there : ¬ m.header.get_raw SENDING_TIME.tag = none := by simp [present]
    refine .inr ⟨field.data,present,?_⟩
    unfold prepare_message_for_resend
    dsimp only
    rw [if_neg there,popped]
    cases again : m.poss_dup && (m.header.get_raw ORIG_SENDING_TIME.tag).isSome with
    | true => exact .inl ⟨rfl,rfl⟩
    | false =>
      refine .inr ⟨rfl,?_⟩
      cases parsed : Timestamp.parse field.data with
      | some t =>
        refine .inl ⟨t,rfl,?_⟩
        simp only [Bool.false_eq_true,if_false,parsed]
      | none =>
        refine .inr ⟨rfl,?_⟩
        simp only [Bool.false_eq_true,if_false,parsed]

/-- The preparation for a resend touches only the times and the duplicate flag. -/
theorem prepared_get_raw (m : Message) (now : Timestamp) {tag : TagU32} (sending : SENDING_TIME.tag ≠ tag)
    (original : ORIG_SENDING_TIME.tag ≠ tag) (duplicate : POSS_DUP_FLAG.tag ≠ tag) :
    (prepare_message_for_resend m now).1.header.get_raw tag = m.header.get_raw tag := by
  have popped := FieldMap.get_raw_pop m.header sending
  rcases prepare_message_for_resend_cases m now with ⟨-,same⟩ | ⟨_,-,⟨-,same⟩ | ⟨-,⟨_,-,same⟩ | ⟨-,same⟩⟩⟩
  · rw [same]
  · rw [same]
    simp only [FieldMap.get_raw_set,if_neg sending,popped]
  · rw [same]
    simp only [FieldMap.get_raw_set,if_neg sending,if_neg original,if_neg duplicate,popped]
  · rw [same]
    exact popped

theorem prepared_msg_type (m : Message) (now : Timestamp) :
    (prepare_message_for_resend m now).1.msg_type = m.msg_type := by
  unfold Message.msg_type FieldMap.get_str
  rw [prepared_get_raw m now (by decide) (by decide) (by decide)]

theorem prepared_msg_seq_num (m : Message) (now : Timestamp) :
    (prepare_message_for_resend m now).1.msg_seq_num = m.msg_seq_num := by
  unfold Message.msg_seq_num FieldMap.get_u64
  rw [prepared_get_raw m now (by decide) (by decide) (by decide)]

end HotFix.Frames
