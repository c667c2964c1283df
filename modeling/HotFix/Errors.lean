import HotFix.Reactions

/-!
Where the session stops with an error, which ends the handling of a frame. A message
that is processed does so when the store refuses a count, or the number or the bytes of
an answer, or when stored messages cannot be resent.
-/
namespace HotFix.Errors
open HotFix.Program HotFix.Frames HotFix.Operations HotFix.Loop HotFix.Sending HotFix.Deeds MessageStore
variable {S : Type}

/-! ### Failing -/

/-- Started in `w`, the computation stops with an error. -/
def FailsIn {α : Type} (x : SessionM S α) (w : World S) : Prop := ∃ e w', x w = .error (.Error e) w'

section
variable {α β : Type} {x : SessionM S α} {f : α → SessionM S β} {w : World S}

theorem fails_bind_ok {a : α} {w' : World S} (executed : x w = .ok a w') : FailsIn (x >>= f) w ↔ FailsIn (f a) w' := by
  simp [FailsIn,bind_ok executed]

theorem fails_get {f : World S → SessionM S β} : FailsIn (get >>= f) w ↔ FailsIn (f w) w := fails_bind_ok rfl

theorem fails_throw (e : SessionOperationError) : FailsIn (throw (.Error e) : SessionM S α) w := ⟨e,w,rfl⟩

theorem fails_throw_bind (e : SessionOperationError) : FailsIn (throw (.Error e) >>= f) w := ⟨e,w,rfl⟩

theorem not_fails_pure (a : α) : ¬ FailsIn (pure a : SessionM S α) w := by
  rintro ⟨e,w',executed⟩
  cases executed

theorem not_fails_panic (text : String) : ¬ FailsIn (throw (.Panic text) : SessionM S α) w := by
  rintro ⟨e,w',executed⟩
  cases executed

theorem not_fails_panic_bind (text : String) : ¬ FailsIn (throw (.Panic text) >>= f : SessionM S β) w := by
  rintro ⟨e,w',executed⟩
  cases executed

/-- A computation that always returns does not fail. -/
theorem not_fails_of_runs {ok : α → World S → Prop} (runs : Runs x w ok (fun _ _ => False)) : ¬ FailsIn x w := by
  rintro ⟨e,w',executed⟩
  simp [Runs,executed] at runs

end

/-! ### Store operations and messages that are not sent -/

/-- The store answers the operation with an error. -/
def refused (operation : S → Except StoreError Unit × S) (s : S) : Bool :=
  match operation s with
  | (.error _,_) => true
  | (.ok (),_) => false

theorem store_fails (operation : S → Except StoreError Unit × S) (effects : List Effect) (w : World S) :
    FailsIn (do store_result (← store_operation operation effects)) w ↔ refused operation w.store = true := by
  unfold refused
  rcases result : operation w.store with ⟨e | _,s⟩
  · have executed : store_operation operation effects w = .ok (.error e) { w with store := s } := by
      rw [store_operation_eq,result]
    rw [fails_bind_ok executed]
    exact iff_of_true (fails_throw _) rfl
  · have executed : store_operation operation effects w = .ok (.ok ()) { w with store := s, journal := w.journal ++ effects } := by
      rw [store_operation_eq,result]
    rw [fails_bind_ok executed]
    exact iff_of_false (not_fails_pure _) (by simp)

variable [MessageStore S] {env : Env}

/-- The message is not sent, because the store does not take its number or its bytes. -/
def unsendable (env : Env) (o : OutboundMessage) (w : World S) : Bool :=
  match generated env o w with
  | .error _ => false
  | .ok (_,raw) =>
    match increment_sender_seq_number w.store with
    | (.error _,_) => true
    | (.ok (),s) => refused (add (next_sender w) raw) s

/-- The store once the message has been sent. -/
def filed (env : Env) (o : OutboundMessage) (w : World S) : S :=
  match generated env o w with
  | .error _ => w.store
  | .ok (_,raw) => (add (next_sender w) raw (increment_sender_seq_number w.store).2).2

section
variable {w : World S} {o : OutboundMessage}

variable (env) in
/-- A message is prepared, or the store refuses it. -/
theorem prepare_cases (total : Total o) :
    (∃ e w', unsendable env o w = true ∧ prepare_message env o w = .ok (.error e) w') ∨
      ∃ prepared, unsendable env o w = false ∧ generated env o w = .ok (prepared.message,prepared.raw) ∧
        prepare_message env o w = .ok (.ok prepared) (ticked w (filed env o w)) := by
  obtain ⟨⟨m,raw⟩,frame⟩ : ∃ frame, generated env o w = .ok frame := generate_message_total total _ _ _ _ _
  unfold unsendable filed refused
  rw [prepare_message_eq frame,frame]
  dsimp only
  rcases increment_sender_seq_number w.store with ⟨e | _,s⟩
  · exact .inl ⟨_,_,rfl,rfl⟩
  · dsimp only
    rcases add (next_sender w) raw s with ⟨e | _,s'⟩
    · exact .inl ⟨_,_,rfl,rfl⟩
    · exact .inr ⟨⟨next_sender w,m,raw⟩,rfl,rfl,rfl⟩

/-- A message to a given writer is sent, or the store refuses it. -/
theorem send_to_fails (total : Total o) (writer : WriterRef) (context : String) :
    FailsIn (do let _ ← with_send_context context (← send_message_to env writer o)) w ↔ unsendable env o w = true := by
  rcases prepare_cases env (w := w) total with ⟨e,w',unsent,prepared⟩ | ⟨prepared,sent,-,executed⟩
  · have result : send_message_to env writer o w = .ok (.error e) w' := by
      unfold send_message_to
      rw [bind_ok prepared]
      rfl
    rw [fails_bind_ok result]
    exact iff_of_true (fails_throw_bind _) unsent
  · have result : send_message_to env writer o w = .ok (.ok prepared.seq_num)
        (noted (ticked w (filed env o w)) (.Sent writer prepared.message prepared.raw)) := by
      unfold send_message_to
      rw [bind_ok executed]
      rfl
    rw [fails_bind_ok result]
    exact iff_of_false (not_fails_pure _) (by simp [sent])

variable (env) in
/-- A message is sent through the state, or the store refuses it. -/
theorem send_cases (total : Total o) :
    (∃ e w', unsendable env o w = true ∧ send_message env o w = .ok (.error e) w') ∨
      ∃ n w', unsendable env o w = false ∧ send_message env o w = .ok (.ok n) w' ∧ w'.store = filed env o w := by
  rcases prepare_cases env (w := w) total with ⟨e,w',unsent,prepared⟩ | ⟨prepared,sent,-,executed⟩
  · refine .inl ⟨e,w',unsent,?_⟩
    unfold send_message
    rw [bind_ok prepared]
    rfl
  · obtain ⟨_,w',written,store,-⟩ := runs_returned (write_prepared_journal o.message_type prepared (ticked w (filed env o w)))
    refine .inr ⟨prepared.seq_num,w',sent,?_,store⟩
    unfold send_message
    rw [bind_ok executed]
    exact (bind_ok written).trans rfl

theorem send_fails (total : Total o) (context : String) :
    FailsIn (do let _ ← with_send_context context (← send_message env o)) w ↔ unsendable env o w = true := by
  rcases send_cases env (w := w) total with ⟨e,w',unsent,result⟩ | ⟨n,w',sent,result,-⟩
  · rw [fails_bind_ok result]
    exact iff_of_true (fails_throw_bind _) unsent
  · rw [fails_bind_ok result]
    exact iff_of_false (not_fails_pure _) (by simp [sent])

/-- What follows a message that is sent fails if the message is not sent or the count
    of the message that it answers is not filed. -/
theorem send_and_count_fails (total : Total o) (context : String) {next : SessionM S Unit}
    (fails : ∀ w' : World S, FailsIn next w' ↔ refused increment_target_seq_number w'.store = true) :
    FailsIn (do
      let sent ← send_message env o
      let _ ← with_send_context context sent
      next) w ↔ (unsendable env o w || refused increment_target_seq_number (filed env o w)) = true := by
  rcases send_cases env (w := w) total with ⟨e,w',unsent,result⟩ | ⟨n,w',sent,result,kept⟩
  · rw [fails_bind_ok result,unsent]
    exact iff_of_true (fails_throw_bind _) rfl
  · rw [fails_bind_ok result,fails_bind_ok (show with_send_context context (.ok n) w' = .ok n w' from rfl),fails,kept,sent]
    rfl

end

/-! ### Resends -/

/-- A filed message cannot be read back for the resend, or has no type. -/
def unreadable (env : Env) : List Bytes → Bool
  | [] => false
  | raw :: rest =>
    match (env.build raw).into_message with
    | none => true
    | some m =>
      match m.msg_seq_num,m.msg_type with
      | none,_ => false
      | some _,none => true
      | some _,some _ => unreadable env rest

def slice_fails (env : Env) : Except (Abort StoreError) (List Bytes) → Bool
  | .ok messages => unreadable env messages
  | .error (.Error _) => true
  | .error (.Panic _) => false

omit [MessageStore S] in
theorem resend_loop_fails (writer : WriterRef) (messages : List Bytes) :
    ∀ pending n (w : World S), FailsIn (resend_loop env writer messages pending n) w ↔ unreadable env messages = true := by
  induction messages with
  | nil =>
    intro pending n w
    exact iff_of_false (not_fails_of_runs (@Panics.flush_reset_returns _ env writer n pending w)) (by simp [unreadable])
  | cons raw rest ih =>
    intro pending n w
    unfold resend_loop unreadable
    cases (env.build raw).into_message with
    | none => exact iff_of_true (fails_throw _) rfl
    | some m =>
      unfold get_msg_seq_num
      dsimp only
      cases m.msg_seq_num with
      | none => exact iff_of_false (not_fails_panic_bind _) (by simp)
      | some k =>
        rw [fails_bind_ok (show (pure k : SessionM S Nat) w = .ok k w from rfl)]
        cases m.msg_type with
        | none => exact iff_of_true (fails_throw _) rfl
        | some message_type =>
          dsimp only
          split_ifs
          · exact ih _ _ w
          · obtain ⟨_,w₁,filled,-⟩ := runs_returned (@Panics.flush_reset_returns _ env writer k pending w)
            rw [fails_bind_ok filled]
            exact ih none k _

theorem resend_messages_fails (writer : WriterRef) (first last : Nat) (w : World S) :
    FailsIn (resend_messages env writer first last) w ↔ slice_fails env (get_slice first last w.store) = true := by
  unfold resend_messages
  rw [fails_get]
  rcases get_slice first last w.store with (e | text) | messages
  · exact iff_of_true (fails_throw_bind _) rfl
  · exact iff_of_false (not_fails_panic_bind _) (by simp [slice_fails])
  · rw [fails_bind_ok (show slice_result (.ok messages) w = .ok messages w from rfl)]
    exact resend_loop_fails writer messages none 0 w

/-! ### Handlers -/

/-- The answer to a ResendRequest fails. -/
def request_fails (env : Env) (w : World S) (m : Message) : Bool :=
  match m.msg_seq_num,m.body.get_u64 BEGIN_SEQ_NO,m.body.get_u64 END_SEQ_NO with
  | none,_,_ => false
  | some n,none,_ => unsendable env (Reject.outbound ⟨n,.RequiredTagMissing,
      ascii "missing begin sequence number for resend request"⟩) w
  | some n,some _,none => unsendable env (Reject.outbound ⟨n,.RequiredTagMissing,
      ascii "missing end sequence number for resend request"⟩) w
  | some n,some first,some requested =>
    let last := next_sender w - 1
    match if n = next_target w then increment_target_seq_number w.store else (.ok (),w.store) with
    | (.ok (),s) => slice_fails env (get_slice first (if requested = 0 then last else min requested last) s)
    | (.error _,_) => true

def reset_fails (env : Env) (w : World S) (m : Message) : Bool :=
  match m.msg_seq_num,m.body.get_u64 NEW_SEQ_NO with
  | none,_ => false
  | some n,none => unsendable env (Reject.outbound ⟨n,.RequiredTagMissing,
      ascii "missing NewSeqNo tag in sequence reset message"⟩) w
  | some n,some new_seq_no =>
    if new_seq_no ≤ next_target w then unsendable env (Reject.outbound ⟨n,.ValueIsIncorrect,
      ascii "attempt to lower sequence number, invalid value NewSeqNo(36)=" ++ Decimal.decimal new_seq_no⟩) w
    else refused (set_target_seq_number (new_seq_no - 1)) w.store

def test_fails (env : Env) (w : World S) (m : Message) : Bool :=
  match m.body.get_str TEST_REQ_ID with
  | none => false
  | some req_id =>
    match increment_target_seq_number w.store with
    | (.error _,_) => true
    | (.ok (),s) => unsendable env (Heartbeat.for_request req_id).outbound { w with store := s }

/-- The handler of the message stops with an error: a count is not filed, an answer is
    not sent, or filed messages cannot be resent. -/
def handler_fails (env : Env) (w : World S) (m : Message) : MsgKind → Bool
  | .Heartbeat => refused increment_target_seq_number w.store
  | .TestRequest => w.state.is_connected && test_fails env w m
  | .ResendRequest => w.state.is_connected && request_fails env w m
  | .Reject => refused increment_target_seq_number w.store
  | .SequenceReset => w.state.is_connected && reset_fails env w m
  | .Logout =>
    if w.state.is_logged_on then
      unsendable env (Logout.with_reason (ascii "Logout acknowledged")).outbound w ||
        refused increment_target_seq_number (filed env (Logout.with_reason (ascii "Logout acknowledged")).outbound w)
    else refused increment_target_seq_number w.store
  | .Logon => w.state.is_awaiting_logon && refused increment_target_seq_number w.store
  | .Application =>
    match env.application.on_inbound_message w.journal m,m.msg_type,m.msg_seq_num with
    | .Reject _ _,none,_ => true
    | .Reject _ _,some _,none => false
    | .Reject reason text,some msg_type,some n =>
      unsendable env (BusinessReject.outbound ⟨msg_type,reason,some n,text⟩) w ||
        refused increment_target_seq_number (filed env (BusinessReject.outbound ⟨msg_type,reason,some n,text⟩) w)
    | _,_,_ => refused increment_target_seq_number w.store

section
variable {w : World S} {m : Message}

theorem count_fails (w : World S) :
    FailsIn (do store_result (← increment_target) : SessionM S Unit) w ↔ refused increment_target_seq_number w.store = true :=
  store_fails _ _ w

/-- A count that is not filed fails; otherwise what follows it may. -/
theorem fails_count {next : SessionM S Unit} {P : S → Bool}
    (later : ∀ s journal, FailsIn next { w with store := s, journal } ↔ P s = true) :
    FailsIn (do
      store_result (← increment_target)
      next) w ↔ (match increment_target_seq_number w.store with
        | (.error _,_) => true
        | (.ok (),s) => P s) = true := by
  rcases counted : increment_target_seq_number w.store with ⟨e | _,s⟩
  · have executed : increment_target w = .ok (.error e) { w with store := s } := by
      rw [increment_target,store_operation_eq,counted]
    rw [fails_bind_ok executed]
    exact iff_of_true (fails_throw_bind _) rfl
  · have executed : increment_target w = .ok (.ok ()) { w with store := s, journal := w.journal ++ [.TargetIncremented] } := by
      rw [increment_target,store_operation_eq,counted]
    rw [fails_bind_ok executed]
    exact later s _

omit [MessageStore S] in
theorem number_read {β : Type} {f : Nat → SessionM S β} {n : Nat} (number : m.msg_seq_num = some n) :
    FailsIn (get_msg_seq_num m >>= f) w ↔ FailsIn (f n) w := by
  unfold get_msg_seq_num
  rw [number]
  exact fails_bind_ok rfl

omit [MessageStore S] in
theorem number_missing {β : Type} {f : Nat → SessionM S β} (missing : m.msg_seq_num = none) :
    ¬ FailsIn (get_msg_seq_num m >>= f) w := by
  unfold get_msg_seq_num
  rw [missing]
  exact not_fails_panic_bind _

theorem answer_test_request_fails (writer : WriterRef) :
    FailsIn (answer_test_request env writer m) w ↔ test_fails env w m = true := by
  unfold answer_test_request test_fails
  cases m.body.get_str TEST_REQ_ID with
  | none => exact iff_of_false (not_fails_panic _) (by simp)
  | some req_id =>
    exact fails_count (fun s journal =>
      send_to_fails (w := { w with store := s, journal }) (Primitives.Own.heartbeat _).bodyOnly.total writer "heartbeat response")

theorem send_reject_fails (writer : WriterRef) (n : Nat) (reason : SessionRejectReason) (text : Bytes) (context : String) :
    FailsIn (do let _ ← with_send_context context (← send_reject env writer n reason text)) w ↔
      unsendable env (Reject.outbound ⟨n,reason,text⟩) w = true :=
  send_to_fails (Primitives.Own.reject _).bodyOnly.total writer context

theorem take_sequence_reset_fails (writer : WriterRef) :
    FailsIn (take_sequence_reset env writer m) w ↔ reset_fails env w m = true := by
  unfold take_sequence_reset reset_fails
  cases number : m.msg_seq_num with
  | none => exact iff_of_false (number_missing number) (by simp)
  | some n =>
    rw [number_read number]
    cases m.body.get_u64 NEW_SEQ_NO with
    | none => exact send_reject_fails writer _ _ _ _
    | some new_seq_no =>
      dsimp only
      rw [fails_get]
      split_ifs
      · exact send_reject_fails writer _ _ _ _
      · exact store_fails _ _ w

theorem answer_resend_request_fails (writer : WriterRef) :
    FailsIn (answer_resend_request env writer m) w ↔ request_fails env w m = true := by
  unfold answer_resend_request request_fails
  cases number : m.msg_seq_num with
  | none => exact iff_of_false (number_missing number) (by simp)
  | some n =>
    rw [number_read number,fails_get]
    cases m.body.get_u64 BEGIN_SEQ_NO with
    | none => exact send_reject_fails writer _ _ _ _
    | some first =>
      cases m.body.get_u64 END_SEQ_NO with
      | none => exact send_reject_fails writer _ _ _ _
      | some requested =>
        dsimp only
        rw [fails_get]
        generalize (if requested = 0 then next_sender w - 1 else min requested (next_sender w - 1)) = last
        by_cases expected : n = next_target w
        · rw [if_pos expected,if_pos expected]
          refine (fails_count (P := fun s => slice_fails env (get_slice first last s)) (fun s journal =>
            resend_messages_fails writer first last { w with store := s, journal })).trans ?_
          rcases increment_target_seq_number w.store with ⟨e | _,s⟩
          · exact Iff.rfl
          · exact Iff.rfl
        · rw [if_neg expected,if_neg expected]
          exact resend_messages_fails writer first last w

theorem on_resend_request_fails :
    FailsIn (on_resend_request env m) w ↔ w.state.is_connected = true ∧ request_fails env w m = true := by
  unfold on_resend_request
  rw [fails_get]
  by_cases connected : w.state.is_connected = true
  · rw [if_pos connected]
    simp only [connected,true_and]
    cases number : m.msg_seq_num with
    | none => exact iff_of_false (number_missing number) (by simp [request_fails,number])
    | some n =>
      rw [number_read number]
      cases state : w.state with
      | AwaitingResend awaiting =>
        dsimp only
        split_ifs
        · exact answer_resend_request_fails (w := { w with state := _ }) awaiting.writer
        · exact answer_resend_request_fails awaiting.writer
      | AwaitingLogon logon => exact answer_resend_request_fails logon.writer
      | AwaitingLogout logout => exact answer_resend_request_fails logout.writer
      | Active active => exact answer_resend_request_fails active.writer
      | Disconnected _ => simp [state,SessionState.is_connected,SessionState.get_writer] at connected
  · rw [if_neg connected]
    exact iff_of_false (not_fails_pure _) (fun both => connected both.1)

omit [MessageStore S] in
theorem with_writer_fails {g : WriterRef → SessionM S Unit} {P : Prop} (handler : ∀ writer, FailsIn (g writer) w ↔ P) :
    FailsIn (do
      match (← get).state.get_writer with
      | some writer => g writer
      | none => return ()) w ↔ w.state.is_connected = true ∧ P := by
  rw [fails_get]
  unfold SessionState.is_connected
  cases w.state.get_writer with
  | none => exact iff_of_false (not_fails_pure _) (by simp)
  | some writer => simpa using handler writer

omit [MessageStore S] in
theorem disconnect_writer_returns (w : World S) :
    Runs disconnect_writer w (fun _ w' => w'.store = w.store ∧ w'.state = w.state) (fun _ _ => False) := by
  unfold disconnect_writer
  rw [runs_bind,runs_get]
  cases w.state.get_writer with
  | none => exact ⟨rfl,rfl⟩
  | some writer => exact ⟨rfl,rfl⟩

omit [MessageStore S] in
theorem apply_transition_returns (result : TransitionResult) (w : World S) :
    Runs (apply_transition result) w (fun _ w' => w'.store = w.store) (fun _ _ => False) := by
  cases result with
  | Stay => exact rfl
  | TransitionTo state =>
    unfold apply_transition
    simp only [runs_bind,runs_get,runs_set_state]
    split_ifs
    · exact rfl
    · exact rfl

theorem on_heartbeat_fails : FailsIn (on_heartbeat m) w ↔ refused increment_target_seq_number w.store = true := by
  unfold on_heartbeat
  rw [fails_get]
  dsimp only
  split_ifs
  · exact count_fails { w with state := _ }
  · exact count_fails w

theorem on_logout_fails : FailsIn (on_logout env) w ↔ handler_fails env w m .Logout = true := by
  have leaves (w : World S) : FailsIn (do
      note (.OnLogout (ascii "peer has logged us out"))
      disconnect_writer
      apply_transition (← get).state.on_peer_logout
      store_result (← increment_target) : SessionM S Unit) w ↔ refused increment_target_seq_number w.store = true := by
    obtain ⟨_,w₁,disconnected,store₁,-⟩ := runs_returned (disconnect_writer_returns (noted w (.OnLogout (ascii "peer has logged us out"))))
    obtain ⟨_,w₂,moved,store₂⟩ := runs_returned (apply_transition_returns w₁.state.on_peer_logout w₁)
    rw [fails_bind_ok (show note (.OnLogout (ascii "peer has logged us out")) w = .ok () (noted w _) from rfl),
      fails_bind_ok disconnected,fails_get,fails_bind_ok moved,count_fails,store₂,store₁]
    rfl
  unfold on_logout handler_fails send_logout
  rw [fails_get]
  split_ifs with logged_on
  · simp only [bind_assoc,pure_bind]
    exact send_and_count_fails (Primitives.Own.logout _).bodyOnly.total "logout" leaves
  · exact leaves w

theorem on_logon_fails :
    FailsIn on_logon w ↔ (w.state.is_awaiting_logon && refused increment_target_seq_number w.store) = true := by
  unfold on_logon
  rw [fails_get]
  cases state : w.state with
  | AwaitingLogon awaiting =>
    dsimp only
    rw [fails_bind_ok (show note .OnLogon w = .ok () (noted w .OnLogon) from rfl),SessionState.is_awaiting_logon,Bool.true_and]
    refine (fails_count (w := noted w .OnLogon) (P := fun _ => false) (fun s journal =>
      iff_of_false (not_fails_of_runs (apply_transition_returns _ _)) (by simp))).trans ?_
    unfold refused
    exact Iff.rfl
  | _ => exact iff_of_false (not_fails_pure _) (by simp [SessionState.is_awaiting_logon])

theorem process_app_message_fails : FailsIn (process_app_message env m) w ↔ handler_fails env w m .Application = true := by
  unfold process_app_message handler_fails
  rw [fails_get,fails_bind_ok (show note (.OnInboundMessage m) w = .ok () (noted w (.OnInboundMessage m)) from rfl)]
  cases env.application.on_inbound_message w.journal m with
  | Accept => exact count_fails (noted w _)
  | TerminateSession =>
    obtain ⟨_,w',disconnected,store,-⟩ := runs_returned (disconnect_writer_returns (noted w (.OnInboundMessage m)))
    dsimp only
    rw [fails_bind_ok disconnected,count_fails,store]
    rfl
  | Reject reason text =>
    dsimp only
    cases m.msg_type with
    | none => exact iff_of_true (fails_throw_bind _) rfl
    | some message_type =>
      dsimp only
      cases number : m.msg_seq_num with
      | none => exact iff_of_false (number_missing number) (by simp)
      | some n =>
        rw [number_read number]
        exact send_and_count_fails (w := noted w (.OnInboundMessage m)) (Primitives.Own.businessReject _).bodyOnly.total
          "business message reject" count_fails

/-- The handlers stop with an error exactly where one is foreseen. -/
theorem dispatch_fails (kind : MsgKind) : FailsIn (dispatch env kind m) w ↔ handler_fails env w m kind = true := by
  cases kind with
  | Heartbeat => exact on_heartbeat_fails
  | TestRequest =>
    rw [handler_fails,Bool.and_eq_true]
    exact with_writer_fails (fun writer => answer_test_request_fails writer)
  | ResendRequest =>
    rw [handler_fails,Bool.and_eq_true]
    exact on_resend_request_fails
  | Reject => exact count_fails w
  | SequenceReset =>
    rw [handler_fails,Bool.and_eq_true]
    exact with_writer_fails (fun writer => take_sequence_reset_fails writer)
  | Logout => exact on_logout_fails
  | Logon => exact on_logon_fails
  | Application => exact process_app_message_fails

end

/-! ### Processing -/

/-- Whatever the world, the computation returns. -/
def Returns {α : Type} (x : SessionM S α) : Prop := ∀ w, ∃ a w', x w = .ok a w'

section
variable {α β : Type} {x : SessionM S α} {f : α → SessionM S β}

omit [MessageStore S] in
theorem returns_pure (a : α) : Returns (pure a : SessionM S α) := fun w => ⟨a,w,rfl⟩

omit [MessageStore S] in
theorem returns_bind (first : Returns x) (next : ∀ a, Returns (f a)) : Returns (x >>= f) := by
  intro w
  obtain ⟨a,w',executed⟩ := first w
  rw [bind_ok executed]
  exact next a w'

omit [MessageStore S] in
theorem Returns.not_fails (returns : Returns x) (w : World S) : ¬ FailsIn x w := by
  rintro ⟨e,u,stopped⟩
  obtain ⟨a,w',executed⟩ := returns w
  rw [executed] at stopped
  cases stopped

omit [MessageStore S] in
theorem returns_note (entry : Effect) : Returns (note entry : SessionM S Unit) := fun w => ⟨(),noted w entry,rfl⟩

omit [MessageStore S] in
theorem returns_transition (result : TransitionResult) : Returns (apply_transition result : SessionM S Unit) := by
  intro w
  obtain ⟨a,w',executed,-⟩ := runs_returned (apply_transition_returns result w)
  exact ⟨a,w',executed⟩

omit [MessageStore S] in
theorem returns_store (operation : S → Except StoreError Unit × S) (effects : List Effect) :
    Returns (store_operation operation effects) := by
  intro w
  rw [store_operation_eq]
  rcases operation w.store with ⟨e | _,s⟩
  · exact ⟨_,_,rfl⟩
  · exact ⟨_,_,rfl⟩

theorem returns_send_to {o : OutboundMessage} (own : Primitives.Own o) (writer : WriterRef) :
    Returns (send_message_to env writer o : SessionM S (Except InternalSendError Nat)) := by
  intro w
  unfold send_message_to
  rcases prepare_cases env (w := w) own.bodyOnly.total with ⟨e,w',-,prepared⟩ | ⟨prepared,-,-,executed⟩
  · rw [bind_ok prepared]
    exact ⟨_,_,rfl⟩
  · rw [bind_ok executed]
    exact ⟨_,_,rfl⟩

end

/-- Whatever is wrong with a message, handling it does not fail. -/
theorem returns_verification_error (writer : WriterRef) (error : MessageError) :
    Returns (handle_verification_error env writer error : SessionM S TransitionResult) := by
  have rejects (n : Nat) (reason : SessionRejectReason) (text : Bytes) :
      Returns (reject_and_count env writer n reason text : SessionM S Unit) :=
    returns_bind (returns_send_to (.reject _) writer) (fun _ => returns_bind (returns_store _ _) (fun _ => returns_pure _))
  have leaves (text : Bytes) : Returns (logout_and_disconnect env writer text : SessionM S Unit) :=
    returns_bind (returns_send_to (.logout _) writer) (fun _ => returns_note _)
  cases error with
  | SeqNumberTooLow expected actual possible_duplicate =>
    unfold handle_verification_error handle_sequence_number_too_low
    cases possible_duplicate with
    | true => exact returns_pure _
    | false => exact returns_bind (leaves _) (fun _ => returns_pure _)
  | IncorrectBeginString begin_string => exact returns_bind (leaves _) (fun _ => returns_pure _)
  | IncorrectCompId comp_id comp_id_type n =>
    exact returns_bind (returns_send_to (.reject _) writer) (fun _ => returns_bind (leaves _) (fun _ => returns_pure _))
  | SendingTimeAccuracyIssue n => exact returns_bind (rejects _ _ _) (fun _ => returns_pure _)
  | SendingTimeMissing n => exact returns_bind (rejects _ _ _) (fun _ => returns_pure _)
  | OriginalSendingTimeMissing n => exact returns_bind (rejects _ _ _) (fun _ => returns_pure _)
  | OriginalSendingTimeAfterSendingTime n original sent => exact returns_bind (rejects _ _ _) (fun _ => returns_pure _)

/-- A request for a resend is not sent. -/
def gap_fails (env : Env) (w : World S) (expected actual : Nat) : SessionState → Bool
  | .AwaitingResend state =>
    (state.update expected actual).1 = .Success && unsendable env (ResendRequest.outbound ⟨expected,actual⟩) w
  | .Active _ => unsendable env (ResendRequest.outbound ⟨expected,actual⟩) w
  | .AwaitingLogon _ => unsendable env (ResendRequest.outbound ⟨expected,actual⟩) w
  | _ => false

/-- Processing the message stops with an error. -/
def fails (env : Env) (v : World S) (m : Message) : Bool :=
  match reaction env v m with
  | .Untyped => true
  | .Ahead expected actual => gap_fails env (ticked v v.store) expected actual v.state
  | .Passed kind => handler_fails env (if v.state.is_connected then ticked v v.store else v) m kind
  | _ => false

theorem request_resend_fails {w : World S} (writer : WriterRef) (expected actual : Nat) :
    FailsIn (request_resend env writer expected actual) w ↔
      unsendable env (ResendRequest.outbound ⟨expected,actual⟩) w = true :=
  send_to_fails (Primitives.Own.resendRequest _).bodyOnly.total writer "resend request"

omit [MessageStore S] in
/-- What follows and always returns does not fail. -/
theorem fails_before {α β : Type} {x : SessionM S α} {f : α → SessionM S β} {w : World S} (next : ∀ a, Returns (f a)) :
    FailsIn (x >>= f) w ↔ FailsIn x w := by
  cases executed : x w with
  | ok a w' =>
    rw [fails_bind_ok executed]
    refine iff_of_false ((next a).not_fails w') ?_
    rintro ⟨e,u,stopped⟩
    rw [executed] at stopped
    cases stopped
  | error e w' =>
    unfold FailsIn
    simp only [bind,EStateM.bind,executed,EStateM.Result.error.injEq]

theorem meet_gap_fails {w : World S} (expected actual : Nat) (state : SessionState) :
    FailsIn (meet_gap env expected actual state >>= take_issue) w ↔ gap_fails env w expected actual state = true := by
  have issued (r : VerificationResult) : Returns (take_issue r : SessionM S Unit) := by
    cases r with
    | Issue result => exact returns_transition result
    | Passed => exact returns_pure _
  rw [fails_before issued]
  cases state with
  | AwaitingResend awaiting =>
    unfold meet_gap AwaitingResendState.handle_gap gap_fails
    rcases updated : awaiting.update expected actual with ⟨_ | _ | _,next⟩
    · dsimp only
      rw [updated]
      dsimp only
      rw [fails_bind_ok (show set_state (.AwaitingResend next) w = .ok () { w with state := .AwaitingResend next } from rfl),
        fails_before (fun _ => returns_pure _),request_resend_fails]
      rfl
    · dsimp only
      rw [updated]
      exact iff_of_false ((returns_bind (returns_note _) (fun _ => returns_pure _)).not_fails w) (by simp)
    · dsimp only
      rw [updated]
      exact iff_of_false ((returns_bind (returns_note _) (fun _ => returns_pure _)).not_fails w) (by simp)
  | Active active =>
    unfold meet_gap open_gap
    rw [fails_before (fun _ => returns_pure _)]
    exact request_resend_fails active.writer expected actual
  | AwaitingLogon logon =>
    unfold meet_gap open_gap
    rw [fails_before (fun _ => returns_pure _)]
    exact request_resend_fails logon.writer expected actual
  | AwaitingLogout logout => exact iff_of_false (not_fails_pure _) (by simp [gap_fails])
  | Disconnected disconnected => exact iff_of_false (not_fails_pure _) (by simp [gap_fails])

/-- Processing a message stops with an error exactly where one is foreseen. -/
theorem process_message_fails (v : World S) (m : Message) : FailsIn (process_message env m) v ↔ fails env v m = true := by
  unfold FailsIn fails
  rw [process_message_reacts]
  cases reaction env v m with
  | Untyped => exact iff_of_true ⟨_,v,rfl⟩ rfl
  | Passed kind => exact dispatch_fails kind
  | Faulty error =>
    refine iff_of_false ?_ (by simp)
    rw [react]
    cases v.state.get_writer with
    | none => exact not_fails_pure ()
    | some writer => exact (returns_bind (returns_verification_error writer error) returns_transition).not_fails _
  | Ahead expected actual => exact meet_gap_fails expected actual v.state
  | Deferred =>
    refine iff_of_false ?_ (by simp)
    rw [react]
    split
    · rintro ⟨e,u,stopped⟩
      cases stopped
    · exact not_fails_pure ()
  | Refused => exact iff_of_false (not_fails_of_runs (disconnect_writer_returns v)) (by simp)
  | Unnumbered =>
    refine iff_of_false ?_ (by simp)
    rintro ⟨e,u,stopped⟩
    cases stopped

/-! ### Frames that are not valid -/

/-- The Reject that answers a frame that is not valid, if it is sent through the
    state. -/
def rejection : InvalidReason → Option (SessionRejectReason × Bytes)
  | .InvalidField tag => some (.InvalidTagNumber,ascii "invalid field " ++ Decimal.decimal tag)
  | .InvalidGroup tag => some (.InvalidTagNumber,ascii "invalid field " ++ Decimal.decimal tag)
  | .InvalidComponent _ => none
  | .InvalidMsgType _ => none
  | .InvalidOrderInGroup tag _ =>
    some (.RepeatingGroupFieldsOutOfOrder,ascii "field appears in incorrect order:" ++ Decimal.decimal tag)
  | .RequiredFieldMissing tag (some group_tag) => some (.RequiredTagMissing,
      ascii "required tag missing: " ++ Decimal.decimal tag ++ ascii " (in group " ++ Decimal.decimal group_tag ++ ascii ")")
  | .RequiredFieldMissing tag none => some (.RequiredTagMissing,ascii "required tag missing: " ++ Decimal.decimal tag)

/-- The frame is not valid, and its Reject is not sent. -/
def invalid_fails (env : Env) (w : World S) (raw : Bytes) : Bool :=
  match env.build raw with
  | .Invalid m reason =>
    match m.msg_seq_num,rejection reason with
    | some n,some (reject_reason,text) => unsendable env (Reject.outbound ⟨n,reject_reason,text⟩) w
    | _,_ => false
  | _ => false

section
variable {w : World S} {m : Message}

theorem reject_for_fails (reason : SessionRejectReason) (text : Bytes) (context : String)
    (fails : FailsIn (send_reject_for env m reason text context) w) :
    ∃ n, m.msg_seq_num = some n ∧ unsendable env (Reject.outbound ⟨n,reason,text⟩) w = true := by
  unfold send_reject_for at fails
  cases number : m.msg_seq_num with
  | none =>
    rw [number] at fails
    exact absurd fails (not_fails_pure _)
  | some n =>
    rw [number] at fails
    exact ⟨n,rfl,(send_fails (Primitives.Own.reject _).bodyOnly.total context).mp fails⟩

theorem returns_invalid_type (writer : WriterRef) (msg_type : Bytes) :
    Returns (handle_invalid_msg_type env writer m msg_type : SessionM S Unit) := by
  unfold handle_invalid_msg_type
  cases m.msg_seq_num with
  | none => exact returns_pure _
  | some n =>
    refine returns_bind (returns_send_to (.reject _) writer) (fun _ => returns_bind (fun w => ⟨w,w,rfl⟩) (fun v => ?_))
    split
    · exact returns_bind (returns_store _ _) (fun _ => returns_pure _)
    · exact returns_pure _

theorem on_invalid_fails {raw : Bytes} {reason : InvalidReason} (built : env.build raw = .Invalid m reason)
    (fails : FailsIn (on_invalid env m reason) w) : invalid_fails env w raw = true := by
  have rejected {reject_reason : SessionRejectReason} {text : Bytes} (answered : rejection reason = some (reject_reason,text))
      (unsent : ∃ n, m.msg_seq_num = some n ∧ unsendable env (Reject.outbound ⟨n,reject_reason,text⟩) w = true) :
      invalid_fails env w raw = true := by
    obtain ⟨n,number,refusal⟩ := unsent
    unfold invalid_fails
    rw [built]
    dsimp only
    rw [number,answered]
    exact refusal
  cases reason with
  | InvalidField tag => exact rejected rfl (reject_for_fails _ _ _ fails)
  | InvalidGroup tag => exact rejected rfl (reject_for_fails _ _ _ fails)
  | InvalidComponent name => exact absurd fails (not_fails_pure _)
  | InvalidOrderInGroup tag group_tag => exact rejected rfl (reject_for_fails _ _ _ fails)
  | RequiredFieldMissing tag group_tag =>
    cases group_tag with
    | none => exact rejected rfl (reject_for_fails _ _ _ fails)
    | some group_tag => exact rejected rfl (reject_for_fails _ _ _ fails)
  | InvalidMsgType msg_type =>
    unfold on_invalid at fails
    rw [fails_get] at fails
    cases current : w.state.get_writer with
    | none =>
      rw [current] at fails
      exact absurd fails (not_fails_pure _)
    | some writer =>
      rw [current] at fails
      exact absurd fails ((returns_invalid_type writer msg_type).not_fails w)

end

end HotFix.Errors
