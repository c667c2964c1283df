import HotFix.Panics
import HotFix.FileStore

/-!
The expected number on 64 bits. A store counts modulo `2^64`, so a message that is
counted at the last number takes the expected number back to zero. Everything else
that the session does to the number raises it or leaves it: a message is counted at
most once, a SequenceReset only sets a higher number, and only a reset of the store
or the operator may lower it.
-/
namespace HotFix.Expected
open HotFix.Program HotFix.Frames HotFix.Operations HotFix.Loop HotFix.Sending HotFix.Primitives HotFix.Panics MessageStore
open HotFix.Sample (valid logon message start connect receive)
variable {S : Type} [MessageStore S]

/-- A store whose numbers wrap. An operation that fails may leave either number. -/
class WrappingStore (S : Type) [MessageStore S] : Prop where
  add_keeps : ∀ n data (s : S), next_target_seq_number (add n data s).2 = next_target_seq_number s
  increment_sender_keeps : ∀ s : S, next_target_seq_number (increment_sender_seq_number s).2 = next_target_seq_number s
  increment_target_wraps : ∀ s : S, next_target_seq_number (increment_target_seq_number s).2 = (next_target_seq_number s + 1) % U64 ∨
    next_target_seq_number (increment_target_seq_number s).2 = next_target_seq_number s
  set_target_wraps : ∀ n (s : S), next_target_seq_number (set_target_seq_number n s).2 = (n + 1) % U64 ∨
    next_target_seq_number (set_target_seq_number n s).2 = next_target_seq_number s

/-- The stores in memory and in files that count modulo `2^64` are such stores. -/
instance [CountingStore S .wrapping] : WrappingStore S where
  add_keeps n data s := (CountingStore.add_moves n data s).elim And.right And.right
  increment_sender_keeps s := (CountingStore.increment_sender_moves s).elim And.right And.right
  increment_target_wraps s := (CountingStore.increment_target_moves s).imp And.right And.right
  set_target_wraps n s := (CountingStore.set_target_moves n s).imp And.right And.right

/-! ### What leaves the expected number -/

theorem keeps_store_operation {operation : S → Except StoreError Unit × S} (effects : List Effect)
    (same : ∀ s, next_target_seq_number (operation s).2 = next_target_seq_number s) :
    Keeps next_target (store_operation operation effects) := by
  intro w
  rw [next_target,store_operation_store]
  exact same w.store

variable [WrappingStore S] {env : Env}

theorem keeps_prepare_message (env : Env) (o : OutboundMessage) : Keeps next_target (prepare_message (S := S) env o) := by
  refine keeps_bind (keeps_get _) (fun w => keeps_bind ?_ (fun now => ?_))
  · exact keeps_bind (keeps_get _) (fun _ => keeps_bind (keeps_modify (fun _ => rfl)) (fun _ => keeps_pure _ _))
  · split
    · exact keeps_throw _ _
    · refine keeps_bind (keeps_store_operation [] WrappingStore.increment_sender_keeps) (fun taken => ?_)
      cases taken with
      | error e => exact keeps_pure _ _
      | ok _ =>
        refine keeps_bind (keeps_store_operation [] (WrappingStore.add_keeps _ _)) (fun kept => ?_)
        cases kept with
        | error e => exact keeps_pure _ _
        | ok _ => exact keeps_pure _ _

/-- Sending, and whatever leaves the store alone, leaves the expected number. -/
theorem still_keeps (env : Env) : Still env (fun _ => True) (fun α (x : SessionM S α) => Keeps next_target x) where
  pure := keeps_pure _
  error e := keeps_throw _ _
  read := keeps_get _
  bind := keeps_bind
  catch_error := by
    intro x handler first next w
    have before := first w
    unfold catch_error
    split
    · next err w' executed =>
      rw [executed] at before
      exact (next err w').trans before
    · exact before
  aside f aside := keeps_modify (fun w => congrArg next_target_seq_number (aside w).1)
  sent o _ := by
    refine keeps_bind (keeps_prepare_message env o) (fun r => ?_)
    cases r with
    | error e => exact keeps_pure _ _
    | ok prepared =>
      refine keeps_bind (fun w => ?_) (fun _ => keeps_pure _ _)
      obtain ⟨_,w',executed,store,-⟩ := runs_returned (write_prepared_journal o.message_type prepared w)
      rw [executed]
      exact congrArg next_target_seq_number store
  sent_to writer o _ := by
    refine keeps_bind (keeps_prepare_message env o) (fun r => ?_)
    cases r with
    | error e => exact keeps_pure _ _
    | ok prepared => exact keeps_bind (keeps_modify (fun _ => rfl)) (fun _ => keeps_pure _ _)
  own _ _ := trivial

/-! ### What moves it -/

/-- The number stays, or is counted once where that may be, or rises. -/
def Moved (may : Prop) (n n' : Nat) : Prop := n' = n ∨ may ∧ n' = (n + 1) % U64 ∨ n < n'

theorem moved_mono {may may' : Prop} {n n' : Nat} (weaker : may → may') (moved : Moved may n n') : Moved may' n n' :=
  moved.imp id (Or.imp (And.imp_left weaker) id)

/-- However the computation ends, it moves the expected number so. -/
def Advances {α : Type} (may : Prop) (x : SessionM S α) (w : World S) : Prop :=
  Moved may (next_target w) (next_target (final (x w)))

section
variable {α β : Type} {may : Prop} {x : SessionM S α} {f : α → SessionM S β} {w : World S}

omit [WrappingStore S] in
theorem advances_keeps (keeps : Keeps next_target x) (w : World S) : Advances may x w := .inl (keeps w)

omit [WrappingStore S] in
theorem advances_mono {may' : Prop} (weaker : may → may') (advances : Advances may x w) : Advances may' x w :=
  moved_mono weaker advances

omit [WrappingStore S] in
/-- What comes first leaves the number. -/
theorem advances_after (keeps : Keeps next_target x) (next : ∀ a w', x w = .ok a w' → next_target w' = next_target w →
    Advances may (f a) w') : Advances may (x >>= f) w := by
  have before := keeps w
  unfold Advances
  simp only [bind,EStateM.bind]
  cases executed : x w with
  | ok a w' =>
    rw [executed] at before
    have later := next a w' executed before
    unfold Advances at later
    rwa [show next_target w' = next_target w from before] at later
  | error e w' =>
    rw [executed] at before
    exact .inl before

omit [WrappingStore S] in
/-- What comes next leaves the number. -/
theorem advances_before (first : Advances may x w) (keeps : ∀ a, Keeps next_target (f a)) : Advances may (x >>= f) w := by
  unfold Advances at first ⊢
  simp only [bind,EStateM.bind]
  cases executed : x w with
  | ok a w' =>
    rw [executed] at first
    dsimp only
    rw [keeps a w']
    exact first
  | error e w' =>
    rw [executed] at first
    exact first

omit [WrappingStore S] in
theorem advances_get {f : World S → SessionM S β} (next : Advances may (f w) w) : Advances may (get >>= f) w := by
  unfold Advances
  rw [get_bind]
  exact next

end

variable {w : World S} {m : Message}

theorem increment_target_advances {may : Prop} (counts : may) (w : World S) : Advances may increment_target w := by
  have left : next_target (final (increment_target w)) = next_target_seq_number (increment_target_seq_number w.store).2 :=
    congrArg next_target_seq_number (store_operation_store _ _ w)
  unfold Advances
  rw [left]
  obtain moved | same := WrappingStore.increment_target_wraps w.store
  · exact .inr (.inl ⟨counts,moved⟩)
  · exact .inl same

/-- A count whose failure stops. -/
theorem count_advances (env : Env) {may : Prop} (counts : may) (w : World S) :
    Advances may (do store_result (← increment_target)) w :=
  advances_before (increment_target_advances counts w) (still_keeps env).store_result

/-! ### Handlers -/

theorem reject_and_count_advances {may : Prop} (counts : may) (writer : WriterRef) (n : Nat) (reason : SessionRejectReason)
    (text : Bytes) (w : World S) : Advances may (reject_and_count env writer n reason text) w := by
  have still := still_keeps (S := S) env
  refine advances_after (still.send_reject writer n reason text) (fun _ w' _ _ => ?_)
  exact advances_before (increment_target_advances counts w') (fun _ => still.pure _)

/-- Of the errors of verification only those about times are counted. -/
theorem handle_verification_error_advances (writer : WriterRef) (error : MessageError) (w : World S) :
    Advances (error.isTimeError = true) (handle_verification_error env writer error) w := by
  have still := still_keeps (S := S) env
  have rejected : ∀ n reason text, Advances True (do
      reject_and_count (S := S) env writer n reason text
      return TransitionResult.Stay) w :=
    fun n reason text => advances_before (reject_and_count_advances trivial writer n reason text w) (fun _ => still.pure _)
  cases error with
  | SeqNumberTooLow expected actual duplicate =>
    refine advances_keeps (keeps_ite (fun _ => still.pure _) (fun _ => ?_)) w
    exact still.bind (still.logout_and_disconnect writer _) (fun _ => still.pure _)
  | IncorrectBeginString received =>
    exact advances_keeps (still.bind (still.logout_and_disconnect writer _) (fun _ => still.pure _)) w
  | IncorrectCompId received kind n =>
    refine advances_keeps (still.bind (still.send_reject writer n _ _) (fun _ => ?_)) w
    exact still.bind (still.logout_and_disconnect writer _) (fun _ => still.pure _)
  | SendingTimeAccuracyIssue n => exact advances_mono (fun _ => rfl) (rejected n _ _)
  | SendingTimeMissing n => exact advances_mono (fun _ => rfl) (rejected n _ _)
  | OriginalSendingTimeMissing n => exact advances_mono (fun _ => rfl) (rejected n _ _)
  | OriginalSendingTimeAfterSendingTime n _ _ => exact advances_mono (fun _ => rfl) (rejected n _ _)

omit [WrappingStore S] in
theorem keeps_get_msg_seq_num (m : Message) : Keeps (next_target (S := S)) (get_msg_seq_num m) := by
  unfold get_msg_seq_num
  split
  · exact keeps_pure _ _
  · exact keeps_throw _ _

omit [WrappingStore S] in
theorem keeps_resend (writer : WriterRef) (first last : Nat) :
    Keeps (next_target (S := S)) (resend_messages env writer first last) :=
  fun w => congrArg Protocol.Core.next (keeps_resend_messages env writer first last w)

omit [MessageStore S] [WrappingStore S] in
theorem get_msg_seq_num_ok {n : Nat} {w' : World S} (executed : get_msg_seq_num m w = .ok n w') :
    m.msg_seq_num = some n ∧ w' = w := by
  unfold get_msg_seq_num at executed
  cases number : m.msg_seq_num with
  | none =>
    rw [number] at executed
    cases executed
  | some k =>
    rw [number] at executed
    cases executed
    exact ⟨rfl,rfl⟩

theorem answer_test_request_advances (writer : WriterRef) (w : World S) :
    Advances ((m.body.get_str TEST_REQ_ID).isSome = true) (answer_test_request env writer m) w := by
  have still := still_keeps (S := S) env
  unfold answer_test_request
  cases m.body.get_str TEST_REQ_ID with
  | none => exact advances_keeps (keeps_throw _ _) w
  | some req_id =>
    refine advances_before (increment_target_advances rfl w) (fun r => ?_)
    refine still.bind (still.store_result r) (fun _ => ?_)
    exact still.send_and_check _ (still.sent_to writer _ trivial)

/-- A SequenceReset sets a higher number. -/
theorem take_sequence_reset_advances (writer : WriterRef) (w : World S) :
    Advances False (take_sequence_reset env writer m) w := by
  have still := still_keeps (S := S) env
  refine advances_after (keeps_get_msg_seq_num m) (fun n v executed _ => ?_)
  obtain ⟨-,rfl⟩ := get_msg_seq_num_ok executed
  cases target : m.body.get_u64 NEW_SEQ_NO with
  | none => exact advances_keeps (still.send_and_check _ (still.send_reject writer _ _ _)) v
  | some new_seq_no =>
    refine advances_get ?_
    split_ifs with low
    · exact advances_keeps (still.send_and_check _ (still.send_reject writer _ _ _)) v
    · have fits : new_seq_no < U64 := by
        unfold FieldMap.get_u64 at target
        obtain ⟨data,-,parsed⟩ := Option.bind_eq_some_iff.mp target
        exact Decimal.parseBelow_lt parsed
      refine advances_before ?_ still.store_result
      have left : next_target (final (set_target (new_seq_no - 1) v)) =
          next_target_seq_number (set_target_seq_number (new_seq_no - 1) v.store).2 :=
        congrArg next_target_seq_number (store_operation_store _ _ v)
      unfold Advances
      rw [left]
      obtain moved | same := WrappingStore.set_target_wraps (new_seq_no - 1) v.store
      · have exact_ : new_seq_no - 1 + 1 = new_seq_no := by omega
        rw [moved,exact_,Nat.mod_eq_of_lt fits]
        exact .inr (.inr (by omega))
      · exact .inl same

/-- A ResendRequest is counted with the expected number, if it names a range. -/
theorem answer_resend_request_advances (writer : WriterRef) (w : World S) :
    Advances (m.msg_seq_num = some (next_target w) ∧ (m.body.get_u64 BEGIN_SEQ_NO).isSome = true ∧
      (m.body.get_u64 END_SEQ_NO).isSome = true) (answer_resend_request env writer m) w := by
  have still := still_keeps (S := S) env
  refine advances_after (keeps_get_msg_seq_num m) (fun n v executed _ => ?_)
  obtain ⟨number,rfl⟩ := get_msg_seq_num_ok executed
  refine advances_get ?_
  cases m.body.get_u64 BEGIN_SEQ_NO with
  | none => exact advances_keeps (still.send_and_check _ (still.send_reject writer _ _ _)) v
  | some first =>
    cases m.body.get_u64 END_SEQ_NO with
    | none => exact advances_keeps (still.send_and_check _ (still.send_reject writer _ _ _)) v
    | some requested =>
      refine advances_get ?_
      dsimp only
      split
      · next expected =>
        refine advances_before (increment_target_advances ⟨number.trans (congrArg some expected),rfl,rfl⟩ v) (fun r => ?_)
        exact still.bind (still.store_result r) (fun _ => keeps_resend writer _ _)
      · exact advances_keeps (keeps_resend writer _ _) v

theorem on_resend_request_advances (w : World S) :
    Advances (handler_counts env w m .ResendRequest = true) (on_resend_request env m) w := by
  have still := still_keeps (S := S) env
  refine advances_get ?_
  split
  · next connected =>
    have counts : m.msg_seq_num = some (next_target w) ∧ (m.body.get_u64 BEGIN_SEQ_NO).isSome = true ∧
        (m.body.get_u64 END_SEQ_NO).isSome = true → handler_counts env w m .ResendRequest = true := by
      rintro ⟨number,first,last⟩
      simp [handler_counts,connected,number,first,last]
    have answered : ∀ v : World S, next_target v = next_target w → ∀ writer,
        Advances (handler_counts env w m .ResendRequest = true) (answer_resend_request env writer m) v := by
      intro v same writer
      have advances : Advances (m.msg_seq_num = some (next_target v) ∧ (m.body.get_u64 BEGIN_SEQ_NO).isSome = true ∧
        (m.body.get_u64 END_SEQ_NO).isSome = true) (answer_resend_request env writer m) v :=
        answer_resend_request_advances writer v
      rw [same] at advances
      exact advances_mono counts advances
    refine advances_after (keeps_get_msg_seq_num m) (fun n v executed _ => ?_)
    obtain ⟨-,rfl⟩ := get_msg_seq_num_ok executed
    cases state : v.state with
    | AwaitingResend awaiting =>
      dsimp only
      split_ifs
      · exact advances_after (still.set_state _) (fun _ v' _ same => answered v' same awaiting.writer)
      · exact answered v rfl awaiting.writer
    | AwaitingLogon logon => exact answered v rfl logon.writer
    | AwaitingLogout logout => exact answered v rfl logout.writer
    | Active active => exact answered v rfl active.writer
    | Disconnected _ => simp [state,SessionState.is_connected,SessionState.get_writer] at connected
  · exact advances_keeps (still.pure _) w

theorem process_app_message_advances (w : World S) :
    Advances (handler_counts env w m .Application = true) (process_app_message env m) w := by
  have still := still_keeps (S := S) env
  refine advances_get (advances_after (still.note rfl) (fun _ v _ _ => ?_))
  cases decision : env.application.on_inbound_message w.journal m with
  | Accept => exact count_advances env (by simp [handler_counts,decision,rejects]) v
  | TerminateSession =>
    refine advances_after still.disconnect_writer (fun _ v' _ _ => ?_)
    exact count_advances env (by simp [handler_counts,decision,rejects]) v'
  | Reject reason text =>
    dsimp only
    cases m.msg_type with
    | none => exact advances_keeps (still.error _) v
    | some message_type =>
      refine advances_after (keeps_get_msg_seq_num m) (fun n v' executed _ => ?_)
      obtain ⟨number,rfl⟩ := get_msg_seq_num_ok executed
      refine advances_after (still.sent _ trivial) (fun r v₁ _ _ => ?_)
      refine advances_after (still.with_send_context _ r) (fun _ v₂ _ _ => ?_)
      exact count_advances env (by simp [handler_counts,number]) v₂

theorem on_logout_advances {may : Prop} (counts : may) (w : World S) : Advances may (on_logout env) w := by
  have still := still_keeps (S := S) env
  have told : ∀ v : World S, Advances may (do
      note (.OnLogout (ascii "peer has logged us out"))
      disconnect_writer
      apply_transition (← get).state.on_peer_logout
      store_result (← increment_target)) v := by
    intro v
    refine advances_after (still.note rfl) (fun _ v₁ _ _ => advances_after still.disconnect_writer (fun _ v₂ _ _ => ?_))
    refine advances_get (advances_after (still.apply_transition _) (fun _ v₃ _ _ => ?_))
    exact count_advances env counts v₃
  refine advances_get ?_
  dsimp only
  split
  · exact advances_after (still.send_logout _) (fun _ v _ _ => told v)
  · exact told w

/-- A handler counts its message at most once, and only where it should. -/
theorem dispatch_advances (kind : MsgKind) (w : World S) :
    Advances (handler_counts env w m kind = true) (dispatch env kind m) w := by
  have still := still_keeps (S := S) env
  cases kind with
  | Heartbeat =>
    refine advances_get ?_
    dsimp only
    split
    · exact advances_after (still.update (fun _ => rfl) (fun _ => rfl)) (fun _ v _ _ => count_advances env rfl v)
    · exact count_advances env rfl w
  | TestRequest =>
    refine advances_get ?_
    cases writer : w.state.get_writer with
    | none => exact advances_keeps (still.pure _) w
    | some writer' =>
      refine advances_mono (fun named => ?_) (answer_test_request_advances writer' w)
      simp [handler_counts,SessionState.is_connected,writer,named]
  | ResendRequest => exact on_resend_request_advances w
  | Reject => exact count_advances env rfl w
  | SequenceReset =>
    refine advances_get ?_
    split
    · exact advances_mono False.elim (take_sequence_reset_advances _ w)
    · exact advances_keeps (still.pure _) w
  | Logout => exact on_logout_advances rfl w
  | Logon =>
    refine advances_get ?_
    cases state : w.state with
    | AwaitingLogon awaiting =>
      refine advances_after (still.note rfl) (fun _ v _ _ => ?_)
      refine advances_before (increment_target_advances (by simp [handler_counts,state,SessionState.is_awaiting_logon]) v)
        (fun r => ?_)
      exact still.bind (still.store_result r) (fun _ => still.apply_transition _)
    | _ => exact advances_keeps (still.pure _) w
  | Application => exact process_app_message_advances w

/-! ### Processing -/

/-- Verification in a connected state counts nothing but a message with a bad time. -/
theorem verify_or_advances {writer : WriterRef} {flags : VerificationFlags} {gap : Nat → Nat → SessionM S VerificationResult}
    {error : VerificationIssue} (gaps : ∀ expected actual, Keeps next_target (gap expected actual))
    (fails : verify_message_with_ctx m env.config (next_target w) flags (env.timestamp_now w.clock_readings) = .error error) :
    Advances (∃ e, error = .InvalidMessage e ∧ e.isTimeError = true) (verify_or env writer m flags gap) w := by
  have still := still_keeps (S := S) env
  have checked : Advances (∃ e, error = .InvalidMessage e ∧ e.isTimeError = true)
      (verify_and_handle_errors env writer m flags) w := by
    refine advances_get ?_
    unfold Advances
    rw [bind_ok (show timestamp_now env w = .ok (env.timestamp_now w.clock_readings) (ticked w w.store) from rfl),fails]
    cases error with
    | SequenceGap expected actual => exact .inl rfl
    | InvalidMessage e =>
      refine advances_before (w := ticked w w.store) ?_ (fun _ => still.pure _)
      exact advances_mono (fun time => ⟨e,rfl,time⟩) (handle_verification_error_advances writer e _)
  refine advances_before checked (fun outcome => ?_)
  cases outcome with
  | Ok => exact still.pure _
  | Handled result => exact still.pure _
  | SequenceGap expected actual => exact gaps expected actual

omit [WrappingStore S] in
theorem verified_counts_passed {kind : MsgKind} (passes : verified env w m (.for_kind kind m) = true) :
    verified_counts env w m kind = handler_counts env w m kind := by
  unfold verified at passes
  unfold verified_counts
  cases state : w.state with
  | Disconnected _ => rfl
  | _ =>
    rw [state] at passes
    dsimp only
    rw [of_decide_eq_true passes]

omit [WrappingStore S] in
theorem verified_failed {kind : MsgKind} (fails : verified env w m (.for_kind kind m) = false) : ∃ error,
    verify_message_with_ctx m env.config (next_target w) (.for_kind kind m) (env.timestamp_now w.clock_readings) = .error error ∧
      ((∃ e, error = .InvalidMessage e ∧ e.isTimeError = true) → verified_counts env w m kind = true) := by
  unfold verified at fails
  cases result : verify_message_with_ctx m env.config (next_target w) (.for_kind kind m) (env.timestamp_now w.clock_readings) with
  | ok _ => cases state : w.state <;> simp [state,result] at fails
  | error error =>
    refine ⟨error,rfl,?_⟩
    rintro ⟨e,rfl,time⟩
    unfold verified_counts
    cases state : w.state with
    | Disconnected _ => simp [state] at fails
    | _ => simp [result,time]

theorem handle_verification_issue_advances {kind : MsgKind} (fails : verified env w m (.for_kind kind m) = false) :
    Advances (verified_counts env w m kind = true) (handle_verification_issue env m (.for_kind kind m)) w := by
  have still := still_keeps (S := S) env
  obtain ⟨error,failed,counts⟩ := verified_failed fails
  unfold handle_verification_issue
  refine advances_get ?_
  cases w.state with
  | Disconnected _ => exact advances_keeps (still.pure _) w
  | Active active => exact advances_mono counts (verify_or_advances (still.open_gap active.writer) failed)
  | AwaitingResend awaiting => exact advances_mono counts (verify_or_advances (still.handle_gap awaiting) failed)
  | AwaitingLogon logon => exact advances_mono counts (verify_or_advances (still.open_gap logon.writer) failed)
  | AwaitingLogout logout => exact advances_mono counts (verify_or_advances (fun _ _ => still.pure _) failed)

theorem verify_and_dispatch_advances {kind : MsgKind} (kinded : m.kind = some kind) :
    Advances (verified_counts env w m kind = true) (verify_and_dispatch env m) w := by
  have still := still_keeps (S := S) env
  unfold Message.kind at kinded
  obtain ⟨message_type,typed,rfl⟩ := Option.map_eq_some_iff.mp kinded
  have flagged : VerificationFlags.for_message m = some (.for_kind (msg_kind message_type) m) := by
    simp [VerificationFlags.for_message,Message.kind,typed]
  unfold verify_and_dispatch
  rw [typed,flagged]
  dsimp only
  cases passes : verified env w m (.for_kind (msg_kind message_type) m) with
  | true =>
    obtain ⟨w',executed,state,store,journal⟩ := handle_verification_issue_passed passes
    have same : next_target w' = next_target w := congrArg next_target_seq_number store
    have handled : Advances (handler_counts env w' m (msg_kind message_type) = true)
      (dispatch env (msg_kind message_type) m) w' := dispatch_advances (msg_kind message_type) w'
    rw [handler_counts_congr state store journal,← verified_counts_passed passes] at handled
    unfold Advances at handled ⊢
    rw [bind_ok executed,← same]
    exact handled
  | false =>
    have issue := handle_verification_issue_failed passes
    have first := handle_verification_issue_advances passes
    unfold Advances at first ⊢
    simp only [bind,EStateM.bind]
    cases executed : handle_verification_issue env m (.for_kind (msg_kind message_type) m) w with
    | error e w' =>
      rw [executed] at first
      exact first
    | ok result w' =>
      rw [executed] at first
      have other := (runs_ok executed).mp issue
      cases result with
      | Passed => exact absurd rfl other
      | Issue transition =>
        dsimp only
        rw [still.apply_transition transition w']
        exact first

/-- Processing a message counts it at most once, and only where it should. -/
theorem process_message_advances (w : World S) : Advances (counted env w m = true) (process_message env m) w := by
  have still := still_keeps (S := S) env
  have accepted : ∀ {may : Prop}, pre_process_inbound m w = .ok (.Accept m) w →
      (∀ kind, m.kind = some kind → verified_counts env w m kind = true → may) → Advances may (process_message env m) w := by
    intro may decided counts
    unfold Advances
    rw [process_message_eq,bind_ok decided]
    cases kinded : m.kind with
    | none =>
      have untyped : m.msg_type = none := by simpa [Message.kind] using kinded
      have stopped : verify_and_dispatch env m w = .error (.Error (.MissingField "MSG_TYPE")) w := by
        unfold verify_and_dispatch
        rw [untyped]
        rfl
      dsimp only
      rw [stopped]
      exact .inl rfl
    | some kind => exact moved_mono (counts kind kinded) (verify_and_dispatch_advances kinded)
  have decided := pre_process_inbound_eq m w
  cases state : w.state with
  | Active _ =>
    exact accepted (by simpa [state] using decided) (fun kind kinded counts => by simp [counted,kinded,state,counts])
  | Disconnected _ =>
    exact accepted (by simpa [state] using decided) (fun kind kinded counts => by simp [counted,kinded,state,counts])
  | AwaitingLogout _ =>
    exact accepted (by simpa [state] using decided) (fun kind kinded counts => by simp [counted,kinded,state,counts])
  | AwaitingLogon logon =>
    simp only [state] at decided
    split_ifs at decided with typed
    · refine accepted decided (fun kind kinded counts => ?_)
      have named : some kind = some .Logon := by
        rw [← kinded,Message.kind,typed]
        decide
      cases named
      simp [counted,kinded,state,counts]
    · unfold Advances
      rw [process_message_eq,bind_ok decided]
      exact .inl (still.disconnect_writer w)
  | AwaitingResend awaiting =>
    cases number : m.msg_seq_num with
    | none =>
      simp only [state,number] at decided
      unfold Advances
      rw [process_message_eq]
      simp only [bind,EStateM.bind,decided]
      exact .inl rfl
    | some n =>
      simp only [state,number] at decided
      split_ifs at decided with beyond
      · unfold Advances
        rw [process_message_eq,bind_ok decided]
        exact .inl rfl
      · refine accepted decided (fun kind kinded counts => ?_)
        have looked : n ≤ awaiting.end_seq_number ∨ kind = .ResendRequest := by
          obtain ⟨message_type,typed,rfl⟩ := Option.map_eq_some_iff.mp (show m.msg_type.map msg_kind = some kind from kinded)
          rw [msg_kind_resendRequest]
          simp only [typed,Option.any_some,Bool.and_eq_true,decide_eq_true_eq,not_and,not_not] at beyond
          by_cases low : n ≤ awaiting.end_seq_number
          · exact .inl low
          · exact .inr (beyond (by omega))
        simp [counted,kinded,state,number,counts,looked]

/-! ### Frames -/

/-- Where a message that is counted leaves room, the number does not go back. -/
theorem moved_le {may : Prop} {n n' : Nat} (moved : Moved may n n') (room : may → n + 1 < U64) : n ≤ n' := by
  obtain same | ⟨counts,wrapped⟩ | higher := moved
  · exact Nat.le_of_eq same.symm
  · rw [wrapped,Nat.mod_eq_of_lt (room counts)]
    exact Nat.le_succ n
  · exact Nat.le_of_lt higher

theorem replay_message_advances (w : World S) : Advances (replay_counted env w m = true) (replay_message env m) w := by
  by_cases request : m.kind = some .ResendRequest
  · have counts : replay_message env m = (do store_result (← increment_target) : SessionM S Unit) :=
      if_pos ((request_type m).mpr request)
    rw [counts]
    exact count_advances env (by simp [replay_counted,request]) w
  · rw [replay_message_other env request]
    exact advances_mono (fun counts => by simp [replay_counted,counts]) (process_message_advances w)

theorem replay_rises (backlog : List Message) : ∀ w : World S,
    (∀ p ∈ replayed env backlog w, replay_counted env p.1 p.2 = true → next_target p.1 + 1 < U64) →
      next_target w ≤ next_target (final (replay env backlog w)) := by
  induction backlog with
  | nil => exact fun w _ => Nat.le_refl _
  | cons m rest ih =>
    intro w room
    have advances : Advances (replay_counted env w m = true) (replay_message env m) w := replay_message_advances w
    have here := moved_le advances (room (w,m) (by simp [replayed]))
    unfold replay
    simp only [bind,EStateM.bind]
    cases executed : replay_message env m w with
    | error e w' =>
      rw [executed] at here
      exact here
    | ok value w' =>
      rw [executed] at here
      refine Nat.le_trans here (ih w' (fun p member => room p ?_))
      simp [replayed,executed,member]

theorem check_end_of_resend_rises (w : World S)
    (room : ∀ p ∈ replayed_after env w, replay_counted env p.1 p.2 = true → next_target p.1 + 1 < U64) :
    next_target w ≤ next_target (final (check_end_of_resend env w)) := by
  have still := still_keeps (S := S) env
  unfold replayed_after at room
  unfold check_end_of_resend
  rw [get_bind]
  cases state : w.state with
  | AwaitingResend awaiting =>
    rw [state] at room
    dsimp only at room ⊢
    rcases completes : try_complete awaiting (next_target w) with _ | ⟨new_state,backlog⟩
    · exact Nat.le_refl _
    · obtain ⟨_,w',executed,-⟩ := runs_returned (apply_transition_runs (.TransitionTo new_state) w)
      have same := still.apply_transition (.TransitionTo new_state) w
      rw [completes] at room
      dsimp only at room ⊢
      rw [executed] at room same
      rw [bind_ok executed]
      exact Nat.le_trans (Nat.le_of_eq same.symm) (replay_rises backlog w' room)
  | _ => exact Nat.le_refl _

/-- A message of unknown type is counted with the expected number. -/
theorem handle_invalid_msg_type_advances (writer : WriterRef) (msg_type : Bytes) (w : World S) :
    Advances (m.msg_seq_num = some (next_target w)) (handle_invalid_msg_type env writer m msg_type) w := by
  have still := still_keeps (S := S) env
  unfold handle_invalid_msg_type
  cases m.msg_seq_num with
  | none => exact advances_keeps (still.pure _) w
  | some n =>
    refine advances_after (still.send_reject writer n _ _) (fun _ v _ same => advances_get ?_)
    split_ifs with expected
    · exact advances_before (increment_target_advances (by rw [← expected,same]) v) (fun _ => still.pure _)
    · exact advances_keeps (still.pure _) v

/-- The frame is of a type that the dictionary does not know. -/
def unknown_type (env : Env) (raw_message : Bytes) : Option Message :=
  match env.build raw_message with
  | .Invalid m (.InvalidMsgType _) => some m
  | _ => none

theorem on_invalid_advances (reason : InvalidReason) (w : World S) :
    Advances (w.state.is_connected = true ∧ m.msg_seq_num = some (next_target w) ∧ ∃ msg_type, reason = .InvalidMsgType msg_type)
      (on_invalid env m reason) w := by
  have still := still_keeps (S := S) env
  cases reason with
  | InvalidField tag => exact advances_keeps (still.send_reject_for m _ _ _) w
  | InvalidGroup tag => exact advances_keeps (still.send_reject_for m _ _ _) w
  | InvalidComponent name => exact advances_keeps (still.pure _) w
  | InvalidOrderInGroup tag group_tag => exact advances_keeps (still.send_reject_for m _ _ _) w
  | RequiredFieldMissing tag group_tag => exact advances_keeps (still.send_reject_for m _ _ _) w
  | InvalidMsgType msg_type =>
    refine advances_get ?_
    cases current : w.state.get_writer with
    | none => exact advances_keeps (still.pure _) w
    | some writer =>
      refine advances_mono (fun number => ⟨?_,number,msg_type,rfl⟩) (handle_invalid_msg_type_advances writer msg_type w)
      simp [SessionState.is_connected,current]

/-! ### The loop -/

/-- The check of the schedule finds that the period of the store is over. -/
def period_over (env : Env) (w : World S) : Bool :=
  let now := env.utc_now w.clock_readings
  env.is_active_at now &&
    match env.is_same_session_period (creation_time w.store) now with
    | .ok .DifferentPeriod => true
    | .ok (.OutsideSessionTime _) => true
    | _ => false

/-- The input resets the store, or is the operator's request to set the number. -/
def breaks (env : Env) (w : World S) : Input → Bool
  | .Event (.Connected _) => period_over env w || env.config.reset_on_logon ||
      (final (handle_schedule_check env w)).reset_on_next_logon
  | .Event _ => period_over env w
  | .ScheduleCheck => period_over env w
  | .Admin (.SetNextTargetSeqNum _ _) => true
  | _ => false

/-- A frame of unknown type that is counted. -/
def unknown_counted (env : Env) (w : World S) : Input → Bool
  | .Event (.FixMessageReceived raw_message) => (final (handle_schedule_check env w)).state.is_connected &&
      (unknown_type env raw_message).any (fun m => m.msg_seq_num = some (next_target w))
  | _ => false

/-- No message that the input makes the session count is counted at the last number. -/
def Room (env : Env) (w : World S) (input : Input) : Prop :=
  (∀ p ∈ (taken env input w).take 1, counted env p.1 p.2 = true → next_target p.1 + 1 < U64) ∧
    (∀ p ∈ (taken env input w).tail, replay_counted env p.1 p.2 = true → next_target p.1 + 1 < U64) ∧
    (unknown_counted env w input = true → next_target w + 1 < U64)

instance (env : Env) (w : World S) (input : Input) : Decidable (Room env w input) :=
  inferInstanceAs (Decidable (_ ∧ _ ∧ _))

theorem handle_schedule_check_keeps (going : period_over env w = false) :
    next_target (final (handle_schedule_check env w)) = next_target w := by
  have still := still_keeps (S := S) env
  unfold period_over at going
  unfold handle_schedule_check
  rw [bind_ok (show utc_now env w = .ok (env.utc_now w.clock_readings) (ticked w w.store) from rfl)]
  split_ifs with active
  · obtain ⟨_,v,notified,-,store⟩ := runs_returned (notify_schedule_awaiter_runs (ticked w w.store))
    have same : next_target v = next_target w := congrArg next_target_seq_number store
    have period : creation_time v.store = creation_time w.store := congrArg creation_time store
    rw [bind_ok notified,get_bind,period]
    simp only [active,Bool.true_and] at going
    rcases compared : env.is_same_session_period (creation_time w.store) (env.utc_now w.clock_readings) with e | comparison
    · exact (still.logout_and_terminate _ v).trans same
    · cases comparison with
      | SamePeriod => exact same
      | DifferentPeriod => simp [compared] at going
      | OutsideSessionTime which => simp [compared] at going
  · exact still.bind_get (fun v => keeps_ite (fun _ => still.log_out_gracefully _ _) (fun _ => still.pure _)) _

/-- What is handed to the loop after the schedule, in the same world or in one with
    the same number. -/
theorem on_incoming_rises {raw_message : Bytes} {checked : World S} (ran : handle_schedule_check env w = .ok () checked)
    (same : next_target checked = next_target w) (room : Room env w (.Event (.FixMessageReceived raw_message))) :
    next_target checked ≤ next_target (final (on_incoming env raw_message checked)) := by
  obtain ⟨arriving,later,unknown⟩ := room
  have kept : next_target (touched checked) = next_target checked := congrArg Protocol.Core.next (core_touched checked)
  have connected : (touched checked).state.is_connected = checked.state.is_connected := by
    unfold touched
    split_ifs
    · rfl
    · cases state : checked.state <;> rfl
  rw [on_incoming_eq]
  cases built : env.build raw_message with
  | Garbled reason => exact Nat.le_of_eq kept.symm
  | UnexpectedError text => exact Nat.le_of_eq kept.symm
  | Invalid m reason =>
    dsimp only
    rw [← kept]
    refine moved_le (on_invalid_advances reason (touched checked)) ?_
    rintro ⟨on,number,msg_type,rfl⟩
    rw [kept,same] at number ⊢
    exact unknown (by simp [unknown_counted,unknown_type,ran,built,number,← connected,on])
  | Valid m =>
    have arrived : arrival env raw_message w = some (noted (touched checked) (.Received m),m) := by
      simp [arrival,built,ran]
    have here : next_target (noted (touched checked) (.Received m)) = next_target checked := kept
    have advances : Advances (counted env (noted (touched checked) (.Received m)) m = true) (process_message env m)
      (noted (touched checked) (.Received m)) := process_message_advances _
    have first := moved_le advances
      (arriving (noted (touched checked) (.Received m),m) (by simp [taken,arrived]))
    rw [here] at first
    simp only [bind,EStateM.bind]
    cases executed : process_message env m (noted (touched checked) (.Received m)) with
    | error e u =>
      rw [executed] at first
      exact first
    | ok value u =>
      rw [executed] at first
      refine Nat.le_trans first (check_end_of_resend_rises u (fun p member => later p ?_))
      simpa [taken,arrived,executed] using member

omit [MessageStore S] [WrappingStore S] in
theorem apply_transition_flag {result : TransitionResult} {w' : World S} (executed : apply_transition result w = .ok () w') :
    w'.reset_on_next_logon = w.reset_on_next_logon := by
  cases result with
  | Stay => cases executed; rfl
  | TransitionTo state =>
    have run : Runs (apply_transition (.TransitionTo state)) w
        (fun _ v => v.reset_on_next_logon = w.reset_on_next_logon) (fun _ _ => True) := by
      unfold apply_transition
      simp only [runs_bind,runs_get,runs_set_state]
      split_ifs
      · exact rfl
      · exact rfl
    exact (runs_ok executed).mp run

/-- A connection without a reset does not lower the expected number. -/
theorem on_connect_advances (writer : WriterRef) (config : env.config.reset_on_logon = false)
    (flag : w.reset_on_next_logon = false) : Advances False (on_connect env writer) w := by
  have still := still_keeps (S := S) env
  refine advances_after (still.note rfl) (fun _ v₁ noted _ => ?_)
  cases noted
  refine advances_after (still.apply_transition _) (fun _ v₂ moved _ => ?_)
  have kept := apply_transition_flag moved
  refine advances_after (still.update (fun _ => rfl) (fun _ => rfl)) (fun _ v₃ touched _ => ?_)
  cases touched
  refine advances_get ?_
  have unset : (env.config.reset_on_logon || v₂.reset_on_next_logon) = false := by
    rw [config,kept]
    exact flag
  dsimp only
  rw [unset,if_neg Bool.false_ne_true]
  refine advances_keeps (still.bind (still.pure _) (fun _ => ?_)) _
  refine still.bind (still.update (fun _ => rfl) (fun _ => rfl)) (fun _ => ?_)
  exact still.send_and_check "logon" (still.sent _ trivial)

/-- An input that breaks nothing and leaves room does not lower the expected number. -/
theorem handle_input_rises {input : Input} (going : breaks env w input = false) (room : Room env w input) :
    next_target w ≤ next_target (final (handle_input env input w)) := by
  have still := still_keeps (S := S) env
  have checked : ∀ {f : Unit → SessionM S Unit}, period_over env w = false →
      (∀ v, handle_schedule_check env w = .ok () v → next_target v = next_target w → next_target v ≤ next_target (final (f () v))) →
      next_target w ≤ next_target (final ((handle_schedule_check env >>= f) w)) := by
    intro f same next
    have kept := handle_schedule_check_keeps same
    simp only [bind,EStateM.bind]
    cases ran : handle_schedule_check env w with
    | error e v =>
      rw [ran] at kept
      exact Nat.le_of_eq kept.symm
    | ok value v =>
      rw [ran] at kept
      exact Nat.le_trans (Nat.le_of_eq kept.symm) (next v ran kept)
  have keeping : ∀ {x : SessionM S Unit}, Keeps next_target x → ∀ v, next_target v ≤ next_target (final (x v)) :=
    fun keeps v => Nat.le_of_eq (keeps v).symm
  cases input with
  | Event event =>
    cases event with
    | FixMessageReceived raw_message =>
      refine checked going (fun v ran same => ?_)
      have rises := on_incoming_rises ran same room
      dsimp only
      unfold catch_error
      split
      · next err u executed =>
        rw [executed] at rises
        refine Nat.le_trans rises (keeping ?_ u)
        exact still.bind (still.logout_and_terminate _) (fun _ => still.apply_transition _)
      · exact rises
    | Disconnected reason => exact checked going (fun v _ _ => keeping (still.on_disconnect reason) v)
    | ShouldReconnect => exact checked going (fun v _ _ => keeping (still.bind_get (fun _ => still.note rfl)) v)
    | AwaitSchedule responder => exact checked going (fun v _ _ => keeping (still.register_schedule_awaiter responder) v)
    | Connected writer =>
      simp only [breaks,Bool.or_eq_false_iff] at going
      refine checked going.1.1 (fun v ran same => ?_)
      have flag : v.reset_on_next_logon = false := by simpa [ran] using going.2
      have rises := moved_le (on_connect_advances writer going.1.2 flag) False.elim
      dsimp only
      unfold catch_error
      split
      · next err u executed =>
        rw [executed] at rises
        exact rises
      · exact rises
  | Outbound o => exact keeping (still.bind (still.send_app_message trivial) (fun _ => still.pure _)) w
  | Admin request =>
    cases request with
    | InitiateGracefulShutdown reconnect => exact keeping (still.log_out_gracefully _ reconnect) w
    | RequestSessionInfo => exact keeping (still.bind_get (fun _ => still.note rfl)) w
    | ResetSequenceNumbersOnNextLogon => exact keeping (still.update (fun _ => rfl) (fun _ => rfl)) w
    | SetNextTargetSeqNum seq_num nonzero => cases going
  | HeartbeatTimeout => exact keeping (still.bind (still.sent _ trivial) (fun _ => still.pure _)) w
  | PeerTimeout => exact keeping still.handle_peer_timeout w
  | ScheduleCheck => exact Nat.le_of_eq (handle_schedule_check_keeps going).symm

/-- Along every run in which no store is reset, no number is set by the operator, and
    nothing is counted at the last number, the expected number never goes back. -/
theorem expected_never_lowered {u : World S}
    (run : Reachable env (fun v input => breaks env v input = false ∧ Room env v input) u w) :
    next_target u ≤ next_target w := by
  induction run with
  | start => exact Nat.le_refl _
  | @step v v' input before armed fine handled ih =>
    have rises := handle_input_rises fine.1 fine.2
    rw [handled] at rises
    exact Nat.le_trans ih rises

/-! ### The last number -/

abbrev Wrapping := InMemoryMessageStore .wrapping

def fresh : World Wrapping := World.initial (InMemoryMessageStore.new 0)

/-- A SequenceReset to the last number of the type. -/
def to_the_last : Message := message SequenceReset.MSG_TYPE 2 [(NEW_SEQ_NO,Decimal.decimal (U64 - 1))]

/-- The heartbeat that carries it. -/
def last_heartbeat : Message := Sample.heartbeat (U64 - 1)

def peer : Env := valid [logon,to_the_last,last_heartbeat,Sample.heartbeat 2]

@[irreducible] def at_the_last : World Wrapping := final (run peer [connect,receive logon,receive to_the_last] fresh)

/-- A heartbeat that is counted at the last number takes the expected number back to
    zero. -/
theorem last_heartbeat_lowers :
    Reachable peer (fun v input => breaks peer v input = false) fresh at_the_last ∧
      breaks peer at_the_last (receive last_heartbeat) = false ∧
      next_target at_the_last = U64 - 1 ∧
      returned (handle_input peer (receive last_heartbeat) at_the_last) = true ∧
      next_target (final (handle_input peer (receive last_heartbeat) at_the_last)) = 0 := by
  refine ⟨?_,by decide +kernel⟩
  unfold at_the_last
  exact reachable_run (by decide +kernel)

@[irreducible] def counted_twice : World Wrapping := final (run peer [connect,receive logon,receive (Sample.heartbeat 2)] fresh)

/-- A Logon and a heartbeat are counted. -/
theorem heartbeat_raises : next_target fresh ≤ next_target counted_twice ∧ next_target counted_twice = 3 := by
  have run : Reachable peer (fun v input => breaks peer v input = false ∧ Room peer v input) fresh counted_twice := by
    unfold counted_twice
    exact reachable_run (by decide +kernel)
  exact ⟨expected_never_lowered run,by decide +kernel⟩

end HotFix.Expected
