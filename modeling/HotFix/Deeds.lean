import HotFix.Panics

/-!
What the session does to its world, one deed at a time: it changes its store, hands a
frame to the writer of its state, calls the application, goes from one state to
another. Which deeds can happen while a message is taken up is said by a licence, which
depends on how the session reacts to the message in the world in which it is taken up.
-/
namespace HotFix.Deeds
open HotFix.Program HotFix.Frames HotFix.Operations HotFix.Loop HotFix.Sending MessageStore
variable {S : Type}

/-! ### Deeds -/

/-- What may be done. A decision not to reconnect is lifted by a transition that does
    not look at it; a gap is widened where it is; a logon is skipped by a session that
    awaits a resend instead. -/
structure Licence where
  store : Prop
  frame : Message → Prop
  deliver : Prop
  logon : Prop
  connect : Prop
  lift : Prop
  widen : Prop
  skip : Prop

def Licence.none : Licence := ⟨False,fun _ => False,False,False,False,False,False,False⟩

structure Licence.Within (L L' : Licence) : Prop where
  store : L.store → L'.store
  frame : ∀ m, L.frame m → L'.frame m
  deliver : L.deliver → L'.deliver
  logon : L.logon → L'.logon
  connect : L.connect → L'.connect
  lift : L.lift → L'.lift
  widen : L.widen → L'.widen
  skip : L.skip → L'.skip

/-- Everything may be done. -/
def Licence.all : Licence := ⟨True,fun _ => True,True,True,True,True,True,True⟩

theorem Licence.none_within (L : Licence) : Licence.none.Within L :=
  ⟨False.elim,fun _ => False.elim,False.elim,False.elim,False.elim,False.elim,False.elim,False.elim⟩

/-- What is seen of a state: its status, its writer, and whether the Logon was sent or
    the session may reconnect. -/
def face : SessionState → Status × Option WriterRef × Bool
  | .AwaitingLogon state => (.AwaitingLogon,some state.writer,state.logon_sent)
  | .AwaitingResend state =>
    (.AwaitingResend state.begin_seq_number state.end_seq_number state.resend_attempts,some state.writer,true)
  | .AwaitingLogout state => (.AwaitingLogout,some state.writer,state.reconnect)
  | .Active state => (.Active,some state.writer,true)
  | .Disconnected state => (.Disconnected,Option.none,state.reconnect)

theorem face_status (state : SessionState) : (face state).1 = state.as_status := by
  cases state <;> rfl

theorem face_writer (state : SessionState) : (face state).2.1 = state.get_writer := by
  cases state <;> rfl

/-- Entries that are neither frames, nor calls of the application that open it to the
    peer or tell it a change, nor connections. -/
def is_aside : Effect → Bool
  | .Connected _ => false
  | .Sent _ _ _ => false
  | .OnLogon => false
  | .OnInboundMessage _ => false
  | .OnStateChange _ _ => false
  | _ => true

/-- The decision not to reconnect is taken. -/
def settled : SessionState → Bool
  | .AwaitingLogout state => !state.reconnect
  | .Disconnected state => !state.reconnect
  | _ => false

/-- Where a transition may lead from a state. -/
inductive Turns (L : Licence) : SessionState → SessionState → Prop where
  | connecting {state : SessionState} (may : L.connect) (writer : WriterRef) : Turns L state (.AwaitingLogon ⟨writer,false⟩)
  | logon {state : AwaitingLogonState} (may : L.logon) : Turns L (.AwaitingLogon state) (.new_active state.writer)
  | complete {state : AwaitingResendState} : Turns L (.AwaitingResend state) (.new_active state.writer)
  | gap {state : ActiveState} (expected actual : Nat) :
    Turns L (.Active state) (.AwaitingResend (.new state.writer expected actual))
  | skipped {state : AwaitingLogonState} (may : L.skip) (expected actual : Nat) :
    Turns L (.AwaitingLogon state) (.AwaitingResend (.new state.writer expected actual))
  | leaving {state : SessionState} {writer : WriterRef} (current : state.get_writer = some writer)
    (other : state.is_awaiting_logout = false) (reconnect : Bool) : Turns L state (.AwaitingLogout ⟨writer,reconnect⟩)
  | ended {state : SessionState} {reconnect : Bool} (lasts : settled state = true → reconnect = false) (reason : Bytes) :
    Turns L state (.new_disconnected reconnect reason)
  | lifted {state : SessionState} (may : L.lift) (reason : Bytes) : Turns L state (.new_disconnected true reason)

inductive Deed (L : Licence) : World S → World S → Prop where
  | aside {w w' : World S} (entries : List Effect) (store : w'.store = w.store) (kept : face w'.state = face w.state)
    (journal : w'.journal = w.journal ++ entries) (plain : entries.all is_aside = true) : Deed L w w'
  | stored {w w' : World S} (entries : List Effect) (may : L.store) (kept : w'.state = w.state)
    (journal : w'.journal = w.journal ++ entries) (plain : entries.all is_aside = true) : Deed L w w'
  | wrote {w : World S} {writer : WriterRef} {m : Message} (may : L.frame m) (current : w.state.get_writer = some writer)
    (raw : Bytes) : Deed L w (noted w (.Sent writer m raw))
  | greeted {w : World S} {state : AwaitingLogonState} {m : Message} (may : L.frame m) (current : w.state = .AwaitingLogon state)
    (first : state.logon_sent = false) (raw : Bytes) :
    Deed L w { noted w (.Sent state.writer m raw) with state := .AwaitingLogon { state with logon_sent := true } }
  | delivered {w : World S} (may : L.deliver) (m : Message) : Deed L w (noted w (.OnInboundMessage m))
  | loggedOn {w : World S} {state : AwaitingLogonState} (may : L.logon) (current : w.state = .AwaitingLogon state) :
    Deed L w (noted w .OnLogon)
  | connected {w : World S} (may : L.connect) (writer : WriterRef) : Deed L w (noted w (.Connected writer))
  | widened {w : World S} {state updated : AwaitingResendState} (may : L.widen) (current : w.state = .AwaitingResend state)
    (writer : updated.writer = state.writer) : Deed L w { w with state := .AwaitingResend updated }
  | turned {w : World S} {state : SessionState} (turns : Turns L w.state state) :
    Deed L w (final (apply_transition (.TransitionTo state) w))

/-- The world after a transition, of which the application is told. -/
def transitioned (w : World S) (state : SessionState) : World S :=
  if w.state.as_status = state.as_status then { w with state }
  else noted { w with state } (.OnStateChange w.state.as_status state.as_status)

theorem transition_eq (w : World S) (state : SessionState) :
    apply_transition (.TransitionTo state) w = .ok () (transitioned w state) := by
  unfold apply_transition transitioned
  dsimp only
  rw [get_bind,
    bind_ok (show set_state state w = .ok () { w with state } from rfl)]
  by_cases same : w.state.as_status = state.as_status
  · rw [if_neg (not_not.mpr same),if_pos same]
    rfl
  · rw [if_pos same,if_neg same]
    rfl

theorem transition_final (w : World S) (state : SessionState) :
    final (apply_transition (.TransitionTo state) w) = transitioned w state := by
  rw [transition_eq]
  rfl

theorem transitioned_state (w : World S) (state : SessionState) : (transitioned w state).state = state := by
  unfold transitioned
  split_ifs
  · rfl
  · rfl

theorem Turns.mono {L L' : Licence} {state state' : SessionState} (within : L.Within L') (turns : Turns L state state') :
    Turns L' state state' := by
  cases turns with
  | connecting may writer => exact .connecting (within.connect may) writer
  | logon may => exact .logon (within.logon may)
  | complete => exact .complete
  | gap expected actual => exact .gap expected actual
  | skipped may expected actual => exact .skipped (within.skip may) expected actual
  | leaving current other reconnect => exact .leaving current other reconnect
  | ended lasts reason => exact .ended lasts reason
  | lifted may reason => exact .lifted (within.lift may) reason

theorem Turns.disconnected {L : Licence} {state state' : SessionState} (turns : Turns L state state') (apart : ¬ L.connect)
    (down : state.get_writer = none) : state'.get_writer = none := by
  cases turns with
  | connecting may writer => exact absurd may apart
  | leaving current other reconnect =>
    rw [current] at down
    cases down
  | ended lasts reason => rfl
  | lifted may reason => rfl
  | logon may => cases down
  | complete => cases down
  | gap expected actual => cases down
  | skipped may expected actual => cases down

theorem Deed.mono {L L' : Licence} {w w' : World S} (within : L.Within L') (deed : Deed L w w') : Deed L' w w' := by
  cases deed with
  | aside entries store kept journal plain => exact .aside entries store kept journal plain
  | stored entries may kept journal plain => exact .stored entries (within.store may) kept journal plain
  | wrote may current raw => exact .wrote (within.frame _ may) current raw
  | greeted may current first raw => exact .greeted (within.frame _ may) current first raw
  | delivered may m => exact .delivered (within.deliver may) m
  | loggedOn may current => exact .loggedOn (within.logon may) current
  | connected may writer => exact .connected (within.connect may) writer
  | widened may current writer => exact .widened (within.widen may) current writer
  | turned turns => exact .turned (turns.mono within)

/-- Deeds one after the other. -/
abbrev Does (L : Licence) : World S → World S → Prop := Relation.ReflTransGen (Deed L)

theorem Does.mono {L L' : Licence} {w w' : World S} (within : L.Within L') (does : Does L w w') : Does L' w w' :=
  Relation.ReflTransGen.mono (fun _ _ deed => Deed.mono within deed) _ _ does

theorem Does.one {L : Licence} {w w' : World S} (deed : Deed L w w') : Does L w w' := .single deed

theorem does_trans {L : Licence} (u v w : World S) (first : Does L u v) (second : Does L v w) : Does L u w := first.trans second

/-- Deeds that leave the writer of the session as it is. -/
def Works (L : Licence) (w w' : World S) : Prop := Does L w w' ∧ w'.state.get_writer = w.state.get_writer

theorem works_refl {L : Licence} (w : World S) : Works L w w := ⟨.refl,rfl⟩

theorem works_trans {L : Licence} (u v w : World S) (first : Works L u v) (second : Works L v w) : Works L u w :=
  ⟨first.1.trans second.1,second.2.trans first.2⟩

/-! ### The operations below the handlers -/

section
variable {L : Licence} {w : World S}

theorem works_aside {w' : World S} (entries : List Effect) (store : w'.store = w.store) (kept : face w'.state = face w.state)
    (journal : w'.journal = w.journal ++ entries) (plain : entries.all is_aside = true) : Works L w w' := by
  refine ⟨.one (.aside entries store kept journal plain),?_⟩
  rw [← face_writer,kept,face_writer]

theorem works_note {entry : Effect} (plain : is_aside entry = true) : Leads (Works L) (note entry) w := by
  refine works_aside [entry] rfl rfl rfl ?_
  rw [List.all_cons,plain]
  rfl

theorem works_state {state : SessionState} (same : face state = face w.state) : Leads (Works L) (set_state state) w :=
  works_aside [] rfl same (List.append_nil _).symm rfl

theorem works_update {f : World S → World S} (store : (f w).store = w.store) (kept : face (f w).state = face w.state)
    (journal : (f w).journal = w.journal) : Leads (Works L) (modify f : SessionM S Unit) w :=
  works_aside [] store kept (journal.trans (List.append_nil _).symm) rfl

theorem face_reset_peer_timer (id : Option Bytes) (state : SessionState) : face (state.reset_peer_timer id) = face state := by
  cases state <;> rfl

theorem works_pure {α : Type} (a : α) : Leads (Works L) (pure a : SessionM S α) w := works_refl w

theorem works_throw {α : Type} (e : Abort SessionOperationError) : Leads (Works L) (throw e : SessionM S α) w := works_refl w

theorem works_bind {α β : Type} {x : SessionM S α} {f : α → SessionM S β} (first : Leads (Works L) x w)
    (next : ∀ a w', x w = .ok a w' → Works L w w' → Leads (Works L) (f a) w') : Leads (Works L) (x >>= f) w :=
  leads_bind works_trans first next

theorem works_get {β : Type} {f : World S → SessionM S β} (next : Leads (Works L) (f w) w) : Leads (Works L) (get >>= f) w :=
  leads_ok rfl next

theorem works_store_result (r : Except StoreError Unit) : Leads (Works L) (store_result r : SessionM S Unit) w := by
  cases r with
  | ok _ => exact works_pure _
  | error e => exact works_throw _

theorem works_send_context {α : Type} (context : String) (r : Except InternalSendError α) :
    Leads (Works L) (with_send_context context r : SessionM S α) w := by
  cases r with
  | ok a => exact works_pure _
  | error e => exact works_throw _

theorem works_utc_now (env : Env) : Leads (Works L) (utc_now env) w :=
  works_aside [] rfl rfl (List.append_nil _).symm rfl

theorem works_disconnect_writer : Leads (Works L) (disconnect_writer : SessionM S Unit) w := by
  refine works_get ?_
  cases w.state.get_writer with
  | none => exact works_pure _
  | some writer => exact works_note rfl

theorem number_world {m : Message} {n : Nat} {w' : World S} (executed : get_msg_seq_num m w = .ok n w') : w' = w := by
  unfold get_msg_seq_num at executed
  cases number : m.msg_seq_num with
  | none =>
    rw [number] at executed
    cases executed
  | some n =>
    rw [number] at executed
    cases executed
    rfl

theorem number_read {m : Message} {n : Nat} {w' : World S} (executed : get_msg_seq_num m w = .ok n w') : m.msg_seq_num = some n := by
  unfold get_msg_seq_num at executed
  cases number : m.msg_seq_num with
  | none =>
    rw [number] at executed
    cases executed
  | some n =>
    rw [number] at executed
    cases executed
    rfl

theorem works_number (m : Message) : Leads (Works L) (get_msg_seq_num m : SessionM S Nat) w := by
  unfold get_msg_seq_num
  cases m.msg_seq_num with
  | none => exact works_throw _
  | some n => exact works_pure _

theorem keeps_state_store (operation : S → Except StoreError Unit × S) (effects : List Effect) :
    Keeps World.state (store_operation operation effects) := by
  intro w
  rw [store_operation_eq]
  rcases operation w.store with ⟨e | _,s⟩
  · rfl
  · rfl

theorem works_store (may : L.store) (operation : S → Except StoreError Unit × S) {effects : List Effect}
    (plain : effects.all is_aside = true) : Leads (Works L) (store_operation operation effects) w := by
  unfold Leads
  rw [store_operation_eq]
  rcases operation w.store with ⟨e | _,s⟩
  · exact ⟨.one (.stored [] may rfl (List.append_nil _).symm rfl),rfl⟩
  · exact ⟨.one (.stored effects may rfl rfl plain),rfl⟩

end

/-! ### Sending -/

variable [MessageStore S]

section
variable {L : Licence} {w : World S} {env : Env} {o : OutboundMessage} {m : Message}

theorem prepare_generated {prepared : PreparedMessage} {w' : World S} (executed : prepare_message env o w = .ok (.ok prepared) w') :
    generated env o w = .ok (prepared.message,prepared.raw) ∧ w'.state = w.state := by
  rcases frame : generated env o w with text | ⟨message,raw⟩
  · rw [prepare_message_panics frame] at executed
    cases executed
  · rw [prepare_message_eq frame] at executed
    rcases taken : increment_sender_seq_number w.store with ⟨e | _,s⟩
    · rw [taken] at executed
      cases executed
    · rcases kept : add (next_sender w) raw s with ⟨e | _,s'⟩
      · simp only [taken,kept] at executed
        cases executed
      · simp only [taken,kept] at executed
        cases executed
        exact ⟨rfl,rfl⟩

theorem works_prepare (may : L.store) (env : Env) (o : OutboundMessage) : Leads (Works L) (prepare_message env o) w := by
  have stored (s : S) : Works L w (ticked w s) := ⟨.one (.stored [] may rfl (List.append_nil _).symm rfl),rfl⟩
  unfold Leads
  rcases frame : generated env o w with text | ⟨message,raw⟩
  · rw [prepare_message_panics frame]
    exact stored _
  · rw [prepare_message_eq frame]
    rcases increment_sender_seq_number w.store with ⟨e | _,s⟩
    · exact stored _
    · dsimp only
      rcases add (next_sender w) raw s with ⟨e | _,s'⟩
      · exact stored _
      · exact stored _

omit [MessageStore S] in
theorem works_write {message_type : Bytes} {prepared : PreparedMessage}
    (may : writable w.state message_type = true → L.frame prepared.message) :
    Leads (Works L) (write_prepared message_type prepared) w := by
  have wrote {writer : WriterRef} (leaves : writable w.state message_type = true) (current : w.state.get_writer = some writer) :
      Leads (Works L) (send_raw_message writer prepared.message prepared.raw) w :=
    ⟨.one (.wrote (may leaves) current prepared.raw),rfl⟩
  unfold write_prepared
  refine works_get ?_
  cases state : w.state with
  | Active active =>
    refine leads_ite (fun _ => works_pure _) (fun other => wrote ?_ ?_)
    · rw [state]
      simpa [writable] using other
    · rw [state]
      rfl
  | AwaitingResend awaiting =>
    refine leads_ite (fun _ => works_pure _) (fun other => wrote ?_ ?_)
    · rw [state]
      simpa [writable] using other
    · rw [state]
      rfl
  | AwaitingLogon awaiting =>
    refine leads_ite (fun logon => leads_ite (fun _ => works_pure _) (fun unsent => ?_)) (fun _ =>
      leads_ite (fun logout => wrote ?_ ?_) (fun _ => works_pure _))
    · have first : awaiting.logon_sent = false := by simpa using unsent
      refine ⟨.one (.greeted (may ?_) state first prepared.raw),?_⟩
      · rw [state]
        simp [writable,logon,first]
      · rw [state]
        rfl
    · rw [state]
      simp [writable,logout]
    · rw [state]
      rfl
  | AwaitingLogout _ => exact works_pure _
  | Disconnected _ => exact works_pure _

/-- A message that is sent through the state leaves if the state lets it. -/
theorem works_send (may : L.store)
    (frames : ∀ message raw, generated env o w = .ok (message,raw) → writable w.state o.message_type = true → L.frame message) :
    Leads (Works L) (send_message env o) w := by
  unfold send_message
  refine works_bind (works_prepare may env o) (fun r w₁ executed _ => ?_)
  cases r with
  | error e => exact works_pure _
  | ok prepared =>
    obtain ⟨frame,state⟩ := prepare_generated executed
    refine works_bind (works_write (fun leaves => frames _ _ frame ?_)) (fun _ _ _ _ => works_pure _)
    rwa [← state]

/-- A message that is sent past the state leaves. -/
theorem works_send_to {writer : WriterRef} (may : L.store) (current : w.state.get_writer = some writer)
    (frames : ∀ message raw, generated env o w = .ok (message,raw) → L.frame message) :
    Leads (Works L) (send_message_to env writer o) w := by
  unfold send_message_to
  refine works_bind (works_prepare may env o) (fun r w₁ executed works => ?_)
  cases r with
  | error e => exact works_pure _
  | ok prepared =>
    obtain ⟨frame,_⟩ := prepare_generated executed
    have sent : Leads (Works L) (send_raw_message writer prepared.message prepared.raw) w₁ :=
      ⟨.one (.wrote (frames _ _ frame) (works.2.trans current) prepared.raw),rfl⟩
    exact works_bind sent (fun _ _ _ _ => works_pure _)

theorem own_kind (own : Primitives.Own o) {message : Message} {raw : Bytes} (frame : generated env o w = .ok (message,raw)) :
    message.kind = some (msg_kind o.message_type) := by
  have valid : valid_utf8 o.message_type = true := by
    cases own with
    | heartbeat h => exact (show valid_utf8 Heartbeat.MSG_TYPE = true by decide)
    | testRequest t => exact (show valid_utf8 TestRequest.MSG_TYPE = true by decide)
    | resendRequest r => exact (show valid_utf8 ResendRequest.MSG_TYPE = true by decide)
    | reject r => exact (show valid_utf8 Reject.MSG_TYPE = true by decide)
    | logout l => exact (show valid_utf8 Logout.MSG_TYPE = true by decide)
    | logon l => exact (show valid_utf8 Logon.MSG_TYPE = true by decide)
    | businessReject b => exact (show valid_utf8 BusinessReject.MSG_TYPE = true by decide)
  exact generate_message_kind own.bodyOnly.keepsType valid frame

theorem works_own (own : Primitives.Own o) (may : L.store)
    (frames : ∀ message : Message, message.kind = some (msg_kind o.message_type) → L.frame message) :
    Leads (Works L) (send_message env o) w :=
  works_send may (fun _ _ frame _ => frames _ (own_kind own frame))

theorem works_own_to {writer : WriterRef} (own : Primitives.Own o) (may : L.store) (current : w.state.get_writer = some writer)
    (frames : ∀ message : Message, message.kind = some (msg_kind o.message_type) → L.frame message) :
    Leads (Works L) (send_message_to env writer o) w :=
  works_send_to may current (fun _ _ frame => frames _ (own_kind own frame))

omit [MessageStore S] in
theorem works_checked {x : SessionM S (Except InternalSendError Nat)} (context : String) (sends : Leads (Works L) x w) :
    Leads (Works L) (do let _ ← with_send_context context (← x)) w :=
  works_bind sends (fun r _ _ _ => works_bind (works_send_context context r) (fun _ _ _ _ => works_pure _))

theorem works_logout (may : L.store) (frames : ∀ message : Message, message.kind = some .Logout → L.frame message) (reason : Bytes) :
    Leads (Works L) (send_message env (Logout.with_reason reason).outbound) w :=
  works_own (.logout _) may frames

theorem works_terminate (may : L.store) (frames : ∀ message : Message, message.kind = some .Logout → L.frame message)
    (reason : Bytes) : Leads (Works L) (logout_and_terminate env reason) w :=
  works_bind (works_logout may frames reason) (fun _ _ _ _ => works_disconnect_writer)

/-! ### Resending -/

/-- Whether the resend of the messages writes a frame, where a gap fill may be due. -/
def replies (env : Env) : List Bytes → Bool → Bool
  | [],due => due
  | raw :: rest,_ =>
    match (env.build raw).into_message with
    | none => false
    | some m =>
      match m.msg_seq_num,m.msg_type with
      | some _,some message_type => if is_admin message_type then replies env rest true else true
      | _,_ => false

/-- Whether the resend of the messages writes one of the application. -/
def resends (env : Env) : List Bytes → Bool
  | [] => false
  | raw :: rest =>
    match (env.build raw).into_message with
    | none => false
    | some m =>
      match m.msg_seq_num,m.msg_type with
      | some _,some message_type => if is_admin message_type then resends env rest else true
      | _,_ => false

section
variable {writer : WriterRef}

omit [MessageStore S] in
theorem works_flush (current : w.state.get_writer = some writer) (last : Nat) {start : Option Nat}
    (frames : start.isSome = true → ∀ f : Message, f.kind = some .SequenceReset → L.frame f) :
    Leads (Works L) (flush_reset env writer last start) w := by
  cases start with
  | none => exact works_pure _
  | some first =>
    unfold flush_reset send_sequence_reset
    have clock : Leads (Works L) (timestamp_now env) w := works_aside [] rfl rfl (List.append_nil _).symm rfl
    refine works_bind clock (fun now w₁ _ works => ?_)
    obtain ⟨frame,made,kind,-⟩ := gapFill_generated env.config.begin_string env.config.sender_comp_id
      env.config.target_comp_id first last now
    rw [made]
    exact ⟨.one (.wrote (frames rfl _ kind) (works.2.trans current) _),rfl⟩

omit [MessageStore S] in
theorem works_resend_loop (messages : List Bytes) : ∀ (start : Option Nat) (last : Nat) {w : World S},
    w.state.get_writer = some writer →
    (replies env messages start.isSome = true → ∀ f : Message, f.kind = some .SequenceReset → L.frame f) →
    (resends env messages = true → ∀ f : Message, f.kind = some .Application → L.frame f) →
    Leads (Works L) (resend_loop env writer messages start last) w := by
  induction messages with
  | nil => exact fun start last w current fills _ => works_flush current last fills
  | cons raw rest ih =>
    intro start last w current fills copies
    unfold resend_loop
    cases read : (env.build raw).into_message with
    | none => exact works_throw _
    | some m =>
      dsimp only
      cases number : m.msg_seq_num with
      | none =>
        refine works_bind (works_number m) (fun n w₁ executed _ => ?_)
        simp only [get_msg_seq_num,number] at executed
        cases executed
      | some n =>
        refine works_bind (works_number m) (fun n w₁ _ first => ?_)
        cases typed : m.msg_type with
        | none => exact works_throw _
        | some message_type =>
          simp only [replies,resends,read,number,typed] at fills copies
          refine leads_ite (fun admin => ?_) (fun application => ?_)
          · rw [if_pos admin] at fills copies
            exact ih _ _ (first.2.trans current) fills copies
          · rw [if_neg application] at fills copies
            refine works_bind (works_flush (first.2.trans current) n (fun _ => fills rfl)) (fun _ w₂ _ second => ?_)
            have clock : Leads (Works L) (timestamp_now env) w₂ := works_aside [] rfl rfl (List.append_nil _).symm rfl
            refine works_bind clock (fun now w₃ _ third => ?_)
            have current₃ : w₃.state.get_writer = some writer := third.2.trans (second.2.trans (first.2.trans current))
            have kind : ((prepare_message_for_resend m now).1.encode env.message_config).1.kind = some .Application := by
              rw [is_admin_iff,not_not] at application
              unfold Message.kind
              rw [encode_msg_type,prepared_msg_type,typed,Option.map_some,application]
            have sent : Leads (Works L) (send_raw_message writer ((prepare_message_for_resend m now).1.encode env.message_config).1
                ((prepare_message_for_resend m now).1.encode env.message_config).2) w₃ :=
              ⟨.one (.wrote (copies rfl _ kind) current₃ _),rfl⟩
            exact works_bind sent (fun _ w₄ _ fourth => ih _ _ (fourth.2.trans current₃) (fun _ => fills rfl) (fun _ => copies rfl))

/-- The messages that the store cuts out. -/
def cut_out : Except (Abort StoreError) (List Bytes) → List Bytes
  | .ok messages => messages
  | .error _ => []

theorem works_resend (current : w.state.get_writer = some writer) (first last : Nat)
    (fills : replies env (cut_out (get_slice first last w.store)) false = true → ∀ f : Message, f.kind = some .SequenceReset → L.frame f)
    (copies : resends env (cut_out (get_slice first last w.store)) = true → ∀ f : Message, f.kind = some .Application → L.frame f) :
    Leads (Works L) (resend_messages env writer first last) w := by
  refine works_get ?_
  rcases slice : get_slice first last w.store with (e | text) | messages
  · exact works_throw _
  · exact works_throw _
  · rw [slice] at fills copies
    exact works_bind (works_pure messages) (fun messages' w₁ executed works => by
      cases executed
      exact works_resend_loop messages none 0 current fills copies)

end
end

end HotFix.Deeds
