import HotFix.Errors

/-!
Connections. What is noted since the last connection is what happened on it. A
connection begins with the Logon of the session, if the store takes it.
-/
namespace HotFix.Connections
open HotFix.Program HotFix.Frames HotFix.Operations HotFix.Loop HotFix.Sending HotFix.Deeds HotFix.Errors MessageStore
variable {S : Type}

/-! ### Since the last connection -/

def connects : Effect → Bool
  | .Connected _ => true
  | _ => false

/-- What was noted since the last connection. -/
def since (journal : List Effect) : List Effect :=
  journal.foldl (fun noted entry => if connects entry then [] else noted ++ [entry]) []

theorem since_snoc (journal : List Effect) (entry : Effect) :
    since (journal ++ [entry]) = if connects entry then [] else since journal ++ [entry] := by
  unfold since
  rw [List.foldl_append]
  rfl

theorem since_append (journal : List Effect) {entries : List Effect} (apart : ∀ entry ∈ entries, connects entry = false) :
    since (journal ++ entries) = since journal ++ entries := by
  induction entries using List.reverseRecOn with
  | nil => simp
  | append_singleton front entry ih =>
    rw [← List.append_assoc,since_snoc,apart entry (by simp),ih (fun e member => apart e (by simp [member]))]
    simp

theorem since_connected (journal : List Effect) (writer : WriterRef) {entries : List Effect}
    (apart : ∀ entry ∈ entries, connects entry = false) : since (journal ++ [.Connected writer] ++ entries) = entries := by
  rw [since_append _ apart,since_snoc]
  rfl

/-! ### Events -/

variable [MessageStore S]

/-- What is done about an event once the schedule has been checked. -/
def follow (env : Env) : SessionEvent → SessionM S Unit
  | .FixMessageReceived fix_message =>
    catch_error (on_incoming env fix_message) (fun err => do
      logout_and_terminate env (ascii "internal error")
      apply_transition (.TransitionTo (.new_disconnected true err.to_string)))
  | .Disconnected reason => on_disconnect reason
  | .Connected writer => catch_error (on_connect env writer) (fun _ => return ())
  | .ShouldReconnect => do note (.ReconnectAnswer (← get).state.should_reconnect)
  | .AwaitSchedule responder => register_schedule_awaiter responder

theorem handle_event_eq (env : Env) (event : SessionEvent) :
    (handle_input env (.Event event) : SessionM S Unit) = (do handle_schedule_check env; follow env event) := by
  cases event <;> rfl

/-- A frame that is handled without an error. -/
theorem handle_frame {env : Env} {raw : Bytes} {w c w' : World S} (scheduled : handle_schedule_check env w = .ok () c)
    (received : on_incoming env raw c = .ok () w') : handle_input env (.Event (.FixMessageReceived raw)) w = .ok () w' := by
  rw [handle_event_eq,bind_ok scheduled]
  unfold follow catch_error
  dsimp only
  rw [received]

/-- The errors of a connection are dropped. -/
theorem handle_connected {env : Env} {writer : WriterRef} {w c : World S} (scheduled : handle_schedule_check env w = .ok () c) :
    final (handle_input env (.Event (.Connected writer)) w) = final (on_connect env writer c) := by
  rw [handle_event_eq,bind_ok scheduled]
  unfold follow catch_error
  dsimp only
  rcases on_connect env writer c with ⟨_,u⟩ | ⟨_ | _,u⟩
  · rfl
  · rfl
  · rfl

/-! ### The Logon of a connection -/

def resets (env : Env) (w : World S) : Bool := env.config.reset_on_logon || w.reset_on_next_logon

/-- The world in which the Logon of a connection is written, and whether the store could
    be started over where that is asked for. -/
def opened (env : Env) (w : World S) : Except StoreError Unit × World S :=
  if resets env w then
    match reset (env.utc_now w.clock_readings) w.store with
    | (r,s) => (r,ticked w s)
  else (.ok (),w)

/-- The Logon of a connection. -/
def greeting (env : Env) (w : World S) : OutboundMessage :=
  (Logon.new env.config.heartbeat_interval (if resets env w then .Reset else .NoReset (some (next_target w)))).outbound

/-- The store takes the Logon of a connection. -/
def greets (env : Env) (w : World S) : Bool :=
  match opened env w with
  | (.ok (),v) => !unsendable env (greeting env w) v
  | (.error _,_) => false

/-- What is noted between the connection and its Logon. -/
def Opening (entry : Effect) : Prop := entry = .StoreReset ∨ ∃ old, entry = .OnStateChange old .AwaitingLogon

/-- What a connection leaves that begins with a Logon. -/
structure Greeted (env : Env) (writer : WriterRef) (w w' : World S) : Prop where
  state : w'.state = .AwaitingLogon ⟨writer,true⟩
  store : w'.store = filed env (greeting env w) (opened env w).2
  journal : ∃ entries m raw, generated env (greeting env w) (opened env w).2 = .ok (m,raw) ∧
    (∀ entry ∈ entries, Opening entry) ∧ w'.journal = w.journal ++ [.Connected writer] ++ (entries ++ [.Sent writer m raw])

section
variable {env : Env} {w : World S}

theorem greeting_own (env : Env) (w : World S) : Primitives.Own (greeting env w) := .logon _

/-- The Logon is written in a state that awaits one. -/
theorem send_greeting {u v : World S} {writer : WriterRef} {o : OutboundMessage} (total : Total o)
    (typed : o.message_type = Logon.MSG_TYPE) (sendable : unsendable env o v = false) (store : u.store = v.store)
    (clock : u.clock_readings = v.clock_readings) (state : u.state = .AwaitingLogon ⟨writer,false⟩) :
    ∃ m raw u', generated env o v = .ok (m,raw) ∧
      (do let _ ← with_send_context "logon" (← send_message env o)) u = .ok () u' ∧
      u'.state = .AwaitingLogon ⟨writer,true⟩ ∧ u'.store = filed env o v ∧ u'.journal = u.journal ++ [.Sent writer m raw] := by
  have same : generated env o u = generated env o v := by
    unfold generated next_sender
    rw [store,clock]
  have sendable' : unsendable env o u = false := by
    unfold unsendable next_sender at sendable ⊢
    rw [same,store]
    exact sendable
  have filed' : filed env o u = filed env o v := by
    unfold filed next_sender
    rw [same,store]
  rcases prepare_cases env (w := u) total with ⟨e,u',unsent,-⟩ | ⟨prepared,-,frame,executed⟩
  · rw [sendable'] at unsent
    cases unsent
  · have written : write_prepared o.message_type prepared (ticked u (filed env o u)) = .ok ()
        { noted (ticked u (filed env o u)) (.Sent writer prepared.message prepared.raw) with state := .AwaitingLogon ⟨writer,true⟩ } := by
      unfold write_prepared
      rw [get_bind,show (ticked u (filed env o u)).state = _ from state]
      dsimp only
      rw [if_pos typed]
      rfl
    refine ⟨prepared.message,prepared.raw,
      { noted (ticked u (filed env o u)) (.Sent writer prepared.message prepared.raw) with state := .AwaitingLogon ⟨writer,true⟩ },
      same ▸ frame,?_,rfl,filed',rfl⟩
    unfold send_message
    rw [bind_assoc,bind_ok executed]
    dsimp only
    rw [bind_assoc,bind_ok written]
    rfl

omit [MessageStore S] in
theorem transitioned_entries (w : World S) (state : SessionState) :
    ∃ entries, (transitioned w state).journal = w.journal ++ entries ∧
      ∀ entry ∈ entries, ∃ old, entry = .OnStateChange old state.as_status := by
  unfold transitioned
  split_ifs
  · exact ⟨[],(List.append_nil _).symm,List.forall_mem_nil _⟩
  · exact ⟨[_],rfl,List.forall_mem_singleton.mpr ⟨_,rfl⟩⟩

/-- The store is started over where that is asked for, and the Logon is written. -/
theorem send_logon_greets {u : World S} {writer : WriterRef} (taken : greets env w = true) (store : u.store = w.store)
    (clock : u.clock_readings = w.clock_readings) (flag : u.reset_on_next_logon = w.reset_on_next_logon)
    (state : u.state = .AwaitingLogon ⟨writer,false⟩) :
    ∃ entries m raw u', send_logon env u = .ok () u' ∧ generated env (greeting env w) (opened env w).2 = .ok (m,raw) ∧
      u'.state = .AwaitingLogon ⟨writer,true⟩ ∧ u'.store = filed env (greeting env w) (opened env w).2 ∧
      (∀ entry ∈ entries, Opening entry) ∧ u'.journal = u.journal ++ (entries ++ [.Sent writer m raw]) := by
  have same : (env.config.reset_on_logon || u.reset_on_next_logon) = resets env w := by
    rw [flag]
    rfl
  unfold send_logon
  rw [get_bind]
  dsimp only
  simp only [same]
  have total := (greeting_own env w).bodyOnly.total
  unfold greets opened at taken
  unfold opened
  cases anew : resets env w with
  | true =>
    rw [anew,if_pos rfl] at taken
    rw [if_pos rfl,if_pos rfl]
    rcases result : reset (env.utc_now w.clock_readings) w.store with ⟨e | _,s⟩
    · rw [result] at taken
      cases taken
    · rw [result] at taken
      have sendable : unsendable env (greeting env w) (ticked w s) = false := by simpa using taken
      have started : reset_store env u = .ok (.ok ()) { ticked u s with journal := u.journal ++ [.StoreReset] } := by
        unfold reset_store
        rw [bind_ok (show utc_now env u = .ok (env.utc_now u.clock_readings) (ticked u u.store) from rfl),store_operation_eq,clock,
          show (ticked u u.store).store = w.store from store,result]
        rfl
      obtain ⟨m,raw,u',frame,sent,awaiting,filed,journal⟩ := send_greeting (v := ticked w s)
        (u := { ticked u s with journal := u.journal ++ [.StoreReset], reset_on_next_logon := false }) total rfl sendable rfl
        (congrArg (· + 1) clock) state
      refine ⟨[.StoreReset],m,raw,u',?_,frame,awaiting,filed,List.forall_mem_singleton.mpr (.inl rfl),?_⟩
      · simp only [pure_bind]
        rw [bind_ok started]
        unfold greeting at sent
        rw [anew,if_pos rfl] at sent
        exact sent
      · rw [journal]
        exact List.append_assoc _ _ _
  | false =>
    rw [anew] at taken
    simp only [Bool.false_eq_true,if_false] at taken ⊢
    have sendable : unsendable env (greeting env w) w = false := by simpa using taken
    obtain ⟨m,raw,u',frame,sent,awaiting,filed,journal⟩ := send_greeting (v := w)
      (u := { u with reset_on_next_logon := false }) total rfl sendable store clock state
    refine ⟨[],m,raw,u',?_,frame,awaiting,filed,List.forall_mem_nil _,journal⟩
    have next : next_target u = next_target w := by
      unfold next_target
      rw [store]
    rw [pure_bind,next]
    unfold greeting at sent
    rw [anew] at sent
    exact sent

/-- A connection begins with a Logon that the store takes. -/
theorem connect_greets (writer : WriterRef) (taken : greets env w = true) :
    ∃ w', on_connect env writer w = .ok () w' ∧ Greeted env writer w w' := by
  obtain ⟨changes,journal,told⟩ := transitioned_entries (noted w (.Connected writer)) (.AwaitingLogon ⟨writer,false⟩)
  unfold on_connect
  rw [bind_ok (show note (.Connected writer) w = .ok () (noted w (.Connected writer)) from rfl),bind_ok (transition_eq _ _)]
  obtain ⟨v,same⟩ : ∃ v, v = transitioned (noted w (.Connected writer)) (.AwaitingLogon ⟨writer,false⟩) := ⟨_,rfl⟩
  have kept : v.store = w.store ∧ v.clock_readings = w.clock_readings ∧ v.reset_on_next_logon = w.reset_on_next_logon ∧
      v.state = .AwaitingLogon ⟨writer,false⟩ := by
    rw [same]
    unfold transitioned
    split_ifs
    · exact ⟨rfl,rfl,rfl,rfl⟩
    · exact ⟨rfl,rfl,rfl,rfl⟩
  rw [← same] at journal ⊢
  obtain ⟨store,clock,flag,state⟩ := kept
  have timed : ({ v with state := v.state.reset_peer_timer none } : World S).state = .AwaitingLogon ⟨writer,false⟩ := by
    rw [state]
    rfl
  obtain ⟨entries,m,raw,w',sent,frame,awaiting,filed,opening,written⟩ :=
    send_logon_greets (u := { v with state := v.state.reset_peer_timer none }) taken store clock flag timed
  refine ⟨w',(bind_ok rfl).trans sent,awaiting,filed,changes ++ entries,m,raw,frame,?_,?_⟩
  · intro entry member
    rcases List.mem_append.mp member with change | after
    · exact .inr (told entry change)
    · exact opening entry after
  · rw [written,show ({ v with state := v.state.reset_peer_timer none } : World S).journal = v.journal from rfl,journal]
    simp [noted,List.append_assoc]

end
end HotFix.Connections
