import HotFix.Operations

/-!
Sending a message: what a number, a write to the store and a frame have to do with
one another. A message is reported as sent whether or not the state of the session
lets it leave; the result is right exactly when the state lets it, or when the
store refuses the number.
-/
namespace HotFix.Sending
open HotFix.Program HotFix.Frames HotFix.Operations MessageStore
open HotFix.Sample (valid logon message start connect receive after reachable_after Store)
variable {S : Type} [MessageStore S]

/-! ### The messages of a store -/

/-- The message that the store holds under a number. -/
def stored (s : S) (n : Nat) : Option Bytes :=
  match get_slice n n s with
  | .ok [raw] => some raw
  | _ => none

/-- What the operations document of the messages: `add` puts one under its number,
    a reset clears them, and every other operation and every failure keeps them. -/
class LawfulOutbox (S : Type) [MessageStore S] : Prop where
  add_ok : ∀ n data (s : S), (add n data s).1 = .ok () → stored (add n data s).2 = Function.update (stored s) n (some data)
  add_failed : ∀ n data (s : S), (add n data s).1 ≠ .ok () → stored (add n data s).2 = stored s
  increment_sender_keeps : ∀ s : S, stored (increment_sender_seq_number s).2 = stored s
  increment_target_keeps : ∀ s : S, stored (increment_target_seq_number s).2 = stored s
  set_target_keeps : ∀ n (s : S), stored (set_target_seq_number n s).2 = stored s
  reset_ok : ∀ now (s : S), (reset now s).1 = .ok () → stored (reset now s).2 = fun _ => none
  reset_failed : ∀ now (s : S), (reset now s).1 ≠ .ok () → stored (reset now s).2 = stored s

theorem stored_inMemory (s : InMemoryMessageStore .exact) : stored s = s.messages := by
  funext n
  change (match InMemoryMessageStore.get_slice n n s with
    | .ok [raw] => some raw
    | _ => none) = s.messages n
  simp only [InMemoryMessageStore.get_slice,Nat.lt_irrefl,if_false,Nat.add_sub_cancel_left]
  cases found : s.messages n with
  | none => simp [found]
  | some raw => simp [found]

instance : LawfulOutbox (InMemoryMessageStore .exact) where
  add_ok n data s _ := by
    rw [stored_inMemory,stored_inMemory]
    funext k
    by_cases same : k = n
    · subst same
      simp [add]
    · simp [add,same]
  add_failed _ _ _ failed := absurd rfl failed
  increment_sender_keeps _ := by rw [stored_inMemory,stored_inMemory]; rfl
  increment_target_keeps _ := by rw [stored_inMemory,stored_inMemory]; rfl
  set_target_keeps _ _ := by rw [stored_inMemory,stored_inMemory]; rfl
  reset_ok _ _ _ := by rw [stored_inMemory]; rfl
  reset_failed _ _ failed := absurd rfl failed

/-! ### Preparing a message -/

/-- The frame of a message with the next number. -/
def generated (env : Env) (o : OutboundMessage) (w : World S) : Except String (Message × Bytes) :=
  generate_message env.config.begin_string env.config.sender_comp_id env.config.target_comp_id (next_sender w) o
    (env.timestamp_now w.clock_readings)

/-- The world with another store, after a reading of the clock. -/
def ticked (w : World S) (s : S) : World S := { w with store := s, clock_readings := w.clock_readings + 1 }

section
variable {env : Env} {o : OutboundMessage} {w : World S} {m : Message} {raw : Bytes}

/-- The frame is generated after one reading of the clock. -/
theorem prepare_message_frame (env : Env) (o : OutboundMessage) (w : World S) :
    prepare_message env o w =
      (match generated env o w with
      | .error panic => throw (.Panic panic)
      | .ok (msg,raw) => do
        match ← store_operation increment_sender_seq_number [] with
        | .error e => return .error (.SequenceNumber e)
        | .ok () =>
          match ← store_operation (add (next_sender w) raw) [] with
          | .error e => return .error (.Persist e)
          | .ok () => return .ok ⟨next_sender w,msg,raw⟩ : SessionM S _) (ticked w w.store) := by
  unfold prepare_message generated
  rw [get_bind]
  exact (bind_ok (show timestamp_now env w = .ok (env.timestamp_now w.clock_readings) (ticked w w.store) from rfl)).trans rfl

/-- A message whose write panics takes no number. -/
theorem prepare_message_panics {text : String} (panics : generated env o w = .error text) :
    prepare_message env o w = .error (.Panic text) (ticked w w.store) := by
  rw [prepare_message_frame,panics]
  rfl

omit [MessageStore S] in
/-- A silent store operation, after a reading of the clock. -/
theorem store_operation_ticked (operation : S → Except StoreError Unit × S) (w : World S) (s : S) :
    store_operation operation [] (ticked w s) = .ok (operation s).1 (ticked w (operation s).2) := by
  rw [store_operation_eq]
  rw [show (ticked w s).store = s from rfl]
  rcases operation s with ⟨e | _,s'⟩
  · rfl
  · simp [ticked]

/-- The number is taken first, then the frame is stored under it. -/
theorem prepare_message_eq (frame : generated env o w = .ok (m,raw)) :
    prepare_message env o w =
      match increment_sender_seq_number w.store with
      | (.error e,s) => .ok (.error (.SequenceNumber e)) (ticked w s)
      | (.ok (),s) =>
        match add (next_sender w) raw s with
        | (.error e,s') => .ok (.error (.Persist e)) (ticked w s')
        | (.ok (),s') => .ok (.ok ⟨next_sender w,m,raw⟩) (ticked w s') := by
  rw [prepare_message_frame,frame]
  have first := store_operation_ticked increment_sender_seq_number w w.store
  rcases taken : increment_sender_seq_number w.store with ⟨e | _,s⟩
  · rw [taken] at first
    exact (bind_ok first).trans rfl
  · rw [taken] at first
    refine (bind_ok first).trans ?_
    have second := store_operation_ticked (add (next_sender w) raw) w s
    rcases kept : add (next_sender w) raw s with ⟨e | _,s'⟩
    · rw [kept] at second
      exact (bind_ok second).trans (by simp [kept]; rfl)
    · rw [kept] at second
      exact (bind_ok second).trans (by simp [kept]; rfl)

/-! ### Sending a message -/

/-- Whether the state lets a message of this type leave. -/
def writable : SessionState → Bytes → Bool
  | .Active _,message_type => message_type ≠ Logon.MSG_TYPE
  | .AwaitingResend _,message_type => message_type ≠ Logon.MSG_TYPE
  | .AwaitingLogon state,message_type =>
    message_type = Logon.MSG_TYPE && !state.logon_sent || message_type = Logout.MSG_TYPE
  | .AwaitingLogout _,_ => false
  | .Disconnected _,_ => false

omit [MessageStore S] in
/-- A prepared message goes to the writer of the state that lets it leave, and
    nowhere else. -/
theorem write_prepared_journal (message_type : Bytes) (prepared : PreparedMessage) (w : World S) :
    Runs (write_prepared message_type prepared) w
      (fun _ w' => w'.store = w.store ∧
        (writable w.state message_type = true → ∃ writer, w.state.get_writer = some writer ∧
          w'.journal = w.journal ++ [.Sent writer prepared.message prepared.raw]) ∧
        (writable w.state message_type = false → w'.journal = w.journal))
      (fun _ _ => False) := by
  unfold write_prepared
  rw [runs_bind,runs_get]
  cases state : w.state with
  | Active active =>
    simp only
    split_ifs with logon
    · exact ⟨rfl,by simp [writable,logon],fun _ => rfl⟩
    · exact ⟨rfl,fun _ => ⟨active.writer,rfl,rfl⟩,by simp [writable,logon]⟩
  | AwaitingResend awaiting =>
    simp only
    split_ifs with logon
    · exact ⟨rfl,by simp [writable,logon],fun _ => rfl⟩
    · exact ⟨rfl,fun _ => ⟨awaiting.writer,rfl,rfl⟩,by simp [writable,logon]⟩
  | AwaitingLogon awaiting =>
    have other : Logon.MSG_TYPE ≠ Logout.MSG_TYPE := by decide
    simp only
    split_ifs with logon sent logout
    · exact ⟨rfl,by simp [writable,logon,sent,other],fun _ => rfl⟩
    · exact ⟨rfl,fun _ => ⟨awaiting.writer,rfl,rfl⟩,by simp [writable,logon,sent]⟩
    · exact ⟨rfl,fun _ => ⟨awaiting.writer,rfl,rfl⟩,by simp [writable,logout]⟩
    · exact ⟨rfl,by simp [writable,logon,logout],fun _ => rfl⟩
  | AwaitingLogout _ => exact ⟨rfl,by simp [writable],fun _ => rfl⟩
  | Disconnected _ => exact ⟨rfl,by simp [writable],fun _ => rfl⟩

theorem send_message_panics {text : String} (panics : generated env o w = .error text) :
    send_message env o w = .error (.Panic text) (ticked w w.store) := by
  unfold send_message
  simp only [bind,EStateM.bind,prepare_message_panics panics]

/-- The store refuses the number. -/
theorem send_message_refused (frame : generated env o w = .ok (m,raw))
    (refused : (increment_sender_seq_number w.store).1 ≠ .ok ()) :
    ∃ e, send_message env o w = .ok (.error e) (ticked w (increment_sender_seq_number w.store).2) := by
  have prepared := prepare_message_eq frame
  rcases taken : increment_sender_seq_number w.store with ⟨e | _,s⟩
  · rw [taken] at prepared
    exact ⟨_,(bind_ok prepared).trans rfl⟩
  · simp [taken] at refused

/-- The number is taken, but the store does not keep the frame. -/
theorem send_message_unkept (frame : generated env o w = .ok (m,raw))
    (taken : (increment_sender_seq_number w.store).1 = .ok ())
    (unkept : (add (next_sender w) raw (increment_sender_seq_number w.store).2).1 ≠ .ok ()) :
    ∃ e, send_message env o w =
      .ok (.error e) (ticked w (add (next_sender w) raw (increment_sender_seq_number w.store).2).2) := by
  have prepared := prepare_message_eq frame
  rcases first : increment_sender_seq_number w.store with ⟨e | _,s⟩
  · simp [first] at taken
  · rcases second : add (next_sender w) raw s with ⟨e | _,s'⟩
    · simp only [first,second] at prepared
      exact ⟨_,(bind_ok prepared).trans rfl⟩
    · simp [first,second] at unkept

/-- The number is taken and the frame is kept: the number is the result, whether or
    not the frame leaves. -/
theorem send_message_kept (frame : generated env o w = .ok (m,raw))
    (taken : (increment_sender_seq_number w.store).1 = .ok ())
    (kept : (add (next_sender w) raw (increment_sender_seq_number w.store).2).1 = .ok ()) :
    ∃ w', send_message env o w = .ok (.ok (next_sender w)) w' ∧
      w'.store = (add (next_sender w) raw (increment_sender_seq_number w.store).2).2 ∧
      (writable w.state o.message_type = true → ∃ writer, w.state.get_writer = some writer ∧
        w'.journal = w.journal ++ [.Sent writer m raw]) ∧
      (writable w.state o.message_type = false → w'.journal = w.journal) := by
  have prepared := prepare_message_eq frame
  rcases first : increment_sender_seq_number w.store with ⟨e | _,s⟩
  · simp [first] at taken
  · rcases second : add (next_sender w) raw s with ⟨e | _,s'⟩
    · simp [first,second] at kept
    · simp only [first,second] at prepared
      obtain ⟨_,w',written,store,leaves,stays⟩ :=
        runs_returned (write_prepared_journal o.message_type ⟨next_sender w,m,raw⟩ (ticked w s'))
      refine ⟨w',(bind_ok prepared).trans ((bind_ok written).trans rfl),?_,leaves,stays⟩
      exact store

/-! ### What the result of a send says -/

/-- The frame with the number went to the writer of the connection. -/
def HandedOver (env : Env) (o : OutboundMessage) (n : Nat) (w w' : World S) : Prop :=
  n = next_sender w ∧ ∃ writer m raw, w.state.get_writer = some writer ∧ generated env o w = .ok (m,raw) ∧
    .Sent writer m raw ∈ w'.journal.drop w.journal.length

/-- A message reported as sent was handed over, and one that may not leave is an
    error that takes no number and stores nothing. -/
structure SentMeansWritten (env : Env) (o : OutboundMessage) (w : World S) : Prop where
  sent : ∀ n w', send_message env o w = .ok (.ok n) w' → HandedOver env o n w w'
  app_sent : ∀ n w', send_app_message env o w = .ok (.ok (.Sent n)) w' → HandedOver env o n w w'
  refused : writable w.state o.message_type = false → ∃ e w', send_message env o w = .ok (.error e) w' ∧
    next_sender w' = next_sender w ∧ stored w'.store = stored w.store

/-- A send that succeeds took the number and kept the frame. -/
theorem send_message_ok {n : Nat} {w' : World S} (sent : send_message env o w = .ok (.ok n) w') :
    n = next_sender w ∧ (increment_sender_seq_number w.store).1 = .ok () ∧ ∃ m raw, generated env o w = .ok (m,raw) ∧
      (writable w.state o.message_type = true → ∃ writer, w.state.get_writer = some writer ∧
        w'.journal = w.journal ++ [.Sent writer m raw]) := by
  rcases frame : generated env o w with text | ⟨m,raw⟩
  · rw [send_message_panics frame] at sent
    cases sent
  · by_cases taken : (increment_sender_seq_number w.store).1 = .ok ()
    · by_cases kept : (add (next_sender w) raw (increment_sender_seq_number w.store).2).1 = .ok ()
      · obtain ⟨w'',result,-,leaves,-⟩ := send_message_kept frame taken kept
        rw [result] at sent
        cases sent
        exact ⟨rfl,taken,m,raw,rfl,leaves⟩
      · obtain ⟨e,result⟩ := send_message_unkept frame taken kept
        rw [result] at sent
        cases sent
    · obtain ⟨e,result⟩ := send_message_refused frame taken
      rw [result] at sent
      cases sent

/-- The application's message is sent like any other, after the callback. -/
theorem send_app_message_sent {n : Nat} {w' : World S} (sent : send_app_message env o w = .ok (.ok (.Sent n)) w') :
    send_message env o { w with journal := w.journal ++ [.OnOutboundMessage o.message_type] } = .ok (.ok n) w' := by
  have run : Runs (send_app_message env o) w
      (fun r w' => ∀ n, r = .ok (.Sent n) →
        send_message env o { w with journal := w.journal ++ [.OnOutboundMessage o.message_type] } = .ok (.ok n) w')
      (fun _ _ => True) := by
    unfold send_app_message
    rw [runs_bind,runs_get]
    split_ifs
    · rw [runs_bind,runs_note]
      cases env.application.on_outbound_message w.journal o with
      | Send =>
        simp only [runs_bind]
        have always : ∀ x : SessionM S (Except InternalSendError Nat), ∀ v, Runs x v (fun _ _ => True) (fun _ _ => True) :=
          fun x v => (runs_final (x := x) (s := v) (fun _ => True)).mpr trivial
        refine runs_mono_of (always _ _) ?_ (fun _ _ _ _ => trivial)
        rintro (e | k) v executed -
        · rintro n ⟨⟩
        · rintro n ⟨⟩
          exact executed
      | Drop => rintro n ⟨⟩
      | TerminateSession =>
        rw [runs_bind]
        refine runs_mono (disconnect_writer_runs _) ?_ (fun _ _ _ => trivial)
        rintro _ v -
        rintro n ⟨⟩
    · rintro n ⟨⟩
  rw [runs_ok sent] at run
  exact run n rfl

/-- Where the state lets the message leave, or the store refuses the number, what
    is reported as sent was handed over. -/
theorem handed_over {n : Nat} {w₀ w' : World S} {before : List Effect}
    (fine : writable w.state o.message_type = true ∨ (increment_sender_seq_number w.store).1 ≠ .ok ())
    (started : w₀ = { w with journal := w.journal ++ before }) (sent : send_message env o w₀ = .ok (.ok n) w') :
    HandedOver env o n w w' := by
  subst started
  obtain ⟨number,taken,m,raw,frame,leaves⟩ := send_message_ok sent
  obtain ⟨writer,current,journal⟩ := leaves (fine.resolve_right (not_not.mpr taken))
  exact ⟨number,writer,m,raw,current,frame,by simp [journal]⟩

variable [LawfulMessageStore S] [LawfulOutbox S]

omit [LawfulOutbox S] in
/-- A number that is taken for a message that may not leave breaks the promise. -/
theorem taken_unsent (closed : writable w.state o.message_type = false)
    (taken : (increment_sender_seq_number w.store).1 = .ok ()) : ¬ SentMeansWritten env o w := by
  intro promise
  obtain ⟨e,w',result,number,-⟩ := promise.refused closed
  rcases frame : generated env o w with text | ⟨m,raw⟩
  · rw [send_message_panics frame] at result
    cases result
  · by_cases kept : (add (next_sender w) raw (increment_sender_seq_number w.store).2).1 = .ok ()
    · obtain ⟨w'',sent,-⟩ := send_message_kept frame taken kept
      rw [sent] at result
      cases result
    · obtain ⟨e',sent⟩ := send_message_unkept frame taken kept
      rw [sent] at result
      cases result
      -- the failed write keeps the number that the increment took
      have moved : next_sender_seq_number (increment_sender_seq_number w.store).2 = next_sender w + 1 := by
        obtain ⟨-,left⟩ | ⟨⟨e,failed⟩,-⟩ := LawfulMessageStore.increment_sender_moves w.store
        · exact congrArg Prod.fst left
        · rw [taken] at failed
          cases failed
      have stays : next_sender_seq_number (add (next_sender w) raw (increment_sender_seq_number w.store).2).2 =
          next_sender_seq_number (increment_sender_seq_number w.store).2 := by
        obtain ⟨-,left⟩ | ⟨-,left⟩ := LawfulMessageStore.add_moves (next_sender w) raw (increment_sender_seq_number w.store).2
        · exact congrArg Prod.fst left
        · exact congrArg Prod.fst left
      have same : next_sender_seq_number (add (next_sender w) raw (increment_sender_seq_number w.store).2).2 =
        next_sender w := number
      omega

/-- A refused number changes neither the number nor the messages. -/
theorem refused_unchanged (frame : generated env o w = .ok (m,raw))
    (refused : (increment_sender_seq_number w.store).1 ≠ .ok ()) :
    ∃ e w', send_message env o w = .ok (.error e) w' ∧ next_sender w' = next_sender w ∧
      stored w'.store = stored w.store := by
  obtain ⟨e,result⟩ := send_message_refused frame refused
  refine ⟨e,_,result,?_,LawfulOutbox.increment_sender_keeps w.store⟩
  obtain ⟨taken,-⟩ | ⟨-,left⟩ := LawfulMessageStore.increment_sender_moves w.store
  · exact absurd taken refused
  · exact congrArg Prod.fst left

/-- Sent means written exactly when the state lets the message leave, or when its
    write does not panic and the store refuses the number. -/
theorem sent_means_written_iff : SentMeansWritten env o w ↔
    writable w.state o.message_type = true ∨
      (∃ frame, generated env o w = .ok frame) ∧ (increment_sender_seq_number w.store).1 ≠ .ok () := by
  constructor
  · intro promise
    cases closed : writable w.state o.message_type with
    | true => exact .inl rfl
    | false =>
      refine .inr ⟨?_,fun taken => taken_unsent closed taken promise⟩
      obtain ⟨e,w',result,-⟩ := promise.refused closed
      rcases generation : generated env o w with text | frame
      · rw [send_message_panics generation] at result
        cases result
      · exact ⟨frame,rfl⟩
  · intro fine
    have either := fine.imp_right And.right
    refine ⟨fun n w' sent => handed_over either (show w = { w with journal := w.journal ++ [] } by simp) sent,
      fun n w' sent => handed_over either rfl (send_app_message_sent sent),fun closed => ?_⟩
    obtain ⟨⟨⟨m,raw⟩,frame⟩,refused⟩ := fine.resolve_left (by simp [closed])
    exact refused_unchanged frame refused

end

/-- A report of the application. -/
def app_report : OutboundMessage := ⟨ascii "8",fun m => .ok m⟩

/-- Connected, with the Logon sent and not yet answered. -/
def connected : World Store := after (valid []) [connect]

/-- The outcome that the application gets. -/
def answered : EStateM.Result (Abort SessionOperationError) (World S) (Except SendError SendOutcome) → Option SendOutcome
  | .ok (.ok outcome) _ => some outcome
  | _ => none

def is_frame : Effect → Bool
  | .Sent _ _ _ => true
  | _ => false

/-- Before the peer's Logon a report is reported as sent with number 2, and nothing
    leaves. -/
theorem report_kept_back :
    Reachable (valid []) (fun _ _ => True) start connected ∧
      writable connected.state app_report.message_type = false ∧
      answered (send_app_message (valid []) app_report connected) = some (.Sent 2) ∧
      ((final (send_app_message (valid []) app_report connected)).journal.drop connected.journal.length).any is_frame =
        false ∧
      ¬ SentMeansWritten (valid []) app_report connected :=
  ⟨reachable_after (by decide +kernel),by decide +kernel,by decide +kernel,by decide +kernel,
    taken_unsent (by decide +kernel) rfl⟩

/-- A Logout may leave before the peer's Logon. -/
theorem logout_handed_over : SentMeansWritten (valid []) (Logout.with_reason (ascii "done")).outbound connected :=
  sent_means_written_iff.mpr (.inl (by decide +kernel))

end HotFix.Sending
