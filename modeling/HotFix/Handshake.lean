import HotFix.Connections

/-!
What leaves on a connection before the peer has logged on. The Logon of the session is
first, and nothing but Logouts follows it until a Logon of the peer passes verification
or is only ahead of the expected number. What is sent through the state keeps to this;
the answers to frames that fail verification are sent past it.
-/
namespace HotFix.Handshake
open HotFix.Program HotFix.Frames HotFix.Operations HotFix.Loop HotFix.Sending HotFix.Deeds HotFix.Connections MessageStore
open HotFix.Sample (valid message_from config start connect receive Store)
variable {S : Type}

/-! ### The frames of a connection -/

def frame_message : Effect → Option Message
  | .Sent _ m _ => some m
  | _ => none

/-- The messages that were handed to a writer since the last connection. -/
def written (journal : List Effect) : List Message := (since journal).filterMap frame_message

/-- The first message is a Logon, no other is, and before the peer is accepted all others
    are Logouts. -/
def Begun (accepted : Bool) : List Message → Prop
  | [] => True
  | first :: rest => first.kind = some .Logon ∧ ∀ f ∈ rest, f.kind ≠ some .Logon ∧ (accepted = false → f.kind = some .Logout)

instance (accepted : Bool) (messages : List Message) : Decidable (Begun accepted messages) :=
  match messages with
  | [] => inferInstanceAs (Decidable True)
  | _ :: _ => inferInstanceAs (Decidable (_ ∧ _))

theorem Begun.snoc {accepted : Bool} {messages : List Message} {m : Message} (begun : Begun accepted messages)
    (nonempty : messages ≠ []) (other : m.kind ≠ some .Logon) (late : accepted = false → m.kind = some .Logout) :
    Begun accepted (messages ++ [m]) := by
  cases messages with
  | nil => exact absurd rfl nonempty
  | cons first rest =>
    refine ⟨begun.1,fun f member => ?_⟩
    rcases List.mem_append.mp member with before | last
    · exact begun.2 f before
    · obtain rfl := List.mem_singleton.mp last
      exact ⟨other,late⟩

theorem Begun.mono {accepted accepted' : Bool} {messages : List Message} (begun : Begun accepted messages)
    (later : accepted = true → accepted' = true) : Begun accepted' messages := by
  cases messages with
  | nil => trivial
  | cons first rest =>
    refine ⟨begun.1,fun f member => ⟨(begun.2 f member).1,fun unaccepted => (begun.2 f member).2 ?_⟩⟩
    cases accepted with
    | false => rfl
    | true =>
      rw [later rfl] at unaccepted
      cases unaccepted

/-- The messages of the last connection, and whether there was one. -/
def talk (journal : List Effect) : List Message × Bool := (written journal,journal.any connects)

theorem talk_quiet {journal entries : List Effect} (apart : ∀ entry ∈ entries, connects entry = false)
    (silent : ∀ entry ∈ entries, frame_message entry = none) : talk (journal ++ entries) = talk journal := by
  have unconnected : entries.any connects = false := by
    rw [List.any_eq_false]
    exact fun entry member => by rw [apart entry member]; simp
  unfold talk written
  rw [since_append journal apart,List.filterMap_append,List.filterMap_eq_nil_iff.mpr silent,List.append_nil,List.any_append,
    unconnected,Bool.or_false]

theorem talk_aside {journal entries : List Effect} (plain : entries.all is_aside = true) :
    talk (journal ++ entries) = talk journal := by
  refine talk_quiet (fun entry member => ?_) (fun entry member => ?_)
  · have aside := List.all_eq_true.mp plain entry member
    cases entry <;> first | rfl | cases aside
  · have aside := List.all_eq_true.mp plain entry member
    cases entry <;> first | rfl | cases aside

theorem written_sent (journal : List Effect) (writer : WriterRef) (m : Message) (raw : Bytes) :
    written (journal ++ [.Sent writer m raw]) = written journal ++ [m] := by
  unfold written
  rw [since_append journal (List.forall_mem_singleton.mpr rfl),List.filterMap_append]
  rfl

theorem talk_noted (journal : List Effect) {entry : Effect} (apart : connects entry = false) (silent : frame_message entry = none) :
    talk (journal ++ [entry]) = talk journal :=
  talk_quiet (List.forall_mem_singleton.mpr apart) (List.forall_mem_singleton.mpr silent)

theorem talk_transitioned (w : World S) (state : SessionState) : talk (transitioned w state).journal = talk w.journal := by
  unfold transitioned
  split_ifs
  · rfl
  · exact talk_noted w.journal rfl rfl

/-! ### What a connection keeps to -/

/-- A connection begins in order: once there is one its Logon was sent, and whoever is
    logged on has accepted the peer. -/
structure Orderly (accepted : Bool) (w : World S) : Prop where
  begun : Begun accepted (written w.journal)
  greeted : w.state.get_writer ≠ none ∨ w.journal.any connects = true → written w.journal ≠ []
  logged_on : w.state.is_logged_on = true → accepted = true
  sent : ∀ state, w.state = .AwaitingLogon state → state.logon_sent = true

theorem Orderly.mono {accepted accepted' : Bool} {w : World S} (orderly : Orderly accepted w)
    (later : accepted = true → accepted' = true) : Orderly accepted' w :=
  ⟨orderly.begun.mono later,orderly.greeted,fun on => later (orderly.logged_on on),orderly.sent⟩

/-- No Logon, nothing but Logouts before the peer is accepted, and no connection. -/
def decent (accepted : Bool) : Licence := { Licence.all with
  frame := fun f => f.kind ≠ some .Logon ∧ (accepted = false → f.kind = some .Logout)
  logon := accepted = true
  skip := accepted = true
  connect := False }

section
variable {accepted : Bool} {w w' : World S}

theorem Orderly.faced (orderly : Orderly accepted w) (kept : face w'.state = face w.state)
    (same : talk w'.journal = talk w.journal) : Orderly accepted w' := by
  obtain ⟨frames,dialled⟩ := Prod.mk.inj same
  refine ⟨frames ▸ orderly.begun,?_,?_,?_⟩
  · rw [← face_writer,kept,face_writer,frames,dialled]
    exact orderly.greeted
  · intro on
    refine orderly.logged_on ?_
    cases state : w.state <;> cases state' : w'.state <;> simp_all [face,SessionState.is_logged_on]
  · intro state' here
    cases state : w.state with
    | AwaitingLogon before =>
      rw [here,state] at kept
      have kept_sent : state'.logon_sent = before.logon_sent := congrArg (fun f => f.2.2) kept
      rw [kept_sent]
      exact orderly.sent before state
    | _ =>
      rw [here,state] at kept
      cases kept

theorem Orderly.quiet (orderly : Orderly accepted w) (state : w'.state = w.state) (same : talk w'.journal = talk w.journal) :
    Orderly accepted w' :=
  orderly.faced (congrArg face state) same

theorem turns_logged_on {state state' : SessionState} (turns : Turns (decent accepted) state state')
    (before : state.is_logged_on = true → accepted = true) (on : state'.is_logged_on = true) : accepted = true := by
  cases turns with
  | logon may => exact may
  | skipped may expected actual => exact may
  | complete => exact before rfl
  | gap expected actual => exact before rfl
  | connecting may writer => cases on
  | leaving current other reconnect => cases on
  | ended lasts reason => cases on
  | lifted may reason => cases on

theorem turns_awaiting {state : SessionState} {awaiting : AwaitingLogonState}
    (turns : Turns (decent accepted) state (.AwaitingLogon awaiting)) : False := by
  cases turns with
  | connecting may writer => exact may

theorem Orderly.turned {state : SessionState} (orderly : Orderly accepted w) (turns : Turns (decent accepted) w.state state) :
    Orderly accepted (transitioned w state) := by
  obtain ⟨frames,dialled⟩ := Prod.mk.inj (talk_transitioned w state)
  have now := transitioned_state w state
  refine ⟨frames ▸ orderly.begun,?_,?_,?_⟩
  · rw [now,frames,dialled]
    exact fun connected => orderly.greeted (connected.imp_left (mt (turns.disconnected id)))
  · rw [now]
    exact turns_logged_on turns orderly.logged_on
  · rw [now]
    rintro awaiting rfl
    exact (turns_awaiting turns).elim

theorem Orderly.wrote {writer : WriterRef} {m : Message} {raw : Bytes} (orderly : Orderly accepted w)
    (may : (decent accepted).frame m) (current : w.state.get_writer = some writer) :
    Orderly accepted (noted w (.Sent writer m raw)) := by
  have same : written (noted w (.Sent writer m raw)).journal = written w.journal ++ [m] := written_sent w.journal writer m raw
  have greeted : written w.journal ≠ [] := orderly.greeted (.inl (by rw [current]; simp))
  refine ⟨same ▸ orderly.begun.snoc greeted may.1 may.2,fun _ => ?_,orderly.logged_on,orderly.sent⟩
  rw [same]
  simp

theorem Orderly.deed (orderly : Orderly accepted w) (deed : Deed (decent accepted) w w') : Orderly accepted w' := by
  cases deed with
  | aside entries store kept journal plain => exact orderly.faced kept (journal ▸ talk_aside plain)
  | stored entries may kept journal plain => exact orderly.quiet kept (journal ▸ talk_aside plain)
  | wrote may current raw => exact orderly.wrote may current
  | greeted may current first raw =>
    rw [orderly.sent _ current] at first
    cases first
  | delivered may m => exact orderly.quiet rfl (talk_noted w.journal rfl rfl)
  | loggedOn may current => exact orderly.quiet rfl (talk_noted w.journal rfl rfl)
  | connected may writer => exact may.elim
  | widened may current writer =>
    refine ⟨orderly.begun,fun _ => orderly.greeted (.inl ?_),fun _ => orderly.logged_on ?_,fun state here => ?_⟩
    · rw [current]
      simp [SessionState.get_writer]
    · rw [current]
      rfl
    · cases here
  | turned turns =>
    rw [transition_final]
    exact orderly.turned turns

theorem Orderly.does (orderly : Orderly accepted w) (does : Does (decent accepted) w w') : Orderly accepted w' := by
  induction does with
  | refl => exact orderly
  | tail _ deed ih => exact ih.deed deed

end

/-! ### Before the peer is accepted -/

variable [MessageStore S]

/-- The message is a Logon that is awaited, and it passes verification or is only ahead
    of the expected number. -/
def welcomes (env : Env) (v : World S) (m : Message) : Bool :=
  v.state.is_awaiting_logon &&
    match reaction env v m with
    | .Passed _ => true
    | .Ahead _ _ => true
    | _ => false

/-- Whether a Logon of the peer has been accepted on the connection, once the input has
    been handled. -/
def accepts (env : Env) (accepted : Bool) (w : World S) : Input → Bool
  | .Event (.Connected _) => false
  | .Event (.FixMessageReceived raw) => accepted || (arrival env raw w).any (fun p => welcomes env p.1 p.2)
  | _ => accepted

/-- Whatever answers the message past the state is a Logout. -/
def polite (env : Env) (v : World S) (m : Message) : Bool :=
  match reaction env v m with
  | .Faulty (.SeqNumberTooLow _ _ _) => true
  | .Faulty (.IncorrectBeginString _) => true
  | .Faulty _ => false
  | .Passed .TestRequest => !v.state.is_connected
  | .Passed .ResendRequest => !v.state.is_connected ||
      !(request_rejected m || replies env (requested v m) false || resends env (requested v m))
  | .Passed .SequenceReset => !v.state.is_connected || !reset_rejected v m
  | _ => true

def polite_invalid (state : SessionState) (m : Message) : InvalidReason → Bool
  | .InvalidMsgType _ => m.msg_seq_num.isNone || !state.is_connected
  | _ => true

/-- What the application sends is no Logon, and a Logout where the peer is not accepted. -/
def polite_outbound (env : Env) (accepted : Bool) (w : World S) (o : OutboundMessage) : Bool :=
  match generated env o w with
  | .ok (f,_) => env.application.on_outbound_message w.journal o ≠ .Send || !writable w.state o.message_type ||
      f.kind ≠ some .Logon && (accepted || f.kind = some .Logout)
  | .error _ => true

/-- The store takes the Logon of a connection, and whatever comes before the peer is
    accepted is answered with a Logout or not at all. -/
def proper (env : Env) (accepted : Bool) (w : World S) : Input → Bool
  | .Event (.Connected _) => greets env (final (handle_schedule_check env w))
  | .Event (.FixMessageReceived raw) =>
    accepts env accepted w (.Event (.FixMessageReceived raw)) ||
      (arrival env raw w).all (fun p => polite env p.1 p.2) &&
        match env.build raw with
        | .Invalid m reason => polite_invalid (checked env w).state m reason
        | _ => true
  | .Outbound o => polite_outbound env accepted w o
  | _ => true

/-- The worlds of a run of allowed inputs, and whether the peer has been accepted. -/
inductive Tracked (env : Env) (allowed : Bool → World S → Input → Prop) (store : S) : World S → Bool → Prop where
  | start : Tracked env allowed store (World.initial store) false
  | step {w w' : World S} {accepted : Bool} {input : Input} (before : Tracked env allowed store w accepted)
    (armed : enabled w.state input = true) (fine : allowed accepted w input)
    (handled : handle_input env input w = .ok () w') : Tracked env allowed store w' (accepts env accepted w input)

section
variable {env : Env} {accepted : Bool} {v w : World S} {m f : Message}

omit [MessageStore S] in
theorem decent_logout (kind : f.kind = some .Logout) : (decent accepted).frame f := by
  refine ⟨?_,fun _ => kind⟩
  rw [kind]
  simp

omit [MessageStore S] in
theorem decent_later {k : MsgKind} (kind : f.kind = some k) (other : k ≠ .Logon) (late : accepted ≠ false) :
    (decent accepted).frame f := by
  refine ⟨?_,fun early => absurd early late⟩
  rw [kind]
  simpa using other

omit [MessageStore S] in
theorem within_decent {L : Licence} (frames : ∀ f, L.frame f → (decent accepted).frame f) (logon : L.logon → accepted = true)
    (skip : L.skip → accepted = true) (apart : ¬ L.connect) : L.Within (decent accepted) where
  store _ := trivial
  frame := frames
  deliver _ := trivial
  logon := logon
  connect may := apart may
  lift _ := trivial
  widen _ := trivial
  skip := skip

theorem fault_decent {error : MessageError} (reacts : reaction env v m = .Faulty error)
    (early : accepted = false → polite env v m = true) : (fault_licence error).Within (decent accepted) := by
  have rude (wrong : polite env v m = false) : accepted ≠ false := by
    intro unaccepted
    rw [early unaccepted] at wrong
    cases wrong
  cases error with
  | SeqNumberTooLow expected actual possible_duplicate =>
    cases possible_duplicate with
    | true => exact Licence.none_within _
    | false => exact within_decent (fun f kind => decent_logout kind) False.elim False.elim id
  | IncorrectBeginString begin_string => exact within_decent (fun f kind => decent_logout kind) False.elim False.elim id
  | IncorrectCompId comp_id comp_id_type n =>
    refine within_decent (fun f kind => ?_) False.elim False.elim id
    rcases kind with reject | logout
    · exact decent_later reject (by simp) (rude (by rw [polite,reacts]))
    · exact decent_logout logout
  | SendingTimeAccuracyIssue n =>
    exact within_decent (fun f kind => decent_later kind (by simp) (rude (by rw [polite,reacts]))) False.elim False.elim id
  | SendingTimeMissing n =>
    exact within_decent (fun f kind => decent_later kind (by simp) (rude (by rw [polite,reacts]))) False.elim False.elim id
  | OriginalSendingTimeMissing n =>
    exact within_decent (fun f kind => decent_later kind (by simp) (rude (by rw [polite,reacts]))) False.elim False.elim id
  | OriginalSendingTimeAfterSendingTime n original sent =>
    exact within_decent (fun f kind => decent_later kind (by simp) (rude (by rw [polite,reacts]))) False.elim False.elim id

theorem gap_decent {expected actual : Nat} (reacts : reaction env v m = .Ahead expected actual)
    (early : accepted = false → welcomes env v m = false ∧ v.state.is_logged_on = false) :
    (gap_licence expected actual v.state).Within (decent accepted) := by
  have on (logged_on : v.state.is_logged_on = true) : accepted ≠ false := by
    intro unaccepted
    rw [(early unaccepted).2] at logged_on
    cases logged_on
  cases state : v.state with
  | AwaitingResend awaiting =>
    have late := on (by rw [state]; rfl)
    unfold gap_licence
    dsimp only
    split_ifs
    · exact within_decent (fun f kind => decent_later kind (by simp) late) False.elim False.elim id
    · exact Licence.none_within _
  | Active active =>
    have late := on (by rw [state]; rfl)
    exact within_decent (fun f kind => decent_later kind (by simp) late) False.elim False.elim id
  | AwaitingLogon awaiting =>
    have late : accepted ≠ false := by
      intro unaccepted
      have unwelcome := (early unaccepted).1
      unfold welcomes at unwelcome
      rw [state,reacts] at unwelcome
      cases unwelcome
    exact within_decent (fun f kind => decent_later kind (by simp) late) False.elim (fun _ => by simpa using late) id
  | AwaitingLogout awaiting => exact Licence.none_within _
  | Disconnected disconnected => exact Licence.none_within _

/-- What a message finds that is taken up before the peer is accepted. -/
structure Early (env : Env) (v : World S) (m : Message) : Prop where
  unwelcome : welcomes env v m = false
  polite : polite env v m = true
  apart : v.state.is_logged_on = false

theorem handler_decent {kind : MsgKind} (reacts : reaction env v m = .Passed kind) (early : accepted = false → Early env v m) :
    (handler_licence env v m kind).Within (decent accepted) := by
  have on (logged_on : v.state.is_logged_on = true) : accepted ≠ false := by
    intro unaccepted
    rw [(early unaccepted).apart] at logged_on
    cases logged_on
  have rude (wrong : polite env v m = false) : accepted ≠ false := by
    intro unaccepted
    rw [(early unaccepted).polite] at wrong
    cases wrong
  cases kind with
  | Heartbeat => exact within_decent (fun _ => False.elim) False.elim False.elim id
  | Reject => exact within_decent (fun _ => False.elim) False.elim False.elim id
  | TestRequest =>
    unfold handler_licence
    dsimp only
    split_ifs with connected
    · have late := rude (by rw [polite,reacts]; simp [connected])
      exact within_decent (fun f kind => decent_later kind (by simp) late) False.elim False.elim id
    · exact Licence.none_within _
  | ResendRequest =>
    unfold handler_licence
    dsimp only
    split_ifs with connected
    · refine within_decent (fun f answered => ?_) False.elim False.elim id
      rcases answered with ⟨rejected,kind⟩ | ⟨replied,kind⟩ | ⟨resent,kind⟩
      · exact decent_later kind (by simp) (rude (by rw [polite,reacts]; simp [connected,rejected]))
      · exact decent_later kind (by simp) (rude (by rw [polite,reacts]; simp [connected,replied]))
      · exact decent_later kind (by simp) (rude (by rw [polite,reacts]; simp [connected,resent]))
    · exact Licence.none_within _
  | SequenceReset =>
    unfold handler_licence
    dsimp only
    split_ifs with connected
    · refine within_decent (fun f answered => ?_) False.elim False.elim id
      exact decent_later answered.2 (by simp) (rude (by rw [polite,reacts]; simp [connected,answered.1]))
    · exact Licence.none_within _
  | Logout => exact within_decent (fun f answered => decent_logout answered.2) False.elim False.elim id
  | Logon =>
    unfold handler_licence
    dsimp only
    split_ifs with awaiting
    · refine within_decent (fun _ => False.elim) (fun _ => ?_) False.elim id
      by_contra unaccepted
      have unwelcome := (early (by simpa using unaccepted)).unwelcome
      unfold welcomes at unwelcome
      rw [awaiting,reacts] at unwelcome
      cases unwelcome
    · exact Licence.none_within _
  | Application =>
    exact within_decent (fun f answered => decent_later answered.2 (by simp) (on answered.1)) False.elim False.elim id

/-- A message keeps to the order if it is welcome, or answered with a Logout. -/
theorem licence_decent (early : accepted = false → Early env v m) : (licence env v m).Within (decent accepted) := by
  unfold licence
  cases reacts : reaction env v m with
  | Faulty error => exact fault_decent reacts (fun unaccepted => (early unaccepted).polite)
  | Ahead expected actual => exact gap_decent reacts (fun unaccepted => ⟨(early unaccepted).unwelcome,(early unaccepted).apart⟩)
  | Passed kind => exact handler_decent reacts early
  | Deferred => exact Licence.none_within _
  | Refused => exact Licence.none_within _
  | Unnumbered => exact Licence.none_within _
  | Untyped => exact Licence.none_within _

omit [MessageStore S] in
theorem invalid_decent {state : SessionState} {reason : InvalidReason} (apart : accepted = false → state.is_logged_on = false)
    (polite : accepted = false → polite_invalid state m reason = true) : (invalid_licence state m reason).Within (decent accepted) := by
  have rejects {f : Message} (answered : state.is_logged_on = true ∧ f.kind = some .Reject) : (decent accepted).frame f := by
    refine decent_later answered.2 (by simp) (fun unaccepted => ?_)
    rw [apart unaccepted] at answered
    cases answered.1
  cases reason with
  | InvalidComponent text => exact Licence.none_within _
  | InvalidMsgType text =>
    unfold invalid_licence
    dsimp only
    split_ifs with answered
    · refine within_decent (fun f kind => decent_later kind (by simp) (fun unaccepted => ?_)) False.elim False.elim id
      have quiet := polite unaccepted
      rw [Bool.and_eq_true] at answered
      cases number : m.msg_seq_num <;> simp [polite_invalid,number,answered.2] at quiet answered
    · exact Licence.none_within _
  | _ =>
    unfold invalid_licence
    dsimp only
    split_ifs
    · exact within_decent (fun f answered => rejects answered) False.elim False.elim id
    · exact Licence.none_within _

theorem outbound_decent {o : OutboundMessage} (polite : polite_outbound env accepted w o = true) :
    (input_licence env w (.Outbound o)).Within (decent accepted) := by
  refine within_decent (fun f leaves => ?_) False.elim False.elim id
  obtain ⟨sends,writes,raw,frame⟩ := leaves
  unfold polite_outbound at polite
  rw [frame] at polite
  simp only [sends,writes,ne_eq,not_true_eq_false,decide_false,Bool.not_true,Bool.false_or,Bool.and_eq_true,
    decide_eq_true_eq,Bool.or_eq_true] at polite
  refine ⟨polite.1,fun unaccepted => ?_⟩
  rcases polite.2 with already | logout
  · rw [unaccepted] at already
    cases already
  · exact logout

/-- Every input but a frame and a connection keeps to the order. -/
theorem input_decent {input : Input} (orderly : Orderly accepted w) (armed : enabled w.state input = true)
    (fine : proper env accepted w input = true) (other : ∀ raw, input ≠ .Event (.FixMessageReceived raw))
    (apart : ∀ writer, input ≠ .Event (.Connected writer)) : (input_licence env w input).Within (decent accepted) := by
  have checks : check_licence.Within (decent accepted) :=
    within_decent (fun _ kind => decent_logout kind) False.elim False.elim id
  have on (logged_on : w.state.is_logged_on = true) : accepted ≠ false := by
    rw [orderly.logged_on logged_on]
    simp
  cases input with
  | Event event =>
    cases event with
    | FixMessageReceived raw => exact absurd rfl (other raw)
    | Connected writer => exact absurd rfl (apart writer)
    | _ => exact checks
  | Outbound o => exact outbound_decent fine
  | Admin request =>
    cases request with
    | InitiateGracefulShutdown reconnect => exact checks
    | SetNextTargetSeqNum seq_num nonzero => exact within_decent (fun _ => False.elim) False.elim False.elim id
    | _ => exact Licence.none_within _
  | HeartbeatTimeout =>
    have late : accepted ≠ false := by
      refine on ?_
      cases state : w.state <;> simp_all [enabled,SessionState.has_heartbeat_deadline,SessionState.is_logged_on]
    exact within_decent (fun f kind => decent_later kind (by simp) late) False.elim False.elim id
  | PeerTimeout =>
    unfold input_licence
    dsimp only
    split_ifs with waiting
    · exact Licence.none_within _
    · have late : accepted ≠ false := by
        refine on ?_
        cases state : w.state <;> simp_all [enabled,SessionState.has_peer_deadline,SessionState.is_logged_on,
          SessionState.is_awaiting_logon,SessionState.is_awaiting_logout]
      refine within_decent (fun f kind => ?_) False.elim False.elim id
      rcases kind with logout | test
      · exact decent_logout logout
      · exact decent_later test (by simp) late
  | ScheduleCheck => exact checks

theorem Orderly.checked {c : World S} (orderly : Orderly accepted w) (scheduled : handle_schedule_check env w = .ok () c) :
    Orderly accepted c := by
  have does : Leads (Does (decent accepted)) (handle_schedule_check env) w := does_check trivial (fun _ kind => decent_logout kind)
  unfold Leads at does
  rw [scheduled] at does
  exact orderly.does does

omit [MessageStore S] in
theorem Orderly.away (orderly : Orderly false w) : w.state.is_logged_on = false := by
  cases on : w.state.is_logged_on with
  | false => rfl
  | true => cases orderly.logged_on on

/-- As long as the peer is not accepted, every message that is taken up finds it so. -/
theorem taken_early {raw : Bytes} (orderly : Orderly false w)
    (unwelcome : (arrival env raw w).any (fun p => welcomes env p.1 p.2) = false)
    (mild : (arrival env raw w).all (fun p => polite env p.1 p.2) = true) :
    ∀ p ∈ taken env (.Event (.FixMessageReceived raw)) w, Early env p.1 p.2 := by
  cases arrived : arrival env raw w with
  | none => simp [taken,arrived]
  | some p =>
    obtain ⟨v,m⟩ := p
    obtain ⟨c,scheduled,rfl⟩ : ∃ c, handle_schedule_check env w = .ok () c ∧ v = noted (touched c) (.Received m) := by
      unfold arrival at arrived
      split at arrived
      · rename_i c m' scheduled built
        cases arrived
        exact ⟨c,scheduled,rfl⟩
      · cases arrived
    have here : Orderly false (noted (touched c) (.Received m)) :=
      ((orderly.checked scheduled).does (does_touched c)).quiet rfl (talk_noted _ rfl rfl)
    rw [arrived] at unwelcome mild
    have early : Early env (noted (touched c) (.Received m)) m := ⟨unwelcome,mild,here.away⟩
    simp only [taken,arrived]
    refine List.forall_mem_cons.mpr ⟨early,?_⟩
    cases processed : process_message env m (noted (touched c) (.Received m)) with
    | error e u => exact List.forall_mem_nil _
    | ok _ u =>
      -- nobody is logged on afterwards, so no range is awaited whose end releases messages
      have does := process_message_does env m (noted (touched c) (.Received m))
      rw [processed] at does
      have later : u.state.is_logged_on = false := (here.does (does.mono (licence_decent (fun _ => early)))).away
      have nothing : replayed_after env u = [] := by
        unfold replayed_after
        cases state : u.state with
        | AwaitingResend awaiting =>
          rw [state] at later
          cases later
        | _ => rfl
      dsimp only
      rw [nothing]
      exact List.forall_mem_nil _

theorem frame_decent {raw : Bytes} (orderly : Orderly accepted w)
    (fine : proper env accepted w (.Event (.FixMessageReceived raw)) = true) :
    Leads (Does (decent (accepts env accepted w (.Event (.FixMessageReceived raw)))))
      (handle_input env (.Event (.FixMessageReceived raw))) w := by
  obtain ⟨accepted',same⟩ : ∃ accepted', accepts env accepted w (.Event (.FixMessageReceived raw)) = accepted' := ⟨_,rfl⟩
  unfold proper at fine
  dsimp only at fine
  rw [same] at fine ⊢
  have early : accepted' = false → Orderly false w ∧
      (∀ p ∈ taken env (.Event (.FixMessageReceived raw)) w, Early env p.1 p.2) ∧
      ∀ m reason, env.build raw = .Invalid m reason → polite_invalid (Deeds.checked env w).state m reason = true := by
    rintro rfl
    unfold accepts at same
    rw [Bool.or_eq_false_iff] at same
    obtain ⟨rfl,unwelcome⟩ := same
    rw [Bool.false_or,Bool.and_eq_true] at fine
    refine ⟨orderly,taken_early orderly unwelcome fine.1,fun m reason built => ?_⟩
    have mild := fine.2
    rw [built] at mild
    exact mild
  refine frame_does trivial (fun _ kind => decent_logout kind) (fun p member => ?_) (fun m reason built => ?_)
    (fun _ _ _ _ _ _ => trivial)
  · exact licence_decent (fun unaccepted => (early unaccepted).2.1 p member)
  · refine invalid_decent (fun unaccepted => ?_) (fun unaccepted => (early unaccepted).2.2 m reason built)
    have does : Leads (Does (decent false)) (handle_schedule_check env) w := does_check trivial (fun _ kind => decent_logout kind)
    exact (((early unaccepted).1.does does).does (does_touched _)).away

/-- A connection begins with the Logon. -/
theorem connect_orderly {writer : WriterRef} {w' : World S} (taken : greets env (final (handle_schedule_check env w)) = true)
    (handled : handle_input env (.Event (.Connected writer)) w = .ok () w') : Orderly false w' := by
  obtain ⟨_,c,scheduled,-⟩ := bind_returned handled
  rw [scheduled] at taken
  obtain ⟨v,executed,greeted⟩ := connect_greets writer (show greets env c = true from taken)
  have same : w' = v := by
    have left : final (handle_input env (.Event (.Connected writer)) w) = _ := handle_connected scheduled
    rw [handled,executed] at left
    exact left
  subst same
  obtain ⟨entries,m,raw,frame,opening,journal⟩ := greeted.journal
  have apart : ∀ entry ∈ entries ++ [.Sent writer m raw], connects entry = false := by
    intro entry member
    rcases List.mem_append.mp member with before | last
    · rcases opening entry before with rfl | ⟨old,rfl⟩
      · rfl
      · rfl
    · obtain rfl := List.mem_singleton.mp last
      rfl
  have silent : entries.filterMap frame_message = [] := by
    rw [List.filterMap_eq_nil_iff]
    intro entry member
    rcases opening entry member with rfl | ⟨old,rfl⟩
    · rfl
    · rfl
  have alone : written w'.journal = [m] := by
    unfold written
    rw [journal,since_connected _ _ apart,List.filterMap_append,silent]
    rfl
  have kind : m.kind = some .Logon := own_kind (greeting_own env c) frame
  refine ⟨?_,fun _ => ?_,fun on => ?_,fun state here => ?_⟩
  · rw [alone]
    exact ⟨kind,List.forall_mem_nil _⟩
  · rw [alone]
    simp
  · rw [greeted.state] at on
    cases on
  · rw [greeted.state] at here
    cases here
    rfl

/-- Every input but a connection keeps to the order. -/
theorem orderly_step {input : Input} (orderly : Orderly accepted w) (armed : enabled w.state input = true)
    (fine : proper env accepted w input = true) (apart : ∀ writer, input ≠ .Event (.Connected writer)) :
    Orderly (accepts env accepted w input) (final (handle_input env input w)) := by
  have later : accepted = true → accepts env accepted w input = true := by
    rintro rfl
    unfold accepts
    split
    · exact absurd rfl (apart _)
    · rfl
    · rfl
  rcases frame_or_other input with ⟨raw,rfl⟩ | other
  · exact (orderly.mono later).does (frame_decent orderly fine)
  · have does : Does (decent accepted) w (final (handle_input env input w)) :=
      (input_does other).mono (input_decent orderly armed fine other apart)
    exact (orderly.does does).mono later

end

/-! ### Runs -/

variable {env : Env} {store : S} {accepted : Bool} {w : World S}

theorem tracked_orderly (run : Tracked env (fun accepted w input => proper env accepted w input = true) store w accepted) : Orderly accepted w := by
  induction run with
  | start =>
    refine ⟨trivial,fun connected => ?_,fun on => ?_,fun state here => ?_⟩
    · rcases connected with writer | entry
      · exact absurd rfl writer
      · cases entry
    · cases on
    · cases here
  | @step w w' accepted input before armed fine handled ih =>
    by_cases connecting : ∃ writer, input = .Event (.Connected writer)
    · obtain ⟨writer,rfl⟩ := connecting
      exact connect_orderly fine handled
    · have step := orderly_step ih armed fine (not_exists.mp connecting)
      rw [handled] at step
      exact step

/-- As long as every input is proper, the first frame of a connection is its Logon and its
    only one, and nothing but Logouts follows it until the peer is accepted; so it is
    when the schedule has been checked, and while the next input is handled. -/
theorem logon_first (run : Tracked env (fun accepted w input => proper env accepted w input = true) store w accepted) :
    Begun accepted (written w.journal) ∧ (w.journal.any connects = true → written w.journal ≠ []) ∧
      Begun accepted (written (final (handle_schedule_check env w)).journal) ∧
      ∀ input, enabled w.state input = true → proper env accepted w input = true → (∀ writer, input ≠ .Event (.Connected writer)) →
        Begun (accepts env accepted w input) (written (final (handle_input env input w)).journal) := by
  have orderly := tracked_orderly run
  have checks : Leads (Does (decent accepted)) (handle_schedule_check env) w := does_check trivial (fun _ kind => decent_logout kind)
  refine ⟨orderly.begun,fun connected => orderly.greeted (.inr connected),(orderly.does checks).begun,?_⟩
  exact fun input armed fine apart => (orderly_step orderly armed fine apart).begun

/-! ### A Logon of somebody else -/

/-- A Logon with a wrong SenderCompID. -/
def strange_logon : Message := message_from (ascii "OTHER") config.sender_comp_id Logon.MSG_TYPE 1 []

def callers : Env := valid [strange_logon]

def shutdown : Input := .Admin (.InitiateGracefulShutdown false)

def dialled : World Store := final (handle_input callers connect start)

/-- The session is shut down before the peer logs on. -/
def parted : World Store := final (handle_input callers shutdown dialled)

/-- The Logon of somebody else arrives. -/
def called : World Store := final (handle_input callers (receive strange_logon) dialled)

/-- A session that is shut down says so with a Logout. -/
theorem shutdown_first : (written parted.journal).map Message.kind = [some .Logon,some .Logout] ∧ Begun false (written parted.journal) := by
  have run : Tracked callers (fun accepted w input => proper callers accepted w input = true) (InMemoryMessageStore.new 0) parted false :=
    .step (.step .start rfl (by decide +kernel) (returned_final (by decide +kernel))) rfl rfl (returned_final (by decide +kernel))
  exact ⟨by decide +kernel,(logon_first run).1⟩

/-- The Logon of somebody else is answered with a Reject, before any peer is accepted. -/
theorem stranger_rejected : Tracked callers (fun _ _ _ => True) (InMemoryMessageStore.new 0) called false ∧
    (written called.journal).map Message.kind = [some .Logon,some .Reject,some .Logout] ∧ ¬ Begun false (written called.journal) := by
  have unaccepted : accepts callers false dialled (receive strange_logon) = false := by decide +kernel
  have run : Tracked callers (fun _ _ _ => True) (InMemoryMessageStore.new 0) called (accepts callers false dialled (receive strange_logon)) :=
    .step (.step .start rfl trivial (returned_final (by decide +kernel))) rfl trivial (returned_final (by decide +kernel))
  rw [unaccepted] at run
  exact ⟨run,by decide +kernel⟩

end HotFix.Handshake
