import HotFix.Handshake

/-!
What the application is told of a logon. It is called once where the session goes from
waiting for the logon to being logged on, and is given no message and has none written
before. A Logon in sequence leads there through the call; a Logon that is ahead leads to
a session that awaits a resend, past the call.
-/
namespace HotFix.Callbacks
open HotFix.Program HotFix.Frames HotFix.Operations HotFix.Loop HotFix.Sending HotFix.Deeds HotFix.Connections HotFix.Handshake
open MessageStore
open HotFix.Sample (valid message logon report start connect receive after reachable_after)
variable {S : Type}

/-! ### The calls of a connection -/

def calls_logon : Effect → Bool
  | .OnLogon => true
  | _ => false

/-- The session goes from waiting for the logon to being logged on. -/
def enters : Effect → Bool
  | .OnStateChange .AwaitingLogon .Active => true
  | .OnStateChange .AwaitingLogon (.AwaitingResend _ _ _) => true
  | _ => false

/-- The application is given a message, or an application message is written. -/
def speaks : Effect → Bool
  | .OnInboundMessage _ => true
  | .Sent _ m _ => m.kind = some .Application
  | _ => false

/-- Of all that was noted on a connection, the application is told of the logon once, if
    the session becomes logged on, and before anything is said. -/
structure Told (entries : List Effect) : Prop where
  balanced : entries.countP calls_logon = entries.countP enters
  once : entries.countP enters ≤ 1
  first : ∀ front entry, front ++ [entry] <+: entries → speaks entry = true → front.any calls_logon = true

/-- The application was told of a logon since the last connection. -/
def heard (journal : List Effect) : Bool := (since journal).any calls_logon

/-- An entry that is no call and no entry, and speaks only if that is allowed. -/
structure Plain (may : Bool) (entry : Effect) : Prop where
  uncalled : calls_logon entry = false
  outside : enters entry = false
  late : speaks entry = true → may = true

theorem Plain.quiet {may : Bool} {entry : Effect} (uncalled : calls_logon entry = false) (outside : enters entry = false)
    (silent : speaks entry = false) : Plain may entry := by
  refine ⟨uncalled,outside,fun speaking => ?_⟩
  rw [silent] at speaking
  cases speaking

theorem Plain.aside {may : Bool} {entry : Effect} (plain : is_aside entry = true) : Plain may entry := by
  cases entry <;> first | exact .quiet rfl rfl rfl | cases plain

theorem Told.nil : Told [] := ⟨rfl,Nat.zero_le 1,fun front entry begins => by simp at begins⟩

theorem first_snoc {entries : List Effect} {entry : Effect}
    (first : ∀ front e, front ++ [e] <+: entries → speaks e = true → front.any calls_logon = true)
    (late : speaks entry = true → entries.any calls_logon = true) :
    ∀ front e, front ++ [e] <+: entries ++ [entry] → speaks e = true → front.any calls_logon = true := by
  intro front e begins speaking
  rcases List.prefix_concat_iff.mp begins with whole | before
  · obtain ⟨rfl,same⟩ := List.append_inj' whole rfl
    obtain rfl := List.singleton_inj.mp same
    exact late speaking
  · exact first front e before speaking

theorem Told.snoc {entries : List Effect} {entry : Effect} (told : Told entries) (plain : Plain (entries.any calls_logon) entry) :
    Told (entries ++ [entry]) := by
  refine ⟨?_,?_,first_snoc told.first plain.late⟩
  · simp [List.countP_append,plain.uncalled,plain.outside,told.balanced]
  · simpa [List.countP_append,plain.outside] using told.once

/-- The session becomes logged on, and the application is told. -/
theorem Told.logon {entries : List Effect} (told : Told entries) (unheard : entries.any calls_logon = false) :
    Told (entries ++ [.OnLogon,.TargetIncremented,.OnStateChange .AwaitingLogon .Active]) := by
  have none : entries.countP calls_logon = 0 := by
    rw [List.countP_eq_zero]
    simpa using unheard
  have outside : entries.countP enters = 0 := told.balanced ▸ none
  refine ⟨?_,?_,?_⟩
  · rw [List.countP_append,List.countP_append,none,outside]
    rfl
  · rw [List.countP_append,outside]
    exact Nat.le_refl 1
  · have called := first_snoc told.first (show speaks .OnLogon = true → _ from by simp [speaks])
    have counted := first_snoc called (show speaks .TargetIncremented = true → _ from by simp [speaks])
    have changed := first_snoc counted (show speaks (.OnStateChange .AwaitingLogon .Active) = true → _ from by simp [speaks])
    simpa using changed

theorem Told.append {entries more : List Effect} (told : Told entries) (plain : ∀ entry ∈ more, Plain (entries.any calls_logon) entry) :
    Told (entries ++ more) ∧ (entries ++ more).any calls_logon = entries.any calls_logon := by
  induction more using List.reverseRecOn with
  | nil => simpa using told
  | append_singleton front entry ih =>
    obtain ⟨before,same⟩ := ih (fun e member => plain e (by simp [member]))
    have last := plain entry (by simp)
    rw [← List.append_assoc]
    refine ⟨before.snoc (same ▸ last),?_⟩
    rw [List.any_append,same]
    simp [last.uncalled]

/-! ### What a session keeps to -/

/-- The application is told in time: whoever is logged on has told it, and whoever waits
    for the logon has not. -/
structure Timely (may : Bool) (w : World S) : Prop where
  told : Told (since w.journal)
  heard : heard w.journal = may
  logged_on : w.state.is_logged_on = true → may = true
  awaiting : w.state.is_awaiting_logon = true → may = false

/-- No logon and no connection, and the application is left out unless it was told. -/
def discreet (may : Bool) : Licence := { Licence.all with
  frame := fun f => f.kind = some .Application → may = true
  deliver := may = true
  logon := False
  skip := False
  connect := False }

section
variable {may : Bool} {w w' : World S}

theorem Timely.after {entries : List Effect} (timely : Timely may w) (journal : w'.journal = w.journal ++ entries)
    (apart : ∀ entry ∈ entries, connects entry = false) (plain : ∀ entry ∈ entries, Plain may entry)
    (logged_on : w'.state.is_logged_on = true → w.state.is_logged_on = true)
    (awaiting : w'.state.is_awaiting_logon = true → w.state.is_awaiting_logon = true) : Timely may w' := by
  have now : since w'.journal = since w.journal ++ entries := by rw [journal,since_append w.journal apart]
  have known : (since w.journal).any calls_logon = may := timely.heard
  obtain ⟨told,same⟩ := timely.told.append (show ∀ entry ∈ entries, Plain _ entry from known.symm ▸ plain)
  refine ⟨now ▸ told,?_,fun on => timely.logged_on (logged_on on),fun on => timely.awaiting (awaiting on)⟩
  unfold Callbacks.heard
  rw [now,same]
  exact known

theorem Timely.noted {entry : Effect} (timely : Timely may w) (apart : connects entry = false) (plain : Plain may entry) :
    Timely may (noted w entry) :=
  timely.after rfl (List.forall_mem_singleton.mpr apart) (List.forall_mem_singleton.mpr plain) id id

theorem Timely.aside {entries : List Effect} (timely : Timely may w) (journal : w'.journal = w.journal ++ entries)
    (plain : entries.all is_aside = true) (kept : face w'.state = face w.state) : Timely may w' := by
  refine timely.after journal (fun entry member => ?_) (fun entry member => .aside (List.all_eq_true.mp plain entry member))
    (fun on => ?_) (fun on => ?_)
  · have aside := List.all_eq_true.mp plain entry member
    cases entry <;> first | rfl | cases aside
  · cases before : w.state <;> cases after : w'.state <;> simp_all [face,SessionState.is_logged_on]
  · cases before : w.state <;> cases after : w'.state <;> simp_all [face,SessionState.is_awaiting_logon]

theorem turns_entered {state state' : SessionState} (turns : Turns (discreet may) state state') :
    enters (.OnStateChange state.as_status state'.as_status) = false ∧
      (state'.is_logged_on = true → state.is_logged_on = true) ∧ state'.is_awaiting_logon = false := by
  cases turns with
  | logon may => exact may.elim
  | skipped may expected actual => exact may.elim
  | connecting may writer => exact may.elim
  | complete => exact ⟨rfl,fun _ => rfl,rfl⟩
  | gap expected actual => exact ⟨rfl,fun _ => rfl,rfl⟩
  | leaving current other reconnect =>
    refine ⟨?_,fun on => ?_,rfl⟩
    · cases state <;> rfl
    · cases on
  | ended lasts reason =>
    refine ⟨?_,fun on => ?_,rfl⟩
    · cases state <;> rfl
    · cases on
  | lifted may reason =>
    refine ⟨?_,fun on => ?_,rfl⟩
    · cases state <;> rfl
    · cases on

theorem Timely.turned {state : SessionState} (timely : Timely may w) (turns : Turns (discreet may) w.state state) :
    Timely may (transitioned w state) := by
  obtain ⟨outside,logged_on,elsewhere⟩ := turns_entered turns
  have awaiting : state.is_awaiting_logon = true → w.state.is_awaiting_logon = true := by
    rw [elsewhere]
    simp
  unfold transitioned
  split_ifs
  · exact timely.after (List.append_nil _).symm (List.forall_mem_nil _) (List.forall_mem_nil _) logged_on awaiting
  · exact timely.after rfl (List.forall_mem_singleton.mpr rfl) (List.forall_mem_singleton.mpr (.quiet rfl outside rfl))
      logged_on awaiting

theorem Timely.deed (timely : Timely may w) (deed : Deed (discreet may) w w') : Timely may w' := by
  have frame {writer : WriterRef} {m : Message} {raw : Bytes} (allowed : (discreet may).frame m) :
      Plain may (.Sent writer m raw) := ⟨rfl,rfl,fun speaking => allowed (by simpa [speaks] using speaking)⟩
  cases deed with
  | aside entries store kept journal plain => exact timely.aside journal plain kept
  | stored entries allowed kept journal plain => exact timely.aside journal plain (congrArg face kept)
  | wrote allowed current raw => exact timely.noted rfl (frame allowed)
  | greeted allowed current first raw =>
    refine timely.after rfl (List.forall_mem_singleton.mpr rfl) (List.forall_mem_singleton.mpr (frame allowed)) (fun on => ?_) (fun _ => ?_)
    · cases on
    · rw [current]
      rfl
  | delivered allowed m => exact timely.noted rfl ⟨rfl,rfl,fun _ => allowed⟩
  | loggedOn allowed current => exact allowed.elim
  | connected allowed writer => exact allowed.elim
  | widened allowed current writer =>
    refine timely.after (List.append_nil _).symm (List.forall_mem_nil _) (List.forall_mem_nil _) (fun _ => ?_) (fun on => ?_)
    · rw [current]
      rfl
    · cases on
  | turned turns =>
    rw [transition_final]
    exact timely.turned turns

theorem Timely.does (timely : Timely may w) (does : Does (discreet may) w w') : Timely may w' := by
  induction does with
  | refl => exact timely
  | tail _ deed ih => exact ih.deed deed

end

/-! ### Fair inputs -/

variable [MessageStore S]

/-- The message is a Logon that is awaited and passes verification. -/
def logs_on (env : Env) (v : World S) (m : Message) : Bool := v.state.is_awaiting_logon && reaction env v m = .Passed .Logon

/-- The message leads past no call: it is no awaited Logon that is ahead, and the
    application is given no message, and has none resent, unless it was told. -/
def fair (env : Env) (v : World S) (m : Message) : Bool :=
  match reaction env v m with
  | .Ahead _ _ => !v.state.is_awaiting_logon
  | .Passed .Application => heard v.journal
  | .Passed .ResendRequest => heard v.journal || !v.state.is_connected || !resends env (requested v m)
  | _ => true

/-- A Logon that is accepted can be counted, every other message is fair, and the
    application sends nothing that leaves while the logon is awaited. -/
def fair_input (env : Env) (w : World S) : Input → Bool
  | .Event (.FixMessageReceived raw) =>
    (arrival env raw w).all (fun p =>
      if logs_on env p.1 p.2 then decide ((increment_target_seq_number p.1.store).1 = .ok ()) else fair env p.1 p.2)
  | .Outbound o => !(w.state.is_awaiting_logon && writable w.state o.message_type) ||
      env.application.on_outbound_message w.journal o ≠ .Send
  | _ => true

section
variable {env : Env} {may : Bool} {v w : World S} {m f : Message}

omit [MessageStore S] in
theorem within_discreet {L : Licence} (frames : ∀ f : Message, L.frame f → f.kind = some .Application → may = true)
    (deliver : L.deliver → may = true) (logon : ¬ L.logon) (skip : ¬ L.skip) (apart : ¬ L.connect) : L.Within (discreet may) where
  store _ := trivial
  frame := frames
  deliver := deliver
  logon allowed := logon allowed
  connect allowed := apart allowed
  lift _ := trivial
  widen _ := trivial
  skip allowed := skip allowed

omit [MessageStore S] in
/-- A frame of another kind needs no call. -/
theorem other_kind {k : MsgKind} (kind : f.kind = some k) (other : k ≠ .Application) (application : f.kind = some .Application) :
    may = true := by
  rw [kind] at application
  exact absurd (Option.some.inj application) other

theorem fault_discreet (error : MessageError) : (fault_licence error).Within (discreet may) := by
  have rejects : ({ Licence.none with store := True, frame := fun f => f.kind = some .Reject } : Licence).Within (discreet may) :=
    within_discreet (fun f kind => other_kind kind (by simp)) False.elim id id id
  cases error with
  | SeqNumberTooLow expected actual possible_duplicate =>
    cases possible_duplicate with
    | true => exact Licence.none_within _
    | false => exact within_discreet (fun f kind => other_kind kind (by simp)) False.elim id id id
  | IncorrectBeginString begin_string => exact within_discreet (fun f kind => other_kind kind (by simp)) False.elim id id id
  | IncorrectCompId comp_id comp_id_type n =>
    refine within_discreet (fun f kind => ?_) False.elim id id id
    rcases kind with reject | logout
    · exact other_kind reject (by simp)
    · exact other_kind logout (by simp)
  | _ => exact rejects

theorem gap_discreet {expected actual : Nat} {state : SessionState} (past : state.is_awaiting_logon = false) :
    (gap_licence expected actual state).Within (discreet may) := by
  cases state with
  | AwaitingResend awaiting =>
    unfold gap_licence
    dsimp only
    split_ifs
    · exact within_discreet (fun f kind => other_kind kind (by simp)) False.elim id id id
    · exact Licence.none_within _
  | Active active => exact within_discreet (fun f kind => other_kind kind (by simp)) False.elim id id id
  | AwaitingLogon logon => cases past
  | AwaitingLogout logout => exact Licence.none_within _
  | Disconnected disconnected => exact Licence.none_within _

theorem licence_discreet (timely : Timely may v) (other : logs_on env v m = false) (fine : fair env v m = true) :
    (licence env v m).Within (discreet may) := by
  have known := timely.heard
  unfold licence
  cases reacts : reaction env v m with
  | Faulty error => exact fault_discreet error
  | Ahead expected actual =>
    refine gap_discreet ?_
    rw [fair,reacts] at fine
    simpa using fine
  | Passed kind =>
    unfold logs_on at other
    rw [reacts] at other
    rw [fair,reacts,known] at fine
    cases kind with
    | Heartbeat => exact within_discreet (fun _ => False.elim) False.elim id id id
    | Reject => exact within_discreet (fun _ => False.elim) False.elim id id id
    | TestRequest =>
      unfold handler_licence
      dsimp only
      split_ifs
      · exact within_discreet (fun f kind => other_kind kind (by simp)) False.elim id id id
      · exact Licence.none_within _
    | ResendRequest =>
      unfold handler_licence
      dsimp only
      split_ifs with connected
      · refine within_discreet (fun f answered => ?_) False.elim id id id
        rcases answered with ⟨_,kind⟩ | ⟨_,kind⟩ | ⟨resent,_⟩
        · exact other_kind kind (by simp)
        · exact other_kind kind (by simp)
        · exact fun _ => by simpa [connected,resent] using fine
      · exact Licence.none_within _
    | SequenceReset =>
      unfold handler_licence
      dsimp only
      split_ifs
      · exact within_discreet (fun f answered => other_kind answered.2 (by simp)) False.elim id id id
      · exact Licence.none_within _
    | Logout => exact within_discreet (fun f answered => other_kind answered.2 (by simp)) False.elim id id id
    | Logon =>
      unfold handler_licence
      dsimp only
      split_ifs with awaiting
      · rw [awaiting] at other
        cases other
      · exact Licence.none_within _
    | Application => exact within_discreet (fun f answered _ => timely.logged_on answered.1) (fun _ => fine) id id id
  | Deferred => exact Licence.none_within _
  | Refused => exact Licence.none_within _
  | Unnumbered => exact Licence.none_within _
  | Untyped => exact Licence.none_within _

/-- Once the application was told, everything is fair. -/
theorem later_fair (timely : Timely true v) : logs_on env v m = false ∧ fair env v m = true := by
  have past : v.state.is_awaiting_logon = false := by
    cases waits : v.state.is_awaiting_logon with
    | false => rfl
    | true => cases timely.awaiting waits
  have known := timely.heard
  refine ⟨by simp [logs_on,past],?_⟩
  unfold fair
  split
  · rw [past]
    rfl
  · exact known
  · rw [known]
    rfl
  · rfl

theorem invalid_discreet (state : SessionState) (m : Message) (reason : InvalidReason) :
    (invalid_licence state m reason).Within (discreet may) := by
  cases reason with
  | InvalidComponent text => exact Licence.none_within _
  | InvalidMsgType text =>
    unfold invalid_licence
    dsimp only
    split_ifs
    · exact within_discreet (fun f kind => other_kind kind (by simp)) False.elim id id id
    · exact Licence.none_within _
  | _ =>
    unfold invalid_licence
    dsimp only
    split_ifs
    · exact within_discreet (fun f answered => other_kind answered.2 (by simp)) False.elim id id id
    · exact Licence.none_within _

omit [MessageStore S] in
theorem writable_open {state : SessionState} {message_type : Bytes} (writes : writable state message_type = true) :
    state.is_logged_on = true ∨ state.is_awaiting_logon = true := by
  cases state with
  | AwaitingLogout logout => cases writes
  | Disconnected disconnected => cases writes
  | Active active => exact .inl rfl
  | AwaitingResend awaiting => exact .inl rfl
  | AwaitingLogon logon => exact .inr rfl

/-- What the application sends leaves only if it was told. -/
theorem outbound_heard {o : OutboundMessage} (timely : Timely may w) (fine : fair_input env w (.Outbound o) = true)
    (leaves : (input_licence env w (.Outbound o)).frame f) : may = true := by
  obtain ⟨sends,writes,-⟩ := leaves
  rcases writable_open writes with on | waits
  · exact timely.logged_on on
  · rw [fair_input,waits,writes,sends] at fine
    simp at fine

/-- Every input but a frame and a connection leaves the application out unless it was
    told. -/
theorem input_discreet {input : Input} (timely : Timely may w) (fine : fair_input env w input = true)
    (other : ∀ raw, input ≠ .Event (.FixMessageReceived raw)) (apart : ∀ writer, input ≠ .Event (.Connected writer)) :
    (input_licence env w input).Within (discreet may) := by
  have checks : check_licence.Within (discreet may) :=
    within_discreet (fun f kind => other_kind kind (by simp)) False.elim id id id
  cases input with
  | Event event =>
    cases event with
    | FixMessageReceived raw => exact absurd rfl (other raw)
    | Connected writer => exact absurd rfl (apart writer)
    | _ => exact checks
  | Outbound o => exact within_discreet (fun f leaves _ => outbound_heard timely fine leaves) False.elim id id id
  | Admin request =>
    cases request with
    | InitiateGracefulShutdown reconnect => exact checks
    | SetNextTargetSeqNum seq_num nonzero => exact within_discreet (fun _ => False.elim) False.elim id id id
    | _ => exact Licence.none_within _
  | HeartbeatTimeout => exact within_discreet (fun f kind => other_kind kind (by simp)) False.elim id id id
  | PeerTimeout =>
    unfold input_licence
    dsimp only
    split_ifs
    · exact Licence.none_within _
    · refine within_discreet (fun f kind => ?_) False.elim id id id
      rcases kind with logout | test
      · exact other_kind logout (by simp)
      · exact other_kind test (by simp)
  | ScheduleCheck => exact checks

theorem Timely.checked (timely : Timely may w) : Timely may (final (handle_schedule_check env w)) := by
  have does : Leads (Does (discreet may)) (handle_schedule_check env) w :=
    does_check trivial (fun f kind => other_kind kind (by simp))
  exact timely.does does

/-! ### Frames -/

theorem replayed_timely {backlog : List Message} : ∀ {w : World S}, Timely true w → ∀ p ∈ replayed env backlog w, Timely true p.1 := by
  induction backlog with
  | nil => exact fun _ => List.forall_mem_nil _
  | cons m rest ih =>
    intro w timely
    refine List.forall_mem_cons.mpr ⟨timely,?_⟩
    obtain ⟨other,fine⟩ : logs_on env w m = false ∧ fair env w m = true := later_fair timely
    have does : Leads (Does (discreet true)) (replay_message env m) w :=
      replay_message_does trivial (licence_discreet timely other fine)
    cases replayed : replay_message env m w with
    | error e u => exact List.forall_mem_nil _
    | ok _ u =>
      unfold Leads at does
      rw [replayed] at does
      exact ih (timely.does does)

/-- Messages are released only once the application was told. -/
theorem released_timely (timely : Timely may w) : ∀ p ∈ replayed_after env w, Timely true p.1 := by
  unfold replayed_after
  cases state : w.state with
  | AwaitingResend awaiting =>
    dsimp only
    obtain rfl : may = true := timely.logged_on (by rw [state]; rfl)
    unfold try_complete
    split_ifs
    · refine replayed_timely ?_
      rw [transition_final]
      refine timely.turned ?_
      rw [state]
      exact .complete
    · exact List.forall_mem_nil _
  | _ => exact List.forall_mem_nil _

/-- Every message that is taken up with a fair one is done with discretion. -/
theorem taken_discreet {raw : Bytes} {m : Message} (timely : Timely may v) (arrived : arrival env raw w = some (v,m))
    (other : logs_on env v m = false) (fine : fair env v m = true) :
    ∀ p ∈ taken env (.Event (.FixMessageReceived raw)) w, (licence env p.1 p.2).Within (discreet may) := by
  have first := licence_discreet timely other fine
  simp only [taken,arrived]
  refine List.forall_mem_cons.mpr ⟨first,?_⟩
  cases processed : process_message env m v with
  | error e u => exact List.forall_mem_nil _
  | ok _ u =>
    have does := process_message_does env m v
    rw [processed] at does
    have later : Timely may u := timely.does (does.mono first)
    intro p member
    have told := released_timely later p member
    -- the application was told before the frame arrived, for the frame is no Logon
    obtain rfl : may = true := by
      refine later.logged_on ?_
      cases state : u.state with
      | AwaitingResend awaiting => rfl
      | _ => simp [replayed_after,state] at member
    obtain ⟨other,fine⟩ : logs_on env p.1 p.2 = false ∧ fair env p.1 p.2 = true := later_fair told
    exact licence_discreet told other fine

theorem arrival_timely {raw : Bytes} {m : Message} (timely : Timely may w) (arrived : arrival env raw w = some (v,m)) :
    ∃ c, handle_schedule_check env w = .ok () c ∧ env.build raw = .Valid m ∧ v = noted (touched c) (.Received m) ∧ Timely may v := by
  unfold arrival at arrived
  split at arrived
  · rename_i c m' scheduled built
    cases arrived
    have here : Timely may c := by
      have later : Timely may (final (handle_schedule_check env w)) := timely.checked
      rw [scheduled] at later
      exact later
    exact ⟨c,scheduled,built,rfl,(here.does (does_touched c)).noted rfl (.aside rfl)⟩
  · cases arrived

/-- The accepted Logon tells the application and makes the session logged on. -/
theorem on_logon_timely (timely : Timely may v) (waits : v.state.is_awaiting_logon = true)
    (counts : (increment_target_seq_number v.store).1 = .ok ()) :
    ∃ w', on_logon (ticked v v.store) = .ok () w' ∧ Timely true w' ∧ ∃ state, w'.state = .Active state := by
  obtain rfl := timely.awaiting waits
  cases state : v.state with
  | AwaitingLogon logon =>
    rcases counted : increment_target_seq_number v.store with ⟨r,s⟩
    rw [counted] at counts
    obtain rfl : r = .ok () := counts
    obtain ⟨u,same⟩ : ∃ u : World S, u = { ticked v s with journal := v.journal ++ [.OnLogon] ++ [.TargetIncremented] } := ⟨_,rfl⟩
    have count : increment_target (noted (ticked v v.store) .OnLogon) = .ok (.ok ()) u := by
      unfold increment_target
      rw [store_operation_eq,show (noted (ticked v v.store) .OnLogon).store = v.store from rfl,counted,same]
      rfl
    have called : on_logon (ticked v v.store) = .ok () (transitioned u (.new_active logon.writer)) := by
      unfold on_logon
      rw [get_bind,show (ticked v v.store).state = _ from state]
      dsimp only
      rw [bind_ok (show note .OnLogon (ticked v v.store) = .ok () (noted (ticked v v.store) .OnLogon) from rfl),bind_ok count]
      exact transition_eq u _
    have waiting : u.state = .AwaitingLogon logon := by
      rw [same]
      exact state
    have journal : since (transitioned u (.new_active logon.writer)).journal =
        since v.journal ++ [.OnLogon,.TargetIncremented,.OnStateChange .AwaitingLogon .Active] := by
      have changed : (transitioned u (.new_active logon.writer)).journal =
          v.journal ++ [.OnLogon,.TargetIncremented,.OnStateChange .AwaitingLogon .Active] := by
        unfold transitioned
        rw [waiting,if_neg (by simp [SessionState.as_status,SessionState.new_active]),same]
        simp [noted,SessionState.as_status,SessionState.new_active]
      rw [changed,since_append v.journal (by simp [connects])]
    refine ⟨_,called,⟨?_,?_,fun _ => rfl,fun waits => ?_⟩,_,transitioned_state _ _⟩
    · rw [journal]
      exact timely.told.logon timely.heard
    · unfold heard
      rw [journal]
      simp [calls_logon]
    · rw [transitioned_state] at waits
      cases waits
  | _ =>
    rw [state] at waits
    cases waits

/-- The frame of an accepted Logon is handled. -/
theorem logon_step {raw : Bytes} {m : Message} (timely : Timely may w) (arrived : arrival env raw w = some (v,m))
    (accepted : logs_on env v m = true) (counts : (increment_target_seq_number v.store).1 = .ok ()) :
    Timely true (final (handle_input env (.Event (.FixMessageReceived raw)) w)) := by
  obtain ⟨c,scheduled,built,same,here⟩ := arrival_timely timely arrived
  unfold logs_on at accepted
  rw [Bool.and_eq_true,decide_eq_true_eq] at accepted
  obtain ⟨waits,reacts⟩ := accepted
  obtain ⟨w',called,told,active,state⟩ := on_logon_timely here waits counts
  have connected : v.state.is_connected = true := by
    cases current : v.state <;> simp_all [SessionState.is_awaiting_logon,SessionState.is_connected,SessionState.get_writer]
  have processed : process_message env m v = .ok () w' := by
    rw [process_message_reacts,reacts,react,if_pos connected]
    exact called
  have ended : check_end_of_resend env w' = .ok () w' := by
    unfold check_end_of_resend
    rw [get_bind,state]
    rfl
  have received : on_incoming env raw c = .ok () w' := by
    rw [on_incoming_eq,built]
    dsimp only
    rw [← same,bind_ok processed]
    exact ended
  rw [handle_frame scheduled received]
  exact told

/-- Every fair input but a connection tells the application in time. -/
theorem timely_step {input : Input} (timely : Timely may w) (fine : fair_input env w input = true)
    (apart : ∀ writer, input ≠ .Event (.Connected writer)) : ∃ may', Timely may' (final (handle_input env input w)) := by
  rcases frame_or_other input with ⟨raw,rfl⟩ | other
  · have framed (granted : ∀ p ∈ taken env (.Event (.FixMessageReceived raw)) w, (licence env p.1 p.2).Within (discreet may)) :
        Timely may (final (handle_input env (.Event (.FixMessageReceived raw)) w)) :=
      timely.does (frame_does trivial (fun f kind => other_kind kind (by simp)) granted (fun m reason _ => invalid_discreet _ m reason)
        (fun _ _ _ _ _ _ => trivial))
    cases arrived : arrival env raw w with
    | none => exact ⟨may,framed (by simp [taken,arrived])⟩
    | some p =>
      obtain ⟨v,m⟩ := p
      rw [fair_input,arrived] at fine
      dsimp only [Option.all] at fine
      split_ifs at fine with accepted
      · exact ⟨true,logon_step timely arrived accepted (by simpa using fine)⟩
      · obtain ⟨_,_,_,_,here⟩ := arrival_timely timely arrived
        exact ⟨may,framed (taken_discreet here arrived (by simpa using accepted) fine)⟩
  · have does : Does (discreet may) w (final (handle_input env input w)) :=
      (input_does other).mono (input_discreet timely fine other apart)
    exact ⟨may,timely.does does⟩

omit [MessageStore S] in
/-- Nothing is said on a connection before the session waits for its logon. -/
theorem dialled_timely (w : World S) (writer : WriterRef) :
    Timely false (transitioned (noted w (.Connected writer)) (.AwaitingLogon ⟨writer,false⟩)) := by
  obtain ⟨changes,journal,changed⟩ := transitioned_entries (noted w (.Connected writer)) (.AwaitingLogon ⟨writer,false⟩)
  have plain : ∀ entry ∈ changes, Plain false entry := by
    intro entry member
    obtain ⟨old,rfl⟩ := changed entry member
    exact .quiet rfl (by cases old <;> rfl) rfl
  have apart : ∀ entry ∈ changes, connects entry = false := by
    intro entry member
    obtain ⟨old,rfl⟩ := changed entry member
    rfl
  have since_then : since (transitioned (noted w (.Connected writer)) (.AwaitingLogon ⟨writer,false⟩)).journal = [] ++ changes := by
    rw [journal]
    exact since_connected w.journal writer apart
  obtain ⟨told,unheard⟩ := Told.nil.append (show ∀ entry ∈ changes, Plain _ entry from plain)
  refine ⟨since_then ▸ told,?_,fun on => ?_,fun _ => rfl⟩
  · unfold heard
    rw [since_then]
    exact unheard
  · rw [transitioned_state] at on
    cases on

theorem connect_timely {writer : WriterRef} {w' : World S} (handled : handle_input env (.Event (.Connected writer)) w = .ok () w') :
    Timely false w' := by
  obtain ⟨_,c,scheduled,-⟩ := bind_returned handled
  have left : final (handle_input env (.Event (.Connected writer)) w) = _ := handle_connected scheduled
  rw [handled] at left
  obtain ⟨u,same⟩ : ∃ u, u = transitioned (noted c (.Connected writer)) (.AwaitingLogon ⟨writer,false⟩) := ⟨_,rfl⟩
  have dialled : Timely false u := same ▸ dialled_timely c writer
  rw [show w' = final (on_connect env writer c) from left]
  unfold on_connect
  rw [bind_ok (show note (.Connected writer) c = .ok () (noted c (.Connected writer)) from rfl),bind_ok (transition_eq _ _),← same]
  refine dialled.does (does_works (works_update rfl (face_reset_peer_timer _ _) rfl) (fun _ _ _ _ => ?_))
  exact (works_send_logon trivial (fun f kind => other_kind kind (by simp))).1

end

/-! ### Runs -/

omit [MessageStore S] in
/-- Nothing is written where no frame may be. -/
theorem written_deed {L : Licence} {w w' : World S} (mute : ∀ f, ¬ L.frame f) (apart : ¬ L.connect) (deed : Deed L w w') :
    Handshake.written w'.journal = Handshake.written w.journal := by
  cases deed with
  | aside entries store kept journal plain => exact congrArg Prod.fst (journal ▸ talk_aside plain)
  | stored entries allowed kept journal plain => exact congrArg Prod.fst (journal ▸ talk_aside plain)
  | wrote allowed current raw => exact absurd allowed (mute _)
  | greeted allowed current first raw => exact absurd allowed (mute _)
  | delivered allowed m => exact congrArg Prod.fst (talk_noted w.journal rfl rfl)
  | loggedOn allowed current => exact congrArg Prod.fst (talk_noted w.journal rfl rfl)
  | connected allowed writer => exact absurd allowed apart
  | widened allowed current writer => rfl
  | turned turns =>
    rw [transition_final]
    exact congrArg Prod.fst (talk_transitioned w _)

omit [MessageStore S] in
theorem written_does {L : Licence} {w w' : World S} (mute : ∀ f, ¬ L.frame f) (apart : ¬ L.connect) (does : Does L w w') :
    Handshake.written w'.journal = Handshake.written w.journal := by
  induction does with
  | refl => rfl
  | tail _ deed ih => exact (written_deed mute apart deed).trans ih

variable {env : Env} {store : S} {w : World S}

theorem reachable_timely (reached : Reachable env (fun w input => fair_input env w input = true) (World.initial store) w) :
    ∃ may, Timely may w := by
  induction reached with
  | start =>
    refine ⟨false,Told.nil,rfl,fun on => ?_,fun _ => rfl⟩
    cases on
  | @step w w' input before armed fine handled ih =>
    obtain ⟨may,timely⟩ := ih
    by_cases connecting : ∃ writer, input = .Event (.Connected writer)
    · obtain ⟨writer,rfl⟩ := connecting
      exact ⟨false,connect_timely handled⟩
    · obtain ⟨may',step⟩ := timely_step timely fine (not_exists.mp connecting)
      rw [handled] at step
      exact ⟨may',step⟩

/-- As long as every input is fair, the application is told of the logon once, where the
    session becomes logged on, and before it is given a message or one of its messages is
    written; so it is when the schedule has been checked, and while the next input is
    handled. -/
theorem logon_told (reached : Reachable env (fun w input => fair_input env w input = true) (World.initial store) w) :
    Told (since w.journal) ∧ (w.state.is_logged_on = true → heard w.journal = true) ∧
      Told (since (final (handle_schedule_check env w)).journal) ∧
      (∀ input, fair_input env w input = true → (∀ writer, input ≠ .Event (.Connected writer)) →
        Told (since (final (handle_input env input w)).journal)) ∧
      ∀ o, fair_input env w (.Outbound o) = true → heard w.journal = false →
        Handshake.written (final (handle_input env (.Outbound o) w)).journal = Handshake.written w.journal := by
  obtain ⟨may,timely⟩ := reachable_timely reached
  refine ⟨timely.told,fun on => timely.heard.trans (timely.logged_on on),timely.checked.told,fun input fine apart => ?_,
    fun o fine unheard => ?_⟩
  · obtain ⟨_,step⟩ := timely_step timely fine apart
    exact step.told
  · have untold : may = false := timely.heard.symm.trans unheard
    have mute (f : Message) : ¬ (input_licence env w (.Outbound o)).frame f := by
      intro leaves
      rw [outbound_heard timely fine leaves] at untold
      cases untold
    exact written_does mute id (input_does (by simp))

/-! ### A Logon that is ahead -/

def late_logon : Message := message Logon.MSG_TYPE 2 []

def peers : Env := valid [logon,late_logon,report 2]

/-- A Logon in sequence, and then a report. -/
theorem report_told : Told (since (after peers [connect,receive logon,receive (report 2)]).journal) ∧
    heard (after peers [connect,receive logon,receive (report 2)]).journal = true ∧
    (since (after peers [connect,receive logon,receive (report 2)]).journal).any speaks = true := by
  have reached : Reachable peers (fun w input => fair_input peers w input = true) start
      (after peers [connect,receive logon,receive (report 2)]) := reachable_after (by decide +kernel)
  exact ⟨(logon_told reached).1,by decide +kernel⟩

/-- A Logon that is ahead: the session is logged on, and the application is not told. -/
theorem late_logon_untold :
    Reachable peers (fun _ _ => True) start (after peers [connect,receive late_logon]) ∧
      (after peers [connect,receive late_logon]).state.is_logged_on = true ∧
      heard (after peers [connect,receive late_logon]).journal = false ∧
      ¬ Told (since (after peers [connect,receive late_logon]).journal) := by
  have run : (after peers [connect,receive late_logon]).state.is_logged_on = true ∧
      heard (after peers [connect,receive late_logon]).journal = false ∧
      (since (after peers [connect,receive late_logon]).journal).countP calls_logon ≠
        (since (after peers [connect,receive late_logon]).journal).countP enters := by decide +kernel
  exact ⟨reachable_after (by decide +kernel),run.1,run.2.1,fun told => run.2.2 told.balanced⟩

end HotFix.Callbacks
