import HotFix.Connections
import HotFix.Decisions
import HotFix.Parallel

/-!
What the session does about a connection and about the queries of the initiator. It has
a writer only from the event that brings one until it hears of the disconnect, or
earlier. It keeps the responder of one query about the schedule, and answers it or drops
nothing: while it is disconnected and left alone by the transport, the responder stays
until it is answered.
-/
namespace HotFix.Queries
open HotFix.Program HotFix.Loop HotFix.Deeds HotFix.Decisions HotFix.Operations HotFix.Sending HotFix.Parallel MessageStore
open HotFix.Connections (handle_connected transitioned_entries)
variable {S : Type}

/-! ### The journal grows, the writer stays -/

/-- Everything may be done but to connect. -/
def unconnecting : Licence := { Licence.all with connect := False }

theorem within_unconnecting {L : Licence} (never : ¬ L.connect) : L.Within unconnecting where
  store _ := trivial
  frame _ _ := trivial
  deliver _ := trivial
  logon _ := trivial
  connect may := never may
  lift _ := trivial
  widen _ := trivial
  skip _ := trivial

theorem within_all (L : Licence) : L.Within Licence.all :=
  ⟨fun _ => trivial,fun _ _ => trivial,fun _ => trivial,fun _ => trivial,fun _ => trivial,fun _ => trivial,fun _ => trivial,
    fun _ => trivial⟩

theorem deed_grows {L : Licence} {w w' : World S} (deed : Deed L w w') : w.journal <+: w'.journal := by
  have noted (entry : Effect) : w.journal <+: (noted w entry).journal := List.prefix_append _ _
  cases deed with
  | aside entries store kept journal plain => exact ⟨entries,journal.symm⟩
  | stored entries may kept journal plain => exact ⟨entries,journal.symm⟩
  | wrote may current raw => exact noted _
  | greeted may current first raw => exact noted _
  | delivered may m => exact noted _
  | loggedOn may current => exact noted _
  | connected may writer => exact noted _
  | widened may current writer => exact List.prefix_rfl
  | turned turns =>
    rw [transition_final]
    unfold transitioned
    split_ifs
    · exact List.prefix_rfl
    · exact List.prefix_append _ _

theorem does_grows {L : Licence} {w w' : World S} (does : Does L w w') : w.journal <+: w'.journal := by
  induction does with
  | refl => exact List.prefix_rfl
  | tail _ deed ih => exact ih.trans (deed_grows deed)

/-- A writer comes only with a connection. -/
def Loses (state state' : SessionState) : Prop := state'.get_writer = none ∨ state'.get_writer = state.get_writer

theorem turns_loses {L : Licence} {state state' : SessionState} (never : ¬ L.connect) (turns : Turns L state state') :
    Loses state state' := by
  cases turns with
  | connecting may writer => exact absurd may never
  | logon may => exact .inr rfl
  | complete => exact .inr rfl
  | gap expected actual => exact .inr rfl
  | skipped may expected actual => exact .inr rfl
  | leaving current other reconnect => exact .inr current.symm
  | ended lasts reason => exact .inl rfl
  | lifted may reason => exact .inl rfl

theorem deed_loses {L : Licence} {w w' : World S} (never : ¬ L.connect) (deed : Deed L w w') : Loses w.state w'.state := by
  cases deed with
  | aside entries store kept journal plain => exact .inr (by rw [← face_writer,kept,face_writer])
  | stored entries may kept journal plain => exact .inr (by rw [kept])
  | wrote may current raw => exact .inr rfl
  | greeted may current first raw => exact .inr (by rw [current]; rfl)
  | delivered may m => exact .inr rfl
  | loggedOn may current => exact .inr rfl
  | connected may writer => exact absurd may never
  | widened may current writer => exact .inr (by rw [current]; exact congrArg some writer)
  | turned turns =>
    rw [transition_final,transitioned_state]
    exact turns_loses never turns

theorem does_loses {L : Licence} {w w' : World S} (never : ¬ L.connect) (does : Does L w w') : Loses w.state w'.state := by
  induction does with
  | refl => exact .inr rfl
  | tail _ deed ih =>
    rcases deed_loses never deed with gone | same
    · exact .inl gone
    · rw [Loses,same]
      exact ih

/-! ### Frames go to the writer -/

/-- The writers to which frames are handed. -/
def addressee : Effect → Option WriterRef
  | .Sent writer _ _ => some writer
  | _ => none

theorem addressee_aside {entries : List Effect} (plain : entries.all is_aside = true) : entries.filterMap addressee = [] := by
  refine List.filterMap_eq_nil_iff.mpr (fun entry member => ?_)
  have := List.all_eq_true.mp plain entry member
  cases entry with
  | Sent writer m raw => cases this
  | _ => rfl

/-- The entries that are added hand frames to the writer of the state only. -/
def Speaks (w w' : World S) : Prop := ∃ entries, w'.journal = w.journal ++ entries ∧
  ∀ writer ∈ entries.filterMap addressee, w.state.get_writer = some writer

theorem speaks_silent {w w' : World S} {entries : List Effect} (journal : w'.journal = w.journal ++ entries)
    (silent : entries.filterMap addressee = []) : Speaks w w' :=
  ⟨entries,journal,by simp [silent]⟩

theorem deed_speaks {L : Licence} {w w' : World S} (deed : Deed L w w') : Speaks w w' := by
  have sent {writer : WriterRef} {m : Message} {raw : Bytes} (current : w.state.get_writer = some writer) {u : World S}
      (journal : u.journal = w.journal ++ [.Sent writer m raw]) : Speaks w u := by
    refine ⟨_,journal,fun other member => ?_⟩
    obtain rfl : other = writer := by simpa [addressee] using member
    exact current
  cases deed with
  | aside entries store kept journal plain => exact speaks_silent journal (addressee_aside plain)
  | stored entries may kept journal plain => exact speaks_silent journal (addressee_aside plain)
  | wrote may current raw => exact sent current rfl
  | greeted may current first raw => exact sent (by rw [current]; rfl) rfl
  | delivered may m => exact speaks_silent rfl rfl
  | loggedOn may current => exact speaks_silent rfl rfl
  | connected may writer => exact speaks_silent rfl rfl
  | widened may current writer => exact speaks_silent (List.append_nil _).symm rfl
  | turned turns =>
    rw [transition_final]
    unfold transitioned
    split_ifs
    · exact speaks_silent (List.append_nil _).symm rfl
    · exact speaks_silent rfl rfl

theorem does_speaks {L : Licence} {w w' : World S} (never : ¬ L.connect) (does : Does L w w') : Speaks w w' := by
  induction does with
  | refl => exact speaks_silent (List.append_nil _).symm rfl
  | tail before deed ih =>
    obtain ⟨entries,journal,speaks⟩ := ih
    obtain ⟨more,journal',speaks'⟩ := deed_speaks deed
    refine ⟨entries ++ more,by rw [journal',journal,List.append_assoc],fun writer member => ?_⟩
    rw [List.filterMap_append,List.mem_append] at member
    rcases member with early | late
    · exact speaks writer early
    · rcases does_loses never before with gone | same
      · rw [gone] at speaks'
        cases speaks' writer late
      · rw [← same]
        exact speaks' writer late

variable [MessageStore S] {env : Env} {w w' : World S}

theorem input_unconnecting (env : Env) (w : World S) {input : Input} (other : ∀ writer, input ≠ .Event (.Connected writer)) :
    Leads (Does unconnecting) (handle_input env input) w := by
  have firm_inside : firm.Within unconnecting := within_unconnecting id
  rcases frame_or_other input with ⟨raw,rfl⟩ | unframed
  · exact frame_does trivial (fun _ _ => trivial) (fun p _ => within_unconnecting (licence_apart env _ _))
      (fun m reason _ => within_unconnecting (fun may => (invalid_firm _ m reason).connect may)) (fun _ _ _ _ _ _ => trivial)
  · exact ((input_does unframed).mono (input_firm other)).mono firm_inside

theorem handle_does (input : Input) : Leads (Does Licence.all) (handle_input env input) w := by
  by_cases connects : ∃ writer, input = .Event (.Connected writer)
  · obtain ⟨writer,rfl⟩ := connects
    exact (input_does (fun _ same => by cases same)).mono (within_all _)
  · exact (input_unconnecting env w (not_exists.mp connects)).mono (within_all _)

/-- However an input is handled, the journal is only added to. -/
theorem handle_grows (env : Env) (input : Input) (w : World S) : w.journal <+: (final (handle_input env input w)).journal :=
  does_grows (handle_does input)

theorem handle_loses {input : Input} (other : ∀ writer, input ≠ .Event (.Connected writer)) :
    Loses w.state (final (handle_input env input w)).state :=
  does_loses id (input_unconnecting env w other)

theorem check_loses : Loses w.state (final (handle_schedule_check env w)).state :=
  does_loses (L := unconnecting) id (does_check trivial (fun _ _ => trivial))

/-- What a connection does once it has begun. -/
theorem connected_does (env : Env) (c : World S) (writer : WriterRef) : Does unconnecting
    (transitioned (noted c (.Connected writer)) (.AwaitingLogon ⟨writer,false⟩)) (final (on_connect env writer c)) := by
  unfold on_connect
  rw [bind_ok (show note (.Connected writer) c = .ok () (noted c (.Connected writer)) from rfl),bind_ok (transition_eq _ _)]
  exact does_works (works_update rfl (face_reset_peer_timer _ _) rfl) (fun _ _ _ _ => (works_send_logon trivial (fun _ _ => trivial)).1)

/-- However an input is handled, the writer is the one that was there, or one that the input
    brings, or none is left. -/
theorem handle_writer (env : Env) (input : Input) (w : World S) : Loses w.state (final (handle_input env input w)).state ∨
    ∃ writer, input = .Event (.Connected writer) ∧ (final (handle_input env input w)).state.get_writer = some writer := by
  by_cases connects : ∃ writer, input = .Event (.Connected writer)
  · obtain ⟨writer,rfl⟩ := connects
    rcases scheduled : handle_schedule_check env w with ⟨_,c⟩ | ⟨e,c⟩
    · have loses := does_loses (L := unconnecting) id (connected_does env c writer)
      rw [Loses,transitioned_state] at loses
      rw [handle_connected scheduled]
      exact loses.imp .inl (fun same => ⟨writer,rfl,same⟩)
    · have checks : Loses w.state (final (handle_schedule_check env w)).state := check_loses
      have stopped : handle_input env (.Event (.Connected writer)) w = .error e c := by
        change (handle_schedule_check env >>= fun _ => _) w = _
        simp only [bind,EStateM.bind,scheduled]
      rw [scheduled] at checks
      rw [stopped]
      exact .inl checks
  · exact .inl (handle_loses (not_exists.mp connects))

/-- While an input is handled, frames go to the writer that was there or that it brings. -/
theorem handle_speaks (input : Input) : ∃ entries, (final (handle_input env input w)).journal = w.journal ++ entries ∧
    ∀ writer ∈ entries.filterMap addressee, w.state.get_writer = some writer ∨ input = .Event (.Connected writer) := by
  by_cases connects : ∃ writer, input = .Event (.Connected writer)
  · obtain ⟨writer,rfl⟩ := connects
    have checks : Does unconnecting w (final (handle_schedule_check env w)) := does_check trivial (fun _ _ => trivial)
    obtain ⟨entries,journal,speaks⟩ := does_speaks id checks
    rcases scheduled : handle_schedule_check env w with ⟨_,c⟩ | ⟨e,c⟩
    · rw [scheduled] at journal
      obtain ⟨more,journal',speaks'⟩ := does_speaks id (connected_does env c writer)
      rw [transitioned_state] at speaks'
      obtain ⟨changes,first,changed⟩ := transitioned_entries (noted c (.Connected writer)) (.AwaitingLogon ⟨writer,false⟩)
      have silent : ([Effect.Connected writer] ++ changes).filterMap addressee = [] := by
        refine List.filterMap_eq_nil_iff.mpr (fun entry member => ?_)
        rcases List.mem_append.mp member with here | later
        · rw [List.mem_singleton.mp here]
          rfl
        · obtain ⟨old,rfl⟩ := changed entry later
          rfl
      refine ⟨entries ++ ([.Connected writer] ++ changes) ++ more,?_,fun other member => ?_⟩
      · rw [handle_connected scheduled,journal',first]
        change (c.journal ++ [.Connected writer]) ++ changes ++ more = _
        rw [show c.journal = w.journal ++ entries from journal]
        simp only [List.append_assoc]
      · rw [List.filterMap_append,List.filterMap_append,silent,List.append_nil,List.mem_append] at member
        rcases member with early | late
        · exact .inl (speaks other early)
        · cases speaks' other late
          exact .inr rfl
    · rw [scheduled] at journal
      refine ⟨entries,?_,fun other member => .inl (speaks other member)⟩
      rw [← journal]
      change (final ((handle_schedule_check env >>= fun _ => _) w)).journal = _
      simp only [bind,EStateM.bind,scheduled]
  · obtain ⟨entries,journal,speaks⟩ := does_speaks id (input_unconnecting env w (not_exists.mp connects))
    exact ⟨entries,journal,fun writer member => .inl (speaks writer member)⟩

/-- After a disconnect there is no writer. -/
theorem disconnected_writer {reason : Bytes} (handled : handle_input env (.Event (.Disconnected reason)) w = .ok () w') :
    w'.state.get_writer = none := by
  obtain ⟨_,c,scheduled,followed⟩ := bind_returned handled
  obtain ⟨_,u,-,turned⟩ := bind_returned followed
  rw [get_bind] at turned
  have left := congrArg final turned
  have turns (reconnect : Bool) (leaves : u.state.on_disconnect reason = .TransitionTo (.new_disconnected reconnect reason)) :
      w'.state.get_writer = none := by
    rw [leaves,transition_final] at left
    rw [show w' = transitioned u _ from left.symm,transitioned_state]
    rfl
  cases state : u.state with
  | Disconnected disconnected =>
    rw [state] at turned
    cases turned
    rw [state]
    rfl
  | AwaitingLogout logout => exact turns logout.reconnect (by rw [state]; rfl)
  | AwaitingLogon logon => exact turns true (by rw [state]; rfl)
  | AwaitingResend awaiting => exact turns true (by rw [state]; rfl)
  | Active active => exact turns true (by rw [state]; rfl)

/-! ### Answers -/

/-- The answers to the queries of the initiator, in their order. -/
def answers (journal : List Effect) : List Effect := journal.filter is_answer

omit [MessageStore S] in
theorem answers_append (journal entries : List Effect) : answers (journal ++ entries) = answers journal ++ answers entries :=
  List.filter_append _ _

/-- No responder is kept, and these answers have been given. -/
def Calm (given : List Effect) (w : World S) : Prop := w.state.awaiter = none ∧ answers w.journal = given

section
variable {given : List Effect}

theorem keeps_talk_prepare (env : Env) (o : OutboundMessage) :
    Keeps (fun w => (w.state,w.journal)) (prepare_message (S := S) env o) := by
  intro w
  rcases frame : generated env o w with text | ⟨message,raw⟩
  · rw [prepare_message_panics frame]
    rfl
  · rw [prepare_message_eq frame]
    rcases increment_sender_seq_number w.store with ⟨e | _,s⟩
    · rfl
    · dsimp only
      rcases add (next_sender w) raw s with ⟨e | _,s'⟩
      · rfl
      · rfl

omit [MessageStore S] in
theorem answers_silent {entries : List Effect} (silent : entries.any is_answer = false) : answers entries = [] := by
  rw [List.any_eq_false] at silent
  exact List.filter_eq_nil_iff.mpr silent

omit [MessageStore S] in
theorem answers_store (operation : S → Except StoreError Unit × S) {effects : List Effect} (silent : effects.any is_answer = false)
    (w : World S) : answers (final (store_operation operation effects w)).journal = answers w.journal := by
  rw [store_operation_eq]
  rcases operation w.store with ⟨e | _,s⟩
  · rfl
  · exact (answers_append _ _).trans (by rw [answers_silent silent,List.append_nil])

omit [MessageStore S] in
theorem calm_store (operation : S → Except StoreError Unit × S) {effects : List Effect} (silent : effects.any is_answer = false)
    (calm : Calm given w) : Calm given (final (store_operation operation effects w)) :=
  ⟨(keeps_state_store operation effects w).symm ▸ calm.1,(answers_store operation silent w).trans calm.2⟩

theorem answers_target (n : Nat) (w : World S) : (final (set_target n w)).state = w.state ∧
    answers (final (set_target n w)).journal = answers w.journal :=
  ⟨keeps_state_store _ _ w,answers_store _ rfl w⟩

/-- What is kept by a session is a comparison of the session with itself. -/
theorem par_self {α : Type} {P : World S → Prop} {x : SessionM S α} (kept : ∀ w, P w → P (final (x w))) :
    Par (fun _ => False) (fun v w => w = v ∧ P v) any x x := by
  refine fun v w _ => ⟨False.elim,?_⟩
  rintro ⟨rfl,here⟩
  have there := kept w here
  refine .inr ?_
  rcases result : x w with ⟨a,w'⟩ | ⟨e,w'⟩
  · rw [result] at there
    exact .returned trivial ⟨rfl,there⟩
  · rw [result] at there
    exact .stopped ⟨rfl,there⟩

omit [MessageStore S] in
theorem alike_self [MessageStore S] (w : World S) : Alike w w := ⟨rfl,rfl,rfl,rfl,rfl,rfl,rfl⟩

theorem kept_of_par {α : Type} {P : World S → Prop} {V : α → Prop} {x : SessionM S α}
    (par : Par (fun _ => False) (fun v w => w = v ∧ P v) V x x) (here : P w) : P (final (x w)) := by
  have ends := ((par w w (alike_self w)).2 ⟨rfl,here⟩).resolve_left (fun lost => by
    cases result : x w with
    | ok a w' => rw [result] at lost; exact lost.2
    | error e w' => rw [result] at lost; exact lost)
  generalize x w = r at ends
  cases ends with
  | returned fine related => exact related.2
  | stopped related => exact related.2

/-- Where no responder is kept, none comes and no answer is given, but by a query. -/
theorem calm_simulates (env : Env) (given : List Effect) :
    Simulates env (fun _ : World S => False) (fun v w => w = v ∧ Calm given v) where
  alike v w related := related.1 ▸ alike_self v
  full v lost := lost.elim
  lasts v v' lost _ := lost
  changed v v' w w' related changed := by
    obtain ⟨rfl,calm⟩ := related
    obtain ⟨store,beside,state,reset,clock,journal,awaiter,entries,added,silent⟩ := changed
    have same : w' = v' := by
      obtain ⟨s,st,r,c,j⟩ := v'
      obtain ⟨s',st',r',c',j'⟩ := w'
      cases store
      cases beside
      cases state
      cases reset
      cases clock
      cases journal
      rfl
    refine ⟨same,awaiter.elim id (fun kept => kept ▸ calm.1),?_⟩
    rw [added,answers_append,answers_silent silent,List.append_nil,calm.2]
  counted := par_self (fun _ => calm_store _ rfl)
  jumped n := par_self (fun _ => calm_store _ rfl)
  restarted := par_self (fun w calm => calm_store (w := ticked w w.store) _ rfl calm)
  prepared o := par_self (fun w calm => by
    have kept := keeps_talk_prepare env o w
    rw [Prod.mk.injEq] at kept
    exact ⟨kept.1 ▸ calm.1,kept.2 ▸ calm.2⟩)
  sliced v w related first last := by rw [related.1]
  notified := par_self (fun w calm => by
    unfold notify_schedule_awaiter
    rw [get_bind]
    cases state : w.state with
    | Disconnected disconnected =>
      have none_kept : disconnected.schedule_awaiter = none := by
        have := calm.1
        rwa [state] at this
      dsimp only
      rw [none_kept]
      exact calm
    | _ => exact calm)

theorem calm_input {input : Input} (other : queries input = false) (calm : Calm given w) :
    Calm given (final (handle_input env input w)) :=
  kept_of_par ((calm_simulates env given).handle_input other) calm

theorem calm_check (env : Env) (calm : Calm given w) : Calm given (final (handle_schedule_check env w)) :=
  kept_of_par ((calm_simulates env given).handle_schedule_check) calm

/-! ### Queries -/

omit [MessageStore S] in
theorem awaiter_writer {state : SessionState} {responder : Responder} (kept : state.awaiter = some responder) :
    ∃ disconnected : DisconnectedState, state = .Disconnected disconnected ∧ disconnected.schedule_awaiter = some responder := by
  cases state with
  | Disconnected disconnected => exact ⟨disconnected,rfl,kept⟩
  | _ => cases kept

/-- Whether to reconnect is answered at once, in the state that the check of the schedule
    leaves. -/
theorem reconnect_answered (handled : handle_input env (.Event .ShouldReconnect) w = .ok () w') :
    ∃ c, handle_schedule_check env w = .ok () c ∧ w' = noted c (.ReconnectAnswer c.state.should_reconnect) := by
  obtain ⟨_,c,scheduled,answered⟩ := bind_returned handled
  cases answered
  exact ⟨c,scheduled,rfl⟩

theorem calm_reconnect (calm : Calm given w) (handled : handle_input env (.Event .ShouldReconnect) w = .ok () w') :
    ∃ answer, Calm (given ++ [.ReconnectAnswer answer]) w' := by
  obtain ⟨c,scheduled,rfl⟩ := reconnect_answered handled
  have checked := calm_check env calm
  rw [scheduled] at checked
  refine ⟨c.state.should_reconnect,checked.1,?_⟩
  change answers (c.journal ++ _) = _
  rw [answers_append,show answers c.journal = given from checked.2]
  rfl

/-- The session keeps the responder, and these answers have been given. -/
def Waits (given : List Effect) (responder : Responder) (w : World S) : Prop :=
  w.state.awaiter = some responder ∧ answers w.journal = given

/-- A query about the schedule waits in a session without a writer, and tells the initiator
    to shut down where there is one. -/
theorem calm_await {responder : Responder} (calm : Calm given w)
    (handled : handle_input env (.Event (.AwaitSchedule responder)) w = .ok () w') :
    Waits given responder w' ∨
      Calm (given ++ [.ScheduleAnswer responder .Shutdown]) w' ∧ ∃ writer, w'.state.get_writer = some writer := by
  obtain ⟨_,c,scheduled,registered⟩ := bind_returned handled
  have checked := calm_check env calm
  rw [scheduled] at checked
  have shut : answers (c.journal ++ [.ScheduleAnswer responder .Shutdown]) = given ++ [.ScheduleAnswer responder .Shutdown] := by
    rw [answers_append,show answers c.journal = given from checked.2]
    rfl
  change register_schedule_awaiter responder c = .ok () w' at registered
  unfold register_schedule_awaiter at registered
  rw [get_bind] at registered
  have none_kept : c.state.awaiter = none := checked.1
  cases state : c.state with
  | Disconnected disconnected =>
    rw [state] at registered none_kept
    have empty : ¬ disconnected.schedule_awaiter.isSome := by
      rw [show disconnected.schedule_awaiter = none from none_kept]
      simp
    dsimp only at registered
    rw [if_neg empty] at registered
    cases registered
    exact .inl ⟨rfl,checked.2⟩
  | AwaitingLogon logon =>
    rw [state] at registered
    cases registered
    exact .inr ⟨⟨none_kept,shut⟩,logon.writer,by change c.state.get_writer = _; rw [state]; rfl⟩
  | AwaitingResend awaiting =>
    rw [state] at registered
    cases registered
    exact .inr ⟨⟨none_kept,shut⟩,awaiting.writer,by change c.state.get_writer = _; rw [state]; rfl⟩
  | AwaitingLogout logout =>
    rw [state] at registered
    cases registered
    exact .inr ⟨⟨none_kept,shut⟩,logout.writer,by change c.state.get_writer = _; rw [state]; rfl⟩
  | Active active =>
    rw [state] at registered
    cases registered
    exact .inr ⟨⟨none_kept,shut⟩,active.writer,by change c.state.get_writer = _; rw [state]; rfl⟩

/-- A check at a time in the schedule answers the responder. -/
theorem answered_check {responder : Responder} (waits : Waits given responder w)
    (active : env.is_active_at (env.utc_now w.clock_readings) = true) :
    Calm (given ++ [.ScheduleAnswer responder .InSchedule]) (final (handle_schedule_check env w)) := by
  obtain ⟨disconnected,state,kept⟩ := awaiter_writer waits.1
  unfold handle_schedule_check
  rw [bind_ok (show utc_now env w = .ok (env.utc_now w.clock_readings) (ticked w w.store) from rfl),if_pos active]
  obtain ⟨u,notified,calm⟩ : ∃ u, notify_schedule_awaiter (ticked w w.store) = .ok () u ∧
      Calm (given ++ [.ScheduleAnswer responder .InSchedule]) u := by
    refine ⟨noted { ticked w w.store with state := .Disconnected { disconnected with schedule_awaiter := none } }
      (.ScheduleAnswer responder .InSchedule),?_,rfl,?_⟩
    · unfold notify_schedule_awaiter
      rw [get_bind,show (ticked w w.store).state = .Disconnected disconnected from state]
      dsimp only
      rw [kept]
      rfl
    · change answers (w.journal ++ _) = _
      rw [answers_append,waits.2]
      rfl
  rw [bind_ok notified]
  -- what follows finds no responder
  have sim := calm_simulates (S := S) env (given ++ [.ScheduleAnswer responder .InSchedule])
  refine kept_of_par (V := any) (Simulates.bind_get (fun v w alike => ?_)) calm
  rw [alike.created]
  split
  · exact Simulates.returns trivial
  · exact sim.restart_period _
  · exact sim.restart_period _
  · exact sim.logout_and_terminate _

/-- A check of the schedule leaves the responder or answers it. -/
theorem waits_check {responder : Responder} (waits : Waits given responder w) :
    Waits given responder (final (handle_schedule_check env w)) ∨
      Calm (given ++ [.ScheduleAnswer responder .InSchedule]) (final (handle_schedule_check env w)) := by
  by_cases active : env.is_active_at (env.utc_now w.clock_readings) = true
  · exact .inr (answered_check waits active)
  · obtain ⟨disconnected,state,-⟩ := awaiter_writer waits.1
    unfold handle_schedule_check
    rw [bind_ok (show utc_now env w = .ok (env.utc_now w.clock_readings) (ticked w w.store) from rfl),if_neg active,get_bind]
    have apart : ¬ (ticked w w.store).state.is_connected = true := by
      rw [show (ticked w w.store).state = .Disconnected disconnected from state]
      simp [SessionState.is_connected,SessionState.get_writer]
    rw [if_neg apart]
    exact .inl waits

/-- While the transport leaves it alone, the session leaves the responder or answers it. -/
theorem waits_input {responder : Responder} {input : Input} (waits : Waits given responder w)
    (armed : enabled w.state input = true) (inner : ∀ event, input ≠ .Event event) :
    Waits given responder (final (handle_input env input w)) ∨
      Calm (given ++ [.ScheduleAnswer responder .InSchedule]) (final (handle_input env input w)) := by
  obtain ⟨disconnected,state,kept⟩ := awaiter_writer waits.1
  cases input with
  | Event event => exact absurd rfl (inner event)
  | ScheduleCheck => exact waits_check waits
  | HeartbeatTimeout =>
    rw [state] at armed
    cases armed
  | PeerTimeout =>
    rw [state] at armed
    cases armed
  | Outbound o =>
    have apart : ¬ w.state.is_connected = true := by
      rw [state]
      simp [SessionState.is_connected,SessionState.get_writer]
    unfold handle_input handle_outbound_message send_app_message
    simp only [bind_assoc]
    rw [get_bind,if_neg apart]
    exact .inl waits
  | Admin request =>
    refine .inl ?_
    cases request with
    | InitiateGracefulShutdown reconnect =>
      unfold handle_input handle_admin_request log_out_gracefully catch_error initiate_graceful_logout
      simp only [bind_assoc]
      rw [get_bind,state]
      exact waits
    | RequestSessionInfo =>
      refine ⟨waits.1,?_⟩
      change answers (w.journal ++ [_]) = _
      rw [answers_append,waits.2]
      exact List.append_nil _
    | ResetSequenceNumbersOnNextLogon => exact waits
    | SetNextTargetSeqNum seq_num nonzero =>
      change Waits given responder (final (try_set_next_target_seq_num seq_num w))
      unfold try_set_next_target_seq_num
      rw [get_bind,state]
      dsimp only
      obtain ⟨kept_state,same⟩ := answers_target (seq_num - 1) w
      rcases moved : set_target (seq_num - 1) w with ⟨r,u⟩ | ⟨e,u⟩
      · rw [moved] at kept_state same
        rw [bind_ok moved]
        exact ⟨(congrArg SessionState.awaiter kept_state).trans waits.1,same.trans waits.2⟩
      · rw [moved] at kept_state same
        simp only [bind,EStateM.bind,moved]
        exact ⟨(congrArg SessionState.awaiter kept_state).trans waits.1,same.trans waits.2⟩

end

end HotFix.Queries
