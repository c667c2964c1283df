import HotFix.Errors

/-!
How long a decision not to reconnect lasts. It is part of the states `AwaitingLogout`
and `Disconnected`, and whatever leads from one of them to `Disconnected` passes it on,
except two answers to messages that fail verification and the end of a session whose
handling of a frame stopped with an error.
-/
namespace HotFix.Decisions
open HotFix.Program HotFix.Operations HotFix.Loop HotFix.Deeds HotFix.Errors
open HotFix.Sample (valid message_from config logon message start connect receive after reachable_after)
variable {S : Type} [MessageStore S] {env : Env}

/-! ### Keeping the decision -/

section
variable {L : Licence} {w w' : World S}

omit [MessageStore S] in
theorem settled_face {state state' : SessionState} (same : face state = face state') : settled state = settled state' := by
  cases state <;> cases state' <;> simp_all [face,settled]

omit [MessageStore S] in
theorem settled_turns {state state' : SessionState} (apart : ¬ L.connect) (firm : ¬ L.lift) (decided : settled state = true)
    (turns : Turns L state state') : settled state' = true := by
  cases turns with
  | connecting may writer => exact absurd may apart
  | logon may => cases decided
  | complete => cases decided
  | gap expected actual => cases decided
  | skipped may expected actual => cases decided
  | leaving current other reconnect =>
    cases state with
    | AwaitingLogout logout => cases other
    | Disconnected disconnected => cases current
    | _ => cases decided
  | ended lasts reason =>
    rw [lasts decided]
    rfl
  | lifted may reason => exact absurd may firm

omit [MessageStore S] in
theorem settled_deed (apart : ¬ L.connect) (firm : ¬ L.lift) (decided : settled w.state = true) (deed : Deed L w w') :
    settled w'.state = true := by
  cases deed with
  | aside entries store kept journal plain => exact (settled_face kept).trans decided
  | stored entries may kept journal plain =>
    rw [kept]
    exact decided
  | wrote may current raw => exact decided
  | greeted may current first raw =>
    rw [current] at decided
    cases decided
  | delivered may m => exact decided
  | loggedOn may current => exact decided
  | connected may writer => exact decided
  | widened may current writer =>
    rw [current] at decided
    cases decided
  | turned turns =>
    rw [transition_final,transitioned_state]
    exact settled_turns apart firm decided turns

omit [MessageStore S] in
theorem settled_does (apart : ¬ L.connect) (firm : ¬ L.lift) (decided : settled w.state = true) (does : Does L w w') :
    settled w'.state = true := by
  induction does with
  | refl => exact decided
  | tail _ deed ih => exact settled_deed apart firm ih deed

end

/-- Everything may be done but to connect and to lift a decision. -/
def firm : Licence := { Licence.all with connect := False, lift := False }

theorem within_firm {L : Licence} (apart : ¬ L.connect) (kept : ¬ L.lift) : L.Within firm where
  store _ := trivial
  frame _ _ := trivial
  deliver _ := trivial
  logon _ := trivial
  connect may := apart may
  lift may := kept may
  widen _ := trivial
  skip _ := trivial

theorem licence_apart (env : Env) (v : World S) (m : Message) : ¬ (licence env v m).connect := by
  intro may
  unfold licence at may
  cases reacts : reaction env v m with
  | Faulty error =>
    rw [reacts] at may
    cases error with
    | SeqNumberTooLow expected actual possible_duplicate => cases possible_duplicate <;> cases may
    | _ => cases may
  | Ahead expected actual =>
    rw [reacts] at may
    cases state : v.state <;> simp only [state,gap_licence] at may <;> (try split_ifs at may) <;> cases may
  | Passed kind =>
    rw [reacts] at may
    cases kind <;> simp only [handler_licence] at may <;> (try split_ifs at may) <;> cases may
  | _ =>
    rw [reacts] at may
    cases may

/-- In a session that has decided, the message fails verification by its BeginString or
    a CompID, or its handling stops with an error. -/
def lifts (env : Env) (v : World S) (m : Message) : Bool :=
  match reaction env v m with
  | .Faulty (.IncorrectBeginString _) => true
  | .Faulty (.IncorrectCompId _ _ _) => true
  | _ => fails env v m

theorem licence_lifts {v : World S} {m : Message} (may : (licence env v m).lift) : lifts env v m = true := by
  unfold licence at may
  unfold lifts
  cases reacts : reaction env v m with
  | Faulty error =>
    rw [reacts] at may
    cases error with
    | IncorrectBeginString begin_string => rfl
    | IncorrectCompId comp_id comp_id_type n => rfl
    | SeqNumberTooLow expected actual possible_duplicate => cases possible_duplicate <;> cases may
    | _ => cases may
  | Ahead expected actual =>
    rw [reacts] at may
    cases state : v.state <;> simp only [state,gap_licence] at may <;> (try split_ifs at may) <;> cases may
  | Passed kind =>
    rw [reacts] at may
    cases kind <;> simp only [handler_licence] at may <;> (try split_ifs at may) <;> cases may
  | _ =>
    rw [reacts] at may
    cases may

theorem fails_lifts {v : World S} {m : Message} (failed : fails env v m = true) : lifts env v m = true := by
  unfold lifts
  split
  · rfl
  · rfl
  · exact failed

theorem invalid_firm (state : SessionState) (m : Message) (reason : InvalidReason) : (invalid_licence state m reason).Within firm := by
  cases reason <;> simp only [invalid_licence] <;> (try split_ifs) <;> exact within_firm id id

theorem input_firm {w : World S} {input : Input} (other : ∀ writer, input ≠ .Event (.Connected writer)) :
    (input_licence env w input).Within firm := by
  cases input with
  | Event event =>
    cases event with
    | Connected writer => exact absurd rfl (other writer)
    | _ => exact within_firm id id
  | Admin request => cases request <;> exact within_firm id id
  | PeerTimeout =>
    unfold input_licence
    split_ifs
    · exact within_firm id id
    · exact within_firm id id
  | _ => exact within_firm id id

/-- The input is no connection, and nothing that is taken up while it is handled lifts
    the decision. -/
def lasting (env : Env) (w : World S) : Input → Bool
  | .Event (.Connected _) => false
  | .Event (.FixMessageReceived raw) =>
    (taken env (.Event (.FixMessageReceived raw)) w).all (fun p => !lifts env p.1 p.2) && !invalid_fails env (checked env w) raw
  | _ => true

section
variable {w : World S}

theorem settled_checked (decided : settled w.state = true) {c : World S} (scheduled : handle_schedule_check env w = .ok () c) :
    settled c.state = true := by
  have does : Leads (Does firm) (handle_schedule_check env) w := does_check trivial (fun _ _ => trivial)
  unfold Leads at does
  rw [scheduled] at does
  exact settled_does id id decided does

omit [MessageStore S] in
theorem settled_touched (decided : settled w.state = true) : settled (touched w).state = true :=
  settled_does id id decided (does_touched w (L := firm))

/-- Where the decision is taken, a message that does not lift it is handled without an
    error. -/
theorem message_returns {v : World S} {m : Message} (decided : settled v.state = true) (firmly : lifts env v m = false) :
    ¬ FailsIn (do process_message env m; check_end_of_resend env) v := by
  rintro ⟨e,u,stopped⟩
  cases processed : process_message env m v with
  | ok _ u' =>
    have does := process_message_does env m v
    rw [processed] at does
    have later : settled u'.state = true := by
      refine settled_does id id decided (does.mono (within_firm (licence_apart env v m) (fun may => ?_)))
      rw [licence_lifts may] at firmly
      cases firmly
    rw [bind_ok processed] at stopped
    unfold check_end_of_resend at stopped
    rw [get_bind] at stopped
    cases state : u'.state with
    | AwaitingResend awaiting =>
      rw [state] at later
      cases later
    | _ =>
      rw [state] at stopped
      cases stopped
  | error a u' =>
    simp only [bind,EStateM.bind,processed] at stopped
    cases stopped
    rw [fails_lifts ((process_message_fails v m).mp ⟨e,_,processed⟩)] at firmly
    cases firmly

theorem lasting_returns {raw : Bytes} {c : World S} (decided : settled w.state = true)
    (lasts : lasting env w (.Event (.FixMessageReceived raw)) = true) (scheduled : handle_schedule_check env w = .ok () c) :
    ¬ FailsIn (on_incoming env raw) c := by
  intro fails
  unfold lasting at lasts
  rw [Bool.and_eq_true,List.all_eq_true] at lasts
  have here := settled_touched (settled_checked decided scheduled)
  unfold FailsIn at fails
  rw [on_incoming_eq] at fails
  cases built : env.build raw with
  | Valid m =>
    have member : (noted (touched c) (.Received m),m) ∈ taken env (.Event (.FixMessageReceived raw)) w := by
      have arrived : arrival env raw w = some (noted (touched c) (.Received m),m) := by
        unfold arrival
        rw [scheduled,built]
      simp only [taken,arrived]
      exact List.mem_cons_self
    have firmly := lasts.1 _ member
    rw [Bool.not_eq_true'] at firmly
    rw [built] at fails
    exact message_returns (v := noted (touched c) (.Received m)) here firmly fails
  | Invalid m reason =>
    rw [built] at fails
    have failed := on_invalid_fails built fails
    have same : checked env w = touched c := by rw [checked,scheduled]; rfl
    rw [same,failed] at lasts
    cases lasts.2
  | Garbled reason =>
    rw [built] at fails
    exact absurd fails (not_fails_pure _)
  | UnexpectedError text =>
    rw [built] at fails
    exact absurd fails (not_fails_pure _)

theorem settled_step {input : Input} (decided : settled w.state = true) (lasts : lasting env w input = true) :
    Leads (fun _ w' => settled w'.state = true) (handle_input env input) w := by
  refine settled_does (L := firm) id id decided ?_
  rcases frame_or_other input with ⟨raw,rfl⟩ | other
  · refine frame_does trivial (fun _ _ => trivial) (fun p member => within_firm (licence_apart env _ _) (fun may => ?_))
      (fun m reason _ => invalid_firm _ m reason) (fun c e u scheduled executed _ => ?_)
    · unfold lasting at lasts
      rw [Bool.and_eq_true,List.all_eq_true] at lasts
      have firmly := lasts.1 p member
      rw [licence_lifts may] at firmly
      cases firmly
    · exact lasting_returns decided lasts scheduled ⟨e,u,executed⟩
  · refine (input_does other).mono (input_firm (fun writer connects => ?_))
    rw [connects] at lasts
    cases lasts

omit [MessageStore S] in
theorem disconnected_deed {L : Licence} {w' : World S} (apart : ¬ L.connect) (down : w.state.get_writer = none)
    (deed : Deed L w w') : w'.state.get_writer = none := by
  cases deed with
  | aside entries store kept journal plain =>
    rw [← face_writer,kept,face_writer]
    exact down
  | stored entries may kept journal plain =>
    rw [kept]
    exact down
  | wrote may current raw => exact down
  | greeted may current first raw =>
    rw [current] at down
    cases down
  | delivered may m => exact down
  | loggedOn may current => exact down
  | connected may writer => exact down
  | widened may current writer =>
    rw [current] at down
    cases down
  | turned turns =>
    rw [transition_final,transitioned_state]
    exact turns.disconnected apart down

omit [MessageStore S] in
theorem disconnected_does {L : Licence} {w' : World S} (apart : ¬ L.connect) (down : w.state.get_writer = none)
    (does : Does L w w') : w'.state.get_writer = none := by
  induction does with
  | refl => exact down
  | tail _ deed ih => exact disconnected_deed apart ih deed

end

/-! ### Decisions -/

/-- Asked to shut down for good, the session that waits for its logout or is disconnected
    would still reconnect. -/
def reopens : SessionState → Bool
  | .AwaitingLogout state => state.reconnect
  | .Disconnected state => state.reconnect
  | _ => false

/-- The request to shut down for good is handled without an error. -/
def ShutDown (env : Env) (w w' : World S) : Prop :=
  (do apply_transition (← initiate_graceful_logout env (ascii "explicitly requested") false)) w = .ok () w'

/-- A decision not to reconnect has been taken. -/
inductive Decided (env : Env) : World S → Prop where
  | asked {w w' : World S} (closes : reopens w.state = false) (handled : ShutDown env w w') : Decided env w'
  | ended {w : World S} {state : DisconnectedState} (current : w.state = .Disconnected state) (forever : state.reconnect = false) :
    Decided env w

theorem shutdown_settled {w w' : World S} (closes : reopens w.state = false) (handled : ShutDown env w w') :
    settled w'.state = true := by
  have turned {writer : WriterRef}
      (leaves : w.state.try_transition_to_awaiting_logout false = .TransitionTo (.AwaitingLogout ⟨writer,false⟩)) :
      settled w'.state = true := by
    unfold ShutDown initiate_graceful_logout at handled
    simp only [bind_assoc] at handled
    rw [get_bind,leaves] at handled
    dsimp only at handled
    obtain ⟨_,u,sent,moved⟩ := bind_returned handled
    obtain ⟨_,_,_,same⟩ := bind_returned sent
    cases same
    have result := transition_final u (.AwaitingLogout ⟨writer,false⟩)
    rw [moved] at result
    rw [show w' = transitioned u _ from result,transitioned_state]
    rfl
  have stays (stay : w.state.try_transition_to_awaiting_logout false = .Stay) : w' = w := by
    unfold ShutDown initiate_graceful_logout at handled
    simp only [bind_assoc] at handled
    rw [get_bind,stay] at handled
    cases handled
    rfl
  cases state : w.state with
  | AwaitingLogout logout =>
    rw [stays (by rw [state]; rfl),state]
    rw [state] at closes
    simpa [settled,reopens] using closes
  | Disconnected disconnected =>
    rw [stays (by rw [state]; rfl),state]
    rw [state] at closes
    simpa [settled,reopens] using closes
  | AwaitingLogon logon => exact turned (by rw [state]; rfl)
  | AwaitingResend awaiting => exact turned (by rw [state]; rfl)
  | Active active => exact turned (by rw [state]; rfl)

theorem decided_settled {w : World S} (decided : Decided env w) : settled w.state = true := by
  cases decided with
  | asked closes handled => exact shutdown_settled closes handled
  | ended current forever =>
    rw [current]
    simpa [settled] using forever

theorem settled_run {w₀ w : World S} (decided : settled w₀.state = true)
    (reached : Reachable env (fun w input => lasting env w input = true) w₀ w) : settled w.state = true := by
  induction reached with
  | start => exact decided
  | step before armed fine handled ih =>
    have later := settled_step ih fine
    unfold Leads at later
    rw [handled] at later
    exact later

/-- What the session answered last, if it was asked whether it reconnects. -/
def answer (w : World S) : Option Bool :=
  match w.journal.getLast? with
  | some (.ReconnectAnswer reconnect) => some reconnect
  | _ => none

/-- Once the decision is taken, and as long as nothing that comes lifts it, a session
    that is disconnected says that it does not reconnect. -/
theorem decision_lasts {w₀ w w' : World S} (decided : Decided env w₀)
    (reached : Reachable env (fun w input => lasting env w input = true) w₀ w)
    (queried : handle_input env (.Event .ShouldReconnect) w = .ok () w')
    (down : w.state.get_writer = none ∨ w'.state.get_writer = none) :
    answer w' = some false := by
  have here := settled_run (decided_settled decided) reached
  obtain ⟨_,c,scheduled,answered⟩ := bind_returned queried
  have checked := settled_checked here scheduled
  cases answered
  have apart : c.state.get_writer = none := by
    rcases down with before | later
    · have does : Leads (Does firm) (handle_schedule_check env) w := does_check trivial (fun _ _ => trivial)
      unfold Leads at does
      rw [scheduled] at does
      exact disconnected_does id before does
    · exact later
  cases state : c.state with
  | Disconnected disconnected =>
    rw [state] at checked
    have forever : disconnected.reconnect = false := by simpa [settled] using checked
    simp [answer,SessionState.should_reconnect,forever]
  | _ =>
    rw [state] at apart
    cases apart

/-! ### A shutdown for good -/

def farewell : Message := message Logout.MSG_TYPE 2 []

/-- A message of somebody else. -/
def stranger : Message := message_from (ascii "OTHER") config.sender_comp_id (ascii "8") 2 []

def peers : Env := valid [logon,farewell,stranger]

/-- Asked to shut down for good while logged on. -/
def shut : World Sample.Store :=
  final ((do apply_transition (← initiate_graceful_logout peers (ascii "explicitly requested") false))
    (after peers [connect,receive logon]))

/-- Then a message comes and the session is asked whether it reconnects. -/
def asked (m : Message) : World Sample.Store :=
  final (handle_input peers (.Event .ShouldReconnect) (final (run peers [receive m] shut)))

theorem shut_down : ShutDown peers (after peers [connect,receive logon]) shut := returned_final (by decide +kernel)

/-- The peer answers the Logout, and the session stays away. -/
theorem logout_lasts : answer (asked farewell) = some false :=
  decision_lasts (.asked (by decide +kernel) shut_down) (reachable_run (by decide +kernel)) (returned_final (by decide +kernel))
    (.inr (by decide +kernel))

def is_connect : Input → Bool
  | .Event (.Connected _) => true
  | _ => false

/-- A message with a wrong CompID comes instead, and the session would reconnect. -/
theorem comp_id_lifts_decision :
    Reachable peers (fun _ _ => True) start (after peers [connect,receive logon]) ∧
      ShutDown peers (after peers [connect,receive logon]) shut ∧
      Reachable peers (fun _ input => is_connect input = false) shut (final (run peers [receive stranger] shut)) ∧
      handle_input peers (.Event .ShouldReconnect) (final (run peers [receive stranger] shut)) = .ok () (asked stranger) ∧
      (asked stranger).state.get_writer = none ∧ answer (asked stranger) = some true :=
  ⟨reachable_after (by decide +kernel),shut_down,reachable_run (by decide +kernel),returned_final (by decide +kernel),by decide +kernel⟩

end HotFix.Decisions
