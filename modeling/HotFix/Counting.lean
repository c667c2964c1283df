import HotFix.Raises

/-!
When the handling of a frame counts its message: messages whose type relaxes the
check of the number, messages rejected for their times or by the dictionary, and
messages that are accepted in sequence. The numbers have 64 bits.
-/
namespace HotFix.Counting
open HotFix.Program HotFix.Protocol HotFix.Operations HotFix.Refinement HotFix.Outcomes HotFix.Loop HotFix.Raises MessageStore
open HotFix.Sample (valid logon reject report resend_request message config now connect receive read wrapped reachable_wrapped
  build_first build_skip)
variable {S : Type} [MessageStore S]

/-! ### Types that relax the check of the number -/

/-- The message has a number other than the expected one that its type lets pass. -/
def Relaxed (w : World S) (n : Nat) (k : MsgKind) : Prop :=
  n ≠ next_target w ∧ ((k = .Reject ∨ k = .ResendRequest) ∧ next_target w < n ∨ k = .Logout)

/-! ### The world in which a frame is processed -/

section
variable {env : Env} {w : World S} {m : Message} {k : MsgKind} {n : Nat}

theorem incoming_next (w : World S) (m : Message) : (core (incoming w m)).next = next_target w :=
  congrArg Core.next (core_touched w)

theorem incoming_phase (w : World S) (m : Message) : (core (incoming w m)).phase = (core w).phase := by
  change (core (touched w)).phase = (core w).phase
  rw [core_touched]

omit [MessageStore S] in
theorem incoming_clock (w : World S) (m : Message) : (incoming w m).clock_readings = w.clock_readings := by
  unfold incoming noted touched
  split_ifs <;> rfl

theorem setAside_incoming : SetAside (core (incoming w m)) m k ↔ SetAside (core w) m k := by
  rw [SetAside,incoming_phase]
  rfl

theorem incoming_connected (on : w.state.is_connected = true) : (core (incoming w m)).connected := by
  rw [Core.connected,incoming_phase]
  exact connected_of on

theorem incoming_verify : verify env (env.timestamp_now (incoming w m).clock_readings) (core (incoming w m)) m k =
    verify_message_with_ctx m env.config (next_target w) (.for_kind k m) (env.timestamp_now w.clock_readings) := by
  rw [verify,incoming_next,incoming_clock]

/-- A message that is not set aside is looked at. -/
theorem accepted_of {c : Core} (kind : m.kind = some k) (number : m.msg_seq_num = some n) (taken : ¬ SetAside c m k) :
    Accepted c m k := by
  refine ⟨kind,?_⟩
  cases phase : c.phase with
  | AwaitingResend gap =>
    refine ⟨n,number,?_⟩
    by_contra more
    rw [not_or,not_le] at more
    exact taken (.inr ⟨gap,n,phase,number,more⟩)
  | AwaitingLogon =>
    by_contra other
    exact taken (.inl ⟨phase,other⟩)
  | _ => trivial

theorem roomy_of_still {messages : List (World S × Message)} (still : ∀ p ∈ messages, replay_raise env p.1 p.2 = 0) :
    Roomy env messages := by
  intro p member counts
  have none := still p member
  unfold replay_counted at counts
  unfold replay_raise at none
  split_ifs at none with request
  rw [Bool.or_eq_true,decide_eq_true_iff] at counts
  rw [raise_counted (counts.resolve_left request)] at none
  cases none

theorem raises_none {messages : List (World S × Message)} :
    raises env messages = 0 ↔ ∀ p ∈ messages, replay_raise env p.1 p.2 = 0 := by
  rw [raises,List.sum_eq_zero_iff_forall_eq_nat,List.forall_mem_map]

/-! ### Types that relax the check of the number -/

/-- A relaxed number is counted unless the message is a ResendRequest or is not
    looked at. -/
theorem relaxed_raise (kind : m.kind = some k) (number : m.msg_seq_num = some n)
    (relaxed : Relaxed w n k)
    (passes : verify_message_with_ctx m env.config (next_target w) (.for_kind k m)
      (env.timestamp_now w.clock_readings) = .ok ()) :
    raise env (incoming w m) m = if k = .ResendRequest ∨ deferred w n k = true then 0 else 1 := by
  obtain ⟨other,kinds⟩ := relaxed
  by_cases aside : SetAside (core w) m k
  · rw [if_pos (.inr ((deferred_iff number k).mpr aside))]
    exact raise_setAside kind (setAside_incoming.mpr aside)
  · have accepted : Accepted (core (incoming w m)) m k := accepted_of kind number (mt setAside_incoming.mp aside)
    have counts := counted_passed accepted (.inr (incoming_verify.trans passes))
    have taken : deferred w n k = false := Bool.eq_false_iff.mpr (mt (deferred_iff number k).mp aside)
    simp only [taken,Bool.false_eq_true,or_false]
    obtain ⟨rfl | rfl,-⟩ | rfl := kinds
    · exact raise_counted counts
    · refine raise_none (counts.trans ?_) (reset_to_other kind (by simp))
      have ahead : ¬ m.msg_seq_num = some (next_target (incoming w m)) := by
        rw [number]
        exact fun same => other ((Option.some.inj same).trans (incoming_next w m))
      simp [handler_counts,ahead]
    · exact raise_counted counts

/-- The message is a ResendRequest or not looked at, and no message that it releases
    moves the expected number. -/
def LeavesNumber (env : Env) (w : World S) (m : Message) (n : Nat) (k : MsgKind) : Prop :=
  (k = .ResendRequest ∨ deferred w n k = true) ∧ ∀ p ∈ released env m (incoming w m), replay_raise env p.1 p.2 = 0

variable [CountingStore S .wrapping]

/-- A relaxed number leaves the expected one exactly when the message is a
    ResendRequest or is not looked at, and releases none that moves it. -/
theorem relaxed_keeps_iff {raw_message : Bytes} (built : env.build raw_message = .Valid m) (kind : m.kind = some k)
    (number : m.msg_seq_num = some n) (relaxed : Relaxed w n k)
    (passes : verify_message_with_ctx m env.config (next_target w) (.for_kind k m)
      (env.timestamp_now w.clock_readings) = .ok ()) :
    (LeavesNumber env w m n k → next_target (final (on_incoming env raw_message w)) = next_target w) ∧
      (StoreSucceeds S → next_target w + 1 < UInt64.size → Roomy env (released env m (incoming w m)) →
        next_target (final (on_incoming env raw_message w)) = next_target w → LeavesNumber env w m n k) := by
  have own := relaxed_raise kind number relaxed passes
  constructor
  · rintro ⟨quiet,still⟩
    have silent : raise env (incoming w m) m = 0 := own.trans (if_pos quiet)
    have uncounted : counted env (incoming w m) m = true → next_target w + 1 < UInt64.size := by
      intro counts
      rw [raise_counted counts] at silent
      cases silent
    have raised := on_incoming_raises built uncounted (roomy_of_still still)
    rw [silent,raises_none.mpr still] at raised
    exact raised.still
  · intro succeeds bound room same
    obtain ⟨-,-,exact_⟩ := on_incoming_raises built (fun _ => bound) room
    have total := exact_ succeeds
    refine ⟨?_,raises_none.mp (by omega)⟩
    by_contra loud
    rw [if_neg loud] at own
    omega

end

/-- Logged on, with number 2 expected and the given message to come. -/
def logged_on (m : Message) : World (InMemoryMessageStore .wrapping) := wrapped (valid [logon,m]) [connect,receive logon]

/-- The first world of a session whose numbers wrap. -/
def start : World (InMemoryMessageStore .wrapping) := World.initial (InMemoryMessageStore.new 0)

theorem second_build {m : Message} (other : Sample.wire logon ≠ Sample.wire m) : (valid [logon,m]).build (Sample.wire m) = .Valid (read m) :=
  (build_skip _ _ other).trans (build_first _ _ _)

/-- A Reject with number 9 takes the place of the message with number 2. -/
theorem reject_ahead_counted :
    Reachable (valid [logon,reject 9]) (fun _ _ => True) start (logged_on (reject 9)) ∧
      (logged_on (reject 9)).state.is_connected = true ∧ next_target (logged_on (reject 9)) = 2 ∧
      (valid [logon,reject 9]).build (Sample.wire (reject 9)) = .Valid (read (reject 9)) ∧
      (read (reject 9)).kind = some .Reject ∧ (read (reject 9)).msg_seq_num = some 9 ∧
      verify_message_with_ctx (read (reject 9)) config 2 (.for_kind .Reject (read (reject 9))) now = .ok () ∧
      next_target (final (on_incoming (valid [logon,reject 9]) (Sample.wire (reject 9)) (logged_on (reject 9)))) = 3 :=
  ⟨reachable_wrapped (by decide +kernel),by decide +kernel,by decide +kernel,second_build (by decide +kernel),by decide +kernel⟩

/-- A ResendRequest with number 9 is answered and leaves 2 expected. -/
theorem request_ahead_keeps :
    next_target (final (on_incoming (valid [logon,resend_request 9 1 1]) (Sample.wire (resend_request 9 1 1))
      (logged_on (resend_request 9 1 1)))) = next_target (logged_on (resend_request 9 1 1)) :=
  (relaxed_keeps_iff (n := 9) (k := .ResendRequest) (second_build (by decide +kernel))
    (by decide +kernel) (by decide +kernel) ⟨by decide +kernel,.inl ⟨.inr rfl,by decide +kernel⟩⟩
    (by decide +kernel)).1 ⟨.inl rfl,by decide +kernel⟩

/-! ### Times -/

section
variable {env : Env} {w : World S} {m : Message} {k : MsgKind} {n : Nat}

/-- A message whose times are wrong is counted where it is looked at. -/
theorem bad_time_raise {error : MessageError} (on : w.state.is_connected = true) (kind : m.kind = some k)
    (number : m.msg_seq_num = some n)
    (fails : verify_message_with_ctx m env.config (next_target w) (.for_kind k m)
      (env.timestamp_now w.clock_readings) = .error (.InvalidMessage error)) (time : error.isTimeError = true) :
    raise env (incoming w m) m = if deferred w n k = true then 0 else 1 := by
  by_cases aside : SetAside (core w) m k
  · rw [if_pos ((deferred_iff number k).mpr aside)]
    exact raise_setAside kind (setAside_incoming.mpr aside)
  · have accepted : Accepted (core (incoming w m)) m k := accepted_of kind number (mt setAside_incoming.mp aside)
    rw [if_neg (mt (deferred_iff number k).mp aside),
      raise_failed accepted (incoming_connected on) (incoming_verify.trans fails)]
    exact if_pos time

variable [CountingStore S .wrapping]

/-- A message rejected for its times is counted as its number deserves exactly when it
    is looked at, is the expected one and not the last, and releases none that moves
    the number; or it is not looked at, and those it releases make up for it. -/
theorem bad_time_counts_iff (succeeds : StoreSucceeds S) {raw_message : Bytes} {error : MessageError}
    (on : w.state.is_connected = true) (built : env.build raw_message = .Valid m) (kind : m.kind = some k)
    (number : m.msg_seq_num = some n)
    (fails : verify_message_with_ctx m env.config (next_target w) (.for_kind k m)
      (env.timestamp_now w.clock_readings) = .error (.InvalidMessage error)) (time : error.isTimeError = true)
    (bound : n ≠ next_target w → next_target w + 1 < UInt64.size) (room : Roomy env (released env m (incoming w m))) :
    next_target (final (on_incoming env raw_message w)) = (if n = next_target w then next_target w + 1 else next_target w) ↔
      (deferred w n k = false ∧ n = next_target w ∧ next_target w + 1 < UInt64.size ∧
          raises env (released env m (incoming w m)) = 0 ∨
        deferred w n k = true ∧ raises env (released env m (incoming w m)) = if n = next_target w then 1 else 0) := by
  have own := bad_time_raise on kind number fails time
  cases taken : deferred w n k with
  | true =>
    have silent : raise env (incoming w m) m = 0 := own.trans (if_pos taken)
    have uncounted : counted env (incoming w m) m = true → next_target w + 1 < UInt64.size := by
      intro counts
      rw [raise_counted counts] at silent
      cases silent
    obtain ⟨-,-,exact_⟩ := on_incoming_raises built uncounted room
    rw [exact_ succeeds,silent]
    split_ifs <;> simp
  | false =>
    have one : raise env (incoming w m) m = 1 := own.trans (if_neg (by simp [taken]))
    by_cases fits : next_target w + 1 < UInt64.size
    · obtain ⟨-,-,exact_⟩ := on_incoming_raises built (fun _ => fits) room
      rw [exact_ succeeds,one]
      split_ifs with expected
      · simp [expected,fits]
      · simp [expected]
    · have expected : n = next_target w := by
        by_contra other
        exact fits (bound other)
      have below := CountingStore.next_lt rfl (final (on_incoming env raw_message w)).store
      simp only [expected,fits,if_true,false_and,and_false,Bool.false_eq_true,or_self,iff_false]
      intro reached
      exact fits (reached ▸ below)

end

/-- A report sent a year ago. -/
def old_report (n : Nat) : Message := message (ascii "8") n [(SENDING_TIME,ascii "20230101-12:00:00.000")]

/-- An old report with number 9 takes the place of the message with number 2. -/
theorem old_report_ahead_counted :
    Reachable (valid [logon,old_report 9]) (fun _ _ => True) start (logged_on (old_report 9)) ∧
      (logged_on (old_report 9)).state.is_connected = true ∧ next_target (logged_on (old_report 9)) = 2 ∧
      (valid [logon,old_report 9]).build (Sample.wire (old_report 9)) = .Valid (read (old_report 9)) ∧
      (read (old_report 9)).kind = some .Application ∧ (read (old_report 9)).msg_seq_num = some 9 ∧
      verify_message_with_ctx (read (old_report 9)) config 2 (.for_kind .Application (read (old_report 9))) now =
        .error (.InvalidMessage (.SendingTimeAccuracyIssue 9)) ∧
      next_target (final (on_incoming (valid [logon,old_report 9]) (Sample.wire (old_report 9)) (logged_on (old_report 9)))) = 3 :=
  ⟨reachable_wrapped (by decide +kernel),by decide +kernel,by decide +kernel,second_build (by decide +kernel),by decide +kernel⟩

instance (env : Env) (messages : List (World S × Message)) : Decidable (Roomy env messages) :=
  inferInstanceAs (Decidable (∀ p ∈ messages, _ → _))

/-- An old report with the expected number is counted as it should be. -/
theorem old_report_counted :
    next_target (final (on_incoming (valid [logon,old_report 2]) (Sample.wire (old_report 2)) (logged_on (old_report 2)))) = 3 := by
  have fails : verify_message_with_ctx (read (old_report 2)) (valid [logon,old_report 2]).config
      (next_target (logged_on (old_report 2))) (.for_kind .Application (read (old_report 2)))
      ((valid [logon,old_report 2]).timestamp_now (logged_on (old_report 2)).clock_readings) =
      .error (.InvalidMessage (.SendingTimeAccuracyIssue 2)) := by decide +kernel
  have counts := (bad_time_counts_iff (InMemoryMessageStore.succeeds .wrapping) (n := 2) (by decide +kernel)
    (second_build (by decide +kernel)) (show (read (old_report 2)).kind = some .Application by decide +kernel)
    (by decide +kernel) fails rfl (by decide +kernel) (by decide +kernel)).mpr (.inl (by decide +kernel))
  exact counts.trans (by decide +kernel)

/-! ### Dictionary -/

section
variable [CountingStore S .wrapping] {env : Env} {w : World S} {m : Message} {n : Nat}

/-- The session after the Reject of a message of unknown type, before it is counted. -/
def rejected (env : Env) (w : World S) (n : Nat) (msg_type : Bytes) : World S :=
  match w.state.get_writer with
  | some writer => final (send_reject env writer n .InvalidMsgtype (ascii "invalid message type " ++ msg_type) w)
  | none => w

/-- The number is counted exactly when the store says so and there is a next one. -/
theorem increment_target_counts_iff (w : World S) :
    next_target (final (increment_target w)) = next_target w + 1 ↔
      (increment_target_seq_number w.store).1 = .ok () ∧ next_target w + 1 < UInt64.size := by
  have left : next_target (final (increment_target w)) = next_target_seq_number (increment_target_seq_number w.store).2 :=
    congrArg next_target_seq_number (store_operation_store _ _ w)
  rw [left]
  obtain ⟨done,moved⟩ | ⟨⟨e,failed⟩,same⟩ := CountingStore.increment_target_moves w.store
  · rw [moved]
    refine ⟨fun counted => ⟨done,?_⟩,fun fine => Arith.add_eq .wrapping fine.2⟩
    exact counted ▸ Arith.add_lt rfl _ _
  · rw [same]
    exact iff_of_false (Nat.ne_of_lt (Nat.lt_succ_self _)) (by simp [failed])

theorem invalid_msg_type_counts_iff {writer : WriterRef} {msg_type : Bytes} (connected : w.state.get_writer = some writer)
    (number : m.msg_seq_num = some n) :
    next_target (final (handle_invalid_msg_type env writer m msg_type w)) =
        (if n = next_target w then next_target w + 1 else next_target w) ↔
      n ≠ next_target w ∨ next_target w + 1 < UInt64.size ∧
        (increment_target_seq_number (rejected env w n msg_type).store).1 = .ok () := by
  obtain ⟨_,w₁,executed,same,-⟩ := runs_returned (send_message_to_runs env writer
    (Frames.plain_reject ⟨n,.InvalidMsgtype,ascii "invalid message type " ++ msg_type⟩) w)
  have next : next_target w₁ = next_target w := congrArg Core.next same
  have answered : send_reject env writer n .InvalidMsgtype (ascii "invalid message type " ++ msg_type) w = .ok _ w₁ := executed
  have left : rejected env w n msg_type = w₁ := by simp [rejected,connected,answered]
  unfold handle_invalid_msg_type
  rw [number,left]
  dsimp only
  rw [bind_ok answered,get_bind,next]
  split_ifs with expected other other
  · have counts := increment_target_counts_iff w₁
    rw [next] at counts
    have last : final ((increment_target >>= fun _ => pure ()) w₁) = final (increment_target w₁) := by
      simp only [bind,EStateM.bind]
      cases increment_target w₁ <;> rfl
    rw [last,counts,and_comm]
    simp [other]
  · exact absurd expected.symm other
  · exact absurd other.symm expected
  · exact iff_of_true next (.inl other)

theorem invalid_other_keeps {reason : InvalidReason} (other : ∀ t, reason ≠ .InvalidMsgType t) :
    next_target (final (on_invalid env m reason w)) = next_target w := by
  have runs := on_invalid_runs env m reason w (fun t unknown => absurd unknown (other t))
  refine (runs_final (fun w' => next_target w' = next_target w)).mp (runs_mono runs ?_ ?_)
  · intro _ w' answered
    generalize here : core w' = c at answered
    cases answered with
    | ignored _ => exact congrArg Core.next here
    | counted unknown _ _ => exact absurd unknown (other _)
  · rintro _ w' ⟨-,same,-⟩
    exact congrArg Core.next same

/-- An invalid message is counted as its number deserves exactly when its number is
    not the expected one, or its type is unknown, there is a next number and the store
    can write it. -/
theorem invalid_counts_iff {raw_message : Bytes} {reason : InvalidReason} (on : w.state.is_logged_on = true)
    (invalid : env.build raw_message = .Invalid m reason) (number : m.msg_seq_num = some n) :
    next_target (final (on_incoming env raw_message w)) =
        (if n = next_target w then next_target w + 1 else next_target w) ↔
      n ≠ next_target w ∨ next_target w + 1 < UInt64.size ∧ ∃ msg_type, reason = .InvalidMsgType msg_type ∧
        (increment_target_seq_number (rejected env (touched w) n msg_type).store).1 = .ok () := by
  have next : next_target (touched w) = next_target w := congrArg Core.next (core_touched w)
  have connected : (core (touched w)).connected := by
    rw [core_touched]
    cases state : w.state with
    | Active _ => simp [Core.connected,phaseOf,state]
    | AwaitingResend _ => simp [Core.connected,phaseOf,state]
    | _ => simp [SessionState.is_logged_on,state] at on
  rw [on_incoming_eq,invalid,← next]
  dsimp only
  cases reason with
  | InvalidMsgType msg_type =>
    obtain ⟨writer,current⟩ := Option.isSome_iff_exists.mp (is_connected_of connected)
    have handled : on_invalid env m (.InvalidMsgType msg_type) (touched w) =
        handle_invalid_msg_type env writer m msg_type (touched w) := by
      simp only [on_invalid]
      rw [get_bind,current]
    rw [handled,invalid_msg_type_counts_iff current number]
    simp
  | _ =>
    rw [invalid_other_keeps (by simp)]
    split_ifs with expected
    · simp [expected]
    · simp [expected]

end

/-- A sample session that is logged on and expects the message with number 2. -/
structure LoggedOn (env : Env) : Prop where
  reached : Reachable env (fun _ _ => True) start (wrapped env [connect,receive logon])
  logged_on : (wrapped env [connect,receive logon]).state.is_logged_on = true
  expects : next_target (wrapped env [connect,receive logon]) = 2

/-- A session whose dictionary finds a fault with the report of number 2. -/
def strict (reason : InvalidReason) : Env := Sample.env [(report 2,fun m => .Invalid m reason),(logon,.Valid)]

def strict_logged_on (reason : InvalidReason) : World (InMemoryMessageStore .wrapping) :=
  wrapped (strict reason) [connect,receive logon]

theorem strict_build (reason : InvalidReason) :
    (strict reason).build (Sample.wire (report 2)) = .Invalid (read (report 2)) reason := by
  unfold strict Sample.env
  exact build_first (report 2) (fun m => .Invalid m reason) [(logon,.Valid)]

/-- A report with the expected number and an unknown field is rejected but not
    counted. -/
theorem invalid_field_uncounted :
    Reachable (strict (.InvalidField 999)) (fun _ _ => True) start (strict_logged_on (.InvalidField 999)) ∧
      (strict_logged_on (.InvalidField 999)).state.is_logged_on = true ∧
      next_target (strict_logged_on (.InvalidField 999)) = 2 ∧
      (strict (.InvalidField 999)).build (Sample.wire (report 2)) = .Invalid (read (report 2)) (.InvalidField 999) ∧
      (read (report 2)).msg_seq_num = some 2 ∧
      next_target (final (on_incoming (strict (.InvalidField 999)) (Sample.wire (report 2))
        (strict_logged_on (.InvalidField 999)))) = 2 := by
  have session : LoggedOn (strict (.InvalidField 999)) := ⟨reachable_wrapped (by decide +kernel),by decide +kernel,by decide +kernel⟩
  exact ⟨session.reached,session.logged_on,session.expects,strict_build _,by decide +kernel⟩

/-- A report with the expected number and an unknown type is rejected and counted. -/
theorem invalid_type_counted :
    next_target (final (on_incoming (strict (.InvalidMsgType (ascii "ZZ"))) (Sample.wire (report 2))
      (strict_logged_on (.InvalidMsgType (ascii "ZZ"))))) = 3 := by
  have session : LoggedOn (strict (.InvalidMsgType (ascii "ZZ"))) :=
    ⟨reachable_wrapped (by decide +kernel),by decide +kernel,by decide +kernel⟩
  have counts := (invalid_counts_iff (n := 2) (w := strict_logged_on (.InvalidMsgType (ascii "ZZ"))) session.logged_on
    (strict_build (.InvalidMsgType (ascii "ZZ"))) (by decide +kernel)).mpr (.inr ⟨by decide +kernel,_,rfl,rfl⟩)
  exact counts.trans ((if_pos session.expects.symm).trans (congrArg (· + 1) session.expects))

/-! ### Messages accepted in sequence -/

/-- A message in sequence that passes verification and whose processing returns is
    counted, exactly when it is no Logon, no malformed ResendRequest, is looked at, and
    there is a next number. -/
theorem in_sequence_counts_iff [CountingStore S .wrapping] {env : Env} {w w' : World S} {m : Message} {k : MsgKind}
    (on : w.state.is_logged_on = true) (kind : m.kind = some k) (other : k ≠ .SequenceReset)
    (number : m.msg_seq_num = some (next_target w))
    (passes : verify_message_with_ctx m env.config (next_target w) (.for_kind k m)
      (env.timestamp_now w.clock_readings) = .ok ()) (returns : process_message env m w = .ok () w') :
    next_target w' = next_target w + 1 ↔
      k ≠ .Logon ∧ (k = .ResendRequest → WellFormedRequest m) ∧ deferred w (next_target w) k = false ∧
        next_target w + 1 < UInt64.size := by
  have logged : (core w).phase ≠ .AwaitingLogon ∧ (core w).connected := by
    cases state : w.state with
    | Active _ => simp [Core.connected,phaseOf,state]
    | AwaitingResend _ => simp [Core.connected,phaseOf,state]
    | _ => simp [SessionState.is_logged_on,state] at on
  by_cases bound : next_target w + 1 < UInt64.size
  · have steps := process_message_steps env m w (fun _ => Arith.add_eq .wrapping bound)
    unfold Steps at steps
    rw [runs_ok returns] at steps
    change (core w').next = _ ↔ _
    by_cases aside : SetAside (core w) m k
    · have same := step_setAside_next kind aside steps
      rw [(deferred_iff number k).mpr aside,same]
      simp
    · have left := (step_outcome (by simp) kind number logged.2 passes aside steps).resolve_right (by simp)
      rw [left,Bool.eq_false_iff.mpr (mt (deferred_iff number k).mp aside)]
      simpa [bound] using outcome_counts_iff logged.1 other
  · have below := CountingStore.next_lt rfl w'.store
    refine iff_of_false (fun reached => bound (reached ▸ below)) (fun fine => bound fine.2.2.2)

/-- A second Logon, in sequence. -/
def second_logon : Message := message Logon.MSG_TYPE 2 []

/-- A second Logon with the expected number is ignored and not counted. -/
theorem second_logon_uncounted :
    Reachable (valid [logon,second_logon]) (fun _ _ => True) start (logged_on second_logon) ∧
      (logged_on second_logon).state.is_logged_on = true ∧ next_target (logged_on second_logon) = 2 ∧
      second_logon.kind = some .Logon ∧ second_logon.msg_seq_num = some 2 ∧
      verify_message_with_ctx second_logon config 2 (.for_kind .Logon second_logon) now = .ok () ∧
      returned (process_message (valid [logon,second_logon]) second_logon (logged_on second_logon)) = true ∧
      next_target (final (process_message (valid [logon,second_logon]) second_logon (logged_on second_logon))) = 2 :=
  have session : LoggedOn (valid [logon,second_logon]) := ⟨reachable_wrapped (by decide +kernel),by decide +kernel,by decide +kernel⟩
  ⟨session.reached,session.logged_on,session.expects,by decide +kernel⟩

/-- A report in sequence is counted. -/
theorem report_counted : ∃ w', process_message (valid [logon,report 2]) (report 2) (logged_on (report 2)) = .ok () w' ∧
    next_target w' = 3 := by
  have session : LoggedOn (valid [logon,report 2]) := ⟨reachable_wrapped (by decide +kernel),by decide +kernel,by decide +kernel⟩
  obtain ⟨_,w',executed⟩ := returned_ok (show returned (process_message (valid [logon,report 2]) (report 2)
    (logged_on (report 2))) = true by decide +kernel)
  have counts : next_target w' = next_target (logged_on (report 2)) + 1 :=
    (in_sequence_counts_iff (k := .Application) session.logged_on (by decide +kernel) (by simp) (by decide +kernel)
      (by decide +kernel) executed).mpr (by decide +kernel)
  exact ⟨w',executed,counts.trans (congrArg (· + 1) session.expects)⟩

end HotFix.Counting
