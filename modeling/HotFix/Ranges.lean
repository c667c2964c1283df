import HotFix.Panics
import HotFix.FileStore

/-!
The range that a ResendRequest asks of the store. The end is the last number sent or
below, the begin is what the peer says, and the room for the messages between them is
`end - begin + 1`.
-/
namespace HotFix.Panics
open HotFix.Program MessageStore
open HotFix.Sample (valid logon resend_request start connect receive after reachable_after Store)

/-! ### Stores that make room first -/

/-- A store that makes room for a range before it cuts the messages out. -/
class RoomyStore (S : Type) (arith : outParam Arith) [MessageStore S] where
  cut : Nat → Nat → S → Except StoreError (List Bytes)
  get_slice_eq : ∀ first last (s : S), get_slice first last s =
    (FileStore.with_capacity arith first last >>= fun _ => (cut first last s).mapError .Error)

instance {arith : Arith} : RoomyStore (InMemoryMessageStore arith) arith where
  cut first last s := .ok ((List.range' first (last + 1 - first)).filterMap s.messages)
  get_slice_eq first last s := by
    simp only [get_slice,InMemoryMessageStore.get_slice]
    unfold FileStore.with_capacity
    cases arith with
    | exact =>
      dsimp only
      split_ifs <;> rfl
    | wrapping =>
      dsimp only
      split_ifs <;> rfl

instance {arith : Arith} {D : Type} [Files D] : RoomyStore (FileStore arith D) arith where
  cut first last s :=
    if Files.open_body s.files then
      match ((List.range' first (last + 1 - first)).filterMap s.message_index).mapM (fun placed => Files.read_exact placed s.files) with
      | some messages => .ok messages
      | none => .error (.RetrieveMessages first last)
    else .error (.RetrieveMessages first last)
  get_slice_eq first last s := by
    simp only [get_slice,FileStore.read_messages]
    congr 1
    funext _
    split_ifs
    · cases ((List.range' first (last + 1 - first)).filterMap s.message_index).mapM (fun placed => Files.read_exact placed s.files) <;> rfl
    · rfl

/-- The room for a range is computed as it should be, and a `Vec` can have it. -/
structure Room (first last : Nat) : Prop where
  ordered : first ≤ last
  small : (last - first + 1) * VEC_SIZE ≤ ISIZE_MAX

theorem Room.below {first last : Nat} (room : Room first last) : last - first + 1 < U64 := by
  have small := room.small
  unfold VEC_SIZE at small
  have limit : ISIZE_MAX < U64 := by decide
  omega

theorem Room.with_capacity {first last : Nat} (room : Room first last) (arith : Arith) : FileStore.with_capacity arith first last = .ok () := by
  have below := room.below
  have ordered := room.ordered
  cases arith with
  | exact => exact if_neg (by omega)
  | wrapping =>
    have size : U64 = UInt64.size := rfl
    have wrapped : (last + UInt64.size - first + 1) % UInt64.size = last - first + 1 := by
      rw [show last + UInt64.size - first + 1 = (last - first + 1) + UInt64.size by omega,Nat.add_mod_right,Nat.mod_eq_of_lt (by omega)]
    unfold FileStore.with_capacity
    dsimp only
    rw [wrapped,if_neg (Nat.not_lt.mpr room.small)]

section
variable {S : Type} [MessageStore S] {arith : Arith} [RoomyStore S arith] {env : Env} {w : World S} {m : Message}

/-- The end of the range: the last number sent, or an earlier one that is asked for. -/
def clamped (requested : Nat) (w : World S) : Nat :=
  if requested = 0 then next_sender w - 1 else min requested (next_sender w - 1)

/-- What a request asks of the store: a range, and the store it is cut out of. -/
def asked (w : World S) (m : Message) : Option ((Nat × Nat) × S) :=
  if w.state.is_connected then
    match m.msg_seq_num,m.body.get_u64 BEGIN_SEQ_NO,m.body.get_u64 END_SEQ_NO with
    | some n,some first,some requested =>
      match if n = next_target w then increment_target_seq_number w.store else (.ok (),w.store) with
      | (.ok (),s) => some ((first,clamped requested w),s)
      | (.error _,_) => none
    | _,_,_ => none
  else none

/-- The request is answered within the bounds: no number underflows or overflows, and the
    handler returns. -/
structure Answered (env : Env) (w : World S) (m : Message) : Prop where
  clamps : ∀ p ∈ asked w m, 0 < next_sender w
  room : ∀ p ∈ asked w m, Room p.1.1 p.1.2
  returns : ¬ PanicsIn (on_resend_request env m) w

/-- The begin is not above the end, the range fits into a `Vec`, the numbers of the store have
    not wrapped around, and what is cut out is numbered. -/
structure Bounded (env : Env) (w : World S) (m : Message) : Prop where
  expecting : w.state.is_connected = true → next_target w = 0 → m.msg_seq_num.isSome = true
  sending : ∀ p ∈ asked w m, 0 < next_sender w
  room : ∀ p ∈ asked w m, Room p.1.1 p.1.2
  numbered : ∀ p ∈ asked w m, ∀ messages, RoomyStore.cut p.1.1 p.1.2 p.2 = .ok messages → unnumbered env messages = false

omit [RoomyStore S arith] in
theorem request_stumbles_eq (number : m.msg_seq_num.isSome = true) (connected : w.state.is_connected = true) :
    request_stumbles env w m = (asked w m).any (fun p => cannot_resend env (get_slice p.1.1 p.1.2 p.2)) := by
  obtain ⟨n,number⟩ := Option.isSome_iff_exists.mp number
  unfold request_stumbles asked
  rw [if_pos connected,number]
  cases m.body.get_u64 BEGIN_SEQ_NO with
  | none => rfl
  | some first =>
    cases m.body.get_u64 END_SEQ_NO with
    | none => rfl
    | some requested =>
      dsimp only
      rcases (if n = next_target w then increment_target_seq_number w.store else (.ok (),w.store)) with ⟨_ | _,s⟩
      · rfl
      · rfl

/-- Where there is room, the resend of a range panics at a message without a number only. -/
theorem cannot_resend_roomy {first last : Nat} (room : Room first last) (s : S) :
    cannot_resend env (get_slice first last s) = true ↔
      ∃ messages, RoomyStore.cut first last s = .ok messages ∧ unnumbered env messages = true := by
  rw [RoomyStore.get_slice_eq,room.with_capacity]
  cases cut : RoomyStore.cut first last s with
  | error e =>
    refine iff_of_false (by simp [Except.mapError,bind,Except.bind,cannot_resend]) ?_
    rintro ⟨_,same,_⟩
    cases same
  | ok messages => simp [Except.mapError,bind,Except.bind,cannot_resend]

omit [RoomyStore S arith] in
/-- A verified request has a number, unless the expected one has wrapped around. -/
theorem verified_number {flags : VerificationFlags} (request : m.kind = some .ResendRequest)
    (flagged : VerificationFlags.for_message m = some flags) (passes : verified env w m flags = true)
    (connected : w.state.is_connected = true) (missing : m.msg_seq_num.isSome = false) : next_target w = 0 := by
  obtain rfl : VerificationFlags.for_kind .ResendRequest m = flags := by
    rw [VerificationFlags.for_message,request] at flagged
    exact Option.some.inj flagged
  have verifies : verify_message_with_ctx m env.config (next_target w) (.for_kind .ResendRequest m)
      (env.timestamp_now w.clock_readings) = .ok () := by
    unfold verified at passes
    cases state : w.state with
    | Disconnected _ => simp [state,SessionState.is_connected,SessionState.get_writer] at connected
    | _ =>
      rw [state] at passes
      exact of_decide_eq_true passes
  rw [verify_message_with_ctx_eq] at verifies
  split at verifies
  · cases verifies
  · have low := (check_sequence_number_ok.mp verifies).2 rfl
    rw [Option.not_isSome_iff_eq_none.mp (Bool.eq_false_iff.mp missing)] at low
    exact Nat.le_zero.mp low

omit [RoomyStore S arith] in
theorem panics_iff_asked (number : w.state.is_connected = true → m.msg_seq_num.isSome = true) :
    PanicsIn (on_resend_request env m) w ↔ ∃ p ∈ asked w m, cannot_resend env (get_slice p.1.1 p.1.2 p.2) = true := by
  rw [on_resend_request_panics]
  by_cases connected : w.state.is_connected = true
  · rw [request_stumbles_eq (number connected) connected,Option.any_eq_true]
    exact and_iff_right connected
  · refine iff_of_false (fun both => connected both.1) ?_
    rintro ⟨p,member,_⟩
    rw [asked,if_neg connected] at member
    cases member

/-- In every reachable state a verified request is answered within the bounds if and only if it
    is bounded: the begin is not above the end, there is room for the range, and the rest of the
    panics are out of the question. -/
theorem resend_range_iff (allowed : World S → Input → Prop) (store : S) (_ : Reachable env allowed (World.initial store) w)
    {flags : VerificationFlags} (request : m.kind = some .ResendRequest) (flagged : VerificationFlags.for_message m = some flags)
    (passes : verified env w m flags = true) : Answered env w m ↔ Bounded env w m := by
  constructor
  · rintro ⟨clamps,room,returns⟩
    have number : w.state.is_connected = true → m.msg_seq_num.isSome = true := by
      intro connected
      by_contra missing
      have stumbles : request_stumbles env w m = true := by
        rw [request_stumbles,Option.not_isSome_iff_eq_none.mp missing]
      exact returns (on_resend_request_panics.mpr ⟨connected,stumbles⟩)
    refine ⟨fun connected _ => number connected,clamps,room,?_⟩
    intro p member messages cut
    by_contra unread
    rw [Bool.not_eq_false] at unread
    exact returns ((panics_iff_asked number).mpr ⟨p,member,(cannot_resend_roomy (room p member) p.2).mpr ⟨messages,cut,unread⟩⟩)
  · rintro ⟨expecting,sending,room,numbered⟩
    have number : w.state.is_connected = true → m.msg_seq_num.isSome = true := by
      intro connected
      by_contra missing
      exact missing (expecting connected (verified_number request flagged passes connected (Bool.eq_false_iff.mpr missing)))
    refine ⟨sending,room,?_⟩
    rw [panics_iff_asked number]
    rintro ⟨p,member,stumbles⟩
    obtain ⟨messages,cut,unread⟩ := (cannot_resend_roomy (room p member) p.2).mp stumbles
    rw [numbered p member messages cut] at unread
    cases unread

end

/-! ### Requests after the logon -/

/-- A peer that may ask from 1 or from 5 on. -/
def asking : Env := valid [logon,resend_request 2 1 0,resend_request 2 5 0]

/-- The session has sent its Logon and nothing else. -/
def behind : World Store := after asking [connect,receive logon]

theorem behind_reachable : Reachable asking (fun _ _ => True) start behind := reachable_after (by decide +kernel)

/-- The Logon is asked for, and the request is answered. -/
theorem first_request_answered : Answered asking behind (resend_request 2 1 0) := by
  have flagged : VerificationFlags.for_message (resend_request 2 1 0) = some ⟨false,true,false⟩ := by decide +kernel
  refine (resend_range_iff _ _ behind_reachable (by decide +kernel) flagged (by decide +kernel)).mpr ?_
  have range : (asked behind (resend_request 2 1 0)).map Prod.fst = some (1,1) := by decide +kernel
  have cut : (asked behind (resend_request 2 1 0)).any (fun p => cannot_resend asking (get_slice p.1.1 p.1.2 p.2)) = false := by
    decide +kernel
  have room : ∀ p ∈ asked behind (resend_request 2 1 0), Room p.1.1 p.1.2 := by
    intro p member
    have same : p.1 = (1,1) := by
      rw [Option.mem_def.mp member] at range
      exact Option.some.inj range
    rw [same]
    exact ⟨by decide,by decide⟩
  refine ⟨fun _ _ => by decide +kernel,fun _ _ => by decide +kernel,room,?_⟩
  intro p member messages found
  by_contra unread
  rw [Bool.not_eq_false] at unread
  have stumbles := (cannot_resend_roomy (room p member) p.2).mpr ⟨messages,found,unread⟩
  rw [Option.mem_def.mp member,Option.any_some,stumbles] at cut
  cases cut

/-- A peer that asks from 5 on, where 1 was the last number, makes the session panic. -/
theorem beyond_the_end : ¬ ∀ (env : Env) (store : Store) (w : World Store) (m : Message) (flags : VerificationFlags),
    Reachable env (fun _ _ => True) (World.initial store) w → m.kind = some .ResendRequest →
      VerificationFlags.for_message m = some flags → verified env w m flags = true → Answered env w m := by
  intro always
  have answered := always _ _ behind (resend_request 2 5 0) ⟨false,true,false⟩ behind_reachable (by decide +kernel) (by decide +kernel)
    (by decide +kernel)
  have range : (asked behind (resend_request 2 5 0)).map Prod.fst = some (5,1) := by decide +kernel
  obtain ⟨p,member,same⟩ := Option.map_eq_some_iff.mp range
  have ordered := (answered.room p member).ordered
  rw [same] at ordered
  exact absurd ordered (by decide)

end HotFix.Panics
