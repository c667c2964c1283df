import HotFix.Session

/-!
Verification as a list of requirements: a message is accepted when it meets them all, and
refused for the first it does not meet. A SendingTime that is no instant (the 31st of
February, a leap second) is not compared with the clock.
-/
namespace HotFix

/-! ### Checks in an order -/

namespace Ordered
variable {ρ ε : Type} (meets : ρ → Prop) (issue : ρ → ε)

/-- Accepted when all requirements are met, refused for the first that is not. -/
def Decided (requirements : List ρ) (outcome : Except ε Unit) : Prop :=
  (outcome = .ok () ↔ ∀ r ∈ requirements, meets r) ∧
  ∀ e, outcome = .error e → ∃ before r after, requirements = before ++ r :: after ∧ (∀ q ∈ before, meets q) ∧ ¬ meets r ∧ e = issue r

def run [DecidablePred meets] : List ρ → Except ε Unit
  | [] => .ok ()
  | r :: rest => if meets r then run rest else .error (issue r)

variable {meets} [DecidablePred meets] {issue}

theorem run_met {r : ρ} {rest : List ρ} (met : meets r) : run meets issue (r :: rest) = run meets issue rest := by
  rw [run,if_pos met]

theorem run_unmet {r : ρ} {rest : List ρ} (unmet : ¬ meets r) : run meets issue (r :: rest) = .error (issue r) := by
  rw [run,if_neg unmet]

theorem run_all {requirements : List ρ} (met : ∀ r ∈ requirements, meets r) : run meets issue requirements = .ok () := by
  induction requirements with
  | nil => rfl
  | cons r rest ih =>
    rw [run_met (met r List.mem_cons_self)]
    exact ih (fun q member => met q (List.mem_cons_of_mem _ member))

theorem run_first {before : List ρ} {r : ρ} (met : ∀ q ∈ before, meets q) (unmet : ¬ meets r) (after : List ρ) :
    run meets issue (before ++ r :: after) = .error (issue r) := by
  induction before with
  | nil => exact run_unmet unmet
  | cons q before ih =>
    rw [List.cons_append,run_met (met q List.mem_cons_self)]
    exact ih (fun q member => met q (List.mem_cons_of_mem _ member))

variable (meets) in
theorem all_or_first (requirements : List ρ) : (∀ r ∈ requirements, meets r) ∨
    ∃ before r after, requirements = before ++ r :: after ∧ (∀ q ∈ before, meets q) ∧ ¬ meets r := by
  induction requirements with
  | nil => exact .inl (List.forall_mem_nil _)
  | cons r rest ih =>
    by_cases met : meets r
    · rcases ih with all | ⟨before,q,after,rfl,ahead,unmet⟩
      · exact .inl (List.forall_mem_cons.mpr ⟨met,all⟩)
      · exact .inr ⟨r :: before,q,after,rfl,List.forall_mem_cons.mpr ⟨met,ahead⟩,unmet⟩
    · exact .inr ⟨[],r,rest,rfl,List.forall_mem_nil _,met⟩

/-- A list of requirements is checked part by part. -/
theorem run_append (front back : List ρ) :
    run meets issue (front ++ back) = (run meets issue front >>= fun _ => run meets issue back) := by
  rcases all_or_first meets front with all | ⟨before,r,after,rfl,met,unmet⟩
  · rw [run_all all]
    induction front with
    | nil => rfl
    | cons r front ih =>
      rw [List.cons_append,run_met (all r List.mem_cons_self)]
      exact ih (fun q member => all q (List.mem_cons_of_mem _ member))
  · rw [run_first met unmet after,List.append_assoc,List.cons_append,run_first met unmet]
    rfl

/-- There is one outcome that is so decided. -/
theorem decided_iff {requirements : List ρ} {outcome : Except ε Unit} :
    Decided meets issue requirements outcome ↔ outcome = run meets issue requirements := by
  constructor
  · rintro ⟨accepted,refused⟩
    cases outcome with
    | ok value => rw [run_all (accepted.mp rfl)]
    | error e =>
      obtain ⟨before,r,after,rfl,met,unmet,rfl⟩ := refused e rfl
      rw [run_first met unmet]
  · rintro rfl
    rcases all_or_first meets requirements with all | ⟨before,r,after,rfl,met,unmet⟩
    · rw [run_all all]
      refine ⟨⟨fun _ => all,fun _ => rfl⟩,?_⟩
      intro e refused
      cases refused
    · rw [run_first met unmet]
      constructor
      · constructor
        · intro accepted
          cases accepted
        · intro all
          exact absurd (all r (by simp)) unmet
      · intro e refused
        cases refused
        exact ⟨before,r,after,rfl,met,unmet,rfl⟩

end Ordered

/-! ### The requirements -/

/-- The clock: `Timestamp::utc_now`, which is made from an instant. -/
structure Clock where
  now : Timestamp
  instant : Nat
  converts : now.to_chrono_utc = some instant

inductive Requirement where
  | BeginString
  | SenderCompID
  | TargetCompID
  | SendingTime
  | Accuracy
  | OrigSendingTime
  | OrigSendingTimeOrder
  | NotTooHigh
  | NotTooLow
  deriving DecidableEq

/-- The order of the checks. -/
def Requirement.all : List Requirement :=
  [.BeginString,.SenderCompID,.TargetCompID,.SendingTime,.Accuracy,.OrigSendingTime,.OrigSendingTimeOrder,.NotTooHigh,.NotTooLow]

/-- Who sent the message, and to whom. -/
def Requirement.identity : List Requirement := [.BeginString,.SenderCompID,.TargetCompID]

namespace Message
variable (m : Message) (config : SessionConfig) (expected : Nat) (flags : VerificationFlags) (clock : Clock)

def Meets : Requirement → Prop
  | .BeginString => (m.header.get_str BEGIN_STRING).getD [] = config.begin_string
  | .SenderCompID => (m.header.get_str SENDER_COMP_ID).getD [] = config.target_comp_id
  | .TargetCompID => (m.header.get_str TARGET_COMP_ID).getD [] = config.sender_comp_id
  | .SendingTime => (m.header.get_timestamp SENDING_TIME).isSome = true
  | .Accuracy => ∃ sending_time ∈ m.header.get_timestamp SENDING_TIME, ∃ instant ∈ sending_time.to_chrono_utc,
      instant < clock.instant + 121000 ∧ clock.instant < instant + 121000
  | .OrigSendingTime => flags.check_orig_sending_time = true → (m.header.get_timestamp ORIG_SENDING_TIME).isSome = true
  | .OrigSendingTimeOrder => flags.check_orig_sending_time = true → ∀ original ∈ m.header.get_timestamp ORIG_SENDING_TIME,
      ∀ sending_time ∈ m.header.get_timestamp SENDING_TIME, ¬ original.after sending_time = true
  | .NotTooHigh => flags.check_too_high = true → m.msg_seq_num.getD 0 ≤ expected
  | .NotTooLow => flags.check_too_low = true → expected ≤ m.msg_seq_num.getD 0

instance : DecidablePred (m.Meets config expected flags clock)
  | .BeginString => inferInstanceAs (Decidable (_ = _))
  | .SenderCompID => inferInstanceAs (Decidable (_ = _))
  | .TargetCompID => inferInstanceAs (Decidable (_ = _))
  | .SendingTime => inferInstanceAs (Decidable (_ = _))
  | .Accuracy => inferInstanceAs (Decidable (∃ sending_time ∈ m.header.get_timestamp SENDING_TIME, _))
  | .OrigSendingTime => inferInstanceAs (Decidable (_ → _))
  | .OrigSendingTimeOrder => inferInstanceAs (Decidable (flags.check_orig_sending_time = true →
      ∀ original ∈ m.header.get_timestamp ORIG_SENDING_TIME, _))
  | .NotTooHigh => inferInstanceAs (Decidable (_ → _))
  | .NotTooLow => inferInstanceAs (Decidable (_ → _))

/-- What is reported of a message that does not meet the requirement. -/
def issue : Requirement → VerificationIssue
  | .BeginString => .InvalidMessage (.IncorrectBeginString ((m.header.get_str BEGIN_STRING).getD []))
  | .SenderCompID => .InvalidMessage (.IncorrectCompId ((m.header.get_str SENDER_COMP_ID).getD []) .Sender (m.msg_seq_num.getD 0))
  | .TargetCompID => .InvalidMessage (.IncorrectCompId ((m.header.get_str TARGET_COMP_ID).getD []) .Target (m.msg_seq_num.getD 0))
  | .SendingTime => .InvalidMessage (.SendingTimeMissing (m.msg_seq_num.getD 0))
  | .Accuracy => .InvalidMessage (.SendingTimeAccuracyIssue (m.msg_seq_num.getD 0))
  | .OrigSendingTime => .InvalidMessage (.OriginalSendingTimeMissing (m.msg_seq_num.getD 0))
  | .OrigSendingTimeOrder =>
    match m.header.get_timestamp ORIG_SENDING_TIME,m.header.get_timestamp SENDING_TIME with
    | some original,some sending_time =>
      .InvalidMessage (.OriginalSendingTimeAfterSendingTime (m.msg_seq_num.getD 0) original sending_time)
    | _,_ => .InvalidMessage (.OriginalSendingTimeMissing (m.msg_seq_num.getD 0))
  | .NotTooHigh => .SequenceGap expected (m.msg_seq_num.getD 0)
  | .NotTooLow => .InvalidMessage (.SeqNumberTooLow expected (m.msg_seq_num.getD 0) m.poss_dup)

/-- What is read as a SendingTime is an instant, or the checks before it have failed. -/
def SendingTimeConverts : Prop :=
  (∀ r ∈ Requirement.identity, m.Meets config expected flags clock r) →
    ∀ t ∈ m.header.get_timestamp SENDING_TIME, t.to_chrono_utc.isSome = true

/-! ### Check by check -/

variable {m config expected flags clock}

theorem mapError_bind {ε δ α β : Type} (g : ε → δ) (x : Except ε α) (f : α → Except ε β) :
    (x >>= f).mapError g = x.mapError g >>= fun a => (f a).mapError g := by
  cases x <;> rfl

theorem verify_message_stages : verify_message m config (some expected) flags clock.now = (do
    (check_begin_string m config.begin_string).mapError .InvalidMessage
    (check_sender_comp_id m (m.msg_seq_num.getD 0) config.target_comp_id).mapError .InvalidMessage
    (check_target_comp_id m (m.msg_seq_num.getD 0) config.sender_comp_id).mapError .InvalidMessage
    let sending_time ← (check_sending_time m (m.msg_seq_num.getD 0) clock.now).mapError .InvalidMessage
    (if flags.check_orig_sending_time then check_original_sending_time m (m.msg_seq_num.getD 0) sending_time
      else .ok ()).mapError .InvalidMessage
    check_sequence_number (m.msg_seq_num.getD 0) expected m.poss_dup flags.check_too_high flags.check_too_low) := by
  unfold verify_message check_identity_and_times
  simp only [mapError_bind,bind_assoc]
  rfl

variable (expected flags clock) in
theorem checks_begin_string : (check_begin_string m config.begin_string).mapError .InvalidMessage =
    Ordered.run (m.Meets config expected flags clock) (m.issue expected) [.BeginString] := by
  unfold check_begin_string
  dsimp only
  split_ifs with other
  · have unmet : ¬ m.Meets config expected flags clock .BeginString := other
    rw [Ordered.run_unmet unmet]
    rfl
  · have met : m.Meets config expected flags clock .BeginString := not_not.mp other
    rw [Ordered.run_met met]
    rfl

theorem checks_comp_id {r : Requirement} {field : FieldDefinition} {kind : CompIdType} {expected_comp_id : Bytes}
    (meets : m.Meets config expected flags clock r ↔ (m.header.get_str field).getD [] = expected_comp_id)
    (reports : m.issue expected r = .InvalidMessage (.IncorrectCompId ((m.header.get_str field).getD []) kind (m.msg_seq_num.getD 0))) :
    (check_comp_id field kind m (m.msg_seq_num.getD 0) expected_comp_id).mapError .InvalidMessage =
      Ordered.run (m.Meets config expected flags clock) (m.issue expected) [r] := by
  unfold check_comp_id
  dsimp only
  split_ifs with other
  · rw [Ordered.run_unmet (fun met => other (meets.mp met)),reports]
    rfl
  · rw [Ordered.run_met (meets.mpr (not_not.mp other))]
    rfl

variable (config clock) in
theorem checks_sequence_number :
    check_sequence_number (m.msg_seq_num.getD 0) expected m.poss_dup flags.check_too_high flags.check_too_low =
      Ordered.run (m.Meets config expected flags clock) (m.issue expected) [.NotTooHigh,.NotTooLow] := by
  unfold check_sequence_number
  have high : m.Meets config expected flags clock .NotTooHigh ↔ ¬ (m.msg_seq_num.getD 0 > expected ∧ flags.check_too_high = true) := by
    simp only [Meets,not_and',gt_iff_lt,not_lt]
  have low : m.Meets config expected flags clock .NotTooLow ↔ ¬ (m.msg_seq_num.getD 0 < expected ∧ flags.check_too_low = true) := by
    simp only [Meets,not_and',not_lt]
  split_ifs with above below
  · rw [Ordered.run_unmet (fun met => high.mp met above)]
    rfl
  · rw [Ordered.run_met (high.mpr above),Ordered.run_unmet (fun met => low.mp met below)]
    rfl
  · rw [Ordered.run_met (high.mpr above),Ordered.run_met (low.mpr below)]
    rfl

theorem checks_original_sending_time {sending_time : Timestamp} (sent : m.header.get_timestamp SENDING_TIME = some sending_time) :
    (if flags.check_orig_sending_time then check_original_sending_time m (m.msg_seq_num.getD 0) sending_time
      else .ok ()).mapError .InvalidMessage =
      Ordered.run (m.Meets config expected flags clock) (m.issue expected) [.OrigSendingTime,.OrigSendingTimeOrder] := by
  split_ifs with asked
  · unfold check_original_sending_time
    cases found : m.header.get_timestamp ORIG_SENDING_TIME with
    | none =>
      have unmet : ¬ m.Meets config expected flags clock .OrigSendingTime := by
        intro met
        exact absurd (met asked) (by rw [found]; decide)
      rw [Ordered.run_unmet unmet]
      rfl
    | some original =>
      rw [Ordered.run_met (fun _ => by rw [found]; rfl)]
      dsimp only
      split_ifs with after
      · rw [Ordered.run_unmet (fun met => met asked original found sending_time sent after)]
        simp only [issue,found,sent]
        rfl
      · have met : m.Meets config expected flags clock .OrigSendingTimeOrder := by
          intro _ other same sending_time' same'
          rw [Option.mem_def,found] at same
          rw [Option.mem_def,sent] at same'
          cases same
          cases same'
          exact after
        rw [Ordered.run_met met]
        rfl
  · rw [Ordered.run_met (fun on => absurd on asked),Ordered.run_met (fun on => absurd on asked)]
    rfl

variable (config expected flags clock) in
theorem checks_sending_time_missing (missing : m.header.get_timestamp SENDING_TIME = none) (rest : List Requirement) :
    (check_sending_time m (m.msg_seq_num.getD 0) clock.now).mapError VerificationIssue.InvalidMessage =
        .error (.InvalidMessage (.SendingTimeMissing (m.msg_seq_num.getD 0))) ∧
      Ordered.run (m.Meets config expected flags clock) (m.issue expected) (.SendingTime :: rest) =
        .error (.InvalidMessage (.SendingTimeMissing (m.msg_seq_num.getD 0))) := by
  have unmet : ¬ m.Meets config expected flags clock .SendingTime := by
    simp only [Meets,missing]
    decide
  rw [Ordered.run_unmet unmet]
  unfold check_sending_time
  rw [missing]
  exact ⟨rfl,rfl⟩

/-- The threshold counts whole seconds. -/
theorem near_iff {a b : Nat} : seconds_between a b > SENDING_TIME_THRESHOLD ↔ ¬ (a < b + 121000 ∧ b < a + 121000) := by
  unfold seconds_between SENDING_TIME_THRESHOLD
  split_ifs <;> omega

variable (config expected flags clock) in
theorem checks_sending_time {sending_time : Timestamp} {instant : Nat} (sent : m.header.get_timestamp SENDING_TIME = some sending_time)
    (converts : sending_time.to_chrono_utc = some instant) :
    (check_sending_time m (m.msg_seq_num.getD 0) clock.now).mapError VerificationIssue.InvalidMessage =
      (Ordered.run (m.Meets config expected flags clock) (m.issue expected) [.SendingTime,.Accuracy] >>= fun _ => .ok sending_time) := by
  have present : m.Meets config expected flags clock .SendingTime := by
    simp only [Meets,sent]
    rfl
  have accurate : m.Meets config expected flags clock .Accuracy ↔ instant < clock.instant + 121000 ∧ clock.instant < instant + 121000 := by
    simp [Meets,sent,converts]
  rw [Ordered.run_met present]
  unfold check_sending_time
  simp only [sent,converts,clock.converts]
  split_ifs with far
  · rw [Ordered.run_unmet (fun met => near_iff.mp far (accurate.mp met))]
    rfl
  · rw [Ordered.run_met (accurate.mpr (not_not.mp (mt near_iff.mpr far)))]
    rfl

variable (clock) in
/-- What is no instant is not compared with the clock. -/
theorem checks_sending_time_skipped {sending_time : Timestamp} (sent : m.header.get_timestamp SENDING_TIME = some sending_time)
    (unconverted : sending_time.to_chrono_utc = none) (n : Nat) :
    (check_sending_time m n clock.now).mapError VerificationIssue.InvalidMessage = .ok sending_time := by
  unfold check_sending_time
  rw [sent]
  dsimp only
  rw [unconverted]
  rfl

/-- The identity, then the rest. -/
theorem verify_message_identity : verify_message m config (some expected) flags clock.now =
    (Ordered.run (m.Meets config expected flags clock) (m.issue expected) Requirement.identity >>= fun _ => do
      let sending_time ← (check_sending_time m (m.msg_seq_num.getD 0) clock.now).mapError VerificationIssue.InvalidMessage
      (if flags.check_orig_sending_time then check_original_sending_time m (m.msg_seq_num.getD 0) sending_time
        else .ok ()).mapError VerificationIssue.InvalidMessage
      check_sequence_number (m.msg_seq_num.getD 0) expected m.poss_dup flags.check_too_high flags.check_too_low) := by
  have sender : (check_sender_comp_id m (m.msg_seq_num.getD 0) config.target_comp_id).mapError .InvalidMessage =
      Ordered.run (m.Meets config expected flags clock) (m.issue expected) [.SenderCompID] := checks_comp_id Iff.rfl rfl
  have target : (check_target_comp_id m (m.msg_seq_num.getD 0) config.sender_comp_id).mapError .InvalidMessage =
      Ordered.run (m.Meets config expected flags clock) (m.issue expected) [.TargetCompID] := checks_comp_id Iff.rfl rfl
  rw [verify_message_stages,checks_begin_string expected flags clock,sender,target]
  rw [show Requirement.identity = [.BeginString] ++ ([.SenderCompID] ++ [.TargetCompID]) from rfl,Ordered.run_append,Ordered.run_append]
  simp only [bind_assoc]

variable (config expected flags clock) in
/-- The checks after the identity, on a message with a SendingTime. -/
theorem verify_message_rest {sending_time : Timestamp} (sent : m.header.get_timestamp SENDING_TIME = some sending_time) :
    ((if flags.check_orig_sending_time then check_original_sending_time m (m.msg_seq_num.getD 0) sending_time
        else .ok ()).mapError VerificationIssue.InvalidMessage >>= fun _ =>
      check_sequence_number (m.msg_seq_num.getD 0) expected m.poss_dup flags.check_too_high flags.check_too_low) =
    Ordered.run (m.Meets config expected flags clock) (m.issue expected)
      [.OrigSendingTime,.OrigSendingTimeOrder,.NotTooHigh,.NotTooLow] := by
  rw [checks_original_sending_time sent,checks_sequence_number config clock]
  exact (Ordered.run_append [_,_] [_,_]).symm

/-- Where SendingTime converts, the outcome is that of the requirements in their order. -/
theorem verify_message_run (converts : m.SendingTimeConverts config expected flags clock) :
    verify_message m config (some expected) flags clock.now =
      Ordered.run (m.Meets config expected flags clock) (m.issue expected) Requirement.all := by
  rw [verify_message_identity]
  rw [show Requirement.all = Requirement.identity ++
    [.SendingTime,.Accuracy,.OrigSendingTime,.OrigSendingTimeOrder,.NotTooHigh,.NotTooLow] from rfl,Ordered.run_append]
  rcases Ordered.all_or_first (m.Meets config expected flags clock) Requirement.identity with met | ⟨before,r,after,split,met,unmet⟩
  · rw [Ordered.run_all met]
    cases sent : m.header.get_timestamp SENDING_TIME with
    | none =>
      obtain ⟨left,right⟩ := checks_sending_time_missing config expected flags clock sent
        [.Accuracy,.OrigSendingTime,.OrigSendingTimeOrder,.NotTooHigh,.NotTooLow]
      simp only [bind,Except.bind]
      rw [left]
      exact right.symm
    | some sending_time =>
      obtain ⟨instant,conversion⟩ := Option.isSome_iff_exists.mp (converts met sending_time sent)
      have rest := verify_message_rest config expected flags clock sent
      have front := checks_sending_time config expected flags clock sent conversion
      rw [show [Requirement.SendingTime,.Accuracy,.OrigSendingTime,.OrigSendingTimeOrder,.NotTooHigh,.NotTooLow] =
        [.SendingTime,.Accuracy] ++ [.OrigSendingTime,.OrigSendingTimeOrder,.NotTooHigh,.NotTooLow] from rfl,Ordered.run_append,front,← rest]
      simp only [bind_assoc]
      rfl
  · rw [split,Ordered.run_first met unmet]
    rfl

/-- The checks after the threshold do not report it. -/
theorem late_issue {r : Requirement} (late : r ∈ [Requirement.OrigSendingTime,.OrigSendingTimeOrder,.NotTooHigh,.NotTooLow]) {n : Nat} :
    VerificationIssue.InvalidMessage (.SendingTimeAccuracyIssue n) ≠ m.issue expected r := by
  simp only [List.mem_cons,List.not_mem_nil,or_false] at late
  rcases late with rfl | rfl | rfl | rfl
  · simp [issue]
  · simp only [issue]
    cases m.header.get_timestamp ORIG_SENDING_TIME with
    | none => simp
    | some original => cases m.header.get_timestamp SENDING_TIME <;> simp
  · simp [issue]
  · simp [issue]

/-- Where the outcome is that of the requirements, SendingTime converts: otherwise the code goes
    on, and reports none of the times. -/
theorem converts_of_decided (decided : Ordered.Decided (m.Meets config expected flags clock) (m.issue expected) Requirement.all
    (verify_message m config (some expected) flags clock.now)) : m.SendingTimeConverts config expected flags clock := by
  rw [Ordered.decided_iff] at decided
  intro met sending_time sent
  by_contra unconverted
  rw [Option.not_isSome_iff_eq_none] at unconverted
  have skipped := checks_sending_time_skipped clock sent unconverted (m.msg_seq_num.getD 0)
  have present : m.Meets config expected flags clock .SendingTime := Option.isSome_iff_exists.mpr ⟨sending_time,sent⟩
  have unmet : ¬ m.Meets config expected flags clock .Accuracy := by
    rintro ⟨other,same,instant,conversion,_⟩
    rw [Option.mem_def,sent] at same
    cases same
    rw [Option.mem_def,unconverted] at conversion
    cases conversion
  have ahead : ∀ q ∈ Requirement.identity ++ [.SendingTime], m.Meets config expected flags clock q :=
    List.forall_mem_append.mpr ⟨met,List.forall_mem_singleton.mpr present⟩
  have refused : Ordered.run (m.Meets config expected flags clock) (m.issue expected) Requirement.all =
      .error (.InvalidMessage (.SendingTimeAccuracyIssue (m.msg_seq_num.getD 0))) :=
    Ordered.run_first ahead unmet [.OrigSendingTime,.OrigSendingTimeOrder,.NotTooHigh,.NotTooLow]
  rw [verify_message_identity,Ordered.run_all met,skipped,refused] at decided
  have later := (verify_message_rest config expected flags clock sent).symm.trans decided
  obtain ⟨before,r,after,split,_,_,reported⟩ := (Ordered.decided_iff.mpr rfl).2 _ later
  have member : r ∈ [Requirement.OrigSendingTime,.OrigSendingTimeOrder,.NotTooHigh,.NotTooLow] := by simp [split]
  exact absurd reported (late_issue member)

/-- A message is accepted when it meets the requirements, and refused for the first it does not
    meet, if and only if its SendingTime converts or the identity is refused. -/
theorem verify_message_decided_iff (m : Message) (config : SessionConfig) (expected : Nat) (flags : VerificationFlags) (clock : Clock) :
    Ordered.Decided (m.Meets config expected flags clock) (m.issue expected) Requirement.all
      (verify_message m config (some expected) flags clock.now) ↔ m.SendingTimeConverts config expected flags clock :=
  ⟨converts_of_decided,fun converts => Ordered.decided_iff.mpr (verify_message_run converts)⟩

end Message

namespace Sample

/-- A report of a day that does not exist. -/
def february_report : Message := message (ascii "8") 1 [(SENDING_TIME,ascii "20240231-12:00:00.000")]

end Sample

/-- A report dated the 31st of February is accepted. -/
theorem no_such_day_accepted : ¬ ∀ (m : Message) (config : SessionConfig) (expected : Nat) (flags : VerificationFlags) (clock : Clock),
    Ordered.Decided (m.Meets config expected flags clock) (m.issue expected) Requirement.all
      (verify_message m config (some expected) flags clock.now) := by
  intro always
  have decided := always Sample.february_report Sample.config 1 ⟨true,true,false⟩ ⟨Sample.now,63871329600000,by decide +kernel⟩
  have converts := Message.converts_of_decided decided
  exact absurd (converts (by decide +kernel)) (by decide +kernel)

end HotFix
