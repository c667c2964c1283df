import HotFix.Sequences

/-!
The document store against the store in memory. As long as no answer of the server is
lost, the current sequence of the collection holds what the memory does, so that the
store answers as the memory, also after it was closed and opened while that sequence was
the newest. It cannot be opened again once a number is too large for a stored integer.
-/
namespace HotFix.SequenceRuns
open HotFix.Documents HotFix.MongoDb HotFix.Persistence HotFix.Sequences MessageStore
variable {arith : Arith} {server : Server}

/-! ### The store in memory -/

/-- The current sequence has the greatest identifier. -/
def Newest (c : Collection) (current : SequenceMeta) : Prop := ∀ id ∈ roots c.documents, id ≤ current.object_id

/-- The store will be opened at its current sequence. -/
def Latest (s : MongoDbMessageStore arith server) : Prop := Newest s.collection s.current_sequence

/-- The collection holds what the memory does, in its current sequence, which is the newest
    if identifiers grow. -/
structure Holds (server : Server) (c : Collection) (current : SequenceMeta) (m : InMemoryMessageStore arith) : Prop where
  orderly : Orderly server c
  stored : .Meta (written current) ∈ c.documents
  homed : Homed c
  newest : StrictMono server.ids → Newest c current
  sender : current.sender_seq_number = m.sender_seq_number
  target : current.target_seq_number = m.target_seq_number
  created : current.creation_time = millis m.creation_time
  sender_fits : current.sender_seq_number < I64_END
  target_fits : current.target_seq_number < U64
  numbered : ∀ message, .Message message ∈ c.documents → ∃ n : Nat, message.msg_seq_number = (n : Int) ∧ n < I64_END
  messages : ∀ n data, m.messages n = some data ↔
    ∃ object_id, .Message ⟨object_id,current.object_id,n,data⟩ ∈ c.documents

section
variable {s s' : MongoDbMessageStore arith server} {m : InMemoryMessageStore arith} {c c' : Collection} {current : SequenceMeta}

theorem zero_fits : 0 < I64_END ∧ 0 < U64 := by decide

theorem as_i64_small {n : Nat} (small : n < I64_END) : as_i64 n = n := if_pos small

theorem Holds.same (holds : Holds server c current m) (documents : c'.documents = c.documents)
    (more : c.handed_out ≤ c'.handed_out) : Holds server c' current m := by
  obtain ⟨orderly,stored,homed,newest,sender,target,created,sender_fits,target_fits,numbered,messages⟩ := holds
  unfold Homed at homed
  unfold Newest at newest
  rw [← documents] at stored homed newest numbered messages
  exact ⟨orderly.same documents more,stored,homed,newest,sender,target,created,sender_fits,target_fits,numbered,messages⟩

theorem Newest.within {current : SequenceMeta} (newest : Newest c current)
    (within : ∀ document ∈ c'.documents, document ∈ c.documents) : Newest c' current := by
  intro id member
  obtain ⟨stored,inside,same⟩ := mem_roots.mp member
  exact newest id (mem_roots.mpr ⟨stored,within _ inside,same⟩)

theorem Holds.rooted (holds : Holds server c current m) : current.object_id ∈ roots c.documents :=
  mem_roots.mpr ⟨_,holds.stored,rfl⟩

/-- Deleting what belongs to other sequences changes nothing. -/
theorem Holds.kept_from {cutoff : Int} {exclude_id : Option ObjectId} (holds : Holds server c current m)
    (spares : ¬ Outdated c cutoff exclude_id current.object_id) (cleaned : Cleaned server c c' cutoff exclude_id) :
    Holds server c' current m where
  orderly := cleaned.orderly
  stored := cleaned.spared _ holds.stored spares
  homed := cleaned.homed holds.homed
  newest increasing := (holds.newest increasing).within cleaned.within
  sender := holds.sender
  target := holds.target
  created := holds.created
  sender_fits := holds.sender_fits
  target_fits := holds.target_fits
  numbered message member := holds.numbered message (cleaned.within _ member)
  messages n data := by
    exact (holds.messages n data).trans (exists_congr (fun object_id =>
      ⟨fun member => cleaned.spared _ member spares,cleaned.within _⟩))

theorem Holds.cleaned {cutoff : Int} (holds : Holds server c current m)
    (cleaned : Cleaned server c c' cutoff (some current.object_id)) : Holds server c' current m :=
  holds.kept_from not_outdated_excluded cleaned

/-- An update of the current sequence finds its document. -/
theorem Holds.update (holds : Holds server c current m) {change : MetaDocument → Option MetaDocument}
    (updated : update_one current.object_id change c.documents = some c'.documents) :
    ∃ stored, change (written current) = some stored ∧ ∀ document, document ∈ c'.documents ↔
      document ∈ c.documents ∧ document.object_id ≠ current.object_id ∨ document = .Meta stored := by
  have found := holds.orderly.find_sequence holds.stored
  unfold update_one at updated
  rw [show current.object_id = (written current).object_id from rfl,found] at updated
  obtain ⟨stored,allowed,documents⟩ := Option.map_eq_some_iff.mp updated
  refine ⟨stored,allowed,fun document => ?_⟩
  have keyed : (c.documents.filterMap (fun d => some d.object_id)).Nodup := by
    rw [List.filterMap_eq_map']
    exact holds.orderly.unique
  have changes := @mem_update_keyed _ _ (fun _ => Document.Meta stored) _ _ _ keyed current.object_id document
  simp only [ne_eq,Option.some.injEq] at changes
  rw [← documents]
  refine changes.trans (or_congr_right ⟨?_,fun same => ⟨_,holds.stored,rfl,same⟩⟩)
  rintro ⟨_,_,_,same⟩
  exact same

/-- The numbers change where they are stored and in memory. -/
theorem Holds.updated (holds : Holds server c current m) (kept : Kept server c c' (some current.object_id)) {changed : SequenceMeta}
    {m' : InMemoryMessageStore arith} (id : changed.object_id = current.object_id)
    (time : changed.creation_time = current.creation_time)
    (member : ∀ document, document ∈ c'.documents ↔
      document ∈ c.documents ∧ document.object_id ≠ current.object_id ∨ document = .Meta (written changed))
    (sender : changed.sender_seq_number = m'.sender_seq_number) (target : changed.target_seq_number = m'.target_seq_number)
    (created : m'.creation_time = m.creation_time) (messages : m'.messages = m.messages)
    (sender_fits : changed.sender_seq_number < I64_END) (target_fits : changed.target_seq_number < U64) :
    Holds server c' changed m' := by
  have message_same (message : MongoDb.Message) : .Message message ∈ c'.documents ↔ .Message message ∈ c.documents := by
    rw [member]
    constructor
    · rintro (⟨inside,_⟩ | other)
      · exact inside
      · cases other
    · exact fun inside => .inl ⟨inside,holds.orderly.apart holds.stored inside⟩
  refine ⟨kept.orderly,(member _).mpr (.inr rfl),kept.homed (fun i same => Option.some.inj same ▸ holds.rooted) holds.homed,
    fun increasing i inside => ?_,sender,target,?_,sender_fits,target_fits,
    fun message inside => holds.numbered message ((message_same message).mp inside),fun n data => ?_⟩
  · rw [id]
    obtain ⟨stored,there,rfl⟩ := mem_roots.mp inside
    rcases (member _).mp there with ⟨before,_⟩ | same
    · exact holds.newest increasing _ (mem_roots.mpr ⟨stored,before,rfl⟩)
    · cases same
      exact id.le
  · rw [time,holds.created,created]
  · rw [messages,id]
    exact (holds.messages n data).trans (exists_congr (fun object_id => (message_same _).symm))

/-- A sequence that is begun holds nothing. -/
theorem Holds.opened {now : DateTime} {any : Option ObjectId} (kept : Kept server c c' any) (injective : Function.Injective server.ids)
    (before : Orderly server c) (homed : Homed c) (numbered : ∀ message, .Message message ∈ c.documents →
      ∃ n : Nat, message.msg_seq_number = (n : Int) ∧ n < I64_END)
    (documents : c'.documents = c.documents ++ [.Meta (written (opening server now c))]) {time : DateTime}
    (created : millis time = millis now) :
    Holds server c' (opening server now c) (InMemoryMessageStore.new time : InMemoryMessageStore arith) := by
  have older (message : MongoDb.Message) (member : .Message message ∈ c'.documents) : .Message message ∈ c.documents := by
    rw [documents] at member
    rcases List.mem_append.mp member with inside | last
    · exact inside
    · cases List.mem_singleton.mp last
  refine ⟨kept.orderly,?_,fun id member => ?_,fun increasing i inside => ?_,rfl,rfl,created.symm,zero_fits.1,zero_fits.2,
    fun message member => numbered message (older message member),fun n data => ⟨fun none_there => ?_,?_⟩⟩
  · rw [documents]
    exact List.mem_append_right _ (List.mem_singleton.mpr rfl)
  · obtain ⟨message,inside,same⟩ := mem_homes.mp member
    exact kept.rooted id (homed id (mem_homes.mpr ⟨message,older message inside,same⟩))
  · obtain ⟨stored,there,rfl⟩ := mem_roots.mp inside
    rw [documents] at there
    rcases List.mem_append.mp there with older | last
    · obtain ⟨k,less,same⟩ := before.minted _ (List.mem_map_of_mem older)
      rw [show stored.object_id = server.ids k from same.symm]
      exact (increasing less).le
    · cases List.mem_singleton.mp last
      exact le_rfl
  · cases none_there
  · rintro ⟨object_id,member⟩
    obtain ⟨stored,sequence,same⟩ := mem_roots.mp (homed _ (mem_homes.mpr ⟨_,older _ member,rfl⟩))
    exact absurd (List.mem_map.mpr ⟨_,sequence,same⟩) (before.fresh injective)

/-- A message is replaced where its key is held, and added where it is not. -/
theorem replace_one_members {documents : List Document} (keys : (documents.filterMap Document.key).Nodup) (key : ObjectId × Int)
    (replacement : ObjectId → Document) (object_id : ObjectId) :
    (∀ d ∈ replace_one key replacement object_id documents, d ∈ documents ∧ d.key ≠ some key ∨ ∃ id, d = replacement id) ∧
      (∀ d ∈ documents, d.key ≠ some key → d ∈ replace_one key replacement object_id documents) ∧
      ∃ id, replacement id ∈ replace_one key replacement object_id documents := by
  unfold replace_one
  split_ifs with held
  · have changes := @mem_update_keyed _ _ (fun old => replacement old.object_id) _ _ _ keys key
    refine ⟨fun d member => ?_,fun d member other => (changes d).mpr (.inl ⟨member,other⟩),?_⟩
    · rcases (changes d).mp member with kept | ⟨old,_,_,same⟩
      · exact .inl kept
      · exact .inr ⟨_,same⟩
    · obtain ⟨old,member,same⟩ := List.any_eq_true.mp held
      exact ⟨old.object_id,(changes _).mpr (.inr ⟨old,member,of_decide_eq_true same,rfl⟩)⟩
  · refine ⟨fun d member => ?_,fun d member _ => List.mem_append_left _ member,
      object_id,List.mem_append_right _ (List.mem_singleton.mpr rfl)⟩
    rcases List.mem_append.mp member with inside | last
    · exact .inl ⟨inside,fun same => held (List.any_eq_true.mpr ⟨d,inside,decide_eq_true same⟩)⟩
    · exact .inr ⟨_,List.mem_singleton.mp last⟩

theorem Holds.added (holds : Holds server c current m) (kept : Kept server c c' (some current.object_id)) {n : Nat} {message : Bytes} (small : n < I64_END)
    {object_id : ObjectId}
    (documents : c'.documents = replace_one (current.object_id,as_i64 n) (filed current.object_id n message) object_id c.documents) :
    Holds server c' current (MessageStore.add n message m).2 := by
  obtain ⟨split,others,id,there⟩ := replace_one_members holds.orderly.keys (current.object_id,as_i64 n)
    (filed current.object_id n message) object_id
  rw [← documents] at split others there
  rw [as_i64_small small] at split others
  refine ⟨kept.orderly,others _ holds.stored (fun keyed => by cases keyed),
    kept.homed (fun i same => Option.some.inj same ▸ holds.rooted) holds.homed,fun increasing i inside => ?_,holds.sender,holds.target,
    holds.created,holds.sender_fits,holds.target_fits,fun stored member => ?_,fun k data => ?_⟩
  · obtain ⟨stored,member,rfl⟩ := mem_roots.mp inside
    rcases split _ member with ⟨before,_⟩ | ⟨_,other⟩
    · exact holds.newest increasing _ (mem_roots.mpr ⟨stored,before,rfl⟩)
    · cases other
  · rcases split _ member with ⟨before,_⟩ | ⟨_,same⟩
    · exact holds.numbered stored before
    · cases same
      exact ⟨n,rfl,small⟩
  · show (if k = n then some message else m.messages k) = some data ↔ _
    by_cases here : k = n
    · rw [if_pos here,here]
      constructor
      · intro same
        cases same
        exact ⟨id,there⟩
      · rintro ⟨other_id,member⟩
        rcases split _ member with ⟨_,other⟩ | ⟨_,same⟩
        · exact absurd rfl other
        · cases same
          rfl
    · rw [if_neg here]
      refine (holds.messages k data).trans (exists_congr (fun other_id => ⟨fun member => others _ member ?_,fun member => ?_⟩))
      · intro keyed
        exact here (Int.ofNat.inj (congrArg Prod.snd (Option.some.inj keyed)))
      · rcases split _ member with ⟨before,_⟩ | ⟨_,same⟩
        · exact before
        · simp only [filed,Document.Message.injEq,MongoDb.Message.mk.injEq,Nat.cast_inj] at same
          exact absurd same.2.2.1 here

theorem i64_end_double : U64 = I64_END + I64_END := by decide

/-- Counting on the server and in memory agrees while the number has 64 bits. -/
theorem inc_as_i64 {n : Nat} {x : Int} (fits : n < U64) (next_fits : arith.add n 1 < U64)
    (counted : MongoDbMessageStore.inc (as_i64 n) = some x) : x = as_i64 (arith.add n 1) := by
  have double := i64_end_double
  unfold MongoDbMessageStore.inc at counted
  split_ifs at counted with room
  cases counted
  unfold as_i64 at room ⊢
  by_cases last : n + 1 = U64
  · have around : arith.add n 1 = 0 := by
      cases arith with
      | exact => exact absurd next_fits (by simp [Arith.add,last])
      | wrapping => simp [Arith.add,last,U64]
    rw [around,if_neg (by omega),if_pos zero_fits.1]
    omega
  · have next : arith.add n 1 = n + 1 := by
      cases arith with
      | exact => rfl
      | wrapping => exact Nat.mod_eq_of_lt (by unfold U64 at *; omega)
    rw [next]
    split_ifs at room ⊢ <;> omega

theorem inc_small {n : Nat} {x : Int} (fits : n < I64_END) (counted : MongoDbMessageStore.inc (as_i64 n) = some x) :
    n + 1 < I64_END := by
  rw [as_i64_small fits] at counted
  unfold MongoDbMessageStore.inc at counted
  split_ifs at counted with room
  omega

/-- An operation that succeeds is done in memory too. -/
theorem Holds.applied {operation : Operation} (holds : Holds server s.collection s.current_sequence m)
    (injective : Function.Injective server.ids) (fits : operation.Fits s) (tries : Tries s operation (.ok ()) s') :
    Holds server s'.collection s'.current_sequence (operation.apply m).2 := by
  obtain ⟨handed_out,⟨_,wrote,current⟩ | ⟨⟨_,wrong⟩,_⟩⟩ := tries
  · have kept := writes_kept holds.orderly injective wrote handed_out
    rw [current]
    cases operation with
    | add n message =>
      unfold writes at wrote
      dsimp only at wrote
      split_ifs at wrote with small
      exact holds.added kept small (Option.some.inj wrote).symm
    | increment_sender_seq_number =>
      obtain ⟨stored,allowed,member⟩ := holds.update wrote
      obtain ⟨x,counted,rfl⟩ := Option.map_eq_some_iff.mp allowed
      have small := inc_small holds.sender_fits counted
      have double := i64_end_double
      have next : arith.add s.current_sequence.sender_seq_number 1 = s.current_sequence.sender_seq_number + 1 := by
        cases arith with
        | exact => rfl
        | wrapping => exact Nat.mod_eq_of_lt (by unfold U64 at *; omega)
      have number := @inc_as_i64 arith _ _ (by have := holds.sender_fits; omega) (by omega) counted
      rw [number] at member
      exact holds.updated kept rfl rfl member (congrArg (arith.add · 1) holds.sender) holds.target rfl rfl
        (by change arith.add s.current_sequence.sender_seq_number 1 < I64_END; omega) holds.target_fits
    | increment_target_seq_number =>
      obtain ⟨stored,allowed,member⟩ := holds.update wrote
      obtain ⟨x,counted,rfl⟩ := Option.map_eq_some_iff.mp allowed
      rw [@inc_as_i64 arith _ _ holds.target_fits fits counted] at member
      exact holds.updated kept rfl rfl member holds.sender (congrArg (arith.add · 1) holds.target) rfl rfl holds.sender_fits fits
    | set_target_seq_number n =>
      obtain ⟨stored,allowed,member⟩ := holds.update wrote
      cases allowed
      exact holds.updated kept rfl rfl member holds.sender rfl rfl rfl holds.sender_fits fits
    | reset now =>
      exact Holds.opened kept injective holds.orderly holds.homed holds.numbered (Option.some.inj wrote).symm rfl
  · cases wrong

/-- An operation that fails, and is not done behind an answer that is lost. -/
theorem Holds.failed {operation : Operation} {e : StoreError} (holds : Holds server s.collection s.current_sequence m)
    (faithful : ∀ k, server.fates k ≠ .Lost) (tries : Tries s operation (.error e) s') :
    Holds server s'.collection s'.current_sequence m := by
  obtain ⟨handed_out,⟨wrong,_⟩ | ⟨_,current,same | ⟨⟨k,lost⟩,_⟩⟩⟩ := tries
  · cases wrong
  · rw [current]
    exact holds.same same (by omega)
  · exact absurd lost (faithful k)

/-- The newest sequence is found. -/
theorem Holds.latest (holds : Holds server c current m) (is_newest : Newest c current) : c.latest = some (written current) := by
  have member : written current ∈ c.sequences := List.mem_filterMap.mpr ⟨_,holds.stored,rfl⟩
  cases newest : c.latest with
  | none =>
    rw [List.argmax_eq_none.mp newest] at member
    cases member
  | some stored =>
    have inside := latest_stored newest
    have above : current.object_id ≤ stored.object_id := List.le_of_mem_argmax member newest
    have below := is_newest _ (mem_roots.mpr ⟨stored,inside,rfl⟩)
    have found := holds.orderly.find_sequence inside
    rw [le_antisymm below above,show current.object_id = (written current).object_id from rfl,
      holds.orderly.find_sequence holds.stored] at found
    cases found
    rfl

theorem Holds.read (holds : Holds server c current m) :
    (written current).read = if current.target_seq_number < I64_END then some current else none := by
  have double := i64_end_double
  have fits := holds.target_fits
  unfold MetaDocument.read written
  rw [as_i64_small holds.sender_fits]
  by_cases small : current.target_seq_number < I64_END
  · rw [as_i64_small small,if_pos small]
    exact if_pos ⟨Int.natCast_nonneg _,Int.natCast_nonneg _⟩
  · have negative : as_i64 current.target_seq_number < 0 := by
      rw [as_i64,if_neg small]
      omega
    rw [if_neg small]
    exact if_neg (fun both => absurd both.2 (not_le.mpr negative))

/-- What is held is found again by an attempt to open the store. -/
theorem Holds.found {now : DateTime} {found : Option SequenceMeta} (holds : Holds server c current m) (newest : Newest c current)
    (searched : Found server now c c' found) :
    Holds server c' current m ∧ Newest c' current ∧ ∀ sequence, found = some sequence → sequence = current := by
  rcases searched.outcome with ⟨documents,more,read⟩ | ⟨_,_,nothing,_⟩
  · refine ⟨holds.same documents more,newest.within (fun _ member => documents ▸ member),fun sequence is_found => ?_⟩
    obtain ⟨stored,latest,numbers⟩ := read sequence is_found
    rw [holds.latest newest] at latest
    cases latest
    rw [holds.read] at numbers
    split_ifs at numbers
    exact (Option.some.inj numbers).symm
  · rw [holds.latest newest] at nothing
    cases nothing

theorem Holds.opens (scans : ∀ documents, (server.scan documents).Perm documents) (opens : Opens arith server c s)
    (holds : Holds server c current m) (newest : Newest c current) :
    Holds server s.collection s.current_sequence m ∧ s.current_sequence = current := by
  induction opens with
  | opened opened =>
    obtain ⟨found,searched,is_found⟩ := new_found opened
    obtain ⟨same,read⟩ := is_found _ rfl
    obtain ⟨later,-,found_current⟩ := holds.found newest searched
    have same_sequence := found_current _ read
    rw [same_sequence,same]
    exact ⟨later,rfl⟩
  | again failed later ih =>
    obtain ⟨found,searched,-⟩ := new_found failed
    obtain ⟨later,newest',-⟩ := holds.found newest searched
    exact ih later newest'
  | swept cleaned later ih =>
    obtain ⟨exclude_id,cleaned,excluded⟩ := sweep_cleans holds.orderly scans cleaned
    rw [excluded,holds.latest newest] at cleaned
    exact ih (holds.cleaned cleaned) (newest.within cleaned.within)

/-- The runs in which a store is closed and opened while its sequence is the newest, and
    in which cleanings from outside spare it. -/
abbrev Steady (arith : Arith) (server : Server) : MongoDbMessageStore arith server → InMemoryMessageStore arith → Prop :=
  Reached arith server Latest Spares

/-- The order in which the unique index has the messages. -/
def InOrder (server : Server) : Prop :=
  ∀ documents, ((server.scan documents).filterMap Document.message).Pairwise (fun message later =>
    message.sequence_id = later.sequence_id → message.msg_seq_number ≤ later.msg_seq_number)

/-- A range of the current sequence, read from the memory in some order, and in the
    order of the numbers if the server scans the index. -/
theorem Holds.get_slice (scans : ∀ documents, (server.scan documents).Perm documents)
    (holds : Holds server s.collection s.current_sequence m) (answered : server.fates s.collection.calls = .Done) {first last : Nat}
    (order : first ≤ last) (small : last < I64_END) :
    ∃ found, MessageStore.get_slice first last s = .ok found ∧
      found.Perm ((List.range' first (last + 1 - first)).filterMap m.messages) ∧
      (InOrder server → found = (List.range' first (last + 1 - first)).filterMap m.messages) := by
  obtain ⟨selected,is_selected⟩ : ∃ documents, documents = s.collection.documents.filter (fun document =>
      document.message.any (fun message => decide (message.sequence_id = s.current_sequence.object_id ∧
        as_i64 first ≤ message.msg_seq_number ∧ message.msg_seq_number ≤ as_i64 last))) := ⟨_,rfl⟩
  obtain ⟨messages,is_messages⟩ : ∃ messages, messages = (server.scan selected).filterMap Document.message := ⟨_,rfl⟩
  have perm : messages.Perm (selected.filterMap Document.message) := is_messages ▸ (scans selected).filterMap _
  have member (message : MongoDb.Message) : message ∈ messages ↔ .Message message ∈ s.collection.documents ∧
      message.sequence_id = s.current_sequence.object_id ∧ (first : Int) ≤ message.msg_seq_number ∧ message.msg_seq_number ≤ last := by
    rw [perm.mem_iff,List.mem_filterMap,is_selected,← as_i64_small (show first < I64_END by omega),← as_i64_small small]
    constructor
    · rintro ⟨document,inside,is_message⟩
      cases document with
      | Meta stored => cases is_message
      | Message other =>
        cases is_message
        simpa [Document.message] using inside
    · exact fun inside => ⟨.Message message,by simpa [Document.message] using inside,rfl⟩
  have number (message : MongoDb.Message) (inside : message ∈ messages) : (message.msg_seq_number.toNat : Int) = message.msg_seq_number := by
    obtain ⟨n,same,_⟩ := holds.numbered message ((member message).mp inside).1
    rw [same]
    rfl
  have keyed : (messages.map (fun message => (message.sequence_id,message.msg_seq_number))).Nodup := by
    refine (perm.map _).nodup_iff.mpr ?_
    rw [List.map_filterMap]
    exact holds.orderly.keys.sublist ((is_selected ▸ List.filter_sublist).filterMap _)
  obtain ⟨entries,is_entries⟩ : ∃ entries, entries = messages.map (fun message => (message.msg_seq_number.toNat,message.data)) := ⟨_,rfl⟩
  have apart : (entries.map (·.1)).Nodup := by
    rw [is_entries,List.map_map]
    refine List.pairwise_map.mpr ((List.pairwise_map.mp keyed).imp_of_mem (fun {a b} inside inside' differ same => differ ?_))
    have equal : a.msg_seq_number = b.msg_seq_number := by
      rw [← number a inside,← number b inside']
      exact congrArg Int.ofNat same
    rw [equal,((member a).mp inside).2.1,((member b).mp inside').2.1]
  have all (entry : Nat × Bytes) : entry ∈ entries ↔ m.messages entry.1 = some entry.2 ∧ first ≤ entry.1 ∧ entry.1 ≤ last := by
    rw [is_entries,List.mem_map,holds.messages]
    constructor
    · rintro ⟨message,inside,rfl⟩
      obtain ⟨there,home,low,high⟩ := (member message).mp inside
      have same := number message inside
      refine ⟨⟨message.object_id,?_⟩,by dsimp only; omega,by dsimp only; omega⟩
      rw [same,← home]
      exact there
    · rintro ⟨⟨object_id,there⟩,low,high⟩
      exact ⟨_,(member _).mpr ⟨there,rfl,Int.ofNat_le.mpr low,Int.ofNat_le.mpr high⟩,rfl⟩
  have values : entries.map (·.2) = messages.map (·.data) := by
    rw [is_entries,List.map_map]
    rfl
  refine ⟨messages.map (·.data),?_,?_,fun ordered => ?_⟩
  · show MongoDbMessageStore.get_slice first last s = _
    rw [MongoDbMessageStore.get_slice,if_pos answered,is_messages,is_selected]
  · rw [← values,← tabulated_values]
    exact (perm_tabulated apart all).map _
  · rw [← values,← tabulated_values]
    refine congrArg _ (eq_tabulated apart all ?_)
    rw [is_entries]
    refine List.pairwise_map.mpr ((is_messages ▸ ordered selected).imp_of_mem (fun {a b} inside inside' before => ?_))
    have less := before (((member a).mp inside).2.1.trans ((member b).mp inside').2.1.symm)
    have := number a inside
    have := number b inside'
    dsimp only
    omega

end

/-! ### Opening again -/

section
variable {s s' : MongoDbMessageStore arith server} {m : InMemoryMessageStore arith} {c c' : Collection}

/-- Stored numbers are stored integers. -/
def Ranged (c : Collection) : Prop :=
  ∀ stored : MetaDocument, .Meta stored ∈ c.documents →
    stored.sender_seq_number < (I64_END : Int) ∧ stored.target_seq_number < (I64_END : Int)

theorem as_i64_lt {n : Nat} (fits : n < U64) : as_i64 n < I64_END := by
  have double := i64_end_double
  unfold as_i64
  split_ifs <;> omega

theorem inc_lt {n x : Int} (counted : MongoDbMessageStore.inc n = some x) : x < I64_END := by
  unfold MongoDbMessageStore.inc at counted
  split_ifs at counted with room
  cases counted
  exact room

theorem Ranged.within (ranged : Ranged c) (within : ∀ document ∈ c'.documents, document ∈ c.documents) : Ranged c' :=
  fun stored member => ranged stored (within _ member)

/-- An update leaves a sequence as it was, or with changed numbers. -/
theorem Ranged.updated (ranged : Ranged c) (orderly : Orderly server c) {id : ObjectId} {change : MetaDocument → Option MetaDocument}
    (small : ∀ old stored, .Meta old ∈ c.documents → change old = some stored →
      stored.sender_seq_number < (I64_END : Int) ∧ stored.target_seq_number < (I64_END : Int))
    (updated : update_one id change c.documents = some c'.documents) : Ranged c' := by
  rcases update_one_cases updated with same | ⟨old,changed,there,_,allowed,documents⟩
  · exact ranged.within (fun _ member => same ▸ member)
  · have keyed : (c.documents.filterMap (fun d => some d.object_id)).Nodup := by
      rw [List.filterMap_eq_map']
      exact orderly.unique
    intro stored member
    have changes := @mem_update_keyed _ _ (fun _ => Document.Meta changed) _ _ _ keyed id (.Meta stored)
    simp only [ne_eq,Option.some.injEq] at changes
    rw [documents] at member
    rcases changes.mp member with ⟨before,_⟩ | ⟨_,_,_,same⟩
    · exact ranged stored before
    · cases same
      exact small old changed there allowed

theorem Ranged.begun {now : DateTime} (ranged : Ranged c)
    (documents : c'.documents = c.documents ++ [.Meta (written (opening server now c))]) : Ranged c' := by
  intro stored member
  rw [documents] at member
  rcases List.mem_append.mp member with before | last
  · exact ranged stored before
  · cases List.mem_singleton.mp last
    have zero : as_i64 0 < (I64_END : Int) := as_i64_lt zero_fits.2
    exact ⟨zero,zero⟩

theorem Ranged.writes {operation : Operation} (ranged : Ranged s.collection) (orderly : Orderly server s.collection)
    (fits : operation.Fits s) (wrote : writes s operation s.collection.documents = some s'.collection.documents) :
    Ranged s'.collection := by
  cases operation with
  | add n message =>
    unfold Sequences.writes at wrote
    dsimp only at wrote
    split_ifs at wrote with small
    have split := (replace_one_members orderly.keys (s.current_sequence.object_id,as_i64 n)
      (filed s.current_sequence.object_id n message) (server.ids s.collection.handed_out)).1
    rw [Option.some.inj wrote] at split
    intro stored member
    rcases split _ member with ⟨before,_⟩ | ⟨_,other⟩
    · exact ranged stored before
    · cases other
  | increment_sender_seq_number =>
    refine ranged.updated orderly (fun old stored there changed => ?_) wrote
    obtain ⟨x,counted,rfl⟩ := Option.map_eq_some_iff.mp changed
    exact ⟨inc_lt counted,(ranged old there).2⟩
  | increment_target_seq_number =>
    refine ranged.updated orderly (fun old stored there changed => ?_) wrote
    obtain ⟨x,counted,rfl⟩ := Option.map_eq_some_iff.mp changed
    exact ⟨(ranged old there).1,inc_lt counted⟩
  | set_target_seq_number n =>
    refine ranged.updated orderly (fun old stored there changed => ?_) wrote
    cases changed
    exact ⟨(ranged old there).1,as_i64_lt fits⟩
  | reset now => exact ranged.begun (Option.some.inj wrote).symm

theorem Ranged.tries {operation : Operation} {r : Except StoreError Unit} (ranged : Ranged s.collection)
    (orderly : Orderly server s.collection) (fits : operation.Fits s) (tries : Tries s operation r s') : Ranged s'.collection := by
  rcases tries.outcome with ⟨_,wrote,_⟩ | ⟨_,_,same | ⟨_,wrote⟩⟩
  · exact ranged.writes orderly fits wrote
  · exact ranged.within (fun _ member => same ▸ member)
  · exact ranged.writes orderly fits wrote

theorem Ranged.found {now : DateTime} {found : Option SequenceMeta} (ranged : Ranged c) (searched : Found server now c c' found) :
    Ranged c' := by
  rcases searched.outcome with ⟨same,_⟩ | ⟨documents,_⟩
  · exact ranged.within (fun _ member => same ▸ member)
  · exact ranged.begun documents

theorem Ranged.opens (scans : ∀ documents, (server.scan documents).Perm documents) (injective : Function.Injective server.ids)
    (opens : Opens arith server c s) (orderly : Orderly server c) (ranged : Ranged c) : Ranged s.collection := by
  induction opens with
  | opened opened =>
    obtain ⟨_,searched,current⟩ := new_found opened
    rw [(current _ rfl).1]
    exact ranged.found searched
  | again failed later ih =>
    obtain ⟨_,searched,-⟩ := new_found failed
    exact ih (orderly.found injective searched).1.orderly (ranged.found searched)
  | swept cleaned later ih =>
    obtain ⟨_,cleaned,-⟩ := sweep_cleans orderly scans cleaned
    exact ih cleaned.orderly (ranged.within cleaned.within)

/-- The latest sequence reads back as the current one. -/
def ReadsBack (s : MongoDbMessageStore arith server) : Prop :=
  s.collection.latest = some (written s.current_sequence) ∧
    s.current_sequence.sender_seq_number < I64_END ∧ s.current_sequence.target_seq_number < I64_END

end

end HotFix.SequenceRuns
