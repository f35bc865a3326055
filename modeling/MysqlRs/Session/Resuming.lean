import MysqlRs.Session.Draining

namespace MySQL

open Server MysqlPacket MySQLResult

namespace MysqlPacket

-- The reader fails by its packet, not for want of one.
def Settles {α : Type} (r : Reader α) : Prop :=
  ∀ ⦃p e⦄, r p = .error e → e ≠ .needMoreData

namespace Settles

variable {α β : Type} {r : Reader α} {k : α → Reader β}

theorem pure (a : α) : Settles (Pure.pure a : Reader α) :=
  fun _ _ h => nomatch h

theorem throw (code : UInt16) (message : String) :
    Settles (throw (.internalError code message) : Reader α) :=
  fun _ _ h => Except.error.inj h ▸ nofun

theorem bind (h : Settles r) (h' : ∀ a, Settles (k a)) : Settles (r >>= k) := by
  intro p e he
  change (r p >>= fun x => k x.1 x.2) = _ at he
  cases hr : r p
  case error => exact Except.error.inj (hr ▸ he) ▸ h hr
  case ok x =>
    rw [hr] at he
    exact h' x.1 he

theorem ite {c : Prop} [Decidable c] {r' : Reader α} (h : Settles r) (h' : Settles r') :
    Settles (if c then r else r') := by
  split_ifs
  · exact h
  · exact h'

theorem read (size : Nat) : Settles (read size) := by
  intro p e he
  rw [MysqlPacket.read] at he
  split_ifs at he
  all_goals
    cases he
    rintro ⟨⟩

theorem advance (length : Nat) : Settles (advance length) := by
  intro p e he
  rw [MysqlPacket.advance] at he
  split_ifs at he
  all_goals
    cases he
    rintro ⟨⟩

theorem readAll : Settles readAll :=
  fun _ _ h => nomatch h

theorem readUint (size : Nat) : Settles (readUint size) :=
  .bind (.read size) fun _ => .pure _

theorem readUint8 : Settles readUint8 :=
  .bind (.readUint 1) fun _ => .pure _

theorem readUint16 : Settles readUint16 :=
  .bind (.readUint 2) fun _ => .pure _

theorem readUint32 : Settles readUint32 :=
  .bind (.readUint 4) fun _ => .pure _

theorem readLengthEncodedInteger : Settles readLengthEncodedInteger := by
  refine .bind .readUint8 fun c => ?_
  refine .ite (.pure _) (.ite (.pure _) (.ite ?_ (.ite ?_ (.ite ?_ (.throw _ _)))))
  all_goals exact .bind (.bind (.readUint _) fun _ => .pure _) fun _ => .pure _

theorem readLengthCodedString : Settles readLengthCodedString := by
  refine .bind .readLengthEncodedInteger fun n => ?_
  cases n
  case none   => exact .pure _
  case some n => exact .bind (.read _) fun _ => .pure _

theorem okPacket : Settles OkPacketWrapper.fromPacket := by
  intro p e he
  rw [OkPacketWrapper.fromPacket] at he
  split_ifs at he
  · cases he
    rintro ⟨⟩
  · refine bind (.advance 1) (fun _ => bind .readLengthEncodedInteger fun _ => bind .readLengthEncodedInteger
      fun _ => ?_) he
    exact bind .readUint16 fun _ => bind .readUint16 fun _ => bind .readAll fun _ => .pure _

theorem eofPacket : Settles EofPacketWrapper.fromPacket := by
  intro p e he
  rw [EofPacketWrapper.fromPacket] at he
  split_ifs at he
  · cases he
    rintro ⟨⟩
  · exact bind (.advance 1) (fun _ => bind .readUint16 fun _ => bind .readUint16 fun _ => .pure _) he

theorem fieldDescriptor [Libraries] (encoding : Text) : Settles (FieldDescriptorPacket.reader encoding) := by
  have string := readLengthCodedString
  refine bind string fun _ => bind string fun _ => bind string fun _ => bind string fun _ => ?_
  refine bind string fun _ => bind string fun _ => bind readUint8 fun _ => ?_
  refine .ite (.bind (.throw _ _) fun _ => ?_) ?_
  all_goals
    exact bind readUint16 fun _ => bind readUint32 fun _ => bind readUint8 fun _ => bind readUint16 fun _ =>
      bind readUint8 fun _ => .pure _

theorem readRow [Libraries] (converters : List FieldConverter) : Settles (FieldConverter.readRow converters) := by
  induction converters
  case nil           => exact .pure _
  case cons c cs ih => exact .bind .readLengthCodedString fun _ => .bind ih fun _ => .pure _

theorem error_ne {r : Reader α} (h : Settles r) {packet : MysqlPacket} {e : Error}
    (he : r.run' packet = .error e) : e ≠ .needMoreData := by
  change (r packet >>= fun x => Pure.pure x.1) = _ at he
  cases hr : r packet
  case error => exact Except.error.inj (hr ▸ he) ▸ h hr
  case ok x  => exact nomatch hr ▸ he

theorem run {σ : Type} {r : Reader α} (h : Settles r) (packet : MysqlPacket) :
    Proc.Raises (· ≠ .needMoreData) (packet.run r : Proc Error σ α) :=
  .ofExcept fun _ he => h.error_ne he

end Settles
end MysqlPacket

namespace MysqlPacket

-- `r` takes no packet of which `bs` is unread.
def Refuses {α : Type} (r : Reader α) (bs : Bytes) : Prop :=
  ∀ ⦃p⦄, p.Unread bs → ∀ x, r p ≠ .ok x

namespace Refuses

variable {α β : Type} {r : Reader α} {k : α → Reader β} {bs cs : Bytes} {a : α}

theorem bind (h : Refuses r bs) : Refuses (r >>= k) bs := by
  intro p hp x hx
  change (r p >>= fun x => k x.1 x.2) = _ at hx
  cases hr : r p
  case error => exact nomatch hr ▸ hx
  case ok y  => exact h hp y hr

theorem after (h : Consumes r bs a) (h' : Refuses (k a) cs) : Refuses (r >>= k) (bs ++ cs) := by
  intro p hp x hx
  have ⟨p', hr, hp'⟩ := h hp
  change (r p >>= fun x => k x.1 x.2) = _ at hx
  rw [hr] at hx
  exact h' hp' x hx

theorem read {size : Nat} (h : bs.length < size) : Refuses (read size) bs := by
  intro p hp x hx
  have hl := congrArg List.length hp.rest
  have hi := hp.inside
  rw [List.length_drop] at hl
  rw [MysqlPacket.read, if_pos (c := p.data.length < p.position + size) (by omega)] at hx
  split_ifs at hx

theorem run' (h : Refuses r bs) (hs : bs.length ≤ usizeMax) : r.run' (new bs) ≠ .ok a := by
  intro ha
  change (r (new bs) >>= fun x => Pure.pure x.1) = _ at ha
  cases hr : r (new bs)
  case error => exact nomatch hr ▸ ha
  case ok x  => exact h (unread_new hs) x hr

end Refuses
end MysqlPacket

namespace Server.Eof

variable (e : Eof)

theorem length : e.payload.length = 5 := by
  simp [payload, uint16]

-- The header of an EOF packet promises an integer that is too long for it.
theorem readLengthEncodedInteger : Refuses readLengthEncodedInteger e.payload := by
  have hl : (uint16 e.warnings ++ uint16 e.status).length < 8 := by simp [uint16]
  have h : Refuses MysqlPacket.readLengthEncodedInteger ([0xFE] ++ (uint16 e.warnings ++ uint16 e.status)) :=
    .after (consumes_readUint8 0xFE) (Refuses.read hl).bind.bind.bind
  exact h

theorem fieldDescriptor [Libraries] (encoding : Text) :
    Refuses (FieldDescriptorPacket.reader encoding) e.payload :=
  .bind (.bind e.readLengthEncodedInteger)

end Server.Eof
namespace MySQLResult

variable [Libraries] (packet : MysqlPacket) (conn : Connection)

omit [Libraries] in
theorem feedInitial_settles : (feedInitial packet conn).Raises (· ≠ .needMoreData) := by
  refine .ite (.bind (Settles.okPacket.run packet) fun _ => .bind (.modify _) fun _ => .pure _)
    (.ite (.throw ?_) (.bind (Settles.readLengthEncodedInteger.run packet) fun _ =>
      .bind (.modify _) fun _ => .pure _))
  rw [readLoadLocalPacket, LoadLocalPacketWrapper.fromPacket]
  split_ifs
  · exact nofun
  · exact nofun
  · exact nofun

theorem feedDescription_settles : (feedDescription packet conn).Raises (· ≠ .needMoreData) := by
  refine .bind .get fun r => .ite (.bind (.ofExcept fun e he => ?_) fun _ => .bind (.modify _) fun _ => .pure _)
    (.ite (.throw nofun) (.bind (Settles.eofPacket.run packet) fun _ => .bind (.modify _) fun _ => .pure _))
  exact (Settles.fieldDescriptor conn.encoding).error_ne he

omit [Libraries] in
theorem checkPacketIsEof_settles : (checkPacketIsEof packet).Raises (· ≠ .needMoreData) := by
  refine .ite (.pure _) ?_
  exact .bind (Settles.eofPacket.run packet) fun _ => .bind (.modify _) fun _ => .pure _

theorem feedRow_settles : (feedRow packet).Raises (· ≠ .needMoreData) := by
  refine .bind (checkPacketIsEof_settles packet) fun eof => .ite (.bind (.modify _) fun _ => .pure _) ?_
  refine .bind (.bind .get fun r => ?_) fun _ => .bind (.modify _) fun _ => .pure _
  exact (Settles.readRow r.converters).run packet

theorem feedStep_settles : (feedStep packet conn).Raises (· ≠ .needMoreData) := by
  refine .bind (.bind .get fun r => ?_) fun r => ?_
  · cases r.readState
    case initial      => exact feedInitial_settles packet conn
    case descriptions => exact feedDescription_settles packet conn
    case done         => exact .pure _
    all_goals exact feedRow_settles packet
  · cases r
    case needMore => exact .pure _
    all_goals exact .bind .get fun _ => .pure _

variable {conn} in
theorem feedList_settles {ps : List Bytes} {r r' : MySQLResult} {e : Error}
    (h : Source.feedList (step conn) ps r = .error e r') : e ≠ .needMoreData := by
  induction ps generalizing r
  case nil => exact nomatch h
  case cons p ps ih =>
    obtain hs | ⟨o, s, _, hm⟩ := Outcome.bind_eq_error.mp h
    case inl => exact feedStep_settles (.new p) conn hs
    case inr =>
      cases o
      case none   => exact ih hm
      case some _ => exact nomatch hm

-- How many packets a result that has read `k` of them has been made of.
def Counted (k : Nat) (r : MySQLResult) : Prop :=
  match r.readState with
  | .initial                 => k = 0 ∧ r.fields = [] ∧ r.rows = none
  | .descriptions            => k = 1 + r.fields.length ∧ r.rows = none
  | .rows | .unbufferedReady => k = 2 + r.fields.length + (r.rows.getD []).length
  | .done                    => r.fields = [] ∨ k = 3 + r.fields.length + (r.rows.getD []).length

variable {packet conn} {k : Nat} {r r' : MySQLResult} {x : FeedResult}

omit [Libraries] in
theorem feedInitial_counted (h : feedInitial packet conn r = .ok x r') (hf : r.fields = []) :
    Counted 1 r' ∧ (x = .needMore → r'.readState = .descriptions) := by
  rw [feedInitial] at h
  split_ifs at h
  case pos =>
    obtain ⟨ok, s, hr, hm⟩ := Outcome.bind_eq_ok.mp h
    obtain ⟨_, rfl⟩ := Proc.ofExcept_eq_ok.mp hr
    obtain ⟨rfl, rfl⟩ := Outcome.ok.inj hm
    exact ⟨.inl hf, by simp⟩
  case pos => cases h
  case neg =>
    obtain ⟨count, s, hr, hm⟩ := Outcome.bind_eq_ok.mp h
    obtain ⟨_, rfl⟩ := Outcome.ok.inj hm
    exact ⟨⟨rfl, rfl⟩, fun _ => rfl⟩

-- The definitions are read up to their EOF, which gives the result where rows are not buffered.
theorem feedDescription_counted (h : feedDescription packet conn r = .ok x r')
    (hk : k = 1 + r.fields.length) (hn : r.rows = none) (hs : r.readState = .descriptions) :
    Counted (k + 1) r' ∧ (x = .needMore → r'.readState ≠ .done ∧
      (r.unbufferedActive = true → r'.readState = .descriptions)) := by
  rw [feedDescription, Proc.bind_apply, Proc.get_apply, Outcome.bind_ok] at h
  split_ifs at h
  case pos =>
    obtain ⟨field, s, hr, hm⟩ := Outcome.bind_eq_ok.mp h
    obtain ⟨_, rfl⟩ := Proc.ofExcept_eq_ok.mp hr
    obtain ⟨_, rfl⟩ := Outcome.ok.inj hm
    simp [Counted, hs, hn, hk, Nat.add_assoc]
  case pos => cases h
  all_goals
    obtain ⟨wp, s, hr, hm⟩ := Outcome.bind_eq_ok.mp h
    obtain ⟨_, rfl⟩ := Proc.ofExcept_eq_ok.mp hr
    obtain ⟨rfl, rfl⟩ := Outcome.ok.inj hm
    refine ⟨?_, by simp [*]⟩
    have hc : k + 1 = 2 + s.fields.length := by omega
    clear hk
    simp [Counted, *]

omit [Libraries] in
theorem checkPacketIsEof_keeps :
    (checkPacketIsEof packet).Keeps fun r => (r.fields, r.rows, r.readState) :=
  .ite (.pure _) (.bind (.ofExcept _) fun _ => .bind (.modify fun _ => rfl) fun _ => .pure _)

theorem feedRow_counted (h : feedRow packet r = .ok x r')
    (hk : k = 2 + r.fields.length + (r.rows.getD []).length)
    (hs : r.readState = .rows ∨ r.readState = .unbufferedReady) :
    Counted (k + 1) r' ∧ (x = .needMore → r'.readState ≠ .done) := by
  have ⟨eof, s, he, hm⟩ := Outcome.bind_eq_ok.mp h
  obtain ⟨hf, hr, hs'⟩ := by simpa only [Prod.mk.injEq] using checkPacketIsEof_keeps he
  rw [← hf, ← hr] at hk
  rw [← hs'] at hs
  cases eof
  case true =>
    obtain ⟨rfl, rfl⟩ := Outcome.ok.inj hm
    exact ⟨.inr (by simp only [hk]; omega), nofun⟩
  case false =>
    have ⟨row, t, hrow, ht⟩ := Outcome.bind_eq_ok.mp hm
    obtain ⟨_, rfl⟩ := Proc.ofExcept_eq_ok.mp hrow
    obtain ⟨_, rfl⟩ := Outcome.ok.inj ht
    obtain hs | hs := hs
    all_goals
      simp [Counted, hs, hk]
      omega

theorem feedPacket_counted (h : feedPacket packet conn r = .ok x r') (hd : r.readState ≠ .done)
    (hk : Counted k r) : Counted (k + 1) r' ∧ (x = .needMore → r'.readState ≠ .done) := by
  rw [feedPacket, Proc.bind_apply, Proc.get_apply, Outcome.bind_ok] at h
  cases hs : r.readState
  case done => exact absurd hs hd
  all_goals
    simp only [hs] at h
    simp only [Counted, hs] at hk
  case initial =>
    obtain ⟨rfl, hf, _⟩ := hk
    obtain ⟨hc, hn⟩ := feedInitial_counted h hf
    exact ⟨hc, fun hx => by simp [hn hx]⟩
  case descriptions =>
    obtain ⟨hc, hn⟩ := feedDescription_counted h hk.left hk.right hs
    exact ⟨hc, fun hx => (hn hx).left⟩
  case rows            => exact feedRow_counted h hk (.inl hs)
  case unbufferedReady => exact feedRow_counted h hk (.inr hs)

theorem feedStep_counted {o : Option Int64} (h : feedStep packet conn r = .ok o r')
    (hd : r.readState ≠ .done) (hk : Counted k r) :
    Counted (k + 1) r' ∧ (o = none → r'.readState ≠ .done) := by
  have ⟨x, s, hx, hm⟩ := Outcome.bind_eq_ok.mp h
  have ⟨hc, hn⟩ := feedPacket_counted hx hd hk
  cases x
  case needMore =>
    obtain ⟨_, rfl⟩ := Outcome.ok.inj hm
    exact ⟨hc, fun _ => hn rfl⟩
  all_goals
    obtain ⟨rfl, rfl⟩ := Outcome.ok.inj hm
    exact ⟨hc, nofun⟩

-- A result has taken as many packets as it is made of.
theorem feedList_counted {ps rest : List Bytes} {n : Int64}
    (h : Source.feedList (step conn) ps r = .ok (some (n, rest)) r') (hd : r.readState ≠ .done)
    (hk : Counted k r) : ∃ taken, ps = taken ++ rest ∧ taken ≠ [] ∧ Counted (k + taken.length) r' := by
  induction ps generalizing r k
  case nil => exact nomatch h
  case cons p ps ih =>
    have ⟨o, s, hs, hm⟩ := Outcome.bind_eq_ok.mp h
    have ⟨hc, hn⟩ := feedStep_counted hs hd hk
    cases o
    case some m =>
      obtain ⟨ho, rfl⟩ := Outcome.ok.inj hm
      obtain ⟨_, rfl⟩ := Prod.mk.inj (Option.some.inj ho)
      exact ⟨[p], rfl, List.cons_ne_nil p [], hc⟩
    case none =>
      have ⟨taken, he, _, ht⟩ := ih hm (hn rfl) hc
      refine ⟨p :: taken, congrArg (p :: ·) he, List.cons_ne_nil p taken, ?_⟩
      rwa [List.length_cons, Nat.add_comm taken.length 1, ← Nat.add_assoc]

-- A result without a buffer that has not got to its rows.
def Opening (r : MySQLResult) : Prop :=
  r.unbufferedActive = true ∧ (r.readState = .initial ∨ r.readState = .descriptions)

theorem feedPacket_opening (h : feedPacket packet conn r = .ok .needMore r') (ho : r.Opening) :
    r'.Opening := by
  obtain ⟨hu, hs⟩ := ho
  rw [feedPacket, Proc.bind_apply, Proc.get_apply, Outcome.bind_ok] at h
  obtain hs | hs := hs
  all_goals simp only [hs] at h
  case inl =>
    rw [feedInitial] at h
    split_ifs at h
    case pos =>
      obtain ⟨_, _, _, hm⟩ := Outcome.bind_eq_ok.mp h
      cases (Outcome.ok.inj hm).left
    case pos => cases h
    case neg =>
      obtain ⟨count, s, hr, hm⟩ := Outcome.bind_eq_ok.mp h
      obtain ⟨_, rfl⟩ := Proc.ofExcept_eq_ok.mp hr
      obtain ⟨_, rfl⟩ := Outcome.ok.inj hm
      exact ⟨hu, .inr rfl⟩
  case inr =>
    rw [feedDescription, Proc.bind_apply, Proc.get_apply, Outcome.bind_ok, hu] at h
    split_ifs at h
    case pos =>
      obtain ⟨field, s, hr, hm⟩ := Outcome.bind_eq_ok.mp h
      obtain ⟨_, rfl⟩ := Proc.ofExcept_eq_ok.mp hr
      obtain ⟨_, rfl⟩ := Outcome.ok.inj hm
      exact ⟨hu, .inr hs⟩
    case pos => cases h
    case pos =>
      obtain ⟨_, _, _, hm⟩ := Outcome.bind_eq_ok.mp h
      cases (Outcome.ok.inj hm).left
    case neg hn => exact absurd rfl hn

theorem step_opening {p : Bytes} (h : step conn p r = .ok none r') (ho : r.Opening) : r'.Opening := by
  have ⟨x, s, hx, hm⟩ := Outcome.bind_eq_ok.mp h
  cases x
  case needMore =>
    obtain ⟨_, rfl⟩ := Outcome.ok.inj hm
    exact feedPacket_opening hx ho
  all_goals exact nomatch (Outcome.ok.inj hm).left

theorem step_eof {e : Eof} {o : Option Int64} (h : step conn e.payload r = .ok o r') (ho : r.Opening) :
    o ≠ none := by
  obtain ⟨hu, hs⟩ := ho
  have hl : e.payload.length ≤ usizeMax := by simp [e.length, usizeMax]
  obtain ⟨x, s, hx, hm⟩ := Outcome.bind_eq_ok.mp h
  suffices hn : x ≠ .needMore by
    cases x
    case needMore => exact absurd rfl hn
    all_goals
      obtain ⟨rfl, _⟩ := Outcome.ok.inj hm
      simp
  rintro rfl
  rw [feedPacket, Proc.bind_apply, Proc.get_apply, Outcome.bind_ok] at hx
  obtain hs | hs := hs
  all_goals simp only [hs] at hx
  case inl =>
    rw [feedInitial] at hx
    split_ifs at hx
    case pos =>
      obtain ⟨_, _, _, hm⟩ := Outcome.bind_eq_ok.mp hx
      cases (Outcome.ok.inj hm).left
    case pos => cases hx
    case neg =>
      obtain ⟨_, _, hr, _⟩ := Outcome.bind_eq_ok.mp hx
      exact e.readLengthEncodedInteger.run' hl (Proc.ofExcept_eq_ok.mp hr).left
  case inr =>
    rw [feedDescription, Proc.bind_apply, Proc.get_apply, Outcome.bind_ok, hu] at hx
    split_ifs at hx
    case pos =>
      obtain ⟨_, _, hr, _⟩ := Outcome.bind_eq_ok.mp hx
      exact (e.fieldDescriptor conn.encoding).run' hl (Proc.ofExcept_eq_ok.mp hr).left
    case pos => cases hx
    case pos =>
      obtain ⟨_, _, _, hm⟩ := Outcome.bind_eq_ok.mp hx
      cases (Outcome.ok.inj hm).left
    case neg hn => exact absurd rfl hn

-- An EOF packet is not passed before the rows.
theorem feedList_eof {pre post : List Bytes} {e : Eof} {o : Option (Int64 × List Bytes)}
    (h : Source.feedList (step conn) (pre ++ e.payload :: post) r = .ok o r') (ho : r.Opening) :
    ∃ n rest, o = some (n, rest) ∧ post.length ≤ rest.length := by
  induction pre generalizing r
  case nil =>
    have ⟨x, s, hs, hm⟩ := Outcome.bind_eq_ok.mp h
    cases x
    case none   => exact absurd rfl (step_eof hs ho)
    case some n => exact ⟨n, post, (Outcome.ok.inj hm).left.symm, Nat.le_refl _⟩
  case cons p pre ih =>
    have ⟨x, s, hs, hm⟩ := Outcome.bind_eq_ok.mp h
    cases x
    case none   => exact ih hm (step_opening hs ho)
    case some n =>
      refine ⟨n, pre ++ e.payload :: post, (Outcome.ok.inj hm).left.symm, ?_⟩
      simp only [List.length_append, List.length_cons]
      omega

end MySQLResult
-- A response that no error cuts short.
def Server.Part.Whole : Part → Prop
  | .ok _ | .set _ => True
  | .cut _ _       => False

namespace Connection

-- Packets that have come in.
def arrive (batch : List Bytes) (c : Connection) : Connection :=
  c.setStream { c.packetStream with recvQueue := c.packetStream.recvQueue ++ batch.map .new }

variable [Libraries] {c : Connection} {u : Bool}

-- A caller that reads each time a batch has come in, and goes on where that was too little.
def readInBatches (unbuffered : Bool) : List (List Bytes) → Proc Error Connection Int64
  | []               => Proc.throw .needMoreData
  | batch :: batches => fun c =>
    match readQueryResult unbuffered (c.arrive batch) with
    | .error .needMoreData c => readInBatches unbuffered batches c
    | outcome                => outcome

-- Reading in batches ends like reading when everything is there.
def Resumes (unbuffered : Bool) (batches : List (List Bytes)) (c : Connection) : Prop :=
  ∃ n c₁ c₂, readQueryResult unbuffered (c.arrive batches.flatten) = .ok n c₁ ∧
    readInBatches unbuffered batches c = .ok n c₂ ∧ c₂.result = c₁.result

-- The result of reading the packets alone.
def Gives (c : Connection) (u : Bool) (batch : List Bytes) (n : Int64) (r : MySQLResult) : Prop :=
  ∃ rest, Source.feedList (step c) batch { unbufferedActive := u } = .ok (some (n, rest)) r

-- There are too few packets.
def Wants (c : Connection) (u : Bool) (batch : List Bytes) : Prop :=
  ∃ t, Source.feedList (step c) batch { unbufferedActive := u } = .ok none t

-- No result is being read, and nothing has come in.
structure Idle (c : Connection) : Prop where
  result : ∀ r ∈ c.result, r.isDone = true
  queue  : c.packetStream.recvQueue = []

section Single

variable {batch : List Bytes} {n : Int64} {r : MySQLResult}

-- A result that has been read is not looked at.
theorem Idle.reads (h : c.Idle) :
    readQueryResult u (c.arrive batch) =
      readQueryResult u ((c.settle c.affectedRows c.serverStatus).withQueue batch) := by
  have hn : c.result.filter (!·.isDone) = none := by
    simpa [Option.filter_eq_none_iff] using h.result
  have hq : c.arrive batch = c.withQueue batch := by
    rw [arrive, withQueue, h.queue, List.nil_append]
  have hr : ((c.withQueue batch).result.filter (!·.isDone)) = none := hn
  rw [hq, Connection.readQueryResult, Proc.bind_apply, Proc.bind_apply, Proc.get_apply, Proc.get_apply,
    Outcome.bind_ok, Outcome.bind_ok, hr]
  rfl

theorem readQueryResult_some (h : c.Gives u batch n r) :
    ∃ c', readQueryResult u ((c.settle c.affectedRows c.serverStatus).withQueue batch) = .ok n c' ∧
      c'.result = some r := by
  have ⟨rest, hf⟩ := h
  have hl := (withQueue_holds (c.settle c.affectedRows c.serverStatus)).feedLocal_some feedStep (fun _ _ => rfl) hf
  exact ⟨_, Outcome.bind_eq_ok.mpr ⟨_, _, hl, rfl⟩, rfl⟩

theorem readQueryResult_none (h : c.Wants u batch) :
    readQueryResult u ((c.settle c.affectedRows c.serverStatus).withQueue batch) =
      .error .needMoreData ((c.settle c.affectedRows c.serverStatus).withQueue []) := by
  have ⟨t, hf⟩ := h
  have hl := (withQueue_holds (c.settle c.affectedRows c.serverStatus)).feedLocal_none feedStep (fun _ _ => rfl) hf
  exact Outcome.bind_eq_error.mpr (.inl hl)

theorem readQueryResult_eq (c : Connection) (u : Bool) (batch : List Bytes) : ∃ c',
    readQueryResult u ((c.settle c.affectedRows c.serverStatus).withQueue batch) =
    (((Source.feedList (step c) batch { unbufferedActive := u }).bind
      (Source.handOver .needMoreData)).mapState fun _ => c').bind fun (n, r) c' =>
        .ok n { c' with serverStatus := r.serverStatus.getD c'.serverStatus, result := some r } := by
  have hs (p : Bytes) (queue : List Bytes) :
      feedStep (.new p) ((c.settle c.affectedRows c.serverStatus).withQueue queue) = step c p := rfl
  have ⟨left, he, _⟩ := (withQueue_holds (c.settle c.affectedRows c.serverStatus)).feedLocal feedStep hs batch
    { unbufferedActive := u }
  exact ⟨(c.settle c.affectedRows c.serverStatus).withQueue left, congrArg (Outcome.bind · _) he⟩

end Single

omit [Libraries] in
theorem Idle.next (c : Connection) : ((c.settle c.affectedRows c.serverStatus).withQueue []).Idle :=
  ⟨nofun, rfl⟩

section Batches

variable {batch : List Bytes} {batches more : List (List Bytes)} {n : Int64} {r : MySQLResult}

theorem readInBatches_cons (h : c.Idle) :
    readInBatches u (batch :: batches) c =
      match readQueryResult u ((c.settle c.affectedRows c.serverStatus).withQueue batch) with
      | .error .needMoreData c => readInBatches u batches c
      | outcome                => outcome := by
  rw [← h.reads]
  rfl

theorem readInBatches_some (h : c.Idle) (hg : c.Gives u batch n r) (batches : List (List Bytes)) :
    ∃ c', readInBatches u (batch :: batches) c = .ok n c' ∧ c'.result = some r := by
  have ⟨c', hr, hc⟩ := readQueryResult_some hg
  exact ⟨c', by rw [readInBatches_cons h, hr], hc⟩

theorem readInBatches_none (h : c.Idle) (hw : c.Wants u batch) :
    readInBatches u (batch :: batches) c =
      readInBatches u batches ((c.settle c.affectedRows c.serverStatus).withQueue []) := by
  rw [readInBatches_cons h, readQueryResult_none hw]

-- The first batch that does not want packets is the one that gives the result.
theorem readInBatches_eq_ok {c' : Connection} (h : c.Idle) (hr : readInBatches u batches c = .ok n c') :
    ∃ passed batch more r, batches = passed ++ batch :: more ∧ (∀ b ∈ passed, c.Wants u b) ∧
      c.Gives u batch n r ∧ c'.result = some r := by
  induction batches generalizing c
  case nil => exact nomatch hr
  case cons batch batches ih =>
    cases hf : Source.feedList (step c) batch { unbufferedActive := u }
    case ok o t =>
      cases o
      case none =>
        rw [readInBatches_none h ⟨t, hf⟩] at hr
        have ⟨passed, b, more, r, hb, hp, hg⟩ := ih (.next c) hr
        exact ⟨batch :: passed, b, more, r, congrArg (batch :: ·) hb,
          List.forall_mem_cons.mpr ⟨⟨t, hf⟩, hp⟩, hg⟩
      case some x =>
        have hg : c.Gives u batch x.1 t := ⟨x.2, hf⟩
        have ⟨c₁, h₁, hc⟩ := readInBatches_some h hg batches
        obtain ⟨rfl, rfl⟩ := Outcome.ok.inj (h₁.symm.trans hr)
        exact ⟨[], batch, batches, t, rfl, List.forall_mem_nil _, hg, hc⟩
    all_goals
      have ⟨c₁, he⟩ := readQueryResult_eq c u batch
      rw [hf] at he
      rw [readInBatches_cons h, he] at hr
    case error e t =>
      have hn : e ≠ .needMoreData := feedList_settles hf
      cases e
      case needMoreData => exact absurd rfl hn
      all_goals exact nomatch hr
    case pending => exact nomatch hr

theorem readInBatches_ok {passed : List (List Bytes)} (h : c.Idle) (hp : ∀ b ∈ passed, c.Wants u b)
    (hg : c.Gives u batch n r) (more : List (List Bytes)) :
    ∃ c', readInBatches u (passed ++ batch :: more) c = .ok n c' ∧ c'.result = some r := by
  induction passed generalizing c
  case nil => exact readInBatches_some h hg more
  case cons b passed ih =>
    have ⟨hb, hp⟩ := List.forall_mem_cons.mp hp
    have ⟨c', hr, hc⟩ := ih (.next c) hp hg
    exact ⟨c', (readInBatches_none h hb).trans hr, hc⟩

end Batches

section Parts

variable {p : Part} {batches : List (List Bytes)}

omit [Libraries] in
theorem head_prefix (hp : p.Whole) (u : Bool) : ∃ more, p.payloads = p.head u ++ more := by
  cases p
  case ok d  => exact ⟨_, Part.payloads_split u (show (Part.ok d).Announces _ from rfl)⟩
  case set r => exact ⟨_, Part.payloads_split u (show (Part.set r).Announces _ from rfl)⟩
  case cut   => exact hp.elim

omit [Libraries] in
theorem head_length_pos (hp : p.Whole) (u : Bool) : 0 < (p.head u).length := by
  cases p
  case ok d  => exact Nat.one_pos
  case set r => cases u <;> exact Nat.succ_pos _
  case cut   => exact hp.elim

theorem gives_head (hp : p.Whole) (hs : ∀ q ∈ p.head u, q.length ≤ usizeMax) (more : List Bytes) :
    c.Gives u (p.head u ++ more) (p.result c u).affectedRows (p.result c u) := by
  have ⟨b, hb⟩ : ∃ b, p.rest u = some b := by
    cases p
    case cut => exact hp.elim
    all_goals exact ⟨_, rfl⟩
  refine ⟨more, ?_⟩
  rw [Source.feedList_append]
  exact (congrArg (Outcome.bind · _) (p.feed_head c hb hs)).trans rfl

-- Nothing but the packets that belong to it makes up a result.
theorem counted_result {k : Nat} (hp : p.Whole) (h : Counted k (p.result c u)) (hk : k ≠ 0) :
    (p.head u).length ≤ k := by
  cases p
  case ok d => exact Nat.one_le_iff_ne_zero.mpr hk
  case set r =>
    have hf : (r.fields c).length = r.columns.length := List.length_map _
    have hne : r.fields c ≠ [] := fun h => r.nonempty (List.length_eq_zero_iff.mp (by rw [← hf, h]; rfl))
    cases u
    case false =>
      have h : r.fields c = [] ∨ k = 3 + (r.fields c).length + ((r.result c).rows.getD []).length := h
      have hr : ((r.result c).rows.getD []).length = r.rows.length := by
        by_cases hz : r.rows = [] <;> simp [ResultSet.result, hz]
      obtain h := h.resolve_left hne
      simp [Part.head, ResultSet.payloads, ResultSet.header, ResultSet.body]
      omega
    case true =>
      have h : k = 2 + (r.fields c).length + 0 := h
      simp [Part.head, ResultSet.header]
      omega
  case cut => exact hp.elim

omit [Libraries] in
-- Where `y` comes in, seen from where the list is cut.
theorem append_eq_append_cons {α : Type} {as bs xs ys : List α} {y : α} (h : as ++ bs = xs ++ y :: ys) :
    (∃ zs, xs = as ++ zs ∧ bs = zs ++ y :: ys) ∨ ∃ zs, as = xs ++ y :: zs ∧ ys = zs ++ bs := by
  obtain ⟨zs, hx, hb⟩ | ⟨zs, ha, hy⟩ := List.append_eq_append_iff.mp h
  case inl => exact .inl ⟨zs, hx, hb⟩
  case inr =>
    cases zs
    case nil          => exact .inl ⟨[], by simp [ha], hy.symm⟩
    case cons z zs =>
      obtain ⟨rfl, hs⟩ := List.cons.inj hy
      exact .inr ⟨zs, ha, hs⟩

-- Without a buffer, the EOF packet after the definitions is not passed.
theorem wants_eof {passed : List (List Bytes)} {front rest post : List Bytes} {e : Eof}
    (hp : ∀ b ∈ passed, c.Wants true b) (h : passed.flatten ++ rest = front ++ e.payload :: post) :
    ∃ more, front = passed.flatten ++ more ∧ rest = more ++ e.payload :: post := by
  induction passed generalizing front
  case nil => exact ⟨front, rfl, h⟩
  case cons b passed ih =>
    have ⟨⟨t, hb⟩, hp⟩ := List.forall_mem_cons.mp hp
    rw [List.flatten_cons, List.append_assoc] at h
    obtain ⟨zs, hf, hr⟩ | ⟨zs, hz, _⟩ := append_eq_append_cons h
    case inl =>
      have ⟨more, hm, hr⟩ := ih hp hr
      exact ⟨more, by rw [hf, hm, List.flatten_cons, List.append_assoc], hr⟩
    case inr =>
      rw [hz] at hb
      have ⟨n, rest, ho, _⟩ := feedList_eof hb ⟨rfl, .inl rfl⟩
      exact nomatch ho

-- A result takes no packet beyond those that are read at once.
theorem taken_le {passed more : List (List Bytes)} {taken rest : List Bytes} {n : Int64} {r : MySQLResult}
    (hw : p.Whole) (hp : ∀ b ∈ passed, c.Wants u b)
    (hf : Source.feedList (step c) (taken ++ rest) { unbufferedActive := u } = .ok (some (n, rest)) r)
    (h : (passed ++ (taken ++ rest) :: more).flatten = p.payloads) :
    passed.flatten.length + taken.length ≤ (p.head u).length := by
  have hl := congrArg List.length h
  simp only [List.flatten_append, List.flatten_cons, List.length_append] at hl
  cases p
  case ok d =>
    have : (Part.ok d).payloads.length = ((Part.ok d).head u).length := rfl
    omega
  case set r =>
    cases u
    case false =>
      have : (Part.set r).payloads.length = ((Part.set r).head false).length := rfl
      omega
    case true =>
      rw [List.flatten_append, List.flatten_cons, Part.payloads_split true (show (Part.set r).Announces _ from rfl)] at h
      have hh : (Part.set r).head true =
          (lenencInt r.columns.length :: r.columns.map (·.payload)) ++ [r.columnsEof.payload] := rfl
      rw [hh, List.append_assoc (lenencInt _ :: _), List.singleton_append] at h
      have ⟨front, hx, hr⟩ := wants_eof hp h
      rw [hh, hx, List.length_append, List.length_append, Nat.add_assoc, Nat.add_le_add_iff_left]
      obtain ⟨zs, hz, _⟩ | ⟨zs, hz, _⟩ := append_eq_append_cons hr
      case inl =>
        simp only [hz, List.length_append]
        omega
      case inr =>
        rw [hz] at hf
        have ⟨_, _, ho, hl⟩ := feedList_eof hf ⟨rfl, .inl rfl⟩
        obtain ⟨_, rfl⟩ := Prod.mk.inj (Option.some.inj ho)
        have hz := congrArg List.length hz
        simp only [List.length_append, List.length_cons] at hz
        rw [List.length_singleton]
        omega
  case cut => exact hw.elim

section Iff

variable (hc : c.Idle) (hp : p.Whole) (hs : ∀ q ∈ p.payloads, q.length ≤ usizeMax)
  (hb : batches.flatten = p.payloads)

include hp hs hb

theorem all_at_once (hc : c.Idle) : ∃ c', readQueryResult u (c.arrive batches.flatten) =
    .ok (p.result c u).affectedRows c' ∧ c'.result = some (p.result c u) := by
  have ⟨body, hbody⟩ := head_prefix hp u
  have hs : ∀ q ∈ p.head u, q.length ≤ usizeMax := fun q hq => hs q (hbody ▸ List.mem_append_left _ hq)
  rw [hb, hbody, hc.reads]
  exact readQueryResult_some (gives_head hp hs body)

include hc

-- Packets of an earlier batch are lost, so that the others cannot make up the same result.
theorem Resumes.head_le (h : c.Resumes u batches) :
    (p.head u).length ≤ ((batches.find? (· ≠ [])).getD []).length := by
  have ⟨c₁, h₁, hc₁⟩ := all_at_once (u := u) hp hs hb hc
  have ⟨n, c₂, c₃, h₂, h₃, he⟩ := h
  obtain ⟨rfl, rfl⟩ := Outcome.ok.inj (h₁.symm.trans h₂)
  have ⟨passed, batch, more, r, hbs, hw, ⟨rest, hf⟩, hr⟩ := readInBatches_eq_ok hc h₃
  obtain rfl := Option.some.inj (hr.symm.trans (he.trans hc₁))
  have ⟨taken, ht, hne, hk⟩ := feedList_counted hf nofun ⟨rfl, rfl, rfl⟩
  subst hbs ht
  have hk := counted_result hp hk (by simpa using hne)
  have hle := taken_le hp hw hf hb
  have hz : passed.flatten = [] := List.length_eq_zero_iff.mp (by omega)
  have hn : passed.find? (· ≠ []) = none := by
    simpa [List.find?_eq_none] using List.flatten_eq_nil_iff.mp hz
  have hfind : (passed ++ (taken ++ rest) :: more).find? (· ≠ []) = some (taken ++ rest) := by
    rw [List.find?_append, hn, Option.none_or, List.find?_cons_of_pos (by simp [hne])]
  rw [hfind, Option.getD_some, List.length_append]
  omega

theorem resumes_of_head_le (hle : (p.head u).length ≤ ((batches.find? (· ≠ [])).getD []).length) :
    c.Resumes u batches := by
  have ⟨c₁, h₁, hc₁⟩ := all_at_once (u := u) hp hs hb hc
  have ⟨body, hbody⟩ := head_prefix hp u
  have hs : ∀ q ∈ p.head u, q.length ≤ usizeMax := fun q hq => hs q (hbody ▸ List.mem_append_left _ hq)
  have hpos := head_length_pos hp u
  cases hfind : batches.find? (· ≠ [])
  case none =>
    rw [hfind] at hle
    exact absurd hle (Nat.not_le.mpr hpos)
  case some batch =>
    rw [hfind, Option.getD_some] at hle
    have ⟨_, passed, more, hbs, hnil⟩ := List.find?_eq_some_iff_append.mp hfind
    have hnil : ∀ b ∈ passed, b = [] := by simpa using hnil
    subst hbs
    have hf : batch ++ more.flatten = p.head u ++ body := by
      rw [← hbody, ← hb, List.flatten_append, List.flatten_eq_nil_iff.mpr hnil]
      rfl
    have ⟨ys, hy⟩ := List.prefix_of_prefix_length_le ⟨body, rfl⟩ ⟨more.flatten, hf⟩ hle
    have hw : ∀ b ∈ passed, c.Wants u b := fun b hm => hnil b hm ▸ ⟨_, rfl⟩
    have ⟨c₂, h₂, hc₂⟩ := readInBatches_ok hc hw (hy ▸ gives_head hp hs ys) more
    exact ⟨_, c₁, c₂, h₁, h₂, hc₂.trans hc₁.symm⟩

-- Reading goes on after `NeedMoreData` only where nothing has been read before.
theorem resumes_iff :
    c.Resumes u batches ↔ (p.head u).length ≤ ((batches.find? (· ≠ [])).getD []).length :=
  ⟨fun h => h.head_le hc hp hs hb, resumes_of_head_le hc hp hs hb⟩

end Iff
end Parts

section Examples

open Libraries

def idle : Connection :=
  .fresh {} ⟨45, "utf8mb4", true⟩

omit [Libraries] in
theorem idle_idle : idle.Idle :=
  ⟨nofun, rfl⟩

omit [Libraries] in
theorem oneRow_resumes : @Resumes utf8Only false [[], oneRow.payloads] idle := by
  let := utf8Only
  exact (resumes_iff (p := .set oneRow) idle_idle trivial (by decide) rfl).mpr (by decide)

-- The number of columns comes in before their definitions.
omit [Libraries] in
theorem oneRow_not_resumes :
    let batches := [oneRow.payloads.take 1, oneRow.payloads.drop 1]
    idle.Idle ∧ batches.flatten = oneRow.payloads ∧ (∀ q ∈ oneRow.payloads, q.length ≤ usizeMax) ∧
      ¬@Resumes utf8Only false batches idle := by
  let := utf8Only
  refine ⟨idle_idle, by decide, by decide, fun h => ?_⟩
  exact absurd (h.head_le (p := .set oneRow) idle_idle trivial (by decide) (by decide)) (by decide)

end Examples

end Connection
end MySQL
