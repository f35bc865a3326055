import MysqlRs.Tokio.Connection

namespace MySQL.Tokio

open ClientError Command

variable [Libraries]

-- A path that starts with `~` is relative to the home directory.
def expandUser (path : Text) : Text :=
  let home := Files.home.getD []
  match path with
  | ['~']            => home
  | '~' :: '/' :: p  => home ++ '/' :: p
  | path             => path

def CHUNK_SIZE : Nat := 8192

namespace Mogrify

def notEnough : Error :=
  .programmingError CR_INVALID_PARAMETER_NO "Not enough placeholders for arguments"

def tooMany : Error :=
  .programmingError CR_INVALID_PARAMETER_NO "Too many arguments for placeholders"

-- Puts the arguments in the place of `%s`. Gives the arguments that are left over.
def substitute : Text → List Text → Except Error (Text × List Text)
  | '%' :: 's' :: rest, args => do
    match args with
    | []          => .error notEnough
    | arg :: args =>
      let (result, args) ← substitute rest args
      return (arg ++ result, args)
  | '%' :: '%' :: rest, args => do
    let (result, args) ← substitute rest args
    return ('%' :: result, args)
  | c :: rest, args => do
    let (result, args) ← substitute rest args
    return (c :: result, args)
  | [], args => return ([], args)

end Mogrify

def mogrifyQuery (query : Text) (args : Option (List Value)) (literal : Value → Except Error Text) :
    Except Error Text :=
  match args with
  | none      => .ok query
  | some args => do
    let escaped ← args.mapM literal
    let (result, rest) ← Mogrify.substitute query escaped
    if rest ≠ [] then .error Mogrify.tooMany else .ok result

namespace Connection

def result (c : Connection) : Option MySQLResult :=
  c.inner.result

-- `chunks`: pieces of `CHUNK_SIZE` bytes, the last one may be shorter.
def writeChunks (data : Bytes) : Proc Error Connection Unit :=
  if _h : data = [] then pure ()
  else do
    onInner (MySQL.Connection.writePacket (data.take CHUNK_SIZE))
    writeChunks (data.drop CHUNK_SIZE)
termination_by data.length
decreasing_by
  have := List.length_pos_iff.mpr _h
  simp only [List.length_drop, CHUNK_SIZE]
  omega

def sendLoadLocalFile (packet : MysqlPacket) : Proc Error Connection Unit := do
  if !(← get).inner.options.localInfile then
    Proc.throw (.operationalError CR_LOAD_DATA_LOCAL_INFILE_REJECTED
      "Received LOAD_LOCAL packet but local_infile option is false")
  let loadPacket ← Proc.ofExcept (LoadLocalPacketWrapper.fromPacket packet)
  let filename := expandUser (Text.fromUtf8Lossy loadPacket.filename)
  let data ← Proc.ofExcept <| (Files.read filename).mapError fun e =>
    .operationalError CR_LOAD_DATA_LOCAL_INFILE_REJECTED
      s!"Failed to read LOAD DATA LOCAL INFILE file {String.ofList filename}: {e}"
  writeChunks data
  onInner (MySQL.Connection.writePacket [])
  pumpWrite

def feedStep (packet : MysqlPacket) (c : Connection) : Proc Error MySQLResult (Option Int64) :=
  MySQLResult.feedStep packet c.inner

-- Only the first packet is taken for a LOAD LOCAL request.
def readFirstPacket (result : MySQLResult) :
    Proc Error Connection (Option Int64 × MySQLResult) := do
  let packet ← readPacket
  if packet.isLoadLocalPacket then
    sendLoadLocalFile packet
    return (none, result)
  else
    Proc.onLocal result (feedStep packet (← get))

def readQueryResult (unbuffered : Bool) : Proc Error Connection Int64 := do
  let (affected, result) ← readFirstPacket { unbufferedActive := unbuffered }
  let (affected, result) ←
    match affected with
    | some affected => pure (affected, result)
    | none          => packets.feedLocal feedStep result
  modify fun c => c.setInner (c.inner.setResult result)
  return affected

def unbufferedActive (c : Connection) : Bool :=
  (c.inner.result.map (·.unbufferedActive)).getD false

-- Runs an operation of the current result.
def onResult {α : Type} (step : MysqlPacket → Proc Error MySQLResult (Option α)) :
    Proc Error Connection α :=
  packets.feedWithin (fun c => c.inner.result.getD {})
    (fun r c => c.setInner { c.inner with result := some r }) fun packet _ => step packet

def finishStep (packet : MysqlPacket) : Proc Error MySQLResult (Option Unit) := do
  let _ ← MySQLResult.readRowdataPacketUnbuffered packet
  return if (← get).unbufferedActive then none else some ()

def finishUnbufferedQuery : Proc Error Connection Unit := do
  if !(← get).unbufferedActive then return
  onResult finishStep

def rowStep (packet : MysqlPacket) : Proc Error MySQLResult (Option (Option Row)) := do
  let row ← MySQLResult.readRowdataPacketUnbuffered packet
  if row.isSome || !(← get).unbufferedActive then return some row
  return none

def nextUnbufferedRow : Proc Error Connection (Option Row) := do
  if !(← get).unbufferedActive then return none
  onResult rowStep

def query (sql : Text) (unbuffered : Bool) : Proc Error Connection Int64 := do
  finishUnbufferedQuery
  onInner (MySQL.Connection.executeCommand COM_QUERY sql.asBytes)
  pumpWrite
  readQueryResult unbuffered

def literal (obj : Value) (c : Connection) : Except Error Text :=
  c.inner.literal obj

def mogrify (query : Text) (args : Option (List Value)) (c : Connection) : Except Error Text :=
  mogrifyQuery query args c.literal

def execute (query : Text) (args : Option (List Value)) : Proc Error Connection Int64 := do
  let query ← Proc.ofExcept ((← get).mogrify query args)
  Connection.query query false

def nextResult (unbuffered : Bool) : Proc Error Connection Int64 := do
  finishUnbufferedQuery
  readQueryResult unbuffered

def close : Proc Error Connection Unit := do
  finishUnbufferedQuery
  onInner MySQL.Connection.close
  pumpWrite
  modify ({ · with stream := none })

def forceClose (c : Connection) : Connection :=
  c.abandoned

def isOpen (c : Connection) : Bool :=
  c.inner.isOpen

def inTransaction (c : Connection) : Bool :=
  c.inner.inTransaction

-- The commands that are answered by an OK packet alone.
def simpleCommand (command : Proc Error MySQL.Connection Unit) : Proc Error Connection Unit := do
  onInner command
  pumpWrite
  let _ ← readOkPacket

def ping : Proc Error Connection Unit :=
  simpleCommand MySQL.Connection.ping

def selectDb (db : Text) : Proc Error Connection Unit :=
  simpleCommand (MySQL.Connection.selectDb db)

def commit : Proc Error Connection Unit :=
  simpleCommand MySQL.Connection.commit

def rollback : Proc Error Connection Unit :=
  simpleCommand MySQL.Connection.rollback

def rollbackDirtyTransaction : Proc Error Connection Unit := do
  if (← get).transactionDirty || (← get).inTransaction then
    let _ ← query "ROLLBACK".toList false
    modify ({ · with transactionDirty := false })

section Remaining

variable {c c' : Connection}

omit [Libraries] in
theorem keeps_onInner {α : Type} {x : Proc Error MySQL.Connection α}
    (hx : x.Keeps (·.packetStream.recvQueue)) : (onInner x).Keeps remaining := by
  refine .zoom hx fun c i h => ?_
  have h : i.packetStream.recvQueue = c.inner.packetStream.recvQueue := h
  exact congrArg (fun q => toLex (c.reads, q.length)) h

theorem keeps_writePacket (payload : Bytes) :
    (onInner (MySQL.Connection.writePacket payload)).Keeps remaining :=
  keeps_onInner (.zoom (PacketStream.writePacket_recvQueue payload) fun _ _ h => h)

omit [Libraries] in
theorem keeps_writeAll (data : Bytes) : (writeAll data).Keeps remaining := by
  intro c _ c' h
  rw [writeAll] at h
  split at h
  case h_1        => cases h
  case h_2 st hs =>
    split at h
    case h_1 => cases h
    case h_2 =>
      obtain ⟨_, rfl⟩ := Outcome.ok.inj h
      simp [remaining, reads, incoming, answers, hs]

omit [Libraries] in
-- What the peer answers is then there to be read.
theorem keeps_flush : flush.Keeps remaining := by
  intro c _ c' h
  rw [flush] at h
  split at h
  case h_1        => cases h
  case h_2 st hs =>
    split at h
    case h_1 => cases h
    case h_2 =>
      obtain ⟨_, rfl⟩ := Outcome.ok.inj h
      cases ha : st.answers <;> simp [remaining, reads, incoming, answers, hs, ha]

omit [Libraries] in
theorem keeps_writeQueue (queue : List Bytes) : (writeQueue queue).Keeps remaining := by
  induction queue
  case nil            => exact .pure ()
  case cons data _ ih =>
    exact .bind (.modify fun _ => rfl) fun _ => .bind (keeps_writeAll data) fun _ => ih

omit [Libraries] in
theorem keeps_pumpWrite : pumpWrite.Keeps remaining :=
  .bind .get fun _ => .bind (keeps_writeQueue _) fun _ => keeps_flush

theorem keeps_writeChunks (data : Bytes) : (writeChunks data).Keeps remaining := by
  fun_induction writeChunks data
  case case1    => exact .pure ()
  case case2 ih => exact .bind (keeps_writePacket _) fun _ => ih

theorem keeps_sendLoadLocalFile (packet : MysqlPacket) :
    (sendLoadLocalFile packet).Keeps remaining := by
  refine .bind .get fun c => ?_
  split
  case isTrue  => exact .throw _
  case isFalse =>
    refine .bind (.ofExcept _) fun _ => .bind (.ofExcept _) fun _ => ?_
    exact .bind (keeps_writeChunks _) fun _ => .bind (keeps_writePacket _) fun _ => keeps_pumpWrite

theorem readFirstPacket_lt {r : MySQLResult} {x : Option Int64 × MySQLResult}
    (h : readFirstPacket r c = .ok x c') : c'.remaining < c.remaining := by
  have ⟨p, c₁, hp, h⟩ := Outcome.bind_eq_ok.mp h
  have hk : c'.remaining = c₁.remaining := by
    split at h
    case isTrue =>
      have ⟨_, _, hs, h⟩ := Outcome.bind_eq_ok.mp h
      obtain ⟨_, rfl⟩ := Outcome.ok.inj h
      exact keeps_sendLoadLocalFile p hs
    case isFalse =>
      simp only [Proc.bind_apply, Proc.get_apply, Outcome.bind_ok, Proc.onLocal] at h
      split at h
      case h_1 =>
        obtain ⟨_, rfl⟩ := Outcome.ok.inj h
        rfl
      all_goals exact nomatch h
  exact hk ▸ readPacket_lt hp

theorem readQueryResult_lt {u : Bool} {n : Int64} (h : readQueryResult u c = .ok n c') :
    c'.remaining < c.remaining := by
  have ⟨⟨affected, r⟩, c₁, hx, h⟩ := Outcome.bind_eq_ok.mp h
  have h₁ := readFirstPacket_lt hx
  cases affected
  case some n =>
    obtain ⟨_, rfl⟩ := Outcome.ok.inj h
    exact h₁
  case none =>
    have ⟨_, c₂, hf, h⟩ := Outcome.bind_eq_ok.mp h
    obtain ⟨_, rfl⟩ := Outcome.ok.inj h
    have h₂ : c₂.remaining < c₁.remaining := packets.feedLocal_lt readPacket_lt hf
    exact lt_trans h₂ h₁

theorem onResult_lt {α : Type} {step : MysqlPacket → Proc Error MySQLResult (Option α)} {x : α}
    (h : onResult step c = .ok x c') : c'.remaining < c.remaining := by
  rw [onResult] at h
  refine packets.feedWithin_lt readPacket_lt ?_ h
  exact fun _ _ => rfl

theorem finishUnbufferedQuery_le (h : finishUnbufferedQuery c = .ok () c') :
    c'.remaining ≤ c.remaining := by
  simp only [finishUnbufferedQuery, Proc.bind_apply, Proc.get_apply, Outcome.bind_ok] at h
  split at h
  case isTrue =>
    obtain ⟨_, rfl⟩ := Outcome.ok.inj h
    exact le_rfl
  case isFalse => exact le_of_lt (onResult_lt h)

theorem nextUnbufferedRow_lt {row : Row} (h : nextUnbufferedRow c = .ok (some row) c') :
    c'.remaining < c.remaining := by
  simp only [nextUnbufferedRow, Proc.bind_apply, Proc.get_apply, Outcome.bind_ok] at h
  split at h
  case isTrue  => exact nomatch h
  case isFalse => exact onResult_lt h

theorem nextResult_lt {u : Bool} {n : Int64} (h : nextResult u c = .ok n c') :
    c'.remaining < c.remaining := by
  have ⟨_, _, hf, hr⟩ := Outcome.bind_eq_ok.mp h
  exact lt_of_lt_of_le (readQueryResult_lt hr) (finishUnbufferedQuery_le hf)

end Remaining

end Connection
end MySQL.Tokio
