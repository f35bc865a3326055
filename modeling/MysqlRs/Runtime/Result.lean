import MysqlRs.Core.FeedPacket
import MysqlRs.Runtime.Converters
import MysqlRs.Runtime.Error

namespace MySQL
namespace Runtime

open ClientError Checked Raw

namespace FieldDescriptorPacket

def reader [Libraries] (encoding : Text) : Reader FieldDescriptorPacket := do
  let catalog ← readLengthCodedString
  let db ← readLengthCodedString
  let tableName := decodeOrEmpty (← readLengthCodedString) encoding
  let orgTable := decodeOrEmpty (← readLengthCodedString) encoding
  let name := decodeOrEmpty (← readLengthCodedString) encoding
  let orgName := decodeOrEmpty (← readLengthCodedString) encoding
  let filler ← readUint8
  if filler ≠ 0x0c then
    let hex := Nat.toDigits 16 filler.toNat
    let hex := String.ofList (List.replicate (2 - hex.length) '0' ++ hex)
    throw (.internalError CR_MALFORMED_PACKET
      s!"Invalid field descriptor filler: expected 0x0c, got 0x{hex}")
  let charsetnr ← readUint16
  let length ← readUint32
  let typeCode ← readUint8
  let flags ← readUint16
  let scale ← readUint8
  return {
    catalog, db, tableName, orgTable, name, orgName, charsetnr, length, typeCode, flags, scale
  }

def parse [Libraries] (data : Bytes) (encoding : Text) : Checked (Except Error FieldDescriptorPacket) := do
  let (field, _) ← reader encoding (MysqlPacket.new data)
  return field

def getColumnLength (f : FieldDescriptorPacket) : Checked UInt32 := do
  if f.typeCode = FieldType.VAR_STRING then
    let mblen := mblength f.charsetnr
    return UInt32.ofNat (← div f.length.toNat (UInt32.ofNat mblen).toNat)
  else return f.length

def description (f : FieldDescriptorPacket) : Checked ColumnDescription := do
  let columnLength ← getColumnLength f
  return {
    name := f.name
    typeCode := f.typeCode
    internalSize := columnLength
    precision := columnLength
    scale := f.scale
    nullOk := f.flags % 2 = 0
  }

theorem reader_reads [Libraries] (encoding : Text) :
    Reads (fun _ => True) (reader encoding) (MySQL.FieldDescriptorPacket.reader encoding) := by
  refine .bind readLengthCodedString_reads fun _ _ => .bind readLengthCodedString_reads fun _ _ => ?_
  refine .bind readLengthCodedString_reads fun _ _ => .bind readLengthCodedString_reads fun _ _ => ?_
  refine .bind readLengthCodedString_reads fun _ _ => .bind readLengthCodedString_reads fun _ _ => ?_
  refine .bind readUint8_reads fun filler _ => .guard ?_
  refine .bind readUint16_reads fun _ _ => .bind readUint32_reads fun _ _ => ?_
  refine .bind readUint8_reads fun _ _ => .bind readUint16_reads fun _ _ => ?_
  exact .bind readUint8_reads fun _ _ => .pure trivial

theorem parse_eq [Libraries] (data : Bytes) (h : data.length ≤ isizeMax) (encoding : Text) :
    parse data encoding = .ok (MySQL.FieldDescriptorPacket.parse data encoding) := by
  have h := reader_reads encoding (MysqlPacket.new data) ⟨Nat.zero_le _, h⟩
  rw [parse, MySQL.FieldDescriptorPacket.parse, StateT.run']
  change Matches _ _ (MySQL.FieldDescriptorPacket.reader encoding (MysqlPacket.new data)) at h
  generalize reader encoding (MysqlPacket.new data) = x at h ⊢
  generalize MySQL.FieldDescriptorPacket.reader encoding (MysqlPacket.new data) = y at h ⊢
  cases h <;> rfl

theorem mblength_pos (charsetnr : UInt16) : (UInt32.ofNat (mblength charsetnr)).toNat ≠ 0 := by
  rw [mblength]
  split_ifs <;> decide

theorem getColumnLength_eq (f : FieldDescriptorPacket) : getColumnLength f = .ok f.getColumnLength := by
  rw [getColumnLength, MySQL.FieldDescriptorPacket.getColumnLength]
  split_ifs
  case pos =>
    simp only [div_eq (mblength_pos f.charsetnr), ok_bind]
    rw [← UInt32.toNat_div, UInt32.ofNat_toNat]
    rfl
  case neg => rfl

theorem description_eq (f : FieldDescriptorPacket) : description f = .ok f.description := by
  rw [description, getColumnLength_eq]
  rfl

end FieldDescriptorPacket

section Packets

variable {σ α β γ : Type} {P : α → Prop} {I : σ → Prop} {q : β → γ → Prop} {x : Reader α} {y : MysqlPacket.Reader α}
  {packet : MysqlPacket}

-- Reading a packet leaves the state alone.
theorem Reads.onLocal (h : Reads P x y) (hp : packet.Fits) (s : σ) :
    onLocal packet x s = .ok (y.run' packet, s) ∧ ∀ a, y.run' packet = .ok a → P a := by
  have h := h packet hp
  rw [StateT.run', Raw.onLocal]
  generalize x packet = o at h ⊢
  generalize y packet = o' at h ⊢
  cases h
  case ok a p ha _   => exact ⟨rfl, fun b hb => Except.ok.inj hb ▸ ha⟩
  case error e p _ => exact ⟨rfl, fun b hb => nomatch hb⟩

theorem Reads.meets (h : Reads P x y) (hp : packet.Fits) {s : σ} (hs : I s) {f : α → Raw Error σ β}
    {g : α → Proc Error σ γ} (hf : ∀ a, P a → Meets I q (f a s) (g a s)) :
    Meets I q ((Raw.onLocal packet x >>= f) s) ((packet.run y >>= g) s) := by
  have ⟨hx, hP⟩ := h.onLocal hp s
  rw [bind_apply, hx, MysqlPacket.run]
  cases hy : y.run' packet
  case error e => exact .error hs
  case ok a    => exact hf a (hP a hy)

theorem Reads.sound (h : Reads P x y) (hp : packet.Fits) :
    Sound I (fun a b => a = b ∧ P a) (Raw.onLocal packet x) (packet.run y) := by
  intro s hs
  have ⟨hx, hP⟩ := h.onLocal hp s
  rw [hx, MysqlPacket.run]
  cases hy : y.run' packet
  case error e => exact .error hs
  case ok a    => exact .ok ⟨rfl, hP a hy⟩ hs

end Packets

def readLoadLocalPacket (packet : MysqlPacket) (conn : Connection) : Checked Error := do
  if !conn.options.localInfile then
    return .operationalError CR_LOAD_DATA_LOCAL_INFILE_REJECTED
      "Received LOAD_LOCAL packet but local_infile option is false"
  match ← LoadLocalPacketWrapper.fromPacket packet with
  | .error e       => return e
  | .ok loadPacket =>
    return .operationalError CR_LOAD_DATA_LOCAL_INFILE_REJECTED
      s!"LOAD DATA LOCAL INFILE requires I/O driver support: {String.ofList (Text.fromUtf8Lossy loadPacket.filename)}"

theorem readLoadLocalPacket_eq (packet : MysqlPacket) (conn : Connection) :
    readLoadLocalPacket packet conn = .ok (MySQLResult.readLoadLocalPacket packet conn) := by
  rw [readLoadLocalPacket, MySQLResult.readLoadLocalPacket, loadLocalFromPacket_eq]
  split_ifs
  case pos => rfl
  case neg => cases MySQL.LoadLocalPacketWrapper.fromPacket packet <;> rfl

abbrev ResultRaw := Raw Error MySQLResult

namespace FieldConverter

variable [Libraries]

def converter (c : FieldConverter) : Option (Text → Checked Value) :=
  match c.decoder with
  | .registered convert => some fun s => pure (convert s)
  | .builtin fieldType  => decoderFor fieldType

def convert (c : FieldConverter) : Option Bytes → Checked Value
  | none       => pure .null
  | some bytes =>
    match c.encoding with
    | none          => pure (.bytes bytes)
    | some encoding =>
      let s := decodeBytes encoding bytes
      match converter c with
      | some convert => convert s
      | none         => pure (.string s)

def readRow : List FieldConverter → Reader Row
  | []      => return []
  | c :: cs => do
    let data ← readLengthCodedString
    let value ← convert c data
    let row ← readRow cs
    return value :: row

theorem converter_eq (c : FieldConverter) : converter c = c.converter.map fun convert s => .ok (convert s) := by
  rw [converter, MySQL.FieldConverter.converter]
  cases c.decoder
  case registered        => rfl
  case builtin fieldType => exact decoderFor_eq fieldType

theorem convert_eq (c : FieldConverter) (data : Option Bytes) : convert c data = .ok (c.convert data) := by
  cases data
  case none       => rfl
  case some bytes =>
    rw [convert, MySQL.FieldConverter.convert, converter_eq]
    cases c.encoding
    case none => rfl
    case some => cases c.converter <;> rfl

theorem readRow_reads (cs : List FieldConverter) :
    Reads (fun _ => True) (readRow cs) (MySQL.FieldConverter.readRow cs) := by
  induction cs
  case nil          => exact .pure trivial
  case cons c cs ih =>
    refine .bind readLengthCodedString_reads fun data _ => .step (convert_eq c data) ?_
    exact .bind ih fun _ _ => .pure trivial

end FieldConverter

def checkPacketIsEof (packet : MysqlPacket) : ResultRaw Bool := do
  if !packet.isEofPacket then return false
  let wp ← onLocal packet EofPacketWrapper.fromPacket
  modify fun r => {
    r with
    warningCount := wp.warningCount
    hasNext := wp.hasNext
    serverStatus := some wp.serverStatus
  }
  return true

def readRowFromPacket [Libraries] (packet : MysqlPacket) : ResultRaw Row := do
  onLocal packet (FieldConverter.readRow (← get).converters)

def feedRow [Libraries] (packet : MysqlPacket) : ResultRaw FeedResult := do
  if ← checkPacketIsEof packet then
    modify ({ · with readState := .done })
    return .done
  let row ← readRowFromPacket packet
  modify fun r => { r with rows := some (r.rows.getD [] ++ [row]) }
  return .needMore

def readRowdataPacketUnbuffered [Libraries] (packet : MysqlPacket) : ResultRaw (Option Row) := do
  if !(← get).unbufferedActive then return none
  if ← checkPacketIsEof packet then
    modify ({ · with unbufferedActive := false, readState := .done })
    return none
  modify ({ · with affectedRows := 1 })
  let row ← readRowFromPacket packet
  modify ({ · with rows := some [row] })
  return some row

def feedInitial (packet : MysqlPacket) (conn : Connection) : ResultRaw FeedResult := do
  if packet.isOkPacket then
    let ok ← onLocal packet OkPacketWrapper.fromPacket
    modify fun r => {
      r with
      affectedRows := (ok.affectedRows.getD 0).toInt64
      insertId := ok.insertId
      serverStatus := some ok.serverStatus
      warningCount := ok.warningCount
      message := some ok.message
      hasNext := ok.hasNext
      readState := .done
    }
    return .done
  else if packet.isLoadLocalPacket then
    throw (← readLoadLocalPacket packet conn)
  else
    let fieldCount ← onLocal packet readLengthEncodedInteger
    modify fun r => {
      r with
      fieldCount := fieldCount.getD 0
      fields := []
      converters := []
      description := none
      rows := none
      readState := .descriptions
    }
    return .needMore

def feedDescription [Libraries] (packet : MysqlPacket) (conn : Connection) : ResultRaw FeedResult := do
  let result ← get
  if result.fields.length < result.fieldCount.toNat then
    let field ← (← FieldDescriptorPacket.parse packet.data conn.encoding : Except Error FieldDescriptorPacket)
    modify fun r => {
      r with
      converters := r.converters ++ [MySQLResult.buildConverter field conn]
      fields := r.fields ++ [field]
    }
    return .needMore
  else if !packet.isEofPacket then
    throw (.internalError CR_MALFORMED_PACKET "Protocol error, expecting EOF")
  else
    let wp ← onLocal packet EofPacketWrapper.fromPacket
    let description ←
      (result.fields.mapM FieldDescriptorPacket.description : Checked (List ColumnDescription))
    modify fun r => {
      r with
      warningCount := wp.warningCount
      hasNext := wp.hasNext
      serverStatus := some wp.serverStatus
      description := some description
      readState := if r.unbufferedActive then .unbufferedReady else .rows
    }
    return if result.unbufferedActive then .unbufferedReady else .needMore

def feedPacket [Libraries] (packet : MysqlPacket) (conn : Connection) : ResultRaw FeedResult := do
  match (← get).readState with
  | .initial                 => feedInitial packet conn
  | .descriptions            => feedDescription packet conn
  | .rows | .unbufferedReady => feedRow packet
  | .done                    => return .done

section Feeding

variable {packet : MysqlPacket} (hp : packet.Fits)

include hp

theorem checkPacketIsEof_sound : Sound (fun _ => True) (fun a b => a = b) (checkPacketIsEof packet)
    (MySQLResult.checkPacketIsEof packet) := by
  refine .ite Iff.rfl (fun _ => .pure rfl) fun _ => ?_
  refine .bind (eofFromPacket_reads.sound hp) fun wp _ h => ?_
  obtain ⟨rfl, -⟩ := h
  exact .bind (.modify fun _ _ => trivial) fun _ _ _ => .pure rfl

theorem readRowFromPacket_sound [Libraries] : Sound (fun _ => True) (fun a b => a = b) (readRowFromPacket packet)
    (MySQLResult.readRowFromPacket packet) := by
  refine .bind .get fun r _ h => ?_
  obtain ⟨rfl, -⟩ := h
  exact ((FieldConverter.readRow_reads r.converters).sound hp).mono fun _ _ h => h.left

theorem feedRow_sound [Libraries] : Sound (fun _ => True) (fun a b => a = b) (feedRow packet) (MySQLResult.feedRow packet) := by
  refine .bind (checkPacketIsEof_sound hp) fun eof _ h => ?_
  obtain rfl := h
  refine .ite Iff.rfl (fun _ => .bind (.modify fun _ _ => trivial) fun _ _ _ => .pure rfl) fun _ => ?_
  refine .bind (readRowFromPacket_sound hp) fun row _ h => ?_
  obtain rfl := h
  exact .bind (.modify fun _ _ => trivial) fun _ _ _ => .pure rfl

theorem readRowdataPacketUnbuffered_sound [Libraries] : Sound (fun _ => True) (fun a b => a = b)
    (readRowdataPacketUnbuffered packet) (MySQLResult.readRowdataPacketUnbuffered packet) := by
  refine .bind .get fun r _ h => ?_
  obtain ⟨rfl, -⟩ := h
  refine .ite Iff.rfl (fun _ => .pure rfl) fun _ => .bind (checkPacketIsEof_sound hp) fun eof _ h => ?_
  obtain rfl := h
  refine .ite Iff.rfl (fun _ => .bind (.modify fun _ _ => trivial) fun _ _ _ => .pure rfl) fun _ => ?_
  refine .bind (.modify fun _ _ => trivial) fun _ _ _ => .bind (readRowFromPacket_sound hp) fun row _ h => ?_
  obtain rfl := h
  exact .bind (.modify fun _ _ => trivial) fun _ _ _ => .pure rfl

theorem feedInitial_sound (conn : Connection) : Sound (fun _ => True) (fun a b => a = b) (feedInitial packet conn)
    (MySQLResult.feedInitial packet conn) := by
  refine .ite Iff.rfl (fun _ => ?_) fun _ => .ite Iff.rfl (fun _ => ?_) fun _ => ?_
  · refine .bind (okFromPacket_reads.sound hp) fun ok _ h => ?_
    obtain ⟨rfl, -⟩ := h
    exact .bind (.modify fun _ _ => trivial) fun _ _ _ => .pure rfl
  · exact .step (readLoadLocalPacket_eq packet conn) (.throw _)
  · refine .bind (readLengthEncodedInteger_reads.sound hp) fun fieldCount _ h => ?_
    obtain ⟨rfl, -⟩ := h
    exact .bind (.modify fun _ _ => trivial) fun _ _ _ => .pure rfl

theorem feedDescription_sound [Libraries] (conn : Connection) : Sound (fun _ => True) (fun a b => a = b)
    (feedDescription packet conn) (MySQLResult.feedDescription packet conn) := by
  refine .withState fun r _ => .branch Iff.rfl (fun _ => ?_) fun _ => ?_
  · refine .step (FieldDescriptorPacket.parse_eq packet.data hp.data conn.encoding) ?_
    suffices h : Sound _ _ _ _ from h r trivial
    refine .bind (.ofExcept _) fun field _ h => ?_
    obtain rfl := h
    exact .bind (.modify fun _ _ => trivial) fun _ _ _ => .pure rfl
  · refine .branch Iff.rfl (fun _ => .error trivial) fun _ => ?_
    refine eofFromPacket_reads.meets hp trivial fun wp _ => ?_
    refine .step (mapM_eq fun f _ => FieldDescriptorPacket.description_eq f) ?_
    exact .ok rfl trivial

theorem feedPacket_sound [Libraries] (conn : Connection) : Sound (fun _ => True) (fun a b => a = b) (feedPacket packet conn)
    (MySQLResult.feedPacket packet conn) := by
  refine .bind .get fun r _ h => ?_
  obtain ⟨rfl, -⟩ := h
  cases r.readState
  case initial      => exact feedInitial_sound hp conn
  case descriptions => exact feedDescription_sound hp conn
  case done         => exact .pure rfl
  all_goals exact feedRow_sound hp

end Feeding

end Runtime
end MySQL
