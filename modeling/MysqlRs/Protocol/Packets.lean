import MysqlRs.Core.FeedPacket
import MysqlRs.Protocol.Consumes
import MysqlRs.Session.Arrivals

-- The packets of a server's responses, by their contents.
namespace MySQL.Server

open MysqlPacket

def uint16 (n : UInt16) : Bytes :=
  LittleEndian.encode 2 n.toNat

structure Ok where
  affectedRows : UInt64
  insertId     : UInt64
  status       : UInt16
  warnings     : UInt16
  message      : Bytes

def Ok.payload (d : Ok) : Bytes :=
  0 :: lenencInt d.affectedRows.toNat ++ lenencInt d.insertId.toNat ++ uint16 d.status ++
    uint16 d.warnings ++ d.message

def Ok.wrapper (d : Ok) : OkPacketWrapper where
  affectedRows := some d.affectedRows
  insertId     := some d.insertId
  serverStatus := d.status
  warningCount := d.warnings
  message      := d.message
  hasNext      := hasMoreResults d.status

structure Eof where
  warnings : UInt16
  status   : UInt16

def Eof.payload (d : Eof) : Bytes :=
  0xFE :: uint16 d.warnings ++ uint16 d.status

def Eof.wrapper (d : Eof) : EofPacketWrapper where
  warningCount := d.warnings
  serverStatus := d.status
  hasNext      := hasMoreResults d.status

-- An ERR packet, whatever it holds.
def errPayload (body : Bytes) : Bytes :=
  0xFF :: body

structure Column where
  catalog  : Bytes
  schema   : Bytes
  table    : Bytes
  orgTable : Bytes
  name     : Bytes
  orgName  : Bytes
  charset  : UInt16
  length   : UInt32
  type     : UInt8
  flags    : UInt16
  decimals : UInt8

def Column.payload (d : Column) : Bytes :=
  lenencString d.catalog ++ (lenencString d.schema ++ (lenencString d.table ++
    (lenencString d.orgTable ++ (lenencString d.name ++ (lenencString d.orgName ++
    ([0x0c] ++ (uint16 d.charset ++ (LittleEndian.encode 4 d.length.toNat ++ ([d.type] ++
    (uint16 d.flags ++ ([d.decimals] ++ [0, 0])))))))))))

def Column.field [Libraries] (d : Column) (encoding : Text) : FieldDescriptorPacket where
  catalog   := some d.catalog
  db        := some d.schema
  tableName := decodeBytes encoding d.table
  orgTable  := decodeBytes encoding d.orgTable
  name      := decodeBytes encoding d.name
  orgName   := decodeBytes encoding d.orgName
  charsetnr := d.charset
  length    := d.length
  typeCode  := d.type
  flags     := d.flags
  scale     := d.decimals

def rowPayload (row : List (Option Bytes)) : Bytes :=
  row.flatMap lenencNullable

theorem lenencInt_length_pos (n : Nat) : 0 < (lenencInt n).length := by
  rw [lenencInt]
  split_ifs <;> simp

section Kinds

theorem Ok.isOkPacket (d : Ok) : (new d.payload).isOkPacket := by
  have := lenencInt_length_pos d.affectedRows.toNat
  have := lenencInt_length_pos d.insertId.toNat
  simp [MysqlPacket.isOkPacket, payload, uint16]
  omega

theorem Eof.isEofPacket (d : Eof) : (new d.payload).isEofPacket := by
  simp [MysqlPacket.isEofPacket, payload, uint16]

theorem isError_errPayload (body : Bytes) : IsError (errPayload body) := by
  simp [IsError, isErrorPacket, errPayload]

end Kinds

-- The reader's value, if it takes a whole packet for that value.
theorem run_of_finishes {σ α : Type} {r : Reader α} {bs : Bytes} {a : α} (hr : Finishes r bs a)
    (h : bs.length ≤ usizeMax) : (new bs).run r = (pure a : Proc Error σ α) := by
  rw [MysqlPacket.run, hr.run' h, Proc.ofExcept_ok]

theorem Ok.run {σ : Type} (d : Ok) (h : d.payload.length ≤ usizeMax) :
    (new d.payload).run OkPacketWrapper.fromPacket = (pure d.wrapper : Proc Error σ _) := by
  have hr : Finishes OkPacketWrapper.readFields d.payload d.wrapper := by
    simp only [payload, List.append_assoc]
    refine (consumes_advance [0]).bind_finishes ?_
    refine (consumes_readLengthEncodedUInt64 d.affectedRows).bind_finishes ?_
    refine (consumes_readLengthEncodedUInt64 d.insertId).bind_finishes ?_
    refine (consumes_readUint16 d.status).bind_finishes ?_
    refine (consumes_readUint16 d.warnings).bind_finishes ?_
    exact (finishes_readAll d.message).map
  have := run_of_finishes (σ := σ) hr h
  simpa [MysqlPacket.run, OkPacketWrapper.fromPacket, StateT.run', d.isOkPacket] using this

theorem Eof.run {σ : Type} (d : Eof) :
    (new d.payload).run EofPacketWrapper.fromPacket = (pure d.wrapper : Proc Error σ _) := by
  have hr : Finishes EofPacketWrapper.readFields d.payload d.wrapper := by
    refine (consumes_advance [0xFE]).bind_finishes ?_
    refine (consumes_readUint16 d.warnings).bind_finishes ?_
    have := (consumes_readUint16 d.status).finishes []
    rw [List.append_nil] at this
    exact this.map
  have := run_of_finishes (σ := σ) hr (by simp [payload, uint16, usizeMax])
  simpa [MysqlPacket.run, EofPacketWrapper.fromPacket, StateT.run', d.isEofPacket] using this

theorem lenencString_le {s bs : Bytes} (h : (lenencString s ++ bs).length ≤ usizeMax) :
    s.length < 2 ^ 64 ∧ bs.length ≤ usizeMax := by
  simp only [lenencString, List.length_append, usizeMax] at h ⊢
  omega

theorem consumes_lenencString {s : Bytes} (h : s.length < 2 ^ 64) :
    Consumes readLengthCodedString (lenencString s) (some s) :=
  consumes_readLengthCodedString (s := some s) fun _ hs => Option.some.inj hs ▸ h

theorem Column.parse [Libraries] (d : Column) (encoding : Text) (h : d.payload.length ≤ usizeMax) :
    FieldDescriptorPacket.parse d.payload encoding = .ok (d.field encoding) := by
  have ⟨h₁, h'⟩ := lenencString_le h
  have ⟨h₂, h'⟩ := lenencString_le h'
  have ⟨h₃, h'⟩ := lenencString_le h'
  have ⟨h₄, h'⟩ := lenencString_le h'
  have ⟨h₅, h'⟩ := lenencString_le h'
  have ⟨h₆, _⟩ := lenencString_le h'
  refine Finishes.run' ?_ h
  refine (consumes_lenencString h₁).bind_finishes ?_
  refine (consumes_lenencString h₂).bind_finishes ?_
  refine (consumes_lenencString h₃).bind_finishes ?_
  refine (consumes_lenencString h₄).bind_finishes ?_
  refine (consumes_lenencString h₅).bind_finishes ?_
  refine (consumes_lenencString h₆).bind_finishes ?_
  refine (consumes_readUint8 0x0c).bind_finishes ?_
  refine (consumes_readUint16 d.charset).bind_finishes ?_
  refine (consumes_readUint32 d.length).bind_finishes ?_
  refine (consumes_readUint8 d.type).bind_finishes ?_
  refine (consumes_readUint16 d.flags).bind_finishes ?_
  exact ((consumes_readUint8 d.decimals).finishes [0, 0]).map

theorem row_consumes [Libraries] {row : List (Option Bytes)} {converters : List FieldConverter}
    (hl : row.length = converters.length) (h : (rowPayload row).length ≤ usizeMax) :
    Consumes (FieldConverter.readRow converters) (rowPayload row)
      (List.zipWith FieldConverter.convert converters row) := by
  induction row generalizing converters
  case nil =>
    rw [List.length_eq_zero_iff.mp hl.symm]
    exact .pure []
  case cons s row ih =>
    have ⟨c, cs, hc⟩ := List.exists_cons_of_length_eq_add_one hl.symm
    rw [rowPayload, List.flatMap_cons, List.length_append] at h
    rw [hc, List.length_cons, List.length_cons] at hl
    have hs : ∀ s' ∈ s, s'.length < 2 ^ 64 := by
      rintro s' rfl
      simp only [lenencNullable, lenencString, List.length_append, usizeMax] at h
      omega
    rw [hc, List.zipWith_cons_cons]
    refine (consumes_readLengthCodedString hs).bind ?_
    exact (ih (by omega) (by rw [rowPayload]; omega)).map

theorem row_finishes [Libraries] {row : List (Option Bytes)} {converters : List FieldConverter}
    (hl : row.length = converters.length) (h : (rowPayload row).length ≤ usizeMax) :
    Finishes (FieldConverter.readRow converters) (rowPayload row)
      (List.zipWith FieldConverter.convert converters row) := by
  have hf := (row_consumes hl h).finishes []
  rwa [List.append_nil] at hf

theorem readRow_local [Libraries] (converters : List FieldConverter) :
    Local (FieldConverter.readRow converters) := by
  induction converters
  case nil            => exact .pure []
  case cons c cs ih => exact Local.readLengthCodedString.bind fun s => ih.map fun row => c.convert s :: row

end MySQL.Server
