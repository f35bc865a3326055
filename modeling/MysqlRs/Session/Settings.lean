import MysqlRs.Auth.Opening
import MysqlRs.Library.Runs
import MysqlRs.Session.Drainable

namespace MySQL.Connection

open Command MySQLResult

-- What the setters set.
def chosen (c : Connection) : Text × ConnectOptions :=
  (c.encoding, c.options)

theorem detached_chosen : Detached chosen where
  greeting _ _ _ _ _ _ _ _ := rfl
  salt _ _                  := rfl
  plugin _ _                := rfl
  stream _ _                := rfl
  key _ _                   := rfl
  phase _ _                 := rfl

theorem onStream_chosen {α : Type} (x : Proc Error PacketStream α) : (onStream x).Leaves chosen :=
  .zoom x fun _ _ => rfl

theorem steady_chosen : Steady chosen where
  read           := onStream_chosen _
  answer _ _ _ _ := rfl

theorem readOkPacket_chosen : readOkPacket.Leaves chosen :=
  .bind (onStream_chosen _) fun _ => .guard _ fun _ => .bind (.ofExcept _) fun _ =>
    .bind (.modify fun _ => rfl) fun _ => .pure _

section Operations

variable [Libraries]

theorem executeCommand_chosen (command : UInt8) (sql : Bytes) : (executeCommand command sql).Leaves chosen :=
  .bind .get fun _ => .guard _ fun _ => .bind steady_chosen.drainPending fun _ =>
    .bind (.modify fun _ => rfl) fun _ => onStream_chosen _

theorem query_chosen (sql : Text) (unbuffered : Bool) : (query sql unbuffered).Leaves chosen :=
  .bind (executeCommand_chosen _ _) fun _ => .bind (steady_chosen.readQueryResult _) fun _ =>
    .bind (.modify fun _ => rfl) fun _ => .pure _

theorem close_chosen : close.Leaves chosen :=
  .bind .get fun _ => .ite (.pure _) (.bind (.modify fun _ => rfl) fun _ => onStream_chosen _)

theorem requestAuthenticationStart_chosen [Crypto] [Host] : requestAuthenticationStart.Leaves chosen := by
  refine .bind .get fun c => .guard _ fun _ => .bind (.ofExcept _) fun _ => .bind (.ofExcept _) fun _ => .ite ?_ ?_
  · exact .bind (onStream_chosen _) fun _ => .bind (.modify fun _ => rfl) fun _ => .pure _
  · exact .bind (detached_chosen.writeAuthPacket _) fun _ => .bind (.modify fun _ => rfl) fun _ => .pure _

-- The stream and the packets that have been received are such that a command can be sent.
structure Accepts (c : Connection) (command : UInt8) (sql : Bytes) : Prop where
  open_     : c.closed = false
  drainable : c.Drainable
  writable  : c.packetStream.resetSeqId.Writable (command :: sql)

-- What decides how a command is sent.
def sending (c : Connection) : Bool × Bool :=
  (c.packetStream.compressed, c.closed)

omit [Libraries] in
theorem steady_sending : Steady sending where
  read c := by
    cases hq : c.packetStream.recvQueue
    case nil       => rw [readPacket_nil hq, Outcome.state]
    case cons p ps =>
      rw [readPacket_cons hq]
      rfl
  answer _ _ _ _ := rfl

-- Draining does not change whether the packet can be written.
theorem writeCommand_iff {c c' : Connection} (h : sending c' = sending c) (command : UInt8) (sql : Bytes) :
    (∃ c'', writeCommand command sql c' = .ok () c'') ↔ c.packetStream.resetSeqId.Writable (command :: sql) := by
  have hc : c'.packetStream.compressed = c.packetStream.compressed := congrArg Prod.fst h
  have hw : c'.packetStream.resetSeqId.Writable (command :: sql) ↔
      c.packetStream.resetSeqId.Writable (command :: sql) := by
    simp only [PacketStream.Writable, PacketStream.resetSeqId, hc]
  have write : writeCommand command sql c' =
      (PacketStream.writePacket (command :: sql) c'.packetStream.resetSeqId).mapState c'.setStream := rfl
  rw [← hw, ← PacketStream.writePacket_iff, write]
  cases PacketStream.writePacket (command :: sql) c'.packetStream.resetSeqId
  all_goals simp

theorem executeCommand_iff {c : Connection} {command : UInt8} {sql : Bytes} :
    (∃ c', executeCommand command sql c = .ok () c') ↔ c.Accepts command sql := by
  simp only [executeCommand, Proc.bind_apply, Proc.get_apply, Outcome.bind_ok]
  constructor
  · rintro ⟨c', h⟩
    split at h
    case isTrue  => cases h
    case isFalse hc =>
      obtain ⟨_, c₁, h₁, h₂⟩ := Outcome.bind_eq_ok.mp h
      have hs : sending c₁ = sending c := steady_sending.drainPending.keeps h₁
      exact ⟨Bool.eq_false_iff.mpr hc, (drainPending_iff c).mp ⟨c₁, h₁⟩, (writeCommand_iff hs _ _).mp ⟨c', h₂⟩⟩
  · rintro ⟨hc, hd, hw⟩
    obtain ⟨c₁, h₁⟩ := (drainPending_iff c).mpr hd
    have hs : sending c₁ = sending c := steady_sending.drainPending.keeps h₁
    obtain ⟨c', h₂⟩ := (writeCommand_iff hs _ _).mpr hw
    rw [hc, if_neg Bool.false_ne_true]
    exact ⟨c', Outcome.bind_eq_ok.mpr ⟨(), c₁, h₁, h₂⟩⟩

section Runs

-- The operations of a connection that change it.
inductive Op
  | setCharacterSet (charset : Text) (collation : Option Text)
  | setAutocommit (value : Bool)
  | executeCommand (command : UInt8) (sql : Bytes)
  | selectDb (db : Text)
  | ping
  | kill (threadId : UInt32)
  | begin
  | commit
  | rollback
  | query (sql : Text) (unbuffered : Bool)
  | nextResult (unbuffered : Bool)
  | readQueryResult (unbuffered : Bool)
  | setResult (result : MySQLResult)
  | resultMut (f : MySQLResult → MySQLResult)
  | getServerInformation
  | requestAuthenticationStart
  | requestAuthenticationSendCredentials
  | requestAuthenticationContinue
  | writePacket (payload : Bytes)
  | feedBytes (data : Bytes)
  | readPacket
  | readOkPacket
  | popSendQueue
  | setSecure (secure : Bool)
  | enableCompression
  | registerConverter (typeCode : UInt8) (converter : Converter)
  | close
  | forceClose

variable [Crypto] [Host]

def Op.run : Op → Proc Error Connection Unit
  | setCharacterSet charset collation    => Connection.setCharacterSet charset collation
  | setAutocommit value                  => Connection.setAutocommit value
  | executeCommand command sql           => Connection.executeCommand command sql
  | selectDb db                          => Connection.selectDb db
  | ping                                 => Connection.ping
  | kill threadId                        => discard (Connection.kill threadId)
  | begin                                => Connection.begin
  | commit                               => Connection.commit
  | rollback                             => Connection.rollback
  | query sql unbuffered                 => discard (Connection.query sql unbuffered)
  | nextResult unbuffered                => discard (Connection.nextResult unbuffered)
  | readQueryResult unbuffered           => discard (Connection.readQueryResult unbuffered)
  | setResult result                     => modify (Connection.setResult result)
  | resultMut f                          => modify (Connection.resultMut f)
  | getServerInformation                 => Connection.getServerInformation
  | requestAuthenticationStart           => discard Connection.requestAuthenticationStart
  | requestAuthenticationSendCredentials => discard Connection.requestAuthenticationSendCredentials
  | requestAuthenticationContinue        => discard Connection.requestAuthenticationContinue
  | writePacket payload                  => Connection.writePacket payload
  | feedBytes data                       => discard (Connection.feedBytes data)
  | readPacket                           => discard Connection.readPacket
  | readOkPacket                         => discard Connection.readOkPacket
  | popSendQueue                         => discard Connection.popSendQueue
  | setSecure secure                     => modify (Connection.setSecure secure)
  | enableCompression                    => modify Connection.enableCompression
  | registerConverter typeCode converter => modify (Connection.registerConverter typeCode converter)
  | close                                => Connection.close
  | forceClose                           => modify Connection.forceClose

def Op.after (c : Connection) (op : Op) : Connection :=
  (op.run c).state

def Op.step (c : Connection) (op : Op) : Option Connection :=
  some (op.after c)

-- The charset by which rows are decoded is that of the options.
def Coherent (c : Connection) : Prop :=
  (Charset.byName c.options.charset).map (·.encoding) = some c.encoding

def Op.Fails (c : Connection) (op : Op) : Prop :=
  ∀ c', op.run c ≠ .ok () c'

-- What a setter sets is as it was.
def Op.Unset (c c' : Connection) : Op → Prop
  | setCharacterSet _ _ =>
    c'.encoding = c.encoding ∧ c'.options.charset = c.options.charset ∧ c'.options.collation = c.options.collation
  | setAutocommit _ => c'.options.autocommit = c.options.autocommit
  | _ => True

def Op.Atomic (c : Connection) (op : Op) : Prop :=
  op.Fails c → op.Unset c (op.after c)

def Op.Kept (c : Connection) (op : Op) : Prop :=
  op.Atomic c ∧ (op.after c).Coherent

def validCollation (collation : Text) : Bool :=
  collation.all fun ch => ch.isAlphanum || ch = '_'

def setNames (charset : Text) (collation : Option Text) : Text :=
  match collation with
  | some c => "SET NAMES ".toList ++ charset ++ " COLLATE ".toList ++ c
  | none   => "SET NAMES ".toList ++ charset

-- Nothing changes, or the command can be sent.
def Op.Safe (c : Connection) : Op → Prop
  | setCharacterSet charset collation =>
    ∀ info ∈ Charset.byName charset, info.encoding = c.encoding ∨
      (∀ name ∈ collation, validCollation name = true) ∧
        Accepts { c with encoding := info.encoding } COM_QUERY (setNames charset collation).asBytes
  | setAutocommit value =>
    c.options.autocommit = some value ∨ c.getAutocommit = value ∨
      Accepts c COM_QUERY (Text.asBytes (if value then "SET AUTOCOMMIT = 1" else "SET AUTOCOMMIT = 0").toList)
  | _ => True

variable {c c' : Connection} {op : Op}

omit [Libraries] [Crypto] [Host] in
theorem Coherent.of_chosen (h : c.Coherent) (hc : c'.chosen = c.chosen) : c'.Coherent := by
  obtain ⟨he, ho⟩ := Prod.mk.inj hc
  rw [Coherent, he, ho]
  exact h

omit [Libraries] [Crypto] [Host] in
theorem connect_coherent {options : ConnectOptions} (h : connect options = .ok c) : c.Coherent := by
  rw [connect, checkOptions] at h
  split_ifs at h
  case neg =>
    cases hb : Charset.byName options.charset
    case none      => rw [hb] at h; cases h
    case some info =>
      rw [hb] at h
      obtain rfl := Except.ok.inj h
      exact congrArg (Option.map Charset.encoding) hb
  all_goals cases h

-- An operation that is no setter.
theorem Op.Kept.of_leaves (h : op.run.Leaves chosen) (hu : ∀ c', op.Unset c c') (hc : c.Coherent) : op.Kept c :=
  ⟨fun _ => hu _, hc.of_chosen (h c)⟩

section SetCharacterSet

variable {charset : Text} {collation : Option Text} {info : Charset}

omit [Crypto] [Host]

theorem setCharacterSet_none (h : Charset.byName charset = none) :
    setCharacterSet charset collation c = .error (unknownCharset charset) c := by
  simp only [setCharacterSet, h, Proc.throw_apply]

-- The charset for decoding has been replaced already.
theorem setCharacterSet_invalid (h : Charset.byName charset = some info)
    (hv : ¬∀ name ∈ collation, validCollation name = true) :
    ∃ e, setCharacterSet charset collation c = .error e { c with encoding := info.encoding } := by
  cases collation
  case none      => exact absurd nofun hv
  case some name =>
    have hn : (name.all fun ch => ch.isAlphanum || ch = '_') = false :=
      Bool.eq_false_iff.mpr fun h => hv fun _ hn => Option.some.inj hn ▸ h
    refine ⟨.programmingError ClientError.CR_CANT_READ_CHARSET s!"Invalid collation: {String.ofList name}", ?_⟩
    simp only [setCharacterSet, h, hn, Proc.bind_apply, Proc.modify_apply, Outcome.bind_ok]
    rfl

theorem setCharacterSet_valid (h : Charset.byName charset = some info)
    (hv : ∀ name ∈ collation, validCollation name = true) :
    setCharacterSet charset collation c =
      (executeCommand COM_QUERY (setNames charset collation).asBytes { c with encoding := info.encoding }).bind
        fun _ c => .ok () { c with options := { c.options with charset := charset, collation := collation } } := by
  cases collation
  case none =>
    simp only [setCharacterSet, h, Proc.bind_apply, Proc.modify_apply, Outcome.bind_ok]
    rfl
  case some name =>
    have hn : (name.all fun ch => ch.isAlphanum || ch = '_') = true := hv name rfl
    simp only [setCharacterSet, h, hn, Proc.bind_apply, Proc.modify_apply, Outcome.bind_ok]
    rfl

end SetCharacterSet

-- A refused change of the charset is harmless where rows are decoded as before.
theorem kept_of_refused {charset : Text} {collation : Option Text} {encoding : Text} (hc : c.Coherent)
    (hf : Op.Fails c (.setCharacterSet charset collation))
    (ha : (Op.after c (.setCharacterSet charset collation)).chosen = (encoding, c.options)) :
    Op.Kept c (.setCharacterSet charset collation) ↔ encoding = c.encoding := by
  obtain ⟨he, ho⟩ := Prod.mk.inj ha
  constructor
  · rintro ⟨hk, _⟩
    exact he.symm.trans (hk hf).left
  · rintro rfl
    exact ⟨fun _ => ⟨he, congrArg (·.charset) ho, congrArg (·.collation) ho⟩, hc.of_chosen ha⟩

theorem setCharacterSet_kept (charset : Text) (collation : Option Text) (hc : c.Coherent) :
    Op.Kept c (.setCharacterSet charset collation) ↔ Op.Safe c (.setCharacterSet charset collation) := by
  cases hb : Charset.byName charset
  case none =>
    have after : Op.after c (.setCharacterSet charset collation) = c :=
      congrArg Outcome.state (setCharacterSet_none hb)
    refine iff_of_true ⟨fun _ => ?_, ?_⟩ ?_
    · rw [after]
      exact ⟨rfl, rfl, rfl⟩
    · rw [after]
      exact hc
    · intro info hi
      cases hb.symm.trans hi
  case some info =>
    let c₁ : Connection := { c with encoding := info.encoding }
    have safe : Op.Safe c (.setCharacterSet charset collation) ↔ info.encoding = c.encoding ∨
        (∀ name ∈ collation, validCollation name = true) ∧ c₁.Accepts COM_QUERY (setNames charset collation).asBytes :=
      ⟨fun h => h info hb, fun h _ hi => Option.some.inj (hb.symm.trans hi) ▸ h⟩
    rw [safe]
    by_cases hv : ∀ name ∈ collation, validCollation name = true
    case neg =>
      obtain ⟨e, he⟩ := setCharacterSet_invalid (c := c) hb hv
      have hf : Op.Fails c (.setCharacterSet charset collation) := fun c' h => by cases he.symm.trans h
      have left : (Op.after c (.setCharacterSet charset collation)).chosen = c₁.chosen :=
        congrArg (fun o => o.state.chosen) he
      rw [kept_of_refused hc hf left, or_iff_left fun h => hv h.left]
    case pos =>
      have run := setCharacterSet_valid (c := c) hb hv
      have left := executeCommand_chosen COM_QUERY (setNames charset collation).asBytes c₁
      by_cases ha : c₁.Accepts COM_QUERY (setNames charset collation).asBytes
      case pos =>
        obtain ⟨c₂, h₂⟩ := executeCommand_iff.mpr ha
        rw [h₂, Outcome.bind_ok] at run
        rw [h₂] at left
        have hk : Op.Kept c (.setCharacterSet charset collation) := by
          refine ⟨fun hf => absurd run (hf _), ?_⟩
          rw [Op.after, Op.run, run]
          have he : c₂.encoding = info.encoding := congrArg Prod.fst left
          rw [Coherent, Outcome.state, he, hb, Option.map_some]
        exact iff_of_true hk (.inr ⟨hv, ha⟩)
      case neg =>
        have hn (c₂) : executeCommand COM_QUERY (setNames charset collation).asBytes c₁ ≠ .ok () c₂ :=
          fun h => ha (executeCommand_iff.mp ⟨c₂, h⟩)
        have hf : Op.Fails c (.setCharacterSet charset collation) := by
          intro c' h
          obtain ⟨_, c₂, h₂, _⟩ := Outcome.bind_eq_ok.mp (run.symm.trans h)
          exact hn c₂ h₂
        have left : (Op.after c (.setCharacterSet charset collation)).chosen = c₁.chosen := by
          rw [Op.after, Op.run, run]
          cases hx : executeCommand COM_QUERY (setNames charset collation).asBytes c₁
          case ok _ c₂ => exact absurd hx (hn c₂)
          all_goals
            rw [hx] at left
            exact left
        rw [kept_of_refused hc hf left, or_iff_left fun h => ha h.right]

omit [Crypto] [Host] in
theorem setAutocommit_eq (value : Bool) (c : Connection) :
    setAutocommit value c =
      (if value ≠ c.getAutocommit then
        executeCommand COM_QUERY (Text.asBytes (if value then "SET AUTOCOMMIT = 1" else "SET AUTOCOMMIT = 0").toList)
      else pure ()) { c with options := { c.options with autocommit := some value } } :=
  rfl

theorem setAutocommit_kept (value : Bool) (hc : c.Coherent) :
    Op.Kept c (.setAutocommit value) ↔ Op.Safe c (.setAutocommit value) := by
  let c₁ : Connection := { c with options := { c.options with autocommit := some value } }
  by_cases hv : value = c.getAutocommit
  case pos =>
    have run : setAutocommit value c = .ok () c₁ := by
      rw [setAutocommit_eq, if_neg (not_not.mpr hv)]
      rfl
    refine iff_of_true ⟨fun hf => absurd run (hf _), ?_⟩ (.inr (.inl hv.symm))
    rw [Op.after, Op.run, run]
    exact hc
  case neg =>
    let sql : Text := (if value then "SET AUTOCOMMIT = 1" else "SET AUTOCOMMIT = 0").toList
    have run : setAutocommit value c = executeCommand COM_QUERY sql.asBytes c₁ := by
      rw [setAutocommit_eq, if_pos hv]
    have left : (Op.after c (.setAutocommit value)).chosen = c₁.chosen := by
      rw [Op.after, Op.run, run]
      exact executeCommand_chosen _ _ c₁
    have accepts : c₁.Accepts COM_QUERY sql.asBytes ↔ c.Accepts COM_QUERY sql.asBytes :=
      ⟨fun h => ⟨h.open_, h.drainable, h.writable⟩, fun h => ⟨h.open_, h.drainable, h.writable⟩⟩
    obtain ⟨he, ho⟩ := Prod.mk.inj left
    have coherent : (Op.after c (.setAutocommit value)).Coherent := Coherent.of_chosen (c := c₁) hc left
    constructor
    · rintro ⟨hk, _⟩
      by_cases ha : c₁.Accepts COM_QUERY sql.asBytes
      case pos => exact .inr (.inr (accepts.mp ha))
      case neg =>
        have hf : Op.Fails c (.setAutocommit value) := fun c' h => ha (executeCommand_iff.mp ⟨c', run.symm.trans h⟩)
        exact .inl ((hk hf).symm.trans (congrArg (·.autocommit) ho))
    · intro hs
      refine ⟨fun hf => ?_, coherent⟩
      obtain hs | hs | hs := hs
      · exact (congrArg (·.autocommit) ho).trans hs.symm
      · exact absurd hs.symm hv
      · obtain ⟨c', h⟩ := executeCommand_iff.mpr (accepts.mpr hs)
        exact absurd (run.trans h) (hf c')

theorem Op.kept_iff (op : Op) (hc : c.Coherent) : op.Kept c ↔ op.Safe c := by
  have other (h : op.run.Leaves chosen) (hu : ∀ c', op.Unset c c') (hs : op.Safe c) : op.Kept c ↔ op.Safe c :=
    iff_of_true (.of_leaves h hu hc) hs
  cases op
  case setCharacterSet charset collation => exact setCharacterSet_kept charset collation hc
  case setAutocommit value => exact setAutocommit_kept value hc
  case executeCommand | selectDb | ping | begin | commit | rollback =>
    exact other (executeCommand_chosen _ _) (fun _ => trivial) trivial
  case kill | query => exact other (.discard (query_chosen _ _)) (fun _ => trivial) trivial
  case nextResult => exact other (.discard (steady_chosen.nextResult _)) (fun _ => trivial) trivial
  case readQueryResult => exact other (.discard (steady_chosen.readQueryResult _)) (fun _ => trivial) trivial
  case getServerInformation =>
    exact other (detached_chosen.getServerInformation (onStream_chosen _)) (fun _ => trivial) trivial
  case requestAuthenticationStart =>
    exact other (.discard requestAuthenticationStart_chosen) (fun _ => trivial) trivial
  case requestAuthenticationSendCredentials =>
    exact other (.discard detached_chosen.requestAuthenticationSendCredentials) (fun _ => trivial) trivial
  case requestAuthenticationContinue =>
    exact other (.discard detached_chosen.requestAuthenticationContinue) (fun _ => trivial) trivial
  case feedBytes | readPacket => exact other (.discard (onStream_chosen _)) (fun _ => trivial) trivial
  case writePacket => exact other (onStream_chosen _) (fun _ => trivial) trivial
  case readOkPacket => exact other (.discard readOkPacket_chosen) (fun _ => trivial) trivial
  case popSendQueue =>
    exact other (.discard (.bind .get fun _ => .bind (.modify fun _ => rfl) fun _ => .pure _)) (fun _ => trivial) trivial
  case close => exact other close_chosen (fun _ => trivial) trivial
  case setResult | resultMut | setSecure | enableCompression | registerConverter | forceClose =>
    exact other (.modify fun _ => rfl) (fun _ => trivial) trivial

-- The settings of a connection stay coherent, and the setters are atomic, as long as no setter changes
-- something without being able to send its command.
theorem settings_atomic {options : ConnectOptions} (h : connect options = .ok c) (ops : List Op) :
    c.Coherent ∧ (Along Op.step Op.Kept c ops ↔ Along Op.step Op.Safe c ops) := by
  refine ⟨connect_coherent h, Along.congr (I := Coherent) ?_ (fun c op hc => op.kept_iff hc) (connect_coherent h)⟩
  intro c op c' _ hk hs
  obtain rfl := Option.some.inj hs
  exact hk.right

end Runs
end Operations

section Examples

attribute [local instance] Libraries.utf8Only Crypto.transparent Host.initProcess

def unconnected : Connection :=
  fresh {} ⟨45, "utf8mb4", true⟩

theorem connect_default : connect {} = .ok unconnected :=
  rfl

theorem settings_atomic_default :
    unconnected.Coherent ∧
      (Along Op.step Op.Kept unconnected [.setAutocommit true, .close, .setAutocommit false] ↔
        Along Op.step Op.Safe unconnected [.setAutocommit true, .close, .setAutocommit false]) :=
  settings_atomic connect_default _

def latin1 : Op :=
  .setCharacterSet "latin1".toList (some "x y".toList)

-- The collation is refused, and rows are decoded by the new charset from then on. On a closed connection,
-- the options say that autocommit is on.
theorem setters_not_atomic :
    connect {} = .ok unconnected ∧ ¬Along Op.step Op.Kept unconnected [latin1] ∧
      latin1.Fails unconnected ∧ (latin1.after unconnected).encoding = "cp1252".toList ∧
      (latin1.after unconnected).options.charset = "utf8mb4".toList ∧
      ¬Along Op.step Op.Kept unconnected [.forceClose, .setAutocommit true] ∧
      Op.Fails unconnected.forceClose (.setAutocommit true) ∧
      (Op.after unconnected.forceClose (.setAutocommit true)).options.autocommit = some true := by
  have hb : Charset.byName "latin1".toList = some ⟨8, "latin1", true⟩ := rfl
  have invalid : ¬∀ name ∈ some "x y".toList, validCollation name = true := by decide
  obtain ⟨e, run⟩ := setCharacterSet_invalid (c := unconnected) hb invalid
  have closed : setAutocommit true unconnected.forceClose = .error _ _ := rfl
  have hf : latin1.Fails unconnected := fun c' h => by cases run.symm.trans h
  have hf' : Op.Fails unconnected.forceClose (.setAutocommit true) := fun c' h => by cases closed.symm.trans h
  have after : latin1.after unconnected = { unconnected with encoding := "cp1252".toList } :=
    congrArg Outcome.state run
  refine ⟨connect_default, ?_, hf, ?_, ?_, ?_, hf', rfl⟩
  · rintro ⟨⟨h, _⟩, _⟩
    have he := (h hf).left
    rw [after] at he
    exact absurd he (by decide)
  · rw [after]
  · rw [after]
    rfl
  · rintro ⟨_, h⟩
    obtain ⟨⟨h, _⟩, _⟩ := h _ rfl
    have ha : some true = some false := h hf'
    cases ha

end Examples
end MySQL.Connection
