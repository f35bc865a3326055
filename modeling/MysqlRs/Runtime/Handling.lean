import MysqlRs.Auth.Opening
import MysqlRs.Runtime.Auth
import MysqlRs.Runtime.Converters

namespace MySQL

-- A client that reads a result over a connection.
structure Caller where
  connection : Connection
  result : MySQLResult

-- What has been received is dealt with by these functions. The packets are arbitrary.
inductive Intake
  | feedBytes (data : Bytes)
  | getServerInformation
  | requestAuthenticationContinue
  | okPacket (packet : MysqlPacket)
  | eofPacket (packet : MysqlPacket)
  | loadLocalPacket (packet : MysqlPacket)
  | fieldDescriptorPacket (data : Bytes) (encoding : Text)
  | raiseMysqlException (data : Bytes)
  | feedPacket (packet : MysqlPacket)
  | readRowdataPacketUnbuffered (packet : MysqlPacket)
  | decode (fieldType : UInt8) (s : Text)

inductive Intake.Reply
  | unit
  | added (packets : Nat)
  | auth (state : AuthState)
  | ok (packet : OkPacketWrapper)
  | eof (packet : EofPacketWrapper)
  | loadLocal (packet : LoadLocalPacketWrapper)
  | field (packet : FieldDescriptorPacket)
  | error (e : Error)
  | fed (result : FeedResult)
  | row (row : Option Row)
  | decoded (value : Option Value)

-- What is handed over to a call is in memory.
def Intake.Fits : Intake → Prop
  | fieldDescriptorPacket data _ => data.length ≤ isizeMax
  | okPacket packet | eofPacket packet | loadLocalPacket packet | feedPacket packet
  | readRowdataPacketUnbuffered packet => packet.Fits
  | _ => True

namespace Caller

def setConnection (c : Caller) (connection : Connection) : Caller :=
  { c with connection := connection }

def setResult (c : Caller) (result : MySQLResult) : Caller :=
  { c with result := result }

structure Fits (c : Caller) : Prop where
  connection : c.connection.Fits

variable {α : Type}

def onConnection (x : Proc Error Connection α) : Proc Error Caller α :=
  x.zoom connection fun connection c => c.setConnection connection

def onResult (x : Connection → Proc Error MySQLResult α) : Proc Error Caller α := do
  let c ← get
  (x c.connection).zoom result fun result c => c.setResult result

variable [Libraries] [Crypto] [Host]

def handle : Intake → Proc Error Caller Intake.Reply
  | .feedBytes data                      => do return .added (← onConnection (Connection.feedBytes data))
  | .getServerInformation                => do
    onConnection Connection.getServerInformation
    return .unit
  | .requestAuthenticationContinue       => do
    return .auth (← onConnection Connection.requestAuthenticationContinue)
  | .okPacket packet                     => do return .ok (← packet.run OkPacketWrapper.fromPacket)
  | .eofPacket packet                    => do return .eof (← packet.run EofPacketWrapper.fromPacket)
  | .loadLocalPacket packet              => do
    return .loadLocal (← Proc.ofExcept (LoadLocalPacketWrapper.fromPacket packet))
  | .fieldDescriptorPacket data encoding => do
    return .field (← Proc.ofExcept (FieldDescriptorPacket.parse data encoding))
  | .raiseMysqlException data            => return .error (Error.raiseMysqlException data)
  | .feedPacket packet                   => do return .fed (← onResult (MySQLResult.feedPacket packet))
  | .readRowdataPacketUnbuffered packet  => do
    return .row (← onResult fun _ => MySQLResult.readRowdataPacketUnbuffered packet)
  | .decode fieldType s                  => return .decoded ((decoderFor fieldType).map (· s))

-- The calls are made one after the other, whether they succeed or not.
inductive Handles : List Intake → Caller → List (Except Error Intake.Reply) → Caller → Prop
  | nil {c} : Handles [] c [] c
  | ok {i is c c₁ c₂ reply replies} :
    handle i c = .ok reply c₁ → Handles is c₁ replies c₂ → Handles (i :: is) c (.ok reply :: replies) c₂
  | error {i is c c₁ c₂ e replies} :
    handle i c = .error e c₁ → Handles is c₁ replies c₂ → Handles (i :: is) c (.error e :: replies) c₂

end Caller

namespace Runtime

open Checked Raw

abbrev CallerRaw := Raw Error Caller

section Calls

variable {α : Type}

def onConnection (x : ConnRaw α) : CallerRaw α :=
  x.zoom Caller.connection fun connection c => c.setConnection connection

def onResult (x : Connection → ResultRaw α) : CallerRaw α := do
  let c ← get
  (x c.connection).zoom Caller.result fun result c => c.setResult result

theorem onConnection_sound {r : α → α → Prop} {x : ConnRaw α} {y : Proc Error Connection α}
    (h : Sound Connection.Fits r x y) : Sound Caller.Fits r (onConnection x) (Caller.onConnection y) :=
  .zoom h (fun _ hc => hc.connection) fun _ _ _ h => ⟨h⟩

theorem onResult_sound {r : α → α → Prop} {x : Connection → ResultRaw α} {y : Connection → Proc Error MySQLResult α}
    (h : ∀ connection, Sound (fun _ => True) r (x connection) (y connection)) :
    Sound Caller.Fits r (onResult x) (Caller.onResult y) := by
  refine .bind .get fun c _ hc => ?_
  obtain ⟨rfl, -⟩ := hc
  exact .zoom (h c.connection) (fun _ _ => trivial) fun _ _ hc _ => ⟨hc.connection⟩

-- The result is put into the reply.
theorem reply_sound {reply : α → Intake.Reply} {x : CallerRaw α} {y : Proc Error Caller α}
    (h : Sound Caller.Fits (fun a b => a = b) x y) :
    Sound Caller.Fits (fun a b => a = b) (do return reply (← x)) (do return reply (← y)) := by
  refine .bind h fun a _ h => ?_
  obtain rfl := h
  exact .pure rfl

end Calls

section Handling

variable [Libraries] [Crypto] [Host]

def decode (fieldType : UInt8) (s : Text) : Checked (Option Value) :=
  match decoderFor fieldType with
  | none         => return none
  | some convert => do return some (← convert s)

def handle (turns : Nat) : Intake → CallerRaw Intake.Reply
  | .feedBytes data                      => do return .added (← onConnection (onStream (feedBytes turns data)))
  | .getServerInformation                => do
    onConnection getServerInformation
    return .unit
  | .requestAuthenticationContinue       => do
    return .auth (← onConnection (requestAuthenticationContinue turns))
  | .okPacket packet                     => do return .ok (← onLocal packet OkPacketWrapper.fromPacket)
  | .eofPacket packet                    => do return .eof (← onLocal packet EofPacketWrapper.fromPacket)
  | .loadLocalPacket packet              => do
    return .loadLocal (← (← LoadLocalPacketWrapper.fromPacket packet : Except Error LoadLocalPacketWrapper))
  | .fieldDescriptorPacket data encoding => do
    return .field (← (← FieldDescriptorPacket.parse data encoding : Except Error FieldDescriptorPacket))
  | .raiseMysqlException data            => do return .error (← raiseMysqlException data)
  | .feedPacket packet                   => do return .fed (← onResult (feedPacket packet))
  | .readRowdataPacketUnbuffered packet  => do
    return .row (← onResult fun _ => readRowdataPacketUnbuffered packet)
  | .decode fieldType s                  => do return .decoded (← decode fieldType s)

def handleAll (turns : Nat) : List Intake → Caller → Checked (List (Except Error Intake.Reply) × Caller)
  | [],      c => return ([], c)
  | i :: is, c => do
    let (reply, c) ← handle turns i c
    let (replies, c) ← handleAll turns is c
    return (reply :: replies, c)

section Runs

variable {i : Intake} {is : List Intake} {c : Caller} {turns : Nat}

omit [Crypto] [Host] in
theorem decode_eq (fieldType : UInt8) (s : Text) :
    decode fieldType s = .ok ((MySQL.decoderFor fieldType).map (· s)) := by
  rw [decode, decoderFor_eq]
  cases MySQL.decoderFor fieldType <;> rfl

theorem handle_sound (ht : isizeMax < turns) (hi : i.Fits) :
    Sound Caller.Fits (fun a b => a = b) (handle turns i) (Caller.handle i) := by
  cases i
  case feedBytes data => exact reply_sound (onConnection_sound (onStream_sound (feedBytes_sound ht data)))
  case getServerInformation =>
    exact .bind (onConnection_sound getServerInformation_sound) fun _ _ _ => .pure rfl
  case requestAuthenticationContinue =>
    exact reply_sound (onConnection_sound (requestAuthenticationContinue_sound ht))
  case okPacket packet =>
    exact reply_sound ((okFromPacket_reads.sound hi).mono fun _ _ h => h.left)
  case eofPacket packet =>
    exact reply_sound ((eofFromPacket_reads.sound hi).mono fun _ _ h => h.left)
  case loadLocalPacket packet => exact .step (loadLocalFromPacket_eq packet) (reply_sound (.ofExcept _))
  case fieldDescriptorPacket data encoding =>
    exact .step (FieldDescriptorPacket.parse_eq data hi encoding) (reply_sound (.ofExcept _))
  case raiseMysqlException data => exact .step (raiseMysqlException_eq data) (.pure rfl)
  case feedPacket packet => exact reply_sound (onResult_sound fun connection => feedPacket_sound hi connection)
  case readRowdataPacketUnbuffered packet =>
    exact reply_sound (onResult_sound fun _ => readRowdataPacketUnbuffered_sound hi)
  case decode fieldType s => exact .step (decode_eq fieldType s) (.pure rfl)

-- Whatever is received, and however it is cut into pieces, every call comes back with a result or an error,
-- the one that the calls without checks give, unless the memory does not suffice.
theorem handleAll_returns (ht : isizeMax < turns) (hi : ∀ i ∈ is, i.Fits) (hc : c.Fits) :
    (handleAll turns is c).Returns fun r => Caller.Handles is c r.1 r.2 := by
  induction is generalizing c
  case nil          => exact .nil
  case cons i is ih =>
    have ⟨hi, his⟩ := List.forall_mem_cons.mp hi
    refine .bind (handle_sound ht hi c hc) fun r hr => ?_
    cases h : Caller.handle i c
    all_goals
      rw [h] at hr
      cases hr
    case ok reply c' ha hc' =>
      obtain rfl := ha
      exact .bind (ih his hc') fun _ hs => .ok h hs
    case error e c' hc' => exact .bind (ih his hc') fun _ hs => .error h hs

end Runs

end Handling

section Examples

def unread : Caller where
  connection := .fresh {} ⟨45, "utf8mb4", true⟩
  result     := {}

-- A greeting that ends too early, in two pieces, and what it does not lead to.
def malformed : List Intake :=
  [.feedBytes [3, 0, 0], .feedBytes [0, 10, 53, 0], .getServerInformation, .requestAuthenticationContinue,
    .feedPacket (.new [1]), .feedPacket (.new [252]), .raiseMysqlException [255],
    .decode FieldType.TIME "-::.".toList]

theorem unread_fits : unread.Fits :=
  ⟨⟨⟨Nat.zero_le _, Nat.zero_le _, fun _ h => nomatch h⟩⟩⟩

theorem new_fits {data : Bytes} (h : data.length ≤ isizeMax) : (MysqlPacket.new data).Fits :=
  ⟨Nat.zero_le _, h⟩

theorem handleAll_malformed :
    let := Libraries.utf8Only
    let := Crypto.transparent
    let := Host.initProcess
    (handleAll (isizeMax + 1) malformed unread).Returns fun r => Caller.Handles malformed unread r.1 r.2 := by
  let := Libraries.utf8Only
  let := Crypto.transparent
  let := Host.initProcess
  refine handleAll_returns (Nat.lt_succ_self _) ?_ unread_fits
  simp only [malformed, List.forall_mem_cons]
  refine ⟨trivial, trivial, trivial, trivial, new_fits ?_, new_fits ?_, trivial, trivial, nofun⟩
  all_goals decide

end Examples

end Runtime
end MySQL
