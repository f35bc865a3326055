import MysqlRs.Runtime.Packet

namespace MySQL
namespace Runtime

open Checked

-- The error of the class that the error number belongs to.
def errorOf (errno : UInt16) (errval : Bytes) : Error :=
  let errval := String.ofList (Text.fromUtf8Lossy errval)
  match Error.errorMap errno with
  | .programming  => .programmingError errno errval
  | .data         => .dataError errno errval
  | .integrity    => .integrityError errno errval
  | .notSupported => .notSupportedError errno errval
  | .operational  => .operationalError errno errval
  | .internal     => .internalError errno errval

def raiseMysqlException (data : Bytes) : Checked Error := do
  if data.length < 3 then
    return .internalError ClientError.CR_MALFORMED_PACKET "Malformed error packet: too short"
  let errno := UInt16.ofNat (LittleEndian.decode [← index data 1, ← index data 2])
  return errorOf errno (if data[3]? = some 0x23 then data.drop 9 else data.drop 3)

def raiseForError (packet : MysqlPacket) : Checked Error :=
  raiseMysqlException packet.data

def checkError (packet : MysqlPacket) : Checked (Except Error Unit) := do
  if packet.isErrorPacket then return .error (← raiseForError packet) else return .ok ()

theorem sqlstate_eq (rest : List UInt8) : (match rest with | 0x23 :: _ => rest.drop 6 | _ => rest) =
    if rest[0]? = some 0x23 then rest.drop 6 else rest := by
  split
  case h_1     => rfl
  case h_2 hne =>
    rw [if_neg]
    intro h
    obtain _ | ⟨b, tail⟩ := rest
    · exact nomatch h
    · exact hne tail (congrArg (· :: tail) (Option.some.inj h))

theorem raiseMysqlException_eq : (data : Bytes) →
    raiseMysqlException data = .ok (Error.raiseMysqlException data)
  | [] | [_] | [_, _]       => rfl
  | _ :: b₁ :: b₂ :: rest =>
    congrArg (fun errval => Except.ok (errorOf (UInt16.ofNat (LittleEndian.decode [b₁, b₂])) errval))
      (sqlstate_eq rest).symm

theorem raiseForError_eq (packet : MysqlPacket) : raiseForError packet = .ok packet.raiseForError :=
  raiseMysqlException_eq packet.data

theorem checkError_eq (packet : MysqlPacket) : checkError packet = .ok packet.checkError := by
  rw [checkError, MysqlPacket.checkError, raiseForError_eq]
  split_ifs <;> rfl

end Runtime
end MySQL
