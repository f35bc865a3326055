import MysqlRs.Core.Constants

namespace MySQL

inductive Error
  | warning (message : String)
  | error (message : String)
  | interfaceError (code : UInt16) (message : String)
  | databaseError (code : UInt16) (message : String)
  | dataError (code : UInt16) (message : String)
  | operationalError (code : UInt16) (message : String)
  | integrityError (code : UInt16) (message : String)
  | internalError (code : UInt16) (message : String)
  | programmingError (code : UInt16) (message : String)
  | notSupportedError (code : UInt16) (message : String)
  | needMoreData
  deriving DecidableEq

namespace Error

open ServerError

inductive ErrorClass
  | programming
  | data
  | integrity
  | notSupported
  | operational
  | internal

def programmingErrors : List UInt16 :=
  [DB_CREATE_EXISTS, SYNTAX_ERROR, PARSE_ERROR, NO_SUCH_TABLE, WRONG_DB_NAME, WRONG_TABLE_NAME,
    FIELD_SPECIFIED_TWICE, INVALID_GROUP_FUNC_USE, UNSUPPORTED_EXTENSION, TABLE_MUST_HAVE_COLUMNS,
    CANT_DO_THIS_DURING_AN_TRANSACTION, WRONG_COLUMN_NAME]

def dataErrors : List UInt16 :=
  [WARN_DATA_TRUNCATED, WARN_NULL_TO_NOTNULL, WARN_DATA_OUT_OF_RANGE, NO_DEFAULT,
    PRIMARY_CANT_HAVE_NULL, DATA_TOO_LONG, DATETIME_FUNCTION_OVERFLOW,
    TRUNCATED_WRONG_VALUE_FOR_FIELD, ILLEGAL_VALUE_FOR_TYPE]

def integrityErrors : List UInt16 :=
  [DUP_ENTRY, NO_REFERENCED_ROW, NO_REFERENCED_ROW_2, ROW_IS_REFERENCED, ROW_IS_REFERENCED_2,
    CANNOT_ADD_FOREIGN, BAD_NULL_ERROR]

def notSupportedErrors : List UInt16 :=
  [WARNING_NOT_COMPLETE_ROLLBACK, NOT_SUPPORTED_YET, FEATURE_DISABLED, UNKNOWN_STORAGE_ENGINE]

def operationalErrors : List UInt16 :=
  [DBACCESS_DENIED_ERROR, ACCESS_DENIED_ERROR, CON_COUNT_ERROR, TABLEACCESS_DENIED_ERROR,
    COLUMNACCESS_DENIED_ERROR, CONSTRAINT_FAILED, LOCK_DEADLOCK]

def errorMap (errno : UInt16) : ErrorClass :=
  if errno ∈ programmingErrors then .programming
  else if errno ∈ dataErrors then .data
  else if errno ∈ integrityErrors then .integrity
  else if errno ∈ notSupportedErrors then .notSupported
  else if errno ∈ operationalErrors then .operational
  else if errno < 1000 then .internal
  else .operational

def raiseMysqlException (data : Bytes) : Error :=
  match data with
  | _ :: b₁ :: b₂ :: rest =>
    let errno := UInt16.ofNat (LittleEndian.decode [b₁, b₂])
    -- A `#` after the error number announces a five-byte SQLSTATE.
    let errval := String.ofList <| Text.fromUtf8Lossy <|
      match rest with
      | 0x23 :: _ => rest.drop 6
      | _         => rest
    match errorMap errno with
    | .programming  => .programmingError errno errval
    | .data         => .dataError errno errval
    | .integrity    => .integrityError errno errval
    | .notSupported => .notSupportedError errno errval
    | .operational  => .operationalError errno errval
    | .internal     => .internalError errno errval
  | _ => .internalError ClientError.CR_MALFORMED_PACKET "Malformed error packet: too short"

-- The server's errors are never mistaken for a request for more data.
theorem raiseMysqlException_ne_needMoreData (data : Bytes) :
    raiseMysqlException data ≠ .needMoreData := by
  unfold raiseMysqlException
  split
  · dsimp only; split <;> simp
  · simp

end Error
end MySQL
