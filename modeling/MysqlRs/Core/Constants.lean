import MysqlRs.Core.Text

namespace MySQL

namespace ClientError

def CR_UNKNOWN_ERROR : UInt16 := 2000
def CR_CONN_HOST_ERROR : UInt16 := 2003
def CR_SERVER_GONE_ERROR : UInt16 := 2006
def CR_SERVER_HANDSHAKE_ERR : UInt16 := 2012
def CR_SERVER_LOST : UInt16 := 2013
def CR_COMMANDS_OUT_OF_SYNC : UInt16 := 2014
def CR_CANT_READ_CHARSET : UInt16 := 2019
def CR_NET_PACKET_TOO_LARGE : UInt16 := 2020
def CR_SSL_CONNECTION_ERROR : UInt16 := 2026
def CR_MALFORMED_PACKET : UInt16 := 2027
def CR_NULL_POINTER : UInt16 := 2029
def CR_INVALID_PARAMETER_NO : UInt16 := 2034
def CR_NO_RESULT_SET : UInt16 := 2053
def CR_AUTH_PLUGIN_CANNOT_LOAD : UInt16 := 2059
def CR_AUTH_PLUGIN_ERR : UInt16 := 2061
def CR_LOAD_DATA_LOCAL_INFILE_REJECTED : UInt16 := 2068

end ClientError

namespace ServerError

def CON_COUNT_ERROR : UInt16 := 1040
def DBACCESS_DENIED_ERROR : UInt16 := 1044
def ACCESS_DENIED_ERROR : UInt16 := 1045
def BAD_NULL_ERROR : UInt16 := 1048
def DB_CREATE_EXISTS : UInt16 := 1007
def DUP_ENTRY : UInt16 := 1062
def PARSE_ERROR : UInt16 := 1064
def WRONG_DB_NAME : UInt16 := 1102
def WRONG_TABLE_NAME : UInt16 := 1103
def FIELD_SPECIFIED_TWICE : UInt16 := 1110
def INVALID_GROUP_FUNC_USE : UInt16 := 1111
def UNSUPPORTED_EXTENSION : UInt16 := 1112
def TABLE_MUST_HAVE_COLUMNS : UInt16 := 1113
def TABLEACCESS_DENIED_ERROR : UInt16 := 1142
def COLUMNACCESS_DENIED_ERROR : UInt16 := 1143
def NO_SUCH_TABLE : UInt16 := 1146
def SYNTAX_ERROR : UInt16 := 1149
def WRONG_COLUMN_NAME : UInt16 := 1166
def PRIMARY_CANT_HAVE_NULL : UInt16 := 1171
def CANT_DO_THIS_DURING_AN_TRANSACTION : UInt16 := 1179
def WARNING_NOT_COMPLETE_ROLLBACK : UInt16 := 1196
def LOCK_DEADLOCK : UInt16 := 1213
def CANNOT_ADD_FOREIGN : UInt16 := 1215
def NO_REFERENCED_ROW : UInt16 := 1216
def ROW_IS_REFERENCED : UInt16 := 1217
def NO_DEFAULT : UInt16 := 1230
def NOT_SUPPORTED_YET : UInt16 := 1235
def WARN_NULL_TO_NOTNULL : UInt16 := 1263
def WARN_DATA_OUT_OF_RANGE : UInt16 := 1264
def WARN_DATA_TRUNCATED : UInt16 := 1265
def UNKNOWN_STORAGE_ENGINE : UInt16 := 1286
def FEATURE_DISABLED : UInt16 := 1289
def TRUNCATED_WRONG_VALUE_FOR_FIELD : UInt16 := 1366
def ILLEGAL_VALUE_FOR_TYPE : UInt16 := 1367
def DATA_TOO_LONG : UInt16 := 1406
def DATETIME_FUNCTION_OVERFLOW : UInt16 := 1441
def ROW_IS_REFERENCED_2 : UInt16 := 1451
def NO_REFERENCED_ROW_2 : UInt16 := 1452
def CONSTRAINT_FAILED : UInt16 := 4025

end ServerError

namespace Command

def COM_QUIT : UInt8 := 0x01
def COM_INIT_DB : UInt8 := 0x02
def COM_QUERY : UInt8 := 0x03
def COM_PING : UInt8 := 0x0E

end Command

namespace ServerStatus

def SERVER_STATUS_IN_TRANS : UInt16 := 1
def SERVER_STATUS_AUTOCOMMIT : UInt16 := 2
def SERVER_MORE_RESULTS_EXISTS : UInt16 := 8
def SERVER_STATUS_NO_BACKSLASH_ESCAPES : UInt16 := 512

end ServerStatus

namespace Client

def LONG_PASSWORD : UInt32 := 1
def LONG_FLAG : UInt32 := 4
def CONNECT_WITH_DB : UInt32 := 8
def COMPRESS : UInt32 := 32
def LOCAL_FILES : UInt32 := 128
def PROTOCOL_41 : UInt32 := 512
def SSL : UInt32 := 2048
def TRANSACTIONS : UInt32 := 8192
def SECURE_CONNECTION : UInt32 := 32768
def MULTI_RESULTS : UInt32 := 131072
def PLUGIN_AUTH : UInt32 := 524288
def CONNECT_ATTRS : UInt32 := 1048576
def PLUGIN_AUTH_LENENC_CLIENT_DATA : UInt32 := 2097152

def CAPABILITIES : UInt32 :=
  LONG_PASSWORD ||| LONG_FLAG ||| PROTOCOL_41 ||| TRANSACTIONS ||| SECURE_CONNECTION |||
    MULTI_RESULTS ||| PLUGIN_AUTH ||| PLUGIN_AUTH_LENENC_CLIENT_DATA ||| CONNECT_ATTRS

end Client

namespace FieldType

def DECIMAL : UInt8 := 0
def TINY : UInt8 := 1
def SHORT : UInt8 := 2
def LONG : UInt8 := 3
def FLOAT : UInt8 := 4
def DOUBLE : UInt8 := 5
def TIMESTAMP : UInt8 := 7
def LONGLONG : UInt8 := 8
def INT24 : UInt8 := 9
def DATE : UInt8 := 10
def TIME : UInt8 := 11
def DATETIME : UInt8 := 12
def YEAR : UInt8 := 13
def VARCHAR : UInt8 := 15
def BIT : UInt8 := 16
def JSON : UInt8 := 245
def NEWDECIMAL : UInt8 := 246
def TINY_BLOB : UInt8 := 249
def MEDIUM_BLOB : UInt8 := 250
def LONG_BLOB : UInt8 := 251
def BLOB : UInt8 := 252
def VAR_STRING : UInt8 := 253
def STRING : UInt8 := 254
def GEOMETRY : UInt8 := 255

end FieldType
end MySQL
