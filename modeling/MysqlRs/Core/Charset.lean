import MysqlRs.Core.Text

namespace MySQL

structure Charset where
  id : UInt16
  name : String
  isDefault : Bool

namespace Charset

-- The charsets in the order in which they are added.
def charsets : List Charset :=
  [⟨1, "big5", true⟩, ⟨2, "latin2", false⟩, ⟨3, "dec8", true⟩, ⟨4, "cp850", true⟩,
    ⟨5, "latin1", false⟩, ⟨6, "hp8", true⟩, ⟨7, "koi8r", true⟩, ⟨8, "latin1", true⟩,
    ⟨9, "latin2", true⟩, ⟨10, "swe7", true⟩, ⟨11, "ascii", true⟩, ⟨12, "ujis", true⟩,
    ⟨13, "sjis", true⟩, ⟨14, "cp1251", false⟩, ⟨15, "latin1", false⟩, ⟨16, "hebrew", true⟩,
    ⟨18, "tis620", true⟩, ⟨19, "euckr", true⟩, ⟨20, "latin7", false⟩, ⟨21, "latin2", false⟩,
    ⟨22, "koi8u", true⟩, ⟨23, "cp1251", false⟩, ⟨24, "gb2312", true⟩, ⟨25, "greek", true⟩,
    ⟨26, "cp1250", true⟩, ⟨27, "latin2", false⟩, ⟨28, "gbk", true⟩, ⟨29, "cp1257", false⟩,
    ⟨30, "latin5", true⟩, ⟨31, "latin1", false⟩, ⟨32, "armscii8", true⟩, ⟨33, "utf8mb3", true⟩,
    ⟨34, "cp1250", false⟩, ⟨36, "cp866", true⟩, ⟨37, "keybcs2", true⟩, ⟨38, "macce", true⟩,
    ⟨39, "macroman", true⟩, ⟨40, "cp852", true⟩, ⟨41, "latin7", true⟩, ⟨42, "latin7", false⟩,
    ⟨43, "macce", false⟩, ⟨44, "cp1250", false⟩, ⟨45, "utf8mb4", true⟩, ⟨46, "utf8mb4", false⟩,
    ⟨47, "latin1", false⟩, ⟨48, "latin1", false⟩, ⟨49, "latin1", false⟩, ⟨50, "cp1251", false⟩,
    ⟨51, "cp1251", true⟩, ⟨52, "cp1251", false⟩, ⟨53, "macroman", false⟩, ⟨57, "cp1256", true⟩,
    ⟨58, "cp1257", false⟩, ⟨59, "cp1257", true⟩, ⟨63, "binary", true⟩, ⟨64, "armscii8", false⟩,
    ⟨65, "ascii", false⟩, ⟨66, "cp1250", false⟩, ⟨67, "cp1256", false⟩, ⟨68, "cp866", false⟩,
    ⟨69, "dec8", false⟩, ⟨70, "greek", false⟩, ⟨71, "hebrew", false⟩, ⟨72, "hp8", false⟩,
    ⟨73, "keybcs2", false⟩, ⟨74, "koi8r", false⟩, ⟨75, "koi8u", false⟩, ⟨76, "utf8mb3", false⟩,
    ⟨77, "latin2", false⟩, ⟨78, "latin5", false⟩, ⟨79, "latin7", false⟩, ⟨80, "cp850", false⟩,
    ⟨81, "cp852", false⟩, ⟨82, "swe7", false⟩, ⟨83, "utf8mb3", false⟩, ⟨84, "big5", false⟩,
    ⟨85, "euckr", false⟩, ⟨86, "gb2312", false⟩, ⟨87, "gbk", false⟩, ⟨88, "sjis", false⟩,
    ⟨89, "tis620", false⟩, ⟨91, "ujis", false⟩, ⟨92, "geostd8", true⟩, ⟨93, "geostd8", false⟩,
    ⟨94, "latin1", false⟩, ⟨95, "cp932", true⟩, ⟨96, "cp932", false⟩, ⟨97, "eucjpms", true⟩,
    ⟨98, "eucjpms", false⟩, ⟨99, "cp1250", false⟩, ⟨192, "utf8mb3", false⟩,
    ⟨193, "utf8mb3", false⟩, ⟨194, "utf8mb3", false⟩, ⟨195, "utf8mb3", false⟩,
    ⟨196, "utf8mb3", false⟩, ⟨197, "utf8mb3", false⟩, ⟨198, "utf8mb3", false⟩,
    ⟨199, "utf8mb3", false⟩, ⟨200, "utf8mb3", false⟩, ⟨201, "utf8mb3", false⟩,
    ⟨202, "utf8mb3", false⟩, ⟨203, "utf8mb3", false⟩, ⟨204, "utf8mb3", false⟩,
    ⟨205, "utf8mb3", false⟩, ⟨206, "utf8mb3", false⟩, ⟨207, "utf8mb3", false⟩,
    ⟨208, "utf8mb3", false⟩, ⟨209, "utf8mb3", false⟩, ⟨210, "utf8mb3", false⟩,
    ⟨211, "utf8mb3", false⟩, ⟨212, "utf8mb3", false⟩, ⟨213, "utf8mb3", false⟩,
    ⟨214, "utf8mb3", false⟩, ⟨215, "utf8mb3", false⟩, ⟨223, "utf8mb3", false⟩,
    ⟨224, "utf8mb4", false⟩, ⟨225, "utf8mb4", false⟩, ⟨226, "utf8mb4", false⟩,
    ⟨227, "utf8mb4", false⟩, ⟨228, "utf8mb4", false⟩, ⟨229, "utf8mb4", false⟩,
    ⟨230, "utf8mb4", false⟩, ⟨231, "utf8mb4", false⟩, ⟨232, "utf8mb4", false⟩,
    ⟨233, "utf8mb4", false⟩, ⟨234, "utf8mb4", false⟩, ⟨235, "utf8mb4", false⟩,
    ⟨236, "utf8mb4", false⟩, ⟨237, "utf8mb4", false⟩, ⟨238, "utf8mb4", false⟩,
    ⟨239, "utf8mb4", false⟩, ⟨240, "utf8mb4", false⟩, ⟨241, "utf8mb4", false⟩,
    ⟨242, "utf8mb4", false⟩, ⟨243, "utf8mb4", false⟩, ⟨244, "utf8mb4", false⟩,
    ⟨245, "utf8mb4", false⟩, ⟨246, "utf8mb4", false⟩, ⟨247, "utf8mb4", false⟩,
    ⟨248, "gb18030", true⟩, ⟨249, "gb18030", false⟩, ⟨250, "gb18030", false⟩,
    ⟨255, "utf8mb4", false⟩]

-- A later charset replaces an earlier one under the same key.
def byId (id : UInt16) : Option Charset :=
  charsets.reverse.find? (·.id = id)

-- `char::to_lowercase`. Apart from the letters A to Z only the Kelvin sign has an ASCII letter as its
-- lower case; other characters are in no name, neither before nor after.
def toLowercase (c : Char) : Char :=
  if c = '\u212A' then 'k' else c.toLower

def byName (name : Text) : Option Charset :=
  let lowered := name.map toLowercase
  let key := if lowered = "utf8".toList then "utf8mb4".toList else lowered
  charsets.reverse.find? fun c => c.isDefault && c.name.toList = key

def encoding (c : Charset) : Text :=
  if c.name = "utf8mb4" ∨ c.name = "utf8mb3" then "utf8".toList
  else if c.name = "latin1" then "cp1252".toList
  else if c.name = "koi8r" then "koi8_r".toList
  else if c.name = "koi8u" then "koi8_u".toList
  else c.name.toList

end Charset

def mblength (charsetnr : UInt16) : Nat :=
  if charsetnr ∈ [255, 248] then 4
  else if charsetnr ∈ [97, 98, 91] then 3
  else if charsetnr ∈ [28, 87, 24, 86, 1, 19, 85, 95, 96, 13] then 2
  else 1

end MySQL
