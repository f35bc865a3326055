import MysqlRs.Core.Text

namespace MySQL

-- The compression library.
class Zlib where
  compress : Bytes → Except String Bytes
  decompress : Bytes → Except String Bytes

-- The character decoders: the one for a label, if the label is known, and the one for UTF-8.
class Encodings where
  forLabel : Text → Option (Bytes → Text)
  utf8 : Bytes → Text

structure NaiveDate where
  year  : Int
  month : Nat
  day   : Nat
  deriving DecidableEq

structure NaiveTime where
  hour       : Nat
  minute     : Nat
  second     : Nat
  nanosecond : Nat
  deriving DecidableEq

structure NaiveDateTime where
  date : NaiveDate
  time : NaiveTime
  deriving DecidableEq

structure TimeDelta where
  nanoseconds : Int
  deriving DecidableEq

-- The calendar library: formatting and parsing for a given format, advancing a point in time, and making and
-- reading time spans.
class Chrono where
  formatDate : NaiveDate → String → Text
  formatTime : NaiveTime → String → Text
  formatDateTime : NaiveDateTime → String → Text
  parseDate : Text → String → Option NaiveDate
  parseDateTime : Text → String → Option NaiveDateTime
  add : NaiveDateTime → TimeDelta → NaiveDateTime
  microseconds : Int → TimeDelta
  numSeconds : TimeDelta → Int
  subsecMicros : TimeDelta → Int

structure Decimal where
  mantissa : Int
  scale    : Nat
  deriving DecidableEq

-- The decimal library.
class Decimals where
  parse : Text → Option Decimal
  format : Decimal → Text

-- The files that can be read, and the home directory.
class Files where
  read : Text → Except String Bytes
  home : Option Text

class Libraries extends Zlib, Encodings, Chrono, Decimals, Files

-- Libraries that know UTF-8 and time spans only, and neither compression nor dates nor decimals nor files.
-- Runs that use no more than that are evaluated with them.
@[reducible]
def Libraries.utf8Only : Libraries where
  compress _ := .error "not available"
  decompress _ := .error "not available"
  forLabel _ := none
  utf8 := Text.fromUtf8Lossy
  formatDate _ _ := []
  formatTime _ _ := []
  formatDateTime _ _ := []
  parseDate _ _ := none
  parseDateTime _ _ := none
  add t _ := t
  microseconds n := ⟨n * 1000⟩
  numSeconds td := td.nanoseconds.tdiv 1000000000
  subsecMicros td := (td.nanoseconds.tmod 1000000000).tdiv 1000
  parse _ := none
  format _ := []
  read _ := .error "not available"
  home := none

end MySQL
