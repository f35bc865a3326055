import MysqlRs.Core.Utf8
import MysqlRs.Options.Writing
import MysqlRs.Tokio.Connect
import MysqlRs.Values.RoundTrip

namespace MySQL

-- The letters of the keys that the options have, each of which is its own lower case.
def isPlain (c : Char) : Bool :=
  c.isLower || c = '-'

-- What the documentation of the character database has about lower case.
structure Unicode.Documented [Unicode] : Prop where
  ne_nil : ∀ c, Unicode.toLowercase c ≠ []
  plain  : ∀ c, isPlain c → Unicode.toLowercase c = [c]

theorem Unicode.Documented.lowercaseAfter [Unicode] (hu : Unicode.Documented) {s : Text} (h : s.all isPlain)
    (before : Text) : Text.lowercaseAfter before s = s := by
  induction s generalizing before
  case nil         => rfl
  case cons c s ih =>
    rw [List.all_cons, Bool.and_eq_true] at h
    have hc : ¬c = 'Σ' := by
      rintro rfl
      exact absurd h.left (by decide)
    rw [Text.lowercaseAfter, if_neg hc, hu.plain c h.left, ih h.right]
    rfl

theorem isLower_range {c : Char} (h : c.isLower) : 97 ≤ c.toNat ∧ c.toNat ≤ 122 := by
  have h : (c.val ≥ 'a'.val && c.val ≤ 'z'.val) = true := h
  rw [Bool.and_eq_true, decide_eq_true_eq, decide_eq_true_eq] at h
  exact ⟨UInt32.le_iff_toNat_le.mp h.left, UInt32.le_iff_toNat_le.mp h.right⟩

theorem isWhitespace_plain {c : Char} (h : isPlain c) : Text.isWhitespace c = false := by
  rw [isPlain, Bool.or_eq_true, decide_eq_true_eq] at h
  obtain h | rfl := h
  case inr => decide
  case inl =>
    have hc := isLower_range h
    simp only [Text.isWhitespace, Bool.or_eq_false_iff, Bool.and_eq_false_iff, decide_eq_false_iff_not]
    omega

theorem ne_of_plain {c d : Char} (h : isPlain c) (hd : isPlain d = false) : c ≠ d := by
  rintro rfl
  rw [h] at hd
  cases hd

namespace OptionFile

theorem writable_plain {key value : Text} (hk : key ≠ []) (h : key.all isPlain) (hv : '\n' ∉ value) :
    Setting.Writable ⟨key, value⟩ := by
  have plain : ∀ c ∈ key, isPlain c := List.all_eq_true.mp h
  have head : ∀ c ∈ key.head?, isPlain c := fun c hc => plain c (List.mem_of_mem_head? hc)
  have last : ∀ c ∈ key.getLast?, isPlain c := fun c hc => plain c (List.mem_of_mem_getLast? hc)
  refine ⟨hk, ?_, fun c hc => ⟨?_, ?_, ?_⟩, fun c hc => ?_, fun hm => ?_, hv⟩
  · exact Text.trim_of_ends (fun c hc => isWhitespace_plain (head c hc)) fun c hc => isWhitespace_plain (last c hc)
  · exact ne_of_plain (head c hc) rfl
  · exact ne_of_plain (head c hc) rfl
  · exact ne_of_plain (head c hc) rfl
  · have he : c ≠ '=' := ne_of_plain (plain c hc) rfl
    have hd : c ≠ ':' := ne_of_plain (plain c hc) rfl
    simp [isSeparator, he, hd]
  · exact ne_of_plain (plain _ hm) rfl rfl

variable [Unicode]

theorem normalized_plain (hu : Unicode.Documented) {key : Text} (h : key.all isPlain) : normalized key = key := by
  rw [normalized, Text.toLowercase, hu.lowercaseAfter h, Text.replace]
  induction key
  case nil         => rfl
  case cons c s ih =>
    rw [List.all_cons, Bool.and_eq_true] at h
    have hc : ¬c = '_' := by
      rintro rfl
      exact absurd h.left (by decide)
    rw [List.flatMap_cons, if_neg hc, ih h.right]
    rfl

-- One setting for each field that has a value.
def settingsWith (fields : List (Text × Option Text)) : List Setting :=
  fields.filterMap fun (key, value) => value.map (⟨key, ·⟩)

variable {fields : List (Text × Option Text)} {key : Text} {value : Option Text}

theorem settingFor_eq_none (h : ∀ x ∈ fields, normalized x.1 ≠ key) : settingFor (settingsWith fields) key = none := by
  rw [settingFor, Option.map_eq_none_iff, List.find?_eq_none]
  intro s hs
  obtain ⟨⟨k, v⟩, hx, hs⟩ := List.mem_filterMap.mp (List.mem_reverse.mp hs)
  obtain ⟨v, rfl, rfl⟩ := Option.map_eq_some_iff.mp hs
  simpa using h _ hx

theorem settingFor_settingsWith (hn : (fields.map fun x => normalized x.1).Nodup) (h : (key, value) ∈ fields) :
    settingFor (settingsWith fields) (normalized key) = value := by
  induction fields
  case nil              => cases h
  case cons x fields ih =>
    obtain ⟨k, v⟩ := x
    have ⟨hk, hn⟩ := List.nodup_cons.mp hn
    have cons : settingFor (settingsWith ((k, v) :: fields)) (normalized key) =
        (settingFor (settingsWith fields) (normalized key)).or (if normalized k = normalized key then v else none) := by
      cases v
      case none   => simp [settingsWith]
      case some v => exact settingFor_cons
    rw [cons]
    obtain h | h := List.mem_cons.mp h
    case inl =>
      obtain ⟨rfl, rfl⟩ := Prod.mk.inj h
      have hs := settingFor_eq_none fun x hx he => hk (List.mem_map.mpr ⟨x, hx, he⟩)
      rw [hs, if_pos rfl, Option.none_or]
    case inr =>
      have hne : ¬normalized k = normalized key := fun he => hk (List.mem_map.mpr ⟨_, h, he.symm⟩)
      rw [ih hn h, if_neg hne, Option.or_none]

end OptionFile

theorem Text.parseUInt16_ofNat (n : UInt16) : (Text.ofNat n.toNat).parseUInt16 = some n := by
  have hn : Text.number (Text.ofNat n.toNat) = n.toNat := Nat.ofDigitChars_ten_toDigits
  have hl : n.toNat < 2 ^ 16 := n.toNat_lt
  have hd : (Text.ofNat n.toNat).Digits := Text.toDigits_digits
  have hp := hd.parseUInt32 (by omega)
  rw [Text.parseUInt16, hp, Option.bind_some, hn, if_pos hl, UInt16.ofNat_toNat]

namespace FileOptions

open OptionFile

-- A host that is a path is that of a socket.
def isSocket (o : FileOptions) : Prop :=
  o.host.head? = some '/'

instance : DecidablePred isSocket := fun _ => inferInstanceAs (Decidable (_ = _))

-- The options under the keys that they have in an option file. The password is text there.
def fields (o : FileOptions) (password : Text) : List (Text × Option Text) := [
  ("host".toList, if o.isSocket then none else some o.host),
  ("port".toList, some (Text.ofNat o.port.toNat)),
  ("user".toList, some o.user),
  ("password".toList, some password),
  ("database".toList, o.database),
  ("socket".toList, if o.isSocket then some o.host else none),
  ("default-character-set".toList, some o.charset),
  ("ssl-ca".toList, o.sslCa),
  ("ssl-cert".toList, o.sslCert),
  ("ssl-key".toList, o.sslKey)
]

def keys : List Text := [
  "host".toList, "port".toList, "user".toList, "password".toList, "database".toList, "socket".toList,
  "default-character-set".toList, "ssl-ca".toList, "ssl-cert".toList, "ssl-key".toList
]

-- The options with those of `o` where they have been left alone.
def orElse (options o : FileOptions) : FileOptions :=
  let defaults : ConnectOptions := {}
  {
    options with
    host            := if options.host = defaults.host then o.host else options.host
    port            := if options.port = defaults.port then o.port else options.port
    user            := if options.user = [] then o.user else options.user
    password        := if options.password = [] then o.password else options.password
    database        := options.database.or o.database
    charset         := if options.charset = defaults.charset then o.charset else options.charset
    sslCa           := options.sslCa.or o.sslCa
    sslCert         := options.sslCert.or o.sslCert
    sslKey          := options.sslKey.or o.sslKey
    readDefaultFile := none
  }

def group (options : FileOptions) : Text :=
  options.readDefaultGroup.getD "client".toList

variable {o options : FileOptions} {password : Text}

theorem fields_keys (o : FileOptions) (password : Text) : (o.fields password).map (·.1) = keys :=
  rfl

theorem keys_plain : keys.all fun key => key.all isPlain && key ≠ [] := by
  decide

theorem keys_nodup : keys.Nodup := by
  decide

theorem fields_plain {x : Text × Option Text} (h : x ∈ o.fields password) : x.1.all isPlain ∧ x.1 ≠ [] := by
  have hk := List.all_eq_true.mp keys_plain x.1 (fields_keys o password ▸ List.mem_map.mpr ⟨x, h, rfl⟩)
  simpa using hk

-- Every value fits on a line.
def OneLine (o : FileOptions) (password : Text) : Prop :=
  ∀ x ∈ o.fields password, ∀ value ∈ x.2, '\n' ∉ value

-- The group that `o` is written to.
def written (o : FileOptions) (password name : Text) : Group where
  name     := name
  settings := settingsWith (o.fields password)

theorem OneLine.writable (h : o.OneLine password) : ∀ s ∈ settingsWith (o.fields password), s.Writable := by
  intro s hs
  obtain ⟨⟨key, value⟩, hx, hs⟩ := List.mem_filterMap.mp hs
  obtain ⟨value, rfl, rfl⟩ := Option.map_eq_some_iff.mp hs
  have ⟨hp, hk⟩ := fields_plain hx
  exact writable_plain hk hp (h _ hx value rfl)

variable [Unicode]

theorem settingFor_fields (hu : Unicode.Documented) {key : Text} {value : Option Text}
    (h : (key, value) ∈ o.fields password) : settingFor (settingsWith (o.fields password)) key = value := by
  have hn : ((o.fields password).map fun x => normalized x.1) = keys := by
    rw [← fields_keys o password]
    exact List.map_congr_left fun x hx => normalized_plain hu (fields_plain hx).left
  have hs := settingFor_settingsWith (hn ▸ keys_nodup) h
  rwa [normalized_plain hu (fields_plain h).left] at hs

end FileOptions

namespace Tokio

open OptionFile

variable [Files] [Unicode] {path password : Text} {options o : FileOptions} {before after : List Group}

omit [Unicode] in
theorem readToString_asBytes {text : Text} (h : Files.read path = .ok text.asBytes) : readToString path = .ok text := by
  simp only [readToString, h, bind, Except.bind, Text.fromUtf8Lossy_asBytes, ne_eq, not_true, if_false]
  rfl

section Filling

variable {file : OptionFile} {group value : Text} {key key' : String}

omit [Files] [Unicode]

theorem fillIn_getD {α : Type} (f : Text → α) (unset : Prop) [Decidable unset] (left : α)
    (h : file.get group key.toList = some value) :
    ((fillIn file group unset key).map f).getD left = if unset then f value else left := by
  by_cases hu : unset
  all_goals simp [fillIn, hu, h]

theorem fillIn_or {value left : Option Text} (h : file.get group key.toList = value) :
    (fillIn file group left.isNone key).or left = left.or value := by
  cases left
  case none   => simp [fillIn, h]
  case some _ => rfl

theorem fillInPort_ofNat {port n default : UInt16} (h : file.get group key.toList = some (Text.ofNat n.toNat)) :
    fillInPort path port (fillIn file group (port = default) key) = .ok (if port = default then n else port) := by
  by_cases hp : port = default
  all_goals simp [fillIn, fillInPort, hp, h, Text.parseUInt16_ofNat]

-- The second key is looked up if the first one has left the default.
theorem fillIn_twice {unset : Prop} [Decidable unset] (left default : Text)
    (h : file.get group key.toList = if unset then none else some value)
    (h' : file.get group key'.toList = if unset then some value else none) :
    let host := (fillIn file group (left = default) key).getD left
    (fillIn file group (host = default) key').getD host = if left = default then value else left := by
  intro host
  by_cases hl : left = default
  case neg =>
    have hh : host = left := by simp [host, fillIn, hl]
    simp [fillIn, hh, hl]
  case pos =>
    subst hl
    by_cases hu : unset
    case pos =>
      have hh : host = left := by simp [host, fillIn, h, hu]
      simp [fillIn, hh, h', hu]
    case neg =>
      have hh : host = value := by simp [host, fillIn, h, hu]
      simp [fillIn, hh, h', hu]

end Filling

-- The options in the words of what the keys fill in.
theorem applyOptionFile_filled {file : OptionFile} {port : UInt16} (hd : options.readDefaultFile = some path)
    (hf : OptionFile.read path = .ok file)
    (hp : fillInPort path options.port (fillIn file options.group (options.port = 3306) "port") = .ok port) :
    let value := fillIn file options.group
    let defaults : ConnectOptions := {}
    let host := (value (options.host = defaults.host) "host").getD options.host
    applyOptionFile options = .ok {
      options with
      host            := (value (host = defaults.host) "socket").getD host
      port            := port
      user            := (value (options.user = []) "user").getD options.user
      password        := ((value (options.password = []) "password").map Text.asBytes).getD options.password
      database        := (value options.database.isNone "database").or options.database
      charset         := (value (options.charset = defaults.charset) "default-character-set").getD options.charset
      sslCa           := (value options.sslCa.isNone "ssl-ca").or options.sslCa
      sslCert         := (value options.sslCert.isNone "ssl-cert").or options.sslCert
      sslKey          := (value options.sslKey.isNone "ssl-key").or options.sslKey
      readDefaultFile := none
    } := by
  intro value defaults host
  change fillInPort path options.port (fillIn file options.group (options.port = defaults.port) "port") = .ok port at hp
  simp only [applyOptionFile, hd, hf, bind, Except.bind]
  rw [show options.readDefaultGroup.getD "client".toList = options.group from rfl, hp]
  rfl

-- The options that have been written to a group of a file come back for those that have been left alone, whatever else
-- is in the file.
theorem applyOptionFile_write (hu : Unicode.Documented) (hd : options.readDefaultFile = some path)
    (hr : Files.read path = .ok (write (before ++ o.written password options.group :: after)).asBytes)
    (hp : o.password = password.asBytes) (ho : o.OneLine password) (hn : IsName options.group)
    (ha : ∀ g ∈ before ++ after, g.Writable ∧ g.name ≠ options.group) :
    applyOptionFile options = .ok (options.orElse o) := by
  have writable : ∀ g ∈ before ++ o.written password options.group :: after, g.Writable := by
    simp only [List.mem_append, List.mem_cons] at ha ⊢
    rintro g (hm | rfl | hm)
    · exact (ha g (.inl hm)).left
    · exact ⟨hn, ho.writable⟩
    · exact (ha g (.inr hm)).left
  have only : settingsOf (before ++ o.written password options.group :: after) options.group =
      settingsWith (o.fields password) := by
    have other {gs : List Group} (h : ∀ g ∈ gs, g ∈ before ++ after) :
        gs.filter (fun g => g.name = options.group) = [] :=
      List.filter_eq_nil_iff.mpr fun g hm => by simpa using (ha g (h g hm)).right
    rw [settingsOf, List.filter_append, List.filter_cons, other fun g => List.mem_append_left _,
      other fun g => List.mem_append_right _]
    simp [FileOptions.written]
  obtain ⟨file, hparse, hget⟩ := parse_write hu.ne_nil writable
  have read : OptionFile.read path = .ok file := by
    rw [OptionFile.read, readToString_asBytes hr]
    exact hparse
  have field (n : Fin 10) : file.get options.group ((o.fields password).get n).1 = ((o.fields password).get n).2 := by
    rw [hget, only]
    exact FileOptions.settingFor_fields hu (List.get_mem (o.fields password) n)
  have host : file.get options.group "host".toList = if o.isSocket then none else some o.host := field 0
  have port : file.get options.group "port".toList = some (Text.ofNat o.port.toNat) := field 1
  have user : file.get options.group "user".toList = some o.user := field 2
  have pass : file.get options.group "password".toList = some password := field 3
  have database : file.get options.group "database".toList = o.database := field 4
  have socket : file.get options.group "socket".toList = if o.isSocket then some o.host else none := field 5
  have charset : file.get options.group "default-character-set".toList = some o.charset := field 6
  have sslCa : file.get options.group "ssl-ca".toList = o.sslCa := field 7
  have sslCert : file.get options.group "ssl-cert".toList = o.sslCert := field 8
  have sslKey : file.get options.group "ssl-key".toList = o.sslKey := field 9
  have applied := applyOptionFile_filled hd read (fillInPort_ofNat port)
  have hosts := fillIn_twice options.host ({} : ConnectOptions).host host socket
  have users := fillIn_getD id (options.user = []) options.user user
  have passwords := fillIn_getD Text.asBytes (options.password = []) options.password pass
  have charsets := fillIn_getD id (options.charset = ({} : ConnectOptions).charset) options.charset charset
  rw [Option.map_id, id] at users charsets
  rw [applied, hosts, users, charsets, passwords, fillIn_or database, fillIn_or sslCa, fillIn_or sslCert,
    fillIn_or sslKey, ← hp]
  rfl

end Tokio

section Examples

open Tokio OptionFile

attribute [local instance] Unicode.ascii

-- A single file.
@[reducible]
def Files.single (path text : Text) : Files where
  read p := if p = path then .ok text.asBytes else .error "No such file or directory"
  home   := none

theorem Unicode.documented_ascii : Unicode.Documented where
  ne_nil c  := List.cons_ne_nil c.toLower []
  plain c h := by
    suffices hc : c.toLower = c from congrArg ([·]) hc
    rw [isPlain, Bool.or_eq_true, decide_eq_true_eq] at h
    obtain h | rfl := h
    case inr => rfl
    case inl =>
      have hc : 97 ≤ c.val.toNat := (isLower_range h).left
      have hu : ¬c.val.toNat ≤ 90 := by omega
      exact dif_neg fun h => hu (UInt32.le_iff_toNat_le.mp h.right)

def serverGroup : Group where
  name     := "mysqld".toList
  settings := [⟨"user".toList, "mysql".toList⟩]

def socketOptions : FileOptions where
  host     := "/run/mysqld.sock".toList
  port     := 3307
  user     := "app".toList
  password := Text.asBytes "se\"cret ".toList
  sslCa    := some "/etc/ca.pem".toList

def rootOptions : FileOptions where
  user            := "root".toList
  readDefaultFile := some "/etc/my.cnf".toList

-- The user that has been given stays, and the rest is that of the file.
theorem applyOptionFile_write_socket :
    let text := write [serverGroup, socketOptions.written "se\"cret ".toList "client".toList]
    let _ := Files.single "/etc/my.cnf".toList text
    applyOptionFile rootOptions = .ok { socketOptions with user := "root".toList } := by
  intro text _
  have hs : socketOptions.OneLine "se\"cret ".toList := by
    rw [FileOptions.OneLine]
    decide
  have hw : ∀ g ∈ [serverGroup] ++ [], g.Writable ∧ g.name ≠ rootOptions.group := by
    intro g hg
    obtain rfl := List.mem_singleton.mp hg
    refine ⟨⟨⟨by decide, by decide, by decide⟩, fun s hs => ?_⟩, by decide⟩
    obtain rfl := List.mem_singleton.mp hs
    exact writable_plain (by decide) rfl (by decide)
  have hn : IsName rootOptions.group := ⟨by decide, by decide, by decide⟩
  exact (applyOptionFile_write Unicode.documented_ascii rfl rfl rfl hs hn hw).trans rfl

end Examples
end MySQL
