import MysqlRs.Library.Supply
import MysqlRs.Tokio.Cursor

namespace MySQL.Tokio

-- `HashMap<String, Value>`
abbrev Dict := Text → Option Value

def Dict.insert (dict : Dict) (field : Text) (value : Value) : Dict :=
  fun name => if name = field then some value else dict name

def dictOf (fields : List Text) (row : Row) : Dict :=
  (fields.zip row).foldl (fun dict x => dict.insert x.1 x.2) fun _ => none

def columnNames (description : Option (List ColumnDescription)) : List Text :=
  (description.map fun desc => desc.map (·.name)).getD []

-- What a cursor that gives dictionaries uses of the cursor within.
structure Rows (τ : Type) where
  rows        : Supply Error τ Row
  description : τ → Option (List ColumnDescription)
  arraySize   : τ → Nat

-- A cursor that gives dictionaries. The names of the columns are cached.
structure Labelled (τ : Type) where
  inner       : τ
  fields      : List Text
  fieldsDirty : Bool

namespace Labelled

variable {τ α : Type} (r : Rows τ)

def new (cursor : τ) : Labelled τ where
  inner       := cursor
  fields      := []
  fieldsDirty := true

def setInner (c : Labelled τ) (inner : τ) : Labelled τ :=
  { c with inner := inner }

def onInner (x : Proc Error τ α) : Proc Error (Labelled τ) α :=
  x.zoom inner fun inner c => c.setInner inner

-- The cache is given up once the operation has succeeded.
def onInnerDirty (x : Proc Error τ α) : Proc Error (Labelled τ) α := do
  let a ← onInner x
  modify ({ · with fieldsDirty := true })
  return a

def ensureFields (c : Labelled τ) : Labelled τ :=
  if c.fieldsDirty then { c with fields := columnNames (r.description c.inner), fieldsDirty := false } else c

def fetchOne : Proc Error (Labelled τ) (Option Dict) := do
  modify (ensureFields r)
  let row ← onInner r.rows.next
  return row.map (dictOf (← get).fields)

theorem ensureFields_inner (c : Labelled τ) : (c.ensureFields r).inner = c.inner := by
  rw [ensureFields]
  split_ifs <;> rfl

theorem fetchOne_apply (c : Labelled τ) :
    fetchOne r c = ((r.rows.next c.inner).mapState (c.ensureFields r).setInner).bind
      fun row c => .ok (row.map (dictOf c.fields)) c := by
  simp only [fetchOne, onInner, Proc.bind_apply, Proc.modify_apply, Outcome.bind_ok, Proc.zoom_apply,
    ensureFields_inner]
  cases r.rows.next c.inner <;> rfl

theorem fetchOne_some {c c' : Labelled τ} {dict : Dict} (h : fetchOne r c = .ok (some dict) c') :
    ∃ row, r.rows.next c.inner = .ok (some row) c'.inner := by
  rw [fetchOne_apply] at h
  cases hn : r.rows.next c.inner
  case ok row inner =>
    rw [hn, Outcome.mapState_ok, Outcome.bind_ok] at h
    obtain ⟨hd, rfl⟩ := Outcome.ok.inj h
    have ⟨row, hrow, _⟩ := Option.map_eq_some_iff.mp hd
    exact ⟨row, by rw [hrow]; rfl⟩
  all_goals
    rw [hn] at h
    cases h

def dicts : Supply Error (Labelled τ) Dict where
  wf         := r.rows.wf
  next       := fetchOne r
  measure c  := r.rows.measure c.inner
  decreasing h := by
    have ⟨row, h⟩ := fetchOne_some r h
    exact r.rows.decreasing h

def fetchMany (size : Option Nat) : Proc Error (Labelled τ) (List Dict) := do
  (dicts r).upTo (size.getD (r.arraySize (← get).inner))

def fetchAll : Proc Error (Labelled τ) (List Dict) :=
  (dicts r).all

end Labelled

variable [Libraries]

omit [Libraries] in
theorem Cursor.fetchOne_some {c c' : Cursor} {row : Row} (h : Cursor.fetchOne c = .ok (some row) c') :
    (∃ rows ∈ c.rows, rows[c.rowNumber]? = some row) ∧ c' = { c with rowNumber := c.rowNumber + 1 } := by
  obtain ⟨_, c₁, hx, hf⟩ := Outcome.bind_eq_ok.mp h
  obtain rfl : c₁ = c := by
    simp only [checkExecuted, Proc.bind_apply, Proc.get_apply, Outcome.bind_ok] at hx
    split_ifs at hx
    case pos => cases hx
    case neg =>
      cases hx
      rfl
  simp only [Proc.bind_apply, Proc.get_apply, Outcome.bind_ok] at hf
  cases hr : c₁.rows.bind (·[c₁.rowNumber]?)
  case none =>
    rw [hr] at hf
    cases hf
  case some row =>
    rw [hr] at hf
    cases hf
    obtain ⟨rows, hrows, hrow⟩ := Option.bind_eq_some_iff.mp hr
    exact ⟨⟨rows, hrows, hrow⟩, rfl⟩

-- What `DictCursor` uses of `Cursor`.
def Cursor.dictRows : Rows Cursor where
  rows := {
    next := Cursor.fetchOne
    measure := fun c => (c.rows.getD []).length - c.rowNumber
    decreasing := by
      intro c row c' h
      have ⟨⟨rows, hrows, hrow⟩, hc⟩ := Cursor.fetchOne_some h
      have ⟨hlt, _⟩ := List.getElem?_eq_some_iff.mp hrow
      rw [hc, Option.mem_def.mp hrows]
      change rows.length - (c.rowNumber + 1) < rows.length - c.rowNumber
      omega
  }
  description := Cursor.description
  arraySize   := Cursor.arraySize

theorem UnbufferedCursor.fetchOne_some {c c' : UnbufferedCursor} {row : Row}
    (h : UnbufferedCursor.fetchOne c = .ok (some row) c') :
    c.executed = true ∧ ∃ connection, Connection.nextUnbufferedRow c.connection = .ok (some row) connection ∧
      c' = { c.setConnection connection with rowNumber := c.rowNumber + 1 } := by
  obtain ⟨_, c₁, hc, h₁⟩ := Outcome.bind_eq_ok.mp h
  obtain rfl : c₁ = c := by
    simp only [checkClosed, Proc.bind_apply, Proc.get_apply, Outcome.bind_ok] at hc
    split_ifs at hc
    case pos => cases hc
    case neg =>
      cases hc
      rfl
  obtain ⟨_, c₂, hx, h₂⟩ := Outcome.bind_eq_ok.mp h₁
  obtain ⟨hexec, rfl⟩ : c₁.executed = true ∧ c₂ = c₁ := by
    simp only [checkExecuted, Proc.bind_apply, Proc.get_apply, Outcome.bind_ok] at hx
    split_ifs at hx with he
    case pos => cases hx
    case neg =>
      cases hx
      exact ⟨by simpa using he, rfl⟩
  obtain ⟨row, c₃, hn, h₃⟩ := Outcome.bind_eq_ok.mp h₂
  obtain ⟨connection, hn, hc₃⟩ := onConnection_ok hn
  cases row
  case none     => cases h₃
  case some row =>
    cases h₃
    exact ⟨hexec, connection, hn, by rw [hc₃]; rfl⟩

def UnbufferedCursor.dictRows : Rows UnbufferedCursor where
  rows := {
    next := UnbufferedCursor.fetchOne
    measure := fun c => c.connection.remaining
    decreasing := by
      intro c row c' h
      have ⟨_, connection, hn, hc⟩ := UnbufferedCursor.fetchOne_some h
      rw [hc]
      exact Connection.nextUnbufferedRow_lt hn
  }
  description := UnbufferedCursor.description
  arraySize   := UnbufferedCursor.arraySize

abbrev DictCursor := Labelled Cursor

namespace DictCursor

open Labelled

def execute (query : Text) (args : Option (List Value)) : Proc Error DictCursor Int64 :=
  onInnerDirty (Cursor.execute query args)

def executeMany (captures : Text → Option InsertValues) (query : Text) (argsList : List (List Value)) :
    Proc Error DictCursor Int64 :=
  onInner (Cursor.executeMany captures query argsList)

def callProcedure (procname : Text) (args : List Value) : Proc Error DictCursor (List Value) :=
  onInner (Cursor.callProcedure procname args)

def close : Proc Error DictCursor Unit :=
  onInner Cursor.close

def nextSet : Proc Error DictCursor Bool :=
  onInnerDirty Cursor.nextSet

def fetchOne : Proc Error DictCursor (Option Dict) :=
  Labelled.fetchOne Cursor.dictRows

def fetchMany (size : Option Nat) : Proc Error DictCursor (List Dict) :=
  Labelled.fetchMany Cursor.dictRows size

def fetchAll : Proc Error DictCursor (List Dict) :=
  Labelled.fetchAll Cursor.dictRows

def scroll (value : Int) (mode : String) : Proc Error DictCursor Unit :=
  onInner (Cursor.scroll value mode)

end DictCursor

abbrev UnbufferedDictCursor := Labelled UnbufferedCursor

namespace UnbufferedDictCursor

open Labelled

def execute (query : Text) (args : Option (List Value)) : Proc Error UnbufferedDictCursor Int64 :=
  onInnerDirty (UnbufferedCursor.execute query args)

def executeMany (captures : Text → Option InsertValues) (query : Text) (argsList : List (List Value)) :
    Proc Error UnbufferedDictCursor Int64 :=
  onInner (UnbufferedCursor.executeMany captures query argsList)

def close : Proc Error UnbufferedDictCursor Unit :=
  onInner UnbufferedCursor.close

def nextSet : Proc Error UnbufferedDictCursor Bool :=
  onInnerDirty UnbufferedCursor.nextSet

def fetchOne : Proc Error UnbufferedDictCursor (Option Dict) :=
  Labelled.fetchOne UnbufferedCursor.dictRows

def fetchMany (size : Option Nat) : Proc Error UnbufferedDictCursor (List Dict) :=
  Labelled.fetchMany UnbufferedCursor.dictRows size

def fetchAll : Proc Error UnbufferedDictCursor (List Dict) :=
  Labelled.fetchAll UnbufferedCursor.dictRows

def scroll (value : Int64) (mode : String) : Proc Error UnbufferedDictCursor Unit :=
  onInner (UnbufferedCursor.scroll value mode)

end UnbufferedDictCursor
end MySQL.Tokio
