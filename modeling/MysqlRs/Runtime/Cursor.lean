import MysqlRs.Library.Raw
import MysqlRs.Library.Runs
import MysqlRs.Runtime.Packet
import MysqlRs.Session.Exchange
import MysqlRs.Tokio.Cursor

namespace MySQL

namespace Tokio.Cursor

def numRows (c : Cursor) : Nat :=
  (c.rows.map List.length).getD 0

-- The position is one in the result set, which is in memory.
structure Positioned (c : Cursor) : Prop where
  inRange : c.rowNumber ≤ c.numRows
  fits    : c.numRows ≤ isizeMax

-- Any of the methods that move the cursor.
inductive Movement
  | fetchOne
  | fetchMany (size : Option UInt64)
  | fetchAll
  | scroll (value : Int64) (mode : String)

def Movement.run : Movement → Proc Error Cursor (List Row)
  | fetchOne          => do return (← Cursor.fetchOne).toList
  | fetchMany size    => Cursor.fetchMany (size.map (·.toNat))
  | fetchAll          => Cursor.fetchAll
  | scroll value mode => do
    Cursor.scroll value.toInt mode
    return []

-- The sum that the movement comes to is a number of the machine.
def Movement.Within (c : Cursor) : Movement → Prop
  | fetchMany size    =>
    c.executed.isSome → c.rows.isSome → c.rowNumber + (size.map (·.toNat)).getD c.arraySize ≤ usizeMax
  | scroll value mode =>
    c.executed.isSome → c.rows.isSome → mode = "relative" → c.rowNumber + value.toInt ≤ isizeMax
  | _                 => True

def Movement.isFetch : Movement → Bool
  | scroll _ _ => false
  | _          => true

-- What a movement leads to.
structure Movement.Moves (c : Cursor) (m : Movement) (r : Except Error (List Row)) (c' : Cursor) : Prop where
  inRange : c'.rowNumber ≤ c'.numRows
  rows    : c'.rows = c.rows
  fetched : m.isFetch → ∀ rows, r = .ok rows →
    c.rowNumber ≤ c'.rowNumber ∧ rows = ((c.rows.getD []).take c'.rowNumber).drop c.rowNumber
  refused : ∀ e, r = .error e → c'.rowNumber = c.rowNumber

section Run

variable {c c' : Cursor} {m : Movement} {rows : List Row} {e : Error}

theorem Movement.Moves.positioned {r : Except Error (List Row)} (h : m.Moves c r c') (hp : c.Positioned) :
    c'.Positioned := by
  have hn : c'.numRows = c.numRows := by rw [numRows, numRows, h.rows]
  exact ⟨h.inRange, hn ▸ hp.fits⟩

theorem Movement.Moves.error (hp : c.Positioned) : m.Moves c (.error e) c where
  inRange := hp.inRange
  rows    := rfl
  fetched := fun _ _ h => nomatch h
  refused := fun _ _ => rfl

theorem Movement.Moves.stay (hp : c.Positioned) : m.Moves c (.ok []) c where
  inRange := hp.inRange
  rows    := rfl
  fetched := by
    intro _ rows h
    obtain rfl := Except.ok.inj h
    exact ⟨Nat.le_refl _, by simp⟩
  refused := fun _ _ => rfl

theorem numRows_eq (hr : c.rows = some rows) : c.numRows = rows.length := by
  rw [numRows, hr]
  rfl

-- A fetch that goes on to `n`.
theorem Movement.Moves.advance {n : Nat} (hr : c.rows = some rows) (hn : c.rowNumber ≤ n) (hl : n ≤ rows.length) :
    m.Moves c (.ok ((rows.take n).drop c.rowNumber)) { c with rowNumber := n } where
  inRange := hl.trans_eq (numRows_eq (c := { c with rowNumber := n }) hr).symm
  rows    := rfl
  fetched := by
    intro _ rs h
    obtain rfl := Except.ok.inj h
    exact ⟨hn, by rw [hr]; rfl⟩
  refused := fun _ h => nomatch h

-- A scroll to `n`.
theorem Movement.Moves.jump {n : Nat} (hr : c.rows = some rows) (hl : n ≤ rows.length) (hm : m.isFetch = false) :
    m.Moves c (.ok []) { c with rowNumber := n } where
  inRange := hl.trans_eq (numRows_eq (c := { c with rowNumber := n }) hr).symm
  rows    := rfl
  fetched := fun h => absurd (hm.symm.trans h) Bool.false_ne_true
  refused := fun _ h => nomatch h

theorem checkExecuted_bind {α : Type} (he : c.executed.isNone = false) (k : Unit → Proc Error Cursor α) :
    (checkExecuted >>= k) c = k () c := by
  simp only [checkExecuted, Proc.bind_apply, Proc.get_apply, Outcome.bind_ok, he]
  rfl

theorem checkExecuted_bind_error {α : Type} (he : c.executed.isNone = true) (k : Unit → Proc Error Cursor α) :
    (checkExecuted >>= k) c = .error executeFirst c := by
  simp only [checkExecuted, Proc.bind_apply, Proc.get_apply, Outcome.bind_ok, he]
  rfl

theorem Movement.run_unexecuted (he : c.executed.isNone = true) (m : Movement) :
    m.run c = .error executeFirst c := by
  cases m
  case fetchOne =>
    rw [run, Cursor.fetchOne, Proc.bind_apply, checkExecuted_bind_error he, Outcome.bind_error]
  case fetchMany => exact checkExecuted_bind_error he _
  case fetchAll  => exact checkExecuted_bind_error he _
  case scroll =>
    rw [run, Cursor.scroll, Proc.bind_apply, checkExecuted_bind_error he, Outcome.bind_error]

section Executed

variable {size : Option UInt64} {value : Int64} {mode : String}

theorem fetchOne_run (he : c.executed.isNone = false) (hr : c.rows = some rows) :
    Movement.fetchOne.run c =
      if h : c.rowNumber < rows.length then .ok [rows[c.rowNumber]] { c with rowNumber := c.rowNumber + 1 }
      else .ok [] c := by
  rw [Movement.run, fetchOne, Proc.bind_apply, checkExecuted_bind he]
  split_ifs with h <;> simp [hr, h]

theorem fetchMany_run (he : c.executed.isNone = false) (hr : c.rows = some rows) :
    (Movement.fetchMany size).run c =
      let stop := min (c.rowNumber + (size.map (·.toNat)).getD c.arraySize) rows.length
      .ok ((rows.take stop).drop c.rowNumber) { c with rowNumber := stop } := by
  rw [Movement.run, fetchMany, checkExecuted_bind he]
  simp [hr]

theorem fetchAll_run (he : c.executed.isNone = false) (hr : c.rows = some rows) :
    Movement.fetchAll.run c = .ok (rows.drop c.rowNumber) { c with rowNumber := rows.length } := by
  rw [Movement.run, fetchAll, checkExecuted_bind he]
  simp [hr]

theorem scroll_run (he : c.executed.isNone = false) (hr : c.rows = some rows) :
    (Movement.scroll value mode).run c =
      match scrollTarget? c.rowNumber value.toInt mode with
      | none        => .error (unknownScrollMode mode) c
      | some newPos =>
        if newPos < 0 ∨ rows.length ≤ newPos.toNat then .error outOfRange c
        else .ok [] { c with rowNumber := newPos.toNat } := by
  rw [Movement.run, scroll, Proc.bind_apply, checkExecuted_bind he]
  simp only [Proc.bind_apply, Proc.get_apply, Outcome.bind_ok, hr]
  cases scrollTarget? c.rowNumber value.toInt mode
  case none => rfl
  case some newPos =>
    simp only [Option.elim_some, Proc.ofExcept_ok, Proc.pure_apply, Outcome.bind_ok]
    split_ifs <;> rfl

end Executed

theorem Movement.run_none (he : c.executed.isNone = false) (hr : c.rows = none) (m : Movement) :
    m.run c = if m.isFetch then .ok [] c else .error noResultSet c := by
  cases m
  case fetchOne =>
    rw [run, Cursor.fetchOne, Proc.bind_apply, checkExecuted_bind he]
    simp [hr, isFetch]
  case fetchMany =>
    rw [run, Cursor.fetchMany, checkExecuted_bind he]
    simp [hr, isFetch]
  case fetchAll =>
    rw [run, Cursor.fetchAll, checkExecuted_bind he]
    simp [hr, isFetch]
  case scroll =>
    rw [run, Cursor.scroll, Proc.bind_apply, checkExecuted_bind he]
    simp [hr, isFetch]

-- A movement goes on to a position of the result set, or it leaves the cursor as it is.
theorem Movement.run_moves (hp : c.Positioned) (m : Movement) :
    ∃ r c', Raw.Matches (fun _ => True) (· = ·) (r, c') (m.run c) ∧ m.Moves c r c' := by
  cases he : c.executed.isNone
  case true =>
    rw [run_unexecuted he]
    exact ⟨_, _, .error trivial, .error hp⟩
  case false =>
    cases hr : c.rows
    case none =>
      rw [run_none he hr]
      split_ifs
      · exact ⟨_, _, .ok rfl trivial, .stay hp⟩
      · exact ⟨_, _, .error trivial, .error hp⟩
    case some rows =>
      have hin : c.rowNumber ≤ rows.length := numRows_eq hr ▸ hp.inRange
      cases m
      case fetchOne =>
        rw [fetchOne_run he hr]
        split_ifs with hl
        · refine ⟨_, _, .ok rfl trivial, ?_⟩
          have hrow : [rows[c.rowNumber]] = (rows.take (c.rowNumber + 1)).drop c.rowNumber := by
            rw [List.drop_take, Nat.add_sub_cancel_left, List.drop_eq_getElem_cons hl]
            rfl
          rw [hrow]
          exact .advance hr (Nat.le_succ _) hl
        · exact ⟨_, _, .ok rfl trivial, .stay hp⟩
      case fetchMany size =>
        rw [fetchMany_run he hr]
        exact ⟨_, _, .ok rfl trivial, .advance hr (by omega) (by omega)⟩
      case fetchAll =>
        rw [fetchAll_run he hr]
        refine ⟨_, _, .ok rfl trivial, ?_⟩
        have h := Moves.advance (m := fetchAll) hr hin (Nat.le_refl _)
        rw [List.take_length] at h
        exact h
      case scroll value mode =>
        rw [scroll_run he hr]
        cases scrollTarget? c.rowNumber value.toInt mode
        case none => exact ⟨_, _, .error trivial, .error hp⟩
        case some newPos =>
          simp only
          split_ifs with hout
          · exact ⟨_, _, .error trivial, .error hp⟩
          · exact ⟨_, _, .ok rfl trivial, .jump hr (by omega) rfl⟩

end Run

end Tokio.Cursor

namespace Runtime

open Checked Raw Tokio
open Tokio.Cursor (Movement Positioned)

abbrev CursorRaw := Raw Error Cursor

def isizeMin : Int := -2 ^ 63

-- `n as isize`
def asIsize (n : Nat) : Int :=
  if n ≤ isizeMax then n else n - 2 ^ 64

namespace Cursor

def checkExecuted : CursorRaw Unit := do
  if (← get).executed.isNone then throw executeFirst

def fetchOne : CursorRaw (Option Row) := do
  checkExecuted
  let c ← get
  match c.rows with
  | none      => return none
  | some rows =>
    if rows.length ≤ c.rowNumber then return none
    let row ← index rows c.rowNumber
    set { c with rowNumber := ← add usizeMax c.rowNumber 1 }
    return some row

def fetchMany (size : Option UInt64) : CursorRaw (List Row) := do
  checkExecuted
  let c ← get
  match c.rows with
  | none      => return []
  | some rows =>
    let size := (size.map (·.toNat)).getD c.arraySize
    let stop := min (← add usizeMax c.rowNumber size) rows.length
    let result ← slice rows c.rowNumber stop
    set { c with rowNumber := stop }
    return result

def fetchAll : CursorRaw (List Row) := do
  checkExecuted
  let c ← get
  match c.rows with
  | none      => return []
  | some rows =>
    let result ← sliceFrom rows c.rowNumber
    set { c with rowNumber := rows.length }
    return result

-- The position that a scroll asks for.
def newPosition (rowNumber : Nat) (value : Int64) (mode : String) : CursorRaw Int :=
  if mode = "relative" then addInt isizeMin isizeMax (asIsize rowNumber) value.toInt
  else if mode = "absolute" then pure value.toInt
  else throw (unknownScrollMode mode)

def scroll (value : Int64) (mode : String) : CursorRaw Unit := do
  checkExecuted
  let c ← get
  match c.rows with
  | none      => throw noResultSet
  | some rows =>
    let newPos ← newPosition c.rowNumber value mode
    if newPos < 0 ∨ rows.length ≤ newPos.toNat then throw outOfRange
    set { c with rowNumber := newPos.toNat }

def move : Movement → CursorRaw (List Row)
  | .fetchOne          => do return (← fetchOne).toList
  | .fetchMany size    => fetchMany size
  | .fetchAll          => fetchAll
  | .scroll value mode => do
    scroll value mode
    return []

variable {c : Cursor} {rows : List Row} {m : Movement}

theorem checkExecuted_ok (he : c.executed.isNone = false) : checkExecuted c = .ok (.ok (), c) := by
  rw [checkExecuted, get_bind, he]
  rfl

theorem checkExecuted_error (he : c.executed.isNone = true) : checkExecuted c = .ok (.error executeFirst, c) := by
  rw [checkExecuted, get_bind, if_pos he]
  rfl

theorem asIsize_of_le {n : Nat} (h : n ≤ isizeMax) : asIsize n = n :=
  if_pos h

theorem move_unexecuted (he : c.executed.isNone = true) (m : Movement) :
    move m c = .ok (.error executeFirst, c) := by
  cases m
  case fetchOne          => exact bind_of_error (bind_of_error (checkExecuted_error he))
  case fetchMany         => exact bind_of_error (checkExecuted_error he)
  case fetchAll          => exact bind_of_error (checkExecuted_error he)
  case scroll value mode => exact bind_of_error (bind_of_error (checkExecuted_error he))

theorem move_none (he : c.executed.isNone = false) (hr : c.rows = none) (m : Movement) :
    move m c = .ok (if m.isFetch then .ok [] else .error noResultSet, c) := by
  cases m
  case fetchOne =>
    refine bind_of_ok (a := none) (t := c) ?_
    rw [fetchOne, bind_of_ok (checkExecuted_ok he), get_bind, hr]
    rfl
  case fetchMany =>
    rw [move, fetchMany, bind_of_ok (checkExecuted_ok he), get_bind, hr]
    rfl
  case fetchAll =>
    rw [move, fetchAll, bind_of_ok (checkExecuted_ok he), get_bind, hr]
    rfl
  case scroll =>
    refine bind_of_error (e := noResultSet) (t := c) ?_
    rw [scroll, bind_of_ok (checkExecuted_ok he), get_bind, hr]
    rfl

section Executed

variable {size : Option UInt64} {value : Int64} {mode : String}

theorem fetchOne_matches (he : c.executed.isNone = false) (hr : c.rows = some rows) (hp : c.Positioned) :
    ∃ p, move .fetchOne c = .ok p ∧ Raw.Matches (fun _ => True) (· = ·) p (Movement.fetchOne.run c) := by
  have hf : rows.length ≤ isizeMax := Tokio.Cursor.numRows_eq hr ▸ hp.fits
  rw [Tokio.Cursor.fetchOne_run he hr]
  split_ifs with hl
  case pos =>
    refine ⟨_, ?_, .ok rfl trivial⟩
    refine bind_of_ok (a := some rows[c.rowNumber]) (t := { c with rowNumber := c.rowNumber + 1 }) ?_
    have hu : c.rowNumber + 1 ≤ usizeMax := by
      rw [isizeMax] at hf
      rw [usizeMax]
      omega
    rw [fetchOne, bind_of_ok (checkExecuted_ok he), get_bind, hr]
    simp only
    rw [if_neg (Nat.not_le.mpr hl), lift_bind_of_ok (index_eq hl), lift_bind_of_ok (add_eq hu)]
    rfl
  case neg =>
    refine ⟨_, ?_, .ok rfl trivial⟩
    refine bind_of_ok (a := none) (t := c) ?_
    rw [fetchOne, bind_of_ok (checkExecuted_ok he), get_bind, hr]
    simp only
    rw [if_pos (Nat.le_of_not_lt hl)]
    rfl

theorem fetchMany_matches (he : c.executed.isNone = false) (hr : c.rows = some rows) (hp : c.Positioned)
    (hw : c.rowNumber + (size.map (·.toNat)).getD c.arraySize ≤ usizeMax) :
    ∃ p, move (.fetchMany size) c = .ok p ∧
      Raw.Matches (fun _ => True) (· = ·) p ((Movement.fetchMany size).run c) := by
  have hin : c.rowNumber ≤ rows.length := Tokio.Cursor.numRows_eq hr ▸ hp.inRange
  rw [Tokio.Cursor.fetchMany_run he hr]
  refine ⟨_, ?_, .ok rfl trivial⟩
  rw [move, fetchMany, bind_of_ok (checkExecuted_ok he), get_bind, hr]
  simp only
  rw [lift_bind_of_ok (add_eq hw), lift_bind_of_ok (slice_eq (by omega) (by omega)), List.drop_take]
  rfl

theorem fetchMany_fault (he : c.executed.isNone = false) (hr : c.rows = some rows)
    (hw : usizeMax < c.rowNumber + (size.map (·.toNat)).getD c.arraySize) :
    move (.fetchMany size) c = .error .overflow := by
  rw [move, fetchMany, bind_of_ok (checkExecuted_ok he), get_bind, hr]
  exact lift_bind_of_fault (add_fault hw)

theorem fetchAll_matches (he : c.executed.isNone = false) (hr : c.rows = some rows) (hp : c.Positioned) :
    ∃ p, move .fetchAll c = .ok p ∧ Raw.Matches (fun _ => True) (· = ·) p (Movement.fetchAll.run c) := by
  have hin : c.rowNumber ≤ rows.length := Tokio.Cursor.numRows_eq hr ▸ hp.inRange
  rw [Tokio.Cursor.fetchAll_run he hr]
  refine ⟨_, ?_, .ok rfl trivial⟩
  rw [move, fetchAll, bind_of_ok (checkExecuted_ok he), get_bind, hr]
  simp only
  rw [lift_bind_of_ok (sliceFrom_eq hin)]
  rfl

theorem add_isize (hp : c.Positioned) (hw : c.rowNumber + value.toInt ≤ isizeMax) :
    addInt isizeMin isizeMax (asIsize c.rowNumber) value.toInt = .ok (c.rowNumber + value.toInt) := by
  have hle := value.le_toInt
  have hin := Nat.le_trans hp.inRange hp.fits
  rw [asIsize_of_le hin]
  refine addInt_eq ?_ hw
  rw [isizeMin]
  omega

theorem newPosition_eq (hp : c.Positioned) (hw : mode = "relative" → c.rowNumber + value.toInt ≤ isizeMax) :
    newPosition c.rowNumber value mode c = .ok (match scrollTarget? c.rowNumber value.toInt mode with
      | none        => .error (unknownScrollMode mode)
      | some newPos => .ok newPos, c) := by
  rw [scrollTarget?, newPosition]
  split_ifs with hm
  case pos =>
    rw [add_isize hp (hw hm)]
    rfl
  all_goals rfl

theorem scroll_matches (he : c.executed.isNone = false) (hr : c.rows = some rows) (hp : c.Positioned)
    (hw : mode = "relative" → c.rowNumber + value.toInt ≤ isizeMax) :
    ∃ p, move (.scroll value mode) c = .ok p ∧
      Raw.Matches (fun _ => True) (· = ·) p ((Movement.scroll value mode).run c) := by
  have target := newPosition_eq hp hw
  rw [Tokio.Cursor.scroll_run he hr]
  cases ht : scrollTarget? c.rowNumber value.toInt mode
  case none =>
    rw [ht] at target
    refine ⟨_, ?_, .error trivial⟩
    refine bind_of_error ?_
    rw [scroll, bind_of_ok (checkExecuted_ok he), get_bind, hr]
    exact bind_of_error target
  case some newPos =>
    rw [ht] at target
    simp only
    split_ifs with hout
    · refine ⟨_, ?_, .error trivial⟩
      refine bind_of_error ?_
      rw [scroll, bind_of_ok (checkExecuted_ok he), get_bind, hr]
      refine (bind_of_ok target).trans ?_
      rw [if_pos hout]
      rfl
    · refine ⟨_, ?_, .ok rfl trivial⟩
      refine bind_of_ok (a := ()) (t := { c with rowNumber := newPos.toNat }) ?_
      rw [scroll, bind_of_ok (checkExecuted_ok he), get_bind, hr]
      refine (bind_of_ok target).trans ?_
      rw [if_neg hout]
      rfl

theorem scroll_fault (he : c.executed.isNone = false) (hr : c.rows = some rows) (hp : c.Positioned)
    (hw : isizeMax < c.rowNumber + value.toInt) : move (.scroll value "relative") c = .error .overflow := by
  refine bind_of_fault ?_
  rw [scroll, bind_of_ok (checkExecuted_ok he), get_bind, hr]
  simp only
  refine bind_of_fault ?_
  rw [newPosition, if_pos rfl, asIsize_of_le (Nat.le_trans hp.inRange hp.fits), addInt_fault hw]
  rfl

end Executed

-- The movement is not cut short, and leads to a position of the result set.
def Safe (c : Cursor) (m : Movement) : Prop :=
  ∃ r c', move m c = .ok (r, c') ∧ m.Moves c r c'

-- Where its sum is a number of the machine, a movement does what it does on unbounded numbers.
theorem move_matches (hp : c.Positioned) (hw : m.Within c) :
    ∃ p, move m c = .ok p ∧ Raw.Matches (fun _ => True) (· = ·) p (m.run c) := by
  cases he : c.executed.isNone
  case true =>
    rw [move_unexecuted he, Movement.run_unexecuted he]
    exact ⟨_, rfl, .error trivial⟩
  case false =>
    have hs : c.executed.isSome := by rw [← Option.not_isNone, he]; rfl
    cases hr : c.rows
    case none =>
      rw [move_none he hr, Movement.run_none he hr]
      refine ⟨_, rfl, ?_⟩
      split_ifs
      · exact .ok rfl trivial
      · exact .error trivial
    case some rows =>
      have hq : c.rows.isSome := by rw [hr]; rfl
      cases m
      case fetchOne    => exact fetchOne_matches he hr hp
      case fetchMany   => exact fetchMany_matches he hr hp (hw hs hq)
      case fetchAll    => exact fetchAll_matches he hr hp
      case scroll mode => exact scroll_matches he hr hp (hw hs hq)

theorem move_fault (hp : c.Positioned) (hw : ¬m.Within c) : move m c = .error .overflow := by
  cases m
  case fetchMany size =>
    simp only [Movement.Within, not_forall, Option.isSome_iff_exists, Nat.not_le] at hw
    have ⟨⟨q, he⟩, ⟨rows, hr⟩, hw⟩ := hw
    exact fetchMany_fault (by rw [he]; rfl) hr hw
  case scroll value mode =>
    simp only [Movement.Within, not_forall, Option.isSome_iff_exists, Int.not_le] at hw
    have ⟨⟨q, he⟩, ⟨rows, hr⟩, hm, hw⟩ := hw
    rw [hm]
    exact scroll_fault (by rw [he]; rfl) hr hp hw
  all_goals exact absurd trivial hw

theorem safe_iff (hp : c.Positioned) : Safe c m ↔ m.Within c := by
  constructor
  · intro h
    have ⟨r, c', hm, _⟩ := h
    by_contra hw
    rw [move_fault hp hw] at hm
    cases hm
  · intro hw
    have ⟨p, hm, hp'⟩ := move_matches hp hw
    have ⟨r, c', hrun, hmoves⟩ := m.run_moves hp
    exact ⟨r, c', hp'.unique hrun ▸ hm, hmoves⟩

-- A movement that is cut short is the last one.
def step (c : Cursor) (m : Movement) : Option Cursor :=
  match move m c with
  | .ok (_, c') => some c'
  | .error _    => none

theorem safe_positioned (c : Cursor) (m : Movement) (c' : Cursor) (hp : c.Positioned) (h : Safe c m)
    (hs : step c m = some c') : c'.Positioned := by
  have ⟨r, c₁, hm, hmoves⟩ := h
  rw [step, hm] at hs
  cases hs
  exact hmoves.positioned hp

theorem positions_iff (c : Cursor) (hp : c.Positioned) (ms : List Movement) :
    Along step Safe c ms ↔ Along step (fun c m => m.Within c) c ms :=
  Along.congr safe_positioned (fun _ _ hp => safe_iff hp) hp

section Examples

-- The rows have been buffered, and the first `n` of them have been fetched.
def buffered (rows : List Row) (n : Nat) : Cursor :=
  { Tokio.Cursor.new (.established []) with executed := some "SELECT 1".toList, rows := some rows, rowNumber := n }

theorem positions_three :
    Along step Safe (buffered [[.int 1], [.int 2], [.int 3]] 0)
      [.fetchMany (some 2), .scroll 0 "absolute", .fetchOne, .scroll 1 "relative", .fetchAll] := by
  refine (positions_iff _ ⟨by decide, by decide⟩ _).mpr ?_
  have moved {rows : List Row} {i : Nat} {m : Movement} {ms : List Movement} (j : Nat)
      (hs : step (buffered rows i) m = some (buffered rows j)) (hm : m.Within (buffered rows i))
      (h : Along step (fun c m => m.Within c) (buffered rows j) ms) :
      Along step (fun c m => m.Within c) (buffered rows i) (m :: ms) :=
    .cons hs hm h
  refine moved 2 rfl (fun _ _ => by decide) ?_
  refine moved 0 rfl (fun _ _ h => absurd h (by decide)) ?_
  refine moved 1 rfl trivial ?_
  refine moved 2 rfl (fun _ _ _ => by decide) ?_
  exact moved 3 rfl trivial trivial

-- After one row, a number that stands for all of the rows is too large to be added to the position.
theorem positions_overflow :
    ¬Along step Safe (buffered [[.int 1]] 0) [.fetchOne, .fetchMany (some 18446744073709551615)] ∧
      ¬Along step Safe (buffered [[.int 1]] 0) [.fetchOne, .scroll 9223372036854775807 "relative"] := by
  have hp : (buffered [[.int 1]] 1).Positioned := ⟨by decide, by decide⟩
  constructor
  · intro h
    have hw := (safe_iff hp).mp (h.right (buffered _ 1) rfl).left rfl rfl
    exact absurd hw (by decide)
  · intro h
    have hw := (safe_iff hp).mp (h.right (buffered _ 1) rfl).left rfl rfl rfl
    exact absurd hw (by decide)

end Examples

end Cursor
end Runtime
end MySQL
