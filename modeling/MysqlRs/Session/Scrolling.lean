import MysqlRs.Session.Fetching

namespace MySQL.Tokio.UnbufferedCursor

open Tokio.Connection

variable [Libraries] {c : UnbufferedCursor} {rows : List Row} {n : Nat}

omit [Libraries] in
theorem toNat_toUInt64 {value : Int64} (h : ¬value < 0) : (value.toUInt64.toNat : Int) = value.toInt := by
  have hv : 0 ≤ value := Int64.not_lt.mp h
  rw [Int64.toNat_toUInt64_of_le hv, Int64.toNatClampNeg]
  exact Int.toNat_of_nonneg (by simpa using Int64.le_iff_toInt_le.mp hv)

omit [Libraries] in
theorem toInt_neg_iff {value : Int64} : value < 0 ↔ value.toInt < 0 :=
  Int64.lt_iff_toInt_lt

theorem Left.nextRow_rowNumber (h : c.Left n rows) :
    ∃ c', onConnection nextUnbufferedRow c = .ok rows.head? c' ∧ c'.rowNumber = c.rowNumber ∧
      c'.Left n rows.tail := by
  have ⟨c', hx, hl⟩ := h.nextRow
  have ⟨connection, _, hc⟩ := onConnection_ok hx
  exact ⟨c', hx, by rw [hc]; rfl, hl⟩

theorem Left.skipRows {k : Nat} (h : c.Left n rows) (hk : k ≤ rows.length) :
    ∃ c', skipRows k c = .ok () c' ∧ c'.rowNumber = c.rowNumber + k ∧ c'.Left n (rows.drop k) := by
  induction k generalizing c rows
  case zero      => exact ⟨c, rfl, rfl, h⟩
  case succ k ih =>
    have ⟨c₁, hx, hn, hl⟩ := h.nextRow_rowNumber
    rw [UnbufferedCursor.skipRows, Proc.bind_apply, hx]
    cases rows
    case nil           => exact absurd hk (Nat.not_succ_le_zero k)
    case cons row rows =>
      have ⟨c₂, hs, hn₂, hl₂⟩ := ih (hl.setRowNumber (c₁.rowNumber + 1)) (Nat.le_of_succ_le_succ hk)
      refine ⟨c₂, hs, ?_, hl₂⟩
      rw [hn₂, ← hn]
      exact Nat.add_right_comm ..

-- The rows are used up on the way.
theorem Left.skipRows_short {k : Nat} (h : c.Left n rows) (hk : rows.length < k) :
    ∃ c', UnbufferedCursor.skipRows k c = .error outOfRange c' ∧ c'.rowNumber = c.rowNumber + rows.length ∧
      c'.Left n [] := by
  induction k generalizing c rows
  case zero      => exact absurd hk (Nat.not_lt_zero _)
  case succ k ih =>
    have ⟨c₁, hx, hn, hl⟩ := h.nextRow_rowNumber
    rw [UnbufferedCursor.skipRows, Proc.bind_apply, hx]
    cases rows
    case nil           => exact ⟨c₁, rfl, hn, hl⟩
    case cons row rows =>
      have ⟨c₂, hs, hn₂, hl₂⟩ := ih (hl.setRowNumber (c₁.rowNumber + 1)) (Nat.lt_of_succ_lt_succ hk)
      refine ⟨c₂, hs, ?_, hl₂⟩
      rw [hn₂, ← hn, List.length_cons]
      exact Nat.add_right_comm ..

variable {value : Int64} {mode : String}

-- What is promised of a scroll over these rows: a target that is not ahead is refused before a row is read,
-- and one that is within the rows is reached.
structure Scrolls (n : Nat) (c : UnbufferedCursor) (rows : List Row) (value : Int64) (mode : String) : Prop where
  rejected : (∀ t ∈ scrollTarget? c.rowNumber value.toInt mode, t < c.rowNumber) →
    ∃ e c', scroll value mode c = .error e c' ∧ c'.rowNumber = c.rowNumber ∧ c'.Left n rows
  advanced : ∀ t ∈ scrollTarget? c.rowNumber value.toInt mode, ∀ k : Nat, t = c.rowNumber + k → k ≤ rows.length →
    ∃ c', scroll value mode c = .ok () c' ∧ c'.rowNumber = t ∧ c'.Left n (rows.drop k)

-- A position before the first row that is taken for one ahead, where there are rows that this uses up (or where
-- it happens to be the position of the cursor).
structure Misread (c : UnbufferedCursor) (rows : List Row) (value : Int64) (mode : String) : Prop where
  absolute : mode = "absolute"
  negative : value < 0
  ahead    : c.rowNumber ≤ value.toUInt64.toNat
  some_    : rows = [] → c.rowNumber = value.toUInt64.toNat

theorem Left.scroll (h : c.Left n rows) :
    UnbufferedCursor.scroll value mode c =
      (Proc.ofExcept (rowsToSkip c.rowNumber value mode) c).bind UnbufferedCursor.skipRows := by
  have ⟨hc, hx⟩ := h.checks
  simp only [UnbufferedCursor.scroll, Proc.bind_apply, hc, hx, Outcome.bind_ok, Proc.get_apply]

theorem Left.scroll_refused {e : Error} (h : c.Left n rows) (hs : rowsToSkip c.rowNumber value mode = .error e) :
    UnbufferedCursor.scroll value mode c = .error e c := by
  rw [h.scroll, hs]
  rfl

theorem Left.scroll_skips {k : Nat} (h : c.Left n rows) (hs : rowsToSkip c.rowNumber value mode = .ok k) :
    UnbufferedCursor.scroll value mode c = UnbufferedCursor.skipRows k c := by
  rw [h.scroll, hs]
  rfl

omit [Libraries] in
-- Apart from such positions, what is refused is what lies behind, and the rest is skipped to.
theorem rowsToSkip_of_not_misread (hm : ¬(mode = "absolute" ∧ value < 0)) (rowNumber : Nat) :
    (∃ e, rowsToSkip rowNumber value mode = .error e ∧
      ∀ t ∈ scrollTarget? rowNumber value.toInt mode, t < rowNumber) ∨
    ∃ k : Nat, rowsToSkip rowNumber value mode = .ok k ∧
      scrollTarget? rowNumber value.toInt mode = some (rowNumber + k : Int) := by
  rw [rowsToSkip, scrollTarget?]
  split_ifs with hr hv ha ht
  · refine .inl ⟨_, rfl, fun t h => ?_⟩
    obtain rfl := Option.some.inj h
    have := toInt_neg_iff.mp hv
    omega
  · exact .inr ⟨_, rfl, by rw [toNat_toUInt64 hv]⟩
  · refine .inl ⟨_, rfl, fun t h => ?_⟩
    obtain rfl := Option.some.inj h
    have := toNat_toUInt64 fun hv => hm ⟨ha, hv⟩
    omega
  · refine .inr ⟨_, rfl, ?_⟩
    have := toNat_toUInt64 fun hv => hm ⟨ha, hv⟩
    rw [← this]
    congr 1
    omega
  · exact .inl ⟨_, rfl, fun _ h => nomatch h⟩

theorem Left.scrolls (h : c.Left n rows) (hm : ¬(mode = "absolute" ∧ value < 0)) : Scrolls n c rows value mode := by
  obtain ⟨e, hs, ht⟩ | ⟨k, hs, ht⟩ := rowsToSkip_of_not_misread hm c.rowNumber
  case inl =>
    refine ⟨fun _ => ⟨e, c, h.scroll_refused hs, rfl, h⟩, fun t hmem k hk _ => ?_⟩
    have := ht t hmem
    omega
  case inr =>
    refine ⟨fun hlt => ?_, fun t hmem j hj hl => ?_⟩
    · have := hlt _ ht
      omega
    · obtain rfl := Option.some.inj (ht.symm.trans hmem)
      obtain rfl : k = j := by omega
      have ⟨c', hx, hn, hleft⟩ := h.skipRows hl
      exact ⟨c', (h.scroll_skips hs).trans hx, by rw [hn]; rfl, hleft⟩

theorem Scrolls.of_behind {e : Error} {c' : UnbufferedCursor}
    (hb : ∀ t ∈ scrollTarget? c.rowNumber value.toInt mode, t < c.rowNumber) (hx : scroll value mode c = .error e c')
    (hn : c'.rowNumber = c.rowNumber) (hl : c'.Left n rows) : Scrolls n c rows value mode := by
  refine ⟨fun _ => ⟨e, c', hx, hn, hl⟩, fun t hmem k hk _ => ?_⟩
  have := hb t hmem
  omega

omit [Libraries] in
theorem behind_of_neg (h : value < 0) (k : Nat) : ∀ t ∈ scrollTarget? k value.toInt "absolute", t < k := by
  intro t ht
  obtain rfl := Option.some.inj ht
  have := toInt_neg_iff.mp h
  omega

-- A negative position that is taken for one ahead: either the scroll succeeds, or all of the rows are used up.
theorem Left.scrolls_ahead_iff (h : c.Left n rows) (hneg : value < 0) (hahead : c.rowNumber ≤ value.toUInt64.toNat) :
    Scrolls n c rows value "absolute" ↔ rows = [] ∧ c.rowNumber ≠ value.toUInt64.toNat := by
  have hb := behind_of_neg hneg c.rowNumber
  have hs : rowsToSkip c.rowNumber value "absolute" = .ok (value.toUInt64.toNat - c.rowNumber) := by
    simp [rowsToSkip, Nat.not_lt.mpr hahead]
  have hx := h.scroll_skips hs
  by_cases hk : value.toUInt64.toNat - c.rowNumber ≤ rows.length
  case pos =>
    have ⟨c', hok, _⟩ := h.skipRows hk
    constructor
    · intro hs
      have ⟨e, c₁, herr, _⟩ := hs.rejected hb
      rw [hx, hok] at herr
      cases herr
    · rintro ⟨rfl, hne⟩
      rw [List.length_nil] at hk
      omega
  case neg =>
    have ⟨c', herr, hn, hl⟩ := h.skipRows_short (Nat.lt_of_not_le hk)
    constructor
    · intro hs
      have ⟨e, c₁, herr₁, hn₁, _⟩ := hs.rejected hb
      rw [hx, herr] at herr₁
      cases herr₁
      exact ⟨List.eq_nil_of_length_eq_zero (by omega), by omega⟩
    · rintro ⟨rfl, _⟩
      exact .of_behind hb (hx.trans herr) hn hl

theorem scroll_iff (h : c.Left n rows) (value : Int64) (mode : String) :
    Scrolls n c rows value mode ↔ ¬Misread c rows value mode := by
  by_cases hm : mode = "absolute" ∧ value < 0
  case neg => exact ⟨fun _ hmis => hm ⟨hmis.absolute, hmis.negative⟩, fun _ => h.scrolls hm⟩
  case pos =>
    obtain ⟨rfl, hneg⟩ := hm
    by_cases hahead : value.toUInt64.toNat < c.rowNumber
    case pos =>
      have hs : rowsToSkip c.rowNumber value "absolute" = .error backwardsScrolling := by
        simp [rowsToSkip, hahead]
      exact ⟨fun _ hmis => absurd hmis.ahead (Nat.not_le.mpr hahead),
        fun _ => .of_behind (behind_of_neg hneg _) (h.scroll_refused hs) rfl h⟩
    case neg =>
      have hahead := Nat.le_of_not_lt hahead
      rw [h.scrolls_ahead_iff hneg hahead]
      constructor
      · rintro ⟨hnil, hne⟩ hmis
        exact hne (hmis.some_ hnil)
      · intro hmis
        by_contra hc
        exact hmis ⟨rfl, hneg, hahead, fun hnil => by_contra fun hne => hc ⟨hnil, hne⟩⟩

theorem execute_rowNumber {query : Text} {args : Option (List Value)} {c' : UnbufferedCursor} {k : Int64}
    (h : execute query args c = .ok k c') : c'.rowNumber = 0 := by
  have ⟨_, c₁, _, h⟩ := Outcome.bind_eq_ok.mp h
  have ⟨_, c₂, _, h⟩ := Outcome.bind_eq_ok.mp h
  have ⟨_, c₃, _, h⟩ := Outcome.bind_eq_ok.mp h
  have ⟨_, c₄, _, h⟩ := Outcome.bind_eq_ok.mp h
  cases h
  rfl

section Examples

open Libraries

-- A query for one row has been executed.
omit [Libraries] in
theorem executed_oneRow :
    let := utf8Only
    let c := UnbufferedCursor.new (established [(oneRowIn 4).map .ok])
    ∃ k c' row, execute select none c = .ok k c' ∧ c'.rowNumber = 0 ∧ c'.Left 1 [row] := by
  let := utf8Only
  let c := UnbufferedCursor.new (established [(oneRowIn 4).map .ok])
  have hm : c.connection.mogrify select none = .ok select := rfl
  have ⟨k, c', hx, hl⟩ := execute_left (c := c) rfl hm (oneRowIn_expects 4)
  exact ⟨k, c', _, hx, execute_rowNumber hx, hl⟩

omit [Libraries] in
theorem scroll_oneRow :
    let := utf8Only
    let c := UnbufferedCursor.new (established [(oneRowIn 4).map .ok])
    ∃ k c' row, execute select none c = .ok k c' ∧ Scrolls 1 c' [row] 1 "absolute" := by
  let := utf8Only
  have ⟨k, c', row, hx, _, hl⟩ := executed_oneRow
  exact ⟨k, c', row, hx, (scroll_iff hl 1 "absolute").mpr fun hm => absurd hm.negative (by decide)⟩

-- A scroll to the position before the first row uses up the row.
omit [Libraries] in
theorem scroll_discards :
    let := utf8Only
    let c := UnbufferedCursor.new (established [(oneRowIn 4).map .ok])
    ∃ k c' row, execute select none c = .ok k c' ∧ c'.Left 1 [row] ∧ ¬Scrolls 1 c' [row] (-1) "absolute" ∧
      ∃ c'', scroll (-1) "absolute" c' = .error outOfRange c'' ∧ c''.rowNumber = 1 ∧ c''.Left 1 [] := by
  let := utf8Only
  have ⟨k, c', row, hx, hn, hl⟩ := executed_oneRow
  have hs : rowsToSkip c'.rowNumber (-1) "absolute" = .ok (2 ^ 64 - 1) := by
    rw [hn]
    rfl
  have ⟨c'', herr, hn'', hl''⟩ := hl.skipRows_short (k := 2 ^ 64 - 1) (by simp)
  have hx' := (hl.scroll_skips hs).trans herr
  rw [hn] at hn''
  refine ⟨k, c', row, hx, hl, fun hs => ?_, c'', hx', hn'', hl''⟩
  have ⟨e, c₁, h₁, hn₁, _⟩ := hs.rejected fun t ht => by
    obtain rfl := Option.some.inj ht
    rw [hn]
    decide
  rw [hx'] at h₁
  cases h₁
  have hk : (1 : Nat) = 0 := by rw [← hn, ← hn₁, hn'']; rfl
  exact absurd hk Nat.one_ne_zero

end Examples
end MySQL.Tokio.UnbufferedCursor
