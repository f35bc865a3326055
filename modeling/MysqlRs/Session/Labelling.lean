import Mathlib.Data.List.Forall2
import Mathlib.Data.List.Induction
import MysqlRs.Library.Runs
import MysqlRs.Session.Cursors
import MysqlRs.Session.Visiting
import MysqlRs.Tokio.DictCursor
import MysqlRs.Tokio.Mogrify

namespace MySQL.Tokio

-- The values of a row under the names of its columns. Where columns share a name, the last of them counts.
structure Labels (names : List Text) (row : Row) (dict : Dict) : Prop where
  keys   : ∀ name, (dict name).isSome ↔ name ∈ names
  values : ∀ i name, names[i]? = some name → (∀ j : Nat, i < j → names[j]? ≠ some name) → dict name = row[i]?

theorem dictOf_concat {fields : List Text} {row : Row} (h : fields.length = row.length) (field : Text)
    (value : Value) : dictOf (fields ++ [field]) (row ++ [value]) = (dictOf fields row).insert field value := by
  rw [dictOf, List.zip_append h, List.foldl_append]
  rfl

theorem Labels.insert {names : List Text} {row : Row} {dict : Dict} (h : Labels names row dict)
    (hl : names.length = row.length) (field : Text) (value : Value) :
    Labels (names ++ [field]) (row ++ [value]) (dict.insert field value) where
  keys name := by
    rw [Dict.insert, List.mem_append, List.mem_singleton]
    by_cases hn : name = field
    · simp [hn]
    · rw [if_neg hn, h.keys]
      simp [hn]
  values i name hi hlast := by
    have hlt : i < (names ++ [field]).length := (List.getElem?_eq_some_iff.mp hi).choose
    rw [List.length_append, List.length_singleton] at hlt
    rcases Nat.lt_or_ge i names.length with hn | hn
    · have hf : name ≠ field := by
        rintro rfl
        exact hlast names.length hn (by simp)
      rw [List.getElem?_append_left hn] at hi
      rw [Dict.insert, if_neg hf, List.getElem?_append_left (hl ▸ hn)]
      refine h.values i name hi fun j hj hs => hlast j hj ?_
      have ⟨hlj, _⟩ := List.getElem?_eq_some_iff.mp hs
      rwa [List.getElem?_append_left hlj]
    · obtain rfl : i = names.length := by omega
      rw [List.getElem?_concat_length] at hi
      obtain rfl := Option.some.inj hi
      rw [Dict.insert, if_pos rfl, hl, List.getElem?_concat_length]

theorem dictOf_labels {names : List Text} {row : Row} (h : row.length = names.length) :
    Labels names row (dictOf names row) := by
  induction row using List.reverseRecOn generalizing names
  case nil =>
    obtain rfl := List.length_eq_zero_iff.mp h.symm
    exact ⟨fun _ => by simp [dictOf], fun i _ hi => by simp at hi⟩
  case append_singleton row value ih =>
    obtain rfl | ⟨names, name, rfl⟩ := names.eq_nil_or_concat
    case inl => simp at h
    case inr =>
      have hl : row.length = names.length := by simpa using h
      rw [List.concat_eq_append, dictOf_concat hl.symm]
      exact (ih hl).insert hl.symm name value

variable {τ : Type} {r : Rows τ}

namespace Rows

-- The calls that fetch rows, one row at a time.
def fetch (r : Rows τ) : Fetch → Proc Error τ (List Row)
  | .one       => do return (← r.rows.next).toList
  | .many size => do r.rows.upTo (size.getD (r.arraySize (← get)))
  | .all       => r.rows.all

-- `I` says that the rows belong to the description, `empty` that there are none.
structure Sound (r : Rows τ) (I empty : τ → Prop) : Prop where
  leaves : r.rows.next.Leaves r.description
  rows   : r.rows.next.Maintains I
  none   : r.rows.next.Maintains empty
  length : ∀ {t row t'}, I t → r.rows.next t = .ok (some row) t' → row.length = (columnNames (r.description t)).length
  no_row : ∀ {t row t'}, empty t → r.rows.next t ≠ .ok (some row) t'

theorem fetch_yields {P : τ → Prop} {Q : Row → Prop} (hn : ∀ t row t', P t → r.rows.next t = .ok (some row) t' → Q row ∧ P t')
    {fetch : Fetch} {t t' : τ} {rows : List Row} (ht : P t) (h : r.fetch fetch t = .ok rows t') : ∀ row ∈ rows, Q row := by
  cases fetch
  case one =>
    have ⟨row, t₁, hx, h⟩ := Outcome.bind_eq_ok.mp h
    obtain ⟨rfl, _⟩ := Outcome.ok.inj h
    intro q hq
    obtain rfl : row = some q := by simpa using hq
    exact (hn _ _ _ ht hx).left
  case many size => exact Supply.upTo_yields hn ht h
  case all       => exact Supply.all_yields hn ht h

end Rows

namespace Labelled

-- The calls that fetch rows as dictionaries.
def fetch (r : Rows τ) : Fetch → Proc Error (Labelled τ) (List Dict)
  | .one       => do return (← fetchOne r).toList
  | .many size => fetchMany r size
  | .all       => fetchAll r

-- The names that the next row is given.
def labels (r : Rows τ) (c : Labelled τ) : List Text :=
  (c.ensureFields r).fields

theorem labels_setInner (c : Labelled τ) (inner : τ) : ((c.ensureFields r).setInner inner).labels r = c.labels r := by
  have hd : (c.ensureFields r).fieldsDirty = false := by
    rw [ensureFields]
    split_ifs with h
    · rfl
    · simpa using h
  rw [labels, ensureFields, if_neg (by simp [setInner, hd])]
  rfl

theorem fetchOne_mirrors (names : List Text) :
    (dicts r).Mirrors r.rows (dictOf names) fun c t => c.inner = t ∧ c.labels r = names := by
  rintro c _ ⟨rfl, rfl⟩
  change Outcome.Rel _ _ (fetchOne r c) _
  rw [fetchOne_apply]
  cases r.rows.next c.inner
  case ok row inner  => exact .ok rfl ⟨rfl, c.labels_setInner inner⟩
  case error e inner => exact .error ⟨rfl, c.labels_setInner inner⟩
  case pending inner => exact .pending ⟨rfl, c.labels_setInner inner⟩

theorem fetch_mirrors (fetch : Fetch) (c : Labelled τ) :
    Outcome.Rel (fun dicts rows => dicts = rows.map (dictOf (c.labels r)))
      (fun c' t => c'.inner = t ∧ c'.labels r = c.labels r) (Labelled.fetch r fetch c) (r.fetch fetch c.inner) := by
  have h := fetchOne_mirrors (r := r) (c.labels r)
  cases fetch
  case one =>
    refine (h ⟨rfl, rfl⟩).bind fun dict row c t hd hR => .ok ?_ hR
    rw [hd]
    cases row <;> rfl
  case many size => exact h.upTo _ ⟨rfl, rfl⟩
  case all       => exact h.all ⟨rfl, rfl⟩

-- A call gives the rows that the cursor within gives, under the names of the columns.
def Right (r : Rows τ) (c : Labelled τ) (fetch : Fetch) : Prop :=
  ∀ dicts c', Labelled.fetch r fetch c = .ok dicts c' →
    ∃ rows, r.fetch fetch c.inner = .ok rows c'.inner ∧
      List.Forall₂ (Labels (columnNames (r.description c.inner))) rows dicts

-- The names that are cached are those of the columns, if there are rows.
def Cached (r : Rows τ) (empty : τ → Prop) (c : Labelled τ) : Prop :=
  c.labels r = columnNames (r.description c.inner) ∨ empty c.inner

-- So are they where an operation of the cursor within leaves it like this.
def Agrees (r : Rows τ) (empty : τ → Prop) (c : Labelled τ) (inner : τ) : Prop :=
  c.fieldsDirty = true ∨ columnNames (r.description inner) = c.fields ∨ empty inner

theorem cached_new {empty : τ → Prop} (inner : τ) : (new inner).Cached r empty :=
  .inl rfl

theorem Agrees.cached {empty : τ → Prop} {c : Labelled τ} {inner : τ} (h : c.Agrees r empty inner) :
    (c.setInner inner).Cached r empty := by
  by_cases hd : c.fieldsDirty = true
  case pos =>
    refine .inl ?_
    rw [labels, ensureFields, if_pos (show (c.setInner inner).fieldsDirty = true from hd)]
  case neg =>
    refine (h.resolve_left hd).imp_left fun hn => ?_
    rw [labels, ensureFields, if_neg (show ¬(c.setInner inner).fieldsDirty = true from hd)]
    exact hn.symm

-- An operation that leaves the description, and brings no rows.
theorem Cached.agrees {empty : τ → Prop} {c : Labelled τ} {inner : τ} (h : c.Cached r empty)
    (hd : r.description inner = r.description c.inner) (he : empty c.inner → empty inner) : c.Agrees r empty inner := by
  by_cases hf : c.fieldsDirty = true
  case pos => exact .inl hf
  case neg =>
    refine .inr (h.imp (fun hl => ?_) he)
    rw [labels, ensureFields, if_neg hf] at hl
    rw [hd, hl]

section Sound

variable {I empty : τ → Prop} (hr : r.Sound I empty) {c : Labelled τ}

include hr

theorem right_of_cached (hi : I c.inner) (hc : c.Cached r empty) (fetch : Fetch) : c.Right r fetch := by
  intro dicts c' h
  have hm := fetch_mirrors (r := r) fetch c
  rw [h] at hm
  cases hf : r.fetch fetch c.inner
  all_goals
    rw [hf] at hm
    cases hm
  case ok.ok rows t hd hinner =>
    refine ⟨rows, by rw [hinner.left], ?_⟩
    rw [hd]
    obtain hc | hc := hc
    case inl =>
      have hlength : ∀ row ∈ rows, row.length = (columnNames (r.description c.inner)).length := by
        refine r.fetch_yields (P := fun t => I t ∧ r.description t = r.description c.inner) ?_ ⟨hi, rfl⟩ hf
        intro t row t' ht hn
        have hlen := hr.length ht.left hn
        rw [ht.right] at hlen
        exact ⟨hlen, hr.rows.of_ok ht.left hn, (hr.leaves.keeps hn).trans ht.right⟩
      rw [hc, List.forall₂_map_right_iff, List.forall₂_same]
      exact fun row h => dictOf_labels (hlength row h)
    case inr =>
      have hnone : ∀ row ∈ rows, False := by
        refine r.fetch_yields (P := empty) ?_ hc hf
        exact fun t row t' ht hn => absurd hn (hr.no_row ht)
      obtain rfl := List.eq_nil_iff_forall_not_mem.mpr hnone
      exact .nil

theorem fetchOne_cached : (fetchOne r).Maintains fun c => I c.inner ∧ c.Cached r empty := by
  rintro c ⟨hi, hc⟩
  have hs : (fetchOne r c).state = (c.ensureFields r).setInner (r.rows.next c.inner).state := by
    rw [fetchOne_apply]
    cases r.rows.next c.inner <;> rfl
  rw [hs]
  refine ⟨hr.rows _ hi, ?_⟩
  rw [Cached, labels_setInner]
  refine hc.imp (fun hl => hl.trans ?_) (hr.none _)
  exact congrArg columnNames (hr.leaves _).symm

theorem fetch_cached (fetch : Fetch) : (Labelled.fetch r fetch).Maintains fun c => I c.inner ∧ c.Cached r empty := by
  cases fetch
  case one  => exact .bind (fetchOne_cached hr) fun _ => .pure _
  case many => exact .bind .get fun _ => (dicts r).upTo_maintains (fetchOne_cached hr) _
  case all  => exact (dicts r).all_maintains (fetchOne_cached hr)

omit hr in
theorem onInner_cached {α : Type} {x : Proc Error τ α} (hx : x.Maintains I) (hi : I c.inner)
    (h : c.Agrees r empty (x c.inner).state) :
    I (onInner x c).state.inner ∧ (onInner x c).state.Cached r empty := by
  have hs : (onInner x c).state = c.setInner (x c.inner).state := by
    rw [onInner, Proc.zoom_apply]
    cases x c.inner <;> rfl
  rw [hs]
  exact ⟨hx _ hi, h.cached⟩

omit hr in
-- What is cached is given up where the operation succeeds.
theorem onInnerDirty_cached {α : Type} {x : Proc Error τ α} (hx : x.Maintains I) (hi : I c.inner)
    (h : (∀ a t, x c.inner ≠ .ok a t) → c.Agrees r empty (x c.inner).state) :
    I (onInnerDirty x c).state.inner ∧ (onInnerDirty x c).state.Cached r empty := by
  have hx := hx _ hi
  rw [onInnerDirty, Proc.bind_apply, onInner, Proc.zoom_apply]
  cases ho : x c.inner
  case ok a t =>
    rw [ho] at hx
    exact ⟨hx, .inl rfl⟩
  all_goals
    rw [ho] at h hx
    exact ⟨hx, (h fun _ _ he => by cases he).cached⟩

end Sound
end Labelled

theorem columnNames_length (description : Option (List ColumnDescription)) :
    (columnNames description).length = (description.getD []).length := by
  cases description
  case none   => rfl
  case some d => exact List.length_map _

variable [Libraries]

omit [Libraries] in
theorem Cursor.dictRows_sound : dictRows.Sound Columned NoRows where
  leaves c   := (Prod.mk.inj (fetchOne_leaves c)).left
  rows _ h   := h.of_eq (fetchOne_leaves _)
  none _ h   := h.of_eq (fetchOne_leaves _)
  length h hn := by
    obtain ⟨⟨rows, hrows, hrow⟩, _⟩ := fetchOne_some hn
    rw [columnNames_length]
    exact h rows hrows _ (List.mem_of_getElem? hrow)
  no_row h hn := by
    obtain ⟨⟨rows, hrows, hrow⟩, _⟩ := fetchOne_some hn
    rw [NoRows, Option.mem_def.mp hrows] at h
    rw [show rows = [] from h] at hrow
    cases hrow

theorem UnbufferedCursor.dictRows_sound : dictRows.Sound Columned NoRows where
  leaves c := undisturbed_description c.description |>.fetchOne c rfl
  rows     := undisturbed_columned.fetchOne
  none     := undisturbed_noRows.fetchOne
  length h hn := by
    obtain ⟨hexec, connection, hx, _⟩ := fetchOne_some hn
    rw [columnNames_length]
    exact Connection.nextUnbufferedRow_length _ (h hexec) hx
  no_row h hn := by
    obtain ⟨_, connection, hx, _⟩ := fetchOne_some hn
    exact Connection.nextUnbufferedRow_none h hx

namespace DictCursor

variable (captures : Text → Option InsertValues)

def after (c : DictCursor) : Cursor.Op → DictCursor
  | .execute query args          => (execute query args c).state
  | .executeMany query argsList  => (executeMany captures query argsList c).state
  | .callProcedure procname args => (callProcedure procname args c).state
  | .close                       => (close c).state
  | .nextSet                     => (nextSet c).state
  | .scroll value mode           => (scroll value mode c).state
  | .fetch fetch                 => (Labelled.fetch Cursor.dictRows fetch c).state

def step (c : DictCursor) (op : Cursor.Op) : Option DictCursor :=
  some (after captures c op)

-- The calls that may bring a new result and leave what is cached as it is: where they do, the result has the columns
-- that are cached, or no rows.
def Unchanged (c : DictCursor) (op : Cursor.Op) : Prop :=
  match op with
  | .execute query args =>
    (∀ n c', Cursor.execute query args c.inner ≠ .ok n c') →
      c.Agrees Cursor.dictRows Cursor.NoRows (Cursor.after captures c.inner op)
  | .executeMany _ _ | .callProcedure _ _ | .close =>
    c.Agrees Cursor.dictRows Cursor.NoRows (Cursor.after captures c.inner op)
  | _ => True

theorem nextSet_agrees {c : DictCursor} (h : c.Cached Cursor.dictRows Cursor.NoRows)
    (hf : ∀ b c', Cursor.nextSet c.inner ≠ .ok b c') :
    c.Agrees Cursor.dictRows Cursor.NoRows (Cursor.nextSet c.inner).state := by
  have hr : Cursor.nextSet.Retains fun c' => c'.resultSet = c.inner.resultSet := by
    refine .bind .get fun _ => .ite (.of_maintains (.pure _)) (.before ?_ fun _ _ => ⟨_, _, rfl⟩)
    exact .zoom (Q := fun _ => True) (.of_maintains fun _ _ => trivial) (fun _ _ => trivial) fun _ _ h _ => h
  have he := hr c.inner rfl hf
  exact h.agrees (Prod.mk.inj he).left fun hn => Cursor.NoRows.of_eq hn he

theorem after_cached {c : DictCursor} {op : Cursor.Op}
    (h : c.inner.Columned ∧ c.Cached Cursor.dictRows Cursor.NoRows) (hu : Unchanged captures c op) :
    (after captures c op).inner.Columned ∧ (after captures c op).Cached Cursor.dictRows Cursor.NoRows := by
  obtain ⟨hi, hc⟩ := h
  cases op
  case execute query args =>
    exact Labelled.onInnerDirty_cached (Cursor.execute_maintains query args) hi hu
  case executeMany query argsList =>
    exact Labelled.onInner_cached (Cursor.executeMany_maintains captures query argsList) hi hu
  case callProcedure procname args =>
    exact Labelled.onInner_cached (Cursor.callProcedure_maintains procname args) hi hu
  case close   => exact Labelled.onInner_cached Cursor.close_maintains hi hu
  case nextSet => exact Labelled.onInnerDirty_cached Cursor.nextSet_maintains hi (nextSet_agrees hc)
  case scroll value mode =>
    have he := Cursor.scroll_leaves value mode c.inner
    refine Labelled.onInner_cached (fun _ h => h.of_eq (Cursor.scroll_leaves value mode _)) hi ?_
    exact hc.agrees (Prod.mk.inj he).left fun hn => Cursor.NoRows.of_eq hn he
  case fetch fetch => exact Labelled.fetch_cached Cursor.dictRows_sound fetch c ⟨hi, hc⟩

end DictCursor

namespace UnbufferedDictCursor

variable (captures : Text → Option InsertValues)

def after (c : UnbufferedDictCursor) : UnbufferedCursor.Op → UnbufferedDictCursor
  | .execute query args         => (execute query args c).state
  | .executeMany query argsList => (executeMany captures query argsList c).state
  | .close                      => (close c).state
  | .nextSet                    => (nextSet c).state
  | .scroll value mode          => (scroll value mode c).state
  | .fetch fetch                => (Labelled.fetch UnbufferedCursor.dictRows fetch c).state

def step (c : UnbufferedDictCursor) (op : UnbufferedCursor.Op) : Option UnbufferedDictCursor :=
  some (after captures c op)

def Unchanged (c : UnbufferedDictCursor) (op : UnbufferedCursor.Op) : Prop :=
  match op with
  | .executeMany _ _ =>
    c.Agrees UnbufferedCursor.dictRows UnbufferedCursor.NoRows (UnbufferedCursor.after captures c.inner op)
  | _                => True

-- Where the connection does not come to a new result, there is nothing to give up.
theorem agrees_of_undisturbed {α : Type} {x : Proc Error UnbufferedCursor α} {c : UnbufferedDictCursor}
    (hx : ∀ P, UnbufferedCursor.Undisturbed P → (∀ c, P c → P { c with closed := true }) → P c.inner →
      P (x c.inner).state) (h : c.Cached UnbufferedCursor.dictRows UnbufferedCursor.NoRows) :
    c.Agrees UnbufferedCursor.dictRows UnbufferedCursor.NoRows (x c.inner).state :=
  h.agrees (hx _ (UnbufferedCursor.undisturbed_description c.inner.description) (fun _ h => h) rfl)
    (hx _ UnbufferedCursor.undisturbed_noRows fun _ h => h)

theorem after_cached {c : UnbufferedDictCursor} {op : UnbufferedCursor.Op}
    (h : c.inner.Columned ∧ c.Cached UnbufferedCursor.dictRows UnbufferedCursor.NoRows) (hu : Unchanged captures c op) :
    (after captures c op).inner.Columned ∧
      (after captures c op).Cached UnbufferedCursor.dictRows UnbufferedCursor.NoRows := by
  obtain ⟨hi, hc⟩ := h
  have hcol := UnbufferedCursor.undisturbed_columned
  cases op
  case execute query args =>
    refine Labelled.onInnerDirty_cached (UnbufferedCursor.execute_maintains query args) hi fun hf => ?_
    exact agrees_of_undisturbed (fun _ hp _ h => hp.execute query args c.inner h hf) hc
  case executeMany query argsList =>
    exact Labelled.onInner_cached (UnbufferedCursor.executeMany_maintains captures query argsList) hi hu
  case close =>
    refine Labelled.onInner_cached (hcol.close fun _ h => h) hi ?_
    exact agrees_of_undisturbed (fun _ hp hcl h => hp.close hcl c.inner h) hc
  case nextSet =>
    refine Labelled.onInnerDirty_cached UnbufferedCursor.nextSet_maintains hi fun hf => ?_
    exact agrees_of_undisturbed (fun _ hp _ h => hp.nextSet_retains c.inner h hf) hc
  case scroll value mode =>
    refine Labelled.onInner_cached (hcol.scroll value mode) hi ?_
    exact agrees_of_undisturbed (fun _ hp _ h => hp.scroll value mode c.inner h) hc
  case fetch fetch => exact Labelled.fetch_cached UnbufferedCursor.dictRows_sound fetch c ⟨hi, hc⟩

end UnbufferedDictCursor

variable (captures : Text → Option InsertValues) {connection : Connection}

theorem DictCursor.along_right {cursor : Cursor} {before ops : List Cursor.Op}
    (hb : Runs (Cursor.step captures) (.new connection) before cursor)
    (h : Along (DictCursor.step captures) (DictCursor.Unchanged captures) (Labelled.new cursor) ops) :
    Along (DictCursor.step captures) (fun c op => ∀ fetch, op = .fetch fetch → c.Right Cursor.dictRows fetch)
      (Labelled.new cursor) ops := by
  have hi : cursor.Columned := by
    refine hb.invariant (fun c op c' h hs => ?_) fun _ h => nomatch h
    exact Option.some.inj hs ▸ Cursor.after_columned captures h op
  refine Along.imp (I := fun c => c.inner.Columned ∧ c.Cached Cursor.dictRows Cursor.NoRows)
    (fun c op c' h hu hs => ?_) (fun c op h _ fetch _ => ?_) ⟨hi, Labelled.cached_new cursor⟩ h
  · exact Option.some.inj hs ▸ DictCursor.after_cached captures h hu
  · exact Labelled.right_of_cached Cursor.dictRows_sound h.left h.right fetch

theorem UnbufferedDictCursor.along_right {cursor : UnbufferedCursor} {before ops : List UnbufferedCursor.Op}
    (hb : Runs (UnbufferedCursor.step captures) (.new connection) before cursor)
    (h : Along (UnbufferedDictCursor.step captures) (UnbufferedDictCursor.Unchanged captures) (Labelled.new cursor) ops) :
    Along (UnbufferedDictCursor.step captures)
      (fun c op => ∀ fetch, op = .fetch fetch → c.Right UnbufferedCursor.dictRows fetch) (Labelled.new cursor) ops := by
  have hi : cursor.Columned := by
    refine hb.invariant (fun c op c' h hs => ?_) fun h => nomatch h
    exact Option.some.inj hs ▸ UnbufferedCursor.after_columned captures h op
  refine Along.imp (I := fun c => c.inner.Columned ∧ c.Cached UnbufferedCursor.dictRows UnbufferedCursor.NoRows)
    (fun c op c' h hu hs => ?_) (fun c op h _ fetch _ => ?_) ⟨hi, Labelled.cached_new cursor⟩ h
  · exact Option.some.inj hs ▸ UnbufferedDictCursor.after_cached captures h hu
  · exact Labelled.right_of_cached UnbufferedCursor.dictRows_sound h.left h.right fetch

-- In every sequence of calls, on any cursor, where each call that may bring a new result without giving up what is
-- cached brings one with the same columns, or without rows, every dictionary has the names of the columns.
theorem dictionaries_labelled (captures : Text → Option InsertValues) (connection : Connection) :
    (∀ before cursor ops, Runs (Cursor.step captures) (.new connection) before cursor →
      Along (DictCursor.step captures) (DictCursor.Unchanged captures) (Labelled.new cursor) ops →
      Along (DictCursor.step captures) (fun c op => ∀ fetch, op = .fetch fetch → c.Right Cursor.dictRows fetch)
        (Labelled.new cursor) ops) ∧
    (∀ before cursor ops, Runs (UnbufferedCursor.step captures) (.new connection) before cursor →
      Along (UnbufferedDictCursor.step captures) (UnbufferedDictCursor.Unchanged captures) (Labelled.new cursor) ops →
      Along (UnbufferedDictCursor.step captures)
        (fun c op => ∀ fetch, op = .fetch fetch → c.Right UnbufferedCursor.dictRows fetch) (Labelled.new cursor) ops) :=
  ⟨fun _ _ _ hb h => DictCursor.along_right captures hb h,
    fun _ _ _ hb h => UnbufferedDictCursor.along_right captures hb h⟩

omit [Libraries] in
theorem Cursor.fetchOne_row {c : Cursor} {row : Row} (he : c.executed ≠ none)
    (hr : c.rows.bind (·[c.rowNumber]?) = some row) :
    fetchOne c = .ok (some row) { c with rowNumber := c.rowNumber + 1 } := by
  simp [fetchOne, checkExecuted, he, hr]

section Examples

open Libraries Server

def noInsert : Text → Option InsertValues :=
  fun _ => none

omit [Libraries] in
theorem dictionaries_labelled_afterMany :
    let := utf8Only
    let cursor := Cursor.new (answering [.set oneRow])
    let unbuffered := UnbufferedCursor.new (answering [.set oneRow])
    Along (DictCursor.step noInsert) (fun c op => ∀ fetch, op = .fetch fetch → c.Right Cursor.dictRows fetch)
        (Labelled.new cursor) [.executeMany select [[]], .fetch .one] ∧
      Along (UnbufferedDictCursor.step noInsert)
        (fun c op => ∀ fetch, op = .fetch fetch → c.Right UnbufferedCursor.dictRows fetch)
        (Labelled.new unbuffered) [.executeMany select [[]], .fetch .one] := by
  let := utf8Only
  have ⟨h, hu⟩ := dictionaries_labelled noInsert (answering [.set oneRow])
  exact ⟨h [] _ _ (.nil _) ⟨.inl rfl, fun _ _ => ⟨trivial, fun _ _ => trivial⟩⟩,
    hu [] _ _ (.nil _) ⟨.inl rfl, fun _ _ => ⟨trivial, fun _ _ => trivial⟩⟩⟩

omit [Libraries] in
-- A fetch that fails caches that there are no columns. The row that `execute_many` brings is then given without names.
theorem dictionary_unlabelled :
    let := utf8Only
    let c := Labelled.new (Cursor.new (answering [.set oneRow]))
    let ops : List Cursor.Op := [.fetch .one, .executeMany select [[]], .fetch .one]
    ¬Along (DictCursor.step noInsert) (fun c op => ∀ fetch, op = .fetch fetch → c.Right Cursor.dictRows fetch) c ops := by
  intro this c ops h
  let cursor := Cursor.new (answering [.set oneRow])
  have hexp : (answering [.set oneRow]).Expects select [.set oneRow] :=
    answering_expects (by decide) ⟨rfl, nofun, trivial⟩ (by decide)
  obtain ⟨n, connection, _, hq, hres, _⟩ := hexp.query false
  have hm : cursor.connection.mogrify select (some []) = .ok select :=
    (mogrifyQuery_template _ ⟨select, []⟩).left [] [] rfl rfl
  have hx := Cursor.Usable.execute_ok (c := cursor) ⟨rfl, rfl⟩ hm hq
  let inner := { (cursor.setConnection connection).refreshResult with executed := some select, rowCount := 0 + n }
  have hmany : Cursor.executeMany noInsert select [[]] cursor = .ok (0 + n) inner := by
    change ((Executor.executeEach Cursor.executor select 0 [[]]) cursor).bind _ = _
    simp only [Executor.executeEach, Proc.bind_apply, Cursor.executor, hx, Outcome.bind_ok]
    rfl
  have hresult : (cursor.setConnection connection).connection.result = some _ := hres
  have hnames : columnNames inner.description = [['1']] := by
    simp only [inner, Cursor.refreshResult, hresult]
    rfl
  obtain ⟨row, hrow⟩ : ∃ row, inner.rows.bind (·[inner.rowNumber]?) = some row := by
    simp only [inner, Cursor.refreshResult, hresult]
    exact ⟨_, rfl⟩
  have hfirst : DictCursor.step noInsert c (.fetch .one) = some ⟨cursor, [], false⟩ := rfl
  have hsecond : DictCursor.step noInsert ⟨cursor, [], false⟩ (.executeMany select [[]]) = some ⟨inner, [], false⟩ := by
    simp only [DictCursor.step, DictCursor.after, DictCursor.executeMany, Labelled.onInner, Proc.zoom_apply, hmany]
    rfl
  have hright := ((h.right _ hfirst).right _ hsecond).left .one rfl
  have hfetch := Cursor.fetchOne_row (c := inner) (Option.some_ne_none _) hrow
  have hdict : Labelled.fetch Cursor.dictRows .one ⟨inner, [], false⟩ =
      .ok [dictOf [] row] ⟨{ inner with rowNumber := inner.rowNumber + 1 }, [], false⟩ := by
    rw [Labelled.fetch, Proc.bind_apply, Labelled.fetchOne_apply]
    change (((Cursor.fetchOne inner).mapState _).bind _).bind _ = _
    rw [hfetch]
    rfl
  obtain ⟨rows, _, hlabels⟩ := hright _ _ hdict
  obtain ⟨_, _, hl, _, _⟩ := List.forall₂_cons_right_iff.mp hlabels
  have hmem : ['1'] ∈ columnNames inner.description := by simp [hnames]
  exact absurd ((hl.keys ['1']).mpr hmem) Bool.false_ne_true

end Examples
end MySQL.Tokio
