import Mathlib.Data.List.Nodup
import MysqlRs.Pool.Queueing

namespace MySQL.Pool

variable {κ τ : Type}

def PoolRequest.conn : PoolRequest κ → Option κ
  | .return_ conn _ => some conn.conn
  | _               => none

def Phase.conn : Phase κ → Option κ
  | .rollingBack conn _ => some conn.conn
  | _                   => none

def replied : Nat × Except Error (Dated κ) → Option κ
  | (_, .ok conn) => some conn.conn
  | _             => none

section Simp

variable (id createdAt : Nat) (conn : Dated κ) (e : Error)

@[simp] theorem PoolRequest.conn_acquire : (acquire id : PoolRequest κ).conn = none := rfl

@[simp] theorem PoolRequest.conn_return : (return_ conn createdAt).conn = some conn.conn := rfl

@[simp] theorem PoolRequest.conn_close : (close : PoolRequest κ).conn = none := rfl

@[simp] theorem Phase.conn_receiving : (receiving : Phase κ).conn = none := rfl

@[simp] theorem Phase.conn_connecting : (connecting id : Phase κ).conn = none := rfl

@[simp] theorem Phase.conn_rollingBack : (rollingBack conn createdAt).conn = some conn.conn := rfl

@[simp] theorem Phase.conn_closing : (closing : Phase κ).conn = none := rfl

@[simp] theorem Phase.conn_gone : (gone : Phase κ).conn = none := rfl

@[simp] theorem replied_ok : replied (id, .ok conn) = some conn.conn := rfl

@[simp] theorem replied_error : replied (κ := κ) (id, .error e) = none := rfl

end Simp

namespace State

-- Wherever the pool and its borrowers have a connection.
def held (s : State κ) : List κ :=
  s.manager.idle.map (·.conn.conn) ++ s.replies.filterMap replied ++ s.queue.filterMap (·.conn) ++ s.phase.conn.toList ++
    s.lent.map (·.2.conn.conn)

-- Every connection is established anew, and whoever uses it or rolls it back has the same connection afterwards. What
-- tells connections apart is `tag`.
def Keeps (tag : κ → τ) (s : State κ) : Label κ → Prop
  | .connected (.ok k)  => tag k ∉ s.held.map tag
  | .rolledBack (.ok k) => ∀ conn createdAt, s.phase = .rollingBack conn createdAt → tag k = tag conn.conn
  | .use id k           => ∀ pooled, lookup id s.lent = some pooled → tag k = tag pooled.conn.conn
  | _                   => True

variable {s s' : State κ} {p : κ → Bool}

-- How many of them meet `p`.
def copies (p : κ → Bool) (s : State κ) : Nat :=
  s.held.countP p

theorem copies_eq : s.copies p =
    s.manager.idle.countP (p ·.conn.conn) + s.replies.countP (fun r => (replied r).any p) + s.queue.countP (·.conn.any p) +
      (s.phase.conn.any p).toNat + s.lent.countP (p ·.2.conn.conn) := by
  have any (o : Option κ) : (o.map p).getD false = o.any p := by cases o <;> rfl
  have toList (o : Option κ) : o.toList.countP p = (o.any p).toNat := by
    cases o
    case none   => rfl
    case some k => cases hk : p k <;> simp [hk]
  simp only [copies, held, List.countP_append, List.countP_map, List.countP_filterMap, Function.comp_def, any, toList]

-- A connection that is sent to an acquirer is there if the acquirer is.
theorem copies_reply (id : Nat) (result : Except Error (Dated κ)) :
    (s.reply id result).copies p ≤ s.copies p + ((replied (id, result)).any p).toNat := by
  rw [reply]
  split
  case isFalse => exact Nat.le_add_right _ _
  case isTrue  =>
    simp only [copies_eq, List.countP_append, List.countP_singleton]
    cases (replied (id, result)).any p
    all_goals
      simp
      try omega

variable [Link κ] {config : PoolConfig} {label : Label κ}

theorem copies_receive {request : PoolRequest κ} {queue : List (PoolRequest κ)} (hp : s.phase = .receiving)
    (hq : s.queue = request :: queue) : ({ s with queue }.receive config request).copies p ≤ s.copies p := by
  have hc : s.queue.countP (·.conn.any p) = queue.countP (·.conn.any p) + (request.conn.any p).toNat := by
    rw [hq, List.countP_cons]
    cases request.conn.any p <;> rfl
  rw [copies_eq (s := s), hp, hc]
  cases request
  case acquire id =>
    have ha := handleAcquire_acquired config s.now s.manager
    simp only [receive]
    generalize handleAcquire config s.now s.manager = x at ha ⊢
    obtain ⟨answer, manager⟩ := x
    cases ha
    case idle c idle hs _ =>
      have hi := hs.sublist.countP_le (p := fun c => p c.conn.conn)
      rw [List.countP_cons] at hi
      refine Nat.le_trans (copies_reply id _) ?_
      rw [copies_eq]
      cases hk : p c.conn.conn
      all_goals
        simp [hk] at hi ⊢
        omega
    case connect   =>
      rw [copies_eq]
      simp
    case exhausted =>
      refine Nat.le_trans (copies_reply id _) ?_
      rw [copies_eq]
      simp
  case return_ conn createdAt =>
    simp only [receive]
    split
    all_goals
      rw [copies_eq]
      simp [handleReturn]
      try omega
  case close =>
    rw [receive, copies_eq]
    simp

omit [Link κ] in
theorem copies_remove_lent {id : Nat} {pooled : PooledConnection κ} (hl : lookup id s.lent = some pooled) :
    ({ s with lent := remove id s.lent } : State κ).copies p + (p pooled.conn.conn).toNat = s.copies p := by
  have hc := countP_remove (p ·.2.conn.conn) hl
  rw [copies_eq, copies_eq]
  cases hp : p pooled.conn.conn
  all_goals
    simp [hp] at hc ⊢
    omega

omit [Link κ] in
theorem copies_remove_replies {id : Nat} {result : Except Error (Dated κ)} (hl : lookup id s.replies = some result)
    (waiting : List Nat) :
    ({ s with replies := remove id s.replies, waiting } : State κ).copies p + ((replied (id, result)).any p).toNat =
      s.copies p := by
  have hc := countP_remove (fun r => (replied r).any p) hl
  rw [copies_eq, copies_eq]
  cases hp : (replied (id, result)).any p
  all_goals
    simp [hp] at hc ⊢
    omega

variable {tag : κ → τ} [DecidableEq τ] {t : τ}

omit [Link κ] in
theorem copies_use (hq : s.Queues) {id : Nat} {k : κ} {pooled : PooledConnection κ}
    (hl : lookup id s.lent = some pooled) (hk : tag k = tag pooled.conn.conn) :
    ({ s with
      lent := s.lent.map fun (i, p) => if i = id then (i, ⟨⟨k, p.conn.established⟩, p.createdAt⟩) else (i, p) }
      : State κ).copies (tag · = t) = s.copies (tag · = t) := by
  rw [copies_eq, copies_eq]
  refine congrArg _ ?_
  rw [List.countP_map]
  refine List.countP_congr fun x hx => ?_
  by_cases hi : x.1 = id
  case neg => simp [hi]
  case pos =>
    have : x.2 = pooled := by
      have ⟨ys, zs, hxs, hr⟩ := remove_of_lookup hl
      by_contra hne
      refine not_mem_remove hq.lent hl (List.mem_map.mpr ⟨x, ?_, hi⟩)
      rw [hxs] at hx
      rw [hr]
      rcases List.mem_append.mp hx with hx | hx
      · exact List.mem_append_left _ hx
      · refine List.mem_append_right _ ((List.mem_cons.mp hx).resolve_left ?_)
        rintro rfl
        exact hne rfl
    simp [hi, this, hk]

-- A step makes no copies. What it has established has not been there before.
theorem copies_step (hq : s.Queues) (hk : s.Keeps tag label) (hs : s.step config label = some s') :
    s'.copies (tag · = t) ≤ s.copies (tag · = t) ∨ s.copies (tag · = t) = 0 ∧ s'.copies (tag · = t) ≤ 1 := by
  cases step_stepped hs
  case sendAcquire | sendClose =>
    left
    rw [copies_eq, copies_eq]
    simp [State.send]
  case receive hp hqueue => exact .inl (copies_receive hp hqueue)
  case connected id result hp =>
    have hr := copies_reply (s := { s with phase := .receiving }) (p := (tag · = t)) id (result.map (⟨·, s.now⟩))
    have hc : ({ s with phase := .receiving } : State κ).copies (tag · = t) = s.copies (tag · = t) := by
      rw [copies_eq, copies_eq, hp]
      rfl
    rw [hc] at hr
    cases result
    case error e => exact .inl (by simpa [Except.map] using hr)
    case ok k    =>
      by_cases ht : tag k = t
      case neg => exact .inl (by simpa [Except.map, ht] using hr)
      case pos =>
        have h0 : s.copies (tag · = t) = 0 := by
          refine List.countP_eq_zero.mpr fun k' hm hk' => hk (List.mem_map.mpr ⟨k', hm, ?_⟩)
          exact (of_decide_eq_true hk').trans ht.symm
        refine .inr ⟨h0, ?_⟩
        simpa [Except.map, ht, h0] using hr
  case rolledBack conn createdAt k hp =>
    have ht : tag k = tag conn.conn := hk conn createdAt hp
    left
    rw [copies_eq, copies_eq, hp, returnIdle]
    by_cases hc : tag conn.conn = t
    all_goals
      split
      all_goals
        simp [ht, hc]
        try omega
  case notRolledBack hp =>
    left
    rw [copies_eq, copies_eq, hp]
    simp
  case tick =>
    left
    have hc := (List.filter_sublist (p := fun c : IdleConnection κ =>
      !decide (config.maxIdleTime ≤ s.now - c.idleSince) && !decide (config.maxLifetime ≤ s.now - c.createdAt))
      (l := s.manager.idle)).countP_le (p := fun c => decide (tag c.conn.conn = t))
    rw [copies_eq, copies_eq]
    simp only [evictExpired]
    omega
  case closeIdle =>
    left
    have hc := (List.dropLast_sublist s.manager.idle).countP_le (p := fun c => decide (tag c.conn.conn = t))
    rw [copies_eq, copies_eq]
    simp only
    omega
  case stop hp hi =>
    left
    rw [copies_eq, copies_eq, hp]
    simp
  case collect id conn hl =>
    have hc := copies_remove_replies (p := (tag · = t)) hl (s.waiting.erase id)
    left
    rw [← hc, copies_eq, copies_eq]
    by_cases ht : tag conn.conn = t
    all_goals
      simp [ht]
      try omega
  case refused id e hl =>
    have hc := copies_remove_replies (p := (tag · = t)) hl (s.waiting.erase id)
    exact .inl (Nat.le.intro hc)
  case giveUp id hw =>
    left
    have hc := (remove_sublist id s.replies).countP_le (p := fun r => (replied r).any (tag · = t))
    rw [copies_eq, copies_eq]
    simp only
    omega
  case use id k pooled hl     => exact .inl (Nat.le_of_eq (copies_use hq hl (hk pooled hl)))
  case discard id pooled hl   => exact .inl (Nat.le.intro (copies_remove_lent hl))
  case drop id pooled hl      =>
    have hc := copies_remove_lent (p := (tag · = t)) hl
    left
    rw [← hc, dropLent]
    split
    case isFalse => exact Nat.le_add_right _ _
    case isTrue  =>
      rw [copies_eq, copies_eq]
      by_cases ht : tag pooled.conn.conn = t
      all_goals
        simp [State.send, ht]
        try omega
  all_goals exact .inl (Nat.le_refl _)

omit [Link κ] in
theorem held_nodup_iff : (s.held.map tag).Nodup ↔ ∀ t, s.copies (tag · = t) ≤ 1 := by
  have hc (t : τ) : (s.held.map tag).count t = s.copies (tag · = t) := by
    rw [List.count, List.countP_map]
    rfl
  simp only [List.nodup_iff_count_le_one, hc]

end State

variable [Link κ] {config : PoolConfig} {s s' : State κ} {labels : List (Label κ)} {tag : κ → τ}

-- No connection is ever in two places: what one borrower has is neither idle, nor on its way to another acquirer, nor
-- with another borrower.
theorem held_once (hs : Started config s) (hi : (s.held.map tag).Nodup)
    (hk : Along (State.step config) (State.Keeps tag) s labels) (hr : Runs (State.step config) s labels s') :
    (s'.held.map tag).Nodup := by
  classical
  rw [State.held_nodup_iff] at hi ⊢
  refine (hk.invariant (I := fun s => s.Queues ∧ ∀ t, s.copies (tag · = t) ≤ 1) ?_ ⟨hs.queues, hi⟩ hr).right
  rintro s label s' ⟨hq, hc⟩ hk h
  refine ⟨hq.step h, fun t => ?_⟩
  obtain hle | ⟨_, hle⟩ := State.copies_step (t := t) hq hk h
  · exact Nat.le_trans hle (hc t)
  · exact hle

section Examples

-- A server tells its connections apart by their threads.
def onThread (n : UInt32) : Tokio.Connection :=
  { quiet with inner := { quiet.inner with serverThreadId := n } }

def pair : PoolConfig :=
  { PoolConfig.default with maxSize := 2, minIdle := 0 }

-- The first acquirer has returned its connection, and it is handed out again while another one is lent.
abbrev handedOn : List (Label Tokio.Connection) :=
  [.reserve, .sendAcquire, .receive, .connected (.ok (onThread 7)), .collect 0, .reserve, .sendAcquire, .receive,
    .connected (.ok (onThread 8)), .collect 1, .drop 0, .receive, .rolledBack (.ok (onThread 7)), .reserve, .sendAcquire,
    .receive, .collect 2]

theorem handedOn_once :
    ∃ s', Runs (State.step pair) empty handedOn s' ∧ s'.held.map (·.inner.serverThreadId) = [8, 7] ∧
      (s'.held.map (·.inner.serverThreadId)).Nodup :=
  have hs : Started pair empty :=
    ⟨⟨[], 0⟩, [], 0, start_ok.mpr ⟨Nat.two_pos, Nat.zero_le _, rfl, rfl⟩, rfl, List.forall_mem_nil _, rfl⟩
  have hr := .cons rfl <| .cons rfl <| .cons rfl <| .cons rfl <| .cons rfl <| .cons rfl <| .cons rfl <| .cons rfl <|
    .cons rfl <| .cons rfl <| .cons rfl <| .cons rfl <| .cons rfl <| .cons rfl <| .cons rfl <| .cons rfl <|
    .cons rfl <| .nil _
  have hk := .cons rfl trivial <| .cons rfl trivial <| .cons rfl trivial <| .cons rfl (show (7 : UInt32) ∉ [] by decide) <|
    .cons rfl trivial <| .cons rfl trivial <| .cons rfl trivial <| .cons rfl trivial <|
    .cons rfl (show (8 : UInt32) ∉ [7] by decide) <| .cons rfl trivial <|
    .cons rfl trivial <| .cons rfl trivial <| .cons rfl (fun _ _ h => by cases h; rfl) <| .cons rfl trivial <|
    .cons rfl trivial <| .cons rfl trivial <| .cons rfl trivial trivial
  ⟨_, hr, rfl, held_once hs .nil hk hr⟩

end Examples
end MySQL.Pool
