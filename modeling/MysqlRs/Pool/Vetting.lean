import MysqlRs.Pool.Lifetime

namespace MySQL.Pool

variable {κ : Type} {config : PoolConfig} {P Q : κ → Prop} {s s' : State κ} {label : Label κ} {labels : List (Label κ)}

theorem mem_of_lookup {α : Type} {id : Nat} {xs : List (Nat × α)} {x : α} (h : lookup id xs = some x) :
    (id, x) ∈ xs := by
  have ⟨ys, zs, hxs, _⟩ := remove_of_lookup h
  rw [hxs]
  exact List.mem_append_right ys List.mem_cons_self

theorem mem_of_remove {α : Type} {id : Nat} {xs : List (Nat × α)} {x : Nat × α} (h : x ∈ remove id xs) : x ∈ xs :=
  List.mem_of_mem_eraseP h

namespace State

-- `P` holds of the connections that are to be handed out, and `Q` of those that are on their way back.
structure Vetted (P Q : κ → Prop) (s : State κ) : Prop where
  idle    : ∀ c ∈ s.manager.idle, P c.conn.conn
  replies : ∀ id conn, (id, .ok conn) ∈ s.replies → P conn.conn
  queue   : ∀ conn createdAt, .return_ conn createdAt ∈ s.queue → Q conn.conn
  rolling : ∀ conn createdAt, s.phase = .rollingBack conn createdAt → Q conn.conn

-- What is asked of a step: that `P` holds of a connection that has been established or rolled back, and `Q` of one
-- that is returned.
def Vets [Link κ] (P Q : κ → Prop) (config : PoolConfig) (s : State κ) : Label κ → Prop
  | .connected (.ok k)  => P k
  | .rolledBack (.ok k) => ∀ conn createdAt, s.phase = .rollingBack conn createdAt → Q conn.conn → P k
  | .drop id            =>
    ∀ pooled, lookup id s.lent = some pooled → Link.isOpen pooled.conn.conn → s.hasRoom config → Q pooled.conn.conn
  | _                   => True

theorem Vetted.reply (h : s.Vetted P Q) {id : Nat} {result : Except Error (Dated κ)}
    (hr : ∀ conn, result = .ok conn → P conn.conn) : (s.reply id result).Vetted P Q := by
  rw [State.reply]
  split
  case isTrue =>
    refine { h with replies := fun i conn hm => ?_ }
    rcases List.mem_append.mp hm with hm | hm
    · exact h.replies i conn hm
    · obtain ⟨_, hc⟩ := Prod.mk.inj (List.mem_singleton.mp hm)
      exact hr conn hc.symm
  case isFalse => exact h

theorem Vetted.send (h : s.Vetted P Q) {request : PoolRequest κ}
    (hr : ∀ conn createdAt, request = .return_ conn createdAt → Q conn.conn) : (s.send request).Vetted P Q := by
  refine { h with queue := fun conn createdAt hm => ?_ }
  rcases List.mem_append.mp hm with hm | hm
  · exact h.queue conn createdAt hm
  · exact hr conn createdAt (List.mem_singleton.mp hm).symm

-- A state with the same connections, or some of them.
theorem Vetted.subset (h : s.Vetted P Q) (hi : s'.manager.idle ⊆ s.manager.idle) (hr : s'.replies ⊆ s.replies)
    (hq : s'.queue ⊆ s.queue) (hp : ∀ conn createdAt, s'.phase = .rollingBack conn createdAt → s'.phase = s.phase) :
    s'.Vetted P Q where
  idle c hc               := h.idle c (hi hc)
  replies id conn hm      := h.replies id conn (hr hm)
  queue conn createdAt hm := h.queue conn createdAt (hq hm)
  rolling conn t ht       := h.rolling conn t ((hp conn t ht).symm.trans ht)

variable [Link κ]

theorem Vetted.receive (h : s.Vetted P Q) {request : PoolRequest κ} {queue : List (PoolRequest κ)}
    (hq : s.queue = request :: queue) : ({ s with queue }.receive config request).Vetted P Q := by
  have tail : queue ⊆ s.queue := hq ▸ List.subset_cons_self request queue
  cases request
  case acquire id =>
    have ha := handleAcquire_acquired config s.now s.manager
    simp only [State.receive]
    generalize handleAcquire config s.now s.manager = x at ha ⊢
    obtain ⟨answer, manager⟩ := x
    cases ha
    case idle c idle hs _ =>
      have hc : P c.conn.conn := h.idle c (hs.subset List.mem_cons_self)
      refine Vetted.reply ?_ fun conn hr => Except.ok.inj hr ▸ hc
      exact h.subset (fun _ hm => hs.subset (List.mem_cons_of_mem c hm)) (List.Subset.refl _) tail fun _ _ _ => rfl
    case connect   => exact h.subset (List.nil_subset _) (List.Subset.refl _) tail (by rintro _ _ ⟨⟩)
    case exhausted =>
      refine Vetted.reply ?_ (by rintro _ ⟨⟩)
      exact h.subset (List.nil_subset _) (List.Subset.refl _) tail fun _ _ _ => rfl
  case return_ conn createdAt =>
    have hc : Q conn.conn := h.queue conn createdAt (hq ▸ List.mem_cons_self)
    simp only [State.receive]
    split
    case isTrue  => exact ⟨h.idle, h.replies, fun c t hm => h.queue c t (tail hm), fun c t ht => by cases ht; exact hc⟩
    case isFalse => exact h.subset (List.Subset.refl _) (List.Subset.refl _) tail fun _ _ _ => rfl
  case close => exact h.subset (List.Subset.refl _) (List.Subset.refl _) tail (by rintro _ _ ⟨⟩)

theorem Vetted.step (h : s.Vetted P Q) (hv : s.Vets P Q config label) (hs : s.step config label = some s') :
    s'.Vetted P Q := by
  cases step_stepped hs
  case sendAcquire | sendClose =>
    refine Vetted.send ?_ (by rintro _ _ ⟨⟩)
    exact ⟨h.idle, h.replies, h.queue, h.rolling⟩
  case receive hp hq => exact h.receive hq
  case connected id result hp =>
    refine Vetted.reply ?_ fun conn hr => ?_
    case refine_1 => exact ⟨h.idle, h.replies, h.queue, by rintro _ _ ⟨⟩⟩
    case refine_2 =>
      cases result
      case ok k    => cases hr; exact hv
      case error e => cases hr
  case rolledBack conn createdAt k hp =>
    have hk : P k := hv conn createdAt hp (h.rolling conn createdAt hp)
    refine ⟨fun c hc => ?_, h.replies, h.queue, by rintro _ _ ⟨⟩⟩
    simp only [returnIdle] at hc
    split at hc
    case isTrue  => exact h.idle c hc
    case isFalse =>
      cases hc
      case head    => exact hk
      case tail hc => exact h.idle c hc
  case notRolledBack => exact ⟨h.idle, h.replies, h.queue, by rintro _ _ ⟨⟩⟩
  case tick          => exact ⟨fun c hc => h.idle c (List.mem_of_mem_filter hc), h.replies, h.queue, h.rolling⟩
  case closeIdle     => exact ⟨fun c hc => h.idle c ((List.dropLast_sublist _).subset hc), h.replies, h.queue, h.rolling⟩
  case stop          => exact ⟨h.idle, h.replies, by rintro _ _ ⟨⟩, by rintro _ _ ⟨⟩⟩
  case collect | refused | giveUp =>
    exact ⟨h.idle, fun id conn hm => h.replies id conn (mem_of_remove hm), h.queue, h.rolling⟩
  case drop id pooled hl =>
    have hs : ({ s with lent := remove id s.lent } : State κ).Vetted P Q := ⟨h.idle, h.replies, h.queue, h.rolling⟩
    rw [dropLent]
    split
    case isTrue hr =>
      obtain ⟨ho, hr⟩ := Bool.and_eq_true_iff.mp hr
      refine hs.send fun conn createdAt hc => ?_
      cases hc
      exact hv pooled hl ho hr
    case isFalse => exact hs
  all_goals exact ⟨h.idle, h.replies, h.queue, h.rolling⟩

-- Along a run in which `P` holds of what is established and rolled back, and `Q` of what is returned, `P` holds of
-- what is handed out.
theorem Vetted.run (hs : s.Vetted P Q) (hv : Along (State.step config) (State.Vets P Q config) s labels)
    (hr : Runs (State.step config) s labels s') : s'.Vetted P Q :=
  hv.invariant (fun _ _ _ h hv hs => h.step hv hs) hs hr

end State

theorem Started.vetted [Link κ] (hs : Started config s) (hi : ∀ c ∈ s.manager.idle, P c.conn.conn) : s.Vetted P Q := by
  have ⟨manager, connects, now, _, _, _, hinit⟩ := hs.initial
  subst hinit
  exact ⟨hi, by rintro _ _ ⟨⟩, by rintro _ _ ⟨⟩, by rintro _ _ ⟨⟩⟩

end MySQL.Pool
