import Mathlib.Order.Basic
import MysqlRs.Library.Outcome

-- Something that hands out items one by one and cannot go on doing so forever without its
-- environment.
structure Source (ε σ ι : Type) where
  {μ : Type}
  [wf : WellFoundedRelation μ]
  next : Proc ε σ ι
  measure : σ → μ
  decreasing {s i s'} : next s = .ok i s' → wf.rel (measure s') (measure s)

namespace Source

variable {ε σ τ ι α : Type} (src : Source ε σ ι)

-- Takes items one after another and hands each to `step`, until that gives a value.
def feed (step : ι → σ → Proc ε τ (Option α)) : Proc ε (τ × σ) α := fun (t, s) =>
  match _h : src.next s with
  | .ok i s'    =>
    match step i s' t with
    | .ok (some a) t' => .ok a (t', s')
    | .ok none t'     => feed step (t', s')
    | .error e t'     => .error e (t', s')
    | .pending t'     => .pending (t', s')
  | .error e s' => .error e (t, s')
  | .pending s' => .pending (t, s')
termination_by x => src.wf.wf.wrap (src.measure x.2)
decreasing_by exact src.decreasing _h

-- `feed` for a `step` with a state of its own, which is lost unless it gives a value.
def feedLocal (step : ι → σ → Proc ε τ (Option α)) (t : τ) : Proc ε σ (α × τ) := fun s =>
  match src.feed step (t, s) with
  | .ok a (t, s)    => .ok (a, t) s
  | .error e (_, s) => .error e s
  | .pending (_, s) => .pending s

-- `feed` for a `step` that works on a component of the state.
def feedWithin (get : σ → τ) (put : τ → σ → σ) (step : ι → σ → Proc ε τ (Option α)) :
    Proc ε σ α := fun s =>
  (src.feed step (get s, s)).mapState fun (t, s) => put t s

section Decreasing

variable {β : Type} [Preorder β] {m : σ → β} (hm : ∀ {s i s'}, src.next s = .ok i s' → m s' < m s)

include hm

-- Where every item makes `m` smaller, so does feeding.
theorem feed_lt {step : ι → σ → Proc ε τ (Option α)} {x y : τ × σ} {a : α}
    (h : src.feed step x = .ok a y) : m y.2 < m x.2 := by
  fun_induction feed src step x
  case case1 hn _ _ _ =>
    obtain ⟨_, rfl⟩ := Outcome.ok.inj h
    exact hm hn
  case case2 hn _ _ ih => exact lt_trans (ih h) (hm hn)
  all_goals exact nomatch h

theorem feedLocal_lt {step : ι → σ → Proc ε τ (Option α)} {t : τ} {s s' : σ} {a : α × τ}
    (h : src.feedLocal step t s = .ok a s') : m s' < m s := by
  rw [feedLocal] at h
  split at h
  case h_1 hf =>
    obtain ⟨_, rfl⟩ := Outcome.ok.inj h
    exact src.feed_lt hm hf
  all_goals exact nomatch h

theorem feedWithin_lt {get : σ → τ} {put : τ → σ → σ} (hp : ∀ t s, m (put t s) = m s)
    {step : ι → σ → Proc ε τ (Option α)} {s s' : σ} {a : α}
    (h : src.feedWithin get put step s = .ok a s') : m s' < m s := by
  rw [feedWithin] at h
  cases hf : src.feed step (get s, s)
  case ok a y =>
    rw [hf] at h
    obtain ⟨_, rfl⟩ := Outcome.ok.inj h
    rw [hp]
    exact src.feed_lt hm hf
  all_goals
    rw [hf] at h
    exact nomatch h

end Decreasing

-- What taking an item leaves as it is, feeding does.
theorem feed_leaves {δ : Type} {f : σ → δ} (hn : src.next.Leaves f) (step : ι → σ → Proc ε τ (Option α))
    (x : τ × σ) : f (src.feed step x).state.2 = f x.2 := by
  have next {s : σ} {o : Outcome ε σ ι} (h : src.next s = o) : f o.state = f s := h ▸ hn s
  fun_induction feed src step x
  case case2 h _ _ ih => exact ih.trans (next h)
  all_goals exact next ‹_›

theorem feedLocal_leaves {δ : Type} {f : σ → δ} (hn : src.next.Leaves f)
    (step : ι → σ → Proc ε τ (Option α)) (t : τ) : (src.feedLocal step t).Leaves f := by
  intro s
  have h := src.feed_leaves hn step (t, s)
  rw [feedLocal]
  cases hf : src.feed step (t, s)
  all_goals
    rw [hf] at h
    exact h

-- What taking an item maintains, feeding does.
theorem feedLocal_maintains {P : σ → Prop} (hn : src.next.Maintains P) (step : ι → σ → Proc ε τ (Option α)) (t : τ) :
    (src.feedLocal step t).Maintains P := by
  have next {s : σ} {o : Outcome ε σ ι} (hs : P s) (h : src.next s = o) : P o.state := h ▸ hn s hs
  have feed (x : τ × σ) (hx : P x.2) : P (src.feed step x).state.2 := by
    fun_induction Source.feed src step x
    case case2 h _ _ ih => exact ih (next hx h)
    all_goals exact next hx ‹_›
  intro s hs
  have h := feed (t, s) hs
  rw [feedLocal]
  cases hf : src.feed step (t, s)
  all_goals
    rw [hf] at h
    exact h

-- What each step maintains of its own state, feeding does.
theorem feed_maintains {T : τ → Prop} {step : ι → σ → Proc ε τ (Option α)} (hs : ∀ i s, (step i s).Maintains T)
    (x : τ × σ) (h : T x.1) : T (src.feed step x).state.1 := by
  have stepped {i s t} {o : Outcome ε τ (Option α)} (ht : T t) (ho : step i s t = o) : T o.state := ho ▸ hs i s t ht
  fun_induction feed src step x
  case case1 ho       => exact stepped h ho
  case case2 ho ih    => exact ih (stepped h ho)
  case case3 ho       => exact stepped h ho
  case case4 ho       => exact stepped h ho
  case case5          => exact h
  case case6          => exact h

theorem feedLocal_ok_maintains {T : τ → Prop} {step : ι → σ → Proc ε τ (Option α)}
    (hs : ∀ i s, (step i s).Maintains T) {t t' : τ} {s s' : σ} {a : α} (ht : T t)
    (h : src.feedLocal step t s = .ok (a, t') s') : T t' := by
  have hm := src.feed_maintains hs (t, s) ht
  rw [feedLocal] at h
  cases hf : src.feed step (t, s)
  case ok a y =>
    rw [hf] at h hm
    obtain ⟨hx, rfl⟩ := Outcome.ok.inj h
    obtain ⟨rfl, rfl⟩ := Prod.mk.inj hx
    exact hm
  all_goals
    rw [hf] at h
    cases h

-- Feeding within the state leads from states with `P` to such states.
theorem feedWithin_maintains {P : σ → Prop} {T : σ → τ → Prop} {δ : Type} {f : σ → δ} (hn : src.next.Leaves f)
    {get : σ → τ} {put : τ → σ → σ} {step : ι → σ → Proc ε τ (Option α)}
    (hs : ∀ s i s', (step i s').Maintains (T s)) (hg : ∀ s, P s → T s (get s))
    (hp : ∀ s s' t, f s' = f s → P s → T s t → P (put t s')) : (src.feedWithin get put step).Maintains P := by
  intro s h
  have hm := src.feed_maintains (hs s) (get s, s) (hg s h)
  have hl := src.feed_leaves hn step (get s, s)
  rw [feedWithin]
  cases hf : src.feed step (get s, s)
  all_goals
    rw [hf] at hm hl
    exact hp s _ _ hl h hm

-- The items `is` are the next ones, and having taken them leads to the last state.
inductive Supplies : σ → List ι → σ → Prop
  | nil (s) : Supplies s [] s
  | cons {s i s₁ is s₂} : src.next s = .ok i s₁ → Supplies s₁ is s₂ → Supplies s (i :: is) s₂

-- `step` on a list of items. Gives the value with the items that are left over.
def feedList (step : ι → Proc ε τ (Option α)) : List ι → Proc ε τ (Option (α × List ι))
  | []      => pure none
  | i :: is => do
    match ← step i with
    | some a => return some (a, is)
    | none   => feedList step is

section FeedList

variable (step : ι → Proc ε τ (Option α)) {i : ι} {is : List ι} {t t' : τ}

theorem feedList_none (h : step i t = .ok none t') :
    feedList step (i :: is) t = feedList step is t' := by
  rw [feedList, Proc.bind_apply, h]
  rfl

theorem feedList_some {a : α} (h : step i t = .ok (some a) t') :
    feedList step (i :: is) t = .ok (some (a, is)) t' := by
  rw [feedList, Proc.bind_apply, h]
  rfl

theorem feedList_append (is js : List ι) (t : τ) :
    feedList step (is ++ js) t =
      (feedList step is t).bind fun
        | none           => feedList step js
        | some (a, rest) => pure (some (a, rest ++ js)) := by
  induction is generalizing t
  case nil          => rfl
  case cons i is ih =>
    rw [List.cons_append, feedList, feedList, Proc.bind_apply, Proc.bind_apply, Outcome.bind_assoc]
    congr 1
    funext r t
    cases r
    case none   => exact ih t
    case some _ => rfl

variable {step}

theorem feedList_none_left {is js : List ι} (h : feedList step (is ++ js) t = .ok none t') :
    ∃ t', feedList step is t = .ok none t' := by
  rw [feedList_append] at h
  have ⟨r, t₁, h₁, h₂⟩ := Outcome.bind_eq_ok.mp h
  cases r
  case none   => exact ⟨t₁, h₁⟩
  case some _ => exact nomatch h₂

-- A value that needs some of the items `js` is not given before.
theorem feedList_incomplete {is js rest : List ι} {a : α}
    (h : feedList step (is ++ js) t = .ok (some (a, rest)) t') (hl : rest.length < js.length) :
    ∃ t', feedList step is t = .ok none t' := by
  rw [feedList_append] at h
  have ⟨r, t₁, h₁, h₂⟩ := Outcome.bind_eq_ok.mp h
  cases r
  case none    => exact ⟨t₁, h₁⟩
  case some ar =>
    obtain ⟨hr, _⟩ := Outcome.ok.inj h₂
    obtain ⟨_, rfl⟩ := Prod.mk.inj (Option.some.inj hr)
    rw [List.length_append] at hl
    omega

end FeedList

variable {src}

namespace Supplies

theorem append {s₁ s₂ s₃ is js} (h₁ : src.Supplies s₁ is s₂) (h₂ : src.Supplies s₂ js s₃) :
    src.Supplies s₁ (is ++ js) s₃ := by
  induction h₁
  case nil         => exact h₂
  case cons h _ ih => exact .cons h (ih h₂)

theorem nil_eq {s s'} (h : src.Supplies s [] s') : s = s' := by
  cases h
  rfl

theorem split {s s' is js} (h : src.Supplies s (is ++ js) s') :
    ∃ s₁, src.Supplies s is s₁ ∧ src.Supplies s₁ js s' := by
  induction is generalizing s
  case nil => exact ⟨s, .nil s, h⟩
  case cons ih =>
    obtain ⟨⟩ | ⟨h, hs⟩ := h
    have ⟨s₁, h₁, h₂⟩ := ih hs
    exact ⟨s₁, .cons h h₁, h₂⟩

-- The items that are supplied first are determined.
theorem comparable {s s₁ s₂ is js} (h₁ : src.Supplies s is s₁) (h₂ : src.Supplies s js s₂) :
    ∃ xs ys, is ++ xs = js ++ ys := by
  induction h₁ generalizing js
  case nil => exact ⟨js, [], (List.append_nil js).symm⟩
  case cons i _ is _ h _ ih =>
    cases h₂
    case nil         => exact ⟨[], i :: is, List.append_nil _⟩
    case cons h' h₂ =>
      obtain ⟨rfl, rfl⟩ := Outcome.ok.inj (h.symm.trans h')
      have ⟨xs, ys, hxy⟩ := ih h₂
      exact ⟨xs, ys, congrArg (i :: ·) hxy⟩

theorem invariant {P : σ → Prop} (hP : ∀ {s i s'}, src.next s = .ok i s' → P s → P s') {s is s'}
    (h : src.Supplies s is s') (hs : P s) : P s' := by
  induction h
  case nil         => exact hs
  case cons h _ ih => exact ih (hP h hs)

end Supplies

section Feed

variable (src) {step : ι → σ → Proc ε τ (Option α)} {s s' : σ} {t : τ}

theorem feed_ok {i : ι} (h : src.next s = .ok i s') :
    src.feed step (t, s) = match step i s' t with
      | .ok (some a) t' => .ok a (t', s')
      | .ok none t'     => src.feed step (t', s')
      | .error e t'     => .error e (t', s')
      | .pending t'     => .pending (t', s') := by
  rw [feed]
  split <;> simp_all

theorem feed_next_error {e : ε} (h : src.next s = .error e s') :
    src.feed step (t, s) = .error e (t, s') := by
  rw [feed]
  split <;> simp_all

theorem feed_next_pending (h : src.next s = .pending s') :
    src.feed step (t, s) = .pending (t, s') := by
  rw [feed]
  split <;> simp_all

theorem feedLocal_ok {i : ι} (h : src.next s = .ok i s') :
    src.feedLocal step t s = match step i s' t with
      | .ok (some a) t' => .ok (a, t') s'
      | .ok none t'     => src.feedLocal step t' s'
      | .error e _      => .error e s'
      | .pending _      => .pending s' := by
  rw [feedLocal, src.feed_ok h]
  cases step i s' t
  case ok r _ => cases r <;> rfl
  all_goals rfl

end Feed

section Supplied

variable {step : ι → Proc ε τ (Option α)} {s s' : σ} {t t' : τ} {is : List ι}

-- The items that the source supplies are handed over like a list.
theorem Supplies.feed_exhausted (h : src.Supplies s is s') (hf : feedList step is t = .ok none t') :
    src.feed (fun i _ => step i) (t, s) = src.feed (fun i _ => step i) (t', s') := by
  induction h generalizing t
  case nil =>
    cases hf
    rfl
  case cons h _ ih =>
    rw [src.feed_ok h]
    have ⟨r, t₁, h₁, h₂⟩ := Outcome.bind_eq_ok.mp hf
    rw [h₁]
    cases r
    case none   => exact ih h₂
    case some _ => exact nomatch h₂

theorem Supplies.feed_some {rest : List ι} {a : α} (h : src.Supplies s is s')
    (hf : feedList step is t = .ok (some (a, rest)) t') :
    ∃ used s₁, is = used ++ rest ∧ src.Supplies s used s₁ ∧ src.Supplies s₁ rest s' ∧
      src.feed (fun i _ => step i) (t, s) = .ok a (t', s₁) := by
  induction h generalizing t
  case nil => exact nomatch hf
  case cons i _ _ _ h hs' ih =>
    rw [src.feed_ok h]
    have ⟨r, t₁, h₁, h₂⟩ := Outcome.bind_eq_ok.mp hf
    rw [h₁]
    cases r
    case none =>
      have ⟨used, s₃, hu, h₃, h₄, h₅⟩ := ih h₂
      exact ⟨i :: used, s₃, by rw [hu, List.cons_append], .cons h h₃, h₄, h₅⟩
    case some a' =>
      obtain ⟨hr, rfl⟩ := Outcome.ok.inj h₂
      obtain ⟨rfl, rfl⟩ := Prod.mk.inj (Option.some.inj hr)
      exact ⟨[i], _, rfl, .cons h (.nil _), hs', rfl⟩

end Supplied

section Holding

variable {κ : Type} {hold : List κ → σ} {f : κ → ι} {e : ε}

-- All that the source has to hand out is the list that it holds.
structure Holds (src : Source ε σ ι) (hold : List κ → σ) (f : κ → ι) (e : ε) : Prop where
  next (k ks) : src.next (hold (k :: ks)) = .ok (f k) (hold ks)
  nil         : src.next (hold []) = .error e (hold [])

-- The value that comes of the list. Without one, the source is asked for more than it has.
def handOver (e : ε) : Option (α × List κ) → Proc ε τ (α × τ)
  | some (a, _) => fun t => .ok (a, t) t
  | none        => .throw e

variable (h : src.Holds hold f e) (step : ι → σ → Proc ε τ (Option α)) {step' : κ → Proc ε τ (Option α)}
  (hs : ∀ k ks, step (f k) (hold ks) = step' k)

include h hs

-- What comes of the list and what is left of it.
theorem Holds.feedLocal (ks : List κ) (t : τ) :
    ∃ left,
      src.feedLocal step t (hold ks) =
        ((feedList step' ks t).bind (handOver e)).mapState (fun _ => hold left) ∧
      ∀ t', (feedList step' ks t = .ok none t' → left = []) ∧
        ∀ a rest, feedList step' ks t = .ok (some (a, rest)) t' → left = rest := by
  induction ks generalizing t
  case nil =>
    refine ⟨[], ?_, fun _ => ⟨fun _ => rfl, fun _ _ => (nomatch ·)⟩⟩
    rw [Source.feedLocal, src.feed_next_error h.nil]
    rfl
  case cons k ks ih =>
    rw [src.feedLocal_ok (h.next k ks), hs, feedList, Proc.bind_apply]
    cases step' k t
    case ok r t₁ =>
      cases r
      case none   => exact ih t₁
      case some a =>
        refine ⟨ks, rfl, fun _ => ⟨(nomatch ·), fun _ _ hf => ?_⟩⟩
        exact (Prod.mk.inj (Option.some.inj (Outcome.ok.inj hf).left)).right
    all_goals exact ⟨ks, rfl, fun _ => ⟨(nomatch ·), fun _ _ => (nomatch ·)⟩⟩

theorem Holds.feedLocal_some {ks rest : List κ} {t t' : τ} {a : α}
    (hf : feedList step' ks t = .ok (some (a, rest)) t') :
    src.feedLocal step t (hold ks) = .ok (a, t') (hold rest) := by
  have ⟨left, hl, hr⟩ := h.feedLocal step hs ks t
  rw [hl, hf, (hr t').right a rest hf]
  rfl

theorem Holds.feedLocal_none {ks : List κ} {t t' : τ} (hf : feedList step' ks t = .ok none t') :
    src.feedLocal step t (hold ks) = .error e (hold []) := by
  have ⟨left, hl, hr⟩ := h.feedLocal step hs ks t
  rw [hl, hf, (hr t').left hf]
  rfl

theorem Holds.feedLocal_eq_ok {ks : List κ} {t t' : τ} {s : σ} {a : α} :
    src.feedLocal step t (hold ks) = .ok (a, t') s ↔
      ∃ rest, feedList step' ks t = .ok (some (a, rest)) t' ∧ s = hold rest := by
  constructor
  case mp =>
    intro hx
    have ⟨left, hl, hr⟩ := h.feedLocal step hs ks t
    rw [hl] at hx
    cases hf : feedList step' ks t
    case ok r t₁ =>
      rw [hf] at hx
      cases r
      case none    => exact nomatch hx
      case some ar =>
        have ⟨ha, hs⟩ := Outcome.ok.inj hx
        obtain ⟨rfl, rfl⟩ := Prod.mk.inj ha
        exact ⟨ar.2, rfl, hs.symm.trans (congrArg hold ((hr t₁).right ar.1 ar.2 hf))⟩
    all_goals exact nomatch hf ▸ hx
  case mpr =>
    rintro ⟨rest, hf, rfl⟩
    exact h.feedLocal_some step hs hf

end Holding

section Taken

variable {step : ι → σ → Proc ε τ (Option α)} {P : τ → List ι → α → τ → Prop}
  (last : ∀ ⦃i s t a t'⦄, step i s t = .ok (some a) t' → P t [i] a t')
  (more : ∀ ⦃i s t t' is a t''⦄, step i s t = .ok none t' → P t' is a t'' → P t (i :: is) a t'')

include last more

-- A value has been given because of the items that have been taken.
theorem Supplies.of_feed {x y : τ × σ} {a : α} (h : src.feed step x = .ok a y) :
    ∃ is, src.Supplies x.2 is y.2 ∧ P x.1 is a y.1 := by
  fun_induction Source.feed src step x
  case case1 hn _ _ hs =>
    obtain ⟨rfl, rfl⟩ := Outcome.ok.inj h
    exact ⟨_, .cons hn (.nil _), last hs⟩
  case case2 hn _ hs ih =>
    have ⟨is, h₁, h₂⟩ := ih h
    exact ⟨_, .cons hn h₁, more hs h₂⟩
  all_goals exact nomatch h

theorem Supplies.of_feedLocal {s s' : σ} {t t' : τ} {a : α}
    (h : src.feedLocal step t s = .ok (a, t') s') : ∃ is, src.Supplies s is s' ∧ P t is a t' := by
  rw [Source.feedLocal] at h
  cases hf : src.feed step (t, s)
  case ok a y =>
    rw [hf] at h
    obtain ⟨hx, rfl⟩ := Outcome.ok.inj h
    obtain ⟨rfl, rfl⟩ := Prod.mk.inj hx
    exact Supplies.of_feed last more hf
  all_goals
    rw [hf] at h
    exact nomatch h

end Taken

section Simulation

variable {σ' κ : Type} {src : Source ε σ ι} {src' : Source ε σ' κ} {f : κ → ι} {R : σ → σ' → Prop}

-- `src` simulates `src'` along `R` when it hands out the same items, up to `f`, and fails and waits
-- where `src'` does.
def Simulates (src : Source ε σ ι) (src' : Source ε σ' κ) (f : κ → ι) (R : σ → σ' → Prop) : Prop :=
  ∀ ⦃s s'⦄, R s s' → Outcome.Rel (fun i k => i = f k) R (src.next s) (src'.next s')

theorem Simulates.feed (h : src.Simulates src' f R) {step : ι → σ → Proc ε τ (Option α)}
    {step' : κ → σ' → Proc ε τ (Option α)} (hs : ∀ k s s', R s s' → step (f k) s = step' k s')
    {t : τ} {s : σ} {s' : σ'} (hR : R s s') :
    Outcome.Rel (· = ·) (fun x y => x.1 = y.1 ∧ R x.2 y.2) (src.feed step (t, s))
      (src'.feed step' (t, s')) := by
  generalize hx : (t, s') = x
  fun_induction Source.feed src' step' x generalizing t s s'
  case case1 hn _ _ hst =>
    obtain ⟨rfl, rfl⟩ := Prod.mk.inj hx
    have ⟨_, _, h₁, hi, hR'⟩ := (hn ▸ h hR).of_ok
    rw [src.feed_ok h₁, hi, hs _ _ _ hR', hst]
    exact .ok rfl ⟨rfl, hR'⟩
  case case2 hn _ hst ih =>
    obtain ⟨rfl, rfl⟩ := Prod.mk.inj hx
    have ⟨_, _, h₁, hi, hR'⟩ := (hn ▸ h hR).of_ok
    rw [src.feed_ok h₁, hi, hs _ _ _ hR', hst]
    exact ih hR' rfl
  case case3 hn _ _ hst =>
    obtain ⟨rfl, rfl⟩ := Prod.mk.inj hx
    have ⟨_, _, h₁, hi, hR'⟩ := (hn ▸ h hR).of_ok
    rw [src.feed_ok h₁, hi, hs _ _ _ hR', hst]
    exact .error ⟨rfl, hR'⟩
  case case4 hn _ hst =>
    obtain ⟨rfl, rfl⟩ := Prod.mk.inj hx
    have ⟨_, _, h₁, hi, hR'⟩ := (hn ▸ h hR).of_ok
    rw [src.feed_ok h₁, hi, hs _ _ _ hR', hst]
    exact .pending ⟨rfl, hR'⟩
  case case5 hn =>
    obtain ⟨rfl, rfl⟩ := Prod.mk.inj hx
    have ⟨_, h₁, hR'⟩ := (hn ▸ h hR).of_error
    rw [src.feed_next_error h₁]
    exact .error ⟨rfl, hR'⟩
  case case6 hn =>
    obtain ⟨rfl, rfl⟩ := Prod.mk.inj hx
    have ⟨_, h₁, hR'⟩ := (hn ▸ h hR).of_pending
    rw [src.feed_next_pending h₁]
    exact .pending ⟨rfl, hR'⟩

theorem Simulates.feedLocal (h : src.Simulates src' f R) {step : ι → σ → Proc ε τ (Option α)}
    {step' : κ → σ' → Proc ε τ (Option α)} (hs : ∀ k s s', R s s' → step (f k) s = step' k s')
    {t : τ} {s : σ} {s' : σ'} (hR : R s s') :
    Outcome.Rel (· = ·) R (src.feedLocal step t s) (src'.feedLocal step' t s') := by
  rw [Source.feedLocal, Source.feedLocal]
  have hf := h.feed hs hR (t := t)
  generalize src.feed step (t, s) = x at hf
  generalize src'.feed step' (t, s') = y at hf
  obtain ⟨rfl, ht, hR⟩ | ⟨_, hR⟩ | ⟨_, hR⟩ := hf
  · exact .ok (by rw [ht]) hR
  · exact .error hR
  · exact .pending hR

end Simulation
end Source
