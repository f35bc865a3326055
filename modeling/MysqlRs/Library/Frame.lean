import MysqlRs.Library.Source

namespace Proc

variable {ε σ τ ι α : Type} {g : σ → σ}

-- What `g` adds to the state is left as it is by a computation, unless the computation waits for it.
def Frames (g : σ → σ) (x : Proc ε σ α) : Prop :=
  ∀ s, (∃ s', x s = .pending s') ∨ x (g s) = (x s).mapState g

variable {src : Source ε σ ι}

-- Items that are handed over one by one.
theorem Frames.feed (hn : src.next.Frames g) {step : ι → σ → Proc ε τ (Option α)}
    (hs : ∀ i s, step i (g s) = step i s) : (src.feed step).Frames (Prod.map id g) := by
  intro x
  have next {s : σ} {o : Outcome ε σ ι} (h : src.next s = o) :
      (∃ s', o = .pending s') ∨ src.next (g s) = o.mapState g :=
    h ▸ hn s
  fun_induction Source.feed src step x
  case case1 h _ _ hst =>
    have hg := (next h).resolve_left (by rintro ⟨_, ⟨⟩⟩)
    right
    rw [Prod.map_apply, src.feed_ok hg, hs, id, hst]
    rfl
  case case2 h _ hst ih =>
    have hg := (next h).resolve_left (by rintro ⟨_, ⟨⟩⟩)
    refine ih.imp id fun ih => ?_
    rw [Prod.map_apply, src.feed_ok hg, hs, id, hst]
    exact ih
  case case3 h _ _ hst =>
    have hg := (next h).resolve_left (by rintro ⟨_, ⟨⟩⟩)
    right
    rw [Prod.map_apply, src.feed_ok hg, hs, id, hst]
    rfl
  case case4 => exact .inl ⟨_, rfl⟩
  case case5 h =>
    have hg := (next h).resolve_left (by rintro ⟨_, ⟨⟩⟩)
    exact .inr (src.feed_next_error hg)
  case case6 => exact .inl ⟨_, rfl⟩

theorem Frames.feedLocal (hn : src.next.Frames g) {step : ι → σ → Proc ε τ (Option α)}
    (hs : ∀ i s, step i (g s) = step i s) (t : τ) : (src.feedLocal step t).Frames g := by
  intro s
  have hf := hn.feed hs (t, s)
  rw [Prod.map_apply, id] at hf
  rw [Source.feedLocal, Source.feedLocal]
  obtain ⟨x, hp⟩ | hf := hf
  · exact .inl ⟨x.2, by rw [hp]⟩
  · rw [hf]
    cases src.feed step (t, s)
    all_goals exact .inr rfl

-- Where it waits, the computation leaves `f` as it is.
def Rests {δ : Type} (f : σ → δ) (x : Proc ε σ α) : Prop :=
  ∀ ⦃s s'⦄, x s = .pending s' → f s' = f s

namespace Rests

variable {δ : Type} {f : σ → δ}

theorem feed (hk : src.next.Keeps f) (hn : src.next.Rests f) (step : ι → σ → Proc ε τ (Option α)) :
    (src.feed step).Rests fun x => f x.2 := by
  intro x x' h
  fun_induction Source.feed src step x
  case case2 hi _ _ ih => exact (ih h).trans (hk hi)
  case case4 hi _ _ =>
    obtain rfl := Outcome.pending.inj h
    exact hk hi
  case case6 hi =>
    obtain rfl := Outcome.pending.inj h
    exact hn hi
  all_goals cases h

theorem feedLocal (hk : src.next.Keeps f) (hn : src.next.Rests f) (step : ι → σ → Proc ε τ (Option α)) (t : τ) :
    (src.feedLocal step t).Rests f := by
  intro s s' h
  rw [Source.feedLocal] at h
  cases hf : src.feed step (t, s)
  case pending x =>
    rw [hf] at h
    obtain rfl := Outcome.pending.inj h
    exact feed hk hn step hf
  all_goals
    rw [hf] at h
    cases h

end Rests
end Proc
