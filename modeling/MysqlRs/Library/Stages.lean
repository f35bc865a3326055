import MysqlRs.Library.Outcome

-- A program that goes on in steps, each from one stage to the next.
abbrev Staged (ε σ κ : Type) := κ → Proc ε σ κ

namespace Staged

variable {ε σ κ α β : Type} (step : Staged ε σ κ)

-- The stages that a run gets to, with the state it is in there.
inductive Reaches (k₀ : κ) (s₀ : σ) : κ → σ → Prop
  | start : Reaches k₀ s₀ k₀ s₀
  | step {k k' : κ} {s s' : σ} : Reaches k₀ s₀ k s → step k s = .ok k' s' → Reaches k₀ s₀ k' s'

-- The states of a run, with those in which a step fails or waits.
inductive Visits (k₀ : κ) (s₀ : σ) : σ → Prop
  | at {k : κ} {s : σ} : Reaches step k₀ s₀ k s → Visits k₀ s₀ s
  | stop {k : κ} {s : σ} : Reaches step k₀ s₀ k s → Visits k₀ s₀ (step k s).state

variable {step} {k₀ k : κ} {s₀ s : σ}

-- What the start satisfies and every step preserves holds at every stage that is reached.
theorem Reaches.invariant {I : κ → σ → Prop} (h : Reaches step k₀ s₀ k s) (h₀ : I k₀ s₀)
    (hstep : ∀ {k s k' s'}, I k s → step k s = .ok k' s' → I k' s') : I k s := by
  induction h
  case start         => exact h₀
  case step hs ih => exact hstep ih hs

theorem Reaches.trans {k' : κ} {s' : σ} (h : Reaches step k₀ s₀ k s) (h' : Reaches step k s k' s') :
    Reaches step k₀ s₀ k' s' := by
  induction h'
  case start      => exact h
  case step hs ih => exact ih.step hs

theorem Visits.invariant {I : κ → σ → Prop} {P : σ → Prop} (h : Visits step k₀ s₀ s) (h₀ : I k₀ s₀)
    (hstep : ∀ {k s k' s'}, I k s → step k s = .ok k' s' → I k' s') (hP : ∀ {k s}, I k s → P s)
    (hstop : ∀ {k s}, I k s → (∀ k' s', step k s ≠ .ok k' s') → P (step k s).state) : P s := by
  cases h
  case «at» hr => exact hP (hr.invariant h₀ hstep)
  case stop k s hr =>
    have hi := hr.invariant h₀ hstep
    cases hs : step k s
    case ok k' s' => exact hP (hstep hi hs)
    all_goals
      rw [← hs]
      exact hstop hi (by rw [hs]; nofun)

variable (step k₀ s₀) in
-- The steps get as far as this outcome: to the stage `f a` with its value `a`, or to its failing or waiting.
def Attains (o : Outcome ε σ α) (f : α → κ) : Prop :=
  (∀ a s, o = .ok a s → Reaches step k₀ s₀ (f a) s) ∧ Visits step k₀ s₀ o.state

variable (step k₀ s₀) in
-- From stage `k` on, the steps carry out the computation `x`.
def CarryOut (x : Proc ε σ α) (k : κ) (f : α → κ) : Prop :=
  ∀ s, Reaches step k₀ s₀ k s → Attains step k₀ s₀ (x s) f

section Attains

variable {o : Outcome ε σ α} {f : α → κ} {y : α → Proc ε σ β} {g : β → κ}

theorem Attains.error {e : ε} (h : Visits step k₀ s₀ s) : Attains step k₀ s₀ (.error e s) f :=
  ⟨nofun, h⟩

theorem Attains.pending (h : Visits step k₀ s₀ s) : Attains step k₀ s₀ (.pending s) f :=
  ⟨nofun, h⟩

theorem Attains.bind (ho : Attains step k₀ s₀ o f)
    (hy : ∀ a s, o = .ok a s → Reaches step k₀ s₀ (f a) s → Attains step k₀ s₀ (y a s) g) :
    Attains step k₀ s₀ (o.bind y) g := by
  have ⟨hok, hv⟩ := ho
  cases o
  case ok a s    => exact hy a s rfl (hok a s rfl)
  case error e s => exact .error hv
  case pending s => exact .pending hv

-- An outcome that one step comes to.
theorem Attains.of_step (h : Reaches step k₀ s₀ k s) (hs : step k s = o.bind fun a s => .ok (f a) s) :
    Attains step k₀ s₀ o f := by
  have hv := Visits.stop h
  rw [hs] at hv
  cases o
  case ok a t =>
    refine ⟨fun b u hb => ?_, hv⟩
    obtain ⟨rfl, rfl⟩ := Outcome.ok.inj hb
    exact h.step hs
  case error   => exact .error hv
  case pending => exact .pending hv

theorem CarryOut.bind {x : Proc ε σ α} (hx : CarryOut step k₀ s₀ x k f)
    (hy : ∀ a, CarryOut step k₀ s₀ (y a) (f a) g) : CarryOut step k₀ s₀ (x >>= y) k g :=
  fun s hs => (hx s hs).bind fun a s _ => hy a s

theorem CarryOut.of_step {x : Proc ε σ α} (h : ∀ s, step k s = (x s).bind fun a s => .ok (f a) s) :
    CarryOut step k₀ s₀ x k f :=
  fun s hs => .of_step hs (h s)

end Attains
end Staged
