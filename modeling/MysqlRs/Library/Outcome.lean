import Mathlib.Tactic.Common

-- The result of running a computation over a state `σ`. Failing keeps the state that was reached (an
-- error does not roll anything back), and so does suspending at a point where the computation waits
-- for its environment: whoever drops a suspended computation is left with that state.
inductive Outcome (ε σ α : Type)
  | ok (a : α) (s : σ)
  | error (e : ε) (s : σ)
  | pending (s : σ)

-- Computations that thread a state, may fail and may suspend.
abbrev Proc (ε σ α : Type) := σ → Outcome ε σ α

namespace Outcome

variable {ε σ τ α β γ : Type}

def state : Outcome ε σ α → σ
  | ok _ s | error _ s | pending s => s

def bind : Outcome ε σ α → (α → Proc ε σ β) → Outcome ε σ β
  | ok a s, f    => f a s
  | error e s, _ => error e s
  | pending s, _ => pending s

def mapState (f : σ → τ) : Outcome ε σ α → Outcome ε τ α
  | ok a s    => ok a (f s)
  | error e s => error e (f s)
  | pending s => pending (f s)

section Equations

variable (a : α) (e : ε) (s : σ) (f : α → Proc ε σ β) (g : σ → τ)

@[simp]
theorem bind_ok : (ok a s).bind f = f a s :=
  rfl

@[simp]
theorem bind_error : (error e s).bind f = error e s :=
  rfl

@[simp]
theorem bind_pending : (pending s).bind f = pending s :=
  rfl

@[simp]
theorem mapState_ok : (ok a s : Outcome ε σ α).mapState g = ok a (g s) :=
  rfl

@[simp]
theorem mapState_error : (error e s : Outcome ε σ α).mapState g = error e (g s) :=
  rfl

@[simp]
theorem mapState_pending : (pending s : Outcome ε σ α).mapState g = pending (g s) :=
  rfl

theorem mapState_state (o : Outcome ε σ α) : (o.mapState g).state = g o.state := by
  cases o <;> rfl

end Equations

theorem bind_assoc (o : Outcome ε σ α) (f : α → Proc ε σ β) (g : β → Proc ε σ γ) :
    (o.bind f).bind g = o.bind (fun a s => (f a s).bind g) := by
  cases o <;> rfl

theorem bind_eq_ok {o : Outcome ε σ α} {f : α → Proc ε σ β} {b s} :
    o.bind f = ok b s ↔ ∃ a s', o = ok a s' ∧ f a s' = ok b s := by
  cases o <;> simp

theorem bind_eq_error {o : Outcome ε σ α} {f : α → Proc ε σ β} {e s} :
    o.bind f = error e s ↔ o = error e s ∨ ∃ a s', o = ok a s' ∧ f a s' = error e s := by
  cases o <;> simp

theorem bind_eq_pending {o : Outcome ε σ α} {f : α → Proc ε σ β} {s} :
    o.bind f = pending s ↔ o = pending s ∨ ∃ a s', o = ok a s' ∧ f a s' = pending s := by
  cases o <;> simp

-- Outcomes of the same kind, with related values and related states.
inductive Rel (r : α → β → Prop) (R : σ → τ → Prop) : Outcome ε σ α → Outcome ε τ β → Prop
  | ok {a b s t} : r a b → R s t → Rel r R (.ok a s) (.ok b t)
  | error {e s t} : R s t → Rel r R (.error e s) (.error e t)
  | pending {s t} : R s t → Rel r R (.pending s) (.pending t)

namespace Rel

variable {r : α → β → Prop} {R : σ → τ → Prop} {x : Outcome ε σ α} {y : Outcome ε τ β}

theorem of_ok {b t} (h : Rel r R x (.ok b t)) : ∃ a s, x = .ok a s ∧ r a b ∧ R s t := by
  obtain ⟨h₁, h₂⟩ := h
  exact ⟨_, _, rfl, h₁, h₂⟩

theorem of_error {e t} (h : Rel r R x (.error e t)) : ∃ s, x = .error e s ∧ R s t := by
  cases h
  case error h => exact ⟨_, rfl, h⟩

theorem of_pending {t} (h : Rel r R x (.pending t)) : ∃ s, x = .pending s ∧ R s t := by
  cases h
  case pending h => exact ⟨_, rfl, h⟩

theorem bind {γ' : Type} {q : γ → γ' → Prop} {f : α → Proc ε σ γ} {g : β → Proc ε τ γ'} (h : Rel r R x y)
    (hf : ∀ a b s t, r a b → R s t → Rel q R (f a s) (g b t)) : Rel q R (x.bind f) (y.bind g) := by
  cases h
  case ok a b s t hab hR => exact hf a b s t hab hR
  case error hR          => exact .error hR
  case pending hR        => exact .pending hR

end Rel
end Outcome

namespace Proc

variable {ε σ τ α β γ : Type}

instance : Monad (Proc ε σ) where
  pure a   := fun s => .ok a s
  bind x f := fun s => (x s).bind f

instance : MonadStateOf σ (Proc ε σ) where
  get         := fun s => .ok s s
  set s       := fun _ => .ok () s
  modifyGet f := fun s => .ok (f s).1 (f s).2

def throw (e : ε) : Proc ε σ α :=
  fun s => .error e s

def ofExcept : Except ε α → Proc ε σ α
  | .ok a    => pure a
  | .error e => throw e

-- Goes on after an error.
def attempt (x : Proc ε σ α) : Proc ε σ Unit := fun s =>
  match x s with
  | .ok _ s    => .ok () s
  | .error _ s => .ok () s
  | .pending s => .pending s

-- Runs a computation over a component of the state.
def zoom (get : σ → τ) (put : τ → σ → σ) (x : Proc ε τ α) : Proc ε σ α :=
  fun s => (x (get s)).mapState (put · s)

-- Runs a computation over a state of its own, which is lost when it fails.
def onLocal (t : τ) (x : Proc ε τ α) : Proc ε σ (α × τ) := fun s =>
  match x t with
  | .ok a t    => .ok (a, t) s
  | .error e _ => .error e s
  | .pending _ => .pending s

@[simp]
theorem pure_apply (a : α) (s : σ) : (pure a : Proc ε σ α) s = .ok a s :=
  rfl

@[simp]
theorem bind_apply (x : Proc ε σ α) (f : α → Proc ε σ β) (s : σ) : (x >>= f) s = (x s).bind f :=
  rfl

@[simp]
theorem get_apply (s : σ) : (get : Proc ε σ σ) s = .ok s s :=
  rfl

@[simp]
theorem set_apply (s s' : σ) : (set s' : Proc ε σ PUnit) s = .ok () s' :=
  rfl

@[simp]
theorem modify_apply (f : σ → σ) (s : σ) : (modify f : Proc ε σ PUnit) s = .ok () (f s) :=
  rfl

@[simp]
theorem throw_apply (e : ε) (s : σ) : (throw e : Proc ε σ α) s = .error e s :=
  rfl

@[simp]
theorem ofExcept_ok (a : α) : (ofExcept (.ok a) : Proc ε σ α) = pure a :=
  rfl

@[simp]
theorem ofExcept_error (e : ε) : (ofExcept (.error e) : Proc ε σ α) = throw e :=
  rfl

theorem ofExcept_eq_ok {x : Except ε α} {s s' : σ} {a : α} :
    (ofExcept x : Proc ε σ α) s = .ok a s' ↔ x = .ok a ∧ s' = s := by
  cases x <;> simp [ofExcept, throw, eq_comm]

@[simp]
theorem zoom_apply (get : σ → τ) (put : τ → σ → σ) (x : Proc ε τ α) (s : σ) :
    x.zoom get put s = (x (get s)).mapState (put · s) :=
  rfl

theorem zoom_eq_ok {get : σ → τ} {put : τ → σ → σ} {x : Proc ε τ α} {s s' : σ} {a : α} :
    x.zoom get put s = .ok a s' ↔ ∃ t, x (get s) = .ok a t ∧ s' = put t s := by
  rw [zoom_apply]
  cases x (get s) <;> simp [eq_comm]

-- Where it succeeds, the computation leaves `f` as it is.
def Keeps {β : Type*} (f : σ → β) (x : Proc ε σ α) : Prop :=
  ∀ ⦃s a s'⦄, x s = .ok a s' → f s' = f s

namespace Keeps

variable {δ κ : Type*} {f : σ → δ}

theorem bind {x : Proc ε σ α} {g : α → Proc ε σ β} (hx : x.Keeps f) (hg : ∀ a, (g a).Keeps f) :
    Keeps f (x >>= g) := by
  intro s b s' h
  have ⟨a, s₁, h₁, h₂⟩ := Outcome.bind_eq_ok.mp h
  exact (hg a h₂).trans (hx h₁)

theorem pure (a : α) : Keeps f (pure a : Proc ε σ α) := by
  intro s b s' h
  cases h
  rfl

theorem get : Keeps f (get : Proc ε σ σ) := by
  intro s b s' h
  cases h
  rfl

theorem modify {g : σ → σ} (h : ∀ s, f (g s) = f s) : Keeps f (modify g : Proc ε σ PUnit) := by
  intro s b s' hs
  cases hs
  exact h s

theorem throw (e : ε) : Keeps f (throw e : Proc ε σ α) :=
  fun _ _ _ h => nomatch h

theorem ofExcept (x : Except ε α) : Keeps f (ofExcept x : Proc ε σ α) := by
  cases x
  case error e => exact throw e
  case ok a    => exact pure a

theorem ite {b : Prop} [Decidable b] {x y : Proc ε σ α} (hx : x.Keeps f) (hy : y.Keeps f) :
    Keeps f (if b then x else y) := by
  split_ifs
  · exact hx
  · exact hy

theorem zoom {get : σ → τ} {put : τ → σ → σ} {x : Proc ε τ α} {g : τ → κ} (hx : x.Keeps g)
    (h : ∀ s t, g t = g (get s) → f (put t s) = f s) : Keeps f (x.zoom get put) := by
  intro s a s' hs
  have ⟨t, ht, hs'⟩ := zoom_eq_ok.mp hs
  exact hs' ▸ h s t (hx ht)

end Keeps

-- Where it succeeds, the computation leads from states with `P` to such states.
def Preserves (P : σ → Prop) (x : Proc ε σ α) : Prop :=
  ∀ ⦃s a s'⦄, x s = .ok a s' → P s → P s'

namespace Preserves

variable {P : σ → Prop}

theorem bind {x : Proc ε σ α} {g : α → Proc ε σ β} (hx : x.Preserves P) (hg : ∀ a, (g a).Preserves P) :
    Preserves P (x >>= g) := by
  intro s b s' h hs
  have ⟨a, s₁, h₁, h₂⟩ := Outcome.bind_eq_ok.mp h
  exact hg a h₂ (hx h₁ hs)

theorem pure (a : α) : Preserves P (pure a : Proc ε σ α) := by
  intro s b s' h hs
  cases h
  exact hs

theorem get : Preserves P (get : Proc ε σ σ) := by
  intro s b s' h hs
  cases h
  exact hs

theorem modify {g : σ → σ} (h : ∀ s, P s → P (g s)) : Preserves P (modify g : Proc ε σ PUnit) := by
  intro s b s' hs hp
  cases hs
  exact h s hp

theorem throw (e : ε) : Preserves P (throw e : Proc ε σ α) :=
  fun _ _ _ h => nomatch h

theorem ite {b : Prop} [Decidable b] {x y : Proc ε σ α} (hx : x.Preserves P) (hy : y.Preserves P) :
    Preserves P (if b then x else y) := by
  split_ifs
  · exact hx
  · exact hy

theorem guard {b : Prop} [Decidable b] {k : PUnit → Proc ε σ α} (e : ε) (hk : ∀ u, (k u).Preserves P) :
    Preserves P (if b then Proc.throw e >>= k else k ⟨⟩) :=
  .ite (.bind (.throw e) hk) (hk ⟨⟩)

end Preserves

-- Whatever comes of the computation, it leaves `f` as it is.
def Leaves {β : Type*} (f : σ → β) (x : Proc ε σ α) : Prop :=
  ∀ s, f (x s).state = f s

namespace Leaves

variable {δ κ : Type*} {f : σ → δ}

theorem keeps {x : Proc ε σ α} (h : x.Leaves f) : x.Keeps f := by
  intro s a s' hs
  have h := h s
  rw [hs] at h
  exact h

theorem bind {x : Proc ε σ α} {g : α → Proc ε σ β} (hx : x.Leaves f) (hg : ∀ a, (g a).Leaves f) :
    Leaves f (x >>= g) := by
  intro s
  have h := hx s
  rw [bind_apply]
  cases hs : x s
  case ok a s' =>
    rw [hs] at h
    exact (hg a s').trans h
  all_goals
    rw [hs] at h
    exact h

theorem pure (a : α) : Leaves f (pure a : Proc ε σ α) :=
  fun _ => rfl

theorem get : Leaves f (get : Proc ε σ σ) :=
  fun _ => rfl

theorem modify {g : σ → σ} (h : ∀ s, f (g s) = f s) : Leaves f (modify g : Proc ε σ PUnit) :=
  h

theorem throw (e : ε) : Leaves f (throw e : Proc ε σ α) :=
  fun _ => rfl

theorem ofExcept (x : Except ε α) : Leaves f (ofExcept x : Proc ε σ α) := by
  cases x
  case error e => exact throw e
  case ok a    => exact pure a

theorem ite {b : Prop} [Decidable b] {x y : Proc ε σ α} (hx : x.Leaves f) (hy : y.Leaves f) :
    Leaves f (if b then x else y) := by
  split_ifs
  · exact hx
  · exact hy

theorem guard {b : Prop} [Decidable b] {k : PUnit → Proc ε σ α} (e : ε) (hk : ∀ u, (k u).Leaves f) :
    Leaves f (if b then Proc.throw e >>= k else k ⟨⟩) :=
  .ite (.bind (.throw e) hk) (hk ⟨⟩)

theorem discard {x : Proc ε σ α} (hx : x.Leaves f) : Leaves f (discard x) :=
  .bind hx fun _ => .pure _

-- Running over a component of the state that `f` does not look at.
theorem zoom {get : σ → τ} {put : τ → σ → σ} (x : Proc ε τ α) (h : ∀ s t, f (put t s) = f s) :
    Leaves f (x.zoom get put) := by
  intro s
  rw [zoom_apply]
  cases x (get s)
  all_goals exact h s _

end Leaves

-- Whatever comes of the computation, it leads from states with `P` to such states.
def Maintains (P : σ → Prop) (x : Proc ε σ α) : Prop :=
  ∀ s, P s → P (x s).state

namespace Maintains

variable {P : σ → Prop}

theorem bind {x : Proc ε σ α} {g : α → Proc ε σ β} (hx : x.Maintains P) (hg : ∀ a, (g a).Maintains P) :
    Maintains P (x >>= g) := by
  intro s hs
  have h := hx s hs
  rw [bind_apply]
  cases hy : x s
  case ok a s' =>
    rw [hy] at h
    exact hg a s' h
  all_goals
    rw [hy] at h
    exact h

theorem pure (a : α) : Maintains P (pure a : Proc ε σ α) :=
  fun _ h => h

theorem get : Maintains P (get : Proc ε σ σ) :=
  fun _ h => h

theorem modify {g : σ → σ} (h : ∀ s, P s → P (g s)) : Maintains P (modify g : Proc ε σ PUnit) :=
  h

theorem throw (e : ε) : Maintains P (throw e : Proc ε σ α) :=
  fun _ h => h

theorem ofExcept (x : Except ε α) : Maintains P (ofExcept x : Proc ε σ α) := by
  cases x
  case error e => exact throw e
  case ok a    => exact pure a

theorem ite {b : Prop} [Decidable b] {x y : Proc ε σ α} (hx : x.Maintains P) (hy : y.Maintains P) :
    Maintains P (if b then x else y) := by
  split_ifs
  · exact hx
  · exact hy

theorem guard {b : Prop} [Decidable b] {k : PUnit → Proc ε σ α} (e : ε) (hk : ∀ u, (k u).Maintains P) :
    Maintains P (if b then Proc.throw e >>= k else k ⟨⟩) :=
  .ite (.bind (.throw e) hk) (hk ⟨⟩)

theorem zoom {Q : τ → Prop} {get : σ → τ} {put : τ → σ → σ} {x : Proc ε τ α} (hx : x.Maintains Q)
    (hg : ∀ s, P s → Q (get s)) (hp : ∀ s t, P s → Q t → P (put t s)) : Maintains P (x.zoom get put) := by
  intro s hs
  have h := hx (get s) (hg s hs)
  rw [zoom_apply]
  cases hy : x (get s)
  all_goals
    rw [hy] at h
    exact hp s _ hs h

theorem of_leaves {δ : Type*} {f : σ → δ} {x : Proc ε σ α} (hx : x.Leaves f) (hP : ∀ s t, f t = f s → P s → P t) :
    x.Maintains P :=
  fun s hs => hP s _ (hx s) hs

-- Where it succeeds, what holds of the state afterwards.
theorem of_ok {x : Proc ε σ α} (hx : x.Maintains P) {s s' : σ} {a : α} (hs : P s) (h : x s = .ok a s') : P s' := by
  have hx := hx s hs
  rw [h] at hx
  exact hx

end Maintains

-- Where it does not succeed, the computation leads from states with `P` to such states.
def Retains (P : σ → Prop) (x : Proc ε σ α) : Prop :=
  ∀ s, P s → (∀ a s', x s ≠ .ok a s') → P (x s).state

namespace Retains

variable {P : σ → Prop}

theorem of_maintains {x : Proc ε σ α} (h : x.Maintains P) : x.Retains P :=
  fun s hs _ => h s hs

theorem bind {x : Proc ε σ α} {g : α → Proc ε σ β} (hx : x.Maintains P) (hg : ∀ a, (g a).Retains P) :
    Retains P (x >>= g) := by
  intro s hs hf
  have h := hx s hs
  rw [bind_apply] at hf ⊢
  cases hy : x s
  case ok a s' =>
    rw [hy] at h hf
    exact hg a s' h hf
  all_goals
    rw [hy] at h
    exact h

-- What comes after the computation succeeds.
theorem before {x : Proc ε σ α} {g : α → Proc ε σ β} (hx : x.Retains P) (hg : ∀ a s, ∃ b s', g a s = .ok b s') :
    Retains P (x >>= g) := by
  intro s hs hf
  have h := hx s hs
  rw [bind_apply] at hf ⊢
  cases hy : x s
  case ok a s' =>
    have ⟨b, t, hb⟩ := hg a s'
    rw [hy, Outcome.bind_ok] at hf
    exact absurd hb (hf b t)
  all_goals
    have h := h fun _ _ he => nomatch hy.symm.trans he
    rw [hy] at h
    exact h

theorem ite {b : Prop} [Decidable b] {x y : Proc ε σ α} (hx : x.Retains P) (hy : y.Retains P) :
    Retains P (if b then x else y) := by
  split_ifs
  · exact hx
  · exact hy

theorem zoom {Q : τ → Prop} {get : σ → τ} {put : τ → σ → σ} {x : Proc ε τ α} (hx : x.Retains Q)
    (hg : ∀ s, P s → Q (get s)) (hp : ∀ s t, P s → Q t → P (put t s)) : Retains P (x.zoom get put) := by
  intro s hs hf
  have h := hx (get s) (hg s hs)
  rw [zoom_apply] at hf ⊢
  cases hy : x (get s)
  case ok a t =>
    rw [hy] at hf
    exact absurd rfl (hf a _)
  all_goals
    have h := h fun _ _ he => nomatch hy.symm.trans he
    rw [hy] at h
    exact hp s _ hs h

end Retains

-- Where it succeeds, the computation leads to states with `P`.
def Establishes (P : σ → Prop) (x : Proc ε σ α) : Prop :=
  ∀ ⦃s a s'⦄, x s = .ok a s' → P s'

namespace Establishes

variable {P : σ → Prop}

theorem bind {x : Proc ε σ α} {g : α → Proc ε σ β} (hg : ∀ a, (g a).Establishes P) : Establishes P (x >>= g) := by
  intro s b s' h
  have ⟨a, s₁, _, h⟩ := Outcome.bind_eq_ok.mp h
  exact hg a h

theorem zoom {Q : τ → Prop} {get : σ → τ} {put : τ → σ → σ} {x : Proc ε τ α} (hx : x.Establishes Q)
    (hp : ∀ s t, Q t → P (put t s)) : Establishes P (x.zoom get put) := by
  intro s a s' h
  have ⟨t, ht, hs⟩ := zoom_eq_ok.mp h
  exact hs ▸ hp s t (hx ht)

-- Where it fails, what holds before holds still; where it does not, the rest of the computation starts from `Q`.
theorem maintains {P Q : σ → Prop} {x : Proc ε σ α} {g : α → Proc ε σ β} (hx : x.Establishes Q)
    (hr : x.Retains P) (hg : ∀ a s, Q s → P (g a s).state) : (x >>= g).Maintains P := by
  intro s hs
  have h := hr s hs
  rw [bind_apply]
  cases hy : x s
  case ok a s' => exact hg a s' (hx hy)
  all_goals
    have h := h fun _ _ he => nomatch hy.symm.trans he
    rw [hy] at h
    exact h

end Establishes

-- The computation does on `f` of its state what the other one does.
def Erases (f : σ → τ) (x : Proc ε σ α) (y : Proc ε τ α) : Prop :=
  ∀ s, (x s).mapState f = y (f s)

namespace Erases

variable {f : σ → τ}

theorem bind {x : Proc ε σ α} {y : Proc ε τ α} {g : α → Proc ε σ β} {k : α → Proc ε τ β}
    (hx : x.Erases f y) (hg : ∀ a, (g a).Erases f (k a)) : Erases f (x >>= g) (y >>= k) := by
  intro s
  rw [bind_apply, bind_apply, ← hx s]
  cases x s
  case ok a s => exact hg a s
  all_goals rfl

-- A step that the other computation does not take.
theorem skip {x : Proc ε σ α} {g : α → Proc ε σ β} {k : Proc ε τ β} (hx : ∀ s, ∃ a s', x s = .ok a s' ∧ f s' = f s)
    (hg : ∀ a, (g a).Erases f k) : Erases f (x >>= g) k := by
  intro s
  have ⟨a, s', h, hf⟩ := hx s
  rw [bind_apply, h, Outcome.bind_ok, hg a s', hf]

theorem pure (a : α) : Erases f (pure a : Proc ε σ α) (pure a) :=
  fun _ => rfl

theorem throw (e : ε) : Erases f (throw e : Proc ε σ α) (throw e) :=
  fun _ => rfl

theorem ite {b : Prop} [Decidable b] {x x' : Proc ε σ α} {y y' : Proc ε τ α} (h : x.Erases f y)
    (h' : x'.Erases f y') : Erases f (if b then x else x') (if b then y else y') := by
  split_ifs
  · exact h
  · exact h'

theorem attempt {x : Proc ε σ α} {y : Proc ε τ α} (h : x.Erases f y) : Erases f x.attempt y.attempt := by
  intro s
  rw [Proc.attempt, Proc.attempt, ← h s]
  cases x s <;> rfl

-- The outcomes of the other computation are outcomes of this one.
theorem exists_ok {x : Proc ε σ α} {y : Proc ε τ α} (h : x.Erases f y) {s : σ} {a : α} {t : τ}
    (hy : y (f s) = .ok a t) : ∃ s', x s = .ok a s' ∧ f s' = t := by
  have hs := h s
  rw [hy] at hs
  cases hx : x s
  case ok a' s' =>
    rw [hx] at hs
    obtain ⟨rfl, ht⟩ := Outcome.ok.inj hs
    exact ⟨s', rfl, ht⟩
  all_goals
    rw [hx] at hs
    exact nomatch hs

end Erases

-- Where it succeeds, the computation gives such a value.
def Yields (P : α → Prop) (x : Proc ε σ α) : Prop :=
  ∀ ⦃s a s'⦄, x s = .ok a s' → P a

namespace Yields

variable {P : α → Prop}

theorem pure {a : α} (h : P a) : Yields P (pure a : Proc ε σ α) :=
  fun _ _ _ hs => (Outcome.ok.inj hs).left ▸ h

theorem throw (e : ε) : Yields P (throw e : Proc ε σ α) :=
  fun _ _ _ h => nomatch h

theorem bind {x : Proc ε σ β} {g : β → Proc ε σ α} (h : ∀ b, (g b).Yields P) : Yields P (x >>= g) := by
  intro s a s' hs
  have ⟨b, _, _, hs⟩ := Outcome.bind_eq_ok.mp hs
  exact h b hs

theorem ite {b : Prop} [Decidable b] {x y : Proc ε σ α} (hx : x.Yields P) (hy : y.Yields P) :
    Yields P (if b then x else y) := by
  split_ifs
  · exact hx
  · exact hy

end Yields
-- Where it fails, the computation does so with such an error.
def Raises (P : ε → Prop) (x : Proc ε σ α) : Prop :=
  ∀ ⦃s e s'⦄, x s = .error e s' → P e

namespace Raises

variable {P : ε → Prop}

theorem pure (a : α) : Raises P (pure a : Proc ε σ α) :=
  fun _ _ _ h => nomatch h

theorem get : Raises P (get : Proc ε σ σ) :=
  fun _ _ _ h => nomatch h

theorem modify (f : σ → σ) : Raises P (modify f : Proc ε σ PUnit) :=
  fun _ _ _ h => nomatch h

theorem throw {e : ε} (h : P e) : Raises P (throw e : Proc ε σ α) :=
  fun _ _ _ he => (Outcome.error.inj he).left ▸ h

theorem ofExcept {x : Except ε α} (h : ∀ e, x = .error e → P e) : Raises P (ofExcept x : Proc ε σ α) := by
  cases x
  case error e => exact throw (h e rfl)
  case ok a    => exact pure a

theorem bind {x : Proc ε σ α} {f : α → Proc ε σ β} (hx : x.Raises P) (hf : ∀ a, (f a).Raises P) :
    Raises P (x >>= f) := by
  intro s e s' h
  obtain h | ⟨a, s₁, _, h⟩ := Outcome.bind_eq_error.mp h
  · exact hx h
  · exact hf a h

theorem ite {b : Prop} [Decidable b] {x y : Proc ε σ α} (hx : x.Raises P) (hy : y.Raises P) :
    Raises P (if b then x else y) := by
  split_ifs
  · exact hx
  · exact hy

end Raises

-- From `s`, the computation succeeds with a value and a state as described.
def Ends (x : Proc ε σ α) (s : σ) (Q : α → σ → Prop) : Prop :=
  ∃ a s', x s = .ok a s' ∧ Q a s'

namespace Ends

variable {s s' : σ} {a : α} {Q : β → σ → Prop}

theorem bind {x : Proc ε σ α} {f : α → Proc ε σ β} (h : x s = .ok a s') (h' : (f a).Ends s' Q) :
    (x >>= f).Ends s Q := by
  have ⟨b, t, hf, hq⟩ := h'
  exact ⟨b, t, by rw [bind_apply, h, Outcome.bind_ok, hf], hq⟩

theorem modify_bind {f : σ → σ} {k : PUnit → Proc ε σ β} (h : (k ⟨⟩).Ends (f s) Q) :
    ((modify f : Proc ε σ PUnit) >>= k).Ends s Q :=
  bind (modify_apply f s) h

theorem pass {b : Prop} [Decidable b] {x y : Proc ε σ β} (hb : ¬b) (h : y.Ends s Q) :
    (if b then x else y).Ends s Q := by
  rwa [if_neg hb]

theorem take {b : Prop} [Decidable b] {x y : Proc ε σ β} (hb : b) (h : x.Ends s Q) :
    (if b then x else y).Ends s Q := by
  rwa [if_pos hb]

end Ends
end Proc
