import MysqlRs.Library.Checked
import MysqlRs.Library.Outcome

-- Computations that thread a state, may fail and may be cut short. Failing keeps the state.
abbrev Raw (ε σ : Type) := ExceptT ε (StateT σ Checked)

namespace Raw

variable {ε σ τ α β γ δ : Type}

-- Runs a computation over a component of the state.
def zoom (get : σ → τ) (put : τ → σ → σ) (x : Raw ε τ α) : Raw ε σ α := fun s => do
  let (r, t) ← x (get s)
  return (r, put t s)

-- Runs a computation over a state of its own, which is dropped afterwards.
def onLocal (t : τ) (x : Raw ε τ α) : Raw ε σ α := fun s => do
  let (r, _) ← x t
  return (r, s)

theorem bind_apply (x : Raw ε σ α) (f : α → Raw ε σ β) (s : σ) :
    (x >>= f) s = Bind.bind (m := Checked) (x s) fun r => ExceptT.bindCont f r.1 r.2 :=
  rfl

section Steps

variable {x : Raw ε σ α} {f : α → Raw ε σ β} {s t : σ}

theorem bind_of_ok {a : α} (h : x s = .ok (.ok a, t)) : (x >>= f) s = f a t := by
  rw [bind_apply, h]
  rfl

theorem bind_of_error {e : ε} (h : x s = .ok (.error e, t)) : (x >>= f) s = .ok (.error e, t) := by
  rw [bind_apply, h]
  rfl

theorem bind_of_fault {e : Fault} (h : x s = .error e) : (x >>= f) s = .error e := by
  rw [bind_apply, h]
  rfl

theorem get_bind (g : σ → Raw ε σ β) : (get >>= g) s = g s s :=
  rfl

theorem lift_bind_of_ok {z : Checked α} {a : α} (h : z = .ok a) : (liftM z >>= f) s = f a s := by
  rw [h]
  rfl

theorem lift_bind_of_fault {z : Checked α} {e : Fault} (h : z = .error e) : (liftM z >>= f) s = .error e := by
  rw [h]
  rfl

end Steps

-- What has come of a computation is what the other one says, up to `r`, and it is not suspended.
inductive Matches (I : σ → Prop) (r : α → β → Prop) : Except ε α × σ → Outcome ε σ β → Prop
  | ok {a b s} : r a b → I s → Matches I r (.ok a, s) (.ok b s)
  | error {e s} : I s → Matches I r (.error e, s) (.error e s)

theorem Matches.unique {I : σ → Prop} {p q : Except ε α × σ} {o : Outcome ε σ α} (hp : Matches I (· = ·) p o)
    (hq : Matches I (· = ·) q o) : p = q := by
  cases hp
  case ok a b s h _ =>
    cases hq
    case ok c h' _ => rw [h, h']
  case error e s _ =>
    cases hq
    rfl

-- The computation is not cut short, but for want of memory.
def Meets (I : σ → Prop) (r : α → β → Prop) (x : Checked (Except ε α × σ)) (o : Outcome ε σ β) : Prop :=
  x.Returns (Matches I r · o)

namespace Meets

variable {I : σ → Prop} {r : α → β → Prop} {q : γ → δ → Prop} {o o' : Outcome ε σ β} {s : σ}

theorem ok {a : α} {b : β} (h : r a b) (hs : I s) : Meets (ε := ε) I r (.ok (.ok a, s)) (.ok b s) :=
  Matches.ok h hs

theorem error {e : ε} (hs : I s) : Meets I r (.ok (.error e, s)) (.error e s) :=
  Matches.error hs

theorem bind {x : Raw ε σ α} {f : α → Raw ε σ γ} {g : β → Proc ε σ δ} (hx : Meets I r (x s) o)
    (hf : ∀ a b t, r a b → I t → Meets I q (f a t) (g b t)) : Meets I q ((x >>= f) s) (o.bind g) := by
  refine Checked.Returns.bind hx fun p hp => ?_
  cases hp
  case ok a b t h ht => exact hf a b t h ht
  case error e t ht  => exact .error ht

-- What comes after a computation whose outcome is known.
theorem bind_ok {x : Raw ε σ α} {f : α → Raw ε σ γ} {b : β} {t : σ} {o : Outcome ε σ δ}
    (hx : Meets I r (x s) (.ok b t)) (hf : ∀ a, r a b → I t → Meets I q (f a t) o) :
    Meets I q ((x >>= f) s) o := by
  refine Checked.Returns.bind hx fun p hp => ?_
  cases hp
  case ok a h ht => exact hf a h ht

theorem bind_error {x : Raw ε σ α} {f : α → Raw ε σ γ} {e : ε} {t : σ} (hx : Meets I r (x s) (.error e t)) :
    Meets I q ((x >>= f) s) (.error e t) := by
  refine Checked.Returns.bind hx fun p hp => ?_
  cases hp
  case error ht => exact .error ht

theorem bind_pending {x : Raw ε σ α} {f : α → Raw ε σ γ} {t : σ} {o : Outcome ε σ δ}
    (hx : Meets I r (x s) (.pending t)) : Meets I q ((x >>= f) s) o :=
  Checked.Returns.bind hx fun _ hp => nomatch hp

theorem mono {r' : α → β → Prop} {x : Checked (Except ε α × σ)} (h : Meets I r x o)
    (hr : ∀ a b, r a b → r' a b) : Meets I r' x o := by
  refine Checked.Returns.mono h fun p hp => ?_
  cases hp
  case ok a b t hab ht => exact .ok (hr a b hab) ht
  case error e t ht  => exact .error ht

theorem ite {b b' : Prop} [Decidable b] [Decidable b'] {x x' : Raw ε σ α} (hb : b ↔ b')
    (h : b → Meets I r (x s) o) (h' : ¬b → Meets I r (x' s) o') :
    Meets I r ((if b then x else x') s) (if b' then o else o') := by
  by_cases hc : b
  · rw [if_pos hc, if_pos (hb.mp hc)]
    exact h hc
  · rw [if_neg hc, if_neg (hb.not.mp hc)]
    exact h' hc

theorem branch {b b' : Prop} [Decidable b] [Decidable b'] {x x' : Raw ε σ α} {y y' : Proc ε σ β} (hb : b ↔ b')
    (h : b → Meets I r (x s) (y s)) (h' : ¬b → Meets I r (x' s) (y' s)) :
    Meets I r ((if b then x else x') s) ((if b' then y else y') s) := by
  by_cases hc : b
  · rw [if_pos hc, if_pos (hb.mp hc)]
    exact h hc
  · rw [if_neg hc, if_neg (hb.not.mp hc)]
    exact h' hc

-- An early exit with an error.
theorem guard {b b' : Prop} [Decidable b] [Decidable b'] {x : Raw ε σ γ} {f : γ → Raw ε σ α} {k : Raw ε σ α}
    {e : ε} {t : σ} (hb : b ↔ b') (hx : x s = .ok (.error e, t)) (ht : I t) (h : ¬b → Meets I r (k s) o) :
    Meets I r ((if b then x >>= f else k) s) (if b' then .error e t else o) := by
  refine .ite hb (fun _ => ?_) h
  rw [bind_apply, hx]
  exact .error ht

theorem get {f : σ → Raw ε σ α} (h : Meets I r (f s s) o) : Meets I r ((get >>= f) s) o :=
  h

theorem modify {g : σ → σ} {f : PUnit → Raw ε σ α} (h : Meets I r (f ⟨⟩ (g s)) o) :
    Meets I r ((modify g >>= f) s) o :=
  h

-- An operation that may be cut short, of which the other computation knows nothing.
theorem lift {P : γ → Prop} {z : Checked γ} {f : γ → Raw ε σ α} (hz : z.Returns P)
    (hf : ∀ a, P a → Meets I r (f a s) o) : Meets I r ((liftM z >>= f) s) o := by
  cases z
  case error e => exact hz
  case ok a    => exact hf a hz

theorem step {z : Checked γ} {a : γ} {f : γ → Raw ε σ α} (hz : z = .ok a) (hf : Meets I r (f a s) o) :
    Meets I r ((liftM z >>= f) s) o :=
  .lift (P := (· = a)) (.of_eq hz rfl) fun _ h => h ▸ hf

end Meets

-- In the states that satisfy `I` the computation does what the other one does, and it keeps `I`.
def Sound (I : σ → Prop) (r : α → β → Prop) (x : Raw ε σ α) (y : Proc ε σ β) : Prop :=
  ∀ s, I s → Meets I r (x s) (y s)

namespace Sound

variable {I : σ → Prop} {r : α → β → Prop} {q : γ → δ → Prop} {x : Raw ε σ α} {y : Proc ε σ β}

theorem bind {f : α → Raw ε σ γ} {g : β → Proc ε σ δ} (hx : Sound I r x y)
    (hf : ∀ a b, r a b → Sound I q (f a) (g b)) : Sound I q (x >>= f) (y >>= g) :=
  fun s hs => (hx s hs).bind fun a b t h ht => hf a b h t ht

theorem mono {r' : α → β → Prop} (h : Sound I r x y) (hr : ∀ a b, r a b → r' a b) : Sound I r' x y :=
  fun s hs => (h s hs).mono hr

theorem pure {a : α} {b : β} (h : r a b) : Sound I r (pure a : Raw ε σ α) (pure b) :=
  fun _ hs => .ok h hs

theorem throw (e : ε) : Sound I r (throw e) (Proc.throw e) :=
  fun _ hs => .error hs

theorem get : Sound I (fun s t => s = t ∧ I s) (get : Raw ε σ σ) get :=
  fun _ hs => .ok ⟨rfl, hs⟩ hs

-- From here on the state is known.
theorem withState {f : σ → Raw ε σ γ} {g : σ → Proc ε σ δ} (h : ∀ s, I s → Meets I q (f s s) (g s s)) :
    Sound I q (MonadState.get >>= f) (MonadState.get >>= g) :=
  h

theorem modify {f : σ → σ} (h : ∀ s, I s → I (f s)) :
    Sound I (fun _ _ => True) (modify f : Raw ε σ PUnit) (modify f) :=
  fun s hs => .ok trivial (h s hs)

theorem ite {b b' : Prop} [Decidable b] [Decidable b'] {x' : Raw ε σ α} {y' : Proc ε σ β} (hb : b ↔ b')
    (h : b → Sound I r x y) (h' : ¬b → Sound I r x' y') :
    Sound I r (if b then x else x') (if b' then y else y') :=
  fun s hs => .branch hb (fun hc => h hc s hs) fun hc => h' hc s hs

-- An early exit with an error.
theorem guard {b b' : Prop} [Decidable b] [Decidable b'] {f : PUnit → Raw ε σ α} {g : PUnit → Proc ε σ β}
    {e : ε} (hb : b ↔ b') (h : ¬b → Sound I r (f ⟨⟩) (g ⟨⟩)) :
    Sound I r (if b then MonadExcept.throw e >>= f else f ⟨⟩) (if b' then Proc.throw e >>= g else g ⟨⟩) :=
  .ite hb (fun _ => .bind (r := fun _ _ => False) (.throw e) fun _ _ h => h.elim) h

-- The other computation alone checks for the error.
theorem refuse {b : Prop} [Decidable b] {g : PUnit → Proc ε σ β} {e : ε} (hb : b) :
    Sound I r (MonadExcept.throw e) (if b then Proc.throw e >>= g else g ⟨⟩) := by
  rw [if_pos hb]
  exact throw e

theorem pass {b : Prop} [Decidable b] {g : PUnit → Proc ε σ β} {e : ε} (hb : ¬b) (h : Sound I r x (g ⟨⟩)) :
    Sound I r x (if b then Proc.throw e >>= g else g ⟨⟩) := by
  rwa [if_neg hb]

-- A step that is taken under a condition.
theorem optional {b b' : Prop} [Decidable b] [Decidable b'] {z : Raw ε σ PUnit} {w : Proc ε σ PUnit}
    {f : PUnit → Raw ε σ α} {g : PUnit → Proc ε σ β} (hb : b ↔ b')
    (hz : b → Sound I (fun _ _ => True) z w) (h : Sound I r (f ⟨⟩) (g ⟨⟩)) :
    Sound I r (if b then z >>= f else f ⟨⟩) (if b' then w >>= g else g ⟨⟩) :=
  .ite hb (fun hc => .bind (hz hc) fun _ _ _ => h) fun _ => h

theorem lift {P : γ → Prop} {z : Checked γ} {f : γ → Raw ε σ α} (hz : z.Returns P)
    (hf : ∀ a, P a → Sound I r (f a) y) : Sound I r (liftM z >>= f) y :=
  fun s hs => .lift hz fun a ha => hf a ha s hs

theorem step {z : Checked γ} {a : γ} {f : γ → Raw ε σ α} (hz : z = .ok a) (hf : Sound I r (f a) y) :
    Sound I r (liftM z >>= f) y :=
  fun s hs => .step hz (hf s hs)

theorem value {z : Checked α} {a : α} {b : β} (hz : z = .ok a) (h : r a b) :
    Sound I r (liftM z : Raw ε σ α) (Pure.pure b) := by
  subst hz
  exact pure h

theorem ofExcept (z : Except ε β) : Sound I (· = ·) (liftM z : Raw ε σ β) (Proc.ofExcept z) := by
  cases z
  case error e => exact throw e
  case ok a    => exact pure rfl

theorem zoom {J : τ → Prop} {get : σ → τ} {put : τ → σ → σ} {x : Raw ε τ α} {y : Proc ε τ β}
    (h : Sound J r x y) (hI : ∀ s, I s → J (get s)) (hJ : ∀ s t, I s → J t → I (put t s)) :
    Sound I r (x.zoom get put) (y.zoom get put) := by
  intro s hs
  refine Checked.Returns.bind (h (get s) (hI s hs)) fun o ho => ?_
  rw [Proc.zoom_apply]
  generalize y (get s) = o' at ho ⊢
  cases ho
  case ok a b t h ht => exact .ok h (hJ s t hs ht)
  case error e t ht  => exact .error (hJ s t hs ht)

end Sound
end Raw
