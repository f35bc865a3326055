import MysqlRs.Library.Outcome

-- Computations whose states record a history. `G` says that nothing in a history is out of order.
namespace Proc

variable {ε σ α β : Type} {G : σ → Prop}

-- What is in order at the end has been in order at the start.
def Reflects (G : σ → Prop) (x : Proc ε σ α) : Prop :=
  ∀ s, G (x s).state → G s

namespace Reflects

theorem pure (a : α) : Reflects G (pure a : Proc ε σ α) :=
  fun _ h => h

theorem get : Reflects G (get : Proc ε σ σ) :=
  fun _ h => h

theorem throw (e : ε) : Reflects G (throw e : Proc ε σ α) :=
  fun _ h => h

theorem ofExcept (x : Except ε α) : Reflects G (ofExcept x : Proc ε σ α) := by
  cases x <;> exact fun _ h => h

theorem modify {f : σ → σ} (h : ∀ s, G (f s) → G s) : Reflects G (modify f : Proc ε σ PUnit) :=
  h

theorem ite {b : Prop} [Decidable b] {x y : Proc ε σ α} (hx : x.Reflects G) (hy : y.Reflects G) :
    Reflects G (if b then x else y) := by
  split_ifs
  · exact hx
  · exact hy

theorem bind {x : Proc ε σ α} {k : α → Proc ε σ β} (hx : x.Reflects G) (hk : ∀ a, (k a).Reflects G) :
    Reflects G (x >>= k) := by
  intro s h
  have hx := hx s
  rw [bind_apply] at h
  cases hs : x s
  all_goals
    rw [hs] at h hx
  case ok a s' => exact hx (hk a s' h)
  all_goals exact hx h

-- An early exit with an error.
theorem guard {b : Prop} [Decidable b] {k : PUnit → Proc ε σ α} (e : ε) (hk : (k ⟨⟩).Reflects G) :
    Reflects G (if b then Proc.throw e >>= k else k ⟨⟩) :=
  .ite (.throw e) hk

theorem attempt {x : Proc ε σ α} (hx : x.Reflects G) : Reflects G x.attempt := by
  intro s h
  have hx := hx s
  rw [Proc.attempt] at h
  cases hs : x s
  all_goals
    rw [hs] at h hx
    exact hx h

end Reflects

-- In a history that is in order, `I` leads to `J`, whatever comes of the computation.
def Leads (G I J : σ → Prop) (x : Proc ε σ α) : Prop :=
  ∀ s, G (x s).state → I s → J (x s).state

namespace Leads

variable {I J K : σ → Prop}

theorem pure (h : ∀ s, I s → J s) (a : α) : Leads G I J (pure a : Proc ε σ α) :=
  fun s _ => h s

theorem throw (h : ∀ s, I s → J s) (e : ε) : Leads G I J (throw e : Proc ε σ α) :=
  fun s _ => h s

theorem ofExcept (h : ∀ s, I s → J s) (x : Except ε α) : Leads G I J (ofExcept x : Proc ε σ α) := by
  cases x <;> exact fun s _ => h s

theorem weaken {I' : σ → Prop} {x : Proc ε σ α} (hx : x.Leads G I' J) (h : ∀ s, I s → I' s) : x.Leads G I J :=
  fun s hg hi => hx s hg (h s hi)

theorem ite {b : Prop} [Decidable b] {x y : Proc ε σ α} (hx : b → x.Leads G I J) (hy : ¬b → y.Leads G I J) :
    Leads G I J (if b then x else y) := by
  split_ifs with h
  · exact hx h
  · exact hy h

theorem guard {b : Prop} [Decidable b] {k : PUnit → Proc ε σ α} (e : ε) (h : ∀ s, I s → J s)
    (hk : ¬b → (k ⟨⟩).Leads G I J) : Leads G I J (if b then Proc.throw e >>= k else k ⟨⟩) :=
  .ite (fun _ => .throw h e) hk

-- What is seen of the state tells the branches apart.
theorem get {k : σ → Proc ε σ α} (hk : ∀ s, Leads G (fun s' => s' = s ∧ I s) J (k s)) :
    Leads G I J ((get : Proc ε σ σ) >>= k) :=
  fun s hg h => hk s s hg ⟨rfl, h⟩

-- The computation may end early, where the first part has led to.
theorem bind {x : Proc ε σ α} {k : α → Proc ε σ β} (hx : x.Leads G I J) (hJ : ∀ s, J s → K s)
    (hk : ∀ a, (k a).Leads G J K) (hr : ∀ a, (k a).Reflects G) : Leads G I K (x >>= k) := by
  intro s hg h
  have hx := hx s
  rw [bind_apply] at hg ⊢
  cases hs : x s
  all_goals
    rw [hs] at hg hx
  case ok a s' => exact hk a s' hg (hx (hr a s' hg) h)
  all_goals exact hJ _ (hx hg h)

theorem attempt {x : Proc ε σ α} (hx : x.Leads G I J) : Leads G I J x.attempt := by
  intro s hg h
  have hx := hx s
  rw [Proc.attempt] at hg ⊢
  cases hs : x s
  all_goals
    rw [hs] at hg hx
    exact hx hg h

end Leads
end Proc
