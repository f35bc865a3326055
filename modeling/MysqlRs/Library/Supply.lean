import Mathlib.Order.Basic
import MysqlRs.Library.Outcome

-- Something that hands out items until there are no more.
structure Supply (ε σ α : Type) where
  {μ : Type}
  [wf : WellFoundedRelation μ]
  next : Proc ε σ (Option α)
  measure : σ → μ
  decreasing {s a s'} : next s = .ok (some a) s' → wf.rel (measure s') (measure s)

namespace Supply

variable {ε σ τ α β : Type} (src : Supply ε σ α)

def upTo : Nat → Proc ε σ (List α)
  | 0     => return []
  | n + 1 => do
    match ← src.next with
    | none   => return []
    | some a =>
      let as ← upTo n
      return a :: as

def all : Proc ε σ (List α) := fun s =>
  match _h : src.next s with
  | .ok (some a) s => (all s).bind fun as => pure (a :: as)
  | .ok none s     => .ok [] s
  | .error e s     => .error e s
  | .pending s     => .pending s
termination_by s => src.wf.wf.wrap (src.measure s)
decreasing_by exact src.decreasing _h

theorem all_some {s s' : σ} {a : α} (h : src.next s = .ok (some a) s') :
    src.all s = (src.all s').bind fun as => pure (a :: as) := by
  rw [all]
  split <;> simp_all

theorem all_none {s s' : σ} (h : src.next s = .ok none s') : src.all s = .ok [] s' := by
  rw [all]
  split <;> simp_all

theorem all_error {s s' : σ} {e : ε} (h : src.next s = .error e s') : src.all s = .error e s' := by
  rw [all]
  split <;> simp_all

theorem all_pending {s s' : σ} (h : src.next s = .pending s') : src.all s = .pending s' := by
  rw [all]
  split <;> simp_all

section Maintains

variable {P : σ → Prop} (hn : src.next.Maintains P)

include hn

theorem upTo_maintains (n : Nat) : (src.upTo n).Maintains P := by
  induction n
  case zero      => exact .pure []
  case succ n ih =>
    refine .bind hn fun a => ?_
    cases a
    case none   => exact .pure []
    case some a => exact .bind ih fun as => .pure _

theorem all_maintains : src.all.Maintains P := by
  intro s h
  have next {s : σ} {o : Outcome ε σ (Option α)} (h : P s) (ho : src.next s = o) : P o.state := ho ▸ hn s h
  fun_induction all src s
  case case1 ho ih => exact Proc.Maintains.bind (x := fun _ => src.all _) (fun _ _ => ih (next h ho)) (fun _ => .pure _) _ h
  case case2 ho    => exact next h ho
  case case3 ho    => exact next h ho
  case case4 ho    => exact next h ho

end Maintains

section Yields

variable {src} {P : σ → Prop} {Q : α → Prop}
  (hn : ∀ s a s', P s → src.next s = .ok (some a) s' → Q a ∧ P s')

include hn

theorem upTo_yields {n : Nat} {s s' : σ} {as : List α} (hs : P s) (h : src.upTo n s = .ok as s') : ∀ a ∈ as, Q a := by
  induction n generalizing s as
  case zero =>
    cases h
    exact fun _ h => nomatch h
  case succ n ih =>
    have ⟨r, s₁, hx, h⟩ := Outcome.bind_eq_ok.mp h
    cases r
    case none =>
      cases h
      exact fun _ h => nomatch h
    case some a =>
      have ⟨as, s₂, hy, h⟩ := Outcome.bind_eq_ok.mp h
      cases h
      have ⟨ha, h₁⟩ := hn s a s₁ hs hx
      exact List.forall_mem_cons.mpr ⟨ha, ih h₁ hy⟩

theorem all_yields {s s' : σ} {as : List α} (hs : P s) (h : src.all s = .ok as s') : ∀ a ∈ as, Q a := by
  fun_induction all src s generalizing as
  case case1 ho ih =>
    have ⟨as, s₂, hy, h⟩ := Outcome.bind_eq_ok.mp h
    cases h
    have ⟨ha, h₁⟩ := hn _ _ _ hs ho
    exact List.forall_mem_cons.mpr ⟨ha, ih h₁ hy⟩
  case case2 =>
    cases h
    exact fun _ h => nomatch h
  all_goals cases h

end Yields

-- `src` hands out what `src'` does, up to `f`, where the states are related by `R`.
def Mirrors (src : Supply ε σ α) (src' : Supply ε τ β) (f : β → α) (R : σ → τ → Prop) : Prop :=
  ∀ ⦃s t⦄, R s t → Outcome.Rel (fun a b => a = b.map f) R (src.next s) (src'.next t)

section Mirrors

variable {src} {src' : Supply ε τ β} {f : β → α} {R : σ → τ → Prop} (h : src.Mirrors src' f R) {s : σ} {t : τ}

include h

theorem Mirrors.upTo (n : Nat) (hR : R s t) :
    Outcome.Rel (fun as bs => as = bs.map f) R (src.upTo n s) (src'.upTo n t) := by
  induction n generalizing s t
  case zero      => exact .ok rfl hR
  case succ n ih =>
    refine (h hR).bind fun a b s t hab hR => ?_
    cases b
    case none =>
      rw [hab]
      exact .ok rfl hR
    case some b =>
      rw [hab]
      refine (ih hR).bind fun as bs s t has hR => ?_
      exact .ok (by rw [has]; rfl) hR

theorem Mirrors.all (hR : R s t) :
    Outcome.Rel (fun as bs => as = bs.map f) R (src.all s) (src'.all t) := by
  fun_induction Supply.all src' t generalizing s
  case case1 hn ih =>
    have ⟨a, s₁, hx, ha, hR₁⟩ := (hn ▸ h hR).of_ok
    rw [ha] at hx
    rw [src.all_some hx]
    refine (ih hR₁).bind fun as bs s t has hR => ?_
    exact .ok (by rw [has]; rfl) hR
  case case2 hn =>
    have ⟨a, s₁, hx, ha, hR₁⟩ := (hn ▸ h hR).of_ok
    rw [ha] at hx
    rw [src.all_none hx]
    exact .ok rfl hR₁
  case case3 hn =>
    have ⟨s₁, hx, hR₁⟩ := (hn ▸ h hR).of_error
    rw [src.all_error hx]
    exact .error hR₁
  case case4 hn =>
    have ⟨s₁, hx, hR₁⟩ := (hn ▸ h hR).of_pending
    rw [src.all_pending hx]
    exact .pending hR₁

end Mirrors
end Supply
