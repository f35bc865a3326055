import MysqlRs.Library.LittleEndian

-- Readers that take a list apart from the front.
abbrev Reading (σ α : Type) :=
  StateT (List σ) Option α

namespace Reading

variable {σ α β : Type}

def next : Reading σ σ
  | []      => none
  | a :: as => some (a, as)

def take (n : Nat) : Reading σ (List σ) := fun as =>
  if n ≤ as.length then some (as.take n, as.drop n) else none

-- What is in front of a delimiter. The delimiter is read, too.
def upTo [DecidableEq σ] (stop : σ) : Reading σ (List σ) := fun as =>
  if stop ∈ as then some (as.takeWhile (· ≠ stop), (as.dropWhile (· ≠ stop)).drop 1) else none

-- Items until nothing is left, but not more than a given number of them.
def exhaust (r : Reading σ α) : Nat → Reading σ (List α)
  | _,     []      => some ([], [])
  | 0,     _ :: _  => none
  | n + 1, a :: as => do
    let (b, as) ← r (a :: as)
    let (bs, as) ← exhaust r n as
    some (b :: bs, as)

def number (width : Nat) : Reading UInt8 Nat :=
  LittleEndian.decode <$> take width

-- What is read from the next `n` items, if it is read from all of them.
def within (n : Nat) (r : Reading σ α) : Reading σ α := do
  match r (← take n) with
  | some (a, []) => return a
  | _            => failure

-- In front of anything, `r` reads `as` and nothing else, and takes it for `a`.
def Reads (r : Reading σ α) (as : List σ) (a : α) : Prop :=
  ∀ rest, r (as ++ rest) = some (a, rest)

namespace Reads

variable {r : Reading σ α} {k : α → Reading σ β} {as bs : List σ} {a : α} {b : β}

theorem pure (a : α) : Reads (pure a : Reading σ α) [] a :=
  fun _ => rfl

theorem bind (h : r.Reads as a) (h' : (k a).Reads bs b) : (r >>= k).Reads (as ++ bs) b := by
  intro rest
  change (r (as ++ bs ++ rest)).bind (fun x => k x.1 x.2) = _
  rw [List.append_assoc, h, Option.bind_some, h']

theorem map (f : α → β) (h : r.Reads as a) : (f <$> r).Reads as (f a) := by
  have hb := h.bind (k := fun a => Pure.pure (f a)) (.pure (f a))
  rwa [List.append_nil] at hb

theorem next (a : σ) : Reads next [a] a :=
  fun _ => rfl

theorem take (as : List σ) : Reads (take as.length) as as := by
  intro rest
  simp [Reading.take]

theorem upTo [DecidableEq σ] {stop : σ} (h : stop ∉ as) : Reads (upTo stop) (as ++ [stop]) as := by
  intro rest
  have hp : ∀ a ∈ as, decide (a ≠ stop) := fun a ha => decide_eq_true fun hs => h (hs ▸ ha)
  rw [Reading.upTo, if_pos (by simp), List.append_assoc, List.takeWhile_append_of_pos hp,
    List.dropWhile_append_of_pos hp]
  simp

theorem number (width : Nat) {n : Nat} (h : n < 256 ^ width) :
    Reads (number width) (LittleEndian.encode width n) n := by
  have ht := (take (LittleEndian.encode width n)).map LittleEndian.decode
  rwa [LittleEndian.encode_length, LittleEndian.decode_encode_of_lt h] at ht

theorem within (h : r as = some (a, [])) : Reads (within as.length r) as a := by
  let k (as : List σ) : Reading σ α := match r as with | some (a, []) => Pure.pure a | _ => failure
  have hk : (k as).Reads [] a := by
    simp only [k, h]
    exact .pure a
  have hb := (take as).bind hk
  rwa [List.append_nil] at hb

end Reads

-- What is read from a list with nothing behind it.
theorem Reads.all {r : Reading σ α} {as : List σ} {a : α} (h : r.Reads as a) : r as = some (a, []) := by
  have hr := h []
  rwa [List.append_nil] at hr

-- Items that are each read by themselves are read one after the other.
theorem exhaust_flatMap {r : Reading σ α} {encode : α → List σ} {as : List α} {n : Nat}
    (h : ∀ a ∈ as, r.Reads (encode a) a) (hne : ∀ a ∈ as, encode a ≠ []) (hn : as.length ≤ n) :
    exhaust r n (as.flatMap encode) = some (as, []) := by
  induction as generalizing n
  case nil => cases n <;> rfl
  case cons a as ih =>
    obtain ⟨n, rfl⟩ : ∃ m, n = m + 1 := ⟨n - 1, by rw [List.length_cons] at hn; omega⟩
    have ⟨s, ss, hs⟩ := List.exists_cons_of_ne_nil (hne a List.mem_cons_self)
    have hr := h a List.mem_cons_self (as.flatMap encode)
    have hrest := ih (fun b hb => h b (List.mem_cons_of_mem a hb)) (fun b hb => hne b (List.mem_cons_of_mem a hb))
      (Nat.le_of_succ_le_succ hn)
    rw [List.flatMap_cons, hs] at *
    rw [List.cons_append, exhaust, ← List.cons_append, hr]
    simp [hrest]

section Codes

variable {δ : Type} {m : Type → Type} [Functor m] [LawfulFunctor m] {f : List σ → m (List α × δ)}
  {code : α → List σ}

-- What undoes the code of every item in front of anything undoes the code of a list.
theorem undo_flatMap (h : ∀ a rest, f (code a ++ rest) = (fun r => (a :: r.1, r.2)) <$> f rest)
    (as : List α) (rest : List σ) :
    f (as.flatMap code ++ rest) = (fun r => (as ++ r.1, r.2)) <$> f rest := by
  induction as
  case nil          => simp
  case cons a as ih =>
    rw [List.flatMap_cons, List.append_assoc, h, ih, ← comp_map]
    rfl

end Codes

end Reading
