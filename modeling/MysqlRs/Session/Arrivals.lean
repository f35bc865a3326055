import MysqlRs.Core.Packet
import MysqlRs.Library.Source

namespace MySQL

abbrev IsError (p : Bytes) : Prop :=
  (MysqlPacket.new p).isErrorPacket

-- Only the last packet may be an error packet.
def ErrorLast (ps : List Bytes) : Prop :=
  ∀ p ∈ ps.dropLast, ¬IsError p

instance : DecidablePred ErrorLast := fun ps =>
  inferInstanceAs (Decidable (∀ p ∈ ps.dropLast, ¬IsError p))

namespace ErrorLast

variable {ps qs : List Bytes}

theorem of_append (ps : List Bytes) (h : ErrorLast (ps ++ qs)) : ErrorLast qs := by
  cases qs
  case nil       => exact fun _ hp => nomatch hp
  case cons q qs =>
    intro p hp
    refine h p ?_
    rw [List.dropLast_append_of_ne_nil (List.cons_ne_nil q qs)]
    exact List.mem_append_right _ hp

theorem drop (h : ErrorLast ps) (k : Nat) : ErrorLast (ps.drop k) :=
  of_append (ps.take k) (by rwa [List.take_append_drop])

theorem of_append_ne_nil (h : ErrorLast (ps ++ qs)) (hq : qs ≠ []) : ∀ p ∈ ps, ¬IsError p := by
  intro p hp
  refine h p ?_
  rw [List.dropLast_append_of_ne_nil hq]
  exact List.mem_append_left _ hp

theorem of_forall (h : ∀ p ∈ ps, ¬IsError p) : ErrorLast ps :=
  fun p hp => h p (List.dropLast_subset _ hp)

-- Either there is no error packet, or it is the last packet.
theorem cases (h : ErrorLast ps) :
    (∀ p ∈ ps, ¬IsError p) ∨ ∃ qs e, ps = qs ++ [e] ∧ (∀ p ∈ qs, ¬IsError p) ∧ IsError e := by
  rcases List.eq_nil_or_concat' ps with rfl | ⟨qs, e, rfl⟩
  · exact .inl fun _ hp => nomatch hp
  · have hq := h.of_append_ne_nil (List.cons_ne_nil e [])
    by_cases he : IsError e
    case pos => exact .inr ⟨qs, e, rfl, hq, he⟩
    case neg =>
      refine .inl fun p hp => ?_
      rcases List.mem_append.mp hp with hp | hp
      · exact hq p hp
      · exact List.mem_singleton.mp hp ▸ he

end ErrorLast

-- What a client still has to read, without the bytes: the packets in its queue, and for each read
-- that is to come the packets that it completes.
@[ext]
structure Arrivals where
  queue  : List Bytes
  coming : List (List Bytes)
  deriving DecidableEq

namespace Arrivals

def all (a : Arrivals) : List Bytes :=
  a.queue ++ a.coming.flatten

-- Reads until a read completes a packet. An error packet is raised at once; the packets which that
-- read completed before it stay in the queue.
def arrive : List (List Bytes) → Outcome Error Arrivals Bytes
  | []              => .pending ⟨[], []⟩
  | batch :: coming =>
    match batch.find? (IsError ·) with
    | some e => .error (Error.raiseMysqlException e) ⟨batch.takeWhile (¬IsError ·), coming⟩
    | none   =>
      match batch with
      | []        => arrive coming
      | p :: rest => .ok p ⟨rest, coming⟩

theorem arrive_cons {p : Bytes} {rest : List Bytes} {coming : List (List Bytes)}
    (h : ∀ q ∈ p :: rest, ¬IsError q) : arrive ((p :: rest) :: coming) = .ok p ⟨rest, coming⟩ := by
  rw [arrive, List.find?_eq_none.mpr (by simpa using h)]

theorem arrive_error {before : List Bytes} {e : Bytes} (after : List Bytes)
    (coming : List (List Bytes)) (h : ∀ p ∈ before, ¬IsError p) (he : IsError e) :
    arrive ((before ++ e :: after) :: coming) =
      .error (Error.raiseMysqlException e) ⟨before, coming⟩ := by
  have hf : (before ++ e :: after).find? (IsError ·) = some e := by
    rw [List.find?_append, List.find?_eq_none.mpr (by simpa using h)]
    simp [he]
  have ht : (before ++ e :: after).takeWhile (¬IsError ·) = before := by
    rw [List.takeWhile_append_of_pos (by simpa using h)]
    simp [he]
  rw [arrive.eq_def]
  simp only [hf, ht]

def nextPacket : Proc Error Arrivals Bytes := fun a =>
  match a.queue with
  | p :: rest => .ok p ⟨rest, a.coming⟩
  | []        => arrive a.coming

theorem arrive_all {coming : List (List Bytes)} {p : Bytes} {a : Arrivals}
    (h : arrive coming = .ok p a) : coming.flatten = p :: a.all := by
  fun_induction arrive coming
  case case3 ih => exact ih h
  case case4    =>
    obtain ⟨rfl, rfl⟩ := Outcome.ok.inj h
    rfl
  all_goals exact nomatch h

theorem nextPacket_all {a a' : Arrivals} {p : Bytes} (h : nextPacket a = .ok p a') :
    a.all = p :: a'.all := by
  rw [nextPacket] at h
  split at h
  case h_1 hq =>
    obtain ⟨rfl, rfl⟩ := Outcome.ok.inj h
    simp [all, hq]
  case h_2 hq => simpa [all, hq] using arrive_all h

def source : Source Error Arrivals Bytes where
  next := nextPacket
  measure a := a.all.length
  decreasing h := by
    rw [nextPacket_all h]
    exact Nat.lt_succ_self _

-- Where no packet is to come, the next one is waited for.
theorem next_pending {a : Arrivals} (h : a.all = []) : ∃ a', source.next a = .pending a' := by
  obtain ⟨queue, coming⟩ := a
  obtain ⟨rfl, hc⟩ := List.append_eq_nil_iff.mp h
  have arrive {coming : List (List Bytes)} (hc : coming.flatten = []) : ∃ a', arrive coming = .pending a' := by
    induction coming
    case nil => exact ⟨_, rfl⟩
    case cons batch coming ih =>
      obtain ⟨rfl, hc⟩ := List.append_eq_nil_iff.mp hc
      exact ih hc
  exact arrive hc

theorem next_of_queue (p : Bytes) (rest : List Bytes) (coming : List (List Bytes)) :
    source.next ⟨p :: rest, coming⟩ = .ok p ⟨rest, coming⟩ :=
  rfl

theorem supplies_queue (queue rest : List Bytes) (coming : List (List Bytes)) :
    source.Supplies ⟨queue ++ rest, coming⟩ queue ⟨rest, coming⟩ := by
  induction queue
  case nil          => exact .nil _
  case cons p _ ih => exact .cons (next_of_queue p _ _) ih

-- Reads without an error packet hand over what they bring.
theorem supplies_batches (queue : List Bytes) {bs : List (List Bytes)} (cs : List (List Bytes))
    (h : ∀ p ∈ bs.flatten, ¬IsError p) :
    ∃ es, es.flatten = [] ∧
      source.Supplies ⟨queue, bs ++ cs⟩ (queue ++ bs.flatten) ⟨[], es ++ cs⟩ := by
  have hq := supplies_queue queue []
  simp only [List.append_nil] at hq
  induction bs generalizing queue
  case nil => exact ⟨[], rfl, by simpa using hq cs⟩
  case cons b bs ih =>
    rw [List.flatten_cons, List.forall_mem_append] at h
    cases b
    case nil =>
      have ⟨es, he, hs⟩ := ih [] h.right (supplies_queue [] [])
      cases hb : bs.flatten
      case nil =>
        refine ⟨[] :: bs, by simpa using hb, ?_⟩
        simpa [hb] using hq ([] :: bs ++ cs)
      case cons p ps =>
        rw [hb, List.nil_append] at hs
        obtain ⟨⟩ | ⟨hn, hs⟩ := hs
        refine ⟨es, he, ?_⟩
        rw [List.flatten_cons, List.nil_append, hb]
        exact (hq _).append (.cons hn hs)
    case cons p b =>
      have ⟨es, he, hs⟩ := ih b h.right (by simpa using supplies_queue b [])
      refine ⟨es, he, (hq _).append ?_⟩
      rw [List.flatten_cons, List.cons_append]
      exact .cons (arrive_cons h.left) hs

-- The read that brings the last packet.
theorem exists_last {bs : List (List Bytes)} {qs : List Bytes} {e : Bytes} (h : bs.flatten = qs ++ [e]) :
    ∃ bs₁ before bs₂, bs = bs₁ ++ (before ++ [e]) :: bs₂ ∧ bs₁.flatten ++ before = qs ∧
      bs₂.flatten = [] := by
  induction bs generalizing qs
  case nil => exact nomatch List.append_eq_nil_iff.mp h.symm
  case cons b bs ih =>
    rw [List.flatten_cons] at h
    rcases List.eq_nil_or_concat' bs.flatten with hb | ⟨rs, e', hb⟩
    · rw [hb, List.append_nil] at h
      exact ⟨[], qs, bs, by rw [h]; rfl, rfl, hb⟩
    · rw [hb, ← List.append_assoc] at h
      obtain ⟨rfl, he⟩ := List.append_inj' h rfl
      obtain rfl := List.singleton_inj.mp he
      have ⟨bs₁, before, bs₂, h₁, h₂, h₃⟩ := ih hb
      exact ⟨b :: bs₁, before, bs₂, by rw [h₁]; rfl,
        by rw [List.flatten_cons, List.append_assoc, h₂], h₃⟩

-- An error packet leaves the packets that came before it in the same read.
theorem next_error {before : List Bytes} {e : Bytes} {es cs : List (List Bytes)} (hes : es.flatten = [])
    (h : ∀ p ∈ before, ¬IsError p) (he : IsError e) :
    source.next ⟨[], es ++ (before ++ [e]) :: cs⟩ =
      .error (Error.raiseMysqlException e) ⟨before, cs⟩ := by
  induction es
  case nil          => exact arrive_error [] cs h he
  case cons c es ih =>
    obtain ⟨rfl, hes⟩ := List.append_eq_nil_iff.mp hes
    exact ih hes

-- The number of packets that are there after `k` reads.
def arrivedBy (a : Arrivals) (k : Nat) : Nat :=
  a.queue.length + (a.coming.take k).flatten.length

theorem arrivedBy_add (a : Arrivals) (k : Nat) :
    a.arrivedBy k + (a.coming.drop k).flatten.length = a.all.length := by
  rw [arrivedBy, all, List.length_append, Nat.add_assoc, ← List.length_append, ← List.flatten_append,
    List.take_append_drop]

theorem all_take (a : Arrivals) (k : Nat) :
    a.all.take (a.arrivedBy k) = a.queue ++ (a.coming.take k).flatten := by
  have h : a.all = (a.queue ++ (a.coming.take k).flatten) ++ (a.coming.drop k).flatten := by
    rw [List.append_assoc, ← List.flatten_append, List.take_append_drop, all]
  rw [h, arrivedBy, ← List.length_append, List.take_left]

theorem arrivedBy_mono (a : Arrivals) {j k : Nat} (h : j ≤ k) : a.arrivedBy j ≤ a.arrivedBy k := by
  obtain ⟨m, rfl⟩ := Nat.exists_eq_add_of_le h
  simp only [arrivedBy, List.take_add, List.flatten_append, List.length_append]
  omega

-- No more reads are made than a packet needs.
theorem next_reads {a a' : Arrivals} {p : Bytes} (h : source.next a = .ok p a') :
    ∃ m, a'.coming = a.coming.drop m ∧ p :: a'.queue = a.queue ++ (a.coming.take m).flatten ∧
      ∀ k < m, a.arrivedBy k = 0 := by
  obtain ⟨queue, coming⟩ := a
  cases queue
  case cons q queue =>
    obtain ⟨rfl, rfl⟩ := Outcome.ok.inj h
    exact ⟨0, rfl, by simp, fun _ hk => absurd hk (Nat.not_lt_zero _)⟩
  case nil =>
    change arrive coming = _ at h
    fun_induction arrive coming
    case case3 coming hf ih =>
      have ⟨m, h₁, h₂, h₃⟩ := ih h
      refine ⟨m + 1, h₁, h₂, fun k hk => ?_⟩
      cases k
      case zero   => rfl
      case succ k => simpa [arrivedBy] using h₃ k (Nat.lt_of_succ_lt_succ hk)
    case case4 q rest coming hf =>
      obtain ⟨rfl, rfl⟩ := Outcome.ok.inj h
      refine ⟨1, rfl, by simp, fun k hk => ?_⟩
      obtain rfl : k = 0 := by omega
      rfl
    all_goals exact nomatch h

theorem supplies_reads {a a' : Arrivals} {is : List Bytes} (h : source.Supplies a is a') :
    ∃ m, a'.coming = a.coming.drop m ∧ is ++ a'.queue = a.queue ++ (a.coming.take m).flatten ∧
      ∀ k < m, a.arrivedBy k < is.length := by
  induction h
  case nil a => exact ⟨0, rfl, by simp, fun _ hk => absurd hk (Nat.not_lt_zero _)⟩
  case cons a p a₁ is a₂ hn _ ih =>
    have ⟨m₁, h₁, h₂, h₃⟩ := next_reads hn
    have ⟨m₂, h₄, h₅, h₆⟩ := ih
    refine ⟨m₁ + m₂, by rw [h₄, h₁, List.drop_drop], ?_, fun k hk => ?_⟩
    · rw [List.cons_append, h₅, ← List.cons_append, h₂, h₁, List.append_assoc, ← List.flatten_append,
        ← List.take_add]
    · rcases Nat.lt_or_ge k m₁ with hlt | hge
      · rw [h₃ k hlt]
        exact Nat.succ_pos _
      · obtain ⟨j, rfl⟩ := Nat.exists_eq_add_of_le hge
        have hj := h₆ j (by omega)
        have hl := congrArg List.length h₂
        rw [arrivedBy, h₁] at hj
        rw [arrivedBy, List.take_add, List.flatten_append, List.length_append]
        rw [List.length_cons, List.length_append] at hl
        rw [List.length_cons]
        omega

-- An error packet is never queued.
theorem supplies_queue_not_error {a a' : Arrivals} {is : List Bytes} (h : source.Supplies a is a')
    (ha : ∀ p ∈ a.queue, ¬IsError p) : ∀ p ∈ a'.queue, ¬IsError p := by
  refine h.invariant (P := fun a => ∀ p ∈ a.queue, ¬IsError p) (fun {a p a'} hn ha => ?_) ha
  obtain ⟨queue, coming⟩ := a
  cases queue
  case cons q queue =>
    obtain ⟨rfl, rfl⟩ := Outcome.ok.inj hn
    exact (List.forall_mem_cons.mp ha).right
  case nil =>
    change arrive coming = _ at hn
    fun_induction arrive coming
    case case3 ih => exact ih ha hn
    case case4 hf =>
      obtain ⟨rfl, rfl⟩ := Outcome.ok.inj hn
      exact fun p hp => by simpa using List.find?_eq_none.mp hf p (List.mem_cons_of_mem _ hp)
    all_goals exact nomatch hn

theorem supplies_all {a a' : Arrivals} {is : List Bytes} (h : source.Supplies a is a') :
    a.all = is ++ a'.all := by
  induction h
  case nil             => rfl
  case cons hn _ ih => rw [nextPacket_all hn, ih, List.cons_append]

-- After the first `is` packets, everything is there as soon as they are.
theorem supplies_queued {a a' : Arrivals} {is : List Bytes} (h : source.Supplies a is a') :
    a'.coming.flatten = [] ↔ ∀ k, is.length ≤ a.arrivedBy k → a.all.length ≤ a.arrivedBy k := by
  have ⟨m, h₁, h₂, h₃⟩ := supplies_reads h
  have hm := a.arrivedBy_add m
  rw [← h₁] at hm
  have hi := congrArg List.length h₂
  rw [List.length_append, List.length_append, ← arrivedBy] at hi
  constructor
  case mp =>
    intro hc k hk
    have hkm : m ≤ k := Nat.le_of_not_lt fun hlt => absurd (h₃ k hlt) (Nat.not_lt.mpr hk)
    rw [← hm, hc, List.length_nil, Nat.add_zero]
    exact a.arrivedBy_mono hkm
  case mpr =>
    intro hk
    have := hk m (by omega)
    exact List.length_eq_zero_iff.mp (by omega)

-- Without an error packet, everything can be taken.
theorem supplies_take {a : Arrivals} (h : ∀ p ∈ a.all, ¬IsError p) (n : Nat) :
    ∃ a', source.Supplies a (a.all.take n) a' := by
  have ⟨es, _, hs⟩ := supplies_batches a.queue [] fun p hp => h p (List.mem_append_right _ hp)
  simp only [List.append_nil] at hs
  rw [← all, ← List.take_append_drop n a.all] at hs
  have ⟨a', hs, _⟩ := hs.split
  exact ⟨a', hs⟩

-- What is left when `n` packets have been taken.
def skip : Nat → Arrivals → Arrivals
  | 0,     a => a
  | n + 1, a =>
    match nextPacket a with
    | .ok _ a' => skip n a'
    | _        => a

theorem supplies_skip {a a' : Arrivals} {is : List Bytes} (h : source.Supplies a is a') :
    a.skip is.length = a' := by
  induction h
  case nil             => rfl
  case cons hn _ ih =>
    change nextPacket _ = _ at hn
    rw [List.length_cons, skip, hn]
    exact ih

section ErrorAtEnd

variable {a : Arrivals} {xs : List Bytes} {e : Bytes} (ha : a.all = xs ++ [e])
  (hx : ∀ p ∈ xs, ¬IsError p)

include ha hx

-- With an error packet at the end, the packets can be taken that are there before it.
theorem supplies_before {n k : Nat} (hn : n ≤ a.arrivedBy k) (hk : a.arrivedBy k < a.all.length) :
    ∃ a', source.Supplies a (xs.take n) a' := by
  have hs : a.queue ++ (a.coming.take k).flatten = xs.take (a.arrivedBy k) := by
    rw [ha, List.length_append, List.length_singleton] at hk
    rw [← all_take, ha, List.take_append_of_le_length (Nat.le_of_lt_succ hk)]
  have hne : ∀ p ∈ (a.coming.take k).flatten, ¬IsError p := fun p hp =>
    hx p (List.mem_of_mem_take (hs ▸ List.mem_append_right _ hp))
  have ⟨es, _, h⟩ := supplies_batches a.queue (a.coming.drop k) hne
  rw [List.take_append_drop, hs, ← List.take_append_drop n (xs.take (a.arrivedBy k)),
    List.take_take, Nat.min_eq_left hn] at h
  have ⟨a', h, _⟩ := h.split
  exact ⟨a', h⟩

-- Where the error packet is there as soon as `n` packets are, taking them fails.
theorem supplies_error (he : IsError e) (hq : ∀ p ∈ a.queue, ¬IsError p) {n : Nat}
    (hn : ∀ k, n ≤ a.arrivedBy k → a.all.length ≤ a.arrivedBy k) :
    ∃ j a₁ a₂, j < n ∧ source.Supplies a (xs.take j) a₁ ∧
      source.next a₁ = .error (Error.raiseMysqlException e) a₂ := by
  have ⟨ys, hy, hc⟩ : ∃ ys, xs = a.queue ++ ys ∧ a.coming.flatten = ys ++ [e] := by
    rcases List.eq_nil_or_concat' a.coming.flatten with hc | ⟨ys, e', hc⟩
    · rw [all, hc, List.append_nil] at ha
      exact absurd he (hq e (by rw [ha]; exact List.mem_append_right _ (List.mem_singleton_self e)))
    · rw [all, hc, ← List.append_assoc] at ha
      obtain ⟨rfl, h⟩ := List.append_inj' ha rfl
      exact ⟨ys, rfl, by rw [hc, h]⟩
  have ⟨bs₁, before, bs₂, h₁, h₂, h₃⟩ := exists_last hc
  rw [hy, List.forall_mem_append, ← h₂, List.forall_mem_append] at hx
  have ⟨es, hes, hs⟩ := supplies_batches a.queue ((before ++ [e]) :: bs₂) hx.right.left
  rw [← h₁] at hs
  have hxs : xs = (a.queue ++ bs₁.flatten) ++ before := by rw [hy, ← h₂, List.append_assoc]
  have hk : a.arrivedBy bs₁.length = (a.queue ++ bs₁.flatten).length := by
    rw [arrivedBy, h₁, List.take_left, List.length_append]
  refine ⟨(a.queue ++ bs₁.flatten).length, ⟨[], es ++ (before ++ [e]) :: bs₂⟩, ⟨before, bs₂⟩, ?_, ?_,
    next_error hes hx.right.right he⟩
  · refine Nat.lt_of_not_le fun hle => ?_
    have := hn bs₁.length (by rwa [hk])
    rw [hk, ha, hxs] at this
    simp only [List.length_append, List.length_singleton] at this
    omega
  · rwa [hxs, List.take_left]

end ErrorAtEnd

section FeedLocal

variable {τ α : Type} {step : Bytes → Proc Error τ (Option α)} {t t' : τ}

theorem feedLocal_ok {cs : List (List Bytes)} {x : α} (h : ∀ p ∈ cs.flatten, ¬IsError p)
    (hf : Source.feedList step cs.flatten t = .ok (some (x, [])) t') :
    ∃ a, a.all = [] ∧ source.feedLocal (fun p _ => step p) t ⟨[], cs⟩ = .ok (x, t') a := by
  have ⟨es, he, hs⟩ := supplies_batches [] [] h
  simp only [List.append_nil, List.nil_append] at hs
  have ⟨_, a, _, _, h₂, hf⟩ := hs.feed_some hf
  obtain rfl := h₂.nil_eq
  exact ⟨⟨[], es⟩, he, by rw [Source.feedLocal, hf]⟩

theorem feedLocal_error {bs : List (List Bytes)} (cs : List (List Bytes)) {before : List Bytes} {e : Bytes}
    (h : ∀ p ∈ bs.flatten ++ before, ¬IsError p) (he : IsError e)
    (hf : Source.feedList step (bs.flatten ++ before) t = .ok none t') :
    source.feedLocal (fun p _ => step p) t ⟨[], bs ++ (before ++ [e]) :: cs⟩ =
      .error (Error.raiseMysqlException e) ⟨before, cs⟩ := by
  rw [List.forall_mem_append] at h
  have ⟨es, hes, hs⟩ := supplies_batches [] ((before ++ [e]) :: cs) h.left
  have ⟨_, hf⟩ := Source.feedList_none_left hf
  rw [Source.feedLocal, hs.feed_exhausted hf, source.feed_next_error (next_error hes h.right he)]

end FeedLocal

end Arrivals
end MySQL
