import MysqlRs.Core.Result

namespace MySQL

open MysqlPacket

namespace MysqlPacket

-- What a packet has not read yet.
structure Unread (p : MysqlPacket) (bs : Bytes) : Prop where
  rest  : p.data.drop p.position = bs
  inside : p.position ≤ p.data.length
  small : p.data.length ≤ usizeMax

theorem unread_new {data : Bytes} (h : data.length ≤ usizeMax) : (new data).Unread data :=
  ⟨rfl, Nat.zero_le _, h⟩

-- In front of whatever follows, `r` reads exactly `bs` and takes it for `a`.
def Consumes {α : Type} (r : Reader α) (bs : Bytes) (a : α) : Prop :=
  ∀ ⦃p more⦄, p.Unread (bs ++ more) → ∃ p', r p = .ok (a, p') ∧ p'.Unread more

namespace Consumes

variable {α β : Type} {r : Reader α} {k : α → Reader β} {bs cs : Bytes} {a : α} {b : β}

theorem pure (a : α) : Consumes (Pure.pure a) [] a :=
  fun p _ h => ⟨p, rfl, h⟩

theorem bind (h : Consumes r bs a) (h' : Consumes (k a) cs b) : Consumes (r >>= k) (bs ++ cs) b := by
  intro p more hp
  rw [List.append_assoc] at hp
  have ⟨p₁, h₁, hp₁⟩ := h hp
  have ⟨p₂, h₂, hp₂⟩ := h' hp₁
  refine ⟨p₂, ?_, hp₂⟩
  change (r p >>= fun x => k x.1 x.2) = _
  rw [h₁]
  exact h₂

theorem map {f : α → β} (h : Consumes r bs a) : Consumes (do return f (← r)) bs (f a) := by
  have := h.bind (k := fun a => Pure.pure (f a)) (.pure (f a))
  rwa [List.append_nil] at this

end Consumes

-- `r` takes a packet of which `bs` is unread for `a`.
def Finishes {α : Type} (r : Reader α) (bs : Bytes) (a : α) : Prop :=
  ∀ ⦃p⦄, p.Unread bs → ∃ p', r p = .ok (a, p')

section Finishes

variable {α β : Type} {r : Reader α} {k : α → Reader β} {bs cs : Bytes} {a : α} {b : β}

theorem Consumes.finishes (h : Consumes r bs a) (more : Bytes) : Finishes r (bs ++ more) a :=
  fun _ hp => have ⟨p', hr, _⟩ := h hp; ⟨p', hr⟩

theorem Consumes.bind_finishes (h : Consumes r bs a) (h' : Finishes (k a) cs b) :
    Finishes (r >>= k) (bs ++ cs) b := by
  intro p hp
  have ⟨p₁, h₁, hp₁⟩ := h hp
  have ⟨p₂, h₂⟩ := h' hp₁
  refine ⟨p₂, ?_⟩
  change (r p >>= fun x => k x.1 x.2) = _
  rw [h₁]
  exact h₂

theorem finishes_readAll (bs : Bytes) : Finishes readAll bs bs := by
  intro p hp
  exact ⟨_, by rw [readAll, hp.rest]⟩

theorem Finishes.map {f : α → β} (h : Finishes r bs a) : Finishes (do return f (← r)) bs (f a) := by
  intro p hp
  have ⟨p', hr⟩ := h hp
  refine ⟨p', ?_⟩
  change (r p >>= fun x => Pure.pure (f x.1, x.2)) = _
  rw [hr]
  rfl

theorem Finishes.run' (h : Finishes r bs a) (hs : bs.length ≤ usizeMax) :
    r.run' (new bs) = .ok a := by
  have ⟨_, hr⟩ := h (unread_new hs)
  change (r (new bs) >>= fun x => Pure.pure x.1) = _
  rw [hr]
  rfl

end Finishes

-- `r` stays inside the packet and does not look at what comes behind the bytes that it reads.
def Local {α : Type} (r : Reader α) : Prop :=
  ∀ ⦃p a p'⦄, p.position ≤ p.data.length → r p = .ok (a, p') →
    p'.position ≤ p'.data.length ∧
      ∀ more, r { p with data := p.data ++ more } = .ok (a, { p' with data := p'.data ++ more })

namespace Local

variable {α β : Type} {r : Reader α} {k : α → Reader β}

theorem pure (a : α) : Local (Pure.pure a) := by
  intro p _ p' hp h
  cases h
  exact ⟨hp, fun _ => rfl⟩

theorem throw (e : Error) : Local (throw e : Reader α) :=
  fun _ _ _ _ h => nomatch h

theorem bind (h : Local r) (h' : ∀ a, Local (k a)) : Local (r >>= k) := by
  intro p b p' hp hb
  change (r p >>= fun x => k x.1 x.2) = _ at hb
  cases hr : r p
  case error =>
    rw [hr] at hb
    cases hb
  case ok x =>
    obtain ⟨a, p₁⟩ := x
    rw [hr] at hb
    have hk : k a p₁ = .ok (b, p') := hb
    have ⟨hp₁, hr'⟩ := h hp hr
    have ⟨hp', hk'⟩ := h' a hp₁ hk
    refine ⟨hp', fun more => ?_⟩
    change (r _ >>= fun x => k x.1 x.2) = _
    rw [hr' more]
    exact hk' more

theorem map (f : α → β) (h : Local r) : Local (do return f (← r)) :=
  h.bind fun a => .pure (f a)

theorem read (size : Nat) : Local (read size) := by
  intro p bs p' hp h
  rw [MysqlPacket.read] at h
  split at h
  case isTrue  => cases h
  case isFalse hs =>
    split at h
    case isTrue  => cases h
    case isFalse hl =>
      cases h
      have hl := Nat.le_of_not_lt hl
      refine ⟨hl, fun more => ?_⟩
      have hl' : ¬(p.data ++ more).length < p.position + size := by rw [List.length_append]; omega
      have ht : ((p.data ++ more).drop p.position).take size = (p.data.drop p.position).take size := by
        rw [List.drop_append_of_le_length hp, List.take_append_of_le_length (by rw [List.length_drop]; omega)]
      simp only [MysqlPacket.read, hs, hl', if_false, ht]

theorem readUint (size : Nat) : Local (readUint size) :=
  (read size).map LittleEndian.decode

theorem readLengthEncodedInteger : Local readLengthEncodedInteger := by
  refine ((readUint 1).map UInt8.ofNat).bind fun c => ?_
  split_ifs
  · exact .pure none
  · exact .pure _
  · exact ((readUint 2).map UInt16.ofNat).map fun n => some n.toUInt64
  · exact ((readUint 3).map UInt32.ofNat).map fun n => some n.toUInt64
  · exact ((readUint 8).map UInt64.ofNat).map some
  · exact .throw _

theorem readLengthCodedString : Local readLengthCodedString := by
  refine readLengthEncodedInteger.bind fun len => ?_
  cases len
  case none     => exact .pure none
  case some len => exact (read len.toNat).map some

end Local

-- What reads a whole packet fails on a packet that is cut short.
theorem Consumes.fails_on_front {α : Type} {r : Reader α} {bs front rest : Bytes} {a : α} (h : Consumes r bs a)
    (hr : Local r) (hb : bs = front ++ rest) (hn : rest ≠ []) (hs : bs.length ≤ usizeMax) :
    ∃ e, r.run' (new front) = .error e := by
  change ∃ e, (r (new front) >>= fun x => Pure.pure x.1) = _
  cases hf : r (new front)
  case error e => exact ⟨e, rfl⟩
  case ok x =>
    obtain ⟨b, p⟩ := x
    have ⟨hi, hl⟩ := hr (Nat.zero_le _) hf
    have hu : (new bs).Unread (bs ++ []) := by
      rw [List.append_nil]
      exact unread_new hs
    have ⟨p', hp, hu'⟩ := h hu
    rw [hb] at hp
    obtain ⟨rfl, rfl⟩ := Prod.mk.inj (Except.ok.inj (hp.symm.trans (hl rest)))
    have hlen := congrArg List.length hu'.rest
    have hpos := List.length_pos_iff.mpr hn
    simp only [List.length_drop, List.length_append, List.length_nil] at hlen
    omega

theorem consumes_read (bs : Bytes) : Consumes (read bs.length) bs bs := by
  intro p more h
  have hl := congrArg List.length h.rest
  rw [List.length_drop, List.length_append] at hl
  have hs := h.small
  have hi := h.inside
  refine ⟨{ p with position := p.position + bs.length }, ?_, ?_, ?_, h.small⟩
  · simp only [read, show ¬usizeMax < p.position + bs.length by omega,
      show ¬p.data.length < p.position + bs.length by omega, if_false, h.rest, List.take_left]
  · simp only [← List.drop_drop, h.rest, List.drop_left]
  · simp only
    omega

theorem consumes_advance (bs : Bytes) : Consumes (advance bs.length) bs () := by
  intro p more h
  have hl := congrArg List.length h.rest
  rw [List.length_drop, List.length_append] at hl
  have hs := h.small
  have hi := h.inside
  refine ⟨{ p with position := p.position + bs.length }, ?_, ?_, ?_, h.small⟩
  · simp only [advance, show ¬usizeMax < p.position + bs.length by omega,
      show ¬p.data.length < p.position + bs.length by omega, if_false]
  · simp only [← List.drop_drop, h.rest, List.drop_left]
  · simp only
    omega

section Integers

theorem consumes_readUint {k n : Nat} (h : n < 256 ^ k) :
    Consumes (readUint k) (LittleEndian.encode k n) n := by
  have := consumes_read (LittleEndian.encode k n) |>.map (f := LittleEndian.decode)
  rwa [LittleEndian.encode_length, LittleEndian.decode_encode_of_lt h] at this

theorem consumes_readUint8 (b : UInt8) : Consumes readUint8 [b] b := by
  have := consumes_readUint (k := 1) b.toNat_lt |>.map (f := UInt8.ofNat)
  simp only [LittleEndian.encode, UInt8.ofNat_toNat] at this
  exact this

theorem consumes_readUint16 (n : UInt16) :
    Consumes readUint16 (LittleEndian.encode 2 n.toNat) n := by
  have := (consumes_readUint (k := 2) n.toNat_lt).map (f := UInt16.ofNat)
  rwa [UInt16.ofNat_toNat] at this

theorem consumes_readUint24 {n : Nat} (h : n < 2 ^ 24) :
    Consumes readUint24 (LittleEndian.encode 3 n) (UInt32.ofNat n) :=
  (consumes_readUint (k := 3) h).map

theorem consumes_readUint32 (n : UInt32) :
    Consumes readUint32 (LittleEndian.encode 4 n.toNat) n := by
  have := (consumes_readUint (k := 4) n.toNat_lt).map (f := UInt32.ofNat)
  rwa [UInt32.ofNat_toNat] at this

theorem consumes_readUint64 {n : Nat} (h : n < 2 ^ 64) :
    Consumes readUint64 (LittleEndian.encode 8 n) (UInt64.ofNat n) :=
  (consumes_readUint (k := 8) h).map

theorem consumes_readLengthEncodedInteger {n : Nat} (h : n < 2 ^ 64) :
    Consumes readLengthEncodedInteger (lenencInt n) (some (UInt64.ofNat n)) := by
  have head (c : UInt8) {bs : Bytes} {k : UInt8 → Reader (Option UInt64)} {a : Option UInt64}
      (hk : Consumes (k c) bs a) : Consumes (readUint8 >>= k) (c :: bs) a :=
    (consumes_readUint8 c).bind hk
  rw [lenencInt, readLengthEncodedInteger]
  split_ifs with h₁ h₂ h₃
  · have hc : (UInt8.ofNat n).toNat = n := by simp; omega
    have hn : UInt8.ofNat n ≠ NULL_COLUMN := fun he => by
      have := congrArg UInt8.toNat he
      rw [hc] at this
      exact absurd h₁ (by simp [this, NULL_COLUMN])
    have hl : UInt8.ofNat n < UNSIGNED_CHAR_COLUMN := UInt8.lt_iff_toNat_lt.mpr (hc.symm ▸ h₁)
    have h64 : (UInt8.ofNat n).toUInt64 = UInt64.ofNat n := by
      rw [← UInt64.ofNat_uInt8ToNat, hc]
    refine head _ ?_
    rw [if_neg hn, if_pos hl, h64]
    exact .pure _
  · refine head _ ?_
    rw [if_neg (by decide), if_neg (by decide), if_pos (by decide)]
    have hn : (UInt16.ofNat n).toNat = n := UInt16.toNat_ofNat_of_lt' h₂
    have := (consumes_readUint16 (UInt16.ofNat n)).map (f := fun n => some n.toUInt64)
    rwa [← UInt64.ofNat_uInt16ToNat, hn] at this
  · refine head _ ?_
    rw [if_neg (by decide), if_neg (by decide), if_neg (by decide), if_pos (by decide)]
    have hn : (UInt32.ofNat n).toNat = n := UInt32.toNat_ofNat_of_lt' (Nat.lt_trans h₃ (by decide))
    have := (consumes_readUint24 h₃).map (f := fun n => some n.toUInt64)
    rwa [← UInt64.ofNat_uInt32ToNat, hn] at this
  · refine head _ ?_
    rw [if_neg (by decide), if_neg (by decide), if_neg (by decide), if_neg (by decide),
      if_pos (by decide)]
    exact (consumes_readUint64 h).map (f := some)

theorem consumes_readLengthEncodedUInt64 (n : UInt64) :
    Consumes readLengthEncodedInteger (lenencInt n.toNat) (some n) := by
  simpa using consumes_readLengthEncodedInteger n.toNat_lt

end Integers

section Strings

-- A string with its length in front of it, and the byte that stands for NULL.
def lenencString (s : Bytes) : Bytes :=
  lenencInt s.length ++ s

def lenencNullable : Option Bytes → Bytes
  | none   => [NULL_COLUMN]
  | some s => lenencString s

theorem consumes_readLengthCodedString {s : Option Bytes} (h : ∀ s' ∈ s, s'.length < 2 ^ 64) :
    Consumes readLengthCodedString (lenencNullable s) s := by
  cases s
  case none =>
    have : Consumes readLengthEncodedInteger [NULL_COLUMN] none :=
      (consumes_readUint8 NULL_COLUMN).bind (by rw [if_pos rfl]; exact .pure none)
    exact this.bind (.pure none)
  case some s =>
    have hs := h s rfl
    have hl : (UInt64.ofNat s.length).toNat = s.length := UInt64.toNat_ofNat_of_lt' hs
    refine (consumes_readLengthEncodedInteger hs).bind ?_
    have := (consumes_read s).map (f := some)
    rwa [← hl] at this

end Strings

end MysqlPacket
end MySQL
