import MysqlRs.Core.Hash
import MysqlRs.Library.Chunks
import MysqlRs.Library.LittleEndian
import MysqlRs.Library.Matching

namespace MySQL

namespace Float64

variable {x y : Float64}

theorem isZero_iff : x.isZero = true ↔ x.bits.toNat = 0 ∨ x.bits.toNat = 2 ^ 63 := by
  have := x.bits.toNat_lt
  rw [isZero, exponentField, fraction, decide_eq_true_iff]
  omega

-- Equal numbers of the same sign are the same.
theorem eq_of_sign (h : x.eq y = true) (hs : x.isNegative = y.isNegative) : x = y := by
  obtain ⟨a⟩ := x
  obtain ⟨b⟩ := y
  simp only [eq, Bool.and_eq_true, Bool.or_eq_true, decide_eq_true_eq, isZero_iff] at h
  simp only [isNegative, decide_eq_decide] at hs
  have hb : a.toNat = b.toNat := by
    obtain ⟨_, rfl | ⟨ha, hb⟩⟩ := h
    · rfl
    · omega
  rw [UInt64.toNat_inj.mp hb]

end Float64

namespace Value

variable [Hashing]

-- The same apart from the order in which sets are iterated.
inductive Kin : Value → Value → Prop
  | leaf {v} : v.Leaf → v.eq v = true → Kin v v
  | decimal {a b} : Hashing.decimalEq a b = true → Kin (decimal a) (decimal b)
  | list {xs ys} : List.Forall₂ Kin xs ys → Kin (list xs) (list ys)
  | set {xs zs ys} : zs.Perm ys → List.Forall₂ Kin xs zs → Kin (set xs) (set ys)

namespace Kin

theorem symm {v : Value} : ∀ w, Kin v w → Kin w v := by
  induction v using nested
  case leaf v hv =>
    rintro w (⟨_, he⟩ | hd | _ | _)
    · exact .leaf hv he
    · exact .decimal (Hashing.decimalEq_symm hd)
    · cases hv
    · cases hv
  case list items ih =>
    rintro w (⟨hl, _⟩ | _ | hf | _)
    · cases hl
    · exact .list (hf.symm_of ih)
  case set items ih =>
    rintro w (⟨hl, _⟩ | _ | _ | ⟨hp, hf⟩)
    · cases hl
    · have ⟨ws, hw, hwp⟩ := List.perm_comp_forall₂ hp.symm (hf.symm_of ih)
      exact .set hwp hw

theorem trans {v : Value} : ∀ w u, Kin v w → Kin w u → Kin v u := by
  induction v using nested
  case leaf v hv =>
    rintro w u (⟨_, _⟩ | hd | _ | _) h
    · exact h
    · obtain ⟨_, _⟩ | hd' | _ | _ := h
      · exact .decimal hd
      · exact .decimal (Hashing.decimalEq_trans hd hd')
    · cases hv
    · cases hv
  case list items ih =>
    rintro w u (⟨hl, _⟩ | _ | hf | _) h
    · cases hl
    · obtain ⟨hl, _⟩ | _ | hf' | _ := h
      · cases hl
      · exact .list (hf.trans_of ih hf')
  case set items ih =>
    rintro w u (⟨hl, _⟩ | _ | _ | ⟨hp, hf⟩) h
    · cases hl
    · obtain ⟨hl, _⟩ | _ | _ | ⟨hp', hf'⟩ := h
      · cases hl
      · have ⟨ts, ht, htp⟩ := List.perm_comp_forall₂ hp hf'
        exact .set (htp.trans hp') (hf.trans_of ih ht)

end Kin

section Equal

variable {v w : Value} {xs ys zs : List Value}

theorem eqItems_iff : eqItems xs ys = true ↔ List.Forall₂ (fun x y => eq x y = true) xs ys := by
  induction xs generalizing ys
  case nil => cases ys <;> simp [eqItems]
  case cons x xs ih => cases ys <;> simp [eqItems, ih]

theorem eachIn_iff : eachIn xs ys = true ↔ ∀ x ∈ xs, ∃ y ∈ ys, eq x y = true := by
  induction xs
  case nil          => simp [eachIn]
  case cons x xs ih => simp [eachIn, ih]

-- What is equal to a leaf.
theorem eq_leaf (hv : v.Leaf) (h : v.eq w = true) :
    v = w ∨ (∃ x y, v = float x ∧ w = float y ∧ x.eq y = true) ∨
      ∃ a b, v = decimal a ∧ w = decimal b ∧ Hashing.decimalEq a b = true := by
  cases v
  case list | set => cases hv
  case null =>
    cases w
    case null => exact .inl rfl
    all_goals simp only [Value.eq, Bool.false_eq_true] at h
  case float x =>
    cases w
    case float y => exact .inr (.inl ⟨x, y, rfl, rfl, h⟩)
    all_goals simp only [Value.eq, Bool.false_eq_true] at h
  case decimal a =>
    cases w
    case decimal b => exact .inr (.inr ⟨a, b, rfl, rfl, h⟩)
    all_goals simp only [Value.eq, Bool.false_eq_true] at h
  all_goals
    cases w <;> simp only [Value.eq, decide_eq_true_eq, Bool.false_eq_true] at h
    exact .inl (congrArg _ h)

theorem eq_list (h : (list xs).eq w = true) :
    ∃ ys, w = list ys ∧ List.Forall₂ (fun x y => eq x y = true) xs ys := by
  cases w
  case list ys => exact ⟨ys, rfl, eqItems_iff.mp h⟩
  all_goals simp only [Value.eq, Bool.false_eq_true] at h

theorem eq_set (h : (set xs).eq w = true) : ∃ ys, w = set ys ∧ xs.length = ys.length := by
  cases w
  case set ys =>
    simp only [Value.eq, Bool.and_eq_true, decide_eq_true_eq] at h
    exact ⟨ys, rfl, h.left⟩
  all_goals simp only [Value.eq, Bool.false_eq_true] at h

theorem combined_eq (acc : UInt64) : combined acc xs = xs.foldl (fun acc v => acc ^^^ Hashing.finish v.hash) acc := by
  induction xs generalizing acc
  case nil          => rfl
  case cons x xs ih => rw [combined, ih, List.foldl_cons]

theorem Kin.eq : ∀ w, Kin v w → v.eq w = true := by
  induction v using nested
  case leaf v hv =>
    rintro w (⟨_, he⟩ | hd | _ | _)
    · exact he
    · exact hd
    · cases hv
    · cases hv
  case list items ih =>
    rintro w (⟨hl, _⟩ | _ | hf | _)
    · cases hl
    · rw [Value.eq, eqItems_iff]
      exact hf.imp_of ih
  case set items ih =>
    rintro w (⟨hl, _⟩ | _ | _ | ⟨hp, hf⟩)
    · cases hl
    · simp only [Value.eq, Bool.and_eq_true, decide_eq_true_eq, eachIn_iff]
      refine ⟨hf.length_eq.trans hp.length_eq, fun x hx => ?_⟩
      have ⟨z, hz, hr⟩ := (hf.imp_of ih).exists_right x hx
      exact ⟨z, hp.mem_iff.mp hz, hr⟩

theorem hashItems_congr (h : List.Forall₂ (fun x y : Value => x.hash = y.hash) xs ys) :
    hashItems xs = hashItems ys := by
  induction h
  case nil           => rfl
  case cons hr _ ih => rw [hashItems, hashItems, hr, ih]

theorem combined_congr (h : List.Forall₂ (fun x y : Value => x.hash = y.hash) xs ys) (acc : UInt64) :
    combined acc xs = combined acc ys := by
  induction h generalizing acc
  case nil           => rfl
  case cons hr _ ih => rw [combined, combined, hr, ih]

-- The order in which a set is iterated does not matter.
theorem combined_perm (h : xs.Perm ys) (acc : UInt64) : combined acc xs = combined acc ys := by
  rw [combined_eq, combined_eq]
  refine h.foldl_eq' ?_ acc
  intro x _ y _ acc
  rw [UInt64.xor_assoc, UInt64.xor_comm (Hashing.finish x.hash), ← UInt64.xor_assoc]

theorem Kin.hash : ∀ w, Kin v w → v.hash = w.hash := by
  induction v using nested
  case leaf v hv =>
    rintro w (⟨_, _⟩ | hd | _ | _)
    · rfl
    · rw [Value.hash, Value.hash, Hashing.decimal_coherent hd]
    · cases hv
    · cases hv
  case list items ih =>
    rintro w (⟨hl, _⟩ | _ | hf | _)
    · cases hl
    · rw [Value.hash, Value.hash, hf.length_eq, hashItems_congr (hf.imp_of ih)]
  case set items ih =>
    rintro w (⟨hl, _⟩ | _ | _ | ⟨hp, hf⟩)
    · cases hl
    · rw [Value.hash, Value.hash, combined_congr (hf.imp_of ih), combined_perm hp]

end Equal

mutual

-- The zeros that are compared have the same sign, and every element of a set is equal to one for which that holds.
def Signed : Value → Value → Prop
  | float x, float y => x.isNegative = y.isNegative
  | list xs, list ys => SignedItems xs ys
  | set xs, set ys   => SignedEach xs ys
  | _, _             => True

def SignedItems : List Value → List Value → Prop
  | x :: xs, y :: ys => Signed x y ∧ SignedItems xs ys
  | _, _             => True

def SignedEach : List Value → List Value → Prop
  | [], _       => True
  | x :: xs, ys => (∃ y ∈ ys, eq x y = true ∧ Signed x y) ∧ SignedEach xs ys

end

section Signs

variable {v w : Value} {xs ys zs : List Value}

theorem signedEach_iff : SignedEach xs ys ↔ ∀ x ∈ xs, ∃ y ∈ ys, eq x y = true ∧ Signed x y := by
  induction xs
  case nil          => simp [SignedEach]
  case cons x xs ih => simp [SignedEach, ih]

theorem soundItems_iff : SoundItems xs ↔ ∀ x ∈ xs, Sound x := by
  induction xs
  case nil          => simp [SoundItems]
  case cons x xs ih => simp [SoundItems, ih]

theorem eq_and_signed (h : List.Forall₂ (fun x y => eq x y = true) xs ys) (hs : SignedItems xs ys) :
    List.Forall₂ (fun x y => eq x y = true ∧ Signed x y) xs ys := by
  induction h
  case nil            => exact .nil
  case cons hr _ ih => exact .cons ⟨hr, hs.left⟩ (ih hs.right)

-- Equal values whose signs agree differ in the order of sets only.
theorem kin_of_eq : ∀ w, v.Sound → v.eq w = true → v.Signed w → Kin v w := by
  induction v using nested
  case leaf v hv =>
    intro w _ he hs
    obtain rfl | ⟨x, y, rfl, rfl, hxy⟩ | ⟨a, b, rfl, rfl, hab⟩ := eq_leaf hv he
    · exact .leaf hv he
    · obtain rfl := Float64.eq_of_sign hxy hs
      exact .leaf hv he
    · exact .decimal hab
  case list items ih =>
    intro w hv he hs
    obtain ⟨ys, rfl, hf⟩ := eq_list he
    rw [Sound, soundItems_iff] at hv
    exact .list ((eq_and_signed hf hs).imp_of fun x hx y h => ih x hx y (hv x hx) h.left h.right)
  case set items ih =>
    intro w hv he hs
    obtain ⟨ys, rfl, hl⟩ := eq_set he
    rw [Sound, soundItems_iff] at hv
    rw [Signed, signedEach_iff] at hs
    have hp : items.Pairwise fun a b => ¬Kin a b :=
      hv.left.imp fun hne hk => hne ⟨hk.eq, (hk.symm _).eq, hk.hash⟩
    have hr : ∀ x ∈ items, ∃ y ∈ ys, Kin x y := by
      intro x hx
      have ⟨y, hy, h⟩ := hs x hx
      exact ⟨y, hy, ih x hx y (hv.right x hx) h.left h.right⟩
    have ⟨zs, hz, hf⟩ := List.exists_perm_forall₂ hp (fun _ _ _ _ _ h h' => h.trans _ _ (h'.symm _)) hr hl
    exact .set hz hf

end Signs

mutual

-- The zeros that are compared outside of sets have the same sign.
def SignedOutside : Value → Value → Prop
  | float x, float y => x.isNegative = y.isNegative
  | list xs, list ys => SignedOutsideItems xs ys
  | _, _             => True

def SignedOutsideItems : List Value → List Value → Prop
  | x :: xs, y :: ys => SignedOutside x y ∧ SignedOutsideItems xs ys
  | _, _             => True

end

section Outside

variable {v w : Value} {xs ys : List Value}

theorem hashItems_length (h : List.Forall₂ (fun x y : Value => x.hash.length = y.hash.length) xs ys) :
    (hashItems xs).length = (hashItems ys).length := by
  induction h
  case nil            => rfl
  case cons hr _ ih => rw [hashItems, hashItems, List.length_append, List.length_append, hr, ih]

-- Equal values are hashed in the same number of steps.
theorem hash_length : ∀ w, v.eq w = true → v.hash.length = w.hash.length := by
  induction v using nested
  case leaf v hv =>
    intro w he
    obtain rfl | ⟨x, y, rfl, rfl, _⟩ | ⟨a, b, rfl, rfl, hab⟩ := eq_leaf hv he
    · rfl
    · rfl
    · rw [Value.hash, Value.hash, Hashing.decimal_coherent hab]
  case list items ih =>
    intro w he
    obtain ⟨ys, rfl, hf⟩ := eq_list he
    simp only [Value.hash, List.length_cons, hashItems_length (hf.imp_of ih)]
  case set items _ =>
    intro w he
    obtain ⟨ys, rfl, _⟩ := eq_set he
    rfl

-- Where lists are hashed alike, so are their items.
theorem hash_of_hashItems (h : List.Forall₂ (fun x y : Value => eq x y = true) xs ys)
    (hh : hashItems xs = hashItems ys) :
    List.Forall₂ (fun x y : Value => eq x y = true ∧ x.hash = y.hash) xs ys := by
  induction h
  case nil            => exact .nil
  case cons hr _ ih =>
    have ⟨hx, hxs⟩ := List.append_inj hh (hash_length _ hr)
    exact .cons ⟨hr, hx⟩ (ih hxs)

omit [Hashing] in
theorem signedOutsideItems (h : List.Forall₂ SignedOutside xs ys) : SignedOutsideItems xs ys := by
  induction h
  case nil            => trivial
  case cons hr _ ih => exact ⟨hr, ih⟩

omit [Hashing] in
theorem signedOutside_self : v.SignedOutside v := by
  induction v using nested
  case leaf v hv =>
    cases v
    case list | set => cases hv
    case float => rfl
    all_goals trivial
  case list items ih => exact signedOutsideItems (List.forall₂_same.mpr ih)
  case set items _ => trivial

theorem signedOutside_of_hash : ∀ w, v.eq w = true → v.hash = w.hash → v.SignedOutside w := by
  induction v using nested
  case leaf v hv =>
    intro w he hh
    obtain rfl | ⟨x, y, rfl, rfl, _⟩ | ⟨a, b, rfl, rfl, _⟩ := eq_leaf hv he
    · exact signedOutside_self
    · simp only [Value.hash, List.cons.injEq, Write.u64.injEq, and_true, true_and] at hh
      rw [SignedOutside, Float64.isNegative, Float64.isNegative, hh]
    · trivial
  case list items ih =>
    intro w he hh
    obtain ⟨ys, rfl, hf⟩ := eq_list he
    simp only [Value.hash, List.cons.injEq, true_and] at hh
    exact signedOutsideItems ((hash_of_hashItems hf hh.right).imp_of fun x hx y h => ih x hx y h.left h.right)
  case set items _ =>
    intro w he _
    obtain ⟨ys, rfl, _⟩ := eq_set he
    trivial

end Outside

mutual

-- No set occurs in the value.
def Flat : Value → Prop
  | list items => FlatItems items
  | set _      => False
  | _          => True

def FlatItems : List Value → Prop
  | []            => True
  | item :: items => Flat item ∧ FlatItems items

end

section Flat

variable {v w : Value} {xs ys : List Value}

omit [Hashing] in
theorem flatItems_iff : FlatItems xs ↔ ∀ x ∈ xs, Flat x := by
  induction xs
  case nil          => simp [FlatItems]
  case cons x xs ih => simp [FlatItems, ih]

theorem signedItems (h : List.Forall₂ Signed xs ys) : SignedItems xs ys := by
  induction h
  case nil            => trivial
  case cons hr _ ih => exact ⟨hr, ih⟩

theorem signed_of_flat : ∀ w, v.Flat → v.eq w = true → v.hash = w.hash → v.Signed w := by
  induction v using nested
  case leaf v hv =>
    intro w _ he hh
    have ho := signedOutside_of_hash w he hh
    obtain rfl | ⟨x, y, rfl, rfl, _⟩ | ⟨a, b, rfl, rfl, _⟩ := eq_leaf hv he
    · cases v
      case list | set => cases hv
      case float => rfl
      all_goals trivial
    · exact ho
    · trivial
  case list items ih =>
    intro w hflat he hh
    obtain ⟨ys, rfl, hf⟩ := eq_list he
    rw [Flat, flatItems_iff] at hflat
    simp only [Value.hash, List.cons.injEq, true_and] at hh
    have hi := hash_of_hashItems hf hh.right
    exact signedItems (hi.imp_of fun x hx y h => ih x hx y (hflat x hx) h.left h.right)
  case set items _ =>
    intro w hflat
    cases hflat

end Flat

-- Equal values are hashed alike where the signs of the zeros agree, and only where they do so outside of sets.
theorem hash_of_eq {v w : Value} (hv : v.Sound) (h : v.eq w = true) :
    (v.Signed w → v.hash = w.hash) ∧ (v.hash = w.hash → v.SignedOutside w) ∧
      (v.Flat → (v.hash = w.hash ↔ v.Signed w)) := by
  have alike (hs : v.Signed w) : v.hash = w.hash := (kin_of_eq w hv h hs).hash w
  exact ⟨alike, signedOutside_of_hash w h, fun hf => ⟨signed_of_flat w hf h, alike⟩⟩

end Value

def Write.data : Write → Bytes
  | isize n => LittleEndian.encode 8 n
  | usize n => LittleEndian.encode 8 n
  | u8 n    => [n]
  | i64 i   => LittleEndian.encode 8 i.toUInt64.toNat
  | u64 n   => LittleEndian.encode 8 n.toNat
  | bytes b => b

-- SipHash-1-3 with a key of zeros, which a `DefaultHasher` is.
structure Sip where
  v₀ : UInt64 := 0x736f6d6570736575
  v₁ : UInt64 := 0x646f72616e646f6d
  v₂ : UInt64 := 0x6c7967656e657261
  v₃ : UInt64 := 0x7465646279746573

namespace Sip

def rotate (x n : UInt64) : UInt64 :=
  x <<< n ||| x >>> (64 - n)

def round (s : Sip) : Sip :=
  let v₀ := s.v₀ + s.v₁
  let v₁ := rotate s.v₁ 13 ^^^ v₀
  let v₂ := s.v₂ + s.v₃
  let v₃ := rotate s.v₃ 16 ^^^ v₂
  let v₀ := rotate v₀ 32 + v₃
  let v₂ := v₂ + v₁
  { v₀, v₁ := rotate v₁ 17 ^^^ v₂, v₂ := rotate v₂ 32, v₃ := rotate v₃ 21 ^^^ v₀ }

def absorb (s : Sip) (word : UInt64) : Sip :=
  let t := round { s with v₃ := s.v₃ ^^^ word }
  { t with v₀ := t.v₀ ^^^ word }

-- The last word is filled up, and ends with the number of the bytes.
def finish (writes : List Write) : UInt64 :=
  let bytes := writes.flatMap (·.data)
  let words := chunks 8 (bytes ++ List.replicate (7 - bytes.length % 8) 0 ++ [UInt8.ofNat bytes.length])
  let s := (words.map fun word => UInt64.ofNat (LittleEndian.decode word)).foldl absorb {}
  let s := round (round (round { s with v₂ := s.v₂ ^^^ 0xFF }))
  s.v₀ ^^^ s.v₁ ^^^ s.v₂ ^^^ s.v₃

end Sip

section Examples

open Value

-- Runs that hash neither dates nor decimals are evaluated with it.
@[reducible]
def Hashing.sip : Hashing where
  date _ := []
  time _ := []
  dateTime _ := []
  timeSpan _ := []
  decimal _ := []
  decimalEq a b := a = b
  finish := Sip.finish
  decimalEq_refl _ := decide_eq_true rfl
  decimalEq_symm h := decide_eq_true (of_decide_eq_true h).symm
  decimalEq_trans h h' := decide_eq_true ((of_decide_eq_true h).trans (of_decide_eq_true h'))
  decimal_coherent _ := rfl

attribute [local instance] Hashing.sip

-- Some numbers and a set of 1.5 and 1, which is iterated in any order.
def numbers (swapped : Bool) : Value :=
  let items := if swapped then [.int 1, .float ⟨0x3FF8000000000000⟩] else [.float ⟨0x3FF8000000000000⟩, .int 1]
  .list [.int (-2), .set items]

theorem hash_of_eq_numbers :
    let v := numbers false
    let w := numbers true
    (v.Signed w → v.hash = w.hash) ∧ (v.hash = w.hash → v.SignedOutside w) ∧
      (v.Flat → (v.hash = w.hash ↔ v.Signed w)) := by
  refine hash_of_eq ⟨trivial, ⟨List.pairwise_pair.mpr ?_, trivial, trivial, trivial⟩, trivial⟩ (by decide)
  rintro ⟨⟨⟩, _⟩

def zero : Value :=
  .float ⟨0⟩

def negativeZero : Value :=
  .float ⟨0x8000000000000000⟩

-- The zeros are equal, alone and in lists, and hashed by their bits.
theorem zeros_hash_differently :
    zero.Sound ∧ negativeZero.Sound ∧ zero.eq negativeZero = true ∧ zero.hash ≠ negativeZero.hash ∧
      (list [zero]).eq (list [negativeZero]) = true ∧ (list [zero]).hash ≠ (list [negativeZero]).hash := by
  refine ⟨trivial, trivial, by decide, ?_, by decide, ?_⟩
  · simp [zero, negativeZero, Value.hash]
  · simp [zero, negativeZero, Value.hash, hashItems]

end Examples
end MySQL
