import MysqlRs.Core.Text

namespace MySQL.Text

theorem isContinuation_iff {b : UInt8} : isContinuation b ↔ 0x80 ≤ b.toNat ∧ b.toNat ≤ 0xBF := by
  simp [isContinuation, UInt8.le_iff_toNat_le]

theorem isSecondOfThree_iff {lead b : UInt8} : isSecondOfThree lead b ↔
    0x80 ≤ b.toNat ∧ b.toNat ≤ 0xBF ∧ (lead.toNat = 0xE0 → 0xA0 ≤ b.toNat) ∧
      (lead.toNat = 0xED → b.toNat ≤ 0x9F) := by
  rw [isSecondOfThree]
  split_ifs with h₁ h₂
  · simp [h₁, UInt8.le_iff_toNat_le]
    omega
  · simp [h₂, UInt8.le_iff_toNat_le]
    omega
  · have h₁ : lead.toNat ≠ 0xE0 := fun h => h₁ (UInt8.toNat_inj.mp h)
    have h₂ : lead.toNat ≠ 0xED := fun h => h₂ (UInt8.toNat_inj.mp h)
    simp [isContinuation_iff, h₁, h₂]

theorem isSecondOfFour_iff {lead b : UInt8} : isSecondOfFour lead b ↔
    0x80 ≤ b.toNat ∧ b.toNat ≤ 0xBF ∧ (lead.toNat = 0xF0 → 0x90 ≤ b.toNat) ∧
      (lead.toNat = 0xF4 → b.toNat ≤ 0x8F) := by
  rw [isSecondOfFour]
  split_ifs with h₁ h₂
  · simp [h₁, UInt8.le_iff_toNat_le]
    omega
  · simp [h₂, UInt8.le_iff_toNat_le]
    omega
  · have h₁ : lead.toNat ≠ 0xF0 := fun h => h₁ (UInt8.toNat_inj.mp h)
    have h₂ : lead.toNat ≠ 0xF4 := fun h => h₂ (UInt8.toNat_inj.mp h)
    simp [isContinuation_iff, h₁, h₂]

section Decoding

variable {b₁ b₂ b₃ b₄ : UInt8} (bs : Bytes)

theorem fromUtf8Lossy_one (h : b₁.toNat < 0x80) :
    fromUtf8Lossy (b₁ :: bs) = Char.ofNat b₁.toNat :: fromUtf8Lossy bs := by
  rw [fromUtf8Lossy.eq_def]
  exact if_pos (UInt8.lt_iff_toNat_lt.mpr h)

theorem fromUtf8Lossy_two (h : 0xC2 ≤ b₁.toNat) (h' : b₁.toNat ≤ 0xDF) (h₂ : isContinuation b₂) :
    fromUtf8Lossy (b₁ :: b₂ :: bs) = scalar [b₂] (b₁.toNat % 32) :: fromUtf8Lossy bs := by
  have n₁ : ¬b₁ < 0x80 := fun hb => absurd (UInt8.lt_iff_toNat_lt.mp hb) (Nat.not_lt.mpr (by simp; omega))
  have n₂ : (0xC2 ≤ b₁ && b₁ ≤ 0xDF) = true := by simp [UInt8.le_iff_toNat_le, h, h']
  rw [fromUtf8Lossy.eq_def]
  simp only [n₁, n₂, h₂, if_true, if_false]

theorem fromUtf8Lossy_three (h : 0xE0 ≤ b₁.toNat) (h' : b₁.toNat ≤ 0xEF) (h₂ : isSecondOfThree b₁ b₂)
    (h₃ : isContinuation b₃) : fromUtf8Lossy (b₁ :: b₂ :: b₃ :: bs) =
      scalar [b₂, b₃] (b₁.toNat % 16) :: fromUtf8Lossy bs := by
  have n₁ : ¬b₁ < 0x80 := fun hb => absurd (UInt8.lt_iff_toNat_lt.mp hb) (Nat.not_lt.mpr (by simp; omega))
  have n₂ : ¬(0xC2 ≤ b₁ && b₁ ≤ 0xDF) = true := by simp [UInt8.le_iff_toNat_le]; omega
  have n₃ : (0xE0 ≤ b₁ && b₁ ≤ 0xEF) = true := by simp [UInt8.le_iff_toNat_le, h, h']
  rw [fromUtf8Lossy.eq_def]
  simp only [n₁, n₂, n₃, h₂, h₃, Bool.false_eq_true, if_true, if_false]

theorem fromUtf8Lossy_four (h : 0xF0 ≤ b₁.toNat) (h' : b₁.toNat ≤ 0xF4) (h₂ : isSecondOfFour b₁ b₂)
    (h₃ : isContinuation b₃) (h₄ : isContinuation b₄) : fromUtf8Lossy (b₁ :: b₂ :: b₃ :: b₄ :: bs) =
      scalar [b₂, b₃, b₄] (b₁.toNat % 8) :: fromUtf8Lossy bs := by
  have n₁ : ¬b₁ < 0x80 := fun hb => absurd (UInt8.lt_iff_toNat_lt.mp hb) (Nat.not_lt.mpr (by simp; omega))
  have n₂ : ¬(0xC2 ≤ b₁ && b₁ ≤ 0xDF) = true := by simp [UInt8.le_iff_toNat_le]; omega
  have n₃ : ¬(0xE0 ≤ b₁ && b₁ ≤ 0xEF) = true := by simp [UInt8.le_iff_toNat_le]; omega
  have n₄ : (0xF0 ≤ b₁ && b₁ ≤ 0xF4) = true := by simp [UInt8.le_iff_toNat_le, h, h']
  rw [fromUtf8Lossy.eq_def]
  simp only [n₁, n₂, n₃, n₄, h₂, h₃, h₄, Bool.false_eq_true, if_true, if_false]

end Decoding

theorem char_valid (c : Char) : c.toNat < 0xD800 ∨ (0xDFFF < c.toNat ∧ c.toNat < 0x110000) :=
  c.valid

theorem ofNat_toNat_of_lt {n : Nat} (h : n < 256) : (UInt8.ofNat n).toNat = n :=
  UInt8.toNat_ofNat_of_lt' h

-- Decoding undoes the encoding of a character, in front of anything.
theorem fromUtf8Lossy_char (c : Char) (bs : Bytes) :
    fromUtf8Lossy (String.utf8EncodeChar c ++ bs) = c :: fromUtf8Lossy bs := by
  have hv := char_valid c
  have hc : c.val.toNat = c.toNat := rfl
  have hn : Char.ofNat c.toNat = c := Char.ofNat_toNat c
  generalize c.toNat = n at hv hc hn
  simp only [String.utf8EncodeChar, hc]
  have low : (UInt8.ofNat (n % 64 + 0x80)).toNat = n % 64 + 0x80 := ofNat_toNat_of_lt (by omega)
  have middle : (UInt8.ofNat (n / 64 % 64 + 0x80)).toNat = n / 64 % 64 + 0x80 := ofNat_toNat_of_lt (by omega)
  have high : (UInt8.ofNat (n / 4096 % 64 + 0x80)).toNat = n / 4096 % 64 + 0x80 :=
    ofNat_toNat_of_lt (by omega)
  split_ifs with h₁ h₂ h₃
  case pos =>
    have hb : (UInt8.ofNat n).toNat = n := ofNat_toNat_of_lt (by omega)
    exact (fromUtf8Lossy_one bs (by omega)).trans (by rw [hb, hn])
  case pos =>
    have hb : (UInt8.ofNat (n / 64 % 32 + 0xC0)).toNat = n / 64 % 32 + 0xC0 := ofNat_toNat_of_lt (by omega)
    refine (fromUtf8Lossy_two bs (by omega) (by omega) (isContinuation_iff.mpr (by omega))).trans ?_
    simp only [scalar, List.foldl_cons, List.foldl_nil, hb, low]
    exact congrArg (· :: _) ((congrArg _ (by omega)).trans hn)
  case pos =>
    have hb : (UInt8.ofNat (n / 4096 % 16 + 0xE0)).toNat = n / 4096 % 16 + 0xE0 := ofNat_toNat_of_lt (by omega)
    refine (fromUtf8Lossy_three bs (by omega) (by omega) (isSecondOfThree_iff.mpr (by omega))
      (isContinuation_iff.mpr (by omega))).trans ?_
    simp only [scalar, List.foldl_cons, List.foldl_nil, hb, low, middle]
    exact congrArg (· :: _) ((congrArg _ (by omega)).trans hn)
  case neg =>
    have hb : (UInt8.ofNat (n / 262144 % 8 + 0xF0)).toNat = n / 262144 % 8 + 0xF0 :=
      ofNat_toNat_of_lt (by omega)
    refine (fromUtf8Lossy_four bs (by omega) (by omega) (isSecondOfFour_iff.mpr (by omega))
      (isContinuation_iff.mpr (by omega)) (isContinuation_iff.mpr (by omega))).trans ?_
    simp only [scalar, List.foldl_cons, List.foldl_nil, hb, low, middle, high]
    exact congrArg (· :: _) ((congrArg _ (by omega)).trans hn)

theorem fromUtf8Lossy_asBytes (s : Text) : fromUtf8Lossy s.asBytes = s := by
  induction s
  case nil         => rfl
  case cons c s ih => rw [asBytes, List.flatMap_cons, fromUtf8Lossy_char, ← asBytes, ih]

section Sizes

variable {c : Char}

theorem utf8EncodeChar_ascii (h : c.toNat < 0x80) : String.utf8EncodeChar c = [UInt8.ofNat c.toNat] := by
  have hc : c.val.toNat = c.toNat := rfl
  simp only [String.utf8EncodeChar, hc]
  rw [if_pos (by omega)]

-- The other characters take several bytes, none of which is an ASCII character.
theorem utf8EncodeChar_other (h : 0x80 ≤ c.toNat) : ∃ b₁ b₂ bs,
    String.utf8EncodeChar c = b₁ :: b₂ :: bs ∧ ∀ b ∈ b₁ :: b₂ :: bs, 0x80 ≤ b.toNat := by
  have hv := char_valid c
  have hc : c.val.toNat = c.toNat := rfl
  simp only [String.utf8EncodeChar, hc]
  split_ifs with h₁ h₂ h₃
  case pos => omega
  all_goals
    refine ⟨_, _, _, rfl, ?_⟩
    simp only [List.forall_mem_cons, List.not_mem_nil, false_implies, implies_true, and_true]
    repeat' constructor
    all_goals
      rw [ofNat_toNat_of_lt (by omega)]
      omega

end Sizes

section Nul

theorem zero_mem_utf8EncodeChar {c : Char} : 0 ∈ String.utf8EncodeChar c ↔ c = '\x00' := by
  constructor
  case mpr =>
    rintro rfl
    decide
  case mp =>
    intro h
    have hv := char_valid c
    have hc : c.val.toNat = c.toNat := rfl
    have byte {n : Nat} (hn : n < 256) : 0 = UInt8.ofNat n ↔ n = 0 := by
      rw [← UInt8.toNat_inj, ofNat_toNat_of_lt hn]
      exact eq_comm
    simp only [String.utf8EncodeChar, hc] at h
    split_ifs at h with h₁ h₂ h₃
    case pos =>
      rw [List.mem_singleton, byte (by omega)] at h
      exact Char.toNat_inj.mp h
    all_goals
      simp only [List.mem_cons, List.not_mem_nil, or_false] at h
      repeat rw [byte (by omega)] at h
      omega

theorem zero_mem_asBytes {s : Text} : 0 ∈ s.asBytes ↔ '\x00' ∈ s := by
  rw [asBytes, List.mem_flatMap]
  constructor
  · intro ⟨c, hc, h₀⟩
    exact zero_mem_utf8EncodeChar.mp h₀ ▸ hc
  · intro h
    exact ⟨_, h, by decide⟩

theorem ofNat_ne_nul {n : Nat} (h : n.isValidChar) (h₀ : n ≠ 0) : Char.ofNat n ≠ '\x00' := by
  intro hc
  have hn := congrArg Char.toNat hc
  rw [Char.ofNat, dif_pos h] at hn
  exact h₀ hn

theorem scalar_two_ne_nul {b₁ b₂ : UInt8} (h : (0xC2 ≤ b₁ && b₁ ≤ 0xDF) = true) :
    scalar [b₂] (b₁.toNat % 32) ≠ '\x00' := by
  simp only [Bool.and_eq_true, decide_eq_true_eq, UInt8.le_iff_toNat_le, UInt8.reduceToNat] at h
  simp only [scalar, List.foldl_cons, List.foldl_nil]
  exact ofNat_ne_nul (.inl (by omega)) (by omega)

theorem scalar_three_ne_nul {b₁ b₂ b₃ : UInt8} (h : (0xE0 ≤ b₁ && b₁ ≤ 0xEF) = true)
    (h₂ : isSecondOfThree b₁ b₂) : scalar [b₂, b₃] (b₁.toNat % 16) ≠ '\x00' := by
  simp only [Bool.and_eq_true, decide_eq_true_eq, UInt8.le_iff_toNat_le, UInt8.reduceToNat] at h
  rw [isSecondOfThree_iff] at h₂
  simp only [scalar, List.foldl_cons, List.foldl_nil]
  refine ofNat_ne_nul ?_ (by omega)
  rw [Nat.isValidChar]
  omega

theorem scalar_four_ne_nul {b₁ b₂ b₃ b₄ : UInt8} (h : (0xF0 ≤ b₁ && b₁ ≤ 0xF4) = true)
    (h₂ : isSecondOfFour b₁ b₂) : scalar [b₂, b₃, b₄] (b₁.toNat % 8) ≠ '\x00' := by
  simp only [Bool.and_eq_true, decide_eq_true_eq, UInt8.le_iff_toNat_le, UInt8.reduceToNat] at h
  rw [isSecondOfFour_iff] at h₂
  simp only [scalar, List.foldl_cons, List.foldl_nil]
  exact ofNat_ne_nul (.inr (by omega)) (by omega)

theorem nul_not_mem_fromUtf8Lossy {bs : Bytes} (h : 0 ∉ bs) : '\x00' ∉ fromUtf8Lossy bs := by
  have replacement : '\x00' ≠ replacementChar := by decide
  fun_induction fromUtf8Lossy bs
  case case1 => exact List.not_mem_nil
  case case2 b₁ bs hb ih =>
    simp only [List.mem_cons, not_or] at h
    have hv : b₁.toNat.isValidChar := .inl (Nat.lt_trans b₁.toNat_lt (by decide))
    exact List.not_mem_cons_of_ne_of_not_mem
      (ofNat_ne_nul hv fun hz => h.left (UInt8.toNat_inj.mp hz.symm)).symm (ih h.right)
  case case3 hl _ _ _ ih =>
    simp only [List.mem_cons, not_or] at h
    exact List.not_mem_cons_of_ne_of_not_mem (scalar_two_ne_nul hl).symm (ih h.right.right)
  case case6 hl _ _ _ h₂ _ ih =>
    simp only [List.mem_cons, not_or] at h
    exact List.not_mem_cons_of_ne_of_not_mem (scalar_three_ne_nul hl h₂).symm (ih h.right.right.right)
  case case12 hl _ _ _ _ h₂ _ _ ih =>
    simp only [List.mem_cons, not_or] at h
    exact List.not_mem_cons_of_ne_of_not_mem (scalar_four_ne_nul hl h₂).symm (ih h.right.right.right.right)
  all_goals
    simp_all [List.mem_cons]

end Nul
end MySQL.Text
