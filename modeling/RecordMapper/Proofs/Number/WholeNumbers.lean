import Mathlib.Algebra.Order.Field.Power
import Mathlib.Data.Rat.Cast.Order
import Mathlib.Tactic.NormNum
import Mathlib.Tactic.Ring
import RecordMapper.Proofs.Sql.Lowering

/-!
# Doubles as integers

Every double that is a number denotes a rational number, given by the bits (`Binary64.rational?`). A
double is cast to an integer exactly if this rational number is a 64-bit integer, and the integer is
that number (`ValueType.cast_integer_float`).

The test compares with the least and the greatest integer as doubles. The least one is exact, the
greatest one is rounded up to `2 ^ 63`. Comparisons are strict there, and no integer lies between.
-/

namespace RecordMapper

namespace Binary64

/-- The rational number that the bits denote, if they denote one: the significand, in which the leading
bit is one unless the exponent field is zero, times a power of two. -/
def rational? (x : Binary64) : Option ℚ :=
  if x.exponentField = 2047 then none
  else
    let significand : ℕ := (if x.exponentField = 0 then 0 else 2 ^ 52) + x.fractionField
    some ((-1) ^ x.negative.toNat * significand * 2 ^ (max 1 (x.exponentField : ℤ) - 1075))

variable {x y : Binary64} {negative : Bool} {m : ℕ} {e : ℤ} {p q : ℚ}

theorem cast_signed (negative : Bool) (n : ℕ) :
    (signed negative n : ℚ) = (-1) ^ negative.toNat * (n : ℚ) := by
  cases negative <;> simp [signed]

theorem rational?_of_finite (h : x.datum = .finite negative m e) :
    x.rational? = some ((signed negative m : ℚ) * 2 ^ e) := by
  unfold datum at h
  unfold rational?
  by_cases hspecial : x.exponentField = 2047
  · rw [if_pos hspecial] at h
    split at h <;> cases h
  · rw [if_neg hspecial] at h ⊢
    by_cases hzero : x.exponentField = 0
    · rw [if_pos hzero] at h
      cases h
      have hexponent : max 1 (x.exponentField : ℤ) - 1075 = -1074 := by omega
      simp only [if_pos hzero, hexponent, cast_signed, Nat.zero_add]
    · rw [if_neg hzero] at h
      cases h
      have hexponent : max 1 (x.exponentField : ℤ) - 1075 = x.exponentField - 1075 := by omega
      simp only [if_neg hzero, hexponent, cast_signed, Nat.pow_eq]

theorem exists_finite (h : x.rational? = some p) :
    ∃ negative m e, x.datum = .finite negative m e ∧ p = (signed negative m : ℚ) * 2 ^ e := by
  have hfinite : ∃ negative m e, x.datum = .finite negative m e := by
    unfold rational? at h
    unfold datum
    by_cases hspecial : x.exponentField = 2047
    · rw [if_pos hspecial] at h
      cases h
    · rw [if_neg hspecial]
      split <;> exact ⟨_, _, _, rfl⟩
  obtain ⟨negative, m, e, hdatum⟩ := hfinite
  rw [rational?_of_finite hdatum] at h
  exact ⟨negative, m, e, hdatum, (Option.some.inj h).symm⟩

/-! ## Comparing -/

theorem signed_mul (negative : Bool) (m n : ℕ) : signed negative (m * n) = signed negative m * n := by
  cases negative <;> simp [signed]

/-- A finite number is a whole multiple of every power of two up to its own. -/
theorem signed_mul_zpow {least : ℤ} (h : least ≤ e) :
    (signed negative m : ℚ) * 2 ^ e =
      (signed negative (m * Nat.pow 2 (e - least).toNat) : ℤ) * 2 ^ least := by
  have hpow : (2 : ℚ) ^ e = 2 ^ (e - least).toNat * 2 ^ least := by
    rw [← zpow_natCast, ← zpow_add₀ two_ne_zero, Int.toNat_of_nonneg (Int.sub_nonneg.mpr h),
      Int.sub_add_cancel]
  rw [hpow, signed_mul, Nat.pow_eq]
  push_cast
  ring

theorem exists_compare? (hx : x.rational? = some p) (hy : y.rational? = some q) :
    ∃ (a b least : ℤ), x.compare? y = some (compare a b) ∧ p = a * 2 ^ least ∧ q = b * 2 ^ least := by
  obtain ⟨negative, m, e, hdatum, rfl⟩ := exists_finite hx
  obtain ⟨negative', m', e', hdatum', rfl⟩ := exists_finite hy
  refine ⟨_, _, min e e', ?_, signed_mul_zpow (min_le_left e e'), signed_mul_zpow (min_le_right e e')⟩
  simp only [compare?, hdatum, hdatum']

theorem compare?_eq_lt (hx : x.rational? = some p) (hy : y.rational? = some q) :
    x.compare? y = some .lt ↔ p < q := by
  obtain ⟨a, b, least, hcompare, rfl, rfl⟩ := exists_compare? hx hy
  have hpos : (0 : ℚ) < 2 ^ least := zpow_pos two_pos least
  rw [hcompare, Option.some.injEq, Int.compare_eq_lt, mul_lt_mul_iff_left₀ hpos, Int.cast_lt]

theorem compare?_isGE (hx : x.rational? = some p) (hy : y.rational? = some q) :
    (x.compare? y).any (·.isGE) = true ↔ q ≤ p := by
  obtain ⟨a, b, least, hcompare, rfl, rfl⟩ := exists_compare? hx hy
  have hpos : (0 : ℚ) < 2 ^ least := zpow_pos two_pos least
  rw [hcompare, Option.any_some, Int.isGE_compare, mul_le_mul_iff_left₀ hpos, Int.cast_le]

/-! ## Whole numbers -/

theorem isWhole_iff (h : x.datum = .finite negative m e) :
    x.isWhole = true ↔ 2 ^ (-e).toNat ∣ m := by
  simp only [isWhole, h, decide_eq_true_eq, Nat.pow_eq, Nat.dvd_iff_mod_eq_zero]

theorem zpow_eq_div (e : ℤ) : (2 : ℚ) ^ e = 2 ^ e.toNat / 2 ^ (-e).toNat := by
  rw [← zpow_natCast, ← zpow_natCast, ← zpow_sub₀ two_ne_zero, Int.toNat_sub_toNat_neg]

theorem natAbs_signed (negative : Bool) (m : ℕ) : (signed negative m).natAbs = m := by
  cases negative <;> simp [signed]

/-- A finite number is an integer exactly if nothing comes after its point. -/
theorem rational?_eq_int (h : x.datum = .finite negative m e) {n : ℤ} :
    x.rational? = some (n : ℚ) ↔
      x.isWhole = true ∧ signed negative (m * Nat.pow 2 e.toNat / Nat.pow 2 (-e).toNat) = n := by
  rw [isWhole_iff h, rational?_of_finite h, Option.some.injEq, zpow_eq_div, mul_div_assoc',
    div_eq_iff (pow_ne_zero _ two_ne_zero), Nat.pow_eq, Nat.pow_eq]
  have hpos : (0 : ℤ) < 2 ^ (-e).toNat := pow_pos two_pos _
  rcases le_total 0 e with he | he
  · have hzero : (-e).toNat = 0 := by omega
    rw [hzero, Nat.pow_zero, Nat.div_one, signed_mul]
    simp only [one_dvd, true_and, pow_zero, mul_one]
    norm_cast
  · have hzero : e.toNat = 0 := by omega
    rw [hzero, Nat.pow_zero, Nat.mul_one, pow_zero, mul_one]
    constructor
    · intro hn
      have hn' : signed negative m = n * 2 ^ (-e).toNat := by exact_mod_cast hn
      have hm : m = n.natAbs * 2 ^ (-e).toNat := by
        rw [← natAbs_signed negative m, hn', Int.natAbs_mul, Int.natAbs_pow]
        rfl
      have hdvd : 2 ^ (-e).toNat ∣ m := Dvd.intro_left _ hm.symm
      refine ⟨hdvd, Int.eq_of_mul_eq_mul_right hpos.ne' ?_⟩
      calc signed negative (m / 2 ^ (-e).toNat) * 2 ^ (-e).toNat
          = signed negative (m / 2 ^ (-e).toNat * 2 ^ (-e).toNat) := by rw [signed_mul]; norm_cast
        _ = n * 2 ^ (-e).toNat := by rw [Nat.div_mul_cancel hdvd, hn']
    · rintro ⟨⟨k, rfl⟩, rfl⟩
      rw [Nat.mul_div_cancel_left _ (Nat.two_pow_pos _), Nat.mul_comm, signed_mul]
      push_cast
      rfl

theorem exists_int_of_isWhole (h : x.isWhole = true) : ∃ n : ℤ, x.rational? = some (n : ℚ) := by
  cases hdatum : x.datum with
  | nan => simp only [isWhole, hdatum, Bool.false_eq_true] at h
  | infinite negative => simp only [isWhole, hdatum, Bool.false_eq_true] at h
  | finite negative m e => exact ⟨_, (rational?_eq_int hdatum).mpr ⟨h, rfl⟩⟩

/-- An integer in range is itself what stands before its point. -/
theorem toInt_toInt64 {n : ℤ} (h : x.rational? = some (n : ℚ)) (hlow : -2 ^ 63 ≤ n) (hhigh : n < 2 ^ 63) :
    x.isWhole = true ∧ x.toInt64.toInt = n := by
  obtain ⟨negative, m, e, hdatum, -⟩ := exists_finite h
  obtain ⟨hwhole, hn⟩ := (rational?_eq_int hdatum).mp h
  refine ⟨hwhole, ?_⟩
  simp only [toInt64, hdatum, hn]
  exact Int64.toInt_ofIntClamp hlow (Int.lt_add_one_iff.mp hhigh)

/-! ## The ends of the range -/

theorem rational?_minValue : (ofInt64 .minValue).rational? = some (-2 ^ 63) := by
  have h : (ofInt64 .minValue).datum = .finite true (2 ^ 52) 11 := by decide +kernel
  rw [rational?_of_finite h]
  norm_num [signed]

/-- As a double the greatest integer is rounded up. -/
theorem rational?_maxValue : (ofInt64 .maxValue).rational? = some (2 ^ 63) := by
  have h : (ofInt64 .maxValue).datum = .finite false (2 ^ 52) 11 := by decide +kernel
  rw [rational?_of_finite h]
  norm_num [signed]

end Binary64

namespace ValueType

variable {x : Binary64}

/-- A double passes as the integer that it denotes. -/
theorem wholeNumber?_eq_some {k : Int64} :
    wholeNumber? x = some k ↔ x.rational? = some (k.toInt : ℚ) := by
  simp only [wholeNumber?, Option.ite_none_right_eq_some, Bool.and_eq_true, beq_iff_eq, Option.some.injEq]
  constructor
  · rintro ⟨⟨⟨hwhole, hlow⟩, hhigh⟩, rfl⟩
    obtain ⟨n, hn⟩ := Binary64.exists_int_of_isWhole hwhole
    have hlow' : -2 ^ 63 ≤ (n : ℚ) := (Binary64.compare?_isGE hn Binary64.rational?_minValue).mp hlow
    have hhigh' : (n : ℚ) < 2 ^ 63 := (Binary64.compare?_eq_lt hn Binary64.rational?_maxValue).mp hhigh
    rw [(Binary64.toInt_toInt64 hn (by exact_mod_cast hlow') (by exact_mod_cast hhigh')).2]
    exact hn
  · intro hk
    have hlow : -2 ^ 63 ≤ (k.toInt : ℚ) := by exact_mod_cast k.le_toInt
    have hhigh : (k.toInt : ℚ) < 2 ^ 63 := by exact_mod_cast k.toInt_lt
    obtain ⟨hwhole, hint⟩ := Binary64.toInt_toInt64 hk k.le_toInt k.toInt_lt
    exact ⟨⟨⟨hwhole, (Binary64.compare?_isGE hk Binary64.rational?_minValue).mpr hlow⟩,
      (Binary64.compare?_eq_lt hk Binary64.rational?_maxValue).mpr hhigh⟩, Int64.toInt_inj.mp hint⟩

/-- A double is cast to the integer that it denotes, and every double that denotes no 64-bit integer
is refused. -/
theorem cast_integer_float (x : Binary64) :
    (∀ w, integer.cast (.float x) = .ok w ↔ ∃ n : ℤ, x.rational? = some (n : ℚ) ∧
      -2 ^ 63 ≤ n ∧ n < 2 ^ 63 ∧ ∃ k : Int64, k.toInt = n ∧ w = .int k) ∧
    ∀ e, integer.cast (.float x) = .error e ↔ e = .of (.typeConversion (.float x) .integer) ∧
      ¬∃ n : ℤ, x.rational? = some (n : ℚ) ∧ -2 ^ 63 ≤ n ∧ n < 2 ^ 63 := by
  have hcast : integer.cast? (.float x) = (wholeNumber? x).map .int := rfl
  constructor
  · intro w
    rw [cast_eq_ok, hcast, Option.map_eq_some_iff]
    constructor
    · rintro ⟨k, hk, rfl⟩
      exact ⟨k.toInt, wholeNumber?_eq_some.mp hk, k.le_toInt, k.toInt_lt, k, rfl, rfl⟩
    · rintro ⟨_, hn, -, -, k, rfl, rfl⟩
      exact ⟨k, wholeNumber?_eq_some.mpr hn, rfl⟩
  · intro e
    rw [cast_eq_error, hcast, Option.map_eq_none_iff, and_comm, eq_comm]
    refine and_congr_right fun _ => ?_
    constructor
    · rintro hnone ⟨n, hn, hlow, hhigh⟩
      have hk : wholeNumber? x = some (Int64.ofInt n) :=
        wholeNumber?_eq_some.mpr (by rwa [Int64.toInt_ofInt_of_le hlow hhigh])
      rw [hnone] at hk
      cases hk
    · intro hno
      rw [Option.eq_none_iff_forall_not_mem]
      intro k hk
      exact hno ⟨k.toInt, wholeNumber?_eq_some.mp hk, k.le_toInt, k.toInt_lt⟩

-- The doubles on the two sides of the upper end.
example : wholeNumber? ⟨0x43dfffffffffffff⟩ = some 9223372036854774784 ∧
    wholeNumber? ⟨0x43e0000000000000⟩ = none := by decide +kernel

end ValueType

end RecordMapper
