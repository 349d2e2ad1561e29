import Mathlib.Algebra.Order.Field.Power
import Mathlib.Data.Int.Log
import Mathlib.Data.Rat.Floor
import Mathlib.Tactic.Common
import Mathlib.Tactic.Linarith
import Mathlib.Tactic.NormNum
import Mathlib.Tactic.Positivity
import Mathlib.Tactic.Ring
import Leasehold.Number.Binary64

/-!
# Rounding to doubles

What is needed of the rounding of positive numbers.

* `nearestEven_mono`, `nearestEven_intCast`: rounding to whole numbers.
* `Binary64.Fits`: the numbers that are doubles themselves.
* `Binary64.near` is the double that `Binary64.round` picks; `round_of_pos` says so.
* `le_near_of_fits`, `near_le_of_fits`: no double lies between a number and its rounding, so that
  rounding keeps every bound that is a double.
* `Fits.sub_natCast`, `near_add_le`: what adding a fraction to a whole number does to doubles.
-/

namespace Leasehold

/-! ### Rounding to whole numbers -/

theorem nearestEven_le (q : ℚ) : (nearestEven q : ℚ) ≤ q + 1 / 2 := by
  have hfloor : (q.floor : ℚ) ≤ q := Int.floor_le q
  unfold nearestEven
  dsimp only
  split
  · linarith
  · split
    · push_cast
      linarith
    · split
      · linarith
      · push_cast
        linarith

theorem le_nearestEven (q : ℚ) : q - 1 / 2 ≤ (nearestEven q : ℚ) := by
  have hfloor : q < q.floor + 1 := Int.lt_floor_add_one q
  unfold nearestEven
  dsimp only
  split
  · linarith
  · split
    · push_cast
      linarith
    · split
      · linarith
      · push_cast
        linarith

theorem nearestEven_mono {x y : ℚ} (h : x ≤ y) : nearestEven x ≤ nearestEven y := by
  by_contra hlt
  have hstep : (nearestEven y : ℚ) + 1 ≤ nearestEven x := by exact_mod_cast Int.not_le.1 hlt
  have hx := nearestEven_le x
  have hy := le_nearestEven y
  -- both roundings go by exactly one half, and so from the same number
  have heq : x = y := by linarith
  rw [heq] at hlt
  exact hlt (Int.le_refl _)

theorem nearestEven_intCast (n : ℤ) : nearestEven (n : ℚ) = n := by
  have hle := nearestEven_le (n : ℚ)
  have hge := le_nearestEven (n : ℚ)
  have hlt : (nearestEven (n : ℚ) : ℚ) < n + 1 := by linarith
  have hgt : (n : ℚ) < nearestEven (n : ℚ) + 1 := by linarith
  have hlt' : nearestEven (n : ℚ) < n + 1 := by exact_mod_cast hlt
  have hgt' : n < nearestEven (n : ℚ) + 1 := by exact_mod_cast hgt
  omega

theorem le_nearestEven_of_le {n : ℤ} {q : ℚ} (h : (n : ℚ) ≤ q) : n ≤ nearestEven q := by
  rw [← nearestEven_intCast n]
  exact nearestEven_mono h

theorem nearestEven_le_of_le {n : ℤ} {q : ℚ} (h : q ≤ (n : ℚ)) : nearestEven q ≤ n := by
  rw [← nearestEven_intCast n]
  exact nearestEven_mono h

namespace Binary64

variable {q a : ℚ}

/-! ### Powers of two -/

theorem twoPow_eq (e : ℤ) : twoPow e = (2 : ℚ) ^ e := rfl

theorem two_zpow_pos (e : ℤ) : (0 : ℚ) < 2 ^ e := zpow_pos (by norm_num) e

theorem two_zpow_le {e f : ℤ} (h : e ≤ f) : (2 : ℚ) ^ e ≤ 2 ^ f :=
  zpow_le_zpow_right₀ (by norm_num) h

theorem log_eq {e : ℤ} (hq : 0 < q) (hle : (2 : ℚ) ^ e ≤ q) (hlt : q < (2 : ℚ) ^ (e + 1)) :
    Int.log 2 q = e := by
  have hge := (Int.zpow_le_iff_le_log (b := 2) (by norm_num) hq).1 hle
  have hlt := (Int.lt_zpow_iff_log_lt (b := 2) (by norm_num) hq).1 hlt
  omega

theorem two_zpow_log_le (hq : 0 < q) : (2 : ℚ) ^ Int.log 2 q ≤ q :=
  Int.zpow_log_le_self (by norm_num) hq

theorem lt_two_zpow_log (q : ℚ) : q < (2 : ℚ) ^ (Int.log 2 q + 1) :=
  Int.lt_zpow_succ_log_self (by norm_num) q

theorem intCast_two_pow (n : ℕ) : ((2 ^ n : ℤ) : ℚ) = 2 ^ (n : ℤ) := by
  rw [zpow_natCast]
  push_cast
  rfl

/-- A positive whole number is between two powers of two. -/
theorem two_zpow_log2 {n : ℕ} (hn : n ≠ 0) :
    (2 : ℚ) ^ (n.log2 : ℤ) ≤ n ∧ (n : ℚ) < 2 ^ ((n.log2 : ℤ) + 1) := by
  have hlt : n < 2 ^ (n.log2 + 1) := Nat.lt_log2_self
  have hcast : (2 : ℚ) ^ ((n.log2 : ℤ) + 1) = ((2 ^ (n.log2 + 1) : ℕ) : ℚ) := by
    push_cast
    rw [← zpow_natCast]
    push_cast
    rfl
  refine ⟨?_, ?_⟩
  · rw [zpow_natCast]
    exact_mod_cast Nat.log2_self_le hn
  · rw [hcast]
    exact_mod_cast hlt

/-- The exponent of a positive number is its logarithm. -/
theorem exponent_eq (hq : 0 < q) : exponent q = Int.log 2 q := by
  have hnum : (q.num.natAbs : ℚ) = q.num := by
    rw [Nat.cast_natAbs, abs_of_pos (Rat.num_pos.2 hq)]
  have hden : (0 : ℚ) < q.den := by exact_mod_cast q.den_pos
  have hmul : (q.num.natAbs : ℚ) = q * q.den := by rw [hnum, Rat.mul_den_eq_num]
  obtain ⟨hnle, hnlt⟩ := two_zpow_log2 (Int.natAbs_ne_zero.2 (Rat.num_pos.2 hq).ne')
  obtain ⟨hdle, hdlt⟩ := two_zpow_log2 q.den_nz
  rw [hmul] at hnle hnlt
  unfold exponent
  dsimp only
  generalize (q.num.natAbs.log2 : ℤ) = a at *
  generalize (q.den.log2 : ℤ) = b at *
  have hlow : (2 : ℚ) ^ (a - b - 1) ≤ q := by
    rw [show a - b - 1 = a - (b + 1) by omega, zpow_sub₀ (by norm_num),
      div_le_iff₀ (two_zpow_pos _)]
    exact hnle.trans (mul_le_mul_of_nonneg_left hdlt.le hq.le)
  have hhigh : q < (2 : ℚ) ^ (a - b + 1) := by
    rw [show a - b + 1 = a + 1 - b by omega, zpow_sub₀ (by norm_num), lt_div_iff₀ (two_zpow_pos _)]
    exact (mul_le_mul_of_nonneg_left hdle hq.le).trans_lt hnlt
  split
  · next h => exact (log_eq hq h hhigh).symm
  · next h =>
    refine (log_eq hq hlow ?_).symm
    rw [show a - b - 1 + 1 = a - b by omega]
    exact not_le.1 h

/-- A multiple of a power of two is a whole multiple of every smaller one. -/
theorem exists_whole_multiple (m : ℕ) {j t : ℤ} (h : t ≤ j) :
    ∃ n : ℤ, (m : ℚ) * 2 ^ j = n * 2 ^ t := by
  refine ⟨m * 2 ^ (j - t).toNat, ?_⟩
  push_cast
  rw [mul_assoc, ← zpow_natCast, Int.toNat_of_nonneg (by omega), ← zpow_add₀ (by norm_num)]
  congr 2
  omega

/-! ### Neighbouring doubles -/

/-- The exponent of the distance between neighbouring doubles at a positive number. -/
def fineness (q : ℚ) : ℤ := max (Int.log 2 q - 52) (-1074)

/-- The double that is nearest to a positive number, if there were no largest one. -/
def near (q : ℚ) : ℚ := nearestEven (q / 2 ^ fineness q) * 2 ^ fineness q

/-- Whether a number that is not negative is a double, if there were no largest one. -/
def Fits (q : ℚ) : Prop := ∃ m : ℕ, ∃ j : ℤ, m < 2 ^ 53 ∧ -1074 ≤ j ∧ q = m * 2 ^ j

theorem grain_eq (hq : 0 < q) : grain q = 2 ^ fineness q := by
  unfold grain fineness
  rw [twoPow_eq, exponent_eq hq]

theorem round_of_pos (hq : 0 < q) (h : near q < 2 ^ (1024 : ℤ)) : round q = .finite (near q) := by
  have hmagnitude : magnitude q = q := if_neg (not_lt.2 hq.le)
  unfold round
  dsimp only
  rw [if_neg hq.ne', hmagnitude, grain_eq hq]
  have hfinite : ¬twoPow 1024 ≤ nearestEven (q / 2 ^ fineness q) * 2 ^ fineness q := not_le.2 h
  rw [if_neg hfinite, if_neg (not_lt.2 hq.le)]
  rfl

theorem fits_zpow {j : ℤ} (h : -1074 ≤ j) : Fits (2 ^ j) := ⟨1, j, by norm_num, h, by simp⟩

theorem fits_natCast {n : ℕ} (h : n < 2 ^ 53) : Fits n := ⟨n, 0, h, by norm_num, by simp⟩

theorem fits_zero : Fits 0 := ⟨0, 0, by norm_num, by norm_num, by simp⟩

theorem fits_half : Fits (1 / 2) := by
  have h := fits_zpow (j := -1) (by norm_num)
  rwa [zpow_neg_one, ← one_div] at h

/-- A double that is no multiple of the distance between neighbours at a number is below all numbers
with its exponent. -/
theorem lt_of_lt_fineness {m : ℕ} {j : ℤ} (hm : m < 2 ^ 53) (hj : -1074 ≤ j)
    (h : j < fineness q) :
    fineness q = Int.log 2 q - 52 ∧ (m : ℚ) * 2 ^ j < 2 ^ Int.log 2 q := by
  have hlog : fineness q = Int.log 2 q - 52 := by
    unfold fineness at h ⊢
    omega
  refine ⟨hlog, ?_⟩
  have hm' : (m : ℚ) < 2 ^ (53 : ℤ) := by exact_mod_cast hm
  calc (m : ℚ) * 2 ^ j < 2 ^ (53 : ℤ) * 2 ^ j := mul_lt_mul_of_pos_right hm' (two_zpow_pos j)
    _ = 2 ^ (53 + j) := (zpow_add₀ (by norm_num) _ _).symm
    _ ≤ 2 ^ Int.log 2 q := two_zpow_le (by omega)

theorem two_zpow_log_le_near (hq : 0 < q) (h : fineness q = Int.log 2 q - 52) :
    (2 : ℚ) ^ Int.log 2 q ≤ near q := by
  have hsplit : (2 : ℚ) ^ Int.log 2 q = ((2 ^ 52 : ℤ) : ℚ) * 2 ^ fineness q := by
    rw [intCast_two_pow, ← zpow_add₀ (by norm_num), h]
    congr 1
    omega
  have hlog := two_zpow_log_le hq
  rw [hsplit] at hlog ⊢
  refine mul_le_mul_of_nonneg_right ?_ (two_zpow_pos _).le
  exact_mod_cast le_nearestEven_of_le ((le_div_iff₀ (two_zpow_pos _)).2 hlog)

theorem le_near_of_fits (hq : 0 < q) (ha : Fits a) (h : a ≤ q) : a ≤ near q := by
  obtain ⟨m, j, hm, hj, rfl⟩ := ha
  have hgrain := two_zpow_pos (fineness q)
  rcases le_or_gt (fineness q) j with hle | hlt
  · obtain ⟨n, hn⟩ := exists_whole_multiple m hle
    rw [hn] at h ⊢
    refine mul_le_mul_of_nonneg_right ?_ hgrain.le
    exact_mod_cast le_nearestEven_of_le ((le_div_iff₀ hgrain).2 h)
  · obtain ⟨hlog, hbelow⟩ := lt_of_lt_fineness hm hj hlt
    exact hbelow.le.trans (two_zpow_log_le_near hq hlog)

theorem near_le_of_fits (hq : 0 < q) (ha : Fits a) (h : q ≤ a) : near q ≤ a := by
  obtain ⟨m, j, hm, hj, rfl⟩ := ha
  have hgrain := two_zpow_pos (fineness q)
  rcases le_or_gt (fineness q) j with hle | hlt
  · obtain ⟨n, hn⟩ := exists_whole_multiple m hle
    rw [hn] at h ⊢
    refine mul_le_mul_of_nonneg_right ?_ hgrain.le
    exact_mod_cast nearestEven_le_of_le ((div_le_iff₀ hgrain).2 h)
  · have hbelow := (lt_of_lt_fineness hm hj hlt).2
    exact absurd (h.trans_lt hbelow) (not_lt.2 (two_zpow_log_le hq))

/-- A double is rounded to itself. -/
theorem near_of_fits (hq : 0 < q) (h : Fits q) : near q = q :=
  le_antisymm (near_le_of_fits hq h le_rfl) (le_near_of_fits hq h le_rfl)

/-- What a number is rounded to is a double. -/
theorem fits_near (hq : 0 < q) : Fits (near q) := by
  have hgrain := two_zpow_pos (fineness q)
  have hnonneg : 0 ≤ nearestEven (q / 2 ^ fineness q) :=
    le_nearestEven_of_le (by exact_mod_cast (div_pos hq hgrain).le)
  have hfine : -1074 ≤ fineness q := Int.le_max_right _ _
  have hupper : nearestEven (q / 2 ^ fineness q) ≤ 2 ^ 53 := by
    refine nearestEven_le_of_le ((div_le_iff₀ hgrain).2 ?_)
    rw [intCast_two_pow, ← zpow_add₀ (by norm_num)]
    refine (lt_two_zpow_log q).le.trans (two_zpow_le ?_)
    unfold fineness
    omega
  obtain ⟨n, hn⟩ := Int.eq_ofNat_of_zero_le hnonneg
  unfold near
  rw [hn] at hupper ⊢
  rcases hupper.lt_or_eq with hlt | heq
  · exact ⟨n, fineness q, by exact_mod_cast hlt, hfine, by push_cast; rfl⟩
  · refine ⟨1, fineness q + 53, by norm_num, by omega, ?_⟩
    rw [heq, zpow_add₀ (by norm_num)]
    push_cast
    ring

/-! ### Sums with whole numbers -/

/-- What a double has beyond a whole number is a double, or at least one. -/
theorem Fits.sub_natCast (h : Fits q) {n : ℕ} (hn : (n : ℚ) < q) : Fits (q - n) ∨ 1 ≤ q - n := by
  obtain ⟨m, j, hm, hj, rfl⟩ := h
  rcases le_or_gt 0 j with hpos | hneg
  · -- a double without a fraction
    right
    obtain ⟨k, rfl⟩ := Int.eq_ofNat_of_zero_le hpos
    have hcast : (m : ℚ) * 2 ^ (k : ℤ) = ((m * 2 ^ k : ℕ) : ℚ) := by push_cast; rw [zpow_natCast]
    rw [hcast] at hn ⊢
    have hlt : n + 1 ≤ m * 2 ^ k := by exact_mod_cast hn
    have hle : (n : ℚ) + 1 ≤ ((m * 2 ^ k : ℕ) : ℚ) := by exact_mod_cast hlt
    linarith
  · left
    obtain ⟨k, hk⟩ := Int.eq_ofNat_of_zero_le (Int.neg_nonneg_of_nonpos hneg.le)
    have hj' : j = -(k : ℤ) := by omega
    have hunit : (2 : ℚ) ^ k * 2 ^ j = 1 := by
      rw [hj', ← zpow_natCast, ← zpow_add₀ (by norm_num)]
      simp
    have hle : n * 2 ^ k ≤ m := by
      have hmul : (n : ℚ) * 2 ^ k ≤ m := by
        refine le_of_mul_le_mul_right ?_ (two_zpow_pos j)
        rw [mul_assoc, hunit, mul_one]
        exact hn.le
      exact_mod_cast hmul
    refine ⟨m - n * 2 ^ k, j, by omega, hj, ?_⟩
    push_cast [Nat.cast_sub hle]
    rw [sub_mul, mul_assoc, hunit, mul_one]

/-- From `2 ^ 53` on the doubles are whole numbers. -/
theorem Fits.exists_natCast (h : Fits a) (ha : 2 ^ (53 : ℤ) ≤ a) : ∃ n : ℕ, a = n := by
  obtain ⟨m, j, hm, -, rfl⟩ := h
  have hm' : (m : ℚ) < 2 ^ (53 : ℤ) := by exact_mod_cast hm
  have hj : 0 ≤ j := by
    by_contra hneg
    have hone : (2 : ℚ) ^ j ≤ 1 := zpow_le_one_of_nonpos₀ (by norm_num) (by omega)
    have hle : (m : ℚ) * 2 ^ j ≤ m := mul_le_of_le_one_right (Nat.cast_nonneg m) hone
    linarith
  obtain ⟨k, rfl⟩ := Int.eq_ofNat_of_zero_le hj
  exact ⟨m * 2 ^ k, by push_cast; rw [zpow_natCast]⟩

/-- What is added to a multiple of the distance of neighbours is lost if it is less than half of
it. -/
theorem near_add_le_of_multiple {f : ℚ} {n : ℤ} (hn : a = n * 2 ^ fineness (a + f))
    (hf : 2 * f < 2 ^ fineness (a + f)) : near (a + f) ≤ a := by
  have hgrain := two_zpow_pos (fineness (a + f))
  have hsmall : f / 2 ^ fineness (a + f) < 1 / 2 := by
    rw [div_lt_iff₀ hgrain]
    linarith
  have hquot : (a + f) / 2 ^ fineness (a + f) = n + f / 2 ^ fineness (a + f) := by
    rw [add_div]
    congr 1
    rw [eq_comm, eq_div_iff hgrain.ne']
    exact hn.symm
  have hround : nearestEven ((a + f) / 2 ^ fineness (a + f)) ≤ n := by
    have hnear := nearestEven_le ((a + f) / 2 ^ fineness (a + f))
    rw [hquot] at hnear ⊢
    have hlt : (nearestEven (n + f / 2 ^ fineness (a + f)) : ℚ) < n + 1 := by linarith
    exact Int.lt_add_one_iff.1 (by exact_mod_cast hlt)
  calc near (a + f) ≤ n * 2 ^ fineness (a + f) :=
        mul_le_mul_of_nonneg_right (by exact_mod_cast hround) hgrain.le
    _ = a := hn.symm

/-- From `2 ^ 53` on a double swallows less than a whole. -/
theorem near_add_le (h : Fits a) (ha : 2 ^ (53 : ℤ) ≤ a) {f : ℚ} (hf : 0 ≤ f) (hf1 : f < 1) :
    near (a + f) ≤ a := by
  have hapos : 0 < a := (two_zpow_pos 53).trans_le ha
  have hq : 0 < a + f := by linarith
  have hlog : 53 ≤ Int.log 2 (a + f) :=
    (Int.zpow_le_iff_le_log (b := 2) (by norm_num) hq).1 (by push_cast; linarith)
  have hfine : 1 ≤ fineness (a + f) := by
    unfold fineness
    omega
  obtain ⟨k, hk⟩ := h.exists_natCast ha
  obtain ⟨m, j, hm, hj, hmj⟩ := h
  rcases le_or_gt (fineness (a + f)) j with hle | hlt
  · -- the double is a multiple of the distance of its neighbours, and the part less than half of it
    obtain ⟨n, hn⟩ := exists_whole_multiple m hle
    have htwo : (2 : ℚ) ≤ 2 ^ fineness (a + f) := by simpa using two_zpow_le hfine
    exact near_add_le_of_multiple (hmj.trans hn) (by linarith)
  · -- no power of two lies between a whole number and a part of one more
    have hbelow := (lt_of_lt_fineness hm hj hlt).2
    rw [← hmj] at hbelow
    have hpower := two_zpow_log_le hq
    obtain ⟨l, hl⟩ := Int.eq_ofNat_of_zero_le (by omega : 0 ≤ Int.log 2 (a + f))
    rw [hl, zpow_natCast] at hbelow hpower
    rw [hk] at hbelow hpower
    have hstep : k + 1 ≤ 2 ^ l := by exact_mod_cast hbelow
    have hstep' : (k : ℚ) + 1 ≤ 2 ^ l := by exact_mod_cast hstep
    linarith

/-! ### Rounding within bounds -/

/-- A number between two doubles is rounded to a double between them. -/
theorem round_between {low high : ℚ} (hq : 0 < q) (hlow : Fits low) (hhigh : Fits high)
    (hle : low ≤ q) (hge : q ≤ high) (hmax : high < 2 ^ (1024 : ℤ)) :
    ∃ v, round q = .finite v ∧ Fits v ∧ low ≤ v ∧ v ≤ high := by
  have hnear := near_le_of_fits hq hhigh hge
  exact ⟨near q, round_of_pos hq (hnear.trans_lt hmax), fits_near hq, le_near_of_fits hq hlow hle,
    hnear⟩

theorem round_of_fits (hq : 0 < q) (h : Fits q) (hmax : q < 2 ^ (1024 : ℤ)) :
    round q = .finite q := by
  have hnear := near_of_fits hq h
  rw [round_of_pos hq (hnear.trans_lt hmax), hnear]

theorem lt_two_zpow_1024 {n : ℕ} (h : n ≤ 2 ^ 53) : (n : ℚ) < 2 ^ (1024 : ℤ) := by
  have hn : (n : ℚ) ≤ 2 ^ (53 : ℤ) := by exact_mod_cast h
  exact hn.trans_lt (zpow_lt_zpow_right₀ (by norm_num) (by norm_num))

/-- Whole numbers below `2 ^ 53` are doubles. -/
theorem round_natCast {n : ℕ} (h : n < 2 ^ 53) : round n = .finite n := by
  rcases Nat.eq_zero_or_pos n with rfl | hn
  · rfl
  · exact round_of_fits (by exact_mod_cast hn) (fits_natCast h) (lt_two_zpow_1024 h.le)

/-- Half of a double is a double, down to a quarter. -/
theorem Fits.half (h : Fits q) (hle : 1 / 2 ≤ q) : Fits (q / 2) := by
  obtain ⟨m, j, hm, hj, rfl⟩ := h
  have hm' : (m : ℚ) < 2 ^ (53 : ℤ) := by exact_mod_cast hm
  have hlt : (2 : ℚ) ^ (-1 : ℤ) < 2 ^ (53 + j) := by
    rw [zpow_add₀ (by norm_num)]
    refine lt_of_le_of_lt ?_ (mul_lt_mul_of_pos_right hm' (two_zpow_pos j))
    rw [zpow_neg_one, ← one_div]
    exact hle
  have hexp : -1 < 53 + j := (zpow_lt_zpow_iff_right₀ (by norm_num)).1 hlt
  refine ⟨m, j - 1, hm, by omega, ?_⟩
  rw [zpow_sub_one₀ (by norm_num)]
  ring

/-- A number that is not negative is rounded to a double on the same side of all doubles. -/
theorem round_of_nonneg (hq : 0 ≤ q) (hmax : q ≤ 2 ^ (1023 : ℤ)) :
    ∃ v, round q = .finite v ∧ Fits v ∧ (∀ a, Fits a → a ≤ q → a ≤ v) ∧
      ∀ a, Fits a → q ≤ a → v ≤ a := by
  rcases hq.eq_or_lt with rfl | hpos
  · exact ⟨0, rfl, fits_zero, fun _ _ h => h, fun _ _ h => h⟩
  · have hnear : near q ≤ 2 ^ (1023 : ℤ) := near_le_of_fits hpos (fits_zpow (by norm_num)) hmax
    have hlt : near q < 2 ^ (1024 : ℤ) :=
      hnear.trans_lt (zpow_lt_zpow_right₀ (by norm_num) (by norm_num))
    exact ⟨near q, round_of_pos hpos hlt, fits_near hpos, fun a ha h => le_near_of_fits hpos ha h,
      fun a ha h => near_le_of_fits hpos ha h⟩

/-- What is rounded to a positive number is rounded to a double. -/
theorem fits_of_round {v : ℚ} (h : round q = .finite v) (hv : 0 < v) : Fits v := by
  rcases lt_trichotomy q 0 with hneg | rfl | hpos
  · -- what is below zero is rounded to a number that is not above it
    have hpos : 0 < -q := neg_pos.2 hneg
    have hmagnitude : magnitude q = -q := if_pos hneg
    have hzero : (0 : ℚ) ≤ nearestEven (-q / 2 ^ fineness (-q)) * 2 ^ fineness (-q) := by
      refine mul_nonneg ?_ (two_zpow_pos _).le
      exact_mod_cast le_nearestEven_of_le (n := 0) (by
        push_cast
        exact (div_pos hpos (two_zpow_pos _)).le)
    unfold round at h
    dsimp only at h
    rw [if_neg hneg.ne, hmagnitude, grain_eq hpos] at h
    split at h
    · cases h
    · cases h
      linarith
  · cases h
    exact absurd hv (lt_irrefl 0)
  · have hmagnitude : magnitude q = q := if_neg (not_lt.2 hpos.le)
    unfold round at h
    dsimp only at h
    rw [if_neg hpos.ne', hmagnitude, grain_eq hpos, if_neg (not_lt.2 hpos.le)] at h
    split at h
    · cases h
    · cases h
      exact fits_near hpos

theorem fits_of_mul {x y : Binary64} {v : ℚ} (h : mul x y = .finite v) (hv : 0 < v) : Fits v := by
  unfold mul at h
  split at h
  · exact fits_of_round h hv
  · cases h
  · split at h <;> cases h
  · split at h <;> cases h
  · cases h

end Binary64

end Leasehold
