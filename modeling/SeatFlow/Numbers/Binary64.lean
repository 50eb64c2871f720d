import Mathlib.Data.Int.Log
import Mathlib.Data.Rat.Floor
import Mathlib.Tactic.FieldSimp
import Mathlib.Tactic.Linarith
import Mathlib.Tactic.NormNum
import Mathlib.Tactic.Positivity
import Mathlib.Tactic.Ring

/-!
# Binary floating-point numbers

The non-negative numbers of the 64-bit binary format, as the rationals that they are: every
operation rounds its exact result to the nearest number of the format, to the one with the even
significand halfway. What is used of them is that whole numbers below `2^53` are exact, that
nothing else falls below `2^53`, and how far a rounded quotient is from the exact one.
-/

namespace Binary64

/-! ## §1 Rounding -/

/-- The nearest whole number, the even one halfway. -/
def nearestEven (q : ℚ) : ℤ :=
  if Int.fract q < 1 / 2 then ⌊q⌋
  else if 1 / 2 < Int.fract q then ⌊q⌋ + 1
  else if ⌊q⌋ % 2 = 0 then ⌊q⌋
  else ⌊q⌋ + 1

theorem nearestEven_eq_or (q : ℚ) : nearestEven q = ⌊q⌋ ∨ nearestEven q = ⌊q⌋ + 1 := by
  unfold nearestEven
  split_ifs <;> simp

theorem nearestEven_intCast (n : ℤ) : nearestEven n = n := by
  unfold nearestEven
  rw [Int.fract_intCast, if_pos (by norm_num), Int.floor_intCast]

theorem le_nearestEven {n : ℤ} {q : ℚ} (h : (n : ℚ) ≤ q) : n ≤ nearestEven q := by
  have hfloor : n ≤ ⌊q⌋ := Int.le_floor.mpr h
  rcases nearestEven_eq_or q with heq | heq
  · omega
  · omega

theorem abs_nearestEven_sub_le (q : ℚ) : |(nearestEven q : ℚ) - q| ≤ 1 / 2 := by
  have hfract : Int.fract q = q - ⌊q⌋ := rfl
  have hnonneg := Int.fract_nonneg q
  have hlt := Int.fract_lt_one q
  unfold nearestEven
  rw [abs_le]
  split_ifs with hlow hhigh heven
  · constructor <;> linarith
  · push_cast
    constructor <;> linarith
  · constructor <;> linarith
  · push_cast
    constructor <;> linarith

/-- The distance of the numbers of the format around `q`. -/
def ulp (q : ℚ) : ℚ :=
  2 ^ max (Int.log 2 q - 52) (-1074)

def round (q : ℚ) : ℚ :=
  nearestEven (q / ulp q) * ulp q

theorem ulp_pos (q : ℚ) : 0 < ulp q :=
  zpow_pos (by norm_num) _

theorem abs_round_sub_le (q : ℚ) : |round q - q| ≤ ulp q / 2 := by
  have hpos := ulp_pos q
  have hdiv : q = q / ulp q * ulp q := by
    field_simp
  have hnearest := abs_nearestEven_sub_le (q / ulp q)
  calc |round q - q|
      = |((nearestEven (q / ulp q) : ℚ) - q / ulp q) * ulp q| := by
        unfold round
        rw [sub_mul, ← hdiv]
    _ = |(nearestEven (q / ulp q) : ℚ) - q / ulp q| * ulp q := by
        rw [abs_mul, abs_of_pos hpos]
    _ ≤ 1 / 2 * ulp q := mul_le_mul_of_nonneg_right hnearest hpos.le
    _ = ulp q / 2 := by ring

/-- Below `2^(k+1)` the numbers are at most `2^(k-52)` apart. -/
theorem ulp_le {q : ℚ} {k : ℤ} (hpos : 0 < q) (hk : -1022 ≤ k) (h : q < 2 ^ (k + 1)) :
    ulp q ≤ 2 ^ (k - 52) := by
  have hlog : (2 : ℚ) ^ Int.log 2 q ≤ q := by
    exact_mod_cast Int.zpow_log_le_self (by norm_num) hpos
  have hlt : Int.log 2 q < k + 1 :=
    (zpow_lt_zpow_iff_right₀ (by norm_num : (1 : ℚ) < 2)).mp (lt_of_le_of_lt hlog h)
  unfold ulp
  refine zpow_le_zpow_right₀ (by norm_num) ?_
  omega

/-- Whole numbers below `2^53` are numbers of the format. -/
theorem round_natCast {n : ℕ} (h : n < 2 ^ 53) : round n = n := by
  have hlog : Int.log 2 (n : ℚ) ≤ 52 := by
    rw [Int.log_natCast]
    have hnat : Nat.log 2 n < 53 := Nat.log_lt_of_lt_pow' (by norm_num) h
    omega
  obtain ⟨k, hk⟩ : ∃ k : ℕ, max (Int.log 2 (n : ℚ) - 52) (-1074) = -(k : ℤ) :=
    ⟨(-(max (Int.log 2 (n : ℚ) - 52) (-1074))).toNat, by omega⟩
  have hulp : ulp n = ((2 : ℚ) ^ k)⁻¹ := by
    unfold ulp
    rw [hk, zpow_neg, zpow_natCast]
  have hwhole : (n : ℚ) / ulp n = ((n * 2 ^ k : ℕ) : ℤ) := by
    rw [hulp]
    push_cast
    field_simp
  unfold round
  rw [hwhole, nearestEven_intCast, hulp]
  push_cast
  field_simp

/-- Nothing from `2^53` on is rounded below it. -/
theorem le_round {q : ℚ} (h : 2 ^ 53 ≤ q) : 2 ^ 53 ≤ round q := by
  have hpos : 0 < q := lt_of_lt_of_le (by norm_num) h
  have hlog : 53 ≤ Int.log 2 q := by
    refine (Int.zpow_le_iff_le_log (by norm_num) hpos).mp ?_
    exact_mod_cast h
  have hulp : ulp q = 2 ^ (Int.log 2 q - 52) := by
    unfold ulp
    rw [max_eq_left (by omega)]
  have hself : (2 : ℚ) ^ Int.log 2 q ≤ q := by
    exact_mod_cast Int.zpow_log_le_self (by norm_num) hpos
  have hsignificand : ((2 ^ 52 : ℤ) : ℚ) ≤ q / ulp q := by
    rw [le_div_iff₀ (ulp_pos q), hulp]
    calc ((2 ^ 52 : ℤ) : ℚ) * 2 ^ (Int.log 2 q - 52)
        = 2 ^ (52 + (Int.log 2 q - 52)) := by
          rw [zpow_add₀ (by norm_num)]
          norm_num
      _ = 2 ^ Int.log 2 q := by ring_nf
      _ ≤ q := hself
  have hnearest : ((2 ^ 52 : ℤ) : ℚ) ≤ nearestEven (q / ulp q) := by
    exact_mod_cast le_nearestEven hsignificand
  have htwo : 2 ≤ ulp q := by
    rw [hulp]
    calc (2 : ℚ) = 2 ^ (1 : ℤ) := by norm_num
      _ ≤ 2 ^ (Int.log 2 q - 52) := zpow_le_zpow_right₀ (by norm_num) (by omega)
  calc (2 : ℚ) ^ 53 = ((2 ^ 52 : ℤ) : ℚ) * 2 := by norm_num
    _ ≤ nearestEven (q / ulp q) * ulp q :=
        mul_le_mul hnearest htwo (by norm_num) (le_trans (by norm_num) hnearest)

/-! ## §2 Numbers and their operations -/

inductive Number
  | finite (value : ℚ)
  | infinity
  | nan
  deriving DecidableEq

namespace Number

/-- The number that an exact result is rounded to. -/
def ofRat (q : ℚ) : Number :=
  if round q < 2 ^ 1024 then .finite (round q) else .infinity

def ofNat (n : ℕ) : Number :=
  ofRat n

def add : Number → Number → Number
  | .finite a, .finite b => ofRat (a + b)
  | .nan, _ | _, .nan => .nan
  | _, _ => .infinity

def mul : Number → Number → Number
  | .finite a, .finite b => ofRat (a * b)
  | .nan, _ | _, .nan => .nan
  | .finite a, .infinity | .infinity, .finite a => if a = 0 then .nan else .infinity
  | .infinity, .infinity => .infinity

def div : Number → Number → Number
  | .finite a, .finite b =>
      if b = 0 then if a = 0 then .nan else .infinity else ofRat (a / b)
  | .finite _, .infinity => .finite 0
  | .infinity, .finite _ => .infinity
  | _, _ => .nan

def isSafeInteger : Number → Bool
  | .finite a => a.den == 1 && decide (a ≤ 2 ^ 53 - 1)
  | _ => false

/-- `number > bound`. -/
def exceeds (bound : ℚ) : Number → Bool
  | .finite a => decide (bound < a)
  | .infinity => true
  | .nan => false

/-- The number is `n` where `n` is below `2^53`, and is not below `2^53` otherwise. -/
inductive Represents : Number → ℕ → Prop
  | exact {n : ℕ} (small : n < 2 ^ 53) : Represents (.finite n) n
  | large {n : ℕ} {a : ℚ} (large : 2 ^ 53 ≤ n) (bound : 2 ^ 53 ≤ a) : Represents (.finite a) n
  | infinite {n : ℕ} (large : 2 ^ 53 ≤ n) : Represents .infinity n

theorem ofRat_of_small {n : ℕ} (h : n < 2 ^ 53) : ofRat n = .finite n := by
  have hn : (n : ℚ) < 2 ^ 53 := by exact_mod_cast h
  unfold ofRat
  rw [round_natCast h, if_pos (lt_trans hn (pow_lt_pow_right₀ (by norm_num) (by norm_num)))]

theorem ofRat_of_large {n : ℕ} {q : ℚ} (hn : 2 ^ 53 ≤ n) (h : 2 ^ 53 ≤ q) :
    (ofRat q).Represents n := by
  unfold ofRat
  split
  · exact .large hn (le_round h)
  · exact .infinite hn

theorem represents_ofNat (n : ℕ) : (ofNat n).Represents n := by
  unfold ofNat
  by_cases h : n < 2 ^ 53
  · rw [ofRat_of_small h]
    exact .exact h
  · have hn : 2 ^ 53 ≤ n := Nat.le_of_not_lt h
    exact ofRat_of_large hn (by exact_mod_cast hn)

theorem Represents.add {x y : Number} {m n : ℕ} (hx : x.Represents m) (hy : y.Represents n) :
    (x.add y).Represents (m + n) := by
  cases hx with
  | exact hm =>
      cases hy with
      | exact hn =>
          have hsum : (m : ℚ) + n = ((m + n : ℕ) : ℚ) := by push_cast; rfl
          have hadd : Number.add (.finite m) (.finite n) = ofNat (m + n) := by
            rw [ofNat, ← hsum]
            rfl
          rw [hadd]
          exact represents_ofNat (m + n)
      | large hn hb =>
          have hm : (0 : ℚ) ≤ m := by positivity
          exact ofRat_of_large (by omega) (by linarith)
      | infinite hn => exact .infinite (by omega)
  | large hm ha =>
      cases hy with
      | exact hn =>
          have hn : (0 : ℚ) ≤ n := by positivity
          exact ofRat_of_large (by omega) (by linarith)
      | large hn hb => exact ofRat_of_large (by omega) (by linarith)
      | infinite hn => exact .infinite (by omega)
  | infinite hm =>
      cases hy with
      | exact hn => exact .infinite (by omega)
      | large hn hb => exact .infinite (by omega)
      | infinite hn => exact .infinite (by omega)

/-- Multiplying by a positive whole number of the format. -/
theorem Represents.mul {x : Number} {m k : ℕ} (hx : x.Represents m) (hk : 0 < k) :
    (x.mul (.finite k)).Represents (m * k) := by
  have hone : (1 : ℚ) ≤ k := by exact_mod_cast hk
  have hgrow : m ≤ m * k := Nat.le_mul_of_pos_right m hk
  cases hx with
  | exact hm =>
      have hproduct : (m : ℚ) * k = ((m * k : ℕ) : ℚ) := by push_cast; rfl
      have hmul : Number.mul (.finite m) (.finite k) = ofNat (m * k) := by
        rw [ofNat, ← hproduct]
        rfl
      rw [hmul]
      exact represents_ofNat (m * k)
  | large hm ha =>
      refine ofRat_of_large (by omega) (le_trans ha ?_)
      exact le_mul_of_one_le_right (le_trans (by norm_num) ha) hone
  | infinite hm =>
      have hne : (k : ℚ) ≠ 0 := by positivity
      have hmul : Number.mul .infinity (.finite k) = .infinity := if_neg hne
      rw [hmul]
      exact .infinite (by omega)

theorem Represents.eq_finite {x : Number} {n : ℕ} (h : x.Represents n) (hn : n < 2 ^ 53) :
    x = .finite n := by
  cases h with
  | exact small => rfl
  | large hlarge => omega
  | infinite hlarge => omega

/-- A safe integer within a bound below `2^53` is the very number that is represented. -/
theorem Represents.bounded_iff {x : Number} {n bound : ℕ} (h : x.Represents n)
    (hbound : bound < 2 ^ 53) :
    (x.isSafeInteger = true ∧ x.exceeds bound = false) ↔ n ≤ bound ∧ x = .finite n := by
  cases h with
  | exact small =>
      have hn : (n : ℚ) ≤ 2 ^ 53 - 1 := by
        have hle : n + 1 ≤ 2 ^ 53 := small
        have hcast : (n : ℚ) + 1 ≤ 2 ^ 53 := by exact_mod_cast hle
        linarith
      simp [isSafeInteger, exceeds, hn]
  | large hn ha =>
      simp only [isSafeInteger, Bool.and_eq_true, decide_eq_true_eq]
      constructor
      · rintro ⟨⟨-, hsafe⟩, -⟩
        linarith
      · rintro ⟨hle, -⟩
        omega
  | infinite hn =>
      simp only [isSafeInteger, Bool.false_eq_true, false_and, reduceCtorEq, and_false]

/-- A quotient is exact up to the precision of the numbers of its size. -/
theorem div_near {a b : ℚ} {k : ℤ} (ha : 0 < a) (hb : 0 < b) (hk : -1022 ≤ k) (hk' : k ≤ 1022)
    (h : a / b < 2 ^ (k + 1)) :
    ∃ q, (Number.finite a).div (.finite b) = .finite q ∧ |q - a / b| ≤ 2 ^ (k - 53) := by
  have hpos : 0 < a / b := div_pos ha hb
  have hulp := ulp_le hpos hk h
  have hround := abs_round_sub_le (a / b)
  have hhalf : (2 : ℚ) ^ (k - 52) = 2 * 2 ^ (k - 53) := by
    rw [show k - 52 = 1 + (k - 53) by ring, zpow_add₀ (by norm_num), zpow_one]
  have hnear : |round (a / b) - a / b| ≤ 2 ^ (k - 53) := by linarith
  have hsmall : round (a / b) < 2 ^ 1024 := by
    have hgap : (2 : ℚ) ^ (k - 53) ≤ 2 ^ (k + 1) := zpow_le_zpow_right₀ (by norm_num) (by omega)
    have htop : (2 : ℚ) ^ (k + 1) * 2 ≤ 2 ^ 1024 := by
      rw [← zpow_add_one₀ (by norm_num), ← zpow_natCast]
      refine zpow_le_zpow_right₀ (by norm_num) ?_
      push_cast
      omega
    have hupper := (abs_le.mp hnear).2
    exact lt_of_lt_of_le (by linarith) htop
  refine ⟨round (a / b), ?_, hnear⟩
  unfold Number.div
  simp only [hb.ne', if_false]
  exact if_pos hsmall

end Number

/-! ## §3 Decimal places -/

/-- The nearest multiple of `10^-places`, the larger one halfway, in units of `10^-places`. -/
def nearestPlaces (places : ℕ) (q : ℚ) : ℕ :=
  ⌊q * 10 ^ places + 1 / 2⌋₊

/-- Within half a unit of the last place, the units are found again. -/
theorem nearestPlaces_of_near {places n : ℕ} {q : ℚ}
    (h : |q * 10 ^ places - n| < 1 / 2) : nearestPlaces places q = n := by
  obtain ⟨hlow, hhigh⟩ := abs_lt.mp h
  have hn : (0 : ℚ) ≤ n := by positivity
  unfold nearestPlaces
  rw [Nat.floor_eq_iff (by linarith)]
  constructor <;> linarith

end Binary64
