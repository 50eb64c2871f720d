import Mathlib.Data.List.TakeWhile
import SeatFlow.Numbers.Binary64
import SeatFlow.Numbers.Decimal
import SeatFlow.SeatMaps.RowLabels

/-!
# Prices as text

An organizer types a price as a decimal numeral, and the tier keeps it in minor units. The parser
computes with floating-point numbers, and so does the writer of the text that the form shows
again; every amount that a tier can keep is far below the whole numbers where they stop being
exact.
-/

namespace SeatFlow

open Decimal Binary64
open Binary64.Number (represents_ofNat)

/-! ## §1 Reading and writing -/

def CURRENCY_MINOR_UNITS : Currency → Nat
  | .AZN => 2
  | .EUR => 2
  | .GBP => 2
  | .USD => 2

def Currency.code : Currency → String
  | .AZN => "AZN"
  | .EUR => "EUR"
  | .GBP => "GBP"
  | .USD => "USD"

/-- `^\d+(?:\.\d{1,digits})?$`. -/
def isPriceText (digits : Nat) (text : List Char) : Bool :=
  let rest := text.dropWhile Char.isDigit
  !(text.takeWhile Char.isDigit).isEmpty &&
    match rest with
    | [] => true
    | '.' :: fraction => isDigits digits fraction
    | _ => false

/-- `Number(text)` of decimal digits. -/
def numberOfDigits (text : List Char) : Number :=
  .ofNat (Decimal.value text)

def MAX_PRICE_MINOR : Nat := 2147483647

def parsePriceToMinorUnits (value : String) (currency : Currency) : Except String Number :=
  let normalized := (trim value).toList
  let digits := CURRENCY_MINOR_UNITS currency
  if !isPriceText digits normalized then
    .error ("Enter a non-negative " ++ currency.code ++ " amount with up to " ++ toString digits ++
      " decimals.")
  else
    let fields := normalized.splitOn '.'
    let whole := fields.headD []
    let fraction := fields[1]?.getD []
    let minor := ((numberOfDigits whole).mul (.finite ((10 ^ digits : ℕ) : ℚ))).add
      (numberOfDigits (padEnd digits fraction))
    if !minor.isSafeInteger || minor.exceeds MAX_PRICE_MINOR then
      .error "The price is outside the supported range."
    else .ok minor

/-- `number.toFixed(digits)`; a number from 10^21 on, which is written with an exponent, is no
price. -/
def toFixed (digits : Nat) : Number → String
  | .finite q => String.ofList (fixedPoint digits (nearestPlaces digits q))
  | .infinity => "Infinity"
  | .nan => "NaN"

def minorUnitsToInputValue (amountMinor : Nat) (currency : Currency) : String :=
  let digits := CURRENCY_MINOR_UNITS currency
  toFixed digits ((Number.ofNat amountMinor).div (.finite ((10 ^ digits : ℕ) : ℚ)))

/-! ## §2 The grammar -/

theorem minorUnits_eq (currency : Currency) : CURRENCY_MINOR_UNITS currency = 2 := by
  cases currency <;> rfl

/-- The pattern is the grammar of decimal numerals. -/
theorem isPriceText_iff {digits : Nat} {text : List Char} :
    isPriceText digits text = true ↔ ∃ amount, Numeral digits text amount := by
  constructor
  · intro h
    unfold isPriceText at h
    simp only [Bool.and_eq_true, Bool.not_eq_true', List.isEmpty_eq_false_iff] at h
    obtain ⟨hne, hrest⟩ := h
    have hdigits : ∀ c ∈ text.takeWhile Char.isDigit, c.isDigit = true :=
      fun c hc => List.mem_takeWhile_imp hc
    have hsplit := List.takeWhile_append_dropWhile (p := Char.isDigit) (l := text)
    split at hrest
    · next heq =>
        rw [heq, List.append_nil] at hsplit
        rw [← hsplit]
        exact ⟨_, .whole hne hdigits⟩
    · next fraction heq =>
        rw [heq] at hsplit
        rw [← hsplit]
        exact ⟨_, .point hne hdigits hrest⟩
    · cases hrest
  · rintro ⟨amount, hnumeral⟩
    unfold isPriceText
    cases hnumeral with
    | whole hne hdigits =>
        rw [List.takeWhile_eq_self_iff.mpr hdigits, List.dropWhile_eq_nil_iff.mpr hdigits]
        simp [hne]
    | point hne hdigits hfraction =>
        rw [List.takeWhile_append_of_pos hdigits, List.dropWhile_append_of_pos hdigits,
          List.takeWhile_cons_of_neg (by decide), List.dropWhile_cons_of_neg (by decide)]
        simp [hne, hfraction]

/-- What the parser computes is the exact amount in minor units, as long as it is in range. -/
theorem minor_of_numeral {digits : Nat} {text : List Char} {amount : ℚ}
    (h : Numeral digits text amount) :
    ∃ n : ℕ, (n : ℚ) = amount * 10 ^ digits ∧
      (((numberOfDigits ((text.splitOn '.').headD [])).mul (.finite ((10 ^ digits : ℕ) : ℚ))).add
        (numberOfDigits (padEnd digits ((text.splitOn '.')[1]?.getD [])))).Represents n := by
  have hpositive : 0 < 10 ^ digits := Nat.pow_pos (by decide)
  cases h with
  | @whole _ hne hdigits =>
      rw [List.splitOn_eq_singleton (not_mem_of_digits hdigits (by decide))]
      refine ⟨_, ?_, ((represents_ofNat _).mul hpositive).add (represents_ofNat _)⟩
      simp [Decimal.value, padEnd]
  | @point w f hne hdigits hfraction =>
      obtain ⟨-, hlength, hfdigits⟩ := isDigits_iff.mp hfraction
      rw [List.splitOn_append_cons_self,
        List.splitOn_eq_singleton (not_mem_of_digits hdigits (by decide)),
        List.splitOn_eq_singleton (not_mem_of_digits hfdigits (by decide))]
      refine ⟨_, ?_, ((represents_ofNat _).mul hpositive).add (represents_ofNat _)⟩
      have hpow : (10 : ℚ) ^ digits = 10 ^ (digits - f.length) * 10 ^ f.length := by
        rw [← pow_add, Nat.sub_add_cancel hlength]
      simp only [List.headD_cons, List.singleton_append, List.getElem?_cons_succ,
        List.getElem?_cons_zero, Option.getD_some, value_padEnd]
      push_cast
      rw [hpow]
      field_simp

/-! ## §3 Exactness -/

/-- The parser accepts the numerals in range, and returns their amount in minor units. -/
theorem parsePriceToMinorUnits_eq_ok {value : String} {currency : Currency} {minor : Number} :
    parsePriceToMinorUnits value currency = .ok minor ↔
      ∃ amount, Numeral (CURRENCY_MINOR_UNITS currency) (trim value).toList amount ∧
        amount * 10 ^ CURRENCY_MINOR_UNITS currency ≤ MAX_PRICE_MINOR ∧
        minor = .finite (amount * 10 ^ CURRENCY_MINOR_UNITS currency) := by
  unfold parsePriceToMinorUnits
  by_cases htext : isPriceText (CURRENCY_MINOR_UNITS currency) (trim value).toList = true
  · obtain ⟨amount, hnumeral⟩ := isPriceText_iff.mp htext
    obtain ⟨n, hn, hrepresents⟩ := minor_of_numeral hnumeral
    have hbounded := hrepresents.bounded_iff (by decide : MAX_PRICE_MINOR < 2 ^ 53)
    have hrange : amount * 10 ^ CURRENCY_MINOR_UNITS currency ≤ MAX_PRICE_MINOR ↔
        n ≤ MAX_PRICE_MINOR := by
      rw [← hn]
      exact Nat.cast_le
    have hunique : ∀ other, Numeral (CURRENCY_MINOR_UNITS currency) (trim value).toList other →
        other = amount := fun other hother => hother.unique hnumeral
    simp only [htext, Bool.not_true, Bool.false_eq_true, if_false]
    split
    · next hrefused =>
        refine ⟨nofun, ?_⟩
        rintro ⟨other, hother, hle, -⟩
        rw [hunique other hother, hrange] at hle
        have hexact := hrepresents.eq_finite (Nat.lt_of_le_of_lt hle (by decide))
        obtain ⟨hsafe, hexceeds⟩ := hbounded.mpr ⟨hle, hexact⟩
        rcases Bool.or_eq_true_iff.mp hrefused with h | h
        · rw [hsafe] at h
          cases h
        · rw [hexceeds] at h
          cases h
    · next haccepted =>
        simp only [Bool.or_eq_true, Bool.not_eq_true', not_or, Bool.not_eq_false,
          Bool.not_eq_true] at haccepted
        obtain ⟨hle, heq⟩ := hbounded.mp haccepted
        rw [heq]
        constructor
        · intro hminor
          exact ⟨amount, hnumeral, hrange.mpr hle, by rw [← Except.ok.inj hminor, hn]⟩
        · rintro ⟨other, hother, -, rfl⟩
          rw [hunique other hother, hn]
  · simp only [htext, Bool.not_false, if_true, reduceCtorEq, false_iff]
    rintro ⟨amount, hnumeral, -⟩
    exact htext (isPriceText_iff.mpr ⟨amount, hnumeral⟩)

theorem isBlank_of_digit {c : Char} (h : c.isDigit = true) : isBlank c = false := by
  have hsmall : c.toNat < 128 := by
    unfold Char.isDigit at h
    simp only [Bool.and_eq_true, decide_eq_true_eq] at h
    exact Nat.lt_of_le_of_lt (UInt32.le_iff_toNat_le.mp h.2) (by decide)
  have hall : ∀ n < 128, (Char.ofNat n).isDigit = true → isBlank (Char.ofNat n) = false := by
    decide
  have hc := hall c.toNat hsmall
  rw [Char.ofNat_toNat] at hc
  exact hc h

theorem trim_of_numeral {places : Nat} {text : List Char} {amount : ℚ}
    (h : Numeral places text amount) : trim (String.ofList text) = String.ofList text := by
  refine trim_of_not_blank fun c hc => ?_
  rw [String.toList_ofList] at hc
  cases h with
  | whole _ hdigits => exact isBlank_of_digit (hdigits c hc)
  | point _ hdigits hfraction =>
      rcases List.mem_append.mp hc with hc | hc
      · exact isBlank_of_digit (hdigits c hc)
      · rcases List.mem_cons.mp hc with rfl | hc
        · rfl
        · exact isBlank_of_digit ((isDigits_iff.mp hfraction).2.2 c hc)

/-- The quotient is so near the exact one that the places show the amount. -/
theorem minorUnitsToInputValue_eq {amountMinor : Nat} (h : amountMinor ≤ MAX_PRICE_MINOR)
    (currency : Currency) :
    minorUnitsToInputValue amountMinor currency = String.ofList (fixedPoint 2 amountMinor) := by
  have hsmall : amountMinor < 2 ^ 53 := Nat.lt_of_le_of_lt h (by decide)
  unfold minorUnitsToInputValue
  simp only [minorUnits_eq, Number.ofNat, Number.ofRat_of_small hsmall]
  rcases Nat.eq_zero_or_pos amountMinor with rfl | hpos
  · have hzero : (Number.finite (0 : ℕ)).div (.finite ((10 ^ 2 : ℕ) : ℚ)) =
        .finite (0 : ℕ) := by
      unfold Number.div
      simp only [Nat.cast_zero, zero_div, Nat.cast_eq_zero, Nat.reducePow, OfNat.ofNat_ne_zero,
        if_false]
      exact Number.ofRat_of_small (n := 0) (by norm_num)
    rw [hzero, toFixed, nearestPlaces_of_near (n := 0) (by norm_num)]
  · have hn : (0 : ℚ) < amountMinor := by exact_mod_cast hpos
    have hbelow : (amountMinor : ℚ) / ((10 ^ 2 : ℕ) : ℚ) < 2 ^ ((25 : ℤ) + 1) := by
      rw [div_lt_iff₀ (by norm_num)]
      norm_num
      have hnat : amountMinor ≤ 2147483647 := h
      exact_mod_cast Nat.lt_of_le_of_lt hnat (by decide)
    obtain ⟨q, hdiv, hnear⟩ :=
      Number.div_near hn (by norm_num) (by norm_num) (by norm_num) hbelow
    rw [hdiv, toFixed]
    have hplaces : |q * 10 ^ 2 - amountMinor| < 1 / 2 := by
      have hscaled : q * 10 ^ 2 - amountMinor =
          (q - amountMinor / ((10 ^ 2 : ℕ) : ℚ)) * 100 := by
        push_cast
        ring
      rw [hscaled, abs_mul, abs_of_pos (by norm_num : (0 : ℚ) < 100)]
      calc |q - amountMinor / ((10 ^ 2 : ℕ) : ℚ)| * 100
          ≤ 2 ^ ((25 : ℤ) - 53) * 100 := mul_le_mul_of_nonneg_right hnear (by norm_num)
        _ < 1 / 2 := by norm_num
    rw [nearestPlaces_of_near hplaces]

/-- Prices are read exactly, and the text that an amount is shown as is read as that amount. -/
theorem prices_exact :
    (∀ (value : String) (currency : Currency) (minor : Number),
      parsePriceToMinorUnits value currency = .ok minor ↔
        ∃ amount, Numeral (CURRENCY_MINOR_UNITS currency) (trim value).toList amount ∧
          amount * 10 ^ CURRENCY_MINOR_UNITS currency ≤ MAX_PRICE_MINOR ∧
          minor = .finite (amount * 10 ^ CURRENCY_MINOR_UNITS currency)) ∧
    (∀ (amountMinor : Nat) (currency : Currency), amountMinor ≤ MAX_PRICE_MINOR →
      parsePriceToMinorUnits (minorUnitsToInputValue amountMinor currency) currency =
        .ok (.finite amountMinor)) := by
  refine ⟨fun _ _ _ => parsePriceToMinorUnits_eq_ok, fun amountMinor currency hmax => ?_⟩
  have hnumeral : Numeral 2 (fixedPoint 2 amountMinor) (amountMinor / 10 ^ 2) :=
    numeral_fixedPoint (by decide) amountMinor
  have hamount : (amountMinor : ℚ) / 10 ^ 2 * 10 ^ 2 = amountMinor := by
    field_simp
  rw [parsePriceToMinorUnits_eq_ok, minorUnitsToInputValue_eq hmax, minorUnits_eq,
    trim_of_numeral hnumeral, String.toList_ofList]
  refine ⟨amountMinor / 10 ^ 2, hnumeral, ?_, ?_⟩
  · rw [hamount]
    exact_mod_cast hmax
  · rw [hamount]

/-- The largest price is written and read again. -/
theorem prices_exact_largest :
    parsePriceToMinorUnits (minorUnitsToInputValue 2147483647 .EUR) .EUR =
      .ok (.finite (2147483647 : ℕ)) :=
  prices_exact.2 2147483647 .EUR (by decide)

end SeatFlow
