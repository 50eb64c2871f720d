import Mathlib.Data.Rat.Defs
import Mathlib.Algebra.Order.Field.Rat
import Mathlib.Data.List.Induction
import Mathlib.Tactic.FieldSimp
import Mathlib.Tactic.Ring

/-!
# Decimal numerals

Texts of decimal digits with or without a point, as a relation between a text and the number that
it stands for, and the operations on digits that keep the number: padding at either end, and the
numeral with a fixed number of places.
-/

namespace Decimal

/-! ## §1 Digits -/

/-- `\d{1,maximum}`. -/
def isDigits (maximum : Nat) (l : List Char) : Bool :=
  1 ≤ l.length && l.length ≤ maximum && l.all Char.isDigit

theorem isDigits_iff {maximum : Nat} {l : List Char} :
    isDigits maximum l = true ↔
      l ≠ [] ∧ l.length ≤ maximum ∧ ∀ c ∈ l, c.isDigit = true := by
  unfold isDigits
  simp only [Bool.and_eq_true, decide_eq_true_eq, List.all_eq_true, and_assoc]
  rw [← List.length_pos_iff]
  rfl

/-- What the digits stand for. -/
def value (l : List Char) : Nat :=
  Nat.ofDigitChars 10 l 0

/-- `padStart(width, "0")`. -/
def padStart (width : Nat) (l : List Char) : List Char :=
  List.replicate (width - l.length) '0' ++ l

/-- `padEnd(width, "0")`. -/
def padEnd (width : Nat) (l : List Char) : List Char :=
  l ++ List.replicate (width - l.length) '0'

theorem value_append (l m : List Char) : value (l ++ m) = value l * 10 ^ m.length + value m := by
  unfold value
  rw [Nat.ofDigitChars_append, Nat.ofDigitChars_eq_ofDigitChars_zero, Nat.mul_comm]

@[simp]
theorem value_padStart (width : Nat) (l : List Char) : value (padStart width l) = value l := by
  unfold value padStart
  rw [Nat.ofDigitChars_append, Nat.ofDigitChars_replicate_zero, Nat.mul_zero]

@[simp]
theorem value_padEnd (width : Nat) (l : List Char) :
    value (padEnd width l) = value l * 10 ^ (width - l.length) := by
  unfold value padEnd
  rw [Nat.ofDigitChars_append, Nat.ofDigitChars_replicate_zero, Nat.mul_comm]

@[simp]
theorem value_toDigits (n : Nat) : value (Nat.toDigits 10 n) = n :=
  Nat.ofDigitChars_ten_toDigits

/-- A digit is the numeral of its number. -/
theorem toDigits_digit {c : Char} (h : c.isDigit = true) : Nat.toDigits 10 (value [c]) = [c] := by
  have hle : c.toNat ≤ 57 := by
    unfold Char.isDigit at h
    exact UInt32.le_iff_toNat_le.mp (of_decide_eq_true (Bool.and_eq_true_iff.mp h).2)
  have hall : ∀ n ≤ 57, (Char.ofNat n).isDigit = true →
      Nat.toDigits 10 (value [Char.ofNat n]) = [Char.ofNat n] := by
    decide
  have hc := hall c.toNat hle
  rw [Char.ofNat_toNat] at hc
  exact hc h

/-- **Digits are the numeral of their number**, without zeros before it. -/
theorem toDigits_value {l : List Char} (hne : l ≠ []) (hdigits : ∀ c ∈ l, c.isDigit = true)
    (hzero : l.head? = some '0' → l.length = 1) : Nat.toDigits 10 (value l) = l := by
  induction l using List.reverseRecOn with
  | nil => exact absurd rfl hne
  | append_singleton l c ih =>
      have hc : c.isDigit = true := hdigits c (by simp)
      by_cases hl : l = []
      · subst hl
        exact toDigits_digit hc
      · have hhead : l.head? ≠ some '0' := by
          intro hhead
          have hlength := hzero (by rw [List.head?_append_of_ne_nil _ hl]; exact hhead)
          have hpos := List.length_pos_iff.mpr hl
          rw [List.length_append, List.length_singleton] at hlength
          omega
        have hprefix := ih hl (fun d hd => hdigits d (List.mem_append_left _ hd)) fun h =>
          absurd h hhead
        have hpositive : 0 < value l := by
          refine Nat.pos_of_ne_zero fun hvalue => hhead ?_
          rw [← hprefix, hvalue]
          rfl
        have hsmall : value [c] < 10 := by
          have hlength := congrArg List.length (toDigits_digit hc)
          exact (Nat.length_toDigits_le_iff (k := 1) (by decide) (by decide)).mp hlength.le
        rw [value_append, List.length_singleton, Nat.pow_one, Nat.mul_comm,
          ← Nat.toDigits_append_toDigits (by decide) hpositive hsmall, hprefix, toDigits_digit hc]

theorem isDigit_of_mem_padStart {width : Nat} {l : List Char} (h : ∀ c ∈ l, c.isDigit = true) :
    ∀ c ∈ padStart width l, c.isDigit = true := by
  intro c hc
  rcases List.mem_append.mp hc with hc | hc
  · rw [List.eq_of_mem_replicate hc]
    decide
  · exact h c hc

theorem length_padStart (width : Nat) (l : List Char) :
    (padStart width l).length = max width l.length := by
  unfold padStart
  rw [List.length_append, List.length_replicate]
  omega

/-- A digit is neither the point nor any other character that is no digit. -/
theorem not_mem_of_digits {l : List Char} {c : Char} (h : ∀ d ∈ l, d.isDigit = true)
    (hc : c.isDigit = false) : c ∉ l := fun hmem =>
  absurd (h c hmem) (by simp [hc])

/-! ## §2 Numerals -/

/-- The texts `\d+` and `\d+\.\d{1,places}`, with the numbers they stand for. -/
inductive Numeral (places : Nat) : List Char → ℚ → Prop
  | whole {w : List Char} (nonempty : w ≠ []) (digits : ∀ c ∈ w, c.isDigit = true) :
      Numeral places w (value w)
  | point {w f : List Char} (nonempty : w ≠ []) (digits : ∀ c ∈ w, c.isDigit = true)
      (fraction : isDigits places f = true) :
      Numeral places (w ++ '.' :: f) (value w + value f / 10 ^ f.length)

/-- A text stands for one number. -/
theorem Numeral.unique {places : Nat} {text : List Char} {p q : ℚ} (hp : Numeral places text p)
    (hq : Numeral places text q) : p = q := by
  generalize htext : text = other at hq
  cases hp with
  | @whole w hne hdigits =>
      cases hq with
      | whole => rw [htext]
      | @point v f =>
          exact absurd (by simp [htext]) (not_mem_of_digits (c := '.') hdigits (by decide))
  | @point w f hne hdigits hfraction =>
      cases hq with
      | whole _ hdigits' =>
          exact absurd (by simp [← htext]) (not_mem_of_digits (c := '.') hdigits' (by decide))
      | @point v g hne' hdigits' hfraction' =>
          have hw := congrArg (List.takeWhile Char.isDigit) htext
          rw [List.takeWhile_append_of_pos hdigits, List.takeWhile_append_of_pos hdigits',
            List.takeWhile_cons_of_neg (by decide), List.takeWhile_cons_of_neg (by decide),
            List.append_nil, List.append_nil] at hw
          subst hw
          have hf := (List.cons.inj (List.append_cancel_left htext)).2
          rw [hf]

/-- `n` with its last `places` digits behind the point. -/
def fixedPoint (places n : Nat) : List Char :=
  let digits := padStart (places + 1) (Nat.toDigits 10 n)
  digits.take (digits.length - places) ++ '.' :: digits.drop (digits.length - places)

/-- The numeral with a fixed number of places stands for the fraction it is written from. -/
theorem numeral_fixedPoint {places : Nat} (hplaces : 1 ≤ places) (n : Nat) :
    Numeral places (fixedPoint places n) (n / 10 ^ places) := by
  unfold fixedPoint
  generalize hdigits : padStart (places + 1) (Nat.toDigits 10 n) = digits
  have hall : ∀ c ∈ digits, c.isDigit = true := by
    rw [← hdigits]
    exact isDigit_of_mem_padStart fun c hc =>
      Nat.isDigit_of_mem_toDigits (by decide) (by decide) hc
  have hlength : places + 1 ≤ digits.length := by
    rw [← hdigits, length_padStart]
    omega
  have hvalue : value digits = n := by
    rw [← hdigits, value_padStart, value_toDigits]
  have hdrop : (digits.drop (digits.length - places)).length = places := by
    rw [List.length_drop]
    omega
  have hsplit := value_append (digits.take (digits.length - places))
    (digits.drop (digits.length - places))
  rw [List.take_append_drop, hvalue, hdrop] at hsplit
  have hnumber : (n : ℚ) / 10 ^ places =
      value (digits.take (digits.length - places)) +
        value (digits.drop (digits.length - places)) /
          10 ^ (digits.drop (digits.length - places)).length := by
    rw [hdrop, hsplit]
    push_cast
    field_simp
  rw [hnumber]
  refine .point ?_ (fun c hc => hall c (List.mem_of_mem_take hc)) ?_
  · rw [← List.length_pos_iff, List.length_take]
    omega
  · refine isDigits_iff.mpr ⟨?_, hdrop.le, fun c hc => hall c (List.mem_of_mem_drop hc)⟩
    rw [← List.length_pos_iff, hdrop]
    omega

end Decimal
