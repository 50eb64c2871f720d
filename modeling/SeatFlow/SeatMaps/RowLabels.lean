import Mathlib.Algebra.GroupWithZero.Nat
import Mathlib.Data.List.Nodup
import SeatFlow.Collections.Results
import SeatFlow.Database.Types

/-!
# Row and seat labels

Generated rows are named `A`, `B`, …, `Z`, `AA`, … by the number of the row, and
generated seats by their number. Each number has a name of its own, and the names are in
upper case, which is how labels are stored and compared.
-/

namespace SeatFlow

/-! ## §1 Upper case -/

/-- The upper-case form of each character, as Unicode has it: a form is not changed again, and
digits and the letters from `A` to `Z` are their own. -/
class Casing where
  upper : Char → List Char
  upper_upper : ∀ c, ∀ d ∈ upper c, upper d = [d]
  upper_plain : ∀ c, c.isDigit ∨ c.isUpper → upper c = [c]

/-- `value.toUpperCase()`. -/
def toUpperCase [Casing] (value : String) : String :=
  String.ofList (value.toList.flatMap Casing.upper)

/-- `value.trim()`. -/
def trim (value : String) : String :=
  String.ofList ((((value.toList.dropWhile isBlank).reverse).dropWhile isBlank).reverse)

theorem mem_trim {value : String} {c : Char} (h : c ∈ (trim value).toList) : c ∈ value.toList := by
  unfold trim at h
  rw [String.toList_ofList, List.mem_reverse] at h
  have hdropped := List.mem_reverse.mp ((List.dropWhile_suffix isBlank).subset h)
  exact (List.dropWhile_suffix isBlank).subset hdropped

/-- A text without blanks is trimmed. -/
theorem trim_of_not_blank {value : String} (h : ∀ c ∈ value.toList, isBlank c = false) :
    trim value = value := by
  have hdrop : ∀ {l : List Char}, (∀ c ∈ l, isBlank c = false) → l.dropWhile isBlank = l := by
    intro l hl
    cases l with
    | nil => rfl
    | cons c l => exact List.dropWhile_cons_of_neg (by simp [hl c List.mem_cons_self])
  unfold trim
  rw [hdrop h, hdrop fun c hc => h c (List.mem_reverse.mp hc), List.reverse_reverse,
    String.ofList_toList]

section UpperCase

variable [Casing]

theorem flatMap_upper {l : List Char} (h : ∀ c ∈ l, Casing.upper c = [c]) :
    l.flatMap Casing.upper = l := by
  induction l with
  | nil => rfl
  | cons c l ih =>
    rw [List.flatMap_cons, h c List.mem_cons_self, ih fun d hd => h d (List.mem_cons_of_mem _ hd)]
    rfl

theorem toUpperCase_toUpperCase (value : String) :
    toUpperCase (toUpperCase value) = toUpperCase value := by
  unfold toUpperCase
  rw [String.toList_ofList, flatMap_upper]
  intro d hd
  obtain ⟨c, -, hd⟩ := List.mem_flatMap.mp hd
  exact Casing.upper_upper c d hd

theorem toUpperCase_plain {l : List Char} (h : ∀ c ∈ l, c.isDigit ∨ c.isUpper) :
    toUpperCase (String.ofList l) = String.ofList l := by
  unfold toUpperCase
  rw [String.toList_ofList, flatMap_upper fun c hc => Casing.upper_plain c (h c hc)]

end UpperCase

/-! ## §2 Row labels -/

/-- `/^[A-Z]{1,3}$/`. -/
def isRowLabel (label : String) : Bool :=
  0 < label.toList.length && label.toList.length ≤ 3 && label.toList.all Char.isUpper

/-- `value * 26 + character.charCodeAt(0) - 64`. -/
def addLetter (value : Nat) (character : Char) : Nat :=
  value * 26 + character.toNat - 64

def rowLabelToNumber [Casing] (label : String) : Except String Nat :=
  let normalized := toUpperCase (trim label)
  if isRowLabel normalized then .ok (normalized.toList.foldl addLetter 0)
  else .error "Row labels must contain one to three letters."

/-- The loop of `numberToRowLabel`; the remainder falls in each round, so that `fuel` rounds are
enough for a remainder of at most `fuel`. -/
def prependLetters : Nat → Nat → List Char → List Char
  | 0, _, label => label
  | fuel + 1, remainder, label =>
      if 0 < remainder then
        prependLetters fuel ((remainder - 1) / 26)
          (Char.ofNat (65 + (remainder - 1) % 26) :: label)
      else label

def numberToRowLabel (value : Nat) : Except String String :=
  if value < 1 ∨ value > 18278 then
    .error "Row label number is outside the supported A-ZZZ range."
  else .ok (String.ofList (prependLetters value value []))

def generateRowLabels [Casing] (startLabel : String) (count : Nat) :
    Except String (List String) := do
  let start ← rowLabelToNumber startLabel
  (List.range count).mapM fun index => numberToRowLabel (start + index)

def generateSeatLabels (startNumber count : Nat) : Except String (List String) :=
  if startNumber < 1 ∨ startNumber > 9999 then
    .error "The first seat number must be between 1 and 9999."
  else if count < 1 ∨ startNumber + count - 1 > 9999 then
    .error "Generated seat labels must stay inside the 1-9999 range."
  else .ok ((List.range count).map fun index => toString (startNumber + index))

/-- The letter of a remainder. -/
theorem letter_spec : ∀ i < 26, (Char.ofNat (65 + i)).toNat = 65 + i ∧
    (Char.ofNat (65 + i)).isUpper = true := by
  decide

/-- The number of a label is read off its letters. -/
theorem foldl_prependLetters {fuel remainder : Nat} (h : remainder ≤ fuel) (label : List Char) :
    (prependLetters fuel remainder label).foldl addLetter 0 = label.foldl addLetter remainder := by
  induction fuel generalizing remainder label with
  | zero =>
    have hzero : remainder = 0 := by omega
    rw [hzero]
    rfl
  | succ fuel ih =>
    unfold prependLetters
    split
    · have hsmaller : (remainder - 1) / 26 ≤ fuel := by
        have := Nat.div_le_self (remainder - 1) 26
        omega
      have hletter : addLetter ((remainder - 1) / 26) (Char.ofNat (65 + (remainder - 1) % 26))
          = remainder := by
        unfold addLetter
        rw [(letter_spec _ (Nat.mod_lt _ (by omega))).1]
        omega
      rw [ih hsmaller, List.foldl_cons, hletter]
    · have hzero : remainder = 0 := by omega
      rw [hzero]

theorem isUpper_prependLetters {fuel remainder : Nat} {label : List Char}
    (h : ∀ c ∈ label, c.isUpper) : ∀ c ∈ prependLetters fuel remainder label, c.isUpper := by
  induction fuel generalizing remainder label with
  | zero => exact h
  | succ fuel ih =>
    unfold prependLetters
    split
    · refine ih fun c hc => ?_
      rcases List.mem_cons.mp hc with rfl | hc
      · exact (letter_spec _ (Nat.mod_lt _ (by omega))).2
      · exact h c hc
    · exact h

/-- Distinct numbers have distinct labels. -/
theorem numberToRowLabel_inj {m n : Nat} {label : String} (hm : numberToRowLabel m = .ok label)
    (hn : numberToRowLabel n = .ok label) : m = n := by
  have hnumber : ∀ {value : Nat}, numberToRowLabel value = .ok label →
      label.toList.foldl addLetter 0 = value := by
    intro value h
    unfold numberToRowLabel at h
    split at h
    · cases h
    · cases h
      rw [String.toList_ofList, foldl_prependLetters (Nat.le_refl value)]
      rfl
  rw [← hnumber hm, hnumber hn]

theorem toUpperCase_numberToRowLabel [Casing] {value : Nat} {label : String}
    (h : numberToRowLabel value = .ok label) : toUpperCase label = label := by
  unfold numberToRowLabel at h
  split at h
  · cases h
  · cases h
    refine toUpperCase_plain fun c hc => .inr ?_
    exact isUpper_prependLetters (fun d hd => by cases hd) c hc

/-! ## §3 Generated labels -/

/-- What a list of generated labels is: as many as asked for, all different, all in upper
case. -/
structure Labels [Casing] (labels : List String) (count : Nat) : Prop where
  length : labels.length = count
  nodup : labels.Nodup
  upper : ∀ label ∈ labels, toUpperCase label = label

theorem labels_generateRowLabels [Casing] {startLabel : String} {count : Nat} {labels : List String}
    (h : generateRowLabels startLabel count = .ok labels) : Labels labels count := by
  unfold generateRowLabels at h
  cases hstart : rowLabelToNumber startLabel with
  | error e =>
    rw [hstart] at h
    cases h
  | ok start =>
    rw [hstart] at h
    refine ⟨(Results.length_of_mapM h).trans List.length_range,
      Results.nodup_of_mapM h List.nodup_range ?_, fun label hlabel => ?_⟩
    · intro i j label hi hj
      have hsame := numberToRowLabel_inj hi hj
      omega
    · obtain ⟨i, -, hi⟩ := Results.mem_of_mapM h hlabel
      exact toUpperCase_numberToRowLabel hi

theorem labels_generateSeatLabels [Casing] {startNumber count : Nat} {labels : List String}
    (h : generateSeatLabels startNumber count = .ok labels) : Labels labels count := by
  unfold generateSeatLabels at h
  split at h
  · cases h
  · split at h
    · cases h
    · cases h
      refine ⟨by rw [List.length_map, List.length_range], ?_, ?_⟩
      · refine List.Nodup.map (fun i j hij => ?_) List.nodup_range
        have hdigits := congrArg String.toList hij
        rw [Nat.toString_eq_repr, Nat.toString_eq_repr, Nat.toList_repr, Nat.toList_repr] at hdigits
        have hnumber := congrArg (fun l => Nat.ofDigitChars 10 l 0) hdigits
        simp only [Nat.ofDigitChars_ten_toDigits] at hnumber
        omega
      · intro label hlabel
        obtain ⟨i, -, rfl⟩ := List.mem_map.mp hlabel
        rw [Nat.toString_eq_ofList_toDigits]
        refine toUpperCase_plain fun c hc => .inl ?_
        exact Nat.isDigit_of_mem_toDigits (by decide) (by decide) hc

end SeatFlow
