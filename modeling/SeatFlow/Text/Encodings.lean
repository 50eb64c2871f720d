import Mathlib.Data.List.Basic

/-!
# Bytes as texts

Bytes in hexadecimal digits, and texts of two parts, which can be read back when the separator
between them is not in the first.
-/

namespace Text

/-! ## §1 Hexadecimal -/

/-- The digits, in lower case. -/
def hexDigits : List Char :=
  "0123456789abcdef".toList

def hexDigit (n : Nat) : Char :=
  hexDigits.getD n '0'

/-- `toString("hex")`. -/
def hexText (bytes : List UInt8) : List Char :=
  bytes.flatMap fun b => [hexDigit (b.toNat / 16), hexDigit (b.toNat % 16)]

theorem hexDigit_mem {n : Nat} (h : n < 16) : hexDigit n ∈ hexDigits := by
  have hall : ∀ n < 16, hexDigit n ∈ hexDigits := by decide
  exact hall n h

section Hex

variable {bytes bytes' : List UInt8}

theorem length_hexText : (hexText bytes).length = 2 * bytes.length := by
  induction bytes with
  | nil => rfl
  | cons b bytes ih =>
    have hrest : (hexText (b :: bytes)).length = 2 + (hexText bytes).length := by
      rw [hexText, List.flatMap_cons, List.length_append]
      rfl
    rw [hrest, ih, List.length_cons]
    omega

theorem hexText_mem {c : Char} (h : c ∈ hexText bytes) : c ∈ hexDigits := by
  obtain ⟨b, -, hc⟩ := List.mem_flatMap.mp h
  have hb := b.toNat_lt
  rcases List.mem_pair.mp hc with rfl | rfl
  · exact hexDigit_mem (by omega)
  · exact hexDigit_mem (by omega)

end Hex

/-! ## §2 Separated parts -/

/-- The first separator ends the first part. -/
theorem separated_inj {α : Type} {sep : α} {a a' b b' : List α} (ha : sep ∉ a) (ha' : sep ∉ a')
    (h : a ++ sep :: b = a' ++ sep :: b') : a = a' ∧ b = b' := by
  induction a generalizing a' with
  | nil =>
    cases a' with
    | nil => exact ⟨rfl, (List.cons.inj h).2⟩
    | cons c a' => exact absurd (List.mem_cons.mpr (.inl (List.cons.inj h).1)) ha'
  | cons c a ih =>
    cases a' with
    | nil => exact absurd (List.mem_cons.mpr (.inl (List.cons.inj h).1.symm)) ha
    | cons c' a' =>
      obtain ⟨hhead, htail⟩ := List.cons.inj h
      obtain ⟨hparts, hrest⟩ := ih (List.not_mem_of_not_mem_cons ha)
        (List.not_mem_of_not_mem_cons ha') htail
      exact ⟨by rw [hhead, hparts], hrest⟩

end Text
