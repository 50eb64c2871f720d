import Mathlib.Data.List.Basic

/-!
# UTF-16 and WinAnsi

A text as its UTF-16 code units, in which its length is counted, its characters are replaced and
it is cut, and the characters that the fonts of a document without embedded fonts have. All of
these are single units, so a text is in WinAnsi when each of its units is, wherever it was cut.
-/

namespace Text

/-- The code units of a character: one, or a surrogate pair. -/
def codeUnits (c : Char) : List Nat :=
  if c.toNat < 0x10000 then [c.toNat]
  else [0xD800 + (c.toNat - 0x10000) / 0x400, 0xDC00 + (c.toNat - 0x10000) % 0x400]

def utf16 (text : String) : List Nat :=
  text.toList.flatMap codeUnits

/-- The length of a text: characters outside the first plane count twice. -/
def utf16Length (text : String) : Nat :=
  (utf16 text).length

theorem length_codeUnits_of_small {l : List Char} (h : ∀ c ∈ l, c.toNat < 0x10000) :
    (l.flatMap codeUnits).length = l.length := by
  induction l with
  | nil => rfl
  | cons c l ih =>
    rw [List.flatMap_cons, List.length_append, ih fun d hd => h d (List.mem_cons_of_mem c hd),
      codeUnits, if_pos (h c List.mem_cons_self), List.length_singleton, List.length_cons]
    omega

theorem utf16Length_of_small {text : String} (h : ∀ c ∈ text.toList, c.toNat < 0x10000) :
    utf16Length text = text.toList.length :=
  length_codeUnits_of_small h

/-- Each code unit of the other characters becomes an underscore. -/
def underscored (p : Char → Bool) (text : String) : List Char :=
  text.toList.flatMap fun c => if p c then [c] else List.replicate (codeUnits c).length '_'

theorem of_mem_underscored {p : Char → Bool} {text : String} {c : Char}
    (hunderscore : p '_' = true) (h : c ∈ underscored p text) : p c = true := by
  obtain ⟨d, -, hc⟩ := List.mem_flatMap.mp h
  split at hc
  · rw [List.mem_singleton.mp hc]
    assumption
  · rw [List.eq_of_mem_replicate hc]
    exact hunderscore

/-- Windows code page 1252: ASCII and Latin-1 without the controls, and these. -/
def isWinAnsi (unit : Nat) : Bool :=
  (0x20 ≤ unit && unit ≤ 0x7E) || (0xA0 ≤ unit && unit ≤ 0xFF) ||
    [0x152, 0x153, 0x160, 0x161, 0x178, 0x17D, 0x17E, 0x192, 0x2C6, 0x2DC, 0x2013, 0x2014, 0x2018,
      0x2019, 0x201A, 0x201C, 0x201D, 0x201E, 0x2020, 0x2021, 0x2022, 0x2026, 0x2030, 0x2039,
      0x203A, 0x20AC, 0x2122].contains unit

theorem lt_of_isWinAnsi {unit : Nat} (h : isWinAnsi unit = true) : unit < 0xD800 := by
  simp only [isWinAnsi, Bool.or_eq_true, Bool.and_eq_true, decide_eq_true_eq,
    List.contains_iff_mem] at h
  rcases h with (h | h) | h
  · omega
  · omega
  · have hall : ∀ u ∈ [0x152, 0x153, 0x160, 0x161, 0x178, 0x17D, 0x17E, 0x192, 0x2C6, 0x2DC,
        0x2013, 0x2014, 0x2018, 0x2019, 0x201A, 0x201C, 0x201D, 0x201E, 0x2020, 0x2021, 0x2022,
        0x2026, 0x2030, 0x2039, 0x203A, 0x20AC, 0x2122], u < 0xD800 := by decide
    exact hall unit h

/-- Every unit is of a WinAnsi character. -/
def WinAnsi (units : List Nat) : Prop :=
  ∀ u ∈ units, isWinAnsi u = true

instance (units : List Nat) : Decidable (WinAnsi units) :=
  decidable_of_iff (units.all isWinAnsi = true) List.all_eq_true

theorem winAnsi_append {a b : List Nat} : WinAnsi (a ++ b) ↔ WinAnsi a ∧ WinAnsi b :=
  List.forall_mem_append

/-- A surrogate half is not in WinAnsi, nor is a character of two units. -/
theorem winAnsi_codeUnits {c : Char} : WinAnsi (codeUnits c) ↔ isWinAnsi c.toNat = true := by
  unfold codeUnits
  split
  · exact List.forall_mem_singleton
  · rename_i hlarge
    constructor
    · intro h
      have hhigh := lt_of_isWinAnsi (h _ List.mem_cons_self)
      omega
    · intro h
      have hsmall := lt_of_isWinAnsi h
      omega

/-- A text is in WinAnsi when its characters are. -/
theorem winAnsi_utf16 {text : String} :
    WinAnsi (utf16 text) ↔ ∀ c ∈ text.toList, isWinAnsi c.toNat = true := by
  simp only [← winAnsi_codeUnits]
  constructor
  · intro h c hc u hu
    exact h u (List.mem_flatMap.mpr ⟨c, hc, hu⟩)
  · intro h u hu
    obtain ⟨c, hc, hu⟩ := List.mem_flatMap.mp hu
    exact h c hc u hu

theorem winAnsi_utf16_append {a b : String} :
    WinAnsi (utf16 (a ++ b)) ↔ WinAnsi (utf16 a) ∧ WinAnsi (utf16 b) := by
  simp only [winAnsi_utf16, String.toList_append]
  exact List.forall_mem_append

end Text
