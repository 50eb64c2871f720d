import SeatFlow.Numbers.Decimal
import SeatFlow.Text.Fields

/-!
# Internet addresses as texts

An IPv4 address is four octets. An IPv6 address is written as eight groups of hexadecimal digits,
or as fewer with `::` where the zero groups between them are left out; an IPv4 address may stand
for the last two. The texts here are built from such parts, and know the address they denote.
-/

namespace IpAddress

open Text

/-! ## §1 IPv4 -/

structure Quad where
  first : Fin 256
  second : Fin 256
  third : Fin 256
  fourth : Fin 256
  deriving DecidableEq

def Quad.octets (quad : Quad) : List (List Char) :=
  [quad.first, quad.second, quad.third, quad.fourth].map fun octet => Nat.toDigits 10 octet.val

def Quad.render (quad : Quad) : List Char :=
  ['.'].intercalate quad.octets

/-- An octet has one to three digits. -/
theorem octet_spec (octet : Fin 256) :
    Decimal.isDigits 3 (Nat.toDigits 10 octet.val) = true := by
  refine Decimal.isDigits_iff.mpr ⟨Nat.toDigits_ne_nil, ?_, fun c hc => ?_⟩
  · refine (Nat.length_toDigits_le_iff (by decide) (by decide)).mpr ?_
    have hsmall := octet.isLt
    omega
  · exact Nat.isDigit_of_mem_toDigits (by decide) (by decide) hc

theorem Quad.octets_spec (quad : Quad) :
    ∀ octet ∈ quad.octets, Decimal.isDigits 3 octet = true := by
  intro octet hoctet
  obtain ⟨n, -, rfl⟩ := List.mem_map.mp hoctet
  exact octet_spec n

/-- The octets are those between the points. -/
theorem Quad.splitOn_render (quad : Quad) : quad.render.splitOn '.' = quad.octets := by
  refine List.splitOn_intercalate '.' (fun octet hoctet => ?_) (by simp [Quad.octets])
  have hdigits := (Decimal.isDigits_iff.mp (quad.octets_spec octet hoctet)).2.2
  exact Decimal.not_mem_of_digits hdigits (by decide)

theorem Quad.mem_render (quad : Quad) : ∀ c ∈ quad.render, c.isDigit = true ∨ c = '.' := by
  intro c hc
  rcases mem_intercalate hc with rfl | ⟨octet, hoctet, hc⟩
  · exact .inr rfl
  · exact .inl ((Decimal.isDigits_iff.mp (quad.octets_spec octet hoctet)).2.2 c hc)

theorem Quad.point_mem_render (quad : Quad) : '.' ∈ quad.render := by
  simp [Quad.render, Quad.octets, List.intercalate_cons_cons]

theorem Quad.colon_not_mem_render (quad : Quad) : ':' ∉ quad.render := by
  intro hcolon
  rcases quad.mem_render ':' hcolon with hdigit | hpoint
  · exact absurd hdigit (by decide)
  · exact absurd hpoint (by decide)

theorem Quad.length_render_le (quad : Quad) : quad.render.length ≤ 15 := by
  have hlength : quad.render.length + 1 = _ :=
    length_intercalate (show quad.octets ≠ [] by simp [Quad.octets])
  have hfirst := (Decimal.isDigits_iff.mp (octet_spec quad.first)).2.1
  have hsecond := (Decimal.isDigits_iff.mp (octet_spec quad.second)).2.1
  have hthird := (Decimal.isDigits_iff.mp (octet_spec quad.third)).2.1
  have hfourth := (Decimal.isDigits_iff.mp (octet_spec quad.fourth)).2.1
  simp only [Quad.octets, List.map_cons, List.map_nil, List.sum_cons, List.sum_nil,
    List.length_cons, List.length_nil] at hlength
  omega

/-! ## §2 Groups -/

def isHexDigit (c : Char) : Bool :=
  c.isDigit || ('A' ≤ c && c ≤ 'F') || ('a' ≤ c && c ≤ 'f')

def hexDigit (c : Char) : Fin 16 :=
  if c.isDigit then Fin.ofNat 16 (c.toNat - '0'.toNat)
  else if 'a' ≤ c then Fin.ofNat 16 (c.toNat - 'a'.toNat + 10)
  else Fin.ofNat 16 (c.toNat - 'A'.toNat + 10)

/-- One to four hexadecimal digits. -/
structure Group where
  digits : List Char
  nonempty : digits ≠ []
  length_le : digits.length ≤ 4
  hex : ∀ c ∈ digits, isHexDigit c = true

def hexValue (digits : List Char) : Nat :=
  digits.foldl (fun n c => 16 * n + (hexDigit c).val) 0

theorem hexValue_lt (digits : List Char) : hexValue digits < 16 ^ digits.length := by
  induction digits using List.reverseRecOn with
  | nil => decide
  | append_singleton digits c ih =>
      have hc := (hexDigit c).isLt
      unfold hexValue at ih ⊢
      rw [List.foldl_append, List.length_append, List.length_singleton, Nat.pow_succ]
      simp only [List.foldl_cons, List.foldl_nil]
      omega

def Group.value (group : Group) : Fin 65536 :=
  ⟨hexValue group.digits, Nat.lt_of_lt_of_le (hexValue_lt _)
    (Nat.pow_le_pow_right (by decide) group.length_le)⟩

/-- A group is written with digits and letters only. -/
theorem Group.not_mem (group : Group) {c : Char} (hc : isHexDigit c = false) :
    c ∉ group.digits := fun hmem =>
  absurd (group.hex c hmem) (by simp [hc])

theorem Group.digits_injective {groups groups' : List Group}
    (h : groups.map (·.digits) = groups'.map (·.digits)) : groups = groups' := by
  refine List.map_injective_iff.mpr (fun g g' hdigits => ?_) h
  cases g
  cases g'
  cases hdigits
  rfl

theorem hexDigit_eq_zero {c : Char} (hc : isHexDigit c = true) :
    hexDigit c = 0 ↔ c = '0' := by
  have hle : c.toNat ≤ 102 := by
    unfold isHexDigit Char.isDigit at hc
    simp only [Bool.or_eq_true, Bool.and_eq_true, decide_eq_true_eq, ge_iff_le] at hc
    rcases hc with (⟨-, hle⟩ | ⟨-, hle⟩) | ⟨-, hle⟩
    · exact Nat.le_trans (UInt32.le_iff_toNat_le.mp hle) (by decide)
    · exact Nat.le_trans (UInt32.le_iff_toNat_le.mp hle) (by decide)
    · exact UInt32.le_iff_toNat_le.mp hle
  have hall : ∀ n ≤ 102, isHexDigit (Char.ofNat n) = true →
      (hexDigit (Char.ofNat n) = 0 ↔ Char.ofNat n = '0') := by
    decide +kernel
  have h := hall c.toNat hle
  rw [Char.ofNat_toNat] at h
  exact h hc

/-- A group is zero where it is written with zeros only. -/
theorem Group.value_eq_zero (group : Group) :
    group.value = 0 ↔ ∀ c ∈ group.digits, c = '0' := by
  have hvalue : ∀ digits : List Char, (∀ c ∈ digits, isHexDigit c = true) →
      (hexValue digits = 0 ↔ ∀ c ∈ digits, c = '0') := by
    intro digits
    induction digits using List.reverseRecOn with
    | nil => simp [hexValue]
    | append_singleton digits c ih =>
        intro hex
        have hc := hexDigit_eq_zero (hex c (by simp))
        have hdigits := ih fun d hd => hex d (List.mem_append_left _ hd)
        rw [← Fin.val_eq_zero_iff] at hc
        rw [List.forall_mem_append, ← hdigits, List.forall_mem_singleton, ← hc]
        simp only [hexValue, List.foldl_append, List.foldl_cons, List.foldl_nil]
        omega
  rw [← hvalue group.digits group.hex, ← Fin.val_eq_zero_iff]
  rfl

/-! ## §3 IPv6 -/

/-- Groups, and perhaps an IPv4 address behind them in the place of two. -/
structure Run where
  groups : List Group
  quad : Option Quad := none

namespace Run

def size (run : Run) : Nat :=
  run.groups.length + if run.quad.isSome then 2 else 0

def words (run : Run) : List (List Char) :=
  run.groups.map (·.digits) ++ (run.quad.map Quad.render).toList

def quadValues (quad : Quad) : List (Fin 65536) :=
  [Fin.ofNat 65536 (quad.first.val * 256 + quad.second.val),
    Fin.ofNat 65536 (quad.third.val * 256 + quad.fourth.val)]

def values (run : Run) : List (Fin 65536) :=
  run.groups.map Group.value ++ run.quad.elim [] quadValues

end Run

inductive Ipv6Text
  | full (run : Run) (eight : run.size = 8)
  | elided (head : List Group) (tail : Run) (fewer : head.length + tail.size ≤ 7)

namespace Ipv6Text

def render : Ipv6Text → List Char
  | full run _ => [':'].intercalate run.words
  | elided head tail _ =>
      [':'].intercalate (head.map (·.digits)) ++ ':' :: ':' :: [':'].intercalate tail.words

/-- The eight groups of the address. -/
def values : Ipv6Text → List (Fin 65536)
  | full run _ => run.values
  | elided head tail _ =>
      head.map Group.value ++ List.replicate (8 - head.length - tail.size) 0 ++ tail.values

end Ipv6Text

theorem Run.length_values (run : Run) : run.values.length = run.size := by
  obtain ⟨groups, quad⟩ := run
  cases quad <;> simp [Run.values, Run.size, Run.quadValues]

theorem areWords_groups (groups : List Group) : AreWords ':' (groups.map (·.digits)) := by
  intro w hw
  obtain ⟨group, -, rfl⟩ := List.mem_map.mp hw
  exact ⟨group.nonempty, group.not_mem (by decide)⟩

theorem Run.areWords (run : Run) : AreWords ':' run.words := by
  refine areWords_append.mpr ⟨areWords_groups _, fun w hw => ?_⟩
  obtain ⟨quad, -, rfl⟩ := Option.map_eq_some_iff.mp (Option.mem_toList.mp hw)
  exact ⟨List.ne_nil_of_mem quad.point_mem_render, quad.colon_not_mem_render⟩

theorem Run.eq_nil_of_words {run : Run} (h : run.words = []) : run = ⟨[], none⟩ := by
  obtain ⟨groups, quad⟩ := run
  obtain ⟨hgroups, hquad⟩ := List.append_eq_nil_iff.mp h
  obtain rfl : groups = [] := List.map_eq_nil_iff.mp hgroups
  cases quad with
  | none => rfl
  | some quad => cases hquad

/-- Groups with nothing but zeros behind them. -/
theorem values_elided_nil (head : List Group) (fewer : head.length + (⟨[], none⟩ : Run).size ≤ 7) :
    (Ipv6Text.elided head ⟨[], none⟩ fewer).values.take 3 =
      (head.map Group.value ++ List.replicate 3 0).take 3 := by
  simp only [Ipv6Text.values, Run.values, Run.size, List.map_nil, Option.elim_none, List.append_nil,
    List.take_append, List.take_replicate, List.length_map, List.length_nil, Option.isSome_none]
  congr 2
  simp
  omega

/-- A text of an address has a colon in it. -/
theorem Ipv6Text.colon_mem_render (text : Ipv6Text) : ':' ∈ text.render := by
  cases text with
  | full run eight =>
      obtain ⟨groups, quad⟩ := run
      match groups, eight with
      | first :: second :: groups, _ =>
          simp [Ipv6Text.render, Run.words, List.intercalate_cons_cons]
      | [first], eight => cases quad <;> simp [Run.size] at eight
      | [], eight => cases quad <;> simp [Run.size] at eight
  | elided head tail fewer => simp [Ipv6Text.render]

end IpAddress
