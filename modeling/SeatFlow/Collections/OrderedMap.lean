import Mathlib.Data.List.Nodup
import Mathlib.Data.Option.Basic

/-!
# Maps in insertion order

A map that lists its entries in the order in which their keys came. Setting a key that is there
keeps its place; filtering and leaving out the first entries keep the order of the others.
-/

namespace Collections

/-- Entries in the order of their insertion, no two under one key. -/
structure OrderedMap (κ ν : Type) where
  entries : List (κ × ν)
  nodup : (entries.map Prod.fst).Nodup

namespace OrderedMap

variable {κ ν : Type}

def empty : OrderedMap κ ν := ⟨[], List.nodup_nil⟩

def size (m : OrderedMap κ ν) : Nat :=
  m.entries.length

/-- What is left when entries are deleted. -/
def filter (m : OrderedMap κ ν) (p : κ → ν → Bool) : OrderedMap κ ν where
  entries := m.entries.filter fun e => p e.1 e.2
  nodup := m.nodup.sublist (List.filter_sublist.map _)

/-- Without the first `n` entries. -/
def dropFirst (m : OrderedMap κ ν) (n : Nat) : OrderedMap κ ν where
  entries := m.entries.drop n
  nodup := m.nodup.sublist ((List.drop_sublist _ _).map _)

theorem size_dropFirst {m : OrderedMap κ ν} (n : Nat) : (m.dropFirst n).size = m.size - n :=
  List.length_drop

theorem nodup_append (m : OrderedMap κ ν) {k : κ} {v : ν} (h : k ∉ m.entries.map Prod.fst) :
    ((m.entries ++ [(k, v)]).map Prod.fst).Nodup := by
  rw [List.map_append]
  exact m.nodup.append (List.nodup_singleton k) (List.disjoint_singleton.mpr h)

variable [DecidableEq κ]

def get (m : OrderedMap κ ν) (k : κ) : Option ν :=
  (m.entries.find? fun e => e.1 = k).map Prod.snd

/-- `m.entries` with the value under `k` replaced. -/
def replaced (m : OrderedMap κ ν) (k : κ) (v : ν) : List (κ × ν) :=
  m.entries.map fun e => if e.1 = k then (k, v) else e

theorem replaced_fst (m : OrderedMap κ ν) (k : κ) (v : ν) :
    (m.replaced k v).map Prod.fst = m.entries.map Prod.fst := by
  rw [replaced, List.map_map]
  refine List.map_congr_left fun e _ => ?_
  dsimp only [Function.comp]
  split
  · rename_i heq
    exact heq.symm
  · rfl

/-- A key that is there keeps its place; a new one comes last. -/
def set (m : OrderedMap κ ν) (k : κ) (v : ν) : OrderedMap κ ν :=
  if h : k ∈ m.entries.map Prod.fst then ⟨m.replaced k v, m.replaced_fst k v ▸ m.nodup⟩
  else ⟨m.entries ++ [(k, v)], m.nodup_append h⟩

variable {m : OrderedMap κ ν} {k k' : κ} {v v' : ν}

/-- **A key's value** is that of its entry. -/
theorem get_eq_some : m.get k = some v ↔ (k, v) ∈ m.entries := by
  unfold get
  constructor
  · intro h
    obtain ⟨⟨k', v'⟩, hfound, rfl⟩ := Option.map_eq_some_iff.mp h
    obtain rfl : k' = k := by simpa using List.find?_some hfound
    exact List.mem_of_find?_eq_some hfound
  · intro hmem
    obtain ⟨⟨k', v'⟩, hfound⟩ : ∃ e, m.entries.find? (fun e => e.1 = k) = some e := by
      rw [← Option.isSome_iff_exists, List.find?_isSome]
      exact ⟨_, hmem, by simp⟩
    obtain rfl : k' = k := by simpa using List.find?_some hfound
    have hsame := List.inj_on_of_nodup_map m.nodup (List.mem_of_find?_eq_some hfound) hmem rfl
    rw [hfound, hsame]
    rfl

theorem ext_get {o o' : Option ν} (h : ∀ v, o = some v ↔ o' = some v) : o = o' :=
  Option.ext fun v => by simpa using h v

theorem mem_keys_of_get (h : m.get k = some v) : k ∈ m.entries.map Prod.fst :=
  List.mem_map_of_mem (f := Prod.fst) (get_eq_some.mp h)

theorem mem_entries_set {e : κ × ν} :
    e ∈ (m.set k v).entries ↔ e = (k, v) ∨ (e.1 ≠ k ∧ e ∈ m.entries) := by
  unfold set
  split
  · rename_i hmem
    show e ∈ m.replaced k v ↔ _
    rw [replaced, List.mem_map]
    constructor
    · rintro ⟨d, hd, rfl⟩
      split
      · exact .inl rfl
      · exact .inr ⟨‹_›, hd⟩
    · rintro (rfl | ⟨hne, he⟩)
      · obtain ⟨d, hd, hkey⟩ := List.mem_map.mp hmem
        exact ⟨d, hd, if_pos hkey⟩
      · exact ⟨e, he, if_neg hne⟩
  · rename_i habsent
    rw [List.mem_append, List.mem_singleton]
    constructor
    · rintro (he | rfl)
      · refine .inr ⟨?_, he⟩
        rintro rfl
        exact habsent (List.mem_map_of_mem he)
      · exact .inl rfl
    · rintro (rfl | ⟨-, he⟩)
      · exact .inr rfl
      · exact .inl he

@[simp]
theorem get_set_self : (m.set k v).get k = some v :=
  get_eq_some.mpr (mem_entries_set.mpr (.inl rfl))

theorem get_set_ne (hne : k' ≠ k) : (m.set k v).get k' = m.get k' := by
  refine ext_get fun w => ?_
  rw [get_eq_some, get_eq_some, mem_entries_set]
  constructor
  · rintro (heq | ⟨-, hmem⟩)
    · exact absurd (congrArg Prod.fst heq) hne
    · exact hmem
  · exact fun hmem => .inr ⟨hne, hmem⟩

theorem get_filter {p : κ → ν → Bool} : (m.filter p).get k = (m.get k).filter (p k) := by
  refine ext_get fun v => ?_
  rw [get_eq_some, Option.filter_eq_some_iff, get_eq_some]
  exact List.mem_filter

/-- Setting adds one entry, and none under a key that is there. -/
theorem size_set_le : (m.set k v).size ≤ m.size + 1 := by
  unfold set
  split <;> simp [size, replaced]

theorem size_set_of_get (h : m.get k = some v') : (m.set k v).size = m.size := by
  unfold set
  rw [dif_pos (mem_keys_of_get h)]
  simp [size, replaced]

end OrderedMap

end Collections
