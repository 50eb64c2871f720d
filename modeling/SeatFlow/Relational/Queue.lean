import Mathlib.Data.List.Sort
import Mathlib.Data.Set.Card
import SeatFlow.Relational.Table

/-!
# Queues read off a table

`SELECT … WHERE p ORDER BY rank, id`: the matching rows from the first to the last. When the
first of them stops matching, the others stay in their order. A `LIMIT` takes the rows that
have few enough others before them.
-/

namespace Relational

namespace Table

variable {κ ρ ι : Type} [LinearOrder κ] [LinearOrder ι]

/-- By rank, and rows of one rank by key. -/
def Earlier (rank : ρ → ι) (a b : κ × ρ) : Prop :=
  rank a.2 < rank b.2 ∨ (rank a.2 = rank b.2 ∧ a.1 ≤ b.1)

instance (rank : ρ → ι) (a b : κ × ρ) : Decidable (Earlier rank a b) :=
  inferInstanceAs (Decidable (rank a.2 < rank b.2 ∨ (rank a.2 = rank b.2 ∧ a.1 ≤ b.1)))

/-- `SELECT … WHERE p ORDER BY rank, id`. -/
def ordered (p : κ → ρ → Bool) (rank : ρ → ι) (t : Table κ ρ) : List (κ × ρ) :=
  (t.select p).insertionSort (Earlier rank)

variable {p : κ → ρ → Bool} {rank : ρ → ι} {t : Table κ ρ}

theorem mem_ordered {k : κ} {r : ρ} :
    (k, r) ∈ t.ordered p rank ↔ t.lookup k = some r ∧ p k r = true := by
  unfold ordered
  rw [List.mem_insertionSort]
  exact mem_select

theorem nodup_ordered : ((t.ordered p rank).map Prod.fst).Nodup := by
  have hselected : ((t.select p).map Prod.fst).Nodup :=
    t.nodup_rows_fst.sublist (List.filter_sublist.map _)
  exact ((List.perm_insertionSort (Earlier rank) (t.select p)).map Prod.fst).nodup_iff.mpr hselected

end Table

/-! ## §2 What a limit takes -/

section Limit

variable {α : Type} {l before after : List α} {a : α} {n : Nat}

theorem mem_take_of_length_lt (hsplit : l = before ++ a :: after) (h : before.length < n) :
    a ∈ l.take n := by
  obtain ⟨m, hm⟩ := Nat.exists_eq_add_of_lt h
  rw [hsplit, List.take_append, List.mem_append, show n - before.length = m + 1 by omega]
  exact .inr List.mem_cons_self

theorem length_lt_of_mem_take (hnodup : l.Nodup) (hsplit : l = before ++ a :: after)
    (h : a ∈ l.take n) : before.length < n := by
  by_contra hn
  rw [hsplit, List.take_append_of_le_length (Nat.not_lt.mp hn)] at h
  rw [hsplit, List.nodup_append] at hnodup
  exact hnodup.2.2 a (List.mem_of_mem_take h) a List.mem_cons_self rfl

end Limit

/-- A list of distinct rows has as many rows as a set has keys, or fewer. -/
theorem length_le_ncard {κ ρ : Type} [DecidableEq κ] {rows : List (κ × ρ)} {S : Set κ}
    (hnodup : (rows.map Prod.fst).Nodup) (hS : S.Finite) (h : ∀ e ∈ rows, e.1 ∈ S) :
    rows.length ≤ S.ncard := by
  have hsubset : ((rows.map Prod.fst).toFinset : Set κ) ⊆ S := by
    intro k hk
    obtain ⟨e, he, rfl⟩ := List.mem_map.mp (List.mem_toFinset.mp hk)
    exact h e he
  have hcard := Set.ncard_le_ncard hsubset hS
  rwa [Set.ncard_coe_finset, List.toFinset_card_of_nodup hnodup, List.length_map] at hcard

theorem ncard_le_length {κ ρ : Type} [DecidableEq κ] {rows : List (κ × ρ)} {S : Set κ}
    (h : ∀ k ∈ S, ∃ r, (k, r) ∈ rows) : S.ncard ≤ rows.length := by
  have hsubset : S ⊆ ((rows.map Prod.fst).toFinset : Set κ) := by
    intro k hk
    obtain ⟨r, hr⟩ := h k hk
    exact List.mem_toFinset.mpr (List.mem_map.mpr ⟨(k, r), hr, rfl⟩)
  refine (Set.ncard_le_ncard hsubset (Finset.finite_toSet _)).trans ?_
  rw [Set.ncard_coe_finset]
  exact (List.toFinset_card_le _).trans (by rw [List.length_map])

end Relational
