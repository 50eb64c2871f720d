import Mathlib.Data.List.AList
import Mathlib.Algebra.BigOperators.Group.Finset.Basic
import Mathlib.Algebra.BigOperators.Group.Finset.Piecewise
import Mathlib.Algebra.Order.BigOperators.Group.Finset
import Mathlib.Tactic.Abel

/-!
# Tables

A table is a finite map from primary keys to rows. The finite map itself is
Mathlib's `AList`; this module adds what a relational program does with one:
enumerating rows, selecting them by a predicate, writing a batch of rows, and
summing a column. Enumeration order is the order of the association list and
carries no meaning, so every sum is characterised by lookups alone
(`sum_congr`).
-/

namespace Relational

/-- A finite map from primary keys `κ` to rows `ρ`, at most one row a key. -/
abbrev Table (κ ρ : Type) := AList (fun _ : κ => ρ)

namespace Table

variable {κ ρ : Type}

/-! ## §1 Rows, selections and row updates -/

/-- The rows with their keys. -/
def rows (t : Table κ ρ) : List (κ × ρ) :=
  t.entries.map fun e => (e.1, e.2)

/-- `SELECT … WHERE p`. -/
def select (p : κ → ρ → Bool) (t : Table κ ρ) : List (κ × ρ) :=
  t.rows.filter fun e => p e.1 e.2

theorem rows_map_fst (t : Table κ ρ) : t.rows.map Prod.fst = t.keys := by
  simp [rows, AList.keys, List.keys, Function.comp_def]

theorem nodup_rows_fst (t : Table κ ρ) : (t.rows.map Prod.fst).Nodup := by
  rw [rows_map_fst]
  exact t.keys_nodup

theorem nodup_select_fst (p : κ → ρ → Bool) (t : Table κ ρ) :
    ((t.select p).map Prod.fst).Nodup :=
  t.nodup_rows_fst.sublist (List.filter_sublist.map _)

/-- `UPDATE … SET f WHERE p`, as the batch of new row versions. -/
def updates (p : κ → ρ → Bool) (f : κ → ρ → ρ) (t : Table κ ρ) : List (κ × ρ) :=
  (t.select p).map fun e => (e.1, f e.1 e.2)

theorem updates_map_fst (p : κ → ρ → Bool) (f : κ → ρ → ρ) (t : Table κ ρ) :
    (t.updates p f).map Prod.fst = (t.select p).map Prod.fst := by
  simp [updates, Function.comp_def]

variable [DecidableEq κ]

/-- A table without keys is empty. -/
theorem lookup_of_keys {t : Table κ ρ} (h : t.keys = []) (k : κ) : t.lookup k = none := by
  refine AList.lookup_eq_none.mpr fun hmem => ?_
  rw [AList.mem_keys, h] at hmem
  cases hmem

/-- Of rows of which only one has children, and that only one child. -/
theorem length_flatMap_le_one {α β : Type} {f : α → List β} {l : List α}
    (hone : ∀ a ∈ l, (f a).length ≤ 1) (hpair : l.Pairwise fun a a' => f a = [] ∨ f a' = []) :
    (l.flatMap f).length ≤ 1 := by
  induction l with
  | nil => simp
  | cons a l ih =>
      rw [List.pairwise_cons] at hpair
      rw [List.flatMap_cons, List.length_append]
      by_cases hnone : f a = []
      · rw [hnone, List.length_nil, Nat.zero_add]
        exact ih (fun b hb => hone b (List.mem_cons_of_mem a hb)) hpair.2
      · have hrest : l.flatMap f = [] :=
          List.flatMap_eq_nil_iff.mpr fun b hb => (hpair.1 b hb).resolve_left hnone
        rw [hrest, List.length_nil, Nat.add_zero]
        exact hone a (List.mem_cons_self ..)

theorem mem_rows {t : Table κ ρ} {k : κ} {r : ρ} :
    (k, r) ∈ t.rows ↔ t.lookup k = some r := by
  rw [← Option.mem_def, AList.mem_lookup_iff, rows, List.mem_map]
  constructor
  · rintro ⟨⟨k', r'⟩, hmem, heq⟩
    cases heq
    exact hmem
  · intro hmem
    exact ⟨⟨k, r⟩, hmem, rfl⟩

theorem mem_select {p : κ → ρ → Bool} {t : Table κ ρ} {k : κ} {r : ρ} :
    (k, r) ∈ t.select p ↔ t.lookup k = some r ∧ p k r = true := by
  simp [select, mem_rows]

/-- Some row satisfies `p`, decided by enumeration. -/
def any (p : κ → ρ → Bool) (t : Table κ ρ) : Bool :=
  t.rows.any fun e => p e.1 e.2

theorem any_eq_true {p : κ → ρ → Bool} {t : Table κ ρ} :
    t.any p = true ↔ ∃ k r, t.lookup k = some r ∧ p k r = true := by
  simp [any, mem_rows]

theorem any_eq_false {p : κ → ρ → Bool} {t : Table κ ρ} :
    t.any p = false ↔ ∀ k r, t.lookup k = some r → p k r = false := by
  simp [any, mem_rows]

/-- A unique index: no row but the one under `id` satisfies `p`. -/
theorem any_other_eq_false {q : κ → ρ → Bool} {p : ρ → Prop} {t : Table κ ρ} (id : κ)
    (hq : ∀ k r, q k r = true ↔ k ≠ id ∧ p r) :
    t.any q = false ↔ ∀ k r, t.lookup k = some r → k ≠ id → ¬p r := by
  rw [any_eq_false]
  refine forall_congr' fun k => forall_congr' fun r => forall_congr' fun _ => ?_
  rw [← Bool.not_eq_true, hq]
  exact not_and

/-- A property of all rows, checked by enumeration. -/
theorem forall_lookup {p : κ → ρ → Prop} {t : Table κ ρ} (h : ∀ e ∈ t.rows, p e.1 e.2) :
    ∀ k r, t.lookup k = some r → p k r :=
  fun k r hlook => h (k, r) (mem_rows.mpr hlook)

/-- A selection is empty exactly when no row satisfies the predicate. -/
theorem select_eq_nil {p : κ → ρ → Bool} {t : Table κ ρ} :
    t.select p = [] ↔ ∀ k r, t.lookup k = some r → p k r = false := by
  simp [select, List.filter_eq_nil_iff, mem_rows]

/-- A selection with one match. -/
theorem select_eq_singleton {p : κ → ρ → Bool} {t : Table κ ρ} {k : κ} {r : ρ}
    (hlook : t.lookup k = some r) (hp : p k r = true)
    (hunique : ∀ k' r', t.lookup k' = some r' → p k' r' = true → k' = k) :
    t.select p = [(k, r)] := by
  have hnodup : (t.select p).Nodup := (List.Nodup.of_map Prod.fst (nodup_rows_fst t)).filter _
  by_contra hne
  rcases (hnodup.ne_singleton_iff (k, r)).mp hne with hnil | ⟨⟨k', r'⟩, hmem, hother⟩
  · have hfound : (k, r) ∈ t.select p := mem_select.mpr ⟨hlook, hp⟩
    rw [hnil] at hfound
    cases hfound
  · obtain ⟨hlook', hp'⟩ := mem_select.mp hmem
    cases hunique k' r' hlook' hp'
    exact hother (by rw [Option.some.inj (hlook.symm.trans hlook')])

/-- A selection of which any two matches are one. -/
theorem length_select_le_one {p : κ → ρ → Bool} {t : Table κ ρ}
    (h : ∀ k k' r r', t.lookup k = some r → t.lookup k' = some r' → p k r = true →
      p k' r' = true → k = k') : (t.select p).length ≤ 1 := by
  rcases hselect : t.select p with _ | ⟨e, rest⟩
  · exact Nat.zero_le 1
  · obtain ⟨hlook, hp⟩ := mem_select.mp (hselect ▸ List.mem_cons_self : e ∈ t.select p)
    rw [← hselect, select_eq_singleton hlook hp fun k' r' hlook' hp' => h k' e.1 r' e.2 hlook' hlook
      hp' hp]
    exact Nat.le_refl 1

/-! ## §2 Writing a batch of rows -/

/-- Write a batch of rows, in order. -/
def putAll (batch : List (κ × ρ)) (t : Table κ ρ) : Table κ ρ :=
  batch.foldl (fun acc e => acc.insert e.1 e.2) t

@[simp]
theorem putAll_nil (t : Table κ ρ) : t.putAll [] = t := rfl

@[simp]
theorem putAll_cons (e : κ × ρ) (batch : List (κ × ρ)) (t : Table κ ρ) :
    t.putAll (e :: batch) = putAll batch (t.insert e.1 e.2) := rfl

theorem lookup_insert_ite (t : Table κ ρ) (k k' : κ) (r : ρ) :
    (t.insert k r).lookup k' = if k' = k then some r else t.lookup k' := by
  by_cases h : k' = k
  · subst h
    rw [AList.lookup_insert, if_pos rfl]
  · rw [AList.lookup_insert_ne h, if_neg h]

/-- Writing a row again moves it to the front and changes no lookup. -/
theorem lookup_insert_self {t : Table κ ρ} {k : κ} {r : ρ} (h : t.lookup k = some r) (k' : κ) :
    AList.lookup k' (t.insert k r) = t.lookup k' := by
  rw [lookup_insert_ite]
  split
  · rename_i hk
    rw [hk, h]
  · rfl

theorem head?_select_insert {p : κ → ρ → Bool} {t : Table κ ρ} {k : κ} {r : ρ}
    (h : p k r = true) : (select p (t.insert k r)).head? = some (k, r) := by
  simp [select, rows, AList.entries_insert, h]

theorem lookup_putAll_of_notMem {batch : List (κ × ρ)} {t : Table κ ρ} {k : κ}
    (h : k ∉ batch.map Prod.fst) : (t.putAll batch).lookup k = t.lookup k := by
  induction batch generalizing t with
  | nil => rfl
  | cons e batch ih =>
      simp only [List.map_cons, List.mem_cons, not_or] at h
      rw [putAll_cons, ih h.2, AList.lookup_insert_ne h.1]

theorem lookup_putAll_of_mem {batch : List (κ × ρ)} {t : Table κ ρ} {k : κ} {r : ρ}
    (hnodup : (batch.map Prod.fst).Nodup) (h : (k, r) ∈ batch) :
    (t.putAll batch).lookup k = some r := by
  induction batch generalizing t with
  | nil => simp at h
  | cons e batch ih =>
      rw [List.map_cons, List.nodup_cons] at hnodup
      rw [putAll_cons]
      rcases List.mem_cons.mp h with rfl | h
      · rw [lookup_putAll_of_notMem hnodup.1, AList.lookup_insert]
      · exact ih hnodup.2 h

/-- After `UPDATE … SET f WHERE p` a row has been mapped by `f` if it satisfied
`p` and is untouched otherwise. -/
theorem lookup_putAll_updates (p : κ → ρ → Bool) (f : κ → ρ → ρ) (t : Table κ ρ) (k : κ) :
    (t.putAll (t.updates p f)).lookup k
      = (t.lookup k).map fun r => if p k r then f k r else r := by
  have hnodup : ((t.updates p f).map Prod.fst).Nodup := by
    rw [updates_map_fst]
    exact (t.nodup_rows_fst).sublist (List.filter_sublist.map _)
  cases hk : t.lookup k with
  | none =>
      rw [lookup_putAll_of_notMem, hk]
      · rfl
      · rw [updates_map_fst]
        rintro hmem
        obtain ⟨⟨k', r⟩, hsel, rfl⟩ := List.mem_map.mp hmem
        rw [(mem_select.mp hsel).1] at hk
        cases hk
  | some r =>
      by_cases hp : p k r = true
      · have hmem : (k, f k r) ∈ t.updates p f :=
          List.mem_map.mpr ⟨(k, r), mem_select.mpr ⟨hk, hp⟩, rfl⟩
        rw [lookup_putAll_of_mem hnodup hmem]
        simp [hp]
      · rw [lookup_putAll_of_notMem, hk]
        · simp [hp]
        · rw [updates_map_fst]
          rintro hmem
          obtain ⟨⟨k', r'⟩, hsel, rfl⟩ := List.mem_map.mp hmem
          obtain ⟨hlook, hp'⟩ := mem_select.mp hsel
          rw [hk] at hlook
          cases hlook
          exact hp hp'

/-! What a write did, read off lookups alone: the tables of a specification need
not be built the way the program builds them. -/

/-- `t'` is `t` with the row `r` under `k`. -/
def Wrote (t : Table κ ρ) (k : κ) (r : ρ) (t' : Table κ ρ) : Prop :=
  ∀ k', t'.lookup k' = if k' = k then some r else t.lookup k'

/-- `t'` is `t` with every row mapped by `f`. -/
def Mapped (t : Table κ ρ) (f : κ → ρ → ρ) (t' : Table κ ρ) : Prop :=
  ∀ k, t'.lookup k = (t.lookup k).map (f k)

theorem wrote_insert {t : Table κ ρ} {k : κ} {r : ρ} : Wrote t k r (t.insert k r) :=
  fun k' => lookup_insert_ite t k k' r

/-- Writing a row that is there. -/
theorem wrote_self {t : Table κ ρ} {k : κ} {r : ρ} (hlook : t.lookup k = some r) :
    Wrote t k r t := by
  intro k'
  split
  · rename_i heq
    rw [heq, hlook]
  · rfl

/-- A second write of the same row. -/
theorem Wrote.insert {t t' : Table κ ρ} {k : κ} {r r' : ρ} (h : Wrote t k r t') :
    Wrote t k r' (t'.insert k r') := by
  intro k'
  rw [lookup_insert_ite]
  split
  · rfl
  · rename_i hne
    rw [h k', if_neg hne]

theorem Wrote.lookup_self {t t' : Table κ ρ} {k : κ} {r : ρ} (h : Wrote t k r t') :
    t'.lookup k = some r := by
  rw [h k, if_pos rfl]

theorem Wrote.lookup_ne {t t' : Table κ ρ} {k k' : κ} {r : ρ} (h : Wrote t k r t') (hne : k' ≠ k) :
    t'.lookup k' = t.lookup k' := by
  rw [h k', if_neg hne]

/-- A row after a write is the row written or an old one. -/
theorem Wrote.cases {t t' : Table κ ρ} {k k' : κ} {r r' : ρ} (h : Wrote t k r t')
    (hlook : t'.lookup k' = some r') : (k' = k ∧ r' = r) ∨ (k' ≠ k ∧ t.lookup k' = some r') := by
  rw [h k'] at hlook
  split at hlook
  · cases hlook
    exact .inl ⟨‹_›, rfl⟩
  · exact .inr ⟨‹_›, hlook⟩

/-- A row before an `INSERT` is there after it. -/
theorem Wrote.keeps {t t' : Table κ ρ} {k k' : κ} {r r' : ρ} (h : Wrote t k r t')
    (habsent : t.lookup k = none) (hlook : t.lookup k' = some r') : t'.lookup k' = some r' := by
  rw [h.lookup_ne, hlook]
  rintro rfl
  rw [habsent] at hlook
  cases hlook

theorem mapped_updates (p : κ → ρ → Bool) (f : κ → ρ → ρ) (t : Table κ ρ) :
    Mapped t (fun k r => if p k r then f k r else r) (t.putAll (t.updates p f)) :=
  lookup_putAll_updates p f t

/-- Rewriting one row. -/
theorem mapped_insert {t : Table κ ρ} {k : κ} {r : ρ} (hlook : t.lookup k = some r) (new : ρ) :
    Mapped t (fun k' r' => if k' = k then new else r') (t.insert k new) := by
  intro k'
  rw [lookup_insert_ite]
  by_cases hk : k' = k
  · subst hk
    simp [hlook]
  · simp [hk]

theorem mapped_id (t : Table κ ρ) : Mapped t (fun _ r => r) t :=
  fun k => by simp

/-- Only the rows of the table matter. -/
theorem Mapped.congr {t t' : Table κ ρ} {f g : κ → ρ → ρ} (h : Mapped t f t')
    (hfg : ∀ k r, t.lookup k = some r → f k r = g k r) : Mapped t g t' := by
  intro k
  rw [h k]
  cases hk : t.lookup k with
  | none => rfl
  | some r => exact congrArg some (hfg k r hk)

theorem Mapped.lookup {t t' : Table κ ρ} {f : κ → ρ → ρ} {k : κ} {r : ρ} (h : Mapped t f t')
    (hlook : t.lookup k = some r) : t'.lookup k = some (f k r) := by
  rw [h k, hlook]
  rfl

/-- A row after a batch of updates is the image of an old one. -/
theorem Mapped.cases {t t' : Table κ ρ} {f : κ → ρ → ρ} {k : κ} {r' : ρ} (h : Mapped t f t')
    (hlook : t'.lookup k = some r') : ∃ r, t.lookup k = some r ∧ r' = f k r := by
  rw [h k, Option.map_eq_some_iff] at hlook
  obtain ⟨r, hr, hr'⟩ := hlook
  exact ⟨r, hr, hr'.symm⟩

/-- Only rows with a property change: wherever the tables differ, the old row and the new
one have it. -/
def ChangesOnly (p : ρ → Prop) (t t' : Table κ ρ) : Prop :=
  ∀ k, t'.lookup k = t.lookup k ∨
    (∀ r, t.lookup k = some r → p r) ∧ ∀ r, t'.lookup k = some r → p r

theorem changesOnly_refl {p : ρ → Prop} (t : Table κ ρ) : t.ChangesOnly p t :=
  fun _ => .inl rfl

theorem ChangesOnly.trans {p : ρ → Prop} {t t' t'' : Table κ ρ} (h : t.ChangesOnly p t')
    (h' : t'.ChangesOnly p t'') : t.ChangesOnly p t'' := by
  intro k
  rcases h k with hsame | ⟨hold, hnew⟩
  · have hlast := h' k
    rwa [hsame] at hlast
  · rcases h' k with hsame' | ⟨-, hnew'⟩
    · exact .inr ⟨hold, fun r hr => hnew r (hsame' ▸ hr)⟩
    · exact .inr ⟨hold, hnew'⟩

theorem changesOnly_insert {p : ρ → Prop} {t : Table κ ρ} {k : κ} {row : ρ}
    (hold : ∀ r, t.lookup k = some r → p r) (hnew : p row) : t.ChangesOnly p (t.insert k row) := by
  intro k'
  by_cases hk : k' = k
  · subst hk
    refine .inr ⟨hold, fun r hr => ?_⟩
    cases (wrote_insert (t := t) (k := k')).lookup_self.symm.trans hr
    exact hnew
  · exact .inl ((wrote_insert (t := t) (r := row)).lookup_ne hk)

/-! ## §3 Column sums -/

section Sum

variable {M : Type} [AddCommMonoid M]

/-- `SELECT SUM(w)`. -/
def sum (w : κ → ρ → M) (t : Table κ ρ) : M :=
  (t.rows.map fun e => w e.1 e.2).sum

/-- What the row under `k` adds to the sum; an absent row adds nothing. -/
def contribution (w : κ → ρ → M) (t : Table κ ρ) (k : κ) : M :=
  (t.lookup k).elim 0 (w k)

theorem contribution_some {w : κ → ρ → M} {t : Table κ ρ} {k : κ} {r : ρ}
    (h : t.lookup k = some r) : t.contribution w k = w k r := by
  simp [contribution, h]

theorem contribution_none {w : κ → ρ → M} {t : Table κ ρ} {k : κ} (h : t.lookup k = none) :
    t.contribution w k = 0 := by
  simp [contribution, h]

theorem contribution_insert (w : κ → ρ → M) (t : Table κ ρ) (k k' : κ) (r : ρ) :
    contribution w (t.insert k r) k' = if k' = k then w k r else t.contribution w k' := by
  by_cases h : k' = k
  · subst h
    simp [contribution]
  · simp [contribution, h]

/-- A sum over rows is a sum over any finite set of keys that covers them. -/
theorem sum_eq_finset_sum (w : κ → ρ → M) (t : Table κ ρ) {s : Finset κ}
    (hs : ∀ k ∈ t.keys, k ∈ s) : t.sum w = ∑ k ∈ s, t.contribution w k := by
  have hkeys : t.sum w = (t.keys.map (t.contribution w)).sum := by
    rw [sum, ← rows_map_fst, List.map_map]
    congr 1
    apply List.map_congr_left
    rintro ⟨k, r⟩ hmem
    exact (contribution_some (mem_rows.mp hmem)).symm
  rw [hkeys, ← List.sum_toFinset _ t.keys_nodup]
  apply Finset.sum_subset
  · intro k hk
    exact hs k (List.mem_toFinset.mp hk)
  · intro k _ hk
    have : t.lookup k = none :=
      AList.lookup_eq_none.mpr fun h => hk (List.mem_toFinset.mpr h)
    simp [contribution, this]

/-- **Sums only see lookups.** Two tables whose keys contribute alike have
equal sums, whatever their enumeration orders. -/
theorem sum_congr {w w' : κ → ρ → M} {t t' : Table κ ρ}
    (h : ∀ k, t.contribution w k = t'.contribution w' k) : t.sum w = t'.sum w' := by
  let s : Finset κ := t.keys.toFinset ∪ t'.keys.toFinset
  rw [t.sum_eq_finset_sum w (s := s) (by simp [s]; tauto),
    t'.sum_eq_finset_sum w' (s := s) (by simp [s]; tauto)]
  exact Finset.sum_congr rfl fun k _ => h k

omit [DecidableEq κ] in
theorem sum_add (w w' : κ → ρ → M) (t : Table κ ρ) :
    t.sum (fun k r => w k r + w' k r) = t.sum w + t.sum w' :=
  List.sum_map_add

/-- A sum of rows that count nothing. -/
theorem sum_eq_zero_of_rows {w : κ → ρ → M} {t : Table κ ρ}
    (h : ∀ k r, t.lookup k = some r → w k r = 0) : t.sum w = 0 := by
  have hsum : t.sum w = (∅ : Table κ ρ).sum w := by
    refine sum_congr fun k => ?_
    rw [contribution_none (AList.lookup_empty k)]
    cases hlook : t.lookup k with
    | none => exact contribution_none hlook
    | some r => rw [contribution_some hlook, h k r hlook]
  exact hsum

/-- A table without rows sums to nothing. -/
theorem sum_eq_zero {w : κ → ρ → M} {t : Table κ ρ} (h : ∀ k, t.lookup k = none) : t.sum w = 0 :=
  sum_eq_zero_of_rows fun k r hr => by simp [h k] at hr

/-- **One write** changes the sum by the new row less the replaced one. -/
theorem sum_insert (w : κ → ρ → M) (t : Table κ ρ) (k : κ) (r : ρ) :
    sum w (t.insert k r) + t.contribution w k = t.sum w + w k r := by
  let s : Finset κ := insert k t.keys.toFinset
  have hk : k ∈ s := Finset.mem_insert_self k _
  have hrest : ∑ k' ∈ s.erase k, contribution w (t.insert k r) k'
      = ∑ k' ∈ s.erase k, t.contribution w k' := by
    refine Finset.sum_congr rfl fun k' hk' => ?_
    rw [contribution_insert, if_neg (Finset.ne_of_mem_erase hk')]
  have hinsert : ∀ k' ∈ AList.keys (t.insert k r), k' ∈ s := by
    intro k' hk'
    rw [← AList.mem_keys, AList.mem_insert, AList.mem_keys] at hk'
    simp only [s, Finset.mem_insert, List.mem_toFinset]
    exact hk'
  rw [sum_eq_finset_sum w (t.insert k r) hinsert,
    sum_eq_finset_sum w t (s := s) (by simp [s]; tauto),
    ← Finset.add_sum_erase s _ hk, ← Finset.add_sum_erase s _ hk, hrest, contribution_insert,
    if_pos rfl]
  abel

section Order

variable [PartialOrder M] [IsOrderedAddMonoid M]

/-- Sums grow with the contributions. -/
theorem sum_le_sum {w w' : κ → ρ → M} {t t' : Table κ ρ}
    (h : ∀ k, t.contribution w k ≤ t'.contribution w' k) : t.sum w ≤ t'.sum w' := by
  let s : Finset κ := t.keys.toFinset ∪ t'.keys.toFinset
  rw [t.sum_eq_finset_sum w (s := s) (by simp [s]; tauto),
    t'.sum_eq_finset_sum w' (s := s) (by simp [s]; tauto)]
  exact Finset.sum_le_sum fun k _ => h k

/-- One row adds no more than the whole column. -/
theorem contribution_le_sum {w : κ → ρ → M} {t : Table κ ρ} {k : κ}
    (hnonneg : ∀ k, 0 ≤ t.contribution w k) : t.contribution w k ≤ t.sum w := by
  rw [t.sum_eq_finset_sum w (s := insert k t.keys.toFinset) (by simp; tauto)]
  exact Finset.single_le_sum (fun k _ => hnonneg k) (Finset.mem_insert_self k _)

end Order

end Sum

end Table

end Relational
