import Mathlib.Logic.Equiv.Basic
import SeatFlow.Relational.Table

/-!
# Rows under a parent

Tables whose rows hang under a parent and are told apart there by a label and by their place in
an order, up to a limit: what an insertion, an update, a deletion and an exchange of two places
keep. Rows are counted by a column sum, so that a count does not depend on how the table is
enumerated.
-/

namespace Relational

variable {κ ρ : Type} [DecidableEq κ]

namespace Table

/-! ## §1 Counting rows -/

/-- `SELECT COUNT(*) WHERE p`. -/
def count (p : κ → ρ → Bool) (t : Table κ ρ) : Nat :=
  t.sum fun k r => if p k r then 1 else 0

omit [DecidableEq κ] in
theorem length_select (p : κ → ρ → Bool) (t : Table κ ρ) : (t.select p).length = t.count p := by
  unfold select count sum
  generalize t.rows = l
  induction l with
  | nil => rfl
  | cons e l ih =>
    rw [List.filter_cons, List.map_cons, List.sum_cons]
    beta_reduce
    cases p e.1 e.2 with
    | true => rw [if_pos rfl, if_pos rfl, List.length_cons, ih, Nat.add_comm]
    | false => rw [if_neg Bool.false_ne_true, if_neg Bool.false_ne_true, ih, Nat.zero_add]

theorem count_congr {p q : κ → ρ → Bool} {t : Table κ ρ}
    (h : ∀ k r, t.lookup k = some r → p k r = q k r) : t.count p = t.count q := by
  refine sum_congr fun k => ?_
  cases hlook : t.lookup k with
  | none => rw [contribution_none hlook, contribution_none hlook]
  | some r => rw [contribution_some hlook, contribution_some hlook, h k r hlook]

theorem count_eq_zero {p : κ → ρ → Bool} {t : Table κ ρ}
    (h : ∀ k r, t.lookup k = some r → p k r = false) : t.count p = 0 :=
  sum_eq_zero_of_rows fun k r hr => by rw [h k r hr]; rfl

theorem count_insert_new {p : κ → ρ → Bool} {t : Table κ ρ} {k : κ} {r : ρ}
    (h : t.lookup k = none) : count p (t.insert k r) = t.count p + if p k r then 1 else 0 := by
  have hsum := sum_insert (fun k r => if p k r then 1 else 0) t k r
  rwa [contribution_none h, Nat.add_zero] at hsum

theorem count_insert_same {p : κ → ρ → Bool} {t : Table κ ρ} {k : κ} {r r₀ : ρ}
    (h : t.lookup k = some r₀) (hp : p k r = p k r₀) : count p (t.insert k r) = t.count p := by
  have hsum := sum_insert (fun k r => if p k r then 1 else 0) t k r
  rw [contribution_some h, hp] at hsum
  exact Nat.add_right_cancel hsum

theorem lookup_erase_ite (t : Table κ ρ) (k k' : κ) :
    (t.erase k).lookup k' = if k' = k then none else t.lookup k' := by
  by_cases h : k' = k
  · subst h
    rw [AList.lookup_erase, if_pos rfl]
  · rw [AList.lookup_erase_ne h, if_neg h]

/-- A row that is left after a deletion was there before. -/
theorem lookup_of_erase {t : Table κ ρ} {k k' : κ} {r : ρ} (h : (t.erase k).lookup k' = some r) :
    k' ≠ k ∧ t.lookup k' = some r := by
  rw [lookup_erase_ite] at h
  split at h
  · cases h
  · exact ⟨‹_›, h⟩

theorem count_erase_le {p : κ → ρ → Bool} {t : Table κ ρ} {k : κ} :
    count p (t.erase k) ≤ t.count p := by
  refine sum_le_sum fun k' => ?_
  unfold contribution
  rw [lookup_erase_ite]
  split
  · exact Nat.zero_le _
  · exact Nat.le_refl _

/-- The removal of a row that a selection does not see. -/
theorem select_erase_of_not {p : κ → ρ → Bool} {t : Table κ ρ} {k : κ}
    (hold : ∀ r, t.lookup k = some r → p k r = false) : select p (t.erase k) = t.select p := by
  have herase : ∀ l : List (Sigma fun _ : κ => ρ), (∀ r, ⟨k, r⟩ ∈ l → p k r = false) →
      (((l.kerase k).map fun e => (e.1, e.2)).filter fun e => p e.1 e.2) =
        (l.map fun e => (e.1, e.2)).filter fun e => p e.1 e.2 := by
    intro l hl
    induction l with
    | nil => rfl
    | cons e l ih =>
      by_cases hk : k = e.1
      · subst hk
        have hmissed : p e.1 e.2 = false := hl e.2 List.mem_cons_self
        rw [List.kerase_cons_eq rfl, List.map_cons, List.filter_cons_of_neg (by simp [hmissed])]
      · rw [List.kerase_cons_ne hk, List.map_cons, List.map_cons, List.filter_cons,
          List.filter_cons, ih fun r hr => hl r (List.mem_cons_of_mem _ hr)]
  refine herase t.entries fun r hr => hold r ?_
  exact Option.mem_def.mp (AList.mem_lookup_iff.mpr hr)

/-- A row that is written comes first. -/
theorem select_insert (p : κ → ρ → Bool) (t : Table κ ρ) (k : κ) (r : ρ) :
    select p (t.insert k r) = (if p k r then [(k, r)] else []) ++ select p (t.erase k) := by
  have hentries : (AList.insert k r t).entries = ⟨k, r⟩ :: t.entries.kerase k := rfl
  unfold select rows
  rw [hentries, List.map_cons, List.filter_cons]
  split <;> rfl

/-- A write that a selection sees neither before nor after. -/
theorem select_insert_of_not {p : κ → ρ → Bool} {t : Table κ ρ} {k : κ} {r : ρ}
    (hold : ∀ r₀, t.lookup k = some r₀ → p k r₀ = false) (hnew : p k r = false) :
    select p (t.insert k r) = t.select p := by
  rw [select_insert, if_neg (by rw [hnew]; exact Bool.false_ne_true), List.nil_append,
    select_erase_of_not hold]

/-- A new row. -/
theorem select_insert_of_absent {p : κ → ρ → Bool} {t : Table κ ρ} {k : κ} {r : ρ}
    (habsent : t.lookup k = none) (hnew : p k r = true) :
    select p (t.insert k r) = (k, r) :: t.select p := by
  rw [select_insert, if_pos hnew, select_erase_of_not fun r₀ hr₀ => ?_]
  · rfl
  · rw [habsent] at hr₀
    cases hr₀

/-! ## §2 Siblings -/

/-- What a row is filed by. -/
structure Filing (ρ π lam : Type) where
  parent : ρ → π
  label : ρ → lam
  order : ρ → Int

variable {π lam : Type} [DecidableEq π] {F : Filing ρ π lam} {limit : Nat}

/-- The rows under one parent. -/
def children (F : Filing ρ π lam) (p : π) (t : Table κ ρ) : List (κ × ρ) :=
  t.select fun _ r => F.parent r == p

def childCount (F : Filing ρ π lam) (p : π) (t : Table κ ρ) : Nat :=
  t.count fun _ r => F.parent r == p

theorem mem_children {p : π} {t : Table κ ρ} {k : κ} {r : ρ} :
    (k, r) ∈ t.children F p ↔ t.lookup k = some r ∧ F.parent r = p := by
  unfold children
  rw [mem_select, beq_iff_eq]

omit [DecidableEq κ] in
theorem length_children {p : π} {t : Table κ ρ} : (t.children F p).length = t.childCount F p :=
  length_select _ _

theorem childCount_insert_le {p : π} {t : Table κ ρ} {k : κ} {r : ρ} (h : t.lookup k = none) :
    childCount F p (t.insert k r) ≤ t.childCount F p + 1 := by
  unfold childCount
  rw [count_insert_new h]
  split <;> omega

/-- A write under other parents. -/
theorem children_insert_of_ne {p : π} {t : Table κ ρ} {k : κ} {r : ρ}
    (hold : ∀ r₀, t.lookup k = some r₀ → F.parent r₀ ≠ p) (hnew : F.parent r ≠ p) :
    children F p (t.insert k r) = t.children F p :=
  select_insert_of_not (fun r₀ hr₀ => beq_eq_false_iff_ne.mpr (hold r₀ hr₀))
    (beq_eq_false_iff_ne.mpr hnew)

theorem children_erase_of_ne {p : π} {t : Table κ ρ} {k : κ}
    (hold : ∀ r, t.lookup k = some r → F.parent r ≠ p) :
    children F p (t.erase k) = t.children F p :=
  select_erase_of_not fun r hr => beq_eq_false_iff_ne.mpr (hold r hr)

/-- A new row is not seen under other parents. -/
theorem children_insert_elsewhere {p : π} {t : Table κ ρ} {k : κ} {r : ρ}
    (habsent : t.lookup k = none) (hne : p ≠ F.parent r) :
    children F p (t.insert k r) = t.children F p := by
  refine children_insert_of_ne (fun r₀ hr₀ => ?_) hne.symm
  rw [habsent] at hr₀
  cases hr₀

/-- A new row under its parent. -/
theorem children_insert_of_absent {p : π} {t : Table κ ρ} {k : κ} {r : ρ}
    (habsent : t.lookup k = none) (hnew : F.parent r = p) :
    children F p (t.insert k r) = (k, r) :: t.children F p :=
  select_insert_of_absent habsent (beq_iff_eq.mpr hnew)

/-- Rows under one parent differ in label and in order, and are at most `limit`. -/
structure Siblings (F : Filing ρ π lam) (limit : Nat) (t : Table κ ρ) : Prop where
  labels : ∀ k r k' r', t.lookup k = some r → t.lookup k' = some r' → F.parent r = F.parent r' →
    F.label r = F.label r' → k = k'
  orders : ∀ k r k' r', t.lookup k = some r → t.lookup k' = some r' → F.parent r = F.parent r' →
    F.order r = F.order r' → k = k'
  limited : ∀ p, t.childCount F p ≤ limit

variable {t : Table κ ρ}

/-- No other row under the parent of `r` has its label. -/
def Unlabelled (F : Filing ρ π lam) (k : κ) (r : ρ) (t : Table κ ρ) : Prop :=
  ∀ k' r', t.lookup k' = some r' → k' ≠ k → F.parent r' = F.parent r → F.label r' ≠ F.label r

/-- No other row under the parent of `r` has its place. -/
def Unplaced (F : Filing ρ π lam) (k : κ) (r : ρ) (t : Table κ ρ) : Prop :=
  ∀ k' r', t.lookup k' = some r' → k' ≠ k → F.parent r' = F.parent r → F.order r' ≠ F.order r

/-- A row that is written with a label and a place of its own. -/
theorem Siblings.write (h : t.Siblings F limit) {k : κ} {r : ρ} (hlabel : t.Unlabelled F k r)
    (hplace : t.Unplaced F k r) (hlimit : ∀ p, childCount F p (t.insert k r) ≤ limit) :
    Siblings F limit (t.insert k r) where
  labels := by
    intro k₁ r₁ k₂ r₂ h₁ h₂ hparent hsame
    rcases wrote_insert.cases h₁ with ⟨rfl, rfl⟩ | ⟨hne₁, hold₁⟩ <;>
      rcases wrote_insert.cases h₂ with ⟨rfl, rfl⟩ | ⟨hne₂, hold₂⟩
    · rfl
    · exact absurd hsame.symm (hlabel k₂ r₂ hold₂ hne₂ hparent.symm)
    · exact absurd hsame (hlabel k₁ r₁ hold₁ hne₁ hparent)
    · exact h.labels k₁ r₁ k₂ r₂ hold₁ hold₂ hparent hsame
  orders := by
    intro k₁ r₁ k₂ r₂ h₁ h₂ hparent hsame
    rcases wrote_insert.cases h₁ with ⟨rfl, rfl⟩ | ⟨hne₁, hold₁⟩ <;>
      rcases wrote_insert.cases h₂ with ⟨rfl, rfl⟩ | ⟨hne₂, hold₂⟩
    · rfl
    · exact absurd hsame.symm (hplace k₂ r₂ hold₂ hne₂ hparent.symm)
    · exact absurd hsame (hplace k₁ r₁ hold₁ hne₁ hparent)
    · exact h.orders k₁ r₁ k₂ r₂ hold₁ hold₂ hparent hsame
  limited := hlimit

theorem Siblings.insert (h : t.Siblings F limit) {k : κ} {r : ρ} (habsent : t.lookup k = none)
    (hlabel : t.Unlabelled F k r) (hplace : t.Unplaced F k r)
    (hroom : t.childCount F (F.parent r) < limit) : Siblings F limit (t.insert k r) := by
  refine h.write hlabel hplace fun p => ?_
  unfold childCount
  rw [count_insert_new habsent]
  by_cases hp : F.parent r = p
  · subst hp
    rw [if_pos (beq_self_eq_true _)]
    exact hroom
  · rw [if_neg (by simpa using hp)]
    exact h.limited p

theorem Siblings.update (h : t.Siblings F limit) {k : κ} {r r₀ : ρ} (hlook : t.lookup k = some r₀)
    (hparent : F.parent r = F.parent r₀) (hlabel : t.Unlabelled F k r)
    (hplace : t.Unplaced F k r) : Siblings F limit (t.insert k r) := by
  refine h.write hlabel hplace fun p => ?_
  unfold childCount
  rw [count_insert_same hlook (by rw [hparent])]
  exact h.limited p

theorem Siblings.erase (h : t.Siblings F limit) (k : κ) : Siblings F limit (t.erase k) where
  labels := fun k₁ r₁ k₂ r₂ h₁ h₂ =>
    h.labels k₁ r₁ k₂ r₂ (lookup_of_erase h₁).2 (lookup_of_erase h₂).2
  orders := fun k₁ r₁ k₂ r₂ h₁ h₂ =>
    h.orders k₁ r₁ k₂ r₂ (lookup_of_erase h₁).2 (lookup_of_erase h₂).2
  limited := fun p => count_erase_le.trans (h.limited p)

/-- A row keeps its own place. -/
theorem Siblings.unplaced (h : t.Siblings F limit) {k : κ} {r r₀ : ρ} (hlook : t.lookup k = some r₀)
    (hparent : F.parent r = F.parent r₀) (horder : F.order r = F.order r₀) : t.Unplaced F k r := by
  intro k' r' hr' hne hsame hplace
  exact hne (h.orders k' r' k r₀ hr' hlook (hsame.trans hparent) (hplace.trans horder))

/-- Two rows are replaced: what the new rows share with the old ones is as before. -/
theorem map_lookup_exchange {α : Type} {f : ρ → α} {k₁ k₂ : κ} {r₁ r₂ r₁' r₂' : ρ}
    (h₁ : t.lookup k₁ = some r₁) (h₂ : t.lookup k₂ = some r₂) (hf₁ : f r₁' = f r₁)
    (hf₂ : f r₂' = f r₂) (k : κ) :
    (((t.insert k₁ r₁').insert k₂ r₂').lookup k).map f = (t.lookup k).map f := by
  rw [lookup_insert_ite, lookup_insert_ite]
  by_cases hk₂ : k = k₂
  · rw [if_pos hk₂, hk₂, h₂, Option.map_some, Option.map_some, hf₂]
  · rw [if_neg hk₂]
    by_cases hk₁ : k = k₁
    · rw [if_pos hk₁, hk₁, h₁, Option.map_some, Option.map_some, hf₁]
    · rw [if_neg hk₁]

/-- Two rows under one parent exchange their places. -/
theorem Siblings.exchange (h : t.Siblings F limit) {k₁ k₂ : κ} {r₁ r₂ r₁' r₂' : ρ} (hne : k₁ ≠ k₂)
    (h₁ : t.lookup k₁ = some r₁) (h₂ : t.lookup k₂ = some r₂) (hparent : F.parent r₁ = F.parent r₂)
    (hparent₁ : F.parent r₁' = F.parent r₁) (hparent₂ : F.parent r₂' = F.parent r₂)
    (hlabel₁ : F.label r₁' = F.label r₁) (hlabel₂ : F.label r₂' = F.label r₂)
    (horder₁ : F.order r₁' = F.order r₂) (horder₂ : F.order r₂' = F.order r₁) :
    Siblings F limit ((t.insert k₁ r₁').insert k₂ r₂') := by
  -- each row has the label of its old self and the place of the one it is exchanged with
  have hself : ∀ k r', ((t.insert k₁ r₁').insert k₂ r₂').lookup k = some r' →
      ∃ r, t.lookup k = some r ∧ F.parent r' = F.parent r ∧ F.label r' = F.label r := by
    intro k r' hr'
    rcases wrote_insert.cases hr' with ⟨rfl, rfl⟩ | ⟨-, hr'⟩
    · exact ⟨r₂, h₂, hparent₂, hlabel₂⟩
    · rcases wrote_insert.cases hr' with ⟨rfl, rfl⟩ | ⟨-, hr'⟩
      · exact ⟨r₁, h₁, hparent₁, hlabel₁⟩
      · exact ⟨r', hr', rfl, rfl⟩
  have hother : ∀ k r', ((t.insert k₁ r₁').insert k₂ r₂').lookup k = some r' →
      ∃ r, t.lookup (Equiv.swap k₁ k₂ k) = some r ∧ F.parent r' = F.parent r ∧
        F.order r' = F.order r := by
    intro k r' hr'
    rcases wrote_insert.cases hr' with ⟨rfl, rfl⟩ | ⟨hk₂, hr'⟩
    · exact ⟨r₁, by rwa [Equiv.swap_apply_right], hparent₂.trans hparent.symm, horder₂⟩
    · rcases wrote_insert.cases hr' with ⟨rfl, rfl⟩ | ⟨hk₁, hr'⟩
      · exact ⟨r₂, by rwa [Equiv.swap_apply_left], hparent₁.trans hparent, horder₁⟩
      · exact ⟨r', by rwa [Equiv.swap_apply_of_ne_of_ne hk₁ hk₂], rfl, rfl⟩
  refine ⟨?_, ?_, fun p => ?_⟩
  · intro k r k' r' hr hr' hsame hname
    obtain ⟨s, hs, hsparent, hslabel⟩ := hself k r hr
    obtain ⟨s', hs', hsparent', hslabel'⟩ := hself k' r' hr'
    exact h.labels k s k' s' hs hs' (by rw [← hsparent, hsame, hsparent'])
      (by rw [← hslabel, hname, hslabel'])
  · intro k r k' r' hr hr' hsame hplace
    obtain ⟨s, hs, hsparent, hsorder⟩ := hother k r hr
    obtain ⟨s', hs', hsparent', hsorder'⟩ := hother k' r' hr'
    refine (Equiv.swap k₁ k₂).injective (h.orders _ s _ s' hs hs' ?_ ?_)
    · rw [← hsparent, hsame, hsparent']
    · rw [← hsorder, hplace, hsorder']
  · have hsecond : (t.insert k₁ r₁').lookup k₂ = some r₂ := by
      rw [AList.lookup_insert_ne hne.symm, h₂]
    unfold childCount
    rw [count_insert_same hsecond (by rw [hparent₂]), count_insert_same h₁ (by rw [hparent₁])]
    exact h.limited p

/-! ## §3 Lists of rows -/

/-- Rows of a table differ in a column exactly when the column tells their keys apart. -/
theorem nodup_column {α : Type} {f : ρ → α} {l : List (κ × ρ)} (hl : l.Nodup)
    (hrows : ∀ e ∈ l, t.lookup e.1 = some e.2) :
    (l.map fun e => f e.2).Nodup ↔
      ∀ k r k' r', (k, r) ∈ l → (k', r') ∈ l → f r = f r' → k = k' := by
  rw [List.nodup_map_iff_inj_on hl]
  constructor
  · intro h k r k' r' hr hr' hsame
    exact congrArg Prod.fst (h (k, r) hr (k', r') hr' hsame)
  · rintro h ⟨k, r⟩ hr ⟨k', r'⟩ hr' hsame
    have hkey := h k r k' r' hr hr' hsame
    subst hkey
    have hlook : t.lookup k = some r := hrows (k, r) hr
    have hlook' : t.lookup k = some r' := hrows (k, r') hr'
    rw [Option.some.inj (hlook.symm.trans hlook')]

omit [DecidableEq κ] in
theorem nodup_children (p : π) (t : Table κ ρ) : (t.children F p).Nodup :=
  List.Nodup.of_map Prod.fst (nodup_select_fst _ t)

end Table

end Relational
