import SeatFlow.Relational.Entity

/-!
# Coherent tables

What the constraints of a table come to when a row is written: a condition on the
row itself, a condition on it and each other row (the unique indexes), what an
`INSERT` needs of the rest of the state and what an `UPDATE` may not change. A
table whose every row was admitted that way is coherent: its rows are valid and
any two of them compatible. Over a coherent table an update is admitted as soon
as the new row is valid and the update changes nothing that is protected, so a
transaction can be shown to commit without looking at the constraints again.
-/

namespace Relational

/-- Every row is valid, and any two are compatible. -/
structure Table.Coherent {κ ρ : Type} [DecidableEq κ] (ok : ρ → Prop) (apart : ρ → ρ → Prop)
    (t : Table κ ρ) : Prop where
  row : ∀ k r, t.lookup k = some r → ok r
  apart : ∀ k r k' r', t.lookup k = some r → t.lookup k' = some r' → k ≠ k' → apart r r'

namespace Table

variable {κ ρ : Type} [DecidableEq κ] {ok : ρ → Prop} {apart : ρ → ρ → Prop} {t t' : Table κ ρ}

theorem coherent_empty : Coherent ok apart (∅ : Table κ ρ) where
  row := fun k r hr => by simp at hr
  apart := fun k r k' r' hr => by simp at hr

/-- Coherence looks at the rows, not at their order. -/
theorem coherent_of_lookup (ht : Coherent ok apart t) (h : ∀ k, t'.lookup k = t.lookup k) :
    Coherent ok apart t' where
  row := fun k r hr => ht.row k r (h k ▸ hr)
  apart := fun k r k' r' hr hr' => ht.apart k r k' r' (h k ▸ hr) (h k' ▸ hr')

/-- Writing a valid row that is compatible with the others. -/
theorem Coherent.wrote (ht : Coherent ok apart t) (hsymm : ∀ r r', apart r r' → apart r' r)
    {k : κ} {r : ρ} (hwrote : t.Wrote k r t') (hok : ok r)
    (hr : ∀ k' r', t.lookup k' = some r' → k' ≠ k → apart r' r) : Coherent ok apart t' where
  row := by
    intro k₁ r₁ hlook
    rcases hwrote.cases hlook with ⟨-, rfl⟩ | ⟨-, hold⟩
    · exact hok
    · exact ht.row k₁ r₁ hold
  apart := by
    intro k₁ r₁ k₂ r₂ hlook hlook' hne
    rcases hwrote.cases hlook with ⟨rfl, rfl⟩ | ⟨hne₁, hold⟩ <;>
      rcases hwrote.cases hlook' with ⟨rfl, rfl⟩ | ⟨hne₂, hold'⟩
    · exact absurd rfl hne
    · exact hsymm _ _ (hr k₂ r₂ hold' hne₂)
    · exact hr k₁ r₁ hold hne₁
    · exact ht.apart k₁ r₁ k₂ r₂ hold hold' hne

theorem Coherent.insert (ht : Coherent ok apart t) (hsymm : ∀ r r', apart r r' → apart r' r)
    {k : κ} {r : ρ} (hok : ok r) (hr : ∀ k' r', t.lookup k' = some r' → k' ≠ k → apart r' r) :
    Coherent ok apart (t.insert k r) :=
  ht.wrote hsymm wrote_insert hok hr

theorem coherent_singleton {k : κ} {r : ρ} (hok : ok r) :
    Coherent ok apart (AList.singleton k r : Table κ ρ) := by
  have honly : ∀ k₁ r₁, (AList.singleton k r : Table κ ρ).lookup k₁ = some r₁ →
      k₁ = k ∧ r₁ = r := by
    intro k₁ r₁ hlook
    rw [← AList.insert_empty] at hlook
    rcases wrote_insert.cases hlook with hnew | ⟨-, hold⟩
    · exact hnew
    · simp at hold
  constructor
  · intro k₁ r₁ hlook
    rwa [(honly k₁ r₁ hlook).2]
  · intro k₁ r₁ k₂ r₂ hlook hlook' hne
    exact absurd ((honly k₁ r₁ hlook).1.trans (honly k₂ r₂ hlook').1.symm) hne

/-- Mapping every row to a valid one that is compatible with what the old row was
compatible with. -/
theorem Coherent.mapped (ht : Coherent ok apart t) (hsymm : ∀ r r', apart r r' → apart r' r)
    {f : κ → ρ → ρ} (hmapped : Mapped t f t')
    (hok : ∀ k r, t.lookup k = some r → ok (f k r))
    (hapart : ∀ k r x, t.lookup k = some r → apart r x → apart (f k r) x) :
    Coherent ok apart t' where
  row := by
    intro k r' hlook
    obtain ⟨r, hr, rfl⟩ := hmapped.cases hlook
    exact hok k r hr
  apart := by
    intro k r' k₂ r₂' hlook hlook' hne
    obtain ⟨r, hr, rfl⟩ := hmapped.cases hlook
    obtain ⟨r₂, hr₂, rfl⟩ := hmapped.cases hlook'
    have hold := hapart k r r₂ hr (ht.apart k r k₂ r₂ hr hr₂ hne)
    exact hsymm _ _ (hapart k₂ r₂ _ hr₂ (hsymm _ _ hold))

/-- Every row is still there, up to `same`. -/
def Keeps (same : ρ → ρ → Prop) (t t' : Table κ ρ) : Prop :=
  ∀ k r, t.lookup k = some r → ∃ r', t'.lookup k = some r' ∧ same r r'

theorem keeps_refl {same : ρ → ρ → Prop} (hrefl : ∀ r, same r r) (t : Table κ ρ) : Keeps same t t :=
  fun _ r hr => ⟨r, hr, hrefl r⟩

theorem Keeps.trans {same : ρ → ρ → Prop} {t₁ t₂ t₃ : Table κ ρ} (h : Keeps same t₁ t₂)
    (htrans : ∀ a b c, same a b → same b c → same a c) (h' : Keeps same t₂ t₃) :
    Keeps same t₁ t₃ := by
  intro k r hr
  obtain ⟨r', hr', hsame⟩ := h k r hr
  obtain ⟨r'', hr'', hsame'⟩ := h' k r' hr'
  exact ⟨r'', hr'', htrans _ _ _ hsame hsame'⟩

theorem keeps_insert {same : ρ → ρ → Prop} (hrefl : ∀ r, same r r) {k : κ} {new : ρ}
    (hsame : ∀ r, t.lookup k = some r → same r new) : Keeps same t (t.insert k new) := by
  intro k' r hr
  rw [lookup_insert_ite]
  split
  · rename_i hk
    exact ⟨new, rfl, hsame r (hk ▸ hr)⟩
  · exact ⟨r, hr, hrefl r⟩

theorem Mapped.keeps {same : ρ → ρ → Prop} {f : κ → ρ → ρ} (h : Mapped t f t')
    (hsame : ∀ k r, t.lookup k = some r → same r (f k r)) : Keeps same t t' :=
  fun k r hr => ⟨f k r, h.lookup hr, hsame k r hr⟩

end Table

/-- The constraints of an entity, taken apart. -/
structure Entity.Constraints {σ κ ω ε τ ρ : Type} [Store σ κ ω] [DecidableEq τ]
    (E : Entity σ κ ω ε τ ρ) where
  ok : ρ → Prop
  apart : ρ → ρ → Prop
  start : σ → ρ → Prop
  keep : σ → τ → ρ → ρ → Prop
  symm : ∀ r r', apart r r' → apart r' r
  validate_iff : ∀ s id old new, E.validate s id old new = .ok () ↔
    ok new ∧ (∀ k r, (E.get s).lookup k = some r → k ≠ id → apart r new) ∧
      old.elim (start s new) fun r => keep s id r new

namespace Entity.Constraints

open Program

variable {σ κ ω ε τ ρ : Type} [Store σ κ ω] [DecidableEq τ] {E : Entity σ κ ω ε τ ρ}
  (C : E.Constraints) {s : σ} {id : τ} {r new : ρ}

abbrev Coherent (s : σ) : Prop :=
  (E.get s).Coherent C.ok C.apart

variable {C}

theorem ok_of_validate {old : Option ρ} (h : E.validate s id old new = .ok ()) : C.ok new :=
  ((C.validate_iff s id old new).mp h).1

theorem start_of_validate (h : E.validate s id none new = .ok ()) : C.start s new :=
  ((C.validate_iff s id none new).mp h).2.2

theorem keep_of_validate (h : E.validate s id (some r) new = .ok ()) : C.keep s id r new :=
  ((C.validate_iff s id (some r) new).mp h).2.2

theorem coherent_congr {s' : σ} (h : E.get s' = E.get s) (hs : C.Coherent s) : C.Coherent s' := by
  rwa [Coherent, h]

/-- **An admitted write** keeps the table coherent. -/
theorem coherent_insert (hs : C.Coherent s) {old : Option ρ}
    (h : E.validate s id old new = .ok ()) :
    Table.Coherent C.ok C.apart ((E.get s).insert id new) :=
  hs.insert C.symm (ok_of_validate h) ((C.validate_iff s id old new).mp h).2.1

/-- An update of a coherent table is admitted if the new row is valid, collides
with nothing that the old row did not collide with, and keeps what is protected. -/
theorem validate_update (hs : C.Coherent s) (hlook : (E.get s).lookup id = some r) (hok : C.ok new)
    (hsame : ∀ x, C.apart x r → C.apart x new) (hkeep : C.keep s id r new) :
    E.validate s id (some r) new = .ok () := by
  refine (C.validate_iff s id (some r) new).mpr ⟨hok, fun k x hx hne => ?_, hkeep⟩
  exact hsame x (hs.apart k x id r hx hlook hne)

end Entity.Constraints

end Relational
