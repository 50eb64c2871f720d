import SeatFlow.Relational.Table

/-!
# Version chains

Rows that belong to an owner and carry a version: a new version supersedes the one
before and is named by it as its successor, and only the newest can be live. What such a
chain looks like is said once for any table, together with the three things that
happen to one: it starts empty, it grows by a version, and it is closed.
-/

namespace Relational

/-- How the rows of a table are read as versions. -/
structure Versioning (κ ρ τ : Type) where
  owner : ρ → τ
  version : ρ → Nat
  superseded : ρ → Prop
  live : ρ → Prop
  successor : ρ → Option κ

/-- The versions of `o` are `1 … n`, each of them once. All but the newest are superseded,
each by a later one, and the newest is live as long as the owner is. -/
structure Versioning.Chain {κ ρ τ : Type} [DecidableEq κ] (V : Versioning κ ρ τ) (t : Table κ ρ)
    (o : τ) (alive : Prop) (n : Nat) : Prop where
  versions : ∀ v, (∃ k r, t.lookup k = some r ∧ V.owner r = o ∧ V.version r = v) ↔ 1 ≤ v ∧ v ≤ n
  distinct : ∀ k r k' r', t.lookup k = some r → t.lookup k' = some r' → V.owner r = o →
    V.owner r' = o → V.version r = V.version r' → k = k'
  superseded : ∀ k r, t.lookup k = some r → V.owner r = o →
    (V.superseded r ↔ V.version r ≠ n)
  successor : ∀ k r, t.lookup k = some r → V.owner r = o → V.superseded r →
    ∃ k' r', V.successor r = some k' ∧ t.lookup k' = some r' ∧ V.owner r' = o ∧
      V.version r < V.version r'
  live : ∀ k r, t.lookup k = some r → V.owner r = o → (V.live r ↔ V.version r = n ∧ alive)

namespace Versioning

variable {κ ρ τ : Type} [DecidableEq κ] {V : Versioning κ ρ τ} {t t' : Table κ ρ} {o : τ}
  {alive alive' : Prop} {n : Nat}

/-- Without rows there are no versions. -/
theorem chain_nil (h : ∀ k r, t.lookup k = some r → V.owner r ≠ o) : V.Chain t o alive 0 where
  versions := by
    intro v
    constructor
    · rintro ⟨k, r, hlook, howner, -⟩
      exact absurd howner (h k r hlook)
    · rintro ⟨hpos, hle⟩
      omega
  distinct := fun k r _ _ hlook _ howner => absurd howner (h k r hlook)
  superseded := fun k r hlook howner => absurd howner (h k r hlook)
  successor := fun k r hlook howner => absurd howner (h k r hlook)
  live := fun k r hlook howner => absurd howner (h k r hlook)

namespace Chain

variable (h : V.Chain t o alive n)

include h

theorem version_pos {k : κ} {r : ρ} (hlook : t.lookup k = some r) (howner : V.owner r = o) :
    1 ≤ V.version r :=
  ((h.versions _).mp ⟨k, r, hlook, howner, rfl⟩).1

theorem version_le {k : κ} {r : ρ} (hlook : t.lookup k = some r) (howner : V.owner r = o) :
    V.version r ≤ n :=
  ((h.versions _).mp ⟨k, r, hlook, howner, rfl⟩).2

/-- While the owner is alive, a chain with no live row is empty. -/
theorem eq_zero (halive : alive) (hnone : ∀ k r, t.lookup k = some r → V.owner r = o →
    ¬V.live r) : n = 0 := by
  by_contra hpos
  obtain ⟨k, r, hlook, howner, hversion⟩ :=
    (h.versions n).mpr ⟨Nat.one_le_iff_ne_zero.mpr hpos, le_rfl⟩
  exact hnone k r hlook howner ((h.live k r hlook howner).mpr ⟨hversion, halive⟩)

theorem newest_of_live {k : κ} {r : ρ} (hlook : t.lookup k = some r) (howner : V.owner r = o)
    (hlive : V.live r) : V.version r = n :=
  ((h.live k r hlook howner).mp hlive).1

/-- At most one row is live. -/
theorem live_unique {k k' : κ} {r r' : ρ} (hlook : t.lookup k = some r)
    (hlook' : t.lookup k' = some r') (howner : V.owner r = o) (howner' : V.owner r' = o)
    (hlive : V.live r) (hlive' : V.live r') : k = k' := by
  refine h.distinct k r k' r' hlook hlook' howner howner' ?_
  rw [h.newest_of_live hlook howner hlive, h.newest_of_live hlook' howner' hlive']

/-- Only the owner's rows matter. -/
theorem congr (hsame : ∀ k r, V.owner r = o → (t.lookup k = some r ↔ t'.lookup k = some r)) :
    V.Chain t' o alive n where
  versions := by
    intro v
    rw [← h.versions v]
    constructor
    · rintro ⟨k, r, hlook, howner, hversion⟩
      exact ⟨k, r, (hsame k r howner).mpr hlook, howner, hversion⟩
    · rintro ⟨k, r, hlook, howner, hversion⟩
      exact ⟨k, r, (hsame k r howner).mp hlook, howner, hversion⟩
  distinct := fun k r k' r' hlook hlook' howner howner' =>
    h.distinct k r k' r' ((hsame k r howner).mpr hlook) ((hsame k' r' howner').mpr hlook') howner
      howner'
  superseded := fun k r hlook howner => h.superseded k r ((hsame k r howner).mpr hlook) howner
  successor := by
    intro k r hlook howner hsuperseded
    obtain ⟨k', r', hnext, hlook', howner', hlt⟩ :=
      h.successor k r ((hsame k r howner).mpr hlook) howner hsuperseded
    exact ⟨k', r', hnext, (hsame k' r' howner').mp hlook', howner', hlt⟩
  live := fun k r hlook howner => h.live k r ((hsame k r howner).mpr hlook) howner

/-- **Growing.** A new row takes the next version, and the newest one names it as its
successor; the other rows stay. -/
theorem grow {fresh : κ} {new : ρ} {g : κ → ρ → ρ} (hfresh : t.lookup fresh = none)
    (hnew : t'.lookup fresh = some new)
    (hrest : ∀ k, k ≠ fresh → t'.lookup k = (t.lookup k).map (g k))
    (howned : V.owner new = o) (hversion : V.version new = n + 1) (hcurrent : ¬V.superseded new)
    (hlive : V.live new ↔ alive)
    (hkeep : ∀ k r, t.lookup k = some r → V.owner (g k r) = V.owner r ∧
      V.version (g k r) = V.version r)
    (hold : ∀ k r, t.lookup k = some r → V.owner r = o → V.version r ≠ n → g k r = r)
    (hlast : ∀ k r, t.lookup k = some r → V.owner r = o → V.version r = n →
      V.superseded (g k r) ∧ V.successor (g k r) = some fresh ∧ ¬V.live (g k r)) :
    V.Chain t' o alive (n + 1) := by
  -- every row but the new one is an old one
  have hback : ∀ k r', t'.lookup k = some r' → V.owner r' = o → (k = fresh ∧ r' = new) ∨
      ∃ r, k ≠ fresh ∧ t.lookup k = some r ∧ r' = g k r ∧ V.owner r = o ∧
        V.version r' = V.version r := by
    intro k r' hlook howner
    by_cases hk : k = fresh
    · subst hk
      exact .inl ⟨rfl, Option.some.inj (hlook.symm.trans hnew)⟩
    · rw [hrest k hk, Option.map_eq_some_iff] at hlook
      obtain ⟨r, hr, rfl⟩ := hlook
      exact .inr ⟨r, hk, hr, rfl, (hkeep k r hr).1 ▸ howner, (hkeep k r hr).2⟩
  have hforth : ∀ k r, t.lookup k = some r → t'.lookup k = some (g k r) := by
    intro k r hr
    have hk : k ≠ fresh := by
      rintro rfl
      rw [hfresh] at hr
      cases hr
    rw [hrest k hk, hr]
    rfl
  constructor
  · intro v
    constructor
    · rintro ⟨k, r', hlook, howner, rfl⟩
      rcases hback k r' hlook howner with ⟨-, rfl⟩ | ⟨r, -, hr, -, hown, hsame⟩
      · omega
      · have hpos := h.version_pos hr hown
        have hle := h.version_le hr hown
        omega
    · rintro ⟨hpos, hle⟩
      by_cases hv : v = n + 1
      · exact ⟨fresh, new, hnew, howned, hversion.trans hv.symm⟩
      · obtain ⟨k, r, hr, hown, rfl⟩ := (h.versions v).mpr ⟨hpos, by omega⟩
        exact ⟨k, g k r, hforth k r hr, (hkeep k r hr).1.trans hown, (hkeep k r hr).2⟩
  · intro k₁ r₁ k₂ r₂ hlook₁ hlook₂ howner₁ howner₂ hsame
    rcases hback k₁ r₁ hlook₁ howner₁ with ⟨rfl, rfl⟩ | ⟨s₁, -, hs₁, -, hown₁, hv₁⟩ <;>
      rcases hback k₂ r₂ hlook₂ howner₂ with ⟨rfl, rfl⟩ | ⟨s₂, -, hs₂, -, hown₂, hv₂⟩
    · rfl
    · have hle := h.version_le hs₂ hown₂
      omega
    · have hle := h.version_le hs₁ hown₁
      omega
    · exact h.distinct k₁ s₁ k₂ s₂ hs₁ hs₂ hown₁ hown₂ (by omega)
  · intro k r' hlook howner
    rcases hback k r' hlook howner with ⟨-, rfl⟩ | ⟨r, -, hr, rfl, hown, hv⟩
    · simp [hcurrent, hversion]
    · have hle := h.version_le hr hown
      have hnewer : V.version (g k r) ≠ n + 1 := by omega
      refine iff_of_true ?_ hnewer
      by_cases hn : V.version r = n
      · exact (hlast k r hr hown hn).1
      · rw [hold k r hr hown hn]
        exact (h.superseded k r hr hown).mpr hn
  · intro k r' hlook howner hsuperseded
    rcases hback k r' hlook howner with ⟨-, rfl⟩ | ⟨r, -, hr, rfl, hown, hv⟩
    · exact absurd hsuperseded hcurrent
    · by_cases hn : V.version r = n
      · exact ⟨fresh, new, (hlast k r hr hown hn).2.1, hnew, howned, by omega⟩
      · rw [hold k r hr hown hn] at hsuperseded ⊢
        obtain ⟨k', s, hnext, hs, hown', hlt⟩ := h.successor k r hr hown hsuperseded
        refine ⟨k', g k' s, hnext, hforth k' s hs, (hkeep k' s hs).1.trans hown', ?_⟩
        rw [(hkeep k' s hs).2]
        exact hlt
  · intro k r' hlook howner
    rcases hback k r' hlook howner with ⟨-, rfl⟩ | ⟨r, -, hr, rfl, hown, hv⟩
    · simp [hlive, hversion]
    · have hle := h.version_le hr hown
      refine iff_of_false ?_ (fun hboth => by omega)
      by_cases hn : V.version r = n
      · exact (hlast k r hr hown hn).2.2
      · rw [hold k r hr hown hn, h.live k r hr hown]
        exact fun hboth => hn hboth.1

/-- **Closing.** No row is live any more, and nothing else about them changes. -/
theorem close {g : κ → ρ → ρ} (hmapped : t.Mapped g t')
    (hkeep : ∀ k r, t.lookup k = some r → V.owner (g k r) = V.owner r ∧
      V.version (g k r) = V.version r ∧ (V.superseded (g k r) ↔ V.superseded r) ∧
        V.successor (g k r) = V.successor r)
    (hclosed : ∀ k r, t.lookup k = some r → V.owner r = o → ¬V.live (g k r)) (halive : ¬alive') :
    V.Chain t' o alive' n where
  versions := by
    intro v
    rw [← h.versions v]
    constructor
    · rintro ⟨k, r', hlook, howner, hversion⟩
      obtain ⟨r, hr, rfl⟩ := hmapped.cases hlook
      obtain ⟨hown, hver, -⟩ := hkeep k r hr
      exact ⟨k, r, hr, hown ▸ howner, hver ▸ hversion⟩
    · rintro ⟨k, r, hr, howner, hversion⟩
      obtain ⟨hown, hver, -⟩ := hkeep k r hr
      exact ⟨k, g k r, hmapped.lookup hr, hown.trans howner, hver.trans hversion⟩
  distinct := by
    intro k₁ r₁ k₂ r₂ hlook₁ hlook₂ howner₁ howner₂ hsame
    obtain ⟨s₁, hs₁, rfl⟩ := hmapped.cases hlook₁
    obtain ⟨s₂, hs₂, rfl⟩ := hmapped.cases hlook₂
    obtain ⟨hown₁, hver₁, -⟩ := hkeep k₁ s₁ hs₁
    obtain ⟨hown₂, hver₂, -⟩ := hkeep k₂ s₂ hs₂
    exact h.distinct k₁ s₁ k₂ s₂ hs₁ hs₂ (hown₁ ▸ howner₁) (hown₂ ▸ howner₂)
      (hver₁.symm.trans (hsame.trans hver₂))
  superseded := by
    intro k r' hlook howner
    obtain ⟨r, hr, rfl⟩ := hmapped.cases hlook
    obtain ⟨hown, hver, hsup, -⟩ := hkeep k r hr
    rw [hsup, hver]
    exact h.superseded k r hr (hown ▸ howner)
  successor := by
    intro k r' hlook howner hsuperseded
    obtain ⟨r, hr, rfl⟩ := hmapped.cases hlook
    obtain ⟨hown, hver, hsup, hnext⟩ := hkeep k r hr
    obtain ⟨k', s, hs', hs, hown', hlt⟩ :=
      h.successor k r hr (hown ▸ howner) (hsup.mp hsuperseded)
    obtain ⟨hown₂, hver₂, -⟩ := hkeep k' s hs
    refine ⟨k', g k' s, hnext.trans hs', hmapped.lookup hs, hown₂.trans hown', ?_⟩
    rw [hver, hver₂]
    exact hlt
  live := by
    intro k r' hlook howner
    obtain ⟨r, hr, rfl⟩ := hmapped.cases hlook
    exact iff_of_false (hclosed k r hr ((hkeep k r hr).1 ▸ howner)) fun hboth => halive hboth.2

end Chain

end Versioning

end Relational
