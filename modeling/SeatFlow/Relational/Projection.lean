import SeatFlow.Relational.Entity
import SeatFlow.Relational.Interference

/-!
# Tables under interference

One table of the state, as it is seen through the writes of a transaction that
has not committed. `overlay` is the part of the transaction's own view that its
writes decide; the rows under it are locked, so others leave them alone
(`Discipline.Others.lookup_eq`). The rules of §3 are the statement forms of
`Relational.Entity` under interference.
-/

namespace Relational

open Isolation

/-- A table of the state, with the writes that concern it. -/
structure Projection (σ κ ω τ ρ : Type) [Store σ κ ω] [DecidableEq τ] where
  get : σ → Table τ ρ
  lockKey : τ → κ
  rowPut : ω → Option (τ × ρ)
  get_apply : ∀ w s, get (Store.apply w s) =
    match rowPut w with
    | some (k, r) => (get s).insert k r
    | none => get s
  key_rowPut : ∀ w k r, rowPut w = some (k, r) → Store.key σ w = some (lockKey k)

namespace Projection

variable {σ κ ω ν ε α β τ ρ : Type} [Store σ κ ω] [DecidableEq τ] (P : Projection σ κ ω τ ρ)

/-! ## §1 Writes seen through a table -/

/-- The row version that the writes leave under `k`, if they write it. -/
def overlay : List ω → τ → Option ρ
  | [], _ => none
  | w :: writes, k =>
      (overlay writes k).or ((P.rowPut w).bind fun e => if e.1 = k then some e.2 else none)

variable {P}

theorem lookup_applyAll (writes : List ω) (s : σ) (k : τ) :
    (P.get (applyAll writes s)).lookup k = (P.overlay writes k).or ((P.get s).lookup k) := by
  induction writes generalizing s with
  | nil => rfl
  | cons w writes ih =>
      show (P.get (applyAll writes (Store.apply w s))).lookup k = _
      rw [ih, P.get_apply, overlay, Option.or_assoc]
      congr 1
      cases hput : P.rowPut w with
      | none => rfl
      | some e =>
          by_cases hk : e.1 = k
          · subst hk
            simp
          · have hk' : k ≠ e.1 := fun h => hk h.symm
            simp [hk, AList.lookup_insert_ne hk']

/-- What the writes leave is one of them. -/
theorem exists_of_overlay {writes : List ω} {k : τ} {r : ρ} (h : P.overlay writes k = some r) :
    ∃ w ∈ writes, P.rowPut w = some (k, r) := by
  induction writes with
  | nil => cases h
  | cons w writes ih =>
      rcases Option.or_eq_some_iff.mp h with h | ⟨-, h⟩
      · obtain ⟨w', hw', hput⟩ := ih h
        exact ⟨w', List.mem_cons_of_mem w hw', hput⟩
      · refine ⟨w, List.mem_cons_self, ?_⟩
        obtain ⟨e, hput, hif⟩ := Option.bind_eq_some_iff.mp h
        split at hif
        · rename_i hk
          cases hif
          rw [hput, ← hk]
        · cases hif

theorem overlay_eq_none {writes : List ω} {k : τ}
    (h : ∀ w ∈ writes, ∀ e, P.rowPut w = some e → e.1 ≠ k) : P.overlay writes k = none := by
  cases hover : P.overlay writes k with
  | none => rfl
  | some r =>
      obtain ⟨w, hw, hput⟩ := exists_of_overlay hover
      exact absurd rfl (h w hw (k, r) hput)

/-- Writes that do not concern the table leave it as it is. -/
theorem get_applyAll_of_silent {writes : List ω} (h : ∀ w ∈ writes, P.rowPut w = none) (s : σ) :
    P.get (applyAll writes s) = P.get s := by
  induction writes generalizing s with
  | nil => rfl
  | cons w writes ih =>
      show P.get (applyAll writes (Store.apply w s)) = _
      rw [ih (fun w' hw' => h w' (List.mem_cons_of_mem w hw')), P.get_apply,
        h w List.mem_cons_self]

variable [Indexed ω ν]

/-- The writes take each row from its committed version to one related to it. -/
def Alters (P : Projection σ κ ω τ ρ) (R : τ → Option ρ → ρ → Prop) (writes : List ω) (s : σ) :
    Prop :=
  ∀ k r, P.overlay writes k = some r → R k ((P.get s).lookup k) r

omit [Indexed ω ν] in
/-- What a row was committed as and what the writes leave it as. -/
theorem Alters.cases {R : τ → Option ρ → ρ → Prop} {writes : List ω} {s : σ} {k : τ} {r : ρ}
    (h : P.Alters R writes s) (hlook : (P.get (applyAll writes s)).lookup k = some r) :
    (P.overlay writes k = none ∧ (P.get s).lookup k = some r) ∨
      (P.overlay writes k = some r ∧ R k ((P.get s).lookup k) r) := by
  rw [lookup_applyAll] at hlook
  rcases Option.or_eq_some_iff.mp hlook with hover | ⟨hover, hold⟩
  · exact .inr ⟨hover, h k r hover⟩
  · exact .inl ⟨hover, hold⟩

end Projection

/-! ## §2 What others leave alone -/

namespace Discipline

variable {σ κ ω ν ε α β τ ρ : Type} [Store σ κ ω] [Indexed ω ν] [DecidableEq τ]
  {P : Projection σ κ ω τ ρ} {D : Discipline σ κ ω ν} {s s' : σ}

omit [Indexed ω ν] in
/-- A commit that avoids a row does not change it. -/
theorem lookup_applyAll_of_avoiding {mine locks : List (Lock κ ν)} {writes : List ω} {k : τ}
    (h : Avoiding σ mine locks writes) (hk : .row (P.lockKey k) ∈ mine) (s : σ) :
    (P.get (applyAll writes s)).lookup k = (P.get s).lookup k := by
  rw [Projection.lookup_applyAll, Projection.overlay_eq_none, Option.none_or]
  rintro w hw ⟨k', r⟩ hput rfl
  exact h w hw _ (P.key_rowPut w _ r hput) hk

/-- **Locked rows are stable.** -/
theorem Others.lookup_eq {mine : List (Lock κ ν)} {k : τ}
    (h : D.Others (Avoiding σ mine) s s') (hk : .row (P.lockKey k) ∈ mine) :
    (P.get s').lookup k = (P.get s).lookup k := by
  refine h.stable (A := fun t => (P.get t).lookup k = (P.get s).lookup k) rfl ?_
  intro locks writes t _ _ havoid _ ht
  rw [lookup_applyAll_of_avoiding havoid hk, ht]

/-- A table that nobody writes. -/
theorem Others.get_eq {ok : List (Lock κ ν) → List ω → Prop} (h : D.Others ok s s')
    (hsilent : ∀ locks writes t, D.Permits locks writes t → ∀ w ∈ writes, P.rowPut w = none) :
    P.get s' = P.get s := by
  refine h.stable (A := fun t => P.get t = P.get s) rfl ?_
  intro locks writes t _ _ _ hpermits ht
  rw [Projection.get_applyAll_of_silent (hsilent locks writes t hpermits), ht]

end Discipline

/-! ## §3 Statements under interference -/

namespace Entity

open Discipline

variable {σ κ ω ν ε α β τ ρ : Type} [Store σ κ ω] [Indexed ω ν] [DecidableEq τ]
  {E : Entity σ κ ω ε τ ρ} {D : Discipline σ κ ω ν} {s : σ} {writes : List ω}
  {locks : List (Lock κ ν)} {Q : Post α σ κ ω ν}

omit [Indexed ω ν] in
theorem emits_insert {id : τ} {row : ρ} {A : ω → Prop} (h : A (E.put id row)) :
    (E.insert id row).Emits A := by
  refine Program.emits_perform fun v eff heff w hw => ?_
  simp only [Except.bind_unit_eq_ok, ensure_eq_ok] at heff
  obtain ⟨-, -, ⟨⟩⟩ := heff
  rw [List.mem_singleton.mp hw]
  exact h

omit [Indexed ω ν] in
theorem emits_insertNew {id : τ} {row : ρ} {A : ω → Prop} (h : A (E.put id row)) :
    (E.insertNew id row).Emits A := by
  refine Program.emits_perform fun v eff heff w hw => ?_
  split at heff
  · cases heff
    cases hw
  · obtain ⟨-, ⟨⟩⟩ := Except.bind_unit_eq_ok.mp heff
    rw [List.mem_singleton.mp hw]
    exact h

omit [Indexed ω ν] in
theorem emits_find {id : τ} {A : ω → Prop} : (E.find id).Emits A :=
  Program.emits_read

omit [Indexed ω ν] in
theorem emits_findMany {p : τ → ρ → Bool} {A : ω → Prop} : (E.findMany p).Emits A :=
  Program.emits_read

omit [Indexed ω ν] in
theorem emits_findOrThrow {id : τ} {missing : ε} {A : ω → Prop} :
    (E.findOrThrow id missing).Emits A :=
  emits_find.bind fun _ => Program.emits_orThrow

omit [Indexed ω ν] in
theorem emits_lock {id : τ} {A : ω → Prop} : (E.lock id).Emits A := by
  refine Program.emits_perform fun v eff heff w hw => ?_
  obtain rfl := (Except.ok.inj heff).symm
  split at hw <;> cases hw

omit [Indexed ω ν] in
theorem emits_lockMany {p : τ → ρ → Bool} {A : ω → Prop} : (E.lockMany p).Emits A := by
  refine Program.emits_perform ?_
  rintro v eff ⟨⟩ w hw
  cases hw

omit [Indexed ω ν] in
theorem emits_updateWhen {id : τ} {p : ρ → Bool} {g : ρ → ρ} {A : ω → Prop}
    (h : ∀ r, A (E.put id (g r))) : (E.updateWhen id p g).Emits A := by
  refine Program.emits_perform fun v eff heff w hw => ?_
  split at heff
  · cases heff
    cases hw
  · split at heff
    · cases heff
      cases hw
    · obtain ⟨-, ⟨⟩⟩ := Except.bind_unit_eq_ok.mp heff
      rw [List.mem_singleton.mp hw]
      exact h _

omit [Indexed ω ν] in
theorem emits_update {id : τ} {g : ρ → ρ} {missing : ε} {A : ω → Prop}
    (h : ∀ r, A (E.put id (g r))) : (E.update id g missing).Emits A :=
  (emits_updateWhen h).bind fun _ => Program.emits_orThrow

omit [Indexed ω ν] in
/-- An update that completes has written its row. -/
theorem yields_update {id : τ} {g : ρ → ρ} {missing : ε} :
    (E.update id g missing).Yields fun row written =>
      ∃ r, row = g r ∧ written = [E.put id (g r)] := by
  refine Program.yields_bind fun v eff heff => ?_
  beta_reduce at heff
  split at heff
  · cases heff
    trivial
  · split at heff
    · cases heff
      trivial
    · obtain ⟨-, ⟨⟩⟩ := Except.bind_unit_eq_ok.mp heff
      exact ⟨_, rfl, rfl⟩

omit [Indexed ω ν] in
theorem emits_updateMany {p : τ → ρ → Bool} {g : τ → ρ → ρ} {A : ω → Prop}
    (h : ∀ k r, A (E.put k (g k r))) : (E.updateMany p g).Emits A := by
  refine Program.emits_perform fun v eff heff w hw => ?_
  obtain ⟨-, ⟨⟩⟩ := Except.bind_unit_eq_ok.mp heff
  obtain ⟨e, -, rfl⟩ := List.mem_map.mp hw
  exact h e.1 e.2

omit [Indexed ω ν] in
theorem mem_recheck {v : View σ κ} {p : τ → ρ → Bool} {k : τ} {r : ρ} :
    (k, r) ∈ E.recheck v p ↔
      (∃ old, (E.get v.snapshot).lookup k = some old ∧ p k old = true) ∧
        (E.get v.current).lookup k = some r ∧ p k r = true := by
  unfold recheck
  simp only [List.mem_filterMap, Option.map_eq_some_iff, Prod.mk.injEq, Option.filter_eq_some_iff]
  constructor
  · rintro ⟨⟨k', old⟩, hmem, r', ⟨hlook, hp⟩, rfl, rfl⟩
    exact ⟨⟨old, Table.mem_select.mp hmem⟩, hlook, hp⟩
  · rintro ⟨⟨old, hold⟩, hlook, hp⟩
    exact ⟨(k, old), Table.mem_select.mpr hold, r, ⟨hlook, hp⟩, rfl, rfl⟩

omit [Indexed ω ν] in
theorem nodup_recheck (E : Entity σ κ ω ε τ ρ) (v : View σ κ) (p : τ → ρ → Bool) :
    ((E.recheck v p).map Prod.fst).Nodup := by
  have hsub : ∀ l : List (τ × ρ), List.Sublist ((l.filterMap fun e =>
      (((E.get v.current).lookup e.1).filter (p e.1)).map fun r => (e.1, r)).map Prod.fst)
        (l.map Prod.fst) := by
    intro l
    induction l with
    | nil => exact List.Sublist.refl []
    | cons e l ih =>
        rw [List.filterMap_cons, List.map_cons]
        cases ((E.get v.current).lookup e.1).filter (p e.1) with
        | none => exact ih.cons e.1
        | some r => exact ih.cons_cons e.1
  exact (Table.nodup_select_fst p (E.get v.snapshot)).sublist (hsub _)

theorem wp_find {id : τ} {f : Option ρ → Program σ κ ω ε α}
    (h : ∀ s₁, D.Others (Apart locks) s s₁ →
      D.Wp (f ((E.get (applyAll writes s₁)).lookup id)) s₁ writes locks Q) :
    D.Wp (E.find id >>= f) s writes locks Q :=
  wp_read h

theorem wp_findMany {p : τ → ρ → Bool} {f : List (τ × ρ) → Program σ κ ω ε α}
    (h : ∀ s₁, D.Others (Apart locks) s s₁ →
      D.Wp (f ((E.get (applyAll writes s₁)).select p)) s₁ writes locks Q) :
    D.Wp (E.findMany p >>= f) s writes locks Q :=
  wp_read h

theorem wp_findOrThrow {id : τ} {missing : ε} {f : ρ → Program σ κ ω ε α}
    (h : ∀ s₁, D.Others (Apart locks) s s₁ → ∀ r,
      (E.get (applyAll writes s₁)).lookup id = some r → D.Wp (f r) s₁ writes locks Q) :
    D.Wp (E.findOrThrow id missing >>= f) s writes locks Q := by
  rw [wp_bind, findOrThrow]
  refine wp_find fun s₁ h₁ => ?_
  exact wp_bind.mp (wp_orThrow (h s₁ h₁))

/-- `SELECT … FOR UPDATE`: the locked rows stay locked. -/
theorem wp_lockMany {p : τ → ρ → Bool} {f : List (τ × ρ) → Program σ κ ω ε α}
    (h : ∀ s₁, D.Others (Apart locks) s s₁ → ∀ s₂, D.Others (Apart locks) s₁ s₂ →
      ∀ busy locks', (∀ l ∈ locks, l ∈ locks') →
        (∀ k r, (E.get (applyAll writes s₁)).lookup k = some r → p k r = true →
          .row (E.lockKey k) ∈ locks') →
        D.Wp (f (E.recheck ⟨applyAll writes s₁, applyAll writes s₂, busy⟩ p)) s₂ writes locks' Q) :
    D.Wp (E.lockMany p >>= f) s writes locks Q := by
  refine wp_perform ?_
  rintro s₁ h₁ s₂ h₂ - - busy eff ⟨⟩
  rw [List.append_nil]
  refine h s₁ h₁ s₂ h₂ busy _ (fun l hl => List.mem_append_left _ hl) fun k r hlook hp => ?_
  refine List.mem_append_right _ ?_
  simp only [taken, writtenRows, List.filterMap_nil, List.append_nil, List.flatMap_nil,
    List.map_nil, List.map_map, List.mem_map, Function.comp_apply]
  exact ⟨(k, r), Table.mem_select.mpr ⟨hlook, hp⟩, rfl⟩

/-- The new row and its index entries are locked. -/
theorem wp_insert {id : τ} {row : ρ} {f : Unit → Program σ κ ω ε α}
    (h : ∀ s₁, D.Others (Apart locks) s s₁ → (E.get (applyAll writes s₁)).lookup id = none →
      E.validate (applyAll writes s₁) id none row = .ok () →
      ∀ locks', (∀ l ∈ locks, l ∈ locks') → .row (E.lockKey id) ∈ locks' →
        (∀ n ∈ Indexed.entries (E.put id row), .entry n ∈ locks') →
        D.Wp (f ()) s₁ (writes ++ [E.put id row]) locks' Q) :
    D.Wp (E.insert id row >>= f) s writes locks Q := by
  refine wp_perform ?_
  rintro s₁ h₁ s₂ h₂ - - busy eff heff
  simp only [Except.bind_unit_eq_ok, ensure_eq_ok] at heff
  obtain ⟨habsent, hvalid, ⟨⟩⟩ := heff
  obtain ⟨hrow, hentry⟩ := mem_taken_of_write (σ := σ) (ν := ν)
    { locks := [], writes := [E.put id row], result := () } List.mem_cons_self
  exact h s₂ (h₁.trans h₂) habsent hvalid _ (fun l hl => List.mem_append_left _ hl)
    (List.mem_append_right _ (hrow _ (E.key_put id row)))
    fun n hn => List.mem_append_right _ (hentry n hn)

/-- An updated row is the one that is locked, which may be newer than the snapshot's. -/
theorem wp_update {id : τ} {g : ρ → ρ} {missing : ε} {f : ρ → Program σ κ ω ε α}
    (h : ∀ s₁, D.Others (Apart locks) s s₁ → ∀ r,
      (E.get (applyAll writes s₁)).lookup id = some r →
      E.validate (applyAll writes s₁) id (some r) (g r) = .ok () →
      ∀ locks', (∀ l ∈ locks, l ∈ locks') → .row (E.lockKey id) ∈ locks' →
        (∀ n ∈ Indexed.entries (E.put id (g r)), .entry n ∈ locks') →
        D.Wp (f (g r)) s₁ (writes ++ [E.put id (g r)]) locks' Q) :
    D.Wp (E.update id g missing >>= f) s writes locks Q := by
  rw [wp_bind]
  refine wp_perform ?_
  rintro s₁ h₁ s₂ h₂ - - busy eff heff
  dsimp only at heff
  cases hold : ((E.get (applyAll writes s₁)).lookup id).filter fun _ => true with
  | none =>
      rw [hold] at heff
      cases heff
      trivial
  | some old =>
      rw [hold] at heff
      dsimp only at heff
      cases hrow : ((E.get (applyAll writes s₂)).lookup id).filter fun _ => true with
      | none =>
          rw [hrow] at heff
          cases heff
          trivial
      | some r =>
          rw [hrow] at heff
          obtain ⟨hvalid, ⟨⟩⟩ := Except.bind_unit_eq_ok.mp heff
          obtain ⟨hlook, -⟩ := Option.filter_eq_some_iff.mp hrow
          obtain ⟨hlocked, hentry⟩ := mem_taken_of_write (σ := σ) (ν := ν)
            { locks := [], writes := [E.put id (g r)], result := some (g r) } List.mem_cons_self
          have hwp := h s₂ (h₁.trans h₂) r hlook hvalid _ (fun l hl => List.mem_append_left _ hl)
            (List.mem_append_right _ (hlocked _ (E.key_put id (g r))))
            fun n hn => List.mem_append_right _ (hentry n hn)
          exact fun s₃ h₃ _ _ => hwp.stable h₃

end Entity

end Relational
