import Mathlib.Data.List.Sort
import SeatFlow.Relational.Program

/-!
# Entities

One table of a larger state, with the constraints its rows are held to. An
entity is a lawful window (`get`/`set`) on the state together with the write
constructor, the row lock and `validate`, the row-level checks and `BEFORE`
triggers: the old version (none for an `INSERT`) and the proposed new one.

The statements below are the handful of SQL forms a service uses, and each has
one `ensures` and one `commits` rule. Under interleaving an `UPDATE` finds its
rows in the snapshot, then decides again on the version it has locked.
-/

namespace Relational

structure Entity (σ κ ω ε τ ρ : Type) [Store σ κ ω] [DecidableEq τ] where
  get : σ → Table τ ρ
  set : Table τ ρ → σ → σ
  put : τ → ρ → ω
  lockKey : τ → κ
  validate : σ → τ → Option ρ → ρ → Except ε Unit
  duplicate : ε
  get_set : ∀ t s, get (set t s) = t
  set_get : ∀ s, set (get s) s = s
  set_set : ∀ t t' s, set t (set t' s) = set t s
  apply_put : ∀ k r s, Store.apply (put k r) s = set ((get s).insert k r) s
  key_put : ∀ k r, Store.key σ (put k r) = some (lockKey k)

/-- A check inside a constraint or trigger. -/
def ensure {ε : Type} (c : Prop) [Decidable c] (e : ε) : Except ε Unit :=
  if c then .ok () else .error e

@[simp]
theorem ensure_eq_ok {ε : Type} {c : Prop} [Decidable c] {e : ε} :
    ensure c e = .ok () ↔ c := by
  unfold ensure
  split <;> simp_all

theorem Except.bind_eq_ok {ε α β : Type} {x : Except ε α} {f : α → Except ε β} {b : β} :
    (x >>= f) = .ok b ↔ ∃ a, x = .ok a ∧ f a = .ok b := by
  cases x with
  | error e => simp [bind, Except.bind]
  | ok a => simp [bind, Except.bind]

@[simp]
theorem Except.bind_unit_eq_ok {ε β : Type} {x : Except ε Unit} {f : Unit → Except ε β} {b : β} :
    (x >>= f) = .ok b ↔ x = .ok () ∧ f () = .ok b := by
  rw [Except.bind_eq_ok]
  constructor
  · rintro ⟨⟨⟩, h⟩
    exact h
  · intro h
    exact ⟨(), h⟩

/-- Check every member of a list; the first failure is the outcome. -/
def checkAll {ε α : Type} (check : α → Except ε Unit) : List α → Except ε Unit
  | [] => .ok ()
  | a :: as => do
      check a
      checkAll check as

theorem checkAll_eq_ok {ε α : Type} {check : α → Except ε Unit} {l : List α} :
    checkAll check l = .ok () ↔ ∀ a ∈ l, check a = .ok () := by
  induction l with
  | nil => simp [checkAll]
  | cons a l ih => simp [checkAll, ih]

namespace Entity

variable {σ κ ω ε τ ρ : Type} [Store σ κ ω] [DecidableEq τ] (E : Entity σ κ ω ε τ ρ)

/-! ## §1 Statements -/

/-- `SELECT … WHERE id`. -/
def find (id : τ) : Program σ κ ω ε (Option ρ) :=
  .read fun s => (E.get s).lookup id

/-- `SELECT … WHERE p`. -/
def findMany (p : τ → ρ → Bool) : Program σ κ ω ε (List (τ × ρ)) :=
  .read fun s => (E.get s).select p

/-- `SELECT … WHERE id AND p FOR UPDATE`: the row version that the lock was
granted on, if it still satisfies `p`. -/
def lockWhen (id : τ) (p : ρ → Bool) : Program σ κ ω ε (Option ρ) :=
  .perform fun v => .ok <|
    match ((E.get v.snapshot).lookup id).filter p with
    | none => .reply none
    | some _ =>
        { locks := [E.lockKey id], writes := [], result := ((E.get v.current).lookup id).filter p }

/-- `SELECT … WHERE id FOR UPDATE`. -/
def lock (id : τ) : Program σ κ ω ε (Option ρ) :=
  E.lockWhen id fun _ => true

/-- `SELECT … WHERE id AND p FOR UPDATE SKIP LOCKED`. -/
def lockSkip (id : τ) (p : ρ → Bool) : Program σ κ ω ε (Option ρ) :=
  .perform fun v => .ok <|
    match ((E.get v.snapshot).lookup id).filter p with
    | none => .reply none
    | some _ =>
        if v.busy (E.lockKey id) then .reply none
        else
          { locks := [E.lockKey id], writes := [],
            result := ((E.get v.current).lookup id).filter p }

/-- The rows a statement finds in its snapshot, at their current versions, less
those that no longer satisfy `p`. -/
def recheck (v : View σ κ) (p : τ → ρ → Bool) : List (τ × ρ) :=
  ((E.get v.snapshot).select p).filterMap fun e =>
    (((E.get v.current).lookup e.1).filter (p e.1)).map fun r => (e.1, r)

/-- `SELECT … WHERE p FOR UPDATE`. -/
def lockMany (p : τ → ρ → Bool) : Program σ κ ω ε (List (τ × ρ)) :=
  .perform fun v => .ok
    { locks := ((E.get v.snapshot).select p).map fun e => E.lockKey e.1
      writes := []
      result := E.recheck v p }

/-- `SELECT … WHERE p ORDER BY le LIMIT n FOR UPDATE SKIP LOCKED`. -/
def lockBatch (p : τ → ρ → Bool) (le : τ × ρ → τ × ρ → Prop) [DecidableRel le] (limit : Nat) :
    Program σ κ ω ε (List (τ × ρ)) :=
  .perform fun v =>
    let free := (E.recheck v p).filter fun e => !v.busy (E.lockKey e.1)
    let claimed := (free.insertionSort le).take limit
    .ok { locks := claimed.map fun e => E.lockKey e.1, writes := [], result := claimed }

/-- `INSERT`. -/
def insert (id : τ) (row : ρ) : Program σ κ ω ε Unit :=
  .perform fun v => do
    ensure ((E.get v.current).lookup id = none) E.duplicate
    E.validate v.current id none row
    .ok { locks := [], writes := [E.put id row], result := () }

/-- `INSERT … ON CONFLICT DO NOTHING`, with whether a row was written. -/
def insertNew (id : τ) (row : ρ) : Program σ κ ω ε Bool :=
  .perform fun v =>
    match (E.get v.current).lookup id with
    | some _ => .ok { locks := [E.lockKey id], writes := [], result := false }
    | none => do
        E.validate v.current id none row
        .ok { locks := [], writes := [E.put id row], result := true }

/-- `UPDATE … SET f WHERE id AND p RETURNING`: the new row version, if the row
was updated. -/
def updateWhen (id : τ) (p : ρ → Bool) (f : ρ → ρ) : Program σ κ ω ε (Option ρ) :=
  .perform fun v =>
    match ((E.get v.snapshot).lookup id).filter p with
    | none => .ok (.reply none)
    | some _ =>
        match ((E.get v.current).lookup id).filter p with
        | none => .ok { locks := [E.lockKey id], writes := [], result := none }
        | some r => do
            E.validate v.current id (some r) (f r)
            .ok { locks := [], writes := [E.put id (f r)], result := some (f r) }

/-- `UPDATE … SET f WHERE p RETURNING`: the new row versions. -/
def updateMany (p : τ → ρ → Bool) (f : τ → ρ → ρ) : Program σ κ ω ε (List (τ × ρ)) :=
  .perform fun v => do
    let found := E.recheck v p
    checkAll (fun e => E.validate v.current e.1 (some e.2) (f e.1 e.2)) found
    .ok
      { locks := ((E.get v.snapshot).select p).map fun e => E.lockKey e.1
        writes := found.map fun e => E.put e.1 (f e.1 e.2)
        result := found.map fun e => (e.1, f e.1 e.2) }

/-- `UPDATE … SET f WHERE id`, an error when there is no such row. -/
def update (id : τ) (f : ρ → ρ) (missing : ε) : Program σ κ ω ε ρ := do
  let updated ← E.updateWhen id (fun _ => true) f
  .orThrow missing updated

/-- `SELECT … WHERE id`, an error when there is no such row. -/
def findOrThrow (id : τ) (missing : ε) : Program σ κ ω ε ρ := do
  let row ← E.find id
  .orThrow missing row

/-! ## §2 Their effect alone -/

theorem applyAll_put (batch : List (τ × ρ)) (s : σ) :
    applyAll (batch.map fun e => E.put e.1 e.2) s = E.set ((E.get s).putAll batch) s := by
  induction batch generalizing s with
  | nil => exact (E.set_get s).symm
  | cons e batch ih =>
      show applyAll (batch.map fun e => E.put e.1 e.2) (Store.apply (E.put e.1 e.2) s) = _
      rw [ih, Table.putAll_cons, E.apply_put, E.get_set, E.set_set]

/-- Alone, the recheck changes nothing. -/
theorem recheck_alone (s : σ) (p : τ → ρ → Bool) :
    E.recheck (View.alone s) p = (E.get s).select p := by
  rw [recheck]
  show ((E.get s).select p).filterMap _ = _
  conv_rhs => rw [← List.filterMap_some (l := (E.get s).select p)]
  apply List.filterMap_congr
  rintro ⟨k, r⟩ hmem
  obtain ⟨hlook, hp⟩ := Table.mem_select.mp hmem
  show ((((E.get s).lookup k).filter (p k)).map fun r => (k, r)) = some (k, r)
  rw [hlook]
  simp [Option.filter, hp]

/-- The rows of a batch of updates are all admitted. -/
theorem admitted_select (s : σ) (p : τ → ρ → Bool) (f : τ → ρ → ρ) :
    checkAll (fun e => E.validate s e.1 (some e.2) (f e.1 e.2)) ((E.get s).select p) = .ok () ↔
      ∀ k r, (E.get s).lookup k = some r → p k r = true →
        E.validate s k (some r) (f k r) = .ok () := by
  rw [checkAll_eq_ok]
  constructor
  · intro h k r hlook hp
    exact h (k, r) (Table.mem_select.mpr ⟨hlook, hp⟩)
  · rintro h ⟨k, r⟩ hmem
    exact h k r (Table.mem_select.mp hmem).1 (Table.mem_select.mp hmem).2

/-- The writes of a batch of updates. -/
theorem applyAll_updates (s : σ) (p : τ → ρ → Bool) (f : τ → ρ → ρ) :
    applyAll (((E.get s).select p).map fun e => E.put e.1 (f e.1 e.2)) s
      = E.set ((E.get s).putAll ((E.get s).updates p f)) s := by
  rw [← E.applyAll_put, Table.updates, List.map_map]
  rfl

open Program

variable {E} {s : σ}

theorem ensures_find {id : τ} {Q : Option ρ → σ → Prop} :
    Ensures (E.find id) s Q ↔ Q ((E.get s).lookup id) s :=
  ensures_read

theorem ensures_findMany {p : τ → ρ → Bool} {Q : List (τ × ρ) → σ → Prop} :
    Ensures (E.findMany p) s Q ↔ Q ((E.get s).select p) s :=
  ensures_read

theorem run_lockWhen (id : τ) (p : ρ → Bool) :
    (E.lockWhen id p).run s = .ok (((E.get s).lookup id).filter p, s) := by
  simp only [lockWhen, perform, run]
  cases h : ((E.get s).lookup id).filter p with
  | none => rfl
  | some r => rfl

theorem run_lockSkip (id : τ) (p : ρ → Bool) :
    (E.lockSkip id p).run s = .ok (((E.get s).lookup id).filter p, s) := by
  simp only [lockSkip, perform, run]
  cases h : ((E.get s).lookup id).filter p with
  | none => rfl
  | some r => rfl

theorem ensures_lockWhen {id : τ} {p : ρ → Bool} {Q : Option ρ → σ → Prop} :
    Ensures (E.lockWhen id p) s Q ↔ Q (((E.get s).lookup id).filter p) s := by
  simp [Ensures, run_lockWhen]

theorem ensures_lockSkip {id : τ} {p : ρ → Bool} {Q : Option ρ → σ → Prop} :
    Ensures (E.lockSkip id p) s Q ↔ Q (((E.get s).lookup id).filter p) s := by
  simp [Ensures, run_lockSkip]

theorem ensures_lock {id : τ} {Q : Option ρ → σ → Prop} :
    Ensures (E.lock id) s Q ↔ Q ((E.get s).lookup id) s := by
  rw [lock, ensures_lockWhen]
  cases (E.get s).lookup id <;> rfl

theorem ensures_lockMany {p : τ → ρ → Bool} {Q : List (τ × ρ) → σ → Prop} :
    Ensures (E.lockMany p) s Q ↔ Q ((E.get s).select p) s := by
  rw [lockMany, ensures_perform]
  simp [recheck_alone, applyAll]

theorem ensures_lockBatch {p : τ → ρ → Bool} {le : τ × ρ → τ × ρ → Prop} [DecidableRel le]
    {limit : Nat} {Q : List (τ × ρ) → σ → Prop} :
    Ensures (E.lockBatch p le limit) s Q ↔
      Q ((((E.get s).select p).insertionSort le).take limit) s := by
  rw [lockBatch, ensures_perform]
  simp [recheck_alone, applyAll]

theorem ensures_insert {id : τ} {row : ρ} {Q : Unit → σ → Prop} :
    Ensures (E.insert id row) s Q ↔
      ((E.get s).lookup id = none → E.validate s id none row = .ok () →
        Q () (E.set ((E.get s).insert id row) s)) := by
  rw [Entity.insert, ensures_perform]
  simp only [Except.bind_unit_eq_ok, ensure_eq_ok]
  constructor
  · intro h hnone hvalid
    simpa [applyAll, E.apply_put] using h _ ⟨hnone, hvalid, rfl⟩
  · rintro h eff ⟨hnone, hvalid, ⟨⟩⟩
    simpa [applyAll, E.apply_put] using h hnone hvalid

theorem ensures_insertNew {id : τ} {row : ρ} {Q : Bool → σ → Prop} :
    Ensures (E.insertNew id row) s Q ↔
      (((E.get s).lookup id).isSome → Q false s) ∧
      ((E.get s).lookup id = none → E.validate s id none row = .ok () →
        Q true (E.set ((E.get s).insert id row) s)) := by
  rw [insertNew, ensures_perform]
  cases h : (E.get s).lookup id with
  | some r => simp [applyAll]
  | none =>
      constructor
      · intro hQ
        refine ⟨by simp, fun _ hvalid => ?_⟩
        simpa [applyAll, E.apply_put] using hQ _ (Except.bind_unit_eq_ok.mpr ⟨hvalid, rfl⟩)
      · rintro ⟨-, hQ⟩ eff heff
        obtain ⟨hvalid, ⟨⟩⟩ := Except.bind_unit_eq_ok.mp heff
        simpa [applyAll, E.apply_put] using hQ rfl hvalid

theorem ensures_updateWhen {id : τ} {p : ρ → Bool} {f : ρ → ρ} {Q : Option ρ → σ → Prop} :
    Ensures (E.updateWhen id p f) s Q ↔
      (((E.get s).lookup id).filter p = none → Q none s) ∧
      (∀ r, (E.get s).lookup id = some r → p r = true → E.validate s id (some r) (f r) = .ok () →
        Q (some (f r)) (E.set ((E.get s).insert id (f r)) s)) := by
  rw [updateWhen, ensures_perform]
  cases h : (E.get s).lookup id with
  | none => simp [applyAll, Effect.reply]
  | some r =>
      by_cases hp : p r = true
      · simp only [Option.filter, hp, if_true]
        constructor
        · intro hQ
          refine ⟨by simp, ?_⟩
          rintro _ ⟨⟩ - hvalid
          simpa [applyAll, E.apply_put] using hQ _ (Except.bind_unit_eq_ok.mpr ⟨hvalid, rfl⟩)
        · rintro ⟨-, hQ⟩ eff heff
          obtain ⟨hvalid, ⟨⟩⟩ := Except.bind_unit_eq_ok.mp heff
          simpa [applyAll, E.apply_put] using hQ r rfl hp hvalid
      · simp [Option.filter, hp, applyAll, Effect.reply]

theorem ensures_update {id : τ} {f : ρ → ρ} {missing : ε} {Q : ρ → σ → Prop} :
    Ensures (E.update id f missing) s Q ↔
      ∀ r, (E.get s).lookup id = some r → E.validate s id (some r) (f r) = .ok () →
        Q (f r) (E.set ((E.get s).insert id (f r)) s) := by
  rw [Entity.update, ensures_bind, ensures_updateWhen]
  constructor
  · rintro ⟨-, h⟩ r hlook hvalid
    exact ensures_orThrow.mp (h r hlook rfl hvalid) _ rfl
  · intro h
    refine ⟨fun _ => ensures_orThrow.mpr (by simp), fun r hlook _ hvalid => ?_⟩
    exact ensures_orThrow.mpr (by rintro _ ⟨⟩; exact h r hlook hvalid)

theorem ensures_findOrThrow {id : τ} {missing : ε} {Q : ρ → σ → Prop} :
    Ensures (E.findOrThrow id missing) s Q ↔
      ∀ r, (E.get s).lookup id = some r → Q r s := by
  rw [findOrThrow, ensures_bind, ensures_find]
  exact ensures_orThrow

theorem ensures_updateMany {p : τ → ρ → Bool} {f : τ → ρ → ρ} {Q : List (τ × ρ) → σ → Prop} :
    Ensures (E.updateMany p f) s Q ↔
      ((∀ k r, (E.get s).lookup k = some r → p k r = true →
          E.validate s k (some r) (f k r) = .ok ()) →
        Q ((E.get s).updates p f) (E.set ((E.get s).putAll ((E.get s).updates p f)) s)) := by
  rw [updateMany, ensures_perform]
  simp only [recheck_alone, Except.bind_unit_eq_ok, E.admitted_select]
  constructor
  · intro h hvalid
    have := h _ ⟨hvalid, rfl⟩
    rwa [E.applyAll_updates] at this
  · rintro h eff ⟨hvalid, ⟨⟩⟩
    rw [E.applyAll_updates]
    exact h hvalid

/-! ## §3 When they commit -/

theorem commits_find {id : τ} {Q : Option ρ → σ → Prop} :
    Commits (E.find id) s Q ↔ Q ((E.get s).lookup id) s :=
  commits_read

theorem commits_findMany {p : τ → ρ → Bool} {Q : List (τ × ρ) → σ → Prop} :
    Commits (E.findMany p) s Q ↔ Q ((E.get s).select p) s :=
  commits_read

theorem commits_lockWhen {id : τ} {p : ρ → Bool} {Q : Option ρ → σ → Prop} :
    Commits (E.lockWhen id p) s Q ↔ Q (((E.get s).lookup id).filter p) s := by
  simp [Commits, run_lockWhen]

theorem commits_lock {id : τ} {Q : Option ρ → σ → Prop} :
    Commits (E.lock id) s Q ↔ Q ((E.get s).lookup id) s := by
  rw [lock, commits_lockWhen]
  cases (E.get s).lookup id <;> rfl

theorem commits_lockMany {p : τ → ρ → Bool} {Q : List (τ × ρ) → σ → Prop} :
    Commits (E.lockMany p) s Q ↔ Q ((E.get s).select p) s := by
  rw [lockMany, commits_perform]
  simp [recheck_alone, applyAll]

theorem commits_lockBatch {p : τ → ρ → Bool} {le : τ × ρ → τ × ρ → Prop} [DecidableRel le]
    {limit : Nat} {Q : List (τ × ρ) → σ → Prop} :
    Commits (E.lockBatch p le limit) s Q ↔
      Q ((((E.get s).select p).insertionSort le).take limit) s := by
  rw [lockBatch, commits_perform]
  simp [recheck_alone, applyAll]

theorem commits_insert {id : τ} {row : ρ} {Q : Unit → σ → Prop} :
    Commits (E.insert id row) s Q ↔
      (E.get s).lookup id = none ∧ E.validate s id none row = .ok () ∧
        Q () (E.set ((E.get s).insert id row) s) := by
  rw [Entity.insert, commits_perform]
  simp only [Except.bind_unit_eq_ok, ensure_eq_ok]
  constructor
  · rintro ⟨eff, ⟨hnone, hvalid, ⟨⟩⟩, hQ⟩
    exact ⟨hnone, hvalid, by simpa [applyAll, E.apply_put] using hQ⟩
  · rintro ⟨hnone, hvalid, hQ⟩
    exact ⟨_, ⟨hnone, hvalid, rfl⟩, by simpa [applyAll, E.apply_put] using hQ⟩

theorem commits_insertNew {id : τ} {row : ρ} {Q : Bool → σ → Prop} :
    Commits (E.insertNew id row) s Q ↔
      (((E.get s).lookup id).isSome ∧ Q false s) ∨
      ((E.get s).lookup id = none ∧ E.validate s id none row = .ok () ∧
        Q true (E.set ((E.get s).insert id row) s)) := by
  rw [insertNew, commits_perform]
  cases h : (E.get s).lookup id with
  | some r => simp [applyAll]
  | none =>
      constructor
      · rintro ⟨eff, heff, hQ⟩
        obtain ⟨hvalid, ⟨⟩⟩ := Except.bind_unit_eq_ok.mp heff
        exact .inr ⟨rfl, hvalid, by simpa [applyAll, E.apply_put] using hQ⟩
      · rintro (⟨hsome, -⟩ | ⟨-, hvalid, hQ⟩)
        · cases hsome
        · exact ⟨_, Except.bind_unit_eq_ok.mpr ⟨hvalid, rfl⟩,
            by simpa [applyAll, E.apply_put] using hQ⟩

theorem commits_updateWhen {id : τ} {p : ρ → Bool} {f : ρ → ρ} {Q : Option ρ → σ → Prop} :
    Commits (E.updateWhen id p f) s Q ↔
      (((E.get s).lookup id).filter p = none ∧ Q none s) ∨
      (∃ r, (E.get s).lookup id = some r ∧ p r = true ∧ E.validate s id (some r) (f r) = .ok () ∧
        Q (some (f r)) (E.set ((E.get s).insert id (f r)) s)) := by
  rw [updateWhen, commits_perform]
  cases h : (E.get s).lookup id with
  | none => simp [applyAll, Effect.reply]
  | some r =>
      by_cases hp : p r = true
      · simp only [Option.filter, hp, if_true]
        constructor
        · rintro ⟨eff, heff, hQ⟩
          obtain ⟨hvalid, ⟨⟩⟩ := Except.bind_unit_eq_ok.mp heff
          exact .inr ⟨r, rfl, hp, hvalid, by simpa [applyAll, E.apply_put] using hQ⟩
        · rintro (⟨hnone, -⟩ | ⟨_, ⟨⟩, -, hvalid, hQ⟩)
          · cases hnone
          · exact ⟨_, Except.bind_unit_eq_ok.mpr ⟨hvalid, rfl⟩,
              by simpa [applyAll, E.apply_put] using hQ⟩
      · simp [Option.filter, hp, applyAll, Effect.reply]

theorem commits_update {id : τ} {f : ρ → ρ} {missing : ε} {Q : ρ → σ → Prop} :
    Commits (E.update id f missing) s Q ↔
      ∃ r, (E.get s).lookup id = some r ∧ E.validate s id (some r) (f r) = .ok () ∧
        Q (f r) (E.set ((E.get s).insert id (f r)) s) := by
  rw [Entity.update, commits_bind, commits_updateWhen]
  constructor
  · rintro (⟨-, hnone⟩ | ⟨r, hlook, -, hvalid, hsome⟩)
    · obtain ⟨_, ⟨⟩, -⟩ := commits_orThrow.mp hnone
    · obtain ⟨_, ⟨⟩, hQ⟩ := commits_orThrow.mp hsome
      exact ⟨r, hlook, hvalid, hQ⟩
  · rintro ⟨r, hlook, hvalid, hQ⟩
    exact .inr ⟨r, hlook, rfl, hvalid, commits_orThrow.mpr ⟨_, rfl, hQ⟩⟩

theorem commits_findOrThrow {id : τ} {missing : ε} {Q : ρ → σ → Prop} :
    Commits (E.findOrThrow id missing) s Q ↔ ∃ r, (E.get s).lookup id = some r ∧ Q r s := by
  rw [findOrThrow, commits_bind, commits_find]
  exact commits_orThrow

theorem commits_updateMany {p : τ → ρ → Bool} {f : τ → ρ → ρ} {Q : List (τ × ρ) → σ → Prop} :
    Commits (E.updateMany p f) s Q ↔
      (∀ k r, (E.get s).lookup k = some r → p k r = true →
        E.validate s k (some r) (f k r) = .ok ()) ∧
      Q ((E.get s).updates p f) (E.set ((E.get s).putAll ((E.get s).updates p f)) s) := by
  rw [updateMany, commits_perform]
  simp only [recheck_alone, Except.bind_unit_eq_ok, E.admitted_select]
  constructor
  · rintro ⟨eff, ⟨hvalid, ⟨⟩⟩, hQ⟩
    rw [E.applyAll_updates] at hQ
    exact ⟨hvalid, hQ⟩
  · rintro ⟨hvalid, hQ⟩
    refine ⟨_, ⟨hvalid, rfl⟩, ?_⟩
    rw [E.applyAll_updates]
    exact hQ

end Entity

end Relational
