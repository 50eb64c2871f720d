import SeatFlow.Relational.ReadCommitted
import SeatFlow.Relational.Entity

/-!
# Derived totals

Parent rows that store a total over child rows, kept up to date by rewriting the
total after every write that changes it. `Refreshing` is that discipline on
program texts: a write of child rows that moves parent `p`'s total is followed
at once by a statement that recomputes it.

Run alone, a disciplined program keeps every stored total equal to its sum
(`Refreshing.run`). Interleaved, the recomputation may read an old snapshot, and
the totals stay right in the runs whose recomputations read fresh child rows
(`DerivedTotal.reaches_faithful`).
-/

namespace Relational

/-- A total `stored` in the rows of `parents` over the rows of `children`. -/
structure DerivedTotal (σ κ ω χ ρ π τ W : Type) [Store σ κ ω] [DecidableEq χ] [DecidableEq π]
    [AddCommMonoid W] where
  children : σ → Table χ ρ
  parents : σ → Table π τ
  weight : π → ρ → W
  stored : τ → W
  childPut : ω → Option (χ × ρ)
  parentPut : ω → Option (π × τ)
  childKey : χ → κ
  parentKey : π → κ
  children_apply : ∀ w s, children (Store.apply w s) =
    match childPut w with
    | some (k, r) => (children s).insert k r
    | none => children s
  parents_apply : ∀ w s, parents (Store.apply w s) =
    match parentPut w with
    | some (p, row) => (parents s).insert p row
    | none => parents s
  key_childPut : ∀ w k r, childPut w = some (k, r) → Store.key σ w = some (childKey k)
  key_parentPut : ∀ w p row, parentPut w = some (p, row) → Store.key σ w = some (parentKey p)

namespace DerivedTotal

variable {σ κ ω ε χ ρ π τ W α β : Type} [Store σ κ ω] [DecidableEq χ] [DecidableEq π]
  [AddCommMonoid W] (D : DerivedTotal σ κ ω χ ρ π τ W)

/-- What child row `k` adds to the total of `p`. -/
def share (p : π) (s : σ) (k : χ) : W :=
  (D.children s).contribution (fun _ => D.weight p) k

/-- The total that `p` should store. -/
def total (p : π) (s : σ) : W :=
  (D.children s).sum fun _ => D.weight p

theorem total_congr {p : π} {s s' : σ} (h : ∀ k, D.share p s k = D.share p s' k) :
    D.total p s = D.total p s' :=
  Table.sum_congr h

/-- The row of `p`, if there is one, stores its total. -/
def Faithful (s : σ) (p : π) : Prop :=
  ∀ row, (D.parents s).lookup p = some row → D.stored row = D.total p s

/-- Everything the total of `p` depends on is the same in both states. -/
theorem Faithful.congr {p : π} {s s' : σ} (h : D.Faithful s p)
    (hstored : ((D.parents s').lookup p).map D.stored = ((D.parents s).lookup p).map D.stored)
    (hshare : ∀ k, D.share p s' k = D.share p s k) : D.Faithful s' p := by
  intro row hrow
  rw [hrow] at hstored
  obtain ⟨row₀, hrow₀, heq⟩ := Option.map_eq_some_iff.mp hstored.symm
  rw [← heq, h row₀ hrow₀, D.total_congr hshare]

/-! ## §1 Writes seen through the children and the parents -/

/-- The last write of child row `k`. -/
def childOverlay (writes : List ω) (k : χ) : Option ρ :=
  writes.reverse.findSome? fun w =>
    (D.childPut w).bind fun e => if e.1 = k then some e.2 else none

/-- The last write of parent row `p`. -/
def parentOverlay (writes : List ω) (p : π) : Option τ :=
  writes.reverse.findSome? fun w =>
    (D.parentPut w).bind fun e => if e.1 = p then some e.2 else none

theorem lookup_children_applyAll (writes : List ω) (s : σ) (k : χ) :
    (D.children (applyAll writes s)).lookup k
      = (D.childOverlay writes k).or ((D.children s).lookup k) := by
  induction writes using List.reverseRecOn with
  | nil => rfl
  | append_singleton ws w ih =>
      rw [applyAll_append]
      show (D.children (Store.apply w (applyAll ws s))).lookup k = _
      rw [D.children_apply, childOverlay, List.reverse_append, List.reverse_singleton,
        List.singleton_append, List.findSome?_cons]
      cases hput : D.childPut w with
      | none => simpa [childOverlay] using ih
      | some e =>
          obtain ⟨k', r⟩ := e
          by_cases hk : k' = k
          · subst hk
            simp
          · have hk' : k ≠ k' := fun h => hk h.symm
            simpa [hk, hk', childOverlay] using ih

theorem lookup_parents_applyAll (writes : List ω) (s : σ) (p : π) :
    (D.parents (applyAll writes s)).lookup p
      = (D.parentOverlay writes p).or ((D.parents s).lookup p) := by
  induction writes using List.reverseRecOn with
  | nil => rfl
  | append_singleton ws w ih =>
      rw [applyAll_append]
      show (D.parents (Store.apply w (applyAll ws s))).lookup p = _
      rw [D.parents_apply, parentOverlay, List.reverse_append, List.reverse_singleton,
        List.singleton_append, List.findSome?_cons]
      cases hput : D.parentPut w with
      | none => simpa [parentOverlay] using ih
      | some e =>
          obtain ⟨p', row⟩ := e
          by_cases hp : p' = p
          · subst hp
            simp
          · have hp' : p ≠ p' := fun h => hp h.symm
            simpa [hp, hp', parentOverlay] using ih

theorem childOverlay_some {writes : List ω} {k : χ} {r : ρ} (h : D.childOverlay writes k = some r) :
    ∃ w ∈ writes, D.childPut w = some (k, r) := by
  obtain ⟨w, hmem, hw⟩ := List.exists_of_findSome?_eq_some h
  obtain ⟨⟨k', r'⟩, hput, hif⟩ := Option.bind_eq_some_iff.mp hw
  split at hif
  · rename_i hk
    cases hif
    exact ⟨w, List.mem_reverse.mp hmem, by rw [hput, ← hk]⟩
  · cases hif

theorem parentOverlay_some {writes : List ω} {p : π} {row : τ}
    (h : D.parentOverlay writes p = some row) : ∃ w ∈ writes, D.parentPut w = some (p, row) := by
  obtain ⟨w, hmem, hw⟩ := List.exists_of_findSome?_eq_some h
  obtain ⟨⟨p', row'⟩, hput, hif⟩ := Option.bind_eq_some_iff.mp hw
  split at hif
  · rename_i hp
    cases hif
    exact ⟨w, List.mem_reverse.mp hmem, by rw [hput, ← hp]⟩
  · cases hif

theorem parentOverlay_of_mem {writes : List ω} {p : π} {w : ω} {row : τ} (hmem : w ∈ writes)
    (hput : D.parentPut w = some (p, row)) : (D.parentOverlay writes p).isSome := by
  rw [parentOverlay, List.findSome?_isSome_iff]
  exact ⟨w, List.mem_reverse.mpr hmem, by simp [hput]⟩

/-! ## §2 The discipline -/

/-- Writes after which every total but that of `pending` is as it was: child
writes keep the shares of all other parents, parent writes keep the stored
total. -/
structure Touches (pending : Option π) (s : σ) (writes : List ω) : Prop where
  child : ∀ w ∈ writes, ∀ k r, D.childPut w = some (k, r) →
    ∀ p, pending ≠ some p → D.weight p r = D.share p s k
  parent : ∀ w ∈ writes, ∀ p row, D.parentPut w = some (p, row) →
    ∃ old, (D.parents s).lookup p = some old ∧ D.stored row = D.stored old

/-- A recomputation of the total of `p`: it rewrites the row of `p`, if there is
one, with the total of its snapshot, and nothing else. -/
structure Recomputes (p : π) (v : View σ κ) (writes : List ω) : Prop where
  child : ∀ w ∈ writes, D.childPut w = none
  parent : ∀ w ∈ writes, ∃ row, D.parentPut w = some (p, row) ∧
    D.stored row = D.total p v.snapshot
  existing : writes ≠ [] ↔ ((D.parents v.current).lookup p).isSome

/-- Every write that moves the total of a parent is followed by a recomputation
of it. `pending` is the parent whose total awaits one. -/
def Refreshing : Option π → Program σ κ ω ε α → Prop
  | pending, .done _ => pending = none
  | _, .abort _ => True
  | none, .step stmt next => ∀ v eff, stmt v = .ok eff →
      ∃ pending, D.Touches pending v.current eff.writes ∧ Refreshing pending (next eff.result)
  | some p, .step stmt next => ∀ v eff, stmt v = .ok eff →
      D.Recomputes p v eff.writes ∧ Refreshing none (next eff.result)

theorem touches_nil (pending : Option π) (s : σ) : D.Touches pending s [] :=
  ⟨by simp, by simp⟩

/-- Writes that are neither child nor parent rows. -/
theorem touches_of_unrelated {pending : Option π} {s : σ} {writes : List ω}
    (h : ∀ w ∈ writes, D.childPut w = none ∧ D.parentPut w = none) :
    D.Touches pending s writes := by
  constructor
  · intro w hw k r hput
    rw [(h w hw).1] at hput
    cases hput
  · intro w hw p row hput
    rw [(h w hw).2] at hput
    cases hput

section Rules

variable {D}

theorem Refreshing.bind {pending : Option π} {p : Program σ κ ω ε α}
    {f : α → Program σ κ ω ε β} (hp : D.Refreshing pending p)
    (hf : ∀ a, D.Refreshing none (f a)) : D.Refreshing pending (p >>= f) := by
  show D.Refreshing pending (p.bind f)
  induction p generalizing pending with
  | done a =>
      have : pending = none := hp
      subst this
      exact hf a
  | abort e => trivial
  | step stmt next ih =>
      cases pending with
      | none =>
          intro v eff heff
          obtain ⟨pending', htouch, hnext⟩ := hp v eff heff
          exact ⟨pending', htouch, ih _ hnext⟩
      | some q =>
          intro v eff heff
          obtain ⟨hre, hnext⟩ := hp v eff heff
          exact ⟨hre, ih _ hnext⟩

theorem refreshing_pure {a : α} : D.Refreshing none (Pure.pure a : Program σ κ ω ε α) := rfl

theorem refreshing_abort {pending : Option π} {e : ε} :
    D.Refreshing pending (.abort e : Program σ κ ω ε α) := trivial

theorem refreshing_require {c : Prop} [Decidable c] {e : ε} :
    D.Refreshing none (.require c e : Program σ κ ω ε Unit) := by
  unfold Program.require
  split
  · rfl
  · trivial

theorem refreshing_orThrow {e : ε} {o : Option α} :
    D.Refreshing none (.orThrow e o : Program σ κ ω ε α) := by
  cases o with
  | none => trivial
  | some a => rfl

/-- A statement whose writes leave every total alone. -/
theorem refreshing_perform {stmt : Statement σ κ ω ε β}
    (h : ∀ v eff, stmt v = .ok eff → D.Touches none v.current eff.writes) :
    D.Refreshing none (.perform stmt) :=
  fun v eff heff => ⟨none, h v eff heff, rfl⟩

/-- A recomputation, as a program of its own. -/
theorem refreshing_recompute {p : π} {stmt : Statement σ κ ω ε β}
    (h : ∀ v eff, stmt v = .ok eff → D.Recomputes p v eff.writes) :
    D.Refreshing (some p) (.perform stmt) :=
  fun v eff heff => ⟨h v eff heff, rfl⟩

theorem refreshing_read {f : σ → β} : D.Refreshing none (.read f : Program σ κ ω ε β) :=
  refreshing_perform fun v eff heff => by
    cases heff
    exact D.touches_nil none v.current

end Rules

/-! ### Entities that hold neither children nor parents -/

section Entities

variable {D} {ν γ : Type} [DecidableEq ν] {E : Entity σ κ ω ε ν γ}

/-- The rows of `E` are neither child nor parent rows. -/
def Unrelated (D : DerivedTotal σ κ ω χ ρ π τ W) (E : Entity σ κ ω ε ν γ) : Prop :=
  ∀ k r, D.childPut (E.put k r) = none ∧ D.parentPut (E.put k r) = none

theorem refreshing_find {id : ν} : D.Refreshing none (E.find id) :=
  refreshing_read

theorem refreshing_findMany {p : ν → γ → Bool} : D.Refreshing none (E.findMany p) :=
  refreshing_read

theorem refreshing_findOrThrow {id : ν} {missing : ε} :
    D.Refreshing none (E.findOrThrow id missing) :=
  refreshing_find.bind fun _ => refreshing_orThrow

theorem refreshing_lockWhen {id : ν} {p : γ → Bool} : D.Refreshing none (E.lockWhen id p) := by
  apply refreshing_perform
  intro v eff heff
  cases heff
  split <;> exact D.touches_nil none v.current

theorem refreshing_lock {id : ν} : D.Refreshing none (E.lock id) :=
  refreshing_lockWhen

theorem refreshing_lockSkip {id : ν} {p : γ → Bool} : D.Refreshing none (E.lockSkip id p) := by
  apply refreshing_perform
  intro v eff heff
  cases heff
  split
  · exact D.touches_nil none v.current
  · split <;> exact D.touches_nil none v.current

theorem refreshing_lockMany {p : ν → γ → Bool} : D.Refreshing none (E.lockMany p) := by
  apply refreshing_perform
  intro v eff heff
  cases heff
  exact D.touches_nil none v.current

theorem Unrelated.insert (hE : D.Unrelated E) {id : ν} {row : γ} :
    D.Refreshing none (E.insert id row) := by
  apply refreshing_perform
  intro v eff heff
  simp only [Except.bind_unit_eq_ok] at heff
  obtain ⟨-, -, ⟨⟩⟩ := heff
  exact D.touches_of_unrelated (by simpa using hE id row)

theorem Unrelated.insertNew (hE : D.Unrelated E) {id : ν} {row : γ} :
    D.Refreshing none (E.insertNew id row) := by
  apply refreshing_perform
  intro v eff heff
  split at heff
  · cases heff
    exact D.touches_nil none v.current
  · simp only [Except.bind_unit_eq_ok] at heff
    obtain ⟨-, ⟨⟩⟩ := heff
    exact D.touches_of_unrelated (by simpa using hE id row)

theorem Unrelated.updateWhen (hE : D.Unrelated E) {id : ν} {p : γ → Bool} {f : γ → γ} :
    D.Refreshing none (E.updateWhen id p f) := by
  apply refreshing_perform
  intro v eff heff
  split at heff
  · cases heff
    exact D.touches_nil none v.current
  · split at heff
    · cases heff
      exact D.touches_nil none v.current
    · rename_i r _
      simp only [Except.bind_unit_eq_ok] at heff
      obtain ⟨-, ⟨⟩⟩ := heff
      exact D.touches_of_unrelated (by simpa using hE id (f r))

theorem Unrelated.update (hE : D.Unrelated E) {id : ν} {f : γ → γ} {missing : ε} :
    D.Refreshing none (E.update id f missing) :=
  hE.updateWhen.bind fun _ => refreshing_orThrow

theorem Unrelated.updateMany (hE : D.Unrelated E) {p : ν → γ → Bool} {f : ν → γ → γ} :
    D.Refreshing none (E.updateMany p f) := by
  apply refreshing_perform
  intro v eff heff
  simp only [Except.bind_unit_eq_ok] at heff
  obtain ⟨-, ⟨⟩⟩ := heff
  refine D.touches_of_unrelated fun w hw => ?_
  obtain ⟨e, -, rfl⟩ := List.mem_map.mp hw
  exact hE e.1 (f e.1 e.2)

end Entities

/-! ## §3 Run alone -/

/-- What `Touches` says about the state after the writes. -/
theorem Touches.share_eq {pending : Option π} {s : σ} {writes : List ω}
    (h : D.Touches pending s writes) {p : π} (hp : pending ≠ some p) (k : χ) :
    D.share p (applyAll writes s) k = D.share p s k := by
  rw [share, Table.contribution, lookup_children_applyAll]
  cases hover : D.childOverlay writes k with
  | none => rfl
  | some r =>
      obtain ⟨w, hw, hput⟩ := D.childOverlay_some hover
      exact h.child w hw k r hput p hp

theorem Touches.stored_eq {pending : Option π} {s : σ} {writes : List ω}
    (h : D.Touches pending s writes) (p : π) :
    ((D.parents (applyAll writes s)).lookup p).map D.stored
      = ((D.parents s).lookup p).map D.stored := by
  rw [lookup_parents_applyAll]
  cases hover : D.parentOverlay writes p with
  | none => rfl
  | some row =>
      obtain ⟨w, hw, hput⟩ := D.parentOverlay_some hover
      obtain ⟨old, hold, hstored⟩ := h.parent w hw p row hput
      simp [hold, hstored]

theorem Touches.faithful {pending : Option π} {s : σ} {writes : List ω}
    (h : D.Touches pending s writes) {p : π} (hp : pending ≠ some p) (hs : D.Faithful s p) :
    D.Faithful (applyAll writes s) p :=
  hs.congr D (h.stored_eq D p) (h.share_eq D hp)

theorem Recomputes.share_eq {p : π} {v : View σ κ} {writes : List ω}
    (h : D.Recomputes p v writes) (q : π) (k : χ) :
    D.share q (applyAll writes v.current) k = D.share q v.current k := by
  rw [share, Table.contribution, lookup_children_applyAll]
  cases hover : D.childOverlay writes k with
  | none => rfl
  | some r =>
      obtain ⟨w, hw, hput⟩ := D.childOverlay_some hover
      rw [h.child w hw] at hput
      cases hput

theorem Recomputes.lookup_eq {p q : π} {v : View σ κ} {writes : List ω}
    (h : D.Recomputes p v writes) (hq : q ≠ p) :
    (D.parents (applyAll writes v.current)).lookup q = (D.parents v.current).lookup q := by
  rw [lookup_parents_applyAll]
  cases hover : D.parentOverlay writes q with
  | none => rfl
  | some row =>
      obtain ⟨w, hw, hput⟩ := D.parentOverlay_some hover
      obtain ⟨row', hput', -⟩ := h.parent w hw
      rw [hput'] at hput
      cases hput
      exact absurd rfl hq

/-- A recomputation that reads fresh child rows makes its parent faithful. -/
theorem Recomputes.faithful {p : π} {v : View σ κ} {writes : List ω}
    (h : D.Recomputes p v writes) (hfresh : D.total p v.snapshot = D.total p v.current) :
    D.Faithful (applyAll writes v.current) p := by
  intro row hrow
  rw [D.total_congr (h.share_eq D p), ← hfresh]
  rw [lookup_parents_applyAll] at hrow
  cases hover : D.parentOverlay writes p with
  | some row' =>
      rw [hover] at hrow
      cases hrow
      obtain ⟨w, hw, hput⟩ := D.parentOverlay_some hover
      obtain ⟨row'', hput', hstored⟩ := h.parent w hw
      rw [hput'] at hput
      cases hput
      exact hstored
  | none =>
      rw [hover] at hrow
      have hne : writes ≠ [] := h.existing.mpr (by rw [Option.none_or] at hrow; rw [hrow]; rfl)
      obtain ⟨w, hw⟩ := List.exists_mem_of_ne_nil _ hne
      obtain ⟨row', hput, -⟩ := h.parent w hw
      have := D.parentOverlay_of_mem hw hput
      rw [hover] at this
      cases this

/-- **Serial fidelity.** A disciplined program that runs alone keeps every
stored total equal to its sum. -/
theorem Refreshing.run {pending : Option π} {p : Program σ κ ω ε α}
    (hp : D.Refreshing pending p) {s s' : σ} {a : α} (hrun : p.run s = .ok (a, s'))
    (hs : ∀ q, pending ≠ some q → D.Faithful s q) : ∀ q, D.Faithful s' q := by
  induction p generalizing pending s with
  | done b =>
      have : pending = none := hp
      subst this
      cases hrun
      exact fun q => hs q (by simp)
  | abort e => cases hrun
  | step stmt next ih =>
      rw [Program.run] at hrun
      split at hrun
      · cases hrun
      · rename_i eff heff
        cases pending with
        | none =>
            obtain ⟨pending', htouch, hnext⟩ := hp _ eff heff
            exact ih _ hnext hrun fun q hq => htouch.faithful D hq (hs q (by simp))
        | some r =>
            obtain ⟨hre, hnext⟩ := hp _ eff heff
            refine ih _ hnext hrun fun q _ => ?_
            by_cases hq : q = r
            · subst hq
              exact hre.faithful D rfl
            · refine (hs q (by simpa using Ne.symm hq)).congr D ?_ (hre.share_eq D q)
              rw [hre.lookup_eq D hq]

theorem Refreshing.ensures {p : Program σ κ ω ε α} (hp : D.Refreshing none p) {s : σ}
    (hs : ∀ q, D.Faithful s q) : p.Ensures s fun _ s' => ∀ q, D.Faithful s' q :=
  fun _ _ hrun => hp.run D hrun fun q _ => hs q

/-! ## §4 Run interleaved

What session `i` knows about the committed state depends on its row locks. A
parent it has locked can only be moved by itself; of a parent it has not locked
it has changed neither the row nor any share, so whatever others commit, its own
overlay still fits on top. -/

section Interleaved

variable {ι : Type}

/-- What holds of a session with writes `ws` and locks `ls` over the committed
state `c`, while the total of `pending` awaits its recomputation. -/
structure Consistent (c : σ) (ws : List ω) (ls : List κ) (pending : Option π) : Prop where
  locked : ∀ w ∈ ws, ∀ k, Store.key σ w = some k → k ∈ ls
  faithful : ∀ p, pending ≠ some p → D.Faithful (applyAll ws c) p
  present : ∀ p, ((D.parents (applyAll ws c)).lookup p).isSome = ((D.parents c).lookup p).isSome
  untouched : ∀ p, pending ≠ some p → D.parentKey p ∉ ls → ((D.parents c).lookup p).isSome →
    ∀ k, D.share p (applyAll ws c) k = D.share p c k

section Consistent

variable {D} {c : σ} {ws ws' : List ω} {ls ls' : List κ} {pending : Option π}

theorem Consistent.child_locked (h : D.Consistent c ws ls pending) {k : χ} {r : ρ}
    (hover : D.childOverlay ws k = some r) : D.childKey k ∈ ls := by
  obtain ⟨w, hw, hput⟩ := D.childOverlay_some hover
  exact h.locked w hw _ (D.key_childPut w k r hput)

theorem Consistent.parent_locked (h : D.Consistent c ws ls pending) {p : π} {row : τ}
    (hover : D.parentOverlay ws p = some row) : D.parentKey p ∈ ls := by
  obtain ⟨w, hw, hput⟩ := D.parentOverlay_some hover
  exact h.locked w hw _ (D.key_parentPut w p row hput)

/-- A session that has written nothing. -/
theorem consistent_nil (hc : ∀ p, D.Faithful c p) : D.Consistent c [] [] none where
  locked := by simp
  faithful := fun p _ => hc p
  present := fun _ => rfl
  untouched := fun _ _ _ _ _ => rfl

/-- A statement of the session that keeps every total but the pending one. -/
theorem Consistent.touches (h : D.Consistent c ws ls none) {more : List κ}
    {pending' : Option π} (htouch : D.Touches pending' (applyAll ws c) ws')
    (hkeys : ∀ w ∈ ws', ∀ k, Store.key σ w = some k → k ∈ more) :
    D.Consistent c (ws ++ ws') (ls ++ more) pending' where
  locked := by
    intro w hw k hk
    rcases List.mem_append.mp hw with hw | hw
    · exact List.mem_append_left _ (h.locked w hw k hk)
    · exact List.mem_append_right _ (hkeys w hw k hk)
  faithful := by
    intro p hp
    rw [applyAll_append]
    exact htouch.faithful D hp (h.faithful p (by simp))
  present := by
    intro p
    rw [applyAll_append, ← h.present p]
    simpa using congrArg Option.isSome (htouch.stored_eq D p)
  untouched := by
    intro p hp hfree hsome k
    have hls : D.parentKey p ∉ ls := fun hmem => hfree (List.mem_append_left _ hmem)
    rw [applyAll_append, htouch.share_eq D hp, h.untouched p (by simp) hls hsome]

/-- A recomputation that reads fresh child rows, if it writes anything. -/
theorem Consistent.recomputes {q : π} (h : D.Consistent c ws ls (some q)) {more : List κ}
    {v : View σ κ} (hcur : v.current = applyAll ws c) (hre : D.Recomputes q v ws')
    (hfresh : ws' ≠ [] → D.total q v.snapshot = D.total q v.current)
    (hkeys : ∀ w ∈ ws', ∀ k, Store.key σ w = some k → k ∈ more) :
    D.Consistent c (ws ++ ws') (ls ++ more) none where
  locked := by
    intro w hw k hk
    rcases List.mem_append.mp hw with hw | hw
    · exact List.mem_append_left _ (h.locked w hw k hk)
    · exact List.mem_append_right _ (hkeys w hw k hk)
  faithful := by
    intro p _
    rw [applyAll_append, ← hcur]
    by_cases hp : p = q
    · subst hp
      by_cases hne : ws' = []
      · subst hne
        have habsent : ¬ ((D.parents v.current).lookup p).isSome := by simp [← hre.existing]
        intro row hrow
        exact absurd (Option.isSome_of_eq_some hrow) habsent
      · exact hre.faithful D (hfresh hne)
    · have hold : D.Faithful v.current p := by
        rw [hcur]
        exact h.faithful p (by simpa using Ne.symm hp)
      refine hold.congr D ?_ (hre.share_eq D p)
      rw [hre.lookup_eq D hp]
  present := by
    intro p
    rw [applyAll_append, ← h.present p, ← hcur, lookup_parents_applyAll]
    cases hover : D.parentOverlay ws' p with
    | none => rfl
    | some row =>
        obtain ⟨w, hw, hput⟩ := D.parentOverlay_some hover
        obtain ⟨row', hput', -⟩ := hre.parent w hw
        rw [hput'] at hput
        cases hput
        exact (hre.existing.mp (List.ne_nil_of_mem hw)).symm
  untouched := by
    intro p _ hfree hsome k
    have hls : D.parentKey p ∉ ls := fun hmem => hfree (List.mem_append_left _ hmem)
    have hp : p ≠ q := by
      rintro rfl
      -- the row is there, so it was rewritten and is locked
      have hcurrent : ((D.parents v.current).lookup p).isSome := by
        rw [hcur, h.present p]
        exact hsome
      obtain ⟨w, hw⟩ := List.exists_mem_of_ne_nil _ (hre.existing.mpr hcurrent)
      obtain ⟨row, hput, -⟩ := hre.parent w hw
      exact hfree (List.mem_append_right _ (hkeys w hw _ (D.key_parentPut w p row hput)))
    rw [applyAll_append, ← hcur, hre.share_eq D, hcur,
      h.untouched p (by simpa using Ne.symm hp) hls hsome]

/-- A session stays consistent when another one, with disjoint locks, commits. -/
theorem Consistent.rebase (h : D.Consistent c ws ls pending)
    (h' : D.Consistent c ws' ls' none) (hdisjoint : ∀ k ∈ ls, k ∉ ls') :
    D.Consistent (applyAll ws' c) ws ls pending := by
  have hpresent : ∀ p, ((D.parents (applyAll ws (applyAll ws' c))).lookup p).isSome
      = ((D.parents (applyAll ws' c)).lookup p).isSome := by
    intro p
    have hp := h.present p
    rw [lookup_parents_applyAll] at hp ⊢
    cases hover : D.parentOverlay ws p with
    | none => rfl
    | some row =>
        rw [hover] at hp
        rw [h'.present p, ← hp]
        rfl
  -- a share is either overlaid, then both states have it, or read below
  have hshare : ∀ p, (∀ k, D.share p (applyAll ws' c) k = D.share p c k) →
      ∀ k, D.share p (applyAll ws (applyAll ws' c)) k = D.share p (applyAll ws c) k := by
    intro p hbelow k
    have hk := hbelow k
    rw [share, share, Table.contribution, Table.contribution] at hk ⊢
    rw [D.lookup_children_applyAll ws, D.lookup_children_applyAll ws]
    cases D.childOverlay ws k with
    | none => exact hk
    | some r => rfl
  have huntouched : ∀ p, pending ≠ some p → D.parentKey p ∉ ls →
      ((D.parents (applyAll ws' c)).lookup p).isSome →
      ∀ k, D.share p (applyAll ws (applyAll ws' c)) k = D.share p (applyAll ws' c) k := by
    intro p hp hfree hsome k
    rw [h'.present p] at hsome
    have hbase := h.untouched p hp hfree hsome k
    rw [share, share, Table.contribution, Table.contribution] at hbase ⊢
    rw [lookup_children_applyAll] at hbase ⊢
    cases hover : D.childOverlay ws k with
    | none => rfl
    | some r =>
        -- the overlaid row is locked here, so the other session did not write it
        rw [hover] at hbase
        have hnot : D.childOverlay ws' k = none := by
          by_contra hne
          obtain ⟨r', hover'⟩ := Option.ne_none_iff_exists'.mp hne
          exact hdisjoint _ (h.child_locked hover) (h'.child_locked hover')
        rw [lookup_children_applyAll, hnot, Option.none_or]
        exact hbase
  refine ⟨h.locked, ?_, hpresent, huntouched⟩
  intro p hp
  cases hsome : ((D.parents (applyAll ws' c)).lookup p).isSome with
  | false =>
      intro row hrow
      have := hpresent p
      rw [hrow, hsome] at this
      cases this
  | true =>
      by_cases hfree : D.parentKey p ∈ ls
      · -- locked here: the committing session left the row and its shares alone
        have hother : D.parentKey p ∉ ls' := hdisjoint _ hfree
        have hbelow := h'.untouched p (by simp) hother (by rw [← h'.present p, hsome])
        have hrow : D.parentOverlay ws' p = none := by
          by_contra hne
          obtain ⟨row, hover⟩ := Option.ne_none_iff_exists'.mp hne
          exact hother (h'.parent_locked hover)
        refine (h.faithful p hp).congr D ?_ (hshare p hbelow)
        rw [lookup_parents_applyAll, lookup_parents_applyAll, lookup_parents_applyAll, hrow,
          Option.none_or]
      · have hrow : D.parentOverlay ws p = none := by
          by_contra hne
          obtain ⟨row, hover⟩ := Option.ne_none_iff_exists'.mp hne
          exact hfree (h.parent_locked hover)
        refine (h'.faithful p (by simp)).congr D ?_ (huntouched p hp hfree hsome)
        rw [lookup_parents_applyAll, hrow, Option.none_or]

end Consistent

/-- What holds of an interleaved run of disciplined programs. -/
structure Sound (sys : System ι σ κ ω ε α) : Prop where
  faithful : ∀ p, D.Faithful sys.committed p
  exclusive : ∀ i j k, k ∈ (sys.sessions i).locks → k ∈ (sys.sessions j).locks → i = j
  session : ∀ i, ∃ pending,
    ((sys.sessions i).status = .running → D.Refreshing pending (sys.sessions i).program) ∧
    D.Consistent sys.committed (sys.sessions i).writes (sys.sessions i).locks pending

/-- Sessions about to start disciplined programs. -/
theorem sound_start {c : σ} {programs : ι → Program σ κ ω ε α} (hc : ∀ p, D.Faithful c p)
    (hp : ∀ i, D.Refreshing none (programs i)) :
    D.Sound (System.start c programs) where
  faithful := hc
  exclusive := by simp [System.start]
  session := fun i => ⟨none, fun _ => hp i, consistent_nil hc⟩

variable [DecidableEq ι]

section Moves

variable {D}

/-- Replacing session `i` keeps soundness when the new session is consistent
and takes no lock that another one holds. -/
theorem Sound.setSession {sys : System ι σ κ ω ε α} (h : D.Sound sys) {i : ι}
    {s : Session σ κ ω ε α} {pending : Option π}
    (hprogram : s.status = .running → D.Refreshing pending s.program)
    (hconsistent : D.Consistent sys.committed s.writes s.locks pending)
    (hfree : ∀ k ∈ s.locks, ∀ j, j ≠ i → k ∉ (sys.sessions j).locks) :
    D.Sound (sys.setSession i s) where
  faithful := h.faithful
  exclusive := by
    intro j j' k hj hj'
    simp only [System.setSession, Function.update_apply] at hj hj'
    by_cases hji : j = i <;> by_cases hji' : j' = i
    · rw [hji, hji']
    · rw [if_pos hji] at hj
      rw [if_neg hji'] at hj'
      exact absurd hj' (hfree k hj j' hji')
    · rw [if_neg hji] at hj
      rw [if_pos hji'] at hj'
      exact absurd hj (hfree k hj' j hji)
    · rw [if_neg hji] at hj
      rw [if_neg hji'] at hj'
      exact h.exclusive j j' k hj hj'
  session := by
    intro j
    simp only [System.setSession, Function.update_apply]
    by_cases hji : j = i
    · rw [if_pos hji]
      exact ⟨pending, hprogram, hconsistent⟩
    · rw [if_neg hji]
      exact h.session j

theorem Sound.close {sys : System ι σ κ ω ε α} (h : D.Sound sys) (i : ι) {status : SessionStatus}
    (hstatus : status ≠ .running) :
    D.Sound (sys.setSession i ((sys.sessions i).close status)) :=
  h.setSession (fun hr => absurd hr hstatus) (consistent_nil h.faithful : D.Consistent _ _ _ none)
    (by simp [Session.close])

/-- A commit publishes the session's own state; the others rebase onto it. -/
theorem Sound.commit {sys : System ι σ κ ω ε α} (h : D.Sound sys) {i : ι} {a : α}
    (hstatus : (sys.sessions i).status = .running)
    (hprogram : (sys.sessions i).program = .done a) :
    D.Sound { committed := sys.current i
              sessions := Function.update sys.sessions i ((sys.sessions i).close .committed) } := by
  obtain ⟨pending, hrefresh, hconsistent⟩ := h.session i
  have hpending : pending = none := by
    have := hrefresh hstatus
    rwa [hprogram] at this
  subst hpending
  have hfaithful : ∀ p, D.Faithful (sys.current i) p := fun p => hconsistent.faithful p (by simp)
  refine ⟨hfaithful, ?_, ?_⟩
  · intro j j' k hj hj'
    simp only [Function.update_apply] at hj hj'
    split at hj
    · simp [Session.close] at hj
    · split at hj'
      · simp [Session.close] at hj'
      · exact h.exclusive j j' k hj hj'
  · intro j
    simp only [Function.update_apply]
    by_cases hji : j = i
    · rw [if_pos hji]
      exact ⟨none, fun hr => by simp [Session.close] at hr, consistent_nil hfaithful⟩
    · rw [if_neg hji]
      obtain ⟨pending', hrefresh', hconsistent'⟩ := h.session j
      refine ⟨pending', hrefresh', hconsistent'.rebase hconsistent ?_⟩
      intro k hk hk'
      exact hji (h.exclusive j i k hk hk')

end Moves

variable [Fintype ι] [DecidableEq κ]

/-- The condition on a move: if it finishes a statement that rewrites the row of
a parent, the children of that parent add up in the statement's snapshot to
what they add up to now. -/
def FreshTotals (sys : System ι σ κ ω ε α) (m : Move ι) : Prop :=
  ∀ (i : ι) (β : Type) (stmt : Statement σ κ ω ε β) (next : β → Program σ κ ω ε α) (snapshot : σ)
    (eff : Effect κ ω β), m = .finish i → (sys.sessions i).program = .step stmt next →
    (sys.sessions i).began = some snapshot → stmt (sys.view i snapshot) = .ok eff →
    ∀ w ∈ eff.writes, ∀ p row, D.parentPut w = some (p, row) →
      D.total p snapshot = D.total p (sys.current i)

variable {D}

/-- The effect of a finished statement is consistent on top of the session. -/
theorem Sound.advance {β : Type} {sys : System ι σ κ ω ε α} (h : D.Sound sys) {i : ι}
    {stmt : Statement σ κ ω ε β} {next : β → Program σ κ ω ε α} {snapshot : σ}
    {eff : Effect κ ω β} (hstatus : (sys.sessions i).status = .running)
    (hprogram : (sys.sessions i).program = .step stmt next)
    (heff : stmt (sys.view i snapshot) = .ok eff)
    (hfree : ∀ k ∈ System.taken σ eff, ¬ sys.HeldElsewhere i k)
    (hfresh : ∀ w ∈ eff.writes, ∀ p row, D.parentPut w = some (p, row) →
      D.total p snapshot = D.total p (sys.current i)) :
    D.Sound (sys.advance i next eff) := by
  obtain ⟨pending, hrefresh, hconsistent⟩ := h.session i
  have hkeys : ∀ w ∈ eff.writes, ∀ k, Store.key σ w = some k → k ∈ System.taken σ eff := by
    intro w hw k hk
    exact List.mem_append_right _ (List.mem_filterMap.mpr ⟨w, hw, hk⟩)
  have hlocks : ∀ k ∈ (sys.sessions i).locks ++ System.taken σ eff,
      ∀ j, j ≠ i → k ∉ (sys.sessions j).locks := by
    intro k hk j hj hmem
    rcases List.mem_append.mp hk with hk | hk
    · exact hj (h.exclusive j i k hmem hk)
    · exact hfree k hk ⟨j, hj, hmem⟩
  have hrefresh := hrefresh hstatus
  rw [hprogram] at hrefresh
  cases pending with
  | none =>
      obtain ⟨pending', htouch, hnext⟩ := hrefresh _ eff heff
      exact h.setSession (fun _ => hnext) (hconsistent.touches htouch hkeys) hlocks
  | some q =>
      obtain ⟨hre, hnext⟩ := hrefresh _ eff heff
      refine h.setSession (fun _ => hnext) (hconsistent.recomputes rfl hre ?_ hkeys) hlocks
      intro hne
      obtain ⟨w, hw⟩ := List.exists_mem_of_ne_nil _ hne
      obtain ⟨row, hput, -⟩ := hre.parent w hw
      exact hfresh w hw q row hput

theorem Sound.step {sys sys' : System ι σ κ ω ε α} {m : Move ι} (h : D.Sound sys)
    (hfresh : D.FreshTotals sys m) (hstep : sys.step m = some sys') : D.Sound sys' := by
  rcases System.step_cases hstep with ⟨i, rfl, hstatus, rfl⟩ |
    ⟨i, β, stmt, next, snapshot, eff, rfl, hstatus, hprogram, hbegan, heff, hfree, rfl⟩ |
    ⟨i, a, rfl, hstatus, hprogram, rfl⟩ | ⟨i, hstatus, rfl⟩
  · obtain ⟨pending, hrefresh, hconsistent⟩ := h.session i
    refine h.setSession hrefresh hconsistent ?_
    intro k hk j hj hmem
    exact hj (h.exclusive j i k hmem hk)
  · exact h.advance hstatus hprogram heff hfree
      (hfresh i β stmt next snapshot eff rfl hprogram hbegan heff)
  · exact h.commit hstatus hprogram
  · exact h.close i (by simp)

/-- **Interleaved fidelity.** In a run of disciplined programs whose
recomputations all read fresh child rows, every committed state stores every
total faithfully. -/
theorem reaches_faithful {sys sys' : System ι σ κ ω ε α} (h : D.Sound sys)
    (hreach : Reaches System.step D.FreshTotals sys sys') :
    ∀ p, D.Faithful sys'.committed p := by
  suffices hsound : D.Sound sys' from hsound.faithful
  exact hreach.invariant h fun _ _ _ hfresh hstep hs => hs.step hfresh hstep

end Interleaved

end DerivedTotal

end Relational
