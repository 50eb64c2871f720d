import Mathlib.Logic.Relation
import SeatFlow.Relational.Entity

/-!
# Step relations of programs

What a family of programs can do to the state, said once: `step` relates two
states when one statement may lead from the first to the second, and `Steps step
p` says that whatever `p` commits, run alone, was reached by such steps. A fact
that one step preserves is then preserved by every program that takes these
steps (`Steps.ensures`).
-/

namespace Relational

open Relation

namespace Program

variable {σ κ ω ε α β : Type} [Store σ κ ω]

/-- Every serial run of `p` that commits is a sequence of steps. -/
def Steps (step : σ → σ → Prop) (p : Program σ κ ω ε α) : Prop :=
  ∀ s a s', p.run s = .ok (a, s') → ReflTransGen step s s'

variable {step : σ → σ → Prop} {p : Program σ κ ω ε α}

/-- Preservation: what every step preserves is ensured by the program. -/
theorem Steps.ensures {I : σ → Prop} {s : σ} (hp : p.Steps step) (hs : I s)
    (hstep : ∀ s s', step s s' → I s → I s') : p.Ensures s fun _ s' => I s' := by
  intro a s' hrun
  have hreach := hp s a s' hrun
  clear hrun
  induction hreach with
  | refl => exact hs
  | tail _ hlast ih => exact hstep _ _ hlast ih

/-- The state after the transaction, whether it committed or not. -/
theorem Steps.commit (hp : p.Steps step) (s : σ) : ReflTransGen step s (p.commit s) := by
  unfold Program.commit
  split
  · rename_i a s' hrun
    exact hp s a s' hrun
  · exact .refl

theorem Steps.mono {step' : σ → σ → Prop} (hp : p.Steps step)
    (himp : ∀ s s', step s s' → step' s s') : p.Steps step' :=
  fun s a s' hrun => ReflTransGen.mono himp _ _ (hp s a s' hrun)

theorem steps_iff_ensures : p.Steps step ↔ ∀ s, p.Ensures s fun _ s' => ReflTransGen step s s' :=
  Iff.rfl

/-- An invariant as a step relation: what is preserved by every write, or by
every group of writes that belong together. -/
def Keeping (I : σ → Prop) (s s' : σ) : Prop :=
  I s → I s'

/-- What every step keeps, a sequence of steps keeps. -/
theorem Keeping.steps {I : σ → Prop} {s s' : σ} (h : Relation.ReflTransGen (Keeping I) s s')
    (hs : I s) : I s' := by
  induction h with
  | refl => exact hs
  | tail _ hlast ih => exact hlast ih

theorem steps_keeping {I : σ → Prop} :
    p.Steps (Keeping I) ↔ ∀ s, I s → p.Ensures s fun _ s' => I s' := by
  constructor
  · intro hp s hs
    exact hp.ensures hs fun _ _ hstep => hstep
  · intro h s a s' hrun
    exact .single fun hs => h s hs a s' hrun

/-- An invariant that is kept in total: from every state that satisfies `I` the
program commits, and in such a state. -/
def Completing (I : σ → Prop) (p : Program σ κ ω ε α) : Prop :=
  ∀ s, I s → p.Commits s fun _ s' => I s'

/-- A part of the state that is left alone. -/
def Framing {γ : Type} (part : σ → γ) (s s' : σ) : Prop :=
  part s' = part s

theorem Framing.steps {γ : Type} {part : σ → γ} {s s' : σ}
    (h : Relation.ReflTransGen (Framing part) s s') : part s' = part s := by
  induction h with
  | refl => rfl
  | tail _ hlast ih => exact Eq.trans hlast ih

theorem Steps.framed {γ : Type} {part : σ → γ} (hp : p.Steps (Framing part)) (s : σ) :
    p.Ensures s fun _ s' => part s' = part s := by
  refine hp.ensures (I := fun s' => part s' = part s) rfl fun _ _ hstep hs => ?_
  exact Eq.trans hstep hs

/-- What leaves a part alone goes on from a state with the same part. -/
theorem Steps.framed_bind {γ : Type} {part : σ → γ} {s : σ} {f : α → Program σ κ ω ε β}
    {Q : β → σ → Prop} (hp : p.Steps (Framing part))
    (hf : ∀ a s', part s' = part s → (f a).Ensures s' Q) : (p >>= f).Ensures s Q :=
  ensures_bind.mpr ((hp.framed s).mono hf)

theorem steps_pure {a : α} : Steps step (Pure.pure a : Program σ κ ω ε α) :=
  fun _ => ensures_pure.mpr .refl

theorem steps_abort {e : ε} : Steps step (.abort e : Program σ κ ω ε α) :=
  fun _ => ensures_abort.mpr trivial

theorem Steps.bind {f : α → Program σ κ ω ε β} (hp : p.Steps step) (hf : ∀ a, (f a).Steps step) :
    (p >>= f).Steps step := by
  intro s
  refine ensures_bind.mpr fun a s' hrun b s'' hrest => ?_
  exact (hp s a s' hrun).trans (hf a s' b s'' hrest)

theorem steps_require {c : Prop} [Decidable c] {e : ε} :
    Steps step (.require c e : Program σ κ ω ε Unit) :=
  fun _ => ensures_require.mpr fun _ => .refl

theorem steps_orThrow {e : ε} {o : Option α} :
    Steps step (.orThrow e o : Program σ κ ω ε α) :=
  fun _ => ensures_orThrow.mpr fun _ _ => .refl

theorem steps_read {f : σ → β} : Steps step (.read f : Program σ κ ω ε β) :=
  fun _ => ensures_read.mpr .refl

variable {I : σ → Prop}

theorem Completing.commits {s : σ} {Q : α → σ → Prop} (hp : p.Completing I) (hs : I s)
    (hQ : ∀ a s', I s' → Q a s') : p.Commits s Q :=
  (hp s hs).mono hQ

theorem completing_pure {a : α} : Completing I (Pure.pure a : Program σ κ ω ε α) :=
  fun _ hs => commits_pure.mpr hs

theorem Completing.bind {f : α → Program σ κ ω ε β} (hp : p.Completing I)
    (hf : ∀ a, (f a).Completing I) : (p >>= f).Completing I :=
  fun _ hs => commits_bind.mpr (hp.commits hs fun a s' hs' => hf a s' hs')

/-- What is never rejected and leaves a part of the state alone decides nothing. -/
theorem Completing.commits_bind_iff {f : α → Program σ κ ω ε β} {γ : Type} {part : σ → γ} {s : σ}
    {Q : β → σ → Prop} {c : Prop} (hp : p.Completing I) (hframe : p.Steps (Framing part)) (hs : I s)
    (hrest : ∀ a s', I s' → part s' = part s → ((f a).Commits s' Q ↔ c)) :
    (p >>= f).Commits s Q ↔ c := by
  obtain ⟨a, s', hrun, hs'⟩ := hp s hs
  have hiff := hrest a s' hs' (hframe.framed s a s' hrun)
  rw [commits_bind]
  constructor
  · rintro ⟨a', s'', hrun', hcommits⟩
    cases hrun.symm.trans hrun'
    exact hiff.mp hcommits
  · intro hc
    exact ⟨a, s', hrun, hiff.mpr hc⟩

end Program

namespace Entity

open Program

variable {σ κ ω ε τ ρ : Type} [Store σ κ ω] [DecidableEq τ] {E : Entity σ κ ω ε τ ρ}
  {step : σ → σ → Prop}

theorem steps_lockBatch {p : τ → ρ → Bool} {le : τ × ρ → τ × ρ → Prop} [DecidableRel le]
    {limit : Nat} : (E.lockBatch p le limit).Steps step :=
  fun _ => ensures_lockBatch.mpr .refl

theorem steps_find {id : τ} : (E.find id).Steps step :=
  fun _ => ensures_find.mpr .refl

theorem steps_findMany {p : τ → ρ → Bool} : (E.findMany p).Steps step :=
  fun _ => ensures_findMany.mpr .refl

theorem steps_findOrThrow {id : τ} {missing : ε} : (E.findOrThrow id missing).Steps step :=
  fun _ => ensures_findOrThrow.mpr fun _ _ => .refl

theorem steps_lock {id : τ} : (E.lock id).Steps step :=
  fun _ => ensures_lock.mpr .refl

theorem steps_lockSkip {id : τ} {p : ρ → Bool} : (E.lockSkip id p).Steps step :=
  fun _ => ensures_lockSkip.mpr .refl

theorem steps_lockMany {p : τ → ρ → Bool} : (E.lockMany p).Steps step :=
  fun _ => ensures_lockMany.mpr .refl

theorem steps_insert {id : τ} {row : ρ}
    (h : ∀ s, (E.get s).lookup id = none → E.validate s id none row = .ok () →
      step s (E.set ((E.get s).insert id row) s)) : (E.insert id row).Steps step :=
  fun s => ensures_insert.mpr fun habsent hvalid => .single (h s habsent hvalid)

theorem steps_insertNew {id : τ} {row : ρ}
    (h : ∀ s, (E.get s).lookup id = none → E.validate s id none row = .ok () →
      step s (E.set ((E.get s).insert id row) s)) : (E.insertNew id row).Steps step :=
  fun s => ensures_insertNew.mpr
    ⟨fun _ => .refl, fun habsent hvalid => .single (h s habsent hvalid)⟩

theorem steps_updateWhen {id : τ} {p : ρ → Bool} {f : ρ → ρ}
    (h : ∀ s r, (E.get s).lookup id = some r → p r = true →
      E.validate s id (some r) (f r) = .ok () → step s (E.set ((E.get s).insert id (f r)) s)) :
    (E.updateWhen id p f).Steps step :=
  fun s => ensures_updateWhen.mpr
    ⟨fun _ => .refl, fun r hlook hp hvalid => .single (h s r hlook hp hvalid)⟩

theorem steps_update {id : τ} {f : ρ → ρ} {missing : ε}
    (h : ∀ s r, (E.get s).lookup id = some r → E.validate s id (some r) (f r) = .ok () →
      step s (E.set ((E.get s).insert id (f r)) s)) : (E.update id f missing).Steps step :=
  (steps_updateWhen fun s r hlook _ hvalid => h s r hlook hvalid).bind fun _ => steps_orThrow

theorem steps_updateMany {p : τ → ρ → Bool} {f : τ → ρ → ρ}
    (h : ∀ s, (∀ k r, (E.get s).lookup k = some r → p k r = true →
        E.validate s k (some r) (f k r) = .ok ()) →
      step s (E.set ((E.get s).putAll ((E.get s).updates p f)) s)) :
    (E.updateMany p f).Steps step :=
  fun s => ensures_updateMany.mpr fun hvalid => .single (h s hvalid)

/-! Statements that are never rejected. -/

variable {I : σ → Prop}

theorem completing_insertNew {id : τ} {row : ρ}
    (h : ∀ s, I s → (E.get s).lookup id = none →
      E.validate s id none row = .ok () ∧ I (E.set ((E.get s).insert id row) s)) :
    (E.insertNew id row).Completing I := by
  intro s hs
  refine commits_insertNew.mpr ?_
  cases hlook : (E.get s).lookup id with
  | some r => exact .inl ⟨rfl, hs⟩
  | none => exact .inr ⟨rfl, h s hs hlook⟩

/-! A table of which the step relation says nothing. -/

/-- Any write of this entity is a step. -/
def Free (E : Entity σ κ ω ε τ ρ) (step : σ → σ → Prop) : Prop :=
  ∀ s t, step s (E.set t s)

theorem Free.insert (hE : E.Free step) {id : τ} {row : ρ} : (E.insert id row).Steps step :=
  steps_insert fun s _ _ => hE s _

theorem Free.insertNew (hE : E.Free step) {id : τ} {row : ρ} : (E.insertNew id row).Steps step :=
  steps_insertNew fun s _ _ => hE s _

theorem Free.updateWhen (hE : E.Free step) {id : τ} {p : ρ → Bool} {f : ρ → ρ} :
    (E.updateWhen id p f).Steps step :=
  steps_updateWhen fun s _ _ _ _ => hE s _

theorem Free.update (hE : E.Free step) {id : τ} {f : ρ → ρ} {missing : ε} :
    (E.update id f missing).Steps step :=
  steps_update fun s _ _ _ => hE s _

theorem Free.updateMany (hE : E.Free step) {p : τ → ρ → Bool} {f : τ → ρ → ρ} :
    (E.updateMany p f).Steps step :=
  steps_updateMany fun s _ => hE s _

/-! A table whose constraints alone decide what a step is. -/

/-- Every row that the constraints admit may be written. -/
def AdmitsRow (E : Entity σ κ ω ε τ ρ) (step : σ → σ → Prop) : Prop :=
  ∀ s id row, E.validate s id ((E.get s).lookup id) row = .ok () →
    step s (E.set ((E.get s).insert id row) s)

/-- Every batch of updates that the constraints admit may be written. -/
def AdmitsBatch (E : Entity σ κ ω ε τ ρ) (step : σ → σ → Prop) : Prop :=
  ∀ s p f, (∀ k r, (E.get s).lookup k = some r → p k r = true →
      E.validate s k (some r) (f k r) = .ok ()) →
    step s (E.set ((E.get s).putAll ((E.get s).updates p f)) s)

theorem Free.row (hE : E.Free step) : E.AdmitsRow step :=
  fun s _ _ _ => hE s _

theorem Free.batch (hE : E.Free step) : E.AdmitsBatch step :=
  fun s _ _ _ => hE s _

theorem AdmitsRow.insert (hE : E.AdmitsRow step) {id : τ} {row : ρ} :
    (E.insert id row).Steps step :=
  steps_insert fun s habsent hvalid => hE s id row (by rwa [habsent])

theorem AdmitsRow.insertNew (hE : E.AdmitsRow step) {id : τ} {row : ρ} :
    (E.insertNew id row).Steps step :=
  steps_insertNew fun s habsent hvalid => hE s id row (by rwa [habsent])

theorem AdmitsRow.updateWhen (hE : E.AdmitsRow step) {id : τ} {p : ρ → Bool} {f : ρ → ρ} :
    (E.updateWhen id p f).Steps step :=
  steps_updateWhen fun s r hlook _ hvalid => hE s id (f r) (by rwa [hlook])

theorem AdmitsRow.update (hE : E.AdmitsRow step) {id : τ} {f : ρ → ρ} {missing : ε} :
    (E.update id f missing).Steps step :=
  hE.updateWhen.bind fun _ => steps_orThrow

theorem AdmitsBatch.updateMany (hE : E.AdmitsBatch step) {p : τ → ρ → Bool} {f : τ → ρ → ρ} :
    (E.updateMany p f).Steps step :=
  steps_updateMany fun s hvalid => hE s p f hvalid

/-! A table whose rows begin and change in some ways only. -/

/-- Every new row that begins so and that the constraints admit may be written. -/
def AdmitsNew (E : Entity σ κ ω ε τ ρ) (start : ρ → Prop) (step : σ → σ → Prop) : Prop :=
  ∀ s id row, start row → (E.get s).lookup id = none → E.validate s id none row = .ok () →
    step s (E.set ((E.get s).insert id row) s)

/-- Every such change of a row. -/
def AdmitsChange (E : Entity σ κ ω ε τ ρ) (change : ρ → ρ → Prop) (step : σ → σ → Prop) : Prop :=
  ∀ s id r new, (E.get s).lookup id = some r → change r new →
    E.validate s id (some r) new = .ok () → step s (E.set ((E.get s).insert id new) s)

/-- Every batch of such changes. -/
def AdmitsChanges (E : Entity σ κ ω ε τ ρ) (change : ρ → ρ → Prop) (step : σ → σ → Prop) : Prop :=
  ∀ s p f, (∀ k r, change r (f k r)) → (∀ k r, (E.get s).lookup k = some r → p k r = true →
      E.validate s k (some r) (f k r) = .ok ()) →
    step s (E.set ((E.get s).putAll ((E.get s).updates p f)) s)

theorem AdmitsRow.new (hE : E.AdmitsRow step) {start : ρ → Prop} : E.AdmitsNew start step :=
  fun s id row _ habsent hvalid => hE s id row (by rwa [habsent])

theorem AdmitsRow.change (hE : E.AdmitsRow step) {change : ρ → ρ → Prop} :
    E.AdmitsChange change step :=
  fun s id r new hlook _ hvalid => hE s id new (by rwa [hlook])

theorem AdmitsBatch.changes (hE : E.AdmitsBatch step) {change : ρ → ρ → Prop} :
    E.AdmitsChanges change step :=
  fun s p f _ hvalid => hE s p f hvalid

theorem AdmitsNew.insert {start : ρ → Prop} (hE : E.AdmitsNew start step) {id : τ} {row : ρ}
    (hrow : start row) : (E.insert id row).Steps step :=
  steps_insert fun s habsent hvalid => hE s id row hrow habsent hvalid

theorem AdmitsChange.update {change : ρ → ρ → Prop} (hE : E.AdmitsChange change step) {id : τ}
    {f : ρ → ρ} {missing : ε} (hf : ∀ r, change r (f r)) : (E.update id f missing).Steps step :=
  steps_update fun s r hlook hvalid => hE s id r (f r) hlook (hf r) hvalid

theorem AdmitsChanges.updateMany {change : ρ → ρ → Prop} (hE : E.AdmitsChanges change step)
    {p : τ → ρ → Bool} {f : τ → ρ → ρ} (hf : ∀ k r, change r (f k r)) :
    (E.updateMany p f).Steps step :=
  steps_updateMany fun s hvalid => hE s p f hf hvalid

end Entity

end Relational
