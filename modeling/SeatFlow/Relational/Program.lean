import Mathlib.Data.Finset.Basic
import SeatFlow.Relational.Table

/-!
# Transaction programs

A transaction is a sequence of statements whose continuation may depend on what
each statement returned. A statement looks at a `View`: the snapshot taken when
it started, the row versions it finds when its row locks are granted, and which
rows others have locked. It answers with the row locks it takes, the row
versions it writes and a result, or it is rejected. Keeping the program a value
lets one text be run alone (`Program.run`, this module) and interleaved with
others (`Relational.ReadCommitted`).
-/

namespace Relational

/-- A state that changes by writes. `key` names the row a write locks; a write
without a key touches nothing another transaction can see. -/
class Store (σ : Type) (κ ω : outParam Type) where
  apply : ω → σ → σ
  key : ω → Option κ

/-- Apply writes, oldest first. -/
def applyAll {σ κ ω : Type} [Store σ κ ω] (writes : List ω) (s : σ) : σ :=
  writes.foldl (fun acc w => Store.apply w acc) s

theorem applyAll_append {σ κ ω : Type} [Store σ κ ω] (ws ws' : List ω) (s : σ) :
    applyAll (ws ++ ws') s = applyAll ws' (applyAll ws s) :=
  List.foldl_append

/-- What one statement may look at. -/
structure View (σ κ : Type) where
  snapshot : σ
  current : σ
  busy : κ → Bool

/-- A transaction running alone sees one state and finds no row locked. -/
@[reducible]
def View.alone {σ κ : Type} (s : σ) : View σ κ :=
  { snapshot := s, current := s, busy := fun _ => false }

/-- What one statement does: explicit row locks, row writes (which lock their
rows as well) and the reply to the program. -/
structure Effect (κ ω β : Type) where
  locks : List κ
  writes : List ω
  result : β

/-- A reply that neither locks nor writes. -/
def Effect.reply {κ ω β : Type} (result : β) : Effect κ ω β :=
  { locks := [], writes := [], result := result }

abbrev Statement (σ κ ω ε β : Type) := View σ κ → Except ε (Effect κ ω β)

/-- Transaction programs over states `σ`, row keys `κ`, writes `ω`, errors `ε`. -/
inductive Program (σ κ ω ε α : Type) : Type 1
  | done (a : α) : Program σ κ ω ε α
  | abort (e : ε) : Program σ κ ω ε α
  | step {β : Type} (stmt : Statement σ κ ω ε β) (next : β → Program σ κ ω ε α) :
      Program σ κ ω ε α

namespace Program

variable {σ κ ω ε α β γ : Type}

def bind : Program σ κ ω ε α → (α → Program σ κ ω ε β) → Program σ κ ω ε β
  | .done a, f => f a
  | .abort e, _ => .abort e
  | .step stmt next, f => .step stmt fun b => (next b).bind f

instance : Monad (Program σ κ ω ε) where
  pure := .done
  bind := .bind

theorem bind_done (p : Program σ κ ω ε α) : p.bind .done = p := by
  induction p with
  | done a => rfl
  | abort e => rfl
  | step stmt next ih => exact congrArg _ (funext ih)

theorem bind_bind (p : Program σ κ ω ε α) (f : α → Program σ κ ω ε β)
    (g : β → Program σ κ ω ε γ) : (p.bind f).bind g = p.bind fun a => (f a).bind g := by
  induction p with
  | done a => rfl
  | abort e => rfl
  | step stmt next ih => exact congrArg _ (funext ih)

instance : LawfulMonad (Program σ κ ω ε) :=
  LawfulMonad.mk' _ bind_done (fun _ _ => rfl) bind_bind

/-- One statement. -/
def perform (stmt : Statement σ κ ω ε β) : Program σ κ ω ε β :=
  .step stmt .done

/-- A plain `SELECT`: it reads the statement's snapshot. -/
def read (f : σ → β) : Program σ κ ω ε β :=
  perform fun v => .ok (.reply (f v.snapshot))

/-- Give up unless `c` holds. -/
def require (c : Prop) [Decidable c] (e : ε) : Program σ κ ω ε Unit :=
  if c then .done () else .abort e

/-- Unwrap a reply that may be missing. -/
def orThrow (e : ε) : Option α → Program σ κ ω ε α
  | some a => .done a
  | none => .abort e

/-! ## §1 Running alone -/

variable [Store σ κ ω]

/-- The serial semantics: every statement sees the current state. An error
rolls the whole program back, so no state accompanies it. -/
def run : Program σ κ ω ε α → σ → Except ε (α × σ)
  | .done a, s => .ok (a, s)
  | .abort e, _ => .error e
  | .step stmt next, s =>
      match stmt (View.alone s) with
      | .error e => .error e
      | .ok eff => (next eff.result).run (applyAll eff.writes s)

/-- The state after a serial transaction: unchanged when it was rejected. -/
def commit (p : Program σ κ ω ε α) (s : σ) : σ :=
  match p.run s with
  | .ok (_, s') => s'
  | .error _ => s

theorem commit_of_run {p : Program σ κ ω ε α} {s s' : σ} {a : α} (h : p.run s = .ok (a, s')) :
    p.commit s = s' := by
  rw [commit, h]

theorem run_bind (p : Program σ κ ω ε α) (f : α → Program σ κ ω ε β) (s : σ) :
    (p >>= f).run s =
      match p.run s with
      | .ok (a, s') => (f a).run s'
      | .error e => .error e := by
  show (p.bind f).run s = _
  induction p generalizing s with
  | done a => rfl
  | abort e => rfl
  | step stmt next ih =>
      simp only [bind, run]
      cases stmt (View.alone s) with
      | error e => rfl
      | ok eff => exact ih eff.result (applyAll eff.writes s)

/-- Dropping the result changes nothing about the state. -/
theorem commit_drop (p : Program σ κ ω ε α) (s : σ) :
    (p >>= fun _ => (Pure.pure () : Program σ κ ω ε Unit)).commit s = p.commit s := by
  rw [commit, commit, run_bind]
  cases p.run s <;> rfl

/-! ## §2 What a program ensures

`Ensures` is partial correctness (whatever state it commits satisfies `Q`),
`Commits` total correctness (it does commit, in a state satisfying `Q`). The
rules below are equivalences, one for each program former. -/

/-- Every result that `p` commits from `s` satisfies `Q`. -/
def Ensures (p : Program σ κ ω ε α) (s : σ) (Q : α → σ → Prop) : Prop :=
  ∀ a s', p.run s = .ok (a, s') → Q a s'

/-- `p` commits from `s`, and its result satisfies `Q`. -/
def Commits (p : Program σ κ ω ε α) (s : σ) (Q : α → σ → Prop) : Prop :=
  ∃ a s', p.run s = .ok (a, s') ∧ Q a s'

theorem ensures_pure {a : α} {s : σ} {Q : α → σ → Prop} :
    Ensures (Pure.pure a : Program σ κ ω ε α) s Q ↔ Q a s := by
  constructor
  · intro h
    exact h a s rfl
  · rintro h _ _ ⟨⟩
    exact h

theorem ensures_abort {e : ε} {s : σ} {Q : α → σ → Prop} :
    Ensures (.abort e : Program σ κ ω ε α) s Q ↔ True := by
  simp [Ensures, run]

theorem ensures_bind {p : Program σ κ ω ε α} {f : α → Program σ κ ω ε β} {s : σ}
    {Q : β → σ → Prop} :
    Ensures (p >>= f) s Q ↔ Ensures p s fun a s' => Ensures (f a) s' Q := by
  simp only [Ensures, run_bind]
  constructor
  · intro h a s' hp b s'' hf
    apply h
    rw [hp]
    exact hf
  · intro h b s'' hrun
    cases hp : p.run s with
    | error e => rw [hp] at hrun; cases hrun
    | ok r =>
        obtain ⟨a, s'⟩ := r
        rw [hp] at hrun
        exact h a s' hp b s'' hrun

theorem ensures_perform {stmt : Statement σ κ ω ε β} {s : σ} {Q : β → σ → Prop} :
    Ensures (perform stmt) s Q ↔
      ∀ eff, stmt (View.alone s) = .ok eff → Q eff.result (applyAll eff.writes s) := by
  simp only [Ensures, perform, run]
  constructor
  · intro h eff heff
    apply h
    rw [heff]
  · intro h b s' hrun
    cases heff : stmt (View.alone s) with
    | error e => rw [heff] at hrun; cases hrun
    | ok eff =>
        rw [heff] at hrun
        cases hrun
        exact h eff heff

theorem ensures_read {f : σ → β} {s : σ} {Q : β → σ → Prop} :
    Ensures (read f : Program σ κ ω ε β) s Q ↔ Q (f s) s := by
  rw [read, ensures_perform]
  constructor
  · intro h
    exact h _ rfl
  · rintro h _ ⟨⟩
    exact h

theorem ensures_require {c : Prop} [Decidable c] {e : ε} {s : σ} {Q : Unit → σ → Prop} :
    Ensures (require c e : Program σ κ ω ε Unit) s Q ↔ (c → Q () s) := by
  unfold require
  split
  · rename_i hc
    exact ensures_pure.trans ⟨fun h _ => h, fun h => h hc⟩
  · rename_i hc
    exact ensures_abort.trans ⟨fun _ h => absurd h hc, fun _ => trivial⟩

theorem ensures_orThrow {e : ε} {o : Option α} {s : σ} {Q : α → σ → Prop} :
    Ensures (orThrow e o : Program σ κ ω ε α) s Q ↔ ∀ a, o = some a → Q a s := by
  cases o with
  | none => simp [orThrow, ensures_abort]
  | some a =>
      refine ensures_pure.trans ⟨?_, fun h => h a rfl⟩
      rintro h _ ⟨⟩
      exact h

theorem ensures_ite {c : Prop} [Decidable c] {p q : Program σ κ ω ε α} {s : σ}
    {Q : α → σ → Prop} :
    Ensures (if c then p else q) s Q ↔ (c → Ensures p s Q) ∧ (¬c → Ensures q s Q) := by
  split <;> simp_all

/-- Consequence: a weaker postcondition is ensured as well. -/
theorem Ensures.mono {p : Program σ κ ω ε α} {s : σ} {Q Q' : α → σ → Prop}
    (h : Ensures p s Q) (himp : ∀ a s', Q a s' → Q' a s') : Ensures p s Q' :=
  fun a s' hrun => himp a s' (h a s' hrun)

theorem Ensures.and {p : Program σ κ ω ε α} {s : σ} {Q Q' : α → σ → Prop}
    (h : Ensures p s Q) (h' : Ensures p s Q') : Ensures p s fun a s' => Q a s' ∧ Q' a s' :=
  fun a s' hrun => ⟨h a s' hrun, h' a s' hrun⟩

/-- What a transaction ensures holds after its commit; a rejected one keeps the
state, so it is enough that the state satisfied it before. -/
theorem Ensures.commit {p : Program σ κ ω ε α} {s : σ} {Q : σ → Prop}
    (h : Ensures p s fun _ s' => Q s') (hs : Q s) : Q (p.commit s) := by
  unfold Program.commit
  split
  · rename_i a s' hrun
    exact h a s' hrun
  · exact hs

/-- A commit changes nothing, or establishes the postcondition. -/
theorem Ensures.commit_cases {p : Program σ κ ω ε α} {s : σ} {Q : α → σ → Prop}
    (h : Ensures p s Q) : p.commit s = s ∨ ∃ a, Q a (p.commit s) := by
  unfold Program.commit
  split
  · rename_i a s' hrun
    exact .inr ⟨a, h a s' hrun⟩
  · exact .inl rfl

theorem commits_pure {a : α} {s : σ} {Q : α → σ → Prop} :
    Commits (Pure.pure a : Program σ κ ω ε α) s Q ↔ Q a s := by
  constructor
  · rintro ⟨_, _, ⟨⟩, h⟩
    exact h
  · intro h
    exact ⟨a, s, rfl, h⟩

theorem commits_abort {e : ε} {s : σ} {Q : α → σ → Prop} :
    Commits (.abort e : Program σ κ ω ε α) s Q ↔ False := by
  simp [Commits, run]

theorem commits_bind {p : Program σ κ ω ε α} {f : α → Program σ κ ω ε β} {s : σ}
    {Q : β → σ → Prop} :
    Commits (p >>= f) s Q ↔ Commits p s fun a s' => Commits (f a) s' Q := by
  simp only [Commits, run_bind]
  constructor
  · rintro ⟨b, s'', hrun, hQ⟩
    cases hp : p.run s with
    | error e => rw [hp] at hrun; cases hrun
    | ok r =>
        obtain ⟨a, s'⟩ := r
        rw [hp] at hrun
        exact ⟨a, s', rfl, b, s'', hrun, hQ⟩
  · rintro ⟨a, s', hp, b, s'', hf, hQ⟩
    refine ⟨b, s'', ?_, hQ⟩
    rw [hp]
    exact hf

theorem commits_perform {stmt : Statement σ κ ω ε β} {s : σ} {Q : β → σ → Prop} :
    Commits (perform stmt) s Q ↔
      ∃ eff, stmt (View.alone s) = .ok eff ∧ Q eff.result (applyAll eff.writes s) := by
  simp only [Commits, perform, run]
  constructor
  · rintro ⟨b, s', hrun, hQ⟩
    cases heff : stmt (View.alone s) with
    | error e => rw [heff] at hrun; cases hrun
    | ok eff =>
        rw [heff] at hrun
        cases hrun
        exact ⟨eff, rfl, hQ⟩
  · rintro ⟨eff, heff, hQ⟩
    refine ⟨eff.result, applyAll eff.writes s, ?_, hQ⟩
    rw [heff]

theorem commits_read {f : σ → β} {s : σ} {Q : β → σ → Prop} :
    Commits (read f : Program σ κ ω ε β) s Q ↔ Q (f s) s := by
  rw [read, commits_perform]
  constructor
  · rintro ⟨_, ⟨⟩, h⟩
    exact h
  · intro h
    exact ⟨_, rfl, h⟩

theorem commits_require {c : Prop} [Decidable c] {e : ε} {s : σ} {Q : Unit → σ → Prop} :
    Commits (require c e : Program σ κ ω ε Unit) s Q ↔ c ∧ Q () s := by
  unfold require
  split
  · rename_i hc
    exact commits_pure.trans ⟨fun h => ⟨hc, h⟩, fun h => h.2⟩
  · rename_i hc
    exact commits_abort.trans ⟨False.elim, fun h => hc h.1⟩

theorem commits_orThrow {e : ε} {o : Option α} {s : σ} {Q : α → σ → Prop} :
    Commits (orThrow e o : Program σ κ ω ε α) s Q ↔ ∃ a, o = some a ∧ Q a s := by
  cases o with
  | none => simp [orThrow, commits_abort]
  | some a =>
      refine commits_pure.trans ⟨fun h => ⟨a, rfl, h⟩, ?_⟩
      rintro ⟨_, ⟨⟩, h⟩
      exact h

theorem commits_ite {c : Prop} [Decidable c] {p q : Program σ κ ω ε α} {s : σ}
    {Q : α → σ → Prop} :
    Commits (if c then p else q) s Q ↔ (c ∧ Commits p s Q) ∨ (¬c ∧ Commits q s Q) := by
  split <;> simp_all

/-- What did not hold before holds after a transaction exactly if it commits to it. -/
theorem commit_iff_commits {p : Program σ κ ω ε α} {s : σ} {Q : σ → Prop} (hs : ¬Q s) :
    Q (p.commit s) ↔ Commits p s fun _ s' => Q s' := by
  unfold Program.commit Commits
  cases hrun : p.run s with
  | error e => simp [hs]
  | ok result =>
      constructor
      · intro hQ
        exact ⟨result.1, result.2, rfl, hQ⟩
      · rintro ⟨a, s', ⟨⟩, hQ⟩
        exact hQ

/-- A committing run also has everything the program ensures. -/
theorem Commits.and_ensures {p : Program σ κ ω ε α} {s : σ} {Q Q' : α → σ → Prop}
    (h : Commits p s Q) (h' : Ensures p s Q') : Commits p s fun a s' => Q a s' ∧ Q' a s' := by
  obtain ⟨a, s', hrun, hQ⟩ := h
  exact ⟨a, s', hrun, hQ, h' a s' hrun⟩

/-- What holds of the result whenever there is one. -/
theorem ensures_of_commits {p : Program σ κ ω ε α} {s : σ} {Q : α → σ → Prop}
    (h : p.Commits s (fun _ _ => True) → p.Commits s Q) : p.Ensures s Q := by
  intro a s' hrun
  obtain ⟨a₁, s₁, hrun₁, hQ⟩ := h ⟨a, s', hrun, trivial⟩
  rw [hrun] at hrun₁
  cases hrun₁
  exact hQ

theorem Commits.mono {p : Program σ κ ω ε α} {s : σ} {Q Q' : α → σ → Prop}
    (h : Commits p s Q) (himp : ∀ a s', Q a s' → Q' a s') : Commits p s Q' := by
  obtain ⟨a, s', hrun, hQ⟩ := h
  exact ⟨a, s', hrun, himp a s' hQ⟩

end Program

end Relational
