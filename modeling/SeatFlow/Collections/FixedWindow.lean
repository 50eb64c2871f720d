import Mathlib.Data.List.Nodup
import Mathlib.Data.List.Perm.Subperm

/-!
# Fixed windows

A counter that starts anew with the first hit after its window has ended. The hits of a window are
numbered from one; those whose number is at most a limit are few in any stretch of time as long as
a window, however the stretch and the windows lie.
-/

namespace Collections

/-- A hit, the time its window opened, and its number in it. -/
structure WindowHit where
  time : Int
  opened : Int
  count : Nat
  deriving DecidableEq

/-- The hit after the last one. -/
def nextHit (width : Int) (last : Option WindowHit) (now : Int) : WindowHit :=
  match last.filter fun hit => now < hit.opened + width with
  | none => { time := now, opened := now, count := 1 }
  | some hit => { time := now, opened := hit.opened, count := hit.count + 1 }

/-- A history of hits, the last one first. -/
inductive Hits (width : Int) : List WindowHit → Prop
  | nil : Hits width []
  | next {history : List WindowHit} {now : Int} (earlier : Hits width history)
      (later : ∀ hit ∈ history.head?, hit.time ≤ now) :
      Hits width (nextHit width history.head? now :: history)

/-- `hit` was before `hit'`: in the same window, or in one that had ended. -/
def WindowHit.Before (width : Int) (hit hit' : WindowHit) : Prop :=
  hit.time ≤ hit'.time ∧
    (hit.opened = hit'.opened ∧ hit.count < hit'.count ∨ hit.opened + width ≤ hit'.opened)

section History

variable {width : Int} {history : List WindowHit}

theorem nextHit_cases (width : Int) (last : Option WindowHit) (now : Int) :
    (∃ hit, last = some hit ∧ now < hit.opened + width ∧
      nextHit width last now = { time := now, opened := hit.opened, count := hit.count + 1 }) ∨
    ((∀ hit, last = some hit → hit.opened + width ≤ now) ∧
      nextHit width last now = { time := now, opened := now, count := 1 }) := by
  unfold nextHit
  cases last with
  | none =>
    refine .inr ⟨fun _ hnone => ?_, rfl⟩
    cases hnone
  | some hit =>
    by_cases hlive : now < hit.opened + width
    · refine .inl ⟨hit, rfl, hlive, ?_⟩
      simp [Option.filter_some, hlive]
    · refine .inr ⟨fun hit' hmem => ?_, ?_⟩
      · cases hmem
        exact Int.not_lt.mp hlive
      · simp [Option.filter_some, hlive]

/-- Every hit lies in its window and is numbered. -/
theorem Hits.placed (hwidth : 0 < width) (h : Hits width history) :
    ∀ hit ∈ history, hit.opened ≤ hit.time ∧ hit.time < hit.opened + width ∧ 1 ≤ hit.count := by
  induction h with
  | nil => exact fun _ hmem => by cases hmem
  | @next history now earlier later ih =>
    intro hit hmem
    rcases List.mem_cons.mp hmem with rfl | hold
    · rcases nextHit_cases width history.head? now with
        ⟨last, hlast, hlive, hnext⟩ | ⟨-, hnext⟩
      · rw [hnext]
        have hbefore := (ih last (List.mem_of_head? hlast)).1
        exact ⟨Int.le_trans hbefore (later last hlast), hlive, Nat.le_add_left 1 _⟩
      · rw [hnext]
        exact ⟨Int.le_refl now, Int.lt_add_of_pos_right now hwidth, Nat.le_refl 1⟩
    · exact ih hit hold

/-- Any two hits are one before the other. -/
theorem Hits.ordered (hwidth : 0 < width) (h : Hits width history) :
    history.Pairwise fun hit' hit => hit.Before width hit' := by
  induction h with
  | nil => exact List.Pairwise.nil
  | @next history now earlier later ih =>
    refine List.pairwise_cons.mpr ⟨fun hit hmem => ?_, ih⟩
    -- what holds of the last hit holds of those before it
    obtain ⟨last, hlast⟩ : ∃ last, history.head? = some last := by
      cases history with
      | nil => cases hmem
      | cons last _ => exact ⟨last, rfl⟩
    have hbefore : hit = last ∨ hit.Before width last := by
      cases history with
      | nil => cases hmem
      | cons first rest =>
        cases hlast
        exact (List.mem_cons.mp hmem).imp_right ((List.pairwise_cons.mp ih).1 hit)
    have hplaced := earlier.placed hwidth last (List.mem_of_head? hlast)
    have htime := later last hlast
    rcases nextHit_cases width history.head? now with
      ⟨last', hlast', hlive, hnext⟩ | ⟨hended, hnext⟩
    · cases hlast.symm.trans hlast'
      rw [hnext]
      rcases hbefore with rfl | ⟨hearlier, hcase⟩
      · exact ⟨htime, .inl ⟨rfl, Nat.lt_succ_self _⟩⟩
      · refine ⟨Int.le_trans hearlier htime, hcase.imp (fun hsame => ⟨hsame.1, ?_⟩) id⟩
        exact Nat.lt_succ_of_lt hsame.2
    · rw [hnext]
      have hopened := hended last hlast
      rcases hbefore with rfl | ⟨hearlier, hcase⟩
      · exact ⟨htime, .inr hopened⟩
      · refine ⟨Int.le_trans hearlier htime, .inr ?_⟩
        dsimp only
        rcases hcase with ⟨hsame, -⟩ | hleft <;> omega

end History

/-! The bound. -/

/-- Numbers between one and a limit. -/
theorem length_le_of_nodup {counts : List Nat} {limit : Nat} (hnodup : counts.Nodup)
    (hrange : ∀ n ∈ counts, 1 ≤ n ∧ n ≤ limit) : counts.length ≤ limit := by
  have hsubset : counts ⊆ List.range' 1 limit := by
    intro n hn
    rw [List.mem_range'_1]
    have := hrange n hn
    omega
  simpa using (List.subperm_of_subset hnodup hsubset).length_le

/-- The hits within the limit, in a stretch of time. -/
def admittedIn (limit : Nat) (start width : Int) (history : List WindowHit) : List WindowHit :=
  history.filter fun hit =>
    decide (start ≤ hit.time ∧ hit.time < start + width) && decide (hit.count ≤ limit)

section Bound

variable {width start : Int} {limit : Nat} {history : List WindowHit}

/-- Hits of windows that opened less than a window's length apart are of one window. -/
theorem Hits.length_sharing_le (hwidth : 0 < width) (h : Hits width history)
    {p : WindowHit → Bool} (hcount : ∀ hit ∈ history, p hit = true → hit.count ≤ limit)
    (hnear : ∀ hit ∈ history, ∀ hit' ∈ history, p hit = true → p hit' = true →
      hit.opened < hit'.opened + width) : (history.filter p).length ≤ limit := by
  have hsub := List.filter_sublist (p := p) (l := history)
  have hordered := (h.ordered hwidth).sublist hsub
  have hnodup : ((history.filter p).map WindowHit.count).Nodup := by
    refine List.pairwise_map.mpr ?_
    refine hordered.imp_of_mem fun {hit' hit} hmem' hmem hbefore => ?_
    rcases hbefore.2 with ⟨-, hlt⟩ | hleft
    · exact Nat.ne_of_gt hlt
    · obtain ⟨hin', hp'⟩ := List.mem_filter.mp hmem'
      obtain ⟨hin, hp⟩ := List.mem_filter.mp hmem
      exact absurd (hnear hit' hin' hit hin hp' hp) (Int.not_lt.mpr hleft)
  have hlength := length_le_of_nodup hnodup fun n hn => by
    obtain ⟨hit, hmem, rfl⟩ := List.mem_map.mp hn
    obtain ⟨hin, hp⟩ := List.mem_filter.mp hmem
    exact ⟨(h.placed hwidth hit hin).2.2, hcount hit hin hp⟩
  simpa using hlength

/-- **The bound of a fixed window.** A stretch of time as long as a window meets two windows at
most. -/
theorem Hits.length_admittedIn_le (hwidth : 0 < width) (h : Hits width history) :
    (admittedIn limit start width history).length ≤ 2 * limit := by
  have hsplit := List.length_eq_length_filter_add
    (l := admittedIn limit start width history) fun hit => decide (hit.opened < start)
  unfold admittedIn at hsplit ⊢
  rw [List.filter_filter, List.filter_filter] at hsplit
  rw [hsplit, Nat.two_mul]
  refine Nat.add_le_add (h.length_sharing_le hwidth (fun hit _ hp => ?_)
    fun hit hmem hit' hmem' hp hp' => ?_) (h.length_sharing_le hwidth (fun hit _ hp => ?_)
    fun hit hmem hit' hmem' hp hp' => ?_) <;>
    simp only [Bool.and_eq_true, Bool.not_eq_true', decide_eq_true_eq, decide_eq_false_iff_not]
      at *
  · exact hp.2.2
  · have hplaced := h.placed hwidth hit' hmem'
    omega
  · exact hp.2.2
  · have hplaced := h.placed hwidth hit hmem
    omega

end Bound

end Collections
