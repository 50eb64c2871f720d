import Mathlib.Algebra.GroupWithZero.Nat
import Mathlib.Computability.RegularExpressions
import Mathlib.Data.List.Chain
import Mathlib.Data.List.DropRight

/-!
# Words and separators

Texts that are words of one or more letters, joined by single separators. The usual way to make
one from any text is to put one separator in the place of every run of other characters and to
trim; what comes out is such a text or empty, and such a text comes out as it went in. Two
separators in a row say where a text of this kind ends.
-/

namespace Text

variable {α : Type} {p : α → Bool} {sep : α} {l l' a a' b b' : List α}

/-! ## §1 Joined words -/

/-- Words of letters in `p`, joined by single separators. -/
inductive Joined (p : α → Bool) (sep : α) : List α → Prop
  | single {c : α} (hc : p c = true) : Joined p sep [c]
  | letter {c : α} {l : List α} (hc : p c = true) (h : Joined p sep l) : Joined p sep (c :: l)
  | separated {c : α} {l : List α} (hc : p c = true) (h : Joined p sep l) :
      Joined p sep (c :: sep :: l)

/-- Not two separators in a row. -/
def Spaced (sep : α) (l : List α) : Prop :=
  l.IsChain fun a b => ¬(a = sep ∧ b = sep)

theorem Joined.head (hsep : p sep = false) (h : Joined p sep l) :
    ∃ c rest, l = c :: rest ∧ c ≠ sep := by
  have hne : ∀ {c}, p c = true → c ≠ sep := by
    rintro c hc rfl
    exact absurd hc (by simp [hsep])
  cases h with
  | single hc => exact ⟨_, _, rfl, hne hc⟩
  | letter hc _ => exact ⟨_, _, rfl, hne hc⟩
  | separated hc _ => exact ⟨_, _, rfl, hne hc⟩

/-- **What it takes**: letters and separators, no two of these in a row and none at the ends. -/
theorem joined_iff (hsep : p sep = false) : Joined p sep l ↔
    l ≠ [] ∧ (∀ c ∈ l, p c = true ∨ c = sep) ∧ Spaced sep l ∧
      l.head? ≠ some sep ∧ l.getLast? ≠ some sep := by
  have hne : ∀ {c}, p c = true → c ≠ sep := by
    rintro c hc rfl
    exact absurd hc (by simp [hsep])
  constructor
  · intro h
    induction h with
    | single hc => simp [Spaced, hc, hne hc]
    | @letter c l hc h ih =>
        obtain ⟨d, rest, rfl, hd⟩ := h.head hsep
        obtain ⟨-, hchars, hspaced, -, hlast⟩ := ih
        refine ⟨by simp, ?_, ?_, by simpa using hne hc, by simpa using hlast⟩
        · exact List.forall_mem_cons.mpr ⟨.inl hc, hchars⟩
        · exact List.isChain_cons_cons.mpr ⟨fun hboth => hne hc hboth.1, hspaced⟩
    | @separated c l hc h ih =>
        obtain ⟨d, rest, rfl, hd⟩ := h.head hsep
        obtain ⟨-, hchars, hspaced, -, hlast⟩ := ih
        refine ⟨by simp, ?_, ?_, by simpa using hne hc, by simpa using hlast⟩
        · exact List.forall_mem_cons.mpr ⟨.inl hc, List.forall_mem_cons.mpr ⟨.inr rfl, hchars⟩⟩
        · refine List.isChain_cons_cons.mpr ⟨fun hboth => hne hc hboth.1, ?_⟩
          exact List.isChain_cons_cons.mpr ⟨fun hboth => hd hboth.2, hspaced⟩
  · rintro ⟨hnil, hchars, hspaced, hhead, hlast⟩
    -- by the length: a separator is read together with the letter before it
    generalize hn : l.length = n
    induction n using Nat.strong_induction_on generalizing l with
    | _ n ih =>
      subst hn
      match l with
      | [c] =>
          have hc : p c = true := by
            rcases hchars c (by simp) with hc | rfl
            · exact hc
            · exact absurd rfl hhead
          exact .single hc
      | c :: d :: rest =>
          have hc : p c = true := by
            rcases hchars c (by simp) with hc | rfl
            · exact hc
            · exact absurd rfl hhead
          obtain ⟨-, hspaced'⟩ := List.isChain_cons_cons.mp hspaced
          by_cases hd : d = sep
          · subst hd
            cases rest with
            | nil => exact absurd rfl hlast
            | cons e rest =>
                obtain ⟨he, hspaced''⟩ := List.isChain_cons_cons.mp hspaced'
                refine .separated hc
                  (ih (e :: rest).length (by simp) (by simp) ?_ hspaced'' ?_ ?_ rfl)
                · exact fun x hx => hchars x (by simp [hx])
                · simpa using he
                · simpa using hlast
          · refine .letter hc (ih (d :: rest).length (by simp) (by simp) ?_ hspaced' ?_ ?_ rfl)
            · exact fun x hx => hchars x (by simp [hx])
            · simpa using hd
            · simpa using hlast

/-! ## §2 Replacing runs -/

/-- One separator in the place of every run of other characters; `inRun` when the last character
was of such a run. -/
def replaceRuns (p : α → Bool) (sep : α) : Bool → List α → List α
  | _, [] => []
  | inRun, c :: rest =>
      if p c then c :: replaceRuns p sep false rest
      else if inRun then replaceRuns p sep true rest
      else sep :: replaceRuns p sep true rest

theorem replaceRuns_chars (inRun : Bool) :
    ∀ c ∈ replaceRuns p sep inRun l, p c = true ∨ c = sep := by
  induction l generalizing inRun with
  | nil => simp [replaceRuns]
  | cons d rest ih =>
      intro c hc
      unfold replaceRuns at hc
      split_ifs at hc with hd hrun
      · rcases List.mem_cons.mp hc with rfl | hc
        · exact .inl hd
        · exact ih _ c hc
      · exact ih _ c hc
      · rcases List.mem_cons.mp hc with rfl | hc
        · exact .inr rfl
        · exact ih _ c hc

/-- Only separators are put in. -/
theorem mem_replaceRuns {c : α} {inRun : Bool} (h : c ∈ replaceRuns p sep inRun l) :
    c ∈ l ∨ c = sep := by
  induction l generalizing inRun with
  | nil => cases h
  | cons d rest ih =>
      have hrest : ∀ {inRun}, c ∈ replaceRuns p sep inRun rest → c ∈ d :: rest ∨ c = sep :=
        fun h => (ih h).imp_left (List.mem_cons_of_mem d)
      unfold replaceRuns at h
      split_ifs at h with hd hrun
      · rcases List.mem_cons.mp h with rfl | h
        · exact .inl List.mem_cons_self
        · exact hrest h
      · exact hrest h
      · rcases List.mem_cons.mp h with rfl | h
        · exact .inr rfl
        · exact hrest h

/-- A run that goes on leaves no second separator. -/
theorem replaceRuns_spaced (hsep : p sep = false) (inRun : Bool) :
    Spaced sep (replaceRuns p sep inRun l) ∧
      (inRun = true → (replaceRuns p sep inRun l).head? ≠ some sep) := by
  induction l generalizing inRun with
  | nil => simp [replaceRuns, Spaced]
  | cons d rest ih =>
      unfold replaceRuns
      split_ifs with hd hrun
      · have hne : d ≠ sep := by
          rintro rfl
          exact absurd hd (by simp [hsep])
        refine ⟨List.isChain_cons.mpr ⟨fun _ _ hboth => hne hboth.1, (ih false).1⟩, ?_⟩
        simpa using fun _ => hne
      · exact ⟨(ih true).1, fun _ => (ih true).2 rfl⟩
      · refine ⟨List.isChain_cons.mpr ⟨?_, (ih true).1⟩, by simp [hrun]⟩
        rintro y hy ⟨-, rfl⟩
        exact (ih true).2 rfl hy

/-- Where separators are single already, nothing is replaced. -/
theorem replaceRuns_eq_self (hchars : ∀ c ∈ l, p c = true ∨ c = sep) (hspaced : Spaced sep l)
    (inRun : Bool) (hhead : inRun = true → l.head? ≠ some sep) : replaceRuns p sep inRun l = l := by
  induction l generalizing inRun with
  | nil => rfl
  | cons d rest ih =>
      obtain ⟨hd, hrest⟩ := List.forall_mem_cons.mp hchars
      obtain ⟨hnext, hspaced'⟩ := List.isChain_cons.mp hspaced
      unfold replaceRuns
      split_ifs with hp hrun
      · rw [ih hrest hspaced' false (by simp)]
      · obtain rfl := hd.resolve_left hp
        exact absurd rfl (hhead hrun)
      · obtain rfl := hd.resolve_left hp
        rw [ih hrest hspaced' true]
        exact fun _ hhead' => hnext _ hhead' ⟨rfl, rfl⟩

/-! ## §3 Trimming -/

/-- The first character of a beginning is that of the whole. -/
theorem head_of_prefix (h : l' <+: l) (hhead : l.head? ≠ some sep) : l'.head? ≠ some sep := by
  obtain ⟨rest, rfl⟩ := h
  cases l' with
  | nil => simp
  | cons c l' => simpa using hhead

section Trimming

variable [DecidableEq α]

/-- Separators at both ends are left out. -/
def trimmed (sep : α) (l : List α) : List α :=
  (l.dropWhile (· == sep)).rdropWhile (· == sep)

theorem head_dropWhile : (l.dropWhile (· == sep)).head? ≠ some sep := by
  intro hhead
  have hfirst := List.head?_dropWhile_not (· == sep) l
  rw [hhead] at hfirst
  simp at hfirst

theorem last_rdropWhile : (l.rdropWhile (· == sep)).getLast? ≠ some sep := by
  intro hlast
  have hne : l.rdropWhile (· == sep) ≠ [] := by
    intro hnil
    simp [hnil] at hlast
  rw [List.getLast?_eq_some_getLast hne] at hlast
  exact List.rdropWhile_last_not _ _ hne (by simpa using hlast)

/-- A beginning, cut where its last word ends, is empty or again joined words. -/
theorem joined_of_prefix (hsep : p sep = false) (hchars : ∀ c ∈ l, p c = true ∨ c = sep)
    (hspaced : Spaced sep l) (hhead : l.head? ≠ some sep) (h : l' <+: l)
    (hne : l'.rdropWhile (· == sep) ≠ []) : Joined p sep (l'.rdropWhile (· == sep)) := by
  have hprefix : l'.rdropWhile (· == sep) <+: l := (List.rdropWhile_prefix _ _).trans h
  refine (joined_iff hsep).mpr
    ⟨hne, fun c hc => hchars c (List.IsPrefix.subset hprefix hc), ?_, ?_, ?_⟩
  · exact hspaced.prefix hprefix
  · exact head_of_prefix hprefix hhead
  · exact last_rdropWhile

/-- Joined words have nothing to trim. -/
theorem trimmed_eq_self (hhead : l.head? ≠ some sep) (hlast : l.getLast? ≠ some sep) :
    trimmed sep l = l := by
  have hdrop : l.dropWhile (· == sep) = l := by
    cases l with
    | nil => rfl
    | cons c l => exact List.dropWhile_cons_of_neg (by simpa using hhead)
  rw [trimmed, hdrop, List.rdropWhile_eq_self_iff]
  intro hne hsep
  rw [List.getLast?_eq_some_getLast hne] at hlast
  exact hlast (by simpa using hsep)

end Trimming

/-! ## §4 Two separators in a row -/

theorem spaced_append : Spaced sep (a ++ b) ↔
    Spaced sep a ∧ Spaced sep b ∧ ¬(a.getLast? = some sep ∧ b.head? = some sep) := by
  unfold Spaced
  rw [List.isChain_append]
  refine and_congr_right fun _ => and_congr_right fun _ => ⟨?_, ?_⟩
  · rintro h ⟨hlast, hhead⟩
    exact h sep hlast sep hhead ⟨rfl, rfl⟩
  · rintro h x hx y hy ⟨rfl, rfl⟩
    exact h ⟨hx, hy⟩

/-- A separator behind a text. -/
theorem spaced_append_singleton :
    Spaced sep (a ++ [sep]) ↔ Spaced sep a ∧ a.getLast? ≠ some sep := by
  rw [spaced_append]
  simp [Spaced]

/-- A separator before a text. -/
theorem spaced_cons : Spaced sep (sep :: b) ↔ Spaced sep b ∧ b.head? ≠ some sep := by
  have happ := @spaced_append α sep [sep] b
  rw [List.singleton_append] at happ
  rw [happ]
  simp [Spaced]

/-- **Where the first part ends.** -/
theorem append_inj_of_spaced (ha : Spaced sep (a ++ [sep])) (ha' : Spaced sep (a' ++ [sep]))
    (h : a ++ sep :: sep :: b = a' ++ sep :: sep :: b') : a = a' ∧ b = b' := by
  -- the longer of the two would end in a separator, or have two in a row
  have hlonger : ∀ {a a' rest b b' : List α}, Spaced sep (a' ++ [sep]) → a' = a ++ rest →
      sep :: sep :: b = rest ++ sep :: sep :: b' → rest = [] := by
    intro a a' rest b b' ha' heq hrest
    obtain ⟨hspaced, hlast⟩ := spaced_append_singleton.mp ha'
    match rest with
    | [] => rfl
    | [c] =>
        cases hrest
        exact absurd (by simp [heq]) hlast
    | c :: d :: rest =>
        cases hrest
        rw [heq] at hspaced
        exact absurd rfl (spaced_cons.mp (spaced_append.mp hspaced).2.1).2
  rcases List.append_eq_append_iff.mp h with ⟨rest, heq, hrest⟩ | ⟨rest, heq, hrest⟩
  · obtain rfl := hlonger ha' heq hrest
    simp_all
  · obtain rfl := hlonger ha heq hrest
    simp_all

/-- Joined words end where two separators in a row come. -/
theorem Joined.append_inj (hsep : p sep = false) (ha : Joined p sep a) (ha' : Joined p sep a')
    (h : a ++ sep :: sep :: b = a' ++ sep :: sep :: b') : a = a' ∧ b = b' := by
  have hspaced : ∀ {l}, Joined p sep l → Spaced sep (l ++ [sep]) := by
    intro l hl
    obtain ⟨-, -, hspaced, -, hlast⟩ := (joined_iff hsep).mp hl
    exact spaced_append_singleton.mpr ⟨hspaced, hlast⟩
  exact append_inj_of_spaced (hspaced ha) (hspaced ha') h

/-! ## §5 As a regular expression -/

section Patterns

open RegularExpression
open scoped Computability

/-- `[…]`: one character of a list. -/
def oneOf (letters : List α) : RegularExpression α :=
  letters.foldr (fun c r => char c + r) 0

/-- `P+`. -/
def plus (P : RegularExpression α) : RegularExpression α :=
  P * P.star

/-- `[…]+(?:s[…]+)*`. -/
def joinedPattern (letters : List α) (sep : α) : RegularExpression α :=
  plus (oneOf letters) * (char sep * plus (oneOf letters)).star

theorem mem_oneOf {letters : List α} {x : List α} :
    x ∈ (oneOf letters).matches' ↔ ∃ c ∈ letters, x = [c] := by
  induction letters with
  | nil => simp [oneOf]
  | cons c letters ih =>
      show x ∈ (char c + oneOf letters).matches' ↔ _
      rw [matches'_add, Language.mem_add, ih, matches'_char, List.exists_mem_cons_iff]
      rfl

theorem mem_plus {P : RegularExpression α} {x : List α} :
    x ∈ (plus P).matches' ↔
      ∃ y ∈ P.matches', ∃ ys : List (List α), (∀ z ∈ ys, z ∈ P.matches') ∧ x = y ++ ys.flatten := by
  rw [plus, matches'_mul, matches'_star, Language.mem_mul]
  constructor
  · rintro ⟨y, hy, z, hz, rfl⟩
    obtain ⟨ys, rfl, hys⟩ := Language.mem_kstar.mp hz
    exact ⟨y, hy, ys, hys, rfl⟩
  · rintro ⟨y, hy, ys, hys, rfl⟩
    exact ⟨y, hy, ys.flatten, Language.mem_kstar.mpr ⟨ys, rfl, hys⟩, rfl⟩

/-- A word: one letter or more. -/
theorem mem_word {letters : List α} {x : List α} :
    x ∈ (plus (oneOf letters)).matches' ↔ x ≠ [] ∧ ∀ c ∈ x, c ∈ letters := by
  rw [mem_plus]
  constructor
  · rintro ⟨y, hy, ys, hys, rfl⟩
    obtain ⟨c, hc, rfl⟩ := mem_oneOf.mp hy
    refine ⟨by simp, fun d hd => ?_⟩
    rcases List.mem_cons.mp hd with rfl | hd
    · exact hc
    · obtain ⟨z, hz, hdz⟩ := List.mem_flatten.mp hd
      obtain ⟨e, he, rfl⟩ := mem_oneOf.mp (hys z hz)
      rwa [List.mem_singleton.mp hdz]
  · rintro ⟨hne, hletters⟩
    obtain ⟨c, rest, rfl⟩ := List.exists_cons_of_ne_nil hne
    refine ⟨[c], mem_oneOf.mpr ⟨c, hletters c (by simp), rfl⟩, rest.map fun d => [d], ?_, ?_⟩
    · intro z hz
      obtain ⟨d, hd, rfl⟩ := List.mem_map.mp hz
      exact mem_oneOf.mpr ⟨d, hletters d (by simp [hd]), rfl⟩
    · rw [← List.flatMap_def, List.flatMap_singleton']
      rfl

variable [DecidableEq α]

/-- A word before joined words, or alone. -/
theorem joined_word {letters w : List α} (hne : w ≠ []) (hw : ∀ c ∈ w, c ∈ letters)
    (hrest : l = [] ∨ ∃ l', l = sep :: l' ∧ Joined (· ∈ letters) sep l') :
    Joined (· ∈ letters) sep (w ++ l) := by
  induction w with
  | nil => exact absurd rfl hne
  | cons c w ih =>
      have hc : decide (c ∈ letters) = true := by simpa using hw c (by simp)
      cases w with
      | nil =>
          rcases hrest with rfl | ⟨l', rfl, hl'⟩
          · exact .single hc
          · exact .separated hc hl'
      | cons d w => exact .letter hc (ih (by simp) fun x hx => hw x (by simp [hx]))

/-- **The pattern is that of joined words.** -/
theorem mem_joinedPattern {letters : List α} :
    l ∈ (joinedPattern letters sep).matches' ↔ Joined (· ∈ letters) sep l := by
  rw [joinedPattern, matches'_mul, matches'_star, Language.mem_mul]
  constructor
  · rintro ⟨w, hw, rest, hrest, rfl⟩
    obtain ⟨parts, rfl, hparts⟩ := Language.mem_kstar.mp hrest
    clear hrest
    induction parts generalizing w with
    | nil =>
        obtain ⟨hne, hletters⟩ := mem_word.mp hw
        exact joined_word hne hletters (.inl rfl)
    | cons part parts ih =>
        obtain ⟨hne, hletters⟩ := mem_word.mp hw
        obtain ⟨s, hs, v, hv, rfl⟩ := Language.mem_mul.mp
          (matches'_mul (char sep) (plus (oneOf letters)) ▸ hparts part (by simp))
        obtain rfl : s = [sep] := hs
        have hjoined := ih v hv fun y hy => hparts y (by simp [hy])
        exact joined_word hne hletters (.inr ⟨_, by simp, hjoined⟩)
  · intro h
    induction h with
    | @single c hc =>
        refine ⟨[c], mem_word.mpr ⟨by simp, by simpa using hc⟩, [], ?_, by simp⟩
        exact Language.nil_mem_kstar _
    | @letter c l hc _ ih =>
        obtain ⟨w, hw, rest, hrest, rfl⟩ := ih
        obtain ⟨-, hletters⟩ := mem_word.mp hw
        refine ⟨c :: w, mem_word.mpr ⟨by simp, ?_⟩, rest, hrest, rfl⟩
        exact List.forall_mem_cons.mpr ⟨by simpa using hc, hletters⟩
    | @separated c l hc _ ih =>
        obtain ⟨w, hw, rest, hrest, rfl⟩ := ih
        refine ⟨[c], mem_word.mpr ⟨by simp, by simpa using hc⟩, sep :: (w ++ rest), ?_, rfl⟩
        obtain ⟨parts, rfl, hparts⟩ := Language.mem_kstar.mp hrest
        refine Language.mem_kstar.mpr ⟨(sep :: w) :: parts, by simp, fun y hy => ?_⟩
        rcases List.mem_cons.mp hy with rfl | hy
        · rw [matches'_mul]
          exact Language.mem_mul.mpr ⟨[sep], rfl, w, hw, rfl⟩
        · exact hparts y hy

end Patterns

end Text
