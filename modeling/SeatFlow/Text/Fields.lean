import SeatFlow.Text.Words

/-!
# Texts and what stands between their separators

A tidy text is a list of words joined by single separators, or nothing; the words are what is
written between the separators.
-/

namespace Text

variable {α : Type} {sep : α} {l a b : List α} {words : List (List α)}

/-! ## §1 Tidy texts -/

/-- Words joined by single separators, or nothing. -/
structure Tidy (sep : α) (l : List α) : Prop where
  spaced : Spaced sep l
  head : l.head? ≠ some sep
  last : l.getLast? ≠ some sep

/-- Not empty, and without separators. -/
def AreWords (sep : α) (words : List (List α)) : Prop :=
  ∀ w ∈ words, w ≠ [] ∧ sep ∉ w

theorem areWords_append {words words' : List (List α)} :
    AreWords sep (words ++ words') ↔ AreWords sep words ∧ AreWords sep words' :=
  List.forall_mem_append

theorem Tidy.nil : Tidy sep [] :=
  ⟨List.isChain_nil, by simp, by simp⟩

theorem spaced_of_not_mem (h : sep ∉ l) : Spaced sep l := by
  induction l with
  | nil => exact List.isChain_nil
  | cons c l ih =>
      obtain ⟨hne, hl⟩ := List.ne_and_not_mem_of_not_mem_cons h
      exact List.isChain_cons.mpr ⟨fun _ _ hboth => hne hboth.1.symm, ih hl⟩

theorem tidy_of_word {w : List α} (h : sep ∉ w) : Tidy sep w :=
  ⟨spaced_of_not_mem h, fun hhead => h (List.mem_of_head? hhead),
    fun hlast => h (List.mem_of_getLast? hlast)⟩

/-- One separator between two tidy texts, neither of them empty. -/
theorem Tidy.append (ha : Tidy sep a) (hb : Tidy sep b) (ha' : a ≠ []) (hb' : b ≠ []) :
    Tidy sep (a ++ sep :: b) := by
  constructor
  case spaced =>
    rw [spaced_append, spaced_cons]
    exact ⟨ha.spaced, ⟨hb.spaced, hb.head⟩, fun hboth => ha.last hboth.1⟩
  case head =>
    rw [List.head?_append_of_ne_nil _ ha']
    exact ha.head
  case last =>
    rw [List.getLast?_append_of_ne_nil _ (List.cons_ne_nil _ _), List.getLast?_cons_of_ne_nil hb']
    exact hb.last

theorem intercalate_ne_nil (h : AreWords sep words) (hne : words ≠ []) :
    [sep].intercalate words ≠ [] := by
  obtain ⟨w, rest, rfl⟩ := List.exists_cons_of_ne_nil hne
  cases rest with
  | nil =>
      rw [List.intercalate_singleton]
      exact (h w (by simp)).1
  | cons v rest => simp [List.intercalate_cons_cons]

theorem tidy_intercalate (h : AreWords sep words) : Tidy sep ([sep].intercalate words) := by
  induction words with
  | nil => exact Tidy.nil
  | cons w words ih =>
      have hw := h w (by simp)
      have hwords : AreWords sep words := fun v hv => h v (List.mem_cons_of_mem _ hv)
      by_cases hne : words = []
      · rw [hne, List.intercalate_singleton]
        exact tidy_of_word hw.2
      · rw [List.intercalate_cons_of_ne_nil hne, List.append_assoc]
        exact (tidy_of_word hw.2).append (ih hwords) hw.1 (intercalate_ne_nil hwords hne)

theorem mem_intercalate {c : α} (h : c ∈ [sep].intercalate words) :
    c = sep ∨ ∃ w ∈ words, c ∈ w := by
  induction words with
  | nil => cases h
  | cons w words ih =>
      by_cases hne : words = []
      · subst hne
        rw [List.intercalate_singleton] at h
        exact .inr ⟨w, List.mem_cons_self, h⟩
      · rw [List.intercalate_cons_of_ne_nil hne, List.append_assoc] at h
        rcases List.mem_append.mp h with h | h
        · exact .inr ⟨w, List.mem_cons_self, h⟩
        · rcases List.mem_cons.mp h with rfl | h
          · exact .inl rfl
          · rcases ih h with hc | ⟨v, hv, hc⟩
            · exact .inl hc
            · exact .inr ⟨v, List.mem_cons_of_mem _ hv, hc⟩

/-- One separator less than there are words. -/
theorem length_intercalate (hne : words ≠ []) :
    ([sep].intercalate words).length + 1 = (words.map List.length).sum + words.length := by
  induction words with
  | nil => exact absurd rfl hne
  | cons w words ih =>
      by_cases hnil : words = []
      · subst hnil
        simp
      · have hrest := ih hnil
        rw [List.intercalate_cons_of_ne_nil hnil]
        simp only [List.length_append, List.length_nil, List.map_cons, List.sum_cons,
          List.length_cons]
        omega

/-- **A tidy text has words.** -/
theorem tidy_iff [DecidableEq α] : Tidy sep l ↔
    ∃ words, AreWords sep words ∧ l = [sep].intercalate words := by
  refine ⟨fun h => ?_, fun ⟨words, hwords, heq⟩ => heq ▸ tidy_intercalate hwords⟩
  by_cases hne : l = []
  · exact ⟨[], by simp [AreWords], hne⟩
  have hjoined : Joined (· != sep) sep l := by
    refine (joined_iff (by simp)).mpr ⟨hne, fun c _ => ?_, h.spaced, h.head, h.last⟩
    by_cases hc : c = sep
    · exact .inr hc
    · exact .inl (by simpa using hc)
  clear h hne
  have hcons : ∃ w words, AreWords sep (w :: words) ∧ l = [sep].intercalate (w :: words) := by
    induction hjoined with
    | @single c hc =>
        have hne : sep ≠ c := fun heq => bne_iff_ne.mp hc heq.symm
        refine ⟨[c], [], List.forall_mem_singleton.mpr ⟨by simp, ?_⟩,
          List.intercalate_singleton.symm⟩
        exact List.not_mem_cons_of_ne_of_not_mem hne List.not_mem_nil
    | @letter c l hc _ ih =>
        obtain ⟨w, words, hwords, rfl⟩ := ih
        refine ⟨c :: w, words, ?_, List.intercalate_cons_cons_left.symm⟩
        obtain ⟨⟨-, hw⟩, hrest⟩ := List.forall_mem_cons.mp hwords
        refine List.forall_mem_cons.mpr ⟨⟨by simp, ?_⟩, hrest⟩
        exact List.not_mem_cons_of_ne_of_not_mem (fun heq => bne_iff_ne.mp hc heq.symm) hw
    | @separated c l hc _ ih =>
        obtain ⟨w, words, hwords, rfl⟩ := ih
        have hne : sep ≠ c := fun heq => bne_iff_ne.mp hc heq.symm
        refine ⟨[c], w :: words, List.forall_mem_cons.mpr ⟨⟨by simp, ?_⟩, hwords⟩, ?_⟩
        · exact List.not_mem_cons_of_ne_of_not_mem hne List.not_mem_nil
        · rw [List.intercalate_cons_cons]
          rfl
  obtain ⟨w, words, hwords, heq⟩ := hcons
  exact ⟨w :: words, hwords, heq⟩

/-! ## §2 The first and the last separator -/

/-- Before the first separator there is none. -/
theorem append_inj_of_not_mem {a' b' : List α} (ha : sep ∉ a) (ha' : sep ∉ a')
    (h : a ++ sep :: b = a' ++ sep :: b') : a = a' ∧ b = b' := by
  rcases List.append_eq_append_iff.mp h with ⟨rest, rfl, hrest⟩ | ⟨rest, rfl, hrest⟩
  · cases rest with
    | nil => simpa using hrest
    | cons c rest =>
        cases hrest
        exact absurd (List.mem_append_right _ List.mem_cons_self) ha'
  · cases rest with
    | nil => simpa [eq_comm] using hrest
    | cons c rest =>
        cases hrest
        exact absurd (List.mem_append_right _ List.mem_cons_self) ha

/-- Behind the last separator there is none. -/
theorem append_inj_of_not_mem' {a' b' : List α} (hb : sep ∉ b) (hb' : sep ∉ b')
    (h : a ++ sep :: b = a' ++ sep :: b') : a = a' ∧ b = b' := by
  have hreverse := congrArg List.reverse h
  simp only [List.reverse_append, List.reverse_cons, List.append_assoc, List.singleton_append]
    at hreverse
  obtain ⟨hbehind, hbefore⟩ := append_inj_of_not_mem (by simpa using hb) (by simpa using hb')
    hreverse
  exact ⟨List.reverse_injective hbefore, List.reverse_injective hbehind⟩

/-! ## §3 Written fields -/

section Written

variable [DecidableEq α]

/-- What stands between the separators, where anything does. -/
def written (sep : α) (l : List α) : List (List α) :=
  (l.splitOn sep).filter fun field => !field.isEmpty

theorem written_append : written sep (a ++ sep :: b) = written sep a ++ written sep b := by
  unfold written
  rw [List.splitOn_append_cons_self, List.filter_append]

theorem written_nil : written sep [] = [] := by
  simp [written]

theorem written_intercalate (h : AreWords sep words) :
    written sep ([sep].intercalate words) = words := by
  by_cases hne : words = []
  · rw [hne, List.intercalate_nil, written_nil]
  · unfold written
    rw [List.splitOn_intercalate sep (fun w hw => (h w hw).2) hne, List.filter_eq_self]
    intro w hw
    simpa using (h w hw).1

theorem written_word {w : List α} (hne : w ≠ []) (h : sep ∉ w) : written sep w = [w] := by
  have hwords : AreWords sep [w] := by simpa [AreWords] using ⟨hne, h⟩
  simpa using written_intercalate hwords

theorem not_mem_of_mem_splitOn {w : List α} (hw : w ∈ l.splitOn sep) : sep ∉ w := by
  induction l generalizing w with
  | nil =>
      obtain rfl : w = [] := by simpa using hw
      exact List.not_mem_nil
  | cons c l ih =>
      rw [List.splitOn_cons_eq_if_modifyHead] at hw
      split_ifs at hw with hc
      · rcases List.mem_cons.mp hw with rfl | hw
        · exact List.not_mem_nil
        · exact ih hw
      · obtain ⟨field, fields, hfields⟩ := List.exists_cons_of_ne_nil (List.splitOn_ne_nil sep l)
        rw [hfields] at hw ih
        rcases List.mem_cons.mp hw with rfl | hw
        · refine List.not_mem_cons_of_ne_of_not_mem ?_ (ih List.mem_cons_self)
          rintro rfl
          simp at hc
        · exact ih (List.mem_cons_of_mem _ hw)

/-- What stands between separators has none. -/
theorem areWords_written : AreWords sep (written sep l) := by
  intro w hw
  obtain ⟨hw, hne⟩ := List.mem_filter.mp hw
  exact ⟨by simpa using hne, not_mem_of_mem_splitOn hw⟩

end Written

end Text
