import Mathlib.Data.List.Forall2

/-!
# Results for the members of a list

A computation that may fail, made for each member of a list in turn: it goes through when it does
for each of them, and then there is one result a member.
-/

namespace Results

variable {α β γ ε : Type} {f : α → Except ε β} {l : List α} {l' : List β}

theorem mapM_eq_ok_iff : l.mapM f = .ok l' ↔ List.Forall₂ (fun a b => f a = .ok b) l l' := by
  induction l generalizing l' with
  | nil =>
      rw [List.mapM_nil, List.forall₂_nil_left_iff]
      constructor
      · rintro ⟨⟩
        rfl
      · rintro rfl
        rfl
  | cons a l ih =>
      rw [List.mapM_cons, List.forall₂_cons_left_iff]
      constructor
      · intro h
        cases ha : f a with
        | error e =>
            rw [ha] at h
            cases h
        | ok b =>
            cases hl : l.mapM f with
            | error e =>
                rw [ha, hl] at h
                cases h
            | ok rest =>
                rw [ha, hl] at h
                cases h
                exact ⟨b, rest, rfl, ih.mp hl, rfl⟩
      · rintro ⟨b, rest, hb, hrest, rfl⟩
        rw [hb, ih.mpr hrest]
        rfl

theorem exists_mapM_eq_ok_iff : (∃ l', l.mapM f = .ok l') ↔ ∀ a ∈ l, ∃ b, f a = .ok b := by
  simp only [mapM_eq_ok_iff]
  induction l with
  | nil => simp
  | cons a l ih =>
      rw [List.forall_mem_cons, ← ih]
      constructor
      · rintro ⟨l', h⟩
        obtain ⟨b, rest, hb, hrest, rfl⟩ := List.forall₂_cons_left_iff.mp h
        exact ⟨⟨b, hb⟩, rest, hrest⟩
      · rintro ⟨⟨b, hb⟩, rest, hrest⟩
        exact ⟨b :: rest, .cons hb hrest⟩

theorem length_of_mapM (h : l.mapM f = .ok l') : l'.length = l.length :=
  (mapM_eq_ok_iff.mp h).length_eq.symm

/-- What each result says of its member, all of them say of the list. -/
theorem map_of_mapM {g : β → γ} {k : α → γ} (h : l.mapM f = .ok l')
    (hg : ∀ a b, f a = .ok b → g b = k a) : l'.map g = l.map k := by
  have hall := mapM_eq_ok_iff.mp h
  clear h
  induction hall with
  | nil => rfl
  | cons hfirst hrest ih => rw [List.map_cons, List.map_cons, hg _ _ hfirst, ih]

/-- Every result is that of a member. -/
theorem mem_of_mapM (h : l.mapM f = .ok l') {b : β} (hb : b ∈ l') : ∃ a ∈ l, f a = .ok b := by
  have hall := mapM_eq_ok_iff.mp h
  clear h
  induction hall with
  | nil => cases hb
  | cons hfirst hrest ih =>
      rcases List.mem_cons.mp hb with rfl | hb
      · exact ⟨_, List.mem_cons_self, hfirst⟩
      · obtain ⟨a, ha, hab⟩ := ih hb
        exact ⟨a, List.mem_cons_of_mem _ ha, hab⟩

theorem nodup_of_mapM (h : l.mapM f = .ok l') (hdistinct : l.Nodup)
    (hinj : ∀ a a' b, f a = .ok b → f a' = .ok b → a = a') : l'.Nodup := by
  have hall := mapM_eq_ok_iff.mp h
  clear h
  induction hall with
  | nil => exact List.nodup_nil
  | cons hfirst hrest ih =>
      obtain ⟨hnew, hdistinct⟩ := List.nodup_cons.mp hdistinct
      refine List.nodup_cons.mpr ⟨fun hb => hnew ?_, ih hdistinct⟩
      obtain ⟨a', ha', hresult⟩ := mem_of_mapM (mapM_eq_ok_iff.mpr hrest) hb
      rwa [hinj _ a' _ hfirst hresult]

end Results
