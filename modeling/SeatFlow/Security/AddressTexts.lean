import SeatFlow.Security.ClientAddress
import SeatFlow.Text.IpAddress

/-!
# What the address checks accept

`isValidIpv6` looks for colons in the wrong places and counts what is written between the others.
What is left is an address: the text is tidy, or has one `::` between two tidy texts, and the
groups are those of a text form.
-/

namespace SeatFlow

open IpAddress Text

/-! ## §1 Colons -/

section Colons

variable {c : Char} {l a b : List Char}

theorem doubleColonCount_cons (h : ¬(c = ':' ∧ l.head? = some ':')) :
    doubleColonCount (c :: l) = doubleColonCount l := by
  rw [doubleColonCount.eq_def (c :: l)]
  split
  · next heq =>
      obtain ⟨rfl, rfl⟩ := List.cons.inj heq
      exact absurd ⟨rfl, rfl⟩ h
  · next heq =>
      rw [(List.cons.inj heq).2]
  · next heq => cases heq

theorem hasTripleColon_cons (h : ¬(c = ':' ∧ l.head? = some ':')) :
    hasTripleColon (c :: l) = hasTripleColon l := by
  rw [hasTripleColon.eq_def (c :: l)]
  split
  · next heq =>
      obtain ⟨rfl, rfl⟩ := List.cons.inj heq
      exact absurd ⟨rfl, rfl⟩ h
  · next heq =>
      rw [(List.cons.inj heq).2]
  · next heq => cases heq

theorem doubleColonCount_of_spaced (h : Spaced ':' l) : doubleColonCount l = 0 := by
  induction l with
  | nil => rfl
  | cons c l ih =>
      obtain ⟨hc, hl⟩ := List.isChain_cons.mp h
      rw [doubleColonCount_cons fun hboth => hc ':' hboth.2 ⟨hboth.1, rfl⟩]
      exact ih hl

theorem hasTripleColon_of_spaced (h : Spaced ':' l) : hasTripleColon l = false := by
  induction l with
  | nil => rfl
  | cons c l ih =>
      obtain ⟨hc, hl⟩ := List.isChain_cons.mp h
      rw [hasTripleColon_cons fun hboth => hc ':' hboth.2 ⟨hboth.1, rfl⟩]
      exact ih hl

/-- The first two colons in a row. -/
theorem spaced_or_elided (l : List Char) :
    Spaced ':' l ∨ ∃ a b, Spaced ':' (a ++ [':']) ∧ l = a ++ ':' :: ':' :: b := by
  induction l with
  | nil => exact .inl List.isChain_nil
  | cons c l ih =>
      by_cases hc : c = ':' ∧ l.head? = some ':'
      · obtain ⟨rfl, hhead⟩ := hc
        cases l with
        | nil => cases hhead
        | cons d l =>
            cases hhead
            exact .inr ⟨[], l, by simp [Spaced], rfl⟩
      · rcases ih with hspaced | ⟨a, b, hspaced, rfl⟩
        · refine .inl (List.isChain_cons.mpr ⟨?_, hspaced⟩)
          rintro d hd ⟨rfl, rfl⟩
          exact hc ⟨rfl, hd⟩
        · refine .inr ⟨c :: a, b, List.isChain_cons.mpr ⟨?_, hspaced⟩, rfl⟩
          rintro d hd ⟨rfl, rfl⟩
          refine hc ⟨rfl, ?_⟩
          cases a with
          | nil => rfl
          | cons e a => exact hd

/-- What the colon tests read of a text that is cut at its first two colons in a row. -/
theorem colons_append (h : Spaced ':' (a ++ [':'])) :
    doubleColonCount (a ++ ':' :: ':' :: b) = doubleColonCount b + 1 ∧
      hasTripleColon (a ++ ':' :: ':' :: b) = hasTripleColon (':' :: ':' :: b) := by
  induction a with
  | nil => exact ⟨rfl, rfl⟩
  | cons c a ih =>
      obtain ⟨hc, ha⟩ := List.isChain_cons.mp h
      have hnext : ¬(c = ':' ∧ (a ++ ':' :: ':' :: b).head? = some ':') := by
        rintro ⟨rfl, hhead⟩
        refine hc ':' ?_ ⟨rfl, rfl⟩
        cases a with
        | nil => rfl
        | cons d a => exact hhead
      rw [List.cons_append, doubleColonCount_cons hnext, hasTripleColon_cons hnext]
      exact ih ha

/-- Three colons in a row, behind the first two. -/
theorem hasTripleColon_two : hasTripleColon (':' :: ':' :: b) = false ↔
    b.head? ≠ some ':' ∧ hasTripleColon b = false := by
  cases b with
  | nil => decide
  | cons d b =>
      by_cases hd : d = ':'
      · subst hd
        simp [hasTripleColon]
      · rw [← hasTripleColon_cons (c := ':') (l := d :: b) (by simpa using hd)]
        simp [hasTripleColon, hd]

/-- What is behind the colons ends the text. -/
theorem getLast_elided (hne : b ≠ []) : (a ++ ':' :: ':' :: b).getLast? = b.getLast? := by
  rw [List.getLast?_append_of_ne_nil _ (List.cons_ne_nil _ _),
    List.getLast?_cons_of_ne_nil (List.cons_ne_nil _ _), List.getLast?_cons_of_ne_nil hne]

/-- The words of both parts are written. -/
theorem written_elided : written ':' (a ++ ':' :: ':' :: b) = written ':' a ++ written ':' b := by
  have hrest := @written_append _ ':' [] b _
  rw [List.nil_append, written_nil, List.nil_append] at hrest
  rw [written_append, hrest]

end Colons

/-- The tests of `isValidIpv6` that are about colons only. -/
def colonsPlaced (l : List Char) : Bool :=
  !hasTripleColon l && !(l.head? == some ':' && !([':', ':'].isPrefixOf l)) &&
    !(l.getLast? == some ':' && !([':', ':'].isSuffixOf l)) && !(1 < doubleColonCount l)

theorem colonsPlaced_of_tidy {l : List Char} (h : Tidy ':' l) : colonsPlaced l = true := by
  have hhead : (l.head? == some ':') = false := by simpa using h.head
  have hlast : (l.getLast? == some ':') = false := by simpa using h.last
  unfold colonsPlaced
  rw [hasTripleColon_of_spaced h.spaced, doubleColonCount_of_spaced h.spaced, hhead, hlast]
  rfl

section Elided

variable {a b : List Char}

theorem colonsPlaced_of_elided (ha : Tidy ':' a) (hb : Tidy ':' b) :
    colonsPlaced (a ++ ':' :: ':' :: b) = true ∧
      doubleColonCount (a ++ ':' :: ':' :: b) = 1 := by
  have hspaced := spaced_append_singleton.mpr ⟨ha.spaced, ha.last⟩
  obtain ⟨hcount, htriple⟩ := @colons_append a b hspaced
  rw [doubleColonCount_of_spaced hb.spaced] at hcount
  rw [hasTripleColon_two.mpr ⟨hb.head, hasTripleColon_of_spaced hb.spaced⟩] at htriple
  have hhead : ((a ++ ':' :: ':' :: b).head? == some ':' &&
      !([':', ':'].isPrefixOf (a ++ ':' :: ':' :: b))) = false := by
    cases a with
    | nil => simp
    | cons c a =>
        exact Bool.and_eq_false_imp.mpr fun hcolon => absurd (beq_iff_eq.mp hcolon) ha.head
  have hlast : ((a ++ ':' :: ':' :: b).getLast? == some ':' &&
      !([':', ':'].isSuffixOf (a ++ ':' :: ':' :: b))) = false := by
    by_cases hnil : b = []
    · have hsuffix : [':', ':'].isSuffixOf (a ++ ':' :: ':' :: b) = true := by
        rw [List.isSuffixOf_iff_suffix, hnil]
        exact List.suffix_append a _
      rw [hsuffix]
      simp
    · have hc : (a ++ ':' :: ':' :: b).getLast? ≠ some ':' := by
        rw [getLast_elided hnil]
        exact hb.last
      exact Bool.and_eq_false_imp.mpr fun hcolon => absurd (beq_iff_eq.mp hcolon) hc
  unfold colonsPlaced
  rw [hcount, htriple, hhead, hlast]
  exact ⟨rfl, rfl⟩

end Elided

/-- **Where colons may stand**: a text that passes is tidy, or two tidy texts around a `::`. -/
theorem of_colonsPlaced {l : List Char} (h : colonsPlaced l = true) :
    Tidy ':' l ∨ ∃ a b, Tidy ':' a ∧ Tidy ':' b ∧ l = a ++ ':' :: ':' :: b := by
  unfold colonsPlaced at h
  simp only [Bool.and_eq_true, Bool.not_eq_true', Bool.and_eq_false_iff, beq_eq_false_iff_ne,
    Bool.not_eq_false', decide_eq_false_iff_not] at h
  obtain ⟨⟨⟨htriple, hhead⟩, hlast⟩, hcount⟩ := h
  rcases spaced_or_elided l with hspaced | ⟨a, b, hspaced, rfl⟩
  · refine .inl ⟨hspaced, ?_, ?_⟩
    · refine hhead.elim id fun hprefix hhead => ?_
      obtain ⟨rest, rfl⟩ := List.isPrefixOf_iff_prefix.mp hprefix
      exact (spaced_cons.mp hspaced).2 rfl
    · refine hlast.elim id fun hsuffix hlast => ?_
      obtain ⟨rest, rfl⟩ := List.isSuffixOf_iff_suffix.mp hsuffix
      exact (spaced_cons.mp (spaced_append.mp hspaced).2.1).2 rfl
  · obtain ⟨hcounted, htripled⟩ := @colons_append a b hspaced
    rw [hcounted] at hcount
    rw [htripled] at htriple
    obtain ⟨hbhead, -⟩ := hasTripleColon_two.mp htriple
    obtain ⟨haspaced, halast⟩ := spaced_append_singleton.mp hspaced
    have hbspaced : Spaced ':' b := by
      rcases spaced_or_elided b with hb | ⟨a', b', hspaced', rfl⟩
      · exact hb
      · rw [(@colons_append a' b' hspaced').1] at hcount
        omega
    refine .inr ⟨a, b, ⟨haspaced, ?_, halast⟩, ⟨hbspaced, hbhead, ?_⟩, rfl⟩
    · intro hcolon
      cases a with
      | nil => cases hcolon
      | cons c a =>
          cases hcolon
          rcases hhead with hhead | hprefix
          · exact hhead rfl
          · obtain ⟨-, hnext⟩ := spaced_cons.mp hspaced
            cases a with
            | nil => exact hnext rfl
            | cons d a =>
                obtain ⟨rest, hrest⟩ := List.isPrefixOf_iff_prefix.mp hprefix
                cases hrest
                exact hnext rfl
    · intro hcolon
      obtain ⟨b, rfl⟩ := List.getLast?_eq_some_iff.mp hcolon
      obtain ⟨-, hblast⟩ := spaced_append_singleton.mp hbspaced
      have hshift : a ++ ':' :: ':' :: (b ++ [':']) = (a ++ ':' :: ':' :: b) ++ [':'] := by simp
      have hend : (a ++ ':' :: ':' :: (b ++ [':'])).getLast? = some ':' := by
        rw [hshift, List.getLast?_concat]
      rcases hlast with hlast | hsuffix
      · exact hlast hend
      · obtain ⟨rest, hrest⟩ := List.isSuffixOf_iff_suffix.mp hsuffix
        have hdropped := congrArg List.dropLast hrest
        have hlast' : (a ++ ':' :: ':' :: b).getLast? = some ':' := by
          rw [hshift, List.dropLast_concat] at hdropped
          rw [← hdropped]
          simp
        cases b with
        | nil => exact hbhead rfl
        | cons d b => exact hblast (by simpa using hlast')

/-! ## §2 IPv4 -/

/-- **The octets of an IPv4 text** are numerals. -/
theorem isValidIpv4_iff {value : String} :
    isValidIpv4 value = true ↔ ∃ quad : Quad, value.toList = quad.render := by
  unfold isValidIpv4 isDottedQuad
  simp only [Bool.and_eq_true, beq_iff_eq, List.all_eq_true]
  constructor
  · rintro ⟨⟨hlength, hdigits⟩, hoctets⟩
    have hnumeral : ∀ octet ∈ value.toList.splitOn '.',
        ∃ n : Fin 256, octet = Nat.toDigits 10 n.val := by
      intro octet hmem
      obtain ⟨hne, -, hall⟩ := Decimal.isDigits_iff.mp (hdigits octet hmem)
      have hoctet := hoctets octet hmem
      unfold isOctet at hoctet
      simp only [Bool.and_eq_true, Bool.not_eq_true', Bool.and_eq_false_imp, decide_eq_true_eq,
        beq_eq_false_iff_ne] at hoctet
      obtain ⟨hzero, hle⟩ := hoctet
      refine ⟨⟨Decimal.value octet, by omega⟩,
        (Decimal.toDigits_value hne hall fun hhead => ?_).symm⟩
      have hpositive := List.length_pos_iff.mpr hne
      by_contra hlong
      exact hzero (by omega) hhead
    match hfields : value.toList.splitOn '.', hlength with
    | [first, second, third, fourth], _ =>
        rw [hfields] at hnumeral
        obtain ⟨a, ha⟩ := hnumeral first (by simp)
        obtain ⟨b, hb⟩ := hnumeral second (by simp)
        obtain ⟨c, hc⟩ := hnumeral third (by simp)
        obtain ⟨d, hd⟩ := hnumeral fourth (by simp)
        refine ⟨⟨a, b, c, d⟩, ?_⟩
        have hjoined : ['.'].intercalate (value.toList.splitOn '.') = value.toList :=
          List.intercalate_splitOn '.'
        rw [hfields, ha, hb, hc, hd] at hjoined
        exact hjoined.symm
  · rintro ⟨quad, hquad⟩
    rw [hquad, quad.splitOn_render]
    refine ⟨⟨rfl, quad.octets_spec⟩, fun octet hoctet => ?_⟩
    obtain ⟨n, -, rfl⟩ := List.mem_map.mp hoctet
    have hall : ∀ n : Fin 256, isOctet (Nat.toDigits 10 n.val) = true := by
      decide +kernel
    exact hall n

/-! ## §3 IPv6 -/

section LastColon

variable {l h t : List Char}

theorem exists_lastColon (hmem : ':' ∈ l) : ∃ h t, l = h ++ ':' :: t ∧ ':' ∉ t := by
  obtain ⟨t, h, hreverse, hnot⟩ := List.eq_append_cons_of_mem (List.mem_reverse.mpr hmem)
  refine ⟨h.reverse, t.reverse, ?_, by simpa using hnot⟩
  rw [← List.reverse_reverse l, hreverse]
  simp

theorem afterLastColon_append (hnot : ':' ∉ t) : afterLastColon (h ++ ':' :: t) = t := by
  unfold afterLastColon
  rw [List.reverse_append, List.reverse_cons, List.append_assoc,
    List.takeWhile_append_of_pos (fun c hc => ?_)]
  · simp
  · exact bne_iff_ne.mpr fun heq => hnot (heq ▸ List.mem_reverse.mp hc)

/-- What stands behind the last colon is the last thing written, or nothing. -/
theorem written_afterLastColon (hne : afterLastColon l ≠ []) :
    (∃ before, written ':' l = before ++ [afterLastColon l]) ∧
      (':' ∉ l → written ':' l = [afterLastColon l]) := by
  by_cases hmem : ':' ∈ l
  · obtain ⟨h, t, rfl, hnot⟩ := exists_lastColon hmem
    rw [afterLastColon_append hnot] at hne ⊢
    rw [written_append, written_word hne hnot]
    exact ⟨⟨_, rfl⟩, fun hcolon => absurd hmem hcolon⟩
  · have hall : afterLastColon l = l := by
      unfold afterLastColon
      rw [List.takeWhile_eq_self_iff.mpr fun c hc => ?_, List.reverse_reverse]
      exact bne_iff_ne.mpr fun heq => hmem (heq ▸ List.mem_reverse.mp hc)
    rw [hall] at hne ⊢
    rw [written_word hne hmem]
    exact ⟨⟨[], rfl⟩, fun _ => rfl⟩

theorem afterLastColon_ne_nil (hne : l ≠ []) (hlast : l.getLast? ≠ some ':') :
    afterLastColon l ≠ [] := by
  rw [List.getLast?_eq_head?_reverse] at hlast
  unfold afterLastColon
  obtain ⟨c, rest, hreverse⟩ := List.exists_cons_of_ne_nil (List.reverse_ne_nil_iff.mpr hne)
  rw [hreverse] at hlast ⊢
  have hc : (c != ':') = true := bne_iff_ne.mpr fun heq => hlast (by rw [heq]; rfl)
  simp [hc]

end LastColon

/-- The groups that the code looks for are those of the grammar. -/
theorem groups_iff {ws : List (List Char)} (hwords : AreWords ':' ws) :
    ws.all (fun group => group.length ≤ 4 && group.all isHexDigit) = true ↔
      ∃ groups : List Group, ws = groups.map (·.digits) := by
  constructor
  · intro hall
    induction ws with
    | nil => exact ⟨[], rfl⟩
    | cons w ws ih =>
        obtain ⟨hw, hrest⟩ := List.forall_mem_cons.mp hwords
        rw [List.all_cons, Bool.and_eq_true] at hall
        obtain ⟨groups, rfl⟩ := ih hrest hall.2
        simp only [Bool.and_eq_true, decide_eq_true_eq, List.all_eq_true] at hall
        exact ⟨⟨w, hw.1, hall.1.1, hall.1.2⟩ :: groups, rfl⟩
  · rintro ⟨groups, rfl⟩
    rw [List.all_map, List.all_eq_true]
    intro group _
    simp only [Function.comp_apply, Bool.and_eq_true, decide_eq_true_eq, List.all_eq_true]
    exact ⟨group.length_le, group.hex⟩

/-- The groups of a text and the count of its colons, as `isValidIpv6` reads them. -/
def groupsRead (l : List Char) : Bool :=
  if l.contains ':' && (afterLastColon l).contains '.' then
    isValidIpv4 (String.ofList (afterLastColon l)) &&
      areGroups (l.take (l.length - (afterLastColon l).length - 1)) 2 (doubleColonCount l)
  else areGroups l 0 (doubleColonCount l)

/-- A run with the right number of groups. -/
def Fits (run : Run) (doubleColons : Nat) : Prop :=
  if doubleColons = 1 then run.size ≤ 7 else run.size = 8

/-- **What is read is a run**; an IPv4 address of it stands behind the last colon. -/
theorem groupsRead_iff {l : List Char} : groupsRead l = true ↔
    ∃ run : Run, written ':' l = run.words ∧ (run.quad.isSome = true → afterLastColon l ≠ []) ∧
      Fits run (doubleColonCount l) := by
  have hgroups : ∀ {l : List Char} {trailing n : Nat}, areGroups l trailing n = true ↔
      ∃ groups : List Group, written ':' l = groups.map (·.digits) ∧
        if n = 1 then groups.length + trailing ≤ 7 else groups.length + trailing = 8 := by
    intro l trailing n
    have hread : areGroups l trailing n = true ↔
        (written ':' l).all (fun group => group.length ≤ 4 && group.all isHexDigit) = true ∧
          if n = 1 then (written ':' l).length + trailing ≤ 7
          else (written ':' l).length + trailing = 8 := by
      unfold areGroups
      rw [Bool.and_eq_true]
      refine and_congr_right fun _ => ?_
      by_cases hn : n = 1 <;> simp [hn, written]
    rw [hread, groups_iff areWords_written]
    constructor
    · rintro ⟨⟨groups, hgroups⟩, hcount⟩
      rw [hgroups, List.length_map] at hcount
      exact ⟨groups, hgroups, hcount⟩
    · rintro ⟨groups, hgroups, hcount⟩
      rw [hgroups, List.length_map]
      exact ⟨⟨groups, rfl⟩, hcount⟩
  unfold groupsRead
  split
  · next hdotted =>
      obtain ⟨hcolon, hpoint⟩ := Bool.and_eq_true_iff.mp hdotted
      obtain ⟨h, t, rfl, hnot⟩ := exists_lastColon (List.contains_iff_mem.mp hcolon)
      rw [afterLastColon_append hnot] at hpoint ⊢
      have hne : t ≠ [] := List.ne_nil_of_mem (List.contains_iff_mem.mp hpoint)
      have htake : (h ++ ':' :: t).take ((h ++ ':' :: t).length - t.length - 1) = h := by
        rw [List.take_left' (by simp; omega)]
      rw [htake, written_append, written_word hne hnot, Bool.and_eq_true, isValidIpv4_iff, hgroups,
        String.toList_ofList]
      constructor
      · rintro ⟨⟨quad, rfl⟩, groups, hwritten, hcount⟩
        exact ⟨⟨groups, some quad⟩, by rw [hwritten]; rfl, fun _ => hne, hcount⟩
      · rintro ⟨⟨groups, quad⟩, hwords, -, hcount⟩
        cases quad with
        | none =>
            have hgroup : t ∈ groups.map (·.digits) := by
              have hlast : t ∈ written ':' h ++ [t] := by simp
              rw [hwords] at hlast
              simpa [Run.words] using hlast
            obtain ⟨group, -, rfl⟩ := List.mem_map.mp hgroup
            exact absurd (List.contains_iff_mem.mp hpoint) (group.not_mem (by decide))
        | some quad =>
            obtain ⟨hbefore, hlast⟩ := List.append_inj' hwords rfl
            exact ⟨⟨quad, (List.cons.inj hlast).1⟩, groups, hbefore, hcount⟩
  · next hplain =>
      rw [hgroups]
      constructor
      · rintro ⟨groups, hwritten, hcount⟩
        exact ⟨⟨groups, none⟩, by rw [hwritten]; simp [Run.words], by simp, hcount⟩
      · rintro ⟨⟨groups, quad⟩, hwords, hlast, hcount⟩
        cases quad with
        | none => exact ⟨groups, by simpa [Run.words] using hwords, hcount⟩
        | some quad =>
            -- without a colon there are two groups, which are too few
            obtain ⟨⟨before, hbefore⟩, hall⟩ := written_afterLastColon (hlast rfl)
            have hquad : afterLastColon l = quad.render :=
              (List.cons.inj (List.append_inj' (hbefore.symm.trans hwords) rfl).2).1
            have hpoint : (afterLastColon l).contains '.' = true := by
              rw [hquad]
              exact List.contains_iff_mem.mpr quad.point_mem_render
            have hcolon : ':' ∉ l := by
              intro hmem
              exact hplain (Bool.and_eq_true_iff.mpr ⟨List.contains_iff_mem.mpr hmem, hpoint⟩)
            have halone : [] ++ [afterLastColon l] = groups.map (·.digits) ++ [quad.render] :=
              (hall hcolon).symm.trans hwords
            have hgroups : groups = [] :=
              List.map_eq_nil_iff.mp (List.append_inj' halone rfl).1.symm
            rw [Fits, doubleColonCount_of_spaced (spaced_of_not_mem hcolon), hgroups] at hcount
            simp [Run.size] at hcount

/-- The checks, one by one. -/
theorem isValidIpv6_eq {value : String} : isValidIpv6 value = true ↔
    (utf16Length value ≤ 45 ∧ value.toList ≠ [] ∧
      (∀ c ∈ value.toList, isAddressCharacter c = true)) ∧
      colonsPlaced value.toList = true ∧ groupsRead value.toList = true := by
  unfold isValidIpv6 colonsPlaced groupsRead
  simp only [Bool.and_eq_true, Bool.not_eq_true', decide_eq_false_iff_not, List.all_eq_true,
    List.isEmpty_eq_false_iff, Nat.not_lt, and_assoc]

/-- The words of a text are written with the characters of addresses. -/
theorem addressCharacter_of_words {run : Run} {w : List Char} (hw : w ∈ run.words) :
    ∀ c ∈ w, isAddressCharacter c = true := by
  intro c hc
  unfold isAddressCharacter
  rcases List.mem_append.mp hw with hw | hw
  · obtain ⟨group, -, rfl⟩ := List.mem_map.mp hw
    have hhex : isHexDigit c = true := group.hex c hc
    rw [hhex]
    rfl
  · obtain ⟨quad, -, rfl⟩ := Option.map_eq_some_iff.mp (Option.mem_toList.mp hw)
    unfold isHexDigit
    rcases quad.mem_render c hc with hdigit | rfl
    · simp [hdigit]
    · rfl

/-- Four characters for a group, with the colons between them. -/
theorem length_groups_le (groups : List Group) :
    (groups.map fun group => group.digits.length).sum ≤ 4 * groups.length := by
  induction groups with
  | nil => exact Nat.le_refl _
  | cons group groups ih =>
      have hgroup := group.length_le
      simp only [List.map_cons, List.sum_cons, List.length_cons]
      omega

/-- An IPv4 address adds at most five characters to what two groups take. -/
theorem length_render_le (run : Run) :
    ([':'].intercalate run.words).length ≤
      5 * run.size + if run.quad.isSome then 5 else 0 := by
  obtain ⟨groups, quad⟩ := run
  have hgroups := length_groups_le groups
  by_cases hne : (⟨groups, quad⟩ : Run).words = []
  · rw [hne]
    exact Nat.zero_le _
  · have hlength : ([':'].intercalate (⟨groups, quad⟩ : Run).words).length + 1 = _ :=
      length_intercalate hne
    cases quad with
    | none =>
        simp only [Run.words, Option.map_none, Option.toList_none, List.append_nil, List.map_map,
          List.length_map, Function.comp_def] at hlength
        simp only [Run.words, Run.size, Option.map_none, Option.toList_none, List.append_nil,
          Option.isSome_none, Bool.false_eq_true, if_false]
        omega
    | some quad =>
        have hquad := quad.length_render_le
        simp only [Run.words, Option.map_some, Option.toList_some, List.map_append, List.map_map,
          List.length_append, List.length_map, List.sum_append, List.map_cons, List.map_nil,
          List.sum_cons, List.sum_nil, List.length_singleton, Function.comp_def] at hlength
        simp only [Run.words, Run.size, Option.map_some, Option.toList_some, Option.isSome_some,
          if_true]
        omega

/-- A text of an address is accepted. -/
theorem isValidIpv6_of_text {value : String} {text : Ipv6Text} (h : value.toList = text.render) :
    isValidIpv6 value = true := by
  -- the colons, the groups and the length; the characters are the same for both forms
  have hassemble : ∀ run : Run, (∀ c ∈ value.toList, c = ':' ∨ ∃ w ∈ run.words, c ∈ w) →
      value.toList ≠ [] → value.toList.length ≤ 45 → colonsPlaced value.toList = true →
      written ':' value.toList = run.words →
      (run.quad.isSome = true → afterLastColon value.toList ≠ []) →
      Fits run (doubleColonCount value.toList) → isValidIpv6 value = true := by
    intro run hmem hne hlength hcolons hwritten hlast hfits
    have hchars : ∀ c ∈ value.toList, isAddressCharacter c = true := by
      intro c hc
      rcases hmem c hc with rfl | ⟨w, hw, hc⟩
      · rfl
      · exact addressCharacter_of_words hw c hc
    refine isValidIpv6_eq.mpr ⟨⟨?_, hne, hchars⟩, hcolons,
      groupsRead_iff.mpr ⟨run, hwritten, hlast, hfits⟩⟩
    rw [utf16Length_of_small fun c hc => (addressCharacter_spec (hchars c hc)).2.2.2.2.2]
    exact hlength
  cases text with
  | full run eight =>
      have hwords := run.areWords
      have hne : run.words ≠ [] := by
        obtain ⟨groups, quad⟩ := run
        rintro hnil
        obtain ⟨hgroups, hquad⟩ := List.append_eq_nil_iff.mp hnil
        cases quad with
        | none =>
            obtain rfl : groups = [] := List.map_eq_nil_iff.mp hgroups
            exact absurd eight (by decide)
        | some quad => cases hquad
      have htidy := tidy_intercalate hwords
      have hlength := length_render_le run
      have hnonempty := intercalate_ne_nil hwords hne
      rw [Ipv6Text.render] at h
      rw [h] at hassemble
      refine hassemble run (fun c hc => mem_intercalate hc) hnonempty ?_
        (colonsPlaced_of_tidy htidy)
        (written_intercalate hwords) (fun _ => afterLastColon_ne_nil hnonempty htidy.last) ?_
      · rw [eight] at hlength
        split at hlength <;> omega
      · rw [Fits, doubleColonCount_of_spaced htidy.spaced]
        exact eight
  | elided head tail fewer =>
      have hhead := tidy_intercalate (areWords_groups head)
      have htail := tidy_intercalate tail.areWords
      have hheadLength := length_render_le ⟨head, none⟩
      have htailLength := length_render_le tail
      have hwords : (⟨head ++ tail.groups, tail.quad⟩ : Run).words =
          head.map (·.digits) ++ tail.words := by
        simp [Run.words]
      obtain ⟨hcolons, hcount⟩ := colonsPlaced_of_elided hhead htail
      rw [Ipv6Text.render] at h
      rw [h] at hassemble
      refine hassemble ⟨head ++ tail.groups, tail.quad⟩ (fun c hc => ?_) (by simp) ?_ hcolons ?_
        (fun hquad => ?_) ?_
      · rw [hwords]
        rcases List.mem_append.mp hc with hc | hc
        · exact (mem_intercalate hc).imp id fun hin =>
            hin.imp fun w hw => hw.imp_left (List.mem_append_left _)
        · rcases List.mem_cons.mp hc with hc | hc
          · exact .inl hc
          · rcases List.mem_cons.mp hc with hc | hc
            · exact .inl hc
            · exact (mem_intercalate hc).imp id fun hin =>
                hin.imp fun w hw => hw.imp_left (List.mem_append_right _)
      · simp only [Run.words, Run.size, Option.map_none, Option.toList_none, List.append_nil,
          Option.isSome_none, Bool.false_eq_true, if_false, Nat.add_zero] at hheadLength
        simp only [List.length_append, List.length_cons]
        split at htailLength <;> omega
      · rw [written_elided, written_intercalate (areWords_groups head),
          written_intercalate tail.areWords, hwords]
      · have hne : tail.words ≠ [] := by
          obtain ⟨quad, hquad⟩ := Option.isSome_iff_exists.mp hquad
          simp [Run.words, show tail.quad = some quad from hquad]
        have hnonempty := intercalate_ne_nil tail.areWords hne
        exact afterLastColon_ne_nil (by simp) (by rw [getLast_elided hnonempty]; exact htail.last)
      · rw [Fits, hcount, if_pos rfl, Run.size, List.length_append, Nat.add_assoc]
        exact fewer

/-- What is accepted is a text of an address. -/
theorem ipv6Text_of_valid {value : String} (h : isValidIpv6 value = true) :
    ∃ text : Ipv6Text, value.toList = text.render := by
  obtain ⟨-, hcolons, hread⟩ := isValidIpv6_eq.mp h
  obtain ⟨run, hwritten, hlast, hfits⟩ := groupsRead_iff.mp hread
  rcases of_colonsPlaced hcolons with htidy | ⟨a, b, ha, hb, heq⟩
  · obtain ⟨words, hwords, heq⟩ := tidy_iff.mp htidy
    rw [heq, written_intercalate hwords] at hwritten
    rw [Fits, doubleColonCount_of_spaced htidy.spaced, if_neg (by decide)] at hfits
    exact ⟨.full run hfits, by rw [heq, hwritten]; rfl⟩
  · obtain ⟨before, hbefore, rfl⟩ := tidy_iff.mp ha
    obtain ⟨after, hafter, rfl⟩ := tidy_iff.mp hb
    rw [heq, (colonsPlaced_of_elided ha hb).2, Fits, if_pos rfl] at hfits
    have hwords : before ++ after = run.words := by
      rwa [heq, written_elided, written_intercalate hbefore, written_intercalate hafter] at hwritten
    have hbound : before.length ≤ run.groups.length := by
      have hlength := congrArg List.length hwords
      rw [Run.words, List.length_append, List.length_append, List.length_map] at hlength
      cases hquad : run.quad with
      | none =>
          rw [hquad, Option.map_none, Option.toList_none, List.length_nil] at hlength
          omega
      | some quad =>
          -- the IPv4 address is behind the colons
          have hne : after ≠ [] := by
            rintro rfl
            refine hlast (by rw [hquad]; rfl) ?_
            rw [heq, List.intercalate_nil, List.append_cons]
            exact afterLastColon_append List.not_mem_nil
          have hpositive := List.length_pos_iff.mpr hne
          rw [hquad, Option.map_some, Option.toList_some, List.length_singleton] at hlength
          omega
    have hsplit : before ++ after = (run.groups.take before.length).map (·.digits) ++
        (⟨run.groups.drop before.length, run.quad⟩ : Run).words := by
      rw [hwords, Run.words, Run.words, ← List.append_assoc, ← List.map_append,
        List.take_append_drop]
    obtain ⟨hhead, htail⟩ := List.append_inj hsplit (by simp [hbound])
    refine ⟨.elided (run.groups.take before.length)
      ⟨run.groups.drop before.length, run.quad⟩ ?_, ?_⟩
    · simp only [Run.size, List.length_take, List.length_drop] at hfits ⊢
      omega
    · rw [heq, Ipv6Text.render, ← hhead, ← htail]

/-- **The checks are the grammar.** -/
theorem isValidIpv6_grammar (value : String) :
    isValidIpv6 value = true ↔ ∃ text : Ipv6Text, value.toList = text.render :=
  ⟨ipv6Text_of_valid, fun ⟨_, htext⟩ => isValidIpv6_of_text htext⟩

end SeatFlow
