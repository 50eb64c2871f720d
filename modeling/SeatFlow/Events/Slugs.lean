import SeatFlow.SeatMaps.Schema
import SeatFlow.Text.Words

/-!
# Public event slugs

The address of an event is the slug of its organisation and its own, two hyphens between them.
A slug is made of a title, or checked when an organiser writes one; either way it is words of
lower-case letters and digits with single hyphens, so that the two hyphens of an address are its
only ones in a row.
-/

namespace SeatFlow

open Text

/-! ## §1 Slugs -/

/-- `[a-z0-9]`. -/
def slugLetters : List Char := "abcdefghijklmnopqrstuvwxyz0123456789".toList

def isSlugLetter (c : Char) : Bool :=
  decide (c ∈ slugLetters)

/-- `^[a-z0-9]+(?:-[a-z0-9]+)*$`. -/
def slugPattern : RegularExpression Char := joinedPattern slugLetters '-'

/-- `[\u0300-\u036f]`. -/
def isCombiningMark (c : Char) : Bool :=
  0x300 ≤ c.toNat && c.toNat ≤ 0x36f

/-- What `createEventSlug` and `createOrganizationSlug` share, for the platform's
`normalize("NFKD")` and `toLowerCase`. What is sliced is ASCII, a code unit a character. -/
def createSlug (nfkd lower : String → String) (maximum : Nat) (fallback value : String) : String :=
  let text :=
    (lower (String.ofList ((nfkd value).toList.filter fun c => !isCombiningMark c))).toList
  let slug := ((trimmed '-' (replaceRuns isSlugLetter '-' false text)).take maximum).rdropWhile
    (· == '-')
  if slug.isEmpty then fallback else String.ofList slug

def createEventSlug (nfkd lower : String → String) (value : String) : String :=
  createSlug nfkd lower 80 "event" value

def createOrganizationSlug (nfkd lower : String → String) (name : String) : String :=
  createSlug nfkd lower 64 "organization" name

def createPublicEventSlug (organizationSlug eventSlug : String) : String :=
  organizationSlug ++ "--" ++ eventSlug

/-- The checks of a slug that was written. -/
def slugIssues (slug : String) : List SchemaIssue :=
  (if utf16Length slug < 2 then
    [{ path := "slug", code := "too_small", message := some "Use at least 2 characters." }]
  else []) ++
  (if 80 < utf16Length slug then
    [{ path := "slug", code := "too_big", message := some "Use no more than 80 characters." }]
  else []) ++
  if slugPattern.rmatch slug.toList then []
  else
    [{ path := "slug", code := "invalid_format"
       message := some "Use lowercase letters, numbers, and single hyphens." }]

/-- What an organiser writes instead. -/
def optionalSlug (lower : String → String) (value : Option String) :
    Except (List SchemaIssue) (Option String) :=
  match value.filter fun value => trim value != "" with
  | none => .ok none
  | some value =>
      match slugIssues (lower (trim value)) with
      | [] => .ok (some (lower (trim value)))
      | issues => .error issues

/-- The slug that an event is stored under. -/
def eventSlug (nfkd lower : String → String) (title : String) (slug : Option String) :
    Except (List SchemaIssue) String := do
  let slug ← optionalSlug lower slug
  pure (slug.getD (createEventSlug nfkd lower title))

/-- `Event_publicSlug_check`: `^[a-z0-9]+(?:-[a-z0-9]+)*(?:--[a-z0-9]+(?:-[a-z0-9]+)*)$`. -/
def publicSlugPattern : RegularExpression Char :=
  slugPattern * (.char '-' * (.char '-' * slugPattern))

def publicSlugCheck (publicSlug : String) : Bool :=
  publicSlugPattern.rmatch publicSlug.toList

/-! ## §2 Valid slugs -/

/-- A slug of at most `maximum` characters. -/
structure IsSlug (maximum : Nat) (slug : String) : Prop where
  nonempty : 1 ≤ slug.length
  length_le : slug.length ≤ maximum
  pattern : slugPattern.rmatch slug.toList = true

/-- A function of texts that leaves lower-case ASCII text as it is. -/
def FixesLowerAscii (f : String → String) : Prop :=
  ∀ s : String, (∀ c ∈ s.toList, c.toNat < 128 ∧ c.isUpper = false) → f s = s

theorem hyphen_not_slugLetter : isSlugLetter '-' = false := by decide

theorem slugPattern_iff {l : List Char} :
    slugPattern.rmatch l = true ↔ Joined isSlugLetter '-' l := by
  rw [RegularExpression.rmatch_iff_matches']
  exact mem_joinedPattern

theorem IsSlug.joined {maximum : Nat} {slug : String} (h : IsSlug maximum slug) :
    Joined isSlugLetter '-' slug.toList :=
  slugPattern_iff.mp h.pattern

theorem isSlug_of_joined {maximum : Nat} {l : List Char} (hjoined : Joined isSlugLetter '-' l)
    (hlength : l.length ≤ maximum) : IsSlug maximum (String.ofList l) where
  nonempty := by
    obtain ⟨c, rest, rfl, -⟩ := hjoined.head hyphen_not_slugLetter
    simp
  length_le := by simpa using hlength
  pattern := by
    rw [String.toList_ofList]
    exact slugPattern_iff.mpr hjoined

/-- The characters of a slug are lower-case ASCII, and none is a combining mark. -/
theorem slugLetters_plain : ∀ c ∈ '-' :: slugLetters,
    (c.toNat < 128 ∧ c.isUpper = false) ∧ isCombiningMark c = false := by
  have hall : ('-' :: slugLetters).all (fun c =>
      decide ((c.toNat < 128 ∧ c.isUpper = false) ∧ isCombiningMark c = false)) = true := by
    decide
  exact fun c hc => of_decide_eq_true (List.all_eq_true.mp hall c hc)

theorem IsSlug.plain {maximum : Nat} {slug : String} (h : IsSlug maximum slug) :
    ∀ c ∈ slug.toList, (c.toNat < 128 ∧ c.isUpper = false) ∧ isCombiningMark c = false := by
  intro c hc
  obtain ⟨-, hchars, -⟩ := (joined_iff hyphen_not_slugLetter).mp h.joined
  refine slugLetters_plain c ?_
  rcases hchars c hc with hletter | rfl
  · exact List.mem_cons_of_mem _ (of_decide_eq_true hletter)
  · exact List.mem_cons_self

section Create

variable {nfkd lower : String → String} {maximum : Nat} {fallback value : String}

/-- **A created slug is valid**, whatever the title. -/
theorem isSlug_createSlug (hfallback : IsSlug maximum fallback) :
    IsSlug maximum (createSlug nfkd lower maximum fallback value) := by
  unfold createSlug
  extract_lets text slug
  split
  · exact hfallback
  · rename_i hne
    have hchars : ∀ c ∈ replaceRuns isSlugLetter '-' false text, isSlugLetter c = true ∨ c = '-' :=
      replaceRuns_chars false
    have hspaced := (replaceRuns_spaced (l := text) hyphen_not_slugLetter false).1
    -- trimming keeps a part that starts with a letter, cutting a beginning of that part
    have hdropped := List.dropWhile_suffix (· == '-')
      (l := replaceRuns isSlugLetter '-' false text)
    have hprefix : (trimmed '-' (replaceRuns isSlugLetter '-' false text)).take maximum <+:
        (replaceRuns isSlugLetter '-' false text).dropWhile (· == '-') :=
      (List.take_prefix _ _).trans (List.rdropWhile_prefix _ _)
    have hjoined : Joined isSlugLetter '-' slug := by
      refine joined_of_prefix hyphen_not_slugLetter (fun c hc => hchars c (hdropped.subset hc))
        (hspaced.suffix hdropped) head_dropWhile hprefix ?_
      exact fun hnil => hne (List.isEmpty_iff.mpr hnil)
    refine isSlug_of_joined hjoined ?_
    calc slug.length ≤ ((trimmed '-' (replaceRuns isSlugLetter '-' false text)).take
          maximum).length := (List.rdropWhile_prefix _ _).length_le
      _ ≤ maximum := by simp

/-- **A slug is its own slug.** -/
theorem createSlug_of_isSlug (hnfkd : FixesLowerAscii nfkd) (hlower : FixesLowerAscii lower)
    (h : IsSlug maximum value) : createSlug nfkd lower maximum fallback value = value := by
  have hplain := h.plain
  obtain ⟨hne, hchars, hspaced, hhead, hlast⟩ := (joined_iff hyphen_not_slugLetter).mp h.joined
  have hfilter : value.toList.filter (fun c => !isCombiningMark c) = value.toList :=
    List.filter_eq_self.mpr fun c hc => by simp [(hplain c hc).2]
  have htake : value.toList.take maximum = value.toList := by
    refine List.take_of_length_le ?_
    rw [String.length_toList]
    exact h.length_le
  unfold createSlug
  rw [hnfkd value fun c hc => (hplain c hc).1, hfilter, String.ofList_toList,
    hlower value fun c hc => (hplain c hc).1]
  dsimp only
  rw [replaceRuns_eq_self hchars hspaced false (by simp), trimmed_eq_self hhead hlast, htake]
  have hend : value.toList.rdropWhile (· == '-') = value.toList := by
    rw [List.rdropWhile_eq_self_iff]
    intro hnil hsep
    rw [List.getLast?_eq_some_getLast hnil] at hlast
    exact hlast (by simpa using hsep)
  rw [hend, String.ofList_toList, if_neg (by simpa using hne)]

end Create

theorem isSlug_event : IsSlug 80 "event" := ⟨by decide, by decide, by decide⟩

theorem isSlug_organization : IsSlug 64 "organization" := ⟨by decide, by decide, by decide⟩

/-- What an organiser wrote and the schema let through is a slug as well. -/
theorem isSlug_of_optionalSlug {lower : String → String} {value : Option String} {slug : String}
    (h : optionalSlug lower value = .ok (some slug)) : IsSlug 80 slug := by
  unfold optionalSlug at h
  split at h
  · cases h
  · split at h
    · rename_i hissues
      obtain rfl := Option.some.inj (Except.ok.inj h)
      unfold slugIssues at hissues
      simp only [List.append_eq_nil_iff, ite_eq_left_iff, ite_eq_right_iff, List.cons_ne_nil,
        imp_false, not_lt, not_not] at hissues
      obtain ⟨⟨-, hlength⟩, hpattern⟩ := hissues
      have hjoined := slugPattern_iff.mp hpattern
      generalize lower (trim _) = slug at hlength hjoined
      have hplain := (isSlug_of_joined hjoined le_rfl).plain
      rw [String.toList_ofList] at hplain
      rw [utf16Length_of_small fun c hc => ?_] at hlength
      · rw [← String.ofList_toList (s := slug)]
        exact isSlug_of_joined hjoined hlength
      · have hsmall := (hplain c hc).1.1
        exact Nat.lt_trans hsmall (by decide)
    · cases h

/-- **Every event is stored under a slug.** -/
theorem isSlug_eventSlug {nfkd lower : String → String} {title stored : String}
    {slug : Option String} (h : eventSlug nfkd lower title slug = .ok stored) :
    IsSlug 80 stored := by
  unfold eventSlug at h
  cases hwritten : optionalSlug lower slug with
  | error issues =>
      rw [hwritten] at h
      cases h
  | ok written =>
      rw [hwritten] at h
      cases h
      cases written with
      | none => exact isSlug_createSlug isSlug_event
      | some written => exact isSlug_of_optionalSlug hwritten

/-! ## §3 Public slugs -/

section Public

variable {maximum maximum' : Nat} {organizationSlug organizationSlug' event event' : String}

/-- Two slugs make an address that the database takes. -/
theorem publicSlugCheck_of_isSlug (ho : IsSlug maximum organizationSlug)
    (he : IsSlug maximum' event) :
    publicSlugCheck (createPublicEventSlug organizationSlug event) = true := by
  have horganization := (RegularExpression.rmatch_iff_matches' _ _).mp ho.pattern
  have hevent := (RegularExpression.rmatch_iff_matches' _ _).mp he.pattern
  unfold publicSlugCheck
  rw [RegularExpression.rmatch_iff_matches', publicSlugPattern]
  simp only [RegularExpression.matches'_mul, RegularExpression.matches'_char]
  refine Language.mem_mul.mpr ⟨_, horganization, '-' :: '-' :: event.toList, ?_, ?_⟩
  · refine Language.mem_mul.mpr ⟨['-'], rfl, '-' :: event.toList, ?_, rfl⟩
    exact Language.mem_mul.mpr ⟨['-'], rfl, event.toList, hevent, rfl⟩
  · simp [createPublicEventSlug, String.toList_append]

/-- **An address is of one organisation and one event.** -/
theorem createPublicEventSlug_inj (ho : IsSlug maximum organizationSlug)
    (ho' : IsSlug maximum organizationSlug')
    (h : createPublicEventSlug organizationSlug event =
      createPublicEventSlug organizationSlug' event') :
    organizationSlug = organizationSlug' ∧ event = event' := by
  have hlists : organizationSlug.toList ++ '-' :: '-' :: event.toList =
      organizationSlug'.toList ++ '-' :: '-' :: event'.toList := by
    have htoList := congrArg String.toList h
    simpa [createPublicEventSlug, String.toList_append] using htoList
  obtain ⟨horganization, hevent⟩ := ho.joined.append_inj hyphen_not_slugLetter ho'.joined hlists
  exact ⟨String.toList_injective horganization, String.toList_injective hevent⟩

end Public

/-- **Slugs are valid and public slugs do not collide**: the slugs of any titles are valid and are
their own slugs, and the address made of an organisation's slug and an event's satisfies the
database and gives both back. -/
theorem publicEventSlugs_sound {nfkd lower : String → String} (hnfkd : FixesLowerAscii nfkd)
    (hlower : FixesLowerAscii lower) :
    (∀ title, IsSlug 80 (createEventSlug nfkd lower title) ∧
      createEventSlug nfkd lower (createEventSlug nfkd lower title) =
        createEventSlug nfkd lower title) ∧
    (∀ name, IsSlug 64 (createOrganizationSlug nfkd lower name) ∧
      createOrganizationSlug nfkd lower (createOrganizationSlug nfkd lower name) =
        createOrganizationSlug nfkd lower name) ∧
    ∀ o₁ o₂ e₁ e₂, IsSlug 64 o₁ → IsSlug 64 o₂ → IsSlug 80 e₁ → IsSlug 80 e₂ →
      publicSlugCheck (createPublicEventSlug o₁ e₁) = true ∧
        (createPublicEventSlug o₁ e₁ = createPublicEventSlug o₂ e₂ → o₁ = o₂ ∧ e₁ = e₂) := by
  refine ⟨fun title => ?_, fun name => ?_, fun o₁ o₂ e₁ e₂ ho₁ ho₂ he₁ _ => ⟨?_, ?_⟩⟩
  · have hslug : IsSlug 80 (createEventSlug nfkd lower title) := isSlug_createSlug isSlug_event
    exact ⟨hslug, createSlug_of_isSlug hnfkd hlower hslug⟩
  · have hslug : IsSlug 64 (createOrganizationSlug nfkd lower name) :=
      isSlug_createSlug isSlug_organization
    exact ⟨hslug, createSlug_of_isSlug hnfkd hlower hslug⟩
  · exact publicSlugCheck_of_isSlug ho₁ he₁
  · exact createPublicEventSlug_inj ho₁ ho₂

/-- Over ASCII texts, which normalisation leaves as they are. -/
theorem publicEventSlugs_sound_ascii :
    let lower := fun s : String => String.ofList (s.toList.map Char.toLower)
    createEventSlug id lower "  Summer Night: Live! " = "summer-night-live" ∧
      createOrganizationSlug id lower "summer-night-live" = "summer-night-live" ∧
      ∀ title, IsSlug 80 (createEventSlug id lower title) := by
  intro lower
  have hlower : FixesLowerAscii lower := by
    intro s hs
    have hmap : s.toList.map Char.toLower = s.toList := by
      calc s.toList.map Char.toLower = s.toList.map id :=
            List.map_congr_left fun c hc => dif_neg (of_decide_eq_false (hs c hc).2)
        _ = s.toList := List.map_id _
    show String.ofList (s.toList.map Char.toLower) = s
    rw [hmap, String.ofList_toList]
  have hsound := publicEventSlugs_sound (fun _ _ => rfl) hlower
  exact ⟨by decide, by decide, fun title => (hsound.1 title).1⟩

end SeatFlow
