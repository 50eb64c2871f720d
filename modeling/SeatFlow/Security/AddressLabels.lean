import SeatFlow.Security.AddressTexts

/-!
# Addresses in logs

`truncateAddressForLogs` keeps the first three octets of an IPv4 address, and of an IPv6 address
the first three groups that are written. Behind a `::` these are not the first three of the
address, and then the label names another network.
-/

namespace SeatFlow

open IpAddress Text

/-! ## §1 Labels -/

def truncateAddressForLogs (address : Option String) : Option String :=
  match address with
  | none => none
  | some address =>
      if address.toList.isEmpty then none
      else if isValidIpv4 address then
        let octets := address.toList.splitOn '.'
        let octet := fun i => (octets[i]?).getD "undefined".toList
        some (String.ofList
          (octet 0 ++ '.' :: octet 1 ++ '.' :: octet 2 ++ ".0/24".toList))
      else if isValidIpv6 address then
        let groups := (address.toList.splitOn ':').filter fun group => !group.isEmpty
        some (String.ofList ([':'].intercalate (groups.take 3) ++ "::/48".toList))
      else none

/-- A valid text of either kind. -/
inductive AddressText
  | v4 (quad : Quad)
  | v6 (text : Ipv6Text)

/-- The first 24 bits, or the first 48. -/
inductive Network
  | v4 (octets : List (Fin 256))
  | v6 (groups : List (Fin 65536))
  deriving DecidableEq

namespace AddressText

def render : AddressText → List Char
  | v4 quad => quad.render
  | v6 text => text.render

def network : AddressText → Network
  | v4 quad => .v4 [quad.first, quad.second, quad.third]
  | v6 text => .v6 (text.values.take 3)

/-- An address with the length of its network. -/
def cidr : AddressText → List Char
  | v4 quad => quad.render ++ "/24".toList
  | v6 text => text.render ++ "/48".toList

/-- The label of a text names a network. -/
def LoggedAs (address : AddressText) (network : Network) : Prop :=
  ∃ label : AddressText, label.network = network ∧
    truncateAddressForLogs (some (String.ofList address.render)) = some (String.ofList label.cidr)

/-- Behind a `::`, only zeros are among the first three groups that are written. -/
def LeadingWritten : AddressText → Prop
  | v4 _ => True
  | v6 (.full _ _) => True
  | v6 (.elided head tail _) => ∀ w ∈ tail.words.take (3 - head.length), ∀ c ∈ w, c = '0'

instance : DecidablePred LeadingWritten
  | v4 _ => inferInstanceAs (Decidable True)
  | v6 (.full _ _) => inferInstanceAs (Decidable True)
  | v6 (.elided head tail _) =>
      decidable_of_iff
        ((tail.words.take (3 - head.length)).all (fun w => w.all (· == '0')) = true)
        (by simp [LeadingWritten])

end AddressText

/-! ## §2 What a label says -/

theorem isValidIpv4_of_quad (quad : Quad) : isValidIpv4 (String.ofList quad.render) = true :=
  isValidIpv4_iff.mpr ⟨quad, String.toList_ofList⟩

/-- A label of three groups or fewer, as far as they are groups, names the network of these with
zeros behind them. -/
theorem v6_label_iff {ws : List (List Char)} (hwords : AreWords ':' ws) (hthree : ws.length ≤ 3)
    {network : List (Fin 65536)} :
    (∃ label : AddressText, label.network = .v6 network ∧
      label.cidr = [':'].intercalate ws ++ "::/48".toList) ↔
    ∃ groups : List Group, ws = groups.map (·.digits) ∧
      (groups.map Group.value ++ List.replicate 3 0).take 3 = network := by
  constructor
  · rintro ⟨label, hnetwork, hlabel⟩
    cases label with
    | v4 quad => cases hnetwork
    | v6 text =>
        have hrender : text.render = [':'].intercalate ws ++ ':' :: ':' :: [] := by
          have hlabel' : text.render ++ "/48".toList =
              ([':'].intercalate ws ++ ':' :: ':' :: []) ++ "/48".toList := by
            rw [List.append_assoc]
            exact hlabel
          exact List.append_cancel_right hlabel'
        cases text with
        | full run eight =>
            -- a full text does not end with a colon
            have hlast := (tidy_intercalate run.areWords).last
            rw [Ipv6Text.render] at hrender
            rw [hrender] at hlast
            simp at hlast
        | elided head tail fewer =>
            have hhead := tidy_intercalate (areWords_groups head)
            have hws := tidy_intercalate hwords
            obtain ⟨heq, htail⟩ := append_inj_of_spaced
              (spaced_append_singleton.mpr ⟨hhead.spaced, hhead.last⟩)
              (spaced_append_singleton.mpr ⟨hws.spaced, hws.last⟩) hrender
            have hgroups := congrArg (written ':') heq
            rw [written_intercalate (areWords_groups head), written_intercalate hwords] at hgroups
            have hnone : tail.words = [] := by
              by_contra hne
              exact intercalate_ne_nil tail.areWords hne htail
            obtain rfl : tail = ⟨[], none⟩ := Run.eq_nil_of_words hnone
            refine ⟨head, hgroups.symm, ?_⟩
            rw [← Network.v6.inj hnetwork]
            exact (values_elided_nil head fewer).symm
  · rintro ⟨groups, rfl, rfl⟩
    rw [List.length_map] at hthree
    have hfewer : groups.length + (⟨[], none⟩ : Run).size ≤ 7 := by
      simp [Run.size]
      omega
    refine ⟨.v6 (.elided groups ⟨[], none⟩ hfewer), ?_, ?_⟩
    · rw [AddressText.network, values_elided_nil]
    · simp [AddressText.cidr, Ipv6Text.render, Run.words]

/-- A list that is itself behind some zeros is zeros. -/
theorem take_shift {α : Type} {zero : α} {xs : List α} {k e : Nat} (he : 1 ≤ e)
    (hk : k ≤ xs.length) :
    xs.take k = (List.replicate e zero ++ xs).take k ↔ ∀ x ∈ xs.take k, x = zero := by
  constructor
  · intro h
    have hplace : ∀ i, i < k → xs[i]? = some zero := by
      intro i
      induction i using Nat.strong_induction_on with
      | _ i ih =>
        intro hi
        have hat := congrArg (fun l => l[i]?) h
        simp only [List.getElem?_take_of_lt hi] at hat
        rw [hat]
        by_cases hlt : i < e
        · rw [List.getElem?_append_left (by simpa using hlt), List.getElem?_replicate, if_pos hlt]
        · rw [List.getElem?_append_right (by simpa using hlt), List.length_replicate]
          exact ih (i - e) (by omega) (by omega)
    intro x hx
    obtain ⟨i, hi, rfl⟩ := List.mem_iff_getElem.mp hx
    rw [List.length_take] at hi
    have hxi := hplace i (by omega)
    rw [List.getElem_take]
    exact (List.getElem?_eq_some_iff.mp hxi).2
  · intro h
    have hleft : xs.take k = List.replicate k zero :=
      List.eq_replicate_iff.mpr ⟨by rw [List.length_take]; omega, h⟩
    rw [hleft, eq_comm, List.eq_replicate_iff]
    refine ⟨by simp; omega, fun x hx => ?_⟩
    rw [List.take_append, List.take_replicate] at hx
    rcases List.mem_append.mp hx with hx | hx
    · exact List.eq_of_mem_replicate hx
    · exact h x (List.take_subset_take_left _ (by simp) hx)

/-- As far as the words of a run are groups, they stand for what the run does. -/
theorem padded_values {run : Run} {groups : List Group} {k : Nat}
    (h : run.words.take k = groups.map (·.digits)) :
    (groups.map Group.value ++ List.replicate 3 0).take k =
      (run.values ++ List.replicate 3 0).take k := by
  obtain ⟨own, quad⟩ := run
  by_cases hlong : k ≤ own.length
  · have hgroups : groups = own.take k := by
      refine Group.digits_injective ?_
      rw [← h, Run.words, List.take_append_of_le_length (by simpa using hlong), List.map_take]
    rw [hgroups, Run.values, List.append_assoc, List.take_append_of_le_length (by simp [hlong]),
      List.take_append_of_le_length (by simpa using hlong), List.map_take, List.take_take,
      Nat.min_self]
  · cases quad with
    | some quad =>
        have hmem : quad.render ∈ groups.map (·.digits) := by
          rw [← h, Run.words, List.take_append]
          refine List.mem_append_right _ ?_
          rw [List.take_of_length_le (by simp; omega)]
          simp
        obtain ⟨group, -, hgroup⟩ := List.mem_map.mp hmem
        exact absurd (hgroup ▸ quad.point_mem_render) (group.not_mem (by decide))
    | none =>
        have hgroups : groups = own := by
          refine Group.digits_injective ?_
          rw [← h, List.take_of_length_le (by simp [Run.words]; omega)]
          simp [Run.words]
        simp [hgroups, Run.values]

/-- **Zeros only**: groups that are written behind a `::` are those of the address there, which are
those before them and zeros at first, only where all are zeros. -/
theorem leading_iff {tail : Run} {groups : List Group} {e k : Nat} (he : 1 ≤ e) (hk : k ≤ 3)
    (hlong : k ≤ e + tail.values.length) (h : tail.words.take k = groups.map (·.digits)) :
    (groups.map Group.value ++ List.replicate 3 0).take k =
        (List.replicate e 0 ++ tail.values).take k ↔
      ∀ w ∈ tail.words.take k, ∀ c ∈ w, c = '0' := by
  have hbehind : (List.replicate e 0 ++ tail.values).take k =
      (List.replicate e 0 ++ (tail.values ++ List.replicate 3 0)).take k := by
    rw [← List.append_assoc]
    exact (List.take_append_of_le_length (by simpa using hlong)).symm
  have hshort : groups.length ≤ k := by
    have hlength := congrArg List.length h
    rw [List.length_take, List.length_map] at hlength
    omega
  have hzeros : (∀ x ∈ (tail.values ++ List.replicate 3 0).take k, x = 0) ↔
      ∀ group ∈ groups, group.value = 0 := by
    rw [← padded_values h, List.take_append, List.take_of_length_le (by simpa using hshort)]
    constructor
    · intro hall group hgroup
      exact hall _ (List.mem_append_left _ (List.mem_map_of_mem hgroup))
    · intro hall x hx
      rcases List.mem_append.mp hx with hx | hx
      · obtain ⟨group, hgroup, rfl⟩ := List.mem_map.mp hx
        exact hall group hgroup
      · exact List.eq_of_mem_replicate (List.mem_of_mem_take hx)
  rw [padded_values h, hbehind, take_shift he (by simp; omega), hzeros, h, List.forall_mem_map]
  exact forall₂_congr fun group _ => group.value_eq_zero

/-- What is written with zeros only is a group. -/
theorem exists_groups_of_zeros {run : Run} {k : Nat}
    (h : ∀ w ∈ run.words.take k, ∀ c ∈ w, c = '0') :
    ∃ groups : List Group, run.words.take k = groups.map (·.digits) := by
  have hrange : run.words.take k ∈ Set.range (List.map (·.digits : Group → List Char)) := by
    rw [Set.range_list_map]
    intro w hw
    rcases List.mem_append.mp (List.mem_of_mem_take hw) with hgroup | hquad
    · obtain ⟨group, -, hdigits⟩ := List.mem_map.mp hgroup
      exact ⟨group, hdigits⟩
    · obtain ⟨quad, -, rfl⟩ := Option.map_eq_some_iff.mp (Option.mem_toList.mp hquad)
      exact absurd (h _ hw '.' quad.point_mem_render) (by decide)
  obtain ⟨groups, hgroups⟩ := hrange
  exact ⟨groups, hgroups.symm⟩

/-! ## §3 Networks in logs -/

theorem truncateAddressForLogs_v4 (quad : Quad) :
    truncateAddressForLogs (some (String.ofList quad.render)) =
      some (String.ofList ((⟨quad.first, quad.second, quad.third, 0⟩ : Quad).render ++
        "/24".toList)) := by
  have hne : quad.render.isEmpty = false :=
    List.isEmpty_eq_false_iff.mpr (List.ne_nil_of_mem quad.point_mem_render)
  have hvalid := isValidIpv4_of_quad quad
  simp only [truncateAddressForLogs, String.toList_ofList, hne, hvalid, Bool.false_eq_true,
    if_false, if_true, quad.splitOn_render]
  simp [Quad.octets, Quad.render, List.intercalate_cons_cons]

theorem truncateAddressForLogs_v6 (text : Ipv6Text) :
    truncateAddressForLogs (some (String.ofList text.render)) =
      some (String.ofList ([':'].intercalate ((written ':' text.render).take 3) ++
        "::/48".toList)) := by
  have hne : text.render.isEmpty = false :=
    List.isEmpty_eq_false_iff.mpr (List.ne_nil_of_mem text.colon_mem_render)
  have hv4 : isValidIpv4 (String.ofList text.render) = false := by
    refine Bool.eq_false_iff.mpr fun h => ?_
    obtain ⟨quad, hquad⟩ := isValidIpv4_iff.mp h
    rw [String.toList_ofList] at hquad
    exact quad.colon_not_mem_render (hquad ▸ text.colon_mem_render)
  have hv6 : isValidIpv6 (String.ofList text.render) = true :=
    isValidIpv6_of_text String.toList_ofList
  simp only [truncateAddressForLogs, String.toList_ofList, hne, hv4, hv6, Bool.false_eq_true,
    if_false, if_true]
  rfl

/-- **One label**: it names the network of its address exactly where the written groups lead. -/
theorem AddressText.loggedAs_iff (address : AddressText) :
    address.LoggedAs address.network ↔ address.LeadingWritten := by
  unfold LoggedAs
  cases address with
  | v4 quad =>
      refine iff_of_true ⟨.v4 ⟨quad.first, quad.second, quad.third, 0⟩, rfl, ?_⟩ trivial
      exact truncateAddressForLogs_v4 quad
  | v6 text =>
      rw [render, truncateAddressForLogs_v6]
      have hnames : ∀ {ws}, AreWords ':' ws → written ':' text.render = ws →
          ((∃ label : AddressText, label.network = .v6 (text.values.take 3) ∧
              some (String.ofList ([':'].intercalate ((written ':' text.render).take 3) ++
                "::/48".toList)) = some (String.ofList label.cidr)) ↔
            ∃ groups : List Group, ws.take 3 = groups.map (·.digits) ∧
              (groups.map Group.value ++ List.replicate 3 0).take 3 = text.values.take 3) := by
        rintro ws hwords rfl
        have hthree : AreWords ':' ((written ':' text.render).take 3) :=
          fun w hw => hwords w (List.mem_of_mem_take hw)
        rw [← v6_label_iff hthree (by simp)]
        simp only [Option.some.injEq, String.ofList_inj, eq_comm]
      cases text with
      | full run eight =>
          have hsix : 3 ≤ run.groups.length := by
            rw [Run.size] at eight
            split at eight <;> omega
          have hwords : run.words.take 3 = (run.groups.take 3).map (·.digits) := by
            rw [Run.words, List.take_append_of_le_length (by simpa using hsix), List.map_take]
          refine iff_of_true ?_ trivial
          refine (hnames run.areWords (written_intercalate run.areWords)).mpr ⟨_, hwords, ?_⟩
          rw [padded_values hwords, Ipv6Text.values, List.take_append_of_le_length]
          rw [Run.values, List.length_append, List.length_map]
          omega
      | elided head tail fewer =>
          have hwords : AreWords ':' (head.map (·.digits) ++ tail.words) :=
            areWords_append.mpr ⟨areWords_groups head, tail.areWords⟩
          refine (hnames hwords ?_).trans ?_
          · rw [Ipv6Text.render, written_elided, written_intercalate (areWords_groups head),
              written_intercalate tail.areWords]
          by_cases hthree : 3 ≤ head.length
          · refine iff_of_true ⟨head.take 3, ?_, ?_⟩ fun w hw => ?_
            · rw [List.take_append_of_le_length (by simpa using hthree), List.map_take]
            · rw [Ipv6Text.values, List.append_assoc,
                List.take_append_of_le_length (by simpa using hthree),
                List.take_append_of_le_length (by simp [hthree]), List.map_take, List.take_take]
              rfl
            · rw [Nat.sub_eq_zero_of_le hthree] at hw
              cases hw
          · have hcut : ∀ {α : Type} (xs ys : List α), xs.length = head.length →
                (xs ++ ys).take 3 = xs ++ ys.take (3 - head.length) := by
              intro α xs ys hlength
              rw [List.take_append, List.take_of_length_le (by omega), hlength]
            have he : 1 ≤ 8 - head.length - tail.size := by omega
            have hlong : 3 - head.length ≤ 8 - head.length - tail.size + tail.values.length := by
              rw [tail.length_values]
              omega
            rw [hcut _ _ (List.length_map _), Ipv6Text.values, List.append_assoc,
              hcut _ _ (List.length_map _)]
            constructor
            · rintro ⟨groups, hwritten, hvalues⟩
              obtain ⟨before, behind, rfl, hbefore, hbehind⟩ :=
                List.map_eq_append_iff.mp hwritten.symm
              obtain rfl : before = head := Group.digits_injective hbefore
              rw [List.map_append, List.append_assoc, hcut _ _ (List.length_map _)] at hvalues
              exact (leading_iff he (by omega) hlong hbehind.symm).mp
                (List.append_cancel_left hvalues)
            · intro hzeros
              obtain ⟨behind, hbehind⟩ := exists_groups_of_zeros hzeros
              refine ⟨head ++ behind, by rw [hbehind, List.map_append], ?_⟩
              rw [List.map_append, List.append_assoc, hcut _ _ (List.length_map _),
                (leading_iff he (by omega) hlong hbehind).mpr hzeros]

/-- **Logged networks.** -/
theorem truncateAddressForLogs_network {a b : AddressText} (h : a.network = b.network) :
    (a.LoggedAs a.network ∧ b.LoggedAs a.network) ↔ a.LeadingWritten ∧ b.LeadingWritten := by
  rw [a.loggedAs_iff, h, b.loggedAs_iff]

def groupOf (digits : String) (nonempty : digits.toList ≠ [] := by decide)
    (length_le : digits.toList.length ≤ 4 := by decide)
    (hex : digits.toList.all IpAddress.isHexDigit = true := by decide) : Group :=
  ⟨digits.toList, nonempty, length_le, List.all_eq_true.mp hex⟩

/-- `2001:db8:0:1::7`. -/
def writtenOut : AddressText :=
  .v6 (.elided [groupOf "2001", groupOf "db8", groupOf "0", groupOf "1"] ⟨[groupOf "7"], none⟩
    (by decide))

/-- `2001:0DB8:0:0:0:0:192.0.2.1`. -/
def withQuad : AddressText :=
  .v6 (.full ⟨[groupOf "2001", groupOf "0DB8", groupOf "0", groupOf "0", groupOf "0", groupOf "0"],
    some ⟨192, 0, 2, 1⟩⟩ (by decide))

/-- `2001:db8::1`. -/
def elidedEarly : AddressText :=
  .v6 (.elided [groupOf "2001", groupOf "db8"] ⟨[groupOf "1"], none⟩ (by decide))

/-- Two texts of one network, in different spellings. -/
theorem truncateAddressForLogs_network_spellings :
    writtenOut.LoggedAs writtenOut.network ∧ withQuad.LoggedAs writtenOut.network :=
  (truncateAddressForLogs_network (by decide +kernel)).mpr ⟨by decide +kernel, trivial⟩

/-- `2001:db8::1` is logged as the network `2001:db8:1::`, not as its own. -/
theorem truncateAddressForLogs_elided :
    elidedEarly.network = withQuad.network ∧
      truncateAddressForLogs (some (String.ofList elidedEarly.render)) = some "2001:db8:1::/48" ∧
      ¬(elidedEarly.LoggedAs elidedEarly.network ∧ withQuad.LoggedAs elidedEarly.network) := by
  refine ⟨by decide +kernel, by decide +kernel, fun h => ?_⟩
  exact absurd (elidedEarly.loggedAs_iff.mp h.1) (by decide +kernel)

end SeatFlow
