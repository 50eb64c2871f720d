import SeatFlow.Numbers.Decimal
import SeatFlow.SeatMaps.Schema
import SeatFlow.Text.IpAddress

/-!
# Client addresses behind proxies

`X-Forwarded-For` lists the peers of the proxies that a request came through, behind whatever the
client sent itself. Under `trusted-hop` the service takes one entry of the list for the client's
address; which one is a matter of the number of proxies only, as long as every entry is an
address.
-/

namespace SeatFlow

open Decimal (isDigits isDigits_iff)
open IpAddress (isHexDigit)
open Text

/-! ## §1 Addresses -/

def MAX_FORWARDED_HEADER_LENGTH : Nat := 1024
def MAX_FORWARDED_HOPS : Nat := 20

inductive TrustedProxyMode
  | none | trustedHop | platformHeader
  deriving DecidableEq

structure TrustedProxyPolicy where
  mode : TrustedProxyMode
  hopCount : Option Nat := .none
  headerName : Option String := .none

/-- `\d{1,3}(?:\.\d{1,3}){3}`. -/
def isDottedQuad (l : List Char) : Bool :=
  (l.splitOn '.').length == 4 && (l.splitOn '.').all (isDigits 3)

def isOctet (octet : List Char) : Bool :=
  !(1 < octet.length && octet.head? == some '0') && Decimal.value octet ≤ 255

def isValidIpv4 (value : String) : Bool :=
  isDottedQuad value.toList && (value.toList.splitOn '.').all isOctet

/-- `[0-9A-Fa-f:.]`. -/
def isAddressCharacter (c : Char) : Bool :=
  isHexDigit c || c == ':' || c == '.'

def hasTripleColon : List Char → Bool
  | ':' :: ':' :: ':' :: _ => true
  | _ :: rest => hasTripleColon rest
  | [] => false

/-- `value.split("::").length - 1`. -/
def doubleColonCount : List Char → Nat
  | ':' :: ':' :: rest => doubleColonCount rest + 1
  | _ :: rest => doubleColonCount rest
  | [] => 0

/-- What follows the last colon. -/
def afterLastColon (l : List Char) : List Char :=
  (l.reverse.takeWhile (· != ':')).reverse

/-- The groups of `head`, beside those of a suffix that was read before. -/
def areGroups (head : List Char) (trailingGroups doubleColons : Nat) : Bool :=
  let explicit := (head.splitOn ':').filter fun group => !group.isEmpty
  let total := explicit.length + trailingGroups
  explicit.all (fun group => group.length ≤ 4 && group.all isHexDigit) &&
    if doubleColons == 1 then total ≤ 7 else total == 8

def isValidIpv6 (value : String) : Bool :=
  let l := value.toList
  let last := afterLastColon l
  !(45 < utf16Length value) && !l.isEmpty && l.all isAddressCharacter && !hasTripleColon l &&
    !(l.head? == some ':' && !([':', ':'].isPrefixOf l)) &&
    !(l.getLast? == some ':' && !([':', ':'].isSuffixOf l)) &&
    !(1 < doubleColonCount l) &&
    -- an IPv4-mapped suffix counts as two groups
    if l.contains ':' && last.contains '.' then
      isValidIpv4 (String.ofList last) &&
        areGroups (l.take (l.length - last.length - 1)) 2 (doubleColonCount l)
    else areGroups l 0 (doubleColonCount l)

def isValidIpAddress (value : String) : Bool :=
  isValidIpv4 value || isValidIpv6 value

/-! ## §2 Forwarded entries -/

def toLowerCase (value : String) : String :=
  String.ofList (value.toList.map Char.toLower)

/-- `(?::\d{1,5})?`. -/
def isPortSuffix : List Char → Bool
  | [] => true
  | ':' :: digits => isDigits 5 digits
  | _ => false

/-- `/^\[([^\]]+)\](?::\d{1,5})?$/`: what stands between the brackets. -/
def bracketed : List Char → Option (List Char)
  | '[' :: rest =>
      match rest.dropWhile (· != ']') with
      | ']' :: suffix =>
          let candidate := rest.takeWhile (· != ']')
          if !candidate.isEmpty && isPortSuffix suffix then some candidate else none
      | _ => none
  | _ => none

/-- `/^(\d{1,3}(?:\.\d{1,3}){3}):\d{1,5}$/`: what stands before the port. -/
def withPort (entry : List Char) : Option (List Char) :=
  match entry.splitOn ':' with
  | [candidate, port] => if isDottedQuad candidate && isDigits 5 port then some candidate else none
  | _ => none

def normalizeForwardedEntry (rawEntry : String) : Option String :=
  let entry := trim rawEntry
  if entry.toList.isEmpty || 64 < utf16Length entry then none
  else
    match bracketed entry.toList with
    | some candidate =>
        if isValidIpv6 (String.ofList candidate) then some (toLowerCase (String.ofList candidate))
        else none
    | none =>
        if isValidIpv6 entry then some (toLowerCase entry)
        else
          match withPort entry.toList with
          | some candidate =>
              if isValidIpv4 (String.ofList candidate) then some (String.ofList candidate) else none
          | none => if isValidIpv4 entry then some entry else none

/-- The loop over the raw entries. -/
def normalizeEntries : List (List Char) → Option (List String)
  | [] => some []
  | rawEntry :: rest => do
      let normalized ← normalizeForwardedEntry (String.ofList rawEntry)
      let entries ← normalizeEntries rest
      some (normalized :: entries)

/-- `/[\r\n]/`. -/
def hasLineBreak (value : String) : Bool :=
  value.toList.any fun c => c == '\r' || c == '\n'

/-- `headerValue.split(",")`. -/
def entriesOf (headerValue : String) : List (List Char) :=
  headerValue.toList.splitOn ','

def parseForwardedChain (headerValue : Option String) : Option (List String) :=
  match headerValue with
  | none => none
  | some header =>
      if header.toList.isEmpty then none
      else if MAX_FORWARDED_HEADER_LENGTH < utf16Length header then none
      else if hasLineBreak header then none
      else
        let rawEntries := entriesOf header
        if rawEntries.length == 0 || MAX_FORWARDED_HOPS < rawEntries.length then none
        else normalizeEntries rawEntries

/-! ## §3 Resolution -/

inductive UnresolvedReason
  | no_forwarding_configured | malformed_chain | insufficient_hops | missing_header
  deriving DecidableEq

structure ResolvedClientAddress where
  address : Option String
  reason : Option UnresolvedReason := none
  trusted : Bool
  deriving DecidableEq

def unresolved (reason : UnresolvedReason) : ResolvedClientAddress :=
  { address := none, reason := some reason, trusted := false }

def resolveClientAddress (policy : TrustedProxyPolicy) (headers : String → Option String)
    (directAddress : Option String) : ResolvedClientAddress :=
  match policy.mode with
  | .none =>
      match directAddress.filter isValidIpAddress with
      | some direct => { address := some direct, trusted := true }
      | none => unresolved .no_forwarding_configured
  | .platformHeader =>
      match policy.headerName.filter fun name => !name.toList.isEmpty with
      | none => unresolved .missing_header
      | some headerName =>
          match (headers headerName).filter fun raw => !raw.toList.isEmpty with
          | none => unresolved .missing_header
          | some raw =>
              match normalizeForwardedEntry raw with
              | none => unresolved .malformed_chain
              | some normalized =>
                  if raw.toList.contains ',' then unresolved .malformed_chain
                  else { address := some normalized, trusted := true }
  | .trustedHop =>
      let hopCount := policy.hopCount.getD 1
      match parseForwardedChain (headers "x-forwarded-for") with
      | none => unresolved .malformed_chain
      | some chain =>
          let index : Int := (chain.length : Int) - hopCount - 1
          if index < 0 then unresolved .insufficient_hops
          else { address := chain[index.toNat]?, trusted := true }

/-! ## §4 What an address is written with -/

/-- A character of an address separates nothing. -/
theorem addressCharacter_spec {c : Char} (h : isAddressCharacter c = true) :
    isBlank c = false ∧ c ≠ ',' ∧ c ≠ '\r' ∧ c ≠ '\n' ∧ c ≠ '[' ∧ c.toNat < 0x10000 := by
  have hsmall : c.toNat < 128 := by
    unfold isAddressCharacter isHexDigit Char.isDigit at h
    simp only [Bool.or_eq_true, Bool.and_eq_true, decide_eq_true_eq, beq_iff_eq, ge_iff_le] at h
    rcases h with (((⟨-, hle⟩ | ⟨-, hle⟩) | ⟨-, hle⟩) | rfl) | rfl
    · exact Nat.lt_of_le_of_lt (UInt32.le_iff_toNat_le.mp hle) (by decide)
    · exact Nat.lt_of_le_of_lt (UInt32.le_iff_toNat_le.mp hle) (by decide)
    · exact Nat.lt_of_le_of_lt (UInt32.le_iff_toNat_le.mp hle) (by decide)
    · decide
    · decide
  have hall : ∀ n < 128, isAddressCharacter (Char.ofNat n) = true →
      isBlank (Char.ofNat n) = false ∧ Char.ofNat n ≠ ',' ∧ Char.ofNat n ≠ '\r' ∧
        Char.ofNat n ≠ '\n' ∧ Char.ofNat n ≠ '[' ∧ (Char.ofNat n).toNat < 0x10000 := by
    decide
  have hc := hall c.toNat hsmall
  rw [Char.ofNat_toNat] at hc
  exact hc h

/-- A text without its first character has the same fields, or its first field is one shorter. -/
theorem splitOn_cons (c sep : Char) (l : List Char) :
    ∃ field fields, l.splitOn sep = field :: fields ∧
      (c :: l).splitOn sep =
        if c = sep then [] :: field :: fields else (c :: field) :: fields := by
  obtain ⟨field, fields, hfields⟩ := List.exists_cons_of_ne_nil (List.splitOn_ne_nil sep l)
  refine ⟨field, fields, hfields, ?_⟩
  rw [List.splitOn_cons_eq_if_modifyHead, hfields]
  by_cases hc : c = sep
  · simp [hc]
  · simp [hc]

/-- A character of a text is the separator or stands in a field. -/
theorem mem_splitOn_or {l : List Char} {sep c : Char} (h : c ∈ l) :
    c = sep ∨ ∃ field ∈ l.splitOn sep, c ∈ field := by
  induction l with
  | nil => cases h
  | cons d l ih =>
      obtain ⟨field, fields, hfields, hcons⟩ := splitOn_cons d sep l
      rw [hfields] at ih
      rw [hcons]
      by_cases hd : d = sep
      · rcases List.mem_cons.mp h with rfl | h
        · exact .inl hd
        · rcases ih h with hc | ⟨g, hg, hc⟩
          · exact .inl hc
          · exact .inr ⟨g, by simp [hd, List.mem_cons.mp hg], hc⟩
      · rw [if_neg hd]
        rcases List.mem_cons.mp h with rfl | h
        · exact .inr ⟨c :: field, by simp, by simp⟩
        · rcases ih h with hc | ⟨g, hg, hc⟩
          · exact .inl hc
          · rcases List.mem_cons.mp hg with rfl | hg
            · exact .inr ⟨d :: g, by simp, by simp [hc]⟩
            · exact .inr ⟨g, by simp [hg], hc⟩

/-- The length of a text is that of its fields with one separator less. -/
theorem length_splitOn (l : List Char) (sep : Char) :
    l.length + 1 = ((l.splitOn sep).map List.length).sum + (l.splitOn sep).length := by
  induction l with
  | nil => simp
  | cons c l ih =>
      obtain ⟨field, fields, hfields, hcons⟩ := splitOn_cons c sep l
      rw [hfields] at ih
      rw [hcons]
      simp only [List.length_cons, List.map_cons, List.sum_cons] at ih ⊢
      by_cases hc : c = sep
      · rw [if_pos hc]
        simp only [List.length_cons, List.map_cons, List.sum_cons, List.length_nil]
        omega
      · rw [if_neg hc]
        simp only [List.length_cons, List.map_cons, List.sum_cons]
        omega

theorem sum_length_le {fields : List (List Char)} {n : Nat}
    (h : ∀ field ∈ fields, field.length ≤ n) :
    (fields.map List.length).sum ≤ fields.length * n := by
  induction fields with
  | nil => simp
  | cons field fields ih =>
      have hfield : field.length ≤ n := h field List.mem_cons_self
      have hfields := ih fun f hf => h f (List.mem_cons_of_mem _ hf)
      simp only [List.map_cons, List.sum_cons, List.length_cons, Nat.add_mul]
      omega

theorem isDottedQuad_spec {l : List Char} (h : isDottedQuad l = true) :
    l.length ≤ 15 ∧ ∀ c ∈ l, c.isDigit = true ∨ c = '.' := by
  unfold isDottedQuad at h
  simp only [Bool.and_eq_true, beq_iff_eq, List.all_eq_true] at h
  obtain ⟨hfields, hdigits⟩ := h
  constructor
  · have hlength := length_splitOn l '.'
    have hsum := sum_length_le fun field hfield => (isDigits_iff.mp (hdigits field hfield)).2.1
    omega
  · intro c hc
    rcases @mem_splitOn_or l '.' c hc with rfl | ⟨field, hfield, hc⟩
    · exact .inr rfl
    · exact .inl ((isDigits_iff.mp (hdigits field hfield)).2.2 c hc)

/-- An address is written with the characters of addresses, and is short. -/
theorem isValidIpAddress_spec {value : String} (h : isValidIpAddress value = true) :
    value.toList ≠ [] ∧ (∀ c ∈ value.toList, isAddressCharacter c = true) ∧
      utf16Length value ≤ 64 := by
  unfold isValidIpAddress at h
  rcases Bool.or_eq_true_iff.mp h with h | h
  · unfold isValidIpv4 at h
    obtain ⟨hquad, -⟩ := Bool.and_eq_true_iff.mp h
    obtain ⟨hlength, hchars⟩ := isDottedQuad_spec hquad
    have haddress : ∀ c ∈ value.toList, isAddressCharacter c = true := by
      intro c hc
      unfold isAddressCharacter isHexDigit
      rcases hchars c hc with hdigit | rfl
      · simp [hdigit]
      · rfl
    refine ⟨?_, haddress, ?_⟩
    · intro hnil
      rw [hnil] at hquad
      exact absurd hquad (by decide)
    · rw [utf16Length_of_small fun c hc => (addressCharacter_spec (haddress c hc)).2.2.2.2.2]
      omega
  · unfold isValidIpv6 at h
    simp only [Bool.and_eq_true, Bool.not_eq_true', decide_eq_false_iff_not, List.all_eq_true,
      List.isEmpty_eq_false_iff] at h
    obtain ⟨⟨⟨⟨⟨⟨⟨hlength, hne⟩, hchars⟩, -⟩, -⟩, -⟩, -⟩, -⟩ := h
    exact ⟨hne, hchars, by omega⟩

/-- An address stands for itself between blanks. -/
theorem trim_of_address {value : String} (h : ∀ c ∈ value.toList, isAddressCharacter c = true) :
    trim value = value :=
  trim_of_not_blank fun c hc => (addressCharacter_spec (h c hc)).1

/-- Every address is accepted as an entry. -/
theorem normalizeForwardedEntry_of_address {value : String} (h : isValidIpAddress value = true) :
    ∃ normalized, normalizeForwardedEntry value = some normalized := by
  obtain ⟨hne, hchars, hlength⟩ := isValidIpAddress_spec h
  unfold normalizeForwardedEntry
  rw [trim_of_address hchars]
  have hbracketed : bracketed value.toList = none := by
    cases hl : value.toList with
    | nil => exact absurd hl hne
    | cons c l =>
        have hc := (addressCharacter_spec (hchars c (by simp [hl]))).2.2.2.2.1
        unfold bracketed
        split
        · next heq => exact absurd (List.cons.inj heq).1 hc
        · rfl
  have hempty : (value.toList.isEmpty || decide (64 < utf16Length value)) = false := by
    simp [List.isEmpty_eq_false_iff.mpr hne, hlength]
  simp only [hempty, Bool.false_eq_true, if_false, hbracketed]
  by_cases hv6 : isValidIpv6 value = true
  · exact ⟨_, if_pos hv6⟩
  · have hv4 : isValidIpv4 value = true := by
      rcases Bool.or_eq_true_iff.mp h with h | h
      · exact h
      · exact absurd h hv6
    have hquad : isDottedQuad value.toList = true := (Bool.and_eq_true_iff.mp hv4).1
    have hport : withPort value.toList = none := by
      have hcolon : ':' ∉ value.toList := by
        intro hmem
        rcases (isDottedQuad_spec hquad).2 _ hmem with hdigit | hdot
        · exact absurd hdigit (by decide)
        · exact absurd hdot (by decide)
      unfold withPort
      rw [List.splitOn_eq_singleton hcolon]
    exact ⟨value, by simp [hv6, hport, hv4]⟩

/-! ## §5 Chains of entries -/

theorem normalizeForwardedEntry_congr {a b : String} (h : trim a = trim b) :
    normalizeForwardedEntry a = normalizeForwardedEntry b := by
  unfold normalizeForwardedEntry
  rw [h]

theorem normalizeEntries_eq_some {entries : List (List Char)} {chain : List String} :
    normalizeEntries entries = some chain ↔
      entries.map (fun entry => normalizeForwardedEntry (String.ofList entry)) =
        chain.map some := by
  induction entries generalizing chain with
  | nil =>
      unfold normalizeEntries
      cases chain with
      | nil => simp
      | cons a chain => simp
  | cons entry entries ih =>
      unfold normalizeEntries
      cases chain with
      | nil =>
          simp only [Option.bind_eq_bind, Option.bind_eq_some_iff, Option.some.injEq, reduceCtorEq,
            and_false, exists_false, List.map_cons, List.map_nil]
      | cons a chain =>
          simp only [Option.bind_eq_bind, Option.bind_eq_some_iff, Option.some.injEq, List.map_cons,
            List.cons.injEq]
          constructor
          · rintro ⟨b, hb, rest, hrest, rfl, rfl⟩
            exact ⟨hb, ih.mp hrest⟩
          · rintro ⟨ha, hrest⟩
            exact ⟨a, ha, chain, ih.mpr hrest, rfl, rfl⟩

/-- A chain is refused for one entry that is no address. -/
theorem normalizeEntries_eq_none {entries : List (List Char)} :
    normalizeEntries entries = none ↔
      ∃ entry ∈ entries, normalizeForwardedEntry (String.ofList entry) = none := by
  induction entries with
  | nil => simp [normalizeEntries]
  | cons entry entries ih =>
      unfold normalizeEntries
      cases hentry : normalizeForwardedEntry (String.ofList entry) with
      | none => simp [hentry]
      | some a =>
          cases hrest : normalizeEntries entries with
          | none => simpa [hentry] using ih.mp hrest
          | some chain =>
              have hall := mt ih.mpr (by simp [hrest])
              simpa [hentry] using hall

theorem entriesOf_ne_nil (header : String) : entriesOf header ≠ [] :=
  List.splitOn_ne_nil _ _

/-- What stands after the last comma. -/
def lastEntry (header : String) : String :=
  String.ofList ((entriesOf header).getLast (entriesOf_ne_nil header))

theorem parseForwardedChain_some {header : String} (hne : header.toList ≠ []) :
    parseForwardedChain (some header) =
      if MAX_FORWARDED_HEADER_LENGTH < utf16Length header ∨ hasLineBreak header = true ∨
          MAX_FORWARDED_HOPS < (entriesOf header).length then none
      else normalizeEntries (entriesOf header) := by
  have hfields : (entriesOf header).length ≠ 0 :=
    fun h => entriesOf_ne_nil header (List.length_eq_zero_iff.mp h)
  unfold parseForwardedChain
  simp only [List.isEmpty_eq_false_iff.mpr hne, Bool.false_eq_true, if_false]
  by_cases hlength : MAX_FORWARDED_HEADER_LENGTH < utf16Length header
  · simp [hlength]
  · by_cases hbreak : hasLineBreak header = true
    · simp [hbreak]
    · simp [hlength, hbreak, hfields]

/-! ## §6 Requests through proxies -/

/-- The text of a peer's address. -/
abbrev PeerAddress := { text : String // isValidIpAddress text = true }

/-- Trusted proxies in a row, the one that the client connects to first. -/
structure ProxyChain where
  client : PeerAddress
  proxies : List PeerAddress
  nonempty : proxies ≠ []

/-- Each proxy appends the address of its direct peer. -/
def forward : String → List PeerAddress → String
  | header, [] => header
  | header, peer :: peers => forward (header ++ ", " ++ peer.val) peers

namespace ProxyChain

/-- The direct peers of the proxies: the client, and every proxy but the last. -/
def peers (chain : ProxyChain) : List PeerAddress :=
  chain.client :: chain.proxies.dropLast

/-- What the service receives, after what the client itself sent. -/
def forwardedFor (chain : ProxyChain) : Option String → String
  | none => forward chain.client.val chain.proxies.dropLast
  | some sent => forward sent chain.peers

def headers (chain : ProxyChain) (sent : Option String) (others : String → Option String)
    (name : String) : Option String :=
  if name = "x-forwarded-for" then some (chain.forwardedFor sent) else others name

/-- The policy that the deployment declares for the chain. -/
def policy (chain : ProxyChain) : TrustedProxyPolicy :=
  { mode := .trustedHop, hopCount := some chain.proxies.length }

theorem length_peers (chain : ProxyChain) : chain.peers.length = chain.proxies.length := by
  have hpositive : 0 < chain.proxies.length := List.length_pos_iff.mpr chain.nonempty
  unfold peers
  rw [List.length_cons, List.length_dropLast]
  omega

end ProxyChain

theorem blank_cons_address (peer : PeerAddress) :
    normalizeForwardedEntry (String.ofList (' ' :: peer.val.toList)) =
      normalizeForwardedEntry peer.val := by
  refine normalizeForwardedEntry_congr ?_
  unfold trim
  rw [String.toList_ofList, List.dropWhile_cons_of_pos (by decide)]

theorem comma_not_mem_address (peer : PeerAddress) : ',' ∉ peer.val.toList := fun h =>
  (addressCharacter_spec ((isValidIpAddress_spec peer.property).2.1 _ h)).2.1 rfl

theorem hasLineBreak_append (a b : String) :
    hasLineBreak (a ++ b) = (hasLineBreak a || hasLineBreak b) := by
  unfold hasLineBreak
  rw [String.toList_append, List.any_append]

theorem hasLineBreak_address (peer : PeerAddress) : hasLineBreak peer.val = false := by
  unfold hasLineBreak
  rw [List.any_eq_false]
  intro c hc
  have hspec := addressCharacter_spec ((isValidIpAddress_spec peer.property).2.1 _ hc)
  simp [hspec.2.2.1, hspec.2.2.2.1]

/-- What the proxies append are the addresses of their peers, in order. -/
theorem entriesOf_forward (header : String) (peers : List PeerAddress) :
    entriesOf (forward header peers) =
      entriesOf header ++ peers.map fun peer => ' ' :: peer.val.toList := by
  induction peers generalizing header with
  | nil => simp [forward]
  | cons peer peers ih =>
      have hcomma : ',' ∉ ' ' :: peer.val.toList := by
        simp [comma_not_mem_address peer]
      have hheader : entriesOf (header ++ ", " ++ peer.val) =
          entriesOf header ++ [' ' :: peer.val.toList] := by
        unfold entriesOf
        rw [String.append_assoc, String.toList_append, String.toList_append,
          show ", ".toList ++ peer.val.toList = ',' :: ' ' :: peer.val.toList from rfl,
          List.splitOn_append_cons_self, List.splitOn_eq_singleton hcomma]
      rw [forward, ih, hheader, List.append_assoc]
      rfl

theorem hasLineBreak_forward (header : String) (peers : List PeerAddress) :
    hasLineBreak (forward header peers) = hasLineBreak header := by
  induction peers generalizing header with
  | nil => rfl
  | cons peer peers ih =>
      rw [forward, ih, hasLineBreak_append, hasLineBreak_append, hasLineBreak_address,
        Bool.or_false, show hasLineBreak ", " = false from by decide, Bool.or_false]

theorem forward_ne_nil {header : String} {peers : List PeerAddress}
    (h : header.toList ≠ [] ∨ peers ≠ []) : (forward header peers).toList ≠ [] := by
  induction peers generalizing header with
  | nil =>
      rcases h with h | h
      · exact h
      · exact absurd rfl h
  | cons peer peers ih =>
      rw [forward]
      refine ih (.inl ?_)
      simp [String.toList_append]

/-! ## §7 Whose address is resolved -/

namespace ProxyChain

variable (chain : ProxyChain) (others : String → Option String) (directAddress : Option String)

/-- The address that a request of the client is attributed to. -/
def resolved (sent : Option String) : Option String :=
  (resolveClientAddress chain.policy (chain.headers sent others) directAddress).address

/-- The address is the client's own or unknown, and known where the client sent no header. -/
def Unspoofed (sent : Option String) : Prop :=
  (chain.resolved others directAddress sent = none ∨
    chain.resolved others directAddress sent = normalizeForwardedEntry chain.client.val) ∧
  (sent = none →
    chain.resolved others directAddress sent = normalizeForwardedEntry chain.client.val)

/-- What the client sent makes the header too long, or is not a list of addresses. -/
def Refuses (sent : String) : Prop :=
  MAX_FORWARDED_HEADER_LENGTH < utf16Length (forward sent chain.peers) ∨ hasLineBreak sent = true ∨
    MAX_FORWARDED_HOPS < (entriesOf sent).length + chain.proxies.length ∨
    ∃ entry ∈ entriesOf sent, normalizeForwardedEntry (String.ofList entry) = none

theorem resolved_eq (sent : Option String) :
    chain.resolved others directAddress sent =
      (parseForwardedChain (some (chain.forwardedFor sent))).bind fun entries =>
        if entries.length ≤ chain.proxies.length then none
        else entries[entries.length - chain.proxies.length - 1]? := by
  unfold resolved resolveClientAddress
  simp only [policy, headers, if_true, Option.getD_some]
  cases parseForwardedChain (some (chain.forwardedFor sent)) with
  | none => rfl
  | some entries =>
      by_cases hshort : entries.length ≤ chain.proxies.length
      · have hindex : (entries.length : Int) - chain.proxies.length - 1 < 0 := by omega
        simp only [hindex, if_true, Option.bind_some, hshort]
        rfl
      · have hindex : ¬ (entries.length : Int) - chain.proxies.length - 1 < 0 := by omega
        have htoNat : ((entries.length : Int) - chain.proxies.length - 1).toNat =
            entries.length - chain.proxies.length - 1 := by omega
        simp only [hindex, if_false, Option.bind_some, hshort, htoNat]

/-- Without a header of the client, no entry stands where the client is looked for. -/
theorem resolved_none : chain.resolved others directAddress none = none := by
  have hclient : ',' ∉ chain.client.val.toList := comma_not_mem_address chain.client
  have hentries : (entriesOf (chain.forwardedFor none)).length = chain.proxies.length := by
    have hpositive : 0 < chain.proxies.length := List.length_pos_iff.mpr chain.nonempty
    rw [forwardedFor, entriesOf_forward, entriesOf, List.splitOn_eq_singleton hclient]
    simp only [List.length_append, List.length_map, List.length_dropLast, List.length_cons,
      List.length_nil]
    omega
  have hne : (chain.forwardedFor none).toList ≠ [] :=
    forward_ne_nil (.inl (isValidIpAddress_spec chain.client.property).1)
  rw [resolved_eq, parseForwardedChain_some hne]
  split
  · rfl
  · cases hparsed : normalizeEntries (entriesOf (chain.forwardedFor none)) with
    | none => rfl
    | some entries =>
        have hlength := congrArg List.length (normalizeEntries_eq_some.mp hparsed)
        rw [List.length_map, List.length_map, hentries] at hlength
        simp [hlength]

/-- Behind a header of the client, its last entry is taken for the client's address. -/
theorem resolved_some (sent : String) :
    (chain.Refuses sent ∧ chain.resolved others directAddress (some sent) = none) ∨
    (¬ chain.Refuses sent ∧ ∃ address,
      normalizeForwardedEntry (lastEntry sent) = some address ∧
        chain.resolved others directAddress (some sent) = some address) := by
  have hne : (chain.forwardedFor (some sent)).toList ≠ [] :=
    forward_ne_nil (.inr (List.cons_ne_nil _ _))
  have hentries := entriesOf_forward sent chain.peers
  have hbreak := hasLineBreak_forward sent chain.peers
  rw [resolved_eq, parseForwardedChain_some hne]
  simp only [forwardedFor, hbreak]
  by_cases hoversized : MAX_FORWARDED_HEADER_LENGTH < utf16Length (forward sent chain.peers) ∨
      hasLineBreak sent = true ∨
      MAX_FORWARDED_HOPS < (entriesOf (forward sent chain.peers)).length
  · refine .inl ⟨?_, by rw [if_pos hoversized]; rfl⟩
    rw [hentries, List.length_append, List.length_map, length_peers] at hoversized
    unfold Refuses
    rcases hoversized with h | h | h
    · exact .inl h
    · exact .inr (.inl h)
    · exact .inr (.inr (.inl h))
  · rw [if_neg hoversized]
    cases hparsed : normalizeEntries (entriesOf (forward sent chain.peers)) with
    | none =>
        refine .inl ⟨.inr (.inr (.inr ?_)), rfl⟩
        obtain ⟨entry, hentry, hnone⟩ := normalizeEntries_eq_none.mp hparsed
        rw [hentries] at hentry
        rcases List.mem_append.mp hentry with hentry | hentry
        · exact ⟨entry, hentry, hnone⟩
        · obtain ⟨peer, -, rfl⟩ := List.mem_map.mp hentry
          obtain ⟨a, ha⟩ := normalizeForwardedEntry_of_address peer.property
          rw [blank_cons_address, ha] at hnone
          cases hnone
    | some entries =>
        refine .inr ⟨?_, ?_⟩
        · rintro (h | h | h | ⟨entry, hentry, hnone⟩)
          · exact hoversized (.inl h)
          · exact hoversized (.inr (.inl h))
          · refine hoversized (.inr (.inr ?_))
            rw [hentries, List.length_append, List.length_map, length_peers]
            exact h
          · have hnormal := normalizeEntries_eq_none.mpr
              ⟨entry, hentries ▸ List.mem_append_left _ hentry, hnone⟩
            rw [hparsed] at hnormal
            cases hnormal
        · have hmap := normalizeEntries_eq_some.mp hparsed
          have hpositive : 0 < (entriesOf sent).length :=
            List.length_pos_iff.mpr (entriesOf_ne_nil sent)
          have hlength : entries.length = (entriesOf sent).length + chain.proxies.length := by
            have h := congrArg List.length hmap
            rw [List.length_map, List.length_map, hentries, List.length_append, List.length_map,
              length_peers] at h
            exact h.symm
          have hindex : entries.length - chain.proxies.length - 1 =
              (entriesOf sent).length - 1 := by omega
          have hlast := congrArg (fun l => l[(entriesOf sent).length - 1]?) hmap
          simp only [hentries, List.map_append, List.getElem?_map] at hlast
          rw [List.getElem?_append_left (by simp; omega), List.getElem?_map,
            ← List.getLast?_eq_getElem?, List.getLast?_eq_some_getLast
              (entriesOf_ne_nil sent)] at hlast
          obtain ⟨address, haddress, hnormal⟩ := Option.map_eq_some_iff.mp hlast.symm
          refine ⟨address, hnormal.symm, ?_⟩
          rw [Option.bind_some, if_neg (by omega), hindex]
          exact haddress

end ProxyChain

/-- The resolved address is the client's own or unknown only where the client sent a header that is
refused, or that ends in the address the client has anyway. -/
theorem resolveClientAddress_unspoofed (chain : ProxyChain) (others : String → Option String)
    (directAddress sent : Option String) :
    chain.Unspoofed others directAddress sent ↔
      ∃ text, sent = some text ∧
        (chain.Refuses text ∨ normalizeForwardedEntry (lastEntry text) =
          normalizeForwardedEntry chain.client.val) := by
  obtain ⟨own, hown⟩ := normalizeForwardedEntry_of_address chain.client.property
  unfold ProxyChain.Unspoofed
  cases sent with
  | none =>
      rw [chain.resolved_none others directAddress, hown]
      simp
  | some text =>
      rcases chain.resolved_some others directAddress text with
        ⟨hrefuses, hresolved⟩ | ⟨haccepts, address, hlast, hresolved⟩
      · exact ⟨fun _ => ⟨text, rfl, .inl hrefuses⟩, fun _ => ⟨.inl hresolved, nofun⟩⟩
      · rw [hresolved, hown]
        constructor
        · rintro ⟨hnone | haddress, -⟩
          · cases hnone
          · exact ⟨text, rfl, .inr (hlast.trans haddress)⟩
        · rintro ⟨_, ⟨⟩, hrefuses | heq⟩
          · exact absurd hrefuses haccepts
          · exact ⟨.inr (hlast.symm.trans heq), nofun⟩

/-- A client behind one proxy. -/
def behindOneProxy : ProxyChain where
  client := ⟨"203.0.113.9", by decide⟩
  proxies := [⟨"198.51.100.4", by decide⟩]
  nonempty := List.cons_ne_nil _ _

/-- The proxy sends `198.51.100.7, 203.0.113.9`, and the address that the client made up is used. -/
theorem resolveClientAddress_spoofed :
    behindOneProxy.resolved (fun _ => none) none (some "198.51.100.7") = some "198.51.100.7" ∧
      ¬ behindOneProxy.Unspoofed (fun _ => none) none (some "198.51.100.7") := by
  have hresolved : behindOneProxy.resolved (fun _ => none) none (some "198.51.100.7") =
      some "198.51.100.7" := by decide +kernel
  have hown : normalizeForwardedEntry behindOneProxy.client.val = some "203.0.113.9" := by
    decide +kernel
  refine ⟨hresolved, ?_⟩
  unfold ProxyChain.Unspoofed
  rw [hresolved, hown]
  decide

end SeatFlow
