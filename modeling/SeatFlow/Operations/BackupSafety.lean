import SeatFlow.Operations.DeploymentProfile
import SeatFlow.Numbers.Decimal
import SeatFlow.Text.Fields

/-!
# Restore targets

`features/operations/backup-safety`. A restore drops a schema, so its target must be named as
disposable and must not be a protected database. The guard compares host and name as texts;
PostgreSQL reads a host name in any case, and a missing port as 5432.
-/

namespace SeatFlow

open Relational Text

/-! ## §1 URLs -/

/-- What is read of a `URL` object here; a port that is written is a number. -/
structure DatabaseUrl extends Url where
  port : Option Nat

/-- `new URL`, which throws on what it cannot parse. A host holds no slash, and a colon only
between brackets. -/
structure UrlParser where
  parse : String → Option DatabaseUrl
  parse_empty : parse "" = none
  host_plain : ∀ input url, parse input = some url → '/' ∉ url.hostname.toList
  host_bracketed : ∀ input url, parse input = some url → ':' ∈ url.hostname.toList →
    url.hostname.toList.getLast? = some ']'

namespace DatabaseUrl

/-- The `host` of a `URL`: the port is written behind the host name. -/
def host (url : DatabaseUrl) : List Char :=
  url.hostname.toList ++
    match url.port with
    | none => []
    | some port => ':' :: Nat.toDigits 10 port

/-- `decodeURIComponent(parsed.pathname.replace(/^\//, ""))`. -/
def databaseName (url : DatabaseUrl) : Option String :=
  let path := url.pathname.toList
  decodeURIComponent (String.ofList (if path.head? = some '/' then path.tail else path))

end DatabaseUrl

/-! ## §2 The guard -/

/-- `(^|[_-])(verify|verification|restore|scratch|test)($|[_-])`, without regard to case. -/
def isDisposableDatabaseName (name : String) : Bool :=
  (name.toList.splitOnP isSeparator).any fun word =>
    ["verify", "verification", "restore", "scratch", "test"].any fun disposable =>
      word.map Char.toLower == disposable.toList

def databaseNameFromUrl (urls : UrlParser) (url : String) : String :=
  ((urls.parse url).bind DatabaseUrl.databaseName).getD ""

structure RestoreTargetInput where
  targetUrl : String
  protectedUrls : List (Option String)
  confirmed : Bool

/-- The protected URLs that are set. -/
def RestoreTargetInput.protectedSet (input : RestoreTargetInput) : List String :=
  ((input.protectedUrls.filter truthy).filterMap id).eraseDups

/-- `host/name`. -/
def databaseIdentity (urls : UrlParser) (url : String) (parsed : DatabaseUrl) : String :=
  String.ofList (parsed.host ++ '/' :: (databaseNameFromUrl urls url).toList)

/-- An error is a `BackupSafetyError` with its message. -/
def assertDisposableRestoreTarget (urls : UrlParser) (input : RestoreTargetInput) :
    Except String String :=
  match urls.parse input.targetUrl with
  | none => .error "Restore target is not a valid URL."
  | some parsed => do
      ensure (parsed.protocol = "postgresql:" ∨ parsed.protocol = "postgres:")
        "Restore target must be a postgresql:// URL."
      let name := databaseNameFromUrl urls input.targetUrl
      ensure (name ≠ "") "Restore target does not name a database."
      ensure (isDisposableDatabaseName name)
        ("Refusing to restore: the target database name is not marked disposable. " ++
          "Use a database whose name contains 'verify', 'restore', 'scratch', or 'test'.")
      ensure (input.targetUrl ∉ input.protectedSet)
        "Refusing to restore: the target matches DATABASE_URL or DIRECT_URL."
      ensure (¬input.protectedSet.any fun url =>
          (urls.parse url).any fun other =>
            databaseIdentity urls url other = databaseIdentity urls input.targetUrl parsed)
        ("Refusing to restore: the target resolves to the same host and database as a " ++
          "protected URL.")
      ensure (input.confirmed = true)
        ("Refusing to restore without --confirm. This drops and recreates the target " ++
          "schema.")
      .ok name

/-! ## §3 What PostgreSQL resolves -/

/-- Two URLs of one server and database. -/
structure DatabaseUrl.SameDatabase (a b : DatabaseUrl) : Prop where
  hostname : a.hostname.toList.map Char.toLower = b.hostname.toList.map Char.toLower
  port : a.port.getD 5432 = b.port.getD 5432
  name : ∃ name, a.databaseName = some name ∧ b.databaseName = some name

/-- Two URLs that write the host in one case, and the port both or neither. -/
structure DatabaseUrl.SameSpelling (a b : DatabaseUrl) : Prop where
  hostname : a.hostname = b.hostname
  port : a.port.isSome = b.port.isSome

section Guard

variable (urls : UrlParser) (input : RestoreTargetInput)

/-- Some protected URL is of the database of the target, and related to it by `R`. -/
def TargetsProtected (R : DatabaseUrl → DatabaseUrl → Prop) : Prop :=
  ∃ url, some url ∈ input.protectedUrls ∧ ∃ target other,
    urls.parse input.targetUrl = some target ∧ urls.parse url = some other ∧
      target.SameDatabase other ∧ R target other

/-- A restore into a protected database is refused. -/
def RestoreGuarded : Prop :=
  TargetsProtected urls input (fun _ _ => True) →
    ∃ message, assertDisposableRestoreTarget urls input = .error message

/-- The target is refused for what it is. -/
def TargetRefused : Prop :=
  (∀ target, urls.parse input.targetUrl = some target →
      target.protocol ≠ "postgresql:" ∧ target.protocol ≠ "postgres:") ∨
    isDisposableDatabaseName (databaseNameFromUrl urls input.targetUrl) = false ∨
    input.confirmed = false

end Guard

section Proofs

variable {urls : UrlParser} {input : RestoreTargetInput}

theorem mem_protectedSet {url : String} :
    url ∈ input.protectedSet ↔ some url ∈ input.protectedUrls ∧ url ≠ "" := by
  unfold RestoreTargetInput.protectedSet
  simp [truthy]

/-- What the guard lets through. -/
theorem assertDisposableRestoreTarget_eq_ok {name : String} :
    assertDisposableRestoreTarget urls input = .ok name ↔
      ∃ target, urls.parse input.targetUrl = some target ∧
        (target.protocol = "postgresql:" ∨ target.protocol = "postgres:") ∧
        databaseNameFromUrl urls input.targetUrl ≠ "" ∧
        isDisposableDatabaseName (databaseNameFromUrl urls input.targetUrl) = true ∧
        input.targetUrl ∉ input.protectedSet ∧
        (∀ url ∈ input.protectedSet, ∀ other, urls.parse url = some other →
          databaseIdentity urls url other ≠ databaseIdentity urls input.targetUrl target) ∧
        input.confirmed = true ∧ databaseNameFromUrl urls input.targetUrl = name := by
  unfold assertDisposableRestoreTarget
  cases hparse : urls.parse input.targetUrl with
  | none => simp
  | some target =>
      simp only [Except.bind_unit_eq_ok, ensure_eq_ok, Option.some.injEq, Except.ok.injEq,
        exists_eq_left', List.any_eq_true, Option.any_eq_true, decide_eq_true_eq, not_exists,
        not_and, ne_eq]

theorem host_no_slash {url : String} {parsed : DatabaseUrl}
    (h : urls.parse url = some parsed) : '/' ∉ parsed.host := by
  unfold DatabaseUrl.host
  intro hslash
  rcases List.mem_append.mp hslash with hslash | hslash
  · exact urls.host_plain url parsed h hslash
  · cases hport : parsed.port with
    | none => simp [hport] at hslash
    | some port =>
        rw [hport] at hslash
        rcases List.mem_cons.mp hslash with hcolon | hdigit
        · exact absurd hcolon (by decide)
        · exact absurd (Nat.isDigit_of_mem_toDigits (by decide) (by decide) hdigit) (by decide)

/-- A host without a port ends in no port. -/
theorem hostname_ne_append {url : String} {parsed : DatabaseUrl} (h : urls.parse url = some parsed)
    (before : List Char) (port : Nat) :
    parsed.hostname.toList ≠ before ++ ':' :: Nat.toDigits 10 port := by
  intro heq
  have hbracket := urls.host_bracketed url parsed h (heq ▸ by simp)
  rw [heq, List.getLast?_append_of_ne_nil _ (List.cons_ne_nil _ _),
    List.getLast?_cons_of_ne_nil Nat.toDigits_ne_nil] at hbracket
  have hdigit : ']' ∈ Nat.toDigits 10 port := List.mem_of_getLast? hbracket
  exact absurd (Nat.isDigit_of_mem_toDigits (by decide) (by decide) hdigit) (by decide)

/-- **A host text** has one host name and one port. -/
theorem host_injective {url url' : String} {a b : DatabaseUrl} (ha : urls.parse url = some a)
    (hb : urls.parse url' = some b) (h : a.host = b.host) :
    a.hostname = b.hostname ∧ a.port = b.port := by
  unfold DatabaseUrl.host at h
  have hcolon : ∀ port : Nat, ':' ∉ Nat.toDigits 10 port := fun port hmem =>
    absurd (Nat.isDigit_of_mem_toDigits (by decide) (by decide) hmem) (by decide)
  cases haport : a.port with
  | none =>
      cases hbport : b.port with
      | none =>
          rw [haport, hbport, List.append_nil, List.append_nil] at h
          exact ⟨String.toList_inj.mp h, rfl⟩
      | some port =>
          rw [haport, hbport, List.append_nil] at h
          exact absurd h (hostname_ne_append ha _ port)
  | some port =>
      cases hbport : b.port with
      | none =>
          rw [haport, hbport, List.append_nil] at h
          exact absurd h.symm (hostname_ne_append hb _ port)
      | some port' =>
          rw [haport, hbport] at h
          obtain ⟨hname, hdigits⟩ := append_inj_of_not_mem' (hcolon port) (hcolon port') h
          have hport := congrArg Decimal.value hdigits
          rw [Decimal.value_toDigits, Decimal.value_toDigits] at hport
          exact ⟨String.toList_inj.mp hname, by rw [hport]⟩

theorem databaseIdentity_injective {url url' : String} {a b : DatabaseUrl}
    (ha : urls.parse url = some a) (hb : urls.parse url' = some b) :
    databaseIdentity urls url a = databaseIdentity urls url' b ↔
      (a.hostname = b.hostname ∧ a.port = b.port) ∧
        databaseNameFromUrl urls url = databaseNameFromUrl urls url' := by
  unfold databaseIdentity
  rw [String.ofList_inj]
  constructor
  · intro h
    obtain ⟨hhost, hname⟩ := append_inj_of_not_mem (host_no_slash ha) (host_no_slash hb) h
    exact ⟨host_injective ha hb hhost, String.toList_inj.mp hname⟩
  · rintro ⟨⟨hhostname, hport⟩, hname⟩
    rw [DatabaseUrl.host, DatabaseUrl.host, hhostname, hport, hname]

theorem databaseNameFromUrl_eq {url : String} {parsed : DatabaseUrl} {name : String}
    (h : urls.parse url = some parsed) (hname : name ≠ "") :
    databaseNameFromUrl urls url = name ↔ parsed.databaseName = some name := by
  unfold databaseNameFromUrl
  rw [h, Option.bind_some]
  cases parsed.databaseName with
  | none => simp [eq_comm, hname]
  | some own => simp

/-- A URL of the target's identity is a URL of its database, in its spelling. -/
theorem sameDatabase_of_identity {url : String} {target other : DatabaseUrl}
    (htarget : urls.parse input.targetUrl = some target) (hother : urls.parse url = some other)
    (hname : databaseNameFromUrl urls input.targetUrl ≠ "")
    (h : databaseIdentity urls url other = databaseIdentity urls input.targetUrl target) :
    target.SameDatabase other ∧ target.SameSpelling other := by
  obtain ⟨⟨hhostname, hport⟩, hsame⟩ := (databaseIdentity_injective hother htarget).mp h
  have htargetName := (databaseNameFromUrl_eq htarget hname).mp rfl
  have hotherName := (databaseNameFromUrl_eq hother hname).mp hsame
  exact ⟨⟨by rw [hhostname], by rw [hport], _, htargetName, hotherName⟩,
    ⟨hhostname.symm, by rw [hport]⟩⟩

/-- A port that is written where the other is, and resolves as the other does, is the other. -/
theorem identity_of_sameSpelling {url : String} {target other : DatabaseUrl}
    (htarget : urls.parse input.targetUrl = some target) (hother : urls.parse url = some other)
    (hsame : target.SameDatabase other) (hspelling : target.SameSpelling other) :
    databaseIdentity urls url other = databaseIdentity urls input.targetUrl target := by
  refine (databaseIdentity_injective hother htarget).mpr ⟨⟨hspelling.hostname.symm, ?_⟩, ?_⟩
  · have hresolved := hsame.port
    have hwritten := hspelling.port
    cases htport : target.port with
    | none =>
        rw [htport] at hwritten
        refine Option.not_isSome_iff_eq_none.mp fun hsome => ?_
        rw [hsome] at hwritten
        cases hwritten
    | some port =>
        rw [htport] at hwritten hresolved
        obtain ⟨port', hport'⟩ := Option.isSome_iff_exists.mp hwritten.symm
        rw [hport'] at hresolved ⊢
        exact congrArg some (hresolved : port = port').symm
  · obtain ⟨name, htargetName, hotherName⟩ := hsame.name
    unfold databaseNameFromUrl
    rw [htarget, hother, Option.bind_some, Option.bind_some, htargetName, hotherName]

/-- **The guard's reach**: a restore into a protected database is refused exactly where the target
is refused for what it is, or a protected URL of its database is spelled as it is. -/
theorem assertDisposableRestoreTarget_protects (urls : UrlParser) (input : RestoreTargetInput) :
    RestoreGuarded urls input ↔
      (TargetsProtected urls input (fun _ _ => True) →
        TargetRefused urls input ∨ TargetsProtected urls input DatabaseUrl.SameSpelling) := by
  refine forall_congr' fun hprotects => ?_
  obtain ⟨url, hmem, target, other, htarget, hother, hsame, -⟩ := hprotects
  constructor
  · rintro ⟨message, herror⟩
    by_contra hnot
    unfold TargetRefused at hnot
    simp only [not_or, Bool.not_eq_false] at hnot
    obtain ⟨⟨hprotocol, hdisposable, hconfirmed⟩, hspelled⟩ := hnot
    have hname : databaseNameFromUrl urls input.targetUrl ≠ "" := by
      intro hempty
      rw [hempty] at hdisposable
      exact absurd hdisposable (by decide +kernel)
    have hok : assertDisposableRestoreTarget urls input =
        .ok (databaseNameFromUrl urls input.targetUrl) := by
      refine assertDisposableRestoreTarget_eq_ok.mpr
        ⟨target, htarget, ?_, hname, hdisposable, ?_, ?_, by simpa using hconfirmed, rfl⟩
      · by_contra hscheme
        refine hprotocol fun t ht => ?_
        cases htarget.symm.trans ht
        exact not_or.mp hscheme
      · intro hprotected
        exact hspelled ⟨_, (mem_protectedSet.mp hprotected).1, target, target, htarget, htarget,
          sameDatabase_of_identity htarget htarget hname rfl⟩
      · intro url' hurl' other' hother' hidentity
        exact hspelled ⟨url', (mem_protectedSet.mp hurl').1, target, other', htarget, hother',
          sameDatabase_of_identity htarget hother' hname hidentity⟩
    rw [herror] at hok
    cases hok
  · intro hcases
    cases hresult : assertDisposableRestoreTarget urls input with
    | error message => exact ⟨message, rfl⟩
    | ok name =>
        exfalso
        obtain ⟨target', htarget', hprotocol, hname, hdisposable, -, hidentities, hconfirmed, -⟩ :=
          assertDisposableRestoreTarget_eq_ok.mp hresult
        rcases hcases with (hscheme | hmarked | hunconfirmed) |
          ⟨url', hmem', target'', other', htarget'', hother', hsame', hspelling⟩
        · obtain ⟨hpostgresql, hpostgres⟩ := hscheme target' htarget'
          exact hprotocol.elim hpostgresql hpostgres
        · rw [hdisposable] at hmarked
          cases hmarked
        · rw [hconfirmed] at hunconfirmed
          cases hunconfirmed
        · cases htarget'.symm.trans htarget''
          have hne : url' ≠ "" := by
            rintro rfl
            rw [urls.parse_empty] at hother'
            cases hother'
          exact hidentities url' (mem_protectedSet.mpr ⟨hmem', hne⟩) other' hother'
            (identity_of_sameSpelling htarget' hother' hsame' hspelling)

end Proofs

/-! ## §4 A target spelled otherwise -/

def isPlainCharacter (c : Char) : Bool :=
  c.isAlphanum || c == '.' || c == '-' || c == '_'

/-- The port of a plain authority, as it is written. -/
def plainPort : List (List Char) → Option (Option Nat)
  | [] => some none
  | [port] =>
      if Decimal.isDigits 5 port && Decimal.value port ≤ 65535 then some (some (Decimal.value port))
      else none
  | _ => none

/-- `postgresql://host:port/name`, of characters that `URL` leaves as they are. -/
def parsePlainUrl (input : String) : Option DatabaseUrl :=
  match input.toList.splitOn '/' with
  | [scheme, [], authority, name] =>
      match authority.splitOn ':' with
      | hostname :: port =>
          if String.ofList scheme = "postgresql:" && !hostname.isEmpty &&
              hostname.all isPlainCharacter &&
                (name.all fun c => isPlainCharacter c && c != '.') then
            (plainPort port).map fun port =>
              { protocol := String.ofList scheme, hostname := String.ofList hostname
                pathname := String.ofList ('/' :: name), port := port }
          else none
      | [] => none
  | _ => none

theorem parsePlainUrl_hostname {input : String} {url : DatabaseUrl}
    (h : parsePlainUrl input = some url) : url.hostname.toList.all isPlainCharacter = true := by
  unfold parsePlainUrl at h
  split at h
  · split at h
    · split at h
      · rename_i hplain
        obtain ⟨port, -, rfl⟩ := Option.map_eq_some_iff.mp h
        simp only [Bool.and_eq_true] at hplain
        rw [String.toList_ofList]
        exact hplain.1.2
      · cases h
    · cases h
  · cases h

def plainUrls : UrlParser where
  parse := parsePlainUrl
  parse_empty := by decide
  host_plain := fun _ _ h hslash =>
    absurd (List.all_eq_true.mp (parsePlainUrl_hostname h) '/' hslash) (by decide)
  host_bracketed := fun _ _ h hcolon =>
    absurd (List.all_eq_true.mp (parsePlainUrl_hostname h) ':' hcolon) (by decide)

/-- The target leaves the port out, the protected URL writes 5432. -/
def portLeftOut : RestoreTargetInput where
  targetUrl := "postgresql://db.internal/seatflow_test"
  protectedUrls := [some "postgresql://db.internal:5432/seatflow_test"]
  confirmed := true

/-- The restore goes ahead. -/
theorem assertDisposableRestoreTarget_portLeftOut :
    assertDisposableRestoreTarget plainUrls portLeftOut = .ok "seatflow_test" ∧
      ¬RestoreGuarded plainUrls portLeftOut := by
  have hok : assertDisposableRestoreTarget plainUrls portLeftOut = .ok "seatflow_test" := by
    decide +kernel
  refine ⟨hok, fun hguarded => ?_⟩
  let target : DatabaseUrl :=
    { protocol := "postgresql:", hostname := "db.internal", pathname := "/seatflow_test"
      port := none }
  have hprotected : TargetsProtected plainUrls portLeftOut (fun _ _ => True) := by
    refine ⟨_, List.mem_singleton.mpr rfl, target, { target with port := some 5432 }, rfl, rfl, ?_,
      trivial⟩
    exact ⟨rfl, rfl, "seatflow_test", by decide +kernel, by decide +kernel⟩
  obtain ⟨message, herror⟩ := hguarded hprotected
  rw [hok] at herror
  cases herror

end SeatFlow
