import SeatFlow.Database.Types
import SeatFlow.Events.DateTime
import SeatFlow.Events.Slugs

/-!
# Event inputs

The lifecycle of events and sessions, and the schemas that an organizer's inputs pass through.
What a schema lets through is in the form in which it is stored.
-/

namespace SeatFlow.Planning

open Text

/-! ## §1 Lifecycle -/

def canEditEvent (status : EventStatus) : Bool :=
  status == .DRAFT

def canPublishEvent (status : EventStatus) : Bool :=
  status == .DRAFT || status == .PUBLISHED

def canCancelEvent (status : EventStatus) : Bool :=
  status == .DRAFT || status == .PUBLISHED

def canArchiveEvent (status : EventStatus) : Bool :=
  status != .ARCHIVED

def canRestoreEvent (status : EventStatus) (preArchiveStatus : Option EventStatus) : Bool :=
  status == .ARCHIVED && (preArchiveStatus == some .DRAFT || preArchiveStatus == some .PUBLISHED)

def canEditSession (status : EventSessionStatus) : Bool :=
  status == .DRAFT

def canEditSessionPricing (status : EventSessionStatus) : Bool :=
  status == .DRAFT

def canPauseSessionSales (status : EventSessionStatus) : Bool :=
  status == .ON_SALE

def canCancelSession (status : EventSessionStatus) : Bool :=
  !([EventSessionStatus.CANCELLED, .COMPLETED].contains status)

/-! ## §2 Events -/

inductive EventCategory
  | CONCERT | CINEMA | THEATRE | SPORT | OTHER
  deriving DecidableEq

structure EventInput where
  title : String
  slug : Option String := none
  shortDescription : String
  description : String
  category : EventCategory
  imagePath : Option String := none
  deriving DecidableEq

def literalPattern (text : String) : RegularExpression Char :=
  (text.toList.map RegularExpression.char).foldr (· * ·) 1

/-- `[A-Za-z0-9]`. -/
def imageLetters : List Char :=
  "ABCDEFGHIJKLMNOPQRSTUVWXYZabcdefghijklmnopqrstuvwxyz0123456789".toList

/-- `^/events/[A-Za-z0-9][A-Za-z0-9_-]*\.(svg|png|webp|jpe?g)$`, and of `Event_imagePath_check`
with `jpg|jpeg`. -/
def imagePathPattern : RegularExpression Char :=
  literalPattern "/events/" * (oneOf imageLetters * ((oneOf ('_' :: '-' :: imageLetters)).star *
    (.char '.' * (literalPattern "svg" + (literalPattern "png" + (literalPattern "webp" +
      (literalPattern "jpg" + literalPattern "jpeg")))))))

def imagePathSchema (value : Option String) : Except (List SchemaIssue) (Option String) :=
  match value.filter fun value => trim value != "" with
  | none => .ok none
  | some value =>
      if imagePathPattern.rmatch (trim value).toList then .ok (some (trim value))
      else .error [{ path := "imagePath", code := "invalid_format"
                     message := some "Use a safe local /events image path." }]

def issuesOf {α : Type} : Except (List SchemaIssue) α → List SchemaIssue
  | .ok _ => []
  | .error issues => issues

/-- For the platform's `toLowerCase`. -/
def eventInputSchema (lower : String → String) (raw : EventInput) :
    Except (List SchemaIssue) EventInput :=
  let title := compactText raw.title
  let shortDescription := compactText raw.shortDescription
  let description := trim raw.description
  match lengthIssues "title" title 3 160, optionalSlug lower raw.slug,
      lengthIssues "shortDescription" shortDescription 10 280,
      lengthIssues "description" description 30 10000, imagePathSchema raw.imagePath with
  | [], .ok slug, [], [], .ok imagePath =>
      .ok { title := title, slug := slug, shortDescription := shortDescription
            description := description, category := raw.category, imagePath := imagePath }
  | titleIssues, slug, shortIssues, descriptionIssues, imagePath =>
      .error (titleIssues ++ issuesOf slug ++ shortIssues ++ descriptionIssues ++
        issuesOf imagePath)

/-! ## §3 Sessions -/

structure EventSessionInput where
  venueId : VenueId
  spaceId : SpaceId
  seatMapId : SeatMapId
  startLocal : String
  endLocal : String
  salesStartLocal : String
  salesEndLocal : String
  deriving DecidableEq

/-- `z.string().trim().regex(localDateTimePattern, …)`. -/
def localDateTimeIssues (path value : String) : List SchemaIssue :=
  if (localDateTimePattern value.toList).isSome then []
  else
    [{ path := path, code := "invalid_format", message := some "Use a valid local date and time." }]

def eventSessionInputSchema (raw : EventSessionInput) :
    Except (List SchemaIssue) EventSessionInput :=
  let input : EventSessionInput :=
    { raw with
      startLocal := trim raw.startLocal, endLocal := trim raw.endLocal
      salesStartLocal := trim raw.salesStartLocal, salesEndLocal := trim raw.salesEndLocal }
  match localDateTimeIssues "startLocal" input.startLocal ++
      localDateTimeIssues "endLocal" input.endLocal ++
      localDateTimeIssues "salesStartLocal" input.salesStartLocal ++
      localDateTimeIssues "salesEndLocal" input.salesEndLocal with
  | [] => .ok input
  | issues => .error issues

structure SessionDateRange where
  startAt : Time
  endAt : Time
  salesStartAt : Time
  salesEndAt : Time
  deriving DecidableEq

/-- A session ends after it starts, and its sales end before. -/
def sessionDateRangeIssues (value : SessionDateRange) : List SchemaIssue :=
  (if value.endAt ≤ value.startAt then
    [{ path := "endAt", code := "custom"
       message := some "Session end time must be after its start time." }] else []) ++
  (if value.salesStartAt ≥ value.salesEndAt then
    [{ path := "salesEndAt", code := "custom"
       message := some "Sales end time must be after sales start time." }] else []) ++
  if value.salesEndAt > value.startAt then
    [{ path := "salesEndAt", code := "custom"
       message := some "Sales must end no later than the session start time." }] else []

def sessionDateRangeSchema (value : SessionDateRange) :
    Except (List SchemaIssue) SessionDateRange :=
  match sessionDateRangeIssues value with
  | [] => .ok value
  | issues => .error issues

/-! ## §4 Prices -/

structure PriceTierInput where
  name : String
  code : String
  priceMinor : Money
  currency : Currency
  description : Option String := none
  deriving DecidableEq

/-- `optionalText(500)`. -/
def tierDescriptionSchema (value : Option String) : Option String × List SchemaIssue :=
  match value.filter fun value => trim value != "" with
  | none => (none, [])
  | some value => (some (trim value), lengthIssues "description" (trim value) 0 500)

def priceTierInputSchema [Casing] (raw : PriceTierInput) :
    Except (List SchemaIssue) PriceTierInput :=
  let name := compactText raw.name
  let code := toUpperCase (trim raw.code)
  let description := tierDescriptionSchema raw.description
  match lengthIssues "name" name 1 80 ++ lengthIssues "code" code 1 20 ++
      (if isSectionCode code then []
        else [{ path := "code", code := "invalid_format"
                message := some "Use letters, numbers, hyphens, or underscores." }]) ++
      rangeIssues "priceMinor" raw.priceMinor 0 2147483647 ++ description.2 with
  | [] => .ok { raw with name := name, code := code, description := description.1 }
  | issues => .error issues

end SeatFlow.Planning
