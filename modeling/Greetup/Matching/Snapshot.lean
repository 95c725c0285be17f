import Greetup.Matching.Types

/-!
From the JSON that the main API stores under `user:profile:snapshot:{userId}` to
the profile the pairing rules read. Fields that nothing in the matching service
reads (`matchIds`, `version`, `updatedAt`) are left out.
-/

namespace Greetup.Matching

variable [Host]

def recordOrEmpty (value : Json) : JsonRecord := value.record?.getD []

/-- The nonblank `id`s of the records stored under `childKey` in the items. -/
def collectNestedIds (value : Json) (childKey : String) : List String :=
  value.items.filterMap fun item => do
    let item ← item.record?
    let child ← (item.get childKey).record?
    toStringOrNull (child.get "id")

structure SessionActivityFromSnapshot where
  activityId : String
  name : String
  detailNormalized : Option String

def parseSessionActivitiesFromSnapshot (cs : JsonRecord) : List SessionActivityFromSnapshot :=
  (cs.get "activities").items.filterMap fun item => do
    let item ← item.record?
    let activity := (item.get "activity").record?.getD item
    let activityId ← toStringOrNull (activity.get "id")
    let name ← toStringOrNull (activity.get "name")
    return {
      activityId
      name
      detailNormalized := toStringOrNull (item.get "detailNormalized") <|>
        (toStringOrNull (item.get "detail")).map Host.toLowerCase }

structure SessionPrepFromSnapshot where
  moodIds : List String := []
  lookingForIds : List String := []
  connectionPreference : Option String := none
  matchIntent : String := "quick"
  sessionActivities : List SessionActivityFromSnapshot := []

def parseSessionPrepFromSnapshot (raw : JsonRecord) : SessionPrepFromSnapshot :=
  match (raw.get "currentStatus").record? with
  | none => {}
  | some cs => {
      moodIds := collectNestedIds (cs.get "moods") "mood"
      lookingForIds := collectNestedIds (cs.get "lookingFor") "lookingForOption"
      connectionPreference := toStringOrNull (cs.get "connectionPreference")
      matchIntent :=
        if toStringOrNull (cs.get "matchIntent") = some "activity" then "activity" else "quick"
      sessionActivities := parseSessionActivitiesFromSnapshot cs }

namespace Json

def ofString? (s : Option String) : Json := s.elim .null .str

def ofNumber? (q : Option ℚ) : Json := q.elim .null .num

def ofStrings (ss : List String) : Json := .arr (ss.map .str)

def ofSessionActivity (a : SessionActivityFromSnapshot) : Json :=
  .obj [("activityId", .str a.activityId), ("name", .str a.name),
    ("detailNormalized", ofString? a.detailNormalized)]

end Json

def parseSnapshot (raw : JsonRecord) (fallbackUserId : UserId) : SnapshotUserProfile :=
  let user := recordOrEmpty (raw.get "user")
  let location := recordOrEmpty (raw.get "location")
  let preferences := recordOrEmpty (raw.get "preferences")
  let behavior := recordOrEmpty (raw.get "behavior")
  let prep := parseSessionPrepFromSnapshot raw
  let countryCode := Json.ofString? (toStringOrNull (location.get "countryCode"))
  let city := Json.ofString? (toStringOrNull (location.get "city"))
  let region := Json.ofString? (toStringOrNull (location.get "region"))
  { userId := ((toStringOrNull (raw.get "userId") <|> toStringOrNull (user.get "id")).bind
      Text.of?).getD fallbackUserId
    filters := [
      ("preferredGender",
        .str ((toStringOrNull (preferences.get "preferredGender")).getD "any")),
      ("minAge", .num ((toNumberOrNull (preferences.get "minAge")).getD 18)),
      ("maxAge", .num ((toNumberOrNull (preferences.get "maxAge")).getD 99)),
      ("distancePreference",
        .str ((toStringOrNull (preferences.get "distancePreference")).getD "random")),
      ("locationPreferenceEnabled",
        match preferences.get "locationPreferenceEnabled" with
        | .bool b => .bool b
        | _ => .bool false),
      ("countryCode", countryCode), ("city", city), ("region", region)]
    attributes := [
      ("age", Json.ofNumber? (toNumberOrNull (raw.get "age"))),
      ("gender", Json.ofString? (toStringOrNull (raw.get "gender"))),
      ("countryCode", countryCode), ("city", city), ("region", region),
      ("interestIds", Json.ofStrings (collectNestedIds (raw.get "interests") "interest")),
      ("goalIds", Json.ofStrings (collectNestedIds (raw.get "goals") "goal")),
      ("professionIds", Json.ofStrings (collectNestedIds (raw.get "professions") "profession")),
      ("trustScore", .num ((toNumberOrNull (behavior.get "trustScore")).getD 100)),
      ("sessionMoodIds", Json.ofStrings prep.moodIds),
      ("sessionLookingForIds", Json.ofStrings prep.lookingForIds),
      ("connectionPreference", Json.ofString? prep.connectionPreference),
      ("matchIntent", .str prep.matchIntent),
      ("sessionActivityIds", Json.ofStrings (prep.sessionActivities.map (·.activityId))),
      ("sessionActivities", .arr (prep.sessionActivities.map Json.ofSessionActivity)),
      ("isGuest", match raw.get "isGuest" with
        | .bool true => .bool true
        | _ => .bool false)] }

/-- `peekCountryCodesByUserIds` on one row: the country code alone. -/
def peekCountryCode (raw : JsonRecord) : Option Text :=
  match (recordOrEmpty (raw.get "location")).get "countryCode" with
  | .str cc => Text.of? (normalize cc)
  | _ => none

end Greetup.Matching
