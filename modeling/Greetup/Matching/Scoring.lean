import Greetup.Matching.Location

/-!
The pure pairing rules: guest pool policy, the hard age filter, the
activity-intent filter and the weighted match score. A candidate is judged from
both sides, once as the requester sees it and once as it sees the requester.
-/

namespace Greetup.Matching

variable [Host]

open Host

/-! ### Guest pools -/

def isGuestSnapshot (snapshot : SnapshotUserProfile) : Bool :=
  match snapshot.attributes.get "isGuest" with
  | .bool b => b
  | _ => false

def areGuestPoolCompatible (requester candidate : SnapshotUserProfile)
    (policy : GuestMatchPoolPolicy) : Bool :=
  match policy with
  | .guestAndRegistered => true
  | .guestOnly => isGuestSnapshot requester == isGuestSnapshot candidate

/-! ### Hard compatibility -/

namespace MatchValidator

def accepts (requesterFilters candidateAttributes : JsonRecord) : Bool :=
  let minAge := toNumber (requesterFilters.get "minAge")
  let maxAge := toNumber (requesterFilters.get "maxAge")
  match toNumber (candidateAttributes.get "age") with
  | none => true
  | some candidateAge =>
    !(minAge.any fun minAge => lt candidateAge minAge) &&
      !(maxAge.any fun maxAge => lt maxAge candidateAge)

def isBidirectionallyCompatible (a b : SnapshotUserProfile) : Bool :=
  let aAcceptsB := accepts a.filters b.attributes
  let bAcceptsA := accepts b.filters a.attributes
  aAcceptsB && bAcceptsA

end MatchValidator

/-! ### Activity intent -/

structure SessionActivityRow where
  activityId : String
  name : String
  detailNormalized : Option String

/-- The string itself, `none` when it is missing or empty. -/
def nonemptyString : Json → Option String
  | .str s => if s ≠ "" then some s else none
  | _ => none

def toSessionActivities (value : Json) : List SessionActivityRow :=
  value.items.filterMap fun item => do
    let row ← item.record?
    let activityId ← nonemptyString (row.get "activityId")
    let name ← nonemptyString (row.get "name")
    return {
      activityId
      name
      detailNormalized := (toTrimmedString (row.get "detailNormalized")).map Host.toLowerCase }

def sharedActivityIds (left right : List String) : List String :=
  left.filter (· ∈ right)

def matchIntent (snapshot : SnapshotUserProfile) : String :=
  match snapshot.attributes.get "matchIntent" with
  | .str intent => intent
  | _ => "quick"

def sessionActivityIds (snapshot : SnapshotUserProfile) : List String :=
  toStringArray (snapshot.attributes.get "sessionActivityIds")

/-- Hard filter of the primary passes, not of the fallback. -/
def passesActivityIntentStrictFilter (requester candidate : SnapshotUserProfile) : Bool :=
  if matchIntent requester ≠ "activity" then true
  else if sessionActivityIds requester = [] then true
  else if matchIntent candidate ≠ "activity" then true
  else if sessionActivityIds candidate = [] then false
  else sharedActivityIds (sessionActivityIds requester) (sessionActivityIds candidate) ≠ []

structure ActivityScore where
  overlap : Number
  detailBonus : Number

/-- The candidate's row that `candidateById.get(activityId)` finds: the last one. -/
def candidateById (rows : List SessionActivityRow) (activityId : String) :
    Option SessionActivityRow :=
  rows.reverse.find? fun row => row.activityId = activityId

def sessionActivityOverlapScore (requester candidate : SnapshotUserProfile) : ActivityScore :=
  let requesterActs := toSessionActivities (requester.attributes.get "sessionActivities")
  let candidateActs := toSessionActivities (candidate.attributes.get "sessionActivities")
  if requesterActs = [] ∨ candidateActs = [] then ⟨ofNat 0, ofNat 0⟩
  else
    let shared := requesterActs.filterMap fun left =>
      (candidateById candidateActs left.activityId).map fun right => (left, right)
    let intersection := shared.length
    let detailMatches := (shared.filter fun (left, right) =>
      left.detailNormalized.isSome && left.detailNormalized == right.detailNormalized).length
    let union := (requesterActs.map (·.activityId) ++
      candidateActs.map (·.activityId)).dedup.length
    { overlap := if union = 0 then ofNat 0 else ofNat intersection / ofNat union
      detailBonus :=
        if intersection = 0 then ofNat 0 else ofNat detailMatches / ofNat intersection }

/-! ### Score components -/

/-- Jaccard overlap of two id lists, zero when either is empty. -/
def overlapRatio (left right : List String) : Number :=
  if left = [] ∨ right = [] then ofNat 0
  else
    let leftSet := (left.map normalize).dedup
    let rightSet := (right.map normalize).dedup
    let intersection := (leftSet.filter (· ∈ rightSet)).length
    let unionSize := (leftSet ++ rightSet).dedup.length
    if unionSize = 0 then ofNat 0 else ofNat intersection / ofNat unionSize

def ageScore (minAge maxAge candidateAge : Option Number) : Number :=
  match candidateAge with
  | none => ofRat 0.5
  | some candidateAge =>
    if minAge.isNone && maxAge.isNone then ofNat 1
    else
      let lower := minAge.getD (ofNat 18)
      let upper := maxAge.getD (ofNat 99)
      if le lower candidateAge && le candidateAge upper then ofNat 1
      else
        let distanceFromRange :=
          if lt candidateAge lower then lower - candidateAge
          else if lt upper candidateAge then candidateAge - upper
          else ofNat 0
        -- fades out over ten years outside the range
        let clamped := Host.min (distanceFromRange / ofNat 10) (ofNat 1)
        Host.max (ofNat 0) (ofNat 1 - clamped)

structure Place where
  city : Option String
  region : Option String
  countryCode : Option String

def samePlace (a b : Option String) : Bool :=
  match a, b with
  | some a, some b => normalize a = normalize b
  | _, _ => false

def distanceScore (preference : Option String) (locationPreferenceEnabled : Bool)
    (requester candidate : Place) : Number :=
  if !locationPreferenceEnabled then ofNat 1
  else
    match canonicalDistancePreference preference with
    | none | some .random => ofNat 1
    | some .global =>
      if requester.countryCode.isNone || candidate.countryCode.isNone then ofRat 0.82
      else if samePlace requester.countryCode candidate.countryCode then ofRat 0.55
      else ofNat 1
    | some .sameCity =>
      if samePlace requester.city candidate.city then ofNat 1 else ofRat 0.58
    | some .sameRegion =>
      if samePlace requester.region candidate.region then ofNat 1 else ofRat 0.68
    | some .sameCountry =>
      if samePlace requester.countryCode candidate.countryCode then ofNat 1 else ofRat 0.58

def trustScore (value : Option Number) : Number :=
  match value with
  | none => ofRat 0.5
  | some value => Host.min (Host.max value (ofNat 0)) (ofNat 100) / ofNat 100

def genderPreferenceScore (preferredGender candidateGender : Option String) : Number :=
  match preferredGender with
  | none => ofNat 1
  | some preferred =>
    if normalize preferred = "any" then ofNat 1
    else
      match candidateGender with
      | none => ofRat 0.5
      | some gender => if normalize preferred = normalize gender then ofNat 1 else ofNat 0

/-- Both empty counts as full agreement, one side empty as half. -/
def sessionOverlapComponent (left right : List String) : Number :=
  if left = [] ∧ right = [] then ofNat 1
  else if left = [] ∨ right = [] then ofRat 0.5
  else overlapRatio left right

/-- `requesterPref?.trim() ? normalize(requesterPref) : OPEN_TO_ANYONE`. -/
def connectionPref (requesterPref : Option String) : String :=
  match requesterPref with
  | none => "open_to_anyone"
  | some pref => if trim pref ≠ "" then normalize pref else "open_to_anyone"

def connectionPreferenceDirectionalScore (requesterPref : Option String)
    (requesterProfessions candidateProfessions : List String) : Number :=
  let p := connectionPref requesterPref
  let profOverlap := overlapRatio requesterProfessions candidateProfessions
  if p = "open_to_anyone" then ofNat 1
  else if p = "same_profession" then
    if requesterProfessions = [] ∨ candidateProfessions = [] then ofRat 0.5
    else if lt (ofNat 0) profOverlap then Host.max (ofRat 0.35) profOverlap
    else ofRat 0.15
  else if p = "different_profession" then
    if requesterProfessions = [] ∨ candidateProfessions = [] then ofRat 0.5
    else ofNat 1 - profOverlap
  else ofNat 1

/-! ### Weights -/

namespace ScoreWeights

def interests : ℕ := 12
def goals : ℕ := 13
def professions : ℕ := 6
def agePreference : ℕ := 6
def distancePreference : ℕ := 6
def preferredGender : ℕ := 3
def trustScore : ℕ := 2
def sessionMoods : ℕ := 28
def sessionLookingFor : ℕ := 28
def connectionPreference : ℕ := 21
def sessionActivities : ℕ := 20
def sessionActivityDetail : ℕ := 8

end ScoreWeights

structure MatchPrepWeights where
  mood : ℕ
  lookingFor : ℕ
  connectionPreference : ℕ
  sessionActivities : ℕ
  sessionActivityDetail : ℕ

/-- A match-prep weight counts only when the requester set the signal. -/
def activeMatchPrepWeights (requesterMoods requesterLookingFor : List String)
    (requesterConnectionPref : Option String) (requesterActivityIds : List String) :
    MatchPrepWeights where
  mood := if requesterMoods ≠ [] then ScoreWeights.sessionMoods else 0
  lookingFor := if requesterLookingFor ≠ [] then ScoreWeights.sessionLookingFor else 0
  connectionPreference :=
    let pref := connectionPref requesterConnectionPref
    if pref ≠ "" ∧ pref ≠ "open_to_anyone" then ScoreWeights.connectionPreference else 0
  sessionActivities := if requesterActivityIds ≠ [] then ScoreWeights.sessionActivities else 0
  sessionActivityDetail :=
    if requesterActivityIds ≠ [] then ScoreWeights.sessionActivityDetail else 0

/-! ### The score -/

namespace MatchScore

/-- `MATCH_SCORE_CONFIG.minScoreToMatch`. -/
def minScoreToMatch : ℤ := 35

def isScoreEligible (score : ℤ) : Bool := minScoreToMatch ≤ score

/-- How well the candidate fits the requester, on a scale of 0 to 100. -/
def calculateDirectionalScore (requester candidate : SnapshotUserProfile) : Number :=
  let requesterInterests := toStringArray (requester.attributes.get "interestIds")
  let candidateInterests := toStringArray (candidate.attributes.get "interestIds")
  let requesterGoals := toStringArray (requester.attributes.get "goalIds")
  let candidateGoals := toStringArray (candidate.attributes.get "goalIds")
  let requesterProfessions := toStringArray (requester.attributes.get "professionIds")
  let candidateProfessions := toStringArray (candidate.attributes.get "professionIds")
  let requesterMoods := toStringArray (requester.attributes.get "sessionMoodIds")
  let candidateMoods := toStringArray (candidate.attributes.get "sessionMoodIds")
  let requesterSessionLf := toStringArray (requester.attributes.get "sessionLookingForIds")
  let candidateSessionLf := toStringArray (candidate.attributes.get "sessionLookingForIds")
  let requesterConnPref := toTrimmedString (requester.attributes.get "connectionPreference")
  let requesterActivityIds := toStringArray (requester.attributes.get "sessionActivityIds")
  let locPrefEnabled :=
    match requester.filters.get "locationPreferenceEnabled" with
    | .bool b => b
    | _ => false
  let requesterPlace : Place :=
    { city := toTrimmedString (requester.filters.get "city")
      region := toTrimmedString (requester.filters.get "region")
      countryCode := toTrimmedString (requester.filters.get "countryCode") }
  let candidatePlace : Place :=
    { city := toTrimmedString (candidate.attributes.get "city")
      region := toTrimmedString (candidate.attributes.get "region")
      countryCode := toTrimmedString (candidate.attributes.get "countryCode") }
  let prep := activeMatchPrepWeights requesterMoods requesterSessionLf requesterConnPref
    requesterActivityIds
  let activityScore := sessionActivityOverlapScore requester candidate
  let weightedTotal :=
    overlapRatio requesterInterests candidateInterests * ofNat ScoreWeights.interests +
    overlapRatio requesterGoals candidateGoals * ofNat ScoreWeights.goals +
    overlapRatio requesterProfessions candidateProfessions * ofNat ScoreWeights.professions +
    ageScore (toNumber (requester.filters.get "minAge"))
      (toNumber (requester.filters.get "maxAge"))
      (toNumber (candidate.attributes.get "age")) * ofNat ScoreWeights.agePreference +
    distanceScore (toTrimmedString (requester.filters.get "distancePreference"))
      locPrefEnabled requesterPlace candidatePlace * ofNat ScoreWeights.distancePreference +
    genderPreferenceScore (toTrimmedString (requester.filters.get "preferredGender"))
      (toTrimmedString (candidate.attributes.get "gender")) *
        ofNat ScoreWeights.preferredGender +
    trustScore (toNumber (candidate.attributes.get "trustScore")) *
      ofNat ScoreWeights.trustScore +
    sessionOverlapComponent requesterMoods candidateMoods * ofNat prep.mood +
    sessionOverlapComponent requesterSessionLf candidateSessionLf * ofNat prep.lookingFor +
    connectionPreferenceDirectionalScore requesterConnPref requesterProfessions
      candidateProfessions * ofNat prep.connectionPreference +
    activityScore.overlap * ofNat prep.sessionActivities +
    activityScore.detailBonus * ofNat prep.sessionActivityDetail
  let totalWeight :=
    ofNat (ScoreWeights.interests + ScoreWeights.goals + ScoreWeights.professions +
      ScoreWeights.agePreference + ScoreWeights.distancePreference +
      ScoreWeights.preferredGender + ScoreWeights.trustScore + prep.mood + prep.lookingFor +
      prep.connectionPreference + prep.sessionActivities + prep.sessionActivityDetail)
  if le totalWeight (ofNat 0) then ofNat 0 else weightedTotal / totalWeight * ofNat 100

def calculateBidirectionalScore (a b : SnapshotUserProfile) : ℤ :=
  let aToB := calculateDirectionalScore a b
  let bToA := calculateDirectionalScore b a
  let finalScore := (aToB + bToA) / ofNat 2
  round finalScore

end MatchScore

/-! ### What does not depend on the side -/

omit [Host] in
theorem areGuestPoolCompatible_comm (a b : SnapshotUserProfile)
    (policy : GuestMatchPoolPolicy) :
    areGuestPoolCompatible a b policy = areGuestPoolCompatible b a policy := by
  cases policy with
  | guestAndRegistered => rfl
  | guestOnly => exact Bool.beq_comm

theorem MatchValidator.isBidirectionallyCompatible_comm (a b : SnapshotUserProfile) :
    isBidirectionallyCompatible a b = isBidirectionallyCompatible b a :=
  Bool.and_comm ..

theorem MatchScore.calculateBidirectionalScore_comm (a b : SnapshotUserProfile) :
    calculateBidirectionalScore a b = calculateBidirectionalScore b a := by
  have h := Host.add_comm (calculateDirectionalScore a b) (calculateDirectionalScore b a)
  exact congrArg (fun total => round (total / ofNat 2)) h

omit [Host] in
theorem sharedActivityIds_ne_nil_comm (left right : List String) :
    sharedActivityIds left right ≠ [] ↔ sharedActivityIds right left ≠ [] := by
  simp only [sharedActivityIds, ne_eq, List.filter_eq_nil_iff, decide_eq_true_eq, not_forall,
    not_not]
  exact ⟨fun ⟨a, ha, hb⟩ => ⟨a, hb, ha⟩, fun ⟨a, ha, hb⟩ => ⟨a, hb, ha⟩⟩

omit [Host] in
/-- The activity filter judges a pair alike from both sides, except when both
look for an activity and exactly one of them has named any. -/
theorem passesActivityIntentStrictFilter_comm_iff (a b : SnapshotUserProfile) :
    passesActivityIntentStrictFilter a b = passesActivityIntentStrictFilter b a ↔
      ¬ (matchIntent a = "activity" ∧ matchIntent b = "activity" ∧
        (sessionActivityIds a = [] ↔ sessionActivityIds b ≠ [])) := by
  have hshared := sharedActivityIds_ne_nil_comm (sessionActivityIds a) (sessionActivityIds b)
  by_cases ha : matchIntent a = "activity" <;> by_cases hb : matchIntent b = "activity" <;>
    by_cases hna : sessionActivityIds a = [] <;> by_cases hnb : sessionActivityIds b = [] <;>
      simp [passesActivityIntentStrictFilter, ha, hb, hna, hnb]
  simpa [not_iff_not] using not_iff_not.mpr hshared

end Greetup.Matching
