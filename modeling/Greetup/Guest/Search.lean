import Greetup.Guest.Trial
import Greetup.OpenToConnect.GoingOpen

/-!
The searches of a guest: a request for a match, what it has to pass before it
reaches the engine, the counter that is raised on the way, and the status that
says how many searches are left.

What the request reads is what is current when it reads it; it changes between
two reads. A call may also fail, and whatever it throws ends the request.
-/

namespace Greetup.Guest.Search

open Interleaving (Prog)
open Matching (Text Host UserMatchState trim)
open OpenToConnect.GoingOpen (MatchIntent)
open Rooms (UserId AccessError)

def guestMatchPrepMinInterests : ℕ := 2

/-- Max match searches per guest session. -/
def guestMatchSearchRetryLimit : ℕ := 5

/-- What ends a request early. -/
inductive Thrown
  | app (error : AccessError)
  | matchPrepNotReady (message : String)
  | other
  deriving DecidableEq

/-! ### What is read -/

/-- The row of a guest, joined with the names of the account. -/
structure GuestProfile extends TrialColumns where
  displayName : Option String := none
  name : Option String := none

structure MatchPrep where
  moodIds : List Text := []
  lookingForIds : List Text := []
  interestIds : List Text := []
  matchIntent : MatchIntent := .quick
  activitySelections : List Text := []

inductive Call
  | getUserMatchState
  | findTrialFlagsByUserId
  | findByUserId
  | getMatchPrepCurrentService
  | ensureProfileSnapshotCached
  | incr
  | expire
  | insertTrialEvent (deviceHash ipHash : Option Text)
  | syncUserBlocksToRedis
  | findMatch (requestId : Text)
  | getSearchCount
  deriving DecidableEq

@[reducible] def Call.Answer : Call → Type
  | .getUserMatchState => UserMatchState
  | .findTrialFlagsByUserId => Option TrialFlags
  | .findByUserId => Option GuestProfile
  | .getMatchPrepCurrentService => MatchPrep
  | .ensureProfileSnapshotCached => Bool
  | .incr => ℕ
  | .findMatch _ => Option Text
  | .getSearchCount => ℕ
  | _ => Unit

/-- What is current of a guest, the counter apart. -/
structure Circumstances where
  matchState : UserMatchState := .idle
  profile : GuestProfile := {}
  prep : MatchPrep := {}
  snapshotReady : Bool := true
  /-- the request the engine says it is working on -/
  engineRequestId : Option Text := none
  /-- what a call throws, if it fails -/
  fault : Call → Option Thrown := fun _ => none

structure SearchWorld where
  /-- the value of the key in Redis; an absent key counts as zero -/
  count : ℕ := 0
  now : Circumstances := {}

def SearchWorld.answer : (c : Call) → SearchWorld → c.Answer × SearchWorld
  | .getUserMatchState, w => (w.now.matchState, w)
  | .findTrialFlagsByUserId, w =>
      (some { isGuest := true, guestTrialConsumed := w.now.profile.guestTrialConsumedAt.isSome }, w)
  | .findByUserId, w => (some w.now.profile, w)
  | .getMatchPrepCurrentService, w => (w.now.prep, w)
  | .ensureProfileSnapshotCached, w => (w.now.snapshotReady, w)
  | .incr, w => (w.count + 1, { w with count := w.count + 1 })
  | .expire, w => ((), w)
  | .insertTrialEvent _ _, w => ((), w)
  | .syncUserBlocksToRedis, w => ((), w)
  | .findMatch requestId, w => (w.now.engineRequestId,
      { w with now := { w.now with
          matchState := .searching (w.now.engineRequestId.getD requestId) } })
  | .getSearchCount, w => (w.count, w)

inductive SearchCmd
  | call (c : Call)
  /-- anything else that happens in the window, to anything but the counter -/
  | elsewhere (change : Circumstances → Circumstances)

@[reducible] def SearchCmd.Reply : SearchCmd → Type
  | .call c => Except Thrown c.Answer
  | .elsewhere _ => Unit

/-- A call that fails changes nothing. -/
def execSearch : (c : SearchCmd) → SearchWorld → c.Reply × SearchWorld
  | .call c, w =>
      match w.now.fault c with
      | some thrown => (.error thrown, w)
      | none => (.ok (w.answer c).1, (w.answer c).2)
  | .elsewhere change, w => ((), { w with now := change w.now })

abbrev SearchM := Prog SearchCmd SearchCmd.Reply

abbrev issueCall (c : Call) : SearchM (Except Thrown c.Answer) :=
  Prog.perform (SearchCmd.call c)

/-- What follows is only done if nothing was thrown. -/
def andThen {α β : Type} (p : SearchM (Except Thrown α)) (f : α → SearchM (Except Thrown β)) :
    SearchM (Except Thrown β) := do
  match ← p with
  | .error thrown => return .error thrown
  | .ok a => f a

/-! ### The counter -/

def redisGetGuestMatchSearchCount (guestUserId : UserId) : SearchM (Except Thrown ℕ) :=
  if trim guestUserId.val = "" then return .ok 0 else issueCall .getSearchCount

/-- The window begins with the first search that is counted. -/
def expireIfFirst (next : ℕ) : SearchM (Except Thrown ℕ) :=
  if next = 1 then andThen (issueCall .expire) fun () => return .ok next else return .ok next

def redisIncrementGuestMatchSearchCount (guestUserId : UserId) : SearchM (Except Thrown ℕ) :=
  if trim guestUserId.val = "" then return .ok 0 else andThen (issueCall .incr) expireIfFirst

def getGuestMatchSearchAttemptsRemaining (attemptsUsed : ℕ) : ℕ :=
  max 0 (guestMatchSearchRetryLimit - attemptsUsed)

def guestSearchRetryExhausted : Thrown :=
  .app ⟨"You've reached the search limit for now. Sign up or log in to keep matching.",
    "GUEST_SEARCH_RETRY_EXHAUSTED", 403⟩

/-- Nothing calls this. -/
def assertGuestMatchSearchRetriesAvailable (guestUserId : UserId) :
    SearchM (Except Thrown Unit) :=
  andThen (redisGetGuestMatchSearchCount guestUserId) fun attemptsUsed =>
    return if attemptsUsed ≥ guestMatchSearchRetryLimit then .error guestSearchRetryExhausted
      else .ok ()

def recordGuestMatchSearchAttempt (guestUserId : UserId) : SearchM (Except Thrown ℕ) :=
  redisIncrementGuestMatchSearchCount guestUserId

/-! ### Being ready -/

def resolveGuestDisplayName [Host] (displayName name : Option String) : Option Text :=
  (displayName.bind fun displayName => Text.of? (trim displayName)) <|>
    name.bind fun name =>
      if Host.toLowerCase (trim name) = "guest" then none else Text.of? (trim name)

def isGuestMatchPrepReady (prep : MatchPrep) : Bool :=
  prep.moodIds.length > 0 && prep.lookingForIds.length > 0 &&
    prep.interestIds.length ≥ guestMatchPrepMinInterests

def guestProfileIncomplete (message : String) : Thrown :=
  .app ⟨message, "GUEST_PROFILE_INCOMPLETE", 400⟩

/-- A guest whose name, preferences and snapshot are in place. -/
def recordSearch (userId : UserId) (profile : GuestProfile) (snapshotReady : Bool) :
    SearchM (Except Thrown Unit) :=
  if !snapshotReady then
    return .error (guestProfileIncomplete
      "Could not prepare your profile for matching — save preferences and try again")
  else andThen (recordGuestMatchSearchAttempt userId) fun _ =>
    issueCall (.insertTrialEvent profile.guestDeviceHash profile.guestCreatedIpHash)

def recordIfPrepared (userId : UserId) (profile : GuestProfile) (prep : MatchPrep) :
    SearchM (Except Thrown Unit) :=
  if !isGuestMatchPrepReady prep then
    return .error (guestProfileIncomplete
      "Complete your matching preferences before searching for a match")
  else andThen (issueCall .ensureProfileSnapshotCached) (recordSearch userId profile)

def recordIfNamed [Host] (userId : UserId) :
    Option GuestProfile → SearchM (Except Thrown Unit)
  | none => return .error (guestProfileIncomplete "Guest profile not found")
  | some profile =>
      match resolveGuestDisplayName profile.displayName profile.name with
      | none =>
          return .error (guestProfileIncomplete "Add a display name before searching for a match")
      | some _ =>
          andThen (issueCall .getMatchPrepCurrentService) (recordIfPrepared userId profile)

def recordIfGuest [Host] (userId : UserId) (flags : Option TrialFlags) :
    SearchM (Except Thrown Unit) :=
  if !flags.any (·.isGuest) then return .ok ()
  else if flags.any (·.guestTrialConsumed) then return .error (.app guestTrialExhausted)
  else andThen (issueCall .findByUserId) (recordIfNamed userId)

/-- Ensures a guest completed name + prefs and has a cached snapshot before match search. -/
def assertGuestReadyForMatchSearch [Host] (userId : UserId) : SearchM (Except Thrown Unit) :=
  andThen (issueCall .findTrialFlagsByUserId) (recordIfGuest userId)

/-- What is missing in the preferences of anyone who searches. -/
def missingForSearch (current : MatchPrep) : Option String :=
  if !(current.moodIds.length > 0 && current.lookingForIds.length > 0 &&
      current.interestIds.length > 0) then
    some "Complete match preferences before searching"
  else if current.matchIntent = .activity && current.activitySelections.length = 0 then
    some "Pick at least one activity for activity match"
  else none

def assertReady (current : MatchPrep) : Except Thrown Unit :=
  match missingForSearch current with
  | some message => .error (.matchPrepNotReady message)
  | none => .ok ()

def assertMatchPrepReadyForSearch : SearchM (Except Thrown Unit) :=
  andThen (issueCall .getMatchPrepCurrentService) fun current => return assertReady current

def ensureUserBlocksSyncedForMatching : SearchM (Except Thrown Unit) :=
  issueCall .syncUserBlocksToRedis

def findMatchService (requestId : Text) : SearchM (Except Thrown (Option Text)) :=
  issueCall (.findMatch requestId)

/-! ### A request -/

inductive FindMatchResponse
  | alreadySearching (requestId : Text)
  | proposalActive (requestId : Text) (peerUserId : UserId) (matchScore : ℤ)
      (isFallbackMatch : Bool)
  | started (requestId : Text)
  | refused (error : AccessError)
  /-- with the code `MATCHMAKING_FAILED` -/
  | internalError
  deriving DecidableEq

def alreadyInSession : AccessError :=
  ⟨"Already in an active session", "ALREADY_IN_SESSION", 409⟩

/-- What is caught, and what becomes of it. -/
def Thrown.response : Thrown → FindMatchResponse
  | .app error => .refused error
  | .matchPrepNotReady message => .refused ⟨message, "ACTIVITY_PREP_INCOMPLETE", 409⟩
  | .other => .internalError

def startSearch [Host] (userId : UserId) (requestId : Text) :
    SearchM (Except Thrown FindMatchResponse) :=
  andThen (assertGuestReadyForMatchSearch userId) fun () =>
    andThen assertMatchPrepReadyForSearch fun () =>
      andThen ensureUserBlocksSyncedForMatching fun () =>
        andThen (findMatchService requestId) fun engineRequestId =>
          return .ok (.started (engineRequestId.getD requestId))

def findUnlessActive [Host] (userId : UserId) (requestId : Text) :
    UserMatchState → SearchM (Except Thrown FindMatchResponse)
  | .searching requestId => return .ok (.alreadySearching requestId)
  | .proposed requestId peerUserId matchScore isFallbackMatch =>
      return .ok (.proposalActive requestId peerUserId matchScore isFallbackMatch)
  | .matched _ _ => return .ok (.refused alreadyInSession)
  | .idle => startSearch userId requestId

/-- `POST /find`, with the id that is drawn for the request. -/
def handleFindMatch [Host] (userId : UserId) (requestId : Text) : SearchM FindMatchResponse := do
  let result ← andThen (issueCall .getUserMatchState) (findUnlessActive userId requestId)
  return match result with
    | .error thrown => thrown.response
    | .ok response => response

/-! ### The status -/

inductive GuestFlowNextStep
  | name
  | prefs
  | toMatch
  | signup
  deriving DecidableEq

structure GuestCallTrialStatus where
  isGuest : Bool
  displayName : Option Text
  hasMatchPrep : Bool
  callTrialConsumed : Bool
  matchSearchAttemptsUsed : Option ℕ := none
  matchSearchAttemptsRemaining : Option ℕ := none
  canStartMatch : Bool
  nextStep : GuestFlowNextStep
  deriving DecidableEq

def getGuestMatchSearchAttemptsUsed (guestUserId : UserId) : SearchM (Except Thrown ℕ) :=
  redisGetGuestMatchSearchCount guestUserId

def nonGuestStatus (displayName : Option Text) : GuestCallTrialStatus where
  isGuest := false
  displayName
  hasMatchPrep := false
  callTrialConsumed := false
  canStartMatch := false
  nextStep := .signup

def guestStatus (displayName : Option Text) (callTrialConsumed matchPrepReady : Bool)
    (matchSearchAttemptsUsed : ℕ) : GuestCallTrialStatus where
  isGuest := true
  displayName
  hasMatchPrep := matchPrepReady
  callTrialConsumed
  matchSearchAttemptsUsed := some matchSearchAttemptsUsed
  matchSearchAttemptsRemaining :=
    some (getGuestMatchSearchAttemptsRemaining matchSearchAttemptsUsed)
  canStartMatch := !callTrialConsumed && displayName.isSome && matchPrepReady
  nextStep :=
    if callTrialConsumed then .signup
    else if displayName.isNone then .name
    else if !matchPrepReady then .prefs
    else .toMatch

/-- The row of a guest is never missing here, and never that of a registered user. -/
def statusOfProfile [Host] (userId : UserId) :
    Option GuestProfile → SearchM (Except Thrown GuestCallTrialStatus)
  | none => return .ok (nonGuestStatus none)
  | some profile =>
      andThen (issueCall .getMatchPrepCurrentService) fun prep =>
        andThen (getGuestMatchSearchAttemptsUsed userId) fun matchSearchAttemptsUsed =>
          return .ok (guestStatus (resolveGuestDisplayName profile.displayName profile.name)
            profile.guestTrialConsumedAt.isSome (isGuestMatchPrepReady prep)
            matchSearchAttemptsUsed)

def getGuestCallTrialStatus [Host] (userId : UserId) :
    SearchM (Except Thrown GuestCallTrialStatus) :=
  andThen (issueCall .findByUserId) (statusOfProfile userId)

end Greetup.Guest.Search
