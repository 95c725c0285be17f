import Greetup.Data.Throwing
import Greetup.Presence.World
import Greetup.Chess.Types
import Greetup.Matching.Orchestrator

/-!
A user goes open: the steps of `enableOpenToConnectService`, each of which may
fail.

The account of one user is followed, in the database and in the index that is
kept in Redis. A step that fails throws and has no effect. The hash of the index
goes without its TTL, and without `tagsJson`, which says the same again.
-/

namespace Greetup.OpenToConnect.GoingOpen

open Data
open Data.Throwing (attempt)
open Matching (Text Host UserMatchState)
open Presence (ActivityId joinActivityIds parseActivityIdsFromHash)

/-! ### The activities that are picked -/

structure ActivitySelectionInput where
  activityId : ActivityId
  detail : Option String := none

inductive ActivitySelectionContext
  | matchPrep
  | space

inductive MatchIntent
  | quick
  | activity
  deriving DecidableEq

inductive ActivitySelectionCode
  | activityRequired
  | activityInvalid
  | activityDuplicate
  | activityDetailRequired
  | activityDetailTooLong
  | activityNotAllowed
  deriving DecidableEq

structure ActivitySelectionValidationError where
  message : String
  code : ActivitySelectionCode
  deriving DecidableEq

structure ValidatedActivitySelection where
  activityId : ActivityId
  detail : Option String
  detailNormalized : Option String
  sortOrder : ℕ
  deriving DecidableEq

/-- What is read of an active row of the catalog. -/
structure ActivityCatalogRow where
  id : ActivityId
  displayName : String
  detailLabel : Option String := none
  detailMaxLength : ℕ := 80
  allowInMatchPrep : Bool := true
  allowInSpace : Bool := true
  detailRequired : Bool := false

structure SelectionOptions where
  context : ActivitySelectionContext
  matchIntent : Option MatchIntent := none
  maxCount : Option ℕ := none

/-- `MAX_MATCH_PREP_ACTIVITY_SELECTIONS` -/
def maxMatchPrepActivitySelections : ℕ := 3

/-- `MAX_SPACE_ACTIVITY_SELECTIONS` -/
def maxSpaceActivitySelections : ℕ := 5

def isAllowedInContext (row : ActivityCatalogRow) : ActivitySelectionContext → Bool
  | .space => row.allowInSpace
  | .matchPrep => row.allowInMatchPrep

def maxSelectionsForContext : ActivitySelectionContext → ℕ
  | .space => maxSpaceActivitySelections
  | .matchPrep => maxMatchPrepActivitySelections

def trimActivityDetail (value : Option String) : Option String :=
  let trimmed := Matching.trim (value.getD "")
  if trimmed = "" then none else some trimmed

def normalizeActivityDetail [Host] (value : String) : String := Matching.normalize value

def requireAtLeastOne (options : SelectionOptions) : Bool :=
  match options.context with
  | .matchPrep => options.matchIntent = some .activity
  | .space => false

/-- The ids after each other, as the loop adds them to what it has seen. -/
def hasDuplicate : List ActivityId → List ActivityId → Bool
  | _, [] => false
  | seen, id :: ids => id ∈ seen || hasDuplicate (id :: seen) ids

def validateSelectionCount (input : List ActivitySelectionInput) (options : SelectionOptions) :
    Except ActivitySelectionValidationError Unit :=
  let maxCount := options.maxCount.getD (maxSelectionsForContext options.context)
  if requireAtLeastOne options && input.isEmpty then
    .error ⟨"Pick at least one activity", .activityRequired⟩
  else if maxCount < input.length then
    .error ⟨"You can pick at most " ++ toString maxCount ++ " activities", .activityInvalid⟩
  else if hasDuplicate [] (input.map (·.activityId)) then
    .error ⟨"Duplicate activity selected", .activityDuplicate⟩
  else .ok ()

def validateDetail [Host] (catalog : ActivityCatalogRow) (activityId : ActivityId) (sortOrder : ℕ)
    (detail : Option String) : Except ActivitySelectionValidationError ValidatedActivitySelection :=
  if catalog.detailRequired && detail.isNone then
    .error ⟨catalog.displayName ++ ": " ++ catalog.detailLabel.getD "detail" ++ " is required",
      .activityDetailRequired⟩
  else if detail.any (catalog.detailMaxLength < Chess.utf16Length ·) then
    .error ⟨catalog.displayName ++ ": detail is too long", .activityDetailTooLong⟩
  else .ok ⟨activityId, detail, detail.map normalizeActivityDetail, sortOrder⟩

def validateSelection [Host] (catalogRows : List ActivityCatalogRow) (options : SelectionOptions)
    (sel : ActivitySelectionInput) (sortOrder : ℕ) :
    Except ActivitySelectionValidationError ValidatedActivitySelection :=
  match catalogRows.reverse.find? (·.id = sel.activityId) with
  | none => .error ⟨"Unknown or inactive activity", .activityInvalid⟩
  | some catalog =>
      if isAllowedInContext catalog options.context then
        validateDetail catalog sel.activityId sortOrder (trimActivityDetail sel.detail)
      else .error ⟨catalog.displayName ++ " is not available here", .activityNotAllowed⟩

/-- The selections from this place in the order on. -/
def validateFrom [Host] (catalogRows : List ActivityCatalogRow) (options : SelectionOptions) :
    ℕ → List ActivitySelectionInput →
      Except ActivitySelectionValidationError (List ValidatedActivitySelection)
  | _, [] => .ok []
  | sortOrder, sel :: input => do
      let validated ← validateSelection catalogRows options sel sortOrder
      return validated :: (← validateFrom catalogRows options (sortOrder + 1) input)

section SortOrder

variable [Host] {catalogRows : List ActivityCatalogRow} {options : SelectionOptions}
  {sortOrder : ℕ} {input : List ActivitySelectionInput}

theorem sortOrder_validateSelection {sel : ActivitySelectionInput}
    {validated : ValidatedActivitySelection}
    (h : validateSelection catalogRows options sel sortOrder = .ok validated) :
    validated.sortOrder = sortOrder := by
  unfold validateSelection validateDetail at h
  split at h
  · cases h
  · split_ifs at h
    cases h
    rfl

/-- The activities that are written are in the order of their numbers. -/
theorem sortOrder_validateFrom {validated : List ValidatedActivitySelection}
    (h : validateFrom catalogRows options sortOrder input = .ok validated) :
    validated.map (·.sortOrder) = List.range' sortOrder input.length := by
  induction input generalizing sortOrder validated with
  | nil =>
      cases h
      rfl
  | cons sel input ih =>
      rw [validateFrom] at h
      cases hsel : validateSelection catalogRows options sel sortOrder with
      | error error =>
          rw [hsel] at h
          cases h
      | ok first =>
          cases hrest : validateFrom catalogRows options (sortOrder + 1) input with
          | error error =>
              rw [hsel, hrest] at h
              cases h
          | ok rest =>
              rw [hsel, hrest] at h
              cases h
              rw [List.map_cons, sortOrder_validateSelection hsel, ih hrest, List.length_cons,
                List.range'_succ]

end SortOrder

/-! ### The account -/

inductive OpenToConnectSource
  | manual
  | postNoMatch
  deriving DecidableEq

/-- A row of `current_status`, with its moods and its activities, these in the
order of `sortOrder`. -/
structure StatusRow where
  openToConnect : Bool := true
  openToConnectUpdatedAt : Option ℕ := none
  openToConnectSource : Option OpenToConnectSource := none
  openToConnectHeadline : Option String := none
  openToConnectPausedForRoom : Bool := false
  moodIds : List Text := []
  activities : List ValidatedActivitySelection := []

structure Profile where
  id : Text
  isGuest : Bool := false
  interestIds : List Text := []
  status : Option StatusRow := none

structure OpenToConnectTags where
  profileId : Text
  displayName : Option String
  headline : Option String
  activityIds : List ActivityId
  moodIds : List Text
  interestIds : List Text
  updatedAt : ℕ

/-- `otc:user:{userId}` -/
structure TagsHash where
  profileId : Text
  displayName : String
  headline : String
  activityIds : List Char
  moodIds : String
  interestIds : String
  updatedAt : ℕ
  deriving DecidableEq

/-- What the index has of the user. -/
structure IndexEntry where
  /-- in `otc:online` -/
  online : Bool := false
  hash : Option TagsHash := none
  /-- in `otc:activity:{activityId}` -/
  activity : List Char → Bool := fun _ => false

/-- `ids.join(",")` -/
def joinIds (ids : List Text) : String := ",".intercalate (ids.map (·.val))

def OpenToConnectTags.hash (tags : OpenToConnectTags) : TagsHash where
  profileId := tags.profileId
  displayName := tags.displayName.getD ""
  headline := tags.headline.getD ""
  activityIds := joinActivityIds tags.activityIds.eraseDups
  moodIds := joinIds tags.moodIds
  interestIds := joinIds tags.interestIds
  updatedAt := tags.updatedAt

namespace IndexEntry

variable (entry : IndexEntry)

/-- The transaction of `syncUserToIndex`. -/
def sync (tags : OpenToConnectTags) : IndexEntry where
  online := true
  hash := some tags.hash
  activity id := tags.activityIds.eraseDups.any (·.val = id) || entry.activity id

/-- The transaction of `removeUserFromIndex`. -/
def remove (activityIds : List (List Char)) : IndexEntry where
  online := false
  hash := none
  activity id := !activityIds.contains id && entry.activity id

/-- The entry is what the index has of this user among all users. -/
structure IsOf (w : Presence.World) (userId : Matching.UserId) : Prop where
  online : entry.online = true ↔ userId ∈ w.otcOnline
  hash : entry.hash.map (·.activityIds) = (w.otcUser userId).map (·.activityIds)
  activity : ∀ id, entry.activity id = true ↔ userId ∈ w.otcActivity id

variable {entry} {w : Presence.World} {userId : Matching.UserId}

theorem IsOf.sync (h : entry.IsOf w userId) (tags : OpenToConnectTags) :
    (entry.sync tags).IsOf (w.indexUser userId tags.activityIds.eraseDups) userId := by
  refine ⟨by simp [IndexEntry.sync, Presence.World.indexUser], ?_, fun id => ?_⟩
  · simp [IndexEntry.sync, Presence.World.indexUser, OpenToConnectTags.hash]
  · have hany : tags.activityIds.eraseDups.any (·.val = id) = true ↔
        id ∈ tags.activityIds.eraseDups.map (·.val) := by simp
    rw [IndexEntry.sync, Presence.World.indexUser]
    dsimp only
    rw [Bool.or_eq_true, hany, h.activity]
    split
    next hmem => simp only [hmem, true_or, List.mem_insert_iff]
    next hmem => simp only [hmem, false_or]

theorem IsOf.remove (h : entry.IsOf w userId) (activityIds : List (List Char)) :
    (entry.remove activityIds).IsOf (w.unindexUser userId activityIds) userId := by
  refine ⟨by simp [IndexEntry.remove, Presence.World.unindexUser], ?_, fun id => ?_⟩
  · simp [IndexEntry.remove, Presence.World.unindexUser]
  · have hactivity := h.activity id
    rw [IndexEntry.remove, Presence.World.unindexUser]
    dsimp only
    by_cases hmem : id ∈ activityIds
    · simp [hmem]
    · simp [hmem, hactivity]

end IndexEntry

structure Account where
  profile : Option Profile := none
  index : IndexEntry := {}
  /-- `user:active_rtc_room:{userId}` -/
  activeRtcRoomId : Option Text := none

namespace Account

variable (account : Account)

def row : Option (Profile × StatusRow) := do
  let profile ← account.profile
  return (profile, ← profile.status)

def mapStatus (f : Option StatusRow → Option StatusRow) : Account :=
  { account with profile := account.profile.map fun profile =>
      { profile with status := f profile.status } }

end Account

/-! ### Steps -/

/-- What a command is issued for. -/
inductive Phase
  | checking
  | restoring
  /-- The index is brought up to date after a room. -/
  | resyncing
  | selecting
  | opening
  | showing
  | rollback
  | pausing
  | reading
  deriving DecidableEq

inductive Command
  | cancelMatch
  | isUserOnline
  | delActiveRtcRoom
  | findProfile
  | insertProfile
  | createInitialForProfile
  | findActiveByIds
  | findByUserId
  | replaceActivities
  | findStatus
  | writeStatus
  | setPausedForRoom
  | refreshProfileSnapshot
  | getActiveRtcRoom
  | findUser
  | listInterestIds
  | syncIndex
  | hgetActivityIds
  | removeIndex
  | isUserVisible
  deriving DecidableEq

structure AppError where
  message : String
  statusCode : ℕ
  code : String
  deriving DecidableEq

inductive OpenError
  | app (error : AppError)
  | invalidSelection (error : ActivitySelectionValidationError)
  /-- The database, Redis or the engine throws. -/
  | failed (phase : Phase) (command : Command)
  deriving DecidableEq

def serviceUnavailable : OpenError :=
  .app ⟨"Could not go open right now. Try again.", 503, "SERVICE_UNAVAILABLE"⟩

/-- What is around the account, and which steps fail. A call takes no step of a
phase twice. -/
structure Env where
  now : ℕ
  newProfileId : Text
  matchState : UserMatchState := .idle
  /-- The presence hash is there. -/
  online : Phase → Bool := fun _ => true
  catalog : List ActivityCatalogRow := []
  /-- `displayName` and `name` of the row in `users` -/
  user : Option (Option String × String) := none
  fails : Phase → Command → Bool := fun _ _ => false

abbrev OpenM := Throwing Account OpenError

structure EnableOpenToConnectBody where
  source : OpenToConnectSource := .manual
  headline : Option String := none
  activitySelections : Option (List ActivitySelectionInput) := none

def EnableOpenToConnectBody.trimmedHeadline (body : EnableOpenToConnectBody) : Option String :=
  match body.headline with
  | none => none
  | some headline =>
      if Matching.trim headline = "" then none else some (Matching.trim headline)

section Services

variable [Host] (env : Env)

def command {α : Type} (phase : Phase) (c : Command) (f : Account → α × Account) : OpenM α :=
  attempt (env.fails phase c) (.failed phase c) f

def read {α : Type} (phase : Phase) (c : Command) (f : Account → α) : OpenM α :=
  command env phase c fun account => (f account, account)

def write (phase : Phase) (c : Command) (f : Account → Account) : OpenM Unit :=
  command env phase c fun account => ((), f account)

/-! ### Repositories -/

def findByUserId (phase : Phase) : OpenM (Option (Profile × StatusRow)) :=
  read env phase .findByUserId Account.row

def initialStatus : StatusRow where
  openToConnect := true
  openToConnectUpdatedAt := some env.now

def getOrCreateProfile : OpenM Unit := do
  if ← read env .opening .findProfile (·.profile.isSome) then return ()
  else
    write env .opening .insertProfile ({ · with profile := some { id := env.newProfileId } })
    write env .opening .createInitialForProfile (·.mapStatus fun _ => some (initialStatus env))

structure OpenStateData where
  openToConnect : Bool
  source : Option OpenToConnectSource
  headline : Option String

/-- The columns that `setOpenState` sets, in a row that was there or in a new one. -/
def openState (data : OpenStateData) (row : StatusRow) : StatusRow :=
  { row with
    openToConnect := data.openToConnect
    openToConnectUpdatedAt := if data.openToConnect then some env.now else none
    openToConnectSource := if data.openToConnect then data.source else none
    openToConnectHeadline := if data.openToConnect then data.headline else none
    openToConnectPausedForRoom := false }

def setOpenState (data : OpenStateData) : OpenM Unit := do
  if ← read env .opening .findStatus (·.row.isSome) then
    write env .opening .writeStatus (·.mapStatus (·.map (openState env data)))
  else write env .opening .writeStatus (·.mapStatus fun _ => some (openState env data {}))

/-- In one transaction. -/
def replaceActivities (validated : List ValidatedActivitySelection) : OpenM Unit :=
  write env .selecting .replaceActivities
    (·.mapStatus (·.map ({ · with activities := validated })))

def setPausedForRoom (phase : Phase) (paused : Bool) : OpenM Unit :=
  write env phase .setPausedForRoom
    (·.mapStatus (·.map ({ · with openToConnectPausedForRoom := paused })))

/-- The snapshot is a key of its own. -/
def refreshProfileSnapshotFromDatabase (phase : Phase) : OpenM Unit :=
  write env phase .refreshProfileSnapshot id

def validateAgainst (input : List ActivitySelectionInput) (options : SelectionOptions) :
    Except ActivitySelectionValidationError Unit →
      OpenM (List ValidatedActivitySelection)
  | .error error => throw (.invalidSelection error)
  | .ok _ =>
      if input.isEmpty then return []
      else do
        let catalogRows ← read env .selecting .findActiveByIds fun _ =>
          env.catalog.filter fun row => (input.map (·.activityId)).contains row.id
        match validateFrom catalogRows options 0 input with
        | .error error => throw (.invalidSelection error)
        | .ok validated => return validated

def validateSelectionsAgainstCatalog (input : List ActivitySelectionInput)
    (options : SelectionOptions) : OpenM (List ValidatedActivitySelection) :=
  validateAgainst env input options (validateSelectionCount input options)

/-! ### The index -/

def syncUserToIndex (phase : Phase) (tags : OpenToConnectTags) : OpenM Unit :=
  write env phase .syncIndex fun account => { account with index := account.index.sync tags }

def removeUserFromIndex (phase : Phase) : OpenM Unit := do
  let raw ← read env phase .hgetActivityIds (·.index.hash.map (·.activityIds))
  write env phase .removeIndex fun account =>
    { account with index := account.index.remove (parseActivityIdsFromHash raw) }

def isUserOnline (phase : Phase) : OpenM Bool :=
  read env phase .isUserOnline fun _ => env.online phase

def tagsOf (user : Option (Option String × String)) (interestIds : List Text) (row : StatusRow)
    (profile : Profile) : OpenToConnectTags where
  profileId := profile.id
  displayName := user.bind fun user => user.1.or (some user.2)
  headline := row.openToConnectHeadline
  activityIds := row.activities.map (·.activityId)
  moodIds := row.moodIds
  interestIds
  updatedAt := row.openToConnectUpdatedAt.getD env.now

def tagsUnlessHidden (phase : Phase) (profile : Profile) (row : StatusRow) :
    OpenM (Option OpenToConnectTags) :=
  if !row.openToConnect || row.openToConnectPausedForRoom || profile.isGuest then return none
  else do
    let user ← read env phase .findUser fun _ => env.user
    let interestIds ← read env phase .listInterestIds fun _ => profile.interestIds
    return some (tagsOf env user interestIds row profile)

def buildTagsForUser (phase : Phase) : OpenM (Option OpenToConnectTags) := do
  match ← findByUserId env phase with
  | none => return none
  | some (profile, row) => tagsUnlessHidden env phase profile row

def syncOrRemove (phase : Phase) : Option OpenToConnectTags → OpenM Unit
  | none => removeUserFromIndex env phase
  | some tags => do
      if ← isUserOnline env phase then syncUserToIndex env phase tags
      else removeUserFromIndex env phase

/-- What is thrown is logged. -/
def syncOpenToConnectIndexIfEnabled (phase : Phase) : OpenM Unit :=
  tryCatch (do syncOrRemove env phase (← buildTagsForUser env phase)) fun _ => pure ()

/-! ### Rooms -/

def pauseOpenToConnectForRoom : OpenM Unit := do
  match ← findByUserId env .pausing with
  | none => return ()
  | some (_, row) =>
      if !row.openToConnect || row.openToConnectPausedForRoom then return ()
      else
        setPausedForRoom env .pausing true
        removeUserFromIndex env .pausing
        refreshProfileSnapshotFromDatabase env .pausing

def restoreOpenToConnectAfterRoom : OpenM Unit := do
  match ← findByUserId env .restoring with
  | none => return ()
  | some (_, row) =>
      if row.openToConnectPausedForRoom then
        setPausedForRoom env .restoring false
        refreshProfileSnapshotFromDatabase env .restoring
        syncOpenToConnectIndexIfEnabled env .resyncing
      else return ()

/-- What is thrown is logged. -/
def clearUserActiveRtcRoom : OpenM Unit := do
  tryCatch (write env .restoring .delActiveRtcRoom ({ · with activeRtcRoomId := none }))
    fun _ => pure ()
  tryCatch (restoreOpenToConnectAfterRoom env) fun _ => pure ()

/-- What is thrown is logged, and there is no room then. -/
def getUserActiveRtcRoomId : OpenM (Option Text) :=
  tryCatch (read env .opening .getActiveRtcRoom (·.activeRtcRoomId)) fun _ => pure none

/-- The room is cleared in either case. -/
def cancelMatchService : OpenM Unit := do
  tryCatch (write env .checking .cancelMatch id) fun error => do
    clearUserActiveRtcRoom env
    throw error
  clearUserActiveRtcRoom env

/-! ### The service -/

def assertOnline : OpenM Unit := do
  if ← isUserOnline env .checking then return ()
  else throw (.app ⟨"You must be online to let people find you", 409, "CONFLICT"⟩)

/-- That the state is not known counts as `idle`. -/
def assertCanEnableOpenToConnect : OpenM Unit :=
  match env.matchState with
  | .matched _ _ =>
      throw (.app ⟨"Leave your current session before going open", 409, "CONFLICT"⟩)
  | .searching _ | .proposed _ _ _ _ => do
      cancelMatchService env
      assertOnline env
  | .idle => assertOnline env

def selectActivities (body : EnableOpenToConnectBody) : OpenM Unit :=
  match body.activitySelections with
  | none => return ()
  | some selections => do
      let validated ← validateSelectionsAgainstCatalog env selections
        { context := .matchPrep, matchIntent := some .quick
          maxCount := some maxMatchPrepActivitySelections }
      if (← findByUserId env .selecting).isSome then replaceActivities env validated
      else return ()

/-- The visibility is rolled back when it cannot be had. -/
def showInIndex : OpenM Unit :=
  tryCatch (do
    match ← buildTagsForUser env .showing with
    | none => return ()
    | some tags => syncUserToIndex env .showing tags)
    fun _ => do
      removeUserFromIndex env .rollback
      throw serviceUnavailable

structure OpenToConnectMeDto where
  openToConnect : Bool := false
  pausedForRoom : Bool := false
  source : Option OpenToConnectSource := none
  headline : Option String := none
  updatedAt : Option ℕ := none
  activityIds : List ActivityId := []
  moodIds : List Text := []
  interestIds : List Text := []
  visibleInDiscovery : Bool := false

def visibleInDiscovery (row : StatusRow) : OpenM Bool :=
  if row.openToConnect && !row.openToConnectPausedForRoom then
    read env .reading .isUserVisible fun account =>
      env.online .reading && account.index.hash.isSome
  else return false

def meDto (profile : Profile) (row : StatusRow) : OpenM OpenToConnectMeDto := do
  let visibleInDiscovery ← visibleInDiscovery env row
  let interestIds ← read env .reading .listInterestIds fun _ => profile.interestIds
  return {
    openToConnect := row.openToConnect
    pausedForRoom := row.openToConnectPausedForRoom
    source := row.openToConnectSource
    headline := row.openToConnectHeadline
    updatedAt := row.openToConnectUpdatedAt
    activityIds := row.activities.map (·.activityId)
    moodIds := row.moodIds
    interestIds
    visibleInDiscovery }

def getOpenToConnectMeService : OpenM OpenToConnectMeDto := do
  match ← findByUserId env .reading with
  | none => return {}
  | some (profile, row) => meDto env profile row

def pauseInRoom (activeRtcRoomId : Option Text) : OpenM Unit :=
  if activeRtcRoomId.isSome then pauseOpenToConnectForRoom env else return ()

/-- What follows the checks. -/
def goOpen (body : EnableOpenToConnectBody) : OpenM OpenToConnectMeDto := do
  getOrCreateProfile env
  selectActivities env body
  setOpenState env { openToConnect := true, source := some body.source
                     headline := body.trimmedHeadline }
  refreshProfileSnapshotFromDatabase env .opening
  let activeRtcRoomId ← getUserActiveRtcRoomId env
  showInIndex env
  pauseInRoom env activeRtcRoomId
  getOpenToConnectMeService env

def enableOpenToConnectService (body : EnableOpenToConnectBody) : OpenM OpenToConnectMeDto := do
  assertCanEnableOpenToConnect env
  goOpen env body

end Services

end Greetup.OpenToConnect.GoingOpen
