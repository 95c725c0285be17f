import Greetup.Matching.Services

/-!
The pool of searching users: a global sorted set by time of arrival and one per
country, city and region, with a note per user of the location buckets the user
was filed under.
-/

namespace Greetup.Matching

open Greetup.Interleaving Prog

variable [Host]

/-- The location buckets the index names. -/
def LocationPoolIndexMeta.buckets (idx : LocationPoolIndexMeta) : List PoolKey :=
  match idx.countryCode with
  | none => []
  | some cc =>
    .poolByCountry cc ::
      ((idx.citySlug.map (.poolByCity cc)).toList ++
        (idx.regionSlug.map (.poolByRegion cc)).toList)

/-- The location buckets a note names; a missing or corrupt one names none. -/
def RawMeta.buckets : Option RawMeta → List PoolKey
  | some (.stringified idx) => idx.buckets
  | _ => []

def getByUserId (userId : UserId) : M (Option SnapshotUserProfile) := do
  let raw ← issue (.getSnapshot userId)
  return raw.map (parseSnapshot · userId)

/-- One command per key, in order. -/
def forKeys (cmd : PoolKey → M Unit) : List PoolKey → M Unit
  | [] => pure ()
  | key :: keys => do
    cmd key
    forKeys cmd keys

/-- Removes the user from the pool sets and forgets the note. -/
def stripFromPool (userId : UserId) : M Unit := do
  let raw ← issue (.getPoolUserLocationMeta userId)
  issue (.zrem .poolGlobal userId)
  forKeys (fun key => issue (.zrem key userId)) (RawMeta.buckets raw)
  issue (.delPoolUserLocationMeta userId)

def enqueue (userId : UserId) : M Unit := do
  let now ← issue .dateNow
  let snap ← getByUserId userId
  let idx := buildLocationPoolIndexMeta snap
  issue (.zadd .poolGlobal now userId)
  forKeys (fun key => issue (.zadd key now userId)) idx.buckets
  issue (.setPoolUserLocationMeta userId idx)
  issue (.setUserState userId .searching)

def remove (userId : UserId) : M Unit := do
  stripFromPool userId
  issue (.delUserState userId)

/-! ### Candidates -/

def fetchSearchingStates (userIds : List UserId) : M (Finset UserId) :=
  if userIds = [] then pure ∅
  else do
    let states ← issue (.mgetUserStates userIds)
    return (((userIds.zip states).filter fun (_, state) => state = some .searching).map
      Prod.fst).toFinset

/-- The unblocked candidates that are still searching, in the order given, at
most `batchSize` of them. -/
def filterCandidates (requesterId : UserId) (ordered : List MatchCandidate)
    (batchSize : ℕ) : M (List MatchCandidate) :=
  if ordered = [] then pure []
  else do
    let ids := ordered.map (·.userId)
    let blocked ← filterBlockedPeers requesterId ids
    let searching ← fetchSearchingStates ids
    return (ordered.filter fun c => c.userId ∉ blocked ∧ c.userId ∈ searching).take batchSize

def collectFromZset (requesterId : UserId) (key : PoolKey) (scanLimit batchSize : ℕ) :
    M (List MatchCandidate) := do
  let rows ← issue (.zrevrange key scanLimit)
  filterCandidates requesterId (rows.filter (·.userId ≠ requesterId)) batchSize

/-- The rows without the requester and without repeats of `seen` or earlier rows. -/
def pushUnique (requesterId : UserId) : List UserId → List MatchCandidate → List MatchCandidate
  | _, [] => []
  | seen, c :: rows =>
    if c.userId = requesterId ∨ c.userId ∈ seen then pushUnique requesterId seen rows
    else c :: pushUnique requesterId (c.userId :: seen) rows

def mergePrimaryThenGlobal (requesterId : UserId) (primaryRows : List MatchCandidate) :
    M (List MatchCandidate) := do
  let globalRows ← issue (.zrevrange .poolGlobal MatchConfig.poolScanLimit)
  filterCandidates requesterId (pushUnique requesterId [] (primaryRows ++ globalRows))
    MatchConfig.candidateBatchSize

structure GlobalRow where
  candidate : MatchCandidate
  /-- 0 for a candidate known to be abroad, 1 otherwise. -/
  sortGroup : ℕ

def sortGroup (home peerCc : Option Text) : ℕ :=
  match home, peerCc with
  | some home, some peerCc => if peerCc = home then 1 else 0
  | _, _ => 1

def GlobalRow.before (a b : GlobalRow) : Bool :=
  if a.sortGroup ≠ b.sortGroup then a.sortGroup < b.sortGroup
  else b.candidate.score ≤ a.candidate.score

/-- The string itself, `none` for any other value. -/
def stringOrNone : Json → Option String
  | .str s => some s
  | _ => none

/-- The country codes of the stored snapshots, one for each id. -/
def peekCountryCodesByUserIds (userIds : List UserId) : M (List (Option Text)) :=
  if userIds = [] then pure []
  else do
    let raws ← issue (.mgetSnapshots userIds)
    return raws.map (·.bind peekCountryCode)

def collectGlobalForeignFirst (requesterId : UserId)
    (requesterSnapshot : SnapshotUserProfile) : M (List MatchCandidate) := do
  let rows ← issue (.zrevrange .poolGlobal MatchConfig.poolGlobalSortFetch)
  let parsed := rows.filter (·.userId ≠ requesterId)
  let blocked ← filterBlockedPeers requesterId (parsed.map (·.userId))
  let pending := parsed.filter (·.userId ∉ blocked)
  let ccs ← peekCountryCodesByUserIds (pending.map (·.userId))
  let home :=
    normalizeCountryCode (stringOrNone (requesterSnapshot.filters.get "countryCode")) <|>
      normalizeCountryCode (stringOrNone (requesterSnapshot.attributes.get "countryCode"))
  let grouped := (pending.zip ccs).map fun (c, peerCc) =>
    { candidate := c, sortGroup := sortGroup home peerCc : GlobalRow }
  let sorted := (grouped.insertionSort fun a b => a.before b).map (·.candidate)
  let searching ← fetchSearchingStates (sorted.map (·.userId))
  return (sorted.filter (·.userId ∈ searching)).take MatchConfig.candidateBatchSize

/-- Location buckets apply only when the snapshot enables them. -/
def getCandidates (requesterId : UserId) (requesterSnapshot : SnapshotUserProfile) :
    M (List MatchCandidate) :=
  let filters := requesterSnapshot.filters
  let locEnabled :=
    match filters.get "locationPreferenceEnabled" with
    | .bool b => b
    | _ => false
  let scanGlobal := collectFromZset requesterId .poolGlobal MatchConfig.poolScanLimit
    MatchConfig.candidateBatchSize
  let cc := normalizeCountryCode (stringOrNone (filters.get "countryCode"))
  let scanBucket (key : PoolKey) : M (List MatchCandidate) := do
    let primary ← issue (.zrevrange key MatchConfig.poolScanLimit)
    mergePrimaryThenGlobal requesterId primary
  if !locEnabled then scanGlobal
  else
    match canonicalDistancePreference (stringOrNone (filters.get "distancePreference")) with
    | none | some .random => scanGlobal
    | some .global => collectGlobalForeignFirst requesterId requesterSnapshot
    | some .sameCity =>
      match cc, slugLocationPart (stringOrNone (filters.get "city")) with
      | some cc, some city => scanBucket (.poolByCity cc city)
      | _, _ => scanGlobal
    | some .sameCountry =>
      match cc with
      | some cc => scanBucket (.poolByCountry cc)
      | none => scanGlobal
    | some .sameRegion =>
      match cc, slugLocationPart (stringOrNone (filters.get "region")) with
      | some cc, some reg => scanBucket (.poolByRegion cc reg)
      | _, _ => scanGlobal

end Greetup.Matching
