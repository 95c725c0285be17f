import Greetup.Presence.World

/-!
Who is shown to others as open to connect.

What a user offers is in a hash of the user, and the user in a set for each of
the activities. The hash is the only record of the sets.
-/

namespace Greetup.Presence

open Matching (UserId)

/-! ### The service -/

def isUserOnline (userId : UserId) : M Bool := issue (.existsPresence userId)

/-- `[...new Set(tags.activityIds)]` is what is stored. -/
def syncUserToIndex (tags : OpenToConnectTags) : M Unit :=
  issue (.indexUser { tags with activityIds := tags.activityIds.eraseDups })

def removeUserFromIndex (userId : UserId) : M Unit := do
  let raw ← issue (.hgetActivityIds userId)
  issue (.unindexUser userId (parseActivityIdsFromHash raw))

def refreshUserTtlIfIndexed (userId : UserId) : M Unit := do
  if ← issue (.existsIndexed userId) then
    issue (.expireIndexed userId)

def listIndexedUserIds (activityId : Option (List Char)) : M (List UserId) :=
  issue (.smembersIndexed activityId)

def removeAllFromIndex : List UserId → M Unit
  | [] => return ()
  | userId :: userIds => do
      removeUserFromIndex userId
      removeAllFromIndex userIds

def forgetOffline (userIds : List UserId) : M Unit :=
  if userIds.isEmpty then return () else issue (.sremOnlineUsers userIds)

/-- The visible ones; what is removed is not waited for. -/
def filterStillVisibleUserIds (userIds : List UserId) : M (List UserId) := do
  let results ← issue (.visibleEach userIds)
  let rows := userIds.zip results
  let stale := (rows.filter fun row => !(row.2.1 && row.2.2)).map (·.1)
  let offline := (rows.filter fun row => !row.2.1).map (·.1)
  removeAllFromIndex stale
  forgetOffline offline
  return (rows.filter fun row => row.2.1 && row.2.2).map (·.1)

/-- `online` is only looked at where there are tags. -/
def syncOpenToConnectIndexIfEnabled (userId : UserId) : M Unit := do
  match ← issue (.buildTagsForUser userId) with
  | none => removeUserFromIndex userId
  | some tags =>
      if ← isUserOnline userId then syncUserToIndex tags
      else removeUserFromIndex userId

end Greetup.Presence
