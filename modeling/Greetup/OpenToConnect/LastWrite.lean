import Greetup.OpenToConnect.GoingOpen
import Greetup.Presence.Discovery

/-!
How far a call gets that opens a user.

The writes of a call come one after the other, and only what is in the index is
ever taken back. How far it gets is read off the steps that fail; what it leaves
is what its writes up to there make of the account.
-/

namespace Greetup.OpenToConnect.GoingOpen

open Data Data.Throwing
open Matching (Text Host UserMatchState)
open Presence (ActivityId parseActivityIdsFromHash parseActivityIdsFromHash_join)

/-! ### What is recorded -/

structure Recorded where
  openToConnect : Bool
  source : Option OpenToConnectSource
  headline : Option String
  pausedForRoom : Bool
  activities : List ValidatedActivitySelection
  deriving DecidableEq

def StatusRow.recorded (row : StatusRow) : Recorded where
  openToConnect := row.openToConnect
  source := row.openToConnectSource
  headline := row.openToConnectHeadline
  pausedForRoom := row.openToConnectPausedForRoom
  activities := row.activities

def Account.recorded (account : Account) : Option Recorded := account.row.map (·.2.recorded)

/-- Neither the status nor the index entry has changed. -/
structure Account.Kept (w v : Account) : Prop where
  status : v.recorded = w.recorded
  index : v.index = w.index

theorem Account.Kept.refl (w : Account) : w.Kept w := ⟨rfl, rfl⟩

theorem Account.Kept.congr {w v u : Account} (h : v.Kept u) : w.Kept u ↔ w.Kept v := by
  constructor
  · exact fun hu => ⟨h.status ▸ hu.status, h.index ▸ hu.index⟩
  · exact fun hv => ⟨h.status.trans hv.status, h.index.trans hv.index⟩

/-- The activity is one of those. -/
def OpenToConnectTags.Lists (tags : OpenToConnectTags) (id : List Char) : Prop :=
  ∃ a ∈ tags.activityIds, a.val = id

theorem OpenToConnectTags.lists_congr {tags tags' : OpenToConnectTags} {id : List Char}
    (h : tags'.activityIds = tags.activityIds) : tags'.Lists id ↔ tags.Lists id := by
  rw [OpenToConnectTags.Lists, OpenToConnectTags.Lists, h]

/-- The index is looked at only where the status is kept. -/
theorem Account.kept_iff_and {w v : Account} {A P : Prop} (hstatus : v.recorded = w.recorded ↔ A)
    (hindex : A → (v.index = w.index ↔ P)) : w.Kept v ↔ A ∧ P := by
  constructor
  · rintro ⟨hrecorded, hkept⟩
    have hasked := hstatus.mp hrecorded
    exact ⟨hasked, (hindex hasked).mp hkept⟩
  · rintro ⟨hasked, hkept⟩
    exact ⟨hstatus.mpr hasked, (hindex hasked).mpr hkept⟩

namespace IndexEntry

variable {entry : IndexEntry} {tags : OpenToConnectTags}

/-- Neither in the index nor with a hash. -/
def Absent (entry : IndexEntry) : Prop := entry.online = false ∧ entry.hash = none

/-- The index has just what these tags say. -/
structure Shows (entry : IndexEntry) (tags : OpenToConnectTags) : Prop where
  online : entry.online = true
  hash : entry.hash = some tags.hash
  activity : ∀ a ∈ tags.activityIds, entry.activity a.val = true

/-- `removeUserFromIndex` -/
def removed (entry : IndexEntry) : IndexEntry :=
  entry.remove (parseActivityIdsFromHash (entry.hash.map (·.activityIds)))

theorem removed_eq_self_iff : entry.removed = entry ↔ entry.Absent := by
  constructor
  · intro h
    rw [← h]
    exact ⟨rfl, rfl⟩
  · rintro ⟨honline, hhash⟩
    obtain ⟨online, hash, activity⟩ := entry
    cases honline
    cases hhash
    simp [removed, remove, parseActivityIdsFromHash]

theorem removed_removed : entry.removed.removed = entry.removed :=
  removed_eq_self_iff.mpr ⟨rfl, rfl⟩

theorem sync_activity_eq_true_iff {id : List Char} :
    (entry.sync tags).activity id = true ↔
      tags.Lists id ∨ entry.activity id = true := by
  simp [sync, OpenToConnectTags.Lists]

theorem sync_shows : (entry.sync tags).Shows tags :=
  ⟨rfl, rfl, fun a ha => sync_activity_eq_true_iff.mpr (.inl ⟨a, ha, rfl⟩)⟩

theorem sync_eq_self_iff : entry.sync tags = entry ↔ entry.Shows tags := by
  constructor
  · exact fun h => h ▸ sync_shows
  · rintro ⟨honline, hhash, hactivity⟩
    obtain ⟨online, hash, activity⟩ := entry
    cases honline
    cases hhash
    have hsame : (fun id => tags.activityIds.eraseDups.any (·.val = id) || activity id) =
        activity := by
      funext id
      rw [Bool.or_eq_right_iff_imp]
      intro hany
      obtain ⟨a, ha, hid⟩ := List.any_eq_true.mp hany
      rw [← of_decide_eq_true hid]
      exact hactivity a (List.mem_eraseDups.mp ha)
    simp only [sync, hsame]

theorem removed_activity_eq_true_iff {id : List Char} (h : entry.hash = some tags.hash) :
    entry.removed.activity id = true ↔
      ¬ tags.Lists id ∧ entry.activity id = true := by
  have hids : parseActivityIdsFromHash (entry.hash.map (·.activityIds)) =
      tags.activityIds.eraseDups.map (·.val) := by
    rw [h]
    exact parseActivityIdsFromHash_join _
  rw [removed, hids, remove]
  simp [OpenToConnectTags.Lists]

/-- The entry has stayed, or was removed or written again for these activities. -/
def Updated (entry entry' : IndexEntry) (activityIds : List ActivityId) : Prop :=
  entry' = entry ∨ entry' = entry.removed ∨
    ∃ tags : OpenToConnectTags, tags.activityIds = activityIds ∧ entry' = entry.sync tags

variable {entry' : IndexEntry}

theorem eq_of_activity_iff (honline : entry.online = entry'.online)
    (hhash : entry.hash = entry'.hash)
    (hactivity : ∀ id, entry.activity id = true ↔ entry'.activity id = true) :
    entry = entry' := by
  obtain ⟨online, hash, activity⟩ := entry
  obtain ⟨online', hash', activity'⟩ := entry'
  cases honline
  cases hhash
  rw [show activity = activity' from funext fun id => Bool.eq_iff_iff.mpr (hactivity id)]

/-- Only an entry that showed the tags before shows them as it did. -/
theorem Updated.sync_eq_iff (h : entry.Updated entry' tags.activityIds) :
    entry'.sync tags = entry ↔ entry.Shows tags := by
  refine ⟨fun heq => heq ▸ sync_shows, fun hshows => ?_⟩
  refine eq_of_activity_iff hshows.online.symm hshows.hash.symm fun id => ?_
  have hshown : tags.Lists id → entry.activity id = true := by
    rintro ⟨a, ha, rfl⟩
    exact hshows.activity a ha
  rw [sync_activity_eq_true_iff]
  rcases h with rfl | rfl | ⟨tags', hsame, rfl⟩
  · exact or_iff_right_of_imp hshown
  · rw [removed_activity_eq_true_iff hshows.hash]
    tauto
  · rw [sync_activity_eq_true_iff, OpenToConnectTags.lists_congr hsame]
    tauto

/-- Only an entry of nobody who had these activities is as it was once they are
written and removed. -/
theorem Updated.removed_eq_iff (h : entry.Updated entry' tags.activityIds) :
    (entry'.sync tags).removed = entry ↔
      entry.Absent ∧ ∀ a ∈ tags.activityIds, entry.activity a.val = false := by
  have hremoved {id : List Char} : (entry'.sync tags).removed.activity id = true ↔
      ¬ tags.Lists id ∧ entry'.activity id = true := by
    rw [removed_activity_eq_true_iff rfl, sync_activity_eq_true_iff]
    tauto
  constructor
  · intro heq
    rw [← heq]
    refine ⟨⟨rfl, rfl⟩, fun a ha => ?_⟩
    rw [← Bool.not_eq_true, hremoved]
    exact fun hactive => hactive.1 ⟨a, ha, rfl⟩
  · rintro ⟨habsent, hactivity⟩
    refine eq_of_activity_iff habsent.1.symm habsent.2.symm fun id => ?_
    have hidle (hid : entry.activity id = true) : ¬ tags.Lists id := by
      rintro ⟨a, ha, rfl⟩
      rw [hactivity a ha] at hid
      cases hid
    rw [hremoved]
    rcases h with rfl | rfl | ⟨tags', hsame, rfl⟩
    · exact and_iff_right_of_imp hidle
    · rw [removed_eq_self_iff.mpr habsent]
      exact and_iff_right_of_imp hidle
    · rw [sync_activity_eq_true_iff, OpenToConnectTags.lists_congr hsame]
      tauto

end IndexEntry

/-! ### What the writes make of an account -/

section Writes

variable [Host] (env : Env) (body : EnableOpenToConnectBody)

/-- `validateSelectionsAgainstCatalog`, with the rows that it reads. -/
def validSelections (input : List ActivitySelectionInput) :
    Except ActivitySelectionValidationError (List ValidatedActivitySelection) :=
  let options : SelectionOptions :=
    { context := .matchPrep, matchIntent := some .quick
      maxCount := some maxMatchPrepActivitySelections }
  match validateSelectionCount input options with
  | .error error => .error error
  | .ok _ => validateFrom
      (env.catalog.filter fun row => (input.map (·.activityId)).contains row.id) options 0 input

/-- The activities that the body asks for, if it does. -/
def requestedActivities : Option (List ValidatedActivitySelection) :=
  body.activitySelections.bind fun input => (validSelections env input).toOption

namespace Account

variable (account : Account)

/-- The user has a profile. -/
def ensured : Account :=
  match account.profile with
  | some _ => account
  | none => { account with
      profile := some { id := env.newProfileId, status := some (initialStatus env) } }

/-- The user has the activities of the body. -/
def selected : Account :=
  match requestedActivities env body with
  | none => account
  | some activities => account.mapStatus (·.map ({ · with activities }))

/-- The user is open. -/
def opened : Account :=
  account.mapStatus fun status => some (openState env
    { openToConnect := true, source := some body.source, headline := body.trimmedHeadline }
    (status.getD {}))

def tags : Option OpenToConnectTags :=
  account.row.bind fun row =>
    if row.1.isGuest then none else some (tagsOf env env.user row.1.interestIds row.2 row.1)

def shown : Account :=
  match account.tags env with
  | none => account
  | some tags => { account with index := account.index.sync tags }

def removed : Account := { account with index := account.index.removed }

def paused : Account := account.mapStatus (·.map ({ · with openToConnectPausedForRoom := true }))

/-- All that is written to the database for an account that is in no room. -/
def requested : Account := ((account.ensured env).selected env body).opened env body

end Account

/-! ### How far a call gets -/

/-- The last write of a call that throws. -/
inductive LastWrite
  | nothing
  | profile
  | activities
  | status
  | rolledBack
  | indexed
  | paused
  | removed
  deriving DecidableEq

/-- The account after the writes up to this one. -/
def LastWrite.after (account : Account) : LastWrite → Account
  | .nothing => account
  | .profile => account.ensured env
  | .activities => (account.ensured env).selected env body
  | .status => account.requested env body
  | .rolledBack => (account.requested env body).removed
  | .indexed => (account.requested env body).shown env
  | .paused => ((account.requested env body).shown env).paused
  | .removed => ((account.requested env body).shown env).paused.removed

def failsProfile (account : Account) : Bool :=
  env.fails .opening .findProfile ||
    account.profile.isNone &&
      (env.fails .opening .insertProfile || env.fails .opening .createInitialForProfile)

def failsSelections (account : Account) : Bool :=
  match body.activitySelections with
  | none => false
  | some input =>
      match validSelections env input with
      | .error _ => true
      | .ok _ => !input.isEmpty && env.fails .selecting .findActiveByIds ||
          env.fails .selecting .findByUserId ||
          account.row.isSome && env.fails .selecting .replaceActivities

def failsShowing (account : Account) : Bool :=
  env.fails .showing .findByUserId ||
    (account.tags env).isSome && (env.fails .showing .findUser ||
      env.fails .showing .listInterestIds || env.fails .showing .syncIndex)

def failsRemoving (phase : Phase) : Bool :=
  env.fails phase .hgetActivityIds || env.fails phase .removeIndex

/-- The call sees that the user is in a room. -/
def seesRoom (account : Account) : Bool :=
  !env.fails .opening .getActiveRtcRoom && account.activeRtcRoomId.isSome

def lastWrite (account : Account) : LastWrite :=
  if failsProfile env account then .nothing
  else if failsSelections env body (account.ensured env) then .profile
  else if env.fails .opening .findStatus || env.fails .opening .writeStatus then .activities
  else if env.fails .opening .refreshProfileSnapshot then .status
  else if failsShowing env (account.requested env body) then
    if failsRemoving env .rollback then .status else .rolledBack
  else if !seesRoom env account || env.fails .pausing .findByUserId ||
      env.fails .pausing .setPausedForRoom then .indexed
  else if failsRemoving env .pausing then .paused
  else .removed

end Writes

/-! ### Each step -/

section Steps

variable {env : Env} {body : EnableOpenToConnectBody} {account : Account} {phase : Phase}
  {c : Command}

theorem read_yields {α : Type} {f : Account → α} (h : env.fails phase c = false) :
    (read env phase c f).Yields account (f account) account := yields_attempt h

theorem read_throws {α : Type} {f : Account → α} (h : env.fails phase c = true) :
    (read env phase c f).Throws account (· = account) := throws_attempt h rfl

theorem write_yields {f : Account → Account} (h : env.fails phase c = false) :
    (write env phase c f).Yields account () (f account) := yields_attempt h

theorem write_throws {f : Account → Account} (h : env.fails phase c = true) :
    (write env phase c f).Throws account (· = account) := throws_attempt h rfl

@[simp] theorem row_mapStatus_map (f : StatusRow → StatusRow) :
    (account.mapStatus (·.map f)).row =
      account.row.map fun row => ({ row.1 with status := some (f row.2) }, f row.2) := by
  obtain ⟨_ | ⟨id, isGuest, interestIds, _ | row⟩, index, room⟩ := account <;> rfl

@[simp] theorem index_mapStatus (f : Option StatusRow → Option StatusRow) :
    (account.mapStatus f).index = account.index := rfl

/-- Without a row, there is nothing that could be replaced. -/
theorem mapStatus_map_of_row_none (hrow : account.row = none) (f : StatusRow → StatusRow) :
    account.mapStatus (·.map f) = account := by
  obtain ⟨_ | ⟨id, isGuest, interestIds, _ | row⟩, index, room⟩ := account
  · rfl
  · rfl
  · cases hrow

/-- A profile without a status is as good as none. -/
theorem getOrCreateProfile_throws (h : failsProfile env account = true) :
    (getOrCreateProfile env).Throws account account.Kept := by
  rw [getOrCreateProfile]
  cases hfind : env.fails .opening .findProfile with
  | true => exact (read_throws hfind).mono (fun v hv => hv ▸ .refl account) |>.bind
  | false =>
      rw [failsProfile, hfind, Bool.false_or, Bool.and_eq_true, Bool.or_eq_true,
        Option.isNone_iff_eq_none] at h
      obtain ⟨hnone, h⟩ := h
      refine (read_yields hfind).bind_throws ?_
      rw [if_neg (by simp [hnone])]
      cases hinsert : env.fails .opening .insertProfile with
      | true => exact (write_throws hinsert).mono (fun v hv => hv ▸ .refl account) |>.bind
      | false =>
          have hcreate := h.resolve_left (by simp [hinsert])
          refine (write_yields hinsert).bind_throws ((write_throws hcreate).mono fun v hv => ?_)
          subst hv
          exact ⟨by simp [Account.recorded, Account.row, hnone], rfl⟩

theorem getOrCreateProfile_yields (h : failsProfile env account = false) :
    (getOrCreateProfile env).Yields account () (account.ensured env) := by
  rw [failsProfile, Bool.or_eq_false_iff] at h
  rw [getOrCreateProfile]
  refine (read_yields h.1).bind ?_
  cases hprofile : account.profile with
  | some profile =>
      rw [if_pos Option.isSome_some, Account.ensured, hprofile]
      exact yields_pure
  | none =>
      rw [hprofile, Option.isNone_none, Bool.true_and, Bool.or_eq_false_iff] at h
      rw [if_neg (by simp), Account.ensured, hprofile]
      exact (write_yields h.2.1).bind (write_yields h.2.2)

theorem setOpenState_throws {data : OpenStateData}
    (h : (env.fails .opening .findStatus || env.fails .opening .writeStatus) = true) :
    (setOpenState env data).Throws account (· = account) := by
  rw [setOpenState]
  cases hfind : env.fails .opening .findStatus with
  | true => exact (read_throws hfind).bind
  | false =>
      rw [hfind, Bool.false_or] at h
      refine (read_yields hfind).bind_throws ?_
      split
      · exact write_throws h
      · exact write_throws h

theorem setOpenState_yields
    (h : (env.fails .opening .findStatus || env.fails .opening .writeStatus) = false) :
    (setOpenState env { openToConnect := true, source := some body.source
                        headline := body.trimmedHeadline }).Yields account ()
      (account.opened env body) := by
  rw [Bool.or_eq_false_iff] at h
  rw [setOpenState]
  refine (read_yields h.1).bind ?_
  have hwrite (f : Account → Account) (hf : f account = account.opened env body) :
      (write env .opening .writeStatus f).Yields account () (account.opened env body) :=
    hf ▸ write_yields h.2
  obtain ⟨_ | ⟨id, isGuest, interestIds, _ | row⟩, index, room⟩ := account
  · exact hwrite _ rfl
  · exact hwrite _ rfl
  · exact hwrite _ rfl

theorem removeUserFromIndex_throws (h : failsRemoving env phase = true) :
    (removeUserFromIndex env phase).Throws account (· = account) := by
  rw [removeUserFromIndex]
  cases hget : env.fails phase .hgetActivityIds with
  | true => exact (read_throws hget).bind
  | false =>
      rw [failsRemoving, hget, Bool.false_or] at h
      exact (read_yields hget).bind_throws (write_throws h)

theorem removeUserFromIndex_yields (h : failsRemoving env phase = false) :
    (removeUserFromIndex env phase).Yields account () account.removed := by
  rw [failsRemoving, Bool.or_eq_false_iff] at h
  exact (read_yields h.1).bind (write_yields h.2)

theorem getUserActiveRtcRoomId_yields (env : Env) (account : Account) :
    ∃ activeRtcRoomId : Option Text,
    activeRtcRoomId.isSome = seesRoom env account ∧
      (getUserActiveRtcRoomId env).Yields account activeRtcRoomId account := by
  cases hget : env.fails .opening .getActiveRtcRoom with
  | true =>
      refine ⟨none, by simp [seesRoom, hget], ?_⟩
      rw [getUserActiveRtcRoomId, read, command, hget]
      rfl
  | false =>
      exact ⟨account.activeRtcRoomId, by simp [seesRoom, hget], (read_yields hget).tryCatch⟩

/-- The row of an account that has just been opened. -/
def Account.Open (account : Account) (profile : Profile) (row : StatusRow) : Prop :=
  account.row = some (profile, row) ∧ row.openToConnect = true ∧
    row.openToConnectPausedForRoom = false

variable {profile : Profile} {row : StatusRow}

theorem Account.Open.tags_eq (h : account.Open profile row) :
    account.tags env = if profile.isGuest then none
      else some (tagsOf env env.user profile.interestIds row profile) := by
  rw [Account.tags, h.1]
  rfl

/-- The two reads that only a user who is shown needs. -/
def failsTags (env : Env) (phase : Phase) : Bool :=
  env.fails phase .findUser || env.fails phase .listInterestIds

theorem buildTagsForUser_throws (hopen : account.Open profile row)
    (h : env.fails phase .findByUserId = true ∨
      (account.tags env).isSome = true ∧ failsTags env phase = true) :
    (buildTagsForUser env phase).Throws account (· = account) := by
  rw [buildTagsForUser, findByUserId]
  cases hfind : env.fails phase .findByUserId with
  | true => exact (read_throws hfind).bind
  | false =>
      obtain ⟨hshown, htags⟩ := h.resolve_left (by simp [hfind])
      have hguest : profile.isGuest = false := by
        rw [hopen.tags_eq] at hshown
        by_contra hguest
        simp [hguest] at hshown
      refine (read_yields hfind).bind_throws ?_
      rw [hopen.1]
      dsimp only
      rw [tagsUnlessHidden, if_neg (by simp [hopen.2.1, hopen.2.2, hguest])]
      cases huser : env.fails phase .findUser with
      | true => exact (read_throws huser).bind
      | false =>
          rw [failsTags, huser, Bool.false_or] at htags
          exact (read_yields huser).bind_throws (read_throws htags).bind

theorem buildTagsForUser_yields (hopen : account.Open profile row)
    (hfind : env.fails phase .findByUserId = false)
    (h : (account.tags env).isSome = true → failsTags env phase = false) :
    (buildTagsForUser env phase).Yields account (account.tags env) account := by
  rw [buildTagsForUser, findByUserId]
  refine (read_yields hfind).bind ?_
  rw [hopen.tags_eq] at h ⊢
  rw [hopen.1]
  dsimp only
  rw [tagsUnlessHidden]
  cases hguest : profile.isGuest with
  | true =>
      rw [if_pos (by simp), if_pos rfl]
      exact yields_pure
  | false =>
      rw [hguest, failsTags, Bool.or_eq_false_iff] at h
      obtain ⟨huser, hinterests⟩ := h rfl
      rw [if_neg (by simp [hopen.2.1, hopen.2.2]), if_neg Bool.false_ne_true]
      exact (read_yields huser).bind ((read_yields hinterests).bind yields_pure)

/-- When the index cannot be written, its entry is removed if that can be done. -/
theorem showInIndex_throws (hopen : account.Open profile row)
    (h : failsShowing env account = true) :
    (showInIndex env).Throws account
      (· = if failsRemoving env .rollback then account else account.removed) := by
  rw [showInIndex]
  refine Throws.catch_throws (P := (· = account)) ?_ fun e v hv => ?_
  · rw [failsShowing, Bool.or_eq_true, Bool.and_eq_true, Bool.or_eq_true (_ || _)] at h
    by_cases htags : env.fails .showing .findByUserId = true ∨
        (account.tags env).isSome = true ∧ failsTags env .showing = true
    · exact (buildTagsForUser_throws hopen htags).bind
    · -- the tags are there, so that it was the index
      rw [not_or, not_and, Bool.not_eq_true, Bool.not_eq_true] at htags
      obtain ⟨hshown, hreads | hsync⟩ := h.resolve_left (by simp [htags.1])
      · exact absurd hreads (by rw [← failsTags, htags.2 hshown]; exact Bool.false_ne_true)
      · obtain ⟨tags, heq⟩ := Option.isSome_iff_exists.mp hshown
        have hbuild := buildTagsForUser_yields hopen htags.1 htags.2
        rw [heq] at hbuild
        exact hbuild.bind_throws (write_throws hsync)
  · subst hv
    split
    next hremove => exact (removeUserFromIndex_throws hremove).bind
    next hremove =>
      exact (removeUserFromIndex_yields (Bool.not_eq_true _ ▸ hremove)).bind_throws
        (throws_throw rfl)

theorem showInIndex_yields (hopen : account.Open profile row)
    (h : failsShowing env account = false) :
    (showInIndex env).Yields account () (account.shown env) := by
  rw [failsShowing, Bool.or_eq_false_iff] at h
  obtain ⟨hfind, hrest⟩ := h
  have hbuild := buildTagsForUser_yields hopen hfind fun hshown => by
    rw [hshown, Bool.true_and, Bool.or_eq_false_iff] at hrest
    exact hrest.1
  rw [showInIndex, Account.shown]
  refine Yields.tryCatch (hbuild.bind ?_)
  cases htags : account.tags env with
  | none => exact yields_pure
  | some tags =>
      rw [htags, Option.isSome_some, Bool.true_and, Bool.or_eq_false_iff] at hrest
      exact write_yields hrest.2

/-! ### In a room -/

/-- A call that sees the room does not end before the user is hidden again,
unless a step fails. -/
theorem pauseInRoom_throws {activeRtcRoomId : Option Text} (hopen : account.Open profile row)
    (hroom : activeRtcRoomId.isSome = true)
    (h : (env.fails .pausing .findByUserId || env.fails .pausing .setPausedForRoom) = true) :
    (pauseInRoom env activeRtcRoomId).Throws account (· = account) := by
  rw [pauseInRoom, if_pos hroom, pauseOpenToConnectForRoom, findByUserId]
  cases hfind : env.fails .pausing .findByUserId with
  | true => exact (read_throws hfind).bind
  | false =>
      rw [hfind, Bool.false_or] at h
      refine (read_yields hfind).bind_throws ?_
      rw [hopen.1]
      dsimp only
      rw [if_neg (by simp [hopen.2.1, hopen.2.2])]
      exact (write_throws h).bind

theorem pauseInRoom_throws_removing {activeRtcRoomId : Option Text}
    (hopen : account.Open profile row) (hroom : activeRtcRoomId.isSome = true)
    (h : (env.fails .pausing .findByUserId || env.fails .pausing .setPausedForRoom) = false)
    (hfails : failsRemoving env .pausing = true ∨
      env.fails .pausing .refreshProfileSnapshot = true) :
    (pauseInRoom env activeRtcRoomId).Throws account
      (· = if failsRemoving env .pausing then account.paused else account.paused.removed) := by
  rw [Bool.or_eq_false_iff] at h
  rw [pauseInRoom, if_pos hroom, pauseOpenToConnectForRoom, findByUserId]
  refine (read_yields h.1).bind_throws ?_
  rw [hopen.1]
  dsimp only
  rw [if_neg (by simp [hopen.2.1, hopen.2.2])]
  refine (write_yields h.2).bind_throws ?_
  split
  next hremove => exact (removeUserFromIndex_throws hremove).bind
  next hremove =>
    refine (removeUserFromIndex_yields (Bool.not_eq_true _ ▸ hremove)).bind_throws ?_
    exact write_throws (hfails.resolve_left hremove)

theorem pauseInRoom_yields {activeRtcRoomId : Option Text} (hopen : account.Open profile row)
    (hroom : activeRtcRoomId.isSome = true)
    (h : (env.fails .pausing .findByUserId || env.fails .pausing .setPausedForRoom) = false)
    (hremove : failsRemoving env .pausing = false)
    (hrefresh : env.fails .pausing .refreshProfileSnapshot = false) :
    (pauseInRoom env activeRtcRoomId).Yields account () account.paused.removed := by
  rw [Bool.or_eq_false_iff] at h
  rw [pauseInRoom, if_pos hroom, pauseOpenToConnectForRoom, findByUserId]
  refine (read_yields h.1).bind ?_
  rw [hopen.1]
  dsimp only
  rw [if_neg (by simp [hopen.2.1, hopen.2.2])]
  exact (write_yields h.2).bind ((removeUserFromIndex_yields hremove).bind (write_yields hrefresh))

theorem read_keeps {α : Type} {f : Account → α} : Keeps id (read env phase c f) :=
  Keeps.attempt fun _ => rfl

/-- The user is read, not written. -/
theorem getOpenToConnectMeService_keeps : Keeps id (getOpenToConnectMeService env) := by
  refine read_keeps.bind fun found => ?_
  rcases found with _ | ⟨profile, row⟩
  · exact .pure _
  · refine Keeps.bind ?_ fun visible => read_keeps.bind fun interestIds => .pure _
    rw [visibleInDiscovery]
    split
    · exact read_keeps
    · exact .pure _

end Steps

/-! ### Selections -/

section Selections

variable [Host] {env : Env} {body : EnableOpenToConnectBody} {account : Account}
  {input : List ActivitySelectionInput} {validated : List ValidatedActivitySelection}

/-- The options of `enableOpenToConnectService`. -/
abbrev openOptions : SelectionOptions :=
  { context := .matchPrep, matchIntent := some .quick
    maxCount := some maxMatchPrepActivitySelections }

theorem validateSelections_throws
    (h : (∃ error, validSelections env input = .error error) ∨
      input.isEmpty = false ∧ env.fails .selecting .findActiveByIds = true) :
    (validateSelectionsAgainstCatalog env input openOptions).Throws account (· = account) := by
  rw [validateSelectionsAgainstCatalog]
  rw [validSelections] at h
  cases hcount : validateSelectionCount input openOptions with
  | error error => exact throws_throw rfl
  | ok _ =>
      rw [hcount] at h
      rw [validateAgainst]
      cases hempty : input.isEmpty with
      | true =>
          rw [List.isEmpty_iff] at hempty
          subst hempty
          obtain ⟨error, herror⟩ := h.resolve_right (by simp)
          cases herror
      | false =>
          rw [if_neg Bool.false_ne_true]
          cases hfind : env.fails .selecting .findActiveByIds with
          | true => exact (read_throws hfind).bind
          | false =>
              obtain ⟨error, herror⟩ := h.resolve_right (by simp [hfind])
              refine (read_yields hfind).bind_throws ?_
              dsimp only at herror
              rw [herror]
              exact throws_throw rfl

theorem validateSelections_yields (hvalid : validSelections env input = .ok validated)
    (h : (!input.isEmpty && env.fails .selecting .findActiveByIds) = false) :
    (validateSelectionsAgainstCatalog env input openOptions).Yields account validated account := by
  rw [validateSelectionsAgainstCatalog]
  rw [validSelections] at hvalid
  cases hcount : validateSelectionCount input openOptions with
  | error error =>
      rw [hcount] at hvalid
      cases hvalid
  | ok _ =>
      rw [hcount] at hvalid
      rw [validateAgainst]
      cases hempty : input.isEmpty with
      | true =>
          rw [List.isEmpty_iff] at hempty
          subst hempty
          cases hvalid
          exact yields_pure
      | false =>
          rw [hempty, Bool.not_false, Bool.true_and] at h
          rw [if_neg Bool.false_ne_true]
          refine (read_yields h).bind ?_
          dsimp only at hvalid
          rw [hvalid]
          exact yields_pure

theorem selectActivities_throws (h : failsSelections env body account = true) :
    (selectActivities env body).Throws account (· = account) := by
  rw [failsSelections] at h
  rw [selectActivities]
  cases hselections : body.activitySelections with
  | none =>
      rw [hselections] at h
      cases h
  | some input =>
      rw [hselections] at h
      dsimp only at h ⊢
      cases hvalid : validSelections env input with
      | error error => exact (validateSelections_throws (.inl ⟨error, hvalid⟩)).bind
      | ok validated =>
          rw [hvalid] at h
          dsimp only at h
          cases hread : !input.isEmpty && env.fails .selecting .findActiveByIds with
          | true =>
              rw [Bool.and_eq_true, Bool.not_eq_true'] at hread
              exact (validateSelections_throws (.inr hread)).bind
          | false =>
              refine (validateSelections_yields hvalid hread).bind_throws ?_
              rw [hread, Bool.false_or] at h
              rw [findByUserId]
              cases hfind : env.fails .selecting .findByUserId with
              | true => exact (read_throws hfind).bind
              | false =>
                  rw [hfind, Bool.false_or, Bool.and_eq_true] at h
                  refine (read_yields hfind).bind_throws ?_
                  rw [if_pos h.1]
                  exact write_throws h.2

theorem selectActivities_yields (h : failsSelections env body account = false) :
    (selectActivities env body).Yields account () (account.selected env body) := by
  rw [failsSelections] at h
  rw [selectActivities, Account.selected, requestedActivities]
  cases hselections : body.activitySelections with
  | none => exact yields_pure
  | some input =>
      rw [hselections] at h
      dsimp only [Option.bind_some] at h ⊢
      cases hvalid : validSelections env input with
      | error error =>
          rw [hvalid] at h
          cases h
      | ok validated =>
          rw [hvalid] at h
          dsimp only at h
          rw [Bool.or_eq_false_iff, Bool.or_eq_false_iff] at h
          obtain ⟨⟨hread, hfind⟩, hreplace⟩ := h
          refine (validateSelections_yields hvalid hread).bind ?_
          refine (read_yields hfind).bind ?_
          dsimp only [Except.toOption]
          cases hrow : account.row with
          | none =>
              rw [if_neg (by simp), mapStatus_map_of_row_none hrow]
              exact yields_pure
          | some row =>
              rw [hrow, Option.isSome_some, Bool.true_and] at hreplace
              rw [if_pos Option.isSome_some]
              exact write_yields hreplace

end Selections

/-! ### The call -/

section LastSteps

variable {env : Env} {account : Account} {profile : Profile} {row : StatusRow}

/-- The last write of what comes behind the index. -/
def afterShowing (env : Env) (sees : Bool) (account : Account) : Account :=
  if !sees || env.fails .pausing .findByUserId || env.fails .pausing .setPausedForRoom then account
  else if failsRemoving env .pausing then account.paused
  else account.paused.removed

theorem getMe_ends (env : Env) (w : Account) : (getOpenToConnectMeService env).Throws w (· = w) ∨
    ∃ dto, (getOpenToConnectMeService env).Yields w dto w := getOpenToConnectMeService_keeps.ends w

theorem pauseInRoom_ends (env : Env) (room : Option Text) (hopen : account.Open profile row) :
    (pauseInRoom env room).Throws account (· = afterShowing env room.isSome account) ∨
      (pauseInRoom env room).Yields account () (afterShowing env room.isSome account) := by
  rw [afterShowing]
  cases hroom : room.isSome with
  | false =>
      rw [pauseInRoom, hroom, if_neg Bool.false_ne_true]
      exact .inr yields_pure
  | true =>
      rw [Bool.not_true, Bool.false_or]
      cases hpause : env.fails .pausing .findByUserId || env.fails .pausing .setPausedForRoom with
      | true =>
          rw [if_pos rfl]
          exact .inl (pauseInRoom_throws hopen hroom hpause)
      | false =>
          rw [if_neg Bool.false_ne_true]
          by_cases hfails : failsRemoving env .pausing = true ∨
              env.fails .pausing .refreshProfileSnapshot = true
          · exact .inl (pauseInRoom_throws_removing hopen hroom hpause hfails)
          · rw [not_or, Bool.not_eq_true, Bool.not_eq_true] at hfails
            rw [if_neg (by simp [hfails.1])]
            exact .inr (pauseInRoom_yields hopen hroom hpause hfails.1 hfails.2)

theorem pauseAndRead_ends (env : Env) (room : Option Text) (hopen : account.Open profile row) :
    (do pauseInRoom env room
        getOpenToConnectMeService env : OpenM OpenToConnectMeDto).Throws account
        (· = afterShowing env room.isSome account) ∨
      ∃ dto v, (do pauseInRoom env room
                   getOpenToConnectMeService env : OpenM OpenToConnectMeDto).Yields
        account dto v := by
  rcases pauseInRoom_ends env room hopen with h | h
  · exact .inl h.bind
  · rcases getMe_ends env (afterShowing env room.isSome account) with hme | ⟨dto, hme⟩
    · exact .inl (h.bind_throws hme)
    · exact .inr ⟨dto, _, h.bind hme⟩

theorem profile_ensured : (account.ensured env).profile.isSome = true := by
  cases h : account.profile <;> simp [Account.ensured, h]

theorem open_shown (h : account.Open profile row) : (account.shown env).Open profile row := by
  rw [Account.shown]
  split
  · exact h
  · exact h

end LastSteps

section Calls

variable [Host] {env : Env} {body : EnableOpenToConnectBody} {account v : Account}

theorem profile_selected :
    (account.selected env body).profile.isSome = account.profile.isSome := by
  rw [Account.selected]
  cases requestedActivities env body with
  | none => rfl
  | some activities => exact Option.isSome_map

/-- The profile is open once all of it has been written. -/
theorem open_requested (env : Env) (body : EnableOpenToConnectBody) (account : Account) :
    ∃ profile row, (account.requested env body).Open profile row := by
  have hprofile : ((account.ensured env).selected env body).profile.isSome = true :=
    profile_selected.trans profile_ensured
  obtain ⟨profile, hprofile⟩ := Option.isSome_iff_exists.mp hprofile
  rw [Account.requested, Account.opened, Account.mapStatus, hprofile]
  exact ⟨_, _, rfl, rfl, rfl⟩

theorem seesRoom_requested :
    seesRoom env (account.requested env body) = seesRoom env account := by
  have hselected : ((account.ensured env).selected env body).activeRtcRoomId =
      account.activeRtcRoomId := by
    rw [Account.selected, Account.ensured]
    cases account.profile <;> cases requestedActivities env body <;> rfl
  rw [seesRoom, seesRoom, ← hselected]
  rfl

/-- The writes behind the index in the cascade. -/
theorem after_afterShowing :
    ((if !seesRoom env account || env.fails .pausing .findByUserId ||
        env.fails .pausing .setPausedForRoom then LastWrite.indexed
      else if failsRemoving env .pausing then .paused else .removed).after env body account) =
      afterShowing env (seesRoom env account) ((account.requested env body).shown env) := by
  rw [afterShowing]
  split
  · rfl
  · split <;> rfl

/-- What a call that throws leaves is told by its last write. -/
theorem goOpen_ends (env : Env) (body : EnableOpenToConnectBody) (account : Account) :
    (goOpen env body).Throws account
        ((lastWrite env body account).after env body account).Kept ∨
      ∃ dto v, (goOpen env body).Yields account dto v := by
  obtain ⟨profile, row, hopen⟩ := open_requested env body account
  have hkept {u : Account} : ∀ v, v = u → u.Kept v := fun v hv => hv ▸ .refl u
  rw [goOpen, lastWrite]
  cases hprofile : failsProfile env account with
  | true => exact .inl (getOrCreateProfile_throws hprofile).bind
  | false =>
  have hcreated := getOrCreateProfile_yields hprofile
  rw [if_neg Bool.false_ne_true]
  cases hselect : failsSelections env body (account.ensured env) with
  | true =>
      exact .inl (hcreated.bind_throws ((selectActivities_throws hselect).mono hkept).bind)
  | false =>
  have hselected := selectActivities_yields hselect
  rw [if_neg Bool.false_ne_true]
  cases hset : env.fails .opening .findStatus || env.fails .opening .writeStatus with
  | true =>
      exact .inl (hcreated.bind_throws (hselected.bind_throws
        ((setOpenState_throws hset).mono hkept).bind))
  | false =>
  have hopened : (setOpenState env _).Yields ((account.ensured env).selected env body) ()
      (account.requested env body) := setOpenState_yields hset
  rw [if_neg Bool.false_ne_true]
  cases hrefresh : env.fails .opening .refreshProfileSnapshot with
  | true =>
      exact .inl (hcreated.bind_throws (hselected.bind_throws (hopened.bind_throws
        ((write_throws hrefresh).mono hkept).bind)))
  | false =>
  have hrefreshed : (refreshProfileSnapshotFromDatabase env .opening).Yields
      (account.requested env body) () (account.requested env body) := write_yields hrefresh
  obtain ⟨room, hroom, hread⟩ :=
    getUserActiveRtcRoomId_yields env (account.requested env body)
  rw [seesRoom_requested] at hroom
  rw [if_neg Bool.false_ne_true]
  cases hshow : failsShowing env (account.requested env body) with
  | true =>
      refine .inl (hcreated.bind_throws (hselected.bind_throws (hopened.bind_throws
        (hrefreshed.bind_throws (hread.bind_throws (Throws.bind ?_))))))
      refine (showInIndex_throws hopen hshow).mono fun v hv => ?_
      subst hv
      rw [if_pos rfl]
      split <;> exact .refl _
  | false =>
  have hshown := showInIndex_yields hopen hshow
  rw [if_neg Bool.false_ne_true, after_afterShowing, ← hroom]
  rcases pauseAndRead_ends env room (open_shown hopen) with h | ⟨dto, v, h⟩
  · exact .inl (hcreated.bind_throws (hselected.bind_throws (hopened.bind_throws
      (hrefreshed.bind_throws (hread.bind_throws (hshown.bind_throws (h.mono hkept)))))))
  · exact .inr ⟨dto, v, hcreated.bind (hselected.bind (hopened.bind
      (hrefreshed.bind (hread.bind (hshown.bind h)))))⟩

theorem goOpen_kept {e : OpenError} (h : (goOpen env body).exec account = (.error e, v)) :
    ((lastWrite env body account).after env body account).Kept v := by
  rcases goOpen_ends env body account with hthrows | ⟨dto, u, hyields⟩
  · exact hthrows.of_exec h
  · rw [hyields] at h
    cases h

end Calls

end Greetup.OpenToConnect.GoingOpen
