import Greetup.OpenToConnect.LastWrite

/-!
What is left of a user who did not get open.

Nothing has changed for a call that throws just when the writes before the step
that fails had nothing to change: the profile is there, and open as the body asks
for, and the index shows it or does not have it. A search that the checks cancel
can have brought the user back from a room.
-/

namespace Greetup.OpenToConnect.GoingOpen

open Data Data.Throwing
open Matching (Host)

/-! ### The checks -/

section Checks

variable {env : Env} {w : Account} {phase : Phase}

def Account.unpaused (account : Account) : Account :=
  account.mapStatus (·.map ({ · with openToConnectPausedForRoom := false }))

/-- The account once the checks have been made. -/
def Account.checked (env : Env) (account : Account) : Account :=
  ((assertCanEnableOpenToConnect env).exec account).2

/-- A search that is cancelled brings a user back who was paused for a room. -/
structure Restores (env : Env) (w : Account) : Prop where
  searching : env.matchState ≠ .idle
  found : env.fails .restoring .findByUserId = false
  written : env.fails .restoring .setPausedForRoom = false
  paused : ∃ profile row, w.row = some (profile, row) ∧ row.openToConnectPausedForRoom = true

/-- A user who is brought back and not offered is taken from the index. -/
structure TakesOut (env : Env) (w : Account) : Prop extends Restores env w where
  refreshed : env.fails .restoring .refreshProfileSnapshot = false
  looked : env.fails .resyncing .findByUserId = false
  removed : failsRemoving env .resyncing = false

/-- What may have become of the entry of a user who was brought back. -/
structure Brought (env : Env) (w : Account) (entry : IndexEntry) : Prop where
  updated : ∀ profile row, w.row = some (profile, row) →
    w.index.Updated entry (row.activities.map (·.activityId))
  guest : ∀ profile row, w.row = some (profile, row) → profile.isGuest = true →
    entry = w.index ∧ ¬ TakesOut env w ∨ entry = w.index.removed ∧ TakesOut env w

/-- The tags of a user who is open, not paused and no guest. -/
def offeredTags (env : Env) (profile : Profile) (row : StatusRow) : Option OpenToConnectTags :=
  if !row.openToConnect || row.openToConnectPausedForRoom || profile.isGuest then none
  else some (tagsOf env env.user profile.interestIds row profile)

def Account.offered (env : Env) (account : Account) : Option OpenToConnectTags :=
  account.row.bind fun row => offeredTags env row.1 row.2

/-- One who is not offered is read only. -/
theorem buildTagsForUser_ends (env : Env) (phase : Phase) (w : Account) :
    (env.fails phase .findByUserId = true ∨ (w.offered env).isSome = true) ∧
        (buildTagsForUser env phase).Throws w (· = w) ∨
      env.fails phase .findByUserId = false ∧
        (buildTagsForUser env phase).Yields w (w.offered env) w := by
  rw [buildTagsForUser, findByUserId]
  cases hfind : env.fails phase .findByUserId with
  | true => exact .inl ⟨.inl rfl, (read_throws hfind).bind⟩
  | false =>
  have hread : (read env phase .findByUserId Account.row).Yields w w.row w := read_yields hfind
  rw [Account.offered]
  cases hrow : w.row with
  | none =>
      refine .inr ⟨rfl, hread.bind ?_⟩
      rw [hrow]
      exact yields_pure
  | some found =>
  obtain ⟨profile, row⟩ := found
  rw [hrow] at hread
  rw [Option.bind_some]
  have htags : (offeredTags env profile row).isSome = true ∧
        (tagsUnlessHidden env phase profile row).Throws w (· = w) ∨
      (tagsUnlessHidden env phase profile row).Yields w (offeredTags env profile row) w := by
    rw [tagsUnlessHidden, offeredTags]
    split
    · exact .inr yields_pure
    · cases huser : env.fails phase .findUser with
      | true => exact .inl ⟨rfl, (read_throws huser).bind⟩
      | false =>
          cases hids : env.fails phase .listInterestIds with
          | true => exact .inl ⟨rfl, (read_yields huser).bind_throws (read_throws hids).bind⟩
          | false => exact .inr ((read_yields huser).bind ((read_yields hids).bind yields_pure))
  rcases htags with ⟨hoffered, hthrows⟩ | hyields
  · exact .inl ⟨.inr hoffered, hread.bind_throws hthrows⟩
  · exact .inr ⟨rfl, hread.bind hyields⟩

theorem removeUserFromIndex_exec (env : Env) (phase : Phase) (w : Account) :
    ((removeUserFromIndex env phase).exec w).2 =
      if failsRemoving env phase then w else w.removed := by
  cases h : failsRemoving env phase with
  | true => exact (removeUserFromIndex_throws h).snd_exec
  | false => exact (removeUserFromIndex_yields h).snd_exec

/-- The entry stays, or it is removed or written for these tags. -/
def Account.Resynced (w : Account) (offered : Option OpenToConnectTags) (v : Account) : Prop :=
  v = w ∨ v = w.removed ∨ ∃ tags, offered = some tags ∧ v = { w with index := w.index.sync tags }

theorem resynced_syncOrRemove (env : Env) (phase : Phase) (w : Account)
    (tags : Option OpenToConnectTags) :
    w.Resynced tags ((syncOrRemove env phase tags).exec w).2 := by
  have hremove : w.Resynced tags ((removeUserFromIndex env phase).exec w).2 := by
    rw [removeUserFromIndex_exec]
    split
    · exact .inl rfl
    · exact .inr (.inl rfl)
  cases tags with
  | none => exact hremove
  | some tags =>
      cases honline : env.fails phase .isUserOnline with
      | true =>
          have hread : (isUserOnline env phase).Throws w (· = w) := read_throws honline
          exact .inl hread.bind.snd_exec
      | false =>
          have hread : (isUserOnline env phase).Yields w (env.online phase) w :=
            read_yields honline
          rw [syncOrRemove, hread.exec_bind]
          split
          · cases hsync : env.fails phase .syncIndex with
            | true =>
                have hwrite : (syncUserToIndex env phase tags).Throws w (· = w) :=
                  write_throws hsync
                exact .inl hwrite.snd_exec
            | false =>
                have hwrite : (syncUserToIndex env phase tags).Yields w () _ := write_yields hsync
                exact .inr (.inr ⟨tags, rfl, hwrite.snd_exec⟩)
          · exact hremove

/-- What is thrown is only logged. -/
theorem syncOpenToConnectIndexIfEnabled_exec (env : Env) (phase : Phase) (w : Account) :
    ((syncOpenToConnectIndexIfEnabled env phase).exec w).2 =
      ((do syncOrRemove env phase (← buildTagsForUser env phase) : OpenM Unit).exec w).2 := by
  rw [syncOpenToConnectIndexIfEnabled, exec_tryCatch]
  rcases Throwing.exec _ w with ⟨_ | _, v⟩ <;> rfl

theorem resynced (env : Env) (phase : Phase) (w : Account) :
    w.Resynced (w.offered env) ((syncOpenToConnectIndexIfEnabled env phase).exec w).2 := by
  rw [syncOpenToConnectIndexIfEnabled_exec]
  rcases buildTagsForUser_ends env phase w with ⟨-, h⟩ | ⟨-, h⟩
  · exact .inl h.bind.snd_exec
  · rw [h.exec_bind]
    exact resynced_syncOrRemove env phase w _

theorem resynced_of_not_offered (env : Env) (phase : Phase) (h : w.offered env = none) :
    ((syncOpenToConnectIndexIfEnabled env phase).exec w).2 =
      if env.fails phase .findByUserId || failsRemoving env phase then w else w.removed := by
  rw [syncOpenToConnectIndexIfEnabled_exec]
  rcases buildTagsForUser_ends env phase w with ⟨hfails, hthrows⟩ | ⟨hfind, hyields⟩
  · rw [h, Option.isSome_none, or_iff_left Bool.false_ne_true] at hfails
    rw [hfails, Bool.true_or, if_pos rfl]
    exact hthrows.bind.snd_exec
  · rw [hyields.exec_bind, h, hfind, Bool.false_or]
    exact removeUserFromIndex_exec env phase w

theorem Account.Resynced.profile {tags : Option OpenToConnectTags} {v : Account}
    (h : w.Resynced tags v) : v.profile = w.profile := by
  rcases h with rfl | rfl | ⟨tags, -, rfl⟩ <;> rfl

/-- What the index is brought up to date with is the row as it was. -/
theorem Account.Resynced.updated {v : Account} {profile : Profile} {row : StatusRow}
    (h : w.Resynced (w.offered env) v) (hrow : w.row = some (profile, row)) :
    w.index.Updated v.index (row.activities.map (·.activityId)) := by
  rcases h with rfl | rfl | ⟨tags, htags, rfl⟩
  · exact .inl rfl
  · exact .inr (.inl rfl)
  · refine .inr (.inr ⟨tags, ?_, rfl⟩)
    rw [Account.offered, hrow, Option.bind_some, offeredTags] at htags
    split at htags
    · cases htags
    · cases htags
      rfl

theorem restore_ends (hsearching : env.matchState ≠ .idle) (h : ¬ Restores env w) :
    (restoreOpenToConnectAfterRoom env).Throws w (· = w) ∨
      (restoreOpenToConnectAfterRoom env).Yields w () w := by
  rw [restoreOpenToConnectAfterRoom, findByUserId]
  cases hfind : env.fails .restoring .findByUserId with
  | true => exact .inl (read_throws hfind).bind
  | false =>
  have hread : (read env .restoring .findByUserId Account.row).Yields w w.row w := read_yields hfind
  cases hrow : w.row with
  | none =>
      refine .inr (hread.bind ?_)
      rw [hrow]
      exact yields_pure
  | some found =>
  obtain ⟨profile, row⟩ := found
  rw [hrow] at hread
  cases hpaused : row.openToConnectPausedForRoom with
  | false =>
      refine .inr (hread.bind ?_)
      dsimp only
      rw [hpaused, if_neg Bool.false_ne_true]
      exact yields_pure
  | true =>
      have hset : env.fails .restoring .setPausedForRoom = true := by
        by_contra hset
        exact h ⟨hsearching, hfind, Bool.not_eq_true _ ▸ hset, profile, row, hrow, hpaused⟩
      refine .inl (hread.bind_throws ?_)
      dsimp only
      rw [hpaused, if_pos rfl]
      exact (write_throws hset).bind

/-- The row is unpaused before the index is looked at. -/
theorem restored_exec (h : Restores env w) :
    ((restoreOpenToConnectAfterRoom env).exec w).2 =
      if env.fails .restoring .refreshProfileSnapshot then w.unpaused
      else ((syncOpenToConnectIndexIfEnabled env .resyncing).exec w.unpaused).2 := by
  obtain ⟨-, hfind, hset, profile, row, hrow, hpaused⟩ := h
  have hread : (read env .restoring .findByUserId Account.row).Yields w w.row w := read_yields hfind
  rw [restoreOpenToConnectAfterRoom, findByUserId, hread.exec_bind, hrow]
  dsimp only
  rw [hpaused, if_pos rfl, setPausedForRoom, (write_yields hset).exec_bind]
  cases hrefresh : env.fails .restoring .refreshProfileSnapshot with
  | true =>
      have hthrows : (refreshProfileSnapshotFromDatabase env .restoring).Throws w.unpaused
          (· = w.unpaused) := write_throws hrefresh
      exact hthrows.bind.snd_exec
  | false =>
      have hwrite : (refreshProfileSnapshotFromDatabase env .restoring).Yields w.unpaused ()
          w.unpaused := write_yields hrefresh
      exact congrArg Prod.snd hwrite.exec_bind

theorem resynced_restored (h : Restores env w) :
    w.unpaused.Resynced (w.unpaused.offered env)
      ((restoreOpenToConnectAfterRoom env).exec w).2 := by
  rw [restored_exec h]
  split
  · exact .inl rfl
  · exact resynced env .resyncing w.unpaused

theorem row_unpaused {profile : Profile} {row : StatusRow} (h : w.row = some (profile, row)) :
    w.unpaused.row = some
      ({ profile with status := some { row with openToConnectPausedForRoom := false } },
        { row with openToConnectPausedForRoom := false }) := by
  rw [Account.unpaused, row_mapStatus_map, h]
  rfl

theorem brought_restored (h : Restores env w) :
    Brought env w ((restoreOpenToConnectAfterRoom env).exec w).2.index := by
  refine ⟨fun profile row hrow => ?_, fun profile row hrow hguest => ?_⟩
  · have hupdated := (resynced_restored h).updated (row_unpaused hrow)
    exact hupdated
  have hoffered : w.unpaused.offered env = none := by
    rw [Account.offered, row_unpaused hrow]
    simp [offeredTags, hguest]
  rw [restored_exec h, resynced_of_not_offered env .resyncing hoffered]
  split
  next hrefresh => exact .inl ⟨rfl, fun hout => by rw [hout.refreshed] at hrefresh; cases hrefresh⟩
  next hrefresh =>
    split
    next hfails =>
      refine .inl ⟨rfl, fun hout => ?_⟩
      rw [hout.looked, hout.removed] at hfails
      cases hfails
    next hworks =>
      rw [Bool.or_eq_true, not_or, Bool.not_eq_true, Bool.not_eq_true] at hworks
      exact .inr ⟨rfl, h, Bool.not_eq_true _ ▸ hrefresh, hworks.1, hworks.2⟩

/-- Whether or not the room could be forgotten. -/
theorem clear_exec (env : Env) (w : Account) :
    ∃ u : Account, u.profile = w.profile ∧ u.index = w.index ∧
    ((clearUserActiveRtcRoom env).exec w).1 = .ok () ∧
    ((clearUserActiveRtcRoom env).exec w).2 = ((restoreOpenToConnectAfterRoom env).exec u).2 := by
  have hrestore (u : Account) :
      (tryCatch (restoreOpenToConnectAfterRoom env) fun _ => pure ()).exec u =
        (.ok (), ((restoreOpenToConnectAfterRoom env).exec u).2) := by
    rw [exec_tryCatch]
    rcases (restoreOpenToConnectAfterRoom env).exec u with ⟨_ | _, v⟩ <;> rfl
  cases hdel : env.fails .restoring .delActiveRtcRoom with
  | true =>
      have hyields : (tryCatch (write env .restoring .delActiveRtcRoom
          ({ · with activeRtcRoomId := none })) fun _ => pure ()).Yields w () w := by
        rw [write, command, hdel]
        rfl
      refine ⟨w, rfl, rfl, ?_⟩
      rw [clearUserActiveRtcRoom, hyields.exec_bind, hrestore]
      exact ⟨rfl, rfl⟩
  | false =>
      have hyields : (tryCatch (write env .restoring .delActiveRtcRoom
          ({ · with activeRtcRoomId := none })) fun _ => pure ()).Yields w ()
          { w with activeRtcRoomId := none } := (write_yields hdel).tryCatch
      refine ⟨{ w with activeRtcRoomId := none }, rfl, rfl, ?_⟩
      rw [clearUserActiveRtcRoom, hyields.exec_bind, hrestore]
      exact ⟨rfl, rfl⟩

theorem assertOnline_keeps : Keeps id (assertOnline env) := by
  refine read_keeps.bind fun online => ?_
  split
  · exact .pure _
  · exact .throw _

theorem row_congr {u : Account} (h : u.profile = w.profile) : u.row = w.row := by
  rw [Account.row, Account.row, h]

theorem Restores.congr {u : Account} (h : u.profile = w.profile) :
    Restores env u ↔ Restores env w := by
  have hrow := row_congr h
  exact ⟨fun ⟨h, hfind, hset, hrow'⟩ => ⟨h, hfind, hset, hrow ▸ hrow'⟩,
    fun ⟨h, hfind, hset, hrow'⟩ => ⟨h, hfind, hset, hrow.symm ▸ hrow'⟩⟩

theorem TakesOut.congr {u : Account} (h : u.profile = w.profile) :
    TakesOut env u ↔ TakesOut env w :=
  ⟨fun ⟨hu, hrefresh, hfind, hremove⟩ => ⟨(Restores.congr h).mp hu, hrefresh, hfind, hremove⟩,
    fun ⟨hw, hrefresh, hfind, hremove⟩ => ⟨(Restores.congr h).mpr hw, hrefresh, hfind, hremove⟩⟩

theorem Brought.of_congr {u : Account} {entry : IndexEntry} (h : Brought env u entry)
    (hprofile : u.profile = w.profile) (hindex : u.index = w.index) : Brought env w entry := by
  have hrow := row_congr hprofile
  refine ⟨fun profile row hw => hindex ▸ h.updated profile row (hrow.trans hw),
    fun profile row hw hguest => ?_⟩
  rw [← hindex, ← TakesOut.congr hprofile]
  exact h.guest profile row (hrow.trans hw) hguest

theorem cancel_cases (hsearching : env.matchState ≠ .idle)
    (hpassed : ((do cancelMatchService env
                    assertOnline env : OpenM Unit).exec w).1 = .ok ()) :
    let v := ((do cancelMatchService env
                  assertOnline env : OpenM Unit).exec w).2
    ¬ Restores env w ∧ v.profile = w.profile ∧ v.index = w.index ∨
      Restores env w ∧ v.profile = w.unpaused.profile ∧ Brought env w v.index := by
  obtain ⟨u, hprofile, hindex, hok, hclear⟩ := clear_exec env w
  cases hcancel : env.fails .checking .cancelMatch with
  | true =>
      have hthrows : (do cancelMatchService env
                         assertOnline env : OpenM Unit).Throws w fun _ => True := by
        refine Throws.bind (Throws.bind ((write_throws hcancel).catch_throws fun e v hv => ?_))
        subst hv
        have hyields : (clearUserActiveRtcRoom env).Yields v () _ := Prod.ext hok rfl
        exact hyields.bind_throws (throws_throw trivial)
      obtain ⟨e, v, he, -⟩ := hthrows
      rw [he] at hpassed
      cases hpassed
  | false =>
      have hyields : (cancelMatchService env).Yields w ()
          ((restoreOpenToConnectAfterRoom env).exec u).2 := by
        have hcancelled : (tryCatch (write env .checking .cancelMatch id) fun error => do
            clearUserActiveRtcRoom env
            throw error).Yields w () w := (write_yields hcancel).tryCatch
        exact hcancelled.bind (Prod.ext hok hclear)
      intro v
      have hv : v = ((restoreOpenToConnectAfterRoom env).exec u).2 := by
        have hrun : (do cancelMatchService env
                        assertOnline env : OpenM Unit).exec w = (assertOnline env).exec _ :=
          hyields.exec_bind
        exact (congrArg Prod.snd hrun).trans (assertOnline_keeps _)
      have hrestores : Restores env u ↔ Restores env w := Restores.congr hprofile
      by_cases h : Restores env u
      · refine .inr ⟨hrestores.mp h, ?_, ?_⟩
        · rw [hv, (resynced_restored h).profile]
          exact congrArg (Option.map _) hprofile
        · rw [hv]
          exact (brought_restored h).of_congr hprofile hindex
      · refine .inl ⟨fun hw => h (hrestores.mpr hw), ?_⟩
        have hsame : v = u := by
          rw [hv]
          rcases restore_ends hsearching h with ⟨e, v, he, rfl⟩ | hu
          · rw [he]
          · rw [hu]
        rw [hsame]
        exact ⟨hprofile, hindex⟩

/-- The checks themselves change an account only where they restore it. -/
theorem checked_cases (hpassed : ((assertCanEnableOpenToConnect env).exec w).1 = .ok ()) :
    ¬ Restores env w ∧ (w.checked env).profile = w.profile ∧ (w.checked env).index = w.index ∨
      Restores env w ∧ (w.checked env).profile = w.unpaused.profile ∧
        Brought env w (w.checked env).index := by
  rw [Account.checked]
  rw [assertCanEnableOpenToConnect] at hpassed ⊢
  cases hstate : env.matchState with
  | idle =>
      refine .inl ⟨fun h => h.searching hstate, ?_⟩
      rw [show ((assertOnline env).exec w).2 = w from assertOnline_keeps w]
      exact ⟨rfl, rfl⟩
  | matched requestId roomId =>
      rw [hstate] at hpassed
      cases hpassed
  | searching requestId =>
      rw [hstate] at hpassed
      exact cancel_cases (by simp [hstate]) hpassed
  | proposed requestId peerUserId matchScore isFallbackMatch =>
      rw [hstate] at hpassed
      exact cancel_cases (by simp [hstate]) hpassed

end Checks

/-! ### What is recorded of an account -/

section Records

variable {env : Env} {body : EnableOpenToConnectBody} {w u : Account}

theorem ensured_of_isSome (h : w.profile.isSome = true) : w.ensured env = w := by
  obtain ⟨profile, h⟩ := Option.isSome_iff_exists.mp h
  rw [Account.ensured, h]

theorem recorded_mapStatus_map (f : StatusRow → StatusRow) :
    (w.mapStatus (·.map f)).recorded = w.row.map fun row => (f row.2).recorded := by
  rw [Account.recorded, row_mapStatus_map, Option.map_map]
  rfl

theorem recorded_eq_some {recorded : Recorded} :
    w.recorded = some recorded ↔ ∃ profile row, w.row = some (profile, row) ∧
      row.recorded = recorded := by
  rw [Account.recorded, Option.map_eq_some_iff]
  constructor
  · rintro ⟨⟨profile, row⟩, hrow, rfl⟩
    exact ⟨profile, row, hrow, rfl⟩
  · rintro ⟨profile, row, hrow, rfl⟩
    exact ⟨⟨profile, row⟩, hrow, rfl⟩

theorem profile_of_recorded {recorded : Recorded} (h : w.recorded = some recorded) :
    w.profile.isSome = true := by
  obtain ⟨profile, row, hrow, -⟩ := recorded_eq_some.mp h
  by_contra hnone
  rw [Option.not_isSome_iff_eq_none] at hnone
  rw [Account.row, hnone] at hrow
  cases hrow

theorem recorded_opened (h : w.profile.isSome = true) : (w.opened env body).recorded =
    some ⟨true, some body.source, body.trimmedHeadline, false,
      (w.recorded.map (·.activities)).getD []⟩ := by
  obtain ⟨_ | ⟨id, isGuest, interestIds, _ | row⟩, index, room⟩ := w
  · cases h
  · rfl
  · rfl

/-- One who is created is recorded. -/
theorem recorded_ensured_of_none (h : w.profile = none) :
    (w.ensured env).recorded = some (initialStatus env).recorded := by
  rw [Account.ensured, h]
  rfl

theorem tags_congr (h : u.profile = w.profile) : u.tags env = w.tags env := by
  rw [Account.tags, Account.tags, row_congr h]

theorem recorded_congr (h : u.profile = w.profile) : u.recorded = w.recorded := by
  rw [Account.recorded, Account.recorded, row_congr h]

theorem recorded_unpaused :
    w.unpaused.recorded = w.recorded.map ({ · with pausedForRoom := false }) := by
  rw [Account.unpaused, recorded_mapStatus_map, Account.recorded, Option.map_map]
  rfl

theorem recorded_paused :
    w.paused.recorded = w.recorded.map ({ · with pausedForRoom := true }) := by
  rw [Account.paused, recorded_mapStatus_map, Account.recorded, Option.map_map]
  rfl

theorem recorded_shown : (w.shown env).recorded = w.recorded := by
  rw [Account.shown]
  split <;> rfl

theorem index_shown : (w.shown env).index =
    ((w.tags env).elim w.index fun tags => w.index.sync tags) := by
  rw [Account.shown]
  cases w.tags env <;> rfl

theorem Restores.recorded (h : Restores env w) :
    ∃ recorded, w.recorded = some recorded ∧ recorded.pausedForRoom = true := by
  obtain ⟨profile, row, hrow, hpaused⟩ := h.paused
  exact ⟨row.recorded, recorded_eq_some.mpr ⟨profile, row, hrow, rfl⟩, hpaused⟩

/-- Nobody who was restored is still recorded as before. -/
theorem Restores.not_kept {recorded : Recorded} (h : Restores env w)
    (hu : u.recorded = some recorded) (hpaused : recorded.pausedForRoom = false) : ¬ w.Kept u := by
  rintro ⟨hstatus, -⟩
  obtain ⟨recorded', hw, hpaused'⟩ := h.recorded
  rw [hu, hw, Option.some_inj] at hstatus
  rw [hstatus, hpaused'] at hpaused
  cases hpaused

/-- What the checks have left, as far as it counts. -/
structure CheckedFrom (env : Env) (w u : Account) : Prop where
  profile : u.profile.isSome = w.profile.isSome
  activities : u.recorded.map (·.activities) = w.recorded.map (·.activities)
  same : ¬ Restores env w → u.profile = w.profile ∧ u.index = w.index
  restored : Restores env w → u.profile = w.unpaused.profile
  brought : Brought env w u.index

theorem checkedFrom (hpassed : ((assertCanEnableOpenToConnect env).exec w).1 = .ok ()) :
    CheckedFrom env w (w.checked env) := by
  rcases checked_cases hpassed with ⟨hnot, hprofile, hindex⟩ | ⟨hrestores, hprofile, hbrought⟩
  · refine ⟨by rw [hprofile], by rw [recorded_congr hprofile], fun _ => ⟨hprofile, hindex⟩,
      fun h => absurd h hnot, ?_⟩
    exact ⟨fun _ _ _ => .inl hindex, fun _ _ _ _ => .inl ⟨hindex, fun h => hnot h.toRestores⟩⟩
  · refine ⟨?_, ?_, fun h => absurd hrestores h, fun _ => hprofile, hbrought⟩
    · rw [hprofile]
      exact Option.isSome_map
    · rw [recorded_congr hprofile, recorded_unpaused, Option.map_map]
      rfl

namespace CheckedFrom

variable (h : CheckedFrom env w u)
include h

theorem recorded_restored (hrestores : Restores env w) :
    u.recorded = w.recorded.map ({ · with pausedForRoom := false }) :=
  (recorded_congr (h.restored hrestores)).trans recorded_unpaused

theorem kept_iff : w.Kept u ↔ ¬ Restores env w := by
  constructor
  · intro hkept hrestores
    obtain ⟨recorded, hw, -⟩ := hrestores.recorded
    have hu := h.recorded_restored hrestores
    rw [hw, Option.map_some] at hu
    exact hrestores.not_kept hu rfl hkept
  · intro hnot
    obtain ⟨hprofile, hindex⟩ := h.same hnot
    exact ⟨recorded_congr hprofile, hindex⟩

/-- Where no profile was, one is recorded as soon as it is created. -/
theorem profile_of_kept {v : Account} (hnone : u.profile = none → v.recorded.isSome = true)
    (hkept : w.Kept v) : w.profile.isSome = true := by
  by_contra hw
  have hu : u.profile = none := by
    rw [← h.profile, Option.not_isSome_iff_eq_none] at hw
    exact hw
  have hrecorded := hnone hu
  rw [hkept.status, Option.isSome_iff_exists] at hrecorded
  obtain ⟨recorded, hrecorded⟩ := hrecorded
  exact hw (profile_of_recorded hrecorded)

theorem kept_ensured_iff :
    w.Kept (u.ensured env) ↔ ¬ Restores env w ∧ w.profile.isSome = true := by
  constructor
  · intro hkept
    have hsome := h.profile_of_kept (fun hnone => by rw [recorded_ensured_of_none hnone]; rfl) hkept
    rw [ensured_of_isSome (h.profile.trans hsome)] at hkept
    exact ⟨h.kept_iff.mp hkept, hsome⟩
  · rintro ⟨hnot, hsome⟩
    rw [ensured_of_isSome (h.profile.trans hsome)]
    exact h.kept_iff.mpr hnot

end CheckedFrom

end Records

/-! ### What goes unnoticed -/

section Unnoticed

variable [Host] (env : Env) (body : EnableOpenToConnectBody) (w : Account)

/-- What the body asks for is what is recorded, in a row that is paused or not. -/
def AsRequested (pausedForRoom : Bool) : Prop :=
  ∃ activities, w.recorded =
      some ⟨true, some body.source, body.trimmedHeadline, pausedForRoom, activities⟩ ∧
    ∀ requested, requestedActivities env body = some requested → activities = requested

/-- The writes before the step that fails have nothing to change. -/
def Unnoticed : Prop :=
  match lastWrite env body (w.checked env) with
  | .nothing => ¬ Restores env w
  | .profile => ¬ Restores env w ∧ w.profile.isSome = true
  | .activities => ¬ Restores env w ∧ w.profile.isSome = true ∧
      ∀ recorded requested, w.recorded = some recorded →
        requestedActivities env body = some requested → recorded.activities = requested
  | .status => AsRequested env body w false
  | .rolledBack => AsRequested env body w false ∧ w.index.Absent
  | .indexed => AsRequested env body w false ∧
      ∀ tags, (w.requested env body).tags env = some tags → w.index.Shows tags
  | .paused => AsRequested env body w true ∧
      (∀ tags, (w.requested env body).tags env = some tags → w.index.Shows tags) ∧
      ((w.requested env body).tags env = none → TakesOut env w → w.index.Absent)
  | .removed => AsRequested env body w true ∧ w.index.Absent ∧
      ∀ tags, (w.requested env body).tags env = some tags →
        ∀ a ∈ tags.activityIds, w.index.activity a.val = false

variable {env body w} {u : Account}

theorem recorded_selected {recorded : Recorded} (h : w.recorded = some recorded) :
    (w.selected env body).recorded = some { recorded with
      activities := (requestedActivities env body).getD recorded.activities } := by
  obtain ⟨profile, row, hrow, rfl⟩ := recorded_eq_some.mp h
  rw [Account.selected]
  cases requestedActivities env body with
  | none => exact h
  | some activities =>
      dsimp only [Option.getD_some]
      rw [recorded_mapStatus_map, hrow]
      rfl

/-- What is recorded of an account that is open. -/
theorem recorded_requested (env : Env) (body : EnableOpenToConnectBody) (u : Account) :
    ∃ activities, (u.requested env body).recorded =
      some ⟨true, some body.source, body.trimmedHeadline, false, activities⟩ ∧
    ∀ recorded, u.recorded = some recorded →
      activities = (requestedActivities env body).getD recorded.activities := by
  refine ⟨_, recorded_opened (profile_selected.trans profile_ensured), fun recorded h => ?_⟩
  rw [ensured_of_isSome (profile_of_recorded h), recorded_selected h]
  rfl

/-- Opened, and paused or not, an account has the recorded activities unless it
is to have others. -/
theorem requested_eq_iff {pausedForRoom : Bool}
    (hu : u.recorded.map (·.activities) = w.recorded.map (·.activities)) :
    (u.requested env body).recorded.map (fun r => { r with pausedForRoom }) = w.recorded ↔
      AsRequested env body w pausedForRoom := by
  obtain ⟨activities, hrequested, hactivities⟩ := recorded_requested env body u
  rw [hrequested, Option.map_some]
  have hsame {recorded : Recorded} (hw : w.recorded = some recorded) :
      activities = (requestedActivities env body).getD recorded.activities := by
    rw [hw, Option.map_some, Option.map_eq_some_iff] at hu
    obtain ⟨recorded', hu', heq⟩ := hu
    rw [hactivities recorded' hu', heq]
  constructor
  · intro h
    refine ⟨activities, h.symm, fun requested hselections => ?_⟩
    rw [hsame h.symm, hselections, Option.getD_some]
  · rintro ⟨activities', hw, hrequested'⟩
    rw [hw, hsame hw]
    cases hselections : requestedActivities env body with
    | none => rfl
    | some requested => rw [Option.getD_some, hrequested' requested hselections]

theorem index_requested : (u.requested env body).index = u.index := by
  have hensured : (u.ensured env).index = u.index := by
    rw [Account.ensured]
    cases u.profile <;> rfl
  rw [← hensured, Account.requested, Account.opened, index_mapStatus, Account.selected]
  cases requestedActivities env body <;> rfl

/-- The room plays no part in what is offered. -/
theorem profile_requested_congr (h : u.profile = w.profile) :
    (u.requested env body).profile = (w.requested env body).profile := by
  have hensured : (u.ensured env).profile = (w.ensured env).profile := by
    rw [Account.ensured, Account.ensured, ← h]
    cases hprofile : u.profile with
    | none => rfl
    | some profile => exact h
  have hselected : ((u.ensured env).selected env body).profile =
      ((w.ensured env).selected env body).profile := by
    rw [Account.selected, Account.selected]
    cases requestedActivities env body with
    | none => exact hensured
    | some activities => exact congrArg (Option.map _) hensured
  exact congrArg (Option.map _) hselected

/-- Who is opened is unpaused anyway. -/
theorem profile_requested_unpaused :
    (w.unpaused.requested env body).profile = (w.requested env body).profile := by
  obtain ⟨_ | ⟨id, isGuest, interestIds, _ | row⟩, index, room⟩ := w
  · exact profile_requested_congr rfl
  · exact profile_requested_congr rfl
  · rw [Account.requested, Account.requested, Account.selected, Account.selected]
    cases requestedActivities env body <;> rfl

/-- A guest has no tags, and anybody else those of the activities there were. -/
theorem AsRequested.tags_cases {pausedForRoom : Bool} (h : AsRequested env body w pausedForRoom) :
    ∃ profile row, w.row = some (profile, row) ∧
      ((w.requested env body).tags env = none ∧ profile.isGuest = true ∨
        ∃ tags, (w.requested env body).tags env = some tags ∧
          tags.activityIds = row.activities.map (·.activityId)) := by
  obtain ⟨activities, hw, hrequested⟩ := h
  obtain ⟨profile, row, hrow, hrecorded⟩ := recorded_eq_some.mp hw
  have hactivities : row.activities = activities := congrArg Recorded.activities hrecorded
  have hsame (requested : List ValidatedActivitySelection)
      (h : requestedActivities env body = some requested) : row.activities = requested :=
    hactivities.trans (hrequested requested h)
  refine ⟨profile, row, hrow, ?_⟩
  obtain ⟨_ | ⟨id, isGuest, interestIds, _ | row'⟩, index, room⟩ := w
  · cases hrow
  · cases hrow
  · cases hrow
    rw [Account.requested, Account.selected]
    cases isGuest with
    | true => exact .inl ⟨by cases requestedActivities env body <;> rfl, rfl⟩
    | false =>
        cases hactive : requestedActivities env body with
        | none => exact .inr ⟨_, rfl, rfl⟩
        | some requested => exact .inr ⟨_, rfl, by rw [hsame requested hactive]; rfl⟩

theorem AsRequested.not_restores (h : AsRequested env body w false) : ¬ Restores env w := by
  intro hrestores
  obtain ⟨activities, hw, -⟩ := h
  exact hrestores.not_kept hw rfl (.refl w)

namespace CheckedFrom

variable (h : CheckedFrom env w u)
include h

theorem kept_selected_iff : w.Kept ((u.ensured env).selected env body) ↔
    ¬ Restores env w ∧ w.profile.isSome = true ∧
      ∀ recorded requested, w.recorded = some recorded →
        requestedActivities env body = some requested → recorded.activities = requested := by
  constructor
  · intro hkept
    have hsome := h.profile_of_kept (fun hnone => by
      rw [recorded_selected (recorded_ensured_of_none hnone)]; rfl) hkept
    rw [ensured_of_isSome (h.profile.trans hsome)] at hkept
    have hnot : ¬ Restores env w := by
      intro hrestores
      obtain ⟨recorded, hw, -⟩ := hrestores.recorded
      have hu := h.recorded_restored hrestores
      rw [hw, Option.map_some] at hu
      exact hrestores.not_kept (recorded_selected hu) rfl hkept
    refine ⟨hnot, hsome, fun recorded requested hw hrequested => ?_⟩
    have hu : u.recorded = some recorded := (recorded_congr (h.same hnot).1).trans hw
    have hstatus := hkept.status
    rw [recorded_selected hu, hw, hrequested, Option.getD_some, Option.some_inj] at hstatus
    exact (congrArg Recorded.activities hstatus).symm
  · rintro ⟨hnot, hsome, hactivities⟩
    obtain ⟨hprofile, hindex⟩ := h.same hnot
    have hu := recorded_congr hprofile
    rw [ensured_of_isSome (h.profile.trans hsome), Account.selected]
    cases hrequested : requestedActivities env body with
    | none => exact ⟨hu, hindex⟩
    | some requested =>
        refine ⟨?_, hindex⟩
        cases hw : w.recorded with
        | none =>
            rw [hw, Account.recorded, Option.map_eq_none_iff] at hu
            dsimp only
            rw [mapStatus_map_of_row_none hu, Account.recorded, hu]
            rfl
        | some recorded =>
            obtain rfl := hactivities recorded requested hw hrequested
            have hselected : (u.selected env body).recorded = _ := recorded_selected (hu.trans hw)
            rw [Account.selected, hrequested] at hselected
            exact hselected

theorem requested_recorded_iff :
    (u.requested env body).recorded = w.recorded ↔ AsRequested env body w false := by
  rw [← requested_eq_iff h.activities]
  obtain ⟨activities, hrequested, -⟩ := recorded_requested env body u
  rw [hrequested]
  rfl

theorem kept_requested_iff : w.Kept (u.requested env body) ↔ AsRequested env body w false := by
  constructor
  · exact fun hkept => h.requested_recorded_iff.mp hkept.status
  · intro hasked
    exact ⟨h.requested_recorded_iff.mpr hasked,
      index_requested.trans (h.same hasked.not_restores).2⟩

/-- The checks have no part in the tags that are written. -/
theorem tags_requested : (u.requested env body).tags env = (w.requested env body).tags env := by
  refine tags_congr ?_
  by_cases hrestores : Restores env w
  · exact (profile_requested_congr (h.restored hrestores)).trans profile_requested_unpaused
  · exact profile_requested_congr (h.same hrestores).1

theorem index_shown_requested : ((u.requested env body).shown env).index =
    ((w.requested env body).tags env).elim u.index fun tags => u.index.sync tags := by
  rw [index_shown, h.tags_requested, index_requested]

theorem kept_rolledBack_iff : w.Kept (u.requested env body).removed ↔
    AsRequested env body w false ∧ w.index.Absent := by
  refine Account.kept_iff_and h.requested_recorded_iff fun hasked => ?_
  rw [Account.removed, index_requested, (h.same hasked.not_restores).2]
  exact IndexEntry.removed_eq_self_iff

theorem kept_indexed_iff : w.Kept ((u.requested env body).shown env) ↔
    AsRequested env body w false ∧
      ∀ tags, (w.requested env body).tags env = some tags → w.index.Shows tags := by
  refine Account.kept_iff_and ?_ fun hasked => ?_
  · rw [recorded_shown]
    exact h.requested_recorded_iff
  rw [h.index_shown_requested, (h.same hasked.not_restores).2]
  cases (w.requested env body).tags env with
  | none => simp
  | some tags => simp [IndexEntry.sync_eq_self_iff]

theorem paused_recorded_iff : ((u.requested env body).shown env).paused.recorded = w.recorded ↔
    AsRequested env body w true := by
  rw [recorded_paused, recorded_shown]
  exact requested_eq_iff h.activities

theorem kept_paused_iff : w.Kept ((u.requested env body).shown env).paused ↔
    AsRequested env body w true ∧
      (∀ tags, (w.requested env body).tags env = some tags → w.index.Shows tags) ∧
      ((w.requested env body).tags env = none → TakesOut env w → w.index.Absent) := by
  refine Account.kept_iff_and h.paused_recorded_iff fun hasked => ?_
  rw [Account.paused, index_mapStatus, h.index_shown_requested]
  obtain ⟨profile, row, hrow, ⟨htags, hguest⟩ | ⟨tags, htags, hids⟩⟩ := hasked.tags_cases
  · rw [htags]
    rcases h.brought.guest profile row hrow hguest with ⟨hsame, hout⟩ | ⟨hremoved, hout⟩
    · simp [hsame, hout]
    · simp [hremoved, hout, IndexEntry.removed_eq_self_iff]
  · rw [htags, Option.elim_some,
      IndexEntry.Updated.sync_eq_iff (hids ▸ h.brought.updated profile row hrow)]
    simp

theorem kept_removed_iff : w.Kept ((u.requested env body).shown env).paused.removed ↔
    AsRequested env body w true ∧ w.index.Absent ∧
      ∀ tags, (w.requested env body).tags env = some tags →
        ∀ a ∈ tags.activityIds, w.index.activity a.val = false := by
  refine Account.kept_iff_and h.paused_recorded_iff fun hasked => ?_
  rw [Account.removed, Account.paused, index_mapStatus, h.index_shown_requested]
  obtain ⟨profile, row, hrow, ⟨htags, hguest⟩ | ⟨tags, htags, hids⟩⟩ := hasked.tags_cases
  · rw [htags, Option.elim_none]
    rcases h.brought.guest profile row hrow hguest with ⟨hsame, -⟩ | ⟨hremoved, -⟩
    · simp [hsame, IndexEntry.removed_eq_self_iff]
    · simp [hremoved, IndexEntry.removed_removed, IndexEntry.removed_eq_self_iff]
  · rw [htags, Option.elim_some,
      IndexEntry.Updated.removed_eq_iff (hids ▸ h.brought.updated profile row hrow)]
    simp

end CheckedFrom

/-- **Going open is all or nothing** just when the writes that come before the
step that fails have nothing to change. -/
theorem enableOpenToConnectService_kept_iff {e : OpenError} {v : Account}
    (hpassed : ((assertCanEnableOpenToConnect env).exec w).1 = .ok ())
    (hthrows : (enableOpenToConnectService env body).exec w = (.error e, v)) :
    w.Kept v ↔ Unnoticed env body w := by
  have h := checkedFrom hpassed
  have hchecked : (assertCanEnableOpenToConnect env).Yields w () (w.checked env) :=
    Prod.ext hpassed rfl
  rw [enableOpenToConnectService, hchecked.exec_bind] at hthrows
  rw [(goOpen_kept hthrows).congr, Unnoticed]
  cases lastWrite env body (w.checked env) with
  | nothing => exact h.kept_iff
  | profile => exact h.kept_ensured_iff
  | activities => exact h.kept_selected_iff
  | status => exact h.kept_requested_iff
  | rolledBack => exact h.kept_rolledBack_iff
  | indexed => exact h.kept_indexed_iff
  | paused => exact h.kept_paused_iff
  | removed => exact h.kept_removed_iff

end Unnoticed

namespace Sample

/-- A user who is not open. -/
def closedUser : Account where
  profile := some { id := ⟨"otis", by decide⟩, status := some { openToConnect := false } }

/-- The same one, open and not in the index. -/
def openUser : Account where
  profile := some {
    id := ⟨"otis", by decide⟩
    status := some { openToConnectSource := some .manual } }

/-- The index cannot be written, but for removals. -/
def noSync : Env where
  now := 5
  newProfileId := ⟨"dawn", by decide⟩
  fails phase c := phase = .showing && c = .syncIndex

/-- Only the index is rolled back: the user stays open. -/
theorem not_kept_closedUser :
    ¬ ∀ [Host] (env : Env) (body : EnableOpenToConnectBody) (w v : Account) (e : OpenError),
      ((assertCanEnableOpenToConnect env).exec w).1 = .ok () →
        (enableOpenToConnectService env body).exec w = (.error e, v) → w.Kept v := by
  intro h
  have hkept := @h (Host.exact .guestOnly) noSync {} closedUser _ serviceUnavailable rfl rfl
  exact absurd hkept.status (by decide)

/-- What is left of `openUser`. -/
def openedAgain : Account where
  profile := some {
    id := ⟨"otis", by decide⟩
    status := some { openToConnectSource := some .manual, openToConnectUpdatedAt := some 5 } }

/-- One who was open already has nothing to lose. -/
theorem kept_openedAgain : openUser.Kept openedAgain := by
  have hrun : (@enableOpenToConnectService (Host.exact .guestOnly) noSync {}).exec openUser =
      (.error serviceUnavailable, openedAgain) := rfl
  refine (@enableOpenToConnectService_kept_iff (Host.exact .guestOnly) noSync {} openUser _
    openedAgain rfl hrun).mpr ?_
  refine ⟨⟨[], rfl, fun requested hrequested => ?_⟩, rfl, rfl⟩
  cases hrequested

end Sample

end Greetup.OpenToConnect.GoingOpen
