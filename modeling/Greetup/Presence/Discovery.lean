import Greetup.Presence.OtcIndex
import Greetup.Interleaving.Sequence
import Mathlib.Data.List.TakeWhile

/-!
Who is discovered under an activity, and what those users offer.

A user is discovered who is in the set of the activity and has both hashes. What
the user offers is what the hash of the index has. A sync writes the hash anew
and leaves no set: the two agree as long as no sync gives up an activity in whose
set the user still is.
-/

namespace Greetup.Presence

open Matching (UserId trimChars isWhiteSpace)
open Interleaving Prog

/-! ### The activities in a hash -/

section Parsing

variable {cs id : List Char}

theorem dropWhile_of_forall (h : ∀ c ∈ cs, isWhiteSpace c = false) :
    cs.dropWhile isWhiteSpace = cs := by
  cases cs with
  | nil => rfl
  | cons c cs => simp [h c (List.mem_cons_self ..)]

theorem trimChars_of_forall (h : ∀ c ∈ cs, isWhiteSpace c = false) : trimChars cs = cs := by
  rw [trimChars, dropWhile_of_forall h, dropWhile_of_forall (by simpa using h),
    List.reverse_reverse]

/-- A character that is no white space keeps a string from being blank. -/
theorem trimChars_ne_nil {c : Char} (hc : c ∈ cs) (hspace : isWhiteSpace c = false) :
    trimChars cs ≠ [] := by
  intro hnil
  rw [trimChars, List.reverse_eq_nil_iff, List.dropWhile_eq_nil_iff] at hnil
  have hall : cs.dropWhile isWhiteSpace = [] := by
    by_contra hne
    have hhead := List.head_dropWhile_not isWhiteSpace hne
    rw [hnil _ (List.mem_reverse.mpr (List.head_mem hne))] at hhead
    cases hhead
  have := List.dropWhile_eq_nil_iff.mp hall c hc
  rw [hspace] at this
  cases this

theorem mem_joinActivityIds {a : ActivityId} {ids : List ActivityId} {c : Char} (hc : c ∈ a.val) :
    c ∈ joinActivityIds (a :: ids) := by
  cases ids with
  | nil => simpa [joinActivityIds] using hc
  | cons b ids =>
      simp only [joinActivityIds, List.map_cons, List.intercalate_cons_cons]
      exact List.mem_append_left _ (List.mem_append_left _ hc)

/-- What is stored of the activities is read back. -/
theorem parseActivityIdsFromHash_join (ids : List ActivityId) :
    parseActivityIdsFromHash (some (joinActivityIds ids)) = ids.map (·.val) := by
  cases ids with
  | nil => simp [parseActivityIdsFromHash, joinActivityIds, trimChars]
  | cons a ids =>
      have htrim : trimChars (joinActivityIds (a :: ids)) ≠ [] := by
        obtain ⟨c, hc⟩ := List.exists_mem_of_ne_nil _ a.2.1
        exact trimChars_ne_nil (mem_joinActivityIds hc) (a.2.2.2 c hc)
      have hsplit : (joinActivityIds (a :: ids)).splitOn ',' = (a :: ids).map (·.val) := by
        refine List.splitOn_intercalate _ ?_ (by simp)
        intro l hl
        obtain ⟨b, -, rfl⟩ := List.mem_map.mp hl
        exact b.2.2.1
      simp only [parseActivityIdsFromHash, if_neg htrim, hsplit, List.map_map]
      have hid : (trimChars ∘ fun b : ActivityId => b.val) = fun b => b.val :=
        funext fun b => trimChars_of_forall b.2.2.2
      rw [hid]
      refine List.filter_eq_self.mpr fun l hl => ?_
      obtain ⟨b, -, rfl⟩ := List.mem_map.mp hl
      exact decide_eq_true b.2.1

end Parsing

/-! ### The service, run alone -/

section Runs

variable {w : World} {userId v : UserId} {id : List Char}

theorem run_removeUserFromIndex :
    ((removeUserFromIndex userId).run exec w).2 =
      w.unindexUser userId
        (parseActivityIdsFromHash ((w.otcUser userId).map (·.activityIds))) := rfl

theorem run_syncUserToIndex (tags : OpenToConnectTags) :
    ((syncUserToIndex tags).run exec w).2 =
      w.indexUser tags.userId tags.activityIds.eraseDups := rfl

theorem run_refreshUserTtlIfIndexed :
    ((refreshUserTtlIfIndexed userId).run exec w).2 =
      if (w.otcUser userId).isSome then w.refreshIndexed userId else w := by
  unfold refreshUserTtlIfIndexed
  have hreply : (issue (.existsIndexed userId)).run exec w = ((w.otcUser userId).isSome, w) := rfl
  rw [run_bind, hreply]
  cases (w.otcUser userId).isSome <;> rfl

/-- The ones whose hashes are both there. -/
theorem mem_run_filterStillVisibleUserIds (userIds : List UserId) :
    v ∈ ((filterStillVisibleUserIds userIds).run exec w).1 ↔
      v ∈ userIds ∧ w.isUserOnline v = true ∧ (w.otcUser v).isSome = true := by
  have hzip : userIds.zip
      (userIds.map fun userId => (w.isUserOnline userId, (w.otcUser userId).isSome)) =
        userIds.map fun userId => (userId, w.isUserOnline userId, (w.otcUser userId).isSome) :=
    List.map_prod_left_eq_zip.symm
  unfold filterStillVisibleUserIds
  simp only [run_bind, run_perform, exec, pure_eq, run_done, hzip]
  simp only [List.mem_map, List.mem_filter, Bool.and_eq_true]
  constructor
  · rintro ⟨_, ⟨⟨userId, hmem, rfl⟩, hvisible⟩, rfl⟩
    exact ⟨hmem, hvisible⟩
  · rintro ⟨hmem, hvisible⟩
    exact ⟨_, ⟨⟨v, hmem, rfl⟩, hvisible⟩, rfl⟩

end Runs

/-! ### Calls one after the other -/

inductive IndexCall
  | syncUserToIndex (tags : OpenToConnectTags)
  | removeUserFromIndex (userId : UserId)
  | refreshUserTtlIfIndexed (userId : UserId)
  /-- `filterStillVisibleUserIds` of `listIndexedUserIds`, which removes the others. -/
  | discover (activityId : Option (List Char))
  | elapse (ms : ℕ)

def discover (activityId : Option (List Char)) : M (List UserId) := do
  filterStillVisibleUserIds (← listIndexedUserIds activityId)

namespace IndexCall

def prog : IndexCall → M Unit
  | .syncUserToIndex tags => Presence.syncUserToIndex tags
  | .removeUserFromIndex userId => Presence.removeUserFromIndex userId
  | .refreshUserTtlIfIndexed userId => Presence.refreshUserTtlIfIndexed userId
  | .discover activityId => do
      let _ ← Presence.discover activityId
  | .elapse ms => issue (.elapse ms)

def after (w : World) (c : IndexCall) : World := (c.prog.run exec w).2

/-- A sync gives up no activity in whose set the user is. -/
def Covers (w : World) : IndexCall → Prop
  | .syncUserToIndex tags =>
      ∀ a : ActivityId, tags.userId ∈ w.otcActivity a.val → a ∈ tags.activityIds
  | _ => True

end IndexCall

namespace World

/-- The users who are discovered under an activity are those who have both
hashes, and the activity in that of the index. -/
def ShowsOffers (w : World) : Prop :=
  ∀ (a : ActivityId) (userId : UserId), userId ∈ ((discover (some a.val)).run exec w).1 ↔
    w.isUserOnline userId = true ∧ ∃ hash, w.otcUser userId = some hash ∧
      a.val ∈ parseActivityIdsFromHash (some hash.activityIds)

/-- A user who has a hash is in the sets of the activities in it. -/
def Fits (w : World) : Prop :=
  ∀ (userId : UserId) (hash : OtcHash), w.otcUser userId = some hash → ∀ a : ActivityId,
    userId ∈ w.otcActivity a.val ↔ a.val ∈ parseActivityIdsFromHash (some hash.activityIds)

variable {w : World}

theorem mem_run_discover {a : ActivityId} {userId : UserId} :
    userId ∈ ((discover (some a.val)).run exec w).1 ↔
      userId ∈ w.otcActivity a.val ∧ w.isUserOnline userId = true ∧
        (w.otcUser userId).isSome = true :=
  mem_run_filterStillVisibleUserIds (w.otcActivity a.val)

theorem Fits.showsOffers (h : w.Fits) : w.ShowsOffers := by
  intro a userId
  rw [mem_run_discover]
  constructor
  · rintro ⟨hmem, honline, hsome⟩
    obtain ⟨hash, hhash⟩ := Option.isSome_iff_exists.mp hsome
    exact ⟨honline, hash, hhash, (h userId hash hhash a).mp hmem⟩
  · rintro ⟨honline, hash, hhash, ha⟩
    exact ⟨(h userId hash hhash a).mpr ha, honline, by simp [hhash]⟩

/-- Everybody has a presence hash. -/
def allOnline (userId : UserId) : PresenceHash :=
  { fields := (∅ : AList fun _ : IpField => SocketId).insert "" userId }

/-- Whoever is online: the sets fit the hashes. -/
theorem fits_iff : w.Fits ↔ ∀ presence, { w with presence }.ShowsOffers := by
  constructor
  · intro h presence
    have hfits : { w with presence }.Fits := h
    exact hfits.showsOffers
  · intro h userId hash hhash a
    have hshows := h allOnline a userId
    rw [mem_run_discover] at hshows
    have honline : { w with presence := allOnline }.isUserOnline userId = true := rfl
    constructor
    · intro hmem
      obtain ⟨-, hash', hhash', ha⟩ := hshows.mp ⟨hmem, honline, by simp [hhash]⟩
      rw [show w.otcUser userId = some hash' from hhash'] at hhash
      exact Option.some.inj hhash ▸ ha
    · intro ha
      exact (hshows.mpr ⟨honline, hash, hhash, ha⟩).1

/-! ### What the calls keep -/

theorem otcUser_unindexUser {userId : UserId} {ids : List (List Char)} :
    (w.unindexUser userId ids).otcUser = Function.update w.otcUser userId none := rfl

theorem otcUser_refreshIndexed {userId : UserId} :
    (w.refreshIndexed userId).otcUser = Function.update w.otcUser userId
      ((w.otcUser userId).map ({ · with expiresAt := w.now + openToConnectUserTtl })) := rfl

theorem otcUser_indexUser {userId : UserId} {ids : List ActivityId} :
    (w.indexUser userId ids).otcUser = Function.update w.otcUser userId
      (some ⟨joinActivityIds ids, w.now + openToConnectUserTtl⟩) := rfl

theorem Fits.unindexUser (h : w.Fits) (userId : UserId) (ids : List (List Char)) :
    (w.unindexUser userId ids).Fits := by
  intro v hash hhash a
  rw [otcUser_unindexUser] at hhash
  by_cases hv : v = userId
  · simp [hv] at hhash
  · rw [Function.update_of_ne hv] at hhash
    rw [← h v hash hhash a]
    simp only [World.unindexUser]
    split_ifs
    · simp [hv]
    · exact Iff.rfl

theorem Fits.refreshIndexed (h : w.Fits) (userId : UserId) : (w.refreshIndexed userId).Fits := by
  intro v hash hhash a
  rw [otcUser_refreshIndexed] at hhash
  by_cases hv : v = userId
  · subst hv
    rw [Function.update_self, Option.map_eq_some_iff] at hhash
    obtain ⟨old, hold, rfl⟩ := hhash
    exact h v old hold a
  · rw [Function.update_of_ne hv] at hhash
    exact h v hash hhash a

theorem Fits.elapse (h : w.Fits) (ms : ℕ) : (w.elapse ms).Fits := by
  intro v hash hhash a
  exact h v hash (Option.filter_eq_some_iff.mp hhash).1 a

theorem Fits.removeAllFromIndex (h : w.Fits) (userIds : List UserId) :
    ((removeAllFromIndex userIds).run exec w).2.Fits := by
  induction userIds generalizing w with
  | nil => exact h
  | cons userId userIds ih =>
      rw [Presence.removeAllFromIndex, run_bind, run_removeUserFromIndex]
      exact ih (h.unindexUser _ _)

theorem Fits.discover (h : w.Fits) (activityId : Option (List Char)) :
    ((discover activityId).run exec w).2.Fits := by
  have hforget : ∀ {w : World} (userIds : List UserId), w.Fits →
      ((forgetOffline userIds).run exec w).2.Fits := by
    intro w userIds hw
    unfold forgetOffline
    split_ifs <;> exact hw
  unfold Presence.discover Presence.filterStillVisibleUserIds Presence.listIndexedUserIds
  simp only [run_bind, run_perform, pure_eq, run_done]
  refine hforget _ (Fits.removeAllFromIndex ?_ _)
  cases activityId <;> exact h

theorem mem_otcActivity_indexUser {userId v : UserId} {ids : List ActivityId} {a : ActivityId} :
    v ∈ (w.indexUser userId ids).otcActivity a.val ↔
      v ∈ w.otcActivity a.val ∨ (v = userId ∧ a ∈ ids) := by
  have hmem : a.val ∈ ids.map (·.val) ↔ a ∈ ids :=
    List.mem_map_of_injective Subtype.val_injective
  simp only [World.indexUser, hmem]
  split_ifs with ha
  · simp [ha, or_comm]
  · simp [ha]

theorem fits_indexUser_iff (h : w.Fits) (userId : UserId) (ids : List ActivityId) :
    (w.indexUser userId ids).Fits ↔
      ∀ a : ActivityId, userId ∈ w.otcActivity a.val → a ∈ ids := by
  have hmem : ∀ a : ActivityId, a.val ∈ ids.map (·.val) ↔ a ∈ ids := fun a =>
    List.mem_map_of_injective Subtype.val_injective
  constructor
  · intro hfits a ha
    have hstored : (w.indexUser userId ids).otcUser userId =
        some ⟨joinActivityIds ids, w.now + openToConnectUserTtl⟩ := Function.update_self ..
    have := (hfits userId _ hstored a).mp (mem_otcActivity_indexUser.mpr (.inl ha))
    rw [parseActivityIdsFromHash_join] at this
    exact (hmem a).mp this
  · intro hcovers v hash hhash a
    rw [otcUser_indexUser] at hhash
    rw [mem_otcActivity_indexUser]
    by_cases hv : v = userId
    · subst hv
      rw [Function.update_self] at hhash
      obtain rfl := Option.some.inj hhash
      rw [parseActivityIdsFromHash_join, hmem]
      simp only [true_and]
      exact or_iff_right_of_imp (hcovers a)
    · rw [Function.update_of_ne hv] at hhash
      simp only [hv, false_and, or_false]
      exact h v hash hhash a

end World

theorem IndexCall.fits_after_iff {w : World} (h : w.Fits) (c : IndexCall) :
    (c.after w).Fits ↔ c.Covers w := by
  cases c with
  | syncUserToIndex tags =>
      simp only [after, prog, Covers, run_syncUserToIndex]
      rw [World.fits_indexUser_iff h]
      simp
  | removeUserFromIndex userId => exact iff_of_true (h.unindexUser _ _) trivial
  | refreshUserTtlIfIndexed userId =>
      simp only [after, prog, Covers, run_refreshUserTtlIfIndexed, iff_true]
      split_ifs
      · exact h.refreshIndexed userId
      · exact h
  | discover activityId =>
      simp only [after, prog, Covers, run_bind, pure_eq, run_done, iff_true]
      exact h.discover activityId
  | elapse ms => exact iff_of_true (h.elapse ms) trivial

/-- **Discovery shows what users offer.** Throughout a sequence of calls, and
whoever is online, the users discovered under an activity are those who offer it,
exactly when no sync gives up an activity in whose set the user is. -/
theorem showsOffers_always_iff {w : World} (hnone : ∀ userId, w.otcUser userId = none)
    (calls : List IndexCall) :
    Always IndexCall.after (fun w => ∀ presence, { w with presence }.ShowsOffers) w calls ↔
      EveryStep IndexCall.after (fun w c => c.Covers w) w calls := by
  have hfits : w.Fits := fun userId hash hhash => by simp [hnone] at hhash
  refine always_iff_everyStep (J := World.Fits) (fun w hw => World.fits_iff.mp hw)
    (fun w c hw hc => (c.fits_after_iff hw).mpr hc) (fun w c hw hc hshows => ?_) hfits
  exact hc ((c.fits_after_iff hw).mp (World.fits_iff.mpr hshows))

namespace Sample

def kay : UserId := ⟨"kay", by decide⟩

def chess : ActivityId := ⟨['c', 'h', 'e', 's', 's'], by simp, by simp, by simp [isWhiteSpace]⟩

def hiking : ActivityId := ⟨['h', 'i', 'k', 'e'], by simp, by simp, by simp [isWhiteSpace]⟩

/-- An activity is added, the hash expires, and the user is indexed again. -/
def added : List IndexCall :=
  [.syncUserToIndex ⟨kay, [chess]⟩, .syncUserToIndex ⟨kay, [hiking, chess]⟩,
    .elapse openToConnectUserTtl, .syncUserToIndex ⟨kay, [chess, hiking]⟩]

theorem covers_added : EveryStep IndexCall.after (fun w c => c.Covers w) {} added := by
  refine everyStep_cons.mpr ⟨fun a ha => ?_, everyStep_cons.mpr ⟨fun a ha => ?_,
    everyStep_cons.mpr ⟨trivial, everyStep_cons.mpr ⟨fun a ha => ?_, everyStep_nil⟩⟩⟩⟩
  · cases ha
  · rcases World.mem_otcActivity_indexUser.mp ha with ha | ⟨-, ha⟩
    · cases ha
    · simp_all
  · rcases World.mem_otcActivity_indexUser.mp ha with ha | ⟨-, ha⟩
    · rcases World.mem_otcActivity_indexUser.mp ha with ha | ⟨-, ha⟩
      · cases ha
      · simp_all
    · simp_all [or_comm]

theorem showsOffers_added :
    Always IndexCall.after (fun w => ∀ presence, { w with presence }.ShowsOffers) {} added :=
  (showsOffers_always_iff (fun _ => rfl) added).mpr covers_added

/-- Chess is given up for hiking. -/
def changed : List IndexCall :=
  [.syncUserToIndex ⟨kay, [chess]⟩, .syncUserToIndex ⟨kay, [hiking]⟩]

/-- The user is still discovered under chess. -/
theorem not_showsOffers_changed :
    ¬ ∀ calls, Always IndexCall.after (fun w => ∀ presence, { w with presence }.ShowsOffers) {}
      calls := by
  intro h
  have hshows := h changed changed List.prefix_rfl World.allOnline chess kay
  have hlisted : kay ∈ ((discover (some chess.val)).run exec
      { changed.foldl IndexCall.after {} with presence := World.allOnline }).1 := by decide +kernel
  obtain ⟨-, hash, hhash, hchess⟩ := hshows.mp hlisted
  have hstored : (({ changed.foldl IndexCall.after {} with
      presence := World.allOnline } : World).otcUser kay).map (·.activityIds) =
        some (joinActivityIds [hiking]) := by decide +kernel
  rw [hhash] at hstored
  have hids : hash.activityIds = joinActivityIds [hiking] := by simpa using hstored
  rw [hids, parseActivityIdsFromHash_join] at hchess
  revert hchess
  decide

end Sample

end Greetup.Presence
