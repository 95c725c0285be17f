import Greetup.Interleaving.Licence

/-!
The snapshot of a profile that matching reads: a copy of what the database says
of the user, kept in Redis until it expires.

A mutation of the profile is a program of statements on the rows of the user,
each of which may depend on what the earlier ones have returned; at its end the
snapshot is made again. What the rows are, and which snapshot is made of them,
is left open.
-/

namespace Greetup.Profile

open Interleaving (Prog)

/-- A statement on the rows of a user, which returns what it has found. -/
abbrev RowsM (ρ : Type) := Prog (ρ → ρ) fun _ => ρ

structure ProfileWorld (υ ρ π : Type) where
  rows : υ → ρ
  /-- `user:profile:snapshot:{userId}` -/
  snapshot : υ → Option π

inductive SnapshotCmd (υ ρ π : Type)
  | statement (userId : υ) (f : ρ → ρ)
  | findProfileSnapshotForCache (userId : υ)
  | exists (userId : υ)
  | set (userId : υ) (snapshot : π)
  /-- `NX`: unless the key exists -/
  | setNX (userId : υ) (snapshot : π)
  | del (userId : υ)
  /-- The TTL of the key is over. -/
  | expire (userId : υ)

@[reducible] def SnapshotCmd.Reply {υ ρ π : Type} : SnapshotCmd υ ρ π → Type
  | .statement _ _ => ρ
  | .findProfileSnapshotForCache _ => Option π
  | .exists _ | .setNX _ _ => Bool
  | _ => Unit

section Model

variable {υ ρ π : Type}

section Exec

variable [DecidableEq υ] (ofRows : ρ → Option π)

/-- `ofRows` is the snapshot that is made of the rows of a user, if there is a
profile among them. -/
def execSnapshot : (c : SnapshotCmd υ ρ π) → ProfileWorld υ ρ π → c.Reply × ProfileWorld υ ρ π
  | .statement userId f, w =>
      (w.rows userId, { w with rows := Function.update w.rows userId (f (w.rows userId)) })
  | .findProfileSnapshotForCache userId, w => (ofRows (w.rows userId), w)
  | .exists userId, w => ((w.snapshot userId).isSome, w)
  | .set userId snapshot, w =>
      ((), { w with snapshot := Function.update w.snapshot userId (some snapshot) })
  | .setNX userId snapshot, w =>
      if (w.snapshot userId).isSome then (false, w)
      else (true, { w with snapshot := Function.update w.snapshot userId (some snapshot) })
  | .del userId, w => ((), { w with snapshot := Function.update w.snapshot userId none })
  | .expire userId, w => ((), { w with snapshot := Function.update w.snapshot userId none })

end Exec

abbrev SnapshotM (υ ρ π : Type) := Prog (SnapshotCmd υ ρ π) SnapshotCmd.Reply

abbrev issueSnapshot (c : SnapshotCmd υ ρ π) : SnapshotM υ ρ π c.Reply := Prog.perform c

def ensureProfileSnapshotCached (userId : υ) : SnapshotM υ ρ π Bool := do
  if ← issueSnapshot (.exists userId) then return true
  match ← issueSnapshot (.findProfileSnapshotForCache userId) with
  | none => return false
  | some profileSnapshot =>
      if ← issueSnapshot (.setNX userId profileSnapshot) then return true
      issueSnapshot (.exists userId)

def refreshProfileSnapshotFromDatabase (userId : υ) : SnapshotM υ ρ π Bool := do
  match ← issueSnapshot (.findProfileSnapshotForCache userId) with
  | none =>
      issueSnapshot (.del userId)
      return false
  | some profileSnapshot =>
      issueSnapshot (.set userId profileSnapshot)
      return true

/-! ### Mutations -/

/-- The statements of a mutation of the profile of `userId`. -/
def onRows (userId : υ) : RowsM ρ Unit → SnapshotM υ ρ π Unit
  | .done _ => .done ()
  | .call f k => .call (.statement userId f) fun r => onRows userId (k r)

def mutateProfile (userId : υ) (statements : RowsM ρ Unit) : SnapshotM υ ρ π Unit := do
  onRows userId statements
  let _ ← refreshProfileSnapshotFromDatabase userId

/-- What `saveMatchPrepService` writes, given what is written by each of the
repositories that it calls; a location and a session of the client need not be
given. -/
def saveMatchPrep (getOrCreateProfile replaceMatchPrepCurrentStatus upsertPreferences : ρ → ρ)
    (upsertLocation : Option (ρ → ρ)) (updateCompletionAndOnboarded : ρ → ρ → ρ)
    (recordSaveForClientSession : Option (ρ → ρ)) : RowsM ρ Unit := do
  let _ ← Prog.perform getOrCreateProfile
  let _ ← Prog.perform replaceMatchPrepCurrentStatus
  let _ ← Prog.perform upsertPreferences
  if let some location := upsertLocation then
    let _ ← Prog.perform location
  let stepsResult ← Prog.perform id
  let _ ← Prog.perform (updateCompletionAndOnboarded stepsResult)
  if let some record := recordSaveForClientSession then
    let _ ← Prog.perform record

/-- What `upgradeGuestUserOnSignup` writes; `statusRow` says whether the guest
has an open-to-connect status. -/
def upgradeGuestUser (updateUser markGuestConverted setOpenState logGuestTrialEvent : ρ → ρ)
    (statusRow : ρ → Bool) : RowsM ρ Unit := do
  let _ ← Prog.perform updateUser
  let _ ← Prog.perform markGuestConverted
  if statusRow (← Prog.perform id) then
    let _ ← Prog.perform setOpenState
  let _ ← Prog.perform logGuestTrialEvent

inductive SnapshotCall (υ ρ : Type)
  | mutate (userId : υ) (statements : RowsM ρ Unit)
  | ensure (userId : υ)
  | expire (userId : υ)

def SnapshotCall.program : SnapshotCall υ ρ → SnapshotM υ ρ π Unit
  | .mutate userId statements => mutateProfile userId statements
  | .ensure userId => (fun _ => ()) <$> ensureProfileSnapshotCached userId
  | .expire userId => issueSnapshot (.expire userId)

end Model

end Greetup.Profile
