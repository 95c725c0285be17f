import Greetup.Profile.SnapshotCache
import Greetup.Interleaving.Accounts
import Greetup.Interleaving.Overlap

/-!
When the snapshot settles on the rows.

Both writers of the snapshot read the rows first, and write what they have read
later. In between the rows may be changed by others. That does no harm as long
as another mutation is still under way, which will write the snapshot in its
turn.
-/

namespace Greetup.Profile

open Interleaving Prog

abbrev SnapshotTold (υ ρ π : Type) : Type := Told (SnapshotCmd υ ρ π) SnapshotCmd.Reply

abbrev SnapshotScene (ι υ ρ π : Type) : Type :=
  Scene ι (SnapshotCmd υ ρ π) SnapshotCmd.Reply (ProfileWorld υ ρ π)

abbrev SnapshotConf (ι υ ρ π : Type) : Type :=
  Conf ι (SnapshotCmd υ ρ π) SnapshotCmd.Reply Unit (ProfileWorld υ ρ π)

section Terms

variable {ι υ ρ π : Type}

/-- The key is absent, or holds the snapshot of the rows. -/
def ProfileWorld.Settled (ofRows : ρ → Option π) (userId : υ) (w : ProfileWorld υ ρ π) : Prop :=
  w.snapshot userId = none ∨ w.snapshot userId = ofRows (w.rows userId)

/-- It has written or removed the key. -/
def Written (userId : υ) (h : List (SnapshotTold υ ρ π)) : Prop :=
  (∃ snapshot, ⟨.set userId snapshot, ()⟩ ∈ h) ∨ ⟨.del userId, ()⟩ ∈ h

def SnapshotCall.Mutates (userId : υ) (call : SnapshotCall υ ρ) : Prop :=
  ∃ statements, call = .mutate userId statements

/-- What the rows of the user say, which a caller may have read. -/
def storedProfile [DecidableEq υ] [DecidableEq π] (ofRows : ρ → Option π) (userId : υ) :
    Datum (execSnapshot (υ := υ) ofRows) (Option π) :=
  .ofReads (fun w => ofRows (w.rows userId))
    (fun
      | ⟨.findProfileSnapshotForCache other, found⟩ => if other = userId then some found else none
      | _ => none)
    (fun
      | ⟨.statement other f, rows⟩ => other = userId && !decide (ofRows (f rows) = ofRows rows)
      | _ => false)
    (by
      intro c w found hfound
      cases c with
      | findProfileSnapshotForCache other =>
          obtain ⟨rfl, htold⟩ := Option.ite_none_right_eq_some.mp hfound
          exact Option.some.inj htold
      | _ => cases hfound)
    (by
      intro c w hsame
      cases c with
      | statement other f =>
          show ofRows (Function.update w.rows other _ userId) = _
          by_cases heq : other = userId
          · subst heq
            rw [Function.update_self]
            rw [Bool.and_eq_false_iff, Bool.not_eq_false'] at hsame
            exact of_decide_eq_true (hsame.resolve_left (by simp))
          · rw [Function.update_of_ne (Ne.symm heq)]
      | setNX other snapshot => rw [execSnapshot]; split <;> rfl
      | _ => rfl)

variable [DecidableEq ι] [DecidableEq υ] [DecidableEq π] (ofRows : ρ → Option π)
  (calls : ι → SnapshotCall υ ρ)

/-- A mutation is under way, and has not written the snapshot. -/
structure Pending (userId : υ) (j : ι) (s : SnapshotScene ι υ ρ π) : Prop where
  mutates : (calls j).Mutates userId
  begun : s.told j ≠ []
  unwritten : ¬ Written userId (s.told j)

/-- Whoever sets the key has read the rows since others have changed what they
say, or another mutation will write it. -/
def Timely (i : ι) (c : SnapshotCmd υ ρ π) (s : SnapshotScene ι υ ρ π) : Prop :=
  match c with
  | .set userId _ => (storedProfile ofRows userId).Overtaken i s.trace →
      ∃ j, j ≠ i ∧ Pending calls userId j s
  | .setNX userId _ => s.world.snapshot userId = none →
      (storedProfile ofRows userId).Overtaken i s.trace → ∃ j, j ≠ i ∧ Pending calls userId j s
  | _ => True

/-- All calls are to be made. -/
def snapshotCalls (w : ProfileWorld υ ρ π) : SnapshotConf ι υ ρ π where
  threads i := (calls i).program
  scene := ⟨w, []⟩

end Terms

/-! ### The order of a call -/

section Licences

variable {υ ρ π : Type} [DecidableEq υ] [DecidableEq π] {ofRows : ρ → Option π}
  {call : SnapshotCall υ ρ} {h : List (SnapshotTold υ ρ π)} {userId : υ}

def SnapshotCmd.isStatement : SnapshotCmd υ ρ π → Bool
  | .statement _ _ => true
  | _ => false

variable (ofRows) in
/-- A mutation writes to the rows of its user before it does anything else, and
the key is set to what its caller takes the rows for. -/
def Due (call : SnapshotCall υ ρ) (h : List (SnapshotTold υ ρ π)) : SnapshotCmd υ ρ π → Prop
  | .statement userId _ => call.Mutates userId ∧ ∀ e ∈ h, e.1.isStatement = true
  | .set userId snapshot | .setNX userId snapshot =>
      (storedProfile ofRows userId).believed h = some (some snapshot)
  | _ => True

def Completed (call : SnapshotCall υ ρ) (h : List (SnapshotTold υ ρ π)) : Prop :=
  ∀ userId, call.Mutates userId → Written userId h

theorem licensed_onRows (hcall : call.Mutates userId) (statements : RowsM ρ Unit)
    (hh : ∀ e ∈ h, e.1.isStatement = true) :
    (onRows userId statements).Licensed (execSnapshot ofRows) (Due ofRows call)
      (fun h' _ => ∀ e ∈ h', e.1.isStatement = true) h := by
  induction statements generalizing h with
  | done a => exact hh
  | call f k ih =>
      refine ⟨⟨hcall, hh⟩, fun w => ih _ ?_⟩
      exact List.forall_mem_cons.mpr ⟨rfl, hh⟩

theorem believed_find {found : Option π} :
    (storedProfile ofRows userId).believed (⟨.findProfileSnapshotForCache userId, found⟩ :: h) =
      some found :=
  (storedProfile ofRows userId).believed_cons_of_tells (if_pos rfl)

theorem licensed_refresh :
    (refreshProfileSnapshotFromDatabase userId).Licensed (execSnapshot ofRows) (Due ofRows call)
      (fun h' _ => Written userId h') h := by
  refine ⟨trivial, fun w => ?_⟩
  generalize (execSnapshot ofRows (.findProfileSnapshotForCache userId) w).1 = found
  cases found with
  | none => exact ⟨trivial, fun _ => .inr List.mem_cons_self⟩
  | some snapshot =>
      exact ⟨believed_find, fun _ => .inl ⟨snapshot, List.mem_cons_self⟩⟩

theorem licensed_mutateProfile (statements : RowsM ρ Unit) :
    (mutateProfile userId statements).Licensed (execSnapshot ofRows)
      (Due ofRows (.mutate userId statements))
      (fun h' _ => Completed (.mutate userId statements) h') [] := by
  refine (licensed_onRows ⟨statements, rfl⟩ statements (by simp)).bind fun h _ _ => ?_
  refine licensed_refresh.bind fun h' _ hw => ?_
  rintro userId ⟨other, heq⟩
  cases heq
  exact hw

theorem licensed_ensure :
    (ensureProfileSnapshotCached userId).Licensed (execSnapshot ofRows) (Due ofRows call)
      (fun _ _ => True) h := by
  refine ⟨trivial, fun w => ?_⟩
  generalize (execSnapshot ofRows (.exists userId) w).1 = cached
  cases cached with
  | true => trivial
  | false =>
      refine ⟨trivial, fun w₁ => ?_⟩
      generalize (execSnapshot ofRows (.findProfileSnapshotForCache userId) w₁).1 = found
      cases found with
      | none => trivial
      | some snapshot =>
          refine ⟨believed_find, fun w₂ => ?_⟩
          generalize (execSnapshot ofRows (.setNX userId snapshot) w₂).1 = set
          cases set with
          | true => trivial
          | false => exact ⟨trivial, fun _ => trivial⟩

theorem licensed_call (call : SnapshotCall υ ρ) :
    call.program.Licensed (execSnapshot ofRows) (Due ofRows call)
      (fun h' _ => Completed call h') [] := by
  cases call with
  | mutate userId statements => exact licensed_mutateProfile statements
  | ensure userId =>
      refine (Licensed.mono licensed_ensure fun h _ _ other hmutates => ?_).map
      obtain ⟨statements, heq⟩ := hmutates
      cases heq
  | expire userId =>
      refine ⟨trivial, fun w other hmutates => ?_⟩
      obtain ⟨statements, heq⟩ := hmutates
      cases heq

end Licences

/-! ### The invariant -/

section Invariant

variable {ι υ ρ π : Type} [DecidableEq ι] [DecidableEq υ]
  {ofRows : ρ → Option π} {calls : ι → SnapshotCall υ ρ} {s : SnapshotScene ι υ ρ π}
  {i j : ι} {c : SnapshotCmd υ ρ π}
  {userId : υ}

/-- The commands after which a mutation is not under way any more. -/
def SnapshotCmd.Writes (userId : υ) : SnapshotCmd υ ρ π → Prop
  | .set other _ | .del other => other = userId
  | _ => False

/-- What one caller does leaves another one pending. -/
theorem Pending.after (hp : Pending calls userId j s) (hij : i = j → ¬ c.Writes userId) :
    Pending calls userId j (s.after (execSnapshot ofRows) i c) where
  mutates := hp.mutates
  begun hnil := by
    have hsub := Scene.told_subset_after (i := i) (j := j) (c := c) (s := s) (execSnapshot ofRows)
    rw [hnil] at hsub
    exact hp.begun (List.subset_nil.mp hsub)
  unwritten hw := by
    refine hp.unwritten ?_
    rcases hw with ⟨snapshot, hw⟩ | hw
    · rcases (Scene.mem_told_after (execSnapshot ofRows)).mp hw with ⟨hij', heq⟩ | hw
      · rw [Sigma.mk.injEq] at heq
        obtain ⟨rfl, -⟩ := heq
        exact absurd rfl (hij hij')
      · exact .inl ⟨snapshot, hw⟩
    · rcases (Scene.mem_told_after (execSnapshot ofRows)).mp hw with ⟨hij', heq⟩ | hw
      · rw [Sigma.mk.injEq] at heq
        obtain ⟨rfl, -⟩ := heq
        exact absurd rfl (hij hij')
      · exact .inr hw

variable (ofRows calls userId) in
/-- The snapshot is settled, or a mutation will settle it. -/
def Settling (s : SnapshotScene ι υ ρ π) : Prop :=
  s.world.Settled ofRows userId ∨ ∃ j, Pending calls userId j s

/-- Nothing that concerns the user changes. -/
theorem Settling.after_of_eq (hs : Settling ofRows calls userId s)
    (hrows : (s.after (execSnapshot ofRows) i c).world.rows userId = s.world.rows userId)
    (hkey : (s.after (execSnapshot ofRows) i c).world.snapshot userId = s.world.snapshot userId)
    (hc : ¬ c.Writes userId) :
    Settling ofRows calls userId (s.after (execSnapshot ofRows) i c) := by
  rcases hs with hs | ⟨j, hp⟩
  · refine .inl ?_
    rw [ProfileWorld.Settled, hrows, hkey]
    exact hs
  · exact .inr ⟨j, hp.after fun _ => hc⟩

omit [DecidableEq υ] in
/-- A mutation that has only issued statements is under way. -/
theorem pending_of_statements (hmutates : (calls i).Mutates userId) (hbegun : s.told i ≠ [])
    (hall : ∀ e ∈ s.told i, e.1.isStatement = true) : Pending calls userId i s where
  mutates := hmutates
  begun := hbegun
  unwritten := by
    rintro (⟨snapshot, hw⟩ | hw)
    · cases hall _ hw
    · cases hall _ hw

variable [DecidableEq π]

/-- The key is set, by a caller that has read the rows. -/
theorem settling_write {snapshot : π} (hsound : (storedProfile ofRows userId).Sound s)
    (hbelieved : (storedProfile ofRows userId).believed (s.told i) = some (some snapshot))
    (ht : (storedProfile ofRows userId).Overtaken i s.trace →
      ∃ j, j ≠ i ∧ Pending calls userId j s)
    (hrows : (s.after (execSnapshot ofRows) i c).world.rows userId = s.world.rows userId)
    (hkey : (s.after (execSnapshot ofRows) i c).world.snapshot userId = some snapshot) :
    Settling ofRows calls userId (s.after (execSnapshot ofRows) i c) := by
  by_cases hover : (storedProfile ofRows userId).Overtaken i s.trace
  · obtain ⟨j, hji, hp⟩ := ht hover
    exact .inr ⟨j, hp.after fun hij => absurd hij.symm hji⟩
  · have hcurrent : ofRows (s.world.rows userId) = some snapshot := hsound i _ hbelieved hover
    refine .inl (.inr ?_)
    rw [hkey, hrows, hcurrent]

theorem Settling.after (hs : Settling ofRows calls userId s)
    (hsound : (storedProfile ofRows userId).Sound s) (hdue : Due ofRows (calls i) (s.told i) c)
    (ht : Timely ofRows calls i c s) :
    Settling ofRows calls userId (s.after (execSnapshot ofRows) i c) := by
  cases c with
  | statement other f =>
      by_cases heq : userId = other
      · subst heq
        refine .inr ⟨i, pending_of_statements hdue.1 ?_ ?_⟩
        · rw [Scene.told_after_self]
          exact List.cons_ne_nil _ _
        · rw [Scene.told_after_self]
          exact List.forall_mem_cons.mpr ⟨rfl, hdue.2⟩
      · exact hs.after_of_eq (Function.update_of_ne heq _ _) rfl not_false
  | findProfileSnapshotForCache other => exact hs.after_of_eq rfl rfl not_false
  | «exists» other => exact hs.after_of_eq rfl rfl not_false
  | set other snapshot =>
      by_cases heq : userId = other
      · subst heq
        exact settling_write hsound hdue ht rfl (Function.update_self _ _ _)
      · exact hs.after_of_eq rfl (Function.update_of_ne heq _ _) (Ne.symm heq)
  | setNX other snapshot =>
      cases hkey : (s.world.snapshot other).isSome with
      | true =>
          refine hs.after_of_eq ?_ ?_ not_false <;> simp [execSnapshot, hkey]
      | false =>
          by_cases heq : userId = other
          · subst heq
            rw [Option.isSome_eq_false_iff, Option.isNone_iff_eq_none] at hkey
            refine settling_write hsound hdue (ht hkey) ?_ ?_ <;> simp [execSnapshot, hkey]
          · refine hs.after_of_eq ?_ ?_ not_false <;> simp [execSnapshot, hkey, heq]
  | del other =>
      by_cases heq : userId = other
      · subst heq
        exact .inl (.inl (Function.update_self _ _ _))
      · exact hs.after_of_eq rfl (Function.update_of_ne heq _ _) (Ne.symm heq)
  | expire other =>
      by_cases heq : userId = other
      · subst heq
        exact .inl (.inl (Function.update_self _ _ _))
      · exact hs.after_of_eq rfl (Function.update_of_ne heq _ _) not_false

/-- **The snapshot settles**, if whoever sets the key has read the rows since
others have changed what they say, or leaves it to a mutation that is under
way. -/
theorem settled_of_timely {w : ProfileWorld υ ρ π} {sched : List ι}
    (hw : w.Settled ofRows userId)
    (hm : (snapshotCalls calls w).Meets (execSnapshot ofRows) (Timely ofRows calls) sched)
    (hrest : ((snapshotCalls calls w).runs (execSnapshot ofRows) sched).AtRest) :
    ((snapshotCalls calls w).runs (execSnapshot ofRows) sched).scene.world.Settled ofRows
      userId := by
  have hlic : (snapshotCalls calls w).Licensed (execSnapshot ofRows) (fun i => Due ofRows (calls i))
      fun i h _ => Completed (calls i) h := fun i => licensed_call (calls i)
  have hsettling := hlic.runs_inv
    (I := fun s => Settling ofRows calls userId s ∧ (storedProfile ofRows userId).Sound s)
    (fun _ i c hs hdue ht => ⟨hs.1.after hs.2 hdue ht, hs.2.after i c⟩)
    ⟨.inl hw, (storedProfile ofRows userId).sound_start w⟩ hm
  rcases hsettling.1 with hsettled | ⟨j, hp⟩
  · exact hsettled
  · rcases (hlic.runs sched).told_of_atRest hrest j with hnil | ⟨-, hdone⟩
    · exact absurd hnil hp.begun
    · exact absurd (hdone userId hp.mutates) hp.unwritten

end Invariant

namespace Sample

/-- The interests of a user, and whether the user is a guest. -/
abbrev Rows := ℕ × Bool

/-- A guest prepares for a match in one tab and signs up in the other. -/
def joining (preparing : Bool) : SnapshotCall Unit Rows :=
  .mutate () <|
    if preparing then
      saveMatchPrep id (fun rows => (1, rows.2)) id none (fun _ rows => rows) none
    else upgradeGuestUser id (fun rows => (rows.1, false)) id id fun _ => false

def guest : ProfileWorld Unit Rows Rows where
  rows _ := (0, true)
  snapshot _ := none

/-- The one has read the rows when the other writes them, and overwrites the
snapshot that the other has made: matching goes on to see a guest. -/
theorem not_settled_joining :
    guest.Settled some () ∧
      ((snapshotCalls joining guest).runs (execSnapshot some)
        [true, true, true, true, true, true, false, false, false, false, false, false,
          true]).AtRest ∧
      ¬ ((snapshotCalls joining guest).runs (execSnapshot some)
        [true, true, true, true, true, true, false, false, false, false, false, false,
          true]).scene.world.Settled some () := by
  refine ⟨.inl rfl, ?_, fun h => ?_⟩
  · intro preparing
    cases preparing with
    | true => exact .inl ⟨_, rfl⟩
    | false => exact .inl ⟨_, rfl⟩
  · rcases h with h | h
    · cases h
    · cases h

/-- A stale snapshot is written while the sign-up has still to write its own. -/
theorem settled_joining :
    ((snapshotCalls joining guest).runs (execSnapshot some)
      [true, true, true, true, true, true, false, false, false, false, true, false,
        false]).scene.world.Settled some () := by
  refine settled_of_timely (.inl rfl) ?_ ?_
  · simp only [Conf.meets_cons, Conf.meets_nil]
    refine ⟨trivial, trivial, trivial, trivial, trivial, trivial, trivial, trivial, trivial,
      trivial, fun _ => ⟨false, by decide, ?_⟩, trivial, fun hover => absurd hover (by decide),
      trivial⟩
    exact pending_of_statements ⟨_, rfl⟩ (List.cons_ne_nil _ _) (List.all_eq_true.mp rfl)
  · intro preparing
    cases preparing with
    | true => exact .inl ⟨_, rfl⟩
    | false => exact .inl ⟨_, rfl⟩

end Sample

end Greetup.Profile
