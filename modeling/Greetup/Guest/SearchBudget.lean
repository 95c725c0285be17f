import Greetup.Guest.Search
import Greetup.Interleaving.Accounts

/-!
How many searches of a guest reach the engine, and how many of them the status
knows of, whatever else the guest is doing at the same time.

Every search that reaches the engine has raised the counter on its way. Nothing
looks at the counter before it is raised, and a search that has raised it may
still be turned away.
-/

namespace Greetup.Guest.Search

open Interleaving
open Matching (Text Host trim)
open Rooms (UserId)

/-- The account of a guest; the ids of accounts are not blank. -/
structure GuestAccount where
  userId : UserId
  notBlank : trim userId.val ≠ ""

/-- What happens in one window: requests of the guest, and everything else. -/
inductive SearchTask
  | findMatch (requestId : Text)
  | elsewhere (change : Circumstances → Circumstances)

def SearchTask.program [Host] (account : GuestAccount) :
    SearchTask → SearchM (Option FindMatchResponse)
  | .findMatch requestId => some <$> handleFindMatch account.userId requestId
  | .elsewhere change => (fun _ => none) <$> Prog.perform (SearchCmd.elsewhere change)

abbrev SearchConf (ι : Type) : Type :=
  Conf ι SearchCmd SearchCmd.Reply (Option FindMatchResponse) SearchWorld

abbrev SearchScene (ι : Type) : Type := Scene ι SearchCmd SearchCmd.Reply SearchWorld

abbrev SearchTold : Type := Told SearchCmd SearchCmd.Reply

/-- The window before its first request. -/
def searches {ι : Type} [Host] (account : GuestAccount) (tasks : ι → SearchTask)
    (now : Circumstances) : SearchConf ι where
  threads i := (tasks i).program account
  scene := ⟨{ now }, []⟩

/-! ### What is counted -/

/-- The search is counted. -/
def counts : SearchTold → Bool
  | ⟨.call .incr, .ok _⟩ => true
  | _ => false

/-- The search reaches `findMatchService`. -/
def reaches : SearchTold → Bool
  | ⟨.call (.findMatch _), _⟩ => true
  | _ => false

/-- With this reply a search goes no further. -/
def turnsAway : SearchTold → Bool
  | ⟨.call (.findMatch _), _⟩ => false
  | ⟨.call .getMatchPrepCurrentService, .ok prep⟩ => (missingForSearch prep).isSome
  | ⟨.call _, .error _⟩ => true
  | _ => false

/-- The caller was turned away after it had been counted. -/
def Wasted : List SearchTold → Prop
  | [] => False
  | e :: h => turnsAway e = true ∧ 0 < h.countP counts ∨ Wasted h

def Call.isFindMatch : Call → Bool
  | .findMatch _ => true
  | _ => false

/-- If the call counts a search, there is one left. -/
def SearchWorld.Spares (w : SearchWorld) : SearchCmd → Prop
  | .call c => c = .incr → w.now.fault .incr = none → w.count < guestMatchSearchRetryLimit
  | .elsewhere _ => True

/-- The call would not turn a search away. -/
def SearchWorld.Admits (w : SearchWorld) : SearchCmd → Prop
  | .call c => c.isFindMatch = false → w.now.fault c = none ∧
      (c = .getMatchPrepCurrentService → missingForSearch w.now.prep = none)
  | .elsewhere _ => True

instance (w : SearchWorld) : DecidablePred w.Spares
  | .call _ => inferInstanceAs (Decidable (_ → _))
  | .elsewhere _ => isTrue trivial

instance (w : SearchWorld) : DecidablePred w.Admits
  | .call _ => inferInstanceAs (Decidable (_ → _))
  | .elsewhere _ => isTrue trivial

/-- A search is counted only while fewer than the limit have been, and one that
is counted is not turned away. -/
def Spared {ι : Type} [DecidableEq ι] (i : ι) (c : SearchCmd) (s : SearchScene ι) : Prop :=
  s.world.Spares c ∧ (0 < (s.told i).countP counts → s.world.Admits c)

instance {ι : Type} [DecidableEq ι] (i : ι) (c : SearchCmd) (s : SearchScene ι) :
    Decidable (Spared i c s) := inferInstanceAs (Decidable (_ ∧ _))

structure Budget {ι : Type} [DecidableEq ι] [Host] (account : GuestAccount)
    (conf : SearchConf ι) : Prop where
  few : conf.scene.count reaches ≤ guestMatchSearchRetryLimit
  counted : ∀ i, (∃ e ∈ conf.scene.told i, reaches e = true) →
    ∃ e ∈ conf.scene.told i, counts e = true
  /-- once no search is on its way -/
  reported : conf.AtRest → ∀ status,
    ((getGuestCallTrialStatus account.userId).run execSearch conf.scene.world).1 = .ok status →
      status.matchSearchAttemptsRemaining =
        some (guestMatchSearchRetryLimit - conf.scene.count reaches)

/-! ### One request -/

section Licence

variable {h h' : List SearchTold} {e : SearchTold} {α β : Type}

/-- What a search has to have been through before it reaches the engine. -/
def Due (h : List SearchTold) : SearchCmd → Prop
  | .call (.findMatch _) => h.countP reaches < h.countP counts
  | _ => True

/-- Counted as often as it has reached the engine, unless it was turned away. -/
def Settled (h : List SearchTold) : Prop :=
  Wasted h ∨ h.countP counts = h.countP reaches

structure Stands (n : ℕ) (h : List SearchTold) : Prop where
  counted : h.countP counts = n
  reached : h.countP reaches = 0

/-- A step that throws has settled the search; otherwise it has been counted `n`
times and has not reached the engine. -/
def Left (n : ℕ) (h : List SearchTold) : Except Thrown α → Prop
  | .error _ => Settled h
  | .ok _ => Stands n h

theorem Stands.settled (hs : Stands 0 h) : Settled h := .inr (hs.counted.trans hs.reached.symm)

theorem Stands.cons {n : ℕ} (hs : Stands n h) (hcounts : counts e = false)
    (hreaches : reaches e = false) : Stands n (e :: h) where
  counted := by
    rw [List.countP_cons_of_neg (by simp [hcounts])]
    exact hs.counted
  reached := by
    rw [List.countP_cons_of_neg (by simp [hreaches])]
    exact hs.reached

theorem Stands.counted_cons (hs : Stands 0 h) (hcounts : counts e = true)
    (hreaches : reaches e = false) : Stands 1 (e :: h) where
  counted := by rw [List.countP_cons_of_pos hcounts, hs.counted]
  reached := by
    rw [List.countP_cons_of_neg (by simp [hreaches])]
    exact hs.reached

theorem Stands.wasted (hs : Stands 1 h) (haway : turnsAway e = true) : Settled (e :: h) :=
  .inl (.inl ⟨haway, by rw [hs.counted]; exact Nat.one_pos⟩)

/-- Whoever is not counted yet may be turned away. -/
theorem Stands.settled_cons {n : ℕ} (hs : Stands n h) (hn : n ≤ 1) (hcounts : counts e = false)
    (hreaches : reaches e = false) (haway : turnsAway e = true) : Settled (e :: h) := by
  rcases Nat.le_one_iff_eq_zero_or_eq_one.mp hn with rfl | rfl
  · exact (hs.cons hcounts hreaches).settled
  · exact hs.wasted haway

theorem licensed_andThen {p : SearchM (Except Thrown α)} {f : α → SearchM (Except Thrown β)}
    {m n : ℕ} (hp : p.Licensed execSearch Due (Left m) h)
    (hf : ∀ h' a, Stands m h' → (f a).Licensed execSearch Due (Left n) h') :
    (andThen p f).Licensed execSearch Due (Left n) h := by
  refine hp.bind fun h' result hleft => ?_
  cases result with
  | error thrown => exact hleft
  | ok a => exact hf h' a hleft

/-- A call that neither counts the search nor reaches the engine. -/
theorem licensed_issueCall {c : Call} {n : ℕ} (hs : Stands n h) (hn : n ≤ 1)
    (hcounts : ∀ r, counts ⟨.call c, r⟩ = false) (hreaches : ∀ r, reaches ⟨.call c, r⟩ = false)
    (haway : ∀ thrown, turnsAway ⟨.call c, .error thrown⟩ = true) (hdue : Due h (.call c)) :
    (issueCall c).Licensed execSearch Due (Left n) h := by
  refine ⟨hdue, fun w => ?_⟩
  generalize (execSearch (.call c) w).1 = result
  cases result with
  | error thrown => exact hs.settled_cons hn (hcounts _) (hreaches _) (haway thrown)
  | ok a => exact hs.cons (hcounts _) (hreaches _)

/-! ### What a request goes through -/

variable {userId : UserId}

theorem licensed_throw {thrown : Thrown} {n : ℕ} (hs : Stands 0 h) :
    (Prog.done (.error thrown) : SearchM (Except Thrown α)).Licensed execSearch Due (Left n) h :=
  hs.settled

theorem licensed_expireIfFirst (hs : Stands 1 h) (next : ℕ) :
    (expireIfFirst next).Licensed execSearch Due (Left 1) h := by
  rw [expireIfFirst]
  split
  · exact licensed_andThen (licensed_issueCall hs le_rfl (fun _ => rfl) (fun _ => rfl)
      (fun _ => rfl) trivial) fun h' _ hs' => hs'
  · exact hs

/-- The search is counted, unless the counter cannot be raised. -/
theorem licensed_recordGuestMatchSearchAttempt (hs : Stands 0 h) (hblank : trim userId.val ≠ "") :
    (recordGuestMatchSearchAttempt userId).Licensed execSearch Due (Left 1) h := by
  rw [recordGuestMatchSearchAttempt, redisIncrementGuestMatchSearchCount, if_neg hblank]
  refine licensed_andThen (m := 1) ⟨trivial, fun w => ?_⟩ fun h' next hs' =>
    licensed_expireIfFirst hs' next
  generalize (execSearch (.call .incr) w).1 = result
  cases result with
  | error thrown => exact (hs.cons (e := ⟨.call .incr, .error thrown⟩) rfl rfl).settled
  | ok next => exact hs.counted_cons (e := ⟨.call .incr, .ok next⟩) rfl rfl

theorem licensed_recordSearch (hs : Stands 0 h) (hblank : trim userId.val ≠ "")
    (profile : GuestProfile) (snapshotReady : Bool) :
    (recordSearch userId profile snapshotReady).Licensed execSearch Due (Left 1) h := by
  rw [recordSearch]
  split
  · exact licensed_throw hs
  · exact licensed_andThen (licensed_recordGuestMatchSearchAttempt hs hblank) fun h' _ hs' =>
      licensed_issueCall hs' le_rfl (fun _ => rfl) (fun _ => rfl) (fun _ => rfl) trivial

theorem licensed_recordIfPrepared (hs : Stands 0 h) (hblank : trim userId.val ≠ "")
    (profile : GuestProfile) (prep : MatchPrep) :
    (recordIfPrepared userId profile prep).Licensed execSearch Due (Left 1) h := by
  rw [recordIfPrepared]
  split
  · exact licensed_throw hs
  · exact licensed_andThen (licensed_issueCall hs (Nat.zero_le 1) (fun _ => rfl) (fun _ => rfl)
      (fun _ => rfl) trivial) fun h' snapshotReady hs' =>
        licensed_recordSearch hs' hblank profile snapshotReady

theorem licensed_recordIfNamed [Host] (hs : Stands 0 h) (hblank : trim userId.val ≠ "")
    (found : Option GuestProfile) :
    (recordIfNamed userId found).Licensed execSearch Due (Left 1) h := by
  cases found with
  | none => exact licensed_throw hs
  | some profile =>
      rw [recordIfNamed]
      split
      · exact licensed_throw hs
      · exact licensed_andThen (licensed_issueCall hs (Nat.zero_le 1) (fun _ => rfl)
          (fun _ => rfl) (fun _ => rfl) trivial) fun h' prep hs' =>
            licensed_recordIfPrepared hs' hblank profile prep

theorem licensed_recordIfGuest [Host] (hs : Stands 0 h) (hblank : trim userId.val ≠ "")
    {flags : Option TrialFlags} (hguest : flags.any (·.isGuest) = true) :
    (recordIfGuest userId flags).Licensed execSearch Due (Left 1) h := by
  rw [recordIfGuest, if_neg (by simp [hguest])]
  split
  · exact licensed_throw hs
  · exact licensed_andThen (licensed_issueCall hs (Nat.zero_le 1) (fun _ => rfl) (fun _ => rfl)
      (fun _ => rfl) trivial) fun h' found hs' => licensed_recordIfNamed hs' hblank found

/-- A guest is not let through without being counted. -/
theorem licensed_assertGuestReadyForMatchSearch [Host] (hs : Stands 0 h)
    (hblank : trim userId.val ≠ "") :
    (assertGuestReadyForMatchSearch userId).Licensed execSearch Due (Left 1) h := by
  -- the flags that are read are those of a guest
  refine ⟨trivial, fun w => ?_⟩
  cases hfault : w.now.fault .findTrialFlagsByUserId with
  | some thrown =>
      rw [execSearch, hfault]
      exact (hs.cons (e := ⟨.call .findTrialFlagsByUserId, .error thrown⟩) rfl rfl).settled
  | none =>
      rw [execSearch, hfault]
      exact licensed_recordIfGuest (hs.cons rfl rfl) hblank rfl

theorem licensed_assertMatchPrepReadyForSearch (hs : Stands 1 h) :
    assertMatchPrepReadyForSearch.Licensed execSearch Due (Left 1) h := by
  refine ⟨trivial, fun w => ?_⟩
  generalize (execSearch (.call .getMatchPrepCurrentService) w).1 = result
  cases result with
  | error thrown =>
      exact hs.wasted (e := ⟨.call .getMatchPrepCurrentService, .error thrown⟩) rfl
  | ok prep =>
      show Left 1 _ (assertReady prep)
      rw [assertReady]
      cases hmissing : missingForSearch prep with
      | none => exact hs.cons rfl rfl
      | some message =>
          refine hs.wasted ?_
          rw [turnsAway, hmissing]
          rfl

theorem licensed_findMatchService (hs : Stands 1 h) (requestId : Text) :
    (findMatchService requestId).Licensed execSearch Due (fun h' _ => Settled h') h := by
  refine ⟨?_, fun w => .inr ?_⟩
  · show h.countP reaches < h.countP counts
    rw [hs.counted, hs.reached]
    exact Nat.one_pos
  · rw [List.countP_cons_of_neg (by simp [counts]), List.countP_cons_of_pos rfl, hs.counted,
      hs.reached]

theorem licensed_startSearch [Host] (hs : Stands 0 h) (hblank : trim userId.val ≠ "")
    (requestId : Text) :
    (startSearch userId requestId).Licensed execSearch Due (fun h' _ => Settled h') h := by
  refine (licensed_assertGuestReadyForMatchSearch hs hblank).bind fun h' ready hleft => ?_
  cases ready with
  | error thrown => exact hleft
  | ok ready =>
      refine (licensed_assertMatchPrepReadyForSearch hleft).bind fun h' prepared hleft => ?_
      cases prepared with
      | error thrown => exact hleft
      | ok prepared =>
          refine Prog.Licensed.bind (licensed_issueCall hleft le_rfl (fun _ => rfl)
            (fun _ => rfl) (fun _ => rfl) trivial) fun h' synced hleft => ?_
          cases synced with
          | error thrown => exact hleft
          | ok synced =>
              refine (licensed_findMatchService hleft requestId).bind fun h' found hsettled => ?_
              cases found with
              | error thrown => exact hsettled
              | ok engineRequestId => exact hsettled

theorem licensed_handleFindMatch [Host] (hs : Stands 0 h) (hblank : trim userId.val ≠ "")
    (requestId : Text) :
    (handleFindMatch userId requestId).Licensed execSearch Due (fun h' _ => Settled h') h := by
  refine Prog.Licensed.bind (Q := fun h' _ => Settled h') ?_ fun h' result hsettled => hsettled
  refine Prog.Licensed.bind (licensed_issueCall hs (Nat.zero_le 1) (fun _ => rfl) (fun _ => rfl)
    (fun _ => rfl) trivial) fun h' state hleft => ?_
  cases state with
  | error thrown => exact hleft
  | ok state =>
      cases state with
      | searching requestId => exact Stands.settled hleft
      | proposed requestId peerUserId matchScore isFallbackMatch => exact Stands.settled hleft
      | matched requestId roomId => exact Stands.settled hleft
      | idle => exact licensed_startSearch hleft hblank requestId

theorem licensed_task [Host] (account : GuestAccount) (task : SearchTask) :
    (task.program account).Licensed execSearch Due (fun h' _ => Settled h') [] := by
  cases task with
  | findMatch requestId =>
      exact (licensed_handleFindMatch ⟨rfl, rfl⟩ account.notBlank requestId).map
  | elsewhere change => exact ⟨trivial, fun w => .inr rfl⟩

end Licence

/-! ### Every request -/

section Runs

variable {ι : Type} [DecidableEq ι] {s : SearchScene ι} {i : ι} {c : SearchCmd}

theorem count_execSearch (c : SearchCmd) (w : SearchWorld) : (execSearch c w).2.count =
    w.count + if counts ⟨c, (execSearch c w).1⟩ then 1 else 0 := by
  cases c with
  | elsewhere change => rfl
  | call c =>
      rw [execSearch]
      cases w.now.fault c with
      | some thrown => cases c <;> rfl
      | none => cases c <;> rfl

/-- What a call admits it does not turn away. -/
theorem not_turnsAway {w : SearchWorld} (h : w.Admits c) :
    turnsAway ⟨c, (execSearch c w).1⟩ = false := by
  cases c with
  | elsewhere change => rfl
  | call c =>
      cases c with
      | findMatch requestId => rfl
      | getMatchPrepCurrentService =>
          rw [execSearch, (h rfl).1]
          show (missingForSearch w.now.prep).isSome = false
          rw [(h rfl).2 rfl]
          rfl
      | _ =>
          rw [execSearch, (h rfl).1]
          rfl

/-- No search has reached the engine uncounted, no more than the limit have been
counted, and none of them was turned away. -/
structure Budgeted (s : SearchScene ι) : Prop where
  count : s.world.count = s.count counts
  within : s.world.count ≤ guestMatchSearchRetryLimit
  covered : ∀ i, (s.told i).countP reaches ≤ (s.told i).countP counts
  spared : ∀ i, ¬ Wasted (s.told i)

theorem countP_told_after {P : SearchTold → Bool} (j : ι) :
    ((s.after execSearch i c).told j).countP P = (s.told j).countP P +
      if i = j ∧ P ⟨c, (execSearch c s.world).1⟩ = true then 1 else 0 := by
  by_cases hij : i = j
  · subst hij
    rw [Scene.told_after_self, List.countP_cons]
    simp
  · rw [Scene.told_after_of_ne execSearch hij, if_neg (by simp [hij])]
    rfl

/-- Counting never lags behind what has reached the engine. -/
theorem covered_after (h : ∀ i, (s.told i).countP reaches ≤ (s.told i).countP counts)
    (hdue : Due (s.told i) c) (j : ι) : ((s.after execSearch i c).told j).countP reaches ≤
      ((s.after execSearch i c).told j).countP counts := by
  rw [countP_told_after, countP_told_after]
  have hj := h j
  split
  next hreach =>
    obtain ⟨rfl, hreach⟩ := hreach
    have hlt : (s.told i).countP reaches < (s.told i).countP counts := by
      cases c with
      | elsewhere change => cases hreach
      | call c =>
          cases c with
          | findMatch requestId => exact hdue
          | _ => cases hreach
    omega
  next => omega

theorem Budgeted.after (h : Budgeted s) (hdue : Due (s.told i) c) (hspared : Spared i c s) :
    Budgeted (s.after execSearch i c) where
  count := by
    rw [Scene.after_world, count_execSearch, Scene.count_after, h.count]
  within := by
    rw [Scene.after_world, count_execSearch]
    have hwithin := h.within
    split
    next hcounts =>
      have hlow : s.world.count < guestMatchSearchRetryLimit := by
        cases c with
        | elsewhere change => cases hcounts
        | call c =>
            cases c with
            | incr =>
                refine hspared.1 rfl ?_
                cases hfault : s.world.now.fault .incr with
                | none => rfl
                | some thrown =>
                    rw [execSearch, hfault] at hcounts
                    cases hcounts
            | _ => simp [counts] at hcounts
      omega
    next => exact hwithin
  covered := covered_after h.covered hdue
  spared j := by
    by_cases hij : i = j
    · subst hij
      rw [Scene.told_after_self]
      rintro (⟨haway, hpos⟩ | hwasted)
      · rw [not_turnsAway (hspared.2 hpos)] at haway
        cases haway
      · exact h.spared i hwasted
    · rw [Scene.told_after_of_ne execSearch hij]
      exact h.spared j

theorem run_andThen {α β : Type} (p : SearchM (Except Thrown α))
    (f : α → SearchM (Except Thrown β)) (w : SearchWorld) :
    (andThen p f).run execSearch w = match (p.run execSearch w).1 with
      | .error thrown => (.error thrown, (p.run execSearch w).2)
      | .ok a => (f a).run execSearch (p.run execSearch w).2 := by
  rw [andThen, Prog.run_bind]
  cases (p.run execSearch w).1 <;> rfl

/-- What the status says is left is what the counter leaves of the limit. -/
theorem remaining_of_status [Host] (account : GuestAccount) {w : SearchWorld}
    {status : GuestCallTrialStatus}
    (h : ((getGuestCallTrialStatus account.userId).run execSearch w).1 = .ok status) :
    status.matchSearchAttemptsRemaining = some (guestMatchSearchRetryLimit - w.count) := by
  rw [getGuestCallTrialStatus, run_andThen, Prog.run_perform, execSearch] at h
  cases hfind : w.now.fault .findByUserId with
  | some thrown => simp [hfind] at h
  | none =>
      simp only [hfind, SearchWorld.answer, statusOfProfile] at h
      rw [run_andThen, Prog.run_perform, execSearch] at h
      cases hprep : w.now.fault .getMatchPrepCurrentService with
      | some thrown => simp [hprep] at h
      | none =>
          simp only [hprep, SearchWorld.answer] at h
          rw [run_andThen, getGuestMatchSearchAttemptsUsed, redisGetGuestMatchSearchCount,
            if_neg account.notBlank, Prog.run_perform, execSearch] at h
          cases hcount : w.now.fault .getSearchCount with
          | some thrown => simp [hcount] at h
          | none =>
              simp only [hcount, SearchWorld.answer, Prog.pure_eq, Prog.run_done,
                Except.ok.injEq] at h
              subst h
              simp [guestStatus, getGuestMatchSearchAttemptsRemaining]

theorem Budgeted.start (now : Circumstances) : Budgeted (ι := ι) ⟨{ now }, []⟩ where
  count := rfl
  within := Nat.zero_le _
  covered _ := le_rfl
  spared _ hwasted := hwasted

variable [Host] {account : GuestAccount} {conf : SearchConf ι}

theorem Budgeted.budget (h : Budgeted conf.scene)
    (hlic : conf.Licensed execSearch (fun _ => Due) fun _ h' _ => Settled h') :
    Budget account conf where
  few := Nat.le_trans (Scene.count_le_of_told h.covered) (h.count ▸ h.within)
  counted i hreached := by
    rw [← List.countP_pos_iff] at hreached ⊢
    exact Nat.lt_of_lt_of_le hreached (h.covered i)
  reported hrest status hstatus := by
    -- at rest every search that was counted has reached the engine
    have hsettled (i : ι) : (conf.scene.told i).countP counts =
        (conf.scene.told i).countP reaches := by
      rcases hlic.told_of_atRest hrest i with hnil | ⟨-, hsettled⟩
      · rw [hnil]
        rfl
      · exact hsettled.resolve_left (h.spared i)
    rw [remaining_of_status account hstatus, h.count, Scene.count_eq_of_told hsettled]

/-- **The search budget of a guest**, in every run in which no search is counted
once the limit is reached, and none is turned away after it has been counted. -/
theorem budget_of_spared (account : GuestAccount) (tasks : ι → SearchTask) (now : Circumstances)
    (sched : List ι) (hm : (searches account tasks now).Meets execSearch Spared sched) :
    ∀ early late, sched = early ++ late →
      Budget account ((searches account tasks now).runs execSearch early) := by
  rintro early late rfl
  have hlic : (searches account tasks now).Licensed execSearch (fun _ => Due)
      fun _ h' _ => Settled h' := fun i => licensed_task account (tasks i)
  have hbudgeted := hlic.runs_inv (fun _ _ _ hs hdue hspared => Budgeted.after hs hdue hspared)
    (Budgeted.start now) ((Conf.meets_append execSearch).mp hm).1
  exact hbudgeted.budget (hlic.runs early)

end Runs

namespace Sample

def milo : GuestAccount where
  userId := ⟨"milo", by decide⟩
  notBlank := by decide +kernel

def attempt (n : ℕ) : Text := ⟨"attempt " ++ toString n, by simp⟩

/-- `milo` may search. -/
def ready : Circumstances where
  profile := { displayName := some "Milo" }
  prep := { moodIds := [attempt 0], lookingForIds := [attempt 0],
            interestIds := [attempt 0, attempt 1] }

/-- The searches have even numbers; after each it turns out that nobody is there. -/
def searching (n : ℕ) : SearchTask :=
  if n % 2 = 0 then .findMatch (attempt n) else .elsewhere ({ · with matchState := .idle })

/-- One search after the other. -/
def inTurn (k : ℕ) : List ℕ := (List.range k).flatMap fun n => List.replicate 11 n

/-- The sixth search reaches the engine like the five before it. -/
theorem not_budget_sixth : ¬ ∀ [Host] (account : GuestAccount) (tasks : ℕ → SearchTask)
    (now : Circumstances) (sched : List ℕ),
    Budget account ((searches account tasks now).runs execSearch sched) := by
  intro h
  let _ := Host.exact .guestOnly
  have hsix : ((searches milo searching ready).runs execSearch (inTurn 11)).scene.count
      reaches = 6 := by decide +kernel
  have hfew := (h milo searching ready (inTurn 11)).few
  rw [hsix] at hfew
  exact absurd hfew (by decide)

/-- Two searches. -/
theorem budget_two :
    letI := Host.exact .guestOnly
    ((searches milo searching ready).runs execSearch (inTurn 3)).scene.count reaches = 2 ∧
      ∀ early late, inTurn 3 = early ++ late →
        Budget milo ((searches milo searching ready).runs execSearch early) := by
  let _ := Host.exact .guestOnly
  exact ⟨by decide +kernel, budget_of_spared milo searching ready (inTurn 3) (by decide +kernel)⟩

end Sample

end Greetup.Guest.Search
