import Greetup.Matching.Orchestrator

/-!
Eligibility of a pair, seen from either side.

Whichever of two searchers has its job run first is the requester, and the other
one the candidate. Blocks, guest policy, age filters and score do not depend on
who is who; the activity-intent filter does, for one kind of pair.
-/

namespace Greetup.Matching

open Greetup.Interleaving Prog

/-! ### Blocks -/

/-- A block is recorded with both users. -/
def Redis.BlocksMirrored (r : Redis) : Prop :=
  ∀ u v, v ∈ r.sets (.blocksOutgoing u) ↔ u ∈ r.sets (.blocksIncoming v)

/-- What `isBlockedWithPeer` answers. -/
def Redis.blocked (r : Redis) (a b : UserId) : Bool :=
  a ≠ b ∧ (b ∈ r.sets (.blocksOutgoing a) ∨ b ∈ r.sets (.blocksIncoming a))

theorem Redis.BlocksMirrored.blocked_comm {r : Redis} (h : r.BlocksMirrored) (a b : UserId) :
    r.blocked a b = r.blocked b a := by
  simp only [Redis.blocked, h a b, ← h b a, ne_comm (a := a), or_comm]

theorem isBlockedWithPeer_run (out : Outside) (a b : UserId) (w : World) :
    (isBlockedWithPeer a b).run (exec out) w = (w.redis.blocked a b, w) := by
  by_cases hab : a = b
  · simp [isBlockedWithPeer, Redis.blocked, hab]
  · simp [isBlockedWithPeer, Redis.blocked, hab, exec]

/-! ### Snapshots -/

section Snapshots

variable [Host]

/-- The store holds this snapshot for the user it is a snapshot of. -/
def Redis.Holds (r : Redis) (snapshot : SnapshotUserProfile) : Prop :=
  (r.snapshot snapshot.userId).map (parseSnapshot · snapshot.userId) = some snapshot

omit [Host] in
/-- `w'` has the sets of `w` and every snapshot `w` had. -/
structure World.Hydrates (w w' : World) : Prop where
  sets : w'.redis.sets = w.redis.sets
  snapshot : ∀ u raw, w.redis.snapshot u = some raw → w'.redis.snapshot u = some raw

namespace World.Hydrates

variable {w w' w'' : World}

omit [Host] in
theorem refl (w : World) : w.Hydrates w := ⟨rfl, fun _ _ h => h⟩

theorem holds (h : w.Hydrates w') {s : SnapshotUserProfile} (hs : w.redis.Holds s) :
    w'.redis.Holds s := by
  obtain ⟨raw, hraw, hparse⟩ := Option.map_eq_some_iff.mp hs
  exact Option.map_eq_some_iff.mpr ⟨raw, h.snapshot _ _ hraw, hparse⟩

omit [Host] in
theorem blocked (h : w.Hydrates w') (a b : UserId) :
    w'.redis.blocked a b = w.redis.blocked a b := by
  simp only [Redis.blocked, h.sets]

end World.Hydrates

section Run

variable {out : Outside} {w : World}

theorem getSnapshotWithHydration_run_of_holds {s : SnapshotUserProfile} (hs : w.redis.Holds s) :
    (getSnapshotWithHydration s.userId).run (exec out) w = (some s, w) := by
  obtain ⟨raw, hraw, hparse⟩ := Option.map_eq_some_iff.mp hs
  simp [getSnapshotWithHydration, getByUserId, exec, hraw, hparse]

/-- Hydration writes a snapshot only where there was none. -/
theorem getSnapshotWithHydration_hydrates (out : Outside) (u : UserId) :
    w.Hydrates ((getSnapshotWithHydration u).run (exec out) w).2 := by
  cases hu : w.redis.snapshot u with
  | some raw =>
      simpa [getSnapshotWithHydration, getByUserId, exec, hu] using World.Hydrates.refl w
  | none =>
      have hkept : ∀ v raw, w.redis.snapshot v = some raw → v ≠ u := by
        rintro v raw hv rfl
        simp [hu] at hv
      rcases hans : out.ensureSnapshot w.asked with ⟨ok, fresh⟩
      cases ok <;> cases fresh <;>
        refine ⟨by simp [getSnapshotWithHydration, getByUserId, exec, hu, hans],
          fun v raw hv => ?_⟩ <;>
        simp [getSnapshotWithHydration, getByUserId, exec, hu, hans, hv, hkept v raw hv]

theorem scoreCandidate_hydrates (out : Outside) (requester : SnapshotUserProfile)
    (mode : CandidateScoringMode)
    (candidate : MatchCandidate) :
    w.Hydrates ((scoreCandidate requester mode candidate).run (exec out) w).2 := by
  simp only [scoreCandidate, run_bind, isBlockedWithPeer_run]
  cases w.redis.blocked requester.userId candidate.userId with
  | true => exact .refl w
  | false =>
      have hhyd := getSnapshotWithHydration_hydrates (w := w) out candidate.userId
      cases h : ((getSnapshotWithHydration candidate.userId).run (exec out) w).1 <;>
        simpa [h] using hhyd

/-- The row a candidate gets whose snapshot the store holds. -/
def judged (r : Redis) (requester candidateSnapshot : SnapshotUserProfile)
    (mode : CandidateScoringMode) : Option ℤ :=
  if r.blocked requester.userId candidateSnapshot.userId then none
  else scorePair requester candidateSnapshot mode

theorem scoreCandidate_run_of_holds {b : SnapshotUserProfile} (hb : w.redis.Holds b)
    (requester : SnapshotUserProfile) (mode : CandidateScoringMode) {candidate : MatchCandidate}
    (hc : candidate.userId = b.userId) :
    (scoreCandidate requester mode candidate).run (exec out) w =
      ((judged w.redis requester b mode).map fun matchScore =>
        ⟨b.userId, matchScore, candidate.score⟩, w) := by
  simp only [scoreCandidate, run_bind, isBlockedWithPeer_run, hc, judged]
  cases w.redis.blocked requester.userId b.userId with
  | true => simp
  | false => simp [getSnapshotWithHydration_run_of_holds hb]

theorem userId_of_scoreCandidate {requester : SnapshotUserProfile} {mode : CandidateScoringMode}
    {candidate : MatchCandidate} {row : ScoredMatchCandidate}
    (h : ((scoreCandidate requester mode candidate).run (exec out) w).1 = some row) :
    row.userId = candidate.userId := by
  simp only [scoreCandidate, run_bind, isBlockedWithPeer_run] at h
  cases hblocked : w.redis.blocked requester.userId candidate.userId with
  | true => simp [hblocked] at h
  | false =>
      cases hsnap : ((getSnapshotWithHydration candidate.userId).run (exec out) w).1 with
      | none => simp [hblocked, hsnap] at h
      | some b =>
          simp only [hblocked, hsnap, Bool.false_eq_true, if_false, run_bind, pure_eq, run_done,
            Option.map_eq_some_iff] at h
          obtain ⟨_, _, rfl⟩ := h
          rfl

/-- Scoring for the requester, with nothing else running, keeps the peer with
this score. -/
def KeptWith (out : Outside) (w : World) (requester : SnapshotUserProfile)
    (poolCandidates : List MatchCandidate) (peer : UserId) (matchScore : ℤ) : Prop :=
  ∃ row ∈ ((scorePoolCandidates requester .eligibleOnly poolCandidates).run (exec out) w).1,
    row.userId = peer ∧ row.matchScore = matchScore

/-- A pooled candidate is kept exactly with the score it is judged to have,
whoever else is in the pool. -/
theorem keptWith_iff {requester b : SnapshotUserProfile} (hb : w.redis.Holds b)
    {poolCandidates : List MatchCandidate} (hpool : ∃ c ∈ poolCandidates, c.userId = b.userId)
    (matchScore : ℤ) :
    KeptWith out w requester poolCandidates b.userId matchScore ↔
      judged w.redis requester b .eligibleOnly = some matchScore := by
  suffices h : KeptWith out w requester poolCandidates b.userId matchScore ↔
      (∃ c ∈ poolCandidates, c.userId = b.userId) ∧
        judged w.redis requester b .eligibleOnly = some matchScore by
    rw [h, and_iff_right hpool]
  clear hpool
  induction poolCandidates generalizing w with
  | nil => simp [KeptWith, scorePoolCandidates]
  | cons c cs ih =>
      have hhyd := scoreCandidate_hydrates (w := w) out requester .eligibleOnly c
      have hrest := ih (hhyd.holds hb)
      have hjudged : judged ((scoreCandidate requester .eligibleOnly c).run (exec out) w).2.redis
          requester b .eligibleOnly = judged w.redis requester b .eligibleOnly := by
        simp only [judged, hhyd.blocked]
      rw [hjudged] at hrest
      simp only [KeptWith, scorePoolCandidates, run_bind, pure_eq, run_done, List.mem_append,
        Option.mem_toList, or_and_right, exists_or, List.mem_cons] at hrest ⊢
      rw [hrest]
      by_cases hc : c.userId = b.userId
      · rw [scoreCandidate_run_of_holds hb requester .eligibleOnly hc]
        cases judged w.redis requester b .eligibleOnly <;> simp [hc]
      · have hrow : ¬ ∃ row, ((scoreCandidate requester .eligibleOnly c).run (exec out) w).1 =
            some row ∧ row.userId = b.userId ∧ row.matchScore = matchScore := by
          rintro ⟨row, hrow, huser, -⟩
          exact hc ((userId_of_scoreCandidate hrow).symm.trans huser)
        simp [hc, hrow]

end Run

/-! ### Both sides -/

/-- Both look for an activity and exactly one of them has named any. -/
def OneSidedActivities (a b : SnapshotUserProfile) : Prop :=
  matchIntent a = "activity" ∧ matchIntent b = "activity" ∧
    (sessionActivityIds a = [] ↔ sessionActivityIds b ≠ [])

/-- Nothing but the activity-intent filter stands in the way of the pair. -/
structure Redis.OtherwiseEligible (r : Redis) (a b : SnapshotUserProfile) : Prop where
  unblocked : r.blocked a.userId b.userId = false
  guests : areGuestPoolCompatible a b Host.guestMatchPool
  compatible : MatchValidator.isBidirectionallyCompatible a b
  score : MatchScore.isScoreEligible (MatchScore.calculateBidirectionalScore a b)

theorem judged_eq_some_iff {r : Redis} {a b : SnapshotUserProfile} {matchScore : ℤ} :
    judged r a b .eligibleOnly = some matchScore ↔
      (r.OtherwiseEligible a b ∧ passesActivityIntentStrictFilter a b) ∧
        MatchScore.calculateBidirectionalScore a b = matchScore := by
  constructor
  · intro h
    simp only [judged, scorePair] at h
    split_ifs at h with h₁ h₂ h₃ h₄ h₅
    simp only [true_and, Bool.not_eq_true', Bool.not_eq_false] at h₁ h₂ h₃ h₄ h₅
    exact ⟨⟨⟨by simpa using h₁, h₂, h₃, h₅⟩, h₄⟩, Option.some.inj h⟩
  · rintro ⟨⟨⟨h₁, h₂, h₃, h₅⟩, h₄⟩, rfl⟩
    simp [judged, scorePair, h₁, h₂, h₃, h₄, h₅]

theorem Redis.OtherwiseEligible.symm {r : Redis} (hr : r.BlocksMirrored)
    {a b : SnapshotUserProfile} (h : r.OtherwiseEligible a b) : r.OtherwiseEligible b a where
  unblocked := hr.blocked_comm a.userId b.userId ▸ h.unblocked
  guests := areGuestPoolCompatible_comm a b _ ▸ h.guests
  compatible := MatchValidator.isBidirectionallyCompatible_comm a b ▸ h.compatible
  score := MatchScore.calculateBidirectionalScore_comm a b ▸ h.score

/-- **Eligibility from both sides.** Two searchers keep each other, and with one
score, whichever of them is the requester, unless all that keeps them apart is
an activity list that only one of them has filled in. -/
theorem keptWith_comm_iff (out : Outside) (w : World) (hblocks : w.redis.BlocksMirrored)
    {a b : SnapshotUserProfile} (ha : w.redis.Holds a) (hb : w.redis.Holds b)
    {poolOfA poolOfB : List MatchCandidate} (hpoolA : ∃ c ∈ poolOfA, c.userId = b.userId)
    (hpoolB : ∃ c ∈ poolOfB, c.userId = a.userId) :
    (∀ matchScore, KeptWith out w a poolOfA b.userId matchScore ↔
        KeptWith out w b poolOfB a.userId matchScore) ↔
      ¬ (OneSidedActivities a b ∧ w.redis.OtherwiseEligible a b) := by
  have hscore := MatchScore.calculateBidirectionalScore_comm a b
  have helig : w.redis.OtherwiseEligible a b ↔ w.redis.OtherwiseEligible b a :=
    ⟨.symm hblocks, .symm hblocks⟩
  have hfilter := passesActivityIntentStrictFilter_comm_iff a b
  simp only [keptWith_iff hb hpoolA, keptWith_iff ha hpoolB, judged_eq_some_iff, ← helig, hscore]
  by_cases h : w.redis.OtherwiseEligible a b
  · simp only [h, true_and, and_true, OneSidedActivities, ← hfilter]
    exact ⟨fun hall => Bool.eq_iff_iff.mpr (by
      simpa using hall (MatchScore.calculateBidirectionalScore b a)), fun hab _ => by rw [hab]⟩
  · simp [h]

end Snapshots

/-- The snapshot of a music lover of thirty who looks for an activity, with the
given activities. -/
def activitySeeker (activities : List Json) : JsonRecord :=
  [("age", .num 30),
    ("interests", .arr [.obj [("interest", .obj [("id", .str "music")])]]),
    ("currentStatus", .obj [("matchIntent", .str "activity"), ("activities", .arr activities)])]

/-- Ann has named no activity, everybody else has named chess. -/
def oneSidedWorld : World where
  redis := { Redis.empty with
    snapshot := fun u =>
      if u = Sample.ann then some (activitySeeker [])
      else some (activitySeeker [.obj [("id", .str "chess"), ("name", .str "Chess")]]) }
  asked := 0

abbrev oneSidedHost : Host := Host.exact .guestAndRegistered

def oneSidedSnapshot (u : UserId) : SnapshotUserProfile :=
  @parseSnapshot oneSidedHost ((oneSidedWorld.redis.snapshot u).getD []) u

theorem oneSidedWorld_blocksMirrored : oneSidedWorld.redis.BlocksMirrored :=
  fun u v => by simp [oneSidedWorld, Redis.empty]

/-- Ben and Cat, who have both named chess, keep each other. -/
theorem keptWith_comm_ben_cat :
    @KeptWith oneSidedHost Sample.outside oneSidedWorld (oneSidedSnapshot Sample.ben)
        [⟨Sample.cat, 0⟩] Sample.cat 64 ∧
      @KeptWith oneSidedHost Sample.outside oneSidedWorld (oneSidedSnapshot Sample.cat)
        [⟨Sample.ben, 0⟩] Sample.ben 64 := by
  have hrows : ((@scorePoolCandidates oneSidedHost (oneSidedSnapshot Sample.ben) .eligibleOnly
      [⟨Sample.cat, 0⟩]).run (@exec Sample.outside) oneSidedWorld).1 = [⟨Sample.cat, 64, 0⟩] := by
    decide +kernel
  have hcomm := (@keptWith_comm_iff oneSidedHost Sample.outside oneSidedWorld
    oneSidedWorld_blocksMirrored (oneSidedSnapshot Sample.ben) (oneSidedSnapshot Sample.cat)
    rfl rfl [⟨Sample.cat, 0⟩] [⟨Sample.ben, 0⟩] ⟨_, List.mem_singleton_self _, rfl⟩
    ⟨_, List.mem_singleton_self _, rfl⟩).mpr fun h => absurd h.1.2.2 (by decide +kernel)
  have hben : @KeptWith oneSidedHost Sample.outside oneSidedWorld (oneSidedSnapshot Sample.ben)
      [⟨Sample.cat, 0⟩] Sample.cat 64 :=
    ⟨_, by rw [hrows]; exact List.mem_singleton_self _, rfl, rfl⟩
  exact ⟨hben, (hcomm 64).mp hben⟩

/-- Ann keeps Ben and Ben does not keep Ann. -/
theorem keptWith_one_sided :
    oneSidedWorld.redis.BlocksMirrored ∧
      @Redis.Holds oneSidedHost oneSidedWorld.redis (oneSidedSnapshot Sample.ann) ∧
      @Redis.Holds oneSidedHost oneSidedWorld.redis (oneSidedSnapshot Sample.ben) ∧
      ¬ ∀ matchScore,
        @KeptWith oneSidedHost Sample.outside oneSidedWorld (oneSidedSnapshot Sample.ann)
            [⟨Sample.ben, 0⟩] Sample.ben matchScore ↔
          @KeptWith oneSidedHost Sample.outside oneSidedWorld (oneSidedSnapshot Sample.ben)
            [⟨Sample.ann, 0⟩] Sample.ann matchScore := by
  have hrowsA : ((@scorePoolCandidates oneSidedHost (oneSidedSnapshot Sample.ann) .eligibleOnly
      [⟨Sample.ben, 0⟩]).run (@exec Sample.outside) oneSidedWorld).1 = [⟨Sample.ben, 49, 0⟩] := by
    decide +kernel
  have hrowsB : ((@scorePoolCandidates oneSidedHost (oneSidedSnapshot Sample.ben) .eligibleOnly
      [⟨Sample.ann, 0⟩]).run (@exec Sample.outside) oneSidedWorld).1 = [] := by
    decide +kernel
  refine ⟨oneSidedWorld_blocksMirrored, rfl, rfl, fun h => ?_⟩
  obtain ⟨row, hrow, -⟩ := (h 49).mp ⟨_, by rw [hrowsA]; exact List.mem_singleton_self _, rfl, rfl⟩
  simp [hrowsB] at hrow

end Greetup.Matching
