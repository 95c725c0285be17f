import Greetup.Matching.Alone

/-!
What a rejected start does to the match the user is in.

The rejection is recorded as an attempt of its own, and recording an attempt
makes it the user's last one. Whoever asks for the user's match, leaves the room
or cancels then follows the pointer to the rejection.
-/

namespace Greetup.Matching

open Greetup.Interleaving Prog

/-! ### Asking for the match -/

theorem getUserMatchState_eq (u : UserId) :
    getUserMatchState u =
      .call (.getUserLastAttempt u) fun
        | none => .done .idle
        | some a => .call (.hgetallAttempt a) fun raw =>
            .done (((raw.map (parseAttemptRecord · a)).map (·.userMatchState)).getD .idle) := by
  simp only [getUserMatchState, issue, perform_bind]
  congr 1
  funext lastId
  cases lastId with
  | none => rfl
  | some a =>
      simp only [getAttempt, issue, perform_bind, call_bind]
      congr 1
      funext raw
      cases raw <;> rfl

theorem run_getUserMatchState (out : Outside) (w : World) (u : UserId) :
    (getUserMatchState u).run (exec out) w =
      (((w.redis.lastRecord u).map (·.userMatchState)).getD .idle, w) := by
  rw [getUserMatchState_eq, run_call,
    show exec out (.getUserLastAttempt u) w = (w.redis.userLastAttempt u, w) from rfl,
    Redis.lastRecord]
  cases w.redis.userLastAttempt u with
  | none => rfl
  | some a => rfl

/-! ### The rejection -/

section Rejection

variable [Host] {out : Outside} {w : World} {u : UserId} {a : RequestId} {polls : ℕ}
  {reason : String}

omit [Host] in
theorem AttemptRecord.toResult_of_isOpen {record : AttemptRecord} (h : record.isOpen) :
    record.toResult ≠ .noMatch reason := by
  obtain ⟨hstatus, hpeer⟩ := of_decide_eq_true h
  obtain ⟨peer, hpeer⟩ := Option.isSome_iff_exists.mp hpeer
  simp [AttemptRecord.toResult, hstatus, hpeer]

omit [Host] in
theorem AttemptRecord.coalesced_ne_noMatch (record : AttemptRecord) :
    record.coalesced ≠ some (.noMatch reason) := by
  unfold AttemptRecord.coalesced
  split_ifs with hsearching hopen
  · simp [searchingWithRequestId]
  · exact fun h => AttemptRecord.toResult_of_isOpen (decide_eq_true hopen) (Option.some.inj h)
  · simp

omit [Host] in
theorem Redis.Agree.noMatch {r r' : Redis} (h : r.Agree r') (a : RequestId) (u : UserId)
    (reason : String) : (r.noMatch a u reason).Agree (r'.noMatch a u reason) := by
  intro area harea
  cases area with
  | attempt => simp only [Redis.part, Redis.noMatch, Redis.put, h.attempt]
  | lastAttempt => simp only [Redis.part, Redis.noMatch, Redis.put, h.userLastAttempt]
  | pool => exact h .pool (by decide)
  | userState => exact h .userState (by decide)
  | lock => exact h .lock (by decide)
  | pending => exact h .pending (by decide)
  | _ => simp [searchAreas] at harea

/-- A start that ends without a match has recorded that and nothing else. -/
theorem run_startFindMatch_noMatch (hfresh : w.redis.attempt a = none)
    (hresult : ((startFindMatch polls ⟨u, a⟩).run (exec out) w).1 = .noMatch reason) :
    ((startFindMatch polls ⟨u, a⟩).run (exec out) w).2.redis.Agree
      (w.redis.noMatch a u reason) := by
  have hhydrate := w.hydrate_agree out u
  have hfinish : ∀ why, (startFindMatch polls ⟨u, a⟩).run (exec out) w =
      (finishNoMatch ⟨u, a⟩ why).run (exec out) (w.hydrate out u).2 →
      ((startFindMatch polls ⟨u, a⟩).run (exec out) w).2.redis.Agree
        (w.redis.noMatch a u reason) := by
    intro why hrun
    rw [hrun, run_finishNoMatch] at hresult ⊢
    obtain rfl : why = reason := FindMatchResult.noMatch.inj hresult
    exact hhydrate.noMatch a u why
  by_cases hsnap : (w.hydrate out u).1 = none
  · exact hfinish _ (run_startFindMatch_noSnapshot polls hfresh hsnap)
  by_cases hroom : w.redis.userState u = some .inRoom
  · exact hfinish _ (run_startFindMatch_inRoom polls hfresh hsnap hroom)
  by_cases hlocked : w.redis.userState u = some .locked
  · have hrun := run_startFindMatch_locked polls hfresh hsnap hlocked
    cases hopen : (w.redis.lastRecord u).filter (·.isOpen) with
    | none =>
        rw [hopen] at hrun
        exact hfinish _ hrun
    | some record =>
        rw [hopen] at hrun
        rw [hrun] at hresult
        exact absurd hresult
          (AttemptRecord.toResult_of_isOpen (Option.filter_eq_some_iff.mp hopen).2)
  · have hrun := run_startFindMatch_free polls hfresh hsnap hlocked hroom
    cases hcoalesced : (w.redis.lastRecord u).bind (·.coalesced) with
    | some result =>
        obtain ⟨record, -, hrecord⟩ := Option.bind_eq_some_iff.mp hcoalesced
        rw [hrun, hcoalesced] at hresult
        obtain rfl : result = .noMatch reason := hresult
        exact absurd hrecord record.coalesced_ne_noMatch
    | none =>
        rw [hcoalesced] at hrun
        rw [hrun] at hresult
        have hnone : ((w.hydrate out u).2.redis.lastRecord u).bind (·.coalesced) = none := by
          rw [hhydrate.lastRecord]
          exact hcoalesced
        obtain ⟨hpoll, -⟩ := @run_pollStartSearchLock out _ _ u a polls hnone
        rw [hpoll] at hresult
        cases hresult

end Rejection

/-! ### What is left of the match -/

/-- Whatever the attempt record of `a` says, everything else is as it was: the
answer about the match of `u`, the attempts that `leaveRoom` and `cancelMatch`
act on, and pool, states, locks and proposals. -/
structure MatchIntact (out : Outside) (w w' : World) (u : UserId) (a : RequestId) : Prop where
  answer : ((getUserMatchState u).run (exec out) w').1 = ((getUserMatchState u).run (exec out) w).1
  attempt : ∀ b, b ≠ a → w'.redis.attempt b = w.redis.attempt b
  leave : ∀ b, b ≠ a → ((leaveRoom u).run (exec out) w').2.redis.attempt b =
    ((leaveRoom u).run (exec out) w).2.redis.attempt b
  cancel : ∀ b, b ≠ a → ((cancelMatch u).run (exec out) w').2.redis.attempt b =
    ((cancelMatch u).run (exec out) w).2.redis.attempt b
  pool : w'.redis.pool = w.redis.pool
  state : w'.redis.userState = w.redis.userState
  locks : w'.redis.userLock = w.redis.userLock ∧ w'.redis.pairLock = w.redis.pairLock
  pending : w'.redis.pairPending = w.redis.pairPending
  lastOfOthers : ∀ v, v ≠ u → w'.redis.userLastAttempt v = w.redis.userLastAttempt v

/-- The attempt is one the user has cancelled. -/
def AttemptHash.CancelledBy (hash : AttemptHash) (u : UserId) : Prop :=
  hash.userId = some u ∧ hash.status = some .noMatch ∧ hash.reason = some "cancelled_by_user"

/-- The user has no last attempt, or one that the user has cancelled already;
`a` itself may still be the last attempt after its record has expired. -/
def Redis.NothingToLose (r : Redis) (u : UserId) (a : RequestId) : Prop :=
  ∀ b, r.userLastAttempt u = some b → b = a ∨ ∃ hash, r.attempt b = some hash ∧ hash.CancelledBy u

theorem Redis.noMatch_attempt_eq_iff (r : Redis) (b : RequestId) (u : UserId) :
    (r.noMatch b u "cancelled_by_user").attempt b = r.attempt b ↔
      ∃ hash, r.attempt b = some hash ∧ hash.CancelledBy u := by
  simp only [Redis.noMatch, Redis.put, Function.update_self]
  cases r.attempt b with
  | none => simp
  | some hash =>
      simp only [Option.getD_some, Option.some.injEq, exists_eq_left', AttemptHash.CancelledBy]
      constructor
      · intro h
        rw [← h]
        exact ⟨rfl, rfl, rfl⟩
      · rintro ⟨howner, hstatus, hreason⟩
        cases hash
        simp_all [AttemptHash.hset]

section Readers

variable {out : Outside} {w : World} {u : UserId}

/-- Nobody is asked to act on an attempt that is over. -/
structure LastIsOver (w : World) (u : UserId) : Prop where
  idle : ∀ record, w.redis.lastRecord u = some record → record.userMatchState = .idle
  unmatched : ∀ record, w.redis.lastRecord u = some record → record.status ≠ .matched

theorem LastIsOver.of_noMatch
    (h : ∀ record, w.redis.lastRecord u = some record → record.status = .noMatch) :
    LastIsOver w u where
  idle record hrecord := by simp [AttemptRecord.userMatchState, h record hrecord]
  unmatched record hrecord := by simp [h record hrecord]

theorem LastIsOver.answer (h : LastIsOver w u) :
    ((getUserMatchState u).run (exec out) w).1 = .idle := by
  rw [run_getUserMatchState]
  cases hrecord : w.redis.lastRecord u with
  | none => rfl
  | some record => exact h.idle record hrecord

theorem LastIsOver.leave (h : LastIsOver w u) :
    ((leaveRoom u).run (exec out) w).2.redis.attempt = w.redis.attempt := by
  have hnone : (w.redis.lastRecord u).filter (·.status = .matched) = none := by
    rw [Option.filter_eq_none_iff]
    intro record hrecord
    simpa using h.unmatched record hrecord
  rw [run_leaveRoom, hnone]
  rfl

theorem Redis.openProposal_of_idle
    (h : ∀ record, w.redis.lastRecord u = some record → record.userMatchState = .idle) :
    w.redis.openProposal u = none := by
  rw [Redis.openProposal, Option.bind_eq_none_iff]
  intro record hrecord
  have hidle := h record hrecord
  cases hpeer : record.proposedPeer with
  | none => rfl
  | some peer =>
      unfold AttemptRecord.proposedPeer at hpeer
      split_ifs at hpeer with hstatus
      simp [AttemptRecord.userMatchState, hstatus, hpeer] at hidle

/-- Cancelling a user without a proposal only marks the last attempt. -/
theorem run_cancelMatch_attempt {b : RequestId} (hlast : w.redis.userLastAttempt u = some b)
    (h : w.redis.openProposal u = none) :
    ((cancelMatch u).run (exec out) w).2.redis.attempt =
      (w.redis.noMatch b u "cancelled_by_user").attempt := by
  rw [(run_cancelMatch_some hlast).1 h]
  rfl

theorem Redis.noMatch_attempt_ne (r : Redis) {b c : RequestId} (hcb : c ≠ b) (reason : String) :
    (r.noMatch b u reason).attempt c = r.attempt c := Function.update_of_ne hcb _ _

theorem Redis.status_of_noMatch {r : Redis} {a : RequestId} {reason : String}
    {record : AttemptRecord} (h : (r.noMatch a u reason).lastRecord u = some record) :
    record.status = .noMatch := by
  have hlast : (r.noMatch a u reason).userLastAttempt u = some a := Function.update_self ..
  have hattempt : (r.noMatch a u reason).attempt a = some (((r.attempt a).getD {}).hset
      { status := some .noMatch, reason := some reason, userId := some u }) :=
    Function.update_self ..
  rw [Redis.lastRecord, hlast, Option.bind_some, hattempt, Option.map_some] at h
  rw [← Option.some.inj h]
  rfl

theorem Redis.NothingToLose.lastIsOver {a : RequestId} (h : w.redis.NothingToLose u a)
    (hfresh : w.redis.attempt a = none) : LastIsOver w u := by
  refine .of_noMatch fun record hrecord => ?_
  rw [Redis.lastRecord, Option.bind_eq_some_iff] at hrecord
  obtain ⟨b, hlast, hrecord⟩ := hrecord
  rcases h b hlast with rfl | ⟨hash, hattempt, -, hstatus, -⟩
  · rw [hfresh] at hrecord
    cases hrecord
  · rw [hattempt, Option.map_some] at hrecord
    rw [← Option.some.inj hrecord]
    simp [parseAttemptRecord, hstatus]

/-- Cancelling a user with nothing to lose changes no attempt but `a`. -/
theorem Redis.NothingToLose.cancel {a b : RequestId} (h : w.redis.NothingToLose u a)
    (hfresh : w.redis.attempt a = none) (hb : b ≠ a) :
    ((cancelMatch u).run (exec out) w).2.redis.attempt b = w.redis.attempt b := by
  cases hlast : w.redis.userLastAttempt u with
  | none =>
      rw [run_cancelMatch_none hlast]
      rfl
  | some c =>
      rw [run_cancelMatch_attempt hlast (Redis.openProposal_of_idle (h.lastIsOver hfresh).idle)]
      by_cases hbc : b = c
      · subst hbc
        exact (w.redis.noMatch_attempt_eq_iff b u).mpr ((h b hlast).resolve_left hb)
      · exact Redis.noMatch_attempt_ne _ hbc _

end Readers

/-- **A rejected start leaves the match intact** exactly when there was none to
lose: no last attempt, or one the user has cancelled already. -/
theorem rejected_start_intact_iff [Host] (out : Outside) (w : World) (polls : ℕ) (u : UserId)
    (a : RequestId) (reason : String) (hfresh : w.redis.attempt a = none)
    (hresult : ((startFindMatch polls ⟨u, a⟩).run (exec out) w).1 = .noMatch reason) :
    MatchIntact out w ((startFindMatch polls ⟨u, a⟩).run (exec out) w).2 u a ↔
      w.redis.NothingToLose u a := by
  have hagree := run_startFindMatch_noMatch hfresh hresult
  generalize ((startFindMatch polls ⟨u, a⟩).run (exec out) w).2 = w' at hagree
  have hattempt : ∀ b, b ≠ a → w'.redis.attempt b = w.redis.attempt b := fun b hb =>
    (congrFun hagree.attempt b).trans (w.redis.noMatch_attempt_ne hb reason)
  have hlast : w'.redis.userLastAttempt u = some a := by
    rw [hagree.userLastAttempt]
    exact Function.update_self ..
  have hover : LastIsOver w' u := .of_noMatch fun record hrecord => by
    rw [hagree.lastRecord] at hrecord
    exact Redis.status_of_noMatch hrecord
  have hleave : ∀ b, b ≠ a → ((leaveRoom u).run (exec out) w').2.redis.attempt b =
      w.redis.attempt b := fun b hb => (congrFun hover.leave b).trans (hattempt b hb)
  have hcancel : ∀ b, b ≠ a → ((cancelMatch u).run (exec out) w').2.redis.attempt b =
      w.redis.attempt b := by
    intro b hb
    rw [run_cancelMatch_attempt hlast (Redis.openProposal_of_idle hover.idle),
      Redis.noMatch_attempt_ne _ hb, hattempt b hb]
  constructor
  · intro h b hb
    by_cases hba : b = a
    · exact .inl hba
    · refine .inr ((w.redis.noMatch_attempt_eq_iff b u).mp ?_)
      have hidle : ∀ record, w.redis.lastRecord u = some record →
          record.userMatchState = .idle := by
        intro record hrecord
        have hanswer := h.answer
        rw [hover.answer, run_getUserMatchState, hrecord] at hanswer
        exact hanswer.symm
      rw [← run_cancelMatch_attempt hb (Redis.openProposal_of_idle hidle), ← h.cancel b hba]
      exact hcancel b hba
  · intro h
    have hnone := h.lastIsOver hfresh
    refine ⟨?_, hattempt, fun b hb => ?_, fun b hb => ?_, hagree.pool, hagree.userState,
      ⟨hagree.userLock, hagree.pairLock⟩, hagree.pairPending, fun v hv => ?_⟩
    · rw [hover.answer, hnone.answer]
    · rw [hleave b hb, hnone.leave]
    · rw [hcancel b hb, h.cancel hfresh hb]
    · exact (congrFun hagree.userLastAttempt v).trans (Function.update_of_ne hv _ _)

namespace Sample

/-- Ann has searched and cancelled, and the service has no profile of hers any
more; Ben and Cat are in a room together. -/
def withdrawn : World :=
  let w := after [.startFindMatch 1 ⟨ann, annSearch⟩, .cancelMatch ann,
    .startFindMatch 1 ⟨ben, benSearch⟩, .startFindMatch 1 ⟨cat, catSearch⟩, .runLoop 2,
    .respondToMatchProposal ben benSearch .connect, .respondToMatchProposal cat catSearch .connect]
  { w with redis := { w.redis with snapshot := Function.update w.redis.snapshot ann none } }

def annAgain : RequestId := ⟨"ann-again", by decide⟩

/-- Ann is turned away, and nothing is lost: her last search was over, and the
others stay where they are. -/
theorem intact_withdrawn :
    let rejected := (@startFindMatch host 1 ⟨ann, annAgain⟩).run (exec outside) withdrawn
    MatchIntact outside withdrawn rejected.2 ann annAgain ∧
      withdrawn.redis.userLastAttempt ann = some annSearch ∧
      ((getUserMatchState ben).run (exec outside) rejected.2).1 = .matched benSearch mockRoom := by
  intro rejected
  have hlast : withdrawn.redis.userLastAttempt ann = some annSearch := by decide +kernel
  have hcancelled : ∃ hash, withdrawn.redis.attempt annSearch = some hash ∧
      hash.CancelledBy ann := by
    obtain ⟨hash, hhash⟩ := Option.isSome_iff_exists.mp (show
      (withdrawn.redis.attempt annSearch).isSome = true by decide +kernel)
    refine ⟨hash, hhash, ?_⟩
    have hfields : (withdrawn.redis.attempt annSearch).map
        (fun hash => (hash.userId, hash.status, hash.reason)) =
          some (some ann, some .noMatch, some "cancelled_by_user") := by decide +kernel
    rw [hhash] at hfields
    simpa [AttemptHash.CancelledBy] using hfields
  refine ⟨(@rejected_start_intact_iff host outside withdrawn 1 ann annAgain "snapshot_not_found"
    (by decide +kernel) (by decide +kernel)).mpr fun b hb => ?_, hlast, by decide +kernel⟩
  obtain rfl := Option.some.inj (hlast.symm.trans hb)
  exact .inr hcancelled

/-- Ann and Ben have connected and are in a room. -/
def matched : World :=
  after [.startFindMatch 1 ⟨ann, annSearch⟩, .startFindMatch 1 ⟨ben, benSearch⟩, .runLoop 1,
    .respondToMatchProposal ann annSearch .connect, .respondToMatchProposal ben benSearch .connect]

/-- Ann is turned away while she is in the room, and nobody knows of her match
any more. -/
theorem not_intact_inRoom :
    let rejected := (@startFindMatch host 1 ⟨ann, catSearch⟩).run (exec outside) matched
    matched.redis.attempt catSearch = none ∧ rejected.1 = .noMatch "user_unavailable" ∧
      ((getUserMatchState ann).run (exec outside) matched).1 = .matched annSearch mockRoom ∧
      ¬ MatchIntact outside matched rejected.2 ann catSearch := by
  intro rejected
  have hbefore : ((getUserMatchState ann).run (exec outside) matched).1 =
      .matched annSearch mockRoom := by decide +kernel
  have hafter : ((getUserMatchState ann).run (exec outside) rejected.2).1 = .idle := by
    decide +kernel
  refine ⟨by decide +kernel, by decide +kernel, hbefore, fun h => ?_⟩
  have hanswer := h.answer
  rw [hbefore, hafter] at hanswer
  cases hanswer

end Sample

end Greetup.Matching
