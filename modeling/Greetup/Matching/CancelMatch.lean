import Greetup.Matching.Alone

/-!
What `cancelMatch` leaves of a search.

The caller is taken out of the pool, and the state key deleted, before the
proposal is torn down; the teardown releases the pair and with that sets both
states to searching again. A search that is not bound by a proposal ends clean.
-/

namespace Greetup.Matching

open Greetup.Interleaving Prog

/-- The record names the attempt `a` for its user `u`. -/
def PairPendingRecord.Names (record : PairPendingRecord) (u : UserId) (a : RequestId) : Prop :=
  record.userLow = u ∧ record.attemptLow = a ∨ record.userHigh = u ∧ record.attemptHigh = a

namespace Redis

/-- The attempt's record says that there was no match. -/
def NoMatchRecorded (r : Redis) (a : RequestId) : Prop :=
  ∃ hash, r.attempt a = some hash ∧ hash.status = some .noMatch

/-- In `r'` nothing is left of a search the user had in `r`. -/
structure Freed (r r' : Redis) (u : UserId) : Prop where
  state : r'.userState u = none
  pool : ∀ key, u ∉ r'.pool key
  userLock : r'.userLock u = none
  pairLock : ∀ p, u ∈ p → r'.pairLock p = none
  last : ∀ a, r'.userLastAttempt u = some a → r'.NoMatchRecorded a
  proposal : ∀ p record, u ∈ p → r.pendingRecord p = some record →
    r'.pendingRecord p = none ∧ ∀ v a, v ≠ u → record.Names v a → r'.NoMatchRecorded a

/-- Neither a proposal nor a lock names the user, and the user's note names every
location bucket the user is in. -/
structure Unbound (r : Redis) (u : UserId) : Prop where
  pending : ∀ p, u ∈ p → r.pendingRecord p = none
  userLock : r.userLock u = none
  pairLock : ∀ p, u ∈ p → r.pairLock p = none
  noted : ∀ key, u ∈ r.pool key →
    key ∈ .poolGlobal :: RawMeta.buckets (r.poolUserLocationMeta u)

theorem release_userState (r : Redis) {p : Pair} {u : UserId} (hu : u ∈ p) :
    (r.release p).userState u = some .searching := by
  by_cases hhigh : u = p.high
  · subst hhigh
    exact Function.update_self ..
  · obtain rfl : u = p.low := (Pair.mem_iff.mp hu).resolve_right hhigh
    simp [release, hhigh]

theorem withdraw_notMem_iff (r : Redis) (u : UserId) :
    (∀ key, u ∉ (r.withdraw u).pool key) ↔ ∀ key, u ∈ r.pool key →
      key ∈ .poolGlobal :: RawMeta.buckets (r.poolUserLocationMeta u) := by
  have hmem : ∀ key, u ∈ (r.withdraw u).pool key ↔ u ∈ r.pool key ∧
      (key ∈ .poolGlobal :: RawMeta.buckets (r.poolUserLocationMeta u) → u ≠ u) :=
    fun key => mem_strip
  refine forall_congr' fun key => ?_
  rw [hmem]
  simp only [ne_eq, not_true_eq_false, imp_false, not_and, not_not]

/-- A search that nothing binds ends clean. -/
theorem Unbound.freed {r r' : Redis} {u : UserId} (h : r.Unbound u)
    (hstate : r'.userState = (r.withdraw u).userState) (hpool : r'.pool = (r.withdraw u).pool)
    (huserLock : r'.userLock = r.userLock) (hpairLock : r'.pairLock = r.pairLock)
    (hlast : ∀ a, r'.userLastAttempt u = some a → r'.NoMatchRecorded a) : r.Freed r' u where
  state := (congrFun hstate u).trans (Function.update_self ..)
  pool := hpool ▸ (withdraw_notMem_iff r u).mpr h.noted
  userLock := (congrFun huserLock u).trans h.userLock
  pairLock p hp := (congrFun hpairLock p).trans (h.pairLock p hp)
  last := hlast
  proposal p record hp hrecord := by
    rw [h.pending p hp] at hrecord
    cases hrecord

/-- A user who was freed without touching a proposal had been bound by none. -/
theorem Freed.unbound {r r' : Redis} {u : UserId} (h : r.Freed r' u)
    (hpool : r'.pool = (r.withdraw u).pool) (huserLock : r'.userLock = r.userLock)
    (hpairLock : r'.pairLock = r.pairLock) (hpending : r'.pairPending = r.pairPending) :
    r.Unbound u where
  pending p hp := by
    by_contra hne
    obtain ⟨record, hrecord⟩ := Option.ne_none_iff_exists'.mp hne
    have hgone := (h.proposal p record hp hrecord).1
    rw [pendingRecord, hpending] at hgone
    exact hne hgone
  userLock := (congrFun huserLock u).symm.trans h.userLock
  pairLock p hp := (congrFun hpairLock p).symm.trans (h.pairLock p hp)
  noted := (withdraw_notMem_iff r u).mp (hpool ▸ h.pool)

/-- The teardown of the user's own proposal leaves the user searching. -/
theorem not_freed_dissolve {r r' : Redis} {u peer : UserId} {pending : PairPendingRecord}
    {low high : String} (hpending : r.pendingRecord (Pair.of u peer) = some pending)
    (hafter : (r.withdraw u).Becomes (·.dissolve pending low high) r') : ¬ r.Freed r' u := by
  intro h
  obtain ⟨r₁, hbefore, hagree⟩ := hafter
  have hmem : u ∈ Pair.of u peer := Pair.mem_of.mpr (.inl rfl)
  by_cases hpair : Pair.of pending.userLow pending.userHigh = Pair.of u peer
  · have hstate : r'.userState u = some .searching := by
      rw [hagree.userState, ← release_userState (r₁.drop (Pair.of u peer)) hmem, ← hpair]
      rfl
    rw [h.state] at hstate
    cases hstate
  · have hkept : r'.pendingRecord (Pair.of u peer) = some pending := by
      have hdrop : (r₁.dissolve pending low high).pairPending (Pair.of u peer) =
          r₁.pairPending (Pair.of u peer) := Function.update_of_ne (Ne.symm hpair) _ _
      rw [pendingRecord, hagree.pairPending, hdrop, hbefore.pairPending]
      exact hpending
    rw [(h.proposal _ _ hmem hpending).1] at hkept
    cases hkept

end Redis

/-- **Cancelling frees the caller** exactly when neither a proposal nor a lock
names the caller and the caller's note names all the location buckets. -/
theorem cancelMatch_frees_iff (out : Outside) (w : World) (u : UserId) :
    w.redis.Freed ((cancelMatch u).run (exec out) w).2.redis u ↔ w.redis.Unbound u := by
  cases hlast : w.redis.userLastAttempt u with
  | none =>
      have hafter := @run_cancelMatch_none out w u hlast
      constructor
      · intro h
        exact h.unbound (by rw [hafter]) (by rw [hafter]; rfl) (by rw [hafter]; rfl)
          (by rw [hafter]; rfl)
      · intro h
        refine h.freed (by rw [hafter]) (by rw [hafter]) (by rw [hafter]; rfl)
          (by rw [hafter]; rfl) fun a ha => ?_
        rw [hafter] at ha
        cases hlast.symm.trans ha
  | some a =>
      obtain ⟨hclosed, hopen⟩ := @run_cancelMatch_some out w u a hlast
      cases hproposal : w.redis.openProposal u with
      | none =>
          have hafter := hclosed hproposal
          constructor
          · intro h
            exact h.unbound (by rw [hafter]; rfl) (by rw [hafter]; rfl) (by rw [hafter]; rfl)
              (by rw [hafter]; rfl)
          · intro h
            refine h.freed (by rw [hafter]; rfl) (by rw [hafter]; rfl) (by rw [hafter]; rfl)
              (by rw [hafter]; rfl) fun b hb => ?_
            rw [hafter] at hb ⊢
            obtain rfl : a = b := Option.some.inj ((Redis.put_last ..).symm.trans hb)
            obtain ⟨hash, hhash, -, hstatus, -⟩ := Redis.put_attempt (w.redis.withdraw u) a u
              (show ({ status := some .noMatch, reason := some "cancelled_by_user" } :
                AttemptHash).status = _ from rfl)
            exact ⟨hash, hhash, hstatus⟩
      | some pending =>
          obtain ⟨low, high, hafter⟩ := hopen pending hproposal
          obtain ⟨record, hrecord, hpeer⟩ := Option.bind_eq_some_iff.mp hproposal
          obtain ⟨peer, -, hpending⟩ := Option.bind_eq_some_iff.mp hpeer
          refine iff_of_false (Redis.not_freed_dissolve hpending hafter) fun h => ?_
          rw [h.pending _ (Pair.mem_of.mpr (.inl rfl))] at hpending
          cases hpending

namespace Sample

/-- Ann cancels while she is proposed to Ben, and is left searching. -/
theorem not_freed_proposal :
    proposal.redis.userState ann ≠ some .inRoom ∧
      ¬ proposal.redis.Freed ((cancelMatch ann).run (exec outside) proposal).2.redis ann := by
  have hstate : ((cancelMatch ann).run (exec outside) proposal).2.redis.userState ann =
      some .searching := by decide +kernel
  refine ⟨by decide +kernel, fun h => ?_⟩
  rw [h.state] at hstate
  cases hstate

end Sample

end Greetup.Matching
