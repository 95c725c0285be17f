import Greetup.Matching.Proposal

/-!
Who creates the room.

Both users vote on the pending hash; the vote that completes it is answered 2
and elects its caller. The finalize key that makes the election unique is
deleted together with the hash, and a vote on a deleted hash creates it anew:
the election is unique exactly as long as nobody votes on a deleted hash.
-/

namespace Greetup.Matching

open Greetup.Interleaving Prog

variable {ι : Type}

/-! ### Events -/

/-- A vote on the pair's hash that was answered 2. -/
def elects (p : Pair) : Event ι Cmd Cmd.Reply → Bool
  | ⟨_, .recordProposalConnect q _, rc⟩ => q = p ∧ rc = 2
  | _ => false

/-- A room is requested for the pair. -/
def requestsRoom (p : Pair) : Event ι Cmd Cmd.Reply → Bool
  | ⟨_, .createRoom input, _⟩ => input.requesterId = p.low ∧ input.peerUserId = p.high
  | _ => false

/-- The pair's hash is deleted. -/
def deletes (p : Pair) : Event ι Cmd Cmd.Reply → Bool
  | ⟨_, .delPending q, _⟩ => q = p
  | _ => false

theorem elects_of_not_mem_areas {p : Pair} {i : ι} {c : Cmd} {r : c.Reply}
    (h : .pending ∉ c.areas) : elects p ⟨i, c, r⟩ = false := by
  cases c <;> first | rfl | exact absurd (by simp) h

theorem deletes_of_not_mem_areas {p : Pair} {i : ι} {c : Cmd} {r : c.Reply}
    (h : .pending ∉ c.areas) : deletes p ⟨i, c, r⟩ = false := by
  cases c <;> first | rfl | exact absurd (by simp) h

theorem requestsRoom_of_not_mem_areas {p : Pair} {i : ι} {c : Cmd} {r : c.Reply}
    (h : .room ∉ c.areas) : requestsRoom p ⟨i, c, r⟩ = false := by
  cases c <;> first | rfl | exact absurd (by simp) h

/-! ### The invariant -/

variable (out : Outside) (p : Pair)

/-- A vote on the pair is only taken while its hash is there. -/
def VotesOnLive (_ : ι) (c : Cmd) (s : Scene ι Cmd Cmd.Reply World) : Prop :=
  match c with
  | .recordProposalConnect q _ => q = p → s.world.redis.pairPending p ≠ none
  | _ => True

/-- A vote on the pair after its hash was deleted is answered 0 and leaves no
hash. -/
def LateVoteIsIdle (_ : ι) (c : Cmd) (s : Scene ι Cmd Cmd.Reply World) : Prop :=
  match c with
  | .recordProposalConnect q field => q = p → (∃ e ∈ s.trace, deletes p e) →
    (exec out (.recordProposalConnect q field) s.world).1 = 0 ∧
      (exec out (.recordProposalConnect q field) s.world).2.redis.pairPending p = none
  | _ => True

instance (i : ι) (c : Cmd) (s : Scene ι Cmd Cmd.Reply World) :
    Decidable (VotesOnLive p i c s) := by
  unfold VotesOnLive
  split <;> infer_instance

structure ElectionInv (s : Scene ι Cmd Cmd.Reply World) : Prop where
  filed : s.world.redis.PendingFiled
  once : Scene.AtMostOnce (elects p) s
  closed : (∃ e ∈ s.trace, elects p e) →
    s.world.redis.pairConnectFinalize p = true ∨ s.world.redis.pairPending p = none
  roomOnce : Scene.AtMostOnce (requestsRoom p) s
  elected : ∀ e ∈ s.trace, requestsRoom p e → ∃ e' ∈ s.trace, e'.tid = e.tid ∧ elects p e'
  gone : (∃ e ∈ s.trace, deletes p e) → s.world.redis.pairPending p = none

/-- Tracked are the requests for a room. -/
def electionOutline : Outline ι (exec out) where
  key c := .room ∈ c.areas
  inv := ElectionInv p
  allowed := VotesOnLive p

variable {out p} {i : ι} {s s' : Scene ι Cmd Cmd.Reply World}

theorem ElectionInv.after_of_not_room (h : ElectionInv p s) {c : Cmd} (hroom : .room ∉ c.areas)
    (hfiles : c.Files) (honce : Scene.AtMostOnce (elects p) (s.after (exec out) i c))
    (hclosed : (∃ e ∈ (s.after (exec out) i c).trace, elects p e) →
      (exec out c s.world).2.redis.pairConnectFinalize p = true ∨
        (exec out c s.world).2.redis.pairPending p = none)
    (hgone : (∃ e ∈ (s.after (exec out) i c).trace, deletes p e) →
      (exec out c s.world).2.redis.pairPending p = none) :
    ElectionInv p (s.after (exec out) i c) where
  filed := h.filed.exec hfiles
  once := honce
  closed := hclosed
  roomOnce := h.roomOnce.after_of_false (requestsRoom_of_not_mem_areas hroom)
  elected := by
    intro e he hreq
    rcases List.mem_cons.mp he with rfl | he
    · simp [requestsRoom_of_not_mem_areas hroom] at hreq
    · obtain ⟨e', he', htid, helects⟩ := h.elected e he hreq
      exact ⟨e', List.mem_cons_of_mem _ he', htid, helects⟩
  gone := hgone

theorem ElectionInv.after_of_avoids (h : ElectionInv p s) {c : Cmd}
    (hc : c.Avoids [.pending, .room]) : ElectionInv p (s.after (exec out) i c) := by
  have hpending : .pending ∉ c.areas := fun ha => hc _ ha (by decide)
  have helects := elects_of_not_mem_areas (ι := ι) (p := p) (i := i)
    (r := (exec out c s.world).1) hpending
  refine h.after_of_not_room (fun ha => hc _ ha (by decide)) ?_
    (h.once.after_of_false helects) (fun hel => ?_) fun hdel => ?_
  · cases c <;> first | trivial | exact absurd (by simp) hpending
  · rw [exec_pairConnectFinalize hpending, exec_pairPending hpending]
    simp only [Scene.after_trace, List.exists_mem_cons_iff, helects, Bool.false_eq_true,
      false_or] at hel
    exact h.closed hel
  · rw [exec_pairPending hpending]
    simp only [Scene.after_trace, List.exists_mem_cons_iff, deletes_of_not_mem_areas hpending,
      Bool.false_eq_true, false_or] at hdel
    exact h.gone hdel

theorem ElectionInv.after_delPending (h : ElectionInv p s) (q : Pair) :
    ElectionInv p (s.after (exec out) i (.delPending q)) := by
  by_cases hqp : p = q
  · have hnone : (exec out (.delPending q) s.world).2.redis.pairPending p = none := by
      simp [exec, World.modify, hqp]
    exact h.after_of_not_room (by simp) trivial (h.once.after_of_false rfl) (fun _ => .inr hnone)
      fun _ => hnone
  · refine h.after_of_not_room (by simp) trivial (h.once.after_of_false rfl) (fun hel => ?_)
      fun hdel => ?_
    · simp only [Scene.after_trace, List.exists_mem_cons_iff, elects, Bool.false_eq_true,
        false_or] at hel
      simpa [exec, World.modify, hqp] using h.closed hel
    · have hdel' : deletes p ⟨i, .delPending q, (exec out (.delPending q) s.world).1⟩ = false :=
        decide_eq_false fun h => hqp h.symm
      simp only [Scene.after_trace, List.exists_mem_cons_iff, hdel', Bool.false_eq_true,
        false_or] at hdel
      simpa [exec, World.modify, hqp] using h.gone hdel

/-- A vote on a hash that is there elects at most one caller: the finalize key
is still that of the first. -/
theorem ElectionInv.after_vote (h : ElectionInv p s) (q : Pair) (field : Side)
    (hlive : VotesOnLive p i (.recordProposalConnect q field) s) :
    ElectionInv p (s.after (exec out) i (.recordProposalConnect q field)) := by
  have hkeep : ∀ c, (∃ e ∈ (s.after (exec out) i (.recordProposalConnect q field)).trace,
      deletes c e) → ∃ e ∈ s.trace, deletes c e := by
    rintro c ⟨e, he, hdel⟩
    rcases List.mem_cons.mp he with rfl | he
    · simp [deletes] at hdel
    · exact ⟨e, he, hdel⟩
  by_cases hqp : q = p
  · subst hqp
    have hsome := hlive rfl
    have hgone : ∀ hdel, (exec out (.recordProposalConnect q field) s.world).2.redis.pairPending q
        = none := fun hdel => absurd (h.gone (hkeep q hdel)) hsome
    by_cases hrc : (s.world.redis.vote q field).1 = 2
    · have hnone : ∀ e ∈ s.trace, elects q e = false := by
        intro e he
        by_contra hel
        rcases h.closed ⟨e, he, by simpa using hel⟩ with hfinal | hgone
        · rw [Redis.vote_eq_two_iff, hfinal] at hrc
          exact absurd hrc.2.2 (by decide)
        · exact hsome hgone
      refine h.after_of_not_room (by simp) trivial (.after_of_none hnone) (fun _ => .inl ?_) hgone
      simp [exec, Redis.vote_pairConnectFinalize, hrc]
    · have helects : elects q ⟨i, .recordProposalConnect q field,
          (exec out (.recordProposalConnect q field) s.world).1⟩ = false := by
        simp [elects, exec, hrc]
      refine h.after_of_not_room (by simp) trivial (h.once.after_of_false helects) (fun hel => ?_)
        hgone
      simp only [Scene.after_trace, List.exists_mem_cons_iff, helects, Bool.false_eq_true,
        false_or] at hel
      refine .inl ?_
      rw [exec, Redis.vote_pairConnectFinalize, if_neg hrc]
      exact (h.closed hel).resolve_right hsome
  · have helects : elects p ⟨i, .recordProposalConnect q field,
        (exec out (.recordProposalConnect q field) s.world).1⟩ = false := by
      simp [elects, hqp]
    have hpq : p ≠ q := fun hpq => hqp hpq.symm
    refine h.after_of_not_room (by simp) trivial (h.once.after_of_false helects) (fun hel => ?_)
      fun hdel => by simpa [exec, hpq] using h.gone (hkeep p hdel)
    simp only [Scene.after_trace, List.exists_mem_cons_iff, helects, Bool.false_eq_true,
      false_or] at hel
    have hfinal : (exec out (.recordProposalConnect q field) s.world).2.redis.pairConnectFinalize p
        = s.world.redis.pairConnectFinalize p := by
      simp only [exec, Redis.vote_pairConnectFinalize]
      split_ifs <;> simp [hpq]
    rw [hfinal]
    simpa [exec, hpq] using h.closed hel

/-- The elected caller requests the room, and has not requested one before. -/
theorem ElectionInv.after_createRoom (h : ElectionInv p s) (input : CreateRoomInput)
    (hfirst : ∀ e ∈ s.trace, e.tid = i → .room ∉ e.cmd.areas)
    (hel : requestsRoom p ⟨i, .createRoom input, (exec out (.createRoom input) s.world).1⟩ →
      ∃ e ∈ s.trace, e.tid = i ∧ elects p e) :
    ElectionInv p (s.after (exec out) i (.createRoom input)) where
  filed := h.filed.exec trivial
  once := h.once.after_of_false rfl
  closed := by
    intro hex
    simp only [Scene.after_trace, List.exists_mem_cons_iff, elects, Bool.false_eq_true,
      false_or] at hex
    exact h.closed hex
  roomOnce := by
    by_cases hreq : requestsRoom p ⟨i, .createRoom input, (exec out (.createRoom input) s.world).1⟩
    · obtain ⟨e', he', htid', helects'⟩ := hel hreq
      refine .after_of_none fun e he => ?_
      by_contra hreq'
      -- an earlier request would be by the same elected caller
      obtain ⟨e'', he'', htid'', helects''⟩ := h.elected e he (by simpa using hreq')
      have hsame : e' = e'' := h.once.eq he' he'' helects' helects''
      have htid : e.tid = i := by rw [← htid'', ← hsame, htid']
      have hroom := hfirst e he htid
      rcases e with ⟨j, c, r⟩
      exact hreq' (requestsRoom_of_not_mem_areas hroom)
    · exact h.roomOnce.after_of_false (by simpa using hreq)
  elected := by
    intro e he hreq
    rcases List.mem_cons.mp he with rfl | he
    · obtain ⟨e', he', htid', helects'⟩ := hel hreq
      exact ⟨e', List.mem_cons_of_mem _ he', htid', helects'⟩
    · obtain ⟨e', he', htid', helects'⟩ := h.elected e he hreq
      exact ⟨e', List.mem_cons_of_mem _ he', htid', helects'⟩
  gone := by
    intro hex
    simp only [Scene.after_trace, List.exists_mem_cons_iff, deletes, Bool.false_eq_true,
      false_or] at hex
    exact h.gone hex

/-! ### The handler -/

/-- What a connect does: it writes no pending record. -/
def Cmd.Connects (c : Cmd) : Prop :=
  c.Deletes [.pending] ∨ ∃ q field, c = .recordProposalConnect q field

theorem quiet_election (i : ι) :
    (electionOutline out p).Quiet i (Cmd.Deletes [.pending, .room]) where
  not_key := by
    rintro c (hc | ⟨q, rfl⟩)
    · exact fun hroom => hc _ hroom (by decide)
    · simp [electionOutline]
  inv_after := by
    rintro c (hc | ⟨q, rfl⟩) s hI -
    · exact ElectionInv.after_of_avoids hI hc
    · exact ElectionInv.after_delPending hI q

/-- Only the caller that the vote elects goes on to request a room. -/
theorem keeps_connectProposal {u peer : UserId} {pending : PairPendingRecord}
    (hfiled : pending.userLow = (Pair.of u peer).low ∧ pending.userHigh = (Pair.of u peer).high)
    (hfirst : ∀ e ∈ s.trace, e.tid = i → .room ∉ e.cmd.areas) :
    (electionOutline out p).Keeps i (connectProposal u peer pending) (fun _ _ => True) s := by
  rw [connectProposal_eq, Outline.keeps_call]
  intro s₁ hs₁ hI₁ hlive
  refine ⟨ElectionInv.after_vote hI₁ _ _ hlive, ?_⟩
  split_ifs with hrc
  · exact fun _ _ _ => trivial
  · -- the caller has been elected
    rw [finalizeProposal_eq, Outline.keeps_call]
    intro s₂ hs₂ hI₂ _
    have hvote : ⟨i, .recordProposalConnect (Pair.of u peer) ((Pair.of u peer).side u),
        (exec out (.recordProposalConnect (Pair.of u peer) ((Pair.of u peer).side u))
          s₁.world).1⟩ ∈ s₂.trace := hs₂.mem List.mem_cons_self
    refine ⟨ElectionInv.after_createRoom hI₂ _ (fun e he htid hroom => ?_) fun hreq => ?_, ?_⟩
    · have hsince := (hs₁.trans (.of_not_key (exec out) s₁ i (by simp [electionOutline]))).trans hs₂
      exact hfirst e (hsince.mem_of_key he htid hroom) htid hroom
    · refine ⟨_, hvote, rfl, ?_⟩
      have hpair : Pair.of u peer = p := by
        simp only [requestsRoom, PairPendingRecord.roomInput, hfiled.1, hfiled.2,
          decide_eq_true_eq] at hreq
        exact Pair.ext hreq.1 hreq.2
      subst hpair
      exact decide_eq_true ⟨rfl, Redis.vote_eq_two_of_ne _ _ _ hrc⟩
    · cases (exec out (.createRoom pending.roomInput) s₂.world).1 with
      | failed reason =>
          exact (quiet_election i).keeps
            ((uses_abandonProposal _).mono fun c hc => hc.mono (by simp)) fun _ _ _ _ => trivial
      | ok roomId =>
          exact (quiet_election i).keeps (uses_completeMatch _ _) fun _ _ _ _ => trivial

theorem keeps_respond_connect (hs : ElectionInv p s) (u : UserId) (a : RequestId)
    (hfirst : ∀ e ∈ s.trace, e.tid = i → .room ∉ e.cmd.areas) :
    (electionOutline out p).Keeps i (respondToMatchProposal u a .connect) (fun _ _ => True) s := by
  refine keeps_respondToMatchProposal (quiet_election i)
    (fun c hc => .inl (.of_nil hc)) hs (fun _ _ _ _ => trivial)
    fun peer pending s' hs' hI' hpending => ?_
  refine keeps_connectProposal (hI'.filed _ _ hpending) fun e he htid hroom => ?_
  exact hfirst e (hs'.mem_of_key he htid hroom) htid hroom

theorem uses_connectProposal (u peer : UserId) (pending : PairPendingRecord) :
    (connectProposal u peer pending).Uses Cmd.Connects := by
  rw [connectProposal_eq, uses_call]
  refine ⟨.inr ⟨_, _, rfl⟩, fun rc => ?_⟩
  split_ifs
  · exact uses_done _
  · rw [finalizeProposal_eq, uses_call]
    refine ⟨.inl (.inl (by simp [Cmd.Avoids])), fun room => ?_⟩
    cases room with
    | failed reason =>
        exact (uses_abandonProposal pending).mono fun c hc => .inl (hc.mono (by simp))
    | ok roomId =>
        exact (uses_completeMatch pending roomId).mono fun c hc => .inl (hc.mono (by simp))

/-! ### The election -/

/-- Any number of connects, each by some user for some attempt. -/
def connects (calls : ι → UserId × RequestId) (w : World) :
    Conf ι Cmd Cmd.Reply (Except String Unit) World where
  threads i := respondToMatchProposal (calls i).1 (calls i).2 .connect
  scene := ⟨w, []⟩

/-- As long as a hash is missing only because it was deleted, an idle late vote
is no vote at all. -/
def livenessOutline (out : Outside) (p : Pair) : Outline ι (exec out) where
  key _ := False
  inv s := s.world.redis.pairPending p = none → ∃ e ∈ s.trace, deletes p e
  allowed := LateVoteIsIdle out p

theorem quiet_liveness (i : ι) : (livenessOutline out p).Quiet i Cmd.Connects where
  not_key _ _ := id
  inv_after := by
    intro c hc s hI _ hnone
    have hold : s.world.redis.pairPending p = none →
        ∃ e ∈ (s.after (exec out) i c).trace, deletes p e := fun h =>
      (hI h).imp fun e he => ⟨List.mem_cons_of_mem _ he.1, he.2⟩
    rcases hc with (hc | ⟨q, rfl⟩) | ⟨q, field, rfl⟩
    · have hpending : .pending ∉ c.areas := fun ha => hc _ ha (by decide)
      rw [Scene.after_world, exec_pairPending hpending] at hnone
      exact hold hnone
    · by_cases hpq : p = q
      · exact ⟨_, List.mem_cons_self, decide_eq_true hpq.symm⟩
      · exact hold (by simpa [exec, World.modify, hpq] using hnone)
    · by_cases hpq : p = q
      · simp [exec, hpq] at hnone
      · exact hold (by simpa [exec, hpq] using hnone)

variable [DecidableEq ι]

/-- **The election of the room's creator.** Whatever the connects and their
order, exactly as long as every vote finds the hash it votes on: at most one
vote is answered 2, at most one room is requested, and no vote after the
deletion of the hash elects or brings the hash back. -/
theorem election_unique_iff {w : World} (hfiled : w.redis.PendingFiled)
    {record : PairPendingRecord} (hrecord : w.redis.pendingRecord p = some record)
    (calls : ι → UserId × RequestId) (sched : List ι) :
    (((connects calls w).runs (exec out) sched).scene.AtMostOnce (elects p) ∧
        ((connects calls w).runs (exec out) sched).scene.AtMostOnce (requestsRoom p) ∧
        (connects calls w).Meets (exec out) (LateVoteIsIdle out p) sched) ↔
      (connects calls w).Meets (exec out) (VotesOnLive p) sched := by
  constructor
  · rintro ⟨-, -, hidle⟩
    have hstart : (livenessOutline out p).inv (connects calls w).scene := by
      intro hnone
      simp [Redis.pendingRecord, show w.redis.pairPending p = none from hnone] at hrecord
    have huses : ∀ u a, (respondToMatchProposal u a .connect).Uses Cmd.Connects := fun u a =>
      uses_respondToMatchProposal (fun c hc => Or.inl (.inl (.of_nil hc))) fun peer pending =>
        uses_connectProposal u peer pending
    have hkeeps : ∀ i, (livenessOutline out p).Keeps i ((connects calls w).threads i)
        (fun _ _ => True) (connects calls w).scene := fun i =>
      (quiet_liveness i).keeps (huses _ _) fun _ _ _ _ => trivial
    refine Outline.meets_of_inv (o := livenessOutline out p) hstart hkeeps ?_ hidle
    · intro i c s hI hlate
      cases c with
      | recordProposalConnect q field =>
          rintro rfl hnone
          have hgone := (hlate rfl (hI hnone)).2
          simp [exec] at hgone
      | _ => trivial
  · intro hlive
    have hstart : ElectionInv p (connects calls w).scene :=
      { filed := hfiled
        once := by simp [connects, Scene.AtMostOnce]
        closed := by simp [connects]
        roomOnce := by simp [connects, Scene.AtMostOnce]
        elected := by simp [connects]
        gone := by simp [connects] }
    have hkeeps : ∀ i, (electionOutline out p).Keeps i ((connects calls w).threads i)
        (fun _ _ => True) (connects calls w).scene :=
      fun i => keeps_respond_connect hstart _ _ (by simp [connects])
    have hend := (Outline.keeps_runs (o := electionOutline out p) hstart hkeeps hlive).1
    refine ⟨hend.once, hend.roomOnce, ?_⟩
    refine Outline.meets_of_inv (o := electionOutline out p) hstart hkeeps ?_ hlive
    intro i c s hI hvote
    cases c with
    | recordProposalConnect q field =>
        rintro rfl hdel
        exact absurd (hI.gone hdel) (hvote rfl)
    | _ => trivial

/-! ### Taps in time and late taps -/

namespace Sample

def taps (i : Fin 4) : UserId × RequestId :=
  if i = 0 ∨ i = 2 then (ann, annSearch) else (ben, benSearch)

theorem proposal_pendingFiled : proposal.redis.PendingFiled :=
  @Redis.pendingFiled_foldl host outside start Redis.pendingFiled_empty _

/-- Each user taps Connect once, the first caller waits, the second gets the room. -/
def inTime : List (Fin 4) := List.replicate 3 0 ++ List.replicate 30 1

theorem election_unique_in_time :
    ((connects taps proposal).runs (exec outside) inTime).scene.AtMostOnce (elects pair) ∧
      ((connects taps proposal).runs (exec outside) inTime).scene.AtMostOnce (requestsRoom pair) ∧
      (connects taps proposal).Meets (exec outside) (LateVoteIsIdle outside pair) inTime :=
  (election_unique_iff proposal_pendingFiled
    (show proposal.redis.pendingRecord pair = some record by decide +kernel) taps
    inTime).mpr (by decide +kernel)

/-- Both users tap twice; the second taps have read the record when the first
ones complete the match, and vote when it is gone. -/
def late : List (Fin 4) :=
  [2, 2, 3, 3] ++ List.replicate 3 0 ++ List.replicate 22 1 ++ [2, 3, 3]

/-- Two callers are elected, two rooms are requested, and the hash is back. -/
theorem elected_twice :
    proposal.redis.pendingRecord pair = some record ∧
      ¬ ((connects taps proposal).runs (exec outside) late).scene.AtMostOnce (elects pair) ∧
      ¬ ((connects taps proposal).runs (exec outside) late).scene.AtMostOnce (requestsRoom pair) ∧
      ((connects taps proposal).runs (exec outside) late).scene.world.redis.pairPending pair ≠
        none := by
  decide +kernel

end Sample

end Greetup.Matching
