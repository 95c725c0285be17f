import Greetup.Interleaving.Schedule
import Greetup.Matching.Footprint

/-!
Pending proposals under interleaving: what the vote script does, where records
are filed, and how a handler that answers a proposal gets to its decision.
-/

namespace Greetup.Matching

open Greetup.Interleaving Prog

/-! ### The vote script -/

namespace Redis

variable (r : Redis) (p q : Pair) (field : Side)

@[simp] theorem vote_pairPending :
    (r.vote p field).2.pairPending =
      Function.update r.pairPending p (some (r.connect p field)) := by
  simp only [vote]
  split_ifs <;> rfl

/-- A vote is answered 2 when it completes the two flags and nobody has been
elected yet. -/
theorem vote_eq_two_iff :
    (r.vote p field).1 = 2 ↔ (r.connect p field).connectLow ∧ (r.connect p field).connectHigh ∧
      r.pairConnectFinalize p = false := by
  simp only [vote]
  split_ifs with hflags hfinal
  · simp [hfinal]
  · simp [hflags, hfinal]
  · exact iff_of_false (by decide) fun h => hflags ⟨h.1, h.2.1⟩

theorem vote_pairConnectFinalize :
    (r.vote p field).2.pairConnectFinalize =
      if (r.vote p field).1 = 2 then Function.update r.pairConnectFinalize p true
      else r.pairConnectFinalize := by
  simp only [vote]
  split_ifs <;> first | rfl | simp_all

theorem vote_eq_two_of_ne (h : ¬ ((r.vote p field).1 = 0 ∨ (r.vote p field).1 = 1)) :
    (r.vote p field).1 = 2 := by
  simp only [vote] at h ⊢
  split_ifs at h ⊢ <;> simp at h ⊢

/-- A vote on a hash that does not hold the other side's flag elects nobody. -/
theorem vote_ne_two_of_alone
    (h : ∀ hash, r.pairPending p = some hash → hash.connected field.other = false) :
    (r.vote p field).1 ≠ 2 := by
  rw [Ne, vote_eq_two_iff]
  rintro ⟨hlow, hhigh, -⟩
  cases hp : r.pairPending p with
  | none => cases field <;> simp [connect, hp, PendingHash.connect] at hlow hhigh
  | some hash =>
      have halone := h hash hp
      cases field <;>
        simp [connect, hp, PendingHash.connect, PendingHash.connected, Side.other] at *
      · simp [halone] at hhigh
      · simp [halone] at hlow

/-- The record of the pair's pending proposal, as `readPending` finds it. -/
def pendingRecord (p : Pair) : Option PairPendingRecord := (r.pairPending p).bind (·.record)

/-- Every pending record is filed under the pair of its two users. -/
def PendingFiled : Prop :=
  ∀ p record, r.pendingRecord p = some record →
    record.userLow = p.low ∧ record.userHigh = p.high

end Redis

section Record

variable {out : Outside} {w : World} {c : Cmd}

/-- A record that is there after a command has just been written or was there
before. -/
theorem pendingRecord_of_exec {p : Pair} {record : PairPendingRecord}
    (h : (exec out c w).2.redis.pendingRecord p = some record) :
    c = .hsetPending p record ∨ w.redis.pendingRecord p = some record := by
  cases c with
  | hsetPending q new =>
      by_cases hpq : p = q
      · subst hpq
        exact .inl (by simpa [exec, World.modify, Redis.pendingRecord] using h)
      · exact .inr (by simpa [exec, World.modify, Redis.pendingRecord, hpq] using h)
  | delPending q =>
      by_cases hpq : p = q
      · simp [exec, World.modify, Redis.pendingRecord, hpq] at h
      · exact .inr (by simpa [exec, World.modify, Redis.pendingRecord, hpq] using h)
  | recordProposalConnect q field =>
      by_cases hpq : p = q
      · subst hpq
        refine .inr ?_
        cases hp : w.redis.pairPending p <;> cases field <;>
          simp_all [exec, Redis.pendingRecord, Redis.connect, PendingHash.connect]
      · exact .inr (by simpa [exec, Redis.pendingRecord, hpq] using h)
  | expired key =>
      cases key with
      | pairPending q =>
          by_cases hpq : p = q
          · simp [exec, World.modify, Redis.expire, Redis.pendingRecord, hpq] at h
          · exact .inr (by
              simpa [exec, World.modify, Redis.expire, Redis.pendingRecord, hpq] using h)
      | _ => exact .inr h
  | _ =>
      rw [Redis.pendingRecord, exec_pairPending (by simp)] at h
      exact .inr h

/-- The command files no record under a pair other than its own. -/
def Cmd.Files : Cmd → Prop
  | .hsetPending p record => record.userLow = p.low ∧ record.userHigh = p.high
  | _ => True

/-- A command of the service: it files records under their own pairs and lets no
key expire. -/
def Cmd.Regular (c : Cmd) : Prop := c.Files ∧ .expiry ∉ c.areas

theorem Redis.PendingFiled.exec (h : w.redis.PendingFiled) (hc : c.Files) :
    (exec out c w).2.redis.PendingFiled := by
  intro p record hp
  rcases pendingRecord_of_exec hp with rfl | hp
  · exact hc
  · exact h p record hp

end Record

/-! ### Records are filed under their own pair -/

theorem connectProposal_eq (u peer : UserId) (pending : PairPendingRecord) :
    connectProposal u peer pending =
      .call (.recordProposalConnect (Pair.of u peer) ((Pair.of u peer).side u)) fun rc =>
        if rc = 0 ∨ rc = 1 then .done (.ok ()) else finalizeProposal pending := rfl

theorem finalizeProposal_eq (pending : PairPendingRecord) :
    finalizeProposal pending =
      .call (.createRoom pending.roomInput) fun
        | .failed _ => abandonProposal pending
        | .ok roomId => completeMatch pending roomId := rfl

theorem proposalRecord_users (request : FindMatchRequest) (candidate : ScoredMatchCandidate)
    (a : RequestId) (f : Bool) :
    (proposalRecord request candidate a f).userLow =
        (Pair.of request.userId candidate.userId).low ∧
      (proposalRecord request candidate a f).userHigh =
        (Pair.of request.userId candidate.userId).high := by
  by_cases h : request.userId ≤ candidate.userId <;> simp [proposalRecord, Pair.of, h]

theorem proposalRecord_pair (request : FindMatchRequest) (candidate : ScoredMatchCandidate)
    (a : RequestId) (f : Bool) :
    Pair.of (proposalRecord request candidate a f).userLow
        (proposalRecord request candidate a f).userHigh =
      Pair.of request.userId candidate.userId := by
  obtain ⟨hlow, hhigh⟩ := proposalRecord_users request candidate a f
  rw [hlow, hhigh, Pair.of_low_high]

theorem Within.regular {α : Type} {S : List Area} {p : M α} (hp : Within S p)
    (h : .pending ∉ S ∧ .expiry ∉ S) : p.Uses Cmd.Regular := by
  refine hp.uses fun c hc => ⟨?_, fun he => h.2 (hc he)⟩
  cases c <;> first | trivial | exact absurd (hc (by simp)) h.1

theorem uses_regular_pairWithLocked (request : FindMatchRequest) (candidate : ScoredMatchCandidate)
    (f : Bool) : (pairWithLocked request candidate f).Uses Cmd.Regular := by
  have hrelease : (releasePair request.userId candidate.userId).Uses Cmd.Regular :=
    (within_releasePair _ _).regular (by decide)
  refine Uses.bind ((within_issue (S := []) (by simp)).regular (by decide)) fun lastId => ?_
  cases lastId with
  | none =>
      refine Uses.bind hrelease fun _ => ?_
      exact Uses.bind ((within_stripFromPool _).regular (by decide)) fun _ => uses_done _
  | some lastId =>
      dsimp only
      split_ifs
      · exact Uses.bind hrelease fun _ => uses_done _
      · refine Uses.bind ((within_getAttempt _).regular (by decide)) fun peerAttempt => ?_
        split_ifs
        · refine Uses.bind (Uses.bind ?_ fun _ => ?_) fun _ => uses_done _
          · refine ⟨⟨?_, by simp⟩, fun _ => (within_issue (S := []) (by simp)).regular (by decide)⟩
            rw [Cmd.Files, proposalRecord_pair]
            exact proposalRecord_users _ _ _ _
          · refine Uses.bind ((within_putAttempt _ _ _).regular (by decide)) fun _ => ?_
            refine Uses.bind ((within_putAttempt _ _ _).regular (by decide)) fun _ => ?_
            exact Uses.bind ((within_issue (S := [.notice]) (by simp)).regular (by decide))
              fun _ => uses_done _
        · exact Uses.bind hrelease fun _ => uses_done _

theorem uses_regular_dissolveProposal (pending : PairPendingRecord) (low high : String) :
    (dissolveProposal pending low high).Uses Cmd.Regular := by
  refine Uses.bind ⟨⟨trivial, by simp⟩, fun _ => trivial⟩ fun _ => ?_
  refine Uses.bind ((within_releasePair _ _).regular (by decide)) fun _ => ?_
  refine Uses.bind ((within_putAttempt _ _ _).regular (by decide)) fun _ => ?_
  exact (within_putAttempt _ _ _).regular (by decide)

theorem uses_regular_teardownProposal (pending : PairPendingRecord) (skipBy : Option UserId)
    (low high : String) : (teardownProposal pending skipBy low high).Uses Cmd.Regular :=
  Uses.bind ((within_recordSkipBy _ _).regular (by decide)) fun _ =>
    uses_regular_dissolveProposal pending low high

theorem uses_regular_connectProposal (u peer : UserId) (pending : PairPendingRecord) :
    (connectProposal u peer pending).Uses Cmd.Regular := by
  rw [connectProposal_eq, uses_call]
  refine ⟨⟨trivial, by simp⟩, fun rc => ?_⟩
  split_ifs
  · exact uses_done _
  · rw [finalizeProposal_eq, uses_call]
    refine ⟨⟨trivial, by simp⟩, fun room => ?_⟩
    cases room with
    | failed reason =>
        refine Uses.bind (uses_regular_dissolveProposal pending _ _) fun _ => ?_
        exact Uses.bind ((within_notifyCancelled _ _ _).regular (by decide)) fun _ => uses_done _
    | ok roomId =>
        refine Uses.bind ?_ fun _ => ⟨⟨trivial, by simp⟩, fun _ => trivial⟩
        refine Uses.bind ((within_markPairInRoom _ _).regular (by decide)) fun _ => ?_
        refine Uses.bind ((within_putAttempt _ _ _).regular (by decide)) fun _ => ?_
        refine Uses.bind ((within_putAttempt _ _ _).regular (by decide)) fun _ => ?_
        refine Uses.bind ⟨⟨trivial, by simp⟩, fun _ => trivial⟩ fun _ => ?_
        exact (within_recordMatchedPair _ _).regular (by decide)

/-! ### What is written when a proposal ends -/

/-- The command avoids the areas `S`, or it deletes a pending record. -/
def Cmd.Deletes (S : List Area) (c : Cmd) : Prop := c.Avoids S ∨ ∃ q, c = .delPending q

section Deletes

variable {S T : List Area}

theorem Cmd.Deletes.mono {c : Cmd} (h : c.Deletes S) (hTS : T ⊆ S) : c.Deletes T :=
  h.imp_left fun h => h.mono hTS

theorem Within.deletes {α : Type} {p : M α} (hp : Within T p) (h : ∀ a ∈ T, a ∉ S) :
    p.Uses (Cmd.Deletes S) :=
  (hp.avoids h).mono fun _ => .inl

theorem uses_dissolveProposal (pending : PairPendingRecord) (low high : String) :
    (dissolveProposal pending low high).Uses (Cmd.Deletes [.pending, .room, .completed]) := by
  refine Uses.bind ((uses_perform _).mpr (.inr ⟨_, rfl⟩)) fun _ => ?_
  refine Uses.bind ((within_releasePair _ _).deletes (by decide)) fun _ => ?_
  refine Uses.bind ((within_putAttempt _ _ _).deletes (by decide)) fun _ => ?_
  exact (within_putAttempt _ _ _).deletes (by decide)

theorem uses_teardownProposal (pending : PairPendingRecord) (skipBy : Option UserId)
    (low high : String) :
    (teardownProposal pending skipBy low high).Uses
      (Cmd.Deletes [.pending, .room, .completed]) :=
  Uses.bind ((within_recordSkipBy _ _).deletes (by decide)) fun _ =>
    uses_dissolveProposal pending low high

theorem uses_skipProposal (u : UserId) (pending : PairPendingRecord) :
    (skipProposal u pending).Uses (Cmd.Deletes [.pending, .room, .completed]) :=
  Uses.bind (uses_teardownProposal _ _ _ _) fun _ =>
    Uses.bind ((within_notifyCancelled _ _ _).deletes (by decide)) fun _ => uses_done _

theorem uses_cancelProposal (u : UserId) (pending : PairPendingRecord) :
    (cancelProposal u pending).Uses (Cmd.Deletes [.pending, .room, .completed]) :=
  Uses.bind (uses_teardownProposal _ _ _ _) fun _ =>
    (within_notifyCancelled _ _ _).deletes (by decide)

theorem uses_abandonProposal (pending : PairPendingRecord) :
    (abandonProposal pending).Uses (Cmd.Deletes [.pending, .room, .completed]) :=
  Uses.bind (uses_dissolveProposal _ _ _) fun _ =>
    Uses.bind ((within_notifyCancelled _ _ _).deletes (by decide)) fun _ => uses_done _

theorem uses_enterRoom (pending : PairPendingRecord) (roomId : RoomId) :
    (enterRoom pending roomId).Uses (Cmd.Deletes [.pending, .room, .completed]) := by
  refine Uses.bind ((within_markPairInRoom _ _).deletes (by decide)) fun _ => ?_
  refine Uses.bind ((within_putAttempt _ _ _).deletes (by decide)) fun _ => ?_
  refine Uses.bind ((within_putAttempt _ _ _).deletes (by decide)) fun _ => ?_
  refine Uses.bind ((uses_perform _).mpr (.inr ⟨_, rfl⟩)) fun _ => ?_
  exact (within_recordMatchedPair _ _).deletes (by decide)

theorem uses_completeMatch (pending : PairPendingRecord) (roomId : RoomId) :
    (completeMatch pending roomId).Uses (Cmd.Deletes [.pending, .room]) := by
  refine Uses.bind ((uses_enterRoom pending roomId).mono fun c hc => hc.mono (by simp)) fun _ => ?_
  exact Uses.bind ((uses_perform _).mpr (.inl (by simp [Cmd.Avoids]))) fun _ => uses_done _

end Deletes

/-! ### How an answer gets to its decision -/

theorem uses_respondToMatchProposal {N : Cmd → Prop} (hread : ∀ c : Cmd, c.areas = [] → N c)
    {u : UserId} {a : RequestId} {decision : Decision}
    (hdecide : ∀ peer pending, (match decision with
      | .skip => skipProposal u pending
      | .connect => connectProposal u peer pending).Uses N) :
    (respondToMatchProposal u a decision).Uses N := by
  have hnil : ∀ {β : Type} {p : M β}, Within [] p → p.Uses N := fun hp =>
    hp.uses fun c hc => hread c (List.subset_nil.mp hc)
  refine Uses.bind (hnil (within_getAttempt a)) fun attempt => ?_
  cases attempt with
  | none => exact uses_done _
  | some attempt =>
      simp only
      split_ifs
      · exact uses_done _
      · split
        · next peer _ _ =>
            refine Uses.bind (hnil (within_readPending _ _)) fun pending => ?_
            cases pending with
            | none => exact uses_done _
            | some pending =>
                have hpending := hdecide peer pending
                cases decision <;> exact hpending
        · exact uses_done _

theorem uses_cancelMatch {N : Cmd → Prop} (hread : ∀ c : Cmd, c.areas = [] → N c) {u : UserId}
    (hremove : (remove u).Uses N)
    (hmark : ∀ a, (markNoMatch a u "cancelled_by_user").Uses N)
    (hpending : ∀ pending, (cancelProposal u pending).Uses N) : (cancelMatch u).Uses N := by
  have hnil : ∀ {β : Type} {p : M β}, Within [] p → p.Uses N := fun hp =>
    hp.uses fun c hc => hread c (List.subset_nil.mp hc)
  refine Uses.bind ((uses_perform _).mpr (hread _ rfl)) fun requestId => ?_
  refine Uses.bind hremove fun _ => ?_
  cases requestId with
  | none => exact uses_done _
  | some requestId =>
      refine Uses.bind (hnil (within_getAttempt _)) fun attempt => ?_
      split
      · exact hmark _
      · refine Uses.bind (hnil (within_readPending _ _)) fun pending => ?_
        cases pending with
        | none => exact hmark _
        | some pending => exact hpending _

/-- Every command of an operation is a regular one. -/
theorem Op.regular [Host] (op : Op) : op.prog.Uses Cmd.Regular := by
  have hread : ∀ c : Cmd, c.areas ⊆ [.snapshot] → c.Regular := by
    refine fun c hc => ⟨?_, fun he => absurd (hc he) (by decide)⟩
    cases c <;> first | trivial | exact absurd (hc (List.mem_singleton_self _)) (by decide)
  have hnil : ∀ c : Cmd, c.areas = [] → c.Regular := fun c hc =>
    hread c (by rw [hc]; exact List.nil_subset _)
  have hjob : ∀ job, (Matching.processMatchRequest job).Uses Cmd.Regular := fun job =>
    uses_processMatchRequest hread (fun _ => ⟨trivial, by simp⟩) (uses_regular_pairWithLocked job)
      (fun _ => (within_putAttempt _ _ _).regular (by decide))
      ((within_remove _).regular (by decide))
      fun _ => ⟨trivial, by simp⟩
  have hnotify : ∀ pending low high, (notifyCancelled pending low high).Uses Cmd.Regular :=
    fun _ _ _ => (within_notifyCancelled _ _ _).regular (by decide)
  cases op with
  | startFindMatch polls request =>
      exact ((within_startFindMatch polls request).regular (by decide)).map _
  | processMatchRequest request => exact (hjob request).map _
  | respondToMatchProposal u a decision =>
      refine (uses_respondToMatchProposal hnil fun peer pending => ?_).map _
      cases decision with
      | skip =>
          refine Uses.bind (uses_regular_teardownProposal _ _ _ _) fun _ => ?_
          exact Uses.bind (hnotify _ _ _) fun _ => uses_done _
      | connect => exact uses_regular_connectProposal _ _ _
  | cancelMatch u =>
      refine (uses_cancelMatch hnil ((within_remove u).regular (by decide))
        (fun a => (within_putAttempt _ _ _).regular (by decide)) fun pending => ?_).map _
      exact Uses.bind (uses_regular_teardownProposal _ _ _ _) fun _ => hnotify _ _ _
  | leaveRoom u => exact ((within_leaveRoom u).regular (by decide)).map _
  | runLoop rounds => exact (uses_runLoop ⟨trivial, by simp⟩ hjob rounds).map _

/-- In every store that a sequence of calls can leave, records are filed under
their own pair. -/
theorem Redis.pendingFiled_foldl [Host] (out : Outside) {w : World} (h : w.redis.PendingFiled)
    (ops : List Op) : (ops.foldl (Op.after out) w).redis.PendingFiled := by
  induction ops generalizing w with
  | nil => exact h
  | cons op ops ih =>
      refine ih (Uses.run_keeps (I := fun w : World => w.redis.PendingFiled) op.regular ?_ h)
      exact fun c hc w hw => hw.exec hc.1

theorem Redis.pendingFiled_empty : Redis.empty.PendingFiled :=
  fun _ _ h => by simp [Redis.pendingRecord, Redis.empty] at h

section Rules

variable {ι α : Type} {out : Outside} {o : Outline ι (exec out)} {i : ι} {N : Cmd → Prop}
  {s : Scene ι Cmd Cmd.Reply World}

/-- Reading the pending record, the continuation knows what was there. -/
theorem keeps_readPending_bind (hN : o.Quiet i N) (hread : ∀ c : Cmd, c.areas = [] → N c)
    {a b : UserId} {f : Option PairPendingRecord → M α}
    {Q : α → Scene ι Cmd Cmd.Reply World → Prop}
    (hf : ∀ s', Scene.Since o.key i s s' → o.inv s' →
      o.Keeps i (f (s'.world.redis.pendingRecord (Pair.of a b))) Q s') :
    o.Keeps i (readPending a b >>= f) Q s := by
  intro s' hs hI ha
  have hI' := hN.inv_after _ (hread _ rfl) s' hI ha
  exact ⟨hI', hf _ (hs.trans (.of_not_key _ _ _ (hN.not_key _ (hread _ rfl)))) hI'⟩

variable {Q : Except String Unit → Scene ι Cmd Cmd.Reply World → Prop}

/-- An answer to a proposal either fails or goes on with a record that the store
held for the user and the peer. -/
theorem keeps_respondToMatchProposal (hN : o.Quiet i N) (hread : ∀ c : Cmd, c.areas = [] → N c)
    (hs : o.inv s) {u : UserId} {a : RequestId} {decision : Decision}
    (herror : ∀ e s', Scene.Since o.key i s s' → o.inv s' → Q (.error e) s')
    (hpending : ∀ peer pending s', Scene.Since o.key i s s' → o.inv s' →
      s'.world.redis.pendingRecord (Pair.of u peer) = some pending →
      o.Keeps i
        (match decision with
          | .skip => skipProposal u pending
          | .connect => connectProposal u peer pending) Q s') :
    o.Keeps i (respondToMatchProposal u a decision) Q s := by
  have hfail : ∀ e s', Scene.Since o.key i s s' → o.Keeps i (.done (.error e)) Q s' :=
    fun e s' hs' s'' hs'' hI => herror e s'' (hs'.trans hs'') hI
  refine hN.keeps_bind ((within_getAttempt a).uses fun c hc => hread c (List.subset_nil.mp hc)) hs
    fun attempt s' hs' hI' => ?_
  cases attempt with
  | none => exact hfail _ s' hs'
  | some attempt =>
      simp only
      split_ifs
      · exact hfail _ s' hs'
      · split
        · next peer _ _ =>
            refine keeps_readPending_bind hN hread fun s'' hs'' hI'' => ?_
            cases hp : s''.world.redis.pendingRecord (Pair.of u peer) with
            | none => exact hfail _ s'' (hs'.trans hs'')
            | some pending =>
                have hdecide := hpending peer pending s'' (hs'.trans hs'') hI'' hp
                cases decision <;> exact hdecide
        · exact hfail _ s' hs'

end Rules

end Greetup.Matching
