import Greetup.Matching.Election

/-!
How a proposal is settled.

The two users of a proposal may connect, skip and cancel at the same time. A
match needs an election, a teardown deletes the record. What rules out that
both happen to one proposal is that no teardown deletes the record once a caller
has been elected, and that nobody is elected on a hash that a late vote has
brought back.
-/

namespace Greetup.Matching

open Greetup.Interleaving Prog

/-- A call by which a user answers a proposal. -/
inductive ProposalCall
  | connect (userId : UserId) (attemptId : RequestId)
  | skip (userId : UserId) (attemptId : RequestId)
  | cancel (userId : UserId)

namespace ProposalCall

def op : ProposalCall → Op
  | connect u a => .respondToMatchProposal u a .connect
  | skip u a => .respondToMatchProposal u a .skip
  | cancel u => .cancelMatch u

/-- The calls that end in a teardown. -/
def tearsDown : ProposalCall → Bool
  | connect .. => false
  | _ => true

end ProposalCall

variable {ι : Type}

/-! ### Events -/

/-- The pair is announced as matched. -/
def completes (p : Pair) : Event ι Cmd Cmd.Reply → Bool
  | ⟨_, .notifyMatchCompleted payload, _⟩ => payload.userA = p.low ∧ payload.userB = p.high
  | _ => false

/-- The second of the two users is told that the proposal is off. -/
def tellsCancelled (p : Pair) : Event ι Cmd Cmd.Reply → Bool
  | ⟨_, .notifyMatchProposalCancelled payload, _⟩ => payload.userId = p.high
  | _ => false

theorem completes_of_not_mem_areas {p : Pair} {i : ι} {c : Cmd} {r : c.Reply}
    (h : .completed ∉ c.areas) : completes p ⟨i, c, r⟩ = false := by
  cases c <;> first | rfl | exact absurd (by simp) h

section Settlement

variable (calls : ι → ProposalCall) (p : Pair)

/-- A skip or a cancel has deleted the pair's record and told the users. -/
def TornDown (s : Scene ι Cmd Cmd.Reply World) : Prop :=
  ∃ e ∈ s.trace, (deletes p e ∧ (calls e.tid).tearsDown) ∧
    ∃ e' ∈ s.trace, e'.tid = e.tid ∧ tellsCancelled p e'

/-- A connect has completed the pair's match. -/
def Completed (s : Scene ι Cmd Cmd.Reply World) : Prop := ∃ e ∈ s.trace, completes p e

/-- No teardown deletes the record after an election, and no vote finds the
other side's flag on a hash without a record. -/
def InTime (i : ι) (c : Cmd) (s : Scene ι Cmd Cmd.Reply World) : Prop :=
  match c with
  | .delPending q => q = p → (calls i).tearsDown → ∀ e ∈ s.trace, elects p e = false
  | .recordProposalConnect q field => q = p → ∀ hash ∈ s.world.redis.pairPending p,
    hash.record = none → hash.connected field.other = false
  | _ => True

/-! ### The invariant -/

structure SettlementInv (s : Scene ι Cmd Cmd.Reply World) : Prop where
  filed : s.world.redis.PendingFiled
  torn : (∃ e ∈ s.trace, deletes p e ∧ (calls e.tid).tearsDown) →
    s.world.redis.pendingRecord p = none ∧ ∀ e ∈ s.trace, elects p e = false
  completed : ∀ e ∈ s.trace, completes p e → ∃ e' ∈ s.trace, elects p e'

theorem SettlementInv.not_both {calls : ι → ProposalCall} {p : Pair}
    {s : Scene ι Cmd Cmd.Reply World} (h : SettlementInv calls p s) :
    ¬ (TornDown calls p s ∧ Completed p s) := by
  rintro ⟨⟨e, he, hdel, -⟩, e', he', hcomp⟩
  obtain ⟨e'', he'', hel⟩ := h.completed e' he' hcomp
  simp [(h.torn ⟨e, he, hdel⟩).2 e'' he''] at hel

def settlementOutline (out : Outside) : Outline ι (exec out) where
  key _ := False
  inv := SettlementInv calls p
  allowed := InTime calls p

variable {calls p} {out : Outside} {i : ι} {s : Scene ι Cmd Cmd.Reply World}

/-- A command that neither deletes a record, nor votes, nor completes a match
does not bear on how the proposal is settled. -/
theorem SettlementInv.after_of_avoids (h : SettlementInv calls p s) {c : Cmd}
    (hc : c.Avoids [.pending, .completed]) : SettlementInv calls p (s.after (exec out) i c) := by
  have hpending : .pending ∉ c.areas := fun ha => hc _ ha (by decide)
  have helects : elects p ⟨i, c, (exec out c s.world).1⟩ = false :=
    elects_of_not_mem_areas hpending
  constructor
  · refine h.filed.exec ?_
    cases c <;> first | trivial | exact absurd (by simp) hpending
  · intro htorn
    simp only [Scene.after_trace, List.exists_mem_cons_iff, deletes_of_not_mem_areas hpending,
      Bool.false_eq_true, false_and, false_or] at htorn
    have hold := h.torn htorn
    refine ⟨?_, List.forall_mem_cons.mpr ⟨helects, hold.2⟩⟩
    rw [Scene.after_world, Redis.pendingRecord, exec_pairPending hpending]
    exact hold.1
  · intro e he hcomp
    rcases List.mem_cons.mp he with rfl | he
    · simp [completes_of_not_mem_areas fun ha => hc _ ha (by decide)] at hcomp
    · exact (h.completed e he hcomp).imp fun e' h' => ⟨List.mem_cons_of_mem _ h'.1, h'.2⟩

theorem SettlementInv.after_delPending (h : SettlementInv calls p s) (q : Pair)
    (htime : InTime calls p i (.delPending q) s) :
    SettlementInv calls p (s.after (exec out) i (.delPending q)) := by
  have hrecord : s.world.redis.pendingRecord p = none →
      (exec out (.delPending q) s.world).2.redis.pendingRecord p = none := by
    intro hnone
    by_contra hsome
    obtain ⟨record, hsome⟩ := Option.ne_none_iff_exists'.mp hsome
    rcases pendingRecord_of_exec hsome with hset | hold
    · cases hset
    · rw [hnone] at hold
      cases hold
  constructor
  · exact h.filed.exec trivial
  · intro htorn
    simp only [Scene.after_trace, List.exists_mem_cons_iff] at htorn
    rcases htorn with ⟨hdel, htears⟩ | htorn
    · have hqp : q = p := of_decide_eq_true hdel
      refine ⟨?_, List.forall_mem_cons.mpr ⟨rfl, htime hqp htears⟩⟩
      simp [exec, World.modify, Redis.pendingRecord, hqp]
    · have hold := h.torn htorn
      exact ⟨hrecord hold.1, List.forall_mem_cons.mpr ⟨rfl, hold.2⟩⟩
  · intro e he hcomp
    rcases List.mem_cons.mp he with rfl | he
    · simp [completes] at hcomp
    · exact (h.completed e he hcomp).imp fun e' h' => ⟨List.mem_cons_of_mem _ h'.1, h'.2⟩

/-- After a teardown no vote elects: a hash that is back holds one flag only. -/
theorem SettlementInv.after_vote (h : SettlementInv calls p s) (q : Pair) (field : Side)
    (htime : InTime calls p i (.recordProposalConnect q field) s) :
    SettlementInv calls p (s.after (exec out) i (.recordProposalConnect q field)) := by
  constructor
  · exact h.filed.exec trivial
  · intro htorn
    simp only [Scene.after_trace, List.exists_mem_cons_iff, deletes, Bool.false_eq_true,
      false_and, false_or] at htorn
    obtain ⟨hrecord, helects⟩ := h.torn htorn
    refine ⟨?_, List.forall_mem_cons.mpr ⟨?_, helects⟩⟩
    · by_contra hsome
      obtain ⟨record, hsome⟩ := Option.ne_none_iff_exists'.mp hsome
      rcases pendingRecord_of_exec hsome with hset | hold
      · cases hset
      · rw [hrecord] at hold
        cases hold
    · refine decide_eq_false ?_
      rintro ⟨rfl, htwo⟩
      refine Redis.vote_ne_two_of_alone _ _ _ (fun hash hhash => ?_) htwo
      refine htime rfl hash hhash ?_
      simpa [Redis.pendingRecord, hhash] using hrecord
  · intro e he hcomp
    rcases List.mem_cons.mp he with rfl | he
    · simp [completes] at hcomp
    · exact (h.completed e he hcomp).imp fun e' h' => ⟨List.mem_cons_of_mem _ h'.1, h'.2⟩

theorem SettlementInv.after_completed (h : SettlementInv calls p s)
    (payload : MatchCompletedPayload)
    (hel : payload.userA = p.low → payload.userB = p.high → ∃ e ∈ s.trace, elects p e) :
    SettlementInv calls p (s.after (exec out) i (.notifyMatchCompleted payload)) := by
  constructor
  · exact h.filed
  · intro htorn
    simp only [Scene.after_trace, List.exists_mem_cons_iff, deletes, Bool.false_eq_true,
      false_and, false_or] at htorn
    have hold := h.torn htorn
    exact ⟨hold.1, List.forall_mem_cons.mpr ⟨rfl, hold.2⟩⟩
  · intro e he hcomp
    rcases List.mem_cons.mp he with rfl | he
    · obtain ⟨hlow, hhigh⟩ := of_decide_eq_true hcomp
      exact (hel hlow hhigh).imp fun e' h' => ⟨List.mem_cons_of_mem _ h'.1, h'.2⟩
    · exact (h.completed e he hcomp).imp fun e' h' => ⟨List.mem_cons_of_mem _ h'.1, h'.2⟩

/-! ### The handlers -/

/-- A command of an answer, other than the announcement of a match. -/
def Cmd.Answers (c : Cmd) : Prop :=
  c.Deletes [.pending, .completed] ∨ ∃ q field, c = .recordProposalConnect q field

theorem quiet_settlement (i : ι) : (settlementOutline calls p out).Quiet i Cmd.Answers where
  not_key _ _ := id
  inv_after := by
    rintro c ((hc | ⟨q, rfl⟩) | ⟨q, field, rfl⟩) s hI hallowed
    · exact SettlementInv.after_of_avoids hI hc
    · exact SettlementInv.after_delPending hI q hallowed
    · exact SettlementInv.after_vote hI q field hallowed

theorem answers_of_deletes {α : Type} {m : M α}
    (hm : m.Uses (Cmd.Deletes [.pending, .room, .completed])) : m.Uses Cmd.Answers :=
  hm.mono fun _ hc => .inl (hc.mono (by simp))

/-- A match is only announced by a caller that has been elected. -/
theorem keeps_settle_connectProposal {u peer : UserId} {pending : PairPendingRecord}
    (hfiled : pending.userLow = (Pair.of u peer).low ∧ pending.userHigh = (Pair.of u peer).high) :
    (settlementOutline calls p out).Keeps i (connectProposal u peer pending)
      (fun _ _ => True) s := by
  have hN : (settlementOutline calls p out).Quiet i Cmd.Answers := quiet_settlement i
  rw [connectProposal_eq, Outline.keeps_call]
  intro s₁ _ hI₁ htime
  refine ⟨SettlementInv.after_vote hI₁ _ _ htime, ?_⟩
  split_ifs with hrc
  · exact fun _ _ _ => trivial
  · rw [finalizeProposal_eq, Outline.keeps_call]
    intro s₂ hs₂ hI₂ _
    have hroom : SettlementInv calls p (s₂.after (exec out) i (.createRoom pending.roomInput)) :=
      SettlementInv.after_of_avoids hI₂ (by simp [Cmd.Avoids])
    refine ⟨hroom, ?_⟩
    cases (exec out (.createRoom pending.roomInput) s₂.world).1 with
    | failed reason =>
        exact hN.keeps (answers_of_deletes (uses_abandonProposal _)) fun _ _ _ _ => trivial
    | ok roomId =>
        refine hN.keeps_bind (answers_of_deletes (uses_enterRoom pending roomId)) hroom
          fun _ s₃ hs₃ hI₃ => ?_
        intro s₄ hs₄ hI₄ _
        refine ⟨SettlementInv.after_completed hI₄ _ fun hlow hhigh => ?_, fun _ _ _ => trivial⟩
        have hpair : Pair.of u peer = p :=
          Pair.ext (hfiled.1.symm.trans hlow) (hfiled.2.symm.trans hhigh)
        subst hpair
        have hsince := (hs₂.trans (.of_not_key (exec out) s₂ i id)).trans (hs₃.trans hs₄)
        exact ⟨_, hsince.mem List.mem_cons_self,
          decide_eq_true ⟨rfl, Redis.vote_eq_two_of_ne _ _ _ hrc⟩⟩

theorem keeps_settle_op [Host] (hs : SettlementInv calls p s) (call : ProposalCall) :
    (settlementOutline calls p out).Keeps i call.op.prog (fun _ _ => True) s := by
  have hN : (settlementOutline calls p out).Quiet i Cmd.Answers := quiet_settlement i
  have hread : ∀ c : Cmd, c.areas = [] → c.Answers := fun c hc => .inl (.inl (.of_nil hc))
  cases call with
  | connect u a =>
      refine Outline.Keeps.map (keeps_respondToMatchProposal hN hread hs
        (fun _ _ _ _ => trivial) fun peer pending s' _ hI' hpending => ?_)
      exact keeps_settle_connectProposal (hI'.filed _ _ hpending)
  | skip u a =>
      refine hN.keeps (Uses.map ?_ _) fun _ _ _ _ => trivial
      show (respondToMatchProposal u a .skip).Uses Cmd.Answers
      exact uses_respondToMatchProposal hread fun peer pending =>
        answers_of_deletes (uses_skipProposal u pending)
  | cancel u =>
      refine hN.keeps (Uses.map ?_ _) fun _ _ _ _ => trivial
      exact uses_cancelMatch hread
        (((within_remove u).deletes (by decide)).mono fun _ => .inl)
        (fun a => ((within_putAttempt _ _ _).deletes (by decide)).mono fun _ => .inl)
        fun pending => answers_of_deletes (uses_cancelProposal u pending)

/-- Any number of answers to proposals, by any users. -/
def answering [Host] (calls : ι → ProposalCall) (w : World) :
    Conf ι Cmd Cmd.Reply Outcome World where
  threads i := (calls i).op.prog
  scene := ⟨w, []⟩

/-- **A proposal is settled one way.** However the connects, skips and cancels
are interleaved, a proposal is not both torn down and completed if no teardown
deletes its record once a caller has been elected, and no late vote finds the
other side's late vote. -/
theorem settled_one_way [Host] [DecidableEq ι] {w : World} (hfiled : w.redis.PendingFiled)
    (sched : List ι)
    (htime : (answering calls w).Meets (exec out) (InTime calls p) sched) :
    ¬ (TornDown calls p ((answering calls w).runs (exec out) sched).scene ∧
      Completed p ((answering calls w).runs (exec out) sched).scene) := by
  have hstart : SettlementInv calls p (answering calls w).scene :=
    { filed := hfiled
      torn := by simp [answering]
      completed := by simp [answering] }
  have hend := Outline.keeps_runs (o := settlementOutline calls p out) hstart
    (fun i => keeps_settle_op hstart (calls i)) htime
  exact hend.1.not_both

end Settlement

/-! ### A skip in time and a skip too late -/

namespace Sample

/-- Both users connect, and Ann has second thoughts. -/
def answers (i : Fin 3) : ProposalCall :=
  if i = 0 then .connect ann annSearch else if i = 1 then .connect ben benSearch
  else .skip ann annSearch

/-- `InTime`, computed. -/
def answersInTime (p : Pair) (i : Fin 3) (s : Scene (Fin 3) Cmd Cmd.Reply World) : Cmd → Bool
  | .delPending q => q = p → (answers i).tearsDown → ∀ e ∈ s.trace, elects p e = false
  | .recordProposalConnect q field => q = p → ∀ hash ∈ s.world.redis.pairPending p,
    hash.record = none → hash.connected field.other = false
  | _ => true

theorem answersInTime_iff (p : Pair) (i : Fin 3) (s : Scene (Fin 3) Cmd Cmd.Reply World) (c : Cmd) :
    answersInTime p i s c = true ↔ InTime answers p i c s := by
  cases c <;> simp only [answersInTime, InTime, decide_eq_true_eq]

instance (p : Pair) (i : Fin 3) (c : Cmd) (s : Scene (Fin 3) Cmd Cmd.Reply World) :
    Decidable (InTime answers p i c s) :=
  decidable_of_iff _ (answersInTime_iff p i s c)

instance (p : Pair) (s : Scene (Fin 3) Cmd Cmd.Reply World) : Decidable (TornDown answers p s) :=
  inferInstanceAs (Decidable (∃ e ∈ s.trace, _ ∧ _))

instance {ι : Type} (p : Pair) (s : Scene ι Cmd Cmd.Reply World) : Decidable (Completed p s) :=
  inferInstanceAs (Decidable (∃ e ∈ s.trace, _))

/-- Ann connects and then skips before Ben connects. -/
def skipInTime : List (Fin 3) := List.replicate 3 0 ++ List.replicate 20 2 ++ List.replicate 3 1

theorem settled_one_way_skip :
    ¬ (TornDown answers pair
        ((@answering _ host answers proposal).runs (exec outside) skipInTime).scene ∧
      Completed pair
        ((@answering _ host answers proposal).runs (exec outside) skipInTime).scene) :=
  @settled_one_way _ answers pair outside host _ proposal proposal_pendingFiled skipInTime
    (by decide +kernel)

/-- Ann connects and skips; her skip has read the record when Ben's connect is
elected, and deletes it while the room is being created. -/
def skipTooLate : List (Fin 3) :=
  List.replicate 3 0 ++ [2, 2] ++ List.replicate 4 1 ++ List.replicate 20 2 ++ List.replicate 30 1

/-- Both users are told that the proposal is off, and both that they have met. -/
theorem settled_both_ways :
    proposal.redis.pendingRecord pair = some record ∧
      TornDown answers pair
        ((@answering _ host answers proposal).runs (exec outside) skipTooLate).scene ∧
      Completed pair
        ((@answering _ host answers proposal).runs (exec outside) skipTooLate).scene := by
  decide +kernel

end Sample

end Greetup.Matching
