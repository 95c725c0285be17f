import Greetup.Calls.Ringing
import Greetup.Interleaving.Sequence
import Greetup.Interleaving.Draws

/-!
The slot of a callee and the invite that rings there.

An invite that rings holds the slot as long as nobody deletes the slot who
settles another invite, and the slot has not reached its TTL. Every id is drawn
once, so that an invite that was settled never rings again.
-/

namespace Greetup.Calls

open Interleaving Prog
open Rooms (UserId RoomId World)

variable (planner : Rooms.Planner) {ι : Type} [DecidableEq ι]

/-- The call claims the slot for the invite, and gets it. -/
def Claims (calleeUserId : UserId) (requestId : RequestId) (e : CallEvent ι) : Prop :=
  (⟨e.cmd, e.reply⟩ : Told Rooms.Cmd Rooms.Cmd.Reply) =
    ⟨.call (.setPendingForCalleeNX calleeUserId requestId), true⟩

/-- Since the invite has claimed the slot, or since the beginning, the slot has
reached its TTL. -/
def Lapsed (calleeUserId : UserId) (requestId : RequestId) (trace : List (CallEvent ι)) : Prop :=
  ∃ l e rest, trace = l ++ e :: rest ∧ e.cmd = .call (.expiredPendingForCallee calleeUserId) ∧
    ∀ e' ∈ l, ¬ Claims calleeUserId requestId e'

/-- The invite is pending, for that callee. -/
def Pends (w : World) (calleeUserId : UserId) (requestId : RequestId) : Prop :=
  ∃ invite, w.calls.pendingInvite requestId = some invite ∧
    invite.calleeUserId = some calleeUserId

/-- The invite holds the slot, unless the slot has reached its TTL. -/
def HoldsSlot (s : CallScene ι) (calleeUserId : UserId) (requestId : RequestId) : Prop :=
  s.world.calls.pendingForCallee calleeUserId = some requestId ∨
    Lapsed calleeUserId requestId s.trace

/-- Nobody has drawn the ids to come. -/
structure FreshIds (w : World) : Prop where
  injective : Function.Injective w.uuids
  unused : ∀ n, w.uuidsDrawn ≤ n → w.calls.invite (w.uuids n) = none

/-! ### The slot -/

section SlotSteps

variable {planner} {s : CallScene ι} {i : ι} {c : Rooms.Cmd} {calleeUserId : UserId}
  {requestId : RequestId} {w : World} {invite : InviteRecord}

/-- A slot that is held is deleted, or reaches its TTL, or is held. -/
theorem pendingForCallee_exec (h : w.calls.pendingForCallee calleeUserId = some requestId)
    (hdel : c ≠ .call (.delPendingForCallee calleeUserId))
    (hexpired : c ≠ .call (.expiredPendingForCallee calleeUserId)) :
    (Rooms.exec planner c w).2.calls.pendingForCallee calleeUserId = some requestId := by
  by_cases hc : ∀ d, c ≠ .call d
  · rw [calls_exec hc, h]
  push Not at hc
  obtain ⟨d, rfl⟩ := hc
  cases d with
  | setPendingForCalleeNX userId id =>
      simp only [Rooms.exec, exec]
      split
      · rename_i hfree
        have hne : calleeUserId ≠ userId := by
          rintro rfl
          rw [h] at hfree
          cases hfree
        show Function.update _ _ _ _ = _
        rw [Function.update_of_ne hne, h]
      · exact h
  | delPendingForCallee userId =>
      have hne : calleeUserId ≠ userId := by
        rintro rfl
        exact hdel rfl
      show Function.update _ _ _ _ = _
      rw [Function.update_of_ne hne, h]
  | expiredPendingForCallee userId =>
      have hne : calleeUserId ≠ userId := by
        rintro rfl
        exact hexpired rfl
      show Function.update _ _ _ _ = _
      rw [Function.update_of_ne hne, h]
  | setHistoryLoggedForRequestNX id status =>
      simp only [Rooms.exec, exec]
      split <;> exact h
  | _ => exact h

omit [DecidableEq ι] in
theorem pendingForCallee_of_claims
    (h : Claims calleeUserId requestId (⟨i, c, (Rooms.exec planner c w).1⟩ : CallEvent ι)) :
    (Rooms.exec planner c w).2.calls.pendingForCallee calleeUserId = some requestId := by
  obtain ⟨rfl, hreply⟩ := Sigma.mk.inj h
  have hclaimed : (exec (.setPendingForCalleeNX calleeUserId requestId) w.calls).1 = true :=
    eq_of_heq hreply
  show (exec (.setPendingForCalleeNX calleeUserId requestId) w.calls).2.pendingForCallee _ = _
  rw [exec] at hclaimed ⊢
  split at hclaimed
  · rename_i hfree
    rw [if_pos hfree]
    exact Function.update_self ..
  · cases hclaimed

omit [DecidableEq ι] in
theorem HoldsSlot.after (h : HoldsSlot s calleeUserId requestId)
    (hdel : c = .call (.delPendingForCallee calleeUserId) →
      s.world.calls.pendingForCallee calleeUserId ≠ some requestId) :
    HoldsSlot (s.after (Rooms.exec planner) i c) calleeUserId requestId := by
  by_cases hclaims : Claims calleeUserId requestId
      (⟨i, c, (Rooms.exec planner c s.world).1⟩ : CallEvent ι)
  · exact .inl (pendingForCallee_of_claims hclaims)
  by_cases hexpired : c = .call (.expiredPendingForCallee calleeUserId)
  · refine .inr ⟨[], _, s.trace, rfl, hexpired, ?_⟩
    intro e he
    cases he
  rcases h with hslot | ⟨l, e, rest, htrace, hcmd, hl⟩
  · exact .inl (pendingForCallee_exec hslot (fun hc => hdel hc hslot) hexpired)
  · refine .inr ⟨_ :: l, e, rest, by rw [Scene.after_trace, htrace, List.cons_append], hcmd, ?_⟩
    intro e' he'
    rcases List.mem_cons.mp he' with rfl | he'
    · exact hclaims
    · exact hl e' he'

/-! ### The invites -/

/-- Only `HSET` makes an invite pending. -/
theorem pendingInvite_exec (hc : ∀ fields, c ≠ .call (.hsetInvite requestId fields))
    (h : (Rooms.exec planner c w).2.calls.pendingInvite requestId = some invite) :
    w.calls.pendingInvite requestId = some invite := by
  have hstep := inviteStep planner w c
  rw [Store.pendingInvite] at h
  generalize (Rooms.exec planner c w).2.calls.invite = invites at hstep h
  cases hstep with
  | same => exact h
  | hset key fields =>
      have hkey : requestId ≠ key := by
        rintro rfl
        exact hc fields rfl
      rw [Function.update_of_ne hkey] at h
      exact h
  | del key =>
      by_cases hkey : requestId = key
      · rw [hkey, Function.update_self] at h
        cases h
      · rw [Function.update_of_ne hkey] at h
        exact h

theorem pendingInvite_hset {fields : InviteHash}
    (h : (Rooms.exec planner (.call (.hsetInvite requestId fields)) w).2.calls.pendingInvite
      requestId = some invite) :
    invite.status = some .pending ∧
      (∀ status ∈ fields.status, invite.status = some status) ∧
      ∀ userId ∈ fields.calleeUserId, invite.calleeUserId = some userId := by
  obtain ⟨hrecord, hpending⟩ := Option.filter_eq_some_iff.mp h
  obtain ⟨hash, hfind, hrecord⟩ := Option.bind_eq_some_iff.mp hrecord
  have hhash : Function.update w.calls.invite requestId
      (some (((w.calls.invite requestId).getD {}).hset fields)) requestId = some hash := hfind
  rw [Function.update_self] at hhash
  cases hhash
  obtain ⟨-, hcallee, hstatus⟩ := inviteRecord_fields hrecord
  refine ⟨of_decide_eq_true hpending, ?_, ?_⟩
  · intro status hfield
    rw [← hstatus, InviteHash.hset, Option.mem_def.mp hfield]
    rfl
  · intro userId hfield
    rw [← hcallee, InviteHash.hset, Option.mem_def.mp hfield]
    rfl

/-- An invite that was settled is not pending. -/
theorem pendingInvite_hset_status {status : InviteStatus} (hstatus : status ≠ .pending) :
    (Rooms.exec planner (.call (.hsetInvite requestId { status := some status }))
      w).2.calls.pendingInvite requestId = none := by
  by_contra hsome
  obtain ⟨invite, h⟩ := Option.ne_none_iff_exists'.mp hsome
  obtain ⟨hpending, hfield, -⟩ := pendingInvite_hset h
  rw [hfield status rfl] at hpending
  exact hstatus (Option.some.inj hpending)

theorem Settling.status_ne_pending (call : Settling) : call.status ≠ .pending := by
  cases call with
  | respond _ _ accept => cases accept <;> rintro ⟨⟩
  | cancel _ _ reason => cases reason <;> rintro ⟨⟩
  | _ => rintro ⟨⟩

end SlotSteps

/-! ### The ids -/

theorem uuids_exec (c : Rooms.Cmd) (w : World) :
    (Rooms.exec planner c w).2.uuids = w.uuids := by
  by_cases hc : ∀ d, c ≠ .call d
  · by_cases hdraw : c = .randomUUID
    · rw [hdraw]
      rfl
    · exact (sameCalls_exec hc hdraw).uuids
  · push Not at hc
    obtain ⟨d, rfl⟩ := hc
    rfl

theorem uuidsDrawn_exec {c : Rooms.Cmd} (hdraw : c ≠ .randomUUID) (w : World) :
    (Rooms.exec planner c w).2.uuidsDrawn = w.uuidsDrawn := by
  by_cases hc : ∀ d, c ≠ .call d
  · exact (sameCalls_exec hc hdraw).uuidsDrawn
  · push Not at hc
    obtain ⟨d, rfl⟩ := hc
    rfl

/-- The ids that were drawn in the run, each by one call. -/
structure DrawsOnce (w₀ : World) (s : CallScene ι) : Prop where
  uuids : s.world.uuids = w₀.uuids
  le : w₀.uuidsDrawn ≤ s.world.uuidsDrawn
  drawn : ∀ i requestId, Drawn (s.told i) requestId →
    ∃ n, w₀.uuidsDrawn ≤ n ∧ n < s.world.uuidsDrawn ∧ w₀.uuids n = requestId
  once : ∀ i j requestId, Drawn (s.told i) requestId → Drawn (s.told j) requestId → i = j

section Draws

variable {planner} {w₀ : World} {s : CallScene ι} {i j : ι} {c : Rooms.Cmd}
  {requestId : RequestId}

theorem Drawn.after (h : Drawn (s.told j) requestId) (i : ι) (c : Rooms.Cmd) :
    Drawn ((s.after (Rooms.exec planner) i c).told j) requestId :=
  Scene.told_subset_after _ h

/-- `randomUUID` draws from the ids of the world. -/
theorem source_exec (planner : Rooms.Planner) :
    Source (Rooms.exec planner) .randomUUID World.uuids World.uuidsDrawn where
  ids_exec := uuids_exec planner
  reply _ := rfl
  drawn_draw _ := rfl
  drawn_exec _ w hdraw := uuidsDrawn_exec planner hdraw w

theorem DrawsOnce.step (h : DrawsOnce w₀ s) (hfresh : FreshIds w₀) (i : ι) (c : Rooms.Cmd) :
    DrawsOnce w₀ (s.after (Rooms.exec planner) i c) := by
  have hdrawn : s.DrawnOnce .randomUUID World.uuids World.uuidsDrawn w₀ :=
    ⟨h.uuids, h.le, h.drawn, h.once⟩
  have hafter := hdrawn.after (c := c) (i := i) (source_exec planner) hfresh.injective
  exact ⟨hafter.ids_eq, hafter.le, hafter.drawn_of_mem, hafter.once⟩

end Draws

/-! ### The invariant -/

/-- The invite is from before the run, or its caller has written it. -/
def Born (w₀ : World) (s : CallScene ι) (requestId : RequestId) : Prop :=
  (w₀.calls.invite requestId).isSome ∨
    ∃ i, Drawn (s.told i) requestId ∧ ∃ fields,
      (⟨.call (.hsetInvite requestId fields), ()⟩ : Told Rooms.Cmd Rooms.Cmd.Reply) ∈ s.told i

structure Slots (calls : ι → ConnectionCall) (w₀ : World) (s : CallScene ι) : Prop where
  keyed : s.world.calls.Keyed
  draws : DrawsOnce w₀ s
  claimed : ∀ i calleeUserId requestId, Claimed (s.told i) calleeUserId requestId →
    Drawn (s.told i) requestId
  seen : ∀ i settling, calls i = .settle settling → HasWritten (s.told i) settling →
    ∃ invite, SeenPending (s.told i) settling.requestId invite
  born : ∀ requestId, (s.world.calls.pendingInvite requestId).isSome → Born w₀ s requestId
  seenBorn : ∀ i requestId invite, SeenPending (s.told i) requestId invite → Born w₀ s requestId
  /-- an invite that was settled is pending no more -/
  settled : ∀ i settling, calls i = .settle settling → HasWritten (s.told i) settling →
    s.world.calls.pendingInvite settling.requestId = none
  /-- a slot that was claimed is held until the invite is written -/
  awaited : ∀ i calleeUserId requestId, Claimed (s.told i) calleeUserId requestId →
    NotRung (s.told i) → HoldsSlot s calleeUserId requestId
  /-- and as long as the invite is pending -/
  pends : ∀ calleeUserId requestId, Pends s.world calleeUserId requestId →
    HoldsSlot s calleeUserId requestId

/-- The slot is held by another invite when a call deletes it that settles this
one, or writes this one for it. -/
def Intrudes (calls : ι → ConnectionCall) (i : ι) (c : Rooms.Cmd) (s : CallScene ι) : Prop :=
  ∃ calleeUserId requestId holder,
    s.world.calls.pendingForCallee calleeUserId = some holder ∧ holder ≠ requestId ∧
      (c = .call (.delPendingForCallee calleeUserId) ∧
          (∃ settling, calls i = .settle settling ∧ settling.requestId = requestId) ∨
        ∃ fields, c = .call (.hsetInvite requestId fields) ∧
          fields.calleeUserId = some calleeUserId)

section Licences

variable {call : ConnectionCall} {h : History} {c : Rooms.Cmd} {calleeUserId : UserId}
  {requestId : RequestId} {fields : InviteHash}

theorem ConnectionCall.Licence.keepsKey (hc : call.Licence h c) : KeepsKey c := by
  cases call with
  | initiate =>
      cases c with
      | call c =>
          cases c with
          | hsetInvite key fields =>
              obtain ⟨-, hkey, -⟩ := hc
              intro id hid
              rw [hkey] at hid
              exact (Option.some.inj hid).symm
          | _ => trivial
      | _ => trivial
  | settle settling => exact Settling.Licence.keepsKey hc
  | slotExpires =>
      rw [show c = _ from hc]
      trivial

theorem ConnectionCall.Licence.drawn
    (hc : call.Licence h (.call (.setPendingForCalleeNX calleeUserId requestId))) :
    Drawn h requestId := by
  cases call with
  | initiate => exact hc
  | settle settling => exact hc.elim
  | slotExpires => cases hc

/-- The slot is deleted by a call that has written what became of its invite. -/
theorem ConnectionCall.Licence.deletes
    (hc : call.Licence h (.call (.delPendingForCallee calleeUserId))) :
    ∃ settling, call = .settle settling ∧ HasWritten h settling := by
  cases call with
  | initiate => exact hc.elim
  | settle settling => exact ⟨settling, rfl, hc.1⟩
  | slotExpires => cases hc

/-- The hash is written by a call that settles it, or by the caller. -/
theorem ConnectionCall.Licence.writes
    (hc : call.Licence h (.call (.hsetInvite requestId fields))) :
    (∃ settling, call = .settle settling ∧ requestId = settling.requestId ∧
        fields = { status := some settling.status } ∧
        ∃ invite, SeenPending h settling.requestId invite) ∨
      NotRung h ∧ ∃ calleeUserId, Claimed h calleeUserId requestId ∧
        fields.calleeUserId = some calleeUserId := by
  cases call with
  | initiate =>
      obtain ⟨hnot, -, hclaimed⟩ := hc
      exact .inr ⟨hnot, hclaimed⟩
  | settle settling =>
      obtain ⟨hid, hfields, -, hseen⟩ := hc
      exact .inl ⟨settling, rfl, hid, hfields, hseen⟩
  | slotExpires => cases hc

end Licences

section Step

variable {planner} {calls : ι → ConnectionCall} {w₀ : World} {s : CallScene ι} {i : ι}
  {c : Rooms.Cmd} {calleeUserId : UserId} {requestId : RequestId}

theorem Born.after (h : Born w₀ s requestId) (i : ι) (c : Rooms.Cmd) :
    Born w₀ (s.after (Rooms.exec planner) i c) requestId := by
  rcases h with hold | ⟨j, hdrawn, fields, hmem⟩
  · exact .inl hold
  · exact .inr ⟨j, hdrawn.after i c, fields, Scene.told_subset_after _ hmem⟩

/-- Before its caller writes it, an invite was never there. -/
theorem Slots.not_born (h : Slots calls w₀ s) (hfresh : FreshIds w₀)
    (hclaimed : Claimed (s.told i) calleeUserId requestId) (hnot : NotRung (s.told i)) :
    ¬ Born w₀ s requestId := by
  have hdrawn := h.claimed i _ _ hclaimed
  rintro (hold | ⟨j, hdrawn', fields, hmem⟩)
  · obtain ⟨n, hge, -, rfl⟩ := h.draws.drawn i _ hdrawn
    rw [hfresh.unused n hge] at hold
    cases hold
  · obtain rfl := h.draws.once i j _ hdrawn hdrawn'
    exact hnot _ hmem _ _ rfl

/-- What a command makes pending its caller has just written, and the caller
holds the slot. -/
theorem pends_cases (hlicence : (calls i).Licence (s.told i) c)
    (hpends : Pends (Rooms.exec planner c s.world).2 calleeUserId requestId) :
    Pends s.world calleeUserId requestId ∨
      ∃ fields, c = .call (.hsetInvite requestId fields) ∧
        fields.calleeUserId = some calleeUserId ∧
          Claimed (s.told i) calleeUserId requestId ∧ NotRung (s.told i) := by
  obtain ⟨invite, hpending, hcallee⟩ := hpends
  by_cases hwrites : ∃ fields, c = .call (.hsetInvite requestId fields)
  · obtain ⟨fields, rfl⟩ := hwrites
    rcases hlicence.writes with ⟨settling, -, -, rfl, -⟩ | ⟨hnot, userId, hclaimed, hfields⟩
    · rw [pendingInvite_hset_status settling.status_ne_pending] at hpending
      cases hpending
    · obtain ⟨-, -, hfield⟩ := pendingInvite_hset hpending
      obtain rfl : userId = calleeUserId :=
        Option.some.inj ((hfield userId hfields).symm.trans hcallee)
      exact .inr ⟨fields, rfl, hfields, hclaimed, hnot⟩
  · exact .inl ⟨invite, pendingInvite_exec (fun fields heq => hwrites ⟨fields, heq⟩) hpending,
      hcallee⟩

theorem Slots.born_step (h : Slots calls w₀ s) (hlicence : (calls i).Licence (s.told i) c)
    (hsome : ((Rooms.exec planner c s.world).2.calls.pendingInvite requestId).isSome) :
    Born w₀ (s.after (Rooms.exec planner) i c) requestId := by
  by_cases hwrites : ∃ fields, c = .call (.hsetInvite requestId fields)
  · obtain ⟨fields, rfl⟩ := hwrites
    rcases hlicence.writes with ⟨settling, -, -, rfl, -⟩ | ⟨-, userId, hclaimed, -⟩
    · rw [pendingInvite_hset_status settling.status_ne_pending] at hsome
      cases hsome
    · refine .inr ⟨i, (h.claimed i _ _ hclaimed).after i _, fields, ?_⟩
      exact (Scene.mem_told_after _).mpr (.inl ⟨rfl, rfl⟩)
  · obtain ⟨invite, hpending⟩ := Option.isSome_iff_exists.mp hsome
    have hbefore := pendingInvite_exec (fun fields heq => hwrites ⟨fields, heq⟩) hpending
    exact (h.born requestId (by rw [hbefore]; rfl)).after i c

/-- What was settled is written by nobody but those who settle it. -/
theorem Slots.settled_step (h : Slots calls w₀ s) (hfresh : FreshIds w₀)
    (hlicence : (calls i).Licence (s.told i) c) {j : ι} {settling : Settling}
    (hcall : calls j = .settle settling)
    (hwritten : HasWritten ((s.after (Rooms.exec planner) i c).told j) settling) :
    (Rooms.exec planner c s.world).2.calls.pendingInvite settling.requestId = none := by
  rcases (Scene.mem_told_after _).mp hwritten with ⟨-, heq⟩ | hbefore
  · obtain ⟨rfl, -⟩ := Sigma.mk.inj heq
    exact pendingInvite_hset_status settling.status_ne_pending
  by_cases hwrites : ∃ fields, c = .call (.hsetInvite settling.requestId fields)
  · obtain ⟨fields, rfl⟩ := hwrites
    rcases hlicence.writes with ⟨settling', -, -, rfl, -⟩ | ⟨hnot, userId, hclaimed, -⟩
    · exact pendingInvite_hset_status settling'.status_ne_pending
    · obtain ⟨invite, hseen⟩ := h.seen j settling hcall hbefore
      exact absurd (h.seenBorn j _ invite hseen) (h.not_born hfresh hclaimed hnot)
  · by_contra hsome
    obtain ⟨invite, hpending⟩ := Option.ne_none_iff_exists'.mp hsome
    have hpended := pendingInvite_exec (fun fields heq => hwrites ⟨fields, heq⟩) hpending
    rw [h.settled j settling hcall hbefore] at hpended
    cases hpended

/-- Whoever deletes a slot settles the invite that holds it. -/
theorem deletes_own (hlicence : (calls i).Licence (s.told i) c)
    (hnot : ¬ Intrudes calls i c s) (hdel : c = .call (.delPendingForCallee calleeUserId))
    (hslot : s.world.calls.pendingForCallee calleeUserId = some requestId) :
    ∃ settling, calls i = .settle settling ∧ HasWritten (s.told i) settling ∧
      settling.requestId = requestId := by
  subst hdel
  obtain ⟨settling, hcall, hwritten⟩ := hlicence.deletes
  refine ⟨settling, hcall, hwritten, ?_⟩
  by_contra hne
  exact hnot ⟨calleeUserId, settling.requestId, requestId, hslot, Ne.symm hne,
    .inl ⟨rfl, settling, hcall, rfl⟩⟩

/-- **One step.** -/
theorem Slots.step (h : Slots calls w₀ s) (hfresh : FreshIds w₀)
    (hlicence : (calls i).Licence (s.told i) c) (hnot : ¬ Intrudes calls i c s) :
    Slots calls w₀ (s.after (Rooms.exec planner) i c) := by
  refine ⟨h.keyed.exec hlicence.keepsKey, h.draws.step hfresh i c, ?_, ?_, ?_, ?_, ?_, ?_, ?_⟩
  · intro j calleeUserId requestId hclaimed
    rcases (Scene.mem_told_after _).mp hclaimed with ⟨rfl, heq⟩ | hclaimed
    · obtain ⟨rfl, -⟩ := Sigma.mk.inj heq
      exact hlicence.drawn.after i _
    · exact (h.claimed j calleeUserId requestId hclaimed).after i c
  · intro j settling hcall hwritten
    rcases (Scene.mem_told_after _).mp hwritten with ⟨rfl, heq⟩ | hwritten
    · obtain ⟨rfl, -⟩ := Sigma.mk.inj heq
      rw [hcall] at hlicence
      obtain ⟨-, -, -, invite, hseen⟩ := hlicence
      exact ⟨invite, hseen.after planner i _⟩
    · obtain ⟨invite, hseen⟩ := h.seen j settling hcall hwritten
      exact ⟨invite, hseen.after planner i c⟩
  · intro requestId hsome
    exact h.born_step hlicence hsome
  · intro j requestId invite hseen
    rcases seenPending_after planner hseen with hseen | ⟨-, -, hpending⟩
    · exact (h.seenBorn j requestId invite hseen).after i c
    · exact (h.born requestId (by rw [hpending]; rfl)).after i c
  · intro j settling hcall hwritten
    exact h.settled_step hfresh hlicence hcall hwritten
  · intro j calleeUserId requestId hclaimed hrung
    have hrung' : NotRung (s.told j) := fun e he => hrung e (Scene.told_subset_after _ he)
    rcases (Scene.mem_told_after _).mp hclaimed with ⟨-, heq⟩ | hclaimed
    · exact .inl (pendingForCallee_of_claims (i := i) heq.symm)
    · refine (h.awaited j calleeUserId requestId hclaimed hrung').after fun hdel hslot => ?_
      obtain ⟨settling, hcall, hwritten, rfl⟩ := deletes_own hlicence hnot hdel hslot
      obtain ⟨invite, hseen⟩ := h.seen i settling hcall hwritten
      exact h.not_born hfresh hclaimed hrung' (h.seenBorn i _ invite hseen)
  · intro calleeUserId requestId hpends
    rcases pends_cases hlicence hpends with hpends | ⟨fields, rfl, -, hclaimed, hrung⟩
    · refine (h.pends calleeUserId requestId hpends).after fun hdel hslot => ?_
      obtain ⟨settling, hcall, hwritten, rfl⟩ := deletes_own hlicence hnot hdel hslot
      obtain ⟨invite, hpending, -⟩ := hpends
      rw [h.settled i settling hcall hwritten] at hpending
      cases hpending
    · exact (h.awaited i calleeUserId requestId hclaimed hrung).after (by rintro ⟨⟩)

/-- While one invite rings, no other becomes pending for its callee. -/
def NoSecond (s s' : CallScene ι) : Prop :=
  ∀ calleeUserId requestId other, Pends s.world calleeUserId requestId →
    ¬ Lapsed calleeUserId requestId s.trace → other ≠ requestId →
      Pends s'.world calleeUserId other → Pends s.world calleeUserId other

theorem Slots.noSecond (h : Slots calls w₀ s) (hlicence : (calls i).Licence (s.told i) c)
    (hnot : ¬ Intrudes calls i c s) : NoSecond s (s.after (Rooms.exec planner) i c) := by
  intro calleeUserId requestId other hpends hlapsed hne hother
  have hslot := (h.pends calleeUserId requestId hpends).resolve_right hlapsed
  rcases pends_cases hlicence hother with hbefore | ⟨fields, hwrites, hcallee, -, -⟩
  · exact hbefore
  · refine absurd ⟨calleeUserId, other, requestId, hslot, Ne.symm hne, .inr ?_⟩ hnot
    exact ⟨fields, hwrites, hcallee⟩

end Step

/-! ### Whole runs -/

def calling (calls : ι → ConnectionCall) (w : World) : Conf ι Rooms.Cmd Rooms.Cmd.Reply
    ConnectionCallOutcome World :=
  ⟨fun i => (calls i).program, ⟨w, []⟩⟩

/-- An invite that is pending holds the slot of its callee until the slot
reaches its TTL. -/
def SlotHeld (s : CallScene ι) : Prop :=
  ∀ calleeUserId requestId, Pends s.world calleeUserId requestId →
    ¬ Lapsed calleeUserId requestId s.trace →
      s.world.calls.pendingForCallee calleeUserId = some requestId

/-- One invite at a time rings at a callee, throughout the run. -/
structure RingsAlone (conf : Conf ι Rooms.Cmd Rooms.Cmd.Reply ConnectionCallOutcome World)
    (sched : List ι) : Prop where
  held : Always (Conf.step (Rooms.exec planner)) (fun conf => SlotHeld conf.scene) conf sched
  alone : EveryStep (Conf.step (Rooms.exec planner))
    (fun conf i => NoSecond conf.scene (conf.step (Rooms.exec planner) i).scene) conf sched

/-- **One call rings at a time** in every run in which nobody uses a slot that
another invite holds. -/
theorem ringsAlone_of_not_intrudes (calls : ι → ConnectionCall) {w : World}
    (hkeyed : w.calls.Keyed) (hfresh : FreshIds w)
    (hheld : ∀ calleeUserId requestId, Pends w calleeUserId requestId →
      w.calls.pendingForCallee calleeUserId = some requestId) {sched : List ι}
    (hmeets : (calling calls w).Meets (Rooms.exec planner)
      (fun i c s => ¬ Intrudes calls i c s) sched) :
    RingsAlone planner (calling calls w) sched := by
  have hlicensed : (calling calls w).Licensed (Rooms.exec planner) (fun i => (calls i).Licence)
      (fun _ _ _ => True) := fun i => (calls i).obeys planner
  have hstart : Slots calls w (calling calls w).scene := by
    refine ⟨hkeyed, ⟨rfl, le_rfl, ?_, ?_⟩, ?_, ?_, ?_, ?_, ?_, ?_, ?_⟩
    · intro i requestId hdrawn
      cases hdrawn
    · intro i j requestId hdrawn
      cases hdrawn
    · intro i calleeUserId requestId hclaimed
      cases hclaimed
    · intro i settling hcall hwritten
      cases hwritten
    · intro requestId hsome
      refine .inl ?_
      obtain ⟨invite, hpending⟩ := Option.isSome_iff_exists.mp hsome
      obtain ⟨hash, hfind, -⟩ :=
        Option.bind_eq_some_iff.mp (Option.filter_eq_some_iff.mp hpending).1
      rw [show w.calls.invite requestId = _ from hfind]
      rfl
    · rintro i requestId invite ⟨hash, hmem, -⟩
      cases hmem
    · intro i settling hcall hwritten
      cases hwritten
    · intro i calleeUserId requestId hclaimed
      cases hclaimed
    · intro calleeUserId requestId hpends
      exact .inl (hheld calleeUserId requestId hpends)
  have hslots : ∀ pre, (calling calls w).Meets (Rooms.exec planner)
      (fun i c s => ¬ Intrudes calls i c s) pre →
      Slots calls w ((calling calls w).runs (Rooms.exec planner) pre).scene :=
    fun pre hpre => hlicensed.runs_inv (fun s i c h hlicence hnot => h.step hfresh hlicence hnot)
      hstart hpre
  refine ⟨?_, ?_⟩
  · rintro pre ⟨rest, rfl⟩ calleeUserId requestId hpends hlapsed
    have hpre := hslots pre ((Conf.meets_append (Rooms.exec planner)).mp hmeets).1
    exact (hpre.pends calleeUserId requestId hpends).resolve_right hlapsed
  · rintro pre i ⟨rest, rfl⟩
    have hmove := ((Conf.meets_append (Rooms.exec planner)).mp hmeets).1
    obtain ⟨hpre, hnext, -⟩ := (Conf.meets_append (Rooms.exec planner)).mp hmove
    show NoSecond ((calling calls w).runs (Rooms.exec planner) pre).scene _
    have hlic := (hlicensed.runs pre).next i
    show NoSecond _ (((calling calls w).runs (Rooms.exec planner) pre).step _ i).scene
    generalize hconf : (calling calls w).runs (Rooms.exec planner) pre = conf at *
    cases hi : conf.threads i with
    | done a =>
        rw [Conf.step_of_done _ hi]
        intro calleeUserId requestId other _ _ _ hother
        exact hother
    | call c k =>
        rw [Conf.step_of_call _ hi]
        rw [Conf.nextMeets_of_call hi] at hnext hlic
        have hslots' := hslots pre hpre
        rw [hconf] at hslots'
        exact hslots'.noSecond hlic hnext

namespace Sample

def cleo : UserId := ⟨"cleo", by decide⟩
def monologue : ConversationId := ⟨"monologue", by decide⟩

/-- Ada's call rings at Bert's, and Cleo may call Bert, too. -/
def rivals : World :=
  { ringing with
    conversations := fun _ => some ⟨false, [cleo, bert]⟩
    connections := [(cleo, bert)]
    online := fun _ => true }

theorem uuids_ne_firstRing (n : ℕ) : rivals.uuids n ≠ firstRing := by
  intro h
  have htext : "uuid " ++ n.repr = "first-ring" := congrArg Subtype.val h
  have hhead : ("uuid ".toList ++ n.repr.toList).head? = "first-ring".toList.head? := by
    rw [← String.toList_append, htext]
  have hleft : "uuid ".toList = 'u' :: ['u', 'i', 'd', ' '] := by decide
  have hright : "first-ring".toList.head? = some 'f' := by decide
  rw [hleft, List.cons_append, List.head?_cons, hright] at hhead
  exact absurd (Option.some.inj hhead) (by decide)

theorem rivals_fresh : FreshIds rivals where
  injective := Rooms.uuidText_injective
  unused n _ := by
    simp only [rivals, ringing, ringingStore]
    exact Function.update_of_ne (uuids_ne_firstRing n) _ _

theorem rivals_held (calleeUserId : UserId) (requestId : RequestId)
    (h : Pends rivals calleeUserId requestId) :
    rivals.calls.pendingForCallee calleeUserId = some requestId := by
  obtain ⟨invite, hpending, hcallee⟩ := h
  obtain ⟨hash, hfind, hrecord⟩ :=
    Option.bind_eq_some_iff.mp (Option.filter_eq_some_iff.mp hpending).1
  simp only [rivals, ringing, ringingStore] at hfind
  by_cases hkey : requestId = firstRing
  · subst hkey
    rw [Function.update_self] at hfind
    cases hfind
    cases hrecord
    cases hcallee
    simp only [rivals, ringing, ringingStore]
    exact Function.update_self _ _ _
  · rw [Function.update_of_ne hkey] at hfind
    cases hfind

/-- The slot is used by calls about the invite that holds it. -/
def usesOwn (calls : Bool → ConnectionCall) (i : Bool) (s : CallScene Bool) : Rooms.Cmd → Bool
  | .call (.delPendingForCallee calleeUserId) =>
      (s.world.calls.pendingForCallee calleeUserId).all fun holder =>
        match calls i with
        | .settle settling => holder = settling.requestId
        | _ => true
  | .call (.hsetInvite requestId fields) =>
      fields.calleeUserId.all fun calleeUserId =>
        (s.world.calls.pendingForCallee calleeUserId).all (· = requestId)
  | _ => true

theorem not_intrudes_of_usesOwn {calls : Bool → ConnectionCall} {i : Bool} {c : Rooms.Cmd}
    {s : CallScene Bool} (h : usesOwn calls i s c = true) : ¬ Intrudes calls i c s := by
  rintro ⟨calleeUserId, requestId, holder, hslot, hne, ⟨rfl, settling, hcall, rfl⟩ |
    ⟨fields, rfl, hcallee⟩⟩
  · rw [usesOwn, hslot, Option.all_some, hcall] at h
    exact hne (of_decide_eq_true h)
  · rw [usesOwn, hcallee, Option.all_some, hslot, Option.all_some] at h
    exact hne (of_decide_eq_true h)

/-- Ada hangs up, and Cleo calls. -/
def turns : Bool → ConnectionCall
  | false => .settle (.cancel ada firstRing .cancelled)
  | true => .initiate cleo monologue .audio

theorem ringsAlone_turns : RingsAlone .inOrder (calling turns rivals)
    (List.replicate 30 false ++ List.replicate 20 true) := by
  have hkeyed : rivals.calls.Keyed := ringing_keyed
  apply ringsAlone_of_not_intrudes .inOrder turns hkeyed rivals_fresh rivals_held
  have huses : (calling turns rivals).Meets (Rooms.exec .inOrder)
      (fun i c s => usesOwn turns i s c = true)
      (List.replicate 30 false ++ List.replicate 20 true) := by decide +kernel
  exact huses.mono _ fun _ _ _ h => not_intrudes_of_usesOwn h

/-- Bert declines when Ada hangs up, and Cleo calls in between. -/
def crossing : Option Bool → ConnectionCall
  | some false => .settle (.respond bert firstRing false)
  | some true => .settle (.cancel ada firstRing .cancelled)
  | none => .initiate cleo monologue .audio

/-- Bert's answer has found Ada's invite pending; when it cleans up, the slot is
that of Cleo's. -/
def crossed : List (Option Bool) :=
  some false :: (List.replicate 30 (some true) ++ (List.replicate 20 none ++
    List.replicate 4 (some false)))

def isExpiry : Rooms.Cmd → Bool
  | .call (.expiredPendingForCallee _) => true
  | _ => false

theorem not_ringsAlone_crossing : ¬ RingsAlone .inOrder (calling crossing rivals) crossed := by
  intro h
  have hheld : SlotHeld ((calling crossing rivals).runs (Rooms.exec .inOrder) crossed).scene :=
    h.held crossed (List.prefix_refl crossed)
  have hpends : Pends ((calling crossing rivals).runs (Rooms.exec .inOrder) crossed).scene.world
      bert (rivals.uuids 0) := ⟨_, rfl, rfl⟩
  have hnone : ((calling crossing rivals).runs (Rooms.exec .inOrder) crossed).scene.trace.all
      (fun e => !isExpiry e.cmd) = true := by decide +kernel
  have hslot := hheld bert _ hpends (by
    rintro ⟨l, e, rest, htrace, hcmd, -⟩
    have he := List.all_eq_true.mp hnone e (by rw [htrace]; simp)
    rw [hcmd] at he
    cases he)
  have hfree : ((calling crossing rivals).runs (Rooms.exec .inOrder)
      crossed).scene.world.calls.pendingForCallee bert = none := rfl
  rw [hfree] at hslot
  cases hslot

end Sample

end Greetup.Calls
