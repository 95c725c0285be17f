import Greetup.OpenToConnect.Requests
import Greetup.Interleaving.Sequence

/-!
Requests that nobody has answered in time.

A request that is past its time is neither listed nor counted, and can no longer
be accepted. Its row stays pending until somebody answers, and the requester
cannot ask the same target again as long as it does.
-/

namespace Greetup.OpenToConnect

open Interleaving Prog
open Matching (UserMatchState)
open Rooms (UserId)

variable (planner : Rooms.Planner)

/-! ### Guards -/

section Guards

variable {planner} {w v : OtcWorld} {α β : Type} {p : OtcM (Except RequestError Unit)}
  {f : Unit → OtcM (Except RequestError β)} {refused : Bool} {error : RequestError}

theorem run_andThen_guard
    (h : p.run (execOtc planner) w = (if refused then .error error else .ok (), v)) :
    (andThen p f).run (execOtc planner) w =
      if refused then (.error error, v) else (f ()).run (execOtc planner) v := by
  rw [andThen, run_bind, h]
  cases refused <;> rfl

/-- In a call. -/
def OtcWorld.busy (w : OtcWorld) (userId : UserId) : Bool :=
  (match w.matchState userId with
    | .matched _ _ => true
    | _ => false) || (w.rooms.activeRtcRoom userId).isSome

theorem run_assertUserNotBusy (userId : UserId) (label : String) :
    (assertUserNotBusy userId label).run (execOtc planner) w =
      (if w.busy userId then .error (.inCall label) else .ok (), w) := by
  rw [assertUserNotBusy, OtcWorld.busy]
  simp only [run_bind, run_perform, execOtc, Rooms.exec]
  cases w.matchState userId <;> cases w.rooms.activeRtcRoom userId <;> rfl

/-- A search of the user is going on. -/
def OtcWorld.searching (w : OtcWorld) (userId : UserId) : Bool :=
  match w.matchState userId with
  | .searching _ | .proposed _ _ _ _ => true
  | _ => false

/-- The search of the user is over, or could not be ended. -/
def OtcWorld.stopped (w : OtcWorld) (userId : UserId) : OtcWorld :=
  if w.searching userId then
    { w with
      matchState := if w.matchEngine then Function.update w.matchState userId .idle
        else w.matchState
      rooms := w.rooms.clearUserActiveRtcRoom userId }
  else w

theorem run_stopSearching (userId : UserId) :
    (stopSearching userId).run (execOtc planner) w =
      (if w.searching userId && !w.matchEngine then .error .matchEngineUnavailable else .ok (),
        w.stopped userId) := by
  have hcancel : (cancelMatchService userId).run (execOtc planner) w =
      (if !w.matchEngine then .error .matchEngineUnavailable else .ok (),
        { w with
          matchState := if w.matchEngine then Function.update w.matchState userId .idle
            else w.matchState
          rooms := w.rooms.clearUserActiveRtcRoom userId }) := by
    rw [cancelMatchService]
    simp only [run_bind, run_perform, execOtc, Rooms.exec, throwIf]
    rfl
  rw [stopSearching, OtcWorld.stopped, OtcWorld.searching]
  simp only [run_bind, run_perform, execOtc]
  cases w.matchState userId with
  | idle => rfl
  | matched requestId roomId => rfl
  | searching requestId => exact hcancel
  | proposed requestId peerUserId matchScore isFallbackMatch => exact hcancel

theorem run_assertNotBlocked (requesterUserId targetUserId : UserId) :
    (assertNotBlocked requesterUserId targetUserId).run (execOtc planner) w =
      (if w.eitherBlocked requesterUserId targetUserId then .error .blocked else .ok (), w) := rfl

theorem run_assertTargetIsOpen (targetUserId : UserId) :
    (assertTargetIsOpen targetUserId).run (execOtc planner) w =
      (if !w.isUserVisibleInDiscovery targetUserId then .error .notOpen else .ok (), w) := rfl

/-- The pair is in the time after a rejection. -/
def OtcWorld.declined (w : OtcWorld) (requesterUserId targetUserId : UserId) : Bool :=
  (w.requests.findRecentRejected requesterUserId targetUserId
    (w.rooms.clock - connectRequestRejectCooldownMs)).isSome

/-- The target has as many pending requests as there may be. -/
def OtcWorld.inboxFull (w : OtcWorld) (targetUserId : UserId) : Bool :=
  RequestTable.connectRequestMaxInboundPending ≤
    w.requests.countInboundPending targetUserId w.rooms.clock

theorem run_assertNotDeclined (requesterUserId targetUserId : UserId) :
    (assertNotDeclined requesterUserId targetUserId).run (execOtc planner) w =
      (if w.declined requesterUserId targetUserId then .error .declinedRecently else .ok (), w) :=
  rfl

theorem run_assertNonePending (requesterUserId targetUserId : UserId) :
    (assertNonePending requesterUserId targetUserId).run (execOtc planner) w =
      (if (w.requests.findPendingBetween requesterUserId targetUserId).isSome
        then .error .alreadyPending else .ok (), w) := rfl

theorem run_assertInboxNotFull (targetUserId : UserId) :
    (assertInboxNotFull targetUserId).run (execOtc planner) w =
      (if w.inboxFull targetUserId then .error .tooManyPending else .ok (), w) := rfl

/-- One request more of the user is counted. -/
def OtcWorld.counted (w : OtcWorld) (userId : UserId) : OtcWorld :=
  (w.consumeRateLimit userId connectRequestOutboundRateLimit).2

def OtcWorld.rateLimited (w : OtcWorld) (userId : UserId) : Bool :=
  connectRequestOutboundRateLimit < w.outboundCount userId + 1

theorem run_assertOutboundRateLimit (userId : UserId) :
    (assertOutboundRateLimit userId).run (execOtc planner) w =
      (if w.rateLimited userId then .error .tooManyRequests else .ok (), w.counted userId) := by
  rw [assertOutboundRateLimit, OtcWorld.rateLimited]
  simp only [run_bind, run_perform, execOtc, OtcWorld.consumeRateLimit, throwIf, ← not_lt,
    decide_not, Bool.not_not]
  rfl

theorem run_announce_isOk (row : ConnectRequest) :
    ((announce row).run (execOtc planner) w).1.isOk = true ↔
      (w.users row.requesterUserId).isSome = true ∧ (w.users row.targetUserId).isSome = true := by
  have hrequester : (if row.requesterUserId ∈ [row.targetUserId, row.requesterUserId] then
      w.users row.requesterUserId else none) = w.users row.requesterUserId := if_pos (by simp)
  have htarget : (if row.targetUserId ∈ [row.targetUserId, row.requesterUserId] then
      w.users row.targetUserId else none) = w.users row.targetUserId := if_pos (by simp)
  rw [announce]
  simp only [run_bind, run_perform, execOtc, hrequester, htarget]
  cases w.users row.requesterUserId with
  | none => simp [Except.isOk, Except.toBool]
  | some requester =>
      cases w.users row.targetUserId with
      | none => simp [Except.isOk, Except.toBool]
      | some target => simp [execOtc, Except.isOk, Except.toBool]

/-- There is a row of both users, and the constraints let the request in. -/
theorem run_insertPending_isOk (requesterUserId : UserId) (body : CreateConnectRequestBody) :
    ((insertPending requesterUserId body).run (execOtc planner) w).1.isOk = true ↔
      w.requests.Admits requesterUserId body.targetUserId ∧
        (w.users requesterUserId).isSome = true ∧ (w.users body.targetUserId).isSome = true := by
  rw [insertPending]
  simp only [run_bind, run_perform, execOtc, OtcWorld.createPending, RequestTable.createPending]
  by_cases hadmits : w.requests.Admits requesterUserId body.targetUserId
  · simp only [dif_pos hadmits, run_announce_isOk]
    exact (and_iff_right hadmits).symm
  · simp only [hadmits, false_and, iff_false]
    simp [Except.isOk, Except.toBool]

end Guards

/-! ### Creating -/

/-- What a request needs besides the requests that there are. -/
structure OtcWorld.Ready (w : OtcWorld) (requesterUserId targetUserId : UserId) : Prop where
  other : targetUserId ≠ requesterUserId
  notBlocked : w.eitherBlocked requesterUserId targetUserId = false
  requesterFree : w.busy requesterUserId = false
  targetFree : w.busy targetUserId = false
  visible : w.isUserVisibleInDiscovery targetUserId = true
  stops : w.searching requesterUserId = true → w.matchEngine = true
  allowed : w.rateLimited requesterUserId = false
  requester : (w.users requesterUserId).isSome = true
  target : (w.users targetUserId).isSome = true

section Creating

variable {planner} {w : OtcWorld} {requesterUserId : UserId} {body : CreateConnectRequestBody}

theorem isOk_ite {α : Type} {c : Prop} [Decidable c] {error : RequestError} {v : OtcWorld}
    {x : Except RequestError α × OtcWorld} :
    (if c then (.error error, v) else x : Except RequestError α × OtcWorld).1.isOk = true ↔
      ¬ c ∧ x.1.isOk = true := by
  by_cases h : c
  · simp [h, Except.isOk, Except.toBool]
  · simp [h]

theorem requests_stopped (userId : UserId) : (w.stopped userId).requests = w.requests := by
  rw [OtcWorld.stopped]
  split <;> rfl

theorem clock_stopped (userId : UserId) :
    (w.stopped userId).rooms.clock = w.rooms.clock := by
  have hclear : (w.rooms.clearUserActiveRtcRoom userId).clock = w.rooms.clock := by
    rw [Rooms.World.clearUserActiveRtcRoom, Rooms.World.restoreOpenToConnectAfterRoom]
    split
    · rfl
    · split <;> rfl
  rw [OtcWorld.stopped]
  split
  · exact hclear
  · rfl

theorem declined_congr {v : OtcWorld} (hrequests : v.requests = w.requests)
    (hclock : v.rooms.clock = w.rooms.clock) : v.declined = w.declined := by
  funext requesterUserId targetUserId
  rw [OtcWorld.declined, OtcWorld.declined, hrequests, hclock]

theorem inboxFull_congr {v : OtcWorld} (hrequests : v.requests = w.requests)
    (hclock : v.rooms.clock = w.rooms.clock) : v.inboxFull = w.inboxFull := by
  funext targetUserId
  rw [OtcWorld.inboxFull, OtcWorld.inboxFull, hrequests, hclock]

theorem outbound_stopped (userId : UserId) :
    (w.stopped userId).rateLimited = w.rateLimited ∧ (w.stopped userId).users = w.users := by
  rw [OtcWorld.stopped]
  split <;> exact ⟨rfl, rfl⟩

/-- **When a request can be made.** -/
theorem run_createConnectRequestService_isOk :
    ((createConnectRequestService requesterUserId body).run (execOtc planner) w).1.isOk = true ↔
      w.Ready requesterUserId body.targetUserId ∧
        w.declined requesterUserId body.targetUserId = false ∧
        w.inboxFull body.targetUserId = false ∧
        w.requests.Admits requesterUserId body.targetUserId := by
  have hself : (throwIf (body.targetUserId = requesterUserId) .yourself).run (execOtc planner) w =
      (if decide (body.targetUserId = requesterUserId) then .error .yourself else .ok (), w) := rfl
  rw [createConnectRequestService]
  rw [run_andThen_guard hself, isOk_ite, run_andThen_guard (run_assertNotBlocked _ _), isOk_ite,
    run_andThen_guard (run_assertUserNotBusy _ _), isOk_ite,
    run_andThen_guard (run_assertUserNotBusy _ _), isOk_ite,
    run_andThen_guard (run_assertTargetIsOpen _), isOk_ite,
    run_andThen_guard (run_stopSearching _), isOk_ite,
    run_andThen_guard (run_assertNotDeclined _ _), isOk_ite,
    run_andThen_guard (run_assertNonePending _ _), isOk_ite,
    run_andThen_guard (run_assertInboxNotFull _), isOk_ite,
    run_andThen_guard (run_assertOutboundRateLimit _), isOk_ite, run_insertPending_isOk,
    declined_congr (requests_stopped _) (clock_stopped _),
    inboxFull_congr (requests_stopped _) (clock_stopped _), requests_stopped,
    (outbound_stopped _).1, RequestTable.findPendingBetween_isSome_iff]
  have hrequests : ((w.stopped requesterUserId).counted requesterUserId).requests = w.requests :=
    requests_stopped _
  have husers : ((w.stopped requesterUserId).counted requesterUserId).users = w.users :=
    (outbound_stopped _).2
  rw [hrequests, husers]
  simp only [decide_eq_true_eq, Bool.not_eq_true, Bool.and_eq_true, Bool.not_eq_true', not_and,
    Bool.not_eq_false]
  constructor
  · rintro ⟨hother, hblocked, hfree, hfree', hvisible, hstops, hdeclined, -, hfull, hallowed,
      hadmits, hrequester, htarget⟩
    exact ⟨⟨hother, hblocked, hfree, hfree', hvisible, hstops, hallowed, hrequester, htarget⟩,
      hdeclined, hfull, hadmits⟩
  · rintro ⟨⟨hother, hblocked, hfree, hfree', hvisible, hstops, hallowed, hrequester, htarget⟩,
      hdeclined, hfull, hadmits⟩
    refine ⟨hother, hblocked, hfree, hfree', hvisible, hstops, hdeclined, ?_, hfull, hallowed,
      hadmits, hrequester, htarget⟩
    rintro ⟨row, hrow, hpending⟩
    exact hadmits.2 row hrow hpending

end Creating

/-! ### A request that is past its time -/

/-- Another world with the same requests, at the same time. -/
structure OtcWorld.SameRequests (w v : OtcWorld) : Prop where
  requests : v.requests = w.requests
  clock : v.rooms.clock = w.rooms.clock

/-- The world as if there had never been the request. -/
def OtcWorld.without (w : OtcWorld) (id : ConnectRequestId) : OtcWorld :=
  { w with requests := w.requests.without id }

/-- Nobody answered the request, and its time is over. -/
structure OtcWorld.Past (w : OtcWorld) (row : ConnectRequest) : Prop where
  mem : row ∈ w.requests.rows
  unanswered : row.Unanswered
  past : row.expiresAt < w.rooms.clock

/-- Whatever else there is in the world, the request counts for nothing. -/
structure OtcWorld.Inert (w : OtcWorld) (row : ConnectRequest) : Prop where
  listed : ∀ v, w.SameRequests v → ∀ item ∈
    ((listInboundConnectRequestsService row.targetUserId).run (execOtc planner) v).1,
      item.row.id ≠ row.id
  accepted : ∀ v, w.SameRequests v → ∀ userId,
    ((respondConnectRequestService userId row.id true).run (execOtc planner) v).1.isOk = false ∧
      ∀ row' ∈ ((respondConnectRequestService userId row.id true).run (execOtc planner)
        v).2.requests.rows, row'.id = row.id → row'.status ≠ .accepted
  counted : (w.without row.id).requests.countInboundPending row.targetUserId w.rooms.clock =
    w.requests.countInboundPending row.targetUserId w.rooms.clock
  blocking : ∀ v, w.SameRequests v → ∀ body : CreateConnectRequestBody,
    body.targetUserId = row.targetUserId →
      ((createConnectRequestService row.requesterUserId body).run (execOtc planner)
        (v.without row.id)).1.isOk = true →
      ((createConnectRequestService row.requesterUserId body).run (execOtc planner) v).1.isOk = true

/-- The row is no longer pending, or the pair could not have a request anyway. -/
def OtcWorld.Excused (w : OtcWorld) (row : ConnectRequest) : Prop :=
  row.status ≠ .pending ∨ w.declined row.requesterUserId row.targetUserId = true ∨
    w.inboxFull row.targetUserId = true

section Past

variable {planner} {w v : OtcWorld} {row : ConnectRequest}

theorem mem_inboundItems {targetUserId : UserId} {peers : UserId → Option ConnectRequestPeer}
    {rows : List ConnectRequest} {item : ConnectRequestItem}
    (h : item ∈ ((inboundItems targetUserId peers rows).run (execOtc planner) w).1) :
    item.row ∈ rows := by
  induction rows generalizing w item with
  | nil => cases h
  | cons row rows ih =>
      rw [inboundItems] at h
      cases hpeer : peers row.requesterUserId with
      | none =>
          rw [hpeer] at h
          exact List.mem_cons_of_mem _ (ih h)
      | some peer =>
          rw [hpeer] at h
          simp only [run_bind, run_perform, execOtc, pure_eq, run_done] at h
          rcases List.mem_cons.mp h with rfl | h
          · exact List.mem_cons_self
          · exact List.mem_cons_of_mem _ (ih h)

/-- What is listed has time left. -/
theorem not_past_of_listed {targetUserId : UserId} {item : ConnectRequestItem}
    (h : item ∈ ((listInboundConnectRequestsService targetUserId).run (execOtc planner) w).1) :
    item.row ∈ w.requests.rows ∧ w.rooms.clock ≤ item.row.expiresAt :=
  RequestTable.of_mem_listInboundPending (mem_inboundItems h)

/-- A late answer expires the request. -/
theorem run_respond_past (planner : Rooms.Planner) (hrow : row ∈ w.requests.rows)
    (hlate : row.expiresAt ≤ w.rooms.clock)
    (userId : UserId) : ∃ error,
      ((respondConnectRequestService userId row.id true).run (execOtc planner) w).1 =
          .error error ∧
        (((respondConnectRequestService userId row.id true).run (execOtc planner) w).2 = w ∨
          ((respondConnectRequestService userId row.id true).run (execOtc planner) w).2 =
            (w.respond row.id .expired none).2) := by
  have hfind : w.requests.find row.id = some row := Sql.Table.find_eq_some.mpr ⟨hrow, rfl⟩
  have hexpired : (respondUnlessExpired row row.id true).run (execOtc planner) w =
      (.error .requestExpired, (w.respond row.id .expired none).2) := by
    show Prog.run (execOtc planner) (if row.expiresAt ≤ w.rooms.clock then _ else _) w = _
    rw [if_pos hlate]
    rfl
  rw [respondConnectRequestService]
  simp only [run_bind, run_perform, execOtc, hfind]
  split_ifs with htarget hstatus
  · exact ⟨.requestNotFound, rfl, .inl rfl⟩
  · exact ⟨.noLongerPending, rfl, .inl rfl⟩
  · exact ⟨.requestExpired, congrArg Prod.fst hexpired, .inr (congrArg Prod.snd hexpired)⟩

namespace OtcWorld.Past

variable (h : w.Past row)
include h

theorem congr (hv : w.SameRequests v) : v.Past row :=
  ⟨hv.requests ▸ h.mem, h.unanswered, hv.clock ▸ h.past⟩

theorem status_ne_accepted : row.status ≠ .accepted := by
  rcases h.unanswered with hstatus | hstatus <;> rw [hstatus] <;> decide

theorem status_ne_rejected : row.status ≠ .rejected := by
  rcases h.unanswered with hstatus | hstatus <;> rw [hstatus] <;> decide

theorem not_listed {item : ConnectRequestItem} (hitem : item ∈
    ((listInboundConnectRequestsService row.targetUserId).run (execOtc planner) w).1) :
    item.row.id ≠ row.id := by
  intro hid
  obtain ⟨hmem, htime⟩ := not_past_of_listed hitem
  rw [Sql.Table.eq_of_key hmem h.mem hid] at htime
  exact absurd h.past (not_lt.mpr htime)

theorem not_accepted (userId : UserId) :
    ((respondConnectRequestService userId row.id true).run (execOtc planner) w).1.isOk = false ∧
      ∀ row' ∈ ((respondConnectRequestService userId row.id true).run (execOtc planner)
        w).2.requests.rows, row'.id = row.id → row'.status ≠ .accepted := by
  obtain ⟨error, herror, hw⟩ := run_respond_past planner h.mem h.past.le userId
  refine ⟨by rw [herror]; rfl, fun row' hrow' hid => ?_⟩
  rcases hw with hw | hw
  · rw [hw] at hrow'
    rw [Sql.Table.eq_of_key hrow' h.mem hid]
    exact h.status_ne_accepted
  · rw [hw] at hrow'
    obtain ⟨old, hold, rfl⟩ := List.mem_map.mp hrow'
    rw [RequestTable.answer_id] at hid
    rw [Sql.Table.eq_of_key hold h.mem hid, RequestTable.answer]
    split
    · exact fun hexpired => ConnectRequestStatus.noConfusion hexpired
    · exact h.status_ne_accepted

/-- A row that is past its time is in no count. -/
theorem countInboundPending_without : (w.without row.id).requests.countInboundPending
    row.targetUserId w.rooms.clock =
      w.requests.countInboundPending row.targetUserId w.rooms.clock := by
  rw [RequestTable.countInboundPending, RequestTable.countInboundPending, without,
    RequestTable.without]
  dsimp only
  rw [List.countP_filter]
  refine List.countP_congr fun row' hrow' => ?_
  simp only [decide_eq_true_eq, Bool.and_eq_true, ne_eq, decide_not, Bool.not_eq_true',
    decide_eq_false_iff_not, and_iff_left_iff_imp]
  rintro ⟨-, -, htime⟩ hid
  rw [Sql.Table.eq_of_key hrow' h.mem hid] at htime
  exact absurd h.past (not_lt.mpr htime)

theorem inboxFull_without :
    (w.without row.id).inboxFull row.targetUserId = w.inboxFull row.targetUserId := by
  rw [inboxFull, inboxFull]
  have hcount := h.countInboundPending_without
  rw [show (w.without row.id).rooms.clock = w.rooms.clock from rfl, hcount]

/-- Nobody has rejected it. -/
theorem declined_without (requesterUserId targetUserId : UserId) :
    (w.without row.id).declined requesterUserId targetUserId =
      w.declined requesterUserId targetUserId := by
  rw [Bool.eq_iff_iff, declined, declined, RequestTable.findRecentRejected_isSome_iff,
    RequestTable.findRecentRejected_isSome_iff]
  constructor
  · rintro ⟨row', hrow', hcond⟩
    exact ⟨row', (RequestTable.mem_without.mp hrow').1, hcond⟩
  · rintro ⟨row', hrow', hcond⟩
    refine ⟨row', RequestTable.mem_without.mpr ⟨hrow', fun hid => ?_⟩, hcond⟩
    rw [Sql.Table.eq_of_key hrow' h.mem hid] at hcond
    exact h.status_ne_rejected hcond.2.1

/-- Without a pending row, the table admits just as much. -/
theorem admits_without (hstatus : row.status ≠ .pending) {requesterUserId targetUserId : UserId}
    (hadmits : (w.without row.id).requests.Admits requesterUserId targetUserId) :
    w.requests.Admits requesterUserId targetUserId := by
  refine ⟨hadmits.1, fun row' hrow' hpending => ?_⟩
  by_cases hid : row'.id = row.id
  · rw [Sql.Table.eq_of_key hrow' h.mem hid] at hpending
    exact hstatus hpending.2
  · exact hadmits.2 row' (RequestTable.mem_without.mpr ⟨hrow', hid⟩) hpending

theorem not_blocking (hexcused : w.Excused row) {body : CreateConnectRequestBody}
    (hbody : body.targetUserId = row.targetUserId)
    (hok : ((createConnectRequestService row.requesterUserId body).run (execOtc planner)
      (w.without row.id)).1.isOk = true) :
    ((createConnectRequestService row.requesterUserId body).run (execOtc planner) w).1.isOk =
      true := by
  rw [run_createConnectRequestService_isOk, hbody, h.declined_without, h.inboxFull_without] at hok
  obtain ⟨hready, hdeclined, hfull, hadmits⟩ := hok
  rw [run_createConnectRequestService_isOk, hbody]
  refine ⟨⟨hready.1, hready.2, hready.3, hready.4, hready.5, hready.6, hready.7, hready.8,
    hready.9⟩, hdeclined, hfull, ?_⟩
  rcases hexcused with hstatus | hdeclined' | hfull'
  · exact h.admits_without hstatus hadmits
  · rw [hdeclined] at hdeclined'
    cases hdeclined'
  · rw [hfull] at hfull'
    cases hfull'

end OtcWorld.Past

end Past

/-! ### Histories -/

/-- The world with the same requests, and nothing in the way of one more. -/
def OtcWorld.friendly (w : OtcWorld) : OtcWorld :=
  { w with
    eitherBlocked := fun _ _ => false
    matchState := fun _ => .idle
    outboundCount := fun _ => 0
    users := fun userId => some { userId, username := "", name := "" }
    rooms := { w.rooms with
      activeRtcRoom := fun _ => none, online := fun _ => true, discoverable := fun _ => true } }

section Histories

variable {planner} {w : OtcWorld} {row : ConnectRequest} {requesterUserId targetUserId : UserId}

theorem sameRequests_friendly : w.SameRequests w.friendly := ⟨rfl, rfl⟩

theorem ready_friendly (h : targetUserId ≠ requesterUserId) (id : ConnectRequestId) :
    (w.friendly.without id).Ready requesterUserId targetUserId :=
  ⟨h, rfl, rfl, rfl, rfl, fun hsearching => absurd hsearching Bool.false_ne_true, rfl, rfl, rfl⟩

/-- Two pending requests of one pair there are not. -/
theorem admits_without_pending (hrow : row ∈ w.requests.rows) (hstatus : row.status = .pending) :
    (w.without row.id).requests.Admits row.requesterUserId row.targetUserId := by
  refine ⟨w.requests.noSelf row hrow, fun row' hrow' hpending => ?_⟩
  obtain ⟨hmem, hid⟩ := RequestTable.mem_without.mp hrow'
  exact hid (w.requests.pendingPair row hrow row' hmem hstatus hpending.2 hpending.1)

theorem inert_iff (h : w.Past row) : w.Inert planner row ↔ w.Excused row := by
  constructor
  · intro hinert
    by_contra hexcused
    rw [OtcWorld.Excused, not_or, not_or, not_not, Bool.not_eq_true, Bool.not_eq_true] at hexcused
    obtain ⟨hstatus, hdeclined, hfull⟩ := hexcused
    have hpast : w.friendly.Past row := h.congr sameRequests_friendly
    have hother : row.targetUserId ≠ row.requesterUserId :=
      (w.requests.noSelf row h.mem).symm
    -- without the request there is nothing in the way
    have hok : ((createConnectRequestService row.requesterUserId
        { targetUserId := row.targetUserId }).run (execOtc planner)
        (w.friendly.without row.id)).1.isOk = true := by
      rw [run_createConnectRequestService_isOk, hpast.declined_without, hpast.inboxFull_without]
      exact ⟨ready_friendly hother _, hdeclined, hfull, admits_without_pending h.mem hstatus⟩
    have hblocked := hinert.blocking _ sameRequests_friendly _ rfl hok
    rw [run_createConnectRequestService_isOk] at hblocked
    exact hblocked.2.2.2.2 row h.mem ⟨⟨rfl, rfl⟩, hstatus⟩
  · intro hexcused
    refine ⟨fun v hv item hitem => (h.congr hv).not_listed hitem,
      fun v hv userId => (h.congr hv).not_accepted userId, h.countInboundPending_without,
      fun v hv body hbody hok => (h.congr hv).not_blocking ?_ hbody hok⟩
    rw [OtcWorld.Excused, declined_congr hv.requests hv.clock, inboxFull_congr hv.requests hv.clock]
    exact hexcused

end Histories

inductive RequestCall
  | create (requesterUserId : UserId) (body : CreateConnectRequestBody)
  | respond (targetUserId : UserId) (requestId : ConnectRequestId) (accept : Bool)
  | cancel (requesterUserId : UserId) (requestId : ConnectRequestId)
  | listInbound (targetUserId : UserId)
  | listOutbound (requesterUserId : UserId)

/-- A change of what is not a request, which takes its time. -/
structure Elsewhere where
  change : OtcWorld → OtcWorld
  requests : ∀ w, (change w).requests = w.requests
  clock : ∀ w, w.rooms.clock ≤ (change w).rooms.clock

inductive Happening
  | call (c : RequestCall)
  | elsewhere (e : Elsewhere)

def RequestCall.after (w : OtcWorld) : RequestCall → OtcWorld
  | .create requesterUserId body =>
      ((createConnectRequestService requesterUserId body).run (execOtc planner) w).2
  | .respond targetUserId requestId accept =>
      ((respondConnectRequestService targetUserId requestId accept).run (execOtc planner) w).2
  | .cancel requesterUserId requestId =>
      ((cancelConnectRequestService requesterUserId requestId).run (execOtc planner) w).2
  | .listInbound targetUserId =>
      ((listInboundConnectRequestsService targetUserId).run (execOtc planner) w).2
  | .listOutbound requesterUserId =>
      ((listOutboundConnectRequestsService requesterUserId).run (execOtc planner) w).2

def Happening.after (w : OtcWorld) : Happening → OtcWorld
  | .call c => c.after planner w
  | .elsewhere e => e.change w

/-- **An expired request counts for nothing** throughout a history just when the
requests that are past their time are excused throughout it. -/
theorem always_inert_iff (w : OtcWorld) (history : List Happening) :
    Always (Happening.after planner) (fun w => ∀ row, w.Past row → w.Inert planner row) w history ↔
      Always (Happening.after planner) (fun w => ∀ row, w.Past row → w.Excused row) w history := by
  have hpoint (w : OtcWorld) :
      (∀ row, w.Past row → w.Inert planner row) ↔ ∀ row, w.Past row → w.Excused row :=
    forall_congr' fun row => imp_congr_right inert_iff
  exact forall_congr' fun pre => imp_congr_right fun _ => hpoint _

namespace Sample

def gale : UserId := ⟨"gale", by decide⟩
def rory : UserId := ⟨"rory", by decide⟩

/-- Ten minutes go by. -/
def tenMinutes : Elsewhere where
  change w := { w with rooms := { w.rooms with clock := w.rooms.clock + 600000 } }
  requests _ := rfl
  clock w := Int.le_add_of_nonneg_right (by decide)

/-- `gale` asks `rory`, who does not answer. -/
def unanswered : List Happening :=
  [.call (.create gale { targetUserId := rory }), .elsewhere tenMinutes]

def asked : ConnectRequest where
  id := 0
  requesterUserId := gale
  targetUserId := rory
  createdAt := 0
  expiresAt := 300000

/-- The request of five minutes still keeps `gale` from asking again. -/
theorem not_inert_unanswered :
    ¬ ∀ (planner : Rooms.Planner) (w : OtcWorld) (history : List Happening),
      w.requests = .empty → Always (Happening.after planner)
        (fun w => ∀ row, w.Past row → w.Inert planner row) w history := by
  intro h
  have hpast : (unanswered.foldl (Happening.after .inOrder) ({} : OtcWorld).friendly).Past asked :=
    ⟨List.mem_singleton.mpr rfl, .inl rfl, by decide⟩
  have hinert := h .inOrder ({} : OtcWorld).friendly unanswered rfl unanswered List.prefix_rfl asked
    hpast
  rcases (inert_iff hpast).mp hinert with hstatus | hdeclined | hfull
  · exact hstatus rfl
  · exact absurd hdeclined (by decide)
  · exact absurd hfull (by decide)

end Sample

end Greetup.OpenToConnect
