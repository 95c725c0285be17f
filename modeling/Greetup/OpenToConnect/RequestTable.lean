import Greetup.Rooms.World
import Greetup.Sql.Table

/-!
The table of the requests to connect.

The ids are drawn in a row. The constraints of the table are fields of it: nobody
requests themselves, and of one requester to one target there is at most one
request that is pending.
-/

namespace Greetup.OpenToConnect

open Rooms (UserId RoomId)

/-- Ids are drawn anew for each request. -/
abbrev ConnectRequestId := ℕ

/-- `connect_request_status` -/
inductive ConnectRequestStatus
  | pending
  | accepted
  | rejected
  | expired
  | cancelled
  deriving DecidableEq

/-- What a pending request can become. -/
inductive RequestOutcome
  | accepted
  | rejected
  | cancelled
  | expired
  deriving DecidableEq

def RequestOutcome.status : RequestOutcome → ConnectRequestStatus
  | .accepted => .accepted
  | .rejected => .rejected
  | .cancelled => .cancelled
  | .expired => .expired

theorem RequestOutcome.status_ne_pending (outcome : RequestOutcome) :
    outcome.status ≠ .pending := by
  cases outcome <;> decide

structure ConnectRequest where
  id : ConnectRequestId
  requesterUserId : UserId
  targetUserId : UserId
  status : ConnectRequestStatus := .pending
  message : Option String := none
  roomId : Option RoomId := none
  createdAt : ℤ
  respondedAt : Option ℤ := none
  expiresAt : ℤ
  deriving DecidableEq

namespace ConnectRequest

variable (row : ConnectRequest)

/-- From this requester to this target. -/
def Between (requesterUserId targetUserId : UserId) : Prop :=
  row.requesterUserId = requesterUserId ∧ row.targetUserId = targetUserId

instance (requesterUserId targetUserId : UserId) :
    Decidable (row.Between requesterUserId targetUserId) :=
  inferInstanceAs (Decidable (_ ∧ _))

/-- Neither accepted nor rejected nor cancelled. -/
def Unanswered : Prop := row.status = .pending ∨ row.status = .expired

/-- The update of `respond`. -/
def answered (outcome : RequestOutcome) (roomId : Option RoomId) (now : ℤ) : ConnectRequest :=
  { row with status := outcome.status, roomId, respondedAt := some now }

end ConnectRequest

@[ext]
structure RequestTable extends Sql.Table ConnectRequest.id where
  nextId : ConnectRequestId
  drawn : ∀ row ∈ rows, row.id < nextId
  /-- `connect_requests_no_self` -/
  noSelf : ∀ row ∈ rows, row.requesterUserId ≠ row.targetUserId
  /-- `idx_connect_requests_pending_pair` -/
  pendingPair : ∀ row ∈ rows, ∀ row' ∈ rows, row.status = .pending → row'.status = .pending →
    row'.Between row.requesterUserId row.targetUserId → row'.id = row.id

namespace RequestTable

variable (t : RequestTable)

def empty : RequestTable where
  rows := []
  nextId := 0
  drawn := by simp
  unique := List.nodup_nil
  noSelf := by simp
  pendingPair := by simp

/-- The rows, each as the update leaves it. -/
def answer (id : ConnectRequestId) (outcome : RequestOutcome) (roomId : Option RoomId) (now : ℤ)
    (row : ConnectRequest) : ConnectRequest :=
  if row.id = id ∧ row.status = .pending then row.answered outcome roomId now else row

section Answer

variable {id : ConnectRequestId} {outcome : RequestOutcome} {roomId : Option RoomId} {now : ℤ}
  {row : ConnectRequest}

@[simp] theorem answer_id : (answer id outcome roomId now row).id = row.id := by
  rw [answer]
  split <;> rfl

@[simp] theorem answer_requesterUserId :
    (answer id outcome roomId now row).requesterUserId = row.requesterUserId := by
  rw [answer]
  split <;> rfl

@[simp] theorem answer_targetUserId :
    (answer id outcome roomId now row).targetUserId = row.targetUserId := by
  rw [answer]
  split <;> rfl

/-- What is pending behind the update was pending before it. -/
theorem pending_of_answer (h : (answer id outcome roomId now row).status = .pending) :
    row.status = .pending := by
  rw [answer] at h
  split at h
  · exact absurd h outcome.status_ne_pending
  · exact h

end Answer

/-- The row is updated only while it is pending. -/
def respond (id : ConnectRequestId) (outcome : RequestOutcome) (roomId : Option RoomId) (now : ℤ) :
    RequestTable where
  rows := t.rows.map (answer id outcome roomId now)
  nextId := t.nextId
  drawn := by
    intro row hrow
    obtain ⟨row', hrow', rfl⟩ := List.mem_map.mp hrow
    rw [answer_id]
    exact t.drawn row' hrow'
  unique := by
    have hids : ConnectRequest.id ∘ answer id outcome roomId now = ConnectRequest.id :=
      funext fun row => answer_id
    rw [List.map_map, hids]
    exact t.unique
  noSelf := by
    intro row hrow
    obtain ⟨row', hrow', rfl⟩ := List.mem_map.mp hrow
    rw [answer_requesterUserId, answer_targetUserId]
    exact t.noSelf row' hrow'
  pendingPair := by
    intro row hrow row' hrow' hpending hpending' hbetween
    obtain ⟨r, hr, rfl⟩ := List.mem_map.mp hrow
    obtain ⟨r', hr', rfl⟩ := List.mem_map.mp hrow'
    simp only [ConnectRequest.Between, answer_requesterUserId, answer_targetUserId] at hbetween
    rw [answer_id, answer_id]
    exact t.pendingPair r hr r' hr' (pending_of_answer hpending) (pending_of_answer hpending')
      hbetween

/-- The request of the pair that is pending. -/
def findPendingBetween (requesterUserId targetUserId : UserId) : Option ConnectRequest :=
  t.rows.find? fun row => row.Between requesterUserId targetUserId ∧ row.status = .pending

def countInboundPending (targetUserId : UserId) (now : ℤ) : ℕ :=
  t.rows.countP fun row =>
    row.targetUserId = targetUserId ∧ row.status = .pending ∧ now ≤ row.expiresAt

/-- The latest of them is returned; nothing but its being there is looked at. -/
def findRecentRejected (requesterUserId targetUserId : UserId) (since : ℤ) :
    Option ConnectRequest :=
  t.rows.find? fun row => row.Between requesterUserId targetUserId ∧ row.status = .rejected ∧
    row.respondedAt.any (since ≤ ·)

/-- `CONNECT_REQUEST_MAX_INBOUND_PENDING` -/
def connectRequestMaxInboundPending : ℕ := 3

/-- Newest first. -/
def newestFirst (rows : List ConnectRequest) : List ConnectRequest :=
  rows.mergeSort fun row row' => row'.createdAt ≤ row.createdAt

def listInboundPending (targetUserId : UserId) (now : ℤ) : List ConnectRequest :=
  (newestFirst (t.rows.filter fun row => row.targetUserId = targetUserId ∧ row.status = .pending ∧
    now ≤ row.expiresAt)).take connectRequestMaxInboundPending

def listOutboundRecent (requesterUserId : UserId) (limit : ℕ) : List ConnectRequest :=
  (newestFirst (t.rows.filter (·.requesterUserId = requesterUserId))).take limit

/-- The row that is inserted. -/
def pendingRow (requesterUserId targetUserId : UserId) (message : Option String)
    (expiresAt now : ℤ) : ConnectRequest :=
  { id := t.nextId, requesterUserId, targetUserId, message, createdAt := now, expiresAt }

/-- The constraints let a pending row of the pair in. -/
def Admits (requesterUserId targetUserId : UserId) : Prop :=
  requesterUserId ≠ targetUserId ∧
    ∀ row ∈ t.rows, ¬ (row.Between requesterUserId targetUserId ∧ row.status = .pending)

instance (requesterUserId targetUserId : UserId) :
    Decidable (t.Admits requesterUserId targetUserId) := inferInstanceAs (Decidable (_ ∧ _))

/-- The table with a pending row more. -/
def insertPending (requesterUserId targetUserId : UserId) (message : Option String)
    (expiresAt now : ℤ) (h : t.Admits requesterUserId targetUserId) : RequestTable where
  rows := t.pendingRow requesterUserId targetUserId message expiresAt now :: t.rows
  nextId := t.nextId + 1
  drawn := by
    intro row hrow
    rcases List.mem_cons.mp hrow with rfl | hrow
    · exact Nat.lt_succ_self _
    · exact Nat.lt_succ_of_lt (t.drawn row hrow)
  unique := by
    rw [List.map_cons, List.nodup_cons]
    refine ⟨?_, t.unique⟩
    intro hmem
    obtain ⟨row, hrow, hid⟩ := List.mem_map.mp hmem
    exact absurd hid (t.drawn row hrow).ne
  noSelf := by
    intro row hrow
    rcases List.mem_cons.mp hrow with rfl | hrow
    · exact h.1
    · exact t.noSelf row hrow
  pendingPair := by
    intro row hrow row' hrow' hpending hpending' hbetween
    rcases List.mem_cons.mp hrow with rfl | hrow <;> rcases List.mem_cons.mp hrow' with rfl | hrow'
    · rfl
    · exact absurd ⟨hbetween, hpending'⟩ (h.2 row' hrow')
    · exact absurd ⟨⟨hbetween.1.symm, hbetween.2.symm⟩, hpending⟩ (h.2 row hrow)
    · exact t.pendingPair row hrow row' hrow' hpending hpending' hbetween

/-- A row that the constraints do not let in is an error. -/
def createPending (requesterUserId targetUserId : UserId) (message : Option String)
    (expiresAt now : ℤ) : Option (ConnectRequest × RequestTable) :=
  if h : t.Admits requesterUserId targetUserId then
    some (t.pendingRow requesterUserId targetUserId message expiresAt now,
      t.insertPending requesterUserId targetUserId message expiresAt now h)
  else none

/-- The table as if there had never been the request. -/
def without (id : ConnectRequestId) : RequestTable where
  rows := t.rows.filter (·.id ≠ id)
  nextId := t.nextId
  drawn row hrow := t.drawn row (List.mem_of_mem_filter hrow)
  unique := t.unique.sublist (List.filter_sublist.map _)
  noSelf row hrow := t.noSelf row (List.mem_of_mem_filter hrow)
  pendingPair row hrow row' hrow' :=
    t.pendingPair row (List.mem_of_mem_filter hrow) row' (List.mem_of_mem_filter hrow')

/-! ### Rows -/

section Rows

variable {t} {row row' : ConnectRequest} {id : ConnectRequestId}

/-- Every row is found as the update leaves it. -/
theorem find_respond {outcome : RequestOutcome} {roomId : Option RoomId} {now : ℤ}
    (id' : ConnectRequestId) : (t.respond id outcome roomId now).find id' =
      (t.find id').map (answer id outcome roomId now) := by
  show List.find? _ (t.rows.map (answer id outcome roomId now)) = _
  rw [List.find?_map, Sql.Table.find]
  refine congrArg _ (congrArg (fun p => List.find? p t.rows) (funext fun row => ?_))
  show decide ((answer id outcome roomId now row).id = id') = _
  rw [answer_id]

theorem mem_newestFirst {rows : List ConnectRequest} : row ∈ newestFirst rows ↔ row ∈ rows :=
  List.mem_mergeSort

theorem mem_without : row ∈ (t.without id).rows ↔ row ∈ t.rows ∧ row.id ≠ id := by
  simp [without]

/-- Only what is pending and not past is listed. -/
theorem of_mem_listInboundPending {targetUserId : UserId} {now : ℤ}
    (h : row ∈ t.listInboundPending targetUserId now) : row ∈ t.rows ∧ now ≤ row.expiresAt := by
  have hmem := mem_newestFirst.mp (List.mem_of_mem_take h)
  obtain ⟨hrow, hcond⟩ := List.mem_filter.mp hmem
  exact ⟨hrow, (of_decide_eq_true hcond).2.2⟩

theorem findPendingBetween_isSome_iff {requesterUserId targetUserId : UserId} :
    (t.findPendingBetween requesterUserId targetUserId).isSome ↔
      ∃ row ∈ t.rows, row.Between requesterUserId targetUserId ∧ row.status = .pending := by
  rw [findPendingBetween, List.find?_isSome]
  simp only [decide_eq_true_eq]

theorem findRecentRejected_isSome_iff {requesterUserId targetUserId : UserId} {since : ℤ} :
    (t.findRecentRejected requesterUserId targetUserId since).isSome ↔
      ∃ row ∈ t.rows, row.Between requesterUserId targetUserId ∧ row.status = .rejected ∧
        row.respondedAt.any (since ≤ ·) = true := by
  rw [findRecentRejected, List.find?_isSome]
  simp only [decide_eq_true_eq]

end Rows

end RequestTable

end Greetup.OpenToConnect
