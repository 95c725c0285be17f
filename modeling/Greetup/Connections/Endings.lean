import Greetup.Connections.Reads

/-!
What each service has read before it writes. A call that accepts, opens or ends
something has read the rows concerned and found them so; a call that ends what
is between two users reads first what there is, then ends it, and says that it
has.
-/

namespace Greetup.Connections

open Interleaving

/-! ### Statements -/

/-- The id of the row that the statement is to end. -/
def Cmd.endedId : Cmd → Option ConnectionId
  | .updateStatusById id .rejected => some id
  | .cancelAcceptedConnectionAsPeer id _ => some id
  | .cancelPendingOutgoingRequest id _ => some id
  | _ => none

/-- The statement ends the row if it finds it so. -/
def Cmd.ends (row : ConnectionRow) : Cmd → Bool
  | .updateStatusById id .rejected => row.id = id
  | .cancelAcceptedConnectionAsPeer id viewerId =>
      row.id = id && (row.requesterId = viewerId || row.addresseeId = viewerId)
  | .cancelPendingOutgoingRequest id requesterId => row.id = id && row.requesterId = requesterId
  | _ => false

/-- The row was to be ended by the caller. -/
def Ended (id : ConnectionId) (h : History) : Prop := ∃ e ∈ h, e.1.endedId = some id

/-! ### Calls -/

namespace Call

def viewerId : Call → UserId
  | .request viewerId _ | .accept viewerId _ | .reject viewerId _ | .withdraw viewerId _
  | .disconnect viewerId _ | .block viewerId _ | .unblock viewerId _ => viewerId
  | .syncPeers userId | .syncBlocks userId _ => userId

/-- The call is to end what is between two users. -/
def isEnding : Call → Bool
  | .reject _ _ | .withdraw _ _ | .disconnect _ _ | .block _ _ => true
  | _ => false

/-- The two users whose connection the call is about, by what it has been told. -/
def Concerns (a b : UserId) (h : History) : Call → Prop
  | .reject _ connectionId | .withdraw _ connectionId | .disconnect _ connectionId =>
      ∃ row, (⟨.findConnection connectionId, some row⟩ : Told Cmd Cmd.Reply) ∈ h ∧
        row.isBetween a b = true
  | .block viewerId targetUserId =>
      viewerId = a ∧ targetUserId = b ∨ viewerId = b ∧ targetUserId = a
  | _ => False

end Call

section Knowledge

variable (planner : Planner)

/-- As far as the caller knows, nothing is open or accepted between the two. -/
def FindsFree (a b : UserId) (h : History) : Prop :=
  ∃ rows, (rowsBetween planner a b).believed h = some rows ∧ ∀ row ∈ rows, row.isLive = false

namespace Call

/-- The row is one of those that the call has read. -/
def GoesBy (row : ConnectionRow) (h : History) : Call → Prop
  | .request viewerId targetUserId | .block viewerId targetUserId =>
      ∃ rows, (rowsBetween planner viewerId targetUserId).believed h = some rows ∧ row ∈ rows
  | .accept _ connectionId | .reject _ connectionId | .withdraw _ connectionId
  | .disconnect _ connectionId => h = [⟨.findConnection connectionId, some row⟩]
  | _ => False

/-- Whatever the call was told of has been ended. -/
def HasEnded (h : History) : Call → Prop
  | .reject _ connectionId | .withdraw _ connectionId | .disconnect _ connectionId =>
      Ended connectionId h
  | .block viewerId targetUserId => FindsFree planner viewerId targetUserId h
  | _ => False

/-- What the caller has read before it writes: of a row that it accepts, that it
is pending and addressed to the caller; of two users between whom it opens a
request, that nothing is open or accepted; of the one row that it ends, that it
is live and that its statement hits it. -/
def Warrants (call : Call) (h : History) : Cmd → Prop
  | .updateStatusById id .accepted => ∃ row, call.GoesBy planner row h ∧ row.id = id ∧
      row.status = .pending ∧ row.addresseeId = call.viewerId
  | .updateStatusById id .pending => ∃ viewerId targetUserId,
      call = .request viewerId targetUserId ∧ FindsFree planner viewerId targetUserId h ∧
        ∃ row, call.GoesBy planner row h ∧ row.id = id
  | .setAsPendingRequest _ requesterId addresseeId
  | .insertPendingRequest requesterId addresseeId =>
      call = .request requesterId addresseeId ∧ FindsFree planner requesterId addresseeId h
  | c => c.endedId.isSome = true → (∀ viewerId targetUserId, call ≠ .block viewerId targetUserId) →
      ∃ row, call.GoesBy planner row h ∧ row.isLive = true ∧ c.ends row = true

/-- It reads before it writes, and once it has ended what it is to end it leaves
the rows alone. -/
structure Licence (call : Call) (h : History) (c : Cmd) : Prop where
  orderly : call.isEnding = true → c.onRows = true → ¬ call.HasEnded planner h
  warranted : call.Warrants planner h c

end Call

/-- The call has returned that it has done what it was asked. -/
def Result.isOk : Result → Bool
  | .acted .ok => true
  | .blocked (some (.ok _)) => true
  | _ => false

/-- A call that says so has ended what it was told of. -/
def Call.Keeps (call : Call) (h : History) (result : Result) : Prop :=
  call.isEnding = true → result.isOk = true → call.HasEnded planner h

end Knowledge

section History

variable (planner : Planner) {call : Call} {h : History} {e : Told Cmd Cmd.Reply} {a b : UserId}
  {c : Cmd}

theorem ended_cons {id : ConnectionId} :
    Ended id (e :: h) ↔ e.1.endedId = some id ∨ Ended id h := by
  simp [Ended]

theorem endedId_of_not_onRows (hc : c.onRows = false) : c.endedId = none := by
  cases c with
  | updateStatusById | cancelAcceptedConnectionAsPeer | cancelPendingOutgoingRequest => cases hc
  | _ => rfl

theorem not_writesRows_of_not_onRows (hc : c.onRows = false) : c.writesRows = false := by
  cases c <;> first | rfl | cases hc

theorem findsFree_cons (hwrites : e.1.writesRows = false) (hreads : e.1 ≠ .findAllBetween a b) :
    FindsFree planner a b (e :: h) ↔ FindsFree planner a b h := by
  rw [FindsFree, FindsFree, believed_rowsBetween_cons planner hwrites hreads]

/-- Other statements do not change what a call is about, nor what it has ended. -/
theorem concerns_cons (he : e.1.onRows = false) :
    call.Concerns a b (e :: h) ↔ call.Concerns a b h := by
  have hold (id : ConnectionId) (row : ConnectionRow) :
      (⟨.findConnection id, some row⟩ : Told Cmd Cmd.Reply) ∈ e :: h ↔
        ⟨.findConnection id, some row⟩ ∈ h := by
    refine List.mem_cons.trans (or_iff_right ?_)
    rintro rfl
    cases he
  cases call with
  | reject | withdraw | disconnect => simp only [Call.Concerns, hold]
  | _ => exact Iff.rfl

theorem hasEnded_cons (call : Call) (he : e.1.onRows = false) :
    call.HasEnded planner (e :: h) ↔ call.HasEnded planner h := by
  cases call with
  | reject | withdraw | disconnect =>
      refine ended_cons.trans (or_iff_right ?_)
      rw [endedId_of_not_onRows he]
      exact fun heq => nomatch heq
  | block viewerId targetUserId =>
      refine findsFree_cons planner (not_writesRows_of_not_onRows he) fun heq => ?_
      rw [heq] at he
      cases he
  | _ => exact Iff.rfl

theorem writesRows_of_endedId (hc : c.endedId.isSome = true) : c.writesRows = true := by
  cases c with
  | updateStatusById | cancelAcceptedConnectionAsPeer | cancelPendingOutgoingRequest => rfl
  | _ => cases hc

/-- Whoever ends the one row that it has read has to have found it live. -/
theorem warrants_iff_of_ended (hc : c.endedId.isSome = true) : call.Warrants planner h c ↔
    ((∀ viewerId targetUserId, call ≠ .block viewerId targetUserId) →
      ∃ row, call.GoesBy planner row h ∧ row.isLive = true ∧ c.ends row = true) := by
  cases c with
  | updateStatusById id status =>
      cases status with
      | rejected => exact forall_prop_of_true hc
      | _ => cases hc
  | cancelAcceptedConnectionAsPeer | cancelPendingOutgoingRequest => exact forall_prop_of_true hc
  | _ => cases hc

theorem isEnding_of_concerns (hcall : call.Concerns a b h) : call.isEnding = true := by
  cases call with
  | reject | withdraw | disconnect | block => rfl
  | _ => exact hcall.elim

end History

section Licensed

variable {α : Type} (planner : Planner) {call : Call} {h : History} {p : M α} {c : Cmd}
  {viewerId targetUserId : UserId} {connectionId : ConnectionId}

theorem licence_of_not_onRows (hc : c.onRows = false) : call.Licence planner h c where
  orderly _ hrows := by
    rw [hc] at hrows
    cases hrows
  warranted := by
    cases c with
    | updateStatusById | setAsPendingRequest | insertPendingRequest
    | cancelAcceptedConnectionAsPeer | cancelPendingOutgoingRequest => cases hc
    | _ => exact fun hnone => absurd hnone Bool.false_ne_true

theorem licensed_of_not_onRows (hp : p.Uses (·.onRows = false)) :
    p.Licensed (exec planner) (call.Licence planner) (fun _ _ => True) h :=
  hp.licensed fun _ _ => licence_of_not_onRows planner

/-- A statement that needs no warrant, of a call that ends nothing. -/
theorem licence_of_not_isEnding (hcall : call.isEnding = false)
    (hc : call.Warrants planner h c) : call.Licence planner h c where
  orderly hending := by
    rw [hcall] at hending
    cases hending
  warranted := hc

theorem keeps_of_not_isEnding {result : Result} (hcall : call.isEnding = false) :
    call.Keeps planner h result := by
  intro hending
  rw [hcall] at hending
  cases hending

/-! ### One row -/

theorem onRows_addMatchingConnectionPeers {userA userB : UserId} :
    (addMatchingConnectionPeers userA userB).Uses (·.onRows = false) := by
  rw [addMatchingConnectionPeers, addPeer, addPeer]
  split
  · split
    · trivial
    · exact ⟨rfl, fun _ => trivial⟩
  · split
    · exact ⟨rfl, fun _ => trivial⟩
    · exact ⟨rfl, fun _ => ⟨rfl, fun _ => trivial⟩⟩

section Request

variable {rows : List ConnectionRow}

/-- A request that was told that nothing is open may open one of the rows. -/
theorem licence_markPending {row : ConnectionRow} {known : Set ConnectionRow}
    (hknown : (rowsBetween planner viewerId targetUserId).believed h = some known)
    (hfree : ∀ row ∈ known, row.isLive = false) (hrow : row ∈ known) :
    (Call.request viewerId targetUserId).Licence planner h (.updateStatusById row.id .pending) :=
  licence_of_not_isEnding planner rfl
    ⟨_, _, rfl, ⟨known, hknown, hfree⟩, row, ⟨known, hknown, hrow⟩, rfl⟩

theorem licensed_requested {dedupeSalt : Option String} :
    (requested viewerId targetUserId connectionId dedupeSalt).Licensed (exec planner)
      (call.Licence planner) (fun _ _ => True) h :=
  ⟨licence_of_not_onRows planner rfl, fun _ => trivial⟩

theorem licensed_reopen {direct : ConnectionRow} {dedupeSalt : String} {known : Set ConnectionRow}
    (hknown : (rowsBetween planner viewerId targetUserId).believed h = some known)
    (hfree : ∀ row ∈ known, row.isLive = false) (hrow : direct ∈ known) :
    (reopen viewerId targetUserId direct dedupeSalt).Licensed (exec planner)
      ((Call.request viewerId targetUserId).Licence planner) (fun _ _ => True) h :=
  ⟨licence_markPending planner hknown hfree hrow, fun _ => licensed_requested planner⟩

theorem licensed_openRequest {direct reverse : Option ConnectionRow}
    (hknown : (rowsBetween planner viewerId targetUserId).believed h = some {row | row ∈ rows})
    (hfree : ∀ row ∈ rows, row.isLive = false) (hdirect : ∀ row ∈ direct, row ∈ rows)
    (hdiffer : ∀ row ∈ direct, ∀ row' ∈ reverse, row.id ≠ row'.id) :
    (openRequest viewerId targetUserId direct reverse).Licensed (exec planner)
      ((Call.request viewerId targetUserId).Licence planner) (fun _ _ => True) h := by
  have hopen : FindsFree planner viewerId targetUserId h := ⟨_, hknown, hfree⟩
  rw [openRequest]
  split
  · rename_i row row' hrow hrow'
    refine ⟨licence_of_not_isEnding planner rfl fun hnone => absurd hnone Bool.false_ne_true,
      fun w => ?_⟩
    cases hreply : (exec planner (.deleteById row'.id) w).1 with
    | error error => trivial
    | ok found =>
        refine licensed_reopen planner
          ((rowsBetween planner viewerId targetUserId).believed_cons_of_moves rfl hknown rfl) ?_ ?_
        · exact fun r hr => hfree r hr.1
        · have hrow := (Option.mem_filter_iff.mp hrow).1
          exact ⟨hdirect row hrow, hdiffer row hrow row' (Option.mem_filter_iff.mp hrow').1⟩
  · rename_i row hrow hnone
    exact licensed_reopen planner hknown hfree (hdirect row (Option.mem_filter_iff.mp hrow).1)
  · refine ⟨licence_of_not_isEnding planner rfl ⟨rfl, hopen⟩, fun w => ?_⟩
    cases hreply : (exec planner (.setAsPendingRequest _ viewerId targetUserId) w).1 with
    | error error => trivial
    | ok found => exact licensed_requested planner
  · refine ⟨licence_of_not_isEnding planner rfl ⟨rfl, hopen⟩, fun w => ?_⟩
    cases hreply : (exec planner (.insertPendingRequest viewerId targetUserId) w).1 with
    | none => trivial
    | some connectionId => exact licensed_requested planner

theorem licensed_meetPending {pending : ConnectionRow}
    (hknown : (rowsBetween planner viewerId targetUserId).believed h = some {row | row ∈ rows})
    (hrow : pending ∈ rows) (hpending : pending.status = .pending) :
    (meetPending viewerId targetUserId pending).Licensed (exec planner)
      ((Call.request viewerId targetUserId).Licence planner) (fun _ _ => True) h := by
  rw [meetPending]
  split
  · rename_i hreverse
    rw [Bool.and_eq_true, decide_eq_true_eq, decide_eq_true_eq] at hreverse
    refine ⟨licence_of_not_isEnding planner rfl
      ⟨pending, ⟨_, hknown, hrow⟩, rfl, hpending, hreverse.2⟩, fun w => ?_⟩
    exact licensed_of_not_onRows planner
      (onRows_addMatchingConnectionPeers.bind fun _ => ⟨rfl, fun _ => trivial⟩)
  · trivial

theorem licensed_requestAmong (hne : viewerId ≠ targetUserId)
    (hknown : (rowsBetween planner viewerId targetUserId).believed h = some {row | row ∈ rows})
    (hkeys : ∀ r ∈ rows, ∀ r' ∈ rows, r.id = r'.id → r = r') :
    (requestAmong viewerId targetUserId rows).Licensed (exec planner)
      ((Call.request viewerId targetUserId).Licence planner) (fun _ _ => True) h := by
  rw [requestAmong]
  split
  · trivial
  rename_i haccepted
  cases hfind : rows.find? (·.status = .pending) with
  | some pending =>
      exact licensed_meetPending planner hknown (List.mem_of_find?_eq_some hfind)
        (of_decide_eq_true (List.find?_some hfind :))
  | none =>
      refine licensed_openRequest planner hknown (fun row hrow => ?_)
        (fun row hrow => List.mem_of_find?_eq_some hrow) fun row hrow row' hrow' hid => ?_
      · refine Bool.eq_false_of_not_eq_true fun hlive => ?_
        rcases isLive_iff.mp hlive with hpending | haccept
        · exact List.find?_eq_none.mp hfind row hrow (decide_eq_true hpending)
        · exact haccepted (List.any_eq_true.mpr ⟨row, hrow, decide_eq_true haccept⟩)
      · have hsame : row = row' :=
          hkeys row (List.mem_of_find?_eq_some hrow) row' (List.mem_of_find?_eq_some hrow') hid
        have hfrom : row.isFrom viewerId targetUserId = true := List.find?_some hrow
        have hfrom' : row'.isFrom targetUserId viewerId = true := List.find?_some hrow'
        rw [ConnectionRow.isFrom, Bool.and_eq_true, decide_eq_true_eq] at hfrom hfrom'
        exact hne (hfrom.1.symm.trans (hsame ▸ hfrom'.1))

theorem eq_of_findAllBetween {w : World} {r r' : ConnectionRow}
    (hr : r ∈ (exec planner (.findAllBetween viewerId targetUserId) w).1)
    (hr' : r' ∈ (exec planner (.findAllBetween viewerId targetUserId) w).1) (hid : r.id = r'.id) :
    r = r' :=
  ConnectionTable.eq_of_id (List.mem_of_mem_filter ((planner.perm _).mem_iff.mp hr))
    (List.mem_of_mem_filter ((planner.perm _).mem_iff.mp hr')) hid

theorem licensed_request :
    (Call.request viewerId targetUserId).program.Licensed (exec planner)
      ((Call.request viewerId targetUserId).Licence planner)
      ((Call.request viewerId targetUserId).Keeps planner) [] := by
  suffices hprogram : (requestConnectionService viewerId targetUserId).Licensed (exec planner)
      ((Call.request viewerId targetUserId).Licence planner) (fun _ _ => True) [] from
    Prog.Licensed.map (hprogram.mono fun _ _ _ => keeps_of_not_isEnding planner rfl)
  rw [requestConnectionService]
  split
  · trivial
  rename_i hne
  refine ⟨licence_of_not_onRows planner rfl, fun w => ?_⟩
  show (requestUnlessBlocked viewerId targetUserId _).Licensed _ _ _ _
  rw [requestUnlessBlocked]
  split
  · trivial
  refine ⟨licence_of_not_isEnding planner rfl fun hnone => absurd hnone Bool.false_ne_true,
    fun w₁ => ?_⟩
  exact licensed_requestAmong planner hne (believed_rowsBetween planner)
    fun r hr r' hr' => eq_of_findAllBetween planner hr hr'

end Request

/-! ### The loop of a block -/

/-- Of what a block has read between the two, nothing is live but what it is
still to see to. -/
def Remaining (a b : UserId) (rest : List ConnectionRow) (h : History) : Prop :=
  ∃ known, (rowsBetween planner a b).believed h = some known ∧ (∀ row ∈ rest, row ∈ known) ∧
    ∀ row ∈ known, row.isLive = true → row ∈ rest

section Loop

variable {rest : List ConnectionRow} {row : ConnectionRow} {e : Told Cmd Cmd.Reply}
  {p : ConnectionRow → Bool} {status : ConnectionStatus}

/-- Nothing is left to see to. -/
theorem Remaining.free (hrest : Remaining planner viewerId targetUserId [] h) :
    FindsFree planner viewerId targetUserId h := by
  obtain ⟨known, hknown, -, hlive⟩ := hrest
  refine ⟨known, hknown, fun row hrow => Bool.eq_false_of_not_eq_true fun h => ?_⟩
  cases hlive row hrow h

/-- A live row is left. -/
theorem Remaining.not_free (hrest : Remaining planner viewerId targetUserId (row :: rest) h)
    (hlive : row.isLive = true) : ¬ FindsFree planner viewerId targetUserId h := by
  rintro ⟨known, hknown, hfree⟩
  obtain ⟨known', hknown', hmem, -⟩ := hrest
  cases hknown.symm.trans hknown'
  rw [hfree row (hmem row List.mem_cons_self)] at hlive
  cases hlive

/-- A row that is not live needs nothing. -/
theorem Remaining.skip (hrest : Remaining planner viewerId targetUserId (row :: rest) h)
    (hstale : row.isLive = false) : Remaining planner viewerId targetUserId rest h := by
  obtain ⟨known, hknown, hmem, hlive⟩ := hrest
  refine ⟨known, hknown, fun r hr => hmem r (List.mem_cons_of_mem _ hr), fun r hr hr' => ?_⟩
  refine (List.mem_cons.mp (hlive r hr hr')).resolve_left ?_
  rintro rfl
  rw [hstale] at hr'
  cases hr'

/-- A live row that is left may be ended now. -/
theorem Remaining.licence (hrest : Remaining planner viewerId targetUserId (row :: rest) h)
    (hlive : row.isLive = true) {c : Cmd} (hc : c.endedId.isSome = true) :
    (Call.block viewerId targetUserId).Licence planner h c where
  orderly _ _ := hrest.not_free planner hlive
  warranted := (warrants_iff_of_ended planner hc).mpr fun hnot => absurd rfl (hnot _ _)

end Loop

end Licensed

end Greetup.Connections
