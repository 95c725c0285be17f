import Greetup.Interleaving.Overlap
import Greetup.Matching.Types
import Mathlib.Data.Finset.Insert
import Mathlib.Data.Fintype.Defs

/-!
The tabs of a browser, and the lease of a room that they keep in its storage.

There is one record for each user, whatever the room. A tab looks whether
another one has the room, enters the page, and writes the record; then it
renews the record from time to time, as long as it finds its own in it.
-/

namespace Greetup.Client.TabLease

open Interleaving
open Matching (Text)

abbrev UserId := Text
abbrev RoomId := Text

/-- `ROOM_TAB_LEASE_TTL_MS` -/
def roomTabLeaseTtlMs : ℕ := 20000

structure RoomTabLease (τ : Type) where
  tabId : τ
  roomId : RoomId
  ts : ℕ
  deriving DecidableEq

structure Browser (τ : Type) where
  now : ℕ := 0
  /-- `localStorage`, under `greetup-room-tab-lease:{userId}`. -/
  leases : UserId → Option (RoomTabLease τ) := fun _ => none
  /-- When a tab that has entered a room, and has not cleared its lease, entered
  it or made a heartbeat for the last time. No function reads it. -/
  presence : UserId → τ → RoomId → Option ℕ := fun _ _ _ => none

/-- Time passes between any two of these. -/
inductive Cmd (τ : Type)
  | dateNow
  | getItem (userId : UserId)
  /-- The `getItem` of a heartbeat. -/
  | getItemForTouch (userId : UserId) (roomId : RoomId) (tabId : τ)
  /-- The `setItem` of a page entry. -/
  | setItemOnEntry (userId : UserId) (lease : RoomTabLease τ)
  /-- The `setItem` of a heartbeat. -/
  | setItemOnTouch (userId : UserId) (lease : RoomTabLease τ)
  | removeItem (userId : UserId) (tabId : τ)
  | elapse (ms : ℕ)

@[reducible] def Cmd.Reply {τ : Type} : Cmd τ → Type
  | .dateNow => ℕ
  | .getItem _ | .getItemForTouch _ _ _ => Option (RoomTabLease τ)
  | _ => Unit

section Exec

variable {τ : Type} [DecidableEq τ]

namespace Browser

variable (b : Browser τ)

/-- The tab is in the room, and its heartbeats are not more than a TTL apart. -/
def Present (userId : UserId) (tabId : τ) (roomId : RoomId) : Prop :=
  ∃ t, b.presence userId tabId roomId = some t ∧ b.now ≤ t + roomTabLeaseTtlMs

instance (userId : UserId) (tabId : τ) (roomId : RoomId) :
    Decidable (b.Present userId tabId roomId) :=
  decidable_of_iff
    ((b.presence userId tabId roomId).any fun t => b.now ≤ t + roomTabLeaseTtlMs) (by
      simp [Present, Option.any_eq_true])

def setPresence (userId : UserId) (tabId : τ) (roomId : RoomId) (t : ℕ) : Browser τ :=
  { b with
    presence := fun user tab room =>
      if user = userId ∧ tab = tabId ∧ room = roomId then some t else b.presence user tab room }

/-- A heartbeat keeps a tab present that still is. -/
def beat (userId : UserId) (tabId : τ) (roomId : RoomId) (t : ℕ) : Browser τ :=
  if b.Present userId tabId roomId then b.setPresence userId tabId roomId t else b

def setLease (userId : UserId) (lease : Option (RoomTabLease τ)) : Browser τ :=
  { b with leases := Function.update b.leases userId lease }

def clearPresence (userId : UserId) (tabId : τ) : Browser τ :=
  { b with
    presence := fun user tab room =>
      if user = userId ∧ tab = tabId then none else b.presence user tab room }

/-- The record is the tab's own, for this room. -/
def Owns (userId : UserId) (tabId : τ) (roomId : RoomId) : Prop :=
  ∃ lease ∈ b.leases userId, lease.tabId = tabId ∧ lease.roomId = roomId

instance (userId : UserId) (tabId : τ) (roomId : RoomId) :
    Decidable (b.Owns userId tabId roomId) := inferInstanceAs (Decidable (∃ _ ∈ _, _))

end Browser

def exec : (c : Cmd τ) → Browser τ → c.Reply × Browser τ
  | .dateNow, b => (b.now, b)
  | .getItem userId, b => (b.leases userId, b)
  | .getItemForTouch userId roomId tabId, b =>
      -- A heartbeat that does not find its own record ends here.
      (b.leases userId,
        if b.Owns userId tabId roomId then b else b.beat userId tabId roomId b.now)
  | .setItemOnEntry userId lease, b =>
      ((), (b.setPresence userId lease.tabId lease.roomId lease.ts).setLease userId (some lease))
  | .setItemOnTouch userId lease, b =>
      ((), (b.beat userId lease.tabId lease.roomId lease.ts).setLease userId (some lease))
  | .removeItem userId tabId, b => ((), (b.clearPresence userId tabId).setLease userId none)
  | .elapse ms, b => ((), { b with now := b.now + ms })

section Browser

variable {b : Browser τ} {userId user : UserId} {tabId tab : τ} {roomId room : RoomId} {t ms : ℕ}

theorem presence_setPresence_of_ne
    (hne : ¬ (user = userId ∧ tab = tabId ∧ room = roomId)) :
    (b.setPresence userId tabId roomId t).presence user tab room = b.presence user tab room :=
  if_neg hne

theorem presence_beat_of_ne (hne : ¬ (user = userId ∧ tab = tabId ∧ room = roomId)) :
    (b.beat userId tabId roomId t).presence user tab room = b.presence user tab room := by
  unfold Browser.beat
  split
  · exact presence_setPresence_of_ne hne
  · rfl

/-- After a heartbeat a tab is present only by it. -/
theorem presence_beat_self {t' : ℕ}
    (hpresence : (b.beat userId tabId roomId t).presence userId tabId roomId = some t')
    (hle : (b.beat userId tabId roomId t).now ≤ t' + roomTabLeaseTtlMs) : t' = t := by
  unfold Browser.beat at hpresence hle
  split at hpresence
  · have hself : (b.setPresence userId tabId roomId t).presence userId tabId roomId = some t :=
      if_pos ⟨rfl, rfl, rfl⟩
    rw [hself] at hpresence
    exact (Option.some_inj.mp hpresence).symm
  · next hnot =>
    rw [if_neg hnot] at hle
    exact absurd ⟨t', hpresence, hle⟩ hnot

@[simp] theorem now_beat : (b.beat userId tabId roomId t).now = b.now := by
  unfold Browser.beat
  split <;> rfl

@[simp] theorem leases_beat : (b.beat userId tabId roomId t).leases = b.leases := by
  unfold Browser.beat
  split <;> rfl

theorem leases_touched :
    (exec (.getItemForTouch userId roomId tabId) b).2.leases = b.leases := by
  show Browser.leases (if _ then _ else _) = _
  split
  · rfl
  · exact leases_beat

end Browser

abbrev M (τ : Type) := Prog (Cmd τ) Cmd.Reply

abbrev issue (c : Cmd τ) : M τ c.Reply := Prog.perform c

/-! ### The functions of a tab -/

def isOtherTabActiveInSameRoom (userId : UserId) (roomId : RoomId) (myTabId : τ) :
    M τ Bool := do
  match ← issue (.getItem userId) with
  | none => return false
  | some lease =>
      if lease.roomId ≠ roomId then return false
      else if lease.tabId = myTabId then return false
      else
        let now ← issue .dateNow
        return decide (now - lease.ts ≤ roomTabLeaseTtlMs)

/-- The entry of the page of a room; a tab that is blocked is sent away. -/
def enterRoom (userId : UserId) (roomId : RoomId) (tabId : τ) : M τ Unit := do
  if ← isOtherTabActiveInSameRoom userId roomId tabId then return ()
  else
    let ts ← issue .dateNow
    issue (.setItemOnEntry userId { tabId, roomId, ts })

def touchRoomTabLease (userId : UserId) (roomId : RoomId) (tabId : τ) : M τ Unit := do
  match ← issue (.getItemForTouch userId roomId tabId) with
  | none => return ()
  | some cur =>
      if cur.tabId ≠ tabId ∨ cur.roomId ≠ roomId then return ()
      else
        let ts ← issue .dateNow
        issue (.setItemOnTouch userId { tabId, roomId, ts })

def clearRoomTabLeaseIfOwner (userId : UserId) (tabId : τ) : M τ Unit := do
  match ← issue (.getItem userId) with
  | none => return ()
  | some cur =>
      if cur.tabId ≠ tabId then return ()
      else issue (.removeItem userId tabId)

inductive TabCall
  | enters (userId : UserId) (roomId : RoomId)
  | touches (userId : UserId) (roomId : RoomId)
  | clears (userId : UserId)
  | waits (ms : ℕ)
  deriving DecidableEq

def TabCall.program (tabId : τ) : TabCall → M τ Unit
  | .enters userId roomId => enterRoom userId roomId tabId
  | .touches userId roomId => touchRoomTabLease userId roomId tabId
  | .clears userId => clearRoomTabLeaseIfOwner userId tabId
  | .waits ms => issue (.elapse ms)

/-- What a tab does, one call after the other. -/
def session (tabId : τ) : List TabCall → M τ Unit
  | [] => .done ()
  | call :: calls => do
      call.program tabId
      session tabId calls

/-! ### The tabs of a browser -/

abbrev Tabs (τ : Type) := Scene τ (Cmd τ) Cmd.Reply (Browser τ)

/-- The tabs are open, and no lease has been written. -/
def tabs (calls : τ → List TabCall) (now : ℕ) : Conf τ (Cmd τ) Cmd.Reply Unit (Browser τ) where
  threads tabId := session tabId (calls tabId)
  scene := ⟨{ now }, []⟩

/-- The record of the user, which a tab reads before it writes or removes it. -/
def storedLease (userId : UserId) : Datum (exec (τ := τ)) (Option (RoomTabLease τ)) :=
  .ofReads (·.leases userId)
    (fun
      | ⟨.getItem user, lease⟩ | ⟨.getItemForTouch user _ _, lease⟩ =>
          if user = userId then some lease else none
      | _ => none)
    (fun
      | ⟨.setItemOnEntry user _, _⟩ | ⟨.setItemOnTouch user _, _⟩ | ⟨.removeItem user _, _⟩ =>
          user = userId
      | _ => false)
    (by
      intro c b lease htells
      cases c with
      | getItem user =>
          obtain ⟨rfl, hlease⟩ := Option.ite_none_right_eq_some.mp htells
          exact Option.some.inj hlease
      | getItemForTouch user roomId tabId =>
          obtain ⟨rfl, hlease⟩ := Option.ite_none_right_eq_some.mp htells
          exact (congrFun leases_touched user).trans (Option.some.inj hlease)
      | _ => cases htells)
    (by
      intro c b hother
      cases c with
      | setItemOnEntry user | removeItem user =>
          have hne : ¬ user = userId := of_decide_eq_false hother
          exact Function.update_of_ne (Ne.symm hne) _ _
      | setItemOnTouch user lease =>
          have hne : ¬ user = userId := of_decide_eq_false hother
          exact (Function.update_of_ne (Ne.symm hne) _ _).trans (congrFun leases_beat _)
      | getItemForTouch => exact congrFun leases_touched _
      | _ => rfl)

/-- The command writes the lease. -/
def Cmd.Writes (userId : UserId) (lease : RoomTabLease τ) : Cmd τ → Prop
  | .setItemOnEntry user written | .setItemOnTouch user written => user = userId ∧ written = lease
  | _ => False

/-- The command writes the lease of the tab for the room. -/
def Cmd.Renews (userId : UserId) (tabId : τ) (roomId : RoomId) : Cmd τ → Bool
  | .setItemOnEntry user lease | .setItemOnTouch user lease =>
      user = userId && lease.tabId = tabId && lease.roomId = roomId
  | _ => false

/-- The command writes a lease for another room. -/
def Cmd.Displaces (userId : UserId) (roomId : RoomId) : Cmd τ → Bool
  | .setItemOnEntry user lease | .setItemOnTouch user lease =>
      user = userId && lease.roomId ≠ roomId
  | _ => false

/-- Since the tab has written its lease for the room, a lease for another room
has been written. -/
def Displaced (userId : UserId) (tabId : τ) (roomId : RoomId)
    (trace : List (Event τ (Cmd τ) Cmd.Reply)) : Prop :=
  ∃ e ∈ trace.takeWhile (!·.cmd.Renews userId tabId roomId), e.cmd.Displaces userId roomId = true

/-- No other tab writes or removes the record between a tab's reading of it and
its write, and no tab enters a room in which there is one whose lease was
displaced by that for another room. -/
def OneAtATime (i : τ) (c : Cmd τ) (s : Tabs τ) : Prop :=
  match c with
  | .setItemOnEntry userId lease => ¬ (storedLease userId).Overtaken i s.trace ∧
      ∀ tabId, tabId ≠ lease.tabId → Displaced userId tabId lease.roomId s.trace →
        ¬ s.world.Present userId tabId lease.roomId
  | .setItemOnTouch userId _ | .removeItem userId _ => ¬ (storedLease userId).Overtaken i s.trace
  | _ => True

instance (userId : UserId) (tabId : τ) (roomId : RoomId)
    (trace : List (Event τ (Cmd τ) Cmd.Reply)) : Decidable (Displaced userId tabId roomId trace) :=
  inferInstanceAs (Decidable (∃ _ ∈ _, _))

instance [Fintype τ] (i : τ) (s : Tabs τ) : (c : Cmd τ) → Decidable (OneAtATime i c s)
  | .setItemOnEntry userId lease =>
      inferInstanceAs (Decidable (¬ (storedLease userId).Overtaken i s.trace ∧
        ∀ tabId, tabId ≠ lease.tabId → Displaced userId tabId lease.roomId s.trace →
          ¬ s.world.Present userId tabId lease.roomId))
  | .setItemOnTouch userId _ | .removeItem userId _ =>
      inferInstanceAs (Decidable (¬ (storedLease userId).Overtaken i s.trace))
  | .dateNow | .getItem _ | .getItemForTouch _ _ _ | .elapse _ => inferInstanceAs (Decidable True)

/-! ### What a tab has read before it writes -/

section Licence

abbrev History (τ : Type) := List (Told (Cmd τ) Cmd.Reply)

variable {tabId : τ} {userId : UserId} {roomId : RoomId} {h : History τ}

/-- As far as the tab has read, no other tab has a lease for the room that is
not too old. -/
def FindsNoOther (userId : UserId) (roomId : RoomId) (tabId : τ) (h : History τ) : Prop :=
  ∃ found, (storedLease userId).believed h = some found ∧
    ∀ cur ∈ found, cur.roomId = roomId → cur.tabId ≠ tabId →
      ∃ now, (⟨.dateNow, now⟩ : Told (Cmd τ) Cmd.Reply) ∈ h ∧ cur.ts + roomTabLeaseTtlMs < now

/-- A tab that enters a room has found no other there; a heartbeat renews, and a
tab removes, only what is its own. -/
def Allows (tabId : τ) (h : History τ) : Cmd τ → Prop
  | .setItemOnEntry userId lease =>
      lease.tabId = tabId ∧ FindsNoOther userId lease.roomId tabId h
  | .setItemOnTouch userId lease => lease.tabId = tabId ∧
      ∃ cur, (storedLease userId).believed h = some (some cur) ∧
        cur.tabId = tabId ∧ cur.roomId = lease.roomId
  | .removeItem userId tab => tab = tabId ∧
      ∃ cur, (storedLease userId).believed h = some (some cur) ∧ cur.tabId = tabId
  | _ => True

end Licence

/-! ### Whoever is in a room has its lease -/

section Run

variable {s : Tabs τ} {i j : τ} {c : Cmd τ} {userId user : UserId} {tabId tab : τ}
  {roomId room : RoomId} {trace : List (Event τ (Cmd τ) Cmd.Reply)} {e : Event τ (Cmd τ) Cmd.Reply}

theorem Displaced.cons (h : Displaced userId tabId roomId trace)
    (he : e.cmd.Renews userId tabId roomId = false) :
    Displaced userId tabId roomId (e :: trace) := by
  obtain ⟨e', he', hdisplaces⟩ := h
  refine ⟨e', ?_, hdisplaces⟩
  rw [List.takeWhile_cons_of_pos (by rw [he]; rfl)]
  exact List.mem_cons_of_mem _ he'

theorem displaced_cons (hdisplaces : e.cmd.Displaces userId roomId = true)
    (he : e.cmd.Renews userId tabId roomId = false) :
    Displaced userId tabId roomId (e :: trace) := by
  refine ⟨e, ?_, hdisplaces⟩
  rw [List.takeWhile_cons_of_pos (by rw [he]; rfl)]
  exact List.mem_cons_self

/-- Whoever is present has the record, as recent as its last heartbeat, or its
lease was displaced. -/
structure Leased (s : Tabs τ) : Prop where
  sound : ∀ userId, (storedLease userId).Sound s
  past : ∀ i now, (⟨.dateNow, now⟩ : Told (Cmd τ) Cmd.Reply) ∈ s.told i → now ≤ s.world.now
  covered : ∀ userId tabId roomId t, s.world.presence userId tabId roomId = some t →
    s.world.now ≤ t + roomTabLeaseTtlMs →
      (∃ ts, s.world.leases userId = some ⟨tabId, roomId, ts⟩ ∧ t ≤ ts) ∨
        Displaced userId tabId roomId s.trace

/-- Who is present, and was not displaced, is found by those who look. -/
theorem Leased.finds (h : Leased s) (hpresent : s.world.Present userId tabId roomId)
    (hnot : ¬ Displaced userId tabId roomId s.trace) :
    ∃ ts, s.world.leases userId = some ⟨tabId, roomId, ts⟩ ∧
      s.world.now ≤ ts + roomTabLeaseTtlMs := by
  obtain ⟨t, hpresence, hle⟩ := hpresent
  obtain ⟨ts, hlease, hts⟩ := (h.covered _ _ _ _ hpresence hle).resolve_right hnot
  exact ⟨ts, hlease, by omega⟩

/-- The check of a page entry holds for the record as it is. -/
theorem Leased.noOther (h : Leased s) (hnot : ¬ (storedLease userId).Overtaken i s.trace)
    (hfree : FindsNoOther userId roomId i (s.told i)) {ts : ℕ} (hne : tabId ≠ i)
    (hlease : s.world.leases userId = some ⟨tabId, roomId, ts⟩) :
    ts + roomTabLeaseTtlMs < s.world.now := by
  obtain ⟨found, hfound, hfree⟩ := hfree
  have hsame : s.world.leases userId = found := h.sound userId i found hfound hnot
  obtain ⟨now, hnow, hlt⟩ := hfree ⟨tabId, roomId, ts⟩ (hsame.symm.trans hlease) rfl hne
  exact lt_of_lt_of_le hlt (h.past i now hnow)

theorem renews_eq_false {lease : RoomTabLease τ} (hc : c.Writes userId lease)
    (hne : ¬ (user = userId ∧ tab = lease.tabId ∧ room = lease.roomId)) :
    c.Renews user tab room = false := by
  refine eq_false_of_ne_true fun hrenews => hne ?_
  cases c with
  | setItemOnEntry | setItemOnTouch =>
      obtain ⟨rfl, rfl⟩ := hc
      rw [Cmd.Renews, Bool.and_eq_true, Bool.and_eq_true] at hrenews
      simpa [eq_comm, and_assoc] using hrenews
  | _ => exact hc.elim

omit [DecidableEq τ] in
theorem displaces_of_writes {lease : RoomTabLease τ} (hc : c.Writes userId lease)
    (hroom : room ≠ lease.roomId) : c.Displaces userId room = true := by
  cases c with
  | setItemOnEntry | setItemOnTouch =>
      obtain ⟨rfl, rfl⟩ := hc
      simpa [Cmd.Displaces] using hroom.symm
  | _ => exact hc.elim

/-- A tab writes the record: whoever else was present is displaced, or had been
before, unless it was in the same room, where the tab has found nobody. -/
theorem Leased.covered_write (h : Leased s) {lease : RoomTabLease τ} (hc : c.Writes userId lease)
    (hleases : (exec c s.world).2.leases = Function.update s.world.leases userId (some lease))
    (hnow : (exec c s.world).2.now = s.world.now)
    (hown : ∀ t, (exec c s.world).2.presence userId lease.tabId lease.roomId = some t →
      (exec c s.world).2.now ≤ t + roomTabLeaseTtlMs → t ≤ lease.ts)
    (hother : ∀ user tab room, ¬ (user = userId ∧ tab = lease.tabId ∧ room = lease.roomId) →
      (exec c s.world).2.presence user tab room = s.world.presence user tab room)
    (halone : ∀ tabId ts, tabId ≠ lease.tabId →
      s.world.leases userId = some ⟨tabId, lease.roomId, ts⟩ →
        ts + roomTabLeaseTtlMs < s.world.now)
    (hpresence : (exec c s.world).2.presence user tab room = some t)
    (hle : (exec c s.world).2.now ≤ t + roomTabLeaseTtlMs) :
    (∃ ts, (exec c s.world).2.leases user = some ⟨tab, room, ts⟩ ∧ t ≤ ts) ∨
      Displaced user tab room (s.after exec i c).trace := by
  by_cases hself : user = userId ∧ tab = lease.tabId ∧ room = lease.roomId
  · obtain ⟨rfl, rfl, rfl⟩ := hself
    refine .inl ⟨lease.ts, ?_, hown t hpresence hle⟩
    rw [hleases, Function.update_self]
  have hrenews := renews_eq_false hc hself
  rw [hother user tab room hself] at hpresence
  rw [hnow] at hle
  rcases h.covered user tab room t hpresence hle with ⟨ts, hlease, hts⟩ | hdisplaced
  · by_cases huser : user = userId
    swap
    · rw [hleases, Function.update_of_ne huser]
      exact .inl ⟨ts, hlease, hts⟩
    subst huser
    by_cases hroom : room = lease.roomId
    · subst hroom
      have hold := halone tab ts (fun htab => hself ⟨rfl, htab, rfl⟩) hlease
      omega
    · exact .inr (displaced_cons (displaces_of_writes hc hroom) hrenews)
  · exact .inr (hdisplaced.cons hrenews)

/-- What writes no lease, and leaves whoever is present and the records alone. -/
theorem Leased.covered_of_same (h : Leased s)
    (hrenews : ∀ user tab room, c.Renews user tab room = false)
    (hpresent : ∀ t, (exec c s.world).2.presence user tab room = some t →
      (exec c s.world).2.now ≤ t + roomTabLeaseTtlMs →
        s.world.presence user tab room = some t ∧ s.world.now ≤ t + roomTabLeaseTtlMs)
    (hleases : ∀ ts, s.world.leases user = some ⟨tab, room, ts⟩ →
      s.world.presence user tab room = some t →
      (exec c s.world).2.leases user = some ⟨tab, room, ts⟩)
    (hpresence : (exec c s.world).2.presence user tab room = some t)
    (hle : (exec c s.world).2.now ≤ t + roomTabLeaseTtlMs) :
    (∃ ts, (exec c s.world).2.leases user = some ⟨tab, room, ts⟩ ∧ t ≤ ts) ∨
      Displaced user tab room (s.after exec i c).trace := by
  obtain ⟨hbefore, hle⟩ := hpresent t hpresence hle
  rcases h.covered user tab room t hbefore hle with ⟨ts, hlease, hts⟩ | hdisplaced
  · exact .inl ⟨ts, hleases ts hlease hbefore, hts⟩
  · exact .inr (hdisplaced.cons (hrenews user tab room))

/-- A heartbeat that does not find its own record. -/
theorem Leased.covered_getItemForTouch (h : Leased s)
    (hpresence : (exec (.getItemForTouch userId roomId tabId) s.world).2.presence user tab room =
      some t)
    (hle : (exec (.getItemForTouch userId roomId tabId) s.world).2.now ≤
      t + roomTabLeaseTtlMs) :
    (∃ ts, (exec (.getItemForTouch userId roomId tabId) s.world).2.leases user =
        some ⟨tab, room, ts⟩ ∧ t ≤ ts) ∨
      Displaced user tab room (s.after exec i (.getItemForTouch userId roomId tabId)).trace := by
  rw [leases_touched]
  have hworld : (exec (.getItemForTouch userId roomId tabId) s.world).2 =
      if s.world.Owns userId tabId roomId then s.world
      else s.world.beat userId tabId roomId s.world.now := rfl
  rw [hworld] at hpresence hle
  have hold (hpresence : s.world.presence user tab room = some t)
      (hle : s.world.now ≤ t + roomTabLeaseTtlMs) :=
    (h.covered user tab room t hpresence hle).imp_right fun hdisplaced =>
      hdisplaced.cons (e := ⟨i, .getItemForTouch userId roomId tabId, s.world.leases userId⟩) rfl
  split at hpresence
  · rename_i howns
    rw [if_pos howns] at hle
    exact hold hpresence hle
  rename_i howns
  rw [if_neg howns, now_beat] at hle
  by_cases hself : user = userId ∧ tab = tabId ∧ room = roomId
  swap
  · rw [presence_beat_of_ne hself] at hpresence
    exact hold hpresence hle
  obtain ⟨rfl, rfl, rfl⟩ := hself
  by_cases hpresent : s.world.Present user tab room
  swap
  · rw [Browser.beat, if_neg hpresent] at hpresence
    exact hold hpresence hle
  obtain ⟨t', hbefore, hle'⟩ := hpresent
  rcases h.covered user tab room t' hbefore hle' with ⟨ts, hlease, -⟩ | hdisplaced
  · exact absurd ⟨_, hlease, rfl, rfl⟩ howns
  · exact .inr (hdisplaced.cons rfl)

theorem le_now_exec {b : Browser τ} : b.now ≤ (exec c b).2.now := by
  cases c with
  | elapse ms => exact Nat.le_add_right _ _
  | getItemForTouch userId roomId tabId =>
      show b.now ≤ Browser.now (if _ then _ else _)
      split
      · exact le_refl _
      · exact le_of_eq now_beat.symm
  | setItemOnTouch userId lease => exact le_of_eq now_beat.symm
  | _ => exact le_refl _

/-- Whatever time a tab was told is over. -/
theorem Leased.past_after (h : Leased s) {now : ℕ}
    (hmem : (⟨.dateNow, now⟩ : Told (Cmd τ) Cmd.Reply) ∈ (s.after exec i c).told j) :
    now ≤ (exec c s.world).2.now := by
  rcases (Scene.mem_told_after exec).mp hmem with ⟨-, heq⟩ | hold
  · cases c with
    | dateNow =>
        cases heq
        exact le_refl _
    | _ => cases heq
  · exact le_trans (h.past j now hold) le_now_exec

/-- **Step lemma.** -/
theorem Leased.after (h : Leased s) (hallows : Allows i (s.told i) c) (hc : OneAtATime i c s) :
    Leased (s.after exec i c) where
  sound userId := (h.sound userId).after i c
  past _ _ hmem := h.past_after hmem
  covered userId tabId roomId t hpresence hle := by
    rw [Scene.after_world] at hpresence hle ⊢
    cases c with
    | dateNow | getItem =>
        exact h.covered_of_same (fun _ _ _ => rfl) (fun t hp hle => ⟨hp, hle⟩)
          (fun ts hlease _ => hlease) hpresence hle
    | elapse ms =>
        exact h.covered_of_same (fun _ _ _ => rfl)
          (fun t hp hle => ⟨hp, le_trans (Nat.le_add_right _ _) hle⟩)
          (fun ts hlease _ => hlease) hpresence hle
    | getItemForTouch user room tab => exact h.covered_getItemForTouch hpresence hle
    | setItemOnEntry user lease =>
        obtain ⟨rfl, hfree⟩ := hallows
        have hwrites : (Cmd.setItemOnEntry user lease).Writes user lease := ⟨rfl, rfl⟩
        refine h.covered_write hwrites rfl rfl (fun t ht _ => ?_)
          (fun user tab room hne => presence_setPresence_of_ne hne)
          (fun tabId ts hne hlease => h.noOther hc.1 hfree hne hlease) hpresence hle
        have hself : (s.world.setPresence user lease.tabId lease.roomId lease.ts).presence user
            lease.tabId lease.roomId = some lease.ts := if_pos ⟨rfl, rfl, rfl⟩
        exact le_of_eq (Option.some.inj (hself.symm.trans ht)).symm
    | setItemOnTouch user lease =>
        obtain ⟨rfl, cur, hcur, htab, hroom⟩ := hallows
        have hsame : s.world.leases user = some cur := h.sound user _ _ hcur hc
        have hwrites : (Cmd.setItemOnTouch user lease).Writes user lease := ⟨rfl, rfl⟩
        refine h.covered_write hwrites ?_ now_beat
          (fun t ht hle => le_of_eq (presence_beat_self ht hle))
          (fun user tab room hne => presence_beat_of_ne hne) ?_ hpresence hle
        · show Function.update (Browser.leases _) user _ = _
          rw [leases_beat]
        · intro tabId ts hne hlease
          rw [hsame] at hlease
          cases hlease
          exact absurd htab hne
    | removeItem user tab =>
        obtain ⟨rfl, cur, hcur, htab⟩ := hallows
        have hsame : s.world.leases user = some cur := h.sound user _ _ hcur hc
        have hcleared : (if userId = user ∧ tabId = tab then none
            else s.world.presence userId tabId roomId) = some t := hpresence
        split at hcleared
        · cases hcleared
        rename_i hne
        refine h.covered_of_same (fun _ _ _ => rfl) (fun t' hp hle => ⟨?_, hle⟩)
          (fun ts hlease _ => ?_) hpresence hle
        · have hp' : (if userId = user ∧ tabId = tab then none
            else s.world.presence userId tabId roomId) = some t' := hp
          rwa [if_neg hne] at hp'
        · show Function.update s.world.leases user none userId = _
          rw [Function.update_of_ne, hlease]
          rintro rfl
          rw [hsame] at hlease
          cases hlease
          exact hne ⟨rfl, htab⟩

end Run

end Exec

namespace Sample

def gwen : UserId := ⟨"gwen", by decide⟩
def studio : RoomId := ⟨"studio", by decide⟩
def garage : RoomId := ⟨"garage", by decide⟩

inductive Tab
  | first
  | second
  | third
  deriving DecidableEq

instance : Fintype Tab := ⟨{.first, .second, .third}, fun tab => by cases tab <;> decide⟩

/-- The first tab goes from one room to another; the second is blocked there until
the first has cleared its lease. -/
def twoTabs : Tab → List TabCall
  | .first =>
      [.enters gwen garage, .enters gwen studio, .waits 4000, .touches gwen studio, .clears gwen]
  | .second => [.enters gwen studio, .enters gwen studio]
  | .third => []

end Sample

end Greetup.Client.TabLease
