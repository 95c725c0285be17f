import Greetup.Calls.History
import Greetup.Interleaving.Accounts

/-!
Whether a call is logged once.

A key is claimed exactly while somebody holds it: a routine that has won it
holds it until it gives it back, and the routine of an accepted call never does.
Who gives it back may have left a message behind, and then the next one adds
another.
-/

namespace Greetup.Calls.History

open Interleaving Prog
open Rooms (UserId RoomId)

abbrev HistoryTold := Told HistoryCmd HistoryCmd.Reply

abbrev HistoryScene (ι : Type) := Scene ι HistoryCmd HistoryCmd.Reply HistoryWorld

abbrev HistoryConf (ι : Type) := Conf ι HistoryCmd HistoryCmd.Reply Outcome HistoryWorld

/-- The routines are to be called. -/
def history {ι : Type} (calls : ι → HistoryCall) (w : HistoryWorld) : HistoryConf ι where
  threads i := (calls i).program
  scene := ⟨w, []⟩

def HistoryWorld.Claimed (w : HistoryWorld) : Key → Prop
  | .room roomId => w.calls.historyLogged roomId = true
  | .request requestId => (w.calls.historyLoggedForRequest requestId).isSome

/-- How many messages have been published for the key. -/
def HistoryWorld.messages (w : HistoryWorld) (key : Key) : ℕ := w.published.countP (·.1 = key)

/-! ### How far a routine has come -/

inductive Stage
  /-- It has not tried to claim its key. -/
  | fresh
  /-- Somebody else holds the key. -/
  | lost
  | won
  | posted
  | failed
  | undone
  deriving DecidableEq

def Stage.Holds (stage : Stage) : Prop := stage = .won ∨ stage = .posted ∨ stage = .failed

/-- What an answer makes of the stage. -/
def Stage.next (stage : Stage) (e : HistoryTold) : Stage :=
  match e with
  | ⟨.call (.setHistoryLoggedNX _), logged⟩ => if logged = true then .won else .lost
  | ⟨.call (.setHistoryLoggedForRequestNX _ _), dedupe⟩ => if dedupe = true then .won else .lost
  | ⟨.publish _ _ _, published⟩ => if published = true then .posted else .failed
  | ⟨.delHistoryLoggedForRequest _, _⟩ => .undone
  | _ => stage

def stage : List HistoryTold → Stage
  | [] => .fresh
  | e :: h => (stage h).next e

/-- What a routine may do next. -/
inductive Due (call : HistoryCall) (h : List HistoryTold) : HistoryCmd → Prop
  | read (roomId : RoomId) (hkey : call.key = .room roomId) (hfresh : stage h = .fresh) :
      Due call h (.call (.getActiveByRoom roomId))
  | claimRoom (roomId : RoomId) (hkey : call.key = .room roomId) (hfresh : stage h = .fresh) :
      Due call h (.call (.setHistoryLoggedNX roomId))
  | claimRequest (requestId : RequestId) (status : ConnectionCallHistoryStatus)
      (hkey : call.key = .request requestId) (hfresh : stage h = .fresh) :
      Due call h (.call (.setHistoryLoggedForRequestNX requestId status))
  | now : Due call h .now
  | publish (entry : HistoryEntry) (hwon : stage h = .won) :
      Due call h (.publish call.key entry call.publishing)
  | clear (roomId : RoomId) (hkey : call.key = .room roomId) (hposted : stage h = .posted) :
      Due call h (.call (.delActiveByRoom roomId))
  | undo (requestId : RequestId) (hkey : call.key = .request requestId)
      (hfailed : stage h = .failed) : Due call h (.delHistoryLoggedForRequest requestId)

/-- How a routine returns. -/
def Ended (call : HistoryCall) (h : List HistoryTold) : Prop :=
  stage h = .lost ∨ (stage h = .posted ∧ call.publishing = .returns) ∨
    match call with
    | .finalize roomId publishing =>
        (stage h = .fresh ∧ ⟨.call (.getActiveByRoom roomId),
          (none : Option ActiveConnectionCallMeta)⟩ ∈ h) ∨
            (stage h = .failed ∧ publishing ≠ .returns)
    | .record invite _ publishing =>
        (stage h = .fresh ∧ invite.conversationId = none) ∨
          (stage h = .undone ∧ publishing ≠ .returns)

theorem licensed_finalizeLogged {roomId : RoomId} {call : ActiveConnectionCallMeta}
    {publishing : Publishing} {logged : Bool} {h : List HistoryTold}
    (hstage : stage h = if logged = true then .won else .lost) :
    (finalizeLogged roomId call publishing logged).Licensed execHistory
      (Due (.finalize roomId publishing)) (fun h _ => Ended (.finalize roomId publishing) h) h := by
  cases logged with
  | false => exact .inl hstage
  | true =>
      refine ⟨.now, fun w => ⟨.publish _ hstage, fun w => ?_⟩⟩
      cases publishing with
      | returns => exact ⟨.clear roomId rfl rfl, fun w => .inr (.inl ⟨rfl, rfl⟩)⟩
      | rejects | leaves => exact .inr (.inr (.inr ⟨rfl, by simp⟩))

theorem licensed_finalize (roomId : RoomId) (publishing : Publishing) :
    (finalizeConnectionCallHistory roomId publishing).Licensed execHistory
      (Due (.finalize roomId publishing)) (fun h _ => Ended (.finalize roomId publishing) h)
        [] := by
  refine ⟨.read roomId rfl rfl, fun w => ?_⟩
  show Licensed _ _ _ (finalizeActive roomId publishing (w.calls.activeByRoom roomId)) _
  cases hactive : w.calls.activeByRoom roomId with
  | none =>
      refine .inr (.inr (.inl ⟨rfl, ?_⟩))
      have hreply : (execHistory (.call (.getActiveByRoom roomId)) w).1 = none := hactive
      rw [hreply]
      exact List.mem_singleton_self _
  | some call =>
      refine ⟨.claimRoom roomId rfl rfl, fun w' => ?_⟩
      exact licensed_finalizeLogged rfl

theorem licensed_record (invite : InviteRecord) (status : ConnectionCallHistoryStatus)
    (publishing : Publishing) :
    (recordPendingCallOutcome invite status publishing).Licensed execHistory
      (Due (.record invite status publishing))
        (fun h _ => Ended (.record invite status publishing) h) [] := by
  unfold recordPendingCallOutcome
  split
  · next hnone => exact .inr (.inr (.inl ⟨rfl, hnone⟩))
  · refine ⟨.claimRequest invite.requestId status rfl rfl, fun w => ?_⟩
    show Licensed _ _ _ (recordClaimed invite status publishing _) _
    cases hreply : (execHistory (.call (.setHistoryLoggedForRequestNX invite.requestId status))
        w).1 with
    | false => exact .inl rfl
    | true =>
        refine ⟨.publish _ rfl, fun w => ?_⟩
        cases publishing with
        | returns => exact .inr (.inl ⟨rfl, rfl⟩)
        | rejects | leaves => exact ⟨.undo _ rfl rfl, fun w => .inr (.inr (.inr ⟨rfl, by simp⟩))⟩

/-! ### Claims and messages -/

section Claims

variable {ι : Type} {mine : ι → Prop} {st : ι → Stage} {claimed claimed' : Prop}
  {left messages : ℕ} {i : ι} {x : Stage}

/-- One of those who want the key holds it if it is claimed, and apart from the
messages that were left by attempts that threw there is one if one of them has
posted it. -/
structure Custody (mine : ι → Prop) (st : ι → Stage) (claimed : Prop) (left messages : ℕ) :
    Prop where
  held : claimed ↔ ∃ i, mine i ∧ (st i).Holds
  unique : ∀ i j, mine i → mine j → (st i).Holds → (st j).Holds → i = j
  counted : (messages = left ∧ ∀ i, mine i → st i ≠ .posted) ∨
    (messages = left + 1 ∧ ∃ i, mine i ∧ st i = .posted)

theorem Custody.le_succ (h : Custody mine st claimed left messages) : messages ≤ left + 1 := by
  rcases h.counted with ⟨hleft, -⟩ | ⟨hsucc, -⟩ <;> omega

theorem Custody.eq_succ_iff (h : Custody mine st claimed left messages) :
    messages = left + 1 ↔ ∃ i, mine i ∧ st i = .posted := by
  rcases h.counted with ⟨hleft, hnone⟩ | ⟨hsucc, hsome⟩
  · refine ⟨fun hsucc => by omega, ?_⟩
    rintro ⟨i, hi, hposted⟩
    exact absurd hposted (hnone i hi)
  · exact ⟨fun _ => hsome, fun _ => hsucc⟩

theorem Stage.holds_posted : Stage.posted.Holds := .inr (.inl rfl)

theorem Stage.holds_failed : Stage.failed.Holds := .inr (.inr rfl)

variable [DecidableEq ι]

/-- What others do is nothing to the key. -/
theorem Custody.other (h : Custody mine st claimed left messages) (hi : ¬ mine i) :
    Custody mine (Function.update st i x) claimed left messages := by
  have hsame (j : ι) (hj : mine j) : Function.update st i x j = st j := by
    refine Function.update_of_ne ?_ x st
    rintro rfl
    exact hi hj
  refine ⟨h.held.trans (exists_congr fun j => ?_), ?_, ?_⟩
  · exact and_congr_right fun hj => by rw [hsame j hj]
  · intro j k hj hk
    rw [hsame j hj, hsame k hk]
    exact h.unique j k hj hk
  · refine h.counted.imp (And.imp_right ?_) (And.imp_right ?_)
    · intro hnone j hj
      rw [hsame j hj]
      exact hnone j hj
    · rintro ⟨j, hj, hposted⟩
      exact ⟨j, hj, (hsame j hj).trans hposted⟩

/-- Who does not hold the key, and does not come to, changes nothing. -/
theorem Custody.lose (h : Custody mine st claimed left messages) (hi : ¬ (st i).Holds)
    (hx : ¬ x.Holds) : Custody mine (Function.update st i x) claimed left messages := by
  have hholds (j : ι) : (Function.update st i x j).Holds ↔ (st j).Holds := by
    by_cases hij : j = i
    · subst hij
      rw [Function.update_self]
      exact iff_of_false hx hi
    · rw [Function.update_of_ne hij]
  have hposted (j : ι) : Function.update st i x j = .posted ↔ st j = .posted := by
    by_cases hij : j = i
    · subst hij
      rw [Function.update_self]
      refine iff_of_false ?_ ?_
      · rintro rfl
        exact hx Stage.holds_posted
      · intro heq
        rw [heq] at hi
        exact hi Stage.holds_posted
    · rw [Function.update_of_ne hij]
  constructor
  · simpa only [hholds] using h.held
  · simpa only [hholds] using h.unique
  · simpa only [ne_eq, hposted] using h.counted

/-- A key that nobody holds is won. -/
theorem Custody.win (h : Custody mine st claimed left messages) (hfree : ¬ claimed)
    (hi : mine i) : Custody mine (Function.update st i .won) True left messages := by
  have hnone (j : ι) (hj : mine j) : ¬ (st j).Holds := fun hh => hfree (h.held.mpr ⟨j, hj, hh⟩)
  have honly (j : ι) (hj : mine j) (hh : (Function.update st i .won j).Holds) : j = i := by
    by_contra hne
    rw [Function.update_of_ne hne] at hh
    exact hnone j hj hh
  refine ⟨⟨fun _ => ⟨i, hi, ?_⟩, fun _ => trivial⟩, ?_, .inl ?_⟩
  · rw [Function.update_self]
    exact .inl rfl
  · intro j k hj hk hholds hholds'
    rw [honly j hj hholds, honly k hk hholds']
  · have hleft : messages = left := by
      rcases h.counted with ⟨hleft, -⟩ | ⟨-, j, hj, hposted⟩
      · exact hleft
      · have := hnone j hj
        rw [hposted] at this
        exact absurd Stage.holds_posted this
    refine ⟨hleft, fun j hj hposted => ?_⟩
    have hji := honly j hj (by rw [hposted]; exact Stage.holds_posted)
    rw [hji, Function.update_self] at hposted
    cases hposted

omit [DecidableEq ι] in
/-- Who holds the key has not posted yet, and so nobody has. -/
theorem Custody.eq_left (h : Custody mine st claimed left messages) (hi : mine i)
    (hholds : (st i).Holds) (hnot : st i ≠ .posted) :
    messages = left ∧ ∀ j, mine j → st j ≠ .posted := by
  have hnone (j : ι) (hj : mine j) : st j ≠ .posted := by
    intro hposted
    have hji : j = i := h.unique j i hj hi (by rw [hposted]; exact Stage.holds_posted) hholds
    rw [hji] at hposted
    exact hnot hposted
  rcases h.counted with hleft | ⟨-, j, hj, hposted⟩
  · exact hleft
  · exact absurd hposted (hnone j hj)

/-- Who holds the key tries to publish. -/
theorem Custody.publish (h : Custody mine st claimed left messages) (hi : mine i)
    (hwon : st i = .won) (publishing : Publishing) :
    Custody mine
      (Function.update st i (if publishing = .returns then .posted else .failed)) claimed
      (if publishing = .leaves then left + 1 else left)
      (if publishing = .rejects then messages else messages + 1) := by
  have hholds (j : ι) :
      (Function.update st i (if publishing = .returns then Stage.posted else .failed) j).Holds ↔
        (st j).Holds := by
    by_cases hij : j = i
    · subst hij
      rw [Function.update_self]
      refine iff_of_true ?_ (.inl hwon)
      split
      · exact Stage.holds_posted
      · exact Stage.holds_failed
    · rw [Function.update_of_ne hij]
  obtain ⟨hleft, hnone⟩ := h.eq_left hi (.inl hwon) (by rw [hwon]; simp)
  have hothers (j : ι) (hj : mine j) : Function.update st i .failed j ≠ .posted := by
    by_cases hij : j = i
    · subst hij
      simp
    · rw [Function.update_of_ne hij]
      exact hnone j hj
  refine ⟨by simpa only [hholds] using h.held, by simpa only [hholds] using h.unique, ?_⟩
  cases publishing with
  | returns => exact .inr ⟨by simp [hleft], i, hi, by simp⟩
  | rejects => exact .inl ⟨by simpa using hleft, hothers⟩
  | leaves => exact .inl ⟨by simpa using hleft, hothers⟩

/-- Who has failed gives the key back. -/
theorem Custody.undo (h : Custody mine st claimed left messages) (hi : mine i)
    (hfailed : st i = .failed) :
    Custody mine (Function.update st i .undone) False left messages := by
  have hother (j : ι) (hj : mine j) : ¬ (Function.update st i .undone j).Holds := by
    by_cases hij : j = i
    · subst hij
      rw [Function.update_self]
      rintro (heq | heq | heq) <;> cases heq
    · rw [Function.update_of_ne hij]
      intro hh
      exact hij (h.unique j i hj hi hh (.inr (.inr hfailed)))
  refine ⟨iff_of_false not_false ?_, ?_, .inl ?_⟩
  · rintro ⟨j, hj, hh⟩
    exact hother j hj hh
  · intro j k hj _ hh
    exact absurd hh (hother j hj)
  · refine ⟨(h.eq_left hi (.inr (.inr hfailed)) (by rw [hfailed]; simp)).1,
      fun j hj hposted => ?_⟩
    have := hother j hj
    rw [hposted] at this
    exact this Stage.holds_posted

end Claims

/-! ### The runs -/

section Runs

variable {ι : Type} [DecidableEq ι] {calls : ι → HistoryCall} {s : HistoryScene ι} {i : ι}
  {c : HistoryCmd} {key : Key}

def stages (s : HistoryScene ι) (i : ι) : Stage := stage (s.told i)

theorem stages_after : stages (s.after execHistory i c) =
    Function.update (stages s) i ((stages s i).next ⟨c, (execHistory c s.world).1⟩) := by
  funext j
  by_cases hij : j = i
  · subst hij
    rw [Function.update_self, stages, Scene.told_after_self]
    rfl
  · rw [Function.update_of_ne hij, stages, Scene.told_after_of_ne _ (Ne.symm hij)]
    rfl

/-- An attempt to publish for the key that ends so. -/
def HistoryCmd.publishes (key : Key) (publishing : Publishing) : HistoryCmd → Bool
  | .publish key' _ publishing' => key' = key && publishing' = publishing
  | _ => false

/-- How many attempts for the key have left their messages and thrown. -/
def leftFor (key : Key) (s : HistoryScene ι) : ℕ := s.count (·.1.publishes key .leaves)

omit [DecidableEq ι] in
theorem leftFor_after (h : c.publishes key .leaves = false) :
    leftFor key (s.after execHistory i c) = leftFor key s :=
  Scene.count_after_of_false h

/-- The custody of a key in a scene. -/
def InCustody (calls : ι → HistoryCall) (key : Key) (s : HistoryScene ι) : Prop :=
  Custody (fun i => (calls i).key = key) (stages s) (s.world.Claimed key) (leftFor key s)
    (s.world.messages key)

/-- A command that concerns neither claims nor messages. -/
theorem InCustody.same (h : InCustody calls key s) (hleft : c.publishes key .leaves = false)
    (hnext : (stages s i).next ⟨c, (execHistory c s.world).1⟩ = stages s i)
    (hclaimed : (execHistory c s.world).2.Claimed key = s.world.Claimed key)
    (hmessages : (execHistory c s.world).2.messages key = s.world.messages key) :
    InCustody calls key (s.after execHistory i c) := by
  unfold InCustody
  rw [stages_after, hnext, Function.update_eq_self, leftFor_after hleft, Scene.after_world,
    hclaimed, hmessages]
  exact h

theorem not_holds_fresh : ¬ Stage.fresh.Holds := by
  rintro (heq | heq | heq) <;> cases heq

theorem not_holds_lost : ¬ Stage.lost.Holds := by
  rintro (heq | heq | heq) <;> cases heq

/-- An attempt to claim the key. -/
theorem InCustody.claim (h : InCustody calls key s) (won : Bool) (hkey : (calls i).key = key)
    (hleft : c.publishes key .leaves = false) (hfresh : stages s i = .fresh)
    (hnext : (stages s i).next ⟨c, (execHistory c s.world).1⟩ =
      if won = true then .won else .lost)
    (hwon : won = true ↔ ¬ s.world.Claimed key)
    (hclaimed : (execHistory c s.world).2.Claimed key)
    (hmessages : (execHistory c s.world).2.messages key = s.world.messages key) :
    InCustody calls key (s.after execHistory i c) := by
  unfold InCustody
  rw [stages_after, hnext, leftFor_after hleft, Scene.after_world, hmessages, eq_true hclaimed]
  cases won with
  | true => exact Custody.win h (hwon.mp rfl) hkey
  | false =>
      have htaken : s.world.Claimed key := by
        by_contra hfree
        exact absurd (hwon.mpr hfree) (by decide)
      rw [← eq_true htaken]
      refine Custody.lose h ?_ not_holds_lost
      rw [hfresh]
      exact not_holds_fresh

/-- What a routine does for another key. -/
theorem InCustody.elsewhere (h : InCustody calls key s) (hkey : (calls i).key ≠ key)
    (hleft : c.publishes key .leaves = false)
    (hclaimed : (execHistory c s.world).2.Claimed key = s.world.Claimed key)
    (hmessages : (execHistory c s.world).2.messages key = s.world.messages key) :
    InCustody calls key (s.after execHistory i c) := by
  unfold InCustody
  rw [stages_after, leftFor_after hleft, Scene.after_world, hclaimed, hmessages]
  exact Custody.other h hkey

/-- What a routine that holds its key publishes. -/
theorem InCustody.publish (h : InCustody calls (calls i).key s) (entry : HistoryEntry)
    (hwon : stages s i = .won) : InCustody calls (calls i).key
      (s.after execHistory i (.publish (calls i).key entry (calls i).publishing)) := by
  have hcustody := Custody.publish h rfl hwon (calls i).publishing
  have hclaimed : (execHistory (.publish (calls i).key entry (calls i).publishing)
      s.world).2.Claimed (calls i).key = s.world.Claimed (calls i).key := by
    simp only [execHistory]
    split <;> cases (calls i).key <;> rfl
  have hmessages : (execHistory (.publish (calls i).key entry (calls i).publishing)
      s.world).2.messages (calls i).key = if (calls i).publishing = .rejects
        then s.world.messages (calls i).key else s.world.messages (calls i).key + 1 := by
    simp only [execHistory]
    split <;> simp [HistoryWorld.messages]
  have hleft : leftFor (calls i).key
      (s.after execHistory i (.publish (calls i).key entry (calls i).publishing)) =
        if (calls i).publishing = .leaves then leftFor (calls i).key s + 1
          else leftFor (calls i).key s := by
    rw [leftFor, Scene.count_after]
    split <;> simp_all [HistoryCmd.publishes, leftFor]
  have hnext : (stages s i).next ⟨.publish (calls i).key entry (calls i).publishing,
      (execHistory (.publish (calls i).key entry (calls i).publishing) s.world).1⟩ =
        if (calls i).publishing = .returns then .posted else .failed := by
    simp [Stage.next, execHistory]
  unfold InCustody
  rw [stages_after, hnext, Scene.after_world, hclaimed, hmessages, hleft]
  exact hcustody

/-- A routine claims and publishes for its own key. -/
theorem Due.elsewhere {call : HistoryCall} {h : List HistoryTold} {w : HistoryWorld}
    (hdue : Due call h c) (hkey' : call.key ≠ key) :
    c.publishes key .leaves = false ∧ (execHistory c w).2.Claimed key = w.Claimed key ∧
      (execHistory c w).2.messages key = w.messages key := by
  cases hdue with
  | read roomId => exact ⟨rfl, rfl, rfl⟩
  | now => exact ⟨rfl, by cases key <;> rfl, rfl⟩
  | clear roomId => exact ⟨rfl, by cases key <;> rfl, rfl⟩
  | claimRoom roomId hkey =>
      refine ⟨rfl, ?_, rfl⟩
      rw [hkey] at hkey'
      cases key with
      | request requestId => rfl
      | room other =>
          have hne : other ≠ roomId := fun heq => hkey' (heq ▸ rfl)
          simp [execHistory, exec, HistoryWorld.Claimed, hne]
  | claimRequest requestId status hkey =>
      rw [hkey] at hkey'
      refine ⟨rfl, ?_⟩
      simp only [execHistory, exec]
      split
      · refine ⟨?_, rfl⟩
        cases key with
        | room roomId => rfl
        | request other =>
            have hne : other ≠ requestId := fun heq => hkey' (heq ▸ rfl)
            simp [HistoryWorld.Claimed, hne]
      · exact ⟨rfl, rfl⟩
  | publish entry =>
      refine ⟨by simp [HistoryCmd.publishes, hkey'], ?_⟩
      simp only [execHistory]
      split
      · exact ⟨rfl, rfl⟩
      · refine ⟨by cases key <;> rfl, ?_⟩
        simp [HistoryWorld.messages, hkey']
  | undo requestId hkey =>
      rw [hkey] at hkey'
      refine ⟨rfl, ?_, rfl⟩
      cases key with
      | room roomId => rfl
      | request other =>
          have hne : other ≠ requestId := fun heq => hkey' (heq ▸ rfl)
          simp [execHistory, HistoryWorld.unclaimRequest, HistoryWorld.Claimed, hne]

/-- **Step lemma.** -/
theorem InCustody.after (h : InCustody calls key s) (hdue : Due (calls i) (s.told i) c) :
    InCustody calls key (s.after execHistory i c) := by
  by_cases hmine : (calls i).key = key
  · subst hmine
    cases hdue with
    | read roomId => exact h.same rfl rfl rfl rfl
    | now =>
        refine h.same rfl rfl ?_ rfl
        cases (calls i).key <;> rfl
    | clear roomId =>
        refine h.same rfl rfl ?_ rfl
        cases (calls i).key <;> rfl
    | claimRoom roomId hkey hfresh =>
        refine h.claim (!s.world.calls.historyLogged roomId) rfl rfl hfresh rfl ?_ ?_ rfl
        · rw [hkey]
          simp [HistoryWorld.Claimed]
        · rw [hkey]
          simp [HistoryWorld.Claimed, execHistory, exec]
    | claimRequest requestId status hkey hfresh =>
        refine h.claim (s.world.calls.historyLoggedForRequest requestId).isNone rfl rfl hfresh ?_
          ?_ ?_ ?_
        · cases hlogged : s.world.calls.historyLoggedForRequest requestId <;>
            simp [Stage.next, execHistory, exec, hlogged]
        · rw [hkey]
          simp [HistoryWorld.Claimed]
        · rw [hkey]
          cases hlogged : s.world.calls.historyLoggedForRequest requestId <;>
            simp [HistoryWorld.Claimed, execHistory, exec, hlogged]
        · simp only [execHistory, exec]
          split <;> rfl
    | publish entry hwon => exact h.publish entry hwon
    | undo requestId hkey hfailed =>
        have hgone : ((execHistory (.delHistoryLoggedForRequest requestId) s.world).2.Claimed
            (calls i).key) = False := by
          rw [hkey]
          simp [execHistory, HistoryWorld.unclaimRequest, HistoryWorld.Claimed]
        unfold InCustody
        rw [stages_after, leftFor_after rfl, Scene.after_world, hgone]
        exact Custody.undo h rfl hfailed
  · obtain ⟨hleft, hclaimed, hmessages⟩ := hdue.elsewhere hmine
    exact h.elsewhere hmine hleft hclaimed hmessages

theorem licensed_history (calls : ι → HistoryCall) (w : HistoryWorld) :
    (history calls w).Licensed execHistory (fun i h c => Due (calls i) h c)
      (fun i h _ => Ended (calls i) h) := by
  intro i
  show (calls i).program.Licensed _ (Due (calls i)) (fun h _ => Ended (calls i) h) []
  cases calls i with
  | finalize roomId succeeds => exact licensed_finalize roomId succeeds
  | record invite status succeeds => exact licensed_record invite status succeeds

/-- Nothing has been logged under the key. -/
structure HistoryWorld.Unlogged (w : HistoryWorld) (key : Key) : Prop where
  messages : w.messages key = 0
  claimed : ¬ w.Claimed key

theorem inCustody_start {w : HistoryWorld} (hw : w.Unlogged key) :
    InCustody calls key (history calls w).scene := by
  refine ⟨iff_of_false hw.claimed ?_, ?_, .inl ⟨hw.messages, fun i _ heq => by cases heq⟩⟩
  · rintro ⟨i, -, hholds⟩
    exact not_holds_fresh hholds
  · intro i j _ _ hholds
    exact absurd hholds not_holds_fresh

theorem inCustody_runs (calls : ι → HistoryCall) {w : HistoryWorld} (hw : w.Unlogged key)
    (sched : List ι) :
    InCustody calls key ((history calls w).runs execHistory sched).scene :=
  (licensed_history calls w).runs_inv
    (P := fun _ _ _ => True) (fun _ _ _ h hdue _ => h.after hdue) (inCustody_start hw)
    (Conf.meets_of_forall execHistory (fun _ _ _ => trivial) _ _)

/-! ### What a routine finds -/

omit [DecidableEq ι] in
theorem stage_eq_of_settled {h : List HistoryTold} {reply : HistoryCmd.Reply c}
    (hdue : Due (calls i) h c) (hsettled : stage h = .lost ∨ stage h = .posted ∨
      stage h = .undone) : stage (⟨c, reply⟩ :: h) = stage h := by
  cases hdue with
  | read => rfl
  | now => rfl
  | clear => rfl
  | claimRoom roomId hkey hfresh =>
      rw [hfresh] at hsettled
      rcases hsettled with h | h | h <;> cases h
  | claimRequest requestId status hkey hfresh =>
      rw [hfresh] at hsettled
      rcases hsettled with h | h | h <;> cases h
  | publish entry hwon =>
      rw [hwon] at hsettled
      rcases hsettled with h | h | h <;> cases h
  | undo requestId hkey hfailed =>
      rw [hfailed] at hsettled
      rcases hsettled with h | h | h <;> cases h

/-- A stage that is not left. -/
theorem stages_after_of_settled {j : ι} (hdue : Due (calls i) (s.told i) c)
    (hsettled : stages s j = .lost ∨ stages s j = .posted ∨ stages s j = .undone) :
    stages (s.after execHistory i c) j = stages s j := by
  rw [stages_after]
  by_cases hij : j = i
  · subst hij
    rw [Function.update_self]
    exact stage_eq_of_settled hdue hsettled
  · exact Function.update_of_ne hij _ _

/-- Who has failed, or given the key back, has done nothing else since. -/
theorem over_after {j : ι} (hdue : Due (calls i) (s.told i) c)
    (hover : stages s j = .failed ∨ stages s j = .undone) :
    stages (s.after execHistory i c) j = .failed ∨
      stages (s.after execHistory i c) j = .undone := by
  rw [stages_after]
  by_cases hij : j = i
  · subst hij
    rw [Function.update_self]
    have hfresh : stages s j ≠ .fresh := by
      intro heq
      rw [heq] at hover
      rcases hover with h | h <;> cases h
    cases hdue with
    | read => exact hover
    | now => exact hover
    | clear => exact hover
    | undo => exact .inr rfl
    | claimRoom roomId hkey hf => exact absurd hf hfresh
    | claimRequest requestId status hkey hf => exact absurd hf hfresh
    | publish entry hwon =>
        rw [show stages s j = .won from hwon] at hover
        rcases hover with h | h <;> cases h
  · rw [Function.update_of_ne hij]
    exact hover

/-- Who has tried to claim the key, and has not lost, does not lose it any more. -/
theorem engaged_after {j : ι} (hdue : Due (calls i) (s.told i) c)
    (hfresh : stages s j ≠ .fresh) (hlost : stages s j ≠ .lost) :
    stages (s.after execHistory i c) j ≠ .fresh ∧ stages (s.after execHistory i c) j ≠ .lost := by
  rw [stages_after]
  by_cases hij : j = i
  · subst hij
    rw [Function.update_self]
    cases hdue with
    | read => exact ⟨hfresh, hlost⟩
    | now => exact ⟨hfresh, hlost⟩
    | clear => exact ⟨hfresh, hlost⟩
    | undo => exact ⟨by simp [Stage.next], by simp [Stage.next]⟩
    | claimRoom roomId hkey hf => exact absurd hf hfresh
    | claimRequest requestId status hkey hf => exact absurd hf hfresh
    | publish entry hwon =>
        simp only [Stage.next]
        split <;> simp
  · rw [Function.update_of_ne hij]
    exact ⟨hfresh, hlost⟩

/-- The stages and the attempts that have thrown. -/
structure Attempts (calls : ι → HistoryCall) (s : HistoryScene ι) : Prop where
  tried : ∀ i, stages s i = .failed ∨ stages s i = .undone →
    (calls i).publishing ≠ .returns ∧
      ∃ entry, ⟨i, .publish (calls i).key entry (calls i).publishing, false⟩ ∈ s.trace
  ended : ∀ i key entry publishing reply, publishing ≠ .returns ∨ reply = false →
    ⟨i, .publish key entry publishing, reply⟩ ∈ s.trace →
      key = (calls i).key ∧ publishing = (calls i).publishing ∧
        (stages s i = .failed ∨ stages s i = .undone)
  undone : ∀ i roomId, (calls i).key = .room roomId → stages s i ≠ .undone

theorem attempts_start (w : HistoryWorld) : Attempts calls (history calls w).scene where
  tried i h := by rcases h with h | h <;> cases h
  ended i key entry publishing reply _ h := by cases h
  undone i roomId hkey h := by cases h

theorem Attempts.tried_after (h : Attempts calls s) (hdue : Due (calls i) (s.told i) c) (j : ι)
    (hj : stages (s.after execHistory i c) j = .failed ∨
      stages (s.after execHistory i c) j = .undone) :
    (calls j).publishing ≠ .returns ∧
      ∃ entry, ⟨j, .publish (calls j).key entry (calls j).publishing, false⟩ ∈
        (s.after execHistory i c).trace := by
  have hold (hstage : stages s j = .failed ∨ stages s j = .undone) :
      (calls j).publishing ≠ .returns ∧
        ∃ entry, ⟨j, .publish (calls j).key entry (calls j).publishing, false⟩ ∈
          (s.after execHistory i c).trace := by
    obtain ⟨hthrows, entry, hmem⟩ := h.tried j hstage
    exact ⟨hthrows, entry, List.mem_cons_of_mem _ hmem⟩
  rw [stages_after] at hj
  by_cases hij : j = i
  · subst hij
    rw [Function.update_self] at hj
    cases hdue with
    | read => exact hold hj
    | now => exact hold hj
    | clear => exact hold hj
    | undo requestId hkey hfailed => exact hold (.inl hfailed)
    | claimRoom =>
        simp only [Stage.next] at hj
        split at hj <;> rcases hj with hj | hj <;> cases hj
    | claimRequest =>
        simp only [Stage.next] at hj
        split at hj <;> rcases hj with hj | hj <;> cases hj
    | publish entry hwon =>
        by_cases hreturns : (calls j).publishing = .returns
        · simp [Stage.next, execHistory, hreturns] at hj
        · refine ⟨hreturns, entry, ?_⟩
          rw [Scene.after_trace]
          simp [execHistory, hreturns]
  · rw [Function.update_of_ne hij] at hj
    exact hold hj

theorem Attempts.over_after (h : Attempts calls s) (hdue : Due (calls i) (s.told i) c) (j : ι)
    (key : Key) (entry : HistoryEntry) (publishing : Publishing) (reply : Bool)
    (hthrows : publishing ≠ .returns ∨ reply = false)
    (hmem : ⟨j, .publish key entry publishing, reply⟩ ∈ (s.after execHistory i c).trace) :
    key = (calls j).key ∧ publishing = (calls j).publishing ∧
      (stages (s.after execHistory i c) j = .failed ∨
        stages (s.after execHistory i c) j = .undone) := by
  rcases List.mem_cons.mp hmem with heq | hmem
  · cases heq
    generalize hpublish : HistoryCmd.publish key entry publishing = c at hdue
    cases hdue with
    | publish entry' hwon =>
        injection hpublish with hkey hentry hsame
        subst hkey hsame
        refine ⟨rfl, rfl, .inl ?_⟩
        have hne : (calls i).publishing ≠ .returns := by
          simpa [execHistory] using hthrows
        rw [stages_after, Function.update_self]
        simp [Stage.next, execHistory, hne]
    | read => cases hpublish
    | now => cases hpublish
    | clear => cases hpublish
    | undo => cases hpublish
    | claimRoom => cases hpublish
    | claimRequest => cases hpublish
  · obtain ⟨hkey, hsame, hover⟩ := h.ended j key entry publishing reply hthrows hmem
    exact ⟨hkey, hsame, History.over_after hdue hover⟩

theorem Attempts.undone_after (h : Attempts calls s) (hdue : Due (calls i) (s.told i) c) (j : ι)
    (roomId : RoomId) (hkey : (calls j).key = .room roomId) :
    stages (s.after execHistory i c) j ≠ .undone := by
  have hold := h.undone j roomId hkey
  rw [stages_after]
  by_cases hij : j = i
  · subst hij
    rw [Function.update_self]
    cases hdue with
    | read => exact hold
    | now => exact hold
    | clear => exact hold
    | undo requestId hkey' =>
        rw [hkey] at hkey'
        cases hkey'
    | claimRoom =>
        simp only [Stage.next]
        split <;> simp
    | claimRequest =>
        simp only [Stage.next]
        split <;> simp
    | publish =>
        simp only [Stage.next]
        split <;> simp
  · rw [Function.update_of_ne hij]
    exact hold

theorem Attempts.after (h : Attempts calls s) (hdue : Due (calls i) (s.told i) c) :
    Attempts calls (s.after execHistory i c) :=
  ⟨h.tried_after hdue, h.over_after hdue, h.undone_after hdue⟩

theorem attempts_runs (calls : ι → HistoryCall) (w : HistoryWorld) (sched : List ι) :
    Attempts calls ((history calls w).runs execHistory sched).scene :=
  (licensed_history calls w).runs_inv
    (P := fun _ _ _ => True) (fun _ _ _ h hdue _ => h.after hdue) (attempts_start w)
    (Conf.meets_of_forall execHistory (fun _ _ _ => trivial) _ _)

/-! ### The routine of an accepted call -/

/-- What it finds missing has been posted, and a key that it does not win stays
claimed. -/
structure RoomInv (calls : ι → HistoryCall) (roomId : RoomId) (s : HistoryScene ι) : Prop where
  gone : s.world.calls.activeByRoom roomId = none →
    ∃ j, (calls j).key = .room roomId ∧ stages s j = .posted
  missed : ∀ i, ⟨.call (.getActiveByRoom roomId), (none : Option ActiveConnectionCallMeta)⟩ ∈
    s.told i → ∃ j, (calls j).key = .room roomId ∧ stages s j = .posted
  beaten : ∀ i, (calls i).key = .room roomId → stages s i = .lost → s.world.Claimed (.room roomId)

theorem claimed_room_after {roomId : RoomId} (hdue : Due (calls i) (s.told i) c)
    (hclaimed : s.world.Claimed (.room roomId)) :
    (execHistory c s.world).2.Claimed (.room roomId) := by
  cases hdue with
  | read => exact hclaimed
  | now => exact hclaimed
  | clear => exact hclaimed
  | undo => exact hclaimed
  | publish =>
      simp only [execHistory]
      split <;> exact hclaimed
  | claimRequest =>
      simp only [execHistory, exec]
      split <;> exact hclaimed
  | claimRoom other =>
      by_cases hroom : roomId = other
      · subst hroom
        simp [execHistory, exec, HistoryWorld.Claimed]
      · simpa [execHistory, exec, HistoryWorld.Claimed, hroom] using hclaimed

theorem RoomInv.after {roomId : RoomId} (h : RoomInv calls roomId s)
    (hdue : Due (calls i) (s.told i) c) : RoomInv calls roomId (s.after execHistory i c) := by
  have hstays (hposted : ∃ j, (calls j).key = .room roomId ∧ stages s j = .posted) :
      ∃ j, (calls j).key = .room roomId ∧ stages (s.after execHistory i c) j = .posted := by
    obtain ⟨j, hkey, hstage⟩ := hposted
    exact ⟨j, hkey, (stages_after_of_settled hdue (.inr (.inl hstage))).trans hstage⟩
  refine ⟨fun hgone => hstays ?_, fun j hmem => hstays ?_, fun j hkey hlost => ?_⟩
  · cases hdue with
    | read => exact h.gone hgone
    | now => exact h.gone hgone
    | undo => exact h.gone hgone
    | claimRoom => exact h.gone hgone
    | publish =>
        rw [Scene.after_world] at hgone
        simp only [execHistory] at hgone
        split at hgone <;> exact h.gone hgone
    | claimRequest =>
        rw [Scene.after_world] at hgone
        simp only [execHistory, exec] at hgone
        split at hgone <;> exact h.gone hgone
    | clear other hkey hposted =>
        by_cases hroom : roomId = other
        · subst hroom
          exact ⟨i, hkey, hposted⟩
        · refine h.gone ?_
          simpa [execHistory, exec, Store.setActiveByRoom, hroom] using hgone
  · rcases (Scene.mem_told_after execHistory).mp hmem with ⟨rfl, heq⟩ | hmem
    · rw [Sigma.mk.injEq] at heq
      obtain ⟨rfl, heq⟩ := heq
      exact h.gone (eq_of_heq heq).symm
    · exact h.missed j hmem
  · by_cases hold : stages s j = .lost
    · exact claimed_room_after hdue (h.beaten j hkey hold)
    · rw [stages_after] at hlost
      by_cases hij : j = i
      · subst hij
        rw [Function.update_self] at hlost
        cases hdue with
        | read => exact absurd hlost hold
        | now => exact absurd hlost hold
        | clear => exact absurd hlost hold
        | undo => cases hlost
        | publish =>
            simp only [Stage.next] at hlost
            split at hlost <;> cases hlost
        | claimRequest requestId status hkey' =>
            rw [hkey] at hkey'
            cases hkey'
        | claimRoom other hkey' =>
            rw [hkey] at hkey'
            cases hkey'
            simp [execHistory, exec, HistoryWorld.Claimed]
      · rw [Function.update_of_ne hij] at hlost
        exact absurd hlost hold

theorem roomInv_runs {roomId : RoomId} (calls : ι → HistoryCall) {w : HistoryWorld}
    (hactive : w.calls.activeByRoom roomId ≠ none) (sched : List ι) :
    RoomInv calls roomId ((history calls w).runs execHistory sched).scene :=
  (licensed_history calls w).runs_inv
    (P := fun _ _ _ => True) (fun _ _ _ h hdue _ => h.after hdue)
    ⟨fun hgone => absurd hgone hactive, fun i hmem => (List.not_mem_nil hmem).elim,
      fun i _ hlost => by cases hlost⟩
    (Conf.meets_of_forall execHistory (fun _ _ _ => trivial) _ _)

/-! ### What attempts leave behind -/

/-- For a room at most one attempt leaves its message and throws, for it keeps
the key. -/
def LeftOnce (calls : ι → HistoryCall) (roomId : RoomId) (s : HistoryScene ι) : Prop :=
  leftFor (.room roomId) s = 0 ∨ leftFor (.room roomId) s = 1 ∧
    ∃ j, (calls j).key = .room roomId ∧ stages s j = .failed ∧ (calls j).publishing = .leaves

theorem LeftOnce.after {roomId : RoomId} (h : LeftOnce calls roomId s)
    (hcustody : InCustody calls (.room roomId) s) (hattempts : Attempts calls s)
    (hdue : Due (calls i) (s.told i) c) : LeftOnce calls roomId (s.after execHistory i c) := by
  cases hpublishes : c.publishes (.room roomId) .leaves with
  | false =>
      rw [LeftOnce, leftFor_after hpublishes]
      refine h.imp_right (And.imp_right ?_)
      rintro ⟨j, hkey, hfailed, hleaves⟩
      have hover := History.over_after hdue (.inl hfailed)
      exact ⟨j, hkey, hover.resolve_right (hattempts.undone_after hdue j roomId hkey), hleaves⟩
  | true =>
      cases hdue with
      | publish entry hwon =>
          obtain ⟨hkey, hleaves⟩ : (calls i).key = .room roomId ∧ (calls i).publishing = .leaves :=
            by simpa [HistoryCmd.publishes] using hpublishes
          have hnone : leftFor (.room roomId) s = 0 := by
            refine h.resolve_right ?_
            rintro ⟨-, j, hj, hfailed, -⟩
            have hji := hcustody.unique j i hj hkey (by rw [hfailed]; exact Stage.holds_failed)
              (.inl hwon)
            rw [hji, show stages s i = .won from hwon] at hfailed
            cases hfailed
          refine .inr ⟨?_, i, hkey, ?_, hleaves⟩
          · exact (Scene.count_after_of_true hpublishes).trans (congrArg (· + 1) hnone)
          · rw [stages_after, Function.update_self]
            simp [Stage.next, execHistory, hleaves]
      | _ => cases hpublishes

theorem leftOnce_runs {roomId : RoomId} (calls : ι → HistoryCall) {w : HistoryWorld}
    (hw : w.Unlogged (.room roomId)) (sched : List ι) :
    InCustody calls (.room roomId) ((history calls w).runs execHistory sched).scene ∧
      Attempts calls ((history calls w).runs execHistory sched).scene ∧
        LeftOnce calls roomId ((history calls w).runs execHistory sched).scene :=
  (licensed_history calls w).runs_inv (P := fun _ _ _ => True)
    (I := fun s => InCustody calls (.room roomId) s ∧ Attempts calls s ∧ LeftOnce calls roomId s)
    (fun _ _ _ h hdue _ => ⟨h.1.after hdue, h.2.1.after hdue, h.2.2.after h.1 h.2.1 hdue⟩)
    ⟨inCustody_start hw, attempts_start w, .inl rfl⟩
    (Conf.meets_of_forall execHistory (fun _ _ _ => trivial) _ _)

/-- An attempt that has left its message stands in the way of any other. -/
theorem LeftOnce.messages_le_one {roomId : RoomId} (h : LeftOnce calls roomId s)
    (hcustody : InCustody calls (.room roomId) s) : s.world.messages (.room roomId) ≤ 1 := by
  rcases h with hzero | ⟨hone, j, hj, hfailed, -⟩
  · have hle := hcustody.le_succ
    rwa [hzero] at hle
  · have hheld : (stages s j).Holds := by rw [hfailed]; exact Stage.holds_failed
    exact ((hcustody.eq_left hj hheld (by rw [hfailed]; simp)).1.trans hone).le

/-! ### The routine of a call that was not accepted -/

/-- What has happened since the stages were `before`: whoever was done is still
done, and who has beaten the routine had not given the key back. -/
structure Later (calls : ι → HistoryCall) (key : Key) (before : ι → Stage) (i₀ : ι)
    (s : HistoryScene ι) : Prop where
  undone : ∀ j, before j = .undone → stages s j = .undone
  beaten : stages s i₀ = .lost → ∃ j, (calls j).key = key ∧ before j ≠ .undone ∧
    stages s j ≠ .fresh ∧ stages s j ≠ .lost

theorem Later.after {before : ι → Stage} {i₀ : ι} (h : Later calls key before i₀ s)
    (hcustody : InCustody calls key s) (hkey : (calls i₀).key = key)
    (hdue : Due (calls i) (s.told i) c) : Later calls key before i₀ (s.after execHistory i c) := by
  refine ⟨fun j hj => ?_, fun hlost => ?_⟩
  · rw [stages_after_of_settled hdue (.inr (.inr (h.undone j hj)))]
    exact h.undone j hj
  · by_cases hold : stages s i₀ = .lost
    · obtain ⟨j, hj, hbefore, hfresh, hlost⟩ := h.beaten hold
      exact ⟨j, hj, hbefore, engaged_after hdue hfresh hlost⟩
    · -- The routine loses now, so somebody holds the key.
      have hii : i₀ = i := by
        by_contra hne
        rw [stages_after, Function.update_of_ne hne] at hlost
        exact hold hlost
      subst hii
      have hclaimed : s.world.Claimed key := by
        rw [stages_after, Function.update_self] at hlost
        cases hdue with
        | read => exact absurd hlost hold
        | now => exact absurd hlost hold
        | clear => exact absurd hlost hold
        | undo => cases hlost
        | publish =>
            simp only [Stage.next] at hlost
            split at hlost <;> cases hlost
        | claimRoom roomId hroom =>
            rw [← hkey, hroom]
            cases hlogged : s.world.calls.historyLogged roomId with
            | true => exact hlogged
            | false => simp [Stage.next, execHistory, exec, hlogged] at hlost
        | claimRequest requestId status hrequest =>
            rw [← hkey, hrequest]
            cases hlogged : s.world.calls.historyLoggedForRequest requestId with
            | some s => simp [HistoryWorld.Claimed, hlogged]
            | none => simp [Stage.next, execHistory, exec, hlogged] at hlost
      obtain ⟨j, hj, hholds⟩ := hcustody.held.mp hclaimed
      have hstage : stages s j ≠ .fresh ∧ stages s j ≠ .lost ∧ stages s j ≠ .undone := by
        rcases hholds with heq | heq | heq <;> rw [heq] <;> simp
      refine ⟨j, hj, fun hundone => hstage.2.2 (h.undone j hundone),
        engaged_after hdue hstage.1 hstage.2.1⟩

/-! ### Whether a call is logged -/

/-- A routine that would succeed is called after all those that throw have
returned, and returns. -/
structure Retried (calls : ι → HistoryCall) (w : HistoryWorld) (sched : List ι) (key : Key)
    (i : ι) : Prop where
  mine : (calls i).key = key
  succeeds : (calls i).publishing = .returns
  returns : ∃ a, ((history calls w).runs execHistory sched).threads i = .done a
  late : ∃ before later, sched = before ++ later ∧ i ∉ before ∧ ∀ j entry publishing,
    ⟨j, .publish key entry publishing, false⟩ ∈
        ((history calls w).runs execHistory sched).scene.trace →
      ∃ a, ((history calls w).runs execHistory before).threads j = .done a

/-- No attempt to publish for the key has ended so. -/
def NoAttempt (key : Key) (publishing : Publishing) (s : HistoryScene ι) : Prop :=
  ∀ e ∈ s.trace, e.cmd.publishes key publishing = false

omit [DecidableEq ι] in
theorem leftFor_eq_zero_iff : leftFor key s = 0 ↔ NoAttempt key .leaves s := by
  rw [leftFor, Scene.count, List.countP_eq_zero]
  exact forall₂_congr fun e _ => Bool.not_eq_true _ ▸ Iff.rfl

/-- The attempt that the trace shows. -/
theorem Attempts.of_publishes (h : Attempts calls s) {publishing : Publishing}
    (hthrows : publishing ≠ .returns) {e : Event ι HistoryCmd HistoryCmd.Reply}
    (he : e ∈ s.trace) (hpublishes : e.cmd.publishes key publishing = true) :
    (calls e.tid).key = key ∧ (calls e.tid).publishing = publishing ∧
      (stages s e.tid = .failed ∨ stages s e.tid = .undone) := by
  obtain ⟨i, c, reply⟩ := e
  cases c with
  | publish key' entry publishing' =>
      obtain ⟨rfl, rfl⟩ : key' = key ∧ publishing' = publishing := by
        simpa [HistoryCmd.publishes] using hpublishes
      obtain ⟨hkey, hsame, hover⟩ := h.ended i key' entry publishing' reply (.inl hthrows) he
      exact ⟨hkey.symm, hsame.symm, hover⟩
  | _ => cases hpublishes

/-- A routine that does not publish without a conversation has one. -/
def HistoryCall.InConversation : HistoryCall → Prop
  | .finalize _ _ => True
  | .record invite _ _ => invite.conversationId ≠ none

variable {w : HistoryWorld} {sched : List ι}

theorem ended_of_returns (hreturns : ∃ a, ((history calls w).runs execHistory sched).threads i =
    .done a) : Ended (calls i) (((history calls w).runs execHistory sched).scene.told i) := by
  obtain ⟨a, ha⟩ := hreturns
  exact ((licensed_history calls w).runs sched).result ha

/-- At rest a routine that has tried to claim its key has ended. -/
theorem ended_of_atRest (hrest : ((history calls w).runs execHistory sched).AtRest)
    (hfresh : stages ((history calls w).runs execHistory sched).scene i ≠ .fresh) :
    Ended (calls i) (((history calls w).runs execHistory sched).scene.told i) := by
  rcases ((licensed_history calls w).runs sched).told_of_atRest hrest i with hnil | ⟨-, hended⟩
  · exact absurd (by rw [stages, hnil]; rfl) hfresh
  · exact hended

/-- At rest a claimed key of an accepted call has its message, unless an attempt
has thrown without one. -/
theorem messages_of_claimed {roomId : RoomId} (hw : w.Unlogged (.room roomId))
    (hrest : ((history calls w).runs execHistory sched).AtRest)
    (hnone : NoAttempt (.room roomId) .rejects ((history calls w).runs execHistory sched).scene)
    (hclaimed : ((history calls w).runs execHistory sched).scene.world.Claimed (.room roomId)) :
    ((history calls w).runs execHistory sched).scene.world.messages (.room roomId) = 1 := by
  obtain ⟨hcustody, hattempts, hleft⟩ := leftOnce_runs calls hw sched
  obtain ⟨j, hj, hholds⟩ := hcustody.held.mp hclaimed
  rcases hholds with hwon | hposted | hfailed
  · have hended := ended_of_atRest hrest (by rw [hwon]; simp)
    rw [show stages _ j = stage _ from rfl] at hwon
    unfold Ended at hended
    rw [hwon] at hended
    cases hcall : calls j <;> simp [hcall] at hended
  · have hpos := hcustody.eq_succ_iff.mpr ⟨j, hj, hposted⟩
    have hle := hleft.messages_le_one hcustody
    omega
  · obtain ⟨hthrows, entry, hmem⟩ := hattempts.tried j (.inl hfailed)
    have hleaves : (calls j).publishing = .leaves := by
      cases hpublishing : (calls j).publishing with
      | returns => exact absurd hpublishing hthrows
      | leaves => rfl
      | rejects => simpa [HistoryCmd.publishes, hj, hpublishing] using hnone _ hmem
    have hsome : leftFor (.room roomId) ((history calls w).runs execHistory sched).scene ≠ 0 := by
      intro hzero
      simpa [HistoryCmd.publishes, hj, hleaves] using leftFor_eq_zero_iff.mp hzero _ hmem
    have hone := (hleft.resolve_left hsome).1
    exact (hcustody.eq_left hj (by rw [hfailed]; exact Stage.holds_failed)
      (by rw [hfailed]; simp)).1.trans hone

/-- An accepted call is logged once exactly when no attempt has thrown without
leaving its message. -/
theorem finalize_logged_iff {roomId : RoomId} (hw : w.Unlogged (.room roomId))
    (hactive : w.calls.activeByRoom roomId ≠ none)
    (hrest : ((history calls w).runs execHistory sched).AtRest)
    (hretried : Retried calls w sched (.room roomId) i) :
    ((history calls w).runs execHistory sched).scene.world.messages (.room roomId) = 1 ↔
      NoAttempt (.room roomId) .rejects
        ((history calls w).runs execHistory sched).scene := by
  obtain ⟨hcustody, hattempts, hleft⟩ := leftOnce_runs calls hw sched
  have hroom := roomInv_runs calls hactive sched
  constructor
  · intro hone e hmem
    by_contra hpublishes
    obtain ⟨hkey, hrejects, hover⟩ := hattempts.of_publishes
      (show Publishing.rejects ≠ .returns by simp) hmem (Bool.not_eq_false _ ▸ hpublishes)
    have hfailed := hover.resolve_right (hattempts.undone e.tid roomId hkey)
    have hholds : (stages ((history calls w).runs execHistory sched).scene e.tid).Holds := by
      rw [hfailed]
      exact Stage.holds_failed
    -- the one message was left by an attempt that holds the key as this one does
    have hmessages := (hcustody.eq_left hkey hholds (by rw [hfailed]; simp)).1
    have hsome : leftFor (.room roomId) ((history calls w).runs execHistory sched).scene ≠ 0 := by
      omega
    obtain ⟨-, j, hj, hfailed', hleaves⟩ := hleft.resolve_left hsome
    have hsame : j = e.tid :=
      hcustody.unique j e.tid hj hkey (by rw [hfailed']; exact Stage.holds_failed) hholds
    rw [hsame, hrejects] at hleaves
    cases hleaves
  · intro hnone
    have hposted (h : ∃ j, (calls j).key = .room roomId ∧
        stages ((history calls w).runs execHistory sched).scene j = .posted) :
        ((history calls w).runs execHistory sched).scene.world.messages (.room roomId) = 1 := by
      obtain ⟨j, hj, hposted⟩ := h
      refine messages_of_claimed hw hrest hnone (hcustody.held.mpr ⟨j, hj, ?_⟩)
      rw [hposted]
      exact Stage.holds_posted
    have hsucceeds := hretried.succeeds
    rcases ended_of_returns hretried.returns with hlost | ⟨hdone, -⟩ | hover
    · exact messages_of_claimed hw hrest hnone (hroom.beaten i hretried.mine hlost)
    · exact hposted ⟨i, hretried.mine, hdone⟩
    · have hkey := hretried.mine
      cases hcall : calls i with
      | record invite status publishing =>
          rw [hcall] at hkey
          cases hkey
      | finalize other publishing =>
          rw [hcall] at hkey hsucceeds hover
          cases hkey
          rcases hover with ⟨-, hmissed⟩ | ⟨-, hthrows⟩
          · exact hposted (hroom.missed i hmissed)
          · exact absurd hsucceeds hthrows

/-- A routine that would succeed is not called in vain for a call that was not
accepted: some routine has posted its message. -/
theorem posted_of_retried {requestId : RequestId} (hw : w.Unlogged (.request requestId))
    (hrest : ((history calls w).runs execHistory sched).AtRest)
    (hretried : Retried calls w sched (.request requestId) i)
    (hconversation : (calls i).InConversation) :
    ∃ j, (calls j).key = .request requestId ∧
      stages ((history calls w).runs execHistory sched).scene j = .posted := by
  have hattempts := attempts_runs calls w sched
  obtain ⟨before, later, rfl, hnot, hreturned⟩ := hretried.late
  -- What happens after the routine is called.
  have hlater : InCustody calls (.request requestId)
        ((history calls w).runs execHistory (before ++ later)).scene ∧
      Later calls (.request requestId)
        (stages ((history calls w).runs execHistory before).scene) i
        ((history calls w).runs execHistory (before ++ later)).scene := by
    rw [Conf.runs_append]
    refine ((licensed_history calls w).runs before).runs_inv
      (P := fun _ _ _ => True)
      (I := fun s => InCustody calls (.request requestId) s ∧ Later calls (.request requestId)
        (stages ((history calls w).runs execHistory before).scene) i s)
      (fun _ _ _ h hdue _ => ⟨h.1.after hdue, h.2.after h.1 hretried.mine hdue⟩)
      ⟨inCustody_runs calls hw before, fun j hj => hj, fun hlost => ?_⟩
      (Conf.meets_of_forall execHistory (fun _ _ _ => trivial) _ _)
    rw [stages, Conf.told_of_notMem hnot] at hlost
    cases hlost
  have hkey := hretried.mine
  have hsucceeds := hretried.succeeds
  rcases ended_of_returns hretried.returns with hlost | ⟨hposted, -⟩ | hended
  · obtain ⟨j, hj, hbefore, hfresh, hnotLost⟩ := hlater.2.beaten hlost
    refine ⟨j, hj, ?_⟩
    rcases ended_of_atRest hrest hfresh with hlost' | ⟨hposted, -⟩ | hended
    · exact absurd hlost' hnotLost
    · exact hposted
    · cases hcall : calls j with
      | finalize roomId publishing =>
          rw [hcall] at hj
          cases hj
      | record invite status publishing =>
          rw [hcall] at hended
          rcases hended with ⟨hfresh', -⟩ | ⟨hundone, -⟩
          · exact absurd hfresh' hfresh
          · -- It had given the key back before the routine was called.
            obtain ⟨-, entry, hmem⟩ := hattempts.tried j (.inr hundone)
            rw [hj] at hmem
            obtain ⟨a, ha⟩ := hreturned j entry _ hmem
            refine absurd ?_ hbefore
            rw [stages, ← Conf.told_of_done ha later, ← Conf.runs_append]
            exact hundone
  · exact ⟨i, hkey, hposted⟩
  · cases hcall : calls i with
    | finalize roomId publishing =>
        rw [hcall] at hkey
        cases hkey
    | record invite status publishing =>
        rw [hcall] at hended hsucceeds hconversation
        rcases hended with ⟨-, hnone⟩ | ⟨-, hthrows⟩
        · exact absurd hnone hconversation
        · exact absurd hsucceeds hthrows

/-- An accepted call is never logged twice, and a call that was not accepted only
if an attempt has thrown and left its message. Where a routine that would
succeed is called after those that throw have returned, the accepted call is
logged if and only if none has thrown without its message, and the other exactly
once if and only if none has thrown and left it. -/
theorem logged_once (calls : ι → HistoryCall) (w : HistoryWorld) (sched : List ι) :
    (∀ roomId, w.Unlogged (.room roomId) →
      ((history calls w).runs execHistory sched).scene.world.messages (.room roomId) ≤ 1) ∧
    (∀ requestId, w.Unlogged (.request requestId) →
      NoAttempt (.request requestId) .leaves
        ((history calls w).runs execHistory sched).scene →
      ((history calls w).runs execHistory sched).scene.world.messages (.request requestId) ≤ 1) ∧
    (((history calls w).runs execHistory sched).AtRest →
      (∀ roomId i, w.Unlogged (.room roomId) → w.calls.activeByRoom roomId ≠ none →
        Retried calls w sched (.room roomId) i →
          (((history calls w).runs execHistory sched).scene.world.messages (.room roomId) = 1 ↔
            NoAttempt (.room roomId) .rejects
              ((history calls w).runs execHistory sched).scene)) ∧
      ∀ requestId i, w.Unlogged (.request requestId) → (calls i).InConversation →
        Retried calls w sched (.request requestId) i →
          (((history calls w).runs execHistory sched).scene.world.messages
            (.request requestId) = 1 ↔
              NoAttempt (.request requestId) .leaves
                ((history calls w).runs execHistory sched).scene)) := by
  refine ⟨fun roomId hw => ?_, fun requestId hw hnone => ?_, fun hrest => ⟨?_, ?_⟩⟩
  · obtain ⟨hcustody, -, hleft⟩ := leftOnce_runs calls hw sched
    exact hleft.messages_le_one hcustody
  · have hle := (inCustody_runs calls hw sched).le_succ
    rwa [leftFor_eq_zero_iff.mpr hnone] at hle
  · intro roomId i hw hactive hretried
    exact finalize_logged_iff hw hactive hrest hretried
  · intro requestId i hw hconversation hretried
    rw [(inCustody_runs calls hw sched).eq_succ_iff.mpr
      (posted_of_retried hw hrest hretried hconversation), Nat.add_eq_right, leftFor_eq_zero_iff]

end Runs

namespace Sample

def hugo : UserId := ⟨"hugo", by decide⟩
def loft : RoomId := ⟨"loft", by decide⟩
def ring : RequestId := ⟨"ring", by decide⟩
def chat : ConversationId := ⟨"chat", by decide⟩

def accepted : ActiveConnectionCallMeta where
  conversationId := some chat
  callerUserId := some hugo
  calleeUserId := none
  mode := .audio
  acceptedAt := 0
  requestId := ring

/-- A call is going on in the loft. -/
def ongoing : HistoryWorld where
  calls := { activeByRoom := fun roomId => if roomId = loft then some accepted else none }
  clock _ := 60000

inductive HangUps
  | sooner
  | later
  deriving DecidableEq

/-- The first cannot publish. -/
def hangUps : HangUps → HistoryCall
  | .sooner => .finalize loft .rejects
  | .later => .finalize loft .returns

def inTurn : List HangUps := List.replicate 4 .sooner ++ List.replicate 2 .later

theorem retried_hangUps : Retried hangUps ongoing inTurn (.room loft) .later where
  mine := rfl
  succeeds := rfl
  returns := ⟨_, rfl⟩
  late := by
    refine ⟨List.replicate 4 .sooner, List.replicate 2 .later, rfl, by decide, ?_⟩
    intro j entry publishing hmem
    cases j with
    | sooner => exact ⟨_, rfl⟩
    | later =>
        have hover := ((attempts_runs hangUps ongoing inTurn).ended .later _ entry publishing
          false (.inr rfl) hmem).2.2
        exact absurd hover (by decide +kernel)

def invite : InviteRecord where
  requestId := ring
  roomId := loft
  conversationId := some chat
  callerUserId := some hugo
  calleeUserId := none
  mode := .audio
  status := some .missed
  createdAt := none

/-- Nobody answered, and publishing the first report of it throws. -/
def reports (first : Publishing) : HangUps → HistoryCall
  | .sooner => .record invite .missed first
  | .later => .record invite .missed .returns

def reported : List HangUps := List.replicate 3 .sooner ++ List.replicate 2 .later

/-- The claim of the call that has failed stands, and the call is never logged;
a report whose message is there is published again. -/
theorem not_logged_hangUps :
    (((history hangUps ongoing).runs execHistory inTurn).AtRest ∧
      Retried hangUps ongoing inTurn (.room loft) .later ∧
      ((history hangUps ongoing).runs execHistory inTurn).scene.world.messages
        (.room loft) = 0) ∧
      ((history (reports .leaves) ongoing).runs execHistory reported).scene.world.messages
        (.request ring) = 2 := by
  refine ⟨⟨fun i => .inl ?_, retried_hangUps, by decide +kernel⟩, by decide +kernel⟩
  cases i with
  | sooner => exact ⟨_, rfl⟩
  | later => exact ⟨_, rfl⟩

theorem retried_reports : Retried (reports .rejects) ongoing reported (.request ring) .later where
  mine := rfl
  succeeds := rfl
  returns := ⟨_, rfl⟩
  late := by
    refine ⟨List.replicate 3 .sooner, List.replicate 2 .later, rfl, by decide, ?_⟩
    intro j entry publishing hmem
    cases j with
    | sooner => exact ⟨_, rfl⟩
    | later =>
        have hover := ((attempts_runs (reports .rejects) ongoing reported).ended .later _ entry
          publishing false (.inr rfl) hmem).2.2
        exact absurd hover (by decide +kernel)

/-- The claim is given back, and the second report is published. -/
theorem logged_reports :
    ((history (reports .rejects) ongoing).runs execHistory reported).scene.world.messages
      (.request ring) = 1 := by
  refine (((logged_once (reports .rejects) ongoing reported).2.2 (fun i => .inl ?_)).2 ring .later
    ⟨rfl, Bool.false_ne_true⟩ (Option.some_ne_none chat) retried_reports).mpr ?_
  · cases i with
    | sooner => exact ⟨_, rfl⟩
    | later => exact ⟨_, rfl⟩
  · unfold NoAttempt
    decide +kernel

end Sample

end Greetup.Calls.History
