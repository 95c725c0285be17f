import Greetup.Chat.PeerConversation

/-!
The conversations of a pair of users, and what the statements find of them and
change about them.
-/

namespace Greetup.Chat

open Connections (UserId ConnectionId)
open Rooms (RoomId)

/-- It is a conversation of exactly these two. -/
def Between (a b : UserId) (w : Backend) (id : ConversationId) : Prop :=
  (∃ row ∈ w.chat.conversations.rows, row.id = id ∧ row.isPeer) ∧
    ∀ userId, userId ∈ w.chat.participantsOf id ↔ userId = a ∨ userId = b

/-- The two have at most one conversation. -/
def OneConversation (a b : UserId) (w : Backend) : Prop :=
  ∀ id id', Between a b w id → Between a b w id' → id = id'

/-- If the conversation exists, it is one of two users. -/
def IsPeerIn (w : Backend) (id : ConversationId) : Prop :=
  ∀ row ∈ w.chat.conversations.rows, row.id = id → row.isPeer

/-- From `w` to `w'` neither conversations nor participants have changed. -/
def SameConversations (w w' : Backend) : Prop :=
  w'.chat.conversations = w.chat.conversations ∧ w'.chat.participants = w.chat.participants

section Rows

variable {a b : UserId} {w w' : Backend} {id target : ConversationId}

theorem SameConversations.between (h : SameConversations w w') :
    Between a b w' id ↔ Between a b w id := by
  rw [Between, Between, World.participantsOf, World.participantsOf, h.1, h.2]

theorem SameConversations.isPeerIn (h : SameConversations w w') :
    IsPeerIn w' id ↔ IsPeerIn w id := by
  rw [IsPeerIn, IsPeerIn, h.1]

theorem mem_participantsOf {userId : UserId} : userId ∈ w.chat.participantsOf id ↔
    ∃ row ∈ w.chat.participants.rows, row.conversationId = id ∧ row.userId = userId := by
  simp [World.participantsOf, and_assoc]

/-! ### What the statements find -/

theorem mem_conversationIdsOf {userId : UserId} (h : Between a b w id)
    (huser : userId = a ∨ userId = b) : id ∈ w.conversationIdsOf userId := by
  obtain ⟨row, hrow, hid, huser⟩ := mem_participantsOf.mp ((h.2 userId).mpr huser)
  rw [Backend.conversationIdsOf, List.mem_map]
  exact ⟨row, List.mem_filter.mpr ⟨hrow, decide_eq_true huser⟩, hid⟩

/-- Whatever order the rows come in, one of them comes first. -/
theorem Arrangement.mem_of_head? {ρ : Type} {planner : Arrangement ρ} {rows : List ρ} {row : ρ}
    (h : (planner.arrange rows).head? = some row) : row ∈ rows :=
  (planner.perm rows).mem_iff.mp (List.mem_of_mem_head? h)

theorem Arrangement.eq_nil_of_head? {ρ : Type} {planner : Arrangement ρ} {rows : List ρ}
    (h : (planner.arrange rows).head? = none) : rows = [] := by
  rw [List.head?_eq_none_iff] at h
  exact List.perm_nil.mp ((planner.perm rows).symm.trans (.of_eq h))

/-! ### What the statements change -/

/-- The change makes no conversation of two into another, and creates one for
the pair in `created` only, if those in `targets` are conversations of two. -/
structure Safe (a b : UserId) (targets created : ConversationId → Prop)
    (change : Backend → Backend) : Prop where
  isPeerIn : ∀ w, (∀ id, targets id → IsPeerIn w id) → ∀ id, IsPeerIn w id → IsPeerIn (change w) id
  between : ∀ w, (∀ id, targets id → IsPeerIn w id) →
    ∀ id, Between a b (change w) id → Between a b w id ∨ created id
  rooms : ∀ w, (change w).roomParticipants = w.roomParticipants

theorem Safe.mono {targets targets' created created' : ConversationId → Prop}
    {change : Backend → Backend} (h : Safe a b targets created change)
    (htargets : ∀ id, targets id → targets' id) (hcreated : ∀ id, created id → created' id) :
    Safe a b targets' created' change where
  isPeerIn w hw := h.isPeerIn w fun id hid => hw id (htargets id hid)
  between w hw id hid := (h.between w (fun id hid => hw id (htargets id hid)) id hid).imp_right
    (hcreated id)
  rooms := h.rooms

/-- All that a transaction has written. -/
theorem Safe.foldr {targets created : ConversationId → Prop}
    {changes : List (Backend → Backend)} (h : ∀ change ∈ changes, Safe a b targets created change)
    (hw : ∀ id, targets id → IsPeerIn w id) :
    (∀ id, IsPeerIn w id → IsPeerIn (changes.foldr (fun change w => change w) w) id) ∧
      (∀ id, Between a b (changes.foldr (fun change w => change w) w) id →
        Between a b w id ∨ created id) ∧
      (changes.foldr (fun change w => change w) w).roomParticipants = w.roomParticipants := by
  induction changes with
  | nil => exact ⟨fun _ h => h, fun _ h => .inl h, rfl⟩
  | cons change changes ih =>
      obtain ⟨hpeer, hbetween, hrooms⟩ := ih fun c hc => h c (List.mem_cons_of_mem _ hc)
      have hsafe := h change List.mem_cons_self
      have hw' := fun id hid => hpeer id (hw id hid)
      refine ⟨fun id hid => hsafe.isPeerIn _ hw' id (hpeer id hid), fun id hid => ?_,
        (hsafe.rooms _).trans hrooms⟩
      rcases hsafe.between _ hw' id hid with hid | hid
      · exact hbetween id hid
      · exact .inr hid

theorem mem_updateConversation {f : ConversationRow → ConversationRow}
    {hf : ∀ row, (f row).id = row.id} {row' : ConversationRow} :
    row' ∈ (w.updateConversation target f hf).chat.conversations.rows ↔
      ∃ row ∈ w.chat.conversations.rows, (if row.id = target then f row else row) = row' := by
  show row' ∈ (w.chat.conversations.update _ f hf).rows ↔ _
  rw [Sql.Table.mem_update]
  simp only [decide_eq_true_eq]

/-- A conversation of two remains one; no other becomes one, unless it is among
the targets. -/
theorem safe_updateConversation {f : ConversationRow → ConversationRow}
    {hf : ∀ row, (f row).id = row.id} {targets : ConversationId → Prop}
    (hpeer : ∀ row, row.isPeer → (f row).isPeer)
    (hback : targets target ∨ ∀ row, (f row).isPeer → row.isPeer) :
    Safe a b targets (fun _ => False) (·.updateConversation target f hf) where
  isPeerIn w _ id hid row' hrow' hrowid := by
    obtain ⟨row, hrow, rfl⟩ := mem_updateConversation.mp hrow'
    split at hrowid
    · rename_i htarget
      rw [if_pos htarget]
      exact hpeer row (hid row hrow ((hf row).symm.trans hrowid))
    · rename_i htarget
      rw [if_neg htarget]
      exact hid row hrow hrowid
  between w hw id hid := by
    obtain ⟨⟨row', hrow', hrowid, hrowpeer⟩, husers⟩ := hid
    obtain ⟨row, hrow, rfl⟩ := mem_updateConversation.mp hrow'
    refine .inl ⟨⟨row, hrow, ?_⟩, husers⟩
    split at hrowid
    · rename_i htarget
      rw [if_pos htarget] at hrowpeer
      refine ⟨(hf row).symm.trans hrowid, ?_⟩
      rcases hback with hback | hback
      · exact hw target hback row hrow htarget
      · exact hback row hrowpeer
    · rename_i htarget
      rw [if_neg htarget] at hrowpeer
      exact ⟨hrowid, hrowpeer⟩
  rooms _ := rfl

theorem safe_insertConversation {row : ConversationRow} (h : row.isPeer) :
    Safe a b (fun _ => False) (· = row.id) (·.insertConversation row) where
  isPeerIn w _ id hid := by
    rw [Backend.insertConversation]
    split
    · intro row' hrow' hrowid
      rcases List.mem_cons.mp hrow' with rfl | hrow'
      · exact h
      · exact hid row' hrow' hrowid
    · exact hid
  between w _ id := by
    rw [Backend.insertConversation]
    split
    · rintro ⟨⟨row', hrow', hrowid, hpeer⟩, husers⟩
      rcases List.mem_cons.mp hrow' with rfl | hrow'
      · exact .inr hrowid.symm
      · exact .inl ⟨⟨row', hrow', hrowid, hpeer⟩, husers⟩
    · exact .inl
  rooms w := by
    rw [Backend.insertConversation]
    split <;> rfl

end Rows

section Participants

variable {a b : UserId} {w : Backend} {id target : ConversationId}

theorem mem_insertParticipant {row row' : ParticipantRow} :
    row' ∈ (w.insertParticipant row).chat.participants.rows ↔
      row' ∈ w.chat.participants.rows ∨
        row' = row ∧ row.key ∉ w.chat.participants.rows.map ParticipantRow.key := by
  show row' ∈ (w.chat.participants.insert row id _).rows ↔ _
  rw [Sql.Table.insert]
  split
  · rename_i hkey
    rw [Sql.Table.mem_update]
    simp [hkey]
  · rename_i hkey
    rw [List.mem_cons]
    simp [hkey, or_comm]

theorem insertParticipants_conversations (target : ConversationId) (userIds : List UserId) :
    (w.insertParticipants target userIds).chat.conversations = w.chat.conversations := by
  induction userIds generalizing w with
  | nil => rfl
  | cons user userIds ih => exact ih

theorem insertParticipants_roomParticipants (target : ConversationId) (userIds : List UserId) :
    (w.insertParticipants target userIds).roomParticipants = w.roomParticipants := by
  induction userIds generalizing w with
  | nil => rfl
  | cons user userIds ih => exact ih

/-- Of another conversation there are the same participants. -/
theorem mem_participantsOf_insertParticipants (hne : id ≠ target) (userIds : List UserId)
    (userId : UserId) :
    userId ∈ (w.insertParticipants target userIds).chat.participantsOf id ↔
      userId ∈ w.chat.participantsOf id := by
  induction userIds generalizing w with
  | nil => exact Iff.rfl
  | cons user userIds ih =>
      refine ih.trans ?_
      rw [mem_participantsOf, mem_participantsOf]
      constructor
      · rintro ⟨row, hrow, hid, huser⟩
        rcases mem_insertParticipant.mp hrow with hrow | ⟨rfl, -⟩
        · exact ⟨row, hrow, hid, huser⟩
        · exact absurd hid.symm hne
      · rintro ⟨row, hrow, hid, huser⟩
        exact ⟨row, mem_insertParticipant.mpr (.inl hrow), hid, huser⟩

theorem safe_insertParticipants (userIds : List UserId) :
    Safe a b (fun _ => False) (· = target) (·.insertParticipants target userIds) where
  isPeerIn w _ id hid row hrow := by
    rw [insertParticipants_conversations] at hrow
    exact hid row hrow
  between w _ id hid := by
    by_cases hne : id = target
    · exact .inr hne
    · refine .inl ⟨?_, fun userId => ?_⟩
      · rw [← insertParticipants_conversations target userIds]
        exact hid.1
      · exact (mem_participantsOf_insertParticipants hne userIds userId).symm.trans (hid.2 userId)
  rooms w := insertParticipants_roomParticipants target userIds

end Participants

end Greetup.Chat
