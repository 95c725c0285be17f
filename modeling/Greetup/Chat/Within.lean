import Greetup.Chat.Socket

/-!
Which conversation and which message the handler of an event may change. It
names no conversation but the one that the client has named, and changes no
message but that one.
-/

namespace Greetup.Chat

open Interleaving Prog
open Connections (UserId)

/-! ### What belongs to a conversation -/

namespace World

variable (w : World) (conversationId : ConversationId)

def messagesIn : List MessageRow := w.messages.rows.filter (·.conversationId = conversationId)

/-- The message belongs to the conversation. -/
def Holds (messageId : MessageId) : Prop :=
  messageId ∈ (w.messagesIn conversationId).map MessageRow.id

instance : DecidablePred (w.Holds conversationId) :=
  fun messageId => inferInstanceAs (Decidable (messageId ∈ _))

def reactionsIn : List ReactionRow := w.reactions.filter (w.Holds conversationId ·.messageId)

def receiptsIn : List (MessageId × UserId) := w.receipts.filter (w.Holds conversationId ·.1)

def participantsIn : List ParticipantRow :=
  w.participants.rows.filter (·.conversationId = conversationId)

end World

theorem holds_congr {w w' : World} {conversationId : ConversationId}
    (h : w'.messagesIn conversationId = w.messagesIn conversationId) (messageId : MessageId) :
    w'.Holds conversationId messageId ↔ w.Holds conversationId messageId := by
  rw [World.Holds, World.Holds, h]

/-! ### What no command changes -/

section Members

variable {id target : ConversationId}

theorem exec_conversations (c : Cmd) (w : World) :
    (exec c w).2.conversations = w.conversations := by
  cases c with
  | insertMessage conversationId senderId messageType content =>
      rw [exec, World.insertMessage]
      dsimp only
      split <;> rfl
  | insertReaction | insertReceipt =>
      rw [exec]
      split <;> rfl
  | _ => rfl

theorem participantsOf_eq (w : World) (id : ConversationId) : w.participantsOf id =
    ((w.participants.rows.map ParticipantRow.key).filter (·.1 = id)).map Prod.snd := by
  rw [World.participantsOf, List.filter_map, List.map_map]
  rfl

/-- An update changes nobody's key. -/
theorem participantsOf_updateParticipant (w : World) (user : UserId)
    {f : ParticipantRow → ParticipantRow} (hf : ∀ row, (f row).key = row.key) :
    (w.updateParticipant target user f hf).participantsOf id = w.participantsOf id := by
  have hkeys : (w.updateParticipant target user f hf).participants.rows.map ParticipantRow.key =
      w.participants.rows.map ParticipantRow.key := by
    show (w.participants.rows.map _).map ParticipantRow.key = _
    rw [List.map_map]
    refine List.map_congr_left fun row _ => ?_
    show ParticipantRow.key (if _ then f row else row) = row.key
    split
    · exact hf row
    · rfl
  rw [participantsOf_eq, participantsOf_eq, hkeys]

theorem exec_participantsOf (c : Cmd) (w : World) :
    (exec c w).2.participantsOf id = w.participantsOf id := by
  cases c with
  | rejoin conversationId user =>
      exact participantsOf_updateParticipant (f := ({ · with leftAt := none })) w user fun _ => rfl
  | updateLastRead conversationId user messageId =>
      exact participantsOf_updateParticipant
        (f := ({ · with lastReadMessageId := some messageId })) w
        user fun _ => rfl
  | insertMessage conversationId senderId messageType content =>
      rw [exec, World.insertMessage]
      dsimp only
      split <;> rfl
  | insertReaction | insertReceipt =>
      rw [exec]
      split <;> rfl
  | _ => rfl

end Members

/-- What was sent from `w` to `w'` satisfies `D`. -/
def SendsOnly (D : Delivery → Prop) (w w' : World) : Prop :=
  ∃ new, w'.sent = w.sent ++ new ∧ ∀ delivery ∈ new, D delivery

section SendsOnly

variable {D : Delivery → Prop} {w w' w'' : World}

theorem sendsOnly_of_sent (h : w'.sent = w.sent) : SendsOnly D w w' :=
  ⟨[], by rw [h, List.append_nil], by simp⟩

theorem SendsOnly.trans (h : SendsOnly D w w') (h' : SendsOnly D w' w'') : SendsOnly D w w'' := by
  obtain ⟨new, hnew, hD⟩ := h
  obtain ⟨new', hnew', hD'⟩ := h'
  refine ⟨new ++ new', by rw [hnew', hnew, List.append_assoc], ?_⟩
  intro delivery hmem
  rcases List.mem_append.mp hmem with hmem | hmem
  · exact hD delivery hmem
  · exact hD' delivery hmem

end SendsOnly

/-- From `w` to `w'` nothing has changed in the conversation, nothing was sent
to those who are in it, and no socket has joined it. -/
structure Spares (conversationId : ConversationId) (w w' : World) : Prop where
  messages : w'.messagesIn conversationId = w.messagesIn conversationId
  reactions : w'.reactionsIn conversationId = w.reactionsIn conversationId
  receipts : w'.receiptsIn conversationId = w.receiptsIn conversationId
  participants : w'.participantsIn conversationId = w.participantsIn conversationId
  unread : ∀ userId, w'.unread userId conversationId = w.unread userId conversationId
  joined : ∀ socketId, conversationId ∈ w'.joined socketId → conversationId ∈ w.joined socketId
  sent : SendsOnly (·.audience.conversationId ≠ some conversationId) w w'

namespace Spares

variable {conversationId : ConversationId} {w w' w'' : World}

theorem refl (w : World) : Spares conversationId w w :=
  ⟨rfl, rfl, rfl, rfl, fun _ => rfl, fun _ h => h, sendsOnly_of_sent rfl⟩

theorem trans (h : Spares conversationId w w') (h' : Spares conversationId w' w'') :
    Spares conversationId w w'' where
  messages := h'.messages.trans h.messages
  reactions := h'.reactions.trans h.reactions
  receipts := h'.receipts.trans h.receipts
  participants := h'.participants.trans h.participants
  unread userId := (h'.unread userId).trans (h.unread userId)
  joined socketId hmem := h.joined socketId (h'.joined socketId hmem)
  sent := h.sent.trans h'.sent

theorem holds_iff (h : Spares conversationId w w') (messageId : MessageId) :
    w'.Holds conversationId messageId ↔ w.Holds conversationId messageId :=
  holds_congr h.messages messageId

end Spares

/-! ### Commands -/

/-- The conversation that a command changes, or by which it chooses whom to send
something to. -/
def Cmd.names : Cmd → Option ConversationId
  | .rejoin conversationId _ | .updateLastRead conversationId _ _
  | .insertMessage conversationId _ _ _ | .incrUnread _ conversationId
  | .resetUnread _ conversationId | .join _ conversationId => some conversationId
  | .emit delivery => delivery.audience.conversationId
  | _ => none

/-- The message that a command changes. -/
def Cmd.changes : Cmd → Option MessageId
  | .updateContent messageId _ | .softDelete messageId _ | .insertReceipt messageId _ =>
      some messageId
  | .insertReaction row | .deleteReaction row => some row.messageId
  | _ => none

/-- The command names no other conversation and changes no other message. -/
def Cmd.Within (conversationId : ConversationId) (messageId : Option MessageId) (c : Cmd) : Prop :=
  (∀ named, c.names = some named → named = conversationId) ∧
    ∀ changed, c.changes = some changed → messageId = some changed

/-- The command sends nothing and leaves the conversations and their participants
as they are. -/
def Cmd.Quiet : Cmd → Prop
  | .rejoin _ _ | .updateLastRead _ _ _ | .emit _ => False
  | _ => True

/-- The command changes something in the conversation, or sends something to
those who are in it. -/
def Cmd.Touches (conversationId : ConversationId) (w : World) (c : Cmd) : Prop :=
  c.names = some conversationId ∨ ∃ changed, c.changes = some changed ∧
    w.Holds conversationId changed

section Exec

variable {conversationId named : ConversationId} {w : World}

theorem filter_insert_of_neg {α : Type} [BEq α] [LawfulBEq α] {q : α → Bool} {a : α} (l : List α)
    (h : q a = false) : (l.insert a).filter q = l.filter q := by
  by_cases hmem : a ∈ l
  · rw [List.insert_of_mem hmem]
  · rw [List.insert_of_not_mem hmem, List.filter_cons_of_neg (by simp [h])]

/-- Nothing but messages has changed. -/
structure SameButMessages (w w' : World) : Prop where
  reactions : w'.reactions = w.reactions
  receipts : w'.receipts = w.receipts
  participants : w'.participants = w.participants
  unread : w'.unread = w.unread
  joined : w'.joined = w.joined
  sent : w'.sent = w.sent

theorem SameButMessages.spares {w' : World} (h : SameButMessages w w')
    (hmessages : w'.messagesIn conversationId = w.messagesIn conversationId) :
    Spares conversationId w w' where
  messages := hmessages
  reactions := by
    rw [World.reactionsIn, World.reactionsIn, h.reactions]
    exact List.filter_congr fun row _ => decide_eq_decide.mpr (holds_congr hmessages _)
  receipts := by
    rw [World.receiptsIn, World.receiptsIn, h.receipts]
    exact List.filter_congr fun row _ => decide_eq_decide.mpr (holds_congr hmessages _)
  participants := by rw [World.participantsIn, World.participantsIn, h.participants]
  unread userId := by rw [h.unread]
  joined socketId hmem := by rwa [← h.joined]
  sent := sendsOnly_of_sent h.sent

theorem spares_updateParticipant (h : named ≠ conversationId) (userId : UserId)
    (f : ParticipantRow → ParticipantRow) (hf : ∀ row, (f row).key = row.key) :
    Spares conversationId w (w.updateParticipant named userId f hf) :=
  { Spares.refl w with
    participants := by
      show (w.participants.update _ f hf).rows.filter _ = w.participants.rows.filter _
      refine Sql.Table.filter_update (fun row => ?_) fun row _ hkey => ?_
      · rw [show (f row).conversationId = row.conversationId from congrArg Prod.fst (hf row)]
      · have hnamed : row.conversationId = named :=
          congrArg Prod.fst (of_decide_eq_true hkey : row.key = (named, userId))
        rw [hnamed]
        exact decide_eq_false h }

theorem spares_updateMessage {messageId : MessageId} (h : ¬ w.Holds conversationId messageId)
    (f : MessageRow → MessageRow) (hf : ∀ row, (f row).id = row.id)
    (hconv : ∀ row, (f row).conversationId = row.conversationId) :
    Spares conversationId w (w.updateMessage messageId f hf) := by
  have hmessages : (w.updateMessage messageId f hf).messagesIn conversationId =
      w.messagesIn conversationId := by
    show (w.messages.update _ f hf).rows.filter _ = w.messages.rows.filter _
    refine Sql.Table.filter_update (fun row => by rw [hconv]) fun row hmem hid => ?_
    refine decide_eq_false fun hrow => h ?_
    rw [← of_decide_eq_true hid]
    exact List.mem_map_of_mem (List.mem_filter.mpr ⟨hmem, decide_eq_true hrow⟩)
  have hsame : SameButMessages w (w.updateMessage messageId f hf) := ⟨rfl, rfl, rfl, rfl, rfl, rfl⟩
  exact hsame.spares hmessages

theorem spares_insertMessage (h : named ≠ conversationId) (senderId : UserId)
    (messageType : MessageType) (content : Option String) :
    Spares conversationId w (w.insertMessage named senderId messageType content).2 := by
  have hmessages :
      (w.insertMessage named senderId messageType content).2.messagesIn conversationId =
      w.messagesIn conversationId := by
    rw [World.insertMessage]
    dsimp only
    split
    · exact List.filter_cons_of_neg (by simpa using h)
    · rfl
  have hsame : SameButMessages w (w.insertMessage named senderId messageType content).2 := by
    rw [World.insertMessage]
    dsimp only
    split
    · exact ⟨rfl, rfl, rfl, rfl, rfl, rfl⟩
    · exact ⟨rfl, rfl, rfl, rfl, rfl, rfl⟩
  exact hsame.spares hmessages

theorem spares_setUnread (h : named ≠ conversationId) (userId : UserId) (count : ℕ) :
    Spares conversationId w { w with
      unread := Function.update w.unread userId
        (Function.update (w.unread userId) named count) } :=
  { Spares.refl w with
    unread := fun userId' => by
      show Function.update w.unread userId _ userId' conversationId = _
      by_cases huser : userId' = userId
      · rw [huser, Function.update_self, Function.update_of_ne h.symm]
      · rw [Function.update_of_ne huser] }

/-- What a command does not touch it spares. -/
theorem exec_spares {c : Cmd} (h : ¬ c.Touches conversationId w) :
    Spares conversationId w (exec c w).2 := by
  rw [Cmd.Touches, not_or, not_exists] at h
  obtain ⟨hnames, hchanges⟩ := h
  cases c with
  | rejoin named userId =>
      exact spares_updateParticipant (fun heq => hnames (congrArg some heq)) userId _ _
  | updateLastRead named userId messageId =>
      exact spares_updateParticipant (fun heq => hnames (congrArg some heq)) userId _ _
  | insertMessage named senderId messageType content =>
      exact spares_insertMessage (fun heq => hnames (congrArg some heq)) _ _ _
  | updateContent messageId content =>
      exact spares_updateMessage (fun hholds => hchanges _ ⟨rfl, hholds⟩) _ _ fun _ => rfl
  | softDelete messageId deleteForAll =>
      exact spares_updateMessage (fun hholds => hchanges _ ⟨rfl, hholds⟩) _ _ fun _ => rfl
  | insertReaction row =>
      have hrow : ¬ w.Holds conversationId row.messageId := fun hholds => hchanges _ ⟨rfl, hholds⟩
      rw [exec]
      split
      · exact { Spares.refl w with
          reactions := filter_insert_of_neg _ (decide_eq_false hrow) }
      · exact Spares.refl w
  | deleteReaction row =>
      have hrow : ¬ w.Holds conversationId row.messageId := fun hholds => hchanges _ ⟨rfl, hholds⟩
      have hkept : (w.reactions.filter (· ≠ row)).filter (w.Holds conversationId ·.messageId) =
          w.reactionsIn conversationId := by
        rw [World.reactionsIn, List.filter_filter]
        refine List.filter_congr fun row' _ => ?_
        by_cases heq : row' = row
        · subst heq
          simp [hrow]
        · simp [heq]
      exact { Spares.refl w with reactions := hkept }
  | insertReceipt messageId userId =>
      have hrow : ¬ w.Holds conversationId messageId := fun hholds => hchanges _ ⟨rfl, hholds⟩
      rw [exec]
      split
      · have hkept : (w.receipts.insert (messageId, userId)).filter
            (fun receipt => w.Holds conversationId receipt.1) = w.receiptsIn conversationId :=
          filter_insert_of_neg w.receipts (decide_eq_false hrow)
        exact { Spares.refl w with receipts := hkept }
      · exact Spares.refl w
  | incrUnread userId named =>
      exact spares_setUnread (fun heq => hnames (congrArg some heq)) userId _
  | resetUnread userId named =>
      exact spares_setUnread (fun heq => hnames (congrArg some heq)) userId _
  | join socketId named =>
      refine { Spares.refl w with joined := fun socketId' hmem => ?_ }
      have hmem : conversationId ∈
          Function.update w.joined socketId (insert named (w.joined socketId)) socketId' := hmem
      rw [Function.update_apply] at hmem
      split at hmem
      · rename_i hsocket
        rw [hsocket]
        refine Finset.mem_of_mem_insert_of_ne hmem fun heq => hnames ?_
        rw [heq]
        rfl
      · exact hmem
  | leave socketId named =>
      refine { Spares.refl w with joined := fun socketId' hmem => ?_ }
      have hmem : conversationId ∈
          Function.update w.joined socketId ((w.joined socketId).erase named) socketId' := hmem
      rw [Function.update_apply] at hmem
      split at hmem
      · rename_i hsocket
        rw [hsocket]
        exact Finset.mem_of_mem_erase hmem
      · exact hmem
  | emit delivery =>
      exact { Spares.refl w with
        sent := ⟨[delivery], rfl, by
          intro delivery' hmem
          rw [List.mem_singleton.mp hmem]
          exact hnames⟩ }
  | setTyping | incrMessageRate => exact { Spares.refl w with }
  | hasParticipantRecord | isParticipant | findConversation | isBlockedBy | findMessage
  | getReactions | getUnread => exact Spares.refl w

/-- A command about another conversation, and not about a message of this one. -/
theorem Cmd.Within.not_touches {messageId : Option MessageId} {c : Cmd}
    (h : c.Within named messageId)
    (hne : named ≠ conversationId) (hheld : ∀ m, messageId = some m → ¬ w.Holds conversationId m) :
    ¬ c.Touches conversationId w := by
  rintro (hnames | ⟨changed, hchanges, hholds⟩)
  · exact hne (h.1 _ hnames).symm
  · exact hheld changed (h.2 _ hchanges) hholds

end Exec

/-! ### Programs -/

section Uses

variable {P : Cmd → Prop} {conversationId : ConversationId} {messageId : Option MessageId}
  {α β : Type}

theorem Uses.continueWith {f : α → M (Thrown β)} (hf : ∀ a, (f a).Uses P) :
    ∀ r, (Chat.continueWith f r).Uses P
  | .error _ => trivial
  | .ok a => hf a

theorem uses_emitToParticipantUsers {event : ServerEvent} {userIds : List UserId}
    (h : ∀ userId ∈ userIds, P (.emit ⟨.participant conversationId userId, event⟩)) :
    (emitToParticipantUsers conversationId event userIds).Uses P := by
  induction userIds with
  | nil => trivial
  | cons userId userIds ih =>
      exact ⟨h userId List.mem_cons_self,
        fun _ => ih fun userId' hmem => h userId' (List.mem_cons_of_mem _ hmem)⟩

theorem uses_announceToAll (senderId : UserId) {userIds : List UserId}
    (hemit : ∀ userId ∈ userIds, ∀ event, event.operatedOn = none →
      P (.emit ⟨.participant conversationId userId, event⟩))
    (hunread : ∀ userId, P (.getUnread userId conversationId)) :
    (announceToAll conversationId senderId userIds).Uses P := by
  induction userIds with
  | nil => trivial
  | cons userId userIds ih =>
      have hhead := hemit userId List.mem_cons_self
      have hrest := ih fun userId' hmem => hemit userId' (List.mem_cons_of_mem _ hmem)
      refine Uses.bind ⟨hhead _ rfl, fun _ => ?_⟩ fun _ => hrest
      show (if userId = senderId then _ else syncUnread conversationId userId : M Unit).Uses P
      split
      · trivial
      · exact ⟨hunread userId, fun _ => ⟨hhead _ rfl, fun _ => trivial⟩⟩

/-- Guards only read. -/
theorem uses_assertCanMessageInConversation (senderId : UserId)
    (hfind : P (.findConversation conversationId)) (hblocked : ∀ a b, P (.isBlockedBy a b)) :
    (assertCanMessageInConversation conversationId senderId).Uses P := by
  refine ⟨hfind, fun conversation => ?_⟩
  cases conversation with
  | none => trivial
  | some conversation =>
      show (assertNotBlocked senderId (some conversation)).Uses P
      rw [assertNotBlocked]
      split
      · trivial
      · refine ⟨hblocked _ _, fun youBlocked => ⟨hblocked _ _, fun blockedYou => ?_⟩⟩
        show (if youBlocked || blockedYou then _ else _ : M (Thrown Unit)).Uses P
        split <;> trivial

end Uses

section Within

variable {conversationId : ConversationId} {messageId : MessageId} {m : Option MessageId}
  {senderId userId : UserId}

theorem within_assertCanMessage (named : ConversationId) :
    (assertCanMessageInConversation named senderId).Uses
      fun c => c.Within conversationId m ∧ c.Quiet :=
  uses_assertCanMessageInConversation senderId
    (by simp [Cmd.Within, Cmd.names, Cmd.changes, Cmd.Quiet])
    fun _ _ => by simp [Cmd.Within, Cmd.names, Cmd.changes, Cmd.Quiet]

theorem within_countForAll (userIds : List UserId) :
    (countForAll conversationId senderId userIds).Uses (Cmd.Within conversationId m) := by
  induction userIds with
  | nil => trivial
  | cons userId userIds ih =>
      refine Uses.bind ?_ fun _ => ih
      rw [countFor]
      split
      · trivial
      · exact ⟨by simp [Cmd.Within, Cmd.names, Cmd.changes],
          fun _ => ⟨by simp [Cmd.Within, Cmd.names, Cmd.changes], fun _ => trivial⟩⟩

theorem within_insertAndCount (messageType : MessageType) (content : Option String) :
    (insertAndCount conversationId senderId messageType content).Uses
      (Cmd.Within conversationId m) := by
  refine ⟨by simp [Cmd.Within, Cmd.names, Cmd.changes], fun message => ?_⟩
  cases message with
  | none => trivial
  | some message =>
      refine ⟨by simp [Cmd.Within, Cmd.names, Cmd.changes], fun conversation => ?_⟩
      show (countForOthers conversationId senderId conversation >>= _).Uses _
      refine Uses.bind ?_ fun _ => trivial
      cases conversation with
      | none => trivial
      | some conversation => exact within_countForAll conversation.participants

theorem within_send (messageType : MessageType) (content : String) :
    (send conversationId senderId messageType content).Uses (Cmd.Within conversationId m) := by
  refine ⟨by simp [Cmd.Within, Cmd.names, Cmd.changes], fun canAccess => ?_⟩
  show (sendAs conversationId senderId messageType content canAccess >>= _).Uses _
  refine Uses.bind ?_ fun _ => trivial
  rw [sendAs]
  split
  · refine ⟨by simp [Cmd.Within, Cmd.names, Cmd.changes], fun _ => ?_⟩
    exact ((within_assertCanMessage conversationId).mono fun _ h => h.1).bind
      (Uses.continueWith fun _ => within_insertAndCount messageType _)
  · trivial

theorem within_markRead :
    (markRead conversationId messageId userId).Uses
      (Cmd.Within conversationId (some messageId)) := by
  refine ⟨by simp [Cmd.Within, Cmd.names, Cmd.changes], fun inserted => ?_⟩
  show (markReadAs conversationId messageId userId inserted).Uses _
  rw [markReadAs]
  split
  · exact ⟨by simp [Cmd.Within, Cmd.names, Cmd.changes],
      fun _ => ⟨by simp [Cmd.Within, Cmd.names, Cmd.changes], fun _ => trivial⟩⟩
  · trivial

theorem within_editMessage (conversationId : ConversationId) (content : String) :
    (editMessage messageId senderId content).Uses
      fun c => c.Within conversationId (some messageId) ∧ c.Quiet := by
  refine ⟨by simp [Cmd.Within, Cmd.names, Cmd.changes, Cmd.Quiet], fun existing => ?_⟩
  cases existing with
  | none => trivial
  | some message =>
      show (editExisting messageId senderId content (some message)).Uses _
      rw [editExisting]
      split
      · trivial
      · refine (within_assertCanMessage message.conversationId).bind (Uses.continueWith fun _ => ?_)
        rw [editContent]
        split
        · trivial
        · exact ⟨by simp [Cmd.Within, Cmd.names, Cmd.changes, Cmd.Quiet], fun _ => trivial⟩

theorem within_deleteMessage (conversationId : ConversationId) (deleteForAll : Bool) :
    (deleteMessage messageId senderId deleteForAll).Uses
      fun c => c.Within conversationId (some messageId) ∧ c.Quiet := by
  refine ⟨by simp [Cmd.Within, Cmd.names, Cmd.changes, Cmd.Quiet], fun existing => ?_⟩
  cases existing with
  | none => trivial
  | some message =>
      show (deleteExisting messageId senderId deleteForAll (some message)).Uses _
      rw [deleteExisting]
      split
      · trivial
      · exact ⟨by simp [Cmd.Within, Cmd.names, Cmd.changes, Cmd.Quiet], fun _ => trivial⟩

theorem within_asMember {change : M (Thrown (List ReactionRow))} (isMember : Bool)
    (h : change.Uses fun c => c.Within conversationId m ∧ c.Quiet) :
    (asMember conversationId userId change isMember).Uses
      fun c => c.Within conversationId m ∧ c.Quiet := by
  rw [asMember]
  split
  · exact (within_assertCanMessage conversationId).bind (Uses.continueWith fun _ => h)
  · trivial

theorem within_addReaction (emoji : String) :
    (addReaction messageId conversationId userId emoji).Uses
      fun c => c.Within conversationId (some messageId) ∧ c.Quiet := by
  refine ⟨by simp [Cmd.Within, Cmd.names, Cmd.changes, Cmd.Quiet],
    fun isMember => within_asMember isMember ?_⟩
  refine ⟨by simp [Cmd.Within, Cmd.names, Cmd.changes, Cmd.Quiet], fun inserted => ?_⟩
  show (reactionAdded messageId inserted).Uses _
  rw [reactionAdded]
  split
  · exact ⟨by simp [Cmd.Within, Cmd.names, Cmd.changes, Cmd.Quiet], fun _ => trivial⟩
  · trivial

theorem within_removeReaction (emoji : String) :
    (removeReaction messageId conversationId userId emoji).Uses
      fun c => c.Within conversationId (some messageId) ∧ c.Quiet := by
  refine ⟨by simp [Cmd.Within, Cmd.names, Cmd.changes, Cmd.Quiet],
    fun isMember => within_asMember isMember ?_⟩
  exact ⟨by simp [Cmd.Within, Cmd.names, Cmd.changes, Cmd.Quiet],
    fun _ => ⟨by simp [Cmd.Within, Cmd.names, Cmd.changes, Cmd.Quiet], fun _ => trivial⟩⟩

theorem within_setTyping (isTyping : Bool) :
    (setTyping conversationId userId isTyping).Uses (Cmd.Within conversationId m) :=
  ((within_assertCanMessage conversationId).mono fun _ h => h.1).bind (Uses.continueWith fun _ =>
    ⟨by simp [Cmd.Within, Cmd.names, Cmd.changes], fun _ => trivial⟩)

end Within

/-! ### Handlers -/

def ClientEvent.conversationId : ClientEvent → ConversationId
  | .roomJoin conversationId | .roomLeave conversationId | .messageSend conversationId _ _
  | .messageRead conversationId _ | .typingStart conversationId | .typingStop conversationId
  | .reactionAdd conversationId _ _ | .reactionRemove conversationId _ _
  | .messageEdit conversationId _ _ | .messageDelete conversationId _ _ => conversationId

def ClientEvent.messageId : ClientEvent → Option MessageId
  | .messageRead _ messageId | .reactionAdd _ messageId _ | .reactionRemove _ messageId _
  | .messageEdit _ messageId _ | .messageDelete _ messageId _ => some messageId
  | _ => none

section Handlers

variable (socket : Socket) {conversationId : ConversationId} {m : Option MessageId}

theorem within_emitToUsers (event : ServerEvent) (userIds : List UserId) :
    (emitToParticipantUsers conversationId event userIds).Uses (Cmd.Within conversationId m) :=
  uses_emitToParticipantUsers fun _ _ => by
    simp [Cmd.Within, Cmd.names, Cmd.changes, Audience.conversationId]

theorem within_emit (event : ServerEvent) :
    (socket.emit event).Uses (Cmd.Within conversationId m) :=
  ⟨by simp [Cmd.Within, Cmd.names, Cmd.changes, Audience.conversationId], fun _ => trivial⟩

theorem within_caught : ∀ r, (caught socket r).Uses (Cmd.Within conversationId m)
  | .ok () => trivial
  | .error error => by
      rw [caught, handleError]
      split <;> exact within_emit socket _

theorem within_onMessageSend (messageType : MessageType) (content : String) :
    (onMessageSend socket conversationId messageType content).Uses
      (Cmd.Within conversationId m) := by
  refine ⟨by simp [Cmd.Within, Cmd.names, Cmd.changes], fun count => ?_⟩
  show (if count ≤ chatRateLimit then _ else _ : M Unit).Uses _
  split
  · refine (within_send messageType content).bind fun sent => ?_
    refine Uses.bind ?_ fun announced => within_caught socket announced
    refine Uses.continueWith (fun message => ?_) sent
    refine (within_setTyping false).bind (Uses.continueWith fun _ => ?_)
    refine ⟨by simp [Cmd.Within, Cmd.names, Cmd.changes, Audience.conversationId], fun _ => ?_⟩
    refine ⟨by simp [Cmd.Within, Cmd.names, Cmd.changes], fun conversation => ?_⟩
    cases conversation with
    | none =>
        exact ⟨by simp [Cmd.Within, Cmd.names, Cmd.changes, Audience.conversationId],
          fun _ => trivial⟩
    | some conversation =>
        refine (within_emitToUsers _ _).bind fun _ => ?_
        refine Uses.bind (uses_announceToAll _ (fun _ _ _ _ => ?_) fun _ => ?_) fun _ => trivial
        · simp [Cmd.Within, Cmd.names, Cmd.changes, Audience.conversationId]
        · simp [Cmd.Within, Cmd.names, Cmd.changes]
  · exact within_emit socket _

theorem within_onMessageRead (messageId : MessageId) :
    (onMessageRead socket conversationId messageId).Uses
      (Cmd.Within conversationId (some messageId)) := by
  refine within_markRead.bind fun read => ?_
  refine Uses.bind ?_ fun announced => within_caught socket announced
  refine Uses.continueWith (fun _ => ?_) read
  exact ⟨by simp [Cmd.Within, Cmd.names, Cmd.changes, Audience.conversationId],
    fun _ => ⟨by simp [Cmd.Within, Cmd.names, Cmd.changes, Audience.conversationId],
      fun _ => trivial⟩⟩

theorem within_onTyping (isTyping : Bool) (event : ServerEvent) :
    (onTyping socket conversationId isTyping event).Uses (Cmd.Within conversationId m) := by
  refine (within_setTyping isTyping).bind fun typing => ?_
  refine Uses.bind ?_ fun announced => within_caught socket announced
  refine Uses.continueWith (fun _ => ?_) typing
  exact ⟨by simp [Cmd.Within, Cmd.names, Cmd.changes, Audience.conversationId], fun _ => trivial⟩

theorem within_onReaction (messageId : MessageId) {service : M (Thrown (List ReactionRow))}
    (h : service.Uses (Cmd.Within conversationId m)) :
    (onReaction socket conversationId messageId service).Uses (Cmd.Within conversationId m) := by
  refine h.bind fun reactions => ?_
  refine Uses.bind ?_ fun announced => within_caught socket announced
  refine Uses.continueWith (fun reactions => ?_) reactions
  refine ⟨by simp [Cmd.Within, Cmd.names, Cmd.changes], fun conversation => ?_⟩
  cases conversation with
  | none => trivial
  | some conversation => exact (within_emitToUsers _ _).bind fun _ => trivial

theorem within_onMessageEdit (messageId : MessageId) (content : String) :
    (onMessageEdit socket conversationId messageId content).Uses
      (Cmd.Within conversationId (some messageId)) := by
  refine ((within_editMessage conversationId content).mono fun _ h => h.1).bind fun updated => ?_
  refine Uses.bind ?_ fun announced => within_caught socket announced
  refine Uses.continueWith (fun updated => ?_) updated
  refine ⟨by simp [Cmd.Within, Cmd.names, Cmd.changes], fun conversation => ?_⟩
  cases conversation with
  | none => trivial
  | some conversation =>
      refine (within_emitToUsers _ _).bind fun _ => ?_
      exact (within_emitToUsers _ _).bind fun _ => trivial

theorem within_emitDeleted (messageId : MessageId) (deleteForAll : Bool) :
    ∀ conversation, (emitDeleted socket conversationId messageId deleteForAll conversation).Uses
      (Cmd.Within conversationId m)
  | none => by
      rw [emitDeleted]
      split
      · trivial
      · exact within_emit socket _
  | some conversation => by
      rw [emitDeleted]
      cases deleteForAll with
      | true => exact (within_emitToUsers _ _).bind fun _ => within_emitToUsers _ _
      | false => exact (within_emit socket _).bind fun _ => within_emitToUsers _ _

theorem within_onMessageDelete (messageId : MessageId) (deleteForAll : Bool) :
    (onMessageDelete socket conversationId messageId deleteForAll).Uses
      (Cmd.Within conversationId (some messageId)) := by
  refine ((within_deleteMessage conversationId deleteForAll).mono fun _ h => h.1).bind
    fun deleted => ?_
  refine Uses.bind ?_ fun announced => within_caught socket announced
  refine Uses.continueWith (fun _ => ?_) deleted
  refine ⟨by simp [Cmd.Within, Cmd.names, Cmd.changes], fun conversation => ?_⟩
  exact (within_emitDeleted socket messageId deleteForAll conversation).map _

/-- **The handler of an event** names no conversation but the named one, and
changes no message but the named one. -/
theorem within_handle (event : ClientEvent) :
    (handle socket event).Uses (Cmd.Within event.conversationId event.messageId) := by
  cases event with
  | roomJoin conversationId => exact ⟨by simp [Cmd.Within, Cmd.names, Cmd.changes,
      ClientEvent.conversationId], fun _ => trivial⟩
  | roomLeave conversationId =>
      exact ⟨by simp [Cmd.Within, Cmd.names, Cmd.changes], fun _ => trivial⟩
  | messageSend conversationId messageType content =>
      exact within_onMessageSend socket messageType content
  | messageRead conversationId messageId => exact within_onMessageRead socket messageId
  | typingStart conversationId => exact within_onTyping socket true _
  | typingStop conversationId => exact within_onTyping socket false _
  | reactionAdd conversationId messageId emoji =>
      exact within_onReaction socket messageId ((within_addReaction emoji).mono fun _ h => h.1)
  | reactionRemove conversationId messageId emoji =>
      exact within_onReaction socket messageId ((within_removeReaction emoji).mono fun _ h => h.1)
  | messageEdit conversationId messageId content =>
      exact within_onMessageEdit socket messageId content
  | messageDelete conversationId messageId deleteForAll =>
      exact within_onMessageDelete socket messageId deleteForAll

end Handlers

end Greetup.Chat
