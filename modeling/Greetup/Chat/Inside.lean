import Greetup.Chat.Within

/-!
What a user can do to a conversation without taking part in it.
-/

namespace Greetup.Chat

open Interleaving Prog
open Connections (UserId)

namespace World

variable (w : World)

/-- The user has sent the message. -/
def IsOwn (messageId : MessageId) (userId : UserId) : Prop :=
  ∃ message, w.messages.find messageId = some message ∧ message.senderId = userId

end World

/-- The handler of the event does not keep the user out of the conversation: it
does not ask who takes part in it, or asks about another one; or the user has a
record in it, or has sent the message. -/
def ClientEvent.Reaches (w : World) (userId : UserId) (conversationId : ConversationId) :
    ClientEvent → Prop
  | .roomJoin named | .typingStart named | .typingStop named => named = conversationId
  | .roomLeave _ => False
  | .messageSend named _ _ => named = conversationId ∧ (w.participant named userId).isSome
  | .messageRead named messageId => named = conversationId ∨ w.Holds conversationId messageId
  | .reactionAdd named messageId _ | .reactionRemove named messageId _ =>
      named ≠ conversationId ∧ w.Holds conversationId messageId
  | .messageEdit named messageId _ | .messageDelete named messageId _ =>
      w.IsOwn messageId userId ∧ (named = conversationId ∨ w.Holds conversationId messageId)

section Spares

variable {conversationId : ConversationId} {w : World} {α β : Type}

theorem spares_of_uses {p : M α}
    (h : p.Uses fun c => ∀ w', Spares conversationId w w' → ¬ c.Touches conversationId w') :
    Spares conversationId w (p.run exec w).2 :=
  h.run_keeps (fun _ hc w' hw' => hw'.trans (exec_spares (hc w' hw'))) (Spares.refl w)

/-- What is about another conversation, and about no message of this one. -/
theorem spares_of_far {p : M α} {named : ConversationId} {messageId : Option MessageId}
    (h : p.Uses (Cmd.Within named messageId)) (hne : named ≠ conversationId)
    (hheld : ∀ m, messageId = some m → ¬ w.Holds conversationId m) :
    Spares conversationId w (p.run exec w).2 :=
  spares_of_uses <| h.mono fun _ hc _ hw' =>
    hc.not_touches hne fun m hm => mt (hw'.holds_iff m).mp (hheld m hm)

variable (socket : Socket)

theorem spares_emit (event : ServerEvent) :
    Spares conversationId w ((socket.emit event).run exec w).2 :=
  exec_spares (by simp [Cmd.Touches, Cmd.names, Cmd.changes, Audience.conversationId])

/-- A service that throws changes nothing more: the error goes to the socket. -/
theorem spares_of_refused {service : M (Thrown α)} {f : α → M (Thrown Unit)} {error : ChatError}
    (h : (service.run exec w).1 = .error error)
    (hservice : Spares conversationId w (service.run exec w).2) :
    Spares conversationId w
      ((service >>= fun r => continueWith f r >>= caught socket).run exec w).2 := by
  rw [run_bind, h]
  refine hservice.trans ?_
  show Spares conversationId _ ((handleError socket error).run exec _).2
  rw [handleError]
  split <;> exact spares_emit socket _

end Spares

section Refused

variable {w : World} {conversationId : ConversationId} {messageId : MessageId}
  {socket : Socket}

theorem run_send_of_stranger (h : ¬ (w.participant conversationId socket.userId).isSome)
    (messageType : MessageType) (content : String) :
    (send conversationId socket.userId messageType content).run exec w =
      (.error .unauthorized, w) := by
  simp [send, sendAs, exec, h, throwing, Except.map]

theorem spares_onMessageSend (h : ¬ (w.participant conversationId socket.userId).isSome)
    (messageType : MessageType) (content : String) :
    Spares conversationId w
      ((onMessageSend socket conversationId messageType content).run exec w).2 := by
  have hcount : Spares conversationId w (exec (.incrMessageRate socket.userId) w).2 :=
    exec_spares (by simp [Cmd.Touches, Cmd.names, Cmd.changes])
  rw [onMessageSend, run_bind]
  refine hcount.trans ?_
  show Spares conversationId _ ((if _ then _ else _ : M Unit).run exec _).2
  split
  · have hsend := run_send_of_stranger (w := (exec (.incrMessageRate socket.userId) w).2) h
      messageType content
    exact spares_of_refused socket (congrArg Prod.fst hsend) (by rw [hsend]; exact Spares.refl _)
  · exact spares_emit socket _

/-- Reactions of those who do not take part in the named conversation. -/
theorem spares_onReaction (h : w.isParticipant conversationId socket.userId = false)
    (change : M (Thrown (List ReactionRow))) :
    Spares conversationId w ((onReaction socket conversationId messageId
      (issue (.isParticipant conversationId socket.userId) >>=
        asMember conversationId socket.userId change)).run exec w).2 := by
  have hservice : (issue (.isParticipant conversationId socket.userId) >>=
      asMember conversationId socket.userId change).run exec w = (.error .unauthorized, w) := by
    simp [asMember, exec, h, throwing]
  exact spares_of_refused socket (congrArg Prod.fst hservice)
    (by rw [hservice]; exact Spares.refl w)

/-- A message is edited by its sender alone. -/
theorem run_editMessage_of_not_own (h : ¬ w.IsOwn messageId socket.userId) (content : String) :
    ∃ error, (editMessage messageId socket.userId content).run exec w = (.error error, w) := by
  rw [editMessage, run_bind]
  show ∃ error,
    (editExisting messageId socket.userId content (w.messages.find messageId)).run exec w = _
  cases hfind : w.messages.find messageId with
  | none => exact ⟨_, rfl⟩
  | some message =>
      rw [editExisting, if_pos fun heq => h ⟨message, hfind, heq⟩]
      exact ⟨_, rfl⟩

theorem run_deleteMessage_of_not_own (h : ¬ w.IsOwn messageId socket.userId)
    (deleteForAll : Bool) :
    ∃ error, (deleteMessage messageId socket.userId deleteForAll).run exec w =
      (.error error, w) := by
  rw [deleteMessage, run_bind]
  show ∃ error, (deleteExisting messageId socket.userId deleteForAll
    (w.messages.find messageId)).run exec w = _
  cases hfind : w.messages.find messageId with
  | none => exact ⟨_, rfl⟩
  | some message =>
      rw [deleteExisting, if_pos fun heq => h ⟨message, hfind, heq⟩]
      exact ⟨_, rfl⟩

end Refused

section Handle

variable {w : World} {conversationId : ConversationId} {socket : Socket} {event : ClientEvent}

/-- What an event does not reach it spares. -/
theorem handle_spares (hout : w.isParticipant conversationId socket.userId = false)
    (h : ¬ event.Reaches w socket.userId conversationId) :
    Spares conversationId w ((handle socket event).run exec w).2 := by
  have hfar : (event.conversationId ≠ conversationId ∧
      ∀ m, event.messageId = some m → ¬ w.Holds conversationId m) →
      Spares conversationId w ((handle socket event).run exec w).2 :=
    fun h => spares_of_far (within_handle socket event) h.1 h.2
  cases event with
  | roomJoin named | typingStart named | typingStop named =>
      exact hfar ⟨h, by simp [ClientEvent.messageId]⟩
  | roomLeave named =>
      exact exec_spares (by simp [Cmd.Touches, Cmd.names, Cmd.changes])
  | messageSend named messageType content =>
      by_cases hnamed : named = conversationId
      · subst hnamed
        exact spares_onMessageSend (fun hrecord => h ⟨rfl, hrecord⟩) messageType content
      · exact hfar ⟨hnamed, by simp [ClientEvent.messageId]⟩
  | messageRead named messageId =>
      obtain ⟨hnamed, hheld⟩ := not_or.mp h
      exact hfar ⟨hnamed, by simpa [ClientEvent.messageId] using hheld⟩
  | reactionAdd named messageId emoji | reactionRemove named messageId emoji =>
      by_cases hnamed : named = conversationId
      · subst hnamed
        exact spares_onReaction hout _
      · refine hfar ⟨hnamed, ?_⟩
        simpa [ClientEvent.messageId] using fun hheld => h ⟨hnamed, hheld⟩
  | messageEdit named messageId content =>
      by_cases hown : w.IsOwn messageId socket.userId
      · obtain ⟨hnamed, hheld⟩ := not_or.mp fun hor => h ⟨hown, hor⟩
        exact hfar ⟨hnamed, by simpa [ClientEvent.messageId] using hheld⟩
      · obtain ⟨error, hrun⟩ := run_editMessage_of_not_own hown content
        exact spares_of_refused socket (congrArg Prod.fst hrun) (by rw [hrun]; exact Spares.refl w)
  | messageDelete named messageId deleteForAll =>
      by_cases hown : w.IsOwn messageId socket.userId
      · obtain ⟨hnamed, hheld⟩ := not_or.mp fun hor => h ⟨hown, hor⟩
        exact hfar ⟨hnamed, by simpa [ClientEvent.messageId] using hheld⟩
      · obtain ⟨error, hrun⟩ := run_deleteMessage_of_not_own hown deleteForAll
        exact spares_of_refused socket (congrArg Prod.fst hrun) (by rw [hrun]; exact Spares.refl w)

end Handle

/-! ### Who is notified -/

/-- An event about a message goes to the participants of a conversation, or to
the socket it comes from. -/
def Notifies (w : World) (conversationId : ConversationId) (socketId : SocketId)
    (delivery : Delivery) : Prop :=
  delivery.event.operatedOn.isSome → delivery.audience = .socket socketId ∨
    ∃ userId ∈ w.participantsOf conversationId,
      delivery.audience = .participant conversationId userId

/-- The commands that send nothing but what satisfies `D`. -/
def Cmd.Sends (D : Delivery → Prop) : Cmd → Prop
  | .emit delivery => D delivery
  | _ => True

section Sends

variable {D : Delivery → Prop} {w w' : World} {α : Type} {c : Cmd}

theorem insertMessage_sent (conversationId : ConversationId) (senderId : UserId)
    (messageType : MessageType) (content : Option String) :
    (w.insertMessage conversationId senderId messageType content).2.sent = w.sent := by
  rw [World.insertMessage]
  dsimp only
  split <;> rfl

theorem exec_sends (h : c.Sends D) : SendsOnly D w (exec c w).2 := by
  cases c with
  | emit delivery =>
      refine ⟨[delivery], rfl, ?_⟩
      intro delivery' hmem
      rw [List.mem_singleton.mp hmem]
      exact h
  | insertMessage conversationId senderId messageType content =>
      exact sendsOnly_of_sent (insertMessage_sent _ _ _ _)
  | insertReaction row | insertReceipt row =>
      refine sendsOnly_of_sent ?_
      rw [exec]
      split <;> rfl
  | _ => exact sendsOnly_of_sent rfl

theorem sends_of_uses {p : M α} (h : p.Uses (Cmd.Sends D)) : SendsOnly D w (p.run exec w).2 :=
  h.run_keeps (fun _ hc _ hw => hw.trans (exec_sends hc)) (sendsOnly_of_sent rfl)

/-- Those who take part in the conversations. -/
def SameMembers (w w' : World) : Prop :=
  w'.conversations = w.conversations ∧ w'.participants = w.participants

theorem exec_quiet (h : c.Quiet) : SendsOnly D w (exec c w).2 ∧ SameMembers w (exec c w).2 := by
  constructor
  · refine exec_sends ?_
    cases c with
    | emit => exact h.elim
    | _ => trivial
  · cases c with
    | rejoin | updateLastRead | emit => exact h.elim
    | insertMessage conversationId senderId messageType content =>
        show SameMembers w (w.insertMessage conversationId senderId messageType content).2
        rw [World.insertMessage]
        dsimp only
        split <;> exact ⟨rfl, rfl⟩
    | insertReaction row | insertReceipt row =>
        rw [exec]
        split <;> exact ⟨rfl, rfl⟩
    | _ => exact ⟨rfl, rfl⟩

theorem run_quiet {p : M α} (h : p.Uses Cmd.Quiet) :
    SendsOnly D w (p.run exec w).2 ∧ SameMembers w (p.run exec w).2 := by
  refine h.run_keeps (I := fun w' => SendsOnly D w w' ∧ SameMembers w w')
    (fun c hc w' hw' => ?_) ⟨sendsOnly_of_sent rfl, rfl, rfl⟩
  obtain ⟨hsends, hsame⟩ := exec_quiet (D := D) (w := w') hc
  exact ⟨hw'.1.trans hsends, hsame.1.trans hw'.2.1, hsame.2.trans hw'.2.2⟩

end Sends

section Notified

variable {w w' : World} {conversationId : ConversationId} {socket : Socket} {α : Type}

theorem notifies_participants (event : ServerEvent) :
    (emitToParticipantUsers conversationId event (w.participantsOf conversationId)).Uses
      (Cmd.Sends (Notifies w conversationId socket.id)) :=
  uses_emitToParticipantUsers fun userId hmem _ => .inr ⟨userId, hmem, rfl⟩

theorem notifies_emit (event : ServerEvent) :
    (socket.emit event).Uses (Cmd.Sends (Notifies w conversationId socket.id)) :=
  ⟨fun _ => .inl rfl, fun _ => trivial⟩

theorem notifies_caught :
    ∀ r, (caught socket r).Uses (Cmd.Sends (Notifies w conversationId socket.id))
  | .ok () => trivial
  | .error error => by
      rw [caught, handleError]
      split <;> exact notifies_emit _

/-- The conversation is looked up, and its participants are told. -/
theorem sends_of_found {f : Option Conversation → M α} (hsame : SameMembers w w')
    (h : ∀ conversation, (∀ c, conversation = some c →
        c.participants = w.participantsOf conversationId) →
      (f conversation).Uses (Cmd.Sends (Notifies w conversationId socket.id))) :
    SendsOnly (Notifies w conversationId socket.id) w'
      ((issue (.findConversation conversationId) >>= f).run exec w').2 := by
  rw [run_bind, run_perform]
  refine sends_of_uses (h _ fun c hc => ?_)
  obtain ⟨row, -, rfl⟩ := Option.map_eq_some_iff.mp hc
  show w'.participantsOf conversationId = _
  rw [World.participantsOf, World.participantsOf, hsame.2]

/-- A service that sends nothing, and what is announced if it succeeds. -/
theorem sends_of_service {service : M (Thrown α)} {f : α → M (Thrown Unit)}
    (hservice : service.Uses Cmd.Quiet)
    (h : ∀ a w', SameMembers w w' →
      SendsOnly (Notifies w conversationId socket.id) w' ((f a).run exec w').2) :
    SendsOnly (Notifies w conversationId socket.id) w
      ((service >>= fun r => continueWith f r >>= caught socket).run exec w).2 := by
  rw [run_bind]
  obtain ⟨hsends, hsame⟩ := run_quiet (D := Notifies w conversationId socket.id) (w := w) hservice
  refine hsends.trans ?_
  cases (service.run exec w).1 with
  | error error =>
      show SendsOnly _ _ ((caught socket (.error error)).run exec _).2
      exact sends_of_uses (notifies_caught _)
  | ok a =>
      rw [run_bind]
      exact (h a _ hsame).trans (sends_of_uses (notifies_caught _))

theorem sends_announceReactions (messageId : MessageId) (reactions : List ReactionRow)
    (hsame : SameMembers w w') :
    SendsOnly (Notifies w conversationId socket.id) w'
      ((emitReactionUpdateToParticipants conversationId messageId reactions).run exec w').2 := by
  refine sends_of_found hsame fun conversation hmembers => ?_
  cases conversation with
  | none => trivial
  | some c =>
      rw [emitReactions, hmembers c rfl]
      exact (notifies_participants _).bind fun _ => trivial

theorem sends_announceEdited (updated : MessageRow) (hsame : SameMembers w w') :
    SendsOnly (Notifies w conversationId socket.id) w'
      ((announceEdited conversationId updated).run exec w').2 := by
  refine sends_of_found hsame fun conversation hmembers => ?_
  cases conversation with
  | none => trivial
  | some c =>
      rw [emitEdited, hmembers c rfl]
      exact (notifies_participants _).bind fun _ => (notifies_participants _).bind fun _ => trivial

theorem sends_announceDeleted (messageId : MessageId) (deleteForAll : Bool)
    (hsame : SameMembers w w') :
    SendsOnly (Notifies w conversationId socket.id) w'
      ((announceDeleted socket conversationId messageId deleteForAll).run exec w').2 := by
  refine sends_of_found hsame fun conversation hmembers => Uses.map ?_ _
  cases conversation with
  | none =>
      rw [emitDeleted]
      split
      · trivial
      · exact notifies_emit _
  | some c =>
      rw [emitDeleted, hmembers c rfl]
      cases deleteForAll with
      | true => exact (notifies_participants _).bind fun _ => notifies_participants _
      | false => exact (notifies_emit _).bind fun _ => notifies_participants _

end Notified

/-- The events that change one message, or the reactions to it. -/
def ClientEvent.operatesOn : ClientEvent → Option MessageId
  | .reactionAdd _ messageId _ | .reactionRemove _ messageId _ | .messageEdit _ messageId _
  | .messageDelete _ messageId _ => some messageId
  | _ => none

section Inside

variable (w : World) (socket : Socket) (event : ClientEvent)

/-- An operation on a message notifies those who take part in the named
conversation. -/
theorem handle_notifies (h : event.operatesOn.isSome) :
    SendsOnly (Notifies w event.conversationId socket.id) w
      ((handle socket event).run exec w).2 := by
  cases event with
  | roomJoin | roomLeave | messageSend | messageRead | typingStart | typingStop => cases h
  | reactionAdd named messageId emoji =>
      exact sends_of_service ((within_addReaction emoji).mono fun _ h => h.2)
        fun reactions _ hsame => sends_announceReactions messageId reactions hsame
  | reactionRemove named messageId emoji =>
      exact sends_of_service ((within_removeReaction emoji).mono fun _ h => h.2)
        fun reactions _ hsame => sends_announceReactions messageId reactions hsame
  | messageEdit named messageId content =>
      exact sends_of_service ((within_editMessage named content).mono fun _ h => h.2)
        fun updated _ hsame => sends_announceEdited updated hsame
  | messageDelete named messageId deleteForAll =>
      exact sends_of_service ((within_deleteMessage named deleteForAll).mono fun _ h => h.2)
        fun _ _ hsame => sends_announceDeleted messageId deleteForAll hsame

/-- **Chat operations stay inside the conversations of the caller.** -/
theorem handle_staysInside :
    (∀ conversationId, w.isParticipant conversationId socket.userId = false →
      ¬ event.Reaches w socket.userId conversationId →
      Spares conversationId w ((handle socket event).run exec w).2) ∧
    ∀ messageId conversationId, event.operatesOn = some messageId →
      w.Holds conversationId messageId → event.conversationId = conversationId →
      SendsOnly (Notifies w conversationId socket.id) w ((handle socket event).run exec w).2 := by
  refine ⟨fun conversationId hout h => handle_spares hout h, ?_⟩
  rintro messageId _ hop - rfl
  exact handle_notifies w socket event (hop ▸ rfl)

end Inside

namespace Sample

def uma : UserId := ⟨"uma", by decide⟩
def leo : UserId := ⟨"leo", by decide⟩
def kit : UserId := ⟨"kit", by decide⟩
def attic : ConversationId := ⟨"attic", by decide⟩
def trunk : MessageId := ⟨"trunk", by decide⟩
def lamp : MessageId := ⟨"lamp", by decide⟩

/-- `leo` has written `trunk`; `uma` has left. -/
def boxes : World where
  conversations := ⟨[{ id := attic, type := .roomSpace, roomId := none, connectionId := none
                       createdAt := 4 }], by decide⟩
  participants := ⟨[{ conversationId := attic, userId := leo },
    { conversationId := attic, userId := uma, leftAt := some 7 }], by decide⟩
  messages := ⟨[{ id := trunk, conversationId := attic, senderId := leo, messageType := .text
                  content := some "old hats", createdAt := 5 }], by decide⟩
  uuids := fun _ => lamp
  clock := fun n => 9 + n

/-- Whoever has left may send: `uma` takes part in the attic again. -/
theorem not_spares_rejoining :
    boxes.isParticipant attic uma = false ∧
      ¬ Spares attic boxes
        ((handle ⟨uma, uma⟩ (.messageSend attic .text "any scarves?")).run exec boxes).2 := by
  refine ⟨by decide, fun h => ?_⟩
  have hlength := congrArg List.length h.messages
  revert hlength
  decide

/-- Somebody who never was in the attic reacts to what is there. -/
theorem staysInside_passing :
    Spares attic boxes ((handle ⟨kit, kit⟩ (.reactionAdd attic trunk "🎩")).run exec boxes).2 ∧
      SendsOnly (Notifies boxes attic kit) boxes
        ((handle ⟨kit, kit⟩ (.reactionAdd attic trunk "🎩")).run exec boxes).2 :=
  have hinside := handle_staysInside boxes ⟨kit, kit⟩ (.reactionAdd attic trunk "🎩")
  ⟨hinside.1 attic (by decide) fun h => h.1 rfl, hinside.2 trunk attic rfl (by decide) rfl⟩

end Sample

end Greetup.Chat
