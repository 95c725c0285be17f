import Greetup.Chat.Within
import Greetup.Interleaving.Accounts

/-!
How far a participant has read, and how many messages are counted as unread.

A message is counted for a participant some time after it is stored, and the
count is reset some time after the pointer to the message that was read has been
moved. In between the two do not agree; how far apart they are is the number of
messages that are stored and not counted yet.
-/

namespace Greetup.Chat

open Interleaving Prog
open Connections (UserId)

/-! ### Pointers into the messages -/

namespace World

variable (w : World) (conversationId : ConversationId) (userId : UserId)

/-- `lastReadMessageId` -/
def lastRead : Option MessageId :=
  (w.participant conversationId userId).bind (·.lastReadMessageId)

/-- The messages that were sent after this one; all messages if it is none. -/
def newerThan (messageId : Option MessageId) : List MessageRow :=
  w.messages.rows.takeWhile (some ·.id ≠ messageId)

/-- It was not sent before that one. -/
def NotOlder (messageId messageId' : Option MessageId) : Prop :=
  (w.newerThan messageId).length ≤ (w.newerThan messageId').length

instance (messageId messageId' : Option MessageId) : Decidable (w.NotOlder messageId messageId') :=
  inferInstanceAs (Decidable (_ ≤ _))

/-- The messages by others that are newer than the one that was read last. -/
def newerByOthers : ℕ :=
  (w.newerThan (w.lastRead conversationId userId)).countP fun row =>
    row.conversationId = conversationId ∧ row.senderId ≠ userId

/-- If it is a message, it is stored. -/
def Stored (messageId : Option MessageId) : Prop :=
  ∀ id, messageId = some id → id ∈ w.messages.rows.map MessageRow.id

end World

section Pointers

variable {w w' : World} {messageId messageId' : Option MessageId}

/-- A new message is newer than all that were there. -/
theorem newerThan_cons {row : MessageRow} (hstored : w.Stored messageId)
    (hnew : row.id ∉ w.messages.rows.map MessageRow.id)
    (hrows : w'.messages.rows = row :: w.messages.rows) :
    w'.newerThan messageId = row :: w.newerThan messageId := by
  rw [World.newerThan, hrows, List.takeWhile_cons_of_pos]
  · rfl
  · refine decide_eq_true fun heq => hnew ?_
    exact hstored row.id heq.symm

theorem newerThan_congr (h : w'.messages = w.messages) :
    w'.newerThan messageId = w.newerThan messageId := by
  rw [World.newerThan, World.newerThan, h]

theorem lastRead_congr {conversationId : ConversationId} {userId : UserId}
    (h : w'.participants = w.participants) :
    w'.lastRead conversationId userId = w.lastRead conversationId userId := by
  rw [World.lastRead, World.lastRead, World.participant, World.participant, h]

theorem newerByOthers_congr {conversationId : ConversationId} {userId : UserId}
    (hmessages : w'.messages = w.messages)
    (hread : w'.lastRead conversationId userId = w.lastRead conversationId userId) :
    w'.newerByOthers conversationId userId = w.newerByOthers conversationId userId := by
  rw [World.newerByOthers, World.newerByOthers, hread, newerThan_congr hmessages]

end Pointers

/-! ### Calls -/

/-- The calls that send and read. -/
inductive ReadTask
  | send (conversationId : ConversationId) (senderId : UserId) (messageType : MessageType)
      (content : String)
  | publishSystemMessage (conversationId : ConversationId) (senderId : UserId)
  | markRead (conversationId : ConversationId) (messageId : MessageId) (userId : UserId)
  deriving DecidableEq

def ReadTask.program : ReadTask → M Unit
  | .send conversationId senderId messageType content =>
      (fun _ => ()) <$> Chat.send conversationId senderId messageType content
  | .publishSystemMessage conversationId senderId =>
      (fun _ => ()) <$> Chat.publishSystemMessage conversationId senderId
  | .markRead conversationId messageId userId =>
      (fun _ => ()) <$> Chat.markRead conversationId messageId userId

abbrev ReadTold := Told Cmd Cmd.Reply

abbrev ReadScene (ι : Type) := Scene ι Cmd Cmd.Reply World

section Marks

variable (conversationId : ConversationId) (userId : UserId)

/-- A message of another participant was stored. -/
def StoredByOther : ReadTold → Bool
  | ⟨.insertMessage named senderId _ _, reply⟩ =>
      named = conversationId ∧ senderId ≠ userId ∧ reply.isSome
  | _ => false

/-- A message was counted as unread. -/
def CountedUnread : ReadTold → Bool
  | ⟨.incrUnread user named, _⟩ => user = userId ∧ named = conversationId
  | _ => false

/-- The call has moved the pointer, and has not reset the count since. -/
def OwesReset (h : List ReadTold) : Prop :=
  ∃ l messageId rest, h = l ++ ⟨.updateLastRead conversationId userId messageId, ()⟩ :: rest ∧
    ∀ e ∈ l, e.1 ≠ .resetUnread userId conversationId

/-- The pointer of the participant moves to no older message; when the count is
reset, the messages that are newer are as many as are not counted yet, or another
call has moved the pointer and will reset the count. -/
def ReadsOn {ι : Type} [DecidableEq ι] (i : ι) (c : Cmd) (s : ReadScene ι) : Prop :=
  (∀ messageId, c = .updateLastRead conversationId userId messageId →
    s.world.NotOlder (some messageId) (s.world.lastRead conversationId userId)) ∧
  (c = .resetUnread userId conversationId →
    (∃ j, j ≠ i ∧ OwesReset conversationId userId (s.told j)) ∨
      s.count (StoredByOther conversationId userId) =
        s.world.newerByOthers conversationId userId +
          s.count (CountedUnread conversationId userId))

end Marks

/-- The pointer is moved to a message that is known to be stored, and messages
are not changed. -/
def Cmd.Earned (h : List ReadTold) : Cmd → Prop
  | .updateLastRead _ userId messageId => ⟨.insertReceipt messageId userId, true⟩ ∈ h
  | .updateContent _ _ | .softDelete _ _ => False
  | _ => True

section Owes

variable {conversationId : ConversationId} {userId : UserId} {e : ReadTold} {h : List ReadTold}

theorem not_owesReset_nil : ¬ OwesReset conversationId userId [] := by
  rintro ⟨l, messageId, rest, heq, -⟩
  cases l <;> cases heq

theorem owesReset_cons : OwesReset conversationId userId (e :: h) ↔
    (∃ messageId, e.1 = .updateLastRead conversationId userId messageId) ∨
      e.1 ≠ .resetUnread userId conversationId ∧ OwesReset conversationId userId h := by
  constructor
  · rintro ⟨l, messageId, rest, heq, hl⟩
    cases l with
    | nil =>
        obtain ⟨rfl, -⟩ := List.cons.inj heq
        exact .inl ⟨messageId, rfl⟩
    | cons e' l =>
        obtain ⟨rfl, rfl⟩ := List.cons.inj heq
        exact .inr ⟨hl e List.mem_cons_self, l, messageId, rest, rfl,
          fun e' he' => hl e' (List.mem_cons_of_mem _ he')⟩
  · rintro (⟨messageId, heq⟩ | ⟨hne, l, messageId, rest, rfl, hl⟩)
    · obtain ⟨c, reply⟩ := e
      cases heq
      exact ⟨[], messageId, h, rfl, by simp⟩
    · exact ⟨e :: l, messageId, rest, rfl, List.forall_mem_cons.mpr ⟨hne, hl⟩⟩

end Owes

/-! ### What a call has done in the end -/

/-- The commands that neither store a message, nor count one, nor read one. -/
def Cmd.Neutral : Cmd → Prop
  | .insertMessage _ _ _ _ | .incrUnread _ _ | .updateLastRead _ _ _ | .resetUnread _ _
  | .updateContent _ _ | .softDelete _ _ => False
  | _ => True

/-- The conversation was found whenever it was looked up, and the participant in
it once. -/
def Finds (conversationId : ConversationId) (userId : UserId) (h : List ReadTold) : Prop :=
  ∀ conversation, ⟨.findConversation conversationId, conversation⟩ ∈ h →
    ∃ c, conversation = some c ∧ c.participants.count userId = 1

/-- What was stored was counted. -/
def Balanced (conversationId : ConversationId) (userId : UserId) (h : List ReadTold) : Prop :=
  Finds conversationId userId h →
    h.countP (StoredByOther conversationId userId) = h.countP (CountedUnread conversationId userId)

/-- Nothing was read, and all that was stored was counted. -/
structure OnlySent (conversationId : ConversationId) (userId : UserId) (h : List ReadTold) :
    Prop where
  unread : ∀ named user messageId, ⟨.updateLastRead named user messageId, ()⟩ ∉ h
  balanced : Balanced conversationId userId h

/-- A call that has returned has done all that it owes. -/
structure Settled (conversationId : ConversationId) (userId : UserId) (h : List ReadTold) :
    Prop where
  resets : ¬ OwesReset conversationId userId h
  balanced : Balanced conversationId userId h

section Calls

variable {conversationId named : ConversationId} {userId senderId : UserId} {h l : List ReadTold}

theorem OnlySent.settled (hs : OnlySent conversationId userId h) :
    Settled conversationId userId h where
  resets := by
    rintro ⟨l, messageId, rest, rfl, -⟩
    exact hs.unread _ _ _ (List.mem_append_right l List.mem_cons_self)
  balanced := hs.balanced

theorem countP_of_neutral (conversationId : ConversationId) (userId : UserId)
    (hl : ∀ e ∈ l, e.1.Neutral) :
    l.countP (StoredByOther conversationId userId) = 0 ∧
      l.countP (CountedUnread conversationId userId) = 0 := by
  constructor
  all_goals
    rw [List.countP_eq_zero]
    rintro ⟨c, reply⟩ he
    have hneutral := hl _ he
    cases c with
    | insertMessage | incrUnread => exact hneutral.elim
    | _ => exact Bool.false_ne_true

theorem OnlySent.append (hs : OnlySent conversationId userId h) (hl : ∀ e ∈ l, e.1.Neutral) :
    OnlySent conversationId userId (l ++ h) where
  unread named user messageId hmem := by
    rcases List.mem_append.mp hmem with hmem | hmem
    · exact hl _ hmem
    · exact hs.unread _ _ _ hmem
  balanced hfinds := by
    obtain ⟨hstored, hcounted⟩ := countP_of_neutral conversationId userId hl
    rw [List.countP_append, List.countP_append, hstored, hcounted, hs.balanced]
    intro conversation hmem
    exact hfinds conversation (List.mem_append_right l hmem)

theorem onlySent_nil : OnlySent conversationId userId [] where
  unread _ _ _ := List.not_mem_nil
  balanced _ := rfl

theorem OnlySent.licensed (hs : OnlySent conversationId userId h) {α : Type} {p : M α}
    (hp : p.Uses Cmd.Neutral) :
    p.Licensed exec Cmd.Earned (fun h' _ => OnlySent conversationId userId h') h := by
  have hearned : ∀ h c, Cmd.Neutral c → c.Earned h := by
    intro h c hc
    cases c with
    | updateLastRead | updateContent | softDelete => exact hc.elim
    | _ => trivial
  refine ((hp.licensed hearned).uses hp).mono ?_
  rintro h' a ⟨⟨l, rfl, hl⟩, -⟩
  exact hs.append hl

/-! ### Sent -/

theorem licensed_countForAll (userIds : List UserId) :
    (countForAll named senderId userIds).Licensed exec Cmd.Earned (fun h' _ =>
      h'.countP (CountedUnread conversationId userId) =
        h.countP (CountedUnread conversationId userId) +
          if named = conversationId then (userIds.filter (· ≠ senderId)).count userId
          else 0) h := by
  induction userIds generalizing h with
  | nil =>
      show _ = _ + _
      simp
  | cons user userIds ih =>
      rw [countForAll, countFor]
      by_cases hsender : user = senderId
      · rw [if_pos hsender, List.filter_cons_of_neg (by simp [hsender])]
        exact ih
      · rw [if_neg hsender, List.filter_cons_of_pos (by simpa using hsender), List.count_cons]
        refine ⟨trivial, fun w => ⟨trivial, fun w' => ih.mono fun h' _ hcount => ?_⟩⟩
        rw [hcount, List.countP_cons, List.countP_cons]
        by_cases hnamed : named = conversationId
        · by_cases huser : user = userId
          · simp [CountedUnread, hnamed, huser]
            omega
          · simp [CountedUnread, hnamed, huser, beq_eq_false_iff_ne.mpr huser]
        · simp [CountedUnread, hnamed]

theorem uses_countForAll (userIds : List UserId) :
    (countForAll named senderId userIds).Uses fun c =>
      c.Neutral ∨ ∃ user, c = .incrUnread user named := by
  induction userIds with
  | nil => trivial
  | cons user userIds ih =>
      refine Uses.bind ?_ fun _ => ih
      rw [countFor]
      split
      · trivial
      · exact ⟨.inl trivial, fun _ => ⟨.inr ⟨user, rfl⟩, fun _ => trivial⟩⟩

/-- How often a message is counted for the participant. -/
def countedFor (conversationId named : ConversationId) (userId senderId : UserId) :
    Option Conversation → ℕ
  | none => 0
  | some conversation =>
      if named = conversationId then (conversation.participants.filter (· ≠ senderId)).count userId
      else 0

theorem licensed_countForOthers (conversationId : ConversationId) (userId : UserId)
    (conversation : Option Conversation) :
    (countForOthers named senderId conversation).Licensed exec Cmd.Earned (fun h' _ =>
      (∃ l, h' = l ++ h ∧ ∀ e ∈ l, e.1.Neutral ∨ ∃ user, e.1 = .incrUnread user named) ∧
        h'.countP (CountedUnread conversationId userId) =
          h.countP (CountedUnread conversationId userId) +
            countedFor conversationId named userId senderId conversation) h := by
  cases conversation with
  | none => exact ⟨⟨[], rfl, by simp⟩, rfl⟩
  | some c => exact (licensed_countForAll c.participants).uses (uses_countForAll c.participants)

/-- Whoever is found once is counted once, unless the message is their own. -/
theorem countedFor_of_finds {conversation : Option Conversation}
    (hfound : named = conversationId →
      ∃ c, conversation = some c ∧ c.participants.count userId = 1) :
    countedFor conversationId named userId senderId conversation =
      if named = conversationId ∧ senderId ≠ userId then 1 else 0 := by
  cases conversation with
  | none =>
      rw [countedFor, if_neg]
      rintro ⟨hnamed, -⟩
      obtain ⟨c, hc, -⟩ := hfound hnamed
      cases hc
  | some conversation =>
      rw [countedFor]
      by_cases hnamed : named = conversationId
      · obtain ⟨c, hc, hcount⟩ := hfound hnamed
        cases hc
        by_cases hsender : senderId = userId
        · rw [if_pos hnamed, if_neg fun h => h.2 hsender, List.count_eq_zero, List.mem_filter]
          simp [hsender]
        · rw [if_pos hnamed, if_pos ⟨hnamed, hsender⟩, List.count_filter, hcount]
          simpa using Ne.symm hsender
      · rw [if_neg hnamed, if_neg fun h => hnamed h.1]

/-- The message is stored, and counted for all who are found to take part. -/
theorem OnlySent.insertAndCount (hs : OnlySent conversationId userId h) (messageType : MessageType)
    (content : Option String) :
    (insertAndCount named senderId messageType content).Licensed exec Cmd.Earned
      (fun h' _ => OnlySent conversationId userId h') h := by
  rw [Chat.insertAndCount]
  refine ⟨trivial, fun w => ?_⟩
  obtain ⟨message, hmessage⟩ :
      ∃ m, m = (exec (.insertMessage named senderId messageType content) w).1 := ⟨_, rfl⟩
  rw [← hmessage]
  cases message with
  | none =>
      refine ⟨fun named' user messageId hmem => ?_, fun hfinds => ?_⟩
      · rcases List.mem_cons.mp hmem with heq | hmem
        · cases heq
        · exact hs.unread _ _ _ hmem
      · have hbalanced := hs.balanced fun c hc => hfinds c (List.mem_cons_of_mem _ hc)
        rw [List.countP_cons, List.countP_cons, hbalanced]
        simp [StoredByOther, CountedUnread]
  | some message =>
      refine ⟨trivial, fun w' => ?_⟩
      obtain ⟨conversation, hconversation⟩ :
          ∃ c, c = (exec (.findConversation named) w').1 := ⟨_, rfl⟩
      rw [← hconversation]
      refine (licensed_countForOthers conversationId userId conversation).bind ?_
      rintro h' - ⟨⟨l, rfl, hl⟩, hcounted⟩
      refine ⟨fun named' user messageId hmem => ?_, fun hfinds => ?_⟩
      · rcases List.mem_append.mp hmem with hmem | hmem
        · rcases hl _ hmem with hneutral | ⟨user', heq⟩
          · exact hneutral
          · cases heq
        · rcases List.mem_cons.mp hmem with heq | hmem
          · cases heq
          · rcases List.mem_cons.mp hmem with heq | hmem
            · cases heq
            · exact hs.unread _ _ _ hmem
      · have hfound : named = conversationId →
            ∃ c, conversation = some c ∧ c.participants.count userId = 1 := by
          rintro rfl
          exact hfinds conversation (List.mem_append_right l List.mem_cons_self)
        have hbalanced := hs.balanced fun c hc =>
          hfinds c (List.mem_append_right l (List.mem_cons_of_mem _ (List.mem_cons_of_mem _ hc)))
        have hstored : l.countP (StoredByOther conversationId userId) = 0 := by
          rw [List.countP_eq_zero]
          rintro ⟨c, reply⟩ he
          rcases hl _ he with hneutral | ⟨user', rfl⟩
          · cases c with
            | insertMessage => exact hneutral.elim
            | _ => exact Bool.false_ne_true
          · exact Bool.false_ne_true
        rw [hcounted, countedFor_of_finds hfound, List.countP_append, hstored]
        simp only [List.countP_cons, hbalanced, StoredByOther, CountedUnread, Option.isSome_some,
          and_true, decide_eq_true_eq, Bool.false_eq_true, if_false]
        omega

/-! ### The calls -/

theorem neutral_assertCanMessage :
    (assertCanMessageInConversation named senderId).Uses Cmd.Neutral :=
  uses_assertCanMessageInConversation senderId trivial fun _ _ => trivial

theorem neutral_announceTo (user : UserId) : (announceTo named senderId user).Uses Cmd.Neutral := by
  refine ⟨trivial, fun _ => ?_⟩
  show (if user = senderId then _ else syncUnread named user : M Unit).Uses Cmd.Neutral
  split
  · trivial
  · exact ⟨trivial, fun _ => ⟨trivial, fun _ => trivial⟩⟩

theorem neutral_publishTo (messageId : MessageId) (userIds : List UserId) :
    (publishTo named senderId messageId userIds).Uses Cmd.Neutral := by
  induction userIds with
  | nil => trivial
  | cons user userIds ih => exact ⟨trivial, fun _ => (neutral_announceTo user).bind fun _ => ih⟩

theorem neutral_publish : ∀ published, (publish named senderId published).Uses Cmd.Neutral
  | (_, none) => trivial
  | (message, some conversation) =>
      (neutral_publishTo message.id conversation.participants).bind fun _ => trivial

theorem licensed_send (messageType : MessageType) (content : String) :
    (Chat.send named senderId messageType content).Licensed exec Cmd.Earned
      (fun h' _ => OnlySent conversationId userId h') [] := by
  rw [Chat.send]
  have hs : OnlySent conversationId userId [] := onlySent_nil
  refine (hs.licensed (p := issue (.hasParticipantRecord named senderId))
    ⟨trivial, fun _ => trivial⟩).bind fun h canAccess hs => ?_
  refine Licensed.bind (Q := fun h' _ => OnlySent conversationId userId h') ?_ fun _ _ hs => hs
  rw [sendAs]
  split
  · refine (hs.licensed (p := issue (.rejoin named senderId))
      ⟨trivial, fun _ => trivial⟩).bind fun h _ hs => ?_
    refine (hs.licensed neutral_assertCanMessage).bind fun h allowed hs => ?_
    cases allowed with
    | error error => exact hs
    | ok => exact hs.insertAndCount messageType (some content)
  · exact hs

theorem licensed_publishSystemMessage :
    (Chat.publishSystemMessage named senderId).Licensed exec Cmd.Earned
      (fun h' _ => OnlySent conversationId userId h') [] := by
  rw [Chat.publishSystemMessage]
  have hs : OnlySent conversationId userId [] := onlySent_nil
  refine (hs.licensed (p := issue (.isParticipant named senderId))
    ⟨trivial, fun _ => trivial⟩).bind fun h isMember hs => ?_
  rw [publishAs]
  split
  · refine (hs.insertAndCount .system none).bind fun h message hs => ?_
    cases message with
    | error error => exact hs
    | ok published => exact hs.licensed (neutral_publish published)
  · exact hs

theorem licensed_markRead (messageId : MessageId) (user : UserId) :
    (Chat.markRead named messageId user).Licensed exec Cmd.Earned
      (fun h' _ => Settled conversationId userId h') [] := by
  refine ⟨trivial, fun w => ?_⟩
  obtain ⟨inserted, hinserted⟩ : ∃ r, r = (exec (.insertReceipt messageId user) w).1 := ⟨_, rfl⟩
  rw [← hinserted]
  cases inserted with
  | false =>
      refine ⟨fun howes => ?_, fun _ => rfl⟩
      rcases owesReset_cons.mp howes with ⟨messageId', hupdate⟩ | ⟨-, howes⟩
      · cases hupdate
      · exact not_owesReset_nil howes
  | true =>
      refine ⟨List.mem_singleton_self _,
        fun _ => ⟨trivial, fun _ => ⟨fun howes => ?_, fun _ => rfl⟩⟩⟩
      rcases owesReset_cons.mp howes with ⟨messageId', hupdate⟩ | ⟨hreset, howes⟩
      · cases hupdate
      rcases owesReset_cons.mp howes with ⟨messageId', hupdate⟩ | ⟨-, howes⟩
      · -- what it owes is what it does last
        cases hupdate
        exact hreset rfl
      rcases owesReset_cons.mp howes with ⟨messageId', hupdate⟩ | ⟨-, howes⟩
      · cases hupdate
      · exact not_owesReset_nil howes

theorem licensed_readTask (task : ReadTask) :
    task.program.Licensed exec Cmd.Earned (fun h' _ => Settled conversationId userId h') [] := by
  cases task with
  | send named senderId messageType content =>
      exact Licensed.map ((licensed_send messageType content).mono fun _ _ hs => hs.settled)
  | publishSystemMessage named senderId =>
      exact Licensed.map (licensed_publishSystemMessage.mono fun _ _ hs => hs.settled)
  | markRead named messageId user => exact Licensed.map (licensed_markRead messageId user)

end Calls

/-! ### What a command changes -/

section Exec

variable {conversationId named : ConversationId} {userId user : UserId} {w : World} {c : Cmd}

theorem participant_updateParticipant {f : ParticipantRow → ParticipantRow}
    {hf : ∀ row, (f row).key = row.key} :
    (w.updateParticipant named user f hf).participant conversationId userId =
      (w.participant conversationId userId).map fun row =>
        if row.key = (named, user) then f row else row := by
  show (w.participants.update _ f hf).find (conversationId, userId) = _
  rw [Sql.Table.find_update]
  simp only [decide_eq_true_eq]
  rfl

/-- An update that keeps the pointers. -/
theorem lastRead_updateParticipant {f : ParticipantRow → ParticipantRow}
    {hf : ∀ row, (f row).key = row.key}
    (hsame : ∀ row, row.key = (conversationId, userId) → row.key = (named, user) →
      (f row).lastReadMessageId = row.lastReadMessageId) :
    (w.updateParticipant named user f hf).lastRead conversationId userId =
      w.lastRead conversationId userId := by
  rw [World.lastRead, World.lastRead, participant_updateParticipant]
  cases hfind : w.participant conversationId userId with
  | none => rfl
  | some row =>
      have hkey := (Sql.Table.mem_of_find hfind).2
      rw [Option.map_some, Option.bind_some, Option.bind_some]
      split
      · rename_i hnamed
        exact hsame row hkey hnamed
      · rfl

/-- The pointer of a participant is moved to the message. -/
theorem lastRead_updateLastRead (messageId : MessageId) :
    (exec (.updateLastRead conversationId userId messageId) w).2.lastRead conversationId userId =
        some messageId ∨
      (exec (.updateLastRead conversationId userId messageId) w).2.lastRead conversationId userId =
        w.lastRead conversationId userId := by
  have hparticipant :
      (exec (.updateLastRead conversationId userId messageId) w).2.participant
          conversationId userId =
        (w.participant conversationId userId).map fun row =>
          if row.key = (conversationId, userId) then
            { row with lastReadMessageId := some messageId }
          else row :=
    participant_updateParticipant (f := ({ · with lastReadMessageId := some messageId }))
  rw [World.lastRead, World.lastRead, hparticipant]
  cases hfind : w.participant conversationId userId with
  | none => exact .inr rfl
  | some row =>
      have hkey := (Sql.Table.mem_of_find hfind).2
      rw [Option.map_some, if_pos hkey]
      exact .inl rfl

/-- The count of another participant, or for another conversation, stays. -/
theorem unread_update (h : ¬ (user = userId ∧ named = conversationId)) (count : ℕ) :
    Function.update w.unread user (Function.update (w.unread user) named count) userId
      conversationId = w.unread userId conversationId := by
  by_cases huser : user = userId
  · subst huser
    rw [Function.update_self, Function.update_of_ne fun heq => h ⟨rfl, heq.symm⟩]
  · rw [Function.update_of_ne (Ne.symm huser)]

theorem exec_neutral (h : c.Neutral) :
    (exec c w).2.messages = w.messages ∧ (exec c w).2.unread = w.unread ∧
      (exec c w).2.lastRead conversationId userId = w.lastRead conversationId userId := by
  cases c with
  | insertMessage | incrUnread | updateLastRead | resetUnread | updateContent | softDelete =>
      exact h.elim
  | rejoin named user =>
      exact ⟨rfl, rfl,
        lastRead_updateParticipant (f := ({ · with leftAt := none })) fun _ _ _ => rfl⟩
  | insertReaction | insertReceipt =>
      rw [exec]
      split <;> exact ⟨rfl, rfl, rfl⟩
  | _ => exact ⟨rfl, rfl, rfl⟩

/-- A message is stored before all others, or nothing is. -/
theorem exec_insertMessage (named : ConversationId) (senderId : UserId) (messageType : MessageType)
    (content : Option String) :
    ((exec (.insertMessage named senderId messageType content) w).1 = none ∧
      (exec (.insertMessage named senderId messageType content) w).2.messages = w.messages) ∨
    ∃ row, (exec (.insertMessage named senderId messageType content) w).1 = some row ∧
      row.conversationId = named ∧ row.senderId = senderId ∧
      row.id ∉ w.messages.rows.map MessageRow.id ∧
      (exec (.insertMessage named senderId messageType content) w).2.messages.rows =
        row :: w.messages.rows := by
  rw [exec, World.insertMessage]
  dsimp only
  split
  · rename_i hnew
    exact .inr ⟨_, rfl, rfl, rfl, hnew.1, rfl⟩
  · exact .inl ⟨rfl, rfl⟩

theorem exec_insertMessage_same (named : ConversationId) (senderId : UserId)
    (messageType : MessageType) (content : Option String) :
    (exec (.insertMessage named senderId messageType content) w).2.participants = w.participants ∧
      (exec (.insertMessage named senderId messageType content) w).2.unread = w.unread := by
  rw [exec, World.insertMessage]
  dsimp only
  split <;> exact ⟨rfl, rfl⟩

/-- What is stored stays. -/
theorem stored_after {h : List ReadTold} (hearned : c.Earned h) {messageId : MessageId}
    (hmem : messageId ∈ w.messages.rows.map MessageRow.id) :
    messageId ∈ (exec c w).2.messages.rows.map MessageRow.id := by
  cases c with
  | updateContent | softDelete => exact hearned.elim
  | insertMessage named senderId messageType content =>
      rcases exec_insertMessage (w := w) named senderId messageType content with
        ⟨-, hsame⟩ | ⟨row, -, -, -, -, hrows⟩
      · rw [hsame]
        exact hmem
      · rw [hrows]
        exact List.mem_cons_of_mem _ hmem
  | insertReaction | insertReceipt =>
      rw [exec]
      split <;> exact hmem
  | _ => exact hmem

end Exec

/-! ### Runs -/

section Runs

variable {ι : Type} [DecidableEq ι] {conversationId : ConversationId} {userId : UserId}
  {s : ReadScene ι} {i : ι} {c : Cmd}

theorem owesReset_after (hne : c ≠ .resetUnread userId conversationId)
    (h : ∃ j, OwesReset conversationId userId (s.told j)) :
    ∃ j, OwesReset conversationId userId ((s.after exec i c).told j) := by
  obtain ⟨j, howes⟩ := h
  refine ⟨j, ?_⟩
  by_cases hij : i = j
  · subst hij
    rw [Scene.told_after_self]
    exact owesReset_cons.mpr (.inr ⟨hne, howes⟩)
  · rw [Scene.told_after_of_ne exec hij]
    exact howes

variable (conversationId userId) in
/-- Were all that is stored counted, the count would be that of the messages
that are newer than the pointer. -/
def Account (s : ReadScene ι) : Prop :=
  s.world.unread userId conversationId + s.count (StoredByOther conversationId userId) =
    s.world.newerByOthers conversationId userId + s.count (CountedUnread conversationId userId)

variable (conversationId userId) in
/-- What holds of one participant of one conversation throughout a run. -/
structure KeepsUp (s : ReadScene ι) : Prop where
  conversation : (s.world.conversations.find conversationId).isSome
  member : (s.world.participantsOf conversationId).count userId = 1
  finds : ∀ j, Finds conversationId userId (s.told j)
  receipts : ∀ j messageId user, ⟨.insertReceipt messageId user, true⟩ ∈ s.told j →
    messageId ∈ s.world.messages.rows.map MessageRow.id
  stored : s.world.Stored (s.world.lastRead conversationId userId)
  account : (∃ j, OwesReset conversationId userId (s.told j)) ∨ Account conversationId userId s

theorem KeepsUp.finds_after (h : KeepsUp conversationId userId s) (j : ι) :
    Finds conversationId userId ((s.after exec i c).told j) := by
  intro conversation hmem
  rcases (Scene.mem_told_after exec).mp hmem with ⟨rfl, heq⟩ | hmem
  · obtain ⟨rfl, hreply⟩ := Sigma.mk.inj heq
    cases eq_of_heq hreply
    obtain ⟨row, hrow⟩ := Option.isSome_iff_exists.mp h.conversation
    refine ⟨⟨row, s.world.participantsOf conversationId⟩, ?_, h.member⟩
    show (s.world.conversations.find conversationId).map _ = _
    rw [hrow]
    rfl
  · exact h.finds j conversation hmem

theorem KeepsUp.receipts_after (h : KeepsUp conversationId userId s)
    (hearned : c.Earned (s.told i)) (j : ι) (messageId : MessageId) (user : UserId)
    (hmem : ⟨.insertReceipt messageId user, true⟩ ∈ (s.after exec i c).told j) :
    messageId ∈ (s.after exec i c).world.messages.rows.map MessageRow.id := by
  refine stored_after hearned ?_
  rcases (Scene.mem_told_after exec).mp hmem with ⟨rfl, heq⟩ | hmem
  · obtain ⟨rfl, hreply⟩ := Sigma.mk.inj heq
    have hinserted := eq_of_heq hreply
    rw [exec] at hinserted
    split at hinserted
    · rename_i hfound
      obtain ⟨row, hrow⟩ := Option.isSome_iff_exists.mp hfound
      obtain ⟨hrow, hid⟩ := Sql.Table.mem_of_find hrow
      exact List.mem_map.mpr ⟨row, hrow, hid⟩
    · cases hinserted
  · exact h.receipts j messageId user hmem

/-- The pointer stays, or moves to a message that is stored. -/
theorem KeepsUp.lastRead_after (h : KeepsUp conversationId userId s)
    (hearned : c.Earned (s.told i)) :
    (s.after exec i c).world.lastRead conversationId userId =
        s.world.lastRead conversationId userId ∨
      ∃ messageId, c = .updateLastRead conversationId userId messageId ∧
        (s.after exec i c).world.lastRead conversationId userId = some messageId ∧
        messageId ∈ s.world.messages.rows.map MessageRow.id := by
  have hneutral : c.Neutral → (s.after exec i c).world.lastRead conversationId userId =
      s.world.lastRead conversationId userId := fun hc => (exec_neutral hc).2.2
  cases c with
  | updateContent | softDelete => exact hearned.elim
  | incrUnread | resetUnread => exact .inl rfl
  | insertMessage named senderId messageType content =>
      exact .inl (lastRead_congr (exec_insertMessage_same named senderId messageType content).1)
  | updateLastRead named user messageId =>
      by_cases hown : (conversationId, userId) = (named, user)
      · obtain ⟨rfl, rfl⟩ := Prod.mk.inj hown
        rcases lastRead_updateLastRead (w := s.world) messageId with hmoved | hsame
        · exact .inr ⟨messageId, rfl, hmoved, h.receipts i messageId _ hearned⟩
        · exact .inl hsame
      · refine .inl (lastRead_updateParticipant
          (f := ({ · with lastReadMessageId := some messageId })) fun row hkey hkey' => ?_)
        exact absurd (hkey.symm.trans hkey') hown
  | _ => exact .inl (hneutral trivial)

theorem KeepsUp.stored_after (h : KeepsUp conversationId userId s)
    (hearned : c.Earned (s.told i)) :
    (s.after exec i c).world.Stored ((s.after exec i c).world.lastRead conversationId userId) := by
  intro id hid
  rcases h.lastRead_after hearned with hsame | ⟨messageId, -, hmoved, hstored⟩
  · rw [hsame] at hid
    exact Chat.stored_after hearned (h.stored id hid)
  · rw [hmoved] at hid
    cases hid
    exact Chat.stored_after hearned hstored

omit [DecidableEq ι] in
/-- A command that moves neither the pointer nor the count, and neither stores
nor counts. -/
theorem Account.congr (h : Account conversationId userId s)
    (hmessages : (exec c s.world).2.messages = s.world.messages)
    (hunread : (exec c s.world).2.unread userId conversationId =
      s.world.unread userId conversationId)
    (hread : (exec c s.world).2.lastRead conversationId userId =
      s.world.lastRead conversationId userId)
    (hstored : StoredByOther conversationId userId ⟨c, (exec c s.world).1⟩ = false)
    (hcounted : CountedUnread conversationId userId ⟨c, (exec c s.world).1⟩ = false) :
    Account conversationId userId (s.after exec i c) := by
  rw [Account, Scene.count_after_of_false hstored, Scene.count_after_of_false hcounted,
    Scene.after_world, hunread, newerByOthers_congr hmessages hread]
  exact h

omit [DecidableEq ι] in
theorem Account.neutral (h : Account conversationId userId s) (hc : c.Neutral) :
    Account conversationId userId (s.after exec i c) := by
  obtain ⟨hmessages, hunread, hread⟩ := exec_neutral (w := s.world) hc
  refine h.congr hmessages (by rw [hunread]) hread ?_ ?_
  all_goals
    cases c with
    | insertMessage | incrUnread => exact hc.elim
    | _ => rfl

/-- A new message of another participant is newer than the pointer, and is
stored and not counted yet. -/
theorem KeepsUp.account_insertMessage (h : KeepsUp conversationId userId s)
    (haccount : Account conversationId userId s) (named : ConversationId) (senderId : UserId)
    (messageType : MessageType) (content : Option String) :
    Account conversationId userId
      (s.after exec i (.insertMessage named senderId messageType content)) := by
  obtain ⟨hparticipants, hunread⟩ :=
    exec_insertMessage_same (w := s.world) named senderId messageType
    content
  have hread : (exec (.insertMessage named senderId messageType content) s.world).2.lastRead
      conversationId userId = s.world.lastRead conversationId userId := lastRead_congr hparticipants
  rcases exec_insertMessage (w := s.world) named senderId messageType content with
    ⟨hnone, hsame⟩ | ⟨row, hsome, rfl, rfl, hnew, hrows⟩
  · refine haccount.congr hsame (by rw [hunread]) hread ?_ rfl
    simp [StoredByOther, hnone]
  · rw [Account, World.newerByOthers] at haccount
    rw [Account, Scene.count_after_of_false (P := CountedUnread conversationId userId) rfl,
      Scene.count_after, Scene.after_world, hunread, World.newerByOthers, hread,
      newerThan_cons h.stored hnew hrows, List.countP_cons, ← Nat.add_assoc, haccount]
    simp only [StoredByOther, hsome, Option.isSome_some, and_true]
    omega

omit [DecidableEq ι] in
theorem Account.incrUnread (h : Account conversationId userId s) (user : UserId)
    (named : ConversationId) :
    Account conversationId userId (s.after exec i (.incrUnread user named)) := by
  by_cases hown : user = userId ∧ named = conversationId
  · obtain ⟨rfl, rfl⟩ := hown
    have hone : (s.after exec i (.incrUnread user named)).world.unread user named =
        s.world.unread user named + 1 := by simp [exec]
    have hsame : (s.after exec i (.incrUnread user named)).world.newerByOthers named user =
        s.world.newerByOthers named user := rfl
    rw [Account] at h
    rw [Account, Scene.count_after_of_false (P := StoredByOther named user) rfl,
      Scene.count_after_of_true (P := CountedUnread named user) (by simp [CountedUnread]),
      hone, hsame]
    omega
  · exact h.congr rfl (unread_update hown _) rfl rfl (by simpa [CountedUnread] using hown)

omit [DecidableEq ι] in
theorem Account.resetUnread (h : s.count (StoredByOther conversationId userId) =
      s.world.newerByOthers conversationId userId + s.count (CountedUnread conversationId userId)) :
    Account conversationId userId (s.after exec i (.resetUnread userId conversationId)) := by
  have hzero : (s.after exec i (.resetUnread userId conversationId)).world.unread userId
      conversationId = 0 := by simp [exec]
  rw [Account, Scene.count_after_of_false (P := StoredByOther conversationId userId) rfl,
    Scene.count_after_of_false (P := CountedUnread conversationId userId) rfl, h, hzero,
    Nat.zero_add]
  rfl

theorem KeepsUp.account_after (h : KeepsUp conversationId userId s) (hearned : c.Earned (s.told i))
    (hreads : ReadsOn conversationId userId i c s) :
    (∃ j, OwesReset conversationId userId ((s.after exec i c).told j)) ∨
      Account conversationId userId (s.after exec i c) := by
  by_cases hreset : c = .resetUnread userId conversationId
  · subst hreset
    rcases hreads.2 rfl with ⟨j, hne, howes⟩ | haccount
    · refine .inl ⟨j, ?_⟩
      rw [Scene.told_after_of_ne exec hne.symm]
      exact howes
    · exact .inr (Account.resetUnread haccount)
  rcases h.account with howes | haccount
  · exact .inl (owesReset_after hreset howes)
  have hneutral : c.Neutral → Account conversationId userId (s.after exec i c) := haccount.neutral
  cases c with
  | updateContent | softDelete => exact hearned.elim
  | insertMessage named senderId messageType content =>
      exact .inr (h.account_insertMessage haccount named senderId messageType content)
  | incrUnread user named => exact .inr (haccount.incrUnread user named)
  | updateLastRead named user messageId =>
      by_cases hown : (conversationId, userId) = (named, user)
      · -- the call has to reset the count now
        obtain ⟨rfl, rfl⟩ := Prod.mk.inj hown
        refine .inl ⟨i, ?_⟩
        rw [Scene.told_after_self]
        exact owesReset_cons.mpr (.inl ⟨messageId, rfl⟩)
      · refine .inr (haccount.congr rfl rfl (lastRead_updateParticipant
          (f := ({ · with lastReadMessageId := some messageId })) fun row hkey hkey' => ?_) rfl rfl)
        exact absurd (hkey.symm.trans hkey') hown
  | resetUnread user named =>
      refine .inr (haccount.congr rfl (unread_update (fun hown => hreset ?_) 0) rfl rfl rfl)
      rw [hown.1, hown.2]
  | _ => exact .inr (hneutral trivial)

theorem KeepsUp.after (h : KeepsUp conversationId userId s) (hearned : c.Earned (s.told i))
    (hreads : ReadsOn conversationId userId i c s) :
    KeepsUp conversationId userId (s.after exec i c) where
  conversation := by
    rw [Scene.after_world, exec_conversations]
    exact h.conversation
  member := by
    rw [Scene.after_world, exec_participantsOf]
    exact h.member
  finds := h.finds_after
  receipts := h.receipts_after hearned
  stored := h.stored_after hearned
  account := h.account_after hearned hreads

/-- A pointer of long ago is no newer than the one now. -/
theorem KeepsUp.notOlder_after (h : KeepsUp conversationId userId s) (hearned : c.Earned (s.told i))
    (hreads : ReadsOn conversationId userId i c s) {early : Option MessageId}
    (hearly : s.world.Stored early)
    (hle : s.world.NotOlder (s.world.lastRead conversationId userId) early) :
    (s.after exec i c).world.NotOlder ((s.after exec i c).world.lastRead conversationId userId)
      early := by
  rcases h.lastRead_after hearned with hsame | ⟨messageId, rfl, hmoved, -⟩
  · rw [hsame]
    cases c with
    | updateContent | softDelete => exact hearned.elim
    | insertMessage named senderId messageType content =>
        rcases exec_insertMessage (w := s.world) named senderId messageType content with
          ⟨-, hmessages⟩ | ⟨row, -, -, -, hnew, hrows⟩
        · rw [World.NotOlder, Scene.after_world, newerThan_congr hmessages,
          newerThan_congr hmessages]
          exact hle
        · rw [World.NotOlder, Scene.after_world, newerThan_cons h.stored hnew hrows,
            newerThan_cons hearly hnew hrows]
          exact Nat.succ_le_succ hle
    | insertReaction | insertReceipt =>
        rw [Scene.after_world, exec]
        split <;> exact hle
    | _ => exact hle
  · rw [hmoved]
    exact (hreads.1 messageId rfl).trans hle

variable (conversationId userId) in
/-- The participant's count is that of the messages of others that are newer
than the one that was read last. -/
structure ReadState (w : World) : Prop where
  conversation : (w.findConversation conversationId).isSome
  member : userId ∈ w.participantsOf conversationId
  stored : w.Stored (w.lastRead conversationId userId)
  unread : w.unread userId conversationId = w.newerByOthers conversationId userId

/-- Nobody takes part twice. -/
theorem nodup_participantsOf (w : World) (conversationId : ConversationId) :
    (w.participantsOf conversationId).Nodup := by
  rw [participantsOf_eq]
  refine List.Nodup.map_on ?_ (w.participants.unique.filter _)
  intro key hkey key' hkey' heq
  have hnamed := of_decide_eq_true (List.mem_filter.mp hkey).2
  have hnamed' := of_decide_eq_true (List.mem_filter.mp hkey').2
  exact Prod.ext (hnamed.trans hnamed'.symm) heq

def readCalls (tasks : ι → ReadTask) (w : World) : Conf ι Cmd Cmd.Reply Unit World where
  threads i := (tasks i).program
  scene := ⟨w, []⟩

variable {tasks : ι → ReadTask} {w : World}

theorem ReadState.keepsUp (h : ReadState conversationId userId w) :
    KeepsUp (ι := ι) conversationId userId ⟨w, []⟩ where
  conversation := by simpa [World.findConversation] using h.conversation
  member := List.count_eq_one_of_mem (nodup_participantsOf w conversationId) h.member
  finds _ _ hmem := by cases hmem
  receipts _ _ _ hmem := by cases hmem
  stored := h.stored
  account := .inr (congrArg (· + 0) h.unread)

theorem licensed_readCalls (conversationId : ConversationId) (userId : UserId)
    (tasks : ι → ReadTask) (w : World) :
    (readCalls tasks w).Licensed exec (fun _ => Cmd.Earned)
      fun _ h' _ => Settled conversationId userId h' :=
  fun i => licensed_readTask (tasks i)

/-- **Read state tracks what was read**, in every run in which pointers move on
and what is newer than the pointer is still to be counted when the count is
reset. -/
theorem readState_of_readsOn (h : ReadState conversationId userId w) {sched : List ι}
    (hm : (readCalls tasks w).Meets exec (ReadsOn conversationId userId) sched) :
    (∀ early late, sched = early ++ late →
      ((readCalls tasks w).runs exec sched).scene.world.NotOlder
        (((readCalls tasks w).runs exec sched).scene.world.lastRead conversationId userId)
        (((readCalls tasks w).runs exec early).scene.world.lastRead conversationId userId)) ∧
    (((readCalls tasks w).runs exec sched).AtRest →
      ((readCalls tasks w).runs exec sched).scene.world.unread userId conversationId =
        ((readCalls tasks w).runs exec sched).scene.world.newerByOthers conversationId userId) := by
  have hlic := licensed_readCalls conversationId userId tasks w
  have hreading {sched : List ι}
      (hm : (readCalls tasks w).Meets exec (ReadsOn conversationId userId) sched) :
      KeepsUp conversationId userId ((readCalls tasks w).runs exec sched).scene :=
    hlic.runs_inv (fun _ _ _ hs hearned hreads => hs.after hearned hreads) h.keepsUp hm
  refine ⟨?_, fun hrest => ?_⟩
  · rintro early late rfl
    obtain ⟨hm, hlate⟩ := (Conf.meets_append exec).mp hm
    rw [Conf.runs_append]
    have hstart := hreading hm
    obtain ⟨pointer, hpointer⟩ : ∃ p, p =
        ((readCalls tasks w).runs exec early).scene.world.lastRead conversationId userId := ⟨_, rfl⟩
    rw [← hpointer]
    have hend := (hlic.runs early).runs_inv (I := fun s => KeepsUp conversationId userId s ∧
      s.world.Stored pointer ∧
        s.world.NotOlder (s.world.lastRead conversationId userId) pointer)
      (fun s i c hs hearned hreads => ⟨hs.1.after hearned hreads,
        fun id hid => stored_after hearned (hs.2.1 id hid),
        hs.1.notOlder_after hearned hreads hs.2.1 hs.2.2⟩)
      ⟨hstart, hpointer ▸ hstart.stored, hpointer ▸ le_refl _⟩ hlate
    exact hend.2.2
  · have hs := hreading hm
    have htold := (hlic.runs sched).told_of_atRest hrest
    have hbalanced : ((readCalls tasks w).runs exec sched).scene.count
          (StoredByOther conversationId userId) =
        ((readCalls tasks w).runs exec sched).scene.count
          (CountedUnread conversationId userId) := by
      refine Scene.count_eq_of_told fun j => ?_
      rcases htold j with hnil | ⟨-, hsettled⟩
      · rw [hnil]
        rfl
      · exact hsettled.balanced (hs.finds j)
    rcases hs.account with ⟨j, howes⟩ | haccount
    · rcases htold j with hnil | ⟨-, hsettled⟩
      · rw [hnil] at howes
        exact absurd howes not_owesReset_nil
      · exact absurd howes hsettled.resets
    · rw [Account, hbalanced] at haccount
      exact Nat.add_right_cancel haccount

end Runs

namespace Sample

def sol : UserId := ⟨"sol", by decide⟩
def eve : UserId := ⟨"eve", by decide⟩
def porch : ConversationId := ⟨"porch", by decide⟩
def word (n : ℕ) : MessageId := ⟨"word " ++ toString n, by simp⟩

/-- `sol` has written two messages; `eve` has read them up to this one. -/
def chatting (read : MessageId) (unread : ℕ) : World where
  conversations := ⟨[{ id := porch, type := .roomDirect, roomId := none, connectionId := none
                       createdAt := 1 }], by simp⟩
  participants := ⟨[{ conversationId := porch, userId := sol },
    { conversationId := porch, userId := eve, lastReadMessageId := some read }],
    by simp [ParticipantRow.key, sol, eve]⟩
  messages := ⟨[
    { id := word 1, conversationId := porch, senderId := sol, messageType := .text
      content := some "still there?", createdAt := 3 },
    { id := word 0, conversationId := porch, senderId := sol, messageType := .text
      content := some "good morning", createdAt := 2 }], by decide⟩
  unread := fun userId _ => if userId = eve then unread else 0
  uuids := fun n => word (n + 2)
  clock := fun n => 4 + n

def reading (messageId : MessageId) (_ : Unit) : ReadTask := .markRead porch messageId eve

/-- `eve` has read both, and reads the first again: the second is newer than
what she has read last, and not counted. -/
theorem not_readState_rereading :
    ReadState porch eve (chatting (word 1) 0) ∧
      ((readCalls (reading (word 0)) (chatting (word 1) 0)).runs exec [(), (), ()]).AtRest ∧
      ((readCalls (reading (word 0)) (chatting (word 1) 0)).runs exec
        [(), (), ()]).scene.world.lastRead
        porch eve = some (word 0) ∧
      ((readCalls (reading (word 0)) (chatting (word 1) 0)).runs exec
        [(), (), ()]).scene.world.unread
        eve porch ≠
      ((readCalls (reading (word 0)) (chatting (word 1) 0)).runs exec
        [(), (), ()]).scene.world.newerByOthers porch eve := by
  refine ⟨⟨by decide, by decide, ?_, by decide⟩, fun _ => .inl ⟨(), rfl⟩, by decide, by decide⟩
  rintro id hid
  cases hid
  decide

/-- `eve` has read the first, and reads the second. -/
theorem readState_reading :
    ((readCalls (reading (word 1)) (chatting (word 0) 1)).runs exec [(), (), ()]).scene.world.unread
        eve porch =
      ((readCalls (reading (word 1)) (chatting (word 0) 1)).runs exec
        [(), (), ()]).scene.world.newerByOthers porch eve := by
  refine (readState_of_readsOn ⟨by decide, by decide, ?_, by decide⟩ ?_).2 fun _ => .inl ⟨(), rfl⟩
  · rintro id hid
    cases hid
    decide
  · simp only [Conf.meets_cons, Conf.meets_nil]
    refine ⟨⟨fun _ heq => ?_, fun heq => ?_⟩, ⟨fun messageId heq => ?_, fun heq => ?_⟩,
      ⟨fun _ heq => ?_, fun _ => .inr ?_⟩, trivial⟩
    · cases heq
    · cases heq
    · cases heq
      decide
    · cases heq
    · cases heq
    · decide

end Sample

end Greetup.Chat
