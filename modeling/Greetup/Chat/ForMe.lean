import Greetup.Chat.Preview
import Mathlib.Data.List.Perm.Basic

/-!
A message that its sender deletes for themselves alone: what the others read of
it before and after.

There is one row for all readers, with its flags and its text.
-/

namespace Greetup.Chat

open Connections (UserId)
open Matching (Json)
open Data Interleaving Prog

/-! ### What a user reads -/

namespace World

variable (w w' : World)

/-- The database may return this page. -/
def CanRead (userId : UserId) (conversationId : ConversationId) (cursor : Option Date) (limit : ℕ)
    (page : Thrown ReadPage) : Prop :=
  ∃ order, w.readMessages order conversationId userId cursor limit = page

/-- The user reads the same in both stores. -/
structure SameFor (numberText : ℚ → String) (payloads : MessageId → Json)
    (arrangement : Arrangement MessageRow) (userId : UserId) : Prop where
  pages : ∀ conversationId cursor limit page,
    w.CanRead userId conversationId cursor limit page ↔
      w'.CanRead userId conversationId cursor limit page
  previews : ∀ id, w.inboxPreviews numberText payloads arrangement userId id =
    w'.inboxPreviews numberText payloads arrangement userId id

/-- The message has no text on any page that the user reads. -/
def LostFor (userId : UserId) (messageId : MessageId) : Prop :=
  ∀ conversationId cursor limit page,
    w.CanRead userId conversationId cursor limit (.ok page) →
      ∀ message ∈ page.messages, message.1.id = messageId →
        message.1.isDeleted ∧ message.1.content = ""

/-- From `w` to `w'`, the sender has lost the message and nobody else has lost
anything. -/
structure DeletedForSender (numberText : ℚ → String) (payloads : MessageId → Json)
    (arrangement : Arrangement MessageRow) (message : MessageRow) : Prop where
  own : w'.LostFor message.senderId message.id
  others : ∀ userId, userId ≠ message.senderId →
    w.SameFor w' numberText payloads arrangement userId

/-- The message is on the pages of the user, or its text is the preview of its
conversation. -/
def Shows (numberText : ℚ → String) (payloads : MessageId → Json)
    (arrangement : Arrangement MessageRow) (userId : UserId) (message : MessageRow) : Prop :=
  message ∈ w.visibleTo userId message.conversationId ∨
    w.findLatestByConversationIds arrangement [message.conversationId.val]
        message.conversationId.val = some message ∧
      inboxPreviewFromMessageRow numberText payloads (toMessageRow message) ≠ none

end World

/-! ### Pages -/

/-- A page from the messages as they are read, newest first. -/
def readPage (reactionsOf : MessageId → List ReactionRow) (limit : ℕ)
    (messages : List ReadMessage) : ReadPage :=
  let page := cutPage (·.createdAt) limit (messages.take (limit + 1))
  { messages := page.rows.map fun message => (message, reactionsOf message.id)
    nextCursor := page.nextCursor }

/-- The rows of a page, in no order, before it is cut. -/
def World.pageRows (w : World) (conversationId : ConversationId) (userId : UserId)
    (cursor : Option Date) : List MessageRow :=
  olderThan Date.toTimestamp (w.visibleTo userId conversationId) MessageRow.createdAt cursor

section Pages

variable {w : World} {conversationId : ConversationId} {userId : UserId} {cursor : Option Date}
  {limit : ℕ}

theorem readMessages_of_not_participant (h : ¬ w.isParticipant conversationId userId)
    (order : MessageOrder) :
    w.readMessages order conversationId userId cursor limit = .error .unauthorized := by
  rw [World.readMessages, World.getMessages, if_neg h]
  rfl

theorem readMessages_eq (h : w.isParticipant conversationId userId) (order : MessageOrder) :
    w.readMessages order conversationId userId cursor limit =
      .ok (readPage w.reactionsOf limit
        ((order.arrange (w.pageRows conversationId userId cursor)).map toMessageRow)) := by
  rw [World.readMessages, World.getMessages, if_pos h, getMessageRows_eq, fetchPage, readPage,
    ← List.map_take, cutPage_map]
  simp only [World.withReactions, Except.map, List.map_map]
  rfl

theorem mem_pageRows {row : MessageRow} (h : row ∈ w.pageRows conversationId userId cursor) :
    row ∈ w.messages.rows :=
  List.mem_of_mem_filter (List.mem_of_mem_filter h)

theorem pageRows_none : w.pageRows conversationId userId none = w.visibleTo userId conversationId :=
  List.filter_eq_self.mpr fun _ _ => rfl

/-- A page that is long enough shows every message. -/
theorem messages_readPage {messages : List ReadMessage} (h : messages.length ≤ limit)
    (reactionsOf : MessageId → List ReactionRow) :
    (readPage reactionsOf limit messages).messages =
      messages.reverse.map fun message => (message, reactionsOf message.id) := by
  rw [readPage, cutPage_of_le h]

theorem mem_of_mem_cutPage {α δ : Type} {f : α → δ} {rows : List α} {row : α}
    (h : row ∈ (cutPage f limit rows).rows) : row ∈ rows := by
  rw [cutPage] at h
  dsimp only at h
  split_ifs at h
  · exact List.mem_of_mem_take (List.mem_reverse.mp h)
  · exact List.mem_reverse.mp h

/-- What is on a page was read from a row. -/
theorem mem_readPage {reactionsOf : MessageId → List ReactionRow} {messages : List ReadMessage}
    {message : ReadMessage × List ReactionRow}
    (h : message ∈ (readPage reactionsOf limit messages).messages) : message.1 ∈ messages := by
  obtain ⟨read, hread, rfl⟩ := List.mem_map.mp h
  exact List.mem_of_mem_take (mem_of_mem_cutPage hread)

end Pages

/-! ### The row that is deleted -/

/-- What `softDelete` writes, when it is not for all. -/
def MessageRow.removed (raw : MessageRow) : MessageRow :=
  { raw with isDeleted := true, deletedForAll := false, content := none }

/-- The rows after the one with this id was deleted. -/
def removing (messageId : MessageId) (raw : MessageRow) : MessageRow :=
  if raw.id = messageId then raw.removed else raw

section Removing

variable {messageId : MessageId} {raw : MessageRow}

@[simp] theorem removing_id : (removing messageId raw).id = raw.id := by
  rw [removing]
  split <;> rfl

@[simp] theorem removing_conversationId :
    (removing messageId raw).conversationId = raw.conversationId := by
  rw [removing]
  split <;> rfl

@[simp] theorem removing_createdAt : (removing messageId raw).createdAt = raw.createdAt := by
  rw [removing]
  split <;> rfl

theorem removing_of_ne (h : raw.id ≠ messageId) : removing messageId raw = raw := if_neg h

theorem removing_self : removing raw.id raw = raw.removed := if_pos rfl

theorem toMessageRow_removed_content : (toMessageRow raw.removed).content = "" := by
  simp [toMessageRow, MessageRow.removed]

/-- Nothing is read differently of a message that was already deleted, and not
for all. -/
theorem toMessageRow_removed_iff :
    toMessageRow raw.removed = toMessageRow raw ↔ raw.isDeleted ∧ ¬ raw.deletedForAll := by
  constructor
  · intro h
    have hdeleted : (toMessageRow raw.removed).isDeleted = (toMessageRow raw).isDeleted := by rw [h]
    have hall : (toMessageRow raw.removed).deletedForAll = (toMessageRow raw).deletedForAll := by
      rw [h]
    exact ⟨hdeleted.symm, Bool.not_eq_true _ ▸ hall.symm⟩
  · rintro ⟨hdeleted, hall⟩
    simp [toMessageRow, MessageRow.removed, hdeleted, hall]

end Removing

/-! ### The store after it -/

def World.removed (w : World) (messageId : MessageId) : World :=
  w.updateMessage messageId MessageRow.removed fun _ => rfl

section Removed

variable {w : World} {messageId : MessageId} {message row : MessageRow}
  {conversationId : ConversationId} {userId : UserId} {cursor : Option Date} {limit : ℕ}

theorem run_deleteMessage (hmem : message ∈ w.messages.rows) :
    ((deleteMessage message.id message.senderId false).run exec w).2 = w.removed message.id := by
  have hfind : w.messages.find message.id = some message :=
    Sql.Table.find_eq_some.mpr ⟨hmem, rfl⟩
  rw [deleteMessage, run_bind]
  show ((deleteExisting message.id message.senderId false (w.messages.find message.id)).run exec
    w).2 = _
  rw [hfind, deleteExisting, if_neg (not_not.mpr rfl)]
  rfl

theorem removed_rows : (w.removed messageId).messages.rows =
    w.messages.rows.map (removing messageId) :=
  List.map_congr_left fun row _ => by simp [removing]

theorem mem_removed_rows :
    row ∈ (w.removed messageId).messages.rows ↔
      ∃ raw ∈ w.messages.rows, removing messageId raw = row := by
  rw [removed_rows, List.mem_map]

theorem pageRows_removed : (w.removed messageId).pageRows conversationId userId cursor =
    (w.pageRows conversationId userId cursor).map (removing messageId) := by
  have hdate : (fun row : MessageRow => cursor.all fun d => row.createdAt < Date.toTimestamp d) ∘
      removing messageId = fun row => cursor.all fun d => row.createdAt < Date.toTimestamp d := by
    funext row
    simp only [Function.comp_apply, removing_createdAt]
  have hconversation (hidden : Option Date) : (fun row : MessageRow => decide
      (row.conversationId = conversationId ∧ hidden.all (Date.toTimestamp · < row.createdAt))) ∘
      removing messageId = fun row => decide
      (row.conversationId = conversationId ∧ hidden.all (Date.toTimestamp · < row.createdAt)) := by
    funext row
    simp only [Function.comp_apply, removing_createdAt, removing_conversationId]
  rw [World.pageRows, World.pageRows, olderThan, olderThan, World.visibleTo, World.visibleTo,
    World.messagesAfter, World.messagesAfter, removed_rows, List.filter_map, hconversation,
    List.filter_map, hdate]
  rfl

/-- Rows that are read as before, in any order, make the same pages. -/
theorem canRead_removed_iff
    (h : w.isParticipant conversationId userId → ∀ raw ∈ w.pageRows conversationId userId cursor,
      toMessageRow (removing messageId raw) = toMessageRow raw) (page : Thrown ReadPage) :
    w.CanRead userId conversationId cursor limit page ↔
      (w.removed messageId).CanRead userId conversationId cursor limit page := by
  by_cases hmember : w.isParticipant conversationId userId
  · have hread {l : List MessageRow} (hl : l.Perm (w.pageRows conversationId userId cursor)) :
        (l.map (removing messageId)).map toMessageRow = l.map toMessageRow := by
      rw [List.map_map]
      exact List.map_congr_left fun raw hraw => h hmember raw (hl.mem_iff.mp hraw)
    have hmember' : (w.removed messageId).isParticipant conversationId userId := hmember
    constructor
    · rintro ⟨order, rfl⟩
      have hperm := order.perm (w.pageRows conversationId userId cursor)
      have hsorted : ((order.arrange (w.pageRows conversationId userId cursor)).map
          (removing messageId)).Pairwise fun a b => b.createdAt ≤ a.createdAt :=
        List.pairwise_map.mpr ((order.sorted _).imp fun hle => by
          simpa only [removing_createdAt] using hle)
      obtain ⟨order', horder'⟩ := NewestFirst.exists_arrange (hperm.map _) hsorted
      refine ⟨order', ?_⟩
      rw [readMessages_eq hmember, readMessages_eq hmember', pageRows_removed, horder', hread hperm]
      rfl
    · rintro ⟨order', rfl⟩
      -- the rows that were returned, as they were before the deletion
      obtain ⟨target, htarget, hperm⟩ : ∃ target : List MessageRow,
          order'.arrange ((w.removed messageId).pageRows conversationId userId cursor) =
            target.map (removing messageId) ∧
          target.Perm (w.pageRows conversationId userId cursor) := by
        have hreturned :=
          order'.perm ((w.removed messageId).pageRows conversationId userId cursor)
        rw [pageRows_removed] at hreturned ⊢
        exact (congrFun₂ (List.eq_map_comp_perm (removing messageId)) _ _).mpr hreturned
      have hsorted : target.Pairwise fun a b => b.createdAt ≤ a.createdAt := by
        have hmapped := order'.sorted ((w.removed messageId).pageRows conversationId userId cursor)
        rw [htarget, List.pairwise_map] at hmapped
        exact hmapped.imp fun hle => by simpa only [removing_createdAt] using hle
      obtain ⟨order, horder⟩ := NewestFirst.exists_arrange hperm hsorted
      refine ⟨order, ?_⟩
      rw [readMessages_eq hmember, readMessages_eq hmember', horder, htarget, hread hperm]
      rfl
  · have hmember' : ¬ (w.removed messageId).isParticipant conversationId userId := hmember
    constructor
    · rintro ⟨order, rfl⟩
      exact ⟨order, by rw [readMessages_of_not_participant hmember,
        readMessages_of_not_participant hmember']⟩
    · rintro ⟨order, rfl⟩
      exact ⟨order, by rw [readMessages_of_not_participant hmember,
        readMessages_of_not_participant hmember']⟩

/-- The message as it is read from now on. -/
theorem read_removed {page : ReadPage}
    (hpage : (w.removed messageId).CanRead userId conversationId cursor limit (.ok page))
    {read : ReadMessage × List ReactionRow} (hread : read ∈ page.messages)
    (hid : read.1.id = messageId) :
    read.1.isDeleted ∧ ¬ read.1.deletedForAll ∧ read.1.content = "" := by
  obtain ⟨order, hpage⟩ := hpage
  by_cases hmember : (w.removed messageId).isParticipant conversationId userId
  · rw [readMessages_eq hmember] at hpage
    cases Except.ok.inj hpage
    obtain ⟨row, hrow, heq⟩ := List.mem_map.mp (mem_readPage hread)
    rw [(order.perm _).mem_iff, pageRows_removed] at hrow
    obtain ⟨raw, -, rfl⟩ := List.mem_map.mp hrow
    have hraw : (removing messageId raw).id = read.1.id := congrArg ReadMessage.id heq
    rw [removing_id, hid] at hraw
    rw [← heq, ← hraw, removing_self]
    exact ⟨rfl, Bool.false_ne_true, toMessageRow_removed_content⟩
  · rw [readMessages_of_not_participant hmember] at hpage
    cases hpage

end Removed

/-! ### Previews -/

section Previews

variable {w : World} {arrangement : Arrangement MessageRow} {messageId : MessageId}
  {message row : MessageRow} {userId : UserId} {ids : List String} {id : String}

theorem lastAt_removed : (w.removed messageId).lastAt id = w.lastAt id := by
  have hconversation : (fun row : MessageRow => decide (row.conversationId.val = id)) ∘
      removing messageId = fun row => decide (row.conversationId.val = id) := by
    funext row
    simp only [Function.comp_apply, removing_conversationId]
  have htime : MessageRow.createdAt ∘ removing messageId = MessageRow.createdAt := by
    funext row
    exact removing_createdAt
  rw [World.lastAt, World.lastAt, removed_rows, List.filter_map, hconversation, List.map_map, htime]

theorem mem_candidates_removed :
    row ∈ (w.removed messageId).candidates arrangement ids ↔
      ∃ raw ∈ w.candidates arrangement ids, removing messageId raw = row := by
  rw [mem_candidates_iff, mem_removed_rows]
  constructor
  · rintro ⟨⟨raw, hmem, rfl⟩, hid, t, ht, htime⟩
    rw [removing_conversationId, lastAt_removed] at ht
    rw [removing_conversationId] at hid
    rw [removing_createdAt] at htime
    exact ⟨raw, mem_candidates_iff.mpr ⟨hmem, hid, t, ht, htime⟩, rfl⟩
  · rintro ⟨raw, hcandidate, rfl⟩
    obtain ⟨hmem, hid, t, ht, htime⟩ := mem_candidates_iff.mp hcandidate
    refine ⟨⟨raw, hmem, rfl⟩, ?_, t, ?_, ?_⟩
    · rwa [removing_conversationId]
    · rwa [removing_conversationId, lastAt_removed]
    · rwa [removing_createdAt]

theorem pickedRank_removing (raw : MessageRow) :
    pickedRank (removing messageId raw) = pickedRank raw := by
  rw [pickedRank, pickedRank, removing_createdAt, removing_id]

/-- The row that is picked is the same, whatever its flags. -/
theorem findLatest_removed :
    (w.removed messageId).findLatestByConversationIds arrangement ids id =
      (w.findLatestByConversationIds arrangement ids id).map (removing messageId) := by
  ext row
  rw [Option.map_eq_some_iff, findLatest_eq_some_iff]
  constructor
  · rintro ⟨hmem, hid, hmax⟩
    obtain ⟨raw, hraw, rfl⟩ := mem_candidates_removed.mp hmem
    rw [removing_conversationId] at hid
    refine ⟨raw, findLatest_eq_some_iff.mpr ⟨hraw, hid, fun other hother hconversation => ?_⟩, rfl⟩
    have hle := hmax _ (mem_candidates_removed.mpr ⟨other, hother, rfl⟩) (by
      rwa [removing_conversationId])
    rwa [pickedRank_removing, pickedRank_removing] at hle
  · rintro ⟨raw, hfound, rfl⟩
    obtain ⟨hraw, hid, hmax⟩ := findLatest_eq_some_iff.mp hfound
    refine ⟨mem_candidates_removed.mpr ⟨raw, hraw, rfl⟩, by rwa [removing_conversationId], ?_⟩
    intro other hother hconversation
    obtain ⟨before, hbefore, rfl⟩ := mem_candidates_removed.mp hother
    rw [removing_conversationId] at hconversation
    rw [pickedRank_removing, pickedRank_removing]
    exact hmax before hbefore hconversation

/-- The other conversations that are asked for do not matter. -/
theorem findLatest_singleton (h : id ∈ ids) :
    w.findLatestByConversationIds arrangement ids id =
      w.findLatestByConversationIds arrangement [id] id := by
  have hcandidate (row : MessageRow) (hid : row.conversationId.val = id) :
      row ∈ w.candidates arrangement ids ↔ row ∈ w.candidates arrangement [id] := by
    rw [mem_candidates_iff, mem_candidates_iff, hid, List.mem_singleton]
    simp [h]
  ext row
  rw [findLatest_eq_some_iff, findLatest_eq_some_iff]
  constructor
  · rintro ⟨hmem, hid, hmax⟩
    exact ⟨(hcandidate row hid).mp hmem, hid, fun other hother hconversation =>
      hmax other ((hcandidate other hconversation).mpr hother) hconversation⟩
  · rintro ⟨hmem, hid, hmax⟩
    exact ⟨(hcandidate row hid).mpr hmem, hid, fun other hother hconversation =>
      hmax other ((hcandidate other hconversation).mp hother) hconversation⟩

theorem mem_conversationsOf {conversationId : ConversationId} :
    conversationId ∈ w.conversationsOf userId ↔ w.isParticipant conversationId userId := by
  rw [World.conversationsOf, World.isParticipant, Option.any_eq_true]
  simp only [List.mem_map, List.mem_filter, decide_eq_true_eq]
  constructor
  · rintro ⟨row, ⟨hmem, huser, hleft⟩, rfl⟩
    refine ⟨row, Sql.Table.find_eq_some.mpr ⟨hmem, ?_⟩, hleft⟩
    rw [ParticipantRow.key, huser]
  · rintro ⟨row, hfind, hleft⟩
    obtain ⟨hmem, hkey⟩ := Sql.Table.find_eq_some.mp hfind
    obtain ⟨hconversation, huser⟩ := Prod.mk.inj hkey
    exact ⟨row, ⟨hmem, huser, hleft⟩, hconversation⟩

variable (numberText : ℚ → String) (payloads : MessageId → Json)

theorem inboxPreviews_of_participant {conversationId : ConversationId}
    (h : w.isParticipant conversationId userId) :
    w.inboxPreviews numberText payloads arrangement userId conversationId.val =
      (w.findLatestByConversationIds arrangement [conversationId.val] conversationId.val).bind
        fun raw => inboxPreviewFromMessageRow numberText payloads (toMessageRow raw) := by
  have hmem : conversationId.val ∈
      ((w.conversationsOf userId).map (·.val)).dedup.filter (· ≠ "") := by
    refine List.mem_filter.mpr ⟨List.mem_dedup.mpr ?_, decide_eq_true conversationId.2⟩
    exact List.mem_map.mpr ⟨conversationId, mem_conversationsOf.mpr h, rfl⟩
  rw [World.inboxPreviews, World.inboxPreviewsForConversationIds]
  rw [if_pos hmem, findLatest_singleton hmem]

theorem inboxPreviews_of_absent
    (h : ∀ conversationId : ConversationId, w.isParticipant conversationId userId →
      conversationId.val ≠ id) :
    w.inboxPreviews numberText payloads arrangement userId id = none := by
  rw [World.inboxPreviews, World.inboxPreviewsForConversationIds]
  refine if_neg fun hmem => ?_
  obtain ⟨conversationId, hin, hval⟩ :=
    List.mem_map.mp (List.mem_dedup.mp (List.mem_filter.mp hmem).1)
  exact h conversationId (mem_conversationsOf.mp hin) hval

end Previews

/-! ### Who loses the message -/

section ForMe

variable {w : World} {arrangement : Arrangement MessageRow} {message : MessageRow}
  {userId : UserId} {numberText : ℚ → String} {payloads : MessageId → Json}

theorem preview_removed (raw : MessageRow) :
    inboxPreviewFromMessageRow numberText payloads (toMessageRow raw.removed) = none := rfl

/-- A user reads the same if the pages and the previews that change are not
there for that user. -/
theorem sameFor_removed (hmem : message ∈ w.messages.rows)
    (hpages : w.isParticipant message.conversationId userId →
      message ∈ w.visibleTo userId message.conversationId →
        toMessageRow message.removed = toMessageRow message)
    (hpreview : w.isParticipant message.conversationId userId →
      w.findLatestByConversationIds arrangement [message.conversationId.val]
          message.conversationId.val = some message →
        inboxPreviewFromMessageRow numberText payloads (toMessageRow message) = none) :
    w.SameFor (w.removed message.id) numberText payloads arrangement userId where
  pages conversationId cursor limit page := by
    refine canRead_removed_iff (fun hmember raw hraw => ?_) page
    by_cases hid : raw.id = message.id
    · have heq := Sql.Table.eq_of_key (mem_pageRows hraw) hmem hid
      have hvisible : raw ∈ w.visibleTo userId conversationId := List.mem_of_mem_filter hraw
      have hconversation : raw.conversationId = conversationId :=
        (of_decide_eq_true (List.mem_filter.mp hvisible).2).1
      subst hconversation heq
      rw [removing_self]
      exact hpages hmember hvisible
    · rw [removing_of_ne hid]
  previews id := by
    by_cases hin : ∃ conversationId : ConversationId, w.isParticipant conversationId userId ∧
        conversationId.val = id
    · obtain ⟨conversationId, hmember, rfl⟩ := hin
      have hmember' : (w.removed message.id).isParticipant conversationId userId := hmember
      rw [inboxPreviews_of_participant numberText payloads hmember,
        inboxPreviews_of_participant numberText payloads hmember', findLatest_removed]
      cases hfound : w.findLatestByConversationIds arrangement [conversationId.val]
          conversationId.val with
      | none => rfl
      | some raw =>
          rw [Option.map_some, Option.bind_some, Option.bind_some]
          obtain ⟨hcandidate, hconversation, -⟩ := findLatest_eq_some_iff.mp hfound
          by_cases hid : raw.id = message.id
          · have heq := Sql.Table.eq_of_key (mem_candidates_iff.mp hcandidate).1 hmem hid
            have hin : raw.conversationId = conversationId := Subtype.ext hconversation
            subst hin heq
            rw [removing_self, preview_removed, hpreview hmember hfound]
          · rw [removing_of_ne hid]
    · have habsent : ∀ conversationId : ConversationId, w.isParticipant conversationId userId →
          conversationId.val ≠ id := fun conversationId hmember hid =>
        hin ⟨conversationId, hmember, hid⟩
      rw [inboxPreviews_of_absent numberText payloads habsent,
        inboxPreviews_of_absent (w := w.removed message.id) numberText payloads habsent]

/-- A page on which the message can be seen. -/
theorem exists_page_of_visible (hmember : w.isParticipant message.conversationId userId)
    (hvisible : message ∈ w.visibleTo userId message.conversationId) :
    ∃ limit page, w.CanRead userId message.conversationId none limit (.ok page) ∧
      (toMessageRow message, w.reactionsOf message.id) ∈ page.messages := by
  let order : MessageOrder := .sorting
  have hperm := order.perm (w.pageRows message.conversationId userId none)
  have hlength : ((order.arrange (w.pageRows message.conversationId userId none)).map
      toMessageRow).length ≤ (w.pageRows message.conversationId userId none).length := by
    rw [List.length_map, hperm.length_eq]
  refine ⟨(w.pageRows message.conversationId userId none).length, _,
    ⟨order, readMessages_eq hmember order⟩, ?_⟩
  rw [messages_readPage hlength]
  refine List.mem_map.mpr ⟨toMessageRow message, List.mem_reverse.mpr ?_, rfl⟩
  refine List.mem_map.mpr ⟨message, hperm.mem_iff.mpr ?_, rfl⟩
  rw [pageRows_none]
  exact hvisible

/-- Whoever is shown a message that was not deleted for its sender loses it. -/
theorem not_shows_of_sameFor (hmember : w.isParticipant message.conversationId userId)
    (hnot : ¬ (message.isDeleted ∧ ¬ message.deletedForAll))
    (h : w.SameFor (w.removed message.id) numberText payloads arrangement userId) :
    ¬ w.Shows numberText payloads arrangement userId message := by
  rintro (hvisible | ⟨hfound, hpreview⟩)
  · obtain ⟨limit, page, hpage, hon⟩ := exists_page_of_visible hmember hvisible
    obtain ⟨hdeleted, hall, -⟩ := read_removed ((h.pages _ _ _ _).mp hpage) hon rfl
    exact hnot ⟨hdeleted, hall⟩
  · have hmember' : (w.removed message.id).isParticipant message.conversationId userId := hmember
    have hsame := h.previews message.conversationId.val
    rw [inboxPreviews_of_participant numberText payloads hmember,
      inboxPreviews_of_participant numberText payloads hmember', findLatest_removed, hfound,
      Option.map_some, removing_self] at hsame
    exact hpreview hsame

/-- **Delete for me is local** if and only if the message had been deleted for
its sender alone, or nobody else is shown it. -/
theorem deleteMessage_forMe_iff (arrangement : Arrangement MessageRow) (numberText : ℚ → String)
    (payloads : MessageId → Json) (hmem : message ∈ w.messages.rows) :
    w.DeletedForSender ((deleteMessage message.id message.senderId false).run exec w).2 numberText
        payloads arrangement message ↔
      (message.isDeleted ∧ ¬ message.deletedForAll) ∨
        ∀ userId, userId ≠ message.senderId → w.isParticipant message.conversationId userId →
          ¬ w.Shows numberText payloads arrangement userId message := by
  rw [run_deleteMessage hmem]
  constructor
  · intro h
    by_cases hdeleted : message.isDeleted ∧ ¬ message.deletedForAll
    · exact .inl hdeleted
    · exact .inr fun userId hne hmember =>
      not_shows_of_sameFor hmember hdeleted (h.others userId hne)
  · intro h
    refine ⟨fun conversationId cursor limit page hpage read hread hid => ?_, fun userId hne => ?_⟩
    · obtain ⟨hdeleted, -, hcontent⟩ := read_removed hpage hread hid
      exact ⟨hdeleted, hcontent⟩
    · rcases h with hdeleted | hhidden
      · refine sameFor_removed hmem (fun _ _ => toMessageRow_removed_iff.mpr hdeleted) fun _ _ => ?_
        simp [inboxPreviewFromMessageRow, toMessageRow, hdeleted.1]
      · refine sameFor_removed hmem (fun hmember hvisible => ?_) fun hmember hfound => ?_
        · exact absurd (.inl hvisible) (hhidden userId hne hmember)
        · by_contra hpreview
          exact hhidden userId hne hmember (.inr ⟨hfound, hpreview⟩)

end ForMe

namespace Sample

def bench : ConversationId := ⟨"pew", by decide⟩
def tess : UserId := ⟨"tess", by decide⟩
def vito : UserId := ⟨"vito", by decide⟩

def slip : MessageRow where
  id := ⟨"slip", by decide⟩
  conversationId := bench
  senderId := tess
  messageType := .text
  content := some "see you"
  createdAt := 5000

/-- Two users, and a message of one to the other. -/
def talk : World where
  participants := ⟨[{ conversationId := bench, userId := tess },
    { conversationId := bench, userId := vito }], by decide⟩
  messages := ⟨[slip], by decide⟩
  uuids := fun _ => bench
  clock := fun n => 6000 + n

def answer : MessageRow where
  id := ⟨"answer", by decide⟩
  conversationId := bench
  senderId := vito
  messageType := .text
  content := some "bye"
  createdAt := 9000

/-- The other user has hidden what was before, and has written since. -/
def cleared : World where
  participants := ⟨[{ conversationId := bench, userId := tess },
    { conversationId := bench, userId := vito, historyHiddenBeforeAt := some 7000 }], by decide⟩
  messages := ⟨[answer, slip], by decide⟩
  uuids := fun _ => bench
  clock := fun n => 9000 + n

/-- Of the message that is hidden from him the other user loses nothing. -/
theorem deletedForSender_hidden :
    cleared.DeletedForSender ((deleteMessage slip.id tess false).run exec cleared).2
      (fun _ => "") (fun _ => .null) asWritten slip := by
  refine (deleteMessage_forMe_iff asWritten (fun _ => "") (fun _ => .null)
    (List.mem_cons_of_mem _ List.mem_cons_self)).mpr (.inr fun userId hne hmember => ?_)
  obtain rfl : userId = vito := by
    obtain ⟨row, hrow, -⟩ := (Option.any_eq_true _ _).mp hmember
    obtain ⟨hmem, hkey⟩ := Sql.Table.mem_of_find hrow
    obtain ⟨-, rfl⟩ := Prod.mk.inj hkey
    rcases List.mem_pair.mp hmem with rfl | rfl
    · exact absurd rfl hne
    · rfl
  rintro (hvisible | ⟨hlatest, -⟩)
  · exact absurd hvisible (by decide)
  · have hid := congrArg (Option.map (·.id)) hlatest
    revert hid
    decide

/-- The first call takes the message from the other user too. -/
theorem not_deletedForSender_slip :
    ¬ ∀ (w : World) (message : MessageRow) (arrangement : Arrangement MessageRow)
        (numberText : ℚ → String) (payloads : MessageId → Json), message ∈ w.messages.rows →
      w.DeletedForSender ((deleteMessage message.id message.senderId false).run exec w).2 numberText
        payloads arrangement message := by
  intro h
  have hmem : slip ∈ talk.messages.rows := List.mem_cons_self
  have hdeleted := h talk slip asWritten (fun _ => "") (fun _ => .null) hmem
  rw [run_deleteMessage hmem] at hdeleted
  have hmember : talk.isParticipant slip.conversationId vito := by decide
  refine not_shows_of_sameFor hmember (by decide) (hdeleted.others vito (by decide)) (.inl ?_)
  exact List.mem_filter.mpr ⟨hmem, by decide⟩

end Sample

end Greetup.Chat
