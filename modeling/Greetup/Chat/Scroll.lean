import Greetup.Chat.Service
import Greetup.Data.Paging

/-!
Scrolling back through a conversation, page by page.
-/

namespace Greetup.Chat

open Connections (UserId)
open Data

/-- A message as it is returned to a client. -/
structure Message where
  row : MessageRow
  reactions : List ReactionRow
  deriving DecidableEq

structure MessagesPage where
  messages : List Message
  nextCursor : Option Date

abbrev MessageOrder := NewestFirst MessageRow.createdAt

namespace World

variable (w : World)

/-- The messages of a conversation, those up to a date left out. -/
def messagesAfter (conversationId : ConversationId) (hiddenBeforeAt : Option Date) :
    List MessageRow :=
  w.messages.rows.filter fun row =>
    row.conversationId = conversationId ∧ hiddenBeforeAt.all (Date.toTimestamp · < row.createdAt)

/-- `messageRepository.getMessages` -/
def getMessageRows (order : MessageOrder) (conversationId : ConversationId) (cursor : Option Date)
    (limit : ℕ) (hiddenBeforeAt : Option Date) : Page MessageRow Date :=
  let rows := (order.arrange <| w.messages.rows.filter fun row =>
    row.conversationId = conversationId ∧ hiddenBeforeAt.all (Date.toTimestamp · < row.createdAt) ∧
      cursor.all (row.createdAt < Date.toTimestamp ·)).take (limit + 1)
  let hasMore := decide (limit < rows.length)
  let page := if hasMore then rows.take limit else rows
  { rows := page.reverse
    nextCursor := if hasMore then page.getLast?.map (Date.ofTimestamp ·.createdAt) else none }

/-- The date up to which a participant sees nothing. -/
def hiddenBeforeAt (conversationId : ConversationId) (userId : UserId) : Option Date :=
  (w.participant conversationId userId).bind fun row =>
    row.historyHiddenBeforeAt.map Date.ofTimestamp

/-- The messages that a participant may see. -/
def visibleTo (userId : UserId) (conversationId : ConversationId) : List MessageRow :=
  w.messagesAfter conversationId (w.hiddenBeforeAt conversationId userId)

def withReactions (page : Page MessageRow Date) : MessagesPage :=
  { messages := page.rows.map fun row => ⟨row, w.reactionsOf row.id⟩
    nextCursor := page.nextCursor }

def getMessages (order : MessageOrder) (conversationId : ConversationId) (userId : UserId)
    (cursor : Option Date) (limit : ℕ) : Thrown MessagesPage :=
  if w.isParticipant conversationId userId then
    .ok (w.withReactions (w.getMessageRows order conversationId cursor limit
      (w.hiddenBeforeAt conversationId userId)))
  else .error .unauthorized

end World

/-- A client follows `nextCursor` until it is null; the `n`-th page is fetched by
`fetch n`. -/
def scrollBack (fetch : ℕ → Option Date → Thrown MessagesPage) :
    ℕ → ℕ → Option Date → Thrown (Option (List (List Message)))
  | 0, _, _ => .ok none
  | fuel + 1, n, cursor =>
      match fetch n cursor with
      | .error error => .error error
      | .ok page =>
          match page.nextCursor with
          | none => .ok (some [page.messages])
          | some next =>
              (scrollBack fetch fuel (n + 1) (some next)).map
                (Option.map (page.messages :: ·))

/-- Each of the rows is there once, and the oldest comes first. -/
structure EachOnce (rows : List MessageRow) (messages : List Message) : Prop where
  perm : (messages.map (·.row)).Perm rows
  sorted : messages.Pairwise fun a b => a.row.createdAt ≤ b.row.createdAt

section EachOnce

variable {rows seen : List MessageRow} {reactions : MessageRow → List ReactionRow}

/-- What is sent with the messages does not matter. -/
theorem eachOnce_map_iff :
    EachOnce rows (seen.map fun row => ⟨row, reactions row⟩) ↔
      seen.Perm rows ∧ seen.Pairwise fun a b => a.createdAt ≤ b.createdAt := by
  have hmap : (seen.map fun row => (⟨row, reactions row⟩ : Message)).map (·.row) = seen := by
    rw [List.map_map]
    exact List.map_id seen
  constructor
  · rintro ⟨hperm, hsorted⟩
    rw [hmap] at hperm
    exact ⟨hperm, by simpa [List.pairwise_map] using hsorted⟩
  · rintro ⟨hperm, hsorted⟩
    refine ⟨hmap.symm ▸ hperm, ?_⟩
    simpa [List.pairwise_map] using hsorted

end EachOnce

section Scroll

variable {w : World} {conversationId : ConversationId} {userId : UserId} {limit : ℕ}

/-- A page of a conversation is a page of the messages that are not hidden. -/
theorem getMessageRows_eq (order : MessageOrder) (cursor : Option Date)
    (hiddenBeforeAt : Option Date) :
    w.getMessageRows order conversationId cursor limit hiddenBeforeAt =
      fetchPage Date.toTimestamp Date.ofTimestamp limit
        (w.messagesAfter conversationId hiddenBeforeAt) order cursor := by
  have hrows : olderThan Date.toTimestamp (w.messagesAfter conversationId hiddenBeforeAt)
      MessageRow.createdAt cursor =
      w.messages.rows.filter fun row => row.conversationId = conversationId ∧
        hiddenBeforeAt.all (Date.toTimestamp · < row.createdAt) ∧
          cursor.all (row.createdAt < Date.toTimestamp ·) := by
    rw [olderThan, World.messagesAfter, List.filter_filter]
    refine List.filter_congr fun row _ => ?_
    simp [and_assoc, and_comm]
  rw [fetchPage, hrows, cutPage, World.getMessageRows]

/-- The reactions do not matter to a scroll. -/
theorem scrollBack_eq (hmember : w.isParticipant conversationId userId)
    (orders : ℕ → MessageOrder) (fuel n : ℕ) (cursor : Option Date) :
    scrollBack (fun n cursor => w.getMessages (orders n) conversationId userId cursor limit) fuel n
        cursor =
      .ok ((scroll (fun n => fetchPage Date.toTimestamp Date.ofTimestamp limit
        (w.visibleTo userId conversationId) (orders n)) fuel n cursor).map
          (List.map (List.map fun row => ⟨row, w.reactionsOf row.id⟩))) := by
  induction fuel generalizing n cursor with
  | zero => rfl
  | succ fuel ih =>
      have hpage : w.getMessages (orders n) conversationId userId cursor limit =
          .ok (w.withReactions (fetchPage Date.toTimestamp Date.ofTimestamp limit
            (w.visibleTo userId conversationId) (orders n) cursor)) := by
        rw [World.getMessages, if_pos hmember, getMessageRows_eq]
        rfl
      rw [scrollBack, scroll, hpage]
      simp only [World.withReactions]
      cases (fetchPage Date.toTimestamp Date.ofTimestamp limit (w.visibleTo userId conversationId)
        (orders n) cursor).nextCursor with
      | none => rfl
      | some next =>
          simp only [ih, Except.map, Option.map_map]
          rfl

/-- **Scrolling back yields every message exactly once**, and in order, if and
only if no page ends between two messages of the same millisecond. -/
theorem scrollBack_eachOnce_iff (orders : ℕ → MessageOrder)
    (hmember : w.isParticipant conversationId userId) (hpos : 0 < limit) :
    ∃ pages, (∀ fuel, w.messages.rows.length < fuel →
        scrollBack (fun n cursor => w.getMessages (orders n) conversationId userId cursor limit)
          fuel 0 none = .ok (some pages)) ∧
      (EachOnce (w.visibleTo userId conversationId) (putTogether pages) ↔
        CleanCuts limit (((w.visibleTo userId conversationId).map
          (Date.ofTimestamp ·.createdAt)).mergeSort (· ≥ ·))) := by
  obtain ⟨pages, hpages, hiff⟩ :=
    scroll_iff (w.visibleTo userId conversationId) Date.galois orders hpos
  refine ⟨pages.map (List.map fun row => ⟨row, w.reactionsOf row.id⟩), fun fuel hfuel => ?_, ?_⟩
  · have hle : (w.visibleTo userId conversationId).length ≤ w.messages.rows.length :=
      List.length_filter_le _ _
    rw [scrollBack_eq hmember, hpages fuel (hle.trans_lt hfuel)]
    rfl
  · have hput : putTogether (pages.map
      (List.map fun row => (⟨row, w.reactionsOf row.id⟩ : Message)))
        = (putTogether pages).map fun row => ⟨row, w.reactionsOf row.id⟩ := by
      rw [putTogether, putTogether, List.map_flatten, List.map_reverse]
    rw [hput, eachOnce_map_iff]
    exact hiff

end Scroll

namespace Sample

def ivy : UserId := ⟨"ivy", by decide⟩
def oak : UserId := ⟨"oak", by decide⟩
def garden : ConversationId := ⟨"garden", by decide⟩
def note (n : ℕ) : MessageId := ⟨"note " ++ toString n, by simp⟩

/-- What `oak` has written in the garden, at these times. -/
def notes (times : List Timestamp) : List MessageRow :=
  times.zipIdx.map fun (createdAt, n) =>
    { id := note n, conversationId := garden, senderId := oak, messageType := .text
      content := some "leaf", createdAt }

/-- The times are microseconds: the first two notes are of one millisecond. -/
def burst : World where
  participants := ⟨[{ conversationId := garden, userId := ivy }], by decide⟩
  messages := ⟨notes [7200, 7100, 3000], by decide⟩
  uuids := fun _ => garden
  clock := fun n => 8000 + n

def newestFirst : MessageOrder where
  arrange := List.insertionSort fun a b => b.createdAt ≤ a.createdAt
  perm := List.perm_insertionSort _
  sorted rows := List.pairwise_insertionSort _ rows

/-- The second note is never shown: a page of one message ends between it and
the first. -/
theorem not_eachOnce_burst :
    ¬ ∃ pages, scrollBack (fun _ cursor => burst.getMessages newestFirst garden ivy cursor 1) 9 0
        none = .ok (some pages) ∧
      EachOnce (burst.visibleTo ivy garden) (putTogether pages) := by
  rintro ⟨pages, hpages, heach⟩
  have hrun : (scrollBack (fun _ cursor => burst.getMessages newestFirst garden ivy cursor 1) 9 0
      none).map (Option.map fun pages => (putTogether pages).length) = .ok (some 2) := by rfl
  have hlength : (putTogether pages).length = 2 := by
    rw [hpages] at hrun
    exact Option.some.inj (Except.ok.inj hrun)
  have hall : (putTogether pages).length = 3 := by
    rw [← List.length_map (·.row), heach.perm.length_eq]
    rfl
  omega

/-- With pages of two messages, none is lost. -/
theorem scrollBack_burst :
    ∃ pages, (∀ fuel, 3 < fuel →
        scrollBack (fun _ cursor => burst.getMessages newestFirst garden ivy cursor 2) fuel 0 none =
          .ok (some pages)) ∧
      (EachOnce (burst.visibleTo ivy garden) (putTogether pages) ↔
        CleanCuts 2 (((burst.visibleTo ivy garden).map
          (Date.ofTimestamp ·.createdAt)).mergeSort (· ≥ ·))) :=
  scrollBack_eachOnce_iff (w := burst) (fun _ => newestFirst) (by decide) (by decide)

end Sample

end Greetup.Chat
