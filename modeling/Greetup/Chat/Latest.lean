import Greetup.Chat.PeerStore
import Greetup.Data.Greatest
import Mathlib.Data.Prod.Lex
import Mathlib.Data.String.Basic

/-!
The latest message of each conversation, for the previews in an inbox.

The time of the latest message is found in the database, in microseconds; it
comes to the server in milliseconds, and with these the rows are looked up. What
remains is settled by the ids.
-/

namespace Greetup.Chat

open Data

/-! ### The query -/

namespace World

variable (w : World)

/-- `max(created_at)` of a conversation -/
def lastAt (conversationId : String) : Option Timestamp :=
  ((w.messages.rows.filter (·.conversationId.val = conversationId)).map (·.createdAt)).max?

/-- The groups of the rows with one of these conversations, as the driver reads
them. -/
def lastAtGroups (unique : List String) : List (String × Option Date) :=
  ((w.messages.rows.filter (·.conversationId.val ∈ unique)).map (·.conversationId.val)).dedup.map
    fun conversationId => (conversationId, (w.lastAt conversationId).map Date.ofTimestamp)

end World

/-- The row is put in the place of `prev`. -/
def isLater (r prev : MessageRow) : Bool :=
  Date.ofTimestamp prev.createdAt < Date.ofTimestamp r.createdAt ||
    (Date.ofTimestamp r.createdAt = Date.ofTimestamp prev.createdAt && prev.id.val < r.id.val)

def keepLater (map : String → Option MessageRow) (r : MessageRow) : String → Option MessageRow :=
  match map r.conversationId.val with
  | none => Function.update map r.conversationId.val (some r)
  | some prev =>
      if isLater r prev then Function.update map r.conversationId.val (some r) else map

namespace World

variable (w : World) (order : Arrangement MessageRow)

/-- The rows with one of these times in its conversation. -/
def rowsAt (pairs : List (String × Date)) : List MessageRow :=
  order.arrange <| w.messages.rows.filter fun row =>
    pairs.any fun g => row.conversationId.val = g.1 ∧ row.createdAt = Date.toTimestamp g.2

def findLatestByConversationIds (conversationIds : List String) : String → Option MessageRow :=
  let unique := conversationIds.dedup.filter (· ≠ "")
  if unique.length = 0 then fun _ => none
  else
    let pairs := (w.lastAtGroups unique).filterMap fun g => g.2.map (g.1, ·)
    if pairs.length = 0 then fun _ => none
    else (w.rowsAt order pairs).foldl keepLater fun _ => none

/-! ### What it should be -/

/-- The greatest creation time of its conversation, and of those the greatest
id. -/
structure IsLatest (conversationId : String) (row : MessageRow) : Prop where
  mem : row ∈ w.messages.rows
  conversation : row.conversationId.val = conversationId
  latest : ∀ other ∈ w.messages.rows, other.conversationId.val = conversationId →
    other.createdAt < row.createdAt ∨ other.createdAt = row.createdAt ∧ other.id.val ≤ row.id.val

/-- An entry for the conversations that have a message, and it is the latest. -/
structure GivesLatest (conversationIds : List String) (out : String → Option MessageRow) :
    Prop where
  entries : ∀ id, (out id).isSome ↔
    id ∈ conversationIds ∧ ∃ row ∈ w.messages.rows, row.conversationId.val = id
  latest : ∀ id row, out id = some row → w.IsLatest id row

end World

/-! ### The rows that are looked up -/

section Rows

variable {w : World} {order : Arrangement MessageRow} {conversationIds : List String} {id : String}
  {row : MessageRow}

theorem lastAt_eq_some_iff {t : Timestamp} :
    w.lastAt id = some t ↔
      (∃ row ∈ w.messages.rows, row.conversationId.val = id ∧ row.createdAt = t) ∧
        ∀ row ∈ w.messages.rows, row.conversationId.val = id → row.createdAt ≤ t := by
  rw [World.lastAt, List.max?_eq_some_iff]
  simp only [List.mem_map, List.mem_filter, decide_eq_true_eq, and_assoc]
  refine and_congr_right fun _ => ⟨fun h row hmem hid => h _ ⟨row, hmem, hid, rfl⟩, ?_⟩
  rintro h t' ⟨row, hmem, hid, rfl⟩
  exact h row hmem hid

theorem exists_lastAt (hmem : row ∈ w.messages.rows) (hid : row.conversationId.val = id) :
    ∃ t, w.lastAt id = some t := by
  refine Option.ne_none_iff_exists'.mp fun hnone => ?_
  rw [World.lastAt, List.max?_eq_none_iff, List.map_eq_nil_iff, List.filter_eq_nil_iff] at hnone
  exact hnone row hmem (decide_eq_true hid)

/-- The rows among which the latest is picked. -/
def World.candidates (w : World) (order : Arrangement MessageRow) (conversationIds : List String) :
    List MessageRow :=
  w.rowsAt order ((w.lastAtGroups (conversationIds.dedup.filter (· ≠ ""))).filterMap
    fun g => g.2.map (g.1, ·))

theorem rowsAt_nil : w.rowsAt order [] = [] := by
  have hnone : w.messages.rows.filter (fun row => ([] : List (String × Date)).any fun g =>
      row.conversationId.val = g.1 ∧ row.createdAt = Date.toTimestamp g.2) = [] :=
    List.filter_eq_nil_iff.mpr fun row _ => by simp
  rw [World.rowsAt, hnone]
  exact List.perm_nil.mp (order.perm [])

theorem findLatest_eq :
    w.findLatestByConversationIds order conversationIds =
      (w.candidates order conversationIds).foldl keepLater fun _ => none := by
  simp only [World.findLatestByConversationIds, World.candidates]
  split_ifs with hunique hpairs
  · rw [List.length_eq_zero_iff.mp hunique]
    simp only [World.lastAtGroups, List.not_mem_nil, decide_false, List.filter_false]
    simp [rowsAt_nil]
  · rw [List.length_eq_zero_iff.mp hpairs, rowsAt_nil]
    rfl
  · rfl

theorem mem_lastAtPairs {unique : List String} {d : Date} :
    (id, d) ∈ (w.lastAtGroups unique).filterMap (fun g => g.2.map (g.1, ·)) ↔
      id ∈ unique ∧ ∃ t, w.lastAt id = some t ∧ d = Date.ofTimestamp t := by
  simp only [List.mem_filterMap, World.lastAtGroups, List.mem_map, List.mem_dedup, List.mem_filter,
    decide_eq_true_eq]
  constructor
  · rintro ⟨_, ⟨_, ⟨row, ⟨-, hrequested⟩, rfl⟩, rfl⟩, hpair⟩
    obtain ⟨d', hd', hpair⟩ := Option.map_eq_some_iff.mp hpair
    obtain ⟨rfl, rfl⟩ := Prod.mk.inj hpair
    obtain ⟨t, ht, hd⟩ := Option.map_eq_some_iff.mp hd'
    exact ⟨hrequested, t, ht, hd.symm⟩
  · rintro ⟨hrequested, t, ht, rfl⟩
    obtain ⟨⟨row, hmem, rfl, -⟩, -⟩ := lastAt_eq_some_iff.mp ht
    exact ⟨_, ⟨_, ⟨row, ⟨hmem, hrequested⟩, rfl⟩, rfl⟩, by rw [ht]; rfl⟩

/-- A row is looked up if its time is that of the latest one, to the
millisecond. -/
theorem mem_candidates_iff :
    row ∈ w.candidates order conversationIds ↔
      row ∈ w.messages.rows ∧ row.conversationId.val ∈ conversationIds ∧
        ∃ t, w.lastAt row.conversationId.val = some t ∧
          row.createdAt = Date.toTimestamp (Date.ofTimestamp t) := by
  rw [World.candidates, World.rowsAt, (order.perm _).mem_iff, List.mem_filter]
  refine and_congr_right fun hmem => ?_
  simp only [List.any_eq_true, decide_eq_true_eq]
  constructor
  · rintro ⟨⟨id, d⟩, hpair, rfl, htime⟩
    obtain ⟨hrequested, t, ht, rfl⟩ := mem_lastAtPairs.mp hpair
    rw [List.mem_filter, List.mem_dedup] at hrequested
    exact ⟨hrequested.1, t, ht, htime⟩
  · rintro ⟨hrequested, t, ht, htime⟩
    have hunique : row.conversationId.val ∈ conversationIds.dedup.filter (· ≠ "") :=
      List.mem_filter.mpr ⟨List.mem_dedup.mpr hrequested, decide_eq_true row.conversationId.2⟩
    exact ⟨_, mem_lastAtPairs.mpr ⟨hunique, t, ht, rfl⟩, rfl, htime⟩

end Rows

/-! ### What is picked from them -/

section Picked

variable {w : World} {order : Arrangement MessageRow} {conversationIds : List String} {id : String}
  {row : MessageRow}

/-- By its time on the server, and then by its id. -/
def pickedRank (row : MessageRow) : ℕ ×ₗ String :=
  toLex (Date.ofTimestamp row.createdAt, row.id.val)

theorem isLater_iff {r prev : MessageRow} : isLater r prev ↔ pickedRank prev < pickedRank r := by
  rw [pickedRank, pickedRank, Prod.Lex.toLex_lt_toLex, isLater]
  simp only [Bool.or_eq_true, Bool.and_eq_true, decide_eq_true_eq]
  rw [eq_comm (a := Date.ofTimestamp r.createdAt)]

theorem keepLater_eq :
    keepLater = keepGreatest (fun row : MessageRow => row.conversationId.val) pickedRank := by
  funext map r
  rw [keepLater, keepGreatest]
  cases h : map r.conversationId.val with
  | none => rfl
  | some prev =>
      simp only [List.argAux, isLater_iff]
      split_ifs
      · rfl
      · rw [← h, Function.update_eq_self]

theorem pickedRank_injOn (hrow : row ∈ w.messages.rows) {other : MessageRow}
    (hother : other ∈ w.messages.rows) (h : pickedRank row = pickedRank other) : row = other := by
  have hid : row.id.val = other.id.val := congrArg Prod.snd (toLex.injective h)
  exact Sql.Table.eq_of_key hrow hother (Subtype.ext hid)

theorem findLatest_eq_some_iff :
    w.findLatestByConversationIds order conversationIds id = some row ↔
      row ∈ w.candidates order conversationIds ∧ row.conversationId.val = id ∧
        ∀ other ∈ w.candidates order conversationIds, other.conversationId.val = id →
          pickedRank other ≤ pickedRank row := by
  rw [findLatest_eq, keepLater_eq]
  exact greatest_eq_some_iff _ _ fun a ha b hb =>
    pickedRank_injOn (mem_candidates_iff.mp ha).1 (mem_candidates_iff.mp hb).1

theorem isSome_findLatest_iff :
    (w.findLatestByConversationIds order conversationIds id).isSome ↔
      ∃ row ∈ w.candidates order conversationIds, row.conversationId.val = id := by
  rw [findLatest_eq, keepLater_eq]
  exact isSome_greatest_iff _ _

end Picked

/-! ### Whole milliseconds -/

/-- The latest messages of these conversations are of a whole millisecond. -/
def World.LatestOnMillisecond (w : World) (conversationIds : List String) : Prop :=
  ∀ row ∈ w.messages.rows, row.conversationId.val ∈ conversationIds →
    (∀ other ∈ w.messages.rows, other.conversationId = row.conversationId →
      other.createdAt ≤ row.createdAt) → row.createdAt % 1000 = 0

theorem toTimestamp_ofTimestamp_eq_iff {t : Timestamp} :
    Date.toTimestamp (Date.ofTimestamp t) = t ↔ t % 1000 = 0 := by
  rw [Date.toTimestamp, Date.ofTimestamp, ← Nat.dvd_iff_mod_eq_zero]
  exact (Nat.dvd_iff_div_mul_eq t 1000).symm

section WholeMilliseconds

variable {w : World} {order : Arrangement MessageRow} {conversationIds : List String} {id : String}
  {row : MessageRow}

/-- Then the time of the latest message comes back as it was. -/
theorem World.LatestOnMillisecond.lastAt (h : w.LatestOnMillisecond conversationIds)
    (hid : id ∈ conversationIds) {t : Timestamp} (ht : w.lastAt id = some t) :
    Date.toTimestamp (Date.ofTimestamp t) = t := by
  obtain ⟨⟨row, hmem, rfl, rfl⟩, hmax⟩ := lastAt_eq_some_iff.mp ht
  refine toTimestamp_ofTimestamp_eq_iff.mpr (h row hmem hid fun other hother heq => ?_)
  exact hmax other hother (congrArg Subtype.val heq)

theorem World.LatestOnMillisecond.mem_candidates_iff (h : w.LatestOnMillisecond conversationIds) :
    row ∈ w.candidates order conversationIds ↔
      row ∈ w.messages.rows ∧ row.conversationId.val ∈ conversationIds ∧
        w.lastAt row.conversationId.val = some row.createdAt := by
  rw [Chat.mem_candidates_iff]
  refine and_congr_right fun _ => and_congr_right fun hid => ⟨?_, fun ht => ?_⟩
  · rintro ⟨t, ht, htime⟩
    rw [htime, h.lastAt hid ht, ht]
  · exact ⟨_, ht, (h.lastAt hid ht).symm⟩

theorem givesLatest_of_latestOnMillisecond (h : w.LatestOnMillisecond conversationIds) :
    w.GivesLatest conversationIds (w.findLatestByConversationIds order conversationIds) where
  entries id := by
    rw [isSome_findLatest_iff]
    constructor
    · rintro ⟨row, hrow, rfl⟩
      obtain ⟨hmem, hid, -⟩ := h.mem_candidates_iff.mp hrow
      exact ⟨hid, row, hmem, rfl⟩
    · rintro ⟨hid, row, hmem, rfl⟩
      obtain ⟨t, ht⟩ := exists_lastAt hmem rfl
      obtain ⟨⟨last, hlast, hconversation, rfl⟩, -⟩ := lastAt_eq_some_iff.mp ht
      refine ⟨last, h.mem_candidates_iff.mpr ⟨hlast, ?_, ?_⟩, hconversation⟩
      · rw [hconversation]
        exact hid
      · rw [hconversation]
        exact ht
  latest id row hfound := by
    obtain ⟨hrow, rfl, hmax⟩ := findLatest_eq_some_iff.mp hfound
    obtain ⟨hmem, hid, ht⟩ := h.mem_candidates_iff.mp hrow
    refine ⟨hmem, rfl, fun other hother hconversation => ?_⟩
    rcases (((lastAt_eq_some_iff.mp ht).2 other hother hconversation).lt_or_eq) with hlt | heq
    · exact .inl hlt
    · have hcandidate : other ∈ w.candidates order conversationIds := by
        refine h.mem_candidates_iff.mpr ⟨hother, ?_, ?_⟩
        · rw [hconversation]
          exact hid
        · rw [hconversation, heq]
          exact ht
      have hle := hmax other hcandidate hconversation
      rw [pickedRank, pickedRank, heq, Prod.Lex.toLex_le_toLex] at hle
      exact .inr ⟨heq, by simpa using hle⟩

/-- A message that is of no whole millisecond is not looked up. -/
theorem latestOnMillisecond_of_givesLatest
    (h : w.GivesLatest conversationIds (w.findLatestByConversationIds order conversationIds)) :
    w.LatestOnMillisecond conversationIds := by
  intro row hmem hid hmax
  have hsome := (h.entries row.conversationId.val).mpr ⟨hid, row, hmem, rfl⟩
  obtain ⟨found, hfound⟩ := Option.isSome_iff_exists.mp hsome
  obtain ⟨hcandidate, -, -⟩ := findLatest_eq_some_iff.mp hfound
  obtain ⟨hfoundMem, -, t, -, htime⟩ := mem_candidates_iff.mp hcandidate
  obtain ⟨-, hconversation, hlatest⟩ := h.latest _ _ hfound
  have hle := hmax found hfoundMem (Subtype.ext hconversation)
  have hge : row.createdAt ≤ found.createdAt := by
    rcases hlatest row hmem rfl with hlt | ⟨heq, -⟩
    · exact hlt.le
    · exact heq.le
  rw [le_antisymm hge hle, htime, Date.toTimestamp]
  exact Nat.mul_mod_left _ _

end WholeMilliseconds

/-- **The inbox preview is the latest message** of each of the conversations if
and only if their latest messages are of a whole millisecond. -/
theorem findLatestByConversationIds_iff (w : World) (order : Arrangement MessageRow)
    (conversationIds : List String) :
    w.GivesLatest conversationIds (w.findLatestByConversationIds order conversationIds) ↔
      w.LatestOnMillisecond conversationIds :=
  ⟨latestOnMillisecond_of_givesLatest, givesLatest_of_latestOnMillisecond⟩

namespace Sample

def asWritten : Arrangement MessageRow := ⟨id, fun _ => .refl _⟩

def kiosk : ConversationId := ⟨"kiosk", by decide⟩

/-- A message that was written between two milliseconds. -/
def between : World where
  messages := ⟨[{
    id := ⟨"flyer", by decide⟩, conversationId := kiosk, senderId := ⟨"hawker", by decide⟩
    messageType := .text, content := some "today", createdAt := 7001 }], by decide⟩
  uuids := fun _ => kiosk
  clock := fun n => 8000 + n

/-- The conversation has a message and no entry. -/
theorem not_givesLatest_between :
    ¬ ∀ (w : World) (order : Arrangement MessageRow) (conversationIds : List String),
      w.GivesLatest conversationIds (w.findLatestByConversationIds order conversationIds) := by
  intro h
  have hentry := ((h between asWritten ["kiosk"]).entries "kiosk").mpr
    ⟨by decide, _, List.mem_cons_self, rfl⟩
  obtain ⟨row, hrow, -⟩ := isSome_findLatest_iff.mp hentry
  obtain ⟨hmem, -, t, ht, htime⟩ := mem_candidates_iff.mp hrow
  have hdvd : row.createdAt % 1000 = 0 := by
    rw [htime]
    exact Nat.mul_mod_left _ _
  rw [List.mem_singleton.mp hmem] at hdvd
  revert hdvd
  decide

end Sample

end Greetup.Chat
