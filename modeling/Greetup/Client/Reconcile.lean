import Greetup.Client.MessageCache
import Mathlib.Data.List.Nodup
import Mathlib.Tactic.Common

/-!
What has been sent, and what is shown of it in the end.

Every message that is accepted comes back over the socket, and every one that is
refused is marked as failed; in which order, and how often a message comes back,
the client does not know. An echo takes the place of the first message that is
being sent and says the same, whichever of them it answers.
-/

namespace Greetup.Client

open Connections (UserId)
open Chat (ConversationId MessageId)

/-- A message that the client sends. -/
structure Send where
  content : String
  /-- `Date.now()` -/
  millis : ℕ
  /-- The id that the server gives it, unless it refuses it. -/
  answer : Option MessageId

inductive ClientEvent (κ : Type)
  | push (k : κ)
  /-- The message comes back, with the reactions to it. -/
  | echo (k : κ) (reactions : Option (List Reaction))
  | foreign (msg : Message)
  | refusal (k : κ)
  deriving DecidableEq

/-! ### What is shown -/

/-- The messages of the first page. -/
def front : Option MessagesCache → List Message
  | some (page :: _) => page.messages
  | _ => []

/-- The messages of the other pages. -/
def later : Option MessagesCache → List Message
  | some (_ :: pages) => pages.flatMap (·.messages)
  | _ => []

def shown (cache : Option MessagesCache) : List Message := front cache ++ later cache

section Events

variable {κ : Type} [DecidableEq κ] (sends : κ → Send) (me : UserId)
  (conversationId : ConversationId)

def echoOf (k : κ) (messageId : MessageId) (reactions : Option (List Reaction)) : Message where
  id := .server messageId
  conversationId := conversationId
  senderId := me
  content := (sends k).content
  reactions := reactions

def ClientEvent.apply (qc : QueryClient) : ClientEvent κ → QueryClient
  | .push k => sendMessage qc conversationId (sends k).content me (sends k).millis
  | .echo k reactions =>
      match (sends k).answer with
      | none => qc
      | some messageId =>
          applySocketNewMessage qc (echoOf sends me conversationId k messageId reactions) (some me)
  | .foreign msg => applySocketNewMessage qc msg (some me)
  | .refusal k => sendFailed qc conversationId (sends k).millis

/-- After what has happened, the newest first. -/
def cacheAfter (qc : QueryClient) : List (ClientEvent κ) → QueryClient
  | [] => qc
  | e :: h => e.apply sends me conversationId (cacheAfter qc h)

/-! ### What can happen -/

/-- The messages that have been sent. -/
def pushed (h : List (ClientEvent κ)) : List κ :=
  h.filterMap fun | .push k => some k | _ => none

def ClientEvent.answers (k : κ) : ClientEvent κ → Bool
  | .echo j _ | .refusal j => j = k
  | _ => false

/-- It has come back, or has been refused. -/
def answered (h : List (ClientEvent κ)) (k : κ) : Bool := h.any (·.answers k)

/-- A message is answered when it has been sent, as the server has decided; it is
refused once, and comes back as often as it may. -/
def Possible (h : List (ClientEvent κ)) : ClientEvent κ → Prop
  | .push k => k ∉ pushed h
  | .echo k _ => k ∈ pushed h ∧ (sends k).answer ≠ none
  | .foreign msg => msg.conversationId = conversationId ∧ msg.senderId ≠ me ∧
      ∃ messageId, msg.id = .server messageId ∧ ∀ k, (sends k).answer ≠ some messageId
  | .refusal k => k ∈ pushed h ∧ (sends k).answer = none ∧ ClientEvent.refusal k ∉ h

def Orderly : List (ClientEvent κ) → Prop
  | [] => True
  | e :: h => Possible sends me conversationId h e ∧ Orderly h

/-- The pages are as the server has sent them, before anything is sent. -/
structure Fetched (qc : QueryClient) : Prop where
  server : ∀ m ∈ shown (qc conversationId), m.id.isTemp = false
  nodup : ((shown (qc conversationId)).map (·.id)).Nodup
  fresh : ∀ k messageId, (sends k).answer = some messageId →
    ∀ m ∈ shown (qc conversationId), m.id ≠ .server messageId
  /-- No two messages are given one id. -/
  distinct : ∀ j k messageId, (sends j).answer = some messageId →
    (sends k).answer = some messageId → j = k

/-! ### What is asked of the cache -/

/-- The id of a message that has been fetched or delivered. -/
def Known (qc : QueryClient) (h : List (ClientEvent κ)) (messageId : MessageId) : Prop :=
  (∃ m ∈ shown (qc conversationId), m.id = .server messageId) ∨
    (∃ k reactions, ClientEvent.echo k reactions ∈ h ∧ (sends k).answer = some messageId) ∨
    ∃ msg, ClientEvent.foreign msg ∈ h ∧ msg.id = .server messageId

structure Reconciled (qc : QueryClient) (h : List (ClientEvent κ)) (messages : List Message) :
    Prop where
  once : ∀ messageId, Known sends conversationId qc h messageId →
    messages.countP (·.id == .server messageId) = 1
  sent : ∀ m ∈ messages, m.id.isTemp = true → m.status ≠ some .sending
  failed : messages.countP (fun m => m.id.isTemp && m.status == some .failed) =
    (pushed h).countP fun k => (sends k).answer = none

/-- A refusal finds the message that it is about, and a message that comes back
again does not find another one that says the same. -/
def InTurn (qc : QueryClient) (h : List (ClientEvent κ)) (e : ClientEvent κ) : Prop :=
  qc conversationId ≠ some [] ∧
    match e with
    | .push _ => True
    | .echo k _ => answered h k = true →
        ∀ m ∈ front (qc conversationId), m.awaits (sends k).content = false
    | .foreign msg => ∀ m ∈ later (qc conversationId), m.id ≠ msg.id
    | .refusal k => ∃ m ∈ front (qc conversationId), m.id = .temp (sends k).millis ∧
        m.awaits (sends k).content = true

def AllInTurn (qc : QueryClient) : List (ClientEvent κ) → Prop
  | [] => True
  | e :: h => InTurn sends conversationId (cacheAfter sends me conversationId qc h) h e ∧
      AllInTurn qc h

end Events

/-! ### One message in a page -/

theorem split_of_findIdx? {α : Type} {p : α → Bool} {l : List α} {i : ℕ}
    (h : l.findIdx? p = some i) : ∃ a x b, l = a ++ x :: b ∧ (∀ y ∈ a, p y = false) ∧ p x = true ∧
      ∀ f, l.modify i f = a ++ f x :: b := by
  induction l generalizing i with
  | nil => cases h
  | cons x l ih =>
      rw [List.findIdx?_cons] at h
      cases hx : p x with
      | true =>
          rw [hx, if_pos rfl] at h
          cases h
          exact ⟨[], x, l, rfl, by simp, hx, fun f => rfl⟩
      | false =>
          simp only [hx, Bool.false_eq_true, if_false] at h
          obtain ⟨i, hi, rfl⟩ := Option.map_eq_some_iff.mp h
          obtain ⟨a, y, b, rfl, ha, hy, hmodify⟩ := ih hi
          refine ⟨x :: a, y, b, rfl, List.forall_mem_cons.mpr ⟨hx, ha⟩, hy, fun f => ?_⟩
          rw [List.modify_succ_cons, hmodify]
          rfl

/-- A message is put in the place of one that is being sent, or at the end. -/
theorem patchDraftNewMessage_cases (draft : MessagesPage) (msg : Message)
    (currentUserId : Option UserId) :
    (currentUserId = some msg.senderId ∧ ∃ a x b arrived, draft.messages = a ++ x :: b ∧
      x.awaits msg.content = true ∧ arrived.id = msg.id ∧ arrived.status = some .delivered ∧
      (patchDraftNewMessage draft msg currentUserId).messages = a ++ arrived :: b) ∨
    ((currentUserId = some msg.senderId → ∀ m ∈ draft.messages, m.awaits msg.content = false) ∧
      (patchDraftNewMessage draft msg currentUserId).messages =
        if draft.messages.any (·.id == msg.id) then draft.messages
        else draft.messages ++ [{ msg with status := some .delivered }]) := by
  rw [patchDraftNewMessage]
  by_cases hown : currentUserId = some msg.senderId
  · rw [if_pos hown]
    cases hfind : draft.messages.findIdx? (·.awaits msg.content) with
    | none =>
        refine .inr ⟨fun _ => List.findIdx?_eq_none_iff.mp hfind, ?_⟩
        dsimp only
        split <;> rfl
    | some i =>
        obtain ⟨a, x, b, hmessages, -, hx, hmodify⟩ := split_of_findIdx? hfind
        refine .inl ⟨hown, a, x, b, _, hmessages, hx, ?_, ?_, hmodify _⟩
        · rfl
        · rfl
  · rw [if_neg hown]
    refine .inr ⟨fun h => absurd h hown, ?_⟩
    dsimp only
    split <;> rfl

/-! ### The cache of a conversation -/

section Cache

variable {qc : QueryClient} {conversationId : ConversationId}

/-- What a message that is put on the first page leaves of the cache, if there is
one or if one is created. -/
theorem mutate_front (patcher : MessagesPage → MessagesPage) (seed : MessagesPage)
    (hpages : qc conversationId ≠ some []) (hseed : patcher seed = patcher { messages := [] }) :
    mutateMessagesCache qc conversationId (patchFirstPage · patcher) (some seed) conversationId ≠
        some [] ∧
      later (mutateMessagesCache qc conversationId (patchFirstPage · patcher) (some seed)
        conversationId) = later (qc conversationId) ∧
      ∃ page : MessagesPage, page.messages = front (qc conversationId) ∧
        front (mutateMessagesCache qc conversationId (patchFirstPage · patcher) (some seed)
          conversationId) = (patcher page).messages := by
  rw [mutateMessagesCache]
  cases hqc : qc conversationId with
  | none =>
      simp only [Function.update_self, patchFirstPage]
      exact ⟨by simp, rfl, { messages := [] }, rfl, by rw [front, hseed]⟩
  | some pages =>
      cases pages with
      | nil => exact absurd hqc hpages
      | cons page pages =>
          simp only [Function.update_self, patchFirstPage]
          exact ⟨by simp, rfl, page, rfl, rfl⟩

theorem push_spec (message : Message) (hpages : qc conversationId ≠ some []) :
    pushOptimisticMessage qc conversationId message conversationId ≠ some [] ∧
      later (pushOptimisticMessage qc conversationId message conversationId) =
        later (qc conversationId) ∧
      front (pushOptimisticMessage qc conversationId message conversationId) =
        if (front (qc conversationId)).any (·.id == message.id) then front (qc conversationId)
        else front (qc conversationId) ++ [message] := by
  obtain ⟨hsome, hlater, page, hpage, hfront⟩ := mutate_front (fun draft : MessagesPage =>
      if draft.messages.any (·.id == message.id) then draft
      else { draft with messages := draft.messages ++ [message] })
    { messages := [message] } hpages (by simp)
  refine ⟨hsome, hlater, ?_⟩
  rw [← hpage]
  refine hfront.trans ?_
  split <;> rfl

theorem newMessage_spec (msg : Message) (currentUserId : Option UserId)
    (hpages : qc msg.conversationId ≠ some []) :
    applySocketNewMessage qc msg currentUserId msg.conversationId ≠ some [] ∧
      later (applySocketNewMessage qc msg currentUserId msg.conversationId) =
        later (qc msg.conversationId) ∧
      ((currentUserId = some msg.senderId ∧ ∃ a x b arrived,
          front (qc msg.conversationId) = a ++ x :: b ∧ x.awaits msg.content = true ∧
          arrived.id = msg.id ∧ arrived.status = some .delivered ∧
          front (applySocketNewMessage qc msg currentUserId msg.conversationId) =
            a ++ arrived :: b) ∨
        ((currentUserId = some msg.senderId →
            ∀ m ∈ front (qc msg.conversationId), m.awaits msg.content = false) ∧
          front (applySocketNewMessage qc msg currentUserId msg.conversationId) =
            if (front (qc msg.conversationId)).any (·.id == msg.id)
            then front (qc msg.conversationId)
            else front (qc msg.conversationId) ++ [{ msg with status := some .delivered }])) := by
  have hseed : patchDraftNewMessage { messages := [{ msg with status := some .delivered }] } msg
      currentUserId = patchDraftNewMessage { messages := [] } msg currentUserId := by
    simp [patchDraftNewMessage, Message.awaits]
  obtain ⟨hsome, hlater, page, hpage, hfront⟩ := mutate_front
    (fun draft => patchDraftNewMessage draft msg currentUserId) _ hpages hseed
  refine ⟨hsome, hlater, ?_⟩
  rw [← hpage]
  rcases patchDraftNewMessage_cases page msg currentUserId with
    ⟨hown, a, x, b, arrived, hmessages, hx, hid, hstatus, hpatched⟩ | ⟨hnone, hpatched⟩
  · exact .inl ⟨hown, a, x, b, arrived, hmessages, hx, hid, hstatus, hfront.trans hpatched⟩
  · exact .inr ⟨hnone, hfront.trans hpatched⟩

theorem failed_spec (millis : ℕ) (hfront : ∃ m ∈ front (qc conversationId), m.id = .temp millis)
    (hlater : ∀ m ∈ later (qc conversationId), m.id.isTemp = false) :
    sendFailed qc conversationId millis conversationId ≠ some [] ∧
      later (sendFailed qc conversationId millis conversationId) = later (qc conversationId) ∧
      ∃ a x b, front (qc conversationId) = a ++ x :: b ∧ x.id = .temp millis ∧
        front (sendFailed qc conversationId millis conversationId) =
          a ++ { x with status := some .failed } :: b := by
  obtain ⟨m, hm, hid⟩ := hfront
  rw [sendFailed, patchMessageInCache, mutateMessagesCache]
  cases hqc : qc conversationId with
  | none =>
      rw [hqc] at hm
      cases hm
  | some pages =>
      cases pages with
      | nil =>
          rw [hqc] at hm
          cases hm
      | cons page pages =>
          rw [hqc] at hm hlater
          simp only [Function.update_self, patchAllPages, List.map_cons]
          refine ⟨by simp, ?_, ?_⟩
          · -- the other pages hold nothing that is being sent
            refine congrArg (fun pages : MessagesCache => pages.flatMap (·.messages)) ?_
            refine (List.map_congr_left fun other hother => ?_).trans (List.map_id pages)
            have hnone : other.messages.findIdx? (·.id == .temp millis) = none := by
              refine List.findIdx?_eq_none_iff.mpr fun m hm => ?_
              have htemp := hlater m (List.mem_flatMap.mpr ⟨other, hother, hm⟩)
              cases hmid : m.id with
              | temp => simp [hmid, CachedId.isTemp] at htemp
              | server => rfl
            simp only [hnone, id]
          · cases hfind : page.messages.findIdx? (·.id == .temp millis) with
            | none =>
                have := List.findIdx?_eq_none_iff.mp hfind m hm
                simp [hid] at this
            | some i =>
                obtain ⟨a, x, b, hmessages, -, hx, hmodify⟩ := split_of_findIdx? hfind
                exact ⟨a, x, b, hmessages, beq_iff_eq.mp hx, hmodify _⟩

end Cache

/-! ### Messages without an answer -/

section Outstanding

variable {κ : Type} [DecidableEq κ] {sends : κ → Send} {me : UserId}
  {conversationId : ConversationId} {h : List (ClientEvent κ)} {e : ClientEvent κ} {k : κ}

theorem countP_eq_succ {α : Type} {p q : α → Bool} {l : List α} {a : α} (hl : l.Nodup)
    (ha : a ∈ l) (hp : p a = true) (hq : q a = false) (hpq : ∀ b, b ≠ a → p b = q b) :
    l.countP p = l.countP q + 1 := by
  obtain ⟨l₁, l₂, rfl⟩ := List.append_of_mem ha
  have hnot := List.nodup_middle.mp hl
  have hsame (l : List α) (hsub : l ⊆ l₁ ++ l₂) : l.countP p = l.countP q := by
    refine List.countP_congr fun b hb => ?_
    rw [hpq b]
    rintro rfl
    exact (List.nodup_cons.mp hnot).1 (hsub hb)
  rw [List.countP_append, List.countP_append, List.countP_cons_of_pos hp,
    List.countP_cons_of_neg (by simp [hq]), hsame l₁ (List.subset_append_left _ _),
    hsame l₂ (List.subset_append_right _ _)]
  rfl

variable (sends) in
/-- How many messages that say `content` wait for an answer. -/
def outstanding (content : String) (h : List (ClientEvent κ)) : ℕ :=
  (pushed h).countP fun k => (sends k).content == content && !answered h k

omit [DecidableEq κ] in
@[simp] theorem pushed_push : pushed (.push k :: h) = k :: pushed h := rfl

theorem pushed_answer (he : e.answers k = true) : pushed (e :: h) = pushed h := by
  cases e with
  | push => cases he
  | foreign => cases he
  | echo => rfl
  | refusal => rfl

theorem answered_cons : answered (e :: h) k = (e.answers k || answered h k) := rfl

theorem mem_pushed_of_answered (ho : Orderly sends me conversationId h)
    (ha : answered h k = true) : k ∈ pushed h := by
  induction h with
  | nil => cases ha
  | cons e h ih =>
      rw [answered_cons, Bool.or_eq_true] at ha
      rcases ha with ha | ha
      · rw [pushed_answer ha]
        cases e with
        | push => cases ha
        | foreign => cases ha
        | echo j reactions => exact of_decide_eq_true ha ▸ ho.1.1
        | refusal j => exact of_decide_eq_true ha ▸ ho.1.1
      · have hmem := ih ho.2 ha
        cases e with
        | push => exact List.mem_cons_of_mem _ hmem
        | foreign => exact hmem
        | echo => exact hmem
        | refusal => exact hmem

omit [DecidableEq κ] in
theorem nodup_pushed (ho : Orderly sends me conversationId h) : (pushed h).Nodup := by
  induction h with
  | nil => exact List.nodup_nil
  | cons e h ih =>
      cases e with
      | push k => exact List.nodup_cons.mpr ⟨ho.1, ih ho.2⟩
      | foreign => exact ih ho.2
      | echo => exact ih ho.2
      | refusal => exact ih ho.2

theorem outstanding_push (ho : Orderly sends me conversationId (.push k :: h)) (content : String) :
    outstanding sends content (.push k :: h) =
      outstanding sends content h + if (sends k).content = content then 1 else 0 := by
  have hk : answered h k = false := by
    by_contra ha
    exact ho.1 (mem_pushed_of_answered ho.2 (Bool.not_eq_false _ ▸ ha))
  rw [outstanding, pushed_push, List.countP_cons]
  simp [outstanding, answered_cons, ClientEvent.answers, hk]

/-- An answer to a message that has none. -/
theorem outstanding_answer (ho : Orderly sends me conversationId (e :: h))
    (he : ∀ j, e.answers j = decide (k = j)) (hk : answered h k = false) (content : String) :
    outstanding sends content h =
      outstanding sends content (e :: h) + if (sends k).content = content then 1 else 0 := by
  have hpushed : pushed (e :: h) = pushed h := pushed_answer (k := k) (by simp [he])
  have hmem : k ∈ pushed h := by
    rw [← hpushed]
    exact mem_pushed_of_answered ho (by simp [answered_cons, he])
  rw [outstanding, outstanding, hpushed]
  by_cases hcontent : (sends k).content = content
  · rw [if_pos hcontent]
    refine countP_eq_succ (nodup_pushed ho.2) hmem (by simp [hcontent, hk])
      (by simp [answered_cons, he]) fun j hj => ?_
    simp [answered_cons, he, Ne.symm hj]
  · rw [if_neg hcontent, Nat.add_zero]
    refine List.countP_congr fun j _ => ?_
    by_cases hj : k = j
    · subst hj
      simp [hcontent]
    · simp [answered_cons, he, hj]

/-- An answer to a message that has one already. -/
theorem outstanding_again (he : ∀ j, e.answers j = decide (k = j)) (hk : answered h k = true)
    (content : String) : outstanding sends content (e :: h) = outstanding sends content h := by
  rw [outstanding, outstanding, pushed_answer (k := k) (by simp [he])]
  refine List.countP_congr fun j _ => ?_
  by_cases hj : k = j
  · subst hj
    simp [answered_cons, hk]
  · simp [answered_cons, he, hj]

/-- How many messages have been refused. -/
def refusals (h : List (ClientEvent κ)) : ℕ :=
  (pushed h).countP fun k => decide (ClientEvent.refusal k ∈ h)

theorem refusals_push (ho : Orderly sends me conversationId (.push k :: h)) :
    refusals (.push k :: h) = refusals h := by
  have hk : ClientEvent.refusal k ∉ h := fun hmem =>
    ho.1 (mem_pushed_of_answered ho.2
      (List.any_eq_true.mpr ⟨_, hmem, by simp [ClientEvent.answers]⟩))
  simp [refusals, hk]

theorem refusals_echo {reactions : Option (List Reaction)} :
    refusals (.echo k reactions :: h) = refusals h := by
  simp [refusals, pushed]

theorem refusals_foreign {msg : Message} : refusals (.foreign msg :: h) = refusals h := by
  simp [refusals, pushed]

theorem refusals_refusal (ho : Orderly sends me conversationId (.refusal k :: h)) :
    refusals (.refusal k :: h) = refusals h + 1 := by
  rw [refusals, refusals, show pushed (.refusal k :: h) = pushed h from rfl]
  refine countP_eq_succ (nodup_pushed ho.2) ho.1.1 (by simp) (by simp [ho.1.2.2]) fun j hj => ?_
  simp [hj]

end Outstanding

/-! ### The invariant -/

section Kept

variable {κ : Type} [DecidableEq κ] {sends : κ → Send} {me : UserId}
  {conversationId : ConversationId} {qc₀ qc : QueryClient} {h : List (ClientEvent κ)}

def Message.hasFailed (m : Message) : Bool := m.id.isTemp && m.status == some .failed

/-- Every message of the server is shown once, what is shown as being sent has no
answer, and what is shown as failed has been refused. -/
structure Kept (sends : κ → Send) (conversationId : ConversationId) (qc₀ qc : QueryClient)
    (h : List (ClientEvent κ)) : Prop where
  later : later (qc conversationId) = later (qc₀ conversationId)
  nodup : ((shown (qc conversationId)).map (·.id)).Nodup
  known : ∀ messageId, .server messageId ∈ (shown (qc conversationId)).map (·.id) ↔
    Known sends conversationId qc₀ h messageId
  sending : ∀ content, (front (qc conversationId)).countP (·.awaits content) ≤
    outstanding sends content h
  failed : (front (qc conversationId)).countP (·.hasFailed) = refusals h

theorem Kept.init (hf : Fetched sends conversationId qc) :
    Kept sends conversationId qc qc ([] : List (ClientEvent κ)) where
  later := rfl
  nodup := hf.nodup
  known messageId := by simp [Known]
  sending content := by
    refine Nat.le_of_eq (List.countP_eq_zero.mpr fun m hm => ?_)
    simp [Message.awaits, hf.server m (List.mem_append_left _ hm)]
  failed := by
    refine List.countP_eq_zero.mpr fun m hm => ?_
    simp [Message.hasFailed, hf.server m (List.mem_append_left _ hm)]

/-- The other pages hold messages of the server. -/
theorem Kept.later_server (hk : Kept sends conversationId qc₀ qc h)
    (hf : Fetched sends conversationId qc₀) {m : Message}
    (hm : m ∈ Client.later (qc conversationId)) : m.id.isTemp = false :=
  hf.server m (List.mem_append_right _ (hk.later ▸ hm))

/-- Only the first page changes. -/
theorem Kept.of_front {qc' : QueryClient} {h' : List (ClientEvent κ)} {messages : List Message}
    (hk : Kept sends conversationId qc₀ qc h)
    (hlater : Client.later (qc' conversationId) = Client.later (qc conversationId))
    (hfront : front (qc' conversationId) = messages)
    (hnodup : ((messages ++ Client.later (qc conversationId)).map (·.id)).Nodup)
    (hknown : ∀ messageId,
      .server messageId ∈ (messages ++ Client.later (qc conversationId)).map (·.id) ↔
        Known sends conversationId qc₀ h' messageId)
    (hsending : ∀ content, messages.countP (·.awaits content) ≤ outstanding sends content h')
    (hfailed : messages.countP (·.hasFailed) = refusals h') :
    Kept sends conversationId qc₀ qc' h' := by
  subst hfront
  rw [← hlater] at hnodup hknown
  exact ⟨hlater.trans hk.later, hnodup, hknown, hsending, hfailed⟩

theorem Kept.push (hk : Kept sends conversationId qc₀ qc h) (hf : Fetched sends conversationId qc₀)
    {k : κ} (ho : Orderly sends me conversationId (.push k :: h))
    (hpages : qc conversationId ≠ some []) :
    Kept sends conversationId qc₀ (ClientEvent.apply sends me conversationId qc (.push k))
      (.push k :: h) := by
  obtain ⟨-, hlater, hfront⟩ := push_spec (buildOptimisticMessage (.temp (sends k).millis)
    conversationId (sends k).content me) hpages
  have hknown (messageId : MessageId) : Known sends conversationId qc₀ (.push k :: h) messageId ↔
      Known sends conversationId qc₀ h messageId := by simp [Known]
  split at hfront
  case isTrue hany =>
    refine hk.of_front hlater hfront hk.nodup (fun messageId => ?_) (fun content => ?_) ?_
    · rw [hknown]
      exact hk.known messageId
    · rw [outstanding_push ho]
      exact Nat.le_add_right_of_le (hk.sending content)
    · rw [refusals_push ho]
      exact hk.failed
  case isFalse hany =>
    refine hk.of_front hlater hfront ?_ (fun messageId => ?_) (fun content => ?_) ?_
    · rw [List.append_assoc, List.singleton_append, List.map_append, List.map_cons,
        List.nodup_middle, ← List.map_append, List.nodup_cons]
      refine ⟨fun hmem => ?_, hk.nodup⟩
      obtain ⟨m, hm, hid⟩ := List.mem_map.mp hmem
      rcases List.mem_append.mp hm with hm | hm
      · exact hany (List.any_eq_true.mpr ⟨m, hm, beq_iff_eq.mpr hid⟩)
      · have htemp := hk.later_server hf hm
        simp [hid, buildOptimisticMessage, CachedId.isTemp] at htemp
    · rw [hknown, ← hk.known]
      simp [buildOptimisticMessage, shown]
    · rw [outstanding_push ho, List.countP_append, List.countP_singleton]
      refine Nat.add_le_add (hk.sending content) (Nat.le_of_eq ?_)
      simp [buildOptimisticMessage, Message.awaits, CachedId.isTemp]
    · rw [refusals_push ho, ← hk.failed, List.countP_append]
      simp [buildOptimisticMessage, Message.hasFailed]

/-- A message that arrives is entered at the end, if it is not there. -/
theorem Kept.arrive (hk : Kept sends conversationId qc₀ qc h)
    {qc' : QueryClient} {h' : List (ClientEvent κ)} {msg : Message} {messageId : MessageId}
    (hid : msg.id = .server messageId)
    (hnew : ∀ m ∈ Client.later (qc conversationId), m.id ≠ msg.id)
    (hlater : Client.later (qc' conversationId) = Client.later (qc conversationId))
    (hfront : front (qc' conversationId) =
      if (front (qc conversationId)).any (·.id == msg.id) then front (qc conversationId)
      else front (qc conversationId) ++ [{ msg with status := some .delivered }])
    (hknown : ∀ id, Known sends conversationId qc₀ h' id ↔
      Known sends conversationId qc₀ h id ∨ id = messageId)
    (hsending : ∀ content, (front (qc conversationId)).countP (·.awaits content) ≤
      outstanding sends content h')
    (hfailed : refusals h' = refusals h) : Kept sends conversationId qc₀ qc' h' := by
  split at hfront
  case isTrue hany =>
    refine hk.of_front hlater hfront hk.nodup (fun id => ?_) hsending (hk.failed.trans hfailed.symm)
    rw [hknown, ← hk.known]
    refine (or_iff_left_of_imp ?_).symm
    rintro rfl
    obtain ⟨m, hm, hmid⟩ := List.any_eq_true.mp hany
    exact List.mem_map.mpr ⟨m, List.mem_append_left _ hm, (beq_iff_eq.mp hmid).trans hid⟩
  case isFalse hany =>
    refine hk.of_front hlater hfront ?_ (fun id => ?_) (fun content => ?_) ?_
    · rw [List.append_assoc, List.singleton_append, List.map_append, List.map_cons,
        List.nodup_middle, ← List.map_append, List.nodup_cons]
      refine ⟨fun hmem => ?_, hk.nodup⟩
      obtain ⟨m, hm, hmid⟩ := List.mem_map.mp hmem
      rcases List.mem_append.mp hm with hm | hm
      · exact hany (List.any_eq_true.mpr ⟨m, hm, beq_iff_eq.mpr hmid⟩)
      · exact hnew m hm hmid
    · rw [hknown, ← hk.known]
      simp only [hid, shown, List.map_append, List.mem_append, List.map_cons, List.map_nil,
        List.mem_singleton, CachedId.server.injEq]
      tauto
    · rw [List.countP_append, List.countP_singleton]
      refine Nat.le_trans (Nat.le_of_eq ?_) (hsending content)
      simp [Message.awaits]
    · rw [hfailed, ← hk.failed, List.countP_append]
      simp [Message.hasFailed]

/-- A message that arrives takes the place of one that is being sent. -/
theorem Kept.replace (hk : Kept sends conversationId qc₀ qc h)
    {qc' : QueryClient} {h' : List (ClientEvent κ)} {content : String} {messageId : MessageId}
    {a b : List Message} {x arrived : Message} (hx : x.awaits content = true)
    (hfront : front (qc conversationId) = a ++ x :: b) (hid : arrived.id = .server messageId)
    (hunknown : ¬ Known sends conversationId qc₀ h messageId)
    (hlater : Client.later (qc' conversationId) = Client.later (qc conversationId))
    (hfront' : front (qc' conversationId) = a ++ arrived :: b)
    (hknown : ∀ id, Known sends conversationId qc₀ h' id ↔
      Known sends conversationId qc₀ h id ∨ id = messageId)
    (hsending : ∀ other, outstanding sends other h =
      outstanding sends other h' + if content = other then 1 else 0)
    (hfailed : refusals h' = refusals h) : Kept sends conversationId qc₀ qc' h' := by
  simp only [Message.awaits, Bool.and_eq_true, beq_iff_eq] at hx
  obtain ⟨⟨htemp, hstatus⟩, hcontent⟩ := hx
  have hnodup := hk.nodup
  have hids := hk.known
  rw [← hids] at hunknown
  simp only [shown, hfront, List.append_assoc, List.cons_append, List.map_append, List.map_cons,
    List.mem_append, List.mem_cons] at hnodup hids hunknown
  refine hk.of_front hlater hfront' ?_ (fun id => ?_) (fun other => ?_) ?_
  · rw [List.nodup_middle, List.nodup_cons] at hnodup
    simp only [List.append_assoc, List.cons_append, List.map_append, List.map_cons, hid]
    rw [List.nodup_middle, List.nodup_cons]
    refine ⟨fun hmem => hunknown ?_, hnodup.2⟩
    simp only [List.mem_append] at hmem
    tauto
  · rw [hknown, ← hids]
    have hne : CachedId.server id ≠ x.id := by
      intro heq
      simp [← heq, CachedId.isTemp] at htemp
    simp only [List.append_assoc, List.cons_append, List.map_append, List.map_cons,
      List.mem_append, List.mem_cons, hid, CachedId.server.injEq]
    tauto
  · have hle := hk.sending other
    rw [hsending other, hfront, List.countP_append, List.countP_cons] at hle
    have hx : x.awaits other = (content == other) := by
      simp [Message.awaits, htemp, hstatus, hcontent]
    have harrived : arrived.awaits other = false := by simp [Message.awaits, hid, CachedId.isTemp]
    rw [List.countP_append, List.countP_cons_of_neg (by simp [harrived])]
    simp only [hx, beq_iff_eq] at hle
    omega
  · rw [hfailed, ← hk.failed, hfront]
    simp [Message.hasFailed, hid, hstatus, CachedId.isTemp]

omit [DecidableEq κ] in
theorem foreign_of_orderly (ho : Orderly sends me conversationId h) {msg : Message}
    (hmem : ClientEvent.foreign msg ∈ h) {messageId : MessageId} (hid : msg.id = .server messageId)
    (k : κ) : (sends k).answer ≠ some messageId := by
  induction h with
  | nil => cases hmem
  | cons e h ih =>
      rcases List.mem_cons.mp hmem with rfl | hmem
      · obtain ⟨-, -, other, hother, hne⟩ := ho.1
        cases hid.symm.trans hother
        exact hne k
      · exact ih ho.2 hmem

omit [DecidableEq κ] in
theorem accepted_of_orderly (ho : Orderly sends me conversationId h) {k : κ}
    {reactions : Option (List Reaction)} (hmem : ClientEvent.echo k reactions ∈ h) :
    (sends k).answer ≠ none := by
  induction h with
  | nil => cases hmem
  | cons e h ih =>
      rcases List.mem_cons.mp hmem with rfl | hmem
      · exact ho.1.2
      · exact ih ho.2 hmem

/-- A message is not known before it comes back for the first time. -/
theorem not_known_of_not_answered (hf : Fetched sends conversationId qc₀)
    (ho : Orderly sends me conversationId h) {k : κ} {messageId : MessageId}
    (hanswer : (sends k).answer = some messageId) (hk : answered h k = false) :
    ¬ Known sends conversationId qc₀ h messageId := by
  rintro (⟨m, hm, hid⟩ | ⟨j, reactions, hmem, hj⟩ | ⟨msg, hmem, hid⟩)
  · exact hf.fresh k messageId hanswer m hm hid
  · cases hf.distinct j k messageId hj hanswer
    have : answered h k = true :=
      List.any_eq_true.mpr ⟨_, hmem, by simp [ClientEvent.answers]⟩
    rw [hk] at this
    cases this
  · exact foreign_of_orderly ho hmem hid k hanswer

theorem Kept.echo (hk : Kept sends conversationId qc₀ qc h) (hf : Fetched sends conversationId qc₀)
    {k : κ} {reactions : Option (List Reaction)}
    (ho : Orderly sends me conversationId (.echo k reactions :: h))
    (hturn : InTurn sends conversationId qc h (.echo k reactions)) :
    Kept sends conversationId qc₀ (ClientEvent.apply sends me conversationId qc (.echo k reactions))
      (.echo k reactions :: h) := by
  obtain ⟨hpages, hturn⟩ := hturn
  obtain ⟨messageId, hanswer⟩ := Option.ne_none_iff_exists'.mp ho.1.2
  have hknown (id : MessageId) : Known sends conversationId qc₀ (.echo k reactions :: h) id ↔
      Known sends conversationId qc₀ h id ∨ id = messageId := by
    simp only [Known, List.mem_cons]
    constructor
    · rintro (hm | ⟨j, r, heq | hmem, hj⟩ | ⟨msg, heq | hmem, hid⟩)
      · exact .inl (.inl hm)
      · cases heq
        exact .inr (Option.some.inj (hj.symm.trans hanswer))
      · exact .inl (.inr (.inl ⟨j, r, hmem, hj⟩))
      · cases heq
      · exact .inl (.inr (.inr ⟨msg, hmem, hid⟩))
    · rintro ((hm | ⟨j, r, hmem, hj⟩ | ⟨msg, hmem, hid⟩) | rfl)
      · exact .inl hm
      · exact .inr (.inl ⟨j, r, .inr hmem, hj⟩)
      · exact .inr (.inr ⟨msg, .inr hmem, hid⟩)
      · exact .inr (.inl ⟨k, reactions, .inl rfl, hanswer⟩)
  have happly : ClientEvent.apply sends me conversationId qc (.echo k reactions) =
      applySocketNewMessage qc
        (echoOf sends me conversationId k messageId reactions) (some me) := by
    simp only [ClientEvent.apply, hanswer]
  rw [happly]
  obtain ⟨-, hlater, hcases⟩ := newMessage_spec
    (echoOf sends me conversationId k messageId reactions) (some me) hpages
  have hanswers (j : κ) : (ClientEvent.echo k reactions).answers j = decide (k = j) := rfl
  -- the other pages are as they were fetched, and the id is new
  have hnew : ∀ m ∈ Client.later (qc conversationId), m.id ≠ .server messageId := by
    intro m hm
    exact hf.fresh k messageId hanswer m (List.mem_append_right _ (hk.later ▸ hm))
  cases hagain : answered h k with
  | false =>
      have hsending := outstanding_answer ho hanswers hagain
      rcases hcases with ⟨-, a, x, b, arrived, hfront, hx, hid, -, hfront'⟩ | ⟨hnone, hfront'⟩
      · exact hk.replace hx hfront hid (not_known_of_not_answered hf ho.2 hanswer hagain) hlater
          hfront' hknown hsending refusals_echo
      · refine hk.arrive rfl hnew hlater hfront' hknown (fun content => ?_) refusals_echo
        by_cases hcontent : (sends k).content = content
        · subst hcontent
          have hzero : (front (qc conversationId)).countP (·.awaits (sends k).content) = 0 :=
            List.countP_eq_zero.mpr fun m hm => Bool.not_eq_true _ ▸ hnone rfl m hm
          rw [hzero]
          exact Nat.zero_le _
        · have hle := hk.sending content
          rw [hsending content, if_neg hcontent] at hle
          exact hle
  | true =>
      rcases hcases with ⟨-, a, x, b, arrived, hfront, hx, -, -, -⟩ | ⟨-, hfront'⟩
      · have hmem : x ∈ front (qc conversationId) :=
          hfront ▸ List.mem_append_right _ List.mem_cons_self
        cases hx.symm.trans (hturn hagain x hmem)
      · refine hk.arrive rfl hnew hlater hfront' hknown (fun content => ?_) refusals_echo
        rw [outstanding_again hanswers hagain]
        exact hk.sending content

theorem Kept.foreign (hk : Kept sends conversationId qc₀ qc h) {msg : Message}
    (ho : Orderly sends me conversationId (.foreign msg :: h))
    (hturn : InTurn sends conversationId qc h (.foreign msg)) :
    Kept sends conversationId qc₀ (ClientEvent.apply sends me conversationId qc (.foreign msg))
      (.foreign msg :: h) := by
  obtain ⟨hpages, hnew⟩ := hturn
  obtain ⟨⟨hconversation, hsender, messageId, hid, -⟩, -⟩ := ho
  subst hconversation
  obtain ⟨-, hlater, ⟨hown, -⟩ | ⟨-, hfront'⟩⟩ := newMessage_spec msg (some me) hpages
  · exact absurd (Option.some.inj hown).symm hsender
  · refine hk.arrive hid hnew hlater hfront' (fun id => ?_) hk.sending refusals_foreign
    simp only [Known, List.mem_cons]
    constructor
    · rintro (hm | ⟨j, r, heq | hmem, hj⟩ | ⟨other, heq | hmem, hother⟩)
      · exact .inl (.inl hm)
      · cases heq
      · exact .inl (.inr (.inl ⟨j, r, hmem, hj⟩))
      · cases heq
        exact .inr (CachedId.server.inj (hother.symm.trans hid))
      · exact .inl (.inr (.inr ⟨other, hmem, hother⟩))
    · rintro ((hm | ⟨j, r, hmem, hj⟩ | ⟨other, hmem, hother⟩) | rfl)
      · exact .inl hm
      · exact .inr (.inl ⟨j, r, .inr hmem, hj⟩)
      · exact .inr (.inr ⟨other, .inr hmem, hother⟩)
      · exact .inr (.inr ⟨msg, .inl rfl, hid⟩)

theorem Kept.refusal (hk : Kept sends conversationId qc₀ qc h)
    (hf : Fetched sends conversationId qc₀) {k : κ}
    (ho : Orderly sends me conversationId (.refusal k :: h))
    (hturn : InTurn sends conversationId qc h (.refusal k)) :
    Kept sends conversationId qc₀ (ClientEvent.apply sends me conversationId qc (.refusal k))
      (.refusal k :: h) := by
  obtain ⟨-, m, hm, hid, hawaits⟩ := hturn
  obtain ⟨-, hlater, a, x, b, hfront, hxid, hfront'⟩ :=
    failed_spec (sends k).millis ⟨m, hm, hid⟩ fun m hm => hk.later_server hf hm
  -- there is no other message under this id
  have hx : x = m := by
    have hxmem : x ∈ front (qc conversationId) :=
      hfront ▸ List.mem_append_right _ List.mem_cons_self
    exact List.inj_on_of_nodup_map hk.nodup (List.mem_append_left _ hxmem)
      (List.mem_append_left _ hm) (hxid.trans hid.symm)
  subst hx
  have hagain : answered h k = false := by
    by_contra hanswered
    rw [Bool.not_eq_false] at hanswered
    obtain ⟨e, he, hek⟩ := List.any_eq_true.mp hanswered
    cases e with
    | push => cases hek
    | foreign => cases hek
    | echo j reactions =>
        cases of_decide_eq_true hek
        exact accepted_of_orderly ho.2 he ho.1.2.1
    | refusal j =>
        cases of_decide_eq_true hek
        exact ho.1.2.2 he
  have hsending (content : String) : outstanding sends content h = _ :=
    outstanding_answer ho (fun _ => rfl) hagain content
  have hknown (id : MessageId) : Known sends conversationId qc₀ (.refusal k :: h) id ↔
      Known sends conversationId qc₀ h id := by simp [Known]
  have hids : (a ++ { x with status := some .failed } :: b ++ Client.later (qc conversationId)).map
      (·.id) = (shown (qc conversationId)).map (·.id) := by
    simp [shown, hfront]
  simp only [Message.awaits, Bool.and_eq_true, beq_iff_eq] at hawaits
  obtain ⟨⟨htemp, hstatus⟩, hcontent⟩ := hawaits
  refine hk.of_front hlater hfront' ?_ (fun id => ?_) (fun content => ?_) ?_
  · rw [hids]
    exact hk.nodup
  · rw [hids, hknown]
    exact hk.known id
  · have hle := hk.sending content
    rw [hsending content, hfront, List.countP_append, List.countP_cons] at hle
    have hx : x.awaits content = ((sends k).content == content) := by
      simp [Message.awaits, htemp, hstatus, hcontent]
    rw [List.countP_append, List.countP_cons_of_neg (by simp [Message.awaits])]
    simp only [hx, beq_iff_eq] at hle
    omega
  · rw [refusals_refusal ho, ← hk.failed, hfront]
    simp [Message.hasFailed, htemp, hstatus]
    omega

theorem Kept.step (hk : Kept sends conversationId qc₀ qc h)
    (hf : Fetched sends conversationId qc₀) {e : ClientEvent κ}
    (ho : Orderly sends me conversationId (e :: h)) (hturn : InTurn sends conversationId qc h e) :
    Kept sends conversationId qc₀ (e.apply sends me conversationId qc) (e :: h) := by
  cases e with
  | push k => exact hk.push hf ho hturn.1
  | echo k reactions => exact hk.echo hf ho hturn
  | foreign msg => exact hk.foreign ho hturn
  | refusal k => exact hk.refusal hf ho hturn

theorem Kept.of_allInTurn (hf : Fetched sends conversationId qc)
    (ho : Orderly sends me conversationId h) (hturns : AllInTurn sends me conversationId qc h) :
    Kept sends conversationId qc (cacheAfter sends me conversationId qc h) h := by
  induction h with
  | nil => exact .init hf
  | cons e h ih => exact (ih ho.2 hturns.2).step hf ho hturns.1

omit [DecidableEq κ] in
theorem refused_of_orderly (ho : Orderly sends me conversationId h) {k : κ}
    (hmem : ClientEvent.refusal k ∈ h) : (sends k).answer = none := by
  induction h with
  | nil => cases hmem
  | cons e h ih =>
      rcases List.mem_cons.mp hmem with rfl | hmem
      · exact ho.1.2.1
      · exact ih ho.2 hmem

theorem refusals_of_settled (ho : Orderly sends me conversationId h)
    (hsettled : ∀ k ∈ pushed h, answered h k = true) :
    refusals h = (pushed h).countP fun k => (sends k).answer = none := by
  refine List.countP_congr fun k hk => ?_
  simp only [decide_eq_true_eq]
  constructor
  · exact refused_of_orderly ho
  · intro hnone
    obtain ⟨e, he, hek⟩ := List.any_eq_true.mp (hsettled k hk)
    cases e with
    | push => cases hek
    | foreign => cases hek
    | echo j reactions =>
        cases of_decide_eq_true hek
        exact absurd hnone (accepted_of_orderly ho he)
    | refusal j =>
        cases of_decide_eq_true hek
        exact he

/-- **Optimistic sends reconcile**, if every refusal finds its message as being
sent, and no message that comes back again finds another one that says the same
and is being sent. -/
theorem reconciled_of_allInTurn (hf : Fetched sends conversationId qc)
    (ho : Orderly sends me conversationId h) (hturns : AllInTurn sends me conversationId qc h)
    (hsettled : ∀ k ∈ pushed h, answered h k = true) :
    Reconciled sends conversationId qc h
      (shown (cacheAfter sends me conversationId qc h conversationId)) := by
  have hk := Kept.of_allInTurn hf ho hturns
  constructor
  · intro messageId hknown
    have hcount := List.count_eq_one_of_mem hk.nodup ((hk.known messageId).mpr hknown)
    rw [List.count, List.countP_map] at hcount
    exact hcount
  · intro m hm htemp hstatus
    rcases List.mem_append.mp hm with hm | hm
    · have hzero : outstanding sends m.content h = 0 :=
        List.countP_eq_zero.mpr fun k hmem => by simp [hsettled k hmem]
      have hnone := List.countP_eq_zero.mp
        (Nat.le_zero.mp (hzero ▸ hk.sending m.content)) m hm
      simp [Message.awaits, htemp, hstatus] at hnone
    · cases htemp.symm.trans (hk.later_server hf hm)
  · rw [← refusals_of_settled ho hsettled, ← hk.failed, shown, List.countP_append]
    refine (congrArg _ (List.countP_eq_zero.mpr fun m hm => ?_)).trans (Nat.add_zero _)
    simp [hk.later_server hf hm]

end Kept

namespace Sample

open Matching (Text)

def ute : UserId := ⟨"ute", by decide⟩
def quay : ConversationId := ⟨"quay", by decide⟩
def parcel : MessageId := ⟨"parcel", by decide⟩

/-- The same is sent twice; the server refuses the first and accepts the second. -/
def twice (second : Bool) : Send where
  content := "on my way"
  millis := if second then 200 else 100
  answer := if second then some parcel else none

/-- Nothing has been fetched. -/
def unopened : QueryClient := fun _ => none

theorem fetched_unopened : Fetched twice quay unopened where
  server m hm := by cases hm
  nodup := List.nodup_nil
  fresh _ _ _ m hm := by cases hm
  distinct j k messageId hj hk := by
    cases j with
    | false => cases hj
    | true =>
        cases k with
        | false => cases hk
        | true => rfl

/-- The second comes back before the first is refused. -/
def crossed : List (ClientEvent Bool) :=
  [.refusal false, .echo true none, .push true, .push false]

/-- What comes back takes the place of the first, and the second is shown as
being sent for ever. -/
theorem not_reconciled_crossed :
    Fetched twice quay unopened ∧ Orderly twice ute quay crossed ∧
      (∀ k ∈ pushed crossed, answered crossed k = true) ∧
      ¬ Reconciled twice quay unopened crossed
        (shown (cacheAfter twice ute quay unopened crossed quay)) := by
  refine ⟨fetched_unopened, ⟨⟨by decide, rfl, by decide⟩, ⟨by decide, by decide⟩, ?_, ?_, trivial⟩,
    by decide, fun hr => ?_⟩
  · show true ∉ pushed [ClientEvent.push false]
    decide
  · show false ∉ pushed []
    decide
  · have hfailed := hr.failed
    revert hfailed
    decide

/-- The first is refused before the second comes back. -/
theorem reconciled_twice :
    Reconciled twice quay unopened [.echo true none, .refusal false, .push true, .push false]
      (shown (cacheAfter twice ute quay unopened
        [.echo true none, .refusal false, .push true, .push false] quay)) := by
  refine reconciled_of_allInTurn fetched_unopened ⟨⟨by decide, by decide⟩,
    ⟨by decide, rfl, by decide⟩, ?_, ?_, trivial⟩ ⟨⟨by decide, ?_⟩, ⟨by decide, ?_⟩,
    ⟨by decide, trivial⟩, ⟨by decide, trivial⟩, trivial⟩ (by decide)
  · show true ∉ pushed [ClientEvent.push false]
    decide
  · show false ∉ pushed []
    decide
  · intro hagain
    cases hagain
  · exact ⟨_, List.mem_cons_self, rfl, rfl⟩

end Sample

end Greetup.Client
