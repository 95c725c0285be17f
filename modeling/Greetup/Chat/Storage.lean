import Greetup.Chat.Types
import Mathlib.Tactic.Common

/-!
The columns in which a message is stored, and the statements of the repository
that write them: what they keep of the texts of the message, and for how long.
-/

namespace Greetup.Chat

open Matching (Text)
open Connections (UserId)

/-! ### Encryption -/

/-- Encryption with a fresh iv, into the two columns of a message, and back.
Two empty columns decrypt to nothing. -/
structure Cipher (κ : Type) where
  encrypt : ℕ → String → κ
  decrypt : κ → Option String
  blank : κ
  decrypt_encrypt : ∀ iv text, decrypt (encrypt iv text) = some text
  decrypt_blank : decrypt blank = none

/-! ### The row -/

/-- An element of `edit_history`. -/
structure EditRecord where
  content : String
  editedAt : Timestamp
  deriving DecidableEq

/-- A row of `messages` as it is stored. -/
structure StoredMessage (κ : Type) where
  id : MessageId
  conversationId : ConversationId
  senderId : UserId
  /-- `encrypted_content` and `iv` -/
  encrypted : κ
  messageType : MessageType
  replyToId : Option MessageId
  mentions : Option (List UserId)
  editedAt : Option Timestamp := none
  editHistory : List EditRecord := []
  isDeleted : Bool := false
  deletedForAll : Bool := false
  deletedAt : Option Timestamp := none
  createdAt : Timestamp

structure InsertMessageParams where
  id : MessageId
  conversationId : ConversationId
  senderId : UserId
  content : String
  messageType : Option MessageType
  replyToId : Option MessageId
  mentions : Option (List UserId)

/-! ### The statements -/

section Statements

variable {κ : Type} (cipher : Cipher κ)

def insertMessage (params : InsertMessageParams) (iv : ℕ) (now : Timestamp) : StoredMessage κ where
  id := params.id
  conversationId := params.conversationId
  senderId := params.senderId
  encrypted := cipher.encrypt iv params.content
  messageType := params.messageType.getD .text
  replyToId := params.replyToId
  mentions := params.mentions
  createdAt := now

namespace StoredMessage

variable (existing : StoredMessage κ)

/-- What was there is decrypted first, and the call fails if that fails. -/
def editMessage (newContent : String) (iv : ℕ) (now : Timestamp) : Option (StoredMessage κ) :=
  match cipher.decrypt existing.encrypted with
  | none => none
  | some oldContent =>
      some { existing with
        encrypted := cipher.encrypt iv newContent
        editedAt := some now
        editHistory := existing.editHistory ++
          [⟨oldContent, existing.editedAt.getD existing.createdAt⟩] }

def softDeleteMessage (deleteForAll : Bool) (now : Timestamp) : StoredMessage κ :=
  { existing with
    isDeleted := true, deletedForAll := deleteForAll, deletedAt := some now
    encrypted := cipher.blank }

/-- The message as it is read: what is deleted has no content. -/
def toMessageRow : MessageRow where
  id := existing.id
  conversationId := existing.conversationId
  senderId := existing.senderId
  messageType := existing.messageType
  content := if existing.isDeleted then none else cipher.decrypt existing.encrypted
  isDeleted := existing.isDeleted
  deletedForAll := existing.deletedForAll
  createdAt := existing.createdAt

/-- The row without its timestamps. -/
def untimed : StoredMessage κ :=
  { existing with
    editedAt := none, deletedAt := none, createdAt := 0
    editHistory := existing.editHistory.map ({ · with editedAt := 0 }) }

end StoredMessage

end Statements

/-- A call of the repository on a message that exists. -/
inductive TextCall
  | editMessage (newContent : String) (iv : ℕ) (now : Timestamp)
  | softDeleteMessage (deleteForAll : Bool) (now : Timestamp)
  deriving DecidableEq

/-- The text that a call writes. -/
def TextCall.content : TextCall → Option String
  | .editMessage newContent _ _ => some newContent
  | .softDeleteMessage _ _ => none

section Runs

variable {κ : Type} (cipher : Cipher κ)

/-- A call that fails changes nothing. -/
def TextCall.step (row : StoredMessage κ) : TextCall → StoredMessage κ
  | .editMessage newContent iv now => (row.editMessage cipher newContent iv now).getD row
  | .softDeleteMessage deleteForAll now => row.softDeleteMessage cipher deleteForAll now

/-- A message is inserted, and the calls follow. -/
def storedAfter (params : InsertMessageParams) (iv : ℕ) (now : Timestamp) (calls : List TextCall) :
    StoredMessage κ :=
  calls.foldl (TextCall.step cipher) (insertMessage cipher params iv now)

end Runs

/-- The texts that a message ever had. -/
def textsOf (params : InsertMessageParams) (calls : List TextCall) : List String :=
  params.content :: calls.filterMap TextCall.content

/-! ### What is asked of it -/

/-- No column ever has a text of the message in it as it is. -/
def StaysEncrypted {κ : Type} (cipher : Cipher κ) (params : InsertMessageParams) (iv : ℕ)
    (now : Timestamp) (calls : List TextCall) : Prop :=
  ∀ pre, pre <+: calls → ∀ record ∈ (storedAfter cipher params iv now pre).editHistory,
    record.content ∉ textsOf params calls

/-- The calls differ in nothing but texts, ivs and times. -/
inductive TextCall.Alike : TextCall → TextCall → Prop
  | edit {content content' iv iv' now now'} :
      Alike (.editMessage content iv now) (.editMessage content' iv' now')
  | delete {deleteForAll now now'} :
      Alike (.softDeleteMessage deleteForAll now) (.softDeleteMessage deleteForAll now')

/-- Once the message is deleted, its row is the same whatever was written
before. -/
def ForgetsTexts {κ : Type} (cipher : Cipher κ) (params : InsertMessageParams) (iv : ℕ)
    (now : Timestamp) (calls : List TextCall) : Prop :=
  ∀ before deleteForAll deletedAt after,
    calls = before ++ .softDeleteMessage deleteForAll deletedAt :: after →
    ∀ content iv' now' before', List.Forall₂ TextCall.Alike before before' →
      (storedAfter cipher { params with content } iv' now'
        (before' ++ .softDeleteMessage deleteForAll deletedAt :: after)).untimed =
      (storedAfter cipher params iv now calls).untimed

/-- Whatever is edited is deleted before. -/
def EditedOnceDeleted (calls : List TextCall) : Prop :=
  ∀ before newContent iv now after, calls = before ++ .editMessage newContent iv now :: after →
    ∃ deleteForAll deletedAt, .softDeleteMessage deleteForAll deletedAt ∈ before

/-! ### The message as it is read -/

section Read

variable {κ : Type} (cipher : Cipher κ) (row : StoredMessage κ)

theorem toMessageRow_insertMessage (params : InsertMessageParams) (iv : ℕ) (now : Timestamp) :
    ((insertMessage cipher params iv now).toMessageRow cipher).content = some params.content :=
  cipher.decrypt_encrypt iv params.content

/-- What a client reads is what was written. -/
theorem toMessageRow_editMessage {newContent : String} {iv : ℕ} {now : Timestamp}
    {updated : StoredMessage κ} (h : row.editMessage cipher newContent iv now = some updated)
    (hshown : row.isDeleted = false) :
    updated.toMessageRow cipher =
      { row.toMessageRow cipher with content := some newContent } := by
  rw [StoredMessage.editMessage] at h
  split at h
  · cases h
  · cases h
    simp only [StoredMessage.toMessageRow, hshown, Bool.false_eq_true, if_false,
      cipher.decrypt_encrypt]

theorem toMessageRow_softDeleteMessage (deleteForAll : Bool) (now : Timestamp) :
    (row.softDeleteMessage cipher deleteForAll now).toMessageRow cipher =
      { row.toMessageRow cipher with
        isDeleted := true, deletedForAll := deleteForAll, content := none } :=
  rfl

end Read

/-! ### Deleted first -/

section Deleted

variable {κ : Type} {cipher : Cipher κ} {row row' : StoredMessage κ} {call call' : TextCall}
  {calls : List TextCall}

/-- Once it is deleted, a message cannot be edited. -/
theorem editMessage_of_blank (h : row.encrypted = cipher.blank) (newContent : String) (iv : ℕ)
    (now : Timestamp) : row.editMessage cipher newContent iv now = none := by
  rw [StoredMessage.editMessage, h, cipher.decrypt_blank]

/-- The row of a deleted message that was not edited before. -/
structure Wiped (cipher : Cipher κ) (row : StoredMessage κ) : Prop where
  encrypted : row.encrypted = cipher.blank
  editHistory : row.editHistory = []
  editedAt : row.editedAt = none

theorem Wiped.step (h : Wiped cipher row) (call : TextCall) :
    Wiped cipher (call.step cipher row) := by
  cases call with
  | editMessage newContent iv now =>
      rw [TextCall.step, editMessage_of_blank h.encrypted]
      exact h
  | softDeleteMessage deleteForAll now => exact ⟨rfl, h.editHistory, h.editedAt⟩

theorem Wiped.foldl (h : Wiped cipher row) (calls : List TextCall) :
    Wiped cipher (calls.foldl (TextCall.step cipher) row) := by
  induction calls generalizing row with
  | nil => exact h
  | cons call calls ih => exact ih (h.step call)

/-- Of two deleted messages that are alike, alike calls make two that are alike. -/
theorem Wiped.untimed_step (h : Wiped cipher row) (h' : Wiped cipher row')
    (heq : row'.untimed = row.untimed) (halike : call.Alike call') :
    (call'.step cipher row').untimed = (call.step cipher row).untimed := by
  cases halike with
  | edit =>
      rw [TextCall.step, TextCall.step, editMessage_of_blank h.encrypted,
        editMessage_of_blank h'.encrypted]
      exact heq
  | delete =>
      rw [StoredMessage.untimed, StoredMessage.untimed, StoredMessage.mk.injEq] at heq
      rw [TextCall.step, TextCall.step, StoredMessage.softDeleteMessage,
        StoredMessage.softDeleteMessage, StoredMessage.untimed, StoredMessage.untimed,
        StoredMessage.mk.injEq]
      simp only [heq, and_self]

theorem Wiped.untimed_foldl {calls' : List TextCall} (h : Wiped cipher row)
    (h' : Wiped cipher row') (heq : row'.untimed = row.untimed)
    (halike : List.Forall₂ TextCall.Alike calls calls') :
    (calls'.foldl (TextCall.step cipher) row').untimed =
      (calls.foldl (TextCall.step cipher) row).untimed := by
  induction halike generalizing row row' with
  | nil => exact heq
  | cons hcall hcalls ih => exact ih (h.step _) (h'.step _) (h.untimed_step h' heq hcall)

theorem alike_refl (call : TextCall) : call.Alike call := by
  cases call with
  | editMessage => exact .edit
  | softDeleteMessage => exact .delete

variable (cipher) in
theorem wiped_insertMessage (params : InsertMessageParams) (iv : ℕ) (now : Timestamp)
    (deleteForAll : Bool) (deletedAt : Timestamp) :
    Wiped cipher ((insertMessage cipher params iv now).softDeleteMessage cipher deleteForAll
      deletedAt) :=
  ⟨rfl, rfl, rfl⟩

/-- A message that is edited at all is edited first, or deleted first. -/
theorem editedOnceDeleted_iff : EditedOnceDeleted calls ↔
    ∀ newContent iv now, calls.head? ≠ some (.editMessage newContent iv now) := by
  constructor
  · intro h newContent iv now hhead
    obtain ⟨rest, rfl⟩ := List.head?_eq_some_iff.mp hhead
    obtain ⟨deleteForAll, deletedAt, hmem⟩ := h [] newContent iv now rest rfl
    cases hmem
  · intro h before newContent iv now after heq
    cases before with
    | nil => exact absurd (by rw [heq]; rfl) (h newContent iv now)
    | cons call before =>
        cases call with
        | softDeleteMessage deleteForAll deletedAt =>
            exact ⟨deleteForAll, deletedAt, List.mem_cons_self⟩
        | editMessage newContent' iv' now' =>
            exact absurd (by rw [heq]; rfl) (h newContent' iv' now')

end Deleted

section Main

variable {κ : Type} (cipher : Cipher κ) (params : InsertMessageParams) (iv : ℕ) (now : Timestamp)
  (calls : List TextCall)

/-- The first edit keeps the text that was there. -/
theorem not_staysEncrypted_edited (newContent : String) (iv' : ℕ) (now' : Timestamp) :
    ¬ StaysEncrypted cipher params iv now (.editMessage newContent iv' now' :: calls) := by
  intro h
  have hrow : (storedAfter cipher params iv now [.editMessage newContent iv' now']).editHistory =
      [⟨params.content, now⟩] := by
    simp [storedAfter, TextCall.step, StoredMessage.editMessage, insertMessage,
      cipher.decrypt_encrypt]
  refine h [.editMessage newContent iv' now'] ⟨calls, rfl⟩ ⟨params.content, now⟩ ?_
    List.mem_cons_self
  rw [hrow]
  exact List.mem_singleton_self _

theorem wiped_storedAfter (deleteForAll : Bool) (deletedAt : Timestamp) :
    Wiped cipher (storedAfter cipher params iv now
      (.softDeleteMessage deleteForAll deletedAt :: calls)) :=
  (wiped_insertMessage cipher params iv now deleteForAll deletedAt).foldl calls

theorem staysEncrypted_deleted (deleteForAll : Bool) (deletedAt : Timestamp) :
    StaysEncrypted cipher params iv now (.softDeleteMessage deleteForAll deletedAt :: calls) := by
  intro pre hpre record hrecord
  rcases List.prefix_cons_iff.mp hpre with rfl | ⟨pre, rfl, -⟩
  · cases hrecord
  · rw [(wiped_storedAfter cipher params iv now pre deleteForAll deletedAt).editHistory] at hrecord
    cases hrecord

theorem forgetsTexts_deleted (deleteForAll : Bool) (deletedAt : Timestamp) :
    ForgetsTexts cipher params iv now (.softDeleteMessage deleteForAll deletedAt :: calls) := by
  intro before deleteForAll' deletedAt' after heq content iv' now' before' halike
  rw [heq]
  have hafter : List.Forall₂ TextCall.Alike (.softDeleteMessage deleteForAll' deletedAt' :: after)
      (.softDeleteMessage deleteForAll' deletedAt' :: after) :=
    List.forall₂_same.mpr fun call _ => alike_refl call
  cases halike with
  | nil =>
      obtain ⟨hcall, rfl⟩ := List.cons.inj heq
      cases hcall
      have hsame := Wiped.untimed_foldl
        (wiped_insertMessage cipher params iv now deleteForAll deletedAt)
        (wiped_insertMessage cipher { params with content } iv' now' deleteForAll deletedAt) rfl
        (List.forall₂_same.mpr fun call (_ : call ∈ calls) => alike_refl call)
      exact hsame
  | cons hcall hcalls =>
      obtain ⟨rfl, -⟩ := List.cons.inj heq
      cases hcall with
      | delete =>
          rename_i deletedAt''
          have hsame := Wiped.untimed_foldl
            (wiped_insertMessage cipher params iv now deleteForAll deletedAt)
            (wiped_insertMessage cipher { params with content } iv' now' deleteForAll deletedAt'')
            rfl (List.rel_append hcalls hafter)
          exact hsame

/-- **Texts are stored only encrypted, and are gone after deletion**, if and only
if nothing is edited before it is deleted. -/
theorem storedEncrypted_iff :
    StaysEncrypted cipher params iv now calls ∧ ForgetsTexts cipher params iv now calls ↔
      EditedOnceDeleted calls := by
  rw [editedOnceDeleted_iff]
  cases calls with
  | nil =>
      refine ⟨fun _ newContent iv now hhead => ?_, fun _ => ⟨?_, ?_⟩⟩
      · cases hhead
      · intro pre hpre record hrecord
        rw [List.prefix_nil.mp hpre] at hrecord
        cases hrecord
      · intro before deleteForAll deletedAt after heq
        exact absurd heq.symm (List.append_ne_nil_of_right_ne_nil _ (List.cons_ne_nil _ _))
  | cons call calls =>
      cases call with
      | editMessage newContent iv' now' =>
          refine ⟨fun h => absurd h.1 ?_, fun h => absurd rfl (h newContent iv' now')⟩
          exact not_staysEncrypted_edited cipher params iv now calls newContent iv' now'
      | softDeleteMessage deleteForAll deletedAt =>
          refine ⟨fun _ newContent iv now hhead => ?_, fun _ => ⟨?_, ?_⟩⟩
          · cases hhead
          · exact staysEncrypted_deleted cipher params iv now calls deleteForAll deletedAt
          · exact forgetsTexts_deleted cipher params iv now calls deleteForAll deletedAt

end Main

namespace Sample

/-- Texts with a seal around them. -/
def seals : Cipher (Option (ℕ × String)) where
  encrypt iv text := some (iv, text)
  decrypt := Option.map Prod.snd
  blank := none
  decrypt_encrypt _ _ := rfl
  decrypt_blank := rfl

def postcard : InsertMessageParams where
  id := ⟨"postcard", by decide⟩
  conversationId := ⟨"letterbox", by decide⟩
  senderId := ⟨"ora", by decide⟩
  content := "my pin is 4711"
  messageType := none
  replyToId := none
  mentions := none

/-- The message is edited, and deleted. -/
def secondThoughts : List TextCall :=
  [.editMessage "never mind" 8 20, .softDeleteMessage true 21]

/-- Even then the text that was edited is there, and rows of other texts are
other rows. -/
theorem not_storedEncrypted_secondThoughts :
    (storedAfter seals postcard 7 19 secondThoughts).editHistory = [⟨"my pin is 4711", 19⟩] ∧
      ¬ StaysEncrypted seals postcard 7 19 secondThoughts ∧
      ¬ ForgetsTexts seals postcard 7 19 secondThoughts := by
  refine ⟨rfl, fun h => ?_, fun h => ?_⟩
  · refine h secondThoughts (List.prefix_refl _) ⟨"my pin is 4711", 19⟩ ?_ ?_
    · exact List.mem_singleton_self _
    · exact List.mem_cons_self
  · have hsame := h [.editMessage "never mind" 8 20] true 21 [] rfl "hello" 7 19
      [.editMessage "never mind" 8 20] (.cons .edit .nil)
    have hhistory := congrArg StoredMessage.editHistory hsame
    revert hhistory
    decide

end Sample

end Greetup.Chat
