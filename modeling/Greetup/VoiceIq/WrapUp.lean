import Greetup.VoiceIq.Licence

/-!
How a session is wrapped up, however the calls and the jobs are interleaved and
wherever the jobs stop.

Nothing waits for anything: the end of a session does not look at its status,
the last job does not wait for the windows, and what an attempt has written
stays when the job is run again. If none of this comes to pass, every window
that is scored has one row and counts in the result, and every participant has
one report.
-/

namespace Greetup.VoiceIq

open Interleaving
open Interleaving.Prog

variable {ν : Type} [Numbers ν] {ι : Type}

/-! ### The statement -/

def Task.scores (job : ℕ) : Task ν → Bool
  | .scoringAttempt job' _ _ => job' = job
  | _ => false

/-- The rows that the attempts at a scoring job have written. -/
def scoreRowsOf (tasks : ι → Task ν) (job : ℕ) (s : VoiceIqScene ι ν) : List ScoreRow :=
  s.trace.filterMap fun e => if (tasks e.tid).scores job then e.cmd.scoreRow? else none

/-- How far a session has come. -/
def SessionStatus.stage : SessionStatus → ℕ
  | .active => 0
  | .processing => 1
  | .completed => 2
  | .failed => 3

def World.stage (w : World ν) (sessionId : SessionId) : Option ℕ :=
  (w.status sessionId).map SessionStatus.stage

/-- A session that was just created, in a store whose foreign keys refer to
something. -/
structure Fresh (sessionId : SessionId) (w : World ν) : Prop where
  active : w.status sessionId = some .active
  jobs : ∀ n j, w.scoringQueue.job n = some j → j.data.sessionId ≠ sessionId ∧
    ∃ p ∈ w.participants.rows, p.id = j.data.participantId ∧ p.sessionId = j.data.sessionId
  scores : ∀ row ∈ w.scores, row.sessionId ≠ sessionId ∧
    ∃ p ∈ w.participants.rows, p.id = row.participantId ∧ p.sessionId = row.sessionId
  feedback : ∀ row ∈ w.feedback, row.sessionId ≠ sessionId ∧
    ∃ p ∈ w.participants.rows, p.id = row.participantId ∧ p.sessionId = row.sessionId
  webhooks : ∀ n j, w.webhookQueue.job n = some j → j.data.sessionId ≠ sessionId
  deliveries : ∀ d ∈ w.deliveries, d.2.sessionId ≠ sessionId

/-- The session is wrapped up once and completely. -/
structure WrappedUp [DecidableEq ι] (tasks : ι → Task ν) (sessionId : SessionId) (w₀ : World ν)
    (sched : List ι) : Prop where
  /-- the rows are those that the attempts have written -/
  written : ((begun tasks w₀).runs exec sched).scene.world.scores = w₀.scores ++
    ((begun tasks w₀).runs exec sched).scene.trace.reverse.filterMap fun e => e.cmd.scoreRow?
  /-- a window has one row when it is scored, and never more -/
  scored : ∀ job j, ((begun tasks w₀).runs exec sched).scene.world.scoringQueue.job job = some j →
    j.data.sessionId = sessionId →
      (scoreRowsOf tasks job ((begun tasks w₀).runs exec sched).scene).length ≤ 1 ∧
      (j.state = .completed → ∃ scores,
        scoreRowsOf tasks job ((begun tasks w₀).runs exec sched).scene = [.of j.data scores])
  /-- a participant has at most one report -/
  reported : ∀ p ∈ ((begun tasks w₀).runs exec sched).scene.world.participants.rows,
    p.sessionId = sessionId →
      (((begun tasks w₀).runs exec sched).scene.world.feedback.countP fun row =>
        row.participantId = p.id) ≤ 1
  /-- what is delivered counts every row there is of a participant -/
  delivered : ∀ d ∈ ((begun tasks w₀).runs exec sched).scene.world.deliveries,
    d.2.sessionId = sessionId →
      ∀ p ∈ ((begun tasks w₀).runs exec sched).scene.world.participants.rows,
        p.sessionId = sessionId →
        ((begun tasks w₀).runs exec sched).scene.world.listScoresForParticipant p.id ≠ [] →
          ∃ report, participantResult p (((begun tasks w₀).runs exec
            sched).scene.world.listScoresForParticipant p.id) report ∈ d.2.participants
  /-- the status goes from active over processing to completed -/
  forward : ∀ earlier, earlier <+: sched → ∃ before after,
    ((begun tasks w₀).runs exec earlier).scene.world.stage sessionId = some before ∧
      ((begun tasks w₀).runs exec sched).scene.world.stage sessionId = some after ∧
        before ≤ after ∧ after ≤ 2

/-! ### The condition -/

def scoreMark (e : VoiceIqTold ν) : Bool := e.1.scoreRow?.isSome

def feedbackMark (e : VoiceIqTold ν) : Bool := e.1.feedbackRow?.isSome

def Cmd.lists (sessionId : SessionId) : Cmd ν → Bool
  | .listParticipants sessionId' => sessionId' = sessionId
  | _ => false

/-- A step after which nothing is left undone or done twice: a session is ended
while it is active; no window of it is scored when its participants have been
listed; and an attempt that is repeated has written nothing. -/
def InOrder [DecidableEq ι] (sessionId : SessionId) (i : ι) (c : Cmd ν)
    (s : VoiceIqScene ι ν) : Prop :=
  match c with
  | .updateStatus id _ => id = sessionId → s.world.status sessionId = some .active
  | .insertScore row => row.sessionId = sessionId → ∀ e ∈ s.trace, e.cmd.lists sessionId = false
  | .failScoringJob job attempt =>
      (∃ j ∈ s.world.scoringQueue.job job, j.data.sessionId = sessionId) → attempt < 3 →
        ∀ e ∈ s.told i, scoreMark e = false
  | .failWebhookJob job attempt =>
      (∃ j ∈ s.world.webhookQueue.job job, j.data.sessionId = sessionId) → attempt < 5 →
        ∀ e ∈ s.told i, feedbackMark e = false
  | .insertFeedback row => row.sessionId = sessionId → ∀ e ∈ s.told i, ∀ g ∈ webhookGiven e,
      ∀ j ∈ s.world.webhookQueue.job g.job, ¬ j.Repeated g.number
  | _ => True

instance [DecidableEq ι] (sessionId : SessionId) (i : ι) (c : Cmd ν) (s : VoiceIqScene ι ν) :
    Decidable (InOrder sessionId i c s) :=
  match c with
  | .updateStatus id _ =>
      inferInstanceAs (Decidable (id = sessionId → s.world.status sessionId = some .active))
  | .insertScore row => inferInstanceAs (Decidable
      (row.sessionId = sessionId → ∀ e ∈ s.trace, e.cmd.lists sessionId = false))
  | .failScoringJob job attempt => inferInstanceAs (Decidable
      ((∃ j ∈ s.world.scoringQueue.job job, j.data.sessionId = sessionId) → attempt < 3 →
        ∀ e ∈ s.told i, scoreMark e = false))
  | .failWebhookJob job attempt => inferInstanceAs (Decidable
      ((∃ j ∈ s.world.webhookQueue.job job, j.data.sessionId = sessionId) → attempt < 5 →
        ∀ e ∈ s.told i, feedbackMark e = false))
  | .insertFeedback row => inferInstanceAs (Decidable
      (row.sessionId = sessionId → ∀ e ∈ s.told i, ∀ g ∈ webhookGiven e,
        ∀ j ∈ s.world.webhookQueue.job g.job, ¬ j.Repeated g.number))
  | .findForCompany .. | .addWebhookJob .. | .findParticipantByEmail .. | .insertParticipant ..
  | .addScoringJob .. | .takeScoringJob .. | .findRubric .. | .setLiveScore ..
  | .completeScoringJob .. | .takeWebhookJob .. | .listParticipants ..
  | .listScoresForParticipant .. | .markCompleted .. | .deliverWebhook ..
  | .completeWebhookJob .. => isTrue trivial

/-! ### What always holds -/

/-- The participant is one of the session. -/
def World.Knows (w : World ν) (participantId : ParticipantId) (sessionId : SessionId) : Prop :=
  ∃ p ∈ w.participants.rows, p.id = participantId ∧ p.sessionId = sessionId

section Always

variable {w : World ν} {c : Cmd ν} {participantId : ParticipantId} {a b : SessionId}
  {h : List (VoiceIqTold ν)}

omit [Numbers ν] in
theorem World.Knows.exec (hk : w.Knows participantId a) :
    (VoiceIq.exec c w).2.Knows participantId a := by
  obtain ⟨p, hp, hid⟩ := hk
  exact ⟨p, mem_participants_exec_of_mem hp, hid⟩

omit [Numbers ν] in
theorem World.Knows.unique (ha : w.Knows participantId a) (hb : w.Knows participantId b) :
    a = b := by
  obtain ⟨p, hp, hid, rfl⟩ := ha
  obtain ⟨p', hp', hid', rfl⟩ := hb
  rw [Sql.Table.eq_of_key hp hp' (hid.trans hid'.symm)]

theorem works_scoring (hlic : Licence h c) : Works Cmd.scoring scoringGiven h c := by
  cases c with
  | takeScoringJob job =>
      refine ⟨fun _ _ g => hlic g, fun _ _ hends => ?_⟩
      cases hends
  | completeScoringJob job number =>
      obtain ⟨g, -, hg, hjob, hnumber, -⟩ := hlic
      refine ⟨fun _ htake => (by cases htake), fun job' number' hends => ?_⟩
      cases hends
      exact ⟨g, hg, hjob, hnumber⟩
  | failScoringJob job number =>
      obtain ⟨g, hg, hjob, hnumber⟩ := hlic
      refine ⟨fun _ htake => (by cases htake), fun job' number' hends => ?_⟩
      cases hends
      exact ⟨g, hg, hjob, hnumber⟩
  | addScoringJob data => exact works_of_add rfl
  | _ => exact works_of_rest rfl

theorem works_webhook (hlic : Licence h c) : Works Cmd.webhook webhookGiven h c := by
  cases c with
  | takeWebhookJob job =>
      refine ⟨fun _ _ g => hlic g, fun _ _ hends => ?_⟩
      cases hends
  | completeWebhookJob job number | failWebhookJob job number =>
      obtain ⟨g, hg, hjob, hnumber⟩ := hlic
      refine ⟨fun _ htake => (by cases htake), fun job' number' hends => ?_⟩
      cases hends
      exact ⟨g, hg, hjob, hnumber⟩
  | addWebhookJob data => exact works_of_add rfl
  | _ => exact works_of_rest rfl

end Always

variable [DecidableEq ι]

/-- What holds of the jobs, the rows and the calls of every session. -/
structure Consistent (w₀ : World ν) (s : VoiceIqScene ι ν) : Prop where
  scoring : s.Attempted World.scoringQueue Cmd.scoring scoringGiven w₀
  webhook : s.Attempted World.webhookQueue Cmd.webhook webhookGiven w₀
  lawful : ∀ i, ∀ e ∈ s.told i, e.1.steady = true → Licence (s.told i) e.1
  rowBy : ∀ i row, (⟨.insertScore row, ()⟩ : VoiceIqTold ν) ∈ s.told i →
    ∃ g scores, Given scoringGiven (s.told i) g ∧ row = .of g.data scores
  takes : ∀ i job g, (⟨.takeScoringJob job, some g⟩ : VoiceIqTold ν) ∈ s.told i → g.job = job
  seen : ∀ i p, Seen (s.told i) p → p ∈ s.world.participants.rows
  listed : ∀ i sessionId ps, (⟨.listParticipants sessionId, ps⟩ : VoiceIqTold ν) ∈ s.told i →
    ∀ p ∈ ps, p.sessionId = sessionId
  jobs : ∀ n j, s.world.scoringQueue.job n = some j →
    s.world.Knows j.data.participantId j.data.sessionId
  scores : ∀ row ∈ s.world.scores, s.world.Knows row.participantId row.sessionId
  feedback : ∀ row ∈ s.world.feedback, s.world.Knows row.participantId row.sessionId

section Consistent

variable {w₀ : World ν} {s : VoiceIqScene ι ν} {i k : ι} {c : Cmd ν} {sessionId : SessionId}
  {p : ParticipantRow}

theorem consistent_start (h : Fresh sessionId w₀) :
    Consistent (ι := ι) w₀ (⟨w₀, []⟩ : VoiceIqScene ι ν) where
  scoring := .start
  webhook := .start
  lawful _ _ he := absurd he List.not_mem_nil
  rowBy _ _ he := absurd he List.not_mem_nil
  takes _ _ _ he := absurd he List.not_mem_nil
  seen i p hp := by
    rcases hp with ⟨_, _, hmem⟩ | hmem | ⟨_, _, hmem, -⟩ <;> exact absurd hmem List.not_mem_nil
  listed _ _ _ he := absurd he List.not_mem_nil
  jobs n j hj := (h.jobs n j hj).2
  scores row hrow := (h.scores row hrow).2
  feedback row hrow := (h.feedback row hrow).2

omit [Numbers ν] in
/-- A participant that a caller is told of is there, or it was told before. -/
theorem of_seen_told_after (h : Seen ((s.after exec i c).told k) p) :
    p ∈ (exec c s.world).2.participants.rows ∨ Seen (s.told k) p := by
  rcases h with ⟨id, email, hmem⟩ | hmem | ⟨id, ps, hmem, hp⟩
  · rcases (Scene.mem_told_after exec).mp hmem with ⟨-, heq⟩ | hold
    · obtain ⟨rfl, hreply⟩ := Sigma.mk.inj heq
      exact .inl (List.mem_of_find?_eq_some (eq_of_heq hreply).symm)
    · exact .inr (.inl ⟨id, email, hold⟩)
  · rcases (Scene.mem_told_after exec).mp hmem with ⟨-, heq⟩ | hold
    · obtain ⟨rfl, hreply⟩ := Sigma.mk.inj heq
      exact .inl (mem_participants_of_insertParticipant (eq_of_heq hreply).symm)
    · exact .inr (.inr (.inl hold))
  · rcases (Scene.mem_told_after exec).mp hmem with ⟨-, heq⟩ | hold
    · obtain ⟨rfl, hreply⟩ := Sigma.mk.inj heq
      rw [eq_of_heq hreply] at hp
      exact .inl (List.mem_filter.mp hp).1
    · exact .inr (.inr (.inr ⟨id, ps, hold, hp⟩))

theorem Consistent.after (h : Consistent w₀ s) (hlic : Licence (s.told i) c) :
    Consistent w₀ (s.after exec i c) := by
  refine ⟨h.scoring.after worked_scoring (works_scoring hlic),
    h.webhook.after worked_webhook (works_webhook hlic), ?_, ?_, ?_, ?_, ?_, ?_, ?_, ?_⟩
  · intro k e he hsteady
    rcases (Scene.mem_told_after exec).mp he with ⟨rfl, rfl⟩ | hold
    · exact hlic.mono hsteady (Scene.told_subset_after exec)
    · exact (h.lawful k e hold hsteady).mono hsteady (Scene.told_subset_after exec)
  · intro k row hrow
    rcases (Scene.mem_told_after exec).mp hrow with ⟨rfl, heq⟩ | hold
    · obtain ⟨rfl, -⟩ := Sigma.mk.inj heq
      obtain ⟨g, scores, hg, hof, -⟩ := hlic
      exact ⟨g, scores, hg.mono (Scene.told_subset_after exec), hof⟩
    · obtain ⟨g, scores, hg, hof⟩ := h.rowBy k row hold
      exact ⟨g, scores, hg.mono (Scene.told_subset_after exec), hof⟩
  · intro k job g hg
    rcases (Scene.mem_told_after exec).mp hg with ⟨-, heq⟩ | hold
    · obtain ⟨rfl, hreply⟩ := Sigma.mk.inj heq
      have hgiven : s.world.scoringQueue.given (.take job) = some g := (eq_of_heq hreply).symm
      obtain ⟨htake, -⟩ := JobQueue.given_eq_some hgiven
      exact (JobAction.take.inj htake).symm
    · exact h.takes k job g hold
  · intro k p hp
    rcases of_seen_told_after hp with hnow | hold
    · exact hnow
    · exact mem_participants_exec_of_mem (h.seen k p hold)
  · intro k id ps hmem p hp
    rcases (Scene.mem_told_after exec).mp hmem with ⟨-, heq⟩ | hold
    · obtain ⟨rfl, hreply⟩ := Sigma.mk.inj heq
      rw [eq_of_heq hreply] at hp
      exact of_decide_eq_true (List.mem_filter.mp hp).2
    · exact h.listed k id ps hold p hp
  · intro n j hj
    rw [Scene.after_world, worked_scoring.queue_exec] at hj
    rcases JobQueue.of_job_apply hj with ⟨j', hj', rfl⟩ | ⟨data, hadd, -, rfl⟩
    · rw [Job.data_apply]
      exact (h.jobs n j' hj').exec
    · cases c with
      | addScoringJob data' =>
          cases hadd
          obtain ⟨p, hp, hid⟩ := hlic
          exact World.Knows.exec ⟨p, h.seen i p hp, hid⟩
      | _ => cases hadd
  · intro row hrow
    rw [Scene.after_world, scores_exec] at hrow
    rcases List.mem_append.mp hrow with hold | hnew
    · exact (h.scores row hold).exec
    · cases c with
      | insertScore row' =>
          cases List.mem_singleton.mp hnew
          obtain ⟨g, scores, hg, rfl, -⟩ := hlic
          obtain ⟨j, hj, hdata, -⟩ := h.scoring.known i g hg
          have hknows := (h.jobs _ j hj).exec (c := .insertScore (ScoreRow.of g.data scores))
          rw [hdata] at hknows
          exact hknows
      | _ => exact absurd hnew List.not_mem_nil
  · intro row hrow
    rw [Scene.after_world, feedback_exec] at hrow
    rcases List.mem_append.mp hrow with hold | hnew
    · exact (h.feedback row hold).exec
    · cases c with
      | insertFeedback row' =>
          cases List.mem_singleton.mp hnew
          obtain ⟨g, p, ps, -, -, hlist, hp, hid⟩ := hlic
          exact World.Knows.exec ⟨p, h.seen i p (.inr (.inr ⟨_, ps, hlist, hp⟩)), hid,
            h.listed i _ ps hlist p hp⟩
      | _ => exact absurd hnew List.not_mem_nil

/-- Who reads the rows of a participant has listed the participants of its
session. -/
theorem Consistent.listed_of_read (h : Consistent w₀ s) {participantId : ParticipantId}
    {rows : List ScoreRow}
    (hread : (⟨.listScoresForParticipant participantId, rows⟩ : VoiceIqTold ν) ∈ s.told i) :
    ∃ id, s.world.Knows participantId id ∧ ∃ e ∈ s.trace, e.cmd.lists id = true := by
  obtain ⟨p, id, ps, hid, hlist, hp⟩ := h.lawful i _ hread rfl
  refine ⟨id, ⟨p, h.seen i p (.inr (.inr ⟨id, ps, hlist, hp⟩)), hid, h.listed i id ps hlist p hp⟩,
    _, Scene.mem_told.mp hlist, ?_⟩
  exact decide_eq_true rfl

end Consistent

/-! ### What the order keeps -/

/-- What holds of the session as long as every step is in order. -/
structure Kept (sessionId : SessionId) (s : VoiceIqScene ι ν) : Prop where
  status : ∃ status, s.world.status sessionId = some status ∧ status ≠ .failed
  /-- who has ended the session has done so alone -/
  ended : ∀ i, (⟨.updateStatus sessionId .processing, ()⟩ : VoiceIqTold ν) ∈ s.told i →
    s.world.status sessionId ≠ some .active
  endedOnce : ∀ i k, (⟨.updateStatus sessionId .processing, ()⟩ : VoiceIqTold ν) ∈ s.told i →
    (⟨.updateStatus sessionId .processing, ()⟩ : VoiceIqTold ν) ∈ s.told k → i = k
  webhookJob : ∀ n j, s.world.webhookQueue.job n = some j → j.data.sessionId = sessionId →
    ∃ i, (⟨.updateStatus sessionId .processing, ()⟩ : VoiceIqTold ν) ∈ s.told i ∧
      ∃ e ∈ s.told i, e.1.addsWebhookJob = true
  oneWebhookJob : ∀ n n' j j', s.world.webhookQueue.job n = some j →
    s.world.webhookQueue.job n' = some j' → j.data.sessionId = sessionId →
      j'.data.sessionId = sessionId → n = n'
  /-- what was read of a participant of the session is all there is -/
  read : ∀ i participantId rows,
    (⟨.listScoresForParticipant participantId, rows⟩ : VoiceIqTold ν) ∈ s.told i →
      s.world.Knows participantId sessionId → rows = s.world.listScoresForParticipant participantId
  /-- who came too late to be listed has no rows -/
  unlisted : ∀ i ps, (⟨.listParticipants sessionId, ps⟩ : VoiceIqTold ν) ∈ s.told i →
    ∀ p ∈ s.world.participants.rows, p.sessionId = sessionId → p ∉ ps →
      s.world.listScoresForParticipant p.id = []
  scoringClean : s.CleanRepeats World.scoringQueue scoringGiven scoreMark
    fun data => data.sessionId = sessionId
  webhookClean : s.CleanRepeats World.webhookQueue webhookGiven feedbackMark
    fun data => data.sessionId = sessionId

section Kept

variable {w₀ : World ν} {s : VoiceIqScene ι ν} {i k : ι} {c : Cmd ν} {sessionId : SessionId}
  {p : ParticipantRow}

omit [Numbers ν] in
theorem kept_start (h : Fresh sessionId w₀) :
    Kept (ι := ι) sessionId (⟨w₀, []⟩ : VoiceIqScene ι ν) where
  status := ⟨.active, h.active, by decide⟩
  ended _ he := absurd he List.not_mem_nil
  endedOnce _ _ he := absurd he List.not_mem_nil
  webhookJob n j hj hsession := absurd hsession (h.webhooks n j hj)
  oneWebhookJob n _ j _ hj _ hsession := absurd hsession (h.webhooks n j hj)
  read _ _ _ he := absurd he List.not_mem_nil
  unlisted _ _ he := absurd he List.not_mem_nil
  scoringClean := .start
  webhookClean := .start

/-- What is written as a status: the session is processing, or it is completed. -/
theorem writes_eq (hlic : Licence (s.told i) c) {id : SessionId} {status : SessionStatus}
    (hw : c.writes = some (id, status)) :
    c = .updateStatus id .processing ∧ status = .processing ∨
      c = .markCompleted id ∧ status = .completed := by
  cases c with
  | updateStatus id' status' =>
      obtain rfl : status' = .processing := hlic
      cases hw
      exact .inl ⟨rfl, rfl⟩
  | markCompleted id' =>
      cases hw
      exact .inr ⟨rfl, rfl⟩
  | _ => cases hw

/-- The status of the session after a step. -/
theorem status_after (sessionId : SessionId) (hlic : Licence (s.told i) c) :
    (s.after exec i c).world.status sessionId = s.world.status sessionId ∨
      (c = .updateStatus sessionId .processing ∧ (s.after exec i c).world.status sessionId =
        (s.world.status sessionId).map fun _ => .processing) ∨
      (c = .markCompleted sessionId ∧ (s.after exec i c).world.status sessionId =
        (s.world.status sessionId).map fun _ => .completed) := by
  rw [Scene.after_world, status_exec]
  cases hw : c.writes with
  | none => exact .inl rfl
  | some x =>
      obtain ⟨id, status⟩ := x
      by_cases hid : sessionId = id
      · subst hid
        rcases writes_eq hlic hw with ⟨hc, rfl⟩ | ⟨hc, rfl⟩
        · exact .inr (.inl ⟨hc, if_pos rfl⟩)
        · exact .inr (.inr ⟨hc, if_pos rfl⟩)
      · exact .inl (if_neg hid)

/-- A session that is no longer active does not become active again. -/
theorem status_after_ne_active (hlic : Licence (s.told i) c)
    (h : s.world.status sessionId ≠ some .active) :
    (s.after exec i c).world.status sessionId ≠ some .active := by
  rcases status_after sessionId hlic with heq | ⟨-, heq⟩ | ⟨-, heq⟩
  · rwa [heq]
  · rw [heq]
    cases s.world.status sessionId <;> simp
  · rw [heq]
    cases s.world.status sessionId <;> simp

omit [Numbers ν] [DecidableEq ι] in
/-- Only a row that is written changes what there is of a participant. -/
theorem listScores_after (participantId : ParticipantId) :
    (s.after exec i c).world.listScoresForParticipant participantId =
        s.world.listScoresForParticipant participantId ∨
      ∃ row, c = .insertScore row ∧ row.participantId = participantId := by
  rw [World.listScoresForParticipant, Scene.after_world, scores_exec, List.filter_append]
  cases c with
  | insertScore row =>
      by_cases hrow : row.participantId = participantId
      · exact .inr ⟨row, rfl, hrow⟩
      · refine .inl ?_
        have hnone : ([row].filter fun row => decide (row.participantId = participantId)) = [] := by
          rw [List.filter_cons_of_neg (by simpa using hrow)]
          rfl
        show _ ++ [row].filter _ = _
        rw [hnone, List.append_nil]
        rfl
  | _ => exact .inl (List.append_nil _)

/-- A row of a participant of the session is not written once anybody has listed
its participants. -/
theorem not_listed_of_insert (hs : Consistent w₀ s) (hlic : Licence (s.told i) c)
    (horder : InOrder sessionId i c s) {row : ScoreRow} (hc : c = .insertScore row)
    (hknows : s.world.Knows row.participantId sessionId) :
    ∀ e ∈ s.trace, e.cmd.lists sessionId = false := by
  subst hc
  obtain ⟨g, scores, hg, hrow, -⟩ := hlic
  obtain ⟨j, hj, hdata, -⟩ := hs.scoring.known i g hg
  have hjob := hs.jobs _ j hj
  rw [hdata] at hjob
  rw [hrow] at hknows
  refine horder ?_
  rw [hrow]
  exact hjob.unique hknows

theorem Kept.after_read (h : Kept sessionId s) (hs : Consistent w₀ s)
    (hlic : Licence (s.told i) c) (horder : InOrder sessionId i c s) {participantId : ParticipantId}
    {rows : List ScoreRow}
    (hread : (⟨.listScoresForParticipant participantId, rows⟩ : VoiceIqTold ν) ∈
      (s.after exec i c).told k)
    (hknows : (s.after exec i c).world.Knows participantId sessionId) :
    rows = (s.after exec i c).world.listScoresForParticipant participantId := by
  rcases (Scene.mem_told_after exec).mp hread with ⟨-, heq⟩ | hold
  · obtain ⟨rfl, hreply⟩ := Sigma.mk.inj heq
    exact eq_of_heq hreply
  · obtain ⟨id, hknows', e, he, hlists⟩ := hs.listed_of_read hold
    have hid : id = sessionId := hknows'.exec.unique hknows
    subst hid
    rcases listScores_after (i := i) (s := s) (c := c) participantId with heq | ⟨row, hc, rfl⟩
    · rw [heq]
      exact h.read k participantId rows hold hknows'
    · rw [not_listed_of_insert hs hlic horder hc hknows' e he] at hlists
      cases hlists

theorem Kept.after_unlisted (h : Kept sessionId s) (hs : Consistent w₀ s)
    (hlic : Licence (s.told i) c) (horder : InOrder sessionId i c s) {ps : List ParticipantRow}
    (hlist : (⟨.listParticipants sessionId, ps⟩ : VoiceIqTold ν) ∈ (s.after exec i c).told k)
    (hp : p ∈ (s.after exec i c).world.participants.rows) (hsession : p.sessionId = sessionId)
    (hnot : p ∉ ps) : (s.after exec i c).world.listScoresForParticipant p.id = [] := by
  rcases (Scene.mem_told_after exec).mp hlist with ⟨-, heq⟩ | hold
  · obtain ⟨rfl, hreply⟩ := Sigma.mk.inj heq
    rw [eq_of_heq hreply] at hnot
    exact absurd (List.mem_filter.mpr ⟨hp, decide_eq_true hsession⟩) hnot
  · rcases of_mem_participants_exec hp with hbefore | ⟨rfl, hnew⟩
    · rcases listScores_after (i := i) (s := s) (c := c) p.id with heq | ⟨row, hc, hrow⟩
      · rw [heq]
        exact h.unlisted k ps hold p hbefore hsession hnot
      · have hnone := not_listed_of_insert hs hlic horder hc ⟨p, hbefore, hrow.symm, hsession⟩ _
          (Scene.mem_told.mp hold)
        rw [Cmd.lists, decide_eq_false_iff_not] at hnone
        exact absurd rfl hnone
    · -- a row would be one of a participant that was there
      rw [World.listScoresForParticipant, List.filter_eq_nil_iff]
      intro row hrow hid
      rw [Scene.after_world, scores_exec] at hrow
      rcases List.mem_append.mp hrow with hrow | hrow
      · obtain ⟨p', hp', hid', -⟩ := hs.scores row hrow
        exact hnew p' hp' (hid'.trans (of_decide_eq_true hid))
      · cases hrow

theorem Kept.after_webhookJob (h : Kept sessionId s) (hlic : Licence (s.told i) c)
    {n : ℕ} {j : Job WebhookJobData 5}
    (hj : (s.after exec i c).world.webhookQueue.job n = some j)
    (hsession : j.data.sessionId = sessionId) :
    ∃ k, (⟨.updateStatus sessionId .processing, ()⟩ : VoiceIqTold ν) ∈ (s.after exec i c).told k ∧
      ∃ e ∈ (s.after exec i c).told k, e.1.addsWebhookJob = true := by
  rw [Scene.after_world, worked_webhook.queue_exec] at hj
  rcases JobQueue.of_job_apply hj with ⟨j', hj', rfl⟩ | ⟨data, hadd, -, rfl⟩
  · rw [Job.data_apply] at hsession
    obtain ⟨k, hended, e, he, hadds⟩ := h.webhookJob n j' hj' hsession
    exact ⟨k, Scene.told_subset_after exec hended, e, Scene.told_subset_after exec he, hadds⟩
  · cases c with
    | addWebhookJob data' =>
        cases hadd
        cases hsession
        exact ⟨i, Scene.told_subset_after exec hlic.1, _,
          (Scene.mem_told_after exec).mpr (.inl ⟨rfl, rfl⟩), rfl⟩
    | _ => cases hadd

/-- No job is added for a session that has one. -/
theorem Kept.not_adds (h : Kept sessionId s) (hlic : Licence (s.told i) c) {n : ℕ}
    {j : Job WebhookJobData 5} (hj : s.world.webhookQueue.job n = some j)
    (hsession : j.data.sessionId = sessionId) {data : WebhookJobData}
    (hadd : c.webhook = .add data) : data.sessionId ≠ sessionId := by
  rintro rfl
  cases c with
  | addWebhookJob data' =>
      cases hadd
      obtain ⟨k, hended, e, he, hadds⟩ := h.webhookJob n j hj hsession
      obtain rfl := h.endedOnce k i hended hlic.1
      rw [hlic.2 e he] at hadds
      cases hadds
  | _ => cases hadd

theorem Kept.after_oneWebhookJob (h : Kept sessionId s) (hlic : Licence (s.told i) c)
    {n n' : ℕ} {j j' : Job WebhookJobData 5}
    (hj : (s.after exec i c).world.webhookQueue.job n = some j)
    (hj' : (s.after exec i c).world.webhookQueue.job n' = some j')
    (hsession : j.data.sessionId = sessionId) (hsession' : j'.data.sessionId = sessionId) :
    n = n' := by
  rw [Scene.after_world, worked_webhook.queue_exec] at hj hj'
  rcases JobQueue.of_job_apply hj with ⟨j₀, hj₀, rfl⟩ | ⟨data, hadd, hn, rfl⟩
  · rw [Job.data_apply] at hsession
    rcases JobQueue.of_job_apply hj' with ⟨j₁, hj₁, rfl⟩ | ⟨data, hadd, -, rfl⟩
    · rw [Job.data_apply] at hsession'
      exact h.oneWebhookJob n n' j₀ j₁ hj₀ hj₁ hsession hsession'
    · exact absurd hsession' (h.not_adds hlic hj₀ hsession hadd)
  · rcases JobQueue.of_job_apply hj' with ⟨j₁, hj₁, rfl⟩ | ⟨-, -, hn', -⟩
    · rw [Job.data_apply] at hsession'
      exact absurd hsession (h.not_adds hlic hj₁ hsession' hadd)
    · rw [hn, hn']

theorem leavesNoMark_scoring (hs : Consistent w₀ s) (hlic : Licence (s.told i) c)
    (horder : InOrder sessionId i c s) :
    LeavesNoMark World.scoringQueue Cmd.scoring scoringGiven scoreMark
      (fun data => data.sessionId = sessionId) exec i c s := by
  intro g hg hrel
  obtain ⟨j, hj, hdata, -⟩ := hs.scoring.known i g hg
  refine ⟨fun hlt hfail => ?_, fun hmark j' hj' => ?_⟩
  · cases c with
    | failScoringJob job attempt =>
        cases hfail
        exact horder ⟨j, hj, by rw [hdata, hrel]⟩ hlt
    | _ => cases hfail
  · cases c with
    | insertScore row =>
        obtain ⟨g', scores, hg', -, hopen⟩ := hlic
        obtain rfl := hs.scoring.single i g g' hg hg'
        obtain ⟨j'', hj'', hactive, hnumber⟩ := hs.scoring.underWay i g hg fun e he => by
          rw [hopen e he]
          exact fun hends => by cases hends
        rw [hj'] at hj''
        cases hj''
        rintro (hlt | hwaiting)
        · omega
        · rw [hactive] at hwaiting
          cases hwaiting
    | _ => cases hmark

theorem leavesNoMark_webhook (hs : Consistent w₀ s) (hlic : Licence (s.told i) c)
    (horder : InOrder sessionId i c s) :
    LeavesNoMark World.webhookQueue Cmd.webhook webhookGiven feedbackMark
      (fun data => data.sessionId = sessionId) exec i c s := by
  intro g hg hrel
  obtain ⟨j, hj, hdata, -⟩ := hs.webhook.known i g hg
  refine ⟨fun hlt hfail => ?_, fun hmark j' hj' => ?_⟩
  · cases c with
    | failWebhookJob job attempt =>
        cases hfail
        exact horder ⟨j, hj, by rw [hdata, hrel]⟩ hlt
    | _ => cases hfail
  · cases c with
    | insertFeedback row =>
        obtain ⟨g', -, -, hg', hsession, -⟩ := hlic
        obtain rfl := hs.webhook.single i g g' hg hg'
        obtain ⟨e, he, hge⟩ := hg
        exact horder (hsession.symm.trans hrel) e he g hge j' hj'
    | _ => cases hmark

theorem Kept.after (h : Kept sessionId s) (hs : Consistent w₀ s) (hlic : Licence (s.told i) c)
    (horder : InOrder sessionId i c s) : Kept sessionId (s.after exec i c) := by
  refine ⟨?_, ?_, ?_, fun _ _ hj => h.after_webhookJob hlic hj,
    fun _ _ _ _ => h.after_oneWebhookJob hlic, fun _ _ _ => h.after_read hs hlic horder,
    fun _ _ hlist _ => h.after_unlisted hs hlic horder hlist, ?_, ?_⟩
  · obtain ⟨status, hstatus, hne⟩ := h.status
    rcases status_after sessionId hlic with heq | ⟨-, heq⟩ | ⟨-, heq⟩
    · exact ⟨status, heq.trans hstatus, hne⟩
    · rw [hstatus] at heq
      exact ⟨.processing, heq, by decide⟩
    · rw [hstatus] at heq
      exact ⟨.completed, heq, by decide⟩
  · intro k hended
    rcases (Scene.mem_told_after exec).mp hended with ⟨-, heq⟩ | hold
    · obtain ⟨rfl, -⟩ := Sigma.mk.inj heq
      rw [Scene.after_world, status_exec]
      show (if sessionId = sessionId then (s.world.status sessionId).map fun _ => _ else _) ≠ _
      rw [if_pos rfl]
      cases s.world.status sessionId <;> simp
    · exact status_after_ne_active hlic (h.ended k hold)
  · intro k l hk hl
    rcases (Scene.mem_told_after exec).mp hk with ⟨rfl, heq⟩ | hk'
    · obtain ⟨rfl, -⟩ := Sigma.mk.inj heq
      rcases (Scene.mem_told_after exec).mp hl with ⟨rfl, -⟩ | hl'
      · rfl
      · exact absurd (horder rfl) (h.ended l hl')
    · rcases (Scene.mem_told_after exec).mp hl with ⟨rfl, heq⟩ | hl'
      · obtain ⟨rfl, -⟩ := Sigma.mk.inj heq
        exact absurd (horder rfl) (h.ended k hk')
      · exact h.endedOnce k l hk' hl'
  · refine h.scoringClean.after worked_scoring hs.scoring (works_scoring hlic) ?_
      (leavesNoMark_scoring hs hlic horder)
    intro hmark
    cases c with
    | insertScore => rfl
    | _ => cases hmark
  · refine h.webhookClean.after worked_webhook hs.webhook (works_webhook hlic) ?_
      (leavesNoMark_webhook hs hlic horder)
    intro hmark
    cases c with
    | insertFeedback => rfl
    | _ => cases hmark

end Kept

/-! ### Whole runs -/

section Runs

variable {tasks : ι → Task ν} {w₀ : World ν} {sessionId : SessionId} {sched : List ι}

/-- What a run comes to, in whatever order its steps are. -/
structure Held (tasks : ι → Task ν) (w₀ : World ν) (s : VoiceIqScene ι ν) : Prop where
  consistent : Consistent w₀ s
  issued : ∀ e ∈ s.trace, (tasks e.tid).issues e.cmd
  oneScore : ∀ i, (s.told i).countP (fun e => e.1.insertsScore) ≤ 1
  oneReport : ∀ participantId i, (s.told i).countP (fun e => e.1.reportsOn participantId) ≤ 1

theorem held (h : Fresh sessionId w₀) (sched : List ι) :
    Held tasks w₀ ((begun tasks w₀).runs exec sched).scene := by
  refine ⟨?_, fun e he => ?_,
    Conf.countP_told_le (begun tasks w₀) (P := Cmd.insertsScore) (n := fun _ => 1)
      (fun i => atMost_insertsScore (tasks i)) rfl sched,
    fun participantId => Conf.countP_told_le (begun tasks w₀)
      (P := Cmd.reportsOn participantId) (n := fun _ => 1)
      (fun i => atMost_reportsOn participantId (tasks i)) rfl sched⟩
  · exact (licensed_begun tasks w₀).runs_inv (fun s i c hs hlic _ => hs.after hlic)
      (consistent_start h) (Conf.meets_of_forall exec (fun _ _ _ => trivial) (begun tasks w₀) sched)
  · have hfoot : (begun tasks w₀).Footprint (tasks e.tid).issues e.tid :=
      ⟨uses_program (tasks e.tid), fun e' he' => absurd he' List.not_mem_nil⟩
    exact (hfoot.runs exec sched).2 e he rfl

/-- What a run comes to whose steps are in order. -/
structure Reached (tasks : ι → Task ν) (w₀ : World ν) (sessionId : SessionId)
    (s : VoiceIqScene ι ν) : Prop extends Held tasks w₀ s where
  kept : Kept sessionId s

theorem reached (h : Fresh sessionId w₀)
    (hm : (begun tasks w₀).Meets exec (InOrder sessionId) sched) :
    Reached tasks w₀ sessionId ((begun tasks w₀).runs exec sched).scene := by
  have hinv := (licensed_begun tasks w₀).runs_inv
    (I := fun s => Consistent w₀ s ∧ Kept sessionId s)
    (fun s i c hs hlic horder => ⟨hs.1.after hlic, hs.2.after hs.1 hlic horder⟩)
    ⟨consistent_start h, kept_start h⟩ hm
  exact ⟨held h sched, hinv.2⟩

variable {s : VoiceIqScene ι ν}

/-- The attempt that has written a row. -/
theorem Held.worker (h : Held tasks w₀ s) {e : Event ι (Cmd ν) Cmd.Reply}
    (he : e ∈ s.trace) {row : ScoreRow} (hrow : e.cmd.scoreRow? = some row) :
    ∃ g scores, Given scoringGiven (s.told e.tid) g ∧ row = .of g.data scores ∧
      ∀ job, (tasks e.tid).scores job = true ↔ g.job = job := by
  have htold := Scene.mem_told (s := s) (i := e.tid) (e := ⟨e.cmd, e.reply⟩) |>.mpr he
  obtain ⟨i, c, r⟩ := e
  cases c with
  | insertScore row' =>
      cases hrow
      obtain ⟨g, scores, hg, hof⟩ := h.consistent.rowBy i row htold
      refine ⟨g, scores, hg, hof, fun job => ?_⟩
      obtain ⟨⟨c, r⟩, he', hge⟩ := hg
      cases c with
      | takeScoringJob job' =>
          obtain rfl : r = some g := hge
          obtain ⟨claude, stop, htask⟩ := h.issued _ (Scene.mem_told.mp he')
          have hjob := h.consistent.takes i job' g he'
          replace htask : tasks i = .scoringAttempt job' claude stop := htask
          show (tasks i).scores job = true ↔ _
          rw [htask, hjob]
          exact decide_eq_true_iff
      | _ => cases hge
  | _ => cases hrow

/-- The attempts at a job of the session have written one row at most. -/
theorem Reached.length_scoreRowsOf (h : Reached tasks w₀ sessionId s) {job : ℕ}
    {j : Job (ScoringJobData ν) 3} (hj : s.world.scoringQueue.job job = some j)
    (hsession : j.data.sessionId = sessionId) : (scoreRowsOf tasks job s).length ≤ 1 := by
  rw [scoreRowsOf, List.length_filterMap_eq_countP]
  refine countP_le_one_of_owner Event.tid s.trace (fun i => ?_) ?_
  · refine le_trans ?_ (h.oneScore i)
    rw [Scene.told_eq_map, List.countP_map]
    refine List.countP_mono_left fun e _ hsome => ?_
    split at hsome
    · exact hsome
    · cases hsome
  · intro e he e' he' hsome hsome'
    split at hsome
    · rename_i hscores
      split at hsome'
      · rename_i hscores'
        obtain ⟨row, hrow⟩ := Option.isSome_iff_exists.mp hsome
        obtain ⟨row', hrow'⟩ := Option.isSome_iff_exists.mp hsome'
        obtain ⟨g, -, hg, -, hjob⟩ := h.worker he hrow
        obtain ⟨g', -, hg', -, hjob'⟩ := h.worker he' hrow'
        obtain rfl := (hjob job).mp hscores
        have hjob' := (hjob' g.job).mp hscores'
        obtain ⟨j', hj', hdata, -⟩ := h.consistent.scoring.known _ g hg
        rw [hj] at hj'
        cases hj'
        have htold : (⟨e.cmd, e.reply⟩ : VoiceIqTold ν) ∈ s.told e.tid := Scene.mem_told.mpr he
        have htold' : (⟨e'.cmd, e'.reply⟩ : VoiceIqTold ν) ∈ s.told e'.tid :=
          Scene.mem_told.mpr he'
        exact h.kept.scoringClean.eq_of_mark h.consistent.scoring hg hg' hjob'.symm
          (hdata ▸ hsession) htold hsome htold' hsome'
      · cases hsome'
    · cases hsome

/-- A job of the session that has completed has written its row. -/
theorem Held.scoreRowsOf_of_completed (h : Held tasks w₀ s)
    (hfresh : Fresh sessionId w₀) {job : ℕ} {j : Job (ScoringJobData ν) 3}
    (hj : s.world.scoringQueue.job job = some j) (hsession : j.data.sessionId = sessionId)
    (hcompleted : j.state = .completed) :
    ∃ scores, ScoreRow.of j.data scores ∈ scoreRowsOf tasks job s := by
  rcases h.consistent.scoring.completed job j hj hcompleted with
    ⟨j', hj', hdata⟩ | ⟨i, g, hg, rfl, ⟨c, r⟩, he, hact⟩
  · exact absurd (hdata ▸ hsession) (hfresh.jobs job j' hj').1
  · cases c with
    | completeScoringJob job number =>
        cases hact
        obtain ⟨g', scores, hg', -, -, hrow⟩ := h.consistent.lawful i _ he rfl
        obtain rfl := h.consistent.scoring.single i g g' hg hg'
        obtain ⟨j', hj', hdata, -⟩ := h.consistent.scoring.known i g hg
        rw [hj] at hj'
        cases hj'
        have hmem := Scene.mem_told.mp hrow
        obtain ⟨g'', scores', hg'', hof, hjob⟩ := h.worker hmem rfl
        obtain rfl := h.consistent.scoring.single i g g'' hg hg''
        refine ⟨scores, List.mem_filterMap.mpr ⟨_, hmem, ?_⟩⟩
        rw [if_pos ((hjob _).mpr rfl), hdata]
        rfl
    | _ => cases hact

theorem Reached.scored (h : Reached tasks w₀ sessionId s) (hfresh : Fresh sessionId w₀) {job : ℕ}
    {j : Job (ScoringJobData ν) 3} (hj : s.world.scoringQueue.job job = some j)
    (hsession : j.data.sessionId = sessionId) : (scoreRowsOf tasks job s).length ≤ 1 ∧
      (j.state = .completed → ∃ scores, scoreRowsOf tasks job s = [.of j.data scores]) := by
  have hlength := h.length_scoreRowsOf hj hsession
  refine ⟨hlength, fun hcompleted => ?_⟩
  obtain ⟨scores, hmem⟩ := h.scoreRowsOf_of_completed hfresh hj hsession hcompleted
  refine ⟨scores, ?_⟩
  generalize scoreRowsOf tasks job s = rows at hlength hmem
  rcases rows with _ | ⟨row, _ | ⟨row', rows⟩⟩
  · cases hmem
  · rw [List.mem_singleton.mp hmem]
  · exact absurd hlength (by simp)

/-- Two attempts do not both report on participants of the session. -/
theorem Reached.reporter_unique (h : Reached tasks w₀ sessionId s) {i k : ι}
    {row row' : FeedbackRow ν}
    (he : (⟨.insertFeedback row, ()⟩ : VoiceIqTold ν) ∈ s.told i)
    (he' : (⟨.insertFeedback row', ()⟩ : VoiceIqTold ν) ∈ s.told k)
    (hsession : row.sessionId = sessionId) (hsession' : row'.sessionId = sessionId) : i = k := by
  obtain ⟨g, -, -, hg, hdata, -⟩ := h.consistent.lawful i _ he rfl
  obtain ⟨g', -, -, hg', hdata', -⟩ := h.consistent.lawful k _ he' rfl
  obtain ⟨j, hj, hjdata, -⟩ := h.consistent.webhook.known i g hg
  obtain ⟨j', hj', hjdata', -⟩ := h.consistent.webhook.known k g' hg'
  have hjob : g.job = g'.job := by
    refine h.kept.oneWebhookJob _ _ j j' hj hj' ?_ ?_
    · rw [hjdata, hdata, hsession]
    · rw [hjdata', hdata', hsession']
  exact h.kept.webhookClean.eq_of_mark h.consistent.webhook hg hg' hjob
    (hdata.trans hsession) he rfl he' rfl

theorem reported_of_reached
    (h : Reached tasks w₀ sessionId ((begun tasks w₀).runs exec sched).scene)
    (hfresh : Fresh sessionId w₀) {p : ParticipantRow}
    (hp : p ∈ ((begun tasks w₀).runs exec sched).scene.world.participants.rows)
    (hsession : p.sessionId = sessionId) :
    (((begun tasks w₀).runs exec sched).scene.world.feedback.countP fun row =>
      row.participantId = p.id) ≤ 1 := by
  have hlog := Conf.log_runs (begun tasks w₀) (f := World.feedback)
    (g := Cmd.feedbackRow?) (fun c w => feedback_exec) rfl sched
  generalize ((begun tasks w₀).runs exec sched).scene = s at h hp hlog
  have hsessionOf : ∀ row ∈ s.world.feedback, row.participantId = p.id →
      row.sessionId = sessionId := by
    intro row hrow hid
    exact (h.consistent.feedback row hrow).unique ⟨p, hp, hid.symm, hsession⟩
  have hold : (w₀.feedback.countP fun row => row.participantId = p.id) = 0 := by
    rw [List.countP_eq_zero]
    intro row hrow hid
    refine (hfresh.feedback row hrow).1 (hsessionOf row ?_ (of_decide_eq_true hid))
    rw [hlog]
    exact List.mem_append_left _ hrow
  have hof : ∀ e ∈ s.trace, e.cmd.reportsOn p.id = true → ∃ row,
      (⟨.insertFeedback row, ()⟩ : VoiceIqTold ν) ∈ s.told e.tid ∧ row.sessionId = sessionId := by
    rintro ⟨i, c, r⟩ he hreports
    cases c with
    | insertFeedback row =>
        refine ⟨row, Scene.mem_told.mpr he, hsessionOf row ?_ (of_decide_eq_true hreports)⟩
        rw [hlog, List.mem_append, List.mem_filterMap]
        exact .inr ⟨_, List.mem_reverse.mpr he, rfl⟩
    | _ => cases hreports
  have hsame : ((s.trace.reverse.filterMap fun e => e.cmd.feedbackRow?).countP fun row =>
      row.participantId = p.id) = s.trace.countP fun e => e.cmd.reportsOn p.id := by
    rw [List.countP_filterMap, List.countP_reverse]
    refine List.countP_congr fun e _ => ?_
    cases hrow : e.cmd.feedbackRow? with
    | none => simp [Cmd.reportsOn, hrow]
    | some row => simp [Cmd.reportsOn, hrow]
  replace hlog : s.world.feedback = w₀.feedback ++
    s.trace.reverse.filterMap fun e => e.cmd.feedbackRow? := hlog
  rw [hlog, List.countP_append, hold, Nat.zero_add, hsame]
  refine countP_le_one_of_owner Event.tid s.trace (fun i => ?_) ?_
  · refine le_trans (le_of_eq ?_) (h.oneReport p.id i)
    rw [Scene.told_eq_map, List.countP_map]
    rfl
  · intro e he e' he' hreports hreports'
    obtain ⟨row, hrow, hs⟩ := hof e he hreports
    obtain ⟨row', hrow', hs'⟩ := hof e' he' hreports'
    exact h.reporter_unique hrow hrow' hs hs'

theorem delivered_of_reached
    (h : Reached tasks w₀ sessionId ((begun tasks w₀).runs exec sched).scene)
    (hfresh : Fresh sessionId w₀) {d : String × WebhookPayload ν}
    (hd : d ∈ ((begun tasks w₀).runs exec sched).scene.world.deliveries)
    (hpayload : d.2.sessionId = sessionId) {p : ParticipantRow}
    (hp : p ∈ ((begun tasks w₀).runs exec sched).scene.world.participants.rows)
    (hsession : p.sessionId = sessionId)
    (hrows : ((begun tasks w₀).runs exec sched).scene.world.listScoresForParticipant p.id ≠ []) :
    ∃ report, participantResult p (((begun tasks w₀).runs exec
      sched).scene.world.listScoresForParticipant p.id) report ∈ d.2.participants := by
  have hlog := Conf.log_runs (begun tasks w₀) (f := World.deliveries)
    (g := Cmd.delivery?) (fun c w => deliveries_exec) rfl sched
  rw [hlog] at hd
  rcases List.mem_append.mp hd with hold | hnew
  · exact absurd hpayload (hfresh.deliveries d hold)
  generalize ((begun tasks w₀).runs exec sched).scene = s at h hp hrows hnew
  obtain ⟨⟨i, c, r⟩, he, hdelivery⟩ := List.mem_filterMap.mp hnew
  rw [List.mem_reverse] at he
  cases c with
  | deliverWebhook url payload =>
      cases hdelivery
      have htold : (⟨.deliverWebhook url payload, r⟩ : VoiceIqTold ν) ∈ s.told i :=
        Scene.mem_told.mpr he
      obtain ⟨ps, hlist, hall⟩ := h.consistent.lawful i _ htold rfl
      replace hpayload : payload.sessionId = sessionId := hpayload
      rw [hpayload] at hlist
      have hmem : p ∈ ps := by
        by_contra hnot
        exact hrows (h.kept.unlisted i ps hlist p hp hsession hnot)
      obtain ⟨result, hresult, rows, report, hread, rfl⟩ := hall p hmem
      obtain rfl := h.kept.read i p.id rows hread ⟨p, hp, rfl, hsession⟩
      exact ⟨report, hresult⟩
  | _ => cases hdelivery

omit [Numbers ν] in
theorem SessionStatus.stage_le_two {status : SessionStatus} (h : status ≠ .failed) :
    status.stage ≤ 2 := by
  cases status with
  | failed => exact absurd rfl h
  | active | processing | completed => decide

/-- The session does not go back. -/
theorem Kept.stage_after (h : Kept sessionId s) {i : ι} {c : Cmd ν}
    (hlic : Licence (s.told i) c) (horder : InOrder sessionId i c s) {before n : ℕ}
    (hbefore : s.world.stage sessionId = some n) (hle : before ≤ n) :
    ∃ after, (s.after exec i c).world.stage sessionId = some after ∧ before ≤ after := by
  obtain ⟨status, hstatus, hne⟩ := h.status
  have hn : status.stage = n := by
    rw [World.stage, hstatus] at hbefore
    exact Option.some.inj hbefore
  rw [World.stage]
  rcases status_after sessionId hlic with heq | ⟨rfl, heq⟩ | ⟨-, heq⟩
  · rw [heq, hstatus]
    exact ⟨_, rfl, hle.trans hn.ge⟩
  · rw [heq, hstatus]
    have hactive := horder rfl
    rw [hstatus] at hactive
    cases hactive
    rw [SessionStatus.stage] at hn
    exact ⟨_, rfl, (hle.trans hn.ge).trans (Nat.zero_le _)⟩
  · rw [heq, hstatus]
    exact ⟨_, rfl, (hle.trans hn.ge).trans (SessionStatus.stage_le_two hne)⟩

theorem forward_of_inOrder (h : Fresh sessionId w₀) {earlier later : List ι}
    (hm : (begun tasks w₀).Meets exec (InOrder sessionId) (earlier ++ later)) :
    ∃ before after,
      ((begun tasks w₀).runs exec earlier).scene.world.stage sessionId = some before ∧
        ((begun tasks w₀).runs exec (earlier ++ later)).scene.world.stage sessionId = some after ∧
          before ≤ after ∧ after ≤ 2 := by
  rw [Conf.meets_append] at hm
  obtain ⟨hfirst, hsecond⟩ := hm
  have hreached := reached h hfirst
  obtain ⟨status, hstatus, hne⟩ := hreached.kept.status
  have hbefore : ((begun tasks w₀).runs exec earlier).scene.world.stage sessionId =
      some status.stage := by
    rw [World.stage, hstatus]
    rfl
  have hlater := ((licensed_begun tasks w₀).runs earlier).runs_inv
    (I := fun s => (Consistent w₀ s ∧ Kept sessionId s) ∧
      ∃ after, s.world.stage sessionId = some after ∧ status.stage ≤ after)
    (fun s i c hs hlic horder => by
      obtain ⟨⟨hconsistent, hkept⟩, n, hn, hle⟩ := hs
      exact ⟨⟨hconsistent.after hlic, hkept.after hconsistent hlic horder⟩,
        hkept.stage_after hlic horder hn hle⟩)
    ⟨⟨hreached.consistent, hreached.kept⟩, _, hbefore, Nat.le_refl _⟩ hsecond
  obtain ⟨⟨-, hkept⟩, after, hafter, hle⟩ := hlater
  rw [← Conf.runs_append] at hkept hafter
  refine ⟨_, after, hbefore, hafter, hle, ?_⟩
  obtain ⟨status', hstatus', hne'⟩ := hkept.status
  rw [World.stage, hstatus'] at hafter
  cases hafter
  exact SessionStatus.stage_le_two hne'

end Runs

/-- A session every step of which is in order is wrapped up once and completely,
whoever submits, ends and works at the same time. -/
theorem wrappedUp_of_inOrder (tasks : ι → Task ν) (w₀ : World ν) (sessionId : SessionId)
    (hfresh : Fresh sessionId w₀) (sched : List ι)
    (horder : (begun tasks w₀).Meets exec (InOrder sessionId) sched) :
    WrappedUp tasks sessionId w₀ sched := by
  have hreached := reached hfresh horder
  refine ⟨Conf.log_runs (begun tasks w₀) (f := World.scores) (g := Cmd.scoreRow?)
      (fun c w => scores_exec) rfl sched, fun job j => hreached.scored hfresh,
    fun p => reported_of_reached hreached hfresh,
    fun d hd hpayload p => delivered_of_reached hreached hfresh hd hpayload, ?_⟩
  rintro earlier ⟨later, rfl⟩
  exact forward_of_inOrder hfresh horder

namespace Sample

/-- One session, and nothing else. -/
def panelWorld : World ℚ where
  sessions id := if id = "panel" then some ⟨"acme", none, .active, some "https://acme"⟩ else none
  participants := .empty
  rubrics _ := none
  scores := []
  feedback := []
  scoringQueue := ⟨[]⟩
  webhookQueue := ⟨[]⟩
  liveScores _ _ := none
  deliveries := []

theorem fresh_panelWorld : Fresh "panel" panelWorld where
  active := rfl
  jobs _ _ hj := by cases hj
  scores _ hrow := absurd hrow List.not_mem_nil
  feedback _ hrow := absurd hrow List.not_mem_nil
  webhooks _ _ hj := by cases hj
  deliveries _ hd := absurd hd List.not_mem_nil

def answering : Claude ℚ where
  scoreWindow _ _ _ := ⟨fun _ => 70, "clear"⟩
  generateFeedback _ _ _ := ⟨"structure", [], "well done"⟩

/-- One window is submitted, scored, and counted at the end. The first attempt
to score it stops after `stop` steps. -/
def interview (stop : ℕ) : ℕ → Task ℚ
  | 0 => .submitAudioWindow "acme" "panel" ⟨"hello", none, some "Ada", none⟩ "ada"
  | 1 => .scoringAttempt 0 answering stop
  | 2 => .scoringAttempt 0 answering 9
  | 3 => .endSession "acme" "panel"
  | _ => .webhookAttempt 0 (fun _ => answering) ⟨9, fun _ => 9, 9⟩ []

def inOneGo : List ℕ :=
  List.replicate 3 0 ++ List.replicate 4 1 ++ List.replicate 3 3 ++ List.replicate 8 4

theorem wrappedUp_interview : WrappedUp (interview 9) "panel" panelWorld inOneGo ∧
    ((begun (interview 9) panelWorld).runs exec inOneGo).scene.world.deliveries.length = 1 :=
  ⟨wrappedUp_of_inOrder _ _ _ fresh_panelWorld _ (by decide +kernel), by decide +kernel⟩

/-- The window is scored once more after its row was written. -/
theorem not_wrappedUp_interview : ¬ WrappedUp (interview 1) "panel" panelWorld
    (List.replicate 3 0 ++ List.replicate 3 1 ++ List.replicate 4 2) := by
  intro h
  have hlength := (h.scored 0 _ rfl rfl).1
  exact absurd hlength (by decide +kernel)

end Sample

end Greetup.VoiceIq
