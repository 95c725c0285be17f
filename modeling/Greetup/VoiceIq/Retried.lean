import Greetup.VoiceIq.WrapUp

/-!
What can be relied on wherever the attempts at a job stop, by throwing, and
however often they are run again.

A window that is scored, and a session that is reported, leave at least one row
and one delivery; no job is attempted more often than its queue allows, and what
an attempt leaves behind is about the job it was made at.
-/

namespace Greetup.VoiceIq

open Interleaving
open Interleaving.Prog

variable {ν : Type} [Numbers ν] {ι : Type}

/-! ### The statement -/

def Task.reports (job : ℕ) : Task ν → Bool
  | .webhookAttempt job' _ _ _ => job' = job
  | _ => false

/-- What the attempts at a webhook job have sent. -/
def deliveriesOf (tasks : ι → Task ν) (job : ℕ) (s : VoiceIqScene ι ν) :
    List (String × WebhookPayload ν) :=
  s.trace.filterMap fun e => if (tasks e.tid).reports job then e.cmd.delivery? else none

/-- The reports that the attempts at a webhook job have written. -/
def reportsOf (tasks : ι → Task ν) (job : ℕ) (s : VoiceIqScene ι ν) : List (FeedbackRow ν) :=
  s.trace.filterMap fun e => if (tasks e.tid).reports job then e.cmd.feedbackRow? else none

/-- The row is one that scoring the window gives. -/
def ScoreRow.Scores (row : ScoreRow) (data : ScoringJobData ν) : Prop :=
  ∃ scores, row = .of data scores

/-- The session of the job is reported as completed, where it asked for it. -/
def Announces (d : String × WebhookPayload ν) (data : WebhookJobData) : Prop :=
  d.1 = data.companyWebhookUrl ∧ d.2.sessionId = data.sessionId ∧ d.2.status = .completed

/-! ### What is sent -/

/-- What a worker has been told when it sends the results, and when it says that
it is through. -/
def Sends (h : List (VoiceIqTold ν)) : Cmd ν → Prop
  | .deliverWebhook url payload => ∃ g, Given webhookGiven h g ∧ Announces (url, payload) g.data
  | .completeWebhookJob job _ => ∃ g payload, Given webhookGiven h g ∧ g.job = job ∧
      (⟨.deliverWebhook g.data.companyWebhookUrl payload, ()⟩ : VoiceIqTold ν) ∈ h
  | _ => True

omit [Numbers ν] in
theorem Sends.mono {h h' : List (VoiceIqTold ν)} {c : Cmd ν} (hsub : h ⊆ h') (hc : Sends h c) :
    Sends h' c := by
  cases c with
  | deliverWebhook url payload =>
      obtain ⟨g, hg, hannounces⟩ := hc
      exact ⟨g, hg.mono hsub, hannounces⟩
  | completeWebhookJob job number =>
      obtain ⟨g, payload, hg, hjob, hmem⟩ := hc
      exact ⟨g, payload, hg.mono hsub, hjob, hsub hmem⟩
  | _ => trivial

theorem sends_webhookAttempt (job : ℕ) (claude : ParticipantId → Claude ν) (stops : WebhookStops)
    (turns : List ℕ) :
    (webhookAttempt job claude stops turns).Licensed exec Sends (fun _ _ => True) [] := by
  refine ⟨trivial, fun w => ?_⟩
  cases htaken : (exec (.takeWebhookJob job) w).1 with
  | none => trivial
  | some attempt =>
      have hg : Given webhookGiven
          [(⟨.takeWebhookJob job, some attempt⟩ : VoiceIqTold ν)] attempt :=
        ⟨_, List.mem_singleton_self _, rfl⟩
      have hlisting : (issue (ν := ν) (.listParticipants attempt.data.sessionId)).Licensed exec
          Sends (fun _ _ => True) [⟨.takeWebhookJob job, some attempt⟩] :=
        ⟨trivial, fun _ => trivial⟩
      refine (hlisting.stopAfter stops.first).grows.bind ?_
      rintro h r ⟨hsub, -⟩
      cases r with
      | none => exact ⟨trivial, fun _ => trivial⟩
      | some ps =>
          have htogether : (together turns (ps.map (awaited attempt claude stops))).Licensed exec
              Sends (fun _ _ => True) h := by
            refine (uses_together (P := Cmd.forParticipant) (fun p hp => ?_) turns).licensed
              fun h c hc => ?_
            · obtain ⟨row, -, rfl⟩ := List.mem_map.mp hp
              exact uses_awaited attempt claude stops row
            · cases c with
              | listScoresForParticipant | insertFeedback | failWebhookJob => trivial
              | _ => exact hc.elim
          refine htogether.grows.bind ?_
          rintro h' bs ⟨hsub', -⟩
          cases allOf bs with
          | none => trivial
          | some results =>
              have hg' := (hg.mono hsub).mono hsub'
              have hfinish : (finish attempt.data results).Licensed exec Sends
                  (fun h _ => ∃ payload, (⟨.deliverWebhook attempt.data.companyWebhookUrl
                    payload, ()⟩ : VoiceIqTold ν) ∈ h) h' :=
                ⟨trivial, fun _ => ⟨⟨attempt, hg'.mono (List.subset_cons_self _ _), rfl, rfl, rfl⟩,
                  fun _ => ⟨_, List.mem_cons_self⟩⟩⟩
              refine (hfinish.stopAfter stops.last).grows.bind ?_
              rintro h'' r ⟨hsub'', hsent⟩
              cases r with
              | none => exact ⟨trivial, fun _ => trivial⟩
              | some u =>
                  obtain ⟨payload, hmem⟩ := hsent u rfl
                  exact ⟨⟨attempt, payload, hg'.mono hsub'', rfl, hmem⟩, fun _ => trivial⟩

theorem sends_program (task : Task ν) :
    task.program.Licensed exec Sends (fun _ _ => True) [] := by
  cases task with
  | webhookAttempt job claude stops turns =>
      exact (sends_webhookAttempt job claude stops turns).map
  | _ =>
      refine (uses_program _).licensed fun h c hc => ?_
      cases c with
      | deliverWebhook | completeWebhookJob =>
          obtain ⟨_, _, _, _, htask⟩ := hc
          cases htask
      | _ => trivial

def Cmd.delivers (c : Cmd ν) : Bool := c.delivery?.isSome

theorem atMost_webhookAttempt_delivers (job : ℕ) (claude : ParticipantId → Claude ν)
    (stops : WebhookStops) (turns : List ℕ) :
    (webhookAttempt job claude stops turns).AtMost exec Cmd.delivers 1 := by
  refine .call_of_false rfl fun w => ?_
  cases (exec (.takeWebhookJob job) w).1 with
  | none => trivial
  | some attempt =>
      have hlisting : (issue (ν := ν) (.listParticipants attempt.data.sessionId)).Uses
          fun c => c.delivers = false := ⟨rfl, fun _ => trivial⟩
      show Prog.AtMost exec _ (stopAfter stops.first _ >>= _) 1
      refine AtMost.bind (m := 0) (n := 1) (hlisting.stopAfter _).atMost_zero fun r => ?_
      cases r with
      | none => exact .call_of_false rfl fun _ => trivial
      | some ps =>
          have htogether : (together turns (ps.map (awaited attempt claude stops))).Uses
              fun c => c.delivers = false := by
            refine (uses_together (P := Cmd.forParticipant) (fun p hp => ?_) turns).mono
              fun c hc => ?_
            · obtain ⟨row, -, rfl⟩ := List.mem_map.mp hp
              exact uses_awaited attempt claude stops row
            · cases c with
              | listScoresForParticipant | insertFeedback | failWebhookJob => rfl
              | _ => exact hc.elim
          refine AtMost.bind (m := 0) (n := 1) htogether.atMost_zero fun bs => ?_
          cases allOf bs with
          | none => trivial
          | some results =>
              have hfinish : (finish attempt.data results).AtMost exec Cmd.delivers 1 :=
                .call_of_false rfl fun _ => .call_succ fun _ => trivial
              refine (hfinish.stopAfter _).bind (n := 0) fun r => Uses.atMost_zero ?_
              cases r <;> exact ⟨rfl, fun _ => trivial⟩

/-- An attempt sends the results once at most. -/
theorem atMost_delivers (task : Task ν) : task.program.AtMost exec Cmd.delivers 1 := by
  cases task with
  | webhookAttempt job claude stops turns =>
      exact (atMost_webhookAttempt_delivers job claude stops turns).map _
  | _ =>
      refine (Uses.atMost_zero ((uses_program _).mono fun c hc => ?_)).mono (Nat.zero_le 1)
      cases c with
      | deliverWebhook url payload =>
          obtain ⟨_, _, _, _, htask⟩ := hc
          cases htask
      | _ => rfl

/-! ### Whole runs -/

section Runs

variable [DecidableEq ι] {tasks : ι → Task ν} {w₀ : World ν} {sessionId : SessionId}
  {s : VoiceIqScene ι ν} {job : ℕ}

/-- What a run comes to, wherever the jobs stop. -/
structure Retried (tasks : ι → Task ν) (w₀ : World ν) (s : VoiceIqScene ι ν) : Prop
    extends Held tasks w₀ s where
  sends : s.Lawful fun _ => Sends
  oneDelivery : ∀ i, (s.told i).countP (fun e => e.1.delivers) ≤ 1
  scoringSound : s.SoundJobs World.scoringQueue w₀
  webhookSound : s.SoundJobs World.webhookQueue w₀
  scoringCounted : s.Counted World.scoringQueue scoringGiven
  webhookCounted : s.Counted World.webhookQueue webhookGiven
  webhookTaken : s.Taken Cmd.webhook webhookGiven

theorem retried (tasks : ι → Task ν) (h : Fresh sessionId w₀) (sched : List ι) :
    Retried tasks w₀ ((begun tasks w₀).runs exec sched).scene := by
  have hsends : (begun tasks w₀).Licensed exec (fun _ => Sends) fun _ _ _ => True :=
    fun i => sends_program (tasks i)
  have hinv := hsends.runs_inv (P := fun _ _ _ => True)
    (I := fun s => s.Lawful (fun _ => Sends) ∧
      (s.SoundJobs World.scoringQueue w₀ ∧ s.SoundJobs World.webhookQueue w₀) ∧
        (s.Counted World.scoringQueue scoringGiven ∧ s.Counted World.webhookQueue webhookGiven) ∧
          s.Taken Cmd.webhook webhookGiven)
    (fun s i c ⟨hlawful, ⟨hscoring, hwebhook⟩, ⟨hscored, hreported⟩, htaken⟩ hlic _ =>
      ⟨hlawful.after (fun _ _ _ _ => Sends.mono) hlic,
        ⟨hscoring.after worked_scoring, hwebhook.after worked_webhook⟩,
        ⟨hscored.after worked_scoring, hreported.after worked_webhook⟩,
        htaken.after worked_webhook⟩)
    ⟨fun _ _ he => absurd he List.not_mem_nil, ⟨.start, .start⟩, ⟨.start, .start⟩,
      fun _ _ he => absurd he List.not_mem_nil⟩
    (Conf.meets_of_forall exec (fun _ _ _ => trivial) (begun tasks w₀) sched)
  obtain ⟨hlawful, ⟨hscoring, hwebhook⟩, ⟨hscored, hreported⟩, htaken⟩ := hinv
  exact ⟨held h sched, hlawful,
    Conf.countP_told_le (begun tasks w₀) (P := Cmd.delivers) (n := fun _ => 1)
      (fun i => atMost_delivers (tasks i)) rfl sched,
    hscoring, hwebhook, hscored, hreported, htaken⟩

/-- The row of a scoring job is one that its worker was given the job for. -/
theorem Retried.length_scoreRowsOf_le (h : Retried tasks w₀ s) :
    (scoreRowsOf tasks job s).length ≤ s.attemptsAt scoringGiven job := by
  refine Scene.length_filterMap_le_attemptsAt (q := fun i => (tasks i).scores job) h.oneScore
    fun e he hrow hscores => ?_
  obtain ⟨row, hrow⟩ := Option.isSome_iff_exists.mp hrow
  obtain ⟨g, -, hg, -, hjob⟩ := h.worker he hrow
  exact ⟨g, hg, (hjob job).mp hscores⟩

/-- The rows of a job are those of its window. -/
theorem Retried.scores_of_mem (h : Retried tasks w₀ s) {j : Job (ScoringJobData ν) 3}
    (hj : s.world.scoringQueue.job job = some j) {row : ScoreRow}
    (hrow : row ∈ scoreRowsOf tasks job s) : row.Scores j.data := by
  obtain ⟨e, he, hsome⟩ := List.mem_filterMap.mp hrow
  split at hsome
  · rename_i hscores
    obtain ⟨g, scores, hg, rfl, hjob⟩ := h.worker he hsome
    obtain rfl := (hjob job).mp hscores
    obtain ⟨j', hj', hdata, -⟩ := h.consistent.scoring.known _ g hg
    rw [hj] at hj'
    cases hj'
    rw [hdata]
    exact ⟨scores, rfl⟩
  · cases hsome

/-- A worker that was given a webhook job is one of that job. -/
theorem Retried.reports_iff (h : Retried tasks w₀ s) {i : ι} {g : Attempt WebhookJobData}
    (hg : Given webhookGiven (s.told i) g) : (tasks i).reports job = true ↔ g.job = job := by
  obtain ⟨⟨c, r⟩, he, hge⟩ := hg
  have htake := h.webhookTaken i _ he g hge
  cases c with
  | takeWebhookJob job' =>
      cases htake
      obtain ⟨claude, stops, turns, htask⟩ := h.issued _ (Scene.mem_told.mp he)
      replace htask : tasks i = .webhookAttempt g.job claude stops turns := htask
      rw [htask]
      exact decide_eq_true_iff
  | _ => cases htake

theorem Retried.length_deliveriesOf_le (h : Retried tasks w₀ s) :
    (deliveriesOf tasks job s).length ≤ s.attemptsAt webhookGiven job := by
  refine Scene.length_filterMap_le_attemptsAt (q := fun i => (tasks i).reports job) h.oneDelivery
    fun e he hsome hreports => ?_
  obtain ⟨i, c, r⟩ := e
  cases c with
  | deliverWebhook url payload =>
      obtain ⟨g, hg, -⟩ := h.sends i ⟨_, r⟩ (Scene.mem_told.mpr he)
      exact ⟨g, hg, (h.reports_iff hg).mp hreports⟩
  | _ => cases hsome

/-- A job's workers write no more reports about a participant than it has
attempts. -/
theorem Retried.countP_reportsOf_le (h : Retried tasks w₀ s) (participantId : ParticipantId) :
    ((reportsOf tasks job s).countP fun row => row.participantId = participantId) ≤
      s.attemptsAt webhookGiven job := by
  rw [reportsOf, List.countP_filterMap]
  refine Scene.countP_le_attemptsAt (fun i => ?_) fun e he hsome => ?_
  · refine le_trans ?_ (h.oneReport participantId i)
    rw [Scene.told_eq_map, List.countP_map]
    refine List.countP_mono_left fun e _ hsome => ?_
    split at hsome
    · obtain ⟨i, c, r⟩ := e
      cases c with
      | insertFeedback row => exact hsome
      | _ => cases hsome
    · cases hsome
  · obtain ⟨i, c, r⟩ := e
    split at hsome
    · rename_i hreports
      cases c with
      | insertFeedback row =>
          obtain ⟨g, -, -, hg, -⟩ := h.consistent.lawful i ⟨_, r⟩ (Scene.mem_told.mpr he) rfl
          exact ⟨g, hg, (h.reports_iff hg).mp hreports⟩
      | _ => cases hsome
    · cases hsome

/-- What the workers of a job send announces its session. -/
theorem Retried.announces_of_mem (h : Retried tasks w₀ s) {j : Job WebhookJobData 5}
    (hj : s.world.webhookQueue.job job = some j) {d : String × WebhookPayload ν}
    (hd : d ∈ deliveriesOf tasks job s) : Announces d j.data := by
  obtain ⟨⟨i, c, r⟩, he, hsome⟩ := List.mem_filterMap.mp hd
  split at hsome
  · rename_i hreports
    cases c with
    | deliverWebhook url payload =>
        cases hsome
        obtain ⟨g, hg, hannounces⟩ := h.sends i ⟨_, r⟩ (Scene.mem_told.mpr he)
        obtain rfl := (h.reports_iff hg).mp hreports
        obtain ⟨j', hj', hdata, -⟩ := h.consistent.webhook.known _ g hg
        rw [hj] at hj'
        cases hj'
        rwa [hdata]
    | _ => cases hsome
  · cases hsome

/-- A webhook job that has completed has sent the results. -/
theorem Retried.deliveriesOf_ne_nil (h : Retried tasks w₀ s) (hfresh : Fresh sessionId w₀)
    {j : Job WebhookJobData 5} (hj : s.world.webhookQueue.job job = some j)
    (hsession : j.data.sessionId = sessionId) (hcompleted : j.state = .completed) :
    deliveriesOf tasks job s ≠ [] := by
  rcases h.consistent.webhook.completed job j hj hcompleted with
    ⟨j', hj', hdata⟩ | ⟨i, g, hg, hgjob, ⟨c, r⟩, he, hact⟩
  · exact absurd (hdata ▸ hsession) (hfresh.webhooks job j' hj')
  · cases c with
    | completeWebhookJob job' number =>
        cases hact
        obtain ⟨g', payload, hg', hjob, hmem⟩ := h.sends i _ he
        have hsent : (g'.data.companyWebhookUrl, payload) ∈ deliveriesOf tasks job s := by
          refine List.mem_filterMap.mpr ⟨_, Scene.mem_told.mp hmem, ?_⟩
          rw [if_pos ((h.reports_iff hg').mpr hjob)]
          rfl
        exact List.ne_nil_of_mem hsent
    | _ => cases hact

omit [Numbers ν] [DecidableEq ι] in
/-- A job that was added in the run is sound. -/
theorem sound_of_new {δ : Type} {limit : ℕ} {queue : World ν → JobQueue δ limit}
    (h : s.SoundJobs queue w₀) {j : Job δ limit} (hj : (queue s.world).job job = some j)
    (hnew : ∀ j', (queue w₀).job job = some j' → j'.data ≠ j.data) : j.Sound := by
  rcases h job j hj with ⟨j', hj', hdata⟩ | hsound
  · exact absurd hdata (hnew j' hj')
  · exact hsound

/-- However often a window is attempted and wherever an attempt throws, it has a
row once it is scored, and no more rows than attempts; it is given up after the
third. -/
theorem window_scored_atLeastOnce (tasks : ι → Task ν) (w₀ : World ν) (sessionId : SessionId)
    (hfresh : Fresh sessionId w₀) (sched : List ι) (job : ℕ) (j : Job (ScoringJobData ν) 3)
    (hj : ((begun tasks w₀).runs exec sched).scene.world.scoringQueue.job job = some j)
    (hsession : j.data.sessionId = sessionId) :
    (∀ row ∈ scoreRowsOf tasks job ((begun tasks w₀).runs exec sched).scene, row.Scores j.data) ∧
      (scoreRowsOf tasks job ((begun tasks w₀).runs exec sched).scene).length ≤ j.attempts ∧
        j.attempts ≤ 3 ∧ (j.state = .failed → j.attempts = 3) ∧
          (j.state = .completed →
            scoreRowsOf tasks job ((begun tasks w₀).runs exec sched).scene ≠ []) := by
  have h := retried tasks hfresh sched
  have hsound := sound_of_new h.scoringSound hj fun j' hj' hdata =>
    (hfresh.jobs job j' hj').1 (hdata ▸ hsession)
  refine ⟨fun row => h.scores_of_mem hj,
    h.length_scoreRowsOf_le.trans ((h.scoringCounted job).1 j hj), hsound.attempts_le,
    hsound.failed, fun hcompleted => ?_⟩
  obtain ⟨scores, hmem⟩ := h.scoreRowsOf_of_completed hfresh hj hsession hcompleted
  exact List.ne_nil_of_mem hmem

/-- However often the results of a session are attempted and wherever an attempt
throws, the company has them once the job is through, and no more often than it
was attempted. -/
theorem results_delivered_atLeastOnce (tasks : ι → Task ν) (w₀ : World ν) (sessionId : SessionId)
    (hfresh : Fresh sessionId w₀) (sched : List ι) (job : ℕ) (j : Job WebhookJobData 5)
    (hj : ((begun tasks w₀).runs exec sched).scene.world.webhookQueue.job job = some j)
    (hsession : j.data.sessionId = sessionId) :
    (∀ d ∈ deliveriesOf tasks job ((begun tasks w₀).runs exec sched).scene, Announces d j.data) ∧
      (deliveriesOf tasks job ((begun tasks w₀).runs exec sched).scene).length ≤ j.attempts ∧
        (∀ participantId, ((reportsOf tasks job ((begun tasks w₀).runs exec
          sched).scene).countP fun row => row.participantId = participantId) ≤ j.attempts) ∧
          j.attempts ≤ 5 ∧ (j.state = .failed → j.attempts = 5) ∧
            (j.state = .completed →
              deliveriesOf tasks job ((begun tasks w₀).runs exec sched).scene ≠ []) := by
  have h := retried tasks hfresh sched
  have hsound := sound_of_new h.webhookSound hj fun j' hj' hdata =>
    hfresh.webhooks job j' hj' (hdata ▸ hsession)
  have hattempts := (h.webhookCounted job).1 j hj
  exact ⟨fun d => h.announces_of_mem hj, h.length_deliveriesOf_le.trans hattempts,
    fun participantId => (h.countP_reportsOf_le participantId).trans hattempts,
    hsound.attempts_le, hsound.failed, h.deliveriesOf_ne_nil hfresh hj hsession⟩

end Runs

namespace Sample

/-- A window is submitted and scored and the session is ended; the first attempt
to report it stops when the results are sent. -/
def debriefing : ℕ → Task ℚ
  | 0 => .submitAudioWindow "acme" "panel" ⟨"hello", none, some "Ada", none⟩ "ada"
  | 1 => .scoringAttempt 0 answering 9
  | 2 => .endSession "acme" "panel"
  | 3 => .webhookAttempt 0 (fun _ => answering) ⟨9, fun _ => 9, 2⟩ []
  | _ => .webhookAttempt 0 (fun _ => answering) ⟨9, fun _ => 9, 9⟩ []

def inTwoGoes : List ℕ := List.replicate 3 0 ++ List.replicate 3 1 ++ List.replicate 4 2

def sentTwice : List ℕ :=
  List.replicate 3 0 ++ List.replicate 4 1 ++ List.replicate 3 2 ++ List.replicate 8 3 ++
    List.replicate 8 4

theorem window_scored_interview :
    scoreRowsOf (interview 1) 0
        ((begun (interview 1) panelWorld).runs exec inTwoGoes).scene ≠ [] ∧
      (scoreRowsOf (interview 1) 0
        ((begun (interview 1) panelWorld).runs exec inTwoGoes).scene).length ≤ 2 := by
  obtain ⟨-, hlength, -, -, hcompleted⟩ :=
    window_scored_atLeastOnce (interview 1) panelWorld "panel" fresh_panelWorld inTwoGoes 0
      ⟨⟨"ada", "panel", "hello", [], none⟩, 2, .completed, fun h => by cases h⟩ rfl rfl
  exact ⟨hcompleted rfl, hlength⟩

/-- Both attempts send the results and report on Ada. -/
theorem results_delivered_debriefing :
    deliveriesOf debriefing 0 ((begun debriefing panelWorld).runs exec sentTwice).scene ≠ [] ∧
      (deliveriesOf debriefing 0
        ((begun debriefing panelWorld).runs exec sentTwice).scene).length ≤ 2 ∧
      ((reportsOf debriefing 0 ((begun debriefing panelWorld).runs exec
        sentTwice).scene).countP fun row => row.participantId = "ada") ≤ 2 ∧
      ((reportsOf debriefing 0 ((begun debriefing panelWorld).runs exec
        sentTwice).scene).countP fun row => row.participantId = "ada") = 2 := by
  obtain ⟨-, hlength, hreports, -, -, hcompleted⟩ :=
    results_delivered_atLeastOnce debriefing panelWorld "panel" fresh_panelWorld sentTwice 0
      ⟨⟨"panel", "https://acme"⟩, 2, .completed, fun h => by cases h⟩ rfl rfl
  exact ⟨hcompleted rfl, hlength, hreports "ada", by decide +kernel⟩

end Sample

end Greetup.VoiceIq
