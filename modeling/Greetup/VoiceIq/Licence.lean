import Greetup.VoiceIq.Session

/-!
What the commands of a session change, and what a call has been told when it
issues one.
-/

namespace Greetup.VoiceIq

open Interleaving
open Interleaving.Prog

variable {ν : Type}

/-! ### What a command changes -/

namespace Cmd

def scoring : Cmd ν → JobAction (ScoringJobData ν)
  | .addScoringJob data => .add data
  | .takeScoringJob job => .take job
  | .completeScoringJob job attempt => .complete job attempt
  | .failScoringJob job attempt => .fail job attempt
  | _ => .rest

def webhook : Cmd ν → JobAction WebhookJobData
  | .addWebhookJob data => .add data
  | .takeWebhookJob job => .take job
  | .completeWebhookJob job attempt => .complete job attempt
  | .failWebhookJob job attempt => .fail job attempt
  | _ => .rest

def scoreRow? : Cmd ν → Option ScoreRow
  | .insertScore row => some row
  | _ => none

def feedbackRow? : Cmd ν → Option (FeedbackRow ν)
  | .insertFeedback row => some row
  | _ => none

def delivery? : Cmd ν → Option (String × WebhookPayload ν)
  | .deliverWebhook url payload => some (url, payload)
  | _ => none

/-- The status that is written for a session. -/
def writes : Cmd ν → Option (SessionId × SessionStatus)
  | .updateStatus sessionId status => some (sessionId, status)
  | .markCompleted sessionId => some (sessionId, .completed)
  | _ => none

end Cmd

def scoringGiven : VoiceIqTold ν → Option (Attempt (ScoringJobData ν))
  | ⟨.takeScoringJob _, given⟩ => given
  | _ => none

def webhookGiven : VoiceIqTold ν → Option (Attempt WebhookJobData)
  | ⟨.takeWebhookJob _, given⟩ => given
  | _ => none

section Effects

variable {c : Cmd ν} {w : World ν} {sessionId : SessionId} {p : ParticipantRow}

theorem insertParticipant_snd (row : ParticipantRow) :
    (w.insertParticipant row).2 =
      { w with participants := (w.insertParticipant row).2.participants } := by
  rw [World.insertParticipant]
  split <;> rfl

theorem worked_scoring :
    Worked exec (World.scoringQueue (ν := ν)) Cmd.scoring scoringGiven where
  queue_exec c w := by
    cases c with
    | insertParticipant row =>
        show (w.insertParticipant row).2.scoringQueue = _
        rw [insertParticipant_snd]
        exact JobQueue.apply_rest.symm
    | addScoringJob | takeScoringJob | completeScoringJob | failScoringJob => rfl
    | _ => exact JobQueue.apply_rest.symm
  given_exec c w := by cases c <;> rfl

theorem worked_webhook :
    Worked exec (World.webhookQueue (ν := ν)) Cmd.webhook webhookGiven where
  queue_exec c w := by
    cases c with
    | insertParticipant row =>
        show (w.insertParticipant row).2.webhookQueue = _
        rw [insertParticipant_snd]
        exact JobQueue.apply_rest.symm
    | addWebhookJob | takeWebhookJob | completeWebhookJob | failWebhookJob => rfl
    | _ => exact JobQueue.apply_rest.symm
  given_exec c w := by cases c <;> rfl

theorem scores_exec : (exec c w).2.scores = w.scores ++ c.scoreRow?.toList := by
  cases c with
  | insertParticipant row =>
      show (w.insertParticipant row).2.scores = _
      rw [insertParticipant_snd]
      exact (List.append_nil _).symm
  | insertScore => rfl
  | _ => exact (List.append_nil _).symm

theorem feedback_exec : (exec c w).2.feedback = w.feedback ++ c.feedbackRow?.toList := by
  cases c with
  | insertParticipant row =>
      show (w.insertParticipant row).2.feedback = _
      rw [insertParticipant_snd]
      exact (List.append_nil _).symm
  | insertFeedback => rfl
  | _ => exact (List.append_nil _).symm

theorem deliveries_exec : (exec c w).2.deliveries = w.deliveries ++ c.delivery?.toList := by
  cases c with
  | insertParticipant row =>
      show (w.insertParticipant row).2.deliveries = _
      rw [insertParticipant_snd]
      exact (List.append_nil _).symm
  | deliverWebhook => rfl
  | _ => exact (List.append_nil _).symm

theorem status_setStatus (id : SessionId) (status : SessionStatus) :
    (w.setStatus id status).status sessionId =
      if sessionId = id then (w.status sessionId).map fun _ => status
      else w.status sessionId := by
  show Option.map _ (Function.update w.sessions id _ sessionId) = _
  rw [Function.update_apply]
  split
  · rename_i heq
    rw [heq, World.status, Option.map_map, Option.map_map]
    rfl
  · rfl

/-- The status of a session changes only when it is written. -/
theorem status_exec : (exec c w).2.status sessionId =
    match c.writes with
    | some (id, status) =>
        if sessionId = id then (w.status sessionId).map fun _ => status else w.status sessionId
    | none => w.status sessionId := by
  cases c with
  | insertParticipant row =>
      show (w.insertParticipant row).2.status sessionId = _
      rw [insertParticipant_snd]
      rfl
  | updateStatus id status => exact status_setStatus id status
  | markCompleted id => exact status_setStatus id .completed
  | _ => rfl

/-- A participant is added, unless the id is taken. -/
theorem participants_exec : (exec c w).2.participants = w.participants ∨
    ∃ row, c = .insertParticipant row ∧ w.participants.find row.id = none ∧
      (exec c w).2.participants.rows = row :: w.participants.rows := by
  cases c with
  | insertParticipant row =>
      show (w.insertParticipant row).2.participants = _ ∨ _
      cases hfind : w.participants.find row.id with
      | some row' =>
          refine .inl ?_
          rw [World.insertParticipant, hfind, Option.isSome_some, if_pos rfl]
      | none =>
          refine .inr ⟨row, rfl, hfind, ?_⟩
          show (w.insertParticipant row).2.participants.rows = _
          rw [World.insertParticipant, hfind, if_neg (by simp)]
          exact Sql.Table.rows_insert_of_find hfind
  | _ => exact .inl rfl

/-- Nobody leaves. -/
theorem mem_participants_exec_of_mem (h : p ∈ w.participants.rows) :
    p ∈ (exec c w).2.participants.rows := by
  rcases participants_exec (c := c) (w := w) with heq | ⟨row, -, -, hrows⟩
  · rwa [heq]
  · rw [hrows]
    exact List.mem_cons_of_mem _ h

/-- A participant was there before, or is new, and then the id is new too. -/
theorem of_mem_participants_exec (h : p ∈ (exec c w).2.participants.rows) :
    p ∈ w.participants.rows ∨
      c = .insertParticipant p ∧ ∀ p' ∈ w.participants.rows, p'.id ≠ p.id := by
  rcases participants_exec (c := c) (w := w) with heq | ⟨row, hc, hfind, hrows⟩
  · rw [heq] at h
    exact .inl h
  · rw [hrows] at h
    rcases List.mem_cons.mp h with rfl | h
    · refine .inr ⟨hc, fun p' hp' hid => ?_⟩
      rw [Sql.Table.find_eq_some.mpr ⟨hp', hid⟩] at hfind
      cases hfind
    · exact .inl h

/-- An insertion that succeeds leaves its row behind. -/
theorem mem_participants_of_insertParticipant (h : (exec (.insertParticipant p) w).1 = true) :
    p ∈ (exec (.insertParticipant p) w).2.participants.rows := by
  rcases participants_exec (c := .insertParticipant p) (w := w) with heq | ⟨row, hc, -, hrows⟩
  · replace h : (w.insertParticipant p).1 = true := h
    rw [World.insertParticipant] at h
    split at h
    · cases h
    · rename_i hnone
      rw [Option.not_isSome_iff_eq_none] at hnone
      show p ∈ (w.insertParticipant p).2.participants.rows
      rw [World.insertParticipant, hnone, if_neg (by simp)]
      show p ∈ (w.participants.insert p id _).rows
      rw [Sql.Table.rows_insert_of_find hnone]
      exact List.mem_cons_self
  · cases hc
    rw [hrows]
    exact List.mem_cons_self

end Effects

/-! ### What a call has been told -/

/-- A participant that the caller has been told of. -/
def Seen (h : List (VoiceIqTold ν)) (p : ParticipantRow) : Prop :=
  (∃ sessionId email, (⟨.findParticipantByEmail sessionId email, some p⟩ : VoiceIqTold ν) ∈ h) ∨
    (⟨.insertParticipant p, true⟩ : VoiceIqTold ν) ∈ h ∨
      ∃ sessionId ps, (⟨.listParticipants sessionId, ps⟩ : VoiceIqTold ν) ∈ h ∧ p ∈ ps

/-- The caller has the rows that the result of the participant is made of. -/
def Counts [Numbers ν] (h : List (VoiceIqTold ν)) (p : ParticipantRow)
    (result : ParticipantResult ν) : Prop :=
  ∃ rows report, (⟨.listScoresForParticipant p.id, rows⟩ : VoiceIqTold ν) ∈ h ∧
    result = participantResult p rows report

def Cmd.addsWebhookJob : Cmd ν → Bool
  | .addWebhookJob _ => true
  | _ => false

/-- What a call has been told when it issues a command. -/
def Licence [Numbers ν] (h : List (VoiceIqTold ν)) : Cmd ν → Prop
  | .updateStatus _ status => status = .processing
  | .addWebhookJob data =>
      (⟨.updateStatus data.sessionId .processing, ()⟩ : VoiceIqTold ν) ∈ h ∧
        ∀ e ∈ h, e.1.addsWebhookJob = false
  | .addScoringJob data => ∃ p, Seen h p ∧ p.id = data.participantId ∧ p.sessionId = data.sessionId
  | .takeScoringJob _ => ∀ g, ¬ Given scoringGiven h g
  | .insertScore row => ∃ g scores, Given scoringGiven h g ∧ row = .of g.data scores ∧
      ∀ e ∈ h, e.1.scoring.ends = none
  | .completeScoringJob job number => ∃ g scores, Given scoringGiven h g ∧ g.job = job ∧
      g.number = number ∧ (⟨.insertScore (.of g.data scores), ()⟩ : VoiceIqTold ν) ∈ h
  | .failScoringJob job number => ∃ g, Given scoringGiven h g ∧ g.job = job ∧ g.number = number
  | .takeWebhookJob _ => ∀ g, ¬ Given webhookGiven h g
  | .listScoresForParticipant participantId => ∃ p sessionId ps, p.id = participantId ∧
      (⟨.listParticipants sessionId, ps⟩ : VoiceIqTold ν) ∈ h ∧ p ∈ ps
  | .insertFeedback row => ∃ g p ps, Given webhookGiven h g ∧ g.data.sessionId = row.sessionId ∧
      (⟨.listParticipants row.sessionId, ps⟩ : VoiceIqTold ν) ∈ h ∧ p ∈ ps ∧
        p.id = row.participantId
  | .markCompleted sessionId => ∃ g, Given webhookGiven h g ∧ g.data.sessionId = sessionId
  | .deliverWebhook _ payload => ∃ ps,
      (⟨.listParticipants payload.sessionId, ps⟩ : VoiceIqTold ν) ∈ h ∧
        ∀ p ∈ ps, ∃ result ∈ payload.participants, Counts h p result
  | .completeWebhookJob job number | .failWebhookJob job number =>
      ∃ g, Given webhookGiven h g ∧ g.job = job ∧ g.number = number
  | _ => True

/-- A licence that what is told later does not take away. -/
def Cmd.steady : Cmd ν → Bool
  | .addWebhookJob _ | .takeScoringJob _ | .insertScore _ | .takeWebhookJob _ => false
  | _ => true

section Mono

variable {h h' : List (VoiceIqTold ν)} {p : ParticipantRow} {c : Cmd ν}

theorem Seen.mono (hp : Seen h p) (hsub : h ⊆ h') : Seen h' p := by
  rcases hp with ⟨sessionId, email, hmem⟩ | hmem | ⟨sessionId, ps, hmem, hp⟩
  · exact .inl ⟨sessionId, email, hsub hmem⟩
  · exact .inr (.inl (hsub hmem))
  · exact .inr (.inr ⟨sessionId, ps, hsub hmem, hp⟩)

variable [Numbers ν]

theorem Counts.mono {result : ParticipantResult ν} (hp : Counts h p result) (hsub : h ⊆ h') :
    Counts h' p result := by
  obtain ⟨rows, report, hmem, hresult⟩ := hp
  exact ⟨rows, report, hsub hmem, hresult⟩

theorem Licence.mono (hc : c.steady = true) (hsub : h ⊆ h') (hk : Licence h c) :
    Licence h' c := by
  cases c with
  | addWebhookJob | takeScoringJob | insertScore | takeWebhookJob => cases hc
  | addScoringJob data =>
      obtain ⟨p, hp, hid⟩ := hk
      exact ⟨p, hp.mono hsub, hid⟩
  | completeScoringJob job number =>
      obtain ⟨g, scores, hg, hjob, hnumber, hmem⟩ := hk
      exact ⟨g, scores, hg.mono hsub, hjob, hnumber, hsub hmem⟩
  | failScoringJob job number | completeWebhookJob job number | failWebhookJob job number
  | markCompleted sessionId =>
      obtain ⟨g, hg, hjob⟩ := hk
      exact ⟨g, hg.mono hsub, hjob⟩
  | listScoresForParticipant participantId =>
      obtain ⟨p, sessionId, ps, hid, hmem, hp⟩ := hk
      exact ⟨p, sessionId, ps, hid, hsub hmem, hp⟩
  | insertFeedback row =>
      obtain ⟨g, p, ps, hg, hdata, hmem, hp⟩ := hk
      exact ⟨g, p, ps, hg.mono hsub, hdata, hsub hmem, hp⟩
  | deliverWebhook url payload =>
      obtain ⟨ps, hmem, hall⟩ := hk
      refine ⟨ps, hsub hmem, fun p hp => ?_⟩
      obtain ⟨result, hresult, hcounts⟩ := hall p hp
      exact ⟨result, hresult, hcounts.mono hsub⟩
  | updateStatus => exact hk
  | _ => trivial

end Mono

/-! ### The licences of the calls -/

section Programs

variable [Numbers ν] {h : List (VoiceIqTold ν)}

theorem licensed_insertNewParticipant (sessionId : SessionId) (body : AudioWindow ν)
    (newId : ParticipantId) :
    (insertNewParticipant sessionId body newId).Licensed exec Licence
      (fun h r => ∀ id, r = some id → ∃ p, Seen h p ∧ p.id = id ∧ p.sessionId = sessionId) h := by
  refine ⟨trivial, fun w => ?_⟩
  show Prog.Licensed exec Licence _ (if (exec (.insertParticipant _) w).1 = true then _ else _) _
  split
  · rename_i hinserted
    intro id hid
    cases hid
    refine ⟨⟨newId, sessionId, body.participantName, body.participantEmail⟩, .inr (.inl ?_), rfl,
      rfl⟩
    rw [hinserted]
    exact List.mem_cons_self
  · intro id hid
    cases hid

theorem licensed_upsertParticipant (sessionId : SessionId) (body : AudioWindow ν)
    (newId : ParticipantId) :
    (upsertParticipant sessionId body newId).Licensed exec Licence
      (fun h r => ∀ id, r = some id → ∃ p, Seen h p ∧ p.id = id ∧ p.sessionId = sessionId) h := by
  rw [upsertParticipant]
  cases truthy body.participantEmail with
  | none => exact licensed_insertNewParticipant sessionId body newId
  | some email =>
      refine ⟨trivial, fun w => ?_⟩
      cases hfind : (exec (.findParticipantByEmail sessionId email) w).1 with
      | none => exact licensed_insertNewParticipant sessionId body newId
      | some existing =>
          intro id hid
          cases hid
          refine ⟨existing, .inl ⟨sessionId, email, List.mem_cons_self⟩, rfl, ?_⟩
          have hsome := List.find?_some (p := fun p : ParticipantRow =>
            p.sessionId = sessionId && p.email = some email) hfind
          exact of_decide_eq_true (Bool.and_eq_true_iff.mp hsome).1

theorem licensed_submitAudioWindow (companyId : CompanyId) (sessionId : SessionId)
    (body : AudioWindow ν) (newId : ParticipantId) :
    (submitAudioWindow companyId sessionId body newId).Licensed exec Licence
      (fun _ _ => True) h := by
  refine ⟨trivial, fun w => ?_⟩
  cases (exec (.findForCompany sessionId companyId) w).1 with
  | none => trivial
  | some session =>
      show Prog.Licensed exec Licence _ (if session.status = .active then _ else _) _
      split
      · refine (licensed_upsertParticipant sessionId body newId).bind fun h' r hr => ?_
        cases r with
        | none => trivial
        | some participantId =>
            obtain ⟨p, hp, hid, hsession⟩ := hr participantId rfl
            exact ⟨⟨p, hp, hid, hsession⟩, fun _ => trivial⟩
      · trivial

theorem licensed_endSession (companyId : CompanyId) (sessionId : SessionId) :
    (endSession companyId sessionId).Licensed exec Licence (fun _ _ => True)
      ([] : List (VoiceIqTold ν)) := by
  refine ⟨trivial, fun w => ?_⟩
  cases (exec (.findForCompany sessionId companyId) w).1 with
  | none => trivial
  | some session =>
      refine ⟨rfl, fun w' => ?_⟩
      cases truthy session.notifyUrl with
      | none => trivial
      | some url =>
          refine ⟨⟨List.mem_cons_self, fun e he => ?_⟩, fun _ => trivial⟩
          rcases List.mem_cons.mp he with rfl | he
          · rfl
          · cases List.mem_singleton.mp he
            rfl

/-- The steps of a scoring job, for a worker that was given it and has done
nothing but read. -/
theorem licensed_scoringJob (claude : Claude ν) {g : Attempt (ScoringJobData ν)}
    (hg : Given scoringGiven h g) (hopen : ∀ e ∈ h, e.1.scoring.ends = none) :
    (scoringJob claude g.data).Licensed exec Licence
      (fun h' _ => ∃ scores, (⟨.insertScore (.of g.data scores), ()⟩ : VoiceIqTold ν) ∈ h') h := by
  have hrubric : (findRubricOf (ν := ν) g.data.rubricId).Licensed exec Licence
      (fun h' _ => h ⊆ h' ∧ ∀ e ∈ h', e.1.scoring.ends = none) h := by
    rw [findRubricOf]
    cases truthy g.data.rubricId with
    | none => exact ⟨List.Subset.refl h, hopen⟩
    | some rubricId =>
        refine ⟨trivial, fun w => ⟨List.subset_cons_self _ _, fun e he => ?_⟩⟩
        rcases List.mem_cons.mp he with rfl | he
        · rfl
        · exact hopen e he
  refine hrubric.bind fun h' rubric hread => ?_
  refine ⟨⟨g, _, hg.mono hread.1, rfl, hread.2⟩, fun w => ⟨trivial, fun w' => ?_⟩⟩
  exact ⟨_, List.mem_cons_of_mem _ List.mem_cons_self⟩

theorem licensed_scoringAttempt (job : ℕ) (claude : Claude ν) (stop : ℕ) :
    (scoringAttempt job claude stop).Licensed exec Licence (fun _ _ => True) [] := by
  refine ⟨fun g hg => ?_, fun w => ?_⟩
  · obtain ⟨e, he, -⟩ := hg
    cases he
  · cases htaken : (exec (.takeScoringJob job) w).1 with
    | none => trivial
    | some attempt =>
        have hg : Given scoringGiven
            [(⟨.takeScoringJob job, some attempt⟩ : VoiceIqTold ν)] attempt :=
          ⟨_, List.mem_singleton_self _, rfl⟩
        have hopen : ∀ e ∈ [(⟨.takeScoringJob job, some attempt⟩ : VoiceIqTold ν)],
            e.1.scoring.ends = none := by
          intro e he
          cases List.mem_singleton.mp he
          rfl
        refine ((licensed_scoringJob claude hg hopen).stopAfter stop).grows.bind ?_
        rintro h' r ⟨hsub, hdone⟩
        cases r with
        | none => exact ⟨⟨attempt, hg.mono hsub, rfl, rfl⟩, fun _ => trivial⟩
        | some u =>
            obtain ⟨scores, hmem⟩ := hdone u rfl
            exact ⟨⟨attempt, scores, hg.mono hsub, rfl, rfl, hmem⟩, fun _ => trivial⟩

/-- What the programs of the participants consist of. -/
def Cmd.forParticipant : Cmd ν → Prop
  | .listScoresForParticipant _ | .insertFeedback _ | .failWebhookJob _ _ => True
  | _ => False

omit [Numbers ν] in
theorem Cmd.forParticipant.steady {c : Cmd ν} (hc : c.forParticipant) : c.steady = true := by
  cases c with
  | listScoresForParticipant | insertFeedback | failWebhookJob => rfl
  | _ => exact hc.elim

theorem uses_awaited (attempt : Attempt WebhookJobData) (claude : ParticipantId → Claude ν)
    (stops : WebhookStops) (p : ParticipantRow) :
    (awaited attempt claude stops p).Uses Cmd.forParticipant := by
  have hresult : (resultFor (claude p.id) attempt.data.sessionId p).Uses Cmd.forParticipant :=
    ⟨trivial, fun rows => ⟨trivial, fun _ => trivial⟩⟩
  refine (hresult.stopAfter _).bind fun r => ?_
  cases r with
  | none => exact ⟨trivial, fun _ => trivial⟩
  | some result => trivial

theorem licensed_awaited {attempt : Attempt WebhookJobData} (claude : ParticipantId → Claude ν)
    (stops : WebhookStops) {p : ParticipantRow} {ps : List ParticipantRow}
    (hg : Given webhookGiven h attempt)
    (hlist : (⟨.listParticipants attempt.data.sessionId, ps⟩ : VoiceIqTold ν) ∈ h) (hp : p ∈ ps) :
    (awaited attempt claude stops p).Licensed exec Licence
      (fun h' r => ∀ result, r = some result → Counts h' p result) h := by
  have hresult : (resultFor (claude p.id) attempt.data.sessionId p).Licensed exec Licence
      (fun h' result => Counts h' p result) h := by
    refine ⟨⟨p, _, ps, rfl, hlist, hp⟩, fun w => ⟨?_, fun w' => ?_⟩⟩
    · exact ⟨attempt, p, ps, hg.mono (List.subset_cons_self _ _), rfl,
        List.mem_cons_of_mem _ hlist, hp, rfl⟩
    · exact ⟨_, _, List.mem_cons_of_mem _ List.mem_cons_self, rfl⟩
  refine (hresult.stopAfter _).grows.bind ?_
  rintro h' r ⟨hsub, hdone⟩
  cases r with
  | none =>
      refine ⟨⟨attempt, hg.mono hsub, rfl, rfl⟩, fun _ => ?_⟩
      intro result hresult
      cases hresult
  | some result =>
      intro result' hresult'
      cases hresult'
      exact hdone result rfl

theorem eq_map_of_allOf {β : Type} {bs : List (Option β)} {rs : List β} (h : allOf bs = some rs) :
    bs = rs.map some := by
  induction bs generalizing rs with
  | nil =>
      cases h
      rfl
  | cons b bs ih =>
      obtain ⟨b, rfl, hrest⟩ := Option.bind_eq_some_iff.mp h
      obtain ⟨rest, hall, rfl⟩ := Option.map_eq_some_iff.mp hrest
      rw [ih hall, List.map_cons]

/-- Each of them has the rows of its participant. -/
theorem counts_of_ends {ps : List ParticipantRow} {results : List (ParticipantResult ν)}
    (hends : List.Forall₂ (fun q r => q h r)
      (ps.map fun p h r => ∀ result, r = some result → Counts h p result)
      (results.map some)) : ∀ p ∈ ps, ∃ result ∈ results, Counts h p result := by
  induction ps generalizing results with
  | nil => exact fun p hp => absurd hp List.not_mem_nil
  | cons p ps ih =>
      cases results with
      | nil => cases hends
      | cons result results =>
          rw [List.map_cons, List.map_cons, List.forall₂_cons] at hends
          intro p' hp'
          rcases List.mem_cons.mp hp' with rfl | hp'
          · exact ⟨result, List.mem_cons_self, hends.1 result rfl⟩
          · obtain ⟨result', hmem, hcounts⟩ := ih hends.2 p' hp'
            exact ⟨result', List.mem_cons_of_mem _ hmem, hcounts⟩

theorem licensed_finish {data : WebhookJobData} {results : List (ParticipantResult ν)}
    {g : Attempt WebhookJobData} {ps : List ParticipantRow} (hg : Given webhookGiven h g)
    (hdata : g.data = data)
    (hlist : (⟨.listParticipants data.sessionId, ps⟩ : VoiceIqTold ν) ∈ h)
    (hall : ∀ p ∈ ps, ∃ result ∈ results, Counts h p result) :
    (finish data results).Licensed exec Licence (fun _ _ => True) h := by
  refine ⟨⟨g, hg, congrArg _ hdata⟩, fun w => ⟨?_, fun _ => trivial⟩⟩
  refine ⟨ps, List.mem_cons_of_mem _ hlist, fun p hp => ?_⟩
  obtain ⟨result, hresult, hcounts⟩ := hall p hp
  exact ⟨result, hresult, hcounts.mono (List.subset_cons_self _ _)⟩

theorem licensed_webhookAttempt (job : ℕ) (claude : ParticipantId → Claude ν)
    (stops : WebhookStops) (turns : List ℕ) :
    (webhookAttempt job claude stops turns).Licensed exec Licence (fun _ _ => True) [] := by
  refine ⟨fun g hg => ?_, fun w => ?_⟩
  · obtain ⟨e, he, -⟩ := hg
    cases he
  cases htaken : (exec (.takeWebhookJob job) w).1 with
  | none => trivial
  | some attempt =>
      have hg : Given webhookGiven
          [(⟨.takeWebhookJob job, some attempt⟩ : VoiceIqTold ν)] attempt :=
        ⟨_, List.mem_singleton_self _, rfl⟩
      have hlisting : (issue (ν := ν) (.listParticipants attempt.data.sessionId)).Licensed exec
          Licence (fun h ps =>
            (⟨.listParticipants attempt.data.sessionId, ps⟩ : VoiceIqTold ν) ∈ h)
          [⟨.takeWebhookJob job, some attempt⟩] :=
        ⟨trivial, fun w' => List.mem_cons_self⟩
      refine (hlisting.stopAfter stops.first).grows.bind ?_
      rintro h r ⟨hsub, hlisted⟩
      cases r with
      | none => exact ⟨⟨attempt, hg.mono hsub, rfl, rfl⟩, fun _ => trivial⟩
      | some ps =>
          have hlist := hlisted ps rfl
          have heach : EachLicensed exec Licence Cmd.forParticipant
              (ps.map fun p h r => ∀ result, r = some result → Counts h p result)
              (ps.map (awaited attempt claude stops)) h := by
            rw [EachLicensed, List.forall₂_map_left_iff, List.forall₂_map_right_iff,
              List.forall₂_same]
            exact fun p hp => ⟨uses_awaited attempt claude stops p,
              licensed_awaited claude stops (hg.mono hsub) hlist hp⟩
          have htogether := heach.together
            (fun h h' c hc hsub hk => hk.mono hc.steady hsub) (by
              intro q hq
              obtain ⟨p, -, rfl⟩ := List.mem_map.mp hq
              intro h h' r hsub hr result hresult
              exact (hr result hresult).mono hsub) turns
          refine htogether.grows.bind ?_
          rintro h' bs ⟨hsub', hends⟩
          cases hall : allOf bs with
          | none => trivial
          | some results =>
              rw [eq_map_of_allOf hall] at hends
              have hfinish := licensed_finish ((hg.mono hsub).mono hsub') rfl (hsub' hlist)
                (counts_of_ends hends)
              refine (hfinish.stopAfter stops.last).grows.bind ?_
              rintro h'' r ⟨hsub'', -⟩
              cases r with
              | none =>
                  exact ⟨⟨attempt, ((hg.mono hsub).mono hsub').mono hsub'', rfl, rfl⟩,
                    fun _ => trivial⟩
              | some u =>
                  exact ⟨⟨attempt, ((hg.mono hsub).mono hsub').mono hsub'', rfl, rfl⟩,
                    fun _ => trivial⟩

theorem licensed_program (task : Task ν) :
    task.program.Licensed exec Licence (fun _ _ => True) [] := by
  cases task with
  | submitAudioWindow companyId sessionId body newId =>
      exact (licensed_submitAudioWindow companyId sessionId body newId).map
  | endSession companyId sessionId => exact (licensed_endSession companyId sessionId).map
  | scoringAttempt job claude stop => exact (licensed_scoringAttempt job claude stop).map
  | webhookAttempt job claude stops turns =>
      exact (licensed_webhookAttempt job claude stops turns).map

theorem licensed_begun {ι : Type} [DecidableEq ι] (tasks : ι → Task ν) (w₀ : World ν) :
    (begun tasks w₀).Licensed exec (fun _ => Licence) (fun _ _ _ => True) :=
  fun i => licensed_program (tasks i)

end Programs

/-! ### What a call does, and how often -/

/-- The commands of a call. -/
def Task.issues (task : Task ν) (c : Cmd ν) : Prop :=
  match c with
  | .findForCompany _ _ => True
  | .findParticipantByEmail _ _ | .insertParticipant _ | .addScoringJob _ =>
      ∃ companyId sessionId body newId, task = .submitAudioWindow companyId sessionId body newId
  | .updateStatus _ _ | .addWebhookJob _ =>
      ∃ companyId sessionId, task = .endSession companyId sessionId
  | .takeScoringJob job => ∃ claude stop, task = .scoringAttempt job claude stop
  | .findRubric _ | .insertScore _ | .setLiveScore _ _ _ | .completeScoringJob _ _
  | .failScoringJob _ _ => ∃ job claude stop, task = .scoringAttempt job claude stop
  | .takeWebhookJob job => ∃ claude stops turns, task = .webhookAttempt job claude stops turns
  | _ => ∃ job claude stops turns, task = .webhookAttempt job claude stops turns

section Often

variable [Numbers ν]

omit [Numbers ν] in
theorem uses_upsertParticipant {task : Task ν} {sessionId : SessionId} {body : AudioWindow ν}
    {newId : ParticipantId} (hfind : ∀ email, task.issues (.findParticipantByEmail sessionId email))
    (hinsert : ∀ row, task.issues (.insertParticipant row)) :
    (upsertParticipant sessionId body newId).Uses task.issues := by
  have hnew : (insertNewParticipant sessionId body newId).Uses task.issues := by
    refine ⟨hinsert _, fun inserted => ?_⟩
    cases inserted <;> trivial
  rw [upsertParticipant]
  cases truthy body.participantEmail with
  | none => exact hnew
  | some email =>
      refine ⟨hfind email, fun found => ?_⟩
      cases found with
      | none => exact hnew
      | some existing => trivial

omit [Numbers ν] in
theorem uses_scoringJob {task : Task ν} (claude : Claude ν) (data : ScoringJobData ν)
    (htask : ∃ job claude stop, task = .scoringAttempt job claude stop) :
    (scoringJob claude data).Uses task.issues := by
  have hrubric : (findRubricOf (ν := ν) data.rubricId).Uses task.issues := by
    rw [findRubricOf]
    cases truthy data.rubricId with
    | none => trivial
    | some rubricId => exact ⟨htask, fun _ => trivial⟩
  exact hrubric.bind fun rubric => ⟨htask, fun _ => ⟨htask, fun _ => trivial⟩⟩

omit [Numbers ν] in
theorem uses_submitAudioWindow (companyId : CompanyId) (sessionId : SessionId)
    (body : AudioWindow ν) (newId : ParticipantId) :
    (submitAudioWindow companyId sessionId body newId).Uses
      (Task.submitAudioWindow companyId sessionId body newId).issues := by
  refine ⟨trivial, fun found => ?_⟩
  cases found with
  | none => trivial
  | some session =>
      show Prog.Uses _ (if session.status = .active then _ else _)
      split
      · refine (uses_upsertParticipant (fun _ => ⟨_, _, _, _, rfl⟩)
          (fun _ => ⟨_, _, _, _, rfl⟩)).bind fun r => ?_
        cases r with
        | none => trivial
        | some participantId => exact ⟨⟨_, _, _, _, rfl⟩, fun _ => trivial⟩
      · trivial

omit [Numbers ν] in
theorem uses_endSession (companyId : CompanyId) (sessionId : SessionId) :
    (endSession (ν := ν) companyId sessionId).Uses
      (Task.endSession companyId sessionId).issues := by
  refine ⟨trivial, fun found => ?_⟩
  cases found with
  | none => trivial
  | some session =>
      refine ⟨⟨_, _, rfl⟩, fun _ => ?_⟩
      cases truthy session.notifyUrl with
      | none => trivial
      | some url => exact ⟨⟨_, _, rfl⟩, fun _ => trivial⟩

omit [Numbers ν] in
theorem uses_scoringAttempt (job : ℕ) (claude : Claude ν) (stop : ℕ) :
    (scoringAttempt job claude stop).Uses (Task.scoringAttempt job claude stop).issues := by
  refine ⟨⟨_, _, rfl⟩, fun taken => ?_⟩
  cases taken with
  | none => trivial
  | some attempt =>
      refine ((uses_scoringJob claude attempt.data ⟨_, _, _, rfl⟩).stopAfter stop).bind
        fun r => ?_
      cases r <;> exact ⟨⟨_, _, _, rfl⟩, fun _ => trivial⟩

theorem uses_webhookAttempt (job : ℕ) (claude : ParticipantId → Claude ν) (stops : WebhookStops)
    (turns : List ℕ) : (webhookAttempt job claude stops turns).Uses
      (Task.webhookAttempt job claude stops turns).issues := by
  refine ⟨⟨_, _, _, rfl⟩, fun taken => ?_⟩
  cases taken with
  | none => trivial
  | some attempt =>
      have hlisting : (issue (ν := ν) (.listParticipants attempt.data.sessionId)).Uses
          (Task.webhookAttempt job claude stops turns).issues :=
        ⟨⟨_, _, _, _, rfl⟩, fun _ => trivial⟩
      refine (hlisting.stopAfter _).bind fun r => ?_
      cases r with
      | none => exact ⟨⟨_, _, _, _, rfl⟩, fun _ => trivial⟩
      | some ps =>
          have hps : ∀ p ∈ ps.map (awaited attempt claude stops),
              p.Uses (Task.webhookAttempt job claude stops turns).issues := by
            intro p hp
            obtain ⟨row, -, rfl⟩ := List.mem_map.mp hp
            refine (uses_awaited attempt claude stops row).mono fun c hc => ?_
            cases c with
            | listScoresForParticipant | insertFeedback | failWebhookJob =>
                exact ⟨_, _, _, _, rfl⟩
            | _ => exact hc.elim
          refine (uses_together hps turns).bind fun bs => ?_
          cases allOf bs with
          | none => trivial
          | some results =>
              have hfinish : (finish attempt.data results).Uses
                  (Task.webhookAttempt job claude stops turns).issues :=
                ⟨⟨_, _, _, _, rfl⟩, fun _ => ⟨⟨_, _, _, _, rfl⟩, fun _ => trivial⟩⟩
              refine (hfinish.stopAfter _).bind fun r => ?_
              cases r <;> exact ⟨⟨_, _, _, _, rfl⟩, fun _ => trivial⟩

/-- A call issues the commands of its kind. -/
theorem uses_program (task : Task ν) : task.program.Uses task.issues := by
  cases task with
  | submitAudioWindow companyId sessionId body newId =>
      exact (uses_submitAudioWindow companyId sessionId body newId).map _
  | endSession companyId sessionId => exact (uses_endSession companyId sessionId).map _
  | scoringAttempt job claude stop => exact (uses_scoringAttempt job claude stop).map _
  | webhookAttempt job claude stops turns =>
      exact (uses_webhookAttempt job claude stops turns).map _

def Cmd.insertsScore (c : Cmd ν) : Bool := c.scoreRow?.isSome

omit [Numbers ν] in
theorem atMost_scoringAttempt (job : ℕ) (claude : Claude ν) (stop : ℕ) :
    (scoringAttempt job claude stop).AtMost exec Cmd.insertsScore 1 := by
  refine .call_of_false rfl fun w => ?_
  cases (exec (.takeScoringJob job) w).1 with
  | none => trivial
  | some attempt =>
      have hrubric : (findRubricOf (ν := ν) attempt.data.rubricId).AtMost exec
          Cmd.insertsScore 0 := by
        refine Uses.atMost_zero ?_
        rw [findRubricOf]
        cases truthy attempt.data.rubricId with
        | none => trivial
        | some rubricId => exact ⟨rfl, fun _ => trivial⟩
      have hjob : (scoringJob claude attempt.data).AtMost exec Cmd.insertsScore (0 + 1) := by
        refine hrubric.bind fun rubric => .call_succ fun _ => ?_
        exact Uses.atMost_zero ⟨rfl, fun _ => trivial⟩
      refine (hjob.stopAfter stop).bind (n := 0) fun r => Uses.atMost_zero ?_
      cases r <;> exact ⟨rfl, fun _ => trivial⟩

/-- An attempt writes one row at most. -/
theorem atMost_insertsScore (task : Task ν) : task.program.AtMost exec Cmd.insertsScore 1 := by
  cases task with
  | scoringAttempt job claude stop => exact (atMost_scoringAttempt job claude stop).map _
  | _ =>
      refine (Uses.atMost_zero ((uses_program _).mono fun c hc => ?_)).mono (Nat.zero_le 1)
      cases c with
      | insertScore row =>
          obtain ⟨_, _, _, htask⟩ := hc
          cases htask
      | _ => rfl

def Cmd.reportsOn (participantId : ParticipantId) (c : Cmd ν) : Bool :=
  c.feedbackRow?.any (·.participantId = participantId)

theorem atMost_awaited (participantId : ParticipantId) (attempt : Attempt WebhookJobData)
    (claude : ParticipantId → Claude ν) (stops : WebhookStops) (p : ParticipantRow) :
    (awaited attempt claude stops p).AtMost exec (Cmd.reportsOn participantId)
      (if p.id = participantId then 1 else 0) := by
  have hresult : (resultFor (claude p.id) attempt.data.sessionId p).AtMost exec
      (Cmd.reportsOn participantId) (if p.id = participantId then 1 else 0) := by
    refine .call_of_false rfl fun w => ⟨?_, fun _ => trivial⟩
    show (Option.any _ (some _)).toNat ≤ _
    rw [Option.any_some]
    split
    · exact Bool.toNat_le _
    · rename_i hne
      rw [decide_eq_false hne]
      exact Nat.le_refl 0
  refine AtMost.bind (n := 0) (hresult.stopAfter _) fun r => Uses.atMost_zero ?_
  cases r with
  | none => exact ⟨rfl, fun _ => trivial⟩
  | some result => trivial

omit [Numbers ν] in
theorem sum_indicator (participantId : ParticipantId) (ps : List ParticipantRow) :
    (ps.map fun p => if p.id = participantId then 1 else 0).sum =
      (ps.map (·.id)).count participantId := by
  induction ps with
  | nil => rfl
  | cons p ps ih =>
      rw [List.map_cons, List.sum_cons, ih, List.map_cons, List.count_cons]
      simp only [beq_iff_eq]
      exact Nat.add_comm _ _

/-- The programs of participants that are all different. -/
theorem atMost_together_awaited (participantId : ParticipantId) (attempt : Attempt WebhookJobData)
    (claude : ParticipantId → Claude ν) (stops : WebhookStops) (turns : List ℕ)
    {ps : List ParticipantRow} (hps : (ps.map (·.id)).Nodup) :
    (together turns (ps.map (awaited attempt claude stops))).AtMost exec
      (Cmd.reportsOn participantId) 1 := by
  have heach : List.Forall₂ (fun n p => Prog.AtMost exec (Cmd.reportsOn participantId) p n)
      (ps.map fun p => if p.id = participantId then 1 else 0)
      (ps.map (awaited attempt claude stops)) := by
    rw [List.forall₂_map_left_iff, List.forall₂_map_right_iff, List.forall₂_same]
    exact fun p _ => atMost_awaited participantId attempt claude stops p
  refine (atMost_together heach turns).mono ?_
  rw [sum_indicator]
  exact List.nodup_iff_count_le_one.mp hps participantId

omit [Numbers ν] in
/-- A list of participants names each of them once. -/
theorem nodup_listParticipants (w : World ν) (sessionId : SessionId) :
    ((exec (.listParticipants sessionId) w).1.map (·.id)).Nodup :=
  w.participants.unique.sublist (List.filter_sublist.map _)

theorem atMost_webhookAttempt (participantId : ParticipantId) (job : ℕ)
    (claude : ParticipantId → Claude ν) (stops : WebhookStops) (turns : List ℕ) :
    (webhookAttempt job claude stops turns).AtMost exec (Cmd.reportsOn participantId) 1 := by
  refine .call_of_false rfl fun w => ?_
  cases (exec (.takeWebhookJob job) w).1 with
  | none => trivial
  | some attempt =>
      have hfail : (issue (ν := ν) (.failWebhookJob attempt.job attempt.number)).AtMost exec
          (Cmd.reportsOn participantId) 1 := .call_of_false rfl fun _ => trivial
      show Prog.AtMost exec _ (stopAfter stops.first _ >>= _) 1
      cases stops.first with
      | zero => exact hfail
      | succ n =>
          refine .call_of_false rfl fun w' => ?_
          cases n with
          | zero => exact hfail
          | succ n =>
              refine (atMost_together_awaited participantId attempt claude stops turns
                (nodup_listParticipants w' _)).bind (n := 0) fun bs => Uses.atMost_zero ?_
              cases allOf bs with
              | none => trivial
              | some results =>
                  have hfinish : (finish attempt.data results).Uses
                      (fun c => c.reportsOn participantId = false) :=
                    ⟨rfl, fun _ => ⟨rfl, fun _ => trivial⟩⟩
                  refine (hfinish.stopAfter _).bind fun r => ?_
                  cases r <;> exact ⟨rfl, fun _ => trivial⟩

/-- An attempt writes one report about a participant at most. -/
theorem atMost_reportsOn (participantId : ParticipantId) (task : Task ν) :
    task.program.AtMost exec (Cmd.reportsOn participantId) 1 := by
  cases task with
  | webhookAttempt job claude stops turns =>
      exact (atMost_webhookAttempt participantId job claude stops turns).map _
  | _ =>
      refine (Uses.atMost_zero ((uses_program _).mono fun c hc => ?_)).mono (Nat.zero_le 1)
      cases c with
      | insertFeedback row =>
          obtain ⟨_, _, _, _, htask⟩ := hc
          cases htask
      | _ => rfl

end Often

end Greetup.VoiceIq
