import Greetup.VoiceIq.Aggregation
import Greetup.Interleaving.Together
import Greetup.Interleaving.Attempts
import Greetup.Sql.Table

/-!
Interview sessions: audio windows are submitted while a session is active, each
is scored by a job of its own, and once the session ends a last job makes a
report for every participant and sends the results to the company.

Jobs run on two queues that know nothing of each other. A job may stop after any
of its steps and is then run again from its start.
-/

namespace Greetup.VoiceIq

open Interleaving
open Interleaving.Prog

abbrev CompanyId := String
abbrev SessionId := String
abbrev ParticipantId := String
abbrev RubricId := String

/-- What a truthiness test lets through. -/
def truthy (s : Option String) : Option String := s.filter (· ≠ "")

inductive SessionStatus
  | active
  | processing
  | completed
  | failed
  deriving DecidableEq, Repr

structure SessionRow where
  companyId : CompanyId
  rubricId : Option RubricId
  status : SessionStatus
  notifyUrl : Option String

structure ParticipantRow where
  id : ParticipantId
  sessionId : SessionId
  name : Option String
  email : Option String
  deriving DecidableEq

structure RubricRow where
  name : String
  context : String

structure RubricDefinition where
  name : String
  context : String

structure ScoreRow where
  participantId : ParticipantId
  sessionId : SessionId
  transcript : String
  score : Dimension → ℤ
  reasoning : Option String

structure Improvement where
  area : String
  observation : String
  technique : String
  drill : String

structure FeedbackReport where
  strength : String
  improvements : List Improvement
  summary : String

structure FeedbackRow (ν : Type) where
  sessionId : SessionId
  participantId : ParticipantId
  finalScores : Dimension → ν
  coachingReport : FeedbackReport

structure ScoringJobData (ν : Type) where
  participantId : ParticipantId
  sessionId : SessionId
  transcript : String
  embedding : List ν
  rubricId : Option RubricId

structure WebhookJobData where
  sessionId : SessionId
  companyWebhookUrl : String

structure ParticipantResult (ν : Type) where
  name : Option String
  email : Option String
  intelligenceScore : ν
  dimensions : Dimension → ν
  feedback : FeedbackReport
  fullTranscript : String

structure WebhookPayload (ν : Type) where
  sessionId : SessionId
  status : SessionStatus
  participants : List (ParticipantResult ν)

instance tries_scoring : Tries 3 := ⟨Nat.succ_pos 2⟩

instance tries_webhook : Tries 5 := ⟨Nat.succ_pos 4⟩

/-- The tables, the two queues, and what the companies were sent. -/
structure World (ν : Type) where
  sessions : SessionId → Option SessionRow
  participants : Sql.Table ParticipantRow.id
  rubrics : RubricId → Option RubricRow
  /-- The oldest first: `window_time` is the time of the insertion. -/
  scores : List ScoreRow
  feedback : List (FeedbackRow ν)
  scoringQueue : JobQueue (ScoringJobData ν) 3
  webhookQueue : JobQueue WebhookJobData 5
  liveScores : ParticipantId → SessionId → Option WindowScores
  deliveries : List (String × WebhookPayload ν)

variable {ν : Type}

namespace World

variable (w : World ν)

def setStatus (sessionId : SessionId) (status : SessionStatus) : World ν :=
  { w with
    sessions := Function.update w.sessions sessionId
      ((w.sessions sessionId).map fun row => { row with status }) }

def status (sessionId : SessionId) : Option SessionStatus := (w.sessions sessionId).map (·.status)

/-- The primary key is checked. -/
def insertParticipant (row : ParticipantRow) : Bool × World ν :=
  if (w.participants.find row.id).isSome then (false, w)
  else (true, { w with participants := w.participants.insert row id fun _ => rfl })

def listScoresForParticipant (participantId : ParticipantId) : List ScoreRow :=
  w.scores.filter (·.participantId = participantId)

end World

inductive Cmd (ν : Type)
  | findForCompany (sessionId : SessionId) (companyId : CompanyId)
  | updateStatus (sessionId : SessionId) (status : SessionStatus)
  | addWebhookJob (data : WebhookJobData)
  | findParticipantByEmail (sessionId : SessionId) (email : String)
  | insertParticipant (row : ParticipantRow)
  | addScoringJob (data : ScoringJobData ν)
  | takeScoringJob (job : ℕ)
  | findRubric (rubricId : RubricId)
  | insertScore (row : ScoreRow)
  | setLiveScore (participantId : ParticipantId) (sessionId : SessionId) (scores : WindowScores)
  | completeScoringJob (job attempt : ℕ)
  | failScoringJob (job attempt : ℕ)
  | takeWebhookJob (job : ℕ)
  | listParticipants (sessionId : SessionId)
  | listScoresForParticipant (participantId : ParticipantId)
  | insertFeedback (row : FeedbackRow ν)
  | markCompleted (sessionId : SessionId)
  | deliverWebhook (url : String) (payload : WebhookPayload ν)
  | completeWebhookJob (job attempt : ℕ)
  | failWebhookJob (job attempt : ℕ)

@[reducible] def Cmd.Reply : Cmd ν → Type
  | .findForCompany _ _ => Option SessionRow
  | .findParticipantByEmail _ _ => Option ParticipantRow
  | .insertParticipant _ => Bool
  | .takeScoringJob _ => Option (Attempt (ScoringJobData ν))
  | .findRubric _ => Option RubricRow
  | .takeWebhookJob _ => Option (Attempt WebhookJobData)
  | .listParticipants _ => List ParticipantRow
  | .listScoresForParticipant _ => List ScoreRow
  | _ => Unit

def exec : (c : Cmd ν) → World ν → c.Reply × World ν
  | .findForCompany sessionId companyId, w =>
      ((w.sessions sessionId).filter (·.companyId = companyId), w)
  | .updateStatus sessionId status, w => ((), w.setStatus sessionId status)
  | .addWebhookJob data, w => ((), { w with webhookQueue := w.webhookQueue.apply (.add data) })
  | .findParticipantByEmail sessionId email, w =>
      (w.participants.rows.find? fun p => p.sessionId = sessionId && p.email = some email, w)
  | .insertParticipant row, w => w.insertParticipant row
  | .addScoringJob data, w => ((), { w with scoringQueue := w.scoringQueue.apply (.add data) })
  | .takeScoringJob job, w =>
      (w.scoringQueue.given (.take job),
        { w with scoringQueue := w.scoringQueue.apply (.take job) })
  | .findRubric rubricId, w => (w.rubrics rubricId, w)
  | .insertScore row, w => ((), { w with scores := w.scores ++ [row] })
  | .setLiveScore participantId sessionId scores, w =>
      ((), { w with
        liveScores := Function.update w.liveScores participantId
          (Function.update (w.liveScores participantId) sessionId (some scores)) })
  | .completeScoringJob job attempt, w =>
      ((), { w with scoringQueue := w.scoringQueue.apply (.complete job attempt) })
  | .failScoringJob job attempt, w =>
      ((), { w with scoringQueue := w.scoringQueue.apply (.fail job attempt) })
  | .takeWebhookJob job, w =>
      (w.webhookQueue.given (.take job),
        { w with webhookQueue := w.webhookQueue.apply (.take job) })
  | .listParticipants sessionId, w =>
      (w.participants.rows.filter (·.sessionId = sessionId), w)
  | .listScoresForParticipant participantId, w => (w.listScoresForParticipant participantId, w)
  | .insertFeedback row, w => ((), { w with feedback := w.feedback ++ [row] })
  | .markCompleted sessionId, w => ((), w.setStatus sessionId .completed)
  | .deliverWebhook url payload, w =>
      ((), { w with deliveries := w.deliveries ++ [(url, payload)] })
  | .completeWebhookJob job attempt, w =>
      ((), { w with webhookQueue := w.webhookQueue.apply (.complete job attempt) })
  | .failWebhookJob job attempt, w =>
      ((), { w with webhookQueue := w.webhookQueue.apply (.fail job attempt) })

abbrev VoiceIqM (ν α : Type) : Type := Prog (Cmd ν) Cmd.Reply α

abbrev issue (c : Cmd ν) : VoiceIqM ν c.Reply := perform c

/-! ### The session service -/

structure AudioWindow (ν : Type) where
  transcript : String
  embedding : Option (List ν)
  participantName : Option String
  participantEmail : Option String

inductive SessionError
  | notFound
  | badState (status : SessionStatus)
  /-- A query throws. -/
  | internal
  deriving DecidableEq

/-- `newId` is the id that the database draws. -/
def insertNewParticipant (sessionId : SessionId) (body : AudioWindow ν) (newId : ParticipantId) :
    VoiceIqM ν (Option ParticipantId) := do
  let row : ParticipantRow := ⟨newId, sessionId, body.participantName, body.participantEmail⟩
  if ← issue (.insertParticipant row) then pure (some newId) else pure none

def upsertParticipant (sessionId : SessionId) (body : AudioWindow ν) (newId : ParticipantId) :
    VoiceIqM ν (Option ParticipantId) :=
  match truthy body.participantEmail with
  | some email => do
      match ← issue (.findParticipantByEmail sessionId email) with
      | some existing => pure (some existing.id)
      | none => insertNewParticipant sessionId body newId
  | none => insertNewParticipant sessionId body newId

def submitAudioWindow (companyId : CompanyId) (sessionId : SessionId) (body : AudioWindow ν)
    (newId : ParticipantId) : VoiceIqM ν (Except SessionError ParticipantId) := do
  match ← issue (.findForCompany sessionId companyId) with
  | none => pure (.error .notFound)
  | some session =>
    if session.status = .active then
      match ← upsertParticipant sessionId body newId with
      | none => pure (.error .internal)
      | some participantId =>
        issue (.addScoringJob
          ⟨participantId, sessionId, body.transcript, body.embedding.getD [], session.rubricId⟩)
        pure (.ok participantId)
    else pure (.error (.badState session.status))

def endSession (companyId : CompanyId) (sessionId : SessionId) :
    VoiceIqM ν (Except SessionError Unit) := do
  match ← issue (.findForCompany sessionId companyId) with
  | none => pure (.error .notFound)
  | some session =>
    issue (.updateStatus sessionId .processing)
    match truthy session.notifyUrl with
    | some url => do
        issue (.addWebhookJob ⟨sessionId, url⟩)
        pure (.ok ())
    | none => pure (.ok ())

/-! ### The workers -/

/-- What the language model answers. -/
structure Claude (ν : Type) where
  scoreWindow : String → RubricDefinition → String → WindowScores
  generateFeedback : String → (Dimension → ν) → String → FeedbackReport

def findRubricOf (rubricId : Option RubricId) : VoiceIqM ν (Option RubricRow) :=
  match truthy rubricId with
  | some id => issue (.findRubric id)
  | none => pure none

def ScoreRow.of (data : ScoringJobData ν) (windowScores : WindowScores) : ScoreRow :=
  ⟨data.participantId, data.sessionId, data.transcript, windowScores.score,
    some windowScores.reasoning⟩

def scoringJob (claude : Claude ν) (data : ScoringJobData ν) : VoiceIqM ν Unit := do
  let rubric ← findRubricOf data.rubricId
  let rubricDef : RubricDefinition :=
    ⟨(rubric.map (·.name)).getD "General Assessment", (rubric.map (·.context)).getD ""⟩
  let windowScores := claude.scoreWindow data.transcript rubricDef rubricDef.name
  issue (.insertScore (.of data windowScores))
  issue (.setLiveScore data.participantId data.sessionId windowScores)

/-- One attempt of the worker at the job, which stops after `stop` steps unless
it is through by then. -/
def scoringAttempt (job : ℕ) (claude : Claude ν) (stop : ℕ) : VoiceIqM ν Unit := do
  match ← issue (.takeScoringJob job) with
  | none => pure ()
  | some attempt =>
    match ← (scoringJob claude attempt.data).stopAfter stop with
    | some _ => issue (.completeScoringJob attempt.job attempt.number)
    | none => issue (.failScoringJob attempt.job attempt.number)

section Results

variable [Numbers ν]

def ScoreRow.windowScores (row : ScoreRow) : WindowScores :=
  ⟨row.score, row.reasoning.getD ""⟩

def aggregated (windowRows : List ScoreRow) : AggregatedScores ν :=
  aggregateWindows (windowRows.map ScoreRow.windowScores)

def fullTranscript (windowRows : List ScoreRow) : String :=
  "\n\n".intercalate (windowRows.map (·.transcript))

def participantResult (p : ParticipantRow) (windowRows : List ScoreRow)
    (coachingReport : FeedbackReport) : ParticipantResult ν :=
  { name := p.name
    email := p.email
    intelligenceScore := (aggregated windowRows).intelligenceScore
    dimensions := (aggregated windowRows).dimensions
    feedback := coachingReport
    fullTranscript := fullTranscript windowRows }

def resultFor (claude : Claude ν) (sessionId : SessionId) (p : ParticipantRow) :
    VoiceIqM ν (ParticipantResult ν) := do
  let windowRows ← issue (.listScoresForParticipant p.id)
  let agg : AggregatedScores ν := aggregated windowRows
  let coachingReport :=
    claude.generateFeedback (fullTranscript windowRows) agg.dimensions "Session"
  issue (.insertFeedback ⟨sessionId, p.id, agg.dimensions, coachingReport⟩)
  pure (participantResult p windowRows coachingReport)

end Results

/-- After how many steps an attempt stops: before the participants are awaited,
for each of them, and after that. -/
structure WebhookStops where
  first : ℕ
  participant : ParticipantId → ℕ
  last : ℕ

/-- Whoever stops first fails the attempt; the others go on. -/
def awaited [Numbers ν] (attempt : Attempt WebhookJobData) (claude : ParticipantId → Claude ν)
    (stops : WebhookStops) (p : ParticipantRow) : VoiceIqM ν (Option (ParticipantResult ν)) := do
  match ← (resultFor (claude p.id) attempt.data.sessionId p).stopAfter (stops.participant p.id) with
  | some result => pure (some result)
  | none =>
    issue (.failWebhookJob attempt.job attempt.number)
    pure none

/-- What `Promise.all` resolves to. -/
def allOf {β : Type} : List (Option β) → Option (List β)
  | [] => some []
  | b :: bs => b.bind fun b => (allOf bs).map (b :: ·)

def finish (data : WebhookJobData) (results : List (ParticipantResult ν)) : VoiceIqM ν Unit := do
  issue (.markCompleted data.sessionId)
  issue (.deliverWebhook data.companyWebhookUrl ⟨data.sessionId, .completed, results⟩)

def webhookAttempt [Numbers ν] (job : ℕ) (claude : ParticipantId → Claude ν) (stops : WebhookStops)
    (turns : List ℕ) : VoiceIqM ν Unit := do
  match ← issue (.takeWebhookJob job) with
  | none => pure ()
  | some attempt =>
    match ← (issue (.listParticipants attempt.data.sessionId)).stopAfter stops.first with
    | none => issue (.failWebhookJob attempt.job attempt.number)
    | some sessionParticipants =>
      let results ← together turns (sessionParticipants.map (awaited attempt claude stops))
      match allOf results with
      | none => pure ()
      | some results =>
        match ← (finish attempt.data results).stopAfter stops.last with
        | some _ => issue (.completeWebhookJob attempt.job attempt.number)
        | none => issue (.failWebhookJob attempt.job attempt.number)

/-! ### What runs at the same time -/

inductive Task (ν : Type)
  | submitAudioWindow (companyId : CompanyId) (sessionId : SessionId) (body : AudioWindow ν)
      (newId : ParticipantId)
  | endSession (companyId : CompanyId) (sessionId : SessionId)
  | scoringAttempt (job : ℕ) (claude : Claude ν) (stop : ℕ)
  | webhookAttempt (job : ℕ) (claude : ParticipantId → Claude ν) (stops : WebhookStops)
      (turns : List ℕ)

inductive Outcome
  | submitted (result : Except SessionError ParticipantId)
  | ended (result : Except SessionError Unit)
  | worked

def Task.program [Numbers ν] : Task ν → VoiceIqM ν Outcome
  | .submitAudioWindow companyId sessionId body newId =>
      Outcome.submitted <$> VoiceIq.submitAudioWindow companyId sessionId body newId
  | .endSession companyId sessionId => Outcome.ended <$> VoiceIq.endSession companyId sessionId
  | .scoringAttempt job claude stop =>
      (fun _ => Outcome.worked) <$> VoiceIq.scoringAttempt job claude stop
  | .webhookAttempt job claude stops turns =>
      (fun _ => Outcome.worked) <$> VoiceIq.webhookAttempt job claude stops turns

abbrev VoiceIqScene (ι ν : Type) : Type := Scene ι (Cmd ν) Cmd.Reply (World ν)

abbrev VoiceIqConf (ι ν : Type) : Type := Conf ι (Cmd ν) Cmd.Reply Outcome (World ν)

abbrev VoiceIqTold (ν : Type) : Type := Told (Cmd ν) Cmd.Reply

def begun [Numbers ν] {ι : Type} (tasks : ι → Task ν) (w₀ : World ν) : VoiceIqConf ι ν where
  threads i := (tasks i).program
  scene := ⟨w₀, []⟩

end Greetup.VoiceIq
