import RouteShield.Api.Assess
import RouteShield.Api.EvidenceRuns
import RouteShield.Api.Recommendations

/-!
Which evidence an assessment can score. What a request puts, or a provider answers, is stored as it
is; its scores are held to their range only when the factors are built, after the snapshot that the
trip keeps.
-/

namespace RouteShield

namespace Api

open Prog hiding pure

variable {svc : Service} {tenantId : String} {trip : Trip} {scenario : Option DemoScenario}
  {σ : Type} {exec : {α : Type} → Effect α → σ → Except Fault α × σ} {s s' : σ}
  {correlationId : Uuid} {evidence : List EvidenceEnvelope}

/-- An assessment up to its score: the evidence is stored, and what it shows is recorded. -/
def observe (tenantId : String) (trip : Trip) (scenario : Option DemoScenario) :
    Api (Uuid × List EvidenceEnvelope) := do
  let correlationId ← uuid4
  let evidence ← assessmentEvidence tenantId trip scenario correlationId
  evidence.forM (emitObserved tenantId trip.tripId correlationId)
  return (correlationId, evidence)

/-- The rest of an assessment, from its factors on. -/
def conclude (svc : Service) (tenantId : String) (trip : Trip) (correlationId : Uuid)
    (evidence : List EvidenceEnvelope) (factors : RiskFactors) (unknown : List RiskFactor) :
    Api AssessmentResult := do
  let assessmentId ← uuid4
  let assessedAt ← now
  let assessment ← .ofExcept (calculateRisk assessmentId trip.tripId assessedAt factors
    (evidence.map EvidenceEnvelope.evidenceId) unknown)
  repo (.saveAssessment tenantId assessment)
  let health := sourceHealthFor evidence
  let disposition := dispositionFor assessment health
  let incidentId ← if disposition = .investigate ∨ disposition = .needsHumanReview then
      some <$> openIncident svc tenantId trip assessment evidence health disposition correlationId
    else pure none
  emitEvent
    { eventType := "assessment.completed"
      tenantId
      tripId := some trip.tripId
      correlationId
      details :=
        [("assessment_id", .str assessment.assessmentId.str),
          ("risk_score", .num (.float (.finite assessment.riskScore))),
          ("severity", .str assessment.severity.value),
          ("disposition", .str disposition.value),
          ("unknown_factor_count", .num (.int assessment.unknownFactors.length))] }
  return { assessment, evidence, sourceHealth := health, disposition, incidentId }

/-- An assessment observes, scores and concludes. -/
theorem run_runAssessment (h : (observe tenantId trip scenario).run exec s =
      (.ok (correlationId, evidence), s')) :
    (runAssessment svc tenantId trip scenario).run exec s =
      (Prog.ofExcept (getScoringInput evidence trip) >>= fun scoring =>
        conclude svc tenantId trip correlationId evidence scoring.1 scoring.2).run exec s' := by
  obtain ⟨_, s₁, hid, h⟩ := run_bind_eq_ok.mp h
  obtain ⟨_, s₂, hevidence, h⟩ := run_bind_eq_ok.mp h
  obtain ⟨_, s₃, hobserved, h⟩ := run_bind_eq_ok.mp h
  cases h
  exact (run_bind_ok hid).trans ((run_bind_ok hevidence).trans (run_bind_ok hobserved))

end Api

variable {evidence : List EvidenceEnvelope} {trip : Trip}

/-- The factors of an assessment, which its types keep in range, and what it does with them once
its evidence is stored. -/
def Scores (evidence : List EvidenceEnvelope) (trip : Trip) : Prop :=
  ∃ factors unknown, getScoringInput evidence trip = .ok (factors, unknown) ∧
    ∀ (svc : Service) (tenantId : String) (scenario : Option DemoScenario) (σ : Type)
      (exec : {α : Type} → Effect α → σ → Except Fault α × σ) (s s' : σ) (correlationId : Uuid),
      (Api.observe tenantId trip scenario).run exec s = (.ok (correlationId, evidence), s') →
        (Api.runAssessment svc tenantId trip scenario).run exec s =
          (Api.conclude svc tenantId trip correlationId evidence factors unknown).run exec s'

/-- The assessment raises what the scoring raises, with its evidence stored and recorded. -/
def FailsStored (evidence : List EvidenceEnvelope) (trip : Trip) (fault : Fault) : Prop :=
  ∀ (svc : Service) (tenantId : String) (scenario : Option DemoScenario) (σ : Type)
    (exec : {α : Type} → Effect α → σ → Except Fault α × σ) (s s' : σ) (correlationId : Uuid),
    (Api.observe tenantId trip scenario).run exec s = (.ok (correlationId, evidence), s') →
      (Api.runAssessment svc tenantId trip scenario).run exec s = (.error fault, s')

theorem scores_of_ok {factors : RiskFactors} {unknown : List RiskFactor}
    (h : getScoringInput evidence trip = .ok (factors, unknown)) : Scores evidence trip := by
  refine ⟨factors, unknown, h, fun svc tenantId scenario σ exec s s' correlationId hobserved => ?_⟩
  rw [Api.run_runAssessment hobserved, h]
  rfl

theorem failsStored_of_error {fault : Fault} (h : getScoringInput evidence trip = .error fault) :
    FailsStored evidence trip fault := by
  intro svc tenantId scenario σ exec s s' correlationId hobserved
  rw [Api.run_runAssessment hobserved, h]
  rfl

/-- Evidence can be scored exactly when the numbers of each source type convert and the greatest of
them is in range; other evidence fails the assessment after it is stored. -/
theorem scores_iff_scorable (evidence : List EvidenceEnvelope) (trip : Trip) :
    (Scores evidence trip ↔ ∀ field ∈ scoringFields, Scorable evidence field.2) ∧
      ((¬∀ field ∈ scoringFields, Scorable evidence field.2) →
        ∃ fault, FailsStored evidence trip fault) := by
  rw [← getScoringInput_ok_iff evidence trip]
  refine ⟨⟨?_, ?_⟩, fun hnot => ?_⟩
  · rintro ⟨factors, unknown, h, -⟩
    exact ⟨_, h⟩
  · rintro ⟨⟨factors, unknown⟩, h⟩
    exact scores_of_ok h
  · cases hscoring : getScoringInput evidence trip with
    | ok scoring => exact absurd ⟨scoring, hscoring⟩ hnot
    | error fault => exact ⟨fault, failsStored_of_error hscoring⟩

/-! ### Evidence that is accepted and cannot be scored -/

/-- A score of 150, as a request may put it. -/
def overratedBody : EvidenceBody where
  sourceName := "fixture"
  sourceType := "flight_status"
  sourceUrlOrRecordId := "fixture"
  normalizedPayload := [("risk_score", .num (.int 150))]

/-- The same score as every provider may answer it. -/
def LiveEnv.overrated (tick : ℕ) : LiveReadings :=
  { LiveEnv.answering.readings tick with
    replies := fun _ _ => .json (.obj [("risk_score", .num (.int 150))]) }

def unscoredTrip : World .memory where
  store := ({} : InMemoryRepository Response).createTrip connectionTrip

/-- What a result raises. -/
def raised? {α : Type} : Except Fault α → Option Fault
  | .error fault => some fault
  | .ok _ => none

theorem eq_error_of_raised? {α : Type} {result : Except Fault α} {fault : Fault}
    (h : raised? result = some fault) : result = .error fault := by
  cases result with
  | error fault' => exact congrArg Except.error (Option.some.inj h)
  | ok a => cases h

theorem eq_ok_of_toOption {α : Type} {result : Except Fault α} {a : α}
    (h : result.toOption = some a) : result = .ok a := by
  cases result with
  | error fault => cases h
  | ok a' => exact congrArg Except.ok (Option.some.inj h)

/-- Neither what a request puts nor what the providers answer is always scored. -/
theorem accepted_evidence_fails :
    (¬∀ (env : Env) (w : World .memory) (caller : Caller) (tripId : Uuid) (bodies : List EvidenceBody),
      ((Api.putEvidence .plain caller tripId bodies).run env.exec w).1 = .ok () →
        ((Api.assessTrip .plain caller tripId none).run env.exec
          ((Api.putEvidence .plain caller tripId bodies).run env.exec w).2).1 ≠
            .error (.validation "RiskFactors")) ∧
    ¬∀ (collector : LiveEvidenceCollector) (readings : LiveReadings) (fresh : ℕ → Uuid) (trip : Trip)
      (correlationId : String) (evidence : List EvidenceEnvelope),
      (collector.collect readings fresh trip correlationId).1 = .ok evidence →
        Scores evidence trip := by
  constructor
  · intro h
    refine h .still unscoredTrip filedTripManager connectionTrip.tripId [overratedBody] (by rfl) ?_
    exact eq_error_of_raised? (by decide +kernel)
  · intro h
    have hcollected : ((({} : LiveEvidenceCollector).collect (LiveEnv.overrated 0) (drawn 0)
        (flightTrip "first" "1") "c").1.toOption.bind fun evidence =>
          raised? (getScoringInput evidence (flightTrip "first" "1"))) =
            some (.validation "RiskFactors") := by
      decide +kernel
    obtain ⟨evidence, hevidence, hraised⟩ := Option.bind_eq_some_iff.mp hcollected
    obtain ⟨factors, unknown, hok, -⟩ := h {} (LiveEnv.overrated 0) (drawn 0)
      (flightTrip "first" "1") "c" evidence (eq_ok_of_toOption hevidence)
    rw [hok] at hraised
    cases hraised

end RouteShield
