import RouteShield.Api.Database
import RouteShield.Api.Events
import RouteShield.Lib.Lockstep
import RouteShield.Store.Mirrored

/-!
The two backends under the service. From repositories that hold the same records, a call of the
service is answered alike by both and leaves them with the same records, as long as it inserts
under new keys, overwrites within a tenant, keeps its texts within their columns and its floats
within what JSONB gives back, and lists what comes in one order. So the same requests, stepped in
the same order, come to the same answers and to the same records on both: what is seen in memory is
what PostgreSQL does. Stored texts hold no U+0000, which PostgreSQL takes nowhere.
-/

namespace RouteShield

/-- What both repositories take alike. A purge and an erasure of more than traveler memory count
different things, and are left out. -/
def RepoOp.Alike (s : InMemoryRepository Response) : {α : Type} → RepoOp α → Prop
  | _, .createTrip trip =>
    trip.stripped = trip ∧ (trip.segments.map FlightSegment.segmentId).Nodup ∧
      s.trips.find? trip.tripId = none
  | _, .saveTrip trip =>
    trip.stripped = trip ∧ (trip.segments.map FlightSegment.segmentId).Nodup ∧
      ∀ current ∈ s.trips.find? trip.tripId, current.tenantId = trip.tenantId
  | _, .saveEvidence tenantId tripId evidence =>
    (s.getTrip tenantId tripId).isSome ∧ (evidence.map EvidenceEnvelope.evidenceId).Nodup ∧
      ∀ bucket ∈ s.evidence.rows, bucket.id ≠ tripId → ∀ item ∈ bucket.items,
        item.evidenceId ∉ evidence.map EvidenceEnvelope.evidenceId
  | _, .saveAssessment tenantId assessment =>
    (s.getTrip tenantId assessment.tripId).isSome ∧ ∀ bucket ∈ s.assessments.rows,
      ∀ a ∈ bucket.items, a.assessmentId ≠ assessment.assessmentId
  | _, .saveIncident incident =>
    ∀ current ∈ s.incidents.find? incident.incidentId, current.tenantId = incident.tenantId
  | _, .saveCandidateSet _ candidateSet =>
    s.candidateSets.find? candidateSet.candidateSetId = none
  | _, .recordCandidateOutcome _ outcome => s.candidateOutcomes.find? outcome.outcomeId = none
  | _, .saveManagerFeedback feedback => s.managerFeedback.find? feedback.feedbackId = none
  | _, .saveActionDispatch action =>
    ∀ current ∈ s.actionDispatches.find? action.actionDispatchId,
      current.tenantId = action.tenantId ∧ current.incidentId = action.incidentId
  | _, .claimDueActionDispatches request =>
    (s.actionDispatches.rows.filter (fun action =>
      request.admits action.tenantId && action.waiting)).length ≤ request.limit
  | _, .completeActionDispatch action attempt claimId =>
    ∀ current ∈ s.actionDispatches.find? action.actionDispatchId,
      current.dispatchClaim.map DispatchClaim.claimId = some claimId →
        current.tenantId = action.tenantId ∧ current.incidentId = action.incidentId ∧
          ∀ bucket ∈ s.actionDispatchAttempts.rows, ∀ a ∈ bucket.items,
            a.attemptId ≠ attempt.attemptId
  | _, .recordActionDispatchAttempt attempt =>
    ∀ bucket ∈ s.actionDispatchAttempts.rows, ∀ a ∈ bucket.items, a.attemptId ≠ attempt.attemptId
  | _, .claimIdempotency claim => (claim.record 0 : MutationRecord).Valid
  | _, .completeIdempotency completion =>
    (100 ≤ completion.responseStatusCode ∧ completion.responseStatusCode ≤ 599) ∧
      ∀ record ∈ s.idempotencyRecords.find? completion.key,
        record.requestHash = completion.requestHash
  | _, .recordEvent event => ∀ e ∈ s.events, e.eventId ≠ event.eventId
  | _, .recordMemoryAudit event => ∀ e ∈ s.memoryAudits, e.auditId ≠ event.auditId
  | _, .saveMemoryProposal proposal =>
    ∀ current ∈ s.memoryProposals.find? proposal.proposalId, current.tenantId = proposal.tenantId
  | _, .saveNotification notification =>
    ∀ current ∈ s.notifications.find? notification.notificationId,
      current.tenantId = notification.tenantId
  | _, .claimDueNotifications request =>
    (s.notifications.rows.filter (fun notification =>
      request.admits notification.tenantId && notification.waiting)).length ≤ request.limit
  | _, .completeNotificationDelivery notification attempt claimId =>
    ∀ current ∈ s.notifications.find? notification.notificationId,
      current.dispatchClaim.map DispatchClaim.claimId = some claimId →
        current.tenantId = notification.tenantId ∧
          ∀ bucket ∈ s.notificationAttempts.rows, ∀ a ∈ bucket.items,
            a.attemptId ≠ attempt.attemptId
  | _, .recordNotificationAttempt attempt =>
    ∀ bucket ∈ s.notificationAttempts.rows, ∀ a ∈ bucket.items, a.attemptId ≠ attempt.attemptId
  | _, .saveChangeRecord record => s.changeRecords.find? record.changeId = none
  | _, .saveProviderOnboarding record =>
    s.providerOnboardingRecords.find? record.providerOnboardingId = none
  | _, .saveRuntimeControlChange record =>
    ∀ r ∈ s.runtimeControlChanges, r.controlChangeId ≠ record.controlChangeId
  | _, .savePlatformControlChange record =>
    ∀ r ∈ s.platformControlChanges, r.controlChangeId ≠ record.controlChangeId
  | _, .saveOriginalUpload record =>
    ∀ current ∈ s.originalUploads.find? record.originalUploadId, current.tenantId = record.tenantId
  | _, .saveLegalHold hold =>
    ∀ current ∈ s.legalHolds.find? hold.legalHoldId, current.tenantId = hold.tenantId
  | _, .activeLegalHoldsForTraveler tenantId _ _ =>
    ∀ a ∈ s.legalHolds.rows.filter (fun hold => hold.tenantId = tenantId),
      ∀ b ∈ s.legalHolds.rows.filter (fun hold => hold.tenantId = tenantId),
        a.legalHoldId.str ≤ b.legalHoldId.str → a.createdAt ≤ b.createdAt
  | _, .saveDeletionRequest request =>
    ∀ current ∈ s.deletionRequests.find? request.deletionRequestId,
      current.tenantId = request.tenantId ∧ current.travelerId = request.travelerId
  | _, .listPendingDeletionRequests =>
    ∀ a ∈ s.deletionRequests.rows.filter DeletionRequest.pending,
      ∀ b ∈ s.deletionRequests.rows.filter DeletionRequest.pending,
        a.deletionRequestId.str ≤ b.deletionRequestId.str → a.submittedAt ≤ b.submittedAt
  | _, .eraseTravelerData _ _ scope => scope = .preferenceMemory
  | _, .purgeExpired _ => False
  | _, _ => True

instance RepoOp.decidableAlike (s : InMemoryRepository Response) {α : Type} (op : RepoOp α) :
    Decidable (op.Alike s) := by
  cases op <;> (dsimp only [RepoOp.Alike]; infer_instance)

/-- The rows of a query without ORDER BY come as they were first inserted, or their order does not
matter to what is made of them. -/
def RepoOp.Ordered (order : RowOrder) (now : Time) (fresh : ℕ → Uuid)
    (s : InMemoryRepository Response) : {α : Type} → RepoOp α → Prop
  | _, .listTrips => order.Keeps now fresh s.listTrips.length
  | _, .getEvidence tenantId tripId => order.Keeps now fresh (s.getEvidence tenantId tripId).length
  | _, .listApprovedPlaybooks tenantId =>
    let rows := s.tenantPlaybooks.rows.filter (fun playbook => playbook.tenantId = tenantId)
    PostgresRepository.sortedPlaybooks (order.arrange now fresh rows) =
      PostgresRepository.sortedPlaybooks rows
  | _, .claimDueActionDispatches request =>
    order.Keeps now fresh (s.actionDispatches.rows.filter (fun action =>
      request.admits action.tenantId && action.waiting)).length
  | _, .claimDueNotifications request =>
    order.Keeps now fresh (s.notifications.rows.filter (fun notification =>
      request.admits notification.tenantId && notification.waiting)).length
  | _, _ => True

instance RepoOp.decidableOrdered (order : RowOrder) (now : Time) (fresh : ℕ → Uuid)
    (s : InMemoryRepository Response) {α : Type} (op : RepoOp α) :
    Decidable (op.Ordered order now fresh s) := by
  cases op <;> (dsimp only [RepoOp.Ordered]; infer_instance)

/-- A call that the repository in memory and the one on the database answer alike. -/
structure RepoOp.Fits (order : RowOrder) (now : Time) (fresh : ℕ → Uuid)
    (s : InMemoryRepository Response) {α : Type} (op : RepoOp α) : Prop where
  narrow : op.Narrow
  kept : op.Kept
  ordered : op.Ordered order now fresh s
  alike : op.Alike s

instance RepoOp.decidableFits (order : RowOrder) (now : Time) (fresh : ℕ → Uuid)
    (s : InMemoryRepository Response) {α : Type} (op : RepoOp α) :
    Decidable (op.Fits order now fresh s) :=
  decidable_of_iff (op.Narrow ∧ op.Kept ∧ op.Ordered order now fresh s ∧ op.Alike s)
    ⟨fun h => ⟨h.1, h.2.1, h.2.2.1, h.2.2.2⟩, fun h => ⟨h.narrow, h.kept, h.ordered, h.alike⟩⟩

variable {m m' : InMemoryRepository Response} {p : PostgresRepository Response}

/-- A write that PostgreSQL takes. -/
theorem Mirrored.committed {x : Except Fault (PostgresRepository Response)}
    (h : ∃ p', x = .ok p' ∧ Mirrored m' p') :
    (committed p x).1 = .ok () ∧ Mirrored m' (RouteShield.committed p x).2 := by
  obtain ⟨p', rfl, hmirrored⟩ := h
  exact ⟨rfl, hmirrored⟩

/-- A write that both repositories take. -/
theorem Mirrored.committed_both {x : Except Fault (InMemoryRepository Response)}
    {y : Except Fault (PostgresRepository Response)}
    (h : ∃ m' p', x = .ok m' ∧ y = .ok p' ∧ Mirrored m' p') :
    (RouteShield.committed p y).1 = (RouteShield.committed m x).1 ∧
      Mirrored (RouteShield.committed m x).2 (RouteShield.committed p y).2 := by
  obtain ⟨m', p', rfl, rfl, hmirrored⟩ := h
  exact ⟨rfl, hmirrored⟩

/-- One call, on repositories that hold the same records. -/
theorem Mirrored.exec (h : Mirrored m p) {α : Type} (op : RepoOp α) (hfits : op.Alike m)
    (now : Time) (fresh : ℕ → Uuid) :
    (Backend.postgres.exec op now fresh p).1 = (Backend.memory.exec op now fresh m).1 ∧
      Mirrored (Backend.memory.exec op now fresh m).2 (Backend.postgres.exec op now fresh p).2 := by
  cases op with
  | createTrip trip => exact Mirrored.committed (h.createTrip hfits.1 hfits.2.1 hfits.2.2)
  | saveTrip trip => exact Mirrored.committed (h.saveTrip hfits.1 hfits.2.1 hfits.2.2)
  | getTrip tenantId tripId => exact ⟨congrArg Except.ok (h.getTrip_eq _ _), h⟩
  | listTrips => exact ⟨congrArg Except.ok h.listTrips_eq, h⟩
  | saveEvidence tenantId tripId evidence =>
    exact Mirrored.committed_both (h.saveEvidence hfits.1 hfits.2.1 hfits.2.2)
  | getEvidence tenantId tripId => exact ⟨congrArg Except.ok (h.getEvidence_eq _ _), h⟩
  | saveAssessment tenantId assessment =>
    exact Mirrored.committed_both (h.saveAssessment hfits.1 hfits.2)
  | saveIncident incident =>
    exact ⟨rfl, { h with incidents := h.incidents.upsertPayload hfits }⟩
  | getIncident tenantId incidentId =>
    exact ⟨congrArg Except.ok (h.incidents.payload?_eq _ _), h⟩
  | saveApproval approval =>
    exact ⟨rfl, { h with approvals := congrArg (Table.put · approval) h.approvals }⟩
  | saveCandidateSet tenantId candidateSet =>
    exact Mirrored.committed (h.saveCandidateSet hfits)
  | getCandidateSet tenantId incidentId candidateSetId =>
    exact ⟨congrArg Except.ok (h.getCandidateSet_eq _ _ _), h⟩
  | recordCandidateOutcome tenantId outcome =>
    exact Mirrored.committed (h.recordCandidateOutcome hfits)
  | listCandidateOutcomes tenantId candidateSetId =>
    exact ⟨congrArg Except.ok (h.listCandidateOutcomes_eq _ _), h⟩
  | saveManagerFeedback feedback => exact Mirrored.committed (h.saveManagerFeedback hfits)
  | saveActionDispatch action => exact ⟨rfl, h.putActionDispatch hfits⟩
  | claimDueActionDispatches request =>
    exact ⟨congrArg Except.ok (h.claimDueActionDispatches now fresh hfits).1,
      (h.claimDueActionDispatches now fresh hfits).2⟩
  | completeActionDispatch action attempt claimId => exact h.completeActionDispatch hfits
  | recordActionDispatchAttempt attempt =>
    exact Mirrored.committed (h.recordActionDispatchAttempt hfits)
  | claimIdempotency claim => exact h.claimIdempotency now hfits
  | completeIdempotency completion => exact h.completeIdempotency now hfits.1 hfits.2
  | recordEvent event => exact Mirrored.committed (h.recordEvent hfits)
  | recordMemoryAudit event => exact Mirrored.committed (h.recordMemoryAudit hfits)
  | getProfile tenantId travelerId =>
    exact ⟨congrArg Except.ok (congrArg (Table.find? · (tenantId, travelerId)) h.profiles), h⟩
  | saveProfile profile =>
    exact ⟨rfl, { h with profiles := congrArg (Table.put · profile) h.profiles }⟩
  | saveMemoryProposal proposal =>
    exact ⟨rfl, { h with memoryProposals := h.memoryProposals.upsertPayload hfits }⟩
  | getMemoryProposal tenantId proposalId =>
    exact ⟨congrArg Except.ok (h.memoryProposals.payload?_eq _ _), h⟩
  | deleteTravelerMemory tenantId travelerId =>
    exact ⟨congrArg Except.ok (h.deleteTravelerMemory tenantId travelerId).1,
      (h.deleteTravelerMemory tenantId travelerId).2⟩
  | getPlaybook tenantId playbookId => exact ⟨congrArg Except.ok (h.getPlaybook_eq _ _), h⟩
  | savePlaybook playbook =>
    exact ⟨congrArg Except.ok (h.savePlaybook playbook).1, (h.savePlaybook playbook).2⟩
  | listApprovedPlaybooks tenantId =>
    exact ⟨congrArg Except.ok (h.listApprovedPlaybooks_eq tenantId), h⟩
  | saveNotification notification =>
    exact ⟨rfl, { h with notifications := h.notifications.upsertPayload hfits }⟩
  | getNotification tenantId notificationId =>
    exact ⟨congrArg Except.ok (h.notifications.payload?_eq _ _), h⟩
  | claimDueNotifications request =>
    exact ⟨congrArg Except.ok (h.claimDueNotifications now fresh hfits).1,
      (h.claimDueNotifications now fresh hfits).2⟩
  | completeNotificationDelivery notification attempt claimId =>
    exact h.completeNotificationDelivery hfits
  | recordNotificationAttempt attempt =>
    exact Mirrored.committed (h.recordNotificationAttempt hfits)
  | saveChangeRecord record => exact Mirrored.committed (h.saveChangeRecord hfits)
  | saveProviderOnboarding record => exact Mirrored.committed (h.saveProviderOnboarding hfits)
  | getRuntimeControlOverride tenantId controlName =>
    exact ⟨congrArg Except.ok (h.getRuntimeControlOverride_eq _ _ _), h⟩
  | saveRuntimeControlChange record =>
    exact Mirrored.committed (h.saveRuntimeControlChange hfits)
  | getPlatformControlOverride controlName =>
    exact ⟨congrArg Except.ok (h.getPlatformControlOverride_eq _ _), h⟩
  | savePlatformControlChange record =>
    exact Mirrored.committed (h.savePlatformControlChange hfits)
  | saveOriginalUpload record =>
    exact ⟨rfl, { h with originalUploads := h.originalUploads.upsertPayload hfits }⟩
  | saveLegalHold hold =>
    exact ⟨rfl, { h with legalHolds := h.legalHolds.upsertPayload hfits }⟩
  | getLegalHold tenantId legalHoldId =>
    exact ⟨congrArg Except.ok (h.legalHolds.payload?_eq _ _), h⟩
  | activeLegalHoldsForTraveler tenantId travelerId timestamp =>
    exact ⟨congrArg Except.ok (h.activeLegalHoldsForTraveler_eq hfits _ _), h⟩
  | saveDeletionRequest request => exact ⟨rfl, h.saveDeletionRequest hfits⟩
  | listPendingDeletionRequests =>
    exact ⟨congrArg Except.ok (h.listPendingDeletionRequests_eq hfits), h⟩
  | eraseTravelerData tenantId travelerId scope =>
    exact ⟨congrArg Except.ok (h.erasePreferenceMemory hfits).1, (h.erasePreferenceMemory hfits).2⟩
  | purgeExpired cutoffs => exact hfits.elim

/-- On the database the same, where its order does not show and its columns are wide enough. -/
theorem Mirrored.query (h : Mirrored m p) {order : RowOrder} {now : Time} {fresh : ℕ → Uuid}
    {α : Type} (op : RepoOp α) (hordered : op.Ordered order now fresh m) :
    order.query op now fresh p = Backend.postgres.exec op now fresh p := by
  cases op with
  | listTrips =>
    show (Except.ok (order.arrange now fresh p.listTrips), p) = _
    rw [RowOrder.arrange_of_keeps (h.listTrips_eq.symm ▸ hordered)]
    rfl
  | getEvidence tenantId tripId =>
    show (Except.ok (order.arrange now fresh (p.getEvidence tenantId tripId)), p) = _
    rw [RowOrder.arrange_of_keeps ((h.getEvidence_eq tenantId tripId).symm ▸ hordered)]
    rfl
  | listApprovedPlaybooks tenantId =>
    have hrows : p.playbooksOf tenantId = m.tenantPlaybooks.rows.filter (fun playbook =>
        playbook.tenantId = tenantId) := by
      unfold PostgresRepository.playbooksOf
      rw [h.tenantPlaybooks]
    show (Except.ok (PostgresRepository.sortedPlaybooks (order.arrange now fresh
      (p.playbooksOf tenantId))), p) = (.ok (PostgresRepository.sortedPlaybooks
        (p.playbooksOf tenantId)), p)
    rw [hrows]
    exact congrArg (fun sorted => (Except.ok sorted, p)) hordered
  | claimDueActionDispatches request =>
    have hrows : (p.waitingActionDispatches request).length = (m.actionDispatches.rows.filter
        (fun action => request.admits action.tenantId && action.waiting)).length :=
      (congrArg List.length (h.actionDispatches.rows_filter fun _ => rfl)).trans (List.length_map _)
    show answered (p.leaseActionDispatches (order.arrange now fresh
      (p.waitingActionDispatches request)) request now fresh) = _
    rw [RowOrder.arrange_of_keeps (hrows ▸ hordered)]
    rfl
  | claimDueNotifications request =>
    have hrows : (p.waitingNotifications request).length = (m.notifications.rows.filter
        (fun notification => request.admits notification.tenantId && notification.waiting)).length :=
      (congrArg List.length (h.notifications.rows_filter fun _ => rfl)).trans (List.length_map _)
    show answered (p.leaseNotifications (order.arrange now fresh
      (p.waitingNotifications request)) request now fresh) = _
    rw [RowOrder.arrange_of_keeps (hrows ▸ hordered)]
    rfl
  | _ => rfl

/-! ### The service on either backend -/

variable {order : RowOrder} {db : Database}

/-- The same records, at the same tick, with the same messages sent. -/
structure World.Mirrored (w : World .memory) (v : World (.database db)) : Prop where
  store : RouteShield.Mirrored w.store v.store
  tick : v.tick = w.tick
  sent : v.sent = w.sent
  notified : v.notified = w.notified

/-- A call on the repository fits it. -/
def Effect.Fits (order : RowOrder) (env : Env) {α : Type} (w : World .memory) (effect : Effect α) :
    Prop :=
  match effect with
  | .repo op => op.Fits order (env.clock w.tick) (drawn w.tick) w.store
  | _ => True

instance (env : Env) {α : Type} (w : World .memory) (effect : Effect α) :
    Decidable (effect.Fits order env w) :=
  match effect with
  | .repo op => RepoOp.decidableFits order (env.clock w.tick) (drawn w.tick) w.store op
  | .now | .uuid4 | .collectEvidence .. | .invokeGraph _ | .resumeGraph .. | .putUpload ..
  | .sendNotification _ | .sendAction _ => .isTrue trivial

/-- Effects that fit are answered alike on both backends. -/
theorem lockstep_backends (env : Env) :
    Lockstep (env.exec (b := .memory)) (env.exec (b := .database db)) (Effect.Fits db.order env)
      World.Mirrored := by
  intro γ effect w v h hfits
  obtain ⟨m, tick, sent, notified⟩ := w
  obtain ⟨p, tick', sent', notified'⟩ := v
  obtain ⟨hstore, rfl, rfl, rfl⟩ := h
  cases effect with
  | repo op =>
    obtain ⟨hnarrow, hkept, hordered, halike⟩ := hfits
    have hdatabase : (Backend.database db).exec op (env.clock tick') (drawn tick') p =
        Backend.postgres.exec op (env.clock tick') (drawn tick') p :=
      (if_pos hnarrow).trans ((if_pos hkept).trans (Mirrored.query hstore op hordered))
    obtain ⟨hanswer, hstore'⟩ := Mirrored.exec hstore op halike (env.clock tick') (drawn tick')
    refine ⟨(congrArg Prod.fst hdatabase).trans hanswer, ?_, rfl, rfl, rfl⟩
    show RouteShield.Mirrored (Backend.memory.exec op (env.clock tick') (drawn tick') m).2
      ((Backend.database db).exec op (env.clock tick') (drawn tick') p).2
    rw [hdatabase]
    exact hstore'
  | _ => exact ⟨rfl, hstore, rfl, rfl, rfl⟩

/-- In every run of requests and jobs side by side whose repository calls all fit, every one of
them is at the same point on both backends, with the same answers, the same messages have been
sent, and both repositories hold the same records, whatever the database is. -/
theorem backends_agree (svc : Service) (env : Env) (db : Database) {w : World .memory}
    {v : World (.database db)} (h : w.Mirrored v) (events : List (PoolEvent Request))
    (hfits : Meets (Pool.apply env.exec (Api.handle svc))
      (fun pool e => pool.Fitting (Effect.Fits db.order env) e) ⟨w, []⟩ events) :
    (runFrom (Pool.apply env.exec (Api.handle svc)) ⟨v, []⟩ events).threads =
        (runFrom (Pool.apply env.exec (Api.handle svc)) ⟨w, []⟩ events).threads ∧
      (runFrom (Pool.apply env.exec (Api.handle svc)) ⟨w, []⟩ events).state.Mirrored
        (runFrom (Pool.apply env.exec (Api.handle svc)) ⟨v, []⟩ events).state := by
  have hstart : (⟨w, []⟩ : Pool Effect Fault (World .memory)).InStep World.Mirrored
      (⟨v, []⟩ : Pool Effect Fault (World (.database db))) := ⟨rfl, h⟩
  obtain ⟨hthreads, hstate⟩ := hstart.runFrom (lockstep_backends env) hfits
  exact ⟨hthreads, hstate⟩

/-- A database that returns the last inserted row first, and stores any number. -/
def Database.lastFirst : Database where
  order _ _ _ := Fin.revPerm
  unkept := Backend.postgres.exec

/-- A database that has not served anything. -/
def World.empty : World (.database .lastFirst) where
  store := ({} : PostgresRepository Response)

theorem mirrored_fresh : World.fresh.Mirrored World.empty := ⟨.empty, rfl, rfl, rfl⟩

def keyedCaller (key : String) : Caller where
  tenantId := some "acme"
  actorRole := some .tenantAdmin
  actorId := some "root"
  idempotencyKey := some key

/-- A trip is booked, its traveler is put on hold and asks for erasure, call by call in turn, and
the erasures are processed, after which the trip's windows are looked for. -/
def bookedAndHeld : List (PoolEvent Request) :=
  [.spawn (.createTrip (keyedCaller "k1")
      { tenantId := "acme", travelerId := "eve", groundOrigin := "Oslo", destinationCountry := "SE"
        segments := [{ segmentId := "s1", carrierCode := "RS", flightNumber := "1",
                       departureAirport := "OSL", arrivalAirport := "ARN",
                       scheduledDepartureAt := minutes 120, scheduledArrivalAt := minutes 180 }] }),
    .spawn (.createLegalHold (keyedCaller "k2")
      { tenantId := "acme", scope := .traveler, reason := "audit", createdBy := "root"
        travelerId := some "eve" }),
    .spawn (.createDeletionRequest (keyedCaller "k3")
      { tenantId := "acme", travelerId := "eve", requestedBy := "root", reason := "gone" }),
    .spawn .processPrivacyDeletionRequests, .spawn .processDueAssessments] ++
  (List.replicate 14 [.step 0, .step 1, .step 2]).flatten ++ List.replicate 14 (.step 3) ++
    List.replicate 4 (.step 4)

theorem backends_agree_bookedAndHeld :
    (runFrom (Pool.apply Env.still.exec (Api.handle .plain)) ⟨World.fresh, []⟩
      bookedAndHeld).state.Mirrored
        (runFrom (Pool.apply Env.still.exec (Api.handle .plain)) ⟨World.empty, []⟩
          bookedAndHeld).state :=
  (backends_agree .plain .still .lastFirst mirrored_fresh bookedAndHeld (by decide +kernel)).2

end RouteShield
