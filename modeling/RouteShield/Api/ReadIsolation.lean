import RouteShield.Api.Checks
import RouteShield.Api.Reads

/-!
What the answer to a read depends on. A read for a tenant looks at the tenant's records and at the
platform's alone, and changes nothing. A traveler's read looks at less: of an incident it shows
what its traveler may see, and beyond trips, profiles, notifications, deletion requests and
control overrides it depends on no other record.
-/

namespace RouteShield

open Api (lift query)
open Prog (Only CallFree Alike Outcomes only_bind only_pure only_perform)

variable {svc : Service} {env : Env} {caller : Caller} {tenantId : String} {α β : Type}

/-- The tenant that a caller names. -/
def Caller.tenant (caller : Caller) : String := caller.tenantId.getD ""

/-! ### The calls of a read -/

/-- The calls of a read for a tenant. -/
inductive ReadsOf (tenantId : String) : {α : Type} → ReadEffect α → Prop where
  | query {α : Type} (q : TenantQuery α) : ReadsOf tenantId (.query tenantId q)
  | platformControlChanges : ReadsOf tenantId .platformControlChanges
  | getTrip (tripId : Uuid) : ReadsOf tenantId (.effect (.repo (.getTrip tenantId tripId)))
  | getIncident (incidentId : Uuid) :
      ReadsOf tenantId (.effect (.repo (.getIncident tenantId incidentId)))
  | controlOverride (controlName : RuntimeControlName) :
      ReadsOf tenantId (.effect (.repo (.getRuntimeControlOverride tenantId controlName)))
  | platformOverride (controlName : RuntimeControlName) :
      ReadsOf tenantId (.effect (.repo (.getPlatformControlOverride controlName)))

section Calls

variable {P : ∀ {γ : Type}, ReadEffect γ → Prop}

theorem only_lift {p : Api α} (hp : p.Only fun e => P (.effect e)) : (lift p).Only P := by
  induction p with
  | pure a => trivial
  | throw e => trivial
  | call e next ih => exact ⟨hp.1, fun r => ih r (hp.2 r)⟩

theorem only_check {p : Api α} {f : α → Read β} (hp : p.CallFree) (hf : ∀ a, (f a).Only P) :
    (lift p >>= f).Only P := only_bind (only_lift hp.only) hf

theorem only_query {q : TenantQuery α} {f : α → Read β} (hq : P (.query tenantId q))
    (hf : ∀ a, (f a).Only P) : (query tenantId q >>= f).Only P := only_bind (only_perform hq) hf

/-- After the check of the tenant, the reads are of the tenant that the caller names. -/
theorem only_tenant {f : String → Read β} (hf : (f caller.tenant).Only P) :
    (lift (Api.requireTenant caller.tenantId) >>= f).Only P := by
  obtain ⟨r, hr⟩ := Api.callFree_requireTenant caller.tenantId
  rw [hr]
  cases r with
  | error fault => trivial
  | ok tenant =>
    have htenant : caller.tenant = tenant := by
      rw [Caller.tenant, (Api.requireTenant_eq_pure hr).1]
      rfl
    rw [htenant] at hf
    exact hf

theorem only_memoryReads {f : Unit → Read β}
    (hoverride : ∀ name, P (.effect (.repo (.getRuntimeControlOverride tenantId name))))
    (hplatform : ∀ name, P (.effect (.repo (.getPlatformControlOverride name))))
    (hf : ∀ u, (f u).Only P) :
    (lift (Api.requireMemoryReadsEnabled svc tenantId) >>= f).Only P := by
  refine only_bind (only_lift (only_bind ?_ fun _ => (Api.callFree_require _ _ _).only)) hf
  refine only_bind (only_perform (hoverride _)) fun override => ?_
  cases override with
  | some override => exact only_pure _
  | none =>
    refine only_bind (only_perform (hplatform _)) fun platform => ?_
    cases platform <;> exact only_pure _

theorem only_alternativesForTrip {tripId : Uuid} {alternatives : List RecoveryCandidate}
    (htrip : ∀ id, P (.effect (.repo (.getTrip caller.tenant id)))) :
    (lift (Api.alternativesForTrip svc alternatives caller tripId)).Only P := by
  rw [Api.alternativesForTrip, lift_bind]
  refine only_tenant (only_lift (only_bind (only_perform (htrip _)) fun _ => ?_))
  refine only_bind (Api.callFree_found _ _ _).only fun _ => ?_
  refine only_bind (Api.callFree_requireTripAccess _ _ _).only fun _ => ?_
  exact only_bind (CallFree.only ⟨_, rfl⟩) fun _ => only_pure _

theorem only_accessed {incidentId : Uuid} {allowed : List UserRole} {f : Incident × Trip → Read β}
    (hf : ∀ a, (f a).Only (ReadsOf tenantId)) :
    (lift (Api.requireIncidentTripAccess svc tenantId incidentId caller allowed) >>= f).Only
      (ReadsOf tenantId) :=
  only_bind (only_lift (Api.only_requireIncidentTripAccess (.getIncident _) .getTrip)) hf

theorem only_collect {xs : List α} {round : α → Read (Option β)}
    (h : ∀ x, (round x).Only (ReadsOf tenantId)) : (Api.collect xs round).Only (ReadsOf tenantId) :=
  only_bind (Prog.only_mapM h) fun _ => only_pure _

theorem only_assignedTo {tripId : Uuid} {actorId : Option String} :
    (Api.assignedTo tenantId tripId actorId).Only (ReadsOf tenantId) :=
  only_query (.query _) fun trip => by cases trip <;> exact only_pure _

theorem only_listOfIncident {allowed : List UserRole} {of : Uuid → TenantQuery (List α)}
    {incidentId : Uuid} :
    (Api.listOfIncident svc allowed of caller incidentId).Only (ReadsOf caller.tenant) :=
  only_check (Api.callFree_requireRole _ _) fun _ => only_tenant <|
    only_accessed fun _ => only_perform (.query _)

theorem only_listRegister {allowed : List UserRole} {register : TenantQuery (List α)} :
    (Api.listRegister allowed register caller).Only (ReadsOf caller.tenant) :=
  only_check (Api.callFree_requireRole _ _) fun _ => only_tenant <| only_perform (.query _)

theorem only_getTrip {tripId : Uuid} :
    (Api.getTrip svc caller tripId).Only (ReadsOf caller.tenant) :=
  only_tenant <| only_query (.query _) fun _ => only_check (Api.callFree_found _ _ _) fun _ =>
    only_check (Api.callFree_requireTripAccess _ _ _) fun _ => only_pure _

theorem only_runEvents {runId : String} {limit : PageLimit} :
    (Api.runEvents svc caller runId limit).Only (ReadsOf caller.tenant) := by
  refine only_check (Api.callFree_requireRole _ _) fun _ => only_tenant ?_
  refine only_check (Api.callFree_requireActorId _) fun _ => ?_
  refine only_query (.query _) fun incidents => ?_
  split
  · exact only_pure _
  refine only_query (.query _) fun trip => ?_
  split
  · exact only_pure _
  refine only_check (Api.callFree_requireTripAccess _ _ _) fun _ => ?_
  exact only_check (Api.callFree_require _ _ _) fun _ => only_query (.query _) fun _ => only_pure _

theorem only_scopedIncidents {incidents : List Incident} :
    (Api.scopedIncidents caller tenantId incidents).Only (ReadsOf tenantId) := by
  unfold Api.scopedIncidents
  split
  · refine only_collect fun incident => only_bind only_assignedTo fun assigned => ?_
    cases assigned <;> exact only_pure _
  · exact only_pure _

theorem only_scopedNotification {actorId : Option String} {notification : NotificationRecord} :
    (Api.scopedNotification tenantId actorId notification).Only (ReadsOf tenantId) := by
  unfold Api.scopedNotification
  split
  · exact only_pure _
  refine only_query (.query _) fun incident => ?_
  cases incident with
  | none => exact only_pure _
  | some incident =>
    refine only_bind only_assignedTo fun assigned => ?_
    cases assigned <;> exact only_pure _

theorem only_listNotifications {status : Option NotificationStatus} :
    (Api.listNotifications svc caller status).Only (ReadsOf caller.tenant) := by
  refine only_check (Api.callFree_requireRole _ _) fun _ => ?_
  refine only_check (Api.callFree_requireActorId _) fun actorId => only_tenant ?_
  refine only_query (.query _) fun notifications => ?_
  split
  · exact only_pure _
  split
  · exact only_collect fun _ => only_scopedNotification
  · exact only_pure _

theorem only_notificationAttemptHistory {notificationId : Uuid} :
    (Api.notificationAttemptHistory svc caller notificationId).Only (ReadsOf caller.tenant) := by
  refine only_check (Api.callFree_requireRole _ _) fun _ => only_tenant ?_
  refine only_query (.query _) fun _ => ?_
  refine only_check (Api.callFree_found _ _ _) fun notification => ?_
  refine only_bind (only_lift ?_) fun _ => only_perform (.query _)
  unfold Api.requireAttemptAccess
  split
  · split
    · exact (Api.callFree_http _ _).only
    · exact only_bind (Api.only_requireIncidentTripAccess (.getIncident _) .getTrip) fun _ =>
        only_pure _
  · exact only_pure _

/-- Whatever a caller asks, the calls are of the tenant that the caller names. -/
theorem only_answer (svc : Service) (caller : Caller) (inquiry : Inquiry α) :
    (Api.answer svc caller inquiry).Only (ReadsOf caller.tenant) := by
  cases inquiry with
  | getTrip tripId => exact only_getTrip
  | alternativesForTrip tripId => exact only_alternativesForTrip .getTrip
  | runEvents runId limit => exact only_runEvents
  | listIncidents limit offset =>
    refine only_check (Api.callFree_requireRole _ _) fun _ => only_tenant ?_
    refine only_check (Api.callFree_requireActorId _) fun _ => only_query (.query _) fun _ => ?_
    exact only_bind only_scopedIncidents fun _ => only_pure _
  | getIncident incidentId =>
    refine only_check (Api.callFree_requireRole _ _) fun _ => only_tenant ?_
    refine only_query (.query _) fun _ => ?_
    refine only_check (Api.callFree_found _ _ _) fun _ => only_query (.query _) fun _ => ?_
    refine only_check (Api.callFree_found _ _ _) fun _ => ?_
    refine only_check (Api.callFree_requireTripAccess _ _ _) fun _ => ?_
    exact only_check (Api.callFree_require _ _ _) fun _ => only_pure _
  | listTravelerIncidents travelerId =>
    refine only_check (Api.callFree_requireRole _ _) fun _ => ?_
    refine only_check (Api.callFree_requireActorId _) fun _ => ?_
    refine only_check (Api.callFree_require _ _ _) fun _ => only_tenant ?_
    refine only_query (.query _) fun _ => ?_
    refine only_collect fun _ => only_query (.query _) fun trip => ?_
    cases trip <;> exact only_pure _
  | listManagerFeedback incidentId => exact only_listOfIncident
  | listIncidentActionDispatches incidentId => exact only_listOfIncident
  | listCandidateSets incidentId =>
    refine only_check (Api.callFree_requireRole _ _) fun _ => only_tenant ?_
    refine only_accessed fun _ => only_query (.query _) fun _ => ?_
    exact Prog.only_mapM fun _ => only_query (.query _) fun _ => only_pure _
  | getPreferences travelerId =>
    refine only_tenant <| only_memoryReads .controlOverride .platformOverride fun _ => ?_
    refine only_check (Api.callFree_requireRole _ _) fun _ => ?_
    refine only_check (Api.callFree_requireActorId _) fun _ => ?_
    exact only_check (Api.callFree_require _ _ _) fun _ => only_perform (.query _)
  | listMemoryAudit travelerId =>
    refine only_tenant <| only_memoryReads .controlOverride .platformOverride fun _ => ?_
    exact only_check (Api.callFree_requireRole _ _) fun _ => only_perform (.query _)
  | listDeletionRequests =>
    refine only_check (Api.callFree_requireRole _ _) fun _ => only_tenant ?_
    exact only_check (Api.callFree_requireActorId _) fun _ => only_perform (.query _)
  | previewIncidentNotification incidentId channel =>
    refine only_tenant <| only_query (.query _) fun _ => ?_
    refine only_check (Api.callFree_found _ _ _) fun _ => only_query (.query _) fun _ => ?_
    refine only_check (Api.callFree_found _ _ _) fun _ => ?_
    refine only_check (Api.callFree_requireTripAccess _ _ _) fun _ => ?_
    exact only_check (Api.callFree_validate _ _) fun _ => only_pure _
  | listNotifications status => exact only_listNotifications
  | notificationAttemptHistory notificationId => exact only_notificationAttemptHistory
  | listLegalHolds => exact only_listRegister
  | listChangeRecords => exact only_listRegister
  | listRuntimeControlChanges => exact only_listRegister
  | listTenantPlaybooks => exact only_listRegister
  | listProviderOnboarding => exact only_listRegister
  | listPlatformRuntimeControls =>
    exact only_check (Api.callFree_requireRole _ _) fun _ => only_perform .platformControlChanges

end Calls

/-! ### A tenant's reads -/

/-- Two worlds that agree on a tenant's records and on the platform's. -/
structure World.AgreeOn (tenantId : String) (w w' : World .memory) : Prop where
  tick : w.tick = w'.tick
  store : InMemoryRepository.AgreeOn tenantId w.store w'.store
  overrides : InMemoryRepository.platformControlOverrides w.store =
    InMemoryRepository.platformControlOverrides w'.store
  changes : InMemoryRepository.platformControlChanges w.store =
    InMemoryRepository.platformControlChanges w'.store

variable {w w' : World .memory}

/-- A call of a read changes nothing but the tick. -/
theorem ReadsOf.read_snd {op : ReadEffect α} (h : ReadsOf tenantId op) (w : World .memory) :
    (env.read op w).2 = { w with tick := w.tick + 1 } := by
  cases h <;> rfl

theorem ReadsOf.read_fst {op : ReadEffect α} (h : ReadsOf tenantId op)
    (hw : w.AgreeOn tenantId w') : (env.read op w).1 = (env.read op w').1 := by
  cases h with
  | query q => exact congrArg Except.ok (hw.store.answer_eq q)
  | platformControlChanges => exact congrArg Except.ok hw.changes
  | getTrip tripId => exact congrArg Except.ok (hw.store.answer_eq (.getTrip tripId))
  | getIncident incidentId =>
    exact congrArg Except.ok (hw.store.answer_eq (.getIncident incidentId))
  | controlOverride controlName =>
    have hoverride := hw.store.answer_eq (.getRuntimeControlOverride controlName (env.clock w.tick))
    show Except.ok _ = Except.ok _
    rw [← hw.tick]
    exact congrArg Except.ok hoverride
  | platformOverride controlName =>
    show Except.ok (((InMemoryRepository.platformControlOverrides w.store).find? controlName).filter
      fun record => record.toRuntimeControlUpdate.current (env.clock w.tick)) =
      Except.ok (((InMemoryRepository.platformControlOverrides w'.store).find? controlName).filter
        fun record => record.toRuntimeControlUpdate.current (env.clock w'.tick))
    rw [hw.overrides, hw.tick]

/-- What a read answers is decided by the tenant's records and the platform's. -/
theorem answer_alike (inquiry : Inquiry α) :
    Alike env.read (World.AgreeOn caller.tenant) Eq (Api.answer svc caller inquiry)
      (Api.answer svc caller inquiry) := by
  refine (only_answer svc caller inquiry).alike fun op hop v v' hv => ⟨hop.read_fst hv, ?_⟩
  rw [hop.read_snd, hop.read_snd]
  exact { hv with tick := congrArg (· + 1) hv.tick }

/-- A read leaves the store and hands nothing to a sender. -/
theorem answer_leaves (inquiry : Inquiry α) (w : World .memory) :
    ∃ tick, ((Api.answer svc caller inquiry).run env.read w).2 = { w with tick } := by
  refine Only.run (R := fun v v' : World .memory => ∃ tick, v' = { v with tick })
    (fun v => ⟨v.tick, rfl⟩) ?_ ?_ (only_answer svc caller inquiry) w
  · rintro u v v' ⟨_, rfl⟩ ⟨tick, rfl⟩
    exact ⟨tick, rfl⟩
  · exact fun op v hop => ⟨_, hop.read_snd v⟩

/-- A read leaves the store and hands nothing to a sender, and what it answers is decided by the
tenant's records and the platform's. -/
theorem reads_isolated (hw : w.AgreeOn caller.tenant w') (inquiry : Inquiry α) :
    ((Api.answer svc caller inquiry).run env.read w).1 =
        ((Api.answer svc caller inquiry).run env.read w').1 ∧
      ∃ tick, ((Api.answer svc caller inquiry).run env.read w).2 = { w with tick } := by
  constructor
  · exact (answer_alike inquiry w w' hw).1.eq
  · exact answer_leaves inquiry w

/-- An incident of another tenant. -/
def foreignIncident : Incident where
  incidentId := .v5 "incident"
  tenantId := "other"
  tripId := .v5 "trip"
  assessmentId := .v5 "assessment"
  severity := .critical
  correlationId := .v5 "correlation"
  createdAt := 0
  updatedAt := 0

theorem agreeOn_foreign : World.AgreeOn "acme"
    { store := InMemoryRepository.saveIncident {} foreignIncident }
    { store := ({} : InMemoryRepository Response) } where
  tick := rfl
  store :=
    { trips := rfl, evidence := by simp [InMemoryRepository.saveIncident]
      assessments := by simp [InMemoryRepository.saveIncident], incidents := by decide +kernel
      events := rfl, profiles := rfl, memoryProposals := rfl, candidateSets := rfl
      candidateOutcomes := rfl, managerFeedback := rfl, tenantPlaybooks := rfl
      notifications := rfl
      notificationAttempts := by simp [InMemoryRepository.saveIncident]
      actionDispatches := rfl
      actionDispatchAttempts := by simp [InMemoryRepository.saveIncident]
      memoryAudits := rfl, changeRecords := rfl, providerOnboardingRecords := rfl
      legalHolds := rfl, deletionRequests := rfl, runtimeControlOverrides := rfl
      runtimeControlChanges := rfl, originalUploads := rfl }
  overrides := rfl
  changes := rfl

/-- The run of another tenant's incident has no events to show. -/
theorem reads_isolated_foreign :
    ((Api.answer .plain { tenantId := some "acme", actorRole := some .dutyOfCare }
        (.runEvents "5-correlation" ⟨100, by decide⟩)).run Env.still.read
          { store := InMemoryRepository.saveIncident {} foreignIncident }).1 =
      ((Api.answer .plain { tenantId := some "acme", actorRole := some .dutyOfCare }
        (.runEvents "5-correlation" ⟨100, by decide⟩)).run Env.still.read
          { store := ({} : InMemoryRepository Response) }).1 := by
  have hagree : World.AgreeOn
      (Caller.tenant { tenantId := some "acme", actorRole := some .dutyOfCare }) _ _ :=
    agreeOn_foreign
  exact (reads_isolated hagree _).1

end RouteShield
