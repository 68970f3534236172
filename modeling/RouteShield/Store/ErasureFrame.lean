import RouteShield.Store.PurgeAgreement

/-!
What an erasure touches. Each record of a repository that an erasure can select has one owner, a
tenant and a traveler: a trip, a profile, a proposal and a notification by their own fields, an
incident by its tenant and its trip, and the rest by the trip, the incident, the notification or the
action that it is filed under. An erasure takes what its pair owns and leaves what any other pair
owns, and a second one finds nothing.
-/

namespace RouteShield

variable {β : Type}

/-! ### Owners -/

/-- What a repository holds, with the tenants that it files proposals and notifications under. -/
structure Holdings (β : Type) where
  contents : Contents β
  proposalTenant : MemoryUpdateProposal → Option String
  notificationTenant : NotificationRecord → Option String
  tripIds : ((contents .trip).map Trip.tripId).Nodup
  incidentIds : ((contents .incident).map Incident.incidentId).Nodup
  notificationIds : ((contents .notification).map NotificationRecord.notificationId).Nodup
  actionIds : ((contents .actionDispatch).map (fun a => a.2.actionDispatchId)).Nodup

namespace Holdings

variable (h h' : Holdings β) (tenantId travelerId : String)

def onTrip (tripId : Uuid) : Bool :=
  (h.contents .trip).any (fun trip => trip.tripId = tripId && trip.ownedBy tenantId travelerId)

def ownsIncident (incident : Incident) : Bool :=
  incident.tenantId = tenantId && h.onTrip tenantId travelerId incident.tripId

def onIncident (incidentId : Uuid) : Bool :=
  (h.contents .incident).any (fun incident =>
    incident.incidentId = incidentId && h.ownsIncident tenantId travelerId incident)

def ownsProposal (proposal : MemoryUpdateProposal) : Bool :=
  h.proposalTenant proposal = some tenantId && proposal.travelerId = travelerId

def ownsNotification (notification : NotificationRecord) : Bool :=
  h.notificationTenant notification = some tenantId && notification.travelerId = travelerId

def onNotification (notificationId : Uuid) : Bool :=
  (h.contents .notification).any (fun notification =>
    notification.notificationId = notificationId &&
      h.ownsNotification tenantId travelerId notification)

def onAction (actionId : Uuid) : Bool :=
  (h.contents .actionDispatch).any (fun action =>
    action.2.actionDispatchId = actionId && h.onIncident tenantId travelerId action.1)

/-- The record belongs to the traveler of the tenant. -/
def owns : (kind : Kind) → kind.Record β → Bool
  | .trip, trip => trip.ownedBy tenantId travelerId
  | .tripSegment, item => h.onTrip tenantId travelerId item.1
  | .evidence, item => h.onTrip tenantId travelerId item.1
  | .assessment, item => h.onTrip tenantId travelerId item.1
  | .incident, incident => h.ownsIncident tenantId travelerId incident
  | .approval, approval => h.onIncident tenantId travelerId approval.incidentId
  | .profile, profile => profile.tenantId = tenantId && profile.travelerId = travelerId
  | .memoryProposal, proposal => h.ownsProposal tenantId travelerId proposal
  | .candidateSet, item => h.onIncident tenantId travelerId item.2.incidentId
  | .candidateOutcome, item => h.onIncident tenantId travelerId item.2.incidentId
  | .managerFeedback, feedback => h.onIncident tenantId travelerId feedback.incidentId
  | .notification, notification => h.ownsNotification tenantId travelerId notification
  | .notificationAttempt, item => h.onNotification tenantId travelerId item.1
  | .actionDispatch, item => h.onIncident tenantId travelerId item.1
  | .actionDispatchAttempt, item => h.onAction tenantId travelerId item.1
  | _, _ => false

/-- The records of a kind that belong to the traveler of the tenant. -/
def of (kind : Kind) : List (kind.Record β) :=
  (h.contents kind).filter (h.owns tenantId travelerId kind)

end Holdings

/-! ### One owner -/

/-- Two entries under one key are one entry. -/
theorem any_key_and_any_key {α κ : Type} [DecidableEq κ] {key : α → κ} {l : List α}
    (hnodup : (l.map key).Nodup) {k : κ} {p q : α → Bool}
    (hp : l.any (fun a => key a = k && p a) = true)
    (hq : l.any (fun a => key a = k && q a) = true) : ∃ a ∈ l, p a = true ∧ q a = true := by
  obtain ⟨a, ha, hpa⟩ := List.any_eq_true.mp hp
  obtain ⟨b, hb, hqb⟩ := List.any_eq_true.mp hq
  rw [Bool.and_eq_true, decide_eq_true_eq] at hpa hqb
  have hab : a = b := List.inj_on_of_nodup_map hnodup ha hb (hpa.1.trans hqb.1.symm)
  subst hab
  exact ⟨a, ha, hpa.2, hqb.2⟩

/-- A key is among those of the entries that satisfy `p` when an entry with it satisfies `p`. -/
theorem decide_mem_map_filter {α κ : Type} [DecidableEq κ] {key : α → κ} {l : List α}
    {p : α → Bool} (k : κ) :
    decide (k ∈ (l.filter p).map key) = l.any (fun a => key a = k && p a) := by
  rw [Bool.eq_iff_iff, decide_eq_true_eq, List.mem_map, List.any_eq_true]
  refine exists_congr fun a => ?_
  rw [List.mem_filter, Bool.and_eq_true, decide_eq_true_eq, and_assoc, and_comm (b := p a = true)]

namespace Holdings

variable {h h' : Holdings β} {t t' v v' : String}

theorem ownedBy_unique {trip : Trip} (hone : trip.ownedBy t v = true)
    (htwo : trip.ownedBy t' v' = true) : (t', v') = (t, v) := by
  obtain ⟨rfl, rfl⟩ := of_decide_eq_true hone
  obtain ⟨rfl, rfl⟩ := of_decide_eq_true htwo
  rfl

theorem onTrip_unique {tripId : Uuid} (hone : h.onTrip t v tripId = true)
    (htwo : h.onTrip t' v' tripId = true) : (t', v') = (t, v) := by
  obtain ⟨trip, -, hp, hq⟩ := any_key_and_any_key h.tripIds hone htwo
  exact ownedBy_unique hp hq

theorem ownsIncident_unique {incident : Incident} (hone : h.ownsIncident t v incident = true)
    (htwo : h.ownsIncident t' v' incident = true) : (t', v') = (t, v) :=
  onTrip_unique (Bool.and_eq_true_iff.mp hone).2 (Bool.and_eq_true_iff.mp htwo).2

theorem onIncident_unique {incidentId : Uuid} (hone : h.onIncident t v incidentId = true)
    (htwo : h.onIncident t' v' incidentId = true) : (t', v') = (t, v) := by
  obtain ⟨incident, -, hp, hq⟩ := any_key_and_any_key h.incidentIds hone htwo
  exact ownsIncident_unique hp hq

theorem filed_unique {tenant : Option String} {traveler : String}
    (hone : (tenant = some t && traveler = v : Bool) = true)
    (htwo : (tenant = some t' && traveler = v' : Bool) = true) : (t', v') = (t, v) := by
  simp only [Bool.and_eq_true, decide_eq_true_eq] at hone htwo
  obtain ⟨rfl, rfl⟩ := hone
  exact Prod.ext (Option.some.inj htwo.1).symm htwo.2.symm

/-- No record belongs to two pairs. -/
theorem owns_unique {kind : Kind} {record : kind.Record β} (hone : h.owns t v kind record = true)
    (htwo : h.owns t' v' kind record = true) : (t', v') = (t, v) := by
  cases kind with
  | trip => exact ownedBy_unique hone htwo
  | tripSegment | evidence | assessment => exact onTrip_unique hone htwo
  | incident => exact ownsIncident_unique hone htwo
  | profile =>
    simp only [owns, Bool.and_eq_true, decide_eq_true_eq] at hone htwo
    obtain ⟨rfl, rfl⟩ := hone
    exact Prod.ext htwo.1.symm htwo.2.symm
  | memoryProposal | notification => exact filed_unique hone htwo
  | notificationAttempt =>
    obtain ⟨notification, -, hp, hq⟩ := any_key_and_any_key h.notificationIds hone htwo
    exact filed_unique hp hq
  | actionDispatchAttempt =>
    obtain ⟨action, -, hp, hq⟩ := any_key_and_any_key h.actionIds hone htwo
    exact onIncident_unique hp hq
  | approval | candidateSet | candidateOutcome | managerFeedback | actionDispatch =>
    exact onIncident_unique hone htwo
  | _ => exact absurd hone Bool.false_ne_true

theorem not_owns_of_other (hother : (t', v') ≠ (t, v)) {kind : Kind} {record : kind.Record β}
    (hown : h.owns t' v' kind record = true) : (!h.owns t v kind record) = true := by
  rw [Bool.not_eq_true', ← Bool.not_eq_true]
  exact fun hmine => hother (owns_unique hmine hown)

/-! ### The frame -/

/-- The second repository lacks records of the first, and none of this pair's. -/
structure Frames (h h' : Holdings β) (tenantId travelerId : String) : Prop where
  kept : ∀ kind, ∃ keep : kind.Record β → Bool, h'.contents kind = (h.contents kind).filter keep ∧
    ∀ record ∈ h.contents kind, h.owns tenantId travelerId kind record = true → keep record = true
  proposals : ∀ proposal ∈ h'.contents .memoryProposal,
    h'.proposalTenant proposal = h.proposalTenant proposal
  notifications : ∀ notification ∈ h'.contents .notification,
    h'.notificationTenant notification = h.notificationTenant notification

theorem any_filter_congr {α : Type} {l : List α} {keep p p' : α → Bool}
    (hsame : ∀ a ∈ l, keep a = true → p' a = p a) (hkeep : ∀ a ∈ l, p a = true → keep a = true) :
    (l.filter keep).any p' = l.any p := by
  rw [Bool.eq_iff_iff, List.any_eq_true, List.any_eq_true]
  constructor
  · rintro ⟨a, hmem, ha⟩
    obtain ⟨hl, hk⟩ := List.mem_filter.mp hmem
    exact ⟨a, hl, hsame a hl hk ▸ ha⟩
  · rintro ⟨a, hl, ha⟩
    have hk := hkeep a hl ha
    exact ⟨a, List.mem_filter.mpr ⟨hl, hk⟩, (hsame a hl hk).trans ha⟩

namespace Frames

theorem onTrip_eq (hf : h.Frames h' t v) : h'.onTrip t v = h.onTrip t v := by
  obtain ⟨keep, hcontents, hkeep⟩ := hf.kept .trip
  funext tripId
  unfold onTrip
  rw [hcontents]
  exact any_filter_congr (fun _ _ _ => rfl)
    (fun trip hmem htrip => hkeep trip hmem (Bool.and_eq_true_iff.mp htrip).2)

theorem ownsIncident_eq (hf : h.Frames h' t v) : h'.ownsIncident t v = h.ownsIncident t v := by
  funext incident
  unfold ownsIncident
  rw [hf.onTrip_eq]

theorem onIncident_eq (hf : h.Frames h' t v) : h'.onIncident t v = h.onIncident t v := by
  obtain ⟨keep, hcontents, hkeep⟩ := hf.kept .incident
  funext incidentId
  unfold onIncident
  rw [hcontents, hf.ownsIncident_eq]
  exact any_filter_congr (fun _ _ _ => rfl)
    (fun incident hmem hon => hkeep incident hmem (Bool.and_eq_true_iff.mp hon).2)

theorem ownsProposal_eq (hf : h.Frames h' t v) {proposal : MemoryUpdateProposal}
    (hmem : proposal ∈ h'.contents .memoryProposal) :
    h'.ownsProposal t v proposal = h.ownsProposal t v proposal := by
  unfold ownsProposal
  rw [hf.proposals proposal hmem]

theorem ownsNotification_eq (hf : h.Frames h' t v) {notification : NotificationRecord}
    (hmem : notification ∈ h'.contents .notification) :
    h'.ownsNotification t v notification = h.ownsNotification t v notification := by
  unfold ownsNotification
  rw [hf.notifications notification hmem]

theorem onNotification_eq (hf : h.Frames h' t v) : h'.onNotification t v = h.onNotification t v := by
  obtain ⟨keep, hcontents, hkeep⟩ := hf.kept .notification
  funext notificationId
  unfold onNotification
  rw [hcontents]
  refine any_filter_congr (fun notification hmem hk => ?_)
    (fun notification hmem hon => hkeep notification hmem (Bool.and_eq_true_iff.mp hon).2)
  rw [hf.ownsNotification_eq (hcontents ▸ List.mem_filter.mpr ⟨hmem, hk⟩)]

theorem onAction_eq (hf : h.Frames h' t v) : h'.onAction t v = h.onAction t v := by
  obtain ⟨keep, hcontents, hkeep⟩ := hf.kept .actionDispatch
  funext actionId
  unfold onAction
  rw [hcontents, hf.onIncident_eq]
  exact any_filter_congr (fun _ _ _ => rfl)
    (fun action hmem hon => hkeep action hmem (Bool.and_eq_true_iff.mp hon).2)

theorem owns_eq (hf : h.Frames h' t v) {kind : Kind} {record : kind.Record β}
    (hmem : record ∈ h'.contents kind) : h'.owns t v kind record = h.owns t v kind record := by
  cases kind with
  | tripSegment | evidence | assessment => exact congrFun hf.onTrip_eq _
  | incident => exact congrFun hf.ownsIncident_eq _
  | approval | candidateSet | candidateOutcome | managerFeedback | actionDispatch =>
    exact congrFun hf.onIncident_eq _
  | memoryProposal => exact hf.ownsProposal_eq hmem
  | notification => exact hf.ownsNotification_eq hmem
  | notificationAttempt => exact congrFun hf.onNotification_eq _
  | actionDispatchAttempt => exact congrFun hf.onAction_eq _
  | _ => rfl

/-- The pair owns the same records in both. -/
theorem of_eq (hf : h.Frames h' t v) (kind : Kind) : h'.of t v kind = h.of t v kind := by
  obtain ⟨keep, hcontents, hkeep⟩ := hf.kept kind
  unfold of
  rw [List.filter_congr fun record hmem => hf.owns_eq hmem, hcontents, List.filter_filter]
  refine List.filter_congr fun record hmem => ?_
  cases hown : h.owns t v kind record with
  | false => rfl
  | true => exact hkeep record hmem hown

end Frames

/-! ### What an erasure takes -/

/-- The kinds of records that an erasure of this scope selects. -/
def covers : DeletionRequestScope → Kind → Bool
  | .travelerData, _ => true
  | .preferenceMemory, .profile => true
  | .preferenceMemory, .memoryProposal => true
  | .preferenceMemory, _ => false

/-- The second repository lacks the records of a scope that the pair owns, and of the attempts at
most those that no stored notification or action has. -/
structure Erases (h h' : Holdings β) (tenantId travelerId : String) (scope : DeletionRequestScope) :
    Prop where
  contents : ∀ kind, kind ≠ .notificationAttempt → kind ≠ .actionDispatchAttempt →
    h'.contents kind = (h.contents kind).filter
      (fun record => !(covers scope kind && h.owns tenantId travelerId kind record))
  attempts : ∀ kind, kind = .notificationAttempt ∨ kind = .actionDispatchAttempt →
    ∃ keep : kind.Record β → Bool, h'.contents kind = (h.contents kind).filter keep ∧
      ∀ t' v', (t', v') ≠ (tenantId, travelerId) → ∀ record,
        h.owns t' v' kind record = true → keep record = true
  proposals : ∀ proposal ∈ h'.contents .memoryProposal,
    h'.proposalTenant proposal = h.proposalTenant proposal
  notifications : ∀ notification ∈ h'.contents .notification,
    h'.notificationTenant notification = h.notificationTenant notification

theorem Erases.frames {scope : DeletionRequestScope} (he : h.Erases h' t v scope)
    (hother : (t', v') ≠ (t, v)) : h.Frames h' t' v' := by
  refine ⟨fun kind => ?_, he.proposals, he.notifications⟩
  by_cases hattempt : kind = .notificationAttempt ∨ kind = .actionDispatchAttempt
  · obtain ⟨keep, hcontents, hkeep⟩ := he.attempts kind hattempt
    exact ⟨keep, hcontents, fun record _ => hkeep t' v' hother record⟩
  · rw [not_or] at hattempt
    refine ⟨_, he.contents kind hattempt.1 hattempt.2, fun record _ hown => ?_⟩
    rw [Bool.not_and, not_owns_of_other hother hown, Bool.or_true]

end Holdings

/-! ### The in-memory erasure -/

namespace InMemoryRepository

variable (repo : InMemoryRepository β) (tenantId travelerId : String)

def holdings : Holdings β where
  contents := repo.contents
  proposalTenant := fun proposal => some proposal.tenantId
  notificationTenant := fun notification => some notification.tenantId
  tripIds := repo.trips.nodup
  incidentIds := repo.incidents.nodup
  notificationIds := repo.notifications.nodup
  actionIds := by
    have hnodup := repo.actionDispatches.nodup
    rwa [contents, List.map_map]

variable {repo tenantId travelerId}

theorem decide_mem_travelerTripIds (tripId : Uuid) :
    decide (tripId ∈ repo.travelerTripIds tenantId travelerId) =
      repo.holdings.onTrip tenantId travelerId tripId := decide_mem_map_filter tripId

theorem onTrips_eq_ownsIncident :
    Incident.onTrips tenantId (repo.travelerTripIds tenantId travelerId) =
      repo.holdings.ownsIncident tenantId travelerId := by
  funext incident
  unfold Incident.onTrips Holdings.ownsIncident
  rw [Bool.decide_and, decide_mem_travelerTripIds]

theorem decide_mem_travelerIncidentIds (incidentId : Uuid) :
    decide (incidentId ∈ repo.travelerIncidentIds tenantId travelerId) =
      repo.holdings.onIncident tenantId travelerId incidentId := by
  unfold travelerIncidentIds
  rw [onTrips_eq_ownsIncident]
  exact decide_mem_map_filter incidentId

theorem decide_notMem_travelerTripIds (tripId : Uuid) :
    decide (tripId ∉ repo.travelerTripIds tenantId travelerId) =
      !repo.holdings.onTrip tenantId travelerId tripId := by
  rw [decide_not, decide_mem_travelerTripIds]

theorem decide_notMem_travelerIncidentIds (incidentId : Uuid) :
    decide (incidentId ∉ repo.travelerIncidentIds tenantId travelerId) =
      !repo.holdings.onIncident tenantId travelerId incidentId := by
  rw [decide_not, decide_mem_travelerIncidentIds]

theorem erases_deleteTravelerMemory :
    repo.holdings.Erases (repo.deleteTravelerMemory tenantId travelerId).2.holdings tenantId
      travelerId .preferenceMemory where
  contents kind _ _ := by
    cases kind with
    | profile =>
      refine List.filter_congr fun profile _ => ?_
      simp only [Holdings.covers, Holdings.owns, Bool.true_and, ne_eq, Prod.mk.injEq, decide_not,
        Bool.decide_and]
    | memoryProposal =>
      refine List.filter_congr fun proposal _ => ?_
      simp only [Holdings.covers, Holdings.owns, Holdings.ownsProposal, holdings, Bool.true_and,
        Option.some.injEq, Bool.decide_and]
    | _ => exact (List.filter_true _).symm
  attempts kind hkind := ⟨fun _ => true, by
    rcases hkind with rfl | rfl <;> exact (List.filter_true _).symm, fun _ _ _ _ _ => rfl⟩
  proposals _ _ := rfl
  notifications _ _ := rfl

theorem erases_eraseTravelerData :
    repo.holdings.Erases (repo.eraseTravelerData tenantId travelerId .travelerData).2.holdings
      tenantId travelerId .travelerData where
  contents kind hn ha := by
    cases kind with
    | trip =>
      exact List.filter_congr fun trip hmem => repo.trips.decide_key_notMem_filter hmem _
    | tripSegment =>
      refine (Table.filed_filter _ (fun id => id ∉ repo.travelerTripIds tenantId travelerId)).trans ?_
      exact List.filter_congr fun item _ => decide_notMem_travelerTripIds item.1
    | evidence => 
      refine (Table.filed_filter _ (fun id => id ∉ repo.travelerTripIds tenantId travelerId)).trans ?_
      exact List.filter_congr fun item _ => decide_notMem_travelerTripIds item.1
    | assessment =>
      refine (Table.filed_filter _ (fun id => id ∉ repo.travelerTripIds tenantId travelerId)).trans ?_
      exact List.filter_congr fun item _ => decide_notMem_travelerTripIds item.1
    | incident =>
      refine List.filter_congr fun incident hmem => ?_
      exact (repo.incidents.decide_key_notMem_filter hmem _).trans
        (congrArg not (congrFun onTrips_eq_ownsIncident incident))
    | approval => exact List.filter_congr fun approval _ => decide_notMem_travelerIncidentIds _
    | candidateSet => exact List.filter_congr fun item _ => decide_notMem_travelerIncidentIds _
    | candidateOutcome => exact List.filter_congr fun item _ => decide_notMem_travelerIncidentIds _
    | managerFeedback => exact List.filter_congr fun feedback _ => decide_notMem_travelerIncidentIds _
    | actionDispatch => 
      show (List.filter _ _).map _ = (List.map _ _).filter _
      rw [List.filter_map]
      exact congrArg _ (List.filter_congr fun action _ => decide_notMem_travelerIncidentIds _)
    | profile | memoryProposal => exact (erases_deleteTravelerMemory).contents _ hn ha
    | notification => 
      refine List.filter_congr fun notification _ => ?_
      simp only [Holdings.covers, Holdings.owns, Holdings.ownsNotification, holdings, Bool.true_and,
        Option.some.injEq, NotificationRecord.sentTo, Bool.decide_and]
    | notificationAttempt => exact absurd rfl hn
    | actionDispatchAttempt => exact absurd rfl ha
    | _ => exact (List.filter_true _).symm
  attempts kind hkind := by
    rcases hkind with rfl | rfl
    · refine ⟨_, Table.filed_filter repo.notificationAttempts (fun id => ((repo.notifications.filter
        (fun n => !n.sentTo tenantId travelerId)).find? id).isSome), fun t' v' hother item hown => ?_⟩
      refine (repo.notifications.isSome_find?_filter _ _).mpr ?_
      obtain ⟨notification, hmem, hon⟩ := List.any_eq_true.mp hown
      obtain ⟨hid, hfiled⟩ := Bool.and_eq_true_iff.mp hon
      refine ⟨notification, hmem, of_decide_eq_true hid, ?_⟩
      rw [Bool.not_eq_true', ← Bool.not_eq_true]
      intro hsent
      obtain ⟨rfl, rfl⟩ := of_decide_eq_true hsent
      have hmine : (some notification.tenantId = some notification.tenantId &&
          notification.travelerId = notification.travelerId : Bool) = true := by
        simp only [decide_true, Bool.and_self]
      exact hother (Holdings.filed_unique hmine hfiled)
    · refine ⟨_, Table.filed_filter repo.actionDispatchAttempts (fun id =>
        ((repo.actionDispatches.filter (fun a => a.incidentId ∉
          repo.travelerIncidentIds tenantId travelerId)).find? id).isSome),
            fun t' v' hother item hown => ?_⟩
      refine (repo.actionDispatches.isSome_find?_filter _ _).mpr ?_
      obtain ⟨filed, hmem, hon⟩ := List.any_eq_true.mp hown
      obtain ⟨action, haction, rfl⟩ := List.mem_map.mp hmem
      obtain ⟨hid, hincident⟩ := Bool.and_eq_true_iff.mp hon
      refine ⟨action, haction, of_decide_eq_true hid, ?_⟩
      rw [decide_notMem_travelerIncidentIds, Bool.not_eq_true', ← Bool.not_eq_true]
      exact fun hmine => hother (Holdings.onIncident_unique hmine hincident)
  proposals _ _ := rfl
  notifications _ _ := rfl

/-! ### A second in-memory erasure -/

theorem deleteTravelerMemory_of_none (hprofile : repo.profiles.find? (tenantId, travelerId) = none)
    (hproposals : ∀ p ∈ repo.memoryProposals, ¬(p.tenantId = tenantId ∧ p.travelerId = travelerId)) :
    repo.deleteTravelerMemory tenantId travelerId = ((0, 0), repo) := by
  have hprofiles : repo.profiles.erase (tenantId, travelerId) = repo.profiles :=
    Table.filter_eq_self _ _ fun p hp => decide_eq_true (Table.find?_eq_none _ |>.mp hprofile p hp)
  have hnone : repo.memoryProposals.rows.filter
      (fun p => p.tenantId = tenantId ∧ p.travelerId = travelerId) = [] :=
    List.filter_eq_nil_iff.mpr fun p hp => by simpa using hproposals p hp
  have hkept : repo.memoryProposals.filter
      (fun p => !decide (p.tenantId = tenantId ∧ p.travelerId = travelerId)) =
        repo.memoryProposals :=
    Table.filter_eq_self _ _ fun p hp => by
      rw [Bool.not_eq_true', decide_eq_false_iff_not]
      exact hproposals p hp
  unfold deleteTravelerMemory
  simp only [hprofile, hprofiles, hnone, hkept]
  rfl

theorem travelerIncidentIds_of_nil (htrips : repo.travelerTripIds tenantId travelerId = []) :
    repo.travelerIncidentIds tenantId travelerId = [] := by
  unfold travelerIncidentIds
  rw [htrips]
  simp [Incident.onTrips]

theorem eraseOperationalData_of_nil (htrips : repo.travelerTripIds tenantId travelerId = [])
    (hsent : ∀ n ∈ repo.notifications, n.sentTo tenantId travelerId = false)
    (hnotified : ∀ b ∈ repo.notificationAttempts, (repo.notifications.find? b.id).isSome = true)
    (hdispatched : ∀ b ∈ repo.actionDispatchAttempts,
      (repo.actionDispatches.find? b.id).isSome = true) :
    repo.eraseOperationalData tenantId travelerId = repo := by
  have hall {α κ : Type} {key : α → κ} (t : Table key) (id : α → Uuid) :
      t.filter (fun a => id a ∉ ([] : List Uuid)) = t :=
    t.filter_eq_self _ fun _ _ => rfl
  have hnotifications : repo.notifications.filter (fun n => !n.sentTo tenantId travelerId) =
      repo.notifications :=
    Table.filter_eq_self _ _ fun n hn => by rw [hsent n hn, Bool.not_false]
  unfold eraseOperationalData
  simp only [htrips, travelerIncidentIds_of_nil htrips, hall, hnotifications]
  simp only [Table.filter_eq_self _ _ hnotified, Table.filter_eq_self _ _ hdispatched]

theorem travelerTripIds_eraseOperationalData :
    (repo.eraseOperationalData tenantId travelerId).travelerTripIds tenantId travelerId = [] :=
  congrArg (List.map Trip.tripId) (repo.trips.filter_filter_notMem _)

theorem eraseOperationalData_again :
    (repo.eraseOperationalData tenantId travelerId).eraseOperationalData tenantId travelerId =
      repo.eraseOperationalData tenantId travelerId := by
  refine eraseOperationalData_of_nil travelerTripIds_eraseOperationalData ?_ ?_ ?_
  · intro n hn
    rw [← Bool.not_eq_true']
    exact ((Table.mem_filter _ _ _).mp hn).2
  · exact fun b hb => ((Table.mem_filter _ _ _).mp hb).2
  · exact fun b hb => ((Table.mem_filter _ _ _).mp hb).2

theorem deleteTravelerMemory_erased (scope : DeletionRequestScope) :
    (repo.eraseTravelerData tenantId travelerId scope).2.deleteTravelerMemory tenantId travelerId =
      ((0, 0), (repo.eraseTravelerData tenantId travelerId scope).2) := by
  have hprofiles : (repo.eraseTravelerData tenantId travelerId scope).2.profiles =
      repo.profiles.erase (tenantId, travelerId) := by
    cases scope <;> rfl
  have hproposals : (repo.eraseTravelerData tenantId travelerId scope).2.memoryProposals =
      repo.memoryProposals.filter
        (fun p => !decide (p.tenantId = tenantId ∧ p.travelerId = travelerId)) := by
    cases scope <;> rfl
  refine deleteTravelerMemory_of_none ?_ fun p hp => ?_
  · rw [hprofiles, Table.find?_erase, if_pos rfl]
  · rw [hproposals] at hp
    have hkept := ((Table.mem_filter _ _ _).mp hp).2
    rwa [Bool.not_eq_true', decide_eq_false_iff_not] at hkept

/-- Erasing again finds nothing and changes nothing. -/
theorem eraseTravelerData_again (scope : DeletionRequestScope) :
    ((repo.eraseTravelerData tenantId travelerId scope).2.eraseTravelerData tenantId travelerId
        scope).2 = (repo.eraseTravelerData tenantId travelerId scope).2 ∧
      ∀ count ∈ ((repo.eraseTravelerData tenantId travelerId scope).2.eraseTravelerData tenantId
        travelerId scope).1, count.2 = 0 := by
  have hmemory : (repo.eraseTravelerData tenantId travelerId scope).2.deleteTravelerMemory tenantId
      travelerId = ((0, 0), _) := deleteTravelerMemory_erased scope
  have hoperational : scope = .travelerData →
      (repo.eraseTravelerData tenantId travelerId scope).2.eraseOperationalData tenantId
        travelerId = (repo.eraseTravelerData tenantId travelerId scope).2 ∧
      (repo.eraseTravelerData tenantId travelerId scope).2.travelerTripIds tenantId
        travelerId = [] := by
    rintro rfl
    exact ⟨eraseOperationalData_again, travelerTripIds_eraseOperationalData⟩
  generalize (repo.eraseTravelerData tenantId travelerId scope).2 = erased at *
  unfold eraseTravelerData
  rw [hmemory]
  cases scope with
  | preferenceMemory => exact ⟨rfl, by simp⟩
  | travelerData =>
    obtain ⟨hsame, htrips⟩ := hoperational rfl
    refine ⟨hsame, ?_⟩
    simp [htrips, travelerIncidentIds_of_nil htrips]

end InMemoryRepository

/-! ### The database's erasure -/

namespace PostgresRepository

variable (repo : PostgresRepository β) (tenantId travelerId : String)

/-- A proposal and a notification are filed under the tenant column of their row. -/
def holdings : Holdings β where
  contents := repo.contents
  proposalTenant := fun proposal =>
    (repo.memoryProposals.find? proposal.proposalId).map TenantRow.tenantId
  notificationTenant := fun notification =>
    (repo.notifications.find? notification.notificationId).map TenantRow.tenantId
  tripIds := by
    have hnodup := repo.trips.nodup
    rwa [contents, tripPayloads, List.map_map]
  incidentIds := by
    have hnodup := repo.incidents.nodup
    rwa [contents, incidentPayloads, List.map_map]
  notificationIds := by
    have hnodup := repo.notifications.nodup
    rwa [contents, List.map_map]
  actionIds := by
    have hnodup := repo.actionDispatches.nodup
    rwa [contents, List.map_map]

variable {repo tenantId travelerId}

theorem decide_mem_travelerTripIds (tripId : Uuid) :
    decide (tripId ∈ repo.travelerTripIds tenantId travelerId) =
      repo.holdings.onTrip tenantId travelerId tripId := by
  refine (decide_mem_map_filter tripId).trans ?_
  show _ = (repo.trips.rows.map TenantRow.payload).any _
  rw [List.any_map]
  rfl

theorem onTrips_eq_ownsIncident :
    Incident.onTrips tenantId (repo.travelerTripIds tenantId travelerId) =
      repo.holdings.ownsIncident tenantId travelerId := by
  funext incident
  unfold Incident.onTrips Holdings.ownsIncident
  rw [Bool.decide_and, decide_mem_travelerTripIds]

theorem decide_mem_travelerIncidentIds (incidentId : Uuid) :
    decide (incidentId ∈ repo.travelerIncidentIds tenantId travelerId) =
      repo.holdings.onIncident tenantId travelerId incidentId := by
  unfold travelerIncidentIds
  rw [onTrips_eq_ownsIncident]
  refine (decide_mem_map_filter incidentId).trans ?_
  show _ = (repo.incidents.rows.map TenantRow.payload).any _
  rw [List.any_map]
  rfl

theorem decide_notMem_travelerTripIds (tripId : Uuid) :
    decide (tripId ∉ repo.travelerTripIds tenantId travelerId) =
      !repo.holdings.onTrip tenantId travelerId tripId := by
  rw [decide_not, decide_mem_travelerTripIds]

theorem decide_notMem_travelerIncidentIds (incidentId : Uuid) :
    decide (incidentId ∉ repo.travelerIncidentIds tenantId travelerId) =
      !repo.holdings.onIncident tenantId travelerId incidentId := by
  rw [decide_not, decide_mem_travelerIncidentIds]

/-- The row of a stored proposal says who owns it. -/
theorem ownsProposal_payload {row : TenantRow MemoryUpdateProposal}
    (hmem : row ∈ repo.memoryProposals) :
    repo.holdings.ownsProposal tenantId travelerId row.payload =
      decide (row.tenantId = tenantId ∧ row.payload.travelerId = travelerId) := by
  unfold Holdings.ownsProposal holdings
  simp only [repo.memoryProposals.find?_key hmem, Option.map_some, Option.some.injEq,
    Bool.decide_and]

theorem ownsNotification_payload {row : TenantRow NotificationRecord}
    (hmem : row ∈ repo.notifications) :
    repo.holdings.ownsNotification tenantId travelerId row.payload =
      decide (row.tenantId = tenantId ∧ row.payload.travelerId = travelerId) := by
  unfold Holdings.ownsNotification holdings
  simp only [repo.notifications.find?_key hmem, Option.map_some, Option.some.injEq,
    Bool.decide_and]

/-- A document keeps the tenant column of its row when other rows go. -/
theorem tenantColumn_filter {α κ : Type} [DecidableEq κ] {id : α → κ}
    (rows : Table (fun row : TenantRow α => id row.payload)) {p : TenantRow α → Bool} {payload : α}
    (hmem : payload ∈ (rows.filter p).rows.map TenantRow.payload) :
    ((rows.filter p).find? (id payload)).map TenantRow.tenantId =
      (rows.find? (id payload)).map TenantRow.tenantId := by
  obtain ⟨row, hrow, rfl⟩ := List.mem_map.mp hmem
  have hold : row ∈ rows := ((Table.mem_filter _ _ _).mp hrow).1
  rw [Table.find?_key _ hrow, rows.find?_key hold]

theorem erases_deleteTravelerMemory :
    repo.holdings.Erases (repo.deleteTravelerMemory tenantId travelerId).2.holdings tenantId
      travelerId .preferenceMemory where
  contents kind _ _ := by
    cases kind with
    | profile =>
      refine List.filter_congr fun profile _ => ?_
      simp only [Holdings.covers, Holdings.owns, Bool.true_and, ne_eq, Prod.mk.injEq, decide_not,
        Bool.decide_and]
    | memoryProposal =>
      refine Eq.trans ?_ List.filter_map.symm
      exact congrArg _ (List.filter_congr fun row hmem =>
        congrArg not (ownsProposal_payload hmem).symm)
    | _ => exact (List.filter_true _).symm
  attempts kind hkind := ⟨fun _ => true, by
    rcases hkind with rfl | rfl <;> exact (List.filter_true _).symm, fun _ _ _ _ _ => rfl⟩
  proposals _ hmem := tenantColumn_filter repo.memoryProposals hmem
  notifications _ _ := rfl

theorem decide_mem_travelerNotificationIds (notificationId : Uuid) :
    decide (notificationId ∈ repo.travelerNotificationIds tenantId travelerId) =
      repo.holdings.onNotification tenantId travelerId notificationId := by
  refine (decide_mem_map_filter notificationId).trans ?_
  show _ = (repo.notifications.rows.map TenantRow.payload).any _
  rw [List.any_map, Bool.eq_iff_iff, List.any_eq_true, List.any_eq_true]
  refine exists_congr fun row => and_congr_right fun hmem => ?_
  rw [Function.comp_apply, ownsNotification_payload hmem]

theorem decide_mem_actionIdsOf (actionId : Uuid) :
    decide (actionId ∈ repo.actionIdsOf (repo.travelerIncidentIds tenantId travelerId)) =
      repo.holdings.onAction tenantId travelerId actionId := by
  refine (decide_mem_map_filter actionId).trans ?_
  show _ = (repo.actionDispatches.rows.map _).any _
  rw [List.any_map]
  simp only [decide_mem_travelerIncidentIds]
  rfl

theorem erases_eraseTravelerData :
    repo.holdings.Erases (repo.eraseTravelerData tenantId travelerId .travelerData).2.holdings
      tenantId travelerId .travelerData where
  contents kind hn ha := by
    cases kind with
    | trip =>
      refine Eq.trans ?_ List.filter_map.symm
      exact congrArg _ (List.filter_congr fun row hmem =>
        repo.trips.decide_key_notMem_filter hmem _)
    | tripSegment | evidence | assessment =>
      refine Eq.trans ?_ List.filter_map.symm
      exact congrArg _ (List.filter_congr fun row _ => decide_notMem_travelerTripIds _)
    | incident =>
      refine Eq.trans ?_ List.filter_map.symm
      refine congrArg _ (List.filter_congr fun row hmem => ?_)
      exact (repo.incidents.decide_key_notMem_filter hmem _).trans
        (congrArg not (congrFun onTrips_eq_ownsIncident row.payload))
    | approval | managerFeedback =>
      exact List.filter_congr fun record _ => decide_notMem_travelerIncidentIds _
    | candidateSet | candidateOutcome | actionDispatch =>
      refine Eq.trans ?_ List.filter_map.symm
      exact congrArg _ (List.filter_congr fun row _ => decide_notMem_travelerIncidentIds _)
    | profile | memoryProposal => exact erases_deleteTravelerMemory.contents _ hn ha
    | notification =>
      refine Eq.trans ?_ List.filter_map.symm
      refine congrArg _ (List.filter_congr fun row hmem => ?_)
      exact (repo.notifications.decide_key_notMem_filter hmem _).trans
        (congrArg not (ownsNotification_payload hmem).symm)
    | notificationAttempt => exact absurd rfl hn
    | actionDispatchAttempt => exact absurd rfl ha
    | _ => exact (List.filter_true _).symm
  attempts kind hkind := by
    refine ⟨fun record => !repo.holdings.owns tenantId travelerId kind record, ?_,
      fun t' v' hother record hown => Holdings.not_owns_of_other hother hown⟩
    rcases hkind with rfl | rfl
    · refine Eq.trans ?_ List.filter_map.symm
      refine congrArg _ (List.filter_congr fun row _ => ?_)
      exact decide_not.trans (congrArg not (decide_mem_travelerNotificationIds row.notificationId))
    · refine Eq.trans ?_ List.filter_map.symm
      refine congrArg _ (List.filter_congr fun row _ => ?_)
      exact decide_not.trans (congrArg not (decide_mem_actionIdsOf row.actionDispatchId))
  proposals _ hmem := tenantColumn_filter repo.memoryProposals hmem
  notifications _ hmem := tenantColumn_filter repo.notifications hmem

/-! ### A second erasure of the database -/

theorem deleteTravelerMemory_of_none
    (hprofile : repo.preferences.find? (tenantId, travelerId) = none)
    (hproposals : ∀ row ∈ repo.memoryProposals,
      ¬(row.tenantId = tenantId ∧ row.payload.travelerId = travelerId)) :
    repo.deleteTravelerMemory tenantId travelerId = ((0, 0), repo) := by
  have hprofiles : repo.preferences.erase (tenantId, travelerId) = repo.preferences :=
    Table.filter_eq_self _ _ fun p hp => decide_eq_true (Table.find?_eq_none _ |>.mp hprofile p hp)
  have hnone : repo.memoryProposals.rows.filter
      (fun row => row.tenantId = tenantId ∧ row.payload.travelerId = travelerId) = [] :=
    List.filter_eq_nil_iff.mpr fun row hrow => by simpa using hproposals row hrow
  have hkept : repo.memoryProposals.filter
      (fun row => !decide (row.tenantId = tenantId ∧ row.payload.travelerId = travelerId)) =
        repo.memoryProposals :=
    Table.filter_eq_self _ _ fun row hrow => by
      rw [Bool.not_eq_true', decide_eq_false_iff_not]
      exact hproposals row hrow
  unfold deleteTravelerMemory
  simp only [hprofile, hprofiles, hnone, hkept]
  rfl

theorem travelerIncidentIds_of_nil (htrips : repo.travelerTripIds tenantId travelerId = []) :
    repo.travelerIncidentIds tenantId travelerId = [] := by
  unfold travelerIncidentIds
  rw [htrips]
  simp [Incident.onTrips]

theorem eraseOperationalData_of_nil (htrips : repo.travelerTripIds tenantId travelerId = [])
    (hsent : repo.travelerNotificationIds tenantId travelerId = []) :
    repo.eraseOperationalData tenantId travelerId = repo := by
  have hall {α κ : Type} {key : α → κ} (t : Table key) (id : α → Uuid) :
      t.filter (fun a => id a ∉ ([] : List Uuid)) = t :=
    t.filter_eq_self _ fun _ _ => rfl
  have hactions : repo.actionIdsOf [] = [] := by simp [actionIdsOf]
  unfold eraseOperationalData
  simp only [htrips, travelerIncidentIds_of_nil htrips, hsent, hactions, hall]

theorem travelerTripIds_eraseOperationalData :
    (repo.eraseOperationalData tenantId travelerId).travelerTripIds tenantId travelerId = [] :=
  congrArg (List.map _) (repo.trips.filter_filter_notMem _)

theorem travelerNotificationIds_eraseOperationalData :
    (repo.eraseOperationalData tenantId travelerId).travelerNotificationIds tenantId travelerId =
      [] :=
  congrArg (List.map _) (repo.notifications.filter_filter_notMem _)

theorem deleteTravelerMemory_erased (scope : DeletionRequestScope) :
    (repo.eraseTravelerData tenantId travelerId scope).2.deleteTravelerMemory tenantId travelerId =
      ((0, 0), (repo.eraseTravelerData tenantId travelerId scope).2) := by
  have hprofiles : (repo.eraseTravelerData tenantId travelerId scope).2.preferences =
      repo.preferences.erase (tenantId, travelerId) := by
    cases scope <;> rfl
  have hproposals : (repo.eraseTravelerData tenantId travelerId scope).2.memoryProposals =
      repo.memoryProposals.filter
        (fun row => !decide (row.tenantId = tenantId ∧ row.payload.travelerId = travelerId)) := by
    cases scope <;> rfl
  refine deleteTravelerMemory_of_none ?_ fun row hrow => ?_
  · rw [hprofiles, Table.find?_erase, if_pos rfl]
  · rw [hproposals] at hrow
    have hkept := ((Table.mem_filter _ _ _).mp hrow).2
    rwa [Bool.not_eq_true', decide_eq_false_iff_not] at hkept

theorem eraseTravelerData_again (scope : DeletionRequestScope) :
    ((repo.eraseTravelerData tenantId travelerId scope).2.eraseTravelerData tenantId travelerId
        scope).2 = (repo.eraseTravelerData tenantId travelerId scope).2 ∧
      ∀ count ∈ ((repo.eraseTravelerData tenantId travelerId scope).2.eraseTravelerData tenantId
        travelerId scope).1, count.2 = 0 := by
  have hmemory : (repo.eraseTravelerData tenantId travelerId scope).2.deleteTravelerMemory tenantId
      travelerId = ((0, 0), _) := deleteTravelerMemory_erased scope
  have hgone : scope = .travelerData →
      (repo.eraseTravelerData tenantId travelerId scope).2.travelerTripIds tenantId travelerId =
        [] ∧
      (repo.eraseTravelerData tenantId travelerId scope).2.travelerNotificationIds tenantId
        travelerId = [] := by
    rintro rfl
    exact ⟨travelerTripIds_eraseOperationalData, travelerNotificationIds_eraseOperationalData⟩
  generalize (repo.eraseTravelerData tenantId travelerId scope).2 = erased at *
  unfold eraseTravelerData
  rw [hmemory]
  cases scope with
  | preferenceMemory => exact ⟨rfl, by simp⟩
  | travelerData =>
    obtain ⟨htrips, hsent⟩ := hgone rfl
    refine ⟨eraseOperationalData_of_nil htrips hsent, ?_⟩
    simp [htrips, hsent, travelerIncidentIds_of_nil htrips]

end PostgresRepository

/-! ### An erasure touches its target alone -/

/-- What an erasure of a pair leaves of the first repository is the second: the records of any
other pair, in their order, every record of a kind but the attempts that the pair does not own or
the scope does not cover, and for traveler memory the other kinds as they were. -/
structure Holdings.TouchesOnly (h h' : Holdings β) (tenantId travelerId : String)
    (scope : DeletionRequestScope) : Prop where
  others : ∀ t' v', (t', v') ≠ (tenantId, travelerId) → ∀ kind, h'.of t' v' kind = h.of t' v' kind
  contents : ∀ kind, kind ≠ .notificationAttempt → kind ≠ .actionDispatchAttempt →
    h'.contents kind = (h.contents kind).filter
      (fun record => !(covers scope kind && h.owns tenantId travelerId kind record))
  memory : scope = .preferenceMemory → ∀ kind, kind ≠ .profile → kind ≠ .memoryProposal →
    h'.contents kind = h.contents kind

/-- In both repositories an erasure touches its target alone, and a second one changes nothing and
counts nothing. What hangs off a trip or an incident counts as its traveler's, whatever tenant the
record names. -/
theorem erasure_touches_only (mem : InMemoryRepository β) (db : PostgresRepository β)
    (tenantId travelerId : String) (scope : DeletionRequestScope) :
    let erased := (mem.eraseTravelerData tenantId travelerId scope).2
    let erasedDb := (db.eraseTravelerData tenantId travelerId scope).2
    mem.holdings.TouchesOnly erased.holdings tenantId travelerId scope ∧
      db.holdings.TouchesOnly erasedDb.holdings tenantId travelerId scope ∧
      (erased.eraseTravelerData tenantId travelerId scope).2 = erased ∧
      (∀ count ∈ (erased.eraseTravelerData tenantId travelerId scope).1, count.2 = 0) ∧
      (erasedDb.eraseTravelerData tenantId travelerId scope).2 = erasedDb ∧
      ∀ count ∈ (erasedDb.eraseTravelerData tenantId travelerId scope).1, count.2 = 0 := by
  intro erased erasedDb
  have hmem : mem.holdings.Erases erased.holdings tenantId travelerId scope := by
    cases scope with
    | preferenceMemory => exact mem.erases_deleteTravelerMemory
    | travelerData => exact mem.erases_eraseTravelerData
  have hdb : db.holdings.Erases erasedDb.holdings tenantId travelerId scope := by
    cases scope with
    | preferenceMemory => exact db.erases_deleteTravelerMemory
    | travelerData => exact db.erases_eraseTravelerData
  refine ⟨⟨fun t' v' hother => (hmem.frames hother).of_eq, hmem.contents, ?_⟩,
    ⟨fun t' v' hother => (hdb.frames hother).of_eq, hdb.contents, ?_⟩,
    (mem.eraseTravelerData_again scope).1, (mem.eraseTravelerData_again scope).2,
    (db.eraseTravelerData_again scope).1, (db.eraseTravelerData_again scope).2⟩
  · rintro rfl kind hprofile hproposal
    cases kind <;> first | rfl | contradiction
  · rintro rfl kind hprofile hproposal
    cases kind <;> first | rfl | contradiction

end RouteShield
