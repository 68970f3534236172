import RouteShield.Lib.Batch
import RouteShield.Store.Postgres

/-!
How many records a claim leases. In memory a claim takes the due records up to the limit. In
the database the limit cuts the waiting rows of a query without an order, and of these the due
ones are leased: rows whose retry lies ahead, or that another worker holds, use up the limit.
-/

namespace RouteShield

variable {α β : Type}

/-- A lease under a new claim leaves the identifier of its record. -/
structure Leasing (id : α → Uuid) where
  lease : α → Uuid → α
  id_lease : ∀ a claimId, id (lease a claimId) = id a

namespace LeaseRequest

variable (request : LeaseRequest) (now : Time)

def notification : Leasing NotificationRecord.notificationId where
  lease n claimId := n.leased (request.claim now claimId)
  id_lease _ _ := rfl

def action : Leasing ActionDispatchRecord.actionDispatchId where
  lease a claimId := a.leased (request.claim now claimId)
  id_lease _ _ := rfl

def notificationRow : Leasing (fun row : TenantRow NotificationRecord => row.payload.notificationId)
    where
  lease row claimId := { row with payload := row.payload.leased (request.claim now claimId) }
  id_lease _ _ := rfl

def actionRow : Leasing (fun row : ActionDispatchRow => row.payload.actionDispatchId) where
  lease row claimId := { row with payload := row.payload.leased (request.claim now claimId) }
  id_lease _ _ := rfl

end LeaseRequest

/-- The claim took as many of the due records as its limit lets it, each one once, and they
are stored under their new leases. -/
structure LeasesInFull {id : α → Uuid} (leasing : Leasing id) (limit : ℕ) (due claimed : List α)
    (stored : α → Prop) : Prop where
  count : claimed.length = min limit due.length
  distinct : (claimed.map id).Nodup
  leased : ∀ a ∈ claimed, ∃ d ∈ due, ∃ claimId, a = leasing.lease d claimId
  stored : ∀ a ∈ claimed, stored a

namespace Leasing

variable {id : α → Uuid} (leasing : Leasing id)

/-- The records picked for a claim, each leased under an identifier of its own. -/
def each (fresh : ℕ → Uuid) (chosen : List α) : List α :=
  chosen.zipIdx.map (fun (a, i) => leasing.lease a (fresh i))

variable {leasing} {fresh : ℕ → Uuid} {chosen : List α}

@[simp] theorem length_each : (leasing.each fresh chosen).length = chosen.length := by
  simp [each]

theorem mem_each {a : α} (h : a ∈ leasing.each fresh chosen) :
    ∃ d ∈ chosen, ∃ i, a = leasing.lease d (fresh i) := by
  obtain ⟨⟨d, i⟩, hd, rfl⟩ := List.mem_map.mp h
  exact ⟨d, List.fst_mem_of_mem_zipIdx hd, i, rfl⟩

@[simp] theorem map_each : (leasing.each fresh chosen).map id = chosen.map id := by
  rw [each, List.map_map]
  conv_rhs => rw [← List.zipIdx_map_fst 0 chosen, List.map_map]
  exact List.map_congr_left fun x _ => leasing.id_lease x.1 _

/-- What is picked from a table and leased is stored, and replaces nothing else. -/
theorem mem_foldl_each {t : Table id} (hchosen : chosen.Sublist t.rows) {b : α} :
    b ∈ (leasing.each fresh chosen).foldl Table.put t ↔
      b ∈ leasing.each fresh chosen ∨ (b ∈ t ∧ id b ∉ chosen.map id) := by
  have hnodup : ((leasing.each fresh chosen).map id).Nodup := by
    rw [map_each]
    exact t.nodup.sublist (hchosen.map id)
  rw [Table.mem_foldl_put_iff hnodup, map_each]

/-- A claim is in full exactly when it picks enough. -/
theorem inFull_iff {limit : ℕ} {due : List α} (hnodup : (chosen.map id).Nodup)
    (hdue : chosen ⊆ due) {stored : α → Prop} (hstored : ∀ a ∈ leasing.each fresh chosen, stored a) :
    LeasesInFull leasing limit due (leasing.each fresh chosen) stored ↔
      chosen.length = min limit due.length := by
  refine ⟨fun h => by rw [← h.count, length_each], fun h => ⟨?_, ?_, fun a ha => ?_, hstored⟩⟩
  · rw [length_each, h]
  · rwa [map_each]
  · obtain ⟨d, hd, i, rfl⟩ := mem_each ha
    exact ⟨d, hdue hd, _, rfl⟩

end Leasing

/-! ### In memory -/

namespace InMemoryRepository

variable (repo : InMemoryRepository β) (request : LeaseRequest) (now : Time) (fresh : ℕ → Uuid)

def dueNotifications : List NotificationRecord :=
  qualifying (fun n => request.admits n.tenantId && n.waiting) (fun n => n.leasable now)
    repo.notifications.rows

def dueActionDispatches : List ActionDispatchRecord :=
  qualifying (fun a => request.admits a.tenantId && a.waiting) (fun a => a.leasable now)
    repo.actionDispatches.rows

theorem claimDueNotifications_fst : (repo.claimDueNotifications request now fresh).1 =
    (request.notification now).each fresh
      ((repo.dueNotifications request now).take request.limit) := rfl

theorem claimDueNotifications_snd :
    (repo.claimDueNotifications request now fresh).2.notifications =
      (repo.claimDueNotifications request now fresh).1.foldl Table.put repo.notifications := rfl

theorem claimDueActionDispatches_fst : (repo.claimDueActionDispatches request now fresh).1 =
    (request.action now).each fresh
      ((repo.dueActionDispatches request now).take request.limit) := rfl

theorem claimDueActionDispatches_snd :
    (repo.claimDueActionDispatches request now fresh).2.actionDispatches =
      (repo.claimDueActionDispatches request now fresh).1.foldl Table.put repo.actionDispatches :=
  rfl

/-- Both claims take all that is due, up to the limit. -/
def ClaimsInFull : Prop :=
  LeasesInFull (request.notification now) request.limit (repo.dueNotifications request now)
      (repo.claimDueNotifications request now fresh).1
      (fun n => n ∈ (repo.claimDueNotifications request now fresh).2.notifications) ∧
    LeasesInFull (request.action now) request.limit (repo.dueActionDispatches request now)
      (repo.claimDueActionDispatches request now fresh).1
      (fun a => a ∈ (repo.claimDueActionDispatches request now fresh).2.actionDispatches)

theorem claimsInFull : repo.ClaimsInFull request now fresh := by
  have hn : ((repo.dueNotifications request now).take request.limit).Sublist
      repo.notifications.rows := (List.take_sublist _ _).trans List.filter_sublist
  have ha : ((repo.dueActionDispatches request now).take request.limit).Sublist
      repo.actionDispatches.rows := (List.take_sublist _ _).trans List.filter_sublist
  unfold ClaimsInFull
  rw [claimDueNotifications_snd, claimDueNotifications_fst, claimDueActionDispatches_snd,
    claimDueActionDispatches_fst]
  constructor
  · refine (Leasing.inFull_iff ?_ (List.take_subset _ _) fun a h => ?_).mpr List.length_take
    · exact repo.notifications.nodup.sublist (hn.map _)
    · exact (Leasing.mem_foldl_each hn).mpr (.inl h)
  · refine (Leasing.inFull_iff ?_ (List.take_subset _ _) fun a h => ?_).mpr List.length_take
    · exact repo.actionDispatches.nodup.sublist (ha.map _)
    · exact (Leasing.mem_foldl_each ha).mpr (.inl h)

end InMemoryRepository

/-! ### In the database -/

namespace PostgresRepository

variable (repo : PostgresRepository β) (request : LeaseRequest) (now : Time) (fresh : ℕ → Uuid)

/-- The rows a claim of notifications asks the database for. -/
def waitingNotification (request : LeaseRequest) (row : TenantRow NotificationRecord) : Bool :=
  request.admits row.tenantId && row.payload.waiting

def waitingAction (request : LeaseRequest) (row : ActionDispatchRow) : Bool :=
  request.admits row.tenantId && row.payload.waiting

def dueNotifications : List NotificationRecord :=
  (qualifying (waitingNotification request) (fun row => row.payload.leasable now)
    repo.notifications.rows).map TenantRow.payload

def dueActionDispatches : List ActionDispatchRecord :=
  (qualifying (waitingAction request) (fun row => row.payload.leasable now)
    repo.actionDispatches.rows).map ActionDispatchRow.payload

def claimedNotifications : List (TenantRow NotificationRecord) :=
  (request.notificationRow now).each fresh
    (cutBatch (waitingNotification request) (fun row => row.payload.leasable now) request.limit
      repo.notifications.rows)

def claimedActions : List ActionDispatchRow :=
  (request.actionRow now).each fresh
    (cutBatch (waitingAction request) (fun row => row.payload.leasable now) request.limit
      repo.actionDispatches.rows)

theorem claimDueNotifications_fst : (repo.claimDueNotifications request now fresh).1 =
    (repo.claimedNotifications request now fresh).map TenantRow.payload := rfl

theorem claimDueNotifications_snd :
    (repo.claimDueNotifications request now fresh).2.notifications =
      (repo.claimedNotifications request now fresh).foldl Table.put repo.notifications := rfl

theorem claimDueActionDispatches_fst : (repo.claimDueActionDispatches request now fresh).1 =
    (repo.claimedActions request now fresh).map ActionDispatchRow.payload := rfl

theorem claimDueActionDispatches_snd :
    (repo.claimDueActionDispatches request now fresh).2.actionDispatches =
      (repo.claimedActions request now fresh).foldl Table.put repo.actionDispatches := rfl

/-- A claim of notifications takes all that is due, up to the limit. -/
def ClaimsNotificationsInFull : Prop :=
  LeasesInFull (request.notification now) request.limit (repo.dueNotifications request now)
    (repo.claimDueNotifications request now fresh).1
    (fun n => ∃ row ∈ (repo.claimDueNotifications request now fresh).2.notifications,
      row.payload = n)

def ClaimsActionsInFull : Prop :=
  LeasesInFull (request.action now) request.limit (repo.dueActionDispatches request now)
    (repo.claimDueActionDispatches request now fresh).1
    (fun a => ∃ row ∈ (repo.claimDueActionDispatches request now fresh).2.actionDispatches,
      row.payload = a)

variable {repo request now fresh}

theorem payload_claimedNotifications :
    (repo.claimedNotifications request now fresh).map TenantRow.payload =
      (request.notification now).each fresh
        ((cutBatch (waitingNotification request) (fun row => row.payload.leasable now) request.limit
          repo.notifications.rows).map TenantRow.payload) := by
  simp [claimedNotifications, Leasing.each, LeaseRequest.notificationRow,
    LeaseRequest.notification, List.zipIdx_map]

theorem payload_claimedActions :
    (repo.claimedActions request now fresh).map ActionDispatchRow.payload =
      (request.action now).each fresh
        ((cutBatch (waitingAction request) (fun row => row.payload.leasable now) request.limit
          repo.actionDispatches.rows).map ActionDispatchRow.payload) := by
  simp [claimedActions, Leasing.each, LeaseRequest.actionRow, LeaseRequest.action,
    List.zipIdx_map]

theorem cutBatch_sublist {waits qualifies : α → Bool} {limit : ℕ} {rows : List α} :
    (cutBatch waits qualifies limit rows).Sublist rows :=
  List.filter_sublist.trans ((List.take_sublist _ _).trans List.filter_sublist)

/-- A claim in the database is in full exactly when the cut leaves enough of what is due. -/
theorem claimsNotificationsInFull_iff : repo.ClaimsNotificationsInFull request now fresh ↔
    (cutBatch (waitingNotification request) (fun row => row.payload.leasable now) request.limit
        repo.notifications.rows).length =
      min request.limit (qualifying (waitingNotification request)
        (fun row => row.payload.leasable now) repo.notifications.rows).length := by
  rw [ClaimsNotificationsInFull, claimDueNotifications_fst, payload_claimedNotifications,
    Leasing.inFull_iff]
  · rw [List.length_map, dueNotifications, List.length_map]
  · rw [List.map_map]
    exact repo.notifications.nodup.sublist (cutBatch_sublist.map _)
  · exact List.map_subset _ cutBatch_subset
  · intro n hn
    rw [← payload_claimedNotifications] at hn
    obtain ⟨row, hrow, rfl⟩ := List.mem_map.mp hn
    rw [claimDueNotifications_snd]
    exact ⟨row, (Leasing.mem_foldl_each cutBatch_sublist).mpr (.inl hrow), rfl⟩

theorem claimsActionsInFull_iff : repo.ClaimsActionsInFull request now fresh ↔
    (cutBatch (waitingAction request) (fun row => row.payload.leasable now) request.limit
        repo.actionDispatches.rows).length =
      min request.limit (qualifying (waitingAction request)
        (fun row => row.payload.leasable now) repo.actionDispatches.rows).length := by
  rw [ClaimsActionsInFull, claimDueActionDispatches_fst, payload_claimedActions, Leasing.inFull_iff]
  · rw [List.length_map, dueActionDispatches, List.length_map]
  · rw [List.map_map]
    exact repo.actionDispatches.nodup.sublist (cutBatch_sublist.map _)
  · exact List.map_subset _ cutBatch_subset
  · intro a ha
    rw [← payload_claimedActions] at ha
    obtain ⟨row, hrow, rfl⟩ := List.mem_map.mp ha
    rw [claimDueActionDispatches_snd]
    exact ⟨row, (Leasing.mem_foldl_each cutBatch_sublist).mpr (.inl hrow), rfl⟩

end PostgresRepository

section Limit

open PostgresRepository

/-- For every order of the rows of a table, a list of them in that order. -/
theorem forall_order_iff {κ : Type} {key : α → κ} {t : Table key} {p : List α → Prop} :
    (∀ order : Table key, order.rows.Perm t.rows → p order.rows) ↔
      ∀ rows : List α, rows.Perm t.rows → p rows := by
  refine ⟨fun h rows hperm => ?_, fun h order hperm => h order.rows hperm⟩
  exact h ⟨rows, (hperm.map key).nodup_iff.mpr t.nodup⟩ hperm

/-- In memory a claim leases all that is due up to its limit. In the database it does so in
every order of the rows exactly when the waiting rows fit the limit, all of them are due and
free, or none is. -/
theorem claims_in_full_iff (repo : InMemoryRepository β) (database : PostgresRepository β)
    (request : LeaseRequest) (hlimit : 0 < request.limit) (now : Time) (fresh : ℕ → Uuid) :
    repo.ClaimsInFull request now fresh ∧
    ((∀ order, order.rows.Perm database.notifications.rows →
        ClaimsNotificationsInFull { database with notifications := order } request now fresh) ↔
      NothingToCut (waitingNotification request) (fun row => row.payload.leasable now)
        request.limit database.notifications.rows) ∧
    ((∀ order, order.rows.Perm database.actionDispatches.rows →
        ClaimsActionsInFull { database with actionDispatches := order } request now fresh) ↔
      NothingToCut (waitingAction request) (fun row => row.payload.leasable now) request.limit
        database.actionDispatches.rows) := by
  refine ⟨repo.claimsInFull request now fresh, ?_, ?_⟩
  · simp only [claimsNotificationsInFull_iff]
    rw [← cutBatch_full_iff hlimit, ← forall_order_iff]
    refine forall₂_congr fun order hperm => ?_
    rw [length_qualifying_of_perm hperm]
  · simp only [claimsActionsInFull_iff]
    rw [← cutBatch_full_iff hlimit, ← forall_order_iff]
    refine forall₂_congr fun order hperm => ?_
    rw [length_qualifying_of_perm hperm]

/-- A notification to Ada, due at a time. -/
def queuedNotification (name : String) (nextAttemptAt : Time) : NotificationRecord where
  travelerId := "ada"
  channel := "in_app"
  recipientReference := "traveler:ada"
  subject := "Delay"
  body := "The flight is late."
  notificationId := .v5 name
  tenantId := "acme"
  nextAttemptAt
  createdAt := 0
  updatedAt := 0

/-- One retry an hour ahead, and one notification that is due. -/
def laterAndDue : PostgresRepository Unit :=
  (({} : PostgresRepository Unit).saveNotification
    (queuedNotification "later" (minutes 60))).saveNotification (queuedNotification "due" 0)

def oneAtATime : LeaseRequest where
  tenantId := none
  workerId := "worker"
  claimTtl := minutes 5
  limit := 1

/-- The retry that lies ahead uses up the limit, and nothing is leased. -/
theorem due_notification_starved :
    ¬laterAndDue.ClaimsNotificationsInFull oneAtATime 0 .v4 := by
  rw [claimsNotificationsInFull_iff]
  decide

theorem claims_in_full_sample : NothingToCut (waitingNotification oneAtATime)
    (fun row => row.payload.leasable (minutes 60)) 1 laterAndDue.notifications.rows ∧
    laterAndDue.ClaimsNotificationsInFull oneAtATime (minutes 60) .v4 := by
  have hcut : NothingToCut (waitingNotification oneAtATime)
      (fun row => row.payload.leasable (minutes 60)) 1 laterAndDue.notifications.rows :=
    .inr (.inl (by decide))
  have h := claims_in_full_iff ({} : InMemoryRepository Unit) laterAndDue oneAtATime (by decide)
    (minutes 60) .v4
  exact ⟨hcut, h.2.1.mpr hcut laterAndDue.notifications (.refl _)⟩

end Limit

end RouteShield
