import RouteShield.Lib.History
import RouteShield.Store.Erase

/-!
The governance histories in both repositories: the changes of tenant and platform controls, the
legal holds and the erasure requests. The in-memory repository lists changes as they were saved and
the other records by time; PostgreSQL lists everything by the random identifier, refuses a change
under a taken identifier, and selects on columns that an update does not touch. Texts are taken to
hold no U+0000, which PostgreSQL refuses to store.
-/

namespace RouteShield

variable {α β : Type}

/-- `ORDER BY` the identifier. -/
def orderedBy (id : α → Uuid) (items : List α) : List α :=
  items.mergeSort (fun a b => (id a).str ≤ (id b).str)

/-! ### The listings -/

namespace InMemoryRepository

variable (repo : InMemoryRepository β)

def listRuntimeControlChanges (tenantId : String) : List RuntimeControlChange :=
  repo.runtimeControlChanges.filter (fun record => record.tenantId = tenantId)

def listPlatformControlChanges : List PlatformRuntimeControlChange := repo.platformControlChanges

def listDeletionRequests (tenantId : String) (travelerId : Option String) : List DeletionRequest :=
  sortedBy (·.submittedAt) (·.deletionRequestId) (repo.deletionRequests.rows.filter (fun request =>
    request.tenantId = tenantId ∧ (travelerId = none ∨ travelerId = some request.travelerId)))

end InMemoryRepository

namespace PostgresRepository

variable (repo : PostgresRepository β)

def listRuntimeControlChanges (tenantId : String) : List RuntimeControlChange :=
  orderedBy (·.controlChangeId)
    (repo.runtimeControlChanges.rows.filter (fun record => record.tenantId = tenantId))

def listPlatformControlChanges : List PlatformRuntimeControlChange :=
  orderedBy (·.controlChangeId) repo.platformControlChanges.rows

/-- An empty filter is no filter. -/
def listDeletionRequests (tenantId : String) (travelerId : Option String) : List DeletionRequest :=
  orderedBy (·.deletionRequestId) ((repo.deletionRequests.rows.filter (fun row =>
    row.tenantId = tenantId ∧ (truthy travelerId = false ∨ travelerId = some row.travelerId))).map
    DeletionRequestRow.payload)

end PostgresRepository

/-! ### Two orders -/

theorem orderedBy_trans (id : α → Uuid) (a b c : α)
    (hab : decide ((id a).str ≤ (id b).str) = true) (hbc : decide ((id b).str ≤ (id c).str) = true) :
    decide ((id a).str ≤ (id c).str) = true :=
  decide_eq_true (String.le_trans (of_decide_eq_true hab) (of_decide_eq_true hbc))

theorem orderedBy_total (id : α → Uuid) (a b : α) :
    (decide ((id a).str ≤ (id b).str) || decide ((id b).str ≤ (id a).str)) = true := by
  rw [Bool.or_eq_true, decide_eq_true_eq, decide_eq_true_eq]
  exact String.le_total _ _

/-- A listing by identifier and a listing by time are equal when they show the same rows and times
ascend with identifiers. -/
theorem orderedBy_eq_sortedBy_iff {time : α → Time} {id : α → Uuid} {rows rows' : List α}
    (hrows : (rows.map id).Nodup) (hrows' : (rows'.map id).Nodup) :
    orderedBy id rows' = sortedBy time id rows ↔
      (∀ a, a ∈ rows' ↔ a ∈ rows) ∧
        ∀ a ∈ rows, ∀ b ∈ rows, (id a).str ≤ (id b).str → time a ≤ time b := by
  have hinj := fun a ha b hb => List.inj_on_of_nodup_map hrows (x := a) ha (y := b) hb
  unfold orderedBy sortedBy
  rw [History.mergeSort_eq_mergeSort_iff _ _ (orderedBy_trans id) (orderedBy_total id)
    (List.Nodup.of_map id hrows) (List.Nodup.of_map id hrows')]
  · refine and_congr_right fun _ => forall₄_congr fun a ha b hb => ?_
    rw [decide_eq_true_eq, decide_eq_true_eq]
    refine forall_congr' fun hid => ?_
    rw [and_iff_left hid]
    exact le_iff_lt_or_eq.symm
  · intro a ha b hb hab hba
    exact hinj a ha b hb (sortedBy_antisymm (of_decide_eq_true hab) (of_decide_eq_true hba))
  · intro a ha b hb hab hba
    exact hinj a ha b hb
      (Uuid.str_injective (String.le_antisymm (of_decide_eq_true hab) (of_decide_eq_true hba)))
  · intro a b c hab hbc
    exact decide_eq_true (sortedBy_trans (of_decide_eq_true hab) (of_decide_eq_true hbc))
  · intro a b
    rw [Bool.or_eq_true, decide_eq_true_eq, decide_eq_true_eq]
    exact sortedBy_total time id a b

open History

/-! ### Changes that are appended -/

/-- Changes that PostgreSQL lists as they were saved: each of those shown came under a new
identifier, and their identifiers ascend. -/
def SavedInOrder (id : α → Uuid) (shown : α → Bool) (writes : List α) : Prop :=
  NewKeys id shown writes ∧
    (writes.filter shown).Pairwise (fun a b => (id a).str ≤ (id b).str)

theorem orderedBy_filter_accepted_iff (id : α → Uuid) (shown : α → Bool) (writes : List α) :
    orderedBy id ((accepted id writes).filter shown) = writes.filter shown ↔
      SavedInOrder id shown writes := by
  unfold orderedBy SavedInOrder
  rw [filter_eq_mergeSort_iff id (orderedBy_trans id) (orderedBy_total id)]
  simp only [decide_eq_true_eq]

theorem orderedBy_accepted_iff (id : α → Uuid) (writes : List α) :
    orderedBy id (accepted id writes) = writes ↔ SavedInOrder id (fun _ => true) writes := by
  rw [← orderedBy_filter_accepted_iff, List.filter_true, List.filter_true]

/-! ### Records that are updated -/

/-- Rows that PostgreSQL selects on their first and last write, and the in-memory repository on the
last: both tests agree on every identifier, and times ascend with identifiers. -/
def KeptAlike (id : α → Uuid) (time : α → Time) (stored : α → α → Bool) (shown : α → Bool)
    (writes : List α) : Prop :=
  (∀ k first last, first? id writes k = some first → last? id writes k = some last →
    (stored first last = true ↔ shown last = true)) ∧
  ∀ a b, last? id writes (id a) = some a → last? id writes (id b) = some b →
    shown a = true → shown b = true → (id a).str ≤ (id b).str → time a ≤ time b

section Updated

variable {ρ γ : Type} {id : α → Uuid} {payload : ρ → α} {column : α → γ} {columnOf : ρ → γ}
  {mk : γ → α → ρ}

theorem mem_put_rows (shown : α → Bool) (writes : List α) (a : α) :
    a ∈ (writes.foldl Table.put (.empty : Table id)).rows.filter shown ↔
      last? id writes (id a) = some a ∧ shown a = true := by
  rw [List.mem_filter, ← Table.mem_def, ← find?_foldl_put, Table.find?_eq_some,
    and_iff_left (rfl : id a = id a)]

/-- The upserts that `saveLegalHold` and `saveDeletionRequest` are. -/
def upserts (id : α → Uuid) (payload : ρ → α) (column : α → γ) (columnOf : ρ → γ) (mk : γ → α → ρ)
    (writes : List α) : Table (fun row => id (payload row)) :=
  writes.foldl (fun t a => t.put (mk (((t.find? (id a)).map columnOf).getD (column a)) a)) .empty

theorem mem_upserted_rows (hpayload : ∀ c a, payload (mk c a) = a)
    (hcolumn : ∀ c a, columnOf (mk c a) = c) (test : ρ → Bool) (writes : List α) (a : α) :
    a ∈ ((upserts id payload column columnOf mk writes).rows.filter test).map payload ↔
      ∃ first, first? id writes (id a) = some first ∧ last? id writes (id a) = some a ∧
        test (mk (column first) a) = true := by
  have hfind : ∀ k, (upserts id payload column columnOf mk writes).find? k =
      (first? id writes k).bind (fun f => (last? id writes k).map (mk (column f))) := by
    intro k
    unfold upserts
    apply find?_foldl_upsert
    · exact fun c a => congrArg id (hpayload c a)
    · exact hcolumn
  constructor
  · intro ha
    obtain ⟨row, hrow, rfl⟩ := List.mem_map.mp ha
    obtain ⟨hmem, htest⟩ := List.mem_filter.mp hrow
    have hrow' := Table.find?_key _ hmem
    rw [hfind] at hrow'
    obtain ⟨first, hfirst, hrow'⟩ := Option.bind_eq_some_iff.mp hrow'
    obtain ⟨last, hlast, rfl⟩ := Option.map_eq_some_iff.mp hrow'
    rw [hpayload] at hfirst hlast ⊢
    exact ⟨first, hfirst, hlast, htest⟩
  · rintro ⟨first, hfirst, hlast, htest⟩
    have hrow := hfind (id a)
    rw [hfirst, Option.bind_some, hlast, Option.map_some] at hrow
    exact List.mem_map.mpr ⟨_, List.mem_filter.mpr ⟨((Table.find?_eq_some _).mp hrow).1, htest⟩,
      hpayload _ _⟩

theorem upserted_alike_iff (hpayload : ∀ c a, payload (mk c a) = a)
    (hcolumn : ∀ c a, columnOf (mk c a) = c) {time : α → Time} (test : ρ → Bool)
    (shown : α → Bool) (writes : List α) :
    orderedBy id (((upserts id payload column columnOf mk writes).rows.filter test).map payload) =
        sortedBy time id ((writes.foldl Table.put (.empty : Table id)).rows.filter shown) ↔
      KeptAlike id time (fun first last => test (mk (column first) last)) shown writes := by
  rw [orderedBy_eq_sortedBy_iff]
  · simp only [mem_put_rows, mem_upserted_rows hpayload hcolumn]
    refine and_congr ⟨fun h k first last hfirst hlast => ?_, fun h a => ?_⟩
      ⟨fun h a b ha hb hsa hsb => h a ⟨ha, hsa⟩ b ⟨hb, hsb⟩,
        fun h a ha b hb => h a b ha.1 hb.1 ha.2 hb.2⟩
    · obtain rfl := key_of_last? hlast
      constructor
      · intro htest
        exact ((h last).mp ⟨first, hfirst, hlast, htest⟩).2
      · intro hshown
        obtain ⟨first', hfirst', -, htest⟩ := (h last).mpr ⟨hlast, hshown⟩
        cases hfirst.symm.trans hfirst'
        exact htest
    · constructor
      · rintro ⟨first, hfirst, hlast, htest⟩
        exact ⟨hlast, (h (id a) first a hfirst hlast).mp htest⟩
      · rintro ⟨hlast, hshown⟩
        cases hfirst : first? id writes (id a) with
        | none => rw [first?_eq_none.mp hfirst] at hlast; cases hlast
        | some first => exact ⟨first, rfl, hlast, (h (id a) first a hfirst hlast).mpr hshown⟩
  · exact (Table.nodup _).sublist (List.filter_sublist.map id)
  · rw [List.map_map]
    exact (Table.nodup _).sublist (List.filter_sublist.map _)

end Updated

/-! ### Runs of saves -/

inductive HistorySave where
  | runtimeControl (record : RuntimeControlChange)
  | platformControl (record : PlatformRuntimeControlChange)
  | legalHold (hold : LegalHoldRecord)
  | deletionRequest (request : DeletionRequest)

namespace HistorySave

def runtimeControl? : HistorySave → Option RuntimeControlChange
  | .runtimeControl record => some record
  | _ => none

def platformControl? : HistorySave → Option PlatformRuntimeControlChange
  | .platformControl record => some record
  | _ => none

def legalHold? : HistorySave → Option LegalHoldRecord
  | .legalHold hold => some hold
  | _ => none

def deletionRequest? : HistorySave → Option DeletionRequest
  | .deletionRequest request => some request
  | _ => none

end HistorySave

def InMemoryRepository.save (repo : InMemoryRepository β) : HistorySave → InMemoryRepository β
  | .runtimeControl record => repo.saveRuntimeControlChange record
  | .platformControl record => repo.savePlatformControlChange record
  | .legalHold hold => repo.saveLegalHold hold
  | .deletionRequest request => repo.saveDeletionRequest request

/-- A save that fails is rolled back. -/
def PostgresRepository.save (repo : PostgresRepository β) : HistorySave → PostgresRepository β
  | .runtimeControl record => (repo.saveRuntimeControlChange record).toOption.getD repo
  | .platformControl record => (repo.savePlatformControlChange record).toOption.getD repo
  | .legalHold hold => repo.saveLegalHold hold
  | .deletionRequest request => repo.saveDeletionRequest request

/-! ### Queries -/

/-- The list operations, by what they list. -/
inductive HistoryQuery : Type → Type where
  | runtimeControlChanges (tenantId : String) : HistoryQuery RuntimeControlChange
  | platformControlChanges : HistoryQuery PlatformRuntimeControlChange
  | legalHolds (tenantId : String) : HistoryQuery LegalHoldRecord
  | deletionRequests (tenantId : String) (travelerId : Option String) : HistoryQuery DeletionRequest
  | pendingDeletionRequests : HistoryQuery DeletionRequest

namespace HistoryQuery

def memory (repo : InMemoryRepository β) : HistoryQuery α → List α
  | runtimeControlChanges tenantId => repo.listRuntimeControlChanges tenantId
  | platformControlChanges => repo.listPlatformControlChanges
  | legalHolds tenantId => repo.listLegalHolds tenantId
  | deletionRequests tenantId travelerId => repo.listDeletionRequests tenantId travelerId
  | pendingDeletionRequests => repo.listPendingDeletionRequests

def postgres (repo : PostgresRepository β) : HistoryQuery α → List α
  | runtimeControlChanges tenantId => repo.listRuntimeControlChanges tenantId
  | platformControlChanges => repo.listPlatformControlChanges
  | legalHolds tenantId => repo.listLegalHolds tenantId
  | deletionRequests tenantId travelerId => repo.listDeletionRequests tenantId travelerId
  | pendingDeletionRequests => repo.listPendingDeletionRequests

/-- When the saves leave both repositories with one answer to a query. -/
def Alike (saves : List HistorySave) : HistoryQuery α → Prop
  | runtimeControlChanges tenantId =>
    SavedInOrder (fun record : RuntimeControlChange => record.controlChangeId)
      (fun record => record.tenantId = tenantId) (saves.filterMap HistorySave.runtimeControl?)
  | platformControlChanges =>
    SavedInOrder (fun record : PlatformRuntimeControlChange => record.controlChangeId)
      (fun _ => true) (saves.filterMap HistorySave.platformControl?)
  | legalHolds tenantId =>
    KeptAlike (fun hold : LegalHoldRecord => hold.legalHoldId) (fun hold => hold.createdAt)
      (fun first _ => first.tenantId = tenantId) (fun last => last.tenantId = tenantId)
      (saves.filterMap HistorySave.legalHold?)
  | deletionRequests tenantId travelerId =>
    KeptAlike (fun request : DeletionRequest => request.deletionRequestId)
      (fun request => request.submittedAt)
      (fun first _ => first.tenantId = tenantId ∧
        (truthy travelerId = false ∨ travelerId = some first.travelerId))
      (fun last => last.tenantId = tenantId ∧
        (travelerId = none ∨ travelerId = some last.travelerId))
      (saves.filterMap HistorySave.deletionRequest?)
  | pendingDeletionRequests =>
    KeptAlike (fun request : DeletionRequest => request.deletionRequestId)
      (fun request => request.submittedAt) (fun _ last => last.pending) DeletionRequest.pending
      (saves.filterMap HistorySave.deletionRequest?)

end HistoryQuery

/-! ### What a run leaves in each collection -/

theorem foldl_concat_self (items : List α) : items.foldl (fun xs x => xs ++ [x]) [] = items := by
  induction items using List.reverseRecOn with
  | nil => rfl
  | append_singleton items a ih => rw [List.foldl_concat, ih]

section Collections

variable (saves : List HistorySave)

/-- The in-memory repository after the saves. -/
def InMemoryRepository.saved : InMemoryRepository β := saves.foldl InMemoryRepository.save {}

/-- The PostgreSQL repository after the saves. -/
def PostgresRepository.saved : PostgresRepository β := saves.foldl PostgresRepository.save {}

namespace InMemoryRepository

theorem runtimeControlChanges_saved : (saved saves : InMemoryRepository β).runtimeControlChanges =
    saves.filterMap HistorySave.runtimeControl? := by
  rw [saved, foldl_component runtimeControlChanges HistorySave.runtimeControl?
    (fun records record => records ++ [record]) (fun s i => by cases i <;> rfl)]
  exact foldl_concat_self _

theorem platformControlChanges_saved : (saved saves : InMemoryRepository β).platformControlChanges =
    saves.filterMap HistorySave.platformControl? := by
  rw [saved, foldl_component platformControlChanges HistorySave.platformControl?
    (fun records record => records ++ [record]) (fun s i => by cases i <;> rfl)]
  exact foldl_concat_self _

theorem legalHolds_saved : (saved saves : InMemoryRepository β).legalHolds =
    (saves.filterMap HistorySave.legalHold?).foldl Table.put .empty :=
  foldl_component legalHolds HistorySave.legalHold? Table.put (fun s i => by cases i <;> rfl) saves _

theorem deletionRequests_saved : (saved saves : InMemoryRepository β).deletionRequests =
    (saves.filterMap HistorySave.deletionRequest?).foldl Table.put .empty :=
  foldl_component deletionRequests HistorySave.deletionRequest? Table.put
    (fun s i => by cases i <;> rfl) saves _

end InMemoryRepository

namespace PostgresRepository

/-- A change under a taken identifier leaves the repository, and the other saves always succeed. -/
theorem save_components (repo : PostgresRepository β) (s : HistorySave) :
    (repo.save s).runtimeControlChanges =
        s.runtimeControl?.elim repo.runtimeControlChanges (accept repo.runtimeControlChanges) ∧
      (repo.save s).platformControlChanges =
        s.platformControl?.elim repo.platformControlChanges (accept repo.platformControlChanges) ∧
      (repo.save s).legalHolds = s.legalHold?.elim repo.legalHolds
        (fun hold => repo.legalHolds.upsertPayload hold.tenantId hold) ∧
      (repo.save s).deletionRequests = s.deletionRequest?.elim repo.deletionRequests
        (fun request => (repo.saveDeletionRequest request).deletionRequests) := by
  cases s with
  | runtimeControl record =>
    cases h : repo.runtimeControlChanges.insert record <;>
      simp [save, saveRuntimeControlChange, Table.inserted, accept, h, HistorySave.runtimeControl?,
        HistorySave.platformControl?, HistorySave.legalHold?, HistorySave.deletionRequest?] <;>
      exact ⟨rfl, rfl, rfl, rfl⟩
  | platformControl record =>
    cases h : repo.platformControlChanges.insert record <;>
      simp [save, savePlatformControlChange, Table.inserted, accept, h, HistorySave.runtimeControl?,
        HistorySave.platformControl?, HistorySave.legalHold?, HistorySave.deletionRequest?] <;>
      exact ⟨rfl, rfl, rfl, rfl⟩
  | legalHold hold => exact ⟨rfl, rfl, rfl, rfl⟩
  | deletionRequest request => exact ⟨rfl, rfl, rfl, rfl⟩

theorem runtimeControlChanges_saved : (saved saves : PostgresRepository β).runtimeControlChanges.rows =
    accepted (fun record => record.controlChangeId) (saves.filterMap HistorySave.runtimeControl?) := by
  rw [saved, foldl_component runtimeControlChanges HistorySave.runtimeControl? accept
    (fun s i => (s.save_components i).1)]
  rfl

theorem platformControlChanges_saved :
    (saved saves : PostgresRepository β).platformControlChanges.rows =
      accepted (fun record => record.controlChangeId)
        (saves.filterMap HistorySave.platformControl?) := by
  rw [saved, foldl_component platformControlChanges HistorySave.platformControl? accept
    (fun s i => (s.save_components i).2.1)]
  rfl

theorem legalHolds_saved : (saved saves : PostgresRepository β).legalHolds =
    upserts (fun hold : LegalHoldRecord => hold.legalHoldId) TenantRow.payload
      LegalHoldRecord.tenantId TenantRow.tenantId TenantRow.mk
      (saves.filterMap HistorySave.legalHold?) :=
  foldl_component legalHolds HistorySave.legalHold? _ (fun s i => (s.save_components i).2.2.1)
    saves _

theorem deletionRequests_saved : (saved saves : PostgresRepository β).deletionRequests =
    upserts (fun request : DeletionRequest => request.deletionRequestId) DeletionRequestRow.payload
      (fun request => (request.tenantId, request.travelerId))
      (fun row => (row.tenantId, row.travelerId)) (fun columns => .mk columns.1 columns.2)
      (saves.filterMap HistorySave.deletionRequest?) :=
  foldl_component deletionRequests HistorySave.deletionRequest? _
    (fun s i => (s.save_components i).2.2.2) saves _

end PostgresRepository

end Collections

/-! ### The answers -/

/-- Both repositories answer a query alike exactly when the identifiers of what it shows ascend with
the times (or with the order of saving), no identifier of a change is saved twice, and no update
moves a record into or out of the selection that PostgreSQL makes on the first write. -/
theorem histories_alike_iff (saves : List HistorySave) (query : HistoryQuery α) :
    query.postgres (PostgresRepository.saved saves : PostgresRepository β) =
        query.memory (InMemoryRepository.saved saves : InMemoryRepository β) ↔
      query.Alike saves := by
  cases query with
  | runtimeControlChanges tenantId =>
    simp only [HistoryQuery.postgres, HistoryQuery.memory,
      PostgresRepository.listRuntimeControlChanges, InMemoryRepository.listRuntimeControlChanges,
      PostgresRepository.runtimeControlChanges_saved,
      InMemoryRepository.runtimeControlChanges_saved]
    exact orderedBy_filter_accepted_iff _ _ _
  | platformControlChanges =>
    simp only [HistoryQuery.postgres, HistoryQuery.memory,
      PostgresRepository.listPlatformControlChanges, InMemoryRepository.listPlatformControlChanges,
      PostgresRepository.platformControlChanges_saved,
      InMemoryRepository.platformControlChanges_saved]
    exact orderedBy_accepted_iff _ _
  | legalHolds tenantId =>
    simp only [HistoryQuery.postgres, HistoryQuery.memory,
      PostgresRepository.listLegalHolds, InMemoryRepository.listLegalHolds,
      PostgresRepository.legalHolds_saved, InMemoryRepository.legalHolds_saved]
    exact upserted_alike_iff (fun _ _ => rfl) (fun _ _ => rfl) _ _ _
  | deletionRequests tenantId travelerId =>
    simp only [HistoryQuery.postgres, HistoryQuery.memory,
      PostgresRepository.listDeletionRequests, InMemoryRepository.listDeletionRequests,
      PostgresRepository.deletionRequests_saved, InMemoryRepository.deletionRequests_saved]
    exact upserted_alike_iff (fun _ _ => rfl) (fun _ _ => rfl) _ _ _
  | pendingDeletionRequests =>
    simp only [HistoryQuery.postgres, HistoryQuery.memory,
      PostgresRepository.listPendingDeletionRequests,
      InMemoryRepository.listPendingDeletionRequests,
      PostgresRepository.deletionRequests_saved, InMemoryRepository.deletionRequests_saved]
    exact upserted_alike_iff (fun _ _ => rfl) (fun _ _ => rfl) _ _ _

/-! ### Two holds -/

/-- A hold of the tenant with its identifier and the time of its creation. -/
def listedHold (n : ℕ) (createdAt : Time) : LegalHoldRecord where
  legalHoldId := .v4 n
  tenantId := "acme"
  scope := .tenant
  reason := "litigation"
  createdBy := "counsel"
  createdAt
  validScope := .onTenant

/-- The older hold drew the greater identifier. -/
def listedHolds : List HistorySave := [.legalHold (listedHold 2 0), .legalHold (listedHold 1 1)]

/-- In memory the older hold is listed first, in PostgreSQL the younger. -/
theorem holds_listed_apart :
    (InMemoryRepository.saved listedHolds : InMemoryRepository Unit).listLegalHolds "acme" =
        [listedHold 2 0, listedHold 1 1] ∧
      (PostgresRepository.saved listedHolds : PostgresRepository Unit).listLegalHolds "acme" =
        [listedHold 1 1, listedHold 2 0] := by
  constructor
  · have hrows : (InMemoryRepository.saved listedHolds : InMemoryRepository Unit).legalHolds.rows.filter
        (fun hold => hold.tenantId = "acme") = [listedHold 2 0, listedHold 1 1] := by decide +kernel
    rw [InMemoryRepository.listLegalHolds, hrows, sortedBy, mergeSort_pair]
    exact if_pos (by decide +kernel)
  · have hrows : ((PostgresRepository.saved listedHolds :
        PostgresRepository Unit).legalHolds.rows.filter (fun row => row.tenantId = "acme")).map
        TenantRow.payload = [listedHold 2 0, listedHold 1 1] := by decide +kernel
    rw [PostgresRepository.listLegalHolds, hrows, mergeSort_pair]
    exact if_neg (by decide +kernel)

end RouteShield
