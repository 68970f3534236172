import Mathlib.Algebra.BigOperators.Group.Finset.Basic
import Mathlib.Algebra.Order.BigOperators.Group.Finset
import Mathlib.Data.Int.Interval
import RouteShield.Api.TrustedCallers

/-!
The limiter that the replicas share. A request is counted in the shared store under its window, and
is admitted when its count is within the limit. A counter outlives its window by the second that is
added to its deadline, which is what the clocks of the replicas may differ from the store's by:
while every count is taken within half a second of the window it is taken for, each window admits a
key no more often than the limit.
-/

namespace RouteShield

/-- Half a second, in the unit of time. -/
def halfSecond : ℤ := 500000

/-- Half a second before a window. -/
def opens (windowStart : ℤ) : Time := seconds windowStart - halfSecond

namespace RedisFixedWindowRateLimiter

variable (limiter : RedisFixedWindowRateLimiter)

/-- Half a second after a window. -/
def closes (windowStart : ℤ) : Time := seconds (windowStart + limiter.windowSeconds) + halfSecond

theorem windowStart_dvd (now : Time) : (limiter.windowSeconds : ℤ) ∣ limiter.windowStart now :=
  Int.dvd_self_sub_emod

end RedisFixedWindowRateLimiter

/-! ### Keys of counters -/

/-- The counters of different windows and of different requests have different keys. -/
theorem RedisKey.str_injective : Function.Injective RedisKey.str := by
  rintro ⟨start, key⟩ ⟨start', key'⟩ h
  unfold str at h
  simp only [String.append_assoc, String.append_right_inj] at h
  rw [← String.append_assoc, ← String.append_assoc,
    Separated.colon_eq_iff_of_notMem (colon_notMem_toString start)] at h
  rcases h with ⟨hstart, rfl⟩ | ⟨x, hstart, -⟩
  · obtain rfl := toString_injective hstart
    rfl
  · refine absurd ?_ (colon_notMem_toString start')
    rw [hstart]
    simp

/-- How far a request has come: what it was counted as, and the end once its endpoint is called. -/
inductive LimitPhase where
  | arrived
  | counted (key : RedisKey) (count : ℕ)
  | over
  deriving DecidableEq

namespace LimitPhase

def advance : LimitPhase → {α : Type} → GatewayOp α → Except Fault α → LimitPhase
  | .arrived, _, .incr key, .ok count => .counted key count
  | .arrived, _, .incr _, .error _ => .over
  | .counted _ _, _, .callNext _, _ => .over
  | φ, _, _, _ => φ

def allowed (limiter : RedisFixedWindowRateLimiter) : LimitPhase → {α : Type} → GatewayOp α → Prop
  | φ, _, .incr key => φ = .arrived ∧ (limiter.windowSeconds : ℤ) ∣ key.windowStart
  | _, _, .expire _ after => after = limiter.windowSeconds + 1
  | _, _, .checkLocal _ _ => False
  | φ, _, .callNext request => request.isHealthCheck = true ∨
    ∃ key count, φ = .counted key count ∧ count ≤ limiter.limit ∧ key.key = request.limitKey
  | _, _, _ => True

/-- The request is admitted under a key and its endpoint is still to be called. -/
def admits (limiter : RedisFixedWindowRateLimiter) (key : String) : LimitPhase → Bool
  | .counted k count => k.key = key && count ≤ limiter.limit
  | _ => false

end LimitPhase

/-- A request on its way through a limiter that is required. -/
def limitation (limiter : RedisFixedWindowRateLimiter) :
    Prog.Contract GatewayOp Fault LimitPhase where
  allowed φ := φ.allowed limiter
  promised _ := fun _ _ => True
  advance φ := φ.advance
  stop _ := True

namespace Gateway

open Prog

variable {gw : Gateway} {limiter : RedisFixedWindowRateLimiter}

/-- The calls of an authentication. -/
def authenticating : {α : Type} → GatewayOp α → Prop
  | _, .decodeToken _ _ _ _ => True
  | _, _ => False

theorem only_authenticate (request : HttpRequest) :
    (gw.authenticate request).Only authenticating := by
  unfold authenticate validateBearerToken
  split
  · split
    · exact only_pure _
    · refine only_bind (only_catching ?_) fun answer => ?_
      · split
        · refine only_bind (only_perform trivial) fun claims => ?_
          exact CallFree.only ⟨_, rfl⟩
        · exact only_throw _
      · split
        · exact only_pure _
        · split <;> exact only_pure _
  · split <;> exact only_pure _

theorem authenticate_limitation (request : HttpRequest) :
    (gw.authenticate request).Follows (limitation limiter) (fun φ _ => φ = .arrived) .arrived := by
  refine (only_authenticate request).keeps (fun op hop => ?_) (fun op answer hop => ?_) trivial
  · cases op with
    | decodeToken => trivial
    | _ => exact hop.elim
  · cases op with
    | decodeToken => rfl
    | _ => exact hop.elim

/-- A check that is allowed has counted the request within the limit. -/
theorem check_limitation (replica : ℕ) (key : String) :
    (limiter.check replica key).catching.Follows (limitation limiter)
      (fun φ answer => ∀ decision, answer = .ok decision → decision.allowed = true →
        ∃ k count, φ = .counted k count ∧ count ≤ limiter.limit ∧ k.key = key) .arrived := by
  refine follows_catching ?_
  unfold RedisFixedWindowRateLimiter.check
  refine follows_bind (P := fun φ _ => φ = .arrived)
    (follows_perform trivial (fun _ _ => rfl) fun _ _ _ _ h => by cases h) ?_
  rintro _ now rfl
  refine follows_bind
    (P := fun φ count => φ = .counted ⟨limiter.windowStart now, key⟩ count)
    (follows_perform ⟨rfl, limiter.windowStart_dvd now⟩ (fun _ _ => rfl)
      fun _ _ _ _ h => by cases h) ?_
  rintro _ count rfl
  refine follows_bind (P := fun φ _ => φ = .counted ⟨limiter.windowStart now, key⟩ count) ?_ ?_
  · unfold RedisFixedWindowRateLimiter.expireFirst
    split_ifs
    · exact follows_perform rfl (fun _ _ => rfl) fun _ _ _ _ h => by cases h
    · exact follows_pure rfl
  · rintro _ _ rfl
    refine follows_pure fun decision h hallowed => ?_
    obtain rfl := Except.ok.inj h
    exact ⟨_, count, rfl, of_decide_eq_true hallowed, rfl⟩

theorem limitRate_limitation (hshared : gw.sharedRateLimiter = some limiter)
    (hrequired : gw.rateLimitRedisRequired = true) (replica : ℕ) (key : String) :
    (gw.limitRate replica key).Follows (limitation limiter)
      (fun φ answer => ∀ decision, answer = some decision → decision.allowed = true →
        ∃ k count, φ = .counted k count ∧ count ≤ limiter.limit ∧ k.key = key) .arrived := by
  unfold limitRate
  rw [hshared]
  refine follows_bind (check_limitation replica key) fun φ answer h => ?_
  cases answer with
  | ok decision =>
    refine follows_pure fun decision' h' => ?_
    obtain rfl := Option.some.inj h'
    exact h decision rfl
  | error fault =>
    dsimp only
    rw [if_pos hrequired]
    exact follows_pure fun _ h' => by cases h'

theorem serve_limitation (hshared : gw.sharedRateLimiter = some limiter)
    (hrequired : gw.rateLimitRedisRequired = true) (arrival : ℕ × HttpRequest) :
    (gw.serve arrival).Follows (limitation limiter) (fun _ _ => True) .arrived := by
  refine follows_bind (P := fun _ _ => True) ?_ fun _ _ _ => trivial
  refine follows_bind (authenticate_limitation arrival.2) ?_
  rintro _ answer rfl
  cases answer with
  | error refusal => exact follows_pure trivial
  | ok request =>
    refine follows_bind (limitRate_limitation hshared hrequired arrival.1 request.limitKey)
      fun φ answer h => ?_
    cases answer with
    | none => exact follows_pure trivial
    | some decision =>
      dsimp only
      split_ifs with hrefused
      · exact follows_pure trivial
      · refine follows_map (follows_perform ?_ (fun _ _ => trivial) fun _ _ => trivial)
        rw [Bool.and_eq_true, not_and_or, Bool.not_eq_true', Bool.not_eq_true',
          Bool.not_eq_false, Bool.not_eq_false] at hrefused
        exact hrefused.imp_right fun hallowed => h decision rfl hallowed

end Gateway

/-! ### What the windows grant -/

/-- The counter that a call increments. -/
def GatewayOp.incremented? : {α : Type} → GatewayOp α → Option RedisKey
  | _, .incr key => some key
  | _, _ => none

/-- Every count is taken within half a second of the window it is taken for. -/
def Prompt (limiter : RedisFixedWindowRateLimiter) (pool : Pool GatewayOp Fault Fleet)
    (e : PoolEvent (ℕ × HttpRequest)) : Prop :=
  ∀ key ∈ pool.next? GatewayOp.incremented? e, opens key.windowStart ≤ pool.state.time ∧
    pool.state.time < limiter.closes key.windowStart

instance (limiter : RedisFixedWindowRateLimiter) (pool : Pool GatewayOp Fault Fleet)
    (e : PoolEvent (ℕ × HttpRequest)) : Decidable (Prompt limiter pool e) :=
  inferInstanceAs (Decidable (∀ key ∈ pool.next? GatewayOp.incremented? e,
    opens key.windowStart ≤ pool.state.time ∧ pool.state.time < limiter.closes key.windowStart))

/-- The requests of a key whose endpoints were called. -/
def Fleet.servedFor (fleet : Fleet) (key : String) : List HttpRequest :=
  fleet.served.filter fun request => !request.isHealthCheck && request.limitKey = key

/-- The windows that granted a key, each as often as it did: each counter counts what it granted,
and no more of the key's requests are served, or admitted to be, than were granted. -/
structure Granted (limiter : RedisFixedWindowRateLimiter) (key : String) (start : Time)
    (grants : List ℤ) (phases : List LimitPhase) (fleet : Fleet) : Prop where
  since : start ≤ fleet.time
  counters : ∀ w, Counter.Grants limiter.limit (opens w) (limiter.closes w) (grants.count w)
    fleet.time (fleet.counters (RedisKey.str ⟨w, key⟩))
  windows : ∀ w ∈ grants, (limiter.windowSeconds : ℤ) ∣ w ∧ opens w ≤ fleet.time ∧
    start < limiter.closes w
  served : (fleet.servedFor key).length + phases.countP (LimitPhase.admits limiter key) ≤
    grants.length

section Granting

variable {limiter : RedisFixedWindowRateLimiter} {env : FleetEnv} {fleet fleet' : Fleet}
  {key : String} {start : Time} {grants : List ℤ} {phases : List LimitPhase} {φ φ' : LimitPhase}
  {i : ℕ}

/-- Counting in a list with one element changed. -/
theorem countP_set_add (p : LimitPhase → Bool) (φ' : LimitPhase) (hi : phases[i]? = some φ) :
    (phases.set i φ').countP p + (if p φ then 1 else 0) =
      phases.countP p + if p φ' then 1 else 0 := by
  obtain ⟨hlt, hget⟩ := List.getElem?_eq_some_iff.mp hi
  have hle : (if p φ then 1 else 0) ≤ phases.countP p := by
    split_ifs with hp
    · exact List.countP_pos_iff.mpr ⟨φ, List.mem_of_getElem? hi, hp⟩
    · exact Nat.zero_le _
  rw [List.countP_set hlt, hget]
  omega

/-- A call after which the counters of the key still count what was granted, and that serves and
admits nobody. -/
theorem Granted.still (h : Granted limiter key start grants phases fleet)
    (hi : phases[i]? = some φ) (htime : fleet.time ≤ fleet'.time)
    (hcounters : ∀ w, Counter.Grants limiter.limit (opens w) (limiter.closes w) (grants.count w)
      fleet.time (fleet'.counters (RedisKey.str ⟨w, key⟩)))
    (hserved : fleet'.served = fleet.served)
    (hφ : φ'.admits limiter key = true → φ.admits limiter key = true) :
    Granted limiter key start grants (phases.set i φ') fleet' where
  since := h.since.trans htime
  counters w := (hcounters w).later htime
  windows w hw := by
    obtain ⟨hdvd, hopens, hstart⟩ := h.windows w hw
    exact ⟨hdvd, hopens.trans htime, hstart⟩
  served := by
    have hcount := countP_set_add (LimitPhase.admits limiter key) φ' hi
    have hsame : fleet'.servedFor key = fleet.servedFor key := by
      unfold Fleet.servedFor
      rw [hserved]
    have hle := h.served
    rw [hsame]
    split_ifs at hcount with hafter hbefore hbefore
    · omega
    · omega
    · exact absurd (hφ hbefore) hafter
    · omega

theorem Fleet.le_later (fleet : Fleet) (env : FleetEnv) : fleet.time ≤ (fleet.later env).time :=
  Int.le_add_of_nonneg_right (Int.natCast_nonneg _)

/-- The counter of another key is left. -/
theorem update_str_of_ne {k : RedisKey} {w : ℤ} (hne : (⟨w, key⟩ : RedisKey) ≠ k)
    (counters : String → Option (Counter Time)) (counter : Option (Counter Time)) :
    Function.update counters k.str counter (RedisKey.str ⟨w, key⟩) =
      counters (RedisKey.str ⟨w, key⟩) :=
  Function.update_of_ne (fun h => hne (RedisKey.str_injective h)) _ _

/-- A deadline is set that the extra second carries beyond the window. -/
theorem Granted.expire (h : Granted limiter key start grants phases fleet)
    (hi : phases[i]? = some φ) (k : RedisKey) :
    Granted limiter key start grants (phases.set i φ)
      ((fleet.setDeadline k (limiter.windowSeconds + 1)).later env) := by
  refine h.still hi (fleet.le_later env) (fun w => ?_) rfl id
  show Counter.Grants _ _ _ _ _ (Function.update fleet.counters k.str _ _)
  by_cases hk : (⟨w, key⟩ : RedisKey) = k
  · subst hk
    rw [Function.update_self]
    refine (h.counters w).expire fun hopens => ?_
    unfold opens halfSecond seconds at hopens
    unfold RedisFixedWindowRateLimiter.closes halfSecond seconds
    push_cast
    linarith
  · rw [update_str_of_ne hk]
    exact h.counters w

/-- A request is counted: its window grants it when the count is within the limit. -/
theorem Granted.increment (h : Granted limiter key start grants phases fleet) {k : RedisKey}
    (hi : phases[i]? = some φ) (hdvd : (limiter.windowSeconds : ℤ) ∣ k.windowStart)
    (hprompt : opens k.windowStart ≤ fleet.time ∧ fleet.time < limiter.closes k.windowStart)
    (hφ : φ'.admits limiter key = true → k.key = key ∧ (fleet.count k).count ≤ limiter.limit) :
    ∃ grants', Granted limiter key start grants' (phases.set i φ')
      ((fleet.increment k).later env) := by
  by_cases hkey : k.key = key
  · subst hkey
    have hcounter : Counter.Grants limiter.limit (opens k.windowStart)
        (limiter.closes k.windowStart) (if (fleet.count k).count ≤ limiter.limit then
          grants.count k.windowStart + 1 else grants.count k.windowStart) fleet.time
        (some (fleet.count k)) :=
      (h.counters k.windowStart).increment hprompt.1 hprompt.2
    have hgrants : (if (fleet.count k).count ≤ limiter.limit then k.windowStart :: grants
        else grants).count k.windowStart = if (fleet.count k).count ≤ limiter.limit then
          grants.count k.windowStart + 1 else grants.count k.windowStart := by
      split_ifs
      · exact List.count_cons_self
      · rfl
    have hcount := countP_set_add (LimitPhase.admits limiter k.key) φ' hi
    have hle := h.served
    refine ⟨if (fleet.count k).count ≤ limiter.limit then k.windowStart :: grants else grants,
      h.since.trans (fleet.le_later env), fun w => ?_, fun w hw => ?_, ?_⟩
    · refine Counter.Grants.later ?_ (fleet.le_later env)
      show Counter.Grants _ _ _ _ _ (Function.update fleet.counters _ _ _)
      by_cases hw : w = k.windowStart
      · subst hw
        rw [Function.update_self, hgrants]
        exact hcounter
      · rw [update_str_of_ne fun hk => hw (congrArg RedisKey.windowStart hk)]
        convert h.counters w using 1
        split_ifs
        · exact List.count_cons_of_ne (Ne.symm hw)
        · rfl
    · have hnew : w ∈ grants ∨ w = k.windowStart := by
        split_ifs at hw
        · exact (List.mem_cons.mp hw).symm
        · exact .inl hw
      rcases hnew with hw | rfl
      · obtain ⟨hdvd', hopens, hstart⟩ := h.windows w hw
        exact ⟨hdvd', hopens.trans (fleet.le_later env), hstart⟩
      · exact ⟨hdvd, hprompt.1.trans (fleet.le_later env), h.since.trans_lt hprompt.2⟩
    · show (fleet.servedFor _).length + _ ≤ _
      split_ifs with hlimit
      · rw [List.length_cons]
        split_ifs at hcount <;> omega
      · rw [if_neg fun hadmits => hlimit (hφ hadmits).2] at hcount
        split_ifs at hcount <;> omega
  · refine ⟨grants, h.still hi (fleet.le_later env) (fun w => ?_) rfl
      fun hadmits => absurd (hφ hadmits).1 hkey⟩
    show Counter.Grants _ _ _ _ _ (Function.update fleet.counters k.str _ _)
    have hne : (⟨w, key⟩ : RedisKey) ≠ k := by
      rintro rfl
      exact hkey rfl
    rw [update_str_of_ne hne]
    exact h.counters w

/-- An admitted request is served. -/
theorem Granted.serve (h : Granted limiter key start grants phases fleet) {request : HttpRequest}
    (hi : phases[i]? = some φ)
    (hφ : request.isHealthCheck = true ∨ ∃ k count, φ = .counted k count ∧ count ≤ limiter.limit ∧
      k.key = request.limitKey) (answer : Except Fault HttpResponse) :
    Granted limiter key start grants (phases.set i (φ.advance (.callNext request) answer))
      ((fleet.serve request).later env) := by
  have hserved : ((fleet.serve request).later env).servedFor key =
      fleet.servedFor key ++ if !request.isHealthCheck && request.limitKey = key then [request]
        else [] := by
    unfold Fleet.servedFor
    show (fleet.served ++ [request]).filter _ = _
    rw [List.filter_append, List.filter_singleton, cond_eq_ite]
  refine ⟨h.since.trans (fleet.le_later env),
    fun w => (h.counters w).later (fleet.le_later env), fun w hw => ?_, ?_⟩
  · obtain ⟨hdvd, hopens, hstart⟩ := h.windows w hw
    exact ⟨hdvd, hopens.trans (fleet.le_later env), hstart⟩
  · rw [hserved, List.length_append]
    have hle := h.served
    have hcount := countP_set_add (LimitPhase.admits limiter key)
      (φ.advance (.callNext request) answer) hi
    have hleaves : (φ.advance (.callNext request) answer).admits limiter key = true →
        φ.admits limiter key = true ∧ ∀ k count, φ ≠ .counted k count := by
      cases φ with
      | _ => nofun
    rcases hφ with hhealth | ⟨k, count, rfl, hlimit, hkey⟩
    · rw [if_neg (by simp [hhealth])]
      split_ifs at hcount with hafter hbefore hbefore
      · simpa using by omega
      · simpa using by omega
      · exact absurd (hleaves hbefore).1 hafter
      · simpa using by omega
    · rw [if_neg fun hadmits => (hleaves hadmits).2 k count rfl] at hcount
      have hadmits : (!request.isHealthCheck && decide (request.limitKey = key)) = true →
          (LimitPhase.counted k count).admits limiter key = true := by
        simp only [LimitPhase.admits, hkey, Bool.and_eq_true, decide_eq_true_eq]
        exact fun hserves => ⟨hserves.2, hlimit⟩
      by_cases hserves : (!request.isHealthCheck && decide (request.limitKey = key)) = true
      · rw [if_pos (hadmits hserves)] at hcount
        rw [if_pos hserves, List.length_singleton]
        omega
      · rw [if_neg hserves, List.length_nil]
        split_ifs at hcount <;> omega

/-- Each call of a request, as its contract allows it. -/
theorem Granted.call (h : Granted limiter key start grants phases fleet) {α : Type}
    {op : GatewayOp α} (hi : phases[i]? = some φ) (hallowed : φ.allowed limiter op)
    (hprompt : ∀ k ∈ op.incremented?, opens k.windowStart ≤ fleet.time ∧
      fleet.time < limiter.closes k.windowStart) :
    ∃ grants', Granted limiter key start grants' (phases.set i (φ.advance op (env.exec op fleet).1))
      (env.exec op fleet).2 := by
  cases op with
  | clock replica =>
    refine ⟨grants, h.still hi (fleet.le_later env) h.counters rfl fun hadmits => ?_⟩
    cases φ <;> exact hadmits
  | checkLocal => exact hallowed.elim
  | decodeToken token issuer audience jwksUrl =>
    have hkept : Granted limiter key start grants (phases.set i φ) (env.exec
        (.decodeToken token issuer audience jwksUrl) fleet).2 := by
      unfold FleetEnv.exec
      dsimp only
      split <;> exact h.still hi (fleet.le_later env) h.counters rfl id
    refine ⟨grants, ?_⟩
    cases φ <;> exact hkept
  | expire k after =>
    obtain rfl : after = limiter.windowSeconds + 1 := hallowed
    have hkept : Granted limiter key start grants (phases.set i φ) (env.exec
        (.expire k (limiter.windowSeconds + 1)) fleet).2 := by
      unfold FleetEnv.exec Reply.take
      dsimp only
      split
      · exact h.expire hi k
      · exact h.still hi (fleet.le_later env) h.counters rfl id
      · exact h.expire hi k
    refine ⟨grants, ?_⟩
    cases φ <;> exact hkept
  | callNext request => exact ⟨grants, h.serve hi hallowed _⟩
  | incr k =>
    obtain ⟨rfl, hdvd⟩ := hallowed
    unfold FleetEnv.exec Reply.take
    dsimp only
    split
    · refine h.increment hi hdvd (hprompt k rfl) fun hadmits => ?_
      simpa only [LimitPhase.advance, LimitPhase.admits, Bool.and_eq_true, decide_eq_true_eq]
        using hadmits
    · exact ⟨grants, h.still hi (fleet.le_later env) h.counters rfl nofun⟩
    · exact h.increment hi hdvd (hprompt k rfl) nofun

theorem Granted.arrive (h : Granted limiter key start grants phases fleet) :
    Granted limiter key start grants (phases ++ [.arrived]) fleet :=
  ⟨h.since, h.counters, h.windows, by simpa [List.countP_append, LimitPhase.admits] using h.served⟩

/-- The windows that granted, by their numbers. -/
theorem Granted.card_windows (h : Granted limiter key start grants phases fleet) :
    (grants.toFinset.card : ℤ) ≤
      (fleet.time - start + 2 * halfSecond) / seconds limiter.windowSeconds + 2 := by
  have hpos : (0 : ℤ) < limiter.windowSeconds := by exact_mod_cast limiter.window_pos
  have hlength : 0 < seconds limiter.windowSeconds := mul_pos hpos (by decide)
  have hmaps : ∀ w ∈ grants.toFinset, w / limiter.windowSeconds ∈
      Finset.Icc ((start - halfSecond) / seconds limiter.windowSeconds)
        ((fleet.time + halfSecond) / seconds limiter.windowSeconds) := by
    intro w hw
    obtain ⟨⟨m, rfl⟩, hopens, hcloses⟩ := h.windows w (List.mem_toFinset.mp hw)
    rw [Int.mul_ediv_cancel_left m hpos.ne', Finset.mem_Icc]
    unfold opens at hopens
    unfold RedisFixedWindowRateLimiter.closes at hcloses
    unfold seconds at hopens hcloses hlength ⊢
    constructor
    · refine Int.lt_add_one_iff.mp (Int.ediv_lt_of_lt_mul hlength ?_)
      linarith
    · refine (Int.le_ediv_iff_mul_le hlength).mpr ?_
      linarith
  have hinj : Set.InjOn (fun w : ℤ => w / limiter.windowSeconds) grants.toFinset := by
    intro w hw w' hw' heq
    obtain ⟨hdvd, -⟩ := h.windows w (List.mem_toFinset.mp hw)
    obtain ⟨hdvd', -⟩ := h.windows w' (List.mem_toFinset.mp hw')
    rw [← Int.ediv_mul_cancel hdvd, ← Int.ediv_mul_cancel hdvd']
    exact congrArg (· * (limiter.windowSeconds : ℤ)) heq
  have hcard := Finset.card_le_card_of_injOn _ hmaps hinj
  rw [Int.card_Icc] at hcard
  have hspan : (fleet.time + halfSecond) / seconds limiter.windowSeconds ≤
      (start - halfSecond) / seconds limiter.windowSeconds +
        (fleet.time - start + 2 * halfSecond) / seconds limiter.windowSeconds + 1 := by
    refine Int.lt_add_one_iff.mp (Int.ediv_lt_of_lt_mul hlength ?_)
    have hstart := Int.lt_ediv_add_one_mul_self (start - halfSecond) hlength
    have hrest := Int.lt_ediv_add_one_mul_self (fleet.time - start + 2 * halfSecond) hlength
    linarith
  have hnonneg : 0 ≤ (fleet.time - start + 2 * halfSecond) / seconds limiter.windowSeconds := by
    refine Int.ediv_nonneg ?_ hlength.le
    have hsince := h.since
    unfold halfSecond
    linarith
  have hcount : ∀ (card : ℕ) (first last span : ℤ), card ≤ (last + 1 - first).toNat →
      last ≤ first + span + 1 → 0 ≤ span → (card : ℤ) ≤ span + 2 := by
    intro card first last span
    omega
  exact hcount _ _ _ _ hcard hspan hnonneg

theorem Granted.length_le (h : Granted limiter key start grants phases fleet) :
    (grants.length : ℤ) ≤ limiter.limit *
      ((fleet.time - start + 2 * halfSecond) / seconds limiter.windowSeconds + 2) := by
  have hlength : grants.length ≤ grants.toFinset.card * limiter.limit := by
    rw [← List.sum_toFinset_count_eq_length]
    exact Finset.sum_le_card_nsmul _ _ _ fun w _ => (h.counters w).within
  have hcard := h.card_windows
  calc (grants.length : ℤ) ≤ grants.toFinset.card * limiter.limit := by exact_mod_cast hlength
    _ = limiter.limit * grants.toFinset.card := mul_comm _ _
    _ ≤ _ := mul_le_mul_of_nonneg_left hcard (Int.natCast_nonneg _)

/-- Whatever the replicas' clocks and however the requests interleave, and whether or not the shared
store answers, the endpoints are called for a key no more often than the limit in each window that
the run can touch, while each count is taken within half a second of its window. -/
theorem shared_limit {gw : Gateway} (hshared : gw.sharedRateLimiter = some limiter)
    (hrequired : gw.rateLimitRedisRequired = true) (env : FleetEnv) (fleet : Fleet) (key : String)
    (hcounters : ∀ w, fleet.counters (RedisKey.str ⟨w, key⟩) = none) (hserved : fleet.served = [])
    (events : List (PoolEvent (ℕ × HttpRequest)))
    (hprompt : Meets (Pool.apply env.exec gw.serve) (Prompt limiter) ⟨fleet, []⟩ events) :
    (((runFrom (Pool.apply env.exec gw.serve) ⟨fleet, []⟩ events).state.servedFor key).length : ℤ) ≤
      limiter.limit * (((runFrom (Pool.apply env.exec gw.serve) ⟨fleet, []⟩ events).state.time -
        fleet.time + 2 * halfSecond) / seconds limiter.windowSeconds + 2) := by
  have hstart : (⟨fleet, []⟩ : Pool GatewayOp Fault Fleet).Joint (limitation limiter)
      (fun _ _ => True)
      (fun phases now => ∃ grants, Granted limiter key fleet.time grants phases now) := by
    refine ⟨[], .nil, [], le_rfl, fun w => ?_, fun _ hw => absurd hw List.not_mem_nil, ?_⟩
    · rw [hcounters w]
      exact Counter.grants_none
    · simp [Fleet.servedFor, hserved]
  have hstep : ∀ (pool : Pool GatewayOp Fault Fleet) (e : PoolEvent (ℕ × HttpRequest)),
      pool.Joint (limitation limiter) (fun _ _ => True)
        (fun phases now => ∃ grants, Granted limiter key fleet.time grants phases now) →
      Prompt limiter pool e → (pool.apply env.exec gw.serve e).Joint (limitation limiter)
        (fun _ _ => True)
        (fun phases now => ∃ grants, Granted limiter key fleet.time grants phases now) := by
    intro pool e hpool hprompt
    refine Pool.joint_apply hpool e ?_ ?_
    · rintro arrival phases - ⟨grants, hgranted⟩
      exact ⟨.arrived, gw.serve_limitation hshared hrequired arrival, grants, hgranted.arrive⟩
    · rintro γ op next i phases φ hevent hthread ⟨grants, hgranted⟩ hi hallowed
      refine ⟨trivial, hgranted.call hi hallowed fun k hk => hprompt k ?_⟩
      rw [hevent]
      simp only [Pool.next?, hthread]
      exact hk
  obtain ⟨phases, -, grants, hgranted⟩ := runFrom_inv _ hstep hstart hprompt
  have hle : ((runFrom (Pool.apply env.exec gw.serve) ⟨fleet, []⟩ events).state.servedFor
      key).length ≤ grants.length := by
    have hle' := hgranted.served
    omega
  exact (Int.ofNat_le.mpr hle).trans hgranted.length_le

end Granting

/-- A shared limiter of one request a minute, and a deployment that requires it. -/
def oneAMinute : RedisFixedWindowRateLimiter := ⟨1, 60, Nat.le_refl 1, by decide⟩

def sharedGateway : Gateway where
  rateLimitRedisRequired := true
  sharedRateLimiter := some oneAMinute
  reprOf _ := ""

/-- A request without a token. -/
def HttpRequest.anonymous (request : HttpRequest) : HttpRequest :=
  { request with headers := request.headers.filter fun header => header.name ≠ "authorization" }

/-- The same request at two replicas, call by call in turn. -/
def atTwoReplicas : List (PoolEvent (ℕ × HttpRequest)) :=
  [.spawn (0, impostor.anonymous), .spawn (1, impostor.anonymous)] ++
    (List.replicate 4 [.step 0, .step 1]).flatten

/-- One is served, and the other is refused. -/
theorem shared_limit_atTwoReplicas :
    (((runFrom (Pool.apply calmEnv.exec sharedGateway.serve) ⟨quietFleet, []⟩
        atTwoReplicas).state.servedFor impostor.anonymous.limitKey).length : ℤ) ≤
      oneAMinute.limit * (((runFrom (Pool.apply calmEnv.exec sharedGateway.serve)
        ⟨quietFleet, []⟩ atTwoReplicas).state.time - quietFleet.time + 2 * halfSecond) /
          seconds oneAMinute.windowSeconds + 2) ∧
      ((runFrom (Pool.apply calmEnv.exec sharedGateway.serve) ⟨quietFleet, []⟩
        atTwoReplicas).state.servedFor impostor.anonymous.limitKey).length = 1 :=
  ⟨shared_limit rfl rfl calmEnv quietFleet _ (fun _ => rfl) rfl atTwoReplicas (by decide +kernel),
    by decide +kernel⟩

end RouteShield
