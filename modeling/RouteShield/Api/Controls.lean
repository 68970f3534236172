import RouteShield.Api.Access
import RouteShield.Api.Decisions

/-!
Runtime controls as handlers read them: a tenant's override that has not expired, else the
platform's, else the configured default.
-/

namespace RouteShield

/-- The override of a tenant's control that counts at a time. -/
def DecisionView.overrideAt (v : DecisionView) (tenantId : String)
    (controlName : RuntimeControlName) (now : Time) : Option RuntimeControlChange :=
  (v.override tenantId controlName).filter (fun record => record.toRuntimeControlUpdate.current now)

def DecisionView.platformAt (v : DecisionView) (controlName : RuntimeControlName) (now : Time) :
    Option PlatformRuntimeControlChange :=
  (v.platform controlName).filter (fun record => record.toRuntimeControlUpdate.current now)

/-- The value of a control under the overrides that count. -/
def Service.controlValue (svc : Service) (override : Option RuntimeControlChange)
    (platform : Option PlatformRuntimeControlChange) (controlName : RuntimeControlName) : Bool :=
  match override with
  | some o => o.enabled
  | none =>
    match platform with
    | some p => p.enabled
    | none => svc.defaultControlEnabled controlName

/-- The control as a handler reads it: the override at one tick, the platform's at the next. -/
def Service.controlAt (svc : Service) (env : Env) (v : DecisionView) (tenantId : String)
    (controlName : RuntimeControlName) (tick : ℕ) : Bool :=
  svc.controlValue (v.overrideAt tenantId controlName (env.clock tick))
    (v.platformAt controlName (env.clock (tick + 1))) controlName

/-- The tick after a handler has read the control. -/
def DecisionView.controlReadAt (v : DecisionView) (env : Env) (tenantId : String)
    (controlName : RuntimeControlName) (tick : ℕ) : ℕ :=
  tick + if (v.overrideAt tenantId controlName (env.clock tick)).isSome then 1 else 2

variable {b : Backend} [DecisionStore b]

def World.decisions (w : World b) : DecisionView := DecisionStore.view w.store

/-- What a handler reads is the control, and no call of the reading changes the view. -/
theorem controlEnabled_run (svc : Service) (env : Env) (tenantId : String)
    (controlName : RuntimeControlName) (w : World b) :
    ∃ w', (Api.controlEnabled svc tenantId controlName).run env.exec w =
        (.ok (svc.controlAt env w.decisions tenantId controlName w.tick), w') ∧
      w'.tick = w.decisions.controlReadAt env tenantId controlName w.tick := by
  let w₁ := env.after w (.repo (.getRuntimeControlOverride tenantId controlName))
  have hstep := DecisionStore.step (.getRuntimeControlOverride tenantId controlName)
    (env.clock w.tick) (drawn w.tick) w.store
  have hoverride : env.exec (.repo (.getRuntimeControlOverride tenantId controlName)) w =
      (.ok (w.decisions.overrideAt tenantId controlName (env.clock w.tick)), w₁) :=
    Prod.ext hstep.2 rfl
  have hplatform := DecisionStore.step (.getPlatformControlOverride controlName)
    (env.clock w₁.tick) (drawn w₁.tick) w₁.store
  have hview : DecisionStore.view w₁.store = w.decisions := hstep.1
  rw [hview] at hplatform
  have hread : env.exec (.repo (.getPlatformControlOverride controlName)) w₁ =
      (.ok (w.decisions.platformAt controlName (env.clock w₁.tick)),
        env.after w₁ (.repo (.getPlatformControlOverride controlName))) :=
    Prod.ext hplatform.2 rfl
  unfold Api.controlEnabled Api.repo DecisionView.controlReadAt Service.controlAt
  rw [Prog.run_bind, Prog.run_perform, hoverride]
  cases w.decisions.overrideAt tenantId controlName (env.clock w.tick) with
  | some override => exact ⟨w₁, rfl, rfl⟩
  | none =>
    dsimp only
    rw [Prog.run_bind, Prog.run_perform, hread]
    refine ⟨env.after w₁ (.repo (.getPlatformControlOverride controlName)), ?_, rfl⟩
    show Prog.run _ (match w.decisions.platformAt controlName (env.clock w₁.tick) with
      | some platform => _
      | none => _) _ =
      (.ok (svc.controlValue none (w.decisions.platformAt controlName (env.clock w₁.tick))
        controlName), _)
    cases w.decisions.platformAt controlName (env.clock w₁.tick) <;> rfl

end RouteShield
