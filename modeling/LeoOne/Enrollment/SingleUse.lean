import LeoOne.Enrollment.Enroll

/-!
# Single use of tokens and the quota of a tenant

`Enroll` reads the token, and marks it as used four statements later; it counts
the agents of the tenant, and inserts one two statements later.  Both laws hold
as long as no request of the same token, and none of the same tenant, runs
between the two, and the statements whose errors are discarded succeed.
-/

namespace LeoOne
namespace Enrollment

open Foundation
open Backend

/-!
## The sections of `Enroll`
-/

/-- The request has found the token, and may still insert an agent with it. -/
def EnrollStep.seeks (t : Uuid) : EnrollStep -> Bool
  | findByHardwareId _ tok => tok.id = t
  | countByTenant _ tok => tok.id = t
  | maxAgents _ tok _ => tok.id = t
  | createAgent _ tok => tok.id = t
  | _ => false

/-- The request has inserted its agent, and is about to mark the token. -/
def EnrollStep.marks (t : Uuid) : EnrollStep -> Bool
  | markUsed tok _ => tok.id = t
  | _ => false

/-- The request has counted the agents of the tenant, and may still insert one. -/
def EnrollStep.counts (tenantId : Uuid) : EnrollStep -> Bool
  | maxAgents _ tok _ => tok.tenantId = tenantId
  | createAgent _ tok => tok.tenantId = tenantId
  | _ => false

/-- A test on the steps of `Enroll`. -/
def onEnroll (f : EnrollStep -> Bool) : Task -> Bool
  | Task.enroll step => f step
  | _ => false

/-- The tenant has a quota. -/
def Registry.limited (r : Registry) (tenantId : Uuid) : Bool :=
  (r.maxAgents tenantId).any fun limit => 0 < limit

/-- A token is looked up while no other request uses it, the agents of a tenant
with a quota are counted while no other request of that tenant has counted them
and not yet inserted, and the statements whose errors are discarded succeed. -/
def undisturbed (p : State) (k : Task) (x : Input) : Bool :=
  match k with
  | Task.enroll (EnrollStep.findToken req) =>
      match p.shared.registry.findToken req.enrollmentToken with
      | none => true
      | some tok =>
          !p.anyPending (onEnroll (EnrollStep.seeks tok.id)) &&
            !p.anyPending (onEnroll (EnrollStep.marks tok.id))
  | Task.enroll (EnrollStep.countByTenant _ tok) =>
      !p.shared.registry.limited tok.tenantId ||
        (!x.fails && !p.anyPending (onEnroll (EnrollStep.counts tok.tenantId)))
  | Task.enroll (EnrollStep.maxAgents _ tok _) =>
      !p.shared.registry.limited tok.tenantId || !x.fails
  | Task.enroll (EnrollStep.markUsed tok agentId) =>
      !x.fails && (p.shared.registry.markUsed agentId tok.id x.now).isSome
  | _ => true

theorem onEnroll_eq_false {f : EnrollStep -> Bool} {k : Task} (h : k.step? = none) :
    onEnroll f k = false := by
  cases k with
  | enroll step =>
      cases h
  | _ =>
      rfl

/-- A request starts before all sections. -/
theorem entry_onEnroll {f : EnrollStep -> Bool}
    (hf : forall body, f (EnrollStep.decode body) = false) (r : Request) :
    (entry r).countP (onEnroll f) = 0 := by
  cases r with
  | enroll body =>
      rw [entry, List.countP_singleton, onEnroll, hf]
      rfl
  | _ =>
      rfl

/-- The section that a step of `Enroll` leaves and the one it enters. -/
theorem count_enroll {p p' : State} {step : EnrollStep} {next : Option EnrollStep}
    {o : Outcome Service Task} (hexec : Pool.Executed p p' (Task.enroll step) o)
    (hcreated : o.created = next.toList.map Task.enroll) (f : EnrollStep -> Bool) :
    Pool.pendingCount (onEnroll f) p' + (if f step then 1 else 0) =
      Pool.pendingCount (onEnroll f) p + next.toList.countP f := by
  have hcount := hexec.count (onEnroll f)
  rw [hcreated, List.countP_map, List.countP_singleton] at hcount
  exact hcount

/-- The tasks of the other handlers are in no section. -/
theorem aside_onEnroll {ks : List Task} (h : forall j, j ∈ ks -> j.step? = none)
    (f : EnrollStep -> Bool) : ks.countP (onEnroll f) = 0 := by
  apply List.countP_eq_zero.mpr
  intro j hj
  rw [onEnroll_eq_false (h j hj)]
  exact Bool.false_ne_true

theorem count_aside {p p' : State} {k : Task} {o : Outcome Service Task}
    (hexec : Pool.Executed p p' k o) (hk : k.step? = none)
    (hcreated : forall j, j ∈ o.created -> j.step? = none) (f : EnrollStep -> Bool) :
    Pool.pendingCount (onEnroll f) p' = Pool.pendingCount (onEnroll f) p := by
  have hcount := hexec.count (onEnroll f)
  rw [aside_onEnroll hcreated, List.countP_singleton, onEnroll_eq_false hk] at hcount
  simpa using hcount

theorem Moves.frame {x : Input} {s t : Service} {step : EnrollStep}
    {next : Option EnrollStep} (h : Moves x s step t next) :
    t.registry.tenants = s.registry.tenants ∧ t.tokenIds = s.tokenIds := by
  cases h with
  | inserted hcreate =>
      rcases Registry.createAgent_some hcreate with ⟨row, hrow⟩
      exact ⟨hrow.tenants, rfl⟩
  | marked hmark =>
      rw [Registry.markUsed_some hmark]
      exact ⟨rfl, rfl⟩
  | certified hinsert =>
      exact ⟨(Registry.insertCertificate_some hinsert).left, rfl⟩
  | _ =>
      exact ⟨rfl, rfl⟩

/-!
## Tokens on record
-/

/-- Every token that is stored, in use or has led to an agent has been given its
identifier, which is given once. -/
structure TokensKnown (p : State) : Prop where
  stored : forall {tok}, tok ∈ p.shared.registry.tokens -> tok.id ∈ p.shared.tokenIds
  sought : forall {j t}, p.Pending j -> onEnroll (EnrollStep.seeks t) j = true ->
    t ∈ p.shared.tokenIds
  logged : forall {e}, e ∈ p.shared.enrolled -> e.1 ∈ p.shared.tokenIds

theorem TokensKnown.start {p p' : State} {r : Request} (hinv : TokensKnown p)
    (hstart : Pool.Started p p' (entry r)) : TokensKnown p' := by
  constructor
  · rw [hstart.shared]
    exact hinv.stored
  · intro j t hj hseeks
    rw [hstart.shared]
    have hold := hstart.pending_old (entry_onEnroll (fun _ => rfl) r) hj hseeks
    exact hinv.sought hold hseeks
  · rw [hstart.shared]
    exact hinv.logged

/-- A token that is in use after a step of `Enroll` was in use before it, or has
just been found. -/
theorem Moves.seeks {x : Input} {s s' : Service} {step next : EnrollStep} {t : Uuid}
    (h : Moves x s step s' (some next)) (hseeks : next.seeks t = true) :
    step.seeks t = true ∨
      exists req tok, step = EnrollStep.findToken req ∧
        s.registry.findToken req.enrollmentToken = some tok ∧ tok.id = t ∧
        tok.usedAt = none := by
  cases h with
  | found hfind hunused =>
      right
      exact ⟨_, _, rfl, hfind, of_decide_eq_true hseeks, hunused⟩
  | unknown =>
      exact Or.inl hseeks
  | counted =>
      exact Or.inl hseeks
  | admitted =>
      exact Or.inl hseeks
  | _ =>
      cases hseeks

/-- A step of `Enroll` adds no token, and gives none back. -/
theorem Moves.tokens {x : Input} {s t : Service} {step : EnrollStep}
    {next : Option EnrollStep} {tok : TokenRow} (h : Moves x s step t next)
    (htok : tok ∈ t.registry.tokens) :
    exists old, old ∈ s.registry.tokens ∧ tok.id = old.id ∧
      (tok.usedAt = old.usedAt ∨ tok.usedAt ≠ none) := by
  cases h with
  | inserted hcreate =>
      rcases Registry.createAgent_some hcreate with ⟨row, hrow⟩
      simp only [hrow.tokens] at htok
      exact ⟨tok, htok, rfl, Or.inl rfl⟩
  | marked hmark =>
      rw [Registry.markUsed_some hmark] at htok
      rcases Table.mem_updateWhere.mp htok with ⟨old, hold, ⟨_, heq⟩ | ⟨_, heq⟩⟩
      · rw [heq]
        exact ⟨old, hold, rfl, Or.inr (Option.some_ne_none _)⟩
      · rw [heq]
        exact ⟨old, hold, rfl, Or.inl rfl⟩
  | certified hinsert =>
      simp only [(Registry.insertCertificate_some hinsert).right.left] at htok
      exact ⟨tok, htok, rfl, Or.inl rfl⟩
  | _ =>
      exact ⟨tok, htok, rfl, Or.inl rfl⟩

/-- An enrolment is recorded when the agent is inserted. -/
theorem Moves.enrolled {x : Input} {s t : Service} {step : EnrollStep}
    {next : Option EnrollStep} (h : Moves x s step t next) :
    t.enrolled = s.enrolled ∨
      exists req tok registry, step = EnrollStep.createAgent req tok ∧
        next = some (EnrollStep.markUsed tok x.uuid) ∧
        s.registry.createAgent x.uuid tok req x.now = some registry ∧
        t.registry = registry ∧ t.enrolled = (tok.id, x.uuid) :: s.enrolled := by
  cases h with
  | inserted hcreate =>
      right
      exact ⟨_, _, _, rfl, rfl, hcreate, rfl, rfl⟩
  | _ =>
      exact Or.inl rfl

theorem TokensKnown.enroll_step {p p' : State} {x : Input} {step : EnrollStep}
    {next : Option EnrollStep} {o : Outcome Service Task} (hinv : TokensKnown p)
    (hexec : Pool.Executed p p' (Task.enroll step) o)
    (hmoves : Moves x p.shared step p'.shared next)
    (hcreated : o.created = next.toList.map Task.enroll) : TokensKnown p' := by
  have hids := hmoves.frame.right
  constructor
  · intro tok htok
    rcases hmoves.tokens htok with ⟨old, hold, hid, _⟩
    rw [hids, hid]
    exact hinv.stored hold
  · intro j t hj hseeks
    rw [hids]
    rcases hexec.pending hj with hnew | hold
    · rw [hcreated] at hnew
      rcases List.mem_map.mp hnew with ⟨step', hstep', rfl⟩
      rw [Option.mem_toList] at hstep'
      subst hstep'
      rcases hmoves.seeks hseeks with hstep | ⟨req, tok, _, hfind, rfl, _⟩
      · exact hinv.sought hexec.running hstep
      · exact hinv.stored (Registry.findToken_some hfind).left
    · exact hinv.sought hold hseeks
  · intro e he
    rw [hids]
    rcases hmoves.enrolled with hsame | ⟨req, tok, _, rfl, _, _, _, hnew⟩
    · rw [hsame] at he
      exact hinv.logged he
    · rw [hnew] at he
      rcases List.mem_cons.mp he with rfl | hold
      · exact hinv.sought hexec.running (decide_eq_true rfl)
      · exact hinv.logged hold

theorem TokensKnown.step {p p' : State} {x : Input} {k : Task}
    {o : Outcome Service Task} (hinv : TokensKnown p)
    (hperform : perform k x p.shared = some o) (hexec : Pool.Executed p p' k o) :
    TokensKnown p' := by
  rcases perform_cases hperform with ⟨step, next, rfl, hmoves, hcreated⟩ |
    ⟨hk, haside, hcreated⟩
  · rw [← hexec.shared] at hmoves
    exact hinv.enroll_step hexec hmoves hcreated
  · rw [← hexec.shared] at haside
    constructor
    · intro tok htok
      rcases haside.tokens htok with ⟨old, hold, hid, _⟩ | ⟨_, hnew⟩
      · rw [hid]
        exact haside.tokenIds (hinv.stored hold)
      · exact hnew
    · intro j t hj hseeks
      have hold := hexec.pending_old (aside_onEnroll hcreated _) hj hseeks
      exact haside.tokenIds (hinv.sought hold hseeks)
    · intro e he
      rw [haside.enrolled] at he
      exact haside.tokenIds (hinv.logged he)

/-!
## Single use
-/

/-- The number of agents that have been inserted with the token. -/
def Service.uses (s : Service) (t : Uuid) : Nat :=
  s.enrolled.countP fun e => e.1 = t

/-- The token is marked as used. -/
def Registry.Used (r : Registry) (t : Uuid) : Prop :=
  forall tok, tok ∈ r.tokens -> tok.id = t -> tok.usedAt ≠ none

/-- The requests that may still insert an agent with the token and the agents
inserted with it are at most one; once there is such an agent, the token is
marked or about to be. -/
structure TokenLaw (t : Uuid) (p : State) : Prop where
  once : Pool.pendingCount (onEnroll (EnrollStep.seeks t)) p + p.shared.uses t ≤ 1
  spent : 0 < p.shared.uses t -> p.shared.registry.Used t ∨
    p.anyPending (onEnroll (EnrollStep.marks t)) = true

theorem TokenLaw.start {t : Uuid} {p p' : State} {r : Request} (hinv : TokenLaw t p)
    (hstart : Pool.Started p p' (entry r)) : TokenLaw t p' := by
  constructor
  · rw [hstart.count, hstart.shared, entry_onEnroll (fun _ => rfl)]
    exact hinv.once
  · rw [hstart.shared]
    intro huses
    rcases hinv.spent huses with hused | hmarks
    · exact Or.inl hused
    · exact Or.inr (Pool.anyPending_mono hstart.kept hmarks)

theorem Service.uses_cons {s s' : Service} {t u a : Uuid}
    (h : s'.enrolled = (u, a) :: s.enrolled) :
    s'.uses t = s.uses t + if u = t then 1 else 0 := by
  unfold uses
  rw [h, List.countP_cons]
  simp

theorem Service.uses_same {s s' : Service} (t : Uuid) (h : s'.enrolled = s.enrolled) :
    s'.uses t = s.uses t := by
  unfold uses
  rw [h]

theorem Moves.used {x : Input} {s s' : Service} {step : EnrollStep}
    {next : Option EnrollStep} {t : Uuid} (h : Moves x s step s' next)
    (hused : s.registry.Used t) : s'.registry.Used t := by
  intro tok htok hid
  rcases h.tokens htok with ⟨old, hold, hsame, hkept | hnew⟩
  · rw [hkept]
    exact hused old hold (hsame.symm.trans hid)
  · exact hnew

/-- A token that is looked up undisturbed and is not marked has led to no agent. -/
theorem TokenLaw.unused {t : Uuid} {p : State} (hinv : TokenLaw t p) {tok : TokenRow}
    (htok : tok ∈ p.shared.registry.tokens) (hid : tok.id = t)
    (hunused : tok.usedAt = none)
    (hmarks : p.anyPending (onEnroll (EnrollStep.marks t)) = false) :
    p.shared.uses t = 0 := by
  rcases Nat.eq_zero_or_pos (p.shared.uses t) with hzero | hpos
  · exact hzero
  · rcases hinv.spent hpos with hused | hmarking
    · exact absurd hunused (hused tok htok hid)
    · rw [hmarks] at hmarking
      cases hmarking

theorem undisturbed_findToken {p : State} {req : EnrollRequest} {x : Input}
    (h : undisturbed p (Task.enroll (EnrollStep.findToken req)) x = true)
    {tok : TokenRow}
    (hfind : p.shared.registry.findToken req.enrollmentToken = some tok) :
    p.anyPending (onEnroll (EnrollStep.seeks tok.id)) = false ∧
      p.anyPending (onEnroll (EnrollStep.marks tok.id)) = false := by
  simpa [undisturbed, hfind] using h

/-- The `UPDATE` succeeds, and the token is marked. -/
theorem Moves.marks {x : Input} {p : State} {s' : Service} {step : EnrollStep}
    {next : Option EnrollStep} {t : Uuid} (h : Moves x p.shared step s' next)
    (hguard : undisturbed p (Task.enroll step) x = true)
    (hmarks : step.marks t = true) : s'.registry.Used t := by
  cases h with
  | marked hmark =>
      rename_i tok agentId registry
      have hid : tok.id = t := of_decide_eq_true hmarks
      intro tok' htok' hid'
      rw [Registry.markUsed_some hmark] at htok'
      rcases Table.mem_updateWhere.mp htok' with ⟨old, _, ⟨_, heq⟩ | ⟨hother, heq⟩⟩
      · rw [heq]
        exact Option.some_ne_none _
      · rw [heq, ← hid] at hid'
        exact absurd hid' (of_decide_eq_false hother)
  | unmarked hfailed =>
      rw [undisturbed, Bool.and_eq_true, Bool.not_eq_true'] at hguard
      rcases hfailed with hfails | hnone
      · rw [hguard.left] at hfails
        cases hfails
      · rw [hnone] at hguard
        cases hguard.right
  | rejected hstage =>
      cases step with
      | markUsed tok agentId =>
          exact absurd rfl hstage
      | _ =>
          cases hmarks
  | _ =>
      cases hmarks

theorem TokenLaw.once_step {t : Uuid} {p p' : State} {x : Input} {step : EnrollStep}
    {next : Option EnrollStep} {o : Outcome Service Task} (hinv : TokenLaw t p)
    (hguard : undisturbed p (Task.enroll step) x = true)
    (hexec : Pool.Executed p p' (Task.enroll step) o)
    (hmoves : Moves x p.shared step p'.shared next)
    (hcreated : o.created = next.toList.map Task.enroll) :
    Pool.pendingCount (onEnroll (EnrollStep.seeks t)) p' + p'.shared.uses t ≤ 1 := by
  have hcount := count_enroll hexec hcreated (EnrollStep.seeks t)
  have honce := hinv.once
  rcases hmoves.enrolled with hsame | ⟨req, tok, _, rfl, rfl, _, _, hnew⟩
  · rw [Service.uses_same t hsame]
    cases next with
    | none =>
        rw [Option.toList_none, List.countP_nil] at hcount
        omega
    | some step' =>
        rw [Option.toList_some, List.countP_singleton] at hcount
        by_cases hseeks : step'.seeks t = true
        · rw [if_pos hseeks] at hcount
          rcases hmoves.seeks hseeks with hstep | ⟨req, tok, rfl, hfind, rfl, hunused⟩
          · rw [if_pos hstep] at hcount
            omega
          · -- the lookup: nobody else holds the token, and it has led to no agent
            rcases undisturbed_findToken hguard hfind with ⟨hnone, hmarks⟩
            have hidle := Pool.pendingCount_eq_zero (Pool.anyPending_eq_false.mp hnone)
            have hzero := hinv.unused (Registry.findToken_some hfind).left rfl hunused
              hmarks
            omega
        · rw [if_neg hseeks] at hcount
          omega
  · rw [Service.uses_cons hnew]
    simp only [Option.toList_some, List.countP_singleton, EnrollStep.seeks,
      decide_eq_true_eq, Bool.false_eq_true, if_false] at hcount
    omega

theorem TokenLaw.spent_step {t : Uuid} {p p' : State} {x : Input} {step : EnrollStep}
    {next : Option EnrollStep} {o : Outcome Service Task} (hinv : TokenLaw t p)
    (hguard : undisturbed p (Task.enroll step) x = true)
    (hexec : Pool.Executed p p' (Task.enroll step) o)
    (hmoves : Moves x p.shared step p'.shared next)
    (hcreated : o.created = next.toList.map Task.enroll)
    (huses : 0 < p'.shared.uses t) :
    p'.shared.registry.Used t ∨
      p'.anyPending (onEnroll (EnrollStep.marks t)) = true := by
  have hkept : 0 < p.shared.uses t -> p'.shared.registry.Used t ∨
      p'.anyPending (onEnroll (EnrollStep.marks t)) = true := by
    intro hbefore
    rcases hinv.spent hbefore with hused | hmarks
    · exact Or.inl (hmoves.used hused)
    · cases hstep : step.marks t with
      | true =>
          exact Or.inl (hmoves.marks hguard hstep)
      | false =>
          exact Or.inr (hexec.anyPending_kept hmarks hstep)
  rcases hmoves.enrolled with hsame | ⟨req, tok, _, _, rfl, _, _, hnew⟩
  · rw [Service.uses_same t hsame] at huses
    exact hkept huses
  · rw [Service.uses_cons hnew] at huses
    by_cases hid : tok.id = t
    · right
      apply hexec.anyPending_created (j := Task.enroll (EnrollStep.markUsed tok x.uuid))
      · rw [hcreated]
        exact List.mem_singleton_self _
      · exact decide_eq_true hid
    · rw [if_neg hid] at huses
      exact hkept huses

theorem TokenLaw.step {t : Uuid} {p p' : State} {x : Input} {k : Task}
    {o : Outcome Service Task} (hknown : TokensKnown p) (hinv : TokenLaw t p)
    (hguard : undisturbed p k x = true) (hperform : perform k x p.shared = some o)
    (hexec : Pool.Executed p p' k o) : TokenLaw t p' := by
  rcases perform_cases hperform with ⟨step, next, rfl, hmoves, hcreated⟩ |
    ⟨hk, haside, hcreated⟩
  · rw [← hexec.shared] at hmoves
    exact ⟨hinv.once_step hguard hexec hmoves hcreated,
      hinv.spent_step hguard hexec hmoves hcreated⟩
  · rw [← hexec.shared] at haside
    constructor
    · rw [count_aside hexec hk hcreated, Service.uses_same t haside.enrolled]
      exact hinv.once
    · rw [Service.uses_same t haside.enrolled]
      intro huses
      rcases hinv.spent huses with hused | hmarks
      · left
        intro tok htok hid
        rcases haside.tokens htok with ⟨old, hold, hsame, hkept⟩ | ⟨hnew, _⟩
        · rw [hkept]
          exact hused old hold (hsame.symm.trans hid)
        · -- a new token has led to no agent
          rcases List.countP_pos_iff.mp huses with ⟨e, he, heq⟩
          rw [hid, ← of_decide_eq_true heq] at hnew
          exact absurd (hknown.logged he) hnew
      · exact Or.inr (hexec.anyPending_kept hmarks (onEnroll_eq_false hk))

/-!
## The quota
-/

/-- At most one request of the tenant has counted its agents and may still insert
one; what it has counted is still an upper bound, and it inserts only below the
quota. -/
structure QuotaLaw (tenantId : Uuid) (limit : Int) (initial : Nat) (p : State) :
    Prop where
  quota : p.shared.registry.maxAgents tenantId = some limit
  alone : Pool.pendingCount (onEnroll (EnrollStep.counts tenantId)) p ≤ 1
  counted : forall {req tok count},
    p.Pending (Task.enroll (EnrollStep.maxAgents req tok count)) ->
    tok.tenantId = tenantId -> p.shared.registry.countByTenant tenantId ≤ count
  room : forall {req tok},
    p.Pending (Task.enroll (EnrollStep.createAgent req tok)) ->
    tok.tenantId = tenantId -> (p.shared.registry.countByTenant tenantId : Int) < limit
  bound : (p.shared.registry.countByTenant tenantId : Int) ≤ max limit initial

section Quota

variable {tenantId : Uuid} {limit : Int} {initial : Nat} {p p' : State}

theorem QuotaLaw.start {r : Request} (hinv : QuotaLaw tenantId limit initial p)
    (hstart : Pool.Started p p' (entry r)) : QuotaLaw tenantId limit initial p' := by
  have hnone := entry_onEnroll (f := EnrollStep.counts tenantId) (fun _ => rfl) r
  constructor
  · rw [hstart.shared]
    exact hinv.quota
  · rw [hstart.count, hnone]
    exact hinv.alone
  · intro req tok count hj htenant
    rw [hstart.shared]
    have hold := hstart.pending_old hnone hj (decide_eq_true htenant)
    exact hinv.counted hold htenant
  · intro req tok hj htenant
    rw [hstart.shared]
    have hold := hstart.pending_old hnone hj (decide_eq_true htenant)
    exact hinv.room hold htenant
  · rw [hstart.shared]
    exact hinv.bound

/-- A step that enters no section and leaves no more agents keeps the law. -/
theorem QuotaLaw.of_le {k : Task} {o : Outcome Service Task}
    (hinv : QuotaLaw tenantId limit initial p) (hexec : Pool.Executed p p' k o)
    (htenants : p'.shared.registry.tenants = p.shared.registry.tenants)
    (hcount : p'.shared.registry.countByTenant tenantId ≤
      p.shared.registry.countByTenant tenantId)
    (hnone : o.created.countP (onEnroll (EnrollStep.counts tenantId)) = 0) :
    QuotaLaw tenantId limit initial p' := by
  constructor
  · rw [Registry.maxAgents, htenants]
    exact hinv.quota
  · have hpending := hexec.count (onEnroll (EnrollStep.counts tenantId))
    have halone := hinv.alone
    omega
  · intro req tok count hj htenant
    have hold := hexec.pending_old hnone hj (decide_eq_true htenant)
    have hbefore := hinv.counted hold htenant
    omega
  · intro req tok hj htenant
    have hold := hexec.pending_old hnone hj (decide_eq_true htenant)
    have hbefore := hinv.room hold htenant
    omega
  · have hbefore := hinv.bound
    omega

/-- The quota of the tenant makes the count and the read of the quota matter. -/
theorem QuotaLaw.limited (hinv : QuotaLaw tenantId limit initial p)
    (hlimit : 0 < limit) : p.shared.registry.limited tenantId = true := by
  rw [Registry.limited, hinv.quota]
  exact decide_eq_true hlimit

/-- The count: no other request of the tenant is in the section. -/
theorem QuotaLaw.count_step {x : Input} {req : EnrollRequest} {tok : TokenRow}
    {count : Nat} {o : Outcome Service Task}
    (hinv : QuotaLaw tenantId limit initial p) (hlimit : 0 < limit)
    (hguard : undisturbed p (Task.enroll (EnrollStep.countByTenant req tok)) x = true)
    (hexec : Pool.Executed p p' (Task.enroll (EnrollStep.countByTenant req tok)) o)
    (hcreated : o.created = [Task.enroll (EnrollStep.maxAgents req tok count)])
    (hshared : p'.shared = p.shared)
    (hcount : x.fails = false -> count = p.shared.registry.countByTenant tok.tenantId)
    (htenant : tok.tenantId = tenantId) : QuotaLaw tenantId limit initial p' := by
  subst htenant
  rw [undisturbed, hinv.limited hlimit, Bool.not_true, Bool.false_or, Bool.and_eq_true,
    Bool.not_eq_true', Bool.not_eq_true'] at hguard
  rcases hguard with ⟨hok, hnone⟩
  have hidle := Pool.anyPending_eq_false.mp hnone
  have hnew : forall {j}, p'.Pending j ->
      onEnroll (EnrollStep.counts tok.tenantId) j = true ->
      j = Task.enroll (EnrollStep.maxAgents req tok count) := by
    intro j hj hcounts
    rcases hexec.pending hj with hnew | hold
    · rw [hcreated] at hnew
      exact List.mem_singleton.mp hnew
    · rw [hidle j hold] at hcounts
      cases hcounts
  constructor
  · rw [hshared]
    exact hinv.quota
  · have hpending := hexec.count (onEnroll (EnrollStep.counts tok.tenantId))
    have hle : o.created.countP (onEnroll (EnrollStep.counts tok.tenantId)) ≤ 1 := by
      rw [hcreated]
      exact List.countP_le_length
    rw [Pool.pendingCount_eq_zero hidle] at hpending
    omega
  · intro req' tok' count' hj htenant'
    cases hnew hj (decide_eq_true htenant')
    rw [hshared, hcount hok]
  · intro req' tok' hj htenant'
    cases hnew hj (decide_eq_true htenant')
  · rw [hshared]
    exact hinv.bound

/-- The quota is read and not reached. -/
theorem QuotaLaw.admit_step {x : Input} {req : EnrollRequest} {tok : TokenRow}
    {count : Nat} {o : Outcome Service Task}
    (hinv : QuotaLaw tenantId limit initial p) (hlimit : 0 < limit)
    (hguard : undisturbed p (Task.enroll (EnrollStep.maxAgents req tok count)) x = true)
    (hexec : Pool.Executed p p' (Task.enroll (EnrollStep.maxAgents req tok count)) o)
    (hcreated : o.created = [Task.enroll (EnrollStep.createAgent req tok)])
    (hshared : p'.shared = p.shared)
    (hbelow : x.fails = false -> (count : Int) < limit)
    (htenant : tok.tenantId = tenantId) : QuotaLaw tenantId limit initial p' := by
  subst htenant
  rw [undisturbed, hinv.limited hlimit, Bool.not_true, Bool.false_or,
    Bool.not_eq_true'] at hguard
  have hold : forall {j}, p'.Pending j ->
      j = Task.enroll (EnrollStep.createAgent req tok) ∨ p.Pending j := by
    intro j hj
    rcases hexec.pending hj with hnew | hold
    · rw [hcreated] at hnew
      exact Or.inl (List.mem_singleton.mp hnew)
    · exact Or.inr hold
  constructor
  · rw [hshared]
    exact hinv.quota
  · have hpending := hexec.count (onEnroll (EnrollStep.counts tok.tenantId))
    rw [hcreated, List.countP_singleton, List.countP_singleton] at hpending
    simp only [onEnroll, EnrollStep.counts, decide_true, if_true] at hpending
    have halone := hinv.alone
    omega
  · intro req' tok' count' hj htenant'
    rw [hshared]
    rcases hold hj with heq | hbefore
    · cases heq
    · exact hinv.counted hbefore htenant'
  · intro req' tok' hj htenant'
    rw [hshared]
    rcases hold hj with heq | hbefore
    · have hcounted := hinv.counted hexec.running rfl
      have hlt := hbelow hguard
      omega
    · exact hinv.room hbefore htenant'
  · rw [hshared]
    exact hinv.bound

/-- The insertion: the request leaves the section with one agent more. -/
theorem QuotaLaw.insert_step {x : Input} {req : EnrollRequest} {tok : TokenRow}
    {registry : Registry} {o : Outcome Service Task}
    (hinv : QuotaLaw tenantId limit initial p)
    (hexec : Pool.Executed p p' (Task.enroll (EnrollStep.createAgent req tok)) o)
    (hcreated : o.created = [Task.enroll (EnrollStep.markUsed tok x.uuid)])
    (hcreate : p.shared.registry.createAgent x.uuid tok req x.now = some registry)
    (hregistry : p'.shared.registry = registry) :
    QuotaLaw tenantId limit initial p' := by
  rcases Registry.createAgent_some hcreate with ⟨row, hrow⟩
  subst hregistry
  have hcount := hrow.countByTenant tenantId
  by_cases htenant : tok.tenantId = tenantId
  · rw [if_pos htenant] at hcount
    have hroom := hinv.room hexec.running htenant
    have hpending := hexec.count (onEnroll (EnrollStep.counts tenantId))
    rw [hcreated, List.countP_singleton, List.countP_singleton] at hpending
    simp only [onEnroll, EnrollStep.counts, htenant, decide_true, if_true,
      Bool.false_eq_true, if_false] at hpending
    have halone := hinv.alone
    have hidle : forall {j}, p'.Pending j ->
        onEnroll (EnrollStep.counts tenantId) j ≠ true := by
      intro j hj hcounts
      have hpos := Pool.pendingCount_pos hj hcounts
      omega
    constructor
    · rw [Registry.maxAgents, hrow.tenants]
      exact hinv.quota
    · omega
    · intro req' tok' count' hj htenant'
      exact absurd (decide_eq_true htenant') (hidle hj)
    · intro req' tok' hj htenant'
      exact absurd (decide_eq_true htenant') (hidle hj)
    · omega
  · rw [if_neg htenant] at hcount
    apply hinv.of_le hexec hrow.tenants
    · omega
    · rw [hcreated]
      rfl

theorem QuotaLaw.enroll_step {x : Input} {step : EnrollStep}
    {next : Option EnrollStep} {o : Outcome Service Task}
    (hinv : QuotaLaw tenantId limit initial p) (hlimit : 0 < limit)
    (hguard : undisturbed p (Task.enroll step) x = true)
    (hexec : Pool.Executed p p' (Task.enroll step) o)
    (hmoves : Moves x p.shared step p'.shared next)
    (hcreated : o.created = next.toList.map Task.enroll) :
    QuotaLaw tenantId limit initial p' := by
  -- the steps outside the section neither enter it nor insert an agent
  have houtside : p'.shared.registry.agents = p.shared.registry.agents ->
      (forall step', next = some step' -> step'.counts tenantId = false) ->
      QuotaLaw tenantId limit initial p' := by
    intro hagents hnext
    apply hinv.of_le hexec hmoves.frame.left
    · rw [Registry.countByTenant, hagents]
      exact Nat.le_refl _
    · rw [hcreated]
      cases next with
      | none =>
          rfl
      | some step' =>
          rw [Option.toList_some, List.map_singleton, List.countP_singleton, onEnroll,
            hnext step' rfl]
          rfl
  generalize hs : p'.shared = s' at hmoves
  cases hmoves with
  | counted hcount =>
      rename_i req tok count
      by_cases htenant : tok.tenantId = tenantId
      · exact hinv.count_step hlimit hguard hexec hcreated hs hcount htenant
      · apply houtside (by rw [hs])
        rintro step' ⟨⟩
        exact decide_eq_false htenant
  | admitted hbelow =>
      rename_i req tok count
      by_cases htenant : tok.tenantId = tenantId
      · apply hinv.admit_step hlimit hguard hexec hcreated hs ?_ htenant
        intro hok
        apply hbelow hok ?_ hlimit
        rw [htenant]
        exact hinv.quota
      · apply houtside (by rw [hs])
        rintro step' ⟨⟩
        exact decide_eq_false htenant
  | inserted hcreate =>
      exact hinv.insert_step hexec hcreated hcreate (by rw [hs])
  | marked hmark =>
      apply houtside
      · rw [hs, Registry.markUsed_some hmark]
      · rintro step' ⟨⟩
        rfl
  | certified hinsert =>
      apply houtside
      · rw [hs]
        exact (Registry.insertCertificate_some hinsert).right.right
      · nofun
  | rejected _ =>
      apply houtside (by rw [hs]; rfl)
      nofun
  | _ =>
      apply houtside (by rw [hs])
      rintro step' ⟨⟩
      rfl

theorem QuotaLaw.step {x : Input} {k : Task} {o : Outcome Service Task}
    (hinv : QuotaLaw tenantId limit initial p) (hlimit : 0 < limit)
    (hguard : undisturbed p k x = true) (hperform : perform k x p.shared = some o)
    (hexec : Pool.Executed p p' k o) : QuotaLaw tenantId limit initial p' := by
  rcases perform_cases hperform with ⟨step, next, rfl, hmoves, hcreated⟩ |
    ⟨hk, haside, hcreated⟩
  · rw [← hexec.shared] at hmoves
    exact hinv.enroll_step hlimit hguard hexec hmoves hcreated
  · rw [← hexec.shared] at haside
    apply hinv.of_le hexec haside.tenants
    · exact haside.agents.countP_le
    · exact aside_onEnroll hcreated _

end Quota

/-!
## Runs
-/

/-- Every agent was there at the start, or is recorded with its token. -/
def Recorded (r : Registry) (p : State) : Prop :=
  forall a, a ∈ p.shared.registry.agents ->
    a ∈ r.agents ∨ exists t, (t, a.id) ∈ p.shared.enrolled

theorem Moves.recorded {x : Input} {s s' : Service} {step : EnrollStep}
    {next : Option EnrollStep} {a : MachineRow} (h : Moves x s step s' next)
    (ha : a ∈ s'.registry.agents) :
    a ∈ s.registry.agents ∨ exists t, (t, a.id) ∈ s'.enrolled := by
  cases h with
  | inserted hcreate =>
      rcases Registry.createAgent_some hcreate with ⟨row, hrow⟩
      simp only [hrow.agents] at ha
      rcases List.mem_append.mp ha with hold | hlast
      · exact Or.inl hold
      · right
        rw [List.mem_singleton.mp hlast, hrow.rowId]
        exact ⟨_, List.mem_cons_self⟩
  | marked hmark =>
      rw [Registry.markUsed_some hmark] at ha
      exact Or.inl ha
  | certified hinsert =>
      simp only [(Registry.insertCertificate_some hinsert).right.right] at ha
      exact Or.inl ha
  | _ =>
      exact Or.inl ha

theorem Recorded.step {r : Registry} {p p' : State} {x : Input} {k : Task}
    {o : Outcome Service Task} (hinv : Recorded r p)
    (hperform : perform k x p.shared = some o) (hexec : Pool.Executed p p' k o) :
    Recorded r p' := by
  intro a ha
  rcases perform_cases hperform with ⟨step, next, rfl, hmoves, _⟩ | ⟨_, haside, _⟩
  · rw [← hexec.shared] at hmoves
    rcases hmoves.recorded ha with hold | hnew
    · rcases hinv a hold with hinitial | ⟨t, ht⟩
      · exact Or.inl hinitial
      · right
        refine ⟨t, ?_⟩
        rcases hmoves.enrolled with hsame | ⟨_, _, _, _, _, _, _, hcons⟩
        · rw [hsame]
          exact ht
        · rw [hcons]
          exact List.mem_cons_of_mem _ ht
    · exact Or.inr hnew
  · rw [← hexec.shared] at haside
    rw [haside.enrolled]
    exact hinv a (haside.agents.mem ha)

/-- The law of all tokens and of all tenants with a quota. -/
structure EnrolmentLaw (r : Registry) (p : State) : Prop where
  recorded : Recorded r p
  known : TokensKnown p
  tokens : forall t, TokenLaw t p
  quotas : forall {tenantId limit}, r.maxAgents tenantId = some limit -> 0 < limit ->
    QuotaLaw tenantId limit (r.countByTenant tenantId) p

theorem enrolmentLaw_boot (wsEndpoint serverFingerprint : String) (r : Registry) :
    EnrolmentLaw r (boot wsEndpoint serverFingerprint r) := by
  have hidle : forall {j}, ¬ (boot wsEndpoint serverFingerprint r).Pending j := by
    rintro j ⟨q, hq, _⟩
    cases hq
  constructor
  · intro a ha
    exact Or.inl ha
  · refine ⟨?_, fun hj => absurd hj hidle, nofun⟩
    intro tok htok
    exact List.mem_map_of_mem htok
  · intro t
    exact ⟨Nat.zero_le _, fun huses => absurd huses (Nat.lt_irrefl 0)⟩
  · intro tenantId limit hquota _
    exact ⟨hquota, Nat.zero_le _, fun hj => absurd hj hidle, fun hj => absurd hj hidle,
      le_max_right _ _⟩

theorem enrolmentLaw_preserved (r : Registry) :
    service.Preserves (fun p e => Pool.guarded undisturbed p e = true)
      (EnrolmentLaw r) := by
  apply Pool.preserves
  · intro p p' req hinv hstart
    constructor
    · intro a ha
      rw [hstart.shared] at ha ⊢
      exact hinv.recorded a ha
    · exact hinv.known.start hstart
    · intro t
      exact (hinv.tokens t).start hstart
    · intro tenantId limit hquota hlimit
      exact (hinv.quotas hquota hlimit).start hstart
  · intro p p' x k o hinv hguard hperform hexec
    constructor
    · exact hinv.recorded.step hperform hexec
    · exact hinv.known.step hperform hexec
    · intro t
      exact (hinv.tokens t).step hinv.known hguard hperform hexec
    · intro tenantId limit hquota hlimit
      exact (hinv.quotas hquota hlimit).step hlimit hguard hperform hexec

/-- In an undisturbed run every agent comes from a token of its own, and a tenant
with a quota gets no agent beyond it. -/
theorem token_used_once_within_quota (wsEndpoint serverFingerprint : String)
    (r : Registry) {es : List Event} {q : State}
    (hrun : service.run (boot wsEndpoint serverFingerprint r) es = some q)
    (hmeets : service.Meets (fun p e => Pool.guarded undisturbed p e = true)
      (boot wsEndpoint serverFingerprint r) es) :
    (forall a, a ∈ q.shared.registry.agents ->
      a ∈ r.agents ∨ exists t, (t, a.id) ∈ q.shared.enrolled) ∧
    (forall t, q.shared.uses t ≤ 1) ∧
    (forall tenantId limit, r.maxAgents tenantId = some limit -> 0 < limit ->
      (q.shared.registry.countByTenant tenantId : Int) ≤
        max limit (r.countByTenant tenantId)) := by
  have hlaw := (enrolmentLaw_preserved r).run
    (enrolmentLaw_boot wsEndpoint serverFingerprint r) hmeets hrun
  refine ⟨hlaw.recorded, ?_, ?_⟩
  · intro t
    have honce := (hlaw.tokens t).once
    omega
  · intro tenantId limit hquota hlimit
    exact (hlaw.quotas hquota hlimit).bound

namespace Sample

/-- Two machines present the same token, the second one when the first has its
certificate. -/
def inTurn : List Event :=
  [PoolEvent.start (Request.enroll (some (request "t1" "hw-1")))] ++
    steps 0 9 (fine firstAgent 1) ++
    [PoolEvent.start (Request.enroll (some (request "t1" "hw-2")))] ++
    steps 1 2 (fine secondAgent 2)

/-- Two machines present the same token, and both requests pass their checks
before one of them inserts its agent. -/
def bothChecked : List Event :=
  [PoolEvent.start (Request.enroll (some (request "t1" "hw-1"))),
      PoolEvent.start (Request.enroll (some (request "t1" "hw-2")))] ++
    steps 0 5 (fine firstAgent 1) ++ steps 1 5 (fine secondAgent 2) ++
    steps 0 4 (fine firstAgent 1) ++ steps 1 4 (fine secondAgent 2)

end Sample

theorem token_used_once_within_quota_inTurn :
    exists q, service.run (Sample.start 1) Sample.inTurn = some q ∧
      q.shared.uses Sample.firstToken = 1 ∧
      (forall t, q.shared.uses t ≤ 1) ∧
      (q.shared.registry.countByTenant Sample.tenant : Int) ≤ 1 := by
  obtain ⟨q, hrun, huses⟩ : exists q,
      service.run (Sample.start 1) Sample.inTurn = some q ∧
        q.shared.uses Sample.firstToken = 1 :=
    ⟨_, rfl, by decide⟩
  have hlaw := token_used_once_within_quota "wss://leo/ws/agent" "deadbeef"
    (Sample.registry 1) hrun (by decide)
  refine ⟨q, hrun, huses, hlaw.right.left, ?_⟩
  exact hlaw.right.right Sample.tenant 1 (by decide) (by decide)

/-- Two requests with one token, interleaved between the checks and the
insertion: the token yields two agents and the quota of one agent is exceeded,
although no statement fails and both requests are answered with a certificate. -/
theorem token_used_twice_beyond_quota :
    exists q, service.run (Sample.start 1) Sample.bothChecked = some q ∧
      q.shared.uses Sample.firstToken = 2 ∧
      q.shared.registry.maxAgents Sample.tenant = some 1 ∧
      q.shared.registry.countByTenant Sample.tenant = 2 ∧
      (q.shared.answers.countP fun a => !a.isError) = 2 :=
  ⟨_, rfl, by decide, by decide, by decide, by decide⟩

end Enrollment
end LeoOne
