import LeoOne.Accounts.Auth

/-!
# The lockout of an account

`Login` asks the limiter whether the account is blocked and records a failure in
a later critical section, after the lookup and the password verification.  The
logins that are past the check and may still fail are therefore not counted by
it.  As long as they, together with the recorded failures, stay below the
maximum when another login passes, no window of the limiter holds more failed
verifications than the maximum.
-/

namespace LeoOne
namespace Accounts

open Foundation

namespace AuthStep

/-- A login for the key that is past the check and may still record a failure. -/
def mayFail (cfg : AuthConfig) (key : String) : AuthStep -> Bool
  | findLogin req => cfg.emailKey req.email = key
  | verify req _ _ => cfg.emailKey req.email = key
  | recordFailure emailKey _ _ _ => emailKey = key
  | _ => false

/-- A login for the key that is about to record a failure. -/
def records (key : String) : AuthStep -> Bool
  | recordFailure emailKey _ _ _ => emailKey = key
  | _ => false

end AuthStep

/-- When a login passes the check, the recorded failures of its key and the
logins in flight that may still fail are together fewer than the maximum. -/
def uncontended (cfg : AuthConfig) (p : Pool AuthState AuthStep) (k : AuthStep)
    (_ : AuthInput) : Bool :=
  match k with
  | AuthStep.login (some req) =>
      let key := cfg.emailKey req.email
      let recorded := (p.shared.kept cfg key).length
      cfg.max ≤ recorded || recorded + Pool.pendingCount (AuthStep.mayFail cfg key) p < cfg.max
  | _ => true

/-!
## What a step does to the limiter
-/

namespace AuthState

/-- The failed verifications under a key. -/
def failuresOf (s : AuthState) (key : String) : List Failure :=
  s.failures.filter fun f => f.emailKey = key

@[simp] theorem setAttempts_now (s : AuthState) (key : String) (ts : List Int) :
    (s.setAttempts key ts).now = s.now := rfl

@[simp] theorem setAttempts_failures (s : AuthState) (key : String) (ts : List Int) :
    (s.setAttempts key ts).failures = s.failures := rfl

@[simp] theorem setAttempts_attempts (s : AuthState) (key key' : String) (ts : List Int) :
    (s.setAttempts key ts).attempts key' = if key' = key then ts else s.attempts key' := rfl

@[simp] theorem reject_now (s : AuthState) (status : Nat) (code message : String) :
    (s.reject status code message).1.now = s.now := rfl

@[simp] theorem reject_attempts (s : AuthState) (status : Nat) (code message : String) :
    (s.reject status code message).1.attempts = s.attempts := rfl

@[simp] theorem reject_failures (s : AuthState) (status : Nat) (code message : String) :
    (s.reject status code message).1.failures = s.failures := rfl

@[simp] theorem reject_next (s : AuthState) (status : Nat) (code message : String) :
    (s.reject status code message).2 = none := rfl

end AuthState

/-- The effects a step can have on the limiter's entry for a key, on the failures
under that key and on the logins in flight for it. -/
inductive LimiterMove (cfg : AuthConfig) (key : String) (s : AuthState) (k : AuthStep)
    (s' : AuthState) (next : Option AuthStep) : Prop where
  /-- A login passes the check. -/
  | admitted {req : LoginRequest} (hk : k = AuthStep.login (some req))
      (hkey : cfg.emailKey req.email = key) (hnow : s'.now = s.now)
      (hfree : (s.kept cfg key).length < cfg.max)
      (hattempts : s'.attempts key = s.kept cfg key)
      (hfailures : s'.failuresOf key = s.failuresOf key)
      (hnext : next = some (AuthStep.findLogin req))
  /-- The check refuses a login. -/
  | refused (hnow : s'.now = s.now) (hattempts : s'.attempts key = s.kept cfg key)
      (hfailures : s'.failuresOf key = s.failuresOf key)
      (hmay : k.mayFail cfg key = false) (hrecords : k.records key = false)
      (hnext : next = none)
  /-- A password verification fails. -/
  | failed (hnow : s'.now = s.now) (hattempts : s'.attempts key = s.attempts key)
      (hfailures : s'.failuresOf key = { emailKey := key, time := s.now } :: s.failuresOf key)
      (hmay : k.mayFail cfg key = true) (hrecords : k.records key = false)
      (hnext : exists status code message,
        next = some (AuthStep.recordFailure key status code message))
  /-- A failure is recorded. -/
  | recorded (hnow : s'.now = s.now) (hattempts : s'.attempts key = s.kept cfg key ++ [s.now])
      (hfailures : s'.failuresOf key = s.failuresOf key)
      (hmay : k.mayFail cfg key = true) (hrecords : k.records key = true)
      (hnext : next = none)
  /-- A successful login forgets the failures. -/
  | reset (hnow : s'.now = s.now) (hattempts : s'.attempts key = [])
      (hfailures : s'.failuresOf key = [])
      (hmay : next.toList.countP (AuthStep.mayFail cfg key) = 0)
      (hrecords : k.records key = false)
  /-- Nothing happens to this key, except that time may pass. -/
  | other (hnow : s.now ≤ s'.now) (hattempts : s'.attempts key = s.attempts key)
      (hfailures : s'.failuresOf key = s.failuresOf key)
      (hmay : next.toList.countP (AuthStep.mayFail cfg key) ≤
        [k].countP (AuthStep.mayFail cfg key))
      (hrecords : k.records key = false)

theorem exec_limiterMove (cfg : AuthConfig) (x : AuthInput) (s : AuthState) (k : AuthStep)
    (key : String) :
    LimiterMove cfg key s k (k.exec cfg x s).1 (k.exec cfg x s).2 := by
  cases k with
  | login body =>
      cases body with
      | none =>
          exact LimiterMove.other (le_refl _) rfl rfl (Nat.zero_le _) rfl
      | some req =>
          simp only [AuthStep.exec]
          split
          · exact LimiterMove.other (le_refl _) rfl rfl (Nat.zero_le _) rfl
          · by_cases hkey : cfg.emailKey req.email = key
            · subst hkey
              split
              · exact LimiterMove.refused rfl (by simp) rfl rfl rfl rfl
              · rename_i hfree
                exact LimiterMove.admitted rfl rfl rfl (Nat.lt_of_not_le hfree) (by simp) rfl rfl
            · have hne : key ≠ cfg.emailKey req.email := fun h => hkey h.symm
              split
              · exact LimiterMove.other (le_refl _) (by simp [hne]) rfl (Nat.zero_le _) rfl
              · exact LimiterMove.other (le_refl _) (by simp [hne]) rfl
                  (by simp [AuthStep.mayFail, hkey]) rfl
  | findLogin req =>
      simp only [AuthStep.exec]
      split
      · exact LimiterMove.other (le_refl _) rfl rfl (Nat.zero_le _) rfl
      · split
        · exact LimiterMove.other (le_refl _) rfl rfl (by simp [AuthStep.mayFail]) rfl
        · split
          · exact LimiterMove.other (le_refl _) rfl rfl (by simp [AuthStep.mayFail]) rfl
          · exact LimiterMove.other (le_refl _) rfl rfl (by simp [AuthStep.mayFail]) rfl
  | verify req u isAdmin =>
      simp only [AuthStep.exec]
      split
      · exact LimiterMove.other (le_refl _) rfl rfl (by simp [AuthStep.mayFail]) rfl
      · by_cases hkey : cfg.emailKey req.email = key
        · subst hkey
          exact LimiterMove.failed rfl rfl (by simp [AuthState.failuresOf])
            (by simp [AuthStep.mayFail]) rfl ⟨_, _, _, rfl⟩
        · exact LimiterMove.other (le_refl _) rfl (by simp [AuthState.failuresOf, hkey])
            (by simp [AuthStep.mayFail]) rfl
  | recordFailure emailKey status code message =>
      simp only [AuthStep.exec]
      by_cases hkey : emailKey = key
      · subst hkey
        exact LimiterMove.recorded rfl (by simp) rfl (by simp [AuthStep.mayFail])
          (by simp [AuthStep.records]) rfl
      · have hne : key ≠ emailKey := fun h => hkey h.symm
        exact LimiterMove.other (le_refl _) (by simp [hne]) rfl (Nat.zero_le _)
          (by simp [AuthStep.records, hkey])
  | reset emailKey u isAdmin =>
      simp only [AuthStep.exec]
      by_cases hkey : emailKey = key
      · subst hkey
        exact LimiterMove.reset rfl (by simp) (by simp [AuthState.failuresOf]) rfl rfl
      · have hne : key ≠ emailKey := fun h => hkey h.symm
        refine LimiterMove.other (le_refl _) (by simp [hne]) ?_ (by simp [AuthStep.mayFail]) rfl
        unfold AuthState.failuresOf
        rw [List.filter_filter]
        apply List.filter_congr
        intro f _
        by_cases hf : f.emailKey = key
        · simp [hf, hne]
        · simp [hf]
  | signAccess u isAdmin =>
      simp only [AuthStep.exec]
      split
      · exact LimiterMove.other (le_refl _) rfl rfl (Nat.zero_le _) rfl
      · exact LimiterMove.other (le_refl _) rfl rfl (by simp [AuthStep.mayFail]) rfl
  | signSession u access now =>
      simp only [AuthStep.exec]
      split
      · exact LimiterMove.other (le_refl _) rfl rfl (Nat.zero_le _) rfl
      · exact LimiterMove.other (le_refl _) rfl rfl (Nat.zero_le _) rfl
  | refresh body =>
      cases body with
      | none =>
          exact LimiterMove.other (le_refl _) rfl rfl (Nat.zero_le _) rfl
      | some token =>
          simp only [AuthStep.exec]
          split
          · exact LimiterMove.other (le_refl _) rfl rfl (Nat.zero_le _) rfl
          · split
            · exact LimiterMove.other (le_refl _) rfl rfl (Nat.zero_le _) rfl
            · exact LimiterMove.other (le_refl _) rfl rfl (by simp [AuthStep.mayFail]) rfl
  | findActive userId tenantId =>
      simp only [AuthStep.exec]
      split
      · exact LimiterMove.other (le_refl _) rfl rfl (Nat.zero_le _) rfl
      · split
        · exact LimiterMove.other (le_refl _) rfl rfl (Nat.zero_le _) rfl
        · exact LimiterMove.other (le_refl _) rfl rfl (by simp [AuthStep.mayFail]) rfl
  | signRefresh userId tenantId isAdmin =>
      simp only [AuthStep.exec]
      split
      · exact LimiterMove.other (le_refl _) rfl rfl (Nat.zero_le _) rfl
      · exact LimiterMove.other (le_refl _) rfl rfl (Nat.zero_le _) rfl
  | authenticate header =>
      cases header with
      | missing =>
          exact LimiterMove.other (le_refl _) rfl rfl (Nat.zero_le _) rfl
      | malformed =>
          exact LimiterMove.other (le_refl _) rfl rfl (Nat.zero_le _) rfl
      | bearer token =>
          simp only [AuthStep.exec]
          split
          · exact LimiterMove.other (le_refl _) rfl rfl (Nat.zero_le _) rfl
          · split
            · exact LimiterMove.other (le_refl _) rfl rfl (Nat.zero_le _) rfl
            · exact LimiterMove.other (le_refl _) rfl rfl (Nat.zero_le _) rfl
  | advance d =>
      refine LimiterMove.other ?_ rfl rfl (Nat.zero_le _) rfl
      simp only [AuthStep.exec]
      omega
  | change directory =>
      exact LimiterMove.other (le_refl _) rfl rfl (Nat.zero_le _) rfl

/-!
## The invariant
-/

/-- The failed verifications under a key within the window that starts after `a`. -/
def AuthState.failedWithin (cfg : AuthConfig) (s : AuthState) (key : String) (a : Int) : Nat :=
  (s.failuresOf key).countP fun f => a < f.time && f.time ≤ a + cfg.window

/-- The failed verifications under a key after `a`. -/
def AuthState.failedAfter (s : AuthState) (key : String) (a : Int) : Nat :=
  (s.failuresOf key).countP fun f => a < f.time

/-- The recorded failures and the logins in flight stay within the maximum, and
every failed verification that the limiter has not forgotten is recorded or about
to be. -/
structure LockoutLaw (cfg : AuthConfig) (key : String) (p : Pool AuthState AuthStep) :
    Prop where
  bounded : (p.shared.kept cfg key).length +
    Pool.pendingCount (AuthStep.mayFail cfg key) p ≤ cfg.max
  past : forall f, f ∈ p.shared.failuresOf key -> f.time ≤ p.shared.now
  recorded : forall a, p.shared.now - cfg.window ≤ a ->
    p.shared.failedAfter key a ≤
      ((p.shared.attempts key).countP fun t => decide (a < t)) +
        Pool.pendingCount (AuthStep.records key) p
  windows : forall a, p.shared.failedWithin cfg key a ≤ cfg.max

section Counting

variable {cfg : AuthConfig} {key : String} {s s' : AuthState}

/-- A purge at the same instant keeps everything it kept before. -/
theorem kept_of_kept (hnow : s'.now = s.now) (hattempts : s'.attempts key = s.kept cfg key) :
    s'.kept cfg key = s.kept cfg key := by
  simp only [AuthState.kept, hattempts, hnow, List.filter_filter, Bool.and_self]

theorem kept_length_le (hnow : s.now ≤ s'.now) (hattempts : s'.attempts key = s.attempts key) :
    (s'.kept cfg key).length ≤ (s.kept cfg key).length := by
  simp only [AuthState.kept, hattempts, ← List.countP_eq_length_filter]
  apply List.countP_mono_left
  intro t _ ht
  simp only [decide_eq_true_eq] at ht ⊢
  omega

theorem kept_append_length (hnow : s'.now = s.now)
    (hattempts : s'.attempts key = s.kept cfg key ++ [s.now]) :
    (s'.kept cfg key).length ≤ (s.kept cfg key).length + 1 := by
  simp only [AuthState.kept, hattempts, hnow, List.filter_append, List.length_append,
    List.filter_filter, Bool.and_self]
  exact Nat.add_le_add_left (List.length_filter_le _ _) _

/-- A purge drops nothing that is later than the start of the window. -/
theorem countP_kept {a : Int} (ha : s.now - cfg.window ≤ a) :
    ((s.kept cfg key).countP fun t => decide (a < t)) =
      (s.attempts key).countP fun t => decide (a < t) := by
  unfold AuthState.kept
  rw [List.countP_filter]
  apply List.countP_congr
  intro t _
  simp only [Bool.and_eq_true, decide_eq_true_eq]
  omega

theorem countP_attempts_le {a : Int} (ha : s.now - cfg.window ≤ a) :
    ((s.attempts key).countP fun t => decide (a < t)) ≤ (s.kept cfg key).length := by
  rw [← countP_kept ha]
  exact List.countP_le_length

/-- A login that is about to record a failure is one that may fail. -/
theorem pendingCount_records_le (cfg : AuthConfig) (key : String)
    (p : Pool AuthState AuthStep) :
    Pool.pendingCount (AuthStep.records key) p ≤
      Pool.pendingCount (AuthStep.mayFail cfg key) p := by
  apply List.countP_mono_left
  intro k _ hk
  cases k <;> first | exact hk | cases hk

theorem failedWithin_le_failedAfter (a : Int) :
    s.failedWithin cfg key a ≤ s.failedAfter key a := by
  apply List.countP_mono_left
  intro f _ hf
  exact (Bool.and_eq_true_iff.mp hf).left

end Counting

/-- The windows that reach up to now follow from the other parts of the law. -/
theorem failedWithin_now {cfg : AuthConfig} {key : String} {p : Pool AuthState AuthStep}
    (hbounded : (p.shared.kept cfg key).length +
      Pool.pendingCount (AuthStep.mayFail cfg key) p ≤ cfg.max)
    (hrecorded : forall a, p.shared.now - cfg.window ≤ a ->
      p.shared.failedAfter key a ≤
        ((p.shared.attempts key).countP fun t => decide (a < t)) +
          Pool.pendingCount (AuthStep.records key) p)
    {a : Int} (ha : p.shared.now - cfg.window ≤ a) :
    p.shared.failedWithin cfg key a ≤ cfg.max :=
  calc p.shared.failedWithin cfg key a
      ≤ p.shared.failedAfter key a := failedWithin_le_failedAfter a
    _ ≤ ((p.shared.attempts key).countP fun t => decide (a < t)) +
          Pool.pendingCount (AuthStep.records key) p := hrecorded a ha
    _ ≤ (p.shared.kept cfg key).length + Pool.pendingCount (AuthStep.mayFail cfg key) p :=
        Nat.add_le_add (countP_attempts_le ha) (pendingCount_records_le cfg key p)
    _ ≤ cfg.max := hbounded

section Step

variable {cfg : AuthConfig} {key : String} {p p' : Pool AuthState AuthStep} {k : AuthStep}
  {x : AuthInput} {next : Option AuthStep}

theorem bounded_step (hlaw : LockoutLaw cfg key p) (hguard : uncontended cfg p k x = true)
    (hmove : LimiterMove cfg key p.shared k p'.shared next)
    (hcount : Pool.pendingCount (AuthStep.mayFail cfg key) p' +
        [k].countP (AuthStep.mayFail cfg key) =
      Pool.pendingCount (AuthStep.mayFail cfg key) p +
        next.toList.countP (AuthStep.mayFail cfg key)) :
    (p'.shared.kept cfg key).length +
      Pool.pendingCount (AuthStep.mayFail cfg key) p' ≤ cfg.max := by
  have hold := hlaw.bounded
  cases hmove with
  | admitted hk hkey hnow hfree hattempts hfailures hnext =>
      -- the only move that adds a login in flight, and the one the guard is about
      subst hk hnext
      have hroom : (p.shared.kept cfg key).length +
          Pool.pendingCount (AuthStep.mayFail cfg key) p < cfg.max := by
        simp only [uncontended, hkey, Bool.or_eq_true, decide_eq_true_eq] at hguard
        rcases hguard with hblocked | hroom
        · omega
        · exact hroom
      simp only [AuthStep.mayFail, hkey, Option.toList_some, List.countP_singleton,
        decide_true, Bool.false_eq_true, if_true, if_false] at hcount
      rw [kept_of_kept hnow hattempts]
      omega
  | refused hnow hattempts hfailures hmay hrecords hnext =>
      subst hnext
      simp only [List.countP_singleton, hmay, Bool.false_eq_true, if_false, Option.toList_none,
        List.countP_nil] at hcount
      rw [kept_of_kept hnow hattempts]
      omega
  | failed hnow hattempts hfailures hmay hrecords hnext =>
      rcases hnext with ⟨status, code, message, rfl⟩
      have hnew : AuthStep.mayFail cfg key (AuthStep.recordFailure key status code message) =
          true := by
        simp [AuthStep.mayFail]
      simp only [Option.toList_some, List.countP_singleton, hmay, hnew, if_true] at hcount
      have hkept : (p'.shared.kept cfg key).length ≤ (p.shared.kept cfg key).length :=
        kept_length_le (le_of_eq hnow.symm) hattempts
      omega
  | recorded hnow hattempts hfailures hmay hrecords hnext =>
      subst hnext
      simp only [List.countP_singleton, hmay, if_true, Option.toList_none,
        List.countP_nil] at hcount
      have hkept := kept_append_length hnow hattempts
      omega
  | reset hnow hattempts hfailures hmay hrecords =>
      rw [hmay] at hcount
      have hkept : p'.shared.kept cfg key = [] := by
        simp only [AuthState.kept, hattempts, List.filter_nil]
      rw [hkept, List.length_nil]
      omega
  | other hnow hattempts hfailures hmay hrecords =>
      have hkept : (p'.shared.kept cfg key).length ≤ (p.shared.kept cfg key).length :=
        kept_length_le hnow hattempts
      omega

theorem past_step (hlaw : LockoutLaw cfg key p)
    (hmove : LimiterMove cfg key p.shared k p'.shared next) :
    forall f, f ∈ p'.shared.failuresOf key -> f.time ≤ p'.shared.now := by
  intro f hf
  have hpast := hlaw.past f
  cases hmove with
  | failed hnow hattempts hfailures hmay hrecords hnext =>
      rw [hfailures] at hf
      rcases List.mem_cons.mp hf with rfl | hold
      · exact le_of_eq hnow.symm
      · rw [hnow]
        exact hpast hold
  | reset hnow hattempts hfailures hmay hrecords =>
      rw [hfailures] at hf
      cases hf
  | admitted hk hkey hnow hfree hattempts hfailures hnext =>
      rw [hfailures] at hf
      rw [hnow]
      exact hpast hf
  | refused hnow hattempts hfailures hmay hrecords hnext =>
      rw [hfailures] at hf
      rw [hnow]
      exact hpast hf
  | recorded hnow hattempts hfailures hmay hrecords hnext =>
      rw [hfailures] at hf
      rw [hnow]
      exact hpast hf
  | other hnow hattempts hfailures hmay hrecords =>
      rw [hfailures] at hf
      exact le_trans (hpast hf) hnow

theorem recorded_step (hlaw : LockoutLaw cfg key p)
    (hmove : LimiterMove cfg key p.shared k p'.shared next)
    (hcount : Pool.pendingCount (AuthStep.records key) p' + [k].countP (AuthStep.records key) =
      Pool.pendingCount (AuthStep.records key) p +
        next.toList.countP (AuthStep.records key))
    {a : Int} (ha : p'.shared.now - cfg.window ≤ a) :
    p'.shared.failedAfter key a ≤
      ((p'.shared.attempts key).countP fun t => decide (a < t)) +
        Pool.pendingCount (AuthStep.records key) p' := by
  unfold AuthState.failedAfter
  cases hmove with
  | admitted hk hkey hnow hfree hattempts hfailures hnext =>
      subst hk hnext
      simp only [AuthStep.records, Option.toList_some, List.countP_singleton,
        Bool.false_eq_true, if_false] at hcount
      rw [hnow] at ha
      have hold := hlaw.recorded a ha
      rw [hfailures, hattempts, countP_kept ha]
      unfold AuthState.failedAfter at hold
      omega
  | refused hnow hattempts hfailures hmay hrecords hnext =>
      subst hnext
      simp only [List.countP_singleton, hrecords, Bool.false_eq_true, if_false,
        Option.toList_none, List.countP_nil] at hcount
      rw [hnow] at ha
      have hold := hlaw.recorded a ha
      rw [hfailures, hattempts, countP_kept ha]
      unfold AuthState.failedAfter at hold
      omega
  | failed hnow hattempts hfailures hmay hrecords hnext =>
      rcases hnext with ⟨status, code, message, rfl⟩
      have hnew : AuthStep.records key (AuthStep.recordFailure key status code message) =
          true := by
        simp [AuthStep.records]
      simp only [Option.toList_some, List.countP_singleton, hrecords, hnew, if_true,
        Bool.false_eq_true, if_false] at hcount
      rw [hnow] at ha
      have hold := hlaw.recorded a ha
      rw [hfailures, hattempts, List.countP_cons]
      unfold AuthState.failedAfter at hold
      split <;> omega
  | recorded hnow hattempts hfailures hmay hrecords hnext =>
      subst hnext
      simp only [List.countP_singleton, hrecords, if_true, Option.toList_none,
        List.countP_nil] at hcount
      rw [hnow] at ha
      rw [hfailures, hattempts, List.countP_append, countP_kept ha, List.countP_singleton]
      by_cases hnew : a < p.shared.now
      · have hold := hlaw.recorded a ha
        unfold AuthState.failedAfter at hold
        simp only [hnew, decide_true, if_true]
        omega
      · -- no failure is later than now
        have hnone : ((p.shared.failuresOf key).countP fun f => decide (a < f.time)) = 0 := by
          rw [List.countP_eq_zero]
          intro f hf hlate
          have hpast := hlaw.past f hf
          have hafter := of_decide_eq_true hlate
          omega
        omega
  | reset hnow hattempts hfailures hmay hrecords =>
      rw [hfailures, List.countP_nil]
      exact Nat.zero_le _
  | other hnow hattempts hfailures hmay hrecords =>
      simp only [List.countP_singleton, hrecords, Bool.false_eq_true, if_false] at hcount
      have hold := hlaw.recorded a (by omega)
      rw [hfailures, hattempts]
      unfold AuthState.failedAfter at hold
      omega

end Step

theorem windows_step {cfg : AuthConfig} {key : String} {p p' : Pool AuthState AuthStep}
    {k : AuthStep} {next : Option AuthStep} (hlaw : LockoutLaw cfg key p)
    (hmove : LimiterMove cfg key p.shared k p'.shared next)
    (hnow : forall a, p'.shared.now - cfg.window ≤ a ->
      p'.shared.failedWithin cfg key a ≤ cfg.max) (a : Int) :
    p'.shared.failedWithin cfg key a ≤ cfg.max := by
  have hold := hlaw.windows a
  cases hmove with
  | failed htime hattempts hfailures hmay hrecords hnext =>
      -- an older window does not reach the new failure
      by_cases ha : p'.shared.now - cfg.window ≤ a
      · exact hnow a ha
      · have hout : ¬ p.shared.now ≤ a + cfg.window := by
          omega
        unfold AuthState.failedWithin
        rw [hfailures, List.countP_cons]
        simp only [hout, decide_false, Bool.and_false, Bool.false_eq_true, if_false, add_zero]
        exact hold
  | reset htime hattempts hfailures hmay hrecords =>
      unfold AuthState.failedWithin
      rw [hfailures, List.countP_nil]
      exact Nat.zero_le _
  | admitted hk hkey htime hfree hattempts hfailures hnext =>
      unfold AuthState.failedWithin
      rw [hfailures]
      exact hold
  | refused htime hattempts hfailures hmay hrecords hnext =>
      unfold AuthState.failedWithin
      rw [hfailures]
      exact hold
  | recorded htime hattempts hfailures hmay hrecords hnext =>
      unfold AuthState.failedWithin
      rw [hfailures]
      exact hold
  | other htime hattempts hfailures hmay hrecords =>
      unfold AuthState.failedWithin
      rw [hfailures]
      exact hold

theorem entry_limiter (cfg : AuthConfig) (key : String) (r : AuthRequest) :
    r.entry.countP (AuthStep.mayFail cfg key) = 0 ∧ r.entry.countP (AuthStep.records key) = 0 := by
  cases r <;> exact ⟨rfl, rfl⟩

theorem lockoutLaw_preserved (cfg : AuthConfig) (key : String) :
    (authService cfg).Preserves (fun p e => Pool.guarded (uncontended cfg) p e = true)
      (LockoutLaw cfg key) := by
  apply Pool.preserves
  · intro p p' r hlaw hstarted
    rcases entry_limiter cfg key r with ⟨hmay, hrecords⟩
    have hmayCount := hstarted.count (AuthStep.mayFail cfg key)
    have hrecordsCount := hstarted.count (AuthStep.records key)
    rw [hmay, Nat.add_zero] at hmayCount
    rw [hrecords, Nat.add_zero] at hrecordsCount
    constructor
    · rw [hstarted.shared, hmayCount]
      exact hlaw.bounded
    · rw [hstarted.shared]
      exact hlaw.past
    · rw [hstarted.shared, hrecordsCount]
      exact hlaw.recorded
    · rw [hstarted.shared]
      exact hlaw.windows
  · intro p p' x k o hlaw hguard hperform hexecuted
    rcases AuthStep.perform_created hperform with ⟨hshared, hcreated⟩
    have hmove := exec_limiterMove cfg x p.shared k key
    rw [← hshared, ← hexecuted.shared] at hmove
    have hcount := hexecuted.count
    rw [hcreated] at hcount
    have hbounded := bounded_step hlaw hguard hmove (hcount _)
    have hrecorded := fun a => recorded_step (a := a) hlaw hmove (hcount _)
    exact
      { bounded := hbounded
        past := past_step hlaw hmove
        recorded := hrecorded
        windows := windows_step hlaw hmove fun a ha => failedWithin_now hbounded hrecorded ha }

theorem lockoutLaw_boot (cfg : AuthConfig) (key : String) (now : Int) (directory : Directory) :
    LockoutLaw cfg key (authBoot now directory) where
  bounded := Nat.zero_le _
  past := fun _ h => absurd h List.not_mem_nil
  recorded := fun _ _ => Nat.zero_le _
  windows := fun _ => Nat.zero_le _

/-!
## The bound
-/

/-- If every login that passes the check leaves room for the logins in flight, no
window of the limiter holds more failed verifications of an account than the
maximum, counted from the last successful login on. -/
theorem lockout_bounds_failures (cfg : AuthConfig) (now : Int) (directory : Directory)
    {es : List AuthEvent} {q : Pool AuthState AuthStep}
    (hmeets : (authService cfg).Meets
      (fun p e => Pool.guarded (uncontended cfg) p e = true) (authBoot now directory) es)
    (hrun : (authService cfg).run (authBoot now directory) es = some q)
    (key : String) (a : Int) :
    (q.shared.failures.countP fun f =>
      f.emailKey = key && (a < f.time && f.time ≤ a + cfg.window)) ≤ cfg.max := by
  have hlaw := (lockoutLaw_preserved cfg key).run (lockoutLaw_boot cfg key now directory)
    hmeets hrun
  have hwithin := hlaw.windows a
  unfold AuthState.failedWithin AuthState.failuresOf at hwithin
  rw [List.countP_filter] at hwithin
  refine le_trans (le_of_eq ?_) hwithin
  apply List.countP_congr
  intro f _
  rw [Bool.and_comm]

namespace SampleLogin

/-- One failure within a minute blocks an account. -/
def config : AuthConfig where
  accessTTL := 900000000000
  refreshTTL := 86400000000000
  max := 1
  window := 60000000000
  emailKey := fun email => email
  verifyArgon2id := fun password hash => password = hash

def user : UserRow where
  id := { text := "36000000-0000-4000-8000-000000000001", canonical := by decide }
  tenantId := { text := "36000000-0000-4000-8000-000000000002", canonical := by decide }
  email := "a@leo"
  passwordHash := "right"
  fullName := "A"
  isActive := true

def directory : Directory where
  users := [user]
  roles := []
  userRoles := []

def attempt : AuthEvent :=
  PoolEvent.start (AuthRequest.login (some { email := "a@leo", password := "wrong" }))

def exec (i : Nat) : AuthEvent :=
  PoolEvent.exec i { fails := false, pick := 0 }

/-- Two wrong passwords, one after the other. -/
def inTurn : List AuthEvent :=
  [attempt, exec 0, exec 0, exec 0, exec 0, attempt, exec 1]

/-- Two wrong passwords; the second login passes the check while the first one is
between its check and its verification. -/
def atOnce : List AuthEvent :=
  [attempt, attempt, exec 0, exec 1, exec 0, exec 1, exec 0, exec 1]

end SampleLogin

theorem lockout_bounds_failures_inTurn :
    exists q, (authService SampleLogin.config).run (authBoot 0 SampleLogin.directory)
        SampleLogin.inTurn = some q ∧
      (q.shared.failures.countP fun f =>
        f.emailKey = "a@leo" && (-1 < f.time && f.time ≤ -1 + SampleLogin.config.window)) ≤ 1 := by
  obtain ⟨q, hrun⟩ : exists q, (authService SampleLogin.config).run
      (authBoot 0 SampleLogin.directory) SampleLogin.inTurn = some q :=
    ⟨_, rfl⟩
  exact ⟨q, hrun, lockout_bounds_failures SampleLogin.config 0 SampleLogin.directory
    (by decide) hrun "a@leo" (-1)⟩

/-- Both verifications fail in the same window although one failure is the maximum. -/
theorem concurrent_logins_exceed_maximum :
    exists q, (authService SampleLogin.config).run (authBoot 0 SampleLogin.directory)
        SampleLogin.atOnce = some q ∧
      SampleLogin.config.max = 1 ∧
      (q.shared.failures.countP fun f =>
        f.emailKey = "a@leo" &&
          (-1 < f.time && f.time ≤ -1 + SampleLogin.config.window)) = 2 :=
  ⟨_, rfl, rfl, by decide⟩

end Accounts
end LeoOne
