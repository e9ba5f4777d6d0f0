import LeoOne.Foundation.Machine
import LeoOne.Accounts.Auth

/-!
# The session of the console

`useAuthStore`: the session and, beside it, the access token.  `refresh` captures
the session, awaits the network and then writes to whatever the state is at that
moment.  Between two awaits the code runs without interruption, so a step is a
call of `setSession` or `clearSession`, the start of a refresh, or its completion.

A token stands for its claims, as the server signs them: a login returns tokens of
the user it returns, and `AuthHandler.Refresh` signs for the subject of the refresh
token it is sent.
-/

namespace LeoOne
namespace Frontend

open Foundation
open Accounts

/-- The part of `User` that identifies the account. -/
structure User where
  id : String
  tenantId : String
  deriving DecidableEq

/-- `AuthSession`. -/
structure AuthSession where
  user : User
  accessToken : Claims
  refreshToken : Claims
  expiresAt : Int
  deriving DecidableEq

/-- The session that the login page builds from an answer of `AuthHandler.Login`. -/
structure LoginSession extends AuthSession where
  access_sub : accessToken.sub = user.id
  refresh_sub : refreshToken.sub = user.id

/-- A `refresh` that awaits the network: the session it captured, and how many
sessions had been set when it started. -/
structure Refresh where
  session : AuthSession
  logins : Nat
  deriving DecidableEq

/-- The claims that the server chooses when it answers a refresh. -/
structure Renewal where
  isAdmin : Bool
  iat : Int
  exp : Int

/-- How a refresh ends.  An error status, a network error and a body that cannot
be read all end in `clearSession`. -/
inductive Completion where
  | ok (renewal : Renewal)
  | failed

/-- The access token with which the server answers a refresh. -/
def Refresh.newToken (r : Refresh) (renewal : Renewal) : Claims where
  sub := r.session.refreshToken.sub
  tenantId := r.session.refreshToken.tenantId
  isAdmin := renewal.isAdmin
  type := "access"
  iat := renewal.iat
  exp := renewal.exp

/-- The store, with the refreshes in flight and the number of sessions set so far. -/
structure AuthStore where
  session : Option AuthSession
  accessToken : Option Claims
  inFlight : List Refresh
  logins : Nat
  deriving DecidableEq

inductive StoreEvent where
  | setSession (session : LoginSession)
  | clearSession
  | refresh
  | complete (i : Nat) (completion : Completion)

namespace AuthStore

def setSession (s : AuthStore) (session : AuthSession) : AuthStore :=
  { s with
    session := some session
    accessToken := some session.accessToken
    logins := s.logins + 1 }

def clearSession (s : AuthStore) : AuthStore :=
  { s with session := none, accessToken := none }

/-- The `set` after a successful refresh. -/
def setToken (s : AuthStore) (newToken : Claims) : AuthStore :=
  { s with
    accessToken := some newToken
    session := s.session.map fun session => { session with accessToken := newToken } }

def step (s : AuthStore) : StoreEvent -> Option AuthStore
  | StoreEvent.setSession session => some (s.setSession session.toAuthSession)
  | StoreEvent.clearSession => some s.clearSession
  | StoreEvent.refresh =>
      match s.session with
      | none => some s
      | some session =>
          some
            { s with inFlight := s.inFlight ++ [{ session := session, logins := s.logins }] }
  | StoreEvent.complete i completion =>
      match s.inFlight[i]? with
      | none => none
      | some r =>
          let s := { s with inFlight := s.inFlight.eraseIdx i }
          match completion with
          | Completion.ok renewal => some (s.setToken (r.newToken renewal))
          | Completion.failed => some s.clearSession

/-- The store before the first login. -/
def start : AuthStore where
  session := none
  accessToken := none
  inFlight := []
  logins := 0

end AuthStore

def authStore : Machine AuthStore StoreEvent where
  step := AuthStore.step

/-- `accessToken` is the token of the session and belongs to its user. -/
def AuthStore.Coherent (s : AuthStore) : Prop :=
  (s.accessToken = none <-> s.session = none) ∧
    forall session, s.session = some session ->
      s.accessToken = some session.accessToken ∧ session.accessToken.sub = session.user.id

/-- The step is not the completion of a refresh that touches a session set after
the refresh started. -/
def KeepsLaterSession (s : AuthStore) (e : StoreEvent) (s' : AuthStore) : Prop :=
  forall i completion r session, e = StoreEvent.complete i completion ->
    s.inFlight[i]? = some r -> r.logins < s.logins -> s.session = some session ->
      s'.session = some session ∧ s'.accessToken = s.accessToken

/-- When a refresh completes, no session has been set since it started; a
successful one also finds that its session has not been cleared.  (A failed
refresh does no harm once there is no session.) -/
def Undisturbed (s : AuthStore) : StoreEvent -> Prop
  | StoreEvent.complete i completion =>
      forall r, s.inFlight[i]? = some r ->
        match completion with
        | Completion.ok _ => r.logins = s.logins ∧ s.session ≠ none
        | Completion.failed => r.logins = s.logins ∨ s.session = none
  | _ => True

instance (s : AuthStore) (e : StoreEvent) : Decidable (Undisturbed s e) :=
  match e with
  | StoreEvent.setSession _ => isTrue trivial
  | StoreEvent.clearSession => isTrue trivial
  | StoreEvent.refresh => isTrue trivial
  | StoreEvent.complete i completion =>
      match h : s.inFlight[i]? with
      | none => isTrue fun r hr => by rw [h] at hr; cases hr
      | some r =>
          match completion with
          | Completion.ok renewal =>
              decidable_of_iff (r.logins = s.logins ∧ s.session ≠ none)
                ⟨fun hr r' hr' => by rw [h] at hr'; cases hr'; exact hr, fun hall => hall r h⟩
          | Completion.failed =>
              decidable_of_iff (r.logins = s.logins ∨ s.session = none)
                ⟨fun hr r' hr' => by rw [h] at hr'; cases hr'; exact hr, fun hall => hall r h⟩

/-!
## The invariant

A refresh knows which session it was started for by the number of sessions set
before it; as long as that number stands, the current session is of its user.
-/

structure StoreLaw (s : AuthStore) : Prop where
  coherent : s.Coherent
  owned : forall session, s.session = some session ->
    session.refreshToken.sub = session.user.id
  captured : forall r, r ∈ s.inFlight -> r.session.refreshToken.sub = r.session.user.id
  earlier : forall r, r ∈ s.inFlight -> r.logins ≤ s.logins
  same : forall r, r ∈ s.inFlight -> r.logins = s.logins ->
    forall session, s.session = some session -> session.user = r.session.user

namespace AuthStore

theorem start_law : StoreLaw start where
  coherent := ⟨by simp [start], fun _ h => by cases h⟩
  owned := fun _ h => by cases h
  captured := fun _ h => absurd h List.not_mem_nil
  earlier := fun _ h => absurd h List.not_mem_nil
  same := fun _ h => absurd h List.not_mem_nil

theorem setSession_law {s : AuthStore} (h : StoreLaw s) (session : LoginSession) :
    StoreLaw (s.setSession session.toAuthSession) where
  coherent := by
    refine ⟨by simp [setSession], ?_⟩
    intro current hcurrent
    cases hcurrent
    exact ⟨rfl, session.access_sub⟩
  owned := by
    intro current hcurrent
    cases hcurrent
    exact session.refresh_sub
  captured := h.captured
  earlier := fun r hr => Nat.le_succ_of_le (h.earlier r hr)
  same := by
    intro r hr heq
    -- no refresh in flight has seen this login
    have hle := h.earlier r hr
    simp only [setSession] at heq
    omega

theorem clearSession_law {s : AuthStore} (h : StoreLaw s) : StoreLaw s.clearSession where
  coherent := ⟨by simp [clearSession], fun _ hs => by cases hs⟩
  owned := fun _ hs => by cases hs
  captured := h.captured
  earlier := h.earlier
  same := fun _ _ _ _ hs => by cases hs

theorem refresh_law {s : AuthStore} (h : StoreLaw s) {session : AuthSession}
    (hsession : s.session = some session) :
    StoreLaw
      { s with inFlight := s.inFlight ++ [{ session := session, logins := s.logins }] } where
  coherent := h.coherent
  owned := h.owned
  captured := by
    intro r hr
    rcases List.mem_append.mp hr with hold | hnew
    · exact h.captured r hold
    · rw [List.mem_singleton] at hnew
      rw [hnew]
      exact h.owned session hsession
  earlier := by
    intro r hr
    rcases List.mem_append.mp hr with hold | hnew
    · exact h.earlier r hold
    · rw [List.mem_singleton] at hnew
      rw [hnew]
  same := by
    intro r hr heq current hcurrent
    rcases List.mem_append.mp hr with hold | hnew
    · exact h.same r hold heq current hcurrent
    · rw [List.mem_singleton] at hnew
      rw [hnew]
      rw [show s.session = some current from hcurrent] at hsession
      cases hsession
      rfl

/-- Forgetting a refresh in flight keeps the law. -/
theorem eraseIdx_law {s : AuthStore} (h : StoreLaw s) (i : Nat) :
    StoreLaw { s with inFlight := s.inFlight.eraseIdx i } where
  coherent := h.coherent
  owned := h.owned
  captured := fun r hr => h.captured r (List.mem_of_mem_eraseIdx hr)
  earlier := fun r hr => h.earlier r (List.mem_of_mem_eraseIdx hr)
  same := fun r hr => h.same r (List.mem_of_mem_eraseIdx hr)

theorem setToken_law {s : AuthStore} (h : StoreLaw s) {token : Claims} {session : AuthSession}
    (hsession : s.session = some session) (hsub : token.sub = session.user.id) :
    StoreLaw (s.setToken token) where
  coherent := by
    refine ⟨by simp [setToken, hsession], ?_⟩
    intro current hcurrent
    simp only [setToken, hsession, Option.map_some, Option.some.injEq] at hcurrent
    cases hcurrent
    exact ⟨rfl, hsub⟩
  owned := by
    intro current hcurrent
    simp only [setToken, hsession, Option.map_some, Option.some.injEq] at hcurrent
    cases hcurrent
    exact h.owned session hsession
  captured := h.captured
  earlier := h.earlier
  same := by
    intro r hr heq current hcurrent
    simp only [setToken, hsession, Option.map_some, Option.some.injEq] at hcurrent
    cases hcurrent
    exact h.same r hr heq session hsession

end AuthStore

theorem storeLaw_preserved : authStore.Preserves Undisturbed StoreLaw := by
  intro s e s' hlaw hguard hstep
  cases e with
  | setSession session =>
      cases hstep
      exact AuthStore.setSession_law hlaw session
  | clearSession =>
      cases hstep
      exact AuthStore.clearSession_law hlaw
  | refresh =>
      simp only [authStore, AuthStore.step] at hstep
      split at hstep
      · cases hstep
        exact hlaw
      · rename_i session hsession
        cases hstep
        exact AuthStore.refresh_law hlaw hsession
  | complete i completion =>
      simp only [authStore, AuthStore.step] at hstep
      split at hstep
      · cases hstep
      · rename_i r hr
        have hmem := List.mem_of_getElem? hr
        have hundisturbed := hguard r hr
        have hrest := AuthStore.eraseIdx_law hlaw i
        cases completion with
        | ok renewal =>
            cases hstep
            rcases hundisturbed with ⟨heq, hsome⟩
            rcases Option.ne_none_iff_exists'.mp hsome with ⟨session, hsession⟩
            have huser := hlaw.same r hmem heq session hsession
            refine AuthStore.setToken_law hrest hsession ?_
            rw [huser]
            exact hlaw.captured r hmem
        | failed =>
            cases hstep
            exact AuthStore.clearSession_law hrest

theorem undisturbed_keeps {s : AuthStore} {e : StoreEvent} (h : Undisturbed s e)
    (s' : AuthStore) : KeepsLaterSession s e s' := by
  intro i completion r session he hr hlater hsession
  subst he
  have hundisturbed := h r hr
  cases completion with
  | ok renewal =>
      exact absurd hundisturbed.left (Nat.ne_of_lt hlater)
  | failed =>
      rcases hundisturbed with heq | hnone
      · exact absurd heq (Nat.ne_of_lt hlater)
      · rw [hsession] at hnone
        cases hnone

/-- In every run in which no refresh completes after another login or succeeds
after a logout, the store stays coherent, and no refresh touches a session that
was set after it started. -/
theorem auth_store_coherent {es : List StoreEvent} {s : AuthStore}
    (hmeets : authStore.Meets Undisturbed AuthStore.start es)
    (hrun : authStore.run AuthStore.start es = some s) :
    s.Coherent ∧
      forall xs e ys, es = xs ++ e :: ys ->
        forall t t', authStore.run AuthStore.start xs = some t -> authStore.step t e = some t' ->
          KeepsLaterSession t e t' := by
  refine ⟨(storeLaw_preserved.run AuthStore.start_law hmeets hrun).coherent, ?_⟩
  intro xs e ys hes t t' hpre _
  subst hes
  have hnow := (hmeets.append_right hpre).left
  exact undisturbed_keeps hnow t'

namespace SampleStore

def claims (sub type : String) (iat : Int) : Claims where
  sub := sub
  tenantId := "t"
  isAdmin := false
  type := type
  iat := iat
  exp := iat + 900

def login (id : String) (iat : Int) : LoginSession where
  user := { id := id, tenantId := "t" }
  accessToken := claims id "access" iat
  refreshToken := claims id "refresh" iat
  expiresAt := (iat + 900) * 1000
  access_sub := rfl
  refresh_sub := rfl

def renewal : Renewal where
  isAdmin := false
  iat := 1000
  exp := 1900

/-- Two refreshes of one session, the second of which fails. -/
def oneUser : List StoreEvent :=
  [StoreEvent.setSession (login "alice" 0), StoreEvent.refresh, StoreEvent.refresh,
    StoreEvent.complete 0 (Completion.ok renewal), StoreEvent.complete 0 Completion.failed,
    StoreEvent.setSession (login "bob" 2000)]

/-- Alice logs out and Bob logs in while a refresh for Alice is in flight. -/
def twoUsers : List StoreEvent :=
  [StoreEvent.setSession (login "alice" 0), StoreEvent.refresh, StoreEvent.clearSession,
    StoreEvent.setSession (login "bob" 10), StoreEvent.complete 0 (Completion.ok renewal)]

end SampleStore

theorem auth_store_coherent_oneUser :
    exists s, authStore.run AuthStore.start SampleStore.oneUser = some s ∧ s.Coherent := by
  obtain ⟨s, hrun⟩ : exists s, authStore.run AuthStore.start SampleStore.oneUser = some s :=
    ⟨_, rfl⟩
  exact ⟨s, hrun, (auth_store_coherent (by decide) hrun).left⟩

/-- Bob's session ends up with a token of Alice: the refresh that was started for
her session has altered his. -/
theorem refresh_replaces_later_token :
    exists s session, authStore.run AuthStore.start SampleStore.twoUsers = some s ∧
      s.session = some session ∧ session.user.id = "bob" ∧ session.accessToken.sub = "alice" ∧
      s.accessToken = some session.accessToken :=
  ⟨_, _, rfl, rfl, rfl, rfl, rfl⟩

end Frontend
end LeoOne
