import LeoOne.Backend.Identity

/-!
# Revocation

A handshake checks the certificate, upgrades the connection and registers the
client in three steps, and `RevokeCertificate` revokes the certificates and cuts
the connection in two.  A handshake that is between its check and its
registration when `Disconnect` runs survives the revocation, and so does a
connection when the identifier in the request is not in canonical form, since the
registry compares texts.
-/

namespace LeoOne
namespace Backend

open Foundation
open Wire
open Websocket
open RemoteDesktop

/-- The instruction belongs to a `RevokeCertificate` that has revoked the
certificates of the agent. -/
def cutsOff (u : Uuid) : Instr -> Bool
  | Instr.hub (HubCall.disconnect v _) => v = u
  | Instr.reply (Reply.revoked v) => v = u
  | _ => false

/-- The certificates of the agent have been revoked. -/
def revoking (p : State) (u : Uuid) : Bool :=
  u ∈ p.shared.log.revoked || p.anyPending (cutsOff u)

/-- No certificate is issued to an agent after its revocation. -/
def noNewEnrolment (p : State) (k : Instr) (_ : Input) : Bool :=
  match k with
  | Instr.sql (Statement.insertCertificate u _) => !revoking p u
  | _ => true

/-- When `Disconnect` runs, no handshake of the agent is past its revocation
check, and the request names the agent as the registry does if it is connected. -/
def cutsHandshakes (p : State) (k : Instr) (_ : Input) : Bool :=
  match k with
  | Instr.hub (HubCall.disconnect u a) =>
      (a = u.text || !p.shared.hub.isConnected u.text) &&
        !p.anyPending (admits u.text)
  | _ => true

structure RevocationLaw (p : State) : Prop where
  identity : IdentityLaw p
  naming : forall {u a},
    p.Pending (Instr.sql (Statement.revokeCertificates u a)) -> u.named a = true
  revoked : forall {u r}, revoking p u = true -> r ∈ p.shared.db.certificates ->
    r.agentId = u -> r.revokedAt ≠ none
  cut : forall {u}, u ∈ p.shared.log.revoked ∨
      p.Pending (Instr.reply (Reply.revoked u)) ->
    p.shared.hub.clients u.text = none ∧
      forall j, p.Pending j -> admits u.text j = false

theorem revoking_iff {p : State} {u : Uuid} :
    revoking p u = true <->
      u ∈ p.shared.log.revoked ∨ exists j, p.Pending j ∧ cutsOff u j = true := by
  unfold revoking
  rw [Bool.or_eq_true, decide_eq_true_iff]
  constructor
  · rintro (hlog | hany)
    · exact Or.inl hlog
    · exact Or.inr (Pool.pending_of_anyPending hany)
  · rintro (hlog | ⟨j, hj, hcuts⟩)
    · exact Or.inl hlog
    · right
      by_contra hnone
      rw [Bool.not_eq_true] at hnone
      rw [Pool.anyPending_eq_false.mp hnone j hj] at hcuts
      cases hcuts

theorem Effect.revokedLog {s t : Server} {x : Input} {k : Instr}
    (heffect : Effect s x k t) {u : Uuid} (h : u ∈ t.log.revoked) :
    u ∈ s.log.revoked ∨ k = Instr.reply (Reply.revoked u) := by
  cases heffect with
  | statement hok hgen =>
      rename_i st
      cases st <;> exact Or.inl h
  | revoked =>
      rename_i v
      rcases List.mem_cons.mp h with rfl | hold
      · exact Or.inr rfl
      · exact Or.inl hold
  | _ =>
      exact Or.inl h

/-- A revocation goes on, or starts with the update of the certificates. -/
theorem revoking_of_step {p p' : State} {x : Input} {k : Instr}
    {o : Outcome Server Instr} (hexec : Executes p p' x k o) {u : Uuid}
    (h : revoking p' u = true) :
    revoking p u = true ∨
      (x.fails = false ∧ exists a,
        k = Instr.sql (Statement.revokeCertificates u a)) := by
  have hrunning := hexec.running
  rcases revoking_iff.mp h with hlog | ⟨j, hj, hcuts⟩
  · left
    rcases hexec.effect.revokedLog hlog with hold | rfl
    · exact revoking_iff.mpr (Or.inl hold)
    · exact revoking_iff.mpr (Or.inr ⟨_, hrunning, decide_eq_true rfl⟩)
  · rcases hexec.pending hj with hleads | hold
    · cases hleads with
      | disconnect hok =>
          have heq := of_decide_eq_true hcuts
          subst heq
          exact Or.inr ⟨hok, _, rfl⟩
      | revoked =>
          exact Or.inl (revoking_iff.mpr (Or.inr ⟨_, hrunning, hcuts⟩))
      | read _ hhandles =>
          cases hhandles <;> cases hcuts
      | _ =>
          cases hcuts
    · exact Or.inl (revoking_iff.mpr (Or.inr ⟨j, hold, hcuts⟩))

/-- `RevokeCertificate` leaves no valid certificate of the agent. -/
theorem revoked_of_update {s t : Server} {x : Input} {u : Uuid} {a : String}
    (heffect : Effect s x (Instr.sql (Statement.revokeCertificates u a)) t)
    (hok : x.fails = false) (hnamed : u.named a = true) {r : CertificateRow}
    (hr : r ∈ t.db.certificates) (hagent : r.agentId = u) : r.revokedAt ≠ none := by
  rw [heffect.of_statement hok rfl] at hr
  rcases Table.mem_updateWhere.mp hr with ⟨old, _, ⟨_, rfl⟩ | ⟨hother, rfl⟩⟩
  · exact Option.some_ne_none x.now
  · rw [hagent, hnamed, Bool.true_and] at hother
    intro hnone
    rw [hnone] at hother
    cases hother

theorem RevocationLaw.revoked_step {p p' : State} {x : Input} {k : Instr}
    {o : Outcome Server Instr} (hinv : RevocationLaw p)
    (henrol : noNewEnrolment p k x = true) (hexec : Executes p p' x k o)
    {u : Uuid} {r : CertificateRow} (h : revoking p' u = true)
    (hr : r ∈ p'.shared.db.certificates) (hagent : r.agentId = u) :
    r.revokedAt ≠ none := by
  rcases revoking_of_step hexec h with hbefore | ⟨hok, a, rfl⟩
  · rcases hexec.effect.certificates hr with ⟨old, hold, hkept⟩ |
      ⟨st, rfl, v, t, rfl, hissued, _⟩
    · exact hkept.revoked (hinv.revoked hbefore hold (hkept.agentId.symm.trans hagent))
    · have heq : v = u := hissued.symm.trans hagent
      subst heq
      simp [noNewEnrolment, hbefore] at henrol
  · exact revoked_of_update hexec.effect hok (hinv.naming hexec.running) hr hagent

/-- No handshake passes the check any more. -/
theorem RevocationLaw.no_admission {p p' : State} {x : Input} {k j : Instr}
    {o : Outcome Server Instr} (hinv : RevocationLaw p)
    (hexec : Executes p p' x k o) {u : Uuid} (hrevoking : revoking p u = true)
    (hnone : forall j, p.Pending j -> admits u.text j = false)
    (hj : p'.Pending j) : admits u.text j = false := by
  have hrunning := hexec.running
  by_contra hadmits
  rw [Bool.not_eq_false] at hadmits
  rcases hexec.pending hj with hleads | hold
  · cases hleads with
    | upgrade hcheck =>
        have hname := hinv.identity.checking hrunning
        rcases checkNotRevoked_some hcheck with ⟨r, hr, hthumb, hvalid⟩
        rcases hinv.identity.certificates r hr with ⟨hcommon, _⟩
        have ha := of_decide_eq_true hadmits
        have htext : r.agentId.text = u.text := by
          rw [← hcommon, hthumb, ← hname, ha]
        exact hinv.revoked hrevoking hr (Uuid.ext_text htext) hvalid
    | upgraded =>
        have hbefore := hnone _ hrunning
        simp only [admits] at hbefore hadmits
        rw [hbefore] at hadmits
        cases hadmits
    | read _ hhandles =>
        cases hhandles <;> cases hadmits
    | _ =>
        cases hadmits
  · rw [hnone j hold] at hadmits
    cases hadmits

/-- `Disconnect` leaves the agent unregistered. -/
theorem gone_of_disconnect {s t : Server} {x : Input} {u : Uuid} {a : String}
    (heffect : Effect s x (Instr.hub (HubCall.disconnect u a)) t)
    (h : a = u.text ∨ s.hub.clients u.text = none) :
    t.hub.clients u.text = none := by
  cases heffect with
  | quiet hquiet =>
      cases hquiet
  | disconnect hcur =>
      rename_i c
      show (s.hub.evict a c).clients u.text = none
      rw [Hub.evict_clients]
      rcases h with rfl | hnone
      · exact Function.update_self ..
      · by_cases hab : u.text = a
        · rw [hab]
          exact Function.update_self ..
        · rw [Function.update_of_ne hab]
          exact hnone
  | notConnected hnone =>
      rcases h with rfl | hgone
      · exact hnone
      · exact hgone

theorem RevocationLaw.cut_step {p p' : State} {x : Input} {k : Instr}
    {o : Outcome Server Instr} (hinv : RevocationLaw p)
    (hguard : cutsHandshakes p k x = true) (hexec : Executes p p' x k o) {u : Uuid}
    (h : u ∈ p'.shared.log.revoked ∨ p'.Pending (Instr.reply (Reply.revoked u))) :
    p'.shared.hub.clients u.text = none ∧
      forall j, p'.Pending j -> admits u.text j = false := by
  have hrunning := hexec.running
  -- a revocation that was answered, or going to be, leaves the agent cut off
  have hstays : u ∈ p.shared.log.revoked ∨
      p.Pending (Instr.reply (Reply.revoked u)) ->
      p'.shared.hub.clients u.text = none ∧
        forall j, p'.Pending j -> admits u.text j = false := by
    intro hbefore
    rcases hinv.cut hbefore with ⟨hgone, hnone⟩
    have hrevoking : revoking p u = true := by
      apply revoking_iff.mpr
      rcases hbefore with hlog | hreply
      · exact Or.inl hlog
      · exact Or.inr ⟨_, hreply, decide_eq_true rfl⟩
    refine ⟨?_, fun j hj => hinv.no_admission hexec hrevoking hnone hj⟩
    by_contra hcur
    rcases Option.ne_none_iff_exists'.mp hcur with ⟨c, hc⟩
    rcases hexec.effect.current hc with hold | ⟨_, t, rfl⟩
    · rw [hgone] at hold
      cases hold
    · have hadmits := hnone _ hrunning
      simp [admits] at hadmits
  rcases h with hlog | hreply
  · rcases hexec.effect.revokedLog hlog with hold | rfl
    · exact hstays (Or.inl hold)
    · exact hstays (Or.inr hrunning)
  · rcases hexec.pending hreply with hleads | hold
    · generalize hrevoked : Instr.reply (Reply.revoked u) = j at hleads
      cases hleads with
      | revoked =>
          rename_i v a
          cases hrevoked
          simp only [cutsHandshakes, Bool.and_eq_true, Bool.or_eq_true,
            Bool.not_eq_true', decide_eq_true_eq] at hguard
          have hfree := Pool.anyPending_eq_false.mp hguard.right
          refine ⟨gone_of_disconnect hexec.effect ?_, ?_⟩
          · rcases hguard.left with hcanonical | hnone
            · exact Or.inl hcanonical
            · exact Or.inr
                (Option.isNone_iff_eq_none.mp (Option.isSome_eq_false_iff.mp hnone))
          · intro j hj
            rcases hexec.pending hj with hleads' | hold'
            · cases hleads' <;> rfl
            · exact hfree j hold'
      | read _ hhandles =>
          subst hrevoked
          cases hhandles
      | _ =>
          cases hrevoked
    · exact hstays (Or.inr hold)

theorem RevocationLaw.start {p p' : State} {r : Request} (hinv : RevocationLaw p)
    (hstarts : Starts p p' r) : RevocationLaw p' := by
  refine ⟨hinv.identity.start hstarts, ?_, ?_, ?_⟩
  · intro u a hj
    rcases hstarts.pending hj with henters | hold
    · cases henters
    · exact hinv.naming hold
  · intro u row hrevoking hrow
    rw [hstarts.shared] at hrow
    apply hinv.revoked _ hrow
    apply revoking_iff.mpr
    rcases revoking_iff.mp hrevoking with hlog | ⟨j, hj, hcuts⟩
    · rw [hstarts.shared] at hlog
      exact Or.inl hlog
    · rcases hstarts.pending hj with henters | hold
      · cases henters <;> cases hcuts
      · exact Or.inr ⟨j, hold, hcuts⟩
  · intro u hu
    rw [hstarts.shared] at hu ⊢
    have hbefore : u ∈ p.shared.log.revoked ∨
        p.Pending (Instr.reply (Reply.revoked u)) := by
      rcases hu with hlog | hreply
      · exact Or.inl hlog
      · rcases hstarts.pending hreply with henters | hold
        · cases henters
        · exact Or.inr hold
    rcases hinv.cut hbefore with ⟨hgone, hnone⟩
    refine ⟨hgone, ?_⟩
    intro j hj
    rcases hstarts.pending hj with henters | hold
    · cases henters <;> rfl
    · exact hnone j hold

theorem RevocationLaw.step {p p' : State} {x : Input} {k : Instr}
    {o : Outcome Server Instr} (hs : p.shared.HubSound) (hinv : RevocationLaw p)
    (henrol : noNewEnrolment p k x = true)
    (hguard : cutsHandshakes p k x = true) (hexec : Executes p p' x k o) :
    RevocationLaw p' := by
  refine ⟨hinv.identity.step hs hexec, ?_,
    fun h hr hagent => hinv.revoked_step henrol hexec h hr hagent,
    fun h => hinv.cut_step hguard hexec h⟩
  intro u a hj
  rcases hexec.pending hj with hleads | hold
  · generalize hrevoke : Instr.sql (Statement.revokeCertificates u a) = j at hleads
    cases hleads with
    | revoke hfind =>
        cases hrevoke
        have hselected := List.find?_some hfind
        exact (Bool.and_eq_true_iff.mp hselected).left
    | read _ hhandles =>
        subst hrevoke
        cases hhandles
    | _ =>
        cases hrevoke
  · exact hinv.naming hold

theorem revocation_preserved :
    server.Preserves
      (fun p e => Pool.guarded
        (fun p k x => noNewEnrolment p k x && cutsHandshakes p k x) p e = true)
      (fun p => p.shared.HubSound ∧ RevocationLaw p) := by
  apply server_preserves
  · intro p p' r hinv hstarts
    exact hinv.start hstarts
  · intro p p' x k o hs hinv hguard hexec
    rcases Bool.and_eq_true_iff.mp hguard with ⟨henrol, hcuts⟩
    exact hinv.step hs henrol hcuts hexec

theorem revocationLaw_boot {wsEndpoint : String} {sessionTTL : Nat}
    {db : Database} {issued : List Uuid} (hcerts : CertificatesSound db issued) :
    RevocationLaw (boot wsEndpoint sessionTTL db issued) := by
  refine ⟨identityLaw_boot hcerts, fun hj => absurd hj boot_pending, ?_, ?_⟩
  · intro u r hrevoking
    rcases revoking_iff.mp hrevoking with hlog | ⟨j, hj, _⟩
    · cases hlog
    · exact absurd hj boot_pending
  · rintro u (hlog | hreply)
    · cases hlog
    · exact absurd hreply boot_pending

/-- In every run without new enrolments in which `Disconnect` runs while no
handshake of the agent is past its check and under the name that the agent has
in the registry, an agent for which `RevokeCertificate` has answered with success
is in no later state in the registry, under any name. -/
theorem revoked_agents_are_cut (wsEndpoint : String) (sessionTTL : Nat)
    (db : Database) (issued : List Uuid) (hcerts : CertificatesSound db issued)
    {es : List Event} {q : State}
    (hrun : server.run (boot wsEndpoint sessionTTL db issued) es = some q)
    (henrol : server.Meets (fun p e => Pool.guarded noNewEnrolment p e = true)
      (boot wsEndpoint sessionTTL db issued) es)
    (hmeets : server.Meets (fun p e => Pool.guarded cutsHandshakes p e = true)
      (boot wsEndpoint sessionTTL db issued) es) :
    forall u a, u ∈ q.shared.log.revoked -> u.named a = true ->
      q.shared.hub.clients a = none := by
  rcases revocation_preserved.run ⟨boot_hubSound _ _ _ _, revocationLaw_boot hcerts⟩
    (Pool.meets_guarded_both henrol hmeets) hrun with ⟨hs, hinv⟩
  intro u a hu hnamed
  by_contra hcur
  rcases Option.ne_none_iff_exists'.mp hcur with ⟨c, hc⟩
  have htext := ((hinv.identity.registered hs hc).eq_text hnamed).left
  rw [htext, (hinv.cut (Or.inl hu)).left] at hc
  cases hc

namespace Sample

/-- Goroutine `i` revokes the certificate of the agent, up to `Disconnect`. -/
def revoke (i : Nat) : List Event :=
  [PoolEvent.start (Request.revokeCertificate agent.text tenant.text),
    go i, go i, go i]

/-- A connected agent is revoked and tries to connect again. -/
def revokedWhileConnected : List Event :=
  connect 0 ++ revoke 2 ++ [go 2, go 2, go 2] ++
    [PoolEvent.start (Request.connect cert), go 3]

/-- The agent is revoked between the check of its certificate and its
registration. -/
def revokedDuringHandshake : List Event :=
  [PoolEvent.start (Request.connect cert), go 0] ++ revoke 1 ++ [go 1, go 0, go 0]

end Sample

theorem revoked_agents_are_cut_connected :
    exists q, server.run Sample.start Sample.revokedWhileConnected = some q ∧
      Sample.agent ∈ q.shared.log.revoked ∧
      q.shared.hub.clients Sample.agent.text = none := by
  obtain ⟨q, hrun, hrevoked⟩ : exists q,
      server.run Sample.start Sample.revokedWhileConnected = some q ∧
        Sample.agent ∈ q.shared.log.revoked :=
    ⟨_, rfl, by decide⟩
  refine ⟨q, hrun, hrevoked, ?_⟩
  exact revoked_agents_are_cut _ _ _ _ sample_certificates hrun (by decide) (by decide) _ _
    hrevoked (Uuid.named_text.mpr rfl)

/-- `RevokeCertificate` has answered with success, and the agent is connected. -/
theorem revoked_and_connected :
    exists q, server.run Sample.start Sample.revokedDuringHandshake = some q ∧
      server.Meets (fun p e => Pool.guarded noNewEnrolment p e = true) Sample.start
        Sample.revokedDuringHandshake ∧
      Sample.agent ∈ q.shared.log.revoked ∧
      q.shared.hub.clients Sample.agent.text ≠ none := by
  refine ⟨_, rfl, by decide, by decide, ?_⟩
  exact Option.some_ne_none 0

end Backend
end LeoOne
