import LeoOne.Backend.AgentTable
import LeoOne.Backend.Connections

/-!
# Identities

Certificates are issued by `Enroll` alone, to the agent it has just created and
under the canonical text of its identifier.  The registry is keyed by the common
names of accepted certificates, so its keys are such texts.
-/

namespace LeoOne
namespace Backend

open Foundation
open Wire
open Websocket
open RemoteDesktop

/-- The text is the canonical form of an identifier that has been generated. -/
def IsIssued (issued : List Uuid) (a : String) : Prop :=
  exists u, u ∈ issued ∧ a = u.text

/-- The certificates on record are those that `Enroll` issues. -/
def CertificatesSound (db : Database) (issued : List Uuid) : Prop :=
  forall r, r ∈ db.certificates ->
    r.thumbprint.commonName = r.agentId.text ∧ r.agentId ∈ issued

/-- A handshake that has passed the revocation check for that agent. -/
def admits (a : String) : Instr -> Bool
  | Instr.conn (ConnCall.upgrade b _) => b = a
  | Instr.hub (HubCall.register b _) => b = a
  | _ => false

structure IdentityLaw (p : State) : Prop where
  clientsKnown : ClientsKnown p
  certificates : CertificatesSound p.shared.db p.shared.log.issued
  certifying : forall {u t},
    p.Pending (Instr.sql (Statement.insertCertificate u t)) ->
    u ∈ p.shared.log.issued
  checking : forall {cert a t},
    p.Pending (Instr.sql (Statement.checkNotRevoked cert a t)) ->
    a = cert.commonName
  admitting : forall {j a}, p.Pending j -> admits a j = true ->
    IsIssued p.shared.log.issued a
  clients : forall {c}, c < p.shared.nextClient ->
    IsIssued p.shared.log.issued (p.shared.hub.heap c).agentId

theorem IsIssued.step {s t : Server} {x : Input} {k : Instr} {a : String}
    (h : IsIssued s.log.issued a) (heffect : Effect s x k t) :
    IsIssued t.log.issued a := by
  rcases h with ⟨u, hu, ha⟩
  exact ⟨u, heffect.issued_mono hu, ha⟩

/-- Two canonical texts that denote one agent are one text. -/
theorem IsIssued.eq_text {issued : List Uuid} {a : String}
    (h : IsIssued issued a) {u : Uuid} (hu : u.named a = true) :
    a = u.text ∧ u ∈ issued := by
  rcases h with ⟨v, hv, rfl⟩
  have heq := Uuid.named_text.mp hu
  subst heq
  exact ⟨rfl, hv⟩

theorem IdentityLaw.start {p p' : State} {r : Request} (hinv : IdentityLaw p)
    (hstarts : Starts p p' r) : IdentityLaw p' := by
  refine ⟨hinv.clientsKnown.start hstarts, ?_, ?_, ?_, ?_, ?_⟩
  · rw [hstarts.shared]
    exact hinv.certificates
  · intro u t hj
    rw [hstarts.shared]
    rcases hstarts.pending hj with henters | hold
    · cases henters
    · exact hinv.certifying hold
  · intro cert a t hj
    rcases hstarts.pending hj with henters | hold
    · cases henters
      rfl
    · exact hinv.checking hold
  · intro j a hj hadmits
    rw [hstarts.shared]
    rcases hstarts.pending hj with henters | hold
    · cases henters <;> cases hadmits
    · exact hinv.admitting hold hadmits
  · rw [hstarts.shared]
    exact hinv.clients

theorem IdentityLaw.certificates_step {p p' : State} {x : Input} {k : Instr}
    {o : Outcome Server Instr} (hinv : IdentityLaw p)
    (hexec : Executes p p' x k o) :
    CertificatesSound p'.shared.db p'.shared.log.issued := by
  have heffect := hexec.effect
  intro r hr
  rcases heffect.certificates hr with ⟨old, hold, hkept⟩ |
    ⟨st, rfl, u, t, rfl, hagent, hthumb, _⟩
  · rcases hinv.certificates old hold with ⟨hname, hissued⟩
    rw [hkept.agentId, hkept.thumbprint]
    exact ⟨hname, heffect.issued_mono hissued⟩
  · rw [hagent, hthumb]
    exact ⟨rfl, heffect.issued_mono (hinv.certifying hexec.running)⟩

theorem IdentityLaw.certifying_step {p p' : State} {x : Input} {k : Instr}
    {o : Outcome Server Instr} (hinv : IdentityLaw p)
    (hexec : Executes p p' x k o) {u t : Uuid}
    (hj : p'.Pending (Instr.sql (Statement.insertCertificate u t))) :
    u ∈ p'.shared.log.issued := by
  have heffect := hexec.effect
  rcases hexec.pending hj with hleads | hold
  · generalize hcert : Instr.sql (Statement.insertCertificate u t) = j at hleads
    cases hleads with
    | certify hok hid =>
        cases hcert
        rw [(heffect.of_insertion hok rfl hid).right]
        exact List.mem_cons_self
    | read _ hhandles =>
        subst hcert
        cases hhandles
    | _ =>
        cases hcert
  · exact heffect.issued_mono (hinv.certifying hold)

/-- A handshake passes the check with a certificate on record. -/
theorem IdentityLaw.admitting_step {p p' : State} {x : Input} {k j : Instr}
    {o : Outcome Server Instr} (hinv : IdentityLaw p)
    (hexec : Executes p p' x k o) {a : String} (hj : p'.Pending j)
    (hadmits : admits a j = true) : IsIssued p'.shared.log.issued a := by
  have heffect := hexec.effect
  have hrunning := hexec.running
  rcases hexec.pending hj with hleads | hold
  · cases hleads with
    | upgrade hcheck =>
        have hname := hinv.checking hrunning
        rcases checkNotRevoked_some hcheck with ⟨r, hr, hthumb, _⟩
        rcases hinv.certificates r hr with ⟨hcommon, hissued⟩
        have ha := of_decide_eq_true hadmits
        rw [← hthumb] at hname
        exact ⟨r.agentId, heffect.issued_mono hissued,
          ha.symm.trans (hname.trans hcommon)⟩
    | upgraded =>
        exact (hinv.admitting hrunning hadmits).step heffect
    | read _ hhandles =>
        cases hhandles <;> cases hadmits
    | _ =>
        cases hadmits
  · exact (hinv.admitting hold hadmits).step heffect

theorem IdentityLaw.clients_step {p p' : State} {x : Input} {k : Instr}
    {o : Outcome Server Instr} (hinv : IdentityLaw p)
    (hexec : Executes p p' x k o) {c : ClientId}
    (hc : c < p'.shared.nextClient) :
    IsIssued p'.shared.log.issued (p'.shared.hub.heap c).agentId := by
  have heffect := hexec.effect
  rcases heffect.newClient hc with hold | ⟨_, a, t, rfl, hagent⟩
  · rw [(heffect.identity hold).left]
    exact (hinv.clients hold).step heffect
  · rw [hagent]
    exact (hinv.admitting hexec.running (decide_eq_true rfl)).step heffect

theorem IdentityLaw.step {p p' : State} {x : Input} {k : Instr}
    {o : Outcome Server Instr} (hs : p.shared.HubSound) (hinv : IdentityLaw p)
    (hexec : Executes p p' x k o) : IdentityLaw p' := by
  refine ⟨hinv.clientsKnown.step hs hexec, hinv.certificates_step hexec,
    fun hj => hinv.certifying_step hexec hj, ?_,
    fun hj hadmits => hinv.admitting_step hexec hj hadmits,
    fun hc => hinv.clients_step hexec hc⟩
  intro cert a t hj
  rcases hexec.pending hj with hleads | hold
  · generalize hcheck : Instr.sql (Statement.checkNotRevoked cert a t) = j at hleads
    cases hleads with
    | read _ hhandles =>
        subst hcheck
        cases hhandles
    | _ =>
        cases hcheck
  · exact hinv.checking hold

theorem identityLaw_boot {wsEndpoint : String} {sessionTTL : Nat} {db : Database}
    {issued : List Uuid} (hcerts : CertificatesSound db issued) :
    IdentityLaw (boot wsEndpoint sessionTTL db issued) :=
  ⟨clientsKnown_boot _ _ _ _, hcerts, fun hj => absurd hj boot_pending,
    fun hj => absurd hj boot_pending, fun hj _ => absurd hj boot_pending,
    fun hc => absurd hc (Nat.not_lt_zero _)⟩

/-- The keys of the registry are canonical texts. -/
theorem IdentityLaw.registered {p : State} (hs : p.shared.HubSound)
    (hinv : IdentityLaw p) {a : String} {c : ClientId}
    (hcur : p.shared.hub.clients a = some c) :
    IsIssued p.shared.log.issued a := by
  have hknown := hinv.clients (hs.known hcur)
  rw [hs.agent hcur] at hknown
  exact hknown

/-- So are the agents that goroutines work for. -/
theorem IdentityLaw.working {p : State} (hinv : IdentityLaw p) {j : Instr}
    {c : ClientId} {a : String} (hj : p.Pending j) (hc : client? j = some c)
    (ha : agent? j = some a) : IsIssued p.shared.log.issued a := by
  have hknown := hinv.clients (hinv.clientsKnown.known hj hc)
  rw [hinv.clientsKnown.agent hj hc ha] at hknown
  exact hknown

theorem sample_certificates :
    CertificatesSound Sample.database [Sample.tenant, Sample.agent] := by
  intro r hr
  rw [List.mem_singleton.mp hr]
  exact ⟨rfl, by decide⟩

end Backend
end LeoOne
