import Mathlib.Data.List.Basic
import LeoOne.Foundation.Machine

/-!
# The certificate of the agents' listener

`EnsureServerCert` loads the certificate from disk at every start and replaces it
when the pair cannot be loaded or has expired.  An agent stores the fingerprint of
the certificate that the server presents when it is enrolled, and from then on
accepts no other one, while its own certificate lives much longer.

Times are nanoseconds.  A certificate stands for its fingerprint.  The CA signs
both kinds of certificates and plays no part in the comparison of fingerprints, so
it is left out.
-/

namespace LeoOne
namespace Pki

open Foundation

/-- `serverValidity`, two years. -/
def serverValidity : Int := 2 * 365 * 24 * 3600 * 1000000000

/-- `agentValidity`, five years. -/
def agentValidity : Int := 5 * 365 * 24 * 3600 * 1000000000

/-- A time in a certificate has no fraction of a second. -/
def toSecond (t : Int) : Int :=
  t / 1000000000 * 1000000000

/-- A server certificate; the key is the public one, which no two generated pairs share. -/
structure ServerCert where
  key : Nat
  notAfter : Int
  deriving DecidableEq

/-- The files of the listener.  A file that holds no PEM block is like no file. -/
structure CertDir where
  cert : Option ServerCert
  key : Option Nat
  deriving DecidableEq

/-- How `writeDERPEM` ends: it fails before or after the file has been truncated. -/
inductive Write where
  | done
  | refused
  | truncated
  deriving DecidableEq

/-- What a start meets. -/
structure StartInput where
  readFails : Bool
  certWrite : Write
  keyWrite : Write

namespace CertDir

/-- `tls.LoadX509KeyPair`: both files, with a key that belongs to the certificate. -/
def loadX509KeyPair (d : CertDir) (x : StartInput) : Option ServerCert :=
  if x.readFails then none
  else
    match d.cert, d.key with
    | some cert, some key => if cert.key = key then some cert else none
    | _, _ => none

/-- The part of `EnsureServerCert` after the pair has not been kept: the
certificate is written before its key.  `none` is an error, which ends the process. -/
def generate (d : CertDir) (x : StartInput) (now : Int) (key : Nat) :
    CertDir × Option ServerCert :=
  let cert : ServerCert := { key := key, notAfter := toSecond (now + serverValidity) }
  match x.certWrite with
  | Write.refused => (d, none)
  | Write.truncated => ({ d with cert := none }, none)
  | Write.done =>
      match x.keyWrite with
      | Write.refused => ({ d with cert := some cert }, none)
      | Write.truncated => ({ cert := some cert, key := none }, none)
      | Write.done => ({ cert := some cert, key := some key }, some cert)

/-- The pair on disk can be loaded and has not expired. -/
def kept (d : CertDir) (x : StartInput) (now : Int) : Option ServerCert :=
  (d.loadX509KeyPair x).filter fun leaf => now < leaf.notAfter

/-- `EnsureServerCert`, with the key that it generates if it has to. -/
def ensureServerCert (d : CertDir) (x : StartInput) (now : Int) (key : Nat) :
    CertDir × Option ServerCert :=
  match d.kept x now with
  | some leaf => (d, some leaf)
  | none => d.generate x now key

end CertDir

/-- An enrolled agent: the end of its certificate, whether that has been revoked,
and `ca_fingerprint`. -/
structure EnrolledAgent where
  notAfter : Int
  revoked : Bool
  caFingerprint : ServerCert
  deriving DecidableEq

/-- The clock, the files, the certificate of the running listener, the enrolled
agents and the number of keys generated so far. -/
structure PkiState where
  now : Int
  dir : CertDir
  leaf : Option ServerCert
  agents : List EnrolledAgent
  keys : Nat
  deriving DecidableEq

inductive PkiEvent where
  | advance (d : Nat)
  | start (x : StartInput)
  | stop
  | enroll
  | revoke (i : Nat)

namespace PkiState

def step (s : PkiState) : PkiEvent -> Option PkiState
  | PkiEvent.advance d => some { s with now := s.now + d }
  | PkiEvent.start x =>
      match s.leaf with
      | some _ => none
      | none =>
          let r := s.dir.ensureServerCert x s.now s.keys
          some { s with dir := r.1, leaf := r.2, keys := s.keys + 1 }
  | PkiEvent.stop => some { s with leaf := none }
  | PkiEvent.enroll =>
      -- the handler answers with the fingerprint of the certificate loaded at the start
      match s.leaf with
      | none => none
      | some leaf =>
          some
            { s with
              agents := s.agents ++
                [{ notAfter := toSecond (s.now + agentValidity)
                   revoked := false
                   caFingerprint := leaf }] }
  | PkiEvent.revoke i =>
      some { s with agents := s.agents.modify i fun a => { a with revoked := true } }

/-- An empty directory. -/
def boot (now : Int) : PkiState where
  now := now
  dir := { cert := none, key := none }
  leaf := none
  agents := []
  keys := 0

end PkiState

def pkiMachine : Machine PkiState PkiEvent where
  step := PkiState.step

/-- The agent's certificate is within its validity and not revoked. -/
def EnrolledAgent.live (a : EnrolledAgent) (now : Int) : Bool :=
  now ≤ a.notAfter && !a.revoked

/-- Every live agent recognises the certificate that the listener presents. -/
def PkiState.PinsHold (s : PkiState) : Prop :=
  forall leaf, s.leaf = some leaf -> forall a, a ∈ s.agents -> a.live s.now = true ->
    leaf = a.caFingerprint

/-- A start that can write its files finds a pair on disk that it can load and
that has not expired, or there is no live agent. -/
def Unexpired (s : PkiState) : PkiEvent -> Prop
  | PkiEvent.start x =>
      x.certWrite = Write.done -> x.keyWrite = Write.done ->
        s.dir.kept x s.now ≠ none ∨ s.agents.all (fun a => !a.live s.now) = true
  | _ => True

instance (s : PkiState) (e : PkiEvent) : Decidable (Unexpired s e) :=
  match e with
  | PkiEvent.advance _ => isTrue trivial
  | PkiEvent.start x =>
      inferInstanceAs (Decidable (x.certWrite = Write.done -> x.keyWrite = Write.done ->
        s.dir.kept x s.now ≠ none ∨ s.agents.all (fun a => !a.live s.now) = true))
  | PkiEvent.stop => isTrue trivial
  | PkiEvent.enroll => isTrue trivial
  | PkiEvent.revoke _ => isTrue trivial

/-!
## What a start does
-/

namespace CertDir

/-- The files hold this certificate and its key. -/
def Holds (d : CertDir) (leaf : ServerCert) : Prop :=
  d.cert = some leaf ∧ d.key = some leaf.key

theorem holds_of_kept {d : CertDir} {x : StartInput} {now : Int} {leaf : ServerCert}
    (h : d.kept x now = some leaf) : d.Holds leaf := by
  have hload := (Option.filter_eq_some_iff.mp h).left
  unfold loadX509KeyPair at hload
  split at hload
  · cases hload
  · split at hload
    · rename_i cert key hcert hkey
      split at hload
      · rename_i heq
        cases hload
        exact ⟨hcert, by rw [hkey, heq]⟩
      · cases hload
    · cases hload

/-- No file refers to a key that has not been generated yet. -/
def Below (d : CertDir) (keys : Nat) : Prop :=
  (forall cert, d.cert = some cert -> cert.key < keys) ∧
    (forall key, d.key = some key -> key < keys)

/-- What `EnsureServerCert` leaves: the pair that was there, a directory without a
usable pair, or a new pair. -/
inductive Ensured (d : CertDir) (x : StartInput) (now : Int) (key : Nat)
    (d' : CertDir) (leaf : Option ServerCert) : Prop where
  | loaded {cert : ServerCert} (hkept : d.kept x now = some cert) (hdir : d' = d)
      (hleaf : leaf = some cert)
  | failed (hleaf : leaf = none) (hholds : forall cert, d'.Holds cert -> d' = d)
      (hbelow : d'.Below (key + 1))
  | renewed {cert : ServerCert} (hkept : d.kept x now = none) (hcert : x.certWrite = Write.done)
      (hkey : x.keyWrite = Write.done) (hnew : cert.key = key) (hleaf : leaf = some cert)
      (hholds : d'.Holds cert)

theorem generate_ensured {d : CertDir} {x : StartInput} {now : Int} {key : Nat}
    (hbelow : d.Below key) (hkept : d.kept x now = none) :
    Ensured d x now key (d.generate x now key).1 (d.generate x now key).2 := by
  have hlater : d.Below (key + 1) :=
    ⟨fun cert hcert => Nat.lt_succ_of_lt (hbelow.left cert hcert),
      fun k hk => Nat.lt_succ_of_lt (hbelow.right k hk)⟩
  unfold generate
  cases hcert : x.certWrite with
  | refused =>
      exact Ensured.failed rfl (fun _ _ => rfl) hlater
  | truncated =>
      refine Ensured.failed rfl (fun cert hholds => ?_) ⟨fun cert h => ?_, hlater.right⟩
      · cases hholds.left
      · cases h
  | done =>
      cases hkey : x.keyWrite with
      | refused =>
          refine Ensured.failed rfl (fun cert hholds => ?_) ⟨fun cert h => ?_, hlater.right⟩
          · -- the old key cannot belong to the new certificate
            have hcert' := Option.some.inj hholds.left
            have hold := hbelow.right cert.key hholds.right
            rw [← hcert'] at hold
            exact absurd hold (Nat.lt_irrefl key)
          · cases h
            exact Nat.lt_succ_self key
      | truncated =>
          refine Ensured.failed rfl (fun cert hholds => ?_) ⟨fun cert h => ?_, fun k hk => ?_⟩
          · cases hholds.right
          · cases h
            exact Nat.lt_succ_self key
          · cases hk
      | done =>
          exact Ensured.renewed hkept hcert hkey rfl rfl ⟨rfl, rfl⟩

theorem ensureServerCert_ensured {d : CertDir} {now : Int} {key : Nat} (hbelow : d.Below key)
    (x : StartInput) :
    Ensured d x now key (d.ensureServerCert x now key).1 (d.ensureServerCert x now key).2 := by
  unfold ensureServerCert
  cases hkept : d.kept x now with
  | some leaf =>
      exact Ensured.loaded hkept rfl rfl
  | none =>
      exact generate_ensured hbelow hkept

end CertDir

/-!
## The invariants
-/

/-- Every key in sight has been generated. -/
structure KeyLaw (s : PkiState) : Prop where
  dir : s.dir.Below s.keys
  agents : forall a, a ∈ s.agents -> a.caFingerprint.key < s.keys
  leaf : forall leaf, s.leaf = some leaf -> leaf.key < s.keys

theorem keyLaw_start {s : PkiState} (hlaw : KeyLaw s) {x : StartInput} {d' : CertDir}
    {leaf : Option ServerCert} (h : s.dir.Ensured x s.now s.keys d' leaf) :
    KeyLaw { s with dir := d', leaf := leaf, keys := s.keys + 1 } := by
  have hagents : forall a, a ∈ s.agents -> a.caFingerprint.key < s.keys + 1 :=
    fun a ha => Nat.lt_succ_of_lt (hlaw.agents a ha)
  cases h with
  | loaded hkept hdir hleaf =>
      subst hdir hleaf
      have hholds := CertDir.holds_of_kept hkept
      refine ⟨⟨fun cert hcert => ?_, fun k hk => ?_⟩, hagents, fun l hl => ?_⟩
      · exact Nat.lt_succ_of_lt (hlaw.dir.left cert hcert)
      · exact Nat.lt_succ_of_lt (hlaw.dir.right k hk)
      · cases hl
        exact Nat.lt_succ_of_lt (hlaw.dir.left _ hholds.left)
  | failed hleaf hholds hbelow =>
      subst hleaf
      exact ⟨hbelow, hagents, fun l hl => by cases hl⟩
  | renewed hkept hcert hkey hnew hleaf hholds =>
      subst hleaf
      refine ⟨⟨fun cert hc => ?_, fun k hk => ?_⟩, hagents, fun l hl => ?_⟩
      · rw [hholds.left] at hc
        cases hc
        exact Nat.lt_succ_of_le (Nat.le_of_eq hnew)
      · rw [hholds.right] at hk
        cases hk
        exact Nat.lt_succ_of_le (Nat.le_of_eq hnew)
      · cases hl
        exact Nat.lt_succ_of_le (Nat.le_of_eq hnew)

/-- A revocation leaves each agent's pin, and makes none live. -/
theorem mem_revoke {agents : List EnrolledAgent} {i : Nat} {a : EnrolledAgent}
    (h : a ∈ agents.modify i fun a => { a with revoked := true }) :
    exists old, old ∈ agents ∧ a.caFingerprint = old.caFingerprint ∧
      forall now, a.live now = true -> old.live now = true := by
  rcases List.mem_iff_getElem?.mp h with ⟨n, hn⟩
  rw [List.getElem?_modify] at hn
  rcases Option.map_eq_some_iff.mp hn with ⟨old, hold, heq⟩
  refine ⟨old, List.mem_of_getElem? hold, ?_, ?_⟩
  · rw [← heq]
    split <;> rfl
  · intro now hlive
    rw [← heq] at hlive
    split at hlive
    · simp [EnrolledAgent.live] at hlive
    · exact hlive

theorem keyLaw_preserved : pkiMachine.Preserves (fun _ _ => True) KeyLaw := by
  intro s e s' hlaw _ hstep
  cases e with
  | advance d =>
      cases hstep
      exact ⟨hlaw.dir, hlaw.agents, hlaw.leaf⟩
  | start x =>
      simp only [pkiMachine, PkiState.step] at hstep
      split at hstep
      · cases hstep
      · cases hstep
        exact keyLaw_start hlaw (CertDir.ensureServerCert_ensured hlaw.dir x)
  | stop =>
      cases hstep
      exact ⟨hlaw.dir, hlaw.agents, fun l hl => by cases hl⟩
  | enroll =>
      simp only [pkiMachine, PkiState.step] at hstep
      split at hstep
      · cases hstep
      · rename_i leaf hleaf
        cases hstep
        refine ⟨hlaw.dir, fun a ha => ?_, hlaw.leaf⟩
        rcases List.mem_append.mp ha with hold | hnew
        · exact hlaw.agents a hold
        · rw [List.mem_singleton] at hnew
          rw [hnew]
          exact hlaw.leaf leaf hleaf
  | revoke i =>
      cases hstep
      refine ⟨hlaw.dir, fun a ha => ?_, hlaw.leaf⟩
      rcases mem_revoke ha with ⟨old, hold, hpin, _⟩
      rw [hpin]
      exact hlaw.agents old hold

theorem keyLaw_boot (now : Int) : KeyLaw (PkiState.boot now) where
  dir := ⟨fun _ h => (by cases h), fun _ h => (by cases h)⟩
  agents := fun _ h => absurd h List.not_mem_nil
  leaf := fun _ h => by cases h

/-- A usable pair on disk is the one that every live agent has pinned, and it is
the one that a running listener presents. -/
structure PinLaw (s : PkiState) : Prop where
  keys : KeyLaw s
  presented : forall leaf, s.leaf = some leaf -> s.dir.Holds leaf
  pinned : forall cert, s.dir.Holds cert -> forall a, a ∈ s.agents -> a.live s.now = true ->
    cert = a.caFingerprint

theorem PinLaw.pinsHold {s : PkiState} (h : PinLaw s) : s.PinsHold :=
  fun leaf hleaf => h.pinned leaf (h.presented leaf hleaf)

theorem live_earlier {a : EnrolledAgent} {now : Int} {d : Nat}
    (h : a.live (now + d) = true) : a.live now = true := by
  simp only [EnrolledAgent.live, Bool.and_eq_true, decide_eq_true_eq] at h ⊢
  exact ⟨by omega, h.right⟩

theorem pinLaw_start {s : PkiState} (hlaw : PinLaw s) {x : StartInput} {d' : CertDir}
    {leaf : Option ServerCert} (h : s.dir.Ensured x s.now s.keys d' leaf)
    (hguard : Unexpired s (PkiEvent.start x)) :
    PinLaw { s with dir := d', leaf := leaf, keys := s.keys + 1 } := by
  have hkeys := keyLaw_start hlaw.keys h
  cases h with
  | loaded hkept hdir hleaf =>
      subst hdir hleaf
      refine ⟨hkeys, fun l hl => ?_, hlaw.pinned⟩
      cases hl
      exact CertDir.holds_of_kept hkept
  | failed hleaf hholds hbelow =>
      subst hleaf
      refine ⟨hkeys, fun l hl => (by cases hl), fun cert hcert => ?_⟩
      have hsame := hholds cert hcert
      rw [hsame] at hcert
      exact hlaw.pinned cert hcert
  | renewed hkept hcert hkey hnew hleaf hholds =>
      subst hleaf
      refine ⟨hkeys, fun l hl => by cases hl; exact hholds, fun cert _ a ha hlive => ?_⟩
      -- the pair is replaced only when nobody has pinned it any more
      rcases hguard hcert hkey with hsome | hnone
      · exact absurd hkept hsome
      · have hdead := List.all_eq_true.mp hnone a ha
        rw [hlive] at hdead
        cases hdead

theorem pinLaw_preserved : pkiMachine.Preserves Unexpired PinLaw := by
  intro s e s' hlaw hguard hstep
  have hkeys := keyLaw_preserved s e s' hlaw.keys trivial hstep
  cases e with
  | advance d =>
      cases hstep
      exact ⟨hkeys, hlaw.presented,
        fun cert hcert a ha hlive => hlaw.pinned cert hcert a ha (live_earlier hlive)⟩
  | start x =>
      simp only [pkiMachine, PkiState.step] at hstep
      split at hstep
      · cases hstep
      · cases hstep
        exact pinLaw_start hlaw (CertDir.ensureServerCert_ensured hlaw.keys.dir x) hguard
  | stop =>
      cases hstep
      exact ⟨hkeys, fun l hl => (by cases hl), hlaw.pinned⟩
  | enroll =>
      simp only [pkiMachine, PkiState.step] at hstep
      split at hstep
      · cases hstep
      · rename_i leaf hleaf
        cases hstep
        refine ⟨hkeys, hlaw.presented, fun cert hcert a ha hlive => ?_⟩
        rcases List.mem_append.mp ha with hold | hnew
        · exact hlaw.pinned cert hcert a hold hlive
        · rw [List.mem_singleton] at hnew
          rw [hnew]
          have hpresented := (hlaw.presented leaf hleaf).left
          rw [hcert.left] at hpresented
          exact Option.some.inj hpresented
  | revoke i =>
      cases hstep
      refine ⟨hkeys, hlaw.presented, fun cert hcert a ha hlive => ?_⟩
      rcases mem_revoke ha with ⟨old, hold, hpin, hwas⟩
      rw [hpin]
      exact hlaw.pinned cert hcert old hold (hwas _ hlive)

theorem pinLaw_boot (now : Int) : PinLaw (PkiState.boot now) where
  keys := keyLaw_boot now
  presented := fun _ h => by cases h
  pinned := fun _ _ _ h => absurd h List.not_mem_nil

/-- A start that replaces the pair while an agent is live cuts that agent off. -/
theorem not_pinsHold_of_expired {s s' : PkiState} {e : PkiEvent} (hkeys : KeyLaw s)
    (hexpired : ¬ Unexpired s e) (hstep : pkiMachine.step s e = some s') : ¬ s'.PinsHold := by
  cases e with
  | start x =>
      simp only [Unexpired, not_forall, not_or, not_not] at hexpired
      rcases hexpired with ⟨hcert, hkey, hkept, hlive⟩
      simp only [List.all_eq_true, not_forall, Bool.not_eq_true, Bool.not_eq_false'] at hlive
      rcases hlive with ⟨a, ha, hlive⟩
      simp only [pkiMachine, PkiState.step] at hstep
      split at hstep
      · cases hstep
      · cases hstep
        simp only [CertDir.ensureServerCert, hkept, CertDir.generate, hcert, hkey]
        intro hpins
        have hsame := hpins _ rfl a ha hlive
        have hold := hkeys.agents a ha
        rw [← hsame] at hold
        exact absurd hold (Nat.lt_irrefl s.keys)
  | advance d =>
      exact absurd trivial hexpired
  | stop =>
      exact absurd trivial hexpired
  | enroll =>
      exact absurd trivial hexpired
  | revoke i =>
      exact absurd trivial hexpired

/-!
## Pin continuity
-/

/-- In a run, the live agents recognise the listener at every moment exactly if
every start that can write its files finds an unexpired pair or no live agent. -/
theorem pins_hold_iff (now : Int) {es : List PkiEvent} {s : PkiState}
    (hrun : pkiMachine.run (PkiState.boot now) es = some s) :
    (forall xs ys t, es = xs ++ ys -> pkiMachine.run (PkiState.boot now) xs = some t ->
        t.PinsHold) <->
      pkiMachine.Meets Unexpired (PkiState.boot now) es := by
  constructor
  · intro hpins
    rcases Machine.meets_or_occurs Unexpired (PkiState.boot now) es with hmeets | hoccurs
    · exact hmeets
    · rcases hoccurs.split hrun with ⟨xs, e, ys, t, t', heq, hpre, hstep, hlast, hexpired⟩
      have hkeys := keyLaw_preserved.run_all (keyLaw_boot now) hpre
      have hprefix : es = (xs ++ [e]) ++ ys := by
        rw [heq, List.append_assoc, List.singleton_append]
      exact absurd (hpins _ ys t' hprefix hlast) (not_pinsHold_of_expired hkeys hexpired hstep)
  · intro hmeets xs ys t heq hpre
    rw [heq] at hmeets
    exact (pinLaw_preserved.run (pinLaw_boot now) hmeets.append_left hpre).pinsHold

namespace SamplePki

def fine : StartInput where
  readFails := false
  certWrite := Write.done
  keyWrite := Write.done

/-- A restart within the first year. -/
def early : List PkiEvent :=
  [PkiEvent.start fine, PkiEvent.enroll, PkiEvent.advance 31536000000000000, PkiEvent.stop,
    PkiEvent.start fine]

/-- A restart after the server certificate has expired, two years before the
agent's does. -/
def late : List PkiEvent :=
  [PkiEvent.start fine, PkiEvent.enroll, PkiEvent.advance 94608000000000000, PkiEvent.stop,
    PkiEvent.start fine]

end SamplePki

theorem pins_hold_iff_early :
    exists s, pkiMachine.run (PkiState.boot 0) SamplePki.early = some s ∧
      s.agents.length = 1 ∧ s.leaf ≠ none ∧ s.PinsHold := by
  obtain ⟨s, hrun, hagents, hleaf⟩ : exists s,
      pkiMachine.run (PkiState.boot 0) SamplePki.early = some s ∧ s.agents.length = 1 ∧
        s.leaf ≠ none :=
    ⟨_, rfl, rfl, by decide⟩
  have hmeets : pkiMachine.Meets Unexpired (PkiState.boot 0) SamplePki.early := by
    decide
  exact ⟨s, hrun, hagents, hleaf,
    (pins_hold_iff 0 hrun).mpr hmeets SamplePki.early [] s (List.append_nil _).symm hrun⟩

/-- Three years after its enrolment the agent is live, and the restarted server
presents a certificate that it has not pinned. -/
theorem restart_breaks_pin :
    exists s leaf a, pkiMachine.run (PkiState.boot 0) SamplePki.late = some s ∧
      s.leaf = some leaf ∧ a ∈ s.agents ∧ a.live s.now = true ∧ leaf ≠ a.caFingerprint :=
  ⟨_, _, _, rfl, rfl, List.mem_singleton.mpr rfl, by decide, by decide⟩

end Pki
end LeoOne
