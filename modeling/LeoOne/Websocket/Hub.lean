import Mathlib.Logic.Function.Basic
import LeoOne.Foundation.Machine
import LeoOne.Websocket.Client

/-!
# The Hub

The registry of the connected agents.  A client is known by its address, so the
registry maps agent ids to addresses and the heap maps addresses to clients.
Each operation below is one section under the lock of the Hub; closing a channel
that is already closed panics, which is `none`.

The main invariant links the registry to the channels: a registered client is in
the registry exactly as long as its channel is open.
-/

namespace LeoOne
namespace Websocket

open Foundation

/-- The address of a `Client`. -/
abbrev ClientId := Nat

structure Hub (δ : Type) where
  clients : String -> Option ClientId
  heap : ClientId -> Client δ

namespace Hub

variable {δ : Type}

def setClient (h : Hub δ) (c : ClientId) (client : Client δ) : Hub δ :=
  { h with heap := Function.update h.heap c client }

def insert (h : Hub δ) (agentId : String) (c : ClientId) : Hub δ :=
  { h with clients := Function.update h.clients agentId (some c) }

def delete (h : Hub δ) (agentId : String) : Hub δ :=
  { h with clients := Function.update h.clients agentId none }

/-- `close(client.send)`. -/
def closeSend (h : Hub δ) (c : ClientId) : Option (Hub δ) :=
  match (h.heap c).sendChan.close with
  | none => none
  | some ch => some (h.setClient c { h.heap c with sendChan := ch })

/-- `Hub.Register`. -/
def register (h : Hub δ) (c : ClientId) : Option (Hub δ) :=
  match h.clients (h.heap c).agentId with
  | none => some (h.insert (h.heap c).agentId c)
  | some existing =>
      match h.closeSend existing with
      | none => none
      | some h' =>
          some ((h'.delete (h.heap c).agentId).insert (h.heap c).agentId c)

/-- The locked section of `Hub.Unregister`; the flag is `wasCurrent`. -/
def unregister (h : Hub δ) (c : ClientId) : Option (Hub δ × Bool) :=
  if h.clients (h.heap c).agentId = some c then
    match h.closeSend c with
    | none => none
    | some h' => some (h'.delete (h.heap c).agentId, true)
  else some (h, false)

/-- The locked section of `Hub.Disconnect`; the flag is `ok`. -/
def disconnect (h : Hub δ) (agentId : String) : Option (Hub δ × Bool) :=
  match h.clients agentId with
  | none => some (h, false)
  | some c =>
      match h.closeSend c with
      | none => none
      | some h' => some (h'.delete agentId, true)

/-- `Hub.IsConnected`. -/
def isConnected (h : Hub δ) (agentId : String) : Bool :=
  (h.clients agentId).isSome

/-!
## Effect of the locked sections
-/

/-- The channel of `c` after `close`. -/
def closedClient (h : Hub δ) (c : ClientId) : Client δ :=
  { h.heap c with sendChan := { (h.heap c).sendChan with closed := true } }

/-- The Hub after the current client `c` of an agent has been closed and taken
out of the registry. -/
def evict (h : Hub δ) (agentId : String) (c : ClientId) : Hub δ :=
  (h.setClient c (h.closedClient c)).delete agentId

/-- The Hub after a new client has been registered. -/
def addClient (h : Hub δ) (c : ClientId) (agentId tenantId : String) : Hub δ :=
  match h.clients agentId with
  | none => (h.setClient c (newClient agentId tenantId)).insert agentId c
  | some e =>
      ((h.setClient c (newClient agentId tenantId)).evict agentId e).insert
        agentId c

@[simp] theorem evict_clients (h : Hub δ) (a : String) (c : ClientId) :
    (h.evict a c).clients = Function.update h.clients a none := rfl

@[simp] theorem evict_agentId (h : Hub δ) (a : String) (c d : ClientId) :
    ((h.evict a c).heap d).agentId = (h.heap d).agentId := by
  by_cases hd : d = c
  · subst hd
    simp [evict, delete, setClient, closedClient]
  · simp [evict, delete, setClient, hd]

@[simp] theorem evict_tenantId (h : Hub δ) (a : String) (c d : ClientId) :
    ((h.evict a c).heap d).tenantId = (h.heap d).tenantId := by
  by_cases hd : d = c
  · subst hd
    simp [evict, delete, setClient, closedClient]
  · simp [evict, delete, setClient, hd]

theorem evict_closed (h : Hub δ) (a : String) (c d : ClientId) :
    ((h.evict a c).heap d).sendChan.closed =
      ((h.heap d).sendChan.closed || decide (d = c)) := by
  by_cases hd : d = c
  · subst hd
    simp [evict, delete, setClient, closedClient]
  · simp [evict, delete, setClient, hd]

@[simp] theorem addClient_clients (h : Hub δ) (c : ClientId) (a t : String) :
    (h.addClient c a t).clients = Function.update h.clients a (some c) := by
  unfold addClient
  split
  · rfl
  · simp [insert, evict, delete, setClient]

theorem addClient_agentId (h : Hub δ) (c d : ClientId) (a t : String) :
    ((h.addClient c a t).heap d).agentId =
      if d = c then a else (h.heap d).agentId := by
  have hnew : ((h.setClient c (newClient a t)).heap d).agentId =
      if d = c then a else (h.heap d).agentId := by
    by_cases hd : d = c
    · subst hd
      simp [setClient, newClient]
    · simp [setClient, hd]
  unfold addClient
  split
  · exact hnew
  · rw [← hnew]
    exact evict_agentId (h.setClient c (newClient a t)) a _ d

theorem addClient_tenantId (h : Hub δ) (c d : ClientId) (a t : String) :
    ((h.addClient c a t).heap d).tenantId =
      if d = c then t else (h.heap d).tenantId := by
  have hnew : ((h.setClient c (newClient a t)).heap d).tenantId =
      if d = c then t else (h.heap d).tenantId := by
    by_cases hd : d = c
    · subst hd
      simp [setClient, newClient]
    · simp [setClient, hd]
  unfold addClient
  split
  · exact hnew
  · rw [← hnew]
    simp [insert]

theorem addClient_closed {h : Hub δ} {c : ClientId} {a : String}
    (hne : h.clients a ≠ some c) (t : String) (d : ClientId) :
    ((h.addClient c a t).heap d).sendChan.closed =
      if d = c then false
      else ((h.heap d).sendChan.closed || decide (h.clients a = some d)) := by
  unfold addClient
  split
  · rename_i hnone
    by_cases hd : d = c
    · subst hd
      simp [insert, setClient, newClient, Chan.make]
    · simp [insert, setClient, hd, hnone]
  · rename_i e hsome
    have hec : c ≠ e := by
      intro heq
      subst heq
      exact hne hsome
    show (((h.setClient c (newClient a t)).evict a e).heap d).sendChan.closed = _
    rw [evict_closed]
    by_cases hd : d = c
    · subst hd
      simp [setClient, newClient, Chan.make, hec]
    · by_cases hde : d = e
      · subst hde
        simp [hd, hsome]
      · have hed : ¬ e = d := fun heq => hde heq.symm
        simp [setClient, hd, hde, hsome, hed]

theorem closeSend_of_open {h : Hub δ} {c : ClientId}
    (hopen : (h.heap c).sendChan.closed = false) :
    h.closeSend c = some (h.setClient c (h.closedClient c)) := by
  simp [closeSend, Chan.close_of_open hopen, closedClient]

theorem register_of_none {h : Hub δ} {c : ClientId}
    (hnone : h.clients (h.heap c).agentId = none) :
    h.register c = some (h.insert (h.heap c).agentId c) := by
  simp [register, hnone]

theorem register_of_some {h : Hub δ} {c e : ClientId}
    (hsome : h.clients (h.heap c).agentId = some e)
    (hopen : (h.heap e).sendChan.closed = false) :
    h.register c =
      some ((h.evict (h.heap c).agentId e).insert (h.heap c).agentId c) := by
  simp [register, hsome, closeSend_of_open hopen, evict]

theorem unregister_of_current {h : Hub δ} {c : ClientId}
    (hcur : h.clients (h.heap c).agentId = some c)
    (hopen : (h.heap c).sendChan.closed = false) :
    h.unregister c = some (h.evict (h.heap c).agentId c, true) := by
  simp [unregister, hcur, closeSend_of_open hopen, evict]

/-- `Unregister` of a client that is not the current one does nothing. -/
theorem unregister_of_superseded {h : Hub δ} {c : ClientId}
    (hne : h.clients (h.heap c).agentId ≠ some c) :
    h.unregister c = some (h, false) := by
  simp [unregister, hne]

theorem disconnect_of_none {h : Hub δ} {a : String} (hnone : h.clients a = none) :
    h.disconnect a = some (h, false) := by
  simp [disconnect, hnone]

theorem disconnect_of_some {h : Hub δ} {a : String} {c : ClientId}
    (hsome : h.clients a = some c)
    (hopen : (h.heap c).sendChan.closed = false) :
    h.disconnect a = some (h.evict a c, true) := by
  simp [disconnect, hsome, closeSend_of_open hopen, evict]

/-!
## The registry invariant
-/

/-- What links the registry to the channels; `registered` are the clients for
which `Register` has been called. -/
structure Consistent (h : Hub δ) (registered : ClientId -> Prop) : Prop where
  agent : forall {a c}, h.clients a = some c -> (h.heap c).agentId = a
  isOpen : forall {a c}, h.clients a = some c ->
    (h.heap c).sendChan.closed = false
  known : forall {a c}, h.clients a = some c -> registered c
  removed : forall {c}, registered c ->
    h.clients (h.heap c).agentId ≠ some c -> (h.heap c).sendChan.closed = true
  fresh : forall {c}, ¬ registered c -> (h.heap c).sendChan.closed = false

variable {registered : ClientId -> Prop}

/-- A step that changes neither the owner of a client nor its `closed` flag
keeps the invariant: `Send` and `WritePump` are of this kind. -/
theorem Consistent.setClient {h : Hub δ} (hc : Consistent h registered)
    {c : ClientId} {client : Client δ}
    (hagent : client.agentId = (h.heap c).agentId)
    (hclosed : client.sendChan.closed = (h.heap c).sendChan.closed) :
    Consistent (h.setClient c client) registered := by
  have hagents : forall d,
      ((h.setClient c client).heap d).agentId = (h.heap d).agentId := by
    intro d
    by_cases hd : d = c
    · subst hd
      simpa [Hub.setClient] using hagent
    · simp [Hub.setClient, hd]
  have hflags : forall d,
      ((h.setClient c client).heap d).sendChan.closed =
        (h.heap d).sendChan.closed := by
    intro d
    by_cases hd : d = c
    · subst hd
      simpa [Hub.setClient] using hclosed
    · simp [Hub.setClient, hd]
  constructor
  · intro a d hd
    rw [hagents d]
    exact hc.agent hd
  · intro a d hd
    rw [hflags d]
    exact hc.isOpen hd
  · intro a d hd
    exact hc.known hd
  · intro d hd hne
    rw [hagents d] at hne
    rw [hflags d]
    exact hc.removed hd hne
  · intro d hd
    rw [hflags d]
    exact hc.fresh hd

/-- Closing the current client of an agent together with taking it out of the
registry keeps the invariant. -/
theorem Consistent.evict {h : Hub δ} (hc : Consistent h registered)
    {a : String} {c : ClientId} (hcur : h.clients a = some c) :
    Consistent (h.evict a c) registered := by
  have hagent := hc.agent hcur
  -- what is left in the registry was there before, and is not `c`
  have hleft : forall {b d}, (h.evict a c).clients b = some d ->
      h.clients b = some d ∧ d ≠ c := by
    intro b d hd
    by_cases hb : b = a
    · simp [hb] at hd
    · have hold : h.clients b = some d := by simpa [hb] using hd
      refine ⟨hold, ?_⟩
      intro heq
      subst heq
      exact hb ((hc.agent hold).symm.trans hagent)
  constructor
  · intro b d hd
    rw [evict_agentId]
    exact hc.agent (hleft hd).left
  · intro b d hd
    rcases hleft hd with ⟨hold, hne⟩
    rw [evict_closed, hc.isOpen hold]
    simp [hne]
  · intro b d hd
    exact hc.known (hleft hd).left
  · intro d hd hne
    rw [evict_agentId] at hne
    rw [evict_closed]
    by_cases hdc : d = c
    · simp [hdc]
    · have hgone : h.clients (h.heap d).agentId ≠ some d := by
        intro hsome
        have hb : (h.heap d).agentId ≠ a := by
          intro heq
          rw [heq, hcur] at hsome
          exact hdc (Option.some.inj hsome).symm
        apply hne
        simpa [hb] using hsome
      rw [hc.removed hd hgone]
      rfl
  · intro d hd
    have hdc : d ≠ c := by
      intro heq
      subst heq
      exact hd (hc.known hcur)
    rw [evict_closed, hc.fresh hd]
    simp [hdc]

/-- A client that has not been registered before becomes the current one of an
agent that has none. -/
theorem Consistent.enter {h : Hub δ} (hc : Consistent h registered)
    {c : ClientId} (hnew : ¬ registered c)
    (hnone : h.clients (h.heap c).agentId = none) :
    Consistent (h.insert (h.heap c).agentId c)
      (fun d => registered d ∨ d = c) := by
  have hfree : forall {b d}, (h.insert (h.heap c).agentId c).clients b = some d ->
      (b = (h.heap c).agentId ∧ d = c) ∨ h.clients b = some d := by
    intro b d hd
    by_cases hb : b = (h.heap c).agentId
    · left
      refine ⟨hb, ?_⟩
      have hsome : some c = some d := by simpa [insert, hb] using hd
      exact (Option.some.inj hsome).symm
    · right
      simpa [insert, hb] using hd
  constructor
  · intro b d hd
    rcases hfree hd with ⟨hb, rfl⟩ | hold
    · exact hb.symm
    · exact hc.agent hold
  · intro b d hd
    rcases hfree hd with ⟨_, rfl⟩ | hold
    · exact hc.fresh hnew
    · exact hc.isOpen hold
  · intro b d hd
    rcases hfree hd with ⟨_, rfl⟩ | hold
    · exact Or.inr rfl
    · exact Or.inl (hc.known hold)
  · intro d hd hne
    rcases hd with hold | rfl
    · apply hc.removed hold
      intro hsome
      by_cases hb : (h.heap d).agentId = (h.heap c).agentId
      · rw [hb, hnone] at hsome
        cases hsome
      · apply hne
        simpa [insert, hb] using hsome
    · exact absurd (by simp [insert]) hne
  · intro d hd
    exact hc.fresh (fun hold => hd (Or.inl hold))

theorem Consistent.register {h : Hub δ} (hc : Consistent h registered)
    {c : ClientId} (hnew : ¬ registered c) :
    exists h', h.register c = some h' ∧
      Consistent h' (fun d => registered d ∨ d = c) := by
  cases hcur : h.clients (h.heap c).agentId with
  | none =>
      exact ⟨_, register_of_none hcur, hc.enter hnew hcur⟩
  | some e =>
      refine ⟨_, register_of_some hcur (hc.isOpen hcur), ?_⟩
      have henter := (hc.evict hcur).enter hnew (by simp)
      rw [evict_agentId] at henter
      exact henter

/-- The client at an address that is not in use can be replaced. -/
theorem Consistent.setFresh {h : Hub δ} (hc : Consistent h registered)
    {c : ClientId} (hnew : ¬ registered c) {client : Client δ}
    (hopen : client.sendChan.closed = false) :
    Consistent (h.setClient c client) registered := by
  have hother : forall {d}, registered d ->
      (h.setClient c client).heap d = h.heap d := by
    intro d hd
    have hne : d ≠ c := by
      intro heq
      subst heq
      exact hnew hd
    simp [Hub.setClient, hne]
  constructor
  · intro a d hd
    rw [hother (hc.known hd)]
    exact hc.agent hd
  · intro a d hd
    rw [hother (hc.known hd)]
    exact hc.isOpen hd
  · intro a d hd
    exact hc.known hd
  · intro d hd hne
    rw [hother hd] at hne ⊢
    exact hc.removed hd hne
  · intro d hd
    by_cases hdc : d = c
    · subst hdc
      simpa [Hub.setClient] using hopen
    · simpa [Hub.setClient, hdc] using hc.fresh hd

/-- `NewClient` followed by `Register`. -/
theorem Consistent.addClient {h : Hub δ} (hc : Consistent h registered)
    {c : ClientId} (hnew : ¬ registered c) (a t : String) :
    (h.setClient c (newClient a t)).register c = some (h.addClient c a t) ∧
      Consistent (h.addClient c a t) (fun d => registered d ∨ d = c) := by
  have hfresh : Consistent (h.setClient c (newClient a t)) registered :=
    hc.setFresh hnew rfl
  have hagent : ((h.setClient c (newClient a t)).heap c).agentId = a := by
    simp [Hub.setClient, newClient]
  have hreg : (h.setClient c (newClient a t)).register c =
      some (h.addClient c a t) := by
    unfold Hub.addClient
    split
    · rename_i hnone
      have hreg := register_of_none (h := h.setClient c (newClient a t)) (c := c)
        (by rw [hagent]; exact hnone)
      rw [hagent] at hreg
      exact hreg
    · rename_i e hsome
      have hopen := hfresh.isOpen (a := a) (c := e) hsome
      have hreg := register_of_some (h := h.setClient c (newClient a t)) (c := c)
        (by rw [hagent]; exact hsome) hopen
      rw [hagent] at hreg
      exact hreg
  refine ⟨hreg, ?_⟩
  rcases hfresh.register hnew with ⟨h', hsome, hcons⟩
  rw [hreg] at hsome
  cases hsome
  exact hcons

theorem Consistent.unregister {h : Hub δ} (hc : Consistent h registered)
    (c : ClientId) :
    exists h' current, h.unregister c = some (h', current) ∧
      Consistent h' registered := by
  by_cases hcur : h.clients (h.heap c).agentId = some c
  · exact ⟨_, true, unregister_of_current hcur (hc.isOpen hcur), hc.evict hcur⟩
  · exact ⟨h, false, unregister_of_superseded hcur, hc⟩

theorem Consistent.disconnect {h : Hub δ} (hc : Consistent h registered)
    (a : String) :
    exists h' ok, h.disconnect a = some (h', ok) ∧ Consistent h' registered := by
  cases hcur : h.clients a with
  | none =>
      exact ⟨h, false, disconnect_of_none hcur, hc⟩
  | some c =>
      exact ⟨_, true, disconnect_of_some hcur (hc.isOpen hcur), hc.evict hcur⟩

end Hub

/-!
## Runs of the registry

`AgentWSHandler` registers each client once, and the `ReadPump` of a registered
client unregisters it once, when it returns.
-/

inductive HubEvent where
  | register (c : ClientId)
  | unregister (c : ClientId)
  | disconnect (agentId : String)

/-- The Hub with what has happened to it: which clients have been registered and
unregistered, and how often `close` was called on each channel. -/
structure HubRun (δ : Type) where
  hub : Hub δ
  registered : ClientId -> Bool
  unregistered : ClientId -> Bool
  closes : ClientId -> Nat
  panicked : Bool

namespace HubRun

variable {δ : Type}

/-- An empty Hub, and the clients that `NewClient` will have made. -/
def start (agentOf tenantOf : ClientId -> String) : HubRun δ where
  hub :=
    { clients := fun _ => none
      heap := fun c => newClient (agentOf c) (tenantOf c) }
  registered := fun _ => false
  unregistered := fun _ => false
  closes := fun _ => 0
  panicked := false

/-- The client whose channel the operation closes. -/
def closing (h : Hub δ) : HubEvent -> Option ClientId
  | HubEvent.register c => h.clients (h.heap c).agentId
  | HubEvent.unregister c =>
      if h.clients (h.heap c).agentId = some c then some c else none
  | HubEvent.disconnect a => h.clients a

def perform (h : Hub δ) : HubEvent -> Option (Hub δ)
  | HubEvent.register c => h.register c
  | HubEvent.unregister c => (h.unregister c).map Prod.fst
  | HubEvent.disconnect a => (h.disconnect a).map Prod.fst

def allowed (s : HubRun δ) : HubEvent -> Bool
  | HubEvent.register c => !s.registered c
  | HubEvent.unregister c => s.registered c && !s.unregistered c
  | HubEvent.disconnect _ => true

/-- The history after the call. -/
def record (s : HubRun δ) (e : HubEvent) : HubRun δ where
  hub := s.hub
  registered :=
    match e with
    | HubEvent.register c => Function.update s.registered c true
    | _ => s.registered
  unregistered :=
    match e with
    | HubEvent.unregister c => Function.update s.unregistered c true
    | _ => s.unregistered
  closes :=
    match closing s.hub e with
    | none => s.closes
    | some c => Function.update s.closes c (s.closes c + 1)
  panicked := s.panicked

def machine : Machine (HubRun δ) HubEvent where
  step s e :=
    if s.panicked || !s.allowed e then none
    else
      match perform s.hub e with
      | none => some { s.record e with panicked := true }
      | some h => some { s.record e with hub := h }

theorem step_cases {s t : HubRun δ} {e : HubEvent}
    (h : machine.step s e = some t) :
    s.panicked = false ∧ s.allowed e = true ∧
      ((perform s.hub e = none ∧ t = { s.record e with panicked := true }) ∨
        (exists hub, perform s.hub e = some hub ∧
          t = { s.record e with hub := hub })) := by
  simp only [machine] at h
  split at h
  · cases h
  · rename_i henabled
    simp only [Bool.or_eq_true, Bool.not_eq_true', not_or] at henabled
    refine ⟨by simpa using henabled.left, by simpa using henabled.right, ?_⟩
    split at h
    · rename_i hperform
      cases h
      exact Or.inl ⟨hperform, rfl⟩
    · rename_i hub hperform
      cases h
      exact Or.inr ⟨hub, hperform, rfl⟩

/-- The registry agrees with the channels, and each channel has been closed as
often as it is closed. -/
structure Sound (s : HubRun δ) : Prop where
  alive : s.panicked = false
  consistent : s.hub.Consistent (fun c => s.registered c = true)
  counted : forall c, s.closes c = (s.hub.heap c).sendChan.closed.toNat

theorem sound_start (agentOf tenantOf : ClientId -> String) :
    Sound (start agentOf tenantOf : HubRun δ) := by
  refine ⟨rfl, ?_, fun _ => rfl⟩
  constructor
  · intro a c hc
    cases hc
  · intro a c hc
    cases hc
  · intro a c hc
    cases hc
  · intro c hc
    cases hc
  · intro c _
    rfl

theorem closed_evict {h : Hub δ} {a : String} {c : ClientId}
    (hopen : (h.heap c).sendChan.closed = false) (d : ClientId) :
    ((h.evict a c).heap d).sendChan.closed.toNat =
      (h.heap d).sendChan.closed.toNat + if c = d then 1 else 0 := by
  rw [Hub.evict_closed]
  by_cases hd : c = d
  · subst hd
    simp [hopen]
  · simp [hd, Ne.symm hd]

/-- An allowed operation does not panic, keeps the registry consistent, and
closes the one channel that `closing` names. -/
theorem Sound.perform {s : HubRun δ} (hs : Sound s) {e : HubEvent}
    (hallowed : s.allowed e = true) :
    exists h, perform s.hub e = some h ∧
      h.Consistent (fun c => (s.record e).registered c = true) ∧
      forall d, (h.heap d).sendChan.closed.toNat =
        (s.hub.heap d).sendChan.closed.toNat +
          if closing s.hub e = some d then 1 else 0 := by
  have hc := hs.consistent
  cases e with
  | register c =>
      have hnew : ¬ s.registered c = true := by
        simpa [allowed] using hallowed
      rcases hc.register hnew with ⟨h, hreg, hcons⟩
      refine ⟨h, hreg, ?_, ?_⟩
      · have hsame : (fun d => s.registered d = true ∨ d = c) =
            fun d => (s.record (HubEvent.register c)).registered d = true := by
          funext d
          by_cases hd : d = c
          · simp [record, hd]
          · simp [record, hd]
        rw [← hsame]
        exact hcons
      · intro d
        cases hcur : s.hub.clients (s.hub.heap c).agentId with
        | none =>
            rw [Hub.register_of_none hcur] at hreg
            cases hreg
            simp [Hub.insert, closing, hcur]
        | some old =>
            rw [Hub.register_of_some hcur (hc.isOpen hcur)] at hreg
            cases hreg
            have hevict := closed_evict (a := (s.hub.heap c).agentId)
              (hc.isOpen hcur) d
            simpa [Hub.insert, closing, hcur] using hevict
  | unregister c =>
      by_cases hcur : s.hub.clients (s.hub.heap c).agentId = some c
      · have hopen := hc.isOpen hcur
        refine ⟨_, ?_, hc.evict hcur, ?_⟩
        · simp [HubRun.perform, Hub.unregister_of_current hcur hopen]
        · intro d
          simpa [closing, hcur] using closed_evict hopen d
      · refine ⟨s.hub, ?_, hc, ?_⟩
        · simp [HubRun.perform, Hub.unregister_of_superseded hcur]
        · intro d
          simp [closing, hcur]
  | disconnect a =>
      cases hcur : s.hub.clients a with
      | none =>
          refine ⟨s.hub, ?_, hc, ?_⟩
          · simp [HubRun.perform, Hub.disconnect_of_none hcur]
          · intro d
            simp [closing, hcur]
      | some c =>
          have hopen := hc.isOpen hcur
          refine ⟨_, ?_, hc.evict hcur, ?_⟩
          · simp [HubRun.perform, Hub.disconnect_of_some hcur hopen]
          · intro d
            simpa [closing, hcur] using closed_evict hopen d

theorem record_closes (s : HubRun δ) (e : HubEvent) (d : ClientId) :
    (s.record e).closes d =
      s.closes d + if closing s.hub e = some d then 1 else 0 := by
  unfold record
  cases hclosing : closing s.hub e with
  | none =>
      simp
  | some c =>
      by_cases hd : c = d
      · subst hd
        simp
      · simp [hd, Ne.symm hd]

theorem sound_step :
    (machine : Machine (HubRun δ) HubEvent).Preserves (fun _ _ => True)
      Sound := by
  intro s e t hs _ hstep
  rcases step_cases hstep with ⟨halive, hallowed, hresult⟩
  rcases hs.perform hallowed with ⟨h, hperform, hcons, hclosed⟩
  rcases hresult with ⟨hpanic, _⟩ | ⟨h', hsome, ht⟩
  · rw [hperform] at hpanic
    cases hpanic
  · rw [hperform] at hsome
    cases hsome
    subst ht
    refine ⟨halive, hcons, ?_⟩
    intro c
    show (s.record e).closes c = (h.heap c).sendChan.closed.toNat
    rw [record_closes, hclosed c, hs.counted c]

/-- For every order of the three operations: no channel is closed twice, the
registry holds clients of the right agent with an open channel, a registered
client that has left the registry has a closed channel, and `Unregister` of a
superseded client leaves the Hub as it is. -/
theorem registry_invariant (agentOf tenantOf : ClientId -> String)
    {es : List HubEvent} {s : HubRun δ}
    (hrun : machine.run (start agentOf tenantOf) es = some s) :
    s.panicked = false ∧ (forall c, s.closes c ≤ 1) ∧
      (forall a c, s.hub.clients a = some c ->
        (s.hub.heap c).agentId = a ∧ (s.hub.heap c).sendChan.closed = false) ∧
      (forall c, s.registered c = true ->
        s.hub.clients (s.hub.heap c).agentId ≠ some c ->
        (s.hub.heap c).sendChan.closed = true) ∧
      (forall c t, machine.step s (HubEvent.unregister c) = some t ->
        s.hub.clients (s.hub.heap c).agentId ≠ some c -> t.hub = s.hub) := by
  have hs := sound_step.run_all (sound_start agentOf tenantOf) hrun
  refine ⟨hs.alive, ?_, ?_, ?_, ?_⟩
  · intro c
    rw [hs.counted c]
    exact Bool.toNat_le _
  · intro a c hc
    exact ⟨hs.consistent.agent hc, hs.consistent.isOpen hc⟩
  · intro c hregistered hgone
    exact hs.consistent.removed hregistered hgone
  · intro c t hstep hne
    rcases step_cases hstep with ⟨_, _, ⟨hpanic, _⟩ | ⟨h, hsome, ht⟩⟩
    · simp [HubRun.perform, Hub.unregister_of_superseded hne] at hpanic
    · simp only [HubRun.perform, Hub.unregister_of_superseded hne, Option.map_some,
        Option.some.injEq] at hsome
      subst ht
      exact hsome.symm

/-- An agent reconnects, and then the `ReadPump` of its old connection ends. -/
def reconnection : List HubEvent :=
  [HubEvent.register 0, HubEvent.register 1, HubEvent.unregister 0]

theorem registry_invariant_reconnection :
    exists s : HubRun Unit,
      machine.run (start (fun _ => "a") (fun _ => "t")) reconnection = some s ∧
      s.panicked = false ∧ s.hub.clients "a" = some 1 ∧
      (s.hub.heap 1).sendChan.closed = false := by
  obtain ⟨s, hrun, hcur⟩ : exists s : HubRun Unit,
      machine.run (start (fun _ => "a") (fun _ => "t")) reconnection = some s ∧
        s.hub.clients "a" = some 1 :=
    ⟨_, rfl, by decide⟩
  have hinv := registry_invariant _ _ hrun
  exact ⟨s, hrun, hinv.left, hcur, (hinv.right.right.left _ _ hcur).right⟩

end HubRun

end Websocket
end LeoOne
