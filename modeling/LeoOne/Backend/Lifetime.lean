import LeoOne.Foundation.Clock
import LeoOne.Backend.Steps

/-!
# The lifetime of an installation

The server with the time of its last step, and with restarts: a restart keeps the
database and the identifiers that have been generated, and forgets the registry,
the relay and every goroutine.  The address and the lifetime of sessions come
from the configuration, so they may change with it.
-/

namespace LeoOne
namespace Backend

open Foundation

inductive LifeEvent where
  | server (e : Event)
  | restart (wsEndpoint : String) (sessionTTL now : Nat)

/-- A request waits for its first statement; every other step has a time. -/
def LifeEvent.time : LifeEvent -> Option Nat
  | server (PoolEvent.start _) => none
  | server (PoolEvent.exec _ x) => some x.now
  | restart _ _ now => some now

/-- The server and its restarts, without the clock. -/
def installation : Machine State LifeEvent where
  step p
    | LifeEvent.server e => server.step p e
    | LifeEvent.restart wsEndpoint sessionTTL _ =>
        some (boot wsEndpoint sessionTTL p.shared.db p.shared.log.issued)

/-- The installation over time. -/
def lifetime : Machine (State × Nat) LifeEvent :=
  installation.clocked LifeEvent.time

/-- A condition on the instructions that are executed and one on the restarts. -/
def lifeGuard (g : State -> Instr -> Input -> Bool) (atRestart : State -> Nat -> Bool)
    (s : State × Nat) : LifeEvent -> Bool
  | LifeEvent.server e => Pool.guarded g s.1 e
  | LifeEvent.restart _ _ now => atRestart s.1 now

/-- The rule for invariants of an installation. -/
theorem lifetime_preserves {g : State -> Instr -> Input -> Bool}
    {atRestart : State -> Nat -> Bool} {inv : State -> Nat -> Prop}
    (hstart : forall {p p' r clock}, inv p clock -> Starts p p' r -> inv p' clock)
    (hexec : forall {p p' x k o clock}, p.shared.HubSound -> inv p clock ->
      clock ≤ x.now -> g p k x = true -> Executes p p' x k o -> inv p' x.now)
    (hrestart : forall {p clock now} ws ttl, inv p clock -> clock ≤ now ->
      atRestart p now = true ->
      inv (boot ws ttl p.shared.db p.shared.log.issued) now) :
    lifetime.Preserves (fun s e => lifeGuard g atRestart s e = true)
      (fun s => s.1.shared.HubSound ∧ inv s.1 s.2) := by
  rintro ⟨p, clock⟩ e ⟨p', clock'⟩ ⟨hs, hinv⟩ hguard hstep
  rcases Machine.clocked_step hstep with ⟨hmove, hle, rfl⟩
  cases e with
  | server e =>
      rcases Pool.step_cases hmove with ⟨r, rfl, hp'⟩ |
        ⟨i, x, k, rest, o, rfl, hhead, hperform, hp'⟩
      · have hstarts := starts_of_step hp'
        constructor
        · show p'.shared.HubSound
          rw [hstarts.shared]
          exact hs
        · exact hstart hinv hstarts
      · have hexecutes := executes_of_perform hs hhead hperform hp'
        constructor
        · exact hexecutes.effect.hubSound hs
        · have hg : Pool.guarded g p (PoolEvent.exec i x : Event) = true := hguard
          exact hexec hs hinv hle (Pool.guarded_exec hg hhead) hexecutes
  | restart ws ttl now =>
      cases hmove
      constructor
      · exact boot_hubSound _ _ _ _
      · exact hrestart ws ttl hinv hle hguard

end Backend
end LeoOne
