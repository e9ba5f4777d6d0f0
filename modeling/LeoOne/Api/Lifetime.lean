import LeoOne.Api.FileIntegrity

/-!
# One process after another

The process may end at any time, and the next one finds the tables and the storage
directory as they are, without a goroutine or a connection.  The laws of the files and
of the commands that announce them go on across the restart.
-/

namespace LeoOne
namespace Api

open Foundation
open Wire
open Backend (Addressed Database)

/-- A step of the process, or its end and the start of the next one. -/
inductive Happening where
  | step (e : Event)
  | restart (wsEndpoint : String) (sessionTTL : Nat)

/-- What the next process finds. -/
def restart (wsEndpoint : String) (sessionTTL : Nat) (p : State) : State where
  shared :=
    { p.shared with
      server :=
        (Backend.boot wsEndpoint sessionTTL p.shared.server.db p.shared.server.log.issued).shared }
  procs := []

/-- The service, for as long as its tables last. -/
def lifetime (cfg : FileConfig) : Machine State Happening where
  step := fun p e =>
    match e with
    | Happening.step e => (api cfg).step p e
    | Happening.restart wsEndpoint sessionTTL => some (restart wsEndpoint sessionTTL p)

section Restart

variable {cfg : FileConfig} {p : State} {wsEndpoint : String} {sessionTTL : Nat}

theorem restart_no_pending {k : Step} : ¬ (restart wsEndpoint sessionTTL p).Pending k := by
  rintro ⟨q, hq, _⟩
  cases hq

theorem StoreLaw.restart (hlaw : StoreLaw cfg p) :
    StoreLaw cfg (restart wsEndpoint sessionTTL p) where
  paths := hlaw.paths
  single := fun _ => Nat.zero_le 1
  fit := fun hk => absurd hk restart_no_pending
  rows := by
    intro f hf
    rcases hlaw.rows hf with ⟨content, hdescribes, hreserved, hall⟩
    refine ⟨content, hdescribes, hreserved, ?_⟩
    intro fd hlookup
    exact ⟨(hall fd hlookup).made, (hall fd hlookup).content, rfl⟩
  uploads := hlaw.uploads
  drawn := hlaw.drawn
  served := hlaw.served
  deployed := hlaw.deployed

theorem Mentions.of_restart {token : String} {id : Uuid}
    (h : Mentions (Api.restart wsEndpoint sessionTTL p) token id) : Mentions p token id := by
  cases h with
  | row ht htoken hid =>
      exact Mentions.row ht htoken hid
  | pending hk _ =>
      exact absurd hk restart_no_pending
  | served hr htoken hid =>
      exact Mentions.served hr htoken hid
  | deployed hd htoken hid =>
      exact Mentions.deployed hd htoken hid

theorem TokenLaw.restart (hlaw : TokenLaw p) :
    TokenLaw (Api.restart wsEndpoint sessionTTL p) where
  once := fun token => Nat.le_trans (Nat.le_add_right _ _) (hlaw.once token)
  fresh := fun hfresh => (Nat.add_eq_zero_iff.mp (hlaw.fresh hfresh)).left
  drawn := fun h => hlaw.drawn h.of_restart
  agree := fun h h' => hlaw.agree h.of_restart h'.of_restart

/-- The rows that the next process finds say what the commands were inserted with. -/
theorem DeployLaw.restart (hlaw : DeployLaw cfg p) (haddressed : Addressed (serverPart p)) :
    DeployLaw cfg (Api.restart wsEndpoint sessionTTL p) where
  orders := fun h => absurd h restart_no_pending
  issued := hlaw.issued
  rows := by
    intro id caller d r hd hr hid
    rcases haddressed.recorded hr with ⟨r0, hr0, hid0, hsame⟩
    rcases hlaw.rows hd hr0 (hid0.trans hid) with ⟨htype, hpayload⟩
    exact ⟨hsame.right.left.trans htype, hsame.right.right.trans hpayload⟩

theorem addressed_restart (haddressed : Addressed (serverPart p)) :
    Addressed (serverPart (Api.restart wsEndpoint sessionTTL p)) :=
  serverPart_idle addressed_startable
    (Backend.addressed_boot haddressed.keys.nodup fun _ hr => haddressed.keys.issued hr) rfl rfl
    rfl

end Restart

/-!
## The laws in every run
-/

/-- The laws that hold across restarts. -/
structure LifetimeLaw (cfg : FileConfig) (p : State) : Prop where
  hub : p.shared.server.HubSound
  addressed : Addressed (serverPart p)
  transfer : TransferLaw cfg p

theorem LifetimeLaw.step {cfg : FileConfig} {p p' : State} {e : Event}
    (hlaw : LifetimeLaw cfg p) (hstep : (api cfg).step p e = some p') : LifetimeLaw cfg p' := by
  have hrun : (api cfg).run p [e] = some p' := Machine.run_step hstep []
  obtain ⟨⟨hhub, haddressed⟩, htransfer⟩ := (transferLaw_preserved cfg).run
    ⟨⟨hlaw.hub, hlaw.addressed⟩, hlaw.transfer⟩ Pool.meets_guarded_true hrun
  exact ⟨hhub, haddressed, htransfer⟩

theorem LifetimeLaw.restart {cfg : FileConfig} {p : State} (hlaw : LifetimeLaw cfg p)
    (wsEndpoint : String) (sessionTTL : Nat) :
    LifetimeLaw cfg (Api.restart wsEndpoint sessionTTL p) where
  hub := Backend.boot_hubSound _ _ _ _
  addressed := addressed_restart hlaw.addressed
  transfer :=
    ⟨hlaw.transfer.store.restart, hlaw.transfer.tokens.restart,
      hlaw.transfer.deploy.restart hlaw.addressed⟩

theorem lifetimeLaw_boot {cfg : FileConfig} {wsEndpoint : String} {sessionTTL : Nat}
    {db : Database} {issued : List Uuid} {library : Library} (hkeyed : TablesKeyed db issued)
    (hstored : library.Stored cfg) (hissued : library.Issued) :
    LifetimeLaw cfg (boot (Backend.boot wsEndpoint sessionTTL db issued).shared library) where
  hub := Backend.boot_hubSound _ _ _ _
  addressed := addressed_api_boot hkeyed library
  transfer := transferLaw_boot hstored hissued

end Api
end LeoOne
