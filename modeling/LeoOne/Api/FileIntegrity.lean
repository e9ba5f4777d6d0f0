import LeoOne.Api.CommandTenancy
import LeoOne.Api.DownloadTokens
import LeoOne.Api.StorageSteps

/-!
# Files from upload to download

What `Download` serves is what `Create` has stored, and `DeployFile` has announced its
size and its digest: the three laws of the library, of its tokens and of the commands
that carry them, put together.
-/

namespace LeoOne
namespace Api

open Foundation
open Wire
open Backend (Server Instr Statement CommandOrder CommandRow CommandType Database Effect
  Addressed carries commandMessage)

/-!
## What a command announces
-/

/-- The order of `DeployFile`, as far as it concerns the file. -/
def Announces (cfg : FileConfig) (d : Deployment) (type : CommandType) (payload : RawMessage) :
    Prop :=
  type = CommandType.fileTransfer ∧ payload = cfg.transferPayload d

/-- The commands of `DeployFile` announce the file and the token. -/
structure DeployLaw (cfg : FileConfig) (p : State) : Prop where
  orders : forall {caller d order}, p.Pending (Step.insert (Origin.deploy caller d) order) ->
    Announces cfg d order.type order.payload
  issued : forall {id origin}, (id, origin) ∈ p.shared.dispatched ->
    id ∈ p.shared.server.log.issued
  rows : forall {id caller d r}, (id, Origin.deploy caller d) ∈ p.shared.dispatched ->
    r ∈ p.shared.server.log.commands -> r.id = id -> Announces cfg d r.type r.payload

/-- The step calls `CreateAndDispatchCommand` for `DeployFile` with that file. -/
def Step.announces (cfg : FileConfig) : Step -> Prop
  | insert (Origin.deploy _ d) order => Announces cfg d order.type order.payload
  | _ => True

section Steps

variable {cfg : FileConfig} {p p' : State} {x : Input} {k : Step} {o : Outcome Service Step}

theorem HandlerMove.announces {s t : Service} {h : HandlerStep} {cont : List Step}
    (hmove : HandlerMove cfg x s h t cont) {j : Step} (hj : j ∈ cont) : j.announces cfg := by
  cases hmove with
  | refused | idle =>
      cases hj
  | bulkCreated | bulkInstalled | resolved =>
      rcases List.mem_map.mp hj with ⟨id, _, rfl⟩
      trivial
  | tokenCreated _ =>
      cases List.mem_singleton.mp hj
      exact ⟨rfl, rfl⟩
  | _ =>
      cases List.mem_singleton.mp hj
      trivial

theorem Performs.announces (hperforms : Performs cfg x p.shared k o.shared o.created) {j : Step}
    (hj : j ∈ o.created) : j.announces cfg := by
  generalize o.created = created at hj hperforms
  generalize o.shared = t at hperforms
  cases hperforms with
  | core _ | insert _ =>
      rcases List.mem_map.mp hj with ⟨i, _, rfl⟩
      trivial
  | handler _ hmove =>
      exact hmove.announces hj
  | file _ _ =>
      rcases List.mem_map.mp hj with ⟨f, _, rfl⟩
      trivial

theorem DeployLaw.orders_step (hlaw : DeployLaw cfg p)
    (hperforms : Performs cfg x p.shared k o.shared o.created)
    (hexec : Pool.Executed p p' k o) {caller : Caller} {d : Deployment} {order : CommandOrder}
    (h : p'.Pending (Step.insert (Origin.deploy caller d) order)) :
    Announces cfg d order.type order.payload := by
  rcases hexec.pending h with hnew | hold
  · exact hperforms.announces hnew
  · exact hlaw.orders hold

/-- A row under an identifier that is not new was there before. -/
theorem logged_old {s t : Server} {y : Backend.Input} {i : Instr} (heffect : Effect s y i t)
    {r : CommandRow} (hr : r ∈ t.log.commands) (hissued : r.id ∈ s.log.issued) :
    r ∈ s.log.commands := by
  rcases heffect.logged hr with hold | ⟨_, hnew, _⟩
  · exact hold
  · exact absurd hissued hnew

theorem DeployLaw.kept_rows (hlaw : DeployLaw cfg p) {y : Backend.Input} {i : Instr}
    (heffect : Effect p.shared.server y i p'.shared.server) {id : Uuid} {caller : Caller}
    {d : Deployment} {r : CommandRow}
    (h : (id, Origin.deploy caller d) ∈ p.shared.dispatched)
    (hr : r ∈ p'.shared.server.log.commands) (hid : r.id = id) :
    Announces cfg d r.type r.payload := by
  subst hid
  exact hlaw.rows h (logged_old heffect hr (hlaw.issued h)) rfl

/-- The row of a call of `CreateAndDispatchCommand` has the payload of the call. -/
theorem logged_insert {s : Server} {y : Backend.Input} {order : CommandOrder} {id : Uuid}
    (haddressed : forall {r}, r ∈ s.log.commands -> r.id ∈ s.log.issued)
    (hkeys : Backend.CommandKeys s) (hnew : id ∉ s.log.issued) {r : CommandRow}
    (hr : r ∈ (s.insertion id
      ((Statement.insertCommand order).exec s.sessionTTL y s.db).1).log.commands)
    (hid : r.id = id) : r.type = order.type ∧ r.payload = order.payload := by
  subst hid
  rcases List.mem_append.mp hr with hold | hrow
  · exact absurd (haddressed hold) hnew
  · rcases Backend.exec_insertCommand (List.mem_filter.mp hrow).left with hold |
      ⟨_, _, _, htype, hpayload, _⟩
    · exact absurd (hkeys.issued hold) hnew
    · exact ⟨htype, hpayload⟩

theorem DeployLaw.insert_step (hlaw : DeployLaw cfg p) {origin : Origin} {order : CommandOrder}
    {o' : Outcome Server Instr} (hs : p.shared.server.HubSound)
    (haddressed : Addressed (serverPart p))
    (hexec : Pool.Executed p p' (Step.insert origin order) o)
    (hperforms : Performs cfg x p.shared (Step.insert origin order) o.shared o.created)
    (hperform : Server.perform (insertInstr order) x.server p.shared.server = some o')
    (hshared : p'.shared = p.shared.dispatch x origin o'.shared) : DeployLaw cfg p' := by
  have hserver : p'.shared.server = o'.shared := by
    rw [hshared]
    rfl
  have heffect : Effect p.shared.server x.server (insertInstr order) p'.shared.server := by
    rw [hserver]
    exact (Backend.effect_of_perform hs hperform).right
  rcases insert_cases origin hs hperform with ⟨hsame, hdispatched⟩ |
    ⟨id, _, hnew, hinsertion, hdispatched⟩
  · rw [← hshared] at hdispatched
    refine ⟨fun h => hlaw.orders_step hperforms hexec h, ?_, ?_⟩
    · intro id origin' h
      rw [hdispatched] at h
      exact heffect.issued_mono (hlaw.issued h)
    · intro id caller d r h hr hid
      rw [hdispatched] at h
      exact hlaw.kept_rows heffect h hr hid
  · rw [← hshared] at hdispatched
    refine ⟨fun h => hlaw.orders_step hperforms hexec h, ?_, ?_⟩
    · intro id' origin' h
      rw [hdispatched] at h
      rcases List.mem_cons.mp h with heq | hold
      · cases heq
        rw [hserver, hinsertion]
        exact List.mem_cons_self
      · exact heffect.issued_mono (hlaw.issued hold)
    · intro id' caller d r h hr hid
      rw [hdispatched] at h
      rcases List.mem_cons.mp h with heq | hold
      · cases heq
        rw [hserver, hinsertion] at hr
        obtain ⟨htype, hpayload⟩ :=
          logged_insert haddressed.logged haddressed.keys hnew hr hid
        rw [htype, hpayload]
        exact hlaw.orders hexec.running
      · exact hlaw.kept_rows heffect hold hr hid

theorem DeployLaw.other_step (hlaw : DeployLaw cfg p)
    (hexec : Pool.Executed p p' k o)
    (hperforms : Performs cfg x p.shared k o.shared o.created)
    (hserver : p'.shared.server = p.shared.server)
    (hdispatched : p'.shared.dispatched = p.shared.dispatched) : DeployLaw cfg p' := by
  refine ⟨fun h => hlaw.orders_step hperforms hexec h, ?_, ?_⟩
  · rw [hserver, hdispatched]
    exact hlaw.issued
  · rw [hserver, hdispatched]
    exact hlaw.rows

theorem DeployLaw.step (hlaw : DeployLaw cfg p) (hs : p.shared.server.HubSound)
    (haddressed : Addressed (serverPart p))
    (hperforms : Performs cfg x p.shared k o.shared o.created)
    (hexec : Pool.Executed p p' k o) : DeployLaw cfg p' := by
  have hshared := hexec.shared
  have hall := hperforms
  generalize o.shared = t at hshared hperforms
  generalize o.created = created at hperforms
  cases hperforms with
  | core hperform =>
      rename_i i _
      have heffect : Effect p.shared.server x.server i p'.shared.server := by
        rw [hshared]
        exact (Backend.effect_of_perform hs hperform).right
      refine ⟨fun h => hlaw.orders_step hall hexec h, ?_, ?_⟩
      · intro id origin h
        rw [hshared] at h
        exact heffect.issued_mono (hlaw.issued h)
      · intro id caller d r h hr hid
        rw [hshared] at h
        exact hlaw.kept_rows heffect h hr hid
  | insert hperform =>
      exact hlaw.insert_step hs haddressed hexec hall hperform hshared
  | handler _ hmove =>
      rcases hmove.frame with ⟨hserver, hdispatched⟩
      exact hlaw.other_step hexec hall (hshared ▸ hserver) (hshared ▸ hdispatched)
  | file _ hmove =>
      exact hlaw.other_step hexec hall (by rw [hshared]) (by rw [hshared])

theorem DeployLaw.start {r : Request} (hlaw : DeployLaw cfg p)
    (hstep : Pool.Started p p' (entry r)) : DeployLaw cfg p' := by
  refine ⟨?_, ?_, ?_⟩
  · intro caller d order h
    rcases hstep.pending h with hnew | hold
    · have htarget := (entry_target? hnew).left
      cases htarget
    · exact hlaw.orders hold
  · rw [hstep.shared]
    exact hlaw.issued
  · rw [hstep.shared]
    exact hlaw.rows

end Steps

/-!
## End to end
-/

/-- The laws of the library, of its tokens and of the commands that carry them. -/
structure TransferLaw (cfg : FileConfig) (p : State) : Prop where
  store : StoreLaw cfg p
  tokens : TokenLaw p
  deploy : DeployLaw cfg p

theorem transferLaw_preserved (cfg : FileConfig) :
    (api cfg).Preserves (fun p e => Pool.guarded (fun _ _ _ => true) p e = true)
      (fun p => (p.shared.server.HubSound ∧ Addressed (serverPart p)) ∧ TransferLaw cfg p) := by
  refine api_preserves addressed_startable addressed_executable ?_ ?_
  · intro p p' r hinv hstep
    exact ⟨hinv.store.start hstep, hinv.tokens.start hstep, hinv.deploy.start hstep⟩
  · intro p p' x k o hs haddressed hinv _ hperforms hexec
    exact ⟨hinv.store.step hperforms hexec, hinv.tokens.step hperforms hexec,
      hinv.deploy.step hs haddressed hperforms hexec⟩

theorem transferLaw_boot {cfg : FileConfig} {server : Server} {library : Library}
    (hstored : library.Stored cfg) (hissued : library.Issued) :
    TransferLaw cfg (boot server library) where
  store := storeLaw_boot hstored
  tokens := tokenLaw_boot hissued
  deploy :=
    ⟨fun h => absurd h boot_no_pending, fun h => absurd h List.not_mem_nil,
      fun h => absurd h List.not_mem_nil⟩

/-- The file that a deployment with the token of a response announces is the one that
was served. -/
theorem TransferLaw.announced {cfg : FileConfig} {p : State} (hlaw : TransferLaw cfg p)
    {r : Response} (hr : r ∈ p.shared.library.served) (hstatus : r.status = 200)
    (hcomplete : r.complete = true) {id : Uuid} {caller : Caller} {d : Deployment}
    (hd : (id, Origin.deploy caller d) ∈ p.shared.dispatched) (htoken : d.token = r.token) :
    d.file.id = r.fileId ∧ d.file.sizeBytes = r.body.length ∧
      d.file.checksumSha256 = cfg.sha256 r.body := by
  have hsame : d.file.id = r.fileId :=
    hlaw.tokens.agree (Mentions.deployed hd htoken rfl) (Mentions.served hr rfl rfl)
  rcases hlaw.store.deployed hd with ⟨content, hcontent, hsize, hdigest⟩
  have hbody := hlaw.store.served hr hstatus hcomplete
  rw [hsame] at hcontent
  have heq := hlaw.store.uploads hcontent hbody
  rw [heq]
  exact ⟨hsame, hsize, hdigest⟩

/-- In every run, a token is good for one response, and a complete response 200 is the
content that was uploaded for the file, of the size and with the digest that the command
which announces the token gives.  What the run leaves may be taken up by the next
process. -/
theorem served_files_are_intact (cfg : FileConfig) (wsEndpoint : String) (sessionTTL : Nat)
    (db : Database) (issued : List Uuid) (library : Library)
    (hkeyed : TablesKeyed db issued) (hstored : library.Stored cfg) (hissued : library.Issued)
    {es : List Event} {p : State}
    (hrun : (api cfg).run
      (boot (Backend.boot wsEndpoint sessionTTL db issued).shared library) es = some p) :
    (forall token, p.shared.library.served.countP (fun r => r.token = token) ≤ 1) ∧
    (forall r, r ∈ p.shared.library.served -> r.status = 200 -> r.complete = true ->
      (r.fileId, r.body) ∈ p.shared.library.uploaded ∧
      (forall content, (r.fileId, content) ∈ p.shared.library.uploaded -> content = r.body) ∧
      forall id caller d, (id, Origin.deploy caller d) ∈ p.shared.dispatched ->
        d.token = r.token ->
        d.file.id = r.fileId ∧ d.file.sizeBytes = r.body.length ∧
        d.file.checksumSha256 = cfg.sha256 r.body ∧
        (forall row, row ∈ p.shared.server.log.commands -> row.id = id ->
          row.type = CommandType.fileTransfer ∧ row.payload = cfg.transferPayload d) ∧
        (forall c msg sender, (c, msg, sender) ∈ p.shared.server.log.accepted ->
          carries msg id = true -> exists ts,
            msg = commandMessage id CommandType.fileTransfer (cfg.transferPayload d) ts)) ∧
    p.shared.library.Stored cfg ∧ p.shared.library.Issued := by
  obtain ⟨⟨_, haddressed⟩, hlaw⟩ := (transferLaw_preserved cfg).run
    ⟨⟨Backend.boot_hubSound _ _ _ _, addressed_api_boot hkeyed library⟩,
      transferLaw_boot hstored hissued⟩ Pool.meets_guarded_true hrun
  refine ⟨?_, ?_, hlaw.store.stored, hlaw.tokens.issued⟩
  · intro token
    have honce := hlaw.tokens.once token
    unfold responses Library.responses at honce
    omega
  · intro r hr hstatus hcomplete
    have hbody := hlaw.store.served hr hstatus hcomplete
    refine ⟨hbody, fun content hcontent => hlaw.store.uploads hbody hcontent, ?_⟩
    intro id caller d hd htoken
    rcases hlaw.announced hr hstatus hcomplete hd htoken with ⟨hfile, hsize, hdigest⟩
    refine ⟨hfile, hsize, hdigest, fun row hrow hid => hlaw.deploy.rows hd hrow hid, ?_⟩
    intro c msg sender hmem hcarries
    rcases haddressed.accepted hmem hcarries with ⟨_, row, hrow, hid, _, ts, hmsg⟩
    rcases hlaw.deploy.rows hd hrow hid with ⟨htype, hpayload⟩
    rw [hid, htype, hpayload] at hmsg
    exact ⟨ts, hmsg⟩

namespace Sample

def fileId : Uuid where
  text := "f1000000-0000-4000-8000-000000000002"
  canonical := by decide

def content : List UInt8 := [76, 101, 111]

/-- A user uploads a file: goroutine `i` stores it and inserts its row. -/
def upload (i : Nat) : List Event :=
  [PoolEvent.start (Request.createFile caller (some { file := some ("leo", content), name := "" })),
    go i, go i, go i, go i, go i,
    PoolEvent.exec i { input with uuid := fileId }]

/-- The file is deployed to the agent, with token `t`: goroutine `i` inserts the
command. -/
def deploy (i : Nat) : List Event :=
  [PoolEvent.start (Request.deployFile caller Backend.Sample.agent.text (some fileId.text)),
    go i, go i,
    PoolEvent.exec i { input with token := "t" },
    PoolEvent.exec i { input with server := { id := some Backend.Sample.command } }]

/-- The agent presents the token: goroutine `i` serves the file. -/
def download (i : Nat) : List Event :=
  [PoolEvent.start (Request.download fileId.text "t"), go i, go i, go i, go i]

/-- From the upload to the download, with the command in between. -/
def transferred : List Event :=
  upload 0 ++ connect 1 ++ deploy 3 ++ [go 3, go 3, go 3] ++ download 4

end Sample

theorem sample_stored : Sample.library.Stored Sample.config where
  paths := fun h => absurd h List.not_mem_nil
  rows := fun h => absurd h List.not_mem_nil
  uploads := fun h _ => absurd h List.not_mem_nil
  drawn := fun h => absurd h List.not_mem_nil
  served := fun h _ _ => absurd h List.not_mem_nil

theorem sample_issued : Sample.library.Issued where
  once := fun _ => Nat.zero_le 1
  drawn := fun h => absurd h List.not_mem_nil
  agree := fun h _ => absurd h List.not_mem_nil

theorem served_files_are_intact_transferred :
    exists p r d, (api Sample.config).run Sample.start Sample.transferred = some p ∧
      r ∈ p.shared.library.served ∧ (r.fileId, r.body) ∈ p.shared.library.uploaded ∧
      (Backend.Sample.command, Origin.deploy Sample.caller d) ∈ p.shared.dispatched ∧
      d.file.id = r.fileId ∧ d.file.sizeBytes = r.body.length ∧
      d.file.checksumSha256 = Sample.config.sha256 r.body := by
  obtain ⟨p, r, d, hrun, hr, hd, htoken, hstatus, hcomplete⟩ : exists p r d,
      (api Sample.config).run Sample.start Sample.transferred = some p ∧
        r ∈ p.shared.library.served ∧
        (Backend.Sample.command, Origin.deploy Sample.caller d) ∈ p.shared.dispatched ∧
        d.token = r.token ∧ r.status = 200 ∧ r.complete = true :=
    ⟨_, _, _, rfl, List.mem_cons_self, List.mem_cons_self, rfl, rfl, rfl⟩
  have hlaw := (served_files_are_intact _ _ _ _ _ _ sample_keyed sample_stored sample_issued
    hrun).right.left r hr hstatus hcomplete
  rcases hlaw.right.right _ _ _ hd htoken with ⟨hfile, hsize, hdigest, _⟩
  exact ⟨p, r, d, hrun, hr, hlaw.left, hd, hfile, hsize, hdigest⟩

end Api
end LeoOne
