import LeoOne.Foundation.History
import LeoOne.Api.Lifetime

/-!
# The life of a download token

The life of a token starts when `DeployFile` makes it, not when the command that
carries it is enqueued.  An agent that is offline gets the command when it is back,
however late, and then with a token that may have expired, or that went with its file.
This module says exactly when the token is alive at the moment of the `Send`.
-/

namespace LeoOne
namespace Api

open Foundation
open Wire
open Backend (Server Instr ConnCall CommandType Database Addressed carries commandMessage)

/-!
## Rows of tokens
-/

/-- The step uses the token of the row. -/
def marks (x : Input) (k : Step) (t : DownloadTokenRow) : Bool :=
  match k with
  | Step.file (FileStep.consumeToken _ token) =>
      token ≠ "" && !x.server.fails && Library.isConsumable token x.server.now t
  | _ => false

/-- The row after the step. -/
def mark (x : Input) (k : Step) (t : DownloadTokenRow) : DownloadTokenRow :=
  if marks x k t then { t with usedAt := some x.server.now } else t

@[simp] theorem mark_token (x : Input) (k : Step) (t : DownloadTokenRow) :
    (mark x k t).token = t.token := by
  unfold mark
  split <;> rfl

@[simp] theorem mark_fileId (x : Input) (k : Step) (t : DownloadTokenRow) :
    (mark x k t).fileId = t.fileId := by
  unfold mark
  split <;> rfl

@[simp] theorem mark_expiresAt (x : Input) (k : Step) (t : DownloadTokenRow) :
    (mark x k t).expiresAt = t.expiresAt := by
  unfold mark
  split <;> rfl

theorem mark_usedAt (x : Input) (k : Step) (t : DownloadTokenRow) :
    (mark x k t).usedAt ≠ none <-> t.usedAt ≠ none ∨ marks x k t = true := by
  unfold mark
  cases hmarks : marks x k t with
  | true =>
      simp
  | false =>
      simp

/-- The row of a new token. -/
def Input.newToken (x : Input) (cfg : FileConfig) (f : FileRow) : DownloadTokenRow where
  fileId := f.id
  token := x.token
  expiresAt := x.server.now + cfg.downloadTtl
  usedAt := none

/-- What a step does to the tables of the library, as far as tokens are concerned. -/
inductive TokenMove (cfg : FileConfig) (x : Input) (k : Step) (l l' : Library) : Prop where
  | kept : l'.files = l.files -> l'.tokens = l.tokens.map (mark x k) ->
      TokenMove cfg x k l l'
  | added {u path written tenant} :
      k = Step.file (FileStep.insertFile u path written) -> x.uuid ∉ l.names ->
      l'.files = l.files ++ [FileStep.newRow cfg x.file u path written tenant] ->
      l'.tokens = l.tokens.map (mark x k) -> TokenMove cfg x k l l'
  | deleted {tenant id : Uuid} : l.files.any (Library.isFile tenant id) = true ->
      l'.files = Table.deleteWhere (Library.isFile tenant id) l.files ->
      l'.tokens = Table.deleteWhere (fun t => t.fileId = id) (l.tokens.map (mark x k)) ->
      TokenMove cfg x k l l'
  | issued {caller agentId f} :
      k = Step.handler (HandlerStep.createDownloadToken caller agentId f) ->
      x.token ∉ l.drawn -> (l.files.any fun f' => f'.id = f.id) = true ->
      l'.files = l.files ->
      l'.tokens = l.tokens.map (mark x k) ++ [x.newToken cfg f] -> TokenMove cfg x k l l'

section Moves

variable {cfg : FileConfig} {x : Input} {k : Step}

theorem map_mark_other {tokens : List DownloadTokenRow} (h : forall t, marks x k t = false) :
    tokens.map (mark x k) = tokens := by
  have hid : forall t, mark x k t = t := by
    intro t
    unfold mark
    rw [h t]
    rfl
  rw [funext hid, List.map_id']

theorem consumed_map (l : Library) (token : String) (now : Nat) :
    (match l.consumeDownloadToken token now with
      | none => l.tokens
      | some (l', _) => l'.tokens) =
    l.tokens.map fun t =>
      if Library.isConsumable token now t then { t with usedAt := some now } else t := by
  unfold Library.consumeDownloadToken
  cases hfind : l.tokens.find? (Library.isConsumable token now) with
  | none =>
      have hnone := List.find?_eq_none.mp hfind
      symm
      apply (List.map_congr_left ?_).trans (List.map_id _)
      intro t ht
      rw [if_neg (hnone t ht)]
      rfl
  | some t =>
      rfl

/-- `ConsumeDownloadToken` marks what can be used, if anything. -/
theorem tokens_consume (cfg : FileConfig) (x : Input) (l : Library) (fileId token : String) :
    ((FileStep.consumeToken fileId token).exec cfg x.file l).1.files = l.files ∧
    ((FileStep.consumeToken fileId token).exec cfg x.file l).1.tokens =
      l.tokens.map (mark x (Step.file (FileStep.consumeToken fileId token))) := by
  have hother : (token = "" ∨ x.server.fails = true) ->
      l.tokens = l.tokens.map (mark x (Step.file (FileStep.consumeToken fileId token))) := by
    intro hno
    symm
    apply map_mark_other
    intro t
    rcases hno with rfl | hfails
    · rfl
    · simp only [marks, hfails, Bool.not_true, Bool.and_false, Bool.false_and]
  simp only [FileStep.exec]
  split
  · rename_i htoken
    exact ⟨rfl, hother (Or.inl htoken)⟩
  · rename_i htoken
    split
    · rename_i hfails
      exact ⟨rfl, hother (Or.inr hfails)⟩
    · rename_i hok
      have hfails : x.server.fails = false := by
        rw [← Bool.not_eq_true]
        exact hok
      have hmark : mark x (Step.file (FileStep.consumeToken fileId token)) = fun t =>
          if Library.isConsumable token x.file.now t then
            { t with usedAt := some x.file.now } else t := by
        funext t
        simp only [mark, marks, hfails, ne_eq, htoken, not_false_eq_true, decide_true,
          Bool.not_false, Bool.true_and]
        rfl
      rw [hmark, ← consumed_map l token x.file.now]
      cases hconsumed : l.consumeDownloadToken token x.file.now with
      | none =>
          exact ⟨rfl, rfl⟩
      | some marked =>
          have hfiles : marked.1.files = l.files := by
            rw [(Library.consumeDownloadToken_some hconsumed).right]
          exact ⟨hfiles, rfl⟩

/-- Another step of the library adds a row, deletes one with its tokens, or leaves the
tables alone. -/
theorem FileMove.tokenMove {l l' : Library} {f : FileStep} {cont : List FileStep}
    (hmove : FileMove cfg x.file l f l' cont)
    (hdraws : f.drawsUuid = true -> x.uuid ∉ l.names)
    (hother : forall fileId token, f ≠ FileStep.consumeToken fileId token) :
    TokenMove cfg x (Step.file f) l l' := by
  have hmark : l.tokens.map (mark x (Step.file f)) = l.tokens := by
    apply map_mark_other
    intro t
    cases f with
    | consumeToken fileId token =>
        exact absurd rfl (hother fileId token)
    | _ =>
        rfl
  cases hmove with
  | rowInserted =>
      exact TokenMove.added rfl (hdraws rfl) rfl hmark.symm
  | deleted hdelete =>
      rcases Library.delete_some hdelete with ⟨tenant, id, hfound, rfl⟩
      exact TokenMove.deleted hfound rfl (by rw [hmark])
  | consumed _ =>
      exact absurd rfl (hother _ _)
  | _ =>
      exact TokenMove.kept rfl hmark.symm

theorem tokenMove {s : Service} {o : Outcome Service Step}
    (hperform : k.perform cfg x s = some o) :
    TokenMove cfg x k s.library o.shared.library := by
  by_cases hconsume : exists fileId token, k = Step.file (FileStep.consumeToken fileId token)
  · rcases hconsume with ⟨fileId, token, rfl⟩
    simp only [Step.perform] at hperform
    split at hperform
    · cases hperform
    · cases hperform
      have htables := tokens_consume cfg x s.library fileId token
      exact TokenMove.kept htables.left htables.right
  · have hmark : s.library.tokens.map (mark x k) = s.library.tokens := by
      apply map_mark_other
      intro t
      unfold marks
      split
      · exact absurd ⟨_, _, rfl⟩ hconsume
      · rfl
    have hperforms := performs hperform
    generalize o.shared = t at hperforms
    generalize o.created = created at hperforms
    cases hperforms with
    | core _ | insert _ =>
        exact TokenMove.kept rfl hmark.symm
    | handler hdraws hmove =>
        rcases hmove.silent with ⟨hlibrary, _⟩ |
          ⟨caller, agentId, f, library, rfl, hcreate, rfl, _⟩
        · exact TokenMove.kept (by rw [hlibrary]) (by rw [hlibrary, hmark])
        · have hlibrary := Library.createDownloadToken_some hcreate
          refine TokenMove.issued rfl (hdraws rfl) ?_ ?_ ?_
          · unfold Library.createDownloadToken at hcreate
            split at hcreate
            · assumption
            · cases hcreate
          · rw [hlibrary]
          · rw [hmark, hlibrary]
            rfl
    | file hdraws hmove =>
        refine hmove.tokenMove hdraws ?_
        rintro fileId token rfl
        exact hconsume ⟨fileId, token, rfl⟩

end Moves

/-!
## The law
-/

/-- A call of `CreateAndDispatchCommand` for the deployment is pending, or it has been
made. -/
inductive Deployed (p : State) (d : Deployment) : Prop where
  | ordered {caller order} : p.Pending (Step.insert (Origin.deploy caller d) order) ->
      Deployed p d
  | dispatched {id caller} : (id, Origin.deploy caller d) ∈ p.shared.dispatched ->
      Deployed p d

theorem Deployed.mentions {p : State} {d : Deployment} (h : Deployed p d) :
    Mentions p d.token d.file.id := by
  cases h with
  | ordered hpending =>
      exact Mentions.pending hpending rfl
  | dispatched hmem =>
      exact Mentions.deployed hmem rfl rfl

/-- The file has a row. -/
def Library.HasFile (l : Library) (id : Uuid) : Prop :=
  exists f, f ∈ l.files ∧ f.id = id

/-- The token of a deployment is on record as long as its file is, with the expiry that
it was given. -/
structure LifeLaw (cfg : FileConfig) (p : State) : Prop where
  keys : forall {f f'}, f ∈ p.shared.library.files -> f' ∈ p.shared.library.files ->
    f.id = f'.id -> f = f'
  foreign : forall {t}, t ∈ p.shared.library.tokens -> p.shared.library.HasFile t.fileId
  expiry : forall {d t}, Deployed p d -> t ∈ p.shared.library.tokens ->
    t.token = d.token -> t.expiresAt = d.issuedAt + cfg.downloadTtl
  held : forall {d}, Deployed p d -> p.shared.library.HasFile d.file.id ->
    exists t, t ∈ p.shared.library.tokens ∧ t.token = d.token

section Steps

variable {cfg : FileConfig} {p p' : State} {x : Input} {k : Step} {o : Outcome Service Step}

/-- A deployment is made when its token is. -/
theorem deployed_old (hperform : k.perform cfg x p.shared = some o)
    (hexec : Pool.Executed p p' k o) {d : Deployment} (h : Deployed p' d) :
    Deployed p d ∨ exists caller agentId f,
      k = Step.handler (HandlerStep.createDownloadToken caller agentId f) ∧
      d = x.deployment f ∧ x.token ∉ p.shared.library.drawn ∧
      x.newToken cfg f ∈ p'.shared.library.tokens := by
  have hperforms := performs hperform
  have hshared := hexec.shared
  have hpending := fun {j} => hexec.pending (j := j)
  generalize o.shared = t at hshared hperforms
  generalize o.created = created at hpending hperforms
  have hcore : forall {js : List Instr} {caller order},
      Step.insert (Origin.deploy caller d) order ∉ js.map Step.core := by
    intro js caller order hmem
    rcases List.mem_map.mp hmem with ⟨_, _, heq⟩
    cases heq
  cases h with
  | ordered hj =>
      rcases hpending hj with hnew | hold
      · cases hperforms with
        | core _ | insert _ =>
            exact absurd hnew hcore
        | handler hdraws hmove =>
            rcases hmove.silent with ⟨_, hsilent⟩ |
              ⟨caller, agentId, f, library, rfl, hcreate, rfl, rfl⟩
            · have hnone := (hsilent _ hnew).right
              cases hnone
            · cases List.mem_singleton.mp hnew
              refine Or.inr ⟨_, _, f, rfl, rfl, hdraws rfl, ?_⟩
              rw [hshared, Library.createDownloadToken_some hcreate]
              exact List.mem_append_right _ List.mem_cons_self
        | file _ _ =>
            rcases List.mem_map.mp hnew with ⟨_, _, heq⟩
            cases heq
      · exact Or.inl (Deployed.ordered hold)
  | dispatched hmem =>
      rw [hshared] at hmem
      cases hperforms with
      | core _ =>
          exact Or.inl (Deployed.dispatched hmem)
      | insert _ =>
          simp only [Service.dispatch] at hmem
          split at hmem
          · rcases List.mem_cons.mp hmem with heq | hold
            · cases heq
              exact Or.inl (Deployed.ordered hexec.running)
            · exact Or.inl (Deployed.dispatched hold)
          · exact Or.inl (Deployed.dispatched hmem)
      | handler _ hmove =>
          rw [hmove.frame.right] at hmem
          exact Or.inl (Deployed.dispatched hmem)
      | file _ _ =>
          exact Or.inl (Deployed.dispatched hmem)

/-- Every row comes from a row before the step, or is that of a new token. -/
theorem TokenMove.row_old {l l' : Library} (hmove : TokenMove cfg x k l l')
    {t : DownloadTokenRow} (h : t ∈ l'.tokens) :
    (exists t0, t0 ∈ l.tokens ∧ t = mark x k t0) ∨
      (x.token ∉ l.drawn ∧ exists f, t = x.newToken cfg f ∧ l'.HasFile f.id) := by
  have hold : t ∈ l.tokens.map (mark x k) -> exists t0, t0 ∈ l.tokens ∧ t = mark x k t0 := by
    intro hmem
    rcases List.mem_map.mp hmem with ⟨t0, ht0, rfl⟩
    exact ⟨t0, ht0, rfl⟩
  cases hmove with
  | kept _ htokens | added _ _ _ htokens =>
      rw [htokens] at h
      exact Or.inl (hold h)
  | deleted _ _ htokens =>
      rw [htokens] at h
      exact Or.inl (hold (Table.mem_deleteWhere.mp h).left)
  | issued _ hfresh hfile hfiles htokens =>
      rw [htokens] at h
      rcases List.mem_append.mp h with hmem | hnew
      · exact Or.inl (hold hmem)
      · rcases List.any_eq_true.mp hfile with ⟨f', hf', hid⟩
        rw [← hfiles] at hf'
        exact Or.inr ⟨hfresh, _, List.mem_singleton.mp hnew, f', hf', of_decide_eq_true hid⟩

/-- A file that has a row had one before the step, or is new. -/
theorem TokenMove.file_old {l l' : Library} (hmove : TokenMove cfg x k l l') {f : FileRow}
    (h : f ∈ l'.files) : f ∈ l.files ∨ (f.id = x.uuid ∧ x.uuid ∉ l.names) := by
  cases hmove with
  | kept hfiles _ | issued _ _ _ hfiles _ =>
      rw [hfiles] at h
      exact Or.inl h
  | added _ hnew hfiles _ =>
      rw [hfiles] at h
      rcases List.mem_append.mp h with hmem | hlast
      · exact Or.inl hmem
      · rw [List.mem_singleton.mp hlast]
        exact Or.inr ⟨rfl, hnew⟩
  | deleted _ hfiles _ =>
      rw [hfiles] at h
      exact Or.inl (Table.mem_deleteWhere.mp h).left

/-- The tokens of a file that keeps its row are kept. -/
theorem TokenMove.row_kept {l l' : Library} (hmove : TokenMove cfg x k l l')
    (hkeys : forall {f f'}, f ∈ l.files -> f' ∈ l.files -> f.id = f'.id -> f = f')
    {t : DownloadTokenRow} (ht : t ∈ l.tokens) {f : FileRow} (hf : f ∈ l.files)
    (hf' : f ∈ l'.files) (hid : f.id = t.fileId) : mark x k t ∈ l'.tokens := by
  have hmem : mark x k t ∈ l.tokens.map (mark x k) := List.mem_map_of_mem ht
  cases hmove with
  | kept _ htokens | added _ _ _ htokens =>
      rw [htokens]
      exact hmem
  | issued _ _ _ _ htokens =>
      rw [htokens]
      exact List.mem_append_left _ hmem
  | deleted hfound hfiles htokens =>
      rename_i tenant id
      rw [htokens]
      refine Table.mem_deleteWhere.mpr ⟨hmem, ?_⟩
      rw [mark_fileId, decide_eq_false_iff_not]
      intro heq
      -- the row that was deleted would be this one
      rcases List.any_eq_true.mp hfound with ⟨g, hg, hselected⟩
      have hgid := of_decide_eq_true (Bool.and_eq_true_iff.mp hselected).left
      have hsame := hkeys hf hg (hid.trans (heq.trans hgid.symm))
      rw [hfiles] at hf'
      have hkept := (Table.mem_deleteWhere.mp hf').right
      rw [hsame, hselected] at hkept
      cases hkept

/-- A file that has a row keeps it, or loses its tokens. -/
theorem TokenMove.file_kept {l l' : Library} (hmove : TokenMove cfg x k l l') {f : FileRow}
    (hf : f ∈ l.files) {t : DownloadTokenRow} (ht : mark x k t ∈ l'.tokens)
    (hid : f.id = t.fileId) : f ∈ l'.files := by
  cases hmove with
  | kept hfiles _ | issued _ _ _ hfiles _ =>
      rw [hfiles]
      exact hf
  | added _ _ hfiles _ =>
      rw [hfiles]
      exact List.mem_append_left _ hf
  | deleted _ hfiles htokens =>
      rename_i tenant id
      rw [htokens] at ht
      have hother := (Table.mem_deleteWhere.mp ht).right
      rw [mark_fileId, decide_eq_false_iff_not] at hother
      rw [hfiles]
      refine Table.mem_deleteWhere.mpr ⟨hf, ?_⟩
      unfold Library.isFile
      rw [hid, decide_eq_false hother, Bool.false_and]

/-- The identifiers of the rows have been drawn, and so have those of the deployments. -/
theorem StoreLaw.row_drawn (hlaw : StoreLaw cfg p) {f : FileRow}
    (hf : f ∈ p.shared.library.files) : f.id ∈ p.shared.library.names := by
  rcases hlaw.rows hf with ⟨content, ⟨huploaded, _⟩, _⟩
  exact hlaw.drawn huploaded

theorem StoreLaw.deployed_drawn (hlaw : StoreLaw cfg p) {d : Deployment}
    (hd : Deployed p d) : d.file.id ∈ p.shared.library.names := by
  cases hd with
  | ordered hpending =>
      rcases hlaw.fit hpending with ⟨content, huploaded, _⟩
      exact hlaw.drawn huploaded
  | dispatched hmem =>
      rcases hlaw.deployed hmem with ⟨content, huploaded, _⟩
      exact hlaw.drawn huploaded

theorem LifeLaw.keys_step (hlaw : LifeLaw cfg p) (hstore : StoreLaw cfg p)
    (hmove : TokenMove cfg x k p.shared.library p'.shared.library) {f f' : FileRow}
    (hf : f ∈ p'.shared.library.files) (hf' : f' ∈ p'.shared.library.files)
    (hid : f.id = f'.id) : f = f' := by
  rcases hmove.file_old hf with hold | ⟨hnew, hfresh⟩
  · rcases hmove.file_old hf' with hold' | ⟨hnew', hfresh'⟩
    · exact hlaw.keys hold hold' hid
    · rw [← hnew', ← hid] at hfresh'
      exact absurd (hstore.row_drawn hold) hfresh'
  · rcases hmove.file_old hf' with hold' | ⟨_, _⟩
    · rw [← hnew, hid] at hfresh
      exact absurd (hstore.row_drawn hold') hfresh
    · -- one row is added
      cases hmove with
      | kept hfiles _ | issued _ _ _ hfiles _ =>
          rw [hfiles] at hf hf'
          exact hlaw.keys hf hf' hid
      | deleted _ hfiles _ =>
          rw [hfiles] at hf hf'
          exact hlaw.keys (Table.mem_deleteWhere.mp hf).left (Table.mem_deleteWhere.mp hf').left
            hid
      | added _ _ hfiles _ =>
          rw [hfiles] at hf hf'
          rw [← hnew] at hfresh
          rcases List.mem_append.mp hf with hmem | hlast
          · exact absurd (hstore.row_drawn hmem) hfresh
          · rcases List.mem_append.mp hf' with hmem' | hlast'
            · rw [hid] at hfresh
              exact absurd (hstore.row_drawn hmem') hfresh
            · rw [List.mem_singleton.mp hlast, List.mem_singleton.mp hlast']

theorem LifeLaw.step (hlaw : LifeLaw cfg p) (hstore : StoreLaw cfg p) (htokens : TokenLaw p)
    (hperform : k.perform cfg x p.shared = some o) (hexec : Pool.Executed p p' k o) :
    LifeLaw cfg p' := by
  have hmove : TokenMove cfg x k p.shared.library p'.shared.library := by
    rw [hexec.shared]
    exact tokenMove hperform
  have hdrawn : forall {t}, t ∈ p.shared.library.tokens -> t.token ∈ p.shared.library.drawn :=
    fun ht => htokens.drawn (Mentions.row ht rfl rfl)
  refine ⟨hlaw.keys_step hstore hmove, ?_, ?_, ?_⟩
  · intro t ht
    rcases hmove.row_old ht with ⟨t0, ht0, rfl⟩ | ⟨_, f, rfl, hfile⟩
    · rcases hlaw.foreign ht0 with ⟨f, hf, hid⟩
      rw [mark_fileId]
      exact ⟨f, hmove.file_kept hf ht hid, hid⟩
    · exact hfile
  · intro d t hd ht htoken
    rcases deployed_old hperform hexec hd with hold | ⟨caller, agentId, f, rfl, rfl, hfresh, _⟩
    · rcases hmove.row_old ht with ⟨t0, ht0, rfl⟩ | ⟨hfresh, f, rfl, _⟩
      · rw [mark_token] at htoken
        rw [mark_expiresAt]
        exact hlaw.expiry hold ht0 htoken
      · have hmentioned := htokens.drawn hold.mentions
        rw [← htoken] at hmentioned
        exact absurd hmentioned hfresh
    · rcases hmove.row_old ht with ⟨t0, ht0, heq⟩ | ⟨_, f', rfl, _⟩
      · rw [heq, mark_token] at htoken
        have hmem := hdrawn ht0
        rw [htoken] at hmem
        exact absurd hmem hfresh
      · rfl
  · intro d hd hfile
    rcases deployed_old hperform hexec hd with hold | ⟨caller, agentId, f, rfl, rfl, _, hnew⟩
    · rcases hfile with ⟨f, hf, hid⟩
      rcases hmove.file_old hf with hf0 | ⟨hnew, hfresh⟩
      · rcases hlaw.held hold ⟨f, hf0, hid⟩ with ⟨t, ht, htoken⟩
        have hsame : t.fileId = d.file.id :=
          htokens.agree (Mentions.row ht htoken rfl) hold.mentions
        refine ⟨mark x k t, hmove.row_kept hlaw.keys ht hf0 hf (hid.trans hsame.symm), ?_⟩
        rw [mark_token]
        exact htoken
      · rw [← hnew, hid] at hfresh
        exact absurd (hstore.deployed_drawn hold) hfresh
    · exact ⟨_, hnew, rfl⟩

theorem deployed_start {r : Request} (hstep : Pool.Started p p' (entry r)) {d : Deployment}
    (hd : Deployed p' d) : Deployed p d := by
  cases hd with
  | ordered hpending =>
      rcases hstep.pending hpending with hnew | hold
      · have hnone := (silent_entry r _ hnew).right
        cases hnone
      · exact Deployed.ordered hold
  | dispatched hmem =>
      rw [hstep.shared] at hmem
      exact Deployed.dispatched hmem

theorem deployed_restart {wsEndpoint : String} {sessionTTL : Nat} {d : Deployment}
    (hd : Deployed (restart wsEndpoint sessionTTL p) d) : Deployed p d := by
  cases hd with
  | ordered hpending =>
      exact absurd hpending restart_no_pending
  | dispatched hmem =>
      exact Deployed.dispatched hmem

/-- Where the tables stay as they are, there is nothing to do for the law. -/
theorem LifeLaw.other (hlaw : LifeLaw cfg p) (hlibrary : p'.shared.library = p.shared.library)
    (hdeployed : forall {d}, Deployed p' d -> Deployed p d) : LifeLaw cfg p' := by
  refine ⟨?_, ?_, ?_, ?_⟩
  · rw [hlibrary]
    exact hlaw.keys
  · rw [hlibrary]
    exact hlaw.foreign
  · intro d t hd ht htoken
    rw [hlibrary] at ht
    exact hlaw.expiry (hdeployed hd) ht htoken
  · intro d hd hfile
    rw [hlibrary] at hfile ⊢
    exact hlaw.held (hdeployed hd) hfile

end Steps

/-!
## What has happened to a token
-/

/-- A download with the token reaches the `UPDATE` of `ConsumeDownloadToken` in time. -/
def Presents (cfg : FileConfig) (d : Deployment) (p : State) (e : Happening) : Prop :=
  exists i x fileId rest, e = Happening.step (PoolEvent.exec i x) ∧
    p.head? i = some (Step.file (FileStep.consumeToken fileId d.token), rest) ∧
    d.token ≠ "" ∧ x.server.fails = false ∧ d.token ∈ p.shared.library.drawn ∧
    x.server.now < d.issuedAt + cfg.downloadTtl

/-- Exactly the tokens that were presented in time are marked as used. -/
structure UseLaw (cfg : FileConfig) (init : State) (xs : List Happening) (p : State) :
    Prop where
  drawn : forall {d}, (lifetime cfg).Occurs (Presents cfg d) init xs ->
    d.token ∈ p.shared.library.drawn
  used : forall {d t}, Deployed p d -> t ∈ p.shared.library.tokens -> t.token = d.token ->
    (t.usedAt ≠ none <-> (lifetime cfg).Occurs (Presents cfg d) init xs)

section Use

variable {cfg : FileConfig} {init p p' : State} {xs : List Happening} {x : Input} {k : Step}
  {o : Outcome Service Step}

theorem Performs.drawn_mono {s t : Service} {created : List Step}
    (hperforms : Performs cfg x s k t created) {token : String} (h : token ∈ s.library.drawn) :
    token ∈ t.library.drawn := by
  cases hperforms with
  | core _ | insert _ =>
      exact h
  | handler _ hmove =>
      rcases hmove.silent with ⟨hlibrary, _⟩ | ⟨_, _, _, library, _, hcreate, rfl, _⟩
      · rw [hlibrary]
        exact h
      · rw [Library.createDownloadToken_some hcreate]
        exact List.mem_cons_of_mem _ h
  | file _ hmove =>
      rw [hmove.drawn_eq]
      exact h

/-- The step marks the row of a deployment exactly if it presents its token, unless it
was used before. -/
theorem marks_iff_presents {i : Nat} {rest : List Step} (hhead : p.head? i = some (k, rest))
    {d : Deployment} (hdrawn : d.token ∈ p.shared.library.drawn) {t : DownloadTokenRow}
    (htoken : t.token = d.token) (hexpiry : t.expiresAt = d.issuedAt + cfg.downloadTtl) :
    (t.usedAt ≠ none ∨ marks x k t = true) <->
      (t.usedAt ≠ none ∨ Presents cfg d p (Happening.step (PoolEvent.exec i x))) := by
  constructor
  · rintro (hused | hmarks)
    · exact Or.inl hused
    · right
      unfold marks at hmarks
      split at hmarks
      · rename_i fileId token
        rcases Bool.and_eq_true_iff.mp hmarks with ⟨hgiven, hconsumable⟩
        rcases Bool.and_eq_true_iff.mp hgiven with ⟨hnonempty, hok⟩
        rcases Bool.and_eq_true_iff.mp hconsumable with ⟨hunused, htime⟩
        have hsame := of_decide_eq_true (Bool.and_eq_true_iff.mp hunused).left
        rw [htoken] at hsame
        subst hsame
        rw [hexpiry] at htime
        exact ⟨i, x, fileId, rest, rfl, hhead, of_decide_eq_true hnonempty,
          Bool.not_eq_true' _ ▸ hok, hdrawn, of_decide_eq_true htime⟩
      · cases hmarks
  · rintro (hused | ⟨i', x', fileId, rest', heq, hhead', hnonempty, hok, _, htime⟩)
    · exact Or.inl hused
    · cases heq
      rw [hhead] at hhead'
      cases hhead'
      cases hunused : t.usedAt with
      | some n =>
          exact Or.inl (Option.some_ne_none n)
      | none =>
          right
          simp only [marks, Library.isConsumable, hok, htoken, hunused, hexpiry, hnonempty, htime,
            ne_eq, not_false_eq_true, decide_true, Bool.not_false, Bool.and_self,
            Option.isNone_none]

theorem UseLaw.step (hlaw : UseLaw cfg init xs p) (hlife : LifeLaw cfg p)
    (htokens : TokenLaw p) (hrun : (lifetime cfg).run init xs = some p) {i : Nat}
    {rest : List Step} (hhead : p.head? i = some (k, rest))
    (hperform : k.perform cfg x p.shared = some o) (hexec : Pool.Executed p p' k o) :
    UseLaw cfg init (xs ++ [Happening.step (PoolEvent.exec i x)]) p' := by
  have hmono : forall {token}, token ∈ p.shared.library.drawn ->
      token ∈ p'.shared.library.drawn := by
    rw [hexec.shared]
    exact (performs hperform).drawn_mono
  have hmove : TokenMove cfg x k p.shared.library p'.shared.library := by
    rw [hexec.shared]
    exact tokenMove hperform
  have hbefore : forall {d}, (lifetime cfg).Occurs (Presents cfg d) init
      (xs ++ [Happening.step (PoolEvent.exec i x)]) -> d.token ∈ p.shared.library.drawn := by
    intro d hoccurs
    rcases (Machine.occurs_concat hrun).mp hoccurs with hearlier | ⟨_, _, _, _, _, _, _, _, h, _⟩
    · exact hlaw.drawn hearlier
    · exact h
  refine ⟨fun h => hmono (hbefore h), ?_⟩
  intro d t hd ht htoken
  rcases deployed_old hperform hexec hd with hold | ⟨caller, agentId, f, rfl, rfl, hfresh, _⟩
  · have hdrawn := htokens.drawn hold.mentions
    rcases hmove.row_old ht with ⟨t0, ht0, heq⟩ | ⟨hfresh, f, rfl, _⟩
    · rw [heq, mark_token] at htoken
      rw [heq, mark_usedAt, Machine.occurs_concat hrun,
        marks_iff_presents hhead hdrawn htoken (hlife.expiry hold ht0 htoken),
        hlaw.used hold ht0 htoken]
    · rw [← htoken] at hdrawn
      exact absurd hdrawn hfresh
  · rcases hmove.row_old ht with ⟨t0, ht0, heq⟩ | ⟨_, f', rfl, _⟩
    · rw [heq, mark_token] at htoken
      have hmem := htokens.drawn (Mentions.row ht0 htoken rfl)
      exact absurd hmem hfresh
    · constructor
      · intro hused
        exact absurd rfl hused
      · intro hoccurs
        exact absurd (hbefore hoccurs) hfresh

/-- Steps that are not those of a goroutine present no token. -/
theorem UseLaw.other (hlaw : UseLaw cfg init xs p) (hrun : (lifetime cfg).run init xs = some p)
    {e : Happening} (hother : forall i x, e ≠ Happening.step (PoolEvent.exec i x))
    (hlibrary : p'.shared.library = p.shared.library)
    (hdeployed : forall {d}, Deployed p' d -> Deployed p d) :
    UseLaw cfg init (xs ++ [e]) p' := by
  have hsame : forall {d}, (lifetime cfg).Occurs (Presents cfg d) init (xs ++ [e]) <->
      (lifetime cfg).Occurs (Presents cfg d) init xs := by
    intro d
    rw [Machine.occurs_concat hrun]
    apply or_iff_left
    rintro ⟨i, x, _, _, heq, _⟩
    exact hother i x heq
  constructor
  · intro d hoccurs
    rw [hlibrary]
    exact hlaw.drawn (hsame.mp hoccurs)
  · intro d t hd ht htoken
    rw [hsame]
    rw [hlibrary] at ht
    exact hlaw.used (hdeployed hd) ht htoken

end Use

/-!
## The laws in every run
-/

/-- The primary key of the files, and the foreign key of their tokens. -/
structure Library.Keyed (l : Library) : Prop where
  files : (l.files.map FileRow.id).Nodup
  tokens : forall t, t ∈ l.tokens -> l.HasFile t.fileId

/-- What a run leaves. -/
structure HistoryLaw (cfg : FileConfig) (init : State) (xs : List Happening) (p : State) :
    Prop where
  lifetime : LifetimeLaw cfg p
  life : LifeLaw cfg p
  use : UseLaw cfg init xs p

section Runs

variable {cfg : FileConfig} {init p p' : State} {xs : List Happening}

theorem boot_not_deployed {server : Server} {library : Library} {d : Deployment} :
    ¬ Deployed (boot server library) d := by
  intro hd
  cases hd with
  | ordered hpending =>
      exact boot_no_pending hpending
  | dispatched hmem =>
      cases hmem

theorem lifeLaw_boot {server : Server} {library : Library} (hkeyed : library.Keyed) :
    LifeLaw cfg (boot server library) where
  keys := fun hf hf' hid => List.inj_on_of_nodup_map hkeyed.files hf hf' hid
  foreign := fun ht => hkeyed.tokens _ ht
  expiry := fun hd _ _ => absurd hd boot_not_deployed
  held := fun hd _ => absurd hd boot_not_deployed

theorem useLaw_boot {server : Server} {library : Library} :
    UseLaw cfg (boot server library) [] (boot server library) where
  drawn := fun hoccurs => hoccurs.elim
  used := fun hd _ _ => absurd hd boot_not_deployed

theorem HistoryLaw.step (hlaw : HistoryLaw cfg init xs p)
    (hrun : (Api.lifetime cfg).run init xs = some p) {e : Happening}
    (hstep : (Api.lifetime cfg).step p e = some p') : HistoryLaw cfg init (xs ++ [e]) p' := by
  cases e with
  | restart wsEndpoint sessionTTL =>
      cases hstep
      refine ⟨hlaw.lifetime.restart _ _, hlaw.life.other rfl deployed_restart,
        hlaw.use.other hrun ?_ rfl deployed_restart⟩
      intro i x heq
      cases heq
  | step e =>
      have hlifetime : LifetimeLaw cfg p' := hlaw.lifetime.step hstep
      rcases Pool.step_cases hstep with ⟨r, rfl, rfl⟩ |
        ⟨i, x, k, rest, o, rfl, hhead, hperform, rfl⟩
      · have hstarted := Pool.started p (entry r)
        refine ⟨hlifetime, hlaw.life.other rfl (deployed_start hstarted),
          hlaw.use.other hrun ?_ rfl (deployed_start hstarted)⟩
        intro i x heq
        cases heq
      · have hexec := Pool.executed hhead o
        have htransfer := hlaw.lifetime.transfer
        exact ⟨hlifetime, hlaw.life.step htransfer.store htransfer.tokens hperform hexec,
          hlaw.use.step hlaw.life htransfer.tokens hrun hhead hperform hexec⟩

theorem historyLaw_run {wsEndpoint : String} {sessionTTL : Nat} {db : Database}
    {issued : List Uuid} {library : Library} (htables : TablesKeyed db issued)
    (hstored : library.Stored cfg) (hissued : library.Issued) (hkeyed : library.Keyed)
    (hinit : init = boot (Backend.boot wsEndpoint sessionTTL db issued).shared library)
    (hrun : (lifetime cfg).run init xs = some p) : HistoryLaw cfg init xs p := by
  refine Machine.run_induction ?_ ?_ hrun
  · subst hinit
    exact ⟨lifetimeLaw_boot htables hstored hissued, lifeLaw_boot hkeyed, useLaw_boot⟩
  · intro ys e r t hbefore hlaw hstep
    exact hlaw.step hbefore hstep

end Runs

/-!
## The token of a command that is enqueued
-/

/-- The token can be used at that time: a row passes the `WHERE` clause of
`ConsumeDownloadToken`. -/
def Library.Alive (l : Library) (token : String) (now : Nat) : Prop :=
  exists t, t ∈ l.tokens ∧ Library.isConsumable token now t = true

/-- A `Send` puts a message that carries the command into the channel of a connection. -/
structure Enqueues (p : State) (e : Happening) (id : Uuid) (msg : Envelope) (now : Nat) :
    Prop where
  carries : carries msg id = true
  sends : exists i x c sender rest client, e = Happening.step (PoolEvent.exec i x) ∧
    x.server.now = now ∧
    p.head? i = some (Step.core (Instr.conn (ConnCall.send c msg sender)), rest) ∧
    (p.shared.server.hub.heap c).send msg = some (client, true)

/-- A step of the run enqueues a command that `DeployFile` has created. -/
inductive Transfers (cfg : FileConfig) (init : State) (es xs : List Happening) (p : State)
    (id : Uuid) (d : Deployment) (msg : Envelope) (now : Nat) : Prop where
  | enqueued {e ys caller} : es = xs ++ e :: ys -> (lifetime cfg).run init xs = some p ->
      (id, Origin.deploy caller d) ∈ p.shared.dispatched -> Enqueues p e id msg now ->
      Transfers cfg init es xs p id d msg now

/-- At that time the token is younger than its time to live, its file has not been
deleted, and no download has presented it. -/
structure Deliverable (cfg : FileConfig) (init : State) (xs : List Happening) (p : State)
    (d : Deployment) (now : Nat) : Prop where
  young : now < d.issuedAt + cfg.downloadTtl
  file : p.shared.library.HasFile d.file.id
  untouched : ¬ (lifetime cfg).Occurs (Presents cfg d) init xs

section Sent

variable {cfg : FileConfig} {init p : State} {xs : List Happening} {d : Deployment}

theorem HistoryLaw.deliverable_of_alive (hlaw : HistoryLaw cfg init xs p) (hd : Deployed p d)
    {now : Nat} (halive : p.shared.library.Alive d.token now) :
    Deliverable cfg init xs p d now := by
  rcases halive with ⟨t, ht, hconsumable⟩
  rcases Bool.and_eq_true_iff.mp hconsumable with ⟨hunused, htime⟩
  rcases Bool.and_eq_true_iff.mp hunused with ⟨htoken, hnone⟩
  have htoken := of_decide_eq_true htoken
  have hfile : t.fileId = d.file.id :=
    hlaw.lifetime.transfer.tokens.agree (Mentions.row ht htoken rfl) hd.mentions
  refine ⟨?_, ?_, ?_⟩
  · rw [← hlaw.life.expiry hd ht htoken]
    exact of_decide_eq_true htime
  · rw [← hfile]
    exact hlaw.life.foreign ht
  · rw [← hlaw.use.used hd ht htoken, not_not]
    exact Option.isNone_iff_eq_none.mp hnone

theorem HistoryLaw.alive_of_deliverable (hlaw : HistoryLaw cfg init xs p) (hd : Deployed p d)
    {now : Nat} (hdeliverable : Deliverable cfg init xs p d now) :
    p.shared.library.Alive d.token now := by
  rcases hlaw.life.held hd hdeliverable.file with ⟨t, ht, htoken⟩
  have hunused : t.usedAt = none := by
    by_contra hused
    exact hdeliverable.untouched ((hlaw.use.used hd ht htoken).mp hused)
  have htime : now < t.expiresAt := by
    rw [hlaw.life.expiry hd ht htoken]
    exact hdeliverable.young
  refine ⟨t, ht, ?_⟩
  simp only [Library.isConsumable, htoken, hunused, htime, decide_true, Option.isNone_none,
    Bool.and_self]

/-- The message is that of `DeployFile`, and has the token in its link. -/
theorem HistoryLaw.message (hlaw : HistoryLaw cfg init xs p) {id : Uuid} {caller : Caller}
    (hd : (id, Origin.deploy caller d) ∈ p.shared.dispatched) {e : Happening} {msg : Envelope}
    {now : Nat} (henqueues : Enqueues p e id msg now) :
    exists ts, msg = commandMessage id CommandType.fileTransfer (cfg.transferPayload d) ts := by
  rcases henqueues.sends with ⟨i, x, c, sender, rest, client, _, _, hhead, _⟩
  have hpending := pending_serverPart (Pool.pending_of_head? hhead) rfl
  have hmarks := (hlaw.lifetime.addressed.labelled _ _ _ hpending rfl id).mp henqueues.carries
  obtain ⟨r, hr, hid, _, ts, hmsg⟩ :=
    hlaw.lifetime.addressed.sending hpending (decide_eq_true hmarks)
  rcases hlaw.lifetime.transfer.deploy.rows hd hr hid with ⟨htype, hpayload⟩
  rw [hid, htype, hpayload] at hmsg
  exact ⟨ts, hmsg⟩

end Sent

/-- In every run, restarts included, the message that a `Send` enqueues for a command of
`DeployFile` has the link with its token, and the token is alive at that time exactly if
it is younger than its time to live, its file is there and no download has presented it. -/
theorem transfer_alive_iff_deliverable (cfg : FileConfig) (wsEndpoint : String)
    (sessionTTL : Nat) (db : Database) (issued : List Uuid) (library : Library)
    (htables : TablesKeyed db issued) (hstored : library.Stored cfg) (hissued : library.Issued)
    (hkeyed : library.Keyed) (init : State)
    (hinit : init = boot (Backend.boot wsEndpoint sessionTTL db issued).shared library)
    (es : List Happening) :
    (forall xs p id d msg now, Transfers cfg init es xs p id d msg now ->
      (exists ts, msg = commandMessage id CommandType.fileTransfer (cfg.transferPayload d) ts) ∧
      (p.shared.library.Alive d.token now <-> Deliverable cfg init xs p d now)) ∧
    ((forall xs p id d msg now, Transfers cfg init es xs p id d msg now ->
        p.shared.library.Alive d.token now) <->
      (forall xs p id d msg now, Transfers cfg init es xs p id d msg now ->
        Deliverable cfg init xs p d now)) := by
  have hsend : forall xs p id d msg now, Transfers cfg init es xs p id d msg now ->
      (exists ts, msg = commandMessage id CommandType.fileTransfer (cfg.transferPayload d) ts) ∧
      (p.shared.library.Alive d.token now <-> Deliverable cfg init xs p d now) := by
    intro xs p id d msg now htransfers
    cases htransfers with
    | enqueued _ hrun hd henqueues =>
        have hlaw := historyLaw_run htables hstored hissued hkeyed hinit hrun
        have hdeployed : Deployed p d := Deployed.dispatched hd
        exact ⟨hlaw.message hd henqueues, hlaw.deliverable_of_alive hdeployed,
          hlaw.alive_of_deliverable hdeployed⟩
  refine ⟨hsend, ?_, ?_⟩
  · intro halive xs p id d msg now htransfers
    exact (hsend xs p id d msg now htransfers).right.mp
      (halive xs p id d msg now htransfers)
  · intro hdeliverable xs p id d msg now htransfers
    exact (hsend xs p id d msg now htransfers).right.mpr
      (hdeliverable xs p id d msg now htransfers)

/-- The next step of goroutine `i` enqueues the command. -/
def enqueues (p : State) (i : Nat) (id : Uuid) : Bool :=
  match p.head? i with
  | some (Step.core (Instr.conn (ConnCall.send c msg _)), _) =>
      carries msg id && ((p.shared.server.hub.heap c).send msg).any Prod.snd
  | _ => false

theorem enqueues_of {p : State} {i : Nat} {id : Uuid} (h : enqueues p i id = true) (x : Input) :
    exists msg, Enqueues p (Happening.step (PoolEvent.exec i x)) id msg x.server.now := by
  unfold enqueues at h
  split at h
  · rename_i c msg sender rest hhead
    rcases Bool.and_eq_true_iff.mp h with ⟨hcarries, hsends⟩
    rcases (Option.any_eq_true _ _).mp hsends with ⟨⟨client, sent⟩, hsend, rfl⟩
    exact ⟨msg, hcarries, i, x, c, sender, rest, client, rfl, rfl, hhead, hsend⟩
  · cases h

namespace Sample

def deployment : Deployment where
  file :=
    { id := fileId
      tenantId := Backend.Sample.tenant
      name := "leo"
      sizeBytes := 3
      checksumSha256 := "3"
      storagePath := config.storagePath diskName
      uploadedBy := some "user"
      createdAt := 0 }
  token := "t"
  issuedAt := 0

def later (now i : Nat) : Happening :=
  Happening.step (PoolEvent.exec i { input with server := { now := now } })

/-- The file is deployed while the agent is offline.  The agent connects and says HELLO at
that time, and what comes next is the `Send` of the command. -/
def redelivery (now : Nat) : List Happening :=
  (upload 0 ++ deploy 1 ++ [go 1]).map Happening.step ++
    [Happening.step
        (PoolEvent.start (Request.server (Backend.Request.connect Backend.Sample.cert))),
      later now 2, later now 2, later now 2,
      Happening.step (PoolEvent.exec 2
        { input with
          server := { now := now, message := some (Backend.Incoming.hello "m1" true) } }),
      later now 2, later now 2, later now 2]

/-- The command of the deployment is next, and its token is alive or not. -/
def isSent (now : Nat) (alive : Bool) (p : State) : Bool :=
  enqueues p 2 Backend.Sample.command &&
    decide ((Backend.Sample.command, Origin.deploy caller deployment) ∈ p.shared.dispatched) &&
    p.shared.library.tokens.any (Library.isConsumable deployment.token now) == alive

end Sample

theorem sample_library_keyed : Sample.library.Keyed where
  files := List.nodup_nil
  tokens := fun _ h => absurd h List.not_mem_nil

theorem redelivery_transfers (now : Nat) (alive : Bool)
    (h : ((lifetime Sample.config).run Sample.start (Sample.redelivery now)).any
      (Sample.isSent now alive) = true) :
    exists p msg, Transfers Sample.config Sample.start
        (Sample.redelivery now ++ [Sample.later now 2]) (Sample.redelivery now) p
        Backend.Sample.command Sample.deployment msg now ∧
      (p.shared.library.Alive Sample.deployment.token now <-> alive = true) := by
  rcases (Option.any_eq_true _ _).mp h with ⟨p, hrun, hsent⟩
  rcases Bool.and_eq_true_iff.mp hsent with ⟨hfound, halive⟩
  rcases Bool.and_eq_true_iff.mp hfound with ⟨henqueues, hd⟩
  rcases enqueues_of henqueues { Sample.input with server := { now := now } } with ⟨msg, hmsg⟩
  refine ⟨p, msg, Transfers.enqueued rfl hrun (of_decide_eq_true hd) hmsg, ?_⟩
  rw [← beq_iff_eq.mp halive]
  exact List.any_eq_true.symm

theorem transfer_alive_iff_deliverable_in_time :
    exists p msg, Transfers Sample.config Sample.start
        (Sample.redelivery 60 ++ [Sample.later 60 2]) (Sample.redelivery 60) p
        Backend.Sample.command Sample.deployment msg 60 ∧
      (exists ts, msg = commandMessage Backend.Sample.command CommandType.fileTransfer
        (Sample.config.transferPayload Sample.deployment) ts) ∧
      Deliverable Sample.config Sample.start (Sample.redelivery 60) p Sample.deployment 60 := by
  rcases redelivery_transfers 60 true (by decide +kernel) with ⟨p, msg, htransfers, halive⟩
  obtain ⟨hmsg, hiff⟩ := (transfer_alive_iff_deliverable _ _ _ _ _ _ sample_keyed sample_stored
    sample_issued sample_library_keyed _ rfl _).left _ _ _ _ _ _ htransfers
  exact ⟨p, msg, htransfers, hmsg, hiff.mp (halive.mpr rfl)⟩

/-- After two hours the agent gets a link that it cannot use. -/
theorem redelivered_token_expired :
    exists p msg, Transfers Sample.config Sample.start
        (Sample.redelivery 8000 ++ [Sample.later 8000 2]) (Sample.redelivery 8000) p
        Backend.Sample.command Sample.deployment msg 8000 ∧
      ¬ p.shared.library.Alive Sample.deployment.token 8000 := by
  rcases redelivery_transfers 8000 false (by decide +kernel) with ⟨p, msg, htransfers, halive⟩
  exact ⟨p, msg, htransfers, fun h => Bool.false_ne_true (halive.mp h)⟩

end Api
end LeoOne
