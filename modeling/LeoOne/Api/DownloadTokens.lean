import LeoOne.Api.ServerPart

/-!
# Download tokens

A token is drawn once, for one file.  It is unused, or a handler that has consumed it
is on its way to a response, or the response has been written: the three are counted
together, and no step makes the sum larger once the token is drawn.
-/

namespace LeoOne
namespace Api

open Foundation
open Backend (Server Instr)

/-- The step leads to a response for that token. -/
def serving (token : String) : Step -> Bool
  | Step.file (FileStep.findServed _ t _) => t = token
  | Step.file (FileStep.openFile t _) => t = token
  | Step.file (FileStep.serveContent t _ _) => t = token
  | _ => false

/-- The row is of that token, which has not been used. -/
def unused (token : String) (t : DownloadTokenRow) : Bool :=
  t.token = token && t.usedAt.isNone

/-- The responses that the tables hold for that token, or have given for it. -/
def Library.responses (l : Library) (token : String) : Nat :=
  l.tokens.countP (unused token) + l.served.countP fun r => r.token = token

/-- The responses for that token, those on their way included. -/
def responses (p : State) (token : String) : Nat :=
  p.shared.library.responses token + Pool.pendingCount (serving token) p

/-- The token and the file that a step goes on with. -/
def Step.mention? : Step -> Option (String × Uuid)
  | file (FileStep.findServed _ token id) => some (token, id)
  | file (FileStep.openFile token f) => some (token, f.id)
  | file (FileStep.serveContent token f _) => some (token, f.id)
  | insert (Origin.deploy _ d) _ => some (d.token, d.file.id)
  | _ => none

/-- The token stands beside that file, wherever it may be. -/
inductive Mentions (p : State) (token : String) (id : Uuid) : Prop where
  | row {t : DownloadTokenRow} : t ∈ p.shared.library.tokens -> t.token = token ->
      t.fileId = id -> Mentions p token id
  | pending {k : Step} : p.Pending k -> k.mention? = some (token, id) -> Mentions p token id
  | served {r : Response} : r ∈ p.shared.library.served -> r.token = token ->
      r.fileId = id -> Mentions p token id
  | deployed {command : Uuid} {caller : Caller} {d : Deployment} :
      (command, Origin.deploy caller d) ∈ p.shared.dispatched -> d.token = token ->
      d.file.id = id -> Mentions p token id

structure TokenLaw (p : State) : Prop where
  once : forall token, responses p token ≤ 1
  fresh : forall {token}, token ∉ p.shared.library.drawn -> responses p token = 0
  drawn : forall {token id}, Mentions p token id -> token ∈ p.shared.library.drawn
  agree : forall {token id id'}, Mentions p token id -> Mentions p token id' -> id = id'

/-!
## Counting
-/

section Moves

variable {cfg : FileConfig} {x : FileInput} {l l' : Library} {f : FileStep}
  {cont : List FileStep}

/-- Using a token takes it from those that are unused. -/
theorem countP_consume {token : String} {now : Nat} {t : DownloadTokenRow}
    (ht : t ∈ l.tokens) (hconsumable : Library.isConsumable token now t = true)
    (token' : String) :
    (Table.updateWhere (Library.isConsumable token now)
        (fun t => { t with usedAt := some now }) l.tokens).countP (unused token') +
      (if token = token' then 1 else 0) ≤ l.tokens.countP (unused token') := by
  have hlost := Table.countP_updateWhere_lost (p := Library.isConsumable token now)
    (q := unused token') (f := fun t => { t with usedAt := some now })
    (fun t _ => Bool.and_false _) l.tokens
  by_cases heq : token = token'
  · subst heq
    have hunused : unused token t = true := (Bool.and_eq_true_iff.mp hconsumable).left
    have hpos : 0 < l.tokens.countP fun r =>
        Library.isConsumable token now r && unused token r :=
      List.countP_pos_iff.mpr ⟨t, ht, Bool.and_eq_true_iff.mpr ⟨hconsumable, hunused⟩⟩
    rw [if_pos rfl]
    omega
  · rw [if_neg heq]
    omega

theorem FileMove.responses_le (hmove : FileMove cfg x l f l' cont) (token : String) :
    l'.responses token + (cont.map Step.file).countP (serving token) ≤
      l.responses token + [Step.file f].countP (serving token) := by
  cases hmove with
  | deleted hdelete =>
      rename_i row
      rcases Library.delete_some hdelete with ⟨_, id, _, rfl⟩
      have hle : (Table.deleteWhere (fun t => decide (t.fileId = id)) l.tokens).countP
          (unused token) ≤ l.tokens.countP (unused token) :=
        (Table.deleteWhere_sublist _ l.tokens).countP_le
      have hnone : ([FileStep.removeFile row.storagePath].map Step.file).countP
          (serving token) = 0 := rfl
      unfold Library.responses
      simp only
      omega
  | consumed hconsume =>
      rename_i fileId used id
      rcases Library.consumeDownloadToken_some hconsume with ⟨⟨t, ht, hconsumable, _⟩, rfl⟩
      have hle := countP_consume ht hconsumable token
      have hnew : ([FileStep.findServed fileId used id].map Step.file).countP (serving token) =
          if used = token then 1 else 0 := by
        simp [serving]
      rw [hnew]
      unfold Library.responses
      simp only
      omega
  | foundServed _ =>
      exact Nat.le_refl _
  | opened _ =>
      exact Nat.le_refl _
  | sent =>
      rename_i used row fd
      have hstep : [Step.file (FileStep.serveContent used row fd)].countP (serving token) =
          if used = token then 1 else 0 := by
        simp [serving]
      have hserved : (l.response x used row fd :: l.served).countP
            (fun r => decide (r.token = token)) =
          l.served.countP (fun r => decide (r.token = token)) +
            if used = token then 1 else 0 := by
        simp [List.countP_cons, Library.response]
      rw [hstep]
      unfold Library.responses
      simp only
      rw [hserved, List.map_nil, List.countP_nil]
      omega
  | _ =>
      exact Nat.add_le_add (Nat.le_refl _) (Nat.zero_le _)

/-- The token and the file that the tables or a step know after a step. -/
theorem FileMove.tokens_old (hmove : FileMove cfg x l f l' cont) {t : DownloadTokenRow}
    (h : t ∈ l'.tokens) :
    exists t', t' ∈ l.tokens ∧ t'.token = t.token ∧ t'.fileId = t.fileId := by
  cases hmove with
  | deleted hdelete =>
      rcases Library.delete_some hdelete with ⟨_, _, _, rfl⟩
      exact ⟨t, (Table.mem_deleteWhere.mp h).left, rfl, rfl⟩
  | consumed hconsume =>
      rw [(Library.consumeDownloadToken_some hconsume).right] at h
      rcases Table.mem_updateWhere.mp h with ⟨old, hold, ⟨_, rfl⟩ | ⟨_, rfl⟩⟩
      · exact ⟨old, hold, rfl, rfl⟩
      · exact ⟨t, hold, rfl, rfl⟩
  | _ =>
      exact ⟨t, h, rfl, rfl⟩

theorem FileMove.drawn_eq (hmove : FileMove cfg x l f l' cont) : l'.drawn = l.drawn := by
  cases hmove with
  | deleted hdelete =>
      rcases Library.delete_some hdelete with ⟨_, _, _, rfl⟩
      rfl
  | consumed hconsume =>
      rw [(Library.consumeDownloadToken_some hconsume).right]
  | _ =>
      rfl

/-- A step goes on with the token and the file that it has, or that it has found in the
table. -/
theorem FileMove.mention_old (hmove : FileMove cfg x l f l' cont) {j : FileStep}
    (hj : j ∈ cont) {token : String} {id : Uuid}
    (h : (Step.file j).mention? = some (token, id)) :
    (Step.file f).mention? = some (token, id) ∨
      exists t, t ∈ l.tokens ∧ t.token = token ∧ t.fileId = id := by
  cases hmove with
  | answered | rowInserted | removed | sent =>
      cases hj
  | foundServed _ | opened _ =>
      cases List.mem_singleton.mp hj
      exact Or.inl h
  | consumed hconsume =>
      cases List.mem_singleton.mp hj
      cases h
      rcases Library.consumeDownloadToken_some hconsume with ⟨⟨t, ht, hconsumable, hid⟩, _⟩
      have htoken := (Bool.and_eq_true_iff.mp (Bool.and_eq_true_iff.mp hconsumable).left).left
      exact Or.inr ⟨t, ht, of_decide_eq_true htoken, hid⟩
  | _ =>
      cases List.mem_singleton.mp hj
      cases h

/-- A response is for the token and the file of the step that has written it. -/
theorem FileMove.served_old (hmove : FileMove cfg x l f l' cont) {r : Response}
    (h : r ∈ l'.served) :
    r ∈ l.served ∨ (Step.file f).mention? = some (r.token, r.fileId) := by
  cases hmove with
  | sent =>
      rcases List.mem_cons.mp h with rfl | hold
      · exact Or.inr rfl
      · exact Or.inl hold
  | deleted hdelete =>
      rcases Library.delete_some hdelete with ⟨_, _, _, rfl⟩
      exact Or.inl h
  | consumed hconsume =>
      rw [(Library.consumeDownloadToken_some hconsume).right] at h
      exact Or.inl h
  | _ =>
      exact Or.inl h

end Moves

/-!
## Steps
-/

section Steps

variable {cfg : FileConfig} {p p' : State} {x : Input} {k : Step} {o : Outcome Service Step}

theorem responses_le (hexec : Pool.Executed p p' k o) {token : String}
    (hle : p'.shared.library.responses token + o.created.countP (serving token) ≤
      p.shared.library.responses token + [k].countP (serving token)) :
    responses p' token ≤ responses p token := by
  have hcount := hexec.count (serving token)
  unfold responses
  omega

/-- A step that draws no token keeps the law, if it mentions nothing new. -/
theorem TokenLaw.of_old (hlaw : TokenLaw p)
    (hdrawn : p'.shared.library.drawn = p.shared.library.drawn)
    (hle : forall token, responses p' token ≤ responses p token)
    (hold : forall token id, Mentions p' token id -> Mentions p token id) : TokenLaw p' := by
  refine ⟨?_, ?_, ?_, ?_⟩
  · intro token
    exact Nat.le_trans (hle token) (hlaw.once token)
  · intro token hfresh
    rw [hdrawn] at hfresh
    have hzero := hlaw.fresh hfresh
    have hbound := hle token
    omega
  · intro token id h
    rw [hdrawn]
    exact hlaw.drawn (hold token id h)
  · intro token id id' h h'
    exact hlaw.agree (hold token id h) (hold token id' h')

theorem TokenLaw.file_step {f : FileStep} {l : Library} {cont : List FileStep}
    (hlaw : TokenLaw p) (hexec : Pool.Executed p p' (Step.file f) o)
    (hlibrary : p'.shared.library = l) (hdispatched : p'.shared.dispatched = p.shared.dispatched)
    (hcreated : o.created = cont.map Step.file)
    (hmove : FileMove cfg x.file p.shared.library f l cont) : TokenLaw p' := by
  have hk := hexec.running
  subst hlibrary
  refine hlaw.of_old hmove.drawn_eq ?_ ?_
  · intro token
    apply responses_le hexec
    rw [hcreated]
    exact hmove.responses_le token
  · intro token id h
    cases h with
    | row ht htoken hid =>
        rcases hmove.tokens_old ht with ⟨t', ht', htoken', hid'⟩
        exact Mentions.row ht' (htoken'.trans htoken) (hid'.trans hid)
    | pending hj hmention =>
        rcases hexec.pending hj with hnew | hold
        · rw [hcreated] at hnew
          rcases List.mem_map.mp hnew with ⟨step, hstep, rfl⟩
          rcases hmove.mention_old hstep hmention with hsame | ⟨t, ht, htoken, hid⟩
          · exact Mentions.pending hk hsame
          · exact Mentions.row ht htoken hid
        · exact Mentions.pending hold hmention
    | served hr htoken hid =>
        rcases hmove.served_old hr with hold | hsame
        · exact Mentions.served hold htoken hid
        · rw [htoken, hid] at hsame
          exact Mentions.pending hk hsame
    | deployed hd htoken hid =>
        rw [hdispatched] at hd
        exact Mentions.deployed hd htoken hid

/-- Steps that lead to no response, and mention no token. -/
def Silent (steps : List Step) : Prop :=
  forall j, j ∈ steps -> (forall token, serving token j = false) ∧ j.mention? = none

/-- A step that leaves the tokens and the responses alone. -/
theorem TokenLaw.other_step (hlaw : TokenLaw p) (hexec : Pool.Executed p p' k o)
    (hlibrary : p'.shared.library = p.shared.library) (hcreated : Silent o.created)
    (hdispatched : forall command caller d,
      (command, Origin.deploy caller d) ∈ p'.shared.dispatched ->
      (command, Origin.deploy caller d) ∈ p.shared.dispatched ∨
        k.mention? = some (d.token, d.file.id)) : TokenLaw p' := by
  refine hlaw.of_old (by rw [hlibrary]) ?_ ?_
  · intro token
    apply responses_le hexec
    have hzero : o.created.countP (serving token) = 0 := by
      apply List.countP_eq_zero.mpr
      intro j hj
      rw [(hcreated j hj).left token]
      exact Bool.false_ne_true
    rw [hlibrary, hzero]
    omega
  · intro token id h
    cases h with
    | row ht htoken hid =>
        rw [hlibrary] at ht
        exact Mentions.row ht htoken hid
    | pending hj hmention =>
        rcases hexec.pending hj with hnew | hold
        · rw [(hcreated _ hnew).right] at hmention
          cases hmention
        · exact Mentions.pending hold hmention
    | served hr htoken hid =>
        rw [hlibrary] at hr
        exact Mentions.served hr htoken hid
    | deployed hd htoken hid =>
        rcases hdispatched _ _ _ hd with hold | hsame
        · exact Mentions.deployed hold htoken hid
        · rw [htoken, hid] at hsame
          exact Mentions.pending hexec.running hsame

/-- Drawing a token: it is new, and stands beside one file. -/
theorem TokenLaw.token_step (hlaw : TokenLaw p) {f : FileRow} {now : Nat} {caller : Caller}
    {order : Backend.CommandOrder} (hexec : Pool.Executed p p' k o)
    (hfresh : x.token ∉ p.shared.library.drawn)
    (hcreate : p.shared.library.createDownloadToken f.id x.token cfg.downloadTtl now =
      some p'.shared.library)
    (hdispatched : p'.shared.dispatched = p.shared.dispatched)
    (hcreated : o.created =
      [Step.insert (Origin.deploy caller (x.deployment f)) order]) :
    TokenLaw p' := by
  have hlibrary := Library.createDownloadToken_some hcreate
  have hserving : forall token, o.created.countP (serving token) = 0 := by
    intro token
    rw [hcreated]
    rfl
  have hle : forall token, responses p' token ≤
      responses p token + if x.token = token then 1 else 0 := by
    intro token
    have hcount := hexec.count (serving token)
    have hnone := hserving token
    unfold responses
    rw [hlibrary]
    simp only [Library.responses, List.countP_append, List.countP_singleton, unused,
      Option.isNone_none, Bool.and_true, decide_eq_true_eq]
    omega
  have hold : forall token id, Mentions p' token id ->
      Mentions p token id ∨ (token = x.token ∧ id = f.id) := by
    intro token id h
    cases h with
    | row ht htoken hid =>
        rw [hlibrary] at ht
        rcases List.mem_append.mp ht with hmem | hlast
        · exact Or.inl (Mentions.row hmem htoken hid)
        · rw [List.mem_singleton] at hlast
          subst hlast
          exact Or.inr ⟨htoken.symm, hid.symm⟩
    | pending hj hmention =>
        rcases hexec.pending hj with hnew | hpending
        · rw [hcreated] at hnew
          cases List.mem_singleton.mp hnew
          cases hmention
          exact Or.inr ⟨rfl, rfl⟩
        · exact Or.inl (Mentions.pending hpending hmention)
    | served hr htoken hid =>
        rw [hlibrary] at hr
        exact Or.inl (Mentions.served hr htoken hid)
    | deployed hd htoken hid =>
        rw [hdispatched] at hd
        exact Or.inl (Mentions.deployed hd htoken hid)
  have hdrawn : p'.shared.library.drawn = x.token :: p.shared.library.drawn := by
    rw [hlibrary]
  refine ⟨?_, ?_, ?_, ?_⟩
  · intro token
    have hbound := hle token
    by_cases heq : x.token = token
    · have hzero := hlaw.fresh (heq ▸ hfresh)
      rw [if_pos heq] at hbound
      omega
    · have hone := hlaw.once token
      rw [if_neg heq] at hbound
      omega
  · intro token hnew
    rw [hdrawn, List.mem_cons, not_or] at hnew
    have hzero := hlaw.fresh hnew.right
    have hbound := hle token
    rw [if_neg (Ne.symm hnew.left)] at hbound
    omega
  · intro token id h
    rw [hdrawn]
    rcases hold token id h with hmentions | ⟨rfl, _⟩
    · exact List.mem_cons_of_mem _ (hlaw.drawn hmentions)
    · exact List.mem_cons_self
  · intro token id id' h h'
    rcases hold token id h with hmentions | ⟨rfl, rfl⟩
    · rcases hold token id' h' with hmentions' | ⟨rfl, _⟩
      · exact hlaw.agree hmentions hmentions'
      · exact absurd (hlaw.drawn hmentions) hfresh
    · rcases hold _ id' h' with hmentions' | ⟨_, rfl⟩
      · exact absurd (hlaw.drawn hmentions') hfresh
      · rfl

theorem silent_core (created : List Instr) : Silent (created.map Step.core) := by
  intro j hj
  rcases List.mem_map.mp hj with ⟨i, _, rfl⟩
  exact ⟨fun _ => rfl, rfl⟩

/-- A handler draws a token, or it mentions none. -/
theorem HandlerMove.silent {s t : Service} {h : HandlerStep} {cont : List Step}
    (hmove : HandlerMove cfg x s h t cont) :
    (t.library = s.library ∧ Silent cont) ∨
    (exists caller agentId f library, h = HandlerStep.createDownloadToken caller agentId f ∧
      s.library.createDownloadToken f.id x.token cfg.downloadTtl x.server.now = some library ∧
      t = { s with library := library } ∧
      cont = [Step.insert (Origin.deploy caller (x.deployment f))
        (orderFor caller agentId Backend.CommandType.fileTransfer
          (some (cfg.transferPayload (x.deployment f))))]) := by
  cases hmove with
  | tokenCreated hcreate =>
      exact Or.inr ⟨_, _, _, _, rfl, hcreate, rfl, rfl⟩
  | refused | idle =>
      exact Or.inl ⟨rfl, fun j hj => absurd hj List.not_mem_nil⟩
  | bulkCreated | bulkInstalled | resolved =>
      refine Or.inl ⟨rfl, ?_⟩
      intro j hj
      rcases List.mem_map.mp hj with ⟨id, _, rfl⟩
      exact ⟨fun _ => rfl, rfl⟩
  | _ =>
      refine Or.inl ⟨rfl, ?_⟩
      intro j hj
      cases List.mem_singleton.mp hj
      exact ⟨fun _ => rfl, rfl⟩

theorem TokenLaw.step (hlaw : TokenLaw p)
    (hperforms : Performs cfg x p.shared k o.shared o.created)
    (hexec : Pool.Executed p p' k o) : TokenLaw p' := by
  have hshared := hexec.shared
  generalize o.shared = t at hshared hperforms
  generalize hcreated : o.created = created at hperforms
  cases hperforms with
  | core hperform =>
      refine hlaw.other_step hexec (by rw [hshared]; rfl) ?_ ?_
      · rw [hcreated]
        exact silent_core _
      · intro command caller d h
        rw [hshared] at h
        exact Or.inl h
  | insert hperform =>
      refine hlaw.other_step hexec (by rw [hshared]; rfl) ?_ ?_
      · rw [hcreated]
        exact silent_core _
      · intro command caller d h
        rw [hshared] at h
        simp only [Service.dispatch] at h
        split at h
        · rcases List.mem_cons.mp h with heq | hold
          · cases heq
            exact Or.inr rfl
          · exact Or.inl hold
        · exact Or.inl h
  | handler hdraws hmove =>
      rcases hmove.silent with ⟨hlibrary, hsilent⟩ |
        ⟨caller, agentId, f, library, rfl, hcreate, rfl, hcont⟩
      · refine hlaw.other_step hexec (by rw [hshared]; exact hlibrary) ?_ ?_
        · rw [hcreated]
          exact hsilent
        · intro command caller d h
          rw [hshared, hmove.frame.right] at h
          exact Or.inl h
      · have hcreate' : p.shared.library.createDownloadToken f.id x.token cfg.downloadTtl
            x.server.now = some p'.shared.library := by
          rw [hshared]
          exact hcreate
        refine hlaw.token_step hexec (hdraws rfl) hcreate' ?_ (hcreated.trans hcont)
        rw [hshared]
  | file hdraws hmove =>
      refine hlaw.file_step hexec ?_ ?_ hcreated hmove
      · rw [hshared]
      · rw [hshared]

/-- A request starts with steps that know no tokens. -/
theorem silent_entry (r : Request) : Silent (entry r) := by
  intro j hj
  cases r with
  | server r =>
      simp only [entry] at hj
      split at hj
      · cases hj
      · rcases List.mem_map.mp hj with ⟨i, _, rfl⟩
        exact ⟨fun _ => rfl, rfl⟩
  | _ =>
      cases List.mem_singleton.mp hj
      exact ⟨fun _ => rfl, rfl⟩

theorem TokenLaw.start {r : Request} (hlaw : TokenLaw p)
    (hstep : Pool.Started p p' (entry r)) : TokenLaw p' := by
  have hshared := hstep.shared
  refine hlaw.of_old (by rw [hshared]) ?_ ?_
  · intro token
    have hzero : (entry r).countP (serving token) = 0 := by
      apply List.countP_eq_zero.mpr
      intro j hj
      rw [(silent_entry r j hj).left token]
      exact Bool.false_ne_true
    unfold responses
    rw [hshared, hstep.count, hzero]
    exact Nat.le_refl _
  · intro token id h
    cases h with
    | row ht htoken hid =>
        rw [hshared] at ht
        exact Mentions.row ht htoken hid
    | pending hj hmention =>
        rcases hstep.pending hj with hnew | hold
        · rw [(silent_entry r _ hnew).right] at hmention
          cases hmention
        · exact Mentions.pending hold hmention
    | served hr htoken hid =>
        rw [hshared] at hr
        exact Mentions.served hr htoken hid
    | deployed hd htoken hid =>
        rw [hshared] at hd
        exact Mentions.deployed hd htoken hid

end Steps

/-!
## A library at rest
-/

/-- The tokens and the files that the tables and the responses know. -/
def Library.mentions (l : Library) : List (String × Uuid) :=
  l.tokens.map (fun t => (t.token, t.fileId)) ++ l.served.map fun r => (r.token, r.fileId)

/-- What an earlier process has left: each token was drawn once, for one file, and can be
used once. -/
structure Library.Issued (l : Library) : Prop where
  once : forall token, l.responses token ≤ 1
  drawn : forall {token id}, (token, id) ∈ l.mentions -> token ∈ l.drawn
  agree : forall {token id id'}, (token, id) ∈ l.mentions -> (token, id') ∈ l.mentions ->
    id = id'

theorem mentions_of_mem {p : State} {token : String} {id : Uuid}
    (h : (token, id) ∈ p.shared.library.mentions) : Mentions p token id := by
  rcases List.mem_append.mp h with hrow | hserved
  · rcases List.mem_map.mp hrow with ⟨t, ht, heq⟩
    cases heq
    exact Mentions.row ht rfl rfl
  · rcases List.mem_map.mp hserved with ⟨r, hr, heq⟩
    cases heq
    exact Mentions.served hr rfl rfl

theorem mem_of_mentions {server : Server} {library : Library} {token : String} {id : Uuid}
    (h : Mentions (boot server library) token id) : (token, id) ∈ library.mentions := by
  cases h with
  | row ht htoken hid =>
      subst htoken
      subst hid
      exact List.mem_append_left _ (List.mem_map_of_mem ht)
  | pending hk _ =>
      exact absurd hk boot_no_pending
  | served hr htoken hid =>
      subst htoken
      subst hid
      exact List.mem_append_right _ (List.mem_map_of_mem hr)
  | deployed hd _ _ =>
      cases hd

/-- A token that is counted is mentioned. -/
theorem Library.mentioned_of_responses {l : Library} {token : String}
    (h : l.responses token ≠ 0) : exists id, (token, id) ∈ l.mentions := by
  unfold responses at h
  by_cases hrows : l.tokens.countP (unused token) = 0
  · have hserved : 0 < l.served.countP fun r => r.token = token := by
      omega
    rcases List.countP_pos_iff.mp hserved with ⟨r, hr, htoken⟩
    refine ⟨r.fileId, List.mem_append_right _ (List.mem_map.mpr ⟨r, hr, ?_⟩)⟩
    rw [of_decide_eq_true htoken]
  · rcases List.countP_pos_iff.mp (Nat.pos_of_ne_zero hrows) with ⟨t, ht, hunused⟩
    refine ⟨t.fileId, List.mem_append_left _ (List.mem_map.mpr ⟨t, ht, ?_⟩)⟩
    rw [of_decide_eq_true (Bool.and_eq_true_iff.mp hunused).left]

/-- The library is at rest between two processes. -/
theorem TokenLaw.issued {p : State} (hlaw : TokenLaw p) : p.shared.library.Issued where
  once := fun token => Nat.le_trans (Nat.le_add_right _ _) (hlaw.once token)
  drawn := fun h => hlaw.drawn (mentions_of_mem h)
  agree := fun h h' => hlaw.agree (mentions_of_mem h) (mentions_of_mem h')

theorem tokenLaw_boot {server : Server} {library : Library} (hissued : library.Issued) :
    TokenLaw (boot server library) where
  once := hissued.once
  fresh := by
    intro token hfresh
    by_contra hcount
    rcases Library.mentioned_of_responses hcount with ⟨id, hid⟩
    exact hfresh (hissued.drawn hid)
  drawn := fun h => hissued.drawn (mem_of_mentions h)
  agree := fun h h' => hissued.agree (mem_of_mentions h) (mem_of_mentions h')

end Api
end LeoOne
