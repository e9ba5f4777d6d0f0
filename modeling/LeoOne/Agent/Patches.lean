import LeoOne.Agent.CommandReplies

/-!
# Installing patches on the agent

`leo_patches_install` hands the identifiers of an INSTALL_PATCHES command to the
installer of the platform: to `apt-get` or `dnf` as operands (`patches_linux.c`), or to
the Windows Update Agent as the updates that a search has found for them
(`patches_win.c`).  What the platform answers is a parameter.
-/

namespace LeoOne
namespace Agent

open Foundation
open Wire

deriving instance DecidableEq for ExecResult
deriving instance DecidableEq for ExecOutcome

/-!
## The platform
-/

/-- What the calls of the Windows Update Agent return, in their order: the failure of
`CoInitializeEx`, the ids of the updates that the search finds, and the result code of
the installation with whether it needs a reboot. -/
structure WuaRun where
  initError : Option Nat
  session : Bool
  found : Option (List (List UInt8))
  collections : Bool
  downloader : Bool
  download : Bool
  installer : Bool
  install : Option (Int × Bool)

/-- The platform that `leo_patches_install` meets, with the outcomes of the commands it
runs. -/
inductive PatchHost where
  | apt (update install : ExecOutcome)
  | dnf (update : ExecOutcome)
  | unsupported
  | windows (w : WuaRun)

/-- What a call of `leo_patches_install` comes to: its outcome, the ids it has handed to
the installer, and whether it schedules a reboot. -/
structure PatchesInstalled where
  outcome : ExecOutcome
  passed : List (List UInt8)
  reboots : Bool

/-- The installer is not reached: exit code -1 and an error text. -/
def notInstalled (text : String) : PatchesInstalled where
  outcome := ExecOutcome.ok { exitCode := -1, stdout := [], stderr := utf8 text }
  passed := []
  reboots := false

/-- The operands that fit the argument vector of `_install_apt` and `_install_dnf`. -/
def installOperands (ids : List (List UInt8)) : List (List UInt8) :=
  ids.take patchInstallMaxCount

/-- Eight lower-case hexadecimal digits (`%08lx`). -/
def hex8 (n : Nat) : String :=
  let digits := Nat.toDigits 16 n
  String.ofList (List.replicate (8 - digits.length) '0' ++ digits)

/-- The collection `to_install` of `patches_win.c` is downloaded and installed. -/
def installUpdates (w : WuaRun) (toInstall : List (List UInt8)) (rebootAfter : Bool) :
    PatchesInstalled :=
  let matched := toString toInstall.length
  if toInstall.length = 0 then
    notInstalled
      ("Aucun des patchs demandés n'a été retrouvé dans la recherche Windows Update " ++
        "(inventaire périmé ?)")
  else if !w.downloader then notInstalled "CreateUpdateDownloader a échoué"
  else if !w.download then
    notInstalled ("Échec du téléchargement des " ++ matched ++ " patch(s)")
  else if !w.installer then notInstalled "CreateUpdateInstaller a échoué"
  else
    match w.install with
    | none =>
        { notInstalled ("Échec de l'installation des " ++ matched ++ " patch(s)") with
          passed := toInstall }
    | some (code, rebootRequired) =>
        -- orcSucceeded or orcSucceededWithErrors
        let ok := code = 2 || code = 3
        { outcome := ExecOutcome.ok
            { exitCode := if ok then 0 else -1
              stdout := utf8
                (matched ++ " patch(s) traité(s), résultat=" ++ toString code ++
                  ", redémarrage requis=" ++ if rebootRequired then "oui" else "non")
              stderr := [] }
          passed := toInstall
          reboots := ok && rebootAfter && rebootRequired }

/-- `leo_patches_install` of `patches_win.c`.  An update without an id, and one whose id
was not asked for, is not added to the collection. -/
def installWindows (w : WuaRun) (ids : List (List UInt8)) (rebootAfter : Bool) :
    PatchesInstalled :=
  match w.initError with
  | some hr => notInstalled ("CoInitializeEx a échoué (hr=0x" ++ hex8 hr ++ ")")
  | none =>
      if !w.session then notInstalled "Impossible de créer une session Windows Update"
      else
        match w.found with
        | none => notInstalled "Échec de la recherche des mises à jour"
        | some found =>
            if !w.collections then
              notInstalled "Impossible de préparer la liste des patchs à installer"
            else
              installUpdates w (found.filter fun id => id ≠ [] && ids.contains id)
                rebootAfter

/-- `leo_patches_install`. -/
def leoPatchesInstall (host : PatchHost) (ids : List (List UInt8)) (rebootAfter : Bool) :
    PatchesInstalled :=
  match host with
  | PatchHost.apt update install =>
      -- `_install_apt` returns what `apt-get update` came to, if it does not succeed
      if update.succeeded then
        { outcome := install
          passed := installOperands ids
          reboots := install.succeeded && rebootAfter }
      else { outcome := update, passed := [], reboots := false }
  | PatchHost.dnf update =>
      { outcome := update
        passed := installOperands ids
        reboots := update.succeeded && rebootAfter }
  | PatchHost.unsupported => notInstalled "Aucun gestionnaire de paquets supporté détecté"
  | PatchHost.windows w => installWindows w ids rebootAfter

/-- The platform has a patch of this id: on Windows the search finds it, elsewhere the
package manager is asked in any case. -/
def PatchHost.finds (host : PatchHost) (id : List UInt8) : Bool :=
  match host with
  | windows w => id ≠ [] && (w.found.getD []).contains id
  | _ => true

theorem notInstalled_fails (text : String) :
    (notInstalled text).outcome.succeeded = false := by
  simp [notInstalled, ExecOutcome.succeeded]

theorem installUpdates_cases (w : WuaRun) (toInstall : List (List UInt8))
    (rebootAfter : Bool) :
    (installUpdates w toInstall rebootAfter).outcome.succeeded = false ∨
      (installUpdates w toInstall rebootAfter).passed = toInstall := by
  simp only [installUpdates]
  split
  · exact Or.inl (notInstalled_fails _)
  · split
    · exact Or.inl (notInstalled_fails _)
    · split
      · exact Or.inl (notInstalled_fails _)
      · split
        · exact Or.inl (notInstalled_fails _)
        · split
          · exact Or.inr rfl
          · exact Or.inr rfl

/-- The Windows Update Agent succeeds only with the updates that its search has found
for the ids. -/
theorem installWindows_cases (w : WuaRun) (ids : List (List UInt8)) (rebootAfter : Bool) :
    (installWindows w ids rebootAfter).outcome.succeeded = false ∨
      exists found, w.found = some found ∧
        (installWindows w ids rebootAfter).passed =
          found.filter fun id => id ≠ [] && ids.contains id := by
  unfold installWindows
  split
  · exact Or.inl (notInstalled_fails _)
  · split
    · exact Or.inl (notInstalled_fails _)
    · split
      · exact Or.inl (notInstalled_fails _)
      · rename_i found hfound
        split
        · exact Or.inl (notInstalled_fails _)
        · rcases installUpdates_cases w _ rebootAfter with hfails | hpassed
          · exact Or.inl hfails
          · exact Or.inr ⟨found, hfound, hpassed⟩

/-- When the installation succeeds, the ids that were handed to the installer are those
that the platform has, of the ids that were asked for. -/
theorem passed_of_succeeded {host : PatchHost} {ids : List (List UInt8)}
    {rebootAfter : Bool} (hfit : ids.length ≤ patchInstallMaxCount)
    (h : (leoPatchesInstall host ids rebootAfter).outcome.succeeded = true)
    (id : List UInt8) :
    id ∈ (leoPatchesInstall host ids rebootAfter).passed <->
      id ∈ ids ∧ host.finds id = true := by
  have hoperands : installOperands ids = ids := List.take_of_length_le hfit
  cases host with
  | apt update install =>
      simp only [leoPatchesInstall] at h ⊢
      split at h
      · rename_i hupdate
        rw [if_pos hupdate, hoperands]
        simp [PatchHost.finds]
      · rename_i hupdate
        exact absurd h hupdate
  | dnf update =>
      simp [leoPatchesInstall, hoperands, PatchHost.finds]
  | unsupported =>
      simp only [leoPatchesInstall, notInstalled_fails] at h
      cases h
  | windows w =>
      replace h : (installWindows w ids rebootAfter).outcome.succeeded = true := h
      show id ∈ (installWindows w ids rebootAfter).passed <-> _
      rcases installWindows_cases w ids rebootAfter with hfails | ⟨found, hfound, hpassed⟩
      · rw [h] at hfails
        cases hfails
      · rw [hpassed, List.mem_filter]
        simp only [PatchHost.finds, hfound, Option.getD_some, Bool.and_eq_true,
          decide_eq_true_eq, List.contains_iff_mem]
        constructor
        · rintro ⟨hmem, hne, hasked⟩
          exact ⟨hasked, hne, hmem⟩
        · rintro ⟨hasked, hne, hmem⟩
          exact ⟨hmem, hne, hasked⟩

/-!
## What a result with exit code 0 means
-/

/-- What the message with a ticket asks the agent to execute. -/
def orderOf (cJSONParse : List UInt8 -> Option Json) (s : AgentState) (ticket : Nat) :
    Option Order :=
  match s.received[ticket]? with
  | none => none
  | some text =>
      match onMessage cJSONParse text with
      | [] => none
      | d :: _ =>
          match dispatch d with
          | some (Except.ok order) => some order
          | _ => none

/-- The thread of the ticket calls `leo_patches_install` on this platform. -/
def installsOn (host : PatchHost) (ticket : Nat) (_ : State) (k : Task) (x : Input) : Bool :=
  match k with
  | Task.run n _ (Order.installPatches ids rebootAfter _) =>
      n ≠ ticket || x.exec = (leoPatchesInstall host ids rebootAfter).outcome
  | _ => true

/-- The step works on the order of its message. -/
def Task.Follows (cJSONParse : List UInt8 -> Option Json) (s : AgentState) : Task -> Prop
  | reserve ticket _ order | allocate ticket _ order | spawn ticket _ order
  | run ticket _ order => orderOf cJSONParse s ticket = some order
  | aptInstall ticket _ _ _ =>
      exists names timeoutSecs,
        orderOf cJSONParse s ticket = some (Order.installPkg names timeoutSecs)
  | systemctl ticket _ _ =>
      exists delaySec timeoutSecs,
        orderOf cJSONParse s ticket = some (Order.reboot delaySec timeoutSecs)
  | _ => True

/-- A result with exit code 0 comes from the order of the message; for patches, from a
call of `leo_patches_install` with the ids of the order, which has succeeded. -/
def Reported (cJSONParse : List UInt8 -> Option Json) (host : PatchHost) (ticket : Nat)
    (s : AgentState) (result : CmdResult) : Prop :=
  ticket < s.received.length ∧
    (result.exitCode = 0 -> exists order, orderOf cJSONParse s ticket = some order ∧
      forall ids rebootAfter timeoutSecs,
        order = Order.installPatches ids rebootAfter timeoutSecs ->
        (ticket, Call.patchesInstall ids rebootAfter timeoutSecs) ∈ s.calls ∧
          (leoPatchesInstall host ids rebootAfter).outcome.succeeded = true)

/-- Every step and every call follows its order, and the results of one ticket are
reported in this sense. -/
structure InstallLaw (cJSONParse : List UInt8 -> Option Json) (host : PatchHost)
    (ticket : Nat) (p : State) : Prop where
  follows : forall k, p.Pending k -> k.Follows cJSONParse p.shared
  called : forall n ids rebootAfter timeoutSecs,
    (n, Call.patchesInstall ids rebootAfter timeoutSecs) ∈ p.shared.calls ->
    orderOf cJSONParse p.shared n = some (Order.installPatches ids rebootAfter timeoutSecs)
  sends : forall result, p.Pending (Task.send ticket result) ->
    Reported cJSONParse host ticket p.shared result
  sent : forall result, (ticket, result) ∈ p.shared.sent ->
    Reported cJSONParse host ticket p.shared result

section Agent

variable {cJSONParse : List UInt8 -> Option Json} {host : PatchHost} {ticket : Nat}

theorem installLaw_start : InstallLaw cJSONParse host ticket agentStart := by
  constructor
  · rintro k ⟨q, hq, _⟩
    cases hq
  · intro n ids rebootAfter timeoutSecs h
    cases h
  · rintro result ⟨q, hq, _⟩
    cases hq
  · intro result h
    cases h

/-- The texts and calls of a state are still those of a later one. -/
structure Extends (s t : AgentState) : Prop where
  received : exists more, t.received = s.received ++ more
  calls : forall c, c ∈ s.calls -> c ∈ t.calls

theorem orderOf_lt {s : AgentState} {n : Nat} {order : Order}
    (h : orderOf cJSONParse s n = some order) : n < s.received.length := by
  unfold orderOf at h
  split at h
  · cases h
  · rename_i text htext
    exact (List.getElem?_eq_some_iff.mp htext).1

theorem Extends.orderOf {s t : AgentState} (h : Extends s t) {n : Nat}
    (hn : n < s.received.length) : orderOf cJSONParse t n = orderOf cJSONParse s n := by
  rcases h.received with ⟨more, hmore⟩
  unfold Agent.orderOf
  rw [hmore, List.getElem?_append_left hn]

theorem Extends.order {s t : AgentState} (h : Extends s t) {n : Nat} {order : Order}
    (horder : Agent.orderOf cJSONParse s n = some order) :
    Agent.orderOf cJSONParse t n = some order :=
  (h.orderOf (orderOf_lt horder)).trans horder

theorem Extends.length_le {s t : AgentState} (h : Extends s t) :
    s.received.length ≤ t.received.length := by
  rcases h.received with ⟨more, hmore⟩
  rw [hmore, List.length_append]
  exact Nat.le_add_right _ _

theorem Task.Follows.extends {s t : AgentState} (h : Extends s t) {k : Task}
    (hk : k.Follows cJSONParse s) : k.Follows cJSONParse t := by
  cases k with
  | reserve | allocate | spawn | run =>
      exact h.order hk
  | aptInstall =>
      rcases hk with ⟨names, timeoutSecs, horder⟩
      exact ⟨names, timeoutSecs, h.order horder⟩
  | systemctl =>
      rcases hk with ⟨delaySec, timeoutSecs, horder⟩
      exact ⟨delaySec, timeoutSecs, h.order horder⟩
  | receive | send | release =>
      trivial

theorem Reported.extends {s t : AgentState} (h : Extends s t) {result : CmdResult}
    (hresult : Reported cJSONParse host ticket s result) :
    Reported cJSONParse host ticket t result := by
  refine ⟨Nat.lt_of_lt_of_le hresult.left h.length_le, ?_⟩
  intro hexit
  rcases hresult.right hexit with ⟨order, horder, hpatches⟩
  refine ⟨order, h.order horder, ?_⟩
  intro ids rebootAfter timeoutSecs heq
  rcases hpatches ids rebootAfter timeoutSecs heq with ⟨hcall, hsucceeded⟩
  exact ⟨h.calls _ hcall, hsucceeded⟩

/-- A result with another exit code says nothing about patches. -/
theorem reported_of_exitCode {s : AgentState} {n : Nat} {result : CmdResult}
    (hn : n < s.received.length) (hexit : result.exitCode ≠ 0) :
    Reported cJSONParse host n s result :=
  ⟨hn, fun hzero => absurd hzero hexit⟩

/-- Neither does the result of another kind of order. -/
theorem reported_of_order {s : AgentState} {n : Nat} {order : Order} {result : CmdResult}
    (horder : Agent.orderOf cJSONParse s n = some order)
    (hother : forall ids rebootAfter timeoutSecs,
      order ≠ Order.installPatches ids rebootAfter timeoutSecs) :
    Reported cJSONParse host n s result := by
  refine ⟨orderOf_lt horder, fun _ => ⟨order, horder, ?_⟩⟩
  intro ids rebootAfter timeoutSecs hpatches
  exact absurd hpatches (hother ids rebootAfter timeoutSecs)

/-- A call that succeeds is reported with exit code 0, and no other. -/
theorem succeeded_of_exitCode {id onTimeout onProtocol onSystem : List UInt8}
    {outcome : ExecOutcome}
    (h : (resultOf id onTimeout onProtocol onSystem outcome).exitCode = 0) :
    outcome.succeeded = true := by
  cases outcome with
  | ok r =>
      exact decide_eq_true h
  | timeout | protocol | system =>
      cases h

/-!
## What a step creates
-/

/-- A created step is in order: it follows its message, and a result for the ticket is
reported. -/
def Task.InOrder (cJSONParse : List UInt8 -> Option Json) (host : PatchHost) (ticket : Nat)
    (s : AgentState) (k : Task) : Prop :=
  k.Follows cJSONParse s ∧
    forall result, k = Task.send ticket result -> Reported cJSONParse host ticket s result

theorem inOrder_finish {s : AgentState} {n : Nat} {result : CmdResult}
    (h : n = ticket -> Reported cJSONParse host n s result) :
    forall j, j ∈ finish n result -> j.InOrder cJSONParse host ticket s := by
  intro j hj
  rcases List.mem_cons.mp hj with rfl | hlast
  · refine ⟨trivial, ?_⟩
    intro result' heq
    cases heq
    exact h rfl
  · cases List.mem_singleton.mp hlast
    exact ⟨trivial, nofun⟩

/-- An error of the agent itself. -/
theorem inOrder_error {s : AgentState} {n : Nat} (hn : n < s.received.length)
    (id : List UInt8) (message : String) :
    (Task.send n (cmdError id message)).InOrder cJSONParse host ticket s := by
  refine ⟨trivial, ?_⟩
  intro result heq
  cases heq
  have hexit : (cmdError id message).exitCode ≠ 0 := by
    show (-1 : Int) ≠ 0
    decide
  exact reported_of_exitCode hn hexit

theorem inOrder_release {s : AgentState} :
    Task.release.InOrder cJSONParse host ticket s :=
  ⟨trivial, nofun⟩

/-- The slot is released before the error is sent. -/
theorem inOrder_giveUp {s : AgentState} {n : Nat} (hn : n < s.received.length)
    (id : List UInt8) (message : String) :
    forall j, j ∈ [Task.release, Task.send n (cmdError id message)] ->
      j.InOrder cJSONParse host ticket s := by
  intro j hj
  rcases List.mem_cons.mp hj with rfl | hlast
  · exact inOrder_release
  · cases List.mem_singleton.mp hlast
    exact inOrder_error hn id message

/-- A step of the same order. -/
theorem inOrder_follows {s : AgentState} {k : Task} (hk : k.Follows cJSONParse s)
    (hsend : forall n result, k ≠ Task.send n result) :
    k.InOrder cJSONParse host ticket s :=
  ⟨hk, fun result heq => absurd heq (hsend ticket result)⟩

theorem extends_of_eq {s t : AgentState} (hreceived : t.received = s.received)
    (hcalls : t.calls = s.calls) : Extends s t where
  received := ⟨[], hreceived.trans (List.append_nil _).symm⟩
  calls := fun _ h => hcalls ▸ h

theorem extends_call (s : AgentState) (c : Nat × Call) :
    Extends s { s with calls := c :: s.calls } where
  received := ⟨[], (List.append_nil _).symm⟩
  calls := fun _ h => List.mem_cons_of_mem c h

/-- The message and the call of an executed order are in the state, and what follows is
in order, whatever the call has returned. -/
theorem inOrder_run {p : State} {x : Input} {s : AgentState} {n : Nat} {id : List UInt8}
    {order : Order} (horder : Agent.orderOf cJSONParse s n = some order)
    (hguard : installsOn host ticket p (Task.run n id order) x = true) :
    forall j, j ∈ (runOrder x n id order).2 ->
      j.InOrder cJSONParse host ticket
        { s with calls := (n, (runOrder x n id order).1) :: s.calls } := by
  have hlater := (extends_call s (n, (runOrder x n id order).1)).order horder
  generalize hcall : (runOrder x n id order).1 = call at hlater ⊢
  cases order with
  | installPkg names timeoutSecs =>
      intro j hj
      simp only [runOrder] at hj
      split at hj
      · cases List.mem_singleton.mp hj
        exact inOrder_follows ⟨names, timeoutSecs, hlater⟩ fun _ _ => Task.noConfusion
      · refine inOrder_finish (fun _ => ?_) j hj
        exact reported_of_order hlater fun _ _ _ => Order.noConfusion
  | reboot delaySec timeoutSecs =>
      intro j hj
      simp only [runOrder] at hj
      split at hj
      · refine inOrder_finish (fun _ => ?_) j hj
        exact reported_of_order hlater fun _ _ _ => Order.noConfusion
      · cases List.mem_singleton.mp hj
        exact inOrder_follows ⟨delaySec, timeoutSecs, hlater⟩ fun _ _ => Task.noConfusion
  | installPatches ids rebootAfter timeoutSecs =>
      cases hcall
      apply inOrder_finish
      intro hn
      refine ⟨orderOf_lt hlater, fun hexit => ⟨_, hlater, ?_⟩⟩
      intro ids' rebootAfter' timeoutSecs' hsame
      cases hsame
      have hexec : x.exec = (leoPatchesInstall host ids rebootAfter).outcome := by
        simpa [installsOn, hn] using hguard
      rw [← hexec]
      exact ⟨List.mem_cons_self, succeeded_of_exitCode hexit⟩
  | script | fileTransfer | collectInventory =>
      exact inOrder_finish fun _ => reported_of_order hlater fun _ _ _ => Order.noConfusion

/-- The message that arrives is the last one. -/
theorem inOrder_receive {x : Input} {s : AgentState} {text : List UInt8}
    {o : Outcome AgentState Task}
    (h : perform cJSONParse (Task.receive text) x s = some o) :
    Extends s o.shared ∧ o.shared.sent = s.sent ∧
      forall j, j ∈ o.created -> j.InOrder cJSONParse host ticket o.shared := by
  have hextends : Extends s { s with received := s.received ++ [text] } :=
    ⟨⟨[text], rfl⟩, fun _ hc => hc⟩
  have hlast : s.received.length < (s.received ++ [text]).length := by
    rw [List.length_append]
    exact Nat.lt_succ_self _
  simp only [perform] at h
  split at h
  · cases h
    exact ⟨hextends, rfl, List.forall_mem_nil _⟩
  · rename_i d rest hmessage
    split at h
    · cases h
      exact ⟨hextends, rfl, List.forall_mem_nil _⟩
    · rename_i message hdispatch
      cases h
      refine ⟨hextends, rfl, ?_⟩
      intro j hj
      cases List.mem_singleton.mp hj
      exact inOrder_error hlast d.id message
    · rename_i order hdispatch
      cases h
      refine ⟨hextends, rfl, ?_⟩
      intro j hj
      cases List.mem_singleton.mp hj
      refine inOrder_follows ?_ fun _ _ => Task.noConfusion
      show Agent.orderOf cJSONParse _ _ = some order
      simp only [Agent.orderOf, andThen, List.getElem?_concat_length, hmessage, hdispatch]

/-- One step keeps what has happened, creates steps that are in order, and hands over
only the result it carries. -/
theorem inOrder_perform {p : State} {x : Input} {s : AgentState} {k : Task}
    {o : Outcome AgentState Task} (hk : k.Follows cJSONParse s)
    (hguard : installsOn host ticket p k x = true)
    (h : perform cJSONParse k x s = some o) :
    Extends s o.shared ∧
    (forall j, j ∈ o.created -> j.InOrder cJSONParse host ticket o.shared) ∧
    (forall e, e ∈ o.shared.sent -> e ∈ s.sent ∨ k = Task.send e.1 e.2) := by
  cases k with
  | receive text =>
      have hreceive : Extends s o.shared ∧ o.shared.sent = s.sent ∧
          forall j, j ∈ o.created -> j.InOrder cJSONParse host ticket o.shared :=
        inOrder_receive h
      rcases hreceive with ⟨hextends, hsent, hcreated⟩
      exact ⟨hextends, hcreated, fun e he => Or.inl (hsent ▸ he)⟩
  | reserve n id order =>
      simp only [perform] at h
      split at h
      · cases h
        refine ⟨extends_of_eq rfl rfl, ?_, fun e he => Or.inl he⟩
        intro j hj
        cases List.mem_singleton.mp hj
        exact inOrder_error (orderOf_lt hk) id _
      · cases h
        refine ⟨extends_of_eq rfl rfl, ?_, fun e he => Or.inl he⟩
        intro j hj
        cases List.mem_singleton.mp hj
        exact inOrder_follows hk fun _ _ => Task.noConfusion
  | allocate n id order =>
      simp only [perform] at h
      split at h
      · cases h
        refine ⟨extends_of_eq rfl rfl, ?_, fun e he => Or.inl he⟩
        intro j hj
        cases List.mem_singleton.mp hj
        exact inOrder_follows hk fun _ _ => Task.noConfusion
      · cases h
        exact ⟨extends_of_eq rfl rfl, inOrder_giveUp (orderOf_lt hk) id _,
          fun e he => Or.inl he⟩
  | spawn n id order =>
      simp only [perform] at h
      split at h
      · cases h
        refine ⟨extends_of_eq rfl rfl, ?_, fun e he => Or.inl he⟩
        intro j hj
        cases List.mem_singleton.mp hj
        exact inOrder_follows hk fun _ _ => Task.noConfusion
      · cases h
        exact ⟨extends_of_eq rfl rfl, inOrder_giveUp (orderOf_lt hk) id _,
          fun e he => Or.inl he⟩
  | run n id order =>
      cases h
      refine ⟨extends_call s _, ?_, fun e he => Or.inl he⟩
      simp only [andThen, Outcome.created, List.flatten_nil, List.append_nil]
      exact inOrder_run hk hguard
  | aptInstall n id names timeoutSecs =>
      rcases hk with ⟨names', timeoutSecs', horder⟩
      cases h
      refine ⟨extends_call s _, ?_, fun e he => Or.inl he⟩
      simp only [andThen, Outcome.created, List.flatten_nil, List.append_nil]
      exact inOrder_finish fun _ =>
        reported_of_order ((extends_call s _).order horder) fun _ _ _ => Order.noConfusion
  | systemctl n id timeoutSecs =>
      rcases hk with ⟨delaySec, timeoutSecs', horder⟩
      cases h
      refine ⟨extends_call s _, ?_, fun e he => Or.inl he⟩
      simp only [andThen, Outcome.created, List.flatten_nil, List.append_nil]
      exact inOrder_finish fun _ =>
        reported_of_order ((extends_call s _).order horder) fun _ _ _ => Order.noConfusion
  | send n result =>
      simp only [perform] at h
      split at h
      · cases h
        refine ⟨extends_of_eq rfl rfl, List.forall_mem_nil _, ?_⟩
        intro e he
        rcases List.mem_cons.mp he with rfl | hold
        · exact Or.inr rfl
        · exact Or.inl hold
      · cases h
        exact ⟨extends_of_eq rfl rfl, List.forall_mem_nil _, fun e he => Or.inl he⟩
  | release =>
      cases h
      exact ⟨extends_of_eq rfl rfl, List.forall_mem_nil _, fun e he => Or.inl he⟩

/-- Only the thread of an INSTALL_PATCHES order calls `leo_patches_install`. -/
theorem order_of_call {x : Input} {s : AgentState} {k : Task} {o : Outcome AgentState Task}
    (hk : k.Follows cJSONParse s) (h : perform cJSONParse k x s = some o) {n : Nat}
    {ids : List (List UInt8)} {rebootAfter : Bool} {timeoutSecs : Int}
    (hcall : (n, Call.patchesInstall ids rebootAfter timeoutSecs) ∈ o.shared.calls) :
    (n, Call.patchesInstall ids rebootAfter timeoutSecs) ∈ s.calls ∨
      Agent.orderOf cJSONParse s n =
        some (Order.installPatches ids rebootAfter timeoutSecs) := by
  cases k with
  | receive text =>
      simp only [perform] at h
      split at h
      · cases h
        exact Or.inl hcall
      · split at h <;> (cases h; exact Or.inl hcall)
  | run m id order =>
      cases h
      rcases List.mem_cons.mp hcall with hnew | hold
      · right
        cases order with
        | installPatches ids' rebootAfter' timeoutSecs' =>
            cases hnew
            exact hk
        | _ =>
            cases hnew
      · exact Or.inl hold
  | aptInstall m id names timeoutSecs' | systemctl m id timeoutSecs' =>
      cases h
      rcases List.mem_cons.mp hcall with hnew | hold
      · cases hnew
      · exact Or.inl hold
  | release =>
      cases h
      exact Or.inl hcall
  | _ =>
      simp only [perform] at h
      split at h <;> (cases h; exact Or.inl hcall)

theorem InstallLaw.step {p p' : State} {x : Input} {k : Task} {o : Outcome AgentState Task}
    (hinv : InstallLaw cJSONParse host ticket p)
    (hguard : installsOn host ticket p k x = true)
    (hperform : perform cJSONParse k x p.shared = some o)
    (hexec : Pool.Executed p p' k o) : InstallLaw cJSONParse host ticket p' := by
  rcases inOrder_perform (hinv.follows k hexec.running) hguard hperform with
    ⟨hextends, hcreated, hsent⟩
  rw [← hexec.shared] at hextends hcreated hsent
  constructor
  · intro j hj
    rcases hexec.pending hj with hnew | hold
    · exact (hcreated j hnew).left
    · exact (hinv.follows j hold).extends hextends
  · intro n ids rebootAfter timeoutSecs hcall
    rw [hexec.shared] at hcall
    rcases order_of_call (hinv.follows k hexec.running) hperform hcall with hold | horder
    · exact hextends.order (hinv.called n ids rebootAfter timeoutSecs hold)
    · exact hextends.order horder
  · intro result hj
    rcases hexec.pending hj with hnew | hold
    · exact (hcreated _ hnew).right result rfl
    · exact (hinv.sends result hold).extends hextends
  · intro result he
    rcases hsent _ he with hold | rfl
    · exact (hinv.sent result hold).extends hextends
    · exact (hinv.sends result hexec.running).extends hextends

theorem installLaw_preserved :
    (agent cJSONParse).Preserves
      (fun p e => Pool.guarded (installsOn host ticket) p e = true)
      (InstallLaw cJSONParse host ticket) := by
  apply Pool.preserves
  · intro p p' text hinv hstart
    constructor
    · intro k hk
      rw [hstart.shared]
      rcases hstart.pending hk with hnew | hold
      · cases List.mem_singleton.mp hnew
        trivial
      · exact hinv.follows k hold
    · rw [hstart.shared]
      exact hinv.called
    · intro result hk
      rw [hstart.shared]
      rcases hstart.pending hk with hnew | hold
      · cases List.mem_singleton.mp hnew
      · exact hinv.sends result hold
    · rw [hstart.shared]
      exact hinv.sent
  · intro p p' x k o hinv hguard hperform hexec
    exact hinv.step hguard hperform hexec

/-- The agent has handed the id to the installer of the platform for that message. -/
def PassedToInstaller (host : PatchHost) (s : AgentState) (ticket : Nat) (id : List UInt8) :
    Prop :=
  exists ids rebootAfter timeoutSecs,
    (ticket, Call.patchesInstall ids rebootAfter timeoutSecs) ∈ s.calls ∧
      id ∈ (leoPatchesInstall host ids rebootAfter).passed

/-- In every run, when a result with exit code 0 has been sent for a message, the
message has an order; if it is INSTALL_PATCHES, the ids of the order that the platform
has went to the installer, and no others. -/
theorem passedToInstaller_iff {es : List Event} {q : State}
    (hrun : (agent cJSONParse).run agentStart es = some q)
    (hhost : (agent cJSONParse).Meets
      (fun p e => Pool.guarded (installsOn host ticket) p e = true) agentStart es)
    {result : CmdResult} (hsent : (ticket, result) ∈ q.shared.sent)
    (hexit : result.exitCode = 0) :
    exists order, Agent.orderOf cJSONParse q.shared ticket = some order ∧
      forall ids rebootAfter timeoutSecs,
        order = Order.installPatches ids rebootAfter timeoutSecs ->
        ids.length ≤ patchInstallMaxCount ->
        forall id, PassedToInstaller host q.shared ticket id <->
          id ∈ ids ∧ host.finds id = true := by
  have hlaw := installLaw_preserved.run installLaw_start hhost hrun
  rcases (hlaw.sent result hsent).right hexit with ⟨order, horder, hpatches⟩
  refine ⟨order, horder, ?_⟩
  intro ids rebootAfter timeoutSecs heq hfit id
  rcases hpatches ids rebootAfter timeoutSecs heq with ⟨hcall, hsucceeded⟩
  constructor
  · rintro ⟨ids', rebootAfter', timeoutSecs', hcall', hpassed⟩
    have hsame := hlaw.called ticket ids' rebootAfter' timeoutSecs' hcall'
    rw [horder, heq] at hsame
    cases hsame
    exact (passed_of_succeeded hfit hsucceeded id).mp hpassed
  · intro hlisted
    exact ⟨ids, rebootAfter, timeoutSecs, hcall,
      (passed_of_succeeded hfit hsucceeded id).mpr hlisted⟩

end Agent

end Agent
end LeoOne
