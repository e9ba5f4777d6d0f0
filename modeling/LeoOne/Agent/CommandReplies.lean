import LeoOne.Agent.Commands

/-!
# One CMD_RESULT for each command

Each message of a command type puts the agent in debt of one CMD_RESULT.  The
debt is carried by exactly one step that is still to be taken: by the WebSocket
thread up to the creation of the command thread, then by that thread, and the
step that hands the CMD_RESULT to `leo_conn_send` settles it.
-/

namespace LeoOne
namespace Agent

open Foundation
open Wire

/-- The ticket that a step answers for, with the command id it holds. -/
def Task.owner? : Task -> Option (Nat × List UInt8)
  | receive _ => none
  | reserve ticket id _ => some (ticket, id)
  | allocate ticket id _ => some (ticket, id)
  | spawn ticket id _ => some (ticket, id)
  | run ticket id _ => some (ticket, id)
  | aptInstall ticket id _ _ => some (ticket, id)
  | systemctl ticket id _ => some (ticket, id)
  | send ticket result => some (ticket, result.commandId)
  | release => none

def Task.owes (ticket : Nat) (k : Task) : Bool :=
  k.owner?.any fun o => o.1 = ticket

def owners (tasks : List Task) : List (Nat × List UInt8) :=
  tasks.filterMap Task.owner?

theorem countP_owes (ticket : Nat) (tasks : List Task) :
    tasks.countP (Task.owes ticket) =
      (owners tasks).countP fun o => o.1 = ticket := by
  rw [owners, List.countP_filterMap]
  apply List.countP_congr
  intro k _
  unfold Task.owes
  cases k.owner? with
  | none =>
      exact Iff.rfl
  | some o =>
      exact Iff.rfl

/-- The messages that are answered with a CMD_RESULT. -/
def isCommand (cJSONParse : List UInt8 -> Option Json) (text : List UInt8) : Bool :=
  (onMessage cJSONParse text).head?.any fun d => (dispatch d).isSome

/-- The command id that the agent reads from a text. -/
def commandIdOf (cJSONParse : List UInt8 -> Option Json) (text : List UInt8) :
    List UInt8 :=
  ((onMessage cJSONParse text).head?.map Dispatched.id).getD []

/-- The number of CMD_RESULTs handed to `leo_conn_send` for a message. -/
def AgentState.replies (s : AgentState) (ticket : Nat) : Nat :=
  s.sent.countP fun e => e.1 = ticket

/-!
## What a step does to the debt
-/

theorem owners_finish (ticket : Nat) (result : CmdResult) :
    owners (finish ticket result) = [(ticket, result.commandId)] :=
  rfl

theorem resultOf_commandId (id onTimeout onProtocol onSystem : List UInt8)
    (outcome : ExecOutcome) :
    (resultOf id onTimeout onProtocol onSystem outcome).commandId = id := by
  cases outcome <;> rfl

theorem transferResult_commandId (id : List UInt8)
    (outcome : Except (List UInt8) (List UInt8)) :
    (transferResult id outcome).commandId = id := by
  unfold transferResult
  split <;> rfl

theorem inventoryResult_commandId (id : List UInt8) (x : Input) :
    (inventoryResult id x).commandId = id := by
  unfold inventoryResult
  simp only
  split
  · rfl
  · split
    · rfl
    · split <;> rfl

/-- Whatever a command thread calls and whatever comes of it, one step carries
the debt on. -/
theorem owners_runOrder (x : Input) (ticket : Nat) (id : List UInt8) (order : Order) :
    owners (runOrder x ticket id order).2 = [(ticket, id)] := by
  cases order with
  | script interpreter script timeoutSecs =>
      simp only [runOrder, owners_finish, scriptResult, resultOf_commandId]
  | installPkg names timeoutSecs =>
      simp only [runOrder]
      split
      · rfl
      · rw [owners_finish, aptUpdateResult, resultOf_commandId]
  | reboot delaySec timeoutSecs =>
      simp only [runOrder]
      split
      · rw [owners_finish, rebootResult, resultOf_commandId]
      · rfl
  | installPatches ids rebootAfter timeoutSecs =>
      simp only [runOrder, owners_finish, patchesResult, resultOf_commandId]
  | fileTransfer url name sha256 size timeoutSecs =>
      simp only [runOrder, owners_finish, transferResult_commandId]
  | collectInventory =>
      simp only [runOrder, owners_finish, inventoryResult_commandId]

/-- What one step of the agent does: a text arrives, the debt of a ticket is
passed on or settled, or a slot is released. -/
inductive Handles (cJSONParse : List UInt8 -> Option Json) (x : Input)
    (s : AgentState) : Task -> AgentState -> List Task -> Prop where
  | received {text created} :
      owners created = (if isCommand cJSONParse text then
        [(s.received.length, commandIdOf cJSONParse text)] else []) ->
      Handles cJSONParse x s (Task.receive text)
        { s with received := s.received ++ [text] } created
  | passed {k t ticket id id' created} :
      k.owner? = some (ticket, id) ->
      t.received = s.received -> t.sent = s.sent ->
      owners created = [(ticket, id')] ->
      id' = id ∨ id' = strncpy id uuidStrLen ->
      Handles cJSONParse x s k t created
  | settled {ticket result} :
      Handles cJSONParse x s (Task.send ticket result)
        { s with sent := (ticket, result) :: s.sent } []
  | unfit {ticket result} :
      x.fits = false ->
      Handles cJSONParse x s (Task.send ticket result) s []
  | released :
      Handles cJSONParse x s Task.release
        { s with execActiveCount := s.execActiveCount - 1 } []

section Agent

variable {cJSONParse : List UInt8 -> Option Json}

theorem handles_receive {x : Input} {s : AgentState} {text : List UInt8}
    {o : Outcome AgentState Task}
    (h : perform cJSONParse (Task.receive text) x s = some o) :
    Handles cJSONParse x s (Task.receive text) o.shared o.created := by
  simp only [perform] at h
  split at h
  · rename_i hmessage
    cases h
    apply Handles.received
    simp [isCommand, hmessage, andThen, Outcome.created, owners]
  · rename_i d rest hmessage
    have hid : commandIdOf cJSONParse text = d.id := by
      simp [commandIdOf, hmessage]
    split at h
    · rename_i hdispatch
      cases h
      apply Handles.received
      simp [isCommand, hmessage, hdispatch, andThen, Outcome.created, owners]
    · rename_i message hdispatch
      cases h
      apply Handles.received
      rw [if_pos (by simp [isCommand, hmessage, hdispatch]), hid]
      rfl
    · rename_i order hdispatch
      cases h
      apply Handles.received
      rw [if_pos (by simp [isCommand, hmessage, hdispatch]), hid]
      rfl

theorem handles_perform {x : Input} {s : AgentState} {k : Task}
    {o : Outcome AgentState Task} (h : perform cJSONParse k x s = some o) :
    Handles cJSONParse x s k o.shared o.created := by
  cases k with
  | receive text =>
      exact handles_receive h
  | reserve ticket id order =>
      simp only [perform] at h
      split at h
      · cases h
        exact Handles.passed rfl rfl rfl rfl (Or.inl rfl)
      · cases h
        exact Handles.passed rfl rfl rfl rfl (Or.inl rfl)
  | allocate ticket id order =>
      simp only [perform] at h
      split at h
      · cases h
        exact Handles.passed rfl rfl rfl rfl (Or.inl rfl)
      · cases h
        exact Handles.passed rfl rfl rfl rfl (Or.inl rfl)
  | spawn ticket id order =>
      simp only [perform] at h
      split at h
      · cases h
        exact Handles.passed rfl rfl rfl rfl (Or.inr rfl)
      · cases h
        exact Handles.passed rfl rfl rfl rfl (Or.inl rfl)
  | run ticket id order =>
      cases h
      refine Handles.passed rfl rfl rfl ?_ (Or.inl rfl)
      simp only [andThen, Outcome.created, List.flatten_nil, List.append_nil]
      exact owners_runOrder x ticket id order
  | aptInstall ticket id names timeoutSecs =>
      cases h
      refine Handles.passed rfl rfl rfl ?_ (Or.inl rfl)
      simp only [andThen, Outcome.created, List.flatten_nil, List.append_nil]
      rw [owners_finish, aptInstallResult, resultOf_commandId]
  | systemctl ticket id timeoutSecs =>
      cases h
      refine Handles.passed rfl rfl rfl ?_ (Or.inl rfl)
      simp only [andThen, Outcome.created, List.flatten_nil, List.append_nil]
      rw [owners_finish, rebootResult, resultOf_commandId]
  | send ticket result =>
      simp only [perform] at h
      split at h
      · cases h
        exact Handles.settled
      · rename_i hfits
        cases h
        exact Handles.unfit (Bool.not_eq_true _ ▸ hfits)
  | release =>
      cases h
      exact Handles.released

/-!
## The debts of the agent
-/

/-- The CMD_RESULTs that a message is worth. -/
def debt (cJSONParse : List UInt8 -> Option Json) (s : AgentState) (ticket : Nat) : Nat :=
  if s.received[ticket]?.any (isCommand cJSONParse) then 1 else 0

/-- The id was read from the text with that ticket. -/
def IsIdOf (cJSONParse : List UInt8 -> Option Json) (s : AgentState) (ticket : Nat)
    (id : List UInt8) : Prop :=
  exists text, s.received[ticket]? = some text ∧ id = commandIdOf cJSONParse text

/-- The serialisation of a CMD_RESULT fits its buffer. -/
def fitting (_ : State) (k : Task) (x : Input) : Bool :=
  match k with
  | Task.send _ _ => x.fits
  | _ => true

/-- What is handed over and what is still to be done make up the debt, under the
ids of the messages. -/
structure ReplyLaw (cJSONParse : List UInt8 -> Option Json) (p : State) : Prop where
  balance : forall ticket, p.shared.replies ticket +
    Pool.pendingCount (Task.owes ticket) p = debt cJSONParse p.shared ticket
  carried : forall {k ticket id}, p.Pending k -> k.owner? = some (ticket, id) ->
    IsIdOf cJSONParse p.shared ticket id
  sent : forall {ticket result}, (ticket, result) ∈ p.shared.sent ->
    IsIdOf cJSONParse p.shared ticket result.commandId

/-- The id field of a message is short enough for every copy of it. -/
theorem strncpy_commandIdOf (text : List UInt8) :
    strncpy (commandIdOf cJSONParse text) uuidStrLen = commandIdOf cJSONParse text := by
  apply List.take_of_length_le
  simp only [commandIdOf, onMessage, leoProtoParse]
  split
  · exact Nat.zero_le _
  · rename_i msg hparse
    split at hparse
    · cases hparse
    · split at hparse
      · cases hparse
        simp only [List.head?_cons, Option.map_some, Option.getD_some]
        split
        · exact List.length_take_le _ _
        · exact Nat.zero_le _
      · cases hparse

/-- A new text makes a debt, under its own ticket. -/
theorem debt_append (s : AgentState) (text : List UInt8) (ticket : Nat) :
    debt cJSONParse { s with received := s.received ++ [text] } ticket =
      debt cJSONParse s ticket +
        if s.received.length = ticket ∧ isCommand cJSONParse text = true then 1 else 0 := by
  unfold debt
  rcases Nat.lt_trichotomy ticket s.received.length with hlt | heq | hgt
  · rw [List.getElem?_append_left hlt, if_neg (c := _ ∧ _) (by omega)]
    rfl
  · subst heq
    rw [List.getElem?_concat_length, List.getElem?_eq_none (Nat.le_refl _)]
    cases hcommand : isCommand cJSONParse text with
    | true =>
        simp [hcommand]
    | false =>
        simp [hcommand]
  · have hlength : (s.received ++ [text]).length ≤ ticket := by
      rw [List.length_append]
      exact hgt
    rw [List.getElem?_eq_none hlength, List.getElem?_eq_none (Nat.le_of_lt hgt),
      if_neg (c := _ ∧ _) (by omega)]
    rfl

theorem Handles.balance {x : Input} {s t : AgentState} {k : Task} {created : List Task}
    (h : Handles cJSONParse x s k t created) {p : State} (hfits : fitting p k x = true)
    (ticket : Nat) :
    t.replies ticket + created.countP (Task.owes ticket) + debt cJSONParse s ticket =
      s.replies ticket + [k].countP (Task.owes ticket) + debt cJSONParse t ticket := by
  rw [countP_owes, countP_owes]
  cases h with
  | received howners =>
      rename_i text
      rw [howners, debt_append]
      simp only [AgentState.replies, owners, Task.owner?, List.filterMap_cons,
        List.filterMap_nil, List.countP_nil]
      by_cases hcommand : isCommand cJSONParse text = true
      · rw [if_pos hcommand, List.countP_singleton]
        simp only [hcommand, and_true, decide_eq_true_eq]
        omega
      · rw [if_neg hcommand, if_neg (c := _ ∧ _) (fun hand => hcommand hand.right)]
        rfl
  | passed howner hreceived hsent howners _ =>
      rw [howners]
      simp only [AgentState.replies, debt, hreceived, hsent, owners, howner,
        List.filterMap_cons, List.filterMap_nil, List.countP_singleton]
  | settled =>
      simp only [AgentState.replies, owners, Task.owner?, List.filterMap_cons,
        List.filterMap_nil, List.countP_nil, List.countP_cons, debt]
      omega
  | unfit hunfit =>
      rw [fitting, hunfit] at hfits
      cases hfits
  | released =>
      rfl

/-- Tickets keep their texts. -/
theorem Handles.isIdOf {x : Input} {s t : AgentState} {k : Task} {created : List Task}
    (h : Handles cJSONParse x s k t created) {ticket : Nat} {id : List UInt8}
    (hid : IsIdOf cJSONParse s ticket id) : IsIdOf cJSONParse t ticket id := by
  rcases hid with ⟨text, hget, heq⟩
  refine ⟨text, ?_, heq⟩
  cases h with
  | received _ =>
      rw [List.getElem?_append_left (List.getElem?_eq_some_iff.mp hget).1]
      exact hget
  | passed _ hreceived _ _ _ =>
      rw [hreceived]
      exact hget
  | settled =>
      exact hget
  | unfit _ =>
      exact hget
  | released =>
      exact hget

theorem Handles.carries {x : Input} {s t : AgentState} {k j : Task} {created : List Task}
    (h : Handles cJSONParse x s k t created)
    (hk : forall {ticket id}, k.owner? = some (ticket, id) ->
      IsIdOf cJSONParse s ticket id)
    (hj : j ∈ created) {ticket : Nat} {id : List UInt8}
    (howner : j.owner? = some (ticket, id)) : IsIdOf cJSONParse t ticket id := by
  have hmem : (ticket, id) ∈ owners created := List.mem_filterMap.mpr ⟨j, hj, howner⟩
  cases h with
  | received howners =>
      rename_i text
      rw [howners] at hmem
      split at hmem
      · cases List.mem_singleton.mp hmem
        exact ⟨text, List.getElem?_concat_length, rfl⟩
      · cases hmem
  | passed hkowner hreceived _ howners hcopy =>
      rw [howners] at hmem
      cases List.mem_singleton.mp hmem
      rcases hk hkowner with ⟨text, hget, heq⟩
      refine ⟨text, by rw [hreceived]; exact hget, ?_⟩
      rcases hcopy with hsame | hcut
      · exact hsame.trans heq
      · rw [hcut, heq]
        exact strncpy_commandIdOf text
  | settled =>
      cases hj
  | unfit _ =>
      cases hj
  | released =>
      cases hj

theorem Handles.sends {x : Input} {s t : AgentState} {k : Task} {created : List Task}
    (h : Handles cJSONParse x s k t created)
    (hk : forall {ticket id}, k.owner? = some (ticket, id) ->
      IsIdOf cJSONParse s ticket id)
    (hs : forall {ticket result}, (ticket, result) ∈ s.sent ->
      IsIdOf cJSONParse s ticket result.commandId)
    {ticket : Nat} {result : CmdResult} (hsent : (ticket, result) ∈ t.sent) :
    IsIdOf cJSONParse t ticket result.commandId := by
  apply h.isIdOf
  cases h with
  | passed _ _ hsame _ _ =>
      rw [hsame] at hsent
      exact hs hsent
  | settled =>
      rcases List.mem_cons.mp hsent with hnew | hold
      · cases hnew
        exact hk rfl
      · exact hs hold
  | _ =>
      exact hs hsent

theorem ReplyLaw.step {p p' : State} {x : Input} {k : Task}
    {o : Outcome AgentState Task} (hinv : ReplyLaw cJSONParse p)
    (hfits : fitting p k x = true) (hperform : perform cJSONParse k x p.shared = some o)
    (hexec : Pool.Executed p p' k o) : ReplyLaw cJSONParse p' := by
  have hhandles := handles_perform hperform
  rw [← hexec.shared] at hhandles
  have hk : forall {ticket id}, k.owner? = some (ticket, id) ->
      IsIdOf cJSONParse p.shared ticket id := by
    intro ticket id howner
    exact hinv.carried hexec.running howner
  constructor
  · intro ticket
    have hbefore := hinv.balance ticket
    have hstep := hhandles.balance hfits ticket
    have hcount := hexec.count (Task.owes ticket)
    omega
  · intro j ticket id hj howner
    rcases hexec.pending hj with hnew | hold
    · exact hhandles.carries hk hnew howner
    · exact hhandles.isIdOf (hinv.carried hold howner)
  · intro ticket result hsent
    exact hhandles.sends hk hinv.sent hsent

theorem replyLaw_start : ReplyLaw cJSONParse agentStart := by
  constructor
  · intro ticket
    rfl
  · rintro k ticket id ⟨q, hq, _⟩
    cases hq
  · intro ticket result hsent
    cases hsent

theorem replyLaw_preserved :
    (agent cJSONParse).Preserves (fun p e => Pool.guarded fitting p e = true)
      (ReplyLaw cJSONParse) := by
  apply Pool.preserves
  · intro p p' text hinv hstart
    constructor
    · intro ticket
      rw [hstart.shared, hstart.count]
      exact hinv.balance ticket
    · intro k ticket id hk howner
      rw [hstart.shared]
      rcases hstart.pending hk with hnew | hold
      · rw [List.mem_singleton.mp hnew] at howner
        cases howner
      · exact hinv.carried hold howner
    · rw [hstart.shared]
      exact hinv.sent
  · intro p p' x k o hinv hfits hperform hexec
    exact hinv.step hfits hperform hexec

/-!
## The handling of a message ends
-/

/-- The steps that a step may lead to, itself included. -/
def Task.effort : Task -> Nat
  | receive _ => 8
  | reserve _ _ _ => 7
  | allocate _ _ _ => 6
  | spawn _ _ _ => 5
  | run _ _ _ => 4
  | aptInstall _ _ _ _ => 3
  | systemctl _ _ _ => 3
  | send _ _ => 1
  | release => 1

theorem effort_finish (ticket : Nat) (result : CmdResult) :
    ((finish ticket result).map Task.effort).sum = 2 :=
  rfl

theorem effort_runOrder (x : Input) (ticket : Nat) (id : List UInt8) (order : Order) :
    ((runOrder x ticket id order).2.map Task.effort).sum < 4 := by
  cases order with
  | installPkg names timeoutSecs =>
      simp only [runOrder]
      split
      · simp [Task.effort]
      · simp [effort_finish]
  | reboot delaySec timeoutSecs =>
      simp only [runOrder]
      split
      · simp [effort_finish]
      · simp [Task.effort]
  | _ =>
      simp [runOrder, effort_finish]

/-- Every step can be taken, whatever it meets, and leaves less to do. -/
theorem perform_some (k : Task) (x : Input) (s : AgentState) :
    exists o, perform cJSONParse k x s = some o ∧
      (o.created.map Task.effort).sum < k.effort := by
  cases k with
  | receive text =>
      simp only [perform]
      split
      · exact ⟨_, rfl, by simp [andThen, Outcome.created, Task.effort]⟩
      · split
        · exact ⟨_, rfl, by simp [andThen, Outcome.created, Task.effort]⟩
        · exact ⟨_, rfl, by simp [andThen, Outcome.created, Task.effort]⟩
        · exact ⟨_, rfl, by simp [andThen, Outcome.created, Task.effort]⟩
  | run ticket id order =>
      refine ⟨_, rfl, ?_⟩
      simp only [andThen, Outcome.created, List.flatten_nil, List.append_nil]
      exact effort_runOrder x ticket id order
  | aptInstall ticket id names timeoutSecs =>
      exact ⟨_, rfl, by simp [andThen, Outcome.created, effort_finish, Task.effort]⟩
  | systemctl ticket id timeoutSecs =>
      exact ⟨_, rfl, by simp [andThen, Outcome.created, effort_finish, Task.effort]⟩
  | release =>
      exact ⟨_, rfl, by simp [andThen, Outcome.created, Task.effort]⟩
  | _ =>
      simp only [perform]
      split
      · exact ⟨_, rfl, by simp [andThen, Outcome.created, Task.effort]⟩
      · exact ⟨_, rfl, by simp [andThen, Outcome.created, Task.effort]⟩

theorem effort_start : Pool.weight Task.effort agentStart = 0 :=
  rfl

/-- Every text adds eight steps at most. -/
theorem run_effort {p q : State} {es : List Event}
    (hrun : (agent cJSONParse).run p es = some q) :
    Pool.weight Task.effort q + es.length ≤
      Pool.weight Task.effort p + 9 * Pool.starts es := by
  apply Pool.run_weight (c := 8) ?_ ?_ hrun
  · intro text
    exact Nat.le_refl 8
  · intro k x s o hperform
    rcases @perform_some cJSONParse k x s with ⟨o', hperform', hless⟩
    rw [hperform] at hperform'
    cases hperform'
    exact hless

end Agent

/-!
## Runs
-/

/-- EXEC_SCRIPT, INSTALL_PKG, REBOOT, COLLECT_INVENTORY, INSTALL_PATCHES and
FILE_TRANSFER. -/
def Branch.isExecuted : Branch -> Bool
  | execScript => true
  | installPkg => true
  | reboot => true
  | collectInventory => true
  | installPatches => true
  | fileTransfer => true
  | _ => false

theorem dispatch_isSome (d : Dispatched) : (dispatch d).isSome = d.branch.isExecuted := by
  cases d with
  | mk branch id body =>
      cases branch <;> rfl

/-- The message that the agent reads from a text with a type and a UUID. -/
theorem onMessage_uuid {cJSONParse : List UInt8 -> Option Json} {text : List UInt8}
    {root : Json} {type : Decimal} {u : Uuid} (hparse : cJSONParse text = some root)
    (htype : root.getObjectItem "type" = some (Json.num type))
    (hid : root.getObjectItem "id" = some (Json.str u.text)) :
    onMessage cJSONParse text =
      [{ branch := branchOf type.toInt
         id := utf8 u.text
         body := root.getObjectItem "body" }] := by
  simp only [onMessage, leoProtoParse, hparse, htype, hid, cString_uuid]

/-- In every run in which the CMD_RESULTs fit their buffer, a message of one of
the six types, with any UUID and any body, has been answered by exactly one
CMD_RESULT or is about to be: what has been handed to `leo_conn_send` and the
steps that will do so are one together, and they carry the id of the message.
No step can get stuck, and each text is handled in at most eight steps. -/
theorem one_result_per_command (cJSONParse : List UInt8 -> Option Json)
    {es : List Event} {q : State} (hrun : (agent cJSONParse).run agentStart es = some q)
    (hfits : (agent cJSONParse).Meets (fun p e => Pool.guarded fitting p e = true)
      agentStart es)
    {ticket : Nat} {text : List UInt8} {root : Json} {type : Decimal} {u : Uuid}
    (hreceived : q.shared.received[ticket]? = some text)
    (hparse : cJSONParse text = some root)
    (htype : root.getObjectItem "type" = some (Json.num type))
    (hexecuted : (branchOf type.toInt).isExecuted = true)
    (hid : root.getObjectItem "id" = some (Json.str u.text)) :
    q.shared.replies ticket + Pool.pendingCount (Task.owes ticket) q = 1 ∧
    (forall result, (ticket, result) ∈ q.shared.sent ->
      result.commandId = utf8 u.text) ∧
    (forall k, q.Pending k -> forall x, (perform cJSONParse k x q.shared).isSome = true) ∧
    Pool.weight Task.effort q + es.length ≤ 9 * Pool.starts es := by
  have hlaw := replyLaw_preserved.run replyLaw_start hfits hrun
  have hmessage := onMessage_uuid hparse htype hid
  refine ⟨?_, ?_, ?_, ?_⟩
  · have hcommand : isCommand cJSONParse text = true := by
      rw [isCommand, hmessage]
      exact (dispatch_isSome _).trans hexecuted
    rw [hlaw.balance ticket, debt, hreceived]
    exact if_pos hcommand
  · intro result hsent
    rcases hlaw.sent hsent with ⟨text', htext', hcarried⟩
    rw [hreceived] at htext'
    cases htext'
    rw [hcarried, commandIdOf, hmessage]
    rfl
  · intro k _ x
    rcases @perform_some cJSONParse k x q.shared with ⟨o, hperform, _⟩
    rw [hperform]
    rfl
  · have hweight := run_effort hrun
    rw [effort_start, Nat.zero_add] at hweight
    exact hweight

namespace Sample

def command : Uuid where
  text := "c0000000-0000-4000-8000-000000000003"
  canonical := by decide

/-- A reboot with an empty body. -/
def rebootMessage : Envelope where
  type := MsgType.reboot
  id := command.text
  ts := 0
  body := { text := utf8 "\x7b\x7d", value := Json.obj [] }

/-- The parser, on the text of that message. -/
def parser (text : List UInt8) : Option Json :=
  if text = rebootMessage.marshal then some rebootMessage.tree else none

/-- The reboot is scheduled at the first attempt. -/
def scheduled : Input :=
  { exec := ExecOutcome.ok { exitCode := 0, stdout := [], stderr := [] } }

/-- The message is dispatched by goroutine 0 and executed by goroutine 1. -/
def rebootRun : List Event :=
  [PoolEvent.start rebootMessage.marshal, PoolEvent.exec 0 scheduled,
    PoolEvent.exec 0 scheduled, PoolEvent.exec 0 scheduled, PoolEvent.exec 0 scheduled,
    PoolEvent.exec 1 scheduled, PoolEvent.exec 1 scheduled, PoolEvent.exec 1 scheduled]

end Sample

theorem one_result_per_command_reboot :
    exists q, (agent Sample.parser).run agentStart Sample.rebootRun = some q ∧
      q.shared.sent.length = 1 ∧
      q.shared.replies 0 + Pool.pendingCount (Task.owes 0) q = 1 ∧
      (forall result, (0, result) ∈ q.shared.sent ->
        result.commandId = utf8 Sample.command.text) := by
  obtain ⟨q, hrun, hsent, hreceived⟩ : exists q,
      (agent Sample.parser).run agentStart Sample.rebootRun = some q ∧
        q.shared.sent.length = 1 ∧
        q.shared.received[0]? = some Sample.rebootMessage.marshal :=
    ⟨_, rfl, rfl, rfl⟩
  have hlaw := one_result_per_command Sample.parser hrun (by decide) hreceived
    (if_pos rfl) (Envelope.tree_type _) (by decide) (Envelope.tree_id _)
  exact ⟨q, hrun, hsent, hlaw.left, hlaw.right.left⟩

end Agent
end LeoOne
