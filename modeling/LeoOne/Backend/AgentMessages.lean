import LeoOne.Agent.CommandReplies
import LeoOne.Backend.Server

/-!
# Messages of the agent on the backend

What `Dispatch` decodes from the messages that the agent queues for a command: its
CMD_RESULT, or the PONG that answers a PING.
-/

namespace LeoOne
namespace Backend

open Foundation
open Wire

/-- The body of the CMD_RESULT that `leo_proto_build_cmd_result` has written, as
`handleCmdResult` decodes it. -/
def cmdResultBody (result : Agent.CmdResult) : CmdResultBody where
  commandId := goString result.commandId
  exitCode := result.exitCode
  stdout := goString result.stdout
  stderr := goString result.stderr

theorem goString_uuid (u : Uuid) : goString (utf8 u.text) = u.text := by
  apply goString_ascii
  intro c hc
  have hplain := List.all_eq_true.mp (UuidText.normalize_some u.canonical).right c hc
  rw [UuidText.isPlain, Bool.and_eq_true, decide_eq_true_eq, decide_eq_true_eq] at hplain
  exact hplain

/-- The id of the command comes back as it was sent. -/
theorem cmdResultBody_commandId {result : Agent.CmdResult} {u : Uuid}
    (h : result.commandId = utf8 u.text) : (cmdResultBody result).commandId = u.text := by
  show goString result.commandId = u.text
  rw [h, goString_uuid]

theorem fitsText_goString (bytes : List UInt8) : fitsText (goString bytes) = true := by
  rw [fitsText, Bool.not_eq_true', ← Bool.not_eq_true, List.contains_iff_mem]
  exact goString_no_nul bytes

/-!
## The answers to a command
-/

deriving instance DecidableEq for CmdResultBody

/-- The message is a PING, which `_on_message` answers with a PONG. -/
def isPing (cJSONParse : List UInt8 -> Option Json) (text : List UInt8) : Bool :=
  (Agent.onMessage cJSONParse text).head?.any fun d => d.branch = Agent.Branch.ping

/-- The CMD_RESULTs that the agent has queued for a message. -/
def resultsFor (s : Agent.AgentState) (ticket : Nat) : List CmdResultBody :=
  (s.sent.filter fun e => e.1 = ticket).map fun e => cmdResultBody e.2

/-- The messages that the agent has queued to answer a message. -/
def answers (cJSONParse : List UInt8 -> Option Json) (s : Agent.AgentState)
    (ticket : Nat) : List Incoming :=
  (if s.received[ticket]?.any (isPing cJSONParse) then [Incoming.pong] else []) ++
    (resultsFor s ticket).map fun body => Incoming.cmdResult (some body)

theorem mem_resultsFor {s : Agent.AgentState} {ticket : Nat} {body : CmdResultBody} :
    body ∈ resultsFor s ticket <->
      exists result, (ticket, result) ∈ s.sent ∧ cmdResultBody result = body := by
  simp only [resultsFor, List.mem_map, List.mem_filter, decide_eq_true_eq, Prod.exists]
  constructor
  · rintro ⟨n, result, ⟨hmem, rfl⟩, heq⟩
    exact ⟨result, hmem, heq⟩
  · rintro ⟨result, hmem, heq⟩
    exact ⟨ticket, result, ⟨hmem, rfl⟩, heq⟩

theorem length_resultsFor (s : Agent.AgentState) (ticket : Nat) :
    (resultsFor s ticket).length = s.replies ticket := by
  rw [resultsFor, List.length_map, Agent.AgentState.replies, List.countP_eq_length_filter]

/-- A frame that fits one callback reaches the agent whole. -/
theorem rxChunks_zero {frame : List UInt8} (h : frame.length ≤ Agent.maxMsgSize) :
    (Agent.rxChunks frame)[0]? = some frame := by
  rw [Agent.rxChunks_of_le h]
  rfl

section Answered

variable {cJSONParse : List UInt8 -> Option Json} {es : List Agent.Event}
  {q : Agent.State} {ticket : Nat} {m : Envelope}

/-- The message asks for a CMD_RESULT exactly if it is one of the six types that are
executed. -/
theorem isCommand_envelope (hparse : cJSONParse m.marshal = some m.tree) :
    Agent.isCommand cJSONParse m.marshal = (Agent.branchFor m.type).isExecuted := by
  rw [Agent.isCommand, Agent.onMessage_of_parse hparse]
  exact Agent.dispatch_isSome _

/-- When nothing is left to do for a message, it has one result if its type is one of
the six, and none otherwise. -/
theorem length_results_of_done
    (hrun : (Agent.agent cJSONParse).run Agent.agentStart es = some q)
    (hfits : (Agent.agent cJSONParse).Meets
      (fun p e => Pool.guarded Agent.fitting p e = true) Agent.agentStart es)
    (hparse : cJSONParse m.marshal = some m.tree)
    (hreceived : q.shared.received[ticket]? = some m.marshal)
    (hdone : Pool.pendingCount (Agent.Task.owes ticket) q = 0) :
    (resultsFor q.shared ticket).length =
      if (Agent.branchFor m.type).isExecuted then 1 else 0 := by
  have hlaw := Agent.replyLaw_preserved.run Agent.replyLaw_start hfits hrun
  have hbalance := hlaw.balance ticket
  rw [hdone, Nat.add_zero, Agent.debt, hreceived] at hbalance
  rw [length_resultsFor, hbalance, Option.any_some, isCommand_envelope hparse]

/-- The results carry the id of the message. -/
theorem commandId_of_result {u : Uuid}
    (hrun : (Agent.agent cJSONParse).run Agent.agentStart es = some q)
    (hfits : (Agent.agent cJSONParse).Meets
      (fun p e => Pool.guarded Agent.fitting p e = true) Agent.agentStart es)
    (hparse : cJSONParse m.marshal = some m.tree) (hid : m.id = u.text)
    (hreceived : q.shared.received[ticket]? = some m.marshal)
    {body : CmdResultBody} (hbody : body ∈ resultsFor q.shared ticket) :
    body.commandId = u.text := by
  have hlaw := Agent.replyLaw_preserved.run Agent.replyLaw_start hfits hrun
  rcases mem_resultsFor.mp hbody with ⟨result, hsent, rfl⟩
  apply cmdResultBody_commandId
  rcases hlaw.sent hsent with ⟨text, htext, hcarried⟩
  rw [hreceived] at htext
  cases htext
  rw [hcarried, Agent.commandIdOf, Agent.onMessage_of_parse hparse]
  show (Agent.cString m.id).take (Agent.uuidStrLen - 1) = utf8 u.text
  rw [hid, Agent.cString_uuid]

end Answered

end Backend
end LeoOne
