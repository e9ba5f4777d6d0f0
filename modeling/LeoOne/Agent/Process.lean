import LeoOne.Foundation.Parts
import LeoOne.Agent.RdThreads
import LeoOne.Agent.Slots

/-!
# The threads of the agent

`leo_agent_stop` waits for the command threads, then for the session thread of the
remote desktop, then for the thread of the connection, and frees the agent.  The
thread of the connection receives messages until `leo_conn_destroy` asks it to
stop, and starts the other threads.

The steps of the commands and of the remote desktop are those of their own models.
The threads of the heartbeat, the metrics and the patches are joined before
anything else and start no thread; they are left out.
-/

namespace LeoOne
namespace Agent

open Foundation
open Wire

/-!
## The remote desktop messages
-/

/-- The arguments that `_dispatch_remote_desktop_start` passes on. -/
def rdStartRequest (body : Option Json) : Option RdRequest :=
  match body with
  | none => none
  | some b =>
      match stringItem b "session_id", stringItem b "ws_url" with
      | some session, some url =>
          if session = [] ∨ url = [] then none
          else
            some
              { sessionId := session
                wsUrl := url
                mode := (stringItem b "mode").getD (utf8 "view")
                fps := rdNumber b "fps" 1 30 8
                quality := rdNumber b "quality" 1 100 60
                maxWidth := rdNumber b "max_width" 1 7680 1920
                maxHeight := rdNumber b "max_height" 1 7680 1080 }
      | _, _ => none

/-- The dispatcher is the request, followed by `leo_rd_start`. -/
theorem dispatchRemoteDesktopStart_eq (host : RdHost) (body : Option Json) :
    dispatchRemoteDesktopStart host body =
      (rdStartRequest body).bind fun r =>
        leoRdStart host r.sessionId r.wsUrl r.mode r.fps r.quality r.maxWidth
          r.maxHeight := by
  cases body with
  | none =>
      rfl
  | some b =>
      simp only [dispatchRemoteDesktopStart, rdStartRequest]
      cases stringItem b "session_id" with
      | none =>
          rfl
      | some session =>
          cases stringItem b "ws_url" with
          | none =>
              rfl
          | some url =>
              by_cases hempty : session = [] ∨ url = []
              · simp only [if_pos hempty, Option.bind_none]
              · simp only [if_neg hempty, Option.bind_some]

/-!
## The process
-/

/-- How `leo_agent_stop` ends. -/
inductive StopEnd where
  | freed
  | abandoned
  deriving DecidableEq

/-- What the threads share: the parts of the agent that the commands and the remote
desktop use, and two flags of the connection.  `execWaited` and `stopped` say how
far `leo_agent_stop` has come. -/
structure AgentProc where
  agent : AgentState
  desktop : RdGlobals
  shouldStop : Bool
  threadExited : Bool
  execWaited : Bool
  stopped : Option StopEnd

/-- The steps.  `loop` is the thread of the connection at the test of
`should_stop`, `service` the same thread in `lws_service`, and `leave` its last
section; the others are the sections of `leo_agent_stop` and `leo_conn_destroy`. -/
inductive ProcTask where
  | command (k : Task)
  | desktop (k : RdTask)
  | loop
  | service
  | leave
  | execWait
  | execWaiting
  | rdStopped
  | connStop
  | connWait
  | connWaiting
  | free

/-- What a step meets; `text` is what `lws_service` delivers, and `timesOut` is a wait
that reaches its deadline. -/
structure ProcInput where
  command : Input := {}
  desktop : RdInput := {}
  text : Option (List UInt8) := none
  timesOut : Bool := false

/-- What the thread of the connection does for one message: the commands answer it or
start a thread, and the remote desktop is called. -/
def messageSteps (cJSONParse : List UInt8 -> Option Json) (text : List UInt8) :
    List ProcTask :=
  ProcTask.command (Task.receive text) ::
    match onMessage cJSONParse text with
    | [] => []
    | d :: _ =>
        match d.branch with
        | Branch.remoteDesktopStart =>
            (rdStartRequest d.body).toList.map fun r => ProcTask.desktop (RdTask.start r)
        | Branch.remoteDesktopStop =>
            -- `_dispatch_remote_desktop_stop`
            [ProcTask.desktop
              (RdTask.stop (d.body.bind fun b => stringItem b "session_id"))]
        | _ => []

def procThen (s : AgentProc) (tasks : List ProcTask) : Outcome AgentProc ProcTask where
  shared := s
  cont := tasks
  spawned := []

/-- `leo_agent_stop` returns without freeing the agent. -/
def abandon (s : AgentProc) : Outcome AgentProc ProcTask :=
  procThen { s with stopped := some StopEnd.abandoned } []

/-- One step of the process. -/
def procPerform (cJSONParse parseWithLength : List UInt8 -> Option Json) (k : ProcTask)
    (x : ProcInput) (s : AgentProc) : Option (Outcome AgentProc ProcTask) :=
  let desktopNext :=
    procThen { s with execWaited := true }
      [ProcTask.desktop RdTask.stopAll, ProcTask.rdStopped]
  match k with
  | ProcTask.command k =>
      (perform cJSONParse k x.command s.agent).map
        (Outcome.embed (fun t => { s with agent := t }) ProcTask.command)
  | ProcTask.desktop k =>
      (rdPerform parseWithLength k x.desktop s.desktop).map
        (Outcome.embed (fun t => { s with desktop := t }) ProcTask.desktop)
  | ProcTask.loop =>
      if s.shouldStop then some (procThen s [ProcTask.leave])
      else some (procThen s [ProcTask.service])
  | ProcTask.service =>
      match x.text with
      | none => some (procThen s [ProcTask.loop])
      | some text => some (procThen s (messageSteps cJSONParse text ++ [ProcTask.service]))
  | ProcTask.leave => some (procThen { s with threadExited := true } [])
  | ProcTask.execWait =>
      if 0 < s.agent.execActiveCount then some (procThen s [ProcTask.execWaiting])
      else some desktopNext
  | ProcTask.execWaiting =>
      if x.timesOut then some (abandon s)
      else if 0 < s.agent.execActiveCount then some (procThen s [ProcTask.execWaiting])
      else some desktopNext
  | ProcTask.rdStopped =>
      -- what the call of `leo_rd_stop_all` returned
      if s.desktop.returned.head? = some true then some (procThen s [ProcTask.connStop])
      else some (abandon s)
  | ProcTask.connStop => some (procThen { s with shouldStop := true } [ProcTask.connWait])
  | ProcTask.connWait =>
      if s.threadExited then some (procThen s [ProcTask.free])
      else some (procThen s [ProcTask.connWaiting])
  | ProcTask.connWaiting =>
      if s.threadExited then some (procThen s [ProcTask.free])
      else if x.timesOut then some (abandon s)
      else some (procThen s [ProcTask.connWaiting])
  | ProcTask.free => some (procThen { s with stopped := some StopEnd.freed } [])

abbrev ProcState := Pool AgentProc ProcTask

abbrev ProcEvent := PoolEvent Empty ProcInput

/-- The threads of the process, interleaved in any order. -/
def process (cJSONParse parseWithLength : List UInt8 -> Option Json) :
    Machine ProcState ProcEvent :=
  Pool.machine (fun r : Empty => r.elim) (procPerform cJSONParse parseWithLength)

/-- The thread of the connection starts, and `leo_agent_stop` is called at some
time. -/
def processStart : ProcState where
  shared :=
    { agent := agentStart.shared
      desktop := rdGlobals
      shouldStop := false
      threadExited := false
      execWaited := false
      stopped := none }
  procs := [[ProcTask.loop], [ProcTask.execWait]]

/-!
## What a step does
-/

/-- A step of the thread of the connection at its loop. -/
def ProcTask.isLoop : ProcTask -> Bool
  | loop | service | leave => true
  | _ => false

/-- A step of `leo_agent_stop` of its own. -/
def ProcTask.isStop : ProcTask -> Bool
  | execWait | execWaiting | rdStopped | connStop | connWait | connWaiting | free => true
  | _ => false

/-- A step of `leo_agent_stop` after the wait for the command threads. -/
def ProcTask.afterExec : ProcTask -> Bool
  | rdStopped | connStop | connWait | connWaiting | free => true
  | _ => false

/-- A step of `leo_agent_stop` after the wait for the remote desktop. -/
def ProcTask.afterDesktop : ProcTask -> Bool
  | connStop | connWait | connWaiting | free => true
  | _ => false

def ProcTask.isFree : ProcTask -> Bool
  | free => true
  | _ => false

def ProcTask.command? : ProcTask -> Option Task
  | command k => some k
  | _ => none

def ProcTask.desktop? : ProcTask -> Option RdTask
  | desktop k => some k
  | _ => none

/-- The step holds no slot, claims no context and does not rely on the flag. -/
def ProcTask.isQuiet : ProcTask -> Bool
  | command k => !k.holdsSlot
  | desktop k => !k.claims && !k.marks
  | _ => true

/-- What a step of the connection thread's loop or of `leo_agent_stop` does. -/
inductive ControlEffect (s : AgentProc) :
    ProcTask -> AgentProc -> List ProcTask -> Prop where
  | looped {k created} (hk : k.isLoop = true) (hone : created.countP ProcTask.isLoop = 1)
      (hstop : created.countP ProcTask.isStop = 0)
      (hquiet : forall j, j ∈ created -> j.isQuiet = true) :
      ControlEffect s k s created
  | left : ControlEffect s ProcTask.leave { s with threadExited := true } []
  | waits {k j} (hk : k.isStop = true) (hj : j.isStop = true)
      (hexec : j.afterExec = k.afterExec) (hdesktop : j.afterDesktop = k.afterDesktop)
      (hfree : j.isFree = false) : ControlEffect s k s [j]
  | execOver {k} (hk : k.isStop = true) (hnone : s.agent.execActiveCount ≤ 0) :
      ControlEffect s k { s with execWaited := true }
        [ProcTask.desktop RdTask.stopAll, ProcTask.rdStopped]
  | desktopOver (htrue : true ∈ s.desktop.returned) :
      ControlEffect s ProcTask.rdStopped s [ProcTask.connStop]
  | asked :
      ControlEffect s ProcTask.connStop { s with shouldStop := true } [ProcTask.connWait]
  | connOver {k} (hk : k.isStop = true) (hexec : k.afterExec = true)
      (hdesktop : k.afterDesktop = true) (hexited : s.threadExited = true) :
      ControlEffect s k s [ProcTask.free]
  | abandoned {k} (hk : k.isStop = true) :
      ControlEffect s k { s with stopped := some StopEnd.abandoned } []
  | freed : ControlEffect s ProcTask.free { s with stopped := some StopEnd.freed } []

/-- What a step does: it is a step of the commands, of the remote desktop, or
neither. -/
inductive ProcEffect (x : ProcInput) (s : AgentProc) :
    ProcTask -> AgentProc -> List ProcTask -> Prop where
  | command {k ms t created} (h : Slots s.agent k ms t created) :
      ProcEffect x s (ProcTask.command k) { s with agent := t }
        (created.map ProcTask.command)
  | desktop {k t created} (h : RdEffect x.desktop s.desktop k t created) :
      ProcEffect x s (ProcTask.desktop k) { s with desktop := t }
        (created.map ProcTask.desktop)
  | control {k t created} (h : ControlEffect s k t created) : ProcEffect x s k t created

theorem messageSteps_quiet (cJSONParse : List UInt8 -> Option Json) (text : List UInt8) :
    forall j, j ∈ messageSteps cJSONParse text ->
      j.isQuiet = true ∧ j.isLoop = false ∧ j.isStop = false := by
  intro j hj
  unfold messageSteps at hj
  rcases List.mem_cons.mp hj with rfl | hmem
  · exact ⟨rfl, rfl, rfl⟩
  · split at hmem
    · cases hmem
    · split at hmem
      · rcases List.mem_map.mp hmem with ⟨r, _, rfl⟩
        exact ⟨rfl, rfl, rfl⟩
      · cases List.mem_singleton.mp hmem
        exact ⟨rfl, rfl, rfl⟩
      · cases hmem

theorem created_procThen (s : AgentProc) (tasks : List ProcTask) :
    (procThen s tasks).created = tasks := by
  simp [procThen, Outcome.created]

/-- A message is handled before the thread goes on in `lws_service`. -/
theorem looped_message (cJSONParse : List UInt8 -> Option Json) (text : List UInt8)
    (s : AgentProc) :
    ControlEffect s ProcTask.service s
      (messageSteps cJSONParse text ++ [ProcTask.service]) := by
  have hquiet := messageSteps_quiet cJSONParse text
  refine ControlEffect.looped rfl ?_ ?_ ?_
  · rw [List.countP_append, List.countP_eq_zero.mpr]
    · rfl
    · intro j hj
      simp [(hquiet j hj).right.left]
  · rw [List.countP_append, List.countP_eq_zero.mpr]
    · rfl
    · intro j hj
      simp [(hquiet j hj).right.right]
  · intro j hj
    rcases List.mem_append.mp hj with hmem | hlast
    · exact (hquiet j hmem).left
    · cases List.mem_singleton.mp hlast
      rfl

theorem procEffect {cJSONParse parseWithLength : List UInt8 -> Option Json}
    {k : ProcTask} {x : ProcInput} {s : AgentProc} {o : Outcome AgentProc ProcTask}
    (h : procPerform cJSONParse parseWithLength k x s = some o) :
    ProcEffect x s k o.shared o.created := by
  have hloop : forall {k j : ProcTask}, k.isLoop = true -> j.isLoop = true ->
      j.isStop = false -> j.isQuiet = true -> ControlEffect s k s [j] := by
    intro k j hk hj hstop hquiet
    refine ControlEffect.looped hk ?_ ?_ ?_
    · simp [hj]
    · simp [hstop]
    · intro i hi
      cases List.mem_singleton.mp hi
      exact hquiet
  cases k with
  | command k =>
      rcases Option.map_eq_some_iff.mp h with ⟨o', ho', rfl⟩
      rw [Outcome.created_embed]
      exact ProcEffect.command (slots_perform ho')
  | desktop k =>
      rcases Option.map_eq_some_iff.mp h with ⟨o', ho', rfl⟩
      rw [Outcome.created_embed]
      exact ProcEffect.desktop (rdEffect ho')
  | loop =>
      simp only [procPerform] at h
      split at h
      · cases h
        exact ProcEffect.control (hloop rfl rfl rfl rfl)
      · cases h
        exact ProcEffect.control (hloop rfl rfl rfl rfl)
  | service =>
      simp only [procPerform] at h
      split at h
      · cases h
        exact ProcEffect.control (hloop rfl rfl rfl rfl)
      · rename_i text _
        cases h
        rw [created_procThen]
        exact ProcEffect.control (looped_message cJSONParse text s)
  | leave =>
      cases h
      exact ProcEffect.control ControlEffect.left
  | execWait =>
      simp only [procPerform] at h
      split at h
      · cases h
        exact ProcEffect.control (ControlEffect.waits rfl rfl rfl rfl rfl)
      · rename_i hnone
        cases h
        exact ProcEffect.control (ControlEffect.execOver rfl (Int.not_lt.mp hnone))
  | execWaiting =>
      simp only [procPerform] at h
      split at h
      · cases h
        exact ProcEffect.control (ControlEffect.abandoned rfl)
      · split at h
        · cases h
          exact ProcEffect.control (ControlEffect.waits rfl rfl rfl rfl rfl)
        · rename_i hnone
          cases h
          exact ProcEffect.control (ControlEffect.execOver rfl (Int.not_lt.mp hnone))
  | rdStopped =>
      simp only [procPerform] at h
      split at h
      · rename_i htrue
        cases h
        exact ProcEffect.control
          (ControlEffect.desktopOver (List.mem_of_head? htrue))
      · cases h
        exact ProcEffect.control (ControlEffect.abandoned rfl)
  | connStop =>
      cases h
      exact ProcEffect.control ControlEffect.asked
  | connWait =>
      simp only [procPerform] at h
      split at h
      · rename_i hexited
        cases h
        exact ProcEffect.control (ControlEffect.connOver rfl rfl rfl hexited)
      · cases h
        exact ProcEffect.control (ControlEffect.waits rfl rfl rfl rfl rfl)
  | connWaiting =>
      simp only [procPerform] at h
      split at h
      · rename_i hexited
        cases h
        exact ProcEffect.control (ControlEffect.connOver rfl rfl rfl hexited)
      · split at h
        · cases h
          exact ProcEffect.control (ControlEffect.abandoned rfl)
        · cases h
          exact ProcEffect.control (ControlEffect.waits rfl rfl rfl rfl rfl)
  | free =>
      cases h
      exact ProcEffect.control ControlEffect.freed

/-!
## The condition
-/

/-- The pending steps of the commands and of the remote desktop. -/
def commands (p : ProcState) : List Task :=
  Pool.part ProcTask.command? p

def desktops (p : ProcState) : List RdTask :=
  Pool.part ProcTask.desktop? p

/-- No command asks for a slot once the wait for the command threads is over; when
`leo_rd_stop_all` finds the flag reset, no start is on its way to create a thread, and
no start sets `g_rd_ctx` once `leo_rd_stop_all` has returned true; no session resets
the flag for another one. -/
def stopsInOrder (p : ProcState) (k : ProcTask) (x : ProcInput) : Bool :=
  match k with
  | ProcTask.command k => !(k.isReserve && p.shared.execWaited)
  | ProcTask.desktop k =>
      (!k.unmarks || (desktops p).countP RdTask.marks = 1) &&
        (!k.returnsTrue x.desktop p.shared.desktop ||
          (desktops p).countP RdTask.claims = 0) &&
        !(k.setsCtx x.desktop p.shared.desktop && p.shared.desktop.returned.contains true)
  | _ => true

end Agent
end LeoOne
