import LeoOne.Foundation.Pool
import LeoOne.Agent.Body
import LeoOne.Wire.Numbers

/-!
# Commands on the agent

`agent.c`: the WebSocket thread checks the body of a command, reserves one of the
execution slots and starts a detached thread, which calls the executor, hands the
CMD_RESULT to `leo_conn_send` and releases the slot.  Every way out before the
thread is started hands an error CMD_RESULT over instead.

A step is one section under `exec_mutex` or one call that may fail or block; what
these calls return is the input of the step.  The WebSocket thread handles one
message at a time, but nothing here depends on that: each message is a goroutine
of its own.  The messages without a CMD_RESULT (PING, the remote desktop, the
settings) are received and have no further steps.
-/

namespace LeoOne
namespace Agent

open Foundation
open Wire

/-- `LEO_EXEC_MAX_CONCURRENT`. -/
def execMaxConcurrent : Int := 4

/-- `LEO_EXEC_DEFAULT_TIMEOUT_SEC`. -/
def execDefaultTimeoutSec : Int := 300

/-- `LEO_EXEC_MAX_TIMEOUT_SEC`. -/
def execMaxTimeoutSec : Int := 300

/-- `LEO_PKG_NAME_MAX_LEN`. -/
def pkgNameMaxLen : Nat := 128

/-- `LEO_PKG_MAX_COUNT`. -/
def pkgMaxCount : Nat := 32

/-- `LEO_PATCH_ID_MAX_LEN`. -/
def patchIdMaxLen : Nat := 160

/-- `LEO_PATCH_INSTALL_MAX_COUNT`. -/
def patchInstallMaxCount : Nat := 64

/-- `LEO_FILE_URL_MAX_LEN`. -/
def fileUrlMaxLen : Nat := 1024

/-- `LEO_FILE_NAME_MAX_LEN`. -/
def fileNameMaxLen : Nat := 255

/-- `LEO_FILE_SHA256_HEX_LEN`. -/
def fileSha256HexLen : Nat := 65

/-- `LEO_FILE_TRANSFER_DEFAULT_TIMEOUT_SEC`. -/
def fileTransferDefaultTimeoutSec : Int := 1800

/-- `LEO_FILE_TRANSFER_MAX_TIMEOUT_SEC`. -/
def fileTransferMaxTimeoutSec : Int := 7200

/-- `LEO_REBOOT_DEFAULT_DELAY_SEC`. -/
def rebootDefaultDelaySec : Int := 60

/-- `LEO_REBOOT_MAX_DELAY_SEC`. -/
def rebootMaxDelaySec : Int := 3600

/-- `LEO_REBOOT_SCHEDULE_TIMEOUT_SEC`. -/
def rebootScheduleTimeoutSec : Int := 15

/-!
## The checks of the dispatchers
-/

/-- What a thread is started with: the fields of `_exec_ctx_t` that its kind
uses, or nothing for an inventory. -/
inductive Order where
  | script (interpreter script : List UInt8) (timeoutSecs : Int)
  | installPkg (names : List (List UInt8)) (timeoutSecs : Int)
  | reboot (delaySec : Int) (timeoutSecs : Int)
  | installPatches (ids : List (List UInt8)) (rebootAfter : Bool) (timeoutSecs : Int)
  | fileTransfer (url name sha256 : List UInt8) (size : Nat) (timeoutSecs : Int)
  | collectInventory

/-- `_clamp_timeout`. -/
def clampTimeout (timeoutSecs : Int) : Int :=
  if timeoutSecs ≤ 0 then execDefaultTimeoutSec
  else if execMaxTimeoutSec < timeoutSecs then execMaxTimeoutSec
  else timeoutSecs

/-- The member `timeout_sec`, which all dispatchers read in the same way. -/
def timeoutItem (body : Option Json) (default max : Int) : Int :=
  match body.bind fun b => numberItem b "timeout_sec" with
  | some v => if isAbove v 0 then jsonNumberClamped v 1 max else default
  | none => default

/-- The strings of an array, in order. -/
def stringItems (items : List Json) : List (List UInt8) :=
  items.filterMap fun item =>
    match item with
    | Json.str s => some (cString s)
    | _ => none

def isAlnum (b : UInt8) : Bool :=
  (48 ≤ b && b ≤ 57) || (65 ≤ b && b ≤ 90) || (97 ≤ b && b ≤ 122)

/-- The letters, the digits and the characters `.+-_:`. -/
def isNameChar (b : UInt8) : Bool :=
  isAlnum b || (utf8 ".+-_:").contains b

/-- `_pkg_name_valid`. -/
def pkgNameValid (name : List UInt8) : Bool :=
  !(name.length = 0 || pkgNameMaxLen < name.length) && name.all isNameChar

/-- `_patch_id_valid`. -/
def patchIdValid (id : List UInt8) : Bool :=
  !(id.length = 0 || patchIdMaxLen ≤ id.length) && id.all isNameChar

/-- `_dispatch_exec_script`, up to the reservation. -/
def dispatchExecScript (body : Option Json) : Except String Order :=
  let timeoutSecs := timeoutItem body execDefaultTimeoutSec execMaxTimeoutSec
  match body.bind fun b => stringItem b "interpreter",
    body.bind fun b => stringItem b "script" with
  | some interpreter, some script =>
      Except.ok (Order.script (strncpy interpreter 32) script (clampTimeout timeoutSecs))
  | _, _ => Except.error "Requête invalide : 'interpreter' et 'script' requis"

/-- The names that `_dispatch_install_pkg` collects. -/
def pkgNames (body : Option Json) : List (List UInt8) :=
  match body with
  | none => []
  | some b =>
      match b.getObjectItem "packages" with
      | some (Json.arr items) => (stringItems items).take pkgMaxCount
      | _ => (stringItem b "package").toList

/-- `_dispatch_install_pkg`, up to the reservation. -/
def dispatchInstallPkg (body : Option Json) : Except String Order :=
  let names := pkgNames body
  let timeoutSecs := timeoutItem body execDefaultTimeoutSec execMaxTimeoutSec
  if names.length = 0 then
    Except.error "Requête invalide : 'package' ou 'packages' requis"
  else if names.any fun name => !pkgNameValid name then
    Except.error "Requête invalide : nom de paquet non autorisé"
  else
    Except.ok (Order.installPkg (names.map fun name => strncpy name (pkgNameMaxLen + 1))
      (clampTimeout timeoutSecs))

/-- The identifiers that `_dispatch_install_patches` collects, each cut to its
buffer. -/
def patchNames (body : Option Json) : List (List UInt8) :=
  match body.bind fun b => b.getObjectItem "patch_ids" with
  | some (Json.arr items) =>
      ((stringItems items).take patchInstallMaxCount).map fun id =>
        strncpy id patchIdMaxLen
  | _ => []

/-- `_dispatch_install_patches`, up to the reservation. -/
def dispatchInstallPatches (body : Option Json) : Except String Order :=
  let names := patchNames body
  let rebootAfter :=
    match body.bind fun b => b.getObjectItem "reboot_after" with
    | some (Json.bool b) => b
    | _ => false
  let timeoutSecs := timeoutItem body execDefaultTimeoutSec execMaxTimeoutSec
  if names.length = 0 then Except.error "Requête invalide : 'patch_ids' requis"
  else if names.any fun id => !patchIdValid id then
    Except.error "Requête invalide : identifiant de patch non autorisé"
  else
    Except.ok (Order.installPatches (names.map fun id => strncpy id patchIdMaxLen)
      rebootAfter (clampTimeout timeoutSecs))

/-- `(uint64_t)item->valuedouble` of a positive number, which cJSON holds as the nearest
double.  From 2^64 on the conversion is undefined; x86-64 gives 0. -/
def uint64Cast (v : Decimal) : Nat :=
  let n := doubleFloor v.mantissa.toNat (10 ^ v.exponent)
  if n < 2 ^ 64 then n else 0

/-- `_dispatch_file_transfer`, up to the reservation. -/
def dispatchFileTransfer (body : Option Json) : Except String Order :=
  match body with
  | none => Except.error "Requête invalide : corps manquant"
  | some b =>
      match (stringItem b "download_url").getD [], (stringItem b "filename").getD [] with
      | c :: url, c' :: name =>
          let size :=
            match numberItem b "size_bytes" with
            | some v => if isAbove v 0 then uint64Cast v else 0
            | none => 0
          Except.ok
            (Order.fileTransfer (strncpy (c :: url) fileUrlMaxLen)
              (strncpy (c' :: name) fileNameMaxLen)
              (strncpy ((stringItem b "sha256").getD []) fileSha256HexLen) size
              (timeoutItem body fileTransferDefaultTimeoutSec fileTransferMaxTimeoutSec))
      | _, _ => Except.error "Requête invalide : 'download_url' et 'filename' requis"

/-- `_dispatch_reboot`, up to the reservation. -/
def dispatchReboot (body : Option Json) : Order :=
  let delaySec :=
    match body.bind fun b => numberItem b "delay_sec" with
    | some v =>
        if isBelow v 0 then rebootDefaultDelaySec
        else jsonNumberClamped v 0 rebootMaxDelaySec
    | none => rebootDefaultDelaySec
  Order.reboot delaySec rebootScheduleTimeoutSec

/-- The branches of `_on_message` that are answered with a CMD_RESULT: the text of
the error, or what to execute. -/
def dispatch (d : Dispatched) : Option (Except String Order) :=
  match d.branch with
  | Branch.execScript => some (dispatchExecScript d.body)
  | Branch.installPkg => some (dispatchInstallPkg d.body)
  | Branch.reboot => some (Except.ok (dispatchReboot d.body))
  | Branch.collectInventory => some (Except.ok Order.collectInventory)
  | Branch.installPatches => some (dispatchInstallPatches d.body)
  | Branch.fileTransfer => some (dispatchFileTransfer d.body)
  | _ => none

/-!
## The calls of the threads
-/

/-- The arguments of `leo_proto_build_cmd_result`. -/
structure CmdResult where
  commandId : List UInt8
  exitCode : Int
  stdout : List UInt8
  stderr : List UInt8
  deriving DecidableEq

/-- `leo_exec_result_t`. -/
structure ExecResult where
  exitCode : Int
  stdout : List UInt8
  stderr : List UInt8

/-- The `leo_error_t` of an executor function, with the result it fills in. -/
inductive ExecOutcome where
  | ok (result : ExecResult)
  | timeout
  | protocol
  | system

/-- A call of the executor, of the platform or of the file transfer. -/
inductive Call where
  | execScript (interpreter script : List UInt8) (timeoutSecs : Int)
  | execArgv (argv : List String) (operands : List (List UInt8)) (env : List String)
      (timeoutSecs : Int)
  | patchesInstall (ids : List (List UInt8)) (rebootAfter : Bool) (timeoutSecs : Int)
  | fileTransferRun (cmdId url name sha256 : List UInt8) (size : Nat) (timeoutSecs : Int)
  | inventoryCollect

/-- What a step meets.  For an inventory: whether the hardware is read, the
number of software items, and whether the INVENTORY message is serialised and
queued. -/
structure Input where
  allocates : Bool := true
  spawns : Bool := true
  exec : ExecOutcome := ExecOutcome.system
  transfer : Except (List UInt8) (List UInt8) := Except.error []
  hardware : Bool := true
  software : Int := 0
  inventoryFits : Bool := true
  inventoryQueued : Bool := true
  fits : Bool := true

/-- The result of `_exec_thread` or `_inventory_thread` for one outcome. -/
def resultOf (id : List UInt8) (onTimeout onProtocol onSystem : List UInt8) :
    ExecOutcome -> CmdResult
  | ExecOutcome.ok r =>
      { commandId := id, exitCode := r.exitCode, stdout := r.stdout, stderr := r.stderr }
  | ExecOutcome.timeout =>
      { commandId := id, exitCode := -1, stdout := [], stderr := onTimeout }
  | ExecOutcome.protocol =>
      { commandId := id, exitCode := -1, stdout := [], stderr := onProtocol }
  | ExecOutcome.system =>
      { commandId := id, exitCode := -1, stdout := [], stderr := onSystem }

/-- The call succeeds, and so does the command it runs. -/
def ExecOutcome.succeeded : ExecOutcome -> Bool
  | ok r => r.exitCode = 0
  | _ => false

def scriptResult (id interpreter : List UInt8) (outcome : ExecOutcome) : CmdResult :=
  resultOf id (utf8 "Timeout d'exécution dépassé — script interrompu (SIGKILL)")
    (strncpy (utf8 "Interpréteur non autorisé : " ++ interpreter) 128)
    (utf8 "Erreur système lors de l'exécution du script") outcome

def aptUpdateResult (id : List UInt8) (outcome : ExecOutcome) : CmdResult :=
  resultOf id (utf8 "Timeout pendant 'apt-get update'")
    (utf8 "Erreur système pendant 'apt-get update'")
    (utf8 "Erreur système pendant 'apt-get update'") outcome

def aptInstallResult (id : List UInt8) (outcome : ExecOutcome) : CmdResult :=
  resultOf id (utf8 "Timeout pendant 'apt-get install'")
    (utf8 "Erreur système pendant 'apt-get install'")
    (utf8 "Erreur système pendant 'apt-get install'") outcome

def rebootResult (id : List UInt8) (outcome : ExecOutcome) : CmdResult :=
  let system := utf8
    ("Erreur système lors de la planification du redémarrage " ++
      "(shutdown et systemctl ont tous deux échoué)")
  resultOf id (utf8 "Timeout pendant la planification du redémarrage") system system
    outcome

def patchesResult (id : List UInt8) (outcome : ExecOutcome) : CmdResult :=
  resultOf id (utf8 "Timeout pendant l'installation des patchs")
    (utf8 "Erreur système pendant l'installation des patchs")
    (utf8 "Erreur système pendant l'installation des patchs") outcome

/-- `leo_file_transfer_run` returns the final path, or fills in an error text. -/
def transferResult (id : List UInt8) : Except (List UInt8) (List UInt8) -> CmdResult
  | Except.ok path => { commandId := id, exitCode := 0, stdout := path, stderr := [] }
  | Except.error [] =>
      { commandId := id
        exitCode := -1
        stdout := []
        stderr := utf8 "Échec du transfert de fichier" }
  | Except.error err => { commandId := id, exitCode := -1, stdout := [], stderr := err }

/-- The CMD_RESULT of `_inventory_thread`. -/
def inventoryResult (id : List UInt8) (x : Input) : CmdResult :=
  let failure (text : String) : CmdResult :=
    { commandId := id, exitCode := -1, stdout := [], stderr := utf8 text }
  if !x.hardware then failure "Échec de la collecte de l'inventaire matériel"
  else if !x.inventoryFits then
    failure "Échec de sérialisation de l'inventaire (trop volumineux ?)"
  else if !x.inventoryQueued then failure "Échec envoi du message INVENTORY"
  else
    { commandId := id
      exitCode := 0
      stdout := strncpy
        (utf8 ("Inventaire envoyé (" ++ toString (max x.software 0) ++ " logiciel(s))"))
        64
      stderr := [] }

/-- The `shutdown` of a reboot. -/
def shutdownArgv (delaySec : Int) : List String :=
  if 0 < delaySec then ["shutdown", "-r", "+" ++ toString ((delaySec + 59).tdiv 60)]
  else ["shutdown", "-r", "now"]

/-- `LEO_APT_ENV`. -/
def aptEnv : List String := ["DEBIAN_FRONTEND=noninteractive"]

/-!
## The agent
-/

/-- The part of `leo_agent_t` that the commands share, with what has happened: the
texts received, whose position is the ticket of the message, the CMD_RESULTs
handed to `leo_conn_send` for each ticket, and the calls made for it. -/
structure AgentState where
  execActiveCount : Int
  received : List (List UInt8)
  sent : List (Nat × CmdResult)
  calls : List (Nat × Call)

/-- The steps, with the ticket and the command id they work for. -/
inductive Task where
  | receive (text : List UInt8)
  | reserve (ticket : Nat) (id : List UInt8) (order : Order)
  | allocate (ticket : Nat) (id : List UInt8) (order : Order)
  | spawn (ticket : Nat) (id : List UInt8) (order : Order)
  | run (ticket : Nat) (id : List UInt8) (order : Order)
  | aptInstall (ticket : Nat) (id : List UInt8) (names : List (List UInt8))
      (timeoutSecs : Int)
  | systemctl (ticket : Nat) (id : List UInt8) (timeoutSecs : Int)
  | send (ticket : Nat) (result : CmdResult)
  | release

/-- The CMD_RESULT of `_send_cmd_error`. -/
def cmdError (id : List UInt8) (message : String) : CmdResult where
  commandId := id
  exitCode := -1
  stdout := []
  stderr := utf8 message

/-- A step that is followed by others of the same thread. -/
def andThen (s : AgentState) (tasks : List Task) : Outcome AgentState Task where
  shared := s
  cont := tasks
  spawned := []

/-- The end of a command thread. -/
def finish (ticket : Nat) (result : CmdResult) : List Task :=
  [Task.send ticket result, Task.release]

/-- The first call of a command thread, with what follows it. -/
def runOrder (x : Input) (ticket : Nat) (id : List UInt8) : Order -> Call × List Task
  | Order.script interpreter script timeoutSecs =>
      (Call.execScript interpreter script timeoutSecs,
        finish ticket (scriptResult id interpreter x.exec))
  | Order.installPkg names timeoutSecs =>
      (Call.execArgv ["apt-get", "update", "-qq"] [] aptEnv timeoutSecs,
        if x.exec.succeeded then [Task.aptInstall ticket id names timeoutSecs]
        else finish ticket (aptUpdateResult id x.exec))
  | Order.reboot delaySec timeoutSecs =>
      (Call.execArgv (shutdownArgv delaySec) [] [] timeoutSecs,
        if x.exec.succeeded then finish ticket (rebootResult id x.exec)
        else [Task.systemctl ticket id timeoutSecs])
  | Order.installPatches ids rebootAfter timeoutSecs =>
      (Call.patchesInstall ids rebootAfter timeoutSecs,
        finish ticket (patchesResult id x.exec))
  | Order.fileTransfer url name sha256 size timeoutSecs =>
      (Call.fileTransferRun id url name sha256 size timeoutSecs,
        finish ticket (transferResult id x.transfer))
  | Order.collectInventory =>
      (Call.inventoryCollect, finish ticket (inventoryResult id x))

/-- One step of the agent. -/
def perform (cJSONParse : List UInt8 -> Option Json) (k : Task) (x : Input)
    (s : AgentState) : Option (Outcome AgentState Task) :=
  match k with
  | Task.receive text =>
      let ticket := s.received.length
      let s' := { s with received := s.received ++ [text] }
      match onMessage cJSONParse text with
      | [] => some (andThen s' [])
      | d :: _ =>
          match dispatch d with
          | none => some (andThen s' [])
          | some (Except.error message) =>
              some (andThen s' [Task.send ticket (cmdError d.id message)])
          | some (Except.ok order) =>
              some (andThen s' [Task.reserve ticket d.id order])
  | Task.reserve ticket id order =>
      -- `_reserve_exec_slot`
      if execMaxConcurrent ≤ s.execActiveCount then
        some (andThen s
          [Task.send ticket
            (cmdError id "Trop de commandes en cours d'exécution sur l'agent")])
      else
        some (andThen { s with execActiveCount := s.execActiveCount + 1 }
          [Task.allocate ticket id order])
  | Task.allocate ticket id order =>
      if x.allocates then some (andThen s [Task.spawn ticket id order])
      else
        some (andThen s
          [Task.release,
            Task.send ticket (cmdError id "Erreur interne de l'agent (allocation)")])
  | Task.spawn ticket id order =>
      -- `_spawn_detached`; the thread works on the copy of the id in its context
      if x.spawns then
        some
          { shared := s
            cont := []
            spawned := [[Task.run ticket (strncpy id uuidStrLen) order]] }
      else
        some (andThen s
          [Task.release,
            Task.send ticket (cmdError id "Erreur interne de l'agent (thread)")])
  | Task.run ticket id order =>
      some (andThen { s with calls := (ticket, (runOrder x ticket id order).1) :: s.calls }
        (runOrder x ticket id order).2)
  | Task.aptInstall ticket id names timeoutSecs =>
      let call := Call.execArgv ["apt-get", "install", "-y", "--no-install-recommends", "--"]
        names aptEnv timeoutSecs
      some (andThen { s with calls := (ticket, call) :: s.calls }
        (finish ticket (aptInstallResult id x.exec)))
  | Task.systemctl ticket id timeoutSecs =>
      let call := Call.execArgv ["systemctl", "reboot"] [] [] timeoutSecs
      some (andThen { s with calls := (ticket, call) :: s.calls }
        (finish ticket (rebootResult id x.exec)))
  | Task.send ticket result =>
      -- `leo_proto_build_cmd_result`, then `leo_conn_send` if the text fits
      if x.fits then some (andThen { s with sent := (ticket, result) :: s.sent } [])
      else some (andThen s [])
  | Task.release =>
      some (andThen { s with execActiveCount := s.execActiveCount - 1 } [])

abbrev State := Pool AgentState Task

abbrev Event := PoolEvent (List UInt8) Input

/-- The agent: texts arrive, and their steps are interleaved in any order. -/
def agent (cJSONParse : List UInt8 -> Option Json) : Machine State Event :=
  Pool.machine (fun text => [Task.receive text]) (perform cJSONParse)

/-- The agent when its connection is started. -/
def agentStart : State where
  shared := { execActiveCount := 0, received := [], sent := [], calls := [] }
  procs := []

end Agent
end LeoOne
