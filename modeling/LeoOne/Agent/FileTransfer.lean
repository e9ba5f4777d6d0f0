import LeoOne.Agent.CommandParameters
import LeoOne.Agent.MessageSizes

/-!
# File transfers

`leo_file_transfer_run` downloads a file into `<cmd_id>.part`, with a libwebsockets
context of its own, checks the SHA-256 of what it received and renames the file.  The
callbacks of the HTTP client only set flags; what they lead to is decided after the
loop.  The calls of the platform may fail, and what they return is the input here.
-/

namespace LeoOne
namespace Agent

open Wire

/-!
## The callbacks
-/

/-- The callbacks of the HTTP client.  A chunk of data comes with the failure of `fwrite`,
if there is one: how many bytes were written, and the text of the error. -/
inductive DlCallback where
  | connectionError (reason : Option (List UInt8))
  | establishedClientHttp (status : Int) (contentLength : Option (List UInt8))
  | receiveClientHttp
  | receiveClientHttpRead (bytes : List UInt8) (fault : Option (Nat × List UInt8))
  | completedClientHttp
  | closedClientHttp
  | timer
  | other

/-- `_dl_ctx_t`: the bytes that went into `fp` and into `mdctx`, and the reports sent. -/
structure DlCtx where
  cmdId : List UInt8
  file : List UInt8
  digested : List UInt8
  bytesReceived : UInt64
  bytesTotal : UInt64
  lastReportedPct : Int
  httpStatus : Int
  timeoutSecs : Int
  done : Bool
  failed : Bool
  errBuf : List UInt8
  reports : List LeoFileTransferProgress

namespace DlCtx

def percent (dl : DlCtx) : Int32 :=
  if dl.bytesTotal = 0 then 0
  else Int32.ofNat ((dl.bytesReceived * 100) / dl.bytesTotal).toNat

/-- `_report_progress`. -/
def reportProgress (dl : DlCtx) (status : LeoFileTransferStatus)
    (err : Option (List UInt8)) : DlCtx :=
  { dl with
    reports := dl.reports ++
      [{ cmdId := dl.cmdId
         status := status
         percent := dl.percent
         bytesReceived := dl.bytesReceived
         bytesTotal := dl.bytesTotal
         errorMsg := err }] }

/-- `snprintf` into `err_buf`. -/
def setErr (dl : DlCtx) (text : List UInt8) : DlCtx :=
  { dl with errBuf := strncpy text 256 }

end DlCtx

/-- `strtoull(clen, NULL, 10)`; a minus sign negates the number. -/
def strtoull (text : List UInt8) : UInt64 :=
  let text := text.dropWhile isSpace
  let (negative, digits) :=
    match text with
    | 45 :: rest => (true, rest)
    | 43 :: rest => (false, rest)
    | rest => (false, rest)
  let n := decimalValue (digits.takeWhile Wire.isDigit)
  if 2 ^ 64 ≤ n then UInt64.ofNat (2 ^ 64 - 1)
  else if negative then 0 - UInt64.ofNat n
  else UInt64.ofNat n

/-- `%d`. -/
def formatInt (n : Int) : List UInt8 :=
  utf8 (toString n)

/-- `_dl_lws_callback`. -/
def dlLwsCallback (dl : DlCtx) : DlCallback -> DlCtx
  | DlCallback.connectionError reason =>
      { dl.setErr (utf8 "Connexion au serveur de fichiers échouée : " ++
          reason.getD (utf8 "(inconnue)")) with failed := true, done := true }
  | DlCallback.establishedClientHttp status contentLength =>
      let dl :=
        { dl with
          httpStatus := status
          bytesTotal :=
            if dl.bytesTotal = 0 then (contentLength.map strtoull).getD 0 else dl.bytesTotal }
      if status ≠ 200 then
        { dl.setErr (utf8 "Réponse HTTP " ++ formatInt status ++
            utf8 " du serveur de fichiers") with failed := true }
      else dl
  | DlCallback.receiveClientHttp => dl
  | DlCallback.receiveClientHttpRead bytes fault =>
      if bytes ≠ [] ∧ dl.failed = false then
        match fault with
        | some (written, errno) =>
            { dl.setErr (utf8 "Écriture disque échouée : " ++ errno) with
              file := dl.file ++ bytes.take written, failed := true }
        | none =>
            let dl :=
              { dl with
                file := dl.file ++ bytes
                digested := dl.digested ++ bytes
                bytesReceived := dl.bytesReceived + UInt64.ofNat bytes.length }
            if dl.lastReportedPct + 10 ≤ dl.percent.toInt ∨
                (dl.bytesTotal = 0 ∧
                  dl.bytesReceived.toNat % (1024 * 1024) < bytes.length) then
              { dl with lastReportedPct := dl.percent.toInt }.reportProgress
                LeoFileTransferStatus.downloading none
            else dl
      else dl
  | DlCallback.completedClientHttp => { dl with done := true }
  | DlCallback.closedClientHttp => { dl with done := true }
  | DlCallback.timer =>
      { dl.setErr (utf8 "Timeout du transfert (" ++ formatInt dl.timeoutSecs ++ utf8 "s)")
        with failed := true, done := true }
  | DlCallback.other => dl

/-!
## The run
-/

/-- One call of `lws_service`: the callbacks that it makes, whether it returns an error,
and whether the deadline has passed after it. -/
structure DlService where
  callbacks : List DlCallback
  fails : Bool
  late : Bool

/-- What the calls of a transfer return.  `kept` is the number of bytes that are in the
file after an `fclose` that could not write them all. -/
structure DlWorld where
  workdirReady : Bool
  fileOpens : Bool
  digestStarts : Bool
  contextCreated : Bool
  connecting : List DlCallback
  connected : Bool
  services : List DlService
  destroying : List DlCallback
  kept : Option Nat
  removes : Bool
  renames : Bool
  errno : List UInt8

/-- The two files of a transfer. -/
structure DlDisk where
  part : Option (List UInt8)
  final : Option (List UInt8)

/-- The arguments of `leo_file_transfer_run`. -/
structure DlRequest where
  cmdId : List UInt8
  downloadUrl : List UInt8
  filename : List UInt8
  expectedSha256Hex : List UInt8
  expectedSize : UInt64
  timeoutSecs : Int

/-- The errors of `leo_error_t` that a transfer returns. -/
inductive DlError where
  | protocol
  | system
  | network
  | timeout
  deriving DecidableEq, Repr

/-- What a transfer returns and leaves; `none` is `LEO_OK`. -/
structure DlEnd where
  error : Option DlError
  disk : DlDisk
  httpStatus : Int
  finalPath : List UInt8
  err : List UInt8
  reports : List LeoFileTransferProgress

/-- `LEO_WORKDIR`, on Linux. -/
def leoWorkdir : List UInt8 :=
  utf8 "/opt/leo-one/work/"

def partPath (r : DlRequest) : List UInt8 :=
  leoWorkdir ++ r.cmdId ++ utf8 ".part"

/-- The loop of `lws_service`: `none` while it waits, and else whether the deadline passed. -/
def dlServe : List DlService -> DlCtx -> Option (DlCtx × Bool)
  | [], dl => if dl.done then some (dl, false) else none
  | s :: services, dl =>
      if dl.done then some (dl, false)
      else
        let dl := s.callbacks.foldl dlLwsCallback dl
        if s.fails then
          some ({ dl.setErr (utf8 "Erreur du client HTTP pendant le transfert") with
            failed := true }, false)
        else if s.late then
          some ({ dl.setErr (utf8 "Timeout du transfert (" ++ formatInt dl.timeoutSecs ++
            utf8 "s)") with failed := true }, true)
        else dlServe services dl

/-- The bytes of the file after `fclose`. -/
def closedFile (w : DlWorld) (dl : DlCtx) : List UInt8 :=
  match w.kept with
  | some n => dl.file.take n
  | none => dl.file

/-- `remove(part_path)`, for a file with these bytes. -/
def removePart (w : DlWorld) (disk : DlDisk) (bytes : List UInt8) : DlDisk :=
  { disk with part := if w.removes then none else some bytes }

/-- The digest as text. -/
def hexDigest (digest : Vector UInt8 32) : List UInt8 :=
  digest.toList.flatMap hexText

/-- `tolower`. -/
def lowerByte (b : UInt8) : UInt8 :=
  if 65 ≤ b.toNat && b.toNat ≤ 90 then b + 32 else b

/-- `strcasecmp(a, b) == 0`. -/
def sameText (a b : List UInt8) : Bool :=
  a.map lowerByte = b.map lowerByte

/-- An error with a `.part` file of these bytes, which is removed and reported. -/
def dlAbort (error : DlError) (w : DlWorld) (disk : DlDisk) (dl : DlCtx)
    (bytes err : List UInt8) : DlEnd where
  error := some error
  disk := removePart w disk bytes
  httpStatus := dl.httpStatus
  finalPath := []
  err := err
  reports := (dl.reportProgress LeoFileTransferStatus.failed (some err)).reports

/-- The check of the hash and the renaming. -/
def verifyTransfer (sha256 : List UInt8 -> Vector UInt8 32) (r : DlRequest) (w : DlWorld)
    (disk : DlDisk) (dl : DlCtx) (bytes : List UInt8) : DlEnd :=
  let digestHex := hexDigest (sha256 dl.digested)
  let finalPath := leoWorkdir ++ r.filename
  if r.expectedSha256Hex ≠ [] && !sameText digestHex r.expectedSha256Hex then
    dlAbort DlError.protocol w disk dl bytes
      (strncpy (utf8 "Empreinte SHA-256 non correspondante (attendue " ++
        r.expectedSha256Hex ++ utf8 ", obtenue " ++ digestHex ++ utf8 ")") 256)
  else if !w.renames then
    dlAbort DlError.system w disk dl bytes
      (strncpy (utf8 "Renommage vers '" ++ finalPath ++ utf8 "' échoué : " ++ w.errno) 256)
  else
    { error := none
      disk := { part := none, final := some bytes }
      httpStatus := dl.httpStatus
      finalPath := finalPath
      err := []
      reports := ({ dl with lastReportedPct := 100 }.reportProgress
        LeoFileTransferStatus.completed none).reports }

/-- What follows the loop. -/
def finishTransfer (sha256 : List UInt8 -> Vector UInt8 32) (r : DlRequest) (w : DlWorld)
    (disk : DlDisk) (dl : DlCtx) (timedOut : Bool) : DlEnd :=
  let dl := w.destroying.foldl dlLwsCallback dl
  let bytes := closedFile w dl
  if dl.failed || dl.httpStatus ≠ 200 then
    dlAbort (if timedOut then DlError.timeout else DlError.network) w disk dl bytes dl.errBuf
  else
    verifyTransfer sha256 r w disk
      (dl.reportProgress LeoFileTransferStatus.verifying none) bytes

/-- An error before the loop. -/
def dlFailure (error : DlError) (disk : DlDisk) (err : List UInt8)
    (reports : List LeoFileTransferProgress) : DlEnd where
  error := some error
  disk := disk
  httpStatus := 0
  finalPath := []
  err := strncpy err 256
  reports := reports

/-- `dl` when the file is open. -/
def openedDl (r : DlRequest) : DlCtx where
  cmdId := strncpy r.cmdId uuidStrLen
  file := []
  digested := []
  bytesReceived := 0
  bytesTotal := r.expectedSize
  lastReportedPct := 0
  httpStatus := 0
  timeoutSecs := 0
  done := false
  failed := false
  errBuf := []
  reports := []

/-- `effective_timeout`. -/
def effectiveTimeout (r : DlRequest) : Int :=
  if 30 < r.timeoutSecs then r.timeoutSecs else 30

/-- The host and the port of the URL. -/
def hostPort (r : DlRequest) : List UInt8 :=
  match leoHttpParseUrl r.downloadUrl 256 fileUrlMaxLen with
  | some url => url.host ++ utf8 ":" ++ formatInt url.port
  | none => []

/-- `leo_file_transfer_run`; `none` while the loop waits. -/
def leoFileTransferRun (sha256 : List UInt8 -> Vector UInt8 32) (r : DlRequest)
    (disk : DlDisk) (w : DlWorld) : Option DlEnd :=
  match fileTransferRefusal r.downloadUrl r.filename with
  | some message => some (dlFailure DlError.protocol disk (utf8 message) [])
  | none =>
      if !w.workdirReady then
        some (dlFailure DlError.system disk
          (utf8 "Impossible de créer le répertoire de travail (" ++ leoWorkdir ++ utf8 ")") [])
      else if !w.fileOpens then
        some (dlFailure DlError.system disk
          (utf8 "Impossible de créer '" ++ partPath r ++ utf8 "' : " ++ w.errno) [])
      else if !w.digestStarts then
        some (dlFailure DlError.system (removePart w disk [])
          (utf8 "Initialisation SHA-256 échouée") [])
      else
        let dl := (openedDl r).reportProgress LeoFileTransferStatus.downloading none
        if !w.contextCreated then
          some (dlFailure DlError.network (removePart w disk [])
            (utf8 "Impossible de créer le contexte HTTP libwebsockets") dl.reports)
        else
          let dl := w.connecting.foldl dlLwsCallback dl
          if !w.connected then
            some (dlFailure DlError.network (removePart w disk (closedFile w dl))
              (utf8 "Connexion au serveur de fichiers échouée (" ++ hostPort r ++ utf8 ")")
              dl.reports)
          else
            let dl := { dl with timeoutSecs := effectiveTimeout r }
            (dlServe w.services dl).map fun ended =>
              finishTransfer sha256 r w disk ended.1 ended.2

/-!
## What happens in a transfer
-/

namespace DlCallback

/-- The callbacks that end the loop. -/
def ends : DlCallback -> Bool
  | connectionError _ => true
  | completedClientHttp => true
  | closedClientHttp => true
  | timer => true
  | _ => false

/-- The callbacks that make the transfer fail. -/
def fails : DlCallback -> Bool
  | connectionError _ => true
  | establishedClientHttp status _ => status ≠ 200
  | receiveClientHttpRead bytes fault => bytes ≠ [] && fault.isSome
  | timer => true
  | _ => false

/-- The headers of a response. -/
def answers : DlCallback -> Bool
  | establishedClientHttp _ _ => true
  | _ => false

def data : DlCallback -> List UInt8
  | receiveClientHttpRead bytes _ => bytes
  | _ => []

end DlCallback

/-- The callbacks of the loop, which is left when one of them ends it. -/
def servedCallbacks : Bool -> List DlService -> List DlCallback
  | true, _ => []
  | false, [] => []
  | false, s :: services =>
      s.callbacks ++
        if s.fails || s.late then []
        else servedCallbacks (s.callbacks.any DlCallback.ends) services

/-- The loop is left by an error of `lws_service` or at the deadline. -/
def interrupted : Bool -> List DlService -> Bool
  | true, _ => false
  | false, [] => false
  | false, s :: services =>
      s.fails || s.late || interrupted (s.callbacks.any DlCallback.ends) services

namespace DlWorld

/-- All callbacks of a transfer. -/
def callbacks (w : DlWorld) : List DlCallback :=
  w.connecting ++ servedCallbacks (w.connecting.any DlCallback.ends) w.services ++ w.destroying

/-- The bytes that the callbacks bring. -/
def received (w : DlWorld) : List UInt8 :=
  w.callbacks.flatMap DlCallback.data

def isInterrupted (w : DlWorld) : Bool :=
  interrupted (w.connecting.any DlCallback.ends) w.services

end DlWorld

/-- The context after these callbacks. -/
structure Follows (dl : DlCtx) (cs : List DlCallback) : Prop where
  failed : dl.failed = cs.any DlCallback.fails
  done : dl.done = cs.any DlCallback.ends
  status : dl.failed = false ->
    dl.httpStatus = if cs.any DlCallback.answers then 200 else 0
  file : dl.failed = false -> dl.file = cs.flatMap DlCallback.data
  digested : dl.failed = false -> dl.digested = cs.flatMap DlCallback.data

/-- The other fields of the context do not matter. -/
theorem Follows.congr {dl dl' : DlCtx} {cs : List DlCallback} (h : Follows dl cs)
    (hfailed : dl'.failed = dl.failed) (hdone : dl'.done = dl.done)
    (hstatus : dl'.httpStatus = dl.httpStatus) (hfile : dl'.file = dl.file)
    (hdigested : dl'.digested = dl.digested) : Follows dl' cs := by
  refine ⟨hfailed.trans h.failed, hdone.trans h.done, ?_, ?_, ?_⟩
  · intro hok
    exact hstatus.trans (h.status (hfailed ▸ hok))
  · intro hok
    exact hfile.trans (h.file (hfailed ▸ hok))
  · intro hok
    exact hdigested.trans (h.digested (hfailed ▸ hok))

/-- After a failure the rest does not matter. -/
theorem Follows.of_failed {dl : DlCtx} {cs : List DlCallback} (hfailed : dl.failed = true)
    (hfails : cs.any DlCallback.fails = true) (hdone : dl.done = cs.any DlCallback.ends) :
    Follows dl cs := by
  have hnever : ¬ dl.failed = false := by
    rw [hfailed]
    exact Bool.noConfusion
  exact ⟨hfailed.trans hfails.symm, hdone, fun h => absurd h hnever,
    fun h => absurd h hnever, fun h => absurd h hnever⟩

theorem any_snoc (f : DlCallback -> Bool) (cs : List DlCallback) (c : DlCallback) :
    (cs ++ [c]).any f = (cs.any f || f c) := by
  rw [List.any_append, List.any_cons, List.any_nil, Bool.or_false]

/-- A callback that neither fails nor answers nor brings data. -/
theorem Follows.idle {dl dl' : DlCtx} {cs : List DlCallback} (h : Follows dl cs)
    {c : DlCallback} (hfails : c.fails = false) (hanswers : c.answers = false)
    (hdata : c.data = []) (hdone : dl'.done = (dl.done || c.ends))
    (hfailed : dl'.failed = dl.failed) (hstatus : dl'.httpStatus = dl.httpStatus)
    (hfile : dl'.file = dl.file) (hdigested : dl'.digested = dl.digested) :
    Follows dl' (cs ++ [c]) := by
  have hflat : (cs ++ [c]).flatMap DlCallback.data = cs.flatMap DlCallback.data := by
    rw [List.flatMap_append, List.flatMap_singleton, hdata, List.append_nil]
  refine ⟨?_, ?_, ?_, ?_, ?_⟩
  · rw [hfailed, h.failed, any_snoc, hfails, Bool.or_false]
  · rw [hdone, h.done, any_snoc]
  · intro hok
    rw [hstatus, h.status (hfailed ▸ hok), any_snoc, hanswers, Bool.or_false]
  · intro hok
    rw [hfile, h.file (hfailed ▸ hok), hflat]
  · intro hok
    rw [hdigested, h.digested (hfailed ▸ hok), hflat]

/-- A callback that fails. -/
theorem Follows.failing {dl dl' : DlCtx} {cs : List DlCallback} (h : Follows dl cs)
    {c : DlCallback} (hfails : c.fails = true) (hfailed : dl'.failed = true)
    (hdone : dl'.done = (dl.done || c.ends)) : Follows dl' (cs ++ [c]) := by
  apply Follows.of_failed hfailed
  · rw [any_snoc, hfails, Bool.or_true]
  · rw [hdone, h.done, any_snoc]

/-- A chunk of data that is written. -/
theorem Follows.written {dl : DlCtx} {cs : List DlCallback} (h : Follows dl cs)
    (hfailed : dl.failed = false) {bytes : List UInt8} (hne : bytes ≠ []) :
    Follows (dlLwsCallback dl (DlCallback.receiveClientHttpRead bytes none))
      (cs ++ [DlCallback.receiveClientHttpRead bytes none]) := by
  have hflat : (cs ++ [DlCallback.receiveClientHttpRead bytes none]).flatMap DlCallback.data =
      cs.flatMap DlCallback.data ++ bytes := by
    rw [List.flatMap_append, List.flatMap_singleton]
    rfl
  have hfails : (DlCallback.receiveClientHttpRead bytes none).fails = false := Bool.and_false _
  have hends : (DlCallback.receiveClientHttpRead bytes none).ends = false := rfl
  have hanswers : (DlCallback.receiveClientHttpRead bytes none).answers = false := rfl
  have hplain : Follows
      { dl with
        file := dl.file ++ bytes
        digested := dl.digested ++ bytes
        bytesReceived := dl.bytesReceived + UInt64.ofNat bytes.length }
      (cs ++ [DlCallback.receiveClientHttpRead bytes none]) := by
    refine ⟨?_, ?_, ?_, ?_, ?_⟩
    · rw [any_snoc, hfails, Bool.or_false]
      exact h.failed
    · rw [any_snoc, hends, Bool.or_false]
      exact h.done
    · intro _
      rw [any_snoc, hanswers, Bool.or_false]
      exact h.status hfailed
    · intro _
      rw [hflat, ← h.file hfailed]
    · intro _
      rw [hflat, ← h.digested hfailed]
  simp only [dlLwsCallback, if_pos (And.intro hne hfailed)]
  split
  · exact hplain.congr rfl rfl rfl rfl rfl
  · exact hplain

theorem Follows.callback {dl : DlCtx} {cs : List DlCallback} (h : Follows dl cs)
    (c : DlCallback) : Follows (dlLwsCallback dl c) (cs ++ [c]) := by
  cases c with
  | connectionError reason =>
      exact h.failing rfl rfl (Bool.or_true _).symm
  | establishedClientHttp status contentLength =>
      by_cases hstatus : status = 200
      · subst hstatus
        have hfails : (DlCallback.establishedClientHttp 200 contentLength).fails = false := rfl
        have hends : (DlCallback.establishedClientHttp 200 contentLength).ends = false := rfl
        have hanswers : (DlCallback.establishedClientHttp 200 contentLength).answers = true :=
          rfl
        have hflat : (cs ++ [DlCallback.establishedClientHttp 200 contentLength]).flatMap
            DlCallback.data = cs.flatMap DlCallback.data := by
          rw [List.flatMap_append]
          exact List.append_nil _
        refine ⟨?_, ?_, ?_, ?_, ?_⟩
        · rw [any_snoc, hfails, Bool.or_false]
          exact h.failed
        · rw [any_snoc, hends, Bool.or_false]
          exact h.done
        · intro _
          rw [any_snoc, hanswers, Bool.or_true, if_pos rfl]
          rfl
        · intro hok
          rw [hflat]
          exact h.file hok
        · intro hok
          rw [hflat]
          exact h.digested hok
      · have hfails : (DlCallback.establishedClientHttp status contentLength).fails = true :=
          decide_eq_true hstatus
        apply h.failing hfails
        · simp only [dlLwsCallback, ne_eq, hstatus, not_false_eq_true, if_true]
        · simp only [dlLwsCallback, ne_eq, hstatus, not_false_eq_true, if_true]
          exact (Bool.or_false _).symm
  | receiveClientHttp =>
      exact h.idle rfl rfl rfl (Bool.or_false _).symm rfl rfl rfl rfl
  | receiveClientHttpRead bytes fault =>
      by_cases hfailed : dl.failed = false
      · by_cases hne : bytes ≠ []
        · cases fault with
          | none =>
              exact h.written hfailed hne
          | some fault =>
              have hfails : (DlCallback.receiveClientHttpRead bytes (some fault)).fails = true :=
                (Bool.and_true _).trans (decide_eq_true hne)
              apply h.failing hfails
              · simp only [dlLwsCallback, if_pos (And.intro hne hfailed)]
              · simp only [dlLwsCallback, if_pos (And.intro hne hfailed)]
                exact (Bool.or_false _).symm
        · have hempty : bytes = [] := not_not.mp hne
          subst hempty
          exact h.idle rfl rfl rfl (Bool.or_false _).symm rfl rfl rfl rfl
      · have htrue : dl.failed = true := Bool.not_eq_false _ ▸ hfailed
        have hsame : dlLwsCallback dl (DlCallback.receiveClientHttpRead bytes fault) = dl :=
          if_neg fun hwrite => hfailed hwrite.right
        rw [hsame]
        apply Follows.of_failed htrue
        · rw [any_snoc, ← h.failed, htrue, Bool.true_or]
        · rw [any_snoc, ← h.done]
          exact (Bool.or_false _).symm
  | completedClientHttp =>
      exact h.idle rfl rfl rfl (Bool.or_true _).symm rfl rfl rfl rfl
  | closedClientHttp =>
      exact h.idle rfl rfl rfl (Bool.or_true _).symm rfl rfl rfl rfl
  | timer =>
      exact h.failing rfl rfl (Bool.or_true _).symm
  | other =>
      exact h.idle rfl rfl rfl (Bool.or_false _).symm rfl rfl rfl rfl

theorem Follows.callbacks {dl : DlCtx} {cs : List DlCallback} (h : Follows dl cs)
    (cs' : List DlCallback) : Follows (cs'.foldl dlLwsCallback dl) (cs ++ cs') := by
  induction cs' generalizing dl cs with
  | nil =>
      rw [List.append_nil]
      exact h
  | cons c cs' ih =>
      have hrest := ih (h.callback c)
      rw [List.append_assoc] at hrest
      exact hrest

/-- A failure stays. -/
theorem failed_callback {dl : DlCtx} (h : dl.failed = true) (c : DlCallback) :
    (dlLwsCallback dl c).failed = true := by
  cases c with
  | connectionError reason => rfl
  | establishedClientHttp status contentLength =>
      simp only [dlLwsCallback]
      split
      · rfl
      · exact h
  | receiveClientHttp => exact h
  | receiveClientHttpRead bytes fault =>
      have hsame : dlLwsCallback dl (DlCallback.receiveClientHttpRead bytes fault) = dl :=
        if_neg fun hwrite => Bool.false_ne_true (hwrite.right.symm.trans h)
      rw [hsame]
      exact h
  | completedClientHttp => exact h
  | closedClientHttp => exact h
  | timer => rfl
  | other => exact h

theorem failed_callbacks {dl : DlCtx} (h : dl.failed = true) (cs : List DlCallback) :
    (cs.foldl dlLwsCallback dl).failed = true := by
  induction cs generalizing dl with
  | nil => exact h
  | cons c cs ih => exact ih (failed_callback h c)

/-!
## The loop
-/

/-- What the loop leaves: the context after its callbacks, or a failure. -/
theorem dlServe_some {services : List DlService} {dl dl' : DlCtx} {timedOut : Bool}
    {cs : List DlCallback} (hserve : dlServe services dl = some (dl', timedOut))
    (h : Follows dl cs) :
    (interrupted dl.done services = false ∧
      Follows dl' (cs ++ servedCallbacks dl.done services)) ∨
    (interrupted dl.done services = true ∧ dl'.failed = true) := by
  induction services generalizing dl cs with
  | nil =>
      rw [dlServe] at hserve
      cases hdone : dl.done with
      | true =>
          rw [hdone, if_pos rfl] at hserve
          cases hserve
          refine Or.inl ⟨rfl, ?_⟩
          rw [servedCallbacks, List.append_nil]
          exact h
      | false =>
          rw [hdone, if_neg Bool.false_ne_true] at hserve
          cases hserve
  | cons s services ih =>
      rw [dlServe] at hserve
      cases hdone : dl.done with
      | true =>
          rw [hdone, if_pos rfl] at hserve
          cases hserve
          refine Or.inl ⟨rfl, ?_⟩
          rw [servedCallbacks, List.append_nil]
          exact h
      | false =>
          simp only [hdone, if_neg Bool.false_ne_true] at hserve
          have hnext := h.callbacks s.callbacks
          have hends : (s.callbacks.foldl dlLwsCallback dl).done =
              s.callbacks.any DlCallback.ends := by
            rw [hnext.done, List.any_append, ← h.done, hdone, Bool.false_or]
          rw [interrupted, servedCallbacks]
          cases hfails : s.fails with
          | true =>
              rw [hfails, if_pos rfl] at hserve
              cases hserve
              exact Or.inr ⟨rfl, rfl⟩
          | false =>
              rw [hfails, if_neg Bool.false_ne_true] at hserve
              cases hlate : s.late with
              | true =>
                  rw [hlate, if_pos rfl] at hserve
                  cases hserve
                  exact Or.inr ⟨rfl, rfl⟩
              | false =>
                  rw [hlate, if_neg Bool.false_ne_true] at hserve
                  have hrest := ih hserve hnext
                  rw [hends, List.append_assoc] at hrest
                  exact hrest

/-- A service that fails or is late ends the loop. -/
theorem dlServe_isSome {services : List DlService}
    (h : services.any (fun s => s.fails || s.late) = true) (dl : DlCtx) :
    (dlServe services dl).isSome = true := by
  induction services generalizing dl with
  | nil =>
      cases h
  | cons s services ih =>
      rw [dlServe]
      split
      · rfl
      · simp only
        split
        · rfl
        · split
          · rfl
          · rename_i hfails hlate
            rw [List.any_cons, Bool.eq_false_iff.mpr hfails, Bool.eq_false_iff.mpr hlate] at h
            exact ih h _

/-!
## The end of a transfer
-/

/-- The hash is the expected one, or none is expected. -/
def HashMatches (sha256 : List UInt8 -> Vector UInt8 32) (r : DlRequest)
    (bytes : List UInt8) : Prop :=
  r.expectedSha256Hex = [] ∨ sameText (hexDigest (sha256 bytes)) r.expectedSha256Hex = true

/-- The `.part` file is opened. -/
def opensPart (r : DlRequest) (w : DlWorld) : Bool :=
  (fileTransferRefusal r.downloadUrl r.filename).isNone && w.workdirReady && w.fileOpens

/-- Every call succeeds, the response is 200, nothing fails and the hash matches. -/
structure Succeeds (sha256 : List UInt8 -> Vector UInt8 32) (r : DlRequest)
    (w : DlWorld) : Prop where
  opened : opensPart r w = true
  started : (w.digestStarts && w.contextCreated && w.connected) = true
  uninterrupted : w.isInterrupted = false
  unfailed : w.callbacks.any DlCallback.fails = false
  answered : w.callbacks.any DlCallback.answers = true
  hash : HashMatches sha256 r w.received
  renamed : w.renames = true

/-- The bytes that `fclose` leaves in the file. -/
def keptBytes (w : DlWorld) : List UInt8 :=
  match w.kept with
  | some n => w.received.take n
  | none => w.received

section

variable {sha256 : List UInt8 -> Vector UInt8 32} {r : DlRequest} {disk : DlDisk}
  {w : DlWorld}

/-- The transfer failed, and its file was removed if that was possible. -/
def Aborts (w : DlWorld) (disk : DlDisk) (e : DlEnd) : Prop :=
  e.error ≠ none ∧ exists bytes, e.disk = removePart w disk bytes

theorem aborts_dlAbort (error : DlError) (dl : DlCtx) (bytes err : List UInt8) :
    Aborts w disk (dlAbort error w disk dl bytes err) :=
  ⟨Option.some_ne_none _, bytes, rfl⟩

theorem verifyTransfer_ok {dl : DlCtx} {bytes : List UInt8}
    (hhash : HashMatches sha256 r dl.digested) (hrename : w.renames = true) :
    (verifyTransfer sha256 r w disk dl bytes).error = none ∧
      (verifyTransfer sha256 r w disk dl bytes).httpStatus = dl.httpStatus ∧
      (verifyTransfer sha256 r w disk dl bytes).disk =
        { part := none, final := some bytes } := by
  have hmatch : (decide (r.expectedSha256Hex ≠ []) &&
      !sameText (hexDigest (sha256 dl.digested)) r.expectedSha256Hex) = false := by
    rcases hhash with hnone | hsame
    · rw [decide_eq_false (not_not.mpr hnone), Bool.false_and]
    · rw [hsame, Bool.not_true, Bool.and_false]
  unfold verifyTransfer
  dsimp only
  rw [hmatch, hrename]
  exact ⟨rfl, rfl, rfl⟩

theorem verifyTransfer_aborts {dl : DlCtx} {bytes : List UInt8}
    (h : ¬ (HashMatches sha256 r dl.digested ∧ w.renames = true)) :
    Aborts w disk (verifyTransfer sha256 r w disk dl bytes) := by
  unfold verifyTransfer
  simp only
  split
  · exact aborts_dlAbort _ _ _ _
  · rename_i hmatch
    split
    · exact aborts_dlAbort _ _ _ _
    · rename_i hrename
      refine absurd ⟨?_, ?_⟩ h
      · rw [Bool.and_eq_true, not_and_or, decide_eq_true_eq, not_not, Bool.not_eq_true',
          Bool.not_eq_false] at hmatch
        exact hmatch
      · rw [Bool.not_eq_true', Bool.not_eq_false] at hrename
        exact hrename

theorem finishTransfer_failed {dl : DlCtx} (h : dl.failed = true) (timedOut : Bool) :
    Aborts w disk (finishTransfer sha256 r w disk dl timedOut) := by
  have hfailed := failed_callbacks h w.destroying
  simp only [finishTransfer, hfailed, Bool.true_or, if_true]
  exact aborts_dlAbort _ _ _ _

/-- After all callbacks: a success if nothing failed, the response was 200, the hash
matches and the file is renamed. -/
theorem finishTransfer_followed {dl : DlCtx} {cs : List DlCallback} (h : Follows dl cs)
    (timedOut : Bool) (hall : cs ++ w.destroying = w.callbacks)
    (hfails : w.callbacks.any DlCallback.fails = false)
    (hanswers : w.callbacks.any DlCallback.answers = true)
    (hhash : HashMatches sha256 r w.received) (hrename : w.renames = true) :
    (finishTransfer sha256 r w disk dl timedOut).error = none ∧
      (finishTransfer sha256 r w disk dl timedOut).httpStatus = 200 ∧
      (finishTransfer sha256 r w disk dl timedOut).disk =
        { part := none, final := some (keptBytes w) } := by
  have hend := h.callbacks w.destroying
  rw [hall] at hend
  have hok := hend.failed.trans hfails
  have hstatus := hend.status hok
  rw [hanswers, if_pos rfl] at hstatus
  have hbytes : closedFile w (w.destroying.foldl dlLwsCallback dl) = keptBytes w := by
    unfold closedFile keptBytes DlWorld.received
    rw [hend.file hok]
  have hchecked : HashMatches sha256 r
      ((w.destroying.foldl dlLwsCallback dl).reportProgress
        LeoFileTransferStatus.verifying none).digested := by
    show HashMatches sha256 r (w.destroying.foldl dlLwsCallback dl).digested
    rw [hend.digested hok]
    exact hhash
  have hfinish : finishTransfer sha256 r w disk dl timedOut =
      verifyTransfer sha256 r w disk
        ((w.destroying.foldl dlLwsCallback dl).reportProgress
          LeoFileTransferStatus.verifying none) (keptBytes w) := by
    simp only [finishTransfer, hok, hstatus, hbytes]
    rfl
  rw [hfinish]
  exact ⟨(verifyTransfer_ok hchecked hrename).left,
    (verifyTransfer_ok hchecked hrename).right.left.trans hstatus,
    (verifyTransfer_ok hchecked hrename).right.right⟩

theorem finishTransfer_aborts {dl : DlCtx} {cs : List DlCallback} (h : Follows dl cs)
    (timedOut : Bool) (hall : cs ++ w.destroying = w.callbacks)
    (hbad : ¬ (w.callbacks.any DlCallback.fails = false ∧
      w.callbacks.any DlCallback.answers = true ∧ HashMatches sha256 r w.received ∧
      w.renames = true)) :
    Aborts w disk (finishTransfer sha256 r w disk dl timedOut) := by
  have hend := h.callbacks w.destroying
  rw [hall] at hend
  unfold finishTransfer
  simp only
  split
  · exact aborts_dlAbort _ _ _ _
  · rename_i hgood
    rw [Bool.or_eq_true, not_or, Bool.not_eq_true, decide_eq_true_eq, not_not] at hgood
    rcases hgood with ⟨hok, hstatus⟩
    apply verifyTransfer_aborts
    rintro ⟨hhash, hrename⟩
    have hfails : w.callbacks.any DlCallback.fails = false := hend.failed.symm.trans hok
    have hanswers : w.callbacks.any DlCallback.answers = true := by
      apply Decidable.byContradiction
      intro hnone
      have hzero := hend.status hok
      rw [hstatus, if_neg hnone] at hzero
      cases hzero
    have hdigested := hend.digested hok
    refine hbad ⟨hfails, hanswers, ?_, hrename⟩
    unfold DlWorld.received
    rw [← hdigested]
    exact hhash

/-- A context that has seen no callback. -/
theorem follows_nil {dl : DlCtx} (hfailed : dl.failed = false) (hdone : dl.done = false)
    (hstatus : dl.httpStatus = 0) (hfile : dl.file = []) (hdigested : dl.digested = []) :
    Follows dl [] :=
  ⟨hfailed, hdone, fun _ => hstatus, fun _ => hfile, fun _ => hdigested⟩

theorem opensPart_iff : opensPart r w = true <->
    fileTransferRefusal r.downloadUrl r.filename = none ∧ w.workdirReady = true ∧
      w.fileOpens = true := by
  rw [opensPart, Bool.and_eq_true, Bool.and_eq_true, Option.isNone_iff_eq_none, and_assoc]

/-- Without the `.part` file there is an error, the files are as before and nothing is
reported. -/
theorem run_unopened {e : DlEnd} (hopened : opensPart r w = false)
    (hrun : leoFileTransferRun sha256 r disk w = some e) :
    e.error ≠ none ∧ e.disk = disk ∧ e.reports = [] := by
  have hnot : ¬ (fileTransferRefusal r.downloadUrl r.filename = none ∧
      w.workdirReady = true ∧ w.fileOpens = true) :=
    fun hopens => Bool.false_ne_true (hopened.symm.trans (opensPart_iff.mpr hopens))
  unfold leoFileTransferRun at hrun
  cases hrefusal : fileTransferRefusal r.downloadUrl r.filename with
  | some message =>
      simp only [hrefusal, Option.some.injEq] at hrun
      subst hrun
      exact ⟨Option.some_ne_none _, rfl, rfl⟩
  | none =>
      simp only [hrefusal] at hrun
      cases hworkdir : w.workdirReady with
      | false =>
          simp only [hworkdir, Bool.not_false, if_true, Option.some.injEq] at hrun
          subst hrun
          exact ⟨Option.some_ne_none _, rfl, rfl⟩
      | true =>
          cases hopens : w.fileOpens with
          | true => exact absurd ⟨hrefusal, hworkdir, hopens⟩ hnot
          | false =>
              simp only [hworkdir, hopens, Bool.not_false, Bool.not_true, if_true,
                Bool.false_eq_true, if_false, Option.some.injEq] at hrun
              subst hrun
              exact ⟨Option.some_ne_none _, rfl, rfl⟩

/-- With the file opened, a transfer ends as its calls and callbacks say. -/
theorem run_opened {e : DlEnd} (hopened : opensPart r w = true)
    (hrun : leoFileTransferRun sha256 r disk w = some e) :
    (Succeeds sha256 r w ∧ e.error = none ∧ e.httpStatus = 200 ∧
      e.disk = { part := none, final := some (keptBytes w) }) ∨
    (¬ Succeeds sha256 r w ∧ Aborts w disk e) := by
  rcases opensPart_iff.mp hopened with ⟨hrefusal, hworkdir, hopens⟩
  unfold leoFileTransferRun at hrun
  simp only [hrefusal, hworkdir, hopens, Bool.not_true, Bool.false_eq_true, if_false] at hrun
  cases hdigest : w.digestStarts with
  | false =>
      simp only [hdigest, Bool.not_false, if_true, Option.some.injEq] at hrun
      subst hrun
      refine Or.inr ⟨fun h => ?_, Option.some_ne_none _, _, rfl⟩
      have hstarted := h.started
      rw [hdigest] at hstarted
      cases hstarted
  | true =>
      simp only [hdigest, Bool.not_true, Bool.false_eq_true, if_false] at hrun
      cases hcontext : w.contextCreated with
      | false =>
          simp only [hcontext, Bool.not_false, if_true, Option.some.injEq] at hrun
          subst hrun
          refine Or.inr ⟨fun h => ?_, Option.some_ne_none _, _, rfl⟩
          have hstarted := h.started
          rw [hcontext, Bool.and_false] at hstarted
          cases hstarted
      | true =>
          simp only [hcontext, Bool.not_true, Bool.false_eq_true, if_false] at hrun
          cases hconnected : w.connected with
          | false =>
              simp only [hconnected, Bool.not_false, if_true, Option.some.injEq] at hrun
              subst hrun
              refine Or.inr ⟨fun h => ?_, Option.some_ne_none _, _, rfl⟩
              have hstarted := h.started
              rw [hconnected, Bool.and_false] at hstarted
              cases hstarted
          | true =>
              simp only [hconnected, Bool.not_true, Bool.false_eq_true, if_false,
                Option.map_eq_some_iff, Prod.exists] at hrun
              rcases hrun with ⟨dl, timedOut, hserve, rfl⟩
              have hstart : Follows
                  ((openedDl r).reportProgress LeoFileTransferStatus.downloading none) [] :=
                follows_nil rfl rfl rfl rfl rfl
              have hconnecting : Follows
                  { w.connecting.foldl dlLwsCallback
                    ((openedDl r).reportProgress LeoFileTransferStatus.downloading none) with
                      timeoutSecs := effectiveTimeout r } ([] ++ w.connecting) :=
                (hstart.callbacks w.connecting).congr rfl rfl rfl rfl rfl
              have hdone := hconnecting.done
              rw [List.nil_append] at hconnecting hdone
              rcases dlServe_some hserve hconnecting with
                ⟨hquiet, hfollows⟩ | ⟨hbroken, hfailed⟩
              · rw [hdone] at hquiet hfollows
                by_cases hgood : w.callbacks.any DlCallback.fails = false ∧
                    w.callbacks.any DlCallback.answers = true ∧
                    HashMatches sha256 r w.received ∧ w.renames = true
                · rcases hgood with ⟨hfails, hanswers, hhash, hrename⟩
                  refine Or.inl ⟨⟨hopened, ?_, hquiet, hfails, hanswers, hhash, hrename⟩, ?_⟩
                  · rw [hdigest, hcontext, hconnected]
                    rfl
                  · exact finishTransfer_followed hfollows timedOut rfl hfails hanswers hhash
                      hrename
                · refine Or.inr ⟨fun h => hgood ⟨h.unfailed, h.answered, h.hash, h.renamed⟩, ?_⟩
                  exact finishTransfer_aborts hfollows timedOut rfl hgood
              · rw [hdone] at hbroken
                refine Or.inr ⟨fun h => ?_, finishTransfer_failed hfailed timedOut⟩
                exact Bool.false_ne_true (h.uninterrupted.symm.trans hbroken)

end

/-!
## Completeness
-/

/-- A transfer is complete or leaves nothing: if it returns `LEO_OK` or the final file
appears, the response was 200 and the file holds the received bytes, with the expected
hash and size; and an error leaves the final file as it was and no `.part` file. -/
structure CompleteOrClean (sha256 : List UInt8 -> Vector UInt8 32) (r : DlRequest)
    (disk : DlDisk) (w : DlWorld) (e : DlEnd) : Prop where
  complete : e.error = none ∨ e.disk.final ≠ disk.final ->
    e.httpStatus = 200 ∧ e.disk.final = some w.received ∧
      (r.expectedSha256Hex ≠ [] ->
        sameText (hexDigest (sha256 w.received)) r.expectedSha256Hex = true) ∧
      (r.expectedSize ≠ 0 -> w.received.length = r.expectedSize.toNat)
  clean : e.error ≠ none -> e.disk.final = disk.final ∧ e.disk.part = none

/-- The size is the expected one and `fclose` writes every byte, if all else succeeds; and
else the `.part` file can be removed, or was not there before it would be opened. -/
structure KeepsWhole (sha256 : List UInt8 -> Vector UInt8 32) (r : DlRequest)
    (disk : DlDisk) (w : DlWorld) : Prop where
  size : Succeeds sha256 r w -> r.expectedSize ≠ 0 ->
    w.received.length = r.expectedSize.toNat
  flushed : Succeeds sha256 r w -> forall n, w.kept = some n -> w.received.length ≤ n
  removed : ¬ Succeeds sha256 r w -> opensPart r w = true -> w.removes = true
  absent : opensPart r w = false -> disk.part = none

theorem keptBytes_eq_iff (w : DlWorld) :
    keptBytes w = w.received <-> forall n, w.kept = some n -> w.received.length ≤ n := by
  unfold keptBytes
  cases w.kept with
  | none =>
      refine ⟨fun _ n h => ?_, fun _ => rfl⟩
      cases h
  | some n =>
      constructor
      · intro heq m hm
        cases hm
        exact List.take_eq_self_iff _ |>.mp heq
      · intro hle
        exact List.take_of_length_le (hle n rfl)

/-- In every transfer that has returned. -/
theorem transfer_complete_iff (sha256 : List UInt8 -> Vector UInt8 32) (r : DlRequest)
    (disk : DlDisk) (w : DlWorld) {e : DlEnd}
    (hrun : leoFileTransferRun sha256 r disk w = some e) :
    CompleteOrClean sha256 r disk w e <-> KeepsWhole sha256 r disk w := by
  cases hopened : opensPart r w with
  | false =>
      have hfails : ¬ Succeeds sha256 r w := fun h =>
        Bool.false_ne_true (hopened.symm.trans h.opened)
      rcases run_unopened hopened hrun with ⟨herror, hdisk, _⟩
      constructor
      · intro h
        refine ⟨fun hs => absurd hs hfails, fun hs => absurd hs hfails, ?_, ?_⟩
        · intro _ htrue
          exact absurd (hopened.symm.trans htrue) Bool.false_ne_true
        · intro _
          rw [← hdisk]
          exact (h.clean herror).right
      · intro h
        refine ⟨?_, fun _ => ?_⟩
        · rintro (hok | hfinal)
          · exact absurd hok herror
          · exact absurd (congrArg DlDisk.final hdisk) hfinal
        · rw [hdisk]
          exact ⟨rfl, h.absent hopened⟩
  | true =>
      have hnotAbsent : ¬ opensPart r w = false := by
        rw [hopened]
        exact Bool.noConfusion
      rcases run_opened hopened hrun with
        ⟨hsucceeds, herror, hstatus, hdisk⟩ | ⟨hfails, herror, bytes, hdisk⟩
      · constructor
        · intro h
          rcases h.complete (Or.inl herror) with ⟨_, hfinal, _, hsize⟩
          rw [hdisk] at hfinal
          have hkept := (keptBytes_eq_iff w).mp (Option.some.inj hfinal)
          exact ⟨fun _ => hsize, fun _ => hkept, fun hnot => absurd hsucceeds hnot,
            fun habsent => absurd habsent hnotAbsent⟩
        · intro h
          have hkept := (keptBytes_eq_iff w).mpr (h.flushed hsucceeds)
          refine ⟨fun _ => ⟨hstatus, ?_, ?_, h.size hsucceeds⟩, fun hbad => absurd herror hbad⟩
          · rw [hdisk, hkept]
          · intro hexpected
            exact hsucceeds.hash.resolve_left hexpected
      · constructor
        · intro h
          refine ⟨fun hs => absurd hs hfails, fun hs => absurd hs hfails, ?_,
            fun habsent => absurd habsent hnotAbsent⟩
          intro _ _
          have hpart := (h.clean herror).right
          rw [hdisk] at hpart
          cases hremoves : w.removes with
          | true => rfl
          | false =>
              rw [removePart, hremoves] at hpart
              cases hpart
        · intro h
          have hremoves := h.removed hfails hopened
          have hfinal : e.disk.final = disk.final := by
            rw [hdisk]
            rfl
          refine ⟨?_, fun _ => ⟨hfinal, ?_⟩⟩
          · rintro (hok | hchanged)
            · exact absurd hok herror
            · exact absurd hfinal hchanged
          · rw [hdisk, removePart, hremoves]
            rfl

namespace Sample

def fileRequest (expectedSize : UInt64) : DlRequest where
  cmdId := utf8 "c"
  downloadUrl := utf8 "http://h/f"
  filename := utf8 "f"
  expectedSha256Hex := []
  expectedSize := expectedSize
  timeoutSecs := 60

def emptyDisk : DlDisk where
  part := none
  final := none

/-- The server answers 200, sends two bytes and closes the connection. -/
def earlyClose : DlWorld where
  workdirReady := true
  fileOpens := true
  digestStarts := true
  contextCreated := true
  connecting := []
  connected := true
  services :=
    [{ callbacks :=
         [DlCallback.establishedClientHttp 200 none,
           DlCallback.receiveClientHttpRead [97, 98] none,
           DlCallback.closedClientHttp]
       fails := false
       late := false }]
  destroying := []
  kept := none
  removes := true
  renames := true
  errno := []

def noHash (_ : List UInt8) : Vector UInt8 32 :=
  Vector.replicate 32 0

end Sample

/-- Two bytes of two. -/
theorem transfer_complete_iff_whole :
    exists e, leoFileTransferRun Sample.noHash (Sample.fileRequest 2) Sample.emptyDisk
      Sample.earlyClose = some e ∧
    CompleteOrClean Sample.noHash (Sample.fileRequest 2) Sample.emptyDisk Sample.earlyClose
      e := by
  have hsucceeds : Succeeds Sample.noHash (Sample.fileRequest 2) Sample.earlyClose :=
    ⟨by decide, by decide, by decide, by decide, by decide, Or.inl rfl, rfl⟩
  have hwhole : KeepsWhole Sample.noHash (Sample.fileRequest 2) Sample.emptyDisk
      Sample.earlyClose := by
    refine ⟨fun _ _ => by decide, fun _ n hn => ?_, fun hnot => absurd hsucceeds hnot,
      fun _ => rfl⟩
    cases hn
  refine ⟨_, rfl, ?_⟩
  exact (transfer_complete_iff Sample.noHash (Sample.fileRequest 2) Sample.emptyDisk
    Sample.earlyClose rfl).mpr hwhole

/-- Two bytes of five are taken for the file. -/
theorem truncated_file_accepted :
    ¬ forall (sha256 : List UInt8 -> Vector UInt8 32) (r : DlRequest) (disk : DlDisk)
      (w : DlWorld) (e : DlEnd), leoFileTransferRun sha256 r disk w = some e ->
      CompleteOrClean sha256 r disk w e := by
  intro hall
  obtain ⟨e, hrun, hok⟩ : exists e,
      leoFileTransferRun Sample.noHash (Sample.fileRequest 5) Sample.emptyDisk
        Sample.earlyClose = some e ∧ e.error = none :=
    ⟨_, rfl, rfl⟩
  have hcomplete := hall Sample.noHash (Sample.fileRequest 5) Sample.emptyDisk
    Sample.earlyClose e hrun
  rcases hcomplete.complete (Or.inl hok) with ⟨_, _, _, hsize⟩
  exact absurd (hsize (by decide)) (by decide)

end Agent
end LeoOne
