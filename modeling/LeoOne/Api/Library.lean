import LeoOne.Foundation.Disk
import LeoOne.Scheduler.Schedules

/-!
# The library of files

`FileHandler.Create`, `Delete` and `Download`.  The row of a file, its content on
disk and the tokens to download it are in three places, and a handler goes from
one to the other in separate steps: one statement, one system call, or one chunk
of `io.Copy`, together with the handler's code up to the next one.

A name on disk and the identifier of a row are generated and occur once; so does a
download token, for whose SHA-256 digest the raw token stands.  A statement that
fails has no effect.  A chunk whose `write` fails may be on disk in part.
-/

namespace LeoOne
namespace Api

open Foundation
open Backend (fitsText)
open Scheduler (trimSpace)

/-- A row of `files`. -/
structure FileRow where
  id : Uuid
  tenantId : Uuid
  name : String
  sizeBytes : Nat
  checksumSha256 : String
  storagePath : String
  uploadedBy : Option String
  createdAt : Nat
  deriving DecidableEq

/-- A row of `file_download_tokens`. -/
structure DownloadTokenRow where
  fileId : Uuid
  token : String
  expiresAt : Nat
  usedAt : Option Nat
  deriving DecidableEq

/-- The fields of `FileHandler`, with the function that its hashers compute (the
digest as a hexadecimal text). -/
structure FileConfig where
  storageDir : String
  downloadTtl : Nat
  publicApiEndpoint : String
  sha256 : List UInt8 -> String

/-- The claims in the context of a request. -/
structure Caller where
  userId : String
  tenantId : String
  deriving DecidableEq

/-- The multipart form of `Create`: the part `file` with its file name, and the
field `name`. -/
structure UploadForm where
  file : Option (String × List UInt8)
  name : String

/-- The variables of `Create` once the form is read. -/
structure Upload where
  caller : Caller
  name : String
  content : List UInt8

/-- A response of `Download` that `http.ServeContent` has written: `complete` if
the connection took the whole body. -/
structure Response where
  token : String
  fileId : Uuid
  status : Nat
  body : List UInt8
  complete : Bool
  deriving DecidableEq

inductive FileAnswer where
  | error (status : Nat) (code message : String)
  | created (row : FileRow)
  | noContent
  deriving DecidableEq

/-- The tables and the disk, with what has happened: the identifiers and tokens
that were drawn, the content that each row was made for, and the responses. -/
structure Library where
  files : List FileRow
  tokens : List DownloadTokenRow
  disk : Disk String UInt8
  names : List Uuid
  drawn : List String
  uploaded : List (Uuid × List UInt8)
  served : List Response
  answers : List FileAnswer

/-- What a step meets: whether it fails, the clock, the values that are drawn, how
many bytes a chunk has or the connection takes, and which response `ServeContent`
chooses from the headers of the request (a body that is not the whole file is not
modelled further). -/
structure FileInput where
  fails : Bool
  now : Nat
  uuid : Uuid
  token : String
  bytes : Nat
  status : Nat
  otherBody : List UInt8

inductive FileStep where
  | create (caller : Caller) (form : Option UploadForm)
  | createFile (u : Upload)
  | copy (u : Upload) (path : String) (fd written : Nat)
  | close (u : Upload) (path : String) (fd written : Nat) (failed : Bool)
  | insertFile (u : Upload) (path : String) (written : Nat)
  | discard (path : String) (answer : FileAnswer)
  | findForDelete (tenantId fileId : String)
  | deleteFile (tenantId fileId : String) (f : FileRow)
  | removeFile (path : String)
  | consumeToken (fileId token : String)
  | findServed (fileId token : String) (id : Uuid)
  | openFile (token : String) (f : FileRow)
  | serveContent (token : String) (f : FileRow) (fd : Nat)

/-- `filepath.Join(h.storageDir, diskName)`. -/
def FileConfig.storagePath (cfg : FileConfig) (diskName : Uuid) : String :=
  cfg.storageDir ++ "/" ++ diskName.text

namespace Library

/-!
## Statements of `FileRepo`
-/

/-- `WHERE id = $1 AND tenant_id = $2`. -/
def isFile (tenant id : Uuid) (f : FileRow) : Bool :=
  f.id = id && f.tenantId = tenant

/-- `FindByID`; `none` is an error. -/
def findById (l : Library) (tenantId fileId : String) : Option (Option FileRow) :=
  match Uuid.parse tenantId, Uuid.parse fileId with
  | some tenant, some id => some (l.files.find? (isFile tenant id))
  | _, _ => none

/-- The violation of `UNIQUE(tenant_id, name)`. -/
def nameTaken (l : Library) (tenant : Uuid) (name : String) : Bool :=
  l.files.any fun f => f.tenantId = tenant && f.name = name

/-- `Delete`, with the cascade to the tokens; `none` if no row is affected. -/
def delete (l : Library) (tenantId fileId : String) : Option Library :=
  match Uuid.parse tenantId, Uuid.parse fileId with
  | some tenant, some id =>
      if l.files.any (isFile tenant id) then
        some
          { l with
            files := Table.deleteWhere (isFile tenant id) l.files
            tokens := Table.deleteWhere (fun t => t.fileId = id) l.tokens }
      else none
  | _, _ => none

/-- `CreateDownloadToken`; `none` is a violation of the foreign key. -/
def createDownloadToken (l : Library) (fileId : Uuid) (token : String) (ttl now : Nat) :
    Option Library :=
  if l.files.any fun f => f.id = fileId then
    some
      { l with
        tokens := l.tokens ++
          [{ fileId := fileId, token := token, expiresAt := now + ttl, usedAt := none }]
        drawn := token :: l.drawn }
  else none

/-- The `WHERE` clause of `ConsumeDownloadToken`. -/
def isConsumable (token : String) (now : Nat) (t : DownloadTokenRow) : Bool :=
  t.token = token && t.usedAt.isNone && now < t.expiresAt

/-- The `UPDATE` of `ConsumeDownloadToken`, with the `file_id` that it returns. -/
def consumeDownloadToken (l : Library) (token : String) (now : Nat) :
    Option (Library × Uuid) :=
  match l.tokens.find? (isConsumable token now) with
  | none => none
  | some t =>
      some
        ({ l with
            tokens := Table.updateWhere (isConsumable token now)
              (fun t => { t with usedAt := some now }) l.tokens },
          t.fileId)

/-- The handler writes its answer and returns. -/
def reply (l : Library) (answer : FileAnswer) : Library × List FileStep :=
  ({ l with answers := answer :: l.answers }, [])

def reject (l : Library) (status : Nat) (code message : String) : Library × List FileStep :=
  l.reply (FileAnswer.error status code message)

end Library

namespace FileStep

/-- The row that `Create` inserts. -/
def newRow (cfg : FileConfig) (x : FileInput) (u : Upload) (path : String) (written : Nat)
    (tenant : Uuid) : FileRow where
  id := x.uuid
  tenantId := tenant
  name := u.name
  sizeBytes := written
  checksumSha256 := cfg.sha256 (u.content.take written)
  storagePath := path
  uploadedBy := if u.caller.userId = "" then none else some u.caller.userId
  createdAt := x.now

/-- One step: what it leaves, and the steps that follow it. -/
def exec (cfg : FileConfig) (x : FileInput) (l : Library) : FileStep -> Library × List FileStep
  | create _ none =>
      l.reject 413 "VALIDATION_ERROR"
        "corps de requête multipart invalide ou fichier trop volumineux"
  | create caller (some form) =>
      match form.file with
      | none => l.reject 400 "VALIDATION_ERROR" "champ 'file' requis"
      | some (filename, content) =>
          let name :=
            if trimSpace form.name = "" then trimSpace filename else trimSpace form.name
          if name = "" then l.reject 400 "VALIDATION_ERROR" "nom de fichier requis"
          else (l, [createFile { caller := caller, name := name, content := content }])
  | createFile u =>
      if x.fails then l.reject 500 "INTERNAL_ERROR" "erreur de stockage"
      else
        let path := cfg.storagePath x.uuid
        ({ l with disk := (l.disk.create path).1, names := x.uuid :: l.names },
          [copy u path (l.disk.create path).2 0])
  | copy u path fd written =>
      -- the hasher has seen the same bytes as the file
      let chunk := (u.content.drop written).take x.bytes
      if x.fails then
        ({ l with disk := l.disk.append fd chunk }, [close u path fd written true])
      else if written = u.content.length then (l, [close u path fd written false])
      else
        ({ l with disk := l.disk.append fd chunk }, [copy u path fd (written + chunk.length)])
  | close u path _ written failed =>
      if failed || x.fails then
        (l, [discard path
          (FileAnswer.error 500 "INTERNAL_ERROR" "erreur lors de l'écriture du fichier")])
      else (l, [insertFile u path written])
  | insertFile u path written =>
      match Uuid.parse u.caller.tenantId with
      | none =>
          (l, [discard path
            (FileAnswer.error 500 "INTERNAL_ERROR"
              "erreur lors de l'enregistrement du fichier")])
      | some tenant =>
          if x.fails || !fitsText u.name then
            (l, [discard path
              (FileAnswer.error 500 "INTERNAL_ERROR"
                "erreur lors de l'enregistrement du fichier")])
          else if l.nameTaken tenant u.name then
            (l, [discard path
              (FileAnswer.error 409 "FILE_ALREADY_EXISTS"
                "un fichier avec ce nom existe déjà")])
          else
            Library.reply
              { l with
                files := l.files ++ [newRow cfg x u path written tenant]
                names := x.uuid :: l.names
                uploaded := (x.uuid, u.content) :: l.uploaded }
              (FileAnswer.created (newRow cfg x u path written tenant))
  | discard path answer =>
      Library.reply
        { l with disk := if x.fails then l.disk else l.disk.unlink path } answer
  | findForDelete tenantId fileId =>
      match if x.fails then none else l.findById tenantId fileId with
      | none => l.reject 500 "INTERNAL_ERROR" "erreur de base de données"
      | some none => l.reject 404 "NOT_FOUND" "fichier introuvable"
      | some (some f) => (l, [deleteFile tenantId fileId f])
  | deleteFile tenantId fileId f =>
      match if x.fails then none else l.delete tenantId fileId with
      | none => l.reject 500 "INTERNAL_ERROR" "erreur lors de la suppression"
      | some l => (l, [removeFile f.storagePath])
  | removeFile path =>
      Library.reply
        { l with disk := if x.fails then l.disk else l.disk.unlink path } FileAnswer.noContent
  | consumeToken fileId token =>
      if token = "" then l.reject 401 "UNAUTHORIZED" "token de téléchargement manquant"
      else if x.fails then l.reject 500 "INTERNAL_ERROR" "erreur de base de données"
      else
        match l.consumeDownloadToken token x.now with
        | none =>
            l.reject 401 "UNAUTHORIZED"
              "token de téléchargement invalide, expiré, ou déjà utilisé"
        | some (l, id) => (l, [findServed fileId token id])
  | findServed fileId token id =>
      if x.fails then l.reject 500 "INTERNAL_ERROR" "erreur de base de données"
      else
        match l.files.find? fun f => f.id = id with
        | none =>
            l.reject 401 "UNAUTHORIZED"
              "token de téléchargement invalide, expiré, ou déjà utilisé"
        | some f =>
            if f.id.text ≠ fileId then
              l.reject 401 "UNAUTHORIZED"
                "token de téléchargement invalide, expiré, ou déjà utilisé"
            else (l, [openFile token f])
  | openFile token f =>
      match if x.fails then none else l.disk.lookup f.storagePath with
      | none => l.reject 500 "INTERNAL_ERROR" "fichier introuvable sur le serveur"
      | some fd => (l, [serveContent token f fd])
  | serveContent token f fd =>
      let content := l.disk.contents fd
      ({ l with
          served :=
            { token := token
              fileId := f.id
              status := x.status
              body := if x.status = 200 then content.take x.bytes else x.otherBody
              complete := content.length ≤ x.bytes } :: l.served },
        [])

/-- The step draws an identifier. -/
def drawsUuid : FileStep -> Bool
  | createFile _ => true
  | insertFile _ _ _ => true
  | _ => false

end FileStep

/-!
## What a step can do
-/

namespace Library

/-- The library after a call of `os.Create` that has succeeded. -/
def fileCreated (l : Library) (cfg : FileConfig) (x : FileInput) : Library :=
  { l with
    disk := (l.disk.create (cfg.storagePath x.uuid)).1
    names := x.uuid :: l.names }

/-- The library after a chunk has been written, or a part of it. -/
def written (l : Library) (fd : Nat) (chunk : List UInt8) : Library :=
  { l with disk := l.disk.append fd chunk }

/-- The library after the row of an upload has been inserted. -/
def rowInserted (l : Library) (cfg : FileConfig) (x : FileInput) (u : Upload) (path : String)
    (written : Nat) (tenant : Uuid) : Library :=
  (Library.reply
    { l with
      files := l.files ++ [FileStep.newRow cfg x u path written tenant]
      names := x.uuid :: l.names
      uploaded := (x.uuid, u.content) :: l.uploaded }
    (FileAnswer.created (FileStep.newRow cfg x u path written tenant))).1

/-- The library after a call of `os.Remove` that has succeeded. -/
def removed (l : Library) (path : String) (answer : FileAnswer) : Library :=
  (Library.reply { l with disk := l.disk.unlink path } answer).1

/-- The response of `ServeContent`. -/
def response (l : Library) (x : FileInput) (token : String) (f : FileRow) (fd : Nat) :
    Response where
  token := token
  fileId := f.id
  status := x.status
  body := if x.status = 200 then (l.disk.contents fd).take x.bytes else x.otherBody
  complete := (l.disk.contents fd).length ≤ x.bytes

end Library

/-- `Delete` takes the row and its tokens from the tables. -/
theorem Library.delete_some {l l' : Library} {tenantId fileId : String}
    (h : l.delete tenantId fileId = some l') :
    exists tenant id, l.files.any (Library.isFile tenant id) = true ∧ l' =
      { l with
        files := Table.deleteWhere (Library.isFile tenant id) l.files
        tokens := Table.deleteWhere (fun t => t.fileId = id) l.tokens } := by
  unfold delete at h
  split at h
  · split at h
    · rename_i hfound
      cases h
      exact ⟨_, _, hfound, rfl⟩
    · cases h
  · cases h

/-- `ConsumeDownloadToken` marks a token that can be used. -/
theorem Library.consumeDownloadToken_some {l l' : Library} {token : String} {now : Nat}
    {id : Uuid} (h : l.consumeDownloadToken token now = some (l', id)) :
    (exists t, t ∈ l.tokens ∧ Library.isConsumable token now t = true ∧ t.fileId = id) ∧
      l' = { l with
        tokens := Table.updateWhere (Library.isConsumable token now)
          (fun t => { t with usedAt := some now }) l.tokens } := by
  unfold consumeDownloadToken at h
  split at h
  · cases h
  · rename_i t hfind
    cases h
    exact ⟨⟨t, List.mem_of_find?_eq_some hfind, List.find?_some hfind, rfl⟩, rfl⟩

/-- `CreateDownloadToken` adds a token. -/
theorem Library.createDownloadToken_some {l l' : Library} {fileId : Uuid} {token : String}
    {ttl now : Nat} (h : l.createDownloadToken fileId token ttl now = some l') :
    l' = { l with
      tokens := l.tokens ++
        [{ fileId := fileId, token := token, expiresAt := now + ttl, usedAt := none }]
      drawn := token :: l.drawn } := by
  unfold createDownloadToken at h
  split at h
  · cases h
    rfl
  · cases h

/-- Everything a step can do: what it leaves, and the steps that follow it. -/
inductive FileMove (cfg : FileConfig) (x : FileInput) (l : Library) :
    FileStep -> Library -> List FileStep -> Prop where
  | answered {f answer} : FileMove cfg x l f (l.reply answer).1 []
  | named {caller form u} : FileMove cfg x l (FileStep.create caller form) l
      [FileStep.createFile u]
  | fileCreated {u} :
      FileMove cfg x l (FileStep.createFile u) (l.fileCreated cfg x)
        [FileStep.copy u (cfg.storagePath x.uuid)
          (l.disk.create (cfg.storagePath x.uuid)).2 0]
  | copyFailed {u path fd written chunk} :
      FileMove cfg x l (FileStep.copy u path fd written) (l.written fd chunk)
        [FileStep.close u path fd written true]
  | copied {u path fd} :
      FileMove cfg x l (FileStep.copy u path fd u.content.length) l
        [FileStep.close u path fd u.content.length false]
  | chunkCopied {u path fd written} :
      FileMove cfg x l (FileStep.copy u path fd written)
        (l.written fd ((u.content.drop written).take x.bytes))
        [FileStep.copy u path fd (written + ((u.content.drop written).take x.bytes).length)]
  | abandoned {f path answer} : FileMove cfg x l f l [FileStep.discard path answer]
  | closed {u path fd written} :
      FileMove cfg x l (FileStep.close u path fd written false) l
        [FileStep.insertFile u path written]
  | rowInserted {u path written tenant} :
      FileMove cfg x l (FileStep.insertFile u path written)
        (l.rowInserted cfg x u path written tenant) []
  | removed {f path answer} : FileMove cfg x l f (l.removed path answer) []
  | foundForDelete {tenantId fileId f} :
      FileMove cfg x l (FileStep.findForDelete tenantId fileId) l
        [FileStep.deleteFile tenantId fileId f]
  | deleted {tenantId fileId f l'} :
      l.delete tenantId fileId = some l' ->
      FileMove cfg x l (FileStep.deleteFile tenantId fileId f) l'
        [FileStep.removeFile f.storagePath]
  | consumed {fileId token l' id} :
      l.consumeDownloadToken token x.now = some (l', id) ->
      FileMove cfg x l (FileStep.consumeToken fileId token) l'
        [FileStep.findServed fileId token id]
  | foundServed {fileId token f} :
      f ∈ l.files ->
      FileMove cfg x l (FileStep.findServed fileId token f.id) l [FileStep.openFile token f]
  | opened {token f fd} :
      l.disk.lookup f.storagePath = some fd ->
      FileMove cfg x l (FileStep.openFile token f) l [FileStep.serveContent token f fd]
  | sent {token f fd} :
      FileMove cfg x l (FileStep.serveContent token f fd)
        { l with served := l.response x token f fd :: l.served } []

/-- The steps obey this description. -/
theorem FileStep.moves (cfg : FileConfig) (x : FileInput) (l : Library) (f : FileStep) :
    FileMove cfg x l f (f.exec cfg x l).1 (f.exec cfg x l).2 := by
  cases f with
  | create caller form =>
      cases form with
      | none =>
          simp only [exec]
          exact FileMove.answered
      | some form =>
          cases hfile : form.file with
          | none =>
              simp only [exec, hfile]
              exact FileMove.answered
          | some part =>
              simp only [exec, hfile]
              generalize (if trimSpace form.name = "" then trimSpace part.1
                else trimSpace form.name) = name
              split
              · exact FileMove.answered
              · exact FileMove.named
  | createFile u =>
      simp only [exec]
      split
      · exact FileMove.answered
      · exact FileMove.fileCreated
  | copy u path fd written =>
      simp only [exec]
      split
      · exact FileMove.copyFailed
      · split
        · rename_i hwritten
          subst hwritten
          exact FileMove.copied
        · exact FileMove.chunkCopied
  | close u path fd written failed =>
      simp only [exec]
      split
      · exact FileMove.abandoned
      · rename_i hfailed
        cases failed with
        | true =>
            exact absurd (Bool.true_or _) hfailed
        | false =>
            exact FileMove.closed
  | insertFile u path written =>
      simp only [exec]
      split
      · exact FileMove.abandoned
      · split
        · exact FileMove.abandoned
        · split
          · exact FileMove.abandoned
          · exact FileMove.rowInserted
  | discard path answer =>
      simp only [exec]
      split
      · exact FileMove.answered
      · exact FileMove.removed
  | findForDelete tenantId fileId =>
      simp only [exec]
      split
      · exact FileMove.answered
      · exact FileMove.answered
      · exact FileMove.foundForDelete
  | deleteFile tenantId fileId f =>
      simp only [exec]
      split
      · exact FileMove.answered
      · rename_i hdelete
        split at hdelete
        · cases hdelete
        · exact FileMove.deleted hdelete
  | removeFile path =>
      simp only [exec]
      split
      · exact FileMove.answered
      · exact FileMove.removed
  | consumeToken fileId token =>
      simp only [exec]
      split
      · exact FileMove.answered
      · split
        · exact FileMove.answered
        · split
          · exact FileMove.answered
          · rename_i hconsume
            exact FileMove.consumed hconsume
  | findServed fileId token id =>
      simp only [exec]
      split
      · exact FileMove.answered
      · split
        · exact FileMove.answered
        · rename_i f hfind
          split
          · exact FileMove.answered
          · have hid := List.find?_some hfind
            rw [decide_eq_true_eq] at hid
            subst hid
            exact FileMove.foundServed (List.mem_of_find?_eq_some hfind)
  | openFile token f =>
      simp only [exec]
      split
      · exact FileMove.answered
      · rename_i fd hlookup
        split at hlookup
        · cases hlookup
        · exact FileMove.opened hlookup
  | serveContent token f fd =>
      exact FileMove.sent

end Api
end LeoOne
