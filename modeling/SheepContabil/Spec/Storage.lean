import SheepContabil.Spec.Sc04Intake
import SheepContabil.Spec.Sc05Model

/-!
# The storage adapters

The two ports of the private storage, the objects of SC-04 and the screenshots of
SC-05, each with its S3 and its file-system implementation. A bucket maps a key to
the bytes and the metadata stored with it and honours `IfNoneMatch="*"`; a directory
maps a path to the bytes of a file. `hashlib.sha256(...).hexdigest()` and the text of
the side file are parameters.

* `S3ObjectStorage`, `FileSystemObjectStorage`: the methods on the SC-04 port.
* `S3ScreenshotStorage`, `FileSystemScreenshotStorage`: the methods on the SC-05 port.
* `ObjectOp`, `ScreenshotOp`: the operations, and what a sequence of them answers.
-/

namespace SheepContabil

abbrev Bytes := List UInt8

/-- An object of a bucket: its body and the `sha256` of its metadata. -/
structure S3Object where
  body : Bytes
  sha256 : String
  contentType : String
  deriving DecidableEq

abbrev Bucket := String → Option S3Object

/-- The files under the base path. -/
abbrev Directory := String → Option Bytes

/-- `StoredObject`. -/
structure StoredObject where
  key : String
  byteSize : ℕ
  contentType : String
  deriving DecidableEq, Repr

/-- `extension_for_media_type`. -/
inductive MediaExtension where
  | pdf | png | jpg | txt
  deriving DecidableEq, Repr

def MediaExtension.text : MediaExtension → String
  | pdf => ".pdf"
  | png => ".png"
  | jpg => ".jpg"
  | txt => ".txt"

/-- The keys of the SC-04 port. -/
inductive ObjectKey where
  | original (sha256 : String) (extension : MediaExtension)
  | routed (clientPrefix documentType documentId : String) (extension : MediaExtension)
  deriving DecidableEq, Repr

/-- `original_storage_key` and `routed_storage_key`. -/
def ObjectKey.path : ObjectKey → String
  | original sha256 extension => originalStorageKey sha256 extension.text
  | routed clientPrefix documentType documentId extension =>
    "sc04/routed/" ++ clientPrefix ++ "/" ++ documentType ++ "/" ++ documentId ++ extension.text

section ObjectStorage

variable (sha256 : Bytes → String)

namespace S3ObjectStorage

/-- `_head`: the size and the digest. -/
def head (bucket : Bucket) (key : String) : Option (ℕ × String) :=
  (bucket key).map fun o => (o.body.length, o.sha256)

/-- `put_object` and `copy_object` with `IfNoneMatch="*"`. -/
def storeIfAbsent (bucket : Bucket) (key : String) (o : S3Object) : Option Bucket :=
  if (bucket key).isSome then none else some (Function.update bucket key (some o))

/-- `put_bytes`. -/
def putBytes (bucket : Bucket) (key : String) (content : Bytes) (contentType : String) :
    Except String StoredObject × Bucket :=
  match head bucket key with
  | some existing =>
    if existing.1 ≠ content.length ∨ existing.2 ≠ sha256 content then
      (.error "O objeto existente não corresponde ao documento.", bucket)
    else (.ok ⟨key, existing.1, contentType⟩, bucket)
  | none =>
    match storeIfAbsent bucket key ⟨content, sha256 content, contentType⟩ with
    | some bucket' => (.ok ⟨key, content.length, contentType⟩, bucket')
    | none =>
      -- another writer was first
      match head bucket key with
      | some concurrent =>
        if concurrent.1 = content.length ∧ concurrent.2 = sha256 content then
          (.ok ⟨key, concurrent.1, contentType⟩, bucket)
        else (.error "O storage privado está temporariamente indisponível.", bucket)
      | none => (.error "O storage privado está temporariamente indisponível.", bucket)

/-- `get_bytes`. -/
def getBytes (maxUploadBytes : ℕ) (bucket : Bucket) (key : String) : Except String Bytes :=
  match bucket key with
  | none => .error "O original não pôde ser recuperado do storage."
  | some o =>
    if (o.body.take (maxUploadBytes + 1)).length > maxUploadBytes then
      .error "O objeto armazenado ultrapassa o limite permitido."
    else .ok (o.body.take (maxUploadBytes + 1))

/-- `copy_if_absent`. -/
def copyIfAbsent (bucket : Bucket) (sourceKey destinationKey contentType : String) :
    Except String StoredObject × Bucket :=
  match bucket sourceKey, head bucket sourceKey with
  | some o, some source =>
    if source.2 = "" then (.error "O storage não confirmou a integridade do original.", bucket)
    else match head bucket destinationKey with
      | some existing =>
        if existing.1 ≠ source.1 ∨ existing.2 ≠ source.2 then
          (.error "O destino existente não corresponde ao original.", bucket)
        else (.ok ⟨destinationKey, existing.1, contentType⟩, bucket)
      | none =>
        match storeIfAbsent bucket destinationKey ⟨o.body, source.2, contentType⟩ with
        | none => (.error "O documento não pôde ser encaminhado no storage.", bucket)
        | some bucket' =>
          match head bucket' destinationKey with
          | none => (.error "O storage não confirmou o documento encaminhado.", bucket')
          | some size =>
            if size.1 ≠ source.1 ∨ size.2 ≠ source.2 then
              (.error "O documento encaminhado falhou na verificação de integridade.", bucket')
            else (.ok ⟨destinationKey, size.1, contentType⟩, bucket')
  | _, _ => (.error "O storage não confirmou a integridade do original.", bucket)

end S3ObjectStorage

namespace FileSystemObjectStorage

/-- The side file of a key. -/
def metaPath (key : String) : String := key ++ ".meta.json"

variable (metaText : String → ℕ → String → Bytes)

/-- `write_bytes` and `copyfile`, and then the side file. -/
def write (files : Directory) (key : String) (content : Bytes) (contentType : String) : Directory :=
  Function.update (Function.update files key (some content)) (metaPath key)
    (some (metaText (sha256 content) content.length contentType))

/-- `put_bytes`. -/
def putBytes (files : Directory) (key : String) (content : Bytes) (contentType : String) :
    Except String StoredObject × Directory :=
  match files key with
  | some existing =>
    if existing.length ≠ content.length ∨ sha256 existing ≠ sha256 content then
      (.error "O objeto existente não corresponde ao documento.", files)
    else (.ok ⟨key, existing.length, contentType⟩, files)
  | none => (.ok ⟨key, content.length, contentType⟩, write sha256 metaText files key content contentType)

/-- `get_bytes`. -/
def getBytes (maxUploadBytes : ℕ) (files : Directory) (key : String) : Except String Bytes :=
  match files key with
  | none => .error "O original não pôde ser recuperado do storage."
  | some content =>
    if content.length > maxUploadBytes then
      .error "O objeto armazenado ultrapassa o limite permitido."
    else .ok content

/-- `copy_if_absent`. -/
def copyIfAbsent (files : Directory) (sourceKey destinationKey contentType : String) :
    Except String StoredObject × Directory :=
  match files sourceKey with
  | none => (.error "O storage não confirmou a integridade do original.", files)
  | some source =>
    match files destinationKey with
    | some existing =>
      if existing.length ≠ source.length ∨ sha256 existing ≠ sha256 source then
        (.error "O destino existente não corresponde ao original.", files)
      else (.ok ⟨destinationKey, existing.length, contentType⟩, files)
    | none => (.ok ⟨destinationKey, source.length, contentType⟩,
        write sha256 metaText files destinationKey source contentType)

end FileSystemObjectStorage

/-- An operation of the port `ObjectStorage`. -/
inductive ObjectOp where
  | put (key : ObjectKey) (content : Bytes) (contentType : String)
  | get (key : ObjectKey)
  | copy (source destination : ObjectKey) (contentType : String)

/-- What a caller sees of an operation. -/
inductive ObjectAnswer where
  | stored (result : Except String StoredObject)
  | bytes (result : Except String Bytes)
  deriving DecidableEq

/-- One operation on a bucket. -/
def S3ObjectStorage.perform (maxUploadBytes : ℕ) (bucket : Bucket) : ObjectOp → ObjectAnswer × Bucket
  | .put key content contentType =>
    let (result, bucket') := putBytes sha256 bucket key.path content contentType
    (.stored result, bucket')
  | .get key => (.bytes (getBytes maxUploadBytes bucket key.path), bucket)
  | .copy source destination contentType =>
    let (result, bucket') := copyIfAbsent bucket source.path destination.path contentType
    (.stored result, bucket')

/-- One operation on a directory. -/
def FileSystemObjectStorage.perform (metaText : String → ℕ → String → Bytes) (maxUploadBytes : ℕ)
    (files : Directory) : ObjectOp → ObjectAnswer × Directory
  | .put key content contentType =>
    let (result, files') := putBytes sha256 metaText files key.path content contentType
    (.stored result, files')
  | .get key => (.bytes (getBytes maxUploadBytes files key.path), files)
  | .copy source destination contentType =>
    let (result, files') := copyIfAbsent sha256 metaText files source.path destination.path contentType
    (.stored result, files')

end ObjectStorage

section ScreenshotStorage

/-- `MAX_SCREENSHOT_BYTES`. -/
def maxScreenshotBytes : ℕ := 5 * 1024 * 1024

def SC05Portal.value : SC05Portal → String
  | files => "files"
  | accounting => "accounting"
  | tasks => "tasks"

def SC05AttemptOperation.value : SC05AttemptOperation → String
  | .inspect => "inspect"
  | .apply => "apply"
  | .compensate => "compensate"

/-- `f"{n:02d}"`. -/
def twoDigits (n : ℕ) : String := if n < 10 then "0" ++ toString n else toString n

/-- The key `_invoke` builds. -/
def ScreenshotKey.path (k : ScreenshotKey) : String :=
  "sc05/" ++ toString k.run ++ "/" ++ twoDigits k.position ++ "-" ++ k.portal.value ++ "/" ++
    twoDigits k.sequence ++ "-" ++ k.operation.value ++ (if k.failure then "-failure" else "") ++ ".png"

/-- What `put` answers: `StoredScreenshot`. -/
structure StoredPng where
  key : String
  sha256 : String
  byteSize : ℕ
  deriving DecidableEq, Repr

/-- `ArtifactStorageError`, with its message when one is given. -/
structure ArtifactStorageError where
  message : Option String
  deriving DecidableEq, Repr

/-- `not content or len(content) > MAX_SCREENSHOT_BYTES`. -/
def isInvalidScreenshot (content : Bytes) : Bool :=
  content.isEmpty || content.length > maxScreenshotBytes

def invalidScreenshot : ArtifactStorageError :=
  ⟨some "A captura de tela gerada é inválida ou excede 5 MiB."⟩

variable (sha256 : Bytes → String)

/-- `S3ScreenshotStorage.put`. -/
def S3ScreenshotStorage.put (bucket : Bucket) (key : String) (content : Bytes) :
    Except ArtifactStorageError StoredPng × Bucket :=
  if isInvalidScreenshot content then (.error invalidScreenshot, bucket)
  else match S3ObjectStorage.storeIfAbsent bucket key ⟨content, sha256 content, "image/png"⟩ with
    | some bucket' => (.ok ⟨key, sha256 content, content.length⟩, bucket')
    | none =>
      match S3ObjectStorage.head bucket key with
      | some existing =>
        if existing.1 = content.length ∧ existing.2 = sha256 content then
          (.ok ⟨key, sha256 content, content.length⟩, bucket)
        else (.error ⟨none⟩, bucket)
      | none => (.error ⟨none⟩, bucket)

/-- `S3ScreenshotStorage.get`. -/
def S3ScreenshotStorage.get (bucket : Bucket) (key : String) : Except ArtifactStorageError Bytes :=
  match bucket key with
  | none => .error ⟨some "A captura de tela não pôde ser recuperada do storage privado."⟩
  | some o =>
    if (o.body.take (maxScreenshotBytes + 1)).length > maxScreenshotBytes then
      .error ⟨some "A captura armazenada excede o limite permitido."⟩
    else .ok (o.body.take (maxScreenshotBytes + 1))

/-- `FileSystemScreenshotStorage.put`. -/
def FileSystemScreenshotStorage.put (files : Directory) (key : String) (content : Bytes) :
    Except ArtifactStorageError StoredPng × Directory :=
  if isInvalidScreenshot content then (.error invalidScreenshot, files)
  else (.ok ⟨key, sha256 content, content.length⟩, Function.update files key (some content))

/-- `FileSystemScreenshotStorage.get`. -/
def FileSystemScreenshotStorage.get (files : Directory) (key : String) :
    Except ArtifactStorageError Bytes :=
  match files key with
  | none => .error ⟨some "A captura de tela não pôde ser recuperada do storage privado."⟩
  | some content =>
    if content.length > maxScreenshotBytes then
      .error ⟨some "A captura armazenada excede o limite permitido."⟩
    else .ok content

/-- An operation of the port `ScreenshotStorage`. -/
inductive ScreenshotOp where
  | put (key : ScreenshotKey) (content : Bytes)
  | get (key : ScreenshotKey)

inductive ScreenshotAnswer where
  | stored (result : Except ArtifactStorageError StoredPng)
  | bytes (result : Except ArtifactStorageError Bytes)
  deriving DecidableEq

/-- One operation on a bucket. -/
def S3ScreenshotStorage.perform (bucket : Bucket) : ScreenshotOp → ScreenshotAnswer × Bucket
  | .put key content =>
    let (result, bucket') := put sha256 bucket key.path content
    (.stored result, bucket')
  | .get key => (.bytes (get bucket key.path), bucket)

/-- One operation on a directory. -/
def FileSystemScreenshotStorage.perform (files : Directory) : ScreenshotOp → ScreenshotAnswer × Directory
  | .put key content =>
    let (result, files') := put sha256 files key.path content
    (.stored result, files')
  | .get key => (.bytes (get files key.path), files)

end ScreenshotStorage

/-- The answers of a sequence of operations, and the state after it. -/
def answers {σ Op Answer : Type} (perform : σ → Op → Answer × σ) : σ → List Op → List Answer × σ
  | s, [] => ([], s)
  | s, op :: ops =>
    let (answer, s') := perform s op
    let (rest, s'') := answers perform s' ops
    (answer :: rest, s'')

end SheepContabil
