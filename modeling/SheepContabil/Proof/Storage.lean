import SheepContabil.Spec.Storage
import Mathlib.Tactic.Common

/-!
# The storage adapters and a write-once store

* `WriteOnce`: a store that keeps the first content of a key and refuses another one.
* `s3Objects_answers`, `fileSystemObjects_answers`: both adapters of SC-04 behave as it does.
* `s3Screenshots_answers`: so does the S3 adapter of SC-05; that of the file system
  overwrites.
* `storages_interchangeable_iff`: **when the adapters are interchangeable.**
-/

namespace SheepContabil

/-- A store that keeps the first content of a key. -/
abbrev WriteOnce := String → Option Bytes

namespace WriteOnce

/-- The store keeps the first content of the key: the content it holds afterwards, and whether the
write is accepted. -/
def write (store : WriteOnce) (key : String) (content : Bytes) : Bool × WriteOnce :=
  match store key with
  | some c => (c = content, store)
  | none => (true, Function.update store key (some content))

/-- The write-once store under the port of SC-04. -/
def objects (maxUploadBytes : ℕ) (store : WriteOnce) : ObjectOp → ObjectAnswer × WriteOnce
  | .put key content contentType =>
    let (accepted, store') := store.write key.path content
    (.stored (if accepted then .ok ⟨key.path, content.length, contentType⟩
      else .error "O objeto existente não corresponde ao documento."), store')
  | .get key =>
    (.bytes (match store key.path with
      | none => .error "O original não pôde ser recuperado do storage."
      | some content =>
        if content.length > maxUploadBytes then
          .error "O objeto armazenado ultrapassa o limite permitido."
        else .ok content), store)
  | .copy source destination contentType =>
    match store source.path with
    | none => (.stored (.error "O storage não confirmou a integridade do original."), store)
    | some content =>
      let (accepted, store') := store.write destination.path content
      (.stored (if accepted then .ok ⟨destination.path, content.length, contentType⟩
        else .error "O destino existente não corresponde ao original."), store')

/-- The write-once store under the port of SC-05. -/
def screenshots (sha256 : Bytes → String) (store : WriteOnce) : ScreenshotOp → ScreenshotAnswer × WriteOnce
  | .put key content =>
    if isInvalidScreenshot content then (.stored (.error invalidScreenshot), store)
    else
      let (accepted, store') := store.write key.path content
      (.stored (if accepted then .ok ⟨key.path, sha256 content, content.length⟩ else .error ⟨none⟩),
        store')
  | .get key =>
    (.bytes (match store key.path with
      | none => .error ⟨some "A captura de tela não pôde ser recuperada do storage privado."⟩
      | some content =>
        if content.length > maxScreenshotBytes then
          .error ⟨some "A captura armazenada excede o limite permitido."⟩
        else .ok content), store)

variable {store : WriteOnce} {key : String} {content : Bytes}

theorem write_new (h : store key = none) :
    store.write key content = (true, Function.update store key (some content)) := by
  rw [write, h]

theorem write_same (h : store key = some content) : store.write key content = (true, store) := by
  rw [write, h]
  simp

theorem write_other {c : Bytes} (h : store key = some c) (hne : c ≠ content) :
    store.write key content = (false, store) := by
  rw [write, h]
  simp [hne]

/-- **The first content is kept.** -/
theorem write_kept {k : String} {c : Bytes} (h : store k = some c) :
    (store.write key content).2 k = some c := by
  unfold write
  split
  · exact h
  · next hnone =>
    have hne : k ≠ key := by rintro rfl; rw [hnone] at h; cases h
    show Function.update store key (some content) k = some c
    rw [Function.update_of_ne hne]
    exact h

/-- An accepted write leaves its content under the key. -/
theorem write_accepted (h : (store.write key content).1 = true) :
    (store.write key content).2 key = some content := by
  unfold write at h ⊢
  split at h
  · next c hc => simpa [hc] using h
  · simp

end WriteOnce

section Simulation

variable (sha256 : Bytes → String)

/-- No two of these contents have the same digest. -/
def NoCollision (contents : List Bytes) : Prop :=
  ∀ a ∈ contents, ∀ b ∈ contents, sha256 a = sha256 b → a = b

/-- The bucket holds the contents of the store, each under its own digest. -/
structure BucketHolds (contents : List Bytes) (store : WriteOnce) (bucket : Bucket) : Prop where
  body : ∀ key, (bucket key).map (·.body) = store key
  sha256 : ∀ key o, bucket key = some o → o.sha256 = sha256 o.body
  known : ∀ key c, store key = some c → c ∈ contents

variable {sha256} {contents : List Bytes} {store : WriteOnce} {bucket : Bucket}

theorem BucketHolds.head (h : BucketHolds sha256 contents store bucket) (key : String) :
    S3ObjectStorage.head bucket key = (store key).map fun c => (c.length, sha256 c) := by
  rw [← h.body key, S3ObjectStorage.head]
  cases hb : bucket key with
  | none => rfl
  | some o => simp [h.sha256 key o hb]

/-- **A conditional write on the bucket** is the write of the store. -/
theorem BucketHolds.storeIfAbsent (h : BucketHolds sha256 contents store bucket) {key : String}
    {content : Bytes} (hknown : content ∈ contents) (contentType : String) :
    (∃ c, store key = some c ∧
      S3ObjectStorage.storeIfAbsent bucket key ⟨content, sha256 content, contentType⟩ = none) ∨
    (store key = none ∧ ∃ bucket',
      S3ObjectStorage.storeIfAbsent bucket key ⟨content, sha256 content, contentType⟩ = some bucket' ∧
      BucketHolds sha256 contents (Function.update store key (some content)) bucket') := by
  have hbody := h.body key
  unfold S3ObjectStorage.storeIfAbsent
  cases hb : bucket key with
  | some o =>
    rw [hb] at hbody
    exact .inl ⟨o.body, hbody.symm, rfl⟩
  | none =>
    rw [hb] at hbody
    refine .inr ⟨hbody.symm, _, rfl, ?_, ?_, ?_⟩
    · intro k
      by_cases hk : k = key
      · subst hk; simp
      · simpa [hk] using h.body k
    · intro k o ho
      by_cases hk : k = key
      · subst hk
        rw [Function.update_self] at ho
        obtain rfl := Option.some.inj ho
        rfl
      · rw [Function.update_of_ne hk] at ho
        exact h.sha256 k o ho
    · intro k c hc
      by_cases hk : k = key
      · subst hk
        rw [Function.update_self] at hc
        obtain rfl := Option.some.inj hc
        exact hknown
      · rw [Function.update_of_ne hk] at hc
        exact h.known k c hc

/-- Size and digest tell the contents apart. -/
theorem sameDigest_iff (hcollision : NoCollision sha256 contents) {a b : Bytes} (ha : a ∈ contents)
    (hb : b ∈ contents) : (a.length ≠ b.length ∨ sha256 a ≠ sha256 b) ↔ a ≠ b := by
  constructor
  · rintro (h | h) rfl <;> exact h rfl
  · intro h
    exact .inr fun heq => h (hcollision a ha b hb heq)

/-- **`S3ObjectStorage.put_bytes`.** -/
theorem BucketHolds.putBytes (h : BucketHolds sha256 contents store bucket)
    (hcollision : NoCollision sha256 contents) {key : String} {content : Bytes}
    (hknown : content ∈ contents) (contentType : String) :
    (S3ObjectStorage.putBytes sha256 bucket key content contentType).1 =
      (if (store.write key content).1 then .ok ⟨key, content.length, contentType⟩
        else .error "O objeto existente não corresponde ao documento.") ∧
    BucketHolds sha256 contents (store.write key content).2
      (S3ObjectStorage.putBytes sha256 bucket key content contentType).2 := by
  unfold S3ObjectStorage.putBytes
  rw [h.head key]
  cases hs : store key with
  | some c =>
    simp only [Option.map_some, sameDigest_iff hcollision (h.known key c hs) hknown]
    by_cases heq : c = content
    · subst heq
      rw [WriteOnce.write_same hs, if_neg (by simp)]
      exact ⟨rfl, h⟩
    · rw [WriteOnce.write_other hs heq, if_pos heq]
      exact ⟨rfl, h⟩
  | none =>
    simp only [Option.map_none]
    rw [WriteOnce.write_new hs]
    rcases h.storeIfAbsent hknown contentType with ⟨c, hc, -⟩ | ⟨-, bucket', hb, hholds⟩
    · rw [hs] at hc; cases hc
    · rw [hb]
      exact ⟨rfl, hholds⟩

/-- **`S3ObjectStorage.copy_if_absent`.** -/
theorem BucketHolds.copyIfAbsent (h : BucketHolds sha256 contents store bucket)
    (hdigest : ∀ c, sha256 c ≠ "") (hcollision : NoCollision sha256 contents)
    {source : String} {content : Bytes} (hsource : store source = some content)
    (destination contentType : String) :
    (S3ObjectStorage.copyIfAbsent bucket source destination contentType).1 =
      (if (store.write destination content).1 then .ok ⟨destination, content.length, contentType⟩
        else .error "O destino existente não corresponde ao original.") ∧
    BucketHolds sha256 contents (store.write destination content).2
      (S3ObjectStorage.copyIfAbsent bucket source destination contentType).2 := by
  have hknown := h.known source content hsource
  have hbody := h.body source
  unfold S3ObjectStorage.copyIfAbsent
  rw [h.head source, h.head destination, hsource]
  cases hb : bucket source with
  | none => rw [hb, hsource] at hbody; cases hbody
  | some o =>
    rw [hb, hsource] at hbody
    obtain rfl : o.body = content := Option.some.inj hbody
    simp only [Option.map_some, hdigest, if_false]
    cases hd : store destination with
    | some c =>
      simp only [Option.map_some, sameDigest_iff hcollision (h.known destination c hd) hknown]
      by_cases heq : c = o.body
      · rw [WriteOnce.write_same (heq ▸ hd), if_neg (by simpa using heq)]
        exact ⟨by simp [heq], h⟩
      · rw [WriteOnce.write_other hd heq, if_pos heq]
        exact ⟨rfl, h⟩
    | none =>
      simp only [Option.map_none]
      rw [WriteOnce.write_new hd]
      rcases h.storeIfAbsent hknown contentType with ⟨c, hc, -⟩ | ⟨-, bucket', hb', hholds⟩
      · rw [hd] at hc; cases hc
      · rw [hb']
        simp only [hholds.head destination, Function.update_self, Option.map_some, ne_eq,
          not_true_eq_false, or_self, if_false]
        exact ⟨rfl, hholds⟩

/-- One byte over the limit is enough to tell a body that is too long. -/
theorem read_limited {ε : Type} (body : Bytes) (limit : ℕ) (e : ε) :
    (if (body.take (limit + 1)).length > limit then .error e else .ok (body.take (limit + 1)) :
      Except ε Bytes) = if body.length > limit then .error e else .ok body := by
  rw [List.length_take]
  by_cases hlong : body.length > limit
  · rw [if_pos (by omega), if_pos hlong]
  · rw [if_neg (by omega), if_neg hlong, List.take_of_length_le (by omega)]

/-- **One operation on a bucket of SC-04.** -/
theorem s3Objects_step (h : BucketHolds sha256 contents store bucket) (hdigest : ∀ c, sha256 c ≠ "")
    (hcollision : NoCollision sha256 contents) (maxUploadBytes : ℕ) (op : ObjectOp)
    (hop : ∀ key content contentType, op = .put key content contentType → content ∈ contents) :
    (S3ObjectStorage.perform sha256 maxUploadBytes bucket op).1 =
      (WriteOnce.objects maxUploadBytes store op).1 ∧
    BucketHolds sha256 contents (WriteOnce.objects maxUploadBytes store op).2
      (S3ObjectStorage.perform sha256 maxUploadBytes bucket op).2 := by
  cases op with
  | put key content contentType =>
    have hput := @BucketHolds.putBytes _ _ _ _ h hcollision key.path _
      (hop key content contentType rfl) contentType
    exact ⟨congrArg ObjectAnswer.stored hput.1, hput.2⟩
  | get key =>
    refine ⟨congrArg ObjectAnswer.bytes ?_, h⟩
    have hbody := h.body key.path
    unfold S3ObjectStorage.getBytes
    cases hb : bucket key.path with
    | none =>
      rw [hb] at hbody
      simp only [← hbody, Option.map_none]
    | some o =>
      rw [hb] at hbody
      simp only [← hbody, Option.map_some]
      exact read_limited o.body maxUploadBytes _
  | copy source destination contentType =>
    cases hsource : store source.path with
    | some content =>
      obtain ⟨hanswer, hholds⟩ := h.copyIfAbsent hdigest hcollision hsource destination.path contentType
      simp only [WriteOnce.objects, hsource]
      exact ⟨congrArg ObjectAnswer.stored hanswer, hholds⟩
    | none =>
      have hbody := h.body source.path
      have hb : bucket source.path = none := by
        rw [hsource] at hbody
        exact Option.map_eq_none_iff.1 hbody
      simp only [WriteOnce.objects, S3ObjectStorage.perform, S3ObjectStorage.copyIfAbsent, hsource, hb]
      exact ⟨trivial, h⟩

/-- The directory holds the contents of the store under the keys of SC-04. -/
structure FilesHold (contents : List Bytes) (store : WriteOnce) (files : Directory) : Prop where
  file : ∀ key : ObjectKey, files key.path = store key.path
  known : ∀ key c, store key = some c → c ∈ contents

theorem ObjectKey.path_extension (key : ObjectKey) :
    ∃ stem extension, key.path = stem ++ MediaExtension.text extension := by
  cases key with
  | original sha256 extension => exact ⟨_, extension, rfl⟩
  | routed clientPrefix documentType documentId extension => exact ⟨_, extension, rfl⟩

/-- No key is the path of a side file. -/
theorem ObjectKey.path_ne_meta (key : ObjectKey) (other : String) :
    key.path ≠ FileSystemObjectStorage.metaPath other := by
  intro heq
  obtain ⟨stem, extension, hpath⟩ := key.path_extension
  have hlast := congrArg (fun s : String => s.toList.getLast?) (hpath.symm.trans heq)
  simp only [FileSystemObjectStorage.metaPath, String.toList_append, List.getLast?_append] at hlast
  cases extension <;> simp [MediaExtension.text] at hlast

variable {files : Directory}

/-- **A write on the directory**, with its side file. -/
theorem FilesHold.write (h : FilesHold contents store files) (metaText : String → ℕ → String → Bytes)
    (key : ObjectKey) {content : Bytes} (hknown : content ∈ contents) (contentType : String) :
    FilesHold contents (Function.update store key.path (some content))
      (FileSystemObjectStorage.write sha256 metaText files key.path content contentType) := by
  refine ⟨fun k => ?_, fun k c hc => ?_⟩
  · unfold FileSystemObjectStorage.write
    rw [Function.update_of_ne (k.path_ne_meta _)]
    by_cases hk : k.path = key.path
    · rw [hk, Function.update_self, Function.update_self]
    · rw [Function.update_of_ne hk, Function.update_of_ne hk]
      exact h.file k
  · by_cases hk : k = key.path
    · subst hk
      rw [Function.update_self] at hc
      obtain rfl := Option.some.inj hc
      exact hknown
    · rw [Function.update_of_ne hk] at hc
      exact h.known k c hc

/-- **One operation on a directory of SC-04.** -/
theorem fileSystemObjects_step (h : FilesHold contents store files)
    (hcollision : NoCollision sha256 contents) (metaText : String → ℕ → String → Bytes)
    (maxUploadBytes : ℕ) (op : ObjectOp)
    (hop : ∀ key content contentType, op = .put key content contentType → content ∈ contents) :
    (FileSystemObjectStorage.perform sha256 metaText maxUploadBytes files op).1 =
      (WriteOnce.objects maxUploadBytes store op).1 ∧
    FilesHold contents (WriteOnce.objects maxUploadBytes store op).2
      (FileSystemObjectStorage.perform sha256 metaText maxUploadBytes files op).2 := by
  cases op with
  | put key content contentType =>
    have hknown := hop key content contentType rfl
    simp only [FileSystemObjectStorage.perform, FileSystemObjectStorage.putBytes, WriteOnce.objects,
      h.file key]
    cases hs : store key.path with
    | some c =>
      -- the code compares digests, the store contents
      simp only [sameDigest_iff hcollision (h.known key.path c hs) hknown]
      by_cases heq : c = content
      · subst heq
        rw [WriteOnce.write_same hs, if_neg (by simp)]
        exact ⟨rfl, h⟩
      · rw [WriteOnce.write_other hs heq, if_pos heq]
        exact ⟨rfl, h⟩
    | none =>
      rw [WriteOnce.write_new hs]
      exact ⟨rfl, h.write metaText key hknown contentType⟩
  | get key =>
    simp only [FileSystemObjectStorage.perform, FileSystemObjectStorage.getBytes, WriteOnce.objects,
      h.file key]
    exact ⟨by trivial, h⟩
  | copy source destination contentType =>
    simp only [FileSystemObjectStorage.perform, FileSystemObjectStorage.copyIfAbsent, WriteOnce.objects,
      h.file source, h.file destination]
    cases hsource : store source.path with
    | none => exact ⟨rfl, h⟩
    | some content =>
      have hknown := h.known source.path content hsource
      cases hs : store destination.path with
      | some c =>
        simp only [sameDigest_iff hcollision (h.known destination.path c hs) hknown]
        by_cases heq : c = content
        · subst heq
          rw [WriteOnce.write_same hs, if_neg (by simp)]
          exact ⟨rfl, h⟩
        · rw [WriteOnce.write_other hs heq, if_pos heq]
          exact ⟨rfl, h⟩
      | none =>
        simp only [WriteOnce.write_new hs]
        exact ⟨rfl, h.write metaText destination hknown contentType⟩

/-- **One operation on a bucket of SC-05.** -/
theorem s3Screenshots_step (h : BucketHolds sha256 contents store bucket)
    (hcollision : NoCollision sha256 contents) (op : ScreenshotOp)
    (hop : ∀ key content, op = .put key content → content ∈ contents) :
    (S3ScreenshotStorage.perform sha256 bucket op).1 = (WriteOnce.screenshots sha256 store op).1 ∧
    BucketHolds sha256 contents (WriteOnce.screenshots sha256 store op).2
      (S3ScreenshotStorage.perform sha256 bucket op).2 := by
  cases op with
  | put key content =>
    have hknown := hop key content rfl
    simp only [S3ScreenshotStorage.perform, S3ScreenshotStorage.put, WriteOnce.screenshots]
    split
    · exact ⟨rfl, h⟩
    · rcases h.storeIfAbsent hknown "image/png" with ⟨c, hc, hb⟩ | ⟨hnone, bucket', hb, hholds⟩
      · rw [hb, h.head key.path, hc]
        simp only [Option.map_some]
        by_cases heq : c = content
        · subst heq
          rw [WriteOnce.write_same hc, if_pos ⟨rfl, rfl⟩]
          exact ⟨rfl, h⟩
        · rw [WriteOnce.write_other hc heq, if_neg]
          · exact ⟨rfl, h⟩
          · rintro ⟨-, hsha⟩
            exact heq (hcollision c (h.known key.path c hc) content hknown hsha)
      · rw [hb, WriteOnce.write_new hnone]
        exact ⟨rfl, hholds⟩
  | get key =>
    refine ⟨congrArg ScreenshotAnswer.bytes ?_, h⟩
    have hbody := h.body key.path
    unfold S3ScreenshotStorage.get
    cases hb : bucket key.path with
    | none =>
      rw [hb] at hbody
      simp only [← hbody, Option.map_none]
    | some o =>
      rw [hb] at hbody
      simp only [← hbody, Option.map_some]
      exact read_limited o.body maxScreenshotBytes _

end Simulation

section Runs

/-- **A simulation of every operation** is one of every sequence of operations. -/
theorem answers_of_step {σ τ Op Answer : Type} {perform : σ → Op → Answer × σ}
    {spec : τ → Op → Answer × τ} {R : τ → σ → Prop} {ok : Op → Prop}
    (hstep : ∀ t s op, R t s → ok op → (perform s op).1 = (spec t op).1 ∧
      R (spec t op).2 (perform s op).2) :
    ∀ (ops : List Op) (t : τ) (s : σ), R t s → (∀ op ∈ ops, ok op) →
      (answers perform s ops).1 = (answers spec t ops).1 ∧
        R (answers spec t ops).2 (answers perform s ops).2 := by
  intro ops
  induction ops with
  | nil => intro t s h _; exact ⟨rfl, h⟩
  | cons op ops ih =>
    intro t s h hops
    obtain ⟨hanswer, hnext⟩ := hstep t s op h (hops op List.mem_cons_self)
    obtain ⟨hanswers, hend⟩ := ih _ _ hnext fun o ho => hops o (List.mem_cons_of_mem _ ho)
    simp only [answers]
    rw [hanswer, hanswers]
    exact ⟨rfl, hend⟩

/-- The contents a sequence of operations puts under the keys of SC-04. -/
def ObjectOp.content? : ObjectOp → Option Bytes
  | .put _ content _ => some content
  | _ => none

def ScreenshotOp.content? : ScreenshotOp → Option Bytes
  | .put _ content => some content
  | _ => none

/-- No key is given two different valid screenshots. -/
def NeverRewrites (ops : List ScreenshotOp) : Prop :=
  ∀ key key' c c', .put key c ∈ ops → .put key' c' ∈ ops → ScreenshotKey.path key = key'.path →
    isInvalidScreenshot c = false → isInvalidScreenshot c' = false → c = c'

variable (sha256 : Bytes → String) (metaText : String → ℕ → String → Bytes) (maxUploadBytes : ℕ)

/-- Nothing is stored yet. -/
def noContents {α : Type} : String → Option α := fun _ => none

/-- **The adapters are interchangeable** on these operations: each answers as the write-once store
does, and holds its contents afterwards. -/
structure Interchangeable (objects : List ObjectOp) (screenshots : List ScreenshotOp) : Prop where
  s3Objects : (answers (S3ObjectStorage.perform sha256 maxUploadBytes) noContents objects).1 =
    (answers (WriteOnce.objects maxUploadBytes) noContents objects).1
  s3ObjectsKept : ∀ key : ObjectKey,
    ((answers (S3ObjectStorage.perform sha256 maxUploadBytes) noContents objects).2 key.path).map
      (·.body) = (answers (WriteOnce.objects maxUploadBytes) noContents objects).2 key.path
  fileObjects :
    (answers (FileSystemObjectStorage.perform sha256 metaText maxUploadBytes) noContents objects).1 =
      (answers (WriteOnce.objects maxUploadBytes) noContents objects).1
  fileObjectsKept : ∀ key : ObjectKey,
    (answers (FileSystemObjectStorage.perform sha256 metaText maxUploadBytes) noContents objects).2
      key.path = (answers (WriteOnce.objects maxUploadBytes) noContents objects).2 key.path
  s3Screenshots : (answers (S3ScreenshotStorage.perform sha256) noContents screenshots).1 =
    (answers (WriteOnce.screenshots sha256) noContents screenshots).1
  s3ScreenshotsKept : ∀ key : ScreenshotKey,
    ((answers (S3ScreenshotStorage.perform sha256) noContents screenshots).2 key.path).map (·.body) =
      (answers (WriteOnce.screenshots sha256) noContents screenshots).2 key.path
  fileScreenshots : (answers (FileSystemScreenshotStorage.perform sha256) noContents screenshots).1 =
    (answers (WriteOnce.screenshots sha256) noContents screenshots).1
  fileScreenshotsKept : ∀ key : ScreenshotKey,
    (answers (FileSystemScreenshotStorage.perform sha256) noContents screenshots).2 key.path =
      (answers (WriteOnce.screenshots sha256) noContents screenshots).2 key.path

variable {sha256 metaText maxUploadBytes}

/-- One operation of the file system that rewrites nothing. -/
theorem fileScreenshots_step {store : WriteOnce} (op : ScreenshotOp)
    (hop : ∀ key content, op = .put key content → isInvalidScreenshot content = false →
      ∀ c, store key.path = some c → c = content) :
    FileSystemScreenshotStorage.perform sha256 store op = WriteOnce.screenshots sha256 store op := by
  cases op with
  | put key content =>
    simp only [FileSystemScreenshotStorage.perform, FileSystemScreenshotStorage.put,
      WriteOnce.screenshots]
    cases hinvalid : isInvalidScreenshot content with
    | true => rfl
    | false =>
      simp only [Bool.false_eq_true, if_false]
      cases hs : store key.path with
      | none => rw [WriteOnce.write_new hs]; rfl
      | some c =>
        obtain rfl := hop key content rfl hinvalid c hs
        rw [WriteOnce.write_same hs]
        have hsame : Function.update store key.path (some c) = store := by
          rw [← hs, Function.update_eq_self]
        rw [hsame]; rfl
  | get key => rfl

/-- What a put leaves for the rest of the sequence. -/
theorem screenshots_store {store : WriteOnce} {op : ScreenshotOp} {k : String} {c : Bytes}
    (h : (WriteOnce.screenshots sha256 store op).2 k = some c) :
    store k = some c ∨ ∃ key, op = .put key c ∧ key.path = k ∧ isInvalidScreenshot c = false := by
  cases op with
  | get key => exact .inl h
  | put key content =>
    simp only [WriteOnce.screenshots] at h
    split at h
    · exact .inl h
    · next hvalid =>
      simp only [WriteOnce.write] at h
      split at h
      · exact .inl h
      · by_cases hk : k = key.path
        · subst hk
          simp only [Function.update_self, Option.some.injEq] at h
          subst h
          exact .inr ⟨key, rfl, rfl, by simpa using hvalid⟩
        · simp only [Function.update_of_ne hk] at h
          exact .inl h

/-- **Without a rewrite** the file system is the write-once store. -/
theorem fileScreenshots_answers : ∀ (ops : List ScreenshotOp) (store : WriteOnce), NeverRewrites ops →
    (∀ key c c', store (ScreenshotKey.path key) = some c → .put key c' ∈ ops →
      isInvalidScreenshot c' = false → c = c') →
    answers (FileSystemScreenshotStorage.perform sha256) store ops =
      answers (WriteOnce.screenshots sha256) store ops := by
  intro ops
  induction ops with
  | nil => intro store _ _; rfl
  | cons op ops ih =>
    intro store hnever hstore
    have hstep : FileSystemScreenshotStorage.perform sha256 store op =
        WriteOnce.screenshots sha256 store op := by
      refine fileScreenshots_step op fun key content hop hvalid c hc => ?_
      exact hstore key c content hc (hop ▸ List.mem_cons_self) hvalid
    simp only [answers]
    rw [hstep, ih _ ?_ ?_]
    · exact fun key key' c c' hc hc' => hnever key key' c c' (List.mem_cons_of_mem _ hc)
        (List.mem_cons_of_mem _ hc')
    · intro key c c' hc hput hvalid
      rcases screenshots_store hc with hold | ⟨key', rfl, hpath, hvalid'⟩
      · exact hstore key c c' hold (List.mem_cons_of_mem _ hput) hvalid
      · exact hnever key' key c c' List.mem_cons_self (List.mem_cons_of_mem _ hput) hpath hvalid' hvalid

/-- **Equal answers mean no rewrite**: the file system accepts every valid screenshot. -/
theorem neverRewrites_of_answers : ∀ (ops : List ScreenshotOp) (files store : WriteOnce),
    (answers (FileSystemScreenshotStorage.perform sha256) files ops).1 =
      (answers (WriteOnce.screenshots sha256) store ops).1 →
    NeverRewrites ops ∧ ∀ key c c', store (ScreenshotKey.path key) = some c → .put key c' ∈ ops →
      isInvalidScreenshot c' = false → c = c' := by
  intro ops
  induction ops with
  | nil =>
    intro files store _
    exact ⟨fun _ _ _ _ h => absurd h List.not_mem_nil, fun _ _ _ _ h => absurd h List.not_mem_nil⟩
  | cons op ops ih =>
    intro files store h
    simp only [answers, List.cons.injEq] at h
    obtain ⟨hanswer, hrest⟩ := h
    obtain ⟨hnever, hstore⟩ := ih _ _ hrest
    -- what an accepted put says about the content of its key, before and after
    have hput : ∀ key content, op = .put key content → isInvalidScreenshot content = false →
        (∀ c, store key.path = some c → c = content) ∧
          (WriteOnce.screenshots sha256 store op).2 key.path = some content := by
      rintro key content rfl hvalid
      simp only [FileSystemScreenshotStorage.perform, FileSystemScreenshotStorage.put,
        WriteOnce.screenshots, hvalid, Bool.false_eq_true, if_false,
        ScreenshotAnswer.stored.injEq] at hanswer ⊢
      have haccepted : (store.write key.path content).1 = true := by
        by_contra hne
        rw [if_neg hne] at hanswer
        cases hanswer
      refine ⟨fun c hc => ?_, WriteOnce.write_accepted haccepted⟩
      by_contra hne
      rw [WriteOnce.write_other hc hne] at haccepted
      cases haccepted
    have hkept : ∀ k c, store k = some c → (WriteOnce.screenshots sha256 store op).2 k = some c := by
      intro k c hc
      cases op with
      | get key => exact hc
      | put key content =>
        simp only [WriteOnce.screenshots]
        split
        · exact hc
        · exact WriteOnce.write_kept hc
    refine ⟨?_, ?_⟩
    · intro key key' c c' hc hc' hpath hvalid hvalid'
      rcases List.mem_cons.1 hc with hop | hc <;> rcases List.mem_cons.1 hc' with hop' | hc'
      · rw [← hop'] at hop
        cases hop
        rfl
      · have hwritten := (hput key c hop.symm hvalid).2
        rw [hpath] at hwritten
        exact hstore key' c c' hwritten hc' hvalid'
      · have hwritten := (hput key' c' hop'.symm hvalid').2
        rw [← hpath] at hwritten
        exact (hstore key c' c hwritten hc hvalid).symm
      · exact hnever key key' c c' hc hc' hpath hvalid hvalid'
    · intro key c c' hc hc' hvalid'
      rcases List.mem_cons.1 hc' with hop | hc'
      · exact (hput key c' hop.symm hvalid').1 c hc
      · exact hstore key c c' (hkept _ c hc) hc' hvalid'

/-- **The adapters are interchangeable** exactly when no screenshot is rewritten. -/
theorem storages_interchangeable_iff (sha256 : Bytes → String)
    (metaText : String → ℕ → String → Bytes) (maxUploadBytes : ℕ) (objects : List ObjectOp)
    (screenshots : List ScreenshotOp) (hdigest : ∀ c, sha256 c ≠ "")
    (hobjects : NoCollision sha256 (objects.filterMap ObjectOp.content?))
    (hscreenshots : NoCollision sha256 (screenshots.filterMap ScreenshotOp.content?)) :
    Interchangeable sha256 metaText maxUploadBytes objects screenshots ↔ NeverRewrites screenshots := by
  have hempty : BucketHolds sha256 (objects.filterMap ObjectOp.content?) noContents noContents :=
    ⟨fun _ => rfl, fun _ _ h => (by cases h), fun _ _ h => (by cases h)⟩
  have hempty' : BucketHolds sha256 (screenshots.filterMap ScreenshotOp.content?) noContents
      noContents := ⟨fun _ => rfl, fun _ _ h => (by cases h), fun _ _ h => (by cases h)⟩
  have hop : ∀ op ∈ objects, ∀ key content contentType, op = .put key content contentType →
      content ∈ objects.filterMap ObjectOp.content? := by
    rintro op hmem key content contentType rfl
    exact List.mem_filterMap.2 ⟨_, hmem, rfl⟩
  have hop' : ∀ op ∈ screenshots, ∀ key content, op = .put key content →
      content ∈ screenshots.filterMap ScreenshotOp.content? := by
    rintro op hmem key content rfl
    exact List.mem_filterMap.2 ⟨_, hmem, rfl⟩
  obtain ⟨hs3, hs3Holds⟩ := answers_of_step
    (R := BucketHolds sha256 (objects.filterMap ObjectOp.content?))
    (fun t s op h hop => s3Objects_step h hdigest hobjects maxUploadBytes op hop)
    objects noContents noContents hempty hop
  obtain ⟨hfile, hfileHolds⟩ := answers_of_step
    (R := FilesHold (objects.filterMap ObjectOp.content?))
    (fun t s op h hop => fileSystemObjects_step h hobjects metaText maxUploadBytes op hop)
    objects noContents noContents ⟨fun _ => rfl, fun _ _ h => by cases h⟩ hop
  obtain ⟨hpng, hpngHolds⟩ := answers_of_step
    (R := BucketHolds sha256 (screenshots.filterMap ScreenshotOp.content?))
    (fun t s op h hop => s3Screenshots_step h hscreenshots op hop)
    screenshots noContents noContents hempty' hop'
  constructor
  · intro h
    exact (neverRewrites_of_answers screenshots noContents noContents h.fileScreenshots).1
  · intro hnever
    have hsame := @fileScreenshots_answers sha256 screenshots noContents hnever
      fun _ _ _ h => (by cases h)
    exact ⟨hs3, fun key => hs3Holds.body _, hfile, hfileHolds.file, hpng, fun key => hpngHolds.body _,
      by rw [hsame], fun key => by rw [hsame]⟩

end Runs

section Rewritten

/-- The digests of the contents `[1]` and `[2]`. -/
def digestOf (content : Bytes) : String :=
  if content = [1] then "4bf5122f344554c53bde2ebb8cd2b7e3d1600ad631c385a5d7cce23c7785459a"
  else if content = [2] then "dbc1b4c900ffe48d575b5da5c638040125f65db0fe3e24494b76ea986457d986"
  else "e3b0c44298fc1c149afbf4c8996fb92427ae41e4649b934ca495991b7852b855"

def firstScreenshot : ScreenshotKey :=
  { run := 0, position := 1, portal := .files, sequence := 1, operation := .inspect, failure := false }

/-- A document stored, read and copied, and a screenshot stored twice. -/
theorem storages_interchangeable_kept :
    Interchangeable digestOf (fun _ _ _ => []) 10
      [.put (.original "4bf5" .pdf) [1] "application/pdf", .get (.original "4bf5" .pdf),
        .copy (.original "4bf5" .pdf) (.routed "ana" "invoice" "1" .pdf) "application/pdf"]
      [.put firstScreenshot [1], .put firstScreenshot [1], .get firstScreenshot] := by
  refine (storages_interchangeable_iff digestOf _ 10 _ _ ?_ ?_ ?_).2 ?_
  · intro c
    unfold digestOf
    split
    · decide
    · split <;> decide
  · intro a ha b hb _
    simp only [List.filterMap, ObjectOp.content?, List.mem_singleton] at ha hb
    rw [ha, hb]
  · intro a ha b hb _
    simp only [List.filterMap, ScreenshotOp.content?, List.mem_cons, List.not_mem_nil, or_false,
      or_self] at ha hb
    rw [ha, hb]
  · intro key key' c c' hc hc' _ _ _
    simp only [List.mem_cons, ScreenshotOp.put.injEq, reduceCtorEq, List.not_mem_nil, or_false,
      or_self] at hc hc'
    rw [hc.2, hc'.2]

/-- **The file system overwrites** a screenshot that S3 refuses. -/
theorem screenshot_overwritten :
    ¬ ∀ (objects : List ObjectOp) (screenshots : List ScreenshotOp),
      Interchangeable digestOf (fun _ _ _ => []) 10 objects screenshots := by
  intro h
  have hsame := (h [] [.put firstScreenshot [1], .put firstScreenshot [2]]).fileScreenshots
  have heq := (neverRewrites_of_answers _ noContents noContents hsame).1 firstScreenshot
    firstScreenshot [1] [2] (by simp) (by simp) rfl rfl rfl
  exact absurd heq (by decide)

end Rewritten

end SheepContabil
