import RealityConsole.Framework.Faults
import RealityConsole.Framework.Table
import RealityConsole.Framework.Text
import RealityConsole.Protocol.Transcript
import Mathlib.Data.String.Basic
import Mathlib.Data.List.Sort

/-!
# The bundle cache

A directory of verified bundles, one file for each, and a pointer file that names the active one. An
installation writes the file, then the pointer, and removes all but one of the others. A recovery
takes the first file that verifies, points to it and removes newer generations; a read that fails
counts as an absent pointer or a damaged file. What lies on disk is arbitrary; JSON, hashing and
signatures are parameters.
-/

namespace RealityConsole.Client

open Framework Protocol

/-- `SignedProfileBundle` -/
structure SignedBundle where
  bundle : Wire.Bundle
  signature : String
  deriving DecidableEq, Repr

def SignedBundle.generation (signed : SignedBundle) : Nat := signed.bundle.manifest.generation.toNat

def SignedBundle.bundleId (signed : SignedBundle) : BundleId := signed.bundle.manifest.bundleId

/-! ### Verification -/

/-- The codes of `BundleVerifier::verify`. -/
inductive BundleError where
  | shapeInvalid
  | bindingMismatch
  | signingKeyMismatch
  | accountDisabled
  | timeInvalid
  | clientVersionInvalid
  | clientUpgradeRequired
  | signatureInvalid
  | payloadInvalid
  deriving DecidableEq, Repr

/-- `BundleVerifier`: the trust of one device, and the checks whose code is not modelled. -/
structure BundleVerifier where
  networkId : NetworkId
  userId : UserId
  deviceId : Uuid
  controllerInstanceId : ControllerInstanceId
  signingKeyId : Uuid
  /-- `validate_shape` -/
  shapeValid : SignedBundle → Bool
  /-- Whether this client is recent enough; `none` if the text is not a version. -/
  recentEnough : String → Option Bool
  /-- `verify_profile_bundle_signature` over the transcript of the bundle. -/
  signatureValid : SignedBundle → Bool
  /-- The digests of the payloads match, and they decrypt to profiles of the manifest. -/
  payloadValid : SignedBundle → Bool

/-- The clock is within the validity of the bundle. -/
def SignedBundle.InWindow (signed : SignedBundle) (now : Instant) : Prop :=
  ¬ (now < signed.bundle.manifest.issuedAt ∨ now < signed.bundle.manifest.notBefore ∨
    signed.bundle.manifest.offlineExpiresAt ≤ now)

instance (signed : SignedBundle) (now : Instant) : Decidable (signed.InWindow now) :=
  inferInstanceAs (Decidable (¬ _))

def BundleVerifier.verify (v : BundleVerifier) (signed : SignedBundle) (now : Instant) :
    Except BundleError Unit := do
  let manifest := signed.bundle.manifest
  refuseWhen (v.shapeValid signed = false) .shapeInvalid
  refuseWhen (manifest.networkId ≠ v.networkId ∨ manifest.userId ≠ v.userId ∨
    manifest.deviceId ≠ v.deviceId ∨ manifest.controllerInstanceId ≠ v.controllerInstanceId)
    .bindingMismatch
  refuseWhen (manifest.signingKeyId ≠ v.signingKeyId) .signingKeyMismatch
  refuseWhen (manifest.accountStatus ≠ .active) .accountDisabled
  refuseWhen (¬ signed.InWindow now) .timeInvalid
  let recent ← required (v.recentEnough manifest.minClientVersion) .clientVersionInvalid
  refuseWhen (recent = false) .clientUpgradeRequired
  refuseWhen (v.signatureValid signed = false) .signatureInvalid
  refuseWhen (v.payloadValid signed = false) .payloadInvalid

def BundleVerifier.Verifies (v : BundleVerifier) (signed : SignedBundle) (now : Instant) : Prop :=
  v.verify signed now = .ok ()

instance (v : BundleVerifier) (signed : SignedBundle) (now : Instant) :
    Decidable (v.Verifies signed now) :=
  inferInstanceAs (Decidable (_ = _))

/-! ### Names of files -/

/-- Twenty digits at least. -/
def paddedDigits (n : Nat) : List Char :=
  List.replicate (20 - (Nat.toDigits 10 n).length) '0' ++ Nat.toDigits 10 n

def bundleFileName (generation : Nat) (bundleId : BundleId) : String :=
  String.ofList ("bundle-".toList ++ (paddedDigits generation ++
    '-' :: (bundleId.text.toList ++ ".json".toList)))

/-- `str::parse::<i64>` of a text without a minus sign. -/
def parseI64 : List Char → Option Nat := parseUnsigned (2 ^ 63)

/-- `bundle_generation_from_path` -/
def generationFromName (name : String) : Option Nat :=
  if "bundle-".toList <+: name.toList then
    parseI64 ((name.toList.drop 7).takeWhile (· ≠ '-'))
  else none

def SignedBundle.fileName (signed : SignedBundle) : String :=
  bundleFileName signed.generation signed.bundleId

theorem isDigit_of_mem_paddedDigits {n : Nat} {c : Char} (h : c ∈ paddedDigits n) :
    c.isDigit := by
  rcases List.mem_append.1 h with hzero | hdig
  · obtain rfl := List.eq_of_mem_replicate hzero
    rfl
  · exact Nat.isDigit_of_mem_toDigits (by decide) (by decide) hdig

theorem ofDigitChars_paddedDigits (n : Nat) : Nat.ofDigitChars 10 (paddedDigits n) 0 = n := by
  rw [paddedDigits, Nat.ofDigitChars_append, Nat.ofDigitChars_replicate_zero, Nat.mul_zero]
  exact Nat.ofDigitChars_toDigits (by decide) (by decide)

theorem takeWhile_paddedDigits (n : Nat) (rest : List Char) :
    (paddedDigits n ++ '-' :: rest).takeWhile (· ≠ '-') = paddedDigits n := by
  rw [List.takeWhile_append_of_pos, List.takeWhile_cons_of_neg (by decide), List.append_nil]
  intro c hc
  have hdig := isDigit_of_mem_paddedDigits hc
  have hne : c ≠ '-' := by
    rintro rfl
    exact absurd hdig (by decide)
  exact decide_eq_true hne

theorem drop_marker (rest : List Char) : ("bundle-".toList ++ rest).drop 7 = rest := by
  have hlen : "bundle-".toList.length = 7 := by decide
  exact List.drop_left' hlen

theorem drop_bundleFileName (generation : Nat) (bundleId : BundleId) :
    (bundleFileName generation bundleId).toList.drop 7 =
      paddedDigits generation ++ '-' :: (bundleId.text.toList ++ ".json".toList) := by
  have hchars : (bundleFileName generation bundleId).toList = "bundle-".toList ++ (paddedDigits
    generation ++ '-' :: (bundleId.text.toList ++ ".json".toList)) := String.toList_ofList
  exact (congrArg (List.drop 7) hchars).trans (drop_marker _)

theorem generationFromName_bundleFileName {generation g : Nat} {bundleId : BundleId}
    (h : generationFromName (bundleFileName generation bundleId) = some g) : g = generation := by
  obtain ⟨-, hparse⟩ := Option.ite_none_right_eq_some.1 h
  rw [drop_bundleFileName, takeWhile_paddedDigits] at hparse
  rw [parseI64, parseUnsigned_digits fun _ => isDigit_of_mem_paddedDigits] at hparse
  exact (parseDigits_some hparse).2.trans (ofDigitChars_paddedDigits generation)

theorem bundleFileName_inj {g g' : Nat} {id id' : BundleId}
    (h : bundleFileName g id = bundleFileName g' id') : g = g' ∧ id = id' := by
  have hrest := congrArg (fun name => name.toList.drop 7) h
  simp only [drop_bundleFileName] at hrest
  have hdigs := congrArg (List.takeWhile (· ≠ '-')) hrest
  rw [takeWhile_paddedDigits, takeWhile_paddedDigits] at hdigs
  have hgen := congrArg (Nat.ofDigitChars 10 · 0) hdigs
  simp only [ofDigitChars_paddedDigits] at hgen
  refine ⟨hgen, ?_⟩
  rw [hdigs] at hrest
  have htext := List.append_cancel_right (List.cons.inj (List.append_cancel_left hrest)).2
  exact Uuid.text_injective (String.toList_injective htext)

/-! ### The directory -/

inductive CacheError where
  | readFailed
  | writeFailed
  | pruneFailed
  | syncFailed
  | artifactTooLarge
  | pointerInvalid
  | generationRollback
  | generationConflict

/-- JSON and SHA-256 of artifacts. -/
structure ArtifactCodec (Bytes : Type) where
  encode : SignedBundle → Bytes
  decode : Bytes → Option SignedBundle
  decode_encode : ∀ signed, decode (encode signed) = some signed
  /-- `hex_digest` -/
  digest : Bytes → String
  size : Bytes → Nat

def cacheVersion : Nat := 1

def maximumCachedBundleBytes : Nat := 8 * 1024 * 1024

structure ActivePointer where
  version : Nat
  generation : Nat
  bundleId : BundleId
  file : String
  artifactDigest : String
  etag : Option String

inductive PointerFile where
  | absent
  /-- It cannot be read, others may read it, or it is not the JSON of a pointer. -/
  | unreadable
  | contents (pointer : ActivePointer)

/-- The files of bundles by descending name; `none` stands for one that `read_bounded_file`
refuses. -/
abbrev Files (Bytes : Type) := Table String (Option Bytes)

section
variable {Bytes : Type}

def putFile (name : String) (content : Option Bytes) : Files Bytes → Files Bytes
  | [] => [(name, content)]
  | (other, old) :: rest =>
    if name = other then (name, content) :: rest
    else if other < name then (name, content) :: (other, old) :: rest
    else (other, old) :: putFile name content rest

def Descending (files : Files Bytes) : Prop := files.Pairwise fun a b => b.1 < a.1

theorem mem_putFile {name : String} {content : Option Bytes} {files : Files Bytes}
    {entry : String × Option Bytes} (h : entry ∈ putFile name content files) :
    entry = (name, content) ∨ entry ∈ files := by
  induction files with
  | nil => exact .inl (List.mem_singleton.1 h)
  | cons first rest ih =>
    unfold putFile at h
    split at h
    · rcases List.mem_cons.1 h with hnew | hrest
      · exact .inl hnew
      · exact .inr (.tail _ hrest)
    split at h
    · exact List.mem_cons.1 h
    rcases List.mem_cons.1 h with hfirst | hrest
    · exact .inr (hfirst ▸ List.mem_cons_self)
    rcases ih hrest with hnew | hold
    · exact .inl hnew
    · exact .inr (.tail _ hold)

theorem descending_putFile {name : String} {content : Option Bytes} {files : Files Bytes}
    (h : Descending files) : Descending (putFile name content files) := by
  induction files with
  | nil => exact List.pairwise_singleton _ _
  | cons first rest ih =>
    obtain ⟨hfirst, hrest⟩ := List.pairwise_cons.1 h
    unfold putFile
    split
    · rename_i hsame
      exact List.pairwise_cons.2 ⟨fun entry hent => hsame ▸ hfirst entry hent, hrest⟩
    rename_i hoth
    split
    · rename_i hlt
      refine List.pairwise_cons.2 ⟨?_, h⟩
      intro entry hent
      rcases List.mem_cons.1 hent with rfl | hent
      · exact hlt
      · exact lt_trans (hfirst entry hent) hlt
    · rename_i hnotlt
      refine List.pairwise_cons.2 ⟨?_, ih hrest⟩
      intro entry hent
      rcases mem_putFile hent with rfl | hold
      · exact lt_of_le_of_ne (not_lt.1 hnotlt) hoth
      · exact hfirst entry hold

structure CacheDir (Bytes : Type) where
  pointer : PointerFile
  files : Files Bytes
  descending : Descending files

namespace CacheDir

def put (name : String) (content : Option Bytes) (dir : CacheDir Bytes) : CacheDir Bytes :=
  ⟨dir.pointer, putFile name content dir.files, descending_putFile dir.descending⟩

def remove (name : String) (dir : CacheDir Bytes) : CacheDir Bytes where
  pointer := dir.pointer
  files := dir.files.filter fun entry => entry.1 ≠ name
  descending := dir.descending.filter _

def point (pointer : ActivePointer) (dir : CacheDir Bytes) : CacheDir Bytes :=
  { dir with pointer := .contents pointer }

end CacheDir

/-- The reads of one recovery that fail: that of the pointer, and those of some files. -/
structure FailedReads where
  pointer : Bool
  files : List String

def FailedReads.none : FailedReads := ⟨false, []⟩

/-- The directory as such reads show it. -/
def CacheDir.seen (failed : FailedReads) (dir : CacheDir Bytes) : CacheDir Bytes where
  pointer := if failed.pointer then .unreadable else dir.pointer
  files := dir.files.map fun file => (file.1, if file.1 ∈ failed.files then Option.none else file.2)
  descending := by
    rw [Descending, List.pairwise_map]
    exact dir.descending

abbrev CacheProgram (Bytes : Type) := Faulty (CacheDir Bytes) CacheError

def readPointer (dir : CacheDir Bytes) : Except CacheError (Option ActivePointer) :=
  match dir.pointer with
  | .absent => .ok none
  | .unreadable => .error .pointerInvalid
  | .contents pointer =>
    if pointer.version ≠ cacheVersion ∨
        pointer.file ≠ bundleFileName pointer.generation pointer.bundleId then
      .error .pointerInvalid
    else .ok (some pointer)

/-- The files that `prune` removes, in its order: all but the active one and the newest of the
others. -/
def superseded (activeFile : String) (files : Files Bytes) : List String :=
  (((files.map Prod.fst).insertionSort fun a b =>
    (generationFromName b).getD 0 ≤ (generationFromName a).getD 0).filter (· ≠ activeFile)).drop 1

/-- The files that `remove_newer_than` removes, in its order. -/
def newerThan (generation : Nat) (files : Files Bytes) : List String :=
  (files.map Prod.fst).filter fun name => (generationFromName name).any (generation < ·)

def deleteFiles : List String → CacheProgram Bytes Unit
  | [] => pure ()
  | name :: rest => do
    Faulty.effect (CacheDir.remove name) .pruneFailed
    deleteFiles rest

def prune (activeFile : String) : CacheProgram Bytes Unit := do
  let names ← Faulty.inspect (fun dir => .ok (superseded activeFile dir.files)) .readFailed
  deleteFiles names
  Faulty.effect id .syncFailed

def removeNewerThan (generation : Nat) : CacheProgram Bytes Unit := do
  let names ← Faulty.inspect (fun dir => .ok (newerThan generation dir.files)) .readFailed
  deleteFiles names

variable (codec : ArtifactCodec Bytes)

def pointerTo (signed : SignedBundle) (file : String) (etag : Option String) : ActivePointer :=
  { version := cacheVersion, generation := signed.generation, bundleId := signed.bundleId, file
    artifactDigest := codec.digest (codec.encode signed), etag }

/-- Writes the pointer under a temporary name and puts it into place. -/
def writePointer (pointer : ActivePointer) : CacheProgram Bytes Unit :=
  Faulty.effect (CacheDir.point pointer) .writeFailed

def installDecision (pointer : ActivePointer) (dir : CacheDir Bytes) : Except CacheError Bool := do
  match ← readPointer dir with
  | none => .ok true
  | some current =>
    if pointer.generation < current.generation then .error .generationRollback
    else if pointer.generation = current.generation then
      if pointer.bundleId = current.bundleId ∧ pointer.artifactDigest = current.artifactDigest then
        .ok false
      else .error .generationConflict
    else .ok true

/-- `BundleCache::install` -/
def install (signed : SignedBundle) (etag : Option String) : CacheProgram Bytes Unit := do
  Faulty.refuseWhen (maximumCachedBundleBytes < codec.size (codec.encode signed)) .artifactTooLarge
  let pointer := pointerTo codec signed signed.fileName etag
  let write ← Faulty.inspect (installDecision pointer) .readFailed
  if write then
    Faulty.effect (CacheDir.put signed.fileName (some (codec.encode signed))) .writeFailed
    writePointer pointer
    prune signed.fileName
  else pure ()

structure Recovered where
  name : String
  signed : SignedBundle
  /-- It is the file that the pointer names. -/
  active : Bool
  etag : Option String

variable (verifier : BundleVerifier)

/-- One turn of the loop of `recover`. -/
def tryFile (pointer : Option ActivePointer) (now : Instant) (file : String × Option Bytes) :
    Option Recovered := do
  let bytes ← file.2
  let active := pointer.filter fun p => p.file = file.1
  if active.any fun p => p.artifactDigest ≠ codec.digest bytes then none
  else
    let signed ← codec.decode bytes
    if verifier.Verifies signed now then
      some { name := file.1, signed, active := active.isSome, etag := active.bind (·.etag) }
    else none

/-- The files in the order of the loop of `recover`: the active one comes first. -/
def candidates (pointer : Option ActivePointer) (files : Files Bytes) : Files Bytes :=
  match pointer with
  | none => files
  | some p => (files.filter fun file => file.1 = p.file) ++ files.filter fun file => file.1 ≠ p.file

def pick (now : Instant) (dir : CacheDir Bytes) : Option Recovered :=
  let pointer := (readPointer dir).toOption.join
  (candidates pointer dir.files).findSome? (tryFile codec verifier pointer now)

/-- `repoint`, for a file that the pointer does not name yet. -/
def repoint (found : Recovered) : CacheProgram Bytes Unit :=
  if found.active then pure ()
  else writePointer (pointerTo codec found.signed found.name found.etag)

/-- `BundleCache::recover`. A pointer that cannot be read counts as absent, and a file that cannot
be read is skipped; the listing of the directory must succeed. -/
def recover (now : Instant) (failed : FailedReads) : CacheProgram Bytes (Option Recovered) := do
  match ← Faulty.inspect (fun dir => .ok (pick codec verifier now (dir.seen failed)))
      .readFailed with
  | none => return none
  | some found =>
    repoint codec found
    removeNewerThan found.signed.generation
    prune found.name
    return some found

end

end RealityConsole.Client
