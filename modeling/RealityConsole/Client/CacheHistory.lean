import RealityConsole.Client.CacheDurability

/-!
# Histories of the bundle cache

A history is a sequence of installations and recoveries at arbitrary clock readings, each
with its own script of failures and crashes and its own failing reads. An installation that is cut
off leaves a directory in which a recovery finds what it would have found before, or the new bundle.
-/

namespace RealityConsole.Client

open Framework Protocol

variable {Bytes : Type} {codec : ArtifactCodec Bytes} {verifier : BundleVerifier}

/-! ### Without failures -/

theorem returns_deleteFiles (names : List String) (dir : CacheDir Bytes) :
    Faulty.Returns (deleteFiles names) dir () := by
  induction names generalizing dir with
  | nil => exact Faulty.returns_pure dir ()
  | cons name rest ih => exact (Faulty.returns_effect _ _ dir).bind ih

theorem returns_prune (active : String) (dir : CacheDir Bytes) :
    Faulty.Returns (prune active) dir () := by
  apply Faulty.Returns.inspect_bind (a := superseded active dir.files)
  · rfl
  apply (returns_deleteFiles _ dir).bind
  exact Faulty.returns_effect _ _

theorem returns_removeNewerThan (generation : Nat) (dir : CacheDir Bytes) :
    Faulty.Returns (removeNewerThan generation) dir () := by
  apply Faulty.Returns.inspect_bind (a := newerThan generation dir.files)
  · rfl
  exact returns_deleteFiles _ dir

theorem returns_repoint (found : Recovered) (dir : CacheDir Bytes) :
    Faulty.Returns (repoint codec found) dir () := by
  unfold repoint
  split
  · exact Faulty.returns_pure dir ()
  · exact Faulty.returns_effect _ _ dir

theorem returns_recover (now : Instant) (failed : FailedReads) (dir : CacheDir Bytes) :
    Faulty.Returns (recover codec verifier now failed) dir
      (pick codec verifier now (dir.seen failed)) := by
  apply Faulty.Returns.inspect_bind (a := pick codec verifier now (dir.seen failed))
  · rfl
  cases pick codec verifier now (dir.seen failed) with
  | none => exact Faulty.returns_pure dir none
  | some found =>
    apply (returns_repoint found dir).bind
    intro dir'
    apply (returns_removeNewerThan _ dir').bind
    intro dir'
    apply (returns_prune _ dir').bind
    exact fun dir' => Faulty.returns_pure dir' _

variable {dir : CacheDir Bytes} {etag : Option String} {signed : SignedBundle}

theorem returns_install
    {write : Bool} (hsize : codec.size (codec.encode signed) ≤ maximumCachedBundleBytes)
    (h : installDecision (pointerTo codec signed signed.fileName etag) dir = .ok write) :
    Faulty.Returns (install codec signed etag) dir () := by
  have hrefuse : (Faulty.refuseWhen (maximumCachedBundleBytes < codec.size (codec.encode signed))
      .artifactTooLarge : CacheProgram Bytes Unit) = pure () := if_neg (not_lt.2 hsize)
  unfold install
  rw [hrefuse]
  apply Faulty.Returns.inspect_bind h
  split
  · apply (Faulty.returns_effect _ _ dir).bind
    intro dir'
    apply (Faulty.returns_effect _ _ dir').bind
    exact returns_prune _
  · exact Faulty.returns_pure dir ()

/-- Whatever happens, a recovery that returns has found the first file that it could read and that
verifies. -/
theorem spec_recover_result (now : Instant) (failed : FailedReads) (dir : CacheDir Bytes) :
    Faulty.Spec (· = dir) (recover codec verifier now failed) (fun _ => True)
      fun result _ => result = pick codec verifier now (dir.seen failed) := by
  apply Faulty.Spec.bind (Q := fun picked _ => picked = pick codec verifier now (dir.seen failed))
  · apply Faulty.spec_inspect
    · exact fun _ _ => trivial
    · rintro _ picked rfl hpicked
      exact (Except.ok.inj hpicked).symm
  intro picked
  cases picked with
  | none => exact Faulty.spec_pure none (fun _ _ => trivial) fun _ h => h
  | some found =>
    apply (Faulty.spec_frame _).bind
    intro _
    apply (Faulty.spec_frame _).bind
    intro _
    apply (Faulty.spec_frame _).bind
    exact fun _ => Faulty.spec_pure _ (fun _ _ => trivial) fun _ h => h

/-- What a recovery at this time, in which these reads fail, returns if it returns, as it does
without other failures. -/
def Recovers (codec : ArtifactCodec Bytes) (verifier : BundleVerifier) (dir : CacheDir Bytes)
    (now : Instant) (failed : FailedReads) (result : Option Recovered) : Prop :=
  Faulty.Returns (recover codec verifier now failed) dir result ∧
    ∀ faults returned, (recover codec verifier now failed ⟨dir, faults⟩).2 = .ok returned →
      returned = result

theorem recovers_pick (dir : CacheDir Bytes) (now : Instant) (failed : FailedReads) :
    Recovers codec verifier dir now failed (pick codec verifier now (dir.seen failed)) := by
  refine ⟨returns_recover now failed dir, ?_⟩
  intro faults returned hretd
  exact (spec_recover_result now failed dir ⟨dir, faults⟩ rfl).2 returned hretd

variable {now : Instant} {failed : FailedReads}

theorem Recovers.eq_pick {result : Option Recovered}
    (h : Recovers codec verifier dir now failed result) :
    result = pick codec verifier now (dir.seen failed) := by
  obtain ⟨state, hrun⟩ : Faulty.Returns (recover codec verifier now failed) dir _ :=
    returns_recover now failed dir
  exact (h.2 [] _ (congrArg Prod.snd hrun)).symm

/-! ### Installations that are cut off -/

/-- What an installation may leave: the old directory, with or without the new file, or one whose
active bundle is the new one. -/
inductive Cut (codec : ArtifactCodec Bytes) (dir : CacheDir Bytes) (signed : SignedBundle) :
    CacheDir Bytes → Prop where
  | before : Cut codec dir signed dir
  | written (pointer : Option ActivePointer) (hread : readPointer dir = .ok pointer)
      (holder : ∀ p, pointer = some p → p.generation < signed.generation) :
      Cut codec dir signed (dir.put signed.fileName (some (codec.encode signed)))
  | active (after : CacheDir Bytes) (hactive : Active codec after signed) :
      Cut codec dir signed after

theorem pointer_of_installDecision {pointer : ActivePointer}
    (h : installDecision pointer dir = .ok true) : ∃ cur, readPointer dir = .ok cur ∧
      ∀ p, cur = some p → p.generation < pointer.generation := by
  obtain ⟨cur, hread, h⟩ := bind_ok.1 h
  refine ⟨cur, hread, ?_⟩
  rintro p rfl
  dsimp only at h
  split at h
  · cases h
  split at h
  · split at h
    · cases h
    · cases h
  · omega

theorem spec_install_cut (dir : CacheDir Bytes) (signed : SignedBundle) (etag : Option String) :
    Faulty.Spec (· = dir) (install codec signed etag) (Cut codec dir signed) fun _ _ => True := by
  apply Faulty.Spec.bind (Q := fun _ => (· = dir))
  · apply Faulty.spec_refuseWhen
    · rintro _ rfl
      exact .before
    · exact fun _ h _ => h
  intro _
  apply Faulty.Spec.bind (Q := fun write found => found = dir ∧
    installDecision (pointerTo codec signed signed.fileName etag) dir = .ok write)
  · apply Faulty.spec_inspect
    · rintro _ rfl
      exact .before
    · rintro _ write rfl hwrite
      exact ⟨rfl, hwrite⟩
  intro write
  cases write with
  | false =>
    apply Faulty.spec_pure
    · rintro _ ⟨rfl, -⟩
      exact .before
    · exact fun _ _ => trivial
  | true =>
    apply Faulty.Spec.bind (Q := fun _ found => Cut codec dir signed found ∧
      Holds codec found signed)
    · have hwritten : ∀ found, found = dir ∧
          installDecision (pointerTo codec signed signed.fileName etag) dir = .ok true →
          Cut codec dir signed (found.put signed.fileName (some (codec.encode signed))) := by
        rintro _ ⟨rfl, hdecision⟩
        obtain ⟨cur, hread, holder⟩ := pointer_of_installDecision hdecision
        exact .written cur hread holder
      apply Faulty.spec_effect
      · rintro _ ⟨rfl, -⟩
        exact .before
      · exact hwritten
      · exact fun found h => ⟨hwritten found h, mem_putFile_self _ _ _⟩
    intro _
    apply Faulty.Spec.bind (Q := fun _ found => Active codec found signed)
    · apply Faulty.spec_effect
      · exact fun _ h => h.1
      · exact fun _ h => .active _ ⟨⟨etag, rfl⟩, h.2⟩
      · exact fun _ h => ⟨⟨etag, rfl⟩, h.2⟩
    intro _
    have hprune : Faulty.Spec (fun found => Active codec found signed) (prune signed.fileName)
        (fun found => Active codec found signed) fun _ found => Active codec found signed :=
      spec_prune fun found h name hname => h.remove hname
    exact hprune.weaken (fun _ h => h) (fun _ h => .active _ h) fun _ _ _ => trivial

variable {content : Option Bytes}

/-- A new file that is accepted comes first or changes nothing. -/
theorem findSome?_putFile {β : Type} {g : String × Option Bytes → Option β} {name : String} {b : β}
    (keep : String × Option Bytes → Bool) (hkeep : keep (name, content))
    (hnew : g (name, content) = some b) (files : Files Bytes) :
    ((putFile name content files).filter keep).findSome? g = (files.filter keep).findSome? g ∨
    ((putFile name content files).filter keep).findSome? g = some b := by
  have hfirst : ∀ rest : Files Bytes,
      (((name, content) :: rest).filter keep).findSome? g = some b := by
    intro rest
    rw [List.filter_cons_of_pos hkeep, List.findSome?_cons, hnew]
  induction files with
  | nil => exact .inr (hfirst [])
  | cons first rest ih =>
    obtain ⟨other, old⟩ := first
    unfold putFile
    split
    · exact .inr (hfirst rest)
    split
    · exact .inr (hfirst _)
    -- the first file decides in both lists, or neither
    rw [List.filter_cons, List.filter_cons]
    split
    · rw [List.findSome?_cons, List.findSome?_cons]
      cases g (other, old) with
      | none => exact ih
      | some c => exact .inl rfl
    · exact ih

theorem filter_putFile {name other : String} (hname : name ≠ other) (files : Files Bytes) :
    (putFile name content files).filter (fun file => file.1 = other) =
      files.filter fun file => file.1 = other := by
  induction files with
  | nil => exact List.filter_cons_of_neg (by simpa using hname)
  | cons first rest ih =>
    unfold putFile
    split
    · rename_i hsame
      rw [List.filter_cons_of_neg (by simpa using hname),
        List.filter_cons_of_neg (by simpa [← hsame] using hname)]
    · split
      · exact List.filter_cons_of_neg (by simpa using hname)
      · rw [List.filter_cons, List.filter_cons, ih]

theorem file_of_readPointer {p : ActivePointer}
    (h : readPointer dir = .ok (some p)) : p.file = bundleFileName p.generation p.bundleId := by
  unfold readPointer at h
  split at h
  · cases h
  · cases h
  split at h
  · cases h
  rename_i hval
  cases h
  push Not at hval
  exact hval.2

theorem tryFile_of_verifies {pointer : Option ActivePointer}
    (hpointer : ∀ p, pointer = some p → p.file ≠ signed.fileName)
    (hverify : verifier.Verifies signed now) :
    tryFile codec verifier pointer now (signed.fileName, some (codec.encode signed)) =
      some { name := signed.fileName, signed, active := false, etag := none } := by
  have hact : (pointer.filter fun p => p.file = signed.fileName) = none := by
    cases pointer with
    | none => rfl
    | some p => simp [Option.filter, hpointer p rfl]
  simp [tryFile, hact, codec.decode_encode, hverify]

/-- After an installation that was cut off, a recovery finds what it would have found before or the
new bundle. -/
theorem Cut.pick {dir after : CacheDir Bytes}
    (h : Cut codec dir signed after) (hverify : verifier.Verifies signed now) :
    Client.pick codec verifier now after = Client.pick codec verifier now dir ∨
      ∃ found, Client.pick codec verifier now after = some found ∧ found.signed = signed := by
  cases h with
  | before => exact .inl rfl
  | active _ hact =>
    obtain ⟨etag, hpick⟩ := hact.pick hverify
    exact .inr ⟨_, hpick, rfl⟩
  | written pointer hread holder =>
    have hfile : ∀ p, pointer = some p → p.file ≠ signed.fileName := by
      rintro p rfl hsame
      have hname := (file_of_readPointer hread).symm.trans hsame
      exact absurd (bundleFileName_inj hname).1 (holder p rfl).ne
    have htryFile : tryFile codec verifier pointer now _ = _ := tryFile_of_verifies hfile hverify
    have hput : Client.pick codec verifier now
        (dir.put signed.fileName (some (codec.encode signed))) =
        (candidates pointer
          (putFile signed.fileName (some (codec.encode signed)) dir.files)).findSome?
          (tryFile codec verifier pointer now) := by
      have hsame : readPointer (dir.put signed.fileName (some (codec.encode signed))) =
          .ok pointer := hread
      unfold Client.pick
      rw [hsame]
      rfl
    have hold : Client.pick codec verifier now dir =
        (candidates pointer dir.files).findSome? (tryFile codec verifier pointer now) := by
      unfold Client.pick
      rw [hread]
      rfl
    rw [hput, hold]
    cases pointer with
    | none =>
      have hnew := findSome?_putFile (fun _ => true) rfl htryFile dir.files
      simp only [List.filter_true] at hnew
      exact hnew.imp id fun hfound => ⟨_, hfound, rfl⟩
    | some p =>
      -- the active file still comes first
      have hne : signed.fileName ≠ p.file := (hfile p rfl).symm
      have hnew :=
        findSome?_putFile (fun file => file.1 ≠ p.file) (decide_eq_true hne) htryFile dir.files
      unfold candidates
      rw [List.findSome?_append, List.findSome?_append, filter_putFile hne]
      cases (dir.files.filter fun file => file.1 = p.file).findSome?
        (tryFile codec verifier (some p) now) with
      | some found => exact .inl rfl
      | none => exact hnew.imp id fun hfound => ⟨_, hfound, rfl⟩

/-! ### Histories -/

/-- A directory, and the bundles that installations and recoveries have handed to the client, the
last one first. -/
structure History (Bytes : Type) where
  dir : CacheDir Bytes
  uses : List SignedBundle

/-- A call, with what happens to its file operations. -/
inductive CacheCall where
  /-- The bundle was verified at this time. -/
  | install (signed : SignedBundle) (etag : Option String) (verifiedAt : Instant)
      (faults : List Fault)
  | recover (now : Instant) (failed : FailedReads) (faults : List Fault)

/-- The history after a program, given what its result hands to the client. -/
def History.after {α : Type} (w : History Bytes)
    (run : Scripted (CacheDir Bytes) × Except (Stop CacheError) α)
    (handed : α → List SignedBundle) : History Bytes where
  dir := run.1.state
  uses := (match run.2 with
    | .ok a => handed a
    | .error _ => []) ++ w.uses

def History.call (codec : ArtifactCodec Bytes) (verifier : BundleVerifier) (w : History Bytes) :
    CacheCall → Option (History Bytes)
  | .install signed etag verifiedAt faults =>
    if verifier.Verifies signed verifiedAt then
      some (w.after (install codec signed etag ⟨w.dir, faults⟩) fun _ => [signed])
    else none
  | .recover now failed faults =>
    some (w.after (recover codec verifier now failed ⟨w.dir, faults⟩)
      fun found => found.toList.map Recovered.signed)

variable {faults : List Fault}

theorem History.call_install {w : History Bytes}
    {verifiedAt : Instant} (h : verifier.Verifies signed verifiedAt) :
    w.call codec verifier (.install signed etag verifiedAt faults) =
      some (w.after (install codec signed etag ⟨w.dir, faults⟩) fun _ => [signed]) := by
  exact if_pos h

theorem History.uses_after {α : Type} (w : History Bytes)
    (run : Scripted (CacheDir Bytes) × Except (Stop CacheError) α)
    (handed : α → List SignedBundle) : (w.after run handed).uses = w.uses ∨
      ∃ a, run.2 = .ok a ∧ (w.after run handed).uses = handed a ++ w.uses := by
  obtain ⟨s, stop | a⟩ := run
  · exact .inl rfl
  · exact .inr ⟨a, rfl, rfl⟩

def cacheHistory (codec : ArtifactCodec Bytes) (verifier : BundleVerifier)
    (start : CacheDir Bytes) : Machine (History Bytes) CacheCall where
  init w := w = ⟨start, []⟩
  next := History.call codec verifier

def TimelyCall (codec : ArtifactCodec Bytes) (verifier : BundleVerifier) (w : History Bytes) :
    CacheCall → Prop
  | .install .. => True
  | .recover now failed _ => Timely codec verifier w.dir now failed

/-- The active bundle is at least as new as every bundle in use so far. -/
abbrev Kept (codec : ArtifactCodec Bytes) (w : History Bytes) : Prop :=
  Keeps codec (w.uses.map SignedBundle.generation) w.dir

theorem keeps_nil (h : Sound codec dir) : Keeps codec [] dir where
  sound := h
  atLeast generation hgen := by cases hgen

variable {generations : List Nat}

theorem Keeps.cons {gen : Nat}
    (h : Keeps codec generations dir) (hact : ActiveAt codec dir gen) :
    Keeps codec (gen :: generations) dir where
  sound := h.sound
  atLeast other hoth := by
    obtain ⟨active, hact, rfl⟩ := hact
    rcases List.mem_cons.1 hoth with rfl | hold
    · exact ⟨active, hact, le_rfl⟩
    · exact h.atLeast other hold

variable {w after : History Bytes}

/-- An installation leaves the uses or adds its bundle, whose generation is then active. -/
theorem install_step {verifiedAt : Instant} (hkeep : Keeps codec generations w.dir)
    (h : w.call codec verifier (.install signed etag verifiedAt faults) = some after) :
    Keeps codec generations after.dir ∧ (after.uses = w.uses ∨
        after.uses = signed :: w.uses ∧ ActiveAt codec after.dir signed.generation) := by
  obtain ⟨-, haft⟩ := Option.ite_none_right_eq_some.1 h
  cases haft
  obtain ⟨hstop, hres⟩ := spec_install generations signed etag ⟨w.dir, faults⟩ hkeep
  refine ⟨hstop, (w.uses_after _ _).imp id ?_⟩
  rintro ⟨_, hok, huses⟩
  exact ⟨huses, (hres _ hok).2⟩

/-- A recovery leaves the uses or adds the bundle that is then active. -/
theorem recover_step (hkeep : Keeps codec generations w.dir)
    (hguard : generations = [] ∨ Timely codec verifier w.dir now failed)
    (h : w.call codec verifier (.recover now failed faults) = some after) :
    Keeps codec generations after.dir ∧ (after.uses = w.uses ∨
        ∃ signed, after.uses = signed :: w.uses ∧ Active codec after.dir signed) := by
  cases h
  obtain ⟨hstop, hres⟩ := spec_recover generations now failed ⟨w.dir, faults⟩ ⟨hkeep, hguard⟩
  refine ⟨hstop, ?_⟩
  rcases w.uses_after (recover codec verifier now failed ⟨w.dir, faults⟩) _ with
    hsame | ⟨found, hok, huses⟩
  · exact .inl hsame
  cases found with
  | none => exact .inl huses
  | some found => exact .inr ⟨found.signed, huses, (hres _ hok).2 found rfl⟩

variable {call : CacheCall}

/-- Calls keep a sound directory sound, at whatever time and however they end. -/
theorem sound_call (hsound : Sound codec w.dir)
    (h : w.call codec verifier call = some after) : Sound codec after.dir := by
  cases call with
  | install signed etag verifiedAt faults => exact (install_step (keeps_nil hsound) h).1.sound
  | recover now failed faults => exact (recover_step (keeps_nil hsound) (.inl rfl) h).1.sound

theorem timely_step (hkept : Kept codec w)
    (hok : TimelyCall codec verifier w call) (h : w.call codec verifier call = some after) :
    Keeps codec (w.uses.map SignedBundle.generation) after.dir ∧ (after.uses = w.uses ∨
        ∃ signed, after.uses = signed :: w.uses ∧ ActiveAt codec after.dir signed.generation) := by
  cases call with
  | install signed etag verifiedAt faults =>
    obtain ⟨hkeep, huses⟩ := install_step hkept h
    exact ⟨hkeep, huses.imp id fun hnew => ⟨signed, hnew⟩⟩
  | recover now failed faults =>
    obtain ⟨hkeep, huses⟩ := recover_step hkept (.inr hok) h
    refine ⟨hkeep, huses.imp id ?_⟩
    rintro ⟨signed, hnew, hact⟩
    exact ⟨signed, hnew, signed, hact, rfl⟩

theorem kept_call (hkept : Kept codec w) (hok : TimelyCall codec verifier w call)
    (h : w.call codec verifier call = some after) : Kept codec after := by
  obtain ⟨hkeep, huses⟩ := timely_step hkept hok h
  unfold Kept
  rcases huses with hsame | ⟨signed, hnew, hact⟩
  · rw [hsame]
    exact hkeep
  · rw [hnew]
    exact hkeep.cons hact

variable {start : CacheDir Bytes}

theorem sound_of_reachable {w : History Bytes} (hbeg : Sound codec start)
    (h : (cacheHistory codec verifier start).Reachable w) : Sound codec w.dir := by
  apply Machine.Run.invariant (I := fun w => Sound codec w.dir) h
  · rintro _ rfl
    exact hbeg
  · exact fun _ _ _ hsound _ hcall => sound_call hsound hcall

theorem kept_of_run {w : History Bytes} (hbeg : Sound codec start)
    (h : (cacheHistory codec verifier start).Run (TimelyCall codec verifier) w) : Kept codec w := by
  apply Machine.Run.invariant (I := Kept codec) h
  · rintro _ rfl
    exact keeps_nil hbeg
  · exact fun _ _ _ hkept hok hcall => kept_call hkept hok hcall

theorem returns_install_of_newer (etag : Option String) (hsound : Sound codec dir)
    (hsize : codec.size (codec.encode signed) ≤ maximumCachedBundleBytes)
    (hnewer : ∀ other, Cached codec dir other → other.generation < signed.generation) :
    Faulty.Returns (install codec signed etag) dir () := by
  suffices hwrite : installDecision (pointerTo codec signed signed.fileName etag) dir =
      .ok true from returns_install hsize hwrite
  unfold installDecision
  rcases hsound.pointer with habs | ⟨active, hact⟩
  · have hread : readPointer dir = .ok none := by
      unfold readPointer
      rw [habs]
    rw [hread, ok_bind]
  obtain ⟨cur, hread⟩ := hact.readPointer
  have hlt := hnewer active ⟨_, _, hact.held, codec.decode_encode active⟩
  rw [hread, ok_bind]
  show (if signed.generation < active.generation then _ else
    if signed.generation = active.generation then _ else _) = _
  rw [if_neg (not_lt.2 hlt.le), if_neg hlt.ne']

/-! ### Durability -/

def plainCodec : ArtifactCodec SignedBundle where
  encode := id
  decode := some
  decode_encode _ := rfl
  digest := SignedBundle.signature
  size _ := 4096

/-- A bundle of this generation that is valid from its issue on for a thousand nanoseconds. -/
def sampleSigned (generation : UInt64) (issuedAt : Instant) : SignedBundle where
  bundle :=
    { manifest :=
        { schemaVersion := 1, formatVersion := 1, bundleId := 11#128, networkId := 2#128
          userId := 3#128, deviceId := 4#128, signingKeyId := 5#128, controllerInstanceId := 6#128
          generation, issuedAt, notBefore := issuedAt, refreshAfter := issuedAt
          offlineExpiresAt := issuedAt + 1000, minClientVersion := "0.1.0"
          accountStatus := .active, profiles := []
          selectionHints :=
            { minimumHoldSeconds := 60, latencyToleranceMilliseconds := 20, failureThreshold := 3 }
          replacement := none }
      encryptedProfiles := [] }
  signature := "signature"

def sampleVerifier : BundleVerifier where
  networkId := 2#128
  userId := 3#128
  deviceId := 4#128
  controllerInstanceId := 6#128
  signingKeyId := 5#128
  shapeValid _ := true
  recentEnough _ := some true
  signatureValid signed := signed.signature = "signature"
  payloadValid _ := true

def emptyDir (pointer : PointerFile) : CacheDir SignedBundle := ⟨pointer, [], List.Pairwise.nil⟩

/-- A directory whose pointer names the bundle, while its file cannot be read. -/
def damagedDir (signed : SignedBundle) : CacheDir SignedBundle where
  pointer := .contents (pointerTo plainCodec signed signed.fileName none)
  files := [(signed.fileName, none)]
  descending := List.pairwise_singleton _ _

theorem sound_emptyDir : Sound plainCodec (emptyDir .absent) where
  pointer := .inl rfl
  canonical _ _ _ hmem := by cases hmem

def firstInstalled : History SignedBundle :=
  History.after ⟨emptyDir .absent, []⟩
    (install plainCodec (sampleSigned 1 0) none ⟨emptyDir .absent, []⟩) fun _ => [sampleSigned 1 0]

theorem files_firstInstalled :
    firstInstalled.dir.files = [((sampleSigned 1 0).fileName, some (sampleSigned 1 0))] ∧
      firstInstalled.uses = [sampleSigned 1 0] := by decide +kernel

end RealityConsole.Client
