import RealityConsole.Client.BundleCache
import RealityConsole.Framework.Machine

/-!
# Durability of the bundle cache

In a sound directory the pointer is absent or names a file that holds its artifact, and every
artifact lies under its own name. Installations and recoveries keep a directory sound wherever they
are cut off, and from it a newer bundle can always be installed.
-/

namespace RealityConsole.Client

open Framework Protocol

variable {Bytes : Type} {codec : ArtifactCodec Bytes} {verifier : BundleVerifier}

/-! ### Files -/

theorem mem_putFile_self (name : String) (content : Option Bytes) (files : Files Bytes) :
    (name, content) ∈ putFile name content files := by
  induction files with
  | nil => exact List.mem_singleton_self _
  | cons first rest ih =>
    unfold putFile
    split
    · exact .head _
    split
    · exact .head _
    · exact .tail _ ih

variable {files : Files Bytes} {name : String}
  {entry : String × Option Bytes}

theorem mem_putFile_of_ne {content : Option Bytes} (h : entry ∈ files) (hname : entry.1 ≠ name) :
    entry ∈ putFile name content files := by
  induction files with
  | nil => cases h
  | cons first rest ih =>
    unfold putFile
    split
    · rename_i hsame
      rcases List.mem_cons.1 h with rfl | hrest
      · exact absurd hsame.symm hname
      · exact .tail _ hrest
    split
    · exact .tail _ h
    rcases List.mem_cons.1 h with rfl | hrest
    · exact .head _
    · exact .tail _ (ih hrest)

variable {dir : CacheDir Bytes}

theorem CacheDir.eq_of_name {a b : String × Option Bytes}
    (ha : a ∈ dir.files) (hb : b ∈ dir.files) (hname : a.1 = b.1) : a = b := by
  have hdesc := dir.descending
  generalize dir.files = files at ha hb hdesc
  induction files with
  | nil => cases ha
  | cons first rest ih =>
    obtain ⟨hfirst, hrest⟩ := List.pairwise_cons.1 hdesc
    rcases List.mem_cons.1 ha with rfl | hatail
    · rcases List.mem_cons.1 hb with rfl | hbtail
      · rfl
      · exact absurd hname.symm (ne_of_lt (hfirst b hbtail))
    · rcases List.mem_cons.1 hb with rfl | hbtail
      · exact absurd hname (ne_of_lt (hfirst a hatail))
      · exact ih hatail hbtail hrest

theorem CacheDir.mem_remove :
    entry ∈ (dir.remove name).files ↔ entry ∈ dir.files ∧ entry.1 ≠ name := by
  show entry ∈ dir.files.filter _ ↔ _
  rw [List.mem_filter, decide_eq_true_eq]

/-! ### Sound directories -/

def Holds (codec : ArtifactCodec Bytes) (dir : CacheDir Bytes) (signed : SignedBundle) : Prop :=
  (signed.fileName, some (codec.encode signed)) ∈ dir.files

structure Active (codec : ArtifactCodec Bytes) (dir : CacheDir Bytes) (signed : SignedBundle) :
    Prop where
  pointer : ∃ etag, dir.pointer = .contents (pointerTo codec signed signed.fileName etag)
  held : Holds codec dir signed

/-- A file that can be decoded is one that an installation writes. -/
def Canonical (codec : ArtifactCodec Bytes) (dir : CacheDir Bytes) : Prop :=
  ∀ name bytes signed, (name, some bytes) ∈ dir.files → codec.decode bytes = some signed →
    bytes = codec.encode signed ∧ name = signed.fileName

structure Sound (codec : ArtifactCodec Bytes) (dir : CacheDir Bytes) : Prop where
  pointer : dir.pointer = .absent ∨ ∃ signed, Active codec dir signed
  canonical : Canonical codec dir

variable {signed : SignedBundle}

theorem readPointer_pointerTo {etag : Option String}
    (h : dir.pointer = .contents (pointerTo codec signed signed.fileName etag)) :
    readPointer dir = .ok (some (pointerTo codec signed signed.fileName etag)) := by
  unfold readPointer
  rw [h]
  have hval : ¬ ((pointerTo codec signed signed.fileName etag).version ≠ cacheVersion ∨
      (pointerTo codec signed signed.fileName etag).file ≠
        bundleFileName (pointerTo codec signed signed.fileName etag).generation
          (pointerTo codec signed signed.fileName etag).bundleId) := by
    rintro (hvers | hfile)
    · exact hvers rfl
    · exact hfile rfl
  exact if_neg hval

theorem Active.readPointer (h : Active codec dir signed) :
    ∃ etag, Client.readPointer dir = .ok (some (pointerTo codec signed signed.fileName etag)) := by
  obtain ⟨etag, hpointer⟩ := h.pointer
  exact ⟨etag, readPointer_pointerTo hpointer⟩

theorem Active.remove (h : Active codec dir signed) (hname : name ≠ signed.fileName) :
    Active codec (dir.remove name) signed where
  pointer := h.pointer
  held := CacheDir.mem_remove.2 ⟨h.held, hname.symm⟩

theorem Canonical.remove (h : Canonical codec dir) : Canonical codec (dir.remove name) := by
  intro other bytes signed hmem hdec
  exact h other bytes signed (CacheDir.mem_remove.1 hmem).1 hdec

theorem Canonical.put (h : Canonical codec dir) :
    Canonical codec (dir.put signed.fileName (some (codec.encode signed))) := by
  intro name bytes other hmem hdec
  rcases mem_putFile hmem with hnew | hold
  · obtain ⟨rfl, hbs⟩ := Prod.mk.inj hnew
    cases hbs
    rw [codec.decode_encode] at hdec
    cases hdec
    exact ⟨rfl, rfl⟩
  · exact h name bytes other hold hdec

theorem Active.put {active signed : SignedBundle}
    (h : Active codec dir active) (hgen : active.generation ≠ signed.generation) :
    Active codec (dir.put signed.fileName (some (codec.encode signed))) active where
  pointer := h.pointer
  held := by
    apply mem_putFile_of_ne h.held
    intro hname
    exact hgen (bundleFileName_inj hname).1

/-! ### Deleting files -/

variable {P : CacheDir Bytes → Prop}

theorem spec_deleteFiles {names : List String}
    (h : ∀ dir, P dir → ∀ name ∈ names, P (dir.remove name)) :
    Faulty.Spec P (deleteFiles names) P fun _ => P := by
  induction names with
  | nil => exact Faulty.spec_pure () (fun _ hdir => hdir) fun _ hdir => hdir
  | cons name rest ih =>
    apply Faulty.Spec.bind (Q := fun _ => P)
    · apply Faulty.spec_effect
      · exact fun _ hdir => hdir
      · exact fun dir hdir => h dir hdir name List.mem_cons_self
      · exact fun dir hdir => h dir hdir name List.mem_cons_self
    · intro _
      exact ih fun dir hdir other hoth => h dir hdir other (.tail _ hoth)

theorem ne_of_mem_superseded {active name : String}
    (h : name ∈ superseded active files) : name ≠ active := by
  have hmem := List.mem_of_mem_drop h
  exact of_decide_eq_true (List.mem_filter.1 hmem).2

/-- What survives the removal of any file but the active one survives pruning. -/
theorem spec_prune {active : String}
    (h : ∀ dir, P dir → ∀ name, name ≠ active → P (dir.remove name)) :
    Faulty.Spec P (prune active) P fun _ => P := by
  apply Faulty.Spec.bind (Q := fun names dir => P dir ∧ ∀ name ∈ names, name ≠ active)
  · apply Faulty.spec_inspect
    · exact fun _ hdir => hdir
    · rintro dir names hdir hnames
      cases hnames
      exact ⟨hdir, fun name hname => ne_of_mem_superseded hname⟩
  · intro names s hs
    obtain ⟨hdir, hnames⟩ := hs
    refine Faulty.Spec.bind (Q := fun _ => P) (spec_deleteFiles ?_) ?_ s hdir
    · exact fun dir hdir name hname => h dir hdir name (hnames name hname)
    · intro _
      exact Faulty.spec_effect _ _ (fun _ hdir => hdir) (fun _ hdir => hdir) fun _ hdir => hdir

/-- What survives the removal of any file whose name has a greater generation survives the removal
of newer files. -/
theorem spec_removeNewerThan {gen : Nat}
    (h : ∀ dir, P dir → ∀ name, (generationFromName name).any (gen < ·) →
      P (dir.remove name)) :
    Faulty.Spec P (removeNewerThan gen) P fun _ => P := by
  apply Faulty.Spec.bind (Q := fun names dir => P dir ∧
    ∀ name ∈ names, (generationFromName name).any (gen < ·) = true)
  · apply Faulty.spec_inspect
    · exact fun _ hdir => hdir
    · rintro dir names hdir hnames
      cases hnames
      exact ⟨hdir, fun name hname => (List.mem_filter.1 hname).2⟩
  · intro names s hs
    obtain ⟨hdir, hnames⟩ := hs
    exact spec_deleteFiles (fun dir hdir name hname => h dir hdir name (hnames name hname)) s hdir

theorem fileName_not_newer (h : (generationFromName name).any (signed.generation < ·)) :
    name ≠ signed.fileName := by
  rintro rfl
  obtain ⟨g, hg, hlt⟩ := (Option.any_eq_true _ _).mp h
  rw [generationFromName_bundleFileName hg] at hlt
  exact absurd (of_decide_eq_true hlt) (lt_irrefl _)

/-! ### What a recovery finds -/

variable {found : Recovered} {now : Instant}
  {file : String × Option Bytes} {pointer : Option ActivePointer}

theorem tryFile_eq_some (h : tryFile codec verifier pointer now file = some found) :
    ∃ bs, file = (found.name, some bs) ∧ codec.decode bs = some found.signed ∧
      verifier.Verifies found.signed now ∧
      (found.active = true ↔ ∃ p, pointer = some p ∧ p.file = found.name) := by
  obtain ⟨bs, hbs, h⟩ := Option.bind_eq_some_iff.1 h
  dsimp only at hbs h
  split at h
  · cases h
  obtain ⟨signed, hsigned, h⟩ := Option.bind_eq_some_iff.1 h
  obtain ⟨hverify, h⟩ := Option.ite_none_right_eq_some.1 h
  cases h
  refine ⟨bs, by rw [← hbs], hsigned, hverify, ?_⟩
  cases pointer with
  | none => simp
  | some p => simp [Option.filter]

theorem mem_of_mem_candidates (h : file ∈ candidates pointer files) : file ∈ files := by
  cases pointer with
  | none => exact h
  | some p =>
    rcases List.mem_append.1 h with h | h
    · exact (List.mem_filter.1 h).1
    · exact (List.mem_filter.1 h).1

theorem pick_eq_some (h : pick codec verifier now dir = some found) :
    ∃ bs, (found.name, some bs) ∈ dir.files ∧ codec.decode bs = some found.signed ∧
      verifier.Verifies found.signed now ∧
      (found.active = true ↔ ∃ p, (readPointer dir).toOption.join = some p ∧
        p.file = found.name) := by
  obtain ⟨file, hfile, htryFile⟩ := List.exists_of_findSome?_eq_some h
  obtain ⟨bs, rfl, hdec, hverify, hact⟩ := tryFile_eq_some htryFile
  exact ⟨bs, mem_of_mem_candidates hfile, hdec, hverify, hact⟩

variable {failed : FailedReads}

/-- What a recovery reads lies in the directory. -/
theorem mem_of_mem_seen {name : String} {bytes : Bytes}
    (h : (name, some bytes) ∈ (dir.seen failed).files) : (name, some bytes) ∈ dir.files := by
  obtain ⟨⟨name', content⟩, hmem, heq⟩ := List.mem_map.1 h
  obtain ⟨rfl, hcontent⟩ := Prod.mk.inj heq
  split at hcontent
  · cases hcontent
  · exact hcontent ▸ hmem

theorem readPointer_of_seen {p : ActivePointer}
    (h : (readPointer (dir.seen failed)).toOption.join = some p) :
    (readPointer dir).toOption.join = some p := by
  obtain ⟨pointer, files⟩ := failed
  cases pointer with
  | true => cases h
  | false => exact h

theorem CacheDir.seen_none : dir.seen .none = dir := by
  cases dir
  simp [CacheDir.seen, FailedReads.none]

theorem Active.pick (h : Active codec dir signed) (hverify : verifier.Verifies signed now) :
    ∃ etag, Client.pick codec verifier now dir =
      some { name := signed.fileName, signed, active := true, etag } := by
  obtain ⟨etag, hpointer⟩ := h.readPointer
  refine ⟨etag, ?_⟩
  unfold Client.pick
  rw [hpointer]
  show ((dir.files.filter fun file => file.1 = signed.fileName) ++
    dir.files.filter fun file => file.1 ≠ signed.fileName).findSome? _ = _
  have hmem : (signed.fileName, some (codec.encode signed)) ∈ dir.files.filter fun file => file.1 =
    signed.fileName := List.mem_filter.2 ⟨h.held, decide_eq_true rfl⟩
  obtain ⟨first, rest, hfirst⟩ := List.exists_cons_of_ne_nil (List.ne_nil_of_mem hmem)
  -- every file under the name of the active one is the active one
  have heq : first = (signed.fileName, some (codec.encode signed)) := by
    have hin : first ∈ dir.files.filter fun file => file.1 = signed.fileName :=
      hfirst ▸ List.mem_cons_self
    obtain ⟨hfiles, hname⟩ := List.mem_filter.1 hin
    exact CacheDir.eq_of_name hfiles h.held (of_decide_eq_true hname)
  have htryFile : tryFile codec verifier (some (pointerTo codec signed signed.fileName etag)) now
      (signed.fileName, some (codec.encode signed)) =
      some { name := signed.fileName, signed, active := true, etag } := by
    simp [tryFile, pointerTo, Option.filter, codec.decode_encode, hverify]
  rw [hfirst, heq, List.cons_append, List.findSome?_cons]
  simp only [Except.toOption, Option.join_some, htryFile]

/-! ### Installations -/

def ActiveAt (codec : ArtifactCodec Bytes) (dir : CacheDir Bytes) (generation : Nat) : Prop :=
  ∃ signed, Active codec dir signed ∧ signed.generation = generation

def AtLeast (codec : ArtifactCodec Bytes) (dir : CacheDir Bytes) (generation : Nat) : Prop :=
  ∃ signed, Active codec dir signed ∧ generation ≤ signed.generation

theorem Active.unique {a b : SignedBundle} (ha : Active codec dir a)
    (hb : Active codec dir b) : a = b := by
  obtain ⟨etag, hpointer⟩ := ha.pointer
  obtain ⟨etag', hpointer'⟩ := hb.pointer
  have hsame := PointerFile.contents.inj (hpointer.symm.trans hpointer')
  have hfile : a.fileName = b.fileName := congrArg ActivePointer.file hsame
  have hent := CacheDir.eq_of_name ha.held hb.held hfile
  have hbs := congrArg codec.decode (Option.some.inj (congrArg Prod.snd hent))
  rw [codec.decode_encode, codec.decode_encode] at hbs
  exact Option.some.inj hbs

/-- An installation writes if there is no pointer or an older active bundle, and does nothing if the
active bundle has the same generation. -/
theorem installDecision_ok {etag : Option String} {write : Bool} (hsound : Sound codec dir)
    (h : installDecision (pointerTo codec signed signed.fileName etag) dir = .ok write) :
    (write → ∀ active, Active codec dir active → active.generation < signed.generation) ∧
      (write = false → ActiveAt codec dir signed.generation) := by
  rcases hsound.pointer with habs | ⟨active, hact⟩
  · have hread : readPointer dir = .ok none := by
      unfold readPointer
      rw [habs]
    have hwrite : write = true := by
      unfold installDecision at h
      rw [hread, ok_bind] at h
      exact (Except.ok.inj h).symm
    refine ⟨fun _ active hact => ?_, fun hfiles => ?_⟩
    · obtain ⟨_, hpointer⟩ := hact.pointer
      rw [habs] at hpointer
      cases hpointer
    · rw [hwrite] at hfiles
      cases hfiles
  · obtain ⟨etag', hread⟩ := hact.readPointer
    unfold installDecision at h
    rw [hread, ok_bind] at h
    replace h : (if signed.generation < active.generation then .error CacheError.generationRollback
        else if signed.generation = active.generation then
          if signed.bundleId = active.bundleId ∧
              codec.digest (codec.encode signed) = codec.digest (codec.encode active) then .ok false
          else .error CacheError.generationConflict
        else .ok true) = Except.ok write := h
    by_cases hback : signed.generation < active.generation
    · rw [if_pos hback] at h
      cases h
    rw [if_neg hback] at h
    by_cases heq : signed.generation = active.generation
    · rw [if_pos heq] at h
      split at h
      · cases h
        refine ⟨fun hfiles => ?_, fun _ => ⟨active, hact, heq.symm⟩⟩
        cases hfiles
      · cases h
    · rw [if_neg heq] at h
      cases h
      refine ⟨fun _ other hoth => ?_, fun hfiles => ?_⟩
      · obtain rfl := hoth.unique hact
        omega
      · cases hfiles

/-- The directory is sound and its active bundle is at least of these generations. -/
structure Keeps (codec : ArtifactCodec Bytes) (generations : List Nat) (dir : CacheDir Bytes) :
    Prop where
  sound : Sound codec dir
  atLeast : ∀ generation ∈ generations, AtLeast codec dir generation

variable {generations : List Nat}

theorem Keeps.le_active {active : SignedBundle}
    (h : Keeps codec generations dir) (hact : Active codec dir active) :
    ∀ generation ∈ generations, generation ≤ active.generation := by
  intro generation hgen
  obtain ⟨other, hoth, hle⟩ := h.atLeast generation hgen
  rwa [hoth.unique hact] at hle

theorem keeps_of_active (hcanon : Canonical codec dir) (hact : Active codec dir signed)
    (hgens : ∀ generation ∈ generations, generation ≤ signed.generation) :
    Keeps codec generations dir where
  sound := ⟨.inr ⟨signed, hact⟩, hcanon⟩
  atLeast generation hgen := ⟨signed, hact, hgens generation hgen⟩

/-- Pruning and removing newer files keep the active bundle. -/
theorem keeps_remove (h : Keeps codec generations dir ∧ Active codec dir signed)
    (hname : name ≠ signed.fileName) :
    Keeps codec generations (dir.remove name) ∧ Active codec (dir.remove name) signed := by
  obtain ⟨hkeep, hact⟩ := h
  have haft := hact.remove hname
  exact ⟨keeps_of_active hkeep.sound.canonical.remove haft (hkeep.le_active hact), haft⟩

theorem spec_install (generations : List Nat) (signed : SignedBundle) (etag : Option String) :
    Faulty.Spec (Keeps codec generations) (install codec signed etag) (Keeps codec generations)
      fun _ dir => Keeps codec generations dir ∧ ActiveAt codec dir signed.generation := by
  apply Faulty.Spec.bind (Q := fun _ => Keeps codec generations)
  · exact Faulty.spec_refuseWhen _ (fun _ h => h) fun _ h _ => h
  intro _
  apply Faulty.Spec.bind (Q := fun write dir => Keeps codec generations dir ∧
    (write = true → ∀ active, Active codec dir active → active.generation < signed.generation) ∧
    (write = false → ActiveAt codec dir signed.generation))
  · apply Faulty.spec_inspect
    · exact fun _ h => h
    · exact fun dir write hkeep hwrite => ⟨hkeep, installDecision_ok hkeep.sound hwrite⟩
  intro write
  cases write with
  | false =>
    apply Faulty.spec_pure
    · exact fun _ h => h.1
    · exact fun _ h => ⟨h.1, h.2.2 rfl⟩
  | true =>
    -- the file is written beside the active one, and only then does the pointer move
    have hput : ∀ dir : CacheDir Bytes, Keeps codec generations dir ∧
        (∀ active, Active codec dir active → active.generation < signed.generation) →
        Keeps codec generations (dir.put signed.fileName (some (codec.encode signed))) ∧
        ∀ generation ∈ generations, generation ≤ signed.generation := by
      rintro dir ⟨hkeep, holder⟩
      refine ⟨⟨⟨?_, hkeep.sound.canonical.put⟩, ?_⟩, ?_⟩
      · rcases hkeep.sound.pointer with habs | ⟨active, hact⟩
        · exact .inl habs
        · exact .inr ⟨active, hact.put (holder active hact).ne⟩
      · intro generation hgen
        obtain ⟨active, hact, hle⟩ := hkeep.atLeast generation hgen
        exact ⟨active, hact.put (holder active hact).ne, hle⟩
      · intro generation hgen
        obtain ⟨active, hact, hle⟩ := hkeep.atLeast generation hgen
        exact hle.trans (holder active hact).le
    have hpoint : ∀ dir : CacheDir Bytes, (Keeps codec generations dir ∧
        ∀ generation ∈ generations, generation ≤ signed.generation) ∧ Holds codec dir signed →
        Keeps codec generations (dir.point (pointerTo codec signed signed.fileName etag)) ∧
        Active codec (dir.point (pointerTo codec signed signed.fileName etag)) signed := by
      rintro dir ⟨⟨hkeep, hgens⟩, hheld⟩
      have hact : Active codec (dir.point (pointerTo codec signed signed.fileName etag))
          signed := ⟨⟨etag, rfl⟩, hheld⟩
      exact ⟨keeps_of_active hkeep.sound.canonical hact hgens, hact⟩
    apply Faulty.Spec.bind (Q := fun _ dir => (Keeps codec generations dir ∧
      ∀ generation ∈ generations, generation ≤ signed.generation) ∧ Holds codec dir signed)
    · apply Faulty.spec_effect
      · exact fun _ h => h.1
      · exact fun dir h => (hput dir ⟨h.1, h.2.1 rfl⟩).1
      · exact fun dir h => ⟨hput dir ⟨h.1, h.2.1 rfl⟩, mem_putFile_self _ _ _⟩
    intro _
    apply Faulty.Spec.bind (Q := fun _ dir => Keeps codec generations dir ∧ Active codec dir signed)
    · apply Faulty.spec_effect
      · exact fun _ h => h.1.1
      · exact fun dir h => (hpoint dir h).1
      · exact hpoint
    intro _
    have hprune : Faulty.Spec (fun dir => Keeps codec generations dir ∧ Active codec dir signed)
      (prune signed.fileName) (fun dir => Keeps codec generations dir ∧ Active codec dir signed) fun
      _ dir => Keeps codec generations dir ∧ Active codec dir signed := spec_prune fun dir h name
      hname => keeps_remove h hname
    exact hprune.weaken (fun _ h => h) (fun _ h => h.1) fun _ _ h => ⟨h.1, signed, h.2, rfl⟩

/-! ### Recoveries -/

def Cached (codec : ArtifactCodec Bytes) (dir : CacheDir Bytes) (signed : SignedBundle) : Prop :=
  ∃ name bytes, (name, some bytes) ∈ dir.files ∧ codec.decode bytes = some signed

def Reads (codec : ArtifactCodec Bytes) (verifier : BundleVerifier) (dir : CacheDir Bytes)
    (now : Instant) (failed : FailedReads) : Prop :=
  ∀ signed, Active codec dir signed →
    Active codec (dir.seen failed) signed ∧ verifier.Verifies signed now

def Timely (codec : ArtifactCodec Bytes) (verifier : BundleVerifier) (dir : CacheDir Bytes)
    (now : Instant) (failed : FailedReads) : Prop :=
  Reads codec verifier dir now failed ∨
    ∀ signed, Cached codec (dir.seen failed) signed → ¬ verifier.Verifies signed now

/-- What is found in a sound directory lies in its own file; in a timely recovery it is the active
bundle if there is one. -/
theorem found_cases (hsound : Sound codec dir)
    (h : pick codec verifier now (dir.seen failed) = some found) :
    found.name = found.signed.fileName ∧ Holds codec dir found.signed ∧
      (found.active → Active codec dir found.signed) ∧
      (Timely codec verifier dir now failed →
        ∀ active, Active codec dir active → active = found.signed) := by
  obtain ⟨bs, hseen, hdec, hverify, hact⟩ := pick_eq_some h
  have hmem := mem_of_mem_seen hseen
  obtain ⟨rfl, hname⟩ := hsound.canonical _ _ _ hmem hdec
  rw [hname] at hmem
  refine ⟨hname, hmem, ?_, ?_⟩
  · intro hflag
    obtain ⟨p, hp, hfile⟩ := hact.1 hflag
    replace hp := readPointer_of_seen hp
    rcases hsound.pointer with habs | ⟨active, hact⟩
    · have hread : readPointer dir = .ok none := by
        unfold readPointer
        rw [habs]
      rw [hread] at hp
      cases hp
    · obtain ⟨etag, hread⟩ := hact.readPointer
      rw [hread] at hp
      cases hp
      have hent := CacheDir.eq_of_name hact.held hmem (hfile.trans hname)
      have hbs := congrArg codec.decode (Option.some.inj (congrArg Prod.snd hent))
      rw [codec.decode_encode, codec.decode_encode] at hbs
      exact Option.some.inj hbs ▸ hact
  · rintro (htimely | hnone) active hact
    · obtain ⟨hshown, hnow⟩ := htimely active hact
      obtain ⟨etag, hpick⟩ := hshown.pick hnow
      rw [hpick] at h
      exact congrArg Recovered.signed (Option.some.inj h)
    · exact absurd hverify (hnone _ ⟨_, _, hseen, hdec⟩)

theorem spec_repoint (generations : List Nat) (now : Instant) (failed : FailedReads)
    (found : Recovered) :
    Faulty.Spec (fun dir => Keeps codec generations dir ∧
        (generations = [] ∨ Timely codec verifier dir now failed) ∧
        pick codec verifier now (dir.seen failed) = some found)
      (repoint codec found) (Keeps codec generations)
      fun _ dir => (Keeps codec generations dir ∧ Active codec dir found.signed) ∧
        found.name = found.signed.fileName := by
  -- the pointer moves to the file that was found
  have hmoved : ∀ dir : CacheDir Bytes, Keeps codec generations dir →
      found.name = found.signed.fileName → Holds codec dir found.signed →
      (∀ generation ∈ generations, generation ≤ found.signed.generation) →
      Keeps codec generations (dir.point (pointerTo codec found.signed found.name found.etag)) ∧
      Active codec (dir.point (pointerTo codec found.signed found.name found.etag))
        found.signed := by
    intro dir hdir hname hheld hgens
    have hnow : Active codec (dir.point (pointerTo codec found.signed found.name found.etag))
        found.signed := ⟨⟨found.etag, by rw [hname]; rfl⟩, hheld⟩
    exact ⟨keeps_of_active hdir.sound.canonical hnow hgens, hnow⟩
  have hfound : ∀ dir : CacheDir Bytes, Keeps codec generations dir ∧
      (generations = [] ∨ Timely codec verifier dir now failed) ∧
      pick codec verifier now (dir.seen failed) = some found →
      found.name = found.signed.fileName ∧ Holds codec dir found.signed ∧
      (found.active = true → Active codec dir found.signed) ∧
      ∀ generation ∈ generations, generation ≤ found.signed.generation := by
    rintro dir ⟨hkeep, hguard, hpick⟩
    obtain ⟨hname, hheld, hflag, htimely⟩ := found_cases hkeep.sound hpick
    refine ⟨hname, hheld, hflag, ?_⟩
    intro generation hgen
    rcases hguard with hemp | hguard
    · rw [hemp] at hgen
      cases hgen
    · obtain ⟨active, hact, hle⟩ := hkeep.atLeast generation hgen
      rwa [htimely hguard active hact] at hle
  unfold repoint
  by_cases hact : found.active = true
  · rw [if_pos hact]
    apply Faulty.spec_pure
    · exact fun _ h => h.1
    · intro dir h
      obtain ⟨hname, _, hflag, _⟩ := hfound dir h
      exact ⟨⟨h.1, hflag hact⟩, hname⟩
  · rw [if_neg hact]
    apply Faulty.spec_effect
    · exact fun _ h => h.1
    · intro dir h
      obtain ⟨hname, hheld, _, hgens⟩ := hfound dir h
      exact (hmoved dir h.1 hname hheld hgens).1
    · intro dir h
      obtain ⟨hname, hheld, _, hgens⟩ := hfound dir h
      exact ⟨hmoved dir h.1 hname hheld hgens, hname⟩

/-- What survives the removal of any file but the one that was found survives the end of a
recovery. -/
theorem spec_cleanUp (hname : found.name = found.signed.fileName)
    (h : ∀ dir, P dir → ∀ name, name ≠ found.signed.fileName → P (dir.remove name)) :
    Faulty.Spec P
      (do
        removeNewerThan found.signed.generation
        prune found.name
        return some found)
      P fun result dir => result = some found ∧ P dir := by
  rw [hname]
  apply Faulty.Spec.bind (Q := fun _ => P)
  · exact spec_removeNewerThan fun dir hdir name hnew => h dir hdir name (fileName_not_newer hnew)
  intro _
  apply Faulty.Spec.bind (Q := fun _ => P)
  · exact spec_prune h
  intro _
  exact Faulty.spec_pure _ (fun _ hdir => hdir) fun _ hdir => ⟨rfl, hdir⟩

theorem spec_recover (generations : List Nat) (now : Instant) (failed : FailedReads) :
    Faulty.Spec (fun dir => Keeps codec generations dir ∧
        (generations = [] ∨ Timely codec verifier dir now failed))
      (recover codec verifier now failed) (Keeps codec generations)
      fun result dir => Keeps codec generations dir ∧
        ∀ found, result = some found → Active codec dir found.signed := by
  apply Faulty.Spec.bind (Q := fun picked dir => Keeps codec generations dir ∧
    (generations = [] ∨ Timely codec verifier dir now failed) ∧
    pick codec verifier now (dir.seen failed) = picked)
  · apply Faulty.spec_inspect
    · exact fun _ h => h.1
    · exact fun dir picked h hpick => ⟨h.1, h.2, Except.ok.inj hpick⟩
  intro picked
  cases picked with
  | none =>
    apply Faulty.spec_pure
    · exact fun _ h => h.1
    · rintro dir ⟨hkeep, -⟩
      refine ⟨hkeep, ?_⟩
      rintro found hfound
      cases hfound
  | some found =>
    apply Faulty.Spec.bind (Q := fun _ dir => (Keeps codec generations dir ∧ Active codec dir
      found.signed) ∧ found.name = found.signed.fileName)
    · exact spec_repoint generations now failed found
    -- no file that goes away now is the active one
    rintro _ s ⟨hst, hname⟩
    obtain ⟨hstop, hres⟩ := spec_cleanUp (P := fun dir => Keeps codec generations dir ∧ Active codec
      dir found.signed) hname (fun _ hdir _ hoth => keeps_remove hdir hoth) s hst
    refine ⟨hstop.1, ?_⟩
    intro result hok
    obtain ⟨rfl, hkeep, hact⟩ := hres result hok
    refine ⟨hkeep, ?_⟩
    intro other hoth
    cases hoth
    exact hact

end RealityConsole.Client
