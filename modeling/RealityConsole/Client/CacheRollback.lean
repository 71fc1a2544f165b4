import RealityConsole.Client.CacheHistory

/-!
# Rollback of the bundle cache

A recovery takes an artifact outside its window, or one whose read fails, for a damaged one and
deletes newer ones, so a clock that is wrong once makes the client use an older generation. A call
is settled if that cannot happen.
-/

namespace RealityConsole.Client

open Framework Protocol

variable {Bytes : Type} {codec : ArtifactCodec Bytes} {verifier : BundleVerifier}

def Authentic (verifier : BundleVerifier) (signed : SignedBundle) : Prop :=
  ∃ t, verifier.Verifies signed t

def NewestIn (codec : ArtifactCodec Bytes) (verifier : BundleVerifier) (dir : CacheDir Bytes)
    (signed : SignedBundle) : Prop :=
  ∀ other, Cached codec dir other → Authentic verifier other → other.generation ≤ signed.generation

/-- An installation of the newest bundle, or a recovery that reads nothing that verifies, or one
while the newest authentic artifact verifies and is the active one, which is read, or, without a
pointer, the only one. -/
def SettledCall (codec : ArtifactCodec Bytes) (verifier : BundleVerifier) (w : History Bytes) :
    CacheCall → Prop
  | .install signed _ _ _ => ∀ other, Cached codec w.dir other → Authentic verifier other →
      other.generation ≤ signed.generation ∨ AtLeast codec w.dir other.generation
  | .recover now failed _ =>
    (∀ other, Cached codec (w.dir.seen failed) other → ¬ verifier.Verifies other now) ∨
      ∃ newest, verifier.Verifies newest now ∧ NewestIn codec verifier w.dir newest ∧
        (Active codec w.dir newest ∧ Active codec (w.dir.seen failed) newest ∨
          w.dir.pointer = .absent ∧ ∀ other, Cached codec w.dir other → Authentic verifier other →
            other = newest)

theorem timely_of_settled {w : History Bytes} {call : CacheCall}
    (h : SettledCall codec verifier w call) : TimelyCall codec verifier w call := by
  cases call with
  | install signed etag verifiedAt faults => trivial
  | recover now failed faults =>
    rcases h with hnone | ⟨newest, hverify, -, ⟨hact, hseen⟩ | ⟨habs, -⟩⟩
    · exact .inr hnone
    · refine .inl ?_
      intro active hoth
      rw [hoth.unique hact]
      exact ⟨hseen, hverify⟩
    · refine .inl ?_
      intro active hoth
      obtain ⟨_, hpointer⟩ := hoth.pointer
      rw [habs] at hpointer
      cases hpointer

/-! ### What a call deletes -/

/-- A recovery keeps all files until the pointer names what it has found. -/
theorem spec_recover_files {dir : CacheDir Bytes} {now : Instant} {failed : FailedReads}
    (hsound : Sound codec dir) :
    Faulty.Spec (· = dir) (recover codec verifier now failed)
      (fun after => after.files = dir.files ∨ ∃ found,
        pick codec verifier now (dir.seen failed) = some found ∧ Active codec after found.signed)
      fun _ _ => True := by
  apply Faulty.Spec.bind
    (Q := fun picked after => after = dir ∧ pick codec verifier now (dir.seen failed) = picked)
  · apply Faulty.spec_inspect
    · rintro _ rfl
      exact .inl rfl
    · rintro _ picked rfl hpicked
      exact ⟨rfl, Except.ok.inj hpicked⟩
  intro picked
  cases picked with
  | none =>
    apply Faulty.spec_pure
    · rintro _ ⟨rfl, -⟩
      exact .inl rfl
    · exact fun _ _ => trivial
  | some found =>
    apply Faulty.Spec.bind (Q := fun _ after =>
      pick codec verifier now (dir.seen failed) = some found ∧ found.name = found.signed.fileName ∧
      Active codec after found.signed)
    · unfold repoint
      by_cases hact : found.active = true
      · rw [if_pos hact]
        apply Faulty.spec_pure
        · rintro _ ⟨rfl, -⟩
          exact .inl rfl
        · rintro _ ⟨rfl, hpick⟩
          obtain ⟨hname, -, hflag, -⟩ := found_cases hsound hpick
          exact ⟨hpick, hname, hflag hact⟩
      · rw [if_neg hact]
        apply Faulty.spec_effect
        · rintro _ ⟨rfl, -⟩
          exact .inl rfl
        · rintro _ ⟨rfl, -⟩
          exact .inl rfl
        · rintro _ ⟨rfl, hpick⟩
          obtain ⟨hname, hheld, -, -⟩ := found_cases hsound hpick
          exact ⟨hpick, hname, ⟨found.etag, by rw [hname]; rfl⟩, hheld⟩
    rintro _ s ⟨hpick, hname, hact⟩
    have hcleanUp := (spec_cleanUp (P := fun after => Active codec after found.signed) hname
      (fun _ h _ hoth => h.remove hoth) s hact).1
    exact ⟨.inr ⟨found, hpick, hcleanUp⟩, fun _ _ => trivial⟩

variable {w after : History Bytes}

/-- A settled recovery deletes no artifact that is newer than the active bundle. -/
theorem recover_deletes {now : Instant} {failed : FailedReads} {faults : List Fault}
    (hsound : Sound codec w.dir) (hok : SettledCall codec verifier w (.recover now failed faults))
    (h : w.call codec verifier (.recover now failed faults) = some after) {other : SignedBundle}
    (hcached : Cached codec w.dir other) (hauth : Authentic verifier other) :
    Cached codec after.dir other ∨ AtLeast codec after.dir other.generation := by
  cases h
  have hspec : Faulty.Spec _ (recover codec verifier now failed) _ _ := spec_recover_files hsound
  rcases (hspec ⟨w.dir, faults⟩ rfl).1 with hsame | ⟨found, hpick, hact⟩
  · obtain ⟨name, bs, hmem, hdec⟩ := hcached
    exact .inl ⟨name, bs, hsame ▸ hmem, hdec⟩
  refine .inr ⟨found.signed, hact, ?_⟩
  obtain ⟨-, hheld, -, htimely⟩ := found_cases hsound hpick
  obtain ⟨bytes, hread, hdecode, hverify, -⟩ := pick_eq_some hpick
  have hfound : Cached codec w.dir found.signed := ⟨_, _, hheld, codec.decode_encode found.signed⟩
  -- what was found is the newest
  rcases hok with hnone | ⟨newest, hnow, hnewest, hcase⟩
  · exact absurd hverify (hnone _ ⟨_, _, hread, hdecode⟩)
  have hsame : newest = found.signed := by
    rcases hcase with ⟨hact, hseen⟩ | ⟨-, honly⟩
    · refine htimely (.inl ?_) newest hact
      intro active hoth
      rw [hoth.unique hact]
      exact ⟨hseen, hnow⟩
    · exact (honly _ hfound ⟨now, hverify⟩).symm
  exact hsame ▸ hnewest other hcached hauth

/-- A settled installation deletes no artifact that is newer than the active bundle. -/
theorem install_deletes {signed : SignedBundle} {etag : Option String} {verifiedAt : Instant}
    {faults : List Fault} (hsound : Sound codec w.dir)
    (hok : SettledCall codec verifier w (.install signed etag verifiedAt faults))
    (h : w.call codec verifier (.install signed etag verifiedAt faults) = some after)
    {other : SignedBundle} (hcached : Cached codec w.dir other) (hauth : Authentic verifier other) :
    Cached codec after.dir other ∨ AtLeast codec after.dir other.generation ∨
    Holds codec after.dir signed ∧ signed.fileName = other.fileName := by
  rcases hok other hcached hauth with hle | hatLeast
  · obtain ⟨-, haft⟩ := Option.ite_none_right_eq_some.1 h
    cases haft
    have hcut : Cut codec w.dir signed _ :=
      (spec_install_cut w.dir signed etag ⟨w.dir, faults⟩ rfl).1
    show Cached codec (install codec signed etag ⟨w.dir, faults⟩).1.state other ∨ _
    show _ ∨ AtLeast codec (install codec signed etag ⟨w.dir, faults⟩).1.state _ ∨ _
    show _ ∨ _ ∨ Holds codec (install codec signed etag ⟨w.dir, faults⟩).1.state _ ∧ _
    generalize (install codec signed etag ⟨w.dir, faults⟩).1.state = dir at hcut
    cases hcut with
    | before => exact .inl hcached
    | active _ hact => exact .inr (.inl ⟨signed, hact, hle⟩)
    | written pointer hread holder =>
      obtain ⟨name, bs, hmem, hdec⟩ := hcached
      by_cases hname : name = signed.fileName
      · obtain ⟨-, hown⟩ := hsound.canonical _ _ _ hmem hdec
        exact .inr (.inr ⟨mem_putFile_self _ _ _, hname.symm.trans hown⟩)
      · exact .inl ⟨name, bs, mem_putFile_of_ne hmem hname, hdec⟩
  · -- what the active bundle outdates stays outdated
    have hkeep : Keeps codec [other.generation] w.dir := by
      refine ⟨hsound, ?_⟩
      intro generation hgen
      rwa [List.mem_singleton.1 hgen]
    exact .inr (.inl ((install_step hkeep h).1.atLeast _ (List.mem_singleton_self _)))

/-! ### Histories of settled calls -/

def Ascending (w : History Bytes) : Prop :=
  w.uses.Pairwise fun later earlier => earlier.generation ≤ later.generation

theorem ascending_call {call : CacheCall} (hkept : Kept codec w)
    (hasc : Ascending w) (hok : SettledCall codec verifier w call)
    (h : w.call codec verifier call = some after) : Ascending after := by
  obtain ⟨hkeep, huses⟩ := timely_step hkept (timely_of_settled hok) h
  unfold Ascending
  rcases huses with hsame | ⟨signed, hnew, active, hact, hgen⟩
  · rw [hsame]
    exact hasc
  rw [hnew]
  refine List.pairwise_cons.2 ⟨?_, hasc⟩
  intro earlier hearlier
  have hle := hkeep.le_active hact _ (List.mem_map_of_mem hearlier)
  rwa [hgen] at hle

theorem ascending_of_run {start : CacheDir Bytes} {w : History Bytes} (hbeg : Sound codec start)
    (h : (cacheHistory codec verifier start).Run (SettledCall codec verifier) w) : Ascending w := by
  have hinvariant : Kept codec w ∧ Ascending w := by
    apply Machine.Run.invariant (I := fun w => Kept codec w ∧ Ascending w) h
    · rintro _ rfl
      exact ⟨keeps_nil hbeg, List.Pairwise.nil⟩
    · rintro a call b ⟨hkept, hasc⟩ hok hcall
      exact ⟨kept_call hkept (timely_of_settled hok) hcall, ascending_call hkept hasc hok hcall⟩
  exact hinvariant.2

def secondInstalled : History SignedBundle :=
  firstInstalled.after
    (install plainCodec (sampleSigned 2 300) none ⟨firstInstalled.dir, []⟩)
    fun _ => [sampleSigned 2 300]

end RealityConsole.Client
