import RealityConsole.RelayProvisioning.RouteStore
import RealityConsole.RelayRotation.Loading

/-!
# What is left in the managed route directory

Documents appear under their final names only by a rename, so such a file is complete. A crash can
leave a temporary file behind; no later call looks for it, and the relay refuses the directory from
then on.
-/

namespace RealityConsole.RouteStore

open Framework Protocol Controller RelayServer RelayProvisioning

variable {codec : RouteCodec} {key : PublicKey}

/-! ### Documents -/

/-- A document that the controller signed and that `publish` lets pass. -/
structure Document (codec : RouteCodec) (key : PublicKey) (d : SignedRelayRoute) : Prop where
  valid : d.header.validate = .ok ()
  size : codec.size (codec.encode d) ≤ RelayTables.maxRouteDocumentBytes
  signed : ∃ header token certificate, d = SignedRelayRoute.sign key header token certificate

/-- The file is a complete document under its own name. -/
def Complete (codec : RouteCodec) (key : PublicKey) (file : RouteFile codec) : Prop :=
  ∃ d, Document codec key d ∧ file = fileOf codec d

theorem document_of_publishable {hdr : RelayAssignmentHeader} {token cert : BitVec 256}
    (h : publishable codec (SignedRelayRoute.sign key hdr token cert)) :
    Document codec key (SignedRelayRoute.sign key hdr token cert) := by
  obtain ⟨hval, hsize⟩ := Bool.and_eq_true_iff.1 h
  refine ⟨?_, of_decide_eq_true hsize, _, _, _, rfl⟩
  unfold SignedRelayRoute.validate at hval
  cases hcheck : (SignedRelayRoute.sign key hdr token cert).header.validate with
  | ok _ => rfl
  | error e =>
    rw [hcheck] at hval
    cases hval

variable {file : RouteFile codec}
  {managed : ManagedRoutesConfig}

theorem Complete.readDocument (h : Complete codec key file)
    (hkey : managed.controllerPublicKey = key) : ∃ d, readDocument managed file = .ok d := by
  obtain ⟨d, ⟨hval, hsize, hdr, token, cert, rfl⟩, rfl⟩ := h
  subst hkey
  exact ⟨_, readDocument_fileOf hval rfl (SignedRelayRoute.verify_sign _ _ _ _) hsize⟩

/-! ### Names -/

theorem toList_temporaryPath (grantId : RelayGrantId) (random : Nat) :
    (temporaryPath grantId random).toList =
      '.' :: (grantId.text.toList ++ "-".toList ++ (toString random).toList ++ ".tmp".toList) := by
  unfold temporaryPath
  simp only [String.toList_append, List.append_assoc]
  rfl

theorem temporaryPath_ne (grantId other : RelayGrantId) (random : Nat) :
    temporaryPath grantId random ≠ routeFileName other := by
  intro h
  have hlist := congrArg String.toList h
  rw [toList_temporaryPath, routeFileName, String.toList_append] at hlist
  -- the name of a document starts with a digit of the identity
  have hmem : '.' ∈ other.text.toList := by
    cases htext : other.text.toList with
    | nil =>
      have hlen : other.text.toList.length = 36 := by rw [String.length_toList, Uuid.length_text]
      rw [htext] at hlen
      cases hlen
    | cons first rest =>
      rw [htext] at hlist
      rw [(List.cons.inj hlist).1]
      exact .head _
  rcases Uuid.mem_text hmem with hdig | hhyphen
  · exact absurd hdig (by decide)
  · exact absurd hhyphen (by decide)

theorem validateFileName_temporaryPath (grantId : RelayGrantId) (random : Nat) :
    validateFileName (temporaryPath grantId random) = .error "managed_route_filename_invalid" := by
  have hsuf : ∀ stem, stem ++ routeFileSuffix ≠ temporaryPath grantId random := by
    intro stem h
    have hlast := congrArg (fun name : String => name.toList.getLast?) h
    have hleft : (stem ++ routeFileSuffix).toList.getLast? = some 'n' := by
      rw [String.toList_append, List.getLast?_append]
      rfl
    have hright : (temporaryPath grantId random).toList.getLast? = some 'p' := by
      rw [toList_temporaryPath, List.getLast?_cons, List.getLast?_append]
      rfl
    rw [hleft, hright] at hlast
    exact absurd hlast (by decide)
  unfold validateFileName
  rw [if_neg fun h => hsuf _ h.1]

/-! ### The guard -/

/-- The temporary files of the calls that a step ends without removing anything. -/
def Store.abandoned (s : Store codec) : Label codec → List String
  | .crash => s.calls.filterMap fun call => call.2.temporary
  | .advance call choice =>
    match s.calls.lookup call, choice.io with
    | some (.cleanUp temporary), .failed => [temporary]
    | _, _ => []
  | _ => []

/-- The temporary name that a step draws. -/
def Store.drawn (s : Store codec) : Label codec → Option String
  | .advance call choice =>
    match s.calls.lookup call with
    | some (.look route) => some (temporaryPath route.header.grantId choice.random)
    | _ => none
  | _ => none

/-- No call ends while its temporary file is there, and no name is drawn that is in use. -/
def Tidy (s : Store codec) (l : Label codec) : Prop :=
  (∀ name ∈ s.abandoned l, s.directory.has name = false) ∧
    ∀ name ∈ s.drawn l, s.directory.has name = false ∧
      ∀ call ∈ s.calls, call.2.temporary ≠ some name

instance (s : Store codec) (l : Label codec) : Decidable (Tidy s l) :=
  inferInstanceAs (Decidable (_ ∧ _))

/-! ### One operation -/

def Call.route : Call → Option SignedRelayRoute
  | .look route => some route
  | .create route _ => some route
  | .write route _ => some route
  | .sync route _ => some route
  | .rename route _ => some route
  | _ => none

def Call.Knows (directory : Directory codec) : Call → Prop
  | .sync route temporary =>
    ∀ file ∈ directory, file.name = temporary → file.bytes = codec.encode route
  | .rename route temporary =>
    ∀ file ∈ directory, file.name = temporary → file.bytes = codec.encode route
  | .finish temporary => ∀ file ∈ directory, file.name ≠ temporary
  | _ => True

namespace Directory

variable {name : String} {directory : Directory codec} {bytes : codec.Bytes}

theorem has_eq_false : directory.has name = false ↔ ∀ file ∈ directory, file.name ≠ name := by
  simp [has]

theorem mem_create (h : file ∈ directory.create name bytes) :
    file ∈ directory ∨ file = ⟨name, bytes⟩ :=
  (List.mem_append.1 h).imp id List.mem_singleton.1

theorem mem_write (h : file ∈ directory.write name bytes) :
    (file ∈ directory ∧ file.name ≠ name) ∨ file = ⟨name, bytes⟩ := by
  obtain ⟨old, hold, rfl⟩ := List.mem_map.1 h
  by_cases hname : old.name = name
  · exact .inr (if_pos hname)
  · rw [if_neg hname]
    exact .inl ⟨hold, hname⟩

theorem mem_remove : file ∈ directory.remove name ↔ file ∈ directory ∧ file.name ≠ name := by
  simp [remove]

theorem mem_rename {newName : String} (h : file ∈ directory.rename name newName) :
    (file ∈ directory ∧ file.name ≠ name) ∨
      ∃ old ∈ directory, old.name = name ∧ file = ⟨newName, old.bytes⟩ := by
  obtain ⟨old, hold, rfl⟩ := List.mem_map.1 h
  have hmem := (mem_remove.1 hold).1
  by_cases hname : old.name = name
  · exact .inr ⟨old, hmem, hname, if_pos hname⟩
  · rw [if_neg hname]
    exact .inl ⟨hmem, hname⟩

end Directory

/-- What a file can be: a complete document, a file that is not the call's own, or its own temporary
file if the call goes on with it. -/
inductive Left (key : PublicKey) (directory : Directory codec) (call : Call) (next : Option Call)
    (file : RouteFile codec) : Prop where
  | complete (h : Complete codec key file)
  | other (old : file ∈ directory) (other : call.temporary ≠ some file.name)
  | own (before : call.temporary = some file.name) (after : Call) (continues : next = some after)
      (temporary : after.temporary = some file.name)

variable {directory directory' : Directory codec}

theorem left_of_same {call after : Call} (hfile : file ∈ directory)
    (hsame : after.temporary = call.temporary) : Left key directory call (some after) file := by
  by_cases hown : call.temporary = some file.name
  · exact .own hown after rfl (hsame.trans hown)
  · exact .other hfile hown

variable {call : Call}
  {next : Option Call}

theorem left_of_none (hfile : file ∈ directory) (hnone : call.temporary = none) :
    Left key directory call next file := by
  refine .other hfile ?_
  rw [hnone]
  nofun

variable {route : SignedRelayRoute}
  {after : Call} {temporary : String}

theorem left_of_create {bytes : codec.Bytes}
    (hfile : file ∈ directory.create temporary bytes) (haft : after.temporary = some temporary) :
    Left key directory (.create route temporary) (some after) file := by
  rcases Directory.mem_create hfile with hold | rfl
  · exact left_of_same hold haft
  · exact .own rfl after rfl haft

theorem left_of_write {bytes : codec.Bytes}
    (hfile : file ∈ directory.write temporary bytes) (haft : after.temporary = some temporary) :
    Left key directory (.write route temporary) (some after) file := by
  rcases Directory.mem_write hfile with ⟨hold, -⟩ | rfl
  · exact left_of_same hold haft
  · exact .own rfl after rfl haft

theorem left_of_rename (hdoc : Document codec key route)
    (hbs : ∀ file ∈ directory, file.name = temporary → file.bytes = codec.encode route)
    (hfile : file ∈ directory.rename temporary (routeFileName route.header.grantId))
    (haft : after.temporary = some temporary) :
    Left key directory (.rename route temporary) (some after) file := by
  rcases Directory.mem_rename hfile with ⟨hold, -⟩ | ⟨old, hold, hname, rfl⟩
  · exact left_of_same hold haft
  · rw [hbs old hold hname]
    exact .complete ⟨route, hdoc, rfl⟩

variable {choice : Choice codec}

theorem left_of_advance (h : advance directory choice call = (directory', next))
    (hdoc : ∀ route ∈ call.route, Document codec key route) (hknows : call.Knows directory)
    (hkept : ∀ temporary, call = .cleanUp temporary → choice.io = .failed →
      directory.has temporary = false) (hfile : file ∈ directory') :
    Left key directory call next file := by
  cases call with
  | look route =>
    simp only [advance] at h
    split at h <;> cases h <;> exact left_of_none hfile rfl
  | create route temporary =>
    simp only [advance] at h
    split at h
    · cases h
      exact left_of_same hfile rfl
    split at h <;> cases h
    · exact left_of_create hfile rfl
    · exact left_of_same hfile rfl
    · exact left_of_create hfile rfl
  | write route temporary =>
    simp only [advance] at h
    split at h <;> cases h <;> exact left_of_write hfile rfl
  | sync route temporary =>
    simp only [advance] at h
    split at h <;> cases h <;> exact left_of_same hfile rfl
  | rename route temporary =>
    have hrt := hdoc route rfl
    simp only [advance] at h
    split at h
    · split at h <;> cases h
      · exact left_of_rename hrt hknows hfile rfl
      · exact left_of_same hfile rfl
      · exact left_of_rename hrt hknows hfile rfl
    · cases h
      exact left_of_same hfile rfl
  | finish temporary =>
    simp only [advance] at h
    split at h <;> cases h
    · refine .other hfile ?_
      intro hown
      exact hknows file hfile (Option.some.inj hown).symm
    · exact left_of_same hfile rfl
  | cleanUp temporary =>
    simp only [advance] at h
    split at h <;> cases h
    · rename_i hfail
      refine .other hfile ?_
      intro hown
      exact Directory.has_eq_false.1 (hkept temporary rfl hfail) file hfile
        (Option.some.inj hown).symm
    · obtain ⟨hold, hoth⟩ := Directory.mem_remove.1 hfile
      refine .other hold ?_
      intro hown
      exact hoth (Option.some.inj hown).symm
  | find grantId =>
    simp only [advance] at h
    split at h <;> cases h <;> exact left_of_none hfile rfl
  | remove grantId =>
    simp only [advance] at h
    split at h <;> cases h
    · exact left_of_none (Directory.mem_remove.1 hfile).1 rfl
    · exact left_of_none hfile rfl
    · exact left_of_none (Directory.mem_remove.1 hfile).1 rfl
  | finishRemoval =>
    cases h
    exact left_of_none hfile rfl

structure GoesOn (directory' : Directory codec) (choice : Choice codec) (call after : Call) :
    Prop where
  temporary : after.temporary = none ∨ after.temporary = call.temporary ∨
    ∃ route, call = .look route ∧
      after.temporary = some (temporaryPath route.header.grantId choice.random)
  route : ∀ route ∈ after.route, route ∈ call.route
  knows : after.Knows directory'

theorem goesOn_of_advance {call after : Call}
    (h : advance directory choice call = (directory', some after))
    (hname : ∀ name ∈ call.temporary, ∀ gid, name ≠ routeFileName gid)
    (hknows : call.Knows directory) : GoesOn directory' choice call after := by
  cases call with
  | look route =>
    simp only [advance] at h
    split at h <;> cases h
    exact ⟨.inr (.inr ⟨route, rfl, rfl⟩), fun r hr => hr, trivial⟩
  | create route temporary =>
    simp only [advance] at h
    split at h
    · cases h
      exact ⟨.inr (.inl rfl), nofun, trivial⟩
    split at h <;> cases h
    · exact ⟨.inr (.inl rfl), fun r hr => hr, trivial⟩
    · exact ⟨.inr (.inl rfl), nofun, trivial⟩
    · exact ⟨.inr (.inl rfl), nofun, trivial⟩
  | write route temporary =>
    simp only [advance] at h
    split at h <;> cases h
    · refine ⟨.inr (.inl rfl), fun r hr => hr, ?_⟩
      intro file hfile hown
      rcases Directory.mem_write hfile with ⟨-, hoth⟩ | rfl
      · exact absurd hown hoth
      · rfl
    · exact ⟨.inr (.inl rfl), nofun, trivial⟩
    · exact ⟨.inr (.inl rfl), nofun, trivial⟩
  | sync route temporary =>
    simp only [advance] at h
    split at h <;> cases h
    · exact ⟨.inr (.inl rfl), fun r hr => hr, hknows⟩
    · exact ⟨.inr (.inl rfl), nofun, trivial⟩
  | rename route temporary =>
    simp only [advance] at h
    split at h
    · split at h <;> cases h
      · refine ⟨.inr (.inl rfl), nofun, ?_⟩
        intro file hfile hown
        rcases Directory.mem_rename hfile with ⟨-, hoth⟩ | ⟨old, -, -, rfl⟩
        · exact hoth hown
        · exact hname temporary rfl _ hown.symm
      · exact ⟨.inr (.inl rfl), nofun, trivial⟩
      · exact ⟨.inr (.inl rfl), nofun, trivial⟩
    · cases h
      exact ⟨.inr (.inl rfl), nofun, trivial⟩
  | finish temporary =>
    simp only [advance] at h
    split at h <;> cases h
    exact ⟨.inr (.inl rfl), nofun, trivial⟩
  | cleanUp temporary =>
    simp only [advance] at h
    split at h <;> cases h
  | find gid =>
    simp only [advance] at h
    split at h
    · obtain ⟨-, hnext⟩ := Prod.mk.inj h
      split at hnext <;> cases hnext
      exact ⟨.inl rfl, nofun, trivial⟩
    · cases h
  | remove gid =>
    simp only [advance] at h
    split at h <;> cases h
    exact ⟨.inl rfl, nofun, trivial⟩
  | finishRemoval => cases h

/-! ### Runs -/

structure Inv (key : PublicKey) (s : Store codec) : Prop where
  /-- What is not a complete document is the temporary file of a call. -/
  files : ∀ file ∈ s.directory, Complete codec key file ∨
    ∃ i call, s.calls.lookup i = some call ∧ call.temporary = some file.name
  routes : ∀ i call, s.calls.lookup i = some call →
    ∀ route ∈ call.route, Document codec key route
  names : ∀ i call, s.calls.lookup i = some call →
    ∀ name ∈ call.temporary, ∀ grantId, name ≠ routeFileName grantId
  distinct : ∀ i j call other name, s.calls.lookup i = some call → s.calls.lookup j = some other →
    call.temporary = some name → other.temporary = some name → i = j
  knows : ∀ i call, s.calls.lookup i = some call → call.Knows s.directory

theorem Complete.name (h : Complete codec key file) :
    ∃ grantId, file.name = routeFileName grantId := by
  obtain ⟨d, -, rfl⟩ := h
  exact ⟨_, rfl⟩

theorem Call.Knows.mono (h : call.Knows directory)
    (hsame : ∀ file ∈ directory', call.temporary = some file.name → file ∈ directory) :
    call.Knows directory' := by
  cases call with
  | sync route temporary =>
    intro file hfile hname
    exact h file (hsame file hfile (congrArg some hname.symm)) hname
  | rename route temporary =>
    intro file hfile hname
    exact h file (hsame file hfile (congrArg some hname.symm)) hname
  | finish temporary =>
    intro file hfile hname
    exact h file (hsame file hfile (congrArg some hname.symm)) hname
  | look => trivial
  | create => trivial
  | write => trivial
  | cleanUp => trivial
  | find => trivial
  | remove => trivial
  | finishRemoval => trivial

theorem lookup_setCall (s : Store codec) (i j : Nat) (directory : Directory codec)
    (next : Option Call) :
    (s.setCall i directory next).calls.lookup j = if j = i then next else s.calls.lookup j := by
  cases next with
  | none => exact SortedMap.lookup_remove j i s.calls
  | some call => exact SortedMap.lookup_store j i call s.calls

variable {s : Store codec}

theorem Inv.start {i : Nat} (h : Inv key s)
    (hfresh : s.calls.hasKey i = false) (htemp : call.temporary = none)
    (hrt : ∀ route ∈ call.route, Document codec key route) (hknows : call.Knows s.directory) :
    Inv key { s with calls := s.calls.store i call } := by
  have hnone : s.calls.lookup i = none :=
    Option.isNone_iff_eq_none.1 (Option.isSome_eq_false_iff.1 hfresh)
  have hlook : ∀ j other, (s.calls.store i call).lookup j = some other →
      other = call ∨ s.calls.lookup j = some other := by
    intro j other hoth
    rw [SortedMap.lookup_store] at hoth
    split at hoth
    · exact .inl (Option.some.inj hoth).symm
    · exact .inr hoth
  refine ⟨?_, ?_, ?_, ?_, ?_⟩
  · intro file hfile
    refine (h.files file hfile).imp id ?_
    rintro ⟨j, other, hoth, hname⟩
    refine ⟨j, other, ?_, hname⟩
    rw [SortedMap.lookup_store, if_neg, hoth]
    rintro rfl
    rw [hnone] at hoth
    cases hoth
  · intro j other hoth
    rcases hlook j other hoth with rfl | hold
    · exact hrt
    · exact h.routes j other hold
  · intro j other hoth
    rcases hlook j other hoth with rfl | hold
    · rw [htemp]
      rintro _ ⟨⟩
    · exact h.names j other hold
  · intro j k first second name hfirst hsec hfn hsn
    rcases hlook j first hfirst with rfl | hfirst
    · rw [htemp] at hfn
      cases hfn
    rcases hlook k second hsec with rfl | hsec
    · rw [htemp] at hsn
      cases hsn
    · exact h.distinct j k first second name hfirst hsec hfn hsn
  · intro j other hoth
    rcases hlook j other hoth with rfl | hold
    · exact hknows
    · exact h.knows j other hold

theorem Inv.advance {i : Nat} {directory' : Directory codec} (h : Inv key s)
    (hok : Tidy s (.advance i choice)) (hcall : s.calls.lookup i = some call)
    (hadv : RouteStore.advance s.directory choice call = (directory', next)) :
    Inv key (s.setCall i directory' next) := by
  have hkept : ∀ temporary, call = .cleanUp temporary → choice.io = .failed →
      s.directory.has temporary = false := by
    rintro temporary rfl hfail
    apply hok.1
    simp only [Store.abandoned, hcall, hfail, List.mem_singleton]
  have hleft : ∀ file ∈ directory', Left key s.directory call next file := fun file hfile =>
    left_of_advance hadv (h.routes i call hcall) (h.knows i call hcall) hkept hfile
  have hgoes : ∀ after, next = some after → GoesOn directory' choice call after := by
    rintro after rfl
    exact goesOn_of_advance hadv (h.names i call hcall) (h.knows i call hcall)
  -- a call after the step is this one, gone on, or another one
  have hlookup : ∀ j other, (s.setCall i directory' next).calls.lookup j = some other →
      (j = i ∧ next = some other) ∨ (j ≠ i ∧ s.calls.lookup j = some other) := by
    intro j other hoth
    rw [lookup_setCall] at hoth
    split at hoth
    · exact .inl ⟨by assumption, hoth⟩
    · exact .inr ⟨by assumption, hoth⟩
  -- no other call has the temporary name with which this one goes on
  have hoth : ∀ after j other name, next = some after → j ≠ i → s.calls.lookup j = some other →
      after.temporary = some name → other.temporary ≠ some name := by
    intro after j other name hnext hne hlook hname hsame
    rcases (hgoes after hnext).temporary with hnone | hkeep | ⟨route, rfl, hdrawn⟩
    · rw [hnone] at hname
      cases hname
    · exact hne (h.distinct j i other call name hlook hcall hsame (hkeep ▸ hname))
    · have hfresh := (hok.2 name (by
        simp only [Store.drawn, hcall, Option.mem_def]
        exact hdrawn.symm.trans hname)).2
      exact hfresh (j, other) (SortedMap.mem_of_lookup hlook) hsame
  have hdir : (s.setCall i directory' next).directory = directory' := by cases next <;> rfl
  refine ⟨?_, ?_, ?_, ?_, ?_⟩
  · intro file hfile
    rw [hdir] at hfile
    cases hleft file hfile with
    | complete hcomplete => exact .inl hcomplete
    | other hold hnot =>
      refine (h.files file hold).imp id ?_
      rintro ⟨j, owner, hown, hname⟩
      refine ⟨j, owner, ?_, hname⟩
      rw [lookup_setCall, if_neg, hown]
      rintro rfl
      rw [hcall] at hown
      exact hnot (Option.some.inj hown ▸ hname)
    | own _ after hnext hname =>
      refine .inr ⟨i, after, ?_, hname⟩
      rw [lookup_setCall, if_pos rfl, hnext]
  · intro j other hlook
    rcases hlookup j other hlook with ⟨-, hnext⟩ | ⟨-, hold⟩
    · intro route hrt
      exact h.routes i call hcall route ((hgoes other hnext).route route hrt)
    · exact h.routes j other hold
  · intro j other hlook
    rcases hlookup j other hlook with ⟨-, hnext⟩ | ⟨-, hold⟩
    · intro name hname gid
      rcases (hgoes other hnext).temporary with hnone | hkeep | ⟨route, -, hdrawn⟩
      · rw [hnone] at hname
        cases hname
      · rw [hkeep] at hname
        exact h.names i call hcall name hname gid
      · rw [hdrawn] at hname
        cases hname
        exact temporaryPath_ne _ _ _
    · exact h.names j other hold
  · intro j k first second name hfirst hsec hfn hsn
    rcases hlookup j first hfirst with ⟨rfl, hnext⟩ | ⟨hj, hbef⟩
    · rcases hlookup k second hsec with ⟨rfl, -⟩ | ⟨hk, hbef⟩
      · rfl
      · exact absurd hsn (hoth first k second name hnext hk hbef hfn)
    · rcases hlookup k second hsec with ⟨rfl, hnext⟩ | ⟨-, hbef'⟩
      · exact absurd hfn (hoth second j first name hnext hj hbef hsn)
      · exact h.distinct j k first second name hbef hbef' hfn hsn
  · intro j other hlook
    rw [hdir]
    rcases hlookup j other hlook with ⟨-, hnext⟩ | ⟨hj, hold⟩
    · exact (hgoes other hnext).knows
    apply (h.knows j other hold).mono
    intro file hfile hname
    cases hleft file hfile with
    | complete hcomplete =>
      obtain ⟨gid, hdoc⟩ := hcomplete.name
      exact absurd hdoc (h.names j other hold _ hname gid)
    | other hmem _ => exact hmem
    | own _ after hnext haft =>
      exact absurd hname (hoth after j other file.name hnext hj hold haft)

theorem inv_of_idle (h : ∀ file ∈ directory, Complete codec key file) :
    Inv key ⟨directory, []⟩ where
  files file hfile := .inl (h file hfile)
  routes i call hcall := by cases hcall
  names i call hcall := by cases hcall
  distinct i j call other name hcall := by cases hcall
  knows i call hcall := by cases hcall

theorem Inv.step {s s' : Store codec} {l : Label codec} (h : Inv key s) (hok : Tidy s l)
    (hstep : step key s l = some s') : Inv key s' := by
  cases l with
  | publish call header token certificate =>
    simp only [RouteStore.step] at hstep
    split at hstep
    · cases hstep
    rename_i hfresh
    split at hstep
    · rename_i hpublishable
      cases hstep
      refine h.start (Bool.eq_false_of_not_eq_true hfresh) rfl ?_ trivial
      intro route hrt
      cases hrt
      exact document_of_publishable hpublishable
    · cases hstep
      exact h
  | revoke call grantId =>
    simp only [RouteStore.step] at hstep
    split at hstep
    · cases hstep
    rename_i hfresh
    cases hstep
    exact h.start (Bool.eq_false_of_not_eq_true hfresh) rfl nofun trivial
  | advance call choice =>
    obtain ⟨cur, hcur, rfl⟩ := Option.map_eq_some_iff.1 hstep
    exact h.advance hok hcur rfl
  | crash =>
    cases hstep
    apply inv_of_idle
    intro file hfile
    rcases h.files file hfile with hcomplete | ⟨i, call, hcall, hname⟩
    · exact hcomplete
    -- the crash would leave a temporary file behind
    have hgone := hok.1 file.name
      (List.mem_filterMap.2 ⟨(i, call), SortedMap.mem_of_lookup hcall, hname⟩)
    exact absurd rfl (Directory.has_eq_false.1 hgone file hfile)

theorem inv_of_run (h : (system codec key).Run Tidy s) : Inv key s := by
  apply Machine.Run.invariant (I := Inv key) h
  · rintro _ rfl
    apply inv_of_idle
    intro file hfile
    cases hfile
  · intro a l b hinv hok hstep
    exact hinv.step hok hstep

/-- In a run in which no call ends while its temporary file is there, every file of the directory is
a complete document under its own name whenever no call is under way, and the relay reads it. -/
theorem idle_directory_complete {s : Store codec} {managed : ManagedRoutesConfig}
    (hrun : (system codec key).Run Tidy s) (hidle : s.calls = [])
    (hkey : managed.controllerPublicKey = key) :
    ∀ file ∈ s.directory, Complete codec key file ∧ ∃ d, readDocument managed file = .ok d := by
  intro file hfile
  rcases (inv_of_run hrun).files file hfile with hcomplete | ⟨i, call, hcall, -⟩
  · exact ⟨hcomplete, hcomplete.readDocument hkey⟩
  · rw [hidle] at hcall
    cases hcall

/-! ### A crash -/

open RelayRotation (plainCodec sampleHeader)

/-- The operations of one publication, without a failure. -/
def publication (call random : Nat) : List (Label plainCodec) :=
  let document := SignedRelayRoute.sign 7 (sampleHeader 1 11 1 11 20000 1000) 1 2
  .publish call (sampleHeader 1 11 1 11 20000 1000) 1 2
    :: List.replicate 6 (.advance call ⟨.success, random, document⟩)

/-- A document is published, and the relay reads it. -/
theorem published_directory_complete :
    ∃ s, (system plainCodec 7).Run Tidy s ∧ s.calls = [] ∧ s.directory.length = 1 ∧
      ∀ file ∈ s.directory, Complete plainCodec 7 file ∧
        ∃ d, readDocument RelayRotation.sampleManaged file = .ok d := by
  obtain ⟨s, hrun, hidle, hlen⟩ := Machine.run_of_exec (M := system plainCodec 7) (s := ⟨[], []⟩)
    Tidy (fun s => s.calls = [] ∧ s.directory.length = 1) (publication 0 5) rfl (by decide +kernel)
  exact ⟨s, hrun, hidle, hlen, idle_directory_complete hrun hidle rfl⟩

/-- The controller crashes after it has created the temporary file. After the restart it publishes
the document. Nothing is under way, and the relay refuses the directory, whenever it looks. -/
theorem crash_leaves_temporary_file : ∃ s, (system plainCodec 7).Reachable s ∧ s.calls = [] ∧
      (∃ file ∈ s.directory, file.name = routeFileName 11#128) ∧ ∀ managed maxRoutes now snapshot,
        loadManagedRoutes managed maxRoutes now s.directory ≠ .ok snapshot := by
  obtain ⟨s, hrun, hidle, hpub, file, hfile, hname⟩ :=
    Machine.run_of_exec (M := system plainCodec 7) (s := ⟨[], []⟩) (fun _ _ => True)
      (fun s => s.calls = [] ∧ (∃ file ∈ s.directory, file.name = routeFileName 11#128) ∧
        ∃ file ∈ s.directory, file.name = temporaryPath 11#128 5)
      ((publication 0 5).take 3 ++ [.crash] ++ publication 1 6) rfl
      (by decide +kernel)
  refine ⟨s, hrun, hidle, hpub, ?_⟩
  intro managed maxRoutes now snapshot hload
  obtain ⟨d, hacc⟩ := (scanned_of_load hload).accepted file
    ((List.perm_insertionSort fileOrder s.directory).mem_iff.2 hfile)
  have hbad := validateFileName_routeFileName d.header.grantId
  rw [hacc.name, hname, validateFileName_temporaryPath] at hbad
  cases hbad

end RealityConsole.RouteStore
