import RealityConsole.Framework.Transcript
import RealityConsole.RelayRotation.Loading

/-!
# The fingerprint of the managed routes

The watcher skips a reload if the fingerprint is the one that it applied last. Names and contents
are hashed behind their lengths, so what is hashed determines the files and which of them are
active, and these determine the routes.
-/

namespace RealityConsole.RelayServer

open Framework Protocol

variable {codec : RouteCodec}

structure Raw (codec : RouteCodec) where
  bytes : codec.Bytes → Bytes
  parse : Bytes → Option SignedRelayRoute

/-- The bytes of a file make up its size and are parsed as its contents. -/
def Raw.Shows (raw : Raw codec) (file : RouteFile codec) : Prop :=
  (raw.bytes file.bytes).length = codec.size file.bytes ∧
    raw.parse (raw.bytes file.bytes) = codec.decode file.bytes

/-- What the loop of `load_managed_routes` hashes of one file: its name, its contents and whether it
is active. -/
def hashedFile : Bytes × Bytes × Bool → Bytes
  | (name, bytes, active) => bigEndian 8 name.length ++ name ++ bigEndian 8 bytes.length ++ bytes ++
      [if active then 1 else 0]

def FileFingerprint.parts (raw : Raw codec) (f : FileFingerprint codec) : Bytes × Bytes × Bool :=
  (textBytes f.name, raw.bytes f.bytes, f.active)

/-- The bytes fed to the hash for a directory with so many entries. -/
def Snapshot.hashed (raw : Raw codec) (entries : Nat) (s : Snapshot codec) : Bytes :=
  textBytes "relay-managed-routes-v1" ++ bigEndian 8 entries ++
    (s.fingerprint.map (·.parts raw)).flatMap hashedFile

theorem hashedFile_append_inj {a b : Bytes × Bytes × Bool} {rest rest' : Bytes}
    (ha : a.1.length < 256 ^ 8 ∧ a.2.1.length < 256 ^ 8)
    (hb : b.1.length < 256 ^ 8 ∧ b.2.1.length < 256 ^ 8)
    (h : hashedFile a ++ rest = hashedFile b ++ rest') : a = b ∧ rest = rest' := by
  obtain ⟨name, bytes, active⟩ := a
  obtain ⟨name', bytes', active'⟩ := b
  simp only [hashedFile, List.append_assoc] at h
  obtain ⟨hnameLength, hnames⟩ := List.append_inj h (by simp)
  obtain ⟨hname, hsizes⟩ := List.append_inj hnames (bigEndian_inj ha.1 hb.1 hnameLength)
  obtain ⟨hlength, hbodies⟩ := List.append_inj hsizes (by simp)
  obtain ⟨hbody, hflags⟩ := List.append_inj hbodies (bigEndian_inj ha.2 hb.2 hlength)
  obtain ⟨hflag, hrest⟩ := List.append_inj hflags rfl
  have hact : active = active' := by
    revert hflag
    cases active <;> cases active' <;> decide
  exact ⟨by rw [hname, hbody, hact], hrest⟩

variable {config : ManagedRoutesConfig} {files : List (RouteFile codec)} {s : Snapshot codec}
  {raw : Raw codec}

theorem Scanned.documents_parts (h : Scanned config files s)
    (hraw : ∀ file ∈ files, raw.Shows file) : (s.fingerprint.map (·.parts raw)).filterMap
      (fun (_, bytes, active) => if active then raw.parse bytes else none) = s.documents := by
  rw [List.filterMap_map]
  refine List.filterMap_congr fun f hf => ?_
  have hread : raw.parse (raw.bytes f.bytes) = codec.decode f.bytes :=
    (hraw f.file (h.read ▸ List.mem_map_of_mem hf)).2
  show (if f.active then raw.parse (raw.bytes f.bytes) else none) = _
  rw [hread]

theorem Scanned.lengths (h : Scanned config files s)
    (hraw : ∀ file ∈ files, raw.Shows file) : ∀ p ∈ s.fingerprint.map (·.parts raw),
      p.1.length < 256 ^ 8 ∧ p.2.1.length < 256 ^ 8 := by
  intro p hp
  obtain ⟨f, hf, rfl⟩ := List.mem_map.1 hp
  have hmem : f.file ∈ files := h.read ▸ List.mem_map_of_mem hf
  obtain ⟨d, hacc⟩ := h.accepted f.file hmem
  constructor
  · have hname := length_textBytes_le f.name
    have hlen := congrArg String.length hacc.name
    rw [length_routeFileName] at hlen
    replace hlen : 53 = f.name.toList.length := hlen.trans String.length_toList.symm
    show (textBytes f.name).length < _
    omega
  · have hsize := (hraw f.file hmem).1.trans_le hacc.size
    exact hsize.trans_lt (show maxRouteFileBytes < 256 ^ 8 by decide)

/-- Two loads that hash the same bytes yield the same routes; and the documents behind the routes of
a load differ in their grants, generations, endpoints and ports and are within the ceilings. -/
theorem fingerprint_determines_routes {codec : RouteCodec} (raw : Raw codec)
    (config : ManagedRoutesConfig) {maxRoutes now now' : Nat}
    {directory directory' : List (RouteFile codec)} {s s' : Snapshot codec}
    (hraw : ∀ file ∈ directory, raw.Shows file) (hraw' : ∀ file ∈ directory', raw.Shows file)
    (hnames : (directory.map (·.name)).Nodup)
    (hload : loadManagedRoutes config maxRoutes now directory = .ok s)
    (hload' : loadManagedRoutes config maxRoutes now' directory' = .ok s') :
    (s.hashed raw directory.length = s'.hashed raw directory'.length → s.routes = s'.routes) ∧
    s.routes = s.documents.map (routeOf config) ∧
    (s.documents.map (·.header.grantId)).Nodup ∧
    (s.documents.map fun d => (d.header.routeId, d.header.generation)).Nodup ∧
    (s.documents.map (·.header.endpointId)).Nodup ∧
    (s.documents.map (·.header.publicPort)).Nodup ∧
    ∀ d ∈ s.documents, d.header.limits.Within config.ceilings := by
  have hscan := scanned_of_load hload
  have hscan' := scanned_of_load hload'
  have hperm := List.perm_insertionSort fileOrder directory
  have hperm' := List.perm_insertionSort fileOrder directory'
  replace hraw := fun file hf => hraw file (hperm.mem_iff.1 hf)
  replace hraw' := fun file hf => hraw' file (hperm'.mem_iff.1 hf)
  refine ⟨fun hhash => ?_, hscan.routes, hscan.grants ((hperm.map _).nodup_iff.2 hnames),
    hscan.generations.nodup, hscan.endpoints.nodup, hscan.ports.nodup, hscan.limits⟩
  -- behind the count, the hashed bytes are told apart file by file
  have hbytes := (List.append_inj hhash (by simp)).2
  have hparts := flatMap_inj_of_append (fun _ _ _ _ => hashedFile_append_inj) (by simp [hashedFile])
    (hscan.lengths hraw) (hscan'.lengths hraw') hbytes
  rw [hscan.routes, hscan'.routes, ← hscan.documents_parts hraw, hparts,
    hscan'.documents_parts hraw']

open RelayRotation (plainCodec sampleManaged sampleHeader)

def sampleDocument (node : Nat) : SignedRelayRoute :=
  .sign 7 (sampleHeader node (10 + node) 1 (10 + node) (20000 + node) 1000) 1 2

def sampleRaw : Raw plainCodec where
  bytes d := [UInt8.ofNat d.header.publicPort]
  parse bytes := if bytes = [33] then some (sampleDocument 1)
    else if bytes = [34] then some (sampleDocument 2) else none

/-- Two looks at a directory with two documents, listed in another order. -/
theorem sample_routes_unchanged : ∃ s s' : Snapshot plainCodec,
    loadManagedRoutes sampleManaged 8 2000
      [fileOf plainCodec (sampleDocument 2), fileOf plainCodec (sampleDocument 1)] = .ok s ∧
    loadManagedRoutes sampleManaged 8 3000
      [fileOf plainCodec (sampleDocument 1), fileOf plainCodec (sampleDocument 2)] = .ok s' ∧
    s.routes = s'.routes ∧ s.routes.length = 2 := by
  let snapshot := [sampleDocument 1, sampleDocument 2].foldl (Snapshot.add sampleManaged)
    (Snapshot.empty plainCodec)
  have hhonest : ∀ d ∈ [sampleDocument 2, sampleDocument 1], Honest plainCodec sampleManaged d := by
    simp only [List.forall_mem_cons, List.not_mem_nil, false_imp_iff, implies_true, and_true]
    exact ⟨⟨by decide +kernel, rfl, rfl, by decide, rfl, by decide, by decide⟩,
      by decide +kernel, rfl, rfl, by decide, rfl, by decide, by decide⟩
  have hsorted : byFileName plainCodec [sampleDocument 2, sampleDocument 1] =
      [sampleDocument 1, sampleDocument 2] := by decide +kernel
  have hsorted' : byFileName plainCodec [sampleDocument 1, sampleDocument 2] =
      [sampleDocument 1, sampleDocument 2] := by decide +kernel
  have hfirst : loadManagedRoutes sampleManaged 8 2000
      ([sampleDocument 2, sampleDocument 1].map (fileOf plainCodec)) = .ok snapshot :=
    (loadManagedRoutes_ok (by decide) hhonest (by decide)).2
      ⟨by decide, by decide, by decide, by rw [hsorted]⟩
  have hagain : loadManagedRoutes sampleManaged 8 3000
      ([sampleDocument 1, sampleDocument 2].map (fileOf plainCodec)) = .ok snapshot :=
    (loadManagedRoutes_ok (by decide) (fun d hd => hhonest d (by simp_all [or_comm])) (by decide)).2
      ⟨by decide, by decide, by decide, by rw [hsorted']⟩
  have hraw : ∀ file ∈ [fileOf plainCodec (sampleDocument 1), fileOf plainCodec (sampleDocument 2)],
      sampleRaw.Shows file := by
    simp only [List.forall_mem_cons, List.not_mem_nil, false_imp_iff, implies_true, and_true]
    exact ⟨⟨rfl, by decide⟩, rfl, by decide⟩
  refine ⟨_, _, hfirst, hagain, ?_, rfl⟩
  exact (fingerprint_determines_routes sampleRaw sampleManaged
    (fun file hfile => hraw file (by simp_all [or_comm])) hraw (by decide +kernel) hfirst hagain).1
    rfl

end RealityConsole.RelayServer
