import RealityConsole.Framework.Machine
import RealityConsole.Policy.Operations

/-!
# Members and signed documents

The controller as a machine over its policy tables. Two operations let documents drift away from
members: approving a disabled node puts its old document back into force, and a rollback revokes the
active credentials that its snapshot lacks. Without the two, compilation and documents agree.
-/

namespace RealityConsole.Policy

open Framework Protocol Controller Controller.Members

/-- The operations of the controller on its policy tables. -/
inductive Label where
  | createAccount (userId : UserId)
  | replaceAccountNodes (userId : UserId) (nodeIds : List NodeId) (draws : Draws) (now : Nat)
  | setAccountStatus (userId : UserId) (requested : Controller.AccountStatus) (draws : Draws)
      (now : Nat)
  | rotateAccountCredentials (userId : UserId) (draws : Draws) (now : Nat)
  | enrollNode (node : NodeId) (configuration : Option DesiredStateConfigurationDraft)
      (draws : Draws) (now : Nat)
  | transitionNode (node : NodeId) (action : NodeLifecycleAction)
  | publishDesiredState (node : NodeId) (configuration : DesiredStateConfigurationDraft)
      (draws : Draws) (now : Nat)
  | operatorRollback (targets : List OperatorRollbackTarget)
      (compatible : OperatorRollbackTarget → Bool) (draws : Draws) (now : Nat)
  | reconcileNodeDesiredState (node : NodeId) (draws : Draws) (now : Nat)
  | rotateProtocolCanary (node : NodeId) (draws : Draws) (now : Nat)
  | recordRevisionResult (node : NodeId) (revision : Revision) (result : RevisionResult)
  | recordHeartbeat (node : NodeId) (heartbeat : NodeHeartbeat)

def perform (identity : ControllerIdentity) (s : PolicyStore) :
    Label → Except PolicyError PolicyStore
  | .createAccount userId => s.createAccount userId
  | .replaceAccountNodes userId nodeIds draws now =>
    s.replaceAccountNodes identity userId nodeIds draws now
  | .setAccountStatus userId requested draws now =>
    s.setAccountStatus identity userId requested draws now
  | .rotateAccountCredentials userId draws now =>
    s.rotateAccountCredentials identity userId draws now
  | .enrollNode node configuration draws now => s.enrollNode identity node configuration draws now
  | .transitionNode node action => s.transitionNode node action
  | .publishDesiredState node configuration draws now =>
    s.publishDesiredState identity node configuration draws now
  | .operatorRollback targets compatible draws now =>
    s.operatorRollback identity targets compatible draws now
  | .reconcileNodeDesiredState node draws now =>
    s.reconcileNodeDesiredState identity node draws now
  | .rotateProtocolCanary node draws now => s.rotateProtocolCanary identity node draws now
  | .recordRevisionResult node revision result => s.recordRevisionResult node revision result
  | .recordHeartbeat node heartbeat => s.recordHeartbeat node heartbeat

def emptyStore (networkId : NetworkId) (controllerInstanceId : ControllerInstanceId) :
    PolicyStore :=
  ⟨networkId, controllerInstanceId, 0, ⟨[], [], []⟩, [], [], [], [], []⟩

def system (identity : ControllerIdentity) : Machine PolicyStore Label where
  init s := ∃ networkId controllerInstanceId, s = emptyStore networkId controllerInstanceId
  next s label := (perform identity s label).toOption

/-- A node is approved only while its last document lists no member, and rolls back only to a
revision that has all of its active credentials. -/
def Careful (s : PolicyStore) : Label → Prop
  | .transitionNode node .approve => ApprovalAllowed s node
  | .recordRevisionResult node _ result => RollbackAllowed s node result
  | _ => True

/-! ### No drift -/

/-- What a document says about one user. -/
def entryOf (user : DesiredUser) : UserId × String × Bool :=
  (user.userId, user.vlessUuid, user.enabled)

def NoDrift (s : PolicyStore) : Prop :=
  ∀ node record, s.nodes.find node = some record → record.status = .active →
    ∃ users, s.members.compileDesiredUsers node = .ok users ∧
      ∀ revision, record.desiredRevision = some revision →
        ∃ signed canary, s.documents.find (node, revision) = some signed ∧
          activeCanary s.canaries node = some canary ∧
          ∀ entry, entry ∈ signed.document.users.map entryOf ↔
            entry ∈ users.map (fun compiled => entryOf compiled.user) ∨
              entry = entryOf canary.desiredUser

theorem noDrift_of_inv {s : PolicyStore} (h : Inv s []) : NoDrift s := by
  intro node record hfind hact
  have hcompile := h.members.compileDesiredUsers_eq node
  refine ⟨_, hcompile, fun rev hdes => ?_⟩
  obtain ⟨signed, canary, hlist⟩ := (h.nodes node record hfind).listed List.not_mem_nil rev hdes
  refine ⟨signed, canary, hlist.document, hlist.activeCanary, fun entry => ?_⟩
  have hmem := fun user => (hlist.mem_iff hact user).trans
    (or_congr (compiles_iff h.members hcompile user).symm Iff.rfl)
  constructor
  · intro hent
    obtain ⟨user, huser, rfl⟩ := List.mem_map.1 hent
    rcases (hmem user).mp huser with hcomp | rfl
    · obtain ⟨comp, hin, rfl⟩ := List.mem_map.1 hcomp
      exact .inl (List.mem_map.2 ⟨comp, hin, rfl⟩)
    · exact .inr rfl
  · rintro (hcomp | rfl)
    · obtain ⟨comp, hin, rfl⟩ := List.mem_map.1 hcomp
      exact List.mem_map.2 ⟨comp.user, (hmem _).mpr (.inl (List.mem_map.2 ⟨comp, hin, rfl⟩)), rfl⟩
    · exact List.mem_map.2 ⟨canary.desiredUser, (hmem _).mpr (.inr rfl), rfl⟩

theorem inv_emptyStore (nid : NetworkId) (controllerInstanceId : ControllerInstanceId) :
    Inv (emptyStore nid controllerInstanceId) [] where
  members := sound_empty
  enabled := by
    intro a ha
    cases ha
  snapshotRows := by
    rintro node rev id ⟨ids, hfind, -⟩
    cases hfind
  nodes := by
    intro node record hfind
    cases hfind

theorem inv_step {ident : ControllerIdentity} {s s' : PolicyStore} {label : Label} (h : Inv s [])
    (hcareful : Careful s label) (hstep : perform ident s label = .ok s') : Inv s' [] := by
  cases label with
  | createAccount => exact inv_createAccount h hstep
  | replaceAccountNodes => exact inv_replaceAccountNodes h hstep
  | setAccountStatus => exact inv_setAccountStatus h hstep
  | rotateAccountCredentials => exact inv_rotateAccountCredentials h hstep
  | enrollNode => exact inv_enrollNode h hstep
  | transitionNode node action =>
    apply inv_transitionNode h _ hstep
    rintro rfl
    exact hcareful
  | publishDesiredState => exact inv_publishDesiredState h hstep
  | operatorRollback => exact inv_operatorRollback h hstep
  | reconcileNodeDesiredState => exact inv_reconcileNodeDesiredState h hstep
  | rotateProtocolCanary => exact inv_rotateProtocolCanary h hstep
  | recordRevisionResult => exact inv_recordRevisionResult h hcareful hstep
  | recordHeartbeat => exact inv_recordHeartbeat h hstep

/-- In every careful run the documents list the members that the tables compile. -/
theorem no_policy_drift {identity : ControllerIdentity} {s : PolicyStore}
    (h : (system identity).Run Careful s) : NoDrift s := by
  apply noDrift_of_inv
  apply h.invariant
  · rintro _ ⟨networkId, controllerInstanceId, rfl⟩
    exact inv_emptyStore networkId controllerInstanceId
  · intro a label b ha hcareful hnext
    exact inv_step ha hcareful (toOption_some.1 hnext)

/-! ### Two runs -/

def plainSignature : Ed25519Signature where
  text := List.replicate 86 'B'
  length_text := List.length_replicate
  plain := List.all_eq_true.mp (by decide)

def plainScheme : SignatureScheme DesiredStateDocument where
  sign := fun _ _ => plainSignature
  verify := fun _ _ _ => true
  verify_sign := fun _ _ => rfl

def plainIdentity : ControllerIdentity := ⟨plainScheme, 7⟩

def plainConfiguration : DesiredStateConfigurationDraft :=
  ⟨"0.1.0", { listenPort := 20443, publicPort := some 443
              serverNames := ["www.reality-front.net"], target := "www.reality-front.net:443" }⟩

def plainDraws : Draws where
  assignment _ := ⟨5, ⟨31, Uuid.text 41⟩⟩
  canary _ := ⟨22, 32, Uuid.text 42⟩

def assignRun : List Label :=
  [.enrollNode 2 (some plainConfiguration) plainDraws 100,
    .createAccount 1,
    .replaceAccountNodes 1 [2] plainDraws 200]

/-- The document of the node lists somebody whom nothing compiles. -/
def listsStranger (s : PolicyStore) (node : NodeId) : Bool :=
  (s.nodes.find node).any fun record => record.status = .active &&
    record.desiredRevision.any fun revision =>
      (s.documents.find (node, revision)).any fun signed =>
        (activeCanary s.canaries node).any fun canary =>
          (s.members.compileDesiredUsers node).toOption.any fun users =>
            signed.document.users.any fun user =>
              entryOf user ≠ entryOf canary.desiredUser &&
                entryOf user ∉ users.map fun compiled => entryOf compiled.user

theorem not_noDrift_of_listsStranger {s : PolicyStore} {node : NodeId}
    (h : listsStranger s node) : ¬ NoDrift s := by
  intro hdrift
  obtain ⟨record, hfind, h⟩ := (Option.any_eq_true _ _).mp h
  obtain ⟨hact, h⟩ := Bool.and_eq_true_iff.1 h
  obtain ⟨rev, hdes, h⟩ := (Option.any_eq_true _ _).mp h
  obtain ⟨signed, hsigned, h⟩ := (Option.any_eq_true _ _).mp h
  obtain ⟨canary, hcan, h⟩ := (Option.any_eq_true _ _).mp h
  obtain ⟨users, husr, h⟩ := (Option.any_eq_true _ _).mp h
  obtain ⟨user, huser, h⟩ := List.any_eq_true.1 h
  obtain ⟨hoth, hstranger⟩ := Bool.and_eq_true_iff.1 h
  obtain ⟨comp, hcompile, hdoc⟩ := hdrift node record hfind (of_decide_eq_true hact)
  obtain ⟨signed', canary', hsigned', hcan', hiff⟩ := hdoc rev hdes
  obtain rfl := Option.mem_unique hsigned hsigned'
  obtain rfl := Option.mem_unique hcan hcan'
  obtain rfl := Except.ok.inj ((toOption_some.1 husr).symm.trans hcompile)
  rcases (hiff (entryOf user)).mp (List.mem_map.2 ⟨user, huser, rfl⟩) with hmem | hmem
  · exact of_decide_eq_true hstranger hmem
  · exact of_decide_eq_true hoth hmem

/-- After the node is disabled and approved again, its document still lists the member whose
assignment was closed. -/
theorem disable_approve_drifts : ∃ s, (system plainIdentity).Reachable s ∧ ¬ NoDrift s := by
  obtain ⟨s, hrun, hstranger⟩ := Machine.run_of_exec (M := system plainIdentity) (fun _ _ => True)
    (fun s => listsStranger s 2 = true) (assignRun ++ [.transitionNode 2 .disable, .transitionNode 2
    .approve]) ⟨1, 4, rfl⟩ (by decide +kernel)
  exact ⟨s, hrun, not_noDrift_of_listsStranger hstranger⟩

instance (s : PolicyStore) (node : NodeId) : Decidable (ApprovalAllowed s node) :=
  inferInstanceAs (Decidable (∀ record ∈ s.nodes.find node, record.status ≠ .active →
    ∀ revision ∈ record.desiredRevision, ∀ signed ∈ s.documents.find (node, revision),
      signed.document.users.length ≤ 1))

instance (s : PolicyStore) (node : NodeId) (result : RevisionResult) :
    Decidable (RollbackAllowed s node result) :=
  inferInstanceAs (Decidable (result.state = .rolledBack → ∀ rollback ∈ result.rollbackRevision,
    ∀ c ∈ s.members.credentials, c.nodeId = node → c.status = .active →
      ∃ ids ∈ s.snapshots.find (node, rollback), c.credentialId ∈ ids))

instance (s : PolicyStore) : (label : Label) → Decidable (Careful s label)
  | .createAccount .. => isTrue trivial
  | .replaceAccountNodes .. => isTrue trivial
  | .setAccountStatus .. => isTrue trivial
  | .rotateAccountCredentials .. => isTrue trivial
  | .enrollNode .. => isTrue trivial
  | .transitionNode node .approve => inferInstanceAs (Decidable (ApprovalAllowed s node))
  | .transitionNode _ .disable => isTrue trivial
  | .transitionNode _ .revoke => isTrue trivial
  | .publishDesiredState .. => isTrue trivial
  | .operatorRollback .. => isTrue trivial
  | .reconcileNodeDesiredState .. => isTrue trivial
  | .rotateProtocolCanary .. => isTrue trivial
  | .recordRevisionResult node _ result =>
    inferInstanceAs (Decidable (RollbackAllowed s node result))
  | .recordHeartbeat .. => isTrue trivial

/-- The node reports a state of the revision that lists the member. -/
def reportOf (state : RevisionResultState) : Label :=
  .recordRevisionResult 2 2
    { state := state, configDigest := some 9, startedAt := 0, completedAt := 0
      errorCode := none, rollbackRevision := none }

/-- The member is assigned, and the node applies the document. -/
theorem applied_member_no_drift : ∃ s, (system plainIdentity).Run Careful s ∧
    (s.members.credentials.map (·.status) = [.active]) ∧ NoDrift s := by
  obtain ⟨s, hrun, hactive⟩ := Machine.run_of_exec (M := system plainIdentity) Careful
    (fun s => s.members.credentials.map (·.status) = [.active])
    (assignRun ++ [reportOf .validated, reportOf .applied]) ⟨1, 4, rfl⟩ (by decide +kernel)
  exact ⟨s, hrun, hactive, no_policy_drift hrun⟩

end RealityConsole.Policy
