import RealityConsole.Controller.RequestAuth
import RealityConsole.Framework.Machine

/-!
# Replay of node requests

The controller with a history of the requests that it has accepted. Its clock does not go back;
requests may arrive in any order, any number of times and from anyone. Every accepted request either
still has its nonce in the table or its timestamp has left the window of accepted clocks.
-/

namespace RealityConsole.NodeRequests

open Framework Protocol Protocol.Wire Controller

/-- A request that was accepted, with the clock at that time. -/
structure Acceptance (Signature : Type) where
  headers : NodeRequestAuthHeaders Signature
  input : NodeRequestSigningInput
  now : Int

def Acceptance.triple {Signature : Type} (a : Acceptance Signature) : NodeId × NodeKeyId × String :=
  (a.headers.nodeId, a.headers.keyId, a.headers.nonce)

def Acceptance.seconds {Signature : Type} (a : Acceptance Signature) : Int :=
  unixTimestamp a.headers.timestamp

/-- The tables, the last clock reading, and what was accepted so far, newest first. -/
structure World (Signature : Type) where
  store : AuthStore
  clock : Int
  accepted : List (Acceptance Signature)

/-- The operations on the tables of authentication. -/
inductive Label (Signature : Type) where
  | request (headers : NodeRequestAuthHeaders Signature) (input : NodeRequestSigningInput)
      (now : Int)
  | enrollNode (node : NodeId) (key : NodeKeyId) (publicKey : PublicKey) (bootstrap : Bool)
      (now : Int)
  | transitionNode (node : NodeId) (action : NodeLifecycleAction) (now : Int)

def Label.now {Signature : Type} : Label Signature → Int
  | request _ _ now => now
  | enrollNode _ _ _ _ now => now
  | transitionNode _ _ now => now

variable {Signature : Type} (crypto : NodeCrypto Signature) (timestamps : TimestampText)

/-- Runs one operation; one that fails takes no step. -/
def perform (w : World Signature) : Label Signature → Option (World Signature)
  | .request headers input now =>
    (w.store.authenticateNodeRequest crypto timestamps headers input now).toOption.map fun store =>
      { store, clock := now, accepted := ⟨headers, input, now⟩ :: w.accepted }
  | .enrollNode node key publicKey bootstrap now =>
    (w.store.enrollNode node key publicKey bootstrap now).toOption.map fun store =>
      { w with store, clock := now }
  | .transitionNode node action now =>
    (w.store.transitionNode node action now).toOption.map fun store =>
      { w with store, clock := now }

/-- The controller from a time when it has not yet accepted a request. -/
def system : Machine (World Signature) (Label Signature) where
  init w := w.store.nonces = [] ∧ w.accepted = []
  next w label := if w.clock ≤ label.now then perform crypto timestamps w label else none

variable {crypto timestamps}

/-! ### What a step does -/

/-- A step leaves the nonces and the history alone, or accepts a request. -/
inductive Effect (crypto : NodeCrypto Signature) (w : World Signature) (w' : World Signature) :
    Prop
  | quiet (clock : w.clock ≤ w'.clock) (nonces : w'.store.nonces = w.store.nonces)
      (accepted : w'.accepted = w.accepted)
  | accepts (a : Acceptance Signature) (clock : w.clock ≤ w'.clock) (now : w'.clock = a.now)
      (inWindow : (a.now - a.seconds).natAbs ≤ nodeRequestClockSkewSeconds)
      (fresh : Table.find (AuthStore.nonceKey crypto a.headers)
        (w.store.nonces.filter fun entry => decide (¬ entry.2.expiresAt < a.now)) = none)
      (nonces : w'.store.nonces = Table.insert (AuthStore.nonceKey crypto a.headers)
        { requestTimestamp := a.seconds, expiresAt := a.seconds + nodeRequestClockSkewSeconds
          createdAt := a.now }
        (w.store.nonces.filter fun entry => decide (¬ entry.2.expiresAt < a.now)))
      (accepted : w'.accepted = a :: w.accepted)

theorem enrollNode_nonces {s s' : AuthStore} {node : NodeId} {key : NodeKeyId}
    {pk : PublicKey} {bootstrap : Bool} {now : Int}
    (h : s.enrollNode node key pk bootstrap now = .ok s') : s'.nonces = s.nonces := by
  obtain ⟨-, h⟩ := check_ok.1 h
  cases h
  rfl

theorem transitionNode_nonces {s s' : AuthStore} {node : NodeId} {action : NodeLifecycleAction}
    {now : Int} (h : s.transitionNode node action now = .ok s') : s'.nonces = s.nonces := by
  obtain ⟨_, h⟩ := rest_ok h
  obtain ⟨_, h⟩ := rest_ok h
  cases h
  unfold AuthStore.revokeNodeCredentials
  split <;> rfl

theorem effect_of_next {w w' : World Signature} {label : Label Signature}
    (h : (system crypto timestamps).next w label = some w') : Effect crypto w w' := by
  obtain ⟨hclock, h⟩ := Option.ite_none_right_eq_some.1 h
  cases label with
  | request headers input now =>
    obtain ⟨store, hstore, rfl⟩ := Option.map_eq_some_iff.1 h
    obtain ⟨⟨_, _, _, hacc⟩, rfl⟩ := AuthStore.authenticateNodeRequest_ok (toOption_some.1 hstore)
    exact .accepts ⟨headers, input, now⟩ hclock rfl hacc.inWindow hacc.fresh rfl rfl
  | enrollNode node key publicKey bootstrap now =>
    obtain ⟨store, hstore, rfl⟩ := Option.map_eq_some_iff.1 h
    exact .quiet hclock (enrollNode_nonces (toOption_some.1 hstore)) rfl
  | transitionNode node action now =>
    obtain ⟨store, hstore, rfl⟩ := Option.map_eq_some_iff.1 h
    exact .quiet hclock (transitionNode_nonces (toOption_some.1 hstore)) rfl

/-! ### The invariant -/

/-- The nonce of an accepted request is in the table for as long as its timestamp is in the
window. -/
def Remembered (crypto : NodeCrypto Signature) (w : World Signature) (a : Acceptance Signature) :
    Prop :=
  a.seconds + nodeRequestClockSkewSeconds < w.clock ∨
    ∃ row, w.store.nonces.find (AuthStore.nonceKey crypto a.headers) = some row ∧
      a.seconds + nodeRequestClockSkewSeconds ≤ row.expiresAt

def Later (later earlier : Acceptance Signature) : Prop :=
  later.triple = earlier.triple →
    earlier.seconds + nodeRequestClockSkewSeconds < later.now ∧ earlier.seconds < later.seconds

structure Inv (crypto : NodeCrypto Signature) (w : World Signature) : Prop where
  remembered : ∀ a ∈ w.accepted, Remembered crypto w a
  ordered : w.accepted.Pairwise Later

/-- Deleting expired nonces forgets no request whose timestamp is in the window. -/
theorem remembered_filter {w : World Signature} {a : Acceptance Signature} {now : Int}
    (hclock : w.clock ≤ now) (h : Remembered crypto w a) :
    a.seconds + nodeRequestClockSkewSeconds < now ∨
      ∃ row, Table.find (AuthStore.nonceKey crypto a.headers)
          (w.store.nonces.filter fun entry => decide (¬ entry.2.expiresAt < now)) = some row ∧
        a.seconds + nodeRequestClockSkewSeconds ≤ row.expiresAt := by
  rcases h with hpast | ⟨row, hrow, hexpires⟩
  · exact .inl (lt_of_lt_of_le hpast hclock)
  by_cases hexpd : row.expiresAt < now
  · exact .inl (lt_of_le_of_lt hexpires hexpd)
  · exact .inr ⟨row, Table.find_filter_of_find hrow (decide_eq_true hexpd), hexpires⟩

theorem nonceKey_of_triple {a b : Acceptance Signature} (h : a.triple = b.triple) :
    AuthStore.nonceKey crypto a.headers = AuthStore.nonceKey crypto b.headers := by
  obtain ⟨hnode, hrest⟩ := Prod.mk.inj h
  obtain ⟨hkey, hnonce⟩ := Prod.mk.inj hrest
  simp only [AuthStore.nonceKey, hnode, hkey, hnonce]

theorem inv_of_effect {w w' : World Signature} (hinv : Inv crypto w) (h : Effect crypto w w') :
    Inv crypto w' := by
  cases h with
  | quiet hclock hnonces hacpd =>
    refine ⟨?_, hacpd ▸ hinv.ordered⟩
    intro a ha
    rw [hacpd] at ha
    rcases hinv.remembered a ha with hpast | hrow
    · exact .inl (lt_of_lt_of_le hpast hclock)
    · exact .inr (hnonces ▸ hrow)
  | accepts new hclock hnow hwin hfresh hnonces hacpd =>
    have hkept := fun a ha => remembered_filter (hnow ▸ hclock) (hinv.remembered a ha)
    constructor
    · intro a ha
      rw [hacpd] at ha
      rw [Remembered, hnonces, hnow, Table.find_insert]
      by_cases hkey : AuthStore.nonceKey crypto a.headers = AuthStore.nonceKey crypto new.headers
      · rw [if_pos hkey]
        rcases List.mem_cons.1 ha with rfl | hold
        · exact .inr ⟨_, rfl, le_rfl⟩
        -- the table would still have an older nonce in the window
        rcases hkept a hold with hpast | ⟨row, hrow, -⟩
        · exact .inl hpast
        · rw [hkey, hfresh] at hrow
          cases hrow
      · rw [if_neg hkey]
        rcases List.mem_cons.1 ha with rfl | hold
        · exact absurd rfl hkey
        · exact hkept a hold
    · rw [hacpd, List.pairwise_cons]
      refine ⟨?_, hinv.ordered⟩
      intro a ha htriple
      have hpast : a.seconds + nodeRequestClockSkewSeconds < new.now := by
        rcases hkept a ha with hpast | ⟨row, hrow, -⟩
        · exact hpast
        · rw [← nonceKey_of_triple htriple, hfresh] at hrow
          cases hrow
      refine ⟨hpast, ?_⟩
      omega

theorem inv_of_run {ok : World Signature → Label Signature → Prop} {w : World Signature}
    (h : (system crypto timestamps).Run ok w) : Inv crypto w := by
  apply h.invariant
  · rintro a ⟨-, hacpd⟩
    refine ⟨?_, ?_⟩
    · rw [hacpd]
      intro b hb
      cases hb
    · rw [hacpd]
      exact List.Pairwise.nil
  · intro a label b hinv _ hnext
    exact inv_of_effect hinv (effect_of_next hnext)

/-! ### Accepted requests -/

/-- A node, key and nonce are accepted again only after the timestamp of the earlier request has
left the window, in a later request. Whatever is accepted comes under a credential in force, whose
holder has signed exactly this request for this controller. -/
theorem accepted_requests_sound {w : World Signature} (h : (system crypto timestamps).Reachable w) :
    w.accepted.Pairwise Later ∧
      ∀ (headers : NodeRequestAuthHeaders Signature) (input : NodeRequestSigningInput) (now : Int)
        (w' : World Signature),
        (system crypto timestamps).next w (.request headers input now) = some w' →
        ∃ status credential transcript,
          w.store.Accepts crypto timestamps headers input now status credential transcript ∧
          crypto.Signed credential.identityPublicKey transcript ∧
          ∀ other : NodeRequest, other.transcript timestamps = .ok transcript →
            other = signedRequest headers input w.store.controllerInstanceId := by
  refine ⟨(inv_of_run h).ordered, ?_⟩
  intro headers input now w' hnext
  obtain ⟨-, hperform⟩ := Option.ite_none_right_eq_some.1 hnext
  obtain ⟨store, hstore, -⟩ := Option.map_eq_some_iff.1 hperform
  obtain ⟨⟨status, credential, transcript, hacpt⟩, -⟩ :=
    AuthStore.authenticateNodeRequest_ok (toOption_some.1 hstore)
  refine ⟨status, credential, transcript, hacpt, crypto.unforgeable hacpt.verified, ?_⟩
  intro other hoth
  exact NodeRequest.transcript_inj hoth hacpt.encoded

/-! ### A nonce used twice -/

def twoInstants : TimestampText where
  format instant :=
    if instant = 0 then some "1970-01-01T00:00:00Z"
    else if instant = 301000000000 then some "1970-01-01T00:05:01Z"
    else none
  injective := by
    intro a b text ha hb
    split at ha <;> split at hb <;> simp_all
    · exact absurd (ha.trans hb.2.symm) (by decide)
    · exact absurd (hb.trans ha.2.symm) (by decide)

def sampleInput : NodeRequestSigningInput :=
  { method := .get, pathAndQuery := "/v1/desired", bodyDigest := ⟨0#256⟩ }

def sampleNonce : String := "AAECAwQFBgcICQoLDA0ODw"

def sampleMessage (seconds : Int) : Bytes :=
  (NodeRequest.transcript twoInstants
    { input := sampleInput, timestamp := seconds * 1000000000, nonce := sampleNonce
      controllerInstanceId := 9#128 }).toOption.getD []

def toyCrypto : NodeCrypto (PublicKey × Bytes) where
  verify key message signature := signature = (key, message) ∧
    key = 7 ∧ message ∈ [sampleMessage 0, sampleMessage 301]
  Signed key message := key = 7 ∧ message ∈ [sampleMessage 0, sampleMessage 301]
  unforgeable h := (of_decide_eq_true h).2
  sha256 bytes := ⟨BitVec.ofNat 256 (ofBigEndian bytes)⟩

def emptyWorld : World (PublicKey × Bytes) where
  store := { controllerInstanceId := 9#128, nodes := [], credentials := [], nonces := [] }
  clock := 0
  accepted := []

def sampleRequest (seconds : Int) : Label (PublicKey × Bytes) :=
  .request
    { nodeId := 1#128, keyId := 2#128, timestamp := seconds * 1000000000, nonce := sampleNonce
      signature := (7, sampleMessage seconds) }
    sampleInput seconds

/-- One nonce is accepted at second 0 and at second 301. -/
def repeatedNonce : List (Label (PublicKey × Bytes)) :=
  [.enrollNode 1#128 2#128 7 true 0, sampleRequest 0, sampleRequest 301]

/-- A nonce is accepted twice. -/
theorem nonce_accepted_twice : ∃ w, (system toyCrypto twoInstants).Reachable w ∧
      ¬ (w.accepted.map Acceptance.triple).Nodup :=
  Machine.run_of_exec (M := system toyCrypto twoInstants) (fun _ _ => True)
    (fun w => ¬ (w.accepted.map Acceptance.triple).Nodup) repeatedNonce (s := emptyWorld) ⟨rfl, rfl⟩
    (by decide +kernel)

/-- The two requests have timestamps more than a window apart. -/
theorem repeated_nonce_sound :
    ∃ w, (system toyCrypto twoInstants).Reachable w ∧ w.accepted.length = 2 ∧
      w.accepted.Pairwise Later := by
  obtain ⟨w, hrun, hlen⟩ := Machine.run_of_exec (M := system toyCrypto twoInstants)
    (fun _ _ => True) (fun w => w.accepted.length = 2) repeatedNonce (s := emptyWorld) ⟨rfl, rfl⟩
    (by decide +kernel)
  exact ⟨w, hrun, hlen, (accepted_requests_sound hrun).1⟩

end RealityConsole.NodeRequests
