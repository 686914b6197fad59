import BeaconPool.Server.Library

/-! # The handler monad

The stateful collaborators of the `Server` (the chain info and head fetchers, the four
pools, the operation notifier, the broadcaster and the core service) answer each call as a
function of a world state `σ`, which the call may change: a `World σ` is one behaviour of
all of them, and `σ` is arbitrary, so an answer may depend on everything that happened
before. A `Handler σ α` runs against a world and records, in order, every call it makes
with the answer it got and every write to the response. Statements about the handlers
quantify over the `World`, its state and the `Library`.
-/

namespace BeaconPool

/-- The events of `OperationNotifier.OperationFeed().Send`. -/
inductive FeedEvent where
  | unaggregatedAttReceived (att : Att)
  | blsToExecutionChangeReceived (change : Eth.SignedBLSToExecutionChange)
  | attesterSlashingReceived (slashing : AttSlashing)
  | proposerSlashingReceived (slashing : Eth.ProposerSlashing)
  deriving DecidableEq, Repr

/-- The messages handed to `Broadcaster.Broadcast`. -/
inductive Message where
  | voluntaryExit (exit : Eth.SignedVoluntaryExit)
  | blsToExecutionChange (change : Eth.SignedBLSToExecutionChange)
  | attesterSlashing (slashing : AttSlashing)
  | proposerSlashing (slashing : Eth.ProposerSlashing)
  deriving DecidableEq, Repr

/-- The stateful collaborators; a Go `error` result is `Option String`. -/
structure World (σ : Type) where
  headStateReadOnly : σ → Except String BeaconState × σ
  headState : σ → Except String BeaconState × σ
  headValidatorsIndices : σ → Nat → Except String (List Nat) × σ
  aggregatedAttestations : σ → List Att × σ
  unaggregatedAttestations : σ → Except String (List Att) × σ
  saveAggregatedAttestation : σ → Att → Option String × σ
  saveUnaggregatedAttestation : σ → Att → Option String × σ
  send : σ → FeedEvent → σ
  broadcastAttestation : σ → Nat → Att → Option String × σ
  broadcast : σ → Message → Option String × σ
  pendingExits : σ → Except String (List Eth.SignedVoluntaryExit) × σ
  insertVoluntaryExit : σ → Eth.SignedVoluntaryExit → σ
  submitSyncMessage : σ → Eth.SyncCommitteeMessage → Option RpcError × σ
  insertBLSToExecChange : σ → Eth.SignedBLSToExecutionChange → σ
  pendingBLSToExecChanges : σ → Except String (List Eth.SignedBLSToExecutionChange) × σ
  pendingAttesterSlashings : σ → BeaconState → List AttSlashing × σ
  insertAttesterSlashing : σ → BeaconState → AttSlashing → Option String × σ
  pendingProposerSlashings : σ → BeaconState → List Eth.ProposerSlashing × σ
  insertProposerSlashing : σ → BeaconState → Eth.ProposerSlashing → Option String × σ
  disableBroadcastSlashings : Bool

/-- The world in which every collaborator succeeds and nothing changes: the head state is
`st`, the validator lookup and the pools are empty, every call returns no error. -/
def World.succeeding (st : BeaconState) : World Unit where
  headStateReadOnly _ := (.ok st, ())
  headState _ := (.ok st, ())
  headValidatorsIndices _ _ := (.ok [], ())
  aggregatedAttestations _ := ([], ())
  unaggregatedAttestations _ := (.ok [], ())
  saveAggregatedAttestation _ _ := (none, ())
  saveUnaggregatedAttestation _ _ := (none, ())
  send _ _ := ()
  broadcastAttestation _ _ _ := (none, ())
  broadcast _ _ := (none, ())
  pendingExits _ := (.ok [], ())
  insertVoluntaryExit _ _ := ()
  submitSyncMessage _ _ := (none, ())
  insertBLSToExecChange _ _ := ()
  pendingBLSToExecChanges _ := (.ok [], ())
  pendingAttesterSlashings _ _ := ([], ())
  insertAttesterSlashing _ _ _ := (none, ())
  pendingProposerSlashings _ _ := ([], ())
  insertProposerSlashing _ _ _ := (none, ())
  disableBroadcastSlashings := false

/-- One entry of a handler's record: a collaborator call with its answer, the spawning of
the deferred BLS broadcast (`go s.broadcastBLSChanges(ctx, changes)`), or a write. -/
inductive Event where
  | headStateReadOnly (result : Except String BeaconState)
  | headState (result : Except String BeaconState)
  | headValidatorsIndices (epoch : Nat) (result : Except String (List Nat))
  | aggregatedAttestations (result : List Att)
  | unaggregatedAttestations (result : Except String (List Att))
  | saveAggregatedAttestation (att : Att) (result : Option String)
  | saveUnaggregatedAttestation (att : Att) (result : Option String)
  | send (event : FeedEvent)
  | broadcastAttestation (subnet : Nat) (att : Att) (result : Option String)
  | broadcast (message : Message) (result : Option String)
  | pendingExits (result : Except String (List Eth.SignedVoluntaryExit))
  | insertVoluntaryExit (exit : Eth.SignedVoluntaryExit)
  | submitSyncMessage (message : Eth.SyncCommitteeMessage) (result : Option RpcError)
  | insertBLSToExecChange (change : Eth.SignedBLSToExecutionChange)
  | pendingBLSToExecChanges (result : Except String (List Eth.SignedBLSToExecutionChange))
  | pendingAttesterSlashings (state : BeaconState) (result : List AttSlashing)
  | insertAttesterSlashing (state : BeaconState) (slashing : AttSlashing) (result : Option String)
  | pendingProposerSlashings (state : BeaconState) (result : List Eth.ProposerSlashing)
  | insertProposerSlashing (state : BeaconState) (slashing : Eth.ProposerSlashing)
      (result : Option String)
  | spawnBroadcastBLSChanges (changes : List (Option Eth.SignedBLSToExecutionChange))
  | write (w : Write)

structure Outcome (σ α : Type) where
  value : α
  world : σ
  trace : List Event

structure Handler (σ α : Type) where
  run : World σ → σ → Outcome σ α

namespace Handler

variable {σ α β : Type}

instance : Monad (Handler σ) where
  pure a := ⟨fun _ s => ⟨a, s, []⟩⟩
  bind x f := ⟨fun W s =>
    let first := x.run W s
    let second := (f first.value).run W first.world
    ⟨second.value, second.world, first.trace ++ second.trace⟩⟩

@[simp] theorem run_pure (a : α) (W : World σ) (s : σ) :
    (pure a : Handler σ α).run W s = ⟨a, s, []⟩ := rfl

@[simp] theorem run_bind (x : Handler σ α) (f : α → Handler σ β) (W : World σ) (s : σ) :
    (x >>= f).run W s =
      ⟨((f (x.run W s).value).run W (x.run W s).world).value,
       ((f (x.run W s).value).run W (x.run W s).world).world,
       (x.run W s).trace ++ ((f (x.run W s).value).run W (x.run W s).world).trace⟩ := rfl

/-- A call to a stateful collaborator, recorded with its answer. -/
def call (ask : World σ → σ → α × σ) (record : α → Event) : Handler σ α :=
  ⟨fun W s => ⟨(ask W s).1, (ask W s).2, [record (ask W s).1]⟩⟩

@[simp] theorem run_call (ask : World σ → σ → α × σ) (record : α → Event) (W : World σ) (s : σ) :
    (call ask record).run W s = ⟨(ask W s).1, (ask W s).2, [record (ask W s).1]⟩ := rfl

def write (w : Write) : Handler σ Unit := ⟨fun _ s => ⟨(), s, [.write w]⟩⟩

@[simp] theorem run_write (w : Write) (W : World σ) (s : σ) :
    (write w : Handler σ Unit).run W s = ⟨(), s, [.write w]⟩ := rfl

/-- `features.Get().DisableBroadcastSlashings`, a configuration read. -/
def disableBroadcastSlashings : Handler σ Bool := ⟨fun W s => ⟨W.disableBroadcastSlashings, s, []⟩⟩

@[simp] theorem run_disableBroadcastSlashings (W : World σ) (s : σ) :
    (disableBroadcastSlashings : Handler σ Bool).run W s = ⟨W.disableBroadcastSlashings, s, []⟩ :=
  rfl

end Handler

/-! ## Properties of every recorded event -/

/-- The events that act on something outside the handler: pool insertions, notifications,
broadcasts, sync-message submissions and the spawn of the deferred broadcast. -/
def Event.isEffect : Event → Bool
  | .saveAggregatedAttestation .. | .saveUnaggregatedAttestation .. | .send _
  | .broadcastAttestation .. | .broadcast .. | .insertVoluntaryExit _ | .submitSyncMessage ..
  | .insertBLSToExecChange _ | .insertAttesterSlashing .. | .insertProposerSlashing ..
  | .spawnBroadcastBLSChanges _ => true
  | _ => false

/-- The events that hand an operation to a pool or to the `Broadcaster`, directly or through
the deferred broadcast. -/
def Event.touchesPool : Event → Bool
  | .saveAggregatedAttestation .. | .saveUnaggregatedAttestation .. | .broadcastAttestation ..
  | .broadcast .. | .insertVoluntaryExit _ | .insertBLSToExecChange _ | .insertAttesterSlashing ..
  | .insertProposerSlashing .. | .spawnBroadcastBLSChanges _ => true
  | _ => false

theorem Event.touchesPool_of_isEffect {e : Event} (quiet : e.isEffect = false) :
    e.touchesPool = false := by
  cases e <;> first | rfl | cases quiet

namespace Handler

variable {σ α β : Type}

/-- Every event that any run of `x` records satisfies `P`. -/
def Records (P : Event → Prop) (x : Handler σ α) : Prop :=
  ∀ W s, ∀ e ∈ (x.run W s).trace, P e

/-- `x` acts on nothing: it only reads and writes the response. -/
def Quiet (x : Handler σ α) : Prop := Records (fun e => e.isEffect = false) x

theorem Records.mono {P Q : Event → Prop} {x : Handler σ α} (records : Records P x)
    (implies : ∀ e, P e → Q e) : Records Q x :=
  fun W s e member => implies e (records W s e member)

theorem Records.pure {P : Event → Prop} (a : α) : Records P (Pure.pure a : Handler σ α) :=
  fun _ _ _ member => nomatch member

theorem Records.bind {P : Event → Prop} {x : Handler σ α} {f : α → Handler σ β}
    (first : Records P x) (second : ∀ a, Records P (f a)) : Records P (x >>= f) := by
  intro W s e member
  rcases List.mem_append.mp member with member | member
  · exact first W s e member
  · exact second _ W _ e member

theorem Records.call {P : Event → Prop} {ask : World σ → σ → α × σ} {record : α → Event}
    (recorded : ∀ a, P (record a)) : Records P (call ask record) := by
  intro W s e member
  rw [List.mem_singleton.mp member]
  exact recorded _

theorem Records.write {P : Event → Prop} {w : Write} (recorded : P (.write w)) :
    Records P (write w : Handler σ Unit) := by
  intro W s e member
  rw [List.mem_singleton.mp member]
  exact recorded

theorem Records.disableBroadcastSlashings {P : Event → Prop} :
    Records P (disableBroadcastSlashings : Handler σ Bool) :=
  fun _ _ _ member => nomatch member

theorem Quiet.write (w : Write) : Quiet (write w : Handler σ Unit) := Records.write rfl

end Handler

/-! ## Collaborator calls -/

section Calls

variable {σ : Type}

open Handler

def headStateReadOnly : Handler σ (Except String BeaconState) :=
  call (·.headStateReadOnly) .headStateReadOnly

def headState : Handler σ (Except String BeaconState) :=
  call (·.headState) .headState

def headValidatorsIndices (epoch : Nat) : Handler σ (Except String (List Nat)) :=
  call (fun W s => W.headValidatorsIndices s epoch) (.headValidatorsIndices epoch)

def aggregatedAttestations : Handler σ (List Att) :=
  call (·.aggregatedAttestations) .aggregatedAttestations

def unaggregatedAttestations : Handler σ (Except String (List Att)) :=
  call (·.unaggregatedAttestations) .unaggregatedAttestations

def saveAggregatedAttestation (att : Att) : Handler σ (Option String) :=
  call (fun W s => W.saveAggregatedAttestation s att) (.saveAggregatedAttestation att)

def saveUnaggregatedAttestation (att : Att) : Handler σ (Option String) :=
  call (fun W s => W.saveUnaggregatedAttestation s att) (.saveUnaggregatedAttestation att)

def send (event : FeedEvent) : Handler σ Unit :=
  call (fun W s => ((), W.send s event)) (fun _ => .send event)

def broadcastAttestation (subnet : Nat) (att : Att) : Handler σ (Option String) :=
  call (fun W s => W.broadcastAttestation s subnet att) (.broadcastAttestation subnet att)

def broadcast (message : Message) : Handler σ (Option String) :=
  call (fun W s => W.broadcast s message) (.broadcast message)

def pendingExits : Handler σ (Except String (List Eth.SignedVoluntaryExit)) :=
  call (·.pendingExits) .pendingExits

def insertVoluntaryExit (exit : Eth.SignedVoluntaryExit) : Handler σ Unit :=
  call (fun W s => ((), W.insertVoluntaryExit s exit)) (fun _ => .insertVoluntaryExit exit)

def submitSyncMessage (message : Eth.SyncCommitteeMessage) : Handler σ (Option RpcError) :=
  call (fun W s => W.submitSyncMessage s message) (.submitSyncMessage message)

def insertBLSToExecChange (change : Eth.SignedBLSToExecutionChange) : Handler σ Unit :=
  call (fun W s => ((), W.insertBLSToExecChange s change)) (fun _ => .insertBLSToExecChange change)

def pendingBLSToExecChanges : Handler σ (Except String (List Eth.SignedBLSToExecutionChange)) :=
  call (·.pendingBLSToExecChanges) .pendingBLSToExecChanges

def pendingAttesterSlashings (state : BeaconState) : Handler σ (List AttSlashing) :=
  call (fun W s => W.pendingAttesterSlashings s state) (.pendingAttesterSlashings state)

def insertAttesterSlashing (state : BeaconState) (slashing : AttSlashing) :
    Handler σ (Option String) :=
  call (fun W s => W.insertAttesterSlashing s state slashing) (.insertAttesterSlashing state slashing)

def pendingProposerSlashings (state : BeaconState) : Handler σ (List Eth.ProposerSlashing) :=
  call (fun W s => W.pendingProposerSlashings s state) (.pendingProposerSlashings state)

def insertProposerSlashing (state : BeaconState) (slashing : Eth.ProposerSlashing) :
    Handler σ (Option String) :=
  call (fun W s => W.insertProposerSlashing s state slashing) (.insertProposerSlashing state slashing)

/-- `go s.broadcastBLSChanges(ctx, changes)`: the loop itself runs apart from the request
(`BeaconPool.Broadcast.Loop`). -/
def spawnBroadcastBLSChanges (changes : List (Option Eth.SignedBLSToExecutionChange)) :
    Handler σ Unit :=
  ⟨fun _ s => ⟨(), s, [.spawnBroadcastBLSChanges changes]⟩⟩

@[simp] theorem run_spawnBroadcastBLSChanges (changes : List (Option Eth.SignedBLSToExecutionChange))
    (W : World σ) (s : σ) :
    (spawnBroadcastBLSChanges changes).run W s = ⟨(), s, [.spawnBroadcastBLSChanges changes]⟩ := rfl

theorem headStateReadOnly_quiet : Handler.Quiet (headStateReadOnly : Handler σ _) :=
  Handler.Records.call fun _ => rfl

theorem aggregatedAttestations_quiet : Handler.Quiet (aggregatedAttestations : Handler σ _) :=
  Handler.Records.call fun _ => rfl

theorem unaggregatedAttestations_quiet : Handler.Quiet (unaggregatedAttestations : Handler σ _) :=
  Handler.Records.call fun _ => rfl

theorem pendingExits_quiet : Handler.Quiet (pendingExits : Handler σ _) :=
  Handler.Records.call fun _ => rfl

theorem pendingBLSToExecChanges_quiet : Handler.Quiet (pendingBLSToExecChanges : Handler σ _) :=
  Handler.Records.call fun _ => rfl

theorem pendingAttesterSlashings_quiet (state : BeaconState) :
    Handler.Quiet (pendingAttesterSlashings state : Handler σ _) :=
  Handler.Records.call fun _ => rfl

theorem pendingProposerSlashings_quiet (state : BeaconState) :
    Handler.Quiet (pendingProposerSlashings state : Handler σ _) :=
  Handler.Records.call fun _ => rfl

end Calls

/-! ## Writes -/

section Writes

variable {σ : Type}

/-- `httputil.HandleError(w, message, code)`. -/
def handleError (message : String) (code : Nat) : Handler σ Unit :=
  Handler.write (.handleError message code)

/-- `httputil.WriteError(w, err)`. -/
def writeError (err : IndexedVerificationFailureError) : Handler σ Unit :=
  Handler.write (.writeError err)

/-- `httputil.WriteJson(w, response)`. -/
def writeJson (response : ListResponse) : Handler σ Unit :=
  Handler.write (.writeJson response)

/-- `w.Header().Set(key, value)`. -/
def setHeader (key value : String) : Handler σ Unit :=
  Handler.write (.setHeader key value)

/-- Modelled from the spec: `strconv.ParseUint(raw, 10, 64)`, a non-empty string of decimal
digits whose value fits in 64 bits. -/
def parseUint (raw : String) : Option Nat :=
  if raw.data ≠ [] ∧ raw.data.all Char.isDigit then
    let value := raw.data.foldl (fun n c => 10 * n + (c.toNat - '0'.toNat)) 0
    if value < Nat.pow 2 64 then some value else none
  else none

/-- Modelled from the spec: `shared.UintFromQuery(w, r, name, false)`. An absent parameter
reads as `("", 0)`; a present one must parse as a `uint64`, and a failure is a 400, written
before the handler returns. -/
def uintFromQuery (r : Request) (name : String) : Handler σ (Option (String × Nat)) :=
  if r.query name = "" then pure (some ("", 0))
  else match parseUint (r.query name) with
    | some value => pure (some (r.query name, value))
    | none => do
      handleError (name ++ " is invalid") 400
      pure none

theorem uintFromQuery_quiet (r : Request) (name : String) :
    Handler.Quiet (uintFromQuery r name : Handler σ _) := by
  unfold uintFromQuery
  split
  · exact .pure _
  · split
    · exact .pure _
    · exact .bind (.write rfl) fun _ => .pure _

end Writes

end BeaconPool
