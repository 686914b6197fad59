import BeaconPool.Server.Handler

/-! # The other operation endpoints

Voluntary exits, sync-committee messages, BLS-to-execution changes and the two slashing
kinds. `SubmitBLSToExecutionChanges` ends by spawning the deferred broadcast, whose loop is
in `BeaconPool.Broadcast.Loop`. `SubmitAttesterSlashingsV2` keeps the source's missing
`return` after the header check.
-/

namespace BeaconPool

variable {σ : Type}

/-! ## Voluntary exits -/

def listVoluntaryExits (lib : Library) : Handler σ Unit := do
  match ← pendingExits with
  | .error e => handleError ("Could not get exits from the pool: " ++ e) 500
  | .ok sourceExits =>
    writeJson ⟨"", (GoSlice.make (sourceExits.map
      fun e => .signedVoluntaryExit (lib.signedExitFromConsensus e))).marshal⟩

/-- The checks of a converted exit against the head state, in the source's order: epoch
start, slot processing, validator lookup, `VerifyExitAndSignature`; the first failure gives
the message and status written. -/
def checkVoluntaryExit (lib : Library) (headState : BeaconState) (exit : Eth.SignedVoluntaryExit) :
    Except (String × Nat) Unit :=
  match lib.epochStart exit.exit.epoch with
  | .error e => .error ("Could not get epoch start: " ++ e, 500)
  | .ok epochStart =>
    match lib.processSlotsIfPossible headState epochStart with
    | .error e => .error ("Could not process slots: " ++ e, 500)
    | .ok headState =>
      match lib.validatorAtIndexReadOnly headState exit.exit.validatorIndex with
      | .error (.outOfBounds e) => .error ("Could not get validator: " ++ e, 400)
      | .error (.other e) => .error ("Could not get validator: " ++ e, 500)
      | .ok val =>
        match lib.verifyExitAndSignature val headState exit with
        | .error e => .error ("Invalid exit: " ++ e, 400)
        | .ok () => .ok ()

def submitVoluntaryExit (lib : Library) (r : Request) : Handler σ Unit :=
  match lib.decodeSignedVoluntaryExit r.body with
  | .eof => handleError "No data submitted" 400
  | .error e => handleError ("Could not decode request body: " ++ e) 400
  | .ok req =>
    match lib.signedVoluntaryExitToConsensus req with
    | .error e => handleError ("Could not convert request exit to consensus exit: " ++ e) 400
    | .ok exit => do
      match ← headState with
      | .error e => handleError ("Could not get head state: " ++ e) 500
      | .ok headState =>
        match checkVoluntaryExit lib headState exit with
        | .error (message, code) => handleError message code
        | .ok () => do
          insertVoluntaryExit exit
          match ← broadcast (.voluntaryExit exit) with
          | some e => handleError ("Could not broadcast exit: " ++ e) 500
          | none => pure ()

/-! ## Sync-committee messages -/

/-- The conversion loop, failures indexed by request position. -/
def collectValidMessages (lib : Library) :
    Nat → List Structs.SyncCommitteeMessage →
      List IndexedVerificationFailure × List Eth.SyncCommitteeMessage
  | _, [] => ([], [])
  | i, sourceMsg :: rest =>
    let (msgFailures, validMessages) := collectValidMessages lib (i + 1) rest
    match lib.syncCommitteeMessageToConsensus sourceMsg with
    | .error e =>
      (⟨i, "Could not convert request message to consensus message: " ++ e⟩ :: msgFailures,
        validMessages)
    | .ok msg => (msgFailures, msg :: validMessages)

/-- The submission loop; it stops at the first error. -/
def submitSyncMessages : List Eth.SyncCommitteeMessage → Handler σ (Option RpcError)
  | [] => pure none
  | msg :: rest => do
    match ← submitSyncMessage msg with
    | some rpcerr => pure (some rpcerr)
    | none => submitSyncMessages rest

def submitSyncCommitteeSignatures (lib : Library) (r : Request) : Handler σ Unit :=
  match lib.decodeSyncCommitteeMessages r.body with
  | .eof => handleError "No data submitted" 400
  | .error e => handleError ("Could not decode request body: " ++ e) 400
  | .ok [] => handleError "No data submitted" 400
  | .ok data => do
    let (msgFailures, validMessages) := collectValidMessages lib 0 data
    match ← submitSyncMessages validMessages with
    | some rpcerr =>
      handleError ("Could not submit message: " ++ rpcerr.err) (lib.errorReasonToHTTP rpcerr.reason)
    | none =>
      if msgFailures ≠ [] then
        writeError ⟨400, "One or more messages failed validation", msgFailures⟩

/-! ## BLS-to-execution changes -/

/-- The three checks of one change of `SubmitBLSToExecutionChanges` against the head state
`st`, in the source's order, with the failure it records at request position `i`. -/
def checkBLSChange (lib : Library) (st : BeaconState) (i : Nat)
    (change : Structs.SignedBLSToExecutionChange) :
    Except IndexedVerificationFailure Eth.SignedBLSToExecutionChange :=
  match lib.signedBLSToExecutionChangeToConsensus change with
  | .error e => .error ⟨i, "Unable to decode SignedBLSToExecutionChange: " ++ e⟩
  | .ok sbls =>
    match lib.validateBLSToExecutionChange st sbls with
    | .error e => .error ⟨i, "Could not validate SignedBLSToExecutionChange: " ++ e⟩
    | .ok () =>
      match lib.verifyBLSChangeSignature st sbls with
      | .error e => .error ⟨i, "Could not validate signature: " ++ e⟩
      | .ok () => .ok sbls

/-- The per-change loop: a change that passes is notified, inserted, and queued for the
deferred broadcast from Capella on. -/
def processBLSChanges (lib : Library) (st : BeaconState) :
    Nat → List Structs.SignedBLSToExecutionChange → List IndexedVerificationFailure →
      List Eth.SignedBLSToExecutionChange →
      Handler σ (List IndexedVerificationFailure × List Eth.SignedBLSToExecutionChange)
  | _, [], failures, toBroadcast => pure (failures, toBroadcast)
  | i, change :: rest, failures, toBroadcast =>
    match checkBLSChange lib st i change with
    | .error failure => processBLSChanges lib st (i + 1) rest (failures ++ [failure]) toBroadcast
    | .ok sbls => do
      send (.blsToExecutionChangeReceived sbls)
      insertBLSToExecChange sbls
      processBLSChanges lib st (i + 1) rest failures
        (if Version.capella ≤ st.version then toBroadcast ++ [sbls] else toBroadcast)

def submitBLSToExecutionChanges (lib : Library) (r : Request) : Handler σ Unit := do
  match ← headStateReadOnly with
  | .error e => handleError ("Could not get head state: " ++ e) 500
  | .ok st =>
    match lib.decodeSignedBLSToExecutionChanges r.body with
    | .eof => handleError "No data submitted" 400
    | .error e => handleError ("Could not decode request body: " ++ e) 400
    | .ok [] => handleError "No data submitted" 400
    | .ok req => do
      let (failures, toBroadcast) ← processBLSChanges lib st 0 req [] []
      spawnBroadcastBLSChanges (toBroadcast.map some)
      if failures ≠ [] then
        writeError ⟨400, "One or more BLSToExecutionChange failed validation", failures⟩

def listBLSToExecutionChanges (lib : Library) : Handler σ Unit := do
  match ← pendingBLSToExecChanges with
  | .error e => handleError ("Could not get BLS to execution changes: " ++ e) 500
  | .ok sourceChanges =>
    writeJson ⟨"", ((lib.signedBLSChangesFromConsensus sourceChanges).map
      .signedBLSToExecutionChange).marshal⟩

/-! ## Attester slashings -/

def AttSlashing.typeName : AttSlashing → String
  | .phase0 _ => "*eth.AttesterSlashing"
  | .electra _ => "*eth.AttesterSlashingElectra"

/-- The loop of `GetAttesterSlashings` filling `make([]*structs.AttesterSlashing, n)`. -/
def convertAttesterSlashings (lib : Library) : List AttSlashing → Except String (List ApiItem)
  | [] => .ok []
  | .phase0 as :: rest =>
    (convertAttesterSlashings lib rest).map (.attesterSlashing (lib.attesterSlashingFromConsensus as) :: ·)
  | slashing@(.electra _) :: _ => .error ("Unable to convert slashing of type " ++ slashing.typeName)

/-- The loop of `GetAttesterSlashingsV2` appending to `var attStructs []interface{}`. -/
def collectAttesterSlashings (lib : Library) (electra : Bool) :
    List AttSlashing → GoSlice ApiItem → Except String (GoSlice ApiItem)
  | [], attStructs => .ok attStructs
  | slashing :: rest, attStructs =>
    match electra, slashing with
    | true, .electra a =>
      collectAttesterSlashings lib electra rest
        (attStructs.append (.attesterSlashingElectra (lib.attesterSlashingElectraFromConsensus a)))
    | true, .phase0 _ =>
      .error ("Unable to convert slashing of type " ++ slashing.typeName ++ " to an Electra slashing")
    | false, .phase0 a =>
      collectAttesterSlashings lib electra rest
        (attStructs.append (.attesterSlashing (lib.attesterSlashingFromConsensus a)))
    | false, .electra _ =>
      .error ("Unable to convert slashing of type " ++ slashing.typeName ++ " to a Phase0 slashing")

def getAttesterSlashings (lib : Library) : Handler σ Unit := do
  match ← headStateReadOnly with
  | .error e => handleError ("Could not get head state: " ++ e) 500
  | .ok headState =>
    let sourceSlashings ← pendingAttesterSlashings headState
    match convertAttesterSlashings lib sourceSlashings with
    | .error message => handleError message 500
    | .ok slashings => writeJson ⟨"", (GoSlice.make slashings).marshal⟩

def getAttesterSlashingsV2 (lib : Library) : Handler σ Unit := do
  match ← headStateReadOnly with
  | .error e => handleError ("Could not get head state: " ++ e) 500
  | .ok headState =>
    let sourceSlashings ← pendingAttesterSlashings headState
    match collectAttesterSlashings lib (decide (Version.electra ≤ headState.version))
        sourceSlashings GoSlice.nil with
    | .error message => handleError message 500
    | .ok attStructs => do
      setHeader versionHeader headState.version.string
      writeJson ⟨headState.version.string, attStructs.marshal⟩

/-- The tail shared by `submitAttesterSlashing` and `SubmitProposerSlashing`: head state,
the pure checks (which return the advanced state), insertion, notification, and the
broadcast unless `DisableBroadcastSlashings`. -/
def submitSlashingWith (check : BeaconState → Except (String × Nat) BeaconState)
    (insert : BeaconState → Handler σ (Option String)) (insertError : String)
    (event : FeedEvent) (message : Message) : Handler σ Unit := do
  match ← headState with
  | .error e => handleError ("Could not get head state: " ++ e) 500
  | .ok headState =>
    match check headState with
    | .error (text, code) => handleError text code
    | .ok headState =>
      match ← insert headState with
      | some e => handleError (insertError ++ e) 500
      | none => do
        send event
        let disabled ← Handler.disableBroadcastSlashings
        if !disabled then
          match ← broadcast message with
          | some e => handleError ("Could not broadcast slashing object: " ++ e) 500
          | none => pure ()

def checkAttesterSlashing (lib : Library) (headState : BeaconState) (slashing : AttSlashing) :
    Except (String × Nat) BeaconState :=
  match lib.processSlotsIfPossible headState slashing.firstAttestation.data.slot with
  | .error e => .error ("Could not process slots: " ++ e, 500)
  | .ok headState =>
    match lib.verifyAttesterSlashing headState slashing with
    | .error e => .error ("Invalid attester slashing: " ++ e, 400)
    | .ok () => .ok headState

def submitAttesterSlashing (lib : Library) (slashing : AttSlashing) : Handler σ Unit :=
  submitSlashingWith (checkAttesterSlashing lib · slashing) (insertAttesterSlashing · slashing)
    "Could not insert attester slashing into pool: " (.attesterSlashingReceived slashing)
    (.attesterSlashing slashing)

/-- Decoding and conversion of one attester slashing, as each submit branch does it. -/
def decodeAndSubmitAttesterSlashing {Wire : Type} (lib : Library) (decode : String → Decoded Wire)
    (toConsensus : Wire → Except String AttSlashing) (r : Request) : Handler σ Unit :=
  match decode r.body with
  | .eof => handleError "No data submitted" 400
  | .error e => handleError ("Could not decode request body: " ++ e) 400
  | .ok req =>
    match toConsensus req with
    | .error e => handleError ("Could not convert request slashing to consensus slashing: " ++ e) 400
    | .ok slashing => submitAttesterSlashing lib slashing

def submitAttesterSlashings (lib : Library) (r : Request) : Handler σ Unit :=
  decodeAndSubmitAttesterSlashing lib lib.decodeAttesterSlashing
    (fun req => (lib.attesterSlashingToConsensus req).map .phase0) r

/-- The header check writes its 400 and falls through, as in the source (the `if` is one
action followed by the rest, not a statement that would copy the rest into both branches). -/
def submitAttesterSlashingsV2 (lib : Library) (r : Request) : Handler σ Unit := do
  (if r.header versionHeader = "" then handleError (versionHeader ++ " header is required") 400
    else pure ())
  match Version.fromString (r.header versionHeader) with
  | .error e => handleError ("Invalid version: " ++ e) 400
  | .ok v =>
    if Version.electra ≤ v then
      decodeAndSubmitAttesterSlashing lib lib.decodeAttesterSlashingElectra
        (fun req => (lib.attesterSlashingElectraToConsensus req).map .electra) r
    else
      decodeAndSubmitAttesterSlashing lib lib.decodeAttesterSlashing
        (fun req => (lib.attesterSlashingToConsensus req).map .phase0) r

/-! ## Proposer slashings -/

def getProposerSlashings (lib : Library) : Handler σ Unit := do
  match ← headStateReadOnly with
  | .error e => handleError ("Could not get head state: " ++ e) 500
  | .ok headState =>
    let sourceSlashings ← pendingProposerSlashings headState
    writeJson ⟨"", ((lib.proposerSlashingsFromConsensus sourceSlashings).map .proposerSlashing).marshal⟩

def checkProposerSlashing (lib : Library) (headState : BeaconState)
    (slashing : Eth.ProposerSlashing) : Except (String × Nat) BeaconState :=
  match lib.processSlotsIfPossible headState slashing.header1.header.slot with
  | .error e => .error ("Could not process slots: " ++ e, 500)
  | .ok headState =>
    match lib.verifyProposerSlashing headState slashing with
    | .error e => .error ("Invalid proposer slashing: " ++ e, 400)
    | .ok () => .ok headState

def submitProposerSlashing (lib : Library) (r : Request) : Handler σ Unit :=
  match lib.decodeProposerSlashing r.body with
  | .eof => handleError "No data submitted" 400
  | .error e => handleError ("Could not decode request body: " ++ e) 400
  | .ok req =>
    match lib.proposerSlashingToConsensus req with
    | .error e => handleError ("Could not convert request slashing to consensus slashing: " ++ e) 400
    | .ok slashing =>
      submitSlashingWith (checkProposerSlashing lib · slashing) (insertProposerSlashing · slashing)
        "Could not insert proposer slashing into pool: " (.proposerSlashingReceived slashing)
        (.proposerSlashing slashing)

end BeaconPool
