import BeaconPool.Server.Handler

/-! # The attestation endpoints

`ListAttestations`, `ListAttestationsV2`, `SubmitAttestations`, `SubmitAttestationsV2` and
the two batch loops behind them. `handleAttestations` and `handleAttestationsElectra` are
the same two-phase loop over a different record: `AttestationVariant` holds what differs
(the conversion, and how the committee index is obtained, which only the Electra record
can fail), and `handleAttestationsWith` is the loop.
-/

namespace BeaconPool

variable {σ : Type}

/-- The Go type name `%T` prints for an attestation. -/
def Att.typeName : Att → String
  | .phase0 _ => "*eth.Attestation"
  | .electra _ => "*eth.AttestationElectra"

def Att.signature : Att → Bytes
  | .phase0 att => att.signature
  | .electra att => att.signature

/-! ## Listing -/

/-- `shouldIncludeAttestation`: an absent (`""`) parameter matches any value. -/
def shouldIncludeAttestation (data : Eth.AttestationData) (rawSlot : String) (slot : Nat)
    (rawCommitteeIndex : String) (committeeIndex : Nat) : Bool :=
  let committeeIndexMatch := !(rawCommitteeIndex != "" && data.committeeIndex != committeeIndex)
  let slotMatch := !(rawSlot != "" && data.slot != slot)
  committeeIndexMatch && slotMatch

/-- The filtering loop of the list endpoints: every entry must be of the expected record
(`*eth.AttestationElectra` when `electra`, else `*eth.Attestation`); the matching ones are
converted and appended. -/
def filterAttestations (lib : Library) (electra : Bool) (rawSlot : String) (slot : Nat)
    (rawCommitteeIndex : String) (committeeIndex : Nat) :
    List Att → GoSlice ApiItem → Except String (GoSlice ApiItem)
  | [], filtered => .ok filtered
  | att :: rest, filtered =>
    match electra, att with
    | true, .electra attElectra =>
      filterAttestations lib electra rawSlot slot rawCommitteeIndex committeeIndex rest
        (if shouldIncludeAttestation attElectra.data rawSlot slot rawCommitteeIndex committeeIndex
          then filtered.append (.attestationElectra (lib.attElectraFromConsensus attElectra))
          else filtered)
    | false, .phase0 attOld =>
      filterAttestations lib electra rawSlot slot rawCommitteeIndex committeeIndex rest
        (if shouldIncludeAttestation attOld.data rawSlot slot rawCommitteeIndex committeeIndex
          then filtered.append (.attestation (lib.attFromConsensus attOld))
          else filtered)
    | _, _ => .error ("Unable to convert attestation of type " ++ att.typeName)

def listAttestations (lib : Library) (r : Request) : Handler σ Unit := do
  match ← uintFromQuery r "slot" with
  | none => pure ()
  | some (rawSlot, slot) =>
    match ← uintFromQuery r "committee_index" with
    | none => pure ()
    | some (rawCommitteeIndex, committeeIndex) =>
      let attestations ← aggregatedAttestations
      match ← unaggregatedAttestations with
      | .error e => handleError ("Could not get unaggregated attestations: " ++ e) 500
      | .ok unaggAtts =>
        match filterAttestations lib false rawSlot slot rawCommitteeIndex committeeIndex
            (attestations ++ unaggAtts) (GoSlice.make []) with
        | .error message => handleError message 500
        | .ok filteredAtts => writeJson ⟨"", filteredAtts.marshal⟩

def listAttestationsV2 (lib : Library) (r : Request) : Handler σ Unit := do
  match ← uintFromQuery r "slot" with
  | none => pure ()
  | some (rawSlot, slot) =>
    match ← uintFromQuery r "committee_index" with
    | none => pure ()
    | some (rawCommitteeIndex, committeeIndex) =>
      match ← headStateReadOnly with
      | .error e => handleError ("Could not get head state: " ++ e) 500
      | .ok headState =>
        let attestations ← aggregatedAttestations
        match ← unaggregatedAttestations with
        | .error e => handleError ("Could not get unaggregated attestations: " ++ e) 500
        | .ok unaggAtts =>
          match filterAttestations lib (decide (Version.electra ≤ headState.version)) rawSlot slot
              rawCommitteeIndex committeeIndex (attestations ++ unaggAtts) (GoSlice.make []) with
          | .error message => handleError message 500
          | .ok filteredAtts => writeJson ⟨headState.version.string, filteredAtts.marshal⟩

/-! ## Submission -/

/-- What the two batch loops do differently. -/
structure AttestationVariant (Wire Consensus : Type) where
  toConsensus : Wire → Except String Consensus
  toAtt : Consensus → Att
  committeeIndex : Consensus → Except String Nat

/-- `handleAttestations`: the committee index is `Data.CommitteeIndex`. -/
def baseVariant (lib : Library) : AttestationVariant Structs.Attestation Eth.Attestation :=
  ⟨lib.attestationToConsensus, .phase0, fun att => .ok att.data.committeeIndex⟩

/-- `handleAttestationsElectra`: the committee index is derived by `GetCommitteeIndex`. -/
def electraVariant (lib : Library) :
    AttestationVariant Structs.AttestationElectra Eth.AttestationElectra :=
  ⟨lib.attestationElectraToConsensus, .electra, Eth.AttestationElectra.getCommitteeIndex⟩

variable {Wire Consensus : Type}

/-- The first loop: conversion and signature parsing of every item, with the failures
indexed by request position; nothing is called on the world. -/
def collectValidAttestations (lib : Library) (variant : AttestationVariant Wire Consensus) :
    Nat → List Wire → List IndexedVerificationFailure × List Consensus
  | _, [] => ([], [])
  | i, sourceAtt :: rest =>
    let (attFailures, validAttestations) := collectValidAttestations lib variant (i + 1) rest
    match variant.toConsensus sourceAtt with
    | .error e =>
      (⟨i, "Could not convert request attestation to consensus attestation: " ++ e⟩ :: attFailures,
        validAttestations)
    | .ok att =>
      match lib.signatureFromBytes (variant.toAtt att).signature with
      | .error e => (⟨i, "Incorrect attestation signature: " ++ e⟩ :: attFailures, validAttestations)
      | .ok () => (attFailures, att :: validAttestations)

/-- `UnaggregatedAttReceived` for an unaggregated attestation; an aggregated one is not
notified, for want of a selection proof. -/
def notifyUnaggregated (att : Att) : Handler σ Unit :=
  if !isAggregated att then send (.unaggregatedAttReceived att) else pure ()

/-- `SaveAggregatedAttestation` or `SaveUnaggregatedAttestation`, by aggregation; the error
is only logged. -/
def saveAttestation (att : Att) : Handler σ (Option String) :=
  if isAggregated att then saveAggregatedAttestation att else saveUnaggregatedAttestation att

/-- The body of the second loop for one valid attestation: notify, look up the validators,
derive the subnet, broadcast, save. It returns whether the item's index goes to
`failedBroadcasts` (a failed lookup or broadcast, after which the rest of the body is
skipped), or the error of a failed committee-index derivation, which ends the call. -/
def broadcastValidAttestation (lib : Library) (variant : AttestationVariant Wire Consensus)
    (consensusAtt : Consensus) : Handler σ (Except String Bool) := do
  let att := variant.toAtt consensusAtt
  notifyUnaggregated att
  match ← headValidatorsIndices (lib.toEpoch att.data.slot) with
  | .error _ => pure (.ok true)
  | .ok vals =>
    match variant.committeeIndex consensusAtt with
    | .error e => pure (.error ("failed to retrieve attestation committee index: " ++ e))
    | .ok committeeIndex =>
      match ← broadcastAttestation
          (lib.computeSubnetFromCommitteeAndSlot vals.length committeeIndex att.data.slot) att with
      | some _ => pure (.ok true)
      | none => do
        let _ ← saveAttestation att
        pure (.ok false)

/-- The second loop, over the valid attestations with their index `i` in that list; a failed
item records `strconv.Itoa(i)`. -/
def broadcastValidAttestations (lib : Library) (variant : AttestationVariant Wire Consensus) :
    Nat → List Consensus → List String → Handler σ (Except String (List String))
  | _, [], failedBroadcasts => pure (.ok failedBroadcasts)
  | i, consensusAtt :: rest, failedBroadcasts => do
    match ← broadcastValidAttestation lib variant consensusAtt with
    | .error e => pure (.error e)
    | .ok true =>
      broadcastValidAttestations lib variant (i + 1) rest (failedBroadcasts ++ [toString i])
    | .ok false => broadcastValidAttestations lib variant (i + 1) rest failedBroadcasts

/-- The body shared by `handleAttestations` and `handleAttestationsElectra`: it returns the
per-item failures and the failed broadcasts, or a whole-request error. -/
def handleAttestationsWith (lib : Library) (variant : AttestationVariant Wire Consensus)
    (unmarshal : String → Except String (List Wire)) (data : String) :
    Handler σ (Except String (List IndexedVerificationFailure × List String)) :=
  match unmarshal data with
  | .error e => pure (.error ("failed to unmarshal attestation: " ++ e))
  | .ok [] => pure (.error "no data submitted")
  | .ok sourceAttestations => do
    let (attFailures, validAttestations) := collectValidAttestations lib variant 0 sourceAttestations
    match ← broadcastValidAttestations lib variant 0 validAttestations [] with
    | .error e => pure (.error e)
    | .ok failedBroadcasts => pure (.ok (attFailures, failedBroadcasts))

def handleAttestations (lib : Library) (data : String) :
    Handler σ (Except String (List IndexedVerificationFailure × List String)) :=
  handleAttestationsWith lib (baseVariant lib) lib.unmarshalAttestations data

def handleAttestationsElectra (lib : Library) (data : String) :
    Handler σ (Except String (List IndexedVerificationFailure × List String)) :=
  handleAttestationsWith lib (electraVariant lib) lib.unmarshalAttestationsElectra data

/-- The response of both submit endpoints once the batch was handled: broadcast failures
first (500), then per-item failures (400), else nothing is written (200). -/
def respondToAttestations (attFailures : List IndexedVerificationFailure)
    (failedBroadcasts : List String) : Handler σ Unit :=
  if failedBroadcasts ≠ [] then
    handleError
      ("Attestations at index " ++ ", ".intercalate failedBroadcasts ++ " could not be broadcasted")
      500
  else if attFailures ≠ [] then
    writeError ⟨400, "One or more attestations failed validation", attFailures⟩
  else pure ()

def submitAttestations (lib : Library) (r : Request) : Handler σ Unit :=
  match lib.decodeRawMessage r.body with
  | .eof => handleError "No data submitted" 400
  | .error e => handleError ("Could not decode request body: " ++ e) 400
  | .ok data => do
    match ← handleAttestations lib data with
    | .error e => handleError e 400
    | .ok (attFailures, failedBroadcasts) => respondToAttestations attFailures failedBroadcasts

def submitAttestationsV2 (lib : Library) (r : Request) : Handler σ Unit :=
  if r.header versionHeader = "" then handleError (versionHeader ++ " header is required") 400
  else
    match Version.fromString (r.header versionHeader) with
    | .error e => handleError ("Invalid version: " ++ e) 400
    | .ok v =>
      match lib.decodeRawMessage r.body with
      | .eof => handleError "No data submitted" 400
      | .error e => handleError ("Could not decode request body: " ++ e) 400
      | .ok data => do
        let result ←
          if Version.electra ≤ v then handleAttestationsElectra lib data
          else handleAttestations lib data
        match result with
        | .error e => handleError ("Failed to handle attestations: " ++ e) 400
        | .ok (attFailures, failedBroadcasts) => respondToAttestations attFailures failedBroadcasts

end BeaconPool
