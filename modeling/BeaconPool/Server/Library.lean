import BeaconPool.Api.Structs

/-! # The pure collaborators

Every function of another package that the handlers call and that reads nothing but its
arguments: JSON decoding, the `structs` conversions, BLS signature parsing, the `blocks`
validators, `transition.ProcessSlotsIfPossible`, the state's validator lookup and the
`slots` and `helpers` arithmetic. A `Library` is one behaviour of all of them; the
results about the handlers hold for every `Library`.
-/

namespace BeaconPool

instance : Inhabited (GoSlice α) := ⟨GoSlice.nil⟩

instance : Inhabited (Decoded α) := ⟨.eof⟩

/-- `GoSlice` map, as a `make` and a filling loop do it: nil only when the source is. -/
def GoSlice.map (f : α → β) (s : GoSlice α) : GoSlice β :=
  ⟨s.items.map f, s.isNil, fun h => by simp [s.nil_empty h]⟩

/-- An error of `ValidatorAtIndexReadOnly`: `consensus_types.ErrOutOfBounds`, or another. -/
inductive ValidatorError where
  | outOfBounds (message : String)
  | other (message : String)
  deriving DecidableEq, Repr, Inhabited

def ValidatorError.message : ValidatorError → String
  | outOfBounds message => message
  | other message => message

/-- `core.ErrorReason`. -/
inductive ErrorReason where
  | internal
  | unavailable
  | badRequest
  | notFound
  deriving DecidableEq, Repr, Inhabited

/-- `core.RpcError`. -/
structure RpcError where
  err : String
  reason : ErrorReason
  deriving DecidableEq, Repr, Inhabited

structure Library where
  decodeRawMessage : String → Decoded String
  unmarshalAttestations : String → Except String (List Structs.Attestation)
  unmarshalAttestationsElectra : String → Except String (List Structs.AttestationElectra)
  decodeSignedVoluntaryExit : String → Decoded Structs.SignedVoluntaryExit
  decodeSyncCommitteeMessages : String → Decoded (List Structs.SyncCommitteeMessage)
  decodeSignedBLSToExecutionChanges : String → Decoded (List Structs.SignedBLSToExecutionChange)
  decodeAttesterSlashing : String → Decoded Structs.AttesterSlashing
  decodeAttesterSlashingElectra : String → Decoded Structs.AttesterSlashingElectra
  decodeProposerSlashing : String → Decoded Structs.ProposerSlashing
  attestationToConsensus : Structs.Attestation → Except String Eth.Attestation
  attestationElectraToConsensus : Structs.AttestationElectra → Except String Eth.AttestationElectra
  attFromConsensus : Eth.Attestation → Structs.Attestation
  attElectraFromConsensus : Eth.AttestationElectra → Structs.AttestationElectra
  signedVoluntaryExitToConsensus : Structs.SignedVoluntaryExit → Except String Eth.SignedVoluntaryExit
  signedExitFromConsensus : Eth.SignedVoluntaryExit → Structs.SignedVoluntaryExit
  syncCommitteeMessageToConsensus :
    Structs.SyncCommitteeMessage → Except String Eth.SyncCommitteeMessage
  signedBLSToExecutionChangeToConsensus :
    Structs.SignedBLSToExecutionChange → Except String Eth.SignedBLSToExecutionChange
  signedBLSChangesFromConsensus :
    List Eth.SignedBLSToExecutionChange → GoSlice Structs.SignedBLSToExecutionChange
  attesterSlashingToConsensus : Structs.AttesterSlashing → Except String Eth.AttesterSlashing
  attesterSlashingElectraToConsensus :
    Structs.AttesterSlashingElectra → Except String Eth.AttesterSlashingElectra
  attesterSlashingFromConsensus : Eth.AttesterSlashing → Structs.AttesterSlashing
  attesterSlashingElectraFromConsensus : Eth.AttesterSlashingElectra → Structs.AttesterSlashingElectra
  proposerSlashingToConsensus : Structs.ProposerSlashing → Except String Eth.ProposerSlashing
  proposerSlashingsFromConsensus : List Eth.ProposerSlashing → GoSlice Structs.ProposerSlashing
  signatureFromBytes : Bytes → Except String Unit
  verifyExitAndSignature : Validator → BeaconState → Eth.SignedVoluntaryExit → Except String Unit
  validateBLSToExecutionChange : BeaconState → Eth.SignedBLSToExecutionChange → Except String Unit
  verifyBLSChangeSignature : BeaconState → Eth.SignedBLSToExecutionChange → Except String Unit
  verifyAttesterSlashing : BeaconState → AttSlashing → Except String Unit
  verifyProposerSlashing : BeaconState → Eth.ProposerSlashing → Except String Unit
  processSlotsIfPossible : BeaconState → Nat → Except String BeaconState
  validatorAtIndexReadOnly : BeaconState → Nat → Except ValidatorError Validator
  toEpoch : Nat → Nat
  epochStart : Nat → Except String Nat
  computeSubnetFromCommitteeAndSlot : Nat → Nat → Nat → Nat
  errorReasonToHTTP : ErrorReason → Nat
  deriving Inhabited

end BeaconPool
