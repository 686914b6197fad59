import BeaconPool.Handlers.Attestations
import BeaconPool.Handlers.Operations

/-! # The endpoints of the pool API

The fifteen HTTP handlers of the file, as one table `Endpoint.handler`, so that statements
about "every handler" quantify over `Endpoint`. The seven read endpoints act on nothing
(`Endpoint.quiet`), and the sync-committee endpoint hands nothing to a pool or to the
`Broadcaster` (`submitSyncCommitteeSignatures_poolFree`).
-/

namespace BeaconPool

variable {σ : Type}

inductive Endpoint where
  | listAttestations
  | listAttestationsV2
  | submitAttestations
  | submitAttestationsV2
  | listVoluntaryExits
  | submitVoluntaryExit
  | submitSyncCommitteeSignatures
  | submitBLSToExecutionChanges
  | listBLSToExecutionChanges
  | getAttesterSlashings
  | getAttesterSlashingsV2
  | submitAttesterSlashings
  | submitAttesterSlashingsV2
  | getProposerSlashings
  | submitProposerSlashing
  deriving DecidableEq, Repr

def Endpoint.handler (lib : Library) : Endpoint → Request → Handler σ Unit
  | .listAttestations, r => BeaconPool.listAttestations lib r
  | .listAttestationsV2, r => BeaconPool.listAttestationsV2 lib r
  | .submitAttestations, r => BeaconPool.submitAttestations lib r
  | .submitAttestationsV2, r => BeaconPool.submitAttestationsV2 lib r
  | .listVoluntaryExits, _ => BeaconPool.listVoluntaryExits lib
  | .submitVoluntaryExit, r => BeaconPool.submitVoluntaryExit lib r
  | .submitSyncCommitteeSignatures, r => BeaconPool.submitSyncCommitteeSignatures lib r
  | .submitBLSToExecutionChanges, r => BeaconPool.submitBLSToExecutionChanges lib r
  | .listBLSToExecutionChanges, _ => BeaconPool.listBLSToExecutionChanges lib
  | .getAttesterSlashings, _ => BeaconPool.getAttesterSlashings lib
  | .getAttesterSlashingsV2, _ => BeaconPool.getAttesterSlashingsV2 lib
  | .submitAttesterSlashings, r => BeaconPool.submitAttesterSlashings lib r
  | .submitAttesterSlashingsV2, r => BeaconPool.submitAttesterSlashingsV2 lib r
  | .getProposerSlashings, _ => BeaconPool.getProposerSlashings lib
  | .submitProposerSlashing, r => BeaconPool.submitProposerSlashing lib r

/-- The endpoints that only read the pools and the head state. -/
def Endpoint.isRead : Endpoint → Bool
  | .listAttestations | .listAttestationsV2 | .listVoluntaryExits | .listBLSToExecutionChanges
  | .getAttesterSlashings | .getAttesterSlashingsV2 | .getProposerSlashings => true
  | _ => false

/-! ## The read endpoints act on nothing -/

open Handler in
theorem listAttestations_quiet (lib : Library) (r : Request) :
    Quiet (listAttestations lib r : Handler σ Unit) := by
  refine .bind (uintFromQuery_quiet r "slot") fun parsedSlot => ?_
  rcases parsedSlot with _ | ⟨rawSlot, slot⟩
  · exact .pure _
  refine .bind (uintFromQuery_quiet r "committee_index") fun parsedIndex => ?_
  rcases parsedIndex with _ | ⟨rawCommitteeIndex, committeeIndex⟩
  · exact .pure _
  refine .bind aggregatedAttestations_quiet fun _ => .bind unaggregatedAttestations_quiet fun fetched => ?_
  split
  · exact .write rfl
  · split <;> exact .write rfl

open Handler in
theorem listAttestationsV2_quiet (lib : Library) (r : Request) :
    Quiet (listAttestationsV2 lib r : Handler σ Unit) := by
  refine .bind (uintFromQuery_quiet r "slot") fun parsedSlot => ?_
  rcases parsedSlot with _ | ⟨rawSlot, slot⟩
  · exact .pure _
  refine .bind (uintFromQuery_quiet r "committee_index") fun parsedIndex => ?_
  rcases parsedIndex with _ | ⟨rawCommitteeIndex, committeeIndex⟩
  · exact .pure _
  refine .bind headStateReadOnly_quiet fun fetchedState => ?_
  rcases fetchedState with _ | headState
  · exact .write rfl
  refine .bind aggregatedAttestations_quiet fun _ => .bind unaggregatedAttestations_quiet fun fetched => ?_
  split
  · exact .write rfl
  · split <;> exact .write rfl

open Handler in
theorem listVoluntaryExits_quiet (lib : Library) :
    Quiet (listVoluntaryExits lib : Handler σ Unit) :=
  .bind pendingExits_quiet fun fetched => by cases fetched <;> exact .write rfl

open Handler in
theorem listBLSToExecutionChanges_quiet (lib : Library) :
    Quiet (listBLSToExecutionChanges lib : Handler σ Unit) :=
  .bind pendingBLSToExecChanges_quiet fun fetched => by cases fetched <;> exact .write rfl

open Handler in
theorem getAttesterSlashings_quiet (lib : Library) :
    Quiet (getAttesterSlashings lib : Handler σ Unit) := by
  refine .bind headStateReadOnly_quiet fun fetched => ?_
  rcases fetched with _ | headState
  · exact .write rfl
  · exact .bind (pendingAttesterSlashings_quiet headState) fun _ => by split <;> exact .write rfl

open Handler in
theorem getAttesterSlashingsV2_quiet (lib : Library) :
    Quiet (getAttesterSlashingsV2 lib : Handler σ Unit) := by
  refine .bind headStateReadOnly_quiet fun fetched => ?_
  rcases fetched with _ | headState
  · exact .write rfl
  · refine .bind (pendingAttesterSlashings_quiet headState) fun _ => ?_
    split
    · exact .write rfl
    · exact .bind (.write rfl) fun _ => .write rfl

open Handler in
theorem getProposerSlashings_quiet (lib : Library) :
    Quiet (getProposerSlashings lib : Handler σ Unit) := by
  refine .bind headStateReadOnly_quiet fun fetched => ?_
  rcases fetched with _ | headState
  · exact .write rfl
  · exact .bind (pendingProposerSlashings_quiet headState) fun _ => .write rfl

theorem Endpoint.quiet (lib : Library) {endpoint : Endpoint} (read : endpoint.isRead = true)
    (r : Request) : Handler.Quiet (endpoint.handler lib r : Handler σ Unit) := by
  cases endpoint
  case listAttestations => exact listAttestations_quiet lib r
  case listAttestationsV2 => exact listAttestationsV2_quiet lib r
  case listVoluntaryExits => exact listVoluntaryExits_quiet lib
  case listBLSToExecutionChanges => exact listBLSToExecutionChanges_quiet lib
  case getAttesterSlashings => exact getAttesterSlashings_quiet lib
  case getAttesterSlashingsV2 => exact getAttesterSlashingsV2_quiet lib
  case getProposerSlashings => exact getProposerSlashings_quiet lib
  all_goals cases read

/-! ## The response of the attestation submit endpoints -/

theorem respondToAttestations_quiet (attFailures : List IndexedVerificationFailure)
    (failedBroadcasts : List String) :
    Handler.Quiet (respondToAttestations attFailures failedBroadcasts : Handler σ Unit) := by
  unfold respondToAttestations
  split
  · exact Handler.Quiet.write _
  · split
    · exact Handler.Quiet.write _
    · exact .pure _

/-- What both submit endpoints do with the batch's result touches no pool. -/
theorem attestationResponse_untouched (message : String → String)
    (handled : Except String (List IndexedVerificationFailure × List String)) :
    Handler.Records (fun e => e.touchesPool = false) (match handled with
      | .error e => handleError (message e) 400
      | .ok (attFailures, failedBroadcasts) => respondToAttestations attFailures failedBroadcasts :
        Handler σ Unit) := by
  rcases handled with _ | ⟨attFailures, failedBroadcasts⟩
  · exact .write rfl
  · exact (respondToAttestations_quiet attFailures failedBroadcasts).mono
      fun _ => Event.touchesPool_of_isEffect

/-! ## Sync-committee messages go to the core service only -/

/-- The submission loop records only its `SubmitSyncCommitteeMessage` calls. -/
theorem submitSyncMessages_records {P : Event → Prop}
    (recorded : ∀ message result, P (.submitSyncMessage message result))
    (messages : List Eth.SyncCommitteeMessage) :
    Handler.Records P (submitSyncMessages messages : Handler σ _) := by
  induction messages with
  | nil => exact .pure _
  | cons message rest inductionHypothesis =>
    refine .bind (.call (recorded message)) fun submitted => ?_
    cases submitted
    · exact inductionHypothesis
    · exact .pure _

theorem submitSyncCommitteeSignatures_poolFree (lib : Library) (r : Request) :
    Handler.Records (fun e => e.touchesPool = false)
      (submitSyncCommitteeSignatures lib r : Handler σ Unit) := by
  unfold submitSyncCommitteeSignatures
  split
  · exact .write rfl
  · exact .write rfl
  · exact .write rfl
  · refine .bind (submitSyncMessages_records (fun _ _ => by rfl) _) fun submitted => ?_
    split
    · exact .write rfl
    · split
      · exact .write rfl
      · exact .pure _

end BeaconPool
