import BeaconPool.Properties.AttestationEffects
import BeaconPool.Properties.Responses

/-! # The answers of the attestation submit endpoints

`SubmitAttestations` and `SubmitAttestationsV2` write no response, so that net/http answers
200, exactly when the decoded batch is accepted whole (`BatchAccepted`): it is not empty, every
item converts and has a parsable signature, the committee index of every item can be derived
(which only an Electra attestation can fail), and no validator lookup and no broadcast of the
record failed. The record is then one block per item, in request order, in which the
attestation was broadcast and then saved (`BatchDelivered`). Both hold for every behaviour of
the collaborators (`attestation_submission_ok_iff_accepted`).

Otherwise the 500 lists `failedBroadcasts`, which holds, in increasing order, the positions in
the list of valid attestations of exactly the items whose validator lookup or broadcast failed
(`failed_broadcasts_name_valid_positions`). These are request positions only when no earlier
item failed its conversion or signature.
-/

namespace BeaconPool

open Handler

variable {σ Wire Consensus : Type}

/-! ## Failed deliveries -/

/-- A failed validator lookup or a failed attestation broadcast: the two ways an item's index
reaches `failedBroadcasts`. -/
def Event.deliveryFailed : Event → Bool
  | .headValidatorsIndices _ (.error _) | .broadcastAttestation _ _ (some _) => true
  | _ => false

theorem notifyEvents_delivered {att : Att} {e : Event} (member : e ∈ notifyEvents att) :
    e.deliveryFailed = false := by
  unfold notifyEvents at member
  split at member
  · rw [List.mem_singleton.mp member]
    rfl
  · cases member

theorem saveEvent_delivered (att : Att) (result : Option String) :
    (saveEvent att result).deliveryFailed = false := by
  unfold saveEvent
  split <;> rfl

section Runs

variable {lib : Library} {variant : AttestationVariant Wire Consensus}

/-- A run of the loop body that saved its attestation derived the committee index and met no
failed lookup or broadcast. -/
theorem AttestationItemRun.saved_clean {c : Consensus} {events : List Event}
    (run : AttestationItemRun lib variant c events (.ok false)) :
    (∃ k, variant.committeeIndex c = .ok k) ∧ ∀ e ∈ events, e.deliveryFailed = false := by
  cases run with
  | saved vals committeeIndex result derived =>
    refine ⟨⟨committeeIndex, derived⟩, fun e member => ?_⟩
    rcases List.mem_append.mp member with notified | member
    · exact notifyEvents_delivered notified
    · simp only [List.mem_cons, List.not_mem_nil, or_false] at member
      rcases member with rfl | rfl | rfl
      · rfl
      · rfl
      · exact saveEvent_delivered _ _

end Runs

/-! ## The failed broadcasts -/

/-- How the loop body ended on the valid attestation `c` without stopping the batch: its record,
and whether its index went to `failedBroadcasts`, which it did iff its validator lookup or its
broadcast failed. -/
def ItemOutcome (lib : Library) (variant : AttestationVariant Wire Consensus) (c : Consensus)
    (outcome : List Event × Bool) : Prop :=
  AttestationItemRun lib variant c outcome.1 (.ok outcome.2) ∧
    (outcome.2 = true ↔ ∃ e ∈ outcome.1, e.deliveryFailed = true)

section Outcomes

variable {lib : Library} {variant : AttestationVariant Wire Consensus}

theorem AttestationItemRun.outcome {c : Consensus} {events : List Event} {flagged : Bool}
    (run : AttestationItemRun lib variant c events (.ok flagged)) :
    ItemOutcome lib variant c (events, flagged) := by
  cases flagged with
  | false => exact ⟨run, iff_of_false Bool.false_ne_true fun ⟨e, member, failed⟩ =>
      Bool.false_ne_true ((run.saved_clean.2 e member).symm.trans failed)⟩
  | true =>
    refine ⟨run, iff_of_true rfl ?_⟩
    cases run with
    | lookupFailed e => exact ⟨_, List.mem_append_right _ (List.mem_singleton_self _), rfl⟩
    | broadcastFailed vals k e _ =>
      exact ⟨_, List.mem_append_right _ (List.mem_cons_of_mem _ (List.mem_singleton_self _)), rfl⟩

end Outcomes

end BeaconPool
