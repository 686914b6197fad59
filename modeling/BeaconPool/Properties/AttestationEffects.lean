import BeaconPool.Properties.AttestationBatches

/-! # The side effects of an attestation batch

On a batch that `handleAttestations` or `handleAttestationsElectra` handles without a
whole-request error, nothing happens before every item was converted and had its signature
parsed: the record is the second loop's, started from the batch's own world on the surviving
items in request order. It splits into one block per surviving item, each an
`AttestationItemRun` that did not stop the batch: the `UnaggregatedAttReceived` notification
iff the item is not aggregated, the validator lookup for its epoch, the `BroadcastAttestation`
on the subnet of the returned validator count, the committee index (`Data.CommitteeIndex`, or
`GetCommitteeIndex` for Electra) and the slot, and the save into the pool its aggregation
selects (`attestation_side_effect_trace`).
-/

namespace BeaconPool

variable {σ Wire Consensus : Type}

/-! ## The second loop, item by item -/

/-- A run of the second loop that returns its failed broadcasts is one block per valid
attestation, in order, each a run of the loop body that returned normally. -/
theorem AttestationLoopRun.blocks {lib : Library} {variant : AttestationVariant Wire Consensus}
    {i : Nat} {valid : List Consensus} {failed : List String} {events : List Event}
    {failedBroadcasts : List String}
    (run : AttestationLoopRun lib variant i valid failed events (.ok failedBroadcasts)) :
    ∃ blocks, List.Forall₂ (fun c block => ∃ failedItem,
        AttestationItemRun lib variant c block (.ok failedItem)) valid blocks ∧
      events = blocks.flatten := by
  generalize returned : (Except.ok failedBroadcasts : Except String (List String)) = result at run
  induction run with
  | done => exact ⟨[], .nil, rfl⟩
  | fatal => cases returned
  | next item _ inductionHypothesis =>
    obtain ⟨blocks, paired, rfl⟩ := inductionHypothesis returned
    exact ⟨_ :: blocks, .cons ⟨_, item⟩ paired, rfl⟩

/-! ## The record of a batch -/

/-- What the record of a batch that read `items` from `data` consists of: the second loop's
record, from the batch's own world, on the surviving items in request order; and one block per
surviving item, each a run of the loop body that did not stop the batch. -/
def SideEffectTrace (lib : Library) (variant : AttestationVariant Wire Consensus)
    (unmarshal : String → Except String (List Wire)) (data : String) (W : World σ) (s : σ)
    (trace : List Event) : Prop :=
  ∃ items, unmarshal data = .ok items ∧
    trace = ((broadcastValidAttestations lib variant 0 (survivingAttestations lib variant items)
      []).run W s).trace ∧
    ∃ blocks, List.Forall₂ (fun c block => ∃ failedItem,
        AttestationItemRun lib variant c block (.ok failedItem))
      (survivingAttestations lib variant items) blocks ∧ trace = blocks.flatten

theorem handleAttestationsWith_sideEffects (lib : Library)
    (variant : AttestationVariant Wire Consensus) (unmarshal : String → Except String (List Wire))
    (data : String) (W : World σ) (s : σ)
    {result : List IndexedVerificationFailure × List String}
    (handled : ((handleAttestationsWith lib variant unmarshal data).run W s).value = .ok result) :
    SideEffectTrace lib variant unmarshal data W s
      ((handleAttestationsWith lib variant unmarshal data).run W s).trace := by
  cases decoded : unmarshal data with
  | error e => simp [handleAttestationsWith, decoded] at handled
  | ok items =>
    cases items with
    | nil => simp [handleAttestationsWith, decoded] at handled
    | cons item rest =>
      rw [handleAttestationsWith_eq lib variant unmarshal data W s decoded (List.cons_ne_nil _ _)]
        at handled ⊢
      rw [collectValidAttestations_survivors] at handled ⊢
      have loop := broadcastValidAttestations_run lib variant W
        (survivingAttestations lib variant (item :: rest)) 0 [] s
      cases returned : ((broadcastValidAttestations lib variant 0
          (survivingAttestations lib variant (item :: rest)) []).run W s).value with
      | error e =>
        rw [returned] at handled
        cases handled
      | ok failedBroadcasts =>
        rw [returned] at loop
        obtain ⟨blocks, paired, flattened⟩ := loop.blocks
        exact ⟨_, decoded, rfl, blocks, paired, flattened⟩

/-- On every batch handled without a whole-request error, by either loop and whatever the
collaborators answer, the record is `SideEffectTrace`: no effect before every item was
converted and its signature parsed, none for an item that failed either, and one block per
surviving item in request order as `AttestationItemRun` describes it. -/
theorem attestation_side_effect_trace (lib : Library) (data : String) (W : World σ) (s : σ) :
    (∀ result, ((handleAttestations lib data).run W s).value = .ok result →
      SideEffectTrace lib (baseVariant lib) lib.unmarshalAttestations data W s
        ((handleAttestations lib data).run W s).trace) ∧
    ∀ result, ((handleAttestationsElectra lib data).run W s).value = .ok result →
      SideEffectTrace lib (electraVariant lib) lib.unmarshalAttestationsElectra data W s
        ((handleAttestationsElectra lib data).run W s).trace :=
  ⟨fun _ => handleAttestationsWith_sideEffects lib _ _ data W s,
    fun _ => handleAttestationsWith_sideEffects lib _ _ data W s⟩

/-- A batch of one Electra attestation that names committee 0. -/
def committeeBatchLibrary : Library :=
  { electraBatchLibrary with unmarshalAttestationsElectra := fun _ => .ok [committeeItem] }

theorem attestation_side_effect_trace_handled_batches :
    ((handleAttestations mixedBatchLibrary "[...]").run (World.succeeding default) ()).value =
        .ok ([⟨0, "Could not convert request attestation to consensus attestation: malformed"⟩], []) ∧
      SideEffectTrace mixedBatchLibrary (baseVariant mixedBatchLibrary)
        mixedBatchLibrary.unmarshalAttestations "[...]" (World.succeeding default) ()
        ((handleAttestations mixedBatchLibrary "[...]").run (World.succeeding default) ()).trace ∧
      ((handleAttestationsElectra committeeBatchLibrary "[...]").run (World.succeeding default) ()).value =
        .ok ([], []) ∧
      SideEffectTrace committeeBatchLibrary (electraVariant committeeBatchLibrary)
        committeeBatchLibrary.unmarshalAttestationsElectra "[...]" (World.succeeding default) ()
        ((handleAttestationsElectra committeeBatchLibrary "[...]").run (World.succeeding default) ()).trace :=
  ⟨rfl, (attestation_side_effect_trace mixedBatchLibrary "[...]" (World.succeeding default) ()).1 _ rfl,
    rfl, (attestation_side_effect_trace committeeBatchLibrary "[...]" (World.succeeding default) ()).2 _ rfl⟩

end BeaconPool
