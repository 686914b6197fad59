import BeaconPool.Handlers.Attestations

/-! # The runs of the attestation batch loop

What a run of `handleAttestationsWith` can record and return, whatever the world answers,
as three relations: `AttestationItemRun` for one valid attestation (the four ways the loop
body can end), `AttestationLoopRun` for the second loop, and `AttestationBatchRun` for the
whole call. `handleAttestationsWith_run` shows that every run of the model is one of them;
the results about attestation batches are proved on the relations.
-/

namespace BeaconPool

variable {σ Wire Consensus : Type}

/-- The events of `notifyUnaggregated att`. -/
def notifyEvents (att : Att) : List Event :=
  if !isAggregated att then [.send (.unaggregatedAttReceived att)] else []

/-- The event of `saveAttestation att` answered with `result`. -/
def saveEvent (att : Att) (result : Option String) : Event :=
  if isAggregated att then .saveAggregatedAttestation att result
  else .saveUnaggregatedAttestation att result

@[simp] theorem notifyUnaggregated_trace (att : Att) (W : World σ) (s : σ) :
    ((notifyUnaggregated att).run W s).trace = notifyEvents att := by
  unfold notifyUnaggregated notifyEvents
  cases isAggregated att <;> rfl

@[simp] theorem saveAttestation_trace (att : Att) (W : World σ) (s : σ) :
    ((saveAttestation att).run W s).trace = [saveEvent att ((saveAttestation att).run W s).value] := by
  unfold saveAttestation saveEvent
  cases isAggregated att <;> rfl

/-- The four ends of the loop body on the valid attestation `c`: failed validator lookup,
failed committee-index derivation (fatal), failed broadcast, and broadcast then save. -/
inductive AttestationItemRun (lib : Library) (variant : AttestationVariant Wire Consensus)
    (c : Consensus) : List Event → Except String Bool → Prop where
  | lookupFailed (e : String) :
      AttestationItemRun lib variant c (notifyEvents (variant.toAtt c) ++
        [.headValidatorsIndices (lib.toEpoch (variant.toAtt c).data.slot) (.error e)]) (.ok true)
  | committeeFailed (vals : List Nat) (e : String) :
      variant.committeeIndex c = .error e →
      AttestationItemRun lib variant c (notifyEvents (variant.toAtt c) ++
        [.headValidatorsIndices (lib.toEpoch (variant.toAtt c).data.slot) (.ok vals)])
        (.error ("failed to retrieve attestation committee index: " ++ e))
  | broadcastFailed (vals : List Nat) (committeeIndex : Nat) (e : String) :
      variant.committeeIndex c = .ok committeeIndex →
      AttestationItemRun lib variant c (notifyEvents (variant.toAtt c) ++
        [.headValidatorsIndices (lib.toEpoch (variant.toAtt c).data.slot) (.ok vals),
          .broadcastAttestation (lib.computeSubnetFromCommitteeAndSlot vals.length committeeIndex
            (variant.toAtt c).data.slot) (variant.toAtt c) (some e)]) (.ok true)
  | saved (vals : List Nat) (committeeIndex : Nat) (result : Option String) :
      variant.committeeIndex c = .ok committeeIndex →
      AttestationItemRun lib variant c (notifyEvents (variant.toAtt c) ++
        [.headValidatorsIndices (lib.toEpoch (variant.toAtt c).data.slot) (.ok vals),
          .broadcastAttestation (lib.computeSubnetFromCommitteeAndSlot vals.length committeeIndex
            (variant.toAtt c).data.slot) (variant.toAtt c) none,
          saveEvent (variant.toAtt c) result]) (.ok false)

theorem broadcastValidAttestation_run (lib : Library) (variant : AttestationVariant Wire Consensus)
    (W : World σ) (s : σ) (c : Consensus) :
    AttestationItemRun lib variant c ((broadcastValidAttestation lib variant c).run W s).trace
      ((broadcastValidAttestation lib variant c).run W s).value := by
  simp only [broadcastValidAttestation, Handler.run_bind, notifyUnaggregated_trace,
    headValidatorsIndices, Handler.run_call]
  generalize ((notifyUnaggregated (variant.toAtt c)).run W s).world = s
  cases lookup : (W.headValidatorsIndices s (lib.toEpoch (variant.toAtt c).data.slot)).1 with
  | error e => simpa using AttestationItemRun.lookupFailed e
  | ok vals =>
    cases committee : variant.committeeIndex c with
    | error e => simpa using AttestationItemRun.committeeFailed vals e committee
    | ok committeeIndex =>
      simp only [broadcastAttestation, Handler.run_bind, Handler.run_call]
      generalize (W.headValidatorsIndices s (lib.toEpoch (variant.toAtt c).data.slot)).2 = s
      cases (W.broadcastAttestation s (lib.computeSubnetFromCommitteeAndSlot vals.length
          committeeIndex (variant.toAtt c).data.slot) (variant.toAtt c)).1 with
      | some e => simpa using AttestationItemRun.broadcastFailed vals committeeIndex e committee
      | none => simpa using AttestationItemRun.saved vals committeeIndex _ committee

/-- The runs of the second loop from valid-list index `i` with `failed` recorded so far. -/
inductive AttestationLoopRun (lib : Library) (variant : AttestationVariant Wire Consensus) :
    Nat → List Consensus → List String → List Event → Except String (List String) → Prop where
  | done (i : Nat) (failed : List String) : AttestationLoopRun lib variant i [] failed [] (.ok failed)
  | fatal {i : Nat} {c : Consensus} {rest : List Consensus} {failed : List String}
      {events : List Event} {e : String} :
      AttestationItemRun lib variant c events (.error e) →
      AttestationLoopRun lib variant i (c :: rest) failed events (.error e)
  | next {i : Nat} {c : Consensus} {rest : List Consensus} {failed : List String}
      {events : List Event} {failedItem : Bool} {events' : List Event}
      {result : Except String (List String)} :
      AttestationItemRun lib variant c events (.ok failedItem) →
      AttestationLoopRun lib variant (i + 1) rest
        (if failedItem then failed ++ [toString i] else failed) events' result →
      AttestationLoopRun lib variant i (c :: rest) failed (events ++ events') result

theorem broadcastValidAttestations_run (lib : Library) (variant : AttestationVariant Wire Consensus)
    (W : World σ) (items : List Consensus) (i : Nat) (failed : List String) (s : σ) :
    AttestationLoopRun lib variant i items failed
      ((broadcastValidAttestations lib variant i items failed).run W s).trace
      ((broadcastValidAttestations lib variant i items failed).run W s).value := by
  induction items generalizing i failed s with
  | nil => exact .done i failed
  | cons c rest inductionHypothesis =>
    simp only [broadcastValidAttestations, Handler.run_bind]
    have item := broadcastValidAttestation_run lib variant W s c
    generalize (broadcastValidAttestation lib variant c).run W s = outcome at item ⊢
    rcases outcome with ⟨_ | _ | _, world, events⟩
    · simpa using AttestationLoopRun.fatal item
    · exact .next item (inductionHypothesis (i + 1) failed world)
    · exact .next item (inductionHypothesis (i + 1) (failed ++ [toString i]) world)

/-- The runs of `handleAttestationsWith` on `data`. -/
inductive AttestationBatchRun (lib : Library) (variant : AttestationVariant Wire Consensus)
    (unmarshal : String → Except String (List Wire)) (data : String) :
    List Event → Except String (List IndexedVerificationFailure × List String) → Prop where
  | unmarshalFailed (e : String) :
      unmarshal data = .error e →
      AttestationBatchRun lib variant unmarshal data [] (.error ("failed to unmarshal attestation: " ++ e))
  | empty :
      unmarshal data = .ok [] → AttestationBatchRun lib variant unmarshal data [] (.error "no data submitted")
  | handled {items : List Wire} {events : List Event} {result : Except String (List String)} :
      unmarshal data = .ok items → items ≠ [] →
      AttestationLoopRun lib variant 0 (collectValidAttestations lib variant 0 items).2 [] events result →
      AttestationBatchRun lib variant unmarshal data events
        (result.map ((collectValidAttestations lib variant 0 items).1, ·))

/-- A decoded non-empty batch runs the second loop on its valid attestations from the batch's
own world, and returns the loop's failed broadcasts with the first loop's failures. -/
theorem handleAttestationsWith_eq (lib : Library) (variant : AttestationVariant Wire Consensus)
    (unmarshal : String → Except String (List Wire)) (data : String) (W : World σ) (s : σ)
    {items : List Wire} (decoded : unmarshal data = .ok items) (nonempty : items ≠ []) :
    (handleAttestationsWith lib variant unmarshal data).run W s =
      ⟨((broadcastValidAttestations lib variant 0 (collectValidAttestations lib variant 0 items).2
            []).run W s).value.map ((collectValidAttestations lib variant 0 items).1, ·),
        ((broadcastValidAttestations lib variant 0 (collectValidAttestations lib variant 0 items).2
            []).run W s).world,
        ((broadcastValidAttestations lib variant 0 (collectValidAttestations lib variant 0 items).2
            []).run W s).trace⟩ := by
  cases items with
  | nil => exact absurd rfl nonempty
  | cons item rest =>
    simp only [handleAttestationsWith, decoded, Handler.run_bind]
    generalize (broadcastValidAttestations lib variant 0
      (collectValidAttestations lib variant 0 (item :: rest)).2 []).run W s = outcome
    rcases outcome with ⟨_ | _, world, events⟩ <;> simp [Except.map]

theorem handleAttestationsWith_run (lib : Library) (variant : AttestationVariant Wire Consensus)
    (unmarshal : String → Except String (List Wire)) (data : String) (W : World σ) (s : σ) :
    AttestationBatchRun lib variant unmarshal data
      ((handleAttestationsWith lib variant unmarshal data).run W s).trace
      ((handleAttestationsWith lib variant unmarshal data).run W s).value := by
  cases decoded : unmarshal data with
  | error e =>
    simp only [handleAttestationsWith, decoded, Handler.run_pure]
    exact .unmarshalFailed e decoded
  | ok items =>
    cases items with
    | nil =>
      simp only [handleAttestationsWith, decoded, Handler.run_pure]
      exact .empty decoded
    | cons item rest =>
      rw [handleAttestationsWith_eq lib variant unmarshal data W s decoded (List.cons_ne_nil _ _)]
      exact .handled decoded (List.cons_ne_nil _ _) (broadcastValidAttestations_run lib variant W
        (collectValidAttestations lib variant 0 (item :: rest)).2 0 [] s)

/-! ## The attestations handed to a pool or to the broadcaster -/

/-- The attestation a save or a `BroadcastAttestation` call hands over. -/
def Event.attestation : Event → Option Att
  | .saveAggregatedAttestation att _ | .saveUnaggregatedAttestation att _
  | .broadcastAttestation _ att _ => some att
  | _ => none

theorem notifyEvents_untouched {att : Att} {e : Event} (member : e ∈ notifyEvents att) :
    e.touchesPool = false := by
  unfold notifyEvents at member
  split at member
  · rw [List.mem_singleton.mp member]
    rfl
  · cases member

@[simp] theorem saveEvent_attestation (att : Att) (result : Option String) :
    (saveEvent att result).attestation = some att := by
  unfold saveEvent
  split <;> rfl

/-- The only attestation an item's run hands over is the item's. -/
theorem AttestationItemRun.pooled {lib : Library} {variant : AttestationVariant Wire Consensus}
    {c : Consensus} {events : List Event} {result : Except String Bool}
    (run : AttestationItemRun lib variant c events result) :
    ∀ e ∈ events, e.touchesPool = false ∨ e.attestation = some (variant.toAtt c) := by
  cases run <;> intro e member <;> rcases List.mem_append.mp member with notified | member
  all_goals first
    | exact .inl (notifyEvents_untouched notified)
    | simp only [List.mem_cons, List.not_mem_nil, or_false] at member
      rcases member with rfl | rfl | rfl <;>
        first | exact .inl rfl | exact .inr (saveEvent_attestation _ _) | exact .inr rfl

theorem AttestationLoopRun.pooled {lib : Library} {variant : AttestationVariant Wire Consensus}
    {i : Nat} {valid : List Consensus} {failed : List String} {events : List Event}
    {result : Except String (List String)} (run : AttestationLoopRun lib variant i valid failed events result) :
    ∀ e ∈ events, e.touchesPool = false ∨ ∃ c ∈ valid, e.attestation = some (variant.toAtt c) := by
  induction run with
  | done => exact fun _ member => absurd member (List.not_mem_nil _)
  | fatal item =>
    intro e member
    exact (item.pooled e member).imp_right fun handed => ⟨_, List.mem_cons_self _ _, handed⟩
  | next item _ inductionHypothesis =>
    intro e member
    rcases List.mem_append.mp member with member | member
    · exact (item.pooled e member).imp_right fun handed => ⟨_, List.mem_cons_self _ _, handed⟩
    · exact (inductionHypothesis e member).imp_right fun ⟨c, valid, handed⟩ =>
        ⟨c, List.mem_cons_of_mem _ valid, handed⟩

/-! ## The first loop -/

/-- The items of a batch that convert and whose signature parses, as consensus objects, in
request order. -/
def survivingAttestations (lib : Library) (variant : AttestationVariant Wire Consensus)
    (items : List Wire) : List Consensus :=
  items.filterMap fun item =>
    match variant.toConsensus item with
    | .error _ => none
    | .ok c =>
      match lib.signatureFromBytes (variant.toAtt c).signature with
      | .error _ => none
      | .ok () => some c

/-- The first loop keeps exactly the surviving items, whatever position it starts from. -/
theorem collectValidAttestations_survivors (lib : Library)
    (variant : AttestationVariant Wire Consensus) (i : Nat) (items : List Wire) :
    (collectValidAttestations lib variant i items).2 = survivingAttestations lib variant items := by
  induction items generalizing i with
  | nil => rfl
  | cons item rest inductionHypothesis =>
    have survivors := inductionHypothesis (i + 1)
    simp only [survivingAttestations] at survivors
    simp only [collectValidAttestations, survivingAttestations, List.filterMap_cons]
    cases variant.toConsensus item with
    | error e => exact survivors
    | ok c =>
      dsimp only
      cases lib.signatureFromBytes (variant.toAtt c).signature with
      | error e => exact survivors
      | ok => exact congrArg (c :: ·) survivors

/-- Every valid attestation is the conversion of an item of the batch whose signature parses. -/
theorem mem_collectValidAttestations (lib : Library) (variant : AttestationVariant Wire Consensus)
    {c : Consensus} (items : List Wire) (i : Nat)
    (member : c ∈ (collectValidAttestations lib variant i items).2) :
    ∃ item ∈ items, variant.toConsensus item = .ok c ∧
      lib.signatureFromBytes (variant.toAtt c).signature = .ok () := by
  rw [collectValidAttestations_survivors, survivingAttestations, List.mem_filterMap] at member
  obtain ⟨item, itemMember, kept⟩ := member
  refine ⟨item, itemMember, ?_⟩
  split at kept
  · cases kept
  · split at kept
    · cases kept
    · cases kept
      exact ⟨‹_›, ‹_›⟩

/-- Every attestation a batch hands over is the conversion of an item of the batch whose
signature parses. -/
theorem handleAttestationsWith_pooled (lib : Library) (variant : AttestationVariant Wire Consensus)
    (unmarshal : String → Except String (List Wire)) (data : String) :
    Handler.Records (fun e => e.touchesPool = false ∨ ∃ items, unmarshal data = .ok items ∧
        ∃ item ∈ items, ∃ c, variant.toConsensus item = .ok c ∧
          lib.signatureFromBytes (variant.toAtt c).signature = .ok () ∧
          e.attestation = some (variant.toAtt c))
      (handleAttestationsWith lib variant unmarshal data : Handler σ _) := by
  intro W s e member
  have run := handleAttestationsWith_run lib variant unmarshal data W s
  generalize ((handleAttestationsWith lib variant unmarshal data).run W s).trace = events at run member
  generalize ((handleAttestationsWith lib variant unmarshal data).run W s).value = result at run
  cases run with
  | unmarshalFailed | empty => cases member
  | handled decoded _ loop =>
    refine (loop.pooled e member).imp_right fun ⟨c, valid, handed⟩ => ?_
    obtain ⟨item, itemMember, converted, signed⟩ := mem_collectValidAttestations lib variant _ 0 valid
    exact ⟨_, decoded, item, itemMember, c, converted, signed, handed⟩

end BeaconPool
