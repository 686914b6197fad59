import BeaconPool.Handlers.OperationRuns
import BeaconPool.Broadcast.Completion

/-! # `SubmitBLSToExecutionChanges`, position by position

`BLSPosition` says what one request position contributes to a run against the head state
`st`: either the first of the three stages (`ToConsensus`, `ValidateBLSToExecutionChange`,
`VerifyBLSChangeSignature`) that fails, as a failure naming the position, and nothing else; or
the converted change, notified and inserted once, and queued for the deferred broadcast from
Capella on. `BLSBatch` strings the positions of a request together in order, appending what
each contributes. The loop of the handler is such a batch (`checkBLSChanges_batch`), the only
one (`BLSBatch.unique`), and the run is its events, the spawn of its queue and a 400 listing
its failures when there are any (`bls_changes_per_position`).

When the head state does not change, the goroutine the handler spawns has, in every
interleaving, broadcast exactly the first `128 k` changes of its queue after `k` batches
(`bls_submission_broadcasts_queue_chunks`); before Capella the queue is empty. The goroutine is
given the request's context, which the handler's return cancels; when at most 128 changes pass
that cannot lose one, since the first batch runs before the goroutine looks at its context
(`bls_small_batch_fully_broadcast`).
-/

namespace BeaconPool

variable {σ : Type}

/-! ## One request position -/

/-- What the change at request position `i` contributes against the head state `st`: its
failure, its events and its entries in the broadcast queue. -/
inductive BLSPosition (lib : Library) (st : BeaconState) (i : Nat)
    (change : Structs.SignedBLSToExecutionChange) :
    Option IndexedVerificationFailure → List Event → List Eth.SignedBLSToExecutionChange → Prop where
  | conversionFailed (e : String) :
      lib.signedBLSToExecutionChangeToConsensus change = .error e →
      BLSPosition lib st i change (some ⟨i, "Unable to decode SignedBLSToExecutionChange: " ++ e⟩) [] []
  | validationFailed (sbls : Eth.SignedBLSToExecutionChange) (e : String) :
      lib.signedBLSToExecutionChangeToConsensus change = .ok sbls →
      lib.validateBLSToExecutionChange st sbls = .error e →
      BLSPosition lib st i change
        (some ⟨i, "Could not validate SignedBLSToExecutionChange: " ++ e⟩) [] []
  | signatureFailed (sbls : Eth.SignedBLSToExecutionChange) (e : String) :
      lib.signedBLSToExecutionChangeToConsensus change = .ok sbls →
      lib.validateBLSToExecutionChange st sbls = .ok () →
      lib.verifyBLSChangeSignature st sbls = .error e →
      BLSPosition lib st i change (some ⟨i, "Could not validate signature: " ++ e⟩) [] []
  | passed (sbls : Eth.SignedBLSToExecutionChange) :
      lib.signedBLSToExecutionChangeToConsensus change = .ok sbls →
      lib.validateBLSToExecutionChange st sbls = .ok () →
      lib.verifyBLSChangeSignature st sbls = .ok () →
      BLSPosition lib st i change none
        [.send (.blsToExecutionChangeReceived sbls), .insertBLSToExecChange sbls]
        (if Version.capella ≤ st.version then [sbls] else [])

section Position

variable {lib : Library} {st : BeaconState} {i : Nat} {change : Structs.SignedBLSToExecutionChange}

/-- A position falls in one case only, so what it contributes is determined. -/
theorem BLSPosition.unique {failure failure' : Option IndexedVerificationFailure}
    {events events' : List Event} {queued queued' : List Eth.SignedBLSToExecutionChange}
    (first : BLSPosition lib st i change failure events queued)
    (second : BLSPosition lib st i change failure' events' queued') :
    failure = failure' ∧ events = events' ∧ queued = queued' := by
  cases first <;> cases second <;> simp_all

/-- `checkBLSChange` decides the case of a position. -/
theorem checkBLSChange_position (lib : Library) (st : BeaconState) (i : Nat)
    (change : Structs.SignedBLSToExecutionChange) :
    match checkBLSChange lib st i change with
    | .error failure => BLSPosition lib st i change (some failure) [] []
    | .ok sbls => BLSPosition lib st i change none (stagedChangeEvents sbls)
        (if Version.capella ≤ st.version then [sbls] else []) := by
  unfold checkBLSChange
  cases converted : lib.signedBLSToExecutionChangeToConsensus change with
  | error e => exact .conversionFailed e converted
  | ok sbls =>
    dsimp only
    cases valid : lib.validateBLSToExecutionChange st sbls with
    | error e => exact .validationFailed sbls e converted valid
    | ok =>
      dsimp only
      cases verified : lib.verifyBLSChangeSignature st sbls with
      | error e => exact .signatureFailed sbls e converted valid verified
      | ok => exact .passed sbls converted valid verified

end Position

/-! ## A request, position after position -/

/-- The positions of `req` from `i` on, in request order: the failures, the events and the
broadcast queue are those of each position, appended. -/
inductive BLSBatch (lib : Library) (st : BeaconState) :
    Nat → List Structs.SignedBLSToExecutionChange → List IndexedVerificationFailure → List Event →
      List Eth.SignedBLSToExecutionChange → Prop where
  | nil (i : Nat) : BLSBatch lib st i [] [] [] []
  | cons {i : Nat} {change : Structs.SignedBLSToExecutionChange}
      {rest : List Structs.SignedBLSToExecutionChange} {failure : Option IndexedVerificationFailure}
      {events : List Event} {queued : List Eth.SignedBLSToExecutionChange}
      {failures : List IndexedVerificationFailure} {events' : List Event}
      {queue : List Eth.SignedBLSToExecutionChange} :
      BLSPosition lib st i change failure events queued →
      BLSBatch lib st (i + 1) rest failures events' queue →
      BLSBatch lib st i (change :: rest) (failure.toList ++ failures) (events ++ events')
        (queued ++ queue)

theorem BLSBatch.unique {lib : Library} {st : BeaconState} {i : Nat}
    {req : List Structs.SignedBLSToExecutionChange} {failures failures' : List IndexedVerificationFailure}
    {events events' : List Event} {queue queue' : List Eth.SignedBLSToExecutionChange}
    (first : BLSBatch lib st i req failures events queue)
    (second : BLSBatch lib st i req failures' events' queue') :
    failures = failures' ∧ events = events' ∧ queue = queue' := by
  induction first generalizing failures' events' queue' with
  | nil => cases second; exact ⟨rfl, rfl, rfl⟩
  | cons position _ inductionHypothesis =>
    cases second with
    | cons position' rest' =>
      obtain ⟨rfl, rfl, rfl⟩ := position.unique position'
      obtain ⟨rfl, rfl, rfl⟩ := inductionHypothesis rest'
      exact ⟨rfl, rfl, rfl⟩

/-- The handler's loop is the batch of the request. -/
theorem checkBLSChanges_batch (lib : Library) (st : BeaconState) (i : Nat)
    (req : List Structs.SignedBLSToExecutionChange) :
    BLSBatch lib st i req (checkBLSChanges lib st i req).1
      ((checkBLSChanges lib st i req).2.flatMap stagedChangeEvents)
      (if Version.capella ≤ st.version then (checkBLSChanges lib st i req).2 else []) := by
  induction req generalizing i with
  | nil =>
    simp only [checkBLSChanges, List.flatMap_nil, ite_self]
    exact .nil i
  | cons change rest inductionHypothesis =>
    have position := checkBLSChange_position lib st i change
    simp only [checkBLSChanges]
    cases checked : checkBLSChange lib st i change with
    | error failure =>
      rw [checked] at position
      exact .cons position (inductionHypothesis (i + 1))
    | ok sbls =>
      rw [checked] at position
      have batch := BLSBatch.cons position (inductionHypothesis (i + 1))
      by_cases capella : Version.capella ≤ st.version <;> simpa [capella] using batch

/-! ## The run -/

/-- For every non-empty batch and every head state `st`, each request position is in exactly
one of the two cases of `BLSPosition`; the run records, in request order, the events of the
passing positions, spawns the deferred broadcast with their queue entries, and writes a 400
listing exactly the failures when there is one (nothing, so a 200, otherwise). -/
theorem bls_changes_per_position (lib : Library) (r : Request) (W : World σ) (s : σ)
    {st : BeaconState} {req : List Structs.SignedBLSToExecutionChange}
    (fetched : (W.headStateReadOnly s).1 = .ok st)
    (decoded : lib.decodeSignedBLSToExecutionChanges r.body = .ok req) (nonempty : req ≠ []) :
    ∃ failures events queue, BLSBatch lib st 0 req failures events queue ∧
      (∀ failures' events' queue', BLSBatch lib st 0 req failures' events' queue' →
        failures' = failures ∧ events' = events ∧ queue' = queue) ∧
      ((submitBLSToExecutionChanges lib r).run W s).trace =
        .headStateReadOnly (.ok st) :: events ++ .spawnBroadcastBLSChanges (queue.map some) ::
          if failures ≠ [] then
            [.write (.writeError ⟨400, "One or more BLSToExecutionChange failed validation", failures⟩)]
          else [] :=
  ⟨_, _, _, checkBLSChanges_batch lib st 0 req,
    fun _ _ _ other => other.unique (checkBLSChanges_batch lib st 0 req),
    submitBLSToExecutionChanges_batch lib r W s fetched decoded nonempty⟩

/-- A head state at Capella. -/
def capellaHead : BeaconState := ⟨.capella, 0, 0⟩

def passingChange : Structs.SignedBLSToExecutionChange := ⟨"0x01", "0x01"⟩

def staleChange : Structs.SignedBLSToExecutionChange := ⟨"0x02", "0x02"⟩

/-- A batch whose first change passes its checks and whose second fails validation. -/
def blsBatchLibrary : Library := { (default : Library) with
  decodeSignedBLSToExecutionChanges := fun _ => .ok [passingChange, staleChange]
  signedBLSToExecutionChangeToConsensus := fun change =>
    if change = passingChange then .ok default else .ok ⟨⟨1, [], []⟩, []⟩
  validateBLSToExecutionChange := fun _ sbls =>
    if sbls = default then .ok () else .error "withdrawal credentials mismatch"
  verifyBLSChangeSignature := fun _ _ => .ok () }

def blsBatchRequest : Request := ⟨fun _ => "", fun _ => "", "[...]"⟩

theorem bls_changes_per_position_mixed_batch :
    ((World.succeeding capellaHead).headStateReadOnly ()).1 = .ok capellaHead ∧
      blsBatchLibrary.decodeSignedBLSToExecutionChanges blsBatchRequest.body =
        .ok [passingChange, staleChange] ∧
      [passingChange, staleChange] ≠ [] ∧
      ∃ failures events queue,
        BLSBatch blsBatchLibrary capellaHead 0 [passingChange, staleChange] failures events queue ∧
        (∀ failures' events' queue',
          BLSBatch blsBatchLibrary capellaHead 0 [passingChange, staleChange] failures' events' queue' →
            failures' = failures ∧ events' = events ∧ queue' = queue) ∧
        ((submitBLSToExecutionChanges blsBatchLibrary blsBatchRequest).run
            (World.succeeding capellaHead) ()).trace =
          .headStateReadOnly (.ok capellaHead) :: events ++ .spawnBroadcastBLSChanges (queue.map some) ::
            if failures ≠ [] then
              [.write (.writeError ⟨400, "One or more BLSToExecutionChange failed validation", failures⟩)]
            else [] :=
  ⟨rfl, rfl, List.cons_ne_nil _ _,
    bls_changes_per_position blsBatchLibrary blsBatchRequest (World.succeeding capellaHead) () rfl rfl
      (List.cons_ne_nil _ _)⟩

/-! ## The deferred broadcast -/

/-- Every change that passes the handler's checks validates against the head state they were
made on. -/
theorem checkBLSChanges_valid (lib : Library) (st : BeaconState) (i : Nat)
    (req : List Structs.SignedBLSToExecutionChange) :
    ∀ sbls ∈ (checkBLSChanges lib st i req).2, lib.validateBLSToExecutionChange st sbls = .ok () := by
  intro sbls member
  obtain ⟨_, _, j, passed⟩ := mem_checkBLSChanges lib st req i member
  exact ((checkBLSChange_ok lib st j _ sbls).mp passed).2.1

/-- For a non-empty batch at a head state `st` that the head fetcher keeps returning: the
handler spawns the deferred broadcast on its queue (the passing changes in request order from
Capella on, nothing before), and in every interleaving of that goroutine with the handler's
return, the server's cancellation and the rest of the node, it has broadcast exactly the first
`128 k` changes of the queue, in order and once each, `k` being the number of batches it has
run. -/
theorem bls_submission_broadcasts_queue_chunks (lib : Library) (r : Request) (W : World σ) (s : σ)
    {st : BeaconState} {req : List Structs.SignedBLSToExecutionChange}
    (stable : ∀ s, (W.headStateReadOnly s).1 = .ok st)
    (decoded : lib.decodeSignedBLSToExecutionChanges r.body = .ok req) (nonempty : req ≠ []) :
    .spawnBroadcastBLSChanges
        ((if Version.capella ≤ st.version then (checkBLSChanges lib st 0 req).2 else []).map some) ∈
        ((submitBLSToExecutionChanges lib r).run W s).trace ∧
      ∀ s' sub, Relation.ReflTransGen (SubmissionStep lib W .request)
          (Submission.spawn
            ((if Version.capella ≤ st.version then (checkBLSChanges lib st 0 req).2 else []).map some) s')
          sub →
        blsBroadcasts sub.loop.trace =
          (if Version.capella ≤ st.version then (checkBLSChanges lib st 0 req).2 else []).take
            (broadcastBLSChangesRateLimit * (fetchedStates sub.loop.trace).length) := by
  refine ⟨?_, fun s' sub reachable => ?_⟩
  · rw [submitBLSToExecutionChanges_batch lib r W s (stable s) decoded nonempty]
    simp
  · rw [(ExactBroadcasts.submission reachable).stable stable, ← List.map_take]
    refine validChanges_map_some lib st _ fun ch member => ?_
    have queued := List.mem_of_mem_take member
    split at queued
    · exact checkBLSChanges_valid lib st 0 req ch queued
    · cases queued

/-- The queue the mixed batch spawns the deferred broadcast on at Capella. -/
def blsBatchQueue : List (Option Eth.SignedBLSToExecutionChange) :=
  (if Version.capella ≤ capellaHead.version then
    (checkBLSChanges blsBatchLibrary capellaHead 0 [passingChange, staleChange]).2 else []).map some

/-- That goroutine after its first batch. -/
def blsBatchStarted : Submission Unit :=
  { Submission.spawn blsBatchQueue () with
    loop := (BroadcastLoop.spawn blsBatchQueue ()).batch blsBatchLibrary (World.succeeding capellaHead) }

theorem bls_submission_broadcasts_queue_chunks_started :
    (∀ s, ((World.succeeding capellaHead).headStateReadOnly s).1 = .ok capellaHead) ∧
      blsBatchLibrary.decodeSignedBLSToExecutionChanges blsBatchRequest.body =
        .ok [passingChange, staleChange] ∧
      [passingChange, staleChange] ≠ [] ∧
      .spawnBroadcastBLSChanges blsBatchQueue ∈
        ((submitBLSToExecutionChanges blsBatchLibrary blsBatchRequest).run
          (World.succeeding capellaHead) ()).trace ∧
      Relation.ReflTransGen (SubmissionStep blsBatchLibrary (World.succeeding capellaHead) .request)
        (Submission.spawn blsBatchQueue ()) blsBatchStarted ∧
      blsBroadcasts blsBatchStarted.loop.trace =
        (if Version.capella ≤ capellaHead.version then
          (checkBLSChanges blsBatchLibrary capellaHead 0 [passingChange, staleChange]).2 else []).take
          (broadcastBLSChangesRateLimit * (fetchedStates blsBatchStarted.loop.trace).length) :=
  ⟨fun _ => rfl, rfl, List.cons_ne_nil _ _,
    (bls_submission_broadcasts_queue_chunks blsBatchLibrary blsBatchRequest (World.succeeding capellaHead) ()
      (fun _ => rfl) rfl (List.cons_ne_nil _ _)).1,
    .single (.loop (.start rfl)),
    (bls_submission_broadcasts_queue_chunks blsBatchLibrary blsBatchRequest (World.succeeding capellaHead) ()
      (fun _ => rfl) rfl (List.cons_ne_nil _ _)).2 () blsBatchStarted (.single (.loop (.start rfl)))⟩

/-- At a head state from Capella on that the head fetcher keeps returning, for a non-empty batch
in which at most 128 changes pass: the handler spawns the deferred broadcast on the passing
changes in request order, and in every interleaving of that goroutine with the handler's return
(which cancels its context), the server's cancellation and the rest of the node, once its
first batch has run it has exited, having broadcast every passing change once, in request
order. -/
theorem bls_small_batch_fully_broadcast (lib : Library) (r : Request) (W : World σ) (s : σ)
    {st : BeaconState} {req : List Structs.SignedBLSToExecutionChange}
    (stable : ∀ s, (W.headStateReadOnly s).1 = .ok st) (capella : Version.capella ≤ st.version)
    (decoded : lib.decodeSignedBLSToExecutionChanges r.body = .ok req) (nonempty : req ≠ [])
    (small : (checkBLSChanges lib st 0 req).2.length ≤ broadcastBLSChangesRateLimit) :
    .spawnBroadcastBLSChanges ((checkBLSChanges lib st 0 req).2.map some) ∈
        ((submitBLSToExecutionChanges lib r).run W s).trace ∧
      ∀ s' sub, Relation.ReflTransGen (SubmissionStep lib W .request)
          (Submission.spawn ((checkBLSChanges lib st 0 req).2.map some) s') sub →
        sub.loop.phase ≠ .spawned →
          sub.loop.phase = .exited ∧ blsBroadcasts sub.loop.trace = (checkBLSChanges lib st 0 req).2 := by
  refine ⟨?_, fun s' sub reachable started => ?_⟩
  · rw [submitBLSToExecutionChanges_batch lib r W s (stable s) decoded nonempty]
    simp [capella]
  · obtain ⟨exited, broadcasts⟩ :=
      OneBatch.submission stable ((List.length_map _ _).trans_le small) reachable started
    exact ⟨exited, broadcasts.trans (validChanges_map_some lib st _ (checkBLSChanges_valid lib st 0 req))⟩

theorem bls_small_batch_fully_broadcast_capella :
    (∀ s, ((World.succeeding capellaHead).headStateReadOnly s).1 = .ok capellaHead) ∧
      Version.capella ≤ capellaHead.version ∧
      blsBatchLibrary.decodeSignedBLSToExecutionChanges blsBatchRequest.body =
        .ok [passingChange, staleChange] ∧
      [passingChange, staleChange] ≠ [] ∧
      (checkBLSChanges blsBatchLibrary capellaHead 0 [passingChange, staleChange]).2.length ≤
        broadcastBLSChangesRateLimit ∧
      .spawnBroadcastBLSChanges
          ((checkBLSChanges blsBatchLibrary capellaHead 0 [passingChange, staleChange]).2.map some) ∈
        ((submitBLSToExecutionChanges blsBatchLibrary blsBatchRequest).run
          (World.succeeding capellaHead) ()).trace ∧
      ∀ s' sub, Relation.ReflTransGen (SubmissionStep blsBatchLibrary (World.succeeding capellaHead) .request)
          (Submission.spawn
            ((checkBLSChanges blsBatchLibrary capellaHead 0 [passingChange, staleChange]).2.map some) s')
          sub →
        sub.loop.phase ≠ .spawned →
          sub.loop.phase = .exited ∧
            blsBroadcasts sub.loop.trace =
              (checkBLSChanges blsBatchLibrary capellaHead 0 [passingChange, staleChange]).2 :=
  ⟨fun _ => rfl, by decide, rfl, List.cons_ne_nil _ _, by decide,
    bls_small_batch_fully_broadcast blsBatchLibrary blsBatchRequest (World.succeeding capellaHead) ()
      (fun _ => rfl) (by decide) rfl (List.cons_ne_nil _ _) (by decide)⟩

end BeaconPool
