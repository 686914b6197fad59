import BeaconPool.Broadcast.Submission

/-! # What the deferred broadcast sends, and that it can finish

`LoopInvariant` bounds what a `broadcastBLSChanges` goroutine has broadcast by a sublist of its
changes. Here the record is pinned down: in every reachable state, whatever the world answers
and whenever the context is cancelled, the broadcasts are, batch after batch, the changes of
each consecutive chunk of 128 that validate against the head state that batch fetched, and
each of those states is an answer of the head fetcher (`deferred_broadcast_exact`).

When every head-state fetch succeeds no reachable state is stuck: the goroutine can always go
on to exit with its slice empty. When the head state does not change, a goroutine whose slice
is empty has broadcast exactly the changes that validate against it, in order and each once
(`deferred_broadcast_completes`). A goroutine spawned with at most 128 changes is done after
its first batch, whatever happens to its context (`OneBatch.submission`).
-/

namespace BeaconPool

open scoped List

variable {σ : Type}

/-! ## What the successful batches broadcast -/

/-- The broadcasts of the successful batches of a goroutine spawned with `changes`, the `k`-th
having fetched `states[k]`: each revalidates the next 128 changes against its own state. -/
def batchBroadcasts (lib : Library) :
    List BeaconState → List (Option Eth.SignedBLSToExecutionChange) → List Eth.SignedBLSToExecutionChange
  | [], _ => []
  | st :: states, changes =>
    validChanges lib st (changes.take broadcastBLSChangesRateLimit) ++
      batchBroadcasts lib states (changes.drop broadcastBLSChangesRateLimit)

theorem batchBroadcasts_snoc (lib : Library) (states : List BeaconState) (st : BeaconState)
    (changes : List (Option Eth.SignedBLSToExecutionChange)) :
    batchBroadcasts lib (states ++ [st]) changes =
      batchBroadcasts lib states changes ++
        validChanges lib st ((changes.drop (broadcastBLSChangesRateLimit * states.length)).take
          broadcastBLSChangesRateLimit) := by
  induction states generalizing changes with
  | nil => simp [batchBroadcasts]
  | cons other states inductionHypothesis =>
    rw [List.cons_append, batchBroadcasts, batchBroadcasts, inductionHypothesis, List.drop_drop,
      List.append_assoc, List.length_cons, Nat.mul_succ,
      Nat.add_comm (broadcastBLSChangesRateLimit * states.length)]

/-- Batches that all fetch `st` broadcast what validates against `st` in the prefix they
examined. -/
theorem batchBroadcasts_replicate (lib : Library) (st : BeaconState) (k : Nat)
    (changes : List (Option Eth.SignedBLSToExecutionChange)) :
    batchBroadcasts lib (List.replicate k st) changes =
      validChanges lib st (changes.take (broadcastBLSChangesRateLimit * k)) := by
  induction k generalizing changes with
  | zero => simp [batchBroadcasts, validChanges]
  | succ k inductionHypothesis =>
    rw [List.replicate_succ, batchBroadcasts, inductionHypothesis, ← validChanges_append,
      Nat.mul_succ, Nat.add_comm, List.take_add]

/-! ## The exact record of a goroutine -/

/-- A step of the goroutine that runs a batch. -/
theorem LoopStep.batch {lib : Library} {W : World σ} {ctxDone : Bool} {loop : BroadcastLoop σ}
    (running : loop.phase ≠ .exited) : LoopStep lib W ctxDone loop (loop.batch lib W) := by
  cases phase : loop.phase with
  | spawned => exact .start phase
  | waiting => exact .tick phase
  | exited => exact absurd phase running

/-- What a goroutine spawned with `L` has done, exactly: the run invariant, the broadcasts of
its successful batches, and that each state it fetched was an answer of the head fetcher. -/
structure ExactBroadcasts (lib : Library) (W : World σ)
    (L : List (Option Eth.SignedBLSToExecutionChange)) (loop : BroadcastLoop σ) : Prop where
  invariant : LoopInvariant L loop
  broadcasts : blsBroadcasts loop.trace = batchBroadcasts lib (fetchedStates loop.trace) L
  fetched : ∀ st ∈ fetchedStates loop.trace, ∃ s, (W.headStateReadOnly s).1 = .ok st

section Exact

variable {lib : Library} {W : World σ} {L : List (Option Eth.SignedBLSToExecutionChange)}

theorem ExactBroadcasts.spawn (s : σ) : ExactBroadcasts lib W L (BroadcastLoop.spawn L s) :=
  ⟨LoopInvariant.spawn L s, rfl, fun _ member => absurd member (List.not_mem_nil _)⟩

theorem LoopStep.exactBroadcasts {ctxDone : Bool} {loop next : BroadcastLoop σ}
    (step : LoopStep lib W ctxDone loop next) (record : ExactBroadcasts lib W L loop) :
    ExactBroadcasts lib W L next := by
  have invariant := step.invariant record.invariant
  cases step with
  | start _ | tick _ =>
    cases fetch : (W.headStateReadOnly loop.world).1 with
    | error e =>
      obtain ⟨-, fetched, broadcasts⟩ := loop.batch_fetchFailed lib W fetch
      exact ⟨invariant, by rw [broadcasts, fetched, record.broadcasts], fetched ▸ record.fetched⟩
    | ok st =>
      obtain ⟨-, fetched, broadcasts⟩ := loop.batch_fetched lib W fetch
      refine ⟨invariant, ?_, ?_⟩
      · rw [broadcasts, fetched, batchBroadcasts_snoc, record.broadcasts, ← record.invariant.suffix]
      · intro fetchedState member
        rcases List.mem_append.mp (fetched ▸ member) with earlier | latest
        · exact record.fetched fetchedState earlier
        · exact ⟨loop.world, List.mem_singleton.mp latest ▸ fetch⟩
  | done _ _ | interfere _ _ => exact ⟨invariant, record.broadcasts, record.fetched⟩

theorem ExactBroadcasts.deferred {s : σ} {d : Deferred σ}
    (reachable : Relation.ReflTransGen (DeferredStep lib W) (Deferred.spawn L s) d) :
    ExactBroadcasts lib W L d.loop := by
  induction reachable with
  | refl => exact ExactBroadcasts.spawn s
  | tail _ step inductionHypothesis =>
    cases step with
    | loop step => exact step.exactBroadcasts inductionHypothesis
    | cancel => exact inductionHypothesis

theorem ExactBroadcasts.submission {ctx : Context} {s : σ} {sub : Submission σ}
    (reachable : Relation.ReflTransGen (SubmissionStep lib W ctx) (Submission.spawn L s) sub) :
    ExactBroadcasts lib W L sub.loop := by
  induction reachable with
  | refl => exact ExactBroadcasts.spawn s
  | tail _ step inductionHypothesis =>
    cases step with
    | loop step => exact step.exactBroadcasts inductionHypothesis
    | handlerReturns _ | serverCancels => exact inductionHypothesis

/-- With a head fetcher that always returns `st`, a goroutine that has run `k` batches has
broadcast the changes among the first `128 k` of `L` that validate against `st`. -/
theorem ExactBroadcasts.stable {st : BeaconState} {loop : BroadcastLoop σ}
    (record : ExactBroadcasts lib W L loop) (stable : ∀ s, (W.headStateReadOnly s).1 = .ok st) :
    blsBroadcasts loop.trace =
      validChanges lib st (L.take (broadcastBLSChangesRateLimit * (fetchedStates loop.trace).length)) := by
  have states : fetchedStates loop.trace =
      List.replicate (fetchedStates loop.trace).length st := by
    refine List.eq_replicate_iff.mpr ⟨rfl, fun fetchedState member => ?_⟩
    obtain ⟨s, fetch⟩ := record.fetched fetchedState member
    rw [stable s] at fetch
    exact (Except.ok.inj fetch).symm
  rw [record.broadcasts, states, batchBroadcasts_replicate, List.length_replicate]

/-- With a head fetcher that always returns `st`, the broadcasts of a goroutine whose slice is
empty are the changes of `L` that validate against `st`. -/
theorem ExactBroadcasts.drained {st : BeaconState} {loop : BroadcastLoop σ}
    (record : ExactBroadcasts lib W L loop) (stable : ∀ s, (W.headStateReadOnly s).1 = .ok st)
    (drained : loop.changes = []) : blsBroadcasts loop.trace = validChanges lib st L := by
  have covered := List.drop_eq_nil_iff.mp (record.invariant.suffix ▸ drained)
  rw [record.stable stable, List.take_of_length_le covered]

end Exact

/-- In every reachable state of a goroutine spawned with `L`, for every behaviour of the world
and every cancellation of its context, the changes broadcast so far are, in order, for each
batch whose head-state fetch succeeded, the non-nil changes of its chunk of 128 that validate
against the state it fetched; and each of those states is an answer of the head fetcher. -/
theorem deferred_broadcast_exact (lib : Library) (W : World σ)
    (L : List (Option Eth.SignedBLSToExecutionChange)) (s₀ : σ) :
    ∀ d, Relation.ReflTransGen (DeferredStep lib W) (Deferred.spawn L s₀) d →
      blsBroadcasts d.loop.trace = batchBroadcasts lib (fetchedStates d.loop.trace) L ∧
        ∀ st ∈ fetchedStates d.loop.trace, ∃ s, (W.headStateReadOnly s).1 = .ok st :=
  fun _ reachable => ⟨(ExactBroadcasts.deferred reachable).broadcasts,
    (ExactBroadcasts.deferred reachable).fetched⟩

/-- A goroutine spawned with one change, after its first batch on a node where every call
succeeds. -/
def firstBatch : Deferred Unit :=
  ⟨(BroadcastLoop.spawn [some default] ()).batch default (World.succeeding default), false⟩

theorem deferred_broadcast_exact_first_batch :
    Relation.ReflTransGen (DeferredStep default (World.succeeding default))
        (Deferred.spawn [some default] ()) firstBatch ∧
      blsBroadcasts firstBatch.loop.trace =
        batchBroadcasts default (fetchedStates firstBatch.loop.trace) [some default] ∧
      ∀ st ∈ fetchedStates firstBatch.loop.trace,
        ∃ s, ((World.succeeding default).headStateReadOnly s).1 = .ok st :=
  ⟨.single (.loop (.start rfl)),
    deferred_broadcast_exact default (World.succeeding default) [some default] () firstBatch
      (.single (.loop (.start rfl)))⟩

/-! ## The goroutine can finish -/

/-- When every head-state fetch succeeds, a goroutine that has not exited can run batches until
it exits with its slice empty; each batch removes up to 128 changes. -/
theorem BroadcastLoop.finishes (lib : Library) (W : World σ) (ctxDone : Bool)
    (fetches : ∀ s, ∃ st, (W.headStateReadOnly s).1 = .ok st) (loop : BroadcastLoop σ)
    (running : loop.phase ≠ .exited) :
    ∃ next, Relation.ReflTransGen (LoopStep lib W ctxDone) loop next ∧
      next.phase = .exited ∧ next.changes = [] := by
  obtain ⟨n, bound⟩ : ∃ n, loop.changes.length < n := ⟨_, Nat.lt_succ_self _⟩
  induction n generalizing loop with
  | zero => exact absurd bound (Nat.not_lt_zero _)
  | succ n inductionHypothesis =>
    obtain ⟨st, fetch⟩ := fetches loop.world
    obtain ⟨changes, -, -⟩ := loop.batch_fetched lib W fetch
    obtain ⟨-, -, exited, -⟩ := loop.batch_cases lib W
    have step : LoopStep lib W ctxDone loop (loop.batch lib W) := .batch running
    by_cases empty : (loop.batch lib W).changes = []
    · exact ⟨_, .single step, exited.mpr empty, empty⟩
    · have shorter : (loop.batch lib W).changes.length < n := by
        have long := List.drop_eq_nil_iff.not.mp (changes ▸ empty)
        have positive : 0 < broadcastBLSChangesRateLimit := by decide
        rw [changes, List.length_drop]
        omega
      obtain ⟨next, run, done, drained⟩ :=
        inductionHypothesis _ (fun exitedNow => empty (exited.mp exitedNow)) shorter
      exact ⟨next, .head step run, done, drained⟩

/-- When every head-state fetch succeeds, from every reachable state in which the goroutine is
still running, whether its context is cancelled or not, a state in which it has exited with its
slice empty is reachable. When moreover the fetcher always returns the same head state `st`, a
reachable goroutine whose slice is empty has broadcast exactly the non-nil changes of `L` that
validate against `st`, in order and each once. -/
theorem deferred_broadcast_completes (lib : Library) (W : World σ)
    (L : List (Option Eth.SignedBLSToExecutionChange)) (s₀ : σ) :
    ((∀ s, ∃ st, (W.headStateReadOnly s).1 = .ok st) →
      ∀ d, Relation.ReflTransGen (DeferredStep lib W) (Deferred.spawn L s₀) d →
        d.loop.phase ≠ .exited →
        ∃ d', Relation.ReflTransGen (DeferredStep lib W) d d' ∧
          d'.loop.phase = .exited ∧ d'.loop.changes = []) ∧
    ∀ st, (∀ s, (W.headStateReadOnly s).1 = .ok st) →
      ∀ d, Relation.ReflTransGen (DeferredStep lib W) (Deferred.spawn L s₀) d →
        d.loop.changes = [] → blsBroadcasts d.loop.trace = validChanges lib st L := by
  refine ⟨fun fetches d _ running => ?_, fun st stable d reachable drained =>
    (ExactBroadcasts.deferred reachable).drained stable drained⟩
  obtain ⟨next, run, exited, drained⟩ := d.loop.finishes lib W d.cancelled fetches running
  exact ⟨⟨next, d.cancelled⟩,
    run.lift (fun loop => (⟨loop, d.cancelled⟩ : Deferred σ)) (fun _ _ step => .loop step),
    exited, drained⟩

theorem deferred_broadcast_completes_single_change :
    ((∀ s, ∃ st, ((World.succeeding default).headStateReadOnly s).1 = .ok st) ∧
      Relation.ReflTransGen (DeferredStep default (World.succeeding default))
        (Deferred.spawn [some default] ()) (Deferred.spawn [some default] ()) ∧
      (Deferred.spawn [some default] ()).loop.phase ≠ .exited ∧
      ∃ d', Relation.ReflTransGen (DeferredStep default (World.succeeding default))
          (Deferred.spawn [some default] ()) d' ∧
        d'.loop.phase = .exited ∧ d'.loop.changes = []) ∧
    (∀ s, ((World.succeeding default).headStateReadOnly s).1 = .ok default) ∧
      Relation.ReflTransGen (DeferredStep default (World.succeeding default))
        (Deferred.spawn [some default] ()) firstBatch ∧
      firstBatch.loop.changes = [] ∧
      blsBroadcasts firstBatch.loop.trace = validChanges default default [some default] :=
  ⟨⟨fun _ => ⟨_, rfl⟩, .refl, nofun,
    (deferred_broadcast_completes default (World.succeeding default) [some default] ()).1
      (fun _ => ⟨_, rfl⟩) _ .refl nofun⟩,
    fun _ => rfl, .single (.loop (.start rfl)), rfl,
    (deferred_broadcast_completes default (World.succeeding default) [some default] ()).2 default
      (fun _ => rfl) firstBatch (.single (.loop (.start rfl))) rfl⟩

/-! ## A slice the first batch empties -/

/-- A goroutine spawned with `L`, all of whose changes the first batch examines, against a head
fetcher that always returns `st`: it has not started, or it has exited having broadcast what
of `L` validates against `st`. -/
def OneBatch (lib : Library) (st : BeaconState) (L : List (Option Eth.SignedBLSToExecutionChange))
    (loop : BroadcastLoop σ) : Prop :=
  (loop.phase = .spawned ∧ loop.changes = L) ∨
    (loop.phase = .exited ∧ blsBroadcasts loop.trace = validChanges lib st L)

section OneBatch

variable {lib : Library} {W : World σ} {st : BeaconState}
  {L : List (Option Eth.SignedBLSToExecutionChange)}

theorem LoopStep.oneBatch (stable : ∀ s, (W.headStateReadOnly s).1 = .ok st)
    (small : L.length ≤ broadcastBLSChangesRateLimit) {ctxDone : Bool} {loop next : BroadcastLoop σ}
    (step : LoopStep lib W ctxDone loop next) (state : OneBatch lib st L loop)
    (fresh : loop.phase = .spawned → loop.trace = []) : OneBatch lib st L next := by
  rcases state with ⟨spawned, unchanged⟩ | ⟨exited, broadcasts⟩
  · cases step with
    | start _ =>
      obtain ⟨changes, -, broadcasts⟩ := loop.batch_fetched lib W (stable loop.world)
      obtain ⟨-, -, exitedIff, -⟩ := loop.batch_cases lib W
      have empty : (loop.batch lib W).changes = [] := by
        rw [changes, unchanged, List.drop_eq_nil_iff]
        exact small
      refine .inr ⟨exitedIff.mpr empty, ?_⟩
      rw [broadcasts, fresh spawned, unchanged, List.take_of_length_le small]
      rfl
    | tick waiting | done waiting _ => cases spawned.symm.trans waiting
    | interfere _ _ => exact .inl ⟨spawned, unchanged⟩
  · cases step with
    | start spawned | tick spawned | done spawned _ => cases exited.symm.trans spawned
    | interfere _ running => exact absurd exited running

/-- Under the request's context as under the server's, whatever the interleaving, a goroutine
spawned with at most 128 changes against a head fetcher that always returns `st` has, once it
has left its first state, exited having broadcast what of its changes validates against `st`. -/
theorem OneBatch.submission (stable : ∀ s, (W.headStateReadOnly s).1 = .ok st)
    (small : L.length ≤ broadcastBLSChangesRateLimit) {ctx : Context} {s : σ} {sub : Submission σ}
    (reachable : Relation.ReflTransGen (SubmissionStep lib W ctx) (Submission.spawn L s) sub) :
    sub.loop.phase ≠ .spawned →
      sub.loop.phase = .exited ∧ blsBroadcasts sub.loop.trace = validChanges lib st L := by
  suffices OneBatch lib st L sub.loop ∧ LoopInvariant L sub.loop from
    fun started => this.1.resolve_left fun ⟨spawned, _⟩ => started spawned
  induction reachable with
  | refl => exact ⟨.inl ⟨rfl, rfl⟩, LoopInvariant.spawn L s⟩
  | tail _ step inductionHypothesis =>
    obtain ⟨state, invariant⟩ := inductionHypothesis
    cases step with
    | loop step => exact ⟨step.oneBatch stable small state invariant.spawned, step.invariant invariant⟩
    | handlerReturns _ | serverCancels => exact ⟨state, invariant⟩

end OneBatch

end BeaconPool
