import BeaconPool.Server.Handler
import Mathlib.Logic.Relation
import Mathlib.Data.List.ReduceOption

/-! # The deferred BLS-to-execution-change broadcast

`broadcastBLSBatch` is a handler-monad function: it fetches the head state and, when that
succeeds, revalidates and broadcasts the first `min 128 n` changes of the slice and drops
them. `broadcastBLSChanges` is the goroutine around it: one batch at once, then one per
ticker fire until the slice is empty or its context is done. Since a Go `select` with both
cases ready picks either, and other goroutines change the collaborators' state in between,
the goroutine is a step relation, `LoopStep`, over `BroadcastLoop` states; whether the
context is done is an input of each step.

* `broadcastBLSBatch_fetchFailed`, `broadcastBLSBatch_fetched` — what one batch does.
* `LoopStep` and `Deferred` — the goroutine, and the goroutine with cancellation of its
  context as a further event.
-/

namespace BeaconPool

open scoped List

variable {σ : Type}

/-- `broadcastBLSChangesRateLimit`. -/
def broadcastBLSChangesRateLimit : Nat := 128

/-- The changes a batch broadcasts against `st`: the non-nil ones that validate. -/
def validChanges (lib : Library) (st : BeaconState) :
    List (Option Eth.SignedBLSToExecutionChange) → List Eth.SignedBLSToExecutionChange
  | [] => []
  | none :: rest => validChanges lib st rest
  | some ch :: rest =>
    match lib.validateBLSToExecutionChange st ch with
    | .error _ => validChanges lib st rest
    | .ok () => ch :: validChanges lib st rest

/-- The loop of `broadcastBLSBatch` over `(*ptr)[:limit]`. -/
def broadcastBLSBatchItems (lib : Library) (st : BeaconState) :
    List (Option Eth.SignedBLSToExecutionChange) → Handler σ Unit
  | [] => pure ()
  | none :: rest => broadcastBLSBatchItems lib st rest
  | some ch :: rest =>
    match lib.validateBLSToExecutionChange st ch with
    | .error _ => broadcastBLSBatchItems lib st rest
    | .ok () => do
      let _ ← broadcast (.blsToExecutionChange ch)
      broadcastBLSBatchItems lib st rest

/-- `broadcastBLSBatch`, returning the new value of `*ptr`. -/
def broadcastBLSBatch (lib : Library) (changes : List (Option Eth.SignedBLSToExecutionChange)) :
    Handler σ (List (Option Eth.SignedBLSToExecutionChange)) := do
  let limit :=
    if changes.length < broadcastBLSChangesRateLimit then changes.length
    else broadcastBLSChangesRateLimit
  match ← headStateReadOnly with
  | .error _ => pure changes
  | .ok st => do
    broadcastBLSBatchItems lib st (changes.take limit)
    pure (changes.drop limit)

/-! ## Projections of a record -/

/-- The change an event broadcasts, if it is a BLS-change `Broadcast`. -/
def Event.blsBroadcast : Event → Option Eth.SignedBLSToExecutionChange
  | .broadcast (.blsToExecutionChange ch) _ => some ch
  | _ => none

/-- The head state an event fetched, if it is a successful `HeadStateReadOnly`. -/
def Event.fetchedState : Event → Option BeaconState
  | .headStateReadOnly (.ok st) => some st
  | _ => none

def blsBroadcasts (trace : List Event) : List Eth.SignedBLSToExecutionChange :=
  trace.filterMap Event.blsBroadcast

def fetchedStates (trace : List Event) : List BeaconState :=
  trace.filterMap Event.fetchedState

@[simp] theorem blsBroadcasts_nil : blsBroadcasts [] = [] := rfl

@[simp] theorem blsBroadcasts_append (a b : List Event) :
    blsBroadcasts (a ++ b) = blsBroadcasts a ++ blsBroadcasts b := List.filterMap_append _ _ _

@[simp] theorem fetchedStates_nil : fetchedStates [] = [] := rfl

@[simp] theorem fetchedStates_append (a b : List Event) :
    fetchedStates (a ++ b) = fetchedStates a ++ fetchedStates b := List.filterMap_append _ _ _

/-! ## One batch -/

/-- The slice length a batch takes: `min 128 n`. -/
theorem batch_limit_eq (n : Nat) :
    (if n < broadcastBLSChangesRateLimit then n else broadcastBLSChangesRateLimit) =
      min broadcastBLSChangesRateLimit n := by
  unfold broadcastBLSChangesRateLimit
  split <;> omega

theorem broadcastBLSBatchItems_run (lib : Library) (st : BeaconState) (W : World σ)
    (items : List (Option Eth.SignedBLSToExecutionChange)) (s : σ) :
    blsBroadcasts ((broadcastBLSBatchItems lib st items).run W s).trace = validChanges lib st items ∧
      fetchedStates ((broadcastBLSBatchItems lib st items).run W s).trace = [] ∧
      ((broadcastBLSBatchItems lib st items).run W s).trace.length =
        (validChanges lib st items).length := by
  induction items generalizing s with
  | nil => exact ⟨rfl, rfl, rfl⟩
  | cons item rest inductionHypothesis =>
    rcases item with _ | ch
    · exact inductionHypothesis s
    · simp only [broadcastBLSBatchItems, validChanges]
      split
      · exact inductionHypothesis s
      · obtain ⟨broadcasts, fetched, length⟩ := inductionHypothesis (W.broadcast s (.blsToExecutionChange ch)).2
        simp [broadcast, Handler.call, blsBroadcasts, fetchedStates, Event.blsBroadcast,
          Event.fetchedState] at broadcasts fetched length ⊢
        exact ⟨broadcasts, fetched, length⟩

/-- `broadcastBLSBatch` when the head-state fetch fails: nothing is broadcast or removed. -/
theorem broadcastBLSBatch_fetchFailed (lib : Library) (W : World σ) (s : σ) {e : String}
    (changes : List (Option Eth.SignedBLSToExecutionChange))
    (fetch : (W.headStateReadOnly s).1 = .error e) :
    ((broadcastBLSBatch lib changes).run W s).value = changes ∧
      blsBroadcasts ((broadcastBLSBatch lib changes).run W s).trace = [] ∧
      fetchedStates ((broadcastBLSBatch lib changes).run W s).trace = [] := by
  simp [broadcastBLSBatch, headStateReadOnly, Handler.call, fetch, blsBroadcasts, fetchedStates,
    Event.blsBroadcast, Event.fetchedState]

/-- `broadcastBLSBatch` when the fetch returns `st`: the first `min 128 n` changes are
examined, the valid non-nil ones broadcast, and exactly those removed. -/
theorem broadcastBLSBatch_fetched (lib : Library) (W : World σ) (s : σ) {st : BeaconState}
    (changes : List (Option Eth.SignedBLSToExecutionChange))
    (fetch : (W.headStateReadOnly s).1 = .ok st) :
    ((broadcastBLSBatch lib changes).run W s).value =
        changes.drop (min broadcastBLSChangesRateLimit changes.length) ∧
      blsBroadcasts ((broadcastBLSBatch lib changes).run W s).trace =
        validChanges lib st (changes.take (min broadcastBLSChangesRateLimit changes.length)) ∧
      fetchedStates ((broadcastBLSBatch lib changes).run W s).trace = [st] := by
  obtain ⟨broadcasts, fetched, -⟩ := broadcastBLSBatchItems_run lib st W
    (changes.take (min broadcastBLSChangesRateLimit changes.length)) (W.headStateReadOnly s).2
  simp only [broadcastBLSBatch, batch_limit_eq]
  simp [headStateReadOnly, Handler.call, fetch, blsBroadcasts, fetchedStates, Event.blsBroadcast,
    Event.fetchedState] at broadcasts fetched ⊢
  exact ⟨broadcasts, fetched⟩

/-! ## Lemmas on the examined prefix -/

theorem take_min_length {α : Type} (l : List α) (n : Nat) : l.take (min n l.length) = l.take n := by
  rcases Nat.le_total n l.length with h | h
  · rw [Nat.min_eq_left h]
  · rw [Nat.min_eq_right h, List.take_length, List.take_of_length_le h]

theorem drop_min_length {α : Type} (l : List α) (n : Nat) : l.drop (min n l.length) = l.drop n := by
  rcases Nat.le_total n l.length with h | h
  · rw [Nat.min_eq_left h]
  · rw [Nat.min_eq_right h, List.drop_length, List.drop_eq_nil_of_le h]

theorem validChanges_sublist (lib : Library) (st : BeaconState)
    (items : List (Option Eth.SignedBLSToExecutionChange)) :
    validChanges lib st items <+ items.reduceOption := by
  induction items with
  | nil => exact List.Sublist.slnil
  | cons item rest inductionHypothesis =>
    rcases item with _ | ch
    · simpa [validChanges, List.reduceOption_cons_of_none] using inductionHypothesis
    · simp only [validChanges, List.reduceOption_cons_of_some]
      split
      · exact inductionHypothesis.cons ch
      · exact inductionHypothesis.cons₂ ch

theorem mem_validChanges (lib : Library) (st : BeaconState)
    (items : List (Option Eth.SignedBLSToExecutionChange)) (ch : Eth.SignedBLSToExecutionChange) :
    ch ∈ validChanges lib st items ↔
      some ch ∈ items ∧ lib.validateBLSToExecutionChange st ch = .ok () := by
  induction items with
  | nil => simp [validChanges]
  | cons item rest inductionHypothesis =>
    rcases item with _ | other
    · simpa [validChanges] using inductionHypothesis
    · simp only [validChanges]
      split <;> by_cases same : ch = other <;> simp_all

theorem validChanges_append (lib : Library) (st : BeaconState)
    (front back : List (Option Eth.SignedBLSToExecutionChange)) :
    validChanges lib st (front ++ back) = validChanges lib st front ++ validChanges lib st back := by
  induction front with
  | nil => rfl
  | cons item rest inductionHypothesis =>
    rcases item with _ | ch
    · exact inductionHypothesis
    · simp only [List.cons_append, validChanges]
      split <;> simp [inductionHypothesis]

/-- Changes that all validate against `st` are all broadcast, in order. -/
theorem validChanges_map_some (lib : Library) (st : BeaconState) (changes : List Eth.SignedBLSToExecutionChange)
    (valid : ∀ ch ∈ changes, lib.validateBLSToExecutionChange st ch = .ok ()) :
    validChanges lib st (changes.map some) = changes := by
  induction changes with
  | nil => rfl
  | cons ch rest inductionHypothesis =>
    simp only [List.map_cons, validChanges, valid ch (List.mem_cons_self _ _),
      inductionHypothesis fun other member => valid other (List.mem_cons_of_mem _ member)]

/-! ## The goroutine -/

inductive LoopPhase where
  | spawned
  | waiting
  | exited
  deriving DecidableEq, Repr

/-- One `broadcastBLSChanges` goroutine: where it is, its slice, the collaborators' state,
and the calls it made. -/
structure BroadcastLoop (σ : Type) where
  phase : LoopPhase
  changes : List (Option Eth.SignedBLSToExecutionChange)
  world : σ
  trace : List Event

/-- One `broadcastBLSBatch(ctx, &changes)` and the `len(changes) == 0` test after it. -/
def BroadcastLoop.batch (lib : Library) (W : World σ) (loop : BroadcastLoop σ) : BroadcastLoop σ :=
  let outcome := (broadcastBLSBatch lib loop.changes).run W loop.world
  ⟨if outcome.value.isEmpty then .exited else .waiting, outcome.value, outcome.world,
    loop.trace ++ outcome.trace⟩

/-- The goroutine's steps while its context is done iff `ctxDone`: the first batch, a
ticker fire, the `ctx.Done()` case of the `select`, and a change of the collaborators'
state by anything else that runs. -/
inductive LoopStep (lib : Library) (W : World σ) (ctxDone : Bool) :
    BroadcastLoop σ → BroadcastLoop σ → Prop where
  | start {loop : BroadcastLoop σ} :
      loop.phase = .spawned → LoopStep lib W ctxDone loop (loop.batch lib W)
  | tick {loop : BroadcastLoop σ} :
      loop.phase = .waiting → LoopStep lib W ctxDone loop (loop.batch lib W)
  | done {loop : BroadcastLoop σ} :
      loop.phase = .waiting → ctxDone = true → LoopStep lib W ctxDone loop { loop with phase := .exited }
  | interfere {loop : BroadcastLoop σ} (s : σ) :
      loop.phase ≠ .exited → LoopStep lib W ctxDone loop { loop with world := s }

def BroadcastLoop.spawn (changes : List (Option Eth.SignedBLSToExecutionChange)) (s : σ) :
    BroadcastLoop σ :=
  ⟨.spawned, changes, s, []⟩

/-- What one batch adds to the record: nothing broadcast and nothing removed when the fetch
fails; otherwise the valid non-nil changes of the examined prefix, which is removed. -/
theorem BroadcastLoop.batch_cases (lib : Library) (W : World σ) (loop : BroadcastLoop σ) :
    ∃ events, (loop.batch lib W).trace = loop.trace ++ events ∧
      ((loop.batch lib W).phase = .exited ↔ (loop.batch lib W).changes = []) ∧
      ((blsBroadcasts events = [] ∧ fetchedStates events = [] ∧
          (loop.batch lib W).changes = loop.changes) ∨
        ∃ st, fetchedStates events = [st] ∧
          blsBroadcasts events =
            validChanges lib st (loop.changes.take (min broadcastBLSChangesRateLimit loop.changes.length)) ∧
          (loop.batch lib W).changes =
            loop.changes.drop (min broadcastBLSChangesRateLimit loop.changes.length)) := by
  refine ⟨_, rfl, ?_, ?_⟩
  · simp only [batch]
    split <;> simp_all
  · cases fetch : (W.headStateReadOnly loop.world).1 with
    | error e =>
      obtain ⟨value, broadcasts, fetched⟩ := broadcastBLSBatch_fetchFailed lib W loop.world loop.changes fetch
      exact .inl ⟨broadcasts, fetched, value⟩
    | ok st => exact .inr ⟨st, (broadcastBLSBatch_fetched lib W loop.world loop.changes fetch).2.2,
        (broadcastBLSBatch_fetched lib W loop.world loop.changes fetch).2.1,
        (broadcastBLSBatch_fetched lib W loop.world loop.changes fetch).1⟩

theorem BroadcastLoop.batch_phase_ne_spawned (lib : Library) (W : World σ) (loop : BroadcastLoop σ) :
    (loop.batch lib W).phase ≠ .spawned := by
  simp only [batch]
  split <;> nofun

/-- A batch whose fetch returns `st` drops the first 128 changes and broadcasts those of them
that validate against `st`. -/
theorem BroadcastLoop.batch_fetched (lib : Library) (W : World σ) (loop : BroadcastLoop σ)
    {st : BeaconState} (fetch : (W.headStateReadOnly loop.world).1 = .ok st) :
    (loop.batch lib W).changes = loop.changes.drop broadcastBLSChangesRateLimit ∧
      fetchedStates (loop.batch lib W).trace = fetchedStates loop.trace ++ [st] ∧
      blsBroadcasts (loop.batch lib W).trace =
        blsBroadcasts loop.trace ++ validChanges lib st (loop.changes.take broadcastBLSChangesRateLimit) := by
  obtain ⟨value, broadcasts, fetched⟩ := broadcastBLSBatch_fetched lib W loop.world loop.changes fetch
  simp only [batch, fetchedStates_append, blsBroadcasts_append, value, broadcasts, fetched,
    drop_min_length, take_min_length, and_self]

/-- A batch whose fetch fails changes neither the slice nor what was broadcast. -/
theorem BroadcastLoop.batch_fetchFailed (lib : Library) (W : World σ) (loop : BroadcastLoop σ)
    {e : String} (fetch : (W.headStateReadOnly loop.world).1 = .error e) :
    (loop.batch lib W).changes = loop.changes ∧
      fetchedStates (loop.batch lib W).trace = fetchedStates loop.trace ∧
      blsBroadcasts (loop.batch lib W).trace = blsBroadcasts loop.trace := by
  obtain ⟨value, broadcasts, fetched⟩ := broadcastBLSBatch_fetchFailed lib W loop.world loop.changes fetch
  simp only [batch, fetchedStates_append, blsBroadcasts_append, value, broadcasts, fetched,
    List.append_nil, and_self]

/-! ## The run invariant -/

/-- The invariant of a goroutine spawned with `L`, where `k` counts the batches whose fetch
succeeded: the slice is `L` without its first `128 k` changes, a waiting goroutine has a
change left, `k` is at most `max 1 ⌈|L| / 128⌉`, and the changes broadcast so far are among
the first `128 k`, in order and each once. -/
structure LoopInvariant (L : List (Option Eth.SignedBLSToExecutionChange))
    (loop : BroadcastLoop σ) : Prop where
  suffix : loop.changes = L.drop (broadcastBLSChangesRateLimit * (fetchedStates loop.trace).length)
  spawned : loop.phase = .spawned → loop.trace = []
  waiting : loop.phase = .waiting → loop.changes ≠ []
  batches : (fetchedStates loop.trace).length ≤ max 1 ((L.length + 127) / 128)
  broadcasts : blsBroadcasts loop.trace <+
    (L.take (broadcastBLSChangesRateLimit * (fetchedStates loop.trace).length)).reduceOption

theorem LoopInvariant.spawn (L : List (Option Eth.SignedBLSToExecutionChange)) (s : σ) :
    LoopInvariant L (BroadcastLoop.spawn L s) where
  suffix := by simp [BroadcastLoop.spawn]
  spawned := fun _ => rfl
  waiting := nofun
  batches := by simp [BroadcastLoop.spawn]
  broadcasts := by simp [BroadcastLoop.spawn]

theorem LoopInvariant.batch {L : List (Option Eth.SignedBLSToExecutionChange)}
    {loop : BroadcastLoop σ} (invariant : LoopInvariant L loop) (running : loop.phase ≠ .exited)
    (lib : Library) (W : World σ) : LoopInvariant L (loop.batch lib W) := by
  obtain ⟨events, trace, exited, outcome⟩ := loop.batch_cases lib W
  have waiting : (loop.batch lib W).phase = .waiting → (loop.batch lib W).changes ≠ [] :=
    fun waiting empty => by simp [exited.mpr empty] at waiting
  have spawned := loop.batch_phase_ne_spawned lib W
  rcases outcome with ⟨broadcasts, fetched, changes⟩ | ⟨st, fetched, broadcasts, changes⟩
  · have count : fetchedStates (loop.batch lib W).trace = fetchedStates loop.trace := by
      simp [trace, fetched]
    refine ⟨?_, (absurd · spawned), waiting, count ▸ invariant.batches, ?_⟩
    · rw [count, changes]
      exact invariant.suffix
    · rw [count, trace, blsBroadcasts_append, broadcasts, List.append_nil]
      exact invariant.broadcasts
  · have count : (fetchedStates (loop.batch lib W).trace).length =
        (fetchedStates loop.trace).length + 1 := by
      simp [trace, fetched]
    refine ⟨?_, (absurd · spawned), waiting, ?_, ?_⟩
    · rw [changes, count, drop_min_length, invariant.suffix, List.drop_drop, Nat.mul_succ]
    · rw [count]
      rcases phase : loop.phase
      · rw [invariant.spawned phase]
        exact Nat.le_max_left 1 _
      · have remaining := invariant.suffix ▸ invariant.waiting phase
        rw [Ne, List.drop_eq_nil_iff] at remaining
        unfold broadcastBLSChangesRateLimit at remaining
        exact Nat.le_trans (by omega) (Nat.le_max_right 1 _)
      · exact absurd phase running
    · rw [count, trace, blsBroadcasts_append, broadcasts, take_min_length, invariant.suffix,
        Nat.mul_succ, List.take_add, List.reduceOption_append]
      exact invariant.broadcasts.append (validChanges_sublist lib st _)

theorem LoopStep.invariant {lib : Library} {W : World σ} {ctxDone : Bool}
    {L : List (Option Eth.SignedBLSToExecutionChange)} {loop next : BroadcastLoop σ}
    (step : LoopStep lib W ctxDone loop next) (invariant : LoopInvariant L loop) :
    LoopInvariant L next := by
  cases step with
  | start spawned => exact invariant.batch (by simp [spawned]) lib W
  | tick waiting => exact invariant.batch (by simp [waiting]) lib W
  | done _ _ => exact ⟨invariant.suffix, nofun, nofun, invariant.batches, invariant.broadcasts⟩
  | interfere _ _ => exact ⟨invariant.suffix, invariant.spawned, invariant.waiting,
      invariant.batches, invariant.broadcasts⟩

/-- The goroutine stops with changes left only through `ctx.Done()`. -/
theorem LoopStep.exited_changes {lib : Library} {W : World σ} {ctxDone : Bool}
    {loop next : BroadcastLoop σ} (step : LoopStep lib W ctxDone loop next)
    (exited : next.phase = .exited) : next.changes = [] ∨ ctxDone = true := by
  cases step with
  | start _ | tick _ =>
    obtain ⟨_, _, batchExited, _⟩ := loop.batch_cases lib W
    exact .inl (batchExited.mp exited)
  | done _ ctxDone => exact .inr ctxDone
  | interfere _ running => exact absurd exited running

/-- What one step adds to the record: at most 128 `Broadcast` calls, each on a non-nil change
among the first 128 of the slice that validates against the head state fetched by the
same step. -/
theorem LoopStep.broadcasts {lib : Library} {W : World σ} {ctxDone : Bool}
    {loop next : BroadcastLoop σ} (step : LoopStep lib W ctxDone loop next) :
    ∃ events, next.trace = loop.trace ++ events ∧
      (blsBroadcasts events).length ≤ broadcastBLSChangesRateLimit ∧
      ∀ ch ∈ blsBroadcasts events, some ch ∈ loop.changes.take broadcastBLSChangesRateLimit ∧
        ∃ st, fetchedStates events = [st] ∧ lib.validateBLSToExecutionChange st ch = .ok () := by
  cases step with
  | start _ | tick _ =>
    obtain ⟨events, trace, -, outcome⟩ := loop.batch_cases lib W
    refine ⟨events, trace, ?_⟩
    rcases outcome with ⟨broadcasts, -, -⟩ | ⟨st, fetched, broadcasts, -⟩
    · simp [broadcasts]
    · rw [broadcasts, take_min_length]
      refine ⟨?_, fun ch member => ?_⟩
      · calc (validChanges lib st _).length
            ≤ (loop.changes.take broadcastBLSChangesRateLimit).reduceOption.length :=
              (validChanges_sublist lib st _).length_le
          _ ≤ (loop.changes.take broadcastBLSChangesRateLimit).length := List.reduceOption_length_le _
          _ ≤ broadcastBLSChangesRateLimit := List.length_take_le _ _
      · obtain ⟨present, valid⟩ := (mem_validChanges lib st _ ch).mp member
        exact ⟨present, st, fetched, valid⟩
  | done _ _ | interfere _ _ => exact ⟨[], (List.append_nil _).symm, by simp, by simp⟩

/-! ## The goroutine and its context -/

/-- A spawned goroutine together with whether the context it was given is done. -/
structure Deferred (σ : Type) where
  loop : BroadcastLoop σ
  cancelled : Bool

def Deferred.spawn (changes : List (Option Eth.SignedBLSToExecutionChange)) (s : σ) : Deferred σ :=
  ⟨BroadcastLoop.spawn changes s, false⟩

/-- A goroutine step, or the cancellation of its context. -/
inductive DeferredStep (lib : Library) (W : World σ) : Deferred σ → Deferred σ → Prop where
  | loop {d : Deferred σ} {next : BroadcastLoop σ} :
      LoopStep lib W d.cancelled d.loop next → DeferredStep lib W d ⟨next, d.cancelled⟩
  | cancel {d : Deferred σ} : DeferredStep lib W d ⟨d.loop, true⟩

structure DeferredInvariant (L : List (Option Eth.SignedBLSToExecutionChange)) (d : Deferred σ) :
    Prop where
  loop : LoopInvariant L d.loop
  exited : d.loop.phase = .exited → d.loop.changes = [] ∨ d.cancelled = true

theorem DeferredStep.invariant {lib : Library} {W : World σ}
    {L : List (Option Eth.SignedBLSToExecutionChange)} {d next : Deferred σ}
    (step : DeferredStep lib W d next) (invariant : DeferredInvariant L d) :
    DeferredInvariant L next := by
  cases step with
  | loop step => exact ⟨step.invariant invariant.loop, step.exited_changes⟩
  | cancel => exact ⟨invariant.loop, fun _ => .inr rfl⟩

theorem DeferredInvariant.reachable {lib : Library} {W : World σ}
    {L : List (Option Eth.SignedBLSToExecutionChange)} {s : σ} {d : Deferred σ}
    (reachable : Relation.ReflTransGen (DeferredStep lib W) (Deferred.spawn L s) d) :
    DeferredInvariant L d := by
  induction reachable with
  | refl => exact ⟨LoopInvariant.spawn L s, nofun⟩
  | tail _ step inductionHypothesis => exact step.invariant inductionHypothesis

/-! ## Safety and progress of the deferred broadcast -/

theorem deferred_broadcast_safety_progress (lib : Library) (W : World σ)
    (L : List (Option Eth.SignedBLSToExecutionChange)) (s₀ : σ) :
    (∀ (s : σ) (changes : List (Option Eth.SignedBLSToExecutionChange)) (st : BeaconState),
      (W.headStateReadOnly s).1 = .ok st →
        ((broadcastBLSBatch lib changes).run W s).value =
            changes.drop (min broadcastBLSChangesRateLimit changes.length) ∧
          blsBroadcasts ((broadcastBLSBatch lib changes).run W s).trace =
            validChanges lib st (changes.take (min broadcastBLSChangesRateLimit changes.length))) ∧
    (∀ (s : σ) (changes : List (Option Eth.SignedBLSToExecutionChange)) (e : String),
      (W.headStateReadOnly s).1 = .error e →
        ((broadcastBLSBatch lib changes).run W s).value = changes ∧
          blsBroadcasts ((broadcastBLSBatch lib changes).run W s).trace = []) ∧
    ∀ d, Relation.ReflTransGen (DeferredStep lib W) (Deferred.spawn L s₀) d →
      d.loop.changes =
          L.drop (min (broadcastBLSChangesRateLimit * (fetchedStates d.loop.trace).length) L.length) ∧
        (d.loop.phase = .waiting → d.loop.changes ≠ []) ∧
        (d.loop.phase = .exited → d.loop.changes = [] ∨ d.cancelled = true) ∧
        (d.loop.phase = .waiting → d.cancelled = true →
          DeferredStep lib W d ⟨{ d.loop with phase := .exited }, d.cancelled⟩) ∧
        (fetchedStates d.loop.trace).length ≤ max 1 ((L.length + 127) / 128) ∧
        blsBroadcasts d.loop.trace <+ L.reduceOption ∧
        ∀ d', DeferredStep lib W d d' → ∃ events, d'.loop.trace = d.loop.trace ++ events ∧
          (blsBroadcasts events).length ≤ broadcastBLSChangesRateLimit ∧
          ∀ ch ∈ blsBroadcasts events, some ch ∈ d.loop.changes.take broadcastBLSChangesRateLimit ∧
            ∃ st, fetchedStates events = [st] ∧ lib.validateBLSToExecutionChange st ch = .ok () := by
  refine ⟨fun s changes st fetch => ?_, fun s changes e fetch => ?_, fun d reachable => ?_⟩
  · exact ⟨(broadcastBLSBatch_fetched lib W s changes fetch).1,
      (broadcastBLSBatch_fetched lib W s changes fetch).2.1⟩
  · exact ⟨(broadcastBLSBatch_fetchFailed lib W s changes fetch).1,
      (broadcastBLSBatch_fetchFailed lib W s changes fetch).2.1⟩
  · have invariant := DeferredInvariant.reachable reachable
    refine ⟨by rw [drop_min_length]; exact invariant.loop.suffix, invariant.loop.waiting,
      invariant.exited, fun waiting cancelled => .loop (.done waiting cancelled),
      invariant.loop.batches,
      invariant.loop.broadcasts.trans ((List.take_sublist _ _).filterMap id),
      fun d' step => ?_⟩
    cases step with
    | loop step => exact step.broadcasts
    | cancel => exact ⟨[], (List.append_nil _).symm, by simp, by simp⟩

/-- The bound of `⌈|L| / 128⌉` batches fails for the empty list: the first batch is called
before the emptiness test, and its fetch succeeds. -/
theorem deferred_broadcast_empty_list_batch :
    ∃ d : Deferred Unit,
      Relation.ReflTransGen (DeferredStep default (World.succeeding default)) (Deferred.spawn [] ()) d ∧
        (([] : List (Option Eth.SignedBLSToExecutionChange)).length + 127) / 128 <
          (fetchedStates d.loop.trace).length :=
  ⟨_, .single (.loop (.start rfl)), by decide⟩

end BeaconPool
