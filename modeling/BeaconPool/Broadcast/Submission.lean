import BeaconPool.Broadcast.Loop

/-! # The deferred broadcast and the request that spawned it

`SubmitBLSToExecutionChanges` passes its own context, derived from `r.Context()`, to the
goroutine. net/http cancels that context when the handler returns, and cancelling the
server's context cancels it as well. `SubmissionStep` interleaves the goroutine's steps with
the handler's return and the server's cancellation; `Context` says which of the two
contexts the goroutine was given. With the request's context, as in the source, the handler's
return stops a loop that still has changes (`request_return_stops_deferred_broadcast`); with
the server's context only the server's cancellation can (`SubmissionInvariant.reachable`).
-/

namespace BeaconPool

variable {σ : Type}

/-- The context a goroutine can be given. -/
inductive Context where
  /-- `r.Context()` and what is derived from it, as `SubmitBLSToExecutionChanges` passes. -/
  | request
  /-- The server's own context. -/
  | server
  deriving DecidableEq, Repr

/-- A spawned goroutine, whether its handler has returned, and whether the server's context
has been cancelled. -/
structure Submission (σ : Type) where
  loop : BroadcastLoop σ
  returned : Bool
  serverCancelled : Bool

def Submission.spawn (changes : List (Option Eth.SignedBLSToExecutionChange)) (s : σ) : Submission σ :=
  ⟨BroadcastLoop.spawn changes s, false, false⟩

/-- Whether the context of kind `ctx` is done. -/
def Context.done (ctx : Context) (sub : Submission σ) : Bool :=
  match ctx with
  | .request => sub.returned || sub.serverCancelled
  | .server => sub.serverCancelled

/-- A goroutine step under its context, the handler's return, or the server's cancellation. -/
inductive SubmissionStep (lib : Library) (W : World σ) (ctx : Context) :
    Submission σ → Submission σ → Prop where
  | loop {sub : Submission σ} {next : BroadcastLoop σ} :
      LoopStep lib W (ctx.done sub) sub.loop next → SubmissionStep lib W ctx sub { sub with loop := next }
  | handlerReturns {sub : Submission σ} :
      sub.returned = false → SubmissionStep lib W ctx sub { sub with returned := true }
  | serverCancels {sub : Submission σ} : SubmissionStep lib W ctx sub { sub with serverCancelled := true }

/-! ## With the request's context -/

/-- The first batch leaves changes when its fetch fails, or when there are more than 128. -/
theorem BroadcastLoop.batch_waiting (lib : Library) (W : World σ) {L : List (Option Eth.SignedBLSToExecutionChange)}
    {s : σ} (nonempty : L ≠ [])
    (pending : (∃ e, (W.headStateReadOnly s).1 = .error e) ∨ broadcastBLSChangesRateLimit < L.length) :
    ((BroadcastLoop.spawn L s).batch lib W).phase = .waiting ∧ ((BroadcastLoop.spawn L s).batch lib W).changes ≠ [] := by
  have left : ((BroadcastLoop.spawn L s).batch lib W).changes ≠ [] := by
    show ((broadcastBLSBatch lib L).run W s).value ≠ []
    rcases pending with ⟨e, fetch⟩ | long
    · rw [(broadcastBLSBatch_fetchFailed lib W s L fetch).1]
      exact nonempty
    · cases fetch : (W.headStateReadOnly s).1 with
      | error e => rw [(broadcastBLSBatch_fetchFailed lib W s L fetch).1]; exact nonempty
      | ok st =>
        rw [(broadcastBLSBatch_fetched lib W s L fetch).1, Ne, List.drop_eq_nil_iff]
        omega
  obtain ⟨_, _, exited, _⟩ := (BroadcastLoop.spawn L s).batch_cases lib W
  refine ⟨?_, left⟩
  cases phase : ((BroadcastLoop.spawn L s).batch lib W).phase
  · exact absurd phase ((BroadcastLoop.spawn L s).batch_phase_ne_spawned lib W)
  · rfl
  · exact absurd (exited.mp phase) left

/-- With the request's context, there is a run in which the loop stops with changes left
although the server's context was never cancelled: the first batch leaves changes, the
handler returns, and the `ctx.Done()` case is taken. -/
theorem request_return_stops_deferred_broadcast (lib : Library) (W : World σ)
    (L : List (Option Eth.SignedBLSToExecutionChange)) (s : σ) (nonempty : L ≠ [])
    (pending : (∃ e, (W.headStateReadOnly s).1 = .error e) ∨ broadcastBLSChangesRateLimit < L.length) :
    ∃ sub, Relation.ReflTransGen (SubmissionStep lib W .request) (Submission.spawn L s) sub ∧
      sub.loop.phase = .exited ∧ sub.loop.changes ≠ [] ∧ sub.serverCancelled = false := by
  obtain ⟨waiting, left⟩ := BroadcastLoop.batch_waiting lib W nonempty pending
  let started : Submission σ := { Submission.spawn L s with loop := (BroadcastLoop.spawn L s).batch lib W }
  let returned : Submission σ := { started with returned := true }
  have run : Relation.ReflTransGen (SubmissionStep lib W .request) (Submission.spawn L s)
      { returned with loop := { returned.loop with phase := .exited } } :=
    ((Relation.ReflTransGen.single (.loop (.start rfl))).tail (.handlerReturns rfl)).tail
      (.loop (.done waiting rfl))
  exact ⟨_, run, rfl, left, rfl⟩

/-- The collaborators of a node whose head state cannot be read. -/
def headlessWorld : World Unit :=
  { World.succeeding default with headStateReadOnly := fun _ => (.error "no head", ()) }

theorem request_return_stops_deferred_broadcast_headless :
    [some (default : Eth.SignedBLSToExecutionChange)] ≠ [] ∧
      ((∃ e, (headlessWorld.headStateReadOnly ()).1 = .error e) ∨ broadcastBLSChangesRateLimit < 1) ∧
      ∃ sub, Relation.ReflTransGen (SubmissionStep default headlessWorld .request)
          (Submission.spawn [some default] ()) sub ∧
        sub.loop.phase = .exited ∧ sub.loop.changes ≠ [] ∧ sub.serverCancelled = false :=
  ⟨List.cons_ne_nil _ _, .inl ⟨_, rfl⟩,
    request_return_stops_deferred_broadcast default headlessWorld [some default] () (List.cons_ne_nil _ _)
      (.inl ⟨_, rfl⟩)⟩

/-! ## With the server's context -/

/-- With the server's context, an exited loop has no change left unless the server's context
was cancelled. -/
def SubmissionInvariant (sub : Submission σ) : Prop :=
  sub.loop.phase = .exited → sub.loop.changes = [] ∨ sub.serverCancelled = true

theorem SubmissionInvariant.reachable {lib : Library} {W : World σ}
    {L : List (Option Eth.SignedBLSToExecutionChange)} {s : σ} {sub : Submission σ}
    (reachable : Relation.ReflTransGen (SubmissionStep lib W .server) (Submission.spawn L s) sub) :
    SubmissionInvariant sub := by
  induction reachable with
  | refl => nofun
  | tail _ step inductionHypothesis =>
    cases step with
    | loop step => exact step.exited_changes
    | handlerReturns _ => exact inductionHypothesis
    | serverCancels => exact fun _ => .inr rfl

end BeaconPool
