import BeaconPool.Handlers.Operations

/-! # Sync-committee batches

`SubmitSyncCommitteeSignatures` converts every message first, with the failures indexed by
request position (`collectValidMessages_eq`), and then submits the converted ones in order
until the first submission error (`SyncSubmissionRun`). That error becomes the whole
response: the later converted messages are not submitted and the conversion failures are not
reported (`sync_submission_error_drops_later_messages`).
-/

namespace BeaconPool

variable {σ : Type}

/-! ## The conversion loop -/

/-- The failure the conversion loop records for the message at request position `j`. -/
def syncConversionFailure (lib : Library) (j : Nat) (sourceMsg : Structs.SyncCommitteeMessage) :
    Option IndexedVerificationFailure :=
  match lib.syncCommitteeMessageToConsensus sourceMsg with
  | .error e => some ⟨j, "Could not convert request message to consensus message: " ++ e⟩
  | .ok _ => none

/-- The failures are those of the positions whose conversion fails, each with its request
position; the valid messages are the conversions of the others, in request order. -/
theorem collectValidMessages_eq (lib : Library) (data : List Structs.SyncCommitteeMessage) (i : Nat) :
    collectValidMessages lib i data =
      ((data.enumFrom i).filterMap fun (j, sourceMsg) => syncConversionFailure lib j sourceMsg,
        data.filterMap fun sourceMsg => (lib.syncCommitteeMessageToConsensus sourceMsg).toOption) := by
  induction data generalizing i with
  | nil => rfl
  | cons sourceMsg rest inductionHypothesis =>
    simp only [collectValidMessages, inductionHypothesis, List.enumFrom_cons, List.filterMap_cons,
      syncConversionFailure]
    cases lib.syncCommitteeMessageToConsensus sourceMsg <;> rfl

/-! ## The submission loop -/

/-- The runs of `submitSyncMessages`: the messages are submitted in order until one fails. -/
inductive SyncSubmissionRun : List Eth.SyncCommitteeMessage → List Event → Option RpcError → Prop where
  | done : SyncSubmissionRun [] [] none
  | rejected (msg : Eth.SyncCommitteeMessage) (rest : List Eth.SyncCommitteeMessage) (rpcerr : RpcError) :
      SyncSubmissionRun (msg :: rest) [.submitSyncMessage msg (some rpcerr)] (some rpcerr)
  | submitted {msg : Eth.SyncCommitteeMessage} {rest : List Eth.SyncCommitteeMessage}
      {events : List Event} {result : Option RpcError} :
      SyncSubmissionRun rest events result →
      SyncSubmissionRun (msg :: rest) (.submitSyncMessage msg none :: events) result

theorem submitSyncMessages_run (messages : List Eth.SyncCommitteeMessage) (W : World σ) (s : σ) :
    SyncSubmissionRun messages ((submitSyncMessages messages).run W s).trace
      ((submitSyncMessages messages).run W s).value := by
  induction messages generalizing s with
  | nil => exact .done
  | cons msg rest inductionHypothesis =>
    simp only [submitSyncMessages, submitSyncMessage, Handler.run_bind, Handler.run_call]
    cases submitted : (W.submitSyncMessage s msg).1 with
    | some rpcerr => exact .rejected msg rest rpcerr
    | none => exact .submitted (inductionHypothesis _)

/-- A refused message splits the run: the messages before it were submitted without error,
the ones after it were not submitted, and the refusal is the loop's result. -/
theorem SyncSubmissionRun.refused {messages : List Eth.SyncCommitteeMessage} {events : List Event}
    {result : Option RpcError} (run : SyncSubmissionRun messages events result)
    {msg : Eth.SyncCommitteeMessage} {rpcerr : RpcError}
    (member : .submitSyncMessage msg (some rpcerr) ∈ events) :
    ∃ before after, messages = before ++ msg :: after ∧
      events = before.map (.submitSyncMessage · none) ++ [.submitSyncMessage msg (some rpcerr)] ∧
      result = some rpcerr := by
  induction run with
  | done => cases member
  | rejected msg' rest rpcerr' =>
    obtain ⟨rfl, rfl⟩ : msg = msg' ∧ rpcerr = rpcerr' := by simpa using member
    exact ⟨[], rest, rfl, rfl, rfl⟩
  | @submitted msg' _ _ _ _ inductionHypothesis =>
    obtain ⟨before, after, split, trace, refusal⟩ := inductionHypothesis (by simpa using member)
    exact ⟨msg' :: before, after, by rw [split, List.cons_append], by rw [trace]; rfl, refusal⟩

/-! ## A submission error drops the rest of the batch -/

/-- Once `SubmitSyncMessage` refuses a message, the converted messages after it are never
submitted, and the response is that error alone: it names neither them nor any conversion
failure. -/
theorem sync_submission_error_drops_later_messages (lib : Library) (r : Request) (W : World σ) (s : σ)
    {data : List Structs.SyncCommitteeMessage} (decoded : lib.decodeSyncCommitteeMessages r.body = .ok data)
    {msg : Eth.SyncCommitteeMessage} {rpcerr : RpcError}
    (refused : .submitSyncMessage msg (some rpcerr) ∈ ((submitSyncCommitteeSignatures lib r).run W s).trace) :
    ∃ before after,
      data.filterMap (fun sourceMsg => (lib.syncCommitteeMessageToConsensus sourceMsg).toOption) =
        before ++ msg :: after ∧
      ((submitSyncCommitteeSignatures lib r).run W s).trace =
        before.map (.submitSyncMessage · none) ++
          [.submitSyncMessage msg (some rpcerr),
            .write (.handleError ("Could not submit message: " ++ rpcerr.err) (lib.errorReasonToHTTP rpcerr.reason))] := by
  cases data with
  | nil => simp [submitSyncCommitteeSignatures, decoded, handleError] at refused
  | cons sourceMsg rest =>
    simp only [submitSyncCommitteeSignatures, decoded, Handler.run_bind, collectValidMessages_eq] at refused ⊢
    generalize (sourceMsg :: rest).filterMap (fun sourceMsg =>
      (lib.syncCommitteeMessageToConsensus sourceMsg).toOption) = converted at refused ⊢
    have run := submitSyncMessages_run converted W s
    generalize (submitSyncMessages converted).run W s = outcome at run refused ⊢
    obtain ⟨result, world, events⟩ := outcome
    have submitted : .submitSyncMessage msg (some rpcerr) ∈ events := by
      rcases List.mem_append.mp refused with member | member
      · exact member
      · rcases result with _ | _ <;> dsimp only at member <;> (try split at member) <;>
          simp [handleError, writeError] at member
    obtain ⟨before, after, split, trace, rfl⟩ := run.refused submitted
    exact ⟨before, after, split, by rw [trace, List.append_assoc]; rfl⟩

def syncMessage0 : Eth.SyncCommitteeMessage := ⟨0, [], 0, []⟩

def syncMessage1 : Eth.SyncCommitteeMessage := ⟨0, [], 1, []⟩

def malformedSyncItem : Structs.SyncCommitteeMessage := ⟨"x", "0x00", "2", "0x00"⟩

def syncItem0 : Structs.SyncCommitteeMessage := ⟨"0", "0x00", "0", "0x00"⟩

def syncItem1 : Structs.SyncCommitteeMessage := ⟨"0", "0x00", "1", "0x00"⟩

/-- A batch whose first item fails conversion and whose other two convert; an internal error
is a 500. -/
def syncBatchLibrary : Library := { (default : Library) with
  decodeSyncCommitteeMessages := fun _ => .ok [malformedSyncItem, syncItem0, syncItem1]
  syncCommitteeMessageToConsensus := fun item =>
    if item = syncItem0 then .ok syncMessage0
    else if item = syncItem1 then .ok syncMessage1
    else .error "invalid slot"
  errorReasonToHTTP := fun | .internal => 500 | .unavailable => 503 | .badRequest => 400 | .notFound => 404 }

/-- The core service refuses every message. -/
def refusingCoreService : World Unit :=
  { World.succeeding default with submitSyncMessage := fun _ _ => (some ⟨"pool full", .internal⟩, ()) }

def syncRequest : Request := ⟨fun _ => "", fun _ => "", ""⟩

/-- Position 0 fails conversion and position 1 is refused: position 2 converts, yet it is
never submitted, and the 500 reports neither it nor position 0. -/
theorem sync_submission_error_drops_later_messages_refused_batch :
    syncBatchLibrary.syncCommitteeMessageToConsensus malformedSyncItem = .error "invalid slot" ∧
      syncBatchLibrary.syncCommitteeMessageToConsensus syncItem1 = .ok syncMessage1 ∧
      syncBatchLibrary.decodeSyncCommitteeMessages syncRequest.body =
        .ok [malformedSyncItem, syncItem0, syncItem1] ∧
      Event.submitSyncMessage syncMessage0 (some ⟨"pool full", .internal⟩) ∈
        ((submitSyncCommitteeSignatures syncBatchLibrary syncRequest).run refusingCoreService ()).trace ∧
      ∃ before after,
        ([malformedSyncItem, syncItem0, syncItem1].filterMap fun sourceMsg =>
          (syncBatchLibrary.syncCommitteeMessageToConsensus sourceMsg).toOption) =
            before ++ syncMessage0 :: after ∧
        ((submitSyncCommitteeSignatures syncBatchLibrary syncRequest).run refusingCoreService ()).trace =
          before.map (.submitSyncMessage · none) ++
            [.submitSyncMessage syncMessage0 (some ⟨"pool full", .internal⟩),
              .write (.handleError ("Could not submit message: " ++ "pool full")
                (syncBatchLibrary.errorReasonToHTTP .internal))] :=
  have refused : Event.submitSyncMessage syncMessage0 (some ⟨"pool full", .internal⟩) ∈
      ((submitSyncCommitteeSignatures syncBatchLibrary syncRequest).run refusingCoreService ()).trace :=
    List.mem_cons_self _ _
  ⟨rfl, rfl, rfl, refused, sync_submission_error_drops_later_messages syncBatchLibrary syncRequest refusingCoreService ()
    rfl refused⟩

end BeaconPool
