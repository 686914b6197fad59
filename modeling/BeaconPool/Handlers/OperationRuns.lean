import BeaconPool.Handlers.Operations

/-! # The runs of the other submit endpoints

What a run of each single-operation submit endpoint can record, whatever the world answers:
`ExitRun` after an exit was decoded and converted, `SlashingRun` for the tail both slashing
kinds share, and the exact record and result of the BLS-change loop, which only calls the
notifier and the pool and so is a function of the request and the head state
(`checkBLSChanges`).
-/

namespace BeaconPool

variable {σ : Type}

/-- The 500 a failed broadcast adds, after the text `context`. -/
def broadcastFailure (context : String) : Option String → List Event
  | some e => [.write (.handleError (context ++ e) 500)]
  | none => []

theorem broadcastFailure_untouched {context : String} {result : Option String} {e : Event}
    (member : e ∈ broadcastFailure context result) : e.touchesPool = false := by
  cases result with
  | none => cases member
  | some _ =>
    rw [List.mem_singleton.mp member]
    rfl

/-! ## Voluntary exits -/

/-- An exit passes `checkVoluntaryExit` exactly when the epoch start, the slot processing, the
validator lookup and `VerifyExitAndSignature` on the advanced state all succeed. -/
theorem checkVoluntaryExit_ok {lib : Library} {headState : BeaconState}
    {exit : Eth.SignedVoluntaryExit} :
    checkVoluntaryExit lib headState exit = .ok () ↔
      ∃ epochStart st val, lib.epochStart exit.exit.epoch = .ok epochStart ∧
        lib.processSlotsIfPossible headState epochStart = .ok st ∧
        lib.validatorAtIndexReadOnly st exit.exit.validatorIndex = .ok val ∧
        lib.verifyExitAndSignature val st exit = .ok () := by
  constructor
  · intro passed
    unfold checkVoluntaryExit at passed
    split at passed
    · cases passed
    · split at passed
      · cases passed
      · split at passed
        · cases passed
        · cases passed
        · split at passed
          · cases passed
          · exact ⟨_, _, _, ‹_›, ‹_›, ‹_›, ‹_›⟩
  · rintro ⟨_, _, _, started, advanced, found, verified⟩
    simp only [checkVoluntaryExit, started, advanced, found, verified]

inductive ExitRun (lib : Library) (exit : Eth.SignedVoluntaryExit) : List Event → Prop where
  | headStateFailed (e : String) :
      ExitRun lib exit [.headState (.error e), .write (.handleError ("Could not get head state: " ++ e) 500)]
  | rejected (head : BeaconState) (message : String) (code : Nat) :
      checkVoluntaryExit lib head exit = .error (message, code) →
      ExitRun lib exit [.headState (.ok head), .write (.handleError message code)]
  | inserted (head : BeaconState) (result : Option String) :
      checkVoluntaryExit lib head exit = .ok () →
      ExitRun lib exit ([.headState (.ok head), .insertVoluntaryExit exit,
        .broadcast (.voluntaryExit exit) result] ++ broadcastFailure "Could not broadcast exit: " result)

theorem submitVoluntaryExit_run (lib : Library) (r : Request) (W : World σ) (s : σ) :
    (∃ message, ((submitVoluntaryExit lib r).run W s).trace = [.write (.handleError message 400)]) ∨
      ∃ req exit, lib.decodeSignedVoluntaryExit r.body = .ok req ∧
        lib.signedVoluntaryExitToConsensus req = .ok exit ∧
        ExitRun lib exit ((submitVoluntaryExit lib r).run W s).trace := by
  unfold submitVoluntaryExit
  split
  · exact .inl ⟨_, rfl⟩
  · exact .inl ⟨_, rfl⟩
  · rename_i req decoded
    split
    · exact .inl ⟨_, rfl⟩
    · rename_i exit converted
      refine .inr ⟨req, exit, decoded, converted, ?_⟩
      simp only [headState, Handler.run_bind, Handler.run_call]
      cases fetch : (W.headState s).1 with
      | error e => exact .headStateFailed e
      | ok head =>
        dsimp only
        cases check : checkVoluntaryExit lib head exit with
        | error failure =>
          obtain ⟨message, code⟩ := failure
          exact .rejected head message code check
        | ok _ =>
          simp only [insertVoluntaryExit, broadcast, Handler.run_bind, Handler.run_call]
          cases result : (W.broadcast (W.insertVoluntaryExit (W.headState s).2 exit)
              (.voluntaryExit exit)).1 <;>
            simpa [result, broadcastFailure] using ExitRun.inserted head _ check

/-- The exit is handed over only after a head state on which it passed its checks. -/
theorem ExitRun.pooled {lib : Library} {exit : Eth.SignedVoluntaryExit} {events : List Event}
    (run : ExitRun lib exit events) :
    ∀ e ∈ events, e.touchesPool = false ∨ ∃ head, .headState (.ok head) ∈ events ∧
      checkVoluntaryExit lib head exit = .ok () ∧
      (e = .insertVoluntaryExit exit ∨ ∃ result, e = .broadcast (.voluntaryExit exit) result) := by
  cases run with
  | headStateFailed | rejected =>
    intro e member
    simp only [List.mem_cons, List.not_mem_nil, or_false] at member
    rcases member with rfl | rfl <;> exact .inl rfl
  | inserted head result check =>
    intro e member
    rcases List.mem_append.mp member with member | member
    · simp only [List.mem_cons, List.not_mem_nil, or_false] at member
      rcases member with rfl | rfl | rfl
      · exact .inl rfl
      · exact .inr ⟨head, by simp, check, .inl rfl⟩
      · exact .inr ⟨head, by simp, check, .inr ⟨result, rfl⟩⟩
    · exact .inl (broadcastFailure_untouched member)

/-! ## Slashings -/

theorem checkAttesterSlashing_ok {lib : Library} {headState st : BeaconState}
    {slashing : AttSlashing} :
    checkAttesterSlashing lib headState slashing = .ok st ↔
      lib.processSlotsIfPossible headState slashing.firstAttestation.data.slot = .ok st ∧
        lib.verifyAttesterSlashing st slashing = .ok () := by
  constructor
  · intro passed
    unfold checkAttesterSlashing at passed
    split at passed
    · cases passed
    · split at passed
      · cases passed
      · cases passed
        exact ⟨‹_›, ‹_›⟩
  · rintro ⟨advanced, verified⟩
    simp only [checkAttesterSlashing, advanced, verified]

theorem checkProposerSlashing_ok {lib : Library} {headState st : BeaconState}
    {slashing : Eth.ProposerSlashing} :
    checkProposerSlashing lib headState slashing = .ok st ↔
      lib.processSlotsIfPossible headState slashing.header1.header.slot = .ok st ∧
        lib.verifyProposerSlashing st slashing = .ok () := by
  constructor
  · intro passed
    unfold checkProposerSlashing at passed
    split at passed
    · cases passed
    · split at passed
      · cases passed
      · cases passed
        exact ⟨‹_›, ‹_›⟩
  · rintro ⟨advanced, verified⟩
    simp only [checkProposerSlashing, advanced, verified]

/-- The runs of `submitSlashingWith`; `insertEvent st result` is what the insertion records
and `disabled` is `DisableBroadcastSlashings`. -/
inductive SlashingRun (check : BeaconState → Except (String × Nat) BeaconState)
    (insertEvent : BeaconState → Option String → Event) (insertError : String) (event : FeedEvent)
    (message : Message) (disabled : Bool) : List Event → Prop where
  | headStateFailed (e : String) :
      SlashingRun check insertEvent insertError event message disabled
        [.headState (.error e), .write (.handleError ("Could not get head state: " ++ e) 500)]
  | rejected (head : BeaconState) (text : String) (code : Nat) :
      check head = .error (text, code) →
      SlashingRun check insertEvent insertError event message disabled
        [.headState (.ok head), .write (.handleError text code)]
  | insertFailed (head st : BeaconState) (e : String) :
      check head = .ok st →
      SlashingRun check insertEvent insertError event message disabled
        [.headState (.ok head), insertEvent st (some e), .write (.handleError (insertError ++ e) 500)]
  | inserted (head st : BeaconState) (result : Option String) :
      check head = .ok st →
      SlashingRun check insertEvent insertError event message disabled
        ([.headState (.ok head), insertEvent st none, .send event] ++
          if disabled then []
          else .broadcast message result :: broadcastFailure "Could not broadcast slashing object: " result)

theorem submitSlashingWith_run (check : BeaconState → Except (String × Nat) BeaconState)
    (insert : BeaconState → Handler σ (Option String)) (insertEvent : BeaconState → Option String → Event)
    (insertRecords : ∀ st W s, ((insert st).run W s).trace = [insertEvent st ((insert st).run W s).value])
    (insertError : String) (event : FeedEvent) (message : Message) (W : World σ) (s : σ) :
    SlashingRun check insertEvent insertError event message W.disableBroadcastSlashings
      ((submitSlashingWith check insert insertError event message).run W s).trace := by
  simp only [submitSlashingWith, headState, Handler.run_bind, Handler.run_call]
  cases fetch : (W.headState s).1 with
  | error e => exact .headStateFailed e
  | ok head =>
    dsimp only
    cases checked : check head with
    | error failure =>
      obtain ⟨text, code⟩ := failure
      exact .rejected head text code checked
    | ok st =>
      simp only [Handler.run_bind, insertRecords]
      generalize (insert st).run W (W.headState s).2 = inserted
      rcases inserted with ⟨_ | e, world, _⟩
      · simp only [send, Handler.run_bind, Handler.run_call, Handler.run_disableBroadcastSlashings]
        by_cases disabled : W.disableBroadcastSlashings = true
        · simpa [disabled] using (SlashingRun.inserted head st none checked :
            SlashingRun check insertEvent insertError event message true _)
        · simp only [Bool.not_eq_true] at disabled
          simp only [disabled, Bool.not_false, if_true, broadcast, Handler.run_bind, Handler.run_call]
          cases result : (W.broadcast (W.send world event) message).1 <;>
            simpa [result, broadcastFailure] using
              (SlashingRun.inserted head st _ checked :
                SlashingRun check insertEvent insertError event message false _)
      · simpa using SlashingRun.insertFailed head st e checked

/-- The slashing is handed over only after a head state that passed `check`. -/
theorem SlashingRun.pooled {check : BeaconState → Except (String × Nat) BeaconState}
    {insertEvent : BeaconState → Option String → Event} {insertError : String} {event : FeedEvent}
    {message : Message} {disabled : Bool} {events : List Event}
    (run : SlashingRun check insertEvent insertError event message disabled events) :
    ∀ e ∈ events, e.touchesPool = false ∨ ∃ head st, .headState (.ok head) ∈ events ∧
      check head = .ok st ∧ ((∃ result, e = insertEvent st result) ∨ ∃ result, e = .broadcast message result) := by
  cases run with
  | headStateFailed | rejected =>
    intro e member
    simp only [List.mem_cons, List.not_mem_nil, or_false] at member
    rcases member with rfl | rfl <;> exact .inl rfl
  | insertFailed head st error checked =>
    intro e member
    simp only [List.mem_cons, List.not_mem_nil, or_false] at member
    rcases member with rfl | rfl | rfl
    · exact .inl rfl
    · exact .inr ⟨head, st, by simp, checked, .inl ⟨_, rfl⟩⟩
    · exact .inl rfl
  | inserted head st result checked =>
    intro e member
    rcases List.mem_append.mp member with member | member
    · simp only [List.mem_cons, List.not_mem_nil, or_false] at member
      rcases member with rfl | rfl | rfl
      · exact .inl rfl
      · exact .inr ⟨head, st, by simp, checked, .inl ⟨_, rfl⟩⟩
      · exact .inl rfl
    · cases disabled
      · rcases List.mem_cons.mp member with rfl | member
        · exact .inr ⟨head, st, by simp, checked, .inr ⟨result, rfl⟩⟩
        · exact .inl (broadcastFailure_untouched member)
      · cases member

/-- The record of the attester-slashing insertion. -/
theorem insertAttesterSlashing_records (slashing : AttSlashing) (st : BeaconState) (W : World σ)
    (s : σ) : ((insertAttesterSlashing st slashing).run W s).trace =
      [.insertAttesterSlashing st slashing ((insertAttesterSlashing st slashing).run W s).value] :=
  rfl

theorem insertProposerSlashing_records (slashing : Eth.ProposerSlashing) (st : BeaconState)
    (W : World σ) (s : σ) : ((insertProposerSlashing st slashing).run W s).trace =
      [.insertProposerSlashing st slashing ((insertProposerSlashing st slashing).run W s).value] :=
  rfl

/-- The runs of `submitAttesterSlashing slashing`. -/
abbrev AttesterSlashingRun (lib : Library) (slashing : AttSlashing) (disabled : Bool) :
    List Event → Prop :=
  SlashingRun (checkAttesterSlashing lib · slashing) (.insertAttesterSlashing · slashing)
    "Could not insert attester slashing into pool: " (.attesterSlashingReceived slashing)
    (.attesterSlashing slashing) disabled

theorem submitAttesterSlashing_run (lib : Library) (slashing : AttSlashing) (W : World σ) (s : σ) :
    AttesterSlashingRun lib slashing W.disableBroadcastSlashings
      ((submitAttesterSlashing lib slashing).run W s).trace :=
  submitSlashingWith_run _ _ _ (insertAttesterSlashing_records slashing) _ _ _ W s

theorem decodeAndSubmitAttesterSlashing_run {Wire : Type} (lib : Library)
    (decode : String → Decoded Wire) (toConsensus : Wire → Except String AttSlashing) (r : Request)
    (W : World σ) (s : σ) :
    (∃ message,
        ((decodeAndSubmitAttesterSlashing lib decode toConsensus r).run W s).trace =
          [.write (.handleError message 400)]) ∨
      ∃ req slashing, decode r.body = .ok req ∧ toConsensus req = .ok slashing ∧
        AttesterSlashingRun lib slashing W.disableBroadcastSlashings
          ((decodeAndSubmitAttesterSlashing lib decode toConsensus r).run W s).trace := by
  unfold decodeAndSubmitAttesterSlashing
  split
  · exact .inl ⟨_, rfl⟩
  · exact .inl ⟨_, rfl⟩
  · split
    · exact .inl ⟨_, rfl⟩
    · exact .inr ⟨_, _, ‹_›, ‹_›, submitAttesterSlashing_run lib _ W s⟩

/-- The runs of `SubmitProposerSlashing` once `slashing` was decoded and converted. -/
abbrev ProposerSlashingRun (lib : Library) (slashing : Eth.ProposerSlashing) (disabled : Bool) :
    List Event → Prop :=
  SlashingRun (checkProposerSlashing lib · slashing) (.insertProposerSlashing · slashing)
    "Could not insert proposer slashing into pool: " (.proposerSlashingReceived slashing)
    (.proposerSlashing slashing) disabled

theorem submitProposerSlashing_run (lib : Library) (r : Request) (W : World σ) (s : σ) :
    (∃ message, ((submitProposerSlashing lib r).run W s).trace = [.write (.handleError message 400)]) ∨
      ∃ req slashing, lib.decodeProposerSlashing r.body = .ok req ∧
        lib.proposerSlashingToConsensus req = .ok slashing ∧
        ProposerSlashingRun lib slashing W.disableBroadcastSlashings
          ((submitProposerSlashing lib r).run W s).trace := by
  unfold submitProposerSlashing
  split
  · exact .inl ⟨_, rfl⟩
  · exact .inl ⟨_, rfl⟩
  · split
    · exact .inl ⟨_, rfl⟩
    · exact .inr ⟨_, _, ‹_›, ‹_›,
        submitSlashingWith_run _ _ _ (insertProposerSlashing_records _) _ _ _ W s⟩

/-! ## BLS-to-execution changes -/

/-- The failures and the passing changes of `checkBLSChange` over `req` from position `i`. -/
def checkBLSChanges (lib : Library) (st : BeaconState) :
    Nat → List Structs.SignedBLSToExecutionChange →
      List IndexedVerificationFailure × List Eth.SignedBLSToExecutionChange
  | _, [] => ([], [])
  | i, change :: rest =>
    match checkBLSChange lib st i change with
    | .error failure => (failure :: (checkBLSChanges lib st (i + 1) rest).1,
        (checkBLSChanges lib st (i + 1) rest).2)
    | .ok sbls => ((checkBLSChanges lib st (i + 1) rest).1,
        sbls :: (checkBLSChanges lib st (i + 1) rest).2)

/-- The events of a change that passed its checks: notification, then insertion. -/
def stagedChangeEvents (sbls : Eth.SignedBLSToExecutionChange) : List Event :=
  [.send (.blsToExecutionChangeReceived sbls), .insertBLSToExecChange sbls]

theorem processBLSChanges_run (lib : Library) (st : BeaconState) (W : World σ)
    (req : List Structs.SignedBLSToExecutionChange) (i : Nat)
    (failures : List IndexedVerificationFailure) (toBroadcast : List Eth.SignedBLSToExecutionChange)
    (s : σ) :
    ((processBLSChanges lib st i req failures toBroadcast).run W s).value =
        (failures ++ (checkBLSChanges lib st i req).1,
          toBroadcast ++ if Version.capella ≤ st.version then (checkBLSChanges lib st i req).2 else []) ∧
      ((processBLSChanges lib st i req failures toBroadcast).run W s).trace =
        (checkBLSChanges lib st i req).2.flatMap stagedChangeEvents := by
  induction req generalizing i failures toBroadcast s with
  | nil => simp [processBLSChanges, checkBLSChanges]
  | cons change rest inductionHypothesis =>
    simp only [processBLSChanges, checkBLSChanges]
    cases checkBLSChange lib st i change with
    | error failure =>
      simpa using inductionHypothesis (i + 1) (failures ++ [failure]) toBroadcast s
    | ok sbls =>
      simp only [send, insertBLSToExecChange, Handler.run_bind, Handler.run_call]
      obtain ⟨value, trace⟩ := inductionHypothesis (i + 1) failures
        (if Version.capella ≤ st.version then toBroadcast ++ [sbls] else toBroadcast)
        (W.insertBLSToExecChange (W.send s (.blsToExecutionChangeReceived sbls)) sbls)
      refine ⟨?_, by simp [trace, stagedChangeEvents]⟩
      rw [value]
      split <;> simp

theorem checkBLSChange_ok (lib : Library) (st : BeaconState) (i : Nat)
    (change : Structs.SignedBLSToExecutionChange) (sbls : Eth.SignedBLSToExecutionChange) :
    checkBLSChange lib st i change = .ok sbls ↔
      lib.signedBLSToExecutionChangeToConsensus change = .ok sbls ∧
        lib.validateBLSToExecutionChange st sbls = .ok () ∧
        lib.verifyBLSChangeSignature st sbls = .ok () := by
  constructor
  · intro passed
    unfold checkBLSChange at passed
    split at passed
    · cases passed
    · split at passed
      · cases passed
      · split at passed
        · cases passed
        · cases passed
          exact ⟨‹_›, ‹_›, ‹_›⟩
  · rintro ⟨converts, valid, verified⟩
    simp [checkBLSChange, converts, valid, verified]

/-- Every change that passed came from an item of the request that passes the three checks. -/
theorem mem_checkBLSChanges (lib : Library) (st : BeaconState)
    (req : List Structs.SignedBLSToExecutionChange) (i : Nat) {sbls : Eth.SignedBLSToExecutionChange}
    (member : sbls ∈ (checkBLSChanges lib st i req).2) :
    ∃ change ∈ req, ∃ j, checkBLSChange lib st j change = .ok sbls := by
  induction req generalizing i with
  | nil => cases member
  | cons change rest inductionHypothesis =>
    simp only [checkBLSChanges] at member
    split at member
    · obtain ⟨other, otherMember, j, passed⟩ := inductionHypothesis (i + 1) member
      exact ⟨other, List.mem_cons_of_mem _ otherMember, j, passed⟩
    · rcases List.mem_cons.mp member with rfl | member
      · exact ⟨change, List.mem_cons_self _ _, i, ‹_›⟩
      · obtain ⟨other, otherMember, j, passed⟩ := inductionHypothesis (i + 1) member
        exact ⟨other, List.mem_cons_of_mem _ otherMember, j, passed⟩

/-- The run on a fetched head state `st` and a decoded non-empty batch `req`: the loop, the
spawn of the deferred broadcast, and the 400 that lists the failures, if any. -/
theorem submitBLSToExecutionChanges_batch (lib : Library) (r : Request) (W : World σ) (s : σ)
    {st : BeaconState} {req : List Structs.SignedBLSToExecutionChange}
    (fetched : (W.headStateReadOnly s).1 = .ok st)
    (decoded : lib.decodeSignedBLSToExecutionChanges r.body = .ok req) (nonempty : req ≠ []) :
    ((submitBLSToExecutionChanges lib r).run W s).trace =
      .headStateReadOnly (.ok st) :: (checkBLSChanges lib st 0 req).2.flatMap stagedChangeEvents ++
        .spawnBroadcastBLSChanges ((if Version.capella ≤ st.version then
          (checkBLSChanges lib st 0 req).2 else []).map some) ::
        if (checkBLSChanges lib st 0 req).1 ≠ [] then
          [.write (.writeError ⟨400, "One or more BLSToExecutionChange failed validation",
            (checkBLSChanges lib st 0 req).1⟩)]
        else [] := by
  obtain ⟨value, trace⟩ := processBLSChanges_run lib st W req 0 [] [] (W.headStateReadOnly s).2
  cases req with
  | nil => exact absurd rfl nonempty
  | cons change rest =>
    simp only [submitBLSToExecutionChanges, headStateReadOnly, Handler.run_bind, Handler.run_call,
      fetched, decoded, value, trace, List.nil_append, run_spawnBroadcastBLSChanges]
    by_cases noFailures : (checkBLSChanges lib st 0 (change :: rest)).1 = [] <;>
      simp [noFailures, writeError]

/-- The runs of `SubmitBLSToExecutionChanges`: a failed fetch, a rejected body, or the loop
over a non-empty batch followed by the spawn of the deferred broadcast and the response. -/
theorem submitBLSToExecutionChanges_run (lib : Library) (r : Request) (W : World σ) (s : σ) :
    (∃ e, ((submitBLSToExecutionChanges lib r).run W s).trace =
        [.headStateReadOnly (.error e), .write (.handleError ("Could not get head state: " ++ e) 500)]) ∨
      (∃ st message, ((submitBLSToExecutionChanges lib r).run W s).trace =
        [.headStateReadOnly (.ok st), .write (.handleError message 400)]) ∨
      ∃ st req, lib.decodeSignedBLSToExecutionChanges r.body = .ok req ∧ req ≠ [] ∧
        ((submitBLSToExecutionChanges lib r).run W s).trace =
          .headStateReadOnly (.ok st) :: (checkBLSChanges lib st 0 req).2.flatMap stagedChangeEvents ++
            .spawnBroadcastBLSChanges ((if Version.capella ≤ st.version then
              (checkBLSChanges lib st 0 req).2 else []).map some) ::
            if (checkBLSChanges lib st 0 req).1 ≠ [] then
              [.write (.writeError ⟨400, "One or more BLSToExecutionChange failed validation",
                (checkBLSChanges lib st 0 req).1⟩)]
            else [] := by
  cases fetched : (W.headStateReadOnly s).1 with
  | error e =>
    refine .inl ⟨e, ?_⟩
    simp only [submitBLSToExecutionChanges, headStateReadOnly, Handler.run_bind, Handler.run_call, fetched]
    rfl
  | ok st =>
    refine .inr ?_
    cases decoded : lib.decodeSignedBLSToExecutionChanges r.body with
    | eof => exact .inl ⟨st, "No data submitted", by
        simp only [submitBLSToExecutionChanges, headStateReadOnly, Handler.run_bind,
          Handler.run_call, fetched, decoded]; rfl⟩
    | error e => exact .inl ⟨st, "Could not decode request body: " ++ e, by
        simp only [submitBLSToExecutionChanges, headStateReadOnly, Handler.run_bind,
          Handler.run_call, fetched, decoded]; rfl⟩
    | ok req =>
      cases req with
      | nil => exact .inl ⟨st, "No data submitted", by
          simp only [submitBLSToExecutionChanges, headStateReadOnly, Handler.run_bind,
            Handler.run_call, fetched, decoded]; rfl⟩
      | cons change rest =>
        exact .inr ⟨st, _, rfl, List.cons_ne_nil _ _,
          submitBLSToExecutionChanges_batch lib r W s fetched decoded (List.cons_ne_nil _ _)⟩

end BeaconPool
