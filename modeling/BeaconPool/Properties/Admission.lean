import BeaconPool.Handlers.Endpoints
import BeaconPool.Handlers.AttestationRuns
import BeaconPool.Handlers.OperationRuns
import BeaconPool.Broadcast.Loop

/-! # What reaches a pool or the broadcaster

`Admitted lib r trace e` says what an event that hands an operation to a pool or to the
`Broadcaster` requires of the operation: it is the conversion of an item of the request `r`
that passed every check of its kind, against a head state the handler fetched (recorded in
`trace`). Every other event is admitted. The main theorem shows that every run of every
endpoint records only admitted events, and that the deferred BLS broadcast a run spawns only
broadcasts admitted changes, each revalidated against the head state its batch fetched. For
exits and proposer slashings the converse holds as well: what is admitted reaches its pool;
so it does for attester slashings, read as the record the endpoint's branch decodes.
-/

namespace BeaconPool

variable {σ : Type}

/-! ## The checks of each kind -/

/-- An attestation of the body, of either record, that converts and whose signature parses. -/
def AttestationAdmitted (lib : Library) (r : Request) (att : Att) : Prop :=
  ∃ data, lib.decodeRawMessage r.body = .ok data ∧
    ((∃ items, lib.unmarshalAttestations data = .ok items ∧ ∃ item ∈ items, ∃ c,
        lib.attestationToConsensus item = .ok c ∧ att = .phase0 c) ∨
      (∃ items, lib.unmarshalAttestationsElectra data = .ok items ∧ ∃ item ∈ items, ∃ c,
        lib.attestationElectraToConsensus item = .ok c ∧ att = .electra c)) ∧
    lib.signatureFromBytes att.signature = .ok ()

/-- The exit of the body, with the validator lookup and `VerifyExitAndSignature` passing on a
fetched head state advanced to the start of the exit epoch. -/
def ExitAdmitted (lib : Library) (r : Request) (trace : List Event) (exit : Eth.SignedVoluntaryExit) :
    Prop :=
  ∃ req, lib.decodeSignedVoluntaryExit r.body = .ok req ∧ lib.signedVoluntaryExitToConsensus req = .ok exit ∧
    ∃ head, .headState (.ok head) ∈ trace ∧ ∃ epochStart st val,
      lib.epochStart exit.exit.epoch = .ok epochStart ∧
      lib.processSlotsIfPossible head epochStart = .ok st ∧
      lib.validatorAtIndexReadOnly st exit.exit.validatorIndex = .ok val ∧
      lib.verifyExitAndSignature val st exit = .ok ()

/-- A change of the body that validates and whose signature verifies against a fetched head
state. -/
def ChangeAdmitted (lib : Library) (r : Request) (trace : List Event)
    (ch : Eth.SignedBLSToExecutionChange) : Prop :=
  ∃ req, lib.decodeSignedBLSToExecutionChanges r.body = .ok req ∧
    ∃ change ∈ req, lib.signedBLSToExecutionChangeToConsensus change = .ok ch ∧
      ∃ st, .headStateReadOnly (.ok st) ∈ trace ∧ lib.validateBLSToExecutionChange st ch = .ok () ∧
        lib.verifyBLSChangeSignature st ch = .ok ()

/-- The attester slashing of the body, of either record. -/
def AttesterSlashingDecoded (lib : Library) (r : Request) (slashing : AttSlashing) : Prop :=
  (∃ req c, lib.decodeAttesterSlashing r.body = .ok req ∧ lib.attesterSlashingToConsensus req = .ok c ∧
      slashing = .phase0 c) ∨
    ∃ req c, lib.decodeAttesterSlashingElectra r.body = .ok req ∧
      lib.attesterSlashingElectraToConsensus req = .ok c ∧ slashing = .electra c

/-- The attester slashing of the body, verified on a fetched head state advanced to the slot
of its first attestation. -/
def AttesterSlashingAdmitted (lib : Library) (r : Request) (trace : List Event)
    (slashing : AttSlashing) : Prop :=
  AttesterSlashingDecoded lib r slashing ∧ ∃ head st, .headState (.ok head) ∈ trace ∧
    lib.processSlotsIfPossible head slashing.firstAttestation.data.slot = .ok st ∧
    lib.verifyAttesterSlashing st slashing = .ok ()

/-- The proposer slashing of the body, verified on a fetched head state advanced to the slot
of its first header. -/
def ProposerSlashingAdmitted (lib : Library) (r : Request) (trace : List Event)
    (slashing : Eth.ProposerSlashing) : Prop :=
  (∃ req, lib.decodeProposerSlashing r.body = .ok req ∧ lib.proposerSlashingToConsensus req = .ok slashing) ∧
  ∃ head st, .headState (.ok head) ∈ trace ∧
    lib.processSlotsIfPossible head slashing.header1.header.slot = .ok st ∧
    lib.verifyProposerSlashing st slashing = .ok ()

/-- What an event of a run of a handler on `r` that recorded `trace` requires. -/
def Admitted (lib : Library) (r : Request) (trace : List Event) : Event → Prop
  | .saveAggregatedAttestation att _ | .saveUnaggregatedAttestation att _
  | .broadcastAttestation _ att _ => AttestationAdmitted lib r att
  | .insertVoluntaryExit exit | .broadcast (.voluntaryExit exit) _ => ExitAdmitted lib r trace exit
  | .insertBLSToExecChange ch | .broadcast (.blsToExecutionChange ch) _ => ChangeAdmitted lib r trace ch
  | .insertAttesterSlashing _ slashing _ | .broadcast (.attesterSlashing slashing) _ =>
    AttesterSlashingAdmitted lib r trace slashing
  | .insertProposerSlashing _ slashing _ | .broadcast (.proposerSlashing slashing) _ =>
    ProposerSlashingAdmitted lib r trace slashing
  | .spawnBroadcastBLSChanges changes => ∀ ch, some ch ∈ changes → ChangeAdmitted lib r trace ch
  | _ => True

section Events

variable {lib : Library} {r : Request} {trace : List Event} {e : Event}

theorem admitted_of_untouched (untouched : e.touchesPool = false) : Admitted lib r trace e := by
  cases e <;> trivial

/-- A run all of whose events are admitted or touch no pool. -/
theorem admitted_of_records {P : Event → Prop} {events : List Event}
    (records : ∀ e ∈ events, e.touchesPool = false ∨ P e) (admits : ∀ e, P e → Admitted lib r trace e) :
    ∀ e ∈ events, Admitted lib r trace e :=
  fun e member => (records e member).elim admitted_of_untouched (admits e)

theorem admitted_of_write {w : Write} : ∀ e ∈ [Event.write w], Admitted lib r trace e := by
  intro e member
  obtain rfl := List.mem_singleton.mp member
  trivial

end Events

/-- An event that touches no pool, or hands over an admitted attestation. -/
def AttestationEventAdmitted (lib : Library) (r : Request) (e : Event) : Prop :=
  e.touchesPool = false ∨ ∃ att, e.attestation = some att ∧ AttestationAdmitted lib r att

theorem admitted_of_attestationEvent {lib : Library} {r : Request} {trace : List Event} {e : Event}
    (admitted : AttestationEventAdmitted lib r e) : Admitted lib r trace e := by
  rcases admitted with untouched | ⟨att, handed, admitted⟩
  · exact admitted_of_untouched untouched
  · cases e <;> cases handed <;> exact admitted

theorem Handler.Quiet.untouched {α : Type} {P : Event → Prop} {x : Handler σ α} (quiet : Handler.Quiet x) :
    Handler.Records (fun e => e.touchesPool = false ∨ P e) x :=
  quiet.mono fun _ effect => .inl (Event.touchesPool_of_isEffect effect)

/-! ## The attestation endpoints -/

/-- The attestations handed over by a batch read from `data`, given that every item of it
that converts and whose signature parses is admitted. -/
theorem handleAttestations_admitted {Wire Consensus : Type} (lib : Library) (r : Request) {data : String}
    (variant : AttestationVariant Wire Consensus) (unmarshal : String → Except String (List Wire))
    (readsBody : ∀ items, unmarshal data = .ok items → ∀ item ∈ items, ∀ c,
      variant.toConsensus item = .ok c → lib.signatureFromBytes (variant.toAtt c).signature = .ok () →
        AttestationAdmitted lib r (variant.toAtt c)) :
    Handler.Records (AttestationEventAdmitted lib r)
      (handleAttestationsWith lib variant unmarshal data : Handler σ _) :=
  (handleAttestationsWith_pooled lib variant unmarshal data).mono fun _ => Or.imp_right
    fun ⟨items, unmarshalled, item, member, c, converted, signed, handed⟩ =>
      ⟨_, handed, readsBody items unmarshalled item member c converted signed⟩

theorem submitAttestations_admitted (lib : Library) (r : Request) :
    Handler.Records (AttestationEventAdmitted lib r) (submitAttestations lib r : Handler σ Unit) := by
  unfold submitAttestations
  split
  · exact .write (.inl rfl)
  · exact .write (.inl rfl)
  · rename_i data decoded
    exact .bind (handleAttestations_admitted lib r (baseVariant lib) _
      fun items unmarshalled item member c converted signed =>
        ⟨data, decoded, .inl ⟨items, unmarshalled, item, member, c, converted, rfl⟩, signed⟩)
      fun handled => (attestationResponse_untouched id handled).mono fun _ => .inl

theorem submitAttestationsV2_admitted (lib : Library) (r : Request) :
    Handler.Records (AttestationEventAdmitted lib r) (submitAttestationsV2 lib r : Handler σ Unit) := by
  unfold submitAttestationsV2
  split
  · exact .write (.inl rfl)
  split
  · exact .write (.inl rfl)
  split
  · exact .write (.inl rfl)
  · exact .write (.inl rfl)
  · rename_i data decoded
    split
    · exact .bind (handleAttestations_admitted lib r (electraVariant lib) _
        fun items unmarshalled item member c converted signed =>
          ⟨data, decoded, .inr ⟨items, unmarshalled, item, member, c, converted, rfl⟩, signed⟩)
        fun handled => (attestationResponse_untouched _ handled).mono fun _ => .inl
    · exact .bind (handleAttestations_admitted lib r (baseVariant lib) _
        fun items unmarshalled item member c converted signed =>
          ⟨data, decoded, .inl ⟨items, unmarshalled, item, member, c, converted, rfl⟩, signed⟩)
        fun handled => (attestationResponse_untouched _ handled).mono fun _ => .inl

/-! ## Voluntary exits and slashings -/

theorem submitVoluntaryExit_admitted (lib : Library) (r : Request) (W : World σ) (s : σ) :
    ∀ e ∈ ((submitVoluntaryExit lib r).run W s).trace,
      Admitted lib r ((submitVoluntaryExit lib r).run W s).trace e := by
  rcases submitVoluntaryExit_run lib r W s with ⟨message, rejected⟩ | ⟨req, exit, decoded, converted, run⟩
  · rw [rejected]
    exact admitted_of_write
  · refine admitted_of_records run.pooled ?_
    rintro e ⟨head, fetched, passed, handed⟩
    obtain ⟨epochStart, st, val, started, advanced, found, verified⟩ := checkVoluntaryExit_ok.mp passed
    have admitted : ExitAdmitted lib r _ exit :=
      ⟨req, decoded, converted, head, fetched, epochStart, st, val, started, advanced, found, verified⟩
    rcases handed with rfl | ⟨result, rfl⟩ <;> exact admitted

/-- The run of the shared slashing tail on a decoded attester slashing, inside a record
`trace` that contains it. -/
theorem attesterSlashingRun_admitted {lib : Library} {r : Request} {trace events : List Event}
    {slashing : AttSlashing} {disabled : Bool} (decoded : AttesterSlashingDecoded lib r slashing)
    (run : AttesterSlashingRun lib slashing disabled events) (contained : ∀ e ∈ events, e ∈ trace) :
    ∀ e ∈ events, Admitted lib r trace e := by
  refine admitted_of_records run.pooled ?_
  rintro e ⟨head, st, fetched, checked, handed⟩
  obtain ⟨advanced, verified⟩ := checkAttesterSlashing_ok.mp checked
  have admitted : AttesterSlashingAdmitted lib r trace slashing :=
    ⟨decoded, head, st, contained _ fetched, advanced, verified⟩
  rcases handed with ⟨result, rfl⟩ | ⟨result, rfl⟩ <;> exact admitted

theorem decodeAndSubmitAttesterSlashing_admitted {Wire : Type} (lib : Library)
    (decode : String → Decoded Wire) (toConsensus : Wire → Except String AttSlashing) (r : Request)
    (readsBody : ∀ req slashing, decode r.body = .ok req → toConsensus req = .ok slashing →
      AttesterSlashingDecoded lib r slashing)
    (W : World σ) (s : σ) (before : List Event) :
    ∀ e ∈ ((decodeAndSubmitAttesterSlashing lib decode toConsensus r).run W s).trace,
      Admitted lib r (before ++ ((decodeAndSubmitAttesterSlashing lib decode toConsensus r).run W s).trace) e := by
  rcases decodeAndSubmitAttesterSlashing_run lib decode toConsensus r W s with
    ⟨message, rejected⟩ | ⟨req, slashing, decoded, converted, run⟩
  · rw [rejected]
    exact admitted_of_write
  · exact attesterSlashingRun_admitted (readsBody req slashing decoded converted) run
      fun _ => List.mem_append_right before

theorem map_phase0_ok {lib : Library} {req : Structs.AttesterSlashing} {slashing : AttSlashing}
    (converted : (lib.attesterSlashingToConsensus req).map .phase0 = .ok slashing) :
    ∃ c, lib.attesterSlashingToConsensus req = .ok c ∧ slashing = .phase0 c := by
  cases conversion : lib.attesterSlashingToConsensus req <;> simp_all [Except.map]

theorem map_electra_ok {lib : Library} {req : Structs.AttesterSlashingElectra} {slashing : AttSlashing}
    (converted : (lib.attesterSlashingElectraToConsensus req).map .electra = .ok slashing) :
    ∃ c, lib.attesterSlashingElectraToConsensus req = .ok c ∧ slashing = .electra c := by
  cases conversion : lib.attesterSlashingElectraToConsensus req <;> simp_all [Except.map]

theorem readsBody_phase0 (lib : Library) (r : Request) (req : Structs.AttesterSlashing)
    (slashing : AttSlashing) (decoded : lib.decodeAttesterSlashing r.body = .ok req)
    (converted : (lib.attesterSlashingToConsensus req).map .phase0 = .ok slashing) :
    AttesterSlashingDecoded lib r slashing :=
  have ⟨c, conversion, phase0⟩ := map_phase0_ok converted
  .inl ⟨req, c, decoded, conversion, phase0⟩

theorem readsBody_electra (lib : Library) (r : Request) (req : Structs.AttesterSlashingElectra)
    (slashing : AttSlashing) (decoded : lib.decodeAttesterSlashingElectra r.body = .ok req)
    (converted : (lib.attesterSlashingElectraToConsensus req).map .electra = .ok slashing) :
    AttesterSlashingDecoded lib r slashing :=
  have ⟨c, conversion, electra⟩ := map_electra_ok converted
  .inr ⟨req, c, decoded, conversion, electra⟩

theorem submitAttesterSlashings_admitted (lib : Library) (r : Request) (W : World σ) (s : σ) :
    ∀ e ∈ ((submitAttesterSlashings lib r).run W s).trace,
      Admitted lib r ((submitAttesterSlashings lib r).run W s).trace e :=
  decodeAndSubmitAttesterSlashing_admitted lib _ _ r (readsBody_phase0 lib r) W s []

theorem submitAttesterSlashingsV2_admitted (lib : Library) (r : Request) (W : World σ) (s : σ) :
    ∀ e ∈ ((submitAttesterSlashingsV2 lib r).run W s).trace,
      Admitted lib r ((submitAttesterSlashingsV2 lib r).run W s).trace e := by
  simp only [submitAttesterSlashingsV2, Handler.run_bind]
  have headerWrites : ∀ e ∈ ((if r.header versionHeader = "" then
      handleError (versionHeader ++ " header is required") 400 else pure () : Handler σ Unit).run W s).trace,
      e.touchesPool = false := by
    split <;> simp [handleError, Event.touchesPool]
  generalize ((if r.header versionHeader = "" then handleError (versionHeader ++ " header is required") 400
    else pure () : Handler σ Unit).run W s) = header at headerWrites ⊢
  intro e member
  rw [List.mem_append] at member
  rcases member with member | member
  · exact admitted_of_untouched (headerWrites e member)
  revert e
  split
  · exact fun e member => admitted_of_write e member
  · split
    · exact decodeAndSubmitAttesterSlashing_admitted lib _ _ r (readsBody_electra lib r) W _ _
    · exact decodeAndSubmitAttesterSlashing_admitted lib _ _ r (readsBody_phase0 lib r) W _ _

theorem submitProposerSlashing_admitted (lib : Library) (r : Request) (W : World σ) (s : σ) :
    ∀ e ∈ ((submitProposerSlashing lib r).run W s).trace,
      Admitted lib r ((submitProposerSlashing lib r).run W s).trace e := by
  rcases submitProposerSlashing_run lib r W s with
    ⟨message, rejected⟩ | ⟨req, slashing, decoded, converted, run⟩
  · rw [rejected]
    exact admitted_of_write
  · refine admitted_of_records run.pooled ?_
    rintro e ⟨head, st, fetched, checked, handed⟩
    obtain ⟨advanced, verified⟩ := checkProposerSlashing_ok.mp checked
    have admitted : ProposerSlashingAdmitted lib r _ slashing :=
      ⟨⟨req, decoded, converted⟩, head, st, fetched, advanced, verified⟩
    rcases handed with ⟨result, rfl⟩ | ⟨result, rfl⟩ <;> exact admitted

/-! ## BLS-to-execution changes -/

theorem submitBLSToExecutionChanges_admitted (lib : Library) (r : Request) (W : World σ) (s : σ) :
    ∀ e ∈ ((submitBLSToExecutionChanges lib r).run W s).trace,
      Admitted lib r ((submitBLSToExecutionChanges lib r).run W s).trace e := by
  rcases submitBLSToExecutionChanges_run lib r W s with
    ⟨e, rejected⟩ | ⟨st, message, rejected⟩ | ⟨st, req, decoded, -, trace⟩
  any_goals
    rw [rejected]
    intro e member
    rcases List.mem_pair.mp member with rfl | rfl <;> trivial
  · have passing : ∀ sbls ∈ (checkBLSChanges lib st 0 req).2,
        ChangeAdmitted lib r ((submitBLSToExecutionChanges lib r).run W s).trace sbls := by
      intro sbls member
      obtain ⟨change, changeMember, j, passed⟩ := mem_checkBLSChanges lib st req 0 member
      obtain ⟨converted, valid, verified⟩ := (checkBLSChange_ok lib st j change sbls).mp passed
      exact ⟨req, decoded, change, changeMember, converted, st, trace ▸ List.mem_cons_self _ _, valid,
        verified⟩
    generalize ((submitBLSToExecutionChanges lib r).run W s).trace = events at trace passing ⊢
    subst trace
    intro e member
    simp only [List.mem_cons, List.mem_append, List.mem_flatMap] at member
    rcases member with (rfl | ⟨sbls, member, staged⟩) | rfl | written
    · trivial
    · rcases List.mem_pair.mp staged with rfl | rfl
      · trivial
      · exact passing sbls member
    · intro ch spawned
      by_cases capella : Version.capella ≤ st.version
      · simp only [capella, if_true, List.mem_map, Option.some.injEq, exists_eq_right] at spawned
        exact passing ch spawned
      · simp [capella] at spawned
    · split at written
      · exact admitted_of_write e written
      · cases written

/-! ## Every endpoint -/

theorem admitted_of_quiet {lib : Library} {r : Request} {trace : List Event} {α : Type}
    {x : Handler σ α} (quiet : Handler.Quiet x) (W : World σ) (s : σ) :
    ∀ e ∈ (x.run W s).trace, Admitted lib r trace e :=
  fun e member => admitted_of_untouched (Event.touchesPool_of_isEffect (quiet W s e member))

theorem Endpoint.admitted (lib : Library) (endpoint : Endpoint) (r : Request) (W : World σ) (s : σ) :
    ∀ e ∈ ((endpoint.handler lib r).run W s).trace,
      Admitted lib r ((endpoint.handler lib r).run W s).trace e := by
  cases endpoint
  case submitAttestations =>
    exact fun e member => admitted_of_attestationEvent (submitAttestations_admitted lib r W s e member)
  case submitAttestationsV2 =>
    exact fun e member => admitted_of_attestationEvent (submitAttestationsV2_admitted lib r W s e member)
  case submitVoluntaryExit => exact submitVoluntaryExit_admitted lib r W s
  case submitSyncCommitteeSignatures =>
    exact fun e member => admitted_of_untouched (submitSyncCommitteeSignatures_poolFree lib r W s e member)
  case submitBLSToExecutionChanges => exact submitBLSToExecutionChanges_admitted lib r W s
  case submitAttesterSlashings => exact submitAttesterSlashings_admitted lib r W s
  case submitAttesterSlashingsV2 => exact submitAttesterSlashingsV2_admitted lib r W s
  case submitProposerSlashing => exact submitProposerSlashing_admitted lib r W s
  all_goals exact admitted_of_quiet (Endpoint.quiet lib (by rfl) r) W s

/-! ## The deferred broadcast -/

/-- Every step of a goroutine spawned with `L` broadcasts only changes of `L`, each validated
against the head state fetched by the same step. -/
theorem DeferredStep.broadcasts_spawned {lib : Library} {W : World σ}
    {L : List (Option Eth.SignedBLSToExecutionChange)} {s : σ} {d d' : Deferred σ}
    (reachable : Relation.ReflTransGen (DeferredStep lib W) (Deferred.spawn L s) d)
    (step : DeferredStep lib W d d') :
    ∃ events, d'.loop.trace = d.loop.trace ++ events ∧ ∀ ch ∈ blsBroadcasts events, some ch ∈ L ∧
      ∃ st, fetchedStates events = [st] ∧ lib.validateBLSToExecutionChange st ch = .ok () := by
  have suffix := (DeferredInvariant.reachable reachable).loop.suffix
  cases step with
  | loop step =>
    obtain ⟨events, trace, -, broadcasts⟩ := step.broadcasts
    refine ⟨events, trace, fun ch member => ?_⟩
    obtain ⟨present, validated⟩ := broadcasts ch member
    rw [suffix] at present
    exact ⟨List.mem_of_mem_drop (List.mem_of_mem_take present), validated⟩
  | cancel => exact ⟨[], (List.append_nil _).symm, nofun⟩

/-! ## Admission -/

theorem admission_invariant (lib : Library) (endpoint : Endpoint) (r : Request) (W : World σ) (s : σ) :
    (∀ e ∈ ((endpoint.handler lib r).run W s).trace,
      Admitted lib r ((endpoint.handler lib r).run W s).trace e) ∧
    ∀ changes, Event.spawnBroadcastBLSChanges changes ∈ ((endpoint.handler lib r).run W s).trace →
      ∀ (s' : σ) (d d' : Deferred σ),
        Relation.ReflTransGen (DeferredStep lib W) (Deferred.spawn changes s') d → DeferredStep lib W d d' →
        ∃ events, d'.loop.trace = d.loop.trace ++ events ∧ ∀ ch ∈ blsBroadcasts events,
          ChangeAdmitted lib r ((endpoint.handler lib r).run W s).trace ch ∧
          ∃ st, fetchedStates events = [st] ∧ lib.validateBLSToExecutionChange st ch = .ok () := by
  have handler := Endpoint.admitted lib endpoint r W s
  refine ⟨handler, fun changes spawned s' d d' reachable step => ?_⟩
  obtain ⟨events, trace, broadcasts⟩ := DeferredStep.broadcasts_spawned reachable step
  exact ⟨events, trace, fun ch member =>
    ⟨handler _ spawned ch (broadcasts ch member).1, (broadcasts ch member).2⟩⟩

/-! ## Exactly the admitted operations

For the exit and the proposer slashing, admission is also sufficient: an operation that
passes every check reaches the pool. -/

theorem submitVoluntaryExit_inserts_admitted (lib : Library) (r : Request) (W : World σ) (s : σ)
    {exit : Eth.SignedVoluntaryExit}
    (admitted : ExitAdmitted lib r ((submitVoluntaryExit lib r).run W s).trace exit) :
    .insertVoluntaryExit exit ∈ ((submitVoluntaryExit lib r).run W s).trace := by
  obtain ⟨req, decoded, converted, head, fetched, checks⟩ := admitted
  have passed := checkVoluntaryExit_ok.mpr checks
  rcases submitVoluntaryExit_run lib r W s with
    ⟨message, rejected⟩ | ⟨req', exit', decoded', converted', run⟩
  · rw [rejected] at fetched
    simp at fetched
  obtain rfl : req' = req := by rw [decoded] at decoded'; cases decoded'; rfl
  obtain rfl : exit' = exit := by rw [converted] at converted'; cases converted'; rfl
  generalize ((submitVoluntaryExit lib r).run W s).trace = events at run fetched ⊢
  cases run with
  | headStateFailed e => simp at fetched
  | rejected head' message code failed =>
    obtain rfl : head = head' := by simpa using fetched
    rw [passed] at failed
    cases failed
  | inserted => simp

theorem submitProposerSlashing_inserts_admitted (lib : Library) (r : Request) (W : World σ) (s : σ)
    {slashing : Eth.ProposerSlashing}
    (admitted :
      ProposerSlashingAdmitted lib r ((submitProposerSlashing lib r).run W s).trace slashing) :
    ∃ st result,
      .insertProposerSlashing st slashing result ∈ ((submitProposerSlashing lib r).run W s).trace := by
  obtain ⟨⟨req, decoded, converted⟩, head, st, fetched, checks⟩ := admitted
  have passed := checkProposerSlashing_ok.mpr checks
  rcases submitProposerSlashing_run lib r W s with
    ⟨message, rejected⟩ | ⟨req', slashing', decoded', converted', run⟩
  · rw [rejected] at fetched
    simp at fetched
  obtain rfl : req' = req := by rw [decoded] at decoded'; cases decoded'; rfl
  obtain rfl : slashing' = slashing := by rw [converted] at converted'; cases converted'; rfl
  generalize ((submitProposerSlashing lib r).run W s).trace = events at run fetched ⊢
  cases run with
  | headStateFailed e => simp at fetched
  | rejected head' text code failed =>
    obtain rfl : head = head' := by simpa using fetched
    rw [passed] at failed
    cases failed
  | insertFailed _ st' e => exact ⟨st', some e, by simp⟩
  | inserted _ st' => exact ⟨st', none, by simp⟩

/-- An exit reaches the pool, and a proposer slashing is offered to its pool, exactly when it
is admitted. -/
theorem exit_and_proposer_slashing_inserted_iff_admitted (lib : Library) (r : Request) (W : World σ)
    (s : σ) :
    (∀ exit, .insertVoluntaryExit exit ∈ ((submitVoluntaryExit lib r).run W s).trace ↔
        ExitAdmitted lib r ((submitVoluntaryExit lib r).run W s).trace exit) ∧
      ∀ slashing, (∃ st result,
          .insertProposerSlashing st slashing result ∈ ((submitProposerSlashing lib r).run W s).trace) ↔
        ProposerSlashingAdmitted lib r ((submitProposerSlashing lib r).run W s).trace slashing :=
  ⟨fun _ =>
    ⟨submitVoluntaryExit_admitted lib r W s _, submitVoluntaryExit_inserts_admitted lib r W s⟩,
    fun _ => ⟨fun ⟨_, _, inserted⟩ => submitProposerSlashing_admitted lib r W s _ inserted,
      submitProposerSlashing_inserts_admitted lib r W s⟩⟩

/-! ## Requests rejected by their version header

A V2 submission whose version header is missing or names no fork records only writes, so
nothing of it reaches a pool; with a header naming a fork before Electra,
`SubmitAttesterSlashingsV2` is `SubmitAttesterSlashings`. -/

/-- A request whose version header is missing or names no fork. -/
def VersionRejected (r : Request) : Prop :=
  r.header versionHeader = "" ∨ ∃ e, Version.fromString (r.header versionHeader) = .error e

theorem versionRejected_fromString {r : Request} (rejected : VersionRejected r) :
    ∃ e, Version.fromString (r.header versionHeader) = .error e := by
  rcases rejected with missing | unknown
  · rw [missing]
    exact Version.fromString_empty
  · exact unknown

/-- Every run on a request with a rejected version header records only writes. -/
theorem version_header_rejection_is_quiet (lib : Library) (r : Request) (rejected : VersionRejected r)
    (W : World σ) (s : σ) :
    (∀ e ∈ ((submitAttestationsV2 lib r).run W s).trace, ∃ w, e = .write w) ∧
      ∀ e ∈ ((submitAttesterSlashingsV2 lib r).run W s).trace, ∃ w, e = .write w := by
  obtain ⟨message, unknown⟩ := versionRejected_fromString rejected
  constructor
  · unfold submitAttestationsV2
    split
    · exact fun e member => ⟨_, List.mem_singleton.mp member⟩
    · simp only [unknown]
      exact fun e member => ⟨_, List.mem_singleton.mp member⟩
  · simp only [submitAttesterSlashingsV2, Handler.run_bind, unknown, List.mem_append]
    rintro e (header | member)
    · split at header
      · exact ⟨_, List.mem_singleton.mp header⟩
      · cases header
    · exact ⟨_, List.mem_singleton.mp member⟩

/-- With a header naming a fork before Electra, `SubmitAttesterSlashingsV2` runs exactly as
`SubmitAttesterSlashings`: same record, same answer, same world. -/
theorem attester_slashings_v2_before_electra_is_v1 (lib : Library) {r : Request} {v : Version}
    (parsed : Version.fromString (r.header versionHeader) = .ok v) (before : ¬Version.electra ≤ v)
    (W : World σ) (s : σ) :
    (submitAttesterSlashingsV2 lib r).run W s = (submitAttesterSlashings lib r).run W s := by
  simp only [submitAttesterSlashingsV2, submitAttesterSlashings, Handler.run_bind,
    if_neg (Version.ne_empty_of_fromString_ok parsed), Handler.run_pure, parsed, if_neg before,
    List.nil_append]

/-! ## Attester slashings, by the record each branch reads

Admission accepts an attester slashing of either record, since `SubmitAttesterSlashingsV2`
may read either one. Each branch reads one record only (the one the version header names, for
the second endpoint), and with that record admission is exact as well. -/

/-- The body read as the base attester-slashing record, as `SubmitAttesterSlashings` and the
branch of `SubmitAttesterSlashingsV2` before Electra read it. -/
def BaseAttesterSlashingDecoded (lib : Library) (r : Request) (slashing : AttSlashing) : Prop :=
  ∃ req c, lib.decodeAttesterSlashing r.body = .ok req ∧ lib.attesterSlashingToConsensus req = .ok c ∧
    slashing = .phase0 c

/-- The body read as the Electra record, as the Electra branch of `SubmitAttesterSlashingsV2`
reads it. -/
def ElectraAttesterSlashingDecoded (lib : Library) (r : Request) (slashing : AttSlashing) : Prop :=
  ∃ req c, lib.decodeAttesterSlashingElectra r.body = .ok req ∧
    lib.attesterSlashingElectraToConsensus req = .ok c ∧ slashing = .electra c

/-- The slashing verifies on a fetched head state advanced to the slot of its first attestation. -/
def AttesterSlashingVerified (lib : Library) (trace : List Event) (slashing : AttSlashing) : Prop :=
  ∃ head st, .headState (.ok head) ∈ trace ∧
    lib.processSlotsIfPossible head slashing.firstAttestation.data.slot = .ok st ∧
    lib.verifyAttesterSlashing st slashing = .ok ()

/-- The shared tail offers its own slashing to the pool, exactly when the checks pass on the
head state it fetched. -/
theorem AttesterSlashingRun.inserted_iff {lib : Library} {slashing : AttSlashing} {disabled : Bool}
    {trace : List Event} (run : AttesterSlashingRun lib slashing disabled trace) (offered : AttSlashing) :
    (∃ st result, .insertAttesterSlashing st offered result ∈ trace) ↔
      offered = slashing ∧ AttesterSlashingVerified lib trace slashing := by
  simp only [AttesterSlashingVerified, ← checkAttesterSlashing_ok]
  cases run with
  | headStateFailed e => simp
  | rejected head text code failed => simp [failed]
  | insertFailed head st e checked => simp [checked]
  | inserted head st result checked =>
    cases disabled <;> cases result <;> simp [checked, broadcastFailure]

theorem decodeAndSubmitAttesterSlashing_inserted_iff {Wire : Type} (lib : Library)
    (decode : String → Decoded Wire) (toConsensus : Wire → Except String AttSlashing) (r : Request)
    (W : World σ) (s : σ) (offered : AttSlashing) :
    (∃ st result, .insertAttesterSlashing st offered result ∈
        ((decodeAndSubmitAttesterSlashing lib decode toConsensus r).run W s).trace) ↔
      (∃ req, decode r.body = .ok req ∧ toConsensus req = .ok offered) ∧
        AttesterSlashingVerified lib ((decodeAndSubmitAttesterSlashing lib decode toConsensus r).run W s).trace
          offered := by
  rcases decodeAndSubmitAttesterSlashing_run lib decode toConsensus r W s with
    ⟨message, rejected⟩ | ⟨req, slashing, decoded, converted, run⟩
  · rw [rejected]
    simp [AttesterSlashingVerified]
  · rw [run.inserted_iff]
    simp only [decoded, converted, Decoded.ok.injEq, exists_eq_left', Except.ok.injEq]
    constructor <;> rintro ⟨rfl, verified⟩ <;> exact ⟨rfl, verified⟩

theorem baseAttesterSlashingDecoded_iff {lib : Library} {r : Request} {offered : AttSlashing} :
    (∃ req, lib.decodeAttesterSlashing r.body = .ok req ∧
        (lib.attesterSlashingToConsensus req).map .phase0 = .ok offered) ↔
      BaseAttesterSlashingDecoded lib r offered :=
  ⟨fun ⟨req, decoded, converted⟩ => have ⟨c, conversion, phase0⟩ := map_phase0_ok converted
      ⟨req, c, decoded, conversion, phase0⟩,
    fun ⟨req, c, decoded, conversion, phase0⟩ => ⟨req, decoded, by simp [conversion, phase0, Except.map]⟩⟩

theorem electraAttesterSlashingDecoded_iff {lib : Library} {r : Request} {offered : AttSlashing} :
    (∃ req, lib.decodeAttesterSlashingElectra r.body = .ok req ∧
        (lib.attesterSlashingElectraToConsensus req).map .electra = .ok offered) ↔
      ElectraAttesterSlashingDecoded lib r offered :=
  ⟨fun ⟨req, decoded, converted⟩ => have ⟨c, conversion, electra⟩ := map_electra_ok converted
      ⟨req, c, decoded, conversion, electra⟩,
    fun ⟨req, c, decoded, conversion, electra⟩ => ⟨req, decoded, by simp [conversion, electra, Except.map]⟩⟩

theorem submitAttesterSlashings_inserted_iff (lib : Library) (r : Request) (W : World σ) (s : σ)
    (offered : AttSlashing) :
    (∃ st result, .insertAttesterSlashing st offered result ∈
        ((submitAttesterSlashings lib r).run W s).trace) ↔
      BaseAttesterSlashingDecoded lib r offered ∧
        AttesterSlashingVerified lib ((submitAttesterSlashings lib r).run W s).trace offered := by
  rw [submitAttesterSlashings, decodeAndSubmitAttesterSlashing_inserted_iff, baseAttesterSlashingDecoded_iff]

theorem submitAttesterSlashingsV2_inserted_iff (lib : Library) (r : Request) (W : World σ) (s : σ)
    (offered : AttSlashing) :
    (∃ st result, .insertAttesterSlashing st offered result ∈
        ((submitAttesterSlashingsV2 lib r).run W s).trace) ↔
      ∃ v, Version.fromString (r.header versionHeader) = .ok v ∧
        (if Version.electra ≤ v then ElectraAttesterSlashingDecoded lib r offered
          else BaseAttesterSlashingDecoded lib r offered) ∧
        AttesterSlashingVerified lib ((submitAttesterSlashingsV2 lib r).run W s).trace offered := by
  cases parsed : Version.fromString (r.header versionHeader) with
  | error e =>
    refine iff_of_false (fun ⟨_, _, inserted⟩ => ?_) fun ⟨_, parsed', _⟩ => nomatch parsed'
    obtain ⟨w, written⟩ := (version_header_rejection_is_quiet lib r (.inr ⟨e, parsed⟩) W s).2 _ inserted
    cases written
  | ok v =>
    simp only [Except.ok.injEq, exists_eq_left']
    split
    · simp only [submitAttesterSlashingsV2, Handler.run_bind, Handler.run_pure, List.nil_append,
        if_neg (Version.ne_empty_of_fromString_ok parsed), parsed, if_pos ‹Version.electra ≤ v›]
      rw [decodeAndSubmitAttesterSlashing_inserted_iff, electraAttesterSlashingDecoded_iff]
    · rw [attester_slashings_v2_before_electra_is_v1 lib parsed ‹_› W s]
      exact submitAttesterSlashings_inserted_iff lib r W s offered

/-- An attester slashing reaches its pool from `SubmitAttesterSlashings` exactly when it is the
base record of the body and verifies on the fetched head state; from `SubmitAttesterSlashingsV2`,
exactly when the header names a version, the slashing is the record of that version's branch,
and it verifies. -/
theorem attester_slashing_inserted_iff_verified (lib : Library) (r : Request) (W : World σ) (s : σ) :
    (∀ slashing, (∃ st result, .insertAttesterSlashing st slashing result ∈
        ((submitAttesterSlashings lib r).run W s).trace) ↔
      BaseAttesterSlashingDecoded lib r slashing ∧
        AttesterSlashingVerified lib ((submitAttesterSlashings lib r).run W s).trace slashing) ∧
    ∀ slashing, (∃ st result, .insertAttesterSlashing st slashing result ∈
        ((submitAttesterSlashingsV2 lib r).run W s).trace) ↔
      ∃ v, Version.fromString (r.header versionHeader) = .ok v ∧
        (if Version.electra ≤ v then ElectraAttesterSlashingDecoded lib r slashing
          else BaseAttesterSlashingDecoded lib r slashing) ∧
        AttesterSlashingVerified lib ((submitAttesterSlashingsV2 lib r).run W s).trace slashing :=
  ⟨submitAttesterSlashings_inserted_iff lib r W s, submitAttesterSlashingsV2_inserted_iff lib r W s⟩

end BeaconPool
