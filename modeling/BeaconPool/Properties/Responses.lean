import BeaconPool.Handlers.Endpoints

/-! # The responses of the endpoints

How many responses (`HandleError`, `WriteError`, `WriteJson`; `Header().Set` sends none) a
run writes. `RespondsOnce` is proved for each handler from four rules: a silent action
followed by one that responds once, a `UintFromQuery`-shaped action (which writes only when
its caller then returns), and the writes themselves. Every endpoint writes at most one
response, except `SubmitAttesterSlashingsV2` without a version header, which does not
return after its first 400 and always writes two (`endpoint_response_count`).
-/

namespace BeaconPool

variable {σ : Type}

/-! ## Counting responses -/

/-- A write that sends a status line and a body. -/
def Event.isResponse : Event → Bool
  | .write w => w.isStatus
  | _ => false

/-- The number of responses written in a record. -/
def responseCount (trace : List Event) : Nat := (trace.filter Event.isResponse).length

@[simp] theorem responseCount_append (first second : List Event) :
    responseCount (first ++ second) = responseCount first + responseCount second := by
  simp only [responseCount, List.filter_append, List.length_append]

namespace Handler

variable {α β : Type}

/-- No run of `x` writes a response. -/
def Silent (x : Handler σ α) : Prop := Records (fun e => e.isResponse = false) x

/-- No run of `x` writes more than one response. -/
def RespondsOnce (x : Handler σ α) : Prop := ∀ W s, responseCount (x.run W s).trace ≤ 1

/-- `x` writes at most one response, and none when it returns a value: the shape of
`shared.UintFromQuery`, whose caller returns on `!ok`. -/
def Answers (x : Handler σ (Option α)) : Prop :=
  ∀ W s, responseCount (x.run W s).trace ≤ 1 ∧
    ((x.run W s).value.isSome → responseCount (x.run W s).trace = 0)

theorem Silent.responseCount_eq_zero {x : Handler σ α} (silent : Silent x) (W : World σ)
    (s : σ) :
    responseCount (x.run W s).trace = 0 :=
  List.length_eq_zero.mpr (List.filter_eq_nil_iff.mpr fun e member => by simp [silent W s e member])

theorem RespondsOnce.of_silent {x : Handler σ α} (silent : Silent x) : RespondsOnce x :=
  fun W s => (silent.responseCount_eq_zero W s).trans_le (Nat.zero_le 1)

theorem RespondsOnce.write (w : Write) : RespondsOnce (write w : Handler σ Unit) :=
  fun _ _ => List.length_filter_le _ _

theorem RespondsOnce.bind_silent {x : Handler σ α} {f : α → Handler σ β} (first : Silent x)
    (second : ∀ a, RespondsOnce (f a)) : RespondsOnce (x >>= f) := fun W s => by
  rw [run_bind, responseCount_append, first.responseCount_eq_zero, Nat.zero_add]
  exact second _ W _

theorem RespondsOnce.bind_answers {x : Handler σ (Option α)} {f : Option α → Handler σ β}
    (first : Answers x) (none_silent : Silent (f none))
    (some_once : ∀ a, RespondsOnce (f (some a))) :
    RespondsOnce (x >>= f) := fun W s => by
  obtain ⟨atMost, answered⟩ := first W s
  rw [run_bind, responseCount_append]
  cases value : (x.run W s).value with
  | none => rw [none_silent.responseCount_eq_zero, Nat.add_zero]; exact atMost
  | some a =>
    rw [answered (by rw [value]; rfl), Nat.zero_add]
    exact some_once a W _

end Handler

open Handler

theorem uintFromQuery_answers (r : Request) (name : String) :
    Answers (uintFromQuery r name : Handler σ _) := by
  intro W s
  unfold uintFromQuery
  split
  · exact ⟨Nat.zero_le 1, fun _ => rfl⟩
  · split
    · exact ⟨Nat.zero_le 1, fun _ => rfl⟩
    · exact ⟨le_refl 1, nofun⟩

/-! ## The parts that write nothing -/

section Silent

variable {Wire Consensus : Type}

theorem broadcastValidAttestation_silent (lib : Library)
    (variant : AttestationVariant Wire Consensus) (c : Consensus) : Silent (broadcastValidAttestation lib variant c : Handler σ _) := by
  refine .bind ?notify fun _ => .bind (.call fun _ => rfl) fun fetched => ?_
  case notify =>
    unfold notifyUnaggregated
    split
    · exact .call fun _ => rfl
    · exact .pure _
  split
  · exact .pure _
  split
  · exact .pure _
  refine .bind (.call fun _ => rfl) fun broadcasted => ?_
  rcases broadcasted with _ | _
  · refine .bind ?_ fun _ => .pure _
    unfold saveAttestation
    split <;> exact .call fun _ => rfl
  · exact .pure _

theorem broadcastValidAttestations_silent (lib : Library)
    (variant : AttestationVariant Wire Consensus) :
    ∀ i validAttestations failedBroadcasts, Silent
      (broadcastValidAttestations lib variant i validAttestations failedBroadcasts : Handler σ _)
  | _, [], _ => .pure _
  | i, c :: rest, failedBroadcasts =>
    .bind (broadcastValidAttestation_silent lib variant c) fun result => by
      rcases result with _ | _ | _
      · exact .pure _
      · exact broadcastValidAttestations_silent lib variant (i + 1) rest failedBroadcasts
      · exact broadcastValidAttestations_silent lib variant (i + 1) rest _

theorem handleAttestationsWith_silent (lib : Library) (variant : AttestationVariant Wire Consensus)
    (unmarshal : String → Except String (List Wire)) (data : String) :
    Silent (handleAttestationsWith lib variant unmarshal data : Handler σ _) := by
  unfold handleAttestationsWith
  split
  · exact .pure _
  · exact .pure _
  · exact .bind (broadcastValidAttestations_silent lib variant 0 _ []) fun result => by
      cases result <;> exact .pure _

theorem send_silent (event : FeedEvent) : Silent (send event : Handler σ Unit) :=
  Records.call fun _ => rfl

theorem insertBLSToExecChange_silent (change : Eth.SignedBLSToExecutionChange) :
    Silent (insertBLSToExecChange change : Handler σ Unit) :=
  Records.call fun _ => rfl

theorem spawnBroadcastBLSChanges_silent (changes : List (Option Eth.SignedBLSToExecutionChange)) :
    Silent (spawnBroadcastBLSChanges changes : Handler σ Unit) :=
  fun _ _ _ member => by rw [List.mem_singleton.mp member]; rfl

theorem processBLSChanges_silent (lib : Library) (st : BeaconState) :
    ∀ i req failures toBroadcast,
      Silent (processBLSChanges lib st i req failures toBroadcast : Handler σ _)
  | _, [], _, _ => .pure _
  | i, change :: rest, failures, toBroadcast => by
    unfold processBLSChanges
    split
    · exact processBLSChanges_silent lib st (i + 1) rest _ toBroadcast
    · exact .bind (send_silent _) fun _ => .bind (insertBLSToExecChange_silent _) fun _ =>
        processBLSChanges_silent lib st (i + 1) rest failures _

end Silent

/-! ## Every handler responds at most once -/

theorem listAttestations_respondsOnce (lib : Library) (r : Request) :
    RespondsOnce (listAttestations lib r : Handler σ Unit) := by
  refine .bind_answers (uintFromQuery_answers r "slot") (.pure _) fun ⟨rawSlot, slot⟩ => ?_
  refine .bind_answers (uintFromQuery_answers r "committee_index") (.pure _)
    fun ⟨rawCommitteeIndex, committeeIndex⟩ => ?_
  refine .bind_silent (.call fun _ => rfl) fun _ =>
    .bind_silent (.call fun _ => rfl) fun fetched => ?_
  split
  · exact .write _
  · split <;> exact .write _

theorem listAttestationsV2_respondsOnce (lib : Library) (r : Request) :
    RespondsOnce (listAttestationsV2 lib r : Handler σ Unit) := by
  refine .bind_answers (uintFromQuery_answers r "slot") (.pure _) fun ⟨rawSlot, slot⟩ => ?_
  refine .bind_answers (uintFromQuery_answers r "committee_index") (.pure _)
    fun ⟨rawCommitteeIndex, committeeIndex⟩ => ?_
  refine .bind_silent (.call fun _ => rfl) fun fetchedState => ?_
  rcases fetchedState with _ | headState
  · exact .write _
  refine .bind_silent (.call fun _ => rfl) fun _ =>
    .bind_silent (.call fun _ => rfl) fun fetched => ?_
  split
  · exact .write _
  · split <;> exact .write _

theorem respondToAttestations_respondsOnce (attFailures : List IndexedVerificationFailure)
    (failedBroadcasts : List String) :
    RespondsOnce (respondToAttestations attFailures failedBroadcasts : Handler σ Unit) := by
  unfold respondToAttestations
  split
  · exact .write _
  · split
    · exact .write _
    · exact .of_silent (.pure _)

theorem attestationResponse_respondsOnce (message : String → String)
    (handled : Except String (List IndexedVerificationFailure × List String)) :
    RespondsOnce (match handled with
      | .error e => handleError (message e) 400
      | .ok (attFailures, failedBroadcasts) => respondToAttestations attFailures failedBroadcasts :
        Handler σ Unit) := by
  rcases handled with _ | ⟨attFailures, failedBroadcasts⟩
  · exact .write _
  · exact respondToAttestations_respondsOnce attFailures failedBroadcasts

theorem submitAttestations_respondsOnce (lib : Library) (r : Request) :
    RespondsOnce (submitAttestations lib r : Handler σ Unit) := by
  unfold submitAttestations
  split
  · exact .write _
  · exact .write _
  · exact .bind_silent (handleAttestationsWith_silent _ _ _ _) fun handled =>
      attestationResponse_respondsOnce id handled

theorem submitAttestationsV2_respondsOnce (lib : Library) (r : Request) :
    RespondsOnce (submitAttestationsV2 lib r : Handler σ Unit) := by
  unfold submitAttestationsV2
  split
  · exact .write _
  split
  · exact .write _
  split
  · exact .write _
  · exact .write _
  · split
    all_goals exact .bind_silent (handleAttestationsWith_silent _ _ _ _) fun handled =>
      attestationResponse_respondsOnce _ handled

theorem listVoluntaryExits_respondsOnce (lib : Library) :
    RespondsOnce (listVoluntaryExits lib : Handler σ Unit) :=
  .bind_silent (.call fun _ => rfl) fun fetched => by cases fetched <;> exact .write _

theorem submitVoluntaryExit_respondsOnce (lib : Library) (r : Request) :
    RespondsOnce (submitVoluntaryExit lib r : Handler σ Unit) := by
  unfold submitVoluntaryExit
  split
  · exact .write _
  · exact .write _
  split
  · exact .write _
  refine .bind_silent (.call fun _ => rfl) fun fetched => ?_
  split
  · exact .write _
  split
  · exact .write _
  refine .bind_silent (.call fun _ => rfl) fun _ =>
    .bind_silent (.call fun _ => rfl) fun broadcasted => ?_
  rcases broadcasted with _ | _
  · exact .of_silent (.pure _)
  · exact .write _

theorem submitSyncCommitteeSignatures_respondsOnce (lib : Library) (r : Request) :
    RespondsOnce (submitSyncCommitteeSignatures lib r : Handler σ Unit) := by
  unfold submitSyncCommitteeSignatures
  split
  · exact .write _
  · exact .write _
  · exact .write _
  · refine .bind_silent (submitSyncMessages_records (fun _ _ => by rfl) _) fun submitted => ?_
    split
    · exact .write _
    · split
      · exact .write _
      · exact .of_silent (.pure _)

theorem submitBLSToExecutionChanges_respondsOnce (lib : Library) (r : Request) :
    RespondsOnce (submitBLSToExecutionChanges lib r : Handler σ Unit) := by
  refine .bind_silent (.call fun _ => rfl) fun fetched => ?_
  split
  · exact .write _
  split
  · exact .write _
  · exact .write _
  · exact .write _
  · refine .bind_silent (processBLSChanges_silent lib _ 0 _ [] [])
      fun ⟨failures, toBroadcast⟩ =>
      .bind_silent (spawnBroadcastBLSChanges_silent _) fun _ => ?_
    split
    · exact .write _
    · exact .of_silent (.pure _)

theorem listBLSToExecutionChanges_respondsOnce (lib : Library) :
    RespondsOnce (listBLSToExecutionChanges lib : Handler σ Unit) :=
  .bind_silent (.call fun _ => rfl) fun fetched => by cases fetched <;> exact .write _

theorem getAttesterSlashings_respondsOnce (lib : Library) :
    RespondsOnce (getAttesterSlashings lib : Handler σ Unit) := by
  refine .bind_silent (.call fun _ => rfl) fun fetched => ?_
  rcases fetched with _ | headState
  · exact .write _
  · exact .bind_silent (.call fun _ => rfl) fun _ => by split <;> exact .write _

theorem getAttesterSlashingsV2_respondsOnce (lib : Library) :
    RespondsOnce (getAttesterSlashingsV2 lib : Handler σ Unit) := by
  refine .bind_silent (.call fun _ => rfl) fun fetched => ?_
  rcases fetched with _ | headState
  · exact .write _
  · refine .bind_silent (.call fun _ => rfl) fun _ => ?_
    split
    · exact .write _
    · exact .bind_silent (.write rfl) fun _ => .write _

theorem submitSlashingWith_respondsOnce (check : BeaconState → Except (String × Nat) BeaconState)
    (insert : BeaconState → Handler σ (Option String))
    (insertSilent : ∀ st, Silent (insert st))
    (insertError : String) (event : FeedEvent) (message : Message) :
    RespondsOnce (submitSlashingWith check insert insertError event message) := by
  refine .bind_silent (.call fun _ => rfl) fun fetched => ?_
  split
  · exact .write _
  split
  · exact .write _
  refine .bind_silent (insertSilent _) fun inserted => ?_
  rcases inserted with _ | _
  · refine .bind_silent (.call fun _ => rfl) fun _ =>
      .bind_silent .disableBroadcastSlashings fun disabled => ?_
    split
    · refine .bind_silent (.call fun _ => rfl) fun broadcasted => ?_
      rcases broadcasted with _ | _
      · exact .of_silent (.pure _)
      · exact .write _
    · exact .of_silent (.pure _)
  · exact .write _

theorem decodeAndSubmitAttesterSlashing_respondsOnce {Wire : Type} (lib : Library)
    (decode : String → Decoded Wire) (toConsensus : Wire → Except String AttSlashing)
    (r : Request) :
    RespondsOnce (decodeAndSubmitAttesterSlashing lib decode toConsensus r : Handler σ Unit) := by
  unfold decodeAndSubmitAttesterSlashing
  split
  · exact .write _
  · exact .write _
  split
  · exact .write _
  · exact submitSlashingWith_respondsOnce _ _ (fun _ => by exact .call fun _ => rfl) _ _ _

theorem submitAttesterSlashingsV2_respondsOnce (lib : Library) {r : Request}
    (present : r.header versionHeader ≠ "") :
    RespondsOnce (submitAttesterSlashingsV2 lib r : Handler σ Unit) := by
  refine .bind_silent (by rw [if_neg present]; exact .pure _) fun _ => ?_
  split
  · exact .write _
  · split
    · exact decodeAndSubmitAttesterSlashing_respondsOnce _ _ _ _
    · exact decodeAndSubmitAttesterSlashing_respondsOnce _ _ _ _

/-- Without the header, the header check's 400 is followed by the version parse's. -/
theorem submitAttesterSlashingsV2_writes_twice (lib : Library) {r : Request}
    (missing : r.header versionHeader = "") (W : World σ) (s : σ) :
    responseCount ((submitAttesterSlashingsV2 lib r).run W s).trace = 2 := by
  obtain ⟨message, unknown⟩ := Version.fromString_empty
  simp only [submitAttesterSlashingsV2, run_bind, missing, if_true, unknown]
  rfl

theorem getProposerSlashings_respondsOnce (lib : Library) :
    RespondsOnce (getProposerSlashings lib : Handler σ Unit) := by
  refine .bind_silent (.call fun _ => rfl) fun fetched => ?_
  rcases fetched with _ | headState
  · exact .write _
  · exact .bind_silent (.call fun _ => rfl) fun _ => .write _

theorem submitProposerSlashing_respondsOnce (lib : Library) (r : Request) :
    RespondsOnce (submitProposerSlashing lib r : Handler σ Unit) := by
  unfold submitProposerSlashing
  split
  · exact .write _
  · exact .write _
  split
  · exact .write _
  · exact submitSlashingWith_respondsOnce _ _ (fun _ => by exact .call fun _ => rfl) _ _ _

theorem Endpoint.respondsOnce (lib : Library) {endpoint : Endpoint}
    (single : endpoint ≠ .submitAttesterSlashingsV2) (r : Request) :
    RespondsOnce (endpoint.handler lib r : Handler σ Unit) := by
  cases endpoint
  case listAttestations => exact listAttestations_respondsOnce lib r
  case listAttestationsV2 => exact listAttestationsV2_respondsOnce lib r
  case submitAttestations => exact submitAttestations_respondsOnce lib r
  case submitAttestationsV2 => exact submitAttestationsV2_respondsOnce lib r
  case listVoluntaryExits => exact listVoluntaryExits_respondsOnce lib
  case submitVoluntaryExit => exact submitVoluntaryExit_respondsOnce lib r
  case submitSyncCommitteeSignatures => exact submitSyncCommitteeSignatures_respondsOnce lib r
  case submitBLSToExecutionChanges => exact submitBLSToExecutionChanges_respondsOnce lib r
  case listBLSToExecutionChanges => exact listBLSToExecutionChanges_respondsOnce lib
  case getAttesterSlashings => exact getAttesterSlashings_respondsOnce lib
  case getAttesterSlashingsV2 => exact getAttesterSlashingsV2_respondsOnce lib
  case submitAttesterSlashings => exact decodeAndSubmitAttesterSlashing_respondsOnce _ _ _ r
  case submitAttesterSlashingsV2 => exact absurd rfl single
  case getProposerSlashings => exact getProposerSlashings_respondsOnce lib
  case submitProposerSlashing => exact submitProposerSlashing_respondsOnce lib r

/-- Every endpoint writes at most one response, except `SubmitAttesterSlashingsV2` on a
request without the version header, which writes exactly two. -/
theorem endpoint_response_count (lib : Library) (endpoint : Endpoint) (r : Request) (W : World σ)
    (s : σ) :
    (¬(endpoint = .submitAttesterSlashingsV2 ∧ r.header versionHeader = "") ∧
        responseCount ((endpoint.handler lib r).run W s).trace ≤ 1) ∨
      (endpoint = .submitAttesterSlashingsV2 ∧ r.header versionHeader = "" ∧
        responseCount ((endpoint.handler lib r).run W s).trace = 2) := by
  by_cases doubled : endpoint = .submitAttesterSlashingsV2 ∧ r.header versionHeader = ""
  · obtain ⟨rfl, missing⟩ := doubled
    exact .inr ⟨rfl, missing, submitAttesterSlashingsV2_writes_twice lib missing W s⟩
  · refine .inl ⟨doubled, ?_⟩
    by_cases v2 : endpoint = .submitAttesterSlashingsV2
    · subst v2
      exact submitAttesterSlashingsV2_respondsOnce lib (fun missing => doubled ⟨rfl, missing⟩)
        W s
    · exact Endpoint.respondsOnce lib v2 r W s

/-! ## A missing version header -/

/-- Without the header, `SubmitAttesterSlashingsV2` writes two 400s. -/
theorem attester_slashings_v2_missing_header_writes_twice :
    ((submitAttesterSlashingsV2 default ⟨fun _ => "", fun _ => "", ""⟩).run (World.succeeding default) ()).trace =
      [.write (.handleError "Eth-Consensus-Version header is required" 400),
        .write (.handleError "Invalid version: : version name doesn't map to a known value in the enum" 400)] :=
  rfl

end BeaconPool
