import BeaconPool.Handlers.Attestations
import BeaconPool.Handlers.Operations

/-! # The list endpoints

`filterAttestations` keeps, in order, the attestations whose `Data` matches the query, and
fails on the first attestation of the other record (`filterAttestations_make`). The
committee an Electra attestation is filtered by is therefore `Data.CommitteeIndex`, not the
committee its bits designate (`electra_committee_filter_reads_data_index`). The two attester
slashing loops likewise return every pooled slashing or fail on the first of the other record
(`attester_slashing_lists_exact`). The V2 list
endpoints differ in their envelope: `GetAttesterSlashingsV2` writes `null` for an empty pool,
and `ListAttestationsV2` sets no version header (`v2_list_envelopes`).
-/

namespace BeaconPool

variable {σ : Type}

/-! ## The filter loop -/

/-- Whether `att` is of the record the loop expects: Electra iff `electra`. -/
def Att.isExpected (electra : Bool) : Att → Bool
  | .phase0 _ => !electra
  | .electra _ => electra

@[simp] theorem Att.isExpected_phase0 (electra : Bool) (att : Eth.Attestation) :
    (Att.phase0 att).isExpected electra = !electra := rfl

@[simp] theorem Att.isExpected_electra (electra : Bool) (att : Eth.AttestationElectra) :
    (Att.electra att).isExpected electra = electra := rfl

/-- The list item an attestation of the expected record is converted to. -/
def Att.toApiItem (lib : Library) : Att → ApiItem
  | .phase0 att => .attestation (lib.attFromConsensus att)
  | .electra att => .attestationElectra (lib.attElectraFromConsensus att)

@[simp] theorem Att.toApiItem_phase0 (lib : Library) (att : Eth.Attestation) :
    (Att.phase0 att).toApiItem lib = .attestation (lib.attFromConsensus att) := rfl

@[simp] theorem Att.toApiItem_electra (lib : Library) (att : Eth.AttestationElectra) :
    (Att.electra att).toApiItem lib = .attestationElectra (lib.attElectraFromConsensus att) := rfl

/-- Whether a slashing is of the record the loop expects: Electra iff `electra`. -/
def AttSlashing.isExpected (electra : Bool) : AttSlashing → Bool
  | .phase0 _ => !electra
  | .electra _ => electra

@[simp] theorem AttSlashing.isExpected_phase0 (electra : Bool) (s : Eth.AttesterSlashing) :
    (AttSlashing.phase0 s).isExpected electra = !electra := rfl

@[simp] theorem AttSlashing.isExpected_electra (electra : Bool) (s : Eth.AttesterSlashingElectra) :
    (AttSlashing.electra s).isExpected electra = electra := rfl

/-- The list item a slashing of the expected record is converted to. -/
def AttSlashing.toApiItem (lib : Library) : AttSlashing → ApiItem
  | .phase0 s => .attesterSlashing (lib.attesterSlashingFromConsensus s)
  | .electra s => .attesterSlashingElectra (lib.attesterSlashingElectraFromConsensus s)

@[simp] theorem AttSlashing.toApiItem_phase0 (lib : Library) (s : Eth.AttesterSlashing) :
    (AttSlashing.phase0 s).toApiItem lib = .attesterSlashing (lib.attesterSlashingFromConsensus s) :=
  rfl

@[simp] theorem AttSlashing.toApiItem_electra (lib : Library) (s : Eth.AttesterSlashingElectra) :
    (AttSlashing.electra s).toApiItem lib =
      .attesterSlashingElectra (lib.attesterSlashingElectraFromConsensus s) := rfl

/-- `GetAttesterSlashings`: every slashing converted in pool order, or an error at the first
Electra one. -/
theorem convertAttesterSlashings_eq (lib : Library) (slashings : List AttSlashing) :
    convertAttesterSlashings lib slashings =
      if slashings.all (AttSlashing.isExpected false) then
        .ok (slashings.map (AttSlashing.toApiItem lib))
      else .error "Unable to convert slashing of type *eth.AttesterSlashingElectra" := by
  induction slashings with
  | nil => rfl
  | cons slashing rest inductionHypothesis =>
    cases all : rest.all (AttSlashing.isExpected false) <;> cases slashing <;>
      simp [convertAttesterSlashings, inductionHypothesis, all, Except.map, AttSlashing.typeName]

/-- `GetAttesterSlashingsV2`: every slashing appended in pool order, or an error naming the
first of the other record; an empty pool leaves the slice as it was, `nil` for the handler. -/
theorem collectAttesterSlashings_eq (lib : Library) (electra : Bool) (slashings : List AttSlashing)
    (attStructs : GoSlice ApiItem) :
    collectAttesterSlashings lib electra slashings attStructs =
      if slashings.all (AttSlashing.isExpected electra) then
        .ok (if slashings = [] then attStructs
          else GoSlice.make (attStructs.items ++ slashings.map (AttSlashing.toApiItem lib)))
      else .error ("Unable to convert slashing of type " ++
        ((slashings.find? fun slashing => !slashing.isExpected electra).map AttSlashing.typeName).getD "" ++
        if electra then " to an Electra slashing" else " to a Phase0 slashing") := by
  induction slashings generalizing attStructs with
  | nil => simp [collectAttesterSlashings]
  | cons slashing rest inductionHypothesis =>
    cases all : rest.all (AttSlashing.isExpected electra) <;> cases electra <;> cases slashing <;>
      simp [collectAttesterSlashings, inductionHypothesis, all, GoSlice.append,
        AttSlashing.typeName] <;>
      rintro rfl <;> rfl

/-- Both slashing list loops answer with every pooled slashing, converted, in pool order, when
all are of the expected record, and otherwise with the error naming the first that is not. -/
theorem attester_slashing_lists_exact (lib : Library) (slashings : List AttSlashing) :
    (convertAttesterSlashings lib slashings =
      if slashings.all (AttSlashing.isExpected false) then .ok (slashings.map (AttSlashing.toApiItem lib))
      else .error "Unable to convert slashing of type *eth.AttesterSlashingElectra") ∧
    ∀ electra, collectAttesterSlashings lib electra slashings GoSlice.nil =
      if slashings.all (AttSlashing.isExpected electra) then
        .ok (if slashings = [] then GoSlice.nil else GoSlice.make (slashings.map (AttSlashing.toApiItem lib)))
      else .error ("Unable to convert slashing of type " ++
        ((slashings.find? fun slashing => !slashing.isExpected electra).map AttSlashing.typeName).getD "" ++
        if electra then " to an Electra slashing" else " to a Phase0 slashing") :=
  ⟨convertAttesterSlashings_eq lib slashings,
    fun electra => collectAttesterSlashings_eq lib electra slashings _⟩

/-! ## Committee filtering of Electra attestations -/

/-- The Electra attestation of committee 1 whose `Data.CommitteeIndex` is 0, as on chain. -/
def committeeOneElectra : Eth.AttestationElectra := ⟨[true], ⟨0, 0⟩, [], [false, true]⟩

def electraHead : BeaconState := ⟨.electra, 0, 0⟩

/-- An Electra head whose unaggregated pool holds `committeeOneElectra`. -/
def committeeOnePool : World Unit :=
  { World.succeeding electraHead with unaggregatedAttestations := fun _ => (.ok [.electra committeeOneElectra], ()) }

def committeeOneQuery : Request :=
  ⟨fun _ => "", fun name => if name = "committee_index" then "1" else "", ""⟩

/-- The attestation of committee 1 is left out of the listing of committee 1. -/
theorem electra_committee_filter_reads_data_index :
    committeeOneElectra.getCommitteeIndex = .ok 1 ∧
      ((listAttestationsV2 default committeeOneQuery).run committeeOnePool ()).trace =
        [.headStateReadOnly (.ok electraHead), .aggregatedAttestations [],
          .unaggregatedAttestations (.ok [.electra committeeOneElectra]),
          .write (.writeJson ⟨"electra", .array []⟩)] :=
  ⟨rfl, rfl⟩

/-! ## The V2 envelopes -/

def noQueryRequest : Request := ⟨fun _ => "", fun _ => "", ""⟩

/-- With empty pools on an Electra head, `GetAttesterSlashingsV2` answers `data: null`, and
`ListAttestationsV2` answers without the version header. -/
theorem v2_list_envelopes :
    ((getAttesterSlashingsV2 default).run (World.succeeding electraHead) ()).trace =
        [.headStateReadOnly (.ok electraHead), .pendingAttesterSlashings electraHead [],
          .write (.setHeader versionHeader "electra"), .write (.writeJson ⟨"electra", .null⟩)] ∧
      ((listAttestationsV2 default noQueryRequest).run (World.succeeding electraHead) ()).trace =
        [.headStateReadOnly (.ok electraHead), .aggregatedAttestations [], .unaggregatedAttestations (.ok []),
          .write (.writeJson ⟨"electra", .array []⟩)] :=
  ⟨rfl, rfl⟩

end BeaconPool
