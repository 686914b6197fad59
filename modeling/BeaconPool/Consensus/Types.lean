import Mathlib.Data.List.Basic

/-! # Consensus objects handled by the pool endpoints

The `eth` (proto) records that `handlers_pool.go` reads, stages and broadcasts. Of the records
the handlers look into they keep the fields read: the bits, data and signature of an
attestation, the epoch and validator of an exit, the slot of a slashing's first attestation or
header. The other fields kept (those of a sync-committee message and of a BLS change, an exit's
signature, the attesting indices and signature of an indexed attestation, a header's proposer
and signature) are read by no handler, which passes these records on whole; they only let two
operations differ. Everything a collaborator reads from them is left to that collaborator. The
fork order of `runtime/version` and the two attestation helpers the handlers call
(`IsAggregated`, `GetCommitteeIndex`) are modelled from the spec, since their package is not
part of the source.
-/

namespace BeaconPool

/-- Byte strings (`[]byte`). -/
abbrev Bytes := List UInt8

/-! ## Fork versions -/

/-- Modelled from the spec: the ordered named forks of `runtime/version`. -/
inductive Version where
  | phase0
  | altair
  | bellatrix
  | capella
  | deneb
  | electra
  deriving DecidableEq, Repr, Inhabited

namespace Version

/-- The `int` that `runtime/version` gives each fork. -/
def toNat : Version → Nat
  | phase0 => 0
  | altair => 1
  | bellatrix => 2
  | capella => 3
  | deneb => 4
  | electra => 5

instance : LE Version := ⟨fun a b => a.toNat ≤ b.toNat⟩

instance (a b : Version) : Decidable (a ≤ b) := inferInstanceAs (Decidable (a.toNat ≤ b.toNat))

/-- Modelled from the spec: `version.String`, the fork name of the `version` field and the
`Eth-Consensus-Version` header. -/
def string : Version → String
  | phase0 => "phase0"
  | altair => "altair"
  | bellatrix => "bellatrix"
  | capella => "capella"
  | deneb => "deneb"
  | electra => "electra"

/-- Modelled from the spec: `version.FromString`, which fails on every name that is not a
fork's, the empty header value included. -/
def fromString (name : String) : Except String Version :=
  match [phase0, altair, bellatrix, capella, deneb, electra].find? (fun v => v.string == name) with
  | some v => .ok v
  | none => .error (name ++ ": version name doesn't map to a known value in the enum")

theorem fromString_empty : ∃ message, fromString "" = .error message := ⟨_, rfl⟩

theorem ne_empty_of_fromString_ok {name : String} {v : Version} (parsed : fromString name = .ok v) :
    name ≠ "" := by
  rintro rfl
  cases parsed

end Version

/-! ## Attestations -/

namespace Eth

structure AttestationData where
  slot : Nat
  committeeIndex : Nat
  deriving DecidableEq, Repr, Inhabited

structure Attestation where
  aggregationBits : List Bool
  data : AttestationData
  signature : Bytes
  deriving DecidableEq, Repr, Inhabited

structure AttestationElectra where
  aggregationBits : List Bool
  data : AttestationData
  signature : Bytes
  committeeBits : List Bool
  deriving DecidableEq, Repr, Inhabited

end Eth

/-- The `ethpb.Att` interface: what the attestation pool stores and enumerates. -/
inductive Att where
  | phase0 (att : Eth.Attestation)
  | electra (att : Eth.AttestationElectra)
  deriving DecidableEq, Repr, Inhabited

namespace Att

def aggregationBits : Att → List Bool
  | phase0 att => att.aggregationBits
  | electra att => att.aggregationBits

def data : Att → Eth.AttestationData
  | phase0 att => att.data
  | electra att => att.data

end Att

/-- Modelled from the spec: `corehelpers.IsAggregated`, "aggregated iff more than one
aggregation bit set". -/
def isAggregated (att : Att) : Bool :=
  1 < att.aggregationBits.count true

/-- `Bitvector.BitIndices`: the positions of the set bits, in increasing order. -/
def bitIndices : List Bool → List Nat
  | [] => []
  | bit :: bits => (if bit then [0] else []) ++ (bitIndices bits).map (· + 1)

/-- Modelled from the spec: `AttestationElectra.GetCommitteeIndex`, the single committee
that the committee bits designate; any other number of set bits is an error. -/
def Eth.AttestationElectra.getCommitteeIndex (att : Eth.AttestationElectra) : Except String Nat :=
  match bitIndices att.committeeBits with
  | [index] => .ok index
  | indices =>
    .error ("exactly 1 committee index must be set but " ++ toString indices.length ++ " were set")

/-! ## The other operations -/

namespace Eth

structure VoluntaryExit where
  epoch : Nat
  validatorIndex : Nat
  deriving DecidableEq, Repr, Inhabited

structure SignedVoluntaryExit where
  exit : VoluntaryExit
  signature : Bytes
  deriving DecidableEq, Repr, Inhabited

structure SyncCommitteeMessage where
  slot : Nat
  blockRoot : Bytes
  validatorIndex : Nat
  signature : Bytes
  deriving DecidableEq, Repr, Inhabited

structure BLSToExecutionChange where
  validatorIndex : Nat
  fromBlsPubkey : Bytes
  toExecutionAddress : Bytes
  deriving DecidableEq, Repr, Inhabited

structure SignedBLSToExecutionChange where
  message : BLSToExecutionChange
  signature : Bytes
  deriving DecidableEq, Repr, Inhabited

structure IndexedAttestation where
  attestingIndices : List Nat
  data : AttestationData
  signature : Bytes
  deriving DecidableEq, Repr, Inhabited

structure AttesterSlashing where
  attestation1 : IndexedAttestation
  attestation2 : IndexedAttestation
  deriving DecidableEq, Repr, Inhabited

structure AttesterSlashingElectra where
  attestation1 : IndexedAttestation
  attestation2 : IndexedAttestation
  deriving DecidableEq, Repr, Inhabited

structure BeaconBlockHeader where
  slot : Nat
  proposerIndex : Nat
  deriving DecidableEq, Repr, Inhabited

structure SignedBeaconBlockHeader where
  header : BeaconBlockHeader
  signature : Bytes
  deriving DecidableEq, Repr, Inhabited

structure ProposerSlashing where
  header1 : SignedBeaconBlockHeader
  header2 : SignedBeaconBlockHeader
  deriving DecidableEq, Repr, Inhabited

end Eth

/-- The `eth.AttSlashing` interface, one case per fork variant. -/
inductive AttSlashing where
  | phase0 (slashing : Eth.AttesterSlashing)
  | electra (slashing : Eth.AttesterSlashingElectra)
  deriving DecidableEq, Repr, Inhabited

def AttSlashing.firstAttestation : AttSlashing → Eth.IndexedAttestation
  | phase0 slashing => slashing.attestation1
  | electra slashing => slashing.attestation1

/-! ## State -/

/-- A read-only head-state snapshot: its fork and slot, and `root` standing for the rest of
the state, which only the collaborators read. -/
structure BeaconState where
  version : Version
  slot : Nat
  root : Nat
  deriving DecidableEq, Repr, Inhabited

/-- A validator record as `ValidatorAtIndexReadOnly` returns it; only collaborators read it. -/
structure Validator where
  index : Nat
  root : Nat
  deriving DecidableEq, Repr, Inhabited

end BeaconPool
