import BeaconPool.Consensus.Types

/-! # Requests, wire records and responses

The client-facing side of the endpoints: the `structs` records the JSON bodies decode into,
Go slices (whose nil value `json.Marshal` writes as `null`), the list responses, the
indexed-failure errors of `api/server`, and the four ways `httputil` writes a response.

The `structs` records keep each top-level JSON field as its raw text: only the conversions
to and from the `eth` records read them, and those conversions are collaborators.
-/

namespace BeaconPool

namespace Structs

structure Attestation where
  aggregationBits : String
  data : String
  signature : String
  deriving DecidableEq, Repr, Inhabited

structure AttestationElectra where
  aggregationBits : String
  data : String
  signature : String
  committeeBits : String
  deriving DecidableEq, Repr, Inhabited

structure SignedVoluntaryExit where
  message : String
  signature : String
  deriving DecidableEq, Repr, Inhabited

structure SyncCommitteeMessage where
  slot : String
  beaconBlockRoot : String
  validatorIndex : String
  signature : String
  deriving DecidableEq, Repr, Inhabited

structure SignedBLSToExecutionChange where
  message : String
  signature : String
  deriving DecidableEq, Repr, Inhabited

structure AttesterSlashing where
  attestation1 : String
  attestation2 : String
  deriving DecidableEq, Repr, Inhabited

structure AttesterSlashingElectra where
  attestation1 : String
  attestation2 : String
  deriving DecidableEq, Repr, Inhabited

structure ProposerSlashing where
  signedHeader1 : String
  signedHeader2 : String
  deriving DecidableEq, Repr, Inhabited

end Structs

/-! ## Go slices and their JSON encoding -/

/-- A Go slice: its elements, and whether it is the nil slice, which has none. -/
structure GoSlice (α : Type) where
  items : List α
  isNil : Bool
  nil_empty : isNil = true → items = []

namespace GoSlice

/-- `var s []T`. -/
def nil : GoSlice α := ⟨[], true, fun _ => rfl⟩

/-- `make([]T, 0, n)`, and `make([]T, len(xs))` filled from `xs`. -/
def make (items : List α) : GoSlice α := ⟨items, false, nofun⟩

/-- `append(s, x)`, never nil. -/
def append (s : GoSlice α) (x : α) : GoSlice α := make (s.items ++ [x])

@[simp] theorem nil_items : (nil : GoSlice α).items = [] := rfl
@[simp] theorem nil_isNil : (nil : GoSlice α).isNil = true := rfl
@[simp] theorem make_items (items : List α) : (make items).items = items := rfl
@[simp] theorem make_isNil (items : List α) : (make items).isNil = false := rfl
@[simp] theorem append_items (s : GoSlice α) (x : α) : (s.append x).items = s.items ++ [x] := rfl
@[simp] theorem append_isNil (s : GoSlice α) (x : α) : (s.append x).isNil = false := rfl

end GoSlice

/-- An element of a list response's `data`, tagged with the `structs` type it was built as. -/
inductive ApiItem where
  | attestation (att : Structs.Attestation)
  | attestationElectra (att : Structs.AttestationElectra)
  | signedVoluntaryExit (exit : Structs.SignedVoluntaryExit)
  | signedBLSToExecutionChange (change : Structs.SignedBLSToExecutionChange)
  | attesterSlashing (slashing : Structs.AttesterSlashing)
  | attesterSlashingElectra (slashing : Structs.AttesterSlashingElectra)
  | proposerSlashing (slashing : Structs.ProposerSlashing)
  deriving DecidableEq, Repr

/-- The JSON text of a slice: `null` or an array. -/
inductive JsonData where
  | null
  | array (items : List ApiItem)
  deriving DecidableEq, Repr

/-- `json.Marshal` of a slice; it cannot fail on slices of `structs` records. -/
def GoSlice.marshal (s : GoSlice ApiItem) : JsonData :=
  if s.isNil then .null else .array s.items

@[simp] theorem GoSlice.marshal_make (items : List ApiItem) :
    (GoSlice.make items).marshal = .array items := rfl

@[simp] theorem GoSlice.marshal_append (s : GoSlice ApiItem) (x : ApiItem) :
    (s.append x).marshal = .array (s.items ++ [x]) := rfl

/-! ## Responses -/

structure IndexedVerificationFailure where
  index : Nat
  message : String
  deriving DecidableEq, Repr

structure IndexedVerificationFailureError where
  code : Nat
  message : String
  failures : List IndexedVerificationFailure
  deriving DecidableEq, Repr

/-- The list responses: `version` is omitted from the JSON when empty, `data` is the
marshalled slice. -/
structure ListResponse where
  version : String
  data : JsonData
  deriving DecidableEq, Repr

/-- What a handler does to its `http.ResponseWriter`. -/
inductive Write where
  | handleError (message : String) (code : Nat)
  | writeError (err : IndexedVerificationFailureError)
  | writeJson (response : ListResponse)
  | setHeader (key value : String)
  deriving DecidableEq, Repr

/-- The writes that send a status line and a body; `Header().Set` sends neither. -/
def Write.isStatus : Write → Bool
  | setHeader _ _ => false
  | _ => true

/-! ## Requests -/

/-- `api.VersionHeader`. -/
def versionHeader : String := "Eth-Consensus-Version"

/-- The outcome of `json.NewDecoder(r.Body).Decode`: `io.EOF` on an empty body, another
error, or the value. -/
inductive Decoded (α : Type) where
  | eof
  | error (message : String)
  | ok (value : α)
  deriving DecidableEq, Repr

/-- An HTTP request: `Header.Get`, `URL.Query().Get` (both `""` when absent), and the body. -/
structure Request where
  header : String → String
  query : String → String
  body : String

end BeaconPool
