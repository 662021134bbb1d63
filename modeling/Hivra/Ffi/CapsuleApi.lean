import Hivra.Ffi.LedgerImport
import Hivra.Ffi.LedgerJson
import Hivra.Ffi.LocalCalls

namespace Hivra

open ByteString JsonDocument Serde

/-!
# The exported calls around a capsule

The calls with which the host makes a capsule, imports and exports its ledger, and asks for
its owner.  A text argument is a document, none where it is not one.
-/

section CapsuleApi

variable {Seed : Type} (platform : Platform Seed)

/-- What the outside answers while a capsule is made: whether the seed could be stored, and
    the clock for its birth and for each starter. -/
structure CreateOutside where
  stored : Bool
  birthClock : Option UInt64
  starterClock : ℕ → Option UInt64

def networkOfByte (value : UInt8) : Network := if value = 0 then .hood else .neste

def capsuleTypeOfByte (value : UInt8) : CapsuleType := if value = 1 then .relay else .leaf

/-- Store the seed and put a new capsule into the runtime. -/
def hivraCapsuleCreate (outside : CreateOutside) (state : RuntimeState) (seed : Seed)
    (network capsuleType ownerMode : UInt8) : ℤ × RuntimeState :=
  if outside.stored then
    match initRuntimeState platform outside.birthClock outside.starterClock state seed
        (networkOfByte network) (capsuleTypeOfByte capsuleType)
        (CapsuleOwnerMode.fromU8 ownerMode) with
    | (.ok (), state) => (0, state)
    | (.error _, state) => (-2, state)
  else (-1, state)

/-- Parse a ledger and take it over. -/
def hivraImportLedger (lossy : Literal → Option UInt64) (toVec : Ledger → List UInt8)
    (outside : Outside Seed) (state : RuntimeState) (json : Option Document) : ℤ × RuntimeState :=
  match json with
  | none => (-3, state)
  | some doc =>
    match parseLedgerJson lossy doc with
    | .error _ => (-3, state)
    | .ok parsed =>
      match importRuntimeLedger platform toVec outside state parsed with
      | (.ok (), state) => (0, state)
      | (.error _, state) => (-3, state)

/-- The ledger in the runtime, as a document. -/
def hivraExportLedger (state : RuntimeState) : Option Document :=
  match exportRuntimeLedger platform.sha256 state with
  | .ok doc => some doc
  | .error _ => none

/-- The owner of the ledger in the runtime. -/
def hivraCapsuleRuntimeOwnerPublicKey (state : RuntimeState) : Option PubKey :=
  state.capsule.map Capsule.pubkey

/-- Whether a seed owns a ledger whose checks hold. -/
def hivraValidateBackupLedger (lossy : Literal → Option UInt64) (json : Option Document)
    (seed : Seed) : ℤ :=
  match json with
  | none => -3
  | some doc =>
    match parseLedgerJson lossy doc with
    | .error _ => -3
    | .ok ledger =>
      match platform.rootPublicKey seed, platform.nostrPublicKey seed with
      | some root, some nostr =>
        if ledger.owner ≠ root ∧ ledger.owner ≠ nostr then -3
        else
          match validateImportedLedger platform ledger ledger.owner true with
          | .error _ => -3
          | .ok () =>
            if ledger.isContinuousV5 then
              match Engine.verifyLedgerV5 platform ledger with
              | .error _ => -3
              | .ok _ => 0
            else 0
      | _, _ => -3

end CapsuleApi

end Hivra
