import Hivra.Lib.Bytes

namespace Hivra

open ByteString

/-!
# Core primitives

The newtypes of the core crate over fixed-width byte strings, the starter and
network enumerations with their wire bytes, and the five slot positions.

* `StarterKind.fromU8_toByte`, `Network.fromU8_toByte` — the wire byte of an
  enumeration value reads back as that value.
-/

/-- A root or transport public key. -/
structure PubKey where
  bytes : Bytes 32
  deriving DecidableEq

/-- A signature over an event, an anchor or a ledger entry. -/
structure Signature where
  bytes : Bytes 64
  deriving DecidableEq

/-- The identifier of a starter. -/
structure StarterId where
  bytes : Bytes 32
  deriving DecidableEq

/-- A wall-clock reading in the unit of the caller; the order is that of `u64`. -/
abbrev Timestamp := UInt64

/-- The identifier an offer is known by. -/
abbrev InvitationId := Bytes 32

/-- The five starter kinds. -/
inductive StarterKind
  | juice
  | spark
  | seed
  | pulse
  | kick
  deriving DecidableEq

namespace StarterKind

/-- The wire byte of a starter kind. -/
def toByte : StarterKind → UInt8
  | juice => 0
  | spark => 1
  | seed => 2
  | pulse => 3
  | kick => 4

/-- The starter kind of a wire byte. -/
def fromU8 (value : UInt8) : Option StarterKind :=
  match value with
  | 0 => some juice
  | 1 => some spark
  | 2 => some seed
  | 3 => some pulse
  | 4 => some kick
  | _ => none

@[simp] theorem fromU8_toByte (kind : StarterKind) : fromU8 kind.toByte = some kind := by
  cases kind <;> rfl

end StarterKind

/-- Network type: Hood is the test network, Neste the main one. -/
inductive Network
  | hood
  | neste
  deriving DecidableEq

namespace Network

/-- The wire byte of a network. -/
def toByte : Network → UInt8
  | hood => 0
  | neste => 1

/-- The network of a wire byte. -/
def fromU8 (value : UInt8) : Option Network :=
  match value with
  | 0 => some hood
  | 1 => some neste
  | _ => none

@[simp] theorem fromU8_toByte (network : Network) : fromU8 network.toByte = some network := by
  cases network <;> rfl

end Network

/-- A slot position, below the capacity of five. -/
abbrev SlotIndex := Fin 5

end Hivra
