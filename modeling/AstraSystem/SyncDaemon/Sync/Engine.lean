import AstraSystem.Lib.Assoc
import AstraSystem.SyncDaemon.Cloud.FlushToCloud

/-!
# The local sync loops (`sync/engine.rs`)

Each tick serializes one part of the in-memory state, drops the bytes (the call
that would gossip them is commented out) and marks rows clean.
-/

namespace SyncDaemon.Sync

open Assoc (Map)
open Cloud (Codec)

structure LWWRegister (P : Type) where
  value : P
  lamportTs : UInt64
  origin : KioskId
  wallclockTs : UInt64

structure Caches (P : Type) where
  inventory : Map String (LWWRegister P)
  carts : Map String (LWWRegister P)
  transactions : List (SyncRecord P)
  analytics : List (SyncRecord P)

variable {P : Type}

def Caches.empty : Caches P := ⟨∅, ∅, [], []⟩

/-- The record a loop makes of a cache entry. The signature is left to the mesh layer. -/
def LWWRegister.toRecord (reg : LWWRegister P) (dataType : DataType) (id : String) : SyncRecord P :=
  ⟨dataType, id, reg.origin, reg.lamportTs, reg.wallclockTs, reg.value, []⟩

/-- The loops over a queue: entries are taken off before they are serialized. -/
def drain (codec : Codec P) : List (SyncRecord P) → List (SyncRecord P) × Bool
  | [] => ([], true)
  | rec :: rest =>
    match codec.recordToVec rec with
    | some _ => drain codec rest
    | none => (rest, false)

/-- One run of a loop body, by the loops' names; a `SyncNow` command runs one as well. -/
inductive Tick where
  | immediateSync
  | batchedSync
  | delayedSync
  deriving DecidableEq, Repr

/-- The types a tick marks clean at its end. -/
def Tick.types : Tick → List DataType
  | immediateSync => [.inventory]
  | batchedSync => [.cart, .transaction]
  | delayedSync => [.analytics]

/-- What a tick does before its first `flush`, and whether it gets there. -/
def Tick.serialize (codec : Codec P) (caches : Caches P) : Tick → Caches P × Bool
  | immediateSync =>
    (caches, caches.inventory.entries.all fun e =>
      (codec.valueToVec e.2.value).isSome &&
        (codec.recordToVec (e.2.toRecord .inventory e.1)).isSome)
  | batchedSync =>
    if caches.carts.entries.all fun e => (codec.recordToVec (e.2.toRecord .cart e.1)).isSome then
      let (rest, ok) := drain codec caches.transactions
      ({ caches with transactions := rest }, ok)
    else (caches, false)
  | delayedSync =>
    let (rest, ok) := drain codec caches.analytics
    ({ caches with analytics := rest }, ok)

end SyncDaemon.Sync
