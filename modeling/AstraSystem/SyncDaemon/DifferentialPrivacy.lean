import Mathlib.Algebra.Order.Ring.Int
import Mathlib.Data.Rat.Defs
import AstraSystem.SyncDaemon.Types

/-!
# Noise on sales analytics (`differential_privacy.rs`)

The generator's samples, rounded to integers, are arguments.
-/

namespace SyncDaemon.DifferentialPrivacy

/-- `serde_json::Value` -/
inductive Json where
  | null
  | bool (b : Bool)
  | number (n : ℤ)
  | string (s : String)
  | array (items : List Json)
  | object (fields : List (String × Json))

namespace Json

def get (self : Json) (key : String) : Option Json :=
  match self with
  | object fields => (fields.find? fun f => f.1 = key).map Prod.snd
  | _ => none

def asStr : Json → Option String
  | string s => some s
  | _ => none

/-- Assign through `get_mut(key)`. -/
def set (self : Json) (key : String) (value : Json) : Json :=
  match self with
  | object fields => object (fields.map fun f => if f.1 = key then (f.1, value) else f)
  | json => json

end Json

structure SalesAggregate where
  windowStartMs : UInt64
  windowEndMs : UInt64
  totalCents : UInt64
  transactionCount : UInt64
  itemCount : UInt64
  deriving DecidableEq, Repr

/-- `serde_json::from_value` and `to_value` on aggregates, with the texts of their errors. -/
structure AggregateSerde where
  fromValue : Json → Except String SalesAggregate
  toValue : SalesAggregate → Except String Json

/-- What the generator supplies for one aggregate. -/
structure Noise where
  totalCents : ℤ
  transactionCount : ℤ
  itemCount : ℤ
  deriving DecidableEq, Repr

def defaultEpsilon : ℚ := 1

def defaultTotalCentsSensitivity : ℚ := 100000

def defaultTransactionCountSensitivity : ℚ := 1

def defaultItemCountSensitivity : ℚ := 100

def saturatingAddI128 (a b : ℤ) : ℤ := max (-2 ^ 127) (min (2 ^ 127 - 1) (a + b))

/-- The cast to `u64` at the end truncates. -/
def addLaplaceNoise (noise : ℤ) (value : UInt64) (sensitivity epsilon : ℚ) :
    Except AstraSyncError UInt64 :=
  if epsilon ≤ 0 then .error (.differentialPrivacy "epsilon must be positive")
  else if sensitivity < 0 then .error (.differentialPrivacy "sensitivity must be non-negative")
  else if sensitivity = 0 then .ok value
  else
    let noised := saturatingAddI128 value.toNat noise
    .ok (UInt64.ofNat (max noised 0).toNat)

def privatizeSalesAggregate (noise : Noise) (aggregate : SalesAggregate) (epsilon : ℚ) :
    Except AstraSyncError SalesAggregate := do
  let totalCents ←
    addLaplaceNoise noise.totalCents aggregate.totalCents defaultTotalCentsSensitivity epsilon
  let transactionCount ← addLaplaceNoise noise.transactionCount aggregate.transactionCount
    defaultTransactionCountSensitivity epsilon
  let itemCount ←
    addLaplaceNoise noise.itemCount aggregate.itemCount defaultItemCountSensitivity epsilon
  .ok { aggregate with
    totalCents := totalCents
    transactionCount := transactionCount
    itemCount := itemCount }

/-- The payloads that noise is added to. -/
def isSalesAggregate (payload : Json) : Bool :=
  (payload.get "event_type").bind Json.asStr == some "sales_aggregate" &&
    (payload.get "metadata").isSome

def privatizeAnalyticsPayload (serde : AggregateSerde) (noise : Noise) (payload : Json)
    (epsilon : ℚ) : Except AstraSyncError Json :=
  if (payload.get "event_type").bind Json.asStr = some "sales_aggregate" then
    match payload.get "metadata" with
    | some metadata => do
      let aggregate ← (serde.fromValue metadata).mapError .serialization
      let privatized ← privatizeSalesAggregate noise aggregate epsilon
      let value ← (serde.toValue privatized).mapError .serialization
      .ok (payload.set "metadata" value)
    | none => .ok payload
  else .ok payload

/-- Other payloads pass unchanged. -/
theorem privatize_plain (serde : AggregateSerde) (noise : Noise) {payload : Json}
    (h : isSalesAggregate payload = false) (epsilon : ℚ) :
    privatizeAnalyticsPayload serde noise payload epsilon = .ok payload := by
  unfold privatizeAnalyticsPayload
  split
  · rename_i event
    cases hm : payload.get "metadata" with
    | none => rfl
    | some metadata => simp [isSalesAggregate, event, hm] at h
  · rfl

end SyncDaemon.DifferentialPrivacy
