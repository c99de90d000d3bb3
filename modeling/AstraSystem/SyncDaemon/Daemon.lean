import Mathlib.Logic.Function.Basic
import AstraSystem.SyncDaemon.Sync.Engine

/-!
# The daemon's tasks around one database

Writers, runs of the sync loops and calls of `flush_to_cloud` interleave, one
database statement or publish at a time. Two lists that the code does not keep
record what the writers have been promised: the current version of every record
an upsert made dirty, and the last payment queued for every token.
-/

namespace SyncDaemon

open Cloud Sync

structure Daemon (P : Type) where
  db : SyncDatabase P
  caches : Caches P
  stream : List (Published P)
  call : ℕ → FlushCall P
  /-- The types each run of a sync loop still has to mark clean. -/
  run : ℕ → List DataType
  owed : List (SyncRecord P)
  accepted : List OfflinePayment

inductive DaemonAction (P : Type) where
  | upsert (record : SyncRecord P)
  | queueOfflinePayment (p : OfflinePayment) (now : Int64)
  | flushToCloud (i : ℕ)
  | advance (i draw : ℕ) (acked : Bool)
  | tick (k : ℕ) (t : Tick)
  | markClean (k : ℕ)

variable {P : Type}

namespace Daemon

/-- The daemon over a database and caches of any content. -/
def start (db : SyncDatabase P) (caches : Caches P) : Daemon P where
  db := db
  caches := caches
  stream := []
  call _ := .idle
  run _ := []
  owed := (db.records.rows.filter fun r => r.dirty).map RecordRow.toRecord
  accepted := []

/-- A step of one of the tasks; one that is not due changes nothing. -/
def step (codec : Codec P) (cfg : CloudConfig) (w : Daemon P) : DaemonAction P → Daemon P
  | .upsert record =>
    { w with
      db := w.db.upsert record
      owed := w.owed.filter (fun v => v.id ≠ record.id) ++ [record] }
  | .queueOfflinePayment p now =>
    { w with
      db := w.db.queueOfflinePayment p now
      accepted := w.accepted.filter (fun q => q.tokenId ≠ p.tokenId) ++ [p] }
  | .flushToCloud i =>
    if (w.call i).isRunning then w else { w with call := Function.update w.call i .start }
  | .advance i draw acked =>
    let s := Flushing.advance codec cfg draw acked ⟨w.db, w.stream, w.call i⟩
    { w with db := s.db, stream := s.stream, call := Function.update w.call i s.call }
  | .tick k t =>
    if (w.run k).isEmpty then
      let (caches, ok) := t.serialize codec w.caches
      { w with caches := caches, run := Function.update w.run k (if ok then t.types else []) }
    else w
  | .markClean k =>
    match w.run k with
    | [] => w
    | d :: rest => { w with db := (w.db.flush d).1, run := Function.update w.run k rest }

end Daemon

end SyncDaemon
