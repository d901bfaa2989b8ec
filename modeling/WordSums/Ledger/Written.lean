import WordSums.Json.Timestamp
import WordSums.Ledger.Snapshot

/-!
# Snapshots as text

A snapshot is written as a JSON object over several lines, its members and those of each record in a
fixed order. Reading accepts members in any order and passes over unknown ones; in place of an
object the values alone may stand, in their order. What was read must then be consistent.
-/

namespace WordSums

open WordSums.Json

namespace FailureRecord

def document (record : FailureRecord) : Document := Document.object [
  ("expression", .string record.expression),
  ("method", .string record.method.label),
  ("kind", .string record.kind.label),
  ("frequency", .integer record.frequency.toNat),
  ("first_seen", record.firstSeen.document),
  ("last_seen", record.lastSeen.document)]

structure Draft where
  expression : Option String := none
  method : Option Method := none
  kind : Option FaultKind := none
  frequency : Option UInt64 := none
  firstSeen : Option Time.Timestamp := none
  lastSeen : Option Time.Timestamp := none

def members : List (Member Draft) := [
  .of "expression" Draft.expression (fun draft value => { draft with expression := some value }) Reader.string,
  .of "method" Draft.method (fun draft value => { draft with method := some value }) (Reader.label Method.ofLabel?),
  .of "kind" Draft.kind (fun draft value => { draft with kind := some value }) (Reader.label FaultKind.ofLabel?),
  .of "frequency" Draft.frequency (fun draft value => { draft with frequency := some value }) Reader.unsigned64,
  .of "first_seen" Draft.firstSeen (fun draft value => { draft with firstSeen := some value }) Time.Timestamp.reader,
  .of "last_seen" Draft.lastSeen (fun draft value => { draft with lastSeen := some value }) Time.Timestamp.reader]

/-- The record of a draft in which no member is missing. -/
def Draft.finish? (draft : Draft) : Option FailureRecord := do
  some ⟨← draft.expression, ← draft.method, ← draft.kind, ← draft.frequency, ← draft.firstSeen,
    ← draft.lastSeen⟩

def reader : Reader FailureRecord := Record.read members false {} Draft.finish?

end FailureRecord

namespace Snapshot

def document (snapshot : Snapshot) : Document := Document.object [
  ("version", .integer snapshot.version.toNat),
  ("id", .string snapshot.id.text),
  ("timestamp", snapshot.time.document),
  ("records", .array (snapshot.records.map FailureRecord.document))]

structure Draft where
  version : Option UInt32 := none
  id : Option SnapshotId := none
  time : Option Time.Timestamp := none
  records : Option (List FailureRecord) := none

def members : List (Member Draft) := [
  .of "version" Draft.version (fun draft value => { draft with version := some value }) Reader.unsigned32,
  .of "id" Draft.id (fun draft value => { draft with id := some value }) (Reader.written SnapshotId.read?),
  .of "timestamp" Draft.time (fun draft value => { draft with time := some value }) Time.Timestamp.reader,
  .of "records" Draft.records (fun draft value => { draft with records := some value })
    (Reader.list FailureRecord.reader)]

/-- The snapshot of a draft in which no member is missing. -/
def Draft.finish? (draft : Draft) : Option Snapshot := do
  some ⟨← draft.version, ← draft.id, ← draft.time, ← draft.records⟩

def reader : Reader Snapshot := Record.read members false {} Draft.finish?

def toJson (snapshot : Snapshot) : String :=
  snapshot.document.pretty

def ofJson (text : String) : Except SnapshotFault Snapshot :=
  match readWhole reader text with
  | .ok snapshot => snapshot.check
  | .error _ => .error .unreadable

end Snapshot

end WordSums
