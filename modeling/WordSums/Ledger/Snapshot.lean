import WordSums.Ledger.Record
import WordSums.Ledger.SnapshotId

/-!
# Snapshots

A snapshot is a copy of all records at one moment, with the version of its format and a name of its
own. One that comes from outside is only accepted if it is consistent: its version is the supported
one, no question has two records, every record counts at least one failure, and none was last seen
before it was first seen. The version is looked at before the records, the records in their order,
and of each record these three points in their order; the first departure is the one reported.
-/

namespace WordSums

open WordSums.Time

structure Snapshot where
  version : UInt32
  id : SnapshotId
  time : Timestamp
  records : List FailureRecord
deriving DecidableEq

inductive RecordFault where
  | duplicate (expression : String)
  | zeroFrequency (expression : String)
  | seenBackwards (expression : String)
deriving DecidableEq, Repr

def RecordFault.message : RecordFault → String
  | duplicate expression => "duplicate record for " ++ Text.quote expression
  | zeroFrequency expression => "record for " ++ Text.quote expression ++ " has zero frequency"
  | seenBackwards expression => "record for " ++ Text.quote expression ++ " was last seen before it was first seen"

inductive SnapshotFault where
  | unreadable
  | unsupportedVersion (found : UInt32)
  | inconsistent (fault : RecordFault)
deriving DecidableEq, Repr

namespace Snapshot

def supportedVersion : UInt32 := 1

/-- The first departure among records, given the questions that already have one. -/
def recordFault? (seen : List String) : List FailureRecord → Option RecordFault
  | [] => none
  | record :: rest =>
    if record.expression ∈ seen then some (.duplicate record.expression)
    else if record.frequency = 0 then some (.zeroFrequency record.expression)
    else if ¬record.firstSeen ≤ record.lastSeen then some (.seenBackwards record.expression)
    else recordFault? (record.expression :: seen) rest

/-- Accepts a consistent snapshot. -/
def check (snapshot : Snapshot) : Except SnapshotFault Snapshot :=
  if snapshot.version ≠ supportedVersion then .error (.unsupportedVersion snapshot.version)
  else match recordFault? [] snapshot.records with
    | some fault => .error (.inconsistent fault)
    | none => .ok snapshot

end Snapshot

def SnapshotFault.message : SnapshotFault → String
  | unreadable => "Deserialization failed"
  | unsupportedVersion found => s!"Unsupported snapshot version {found}, supported: {Snapshot.supportedVersion}"
  | inconsistent fault => "Snapshot validation failed: " ++ fault.message

end WordSums
