import WordSums.Journal
import WordSums.Ledger.Snapshot

/-!
# The ledger of failures

The ledger holds one record for every question that has failed, sorted by the question. Counting a
failure finds the question's record or opens one, adds one to its frequency and notes when that was.
The clock is read before the record is found, so the reading is given from outside; where several
clients count at once, readings may come in another order than they were taken. A frequency that has
reached the greatest number cannot be counted further, and then nothing changes.
-/

namespace WordSums

open WordSums.Time

/-- Records of questions, sorted by the question. -/
structure Ledger where
  records : List FailureRecord
deriving DecidableEq

/-- The frequency of a question has reached its greatest number. -/
structure CounterOverflow where
  expression : String
deriving DecidableEq, Repr

def CounterOverflow.message (overflow : CounterOverflow) : String :=
  "error count for " ++ Text.quote overflow.expression ++ " overflowed"

namespace Ledger

def empty : Ledger := ⟨[]⟩

/-- Puts a record in its place among sorted records; one for the same question gives way. -/
def insertSorted (record : FailureRecord) : List FailureRecord → List FailureRecord
  | [] => [record]
  | other :: rest =>
    if record.expression < other.expression then record :: other :: rest
    else if record.expression = other.expression then record :: rest
    else other :: insertSorted record rest

def insert (ledger : Ledger) (record : FailureRecord) : Ledger :=
  ⟨insertSorted record ledger.records⟩

def get? (ledger : Ledger) (expression : String) : Option FailureRecord :=
  ledger.records.find? fun record => record.expression = expression

def ofSnapshot (snapshot : Snapshot) : Ledger :=
  snapshot.records.foldl insert empty

/-- A snapshot of the ledger, under a name and a time of its own. -/
def snapshot (ledger : Ledger) (id : SnapshotId) (now : Timestamp) : Snapshot :=
  ⟨Snapshot.supportedVersion, id, now, ledger.records⟩

/-- The record that a question has, or the one with which it begins. -/
def recordFor (ledger : Ledger) (expression : String) (method : Method) (kind : FaultKind) (now : Timestamp) :
    FailureRecord :=
  (ledger.get? expression).getD ⟨expression, method, kind, 0, now, now⟩

def countedEntry (record : FailureRecord) : Entry :=
  ⟨.trace, "mathq::store", "Counted failure",
    [("expression", record.expression), ("frequency", toString record.frequency)]⟩

/-- Counts a failure at a reading of the clock. The answer is the new frequency. -/
def increment (ledger : Ledger) (expression : String) (method : Method) (kind : FaultKind) (now : Timestamp) :
    Traced (Except CounterOverflow UInt64 × Ledger) :=
  let record := ledger.recordFor expression method kind now
  if record.frequency.toNat + 1 < UInt64.size then
    let counted := { record with frequency := record.frequency + 1, lastSeen := now }
    ⟨(.ok counted.frequency, ledger.insert counted), [countedEntry counted]⟩
  else ⟨(.error ⟨expression⟩, ledger), []⟩

end Ledger

end WordSums
