import WordSums.Ledger.Snapshot
import WordSums.Time.Written

/-!
# Snapshots as bytes

The compact form of a snapshot. Numbers have a fixed width, lowest byte first; texts, names and
lists follow their length; a method or a kind is the number of its place in its fixed order; and a
timestamp is its written form. Whatever follows the last record is ignored. What was read must then
be consistent.
-/

namespace WordSums

open WordSums.Time

namespace Binary

/-- The bytes of a number, lowest first. -/
def number : Nat → Nat → List UInt8
  | 0, _ => []
  | count + 1, value => UInt8.ofNat value :: number count (value / 256)

def counted (bytes : List UInt8) : List UInt8 :=
  number 8 bytes.length ++ bytes

def text (text : String) : List UInt8 :=
  counted text.toUTF8.toList

/-- The number of an item's place in a list. -/
def place {α : Type} [DecidableEq α] (all : List α) (item : α) : List UInt8 :=
  number 4 (all.idxOf item)

/-- Reads something off the start of bytes and leaves the rest. -/
abbrev Reader (α : Type) : Type := List UInt8 → Option (α × List UInt8)

def readNumber : Nat → Reader Nat
  | 0 => fun bytes => some (0, bytes)
  | count + 1 => fun
    | [] => none
    | byte :: rest => (readNumber count rest).map fun found => (byte.toNat + 256 * found.1, found.2)

def readCounted : Reader (List UInt8) := fun bytes => do
  let (count, rest) ← readNumber 8 bytes
  if count ≤ rest.length then some (rest.take count, rest.drop count) else none

/-- Reads a text after the count of its bytes, which must be its UTF-8 form. -/
def readText : Reader String := fun bytes => do
  let (taken, rest) ← readCounted bytes
  let string ← String.fromUTF8? ⟨taken.toArray⟩
  some (string, rest)

def readPlace {α : Type} (all : List α) : Reader α := fun bytes => do
  let (index, rest) ← readNumber 4 bytes
  let item ← all[index]?
  some (item, rest)

def readTime : Reader Timestamp := fun bytes => do
  let (string, rest) ← readText bytes
  let time ← Timestamp.read? string.toList
  some (time, rest)

def readMany {α : Type} (item : Reader α) : Nat → Reader (List α)
  | 0 => fun bytes => some ([], bytes)
  | count + 1 => fun bytes => do
    let (first, rest) ← item bytes
    let (others, rest) ← readMany item count rest
    some (first :: others, rest)

end Binary

open Binary

def FailureRecord.toBytes (record : FailureRecord) : List UInt8 :=
  text record.expression ++ place Method.all record.method ++ place FaultKind.all record.kind ++
    number 8 record.frequency.toNat ++ text record.firstSeen.text ++ text record.lastSeen.text

def FailureRecord.readBytes : Binary.Reader FailureRecord := fun bytes => do
  let (expression, rest) ← readText bytes
  let (method, rest) ← readPlace Method.all rest
  let (kind, rest) ← readPlace FaultKind.all rest
  let (frequency, rest) ← readNumber 8 rest
  let (firstSeen, rest) ← readTime rest
  let (lastSeen, rest) ← readTime rest
  some (⟨expression, method, kind, UInt64.ofNat frequency, firstSeen, lastSeen⟩, rest)

namespace Snapshot

def toBytes (snapshot : Snapshot) : List UInt8 :=
  number 4 snapshot.version.toNat ++ counted snapshot.id.bytes ++ text snapshot.time.text ++
    number 8 snapshot.records.length ++ snapshot.records.flatMap FailureRecord.toBytes

/-- Reads a snapshot, consistent or not. -/
def readBytes : Binary.Reader Snapshot := fun bytes => do
  let (version, rest) ← readNumber 4 bytes
  let (idBytes, rest) ← readCounted rest
  let id ← SnapshotId.ofBytes? idBytes
  let (time, rest) ← readTime rest
  let (count, rest) ← readNumber 8 rest
  let (records, rest) ← readMany FailureRecord.readBytes count rest
  some (⟨UInt32.ofNat version, id, time, records⟩, rest)

/-- The consistent snapshot that bytes begin with. -/
def ofBytes (bytes : List UInt8) : Except SnapshotFault Snapshot :=
  match readBytes bytes with
  | some (snapshot, _) => snapshot.check
  | none => .error .unreadable

end Snapshot

end WordSums
