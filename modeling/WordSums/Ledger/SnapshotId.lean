import WordSums.Text.Hexadecimal

/-!
# Names of snapshots

A snapshot is named by sixteen bytes. They are written as lower-case digits in five groups joined by
hyphens, and read with or without the hyphens; the grouped form may also stand in braces or behind a
scheme.
-/

namespace WordSums

open WordSums.Text

structure SnapshotId where
  bytes : List UInt8
  length_eq : bytes.length = 16
deriving DecidableEq

namespace SnapshotId

/-- The name of the given bytes, if there are sixteen. -/
def ofBytes? (bytes : List UInt8) : Option SnapshotId :=
  if hlength : bytes.length = 16 then some ⟨bytes, hlength⟩ else none

@[simp] theorem ofBytes?_bytes (id : SnapshotId) : ofBytes? id.bytes = some id := by
  simp [ofBytes?, id.length_eq]

def digits (bytes : List UInt8) : List Char :=
  bytes.flatMap byteDigits

/-- The written form, in groups of four, two, two, two and six bytes. -/
def written (id : SnapshotId) : List Char :=
  digits (id.bytes.take 4) ++ '-' :: digits ((id.bytes.drop 4).take 2) ++ '-' :: digits ((id.bytes.drop 6).take 2) ++
    '-' :: digits ((id.bytes.drop 8).take 2) ++ '-' :: digits (id.bytes.drop 10)

def text (id : SnapshotId) : String := String.ofList id.written

def readPlain? (text : List Char) : Option SnapshotId :=
  (hexBytes? text).bind ofBytes?

/-- Reads digits with a hyphen after each of the first four groups. -/
def readGrouped? (text : List Char) : Option SnapshotId :=
  let hyphens := [text[8]?, text[13]?, text[18]?, text[23]?]
  if text.length = 36 ∧ hyphens.all (· == some '-') then
    readPlain? (text.take 8 ++ (text.drop 9).take 4 ++ (text.drop 14).take 4 ++ (text.drop 19).take 4 ++ text.drop 24)
  else none

/-- Reads any of the forms in which a name may be written; their lengths tell them apart. -/
def read? (text : List Char) : Option SnapshotId :=
  if text.length = 32 then readPlain? text
  else if text.length = 38 ∧ text.head? = some '\x7b' ∧ text.getLast? = some '\x7d' then
    readGrouped? ((text.drop 1).take 36)
  else if text.length = 45 ∧ text.take 9 = "urn:uuid:".toList then readGrouped? (text.drop 9)
  else readGrouped? text

end SnapshotId

end WordSums
