/-!
# Files

What reading a file can bring. A file that is not there is told apart from one that is there but cannot be
read, since a run may begin without the former.
-/

namespace WordSums

inductive FileContent where
  | absent
  | unreadable
  | bytes (content : List UInt8)
deriving DecidableEq, Repr

/-- The text whose UTF-8 form a file holds. -/
def FileContent.text? : FileContent → Option String
  | absent | unreadable => none
  | bytes content => String.fromUTF8? ⟨content.toArray⟩

end WordSums
