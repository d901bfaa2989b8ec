/-!
# The journal

What the program reports about its own work, as data. An entry names the part that reports, how
grave it is, and named values; a computation that reports yields its value together with the entries
in the order in which they were made. Nothing reads the journal back, so leaving it out never
changes a value.
-/

namespace WordSums

inductive Severity where
  | trace
  | debug
  | warn
deriving DecidableEq, Repr

/-- One report: which part of the program makes it, what it says, and the values that go with it. -/
structure Entry where
  severity : Severity
  topic : String
  message : String
  fields : List (String × String)
deriving DecidableEq, Repr

/-- A value and the entries made on the way to it. -/
structure Traced (α : Type) where
  value : α
  entries : List Entry
deriving Repr

namespace Traced

def report (entry : Entry) : Traced Unit := ⟨(), [entry]⟩

instance : Monad Traced where
  pure value := ⟨value, []⟩
  bind first next := ⟨(next first.value).value, first.entries ++ (next first.value).entries⟩

variable {α β : Type}

@[simp] theorem value_pure (value : α) : (pure value : Traced α).value = value := rfl

@[simp] theorem entries_pure (value : α) : (pure value : Traced α).entries = [] := rfl

@[simp] theorem value_bind (first : Traced α) (next : α → Traced β) :
    (first >>= next).value = (next first.value).value := rfl

@[simp] theorem entries_bind (first : Traced α) (next : α → Traced β) :
    (first >>= next).entries = first.entries ++ (next first.value).entries := rfl

@[simp] theorem value_report (entry : Entry) : (report entry).value = () := rfl

@[simp] theorem entries_report (entry : Entry) : (report entry).entries = [entry] := rfl

instance : LawfulMonad Traced := LawfulMonad.mk' Traced
  (fun _ => by simp [Functor.map])
  (fun _ _ => by simp [bind, pure])
  (fun _ _ _ => by simp [bind, List.append_assoc])

end Traced

end WordSums
