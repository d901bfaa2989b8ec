import WordSums.Text.Decimal
import WordSums.Text.Quoted

/-!
# Arithmetic on words

The four operations that a question can ask for, on signed 64-bit words. Each is carried out on the
integers, with division cut toward zero, and the result is refused if it does not fit; so no result
is ever wrapped. The only quotient that does not fit is that of the least word by minus one.
-/

namespace WordSums

open WordSums.Text

inductive Operation where
  | plus
  | minus
  | multipliedBy
  | dividedBy
deriving DecidableEq, Repr

namespace Operation

def all : List Operation := [plus, minus, multipliedBy, dividedBy]

def phrase : Operation → String
  | plus => "plus"
  | minus => "minus"
  | multipliedBy => "multiplied by"
  | dividedBy => "divided by"

def ofPhrase? : String → Option Operation
  | "plus" => some plus
  | "minus" => some minus
  | "multiplied by" => some multipliedBy
  | "divided by" => some dividedBy
  | _ => none

/-- The message for a text that asks for no operation. -/
def unknownMessage (text : String) : String :=
  "unknown operation " ++ quote text

/-- The operation on unbounded integers; division cuts toward zero. -/
def onIntegers : Operation → Int → Int → Int
  | plus, left, right => left + right
  | minus, left, right => left - right
  | multipliedBy, left, right => left * right
  | dividedBy, left, right => left.tdiv right

theorem ofPhrase?_phrase (operation : Operation) : ofPhrase? operation.phrase = some operation := by
  cases operation <;> rfl

theorem ofPhrase?_eq_some_iff {text : String} {operation : Operation} :
    ofPhrase? text = some operation ↔ text = operation.phrase := by
  constructor
  · intro hread
    unfold ofPhrase? at hread
    split at hread <;> simp_all [phrase] <;> subst operation <;> rfl
  · rintro rfl
    exact ofPhrase?_phrase operation

end Operation

/-- Why an operation has no result, or a numeral no value. -/
inductive ArithmeticFault where
  | divisionByZero (dividend : Int)
  | overflow (left right : Int) (operation : Operation)
  | numberOutOfRange (text : String)
deriving DecidableEq, Repr

def ArithmeticFault.message : ArithmeticFault → String
  | divisionByZero dividend => s!"division by zero ({dividend} divided by 0)"
  | overflow left right operation => s!"{left} {operation.phrase} {right} overflows a 64-bit integer"
  | numberOutOfRange text => s!"number {text} does not fit in a 64-bit integer"

namespace Operation

/-- The result of an operation on two words, if there is one and it fits. -/
def apply (operation : Operation) (left right : Int) : Except ArithmeticFault Int :=
  if operation = dividedBy ∧ right = 0 then .error (.divisionByZero left)
  else
    let result := operation.onIntegers left right
    if fitsWord result then .ok result else .error (.overflow left right operation)

theorem apply_eq_ok_iff {operation : Operation} {left right result : Int} :
    operation.apply left right = .ok result ↔
      ¬(operation = dividedBy ∧ right = 0) ∧ result = operation.onIntegers left right ∧ fitsWord result := by
  by_cases hzero : operation = dividedBy ∧ right = 0
  · simp [apply, hzero]
  · rw [apply, if_neg hzero]
    by_cases hfits : fitsWord (operation.onIntegers left right)
    · rw [show (if fitsWord (operation.onIntegers left right) then _ else _) = _ from if_pos hfits]
      exact ⟨fun heq => ⟨hzero, (Except.ok.inj heq).symm, Except.ok.inj heq ▸ hfits⟩,
        fun hall => by rw [hall.2.1]⟩
    · rw [show (if fitsWord (operation.onIntegers left right) then _ else _) = _ from if_neg hfits]
      exact ⟨(nomatch ·), fun hall => absurd (hall.2.1 ▸ hall.2.2) hfits⟩

end Operation

end WordSums
