import WordSums.Proofs.Token.Recognition
import WordSums.Token.Scan

/-!
# Taking a token

One token is recognized where one recognizer takes a text and no other takes any; where two do, the search stops
at the second with an overlap. A text that is taken is not empty and stands at the start of the rest, because a
match is a stretch of the text and an empty one counts for nothing. So taking a token either moves the scan on past a
text that was there, or fails for one of two reasons and leaves the scan as it was.
-/

namespace WordSums

open WordSums.Text

/-- A text that is taken stands at the start, and there is something of it. -/
theorem Recognizer.take?_starts {recognizer : Recognizer} {text taken : List Char}
    (htake : recognizer.take? text = some taken) : taken ≠ [] ∧ taken <+: text := by
  obtain ⟨count, hcount, rfl⟩ := Option.map_eq_some_iff.1 htake
  obtain ⟨hfound, hpos⟩ := Search.takes?_eq_some_iff.1 hcount
  obtain ⟨_, hfits⟩ := recognizer.search.within _ _ _ hfound
  refine ⟨?_, List.take_prefix count text⟩
  rw [Ne, ← List.length_eq_zero_iff, List.length_take_of_le hfits]
  omega

namespace RecognizerSet

variable {text taken : List Char} {kind : TokenKind}

theorem recognizeWith_some_eq_ok {first : TokenKind × List Char} {recognizers : List Recognizer}
    {result : Option (TokenKind × List Char)} (hresult : recognizeWith text (some first) recognizers = .ok result) :
    result = some first ∧ ∀ recognizer ∈ recognizers, recognizer.take? text = none := by
  induction recognizers with
  | nil => exact ⟨(Except.ok.inj hresult).symm, fun _ hmem => absurd hmem List.not_mem_nil⟩
  | cons recognizer rest ih =>
    unfold recognizeWith at hresult
    cases htake : recognizer.take? text with
    | some taken =>
      rw [htake] at hresult
      cases hresult
    | none =>
      rw [htake] at hresult
      obtain ⟨hsame, hothers⟩ := ih hresult
      exact ⟨hsame, List.forall_mem_cons.2 ⟨htake, hothers⟩⟩

/-- A text is taken by a recognizer of the set, and by no other. -/
def TakenBy (recognizers : List Recognizer) (recognizer : Recognizer) (taken text : List Char) : Prop :=
  ∃ earlier later, recognizers = earlier ++ recognizer :: later ∧ recognizer.take? text = some taken ∧
    ∀ other ∈ earlier ++ later, other.take? text = none

theorem recognizeWith_none_eq_ok_some {recognizers : List Recognizer}
    (hresult : recognizeWith text none recognizers = .ok (some (kind, taken))) :
    ∃ recognizer, recognizer.kind = kind ∧ TakenBy recognizers recognizer taken text := by
  induction recognizers with
  | nil => cases hresult
  | cons recognizer rest ih =>
    unfold recognizeWith at hresult
    cases htake : recognizer.take? text with
    | some found =>
      rw [htake] at hresult
      obtain ⟨hfirst, hothers⟩ := recognizeWith_some_eq_ok hresult
      obtain ⟨rfl, rfl⟩ := Prod.mk.inj (Option.some.inj hfirst)
      exact ⟨recognizer, rfl, [], rest, rfl, htake, hothers⟩
    | none =>
      rw [htake] at hresult
      obtain ⟨found, hkind, earlier, later, rfl, hfound, hothers⟩ := ih hresult
      exact ⟨found, hkind, recognizer :: earlier, later, rfl, hfound, List.forall_mem_cons.2 ⟨htake, hothers⟩⟩

theorem recognizeWith_eq_error {found : Option (TokenKind × List Char)} {recognizers : List Recognizer}
    {fault : RecognizerFault} (hresult : recognizeWith text found recognizers = .error fault) :
    ∃ first second taken, fault = .overlap first second taken := by
  induction recognizers generalizing found with
  | nil => cases hresult
  | cons recognizer rest ih =>
    unfold recognizeWith at hresult
    split at hresult
    · exact ih hresult
    · exact ih hresult
    · exact ⟨_, _, _, (Except.error.inj hresult).symm⟩

end RecognizerSet

namespace Scan

variable {set : RecognizerSet} {scan after : Scan}

theorem take_eq_ok (htake : scan.take set = (.ok (), after)) :
    ∃ recognizer taken, RecognizerSet.TakenBy set.recognizers recognizer taken scan.rest ∧
      after = scan.push recognizer.kind taken := by
  unfold take at htake
  split at htake
  · cases htake
  · cases htake
  · next kind taken hrecognize =>
    obtain ⟨recognizer, rfl, htaken⟩ := RecognizerSet.recognizeWith_none_eq_ok_some hrecognize
    exact ⟨recognizer, taken, htaken, (Prod.mk.inj htake).2.symm⟩

theorem take_eq_error {fault : RecognizerFault} (htake : scan.take set = (.error fault, after)) :
    after = scan ∧ ((set.recognize scan.rest = .ok none ∧ fault = .noMatch scan.offset) ∨
      ∃ first second taken, fault = .overlap first second taken) := by
  refine ⟨take_eq_of_error htake, ?_⟩
  unfold take at htake
  split at htake
  · next overlap hrecognize =>
    obtain rfl := Except.error.inj (Prod.mk.inj htake).1
    exact .inr (RecognizerSet.recognizeWith_eq_error hrecognize)
  · next hrecognize => exact .inl ⟨hrecognize, (Except.error.inj (Prod.mk.inj htake).1).symm⟩
  · cases htake

end Scan

theorem RecognizerSet.TakenBy.starts {recognizers : List Recognizer} {recognizer : Recognizer}
    {taken text : List Char} (htaken : TakenBy recognizers recognizer taken text) : taken ≠ [] ∧ taken <+: text := by
  obtain ⟨_, _, _, htake, _⟩ := htaken
  exact Recognizer.take?_starts htake

end WordSums
