import Mathlib.Data.List.Nodup
import WordSums.Token.Recognizer

/-!
# The patterns in force

Of the patterns that are listed for a kind the last one counts. An accepted set has one recognizer for each
pattern in force, in their order, which searches for what the pattern is compiled to; and what all of them are
asked at once is the search to which these patterns are compiled when they are written as one.
-/

namespace WordSums

namespace RecognizerSet

/-- The patterns in force, in their order: for each kind the last one that is listed for it. -/
def inForce : List (TokenKind × String) → List (TokenKind × String)
  | [] => []
  | given :: rest => if rest.any fun later => later.1 = given.1 then inForce rest else given :: inForce rest

variable {engine : Engine} {patterns : List (TokenKind × String)} {set : RecognizerSet}

theorem inForce_sublist (patterns : List (TokenKind × String)) : (inForce patterns).Sublist patterns := by
  induction patterns with
  | nil => exact .slnil
  | cons given rest ih =>
    rw [inForce]
    split
    · exact ih.cons given
    · exact ih.cons_cons given

theorem nodup_kinds_inForce (patterns : List (TokenKind × String)) : ((inForce patterns).map Prod.fst).Nodup := by
  induction patterns with
  | nil => exact List.nodup_nil
  | cons given rest ih =>
    rw [inForce]
    split
    · exact ih
    · next hlast =>
      refine List.nodup_cons.2 ⟨fun hmem => hlast ?_, ih⟩
      obtain ⟨later, hlater, hkind⟩ := List.mem_map.1 hmem
      exact List.any_eq_true.2 ⟨later, (inForce_sublist rest).subset hlater, decide_eq_true hkind⟩

/-- Recognizers for the given patterns, each with the search to which its pattern is compiled. -/
structure Compiled (engine : Engine) (given : List (TokenKind × String)) (recognizers : List Recognizer) : Prop where
  written : recognizers.map (fun recognizer => (recognizer.kind, recognizer.written)) = given
  search : ∀ recognizer ∈ recognizers, engine.compile? recognizer.written = some recognizer.search

theorem Compiled.append {first second : List (TokenKind × String)} {recognizers others : List Recognizer}
    (hfirst : Compiled engine first recognizers) (hsecond : Compiled engine second others) :
    Compiled engine (first ++ second) (recognizers ++ others) where
  written := by rw [List.map_append, hfirst.written, hsecond.written]
  search recognizer hmem := (List.mem_append.1 hmem).elim (hfirst.search recognizer) (hsecond.search recognizer)

/-- The recognizers begun with stay for the kinds that no pattern is listed for; the others are made for the
patterns in force. -/
theorem recognizers?_eq_ok {begun recognizers : List Recognizer}
    (hread : recognizers? engine begun patterns = .ok recognizers) :
    ∃ made, Compiled engine (inForce patterns) made ∧
      recognizers = (begun.filter fun recognizer => !patterns.any fun given => given.1 = recognizer.kind) ++ made := by
  induction patterns generalizing begun with
  | nil =>
    obtain rfl := Except.ok.inj hread
    exact ⟨[], ⟨rfl, by simp⟩, by simp⟩
  | cons given rest ih =>
    obtain ⟨kind, written⟩ := given
    rw [recognizers?] at hread
    split at hread
    · cases hread
    · next search hsearch =>
      split at hread
      · cases hread
      · obtain ⟨made, hmade, hrecognizers⟩ := ih hread
        have hbegun :
            (begun.filter fun recognizer => !((kind, written) :: rest).any fun given => given.1 = recognizer.kind) =
            (begun.filter fun recognizer => recognizer.kind ≠ kind).filter
              fun recognizer => !rest.any fun given => given.1 = recognizer.kind := by
          rw [List.filter_filter]
          congr 1
          funext recognizer
          simp [Bool.and_comm, eq_comm]
        rw [hrecognizers, List.filter_append, hbegun, List.append_assoc, inForce]
        -- the new recognizer stays unless its kind is listed again
        cases hlater : rest.any fun later => later.1 = kind with
        | true => exact ⟨made, by simpa [hlater] using hmade, by simp [hlater]⟩
        | false =>
          have hnew : Compiled engine [(kind, written)] [⟨kind, written, search⟩] := ⟨rfl, by simpa using hsearch⟩
          exact ⟨⟨kind, written, search⟩ :: made, by simpa [hlater] using hnew.append hmade, by simp [hlater]⟩

/-- What an accepted set is made of. -/
theorem ofPatterns_eq_ok (haccepted : ofPatterns engine patterns = .ok set) :
    Compiled engine (inForce patterns) set.recognizers ∧
      engine.compile? (Engine.writtenAsOne ((inForce patterns).map Prod.snd)) = some set.anyKind := by
  unfold ofPatterns at haccepted
  cases hread : recognizers? engine [] patterns with
  | error fault =>
    rw [hread] at haccepted
    cases haccepted
  | ok recognizers =>
    obtain ⟨made, hmade, rfl⟩ := recognizers?_eq_ok hread
    rw [hread] at haccepted
    dsimp only [bind, Except.bind] at haccepted
    split at haccepted
    · cases haccepted
    · split at haccepted
      · next anyKind hunion =>
        obtain rfl := Except.ok.inj haccepted
        refine ⟨hmade, ?_⟩
        rw [← hmade.written, List.map_map]
        exact hunion
      · cases haccepted

end RecognizerSet

end WordSums
