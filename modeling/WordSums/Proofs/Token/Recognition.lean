import Mathlib.Logic.Basic
import WordSums.Proofs.Pattern.Matching
import WordSums.Proofs.Token.InForce

/-!
# The patterns together and one by one

Whether a token can be taken is asked of all patterns at once, and which one is asked of each by itself. If the
engine finds the patterns leftmost first when they are written as one, what is found at the start of a text is
the match of the first pattern that has one there, and a match of nothing is dropped only after it has been
preferred. So what the patterns together take some recognizer takes too, but a first pattern that matches
nothing hides what a later one would take. A pattern that matches nothing before some text need not match the
empty text, so such a set can be accepted.

All this is about patterns that stay apart when they are written as one. A pattern that ends in a remark does
not: the remark takes in the end of its group.
-/

namespace WordSums

namespace Search

variable {search : Search} {searches : List Search} {text : List Char} {last : Nat}

theorem matchStart?_eq_some_iff : search.matchStart? text = some last ↔ search.find? text = some (0, last) := by
  unfold matchStart?
  split
  · next found => simp [found]
  · next hother =>
    refine ⟨nofun, fun hfound => absurd hfound (hother last)⟩

theorem takes?_eq_some_iff : search.takes? text = some last ↔ search.find? text = some (0, last) ∧ 0 < last := by
  rw [takes?, Option.filter_eq_some_iff, decide_eq_true_eq, matchStart?_eq_some_iff]

/-- The leftmost match of several searches begins with the text if one of theirs does, and it is the first of
those. -/
theorem leftmostFirst_eq_some_zero_iff :
    leftmostFirst searches text = some (0, last) ↔
      (searches.findSome? fun search => search.matchStart? text) = some last := by
  induction searches with
  | nil => simp [leftmostFirst]
  | cons search rest ih =>
    change prefer (search.find? text) (leftmostFirst rest text) = some (0, last) ↔ _
    rw [List.findSome?_cons, matchStart?]
    cases search.find? text with
    | none => exact ih
    | some found =>
      obtain ⟨first, stop⟩ := found
      cases first with
      | zero => cases leftmostFirst rest text <;> simp [prefer]
      | succ first =>
        -- this match begins further on, so a match at the start is one of the others
        change _ ↔ (rest.findSome? fun search => search.matchStart? text) = some last
        rw [← ih]
        cases leftmostFirst rest text with
        | none => simp [prefer]
        | some other =>
          obtain ⟨second, stop⟩ := other
          cases second with
          | zero => simp [prefer]
          | succ second =>
            rw [prefer]
            split <;> simp

/-- Of several searches the first that finds a match at the start of the text finds an empty one. -/
def HiddenBehind (searches : List Search) (text : List Char) : Prop :=
  ∃ earlier first later, searches = earlier ++ first :: later ∧
    (∀ search ∈ earlier, ∀ last, search.find? text ≠ some (0, last)) ∧ first.find? text = some (0, 0)

theorem hiddenBehind_iff :
    HiddenBehind searches text ↔ (searches.findSome? fun search => search.matchStart? text) = some 0 := by
  have hnone : ∀ search : Search, search.matchStart? text = none ↔ ∀ last, search.find? text ≠ some (0, last) := by
    intro search
    rw [Option.eq_none_iff_forall_ne_some]
    exact forall_congr' fun last => not_congr matchStart?_eq_some_iff
  rw [List.findSome?_eq_some_iff]
  constructor
  · intro hhidden
    obtain ⟨earlier, first, later, hsearches, hearlier, hfirst⟩ := hhidden
    exact ⟨earlier, first, later, hsearches, matchStart?_eq_some_iff.2 hfirst,
      fun search hmem => (hnone search).2 (hearlier search hmem)⟩
  · intro hfirst
    obtain ⟨earlier, first, later, hsearches, hfirst, hearlier⟩ := hfirst
    exact ⟨earlier, first, later, hsearches, fun search hmem => (hnone search).1 (hearlier search hmem),
      matchStart?_eq_some_iff.1 hfirst⟩

/-- What is found leftmost first is taken when one of the searches takes something, unless it is hidden. -/
theorem isSome_takes?_of_leftmostFirst {together : Search}
    (htogether : together.find? text = leftmostFirst searches text) :
    (together.takes? text).isSome = true ↔
      (∃ search ∈ searches, (search.takes? text).isSome = true) ∧ ¬ HiddenBehind searches text := by
  have hmatch : ∀ last, together.find? text = some (0, last) ↔
      (searches.findSome? fun search => search.matchStart? text) = some last := by
    intro last
    rw [htogether, leftmostFirst_eq_some_zero_iff]
  rw [hiddenBehind_iff]
  simp only [Option.isSome_iff_exists, takes?_eq_some_iff]
  constructor
  · intro htakes
    obtain ⟨last, hfound, hpos⟩ := htakes
    have hfirst := (hmatch last).1 hfound
    obtain ⟨search, hmem, hown⟩ := List.exists_of_findSome?_eq_some hfirst
    refine ⟨⟨search, hmem, last, matchStart?_eq_some_iff.1 hown, hpos⟩, ?_⟩
    rw [hfirst]
    intro hzero
    exact absurd (Option.some.inj hzero) (by omega)
  · intro htakes
    obtain ⟨⟨search, hmem, last, hfound, hpos⟩, hhidden⟩ := htakes
    have hsome : (searches.findSome? fun search => search.matchStart? text).isSome = true := by
      rw [List.findSome?_isSome_iff]
      exact ⟨search, hmem, Option.isSome_iff_exists.2 ⟨last, matchStart?_eq_some_iff.2 hfound⟩⟩
    obtain ⟨first, hfirst⟩ := Option.isSome_iff_exists.1 hsome
    refine ⟨first, (hmatch first).2 hfirst, Nat.pos_of_ne_zero ?_⟩
    intro hzero
    exact hhidden (hzero ▸ hfirst)

end Search

namespace RecognizerSet

theorem recognizeWith_eq_ok_none_iff {text : List Char} {found : Option (TokenKind × List Char)}
    {recognizers : List Recognizer} :
    recognizeWith text found recognizers = .ok none ↔
      found = none ∧ ∀ recognizer ∈ recognizers, recognizer.take? text = none := by
  induction recognizers generalizing found with
  | nil => simp [recognizeWith]
  | cons recognizer rest ih =>
    rw [List.forall_mem_cons]
    unfold recognizeWith
    cases htake : recognizer.take? text with
    | none => simp [ih]
    | some taken =>
      cases found with
      | none => simp [ih]
      | some first => simp

/-- Nothing is recognized exactly where no recognizer takes anything. -/
theorem recognize_ne_ok_none_iff {set : RecognizerSet} {text : List Char} :
    set.recognize text ≠ .ok none ↔
      ∃ recognizer ∈ set.recognizers, (recognizer.search.takes? text).isSome = true := by
  rw [recognize, Ne, recognizeWith_eq_ok_none_iff]
  simp [Recognizer.take?, Option.isSome_iff_ne_none]

/-- No pattern in force ends in a remark. -/
def StayApart (engine : Engine) (patterns : List (TokenKind × String)) : Prop :=
  ∀ given ∈ inForce patterns, engine.endsInRemark given.2 = false

instance (engine : Engine) (patterns : List (TokenKind × String)) : Decidable (StayApart engine patterns) :=
  inferInstanceAs (Decidable (∀ given ∈ inForce patterns, engine.endsInRemark given.2 = false))

/-- The engine finds the patterns in force leftmost first when they are written as one. -/
def FoundLeftmostFirst (engine : Engine) (patterns : List (TokenKind × String)) : Prop :=
  engine.LeftmostFirst ((inForce patterns).map Prod.snd)

variable {engine : Engine} {patterns : List (TokenKind × String)} {set : RecognizerSet}

/-- What an accepted set searches for at once is found where the leftmost of its recognizers finds it. -/
theorem anyKind_of_ofPatterns (hfound : FoundLeftmostFirst engine patterns)
    (haccepted : ofPatterns engine patterns = .ok set) (hapart : StayApart engine patterns) (text : List Char) :
    set.anyKind.find? text = Search.leftmostFirst (set.recognizers.map Recognizer.search) text := by
  obtain ⟨hcompiled, htogether⟩ := ofPatterns_eq_ok haccepted
  refine hfound _ _ ?_ ?_ htogether text
  · rw [← hcompiled.written]
    simp only [List.map_map]
    exact List.map_congr_left hcompiled.search
  · intro pattern hpattern
    obtain ⟨given, hgiven, rfl⟩ := List.mem_map.1 hpattern
    exact hapart given hgiven

theorem matchesStart_iff_find? {text : List Char} :
    set.matchesStart text = true ↔ ∃ last, set.anyKind.find? text = some (0, last) ∧ 0 < last := by
  rw [matchesStart, Option.isSome_iff_exists]
  simp only [Search.takes?_eq_some_iff]

/-- What is asked of all patterns at once and what is asked of each by itself come to the same if the patterns
stay apart, unless the first pattern that matches at the start of the text matches nothing there. -/
theorem matchesStart_exact (hfound : FoundLeftmostFirst engine patterns)
    (haccepted : ofPatterns engine patterns = .ok set) (text : List Char) :
    (set.matchesStart text = true ↔ ∃ last, set.anyKind.find? text = some (0, last) ∧ 0 < last) ∧
      (set.recognize text ≠ .ok none ↔
        ∃ recognizer ∈ set.recognizers, ∃ last, recognizer.search.find? text = some (0, last) ∧ 0 < last) ∧
      (StayApart engine patterns →
        (set.matchesStart text = true ↔
          set.recognize text ≠ .ok none ∧
            ¬ Search.HiddenBehind (set.recognizers.map Recognizer.search) text)) := by
  refine ⟨matchesStart_iff_find?, ?_, fun hapart => ?_⟩
  · rw [recognize_ne_ok_none_iff]
    simp only [Option.isSome_iff_exists, Search.takes?_eq_some_iff]
  · have htogether := anyKind_of_ofPatterns hfound haccepted hapart text
    rw [matchesStart, Search.isSome_takes?_of_leftmostFirst htogether, recognize_ne_ok_none_iff]
    simp only [List.mem_map, exists_exists_and_eq_and]

/-! ### A first pattern that hides the others -/

/-- The standard patterns, but for a first one that asks for the edge of a word. The empty text has none. -/
def edgePatterns : List (TokenKind × String) :=
  (.question, "\\b") :: [.number, .operand, .punctuation].map fun kind => (kind, kind.standardPattern)

def edgeFirst : RecognizerSet where
  recognizers :=
    ⟨.question, "\\b", (Pattern.anchor .boundary).search⟩ ::
      [.number, .operand, .punctuation].map standardRecognizer
  anyKind := (Pattern.firstOf (.anchor .boundary :: [.number, .operand, .punctuation].map standardSource)).search

theorem ofPatterns_edgePatterns : ofPatterns .backtracking edgePatterns = .ok edgeFirst := rfl

theorem stayApart_edgePatterns : StayApart .backtracking edgePatterns := by
  decide +kernel

/-- Patterns that are read as they are when they are written as one are found leftmost first. -/
theorem foundLeftmostFirst_of_read (sources : List Pattern)
    (hsources : ((inForce patterns).map Prod.snd).map Engine.backtracking.compile? =
      (sources.map Pattern.search).map some)
    (htogether : Engine.backtracking.compile? (Engine.writtenAsOne ((inForce patterns).map Prod.snd)) =
      some (Pattern.firstOf sources).search) :
    FoundLeftmostFirst .backtracking patterns := by
  intro searches together hsearches _ hcompiled text
  rw [hsources] at hsearches
  obtain rfl := (List.map_inj_right fun _ _ => Option.some.inj).1 hsearches
  obtain rfl := Option.some.inj (htogether.symm.trans hcompiled)
  exact Pattern.search?_firstOf sources text

theorem foundLeftmostFirst_edgePatterns : FoundLeftmostFirst .backtracking edgePatterns :=
  foundLeftmostFirst_of_read (.anchor .boundary :: [.number, .operand, .punctuation].map standardSource) rfl rfl

theorem recognize_edgeFirst : edgeFirst.recognize ['7'] = .ok (some (.number, ['7'])) := rfl

/-- Listed first, a pattern for the edge of a word hides the number that begins there. -/
theorem not_matchesStart_iff_recognize :
    ¬ ∀ engine patterns set text, FoundLeftmostFirst engine patterns → ofPatterns engine patterns = .ok set →
      (set.matchesStart text = true ↔ set.recognize text ≠ .ok none) := by
  intro hagree
  have hrecognized : edgeFirst.recognize ['7'] ≠ .ok none := by
    rw [recognize_edgeFirst]
    nofun
  have hmatches :=
    (hagree .backtracking edgePatterns edgeFirst ['7'] foundLeftmostFirst_edgePatterns ofPatterns_edgePatterns).2
      hrecognized
  exact absurd hmatches Bool.false_ne_true

theorem matchesStart_exact_edgeFirst :
    FoundLeftmostFirst .backtracking edgePatterns ∧ ofPatterns .backtracking edgePatterns = .ok edgeFirst ∧
      StayApart .backtracking edgePatterns ∧
      (edgeFirst.matchesStart ['7'] = true ↔
        edgeFirst.recognize ['7'] ≠ .ok none ∧
          ¬ Search.HiddenBehind (edgeFirst.recognizers.map Recognizer.search) ['7']) :=
  ⟨foundLeftmostFirst_edgePatterns, ofPatterns_edgePatterns, stayApart_edgePatterns,
    (matchesStart_exact foundLeftmostFirst_edgePatterns ofPatterns_edgePatterns ['7']).2.2 stayApart_edgePatterns⟩

end RecognizerSet

end WordSums
