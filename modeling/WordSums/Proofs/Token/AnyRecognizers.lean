import WordSums.Proofs.Token.Bookkeeping
import WordSums.Proofs.Token.Recognition
import WordSums.Proofs.Token.Rounds

/-!
# Lexing with any recognizers

The rounds of the lexer are told by all patterns together that a token stands at the start of the rest, and take it
by the patterns one by one. They come to an end because every token takes a character, whichever recognizer takes
it, and a text that is not recognized always ends them, since one of the two guards holds. What is answered is
sound: each token is what the pattern in force for its kind takes by itself where the token stands, and no other
pattern takes anything there.

Of the engine only this is used, that it finds patterns leftmost first when they are written as one. So the
patterns together never announce a token that none of them takes, if they stay apart. If one of them ends in a
remark, the pattern that they make together is another one, and it may announce what nobody can take.
-/

namespace WordSums

open WordSums.Text

variable {engine : Engine} {patterns : List (TokenKind × String)} {set : RecognizerSet}

/-! ### What stands alone -/

namespace RecognizerSet

/-- The search to which the pattern in force for a kind is compiled. -/
def SearchFor (engine : Engine) (patterns : List (TokenKind × String)) (kind : TokenKind) (search : Search) : Prop :=
  ∃ written, (kind, written) ∈ inForce patterns ∧ engine.compile? written = some search

theorem SearchFor.unique {kind : TokenKind} {left right : Search} (hleft : SearchFor engine patterns kind left)
    (hright : SearchFor engine patterns kind right) : left = right := by
  obtain ⟨written, hwritten, hcompiled⟩ := hleft
  obtain ⟨other, hother, hcompile⟩ := hright
  obtain ⟨_, rfl⟩ := Prod.mk.inj (List.inj_on_of_nodup_map (nodup_kinds_inForce patterns) hwritten hother rfl)
  exact Option.some.inj (hcompiled.symm.trans hcompile)

/-- Every recognizer of an accepted set searches for the pattern in force for its kind, and every pattern in force
has its recognizer. -/
theorem searchFor_iff (haccepted : ofPatterns engine patterns = .ok set) {kind : TokenKind} {search : Search} :
    SearchFor engine patterns kind search ↔
      ∃ recognizer ∈ set.recognizers, recognizer.kind = kind ∧ recognizer.search = search := by
  obtain ⟨hwritten, hsearch⟩ := (ofPatterns_eq_ok haccepted).1
  rw [SearchFor, ← hwritten]
  constructor
  · intro hsearchFor
    obtain ⟨written, hgiven, hcompiled⟩ := hsearchFor
    obtain ⟨recognizer, hmem, hsame⟩ := List.mem_map.1 hgiven
    obtain ⟨rfl, rfl⟩ := Prod.mk.inj hsame
    exact ⟨recognizer, hmem, rfl, Option.some.inj ((hsearch recognizer hmem).symm.trans hcompiled)⟩
  · intro hrecognizer
    obtain ⟨recognizer, hmem, rfl, rfl⟩ := hrecognizer
    exact ⟨recognizer.written, List.mem_map_of_mem hmem, hsearch recognizer hmem⟩

/-- The token is what a search for the pattern in force for its kind finds by itself at the start of the text, and
for no other kind is anything found there but an empty match. -/
structure TakenAlone (engine : Engine) (patterns : List (TokenKind × String)) (token : Token) (text : List Char) :
    Prop where
  own : ∃ search stop, SearchFor engine patterns token.kind search ∧
    (∀ other, SearchFor engine patterns token.kind other → other = search) ∧
    search.find? text = some (0, stop) ∧ 0 < stop ∧ token.text.toList = text.take stop
  others : ∀ kind search, SearchFor engine patterns kind search → kind ≠ token.kind →
    ∀ stop, search.find? text = some (0, stop) → stop = 0

theorem TakenBy.takenAlone {recognizer : Recognizer} {taken text : List Char}
    (haccepted : ofPatterns engine patterns = .ok set) (htaken : TakenBy set.recognizers recognizer taken text) :
    TakenAlone engine patterns ⟨recognizer.kind, String.ofList taken⟩ text := by
  obtain ⟨earlier, later, hset, htake, hothers⟩ := htaken
  have hmem : recognizer ∈ set.recognizers := hset ▸ List.mem_append_right earlier List.mem_cons_self
  have hown : SearchFor engine patterns recognizer.kind recognizer.search :=
    (searchFor_iff haccepted).2 ⟨recognizer, hmem, rfl, rfl⟩
  constructor
  · obtain ⟨stop, hstop, rfl⟩ := Option.map_eq_some_iff.1 htake
    obtain ⟨hfound, hpos⟩ := Search.takes?_eq_some_iff.1 hstop
    exact ⟨_, stop, hown, fun _ hother => hother.unique hown, hfound, hpos, String.toList_ofList⟩
  · intro kind search hsearch hkind stop hfound
    obtain ⟨other, hother, rfl, rfl⟩ := (searchFor_iff haccepted).1 hsearch
    have hnone : other.take? text = none := by
      refine hothers other ?_
      rw [hset] at hother
      obtain hearlier | hlater := List.mem_append.1 hother
      · exact List.mem_append_left _ hearlier
      · obtain rfl | hlater := List.mem_cons.1 hlater
        · exact absurd rfl hkind
        · exact List.mem_append_right _ hlater
    by_contra hpos
    have htakes : other.search.takes? text = some stop :=
      Search.takes?_eq_some_iff.2 ⟨hfound, Nat.pos_of_ne_zero hpos⟩
    rw [Recognizer.take?, htakes] at hnone
    cases hnone

/-- Patterns that stay apart announce no token that none of them takes. -/
theorem recognize_ne_ok_none (hfound : FoundLeftmostFirst engine patterns)
    (haccepted : ofPatterns engine patterns = .ok set) (hapart : StayApart engine patterns) {text : List Char}
    (hmatches : set.matchesStart text = true) : set.recognize text ≠ .ok none := by
  have htogether := anyKind_of_ofPatterns hfound haccepted hapart text
  rw [matchesStart, Search.isSome_takes?_of_leftmostFirst htogether] at hmatches
  obtain ⟨⟨search, hsearch, htakes⟩, _⟩ := hmatches
  obtain ⟨recognizer, hmem, rfl⟩ := List.mem_map.1 hsearch
  exact recognize_ne_ok_none_iff.2 ⟨recognizer, hmem, htakes⟩

end RecognizerSet

open RecognizerSet

/-! ### Soundness of the tokens read -/

/-- A scan that has read each of its tokens where the token stands alone. -/
structure Scan.Sound (engine : Engine) (patterns : List (TokenKind × String)) (source : String) (scan : Scan) :
    Prop where
  tracks : Scan.Tracks source scan
  alone : ∀ earlier token later, scan.tokens = earlier ++ token :: later →
    ∃ read rest, source.toList = read ++ rest ∧ Consumed earlier read ∧ TakenAlone engine patterns token rest

theorem Scan.sound_start (engine : Engine) (patterns : List (TokenKind × String)) (source : String) :
    Scan.Sound engine patterns source (Scan.start source.toList) where
  tracks := Scan.tracks_start source
  alone _ _ _ htokens := absurd htokens (by simp [Scan.start, Scan.skipBlanks])

theorem Scan.Sound.push {source : String} {scan : Scan} {recognizer : Recognizer} {taken : List Char}
    (haccepted : ofPatterns engine patterns = .ok set) (hsound : Scan.Sound engine patterns source scan) (htaken : TakenBy set.recognizers recognizer taken scan.rest) :
    Scan.Sound engine patterns source (scan.push recognizer.kind taken) where
  tracks := hsound.tracks.push htaken.starts.2
  alone earlier token later htokens := by
    rw [Scan.tokens_push] at htokens
    -- the token is the one just taken, or one of those before it
    obtain rfl | ⟨others, last, rfl⟩ := List.eq_nil_or_concat later
    · obtain ⟨rfl, htoken⟩ := List.append_inj' htokens rfl
      obtain rfl := List.head_eq_of_cons_eq htoken
      obtain ⟨read, hsource, _, hread⟩ := hsound.tracks.consumed
      exact ⟨read, scan.rest, hsource, hread, htaken.takenAlone haccepted⟩
    · rw [List.concat_eq_append, ← List.cons_append, ← List.append_assoc] at htokens
      exact hsound.alone earlier token others (List.append_inj' htokens rfl).1

namespace Lexer

/-! ### Rounds without a bound -/

/-- The rounds of the lexer as long as something is left to read, without a bound set to them: how many tokens they
take, and what they come to. -/
inductive Rounds : LexerMachine → Nat → Except Fault LexerMachine → Prop
  | exhausted {machine : LexerMachine} (hdone : machine.context.scan.isExhausted = true) :
      Rounds machine 0 (.ok machine)
  | refused {machine after : LexerMachine} {fault : Fault} (hmore : machine.context.scan.isExhausted = false)
      (hexec : (machine.exec .epoch (nextEvent machine.context)).value = (.error fault, after)) :
      Rounds machine 0 (.error fault)
  | took {machine moved : LexerMachine} {state : LexerState} {rounds : Nat} {outcome : Except Fault LexerMachine}
      (hmore : machine.context.scan.isExhausted = false) (hevent : nextEvent machine.context = .recognizedToken)
      (hexec : (machine.exec .epoch .recognizedToken).value = (.ok state, moved))
      (hrest : Rounds moved rounds outcome) : Rounds machine (rounds + 1) outcome

/-- How an input within the limit may be refused. -/
inductive Refusal (input : String) : Fault → Prop
  | nonMath : Refusal input (.nonMathQuestion input)
  | unsupported (fragment : String) (offset : Nat) : Refusal input (.unsupportedOperation fragment offset)
  | overlap (first second : TokenKind) (text : String) : Refusal input (.recognizer (.overlap first second text))

/-- A token was announced that no recognizer takes. -/
def Unmatched (fault : Fault) : Prop :=
  ∃ offset, fault = .recognizer (.noMatch offset)

/-- What the rounds may come to: a machine before the end of the input, or a refusal. -/
def Settled (engine : Engine) (patterns : List (TokenKind × String)) (set : RecognizerSet) (input : String) :
    Except Fault LexerMachine → Prop
  | .ok final => ∃ scan, Lexing set scan final ∧ scan.rest = [] ∧ Scan.Sound engine patterns input scan
  | .error fault => Refusal input fault ∨ ¬ StayApart engine patterns ∧ Unmatched fault

variable {input : String} {scan : Scan} {machine : LexerMachine}

theorem Lexing.isExhausted_eq_false (hlexing : Lexing set scan machine) (hrest : scan.rest ≠ []) :
    machine.context.scan.isExhausted = false := by
  rw [hlexing.context, Scan.isExhausted, List.isEmpty_eq_false_iff]
  exact hrest

/-- A round takes a token or refuses the input. -/
theorem Lexing.round (hfound : FoundLeftmostFirst engine patterns)
    (haccepted : ofPatterns engine patterns = .ok set) (hlexing : Lexing set scan machine)
    (hsound : Scan.Sound engine patterns input scan) :
    (∃ recognizer taken moved, TakenBy set.recognizers recognizer taken scan.rest ∧
        nextEvent machine.context = .recognizedToken ∧
        (machine.exec .epoch .recognizedToken).value = (.ok .tokenizing, moved) ∧
        Lexing set (scan.push recognizer.kind taken) moved) ∨
      ∃ fault, (machine.exec .epoch (nextEvent machine.context)).value = (.error fault, machine) ∧
        (Refusal input fault ∨ ¬ StayApart engine patterns ∧ Unmatched fault) := by
  have hevent : nextEvent machine.context =
      if set.matchesStart scan.rest then .recognizedToken else .unrecognizedToken := by
    rw [hlexing.context, nextEvent]
  cases hmatches : set.matchesStart scan.rest with
  | false =>
    rw [hmatches, if_neg Bool.false_ne_true] at hevent
    rw [hevent]
    refine .inr ⟨_, hlexing.exec_unrecognizedToken, .inl ?_⟩
    rw [hsound.tracks.sameSource, String.ofList_toList]
    split
    · exact .unsupported _ _
    · exact .nonMath
  | true =>
    rw [hmatches, if_pos rfl] at hevent
    rw [hevent]
    cases htake : scan.take set with
    | mk answer after =>
      cases answer with
      | ok _ =>
        obtain ⟨moved, hexec, hmoved⟩ := hlexing.exec_recognizedToken htake
        obtain ⟨recognizer, taken, htaken, rfl⟩ := Scan.take_eq_ok htake
        exact .inl ⟨recognizer, taken, moved, htaken, rfl, hexec, hmoved⟩
      | error fault =>
        refine .inr ⟨_, hlexing.exec_recognizedToken_failed htake, ?_⟩
        obtain ⟨_, ⟨hnone, rfl⟩ | ⟨first, second, text, rfl⟩⟩ := Scan.take_eq_error htake
        · exact .inr ⟨fun hapart => recognize_ne_ok_none hfound haccepted hapart hmatches hnone, scan.offset, rfl⟩
        · exact .inl (.overlap first second _)

/-- The rounds come to an end before the characters run out, and the rounds with a bound come to the same. -/
theorem Lexing.exists_rounds (hfound : FoundLeftmostFirst engine patterns)
    (haccepted : ofPatterns engine patterns = .ok set) (hlexing : Lexing set scan machine)
    (hsound : Scan.Sound engine patterns input scan) :
    ∃ rounds outcome, rounds ≤ scan.rest.length ∧ Rounds machine rounds outcome ∧
      Settled engine patterns set input outcome ∧ ∀ bound, scan.rest.length ≤ bound → (readAll bound machine).value = outcome := by
  induction hlength : scan.rest.length using Nat.strong_induction_on generalizing scan machine with
  | _ length ih =>
    subst hlength
    by_cases hrest : scan.rest = []
    · have hdone : machine.context.scan.isExhausted = true := by
        rw [hlexing.context, Scan.isExhausted, hrest]
        rfl
      exact ⟨0, .ok machine, Nat.zero_le _, .exhausted hdone, ⟨scan, hlexing, hrest, hsound⟩, fun bound _ =>
        hlexing.readAll_of_exhausted hrest bound⟩
    have hmore := hlexing.isExhausted_eq_false hrest
    have hpos := List.length_pos_iff.2 hrest
    obtain ⟨recognizer, taken, moved, htaken, hevent, hexec, hmoved⟩ | ⟨fault, hexec, hfault⟩ :=
      hlexing.round hfound haccepted hsound
    · -- a token is taken, and what is left is shorter by its characters at least
      have hshorter : (scan.push recognizer.kind taken).rest.length < scan.rest.length := by
        obtain ⟨hne, hstarts⟩ := htaken.starts
        have htrim := trimStart_length_le (scan.rest.drop taken.length)
        have hnone := List.length_pos_iff.2 hne
        rw [List.length_drop] at htrim
        simp only [Scan.push, Scan.skipBlanks]
        omega
      obtain ⟨rounds, outcome, hfew, hrounds, hsettled, hbounded⟩ :=
        ih _ hshorter hmoved (hsound.push haccepted htaken) rfl
      refine ⟨rounds + 1, outcome, by omega, .took hmore hevent hexec hrounds, hsettled, ?_⟩
      intro bound hbound
      obtain ⟨fewer, rfl⟩ : ∃ fewer, bound = fewer + 1 := ⟨bound - 1, by omega⟩
      rw [readAll, hmore, if_neg Bool.false_ne_true, hevent, Traced.value_bind, hexec]
      exact hbounded fewer (by omega)
    · refine ⟨0, .error fault, Nat.zero_le _, .refused hmore hexec, hfault, ?_⟩
      intro bound hbound
      obtain ⟨fewer, rfl⟩ : ∃ fewer, bound = fewer + 1 := ⟨bound - 1, by omega⟩
      rw [readAll, hmore, if_neg Bool.false_ne_true, Traced.value_bind, hexec]
      rfl

/-! ### Answers -/

/-- The answer that the rounds come to, once the machine is told that the input is over. -/
def conclude : Except Fault LexerMachine → Except Fault (List Token)
  | .error fault => .error fault
  | .ok machine =>
    match (machine.exec .epoch .endOfInput).value with
    | (.error fault, _) => .error fault
    | (.ok _, final) => .ok final.context.scan.tokens

theorem lexUncapped_value (set : RecognizerSet) (input : String) :
    (lexUncapped set input).value = conclude (readAll input.length (begin set input)).value := by
  rw [lexUncapped, Traced.value_bind]
  cases (readAll input.length (begin set input)).value with
  | error fault => rfl
  | ok machine =>
    dsimp only [conclude]
    rw [Traced.value_bind]
    obtain ⟨answer, final⟩ := (machine.exec .epoch .endOfInput).value
    cases answer <;> rfl

/-- What an input may be answered with: tokens that tell what it says, or one of four faults. -/
inductive Answer (engine : Engine) (patterns : List (TokenKind × String)) (limit : Option Nat) (input : String) :
    Except Fault (List Token) → Prop
  | tokens {tokens : List Token} (hasks : Asks tokens) (hconsumed : Consumed tokens input.toList)
      (halone : ∀ earlier token later, tokens = earlier ++ token :: later →
        ∃ read rest, input.toList = read ++ rest ∧ Consumed earlier read ∧ TakenAlone engine patterns token rest) :
      Answer engine patterns limit input (.ok tokens)
  | tooLong {most : Nat} (hlimit : limit = some most) (hlong : most < input.utf8ByteSize) :
      Answer engine patterns limit input (.error (.inputTooLong input.utf8ByteSize most))
  | refused {fault : Fault} (hrefusal : Refusal input fault) : Answer engine patterns limit input (.error fault)

theorem Settled.answer {outcome : Except Fault LexerMachine} (hsettled : Settled engine patterns set input outcome)
    (limit : Option Nat) :
    Answer engine patterns limit input (conclude outcome) ∨
      ¬ StayApart engine patterns ∧ ∃ offset, conclude outcome = .error (.recognizer (.noMatch offset)) := by
  cases outcome with
  | error fault =>
    obtain hrefusal | ⟨happart, offset, rfl⟩ := hsettled
    · exact .inl (.refused hrefusal)
    · exact .inr ⟨happart, offset, rfl⟩
  | ok final =>
    obtain ⟨scan, hlexing, hrest, hsound⟩ := hsettled
    refine .inl ?_
    rw [conclude]
    cases hasked : scan.hasQuestion with
    | false =>
      rw [hlexing.exec_endOfInput_unasked hasked, hsound.tracks.sameSource, String.ofList_toList]
      exact .refused .nonMath
    | true =>
      obtain ⟨ended, hexec, _, _, hscan⟩ := hlexing.exec_endOfInput hasked
      rw [hexec]
      dsimp only
      rw [hscan]
      obtain ⟨read, hread, _, hconsumed⟩ := hsound.tracks.consumed
      rw [hrest, List.append_nil] at hread
      exact .tokens (hsound.tracks.hasQuestion.1 hasked) (hread ▸ hconsumed) hsound.alone

/-- An input beyond the limit is refused unread, and any other is read as if there were none. -/
theorem lex_value (set : RecognizerSet) (limit : Option Nat) (input : String) :
    (∃ most, limit = some most ∧ most < input.utf8ByteSize ∧
        (lex set limit input).value = .error (.inputTooLong input.utf8ByteSize most)) ∨
      (lex set limit input).value = (lexUncapped set input).value := by
  cases limit with
  | none => exact .inr rfl
  | some most =>
    by_cases hlong : most < input.utf8ByteSize
    · exact .inl ⟨most, rfl, hlong, by simp [lex, hlong]⟩
    · exact .inr (by simp [lex, hlong])

/-- Whatever recognizers are accepted, the lexer comes to an end after no more tokens than bytes, and answers with
tokens each of which stood alone where it was taken, or with one of four faults. That nothing takes what was
announced can only happen to patterns that do not stay apart. -/
theorem lex_sound (hfound : FoundLeftmostFirst engine patterns) (haccepted : ofPatterns engine patterns = .ok set)
    (limit : Option Nat) (input : String) :
    (∃ rounds outcome, rounds ≤ input.utf8ByteSize ∧ Rounds (begin set input) rounds outcome ∧
      ((∀ most ∈ limit, input.utf8ByteSize ≤ most) → (lex set limit input).value = conclude outcome)) ∧
    (Answer engine patterns limit input (lex set limit input).value ∨
      ¬ StayApart engine patterns ∧
        ∃ offset, (lex set limit input).value = .error (.recognizer (.noMatch offset))) := by
  obtain ⟨rounds, outcome, hfew, hrounds, hsettled, hbounded⟩ :=
    (lexing_begin set input).exists_rounds hfound haccepted (Scan.sound_start engine patterns input)
  have hlength : (Scan.start input.toList).rest.length ≤ input.length := by
    rw [← String.length_toList]
    exact trimStart_length_le _
  have hbytes : input.length ≤ input.utf8ByteSize := by
    rw [← String.length_toList, ← width_toList]
    exact length_le_width _
  have huncapped : (lexUncapped set input).value = conclude outcome := by
    rw [lexUncapped_value, hbounded _ hlength]
  obtain ⟨most, rfl, hlong, hvalue⟩ | hvalue := lex_value set limit input
  · refine ⟨⟨rounds, outcome, by omega, hrounds, fun hwithin => ?_⟩, ?_⟩
    · exact absurd (hwithin most rfl) (Nat.not_le_of_lt hlong)
    · rw [hvalue]
      exact .inl (.tooLong rfl hlong)
  · rw [huncapped] at hvalue
    refine ⟨⟨rounds, outcome, by omega, hrounds, fun _ => hvalue⟩, ?_⟩
    rw [hvalue]
    exact hsettled.answer limit

/-- Patterns that are not tied to the start of the text, and another question. -/
def freePatterns : List (TokenKind × String) :=
  (.question, "How much is") :: (.number, "[0-9]+") ::
    [.operand, .punctuation].map fun kind => (kind, kind.standardPattern)

/-- What these patterns are read as. -/
def freeSources : List Pattern :=
  spelling "How much is" :: .times (.one (.union .nothing (.range '0' '9'))) 1 none true ::
    [.operand, .punctuation].map standardSource

def free : RecognizerSet where
  recognizers := List.zipWith (fun given source => ⟨given.1, given.2, Pattern.search source⟩) freePatterns freeSources
  anyKind := (Pattern.firstOf freeSources).search

theorem foundLeftmostFirst_freePatterns : FoundLeftmostFirst .backtracking freePatterns :=
  foundLeftmostFirst_of_read freeSources rfl rfl

theorem ofPatterns_freePatterns : ofPatterns .backtracking freePatterns = .ok free := rfl

theorem lex_sound_free :
    FoundLeftmostFirst .backtracking freePatterns ∧ ofPatterns .backtracking freePatterns = .ok free ∧
      (Answer .backtracking freePatterns none "How much is 7?" (lex free none "How much is 7?").value ∨
        ¬ StayApart .backtracking freePatterns ∧
          ∃ offset, (lex free none "How much is 7?").value = .error (.recognizer (.noMatch offset))) :=
  ⟨foundLeftmostFirst_freePatterns, ofPatterns_freePatterns,
    (lex_sound foundLeftmostFirst_freePatterns ofPatterns_freePatterns none "How much is 7?").2⟩

/-! ### A remark that hides the end of its group -/

/-- Patterns of which the first ends in a remark. Written behind it, the second one is part of the remark up to its
line feed, and what stands there repeats the last character of the first. -/
def remarkPatterns : List (TokenKind × String) :=
  (.question, "(?x)ab#") :: (.number, "b\n*") :: [.operand, .punctuation].map fun kind => (kind, kind.standardPattern)

def remarkFirst : RecognizerSet where
  recognizers :=
    ⟨.question, "(?x)ab#", (Pattern.inOrder [.one (.single 'a'), .one (.single 'b')]).search⟩ ::
    ⟨.number, "b\n*", (Pattern.inOrder [.one (.single 'b'), .times (.one (.single '\n')) 0 none true]).search⟩ ::
    [.operand, .punctuation].map standardRecognizer
  anyKind := (Pattern.firstOf
    (Pattern.inOrder [.one (.single 'a'), .times (.one (.single 'b')) 0 none true] ::
      [.operand, .punctuation].map standardSource)).search

/-- Nothing is said of patterns that end in a remark. -/
theorem foundLeftmostFirst_remarkPatterns : FoundLeftmostFirst .backtracking remarkPatterns := by
  intro _ _ _ hapart
  have hends := hapart "(?x)ab#" List.mem_cons_self
  exact absurd hends (by decide +kernel)

theorem ofPatterns_remarkPatterns : ofPatterns .backtracking remarkPatterns = .ok remarkFirst := rfl

theorem lex_remarkFirst : (lex remarkFirst none "a").value = .error (.recognizer (.noMatch 0)) := rfl

/-- A first pattern that ends in a remark makes the patterns together announce a token that none of them takes. -/
theorem not_lex_ne_noMatch :
    ¬ ∀ engine patterns set limit input offset, FoundLeftmostFirst engine patterns →
      ofPatterns engine patterns = .ok set →
      (lex set limit input).value ≠ .error (.recognizer (.noMatch offset)) := by
  intro hnever
  exact hnever .backtracking remarkPatterns remarkFirst none "a" 0 foundLeftmostFirst_remarkPatterns
    ofPatterns_remarkPatterns lex_remarkFirst

end Lexer

end WordSums
