import WordSums.Proofs.Token.Rounds

/-!
# What the standard lexer answers

The answer to an input is decided by its one split into tokens and a rest. Without a question token
the input is no question about arithmetic, whatever the rest; with one it is answered with its
tokens if nothing is left, and refused for the first word of the rest otherwise. The lexer therefore
accepts exactly the texts in which legal tokens with a question among them are written out, and
gives back those tokens.
-/

namespace WordSums

open WordSums.Text

def Asks (tokens : List Token) : Prop :=
  ∃ token ∈ tokens, token.kind = .question

instance (tokens : List Token) : Decidable (Asks tokens) :=
  inferInstanceAs (Decidable (∃ token ∈ tokens, token.kind = .question))

/-- The longest start of a text that holds no blank. -/
structure FirstWord (word text : List Char) : Prop where
  starts : word <+: text
  notBlank : ∀ char ∈ word, isBlank char = false
  longest : ∀ other, other <+: text → (∀ char ∈ other, isBlank char = false) → other.length ≤ word.length

theorem FirstWord.unique {left right text : List Char} (hleft : FirstWord left text) (hright : FirstWord right text) :
    left = right := by
  have hlength : left.length = right.length :=
    Nat.le_antisymm (hright.longest left hleft.starts hleft.notBlank) (hleft.longest right hright.starts hright.notBlank)
  exact (List.prefix_of_prefix_length_le hleft.starts hright.starts hlength.le).eq_of_length hlength

/-- Where a text starts with no blank, its first word stands at its start. -/
theorem firstWord_isFirst {text : List Char} (hhead : ∀ char ∈ text.head?, isBlank char = false) :
    FirstWord (firstWord text) text := by
  rw [firstWord, trimStart_eq_self hhead]
  refine ⟨List.takeWhile_prefix _, fun char hmem => by simpa using List.mem_takeWhile_imp hmem, ?_⟩
  rintro other ⟨after, rfl⟩ hother
  rw [List.takeWhile_append_of_pos (fun char hmem => by simp [hother char hmem]), List.length_append]
  exact Nat.le_add_right _ _

theorem firstWord_ne_nil {text : List Char} (hhead : ∀ char ∈ text.head?, isBlank char = false) (hne : text ≠ []) :
    firstWord text ≠ [] := by
  obtain ⟨char, rest, rfl⟩ := List.exists_cons_of_ne_nil hne
  rw [firstWord, trimStart_eq_self hhead, List.takeWhile_cons_of_pos (by simp [hhead char rfl])]
  simp

theorem Written.infix_of_mem {tokens : List Token} {text : List Char} (hwritten : Written tokens text) {token : Token}
    (hmem : token ∈ tokens) : token.text.toList <:+: text := by
  induction hwritten with
  | nil => cases hmem
  | cons _ _ _ ih =>
    obtain rfl | hmem := List.mem_cons.1 hmem
    · exact (List.prefix_append _ _).isInfix
    · exact ((ih hmem).trans (List.suffix_append _ _).isInfix).trans (List.suffix_append _ _).isInfix

/-- A text whose tokens ask holds the question words. -/
theorem Splits.infix_of_asks {input rest : List Char} {tokens : List Token} (hsplits : Splits input tokens rest)
    (hasks : Asks tokens) : "What is".toList <:+: input := by
  obtain ⟨token, hmem, hkind⟩ := hasks
  obtain ⟨before, ⟨gap, body, _, hbody, rfl⟩, rfl⟩ := hsplits.renders
  have htext : token.text.toList = "What is".toList := by
    have hlegal := hsplits.legal token hmem
    rwa [Token.Legal, hkind] at hlegal
  have hwithin := hbody.infix_of_mem hmem
  rw [htext] at hwithin
  exact (hwithin.trans (List.suffix_append gap body).isInfix).trans (List.prefix_append _ rest).isInfix

namespace Lexer

/-- What an input that splits into tokens and a rest is answered with. -/
def verdict (input : String) (tokens : List Token) (rest : List Char) : Except Fault (List Token) :=
  if Asks tokens then
    if rest = [] then .ok tokens
    else .error (.unsupportedOperation (String.ofList (firstWord rest))
      (input.utf8ByteSize - (String.ofList rest).utf8ByteSize))
  else .error (.nonMathQuestion input)

theorem hasQuestion_iff_asks {source rest : List Char} {tokens : List Token} {scan : Scan}
    (hreaches : (Scan.start source).Reaches tokens rest scan) : scan.hasQuestion = true ↔ Asks tokens := by
  rw [hreaches.hasQuestion]
  simp [Scan.start, Scan.skipBlanks, Asks]

/-- What the lexer answers once its rounds have brought it before a rest where reading ends. -/
theorem Lexing.finish {scan : Scan} {machine : LexerMachine} (hlexing : Lexing .standard scan machine)
    {input : String} {tokens : List Token} {rest : List Char} (hstuck : Stuck rest)
    (hreaches : (Scan.start input.toList).Reaches tokens rest scan) {bound : Nat} (hbound : rest.length ≤ bound)
    (hrounds : (readAll input.length (begin .standard input)).value = (readAll bound machine).value) :
    (lexUncapped .standard input).value = verdict input tokens rest := by
  have htokens : scan.tokens = tokens := hreaches.tokens.trans (List.nil_append tokens)
  have hsource : String.ofList scan.source = input := by
    rw [hreaches.source]
    exact String.ofList_toList
  have hoffset : scan.offset = input.utf8ByteSize - (String.ofList rest).utf8ByteSize := by
    have hextent := hreaches.extent
    rw [Scan.extent_start, hreaches.rest, width_toList] at hextent
    rw [utf8ByteSize_ofList]
    omega
  have hasked := hasQuestion_iff_asks hreaches
  rw [lexUncapped, Traced.value_bind, hrounds]
  by_cases hrest : rest = []
  · rw [hlexing.readAll_of_exhausted (hreaches.rest.trans hrest)]
    dsimp only
    rw [Traced.value_bind]
    by_cases hasks : Asks tokens
    · obtain ⟨final, hexec, _, _, hfinal⟩ := hlexing.exec_endOfInput (hasked.2 hasks)
      rw [hexec, verdict, if_pos hasks, if_pos hrest]
      change Except.ok final.context.scan.tokens = _
      rw [hfinal, htokens]
    · have hunasked : scan.hasQuestion = false := Bool.eq_false_iff.2 fun hyes => hasks (hasked.1 hyes)
      rw [hlexing.exec_endOfInput_unasked hunasked, verdict, if_neg hasks, hsource]
      rfl
  · obtain ⟨fewer, rfl⟩ : ∃ fewer, bound = fewer + 1 := by
      have hlonger := List.length_pos_iff.2 hrest
      exact ⟨bound - 1, by omega⟩
    have hmore : scan.rest ≠ [] := hreaches.rest ▸ hrest
    rw [hlexing.readAll_of_stuck (hreaches.rest ▸ hstuck) hmore, Scan.fragment, hreaches.rest, hoffset, hsource]
    by_cases hasks : Asks tokens
    · rw [if_pos (hasked.2 hasks), verdict, if_pos hasks, if_neg hrest]
      rfl
    · rw [if_neg (fun hyes => hasks (hasked.1 hyes)), verdict, if_neg hasks]
      rfl

theorem lexUncapped_standard {input : String} {tokens : List Token} {rest : List Char}
    (hsplits : Splits input.toList tokens rest) :
    (lexUncapped .standard input).value = verdict input tokens rest := by
  obtain ⟨hreads, hstuck⟩ := splits_iff_reads.1 hsplits
  have hbound : (trimStart input.toList).length ≤ input.length := by
    rw [← String.length_toList]
    exact trimStart_length_le _
  obtain ⟨left, after, moved, hleft, hreaches, hmoved, hrounds⟩ :=
    (lexing_begin .standard input).readAll_of_reads hreads rfl hbound
  exact hmoved.finish hstuck hreaches hleft hrounds

/-- Tokens are the answer under a limit exactly when the input keeps to the limit and they are the
answer without one. -/
theorem lex_eq_ok_iff {recognizers : RecognizerSet} {limit : Option Nat} {input : String} {tokens : List Token} :
    (lex recognizers limit input).value = .ok tokens ↔
      (∀ most ∈ limit, input.utf8ByteSize ≤ most) ∧ (lexUncapped recognizers input).value = .ok tokens := by
  cases limit with
  | none => simp [lex]
  | some most =>
    by_cases hlimit : most < input.utf8ByteSize
    · simp [lex, hlimit, Nat.not_le_of_lt hlimit]
    · simp [lex, hlimit, Nat.le_of_not_lt hlimit]

theorem verdict_eq_ok_iff {input : String} {tokens found : List Token} {rest : List Char} :
    verdict input tokens rest = .ok found ↔ Asks tokens ∧ rest = [] ∧ found = tokens := by
  unfold verdict
  by_cases hasks : Asks tokens
  · by_cases hrest : rest = []
    · simp [hasks, hrest, eq_comm]
    · simp [hasks, hrest]
  · simp [hasks]

theorem verdict_eq_nonMathQuestion_iff {input : String} {tokens : List Token} {rest : List Char} :
    verdict input tokens rest = .error (.nonMathQuestion input) ↔ ¬ Asks tokens := by
  unfold verdict
  by_cases hasks : Asks tokens
  · by_cases hrest : rest = []
    · simp [hasks, hrest]
    · simp [hasks, hrest]
  · simp [hasks]

theorem verdict_eq_unsupportedOperation_iff {input fragment : String} {tokens : List Token} {rest : List Char}
    {offset : Nat} :
    verdict input tokens rest = .error (.unsupportedOperation fragment offset) ↔
      (Asks tokens ∧ rest ≠ []) ∧ fragment = String.ofList (firstWord rest) ∧
        offset = input.utf8ByteSize - (String.ofList rest).utf8ByteSize := by
  unfold verdict
  by_cases hasks : Asks tokens
  · by_cases hrest : rest = []
    · simp [hasks, hrest]
    · simp [hasks, hrest, eq_comm]
  · simp [hasks]

/-- The standard recognizers accept exactly the inputs in which legal tokens are written out with a
question among them. -/
theorem lexUncapped_standard_eq_ok_iff {input : String} {tokens : List Token} :
    (lexUncapped .standard input).value = .ok tokens ↔
      Asks tokens ∧ (∀ token ∈ tokens, token.Legal) ∧ Renders tokens input.toList := by
  constructor
  · intro hanswer
    obtain ⟨found, rest, hsplits⟩ := exists_splits input.toList
    rw [lexUncapped_standard hsplits, verdict_eq_ok_iff] at hanswer
    obtain ⟨hasks, rfl, rfl⟩ := hanswer
    obtain ⟨before, hbefore, hinput⟩ := hsplits.renders
    rw [hinput, List.append_nil]
    exact ⟨hasks, hsplits.legal, hbefore⟩
  · rintro ⟨hasks, hlegal, hrenders⟩
    have hsplits : Splits input.toList tokens [] :=
      ⟨hlegal, ⟨input.toList, hrenders, (List.append_nil _).symm⟩, stuck_nil⟩
    rw [lexUncapped_standard hsplits, verdict_eq_ok_iff]
    exact ⟨hasks, rfl, rfl⟩

/-! ### The answers of the standard lexer -/

/-- Without a limit the standard lexer accepts exactly what can be written out, and reads it back. -/
theorem lex_standard_eq_ok_iff (input : String) (tokens : List Token) :
    (lex .standard none input).value = .ok tokens ↔
      Asks tokens ∧ (∀ token ∈ tokens, token.Legal) ∧ Renders tokens input.toList := by
  rw [lex_eq_ok_iff, lexUncapped_standard_eq_ok_iff]
  exact and_iff_right (by simp)

/-- Every input splits in exactly one way into legal tokens and a rest, and the split decides the
answer. -/
theorem lex_standard_classification (input : String) :
    ∃ tokens rest, Splits input.toList tokens rest ∧
      (∀ others left, Splits input.toList others left → others = tokens ∧ left = rest) ∧
      ((lex .standard none input).value = .error (.nonMathQuestion input) ↔ ¬ Asks tokens) ∧
      (∀ fragment offset, (lex .standard none input).value = .error (.unsupportedOperation fragment offset) ↔
        (Asks tokens ∧ rest ≠ []) ∧ FirstWord fragment.toList rest ∧
          offset = input.utf8ByteSize - (String.ofList rest).utf8ByteSize) ∧
      ((lex .standard none input).value = .ok tokens ↔ Asks tokens ∧ rest = []) ∧
      (¬ "What is".toList <:+: input.toList →
        (lex .standard none input).value = .error (.nonMathQuestion input)) ∧
      (Asks tokens → rest ≠ [] → ∃ fragment offset, fragment ≠ "" ∧
        (lex .standard none input).value = .error (.unsupportedOperation fragment offset)) := by
  obtain ⟨tokens, rest, hsplits⟩ := exists_splits input.toList
  have hanswer : (lex .standard none input).value = verdict input tokens rest := lexUncapped_standard hsplits
  rw [hanswer]
  refine ⟨tokens, rest, hsplits, fun _ _ hother => hother.unique hsplits, verdict_eq_nonMathQuestion_iff, ?_, ?_, ?_, ?_⟩
  · intro fragment offset
    rw [verdict_eq_unsupportedOperation_iff]
    have hfirst := firstWord_isFirst hsplits.stuck.notBlank
    have hfragment : fragment = String.ofList (firstWord rest) ↔ FirstWord fragment.toList rest := by
      constructor
      · rintro rfl
        rwa [String.toList_ofList]
      · intro hword
        rw [← hword.unique hfirst, String.ofList_toList]
    rw [hfragment]
  · rw [verdict_eq_ok_iff]
    exact ⟨fun hok => ⟨hok.1, hok.2.1⟩, fun hok => ⟨hok.1, hok.2, rfl⟩⟩
  · intro hmissing
    rw [verdict_eq_nonMathQuestion_iff]
    exact fun hasks => hmissing (hsplits.infix_of_asks hasks)
  · intro hasks hrest
    refine ⟨_, _, ?_, verdict_eq_unsupportedOperation_iff.2 ⟨⟨hasks, hrest⟩, rfl, rfl⟩⟩
    intro hempty
    exact firstWord_ne_nil hsplits.stuck.notBlank hrest (String.ofList_eq_empty_iff.1 hempty)

end Lexer

end WordSums
