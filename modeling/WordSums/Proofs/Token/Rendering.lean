import WordSums.Proofs.Token.Legal

/-!
# Tokens written out

A sequence of tokens is written out as their texts in order, with gaps of blanks before, between and
behind them. A gap may be empty, except between two numbers, which would be one. Every text splits
in exactly one way into legal tokens written out and a rest at which nothing more can be read. The
proof takes the tokens off one by one, always the one token that can be taken, so both the split and
its uniqueness follow the text from left to right.
-/

namespace WordSums

open WordSums.Text

/-- A token whose text can be a token of its kind. -/
def Token.Legal (token : Token) : Prop :=
  token.kind.Legal token.text.toList

/-- A text of blanks only, which may be empty. -/
def Gap (text : List Char) : Prop :=
  ∀ char ∈ text, isBlank char = true

/-- Tokens written out in order, each with a gap behind it, which is not empty between two numbers. -/
inductive Written : List Token → List Char → Prop
  | nil : Written [] []
  | cons {token : Token} {gap : List Char} {tokens : List Token} {text : List Char} (hgap : Gap gap)
      (hapart : token.kind = .number → tokens.head?.map Token.kind = some .number → gap ≠ [])
      (hrest : Written tokens text) : Written (token :: tokens) (token.text.toList ++ (gap ++ text))

/-- Tokens written out with a gap at the start as well. -/
def Renders (tokens : List Token) (text : List Char) : Prop :=
  ∃ gap body, Gap gap ∧ Written tokens body ∧ text = gap ++ body

/-- A text at which nothing more can be read: it starts neither with a blank nor with the text of a
token. -/
structure Stuck (rest : List Char) : Prop where
  notBlank : ∀ char ∈ rest.head?, isBlank char = false
  noToken : ∀ kind taken, TokenKind.Legal kind taken → ¬ taken <+: rest

/-- A text split into legal tokens written out and a rest at which nothing more can be read. -/
structure Splits (input : List Char) (tokens : List Token) (rest : List Char) : Prop where
  legal : ∀ token ∈ tokens, token.Legal
  renders : ∃ before, Renders tokens before ∧ input = before ++ rest
  stuck : Stuck rest

theorem stuck_nil : Stuck [] where
  notBlank := by simp
  noToken := by
    intro kind taken hlegal hstarts
    exact hlegal.ne_nil (List.prefix_nil.1 hstarts)

theorem Stuck.not_takes {rest : List Char} (hstuck : Stuck rest) (kind : TokenKind) (taken : List Char) :
    ¬ kind.Takes taken rest :=
  fun htakes => hstuck.noToken kind taken htakes.1 htakes.starts

theorem Stuck.not_isDigit {rest : List Char} (hstuck : Stuck rest) : ∀ char ∈ rest.head?, char.isDigit = false := by
  intro char hhead
  obtain ⟨more, rfl⟩ := List.head?_eq_some_iff.1 hhead
  by_contra hdigit
  refine hstuck.noToken .number [char] ⟨by simp, ?_⟩ (by simp)
  simpa using hdigit

/-! ### Gaps -/

theorem Gap.not_isDigit {gap : List Char} (hgap : Gap gap) : ∀ char ∈ gap, char.isDigit = false := by
  intro char hmem
  by_contra hdigit
  have hblank := TokenKind.isBlank_of_isDigit (eq_true_of_ne_false hdigit)
  rw [hgap char hmem] at hblank
  contradiction

theorem gap_takeWhile (text : List Char) : Gap (text.takeWhile isBlank) :=
  fun _ hmem => isBlank_of_mem_takeWhile hmem

theorem trimStart_gap_append {gap text : List Char} (hgap : Gap gap)
    (hhead : ∀ char ∈ text.head?, isBlank char = false) : trimStart (gap ++ text) = text := by
  rw [trimStart, List.dropWhile_append_of_pos hgap]
  exact trimStart_eq_self hhead

theorem head?_trimStart_not_blank (text : List Char) : ∀ char ∈ (trimStart text).head?, isBlank char = false := by
  intro char hhead
  obtain ⟨rest, htrim⟩ := List.head?_eq_some_iff.1 hhead
  exact isBlank_head_trimStart htrim

/-! ### Reading token by token -/

/-- Tokens taken off the start of a text one by one, each with the blanks behind it, until a rest is
left. -/
inductive Reads : List Char → List Token → List Char → Prop
  | done {rest : List Char} : Reads rest [] rest
  | take {kind : TokenKind} {taken text : List Char} {tokens : List Token} {rest : List Char}
      (htakes : kind.Takes taken text) (hrest : Reads (trimStart (text.drop taken.length)) tokens rest) :
      Reads text (⟨kind, String.ofList taken⟩ :: tokens) rest

/-- Reading on until nothing more can be read gives the same tokens and the same rest each time. -/
theorem Reads.unique {text : List Char} {left right : List Token} {leftRest rightRest : List Char}
    (hleft : Reads text left leftRest) (hleftStuck : Stuck leftRest)
    (hright : Reads text right rightRest) (hrightStuck : Stuck rightRest) : left = right ∧ leftRest = rightRest := by
  induction hleft generalizing right with
  | done =>
    cases hright with
    | done => exact ⟨rfl, rfl⟩
    | take htakes _ => exact absurd htakes (hleftStuck.not_takes _ _)
  | take htakes _ ih =>
    cases hright with
    | done => exact absurd htakes (hrightStuck.not_takes _ _)
    | take hother hothers =>
      obtain ⟨rfl, rfl⟩ := htakes.unique hother
      obtain ⟨rfl, rfl⟩ := ih hleftStuck hothers
      exact ⟨rfl, rfl⟩

/-- Reading can always go on until nothing more can be read. -/
theorem exists_reads (text : List Char) (hhead : ∀ char ∈ text.head?, isBlank char = false) :
    ∃ tokens rest, Reads text tokens rest ∧ Stuck rest := by
  induction hlength : text.length using Nat.strong_induction_on generalizing text with
  | _ length ih =>
    subst hlength
    by_cases hnone : ∀ kind taken, TokenKind.Legal kind taken → ¬ taken <+: text
    · exact ⟨[], text, .done, hhead, hnone⟩
    · push Not at hnone
      obtain ⟨kind, start, hlegal, hstarts⟩ := hnone
      obtain ⟨taken, htakes⟩ := hlegal.exists_takes hstarts
      have hshorter : (trimStart (text.drop taken.length)).length < text.length := by
        have htaken := List.length_pos_iff.2 htakes.1.ne_nil
        have hfits := htakes.starts.length_le
        have htrim := trimStart_length_le (text.drop taken.length)
        rw [List.length_drop] at htrim
        omega
      obtain ⟨tokens, rest, hreads, hstuck⟩ := ih _ hshorter _ (head?_trimStart_not_blank _) rfl
      exact ⟨_, rest, .take htakes hreads, hstuck⟩

/-! ### Reading and writing -/

/-- Legal tokens written out start with the first character of the first token. -/
theorem Written.eq_nil_or_cons {tokens : List Token} {text : List Char} (hwritten : Written tokens text)
    (hlegal : ∀ token ∈ tokens, token.Legal) :
    (tokens = [] ∧ text = []) ∨ ∃ token others char rest, tokens = token :: others ∧ text = char :: rest ∧
      TokenKind.ofInitial? char = some token.kind := by
  cases hwritten with
  | nil => exact Or.inl ⟨rfl, rfl⟩
  | @cons token gap others after _ _ _ =>
    obtain ⟨char, rest, htext, hinitial⟩ := (hlegal token List.mem_cons_self).exists_initial
    exact Or.inr ⟨token, others, char, rest ++ (gap ++ after), rfl, by rw [htext, List.cons_append], hinitial⟩

theorem Written.head?_append_not_blank {tokens : List Token} {text rest : List Char} (hwritten : Written tokens text)
    (hlegal : ∀ token ∈ tokens, token.Legal) (hrest : ∀ char ∈ rest.head?, isBlank char = false) :
    ∀ char ∈ (text ++ rest).head?, isBlank char = false := by
  obtain ⟨rfl, rfl⟩ | ⟨token, others, char, more, rfl, rfl, hinitial⟩ := hwritten.eq_nil_or_cons hlegal
  · exact hrest
  · intro found hfound
    obtain rfl : char = found := by simpa using hfound
    exact TokenKind.isBlank_of_ofInitial? hinitial

/-- A number that is written out is followed by no digit. -/
theorem Written.not_isDigit_after {tokens : List Token} {gap text rest : List Char} (hwritten : Written tokens text)
    (hgap : Gap gap) (hapart : tokens.head?.map Token.kind = some .number → gap ≠ [])
    (hlegal : ∀ token ∈ tokens, token.Legal) (hstuck : Stuck rest) :
    ∀ char ∈ (gap ++ (text ++ rest)).head?, char.isDigit = false := by
  intro char hhead
  cases gap with
  | cons first gap =>
    obtain rfl : first = char := by simpa using hhead
    exact hgap.not_isDigit first List.mem_cons_self
  | nil =>
    obtain ⟨rfl, rfl⟩ | ⟨token, others, first, more, rfl, rfl, hinitial⟩ := hwritten.eq_nil_or_cons hlegal
    · exact hstuck.not_isDigit char hhead
    · obtain rfl : first = char := by simpa using hhead
      by_contra hdigit
      have hnumber := TokenKind.isDigit_iff_ofInitial?.1 (eq_true_of_ne_false hdigit)
      rw [hinitial] at hnumber
      exact hapart hnumber rfl

/-- Legal tokens written out before a rest are read back. -/
theorem Written.reads {tokens : List Token} {text rest : List Char} (hwritten : Written tokens text)
    (hlegal : ∀ token ∈ tokens, token.Legal) (hstuck : Stuck rest) : Reads (text ++ rest) tokens rest := by
  induction hwritten with
  | nil => exact .done
  | @cons token gap tokens text hgap hapart hrest ih =>
    have hlegal' : ∀ other ∈ tokens, other.Legal := fun other hmem => hlegal other (List.mem_cons_of_mem _ hmem)
    have hreads := ih hlegal'
    have htakes : token.kind.Takes token.text.toList (token.text.toList ++ (gap ++ (text ++ rest))) :=
      ⟨hlegal token List.mem_cons_self, _, rfl,
        fun hkind => hrest.not_isDigit_after hgap (hapart hkind) hlegal' hstuck⟩
    have hafter : trimStart ((token.text.toList ++ (gap ++ (text ++ rest))).drop token.text.toList.length) = text ++ rest := by
      rw [List.drop_left]
      exact trimStart_gap_append hgap (hrest.head?_append_not_blank hlegal' hstuck.notBlank)
    rw [← hafter] at hreads
    have hall := Reads.take htakes hreads
    rw [String.ofList_toList] at hall
    simpa only [List.append_assoc] using hall

/-- What is read is legal tokens written out before the rest. -/
theorem Reads.written {text rest : List Char} {tokens : List Token} (hreads : Reads text tokens rest) :
    (∀ token ∈ tokens, token.Legal) ∧ ∃ body, Written tokens body ∧ text = body ++ rest := by
  induction hreads with
  | done => exact ⟨by simp, [], .nil, rfl⟩
  | @take kind taken text tokens rest htakes _ ih =>
    obtain ⟨hlegal, body, hbody, htrim⟩ := ih
    obtain ⟨htaken, after, rfl, hstop⟩ := htakes
    rw [List.drop_left] at htrim
    have hafter : after = after.takeWhile isBlank ++ (body ++ rest) := by
      rw [← htrim, takeWhile_append_trimStart]
    refine ⟨?_, taken ++ (after.takeWhile isBlank ++ body), ?_, ?_⟩
    · intro token hmem
      obtain rfl | hmem := List.mem_cons.1 hmem
      · simpa [Token.Legal] using htaken
      · exact hlegal token hmem
    · have hapart : kind = .number → tokens.head?.map Token.kind = some .number → after.takeWhile isBlank ≠ [] := by
        intro hkind hnext hgap
        obtain ⟨rfl, rfl⟩ | ⟨token, others, char, more, rfl, rfl, hinitial⟩ := hbody.eq_nil_or_cons hlegal
        · simp at hnext
        · rw [hgap] at hafter
          have hdigit := hstop hkind char (by rw [hafter]; rfl)
          obtain hnumber : token.kind = .number := by simpa using hnext
          rw [hnumber] at hinitial
          rw [TokenKind.isDigit_iff_ofInitial?.2 hinitial] at hdigit
          contradiction
      have hall : Written (⟨kind, String.ofList taken⟩ :: tokens)
          ((String.ofList taken).toList ++ (after.takeWhile isBlank ++ body)) :=
        .cons (gap_takeWhile after) hapart hbody
      rwa [String.toList_ofList] at hall
    · rw [List.append_assoc, List.append_assoc, ← hafter]

/-- To split a text is to read it until nothing more can be read. -/
theorem splits_iff_reads {input : List Char} {tokens : List Token} {rest : List Char} :
    Splits input tokens rest ↔ Reads (trimStart input) tokens rest ∧ Stuck rest := by
  constructor
  · rintro ⟨hlegal, ⟨before, ⟨gap, body, hgap, hbody, rfl⟩, rfl⟩, hstuck⟩
    rw [List.append_assoc, trimStart_gap_append hgap (hbody.head?_append_not_blank hlegal hstuck.notBlank)]
    exact ⟨hbody.reads hlegal hstuck, hstuck⟩
  · rintro ⟨hreads, hstuck⟩
    obtain ⟨hlegal, body, hbody, htrim⟩ := hreads.written
    refine ⟨hlegal, ⟨input.takeWhile isBlank ++ body, ⟨_, body, gap_takeWhile input, hbody, rfl⟩, ?_⟩, hstuck⟩
    rw [List.append_assoc, ← htrim, takeWhile_append_trimStart]

/-- Every text splits. -/
theorem exists_splits (input : List Char) : ∃ tokens rest, Splits input tokens rest := by
  obtain ⟨tokens, rest, hreads, hstuck⟩ := exists_reads (trimStart input) (head?_trimStart_not_blank input)
  exact ⟨tokens, rest, splits_iff_reads.2 ⟨hreads, hstuck⟩⟩

/-- A text splits in one way only. -/
theorem Splits.unique {input : List Char} {left right : List Token} {leftRest rightRest : List Char}
    (hleft : Splits input left leftRest) (hright : Splits input right rightRest) :
    left = right ∧ leftRest = rightRest :=
  (splits_iff_reads.1 hleft).1.unique hleft.stuck (splits_iff_reads.1 hright).1 hright.stuck

end WordSums
