import Mathlib.Logic.Function.Iterate
import WordSums.Proofs.Token.Lexing
import WordSums.Proofs.Token.Taking

/-!
# The bookkeeping of a scan

A scan keeps its offset, its rest, its tokens and its mark of a question apart from each other, and every token
that is taken changes all four. They stay in step whatever the recognizers are: what lies before the rest is the
tokens written out, with nothing lost, nothing twice and only blanks between them, and the offset is its width.
So the offset always lies between two characters of the source. The scan changes only where a token is taken,
which is why failures in between make no difference.
-/

namespace WordSums

open WordSums.Text

/-- A text that tokens were read from, up to its end: a gap, then the text of each token with a gap behind it. -/
inductive Consumed : List Token → List Char → Prop
  | start {gap : List Char} (hgap : Gap gap) : Consumed [] gap
  | token {tokens : List Token} {read gap : List Char} {token : Token} (hread : Consumed tokens read) (hgap : Gap gap) :
      Consumed (tokens ++ [token]) (read ++ (token.text.toList ++ gap))

/-- An offset behind a start of a text lies between two characters. -/
theorem isValid_width {text : String} {read rest : List Char} (htext : text.toList = read ++ rest) :
    String.Pos.Raw.IsValid text ⟨width read⟩ := by
  refine String.Pos.Raw.isValid_iff_exists_append.2 ⟨String.ofList read, String.ofList rest, ?_, ?_⟩
  · rw [← String.ofList_append, ← htext, String.ofList_toList]
  · rw [← utf8ByteSize_ofList]
    rfl

namespace Scan

/-- A scan stands where its tokens end: the source is what they were read from and then the rest, the offset is
the width of the former, and the mark says whether a question is among them. -/
structure Tracks (source : String) (scan : Scan) : Prop where
  sameSource : scan.source = source.toList
  consumed : ∃ read, source.toList = read ++ scan.rest ∧ scan.offset = width read ∧ Consumed scan.tokens read
  notBlank : ∀ char ∈ scan.rest.head?, isBlank char = false
  hasQuestion : scan.hasQuestion = true ↔ Asks scan.tokens

namespace Tracks

variable {source : String} {scan : Scan}

theorem offset_add_width (htracks : Tracks source scan) : scan.offset + width scan.rest = source.utf8ByteSize := by
  obtain ⟨read, hsource, hoffset, _⟩ := htracks.consumed
  rw [hoffset, ← width_append, ← hsource, width_toList]

theorem offset_le (htracks : Tracks source scan) : scan.offset ≤ source.utf8ByteSize := by
  have hextent := htracks.offset_add_width
  omega

theorem isValid_offset (htracks : Tracks source scan) : String.Pos.Raw.IsValid source ⟨scan.offset⟩ := by
  obtain ⟨read, hsource, hoffset, _⟩ := htracks.consumed
  rw [hoffset]
  exact isValid_width hsource

theorem isExhausted_iff (htracks : Tracks source scan) :
    scan.isExhausted = true ↔ scan.offset = source.utf8ByteSize := by
  have hextent := htracks.offset_add_width
  rw [isExhausted, List.isEmpty_iff]
  constructor
  · intro hrest
    rwa [hrest, width_nil, Nat.add_zero] at hextent
  · intro hoffset
    have hlength := length_le_width scan.rest
    exact List.length_eq_zero_iff.1 (by omega)

end Tracks

theorem tracks_start (source : String) : Tracks source (start source.toList) where
  sameSource := rfl
  consumed := by
    refine ⟨source.toList.takeWhile isBlank, (takeWhile_append_trimStart _).symm, Nat.zero_add _, ?_⟩
    exact .start (gap_takeWhile _)
  notBlank := head?_trimStart_not_blank _
  hasQuestion := by simp [start, skipBlanks, Asks]

variable {source : String} {scan : Scan} {kind : TokenKind} {taken : List Char}

theorem tokens_push (scan : Scan) (kind : TokenKind) (taken : List Char) :
    (scan.push kind taken).tokens = scan.tokens ++ [⟨kind, String.ofList taken⟩] := rfl

theorem asks_append_singleton {tokens : List Token} {token : Token} :
    Asks (tokens ++ [token]) ↔ Asks tokens ∨ token.kind = .question := by
  simp [Asks, or_and_right, exists_or]

/-- Taking a text off the start of the rest keeps everything in step. -/
theorem Tracks.push (htracks : Tracks source scan) (hstarts : taken <+: scan.rest) :
    Tracks source (scan.push kind taken) where
  sameSource := htracks.sameSource
  consumed := by
    obtain ⟨read, hsource, hoffset, hconsumed⟩ := htracks.consumed
    obtain ⟨after, hafter⟩ := hstarts
    have hdrop : scan.rest.drop taken.length = after := by rw [← hafter, List.drop_left]
    refine ⟨read ++ (taken ++ after.takeWhile isBlank), ?_, ?_, ?_⟩
    · simp only [Scan.push, skipBlanks, hdrop, List.append_assoc, takeWhile_append_trimStart]
      rw [hafter, hsource]
    · simp only [Scan.push, skipBlanks, hdrop, width_append, hoffset, Nat.add_assoc]
    · rw [tokens_push]
      have hread : Consumed (scan.tokens ++ [⟨kind, String.ofList taken⟩])
          (read ++ ((String.ofList taken).toList ++ after.takeWhile isBlank)) := .token hconsumed (gap_takeWhile after)
      rwa [String.toList_ofList] at hread
  notBlank := head?_trimStart_not_blank _
  hasQuestion := by
    rw [tokens_push, asks_append_singleton, ← htracks.hasQuestion]
    simp [Scan.push, skipBlanks]

theorem offset_lt_push (scan : Scan) (kind : TokenKind) (htaken : taken ≠ []) :
    scan.offset < (scan.push kind taken).offset := by
  have hpos := List.length_pos_iff.2 htaken
  have hwidth := length_le_width taken
  simp only [push, skipBlanks]
  omega

/-- A scan that tracks its source goes on doing so, whether a token is taken or not. -/
theorem Tracks.take (htracks : Tracks source scan) (set : RecognizerSet) : Tracks source (scan.take set).2 := by
  cases htake : scan.take set with
  | mk answer after =>
    cases answer with
    | error fault =>
      obtain ⟨rfl, _⟩ := take_eq_error htake
      exact htracks
    | ok _ =>
      obtain ⟨recognizer, taken, htaken, rfl⟩ := take_eq_ok htake
      exact htracks.push htaken.starts.2

/-- The scan after a number of attempts to take a token. -/
def afterAttempts (set : RecognizerSet) (source : String) (count : Nat) : Scan :=
  (fun scan : Scan => (scan.take set).2)^[count] (start source.toList)

theorem tracks_afterAttempts (set : RecognizerSet) (source : String) (count : Nat) :
    Tracks source (afterAttempts set source count) := by
  induction count with
  | zero => exact tracks_start source
  | succ count ih =>
    rw [afterAttempts, Function.iterate_succ_apply']
    exact ih.take set

/-- However often a token was to be taken, and whichever attempts failed: the scan is in step with its source, its
offset lies between two characters and is the end of the source exactly when nothing is left, the next attempt adds
one token and moves on if it succeeds, and changes nothing if it fails. -/
theorem attempts_keep_track (set : RecognizerSet) (source : String) (count : Nat) :
    let scan := afterAttempts set source count
    Tracks source scan ∧ scan.offset ≤ source.utf8ByteSize ∧ String.Pos.Raw.IsValid source ⟨scan.offset⟩ ∧
      (scan.isExhausted = true ↔ scan.offset = source.utf8ByteSize) ∧
      (∀ after, scan.take set = (.ok (), after) →
        ∃ token, after.tokens = scan.tokens ++ [token] ∧ scan.offset < after.offset ∧
          String.Pos.Raw.IsValid source ⟨scan.offset + token.text.utf8ByteSize⟩) ∧
      ∀ fault after, scan.take set = (.error fault, after) →
        after = scan ∧ (fault = .noMatch scan.offset ∨ ∃ first second text, fault = .overlap first second text) := by
  intro scan
  have htracks : Tracks source scan := tracks_afterAttempts set source count
  refine ⟨htracks, htracks.offset_le, htracks.isValid_offset, htracks.isExhausted_iff, ?_, ?_⟩
  · intro after htake
    obtain ⟨recognizer, taken, htaken, rfl⟩ := take_eq_ok htake
    obtain ⟨hne, rest, hrest⟩ := htaken.starts
    refine ⟨_, tokens_push scan recognizer.kind taken, offset_lt_push scan recognizer.kind hne, ?_⟩
    -- the offset between the token and the blanks behind it
    obtain ⟨read, hsource, hoffset, _⟩ := htracks.consumed
    rw [utf8ByteSize_ofList, hoffset, ← width_append]
    have hsplit : source.toList = read ++ taken ++ rest := by rw [hsource, ← hrest, List.append_assoc]
    exact isValid_width hsplit
  · intro fault after htake
    obtain ⟨rfl, hcause⟩ := take_eq_error htake
    exact ⟨rfl, hcause.imp_left And.right⟩

end Scan

end WordSums
