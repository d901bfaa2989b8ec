import WordSums.Program
import WordSums.Proofs.Service.Readings
import WordSums.Proofs.Session.Conversation
import WordSums.Proofs.Text.Decimal
import WordSums.Proofs.Text.Lines

/-!
# Conversations in parts

A conversation goes on line by line from the state that it has reached, so one over lines that come in two parts is
the one over the first part followed by the one over the second, with a prompt between them that is printed once.
After a line that asks to leave nothing is heard, and the second part might as well not be there. Two conversations
over the same lines hear them at different readings of the clock, but agree in all that is not a time. A single
command about a question reaches the service as the line about the question does, so it prints what the
conversation prints between two prompts and counts what it counts.
-/

namespace WordSums

open WordSums.Text WordSums.Time

namespace Conversation

/-! ### Parts of a conversation -/

section Parts

variable {State : Type} {servant : Servant State} {state : State} {now : Timestamp} {line : List Char}
  {first : List (Timestamp × InputLine)}

theorem respond?_eq_none_iff : respond? servant state now line = none ↔ trim line = farewell := by
  unfold respond?
  dsimp only
  split
  case isTrue hfarewell => exact ⟨fun _ => hfarewell, fun _ => rfl⟩
  case isFalse hstays =>
    split
    · exact ⟨nofun, fun hfarewell => absurd hfarewell hstays⟩
    · exact ⟨nofun, fun hfarewell => absurd hfarewell hstays⟩

/-- A conversation followed by another, without the prompt with which that begins. -/
theorem afterPrompt_append (hgoesOn : ∀ entry ∈ first, entry.2.goesOn = true)
    (second : List (Timestamp × InputLine)) :
    afterPrompt servant state (first ++ second) =
      let before := afterPrompt servant state first
      let after := afterPrompt servant before.state second
      ⟨before.output ++ after.output, after.state, after.ended⟩ := by
  induction first generalizing state with
  | nil => simp [afterPrompt]
  | cons entry first ih =>
    obtain ⟨hentry, hfirst⟩ := List.forall_mem_cons.1 hgoesOn
    obtain ⟨now, line⟩ := entry
    cases line with
    | unreadable => cases hentry
    | text line =>
      cases hrespond : respond? servant state now line with
      | none =>
        rw [InputLine.goesOn, decide_eq_true_eq] at hentry
        exact absurd (respond?_eq_none_iff.1 hrespond) hentry
      | some answered =>
        obtain ⟨output, after⟩ := answered
        rw [List.cons_append, afterPrompt_text, afterPrompt_text, hrespond]
        dsimp only
        rw [ih hfirst]
        simp [String.append_assoc]

theorem afterPrompt_append_of_ends (hends : ∃ entry ∈ first, entry.2.goesOn = false)
    (second : List (Timestamp × InputLine)) :
    afterPrompt servant state (first ++ second) = afterPrompt servant state first := by
  induction first generalizing state with
  | nil => simp at hends
  | cons entry first ih =>
    obtain ⟨now, line⟩ := entry
    cases line with
    | unreadable => rfl
    | text line =>
      rw [List.cons_append, afterPrompt_text, afterPrompt_text]
      cases hrespond : respond? servant state now line with
      | none => rfl
      | some answered =>
        obtain hentry | hfirst := (List.exists_mem_cons_iff ..).1 hends
        · rw [InputLine.goesOn, decide_eq_false_iff_not, not_not, ← respond?_eq_none_iff, hrespond] at hentry
          cases hentry
        · dsimp only
          rw [ih hfirst]

theorem hold_append_state (hgoesOn : ∀ entry ∈ first, entry.2.goesOn = true)
    (second : List (Timestamp × InputLine)) :
    (hold servant state (first ++ second)).state = (hold servant (hold servant state first).state second).state := by
  rw [hold, afterPrompt_append hgoesOn]
  rfl

theorem hold_append_of_ends (hends : ∃ entry ∈ first, entry.2.goesOn = false)
    (second : List (Timestamp × InputLine)) : hold servant state (first ++ second) = hold servant state first := by
  rw [hold, hold, afterPrompt_append_of_ends hends]

end Parts

/-! ### Readings of the clock -/

/-- The conversations print the same, end alike, and leave services that agree but for times. -/
structure Transcript.Agrees (left right : Transcript Service) : Prop where
  output : left.output = right.output
  state : left.state.CountedAlike right.state
  ended : left.ended = right.ended

variable {left right : Service}

theorem respond?_alike (halike : left.CountedAlike right) (now later : Timestamp) (line : List Char) :
    (respond? Service.obey left now line = none ∧ respond? Service.obey right later line = none) ∨
      ∃ output after others, respond? Service.obey left now line = some (output, after) ∧
        respond? Service.obey right later line = some (output, others) ∧ after.CountedAlike others := by
  obtain ⟨hreply, hafter⟩ := halike.obey now later (trim line)
  unfold respond?
  dsimp only
  split
  · exact .inl ⟨rfl, rfl⟩
  · split
    · exact .inr ⟨_, _, _, rfl, rfl, halike⟩
    · rw [hreply]
      exact .inr ⟨_, _, _, rfl, rfl, hafter⟩

/-- The same lines lead to the same, at whatever readings of the clock they are heard. -/
theorem afterPrompt_agrees (halike : left.CountedAlike right) {input others : List (Timestamp × InputLine)}
    (hlines : input.map Prod.snd = others.map Prod.snd) :
    (afterPrompt Service.obey left input).Agrees (afterPrompt Service.obey right others) := by
  induction input generalizing left right others with
  | nil =>
    obtain rfl := List.map_eq_nil_iff.1 hlines.symm
    exact ⟨rfl, halike, rfl⟩
  | cons entry input ih =>
    obtain ⟨now, line⟩ := entry
    obtain ⟨⟨later, same⟩, others, rfl, hline, hrest⟩ := List.map_eq_cons_iff.1 hlines.symm
    obtain rfl : same = line := hline
    cases same with
    | unreadable => exact ⟨rfl, halike, rfl⟩
    | text line =>
      rw [afterPrompt_text, afterPrompt_text]
      obtain ⟨hleft, hright⟩ | ⟨output, after, twin, hleft, hright, hafter⟩ := respond?_alike halike now later line
      · rw [hleft, hright]
        exact ⟨rfl, halike, rfl⟩
      · have hfurther := ih hafter hrest.symm
        rw [hleft, hright]
        exact ⟨congrArg (output ++ ·) hfurther.output, hfurther.state, hfurther.ended⟩

/-! ### Conversations over texts -/

/-- The input brings the lines of a text, at whatever readings of the clock. -/
def Spells (input : List (Timestamp × InputLine)) (text : String) : Prop :=
  input.map Prod.snd = InputLine.ofText text

/-- The text holds a line that asks to leave. -/
def AsksToLeave (text : String) : Prop :=
  ∃ line ∈ lines text.toList, trim line = farewell

instance (text : String) : Decidable (AsksToLeave text) :=
  inferInstanceAs (Decidable (∃ line ∈ lines text.toList, trim line = farewell))

variable {input : List (Timestamp × InputLine)} {text : String}

theorem Spells.forall_goesOn (hspells : Spells input text) (hstays : ¬ AsksToLeave text) :
    ∀ entry ∈ input, entry.2.goesOn = true := by
  intro entry hentry
  have hmem := List.mem_map_of_mem hentry (f := Prod.snd)
  rw [hspells, InputLine.ofText] at hmem
  obtain ⟨line, hline, hentry⟩ := List.mem_map.1 hmem
  rw [← hentry, InputLine.goesOn, decide_eq_true_eq]
  exact fun hfarewell => hstays ⟨line, hline, hfarewell⟩

theorem Spells.exists_not_goesOn (hspells : Spells input text) (hleaves : AsksToLeave text) :
    ∃ entry ∈ input, entry.2.goesOn = false := by
  obtain ⟨line, hline, hfarewell⟩ := hleaves
  have hmem : InputLine.text line ∈ input.map Prod.snd := by
    rw [hspells]
    exact List.mem_map_of_mem hline
  obtain ⟨entry, hentry, hsame⟩ := List.mem_map.1 hmem
  refine ⟨entry, hentry, ?_⟩
  rw [hsame, InputLine.goesOn, decide_eq_false_iff_not, not_not]
  exact hfarewell

theorem ofText_append {a : String} (hcloses : ClosesLines a.toList) (b : String) :
    InputLine.ofText (a ++ b) = InputLine.ofText a ++ InputLine.ofText b := by
  rw [InputLine.ofText, String.toList_append, lines_append hcloses, List.map_append]
  rfl

theorem Spells.split {a b : String} (hcloses : ClosesLines a.toList) (hwhole : Spells input (a ++ b)) :
    ∃ first second, input = first ++ second ∧ Spells first a ∧ Spells second b := by
  rw [Spells, ofText_append hcloses] at hwhole
  exact List.map_eq_append_iff.1 hwhole

/-- How a conversation goes over lines that come in two parts, by the conversations over the parts. -/
structure Joins (together before after : Transcript Service) : Prop where
  output : ∃ further, after.output = prompt ++ further ∧ together.output = before.output ++ further
  state : together.state.CountedAlike after.state
  ended : together.ended = after.ended

variable {service : Service} {a b : String} {whole first second : List (Timestamp × InputLine)}

theorem hold_joins (hcloses : ClosesLines a.toList) (hwhole : Spells whole (a ++ b)) (hfirst : Spells first a)
    (hsecond : Spells second b) (hstays : ¬ AsksToLeave a) :
    Joins (hold Service.obey service whole) (hold Service.obey service first)
      (hold Service.obey (hold Service.obey service first).state second) := by
  obtain ⟨part, rest, rfl, hpart, hrest⟩ := hwhole.split hcloses
  have hbefore := afterPrompt_agrees (.refl service) (hpart.trans hfirst.symm)
  have hafter := afterPrompt_agrees hbefore.state (hrest.trans hsecond.symm)
  rw [hold, afterPrompt_append (hpart.forall_goesOn hstays)]
  refine ⟨⟨_, rfl, ?_⟩, hafter.state, hafter.ended⟩
  dsimp only [hold]
  rw [hbefore.output, hafter.output, String.append_assoc]

theorem hold_leaves (hcloses : ClosesLines a.toList) (hwhole : Spells whole (a ++ b)) (hfirst : Spells first a)
    (hleaves : AsksToLeave a) :
    (hold Service.obey service whole).Agrees (hold Service.obey service first) := by
  obtain ⟨part, rest, rfl, hpart, -⟩ := hwhole.split hcloses
  have hbefore := afterPrompt_agrees (.refl service) (hpart.trans hfirst.symm)
  rw [hold_append_of_ends (hpart.exists_not_goesOn hleaves)]
  exact ⟨congrArg (prompt ++ ·) hbefore.output, hbefore.state, hbefore.ended⟩

/-! ### A conversation of one line -/

variable {method : Method} {question : String}

theorem trim_ask (hne : question ≠ "") (hend : ∀ char ∈ question.toList.getLast?, isBlank char = false) :
    trim (Command.ask method question).line = (Command.ask method question).line := by
  apply trim_eq_self
  · cases method <;> simp [Command.line, Command.opening, Method.label, isBlank]
  · rw [Command.line, List.getLast?_append_of_ne_nil _ (by simpa using hne)]
    exact hend

theorem hold_ask (service : Service) (hne : question ≠ "") (hline : '\n' ∉ question.toList)
    (hend : ∀ char ∈ question.toList.getLast?, isBlank char = false)
    (hspells : Spells input (method.label ++ " " ++ question ++ "\n")) :
    ∃ now, hold Service.obey service input =
      ⟨prompt ++ ((service.execute now (.ask method question)).1.output ++ prompt),
        (service.execute now (.ask method question)).2, true⟩ := by
  have hmem : '\n' ∉ (Command.ask method question).line := by
    cases method <;> simpa [Command.line, Command.opening, Method.label] using hline
  have htext : (method.label ++ " " ++ question ++ "\n").toList = (Command.ask method question).line ++ ['\n'] := by
    simp [Command.line, Command.opening]
  rw [Spells, InputLine.ofText, htext, lines_lineFeed_of_notMem hmem] at hspells
  obtain ⟨⟨now, entry⟩, rfl, hentry⟩ := List.map_eq_singleton_iff.1 hspells
  obtain rfl : entry = .text (Command.ask method question).line := hentry
  have hstays : (Command.ask method question).line ≠ farewell := by
    cases method <;> simp [Command.line, Command.opening, Method.label, farewell]
  have hsome : (Command.ask method question).line ≠ [] := by simp [Command.line, Command.opening]
  refine ⟨now, ?_⟩
  rw [hold, afterPrompt_text, respond?, trim_ask hne hend, Service.obey_line]
  dsimp only
  rw [if_neg hstays, if_neg hsome]
  simp [afterPrompt]

end Conversation

namespace Invocation

theorem readAfter_ask {options : GivenOptions} {arguments words : List String} (method : Method)
    (hagree : options.conflict = false) (hwords : readWords arguments = .ok (some words)) (hne : words ≠ []) :
    readAfter options (method.label :: arguments) =
      .ok (.run options (.command (.ask method (" ".intercalate words)))) := by
  have hplain : Argument.ofString method.label = .plain := by cases method <;> rfl
  have htask : readTask method.label arguments = readQuestion method arguments := by cases method <;> rfl
  rw [readAfter, hplain]
  dsimp only
  rw [ofTask, htask, readQuestion, hwords]
  cases words with
  | nil => exact absurd rfl hne
  | cons word words =>
    dsimp only
    rw [hagree]
    rfl

end Invocation

namespace Reply

def TellsError (output : String) : Prop :=
  ∃ message, output = "error: " ++ message ++ "\n"

theorem tellsError_failed (fault : CommandFault) : TellsError (failed fault).output := ⟨fault.message, rfl⟩

theorem not_tellsError_line {content : String} (hstart : content.toList.head? ≠ some 'e') :
    ¬ TellsError (line content).output := by
  intro htells
  obtain ⟨message, hsame⟩ : ∃ message, content ++ "\n" = "error: " ++ message ++ "\n" := htells
  have hhead : (content ++ "\n").toList.head? = some 'e' := by
    rw [hsame]
    simp
  rw [String.toList_append, List.head?_append] at hhead
  cases hcontent : content.toList.head? with
  | none =>
    rw [hcontent] at hhead
    exact absurd hhead (by decide)
  | some char =>
    rw [hcontent] at hstart hhead
    exact hstart hhead

theorem head?_toString_ne (number : Int) : (toString number).toList.head? ≠ some 'e' := by
  cases number with
  | negSucc number =>
    have hminus : toString (Int.negSucc number) = "-" ++ Nat.repr (number + 1) := rfl
    rw [hminus]
    simp
  | ofNat number =>
    have hdigits : (toString (Int.ofNat number)).toList = decimal number := String.toList_ofList
    rw [hdigits]
    intro hhead
    exact absurd (isDigit_of_mem_decimal (List.mem_of_head? hhead)) (by decide)

theorem succeeded_answer_iff (result : Except ServiceFault Int) :
    (answer result).succeeded = false ↔ TellsError (answer result).output := by
  cases result with
  | error fault => exact ⟨fun _ => tellsError_failed _, fun _ => rfl⟩
  | ok number => exact ⟨nofun, fun htells => absurd htells (not_tellsError_line (head?_toString_ne number))⟩

theorem succeeded_verdict_iff (result : Except ServiceFault Unit) :
    (verdict result).succeeded = false ↔ TellsError (verdict result).output := by
  cases result with
  | ok valid => exact ⟨nofun, fun htells => absurd htells (not_tellsError_line (by decide))⟩
  | error fault =>
    cases fault with
    | expression fault => exact ⟨nofun, fun htells => absurd htells (not_tellsError_line (by decide))⟩
    | unsupportedInterpreter fault => exact ⟨fun _ => tellsError_failed _, fun _ => rfl⟩
    | ledger overflow => exact ⟨fun _ => tellsError_failed _, fun _ => rfl⟩

end Reply

theorem Service.succeeded_ask_iff (service : Service) (now : Timestamp) (method : Method) (question : String) :
    (service.execute now (.ask method question)).1.succeeded = false ↔
      Reply.TellsError (service.execute now (.ask method question)).1.output := by
  cases method with
  | evaluate => exact Reply.succeeded_answer_iff _
  | validate => exact Reply.succeeded_verdict_iff _

namespace Program

open Conversation

/-- A single command does with a service what a conversation did that heard it as its only line. -/
structure DoesAs (around : Surroundings) (options : GivenOptions) (service : Service) (command : Command)
    (session : Transcript Service) : Prop where
  printed : session.output = prompt ++ (perform around options service (.command command)).output ++ prompt
  counted : (service.execute around.now command).2.CountedAlike session.state
  written : (perform around options service (.command command)).written =
    saved around options (service.execute around.now command).2.ledger
  status : (perform around options service (.command command)).status = 0 ∨
    (perform around options service (.command command)).status = 1
  failed : (perform around options service (.command command)).status = 1 ↔
    Reply.TellsError (perform around options service (.command command)).output

theorem status_perform_eq (around : Surroundings) (options : GivenOptions) (service : Service) (command : Command) :
    (perform around options service (.command command)).status =
      if (service.execute around.now command).1.succeeded then 0 else 1 := rfl

theorem doesAs_hold (around : Surroundings) (options : GivenOptions) (service : Service) {method : Method}
    {question : String} (hne : question ≠ "") (hline : '\n' ∉ question.toList)
    (hend : ∀ char ∈ question.toList.getLast?, isBlank char = false) {input : List (Timestamp × InputLine)}
    (hspells : Spells input (method.label ++ " " ++ question ++ "\n")) :
    DoesAs around options service (.ask method question) (hold Service.obey service input) := by
  obtain ⟨now, hhold⟩ := hold_ask service hne hline hend hspells
  obtain ⟨hreply, hafter⟩ := (Service.CountedAlike.refl service).execute around.now now (.ask method question)
  have hfailed := service.succeeded_ask_iff around.now method question
  rw [hhold]
  apply DoesAs.mk
  case printed =>
    rw [← hreply, String.append_assoc]
    rfl
  case counted => exact hafter
  case written => rfl
  case status =>
    rw [status_perform_eq]
    split
    · exact .inl rfl
    · exact .inr rfl
  case failed =>
    rw [status_perform_eq]
    refine Iff.trans ?_ hfailed
    cases (service.execute around.now (.ask method question)).1.succeeded <;> decide

/-- A conversation over a text in two parts prints what the conversations over the parts print, with one prompt
between them, and counts what they count; if the first part asks to leave, the second is as good as not there. A
single command about a question does what a conversation does with the line about it. -/
theorem conversations_compose (service : Service) :
    (∀ (a b : String) (whole first second : List (Timestamp × InputLine)), ClosesLines a.toList →
      Spells whole (a ++ b) → Spells first a → Spells second b →
        let together := hold Service.obey service whole
        let before := hold Service.obey service first
        let after := hold Service.obey before.state second
        (¬ AsksToLeave a → Joins together before after ∧ (whole = first ++ second → together.state = after.state)) ∧
          (AsksToLeave a → together.Agrees before ∧ (first <+: whole → together = before))) ∧
      ∀ (method : Method) (arguments words : List String) (question : String),
        Invocation.readWords arguments = .ok (some words) → " ".intercalate words = question → question ≠ "" →
        '\n' ∉ question.toList → (∀ char ∈ question.toList.getLast?, isBlank char = false) →
          ∀ options : GivenOptions, options.conflict = false →
            Invocation.readAfter options (method.label :: arguments) =
                .ok (.run options (.command (.ask method question))) ∧
              ∀ (around : Surroundings) (input : List (Timestamp × InputLine)),
                Spells input (method.label ++ " " ++ question ++ "\n") →
                  DoesAs around options service (.ask method question) (hold Service.obey service input) := by
  refine ⟨?_, ?_⟩
  · intro a b whole first second hcloses hwhole hfirst hsecond together before after
    refine ⟨fun hstays => ⟨hold_joins hcloses hwhole hfirst hsecond hstays, ?_⟩,
      fun hleaves => ⟨hold_leaves hcloses hwhole hfirst hleaves, ?_⟩⟩
    · rintro rfl
      exact hold_append_state (hfirst.forall_goesOn hstays) second
    · rintro ⟨rest, rfl⟩
      exact hold_append_of_ends (hfirst.exists_not_goesOn hleaves) rest
  · intro method arguments words question hwords hjoined hne hline hend options hagree
    have hsome : words ≠ [] := by
      rintro rfl
      exact hne hjoined.symm
    have hread := Invocation.readAfter_ask method hagree hwords hsome
    rw [hjoined] at hread
    exact ⟨hread, fun around input => doesAs_hold around options service hne hline hend⟩

theorem conversations_compose_standard :
    let service := Service.standard {} .empty
    let first := [(Timestamp.epoch, InputLine.text "evaluate Who is it?".toList)]
    let second := [(Timestamp.epoch, InputLine.text "errors".toList)]
    let leaving := (Timestamp.epoch, InputLine.text " \\e".toList) :: first
    let around : Surroundings := ⟨fun _ => .absent, first, .epoch, .epoch, ⟨List.replicate 16 1, rfl⟩,
      fun _ _ _ => .failed .unreachable⟩
    let before := hold Service.obey service first
    Joins (hold Service.obey service (first ++ second)) before (hold Service.obey before.state second) ∧
      hold Service.obey service (leaving ++ second) = hold Service.obey service leaving ∧
      DoesAs around {} service (.ask .evaluate "Who is it?") before := by
  intro service first second leaving around before
  obtain ⟨hparts, hsingle⟩ := conversations_compose service
  refine ⟨?_, ?_, ?_⟩
  · have hcloses : ClosesLines "evaluate Who is it?\n".toList := by decide +kernel
    have hstays : ¬ AsksToLeave "evaluate Who is it?\n" := by decide +kernel
    exact ((hparts _ "errors" (first ++ second) first second hcloses rfl rfl rfl).1 hstays).1
  · have hcloses : ClosesLines " \\e\nevaluate Who is it?\n".toList := by decide +kernel
    have hleaves : AsksToLeave " \\e\nevaluate Who is it?\n" := by decide +kernel
    exact ((hparts _ "errors" (leaving ++ second) leaving second hcloses rfl rfl rfl).2 hleaves).2
      (List.prefix_append leaving second)
  · have hline : '\n' ∉ "Who is it?".toList := by decide +kernel
    have hend : ∀ char ∈ "Who is it?".toList.getLast?, isBlank char = false := by
      intro char hlast
      obtain rfl : '?' = char := Option.some.inj hlast
      rfl
    have hspells : Spells first "evaluate Who is it?\n" := rfl
    obtain ⟨-, hanswers⟩ := hsingle .evaluate ["Who", "is", "it?"] ["Who", "is", "it?"] "Who is it?" rfl rfl
      (by decide) hline hend {} rfl
    exact hanswers around first hspells

end Program

end WordSums
