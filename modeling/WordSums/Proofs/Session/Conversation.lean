import WordSums.Proofs.Service.Accounting
import WordSums.Session.Conversation

/-!
# What a conversation asks

A conversation hears its lines in order until one asks to leave or cannot be read. Blank lines ask for nothing;
every other line is put, without the blanks around it, to the servant, who works on the state that the lines
before it have led to. So the state in the end is known from the lines heard, and whether the conversation was
broken off from the first line after which it does not go on. If the servant is a service, a line that asks for
a judgement is a call of the service, and no other line changes it.
-/

namespace WordSums

open WordSums.Text WordSums.Time

namespace InputLine

def goesOn : InputLine → Bool
  | text content => trim content ≠ Conversation.farewell
  | unreadable => false

def asked? : InputLine → Option (List Char)
  | text content => if trim content = [] then none else some (trim content)
  | unreadable => none

end InputLine

namespace Conversation

variable {State : Type}

/-- What is asked before the conversation is over, with the readings of the clock. -/
def heard (input : List (Timestamp × InputLine)) : List (Timestamp × List Char) :=
  (input.takeWhile fun entry => entry.2.goesOn).filterMap fun entry => entry.2.asked?.map (entry.1, ·)

/-- A line cannot be read, and none before it asks to leave. -/
def BreaksOff (input : List (Timestamp × InputLine)) : Prop :=
  ∃ before now after, input = before ++ (now, .unreadable) :: after ∧ ∀ entry ∈ before, entry.2.goesOn = true

theorem heard_cons_of_goesOn {now : Timestamp} {line : InputLine} (hgoesOn : line.goesOn = true)
    (input : List (Timestamp × InputLine)) :
    heard ((now, line) :: input) = (line.asked?.map (now, ·)).toList ++ heard input := by
  rw [heard, List.takeWhile_cons, if_pos hgoesOn, List.filterMap_cons]
  cases line.asked? <;> rfl

theorem heard_cons_of_not_goesOn {now : Timestamp} {line : InputLine} (hends : line.goesOn = false)
    (input : List (Timestamp × InputLine)) : heard ((now, line) :: input) = [] := by
  rw [heard, List.takeWhile_cons, if_neg (by simpa using hends), List.filterMap_nil]

theorem breaksOff_cons_iff_of_goesOn {now : Timestamp} {line : InputLine} (hgoesOn : line.goesOn = true)
    {input : List (Timestamp × InputLine)} : BreaksOff ((now, line) :: input) ↔ BreaksOff input := by
  constructor
  · intro hbreaks
    obtain ⟨before, time, after, hinput, hbefore⟩ := hbreaks
    cases before with
    | nil =>
      obtain ⟨hline, _⟩ := List.cons.inj hinput
      rw [(Prod.mk.inj hline).2] at hgoesOn
      cases hgoesOn
    | cons entry before =>
      exact ⟨before, time, after, (List.cons.inj hinput).2, fun other hmem => hbefore other (List.mem_cons_of_mem _ hmem)⟩
  · intro hbreaks
    obtain ⟨before, time, after, rfl, hbefore⟩ := hbreaks
    exact ⟨(now, line) :: before, time, after, rfl, List.forall_mem_cons.2 ⟨hgoesOn, hbefore⟩⟩

theorem not_breaksOff_of_farewell {now : Timestamp} {content : List Char} (hfarewell : trim content = farewell)
    (input : List (Timestamp × InputLine)) : ¬ BreaksOff ((now, .text content) :: input) := by
  intro hbreaks
  obtain ⟨before, time, after, hinput, hbefore⟩ := hbreaks
  cases before with
  | nil => cases (List.cons.inj hinput).1
  | cons entry before =>
    have hgoesOn := hbefore entry List.mem_cons_self
    rw [← (List.cons.inj hinput).1, InputLine.goesOn, decide_eq_true_eq] at hgoesOn
    exact hgoesOn hfarewell

/-! ### Where a conversation leads -/

/-- A line that does not ask to leave moves the state if it asks for something, and the rest follows from there. -/
theorem exists_afterPrompt_text (servant : Servant State) (state : State) (now : Timestamp) {content : List Char}
    (hgoesOn : trim content ≠ farewell) (input : List (Timestamp × InputLine)) :
    ∃ output, afterPrompt servant state ((now, .text content) :: input) =
      { afterPrompt servant (((InputLine.text content).asked?.map fun line => (servant state now line).2).getD state)
          input with output := output } := by
  rw [afterPrompt_text, respond?]
  dsimp only
  rw [if_neg hgoesOn, InputLine.asked?]
  by_cases hblank : trim content = []
  · rw [if_pos hblank, if_pos hblank]
    exact ⟨_, rfl⟩
  · rw [if_neg hblank, if_neg hblank]
    exact ⟨_, rfl⟩

theorem afterPrompt_state (servant : Servant State) (state : State) (input : List (Timestamp × InputLine)) :
    (afterPrompt servant state input).state =
      (heard input).foldl (fun state entry => (servant state entry.1 entry.2).2) state := by
  induction input generalizing state with
  | nil => rfl
  | cons entry input ih =>
    obtain ⟨now, line⟩ := entry
    cases line with
    | unreadable => rfl
    | text content =>
      by_cases hfarewell : trim content = farewell
      · rw [heard_cons_of_not_goesOn (by simp [InputLine.goesOn, hfarewell]), afterPrompt_text, respond?]
        dsimp only
        rw [if_pos hfarewell]
        rfl
      · obtain ⟨output, hrest⟩ := exists_afterPrompt_text servant state now hfarewell input
        rw [hrest, heard_cons_of_goesOn (by simp [InputLine.goesOn, hfarewell]), List.foldl_append]
        dsimp only
        rw [ih]
        cases (InputLine.text content).asked? <;> rfl

theorem afterPrompt_ended_iff (servant : Servant State) (state : State) (input : List (Timestamp × InputLine)) :
    (afterPrompt servant state input).ended = true ↔ ¬ BreaksOff input := by
  induction input generalizing state with
  | nil =>
    refine ⟨fun _ hbreaks => ?_, fun _ => rfl⟩
    obtain ⟨before, now, after, hinput, _⟩ := hbreaks
    exact absurd hinput.symm (by simp)
  | cons entry input ih =>
    obtain ⟨now, line⟩ := entry
    cases line with
    | unreadable =>
      have hbreaks : BreaksOff ((now, .unreadable) :: input) := ⟨[], now, input, rfl, by simp⟩
      exact ⟨fun hended => absurd hended Bool.false_ne_true, fun hnot => absurd hbreaks hnot⟩
    | text content =>
      by_cases hfarewell : trim content = farewell
      · rw [afterPrompt_text, respond?]
        dsimp only
        rw [if_pos hfarewell]
        exact ⟨fun _ => not_breaksOff_of_farewell hfarewell input, fun _ => rfl⟩
      · obtain ⟨output, hrest⟩ := exists_afterPrompt_text servant state now hfarewell input
        rw [hrest, breaksOff_cons_iff_of_goesOn (by simp [InputLine.goesOn, hfarewell])]
        exact ih _

theorem hold_state (servant : Servant State) (state : State) (input : List (Timestamp × InputLine)) :
    (hold servant state input).state =
      (heard input).foldl (fun state entry => (servant state entry.1 entry.2).2) state :=
  afterPrompt_state servant state input

theorem hold_ended_iff (servant : Servant State) (state : State) (input : List (Timestamp × InputLine)) :
    (hold servant state input).ended = true ↔ ¬ BreaksOff input :=
  afterPrompt_ended_iff servant state input

end Conversation

/-! ### Lines as calls -/

def Command.call? (now : Timestamp) : Command → Option Call
  | .ask method question => some ⟨method, question, now⟩
  | .failures => none

def Conversation.calls (input : List (Timestamp × InputLine)) : List Call :=
  (heard input).filterMap fun entry => (Command.read? entry.2).bind (Command.call? entry.1)

namespace Service

variable {service : Service}

theorem execute_eq_serveAll (service : Service) (now : Timestamp) (command : Command) :
    (service.execute now command).2 = service.serveAll (command.call? now).toList := by
  cases command with
  | failures => rfl
  | ask method question => cases method <;> rfl

theorem obey_eq_serveAll (service : Service) (now : Timestamp) (line : List Char) :
    (service.obey now line).2 = service.serveAll ((Command.read? line).bind (Command.call? now)).toList := by
  unfold obey
  cases Command.read? line with
  | none => rfl
  | some command => exact service.execute_eq_serveAll now command

theorem foldl_obey_eq (service : Service) (lines : List (Timestamp × List Char)) :
    lines.foldl (fun service entry => (service.obey entry.1 entry.2).2) service =
      service.serveAll (lines.filterMap fun entry => (Command.read? entry.2).bind (Command.call? entry.1)) := by
  induction lines generalizing service with
  | nil => rfl
  | cons entry lines ih =>
    rw [List.foldl_cons, obey_eq_serveAll, ih, List.filterMap_cons]
    cases (Command.read? entry.2).bind (Command.call? entry.1) <;> rfl

theorem hold_obey_state (service : Service) (input : List (Timestamp × InputLine)) :
    (Conversation.hold obey service input).state = service.serveAll (Conversation.calls input) := by
  rw [Conversation.hold_state, foldl_obey_eq]
  rfl

end Service

end WordSums
