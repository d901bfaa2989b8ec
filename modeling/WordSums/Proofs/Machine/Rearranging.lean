import Mathlib.Data.List.Perm.Basic
import WordSums.Proofs.Machine.Validation
import WordSums.Token.Lexer

/-!
# Rules in another order

What an event leads to in a state is decided by the rules for that state and event alone. So rules for
different pairs may be moved past each other as one likes, as long as those for one pair stay in their order:
every search comes to the same rule, and so every run to the same end.

The faults of the rules stay the same apart from the positions they name. A rule is shadowed by rules for its
own pair, so of the shadowed rules, too, those for one pair are the same in the same order; and lists of rules
that agree in this way for every pair have the same members equally often.

Rules for one pair may change places as well where the order cannot be seen: if no guard fails and no two of
them admit the event, the search comes to the one that admits it, wherever that stands.
-/

namespace WordSums

open WordSums.Time

variable {State Event Context Fault : Type} [DecidableEq State] [DecidableEq Event]

/-- For every state and event the rules that concern them are the same, and in the same order. -/
def Rearranges (others rules : List (Rule State Event Context Fault)) : Prop :=
  ∀ state event, (others.filter fun rule => rule.concerns state event) =
    rules.filter fun rule => rule.concerns state event

/-- What a fault is about: the names of a state and, for a shadowed rule, of its event. -/
def TableFault.subject : TableFault → String × Option String
  | .shadowed state event _ => (state, some event)
  | .deadInitial state => (state, none)

/-- No guard fails, and if two rules admit the event they are one and the same. A rule without a guard always
admits. -/
structure Exclusive (context : Context) (rules : List (Rule State Event Context Fault)) : Prop where
  succeeds : ∀ rule ∈ rules, ∀ fault, rule.admits context ≠ .error fault
  unique : ∀ rule ∈ rules, ∀ other ∈ rules, rule.admits context = .ok true → other.admits context = .ok true →
    rule = other

variable {others rules : List (Rule State Event Context Fault)} {state : State} {event : Event} {context : Context}

namespace Rearranges

theorem selectRule_eq (hsame : Rearranges others rules) (state : State) (event : Event) (context : Context) :
    selectRule state event context others = selectRule state event context rules := by
  rw [← selectRule_filter others, ← selectRule_filter rules, hsame]

/-- A rule stands in a list as often as among those for its own state and event. -/
theorem perm (hsame : Rearranges others rules) : others.Perm rules := by
  classical
  refine List.perm_iff_count.2 fun rule => ?_
  have hself := rule.concerns_self
  have hothers := List.count_filter (l := others) (p := fun other => other.concerns rule.source rule.event) hself
  have hrules := List.count_filter (l := rules) (p := fun other => other.concerns rule.source rule.event) hself
  rw [← hothers, ← hrules, hsame]

end Rearranges

/-! ### Faults -/

theorem Rule.isShadowedBy_filter (earlier : List (Rule State Event Context Fault))
    (rule : Rule State Event Context Fault) :
    rule.isShadowedBy (earlier.filter fun other => other.concerns rule.source rule.event) =
      rule.isShadowedBy earlier := by
  rw [isShadowedBy, isShadowedBy, List.any_filter]
  congr 1
  funext other
  cases other.concerns rule.source rule.event <;> rfl

/-- The shadowed ones among rules that stand behind others. -/
def shadowedBehind (before : List (Rule State Event Context Fault)) :
    List (Rule State Event Context Fault) → List (Rule State Event Context Fault)
  | [] => []
  | rule :: rest =>
    if rule.isShadowedBy before then rule :: shadowedBehind (before ++ [rule]) rest
    else shadowedBehind (before ++ [rule]) rest

/-- Rules for other pairs have no part in which rules for a pair are shadowed. -/
theorem filter_shadowedBehind (before rules : List (Rule State Event Context Fault)) (state : State) (event : Event) :
    (shadowedBehind before rules).filter (fun rule => rule.concerns state event) =
      shadowedBehind (before.filter fun rule => rule.concerns state event)
        (rules.filter fun rule => rule.concerns state event) := by
  induction rules generalizing before with
  | nil => rfl
  | cons rule rest ih =>
    have hrest := ih (before ++ [rule])
    rw [List.filter_append] at hrest
    rw [shadowedBehind]
    by_cases hconcerns : rule.concerns state event = true
    · have hkept (later : List (Rule State Event Context Fault)) :
          (rule :: later).filter (fun rule => rule.concerns state event) =
            rule :: later.filter fun rule => rule.concerns state event := List.filter_cons_of_pos hconcerns
      rw [hkept, List.filter_nil] at hrest
      obtain ⟨rfl, rfl⟩ := Rule.concerns_eq_true_iff.1 hconcerns
      rw [hkept, shadowedBehind, Rule.isShadowedBy_filter, ← hrest]
      split
      · rw [hkept]
      · rfl
    · have hdropped (later : List (Rule State Event Context Fault)) :
          (rule :: later).filter (fun rule => rule.concerns state event) =
            later.filter fun rule => rule.concerns state event := List.filter_cons_of_neg hconcerns
      rw [hdropped, List.filter_nil, List.append_nil] at hrest
      rw [hdropped, ← hrest]
      split
      · rw [hdropped]
      · rfl

theorem Rearranges.shadowedBehind (hsame : Rearranges others rules) :
    Rearranges (shadowedBehind [] others) (shadowedBehind [] rules) := by
  intro state event
  rw [filter_shadowedBehind, filter_shadowedBehind, hsame]

section Faults

variable [Named State] [Named Event]

/-- What is said about a rule that is shadowed. -/
def Rule.subject (rule : Rule State Event Context Fault) : String × Option String :=
  (nameOf rule.source, some (nameOf rule.event))

theorem subjects_zipIdx (before rules : List (Rule State Event Context Fault)) :
    ((rules.zipIdx before.length).filterMap fun placed =>
        if placed.1.isShadowedBy ((before ++ rules).take placed.2) then some placed.1.subject else none) =
      (shadowedBehind before rules).map Rule.subject := by
  induction rules generalizing before with
  | nil => rfl
  | cons rule rest ih =>
    have hrest := ih (before ++ [rule])
    rw [List.length_append, List.length_singleton, List.append_assoc, List.singleton_append] at hrest
    rw [List.zipIdx_cons, List.filterMap_cons, hrest]
    dsimp only
    rw [List.take_left, shadowedBehind]
    by_cases hshadowed : rule.isShadowedBy before = true
    · rw [if_pos hshadowed, if_pos hshadowed, List.map_cons]
    · rw [if_neg hshadowed, if_neg hshadowed]

theorem subjects_shadowedFaults (rules : List (Rule State Event Context Fault)) :
    (shadowedFaults rules).map TableFault.subject = (shadowedBehind [] rules).map Rule.subject := by
  rw [← subjects_zipIdx [] rules, shadowedFaults, List.map_filterMap]
  refine List.filterMap_congr ?_
  rintro ⟨rule, index⟩ -
  change Option.map _ (if rule.isShadowedBy (rules.take index) then _ else _) = _
  rw [List.nil_append]
  split <;> rfl

/-- Faults of rearranged rules are about the same, equally often. -/
theorem Rearranges.subjects_perm (hsame : Rearranges others rules) (initial : State) :
    ((tableFaults initial others).map TableFault.subject).Perm
      ((tableFaults initial rules).map TableFault.subject) := by
  have hdead : (others.any fun rule => rule.source = initial) = rules.any fun rule => rule.source = initial :=
    hsame.perm.any_eq
  rw [tableFaults, tableFaults, List.map_append, List.map_append, hdead, subjects_shadowedFaults,
    subjects_shadowedFaults]
  exact (hsame.shadowedBehind.perm.map _).append_left _

theorem Rearranges.tableFaults_eq_nil_iff (hsame : Rearranges others rules) (initial : State) :
    tableFaults initial others = [] ↔ tableFaults initial rules = [] := by
  have hlength := (hsame.subjects_perm initial).length_eq
  rw [List.length_map, List.length_map] at hlength
  rw [← List.length_eq_zero_iff, hlength, List.length_eq_zero_iff]

end Faults

/-! ### Rules for one pair -/

/-- Where the rules for an event exclude each other, the search comes to the same rule in any order. -/
theorem selectRule_of_perm {table other : Table State Event Context Fault}
    (hperm : (other.rulesFor state event).Perm (table.rulesFor state event))
    (hexclusive : Exclusive context (table.rulesFor state event)) :
    selectRule state event context other.rules = selectRule state event context table.rules := by
  by_cases hdeclined : ∀ rule ∈ table.rulesFor state event, rule.Declines context
  · rw [selectRule_of_declined hdeclined,
      selectRule_of_declined fun rule hrule => hdeclined rule (hperm.mem_iff.1 hrule)]
  · have hstanding : ¬ ∀ rule ∈ other.rulesFor state event, rule.Declines context :=
      fun hall => hdeclined fun rule hrule => hall rule (hperm.mem_iff.2 hrule)
    have hadmits {rule : Rule State Event Context Fault} (hrule : rule ∈ table.rulesFor state event)
        (hstands : ¬ rule.Declines context) : rule.admits context = .ok true := by
      cases hanswer : rule.admits context with
      | error fault => exact absurd hanswer (hexclusive.succeeds rule hrule fault)
      | ok admitted =>
        cases admitted with
        | false => exact absurd hanswer hstands
        | true => rfl
    obtain ⟨rule, hreached, hrule⟩ := Rule.exists_reachedIn hdeclined
    obtain ⟨second, hsecond, hstands⟩ := Rule.exists_reachedIn hstanding
    have hfirst := hadmits hreached.mem hrule
    have hlater := hadmits (hperm.mem_iff.1 hsecond.mem) hstands
    obtain rfl := hexclusive.unique rule hreached.mem second (hperm.mem_iff.1 hsecond.mem) hfirst hlater
    rw [selectRule_of_admits hreached hfirst, selectRule_of_admits hsecond hlater]

namespace Machine

variable [Named State] [Named Event] [OfNoTransition Fault]

/-- Only the order of the rules for one state and event matters. Rules arranged otherwise lead every run to the
same answers, states, contexts, histories and reports, and have the same faults up to positions; and where the
rules for a state and event exclude each other, not even their own order matters to the dispatch. -/
theorem rearranging_unnoticed (initial : State) {rules others : List (Rule State Event Context Fault)}
    (hsame : Rearranges others rules) :
    (∀ (state : State) (context : Context) (history : Option (History State)) (calls : List (Timestamp × Event)),
      (Machine.mk ⟨initial, others⟩ state context history).execAll calls =
        (fun (answers, final) => (answers, { final with table := ⟨initial, others⟩ })) <$>
          (Machine.mk ⟨initial, rules⟩ state context history).execAll calls) ∧
      (tableFaults initial others = [] ↔ tableFaults initial rules = []) ∧
      ((tableFaults initial others).map TableFault.subject).Perm
        ((tableFaults initial rules).map TableFault.subject) ∧
      ∀ (machine : Machine State Event Context Fault) (table : Table State Event Context Fault) (now : Timestamp)
        (event : Event),
        (table.rulesFor machine.state event).Perm (machine.table.rulesFor machine.state event) →
        Exclusive machine.context (machine.table.rulesFor machine.state event) →
        { machine with table := table }.exec now event =
          (fun (answer, after) => (answer, { after with table := table })) <$> machine.exec now event := by
  refine ⟨fun state context history calls => ?_, hsame.tableFaults_eq_nil_iff initial, hsame.subjects_perm initial,
    fun machine table now event hperm hexclusive => ?_⟩
  · exact execAll_withTable ⟨⟨initial, rules⟩, state, context, history⟩ ⟨initial, others⟩ hsame.selectRule_eq calls
  · exact exec_withTable (selectRule_of_perm hperm hexclusive) now

/-- The rules of the lexer with one more that is shadowed, and the same rules with those for different events moved
past each other. In the end they are turned round: the two rules for the end of input exclude each other. -/
theorem rearranging_unnoticed_lexer :
    let spare : Rule LexerState LexerEvent LexerContext WordSums.Fault :=
      ⟨⟨.tokenizing, .recognizedToken, .done⟩, none, none⟩
    let rules := Lexer.rules ++ [spare]
    let others := [Lexer.rules[3], Lexer.rules[0], Lexer.rules[4], spare, Lexer.rules[1], Lexer.rules[2]]
    let machine := Lexer.begin .standard "Who?"
    let turned : Table LexerState LexerEvent LexerContext WordSums.Fault := ⟨.tokenizing, Lexer.rules.reverse⟩
    Rearranges others rules ∧
      (Machine.mk ⟨.tokenizing, others⟩ machine.state machine.context none).execAll [(.epoch, .recognizedToken)] =
        (fun (answers, final) => (answers, { final with table := ⟨.tokenizing, others⟩ })) <$>
          (Machine.mk ⟨.tokenizing, rules⟩ machine.state machine.context none).execAll [(.epoch, .recognizedToken)] ∧
      (tableFaults LexerState.tokenizing others = [] ↔ tableFaults LexerState.tokenizing rules = []) ∧
      ((tableFaults LexerState.tokenizing others).map TableFault.subject).Perm
        ((tableFaults LexerState.tokenizing rules).map TableFault.subject) ∧
      (turned.rulesFor machine.state .endOfInput).Perm (machine.table.rulesFor machine.state .endOfInput) ∧
      Exclusive machine.context (machine.table.rulesFor machine.state .endOfInput) ∧
      { machine with table := turned }.exec .epoch .endOfInput =
        (fun (answer, after) => (answer, { after with table := turned })) <$> machine.exec .epoch .endOfInput := by
  intro spare rules others machine turned
  have hsame : Rearranges others rules := by
    intro state event
    cases state <;> cases event <;> rfl
  have hperm : (turned.rulesFor machine.state .endOfInput).Perm (machine.table.rulesFor machine.state .endOfInput) :=
    Lexer.rules.reverse_perm.filter _
  have hrules : machine.table.rulesFor machine.state .endOfInput = [Lexer.rules[1], Lexer.rules[2]] := rfl
  have hexclusive : Exclusive machine.context (machine.table.rulesFor machine.state .endOfInput) := by
    rw [hrules]
    constructor <;> simp [Lexer.rules, Rule.admits, Lexer.asked, Guard.when, Guard.negate, Except.map, machine,
      Lexer.begin, start, withHistory, Scan.start]
  obtain ⟨hruns, hverdict, hsubjects, hdispatch⟩ := rearranging_unnoticed LexerState.tokenizing hsame
  have hturned := hdispatch machine turned .epoch .endOfInput hperm hexclusive
  exact ⟨hsame, hruns _ _ _ _, hverdict, hsubjects, hperm, hexclusive, hturned⟩

end Machine

end WordSums
