import WordSums.Machine.Run

/-!
# Which rule is selected

Rules for another state or another event play no part in the search for a rule. Among the others it goes
in table order as far as the first that does not decline, and neither asks nor needs what stands behind
that one: such a rule either admits the event and is selected, or its guard fails and so does the search.
An unguarded rule never declines, so the search never gets past one.
-/

namespace WordSums

variable {State Event Context Fault : Type}

namespace Rule

/-- The guard of the rule answers no. -/
def Declines (context : Context) (rule : Rule State Event Context Fault) : Prop :=
  rule.admits context = .ok false

/-- Going through the rules in order, one comes to this one because all before it decline. -/
def ReachedIn (context : Context) (rules : List (Rule State Event Context Fault))
    (rule : Rule State Event Context Fault) : Prop :=
  ∃ declined later, rules = declined ++ rule :: later ∧ ∀ earlier ∈ declined, earlier.Declines context

theorem ReachedIn.mem {context : Context} {rules : List (Rule State Event Context Fault)}
    {rule : Rule State Event Context Fault} (hreached : rule.ReachedIn context rules) : rule ∈ rules := by
  obtain ⟨declined, later, rfl, _⟩ := hreached
  exact List.mem_append_right declined List.mem_cons_self

theorem admits_of_unguarded {rule : Rule State Event Context Fault} (hunguarded : rule.isGuarded = false)
    (context : Context) : rule.admits context = .ok true := by
  rw [isGuarded, Option.isSome_eq_false_iff, Option.isNone_iff_eq_none] at hunguarded
  rw [admits, hunguarded]

/-- Unless all rules decline, one comes to a rule that does not. -/
theorem exists_reachedIn {context : Context} {rules : List (Rule State Event Context Fault)}
    (hsome : ¬ ∀ rule ∈ rules, rule.Declines context) :
    ∃ rule : Rule State Event Context Fault, rule.ReachedIn context rules ∧ ¬ rule.Declines context := by
  induction rules with
  | nil => exact absurd (fun _ hmem => absurd hmem List.not_mem_nil) hsome
  | cons head rest ih =>
    by_cases hhead : head.Declines context
    · have hrest : ¬ ∀ rule ∈ rest, rule.Declines context := fun hall =>
        hsome (List.forall_mem_cons.2 ⟨hhead, hall⟩)
      obtain ⟨rule, ⟨declined, later, rfl, hdeclined⟩, hstands⟩ := ih hrest
      exact ⟨rule, ⟨head :: declined, later, rfl, List.forall_mem_cons.2 ⟨hhead, hdeclined⟩⟩, hstands⟩
    · exact ⟨head, ⟨[], rest, rfl, fun _ hmem => absurd hmem List.not_mem_nil⟩, hhead⟩

end Rule

variable [DecidableEq State] [DecidableEq Event] {state : State} {event : Event} {context : Context}
  {rule : Rule State Event Context Fault}

section Search

variable {before rules : List (Rule State Event Context Fault)}

theorem selectRule_cons_of_not_concerns (hconcerns : ¬ rule.concerns state event = true) :
    selectRule state event context (rule :: rules) = selectRule state event context rules :=
  if_neg hconcerns

theorem selectRule_cons_of_concerns (hconcerns : rule.concerns state event = true) :
    selectRule state event context (rule :: rules) =
      match rule.admits context with
      | .error fault => .error fault
      | .ok true => .ok (some rule)
      | .ok false => selectRule state event context rules :=
  if_pos hconcerns

/-- Only the rules that concern the event in the state take part in the search. -/
theorem selectRule_filter (rules : List (Rule State Event Context Fault)) :
    selectRule state event context (rules.filter fun rule => rule.concerns state event) =
      selectRule state event context rules := by
  induction rules with
  | nil => rfl
  | cons head rest ih =>
    by_cases hconcerns : head.concerns state event = true
    · rw [List.filter_cons, if_pos hconcerns, selectRule_cons_of_concerns hconcerns,
        selectRule_cons_of_concerns hconcerns, ih]
    · rw [List.filter_cons, if_neg hconcerns, selectRule_cons_of_not_concerns hconcerns, ih]

/-- Rules that decline are passed over. -/
theorem selectRule_append {declined : List (Rule State Event Context Fault)}
    (hdeclined : ∀ rule ∈ declined, rule.Declines context) (rest : List (Rule State Event Context Fault)) :
    selectRule state event context (declined ++ rest) = selectRule state event context rest := by
  induction declined with
  | nil => rfl
  | cons head declined ih =>
    obtain ⟨hhead, hdeclined⟩ := List.forall_mem_cons.1 hdeclined
    rw [Rule.Declines] at hhead
    rw [List.cons_append, selectRule, hhead]
    dsimp only
    rw [ih hdeclined, ite_self]

/-- The search goes past rules that decline the event if they concern it. -/
theorem selectRule_append_of_declined
    (hdeclined : ∀ earlier ∈ before, earlier.concerns state event = true → earlier.Declines context) :
    selectRule state event context (before ++ rules) = selectRule state event context rules := by
  rw [← selectRule_filter, List.filter_append, selectRule_append ?_, selectRule_filter]
  intro earlier hearlier
  obtain ⟨hmem, hconcerns⟩ := List.mem_filter.1 hearlier
  exact hdeclined earlier hmem hconcerns

/-- The search never goes past an unguarded rule for the event. -/
theorem selectRule_append_of_unguarded (hmem : rule ∈ before) (hconcerns : rule.concerns state event = true)
    (hunguarded : rule.isGuarded = false) :
    selectRule state event context (before ++ rules) = selectRule state event context before := by
  induction before with
  | nil => exact absurd hmem List.not_mem_nil
  | cons head before ih =>
    rw [List.cons_append]
    rcases List.mem_cons.1 hmem with rfl | hmem
    · rw [selectRule_cons_of_concerns hconcerns, selectRule_cons_of_concerns hconcerns,
        Rule.admits_of_unguarded hunguarded]
    · by_cases hhead : head.concerns state event = true
      · rw [selectRule_cons_of_concerns hhead, selectRule_cons_of_concerns hhead, ih hmem]
      · rw [selectRule_cons_of_not_concerns hhead, selectRule_cons_of_not_concerns hhead, ih hmem]

/-- The rule selected is one of those searched, and it concerns the event. -/
theorem mem_of_selectRule (hselect : selectRule state event context rules = .ok (some rule)) :
    rule ∈ rules ∧ rule.concerns state event = true := by
  induction rules with
  | nil => exact absurd hselect (by simp [selectRule])
  | cons head rest ih =>
    by_cases hconcerns : head.concerns state event = true
    · rw [selectRule_cons_of_concerns hconcerns] at hselect
      split at hselect
      · exact absurd hselect (by simp)
      · obtain rfl : head = rule := by simpa using hselect
        exact ⟨List.mem_cons_self, hconcerns⟩
      · exact (ih hselect).imp_left (List.mem_cons_of_mem head)
    · rw [selectRule_cons_of_not_concerns hconcerns] at hselect
      exact (ih hselect).imp_left (List.mem_cons_of_mem head)

end Search

section Table

variable {table : Table State Event Context Fault}

theorem selectRule_of_declined
    (hdeclined : ∀ rule ∈ table.rulesFor state event, rule.Declines context) :
    selectRule state event context table.rules = .ok none := by
  rw [← selectRule_filter, ← List.append_nil (table.rules.filter _)]
  exact selectRule_append hdeclined []

/-- The rules that come before the one reached make no difference. -/
theorem exists_selectRule_eq (hreached : rule.ReachedIn context (table.rulesFor state event)) :
    ∃ later, selectRule state event context table.rules =
      match rule.admits context with
      | .error fault => .error fault
      | .ok true => .ok (some rule)
      | .ok false => selectRule state event context later := by
  have hconcerns : rule.concerns state event = true := (List.mem_filter.1 hreached.mem).2
  obtain ⟨declined, later, hrules, hdeclined⟩ := hreached
  refine ⟨later, ?_⟩
  calc
    selectRule state event context table.rules
      = selectRule state event context (table.rulesFor state event) := (selectRule_filter table.rules).symm
    _ = selectRule state event context (rule :: later) := by rw [hrules, selectRule_append hdeclined]
    _ = _ := selectRule_cons_of_concerns hconcerns

theorem selectRule_of_admits (hreached : rule.ReachedIn context (table.rulesFor state event))
    (hadmits : rule.admits context = .ok true) :
    selectRule state event context table.rules = .ok (some rule) := by
  obtain ⟨later, hselect⟩ := exists_selectRule_eq hreached
  rw [hselect, hadmits]

theorem selectRule_of_fails {fault : Fault} (hreached : rule.ReachedIn context (table.rulesFor state event))
    (hfails : rule.admits context = .error fault) :
    selectRule state event context table.rules = .error fault := by
  obtain ⟨later, hselect⟩ := exists_selectRule_eq hreached
  rw [hselect, hfails]

end Table

end WordSums
