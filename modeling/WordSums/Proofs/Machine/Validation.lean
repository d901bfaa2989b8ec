import Mathlib.Data.List.FinRange
import WordSums.Proofs.Machine.Dispatch

/-!
# Which rules can never fire

A list of rules is refused for its form alone: a rule is shadowed when an unguarded one for the same state
and event stands before it. These are the very rules that no answers of the guards can bring the search
to. It never gets past an unguarded rule for the event, so what stands behind one is not reached; and a
rule before which all rules for its state and event are guarded is selected when those guards say no and
its own says yes.

The list of faults goes through the rules once, so it names each shadowed rule once and in order. Leaving
all of them out changes no search: where the search comes to one of them it has passed only rules that
declined, and an unguarded rule never declines.
-/

namespace WordSums

open WordSums.Time

variable {State Event Context Fault : Type}

/-! ### Rules told apart by their positions -/

/-- The rule at a position, with a guard that answers the same whatever the context, if it has a guard at
all. Firing leaves the position behind as the context, so rules that are otherwise equal can be told
apart. -/
def Rule.answering (outcome : Nat → Except Fault Bool) (index : Nat) (rule : Rule State Event Context Fault) :
    Rule State Event (Option Nat) Fault :=
  ⟨rule.toMove, rule.guard.map fun _ => ⟨fun _ => outcome index⟩, some fun _ _ => (.ok (), some index)⟩

namespace Rule

variable {outcome : Nat → Except Fault Bool} {index : Nat} {rule : Rule State Event Context Fault}

theorem apply_answering (context : Option Nat) : (rule.answering outcome index).apply context = (.ok (), some index) :=
  rfl

theorem isGuarded_answering : (rule.answering outcome index).isGuarded = rule.isGuarded := by
  simp [answering, isGuarded]

theorem admits_answering (hguarded : rule.isGuarded = true) (context : Option Nat) :
    (rule.answering outcome index).admits context = outcome index := by
  obtain ⟨guard, hguard⟩ := Option.isSome_iff_exists.1 hguarded
  simp [answering, admits, hguard]

theorem eq_answering_of_mem {rules : List (Rule State Event Context Fault)}
    {selected : Rule State Event (Option Nat) Fault}
    (hmem : selected ∈ rules.mapIdx (answering outcome))
    (hposition : selected.apply none = (.ok (), some index)) :
    ∃ hindex : index < rules.length, selected = rules[index].answering outcome index := by
  obtain ⟨other, hother, rfl⟩ := List.mem_mapIdx.1 hmem
  obtain rfl : other = index := by simpa [apply_answering] using hposition
  exact ⟨hother, rfl⟩

theorem mapIdx_answering_split (outcome : Nat → Except Fault Bool)
    (before later : List (Rule State Event Context Fault)) :
    (before ++ rule :: later).mapIdx (answering outcome) =
      before.mapIdx (answering outcome) ++ rule.answering outcome before.length ::
        later.mapIdx fun index => answering outcome (index + 1 + before.length) := by
  rw [List.mapIdx_append, List.mapIdx_cons, Nat.zero_add]

end Rule

variable [DecidableEq State] [DecidableEq Event]

/-- Whatever its guards answer, the search through the rules comes out at none that stands at this
position. -/
def NeverSelected (rules : List (Rule State Event Context Fault)) (index : Nat) : Prop :=
  ∀ (outcome : Nat → Except Fault Bool) (state : State) (event : Event)
    (selected : Rule State Event (Option Nat) Fault),
    selectRule state event none (rules.mapIdx (Rule.answering outcome)) = .ok (some selected) →
      selected.apply none ≠ (.ok (), some index)

namespace Rule

/-- One of the earlier rules concerns the same state and event and has no guard. -/
def isShadowedBy (earlier : List (Rule State Event Context Fault)) (rule : Rule State Event Context Fault) : Bool :=
  earlier.any fun other => other.concerns rule.source rule.event && !other.isGuarded

theorem isShadowedBy_eq_true_iff {earlier : List (Rule State Event Context Fault)}
    {rule : Rule State Event Context Fault} :
    rule.isShadowedBy earlier = true ↔
      ∃ other ∈ earlier, other.concerns rule.source rule.event = true ∧ other.isGuarded = false := by
  simp [isShadowedBy]

/-- No unguarded rule for its state and event stands before a rule at its position. -/
def isReachableIn (rules : List (Rule State Event Context Fault))
    (placed : Rule State Event Context Fault × Nat) : Bool :=
  !placed.1.isShadowedBy (rules.take placed.2)

theorem concerns_self (rule : Rule State Event Context Fault) : rule.concerns rule.source rule.event = true :=
  concerns_eq_true_iff.2 ⟨rfl, rfl⟩

theorem concerns_answering {outcome : Nat → Except Fault Bool} {index : Nat} {rule : Rule State Event Context Fault}
    (state : State) (event : Event) :
    (rule.answering outcome index).concerns state event = rule.concerns state event :=
  rfl

end Rule

/-! ### Shadowed means never selected -/

section NeverSelected

variable {rule : Rule State Event Context Fault} {rules before : List (Rule State Event Context Fault)}

/-- Before the position of a shadowed rule the search has come to its end. -/
theorem neverSelected_of_shadowed (hshadowed : rule.isShadowedBy before = true)
    (later : List (Rule State Event Context Fault)) :
    NeverSelected (before ++ rule :: later) before.length := by
  intro outcome state event selected hselect hposition
  obtain ⟨hmem, hconcerns⟩ := mem_of_selectRule hselect
  obtain ⟨_, rfl⟩ := Rule.eq_answering_of_mem hmem hposition
  obtain ⟨rfl, rfl⟩ : rule.source = state ∧ rule.event = event := by
    simpa [Rule.concerns_answering, Rule.concerns_eq_true_iff] using hconcerns
  obtain ⟨other, hother, hothers, hunguarded⟩ := Rule.isShadowedBy_eq_true_iff.1 hshadowed
  obtain ⟨place, hplace, rfl⟩ := List.mem_iff_getElem.1 hother
  have hblocks : before[place].answering outcome place ∈ before.mapIdx (Rule.answering outcome) :=
    List.mem_mapIdx.2 ⟨place, hplace, rfl⟩
  rw [Rule.mapIdx_answering_split, selectRule_append_of_unguarded hblocks hothers
    (Rule.isGuarded_answering.trans hunguarded)] at hselect
  obtain ⟨hlength, _⟩ := Rule.eq_answering_of_mem (mem_of_selectRule hselect).1 hposition
  exact Nat.lt_irrefl _ hlength

/-- A rule that is not shadowed is selected when the guards of the others say no and its own says yes. -/
theorem not_neverSelected (hshadowed : rule.isShadowedBy before = false)
    (later : List (Rule State Event Context Fault)) :
    ¬ NeverSelected (before ++ rule :: later) before.length := by
  intro hnever
  let outcome : Nat → Except Fault Bool := fun index => .ok (index == before.length)
  refine hnever outcome rule.source rule.event (rule.answering outcome before.length) ?_ rfl
  have hdeclined : ∀ earlier ∈ before.mapIdx (Rule.answering outcome),
      earlier.concerns rule.source rule.event = true → earlier.Declines none := by
    intro earlier hearlier hconcerns
    obtain ⟨place, hplace, rfl⟩ := List.mem_mapIdx.1 hearlier
    have hguarded : before[place].isGuarded = true := by
      by_contra hunguarded
      have hblocks : rule.isShadowedBy before = true := Rule.isShadowedBy_eq_true_iff.2
        ⟨before[place], List.getElem_mem hplace, hconcerns, Bool.eq_false_iff.2 hunguarded⟩
      exact Bool.false_ne_true (hshadowed.symm.trans hblocks)
    rw [Rule.Declines, Rule.admits_answering hguarded]
    exact congrArg Except.ok (beq_eq_false_iff_ne.2 hplace.ne)
  have hconcerns : (rule.answering outcome before.length).concerns rule.source rule.event = true := rule.concerns_self
  have hadmits : (rule.answering outcome before.length).admits none = .ok true := by
    cases hguarded : rule.isGuarded with
    | false => exact Rule.admits_of_unguarded (Rule.isGuarded_answering.trans hguarded) none
    | true => exact (Rule.admits_answering hguarded none).trans (congrArg Except.ok (beq_self_eq_true _))
  rw [Rule.mapIdx_answering_split, selectRule_append_of_declined hdeclined,
    selectRule_cons_of_concerns hconcerns, hadmits]

/-- The rules that can never be selected are those that stand behind an unguarded one for their state and
event. -/
theorem neverSelected_iff (index : Fin rules.length) :
    NeverSelected rules index ↔ rules[index].isShadowedBy (rules.take index) = true := by
  have hsplit : rules.take index ++ rules[index] :: rules.drop (index + 1) = rules := by
    rw [Fin.getElem_fin, List.getElem_cons_drop, List.take_append_drop]
  have hlength : (rules.take index).length = index := List.length_take_of_le index.isLt.le
  constructor
  · intro hnever
    by_contra hshadowed
    have hselected := not_neverSelected (Bool.eq_false_iff.2 hshadowed) (rules.drop (index + 1))
    rw [hsplit, hlength] at hselected
    exact hselected hnever
  · intro hshadowed
    have hnever := neverSelected_of_shadowed hshadowed (rules.drop (index + 1))
    rwa [hsplit, hlength] at hnever

end NeverSelected

/-! ### The list of faults -/

/-- Whether the fault is that the rule at this position is shadowed. -/
def TableFault.shadows : TableFault → Nat → Bool
  | .shadowed _ _ place, index => place == index
  | .deadInitial _, _ => false

/-- The rules that are not reported as shadowed, in their order. -/
def unreported (faults : List TableFault) (rules : List (Rule State Event Context Fault)) :
    List (Rule State Event Context Fault) :=
  (rules.zipIdx.filter fun (_, index) => !faults.any (·.shadows index)).map Prod.fst

def shadowedAt (rules : List (Rule State Event Context Fault)) : List (Fin rules.length) :=
  (List.finRange rules.length).filter fun index => rules[index].isShadowedBy (rules.take index)

theorem mem_shadowedAt {rules : List (Rule State Event Context Fault)} {index : Fin rules.length} :
    index ∈ shadowedAt rules ↔ rules[index].isShadowedBy (rules.take index) = true := by
  rw [shadowedAt, List.mem_filter]
  exact and_iff_right (List.mem_finRange index)

theorem pairwise_shadowedAt (rules : List (Rule State Event Context Fault)) :
    (shadowedAt rules).Pairwise (· < ·) :=
  (List.pairwise_lt_finRange rules.length).filter _

section Faults

variable [Named State] [Named Event] {rules : List (Rule State Event Context Fault)}

theorem shadowedFaults_eq (rules : List (Rule State Event Context Fault)) :
    shadowedFaults rules = (shadowedAt rules).map fun index =>
      .shadowed (nameOf rules[index].source) (nameOf rules[index].event) index := by
  have hzip : rules.zipIdx = (List.finRange rules.length).map fun index => (rules[index], index.val) :=
    List.ext_getElem (by simp) (by simp)
  rw [shadowedFaults, hzip, List.filterMap_map, shadowedAt, ← List.filterMap_eq_map, List.filterMap_filter]
  rfl

theorem tableFaults_eq (initial : State) (rules : List (Rule State Event Context Fault)) :
    tableFaults initial rules =
      (if ∀ rule ∈ rules, rule.source ≠ initial then [.deadInitial (nameOf initial)] else []) ++
        (shadowedAt rules).map fun index =>
          .shadowed (nameOf rules[index].source) (nameOf rules[index].event) index := by
  rw [tableFaults, shadowedFaults_eq]
  congr 1
  by_cases hdead : ∀ rule ∈ rules, rule.source ≠ initial
  · rw [if_pos hdead, if_neg]
    simpa using hdead
  · rw [if_neg hdead, if_pos]
    simpa using hdead

theorem any_shadows_tableFaults (initial : State) (index : Nat) :
    (tableFaults initial rules).any (·.shadows index) = true ↔ ∃ place ∈ shadowedAt rules, place.val = index := by
  have hdead : ∀ fault ∈ (if ∀ rule ∈ rules, rule.source ≠ initial then [.deadInitial (nameOf initial)] else [] :
      List TableFault), ¬ fault.shadows index = true := by
    intro fault hfault
    split at hfault
    · obtain rfl := List.mem_singleton.1 hfault
      exact Bool.false_ne_true
    · exact absurd hfault List.not_mem_nil
  rw [tableFaults_eq, List.any_append, Bool.or_eq_true, List.any_eq_true, List.any_map, List.any_eq_true]
  constructor
  · rintro (⟨fault, hfault, hshadows⟩ | ⟨place, hplace, hshadows⟩)
    · exact absurd hshadows (hdead fault hfault)
    · exact ⟨place, hplace, beq_iff_eq.1 hshadows⟩
  · rintro ⟨place, hplace, rfl⟩
    exact .inr ⟨place, hplace, beq_self_eq_true _⟩

/-- What is left is the rules with no unguarded one for their state and event before them. -/
theorem unreported_tableFaults (initial : State) :
    unreported (tableFaults initial rules) rules =
      (rules.zipIdx.filter (Rule.isReachableIn rules)).map Prod.fst := by
  rw [unreported]
  congr 1
  refine List.filter_congr fun (rule, index) hmem => congrArg not (Bool.eq_iff_iff.2 ?_)
  obtain ⟨hindex, rfl⟩ : ∃ hindex : index < rules.length, rules[index] = rule :=
    List.getElem?_eq_some_iff.1 (List.mem_zipIdx_iff_getElem?.1 hmem)
  rw [any_shadows_tableFaults]
  constructor
  · rintro ⟨place, hplace, rfl⟩
    exact mem_shadowedAt.1 hplace
  · intro hshadowed
    exact ⟨⟨index, hindex⟩, mem_shadowedAt.2 hshadowed, rfl⟩

end Faults

section Build

variable [Named State] [Named Event] {initial : State} {rules : List (Rule State Event Context Fault)}

theorem build_of_ne_nil (hrules : rules ≠ []) :
    Table.build (some initial) rules =
      if tableFaults initial rules = [] then .ok ⟨initial, rules⟩
      else .error (.inconsistent (tableFaults initial rules)) := by
  have hempty : ¬ rules.isEmpty = true := fun hempty => hrules (List.isEmpty_iff.1 hempty)
  unfold Table.build
  dsimp only
  rw [if_neg hempty]
  cases tableFaults initial rules <;> rfl

theorem build_eq_ok_iff {table : Table State Event Context Fault} :
    Table.build (some initial) rules = .ok table ↔
      table = ⟨initial, rules⟩ ∧ rules ≠ [] ∧ tableFaults initial rules = [] := by
  rcases eq_or_ne rules [] with rfl | hrules
  · simp [Table.build]
  · rw [build_of_ne_nil hrules]
    split
    · next hnone =>
      refine ⟨fun hbuilt => ⟨(Except.ok.inj hbuilt).symm, hrules, hnone⟩, fun ⟨htable, _, _⟩ => by rw [htable]⟩
    · next hsome => exact iff_of_false (by simp) fun ⟨_, _, hnone⟩ => hsome hnone

theorem build_eq_inconsistent_iff {faults : List TableFault} :
    Table.build (some initial) rules = .error (.inconsistent faults) ↔
      rules ≠ [] ∧ faults ≠ [] ∧ faults = tableFaults initial rules := by
  rcases eq_or_ne rules [] with rfl | hrules
  · simp [Table.build]
  · rw [build_of_ne_nil hrules]
    split
    · next hnone => simp [hnone]
    · next hsome =>
      refine ⟨fun herror => ?_, fun ⟨_, _, hfaults⟩ => by rw [hfaults]⟩
      obtain rfl : tableFaults initial rules = faults := by simpa using herror
      exact ⟨hrules, hsome, rfl⟩

end Build

/-! ### Leaving out what is never selected -/

section Unreported

variable {state : State} {event : Event} {context : Context}

/-- The search through rules that stand behind others comes to the same without those that an unguarded one
shadows, as long as every rule for the event among the others is guarded. -/
theorem selectRule_filter_unshadowed (before rules : List (Rule State Event Context Fault))
    (hguarded : ∀ earlier ∈ before, earlier.concerns state event = true → earlier.isGuarded = true) :
    selectRule state event context
        (((rules.zipIdx before.length).filter (Rule.isReachableIn (before ++ rules))).map Prod.fst) =
      selectRule state event context rules := by
  induction rules generalizing before with
  | nil => rfl
  | cons rule rest ih =>
    have hhead : Rule.isReachableIn (before ++ rule :: rest) (rule, before.length) = !rule.isShadowedBy before :=
      congrArg (fun earlier => !rule.isShadowedBy earlier) List.take_left
    have hsplit : before ++ rule :: rest = before ++ [rule] ++ rest := List.append_cons before rule rest
    have hlength : before.length + 1 = (before ++ [rule]).length := by simp
    rw [List.zipIdx_cons]
    by_cases hconcerns : rule.concerns state event = true
    · obtain ⟨rfl, rfl⟩ := Rule.concerns_eq_true_iff.1 hconcerns
      have hkept : rule.isShadowedBy before = false := by
        refine Bool.eq_false_iff.2 fun hshadowed => ?_
        obtain ⟨other, hother, hothers, hunguarded⟩ := Rule.isShadowedBy_eq_true_iff.1 hshadowed
        exact Bool.false_ne_true (hunguarded.symm.trans (hguarded other hother hothers))
      rw [hkept, Bool.not_false] at hhead
      rw [List.filter_cons_of_pos hhead, List.map_cons, selectRule_cons_of_concerns hconcerns,
        selectRule_cons_of_concerns hconcerns, hlength, hsplit]
      -- The search goes on to the rest only if this rule is guarded.
      cases hrule : rule.isGuarded with
      | false => rw [Rule.admits_of_unguarded hrule]
      | true => rw [ih (before ++ [rule]) (List.forall_mem_append.2 ⟨hguarded, by simp [hrule]⟩)]
    · have hrest := ih (before ++ [rule]) (List.forall_mem_append.2 ⟨hguarded, by simp [hconcerns]⟩)
      rw [← hsplit, ← hlength] at hrest
      rw [selectRule_cons_of_not_concerns hconcerns, ← hrest, List.filter_cons]
      split
      · rw [List.map_cons, selectRule_cons_of_not_concerns hconcerns]
      · rfl

theorem selectRule_unreported [Named State] [Named Event] (initial : State)
    (rules : List (Rule State Event Context Fault)) :
    selectRule state event context (unreported (tableFaults initial rules) rules) =
      selectRule state event context rules := by
  rw [unreported_tableFaults]
  exact selectRule_filter_unshadowed [] rules fun _ hmem => absurd hmem List.not_mem_nil

end Unreported

theorem Traced.bind_congr {α β : Type} {first : Traced α} {next other : α → Traced β}
    (hnext : next first.value = other first.value) : first >>= next = first >>= other := by
  simp only [bind, hnext]

namespace Machine

variable [Named State] [Named Event] [OfNoTransition Fault]

/-- Of its table a dispatch uses no more than which rule is selected. -/
theorem exec_withTable {machine : Machine State Event Context Fault} {table : Table State Event Context Fault}
    {event : Event} (hselect : selectRule machine.state event machine.context table.rules =
      selectRule machine.state event machine.context machine.table.rules) (now : Timestamp) :
    { machine with table := table }.exec now event =
      (fun (answer, after) => (answer, { after with table := table })) <$> machine.exec now event := by
  unfold exec
  dsimp only
  rw [hselect]
  rcases selectRule machine.state event machine.context machine.table.rules with fault | _ | rule
  · rfl
  · rfl
  · dsimp only
    obtain ⟨result, context⟩ := rule.apply machine.context
    cases result <;> rfl

theorem execAll_withTable (machine : Machine State Event Context Fault) (table : Table State Event Context Fault)
    (hselect : ∀ state event context, selectRule state event context table.rules =
      selectRule state event context machine.table.rules) (calls : List (Timestamp × Event)) :
    { machine with table := table }.execAll calls =
      (fun (answers, final) => (answers, { final with table := table })) <$> machine.execAll calls := by
  induction calls generalizing machine with
  | nil => rfl
  | cons call calls ih =>
    obtain ⟨now, event⟩ := call
    have htable : (machine.exec now event).value.2.table = machine.table :=
      (exec_eq_iff.1 rfl : machine.Dispatches now event _ _).table_and_state.1
    have hrest := ih (machine.exec now event).value.2 (htable.symm ▸ hselect)
    rw [execAll, execAll, exec_withTable (hselect _ _ _), map_bind, bind_map_left]
    refine Traced.bind_congr ?_
    dsimp only
    rw [hrest, bind_map_left, map_bind]
    rfl

/-- The faults of a list of rules are that no rule leaves the initial state, if none does, and then, in
order, the rules that can never be selected, each once. A table is built exactly from rules without faults,
and leaving out all rules that are reported as shadowed changes nothing about any run. -/
theorem tableFaults_exact (initial : State) (rules : List (Rule State Event Context Fault)) :
    (∃ indices : List (Fin rules.length),
      indices.Pairwise (· < ·) ∧ (∀ index, index ∈ indices ↔ NeverSelected rules index) ∧
        tableFaults initial rules =
          (if ∀ rule ∈ rules, rule.source ≠ initial then [.deadInitial (nameOf initial)] else []) ++
            indices.map fun index => .shadowed (nameOf rules[index].source) (nameOf rules[index].event) index) ∧
      (∀ table, Table.build (some initial) rules = .ok table ↔
        table = ⟨initial, rules⟩ ∧ rules ≠ [] ∧ tableFaults initial rules = []) ∧
      (∀ faults, Table.build (some initial) rules = .error (.inconsistent faults) ↔
        rules ≠ [] ∧ faults ≠ [] ∧ faults = tableFaults initial rules) ∧
      ∀ (state : State) (context : Context) (history : Option (History State)) (calls : List (Timestamp × Event)),
        let pruned : Table State Event Context Fault := ⟨initial, unreported (tableFaults initial rules) rules⟩
        (Machine.mk pruned state context history).execAll calls =
          (fun (answers, final) => (answers, { final with table := pruned })) <$>
            (Machine.mk ⟨initial, rules⟩ state context history).execAll calls := by
  refine ⟨⟨shadowedAt rules, pairwise_shadowedAt rules, fun index => ?_, tableFaults_eq initial rules⟩, ?_, ?_, ?_⟩
  · rw [mem_shadowedAt, neverSelected_iff]
  · exact fun table => build_eq_ok_iff
  · exact fun faults => build_eq_inconsistent_iff
  · intro state context history calls pruned
    exact execAll_withTable ⟨⟨initial, rules⟩, state, context, history⟩ pruned
      (fun _ _ _ => selectRule_unreported initial rules) calls

end Machine

end WordSums
