import WordSums.Proofs.Json.Values

/-!
# Lists and records that are read back

The items of a list and the members of a record are written with a comma before each but the first, and with
spaces that depend on the layout only. What comes behind an item is therefore always a comma or the closing
mark, and each item is read back by itself. A record is filled member by member, from the draft in which all
members are missing to the one in which none is; this works for members of any names in any order as long as
each is known and not there yet.
-/

namespace WordSums.Json

open WordSums.Text

/-! ### What stands between the brackets -/

/-- The pieces behind the first, each after a comma and a gap. -/
def further {β : Type} (gap : List Char) (piece : β → List Char) (items : List β) : List Char :=
  items.flatMap fun item => ',' :: (gap ++ piece item)

theorem further_cons {β : Type} (gap : List Char) (piece : β → List Char) (item : β) (items : List β)
    (rest : List Char) :
    further gap piece (item :: items) ++ rest = ',' :: (gap ++ (piece item ++ (further gap piece items ++ rest))) := by
  simp [further, List.append_assoc]

theorem length_le_further {β : Type} (gap : List Char) (piece : β → List Char) (items : List β) :
    items.length ≤ (further gap piece items).length := by
  induction items with
  | nil => exact Nat.zero_le _
  | cons item items ih =>
    have hcons := congrArg List.length (further_cons gap piece item items [])
    simp only [List.append_nil, List.length_append, List.length_cons] at hcons ⊢
    omega

theorem behind_further {β : Type} {gap closing rest : List Char} (hclosing : Spaces closing) {mark : Char}
    (hmark : mark = ',' ∨ mark = ']' ∨ mark = '\x7d') (piece : β → List Char) (items : List β) :
    Behind (further gap piece items ++ (closing ++ mark :: rest)) := by
  cases items with
  | nil => exact Behind.of_mark hclosing hmark
  | cons item items =>
    rw [further_cons]
    exact Behind.of_mark spaces_nil (.inl rfl)

theorem intercalate_comma (first : List Char) (others : List (List Char)) :
    List.intercalate [','] (first :: others) = first ++ others.flatMap (',' :: ·) := by
  induction others generalizing first with
  | nil => simp
  | cons second others ih => rw [List.intercalate_cons_cons, ih]; simp

theorem enclosed_cons {β : Type} (opening closing : Char) (piece : β → Document) (item : β) (items : List β)
    (layout : Layout) (rest : List Char) :
    Document.enclosed opening closing ((item :: items).map piece) layout ++ rest =
      opening :: (layout.inner.lineBreak ++ (piece item layout.inner ++
        (further layout.inner.lineBreak (piece · layout.inner) items ++ (layout.lineBreak ++ closing :: rest)))) := by
  have hpieces : ((item :: items).map piece).map (fun document => layout.inner.lineBreak ++ document layout.inner) =
      (layout.inner.lineBreak ++ piece item layout.inner) ::
        items.map fun other => layout.inner.lineBreak ++ piece other layout.inner := by
    simp
  have hshape : Document.enclosed opening closing ((item :: items).map piece) layout =
      opening :: (List.intercalate [',']
        (((item :: items).map piece).map fun document => layout.inner.lineBreak ++ document layout.inner) ++
          layout.lineBreak ++ [closing]) := rfl
  rw [hshape, hpieces, intercalate_comma]
  simp [further, List.flatMap_map, List.append_assoc]

/-! ### Lists -/

section Lists

variable {α : Type} {item : Reader α} {value : α} {document : Document} {gap rest : List Char}

theorem Recovers.nextItem_first (hrecovers : Recovers item document value) (layout : Layout) (hgap : Spaces gap) :
    Reader.nextItem true (gap ++ (document layout ++ rest)) = .ok (some (document layout ++ rest), []) := by
  obtain ⟨char, text, hdocument, hspace, hbracket, hcomma⟩ := hrecovers.opens layout
  rw [hdocument, List.cons_append, Reader.nextItem, hgap.skipSpaces_append hspace]
  split
  · next heq => cases heq
  · next heq => exact absurd (List.cons.inj heq).1 hbracket
  · next heq => exact absurd (List.cons.inj heq).1 hcomma
  · rfl

theorem Recovers.nextItem_comma (hrecovers : Recovers item document value) (layout : Layout) (hgap : Spaces gap) :
    Reader.nextItem false (',' :: (gap ++ (document layout ++ rest))) = .ok (some (document layout ++ rest), []) := by
  obtain ⟨char, text, hdocument, hspace, hbracket, _⟩ := hrecovers.opens layout
  have hmark (text : List Char) : skipSpaces (',' :: text) = ',' :: text := rfl
  rw [hdocument, List.cons_append, Reader.nextItem, hmark]
  split
  · next heq => cases heq
  · next heq => exact absurd (List.cons.inj heq).1 (by decide)
  · next heq =>
    rw [← (List.cons.inj heq).2, if_neg Bool.false_ne_true, hgap.skipSpaces_append hspace]
    split
    · next heq => cases heq
    · next heq => exact absurd (List.cons.inj heq).1 hbracket
    · rfl
  · next hcomma => exact absurd rfl (hcomma _)

theorem nextItem_end (hgap : Spaces gap) (first : Bool) :
    Reader.nextItem first (gap ++ ']' :: rest) = .ok (none, rest) := by
  rw [Reader.nextItem, hgap.skipSpaces_append (by decide)]
  rfl

theorem items_end {text : List Char} {first : Bool} (hnext : Reader.nextItem first text = .ok (none, rest))
    (bound : Nat) : Reader.items item (bound + 1) first text = .ok ([], rest) := by
  change (Reader.nextItem first text >>= _) = _
  rw [hnext]
  rfl

theorem items_step {text found more left : List Char} {first : Bool} {values : List α} {bound : Nat}
    (hnext : Reader.nextItem first text = .ok (some found, left)) (hitem : item found = .ok (value, more))
    (hmore : Reader.items item bound false more = .ok (values, rest)) :
    Reader.items item (bound + 1) first text = .ok (value :: values, rest) := by
  change (Reader.nextItem first text >>= _) = _
  rw [hnext]
  change (item found >>= _) = _
  rw [hitem]
  change (Reader.items item bound false more >>= _) = _
  rw [hmore]
  rfl

/-- Items are read one after the other, whether a comma comes before them or they are the first. -/
theorem items_further {piece : α → Document} {others : List α}
    (hrecovers : ∀ other ∈ others, Recovers item (piece other) other) {bound : Nat}
    (hbound : others.length < bound) (layout : Layout) {closing : List Char} (hgap : Spaces gap)
    (hclosing : Spaces closing) :
    Reader.items item bound false (further gap (piece · layout) others ++ (closing ++ ']' :: rest)) =
      .ok (others, rest) := by
  induction others generalizing bound with
  | nil =>
    obtain ⟨fewer, rfl⟩ := Nat.exists_eq_succ_of_ne_zero (Nat.ne_zero_of_lt hbound)
    exact items_end (nextItem_end hclosing false) fewer
  | cons other others ih =>
    obtain ⟨fewer, rfl⟩ := Nat.exists_eq_succ_of_ne_zero (Nat.ne_zero_of_lt hbound)
    have hone := hrecovers other List.mem_cons_self
    have hothers : ∀ other ∈ others, Recovers item (piece other) other :=
      fun other hother => hrecovers other (List.mem_cons_of_mem _ hother)
    have hbehind : Behind (further gap (piece · layout) others ++ (closing ++ ']' :: rest)) :=
      behind_further hclosing (.inr (.inl rfl)) _ _
    rw [further_cons]
    exact items_step (hone.nextItem_comma layout hgap) (hone.reads layout spaces_nil hbehind)
      (ih hothers (Nat.lt_of_succ_lt_succ hbound))

/-- A list is read back if its items are. -/
theorem recovers_list {piece : α → Document} {all : List α} (hrecovers : ∀ one ∈ all, Recovers item (piece one) one) :
    Recovers (Reader.list item) (.array (all.map piece)) all := by
  apply Recovers.mk
  case opens =>
    intro layout
    cases all with
    | nil => exact ⟨'[', _, rfl, by decide, by decide, by decide⟩
    | cons one others => exact ⟨'[', _, rfl, by decide, by decide, by decide⟩
  case reads =>
    intro layout gap rest hgap hbehind
    cases all with
    | nil =>
      have htext : Document.array (([] : List α).map piece) layout ++ rest = '[' :: ']' :: rest := rfl
      rw [htext, Reader.list, hgap.skipSpaces_append (by decide)]
      exact items_end (nextItem_end spaces_nil true) _
    | cons one others =>
      have hone := hrecovers one List.mem_cons_self
      have hothers : ∀ other ∈ others, Recovers item (piece other) other :=
        fun other hother => hrecovers other (List.mem_cons_of_mem _ hother)
      have hspaces := layout.inner.spaces_lineBreak
      have hclosing := layout.spaces_lineBreak
      have hbehind : Behind (further layout.inner.lineBreak (piece · layout.inner) others ++
          (layout.lineBreak ++ ']' :: rest)) := behind_further hclosing (.inr (.inl rfl)) _ _
      rw [Document.array, enclosed_cons, Reader.list, hgap.skipSpaces_append (by decide)]
      refine items_step (hone.nextItem_first layout.inner hspaces) (hone.reads layout.inner spaces_nil hbehind)
        (items_further hothers ?_ layout.inner hspaces hclosing)
      -- every further item has a comma of its own among the characters left
      have hlong := length_le_further layout.inner.lineBreak (piece · layout.inner) others
      simp only [List.length_append, List.length_cons]
      omega

end Lists

/-! ### Records -/

section Records

variable {Draft α : Type} {known : List (Member Draft)} {strict : Bool} {gap rest : List Char}

theorem recovers_member {get : Draft → Option α} {set : Draft → α → Draft} {reader : Reader α} {document : Document}
    {value : α} (hrecovers : Recovers reader document value) (label : String) (draft : Draft) :
    Recovers ((Member.of label get set reader).fill draft) document (set draft value) := by
  apply Recovers.mk
  case opens => exact hrecovers.opens
  case reads =>
    intro layout gap rest hgap hbehind
    change (reader _ >>= _) = _
    rw [hrecovers.reads layout hgap hbehind]
    rfl

/-- From one draft to another by members that are known and not there yet. -/
inductive Fills (known : List (Member Draft)) : Draft → List (String × Document) → Draft → Prop
  | done (draft : Draft) : Fills known draft [] draft
  | member {draft filled final : Draft} {label : String} {document : Document} {entries : List (String × Document)}
      {member : Member Draft} (hknown : known.find? (fun member => member.label.toList == label.toList) = some member)
      (hunset : member.isSet draft = false) (hrecovers : Recovers (member.fill draft) document filled)
      (hrest : Fills known filled entries final) : Fills known draft ((label, document) :: entries) final

theorem member_append (entry : String × Document) (layout : Layout) (rest : List Char) :
    Document.member entry layout ++ rest =
      '"' :: (entry.1.toList.flatMap escapedChar ++ '"' :: (layout.colon ++ (entry.2 layout ++ rest))) := by
  simp [Document.member, written, List.append_assoc]

theorem nextLabel_first (entry : String × Document) (layout : Layout) (hgap : Spaces gap) (rest : List Char) :
    Record.nextLabel true (gap ++ (Document.member entry layout ++ rest)) =
      .ok (some entry.1.toList, layout.colon ++ (entry.2 layout ++ rest)) := by
  rw [member_append, Record.nextLabel, hgap.skipSpaces_append (by decide)]
  change (quotedRest _ >>= _) = _
  rw [quotedRest_written]
  rfl

theorem nextLabel_comma (entry : String × Document) (layout : Layout) (hgap : Spaces gap) (rest : List Char) :
    Record.nextLabel false (',' :: (gap ++ (Document.member entry layout ++ rest))) =
      .ok (some entry.1.toList, layout.colon ++ (entry.2 layout ++ rest)) := by
  have hmark (text : List Char) : skipSpaces (',' :: text) = ',' :: text := rfl
  rw [member_append, Record.nextLabel, hmark]
  split
  · next heq => cases heq
  · next heq => exact absurd (List.cons.inj heq).1 (by decide)
  · next heq =>
    rw [← (List.cons.inj heq).2, if_neg Bool.false_ne_true, hgap.skipSpaces_append (by decide)]
    change (quotedRest _ >>= _) = _
    rw [quotedRest_written]
    rfl
  · next hcomma => exact absurd rfl (hcomma _)

theorem nextLabel_end (hgap : Spaces gap) (first : Bool) :
    Record.nextLabel first (gap ++ '\x7d' :: rest) = .ok (none, rest) := by
  rw [Record.nextLabel, hgap.skipSpaces_append (by decide)]
  rfl

theorem members_end {text : List Char} {first : Bool} (hnext : Record.nextLabel first text = .ok (none, rest))
    (bound : Nat) (draft : Draft) : Record.members known strict (bound + 1) first draft text = .ok (draft, rest) := by
  change (Record.nextLabel first text >>= _) = _
  rw [hnext]
  rfl

theorem members_step {text more : List Char} {first : Bool} {entry : String × Document} {layout : Layout} {bound : Nat}
    {draft filled : Draft} {member : Member Draft}
    (hnext : Record.nextLabel first text = .ok (some entry.1.toList, layout.colon ++ (entry.2 layout ++ more)))
    (hknown : known.find? (fun member => member.label.toList == entry.1.toList) = some member)
    (hunset : member.isSet draft = false) (hrecovers : Recovers (member.fill draft) entry.2 filled)
    (hbehind : Behind more) :
    Record.members known strict (bound + 1) first draft text = Record.members known strict bound false filled more := by
  obtain ⟨gap, hcolon, hgap⟩ := layout.exists_colon
  change (Record.nextLabel first text >>= _) = _
  rw [hnext]
  dsimp only [bind, Except.bind]
  rw [hknown, hcolon]
  dsimp only
  rw [hunset, if_neg Bool.false_ne_true]
  change (member.fill draft (gap ++ (entry.2 layout ++ more)) >>= _) = _
  rw [hrecovers.reads layout hgap hbehind]
  rfl

theorem members_further {draft final : Draft} {entries : List (String × Document)}
    (hfills : Fills known draft entries final) {bound : Nat} (hbound : entries.length < bound) (layout : Layout)
    {closing : List Char} (hgap : Spaces gap) (hclosing : Spaces closing) :
    Record.members known strict bound false draft
      (further gap (Document.member · layout) entries ++ (closing ++ '\x7d' :: rest)) = .ok (final, rest) := by
  induction hfills generalizing bound with
  | done draft =>
    obtain ⟨fewer, rfl⟩ := Nat.exists_eq_succ_of_ne_zero (Nat.ne_zero_of_lt hbound)
    exact members_end (nextLabel_end hclosing false) fewer draft
  | @member draft filled final label document entries member hknown hunset hrecovers hrest ih =>
    obtain ⟨fewer, rfl⟩ := Nat.exists_eq_succ_of_ne_zero (Nat.ne_zero_of_lt hbound)
    have hbehind : Behind (further gap (Document.member · layout) entries ++ (closing ++ '\x7d' :: rest)) :=
      behind_further hclosing (.inr (.inr rfl)) _ _
    have hnext := nextLabel_comma (label, document) layout hgap
      (further gap (Document.member · layout) entries ++ (closing ++ '\x7d' :: rest))
    rw [further_cons]
    exact (members_step hnext hknown hunset hrecovers hbehind).trans (ih (Nat.lt_of_succ_lt_succ hbound))

/-- A record is read back if its members fill the empty draft to one that makes the record. -/
theorem recovers_record {blank final : Draft} {finish : Draft → Option α} {value : α}
    {entries : List (String × Document)} (hfills : Fills known blank entries final)
    (hfinish : finish final = some value) :
    Recovers (Record.read known strict blank finish) (.object entries) value := by
  have hread {text rest : List Char}
      (hmembers : Record.members known strict (text.length + 1) true blank text = .ok (final, rest))
      {gap : List Char} (hgap : Spaces gap) :
      Record.read known strict blank finish (gap ++ '\x7b' :: text) = .ok (value, rest) := by
    rw [Record.read, hgap.skipSpaces_append (by decide)]
    change (Record.members known strict (text.length + 1) true blank text >>= _) = _
    rw [hmembers]
    dsimp only [bind, Except.bind]
    rw [hfinish]
  apply Recovers.mk
  case opens =>
    intro layout
    cases entries with
    | nil => exact ⟨'\x7b', _, rfl, by decide, by decide, by decide⟩
    | cons entry entries => exact ⟨'\x7b', _, rfl, by decide, by decide, by decide⟩
  case reads =>
    intro layout gap rest hgap hbehind
    cases hfills with
    | done draft => exact hread (members_end (nextLabel_end spaces_nil true) _ blank) hgap
    | @member _ filled _ label document entries member hknown hunset hrecovers hrest =>
      have hspaces := layout.inner.spaces_lineBreak
      have hclosing := layout.spaces_lineBreak
      have hmore : Behind (further layout.inner.lineBreak (Document.member · layout.inner) entries ++
          (layout.lineBreak ++ '\x7d' :: rest)) := behind_further hclosing (.inr (.inr rfl)) _ _
      rw [Document.object, enclosed_cons]
      have hnext := nextLabel_first (label, document) layout.inner hspaces
        (further layout.inner.lineBreak (Document.member · layout.inner) entries ++
          (layout.lineBreak ++ '\x7d' :: rest))
      refine hread ((members_step hnext hknown hunset hrecovers hmore).trans ?_) hgap
      refine members_further hrest ?_ layout.inner hspaces hclosing
      have hlong := length_le_further layout.inner.lineBreak (Document.member · layout.inner) entries
      simp only [List.length_append, List.length_cons]
      omega

end Records

end WordSums.Json
