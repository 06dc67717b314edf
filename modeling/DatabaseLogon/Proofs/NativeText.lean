import DatabaseLogon.Error

namespace DatabaseLogon

/-!
# Native texts

The client library writes an error as `ORA-01017: message`, and line ends behind it. A record has
the number and the message. This module says which text becomes which record, and which text a
record has come from.

* `Text.trimEnd_eq_iff`, `Text.trim_eq_iff` — what is trimmed off a text.
* `Text.ColonCut` — the parts of a text around its first colon that a blank follows;
  `Text.splitAtColon_eq_some_iff` finds them.
* `Decimal.Padded` — a number in decimal digits, filled with zeros; `Decimal.padded_iff`.
* `Diagnostic.Line` — the line that says a record; `Diagnostic.Plain` — the records that it says
  without loss.
* `Diagnostic.message_eq_iff_line`, `Diagnostic.ofText_line` — the line is what is shown of the
  record, and is read as the record.
* `Diagnostic.trimmed_spec`, `Diagnostic.withoutNumber_eq_iff` — what is taken off any text at all.
-/

/-! ### Trimming -/

namespace Text

variable {α : Type} {p : α → Bool} {xs core : List α}

theorem dropWhile_eq_iff :
    xs.dropWhile p = core ↔ ∃ lead, xs = lead ++ core ∧ (∀ x ∈ lead, p x = true) ∧
      ∀ x ∈ core.head?, p x = false := by
  constructor
  · rintro rfl
    refine ⟨xs.takeWhile p, List.takeWhile_append_dropWhile.symm, ?_, ?_⟩
    · intro x hx
      exact List.all_eq_true.mp List.all_takeWhile x hx
    · intro x hx
      have stopped := List.head?_dropWhile_not p xs
      rw [Option.mem_def.mp hx] at stopped
      exact stopped
  · rintro ⟨lead, rfl, dropped, stopped⟩
    rw [List.dropWhile_append_of_pos dropped]
    cases core with
    | nil => rfl
    | cons x core =>
      have kept : ¬ p x = true := Bool.eq_false_iff.mp (stopped x rfl)
      rw [List.dropWhile_cons_of_neg kept]

/-- What is left when the end is trimmed does not end with what is trimmed off. -/
theorem trimEnd_eq_iff :
    trimEnd p xs = core ↔ ∃ tail, xs = core ++ tail ∧ (∀ x ∈ tail, p x = true) ∧
      ∀ x ∈ core.getLast?, p x = false := by
  rw [trimEnd, List.reverse_eq_iff, dropWhile_eq_iff, List.head?_reverse]
  constructor
  · rintro ⟨lead, same, dropped, stopped⟩
    refine ⟨lead.reverse, ?_, fun x hx => dropped x (List.mem_reverse.mp hx), stopped⟩
    rw [← List.reverse_reverse xs, same, List.reverse_append, List.reverse_reverse]
  · rintro ⟨tail, rfl, dropped, stopped⟩
    refine ⟨tail.reverse, List.reverse_append, fun x hx => dropped x (List.mem_reverse.mp hx),
      stopped⟩

/-- What is left when both ends are trimmed neither begins nor ends with what is trimmed off. -/
theorem trim_eq_iff :
    trim p xs = core ↔ ∃ lead tail, xs = lead ++ core ++ tail ∧ (∀ x ∈ lead, p x = true) ∧
      (∀ x ∈ tail, p x = true) ∧ (∀ x ∈ core.head?, p x = false) ∧
      ∀ x ∈ core.getLast?, p x = false := by
  rw [trim, trimEnd_eq_iff]
  constructor
  · rintro ⟨tail, same, dropped, stopped⟩
    obtain ⟨lead, rfl, skipped, started⟩ := dropWhile_eq_iff.mp same
    refine ⟨lead, tail, (List.append_assoc ..).symm, skipped, dropped, ?_, stopped⟩
    cases core with
    | nil => exact fun x hx => by cases hx
    | cons x core => exact started
  · rintro ⟨lead, tail, rfl, skipped, dropped, started, stopped⟩
    cases core with
    | nil =>
      -- then nothing is left already before the end is trimmed
      refine ⟨[], ?_, by simp, by simp⟩
      rw [List.append_nil, List.append_nil, List.dropWhile_append_of_pos skipped,
        ← List.append_nil tail, List.dropWhile_append_of_pos dropped]
      rfl
    | cons x core =>
      exact ⟨tail, dropWhile_eq_iff.mpr ⟨lead, List.append_assoc .., skipped, started⟩, dropped,
        stopped⟩

/-! ### The first colon -/

/-- A text is cut at its first colon that a blank follows. -/
structure ColonCut (text before after : List Char) : Prop where
  parts : text = before ++ ':' :: ' ' :: after
  first : ∀ before' after', text = before' ++ ':' :: ' ' :: after' →
    before.length ≤ before'.length

theorem ColonCut.unique {text before after before' after' : List Char}
    (h : ColonCut text before after) (h' : ColonCut text before' after') :
    before = before' ∧ after = after' := by
  have length := Nat.le_antisymm (h.first _ _ h'.parts) (h'.first _ _ h.parts)
  obtain ⟨rfl, same⟩ := List.append_inj (h.parts.symm.trans h'.parts) length
  simpa using same

/-- A first character that is no such colon only makes the part in front longer. -/
theorem ColonCut.cons {c d : Char} {rest before after : List Char} (other : ¬ (c = ':' ∧ d = ' '))
    (h : ColonCut (d :: rest) before after) : ColonCut (c :: d :: rest) (c :: before) after where
  parts := by rw [h.parts, List.cons_append]
  first before' after' same := by
    cases before' with
    | nil =>
      rw [List.nil_append, List.cons.injEq, List.cons.injEq] at same
      exact absurd ⟨same.1, same.2.1⟩ other
    | cons x before' =>
      have shorter := h.first before' after' (List.cons.inj same).2
      simpa using shorter

/-- Splitting at a colon cuts there, unless there is no such colon. -/
theorem splitAtColon_spec (text : List Char) :
    match splitAtColon text with
    | some (before, after) => ColonCut text before after
    | none => ∀ before after, text ≠ before ++ ':' :: ' ' :: after := by
  induction text using splitAtColon.induct with
  | case1 => simp [splitAtColon]
  | case2 c =>
    intro before after same
    have length := congrArg List.length same
    simp only [List.length_append, List.length_cons, List.length_nil] at length
    omega
  | case3 c d rest here =>
    rw [splitAtColon, if_pos here]
    obtain ⟨rfl, rfl⟩ := here
    exact ⟨rfl, fun _ _ _ => Nat.zero_le _⟩
  | case4 c d rest other before after found ih =>
    rw [found] at ih
    simp only [splitAtColon, if_neg other, found]
    exact ih.cons other
  | case5 c d rest other missing ih =>
    rw [missing] at ih
    simp only [splitAtColon, if_neg other, missing]
    intro before after same
    cases before with
    | nil =>
      rw [List.nil_append, List.cons.injEq, List.cons.injEq] at same
      exact other ⟨same.1, same.2.1⟩
    | cons x before => exact ih before after (List.cons.inj same).2

theorem splitAtColon_eq_some_iff {text before after : List Char} :
    splitAtColon text = some (before, after) ↔ ColonCut text before after := by
  have spec := splitAtColon_spec text
  constructor
  · intro found
    rwa [found] at spec
  · intro cut
    cases found : splitAtColon text with
    | none =>
      rw [found] at spec
      exact absurd cut.parts (spec before after)
    | some parts =>
      rw [found] at spec
      obtain ⟨same, same'⟩ := cut.unique spec
      rw [same, same']

/-- Without a colon in front the first one is the one in sight. -/
theorem ColonCut.of_notMem {before : List Char} (h : ':' ∉ before) (after : List Char) :
    ColonCut (before ++ ':' :: ' ' :: after) before after where
  parts := rfl
  first before' after' same := by
    apply Nat.le_of_not_lt
    intro shorter
    -- else this colon would stand in the part in front
    have here : before[before'.length]? = some ':' := by
      have both := congrArg (·[before'.length]?) same
      rwa [List.getElem?_append_left shorter, List.getElem?_append_right (Nat.le_refl _),
        Nat.sub_self] at both
    exact h (List.mem_of_getElem? here)

end Text

/-! ### Numbers -/

namespace Decimal

/-- A number in decimal digits. The zeros in front fill it to a width in which a minus sign
    counts. -/
structure Padded (width : Nat) (n : Int) (text : String) : Prop where
  digits : ∃ zeros, text.toList = (if n < 0 then ['-'] else []) ++ List.replicate zeros '0'
    ++ Nat.toDigits 10 n.natAbs
  length : text.length = max width ((if n < 0 then 1 else 0) + (Nat.toDigits 10 n.natAbs).length)

theorem toList_padded (width : Nat) (n : Int) :
    (padded width n).toList = (if n < 0 then ['-'] else [])
      ++ List.replicate
        (width - (if n < 0 then 1 else 0) - (Nat.toDigits 10 n.natAbs).length) '0'
      ++ Nat.toDigits 10 n.natAbs := by
  have digits : (toString n.natAbs).toList = Nat.toDigits 10 n.natAbs := Nat.toList_repr
  have length : (toString n.natAbs).length = (Nat.toDigits 10 n.natAbs).length := by
    rw [← String.length_toList, digits]
  unfold padded
  by_cases negative : n < 0
  · simp only [if_pos negative, String.toList_append, String.toList_ofList, digits, length]
    rfl
  · simp only [if_neg negative, String.toList_append, String.toList_ofList, digits, length]
    rfl

/-- There is one way to write a number so. -/
theorem padded_iff {width : Nat} {n : Int} {text : String} :
    Padded width n text ↔ text = padded width n := by
  have signed : (if n < 0 then ['-'] else []).length = if n < 0 then 1 else 0 := by
    split <;> rfl
  constructor
  · rintro ⟨⟨zeros, digits⟩, length⟩
    rw [← String.length_toList, digits, List.length_append, List.length_append,
      List.length_replicate, signed] at length
    have filled : zeros
        = width - (if n < 0 then 1 else 0) - (Nat.toDigits 10 n.natAbs).length := by
      omega
    apply String.toList_inj.mp
    rw [digits, toList_padded, filled]
  · rintro rfl
    refine ⟨⟨_, toList_padded width n⟩, ?_⟩
    rw [← String.length_toList, toList_padded, List.length_append, List.length_append,
      List.length_replicate, signed]
    omega

/-- A number is written with nothing else than digits and a minus sign. -/
theorem Padded.forall_mem {width : Nat} {n : Int} {text : String} (h : Padded width n text) :
    ∀ c ∈ text.toList, c = '-' ∨ c.isDigit = true := by
  obtain ⟨zeros, digits⟩ := h.digits
  intro c hc
  rw [digits, List.mem_append, List.mem_append] at hc
  rcases hc with (sign | zero) | digit
  · split at sign
    · exact .inl (List.mem_singleton.mp sign)
    · cases sign
  · rw [List.eq_of_mem_replicate zero]
    exact .inr rfl
  · exact .inr (Nat.isDigit_of_mem_toDigits (by decide) (by decide) digit)

end Decimal

/-! ### Lines -/

namespace Diagnostic

variable {d : Diagnostic} {line : String}

/-- The line that says a record: the number in five places or more, and the message. -/
def Line (d : Diagnostic) (line : String) : Prop :=
  ∃ number, Decimal.Padded 5 d.code number ∧ line = "ORA-" ++ number ++ ": " ++ d.message

/-- A record of which the message can be told from what may stand behind it. -/
structure Plain (d : Diagnostic) : Prop where
  nonempty : d.message ≠ ""
  noNul : '\x00' ∉ d.message.toList
  ends : ∀ c ∈ d.message.toList.getLast?, Text.isBlank c = false

/-- What is shown of an error of the database is the line that says its record. -/
theorem message_eq_iff_line : (Error.oracle d).message = line ↔ d.Line line := by
  constructor
  · rintro rfl
    exact ⟨_, Decimal.padded_iff.mpr rfl, rfl⟩
  · rintro ⟨number, padded, rfl⟩
    rw [Decimal.padded_iff.mp padded]
    rfl

/-- A line is cut behind its number. -/
theorem Line.cut (h : d.Line line) :
    ∃ number, Text.ColonCut line.toList number d.message.toList ∧ marker <+: number := by
  obtain ⟨number, padded, rfl⟩ := h
  have toList : ("ORA-" ++ number ++ ": " ++ d.message).toList
      = (marker ++ number.toList) ++ ':' :: ' ' :: d.message.toList := by
    simp [String.toList_append, marker]
  have clear : ':' ∉ marker ++ number.toList := by
    intro colon
    rcases List.mem_append.mp colon with colon | colon
    · simp [marker] at colon
    · rcases padded.forall_mem ':' colon with absurd | absurd <;> cases absurd
  rw [toList]
  exact ⟨_, .of_notMem clear _, List.prefix_append _ _⟩

/-- A line begins with a letter and ends as the message does. -/
theorem Line.ends (h : d.Line line) (plain : d.Plain) :
    line.toList.head? = some 'O' ∧ line.toList.getLast? = d.message.toList.getLast? := by
  obtain ⟨number, -, rfl⟩ := h
  have said : d.message.toList ≠ [] := by simpa using plain.nonempty
  rw [String.toList_append, List.getLast?_append, List.getLast?_eq_some_getLast said]
  simp [String.toList_append]

/-- What stands behind the line is trimmed off, and nothing else. -/
theorem Line.trimmed_append (h : d.Line line) (plain : d.Plain) {ends : List Char}
    (lineEnds : ∀ c ∈ ends, c = '\n' ∨ c = '\r') : trimmed (line.toList ++ ends) = line.toList := by
  obtain ⟨begins, last⟩ := h.ends plain
  have stripped : Text.trimEnd isLineEnd (line.toList ++ ends) = line.toList := by
    refine Text.trimEnd_eq_iff.mpr ⟨ends, rfl, ?_, ?_⟩
    · intro c hc
      rcases lineEnds c hc with rfl | rfl <;> rfl
    · intro c hc
      rw [last] at hc
      have solid := plain.ends c hc
      have said : c ∈ d.message.toList := List.mem_of_getLast? hc
      -- line ends are blank, and there is no NUL in the message
      simp only [isLineEnd, Bool.or_eq_false_iff, decide_eq_false_iff_not]
      refine ⟨⟨?_, ?_⟩, ?_⟩ <;> rintro rfl
      · cases solid
      · cases solid
      · exact plain.noNul said
  rw [trimmed, stripped]
  refine Text.trim_eq_iff.mpr ⟨[], [], by simp, by simp, by simp, ?_, ?_⟩
  · intro c hc
    rw [begins] at hc
    cases hc
    rfl
  · rw [last]
    exact plain.ends

/-- What is left of a text when the number is taken off. -/
theorem withoutNumber_eq_iff {text message : List Char} :
    withoutNumber text = message ↔
      (∃ number, Text.ColonCut text number message ∧ marker <+: number) ∨
      (message = text ∧ ∀ number rest, Text.ColonCut text number rest → ¬ marker <+: number) := by
  unfold withoutNumber
  cases found : Text.splitAtColon text with
  | none =>
    have uncut (number rest : List Char) : ¬ Text.ColonCut text number rest := by
      intro cut
      rw [Text.splitAtColon_eq_some_iff.mpr cut] at found
      cases found
    constructor
    · rintro rfl
      exact .inr ⟨rfl, fun number rest cut => absurd cut (uncut number rest)⟩
    · rintro (⟨number, cut, -⟩ | ⟨rfl, -⟩)
      · exact absurd cut (uncut number message)
      · rfl
  | some parts =>
    obtain ⟨before, after⟩ := parts
    have cut := Text.splitAtColon_eq_some_iff.mp found
    by_cases marked : marker <+: before
    · simp only [List.isPrefixOf_iff_prefix.mpr marked, if_true]
      constructor
      · rintro rfl
        exact .inl ⟨before, cut, marked⟩
      · rintro (⟨number, cut', -⟩ | ⟨-, unmarked⟩)
        · exact (cut.unique cut').2
        · exact absurd marked (unmarked before after cut)
    · have unmarked : marker.isPrefixOf before = false :=
        Bool.eq_false_iff.mpr (mt List.isPrefixOf_iff_prefix.mp marked)
      simp only [unmarked, Bool.false_eq_true, if_false]
      constructor
      · rintro rfl
        refine .inr ⟨rfl, fun number rest cut' => ?_⟩
        rwa [← (cut.unique cut').1]
      · rintro (⟨number, cut', marked'⟩ | ⟨rfl, -⟩)
        · rw [← (cut.unique cut').1] at marked'
          exact absurd marked' marked
        · rfl

/-- **A line is read as its record**, whatever line ends stand behind it. -/
theorem ofText_line (h : d.Line line) (plain : d.Plain) {ends : List Char}
    (lineEnds : ∀ c ∈ ends, c = '\n' ∨ c = '\r') : ofText d.code (line.toList ++ ends) = d := by
  have message : withoutNumber line.toList = d.message.toList :=
    withoutNumber_eq_iff.mpr (.inl h.cut)
  rw [ofText, h.trimmed_append plain lineEnds, message, String.ofList_toList]

/-- **What is trimmed off a text**: blanks in front, and blanks and then all line ends behind. -/
theorem trimmed_spec (text : List Char) :
    ∃ lead blanks ends, text = lead ++ trimmed text ++ blanks ++ ends ∧
      (∀ c ∈ lead, Text.isBlank c = true) ∧ (∀ c ∈ blanks, Text.isBlank c = true) ∧
      (∀ c ∈ ends, isLineEnd c = true) ∧
      (∀ c ∈ (lead ++ trimmed text ++ blanks).getLast?, isLineEnd c = false) ∧
      (∀ c ∈ (trimmed text).head?, Text.isBlank c = false) ∧
      ∀ c ∈ (trimmed text).getLast?, Text.isBlank c = false := by
  obtain ⟨ends, same, lineEnds, solid⟩ :=
    Text.trimEnd_eq_iff.mp (rfl : Text.trimEnd isLineEnd text = _)
  obtain ⟨lead, blanks, same', before, behind, first, last⟩ :=
    Text.trim_eq_iff.mp (rfl : Text.trim Text.isBlank (Text.trimEnd isLineEnd text) = _)
  rw [same'] at same solid
  exact ⟨lead, blanks, ends, same, before, behind, lineEnds, solid, first, last⟩

end Diagnostic

end DatabaseLogon
