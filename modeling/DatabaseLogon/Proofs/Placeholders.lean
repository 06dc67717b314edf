import DatabaseLogon.Proofs.History

namespace DatabaseLogon

/-!
# Numbered placeholders

The marks of a statement cut it into pieces. To number them is to put a colon and a number between
the pieces, and nothing else changes.

* `Placeholder.numbered` — pieces put together, with numbers between them.
* `Placeholder.numberFrom_eq_numbered` — the marks of a text numbered are its pieces put together.
* `Placeholder.numberFrom_append` — behind a text, the numbers go on.
* `Placeholder.mark_notMem_numberFrom`, `Placeholder.numberFrom_of_notMem` — no mark is left, and
  a text without marks stays as it is.
* `Prepared.ofMarked_numbers` — a statement that is made ready.
-/

namespace Placeholder

/-- Pieces put together, with a colon and a number between each two of them. The first number is
    `n`. -/
def numbered (n : Nat) : List (List Char) → List Char
  | [] => []
  | first :: rest =>
    first ++ (rest.zipIdx n).flatMap fun (piece, k) => ':' :: Nat.toDigits 10 k ++ piece

variable {c : Char} {text : List Char}

/-! ### One character -/

theorem numberFrom_mark (n : UInt32) (text : List Char) :
    numberFrom n (mark :: text) = ':' :: Nat.toDigits 10 n.toNat ++ numberFrom (n + 1) text := by
  rw [numberFrom, if_pos rfl]

theorem numberFrom_cons_of_ne (h : c ≠ mark) (n : UInt32) (text : List Char) :
    numberFrom n (c :: text) = c :: numberFrom n text := by
  rw [numberFrom, if_neg h]

/-- A mark ends a piece, which was empty so far. -/
theorem numbered_mark (n : Nat) {pieces : List (List Char)} (cut : pieces ≠ []) :
    numbered n ([] :: pieces) = ':' :: Nat.toDigits 10 n ++ numbered (n + 1) pieces := by
  obtain ⟨first, rest, rfl⟩ := List.exists_cons_of_ne_nil cut
  rw [numbered, numbered, List.nil_append, List.zipIdx_cons, List.flatMap_cons, List.append_assoc]

/-- Any other character stands in the first piece. -/
theorem numbered_modifyHead (n : Nat) (c : Char) {pieces : List (List Char)} (cut : pieces ≠ []) :
    numbered n (pieces.modifyHead (List.cons c)) = c :: numbered n pieces := by
  obtain ⟨first, rest, rfl⟩ := List.exists_cons_of_ne_nil cut
  rfl

/-! ### Texts -/

/-- **The marks of a text are numbered by putting its pieces together**, if the numbers last. -/
theorem numberFrom_eq_numbered {k : Nat} (last : k + text.count mark ≤ UInt32.size) :
    numberFrom (UInt32.ofNat k) text = numbered k (text.splitOn mark) := by
  induction text generalizing k with
  | nil => rfl
  | cons c text ih =>
    have cut := List.splitOn_ne_nil mark text
    rw [List.splitOn_cons_eq_if_modifyHead]
    by_cases h : c = mark
    · subst h
      rw [List.count_cons_self] at last
      have small : (UInt32.ofNat k).toNat = k := UInt32.toNat_ofNat_of_lt' (by omega)
      have next : UInt32.ofNat k + 1 = UInt32.ofNat (k + 1) := (UInt32.ofNat_add k 1).symm
      rw [if_pos (beq_self_eq_true mark), numberFrom_mark, small, next, ih (by omega),
        numbered_mark k cut]
    · rw [List.count_cons_of_ne h] at last
      rw [if_neg (by simpa using h), numberFrom_cons_of_ne h, ih last, numbered_modifyHead k c cut]

/-- **Behind a text, the numbers go on** from the number of its marks. -/
theorem numberFrom_append (n : UInt32) (a b : List Char) :
    numberFrom n (a ++ b) = numberFrom n a ++ numberFrom (n + UInt32.ofNat (a.count mark)) b := by
  induction a generalizing n with
  | nil => simp [numberFrom]
  | cons c a ih =>
    by_cases h : c = mark
    · subst h
      have next : n + 1 + UInt32.ofNat (a.count mark)
          = n + UInt32.ofNat ((mark :: a).count mark) := by
        rw [List.count_cons_self, Nat.add_comm, UInt32.ofNat_add, ← UInt32.add_assoc]
        rfl
      rw [List.cons_append, numberFrom_mark, ih, numberFrom_mark, next, List.append_assoc]
    · rw [List.cons_append, numberFrom_cons_of_ne h, ih, numberFrom_cons_of_ne h,
        List.count_cons_of_ne h, List.cons_append]

/-- No mark is left. -/
theorem mark_notMem_numberFrom (n : UInt32) (text : List Char) : mark ∉ numberFrom n text := by
  induction text generalizing n with
  | nil => exact List.not_mem_nil
  | cons c text ih =>
    by_cases h : c = mark
    · rw [h, numberFrom_mark, List.cons_append, List.mem_cons, List.mem_append]
      rintro (colon | digit | behind)
      · exact absurd colon (by decide)
      · exact absurd (Nat.isDigit_of_mem_toDigits (by decide) (by decide) digit) (by decide)
      · exact ih _ behind
    · rw [numberFrom_cons_of_ne h, List.mem_cons]
      rintro (same | behind)
      · exact h same.symm
      · exact ih _ behind

/-- A text without marks stays as it is. -/
theorem numberFrom_of_notMem (n : UInt32) (unmarked : mark ∉ text) : numberFrom n text = text := by
  induction text with
  | nil => rfl
  | cons c text ih =>
    rw [List.mem_cons, not_or] at unmarked
    rw [numberFrom_cons_of_ne (Ne.symm unmarked.1), ih unmarked.2]

end Placeholder

namespace Prepared

open Placeholder

theorem ofMarked_of_notMem {sql : String} (unmarked : mark ∉ sql.toList) :
    ofMarked sql = unchanged sql :=
  if_neg unmarked

/-- The text of a statement that is made ready has its marks numbered, whether there are any or
    not. -/
theorem toList_ofMarked (sql : String) : (ofMarked sql).sql.toList = numberFrom 1 sql.toList := by
  by_cases marked : mark ∈ sql.toList
  · rw [ofMarked, if_pos marked, String.toList_ofList]
  · rw [ofMarked_of_notMem marked, numberFrom_of_notMem 1 marked]
    rfl

theorem borrowed_ofMarked (sql : String) : (ofMarked sql).borrowed = true ↔ mark ∉ sql.toList := by
  by_cases marked : mark ∈ sql.toList
  · rw [ofMarked, if_pos marked]
    exact iff_of_false Bool.false_ne_true (not_not_intro marked)
  · rw [ofMarked_of_notMem marked]
    exact iff_of_true rfl marked

/-- **Statements are made ready** by numbering their marks from one on. A statement is cut at its
    marks, and its pieces are put together again with numbers between them. No mark is left, so to
    make it ready once more changes nothing; a statement is only as it was given if it had none. If
    a statement is made of two, the numbers of the second go on from the number of marks in the
    first. A connection does this if the connection string asked for it, and else leaves statements
    as they are; nothing that is done with it makes a difference. -/
theorem ofMarked_numbers :
    (∀ sql : String, sql.toList.count '?' < UInt32.size →
      (ofMarked sql).sql = String.ofList (numbered 1 (sql.toList.splitOn '?'))) ∧
    (∀ sql : String,
      let ready := ofMarked sql
      '?' ∉ ready.sql.toList ∧
      ofMarked ready.sql = { sql := ready.sql, borrowed := true } ∧
      (ready.borrowed = true ↔ '?' ∉ sql.toList) ∧
      (ready.borrowed = true → ready.sql = sql)) ∧
    (∀ a b : String,
      let marks := a.toList.count '?'
      (ofMarked (a ++ b)).sql =
        (ofMarked a).sql ++ String.ofList (numberFrom (UInt32.ofNat (marks + 1)) b.toList) ∧
      (marks + b.toList.count '?' < UInt32.size → (ofMarked (a ++ b)).sql =
        (ofMarked a).sql ++ String.ofList (numbered (marks + 1) (b.toList.splitOn '?')))) ∧
    (∀ (c : Connection) (sql : String), c.prepare sql =
      if c.settings.questionMarkPlaceholders then ofMarked sql
      else { sql := sql, borrowed := true }) ∧
    ∀ {σ : Type} [ClientLibrary σ] (driver : Driver) (dsn : Dsn) (w : World σ)
      (first c : Connection) (deeds : List Deed),
      ((driver.openDsn dsn).run w).value = .ok first → first.History σ deeds c →
      ∀ sql : String, c.prepare sql =
        if dsn.questionMarkPlaceholders then ofMarked sql
        else { sql := sql, borrowed := true } := by
  have ends (sql : String) : '?' ∉ (ofMarked sql).sql.toList := by
    rw [toList_ofMarked]
    exact mark_notMem_numberFrom 1 sql.toList
  have joins (a b : String) : (ofMarked (a ++ b)).sql = (ofMarked a).sql ++
      String.ofList (numberFrom (UInt32.ofNat (a.toList.count '?' + 1)) b.toList) := by
    apply String.toList_injective
    rw [String.toList_append, toList_ofMarked, toList_ofMarked, String.toList_ofList,
      String.toList_append, numberFrom_append, Nat.add_comm, UInt32.ofNat_add]
    rfl
  refine ⟨fun sql last => ?pieces, fun sql => ⟨ends sql, ?again, borrowed_ofMarked sql, ?same⟩,
    fun a b => ⟨joins a b, fun last => ?numbers⟩, fun c sql => rfl, ?connection⟩
  case pieces =>
    apply String.toList_injective
    rw [toList_ofMarked, String.toList_ofList]
    exact numberFrom_eq_numbered (k := 1) (by rw [Nat.add_comm]; exact last)
  case again => exact ofMarked_of_notMem (ends sql)
  case same =>
    intro borrowed
    rw [ofMarked_of_notMem ((borrowed_ofMarked sql).mp borrowed)]
    rfl
  case numbers =>
    rw [joins, numberFrom_eq_numbered (by rw [mark]; omega)]
    rfl
  case connection =>
    intro σ _ driver dsn w first c deeds opened past sql
    obtain ⟨-, -, set⟩ := Driver.fresh_of_openDsn opened
    have kept : c.settings = first.settings := by
      rw [(past.later (Driver.laddered_of_openDsn opened)).same]
    rw [Connection.prepare, kept, set]
    rfl

/-- Marks that stand together, at the front, behind a digit and at the end. -/
theorem ofMarked_numbers_adjacent :
    (ofMarked "??1é?").sql = ":1:21é:3" ∧ ofMarked ":1:21é:3" = ⟨":1:21é:3", true⟩ := by
  have numbers : (ofMarked "??1é?").sql = ":1:21é:3" :=
    (ofMarked_numbers.1 "??1é?" (by decide)).trans (by decide)
  have again := (ofMarked_numbers.2.1 "??1é?").2.1
  rw [numbers] at again
  exact ⟨numbers, again⟩

end Prepared

end DatabaseLogon
