import DatabaseLogon.Proofs.Spelling

namespace DatabaseLogon

/-!
# Stray marks

Every `%` of a component has to open an escape. The search for one that does not goes on behind an
escape, three bytes at a time, and still no `%` is left out: none can stand among the digits of an
escape. So what is said here of every place in a text is found by walking over some of them.

* `Percent.Opens` — bytes begin with an escape of a value.
* `Percent.StrayAt`, `Percent.FirstStray` — a `%` that opens no escape, and the first one.
* `Percent.Searched`, `Percent.searched_stray?` — the search finds the first one, if there is any.
* `Percent.decode_of_opens` — an escape is decoded on its own, wherever it stands.
* `Dsn.checkFrom`, `Dsn.checkEscapes` — the check with which the readers of components and hosts
  begin, from place to place.
* `Dsn.checkFrom_eq` — the check is the search through the pieces, from every place on.
* `Dsn.checkEscapes_finds_strays` — what it accepts, what it quotes, and what follows for decoding.
-/

namespace Percent

/-! ### Places -/

/-- Bytes begin with an escape of this value: `%` and two hexadecimal digits. -/
inductive Opens : List UInt8 → UInt8 → Prop
  | intro {high low : UInt8} {h l : Nat} (first : HexDigit (Char.ofNat high.toNat) h)
    (second : HexDigit (Char.ofNat low.toNat) l) (rest : List UInt8) :
    Opens (mark :: high :: low :: rest) (UInt8.ofNat (h * 16 + l))

/-- At this place stands a `%` that opens no escape. -/
structure StrayAt (bytes : List UInt8) (i : Nat) : Prop where
  mark : bytes[i]? = some mark
  idle : ∀ value, ¬ Opens (bytes.drop i) value

/-- At this place stands the first `%` that opens no escape. -/
structure FirstStray (bytes : List UInt8) (i : Nat) : Prop where
  stray : StrayAt bytes i
  first : ∀ j < i, ¬ StrayAt bytes j

variable {a b c : UInt8} {bytes rest : List UInt8} {value : UInt8} {i : Nat}

/-- Behind the first byte the places are those of the other bytes. -/
theorem strayAt_cons_succ : StrayAt (b :: rest) (i + 1) ↔ StrayAt rest i :=
  ⟨fun h => ⟨h.mark, h.idle⟩, fun h => ⟨h.mark, h.idle⟩⟩

theorem not_strayAt_zero_of_ne (other : b ≠ mark) : ¬ StrayAt (b :: rest) 0 :=
  fun stray => other (Option.some.inj stray.mark)

theorem not_strayAt_zero_of_opens (opens : Opens bytes value) : ¬ StrayAt bytes 0 :=
  fun stray => stray.idle value opens

/-- Every `%` opens an escape exactly if none is stray. -/
theorem forall_not_strayAt_iff :
    (∀ i, ¬ StrayAt bytes i) ↔
      ∀ i, bytes[i]? = some mark → ∃ value, Opens (bytes.drop i) value := by
  constructor
  · intro none i here
    apply Classical.byContradiction
    intro idle
    exact none i ⟨here, fun value opens => idle ⟨value, opens⟩⟩
  · intro all i stray
    obtain ⟨value, opens⟩ := all i stray.mark
    exact stray.idle value opens

/-! ### The next piece -/

/-- The test of a byte agrees with the table of digits. -/
theorem isDigit_iff : isDigit b ↔ ∃ n, HexDigit (Char.ofNat b.toNat) n := by
  constructor
  · intro h
    obtain ⟨-, n, -, digit⟩ := hexDigit_of_isDigit h
    exact ⟨n, digit⟩
  · rintro ⟨n, digit⟩
    have byte := digit.isDigit
    rwa [Utf8.toNat_ofNat_toNat, UInt8.ofNat_toNat] at byte

theorem ne_mark_of_isDigit (h : isDigit b) : b ≠ mark := by
  rintro rfl
  cases h

/-- Bytes that open an escape are cut behind it, and the piece stands for its value. -/
theorem pieces_of_opens (opens : Opens bytes value) :
    ∃ high low rest, isDigit high ∧ isDigit low ∧ bytes = mark :: high :: low :: rest ∧
      pieces bytes = .escape high low :: pieces rest ∧ (Piece.escape high low).byte = value := by
  obtain ⟨first, second, rest⟩ := opens
  rename_i high low h l
  have digits : isDigit high ∧ isDigit low :=
    ⟨isDigit_iff.mpr ⟨h, first⟩, isDigit_iff.mpr ⟨l, second⟩⟩
  refine ⟨high, low, rest, digits.1, digits.2, rfl, pieces_cons_escape digits rest, ?_⟩
  have byte := byte_escape first second
  rwa [Utf8.toNat_ofNat_toNat, Utf8.toNat_ofNat_toNat, UInt8.ofNat_toNat, UInt8.ofNat_toNat] at byte

/-- Bytes begin with one escape only. -/
theorem Opens.unique {value' : UInt8} (h : Opens bytes value) (h' : Opens bytes value') :
    value = value' := by
  obtain ⟨high, low, rest, -, -, same, -, rfl⟩ := pieces_of_opens h
  obtain ⟨high', low', rest', -, -, same', -, rfl⟩ := pieces_of_opens h'
  rw [same] at same'
  cases same'
  rfl

/-- An escape stands where its `%` stands. -/
theorem Opens.getElem? (h : Opens (bytes.drop i) value) : bytes[i]? = some mark := by
  obtain ⟨high, low, rest, -, -, same, -, -⟩ := pieces_of_opens h
  rw [← Nat.add_zero i, ← List.getElem?_drop, same]
  rfl

/-- Two digits behind a `%` make an escape. -/
theorem exists_opens (high : isDigit b) (low : isDigit c) (rest : List UInt8) :
    ∃ value, Opens (mark :: b :: c :: rest) value := by
  obtain ⟨h, first⟩ := isDigit_iff.mp high
  obtain ⟨l, second⟩ := isDigit_iff.mp low
  exact ⟨_, .intro first second rest⟩

/-- Bytes that open no escape are cut behind the first of them. -/
theorem pieces_of_not_opens (idle : ∀ value, ¬ Opens (b :: rest) value) :
    pieces (b :: rest) = .plain b :: pieces rest := by
  -- an escape takes three bytes, so the cut looks at two more
  rcases rest with _ | ⟨c, _ | ⟨d, rest⟩⟩
  · rfl
  · rfl
  · rw [pieces, if_neg]
    rintro ⟨rfl, high, low⟩
    obtain ⟨value, opens⟩ := exists_opens high low rest
    exact idle value opens

/-! ### The search -/

/-- What a search for the first stray `%` should find: up to three bytes from its place on. -/
def Searched (bytes : List UInt8) : Option (List UInt8) → Prop
  | none => ∀ i, ¬ StrayAt bytes i
  | some fragment => ∃ i, FirstStray bytes i ∧ fragment = (bytes.drop i).take 3

/-- A search may begin behind a byte at which nothing is stray. -/
theorem Searched.cons {found : Option (List UInt8)} (here : ¬ StrayAt (b :: rest) 0)
    (h : Searched rest found) : Searched (b :: rest) found := by
  cases found with
  | none =>
    intro i
    cases i with
    | zero => exact here
    | succ i => exact mt strayAt_cons_succ.mp (h i)
  | some fragment =>
    obtain ⟨i, ⟨stray, first⟩, rfl⟩ := h
    refine ⟨i + 1, ⟨strayAt_cons_succ.mpr stray, ?_⟩, rfl⟩
    intro j hj
    cases j with
    | zero => exact here
    | succ j => exact mt strayAt_cons_succ.mp (first j (by omega))

/-- An escape is passed by, -/
theorem stray?_of_opens (opens : Opens bytes value) :
    stray? (pieces bytes) = stray? (pieces (bytes.drop 3)) := by
  obtain ⟨high, low, rest, -, -, rfl, cut, -⟩ := pieces_of_opens opens
  rw [cut, stray?, if_neg (by simp)]
  rfl

/-- and so is a byte other than `%`. -/
theorem stray?_cons_of_ne (other : b ≠ mark) :
    stray? (pieces (b :: rest)) = stray? (pieces rest) := by
  rw [pieces_cons_plain other, stray?, if_neg fun same => other (Piece.plain.inj same)]

/-- A `%` that opens no escape is found, with up to two bytes behind it. -/
theorem stray?_of_idle (idle : ∀ value, ¬ Opens (mark :: rest) value) :
    stray? (pieces (mark :: rest)) = some ((mark :: rest).take 3) := by
  rw [pieces_of_not_opens idle, stray?, if_pos rfl, ← pieces_of_not_opens idle, spelling_pieces]

/-- **The search finds the first stray `%`**, although it skips the digits of every escape. -/
theorem searched_stray? (bytes : List UInt8) : Searched bytes (stray? (pieces bytes)) := by
  -- the search goes on one or three bytes further on, so the induction is on the number of bytes
  induction hn : bytes.length using Nat.strongRecOn generalizing bytes with
  | _ n ih =>
    subst hn
    cases bytes with
    | nil => exact fun i stray => by cases stray.mark
    | cons b rest =>
      by_cases here : b = mark
      · subst here
        by_cases opened : ∃ value, Opens (mark :: rest) value
        · obtain ⟨value, opens⟩ := opened
          rw [stray?_of_opens opens]
          obtain ⟨high, low, behind, first, second, same, -, -⟩ := pieces_of_opens opens
          obtain rfl := (List.cons.inj same).2
          have fewer : behind.length < (mark :: high :: low :: behind).length := by
            simp only [List.length_cons]
            omega
          -- nothing is stray at the two digits either
          exact .cons (not_strayAt_zero_of_opens opens)
            (.cons (not_strayAt_zero_of_ne (ne_mark_of_isDigit first))
              (.cons (not_strayAt_zero_of_ne (ne_mark_of_isDigit second)) (ih _ fewer behind rfl)))
        · have idle (value : UInt8) : ¬ Opens (mark :: rest) value :=
            fun opens => opened ⟨value, opens⟩
          rw [stray?_of_idle idle]
          refine ⟨0, ⟨⟨rfl, idle⟩, ?_⟩, rfl⟩
          exact fun j hj => absurd hj (Nat.not_lt_zero j)
      · rw [stray?_cons_of_ne here]
        exact .cons (not_strayAt_zero_of_ne here) (ih _ (Nat.lt_succ_self _) rest rfl)

theorem FirstStray.unique {j : Nat} (h : FirstStray bytes i) (h' : FirstStray bytes j) : i = j := by
  rcases Nat.lt_trichotomy i j with before | same | behind
  · exact absurd h.stray (h'.first i before)
  · exact same
  · exact absurd h'.stray (h.first j behind)

theorem stray?_eq_none_iff : stray? (pieces bytes) = none ↔ ∀ i, ¬ StrayAt bytes i := by
  have searched := searched_stray? bytes
  constructor
  · intro nothing
    rwa [nothing] at searched
  · intro none
    cases found : stray? (pieces bytes) with
    | none => rfl
    | some fragment =>
      rw [found] at searched
      obtain ⟨i, first, -⟩ := searched
      exact absurd first.stray (none i)

theorem stray?_eq_some_iff {fragment : List UInt8} :
    stray? (pieces bytes) = some fragment ↔
      ∃ i, FirstStray bytes i ∧ fragment = (bytes.drop i).take 3 := by
  have searched := searched_stray? bytes
  constructor
  · intro found
    rwa [found] at searched
  · rintro ⟨i, first, rfl⟩
    cases found : stray? (pieces bytes) with
    | none =>
      rw [found] at searched
      exact absurd first.stray (searched i)
    | some fragment =>
      rw [found] at searched
      obtain ⟨j, first', rfl⟩ := searched
      rw [first.unique first']

-- `%4%41`: the second `%` opens an escape, and is quoted with the first one, which does not
example : stray? (pieces [0x25, 0x34, 0x25, 0x34, 0x31]) = some [0x25, 0x34, 0x25] := by
  decide

/-- Three bytes from a place on, or as many as there are. -/
theorem window_eq (bytes : List UInt8) (i : Nat) :
    (bytes.take (min (i + 3) bytes.length)).drop i = (bytes.drop i).take 3 := by
  rw [List.drop_take, List.take_eq_take_iff, List.length_drop]
  omega

/-! ### From place to place -/

/-- The bytes between two places, if there are that many. -/
def between? (bytes : List UInt8) (i j : Nat) : Option (List UInt8) :=
  if i ≤ j ∧ j ≤ bytes.length then some ((bytes.take j).drop i) else none

/-- Are the two bytes behind a place hexadecimal digits? -/
def digitsBehind (bytes : List UInt8) (i : Nat) : Bool :=
  match between? bytes (i + 1) (i + 3) with
  | some [high, low] => isDigit high && isDigit low
  | _ => false

theorem drop_eq_cons (here : bytes[i]? = some b) :
    bytes.drop i = b :: bytes.drop (i + 1) := by
  obtain ⟨inside, rfl⟩ := List.getElem?_eq_some_iff.mp here
  exact List.drop_eq_getElem_cons inside

/-- Two digits behind a `%` open an escape, and nothing else does. -/
theorem digitsBehind_iff (here : bytes[i]? = some mark) :
    digitsBehind bytes i ↔ ∃ value, Opens (bytes.drop i) value := by
  have same := drop_eq_cons here
  -- the slice is there exactly if two more bytes are
  have two : between? bytes (i + 1) (i + 3)
      = if 2 ≤ (bytes.drop (i + 1)).length then some ((bytes.drop (i + 1)).take 2) else none := by
    have width : i + 3 - (i + 1) = 2 := by omega
    have enough : (i + 1 ≤ i + 3 ∧ i + 3 ≤ bytes.length) ↔ 2 ≤ (bytes.drop (i + 1)).length := by
      rw [List.length_drop]
      omega
    simp only [between?, List.drop_take, width, enough]
  rw [digitsBehind, two, same]
  constructor
  · intro digits
    rcases hrest : bytes.drop (i + 1) with _ | ⟨high, _ | ⟨low, rest⟩⟩ <;> rw [hrest] at digits
    · cases digits
    · cases digits
    · obtain ⟨first, second⟩ := Bool.and_eq_true_iff.mp digits
      exact exists_opens first second rest
  · rintro ⟨value, opens⟩
    obtain ⟨high, low, rest, first, second, same, -, -⟩ := pieces_of_opens opens
    rw [(List.cons.inj same).2]
    exact Bool.and_eq_true_iff.mpr ⟨first, second⟩

/-! ### Decoding -/

/-- A `%` begins a piece, whatever stands before it. -/
theorem pieces_append_mark (before rest : List UInt8) :
    pieces (before ++ mark :: rest) = pieces before ++ pieces (mark :: rest) := by
  -- a `%` is no digit, so no escape reaches over it
  have idle_two (a : UInt8) (value : UInt8) : ¬ Opens (a :: mark :: rest) value := by
    intro opens
    obtain ⟨high, low, behind, first, -, same, -⟩ := pieces_of_opens opens
    exact ne_mark_of_isDigit first (List.cons.inj (List.cons.inj same).2).1.symm
  have idle_three (a b : UInt8) (value : UInt8) : ¬ Opens (a :: b :: mark :: rest) value := by
    intro opens
    obtain ⟨high, low, behind, -, second, same, -⟩ := pieces_of_opens opens
    exact ne_mark_of_isDigit second
      (List.cons.inj (List.cons.inj (List.cons.inj same).2).2).1.symm
  fun_induction pieces before with
  | case1 => rfl
  | case2 a => exact pieces_of_not_opens (idle_two a)
  | case3 a b =>
    show pieces (a :: b :: mark :: rest) = _
    rw [pieces_of_not_opens (idle_three a b), pieces_of_not_opens (idle_two b)]
    rfl
  | case4 a b c before opens ih =>
    obtain ⟨rfl, digits⟩ := opens
    show pieces (mark :: b :: c :: (before ++ mark :: rest)) = _
    rw [pieces_cons_escape digits, ih]
    rfl
  | case5 a b c before other ih =>
    show pieces (a :: b :: c :: (before ++ mark :: rest)) = _
    rw [pieces, if_neg other]
    exact congrArg _ ih

/-- **An escape is decoded on its own**: what stands before it and behind it is decoded as if it
    stood alone. -/
theorem decode_of_opens (opens : Opens (bytes.drop i) value) :
    decode bytes = decode (bytes.take i) ++ value :: decode (bytes.drop (i + 3)) := by
  obtain ⟨high, low, rest, -, -, same, cut, byte⟩ := pieces_of_opens opens
  have behind : bytes.drop (i + 3) = rest := by
    rw [← List.drop_drop, same]
    rfl
  have cuts : pieces bytes = pieces (bytes.take i) ++ .escape high low :: pieces rest := by
    rw [← cut, same, ← pieces_append_mark, ← same, List.take_append_drop]
  rw [decode, cuts, List.map_append, List.map_cons, byte, behind]
  rfl

/-- Where nothing is stray no `%` is left as it is. -/
theorem plain_mark_not_mem (checked : stray? (pieces bytes) = none) :
    Piece.plain mark ∉ pieces bytes := by
  generalize pieces bytes = ps at checked
  induction ps with
  | nil => exact List.not_mem_nil
  | cons p ps ih =>
    rw [stray?] at checked
    split at checked
    · cases checked
    next other => exact List.not_mem_cons_of_ne_of_not_mem (Ne.symm other) (ih checked)

end Percent

namespace Dsn

/-! ### The check -/

/-- The complaint about a `%` that opens no escape, with the bytes that are quoted and the name of
    what is checked. -/
def strayEscape (name : String) (fragment : List UInt8) : Error :=
  .invalidConnectionString
    ("invalid escape " ++ Text.quoted (String.ofList (Utf8.decodeLossy fragment)) ++ " in " ++ name)

/-- The check from a place on. It goes on three bytes behind a `%` with two digits, and one byte
    behind any other byte. A `%` without them is quoted with up to two bytes behind it. -/
def checkFrom (name : String) (bytes : List UInt8) (i : Nat) : Except Error Unit :=
  if i < bytes.length then
    if bytes[i]? = some Percent.mark then
      if Percent.digitsBehind bytes i then checkFrom name bytes (i + 3)
      else .error (strayEscape name ((bytes.take (min (i + 3) bytes.length)).drop i))
    else checkFrom name bytes (i + 1)
  else .ok ()
termination_by bytes.length - i

/-- The check with which the readers begin: every `%` has to open an escape. -/
def checkEscapes (name : String) (text : List Char) : Except Error Unit :=
  checkFrom name (Utf8.encode text) 0

/-- From every place on **the check is the search** through the pieces. -/
theorem checkFrom_eq (name : String) (bytes : List UInt8) (i : Nat) :
    checkFrom name bytes i = match Percent.stray? (Percent.pieces (bytes.drop i)) with
      | some fragment => .error (strayEscape name fragment)
      | none => .ok () := by
  -- the cases are those of the check: an escape, a stray `%`, another byte, and the end
  fun_induction checkFrom name bytes i with
  | case1 i inside here digits ih =>
    obtain ⟨value, opens⟩ := (Percent.digitsBehind_iff here).mp digits
    rw [ih, Percent.stray?_of_opens opens, List.drop_drop]
  | case2 i inside here digits =>
    have idle := mt (Percent.digitsBehind_iff here).mpr digits
    rw [Percent.window_eq]
    rw [Percent.drop_eq_cons here] at idle ⊢
    rw [Percent.stray?_of_idle fun value opens => idle ⟨value, opens⟩]
  | case3 i inside here ih =>
    have other : bytes[i] ≠ Percent.mark :=
      fun same => here ((List.getElem?_eq_getElem inside).trans (congrArg some same))
    rw [ih, List.drop_eq_getElem_cons inside, Percent.stray?_cons_of_ne other]
  | case4 i inside =>
    rw [List.drop_of_length_le (Nat.le_of_not_lt inside)]
    rfl

theorem checkEscapes_eq (name : String) (text : List Char) :
    checkEscapes name text = match Percent.stray? (Percent.pieces (Utf8.encode text)) with
      | some fragment => .error (strayEscape name fragment)
      | none => .ok () :=
  checkFrom_eq name (Utf8.encode text) 0

variable {name : String} {text : List Char}

theorem checkEscapes_eq_ok_iff :
    checkEscapes name text = .ok () ↔
      Percent.stray? (Percent.pieces (Utf8.encode text)) = none := by
  rw [checkEscapes_eq]
  cases Percent.stray? (Percent.pieces (Utf8.encode text)) <;> simp

/-- The check accepts a text exactly if every `%` in it opens an escape. -/
theorem checkEscapes_eq_ok_iff_forall :
    checkEscapes name text = .ok () ↔
      ∀ i, (Utf8.encode text)[i]? = some Percent.mark →
        ∃ value, Percent.Opens ((Utf8.encode text).drop i) value := by
  rw [checkEscapes_eq_ok_iff, Percent.stray?_eq_none_iff, Percent.forall_not_strayAt_iff]

/-- Else it quotes the first stray `%` with up to two bytes behind it. -/
theorem checkEscapes_eq_error_iff {e : Error} :
    checkEscapes name text = .error e ↔
      ∃ i, Percent.FirstStray (Utf8.encode text) i ∧
        e = .invalidConnectionString
          ("invalid escape "
            ++ Text.quoted (String.ofList (Utf8.decodeLossy (((Utf8.encode text).drop i).take 3)))
            ++ " in " ++ name) := by
  rw [checkEscapes_eq]
  constructor
  · intro h
    cases searched : Percent.stray? (Percent.pieces (Utf8.encode text)) with
    | none =>
      rw [searched] at h
      cases h
    | some fragment =>
      rw [searched] at h
      obtain rfl := Except.error.inj h
      obtain ⟨i, first, rfl⟩ := Percent.stray?_eq_some_iff.mp searched
      exact ⟨i, first, rfl⟩
  · rintro ⟨i, first, rfl⟩
    rw [Percent.stray?_eq_some_iff.mpr ⟨i, first, rfl⟩]
    rfl

/-- A component is checked and then decoded. -/
theorem readComponent_eq_bind (part : Part) (text : List Char) :
    (readComponent part text).mapError Fault.toError
      = (checkEscapes part.name text).bind fun _ =>
          (readBytes part (Percent.decode (Utf8.encode text))).mapError Fault.toError := by
  rw [checkEscapes_eq]
  unfold readComponent
  dsimp only
  cases Percent.stray? (Percent.pieces (Utf8.encode text)) <;> rfl

/-- A host is checked, searched for what it cannot hold, and then decoded. -/
theorem readHost_eq_bind (text : List Char) :
    (readHost text).mapError Fault.toError
      = (checkEscapes "host" text).bind fun _ =>
          match (Percent.pieces (Utf8.encode text)).findSome? hostFault? with
          | some fault => .error fault.toError
          | none =>
            (readBytes .host (Percent.decode (Utf8.encode text))).mapError Fault.toError := by
  rw [checkEscapes_eq]
  unfold readHost
  dsimp only
  cases Percent.stray? (Percent.pieces (Utf8.encode text)) with
  | some fragment => rfl
  | none => cases (Percent.pieces (Utf8.encode text)).findSome? hostFault? <;> rfl

/-- **The check of escapes finds strays.** It accepts a text exactly if every `%` in it, wherever it
    stands, opens an escape. Else it quotes the first `%` that does not with up to two bytes behind
    it, also if they are cut out of a character. Where it accepts, decoding replaces every `%` by
    the value of its escape, and leaves none. It is the check that both readers begin with. -/
theorem checkEscapes_finds_strays (name : String) (text : List Char) :
    let bytes := Utf8.encode text
    (checkEscapes name text = .ok () ↔
      ∀ i, bytes[i]? = some Percent.mark → ∃ value, Percent.Opens (bytes.drop i) value) ∧
    (∀ e, checkEscapes name text = .error e ↔
      ∃ i, Percent.FirstStray bytes i ∧
        e = .invalidConnectionString
          ("invalid escape "
            ++ Text.quoted (String.ofList (Utf8.decodeLossy
                ((bytes.take (min (i + 3) bytes.length)).drop i)))
            ++ " in " ++ name)) ∧
    (checkEscapes name text = .ok () →
      Percent.Piece.plain Percent.mark ∉ Percent.pieces bytes ∧
      ∀ i, bytes[i]? = some Percent.mark → ∃ value, Percent.Opens (bytes.drop i) value ∧
        Percent.decode bytes
          = Percent.decode (bytes.take i) ++ value :: Percent.decode (bytes.drop (i + 3))) ∧
    (∀ part : Part, (readComponent part text).mapError Fault.toError
      = (checkEscapes part.name text).bind fun _ =>
          (readBytes part (Percent.decode bytes)).mapError Fault.toError) ∧
    (readHost text).mapError Fault.toError
      = (checkEscapes "host" text).bind fun _ =>
          match (Percent.pieces bytes).findSome? hostFault? with
          | some fault => .error fault.toError
          | none => (readBytes .host (Percent.decode bytes)).mapError Fault.toError := by
  intro bytes
  refine ⟨checkEscapes_eq_ok_iff_forall, ?quotes, ?decodes,
    fun part => readComponent_eq_bind part text, readHost_eq_bind text⟩
  case quotes =>
    intro e
    rw [checkEscapes_eq_error_iff]
    simp only [Percent.window_eq, bytes]
  case decodes =>
    intro checked
    refine ⟨Percent.plain_mark_not_mem (checkEscapes_eq_ok_iff.mp checked), fun i here => ?_⟩
    obtain ⟨value, opens⟩ := checkEscapes_eq_ok_iff_forall.mp checked i here
    exact ⟨value, opens, Percent.decode_of_opens opens⟩

end Dsn

end DatabaseLogon
