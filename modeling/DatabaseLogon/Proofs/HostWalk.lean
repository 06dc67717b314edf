import DatabaseLogon.Proofs.Strays

namespace DatabaseLogon

/-!
# The walk over a host

Once every `%` of a host opens an escape, a second walk over its bytes looks for what a host cannot
hold. Where a `%` stands, it cuts three bytes out of the text and reads the last two of them as a
number. Both steps could go wrong: a text can be cut only between characters, and not every text is
a number. Here the walk is written down byte by byte, with these mishaps as endings of its own, and
shown to be the search that the reader makes. It never comes to such an ending.

* `Utf8.Boundary`, `Utf8.slice?` — where a text can be cut, and the characters between two places.
* `Percent.number?` — the byte that a text of hexadecimal digits denotes.
* `HostWalk.move`, `HostWalk.run` — a step of the walk, and the whole.
* `HostWalk.FaultAt` — what a host cannot hold, and where it stands.
* `HostWalk.moves`, `HostWalk.runs` — what a step does, and what the walk comes to.
* `Dsn.hostWalk_safe` — the walk goes well, and stops at the leftmost fault.
-/

/-! ### Cutting a text -/

namespace Utf8

/-- A text can be cut at this place: no character has bytes on both sides of it. -/
def Boundary (text : List Char) (i : Nat) : Prop :=
  ∃ before after, text = before ++ after ∧ (encode before).length = i

/-- The characters before a place and those behind it, if a text can be cut there. -/
def cutAt? : Nat → List Char → Option (List Char × List Char)
  | 0, text => some ([], text)
  | _ + 1, [] => none
  | n + 1, c :: text =>
    if c.utf8Size ≤ n + 1 then
      (cutAt? (n + 1 - c.utf8Size) text).map fun (before, after) => (c :: before, after)
    else none

/-- The characters between two places, if a text can be cut at both. -/
def slice? (text : List Char) (i j : Nat) : Option (List Char) :=
  (cutAt? j text).bind fun cut => (cutAt? i cut.1).map Prod.snd

theorem cutAt?_append (before after : List Char) :
    cutAt? (encode before).length (before ++ after) = some (before, after) := by
  induction before with
  | nil => rw [encode_nil, List.length_nil, cutAt?, List.nil_append]
  | cons c before ih =>
    have size := c.utf8Size_pos
    rw [length_encode_cons]
    obtain ⟨n, hn⟩ : ∃ n, c.utf8Size + (encode before).length = n + 1 :=
      ⟨c.utf8Size + (encode before).length - 1, by omega⟩
    have rest : n + 1 - c.utf8Size = (encode before).length := by omega
    rw [hn, List.cons_append, cutAt?, if_pos (by omega), rest, ih]
    rfl

theorem slice?_append (before part after : List Char) :
    slice? (before ++ part ++ after) (encode before).length (encode (before ++ part)).length
      = some part := by
  rw [slice?, cutAt?_append, Option.bind_some, cutAt?_append, Option.map_some]

/-- Where an ASCII byte stands, a text can be cut. -/
theorem exists_cut_of_drop {text : List Char} {i : Nat} {b : UInt8} {bytes : List UInt8}
    (here : (encode text).drop i = b :: bytes) (ascii : b.toNat < 0x80) :
    ∃ before after, text = before ++ after ∧ (encode before).length = i ∧
      encode after = b :: bytes := by
  induction text generalizing i with
  | nil => simp at here
  | cons c text ih =>
    cases i with
    | zero => exact ⟨[], c :: text, rfl, rfl, here⟩
    | succ i =>
      rw [encode_cons, List.drop_append, String.length_utf8EncodeChar] at here
      by_cases passed : c.utf8Size ≤ i + 1
      · rw [List.drop_of_length_le (by rwa [String.length_utf8EncodeChar]),
          List.nil_append] at here
        obtain ⟨before, after, rfl, length, behind⟩ := ih here
        refine ⟨c :: before, after, rfl, ?_, behind⟩
        rw [length_encode_cons, length]
        omega
      · -- a character with an ASCII byte has no other byte
        have inside : (String.utf8EncodeChar c).drop (i + 1) ≠ [] := by
          rw [Ne, List.drop_eq_nil_iff, String.length_utf8EncodeChar]
          exact passed
        obtain ⟨first, others, same⟩ := List.exists_cons_of_ne_nil inside
        rw [same] at here
        obtain rfl : first = b := (List.cons.inj here).1
        have mem : first ∈ String.utf8EncodeChar c :=
          List.mem_of_mem_drop (same ▸ List.mem_cons_self)
        have single := utf8EncodeChar_ascii (c := c)
          (by rw [toNat_of_mem_utf8EncodeChar mem ascii]; exact ascii)
        rw [single] at same
        simp at same

end Utf8

/-! ### Reading a number -/

namespace Percent

/-- The byte that a text of one or more hexadecimal digits denotes. A plus sign may stand in
    front. -/
def number? (text : List Char) : Option UInt8 :=
  let digits := if text.head? = some '+' then text.tail else text
  if digits = [] then none
  else (digits.mapM fun c => List.lookup c hexDigits).bind fun values =>
    let n := values.foldl (fun n digit => n * 16 + digit) 0
    if n < 256 then some (UInt8.ofNat n) else none

variable {high low : Char} {h l : Nat}

/-- A digit is found in the table under its value, and is neither a sign, a `%` nor a control
    character. -/
theorem HexDigit.lookup (digit : HexDigit high h) :
    List.lookup high hexDigits = some h ∧ h < 16 ∧ high ≠ '+' ∧ Dsn.isControl high = false := by
  have all : ∀ d ∈ hexDigits, List.lookup d.1 hexDigits = some d.2 ∧ d.2 < 16 ∧ d.1 ≠ '+' ∧
      Dsn.isControl d.1 = false := by decide
  exact all (high, h) digit

theorem number?_digits (first : HexDigit high h) (second : HexDigit low l) :
    number? [high, low] = some (UInt8.ofNat (h * 16 + l)) := by
  obtain ⟨here, least, unsigned, -⟩ := first.lookup
  obtain ⟨here', least', -, -⟩ := second.lookup
  have bound : h * 16 + l < 256 := by omega
  simp [number?, unsigned, here, here', bound]

variable {text : List Char} {i : Nat} {value : UInt8}

/-- An escape among the bytes of a text is an escape among its characters. -/
theorem Opens.exists_characters (opens : Opens ((Utf8.encode text).drop i) value) :
    ∃ before high low h l after, text = before ++ ['%', high, low] ++ after ∧
      (Utf8.encode before).length = i ∧ (Utf8.encode ['%', high, low]).length = 3 ∧
      HexDigit high h ∧ HexDigit low l ∧ value = UInt8.ofNat (h * 16 + l) := by
  generalize same : (Utf8.encode text).drop i = bytes at opens
  obtain ⟨first, second, rest⟩ := opens
  rename_i high low h l
  have ascii (b : UInt8) {n : Nat} (digit : HexDigit (Char.ofNat b.toNat) n) : b.toNat < 0x80 := by
    rw [← Utf8.toNat_ofNat_toNat]
    exact digit.byte.1
  obtain ⟨before, after, rfl, length, behind⟩ := Utf8.exists_cut_of_drop same (by decide)
  obtain ⟨after₁, rfl, behind₁⟩ := Utf8.exists_cons_of_encode_eq_cons behind (by decide)
  obtain ⟨after₂, rfl, behind₂⟩ := Utf8.exists_cons_of_encode_eq_cons behind₁ (ascii high first)
  obtain ⟨after₃, rfl, -⟩ := Utf8.exists_cons_of_encode_eq_cons behind₂ (ascii low second)
  refine ⟨before, _, _, h, l, after₃, by rw [List.append_assoc]; rfl, length, ?_, first, second,
    rfl⟩
  rw [Utf8.encode_cons, Utf8.encode_cons, Utf8.encode_cons,
    Utf8.utf8EncodeChar_ascii first.byte.1, Utf8.utf8EncodeChar_ascii second.byte.1]
  rfl

end Percent

/-! ### The walk -/

namespace HostWalk

open Percent (mark Opens pieces)

/-- How the walk ends. -/
inductive Halt where
  /-- All bytes are passed. -/
  | passed
  /-- A host cannot hold what stands there. -/
  | refused (fault : Dsn.Fault)
  /-- The three bytes of an escape cannot be cut out of the text. -/
  | torn
  /-- What stands behind a `%` is no number. -/
  | unread
  deriving DecidableEq

/-- The fault at which the walk ends, if it ends at one. -/
def Halt.fault? : Halt → Option Dsn.Fault
  | .refused fault => some fault
  | .passed | .torn | .unread => none

/-- What the walk does at a place. -/
inductive Move where
  /-- It goes on from another place. -/
  | on (next : Nat)
  | halt (how : Halt)

/-- A step of the walk: a `%` is read with the two bytes behind it, any other byte alone. -/
def move (text : List Char) (i : Nat) : Move :=
  match (Utf8.encode text)[i]? with
  | none => .halt .passed
  | some b =>
    if b = mark then
      match Utf8.slice? text i (i + 3) with
      | none => .halt .torn
      | some escape =>
        match Percent.number? escape.tail with
        | none => .halt .unread
        | some value =>
          if value < 0x80 ∧ value ≠ mark then
            .halt (.refused (.escape (Utf8.encode escape) .host))
          else .on (i + 3)
    else if Dsn.isControl (Char.ofNat b.toNat) then
      .halt (.refused (.character (Char.ofNat b.toNat)))
    else .on (i + 1)

/-- A step ahead stays within the bytes or leaves them for good. -/
theorem move_on {text : List Char} {i next : Nat} (h : move text i = .on next) :
    i < (Utf8.encode text).length ∧ i < next := by
  unfold move at h
  split at h
  · cases h
  next b here =>
    obtain ⟨inside, -⟩ := List.getElem?_eq_some_iff.mp here
    refine ⟨inside, ?_⟩
    split at h
    · split at h
      · cases h
      · split at h
        · cases h
        · split at h
          · cases h
          · cases h
            omega
    · split at h
      · cases h
      · cases h
        omega

/-- The walk from a place on. -/
def run (text : List Char) (i : Nat) : Halt :=
  match _step : move text i with
  | .on next => run text next
  | .halt how => how
termination_by (Utf8.encode text).length - i
decreasing_by
  have ahead := move_on _step
  omega

/-- What a host cannot hold stands at this place: a blank or a control character as it is, or an
    escape of an ASCII character other than `%`. -/
inductive FaultAt (bytes : List UInt8) (i : Nat) : Dsn.Fault → Prop
  | character {b : UInt8} (here : bytes[i]? = some b)
    (control : Dsn.isControl (Char.ofNat b.toNat) = true) :
    FaultAt bytes i (.character (Char.ofNat b.toNat))
  | escape {value : UInt8} (opens : Opens (bytes.drop i) value) (ascii : value < 0x80)
    (other : value ≠ mark) : FaultAt bytes i (.escape ((bytes.drop i).take 3) .host)

variable {text : List Char} {bytes : List UInt8} {i : Nat} {fault : Dsn.Fault} {value : UInt8}

theorem not_faultAt_of_length_le (behind : bytes.length ≤ i) : ¬ FaultAt bytes i fault := by
  have nothing : bytes[i]? = none := List.getElem?_eq_none behind
  rintro (⟨here, -⟩ | ⟨opens, -, -⟩)
  · rw [nothing] at here
    cases here
  · rw [List.drop_of_length_le behind] at opens
    cases opens

/-- A byte other than `%` can only be a fault itself. -/
theorem faultAt_iff_of_ne {b : UInt8} (here : bytes[i]? = some b) (other : b ≠ mark) :
    FaultAt bytes i fault ↔
      Dsn.isControl (Char.ofNat b.toNat) = true ∧ fault = .character (Char.ofNat b.toNat) := by
  constructor
  · rintro (⟨here', control⟩ | ⟨opens, -, -⟩)
    · obtain rfl := Option.some.inj (here.symm.trans here')
      exact ⟨control, rfl⟩
    · exact absurd (Option.some.inj (here.symm.trans opens.getElem?)) other
  · rintro ⟨control, rfl⟩
    exact .character here control

/-- An escape can only be a fault by its value. -/
theorem faultAt_iff_of_opens (opens : Opens (bytes.drop i) value) :
    FaultAt bytes i fault ↔
      (value < 0x80 ∧ value ≠ mark) ∧ fault = .escape ((bytes.drop i).take 3) .host := by
  constructor
  · rintro (⟨here, control⟩ | ⟨opens', ascii, other⟩)
    · obtain rfl := Option.some.inj (here.symm.trans opens.getElem?)
      cases control
    · obtain rfl := opens.unique opens'
      exact ⟨⟨ascii, other⟩, rfl⟩
  · rintro ⟨⟨ascii, other⟩, rfl⟩
    exact .escape opens ascii other

/-- There is one fault at a place. -/
theorem FaultAt.unique {other : Dsn.Fault} (h : FaultAt bytes i fault)
    (h' : FaultAt bytes i other) : fault = other := by
  cases h with
  | @character b here control =>
    have unlike : b ≠ mark := by
      rintro rfl
      cases control
    exact ((faultAt_iff_of_ne here unlike).mp h').2.symm
  | escape opens ascii unlike => exact ((faultAt_iff_of_opens opens).mp h').2.symm

/-- Nothing is at fault at the digits of an escape. -/
theorem not_faultAt_digits (opens : Opens (bytes.drop i) value) {j : Nat} (after : i < j)
    (before : j < i + 3) : ¬ FaultAt bytes j fault := by
  obtain ⟨high, low, rest, first, second, same, -, -⟩ := Percent.pieces_of_opens opens
  have digit : ∃ b, bytes[j]? = some b ∧ Percent.isDigit b := by
    obtain ⟨k, rfl⟩ : ∃ k, j = i + k := ⟨j - i, by omega⟩
    rw [← List.getElem?_drop, same]
    obtain rfl | rfl : k = 1 ∨ k = 2 := by omega
    · exact ⟨high, rfl, first⟩
    · exact ⟨low, rfl, second⟩
  obtain ⟨b, here, isDigit⟩ := digit
  obtain ⟨n, hex⟩ := Percent.isDigit_iff.mp isDigit
  rw [faultAt_iff_of_ne here (Percent.ne_mark_of_isDigit isDigit), hex.lookup.2.2.2]
  simp

/-! ### A step -/

/-- What a step does in a text of which the escapes are checked. The search through the pieces
    goes along. -/
inductive Moves (bytes : List UInt8) (i : Nat) : Move → Prop
  | passed (behind : bytes.length ≤ i) : Moves bytes i (.halt .passed)
  | refuse {fault : Dsn.Fault} (here : FaultAt bytes i fault)
    (search : (pieces (bytes.drop i)).findSome? Dsn.hostFault? = some fault) :
    Moves bytes i (.halt (.refused fault))
  | on {next : Nat} (inside : i < bytes.length) (ahead : i < next)
    (sound : ∀ j, i ≤ j → j < next → ∀ fault, ¬ FaultAt bytes j fault)
    (search : (pieces (bytes.drop i)).findSome? Dsn.hostFault?
      = (pieces (bytes.drop next)).findSome? Dsn.hostFault?) :
    Moves bytes i (.on next)

/-- An escape is cut out of the text and read as its value. -/
theorem slice?_of_opens (opens : Opens ((Utf8.encode text).drop i) value) :
    ∃ escape, Utf8.slice? text i (i + 3) = some escape ∧
      Percent.number? escape.tail = some value ∧
      Utf8.encode escape = ((Utf8.encode text).drop i).take 3 := by
  obtain ⟨before, high, low, h, l, after, rfl, rfl, length, first, second, rfl⟩ :=
    opens.exists_characters
  refine ⟨['%', high, low], ?_, Percent.number?_digits first second, ?_⟩
  · rw [← Utf8.slice?_append before ['%', high, low] after, Utf8.length_encode_append before,
      length]
  · rw [List.append_assoc, Utf8.encode_append, List.drop_left, Utf8.encode_append,
      ← length, List.take_left]

/-- Where an escape stands, the walk neither fails to cut it out nor to read it. -/
theorem move_of_opens (opens : Opens ((Utf8.encode text).drop i) value) :
    move text i =
      if value < 0x80 ∧ value ≠ mark then
        .halt (.refused (.escape (((Utf8.encode text).drop i).take 3) .host))
      else .on (i + 3) := by
  obtain ⟨escape, sliced, number, written⟩ := slice?_of_opens opens
  unfold move
  rw [opens.getElem?]
  dsimp only
  rw [if_pos rfl, sliced]
  dsimp only
  rw [number, ← written]

theorem move_of_ne {b : UInt8} (here : (Utf8.encode text)[i]? = some b) (other : b ≠ mark) :
    move text i =
      if Dsn.isControl (Char.ofNat b.toNat) then .halt (.refused (.character (Char.ofNat b.toNat)))
      else .on (i + 1) := by
  unfold move
  rw [here]
  exact if_neg other

/-- The search passes an escape as a whole. -/
theorem search_of_opens (opens : Opens (bytes.drop i) value) :
    (pieces (bytes.drop i)).findSome? Dsn.hostFault? =
      if value < 0x80 ∧ value ≠ mark then some (.escape ((bytes.drop i).take 3) .host)
      else (pieces (bytes.drop (i + 3))).findSome? Dsn.hostFault? := by
  obtain ⟨high, low, rest, -, -, same, cut, byte⟩ := Percent.pieces_of_opens opens
  have behind : bytes.drop (i + 3) = rest := by
    rw [← List.drop_drop, same]
    rfl
  rw [cut, List.findSome?_cons, Dsn.hostFault?, byte, behind, same]
  by_cases unfit : value < 0x80 ∧ value ≠ mark
  · rw [if_pos unfit, if_pos unfit]
    rfl
  · rw [if_neg unfit, if_neg unfit]

theorem search_of_ne {b : UInt8} (here : bytes[i]? = some b) (other : b ≠ mark) :
    (pieces (bytes.drop i)).findSome? Dsn.hostFault? =
      if Dsn.isControl (Char.ofNat b.toNat) then some (.character (Char.ofNat b.toNat))
      else (pieces (bytes.drop (i + 1))).findSome? Dsn.hostFault? := by
  obtain ⟨inside, rfl⟩ := List.getElem?_eq_some_iff.mp here
  rw [List.drop_eq_getElem_cons inside, Percent.pieces_cons_plain other, List.findSome?_cons,
    Dsn.hostFault?]
  by_cases control : Dsn.isControl (Char.ofNat bytes[i].toNat)
  · rw [if_pos control, if_pos control]
  · rw [if_neg control, if_neg control]

variable (checked : ∀ k, (Utf8.encode text)[k]? = some mark →
  ∃ value, Opens ((Utf8.encode text).drop k) value)

include checked in
/-- **A step** looks at what stands at its place, and at nothing behind the next. -/
theorem moves (i : Nat) : Moves (Utf8.encode text) i (move text i) := by
  cases here : (Utf8.encode text)[i]? with
  | none =>
    rw [move, here]
    exact .passed (List.getElem?_eq_none_iff.mp here)
  | some b =>
    obtain ⟨inside, -⟩ := List.getElem?_eq_some_iff.mp here
    by_cases percent : b = mark
    · obtain ⟨value, opens⟩ := checked i (by rw [here, percent])
      rw [move_of_opens opens]
      split
      case isTrue unfit =>
        exact .refuse ((faultAt_iff_of_opens opens).mpr ⟨unfit, rfl⟩)
          ((search_of_opens opens).trans (if_pos unfit))
      case isFalse fit =>
        refine .on inside (by omega) ?_ ((search_of_opens opens).trans (if_neg fit))
        intro j hj hj' fault
        rcases Nat.eq_or_lt_of_le hj with rfl | after
        · exact fun fault => fit ((faultAt_iff_of_opens opens).mp fault).1
        · exact not_faultAt_digits opens after hj'
    · rw [move_of_ne here percent]
      split
      case isTrue control =>
        exact .refuse (.character here control)
          ((search_of_ne here percent).trans (if_pos control))
      case isFalse printed =>
        refine .on inside (by omega) ?_ ((search_of_ne here percent).trans (if_neg printed))
        intro j hj hj' fault
        obtain rfl : i = j := by omega
        exact fun fault => printed ((faultAt_iff_of_ne here percent).mp fault).1

/-! ### The whole walk -/

/-- What the walk comes to: the end of the bytes, or the first fault. -/
inductive Runs (bytes : List UInt8) (i : Nat) : Halt → Prop
  | passed (sound : ∀ j, i ≤ j → ∀ fault, ¬ FaultAt bytes j fault)
    (search : (pieces (bytes.drop i)).findSome? Dsn.hostFault? = none) : Runs bytes i .passed
  | refused {fault : Dsn.Fault} {j : Nat} (reached : i ≤ j) (here : FaultAt bytes j fault)
    (first : ∀ k, i ≤ k → k < j → ∀ other, ¬ FaultAt bytes k other)
    (search : (pieces (bytes.drop i)).findSome? Dsn.hostFault? = some fault) :
    Runs bytes i (.refused fault)

/-- A step ahead of the walk does not change what it comes to. -/
theorem Runs.before {how : Halt} {next : Nat} (step : Moves bytes i (.on next))
    (h : Runs bytes next how) : Runs bytes i how := by
  cases step with
  | on inside ahead sound search =>
  cases h with
  | passed sound' search' =>
    refine .passed (fun j hj => ?_) (search.trans search')
    by_cases before : j < next
    · exact sound j hj before
    · exact sound' j (by omega)
  | refused reached here first search' =>
    refine .refused (by omega) here (fun k hk hk' => ?_) (search.trans search')
    by_cases before : k < next
    · exact sound k hk before
    · exact first k (by omega) hk'

include checked in
/-- **The walk** comes to its end or to the first fault, in step with the search. -/
theorem runs (i : Nat) : Runs (Utf8.encode text) i (run text i) := by
  -- along the recursion of the walk, which every step shortens
  fun_induction run text i with
  | case1 i next step ih => exact .before (step ▸ moves checked i) ih
  | case2 i how step =>
    have moved := moves checked i
    rw [step] at moved
    cases moved with
    | passed behind =>
      refine .passed (fun j hj fault => not_faultAt_of_length_le (by omega)) ?_
      rw [List.drop_of_length_le behind]
      rfl
    | refuse here search =>
      exact .refused (Nat.le_refl i) here (fun k hk hk' => absurd hk' (by omega)) search

/-- The fault of a whole walk is what the search through all pieces finds. -/
theorem Runs.fault?_eq {how : Halt} (h : Runs bytes 0 how) :
    how.fault? = (pieces bytes).findSome? Dsn.hostFault? := by
  cases h with
  | passed sound search => exact search.symm
  | refused reached here first search => exact search.symm

/-- What a whole walk comes to is told by the places of the faults. -/
theorem Runs.told {how : Halt} (h : Runs bytes 0 how) :
    how ≠ .torn ∧ how ≠ .unread ∧ (how = .passed ↔ ∀ i fault, ¬ FaultAt bytes i fault) ∧
      ∀ fault, how = .refused fault ↔
        ∃ i, FaultAt bytes i fault ∧ ∀ j < i, ∀ other, ¬ FaultAt bytes j other := by
  cases h with
  | passed sound search =>
    refine ⟨by simp, by simp, ?_, fun fault => ?_⟩
    · exact ⟨fun _ i => sound i (Nat.zero_le i), fun _ => rfl⟩
    · exact ⟨fun absurd => (by cases absurd),
        fun ⟨i, here, _⟩ => absurd here (sound i (Nat.zero_le i) fault)⟩
  | @refused fault j reached here first search =>
    refine ⟨by simp, by simp, ?_, fun fault' => ?_⟩
    · exact ⟨fun absurd => (by cases absurd), fun sound => absurd here (sound j fault)⟩
    · constructor
      · intro same
        cases same
        exact ⟨j, here, fun k hk => first k (Nat.zero_le k) hk⟩
      · rintro ⟨i, here', first'⟩
        -- the two first places are one, and there is one fault at a place
        obtain rfl : i = j := by
          rcases Nat.lt_trichotomy i j with before | same | behind
          · exact absurd here' (first i (Nat.zero_le i) before fault')
          · exact same
          · exact absurd here (first' j behind fault)
        rw [here.unique here']

end HostWalk

namespace Dsn

open HostWalk

/-- **The walk over a host goes well**, once its escapes are checked. Every `%` that it can meet has
    two digits behind it, and the text can be cut before it and behind them, so the walk never fails
    to cut or to read a number. It comes to the end of the bytes, unless there is something that a
    host cannot hold; then it stops at the leftmost place of this kind. What it comes to decides
    what the reader does. -/
theorem hostWalk_safe (text : List Char) :
    let bytes := Utf8.encode text
    ((readHost text).mapError Fault.toError = (checkEscapes "host" text).bind fun _ =>
      match (run text 0).fault? with
      | some fault => .error fault.toError
      | none => (readBytes .host (Percent.decode bytes)).mapError Fault.toError) ∧
    (checkEscapes "host" text = .ok () →
      (∀ i, bytes[i]? = some Percent.mark →
        i + 3 ≤ bytes.length ∧ Utf8.Boundary text i ∧ Utf8.Boundary text (i + 3) ∧
          ∃ value, Percent.Opens (bytes.drop i) value) ∧
      run text 0 ≠ .torn ∧ run text 0 ≠ .unread ∧
      (run text 0 = .passed ↔ ∀ i fault, ¬ FaultAt bytes i fault) ∧
      ∀ fault, run text 0 = .refused fault ↔
        ∃ i, FaultAt bytes i fault ∧ ∀ j < i, ∀ other, ¬ FaultAt bytes j other) := by
  intro bytes
  have every (checked : checkEscapes "host" text = .ok ()) :=
    checkEscapes_eq_ok_iff_forall.mp checked
  refine ⟨?reads, fun checked => ⟨?cuts, (runs (every checked) 0).told⟩⟩
  case reads =>
    rw [readHost_eq_bind]
    cases checked : checkEscapes "host" text with
    | error fault => rfl
    | ok => exact (runs (every checked) 0).fault?_eq ▸ rfl
  case cuts =>
    intro i here
    obtain ⟨value, opens⟩ := every checked i here
    obtain ⟨before, high, low, h, l, after, same, length, three, -, -, -⟩ :=
      opens.exists_characters
    have behind : (Utf8.encode (before ++ ['%', high, low])).length = i + 3 := by
      rw [Utf8.length_encode_append, length, three]
    have within : i + 3 ≤ bytes.length := by
      show i + 3 ≤ (Utf8.encode text).length
      rw [same, Utf8.length_encode_append, behind]
      exact Nat.le_add_right ..
    exact ⟨within, ⟨before, _, by rw [same, List.append_assoc], length⟩,
      ⟨before ++ ['%', high, low], after, same, behind⟩, value, opens⟩

/-- An escape of a letter behind a longer character, and a blank behind both. -/
theorem hostWalk_safe_leftmost :
    let text := "é%41 ".toList
    checkEscapes "host" text = .ok () ∧
      run text 0 = .refused (.escape [0x25, 0x34, 0x31] .host) := by
  intro text
  have checked : checkEscapes "host" text = .ok () := checkEscapes_eq_ok_iff.mpr (by decide)
  obtain ⟨-, -, -, -, refused⟩ := (hostWalk_safe text).2 checked
  refine ⟨checked, (refused _).mpr ⟨2, ?_, ?_⟩⟩
  · have opens : Percent.Opens ((Utf8.encode text).drop 2) 0x41 :=
      .intro (h := 4) (l := 1) (by unfold Percent.HexDigit; decide)
        (by unfold Percent.HexDigit; decide) [0x20]
    exact .escape opens (by decide) (by decide)
  · intro j hj other
    have plain : ∃ b, (Utf8.encode text)[j]? = some b ∧ b ≠ Percent.mark ∧
        isControl (Char.ofNat b.toNat) = false := by
      obtain rfl | rfl : j = 0 ∨ j = 1 := by omega
      · exact ⟨0xC3, by decide, by decide, by decide⟩
      · exact ⟨0xA9, by decide, by decide, by decide⟩
    obtain ⟨b, here, unlike, printed⟩ := plain
    rw [faultAt_iff_of_ne here unlike, printed]
    simp

end Dsn

end DatabaseLogon
