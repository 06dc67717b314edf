import DatabaseLogon.Dsn.Builder
import DatabaseLogon.Location.Zone
import DatabaseLogon.Proofs.FormData
import DatabaseLogon.Proofs.Query

namespace DatabaseLogon.Dsn

/-!
# Connection strings are read as they were written

Three ways of escaping meet in a connection string, and each keeps out the separators that are
searched from the right around its part: no `@` stands behind the credentials, no `/` in the
password, no `?` in the query. So the cut finds the parts again, and each part is read as it was
written.

* `WellFormed` — the names that may be written: their link holds no forbidden character, and their
  external authentication is settled.
* `ofText_render` — the cut finds the parts again.
* `readComponent_encodeComponent`, `readHost_host` — a part is read as it was written.
* `wellFormed_of_build`, `wellFormed_of_parse` — whatever is built or read is well-formed.
* `parse_render` — so it is read as it was written.
-/

/-- A name whose link can be written and whose external authentication is settled. -/
structure WellFormed [ZoneTable] (d : Dsn) : Prop where
  link : ∀ c ∈ d.connect.toList, isForbidden c = false
  settled : d.settled = d

/-! ### Escaped parts -/

/-- A byte that a component holds unescaped is an ASCII character. -/
theorem isUnreserved_ascii {b : UInt8} : Percent.isUnreserved b → b.toNat < 0x80 := by
  apply Percent.forall_byte (p := fun b => Percent.isUnreserved b → b.toNat < 0x80)
  decide +kernel

/-- A component is read as it was written. -/
theorem readComponent_encodeComponent (part : Part) (text : List Char) :
    readComponent part (Percent.encodeComponent text) = .ok (String.ofList text) := by
  obtain ⟨pieces, stray, bytes⟩ := Percent.read_written Percent.isUnreserved (by decide)
    (Utf8.encode text)
  have written := Percent.encode_eq_spelling (fun b hb => isUnreserved_ascii hb) (Utf8.encode text)
  unfold readComponent Percent.encodeComponent
  rw [written]
  simp only [pieces, stray, bytes, readBytes, Utf8.decode_encode]

/-- The bytes that a host holds unescaped. -/
def isHostByte (b : UInt8) : Bool :=
  b ≠ Percent.mark

/-- The host of a name is written piece by piece. -/
theorem encode_host [ZoneTable] (d : Dsn) :
    Utf8.encode d.host
      = Percent.spelling ((Utf8.encode d.connect.toList).map (Percent.written isHostByte)) := by
  unfold host
  induction d.connect.toList with
  | nil => rfl
  | cons c text ih =>
    have first : Utf8.encode (if c = '%' then ['%', '2', '5'] else [c])
        = Percent.spelling ((String.utf8EncodeChar c).map (Percent.written isHostByte)) := by
      by_cases h : c = '%'
      · subst h
        decide
      -- no byte of another character is a `%`, not even inside a longer form
      · rw [if_neg h]
        show String.utf8EncodeChar c ++ [] = _
        rw [List.append_nil]
        have plain : ∀ b ∈ String.utf8EncodeChar c, Percent.written isHostByte b = .plain b := by
          intro b hb
          have other : b ≠ Percent.mark := by
            rintro rfl
            have same := Utf8.toNat_of_mem_utf8EncodeChar hb (by decide)
            apply h
            rw [← Char.ofNat_toNat c, same]
            rfl
          rw [Percent.written, if_pos (by simpa [isHostByte] using other)]
        rw [List.map_congr_left plain, Percent.spelling, List.flatMap_map]
        exact (List.flatMap_singleton' _).symm
    rw [List.flatMap_cons, Utf8.encode_append, Utf8.encode_cons, List.map_append, first, ih]
    exact List.flatMap_append.symm

/-- A control character is an ASCII character. -/
theorem isControl_ascii {c : Char} (h : isControl c) : c.toNat < 0x80 := by
  simp only [isControl, Bool.or_eq_true, decide_eq_true_eq] at h
  omega

/-- The host of a name can hold whatever is written for a byte of its link. -/
theorem hostFault?_written {text : List Char} (link : ∀ c ∈ text, isForbidden c = false)
    {b : UInt8} (mem : b ∈ Utf8.encode text) :
    hostFault? (Percent.written isHostByte b) = none := by
  have hb : b.toNat < 256 := b.toNat_lt
  have byte := Percent.byte_written isHostByte b
  unfold Percent.written at byte ⊢
  by_cases h : isHostByte b
  -- a control character among the plain bytes would be one of the link
  · rw [if_pos h]
    have plain : isControl (Char.ofNat b.toNat) = false := by
      rw [Bool.eq_false_iff]
      intro control
      have ascii : b.toNat < 0x80 := by
        rw [← Utf8.toNat_ofNat (n := b.toNat) (.inl (by omega))]
        exact isControl_ascii control
      have allowed := link _ (Utf8.mem_of_mem_encode mem ascii)
      rw [isForbidden, control, Bool.or_true] at allowed
      cases allowed
    exact if_neg (by rw [plain]; decide)
  -- the only escape is that of the mark itself, which is allowed
  · rw [if_neg h] at byte ⊢
    have same : b = Percent.mark := by simpa [isHostByte] using h
    rw [hostFault?]
    exact if_neg fun bad => bad.2 (byte.trans same)

/-- The host of a name is read as it was written. -/
theorem readHost_host [ZoneTable] {d : Dsn} (link : ∀ c ∈ d.connect.toList, isForbidden c = false) :
    readHost d.host = .ok d.connect := by
  obtain ⟨pieces, stray, bytes⟩ := Percent.read_written isHostByte (by decide)
    (Utf8.encode d.connect.toList)
  have allowed : ((Utf8.encode d.connect.toList).map (Percent.written isHostByte)).findSome?
      hostFault? = none := by
    rw [List.findSome?_eq_none_iff]
    intro p hp
    obtain ⟨b, hb, rfl⟩ := List.mem_map.mp hp
    exact hostFault?_written link hb
  unfold readHost
  rw [encode_host]
  simp only [pieces, stray, bytes, allowed, readBytes, Utf8.decode_encode, String.ofList_toList]

/-! ### The cut -/

theorem withoutScheme_append (text : List Char) : withoutScheme (scheme ++ text) = text := by
  have front : scheme.isPrefixOf (scheme ++ text) = true :=
    List.isPrefixOf_iff_prefix.mpr (List.prefix_append scheme text)
  rw [withoutScheme, if_pos front, List.drop_left]

/-- No `/` is written in a component. -/
theorem slash_not_mem (text : List Char) : '/' ∉ Percent.encodeComponent text :=
  Percent.not_mem_encode (by decide) (by decide) (by decide) (by decide) _

/-- A character of the host is one of the link or of an escape. -/
theorem not_mem_host [ZoneTable] {d : Dsn} {c : Char} (hc : c ∉ ['%', '2', '5'])
    (link : c ∉ d.connect.toList) : c ∉ d.host := by
  intro mem
  obtain ⟨x, hx, hmem⟩ := List.mem_flatMap.mp mem
  split at hmem
  · exact hc hmem
  · rw [List.mem_singleton.mp hmem] at link
    exact link hx

/-- The credentials without the `@` behind them. -/
def login [ZoneTable] (d : Dsn) : List Char :=
  Percent.encodeComponent d.username.toList
    ++ if d.password = "" then [] else '/' :: Percent.encodeComponent d.password.toList

/-- The last `@` ends the credentials. -/
theorem splitAuthority_credentials [ZoneTable] (d : Dsn) {address : List Char} (h : '@' ∉ address) :
    splitAuthority (d.credentials ++ address) = (d.login, address) := by
  unfold splitAuthority credentials
  by_cases anonymous : d.username = "" ∧ d.password = ""
  · have nobody : d.login = [] := by
      rw [login, anonymous.1, if_pos anonymous.2]
      rfl
    rw [if_pos anonymous, List.nil_append, (Text.splitLast_eq_none_iff '@' address).mpr h, nobody]
    rfl
  · have cut : Text.splitLast '@' (d.login ++ ['@'] ++ address) = some (d.login, address) := by
      rw [Text.splitLast_eq_some_iff, List.append_assoc]
      exact ⟨rfl, h⟩
    rw [if_neg anonymous]
    show (Text.splitLast '@' (d.login ++ ['@'] ++ address)).getD _ = _
    rw [cut]
    rfl

/-- The last `/` in the credentials separates the password. -/
theorem splitCredentials_login [ZoneTable] (d : Dsn) :
    splitCredentials d.login
      = (Percent.encodeComponent d.username.toList, Percent.encodeComponent d.password.toList) := by
  unfold splitCredentials login
  by_cases h : d.password = ""
  · rw [if_pos h, List.append_nil, (Text.splitLast_eq_none_iff '/' _).mpr (slash_not_mem _), h]
    rfl
  · rw [if_neg h, (Text.splitLast_eq_some_iff '/' _ _ _).mpr ⟨rfl, slash_not_mem _⟩]
    rfl

/-- The last `?` of the address begins the query. -/
theorem splitAddress_address [ZoneTable] (d : Dsn) :
    splitAddress (d.host ++ d.query) = (d.host, Form.write d.pairs) := by
  unfold splitAddress query
  dsimp only
  -- without a query there is a `?` all the same if the link holds one
  by_cases h : Form.write d.pairs = [] ∧ '?' ∉ d.connect.toList
  · have absent : '?' ∉ d.host := not_mem_host (by decide) h.2
    rw [if_pos h, List.append_nil, (Text.splitLast_eq_none_iff '?' _).mpr absent, h.1]
    rfl
  · have absent : '?' ∉ Form.write d.pairs :=
      Form.not_mem_write (by decide) (by decide) (by decide) _
    rw [if_neg h, (Text.splitLast_eq_some_iff '?' _ _ _).mpr ⟨rfl, absent⟩]
    rfl

/-- The cut of a connection string that was written finds the parts again. -/
theorem ofText_render [ZoneTable] {d : Dsn} (link : ∀ c ∈ d.connect.toList, isForbidden c = false) :
    Parts.ofText (d.credentials ++ (d.host ++ d.query)) =
      { username := Percent.encodeComponent d.username.toList
        password := Percent.encodeComponent d.password.toList
        host := d.host
        query := Form.write d.pairs } := by
  -- the last `@` must not lie in the address, where it would end the credentials too late
  have inHost : '@' ∉ d.host := by
    apply not_mem_host (by decide)
    intro mem
    exact absurd (link _ mem) (by decide)
  have inQuery : '@' ∉ d.query := by
    unfold query
    dsimp only
    split
    · exact List.not_mem_nil
    · intro mem
      rcases List.mem_cons.mp mem with same | mem
      · exact absurd same (by decide)
      · exact Form.not_mem_write (by decide) (by decide) (by decide) _ mem
  have address : '@' ∉ d.host ++ d.query := by
    intro mem
    rcases List.mem_append.mp mem with host | query
    · exact inHost host
    · exact inQuery query
  simp only [Parts.ofText, splitAuthority_credentials d address, splitCredentials_login,
    splitAddress_address]

/-- **What is written for a well-formed name is read as this name.** -/
theorem read_render [ZoneTable] {d : Dsn} (h : d.WellFormed) : read d.render.toList = .ok d := by
  have text : d.render.toList = scheme ++ (d.credentials ++ (d.host ++ d.query)) := by
    rw [render, String.toList_ofList, List.append_assoc, List.append_assoc]
  have nonempty : d.render.toList ≠ [] := by
    rw [text]
    exact List.cons_ne_nil _ _
  rw [read, if_neg nonempty, text, withoutScheme_append, ofText_render h.link, ofParts,
    readComponent_encodeComponent, readComponent_encodeComponent, readHost_host h.link,
    Form.pairs_write, Settings.ofPairs_pairs, String.ofList_toList, String.ofList_toList]
  show Except.ok (settled _) = _
  exact congrArg Except.ok h.settled

/-! ### Names that are built or read -/

theorem eq_ok_of_mapError {ε ε' α : Type} {f : ε → ε'} {x : Except ε α} {a : α}
    (h : x.mapError f = .ok a) : x = .ok a := by
  cases x with
  | error e => cases h
  | ok a' =>
    cases h
    rfl

/-- If one thing after another is accepted, so is the first. -/
theorem exists_of_bind_eq_ok {ε α β : Type} {x : Except ε α} {f : α → Except ε β} {b : β}
    (h : x >>= f = .ok b) : ∃ a, x = .ok a ∧ f a = .ok b := by
  cases x with
  | error e => cases h
  | ok a => exact ⟨a, rfl, h⟩

theorem settled_settled [ZoneTable] (d : Dsn) : d.settled.settled = d.settled := rfl

/-- Whatever is built is well-formed. -/
theorem wellFormed_of_build [ZoneTable] {b : Builder} {d : Dsn} (h : b.build = .ok d) :
    d.WellFormed := by
  have finished := eq_ok_of_mapError h
  unfold Builder.finish at finished
  cases hfind : b.dsn.connect.toList.find? isForbidden with
  | some c =>
    rw [hfind] at finished
    cases finished
  | none =>
    rw [hfind] at finished
    cases finished
    refine ⟨?_, settled_settled b.dsn⟩
    intro c hc
    exact Bool.eq_false_iff.mpr (List.find?_eq_none.mp hfind c hc)

/-- A plain byte of a text is a byte of the text. -/
theorem mem_of_plain_mem_pieces {bytes : List UInt8} {b : UInt8}
    (h : .plain b ∈ Percent.pieces bytes) : b ∈ bytes := by
  rw [← Percent.spelling_pieces bytes]
  exact List.mem_flatMap.mpr ⟨.plain b, h, List.mem_singleton.mpr rfl⟩

/-- The bytes of a host that was read, none of which comes from a piece at fault. -/
theorem bytes_of_readHost {text : List Char} {link : String} (h : readHost text = .ok link) :
    ∀ b ∈ Utf8.encode link.toList,
      ∃ p ∈ Percent.pieces (Utf8.encode text), hostFault? p = none ∧ p.byte = b := by
  unfold readHost at h
  dsimp only at h
  split at h
  · cases h
  split at h
  · cases h
  next allowed =>
    unfold readBytes at h
    split at h
    next text' decoded =>
      cases h
      intro b hb
      rw [String.toList_ofList, Utf8.encode_of_decode decoded] at hb
      obtain ⟨p, hp, byte⟩ := List.mem_map.mp hb
      exact ⟨p, hp, List.findSome?_eq_none_iff.mp allowed p hp, byte⟩
    next => cases h

/-- Of the forbidden characters, a piece that is not at fault can stand for a raw `@` only. -/
theorem eq_at_of_hostFault? {p : Percent.Piece} {c : Char} (sound : hostFault? p = none)
    (ascii : c.toNat < 0x80) (byte : p.byte = UInt8.ofNat c.toNat) (forbidden : isForbidden c) :
    c = '@' ∧ p = .plain (UInt8.ofNat c.toNat) := by
  have kind : c = '@' ∨ isControl c := by
    simpa only [isForbidden, Bool.or_eq_true, decide_eq_true_eq] using forbidden
  have value : (UInt8.ofNat c.toNat).toNat = c.toNat := by
    rw [UInt8.toNat_ofNat']
    exact Nat.mod_eq_of_lt (by omega)
  cases p with
  | plain b =>
    obtain rfl : b = UInt8.ofNat c.toNat := byte
    rcases kind with rfl | control
    · exact ⟨rfl, rfl⟩
    · rw [hostFault?, value, Char.ofNat_toNat, if_pos control] at sound
      cases sound
  -- of the ASCII characters only the mark may be escaped, and it is not forbidden
  | escape high low =>
    have small : UInt8.ofNat c.toNat < 0x80 := by
      rw [UInt8.lt_iff_toNat_lt, value]
      exact ascii
    have other : UInt8.ofNat c.toNat ≠ Percent.mark := by
      intro mark
      have percent : c.toNat = 0x25 := by
        rw [← value, mark]
        rfl
      rcases kind with rfl | control
      · exact absurd percent (by decide)
      · simp only [isControl, percent] at control
        exact absurd control (by decide)
    rw [hostFault?, byte, if_pos ⟨small, other⟩] at sound
    cases sound

/-- A host that was read holds no forbidden character if it holds no raw `@`. -/
theorem not_isForbidden_of_readHost {text : List Char} {link : String}
    (h : readHost text = .ok link) (absent : '@' ∉ text) :
    ∀ c ∈ link.toList, isForbidden c = false := by
  intro c hc
  rw [Bool.eq_false_iff]
  intro forbidden
  -- a forbidden character is an ASCII character, so its byte came from a single piece
  have ascii : c.toNat < 0x80 := by
    simp only [isForbidden, Bool.or_eq_true, decide_eq_true_eq] at forbidden
    rcases forbidden with rfl | control
    · decide
    · exact isControl_ascii control
  obtain ⟨p, hp, sound, byte⟩ := bytes_of_readHost h _ (Utf8.mem_encode_of_mem hc ascii)
  obtain ⟨rfl, rfl⟩ := eq_at_of_hostFault? sound ascii byte forbidden
  exact absent (Utf8.mem_of_mem_encode (mem_of_plain_mem_pieces hp) (by decide))

/-- The last `@` lies before the host. -/
theorem not_mem_host_ofText (text : List Char) : '@' ∉ (Parts.ofText text).host := by
  have address : '@' ∉ (splitAuthority text).2 := by
    unfold splitAuthority
    cases h : Text.splitLast '@' text with
    | none => exact (Text.splitLast_eq_none_iff '@' text).mp h
    | some parts => exact ((Text.splitLast_eq_some_iff '@' text parts.1 parts.2).mp h).2
  have front : ∀ c ∈ (splitAddress (splitAuthority text).2).1, c ∈ (splitAuthority text).2 := by
    intro c hc
    unfold splitAddress at hc
    cases h : Text.splitLast '?' (splitAuthority text).2 with
    | none =>
      rw [h] at hc
      exact hc
    | some parts =>
      rw [h] at hc
      rw [((Text.splitLast_eq_some_iff '?' _ parts.1 parts.2).mp h).1]
      exact List.mem_append_left _ hc
  intro mem
  exact address (front _ mem)

/-- The link of a name that was read comes from the host, and its external authentication is
    settled. -/
theorem readHost_of_ofParts [ZoneTable] {parts : Parts} {d : Dsn} (h : ofParts parts = .ok d) :
    readHost parts.host = .ok d.connect ∧ d.settled = d := by
  -- the four parts are read one after the other, and the first fault would have ended it
  obtain ⟨username, -, h⟩ := exists_of_bind_eq_ok h
  obtain ⟨password, -, h⟩ := exists_of_bind_eq_ok h
  obtain ⟨connect, host, h⟩ := exists_of_bind_eq_ok h
  obtain ⟨settings, -, h⟩ := exists_of_bind_eq_ok h
  cases h
  exact ⟨host, rfl⟩

/-- Whatever is read is well-formed. -/
theorem wellFormed_of_parse [ZoneTable] {text : String} {d : Dsn} (h : parse text = .ok d) :
    d.WellFormed := by
  have accepted := eq_ok_of_mapError h
  unfold read at accepted
  split at accepted
  · cases accepted
  · obtain ⟨host, settled⟩ := readHost_of_ofParts accepted
    exact ⟨not_isForbidden_of_readHost host (not_mem_host_ofText _), settled⟩

/-- **Every name that is built or read is read as it was written.** -/
theorem parse_render [ZoneTable] {d : Dsn}
    (h : (∃ b : Builder, b.build = .ok d) ∨ ∃ text, parse text = .ok d) :
    parse d.render = .ok d := by
  have wellFormed : d.WellFormed := by
    rcases h with ⟨b, built⟩ | ⟨text, accepted⟩
    · exact wellFormed_of_build built
    · exact wellFormed_of_parse accepted
  rw [parse, read_render wellFormed]
  rfl

/-- A name in which every part holds separators of the others. -/
theorem parse_render_separators :
    let d : Dsn :=
      { Dsn.empty with
        username := "sc@tt/?"
        password := " oracle://%+"
        connect := "oracle://db?x=%/é"
        location := .zone Zone.utc
        prefetchRows := 7
        privilegedMode := .sysDba
        externalAuth := false }
    Builder.build ⟨d⟩ = .ok d ∧ parse d.render = .ok d := by
  intro d
  have finished : Builder.finish ⟨d⟩ = .ok d := by cbv
  have built : Builder.build ⟨d⟩ = .ok d := by
    rw [Builder.build, finished]
    rfl
  exact ⟨built, parse_render (.inl ⟨⟨d⟩, built⟩)⟩

end DatabaseLogon.Dsn
