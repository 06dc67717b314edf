import DatabaseLogon.Proofs.Spelling

namespace DatabaseLogon

/-!
# The grammar of connection strings

A connection string is `[oracle://][user[/password]@]host[?query]`, and the separators that count
are the last ones. The grammar is written down here without a search for separators, as a relation
between a text and its parts, and the reader is shown to accept exactly the texts of the grammar.

* `Text.CutLast` — a text is cut at its last separator, if it has any.
* `Dsn.Stripped` — a connection string with the scheme taken off.
* `Dsn.Composed` — what is left is composed of these parts.
* `Dsn.Introduces` — credentials and host of a connection string can be read and mean this; its
  query is left open.
* `Dsn.read_eq_ok_iff` — what is read is introduced, and its query can be read too.
* `Dsn.parse_reads_iff` — the same for user name, password and link alone.
-/

/-! ### Cuts -/

/-- A text is cut at its last separator into what stands before it and behind it. Without a
    separator nothing stands behind. -/
inductive Text.CutLast {α : Type} (sep : α) : List α → List α → List α → Prop
  | whole {text : List α} (absent : sep ∉ text) : CutLast sep text text []
  | parts {before after : List α} (last : sep ∉ after) :
    CutLast sep (before ++ sep :: after) before after

/-- To search for the last separator is to cut there. -/
theorem Text.splitLast_getD_eq_iff {α : Type} [DecidableEq α] {sep : α}
    {text before after : List α} :
    (splitLast sep text).getD (text, []) = (before, after) ↔ CutLast sep text before after := by
  constructor
  · intro h
    cases found : splitLast sep text with
    | none =>
      rw [found] at h
      cases h
      exact .whole ((splitLast_eq_none_iff sep text).mp found)
    | some cut =>
      rw [found] at h
      obtain rfl : cut = (before, after) := h
      obtain ⟨rfl, last⟩ := (splitLast_eq_some_iff sep text before after).mp found
      exact .parts last
  · rintro (absent | last)
    · rw [(splitLast_eq_none_iff sep text).mpr absent]
      rfl
    · rw [(splitLast_eq_some_iff sep _ before after).mpr ⟨rfl, last⟩]
      rfl

namespace Dsn

/-- A connection string with one scheme taken off its front, if there is one. -/
inductive Stripped : List Char → List Char → Prop
  | scheme (rest : List Char) : Stripped (scheme ++ rest) rest
  | bare {text : List Char} (absent : ¬ scheme <+: text) : Stripped text text

/-- A connection string without scheme is composed of these parts. The last `@` ends the
    credentials, the last `/` in them begins the password, and the last `?` behind them begins the
    query. -/
inductive Composed : List Char → Parts → Prop
  | anonymous {address host query : List Char} (nobody : '@' ∉ address)
    (cut : Text.CutLast '?' address host query) :
    Composed address { username := [], password := [], host, query }
  | named {credentials username password address host query : List Char}
    (login : Text.CutLast '/' credentials username password) (last : '@' ∉ address)
    (cut : Text.CutLast '?' address host query) :
    Composed (credentials ++ '@' :: address) { username, password, host, query }

/-- The credentials and the host of a connection string are spellings of these texts, and its query
    is the one told. Nothing is said about the query itself. -/
inductive Introduces (text : List Char) (username password connect : String)
    (query : List Char) : Prop
  | intro {rest : List Char} {parts : Parts} (nonempty : text ≠ []) (stripped : Stripped text rest)
    (composed : Composed rest parts) (user : SpellsComponent parts.username username)
    (secret : SpellsComponent parts.password password) (host : SpellsHost parts.host connect)
    (query : parts.query = query)

/-! ### The cut of a connection string -/

theorem stripped_iff {text rest : List Char} : Stripped text rest ↔ withoutScheme text = rest := by
  constructor
  · rintro (_ | absent)
    · exact withoutScheme_append rest
    · rw [withoutScheme, if_neg (mt List.isPrefixOf_iff_prefix.mp absent)]
  · rintro rfl
    unfold withoutScheme
    split
    next present =>
      obtain ⟨rest, rfl⟩ := List.isPrefixOf_iff_prefix.mp present
      rw [List.drop_left]
      exact .scheme rest
    next absent => exact .bare (mt List.isPrefixOf_iff_prefix.mpr absent)

/-- **The cut from the right finds the parts**, and there are no others. -/
theorem composed_iff {text : List Char} {parts : Parts} :
    Composed text parts ↔ Parts.ofText text = parts := by
  have parts_eq (authority address : List Char) (h : splitAuthority text = (authority, address)) :
      Parts.ofText text =
        { username := (splitCredentials authority).1
          password := (splitCredentials authority).2
          host := (splitAddress address).1
          query := (splitAddress address).2 } := by
    rw [Parts.ofText, h]
  constructor
  · rintro (⟨nobody, cut⟩ | ⟨login, last, cut⟩)
    · have whole := (Text.splitLast_eq_none_iff '@' text).mpr nobody
      have address : splitAddress text = _ := Text.splitLast_getD_eq_iff.mpr cut
      rw [parts_eq [] text (by rw [splitAuthority, whole]; rfl), address]
      rfl
    · rename_i credentials _ _ address _ _
      have found := (Text.splitLast_eq_some_iff '@' _ credentials address).mpr ⟨rfl, last⟩
      have address : splitAddress address = _ := Text.splitLast_getD_eq_iff.mpr cut
      have login : splitCredentials credentials = _ := Text.splitLast_getD_eq_iff.mpr login
      rw [parts_eq credentials _ (by rw [splitAuthority, found]; rfl), address, login]
  · rintro rfl
    cases found : Text.splitLast '@' text with
    | none =>
      rw [parts_eq [] text (by rw [splitAuthority, found]; rfl)]
      exact .anonymous ((Text.splitLast_eq_none_iff '@' text).mp found)
        (Text.splitLast_getD_eq_iff.mp rfl)
    | some cut =>
      rw [parts_eq cut.1 cut.2 (by rw [splitAuthority, found]; rfl)]
      obtain ⟨rfl, last⟩ := (Text.splitLast_eq_some_iff '@' text cut.1 cut.2).mp found
      exact .named (Text.splitLast_getD_eq_iff.mp rfl) last (Text.splitLast_getD_eq_iff.mp rfl)

/-- What a connection string introduces is what its parts are read as. -/
theorem introduces_iff {text : List Char} {username password connect : String}
    {query : List Char} :
    Introduces text username password connect query ↔
      text ≠ [] ∧
        readComponent .username (Parts.ofText (withoutScheme text)).username = .ok username ∧
        readComponent .password (Parts.ofText (withoutScheme text)).password = .ok password ∧
        readHost (Parts.ofText (withoutScheme text)).host = .ok connect ∧
        (Parts.ofText (withoutScheme text)).query = query := by
  constructor
  · rintro ⟨nonempty, stripped, composed, user, secret, host, query⟩
    obtain rfl := stripped_iff.mp stripped
    obtain rfl := composed_iff.mp composed
    exact ⟨nonempty, readComponent_eq_ok_iff.mpr user, readComponent_eq_ok_iff.mpr secret,
      readHost_eq_ok_iff.mpr host, query⟩
  · rintro ⟨nonempty, user, secret, host, query⟩
    exact .intro nonempty (stripped_iff.mpr rfl) (composed_iff.mpr rfl)
      (readComponent_eq_ok_iff.mp user) (readComponent_eq_ok_iff.mp secret)
      (readHost_eq_ok_iff.mp host) query

/-! ### Reading -/

variable [ZoneTable]

/-- A name with these credentials, this link and these settings, its external authentication
    settled. -/
def assembled (username password connect : String) (settings : Settings) : Dsn :=
  settled { toSettings := settings, username, password, connect, externalAuth := true }

variable {username password connect : String} {query : List Char}

/-- Once credentials and host are read, the query decides. -/
theorem read_of_introduces {text : List Char}
    (h : Introduces text username password connect query) :
    read text
      = (Settings.ofPairs (Form.pairs (Utf8.encode query))).map
        (assembled username password connect) := by
  obtain ⟨nonempty, user, secret, host, rfl⟩ := introduces_iff.mp h
  rw [read, if_neg nonempty, ofParts, user, secret, host]
  rfl

/-- **Exactly the grammar is read**, and the right values are read off. -/
theorem read_eq_ok_iff {text : List Char} {d : Dsn} :
    read text = .ok d ↔
      ∃ query settings, Introduces text d.username d.password d.connect query ∧
        Settings.ofPairs (Form.pairs (Utf8.encode query)) = .ok settings ∧
        d = assembled d.username d.password d.connect settings := by
  constructor
  · intro h
    have nonempty : text ≠ [] := by
      rintro rfl
      cases h
    rw [read, if_neg nonempty] at h
    obtain ⟨username, user, h⟩ := exists_of_bind_eq_ok h
    obtain ⟨password, secret, h⟩ := exists_of_bind_eq_ok h
    obtain ⟨connect, host, h⟩ := exists_of_bind_eq_ok h
    obtain ⟨settings, pairs, h⟩ := exists_of_bind_eq_ok h
    cases h
    exact ⟨_, settings, introduces_iff.mpr ⟨nonempty, user, secret, host, rfl⟩, pairs, rfl⟩
  · rintro ⟨query, settings, introduced, pairs, same⟩
    rw [read_of_introduces introduced, pairs, same]
    rfl

theorem parse_eq_ok_iff {text : String} {d : Dsn} :
    parse text = .ok d ↔ read text.toList = .ok d := by
  constructor
  · exact eq_ok_of_mapError
  · intro h
    rw [parse, h]
    rfl

/-- **A connection string is accepted as this user name, password and link exactly if it is not
    empty and, once a scheme is taken off, composed of spellings of them** and of a query that can
    be read. -/
theorem parse_reads_iff (text username password connect : String) :
    (∃ d, parse text = .ok d ∧
        d.username = username ∧ d.password = password ∧ d.connect = connect) ↔
      ∃ query settings, Introduces text.toList username password connect query ∧
        Settings.ofPairs (Form.pairs (Utf8.encode query)) = .ok settings := by
  constructor
  · rintro ⟨d, accepted, rfl, rfl, rfl⟩
    obtain ⟨query, settings, introduced, pairs, -⟩ :=
      read_eq_ok_iff.mp (parse_eq_ok_iff.mp accepted)
    exact ⟨query, settings, introduced, pairs⟩
  · rintro ⟨query, settings, introduced, pairs⟩
    refine ⟨assembled username password connect settings, ?_, rfl, rfl, rfl⟩
    rw [parse_eq_ok_iff, read_of_introduces introduced, pairs]
    rfl

end Dsn

end DatabaseLogon
