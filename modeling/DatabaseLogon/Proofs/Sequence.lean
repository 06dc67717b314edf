import DatabaseLogon.Client.Script
import DatabaseLogon.Dsn.Builder
import DatabaseLogon.Proofs.Unwinding
import Mathlib.Algebra.Group.Int.Defs
import Mathlib.Algebra.Group.Nat.Defs

namespace DatabaseLogon

open Logon

/-!
# The sequence of calls of a logon

What the client library sees of an attempt to open a connection, apart from what is given back and
the diagnostics that are read, is the beginning of one sequence of calls for each protocol.

* `Call.wire` — a call as the client library receives it.
* `Lengths` — how the lengths of texts are passed: as they are, or cast to native integers.
* `sequence` — the calls of a logon, written out with their arguments.
* `sequence_eq_exact_iff` — lengths are passed as they are exactly if the texts fit.
* `Ascent.exists_handles` — the calls of a climb all speak of the same handles, which are those that
  the calls produced.
* `Follows` — a log follows a sequence up to the first call that fails.
* `Driver.openDsn_follows` — every attempt follows its sequence, and succeeds exactly if all of it
  was made with success.
* `Driver.openDsn_overlong` — a link so long that its length is passed as a negative number.
-/

/-- A call as the client library receives it: the function and its arguments. -/
def Call.wire (c : Call) : EntryPoint × List Argument :=
  (c.entryPoint, c.arguments)

/-- How the lengths of texts are passed. -/
structure Lengths where
  /-- The length of a text, -/
  text : String → Int
  /-- and of the link of a server that is attached. -/
  link : String → Int

namespace Lengths

/-- The number of bytes of a text in UTF-8. -/
def bytes (s : String) : Int :=
  s.toUTF8.size

/-- Lengths as they are. -/
def exact : Lengths where
  text := bytes
  link := bytes

/-- Lengths as 32 bits hold them, unsigned, and signed for the link of a server. -/
def cast : Lengths where
  text s := bytes s % 2 ^ 32
  link s := (bytes s).bmod (2 ^ 32)

end Lengths

/-- A text as two arguments: where it is, and its length. -/
def lengthed (length : String → Int) (s : String) : List Argument :=
  [.text s, .number (length s)]

/-- The calls that both protocols begin with. -/
def commonCalls (handle : HandleKind → Argument) : List (EntryPoint × List Argument) :=
  [(.envCreate, [.number environmentMode, .number 0]),
   (.handleAlloc, [handle .environment, .number HandleKind.error.code, .number 0])]

/-- The calls that tell user name and password, unless an outside authority vouches. -/
def credentialCalls (lengths : Lengths) (dsn : Dsn) (handle : HandleKind → Argument) :
    List (EntryPoint × List Argument) :=
  if dsn.externalAuth then []
  else
    [(.attrSet, [handle .session, .number HandleKind.session.code]
        ++ lengthed lengths.text dsn.username
        ++ [.number Attribute.username.code, handle .error]),
     (.attrSet, [handle .session, .number HandleKind.session.code]
        ++ lengthed lengths.text dsn.password
        ++ [.number Attribute.password.code, handle .error])]

/-- The calls of a logon that attaches to the server and begins a session. -/
def sessionCalls (lengths : Lengths) (dsn : Dsn) (handle : HandleKind → Argument) :
    List (EntryPoint × List Argument) :=
  [(.handleAlloc, [handle .environment, .number HandleKind.server.code, .number 0]),
   (.serverAttach, [handle .server, handle .error]
      ++ (if dsn.externalAuth then [.null, .number 0] else lengthed lengths.link dsn.connect)
      ++ [.number 0]),
   (.handleAlloc, [handle .environment, .number HandleKind.serviceContext.code, .number 0]),
   (.attrSet, [handle .serviceContext, .number HandleKind.serviceContext.code, handle .server,
      .number 0, .number Attribute.server.code, handle .error]),
   (.handleAlloc, [handle .environment, .number HandleKind.session.code, .number 0])]
  ++ credentialCalls lengths dsn handle
  ++ [(.sessionBegin, [handle .serviceContext, handle .error, handle .session,
      .number (if dsn.externalAuth then Credential.external else .rdbms).code,
      .number dsn.privilegedMode.code]),
   (.attrSet, [handle .serviceContext, .number HandleKind.serviceContext.code, handle .session,
      .number 0, .number Attribute.session.code, handle .error])]

/-- The call of a logon in one step. -/
def directCalls (lengths : Lengths) (dsn : Dsn) (handle : HandleKind → Argument) :
    List (EntryPoint × List Argument) :=
  [(.logon, [handle .environment, handle .error] ++ lengthed lengths.text dsn.username
    ++ lengthed lengths.text dsn.password ++ lengthed lengths.text dsn.connect)]

/-- The calls of a logon, where `hs` are the handles that they produce. -/
def sequence (lengths : Lengths) (protocol : Protocol) (dsn : Dsn) (hs : HandleKind → Handle) :
    List (EntryPoint × List Argument) :=
  let handle := fun kind => Argument.number (hs kind).token
  commonCalls handle ++
    match protocol with
    | .session => sessionCalls lengths dsn handle
    | .direct => directCalls lengths dsn handle

/-! ### The sequence and the rungs -/

/-- The length of a text is cast to an unsigned integer. -/
theorem textArguments_eq (s : String) : Call.textArguments s = lengthed Lengths.cast.text s := by
  rw [Call.textArguments, UInt32.toNat_ofNat']
  rfl

/-- The length of a link is cast to a signed integer; without a link there is none. -/
theorem linkArguments_eq (external : Bool) (link : String) :
    Call.linkArguments (if external then none else some link) =
      if external then [.null, .number 0] else lengthed Lengths.cast.link link := by
  cases external with
  | true => rfl
  | false =>
    have length : (Int32.ofNat link.utf8ByteSize).toInt = (link.utf8ByteSize : Int).bmod (2 ^ 32) :=
      Int32.toInt_ofNat'
    simp only [Bool.false_eq_true, if_false, Call.linkArguments, length, lengthed, Lengths.cast,
      Lengths.bytes]
    rfl

/-- The calls of a logon are those of its rungs. -/
theorem map_wire_rungs (protocol : Protocol) (dsn : Dsn) (hs : Handles) :
    (rungs protocol dsn).map (fun r => (r.call dsn hs).wire) = sequence .cast protocol dsn hs := by
  have link := linkArguments_eq dsn.externalAuth dsn.connect
  cases protocol with
  | session =>
    by_cases h : dsn.externalAuth <;>
      simp only [h, if_true, if_false, Bool.false_eq_true] at link <;>
      simp [rungs, protocolRungs, credentialRungs, credential, h, sequence, commonCalls,
        sessionCalls, credentialCalls, Rung.call, Call.wire, Call.entryPoint, Call.arguments,
        Call.handleArgument, Call.valueArguments, textArguments_eq, link]
  | direct =>
    simp [rungs, protocolRungs, sequence, commonCalls, directCalls, Rung.call, Call.wire,
      Call.entryPoint, Call.arguments, Call.handleArgument, textArguments_eq]

/-! ### Texts that fit -/

/-- Do the texts of a name fit into the lengths that are passed? By external authentication none
    is passed. -/
def Dsn.Fits (dsn : Dsn) : Protocol → Prop
  | .session => dsn.externalAuth = false → Lengths.bytes dsn.connect < 2 ^ 31 ∧
    Lengths.bytes dsn.username < 2 ^ 32 ∧ Lengths.bytes dsn.password < 2 ^ 32
  | .direct => Lengths.bytes dsn.username < 2 ^ 32 ∧ Lengths.bytes dsn.password < 2 ^ 32 ∧
    Lengths.bytes dsn.connect < 2 ^ 32

namespace Lengths

theorem bytes_nonneg (s : String) : 0 ≤ bytes s :=
  Int.natCast_nonneg _

theorem cast_text_eq_iff (s : String) : cast.text s = exact.text s ↔ bytes s < 2 ^ 32 := by
  have nonneg := bytes_nonneg s
  show bytes s % 2 ^ 32 = bytes s ↔ _
  omega

theorem cast_link_eq_iff (s : String) : cast.link s = exact.link s ↔ bytes s < 2 ^ 31 := by
  have nonneg := bytes_nonneg s
  -- a residue is negative from half of the modulus on
  have modulus : ((2 ^ 32 : Nat) : Int) = 4294967296 := rfl
  simp only [cast, exact, Int.bmod_def, modulus]
  split <;> omega

end Lengths

/-- **Lengths are passed as they are** exactly if the texts fit. -/
theorem sequence_eq_exact_iff (protocol : Protocol) (dsn : Dsn) (hs : HandleKind → Handle) :
    sequence .cast protocol dsn hs = sequence .exact protocol dsn hs ↔ dsn.Fits protocol := by
  cases protocol with
  | session =>
    by_cases h : dsn.externalAuth
    · simp [sequence, sessionCalls, credentialCalls, Dsn.Fits, h]
    · simp only [sequence, sessionCalls, credentialCalls, lengthed, Dsn.Fits, h]
      simp [Lengths.cast_text_eq_iff, Lengths.cast_link_eq_iff]
  | direct =>
    simp only [sequence, directCalls, lengthed, Dsn.Fits]
    simp [Lengths.cast_text_eq_iff]

/-- The calls of a climb all speak of the same handles. These are the handles known at the start,
    and those that the calls produced. -/
theorem Logon.Ascent.exists_handles {dsn : Dsn} {rs : List Rung} {hs : Handles} {log : CallLog}
    {top : Option Handles} (h : Ascent dsn rs hs log top) {known bound : List HandleKind}
    (scope : InScope known bound rs) :
    ∃ hs' : Handles, (∀ kind ∈ known, hs' kind = hs kind) ∧
      log.map Prod.fst <+: rs.map (Rung.call dsn hs') ∧
      ∀ e ∈ log, ∀ handle kind, e.1.produces? e.2 = some (handle, kind) → hs' kind = handle := by
  induction h generalizing known bound with
  | top hs => exact ⟨hs, fun _ _ => rfl, List.nil_prefix, by simp⟩
  | @slip r rs hs reply fails =>
    refine ⟨hs, fun _ _ => rfl, by simp, ?_⟩
    simp [Call.produces?, fails]
  | @step r rs hs reply log top succeeds above ih =>
    obtain ⟨reads, writes, -, scope⟩ := scope
    obtain ⟨hs', agrees, starts, produced⟩ := ih scope
    -- what this rung produced is fresh, so the handles known before it are still the same
    have old : ∀ kind ∈ known, hs' kind = hs kind := by
      intro kind hkind
      rw [agrees kind (List.mem_append_right _ hkind)]
      exact Rung.next_of_ne fun written => writes kind written hkind
    have same : r.call dsn hs = r.call dsn hs' :=
      Rung.call_congr dsn fun kind hkind => (old kind (reads kind hkind)).symm
    refine ⟨hs', old, ?_, ?_⟩
    · rw [List.map_cons, List.map_cons, same]
      exact (List.prefix_cons_inj _).mpr starts
    · intro e he handle kind hproduced
      rcases List.mem_cons.mp he with rfl | he
      -- what this rung produced is known to all rungs above it
      · obtain ⟨writes', written⟩ := Rung.written_of_produces? hproduced
        replace written : reply.handle = some handle := written
        rw [agrees kind (by simp [writes'])]
        simp [Rung.next, writes', written]
      · exact produced e he handle kind hproduced

/-- On the way to the top every rung makes its call. -/
theorem Logon.Ascent.length_eq {dsn : Dsn} {rs : List Rung} {hs last : Handles} {log : CallLog}
    (h : Ascent dsn rs hs log (some last)) : log.length = rs.length := by
  generalize htop : some last = top at h
  induction h with
  | top hs => rfl
  | step succeeds above ih => rw [List.length_cons, List.length_cons, ih htop]
  | slip fails => cases htop

/-! ### Following a sequence -/

/-- A log follows a sequence of calls up to the first call that fails. -/
structure Follows (calls : List (EntryPoint × List Argument)) (log : CallLog) : Prop where
  begins : log.map (fun e => e.1.wire) <+: calls
  succeeds : ∀ e ∈ log.dropLast, e.1.succeeds e.2
  ends : log.length < calls.length → ∃ e ∈ log.getLast?, ¬ e.1.succeeds e.2

/-- Calls of a climb begin the sequence if they begin those of the rungs. -/
theorem begins_sequence {protocol : Protocol} {dsn : Dsn} {hs : Handles} {log : CallLog}
    (h : log.map Prod.fst <+: (rungs protocol dsn).map (Rung.call dsn hs)) :
    log.map (fun e => e.1.wire) <+: sequence .cast protocol dsn hs := by
  have wired := h.map Call.wire
  rw [List.map_map, List.map_map] at wired
  rw [← map_wire_rungs]
  exact wired

/-- **Exact sequence of calls.** Apart from what is given back and the diagnostics that are read,
    the calls of an attempt to open a connection follow one sequence, which speaks of the handles
    that the calls themselves produced. The attempt succeeds exactly if the whole sequence was made
    and each call succeeded. Lengths are cast to native integers, and so they are passed as they are
    exactly if the texts fit. -/
theorem Driver.openDsn_follows {σ : Type} [ClientLibrary σ] (d : Driver) (dsn : Dsn) (w : World σ) :
    ∃ hs : HandleKind → Handle,
      (∀ e ∈ CallLog.climbing ((d.openDsn dsn).run w).trace.calls, ∀ h kind,
        e.1.produces? e.2 = some (h, kind) → hs kind = h) ∧
      Follows (sequence .cast d.protocol dsn hs)
        (CallLog.climbing ((d.openDsn dsn).run w).trace.calls) ∧
      ((∃ c, ((d.openDsn dsn).run w).value = .ok c) ↔
        (CallLog.climbing ((d.openDsn dsn).run w).trace.calls).length
            = (sequence .cast d.protocol dsn hs).length ∧
          ∀ e ∈ CallLog.climbing ((d.openDsn dsn).run w).trace.calls, e.1.succeeds e.2) ∧
      (sequence .cast d.protocol dsn hs = sequence .exact d.protocol dsn hs ↔
        dsn.Fits d.protocol) := by
  have scope := inScope_rungs d.protocol dsn
  have lengths (hs : Handles) :
      (sequence .cast d.protocol dsn hs).length = (rungs d.protocol dsn).length := by
    rw [← map_wire_rungs, List.length_map]
  cases d.opening dsn (fun _ => ⟨1, Nat.one_pos⟩) w with
  | success c last log value ascent calls =>
    rw [calls, (CallLog.climbing_eq_self ascent.climbs).1, value]
    obtain ⟨hs, -, starts, produced⟩ := ascent.exists_handles scope
    refine ⟨hs, produced, ⟨begins_sequence starts, ?_, ?_⟩, ?_,
      sequence_eq_exact_iff _ _ _⟩
    · intro e he
      exact ascent.succeed e (List.dropLast_subset _ he)
    · intro shorter
      rw [lengths, ascent.length_eq] at shorter
      exact absurd shorter (Nat.lt_irrefl _)
    · rw [lengths, ascent.length_eq]
      exact ⟨fun _ => ⟨rfl, ascent.succeed⟩, fun _ => ⟨c, rfl⟩⟩
  | failure e log failed rest unwinding value ascent calls orphans reverse descends =>
    -- the aftermath and the way back are left out, so the failed call is the last one
    have climbing : CallLog.climbing ((d.openDsn dsn).run w).trace.calls = log ++ [failed] := by
      rw [calls, ← List.singleton_append, ← List.append_assoc, CallLog.climbing_append,
        (CallLog.climbing_eq_self ascent.climbs).1, (CallLog.climbing_eq_nil descends).1,
        List.append_nil]
    obtain ⟨succeed, fails⟩ := ascent.slips
    obtain ⟨hs, -, starts, produced⟩ := ascent.exists_handles scope
    rw [climbing, value]
    refine ⟨hs, produced, ⟨begins_sequence starts, ?_, ?_⟩, ?_,
      sequence_eq_exact_iff _ _ _⟩
    · rw [List.dropLast_concat]
      exact succeed
    · intro _
      exact ⟨failed, by simp, fails⟩
    · constructor
      · rintro ⟨c, hc⟩
        cases hc
      · rintro ⟨-, all⟩
        exact absurd (all failed (by simp)) fails

/-! ### A link that does not fit -/

namespace Dsn

/-- The name of a user at the database behind a link. -/
def linked (link : String) : Dsn :=
  { Dsn.empty with
    username := "scott"
    password := "tiger"
    connect := link
    externalAuth := false }

/-- It can be built if the link is allowed. -/
theorem build_linked {link : String} (allowed : ∀ c ∈ link.toList, isForbidden c = false) :
    (Builder.empty.setAll [.username "scott", .password "tiger", .connect link]).build
      = .ok (linked link) := by
  generalize changed :
    Builder.empty.setAll [.username "scott", .password "tiger", .connect link] = b
  have connect : b.dsn.connect = link := by
    rw [← changed]
    rfl
  have nothing : b.dsn.connect.toList.find? isForbidden = none := by
    rw [connect]
    simpa using allowed
  rw [Builder.build, Builder.finish, nothing, ← changed]
  rfl

/-- The calls of an attempt in which every call succeeds. -/
def callsLinked (link : String) : CallLog :=
  CallLog.climbing ((Driver.standard.openDsn (linked link)).run ⟨Script.empty, 0⟩).trace.calls

/-- The fourth one attaches to the server. -/
theorem wire_callsLinked (link : String) :
    ((callsLinked link).map fun e => e.1.wire)[3]? = some (.serverAttach,
      [.number 48, .number 32] ++ lengthed Lengths.cast.link link ++ [.number 0]) := by
  have fourth : (callsLinked link)[3]?
      = some (.serverAttach (Script.handle 2) (Script.handle 1) (some link), .plain 0) := rfl
  have arguments : Call.linkArguments (some link) = lengthed Lengths.cast.link link :=
    linkArguments_eq false link
  rw [List.getElem?_map, fourth]
  show some (EntryPoint.serverAttach, [_, _] ++ Call.linkArguments (some link) ++ _) = _
  rw [arguments]
  rfl

/-- So the length of the link is passed as it is only if it fits. -/
theorem bytes_of_follows_linked {link : String} {hs : HandleKind → Handle}
    (follows : Follows (sequence .exact .session (linked link) hs) (callsLinked link)) :
    Lengths.bytes link < 2 ^ 31 := by
  obtain ⟨rest, split⟩ := follows.begins
  have made := wire_callsLinked link
  have meant : (sequence .exact .session (linked link) hs)[3]? = some (.serverAttach,
      [.number (hs .server).token, .number (hs .error).token]
        ++ lengthed Lengths.exact.link link ++ [.number 0]) := rfl
  -- the fourth call that was made and the fourth that was meant can only differ in the handles
  rw [← split, List.getElem?_append_left (List.getElem?_eq_some_iff.mp made).1, made] at meant
  rw [← Lengths.cast_link_eq_iff]
  simp only [lengthed, Option.some.injEq, Prod.mk.injEq, List.cons_append, List.nil_append,
    List.cons.injEq, Argument.number.injEq, true_and, and_true] at meant
  exact meant.2.2

end Dsn

theorem Lengths.bytes_replicate (n : Nat) :
    bytes (String.ofList (List.replicate n 'a')) = n := by
  have size : (String.ofList (List.replicate n 'a')).utf8ByteSize = n := by
    induction n with
    | zero => rfl
    | succ n ih =>
      rw [List.replicate_succ, String.ofList_cons, String.utf8ByteSize_append, ih]
      exact Nat.add_comm _ _
  exact congrArg Int.ofNat size

/-- A link of two gibibytes can be built, and every call succeeds. But the library is told that the
    link has a negative length, so the calls do not follow the sequence with the lengths as they
    are, whatever the handles. -/
theorem Driver.openDsn_overlong :
    let link := String.ofList (List.replicate (2 ^ 31) 'a')
    ∃ dsn : Dsn,
      (Dsn.Builder.empty.setAll [.username "scott", .password "tiger", .connect link]).build
        = .ok dsn ∧
      let log := CallLog.climbing ((standard.openDsn dsn).run ⟨Script.empty, 0⟩).trace.calls
      (log.map fun e => e.1.wire)[3]? = some (.serverAttach,
        [.number 48, .number 32, .text dsn.connect, .number (-2147483648), .number 0]) ∧
      ∀ hs, ¬ Follows (sequence .exact standard.protocol dsn hs) log := by
  intro link
  have bytes : Lengths.bytes link = 2 ^ 31 := Lengths.bytes_replicate (2 ^ 31)
  have allowed : ∀ c ∈ link.toList, Dsn.isForbidden c = false := by
    intro c hc
    rw [String.toList_ofList] at hc
    rw [List.eq_of_mem_replicate hc]
    decide
  have wrapped : Lengths.cast.link link = -2147483648 := by
    simp only [Lengths.cast, bytes]
    decide
  refine ⟨.linked link, Dsn.build_linked allowed, ?attaches, ?differs⟩
  case attaches =>
    have fourth := Dsn.wire_callsLinked link
    rw [lengthed, wrapped] at fourth
    exact fourth
  case differs =>
    intro hs follows
    have fits := Dsn.bytes_of_follows_linked follows
    rw [bytes] at fits
    exact absurd fits (Int.lt_irrefl _)

end DatabaseLogon
