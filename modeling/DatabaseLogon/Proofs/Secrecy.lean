import DatabaseLogon.Session.Run
import Mathlib.Data.List.Forall2

namespace DatabaseLogon

/-!
# Passwords are not seen

Of two runs that differ in nothing but passwords nobody can tell which is which, except for the
client library, which is told the password by one call. So whatever is returned, logged or shown as
text is the same. All relations here are named `Agree`: two things are the same but for passwords.

* `Dsn.Agree`, `Call.Agree`, `Trace.Agree` — names, calls and what happened.
* `ClientLibrary.Blind` — a client library that does not look at passwords, as scripts do not.
* `Outcome.Agree`, `Action.Agree`, `Climb.Agree` — actions, with rules for each way to put them
  together.
* `Driver.openDsn_agree` — opening connections by names that agree.
* `Session.run_agree` — sessions whose connections are opened by names that agree.
* `password_unseen` — all together.
-/

/-! ### Names and calls -/

/-- Two names that are the same but for the password. -/
def Dsn.Agree (d d' : Dsn) : Prop :=
  ∃ password, d' = { d with password }

/-- Two calls that are the same but for a password, which is the value of an attribute or an
    argument of a logon. -/
inductive Call.Agree : Call → Call → Prop
  | same (c : Call) : Agree c c
  | told (target : Handle) (kind : HandleKind) (password password' : String)
    (error : Handle) :
    Agree (.attrSet target kind .password (.text password) error)
      (.attrSet target kind .password (.text password') error)
  | presented (environment error : Handle) (username password password' link : String) :
    Agree (.logon environment error username password link)
      (.logon environment error username password' link)

namespace Call.Agree

variable {c c' : Call}

theorem entryPoint_eq (h : c.Agree c') : c'.entryPoint = c.entryPoint := by
  cases h <;> rfl

theorem subject?_eq (h : c.Agree c') : c'.subject? = c.subject? := by
  cases h <;> rfl

/-- The library receives the same arguments, but for the text of a password and its length. -/
theorem arguments_eq (h : c.Agree c') :
    c.arguments = c'.arguments ∨
      ∃ before password password' after,
        c.arguments = before ++ textArguments password ++ after ∧
          c'.arguments = before ++ textArguments password' ++ after := by
  cases h with
  | same => exact .inl rfl
  | told target kind password password' error =>
    refine .inr ⟨[handleArgument target, .number kind.code], password, password',
      [.number Attribute.password.code, handleArgument error], ?_, ?_⟩ <;>
    simp [arguments, valueArguments]
  | presented environment error username password password' link =>
    exact .inr ⟨[handleArgument environment, handleArgument error] ++ textArguments username,
      password, password', textArguments link, rfl, rfl⟩

end Call.Agree

/-- Two entries of a trace that are the same but for a password that the library is told. -/
inductive Entry.Agree : Entry → Entry → Prop
  | called {c c' : Call} (agree : c.Agree c') (reply : Reply) :
    Agree (.called c reply) (.called c' reply)
  | logged (event : Event) : Agree (.logged event) (.logged event)

/-- Two traces that are the same but for passwords that the library is told. -/
def Trace.Agree : Trace → Trace → Prop :=
  List.Forall₂ Entry.Agree

namespace Trace.Agree

@[refl] theorem refl (t : Trace) : t.Agree t := by
  apply List.forall₂_same.mpr
  rintro (⟨c, reply⟩ | event) _
  · exact .called (.same c) reply
  · exact .logged event

theorem append {s s' t t' : Trace} (hs : s.Agree s') (ht : t.Agree t') :
    Trace.Agree (s ++ t) (s' ++ t') :=
  List.rel_append hs ht

theorem take {t t' : Trace} (h : t.Agree t') (n : Nat) : Trace.Agree (t.take n) (t'.take n) :=
  List.forall₂_take n h

theorem drop {t t' : Trace} (h : t.Agree t') (n : Nat) : Trace.Agree (t.drop n) (t'.drop n) :=
  List.forall₂_drop n h

end Trace.Agree

/-- A client library that does not look at passwords. -/
class ClientLibrary.Blind (σ : Type) [ClientLibrary σ] : Prop where
  answer_eq : ∀ {c c' : Call}, c.Agree c' → ∀ s : σ,
    ClientLibrary.answer c' s = ClientLibrary.answer c s

namespace Script

/-- Which rule applies depends on the function that is called and on its subject alone. -/
theorem takeRule_eq {c c' : Call} (entryPoint : c'.entryPoint = c.entryPoint)
    (subject : c'.subject? = c.subject?) (rules : List Rule) :
    takeRule c' rules = takeRule c rules := by
  induction rules with
  | nil => rfl
  | cons r rules ih => rw [takeRule, takeRule, ih, Rule.applies, Rule.applies, entryPoint, subject]

/-- A script does not look at passwords. -/
instance : ClientLibrary.Blind Script where
  answer_eq {c c'} h s := by
    have followed : s.follow c' = s.follow c := by
      rw [follow, follow, takeRule_eq h.entryPoint_eq h.subject?_eq, h.entryPoint_eq]
    cases h with
    | same => rfl
    | told => exact followed
    | presented => exact followed

end Script

/-! ### Actions -/

variable {σ α β γ δ : Type}

/-- Two outcomes with the same world and with traces that are the same but for passwords. Their
    values are related as told. -/
structure Outcome.Agree (R : α → β → Prop) (o : Outcome σ α) (o' : Outcome σ β) : Prop where
  value : R o.value o'.value
  world : o'.world = o.world
  trace : o.trace.Agree o'.trace

/-- Two actions whose outcomes agree in every world. -/
def Action.Agree (R : α → β → Prop) (m : Action σ α) (n : Action σ β) : Prop :=
  ∀ w, (m.run w).Agree R (n.run w)

namespace Action.Agree

variable {R : α → β → Prop} {S : γ → δ → Prop}

theorem refl {R : α → α → Prop} (h : ∀ a, R a a) (m : Action σ α) : m.Agree R m :=
  fun w => ⟨h (m.run w).value, rfl, .refl _⟩

theorem pure {a : α} {b : β} (h : R a b) :
    (Pure.pure a : Action σ α).Agree R (Pure.pure b : Action σ β) :=
  fun _ => ⟨h, rfl, .refl _⟩

theorem bind {m : Action σ α} {n : Action σ β} {f : α → Action σ γ} {g : β → Action σ δ}
    (first : m.Agree R n) (second : ∀ a b, R a b → (f a).Agree S (g b)) :
    (m >>= f).Agree S (n >>= g) := by
  intro w
  obtain ⟨value, world, trace⟩ := first w
  obtain ⟨value', world', trace'⟩ := second _ _ value (m.run w).world
  rw [run_bind, run_bind, world]
  exact ⟨value', world', trace.append trace'⟩

/-- What comes after the same action agrees if it agrees for each of its values. -/
theorem bind_same (m : Action σ α) {f : α → Action σ γ} {g : α → Action σ δ}
    (second : ∀ a, (f a).Agree S (g a)) : (m >>= f).Agree S (m >>= g) :=
  .bind (.refl (fun _ => rfl) m) (by rintro a _ rfl; exact second a)

/-- What is done beside a task falls at the same place in its trace. -/
theorem beside {task task' : Action σ Unit} {m : Action σ α} {n : Action σ β}
    (tasks : task.Agree Eq task') (entries : Nat) (h : m.Agree R n) :
    (task.beside entries m).Agree R (task'.beside entries n) := by
  intro w
  obtain ⟨-, world, trace⟩ := tasks w
  obtain ⟨value', world', trace'⟩ := h (task.run w).world
  rw [run_beside, run_beside, world]
  exact ⟨value', world', ((trace.take entries).append trace').append (trace.drop entries)⟩

/-- Whatever is done next with the same value is the same. -/
theorem followed {m n : Action σ α} (h : m.Agree Eq n) (f : α → Action σ γ) :
    (m >>= f).Agree Eq (n >>= f) :=
  .bind h (by rintro a _ rfl; exact .refl (fun _ => rfl) _)

/-- Tasks that agree are as good as each other to wait for. -/
theorem await {task task' : Action σ α} (h : task.Agree Eq task') (drop : α → Action σ Unit)
    (next : Waited α → Action σ β) (fate : Fate) :
    (Task.await task drop next fate).Agree Eq (Task.await task' drop next fate) := by
  cases fate with
  | finished => exact h.followed _
  | late entries => exact .beside (h.followed drop) entries (.refl (fun _ => rfl) _)
  | starved => exact .refl (fun _ => rfl) _
  | cancelled reason => exact .refl (fun _ => rfl) _

theorem call [ClientLibrary σ] [ClientLibrary.Blind σ] {c c' : Call} (h : c.Agree c') :
    (Action.call c : Action σ Reply).Agree Eq (Action.call c') := by
  intro w
  rw [run_call, run_call, ClientLibrary.Blind.answer_eq h]
  exact ⟨rfl, rfl, .cons (.called h _) .nil⟩

theorem observed {m : Action σ α} {n : Action σ β} (h : m.Agree R n) :
    (Action.observed m).Agree (fun p q => R p.1 q.1 ∧ p.2.Agree q.2) (Action.observed n) :=
  fun w => ⟨⟨(h w).value, (h w).trace⟩, (h w).world, (h w).trace⟩

end Action.Agree

/-- Two climbs whose outcomes agree, with the same result and the same resources owned. -/
def Climb.Agree (m n : Climb σ α) : Prop :=
  ∀ held w, (m.outcome held w).Agree Eq (n.outcome held w)

namespace Climb.Agree

theorem refl (m : Climb σ α) : m.Agree m :=
  fun _ _ => ⟨rfl, rfl, .refl _⟩

theorem bind {m n : Climb σ α} {f g : α → Climb σ β} (first : m.Agree n)
    (second : ∀ a, (f a).Agree (g a)) : (m >>= f).Agree (n >>= g) := by
  intro held w
  obtain ⟨value, world, trace⟩ := first held w
  rw [outcome_bind, outcome_bind, ← value, world]
  rcases (m.outcome held w).value with ⟨_ | a, after⟩
  · exact ⟨rfl, rfl, trace⟩
  · obtain ⟨value', world', trace'⟩ := second a after (m.outcome held w).world
    exact ⟨value', world', trace.append trace'⟩

theorem attempt {m n : Action σ (Except Error α)} (h : m.Agree Eq n) :
    (Climb.attempt m).Agree (Climb.attempt n) := by
  intro held w
  obtain ⟨value, world, trace⟩ := h w
  rw [outcome_attempt, outcome_attempt]
  exact ⟨congrArg (·, held) value, world, trace⟩

end Climb.Agree

/-! ### Opening a connection -/

variable [ClientLibrary σ]

namespace Client

theorem reported_agree {m n : Action σ (Except Status α)} (error : Handle) (h : m.Agree Eq n) :
    (reported error m).Agree Eq (reported error n) :=
  h.followed _

variable [ClientLibrary.Blind σ]

theorem setAttribute_agree (target : Handle) (kind : HandleKind) (password password' : String)
    (error : Handle) :
    (setAttribute target kind .password (.text password) error : Action σ _).Agree Eq
      (setAttribute target kind .password (.text password') error) :=
  (Action.Agree.call (.told target kind password password' error)).followed _

theorem logon_agree (environment error : Handle) (username password password' link : String) :
    (logon environment error username password link : Action σ _).Agree Eq
      (logon environment error username password' link) :=
  (Action.Agree.call (.presented environment error username password password' link)).followed _

end Client

variable [ClientLibrary.Blind σ] {dsn dsn' : Dsn}

namespace Logon

theorem giveCredentials_agree (session error : Handle) (h : dsn.Agree dsn') :
    (giveCredentials session error dsn : Climb σ _).Agree (giveCredentials session error dsn') := by
  obtain ⟨password, rfl⟩ := h
  unfold giveCredentials
  by_cases external : dsn.externalAuth
  · rw [if_pos external, if_pos external]
    exact .refl _
  · rw [if_neg external, if_neg external]
    refine .bind (.refl _) fun _ => .bind (.attempt ?_) fun _ => .refl _
    exact Client.reported_agree error
      (Client.setAttribute_agree session .session dsn.password password error)

theorem bySession_agree (id : UInt32) (environment error : Handle) (h : dsn.Agree dsn') :
    (bySession id environment error dsn : Climb σ _).Agree
      (bySession id environment error dsn') := by
  have credentials (session : Handle) := giveCredentials_agree (σ := σ) session error h
  obtain ⟨password, rfl⟩ := h
  -- the password is told in the middle; the steps before and after do not mention it
  exact .bind (.refl _) fun server => .bind (.refl _) fun _ => .bind (.refl _) fun service =>
    .bind (.refl _) fun _ => .bind (.refl _) fun session => .bind (credentials session)
      fun credential => .refl _

theorem byCall_agree (id : UInt32) (environment error : Handle) (h : dsn.Agree dsn') :
    (byCall id environment error dsn : Climb σ _).Agree (byCall id environment error dsn') := by
  obtain ⟨password, rfl⟩ := h
  have presented := Client.reported_agree error (Client.logon_agree (σ := σ) environment error
    dsn.username dsn.password password dsn.connect)
  have logon := Climb.Agree.attempt presented
  -- the warnings in front are the same
  unfold byCall
  dsimp only
  split <;> split
  · exact .bind (.refl _) fun _ => .bind (.refl _) fun _ => .bind logon fun _ => .refl _
  · exact .bind (.refl _) fun _ => .bind logon fun _ => .refl _
  · exact .bind (.refl _) fun _ => .bind logon fun _ => .refl _
  · exact .bind logon fun _ => .refl _

theorem ladder_agree (id : UInt32) (protocol : Protocol) (h : dsn.Agree dsn') :
    (ladder id protocol dsn : Climb σ _).Agree (ladder id protocol dsn') := by
  refine .bind (.refl _) fun environment => .bind (.refl _) fun error => ?_
  cases protocol with
  | session => exact .bind (bySession_agree id environment error h) fun _ => .refl _
  | direct => exact .bind (byCall_agree id environment error h) fun _ => .refl _

end Logon

/-- **Opening a connection does not show the password**: the result is the same, what is logged is
    the same, and the calls are the same but for the password that the library is told. -/
theorem Driver.openDsn_agree (d : Driver) (h : dsn.Agree dsn') :
    (d.openDsn dsn : Action σ _).Agree Eq (d.openDsn dsn') := by
  have climbed (id : UInt32) : (Logon.ladder id d.protocol dsn).start.Agree Eq
      ((Logon.ladder id d.protocol dsn').start : Action σ _) :=
    Logon.ladder_agree id d.protocol h []
  obtain ⟨password, rfl⟩ := h
  exact .bind_same _ fun id => (climbed id).followed _

/-! ### Sessions -/

/-- What is seen of two steps is the same but for passwords. -/
inductive Answer.Agree : Answer → Answer → Prop
  | same (answer : Answer) : Agree answer answer
  | opened (result : Except Error Connection) {seen seen' : Trace} (agree : seen.Agree seen') :
    Agree (.opened result seen) (.opened result seen')

/-- Two readings of a name that fail alike or yield names that are the same but for the password. -/
inductive Dsn.ReadAgree : Except Error Dsn → Except Error Dsn → Prop
  | error (e : Error) : ReadAgree (.error e) (.error e)
  | ok {dsn dsn' : Dsn} (agree : dsn.Agree dsn') : ReadAgree (.ok dsn) (.ok dsn')

/-- Two steps that are the same, or open a connection by names that are the same but for the
    password. -/
inductive Step.Agree : Step → Step → Prop
  | same (step : Step) : Agree step step
  | openText (slot : Nat) {text text' : String}
    (agree : Dsn.ReadAgree (Dsn.parse text) (Dsn.parse text')) :
    Agree (.openText slot text) (.openText slot text')
  | openBuilt (slot : Nat) {changes changes' : List Dsn.Change}
    (agree : Dsn.ReadAgree (Dsn.Builder.empty.setAll changes).build
      (Dsn.Builder.empty.setAll changes').build) :
    Agree (.openBuilt slot changes) (.openBuilt slot changes')
  | connect (slot : Nat) {text text' : String} (fate : Fate)
    (agree : Dsn.ReadAgree (Dsn.parse text) (Dsn.parse text')) :
    Agree (.connect slot text fate) (.connect slot text' fate)

/-- Two reports that are the same but for passwords. -/
structure Session.Report.Agree (r r' : Session.Report) : Prop where
  driver : r'.driver = r.driver
  answers : List.Forall₂ Answer.Agree r.answers r'.answers
  seen : r.seen.Agree r'.seen

namespace Driver

variable (d : Driver)

theorem openRead_agree {read read' : Except Error Dsn} :
    Dsn.ReadAgree read read' →
    (match read with
      | .ok dsn => d.openDsn dsn
      | .error e => return .error e : Action σ (Except Error Connection)).Agree Eq
    (match read' with
      | .ok dsn => d.openDsn dsn
      | .error e => return .error e) := by
  intro h
  cases h with
  | error e => exact .refl (fun _ => rfl) _
  | ok agree => exact d.openDsn_agree agree

theorem openText_agree {text text' : String}
    (h : Dsn.ReadAgree (Dsn.parse text) (Dsn.parse text')) :
    (d.openText text : Action σ _).Agree Eq (d.openText text') :=
  d.openRead_agree h

theorem connect_agree {text text' : String} (fate : Fate)
    (h : Dsn.ReadAgree (Dsn.parse text) (Dsn.parse text')) :
    (d.connect text fate : Action σ _).Agree Eq (d.connect text' fate) := by
  unfold connect
  generalize Dsn.parse text = read at h
  generalize Dsn.parse text' = read' at h
  cases h with
  | error e => exact .refl (fun _ => rfl) _
  | ok agree =>
    show (Task.await _ _ _ fate).Agree Eq (Task.await _ _ _ fate)
    exact (d.openDsn_agree agree).await discard d.settle fate

end Driver

namespace Session

/-- What is seen is the same but for passwords, and what is left is the same. -/
def SeenAgree {α β : Type} (R : α → α → Prop) (p q : α × β) : Prop :=
  R p.1 q.1 ∧ p.2 = q.2

theorem openInto_agree (s : Session) (slot : Nat)
    {m n : Action Script (Except Error Connection)} (h : m.Agree Eq n) :
    (s.openInto slot m).Agree (SeenAgree Answer.Agree) (s.openInto slot n) := by
  refine .bind (h.followed _).observed ?_
  rintro ⟨result, seen⟩ ⟨_, seen'⟩ ⟨rfl, agree⟩
  cases result with
  | ok c => exact .pure ⟨.opened (.ok c) agree, rfl⟩
  | error e => exact .pure ⟨.opened (.error e) agree, rfl⟩

theorem perform_agree (s : Session) {step step' : Step} (h : step.Agree step') :
    (s.perform step).Agree (SeenAgree Answer.Agree) (s.perform step') := by
  cases h with
  | same => exact .refl (fun p => ⟨.same p.1, rfl⟩) _
  | openText slot agree => exact s.openInto_agree slot (s.driver.openText_agree agree)
  | openBuilt slot agree => exact s.openInto_agree slot (s.driver.openRead_agree agree)
  | connect slot fate agree => exact s.openInto_agree slot (s.driver.connect_agree fate agree)

/-- Doing steps that agree, in order, shows the same and leaves the same. -/
theorem performAll_agree (s : Session) {steps steps' : List Step}
    (h : List.Forall₂ Step.Agree steps steps') :
    (s.performAll steps).Agree (SeenAgree (List.Forall₂ Answer.Agree)) (s.performAll steps') := by
  induction h generalizing s with
  | nil => exact .pure ⟨.nil, rfl⟩
  | cons first _ ih =>
    refine .bind (s.perform_agree first) ?_
    rintro ⟨answer, after⟩ ⟨answer', _⟩ ⟨agree, rfl⟩
    refine .bind (ih after) ?_
    rintro ⟨answers, last⟩ ⟨answers', _⟩ ⟨agree', rfl⟩
    exact .pure ⟨.cons agree agree', rfl⟩

/-- **Sessions do not show passwords**: with names that are the same but for the password, all that
    is seen of a session is the same. -/
theorem run_agree (s : Session) {steps steps' : List Step}
    (h : List.Forall₂ Step.Agree steps steps') :
    (s.run steps).Agree Report.Agree (s.run steps') := by
  refine .bind (s.performAll_agree h) ?_
  rintro ⟨answers, last⟩ ⟨answers', _⟩ ⟨agree, rfl⟩
  exact .bind_same _ fun ((), seen) => .pure ⟨rfl, agree, .refl seen⟩

end Session

/-! ### Texts of names -/

namespace Dsn

/-- Two changes that are the same but for a password. -/
inductive Change.Agree : Change → Change → Prop
  | same (change : Change) : Agree change change
  | password (text text' : String) : Agree (.password text) (.password text')

theorem Agree.describe_eq {d d' : Dsn} (h : d.Agree d') : d'.describe = d.describe := by
  obtain ⟨password, rfl⟩ := h
  rfl

theorem Builder.set_agree {b b' : Builder} {change change' : Change} (h : b.dsn.Agree b'.dsn)
    (changed : change.Agree change') : (b.set change).dsn.Agree (b'.set change').dsn := by
  obtain ⟨dsn⟩ := b
  obtain ⟨dsn'⟩ := b'
  obtain ⟨password, rfl⟩ := h
  cases changed with
  | same => cases change <;> exact ⟨_, rfl⟩
  | password text text' => exact ⟨text', rfl⟩

theorem Builder.setAll_agree {b b' : Builder} {changes changes' : List Change}
    (h : b.dsn.Agree b'.dsn) (changed : List.Forall₂ Change.Agree changes changes') :
    (b.setAll changes).dsn.Agree (b'.setAll changes').dsn := by
  induction changed generalizing b b' with
  | nil => exact h
  | cons first _ ih => exact ih (Builder.set_agree h first)

theorem Builder.describe_eq {b b' : Builder} (h : b.dsn.Agree b'.dsn) :
    b'.describe = b.describe := by
  rw [describe, describe, h.describe_eq]

end Dsn

/-- **A password is not seen.** Two names that are the same but for the password have the same text,
    and connections opened by them cannot be told apart, whatever is done with them next: results
    and connections are the same, the same is logged, and the same calls are made, but for the
    password that the library is told. Builders that are told other passwords have the same text.
    Sessions that open any number of connections by such names, and do the same between, show the
    same. -/
theorem password_unseen :
    (∀ (d : Driver) (dsn dsn' : Dsn), dsn.Agree dsn' → dsn'.describe = dsn.describe ∧
      ∀ (α : Type) (next : Except Error Connection → Action Script α),
        (d.openDsn dsn >>= next).Agree Eq (d.openDsn dsn' >>= next)) ∧
    (∀ changes changes', List.Forall₂ Dsn.Change.Agree changes changes' →
      (Dsn.Builder.empty.setAll changes').describe = (Dsn.Builder.empty.setAll changes).describe) ∧
    (∀ (s : Session) (steps steps' : List Step), List.Forall₂ Step.Agree steps steps' →
      (s.run steps).Agree Session.Report.Agree (s.run steps')) ∧
    ∀ c c' : Call, c.Agree c' → c'.entryPoint = c.entryPoint ∧
      (c.arguments = c'.arguments ∨
        ∃ before password password' after,
          c.arguments = before ++ Call.textArguments password ++ after ∧
            c'.arguments = before ++ Call.textArguments password' ++ after) := by
  refine ⟨?opening, ?building, fun s steps steps' h => s.run_agree h,
    fun c c' h => ⟨h.entryPoint_eq, h.arguments_eq⟩⟩
  case opening =>
    intro d dsn dsn' h
    exact ⟨h.describe_eq, fun α next => (d.openDsn_agree h).followed next⟩
  case building =>
    intro changes changes' h
    have same : Dsn.Builder.empty.dsn.Agree Dsn.Builder.empty.dsn := ⟨_, rfl⟩
    exact Dsn.Builder.describe_eq (Dsn.Builder.setAll_agree same h)

/-- Two sessions with different passwords, in which a transaction cannot begin and a release fails.
    The library is called with different arguments, but the rest is the same. -/
theorem password_unseen_session :
    let steps (password : String) : List Step :=
      [.openBuilt 0 [.username "scott", .password password, .connect "db",
          .transactionMode .readOnly],
        .on 0 (.transaction [.operate .ping] .commit), .drop 0]
    let world : World Script :=
      { library :=
          { rules := [⟨.transStart, none, -1, none, none⟩, ⟨.sessionEnd, none, -2, none, none⟩]
            records := [⟨0, 1456, [110, 111]⟩]
            issued := 0 }
        attempts := 0 }
    let run (password : String) := ((Session.fresh .standard).run (steps password)).run world
    List.Forall₂ Step.Agree (steps "tiger") (steps "lion") ∧
      (run "tiger").trace ≠ (run "lion").trace ∧
      (run "tiger").Agree Session.Report.Agree (run "lion") := by
  intro steps world run
  have agree : List.Forall₂ Step.Agree (steps "tiger") (steps "lion") := by
    refine .cons (.openBuilt 0 ?_) (.cons (.same _) (.cons (.same _) .nil))
    exact .ok ⟨"lion", rfl⟩
  have differ : (run "tiger").trace ≠ (run "lion").trace := by decide +kernel
  exact ⟨agree, differ, password_unseen.2.2.1 _ _ _ agree world⟩

end DatabaseLogon
