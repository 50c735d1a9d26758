import QueryLayer.Proofs.Session.Journal

/-!
# Watching a connection

A monitor and a clock have a state of their own and cannot reach that of the executor. Over any
run of operations and changes of the settings the operations get what they would get from the
executor itself, and the monitor is told about each statement what the settings of its time ask
for, in the order in which the executor got the statements, and nothing else.
-/
namespace QueryLayer

variable {ε τ α β : Type}

/-- A monitor and a clock, on a state of their own. -/
structure Watch (τ : Type) where
  monitor : Callback → StateM τ Unit
  /-- The time that the statement just executed took. -/
  elapsed : StateM τ Duration

/-- An action beside the state of an executor. -/
def beside (x : StateM τ α) : StateM (ε × τ) α := fun s => ((x s.2).1, s.1, (x s.2).2)

/-- A database on an executor that is watched. -/
def Db.watched (client : Executor ε) (watch : Watch τ) (quote : Option Char)
    (config : MonitorConfig) : Db (ε × τ) where
  client :=
    { client := client.beside τ
      monitor := fun callback => beside (watch.monitor callback)
      elapsed := beside watch.elapsed
      config }
  quote

/-- What is done with a database: an operation is performed, or the settings of monitoring are
changed. -/
inductive Call where
  | perform {α : Type} (operation : Style → Session α)
  | configure (change : MonitorConfig → MonitorConfig)

/-- The result of an operation of any kind. -/
abbrev Answer := (α : Type) × Except Error α

/-- Calls one after the other, with the answers to those that have one. -/
def Db.performAll {σ : Type} (db : Db σ) (s : σ) : List Call → List Answer × σ
  | [] => ([], s)
  | .perform operation :: calls =>
    let done := db.perform operation s
    let later := db.performAll done.2 calls
    (⟨_, done.1⟩ :: later.1, later.2)
  | .configure change :: calls => (db.withMonitorConfig (change db.config)).performAll s calls

namespace Session

/-- The steps of a session with the replies of an executor. -/
def stepsOn (client : Executor ε) : Session α → ε → List Step
  | finish _, _ => []
  | issue tag sql next, e =>
    let answered := client.execute sql e
    .asked tag sql answered.1 :: stepsOn client (next answered.1) answered.2
  | report error next, e => .told error :: stepsOn client next e

theorem stepsOn_issue (client : Executor ε) (tag sql : String) (next : Reply → Session α)
    (e : ε) : (issue tag sql next).stepsOn client e =
      .asked tag sql (client.execute sql e).1 ::
        (next (client.execute sql e).1).stepsOn client (client.execute sql e).2 := rfl

end Session

/-- A statement with its reply, and what a monitor is to know besides. -/
structure Issued where
  /-- The settings at the time. -/
  config : MonitorConfig
  tag : String
  sql : String
  reply : Reply

/-- A statement and its reply. -/
def Issued.exchange (x : Issued) : Exchange := ⟨x.sql, x.reply⟩

/-- The statement of a step that asks. -/
def Step.issued? (config : MonitorConfig) : Step → Option Issued
  | asked tag sql reply => some ⟨config, tag, sql, reply⟩
  | told _ => none

/-- What a monitor is to be told about a statement that took some time. -/
def Issued.callbacks (x : Issued) (elapsed : Duration) : List Callback :=
  let context : Context := ⟨x.sql, .ofSql x.sql, some x.tag⟩
  let outcome := Outcome.ofReply x.reply
  if x.config.enabled then
    .start context :: .complete context elapsed outcome ::
      if ∃ threshold ∈ x.config.slowFrom, threshold ≤ elapsed then
        [.slow context elapsed outcome]
      else []
  else []

namespace Executor
variable (client : Executor ε) (quote : Option Char)

/-- The style of a database on the executor. -/
def style : Style := ⟨client.dialect, quote.getD client.dialect.quote, client.literal⟩

/-- The answers to calls whose statements are given to the executor directly. -/
def answers (e : ε) : List Call → List Answer × ε
  | [] => ([], e)
  | .perform operation :: calls =>
    let done := (operation (client.style quote)).direct client.execute e
    let later := answers done.2 calls
    (⟨_, done.1⟩ :: later.1, later.2)
  | .configure _ :: calls => answers e calls

/-- The statements of these calls with their replies. -/
def exchanges (e : ε) : List Call → List Exchange
  | [] => []
  | .perform operation :: calls =>
    let session := operation (client.style quote)
    exchangesOf (session.stepsOn client e) ++ exchanges (session.direct client.execute e).2 calls
  | .configure _ :: calls => exchanges e calls

/-- The same with the tags, and with the settings at the time. -/
def issued (config : MonitorConfig) (e : ε) : List Call → List Issued
  | [] => []
  | .perform operation :: calls =>
    let session := operation (client.style quote)
    (session.stepsOn client e).filterMap (Step.issued? config) ++
      issued config (session.direct client.execute e).2 calls
  | .configure change :: calls => issued (change config) e calls

end Executor

/-- An action that leaves the state of the executor as it is. -/
def Aside (x : StateM (ε × τ) α) : Prop := ∀ s, (x s).2.1 = s.1

namespace Aside

theorem pure (a : α) : Aside (Pure.pure a : StateM (ε × τ) α) := fun _ => rfl

theorem beside (x : StateM τ α) : Aside (QueryLayer.beside x : StateM (ε × τ) α) := fun _ => rfl

theorem bind {x : StateM (ε × τ) α} {f : α → StateM (ε × τ) β} (hx : Aside x)
    (hf : ∀ a, Aside (f a)) : Aside (x >>= f) := by
  intro s
  exact (hf (x s).1 (x s).2).trans (hx s)

theorem ifThen {x : StateM (ε × τ) Unit} (c : Prop) [Decidable c] (hx : Aside x) :
    Aside (if c then x else Pure.pure ()) := by
  split
  · exact hx
  · exact pure ()

end Aside

namespace Db

theorem run_issue {σ : Type} (db : Db σ) (tag sql : String) (next : Reply → Session α) (s : σ) :
    db.run (.issue tag sql next) s = db.run (next (db.client.perform (some tag) sql s).1)
      (db.client.perform (some tag) sql s).2 := rfl

theorem run_report {σ : Type} (db : Db σ) (e : Error) (next : Session α) (s : σ) :
    db.run (.report e next) s = db.run next (db.client.reportError e s).2 := rfl

variable (client : Executor ε) (watch : Watch τ) (quote : Option Char) (config : MonitorConfig)

theorem aside_reportResult (context : Context) (elapsed : Duration) (outcome : Outcome) :
    Aside ((watched client watch quote config).client.reportResult context elapsed outcome) := by
  apply Aside.ifThen
  apply (Aside.beside _).bind
  intro _
  exact Aside.ifThen _ (Aside.beside _)

/-- One statement gets the reply of the executor, and leaves the executor as that does. -/
theorem perform_watched (tag : Option String) (sql : String) (s : ε × τ) :
    let performed := (watched client watch quote config).client.perform tag sql s
    performed.1 = (client.execute sql s.1).1 ∧ performed.2.1 = (client.execute sql s.1).2 := by
  intro performed
  let wrapped := (watched client watch quote config).client
  let starting : StateM (ε × τ) Unit :=
    if wrapped.config.enabled then wrapped.monitor (.start (.of sql tag)) else pure ()
  let closing (reply : Reply) : StateM (ε × τ) Reply :=
    wrapped.elapsed >>= fun elapsed =>
      wrapped.reportResult (.of sql tag) elapsed (.ofReply reply) >>= fun _ => pure reply
  have hstarting : (starting s).2.1 = s.1 := Aside.ifThen _ (Aside.beside _) s
  have hclosing (reply : Reply) : Aside (closing reply) :=
    (Aside.beside _).bind fun elapsed =>
      (aside_reportResult client watch quote config _ elapsed _).bind fun _ => Aside.pure reply
  let answered := client.execute sql (starting s).2.1
  have hperformed : performed = closing answered.1 (answered.2, (starting s).2.2) :=
    congrFun (wrapped.perform_eq tag sql) s
  rw [hperformed]
  refine ⟨?_, ?_⟩
  · rw [← hstarting]
    rfl
  · rw [hclosing, ← hstarting]

/-- A session gets the result that the executor itself would give, and leaves the executor as it
would be then. -/
theorem run_watched (session : Session α) (s : ε × τ) :
    let ran := (watched client watch quote config).run session s
    ran.1 = (session.direct client.execute s.1).1 ∧
      ran.2.1 = (session.direct client.execute s.1).2 := by
  induction session generalizing s with
  | finish result => exact ⟨rfl, rfl⟩
  | issue tag sql next ih =>
    obtain ⟨hreply, hstate⟩ := perform_watched client watch quote config (some tag) sql s
    rw [run_issue, Session.direct_issue, ← hreply, ← hstate]
    exact ih _ _
  | report e next ih => exact ih _

/-- The journal of a session records its steps with the replies that the executor gives. -/
theorem records_watched (session : Session α) (s : ε × τ) (journal : Journal) :
    let db := watched client watch quote config
    ∃ notes, db.journaled.run session (s, journal) =
        ((db.run session s).1, (db.run session s).2, journal ++ notes) ∧
      Records db.client (session.stepsOn client s.1) notes := by
  intro db
  induction session generalizing s journal with
  | finish result => exact ⟨[], by rw [List.append_nil]; rfl, .nil⟩
  | issue tag sql next ih =>
    obtain ⟨first, hfirst, hanswers, elapsed, hnotes⟩ :=
      db.client.appends_perform (some tag) sql s journal
    obtain ⟨hreply, hstate⟩ := perform_watched client watch quote config (some tag) sql s
    obtain ⟨second, hsecond, hrecords⟩ := ih (db.client.perform (some tag) sql s).1
      (db.client.perform (some tag) sql s).2 (journal ++ first)
    refine ⟨first ++ second, ?_, ?_⟩
    · have hperform : db.journaled.client.perform (some tag) sql (s, journal) = _ := hfirst
      rw [run_issue, run_issue, hperform, hsecond, List.append_assoc]
    · rw [hnotes, Session.stepsOn_issue, ← hreply, ← hstate]
      exact .asked hanswers elapsed hrecords
  | report e next ih =>
    obtain ⟨first, hfirst, hnotes⟩ := db.client.appends_monitor (.error e) s journal
    obtain ⟨second, hsecond, hrecords⟩ := ih (db.client.reportError e s).2 (journal ++ first)
    refine ⟨first ++ second, ?_, ?_⟩
    · have hreport : db.journaled.client.reportError e (s, journal) = _ := hfirst
      rw [run_report, run_report, hreport, ← List.append_assoc]
      exact hsecond
    · rw [hnotes]
      exact .told hrecords

end Db

/-- The time of a note. -/
def Note.elapsed? : Note → Option Duration
  | exchange _ => none
  | measured elapsed => some elapsed
  | callback _ => none

/-- What a note says that the monitor was told, errors set aside. -/
def Note.callback? : Note → Option Callback
  | exchange _ => none
  | measured _ => none
  | callback c => if c.isError then none else some c

/-- A journal tells of statements: they reached the executor in this order, each took one time,
and the monitor was told about each what it is to be told, and nothing else. -/
structure Tells (journal : Journal) (issued : List Issued) : Prop where
  exchanges : journal.filterMap Note.exchange? = issued.map Issued.exchange
  measured : (journal.filterMap Note.elapsed?).length = issued.length
  callbacks : journal.filterMap Note.callback? =
    (List.zipWith Issued.callbacks issued (journal.filterMap Note.elapsed?)).flatten

namespace Tells
variable {first second : Journal} {xs ys : List Issued}

theorem nil : Tells [] [] := ⟨rfl, rfl, rfl⟩

theorem append (hfirst : Tells first xs) (hsecond : Tells second ys) :
    Tells (first ++ second) (xs ++ ys) where
  exchanges := by
    rw [List.filterMap_append, hfirst.exchanges, hsecond.exchanges, List.map_append]
  measured := by
    rw [List.filterMap_append, List.length_append, hfirst.measured, hsecond.measured,
      List.length_append]
  callbacks := by
    rw [List.filterMap_append, List.filterMap_append, hfirst.callbacks, hsecond.callbacks,
      List.zipWith_append hfirst.measured.symm, List.flatten_append]

theorem elapsed?_statementNotes (config : MonitorConfig) (context : Context) (reply : Reply)
    (elapsed : Duration) :
    (Monitored.statementNotes config context reply elapsed).filterMap Note.elapsed? =
      [elapsed] := by
  rw [Monitored.statementNotes, Monitored.closingNotes]
  by_cases henabled : config.enabled = true
  · rw [if_pos henabled, if_pos henabled]
    by_cases hslow : config.isSlow elapsed = true
    · rw [if_pos hslow]; rfl
    · rw [if_neg hslow]; rfl
  · rw [if_neg henabled, if_neg henabled]; rfl

theorem callback?_statementNotes (config : MonitorConfig) (tag sql : String) (reply : Reply)
    (elapsed : Duration) :
    (Monitored.statementNotes config (.of sql (some tag)) reply elapsed).filterMap
      Note.callback? = Issued.callbacks ⟨config, tag, sql, reply⟩ elapsed := by
  have hthreshold : (∃ threshold ∈ config.slowFrom, threshold ≤ elapsed) ↔
      config.isSlow elapsed = true := by
    simp [MonitorConfig.isSlow, Option.any_eq_true]
  rw [Monitored.statementNotes, Monitored.closingNotes, Issued.callbacks]
  by_cases henabled : config.enabled = true
  · rw [if_pos henabled, if_pos henabled, if_pos henabled]
    by_cases hslow : config.isSlow elapsed = true
    · rw [if_pos hslow, if_pos (hthreshold.2 hslow)]; rfl
    · rw [if_neg hslow, if_neg (mt hthreshold.1 hslow)]; rfl
  · rw [if_neg henabled, if_neg henabled, if_neg henabled]; rfl

/-- The notes on one statement tell of it. -/
theorem statementNotes (config : MonitorConfig) (tag sql : String) (reply : Reply)
    (elapsed : Duration) :
    Tells (Monitored.statementNotes config (.of sql (some tag)) reply elapsed)
      [⟨config, tag, sql, reply⟩] where
  exchanges := Monitored.exchange?_statementNotes reply
  measured := by
    rw [elapsed?_statementNotes]
    rfl
  callbacks := by
    rw [elapsed?_statementNotes, callback?_statementNotes]
    simp

/-- An error tells of no statement. -/
theorem error (e : Error) : Tells [.callback (.error e)] [] := ⟨rfl, rfl, rfl⟩

end Tells

/-- A journal tells of the steps that it records. -/
theorem Records.tells {σ : Type} {wrapped : Monitored σ} {steps : List Step} {journal : Journal}
    (h : Records wrapped steps journal) :
    Tells journal (steps.filterMap (Step.issued? wrapped.config)) := by
  induction h with
  | nil => exact .nil
  | asked answers elapsed rest ih => exact (Tells.statementNotes ..).append ih
  | told rest ih => exact (Tells.error _).append ih

namespace Step

/-- The exchange of a step is the same whatever the settings. -/
theorem issued?_map_exchange (config : MonitorConfig) (step : Step) :
    (step.issued? config).map Issued.exchange = step.exchange? := by
  cases step <;> rfl

theorem filterMap_issued?_map_exchange (config : MonitorConfig) (steps : List Step) :
    (steps.filterMap (Step.issued? config)).map Issued.exchange = exchangesOf steps := by
  rw [List.map_filterMap, exchangesOf]
  exact congrArg (List.filterMap · steps) (funext (issued?_map_exchange config))

end Step

/-- What there is to tell depends on the settings, but not what the executor is given. -/
theorem Executor.issued_map_exchange (client : Executor ε) (quote : Option Char)
    (config : MonitorConfig) (e : ε) (calls : List Call) :
    (client.issued quote config e calls).map Issued.exchange = client.exchanges quote e calls := by
  induction calls generalizing config e with
  | nil => rfl
  | cons call calls ih =>
    cases call with
    | perform operation =>
      rw [issued, exchanges, List.map_append, Step.filterMap_issued?_map_exchange, ih]
    | configure change => exact ih _ _

namespace Db
variable (client : Executor ε) (watch : Watch τ) (quote : Option Char)

/-- The answers and the executor of a watched database, whatever is told to the monitor. -/
theorem performAll_watched (config : MonitorConfig) (s : ε × τ) (calls : List Call) :
    let done := (watched client watch quote config).performAll s calls
    done.1 = (client.answers quote s.1 calls).1 ∧
      done.2.1 = (client.answers quote s.1 calls).2 := by
  induction calls generalizing config s with
  | nil => exact ⟨rfl, rfl⟩
  | cons call calls ih =>
    cases call with
    | perform operation =>
      obtain ⟨hresult, hstate⟩ :=
        run_watched client watch quote config (operation (client.style quote)) s
      obtain ⟨hanswers, hlater⟩ :=
        ih config ((watched client watch quote config).perform operation s).2
      have hnext : ((watched client watch quote config).perform operation s).2.1 =
        ((operation (client.style quote)).direct client.execute s.1).2 := hstate
      rw [hnext] at hanswers hlater
      refine ⟨?_, hlater⟩
      exact List.cons_eq_cons.2 ⟨congrArg (Sigma.mk _) hresult, hanswers⟩
    | configure change => exact ih (change config) s

/-- A journal is kept beside all calls, and it tells of what they issue. -/
theorem performAll_journaled (config : MonitorConfig) (s : ε × τ) (journal : Journal)
    (calls : List Call) :
    let db := watched client watch quote config
    ∃ notes, db.journaled.performAll (s, journal) calls =
        ((db.performAll s calls).1, (db.performAll s calls).2, journal ++ notes) ∧
      Tells notes (client.issued quote config s.1 calls) := by
  induction calls generalizing config s journal with
  | nil => exact ⟨[], by rw [List.append_nil]; rfl, .nil⟩
  | cons call calls ih =>
    cases call with
    | perform operation =>
      intro db
      let session := operation (client.style quote)
      obtain ⟨first, hfirst, hrecords⟩ :=
        records_watched client watch quote config session s journal
      obtain ⟨second, hsecond, htells⟩ := ih config (db.run session s).2 (journal ++ first)
      have hperform : db.journaled.perform operation (s, journal) = _ := hfirst
      refine ⟨first ++ second, ?_, ?_⟩
      · rw [performAll, performAll, hperform, hsecond, List.append_assoc]
        rfl
      · rw [(run_watched client watch quote config session s).2] at htells
        exact hrecords.tells.append htells
    | configure change => exact ih (change config) s journal

end Db

/-- Calls on a watched database, beside the same calls on the executor itself. -/
structure Faithful (client : Executor ε) (watch : Watch τ) (quote : Option Char)
    (config : MonitorConfig) (e : ε) (t : τ) (calls : List Call) : Prop where
  /-- The answers are those of the executor itself. -/
  answers : ((Db.watched client watch quote config).performAll (e, t) calls).1 =
    (client.answers quote e calls).1
  /-- So is the state that the executor is left in. -/
  state : ((Db.watched client watch quote config).performAll (e, t) calls).2.1 =
    (client.answers quote e calls).2
  /-- A journal takes part in nothing, and its statements are those given to the executor itself.
  The monitor is told of each what the settings of its time ask for. -/
  told : ∃ journal : Journal,
    (Db.watched client watch quote config).journaled.performAll ((e, t), []) calls =
      (((Db.watched client watch quote config).performAll (e, t) calls).1,
        ((Db.watched client watch quote config).performAll (e, t) calls).2, journal) ∧
      journal.filterMap Note.exchange? = client.exchanges quote e calls ∧
      Tells journal (client.issued quote config e calls)

/-- **A monitor hears of every statement and changes none.** Over all calls, with the settings
changed in between in any way, the answers, the statements and the state of the executor are
those of the executor without a monitor. What the monitor is told, errors set aside, is for each
statement in the order of the executor: nothing where monitoring is off, otherwise its start, its
end and, from the threshold on, that it was slow, all with the text, its kind, the tag and the
outcome of the executor's own reply. -/
theorem Db.faithful_watched (client : Executor ε) (watch : Watch τ) (quote : Option Char)
    (config : MonitorConfig) (e : ε) (t : τ) (calls : List Call) :
    Faithful client watch quote config e t calls := by
  obtain ⟨hanswers, hstate⟩ := performAll_watched client watch quote config (e, t) calls
  obtain ⟨journal, hjournal, htells⟩ :=
    performAll_journaled client watch quote config (e, t) [] calls
  refine ⟨hanswers, hstate, journal, hjournal, ?_, htells⟩
  rw [htells.exchanges, Executor.issued_map_exchange]

end QueryLayer
