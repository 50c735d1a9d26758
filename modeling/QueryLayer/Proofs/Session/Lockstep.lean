import Mathlib.Data.List.Forall2
import QueryLayer.Proofs.Session.Refusal
import QueryLayer.Proofs.Session.Watching

/-!
# Two runs side by side

Two sessions are alike if they issue the same statements and tell of the same errors up to the same
result, as long as their replies are related. Which replies are related is left open: they may be the
same with something known about them, or differ in a way that the sessions do not look at. Alike
sessions are run side by side, on one connection or on two whose replies are related.
-/
namespace QueryLayer

variable {σ α β : Type}

/-- Which replies to a statement are related. -/
abbrev ReplyRelation := String → Reply → Reply → Prop

namespace Session

/-- Two sessions that go the same way under related replies. -/
inductive Alike (R : ReplyRelation) : Session α → Session α → Prop
  | finish (result : Except Error α) : Alike R (finish result) (finish result)
  | issue {tag sql : String} {next next' : Reply → Session α}
      (h : ∀ reply reply', R sql reply reply' → Alike R (next reply) (next' reply')) :
      Alike R (issue tag sql next) (issue tag sql next')
  | report (e : Error) {next next' : Session α} (h : Alike R next next') :
      Alike R (report e next) (report e next')

namespace Alike
variable {R : ReplyRelation} {style : Style} {table : String}

/-- Where only equal replies are related, a session is alike to itself. -/
theorem refl (hR : ∀ sql reply reply', R sql reply reply' → reply' = reply) (s : Session α) :
    Alike R s s := by
  induction s with
  | finish result => exact .finish result
  | issue tag sql next ih =>
    apply Alike.issue
    intro reply reply' hreply
    rw [hR sql reply reply' hreply]
    exact ih reply
  | report e next ih => exact .report e ih

/-- What goes on from alike sessions alike is alike. -/
theorem bind {s s' : Session α} {f f' : α → Session β} (hs : Alike R s s')
    (hf : ∀ a, Alike R (f a) (f' a)) : Alike R (s >>= f) (s' >>= f') := by
  induction hs with
  | finish result =>
    cases result with
    | ok a => exact hf a
    | error e => exact .finish _
  | issue h ih => exact .issue ih
  | report e h ih => exact .report e ih

theorem map {s s' : Session α} {g : α → β} (hs : Alike R s s') :
    Alike R (s >>= fun a => pure (g a)) (s' >>= fun a => pure (g a)) :=
  hs.bind fun _ => .finish _

theorem refuse (e : Error) : Alike R (refuse e : Session α) (Session.refuse e) :=
  .report e (.finish _)

/-- Two looks at the columns that find the same, and go on alike with what they find. -/
theorem writableColumns_bind {f f' : Columns → Session α}
    (hcolumns : ∀ reply reply', R (Catalog.columns style table) reply reply' →
      reply'.columns? = reply.columns?)
    (hf : ∀ reply reply' known, R (Catalog.columns style table) reply reply' →
      reply.columns? = some known → Alike R (f known) (f' known)) :
    Alike R (writableColumns style table >>= f) (writableColumns style table >>= f') := by
  rw [Session.writableColumns_bind, Session.writableColumns_bind]
  apply Alike.issue
  intro reply reply' hreply
  rw [hcolumns reply reply' hreply]
  cases hknown : Reply.columns? reply with
  | none => exact .refuse _
  | some known => exact hf reply reply' known hreply hknown

end Alike
end Session

namespace Db

/-- Two sessions that are alike where the replies are the same and each exchange has a property. On
a connection where all exchanges have it, both go the same way, and the monitor hears the same. -/
theorem run_eq_of_alike (db : Db σ) {P : Exchange → Prop} {session session' : Session α}
    (h : session.Alike (fun sql reply reply' => reply' = reply ∧ P ⟨sql, reply⟩) session')
    (s : σ) (journal : Journal)
    (hP : ∀ x ∈ (db.journaled.run session (s, journal)).2.2.filterMap Note.exchange?, P x) :
    db.journaled.run session' (s, journal) = db.journaled.run session (s, journal) := by
  induction h generalizing s journal with
  | finish result => rfl
  | report e h ih =>
    rw [run_report, run_report] at *
    exact ih _ _ hP
  | @issue tag sql next next' h ih =>
    obtain ⟨first, hfirst, -, elapsed, hnotes⟩ :=
      db.client.appends_perform (some tag) sql s journal
    have hperform : db.journaled.client.perform (some tag) sql (s, journal) = _ := hfirst
    rw [run_issue, hperform] at hP
    rw [run_issue, run_issue, hperform]
    -- The exchange of this statement stays in the journal, whatever comes after it.
    obtain ⟨second, hsecond, -⟩ := db.appends_run (next (db.client.perform (some tag) sql s).1)
      (db.client.perform (some tag) sql s).2 (journal ++ first)
    have hexchange : P ⟨sql, (db.client.perform (some tag) sql s).1⟩ := by
      apply hP
      rw [hsecond, List.filterMap_append, List.filterMap_append, hnotes,
        Monitored.exchange?_statementNotes]
      simp [Context.of]
    exact ih _ _ ⟨rfl, hexchange⟩ _ _ hP

end Db

variable {ε ε' : Type}

/-- One executor follows another if, in related states, it answers every statement with a related
reply and goes on to a related state. -/
def Executor.Follows (R : ReplyRelation) (Rel : ε → ε' → Prop) (client : Executor ε)
    (client' : Executor ε') : Prop :=
  ∀ sql e e', Rel e e' → R sql (client.execute sql e).1 (client'.execute sql e').1 ∧
    Rel (client.execute sql e).2 (client'.execute sql e').2

/-- Two steps that differ in nothing but related replies. -/
inductive Step.Alike (R : ReplyRelation) : Step → Step → Prop
  | asked {tag sql : String} {reply reply' : Reply} (h : R sql reply reply') :
      Alike R (.asked tag sql reply) (.asked tag sql reply')
  | told (e : Error) : Alike R (.told e) (.told e)

/-- Alike sessions on executors of which one follows the other have the same result, and steps that
differ in nothing but related replies. -/
theorem Session.Alike.of_follows {R : ReplyRelation} {Rel : ε → ε' → Prop} {client : Executor ε}
    {client' : Executor ε'} (hfollows : client.Follows R Rel client') {s s' : Session α}
    (h : Alike R s s') {e : ε} {e' : ε'} (hstate : Rel e e') :
    (s'.direct client'.execute e').1 = (s.direct client.execute e).1 ∧
      List.Forall₂ (Step.Alike R) (s.stepsOn client e) (s'.stepsOn client' e') := by
  induction h generalizing e e' with
  | finish result => exact ⟨rfl, .nil⟩
  | @issue tag sql next next' h ih =>
    obtain ⟨hreply, hnext⟩ := hfollows sql e e' hstate
    obtain ⟨hresult, hsteps⟩ := ih _ _ hreply hnext
    rw [direct_issue, direct_issue, stepsOn_issue, stepsOn_issue]
    exact ⟨hresult, .cons (.asked hreply) hsteps⟩
  | report error h ih =>
    obtain ⟨hresult, hsteps⟩ := ih hstate
    exact ⟨hresult, .cons (.told error) hsteps⟩

namespace Step.Alike
variable {R : ReplyRelation} {steps steps' : List Step}

/-- Steps that are alike issue the same statements. -/
theorem sql_eq (h : List.Forall₂ (Alike R) steps steps') :
    (exchangesOf steps').map Exchange.sql = (exchangesOf steps).map Exchange.sql := by
  induction h with
  | nil => rfl
  | cons hstep rest ih =>
    cases hstep with
    | asked hreply => simp [ih]
    | told e => exact ih

/-- Steps that are alike tell of the same errors. -/
theorem told?_eq (h : List.Forall₂ (Alike R) steps steps') :
    steps'.filterMap told? = steps.filterMap told? := by
  induction h with
  | nil => rfl
  | cons hstep rest ih =>
    cases hstep with
    | asked hreply => exact ih
    | told e => exact congrArg (e :: ·) ih

end Step.Alike

/-- Two runs that differ in nothing that an operation decides. -/
structure Indistinguishable (result result' : Except Error α) (journal journal' : Journal) :
    Prop where
  /-- Both have the same result. -/
  result : result' = result
  /-- Both issue the same statements in the same order. -/
  statements : (journal'.filterMap Note.exchange?).map Exchange.sql =
    (journal.filterMap Note.exchange?).map Exchange.sql
  /-- The monitors are told of the same errors. -/
  errors : journal'.filterMap Note.error? = journal.filterMap Note.error?

namespace Db
variable {τ τ' : Type}

/-- The journal of an operation on a watched executor records its steps on the executor itself. -/
theorem records_journal_watched (client : Executor ε) (watch : Watch τ) (quote : Option Char)
    (config : MonitorConfig) (operation : Style → Session α) (s : ε × τ) :
    Records (watched client watch quote config).client
      ((operation (client.style quote)).stepsOn client s.1)
      ((watched client watch quote config).journal operation s) := by
  obtain ⟨notes, hrun, hrecords⟩ :=
    records_watched client watch quote config (operation (client.style quote)) s []
  have hjournal : (watched client watch quote config).journal operation s = notes :=
    congrArg (fun ran => ran.2.2) hrun
  rwa [hjournal]

/-- Alike operations on watched executors of which one follows the other cannot be told apart, and
neither monitor has a part in it. -/
theorem indistinguishable_of_alike {R : ReplyRelation} {Rel : ε → ε' → Prop} {client : Executor ε}
    {client' : Executor ε'} (hfollows : client.Follows R Rel client') (watch : Watch τ)
    (watch' : Watch τ') (quote : Option Char) (config config' : MonitorConfig)
    {operation operation' : Style → Session α}
    (h : (operation (client.style quote)).Alike R (operation' (client'.style quote)))
    {e : ε} {e' : ε'} (hstate : Rel e e') (t : τ) (t' : τ') :
    let db := watched client watch quote config
    let db' := watched client' watch' quote config'
    Indistinguishable (db.perform operation (e, t)).1 (db'.perform operation' (e', t')).1
      (db.journal operation (e, t)) (db'.journal operation' (e', t')) := by
  obtain ⟨hresult, hsteps⟩ := h.of_follows hfollows hstate
  have hran := (run_watched client watch quote config (operation (client.style quote)) (e, t)).1
  have hran' := (run_watched client' watch' quote config' (operation' (client'.style quote))
    (e', t')).1
  have hrecords := records_journal_watched client watch quote config operation (e, t)
  have hrecords' := records_journal_watched client' watch' quote config' operation' (e', t')
  exact
    { result := hran'.trans (hresult.trans hran.symm)
      statements := by rw [hrecords.exchanges_eq, hrecords'.exchanges_eq, Step.Alike.sql_eq hsteps]
      errors := by rw [hrecords.errors_eq, hrecords'.errors_eq, Step.Alike.told?_eq hsteps] }

end Db

end QueryLayer
