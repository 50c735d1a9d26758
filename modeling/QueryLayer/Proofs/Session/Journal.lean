import QueryLayer.Db
import QueryLayer.Proofs.Session.Path

/-!
# Journals

A journal lists what a connection went through, oldest first: the statements that reached the
executor with its replies, the times that were measured, and what the monitor was told. Keeping
a journal changes nothing else, so what it shows of an operation is what the operation does
without it. The journal of a session follows one of the paths of the session.
-/
namespace QueryLayer

/-- What a connection goes through. -/
inductive Note where
  /-- The executor answered a statement. -/
  | exchange (exchange : Exchange)
  /-- The clock was read. -/
  | measured (elapsed : Duration)
  /-- The monitor was told something. -/
  | callback (callback : Callback)

/-- The exchange of a note. -/
def Note.exchange? : Note → Option Exchange
  | exchange e => some e
  | measured _ => none
  | callback _ => none

/-- Notes, oldest first. -/
abbrev Journal := List Note

variable {σ α β : Type}

/-- An action that leaves a note. -/
def noted (x : StateM σ α) (note : α → Note) : StateM (σ × Journal) α := fun state =>
  ((x state.1).1, (x state.1).2, state.2 ++ [note (x state.1).1])

/-- An executor may answer a statement with a reply, in some state. -/
def Executor.Answers (client : Executor σ) (sql : String) (reply : Reply) : Prop :=
  ∃ s, (client.execute sql s).1 = reply

/-- An executor that notes every statement with its reply. -/
def Executor.journaled (client : Executor σ) : Executor (σ × Journal) where
  dialect := client.dialect
  literal := client.literal
  execute sql := noted (client.execute sql) fun reply => .exchange ⟨sql, reply⟩
  executeTagged tag sql := noted (client.executeTagged tag sql) fun reply =>
    .exchange ⟨sql, reply⟩

/-- A monitored executor that notes also what the monitor is told and what the clock says. -/
def Monitored.journaled (wrapped : Monitored σ) : Monitored (σ × Journal) where
  client := wrapped.client.journaled
  monitor callback := noted (wrapped.monitor callback) fun _ => .callback callback
  elapsed := noted wrapped.elapsed .measured
  config := wrapped.config

/-- A database that keeps a journal beside its state. -/
def Db.journaled (db : Db σ) : Db (σ × Journal) where
  client := db.client.journaled
  quote := db.quote

@[simp] theorem Db.style_journaled (db : Db σ) : db.journaled.style = db.style := rfl
@[simp] theorem Db.config_journaled (db : Db σ) : db.journaled.config = db.config := rfl

/-- With a journal, `x` does what `y` does without one, and it adds notes such that `P` holds of
its result and of them. -/
def Appends (x : StateM (σ × Journal) α) (y : StateM σ α) (P : α → Journal → Prop) : Prop :=
  ∀ s journal, ∃ notes, x (s, journal) = ((y s).1, (y s).2, journal ++ notes) ∧ P (y s).1 notes

namespace Appends
variable {x : StateM (σ × Journal) α} {y : StateM σ α} {P P' : α → Journal → Prop}

theorem mono (h : Appends x y P) (himp : ∀ a notes, P a notes → P' a notes) :
    Appends x y P' := by
  intro s journal
  obtain ⟨notes, hrun, hnotes⟩ := h s journal
  exact ⟨notes, hrun, himp _ _ hnotes⟩

theorem pure (a : α) : Appends (σ := σ) (Pure.pure a) (Pure.pure a) fun b notes =>
    b = a ∧ notes = [] := by
  intro s journal
  exact ⟨[], by rw [List.append_nil]; rfl, rfl, rfl⟩

theorem noted (y : StateM σ α) (note : α → Note) :
    Appends (QueryLayer.noted y note) y fun a notes => notes = [note a] ∧ ∃ s, (y s).1 = a := by
  intro s journal
  exact ⟨_, rfl, rfl, s, rfl⟩

/-- Notes of one action come before those of the next. -/
theorem bind {f : α → StateM (σ × Journal) β} {g : α → StateM σ β} {Q : α → β → Journal → Prop}
    (h : Appends x y P) (hf : ∀ a, Appends (f a) (g a) (Q a)) :
    Appends (x >>= f) (y >>= g) fun b notes =>
      ∃ a first second, notes = first ++ second ∧ P a first ∧ Q a b second := by
  intro s journal
  obtain ⟨first, hrun, hfirst⟩ := h s journal
  obtain ⟨second, hnext, hsecond⟩ := hf (y s).1 (y s).2 (journal ++ first)
  refine ⟨first ++ second, ?_, (y s).1, first, second, rfl, hfirst, hsecond⟩
  have hstep : (x >>= f) (s, journal) = f (x (s, journal)).1 (x (s, journal)).2 := rfl
  rw [hstep, hrun, hnext, List.append_assoc]
  rfl

/-- An action that is left out under some condition adds no notes then. -/
theorem ifThen {x : StateM (σ × Journal) Unit} {y : StateM σ Unit} {notes : Journal}
    (c : Prop) [Decidable c] (h : Appends x y fun _ added => added = notes) :
    Appends (if c then x else Pure.pure ()) (if c then y else Pure.pure ()) fun _ added =>
      added = if c then notes else [] := by
  by_cases hc : c
  · simpa only [if_pos hc] using h
  · simpa only [if_neg hc] using (pure ()).mono fun _ _ h => h.2

end Appends

namespace Monitored
variable (wrapped : Monitored σ)

/-- The notes on what is told about a statement that is over. -/
def closingNotes (config : MonitorConfig) (context : Context) (elapsed : Duration)
    (outcome : Outcome) : Journal :=
  if config.enabled then
    .callback (.complete context elapsed outcome) ::
      if config.isSlow elapsed then [.callback (.slow context elapsed outcome)] else []
  else []

/-- The notes on one statement. -/
def statementNotes (config : MonitorConfig) (context : Context) (reply : Reply)
    (elapsed : Duration) : Journal :=
  (if config.enabled then [.callback (.start context)] else []) ++
    .exchange ⟨context.sql, reply⟩ :: .measured elapsed ::
      closingNotes config context elapsed (.ofReply reply)

/-- What the monitor is told leaves one note. -/
theorem appends_monitor (callback : Callback) :
    Appends (wrapped.journaled.monitor callback) (wrapped.monitor callback) fun _ notes =>
      notes = [.callback callback] :=
  (Appends.noted (wrapped.monitor callback) fun _ => .callback callback).mono fun _ _ h => h.1

theorem appends_reportResult (context : Context) (elapsed : Duration) (outcome : Outcome) :
    Appends (wrapped.journaled.reportResult context elapsed outcome)
      (wrapped.reportResult context elapsed outcome) fun _ notes =>
        notes = closingNotes wrapped.config context elapsed outcome := by
  have hslow := Appends.ifThen (wrapped.config.isSlow elapsed = true)
    (wrapped.appends_monitor (.slow context elapsed outcome))
  have hcomplete := (wrapped.appends_monitor (.complete context elapsed outcome)).bind
    fun _ => hslow
  refine Appends.ifThen (wrapped.config.enabled = true) (hcomplete.mono ?_)
  intro a notes h
  rcases h with ⟨_, _, _, rfl, rfl, rfl⟩
  rfl

/-- What comes before the exchange is one action, done or left out. -/
theorem perform_eq (tag : Option String) (sql : String) :
    wrapped.perform tag sql =
      (if wrapped.config.enabled then wrapped.monitor (.start (.of sql tag)) else pure ()) >>=
        fun _ => wrapped.client.execute sql >>= fun reply => wrapped.elapsed >>= fun elapsed =>
          wrapped.reportResult (.of sql tag) elapsed (.ofReply reply) >>= fun _ => pure reply := by
  rw [perform]
  by_cases h : wrapped.config.enabled = true
  · rw [if_pos h, if_pos h]
  · rw [if_neg h, if_neg h]
    rfl

/-- One statement leaves the notes that the settings ask for, around one exchange. -/
theorem appends_perform (tag : Option String) (sql : String) :
    Appends (wrapped.journaled.perform tag sql) (wrapped.perform tag sql) fun reply notes =>
      wrapped.client.Answers sql reply ∧
        ∃ elapsed, notes = statementNotes wrapped.config (.of sql tag) reply elapsed := by
  have hstart := Appends.ifThen (wrapped.config.enabled = true)
    (wrapped.appends_monitor (.start (.of sql tag)))
  have hexecute := Appends.noted (wrapped.client.execute sql) fun reply => .exchange ⟨sql, reply⟩
  have hclose (reply : Reply) := (Appends.noted wrapped.elapsed .measured).bind fun elapsed =>
    (wrapped.appends_reportResult (.of sql tag) elapsed (.ofReply reply)).bind
      fun _ => Appends.pure reply
  rw [perform_eq, perform_eq]
  refine (hstart.bind fun _ => hexecute.bind hclose).mono ?_
  rintro _ _ ⟨_, _, _, rfl, rfl, reply, _, _, rfl, ⟨rfl, hanswers⟩, elapsed, _, _, rfl, ⟨rfl, _⟩,
    _, _, _, rfl, rfl, rfl, rfl⟩
  refine ⟨hanswers, elapsed, ?_⟩
  simp [statementNotes, Context.of]

end Monitored

/-- A journal of a monitored executor records steps of a session: each statement with the answer
of the executor and with what is told about it, and each error. -/
inductive Records (wrapped : Monitored σ) : List Step → Journal → Prop
  | nil : Records wrapped [] []
  | asked {tag sql : String} {reply : Reply} {steps : List Step} {journal : Journal}
      (answers : wrapped.client.Answers sql reply) (elapsed : Duration)
      (rest : Records wrapped steps journal) :
      Records wrapped (.asked tag sql reply :: steps)
        (Monitored.statementNotes wrapped.config (.of sql (some tag)) reply elapsed ++ journal)
  | told {e : Error} {steps : List Step} {journal : Journal} (rest : Records wrapped steps journal) :
      Records wrapped (.told e :: steps) (.callback (.error e) :: journal)

namespace Monitored
variable {config : MonitorConfig} {context : Context} {elapsed : Duration}

@[simp] theorem exchange?_closingNotes (outcome : Outcome) :
    (closingNotes config context elapsed outcome).filterMap Note.exchange? = [] := by
  by_cases henabled : config.enabled = true
  · by_cases hslow : config.isSlow elapsed = true
    · rw [closingNotes, if_pos henabled, if_pos hslow]; rfl
    · rw [closingNotes, if_pos henabled, if_neg hslow]; rfl
  · rw [closingNotes, if_neg henabled]; rfl

/-- One statement is one exchange, whatever is told about it. -/
@[simp] theorem exchange?_statementNotes (reply : Reply) :
    (statementNotes config context reply elapsed).filterMap Note.exchange? =
      [⟨context.sql, reply⟩] := by
  have hrest : (.exchange ⟨context.sql, reply⟩ :: .measured elapsed ::
      closingNotes config context elapsed (.ofReply reply)).filterMap Note.exchange? =
        [⟨context.sql, reply⟩] :=
    congrArg _ (exchange?_closingNotes (.ofReply reply))
  rw [statementNotes, List.filterMap_append, hrest]
  by_cases henabled : config.enabled = true
  · rw [if_pos henabled]; rfl
  · rw [if_neg henabled]; rfl

end Monitored

namespace Records
variable {wrapped : Monitored σ} {steps : List Step} {journal : Journal}

/-- The exchanges of a journal are those of the steps it records. -/
theorem exchanges_eq (h : Records wrapped steps journal) :
    journal.filterMap Note.exchange? = exchangesOf steps := by
  induction h with
  | nil => rfl
  | asked answers elapsed rest ih =>
    rw [List.filterMap_append, ih, Monitored.exchange?_statementNotes]
    rfl
  | told rest ih => exact ih

/-- The executor gave the replies. -/
theorem answers (h : Records wrapped steps journal) :
    ∀ x ∈ exchangesOf steps, wrapped.client.Answers x.sql x.reply := by
  induction h with
  | nil => simp
  | asked answers elapsed rest ih => exact List.forall_mem_cons.2 ⟨answers, ih⟩
  | told rest ih => exact ih

end Records

namespace Db
variable (db : Db σ)

/-- A session runs along one of its paths, and its journal records the steps. -/
theorem appends_run (session : Session α) :
    Appends (db.journaled.run session) (db.run session) fun result notes =>
      ∃ steps, session.Path steps result ∧ Records db.client steps notes := by
  induction session with
  | finish result =>
    refine (Appends.pure result).mono ?_
    intro a notes h
    rcases h with ⟨rfl, rfl⟩
    exact ⟨[], .finish _, .nil⟩
  | issue tag sql next ih =>
    refine ((db.client.appends_perform (some tag) sql).bind ih).mono ?_
    intro a notes h
    rcases h with ⟨reply, _, _, rfl, ⟨hanswers, elapsed, rfl⟩, steps, hpath, hrecords⟩
    exact ⟨_, .issue hpath, .asked hanswers elapsed hrecords⟩
  | report e next ih =>
    refine ((db.client.appends_monitor (.error e)).bind fun _ => ih).mono ?_
    intro a notes h
    rcases h with ⟨_, _, _, rfl, rfl, steps, hpath, hrecords⟩
    exact ⟨_, .report hpath, .told hrecords⟩

/-- The journal of an operation. -/
def journal (operation : Style → Session α) (s : σ) : Journal :=
  (db.journaled.perform operation (s, [])).2.2

/-- The statements of an operation that reached the executor, with its replies. -/
def exchanges (operation : Style → Session α) (s : σ) : List Exchange :=
  (db.journal operation s).filterMap Note.exchange?

/-- Keeping a journal changes neither the result nor the state. -/
theorem perform_journaled (operation : Style → Session α) (s : σ) :
    db.journaled.perform operation (s, []) =
      ((db.perform operation s).1, (db.perform operation s).2, db.journal operation s) := by
  obtain ⟨notes, hrun, -⟩ := db.appends_run (operation db.style) s []
  rw [journal]
  have hrun' : db.journaled.perform operation (s, []) = _ := hrun
  rw [hrun']
  rfl

/-- What an operation does on a connection, it does along one of its paths. -/
theorem exists_path (operation : Style → Session α) (s : σ) :
    ∃ steps, (operation db.style).Path steps (db.perform operation s).1 ∧
      Records db.client steps (db.journal operation s) := by
  obtain ⟨notes, hrun, steps, hpath, hrecords⟩ := db.appends_run (operation db.style) s []
  have hrun' : db.journaled.perform operation (s, []) = _ := hrun
  refine ⟨steps, hpath, ?_⟩
  rw [journal, hrun']
  exact hrecords

/-- The exchanges of an operation on a connection are those of one of its paths. -/
theorem exists_path_exchanges (operation : Style → Session α) (s : σ) :
    ∃ steps, (operation db.style).Path steps (db.perform operation s).1 ∧
      db.exchanges operation s = exchangesOf steps := by
  obtain ⟨steps, hpath, hrecords⟩ := db.exists_path operation s
  exact ⟨steps, hpath, hrecords.exchanges_eq⟩

/-- The replies of the exchanges are those of the executor. -/
theorem answers_of_mem_exchanges {operation : Style → Session α} {s : σ} {x : Exchange}
    (h : x ∈ db.exchanges operation s) : db.client.client.Answers x.sql x.reply := by
  obtain ⟨steps, hpath, hrecords⟩ := db.exists_path operation s
  rw [exchanges, hrecords.exchanges_eq] at h
  exact hrecords.answers x h

end Db
end QueryLayer
