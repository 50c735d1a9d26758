import QueryLayer.Session.Basic

/-!
# Paths of a session

A path is one way through a session: the statements it issues with the replies they get, the
errors it reports, and its result. A server is free to choose every reply, so a session has as
many paths as there are lists of replies. What holds on all paths holds on every connection.
-/
namespace QueryLayer

/-- A statement and the reply to it. -/
structure Exchange where
  sql : String
  reply : Reply

/-- One step of a session, with the reply to what it asked. -/
inductive Step where
  | asked (tag sql : String) (reply : Reply)
  | told (error : Error)

/-- The exchange of a step that asks. -/
def Step.exchange? : Step → Option Exchange
  | asked _ sql reply => some ⟨sql, reply⟩
  | told _ => none

/-- The exchanges of a list of steps. -/
def exchangesOf (steps : List Step) : List Exchange := steps.filterMap Step.exchange?

@[simp] theorem exchangesOf_nil : exchangesOf [] = [] := rfl
@[simp] theorem exchangesOf_asked (tag sql : String) (reply : Reply) (steps : List Step) :
    exchangesOf (.asked tag sql reply :: steps) = ⟨sql, reply⟩ :: exchangesOf steps := rfl
@[simp] theorem exchangesOf_told (e : Error) (steps : List Step) :
    exchangesOf (.told e :: steps) = exchangesOf steps := rfl

namespace Session
variable {α β : Type} {steps : List Step}

/-- The steps of a session under some replies, and its result. -/
inductive Path : Session α → List Step → Except Error α → Prop
  | finish (result : Except Error α) : Path (finish result) [] result
  | issue {tag sql : String} {next : Reply → Session α} {reply : Reply} {steps : List Step}
      {result : Except Error α} (rest : Path (next reply) steps result) :
      Path (issue tag sql next) (.asked tag sql reply :: steps) result
  | report {e : Error} {next : Session α} {steps : List Step} {result : Except Error α}
      (rest : Path next steps result) : Path (report e next) (.told e :: steps) result

@[simp] theorem path_finish_iff {result result' : Except Error α} :
    Path (finish result) steps result' ↔ steps = [] ∧ result' = result := by
  constructor
  · intro h
    cases h
    exact ⟨rfl, rfl⟩
  · intro h
    rcases h with ⟨rfl, rfl⟩
    exact .finish _

theorem path_issue_iff {tag sql : String} {next : Reply → Session α}
    {result : Except Error α} :
    Path (issue tag sql next) steps result ↔
      ∃ reply rest, steps = .asked tag sql reply :: rest ∧ Path (next reply) rest result := by
  constructor
  · intro h
    cases h
    exact ⟨_, _, rfl, by assumption⟩
  · intro h
    rcases h with ⟨reply, rest, rfl, h⟩
    exact .issue h

theorem path_report_iff {e : Error} {next : Session α} {result : Except Error α} :
    Path (report e next) steps result ↔
      ∃ rest, steps = .told e :: rest ∧ Path next rest result := by
  constructor
  · intro h
    cases h
    exact ⟨_, rfl, by assumption⟩
  · intro h
    rcases h with ⟨rest, rfl, h⟩
    exact .report h

/-- A path of two sessions in a row goes through the first and, unless that fails, on through
the second. -/
theorem path_bind_iff {s : Session α} {f : α → Session β} {result : Except Error β} :
    Path (s >>= f) steps result ↔
      (∃ e, Path s steps (.error e) ∧ result = .error e) ∨
        ∃ a first second, steps = first ++ second ∧ Path s first (.ok a) ∧
          Path (f a) second result := by
  induction s generalizing steps with
  | finish outcome =>
    cases outcome with
    | error e =>
      rw [finish_error_bind, path_finish_iff]
      constructor
      · intro h
        rcases h with ⟨rfl, rfl⟩
        exact .inl ⟨e, .finish _, rfl⟩
      · intro h
        rcases h with ⟨e', he, rfl⟩ | ⟨a, first, second, rfl, ha, hf⟩
        · obtain ⟨rfl, he⟩ := path_finish_iff.1 he
          cases he
          exact ⟨rfl, rfl⟩
        · cases (path_finish_iff.1 ha).2
    | ok a =>
      rw [finish_ok_bind]
      constructor
      · exact fun h => .inr ⟨a, [], steps, rfl, .finish _, h⟩
      · intro h
        rcases h with ⟨e, he, rfl⟩ | ⟨a', first, second, rfl, ha, hf⟩
        · cases (path_finish_iff.1 he).2
        · obtain ⟨rfl, ha⟩ := path_finish_iff.1 ha
          cases ha
          exact hf
  | issue tag sql next ih =>
    rw [issue_bind, path_issue_iff]
    constructor
    · intro h
      rcases h with ⟨reply, rest, rfl, h⟩
      rcases (ih reply).1 h with ⟨e, he, rfl⟩ | ⟨a, first, second, rfl, ha, hf⟩
      · exact .inl ⟨e, .issue he, rfl⟩
      · exact .inr ⟨a, _ :: first, second, rfl, .issue ha, hf⟩
    · intro h
      rcases h with ⟨e, he, rfl⟩ | ⟨a, first, second, rfl, ha, hf⟩
      · obtain ⟨reply, rest, rfl, hrest⟩ := path_issue_iff.1 he
        exact ⟨reply, rest, rfl, (ih reply).2 (.inl ⟨e, hrest, rfl⟩)⟩
      · obtain ⟨reply, rest, rfl, hrest⟩ := path_issue_iff.1 ha
        exact ⟨reply, rest ++ second, rfl, (ih reply).2 (.inr ⟨a, rest, second, rfl, hrest, hf⟩)⟩
  | report e next ih =>
    rw [report_bind, path_report_iff]
    constructor
    · intro h
      rcases h with ⟨rest, rfl, h⟩
      rcases ih.1 h with ⟨e', he, rfl⟩ | ⟨a, first, second, rfl, ha, hf⟩
      · exact .inl ⟨e', .report he, rfl⟩
      · exact .inr ⟨a, _ :: first, second, rfl, .report ha, hf⟩
    · intro h
      rcases h with ⟨e', he, rfl⟩ | ⟨a, first, second, rfl, ha, hf⟩
      · obtain ⟨rest, rfl, hrest⟩ := path_report_iff.1 he
        exact ⟨rest, rfl, ih.2 (.inl ⟨e', hrest, rfl⟩)⟩
      · obtain ⟨rest, rfl, hrest⟩ := path_report_iff.1 ha
        exact ⟨rest ++ second, rfl, ih.2 (.inr ⟨a, rest, second, rfl, hrest, hf⟩)⟩

/-- A refusal is reported and is the result. -/
@[simp] theorem path_refuse_iff {e : Error} {result : Except Error α} :
    Path (refuse e) steps result ↔ steps = [.told e] ∧ result = .error e := by
  rw [refuse, path_report_iff]
  constructor
  · intro h
    rcases h with ⟨rest, rfl, h⟩
    obtain ⟨rfl, rfl⟩ := path_finish_iff.1 h
    exact ⟨rfl, rfl⟩
  · intro h
    rcases h with ⟨rfl, rfl⟩
    exact ⟨[], rfl, .finish _⟩

/-- A request is one statement, and its reply decides how to go on. -/
theorem path_request_bind_iff {tag sql : String} {f : Output → Session α}
    {result : Except Error α} :
    Path (request tag sql >>= f) steps result ↔
      (∃ e, steps = [.asked tag sql (.error e)] ∧ result = .error e) ∨
        ∃ output rest, steps = .asked tag sql (.ok output) :: rest ∧ Path (f output) rest result := by
  rw [request, issue_bind, path_issue_iff]
  constructor
  · intro h
    rcases h with ⟨reply, rest, rfl, h⟩
    cases reply with
    | error e =>
      obtain ⟨rfl, rfl⟩ := path_finish_iff.1 h
      exact .inl ⟨e, rfl, rfl⟩
    | ok output => exact .inr ⟨output, rest, rfl, h⟩
  · intro h
    rcases h with ⟨e, rfl, rfl⟩ | ⟨output, rest, rfl, h⟩
    · exact ⟨.error e, [], rfl, .finish _⟩
    · exact ⟨.ok output, rest, rfl, h⟩

/-- A request whose output is put into a result and no more. -/
theorem path_request_map_iff {tag sql : String} {f : Output → α} {result : Except Error α} :
    Path (request tag sql >>= fun output => pure (f output)) steps result ↔
      ∃ reply, steps = [.asked tag sql reply] ∧ result = reply.map f := by
  rw [path_request_bind_iff]
  constructor
  · intro h
    rcases h with ⟨e, rfl, rfl⟩ | ⟨output, rest, rfl, h⟩
    · exact ⟨.error e, rfl, rfl⟩
    · obtain ⟨rfl, rfl⟩ := path_finish_iff.1 h
      exact ⟨.ok output, rfl, rfl⟩
  · intro h
    rcases h with ⟨reply, rfl, rfl⟩
    cases reply with
    | error e => exact .inl ⟨e, rfl, rfl⟩
    | ok output => exact .inr ⟨output, [], rfl, .finish _⟩

/-- A result that is put into another goes the same way. -/
theorem path_map_iff {s : Session α} {f : α → β} {result : Except Error β} :
    Path (s >>= fun a => pure (f a)) steps result ↔
      ∃ inner, Path s steps inner ∧ result = inner.map f := by
  rw [path_bind_iff]
  constructor
  · intro h
    rcases h with ⟨e, he, rfl⟩ | ⟨a, first, second, rfl, ha, hf⟩
    · exact ⟨_, he, rfl⟩
    · obtain ⟨rfl, rfl⟩ := path_finish_iff.1 hf
      exact ⟨_, by rwa [List.append_nil], rfl⟩
  · intro h
    rcases h with ⟨inner, h, rfl⟩
    cases inner with
    | error e => exact .inl ⟨e, h, rfl⟩
    | ok a => exact .inr ⟨a, steps, [], (List.append_nil _).symm, h, .finish _⟩

/-- A session whose statements are executed as they come, and whose errors are reported to no
one. -/
def direct {σ : Type} (execute : String → StateM σ Reply) (session : Session α) :
    StateM σ (Except Error α) :=
  session.runOn (fun _ sql => execute sql) fun _ => pure ()

theorem direct_issue {σ : Type} (execute : String → StateM σ Reply) (tag sql : String)
    (next : Reply → Session α) (s : σ) : (issue tag sql next).direct execute s =
      (next (execute sql s).1).direct execute (execute sql s).2 := rfl

end Session
end QueryLayer
