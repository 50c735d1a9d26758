import Mathlib.Data.Fintype.EquivFin
import Mathlib.Logic.Function.Basic
import QueryLayer.Proofs.Session.Path

/-!
# Clients of one server

Clients run sessions on one server, which takes one statement at a time. A schedule says whose
turn it is: that client takes the next step of its session, and the others stand still. Every way
to interleave the statements is a schedule, so what holds after all schedules holds in every state
that the clients and the server can reach.
-/
namespace QueryLayer

instance Session.decidableFinished {α : Type} :
    (session : Session α) → Decidable (∃ result, session = .finish result)
  | .finish result => isTrue ⟨result, rfl⟩
  | .issue _ _ _ => isFalse fun ⟨_, h⟩ => by cases h
  | .report _ _ => isFalse fun ⟨_, h⟩ => by cases h

/-- A server in some state, and what each of its clients has left to do. -/
structure World (σ ι α : Type) where
  server : σ
  sessions : ι → Session α

namespace World
variable {σ ι α : Type} [DecidableEq ι] (execute : String → StateM σ Reply) (w : World σ ι α)

/-- The world after a turn of one client. A client that has finished lets its turn pass. -/
def advance (i : ι) : World σ ι α :=
  match w.sessions i with
  | .finish _ => w
  | .issue _ sql next =>
    let answered := execute sql w.server
    ⟨answered.2, Function.update w.sessions i (next answered.1)⟩
  | .report _ next => ⟨w.server, Function.update w.sessions i next⟩

/-- The world after a schedule. -/
def run (schedule : List ι) : World σ ι α := schedule.foldl (advance execute) w

/-- All clients have finished. -/
def Finished : Prop := ∀ i, ∃ result, w.sessions i = .finish result

instance [Fintype ι] : Decidable w.Finished :=
  inferInstanceAs (Decidable (∀ i, ∃ result, w.sessions i = .finish result))

variable {execute w} {i : ι}

theorem advance_of_finish {result : Except Error α} (h : w.sessions i = .finish result) :
    w.advance execute i = w := by
  rw [advance, h]

theorem advance_of_issue {tag sql : String} {next : Reply → Session α}
    (h : w.sessions i = .issue tag sql next) :
    w.advance execute i = ⟨(execute sql w.server).2,
      Function.update w.sessions i (next (execute sql w.server).1)⟩ := by
  rw [advance, h]

theorem advance_of_report {e : Error} {next : Session α} (h : w.sessions i = .report e next) :
    w.advance execute i = ⟨w.server, Function.update w.sessions i next⟩ := by
  rw [advance, h]

theorem run_cons (i : ι) (schedule : List ι) :
    w.run execute (i :: schedule) = (w.advance execute i).run execute schedule := rfl

theorem run_append (first second : List ι) :
    w.run execute (first ++ second) = (w.run execute first).run execute second :=
  List.foldl_append

/-- What every turn preserves, every schedule preserves. -/
theorem run_preserves {P : World σ ι α → Prop} (hstep : ∀ w i, P w → P (w.advance execute i))
    (h : P w) (schedule : List ι) : P (w.run execute schedule) := by
  induction schedule generalizing w with
  | nil => exact h
  | cons i schedule ih => exact ih (hstep w i h)

/-- A result is final. -/
theorem sessions_run_of_finish {result : Except Error α} (h : w.sessions i = .finish result)
    (schedule : List ι) : (w.run execute schedule).sessions i = .finish result := by
  refine run_preserves (P := fun w => w.sessions i = .finish result) ?_ h schedule
  intro w j hw
  by_cases hij : i = j
  · subst hij
    rwa [advance_of_finish hw]
  · cases hj : w.sessions j with
    | finish _ => rwa [advance_of_finish hj]
    | issue _ _ _ =>
      rw [advance_of_issue hj]
      exact (Function.update_of_ne hij _ _).trans hw
    | report _ _ =>
      rw [advance_of_report hj]
      exact (Function.update_of_ne hij _ _).trans hw

/-- A client that is left alone gets the result that its session has on the server by itself. -/
theorem exists_run_direct (execute : String → StateM σ Reply) (i : ι) (w : World σ ι α) :
    ∃ n, w.run execute (List.replicate n i) =
      ⟨((w.sessions i).direct execute w.server).2,
        Function.update w.sessions i (.finish ((w.sessions i).direct execute w.server).1)⟩ := by
  generalize hsession : w.sessions i = session
  induction session generalizing w with
  | finish result =>
    refine ⟨0, ?_⟩
    have hsame : Function.update w.sessions i (.finish result) = w.sessions := by
      rw [← hsession, Function.update_eq_self]
    exact congrArg (World.mk w.server) hsame.symm
  | issue tag sql next ih =>
    obtain ⟨n, hn⟩ := ih (execute sql w.server).1 (w.advance execute i)
      (by rw [advance_of_issue hsession]; exact Function.update_self ..)
    refine ⟨n + 1, ?_⟩
    rw [List.replicate_succ, run_cons, hn, advance_of_issue hsession, Function.update_idem,
      Session.direct_issue]
  | report e next ih =>
    obtain ⟨n, hn⟩ := ih (w.advance execute i)
      (by rw [advance_of_report hsession]; exact Function.update_self ..)
    refine ⟨n + 1, ?_⟩
    rw [List.replicate_succ, run_cons, hn, advance_of_report hsession, Function.update_idem]
    rfl

/-- Whatever has happened so far, all clients can finish. -/
theorem exists_run_finished [Finite ι] (execute : String → StateM σ Reply) (w : World σ ι α) :
    ∃ schedule, (w.run execute schedule).Finished := by
  have hsome (clients : List ι) : ∃ schedule, ∀ i ∈ clients, ∃ result,
      (w.run execute schedule).sessions i = .finish result := by
    induction clients with
    | nil => exact ⟨[], by simp⟩
    | cons i clients ih =>
      obtain ⟨schedule, hschedule⟩ := ih
      obtain ⟨n, hn⟩ := exists_run_direct execute i (w.run execute schedule)
      refine ⟨schedule ++ List.replicate n i, List.forall_mem_cons.2 ⟨?_, ?_⟩⟩
      · rw [run_append, hn]
        exact ⟨_, Function.update_self i _ _⟩
      · intro j hj
        obtain ⟨result, hresult⟩ := hschedule j hj
        rw [run_append]
        exact ⟨result, sessions_run_of_finish hresult _⟩
  obtain ⟨clients, hclients⟩ := Finite.exists_univ_list ι
  obtain ⟨schedule, hschedule⟩ := hsome clients
  exact ⟨schedule, fun i => hschedule i (hclients.2 i)⟩

end World
end QueryLayer
