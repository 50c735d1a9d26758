import QueryLayer.Proofs.Concurrent.Schedule
import QueryLayer.Proofs.Concurrent.Server

/-!
# Upserts that race

An upsert counts the rows that have its key, and then it updates or inserts. Nothing is locked in
between, so others may have written by then. On a server that keeps a key unique this does no
harm: whatever the order of the statements, there is never a second row with the key, a row that
is there stays, and of all clients that upsert the same key one at most inserts it. The others
update it, or they are told that it is there already.

What carries the proof is what a client knows. One that goes on to update has counted one row,
and the row is still there, since no update assigns the key. One that goes on to insert knows
nothing, but the server will turn it down if another was faster.
-/
namespace QueryLayer
open Json (Value)

variable {σ ρ ι : Type}

/-- What a client may have left to do as long as it has not inserted the key, where each look gets
the one schema and no check counts more than one row. It may have `seen` the key. -/
inductive Upserting (contest : Contest) (client : Client) :
    Bool → Session (Executed Upserted) → Prop
  | look {seen : Bool} {tag : String} {next : Reply → Session (Executed Upserted)}
      (rest : Upserting contest client seen (next contest.schema)) :
      Upserting contest client seen (.issue tag (Catalog.columns client.style contest.table) next)
  | check {seen : Bool} {tag : String} {next : Reply → Session (Executed Upserted)}
      (absent : ∀ output : Output, output.count? = some 0 →
        Upserting contest client seen (next (.ok output)))
      (present : ∀ output : Output, output.count? = some 1 →
        Upserting contest client true (next (.ok output))) :
      Upserting contest client seen (.issue tag (contest.checking client) next)
  | insert {seen : Bool} {tag : String} {next : Reply → Session (Executed Upserted)}
      (done : ∀ output, ∃ id statement,
        next (.ok output) = .finish (.ok ⟨.inserted id, statement⟩))
      (failed : ∀ e, next (.error e) = .finish (.error e)) :
      Upserting contest client seen (.issue tag (contest.inserting client) next)
  | update {tag : String} {next : Reply → Session (Executed Upserted)}
      {assigned : List (String × Value)} (nonempty : assigned ≠ [])
      (ofRow : ∀ field ∈ assigned, field ∈ contest.fields client)
      (notKey : contest.key.name ∉ assigned.map Prod.fst)
      (done : ∀ output, ∃ changed statement,
        next (.ok output) = .finish (.ok ⟨.updated changed, statement⟩)) :
      Upserting contest client true (.issue tag (contest.updating client assigned) next)
  | updated (changed : Option UInt64) (statement : Statement) :
      Upserting contest client true (.finish (.ok ⟨.updated changed, statement⟩))
  | rejected (detail : String) :
      Upserting contest client true (.finish (.error (.uniqueViolation detail)))

/-- The fields that an update by key assigns are some of the row, and the key is not one. -/
theorem Columns.mem_and_ne_of_mem_besides {known : Columns} {key : Column} {row : Row}
    {field : String × Value} (h : field ∈ known.besides key row) :
    field ∈ row.fieldsOf (known.presentIn row) ∧ field.1 ≠ key.name := by
  obtain ⟨column, hcolumn, hfield⟩ := List.mem_filterMap.1 h
  obtain ⟨hpresent, hother⟩ := List.mem_filter.1 hcolumn
  obtain ⟨v, hv, rfl⟩ := Option.map_eq_some_iff.1 hfield
  exact ⟨List.mem_filterMap.2 ⟨column, hpresent, hfield⟩, by simpa using hother⟩

theorem Session.readCount_of_count? {output : Output} {n : UInt64} {complaint : String}
    (h : output.count? = some n) : readCount complaint output = finish (.ok n) := by
  rw [Output.count?] at h
  rw [readCount, h]
  rfl

namespace Upserting
variable {contest : Contest} {client : Client} {seen : Bool}

/-- What a client does with the columns of the table. -/
theorem of_writableColumns {f : Columns → Session (Executed Upserted)}
    (h : Upserting contest client seen (f contest.known)) :
    Upserting contest client seen
      (Session.writableColumns client.style contest.table >>= f) := by
  rw [Session.writableColumns_bind]
  apply look
  rwa [contest.columns?_eq]

/-- The insertion of a client. -/
theorem of_insert : Upserting contest client seen
    (Session.insert client.style contest.table client.row >>= fun done =>
      pure ⟨.inserted done.value, done.statement⟩) := by
  rw [Session.insert, Session.bind_assoc]
  apply of_writableColumns
  exact .insert (fun output => ⟨_, _, rfl⟩) fun e => rfl

/-- The update of a client that has seen the key. -/
theorem of_updateByKey (hrow : contest.Has client.row)
    (hbesides : contest.known.besides contest.key client.row ≠ []) :
    Upserting contest client true
      (Session.updateByKey client.style contest.table client.row >>= fun done =>
        pure ⟨.updated done.value, done.statement⟩) := by
  rw [Session.updateByKey, Session.bind_assoc]
  apply of_writableColumns
  rw [Columns.keyIn?_eq_some_iff.2 hrow.isKey]
  change Upserting contest client true
    ((if contest.known.besides contest.key client.row = [] then _ else _) >>= _)
  rw [if_neg hbesides]
  have hnotKey : contest.key.name ∉
      (contest.known.besides contest.key client.row).map Prod.fst := by
    intro hkey
    obtain ⟨field, hfield, hname⟩ := List.mem_map.1 hkey
    exact (Columns.mem_and_ne_of_mem_besides hfield).2 hname
  exact .update hbesides (fun field hfield => (Columns.mem_and_ne_of_mem_besides hfield).1) hnotKey
    fun output => ⟨_, _, rfl⟩

/-- A client starts without having seen anything. -/
theorem of_upsert (hrow : contest.Has client.row) :
    Upserting contest client false (contest.upsert client) := by
  apply of_writableColumns
  rw [Columns.keyIn?_eq_some_iff.2 hrow.isKey]
  apply check
  · intro output hcount
    change Upserting contest client false (Session.readCount _ output >>= _)
    rw [Session.readCount_of_count? hcount, Session.finish_ok_bind]
    exact of_insert
  · intro output hcount
    change Upserting contest client true (Session.readCount _ output >>= _)
    rw [Session.readCount_of_count? hcount, Session.finish_ok_bind]
    by_cases honly : contest.known.besides contest.key client.row = []
    · rw [if_pos ⟨rfl, Columns.all_name_eq_iff.2 honly⟩]
      exact .updated (some 0) _
    · rw [if_neg fun h => honly (Columns.all_name_eq_iff.1 h.2), if_pos rfl]
      exact of_updateByKey hrow honly

end Upserting

/-- The session of a client that has inserted its row. -/
def Session.HasInserted (session : Session (Executed Upserted)) : Prop :=
  ∃ id statement, session = .finish (.ok ⟨.inserted id, statement⟩)

/-- The session of a client that has updated the row with its key. -/
def Session.HasUpdated (session : Session (Executed Upserted)) : Prop :=
  ∃ changed statement, session = .finish (.ok ⟨.updated changed, statement⟩)

/-- The session of a client that was told that its key is there already. -/
def Session.IsRejected (session : Session (Executed Upserted)) : Prop :=
  ∃ detail, session = .finish (.error (.uniqueViolation detail))

namespace Upserting
variable {server : Server σ ρ} {contest : Contest} {client : Client} {seen : Bool}

theorem not_hasInserted {session : Session (Executed Upserted)}
    (h : Upserting contest client seen session) : ¬ session.HasInserted := by
  rintro ⟨id, statement, rfl⟩
  cases h

/-- One statement of a client either leaves the number of rows with the key as it is or inserts
the first of them. -/
theorem step {tag sql : String} {next : Reply → Session (Executed Upserted)}
    (h : Upserting contest client seen (.issue tag sql next))
    (hserves : server.Serves contest client) (hrow : contest.Has client.row) (s : σ)
    (hseen : seen = true → 0 < server.count contest s) (hsingle : server.count contest s ≤ 1) :
    ∃ reply s', server.execute sql s = (reply, s') ∧
      ((server.count contest s' = server.count contest s ∧
          ∃ seen', Upserting contest client seen' (next reply) ∧
            (seen' = true → 0 < server.count contest s)) ∨
        (server.count contest s = 0 ∧ server.count contest s' = 1 ∧
          (next reply).HasInserted)) := by
  cases h with
  | look rest =>
    obtain ⟨s', hexecute, hrows⟩ := hserves.look s
    exact ⟨_, s', hexecute, .inl ⟨Server.count_congr hrows, seen, rest, hseen⟩⟩
  | check absent present =>
    obtain ⟨output, s', hexecute, hrows, hcount⟩ := hserves.check s
    refine ⟨_, s', hexecute, .inl ⟨Server.count_congr hrows, ?_⟩⟩
    have hcount := hcount (hsingle.trans_lt (by decide))
    -- The count may be out of date by the next turn, but a row that was counted stays.
    rcases Nat.le_one_iff_eq_zero_or_eq_one.1 hsingle with hzero | hone
    · rw [hzero] at hcount
      exact ⟨seen, absent output hcount, hseen⟩
    · rw [hone] at hcount
      exact ⟨true, present output hcount, fun _ => hone ▸ Nat.one_pos⟩
  | insert done failed =>
    rcases Nat.eq_zero_or_pos (server.count contest s) with hzero | hpos
    · obtain ⟨output, s', new, hexecute, hrows, hnew⟩ := hserves.insert s hzero
      have hcount := Server.count_insert hrows (hnew _ hrow.key_mem_fields rfl contest.value_ne)
      exact ⟨_, s', hexecute, .inr ⟨hzero, by rw [hcount, hzero], done output⟩⟩
    · obtain ⟨detail, s', hexecute, hrows⟩ := hserves.reject s hpos
      refine ⟨_, s', hexecute, .inl ⟨Server.count_congr hrows, true, ?_, fun _ => hpos⟩⟩
      rw [failed]
      exact .rejected detail
  | update nonempty ofRow notKey done =>
    obtain ⟨output, s', change, hexecute, hrows, hchange⟩ := hserves.update s _ nonempty ofRow
    refine ⟨_, s', hexecute, .inl
      ⟨Server.count_update hrows (hchange notKey), true, ?_, hseen⟩⟩
    obtain ⟨changed, statement, hdone⟩ := done output
    rw [hdone]
    exact .updated changed statement

end Upserting

/-- How a client stands where `before` rows had the key at the start and `now` rows have it. -/
inductive Stands (contest : Contest) (client : Client) (before now : Nat) :
    Session (Executed Upserted) → Prop
  | upserting {seen : Bool} {session : Session (Executed Upserted)}
      (left : Upserting contest client seen session) (present : seen = true → 0 < now) :
      Stands contest client before now session
  | inserted {session : Session (Executed Upserted)} (done : session.HasInserted)
      (absent : before = 0) (present : 0 < now) : Stands contest client before now session

namespace Stands
variable {contest : Contest} {client : Client} {before now now' : Nat}
  {session : Session (Executed Upserted)}

theorem mono (h : Stands contest client before now session) (hle : now ≤ now') :
    Stands contest client before now' session := by
  cases h with
  | upserting left present => exact .upserting left fun hseen => (present hseen).trans_le hle
  | inserted done absent present => exact .inserted done absent (present.trans_le hle)

/-- Who has inserted the key did so where it was not there, and it is there now. -/
theorem of_hasInserted (h : Stands contest client before now session)
    (hdone : session.HasInserted) : before = 0 ∧ 0 < now := by
  cases h with
  | upserting left present => exact absurd hdone left.not_hasInserted
  | inserted done absent present => exact ⟨absent, present⟩

/-- Who has a statement to issue has not inserted the key yet. -/
theorem of_issue {tag sql : String} {next : Reply → Session (Executed Upserted)}
    (h : Stands contest client before now (.issue tag sql next)) :
    ∃ seen, Upserting contest client seen (.issue tag sql next) ∧ (seen = true → 0 < now) := by
  cases h with
  | upserting left present => exact ⟨_, left, present⟩
  | inserted done absent present =>
    obtain ⟨_, _, hdone⟩ := done
    cases hdone

/-- No client has anything to report. -/
theorem not_report {e : Error} {next : Session (Executed Upserted)} :
    ¬ Stands contest client before now (.report e next) := by
  intro h
  cases h with
  | upserting left present => cases left
  | inserted done absent present =>
    obtain ⟨_, _, hdone⟩ := done
    cases hdone

/-- Who has finished has a result, and one that tells of the key only where it is there. -/
theorem of_finish {result : Except Error (Executed Upserted)}
    (h : Stands contest client before now (.finish result)) :
    0 < now ∧ ((Session.finish result).HasInserted ∨ (Session.finish result).HasUpdated ∨
      (Session.finish result).IsRejected) := by
  cases h with
  | upserting left present =>
    cases left with
    | updated changed statement => exact ⟨present rfl, .inr (.inl ⟨changed, statement, rfl⟩)⟩
    | rejected detail => exact ⟨present rfl, .inr (.inr ⟨detail, rfl⟩)⟩
  | inserted done absent present => exact ⟨present, .inl done⟩

end Stands

/-- What stays true while clients upsert the same key, from the state `s` of the server on. -/
structure Contested (server : Server σ ρ) (contest : Contest) (clients : ι → Client) (s : σ)
    (w : World σ ι (Executed Upserted)) : Prop where
  stands : ∀ i, Stands contest (clients i) (server.count contest s)
    (server.count contest w.server) (w.sessions i)
  single : server.count contest w.server ≤ 1
  /-- A row that had the key at the start still has it. -/
  kept : server.count contest s ≤ server.count contest w.server
  eq_of_inserted : ∀ i j, (w.sessions i).HasInserted → (w.sessions j).HasInserted → i = j
  /-- A row that did not have it was inserted by a client. -/
  exists_inserted : server.count contest s < server.count contest w.server →
    ∃ i, (w.sessions i).HasInserted

/-- The clients of a contest at the start. -/
def Contest.start (contest : Contest) (clients : ι → Client) (s : σ) :
    World σ ι (Executed Upserted) :=
  ⟨s, fun i => contest.upsert (clients i)⟩

namespace Contested
variable {server : Server σ ρ} {contest : Contest} {clients : ι → Client} {s : σ}
  {w : World σ ι (Executed Upserted)}

/-- At the start nobody has inserted the key. -/
theorem start (hrow : ∀ i, contest.Has (clients i).row) (hs : server.count contest s ≤ 1) :
    Contested server contest clients s (contest.start clients s) where
  stands i := .upserting (Upserting.of_upsert (hrow i)) (by simp)
  single := hs
  kept := le_rfl
  eq_of_inserted i _ hi _ := absurd hi (Upserting.of_upsert (hrow i)).not_hasInserted
  exists_inserted h := absurd h (lt_irrefl _)

variable [DecidableEq ι]

/-- A turn that leaves the number of rows with the key as it is. -/
theorem of_count_eq (h : Contested server contest clients s w) {i : ι} {s' : σ}
    {session : Session (Executed Upserted)} {seen : Bool}
    (hcount : server.count contest s' = server.count contest w.server)
    (hbefore : ¬ (w.sessions i).HasInserted)
    (hleft : Upserting contest (clients i) seen session)
    (hseen : seen = true → 0 < server.count contest w.server) :
    Contested server contest clients s ⟨s', Function.update w.sessions i session⟩ := by
  -- The client of this turn has not inserted the key, neither before its turn nor after it.
  have hsame : ∀ j, (Function.update w.sessions i session j).HasInserted ↔
      (w.sessions j).HasInserted :=
    (Function.forall_update_iff w.sessions fun j x => x.HasInserted ↔
      (w.sessions j).HasInserted).2
        ⟨iff_of_false hleft.not_hasInserted hbefore, fun _ _ => Iff.rfl⟩
  exact
    { stands := by
        rw [hcount]
        exact (Function.forall_update_iff w.sessions fun j x =>
          Stands contest (clients j) _ _ x).2 ⟨.upserting hleft hseen, fun j _ => h.stands j⟩
      single := hcount.trans_le h.single
      kept := h.kept.trans_eq hcount.symm
      eq_of_inserted := fun j k hj hk => h.eq_of_inserted j k ((hsame j).1 hj) ((hsame k).1 hk)
      exists_inserted := by
        intro hlt
        obtain ⟨j, hj⟩ := h.exists_inserted (hlt.trans_eq hcount)
        exact ⟨j, (hsame j).2 hj⟩ }

/-- A turn that inserts the key. -/
theorem of_inserted (h : Contested server contest clients s w) {i : ι} {s' : σ}
    {session : Session (Executed Upserted)} (hzero : server.count contest w.server = 0)
    (hone : server.count contest s' = 1) (hdone : session.HasInserted) :
    Contested server contest clients s ⟨s', Function.update w.sessions i session⟩ := by
  have habsent : server.count contest s = 0 := Nat.le_zero.1 (h.kept.trans_eq hzero)
  have hle : server.count contest w.server ≤ server.count contest s' := hzero ▸ Nat.zero_le _
  have hi : (Function.update w.sessions i session i).HasInserted := by
    rwa [Function.update_self]
  -- Nobody else has inserted the key, since it was not there.
  have honly : ∀ j, (Function.update w.sessions i session j).HasInserted → j = i := by
    refine (Function.forall_update_iff w.sessions fun j x => x.HasInserted → j = i).2
      ⟨fun _ => rfl, fun j _ hj => ?_⟩
    exact absurd hzero ((h.stands j).of_hasInserted hj).2.ne'
  exact
    { stands := (Function.forall_update_iff w.sessions fun j x =>
        Stands contest (clients j) _ _ x).2
          ⟨.inserted hdone habsent (hone ▸ Nat.one_pos), fun j _ => (h.stands j).mono hle⟩
      single := hone.le
      kept := h.kept.trans hle
      eq_of_inserted := fun j k hj hk => (honly j hj).trans (honly k hk).symm
      exists_inserted := fun _ => ⟨i, hi⟩ }

/-- **A turn keeps the key unique**, and it keeps the key where it is there. -/
theorem advance (h : Contested server contest clients s w)
    (hserves : ∀ i, server.Serves contest (clients i))
    (hrow : ∀ i, contest.Has (clients i).row) (i : ι) :
    Contested server contest clients s (w.advance server.execute i) ∧
      server.count contest w.server ≤
        server.count contest (w.advance server.execute i).server := by
  have hstands := h.stands i
  cases hsession : w.sessions i with
  | finish result =>
    rw [World.advance_of_finish hsession]
    exact ⟨h, le_rfl⟩
  | issue tag sql next =>
    rw [hsession] at hstands
    obtain ⟨seen, hleft, hseen⟩ := hstands.of_issue
    have hbefore : ¬ (w.sessions i).HasInserted := hsession ▸ hleft.not_hasInserted
    rw [World.advance_of_issue hsession]
    obtain ⟨reply, s', hexecute, ⟨hcount, seen', hnext, hseen'⟩ | ⟨hzero, hone, hdone⟩⟩ :=
      hleft.step (hserves i) (hrow i) w.server hseen h.single
    · rw [hexecute]
      exact ⟨h.of_count_eq hcount hbefore hnext hseen', hcount.ge⟩
    · rw [hexecute]
      exact ⟨h.of_inserted hzero hone hdone, hzero ▸ Nat.zero_le _⟩
  | report e next =>
    rw [hsession] at hstands
    exact absurd hstands Stands.not_report

/-- So does every schedule. -/
theorem run (h : Contested server contest clients s w)
    (hserves : ∀ i, server.Serves contest (clients i))
    (hrow : ∀ i, contest.Has (clients i).row) (schedule : List ι) :
    Contested server contest clients s (w.run server.execute schedule) ∧
      server.count contest w.server ≤
        server.count contest (w.run server.execute schedule).server := by
  refine World.run_preserves (P := fun later => Contested server contest clients s later ∧
    server.count contest w.server ≤ server.count contest later.server) ?_ ⟨h, le_rfl⟩ schedule
  rintro later j ⟨hlater, hle⟩
  obtain ⟨hnext, hle'⟩ := hlater.advance hserves hrow j
  exact ⟨hnext, hle.trans hle'⟩

end Contested

/-- What has become of a key, and of the clients that upsert it, from the state `s` of the server
on. -/
structure KeepsKey [DecidableEq ι] (server : Server σ ρ) (contest : Contest) (s : σ)
    (w : World σ ι (Executed Upserted)) : Prop where
  /-- No two rows have the key. -/
  single : server.count contest w.server ≤ 1
  /-- Once a row has it, there is always one. -/
  stays : 0 < server.count contest w.server → ∀ schedule,
    0 < server.count contest (w.run server.execute schedule).server
  /-- If the key was not there, then in the end one client has inserted it. -/
  inserted_once : server.count contest s = 0 → w.Finished → Nonempty ι →
    ∃! i, (w.sessions i).HasInserted
  /-- If the key was there, nobody inserts it. -/
  not_inserted : 0 < server.count contest s → ∀ i, ¬ (w.sessions i).HasInserted
  /-- In the end all others have updated the row, or they were told that it is there. -/
  others : w.Finished → ∀ i, ¬ (w.sessions i).HasInserted →
    (w.sessions i).HasUpdated ∨ (w.sessions i).IsRejected
  /-- There is an end: whatever has happened so far, the clients can all finish. -/
  finishes : Finite ι → ∃ schedule, (w.run server.execute schedule).Finished

/-- **Upserts that race keep their key unique.** However the statements of any clients that upsert
rows with one key are interleaved, on a server that keeps the key unique no second row gets the
key and none loses it. If there was no row with the key, exactly one client inserts it, and if
there was one, no client does; the others end with an update or with the news that the key is
there already. -/
theorem keepsKey_run [DecidableEq ι] (server : Server σ ρ) (contest : Contest)
    (clients : ι → Client) (hrow : ∀ i, contest.Has (clients i).row)
    (hserves : ∀ i, server.Serves contest (clients i)) (s : σ)
    (hs : server.count contest s ≤ 1) (schedule : List ι) :
    KeepsKey server contest s ((contest.start clients s).run server.execute schedule) := by
  obtain ⟨h, -⟩ := (Contested.start hrow hs).run hserves hrow schedule
  exact
    { single := h.single
      stays := fun hpos more => hpos.trans_le (h.run hserves hrow more).2
      inserted_once := by
        rintro hzero hfinished ⟨i⟩
        obtain ⟨result, hresult⟩ := hfinished i
        obtain ⟨hpos, -⟩ := (hresult ▸ h.stands i).of_finish
        obtain ⟨j, hj⟩ := h.exists_inserted (hzero ▸ hpos)
        exact ⟨j, hj, fun k hk => h.eq_of_inserted k j hk hj⟩
      not_inserted := fun hpos i hi => hpos.ne' ((h.stands i).of_hasInserted hi).1
      others := by
        intro hfinished i hnot
        obtain ⟨result, hresult⟩ := hfinished i
        have hstands := h.stands i
        rw [hresult] at hstands hnot ⊢
        exact hstands.of_finish.2.resolve_left hnot
      finishes := fun _ => World.exists_run_finished server.execute _ }

/-- People with the key `id`, one of whom is contested. -/
def peopleContest : Contest where
  table := "people"
  schema := .ok { rows := [⟨[("Field", .string "id"), ("Key", .string "PRI")]⟩,
    ⟨[("Field", .string "name")]⟩] }
  known := ⟨[⟨"id", "", false, .primary, none, ""⟩, ⟨"name", "", false, .none, none, ""⟩]⟩
  columns?_eq := by decide +kernel
  key := ⟨"id", "", false, .primary, none, ""⟩
  value := .number (.int 7)
  value_ne := by simp

/-- One of three who have a name for the same person. -/
def namingClient (i : Fin 3) : Client where
  style := .ofDialect .mysql
  row := ⟨[("name", .string (["Ada", "Bo", "Cy"][i])), ("id", .number (.int 7))]⟩

/-- Two of the clients count before either has inserted, and the second is turned down. The third
comes late and updates. -/
theorem keepsKey_run_people :
    let server := Server.reading .mysql "people" peopleContest.schema "id"
    let schedule : List (Fin 3) := [0, 1, 0, 1, 0, 1, 0, 1, 2, 2, 2, 2]
    let w := (peopleContest.start namingClient []).run server.execute schedule
    (∀ i, peopleContest.Has (namingClient i).row) ∧
      (∀ i, server.Serves peopleContest (namingClient i)) ∧
      server.count peopleContest [] ≤ 1 ∧
      w.server = [[("name", .text "Cy"), ("id", .word "7"), ("name", .text "Ada")]] ∧
      w.Finished ∧ KeepsKey server peopleContest [] w := by
  intro server schedule w
  have hrow (i : Fin 3) : peopleContest.Has (namingClient i).row := by
    refine ⟨⟨[], _, rfl, rfl, .inl rfl, by simp⟩, rfl⟩
  have hsingle : ∀ i, ∀ entry ∈ (namingClient i).row.entries, entry.2.isArray = false := by decide
  have hserves (i : Fin 3) : server.Serves peopleContest (namingClient i) :=
    Server.serves_reading (fun entry hentry _ => hsingle i entry hentry) (hrow i)
  have hend : w.server = [[("name", .text "Cy"), ("id", .word "7"), ("name", .text "Ada")]] ∧
      w.Finished := by decide +kernel
  exact ⟨hrow, hserves, Nat.zero_le _, hend.1, hend.2,
    keepsKey_run server peopleContest namingClient hrow hserves [] (Nat.zero_le _) schedule⟩

end QueryLayer
