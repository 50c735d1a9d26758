import QueryLayer.Proofs.Session.Writing

/-!
# The statements of writes

A write issues looks at the columns of its table, and statements that are worded from its arguments
and, where it needs columns, from those that one of its looks has found. An upsert words its check,
and then what the update or the insertion words, which look the columns up once more.
-/
namespace QueryLayer

variable {α : Type} {style : Style} {table : String} {row : Row} {known : Columns}
  {exchanges exchanges' : List Exchange} {steps : List Step}

/-- One of some looks at the columns of a table has found these. -/
def Columns.FoundIn (style : Style) (table : String) (known : Columns)
    (exchanges : List Exchange) : Prop :=
  ∃ x ∈ exchanges, x.sql = Catalog.columns style table ∧ x.reply.columns? = some known

theorem Columns.FoundIn.mono (h : known.FoundIn style table exchanges)
    (hsub : exchanges ⊆ exchanges') : known.FoundIn style table exchanges' := by
  obtain ⟨x, hx, hlook⟩ := h
  exact ⟨x, hsub hx, hlook⟩

/-- The look that comes first has found the columns. -/
theorem Columns.FoundIn.first {schema : Reply} (h : schema.columns? = some known)
    (rest : List Exchange) :
    known.FoundIn style table (⟨Catalog.columns style table, schema⟩ :: rest) :=
  ⟨_, List.mem_cons_self, rfl, h⟩

namespace Writing

/-- The texts that a write can have, besides looks, for a table with such columns. -/
def Words (style : Style) (table : String) (known : Columns) : Writing α → String → Prop
  | insert row, sql => sql = (style.insertion table known row).sql
  | updateWhere row filter, sql => style.predicate filter ≠ "" ∧ row.isEmpty = false ∧
      sql = (style.update table row.entries (style.predicate filter)).sql
  | updateByKey row, sql => ∃ key, known.keyIn? row = some key ∧ known.besides key row ≠ [] ∧
      sql = (style.keyUpdate table known key row).sql
  | upsert row, sql => sql = (style.insertion table known row).sql ∨
      ∃ key, known.keyIn? row = some key ∧ (sql = (style.countingKey table key row).sql ∨
        known.besides key row ≠ [] ∧ sql = (style.keyUpdate table known key row).sql)
  | delete filter, sql => style.predicate filter ≠ "" ∧
      sql = (style.deletion table (style.predicate filter)).sql

/-- Exchanges that are all looks at the columns, or have such texts. -/
def Worded (style : Style) (table : String) (call : Writing α) (exchanges : List Exchange) :
    Prop :=
  ∀ x ∈ exchanges, x.sql = Catalog.columns style table ∨ ∃ known,
    (call.needsColumns = true → known.FoundIn style table exchanges) ∧
      call.Words style table known x.sql

theorem worded_insert {result : Except Error (Executed (Option UInt64))}
    (h : (Session.insert style table row).Path steps result) :
    (insert row).Worded style table (exchangesOf steps) := by
  obtain ⟨schema, rest, rfl, ⟨-, rfl, -⟩ | ⟨known, reply, hknown, rfl, -⟩⟩ :=
    Session.path_insert h
  · simp [Worded]
  · refine List.forall_mem_cons.2 ⟨.inl rfl, List.forall_mem_singleton.2 (.inr ?_)⟩
    exact ⟨known, fun _ => .first hknown _, rfl⟩

theorem worded_updateByKey {result : Except Error (Executed (Option UInt64))}
    (h : (Session.updateByKey style table row).Path steps result) :
    (updateByKey row).Worded style table (exchangesOf steps) := by
  obtain ⟨schema, rest, rfl, ⟨-, rfl, -⟩ | ⟨-, -, -, rfl, -⟩ |
    ⟨known, key, hknown, hkey, ⟨-, rfl, -⟩ | ⟨reply, hbesides, rfl, -⟩⟩⟩ :=
    Session.path_updateByKey h
  · simp [Worded]
  · simp [Worded]
  · simp [Worded]
  · refine List.forall_mem_cons.2 ⟨.inl rfl, List.forall_mem_singleton.2 (.inr ?_)⟩
    exact ⟨known, fun _ => .first hknown _, key, hkey, hbesides, rfl⟩

/-- An upsert words its check, and then what the update or the insertion words. -/
theorem worded_upsert {result : Except Error (Executed Upserted)}
    (h : (Session.upsert style table row).Path steps result) :
    (upsert row).Worded style table (exchangesOf steps) := by
  obtain ⟨schema, rest, rfl, ⟨-, rfl, -⟩ | ⟨-, -, -, rfl, -⟩ |
    ⟨known, key, checked, more, hknown, hkey, rfl, hchecked⟩⟩ := Session.path_upsert h
  · simp [Worded]
  · simp [Worded]
  refine List.forall_mem_cons.2 ⟨.inl rfl, List.forall_mem_cons.2 ⟨.inr ?_, ?_⟩⟩
  · exact ⟨known, fun _ => .first hknown _, .inr ⟨key, hkey, .inl rfl⟩⟩
  have hsub (all : List Exchange) (first second : Exchange) : all ⊆ first :: second :: all :=
    fun _ hx => List.mem_cons_of_mem _ (List.mem_cons_of_mem _ hx)
  rcases hchecked with ⟨e, -, rfl, -⟩ | ⟨output, -, -, rfl, -⟩ |
    ⟨output, n, -, -, ⟨-, -, rfl, -⟩ | ⟨-, -, inner, hinner, -⟩ | ⟨-, inner, hinner, -⟩⟩
  · simp
  · simp
  · simp
  · intro x hx
    refine (worded_updateByKey hinner x hx).imp_right ?_
    rintro ⟨found, hfound, key, hkey, hbesides, hsql⟩
    exact ⟨found, fun _ => (hfound rfl).mono (hsub _ _ _), .inr ⟨key, hkey, .inr ⟨hbesides, hsql⟩⟩⟩
  · intro x hx
    refine (worded_insert hinner x hx).imp_right ?_
    rintro ⟨found, hfound, hsql⟩
    exact ⟨found, fun _ => (hfound rfl).mono (hsub _ _ _), .inl hsql⟩

theorem worded_updateWhere {filter : Filter} {result : Except Error (Executed (Option UInt64))}
    (h : (Session.updateWhere style table row filter).Path steps result) :
    (updateWhere row filter).Worded style table (exchangesOf steps) := by
  rcases Session.path_updateWhere h with ⟨-, rfl, -⟩ | ⟨-, -, rfl, -⟩ |
    ⟨hpredicate, hrow, reply, rfl, -⟩
  · simp [Worded]
  · simp [Worded]
  · exact List.forall_mem_singleton.2 (.inr ⟨⟨[]⟩, nofun, hpredicate, hrow, rfl⟩)

theorem worded_delete {filter : Filter} {result : Except Error (Executed (Option UInt64))}
    (h : (Session.delete style table filter).Path steps result) :
    (delete filter).Worded style table (exchangesOf steps) := by
  rcases Session.path_delete h with ⟨-, rfl, -⟩ | ⟨hpredicate, reply, rfl, -⟩
  · simp [Worded]
  · exact List.forall_mem_singleton.2 (.inr ⟨⟨[]⟩, nofun, hpredicate, rfl⟩)

/-- Whatever is written, and however the statements are answered, nothing else is issued. -/
theorem worded (call : Writing α) {result : Except Error (Executed α)}
    (h : (call.session style table).Path steps result) :
    call.Worded style table (exchangesOf steps) := by
  cases call with
  | insert row => exact worded_insert h
  | updateWhere row filter => exact worded_updateWhere h
  | updateByKey row => exact worded_updateByKey h
  | upsert row => exact worded_upsert h
  | delete filter => exact worded_delete h

end Writing
end QueryLayer
