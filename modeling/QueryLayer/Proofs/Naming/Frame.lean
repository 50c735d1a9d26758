import Mathlib.Data.List.Forall2
import QueryLayer.Proofs.Naming.Relation

/-!
# The frames of catalog statements

A name gets into a catalog statement as a name, or as the literal of a part of it. Whatever
characters it has, it stays inside the tokens that are there for it: what a server reads before and
after them is the same for all names that are written alike, quoted, bare, or bare with a dot.
-/
namespace QueryLayer
open Reading Identifier

/-- The ways to write a name. -/
inductive NameClass where
  /-- Between quotes. -/
  | quoted
  /-- Bare, without a dot. -/
  | plain
  /-- Bare, with a dot. -/
  | dotted
  deriving Repr, DecidableEq

/-- The way a name is written. -/
def NameClass.of (name : String) : NameClass :=
  if isBare name then if '.' ∈ name.toList then dotted else plain else quoted

theorem NameClass.isBare_of_eq_quoted {name : String} (h : NameClass.of name = .quoted) :
    isBare name = false := by
  unfold NameClass.of at h
  split_ifs at h with hbare
  exact Bool.eq_false_iff.2 hbare

theorem NameClass.isBare_of_ne_quoted {name : String} (h : NameClass.of name ≠ .quoted) :
    isBare name = true := by
  unfold NameClass.of at h
  split_ifs at h with hbare hdot
  · exact hbare
  · exact hbare
  · exact absurd rfl h

/-- What a literal can hold of a name. -/
inductive NamePart where
  /-- The name as it is. -/
  | whole
  /-- The name in lower case. -/
  | folded
  /-- What is before the first dot, in lower case. -/
  | qualifier
  /-- What is after the first dot, in lower case. -/
  | unqualified
  deriving Repr, DecidableEq

namespace NamePart

/-- A part of a name. -/
def of (name : String) : NamePart → String
  | whole => name
  | folded => String.ofList (name.toList.map Char.toLower)
  | qualifier => String.ofList ((name.toList.map Char.toLower).takeWhile (· ≠ '.'))
  | unqualified => String.ofList ((name.toList.map Char.toLower).dropWhile (· ≠ '.')).tail

end NamePart

/-- The tokens that can be there for a name. -/
inductive Token.Carries (name : String) : Token → Prop
  | word : Token.Carries name (.word name)
  | quoted : Token.Carries name (.quoted name)
  | literal (part : NamePart) : Token.Carries name (.literal (part.of name))

/-- Tokens of two statements that are the same, or that carry the same part of two names in the same
way. -/
inductive Token.Alike (name name' : String) : Token → Token → Prop
  | same (token : Token) : Token.Alike name name' token token
  | word : Token.Alike name name' (.word name) (.word name')
  | quoted : Token.Alike name name' (.quoted name) (.quoted name')
  | literal (part : NamePart) : Token.Alike name name' (.literal (part.of name))
      (.literal (part.of name'))

/-- A token before a name is put in its place. -/
inductive Slot where
  /-- The same for every name. -/
  | fixed (token : Token)
  /-- A bare name. -/
  | word
  /-- A quoted name. -/
  | quoted
  /-- The literal of a part of a name. -/
  | literal (part : NamePart)
  deriving Repr, DecidableEq

namespace Slot

/-- Whether a name has its place here. -/
def isPlace : Slot → Bool
  | fixed _ => false
  | word | quoted | literal _ => true

/-- A token with a name in its place. -/
def fill (name : String) : Slot → Token
  | fixed token => token
  | word => .word name
  | quoted => .quoted name
  | literal part => .literal (part.of name)

theorem alike_fill (name name' : String) (slot : Slot) :
    Token.Alike name name' (slot.fill name) (slot.fill name') := by
  cases slot with
  | fixed token => exact .same token
  | word => exact .word
  | quoted => exact .quoted
  | literal part => exact .literal part

theorem carries_fill (name : String) {slot : Slot} (h : slot.isPlace = true) :
    Token.Carries name (slot.fill name) := by
  cases slot with
  | fixed token => cases h
  | word => exact .word
  | quoted => exact .quoted
  | literal part => exact .literal part

/-- Fixed tokens are the same for every name. -/
theorem map_fill_fixed (name : String) (tokens : List Token) :
    (tokens.map fixed).map (fill name) = tokens := by
  rw [List.map_map]
  exact List.map_id tokens

end Slot

/-- The statements about the schema that take a name. -/
inductive NamedStatement : Type 1 where
  /-- The statement of a question about a table. -/
  | about {α : Type} (question : TableQuestion α)
  /-- The tables of a database. -/
  | tablesOf

/-- The statement for a name. -/
def NamedStatement.sql (style : Style) (name : String) : NamedStatement → String
  | about question => question.sql style name
  | tablesOf => Catalog.tablesOf style name

/-! ## Frames -/

variable (dialect : Dialect) (kind : NameClass)

/-- A text with a name in it that is always read as these slots, before a blank or the end. -/
def Fits (operand : String → String) (slots : List Slot) : Prop := ∀ name,
  NameClass.of name = kind →
    Token.Gives dialect (operand name).toList (slots.map (Slot.fill name))

/-- A text that is the place of a name. -/
def Holds (operand : String → String) : Prop :=
  ∃ slot : Slot, slot.isPlace = true ∧ Fits dialect kind operand [slot]

/-- A text that is always read as the same slots, one of them the place of a name. -/
def Framed (text : String → String) : Prop := ∃ slots : List Slot,
  (∃ slot ∈ slots, slot.isPlace = true) ∧ ∀ name, NameClass.of name = kind →
    Token.readAll? dialect (text name).toList = some (slots.map (Slot.fill name))

variable {dialect kind}

/-- A text that has come to its end and an operand are read as their slots, and then the rest is
read. -/
theorem readAll?_fits {opening : String} {operand : String → String} {slots : List Slot}
    {tokens : List Token} (hopening : Token.readSettled? dialect opening.toList = some tokens)
    (hoperand : Fits dialect kind operand slots) {name : String} (hname : NameClass.of name = kind)
    {rest : String} (hrest : Spaced rest.toList) :
    Token.readAll? dialect (opening ++ operand name ++ rest).toList =
      (Token.readAll? dialect rest.toList).map
        ((tokens.map Slot.fixed ++ slots).map (Slot.fill name) ++ ·) := by
  rw [String.toList_append, String.toList_append,
    Token.readAll?_operand dialect hopening (hoperand name hname) hrest, List.map_append,
    Slot.map_fill_fixed]

/-- A frame with one more operand in front. -/
theorem Framed.operand {opening : String} {operand tail : String → String} {slots : List Slot}
    (hopening : (Token.readSettled? dialect opening.toList).isSome = true)
    (hoperand : Fits dialect kind operand slots) (htail : Framed dialect kind tail)
    (hspaced : ∀ name, Spaced (tail name).toList) :
    Framed dialect kind fun name => opening ++ operand name ++ tail name := by
  obtain ⟨tokens, htokens⟩ := Option.isSome_iff_exists.1 hopening
  obtain ⟨others, ⟨slot, hslot, hplace⟩, hothers⟩ := htail
  refine ⟨tokens.map .fixed ++ slots ++ others, ⟨slot, by simp [hslot], hplace⟩,
    fun name hname => ?_⟩
  rw [readAll?_fits htokens hoperand hname (hspaced name), hothers name hname, Option.map_some,
    ← List.map_append]

/-- A frame with one operand, before a fixed text. -/
theorem Framed.closed {opening closing : String} {text operand : String → String}
    (htext : ∀ name, text name = opening ++ operand name ++ closing)
    (hoperand : Holds dialect kind operand)
    (hopening : (Token.readSettled? dialect opening.toList).isSome = true)
    (hclosing : (Token.readAll? dialect closing.toList).isSome = true)
    (hspaced : Spaced closing.toList) : Framed dialect kind text := by
  obtain ⟨tokens, htokens⟩ := Option.isSome_iff_exists.1 hopening
  obtain ⟨behind, hbehind⟩ := Option.isSome_iff_exists.1 hclosing
  obtain ⟨slot, hplace, hslot⟩ := hoperand
  refine ⟨tokens.map .fixed ++ [slot] ++ behind.map .fixed, ⟨slot, by simp, hplace⟩,
    fun name hname => ?_⟩
  rw [htext, readAll?_fits htokens hslot hname hspaced, hbehind, Option.map_some]
  simp only [List.map_append, Slot.map_fill_fixed]

/-- A frame that ends with its operand. -/
theorem Framed.ending {opening : String} {operand : String → String}
    (hopening : (Token.readSettled? dialect opening.toList).isSome = true)
    (hoperand : Holds dialect kind operand) :
    Framed dialect kind fun name => opening ++ operand name := by
  have hempty : (Token.readAll? dialect "".toList).isSome = true := by simp [Token.readAll?]
  exact .closed (fun _ => String.append_empty.symm) hoperand hopening hempty .nil

/-! ## Operands -/

theorem Fits.congr {f g : String → String} {slots : List Slot} (hg : Fits dialect kind g slots)
    (heq : ∀ name, NameClass.of name = kind → f name = g name) : Fits dialect kind f slots := by
  intro name hname
  rw [heq name hname]
  exact hg name hname

theorem Holds.congr {f g : String → String} (hg : Holds dialect kind g)
    (heq : ∀ name, NameClass.of name = kind → f name = g name) : Holds dialect kind f := by
  obtain ⟨slot, hplace, hslot⟩ := hg
  exact ⟨slot, hplace, hslot.congr heq⟩

theorem holds_name : Holds dialect kind (Style.ofDialect dialect).name := by
  by_cases hkind : kind = .quoted
  · refine ⟨.quoted, rfl, fun name hname => ?_⟩
    have hgives := Token.gives_name dialect name
    rwa [Token.ofName, NameClass.isBare_of_eq_quoted (hname.trans hkind)] at hgives
  · refine ⟨.word, rfl, fun name hname => ?_⟩
    have hgives := Token.gives_name dialect name
    rwa [Token.ofName, NameClass.isBare_of_ne_quoted (hname.trans_ne hkind), if_pos rfl] at hgives

theorem holds_text (part : NamePart) :
    Holds dialect kind fun name => (Style.ofDialect dialect).text (part.of name) := by
  refine ⟨.literal part, rfl, fun name _ => ?_⟩
  have hgives := Token.gives_text dialect (part.of name)
  rwa [← Style.text_ofDialect] at hgives

/-- The operand for the current schema has no place for a name. -/
theorem fits_current : Fits .postgres kind (fun _ => "current_schema()")
    ([Token.word "current_schema", .sign '(', .sign ')'].map .fixed) := by
  have hgives : Token.Gives .postgres "current_schema()".toList
      [.word "current_schema", .sign '(', .sign ')'] :=
    .of_settled (by decide +kernel) (by decide +kernel)
  intro name _
  rwa [Slot.map_fill_fixed]

section Scope
variable {style : Style} {name : String}

theorem scope_of_quoted (h : NameClass.of name = .quoted) :
    Catalog.Scope.of style name = ⟨"current_schema()", style.text name⟩ := by
  simp [Catalog.Scope.of, NameClass.isBare_of_eq_quoted h]

/-- A name is cut at its first dot; no letter is folded to a dot. -/
theorem cut?_folded (name : String) :
    Text.cut? ['.'] (name.toList.map Char.toLower) =
      if '.' ∈ name.toList then
        some ((name.toList.map Char.toLower).takeWhile (· ≠ '.'),
          ((name.toList.map Char.toLower).dropWhile (· ≠ '.')).tail)
      else none := by
  have hmem : '.' ∈ name.toList.map Char.toLower ↔ '.' ∈ name.toList := by
    simp [List.mem_map, toLower_eq_dot_iff]
  rw [Text.cut?_singleton]
  simp only [hmem]

theorem scope_of_plain (h : NameClass.of name = .plain) :
    Catalog.Scope.of style name =
      ⟨"current_schema()", style.text (NamePart.folded.of name)⟩ := by
  unfold NameClass.of at h
  split_ifs at h with hbare hdot
  have hcut := cut?_folded name
  rw [if_neg hdot] at hcut
  simp [Catalog.Scope.of, hbare, hcut, NamePart.of]

theorem scope_of_dotted (h : NameClass.of name = .dotted) :
    Catalog.Scope.of style name =
      ⟨style.text (NamePart.qualifier.of name), style.text (NamePart.unqualified.of name)⟩ := by
  unfold NameClass.of at h
  split_ifs at h with hbare hdot
  have hcut := cut?_folded name
  rw [if_pos hdot] at hcut
  simp only [Catalog.Scope.of, hbare, hcut, NamePart.of, if_true]

end Scope

/-- The operand for a schema. -/
theorem exists_fits_schema : ∃ slots, Fits .postgres kind
    (fun name => (Catalog.Scope.of (.ofDialect .postgres) name).schema) slots := by
  cases kind with
  | quoted => exact ⟨_, fits_current.congr fun name hname => by rw [scope_of_quoted hname]⟩
  | plain => exact ⟨_, fits_current.congr fun name hname => by rw [scope_of_plain hname]⟩
  | dotted =>
    obtain ⟨slot, -, hslot⟩ := @holds_text .postgres .dotted .qualifier
    exact ⟨[slot], hslot.congr fun name hname => by rw [scope_of_dotted hname]⟩

/-- The operand for a table. -/
theorem holds_table : Holds .postgres kind fun name =>
    (Catalog.Scope.of (.ofDialect .postgres) name).table := by
  cases kind with
  | quoted => exact (holds_text .whole).congr fun name hname => by rw [scope_of_quoted hname]; rfl
  | plain => exact (holds_text .folded).congr fun name hname => by rw [scope_of_plain hname]
  | dotted =>
    exact (holds_text .unqualified).congr fun name hname => by rw [scope_of_dotted hname]

/-- The operand for a name without a qualifier. -/
theorem holds_foldedText : Holds .postgres kind (Catalog.foldedText (.ofDialect .postgres)) := by
  by_cases hkind : kind = .quoted
  · refine (holds_text .whole).congr fun name hname => ?_
    rw [Catalog.foldedText, NameClass.isBare_of_eq_quoted (hname.trans hkind)]
    rfl
  · refine (holds_text .folded).congr fun name hname => ?_
    rw [Catalog.foldedText, NameClass.isBare_of_ne_quoted (hname.trans_ne hkind), if_pos rfl]
    rfl

/-! ## Statements -/

/-- The statement of a question has two operands on PostgreSQL. -/
theorem TableQuestion.framed_postgres {α : Type} (question : TableQuestion α) :
    Framed .postgres kind fun name => question.sql (.ofDialect .postgres) name := by
  obtain ⟨before, -, hopening, hsql⟩ := question.sql_eq
  have hbetween : (Token.readSettled? .postgres question.place.between.toList).isSome = true := by
    cases question <;> decide +kernel
  have hclosing : (Token.readAll? .postgres question.place.closing.toList).isSome = true := by
    cases question <;> decide +kernel
  have hspaced (name : String) : Spaced (question.place.between ++
      (Catalog.Scope.of (.ofDialect .postgres) name).table ++ question.place.closing).toList := by
    rw [String.append_assoc]
    cases question <;> exact .of_keyword rfl _
  have hend : Spaced question.place.closing.toList := by
    cases question <;> simp [place]
  obtain ⟨slots, hschema⟩ := @exists_fits_schema kind
  have htable := Framed.closed (fun _ => rfl) (@holds_table kind) hbetween hclosing hend
  have hframed := Framed.operand hopening hschema htable hspaced
  simpa only [hsql, String.append_assoc] using hframed

theorem TableQuestion.sql_primaryKey (name : String) : primaryKey.sql (.ofDialect .mysql) name =
    "SHOW KEYS FROM " ++ (Style.ofDialect .mysql).name name ++ " WHERE Key_name = 'PRIMARY'" := by
  have hkey : (Style.ofDialect .mysql).text "PRIMARY" = "'PRIMARY'" := by
    rw [Style.text_ofDialect]
    decide
  have hclosing : " WHERE Key_name = 'PRIMARY'" = " WHERE Key_name = " ++ "'PRIMARY'" := by decide
  rw [hclosing, ← hkey, ← String.append_assoc]
  rfl

/-- The statement of a question has one operand on MySQL. -/
theorem TableQuestion.framed_mysql {α : Type} (question : TableQuestion α) :
    Framed .mysql kind fun name => question.sql (.ofDialect .mysql) name := by
  cases question
  case columns => exact .ending (by decide +kernel) holds_name
  case indexes => exact .ending (by decide +kernel) holds_name
  case tableStatus => exact .ending (by decide +kernel) (holds_text .whole)
  case primaryKey =>
    exact .closed sql_primaryKey holds_name (by decide +kernel) (by decide +kernel) (by simp)
  all_goals
    refine .closed (fun _ => rfl) (holds_text .whole) ?_ (by decide +kernel) (by simp)
    simp only [String.toList_append]
    repeat rw [String.toList_ofList]
    decide +kernel

/-- The statement for the tables of a database has one operand. -/
theorem framed_tablesOf :
    Framed dialect kind fun name => Catalog.tablesOf (.ofDialect dialect) name := by
  cases dialect with
  | mysql =>
    have hsql (name : String) : Catalog.tablesOf (.ofDialect .mysql) name =
        Catalog.mysqlTables ++ " WHERE TABLE_SCHEMA = " ++ (Style.ofDialect .mysql).text name := rfl
    simp only [hsql]
    refine .ending ?_ (holds_text .whole)
    delta Catalog.mysqlTables
    simp only [String.toList_append]
    repeat rw [String.toList_ofList]
    decide +kernel
  | postgres =>
    have hsql (name : String) : Catalog.tablesOf (.ofDialect .postgres) name =
        Catalog.postgresTables ++ " WHERE t.table_catalog = " ++
          Catalog.foldedText (.ofDialect .postgres) name ++
            " AND t.table_schema NOT IN ('pg_catalog', 'information_schema') " ++
              "ORDER BY t.table_name" := rfl
    refine .closed (fun name => (hsql name).trans String.append_assoc) holds_foldedText ?_ ?_
      (.of_keyword rfl _)
    · delta Catalog.postgresTables
      simp only [String.toList_append]
      repeat rw [String.toList_ofList]
      decide +kernel
    · decide +kernel

/-- Every statement about the schema has its name in a frame. -/
theorem NamedStatement.framed (statement : NamedStatement) :
    Framed dialect kind fun name => statement.sql (.ofDialect dialect) name := by
  cases statement with
  | about question =>
    cases dialect with
    | mysql => exact question.framed_mysql
    | postgres => exact question.framed_postgres
  | tablesOf => exact framed_tablesOf

/-- **No name changes the structure of a catalog statement.** The statements for two names that are
written alike are taken apart into as many tokens, and these are the same in both but for those that
carry the one name, or a part of it, where the other statement carries the same of the other name.
There is such a token. -/
theorem NamedStatement.exists_alike (dialect : Dialect) (statement : NamedStatement)
    {name name' : String} (h : NameClass.of name = NameClass.of name') : ∃ tokens tokens',
      Token.readAll? dialect (statement.sql (.ofDialect dialect) name).toList = some tokens ∧
        Token.readAll? dialect (statement.sql (.ofDialect dialect) name').toList = some tokens' ∧
          List.Forall₂ (Token.Alike name name') tokens tokens' ∧
            ∃ token ∈ tokens, Token.Carries name token := by
  obtain ⟨slots, ⟨slot, hslot, hplace⟩, hslots⟩ := @framed dialect (NameClass.of name') statement
  refine ⟨_, _, hslots name h, hslots name' rfl, ?_, slot.fill name, List.mem_map_of_mem hslot,
    slot.carries_fill name hplace⟩
  rw [List.forall₂_map_left_iff, List.forall₂_map_right_iff, List.forall₂_same]
  exact fun slot _ => slot.alike_fill name name'

/-- A quote that would end a literal, and a backslash that would keep one from ending. -/
theorem NamedStatement.exists_alike_marks :
    NameClass.of "x' OR ''='" = NameClass.of "\\'; -- " ∧ ∃ tokens tokens',
      Token.readAll? .postgres
          (NamedStatement.tablesOf.sql (.ofDialect .postgres) "x' OR ''='").toList = some tokens ∧
        Token.readAll? .postgres
          (NamedStatement.tablesOf.sql (.ofDialect .postgres) "\\'; -- ").toList = some tokens' ∧
          List.Forall₂ (Token.Alike "x' OR ''='" "\\'; -- ") tokens tokens' ∧
            ∃ token ∈ tokens, Token.Carries "x' OR ''='" token :=
  ⟨by decide, NamedStatement.tablesOf.exists_alike .postgres (by decide)⟩

end QueryLayer
