import Mathlib.Data.List.Basic

/-!
# Phrases

A phrase is a text before its values are written out: pieces that stand as they are, and places that
hold a value each. Without the values only its skeleton is left, and the phrase is the skeleton with
the literals of its values filled in, one after the other.
-/
namespace QueryLayer

variable {ν μ : Type}

/-- A piece of a phrase. -/
inductive Piece (ν : Type) where
  /-- Text that stands as it is. -/
  | text (s : String)
  /-- The place of a value. -/
  | value (v : ν)
  deriving DecidableEq

/-- A piece with another value in its place. -/
def Piece.map (g : ν → μ) : Piece ν → Piece μ
  | text s => text s
  | value v => value (g v)

/-- Pieces one after the other. -/
abbrev Phrase (ν : Type) := List (Piece ν)

/-- A phrase whose places are empty. -/
abbrev Skeleton := Phrase Unit

namespace Phrase

/-- Fixed text. -/
def text (s : String) : Phrase ν := [.text s]

/-- One value. -/
def value (v : ν) : Phrase ν := [.value v]

/-- Phrases with a text between each two. -/
def listed (mark : String) (phrases : List (Phrase ν)) : Phrase ν := (text mark).intercalate phrases

/-- A phrase as text, its values written as literals. -/
def write (literal : ν → String) : Phrase ν → String
  | [] => ""
  | .text s :: rest => s ++ write literal rest
  | .value v :: rest => literal v ++ write literal rest

/-- The values of a phrase, in their order. -/
def values : Phrase ν → List ν
  | [] => []
  | .text _ :: rest => values rest
  | .value v :: rest => v :: values rest

/-- A phrase with other values in the same places. -/
def map (g : ν → μ) (phrase : Phrase ν) : Phrase μ := List.map (Piece.map g) phrase

/-- What is left of a phrase without its values. -/
def skeleton (phrase : Phrase ν) : Skeleton := phrase.map fun _ => ()

/-- The number of empty places. -/
def places (skeleton : Skeleton) : Nat := (values skeleton).length

/-- A skeleton as text, with texts filled into its places from left to right. -/
def fill : Skeleton → List String → String
  | [], _ => ""
  | .text s :: rest, filling => s ++ fill rest filling
  | .value () :: rest, first :: filling => first ++ fill rest filling
  | .value () :: rest, [] => fill rest []

variable (literal : ν → String) (g : ν → μ)

@[simp] theorem write_text (s : String) : write literal (text s) = s := by simp [write, text]
@[simp] theorem write_value (v : ν) : write literal (value v) = literal v := by simp [write, value]
@[simp] theorem values_text (s : String) : values (text s : Phrase ν) = [] := rfl
@[simp] theorem values_value (v : ν) : values (value v) = [v] := rfl
@[simp] theorem map_text (s : String) : map g (text s) = text s := rfl
@[simp] theorem map_value (v : ν) : map g (value v) = value (g v) := rfl

@[simp] theorem write_append (p q : Phrase ν) :
    write literal (p ++ q) = write literal p ++ write literal q := by
  induction p with
  | nil => simp [write]
  | cons piece p ih => cases piece <;> simp [write, ih, String.append_assoc]

@[simp] theorem values_append (p q : Phrase ν) : values (p ++ q) = values p ++ values q := by
  induction p with
  | nil => rfl
  | cons piece p ih => cases piece <;> simp [values, ih]

@[simp] theorem map_append (p q : Phrase ν) : map g (p ++ q) = map g p ++ map g q :=
  List.map_append

@[simp] theorem listed_singleton (mark : String) (phrase : Phrase ν) :
    listed mark [phrase] = phrase := List.intercalate_singleton

theorem listed_cons_cons (mark : String) (first second : Phrase ν) (rest : List (Phrase ν)) :
    listed mark (first :: second :: rest) = first ++ text mark ++ listed mark (second :: rest) :=
  List.intercalate_cons_cons

@[simp] theorem write_listed (mark : String) (phrases : List (Phrase ν)) :
    write literal (listed mark phrases) = mark.intercalate (phrases.map (write literal)) := by
  induction phrases with
  | nil => rfl
  | cons first rest ih =>
    cases rest with
    | nil => simp
    | cons second rest =>
      rw [listed_cons_cons, write_append, write_append, write_text, ih]
      simp only [List.map_cons, String.intercalate_cons_cons]

@[simp] theorem values_listed (mark : String) (phrases : List (Phrase ν)) :
    values (listed mark phrases) = phrases.flatMap values := by
  induction phrases with
  | nil => rfl
  | cons first rest ih =>
    cases rest with
    | nil => simp
    | cons second rest => simp [listed_cons_cons, ih]

@[simp] theorem map_listed (mark : String) (phrases : List (Phrase ν)) :
    map g (listed mark phrases) = listed mark (phrases.map (map g)) := by
  induction phrases with
  | nil => rfl
  | cons first rest ih =>
    cases rest with
    | nil => simp
    | cons second rest => simpa [listed_cons_cons] using ih

end Phrase
end QueryLayer
