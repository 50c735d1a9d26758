import Mathlib.Data.String.Basic
import QueryLayer.Monitor.Logging
import QueryLayer.Monitor.Trace

/-!
# Statements cut to a width

A text is cut at a position of its UTF-8 form, the last one up to the limit that is not inside a
character. The part in front of it is the longest that fits, and where something was cut the next
character would not have fitted. Logs and traces cut alike.
-/
namespace QueryLayer

namespace Text

/-- The last position at `n` or before it that is not inside a character, looked for backward. -/
def boundary (s : String) : Nat → Nat
  | 0 => 0
  | n + 1 => if String.Pos.Raw.isValid s ⟨n + 1⟩ then n + 1 else boundary s n

/-- A text cut to a number of bytes. -/
structure CutTo (limit : Nat) (s t : String) : Prop where
  /-- What is kept are the bytes up to a position, and they make up whole characters. -/
  bytes : t.toByteArray = s.toByteArray.extract 0 (boundary s limit)
  isPrefix : t.toList <+: s.toList
  size_le : t.utf8ByteSize ≤ limit
  /-- Nothing longer fits. -/
  longest : ∀ p : String, p.toList <+: s.toList → p.utf8ByteSize ≤ limit → p.toList <+: t.toList
  /-- All is kept just where it fits. -/
  eq_iff : t = s ↔ s.utf8ByteSize ≤ limit
  /-- The first character that is not kept does not fit. -/
  next : ∀ c, t.toList ++ [c] <+: s.toList → limit < t.utf8ByteSize + c.utf8Size

/-- A text as it is shown: whole without a limit or within it, else cut and marked. -/
inductive Shows : Option Nat → String → String → Prop
  | unlimited (s : String) : Shows none s s
  | whole {limit : Nat} {s : String} (h : s.utf8ByteSize ≤ limit) : Shows (some limit) s s
  | cut {limit : Nat} {s t : String} (h : limit < s.utf8ByteSize) (ht : CutTo limit s t) :
      Shows (some limit) s (t ++ "...")

theorem width_eq (cs : List Char) : width cs = (String.ofList cs).utf8ByteSize := by
  rw [String.utf8ByteSize_ofList]
  induction cs with
  | nil => rfl
  | cons c cs ih => simp [ih, Nat.add_comm]

theorem width_toList (s : String) : width s.toList = s.utf8ByteSize := by
  rw [width_eq, String.ofList_toList]

theorem width_append (cs ds : List Char) : width (cs ++ ds) = width cs + width ds := by
  induction cs with
  | nil => simp
  | cons c cs ih => simp [ih, Nat.add_assoc]

/-! ## What fits -/

section Fitting
variable (limit : Nat) (cs : List Char)

theorem fitting_isPrefix : fitting limit cs <+: cs := by
  induction cs generalizing limit with
  | nil => exact List.nil_prefix
  | cons c cs ih =>
    rw [fitting]
    split
    · exact List.cons_prefix_cons.2 ⟨rfl, ih _⟩
    · exact List.nil_prefix

/-- Characters that fit together are kept. -/
theorem isPrefix_fitting {p : List Char} (hp : p <+: cs) (h : width p ≤ limit) :
    p <+: fitting limit cs := by
  induction cs generalizing limit p with
  | nil => exact hp
  | cons c cs ih =>
    cases p with
    | nil => exact List.nil_prefix
    | cons d p =>
      obtain ⟨rfl, htail⟩ := List.cons_prefix_cons.1 hp
      rw [width_cons] at h
      have hfirst : d.utf8Size ≤ limit := by omega
      rw [fitting, if_pos hfirst]
      exact List.cons_prefix_cons.2 ⟨rfl, ih _ htail (by omega)⟩

/-- A character more and the limit is exceeded. -/
theorem lt_width_of_next {c : Char} (h : fitting limit cs ++ [c] <+: cs) :
    limit < width (fitting limit cs) + c.utf8Size := by
  by_contra hle
  have hwidth : width (fitting limit cs ++ [c]) ≤ limit := by
    rw [width_append, width_cons, width_nil]
    omega
  have := (isPrefix_fitting limit cs h hwidth).length_le
  rw [List.length_append, List.length_singleton] at this
  omega

end Fitting

/-! ## Where a text is cut -/

/-- The search stops at a position that no other one up to the limit comes after. -/
theorem boundary_eq {s : String} {k n : Nat} (hk : String.Pos.Raw.IsValid s ⟨k⟩) (hkn : k ≤ n)
    (hlast : ∀ m, String.Pos.Raw.IsValid s ⟨m⟩ → m ≤ n → m ≤ k) : boundary s n = k := by
  induction n with
  | zero => exact (Nat.le_zero.1 hkn).symm
  | succ n ih =>
    rw [boundary]
    split
    · next hvalid =>
      have := hlast _ (String.Pos.Raw.isValid_eq_true_iff.1 hvalid) (Nat.le_refl _)
      omega
    · next hinside =>
      have hne : k ≠ n + 1 := by
        rintro rfl
        exact hinside (String.Pos.Raw.isValid_eq_true_iff.2 hk)
      exact ih (by omega) fun m hm hmn => hlast m hm (by omega)

variable (limit : Nat) (s : String)

theorem exists_eq_fitting_append :
    ∃ rest, s = String.ofList (fitting limit s.toList) ++ rest := by
  obtain ⟨rest, hrest⟩ := fitting_isPrefix limit s.toList
  refine ⟨String.ofList rest, ?_⟩
  rw [← String.ofList_append, hrest, String.ofList_toList]

/-- The position is the end of what fits. -/
theorem boundary_eq_size :
    boundary s limit = (String.ofList (fitting limit s.toList)).utf8ByteSize := by
  obtain ⟨rest, hrest⟩ := exists_eq_fitting_append limit s
  rw [← width_eq]
  refine boundary_eq ?_ (width_fitting_le limit s.toList) fun m hm hle => ?_
  · refine String.Pos.Raw.isValid_iff_exists_append.2 ⟨_, rest, hrest, ?_⟩
    rw [width_eq]
    rfl
  · obtain ⟨front, back, hs, hfront⟩ := String.Pos.Raw.isValid_iff_exists_append.1 hm
    have hsize : m = width front.toList := by
      rw [width_toList]
      exact congrArg String.Pos.Raw.byteIdx hfront
    have hprefix : front.toList <+: s.toList := by
      rw [hs, String.toList_append]
      exact List.prefix_append _ _
    obtain ⟨more, hmore⟩ := isPrefix_fitting limit _ hprefix (hsize ▸ hle)
    rw [← hmore, width_append]
    omega

/-- What fits are the bytes in front of the position. -/
theorem toByteArray_fitting : (String.ofList (fitting limit s.toList)).toByteArray =
    s.toByteArray.extract 0 (boundary s limit) := by
  obtain ⟨rest, hrest⟩ := exists_eq_fitting_append limit s
  rw [boundary_eq_size]
  generalize String.ofList (fitting limit s.toList) = t at hrest ⊢
  rw [hrest, String.toByteArray_append]
  exact (ByteArray.extract_append_eq_left rfl).symm

/-- All of a text fits just where it is within the limit. -/
theorem ofList_fitting_eq_iff :
    String.ofList (fitting limit s.toList) = s ↔ s.utf8ByteSize ≤ limit := by
  constructor
  · intro h
    have hwidth := width_fitting_le limit s.toList
    rwa [width_eq, h] at hwidth
  · intro h
    have hall := isPrefix_fitting limit s.toList List.prefix_rfl (by rwa [width_toList])
    rw [(fitting_isPrefix limit s.toList).eq_of_length_le hall.length_le, String.ofList_toList]

theorem cutTo_fitting : CutTo limit s (String.ofList (fitting limit s.toList)) where
  bytes := toByteArray_fitting limit s
  isPrefix := by
    rw [String.toList_ofList]
    exact fitting_isPrefix limit s.toList
  size_le := by
    rw [← width_eq]
    exact width_fitting_le limit s.toList
  longest p hp hsize := by
    rw [String.toList_ofList]
    exact isPrefix_fitting limit s.toList hp (by rwa [width_toList])
  eq_iff := ofList_fitting_eq_iff limit s
  next c hc := by
    rw [String.toList_ofList] at hc
    rw [← width_eq]
    exact lt_width_of_next limit s.toList hc

/-- A text is shown whole where it may be, and cut to the limit elsewhere. -/
theorem shows_abbreviate (limit : Option Nat) (s : String) : Shows limit s (abbreviate limit s) := by
  cases limit with
  | none => exact .unlimited s
  | some limit =>
    rw [abbreviate, width_toList]
    split
    · next hfits => exact .whole hfits
    · next hlong => exact .cut (Nat.lt_of_not_le hlong) (cutTo_fitting limit s)

end Text

/-- What a log and a trace of the same width have of a statement. -/
structure Logging.ShowsAlike (logging : Logging) (context : Context) (elapsed : Duration)
    (outcome : Outcome) (shown : String) : Prop where
  complete_line : logging.line? (.complete context elapsed outcome) =
    if logging.fastest.all (· ≤ elapsed) then
      some (logging.marker ++ " " ++ context.kind.name ++ " " ++ context.label ++ " in " ++
        elapsed.text ++ " (" ++ outcome.text ++ "): " ++ shown)
    else none
  slow_line : logging.line? (.slow context elapsed outcome) =
    some (logging.marker ++ " slow " ++ context.kind.name ++ " took " ++ elapsed.text ++ ": " ++
      shown)
  complete_trace : (Trace.ofCallback? logging.width (.complete context elapsed outcome)).map
    (·.fields.lookup "sql") = some (some shown)
  slow_trace : (Trace.ofCallback? logging.width (.slow context elapsed outcome)).map
    (·.fields.lookup "sql") = some (some shown)

/-- **Statements are cut between characters, and alike wherever they are shown.** At any limit the
longest part of a text that fits is kept, all of it just where it fits. A log and a trace of the same
width have the same text of a statement: the statement itself, or that part of it and a mark. -/
theorem Logging.showsAlike_abbreviate (logging : Logging) (context : Context) (elapsed : Duration)
    (outcome : Outcome) :
    (∀ limit s, Text.CutTo limit s (String.ofList (Text.fitting limit s.toList))) ∧
      ∃ shown, Text.Shows logging.width context.sql shown ∧
        logging.ShowsAlike context elapsed outcome shown := by
  refine ⟨Text.cutTo_fitting, Text.abbreviate logging.width context.sql,
    Text.shows_abbreviate logging.width context.sql, ?_⟩
  constructor
  · rfl
  · rfl
  · rfl
  · rfl

end QueryLayer
