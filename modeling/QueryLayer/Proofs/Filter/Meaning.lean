import QueryLayer.Filter.Basic
import QueryLayer.Proofs.Text.Split

/-!
# What a filter value means

The language of conditions, said without the functions that read it. A form is told by an
equation between the text and its parts: the longest comparison sign, the members that make up
the inside of a pair of parentheses, the first pair of dots. The forms exclude each other from
the top down, so that a value means one test and no other.
-/
namespace QueryLayer
open Json (Number)

/-- What a clause of a statement asks of its column. -/
inductive Test where
  /-- Equality with a number, by its numeral. -/
  | equalsNumeral (numeral : String)
  | compares (comparison : Comparison) (operand : String)
  | oneOf (members : List String)
  | between (low high : String)
  | like (pattern : String)
  | equals (value : String)
  deriving DecidableEq

/-- What a condition asks, once a number is no more than its numeral. -/
def Condition.test : Condition → Test
  | equalsNumber n => .equalsNumeral n.text
  | compares comparison operand => .compares comparison operand
  | oneOf members => .oneOf members
  | between low high => .between low high
  | like pattern => .like pattern
  | equals value => .equals value

namespace FilterValue

/-- Whether a text begins with a comparison sign. -/
def Signed (t : String) : Prop := ∃ (c : Comparison) (operand : String), t = c.sign ++ operand

/-- Whether a text stands between parentheses. -/
def Enclosed (t : String) : Prop := ∃ inner : String, t = "(" ++ inner ++ ")"

/-- Whether a pair of dots occurs in a text. -/
def Dotted (t : String) : Prop := ∃ low high : String, t = low ++ ".." ++ high

/-- Whether a text has a wildcard. -/
def Wild (t : String) : Prop := '*' ∈ t.toList ∨ '?' ∈ t.toList

/-- The test that a value means. Of the forms of a text the first counts. -/
def Means : FilterValue → Test → Prop
  | number n, .equalsNumeral numeral => numeral = n.text
  | text t, .compares c operand =>
    t = c.sign ++ operand ∧
      ∀ (d : Comparison) (other : String), t = d.sign ++ other → d.sign.length ≤ c.sign.length
  | text t, .oneOf members =>
    ¬ Signed t ∧ t = "(" ++ ",".intercalate members ++ ")" ∧ members ≠ [] ∧
      ∀ member ∈ members, ',' ∉ member.toList
  | text t, .between low high =>
    ¬ Signed t ∧ ¬ Enclosed t ∧ t = low ++ ".." ++ high ∧
      ∀ low' high' : String, t = low' ++ ".." ++ high' → low.length ≤ low'.length
  | text t, .like pattern =>
    ¬ Signed t ∧ ¬ Enclosed t ∧ ¬ Dotted t ∧ Wild t ∧ pattern.toList = t.toList.map fun c =>
      if c = '*' then '%' else if c = '?' then '_' else c
  | text t, .equals value => ¬ Signed t ∧ ¬ Enclosed t ∧ ¬ Dotted t ∧ ¬ Wild t ∧ value = t
  | _, _ => False

end FilterValue

namespace Comparison

theorem eq_of_read? {cs rest : List Char} {c : Comparison} (h : read? cs = some (c, rest)) :
    cs = c.sign.toList ++ rest := by
  unfold read? at h
  split at h <;> cases h <;> rfl

/-- A text that begins with a sign has a comparison, of that sign or of a longer one. -/
theorem exists_read? (d : Comparison) (operand : List Char) :
    ∃ c rest, read? (d.sign.toList ++ operand) = some (c, rest) ∧
      d.sign.length ≤ c.sign.length := by
  cases d with
  | atLeast => exact ⟨atLeast, operand, rfl, Nat.le_refl _⟩
  | atMost => exact ⟨atMost, operand, rfl, Nat.le_refl _⟩
  | different => exact ⟨different, operand, rfl, Nat.le_refl _⟩
  | above =>
    cases operand with
    | nil => exact ⟨above, [], rfl, Nat.le_refl _⟩
    | cons c operand =>
      by_cases hc : c = '='
      · subst hc
        exact ⟨atLeast, operand, rfl, by decide⟩
      · exact ⟨above, c :: operand, by simp [sign, read?, hc], Nat.le_refl _⟩
  | below =>
    cases operand with
    | nil => exact ⟨below, [], rfl, Nat.le_refl _⟩
    | cons c operand =>
      by_cases hc : c = '='
      · subst hc
        exact ⟨atMost, operand, rfl, by decide⟩
      · by_cases hc' : c = '>'
        · subst hc'
          exact ⟨different, operand, rfl, by decide⟩
        · exact ⟨below, c :: operand, by simp [sign, read?, hc, hc'], Nat.le_refl _⟩

theorem read?_eq_none_iff {cs : List Char} :
    read? cs = none ↔
      ¬ ∃ (c : Comparison) (operand : List Char), cs = c.sign.toList ++ operand := by
  constructor
  · intro h hx
    rcases hx with ⟨d, operand, rfl⟩
    obtain ⟨c, rest, hread, -⟩ := exists_read? d operand
    rw [h] at hread
    cases hread
  · intro h
    cases hread : read? cs with
    | none => rfl
    | some found => exact absurd ⟨found.1, found.2, eq_of_read? hread⟩ h

/-- The sign tells the comparison. -/
theorem sign_injective {c d : Comparison} (h : c.sign = d.sign) : c = d := by
  cases c <;> cases d <;> first | rfl | exact absurd h (by decide)

/-- The comparison read is that of the longest sign. -/
theorem read?_eq_some_iff {cs rest : List Char} {c : Comparison} :
    read? cs = some (c, rest) ↔ cs = c.sign.toList ++ rest ∧
      ∀ (d : Comparison) (other : List Char), cs = d.sign.toList ++ other →
        d.sign.length ≤ c.sign.length := by
  constructor
  · intro h
    refine ⟨eq_of_read? h, ?_⟩
    rintro d other rfl
    obtain ⟨c', rest', hread, hle⟩ := exists_read? d other
    rw [h] at hread
    cases hread
    exact hle
  · intro h
    rcases h with ⟨rfl, hlongest⟩
    obtain ⟨c', rest', hread, hle⟩ := exists_read? c rest
    have hsplit := eq_of_read? hread
    have hlength : c.sign.toList.length = c'.sign.toList.length := by
      rw [String.length_toList, String.length_toList]
      exact Nat.le_antisymm hle (hlongest c' rest' hsplit)
    obtain ⟨hsign, rfl⟩ := List.append_inj hsplit hlength
    rw [hread, sign_injective (String.toList_inj.1 hsign)]

end Comparison

namespace Condition

theorem enclosed?_eq_some_iff {cs inner : List Char} :
    enclosed? cs = some inner ↔ cs = '(' :: (inner ++ [')']) := by
  constructor
  · intro h
    unfold enclosed? at h
    split at h
    · next rest =>
      split at h
      · next hlast =>
        obtain ⟨ys, rfl⟩ := List.getLast?_eq_some_iff.1 hlast
        cases h
        rw [List.dropLast_concat]
      · cases h
    · cases h
  · intro h
    subst h
    simp [enclosed?]

theorem enclosed?_eq_none_iff {cs : List Char} :
    enclosed? cs = none ↔ ¬ ∃ inner : List Char, cs = '(' :: (inner ++ [')']) := by
  simp only [← enclosed?_eq_some_iff, ← Option.isSome_iff_exists, Option.not_isSome_iff_eq_none]

end Condition

namespace FilterValue
open Condition
variable {t : String}

theorem read?_eq_none : Comparison.read? t.toList = none ↔ ¬ Signed t := by
  rw [Comparison.read?_eq_none_iff, Signed]
  refine not_congr ⟨?_, ?_⟩
  · intro h
    rcases h with ⟨c, operand, h⟩
    exact ⟨c, String.ofList operand, String.toList_inj.1 (by simpa using h)⟩
  · intro h
    rcases h with ⟨c, operand, rfl⟩
    exact ⟨c, operand.toList, String.toList_append⟩

theorem enclosed?_eq_none : enclosed? t.toList = none ↔ ¬ Enclosed t := by
  rw [enclosed?_eq_none_iff, Enclosed]
  refine not_congr ⟨?_, ?_⟩
  · intro h
    rcases h with ⟨inner, h⟩
    exact ⟨String.ofList inner, String.toList_inj.1 (by simpa using h)⟩
  · intro h
    rcases h with ⟨inner, rfl⟩
    exact ⟨inner.toList, by simp⟩

theorem cut?_eq_none : Text.cut? ['.', '.'] t.toList = none ↔ ¬ Dotted t := by
  rw [Text.cut?_eq_none_iff, Dotted]
  refine not_congr ⟨?_, ?_⟩
  · intro h
    rcases h with ⟨low, high, h⟩
    exact ⟨String.ofList low, String.ofList high, String.toList_inj.1 (by simpa using h)⟩
  · intro h
    rcases h with ⟨low, high, rfl⟩
    exact ⟨low.toList, high.toList, by simp⟩

/-- The members of a set are the pieces of its inside. -/
theorem pieces_eq {inner : List Char} {members : List String} :
    (Text.pieces ',' inner).map String.ofList = members ↔
      inner = (",".intercalate members).toList ∧ members ≠ [] ∧
        ∀ member ∈ members, ',' ∉ member.toList := by
  have hmap : (Text.pieces ',' inner).map String.ofList = members ↔
      Text.pieces ',' inner = members.map String.toList := by
    constructor
    · rintro rfl; simp [Function.comp_def]
    · intro h; simp [h, Function.comp_def]
  rw [hmap, Text.pieces_eq_iff, String.toList_intercalate]
  constructor
  · intro h
    rcases h with ⟨hne, hjoin, hcomma⟩
    exact ⟨hjoin.symm, by simpa using hne, fun member hm => hcomma _ (List.mem_map_of_mem hm)⟩
  · intro h
    rcases h with ⟨rfl, hne, hcomma⟩
    refine ⟨by simpa using hne, rfl, fun piece hpiece => ?_⟩
    obtain ⟨member, hm, rfl⟩ := List.mem_map.1 hpiece
    exact hcomma member hm

/-- A text means what is read from it. -/
theorem means_ofText (t : String) : (text t).Means (Condition.ofText t).test := by
  rw [Condition.ofText, ofChars]
  split
  · next c rest hread =>
    obtain ⟨hsplit, hlongest⟩ := Comparison.read?_eq_some_iff.1 hread
    refine ⟨String.toList_inj.1 (by simpa using hsplit), fun d other hd => ?_⟩
    exact hlongest d other.toList (by rw [hd, String.toList_append])
  · next hread =>
    have hsign := read?_eq_none.1 hread
    split
    · next inner hinner =>
      obtain ⟨hjoin, hne, hcomma⟩ := pieces_eq.1 (Eq.refl ((Text.pieces ',' inner).map String.ofList))
      have hchars := enclosed?_eq_some_iff.1 hinner
      rw [hjoin] at hchars
      exact ⟨hsign, String.toList_inj.1 (by simpa using hchars), hne, hcomma⟩
    · next hinner =>
      have henclosed := enclosed?_eq_none.1 hinner
      split
      · next low high hcut =>
        obtain ⟨hsplit, hleast⟩ := Text.cut?_eq_some_iff.1 hcut
        refine ⟨hsign, henclosed, String.toList_inj.1 (by simpa using hsplit), ?_⟩
        intro low' high' h'
        have hle := hleast low'.toList high'.toList (by rw [h']; simp)
        rwa [String.length_toList, ← String.length_ofList] at hle
      · next hcut =>
        have hdotted := cut?_eq_none.1 hcut
        split
        · next hwild => exact ⟨hsign, henclosed, hdotted, hwild, by simp [wildcard]⟩
        · next hwild => exact ⟨hsign, henclosed, hdotted, hwild, by simp⟩

/-- What a text means is what is read from it. -/
theorem eq_of_means {test : Test} (h : (text t).Means test) :
    test = (Condition.ofText t).test := by
  rw [Condition.ofText, ofChars]
  cases test with
  | equalsNumeral numeral => exact h.elim
  | compares c operand =>
    obtain ⟨hsplit, hlongest⟩ := h
    have hread : Comparison.read? t.toList = some (c, operand.toList) := by
      refine Comparison.read?_eq_some_iff.2 ⟨by rw [hsplit, String.toList_append], ?_⟩
      intro d other hd
      exact hlongest d (String.ofList other) (String.toList_inj.1 (by simpa using hd))
    simp [hread, test]
  | oneOf members =>
    obtain ⟨hsign, hsplit, hne, hcomma⟩ := h
    have hinner : enclosed? t.toList = some (",".intercalate members).toList :=
      enclosed?_eq_some_iff.2 (by rw [hsplit]; simp)
    simp only [read?_eq_none.2 hsign, hinner, pieces_eq.2 ⟨rfl, hne, hcomma⟩, test]
  | between low high =>
    obtain ⟨hsign, henclosed, hsplit, hleast⟩ := h
    have hcut : Text.cut? ['.', '.'] t.toList = some (low.toList, high.toList) := by
      refine Text.cut?_eq_some_iff.2 ⟨by rw [hsplit]; simp, fun low' high' h' => ?_⟩
      have hle := hleast (String.ofList low') (String.ofList high')
        (String.toList_inj.1 (by simpa using h'))
      rwa [String.length_ofList, ← String.length_toList] at hle
    simp [read?_eq_none.2 hsign, enclosed?_eq_none.2 henclosed, hcut, test]
  | like pattern =>
    obtain ⟨hsign, henclosed, hdotted, hwild, hpattern⟩ := h
    have hmap : String.ofList (t.toList.map wildcard) = pattern :=
      String.toList_inj.1 (by rw [String.toList_ofList, hpattern]; rfl)
    have hwild' : '*' ∈ t.toList ∨ '?' ∈ t.toList := hwild
    simp [read?_eq_none.2 hsign, enclosed?_eq_none.2 henclosed, cut?_eq_none.2 hdotted, hwild',
      hmap, test]
  | equals value =>
    obtain ⟨hsign, henclosed, hdotted, hwild, hvalue⟩ := h
    have hwild' : ¬ ('*' ∈ t.toList ∨ '?' ∈ t.toList) := hwild
    simp [read?_eq_none.2 hsign, enclosed?_eq_none.2 henclosed, cut?_eq_none.2 hdotted, hwild',
      hvalue, test]

/-- A value means the test of its condition, and no other. -/
theorem means_iff {value : FilterValue} {test : Test} :
    value.Means test ↔ test = value.condition.test := by
  cases value with
  | number n => cases test <;> simp [Means, Condition.test]
  | text t =>
    refine ⟨eq_of_means, ?_⟩
    intro h
    subst h
    exact means_ofText t

end FilterValue
end QueryLayer
