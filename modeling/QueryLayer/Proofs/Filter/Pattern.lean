import Mathlib.Data.List.Forall2
import QueryLayer.Proofs.Filter.Predicate

/-!
# Patterns

A text with wildcards is written as a pattern of the server. The two languages have the same
wildcards, a run of characters and a single character, under different signs. A sign of the server
that stands for itself in the text becomes a wildcard of the pattern, so the pattern asks for no more
than the text does, and for less just where the text has such a sign.
-/
namespace QueryLayer

/-- One place of a pattern. -/
inductive Place where
  /-- Any characters, or none. -/
  | run
  /-- Any one character. -/
  | one
  /-- The character itself. -/
  | exactly (c : Char)
  deriving Repr, DecidableEq

namespace Place

/-- The part of a subject that a place stands for. -/
inductive Takes : Place → List Char → Prop
  | run (part : List Char) : Takes run part
  | one (c : Char) : Takes one [c]
  | exactly (c : Char) : Takes (exactly c) [c]

/-- Whether a subject is made up of parts for all places of a pattern, in order. -/
def Matches : List Place → List Char → Prop
  | [], s => s = []
  | place :: places, s => ∃ part rest, s = part ++ rest ∧ place.Takes part ∧ Matches places rest

/-- The place of a character in a wildcard text. -/
def ofGlob (c : Char) : Place := if c = '*' then run else if c = '?' then one else exactly c

/-- The place of a character in a pattern of a server, where no backslash comes before it. -/
def ofSign (c : Char) : Place := if c = '%' then run else if c = '_' then one else exactly c

/-- The places of a pattern of a server. After a backslash a character is itself. -/
def ofLike : List Char → List Place
  | [] => []
  | [c] => [ofSign c]
  | c :: d :: cs => if c = '\\' then exactly d :: ofLike cs else ofSign c :: ofLike (d :: cs)

/-- A pattern without a backslash before another character has a place for each character. -/
theorem ofLike_of_notMem_dropLast {cs : List Char} (h : '\\' ∉ cs.dropLast) :
    ofLike cs = cs.map ofSign := by
  induction cs with
  | nil => rfl
  | cons c cs ih =>
    cases cs with
    | nil => rfl
    | cons d cs =>
      rw [List.dropLast_cons_cons] at h
      obtain ⟨hc, hcs⟩ := List.ne_and_not_mem_of_not_mem_cons h
      rw [ofLike, if_neg (Ne.symm hc), ih hcs]
      rfl

theorem ofLike_of_notMem {cs : List Char} (h : '\\' ∉ cs) : ofLike cs = cs.map ofSign :=
  ofLike_of_notMem_dropLast fun hmem => h ((List.dropLast_prefix cs).subset hmem)

theorem length_ofLike_le (cs : List Char) : (ofLike cs).length ≤ cs.length := by
  fun_induction ofLike cs with
  | case1 => simp
  | case2 => simp
  | case3 d cs ih =>
    simp only [List.length_cons]
    omega
  | case4 c d cs hc ih =>
    simp only [List.length_cons] at ih ⊢
    omega

/-- A backslash before another character has no place of its own. -/
theorem length_ofLike_lt {cs : List Char} (h : '\\' ∈ cs.dropLast) :
    (ofLike cs).length < cs.length := by
  induction cs with
  | nil => cases h
  | cons c cs ih =>
    cases cs with
    | nil => cases h
    | cons d cs =>
      have hlength := length_ofLike_le cs
      rw [ofLike]
      split
      · simp only [List.length_cons]
        omega
      · next hc =>
        rw [List.dropLast_cons_cons, List.mem_cons] at h
        have := ih (h.resolve_left (Ne.symm hc))
        simp only [List.length_cons] at this ⊢
        omega

/-- What has parts for all places has parts for places that take at least as much. -/
theorem Matches.mono {places wider : List Place}
    (h : List.Forall₂ (fun place other => ∀ part, Takes place part → Takes other part) places wider)
    {s : List Char} (hs : Matches places s) : Matches wider s := by
  induction h generalizing s with
  | nil => exact hs
  | cons hplace _ ih =>
    obtain ⟨part, rest, rfl, hpart, hrest⟩ := hs
    exact ⟨part, rest, rfl, hplace part hpart, ih hrest⟩

/-- A subject with one character for each place is made up of them. -/
theorem Matches.of_forall₂ {places : List Place} {s : List Char}
    (h : List.Forall₂ (fun place c => Takes place [c]) places s) : Matches places s := by
  induction h with
  | nil => rfl
  | cons hplace _ ih => exact ⟨_, _, rfl, hplace, ih⟩

/-- A character that stands for itself is in every subject. -/
theorem Matches.mem {places : List Place} {c : Char} (hc : exactly c ∈ places) {s : List Char}
    (hs : Matches places s) : c ∈ s := by
  induction places generalizing s with
  | nil => cases hc
  | cons place places ih =>
    obtain ⟨part, rest, rfl, hpart, hrest⟩ := hs
    rcases List.mem_cons.1 hc with rfl | hc
    · cases hpart
      exact List.mem_append_left rest List.mem_cons_self
    · exact List.mem_append_right part (ih hc hrest)

/-- The shortest part for a place, a letter where any character will do. -/
def shortest : Place → List Char
  | run => []
  | one => ['a']
  | exactly c => [c]

theorem matches_shortest (places : List Place) : Matches places (places.flatMap shortest) := by
  induction places with
  | nil => rfl
  | cons place places ih =>
    refine ⟨place.shortest, _, List.flatMap_cons, ?_, ih⟩
    cases place with
    | run => exact .run _
    | one => exact .one 'a'
    | exactly c => exact .exactly c

theorem length_flatMap_shortest_le (places : List Place) :
    (places.flatMap shortest).length ≤ places.length := by
  induction places with
  | nil => simp
  | cons place places ih =>
    have hone : place.shortest.length ≤ 1 := by
      cases place <;> simp [shortest]
    rw [List.flatMap_cons, List.length_append, List.length_cons]
    omega

/-- Characters that all stand for themselves are matched by themselves. -/
theorem matches_map_exactly {cs s : List Char} : Matches (cs.map exactly) s ↔ s = cs := by
  induction cs generalizing s with
  | nil => exact Iff.rfl
  | cons c cs ih =>
    constructor
    · rintro ⟨part, rest, rfl, hpart, hrest⟩
      cases hpart
      rw [ih.1 hrest]
      rfl
    · rintro rfl
      exact ⟨[c], cs, rfl, .exactly c, ih.2 rfl⟩

/-- The sign that a character is written as takes what the character takes. -/
theorem takes_ofSign_wildcard {c : Char} {part : List Char} (h : (ofGlob c).Takes part) :
    (ofSign (Condition.wildcard c)).Takes part := by
  unfold ofGlob at h
  split at h
  · next hstar =>
    subst hstar
    exact .run part
  · next hstar =>
    split at h
    · next hmark =>
      subst hmark
      exact h
    · next hmark =>
      cases h
      rw [Condition.wildcard, if_neg hstar, if_neg hmark, ofSign]
      split
      · exact .run [c]
      · split
        · exact .one c
        · exact .exactly c

/-- It is the same place unless the character is itself a sign. -/
theorem ofSign_wildcard {c : Char} (hpercent : c ≠ '%') (hunderscore : c ≠ '_') :
    ofSign (Condition.wildcard c) = ofGlob c := by
  rw [Condition.wildcard, ofGlob]
  by_cases hstar : c = '*'
  · simp [hstar, ofSign]
  · by_cases hmark : c = '?'
    · simp [hmark, ofSign]
    · simp [hstar, hmark, ofSign, hpercent, hunderscore]

/-- A sign needs no sign in the subject. -/
theorem notMem_shortest_ofSign (c : Char) :
    '%' ∉ (ofSign c).shortest ∧ '_' ∉ (ofSign c).shortest := by
  rw [ofSign]
  split
  · decide
  · next hpercent =>
    split
    · decide
    · next hunderscore => simp [shortest, Ne.symm hpercent, Ne.symm hunderscore]

/-- Nor do the signs of a whole pattern. -/
theorem notMem_flatMap_shortest {places : List Place} (h : ∀ place ∈ places, ∃ c, place = ofSign c) :
    '%' ∉ places.flatMap shortest ∧ '_' ∉ places.flatMap shortest := by
  have hnone (sign : Char) (hsign : ∀ c, sign ∉ (ofSign c).shortest) :
      sign ∉ places.flatMap shortest := by
    intro hmem
    obtain ⟨place, hplace, hmem⟩ := List.mem_flatMap.1 hmem
    obtain ⟨c, rfl⟩ := h place hplace
    exact hsign c hmem
  exact ⟨hnone '%' fun c => (notMem_shortest_ofSign c).1,
    hnone '_' fun c => (notMem_shortest_ofSign c).2⟩

end Place

/-- Whether a subject has what a wildcard text asks for. -/
def GlobMatches (t s : String) : Prop := Place.Matches (t.toList.map Place.ofGlob) s.toList

/-- Whether a subject has what a pattern asks a server for. -/
def LikeMatches (pattern s : String) : Prop := Place.Matches (Place.ofLike pattern.toList) s.toList

/-- A pattern is matched by itself and by nothing else just where none of its characters is a sign of
the server, or a backslash with a character after it. -/
theorem likeMatches_iff_eq_iff (pattern : String) : (∀ s, LikeMatches pattern s ↔ s = pattern) ↔
    '%' ∉ pattern.toList ∧ '_' ∉ pattern.toList ∧ '\\' ∉ pattern.toList.dropLast := by
  constructor
  · intro hself
    -- The shortest match is the pattern, so that every character of the pattern has its place.
    have hshort : (Place.ofLike pattern.toList).flatMap Place.shortest = pattern.toList := by
      have hmatch : LikeMatches pattern
          (String.ofList ((Place.ofLike pattern.toList).flatMap Place.shortest)) := by
        rw [LikeMatches, String.toList_ofList]
        exact Place.matches_shortest _
      have hsame := congrArg String.toList ((hself _).1 hmatch)
      rwa [String.toList_ofList] at hsame
    have hbackslash : '\\' ∉ pattern.toList.dropLast := by
      intro hmem
      have hlength := congrArg List.length hshort
      have hle := Place.length_flatMap_shortest_le (Place.ofLike pattern.toList)
      have hlt := Place.length_ofLike_lt hmem
      omega
    have hsigns := @Place.notMem_flatMap_shortest (pattern.toList.map Place.ofSign) (by simp)
    rw [← Place.ofLike_of_notMem_dropLast hbackslash, hshort] at hsigns
    exact ⟨hsigns.1, hsigns.2, hbackslash⟩
  · rintro ⟨hpercent, hunderscore, hbackslash⟩ s
    have hplaces : pattern.toList.map Place.ofSign = pattern.toList.map Place.exactly := by
      refine List.map_congr_left fun c hc => ?_
      have hc₁ : c ≠ '%' := by
        rintro rfl
        exact hpercent hc
      have hc₂ : c ≠ '_' := by
        rintro rfl
        exact hunderscore hc
      rw [Place.ofSign, if_neg hc₁, if_neg hc₂]
    rw [LikeMatches, Place.ofLike_of_notMem_dropLast hbackslash, hplaces, Place.matches_map_exactly,
      String.toList_inj]

namespace Condition

/-- A wildcard text without backslashes has a place for each of its characters in the pattern. -/
theorem ofLike_map_wildcard {cs : List Char} (h : '\\' ∉ cs) :
    Place.ofLike (cs.map wildcard) = cs.map fun c => Place.ofSign (wildcard c) := by
  have hbackslash : '\\' ∉ cs.map wildcard := by
    intro hmem
    obtain ⟨c, hc, hwildcard⟩ := List.mem_map.1 hmem
    unfold wildcard at hwildcard
    split at hwildcard
    · cases hwildcard
    · split at hwildcard
      · cases hwildcard
      · exact h (hwildcard ▸ hc)
  rw [Place.ofLike_of_notMem hbackslash, List.map_map]
  rfl

end Condition

namespace FilterValue
variable {t pattern : String}

/-- The pattern of a text has the wildcards of the text as the signs of the server. -/
theorem toList_of_condition_eq_like (h : (text t).condition = .like pattern) :
    pattern.toList = t.toList.map Condition.wildcard := by
  have hmeans : (text t).Means (.like pattern) := means_iff.2 (by rw [h]; rfl)
  exact hmeans.2.2.2.2

theorem likeMatches_iff (hbackslash : '\\' ∉ t.toList)
    (hlike : (text t).condition = .like pattern) {s : String} :
    LikeMatches pattern s ↔
      Place.Matches (t.toList.map fun c => Place.ofSign (Condition.wildcard c)) s.toList := by
  rw [LikeMatches, toList_of_condition_eq_like hlike, Condition.ofLike_map_wildcard hbackslash]

/-- What a text asks for is enough for its pattern. -/
theorem likeMatches_of_globMatches (hbackslash : '\\' ∉ t.toList)
    (hlike : (text t).condition = .like pattern) {s : String} (h : GlobMatches t s) :
    LikeMatches pattern s := by
  rw [likeMatches_iff hbackslash hlike]
  refine Place.Matches.mono ?_ h
  rw [List.forall₂_map_left_iff, List.forall₂_map_right_iff, List.forall₂_same]
  exact fun c _ part => Place.takes_ofSign_wildcard

/-- A pattern of a text with a sign of the server has a subject without that sign. -/
theorem exists_likeMatches_not_globMatches (hbackslash : '\\' ∉ t.toList)
    (hlike : (text t).condition = .like pattern) (hsign : '%' ∈ t.toList ∨ '_' ∈ t.toList) :
    ∃ s, LikeMatches pattern s ∧ ¬ GlobMatches t s := by
  let places := t.toList.map fun c => Place.ofSign (Condition.wildcard c)
  have hnone := @Place.notMem_flatMap_shortest places (by simp [places])
  refine ⟨String.ofList (places.flatMap Place.shortest), ?_, ?_⟩
  · rw [likeMatches_iff hbackslash hlike, String.toList_ofList]
    exact Place.matches_shortest places
  · intro hglob
    rw [GlobMatches, String.toList_ofList] at hglob
    rcases hsign with hpercent | hunderscore
    · refine hnone.1 (hglob.mem ?_)
      exact List.mem_map.2 ⟨'%', hpercent, rfl⟩
    · refine hnone.2 (hglob.mem ?_)
      exact List.mem_map.2 ⟨'_', hunderscore, rfl⟩

/-- **A pattern covers its text.** The clause of a wildcard text has a pattern that matches whatever
the text matches, and the two match the same subjects just where the text has no sign of the
server. -/
theorem like_covers_glob (field t pattern : String) (hbackslash : '\\' ∉ t.toList)
    (hlike : (text t).condition = .like pattern) :
    (∀ dialect : Dialect, Clause.readAll? dialect
        (Filter.compile dialect.quote dialect.text ⟨[(field, text t)]⟩) =
          some [⟨field, .like pattern⟩]) ∧
      (∀ s, GlobMatches t s → LikeMatches pattern s) ∧
      ((∀ s, GlobMatches t s ↔ LikeMatches pattern s) ↔ '%' ∉ t.toList ∧ '_' ∉ t.toList) := by
  refine ⟨fun dialect => ?_, fun s => likeMatches_of_globMatches hbackslash hlike, ?_, ?_⟩
  · rw [Filter.readAll?_compile, Filter.clauses, List.map_singleton, hlike]
    rfl
  · intro hsame
    by_contra hsign
    rw [not_and_or, not_not, not_not] at hsign
    obtain ⟨s, hs, hnot⟩ := exists_likeMatches_not_globMatches hbackslash hlike hsign
    exact hnot ((hsame s).2 hs)
  · rintro ⟨hpercent, hunderscore⟩ s
    have hplaces : (t.toList.map fun c => Place.ofSign (Condition.wildcard c)) =
        t.toList.map Place.ofGlob := by
      refine List.map_congr_left fun c hc => Place.ofSign_wildcard ?_ ?_
      · rintro rfl
        exact hpercent hc
      · rintro rfl
        exact hunderscore hc
    rw [likeMatches_iff hbackslash hlike, hplaces, GlobMatches]

/-- A text with wildcards of both languages: its pattern matches more. -/
theorem like_covers_glob_percent :
    '\\' ∉ "100%?*".toList ∧ (text "100%?*").condition = .like "100%_%" ∧
      (∀ dialect : Dialect, Clause.readAll? dialect
        (Filter.compile dialect.quote dialect.text ⟨[("a.b c", text "100%?*")]⟩) =
          some [⟨"a.b c", .like "100%_%"⟩]) ∧
      (∀ s, GlobMatches "100%?*" s → LikeMatches "100%_%" s) ∧
      ((∀ s, GlobMatches "100%?*" s ↔ LikeMatches "100%_%" s) ↔
        '%' ∉ "100%?*".toList ∧ '_' ∉ "100%?*".toList) := by
  have hbackslash : '\\' ∉ "100%?*".toList := by decide
  have hlike : (text "100%?*").condition = .like "100%_%" := by decide
  exact ⟨hbackslash, hlike, like_covers_glob "a.b c" "100%?*" "100%_%" hbackslash hlike⟩

end FilterValue
end QueryLayer
