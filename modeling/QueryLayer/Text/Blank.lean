/-!
# Blanks

A blank is a character with the Unicode property White_Space. Trimming takes blanks off the
ends of a text and nothing else.
-/
namespace QueryLayer.Text

/-- The blanks beyond ASCII, as inclusive ranges of code points. -/
def wideBlanks : List (Nat × Nat) :=
  [(0x85, 0x85), (0xA0, 0xA0), (0x1680, 0x1680), (0x2000, 0x200A), (0x2028, 0x2029),
   (0x202F, 0x202F), (0x205F, 0x205F), (0x3000, 0x3000)]

/-- Whether a character is white space: the space, the controls from tab to carriage return,
or one of the wide blanks. -/
def isBlank (c : Char) : Bool :=
  c = ' ' || (0x09 ≤ c.toNat && c.toNat ≤ 0x0D) ||
    wideBlanks.any fun range => range.1 ≤ c.toNat && c.toNat ≤ range.2

/-- Leading blanks removed. -/
def trimStart (cs : List Char) : List Char := cs.dropWhile isBlank

/-- Trailing blanks removed. -/
def trimEnd (cs : List Char) : List Char := (cs.reverse.dropWhile isBlank).reverse

/-- Blanks removed at both ends. -/
def trim (cs : List Char) : List Char := trimEnd (trimStart cs)

@[simp] theorem trimStart_nil : trimStart [] = [] := rfl
@[simp] theorem trimEnd_nil : trimEnd [] = [] := rfl
@[simp] theorem trim_nil : trim [] = [] := rfl

/-- A leading blank does not change what trimming leaves. -/
theorem trimStart_cons_of_isBlank {c : Char} (h : isBlank c = true) (cs : List Char) :
    trimStart (c :: cs) = trimStart cs := by simp [trimStart, h]

/-- A text that begins with no blank is left alone. -/
theorem trimStart_cons_of_not_isBlank {c : Char} (h : isBlank c = false) (cs : List Char) :
    trimStart (c :: cs) = c :: cs := by simp [trimStart, h]

/-- What is left without the leading blanks begins with no blank. -/
theorem isBlank_of_mem_head?_trimStart (cs : List Char) :
    ∀ c ∈ (trimStart cs).head?, isBlank c = false := by
  intro c hc
  have hnot := List.head?_dropWhile_not isBlank cs
  rw [trimStart] at hc
  rwa [hc] at hnot

theorem length_trimStart_le (cs : List Char) : (trimStart cs).length ≤ cs.length :=
  (List.dropWhile_suffix isBlank).length_le

end QueryLayer.Text
