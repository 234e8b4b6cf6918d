set_option autoImplicit false

/-!
# Blank characters and trimming

White space in the wide sense: the characters of bidirectional class `WS`, `B` or `S` and the
space separators.  Trimming takes such characters from both ends of a text and leaves the inside
alone.

There are several notions of a blank in a template, and this is the one that trimming uses.  The
lexer of the expressions passes over fewer characters, and the two must not be mixed up: text that
is trimmed away here need not be a blank there.
-/

namespace BoundSql.Text

/-- A white space character. -/
def isBlank (c : Char) : Bool :=
  let n := c.toNat
  (9 ≤ n && n ≤ 13) || (28 ≤ n && n ≤ 32) || n == 0x85 || n == 0xA0 || n == 0x1680
    || (0x2000 ≤ n && n ≤ 0x200A) || n == 0x2028 || n == 0x2029 || n == 0x202F || n == 0x205F
    || n == 0x3000

/-- Drops from the end of a list the longest run that satisfies `p`. -/
def dropRightWhile {α : Type} (p : α → Bool) (cs : List α) : List α :=
  (cs.reverse.dropWhile p).reverse

/-- The text without the blanks at its two ends. -/
def trim (cs : List Char) : List Char :=
  dropRightWhile isBlank (cs.dropWhile isBlank)

theorem isBlank_of_isWhitespace {c : Char} (h : c.isWhitespace = true) : isBlank c = true := by
  simp only [Char.isWhitespace, Bool.or_eq_true, decide_eq_true_eq] at h
  rcases h with ((h | h) | h) | h <;> subst h <;> decide

theorem trim_nil : trim [] = [] := rfl

/-- What is dropped from the end is a run of characters that satisfy `p`. -/
theorem exists_append_dropRightWhile (p : Char → Bool) (cs : List Char) :
    ∃ ds, cs = dropRightWhile p cs ++ ds ∧ ∀ d ∈ ds, p d = true := by
  refine ⟨(cs.reverse.takeWhile p).reverse, ?_, ?_⟩
  · have h := congrArg List.reverse (List.takeWhile_append_dropWhile (p := p) (l := cs.reverse))
    rw [List.reverse_append, List.reverse_reverse] at h
    exact h.symm
  · intro d hd
    rw [List.mem_reverse] at hd
    exact List.all_eq_true.1 (List.all_takeWhile (p := p) (l := cs.reverse)) d hd

/-- Nothing is dropped from a list that does not end with such a run. -/
theorem dropRightWhile_eq_self {p : Char → Bool} {cs : List Char}
    (hlast : ∀ c, cs.getLast? = some c → p c = false) : dropRightWhile p cs = cs := by
  obtain ⟨ds, hcs, hall⟩ := exists_append_dropRightWhile p cs
  cases hds : ds.getLast? with
  | none =>
      rw [List.getLast?_eq_none_iff.mp hds, List.append_nil] at hcs
      exact hcs.symm
  | some d =>
      have hend : cs.getLast? = some d := by rw [hcs, List.getLast?_append, hds, Option.some_or]
      have hd := hall d (List.mem_of_getLast? hds)
      exact absurd ((hlast d hend).symm.trans hd) Bool.false_ne_true

/-- Nothing is trimmed from a text that neither begins nor ends with a blank. -/
theorem trim_eq_self {cs : List Char} (hfirst : ∀ c, cs.head? = some c → isBlank c = false)
    (hlast : ∀ c, cs.getLast? = some c → isBlank c = false) : trim cs = cs := by
  have hfront : cs.dropWhile isBlank = cs := by
    cases cs with
    | nil => rfl
    | cons c cs => rw [List.dropWhile_cons, hfirst c rfl, if_neg Bool.false_ne_true]
  rw [trim, hfront, dropRightWhile_eq_self hlast]

end BoundSql.Text
