import BoundSql.Proofs.BracketRuns
import BoundSql.Proofs.Rooms
set_option autoImplicit false

/-!
# Splats

The content of a splat is read as a tuple: its trailing commas are dropped, and a comma and a
parenthesis are put behind it.  A content without a comment or a backslash at its end, and with one
comma there at most, is accepted like this if and only if it is a tuple between parentheses of its
own, with or without a further comma in front of the closing one.

What is put behind the content is text, and whether it arrives as tokens depends on how the content
ends: behind a comment or a backslash it does not.  So the content is cut into tokens first, in
front of everything that may be put behind it (`Ending`, `settled_of_isSplat`), and the rest is a
statement about tokens, that a comma behind the items of a tuple makes no difference and that two
commas are never read (`Settled.compileBehind_comma`, `Settled.compileBehind_two_commas`).

Where the content has two commas at its end they are dropped all the same, and where it ends in a
comment the parenthesis is lost in it.  In both cases a splat and a tuple differ.
-/

namespace BoundSql.Expr

/-! ## Behind an opening parenthesis -/

/-- The tree of an acceptable source behind the parenthesis that opens it. -/
def compileBehind (cs : List Char) : Option Tree :=
  (lexed [")"] cs).bind fun ts => compileTokens (.mark "(" :: ts)

/-- A source that begins with a parenthesis and ends with outer text. -/
theorem compile_open_iff {c z : List Char}
    (hc : c.getLast? = some '\r' → headIs (· == '\n') z = false) (hz : '\r' ∉ z)
    (hzero : '\x00' ∉ z) {t : Tree} :
    compile ('(' :: (c ++ z)) = some t ↔
      '\x00' ∉ c ∧ compileBehind (unixLines c ++ z) = some t := by
  change (tokens ('(' :: (c ++ z))).bind compileTokens = some t ↔ _
  rw [tokens_open hc hz hzero]
  split
  next hmem => simpa using fun hno => absurd (List.contains_iff_mem.mp hmem) hno
  next hmem =>
    rw [Option.bind_map]
    exact (and_iff_right (mt List.contains_iff_mem.mpr hmem)).symm

section Behind

variable {E : List Char → Prop} {x z z' : List Char} {ts : List Token}

theorem Run.compileBehind_append (h : Run [")"] x ts) (us : List Token) (hz : Outer z)
    (hne : z ≠ []) (hlexed : lexed [")"] z = some (us ++ [.mark ")"])) :
    compileBehind (x ++ z) = compileTokens (inParentheses (ts ++ us)) := by
  rw [compileBehind, h.lexed_append hz hne, hlexed]
  simp only [Option.map_some, Option.bind_some, inParentheses, List.append_assoc]

theorem compileBehind_of_lexed_eq_none {cs : List Char} (h : lexed [")"] cs = none) :
    compileBehind cs = none := by
  rw [compileBehind, h]
  rfl

/-- Only the tokens of the text behind a part make a difference. -/
theorem Settled.compileBehind_congr (hE : Behind E) (h : Settled E [")"] x) (hz : E z)
    (hz' : E z') (heq : lexed [")"] z = lexed [")"] z') :
    compileBehind (x ++ z) = compileBehind (x ++ z') := by
  rcases h with ⟨ts, hrun⟩ | hrefused
  · rw [compileBehind, compileBehind, hrun.lexed_append (hE z hz).1 (hE z hz).2,
      hrun.lexed_append (hE z' hz').1 (hE z' hz').2, heq]
  · rw [compileBehind_of_lexed_eq_none (hrefused z hz),
      compileBehind_of_lexed_eq_none (hrefused z' hz')]

end Behind

/-! ## Rows that begin with a star -/

/-- The symbols that begin with a single star. -/
theorem eq_of_symbol?_star {x : List Char} {s : String} (hx : headIs (· == '*') x = false)
    (h : symbol? ('*' :: x) = some s) : s = "*" ∨ s = "*=" := by
  have hall : (symbols.all fun s => s.toList.head? != some '*' || headIs (· == '*') s.toList.tail
      || s == "*" || s == "*=") = true := by
    decide +kernel
  obtain ⟨hmem, rest, hrest⟩ := exists_of_symbol?_eq_some h
  have hsymbol := List.all_eq_true.mp hall s hmem
  cases hchars : s.toList with
  | nil => exact absurd hchars (isOuter_tail_of_mem_symbols hmem).1
  | cons c w =>
      rw [hchars] at hrest hsymbol
      obtain ⟨rfl, rfl⟩ := List.cons.inj hrest
      have hw : headIs (· == '*') w = false := by
        cases w with
        | nil => rfl
        | cons d w => exact hx
      simpa [hw] using hsymbol

theorem front_star (cs : List Char) :
    front ('*' :: cs) = (symbol? ('*' :: cs)).map fun s =>
      (.token (.mark s), ('*' :: cs).drop s.length) := by
  change ((symbol? ('*' :: cs)).map _).map _ = _
  rw [Option.map_map]
  rfl

/-- A row of tokens that begins with a star, or with the mark that multiplies in place. -/
def Starred (ts : List Token) : Prop := ∃ us, ts = .mark "*" :: us ∨ ts = .mark "*=" :: us

theorem Starred.append {ts : List Token} (h : Starred ts) (us : List Token) :
    Starred (ts ++ us) := by
  obtain ⟨vs, rfl | rfl⟩ := h
  · exact ⟨vs ++ us, .inl rfl⟩
  · exact ⟨vs ++ us, .inr rfl⟩

/-- The tokens of text that begins with a single star. -/
theorem Run.starred {stack : List String} {x : List Char} {ts : List Token}
    (h : Run stack ('*' :: x) ts) (hx : headIs (· == '*') x = false) : Starred ts := by
  have houter : Outer [')'] := outer_nil.cons rfl
  have hbehind : headIs (· == '*') (x ++ [')']) = false :=
    (Inner.local_headIs (inner_of rfl) x [')'] houter).trans hx
  generalize hcs : '*' :: x = cs at h
  cases h with
  | done => cases hcs
  | @space _ used y f _ hfront hf _ _ _ =>
      have hfront := hfront [')'] houter (List.cons_ne_nil _ _)
      rw [← List.append_assoc, ← hcs, List.cons_append, front_star] at hfront
      obtain ⟨s, -, heq⟩ := Option.map_eq_some_iff.mp hfront
      rcases hf with rfl | rfl <;> cases (Prod.mk.inj heq).1
  | @token _ _ used y t us hfront _ _ _ _ =>
      have hfront := hfront [')'] houter
      rw [← List.append_assoc, ← hcs, List.cons_append, front_star] at hfront
      obtain ⟨s, hs, heq⟩ := Option.map_eq_some_iff.mp hfront
      obtain rfl := Front.token.inj (Prod.mk.inj heq).1
      rcases eq_of_symbol?_star hbehind hs with rfl | rfl
      · exact ⟨us, .inl rfl⟩
      · exact ⟨us, .inr rfl⟩

section Rows

variable {ts : List Token} {t : Tree}

/-- A row in parentheses that begins like this is a tuple or nothing. -/
theorem Starred.exists_tuple (hstar : Starred ts) (hts : Enclosed (inParentheses ts))
    (h : compileTokens (inParentheses ts) = some t) :
    ∃ first items, t = .tuple (.star first :: items) := by
  obtain ⟨us, rfl | rfl⟩ := hstar
  · exact exists_tuple_of_compileTokens hts h
  · rw [compileTokens_starEquals hts] at h
    cases h

theorem Starred.comma (hstar : Starred ts) (hts : Enclosed (inParentheses ts)) (hbare : Bare ts)
    (h : compileTokens (inParentheses ts) = some t) :
    compileTokens (inParentheses (ts ++ [.mark ","])) = some t := by
  obtain ⟨us, rfl | rfl⟩ := hstar
  · exact compileTokens_comma hts hbare h
  · rw [compileTokens_starEquals hts] at h
    cases h

theorem Starred.two_commas (hstar : Starred ts)
    (hts : Enclosed (inParentheses (ts ++ [.mark ","]))) :
    compileTokens (inParentheses (ts ++ [.mark ","] ++ [.mark ","])) = none := by
  obtain ⟨us, rfl | rfl⟩ := hstar
  · exact compileTokens_two_commas hts
  · exact compileTokens_starEquals hts.comma

end Rows

/-! ## Parts that begin with a star -/

section Parts

variable {E : List Char → Prop} {y z z' : List Char} {t : Tree}

/-- A part that begins with a star is a tuple with what stands behind it, or nothing. -/
theorem Settled.exists_tuple (hE : Behind E) (h : Settled E [")"] ('*' :: y))
    (hy : headIs (· == '*') y = false) (hz : E z)
    (hlexed : lexed [")"] z = some [.mark ",", .mark ")"])
    (ht : compileBehind ('*' :: y ++ z) = some t) :
    ∃ first items, t = .tuple (.star first :: items) := by
  rcases h with ⟨ts, hrun⟩ | hrefused
  · rw [hrun.compileBehind_append [.mark ","] (hE z hz).1 (hE z hz).2 hlexed] at ht
    exact ((hrun.starred hy).append _).exists_tuple hrun.enclosed.comma ht
  · rw [compileBehind_of_lexed_eq_none (hrefused z hz)] at ht
    cases ht

/-- A tuple without a comma at its end is the same tuple with one. -/
theorem Settled.compileBehind_comma (hE : Behind E) (h : Settled E [")"] ('*' :: y))
    (hy : headIs (· == '*') y = false)
    (hlast : ∀ c, ('*' :: y).getLast? = some c → Text.isBlank c = false ∧ c ≠ ',')
    (hz : E z) (hz' : E z') (hlexed : lexed [")"] z = some [.mark ")"])
    (hlexed' : lexed [")"] z' = some [.mark ",", .mark ")"])
    (ht : compileBehind ('*' :: y ++ z) = some t) : compileBehind ('*' :: y ++ z') = some t := by
  rcases h with ⟨ts, hrun⟩ | hrefused
  · rw [hrun.compileBehind_append [] (hE z hz).1 (hE z hz).2 hlexed, List.append_nil] at ht
    rw [hrun.compileBehind_append [.mark ","] (hE z' hz').1 (hE z' hz').2 hlexed']
    have hbare : Bare ts := fun hcomma =>
      (hlast ',' ((hrun.last fun c hc => (hlast c hc).1).2 hcomma)).2 rfl
    exact (hrun.starred hy).comma hrun.enclosed hbare ht
  · rw [compileBehind_of_lexed_eq_none (hrefused z hz)] at ht
    cases ht

/-- No tuple has two commas at its end. -/
theorem Settled.compileBehind_two_commas (hE : Behind E) (h : Settled E [")"] ('*' :: y))
    (hy : headIs (· == '*') y = false) (hz : E z)
    (hlexed : lexed [")"] z = some [.mark ",", .mark ",", .mark ")"]) :
    compileBehind ('*' :: y ++ z) = none := by
  rcases h with ⟨ts, hrun⟩ | hrefused
  · rw [hrun.compileBehind_append [.mark ",", .mark ","] (hE z hz).1 (hE z hz).2 hlexed]
    have hcommas := (hrun.starred hy).two_commas hrun.enclosed.comma
    rwa [List.append_assoc] at hcommas
  · exact compileBehind_of_lexed_eq_none (hrefused z hz)

end Parts

end BoundSql.Expr

namespace BoundSql.Template

open BoundSql.Expr

/-! ## Contents -/

theorem isBlank_of_getLast?_trim {cs : List Char} {c : Char}
    (h : (Text.trim cs).getLast? = some c) :
    Text.isBlank c = false := by
  rw [Text.trim, Text.dropRightWhile, List.getLast?_reverse] at h
  have hhead := List.head?_dropWhile_not Text.isBlank (cs.dropWhile Text.isBlank).reverse
  rwa [h] at hhead

/-- A splat begins with a single star. -/
theorem exists_of_isSplat {c : List Char} (h : isSplat c = true) :
    ∃ y, c = '*' :: y ∧ headIs (· == '*') y = false := by
  unfold isSplat at h
  split at h
  · cases h
  · rename_i y hstars
    refine ⟨y, rfl, ?_⟩
    cases y with
    | nil => rfl
    | cons d y =>
        refine beq_eq_false_iff_ne.mpr ?_
        rintro rfl
        exact hstars y rfl
  · cases h

theorem exists_of_isSplat_comma {d : List Char} (h : isSplat (d ++ [',']) = true) :
    ∃ y, d = '*' :: y ∧ headIs (· == '*') y = false := by
  obtain ⟨y, hd, hy⟩ := exists_of_isSplat h
  cases d with
  | nil => cases hd
  | cons a d =>
      obtain ⟨rfl, rfl⟩ := List.cons.inj hd
      refine ⟨d, rfl, ?_⟩
      cases d with
      | nil => rfl
      | cons b d => exact hy

/-- Line ends are rewritten without a change to the stars. -/
theorem exists_unixLines_eq {c : List Char} (h : ∃ y, c = '*' :: y ∧ headIs (· == '*') y = false) :
    ∃ y, unixLines c = '*' :: y ∧ headIs (· == '*') y = false := by
  obtain ⟨y, rfl, hy⟩ := h
  refine ⟨unixLines y, unixLines.eq_4 _ _ (by simp) (by simp), ?_⟩
  rw [← hy]
  fun_cases unixLines y <;> rfl

/-- A last character that is no blank is no part of the end of a line. -/
theorem unixLines_concat (d : List Char) {a : Char} (ha : Text.isBlank a = false) :
    unixLines (d ++ [a]) = unixLines d ++ [a] := by
  have hfeed : headIs (· == '\n') [a] = false := by
    refine beq_eq_false_iff_ne.mpr ?_
    rintro rfl
    cases ha
  have hreturn : '\r' ∉ [a] := by
    rintro hmem
    obtain rfl := List.mem_singleton.mp hmem
    cases ha
  rw [unixLines_append fun _ => hfeed, unixLines_of_not_mem hreturn]

theorem dropRightWhile_of_getLast?_ne {c : List Char} (h : c.getLast? ≠ some ',') :
    Text.dropRightWhile (· == ',') c = c :=
  Text.dropRightWhile_eq_self fun _ hlast =>
    beq_eq_false_iff_ne.mpr fun hcomma => h (hcomma ▸ hlast)

theorem dropRightWhile_concat (c : List Char) :
    Text.dropRightWhile (· == ',') (c ++ [',']) = Text.dropRightWhile (· == ',') c := by
  simp [Text.dropRightWhile]

/-! ## Three sources for one content -/

section Sources

variable {d : List Char} {a : Char} {t : Tree}

/-- Text that stands behind a content. -/
def Ending (z : List Char) : Prop := Outer z ∧ z ≠ []

/-- Text that stands behind a content without its last comma. -/
def CommaEnding (z : List Char) : Prop := Outer z ∧ headIs (· == ',') z = true

theorem behind_ending : Behind Ending := fun _ hz => hz

theorem behind_commaEnding : Behind CommaEnding := by
  rintro z ⟨houter, hhead⟩
  refine ⟨houter, ?_⟩
  rintro rfl
  cases hhead

theorem getLast?_concat_ne_return (hblank : Text.isBlank a = false) :
    (d ++ [a]).getLast? ≠ some '\r' := by
  rw [List.getLast?_concat]
  rintro heq
  rw [Option.some.inj heq] at hblank
  cases hblank

/-- A content in front of its closing parenthesis is a part of one kind. -/
theorem settled_of_isSplat (hsplat : isSplat (d ++ [a]) = true) (hblank : Text.isBlank a = false)
    (hback : a ≠ '\\') (hclosed : afterBracket '(' (unixLines (d ++ [a]) ++ [')']) = .ok []) :
    ∃ y, unixLines (d ++ [a]) = '*' :: y ∧ headIs (· == '*') y = false ∧
      Settled Ending [")"] ('*' :: y) := by
  have hsearched : Searched Ending [')'] [')'] (unixLines (d ++ [a])) := by
    refine ⟨by simp, hclosed, fun hlast => absurd ?_ hback⟩
    rw [unixLines_concat d hblank, List.getLast?_concat] at hlast
    exact Option.some.inj hlast
  have hsettled : Settled Ending [")"] (unixLines (d ++ [a])) :=
    hsearched.settled behind_ending closes_close _ (Nat.le_refl _)
  obtain ⟨y, hy, hstar⟩ := exists_unixLines_eq (exists_of_isSplat hsplat)
  exact ⟨y, hy, hstar, hy ▸ hsettled⟩

/-- The comma at the end of a content already keeps what is in front of it from going on. -/
theorem settled_of_isSplat_comma (hsplat : isSplat (d ++ [',']) = true)
    (hclosed : afterBracket '(' (unixLines (d ++ [',']) ++ [')']) = .ok []) :
    ∃ y, unixLines d = '*' :: y ∧ headIs (· == '*') y = false ∧
      Settled CommaEnding [")"] ('*' :: y) := by
  have hjoin : ∀ z, CommaEnding z → headIs (· == '\n') z = false := by
    rintro z ⟨-, hhead⟩
    rw [exists_cons_of_headIs hhead]
    rfl
  have hsearched : Searched CommaEnding [',', ')'] [')'] (unixLines d) := by
    rw [unixLines_concat d rfl, List.append_assoc] at hclosed
    exact ⟨by simp, hclosed, fun _ => hjoin⟩
  have hsettled : Settled CommaEnding [")"] (unixLines d) :=
    hsearched.settled behind_commaEnding closes_comma_close _ (Nat.le_refl _)
  obtain ⟨y, hy, hstar⟩ := exists_unixLines_eq (exists_of_isSplat_comma hsplat)
  exact ⟨y, hy, hstar, hy ▸ hsettled⟩

/-- A content that ends with no comma. -/
theorem compile_splat_iff (hsplat : isSplat (d ++ [a]) = true) (hblank : Text.isBlank a = false)
    (hback : a ≠ '\\') (hcomma : a ≠ ',')
    (hclosed : afterBracket '(' (unixLines (d ++ [a]) ++ [')']) = .ok []) :
    (compile ('(' :: (d ++ [a] ++ [',', ')'])) = some t ↔
      compile ('(' :: (d ++ [a] ++ ['\n', ')'])) = some t ∨
        compile ('(' :: (d ++ [a] ++ ['\n', ',', ')'])) = some t) ∧
    (compile ('(' :: (d ++ [a] ++ [',', ')'])) = some t →
      ∃ first items, t = .tuple (.star first :: items)) := by
  obtain ⟨y, hy, hstar, hsettled⟩ := settled_of_isSplat hsplat hblank hback hclosed
  have hlast : ∀ c, ('*' :: y).getLast? = some c → Text.isBlank c = false ∧ c ≠ ',' := by
    intro c hc
    rw [← hy, unixLines_concat d hblank, List.getLast?_concat] at hc
    obtain rfl := Option.some.inj hc
    exact ⟨hblank, hcomma⟩
  have hclose : Ending ['\n', ')'] := ⟨(outer_nil.cons rfl).cons rfl, by simp⟩
  have hshort : Ending [',', ')'] := ⟨(outer_nil.cons rfl).cons rfl, by simp⟩
  have hlong : Ending ['\n', ',', ')'] := ⟨((outer_nil.cons rfl).cons rfl).cons rfl, by simp⟩
  have hfeed := hsettled.compileBehind_congr behind_ending hlong hshort rfl
  have hreturn : ∀ z, (d ++ [a]).getLast? = some '\r' → headIs (· == '\n') z = false :=
    fun _ hlast => absurd hlast (getLast?_concat_ne_return hblank)
  rw [compile_open_iff (hreturn _) (by simp) (by simp),
    compile_open_iff (hreturn _) (by simp) (by simp),
    compile_open_iff (hreturn _) (by simp) (by simp), ← and_or_left, hy, hfeed]
  constructor
  · -- the line feed counts for nothing, and a tuple without the comma is one with it
    exact and_congr_right fun _ => (or_iff_right_of_imp (hsettled.compileBehind_comma
      behind_ending hstar hlast hclose hshort rfl rfl)).symm
  · exact fun ht => hsettled.exists_tuple behind_ending hstar hshort rfl ht.2

/-- A content that ends with a comma. -/
theorem compile_splat_comma_iff (hsplat : isSplat (d ++ [',']) = true)
    (hclosed : afterBracket '(' (unixLines (d ++ [',']) ++ [')']) = .ok []) :
    (compile ('(' :: (d ++ [',', ')'])) = some t ↔
      compile ('(' :: (d ++ [','] ++ ['\n', ')'])) = some t ∨
        compile ('(' :: (d ++ [','] ++ ['\n', ',', ')'])) = some t) ∧
    (compile ('(' :: (d ++ [',', ')'])) = some t →
      ∃ first items, t = .tuple (.star first :: items)) := by
  obtain ⟨y, hy, hstar, hsettled⟩ := settled_of_isSplat_comma hsplat hclosed
  have hshort : CommaEnding [',', ')'] := ⟨(outer_nil.cons rfl).cons rfl, rfl⟩
  have hclose : CommaEnding [',', '\n', ')'] :=
    ⟨((outer_nil.cons rfl).cons rfl).cons rfl, rfl⟩
  have hlong : CommaEnding [',', '\n', ',', ')'] :=
    ⟨(((outer_nil.cons rfl).cons rfl).cons rfl).cons rfl, rfl⟩
  have hfeed := hsettled.compileBehind_congr behind_commaEnding hclose hshort rfl
  have hcommas := hsettled.compileBehind_two_commas behind_commaEnding hstar hlong rfl
  have hreturn : ∀ z, (d ++ [',']).getLast? = some '\r' → headIs (· == '\n') z = false :=
    fun _ hlast => absurd hlast (getLast?_concat_ne_return rfl)
  -- here the source of the splat is the content itself, and one more comma is one too many
  have hsource : d ++ [',', ')'] = d ++ [','] ++ [')'] := by simp
  rw [hsource, compile_open_iff (hreturn _) (by simp) (by simp),
    compile_open_iff (hreturn _) (by simp) (by simp),
    compile_open_iff (hreturn _) (by simp) (by simp), ← and_or_left, unixLines_concat d rfl, hy,
    List.append_assoc, List.append_assoc, List.append_assoc]
  simp only [List.singleton_append, hfeed, hcommas, reduceCtorEq, or_false, true_and]
  exact fun ht => hsettled.exists_tuple behind_commaEnding hstar hshort rfl ht.2

/-- The source of a splat is a tuple between parentheses of its own. -/
theorem compile_dropRightWhile_iff {c : List Char} (hsplat : isSplat c = true)
    (hblank : ∀ a, c.getLast? = some a → Text.isBlank a = false)
    (hclosed : afterBracket '(' (unixLines c ++ [')']) = .ok [])
    (hjoin : c.getLast? ≠ some '\\') (hcommas : ¬ [',', ','] <:+ c) :
    (compile ('(' :: (Text.dropRightWhile (· == ',') c ++ [',', ')'])) = some t ↔
      compile ('(' :: (c ++ ['\n', ')'])) = some t ∨
        compile ('(' :: (c ++ ['\n', ',', ')'])) = some t) ∧
    (compile ('(' :: (Text.dropRightWhile (· == ',') c ++ [',', ')'])) = some t →
      ∃ first items, t = .tuple (.star first :: items)) := by
  rcases List.eq_nil_or_concat c with rfl | ⟨d, a, rfl⟩
  · cases hsplat
  rw [List.concat_eq_append] at *
  rw [List.getLast?_concat] at hblank hjoin
  by_cases hcomma : a = ','
  · subst hcomma
    have hone : d.getLast? ≠ some ',' := by
      intro hlast
      obtain ⟨e, rfl⟩ := List.getLast?_eq_some_iff.mp hlast
      exact hcommas ⟨e, by simp⟩
    rw [dropRightWhile_concat, dropRightWhile_of_getLast?_ne hone]
    exact compile_splat_comma_iff hsplat hclosed
  · rw [dropRightWhile_of_getLast?_ne (by simpa using hcomma)]
    exact compile_splat_iff hsplat (hblank a rfl) (by simpa using hjoin) hcomma hclosed

end Sources

/-! ## Splat sites -/

section Sites

variable {room : Room} {inner after c : List Char} {t : Tree}

/-- A splat is read from the trimmed text between its parentheses. -/
theorem Site.read_splat (hbracket : afterBracket '(' (inner ++ ')' :: after) = .ok after)
    (hsplat : isSplat (Text.trim inner) = true) :
    Site.read room.compile ('(' :: (inner ++ ')' :: after)) =
      (Site.make room.compile (Text.trim inner)
        ('(' :: (Text.dropRightWhile (· == ',') (Text.trim inner) ++ [',', ')'])) true).map
          fun site => (site, after) := by
  have hspan : inner ++ ')' :: after = inner ++ [')'] ++ after := by simp
  rw [hspan] at hbracket ⊢
  rw [Site.read_parenthesised hbracket, List.dropLast_concat, Site.ofInner, if_pos hsplat]

/-- A parenthesis right behind a content closes it, if one did in the text, and if only line feeds
end lines in it. -/
theorem closed_of_afterBracket (hreturn : '\r' ∉ c)
    (h : afterBracket '(' (c ++ ')' :: after) = .ok after) :
    afterBracket '(' (unixLines c ++ [')']) = .ok [] := by
  rw [unixLines_of_not_mem hreturn]
  have hspan : c ++ ')' :: after = c ++ [')'] ++ after := by simp
  have hreplace := closeBrackets_replace h hspan []
  rwa [List.append_nil] at hreplace

/-- A splat whose content ends with no comment, no backslash and one comma at most is accepted if
and only if there is room for its source and the content is a tuple between parentheses of its own,
with or without a comma in front of the closing one; the site is that tuple, and it begins with a
starred element. -/
theorem Site.read_splat_iff (hbracket : afterBracket '(' (inner ++ ')' :: after) = .ok after)
    (hcontent : Text.trim inner = c) (hsplat : isSplat c = true)
    (hclosed : afterBracket '(' (unixLines c ++ [')']) = .ok [])
    (hjoin : c.getLast? ≠ some '\\') (hcommas : ¬ [',', ','] <:+ c) :
    (∀ t, Site.read room.compile ('(' :: (inner ++ ')' :: after))
        = .ok (⟨String.ofList c, true, t⟩, after) ↔
      room.exhausts ('(' :: (Text.dropRightWhile (· == ',') c ++ [',', ')'])) = none ∧
        (compile ('(' :: (c ++ ['\n', ')'])) = some t ∨
          compile ('(' :: (c ++ ['\n', ',', ')'])) = some t)) ∧
    ∀ site rest, Site.read room.compile ('(' :: (inner ++ ')' :: after)) = .ok (site, rest) →
      rest = after ∧ ∃ first items,
        site = ⟨String.ofList c, true, .tuple (.star first :: items)⟩ := by
  have hblank : ∀ a, c.getLast? = some a → Text.isBlank a = false := by
    rw [← hcontent]
    exact fun a => isBlank_of_getLast?_trim
  have hne : c ≠ [] := by
    rintro rfl
    cases hsplat
  have hsource := fun t =>
    compile_dropRightWhile_iff (t := t) hsplat hblank hclosed hjoin hcommas
  have hread : ∀ site rest,
      Site.read room.compile ('(' :: (inner ++ ')' :: after)) = .ok (site, rest) ↔
      (room.exhausts ('(' :: (Text.dropRightWhile (· == ',') c ++ [',', ')'])) = none ∧
        ∃ t, compile ('(' :: (Text.dropRightWhile (· == ',') c ++ [',', ')'])) = some t ∧
          site = ⟨String.ofList c, true, t⟩) ∧ after = rest := by
    intro site rest
    rw [Site.read_splat hbracket (hcontent ▸ hsplat), map_fst_eq_ok_iff, hcontent,
      Site.make_room_eq_ok_iff hne]
  refine ⟨fun t => ?_, fun site rest h => ?_⟩
  · rw [hread, ← (hsource t).1]
    simp
  · obtain ⟨⟨-, t, ht, rfl⟩, rfl⟩ := (hread site rest).mp h
    obtain ⟨first, items, rfl⟩ := (hsource t).2 ht
    exact ⟨rfl, first, items, rfl⟩

set_option maxRecDepth 2000 in
/-- Two elements with a comma behind the second one, and blanks around them. -/
theorem Site.read_two_elements :
    Site.read Room.standard.compile "( *xs, *f(ys), ) b".toList =
      .ok (⟨"*xs, *f(ys),", true,
        .tuple [.star (.name "xs"), .star (.call (.name "f") [.positional (.name "ys")])]⟩,
        " b".toList) :=
  ((@Site.read_splat_iff .standard " *xs, *f(ys), ".toList " b".toList "*xs, *f(ys),".toList
    (by cbv) (by cbv) (by decide) (@closed_of_afterBracket [] _ (by decide) (by cbv))
    (by decide) (by decide)).1 _).mpr ⟨by cbv, .inl (by cbv)⟩

/-- Where the conditions do not hold: two commas at the end are accepted, and they are none of a
tuple; a comment or a backslash at the end is refused, and a tuple may have either; and where a
carriage return ends a comment of the language, the site is no tuple but a sum. -/
theorem Site.read_splat_unlike_tuple :
    (Site.read Room.standard.compile "(*xs,,)".toList
        = .ok (⟨"*xs,,", true, .tuple [.star (.name "xs")]⟩, []) ∧
      compile "(*xs,,\n)".toList = none ∧ compile "(*xs,,\n,)".toList = none) ∧
    (Site.read Room.standard.compile "(*xs # all\n)".toList
        = .error (.malformed (.invalid "*xs # all")) ∧
      compile "(*xs # all\n,)".toList = some (.tuple [.star (.name "xs")])) ∧
    (Site.read Room.standard.compile "(*xs \\\n)".toList = .error (.malformed (.invalid "*xs \\")) ∧
      compile "(*xs \\\n,)".toList = some (.tuple [.star (.name "xs")])) ∧
    Site.read Room.standard.compile "(*xs, # a\r) + (*ys\n)".toList
        = .ok (⟨"*xs, # a\r) + (*ys", true, .binary .add (.tuple [.star (.name "xs")])
          (.tuple [.star (.name "ys")])⟩, []) := by
  refine ⟨⟨?_, ?_, ?_⟩, ⟨?_, ?_⟩, ⟨?_, ?_⟩, ?_⟩ <;> cbv

end Sites

end BoundSql.Template
