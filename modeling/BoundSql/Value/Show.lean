import BoundSql.Decimal.Places
import BoundSql.Query.Compiler
import BoundSql.Text.Quoted
import BoundSql.Value.Basic
set_option autoImplicit false

/-!
# The text of values

How values are shown.  A collection that contains itself is shown as an ellipsis where it recurs,
an integer with too many digits is not shown at all, and a place in memory is left out.

The depth of values is bounded by what an interpreter can go down (`depthLimit`), and showing fails
below that.  The text of a value for a reader and the text that shows it are two things: a text is
itself in the first one, and stands between quotes in the second one.  Queries are shown by the SQL
text that they compile to.
-/

namespace BoundSql.Value

open BoundSql.Query (Node)

/-- The most decimal digits that an integer is converted to or from text with. -/
def digitLimit : Nat := 4300

/-- The least natural number with too many digits. -/
def digitBound : Nat := Nat.pow 10 digitLimit

/-- The decimal text of an integer. -/
def intText (n : Int) : Eval String :=
  if digitBound ≤ n.natAbs then Eval.fail .wrongValue
  else pure (if n < 0 then "-" ++ Decimal.natText n.natAbs else Decimal.natText n.natAbs)

/-- A floating point number without the zero behind its point. -/
def bareFloatText (x : Float) : String :=
  let s := Decimal.floatText x
  if s.endsWith ".0" then (s.dropEnd 2).toString else s

/-- The text of a complex number. -/
def complexText (re im : Float) : String :=
  let imaginary := bareFloatText im ++ "j"
  if re == 0 && !Decimal.isNegative re then imaginary
  else
    let sign := if Decimal.isNegative im && !im.isNaN then "" else "+"
    "(" ++ bareFloatText re ++ sign ++ imaginary ++ ")"

/-- The items of a tuple between parentheses; a single item keeps a comma. -/
def tupleText : List String → String
  | [s] => "(" ++ s ++ ",)"
  | ss => "(" ++ String.intercalate ", " ss ++ ")"

/-- The texts between brackets, separated by commas. -/
def listText (ss : List String) : String := "[" ++ String.intercalate ", " ss ++ "]"

/-- A dictionary of texts. -/
def dictText (ss : List (String × String)) : String :=
  "\x7b" ++ String.intercalate ", " (ss.map fun e => e.1 ++ ": " ++ e.2) ++ "\x7d"

/-- A text in which every character outside of ASCII is escaped. -/
def asciiOnly (s : String) : String :=
  String.ofList (s.toList.flatMap fun c =>
    if c.toNat < 128 then [c] else Text.codePointEscape c.toNat)

/-- A value as a text that tells its kind.  `fuel` bounds the depth of nesting, and `inside` holds
the addresses of the collections around the value. -/
def shownWithin : (fuel : Nat) → (inside : List Nat) → Val → Eval String
  | 0, _, _ => Eval.fail .tooDeep
  | fuel + 1, inside, v => do
      let shown := shownWithin fuel inside
      let pairs (es : List (Val × Val)) (inside : List Nat) : Eval (List (String × String)) :=
        es.mapM fun e => do pure (← shownWithin fuel inside e.1, ← shownWithin fuel inside e.2)
      match v with
      | .none => pure "None"
      | .ellipsis => pure "Ellipsis"
      | .notImplemented => pure "NotImplemented"
      | .bool b => pure (if b then "True" else "False")
      | .int n => intText n
      | .float x => pure (Decimal.floatText x)
      | .nan _ => pure "nan"
      | .complex re im => pure (complexText re im)
      | .str s => pure (Text.quotedText s)
      | .bytes bs => pure (Text.quotedBytes bs)
      | .tuple items => do pure (tupleText (← items.mapM shown))
      | .range start stop step => do
          let parts ← (if step = 1 then [start, stop] else [start, stop, step]).mapM intText
          pure ("range(" ++ String.intercalate ", " parts ++ ")")
      | .slice start stop step => do
          let parts ← [start, stop, step].mapM shown
          pure ("slice(" ++ String.intercalate ", " parts ++ ")")
      | .literal fragment => pure ("Literal(fragment=" ++ Text.quoted fragment ++ ")")
      | .argument value => do pure ("Argument(value=" ++ (← shown value) ++ ")")
      | .splat items => do pure ("SplatArgs(args=" ++ tupleText (← items.mapM shown) ++ ")")
      | .sql args => do
          let parts ← args.mapM fun
            | .literal fragment => shown (.literal fragment)
            | .argument value => shown (.argument value)
          pure ("Sql(args=" ++ tupleText parts ++ ")")
      | .type c => pure c.shown
      | .union members => pure (String.intercalate " | " (members.map Class.shownInUnion))
      | .builtin name => pure ("<built-in function " ++ name ++ ">")
      | .method self name => do
          let className ← classNameOf self
          if className = "CompiledQuery" then
            pure ("<bound method " ++ className ++ "." ++ name ++ " of " ++ (← shown self) ++ ">")
          else pure ("<built-in method " ++ name ++ " of " ++ className ++ " object at 0x>")
      | .unbound c name => pure ("<method '" ++ name ++ "' of '" ++ c.name ++ "' objects>")
      | .foreign _ text => pure text
      | .view kind address => do
          if inside.contains address then pure "..."
          else
            let entries ← match ← Eval.load address with
              | .dict entries => pure entries.toList
              | _ => pure []
            let ss ← pairs entries (address :: inside)
            let body := match kind with
              | .keys => listText (ss.map (·.1))
              | .values => listText (ss.map (·.2))
              | .items => listText (ss.map fun e => tupleText [e.1, e.2])
            pure (kind.className ++ "(" ++ body ++ ")")
      | .object address => do
          let o ← Eval.load address
          let recurs := inside.contains address
          let nested := shownWithin fuel (address :: inside)
          match o with
          | .list items =>
              if recurs then pure "[...]" else do pure (listText (← items.toList.mapM nested))
          | .dict entries =>
              if recurs then pure "\x7b...\x7d"
              else do pure (dictText (← pairs entries.toList (address :: inside)))
          | .set frozen t => do
              let ss ← t.elements.mapM nested
              let body := "\x7b" ++ String.intercalate ", " ss ++ "\x7d"
              match frozen, ss with
              | false, [] => pure "set()"
              | false, _ => pure body
              | true, [] => pure "frozenset()"
              | true, _ => pure ("frozenset(" ++ body ++ ")")
          | .record fields =>
              if recurs then pure "namespace(...)"
              else do
                let ss ← (fields.filter (·.1 != "")).mapM fun e => do
                  pure (e.1 ++ "=" ++ (← nested e.2))
                pure ("namespace(" ++ String.intercalate ", " ss ++ ")")
          | .compiled sql params =>
              if recurs then pure "..."
              else do
                pure ("CompiledQuery(sql=" ++ (← nested sql) ++ ", params=" ++ (← nested params)
                  ++ ")")
          | .iterator it =>
              pure (match it with
                | .generator g => "<generator object " ++ g.name ++ " at 0x>"
                | .yielding name .. => "<generator object " ++ name ++ " at 0x>"
                | _ => "<" ++ it.className ++ " object at 0x>")
          | .function f => pure ("<function " ++ f.name ++ " at 0x>")
          | .frame _ => pure "<frame at 0x>"

/-- A value as a text that tells its kind. -/
def shown (v : Val) : Eval String := shownWithin depthLimit [] v

/-- The readable account of a query that was written out. -/
def accountOf (sql : String) (params : List Val) : Eval String := do
  pure (Query.account sql (← params.mapM shown))

/-- The readable account of a query. -/
def sqlText (args : List (Node Val)) : Eval String :=
  let c := Query.Compiler.compile {} (V := Val) ⟨args⟩
  accountOf c.sql c.params

/-- A value as plain text. -/
def textOf : Val → Eval Text
  | .str s => pure s
  | .sql args => do pure (← sqlText args)
  | v => do pure (← shown v)

end BoundSql.Value
