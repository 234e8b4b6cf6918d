import BoundSql.Eval.Arguments
import BoundSql.Eval.Sorting
import BoundSql.Value.Operator
set_option autoImplicit false

/-!
# Methods of collections

What the methods of lists, tuples and dictionaries answer with, and how they change the collection
that they belong to.

A list or a dictionary lives in the store, so its methods load it, change it there and answer with
nothing or with what they took out; a tuple is a value and has only the methods that search.
Elements are compared as the language does, the same object first, which may fail in the middle of a
method; what was changed until then stays changed.  A dictionary takes up the entries of another
one, or pairs, and behind them the keywords of the call.
-/

namespace BoundSql.Eval

open BoundSql.Value

/-! ## Lists and other rows -/

/-- A bound of a search, moved into a row. -/
def searchBound (length : Nat) (i : Int) : Nat := (if i < 0 then max 0 (i + length) else i).toNat

/-- The index of a value in a row, between optional bounds. -/
def indexOf (items : List Val) (args : List Val) (keywords : Keywords) : Eval Val := do
  let args ← positional args keywords 1 3
  let start := searchBound items.length (← intOr 0 args[1]?)
  let stop := searchBound items.length (← intOr items.length args[2]?)
  let v := args.headD .none
  match ← findElement v start ((items.take stop).drop start) with
  | some i => pure (.int i)
  | none => Eval.fail .wrongValue

/-- A method that rows share. -/
def rowMethod (items : List Val) (name : String) (args : List Val) (keywords : Keywords) :
    Eval Val := do
  match name with
  | "index" => indexOf items args keywords
  | "count" => do pure (.int (← countElement (← single args keywords) items))
  | _ => Eval.fail .missingAttribute

/-- The elements of a list or tuple. -/
def asRow? (v : Val) : Eval (Option (List Val)) := do
  match v with
  | .tuple items => pure (some items)
  | .object address => do
      match ← Eval.load address with
      | .list items => pure (some items.toList)
      | _ => pure none
  | _ => pure none

/-- A method of a list. -/
def listMethod (e : Engine) (address : Nat) (items : Array Val) (name : String)
    (args : List Val) (keywords : Keywords) : Eval Val := do
  let keep (items : Array Val) : Eval Val := do
    Eval.save address (.list items)
    pure .none
  match name with
  | "append" => do keep (items.push (← single args keywords))
  | "extend" => do
      let v ← single args keywords
      match ← asRow? v with
      | some more => keep (items ++ more.toArray)
      | none => do
          e.fold v () fun _ w => do
            Eval.change address fun
              | .list items => .list (items.push w)
              | o => o
            pure (.yield ())
          pure .none
  | "insert" => do
      match ← positional args keywords 2 2 with
      | [index, v] => do
          let i := min (searchBound items.size (← indexArgument index)) items.size
          keep ((items.toList.take i ++ v :: items.toList.drop i).toArray)
      | _ => Eval.fail .wrongType
  | "pop" => do
      let args ← positional args keywords 0 1
      let i ← indexOr (-1) args.head?
      match place? items.size i with
      | some place => do
          let v := items[place]?.getD .none
          let _ ← keep (eraseAt items place)
          pure v
      | none => Eval.fail .outOfRange
  | "remove" => do
      match ← findElement (← single args keywords) 0 items.toList with
      | some i => keep (eraseAt items i)
      | none => Eval.fail .wrongValue
  | "clear" => do
      nothing args keywords
      keep #[]
  | "reverse" => do
      nothing args keywords
      keep items.reverse
  | "copy" => do
      nothing args keywords
      Eval.make (.list items)
  | "sort" => do
      match ← named args keywords [] ["key", "reverse"] 0 with
      | [key, descending] => do
          let descending ← flagArgument descending
          let _ ← keep #[]
          let sort := sortValues e (key.getD .none) descending items.toList
          let sorted ← tryCatch sort fun fault => do
            let _ ← keep items
            Eval.fail fault
          let changed := (← size? (.object address)) != some 0
          let _ ← keep sorted.toArray
          if changed then Eval.fail .wrongValue
          pure .none
      | _ => Eval.fail .wrongType
  | name => rowMethod items.toList name args keywords

/-! ## Dictionaries -/

/-- The two elements of a pair. -/
def pairOf (e : Engine) (v : Val) : Eval (Val × Val) := do
  match ← e.elements v with
  | [k, w] => pure (k, w)
  | _ => Eval.fail .wrongValue

/-- Sets the value of a key in the dictionary at an address. -/
def putEntry (address : Nat) (key value : Val) : Eval Unit := do
  match ← Eval.load address with
  | .dict entries => do Eval.save address (.dict (← insertEntry entries key value))
  | _ => Eval.fail .wrongType

/-- Takes over the entries of a mapping, or the pairs of a row, into the dictionary at an
address. -/
def putAll (e : Engine) (address : Nat) (v : Val) : Eval Unit := do
  match ← asEntries? v with
  | some entries => entries.toList.forM fun p => putEntry address p.1 p.2
  | none =>
      e.fold v () fun _ p => do
        let (k, w) ← pairOf e p
        putEntry address k w
        pure (.yield ())

/-- Changes the dictionary at an address by the arguments of an update. -/
def updateDict (e : Engine) (address : Nat) (args : List Val) (keywords : Keywords) :
    Eval Unit := do
  (← positional args [] 0 1).forM (putAll e address)
  keywords.forM fun k => putEntry address (.str (k.1 : String)) k.2

/-- Makes a dictionary and fills it. -/
def filledDict (fill : Nat → Eval Unit) : Eval Val := do
  let dict ← Eval.make (.dict #[])
  match dict with
  | .object address => do
      fill address
      pure dict
  | _ => pure dict

/-- A method of a dictionary. -/
def dictMethod (e : Engine) (address : Nat) (entries : Entries) (name : String)
    (args : List Val) (keywords : Keywords) : Eval Val := do
  let keep (entries : Entries) : Eval Unit := Eval.save address (.dict entries)
  let view (kind : ViewKind) : Eval Val := do
    nothing args keywords
    pure (.view kind address)
  match name with
  | "keys" => view .keys
  | "values" => view .values
  | "items" => view .items
  | "get" => do
      let args ← positional args keywords 1 2
      match ← lookupEntry entries (args.headD .none) with
      | some (_, v) => pure v
      | none => pure (args[1]?.getD .none)
  | "setdefault" => do
      let args ← positional args keywords 1 2
      let key := args.headD .none
      match ← lookupEntry entries key with
      | some (_, v) => pure v
      | none => do
          let v := args[1]?.getD .none
          keep (entries.push (key, v))
          pure v
  | "pop" => do
      let args ← positional args keywords 1 2
      if entries.isEmpty then Eval.orFail .missingKey args[1]?
      else
        match ← lookupEntry entries (args.headD .none) with
        | some (i, v) => do
            keep (eraseAt entries i)
            pure v
        | none => Eval.orFail .missingKey args[1]?
  | "popitem" => do
      nothing args keywords
      match entries.back? with
      | some (k, v) => do
          keep entries.pop
          pure (.tuple [k, v])
      | none => Eval.fail .missingKey
  | "update" => do
      updateDict e address args keywords
      pure .none
  | "clear" => do
      nothing args keywords
      keep #[]
      pure .none
  | "copy" => do
      nothing args keywords
      Eval.make (.dict entries)
  | _ => Eval.fail .missingAttribute

/-- A dictionary with one value for all of the given keys. -/
def dictOfKeys (e : Engine) (args : List Val) (keywords : Keywords) : Eval Val := do
  let args ← positional args keywords 1 2
  let v := args[1]?.getD .none
  filledDict fun address => e.fold (args.headD .none) () fun _ k => do
    putEntry address k v
    pure (.yield ())

end BoundSql.Eval
