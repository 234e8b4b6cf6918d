import BoundSql.Value.Collection
set_option autoImplicit false

/-!
# Names

Where the value of a name comes from: the innermost frame that the name belongs to, then the
names that all expressions of a template share, then the names that are always there.

A frame is a list of names with their values, and lives in the store, so that functions and
comprehensions that are made in a frame see what is assigned there later.  An assignment binds its
name in the frame of the function around it, and outside of all functions among the names that the
sites of a template share, which is how one site hands a value on to the next one.  Those names hide
the ones that are always there.
-/

namespace BoundSql.Eval

open BoundSql.Value
open BoundSql.Expr (Tree Clause)

/-! ## Names that are always there -/

/-- The functions that are known by name. -/
def builtinFunctions : List String :=
  ["abs", "aiter", "all", "anext", "any", "ascii", "bin", "breakpoint", "callable", "chr",
    "compile", "delattr", "dir", "divmod", "eval", "exec", "format", "getattr", "globals",
    "hasattr", "hash", "hex", "id", "input", "isinstance", "issubclass", "iter", "len", "locals",
    "max", "min", "next", "oct", "open", "ord", "pow", "print", "repr", "round", "setattr",
    "sorted", "sum", "vars", "__import__", "__build_class__"]

/-- Values that are known by name. -/
def builtinValues : List (String × Val) :=
  [("Ellipsis", .ellipsis), ("NotImplemented", .notImplemented), ("__debug__", .bool true),
    ("__name__", .str "builtins"), ("__package__", .str ""),
    ("exit", .foreign "Quitter" "Use exit() or Ctrl-D (i.e. EOF) to exit"),
    ("quit", .foreign "Quitter" "Use quit() or Ctrl-D (i.e. EOF) to exit"),
    ("help", .foreign "_Helper"
      "Type help() for interactive help, or help(object) for help about object."),
    ("license", .foreign "_Printer" "Type license() to see the full license text"),
    ("copyright", .foreign "_Printer" "Type copyright() to see the full copyright text"),
    ("credits", .foreign "_Printer" "Type credits() to see the full credits text"),
    ("__doc__", .str ("Built-in functions, exceptions, and other objects.\n\nNoteworthy: None is "
      ++ "the `nil' object; Ellipsis represents `...' in slices." : String)),
    ("__loader__", .type (.named "BuiltinImporter")), ("__spec__", .foreign "ModuleSpec"
      ("ModuleSpec(name='builtins', loader=<class '_frozen_importlib.BuiltinImporter'>, "
        ++ "origin='built-in')"))]

/-- The value of a name that is always there. -/
def builtin? (id : String) : Option Val :=
  if builtinFunctions.contains id then some (.builtin id)
  else
    match Class.ofName? id with
    | some c => some (.type c)
    | none => builtinValues.lookup id

/-! ## Reading and binding -/

/-- The bindings of a frame, empty for anything that is no frame. -/
def frameAt (address : Nat) : Eval Frame := do
  match ← Eval.load address with
  | .frame f => pure f
  | _ => pure default

/-- Bindings with a new value for a name. -/
def withBinding (id : String) (v : Val) : List (String × Val) → List (String × Val)
  | [] => [(id, v)]
  | b :: bs => if b.1 == id then (id, v) :: bs else b :: withBinding id v bs

/-- Binds a name in a frame. -/
def bindIn (address : Nat) (id : String) (v : Val) : Eval Unit := do
  let f ← frameAt address
  Eval.save address (.frame { f with values := withBinding id v f.values })

/-- The value of a name in the first frame that the name belongs to, if there is such a frame.  A
name that its own frame has not bound yet is told apart from one of a frame further out. -/
def lookupFrames (id : String) (isInnermost : Bool) : List Nat → Eval (Option Val)
  | [] => pure none
  | address :: outer => do
      let f ← frameAt address
      if f.locals.contains id then
        match f.values.lookup id with
        | some v => pure (some v)
        | none => Eval.fail (if isInnermost then .unsetLocal id else .unsetOuter id)
      else lookupFrames id false outer

/-- The name of the table of the names that are always there. -/
def tableName : String := "__builtins__"

/-- The table of the names that are always there. -/
def builtinTable : Eval Val := do
  let ids := builtinFunctions ++ Class.builtins.map Class.name ++ Class.aliases.map (·.1)
    ++ builtinValues.map (·.1)
  let entries := ids.filterMap fun id => (builtin? id).map fun v => (Val.str id, v)
  Eval.make (.dict entries.toArray)

/-- What a table that takes the place of the names that are always there has for a name. -/
def lookupIn (table : Val) (id : String) : Eval Val :=
  tryCatch (readItem table (.str id)) fun fault =>
    Eval.fail (if fault = .missingKey then .unknownName id else fault)

/-- The environment with the table that the shared names have now, if they have one. -/
def withTable (env : Env) : Eval Env := do
  pure { env with builtins := (← frameAt env.globals).values.lookup tableName }

/-- The value of a name. -/
def lookupName (env : Env) (id : String) : Eval Val := do
  match ← lookupFrames id true env.frames with
  | some v => pure v
  | none => do
      match (← frameAt env.globals).values.lookup id with
      | some v => pure v
      | none =>
          if id == tableName then do
            let table ← builtinTable
            bindIn env.globals id table
            pure table
          else
            match env.builtins with
            | some table => lookupIn table id
            | none => Eval.orFail (.unknownName id) (builtin? id)

/-- The frame that an assignment binds its name in: that of the function around it, or the shared
names. -/
def assignmentFrame (globals : Nat) : List Nat → Eval Nat
  | [] => pure globals
  | address :: outer => do
      if (← frameAt address).isFunction then pure address else assignmentFrame globals outer

/-- Binds a name by assignment. -/
def assignName (env : Env) (id : String) (v : Val) : Eval Unit := do
  bindIn (← assignmentFrame env.globals env.frames) id v

/-! ## Names that belong to a frame -/

/-- The names that the target of a clause binds; `fuel` bounds the depth of the target. -/
def targetNames : (fuel : Nat) → Tree → List String
  | 0, _ => []
  | fuel + 1, t =>
      match t with
      | .name id => [id]
      | .tuple ts | .list ts => ts.flatMap (targetNames fuel)
      | .star t => targetNames fuel t
      | _ => []

/-- The names that clauses bind. -/
def clauseNames (clauses : List Clause) : List String :=
  clauses.flatMap fun
    | .mk _ target _ _ => targetNames 1000 target

theorem withBinding_lookup (id : String) (v : Val) (bs : List (String × Val)) :
    (withBinding id v bs).lookup id = some v := by
  induction bs with
  | nil => simp [withBinding]
  | cons b bs ih =>
      obtain ⟨key, w⟩ := b
      by_cases h : key = id
      · simp [withBinding, h]
      · have h' : (id == key) = false := by simp [Ne.symm h]
        simp [withBinding, h, List.lookup_cons, h', ih]

end BoundSql.Eval
