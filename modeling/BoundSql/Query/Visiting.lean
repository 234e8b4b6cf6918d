import BoundSql.Query.Compiler
set_option autoImplicit false

/-!
# Compiling in shared memory

A compiler is an object that holds a list of parameters, and the number of a placeholder is the
length of that list while a query is being visited.  Here compiling is taken apart into the steps
that touch memory, so that several calls on one compiler can take turns.  A call copies the
compiler, gives the copy a list of its own, visits the nodes of its query one by one, and answers
with the text and the list.  Whoever has an answer may add to its list.
-/

namespace BoundSql.Query

/-! ## Memory -/

/-- A compiler as an object: how it writes, and the address of its list of parameters. -/
structure CompilerObject where
  compiler : Compiler
  params : Nat

/-- The compilers and the lists of parameters that exist, by their addresses. -/
structure Memory (V : Type) where
  compilers : List CompilerObject := []
  lists : List (List V) := []
  deriving Inhabited

/-- The memory in which there is a compiler and nothing else. -/
def Memory.fresh {V : Type} (c : Compiler) : Memory V := ⟨[⟨c, 0⟩], [[]]⟩

/-! ## Calls -/

/-- How far a call has come.  `self` is the address of its copy of the compiler. -/
inductive Progress (V : Type) where
  | called
  /-- the copy still shares the list of the original -/
  | copied (self : Nat)
  /-- these nodes are left, and those before them have these texts -/
  | visiting (self : Nat) (rest : List (Node V)) (texts : List String)
  /-- the value of an argument has been added to the list, and its number has not been read off -/
  | counting (self : Nat) (rest : List (Node V)) (texts : List String)
  /-- the answer: the text, and the address of the list of parameters -/
  | returned (sql : String) (params : Nat)
  deriving Inhabited

/-- The answer of a call that has returned: its text, and the address of its list. -/
def Progress.answer? {V : Type} : Progress V → Option (String × Nat)
  | returned sql params => some (sql, params)
  | _ => none

/-- A call of the compiler at an address. -/
structure Call (V : Type) where
  on : Nat
  query : Sql V
  progress : Progress V := .called
  deriving Inhabited

/-- The next step of a call: the memory and the progress behind it.  A call that has returned has
none. -/
def Call.step {V : Type} (m : Memory V) (call : Call V) : Option (Memory V × Progress V) :=
  match call.progress with
  | .called => do
      let object ← m.compilers[call.on]?
      some (⟨m.compilers ++ [object], m.lists⟩, .copied m.compilers.length)
  | .copied self => do
      let object ← m.compilers[self]?
      some (⟨m.compilers.set self { object with params := m.lists.length }, m.lists ++ [[]]⟩,
        .visiting self call.query.args [])
  | .visiting self [] texts => do
      let object ← m.compilers[self]?
      some (m, .returned (String.join texts) object.params)
  | .visiting self (.literal fragment :: rest) texts => do
      let object ← m.compilers[self]?
      some (m, .visiting self rest (texts ++ [object.compiler.literalText fragment]))
  | .visiting self (.argument v :: rest) texts => do
      let object ← m.compilers[self]?
      let values ← m.lists[object.params]?
      some ({ m with lists := m.lists.set object.params (values ++ [v]) },
        .counting self rest texts)
  | .counting self rest texts => do
      let object ← m.compilers[self]?
      let values ← m.lists[object.params]?
      some (m, .visiting self rest (texts ++ [object.compiler.placeholder values.length]))
  | .returned _ _ => none

/-! ## Calls that take turns -/

/-- Several calls and the memory that they share. -/
structure World (V : Type) where
  memory : Memory V
  calls : List (Call V)
  deriving Inhabited

/-- What can happen next. -/
inductive Action (V : Type) where
  /-- a call makes its next step -/
  | turn (call : Nat)
  /-- a value is added to the list of parameters of an answer -/
  | add (call : Nat) (v : V)
  deriving DecidableEq, Repr, Inhabited

namespace World

variable {V : Type}

/-- The world in which calls of the compilers at the given addresses have just been made. -/
def start (m : Memory V) (requests : List (Nat × Sql V)) : World V :=
  ⟨m, requests.map fun r => { on := r.1, query := r.2 }⟩

/-- The world behind an action, if the action can happen. -/
def step (w : World V) : Action V → Option (World V)
  | .turn i => do
      let call ← w.calls[i]?
      let (memory, progress) ← call.step w.memory
      some ⟨memory, w.calls.set i { call with progress }⟩
  | .add i v => do
      let call ← w.calls[i]?
      let (_, params) ← call.progress.answer?
      let values ← w.memory.lists[params]?
      some { w with memory := { w.memory with
        lists := w.memory.lists.set params (values ++ [v]) } }

/-- The world behind several actions. -/
def run (w : World V) : List (Action V) → Option (World V)
  | [] => some w
  | a :: schedule => do (← w.step a).run schedule

/-- The answer of a call as it is now, if the call has returned. -/
def result? (w : World V) (i : Nat) : Option (Compiled V) := do
  let call ← w.calls[i]?
  let (sql, params) ← call.progress.answer?
  let values ← w.memory.lists[params]?
  some ⟨sql, values⟩

end World

/-- The steps that a call needs for nodes: one for literal text, two for an argument. -/
def visitSteps {V : Type} (ns : List (Node V)) : Nat :=
  ns.length + (ns.filterMap Node.value?).length

/-- The steps that a call needs: for the copy, for its list, for the nodes, and for the answer. -/
def callSteps {V : Type} (q : Sql V) : Nat := visitSteps q.args + 3

/-- What a call answers with if it is made on a fresh compiler and nothing else happens. -/
def compileAlone {V : Type} (c : Compiler) (q : Sql V) : Option (Compiled V) := do
  let w ← (World.start (.fresh c) [(0, q)]).run (List.replicate (callSteps q) (.turn 0))
  w.result? 0

end BoundSql.Query
