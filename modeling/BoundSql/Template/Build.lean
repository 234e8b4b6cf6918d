import BoundSql.Eval.Evaluate
import BoundSql.Template.Binding
import BoundSql.Template.Items
import BoundSql.Template.Room
import BoundSql.Value.Show
set_option autoImplicit false

/-!
# Building queries

Queries from template text and values, and from rows of items.  Names are looked up in layers: a
name of a later layer hides the same name of an earlier one.  The names that one binding sees, and
those that it adds, belong to that binding alone.

Template text is scanned in a room (`Room`): a scan that runs out over an expression fails like an
evaluation that does, and not with a refusal of the text.

There are two ways to a query.  `templateOf` scans a text and `bindTemplate` binds it; `fromItems`
takes a row of texts and values that is cut apart already.  `makeSql` chooses between them by what
it is given, a text, a row of items, or texts with values between them, and refuses settings and
names for everything but text.
-/

namespace BoundSql.Template

open BoundSql.Expr (Tree)
open BoundSql.Query (Sql)
open BoundSql.Value (Env Eval Fault Store Val)

/-! ## Refusals -/

/-- Why a query was not built. -/
inductive Refusal where
  | template (e : TemplateError)
  | settings (e : SettingsError)
  /-- settings or names were given for items, which know neither -/
  | options
  | fault (f : Fault)
  deriving DecidableEq, Repr, Inhabited

namespace Refusal

/-- The name of the kind of refusal. -/
def kind : Refusal → String
  | template e => e.kind
  | settings _ => "ValueError"
  | options => "TypeError"
  | fault f => f.kind

/-- The wording of a refusal, where it has one of its own. -/
def message? : Refusal → Option String
  | template e => some e.message
  | settings e => some e.message
  | options =>
      some ("settings and keyword values only apply to template text, not pre-tokenized parts.")
  | fault f => f.message?

/-- The details of a refusal, where it has some. -/
def details? : Refusal → Option Details
  | template e => some e.details
  | _ => none

end Refusal

/-- A computation that builds queries. -/
abbrev Build (α : Type) : Type := EStateM Refusal Store α

namespace Build

/-- A computation on values as a part of building. -/
def ofEval {α : Type} (x : Eval α) : Build α := fun s =>
  match x s with
  | .ok a s => .ok a s
  | .error f s => .error (.fault f) s

/-- Refuses. -/
def refuse {α : Type} (r : Refusal) : Build α := throw r

end Build

/-- Running out as a failure like those of evaluation. -/
def Exhaustion.fault : Exhaustion → Fault
  | stack => .tooDeep
  | memory => .tooLarge

/-- A failure of a scan as the reason why no query was built. -/
def ScanFailure.refusal : ScanFailure → Refusal
  | refused e => .template e
  | exhausted e => .fault e.fault

/-- What comes of a scan as a part of building. -/
def Build.ofScan {α : Type} : Except ScanFailure α → Build α
  | .ok a => pure a
  | .error f => refuse f.refusal

/-! ## Templates -/

/-- A template over the expression language. -/
abbrev ExprTemplate : Type := Scanned Tree

/-- Makes a template of text. -/
def templateOf (room : Room) (settings : Settings) (text : String) : Build ExprTemplate := do
  let parts ← Build.ofScan (scan settings room.compile text)
  pure ⟨text, parts⟩

/-- Reads the single site that begins at an offset of a text, and answers with the offset behind
it. -/
def readSite (room : Room) (text : String) (start : Nat) : Build (Site Tree × Nat) :=
  Build.ofScan (siteAt room.compile text start)

/-- The refusal of a value that is no template. -/
def unsupported {α : Type} (v : Val) : Build α := do
  let shown ← Build.ofEval (Value.shown v)
  Build.refuse (.template (.unsupported shown))

/-- Scans a value, which has to be a text. -/
def scanValue (room : Room) (settings : Settings) (v : Val) : Build ExprTemplate := do
  match v with
  | .str text => templateOf room settings (Text.plain text)
  | v => unsupported v

/-! ## Binding -/

/-- Names with values. -/
abbrev Names : Type := List (String × Val)

/-- The names of several layers, later ones before earlier ones. -/
def layered (layers : List Names) : Names :=
  layers.flatten.foldl (fun names b => Eval.withBinding b.1 b.2 names) []

/-- Evaluation of sites where some names are shared. -/
def evaluator (env : Env) : Evaluator Eval Tree Val where
  value t := do Eval.engine.eval (← Eval.withTable env) t
  elements := Eval.engine.elements
  element := Value.elementOf

/-- Binds a template.  The names live in a frame made for this binding. -/
def bindTemplate (t : ExprTemplate) (layers : List Names) : Eval (Sql Val) := do
  let shared : Value.Frame := { isFunction := false, locals := [], values := layered layers }
  match ← Value.Eval.make (.frame shared) with
  | .object globals => (evaluator { frames := [], globals }).bind t.parts
  | _ => Value.Eval.fail .tooDeep

/-! ## Items -/

/-- A value as an item: a text is literal SQL. -/
def itemOf : Val → Item Val
  | .str s => .text (Text.plain s)
  | v => .value v

/-- The text that describes items: texts as they are, and values between braces. -/
def described (items : List (Item Val)) : Eval String := do
  let texts ← items.mapM fun
    | .text s => pure s
    | .value v => do pure ("\x7b" ++ (← Value.shown v) ++ "\x7d")
  pure (String.join texts)

/-- The query that items stand for. -/
def fromItems (items : List (Item Val)) : Build (Sql Val) := do
  match sqlOfItems Value.elementOf items with
  | .ok q => pure q
  | .error i => do
      let template ← Build.ofEval (described items)
      let subexpression ← Build.ofEval (described (neighbours items i))
      Build.refuse (.template (.quotedPart template i subexpression))

/-- The query that the elements of a value stand for as items. -/
def fromElements (v : Val) : Build (Sql Val) := do
  let vs ← Build.ofEval (Eval.engine.elements v)
  fromItems (vs.map itemOf)

/-! ## Queries from anything -/

/-- What a query can be made from. -/
inductive Source where
  | value (v : Val)
  /-- texts with values between them, which are never literal SQL -/
  | interpolated (items : List (Item Val))
  deriving Inhabited

/-- The name under which settings may stand among the names of a query. -/
def settingsName : String := "settings"

/-- The settings that a value stands for: the default ones if it counts as false, and otherwise an
object with the parts of settings as its attributes. -/
def settingsOfValue (v : Val) : Build Settings := do
  if ← Build.ofEval (Value.truth v) then
    let part (field : String) : Build Val := Build.ofEval (Value.readAttribute v field)
    let marker ← part "marker"
    let escape ← part "escape"
    let allow ← part "allow_markers_in_strings"
    match marker, escape with
    | .str m, .str e =>
        let allow ← Build.ofEval (Value.truth allow)
        match Settings.ofTexts allow (Text.plain m) (Text.plain e) with
        | .ok settings => pure settings
        | .error e => Build.refuse (.settings e)
    | _, _ => Build.refuse (.fault .missingAttribute)
  else pure default

/-- Makes a query: template text is scanned and bound, and the items of a list or tuple are put
together.  `settings` are those that were asked for, if any, and `values` are the names that
belong to the query, where settings may stand, too; both are for template text alone.
`surroundings` are the layers of names around the query. -/
def makeSql (room : Room) (settings : Option Settings) (surroundings : List Names) (values : Names)
    (source : Source) : Build (Sql Val) := do
  let named := (values.lookup settingsName).getD .none
  let values := values.filter (·.1 != settingsName)
  let refuseOptions : Build Unit :=
    match settings, named, values with
    | none, .none, [] => pure ()
    | _, _, _ => Build.refuse .options
  match source with
  | .value (.str text) => do
      let settings ← match settings with
        | some s => pure s
        | none => settingsOfValue named
      let t ← templateOf room settings (Text.plain text)
      Build.ofEval (bindTemplate t (surroundings ++ [values]))
  | .value (.tuple items) => do
      refuseOptions
      fromItems (items.map itemOf)
  | .value v => do
      match ← Build.ofEval (Value.classOf v) with
      | .list => do
          refuseOptions
          fromElements v
      | _ => unsupported v
  | .interpolated items => do
      refuseOptions
      fromItems (items.map fun
        | .text s => .text s
        | .value v => .value (Value.bound v))

end BoundSql.Template
