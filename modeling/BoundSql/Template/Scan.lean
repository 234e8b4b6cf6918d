import BoundSql.Template.Settings
import BoundSql.Template.Site
set_option autoImplicit false

/-!
# Scanning a template

Template text is first cut into pieces: single characters of literal SQL, escaped markers, and
sites.  The pieces are then gathered into parts: runs of literal text and the sites between
them.  An SQL string runs from one single quote to the next; a doubled quote inside a string
closes it and opens it again at once, so that nothing has to be known about it.

`pieces` cuts and keeps one flag, whether the text stands inside an SQL string; `gather` knows
nothing of strings.  The first piece that cannot be cut off ends the scan, and its failure carries
the place of the marker and the text from there on (`ScanError.failure`).  What becomes of an
expression is a parameter, with a third answer beside yes and no: something may run out before there
is one of the two (`Verdict`).  So one scan has all outcomes that making a template can have.
-/

namespace BoundSql.Template

/-! ## Pieces -/

/-- A piece of template text. -/
inductive Piece (Code : Type) where
  /-- a character of literal SQL -/
  | char (c : Char)
  /-- an escape character and a marker, which stand for the marker -/
  | escapedMarker
  /-- a marker and the text that its site takes up -/
  | site (site : Site Code) (span : List Char)
  deriving DecidableEq, Repr, Inhabited

/-- Why cutting stopped. -/
inductive ScanCause where
  /-- a marker inside an SQL string -/
  | quotedMarker
  /-- a marker behind which no site was read -/
  | unread (why : Unread)
  deriving DecidableEq, Repr, Inhabited

/-- Where cutting stopped: the cause and the text from the marker in question on. -/
structure ScanError where
  cause : ScanCause
  suffix : List Char
  deriving DecidableEq, Repr, Inhabited

/-- Cuts text into pieces.  `inString` says whether the text begins inside an SQL string. -/
def pieces {Code : Type} (settings : Settings) (compile : List Char → Verdict Code)
    (inString : Bool) (cs : List Char) : Except ScanError (List (Piece Code)) :=
  match cs with
  | [] => .ok []
  | c :: rest =>
      if c = settings.marker then
        if inString then
          if settings.allowMarkersInStrings then
            (pieces settings compile inString rest).map (.char c :: ·)
          else .error ⟨.quotedMarker, cs⟩
        else
          match h : Site.read compile rest with
          | .error why => .error ⟨.unread why, cs⟩
          | .ok (site, after) =>
              have := Site.read_length_lt h
              (pieces settings compile inString after).map
                (.site site (spanBefore rest after) :: ·)
      else if c = settings.escape ∧ inString = false then
        match rest with
        | [] => .ok [.char c]
        | d :: after =>
            if d = settings.marker then
              (pieces settings compile inString after).map (.escapedMarker :: ·)
            else (pieces settings compile inString (d :: after)).map (.char c :: ·)
      else if c = '\'' then (pieces settings compile (!inString) rest).map (.char c :: ·)
      else (pieces settings compile inString rest).map (.char c :: ·)
termination_by cs.length
decreasing_by all_goals simp_wf <;> omega

/-! ## Parts -/

/-- A part of a scanned template. -/
inductive Part (Code : Type) where
  | literal (text : String)
  | site (site : Site Code)
  deriving DecidableEq, Repr, Inhabited

/-- A run of literal text, collected in reverse, as a part; an empty run is no part. -/
def literalPart {Code : Type} : List Char → List (Part Code)
  | [] => []
  | cs => [.literal (String.ofList cs.reverse)]

/-- Gathers pieces into parts.  An escaped marker begins a new run of literal text. -/
def gather {Code : Type} (marker : Char) (run : List Char) :
    List (Piece Code) → List (Part Code)
  | [] => literalPart run
  | .char c :: ps => gather marker (c :: run) ps
  | .escapedMarker :: ps => literalPart run ++ gather marker [marker] ps
  | .site s _ :: ps => literalPart run ++ .site s :: gather marker [] ps

/-- Scans text; a failure carries the text from the offending marker on. -/
def scanChars {Code : Type} (settings : Settings) (compile : List Char → Verdict Code)
    (cs : List Char) : Except ScanError (List (Part Code)) :=
  (pieces settings compile false cs).map (gather settings.marker [])

/-- What fails at the marker at a position if no site is read behind it. -/
def Unread.failure (text : String) (position : Int) : Unread → ScanFailure
  | malformed reason => .refused (.malformed text position reason)
  | exhausted e => .exhausted e

/-- The failure of a scan of a template text. -/
def ScanError.failure (text : String) (e : ScanError) : ScanFailure :=
  let position : Int := text.toList.length - e.suffix.length
  match e.cause with
  | .quotedMarker => .refused (.quotedMarker text position)
  | .unread why => why.failure text position

/-- Scans template text into its parts.  The first thing that goes wrong ends the scan, be it a
refusal or that something runs out over an expression. -/
def scan {Code : Type} (settings : Settings) (compile : List Char → Verdict Code)
    (text : String) : Except ScanFailure (List (Part Code)) :=
  (scanChars settings compile text.toList).mapError (·.failure text)

/-- Reads the single site that begins at the offset `start` of a text, and answers with the
offset behind it.  A refusal is placed at the character in front of `start`, where the marker
stands. -/
def siteAt {Code : Type} (compile : List Char → Verdict Code) (text : String) (start : Nat) :
    Except ScanFailure (Site Code × Nat) :=
  match Site.read compile (text.toList.drop start) with
  | .error why => .error (why.failure text ((start : Int) - 1))
  | .ok (site, rest) => .ok (site, text.toList.length - rest.length)

/-- The number of sites among the parts. -/
def siteCount {Code : Type} (parts : List (Part Code)) : Nat :=
  parts.countP fun
    | .site _ => true
    | .literal _ => false

/-! ## Small facts -/

theorem literalPart_nil {Code : Type} : literalPart ([] : List Char) = ([] : List (Part Code)) :=
  rfl

theorem gather_nil {Code : Type} (marker : Char) (run : List Char) :
    gather marker run ([] : List (Piece Code)) = literalPart run := rfl

theorem scanChars_nil {Code : Type} (settings : Settings) (compile : List Char → Verdict Code) :
    scanChars settings compile [] = .ok [] := by
  simp [scanChars, pieces, Except.map, gather, literalPart]

end BoundSql.Template
