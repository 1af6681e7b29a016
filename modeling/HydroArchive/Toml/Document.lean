import HydroArchive.Toml.Lexeme
import HydroArchive.Toml.Tree

/-!
# TOML documents

A document is a list of sections: the keys in front of the first header, and the keys behind each
header.  The lexemes of a document are taken one at a time, with the arrays and inline tables that
are still open on a stack; when a section is complete its keys are added to the tree.

## Main definitions

* `Reader`, `Reader.step` — where the reader stands, and one more lexeme.
* `document?` — the fields that a text describes, if it is a document.
-/

namespace HydroArchive.Toml

/-- The parts of a dotted key so far, in reverse. -/
structure KeyParts where
  parts : List String := []
  /-- Whether a part must come next, and not a dot. -/
  wantsPart : Bool := true

namespace KeyParts

/-- Arrays and inline tables may be open at fewer places than this at once, and keys have fewer
parts. -/
def depthLimit : Nat := 80

/-- Whether a character may stand in a key without quotes. -/
def isBare (c : Char) : Bool := c.isAlphanum || c == '_' || c == '-'

def addPart (k : KeyParts) (part : String) : Option KeyParts :=
  if k.wantsPart then some ⟨part :: k.parts, false⟩ else none

def addDot (k : KeyParts) : Option KeyParts :=
  if k.wantsPart then none else some { k with wantsPart := true }

/-- What stands between two dots of a word, or before or behind them; it may be nothing. -/
def addPiece (k : KeyParts) (piece : List Char) : Option KeyParts :=
  if piece.isEmpty then some k
  else if piece.all isBare then k.addPart (String.ofList piece)
  else none

/-- A word: pieces with dots between them. -/
def addWord (k : KeyParts) (cs : List Char) : Option KeyParts :=
  match Text.splitChars ['.'] cs with
  | [] => some k
  | piece :: pieces => do
    pieces.foldlM (fun (k : KeyParts) piece => do (← k.addDot).addPiece piece) (← k.addPiece piece)

/-- One more lexeme of a key. -/
def add (k : KeyParts) : Lexeme → Option KeyParts
  | .quoted text false => k.addPart text
  | .word cs => k.addWord cs
  | _ => none

def finish (k : KeyParts) : Option (List String) :=
  if k.wantsPart ∨ depthLimit ≤ k.parts.length then none else some k.parts.reverse

end KeyParts

/-- An open array or inline table around the value that is being read, or the line that it is on. -/
inductive Frame where
  | line (key : List String)
  | items (before : List Node)
  | fields (before : Fields) (key : List String)

/-- What must come next. -/
inductive Focus where
  | lineStart
  | lineEnd
  /-- The name in a header with one or two brackets. -/
  | header (double : Bool) (name : KeyParts)
  /-- The second closing bracket of a header. -/
  | headerEnd (name : List String)
  /-- A key on a line. -/
  | key (parts : KeyParts)
  | value
  | arrayStart
  | arrayAfter (done : List Node)
  /-- Behind a comma of an array. -/
  | arrayNext (done : List Node)
  | tableStart
  | tableKey (done : Fields) (parts : KeyParts)
  | tableAfter (done : Fields)

/-- A header, and the keys behind it in reverse.  There is no header in front of the first one. -/
structure Section where
  header : Option (Bool × List String)
  assignments : List (List String × Node)

/-- The tree with the keys of a section. -/
def Section.addTo (s : Section) (root : Fields) : Option Fields :=
  let fill (fields : Fields) :=
    s.assignments.reverse.foldlM (fun fs a => Fields.assign a.2 a.1 fs) fields
  match s.header with
  | none => fill root
  | some (false, name) => Fields.openTable fill name root
  | some (true, name) => Fields.openEntry fill name root

/-- The reader: the tree of the sections that are complete, the section it is in, and its place
there. -/
structure Reader where
  root : Fields
  current : Section
  frames : List Frame
  focus : Focus

namespace Reader

def initial : Reader := ⟨[], ⟨none, []⟩, [], .lineStart⟩

/-- Goes on at another place. -/
def go (r : Reader) (focus : Focus) : Option Reader := some { r with focus := focus }

/-- Completes the section and starts one with a header. -/
def enter (r : Reader) (double : Bool) (name : List String) : Option Reader := do
  let root ← r.current.addTo r.root
  return ⟨root, ⟨some (double, name), []⟩, [], .lineEnd⟩

/-- Puts a complete value where it belongs. -/
def complete (r : Reader) (value : Node) : Option Reader :=
  match r.frames with
  | .line key :: frames =>
    some { r with
      current := { r.current with assignments := (key, value) :: r.current.assignments }
      frames := frames
      focus := .lineEnd }
  | .items before :: frames =>
    some { r with frames := frames, focus := .arrayAfter (value :: before) }
  | .fields before key :: frames =>
    (Fields.assign value key before).map fun fields =>
      { r with frames := frames, focus := .tableAfter fields }
  | [] => none

/-- Opens an array or an inline table, unless too many are open. -/
def openValue (r : Reader) (focus : Focus) : Option Reader :=
  if KeyParts.depthLimit ≤ r.frames.length then none else r.go focus

def startValue (r : Reader) : Lexeme → Option Reader
  | .quoted text _ => r.complete (.text text)
  | .word cs => (scalar? cs).bind fun
    | .integer n => r.complete (.integer n)
    | .float => r.complete .float
    | .boolean => r.complete .boolean
    | .moment => r.complete .moment
  | .opening _ => r.openValue .arrayStart
  | .openBrace => r.openValue .tableStart
  | _ => none

def startItem (r : Reader) (done : List Node) (l : Lexeme) : Option Reader :=
  { r with frames := .items done :: r.frames }.startValue l

def startLine (r : Reader) : Lexeme → Option Reader
  | .newline => some r
  | .opening false => r.go (.header false {})
  | l => (KeyParts.add {} l).bind fun k => r.go (.key k)

def inHeader (r : Reader) (double : Bool) (name : KeyParts) : Lexeme → Option Reader
  | .opening true => if double ∨ !name.parts.isEmpty then none else r.go (.header true {})
  | .closing _ => name.finish.bind fun name =>
    if double then r.go (.headerEnd name) else r.enter false name
  | l => (name.add l).bind fun name => r.go (.header double name)

def step (r : Reader) (l : Lexeme) : Option Reader :=
  match r.focus, l with
  | .lineStart, l => r.startLine l
  | .lineEnd, .newline => r.go .lineStart
  | .header double name, l => r.inHeader double name l
  | .headerEnd name, .closing true => r.enter true name
  | .key parts, .equals => parts.finish.bind fun key =>
    { r with frames := [.line key] }.go .value
  | .key parts, l => (parts.add l).bind fun parts => r.go (.key parts)
  | .value, l => r.startValue l
  | .arrayStart, .newline => some r
  | .arrayStart, .closing _ => r.complete (.array [])
  | .arrayStart, l => r.startItem [] l
  | .arrayAfter _, .newline => some r
  | .arrayAfter done, .comma => r.go (.arrayNext done)
  | .arrayAfter done, .closing _ => r.complete (.array done.reverse)
  | .arrayNext _, .newline => some r
  | .arrayNext done, .closing _ => r.complete (.array done.reverse)
  | .arrayNext done, l => r.startItem done l
  | .tableStart, .closeBrace => r.complete (.table .inline [])
  | .tableStart, l => (KeyParts.add {} l).bind fun k => r.go (.tableKey [] k)
  | .tableKey done parts, .equals => parts.finish.bind fun key =>
    { r with frames := .fields done key :: r.frames }.go .value
  | .tableKey done parts, l => (parts.add l).bind fun parts => r.go (.tableKey done parts)
  | .tableAfter done, .comma => r.go (.tableKey done {})
  | .tableAfter done, .closeBrace => r.complete (.table .inline done)
  | _, _ => none

def finish (r : Reader) : Option Fields :=
  match r.focus with
  | .lineStart | .lineEnd => r.current.addTo r.root
  | _ => none

end Reader

/-- The fields that a text describes, if it is a document. -/
def document? (text : String) : Option Fields := do
  (← (← lexemes? text).foldlM Reader.step Reader.initial).finish

end HydroArchive.Toml
