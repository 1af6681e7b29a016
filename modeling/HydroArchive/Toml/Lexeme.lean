import HydroArchive.Toml.Scalar

/-!
# TOML lexemes

A TOML document is taken apart one character at a time: marks, line ends, quoted texts with their
escapes undone, and words, which are runs of other characters.  Blanks and comments are dropped.
Whether a bracket stands directly behind one of its kind is kept, because `[[` opens a header of an
array of tables only where nothing is in between.  A date, one space and a digit make one word.

## Main definitions

* `Lexeme` — what a document is made of.
* `Mode`, `Scanner.step` — where the scanner stands, and one more character.
* `lexemes?` — the lexemes of a text.
-/

namespace HydroArchive.Toml

/-- A mark, a line end, a quoted text or a word. -/
inductive Lexeme where
  /-- An opening bracket; `tight` when it directly follows another one. -/
  | opening (tight : Bool)
  /-- A closing bracket; `tight` when it directly follows another one. -/
  | closing (tight : Bool)
  | openBrace
  | closeBrace
  | comma
  | equals
  | newline
  /-- A quoted text; `long` when it has three quotes on either side. -/
  | quoted (text : String) (long : Bool)
  | word (cs : List Char)
  deriving DecidableEq

/-- Where the scanner stands.  What it has read of a lexeme is kept in reverse; `mark` is the quote
of the text it is in. -/
inductive Mode where
  /-- Between lexemes, directly behind a bracket or not. -/
  | between (bracket : Option Char)
  | word (read : List Char)
  /-- Behind a date and a space. -/
  | dateGap (read : List Char)
  | comment
  /-- Behind a quote that opens a text. -/
  | quote (mark : Char)
  /-- Behind two quotes: an empty text, or the start of a long one. -/
  | twoQuotes (mark : Char)
  | short (mark : Char) (read : List Char)
  /-- In a long text, behind so many quotes; `fresh` when nothing of it has been read. -/
  | long (mark : Char) (quotes : Nat) (fresh : Bool) (read : List Char)
  | escape (long : Bool) (read : List Char)
  /-- In the digits of a numeric escape, with so many still to come. -/
  | code (long : Bool) (digits value : Nat) (read : List Char)
  /-- Behind a backslash that joins lines; `broken` when a line end has been read. -/
  | joining (broken : Bool) (read : List Char)

/-- Space and tab separate lexemes. -/
def isSpace (c : Char) : Bool := c == ' ' || c == '\t'

/-- The characters that comments and texts may hold as they are: a tab, and what is no control
character. -/
def isPlain (c : Char) : Bool := c == '\t' || (' ' ≤ c && c != '\x7f')

/-- The characters that end a word. -/
def endsWord (c : Char) : Bool :=
  isSpace c || "\n[]\x7b\x7d,=#\"'".toList.contains c

/-- The scanner: its mode and the lexemes so far, in reverse. -/
structure Scanner where
  mode : Mode
  done : List Lexeme

namespace Scanner

/-- Goes on in another mode. -/
def go (s : Scanner) (mode : Mode) : Option Scanner := some ⟨mode, s.done⟩

/-- Adds a lexeme and goes on between lexemes. -/
def emit (s : Scanner) (l : Lexeme) (bracket : Option Char) : Scanner :=
  ⟨.between bracket, l :: s.done⟩

/-- A character that starts a lexeme; `bracket` is the bracket directly in front. -/
def start (s : Scanner) (bracket : Option Char) (c : Char) : Option Scanner :=
  if isSpace c then s.go (.between none)
  else match c with
    | '\n' => some (s.emit .newline none)
    | '[' => some (s.emit (.opening (bracket == some '[')) (some '['))
    | ']' => some (s.emit (.closing (bracket == some ']')) (some ']'))
    | '{' => some (s.emit .openBrace none)
    | '}' => some (s.emit .closeBrace none)
    | ',' => some (s.emit .comma none)
    | '=' => some (s.emit .equals none)
    | '#' => s.go .comment
    | '"' => s.go (.quote '"')
    | '\'' => s.go (.quote '\'')
    | c => s.go (.word [c])

/-- Adds a lexeme that ends in front of a character, and takes the character. -/
def emitBefore (s : Scanner) (l : Lexeme) (c : Char) : Option Scanner :=
  (s.emit l none).start none c

/-- The quoted text that was read, with quotes at its end. -/
def textOf (read : List Char) (mark : Char) (quotes : Nat) : String :=
  String.ofList (read.reverse ++ List.replicate quotes mark)

def inShort (s : Scanner) (mark : Char) (read : List Char) (c : Char) : Option Scanner :=
  if c = mark then some (s.emit (.quoted (textOf read mark 0) false) none)
  else if c = '\\' ∧ mark = '"' then s.go (.escape false read)
  else if isPlain c then s.go (.short mark (c :: read))
  else none

/-- A character of a long text.  A line end directly behind the opening quotes is dropped.  Up to
two quotes in front of the closing ones belong to the text. -/
def inLong (s : Scanner) (mark : Char) (quotes : Nat) (fresh : Bool) (read : List Char) (c : Char) :
    Option Scanner :=
  let all := List.replicate quotes mark ++ read
  if c = mark then
    if quotes = 4 then some (s.emit (.quoted (textOf read mark 2) true) none)
    else s.go (.long mark (quotes + 1) fresh read)
  else if 3 ≤ quotes then s.emitBefore (.quoted (textOf read mark (quotes - 3)) true) c
  else if c = '\n' ∧ fresh ∧ quotes = 0 then s.go (.long mark 0 false read)
  else if c = '\\' ∧ mark = '"' then s.go (.escape true all)
  else if c = '\n' ∨ isPlain c then s.go (.long mark 0 false (c :: all))
  else none

/-- The mode of a text between double quotes. -/
def textMode (long : Bool) (read : List Char) : Mode :=
  if long then .long '"' 0 false read else .short '"' read

/-- The character that a letter stands for behind a backslash. -/
def escaped? : Char → Option Char
  | 'b' => some '\x08'
  | 't' => some '\t'
  | 'n' => some '\n'
  | 'f' => some '\x0c'
  | 'r' => some '\r'
  | '"' => some '"'
  | '\\' => some '\\'
  | _ => none

/-- The character with a code point, which must not be a surrogate. -/
def scalarValue? (n : Nat) : Option Char :=
  if n < 0xD800 ∨ (0xDFFF < n ∧ n < 0x110000) then some (Char.ofNat n) else none

/-- A character behind a backslash. -/
def inEscape (s : Scanner) (long : Bool) (read : List Char) (c : Char) : Option Scanner :=
  match escaped? c with
  | some d => s.go (textMode long (d :: read))
  | none =>
    if c = 'u' then s.go (.code long 4 0 read)
    else if c = 'U' then s.go (.code long 8 0 read)
    else if long ∧ (isSpace c ∨ c = '\n') then s.go (.joining (c == '\n') read)
    else none

def inCode (s : Scanner) (long : Bool) (digits value : Nat) (read : List Char) (c : Char) :
    Option Scanner :=
  if isHexDigit c then
    let value := 16 * value + digitValue c
    if 1 < digits then s.go (.code long (digits - 1) value read)
    else (scalarValue? value).bind fun d => s.go (textMode long (d :: read))
  else none

/-- A character behind a backslash that joins lines. -/
def inJoin (s : Scanner) (broken : Bool) (read : List Char) (c : Char) : Option Scanner :=
  if isSpace c then s.go (.joining broken read)
  else if c = '\n' then s.go (.joining true read)
  else if broken then s.inLong '"' 0 false read c
  else none

def inWord (s : Scanner) (read : List Char) (c : Char) : Option Scanner :=
  if c = ' ' ∧ date? read.reverse = some [] then s.go (.dateGap read)
  else if endsWord c then s.emitBefore (.word read.reverse) c
  else s.go (.word (c :: read))

def step (s : Scanner) (c : Char) : Option Scanner :=
  match s.mode with
  | .between bracket => s.start bracket c
  | .word read => s.inWord read c
  | .dateGap read =>
    if c.isDigit then s.go (.word (c :: ' ' :: read)) else s.emitBefore (.word read.reverse) c
  | .comment =>
    if c = '\n' then some (s.emit .newline none) else if isPlain c then s.go .comment else none
  | .quote mark => if c = mark then s.go (.twoQuotes mark) else s.inShort mark [] c
  | .twoQuotes mark =>
    if c = mark then s.go (.long mark 0 true []) else s.emitBefore (.quoted "" false) c
  | .short mark read => s.inShort mark read c
  | .long mark quotes fresh read => s.inLong mark quotes fresh read c
  | .escape long read => s.inEscape long read c
  | .code long digits value read => s.inCode long digits value read c
  | .joining broken read => s.inJoin broken read c

/-- The lexemes at the end of the text, if it may end here. -/
def finish (s : Scanner) : Option (List Lexeme) :=
  match s.mode with
  | .between _ | .comment => some s.done.reverse
  | .word read | .dateGap read => some (.word read.reverse :: s.done).reverse
  | .twoQuotes _ => some (.quoted "" false :: s.done).reverse
  | .long mark quotes _ read =>
    if 3 ≤ quotes then some (.quoted (textOf read mark (quotes - 3)) true :: s.done).reverse
    else none
  | _ => none

end Scanner

/-- A text with one character at each line end.  A carriage return is only part of a line end. -/
def unifyLineEnds? : List Char → Option (List Char)
  | [] => some []
  | '\r' :: '\n' :: cs => (unifyLineEnds? cs).map ('\n' :: ·)
  | '\r' :: _ => none
  | c :: cs => (unifyLineEnds? cs).map (c :: ·)

/-- A text without the byte order mark in front. -/
def dropMark : List Char → List Char
  | '\ufeff' :: cs => cs
  | cs => cs

def lexemes? (text : String) : Option (List Lexeme) := do
  let cs ← unifyLineEnds? (dropMark text.toList)
  (← cs.foldlM Scanner.step ⟨.between none, []⟩).finish

end HydroArchive.Toml
