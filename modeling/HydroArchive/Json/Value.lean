import HydroArchive.Json.Lexeme

/-!
# JSON values

Values are built from lexemes one lexeme at a time, with the arrays and objects that are still open
on a stack.  So a value may be nested as deeply as its text is long.

## Main definitions

* `Value` — a JSON value, the fields of an object in the order in which they are written.
* `Value.ofBytes?` — the value that a list of bytes holds, with nothing but blanks around it.
-/

namespace HydroArchive.Json

/-- A JSON value.  Quoted bytes are kept as they were written, in values and in field names. -/
inductive Value where
  | null
  | bool (value : Bool)
  | number (value : Option Int)
  | quoted (raw : List UInt8)
  | array (items : List Value)
  | object (fields : List (List UInt8 × Value))

/-- An open array or object around the value that is being read; what is complete is kept in
reverse. -/
inductive Frame where
  | item (before : List Value)
  | field (before : List (List UInt8 × Value)) (name : List UInt8)

/-- What has been read at the current depth. -/
inductive Focus where
  /-- A value must follow. -/
  | value
  | arrayStart
  | arrayAfter (done : List Value)
  | objectStart
  /-- A comma has been read: a field must follow. -/
  | fieldStart (done : List (List UInt8 × Value))
  | fieldName (done : List (List UInt8 × Value)) (name : List UInt8)
  | fieldAfter (done : List (List UInt8 × Value))
  | finished (result : Value)

/-- Puts a complete value where the innermost open array or object wants it. -/
def complete : List Frame → Value → List Frame × Focus
  | [], v => ([], .finished v)
  | .item before :: frames, v => (frames, .arrayAfter (v :: before))
  | .field before name :: frames, v => (frames, .fieldAfter ((name, v) :: before))

def startValue (frames : List Frame) : Lexeme → Option (List Frame × Focus)
  | .null => some (complete frames .null)
  | .bool b => some (complete frames (.bool b))
  | .number n => some (complete frames (.number n))
  | .quoted raw => some (complete frames (.quoted raw))
  | .openArray => some (frames, .arrayStart)
  | .openObject => some (frames, .objectStart)
  | _ => none

def step : List Frame × Focus → Lexeme → Option (List Frame × Focus)
  | (frames, .value), l => startValue frames l
  | (frames, .arrayStart), .closeArray => some (complete frames (.array []))
  | (frames, .arrayStart), l => startValue (.item [] :: frames) l
  | (frames, .arrayAfter done), .comma => some (.item done :: frames, .value)
  | (frames, .arrayAfter done), .closeArray => some (complete frames (.array done.reverse))
  | (frames, .objectStart), .closeObject => some (complete frames (.object []))
  | (frames, .objectStart), .quoted name => some (frames, .fieldName [] name)
  | (frames, .fieldStart done), .quoted name => some (frames, .fieldName done name)
  | (frames, .fieldName done name), .colon => some (.field done name :: frames, .value)
  | (frames, .fieldAfter done), .comma => some (frames, .fieldStart done)
  | (frames, .fieldAfter done), .closeObject => some (complete frames (.object done.reverse))
  | _, _ => none

/-- The value that a list of lexemes spells, if it spells exactly one. -/
def Value.ofLexemes? (ls : List Lexeme) : Option Value := do
  match ← ls.foldlM step ([], .value) with
  | (_, .finished v) => some v
  | _ => none

def Value.ofBytes? (bs : List UInt8) : Option Value := (lexemes? bs).bind Value.ofLexemes?

end HydroArchive.Json
