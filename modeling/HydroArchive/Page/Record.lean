import HydroArchive.Json.Quoted
import HydroArchive.Json.Value
import HydroArchive.Page.Token
import HydroArchive.Text.Number

/-!
# Structured cursors

The current written form of a cursor is a small JSON record with the fields `v`, `kind`, `key`,
`total` and `size`, in this order and without blanks.  `total` is left out when it is unknown.

Reading is more liberal than writing: the fields may come in any order, fields with other names are
skipped, `total` may be `null`, and the record may also be an array of the five values in the order
above.  A field may not come twice.

## Main definitions

* `PageRecord` — the contents of a record; any version can be read.
* `PageRecord.bytes`, `PageRecord.ofBytes?` — its written form and back.
-/

namespace HydroArchive

open Json (Value)

/-- The contents of a structured cursor. -/
structure PageRecord where
  version : UInt32
  kind : PageKind
  key : String
  total : Option UInt64
  size : Int32
  deriving DecidableEq

namespace PageRecord

/-! ## Writing -/

/-- The bytes of a list of ASCII characters. -/
def asciiBytes (cs : List Char) : List UInt8 := cs.map Json.byteOf

def field (name : String) (value : List UInt8) : List UInt8 :=
  Json.quote name ++ Json.byteOf ':' :: value

/-- The fields of a record in the order in which they are written. -/
def fields (r : PageRecord) : List (List UInt8) :=
  [field "v" (asciiBytes (Text.decimalChars r.version.toNat)),
    field "kind" (Json.quote r.kind.name), field "key" (Json.quote r.key)]
  ++ (r.total.map fun n => field "total" (asciiBytes (Text.decimalChars n.toNat))).toList
  ++ [field "size" (asciiBytes (Text.integerText r.size.toInt))]

def bytes (r : PageRecord) : List UInt8 :=
  Json.byteOf '{' :: ([Json.byteOf ','].intercalate r.fields ++ [Json.byteOf '}'])

/-! ## Reading -/

def integer? (min max : Int) : Value → Option Int
  | .number (some n) => if min ≤ n ∧ n ≤ max then some n else none
  | _ => none

def version? (v : Value) : Option UInt32 :=
  (integer? 0 Text.maxNatural32 v).map fun n => UInt32.ofNat n.toNat

def text? : Value → Option String
  | .quoted raw => Json.unquote? raw
  | _ => none

/-- A kind: its name, or an object with the name as its only field and `null` as the value. -/
def kind? : Value → Option PageKind
  | .quoted raw => (Json.unquote? raw).bind PageKind.ofName?
  | .object [(raw, .null)] => (Json.unquote? raw).bind PageKind.ofName?
  | _ => none

/-- A total, which may be `null`. -/
def total? : Value → Option (Option UInt64)
  | .null => some none
  | v => (integer? 0 Text.maxNatural64 v).map fun n => some (UInt64.ofNat n.toNat)

def size? (v : Value) : Option Int32 :=
  (integer? Text.minInteger32 Text.maxInteger32 v).map Int32.ofInt

/-- The values of a field name, in the order in which they come. -/
def valuesOf (name : String) (fields : List (String × Value)) : List Value :=
  (fields.filter fun f => f.1 == name).map Prod.snd

/-- The value of a field that comes exactly once. -/
def required? (name : String) (fields : List (String × Value)) : Option Value :=
  match valuesOf name fields with
  | [v] => some v
  | _ => none

/-- The value of a field that comes at most once; `null` when it is missing. -/
def optional? (name : String) (fields : List (String × Value)) : Option Value :=
  match valuesOf name fields with
  | [] => some .null
  | [v] => some v
  | _ => none

/-- The fields of an object with their names read. -/
def namedFields? (fields : List (List UInt8 × Value)) : Option (List (String × Value)) :=
  fields.mapM fun f => (Json.unquote? f.1).map fun name => (name, f.2)

/-- The record that a value spells. -/
def ofValue? : Value → Option PageRecord
  | .object fields => do
    let fields ← namedFields? fields
    some { version := ← version? (← required? "v" fields)
           kind := ← kind? (← required? "kind" fields)
           key := ← text? (← required? "key" fields)
           total := ← total? (← optional? "total" fields)
           size := ← size? (← required? "size" fields) }
  | .array [version, kind, key, total, size] => do
    some { version := ← version? version
           kind := ← kind? kind
           key := ← text? key
           total := ← total? total
           size := ← size? size }
  | _ => none

/-- The record that bytes spell. -/
def ofBytes? (bs : List UInt8) : Option PageRecord := (Value.ofBytes? bs).bind ofValue?

end PageRecord

end HydroArchive
