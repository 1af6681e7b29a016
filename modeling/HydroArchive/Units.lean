import HydroArchive.Text.Ascii
import HydroArchive.Text.Blank

/-!
# Unit systems

Values are shown in the international system or in the English one.  Elevations are stored in
metres.
-/

namespace HydroArchive

inductive UnitSystem where
  | si
  | en
  deriving DecidableEq, Repr

namespace UnitSystem

def name : UnitSystem → String
  | si => "SI"
  | en => "EN"

def parse? (s : String) : Option UnitSystem :=
  match Text.asciiUpper (Text.trim s) with
  | "SI" => some si
  | "EN" => some en
  | _ => none

/-- The unit of elevations. -/
def elevationUnit : UnitSystem → String
  | si => "m"
  | en => "ft"

/-- An elevation in the unit of the system; a foot is 0.3048 m. -/
def elevation (u : UnitSystem) (metres : Float) : Float :=
  match u with
  | si => metres
  | en => metres / 0.3048

/-- Whether a pattern of bits is no number: its exponent is full and its fraction is not zero. -/
def isNoNumber (bits : UInt64) : Bool := bits &&& 0x7fffffffffffffff > 0x7ff0000000000000

/-- The bit pattern of an elevation in the unit of the system.  A pattern that is no number keeps
its sign and its fraction; where a foot divides it, the first bit of the fraction is set. -/
def elevationBits (u : UnitSystem) (metres : UInt64) : UInt64 :=
  match u with
  | si => metres
  | en =>
    if isNoNumber metres then metres ||| 0x0008000000000000
    else (en.elevation (Float.ofBits metres)).toBits

end UnitSystem

/-- A linear conversion between two units. -/
structure Conversion where
  factor : Float
  offset : Float

namespace Conversion

def identity : Conversion := ⟨1.0, 0.0⟩

def apply (c : Conversion) (x : Float) : Float := x * c.factor + c.offset

end Conversion

end HydroArchive
