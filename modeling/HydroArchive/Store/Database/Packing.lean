/-!
# Packing of long texts

The database packs a long text before it puts it into an index.  A packed text is a sequence of
items: a byte as it is, or a reference to bytes that were there before.  Each eight items have a
byte in front of them that tells one kind from the other.  Only the length of a packed text matters
here.

## Main definitions

* `Packing.longestMatch` — how many of the next bytes were there before.
* `Packing.packedBytes?` — the length of a packed text, if packing is worth it.
-/

namespace HydroArchive.Packing

/-! ## Bytes that were there before -/

def byteAt (bytes : Array UInt8) (p : Nat) : UInt8 := bytes[p]?.getD 0

/-- A byte as a signed number of 32 bits. -/
def signed (b : UInt8) : UInt32 := if b < 128 then b.toUInt32 else b.toUInt32 ||| 0xffffff00

/-- The number of buckets of positions, for a text of a length. -/
def bucketCount (length : Nat) : Nat :=
  if length < 128 then 512
  else if length < 256 then 1024
  else if length < 512 then 2048
  else if length < 1024 then 4096
  else 8192

/-- The bucket of a position: it depends on the next four bytes, near the end on the next one. -/
def bucketOf (bytes : Array UInt8) (p : Nat) : Nat :=
  let b (k : Nat) := signed (byteAt bytes (p + k))
  let mixed :=
    if bytes.size < p + 4 then b 0 else (b 0 <<< 6) ^^^ (b 1 <<< 4) ^^^ (b 2 <<< 2) ^^^ b 3
  mixed.toNat % bucketCount bytes.size

/-- How many bytes from `p` on are those from `q` on, at most so many. -/
def matchLength (bytes : Array UInt8) : Nat → Nat → Nat → Nat
  | 0, _, _ => 0
  | most + 1, p, q =>
    if p < bytes.size ∧ byteAt bytes p = byteAt bytes q then
      matchLength bytes most (p + 1) (q + 1) + 1
    else 0

/-- The most bytes that a reference can stand for. -/
def maxMatch : Nat := 273

/-- A reference cannot reach so far back. -/
def tooFar : Nat := 4095

/-- Looks through earlier positions, the latest first, for the longest match.  A match of `good`
bytes is long enough, and the longer the search, the shorter a match will do. -/
def longestMatch (bytes : Array UInt8) (p : Nat) : Nat → Nat → List Nat → Nat
  | _, best, [] => best
  | good, best, q :: qs =>
    if q + tooFar ≤ p then best
    else
      let best := max best (matchLength bytes maxMatch p q)
      if good ≤ best then best else longestMatch bytes p (good - good * 10 / 100) best qs

/-! ## Writing -/

/-- A text that is being packed. -/
structure Packer where
  /-- The positions in each bucket, the latest first. -/
  buckets : Array (List Nat)
  /-- The next bytes that a reference stands for already. -/
  covered : Nat := 0
  items : Nat := 0
  /-- The bytes of the packed text so far. -/
  written : Nat := 0
  /-- Whether there has been a reference. -/
  refers : Bool := false
  /-- Whether packing has turned out not to be worth it. -/
  hopeless : Bool := false

namespace Packer

/-- Writes an item of so many bytes. -/
def write (s : Packer) (bytes : Nat) : Packer :=
  { s with
    items := s.items + 1
    written := s.written + bytes + if s.items % 8 = 0 then 1 else 0 }

/-- Decides on the item at a position. -/
def writeItem (bytes : Array UInt8) (limit : Nat) (s : Packer) (p : Nat) : Packer :=
  if limit ≤ s.written || (!s.refers && 1024 ≤ s.written) then { s with hopeless := true }
  else
    let found := longestMatch bytes p 128 0 (s.buckets[bucketOf bytes p]?.getD [])
    if 2 < found then
      { s.write (if 17 < found then 3 else 2) with covered := found - 1, refers := true }
    else s.write 1

/-- Works off the byte at a position. -/
def step (bytes : Array UInt8) (limit : Nat) (s : Packer) (p : Nat) : Packer :=
  if s.hopeless then s
  else
    let s :=
      match s.covered with
      | 0 => s.writeItem bytes limit p
      | covered + 1 => { s with covered := covered }
    { s with buckets := s.buckets.modify (bucketOf bytes p) (p :: ·) }

end Packer

/-- The length of a packed text.  Packing is worth it only when it saves a quarter, and when the
first kilobyte has a reference. -/
def packedBytes? (bytes : Array UInt8) : Option Nat :=
  let limit := bytes.size * 75 / 100
  let start : Packer := { buckets := Array.replicate (bucketCount bytes.size) [] }
  let s := (List.range bytes.size).foldl (Packer.step bytes limit) start
  if s.hopeless || limit ≤ s.written then none else some s.written

/-- A packed text is shorter than the text by a quarter. -/
theorem packedBytes?_lt {bytes : Array UInt8} {n : Nat} (h : packedBytes? bytes = some n) :
    n < bytes.size * 75 / 100 := by
  simp only [packedBytes?] at h
  split at h
  · cases h
  · simp only [Option.some.injEq] at h
    simp_all only [Bool.or_eq_true, decide_eq_true_eq, not_or]
    omega

end HydroArchive.Packing
