import ActorSpec.Calendar
import ActorSpec.Number.Binary64

/-!
# Scalars

The values without parts. They are also the keys of mappings, where two of them name the same entry
when they are the same number, the same text, the same bytes or the same moment: `true`, `1` and `1.0`
are one key. A NaN is equal to nothing but is found by itself, as the object that it is. Texts and
documents hold one NaN, whatever the number of places; a NaN that is made by a calculation, or under a
tag that is written out, is an object of its own.
-/

namespace ActorSpec

inductive Scalar where
  | null
  | bool (b : Bool)
  | int (n : Int)
  | float (x : Binary64)
  /-- A NaN of its own, told from others by the line and the column that it is written at. -/
  | nan (line column : Nat)
  | str (s : String)
  | bytes (content : List UInt8)
  | date (d : Date)
  | datetime (t : Timestamp)
deriving DecidableEq

/-- What a scalar names when it is used as a key. -/
inductive Identity where
  | null
  | whole (n : Int)
  | fraction (x : Binary64)
  | ownNaN (line column : Nat)
  | text (s : String)
  | bytes (content : List UInt8)
  | day (d : Date)
  | moment (t : Timestamp)
  | instant (microseconds : Int)
deriving DecidableEq

namespace Scalar

def identity : Scalar → Identity
  | .null => .null
  | .bool b => .whole b.toNat
  | .int n => .whole n
  | .float x => (x.toInt?.map .whole).getD (.fraction x)
  | .nan line column => .ownNaN line column
  | .str s => .text s
  | .bytes content => .bytes content
  | .date d => .day d
  | .datetime t => (t.instant?.map .instant).getD (.moment t)

/-- The two scalars name the same entry of a mapping. -/
def same (a b : Scalar) : Bool := decide (a.identity = b.identity)

/-- Counts as given where an empty or absent value falls back to a default. -/
def truthy : Scalar → Bool
  | .null => false
  | .bool b => b
  | .int n => n != 0
  | .float x => !x.isZero
  | .str s => s != ""
  | .bytes content => !content.isEmpty
  | .nan .. | .date _ | .datetime _ => true

end Scalar

end ActorSpec
