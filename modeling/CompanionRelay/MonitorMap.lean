import Mathlib.Algebra.Order.Floor.Ring
import Mathlib.Data.Rat.Floor
import CompanionRelay.Ordered
import CompanionRelay.ShardMap

/-!
The monitor's own reading of a fetched shard map, which nothing has validated: the hosts of
mapHostsFrom in core.js and the probe room of ownedRoomForHost in monitor.js.
-/

namespace Relay

def Json.truthy : Json → Bool
  | .null => false
  | .bool value => value
  | .num value => value ≠ 0
  | .str value => value ≠ ""
  | .arr _ => true
  | .obj _ => true

end Relay

namespace Relay.Monitor

/-- `(map && map.ranges) || []` -/
def mapRanges (map : Json) : Json :=
  match map.read "ranges" with
  | some (some ranges) => if map.truthy && ranges.truthy then ranges else .arr []
  | _ => .arr []

/-- What `for … of` goes through; none is the TypeError of a value that is not iterable. -/
def iterate : Json → Option (List Json)
  | .arr items => some items
  | .str text => some (text.toList.map fun char => .str char.toString)
  | _ => none

/-- `r.host` of an entry, if that is a string. -/
def entryHost (r : Json) : Option String :=
  match r.read "host" with
  | some (some (.str host)) => some host
  | _ => none

def mapHostsFrom (map : Json) : Option (OrderedSet String) :=
  (iterate (mapRanges map)).map fun items => OrderedSet.empty.addAll (items.filterMap entryHost)

section Room

/-- The test of ownedRoomForHost: a range of the host with whole bounds in order. -/
def ownedRange (host : String) (r : Json) : Option (Int × Int) :=
  match r.readInt "low", r.readInt "high" with
  | some low, some high => if entryHost r = some host ∧ low ≤ high then some (low, high) else none
  | _, _ => none

/-- Only an array has the method filter, and only a map with an array names a host. -/
def ownedRanges (map : Json) (host : String) : List (Int × Int) :=
  match mapRanges map with
  | .arr items => items.filterMap (ownedRange host)
  | _ => []

def rangeSize (r : Int × Int) : Int := r.2 - r.1 + 1

def ownedTotal (ranges : List (Int × Int)) : Int := (ranges.map rangeSize).sum

/-- The loop of ownedRoomForHost: the bucket at an index into the ranges one after another. -/
def bucketAt : List (Int × Int) → Int → Option Int
  | [], _ => none
  | r :: rest, idx => if idx < rangeSize r then some (r.1 + idx) else bucketAt rest (idx - rangeSize r)

/-- `toString(16)` of a whole number. -/
def hexText (value : Int) : List Char :=
  (if value < 0 then ['-'] else []) ++ Nat.toDigits 16 value.natAbs

def padStart (width : Nat) (fill : Char) (text : List Char) : List Char :=
  List.replicate (width - text.length) fill ++ text

/-- The randomness of roomForHost: 60 hex characters and a number from 0 up to 1. -/
structure Draw where
  prefix60 : String
  canonical : prefix60.length = 60 ∧ ∀ char ∈ prefix60.toList, (hexDigit char).isSome
  randUnit : Rat
  unit : 0 ≤ randUnit ∧ randUnit < 1

def ownedRoomForHost (map : Json) (host : String) (draw : Draw) : Option String :=
  let ranges := ownedRanges map host
  let total := ownedTotal ranges
  if total = 0 then none
  else
    let idx := min (total - 1) (max 0 ⌊draw.randUnit * total⌋)
    (bucketAt ranges idx).map fun bucket =>
      draw.prefix60 ++ String.ofList (padStart 4 '0' (hexText bucket))

end Room

section Accepted
variable {parse : String → Option Json} {text : String} {map : ShardMap} {doc : Json}

theorem entryHost_of_parseRange {entry : Json} {range : Range} (read : parseRange entry = some range) :
    entryHost entry = some range.host := by
  unfold parseRange Json.readString at read
  unfold entryHost
  split at read
  · rename_i host
    split at host
    · cases host
    · rename_i found
      cases host
      cases read
      rw [found]
    · cases host
  · cases read

end Accepted

end Relay.Monitor
