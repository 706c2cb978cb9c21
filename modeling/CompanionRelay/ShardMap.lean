import CompanionRelay.Ordered
import CompanionRelay.Tiling
import CompanionRelay.Wire

/-!
src/sharding: the shard map, its validation, and the three things read from a valid map:
the host of a bucket, the buckets a box owns, and whether a box admits a room. An
accepted map tiles the buckets, so the three agree on one owner.
-/

namespace Relay

def expectedBuckets : Int := 65536

structure Range where
  low : Int
  high : Int
  host : String
  deriving DecidableEq

structure ShardMap where
  version : Int
  ranges : List Range
  deriving DecidableEq

/-- ShardMapValidationError: its kind and detail. -/
inductive ShardMapError
  | negativeVersion
  | emptyRanges
  | emptyHost
  | invalidHost (host : String)
  | invalidRange (low high : Int)
  | gapOrOverlap
  | malformed (detail : String)
  deriving DecidableEq

/-- The class \s of a JavaScript regular expression. -/
def isSpace (char : Char) : Bool :=
  let code := char.toNat
  (9 ≤ code && code ≤ 13) || code == 0x20 || code == 0xa0 || code == 0x1680 ||
    (0x2000 ≤ code && code ≤ 0x200a) || code == 0x2028 || code == 0x2029 || code == 0x202f ||
    code == 0x205f || code == 0x3000 || code == 0xfeff

def isBareAuthority (host : String) : Bool :=
  let chars := host.toList
  !chars.isEmpty &&
    !chars.any (fun char => char == '/' || char == '@' || char == '?' || char == '#' ||
      isSpace char) &&
    !chars.any (fun char => 'A' ≤ char && char ≤ 'Z') &&
    chars.getLast? != some '.'

section Parse

/-- `isInt` of a field: a number without a fraction. -/
def Json.readInt (key : String) (value : Json) : Option Int :=
  match value.read key with
  | some (some (.num number)) => if number.den = 1 then some number.num else none
  | _ => none

def parseRange (entry : Json) : Option Range :=
  match entry.readInt "low", entry.readInt "high", entry.readString "host" with
  | some low, some high, some (some host) => some ⟨low, high, host⟩
  | _, _, _ => none

/-- `parse` is JSON.parse, with none for its SyntaxError. -/
def parseShardMap (parse : String → Option Json) (text : String) : Except ShardMapError ShardMap :=
  match parse text with
  | none => .error (.malformed "invalid JSON")
  | some (.obj fields) =>
      match (Json.obj fields).readInt "version" with
      | none => .error (.malformed "version must be an integer")
      | some version =>
          match (Json.obj fields).read "ranges" with
          | some (some (.arr entries)) =>
              match entries.mapM parseRange with
              | none => .error (.malformed "bad range entry")
              | some ranges => .ok ⟨version, ranges⟩
          | _ => .error (.malformed "ranges must be an array")
  | some _ => .error (.malformed "not an object")

end Parse

section Validate

def rangeError (range : Range) : Option ShardMapError :=
  if range.host = "" then some .emptyHost
  else if isBareAuthority range.host = false then some (.invalidHost range.host)
  else if range.low > range.high ∨ range.low < 0 ∨ range.high ≥ expectedBuckets then
    some (.invalidRange range.low range.high)
  else none

def sortedRanges (ranges : List Range) : List Range :=
  ranges.insertionSort fun first second => first.low ≤ second.low

def validateShardMap (map : ShardMap) : Except ShardMapError Unit :=
  if map.version < 0 then .error .negativeVersion
  else if map.ranges = [] then .error .emptyRanges
  else
    match map.ranges.findSome? rangeError with
    | some error => .error error
    | none =>
        if Tiling.walk Range.low Range.high 0 (sortedRanges map.ranges) = some expectedBuckets
          then .ok () else .error .gapOrOverlap

end Validate

def Range.covers (range : Range) (bucket : Int) : Bool :=
  Tiling.covers Range.low Range.high bucket range

def hostForBucket (map : ShardMap) (bucket : Int) : Option String :=
  if bucket < 0 ∨ bucket ≥ expectedBuckets then none
  else (map.ranges.find? (·.covers bucket)).map (·.host)

/-- The buckets from `low` up to `high`, in the order of the loop. -/
def Range.buckets (range : Range) : List Int :=
  (List.range (range.high + 1 - range.low).toNat).map fun index : Nat => range.low + index

def ownedBuckets (map : ShardMap) (selfHost : String) : OrderedSet Int :=
  OrderedSet.empty.addAll ((map.ranges.filter (·.host = selfHost)).flatMap Range.buckets)

structure OwnedDiff where
  acquired : OrderedSet Int
  relinquished : OrderedSet Int

def diffOwned (oldSet newSet : OrderedSet Int) : OwnedDiff where
  acquired := OrderedSet.empty.addAll (newSet.items.filter (· ∉ oldSet))
  relinquished := OrderedSet.empty.addAll (oldSet.items.filter (· ∉ newSet))

section Admission

def hexDigit (char : Char) : Option Nat :=
  if '0' ≤ char ∧ char ≤ '9' then some (char.toNat - '0'.toNat)
  else if 'a' ≤ char ∧ char ≤ 'f' then some (char.toNat - 'a'.toNat + 10)
  else none

/-- A canonical room name is 64 lowercase hex characters; its bucket is the number that
the last four of them write. -/
def bucketForRoomName (name : String) : Option Int :=
  match name.toList.mapM hexDigit with
  | none => none
  | some digits =>
      if digits.length = 64
        then some ((digits.drop 60).foldl (fun value digit => 16 * value + digit) 0 : Nat) else none

inductive Mode
  | direct
  | distributed
  deriving DecidableEq

inductive Decision
  | admits (bucket : Option Int)
  | rejects (status : Nat) (reason : String) (bucket : Option Int)
  deriving DecidableEq

def rejectStatus : Nat := 421

def ownershipDecision (mode : Mode) (roomName : String) (ownsBucket : Int → Bool) : Decision :=
  match mode with
  | .direct => .admits none
  | .distributed =>
      match bucketForRoomName roomName with
      | none => .rejects rejectStatus "unroutable" none
      | some bucket =>
          if ownsBucket bucket then .admits (some bucket)
          else .rejects rejectStatus "not-owner" (some bucket)

def Decision.admitted : Decision → Bool
  | .admits _ => true
  | .rejects _ _ _ => false

end Admission

end Relay
