import CompanionRelay.ShardMap

/-!
A map that validates tiles the buckets, and every tiling validates. So one range covers a
bucket, and the look-up, the owned sets and the admission gate name the same host for it.
-/

namespace Relay

/-- One range covers the bucket, its host is the bucket's host, and a box admits a room of
the bucket exactly when it is that host. -/
structure OneOwner (map : ShardMap) (bucket : Int) : Prop where
  covered : map.ranges.countP (·.covers bucket) = 1
  host : ∀ range ∈ map.ranges, range.covers bucket = true →
    hostForBucket map bucket = some range.host
  admits : ∀ selfHost roomName, bucketForRoomName roomName = some bucket →
    ((ownershipDecision .distributed roomName fun bucket =>
        bucket ∈ ownedBuckets map selfHost).admitted = true ↔
      hostForBucket map bucket = some selfHost)

section Validate
variable {map : ShardMap} {range : Range} {bucket : Int}

theorem rangeError_none : rangeError range = none ↔
    isBareAuthority range.host = true ∧ 0 ≤ range.low ∧ range.low ≤ range.high ∧
      range.high < expectedBuckets := by
  have named : isBareAuthority range.host = true → range.host ≠ "" := by
    intro bare empty
    rw [empty] at bare
    exact absurd bare (by decide)
  unfold rangeError
  by_cases empty : range.host = ""
  · rw [if_pos empty]
    simp only [reduceCtorEq, false_iff, not_and]
    exact fun bare => absurd empty (named bare)
  · rw [if_neg empty]
    cases bare : isBareAuthority range.host with
    | false => simp
    | true =>
        by_cases outside : range.low > range.high ∨ range.low < 0 ∨ range.high ≥ expectedBuckets
        · simp only [outside, if_true, Bool.true_eq_false, if_false, reduceCtorEq, true_and,
            false_iff]
          omega
        · simp only [outside, if_false, Bool.true_eq_false, true_and, true_iff]
          omega

theorem sorted_ranges (ranges : List Range) :
    (sortedRanges ranges).Pairwise fun first second => first.low ≤ second.low := by
  have total : Std.Total fun first second : Range => first.low ≤ second.low :=
    ⟨fun first second => Int.le_total first.low second.low⟩
  have trans : IsTrans Range fun first second => first.low ≤ second.low :=
    ⟨fun _ _ _ => Int.le_trans⟩
  exact List.pairwise_insertionSort _ ranges

theorem sorted_perm (ranges : List Range) : (sortedRanges ranges).Perm ranges :=
  List.perm_insertionSort _ ranges

theorem sorted_tiles (ranges : List Range) (start stop : Int) :
    Tiling.Tiles Range.low Range.high start stop (sortedRanges ranges) ↔
      Tiling.Tiles Range.low Range.high start stop ranges := by
  unfold Tiling.Tiles
  simp only [(sorted_perm ranges).countP_eq]

-- validateShardMap accepts exactly the tilings of the buckets.
theorem valid_iff : validateShardMap map = .ok () ↔
    0 ≤ map.version ∧ map.ranges ≠ [] ∧ (∀ range ∈ map.ranges, isBareAuthority range.host = true ∧
      0 ≤ range.low ∧ range.low ≤ range.high ∧ range.high < expectedBuckets) ∧
    Tiling.Tiles Range.low Range.high 0 expectedBuckets map.ranges := by
  have checked : map.ranges.findSome? rangeError = none ↔
      ∀ range ∈ map.ranges, isBareAuthority range.host = true ∧ 0 ≤ range.low ∧
        range.low ≤ range.high ∧ range.high < expectedBuckets := by
    simp only [List.findSome?_eq_none_iff, rangeError_none]
  unfold validateShardMap
  by_cases negative : map.version < 0
  · simp only [negative, if_true, reduceCtorEq, false_iff, not_and]
    omega
  · by_cases empty : map.ranges = []
    · simp [negative, empty]
    · simp only [negative, empty, if_false]
      cases errors : map.ranges.findSome? rangeError with
      | some error =>
          have bad := checked.not.mp (by simp [errors])
          simp [bad]
      | none =>
          have bounds := checked.mp errors
          have proper : ∀ range ∈ sortedRanges map.ranges, 0 ≤ range.low ∧
              range.low ≤ range.high ∧ range.high < expectedBuckets :=
            fun range member => (bounds range ((sorted_perm _).mem_iff.mp member)).2
          have walks : Tiling.walk Range.low Range.high 0 (sortedRanges map.ranges) =
              some expectedBuckets ↔
                Tiling.Tiles Range.low Range.high 0 expectedBuckets map.ranges := by
            rw [← sorted_tiles]
            constructor
            · exact Tiling.walk_tiles fun range member => (proper range member).2.1
            · exact Tiling.tiles_walk (by decide) proper (sorted_ranges _)
          by_cases walked : Tiling.walk Range.low Range.high 0 (sortedRanges map.ranges) =
            some expectedBuckets
          · simp only [walked, if_true, true_iff]
            exact ⟨by omega, by simpa using empty, bounds, walks.mp walked⟩
          · simp only [walked, if_false, reduceCtorEq, false_iff, not_and]
            exact fun _ _ _ tiles => walked (walks.mpr tiles)

end Validate

section Owner
variable {map : ShardMap} {bucket : Int} {first second : Range}

theorem mem_buckets : bucket ∈ first.buckets ↔ first.covers bucket = true := by
  simp only [Range.buckets, List.mem_map, List.mem_range, Range.covers, Tiling.covers_iff]
  constructor
  · rintro ⟨index, inside, rfl⟩
    omega
  · intro bounds
    exact ⟨(bucket - first.low).toNat, by omega, by omega⟩

theorem mem_ownedBuckets {selfHost : String} : bucket ∈ ownedBuckets map selfHost ↔
    ∃ range ∈ map.ranges, range.host = selfHost ∧ range.covers bucket = true := by
  simp only [ownedBuckets, OrderedSet.mem_addAll, OrderedSet.not_mem_empty, false_or,
    List.mem_flatMap, List.mem_filter, decide_eq_true_eq, mem_buckets, and_assoc]

theorem only_range (covered : map.ranges.countP (·.covers bucket) = 1)
    (inside : first ∈ map.ranges) (covers : first.covers bucket = true)
    (inside' : second ∈ map.ranges) (covers' : second.covers bucket = true) : first = second := by
  rw [List.countP_eq_length_filter] at covered
  obtain ⟨only, whole⟩ := List.length_eq_one_iff.mp covered
  have one : ∀ range ∈ map.ranges, range.covers bucket = true → range = only := by
    intro range member covering
    have kept : range ∈ map.ranges.filter (·.covers bucket) := List.mem_filter.mpr ⟨member, covering⟩
    rw [whole] at kept
    exact List.mem_singleton.mp kept
  rw [one first inside covers, one second inside' covers']

theorem one_owner_of_valid (valid : validateShardMap map = .ok ()) (above : 0 ≤ bucket)
    (below : bucket < expectedBuckets) : OneOwner map bucket := by
  have covered : map.ranges.countP (·.covers bucket) = 1 :=
    (valid_iff.mp valid).2.2.2 bucket above below
  have inside : ¬ (bucket < 0 ∨ bucket ≥ expectedBuckets) := by omega
  have host : ∀ range ∈ map.ranges, range.covers bucket = true →
      hostForBucket map bucket = some range.host := by
    intro range member covers
    unfold hostForBucket
    rw [if_neg inside]
    cases found : map.ranges.find? (·.covers bucket) with
    | none => exact absurd covers (List.find?_eq_none.mp found range member)
    | some other =>
        have same := only_range covered (List.mem_of_find?_eq_some found)
          (by simpa using List.find?_some found) member covers
        rw [Option.map_some, same]
  refine ⟨covered, host, ?_⟩
  intro selfHost roomName named
  have owns : (ownershipDecision .distributed roomName fun bucket =>
      bucket ∈ ownedBuckets map selfHost).admitted = true ↔ bucket ∈ ownedBuckets map selfHost := by
    simp only [ownershipDecision, named]
    by_cases owned : bucket ∈ ownedBuckets map selfHost <;> simp [owned, Decision.admitted]
  rw [owns, mem_ownedBuckets]
  constructor
  · rintro ⟨range, member, rfl, covers⟩
    exact host range member covers
  · intro named
    obtain ⟨range, member, covers⟩ := List.countP_pos_iff.mp (by
      rw [covered]
      exact one_pos)
    rw [host range member covers] at named
    exact ⟨range, member, Option.some.inj named, covers⟩

theorem hexDigit_lt {char : Char} {digit : Nat} (read : hexDigit char = some digit) : digit < 16 := by
  unfold hexDigit at read
  split at read
  · rename_i decimal
    cases read
    have upper : char.toNat ≤ '9'.toNat := decimal.2
    have nine : '9'.toNat = 57 := rfl
    have zero : '0'.toNat = 48 := rfl
    omega
  · split at read
    · rename_i letter
      cases read
      have upper : char.toNat ≤ 'f'.toNat := letter.2
      have last : 'f'.toNat = 102 := rfl
      have a : 'a'.toNat = 97 := rfl
      omega
    · cases read

theorem hexDigits_lt {chars : List Char} {digits : List Nat}
    (read : chars.mapM hexDigit = some digits) : ∀ digit ∈ digits, digit < 16 := by
  induction chars generalizing digits with
  | nil =>
      obtain rfl : [] = digits := by simpa using read
      simp
  | cons char rest ih =>
      simp only [List.mapM_cons, Option.pure_def, Option.bind_eq_bind, Option.bind_eq_some_iff,
        Option.some.injEq] at read
      obtain ⟨digit, first, others, tail, rfl⟩ := read
      exact List.forall_mem_cons.mpr ⟨hexDigit_lt first, ih tail⟩

theorem bucket_bounds {roomName : String} (named : bucketForRoomName roomName = some bucket) :
    0 ≤ bucket ∧ bucket < expectedBuckets := by
  unfold bucketForRoomName at named
  cases read : roomName.toList.mapM hexDigit with
  | none => simp [read] at named
  | some digits =>
      rw [read] at named
      simp only at named
      split at named
      · rename_i whole
        have small := hexDigits_lt read
        have last : (digits.drop 60).length = 4 := by
          rw [List.length_drop, whole]
        have small : ∀ digit ∈ digits.drop 60, digit < 16 := fun digit member =>
          small digit (List.mem_of_mem_drop member)
        obtain ⟨a, b, c, d, four⟩ : ∃ a b c d, digits.drop 60 = [a, b, c, d] := by
          match tail : digits.drop 60, last with
          | [a, b, c, d], _ => exact ⟨a, b, c, d, rfl⟩
        rw [four] at small named
        simp only [List.mem_cons, List.not_mem_nil, or_false, forall_eq_or_imp, forall_eq] at small
        simp only [List.foldl_cons, List.foldl_nil, Option.some.injEq] at named
        unfold expectedBuckets
        omega
      · simp at named

end Owner

theorem admits_owner {roomName host selfHost : String}
    (owner : OneOwner map bucket) (named : bucketForRoomName roomName = some bucket)
    (hosted : hostForBucket map bucket = some host)
    (admitted : (ownershipDecision .distributed roomName fun bucket =>
      bucket ∈ ownedBuckets map selfHost).admitted = true) : selfHost = host := by
  have same := (owner.admits selfHost roomName named).mp admitted
  rw [hosted] at same
  exact (Option.some.inj same).symm

/-- In a map that parses and validates every bucket has one owner, and a room name is admitted
by one box; and every list of in-bounds ranges that tiles the buckets validates. -/
theorem one_owner (parse : String → Option Json) :
    (∀ text map, parseShardMap parse text = .ok map → validateShardMap map = .ok () →
      (∀ bucket, 0 ≤ bucket → bucket < expectedBuckets → OneOwner map bucket) ∧
      ∀ roomName bucket, bucketForRoomName roomName = some bucket →
        ∃! selfHost, (ownershipDecision .distributed roomName fun bucket =>
          bucket ∈ ownedBuckets map selfHost).admitted = true) ∧
    ∀ map, 0 ≤ map.version → map.ranges ≠ [] →
      (∀ range ∈ map.ranges, isBareAuthority range.host = true ∧ 0 ≤ range.low ∧
        range.low ≤ range.high ∧ range.high < expectedBuckets) →
      (∀ bucket, 0 ≤ bucket → bucket < expectedBuckets →
        map.ranges.countP (·.covers bucket) = 1) →
      validateShardMap map = .ok () := by
  constructor
  · intro text map _ valid
    refine ⟨fun bucket => one_owner_of_valid valid, ?_⟩
    intro roomName bucket named
    obtain ⟨above, below⟩ := bucket_bounds named
    have owner := one_owner_of_valid valid above below
    obtain ⟨range, member, covers⟩ := List.countP_pos_iff.mp (by
      rw [owner.covered]
      exact one_pos)
    have hosted := owner.host range member covers
    refine ⟨range.host, (owner.admits range.host roomName named).mpr hosted, ?_⟩
    intro selfHost admitted
    exact admits_owner owner named hosted admitted
  · intro map version nonempty bounds tiles
    exact valid_iff.mpr ⟨version, nonempty, bounds, tiles⟩

/-- JSON.parse on the text of one map. -/
def parseSampleMap (text : String) : Option Json :=
  if text = "map" then
    some (.obj [("version", .num 3), ("ranges", .arr
      [.obj [("low", .num 40000), ("high", .num 65535), ("host", .str "relay2:8443")],
        .obj [("low", .num 0), ("high", .num 39999), ("host", .str "relay1")]])])
  else none

def sampleMap : ShardMap := ⟨3, [⟨40000, 65535, "relay2:8443"⟩, ⟨0, 39999, "relay1"⟩]⟩

theorem one_owner_sample : OneOwner sampleMap 39999 :=
  ((one_owner parseSampleMap).1 "map" sampleMap (by decide +kernel) (by decide +kernel)).1 39999
    (by decide) (by decide)

end Relay
