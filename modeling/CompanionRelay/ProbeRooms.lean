import CompanionRelay.MonitorMap
import CompanionRelay.OneOwner

/-!
The room that the monitor probes a host with. The ranges of the host, one after another, are
the list of its buckets, a draw picks one place of that list, and the four last digits of the
room write the bucket found there.
-/

namespace Relay.Monitor

section Digits

/-- The number that a list of hex digits writes. -/
def numeral (digits : List Nat) : Nat := digits.foldl (fun value digit => 16 * value + digit) 0

theorem numeral_snoc (digits : List Nat) (last : Nat) :
    numeral (digits ++ [last]) = 16 * numeral digits + last := by
  simp [numeral]

theorem numeral_zeros (count : Nat) (digits : List Nat) :
    numeral (List.replicate count 0 ++ digits) = numeral digits := by
  induction count with
  | zero => simp
  | succ count ih =>
      rw [List.replicate_succ, List.cons_append]
      exact ih

theorem hexDigit_digitChar {digit : Nat} (small : digit < 16) :
    hexDigit (Nat.digitChar digit) = some digit := by
  have every : ∀ digit < 16, hexDigit (Nat.digitChar digit) = some digit := by decide
  exact every digit small

theorem toDigits_reads (value : Nat) : ∃ digits,
    (Nat.toDigits 16 value).mapM hexDigit = some digits ∧ numeral digits = value := by
  induction value using Nat.strongRecOn with
  | ind value ih =>
      rw [Nat.toDigits_eq_if (by decide)]
      by_cases single : value < 16
      · refine ⟨[value], ?_, ?_⟩
        · simp [single, hexDigit_digitChar single]
        · simp [numeral]
      · obtain ⟨digits, read, same⟩ := ih (value / 16) (by omega)
        refine ⟨digits ++ [value % 16], ?_, ?_⟩
        · simp [single, read, hexDigit_digitChar (Nat.mod_lt value (by decide : 0 < 16))]
        · rw [numeral_snoc, same]
          omega

theorem padStart_reads {width : Nat} {text : List Char} {digits : List Nat}
    (read : text.mapM hexDigit = some digits) :
    (padStart width '0' text).mapM hexDigit =
      some (List.replicate (width - text.length) 0 ++ digits) := by
  have zeros : ∀ count, (List.replicate count '0').mapM hexDigit = some (List.replicate count 0) := by
    intro count
    induction count with
    | zero => rfl
    | succ count ih =>
        rw [List.replicate_succ, List.replicate_succ, List.mapM_cons, ih]
        rfl
  rw [padStart, List.mapM_append, zeros, read]
  rfl

theorem length_of_mapM {chars : List Char} {digits : List Nat}
    (read : chars.mapM hexDigit = some digits) : digits.length = chars.length := by
  induction chars generalizing digits with
  | nil =>
      cases read
      rfl
  | cons char rest ih =>
      rw [List.mapM_cons] at read
      obtain ⟨digit, first, read⟩ := Option.bind_eq_some_iff.mp read
      obtain ⟨others, later, read⟩ := Option.bind_eq_some_iff.mp read
      cases read
      rw [List.length_cons, List.length_cons, ih later]

theorem mapM_of_digits {chars : List Char} (every : ∀ char ∈ chars, (hexDigit char).isSome) :
    ∃ digits, chars.mapM hexDigit = some digits := by
  induction chars with
  | nil => exact ⟨[], rfl⟩
  | cons char rest ih =>
      obtain ⟨digit, first⟩ := Option.isSome_iff_exists.mp (every char List.mem_cons_self)
      obtain ⟨digits, later⟩ := ih fun other member => every other (List.mem_cons_of_mem char member)
      refine ⟨digit :: digits, ?_⟩
      rw [List.mapM_cons, first, later]
      rfl

theorem bucket_of_room (draw : Draw) {bucket : Int} (above : 0 ≤ bucket)
    (below : bucket < expectedBuckets) :
    bucketForRoomName (draw.prefix60 ++ String.ofList (padStart 4 '0' (hexText bucket))) =
      some bucket := by
  have positive : hexText bucket = Nat.toDigits 16 bucket.natAbs := by
    rw [hexText, if_neg (by omega), List.nil_append]
  have short : (Nat.toDigits 16 bucket.natAbs).length ≤ 4 := by
    rw [Nat.length_toDigits_le_iff (by decide) (by decide)]
    unfold expectedBuckets at below
    omega
  obtain ⟨head, begins⟩ := mapM_of_digits draw.canonical.2
  obtain ⟨digits, writes, value⟩ := toDigits_reads bucket.natAbs
  have sixty : head.length = 60 := (length_of_mapM begins).trans draw.canonical.1
  have same : digits.length = (Nat.toDigits 16 bucket.natAbs).length := length_of_mapM writes
  rw [bucketForRoomName, String.toList_append, String.toList_ofList, positive, List.mapM_append,
    begins, padStart_reads writes]
  have whole : (head ++ (List.replicate (4 - (Nat.toDigits 16 bucket.natAbs).length) 0 ++
      digits)).length = 64 := by
    simp only [List.length_append, List.length_replicate]
    omega
  have tail : (head ++ (List.replicate (4 - (Nat.toDigits 16 bucket.natAbs).length) 0 ++
      digits)).drop 60 =
        List.replicate (4 - (Nat.toDigits 16 bucket.natAbs).length) 0 ++ digits :=
    List.drop_left' sixty
  have reads := numeral_zeros (4 - (Nat.toDigits 16 bucket.natAbs).length) digits
  rw [numeral, value] at reads
  simp only [Option.pure_def, Option.bind_eq_bind, Option.bind_some]
  rw [if_pos whole, tail, reads]
  congr 1
  omega

end Digits

section Walk
variable {ranges : List Range} {bucket : Int}

/-- The bounds of a range, as the probe reads them. -/
def arc (range : Range) : Int × Int := (range.low, range.high)

theorem length_buckets (range : Range) : range.buckets.length = (rangeSize (arc range)).toNat := by
  rw [Range.buckets, List.length_map, List.length_range, rangeSize, arc]
  congr 1
  omega

theorem ownedTotal_arcs (proper : ∀ range ∈ ranges, range.low ≤ range.high) :
    ownedTotal (ranges.map arc) = (ranges.flatMap Range.buckets).length := by
  induction ranges with
  | nil => rfl
  | cons range rest ih =>
      obtain ⟨here, later⟩ := List.forall_mem_cons.mp proper
      have rest := ih later
      have size := length_buckets range
      simp only [ownedTotal, List.map_cons, List.sum_cons, List.flatMap_cons, List.length_append,
        rangeSize, arc] at rest size ⊢
      omega

theorem bucketAt_arcs (proper : ∀ range ∈ ranges, range.low ≤ range.high) {idx : Int}
    (above : 0 ≤ idx) :
    bucketAt (ranges.map arc) idx = (ranges.flatMap Range.buckets)[idx.toNat]? := by
  induction ranges generalizing idx with
  | nil => rfl
  | cons range rest ih =>
      obtain ⟨here, later⟩ := List.forall_mem_cons.mp proper
      have size := length_buckets range
      have wide : 0 ≤ rangeSize (arc range) := by
        simp only [rangeSize, arc]
        omega
      rw [List.map_cons, bucketAt, List.flatMap_cons]
      by_cases inside : idx < rangeSize (arc range)
      · have within : idx.toNat < range.buckets.length := by omega
        rw [if_pos inside, List.getElem?_append_left within, List.getElem?_eq_getElem within]
        simp only [Range.buckets, List.getElem_map, List.getElem_range, arc, Option.some.injEq]
        omega
      · have beyond : range.buckets.length ≤ idx.toNat := by omega
        have place : idx.toNat - range.buckets.length = (idx - rangeSize (arc range)).toNat := by
          omega
        rw [if_neg inside, List.getElem?_append_right beyond, ih later (by omega), place]

theorem nodup_buckets (once : ∀ bucket, ranges.countP (·.covers bucket) ≤ 1) :
    (ranges.flatMap Range.buckets).Nodup := by
  induction ranges with
  | nil => simp
  | cons range rest ih =>
      have later : ∀ bucket, rest.countP (·.covers bucket) ≤ 1 := by
        intro bucket
        have bound := once bucket
        rw [List.countP_cons] at bound
        omega
      rw [List.flatMap_cons, List.nodup_append]
      refine ⟨?_, ih later, ?_⟩
      · refine (List.nodup_map_iff ?_).mpr List.nodup_range
        intro first second same
        simp only at same
        omega
      · rintro bucket here other there rfl
        obtain ⟨second, member, inside⟩ := List.mem_flatMap.mp there
        have twice : 0 < rest.countP (·.covers bucket) :=
          List.countP_pos_iff.mpr ⟨second, member, mem_buckets.mp inside⟩
        have bound := once bucket
        rw [List.countP_cons, if_pos (mem_buckets.mp here)] at bound
        omega

end Walk

section Accepted
variable {parse : String → Option Json} {text host : String} {map : ShardMap} {doc : Json}

theorem ownedRange_of_parseRange {entry : Json} {range : Range}
    (read : parseRange entry = some range) (proper : range.low ≤ range.high) :
    ownedRange host entry = if range.host = host then some (arc range) else none := by
  have hosted := entryHost_of_parseRange read
  unfold parseRange at read
  split at read
  · rename_i lowest highest owner lowRead highRead _
    cases read
    rw [ownedRange, lowRead, highRead, hosted]
    by_cases same : owner = host
    · simp [same, arc, proper]
    · simp [same]
  · cases read

theorem ownedRanges_of_mapM {entries : List Json} {ranges : List Range}
    (read : entries.mapM parseRange = some ranges)
    (proper : ∀ range ∈ ranges, range.low ≤ range.high) :
    entries.filterMap (ownedRange host) = (ranges.filter (·.host = host)).map arc := by
  induction entries generalizing ranges with
  | nil =>
      cases read
      rfl
  | cons entry rest ih =>
      rw [List.mapM_cons] at read
      obtain ⟨range, first, read⟩ := Option.bind_eq_some_iff.mp read
      obtain ⟨others, later, read⟩ := Option.bind_eq_some_iff.mp read
      cases read
      obtain ⟨here, proper⟩ := List.forall_mem_cons.mp proper
      have found : ownedRange host entry = if range.host = host then some (arc range) else none :=
        ownedRange_of_parseRange first here
      by_cases same : range.host = host
      · rw [if_pos same] at found
        rw [List.filterMap_cons_some found, ih later proper, List.filter_cons_of_pos (by simpa using same),
          List.map_cons]
      · rw [if_neg same] at found
        rw [List.filterMap_cons_none found, ih later proper, List.filter_cons_of_neg (by simpa using same)]

theorem ownedRanges_of_parse (document : parse text = some doc)
    (read : parseShardMap parse text = .ok map)
    (proper : ∀ range ∈ map.ranges, range.low ≤ range.high) :
    ownedRanges doc host = (map.ranges.filter (·.host = host)).map arc := by
  unfold parseShardMap at read
  rw [document] at read
  split at read
  · cases read
  · rename_i fields same
    cases same
    split at read
    · cases read
    · split at read
      · rename_i entries found
        split at read
        · cases read
        · rename_i ranges every
          cases read
          rw [← ownedRanges_of_mapM every proper, ownedRanges, mapRanges, found]
          rfl
      · cases read
  · cases read

end Accepted

section Valid
variable {map : ShardMap} {host : String} {bucket : Int}

theorem covers_once (valid : validateShardMap map = .ok ()) (bucket : Int) :
    map.ranges.countP (·.covers bucket) ≤ 1 := by
  obtain ⟨_, _, bounds, tiles⟩ := valid_iff.mp valid
  by_cases covered : ∃ range ∈ map.ranges, range.covers bucket = true
  · obtain ⟨range, member, covers⟩ := covered
    have inside := Tiling.covers_iff.mp covers
    have proper := bounds range member
    exact le_of_eq (tiles bucket (by omega) (by omega))
  · have none : map.ranges.countP (·.covers bucket) = 0 := by
      rw [List.countP_eq_zero]
      intro range member covers
      exact covered ⟨range, member, covers⟩
    omega

theorem items_ownedBuckets (valid : validateShardMap map = .ok ()) :
    (ownedBuckets map host).items =
      (map.ranges.filter (·.host = host)).flatMap Range.buckets := by
  have once : ∀ bucket, (map.ranges.filter (·.host = host)).countP (·.covers bucket) ≤ 1 := by
    intro bucket
    exact (List.filter_sublist.countP_le).trans (covers_once valid bucket)
  have distinct := nodup_buckets once
  rw [ownedBuckets, OrderedSet.items_addAll _ _ distinct]
  rfl

theorem owned_iff (valid : validateShardMap map = .ok ()) :
    bucket ∈ ownedBuckets map host ↔ hostForBucket map bucket = some host := by
  rw [mem_ownedBuckets]
  constructor
  · rintro ⟨range, member, rfl, covers⟩
    have inside := Tiling.covers_iff.mp covers
    have proper := (valid_iff.mp valid).2.2.1 range member
    exact (one_owner_of_valid valid (by omega) (by omega)).host range member covers
  · intro hosted
    rw [hostForBucket] at hosted
    split at hosted
    · cases hosted
    · obtain ⟨range, found, same⟩ := Option.map_eq_some_iff.mp hosted
      exact ⟨range, List.mem_of_find?_eq_some found, same, by simpa using List.find?_some found⟩

end Valid

/-- The rooms that the probe of a host gets from its draws: none for a host without a range,
otherwise a room that the host owns and admits; and each owned bucket has its own one of the
equal parts of the unit interval, from which the draws lead to it. -/
structure ProbesOwned (map : ShardMap) (host : String) (room : Draw → Option String) : Prop where
  drained : ∀ draw, room draw = none ↔ ∀ range ∈ map.ranges, range.host ≠ host
  owned : ∀ draw name, room draw = some name → ∃ bucket,
    bucketForRoomName name = some bucket ∧ hostForBucket map bucket = some host ∧
    ownershipDecision .distributed name (fun bucket => bucket ∈ ownedBuckets map host) =
      .admits (some bucket)
  uniform : ∃ part : Int → Nat,
    (∀ bucket, hostForBucket map bucket = some host →
      part bucket < (ownedBuckets map host).items.length ∧
      ∀ draw, (room draw).bind bucketForRoomName = some bucket ↔
        (part bucket : Rat) / (ownedBuckets map host).items.length ≤ draw.randUnit ∧
        draw.randUnit < (part bucket + 1 : Rat) / (ownedBuckets map host).items.length) ∧
    ∀ first second, hostForBucket map first = some host → hostForBucket map second = some host →
      part first = part second → first = second

section Room
variable {parse : String → Option Json} {text host : String} {map : ShardMap} {doc : Json}

-- Neither bound that the code puts on the index is reached by a draw of the unit interval.
theorem place_bounds (draw : Draw) {total : Nat} (positive : 0 < total) :
    0 ≤ ⌊draw.randUnit * total⌋ ∧ ⌊draw.randUnit * total⌋ < total := by
  have above : (0 : Rat) < total := by exact_mod_cast positive
  constructor
  · exact Int.floor_nonneg.mpr (mul_nonneg draw.unit.1 above.le)
  · have short := mul_lt_mul_of_pos_right draw.unit.2 above
    rw [one_mul] at short
    rw [Int.floor_lt]
    exact_mod_cast short

theorem part_of_place (draw : Draw) {place total : Nat} (positive : 0 < total) :
    ⌊draw.randUnit * total⌋.toNat = place ↔
      (place : Rat) / total ≤ draw.randUnit ∧ draw.randUnit < (place + 1 : Rat) / total := by
  have above : (0 : Rat) < total := by exact_mod_cast positive
  have least := (place_bounds draw positive).1
  have same : ⌊draw.randUnit * total⌋.toNat = place ↔ ⌊draw.randUnit * total⌋ = (place : Int) := by
    omega
  rw [same, Int.floor_eq_iff, div_le_iff₀ above, lt_div_iff₀ above, Int.cast_natCast]

-- The draw picks the place floor(randUnit * total) of the list of owned buckets.
theorem room_of_draw (document : parse text = some doc) (read : parseShardMap parse text = .ok map)
    (valid : validateShardMap map = .ok ()) (draw : Draw) :
    ownedRoomForHost doc host draw =
      ((ownedBuckets map host).items[
        ⌊draw.randUnit * (ownedBuckets map host).items.length⌋.toNat]?).map fun bucket =>
          draw.prefix60 ++ String.ofList (padStart 4 '0' (hexText bucket)) := by
  have proper : ∀ range ∈ map.ranges, range.low ≤ range.high := fun range member =>
    ((valid_iff.mp valid).2.2.1 range member).2.2.1
  have owned : ∀ range ∈ map.ranges.filter (·.host = host), range.low ≤ range.high :=
    fun range member => proper range (List.mem_of_mem_filter member)
  have total := ownedTotal_arcs owned
  rw [← items_ownedBuckets valid] at total
  rw [ownedRoomForHost, ownedRanges_of_parse document read proper, total]
  by_cases empty : (ownedBuckets map host).items.length = 0
  · rw [if_pos (by omega), List.length_eq_zero_iff.mp empty]
    rfl
  · obtain ⟨least, most⟩ := place_bounds draw (Nat.pos_of_ne_zero empty)
    have index : min (((ownedBuckets map host).items.length : Int) - 1)
        (max 0 ⌊draw.randUnit * ((ownedBuckets map host).items.length : Int)⌋) =
          ⌊draw.randUnit * (ownedBuckets map host).items.length⌋ := by
      rw [Int.cast_natCast]
      omega
    rw [if_neg (by omega), index]
    simp only
    rw [bucketAt_arcs owned least, ← items_ownedBuckets valid]

theorem bounds_of_owned (valid : validateShardMap map = .ok ()) {bucket : Int}
    (member : bucket ∈ (ownedBuckets map host).items) : 0 ≤ bucket ∧ bucket < expectedBuckets := by
  obtain ⟨range, inside, _, covers⟩ := mem_ownedBuckets.mp member
  have proper := (valid_iff.mp valid).2.2.1 range inside
  have within := Tiling.covers_iff.mp covers
  omega

theorem bucket_of_draw (document : parse text = some doc)
    (read : parseShardMap parse text = .ok map) (valid : validateShardMap map = .ok ())
    (draw : Draw) :
    (ownedRoomForHost doc host draw).bind bucketForRoomName =
      (ownedBuckets map host).items[
        ⌊draw.randUnit * (ownedBuckets map host).items.length⌋.toNat]? := by
  rw [room_of_draw document read valid]
  cases place : (ownedBuckets map host).items[
      ⌊draw.randUnit * (ownedBuckets map host).items.length⌋.toNat]? with
  | none => rfl
  | some bucket =>
      have bounds := bounds_of_owned valid (List.mem_of_getElem? place)
      exact bucket_of_room draw bounds.1 bounds.2

theorem nothing_owned_iff (valid : validateShardMap map = .ok ()) :
    (ownedBuckets map host).items = [] ↔ ∀ range ∈ map.ranges, range.host ≠ host := by
  constructor
  · intro empty range member same
    have proper := (valid_iff.mp valid).2.2.1 range member
    have lowest : range.low ∈ (ownedBuckets map host).items :=
      mem_ownedBuckets.mpr ⟨range, member, same, Tiling.covers_iff.mpr ⟨le_refl _, proper.2.2.1⟩⟩
    rw [empty] at lowest
    exact absurd lowest List.not_mem_nil
  · intro drained
    rw [List.eq_nil_iff_forall_not_mem]
    intro bucket owned
    obtain ⟨range, member, same, _⟩ := mem_ownedBuckets.mp owned
    exact drained range member same

/-- Every draw for a host of an accepted map gives a room of the host, each of its buckets as
often as any other; only a host without a range gets none. -/
theorem probe_rooms_owned (document : parse text = some doc)
    (read : parseShardMap parse text = .ok map) (valid : validateShardMap map = .ok ()) :
    ProbesOwned map host (ownedRoomForHost doc host) := by
  constructor
  case drained =>
    intro draw
    rw [room_of_draw document read valid, Option.map_eq_none_iff, List.getElem?_eq_none_iff,
      ← nothing_owned_iff valid]
    constructor
    · intro outside
      by_contra some
      have most := place_bounds draw (List.length_pos_iff.mpr some)
      omega
    · intro empty
      rw [empty]
      exact Nat.zero_le _
  case owned =>
    intro draw name found
    have bucket : (ownedRoomForHost doc host draw).bind bucketForRoomName = _ :=
      bucket_of_draw document read valid draw
    rw [found, Option.bind_some] at bucket
    rw [room_of_draw document read valid] at found
    obtain ⟨place, member, _⟩ := Option.map_eq_some_iff.mp found
    rw [member] at bucket
    have owned : place ∈ ownedBuckets map host := List.mem_of_getElem? member
    refine ⟨place, bucket, (owned_iff valid).mp owned, ?_⟩
    simp [ownershipDecision, bucket, owned]
  case uniform =>
    refine ⟨fun bucket => (ownedBuckets map host).items.idxOf bucket, ?_, ?_⟩
    · intro bucket hosted
      have member : bucket ∈ (ownedBuckets map host).items := (owned_iff valid).mpr hosted
      have inside := List.idxOf_lt_length_iff.mpr member
      refine ⟨inside, ?_⟩
      intro draw
      have within := place_bounds draw (Nat.zero_lt_of_lt inside)
      rw [bucket_of_draw document read valid, ← part_of_place draw (Nat.zero_lt_of_lt inside),
        ← List.getElem?_idxOf member]
      exact List.getElem?_inj (by omega) (ownedBuckets map host).nodup
    · intro first second owned _ same
      exact (List.idxOf_inj ((owned_iff valid).mpr owned)).mp same

end Room

theorem probe_rooms_sample : ∃ doc, parseSampleMap "map" = some doc ∧
    ProbesOwned sampleMap "relay1" (ownedRoomForHost doc "relay1") := by
  have document : parseSampleMap "map" = some _ := if_pos rfl
  exact ⟨_, document, probe_rooms_owned document (by decide +kernel) (by decide +kernel)⟩

end Relay.Monitor
