import CompanionRelay.ExpositionParse
import Mathlib.Algebra.BigOperators.Group.List.Basic
import Mathlib.Algebra.Order.Ring.Rat
import Mathlib.Data.Rat.Cast.Order

/-!
The series of a relay's metrics text. Every series has a name of its own, so the samples of a text
under a name are those of one counter, of one gauge or of the reasons of one counter; and every
line of the text is one that the readers tell apart, if its number reads back.
-/

namespace Relay.Exposition

section Series

/-- Where the samples of a name come from. -/
inductive Series
  | counter (plain : Counter)
  | labeled (family : Labeled)
  | gauge (point : Gauge)
  deriving DecidableEq

def Series.name : Series → Text
  | .counter plain => plain.name
  | .labeled family => family.name
  | .gauge point => point.name

def Series.all : List Series :=
  [.counter .wsUpgradesTotal, .counter .httpRequestsTotal, .counter .httpErrorsTotal,
    .counter .processExceptionsTotal, .counter .metricsPushErrorsTotal,
    .counter .quotaExceededTotal, .counter .phoneNoMacTotal, .counter .wsKeepaliveTerminatedTotal,
    .counter .shardRejectTotal, .counter .shardMapReloadsTotal, .counter .shardMapFetchErrorsTotal,
    .counter .shardMapFetchRetriesTotal, .labeled .wsUpgradesRejectedTotal,
    .labeled .shardMapFetchErrorsByCauseTotal, .gauge .roomsLive, .gauge .socketsLive,
    .gauge .roomsBoth, .gauge .roomsMacOnly, .gauge .roomsPhoneOnly, .gauge .roomsNeither,
    .gauge .shardMapVersion, .gauge .shardOwnedBuckets, .gauge .shardDrainingBuckets]

theorem Series.mem_all (series : Series) : series ∈ Series.all := by
  cases series with
  | counter counter => cases counter <;> decide
  | labeled labeled => cases labeled <;> decide
  | gauge gauge => cases gauge <;> decide

theorem Series.forall_of_all {holds : Series → Prop} [DecidablePred holds]
    (every : Series.all.all (fun series => decide (holds series)) = true) (series : Series) :
    holds series := by
  have holds := List.all_eq_true.mp every series (Series.mem_all series)
  simpa using holds

theorem Series.name_injective : Function.Injective Series.name := by
  have distinct : (Series.all.map Series.name).Nodup := by decide
  intro first second same
  exact List.inj_on_of_nodup_map distinct (Series.mem_all first) (Series.mem_all second) same

/-- A name of a sample: what its line is written with and what tells it from the lifetimes. -/
structure Named (name : Text) : Prop where
  some_ : name ≠ []
  chars : name.all nameChar = true
  alive : lifetimeName.isPrefixOf name = false

theorem Series.named (series : Series) : Named series.name := by
  have every : ∀ series : Series, series.name ≠ [] ∧ series.name.all nameChar = true ∧
      lifetimeName.isPrefixOf series.name = false := Series.forall_of_all (by decide)
  exact ⟨(every series).1, (every series).2.1, (every series).2.2⟩

theorem Named.plain {name : Text} (named : Named name) : ∀ char ∈ name, nameChar char = true :=
  List.all_eq_true.mp named.chars

theorem Named.apart {name : Text} (named : Named name) {char : Char} (other : nameChar char = false) :
    char ∉ name := by
  intro member
  rw [named.plain char member] at other
  cases other

end Series

section Host
variable {metrics : Metrics} {key : Text}

/-- A key of the counters: a name, or a name and one of its reasons. -/
def HostKey (key : Text) : Prop :=
  (∃ counter : Counter, key = counter.name) ∨
    ∃ (labeled : Labeled) (reason : String), reason ∈ labeled.reasons ∧
      key = reasonKey labeled.name reason.toList

/-- What every Metrics of the host is. -/
structure Hosted (metrics : Metrics) : Prop where
  keys : ∀ key, key ∈ metrics.counters → HostKey key
  lifetimes : ∃ observed : List Rat, metrics.lifetimeInf = observed.length ∧
    metrics.bucketCounts = lifetimeBuckets.map fun bucket =>
      observed.countP fun seconds => decide (seconds ≤ (bucket.1 : Rat))

theorem hosted_inc (hosted : Hosted metrics) (named : HostKey key) (value : Rat) :
    Hosted (metrics.inc key value) := by
  refine ⟨?_, hosted.lifetimes⟩
  intro other member
  rcases (OrderedMap.mem_set _ _ _ _).mp member with rfl | inside
  · exact named
  · exact hosted.keys other inside

theorem hosted_observe (hosted : Hosted metrics) (seconds : Rat) :
    Hosted (metrics.observeSocketLifetime seconds) := by
  refine ⟨hosted.keys, ?_⟩
  obtain ⟨observed, length, counts⟩ := hosted.lifetimes
  refine ⟨seconds :: observed, ?_, ?_⟩
  · rw [List.length_cons, ← length]
    rfl
  · change List.zipWith _ lifetimeBuckets metrics.bucketCounts = _
    rw [counts, List.zipWith_map_right, List.zipWith_self]
    apply List.map_congr_left
    intro bucket _
    by_cases within : seconds ≤ (bucket.1 : Rat)
    · simp [within]
    · simp [within]

theorem hosted_call (hosted : Hosted metrics) (call : Call) : Hosted (metrics.call call) := by
  cases call with
  | inc counter value => exact hosted_inc hosted (.inl ⟨counter, rfl⟩) value
  | incReason labeled reason listed => exact hosted_inc hosted (.inr ⟨labeled, reason, listed, rfl⟩) 1
  | observeSocketLifetime seconds => exact hosted_observe hosted seconds

theorem hosted_new : Hosted .new := by
  refine ⟨?_, [], rfl, rfl⟩
  intro key member
  exact absurd member List.not_mem_nil

theorem hosted_run (calls : List Call) : Hosted (Metrics.run calls) := by
  have folded : ∀ (calls : List Call) metrics, Hosted metrics → Hosted (calls.foldl Metrics.call metrics) := by
    intro calls
    induction calls with
    | nil => exact fun _ hosted => hosted
    | cons call rest ih => exact fun metrics hosted => ih _ (hosted_call hosted call)
  exact folded calls .new hosted_new

end Host

section Splits
variable {metrics : Metrics} {name : Text} {entries : List (Text × Rat)}

theorem nul_apart (series : Series) : '\x00' ∉ series.name := series.named.apart (by decide)

theorem splitKey_plain (apart : '\x00' ∉ name) : splitKey name = (name, none) := by
  have none : name.dropWhile (· ≠ '\x00') = [] := by
    rw [List.dropWhile_eq_nil_iff]
    intro char member
    rw [decide_eq_true_eq]
    rintro rfl
    exact apart member
  rw [splitKey, none]

theorem splitKey_whole {key : Text} (whole : splitKey key = (name, none)) : name = key := by
  rw [splitKey] at whole
  split at whole
  · cases whole
    rfl
  · cases whole

theorem splitKey_reason (apart : '\x00' ∉ name) (reason : Text) :
    splitKey (reasonKey name reason) = (name, some reason) := by
  obtain ⟨front, rest⟩ := before_stop '\x00' reason apart
  rw [splitKey, reasonKey, front, rest]

-- A host key splits into the name of a counter, or into the name of a labeled one and a reason.
theorem HostKey.split (named : HostKey name) :
    (∃ counter : Counter, name = counter.name ∧ splitKey name = (name, none)) ∨
      ∃ (labeled : Labeled) (reason : Text), name = reasonKey labeled.name reason ∧
        reason ∈ labeled.reasons.map String.toList ∧ splitKey name = (labeled.name, some reason) := by
  rcases named with ⟨counter, rfl⟩ | ⟨labeled, reason, listed, rfl⟩
  · exact .inl ⟨counter, rfl, splitKey_plain (nul_apart (.counter counter))⟩
  · exact .inr ⟨labeled, reason.toList, rfl, List.mem_map_of_mem listed,
      splitKey_reason (nul_apart (.labeled labeled)) reason.toList⟩

/-- The reasons that some counters have under a name. -/
def reasonsOf (name : Text) (entries : List (Text × Rat)) : List (Text × Rat) :=
  entries.filterMap fun entry =>
    match splitKey entry.1 with
    | (other, some reason) => if other = name then some (reason, entry.2) else none
    | (_, none) => none

theorem split_plain (apart : '\x00' ∉ name) (entries : List (Text × Rat)) :
    (entries.foldl Split.add ⟨.empty, .empty⟩).plain.get? name =
      (entries.filter (·.1 = name)).getLast?.map Prod.snd := by
  induction entries using List.reverseRecOn with
  | nil => rfl
  | append_singleton rest entry ih =>
      obtain ⟨key, value⟩ := entry
      rw [List.foldl_append, List.foldl_cons, List.foldl_nil, List.filter_append]
      by_cases here : key = name
      · subst here
        rw [Split.add, splitKey_plain apart, List.filter_cons_of_pos (by simp), List.filter_nil,
          List.getLast?_concat]
        exact (OrderedMap.get?_set_if ..).trans (if_pos rfl)
      · rw [List.filter_cons_of_neg (by simpa using here), List.filter_nil, List.append_nil, ← ih,
          Split.add]
        split
        · rename_i other same
          obtain rfl := splitKey_whole same
          exact (OrderedMap.get?_set_if ..).trans (if_neg (Ne.symm here))
        · rfl

theorem split_labeled (name : Text) (entries : List (Text × Rat)) :
    ((entries.foldl Split.add ⟨.empty, .empty⟩).labeled.get? name).getD [] =
      reasonsOf name entries := by
  induction entries using List.reverseRecOn with
  | nil => rfl
  | append_singleton rest entry ih =>
      obtain ⟨key, value⟩ := entry
      rw [List.foldl_append, List.foldl_cons, List.foldl_nil, reasonsOf, List.filterMap_append,
        ← reasonsOf, ← ih, Split.add]
      cases whole : splitKey key with
      | mk other reason =>
          cases reason with
          | none => simp [whole]
          | some reason =>
              simp only [OrderedMap.get?_set_if]
              by_cases here : name = other
              · simp [whole, here]
              · simp [whole, here, Ne.symm here]

/-- The names of a split are the host's. -/
structure Split.Hosted (split : Split) : Prop where
  plain : ∀ name, name ∈ split.plain → ∃ counter : Counter, name = counter.name
  labeled : ∀ name, name ∈ split.labeled → ∃ labeled : Labeled, name = labeled.name

theorem split_hosted (hosted : Hosted metrics) : metrics.split.Hosted := by
  have folded : ∀ entries : List (Text × Rat), (∀ entry ∈ entries, HostKey entry.1) →
      (entries.foldl Split.add ⟨.empty, .empty⟩).Hosted := by
    intro entries named
    induction entries using List.reverseRecOn with
    | nil => exact ⟨fun _ member => absurd member List.not_mem_nil,
        fun _ member => absurd member List.not_mem_nil⟩
    | append_singleton rest entry ih =>
        have before := ih fun other member => named other (List.mem_append_left _ member)
        rw [List.foldl_append, List.foldl_cons, List.foldl_nil, Split.add]
        rcases (named entry (by simp)).split with ⟨counter, same, whole⟩ | ⟨labeled, reason, _, _, whole⟩
        · rw [whole]
          refine ⟨?_, before.labeled⟩
          intro name member
          rcases (OrderedMap.mem_set _ _ _ _).mp member with rfl | inside
          · exact ⟨counter, same⟩
          · exact before.plain name inside
        · rw [whole]
          refine ⟨before.plain, ?_⟩
          intro name member
          rcases (OrderedMap.mem_set _ _ _ _).mp member with rfl | inside
          · exact ⟨labeled, rfl⟩
          · exact before.labeled name inside
  exact folded _ fun entry member => hosted.keys entry.1 (List.mem_map_of_mem member)

theorem plain_value (metrics : Metrics) (counter : Counter) :
    metrics.split.plain.get? counter.name = metrics.counters.get? counter.name := by
  have apart : '\x00' ∉ counter.name := nul_apart (.counter counter)
  rw [Metrics.split, split_plain apart, OrderedMap.filter_key]
  cases metrics.counters.get? counter.name with
  | none => rfl
  | some value => rfl

theorem mem_reasonsOf (named : ∀ entry ∈ entries, HostKey entry.1) {labeled : Labeled}
    {entry : Text × Rat} (member : entry ∈ reasonsOf labeled.name entries) :
    entry.1 ∈ labeled.reasons.map String.toList := by
  obtain ⟨source, inside, found⟩ := List.mem_filterMap.mp member
  rcases (named source inside).split with ⟨counter, _, whole⟩ | ⟨other, reason, _, listed, whole⟩
  · simp [whole] at found
  · simp only [whole, Option.ite_none_right_eq_some, Option.some.injEq] at found
    obtain ⟨same, rfl⟩ := found
    have same : Series.labeled other = .labeled labeled := Series.name_injective same
    cases same
    exact listed

theorem reasonsOf_other (named : ∀ entry ∈ entries, HostKey entry.1) {series : Series}
    (other : ∀ labeled, series ≠ .labeled labeled) : reasonsOf series.name entries = [] := by
  rw [reasonsOf, List.filterMap_eq_nil_iff]
  intro entry member
  rcases (named entry member).split with ⟨counter, _, whole⟩ | ⟨labeled, reason, _, _, whole⟩
  · simp [whole]
  · have apart : labeled.name ≠ series.name := by
      intro same
      have same : Series.labeled labeled = series := Series.name_injective same
      exact other labeled same.symm
    simp [whole, apart]

-- The test of snapshot finds the keys that render gives the name.
theorem startsWith_iff (labeled : Labeled) (key : Text) :
    (reasonKey labeled.name []).isPrefixOf key = true ↔
      ∃ reason, splitKey key = (labeled.name, some reason) := by
  have apart : '\x00' ∉ labeled.name := nul_apart (.labeled labeled)
  rw [List.isPrefixOf_iff_prefix]
  constructor
  · rintro ⟨reason, rfl⟩
    refine ⟨reason, ?_⟩
    rw [← splitKey_reason apart reason]
    simp [reasonKey]
  · rintro ⟨reason, whole⟩
    refine ⟨reason, ?_⟩
    rw [splitKey] at whole
    split at whole
    · cases whole
    · rename_i nul rest behind
      obtain ⟨front, same⟩ := Prod.mk.inj whole
      obtain rfl := Option.some.inj same
      have some_ : key.dropWhile (· ≠ '\x00') ≠ [] := behind ▸ List.cons_ne_nil nul rest
      have first : nul = '\x00' := by
        have stops := List.head_dropWhile_not _ some_
        simp only [behind, List.head_cons] at stops
        simpa using stops
      have parts : key.takeWhile (· ≠ '\x00') ++ key.dropWhile (· ≠ '\x00') = key :=
        List.takeWhile_append_dropWhile
      rw [front, behind, first] at parts
      rw [← parts, reasonKey, List.append_assoc]
      rfl

theorem reasonsOf_values (labeled : Labeled) (entries : List (Text × Rat)) :
    (reasonsOf labeled.name entries).map Prod.snd =
      (entries.filter fun entry => (reasonKey labeled.name []).isPrefixOf entry.1).map
        Prod.snd := by
  rw [reasonsOf, List.map_filterMap, ← List.filterMap_eq_map, List.filterMap_filter]
  apply List.filterMap_congr
  intro entry _
  by_cases starts : (reasonKey labeled.name []).isPrefixOf entry.1 = true
  · obtain ⟨reason, whole⟩ := (startsWith_iff labeled entry.1).mp starts
    simp [whole, starts]
  · have other : ∀ reason, splitKey entry.1 ≠ (labeled.name, some reason) := fun reason whole =>
      starts ((startsWith_iff labeled entry.1).mpr ⟨reason, whole⟩)
    cases whole : splitKey entry.1 with
    | mk name reason =>
        cases reason with
        | none => simp [starts]
        | some reason =>
            have apart : name ≠ labeled.name := by
              rintro rfl
              exact other reason whole
            simp [starts, apart]

end Splits

section Points
variable {runtime : Runtime} {metrics : Metrics} {gauges : Gauges} {name : Text}

def Output.points (output : Output) : List Sample := output.lines.filterMap Line.point

theorem points_push (output : Output) (sample : Sample) :
    (output.push sample).points = output.points ++ [sample] := by
  rw [Output.points, Output.push, List.filterMap_append]
  rfl

theorem points_help (output : Output) (name : Text) (kind : String) :
    (output.help name kind).points = output.points := by
  rw [Output.help]
  split
  · rfl
  · have comments : (((helpOf name).map fun text : String => Line.help name text.toList).toList ++
        [Line.type name kind.toList]).filterMap Line.point = [] := by
      cases helpOf name <;> rfl
    rw [Output.points, List.append_assoc, List.filterMap_append, comments, List.append_nil]
    rfl

theorem points_pushes (output : Output) (samples : List Sample) :
    (samples.foldl Output.push output).points = output.points ++ samples := by
  induction samples generalizing output with
  | nil => rw [List.foldl_nil, List.append_nil]
  | cons sample rest ih => rw [List.foldl_cons, ih, points_push, List.append_assoc, List.singleton_append]

theorem points_singles (kind : String) (output : Output) (samples : List Sample) :
    (samples.foldl (Output.single kind) output).points = output.points ++ samples := by
  induction samples generalizing output with
  | nil => rw [List.foldl_nil, List.append_nil]
  | cons sample rest ih =>
      rw [List.foldl_cons, ih, Output.single, points_push, points_help, List.append_assoc,
        List.singleton_append]

theorem points_families (output : Output) (families : List (Text × List (Text × Rat))) :
    (families.foldl (Output.family runtime) output).points =
      output.points ++ families.flatMap (labeledSamples runtime) := by
  induction families generalizing output with
  | nil => rw [List.foldl_nil, List.flatMap_nil, List.append_nil]
  | cons family rest ih =>
      rw [List.foldl_cons, ih, Output.family, points_pushes, points_help, List.append_assoc,
        List.flatMap_cons]

/-- The samples of the text, in the order in which they are written. -/
def Metrics.points (runtime : Runtime) (metrics : Metrics) (gauges : Gauges) : List Sample :=
  metrics.split.plain.entries.map plainSample ++
    metrics.split.labeled.entries.flatMap (labeledSamples runtime) ++
    gauges.entries.map gaugeSample ++ metrics.lifetimeSamples

theorem points_lines : (metrics.lines runtime gauges).filterMap Line.point =
    metrics.points runtime gauges := by
  have lifetimes : (metrics.lifetimeSamples.map Line.sample).filterMap Line.point =
      metrics.lifetimeSamples := by
    rw [List.filterMap_map]
    exact List.filterMap_some
  rw [Metrics.lines, List.filterMap_append, List.filterMap_append, lifetimes, ← Output.points,
    points_singles, points_families, points_singles]
  simp [Metrics.points, Output.points, Line.point]

end Points

section Values
variable {runtime : Runtime} {metrics : Metrics} {gauges : Gauges} {name : Text}

/-- The values that stand under a name. -/
def valuesOf (name : Text) (samples : List Sample) : List Rat :=
  (samples.filter (·.name = name)).map Sample.value

theorem valuesOf_append (name : Text) (first second : List Sample) :
    valuesOf name (first ++ second) = valuesOf name first ++ valuesOf name second := by
  rw [valuesOf, List.filter_append, List.map_append]
  rfl

theorem valuesOf_nil {samples : List Sample} (apart : ∀ sample ∈ samples, sample.name ≠ name) :
    valuesOf name samples = [] := by
  have none : samples.filter (·.name = name) = [] := by
    rw [List.filter_eq_nil_iff]
    intro sample member
    simpa using apart sample member
  rw [valuesOf, none, List.map_nil]

theorem values_plain (plain : OrderedMap Text Rat) (name : Text) :
    valuesOf name (plain.entries.map plainSample) = (plain.get? name).toList := by
  have same : (plain.entries.map plainSample).filter (·.name = name) =
      (plain.entries.filter (·.1 = name)).map plainSample := by
    rw [List.filter_map]
    rfl
  rw [valuesOf, same, OrderedMap.filter_key]
  cases plain.get? name <;> rfl

theorem values_labeled (runtime : Runtime) (labeled : OrderedMap Text (List (Text × Rat))) (name : Text) :
    (valuesOf name (labeled.entries.flatMap (labeledSamples runtime))).Perm
      (((labeled.get? name).getD []).map Prod.snd) := by
  have same : (labeled.entries.flatMap (labeledSamples runtime)).filter (·.name = name) =
      (labeled.entries.filter (·.1 = name)).flatMap (labeledSamples runtime) := by
    induction labeled.entries with
    | nil => rfl
    | cons entry rest ih =>
        rw [List.flatMap_cons, List.filter_append, ih]
        have own : ∀ sample ∈ labeledSamples runtime entry, sample.name = entry.1 := by
          intro sample member
          obtain ⟨_, _, rfl⟩ := List.mem_map.mp member
          rfl
        by_cases here : entry.1 = name
        · have whole : (labeledSamples runtime entry).filter (·.name = name) =
              labeledSamples runtime entry := by
            rw [List.filter_eq_self]
            intro sample member
            simp [own sample member, here]
          rw [whole, List.filter_cons_of_pos (by simpa using here), List.flatMap_cons]
        · have none : (labeledSamples runtime entry).filter (·.name = name) = [] := by
            rw [List.filter_eq_nil_iff]
            intro sample member
            simp [own sample member, here]
          rw [none, List.filter_cons_of_neg (by simpa using here), List.nil_append]
  rw [valuesOf, same, OrderedMap.filter_key]
  cases labeled.get? name with
  | none => rfl
  | some entries =>
      simp only [Option.map_some, Option.toList_some, List.flatMap_singleton, Option.getD_some,
        labeledSamples, List.map_map]
      exact (List.mergeSort_perm entries _).map Prod.snd

theorem values_gauge (gauges : Gauges) (gauge : Gauge) :
    valuesOf gauge.name (gauges.entries.map gaugeSample) = (gauges.get? gauge).toList := by
  have same : (gauges.entries.map gaugeSample).filter (·.name = gauge.name) =
      (gauges.entries.filter (·.1 = gauge)).map gaugeSample := by
    rw [List.filter_map]
    congr 1
    apply List.filter_congr
    intro entry _
    have injective : entry.1.name = gauge.name ↔ entry.1 = gauge := by
      constructor
      · intro same
        have same : Series.gauge entry.1 = .gauge gauge := Series.name_injective same
        cases same
        rfl
      · rintro rfl
        rfl
    simp [gaugeSample, injective]
  rw [valuesOf, same, OrderedMap.filter_key]
  cases gauges.get? gauge <;> rfl

theorem lifetime_names : ∀ sample ∈ metrics.lifetimeSamples,
    lifetimeName.isPrefixOf sample.name = true := by
  intro sample member
  have begins : ∃ rest, sample.name = lifetimeName ++ rest := by
    rcases List.mem_append.mp member with bucket | other
    · obtain ⟨index, inside, rfl⟩ := List.mem_iff_getElem.mp bucket
      rw [List.getElem_zipWith]
      exact ⟨_, rfl⟩
    · simp only [List.mem_cons, List.not_mem_nil, or_false] at other
      rcases other with rfl | rfl | rfl <;> exact ⟨_, rfl⟩
  obtain ⟨rest, begins⟩ := begins
  rw [begins, List.isPrefixOf_iff_prefix]
  exact List.prefix_append lifetimeName rest

theorem values_lifetime (named : Named name) : valuesOf name metrics.lifetimeSamples = [] := by
  apply valuesOf_nil
  rintro sample member rfl
  have alive := named.alive
  rw [lifetime_names sample member] at alive
  cases alive

theorem values_points (runtime : Runtime) (metrics : Metrics) (gauges : Gauges) (named : Named name) :
    valuesOf name (metrics.points runtime gauges) =
      (metrics.split.plain.get? name).toList ++
        valuesOf name (metrics.split.labeled.entries.flatMap (labeledSamples runtime)) ++
        valuesOf name (gauges.entries.map gaugeSample) := by
  rw [Metrics.points, valuesOf_append, valuesOf_append, valuesOf_append, values_plain,
    values_lifetime named, List.append_nil]

theorem named_keys (hosted : Hosted metrics) : ∀ entry ∈ metrics.counters.entries, HostKey entry.1 :=
  fun entry member => hosted.keys entry.1 (List.mem_map_of_mem member)

theorem unlabeled_nil (runtime : Runtime) (hosted : Hosted metrics) (series : Series)
    (other : ∀ labeled, series ≠ .labeled labeled) :
    valuesOf series.name (metrics.split.labeled.entries.flatMap (labeledSamples runtime)) = [] := by
  have listed := values_labeled runtime metrics.split.labeled series.name
  rw [Metrics.split, split_labeled, reasonsOf_other (named_keys hosted) other] at listed
  exact List.perm_nil.mp listed

theorem plain_none (hosted : Hosted metrics) (series : Series)
    (other : ∀ counter, series ≠ .counter counter) : metrics.split.plain.get? series.name = none := by
  rw [Option.eq_none_iff_forall_ne_some]
  intro value found
  obtain ⟨counter, same⟩ := (split_hosted hosted).plain series.name
    ((OrderedMap.mem_iff _ _).mpr ⟨value, found⟩)
  have same : series = .counter counter := Series.name_injective same
  exact other counter same

theorem ungauged_nil (gauges : Gauges) (series : Series) (other : ∀ gauge, series ≠ .gauge gauge) :
    valuesOf series.name (gauges.entries.map gaugeSample) = [] := by
  apply valuesOf_nil
  intro sample member same
  obtain ⟨entry, _, rfl⟩ := List.mem_map.mp member
  have same : Series.gauge entry.1 = series := Series.name_injective same
  exact other entry.1 same.symm

/-- What the counters and the gauges have for a series. -/
def Series.values (metrics : Metrics) (gauges : Gauges) : Series → List Rat
  | .counter plain => (metrics.counters.get? plain.name).toList
  | .labeled family => (reasonsOf family.name metrics.counters.entries).map Prod.snd
  | .gauge point => (gauges.get? point).toList

theorem values_series (runtime : Runtime) (gauges : Gauges) (hosted : Hosted metrics)
    (series : Series) :
    (valuesOf series.name (metrics.points runtime gauges)).Perm (series.values metrics gauges) := by
  rw [values_points runtime metrics gauges series.named]
  cases series with
  | counter plain =>
      rw [unlabeled_nil runtime hosted _ fun _ => Series.noConfusion,
        ungauged_nil gauges _ fun _ => Series.noConfusion, List.append_nil, List.append_nil]
      exact .of_eq (congrArg Option.toList (plain_value metrics plain))
  | labeled family =>
      rw [plain_none hosted _ fun _ => Series.noConfusion,
        ungauged_nil gauges _ fun _ => Series.noConfusion, List.append_nil]
      have listed := values_labeled runtime metrics.split.labeled family.name
      rw [Metrics.split, split_labeled] at listed
      exact listed
  | gauge point =>
      rw [plain_none hosted _ fun _ => Series.noConfusion,
        unlabeled_nil runtime hosted _ fun _ => Series.noConfusion]
      exact .of_eq (values_gauge gauges point)

end Values

section Clean
variable {runtime : Runtime} {metrics : Metrics} {gauges : Gauges}

def Output.Clean (runtime : Runtime) (output : Output) : Prop :=
  ∀ line ∈ output.lines, line.Clean runtime

theorem mem_of_lookup {Key Value : Type} [BEq Key] [LawfulBEq Key] {entries : List (Key × Value)} {key : Key}
    {value : Value} (found : entries.lookup key = some value) : (key, value) ∈ entries := by
  obtain ⟨before, after, rfl, _⟩ := List.lookup_eq_some_iff.mp found
  exact List.mem_append_right _ List.mem_cons_self

theorem literal_plain (text : Text) (plain : '\n' ∉ text) : '\n' ∉ (String.ofList text).toList := by
  rwa [String.toList_ofList]

set_option maxRecDepth 2000 in
theorem helps_plain : ∀ entry ∈ counterHelp ++ gaugeHelp, '\n' ∉ entry.2.toList := by
  simp only [counterHelp, gaugeHelp, List.forall_mem_append, List.forall_mem_cons]
  and_intros <;> first
    | exact literal_plain _ (by decide)
    | exact List.forall_mem_nil _

theorem help_clean {name : Text} {text : String} (found : helpOf name = some text) :
    '\n' ∉ text.toList := by
  have listed : (String.ofList name, text) ∈ counterHelp ++ gaugeHelp := by
    rw [helpOf, Option.or_eq_some_iff] at found
    rcases found with counted | ⟨_, gauged⟩
    · exact List.mem_append_left _ (mem_of_lookup counted)
    · exact List.mem_append_right _ (mem_of_lookup gauged)
  exact helps_plain _ listed

theorem clean_help {output : Output} {name : Text} (kind : String) (clean : output.Clean runtime)
    (plain : '\n' ∉ name) (plain' : '\n' ∉ kind.toList) : (output.help name kind).Clean runtime := by
  rw [Output.help]
  split
  · exact clean
  · intro line member
    simp only [List.mem_append, List.mem_singleton, Option.mem_toList, Option.map_eq_some_iff] at member
    rcases member with (old | ⟨text, found, rfl⟩) | rfl
    · exact clean line old
    · have plain'' := help_clean found
      simp [Line.Clean, plain, plain'']
    · simp [Line.Clean, plain, plain']

theorem clean_push {output : Output} {sample : Sample} (clean : output.Clean runtime)
    (fine : sample.Fine runtime) : (output.push sample).Clean runtime := by
  intro line member
  rcases List.mem_append.mp member with old | new
  · exact clean line old
  · rw [List.mem_singleton.mp new]
    exact fine

theorem Sample.Fine.newline {sample : Sample} (fine : sample.Fine runtime) : '\n' ∉ sample.name := by
  intro member
  have named := fine.name '\n' member
  exact absurd named (by decide)

theorem clean_singles {output : Output} {samples : List Sample} (kind : String)
    (clean : output.Clean runtime) (plain : '\n' ∉ kind.toList)
    (fine : ∀ sample ∈ samples, sample.Fine runtime) :
    (samples.foldl (Output.single kind) output).Clean runtime := by
  induction samples generalizing output with
  | nil => exact clean
  | cons sample rest ih =>
      obtain ⟨here, later⟩ := List.forall_mem_cons.mp fine
      exact ih (clean_push (clean_help kind clean here.newline plain) here) later

theorem clean_families {output : Output} {families : List (Text × List (Text × Rat))}
    (clean : output.Clean runtime) (fine : ∀ family ∈ families, '\n' ∉ family.1 ∧
      ∀ sample ∈ labeledSamples runtime family, sample.Fine runtime) :
    (families.foldl (Output.family runtime) output).Clean runtime := by
  have pushes : ∀ (samples : List Sample) output, Output.Clean runtime output →
      (∀ sample ∈ samples, sample.Fine runtime) →
      (samples.foldl Output.push output).Clean runtime := by
    intro samples
    induction samples with
    | nil => exact fun _ clean _ => clean
    | cons sample rest ih =>
        intro output clean fine
        obtain ⟨here, later⟩ := List.forall_mem_cons.mp fine
        exact ih _ (clean_push clean here) later
  induction families generalizing output with
  | nil => exact clean
  | cons family rest ih =>
      obtain ⟨⟨named, here⟩, later⟩ := List.forall_mem_cons.mp fine
      exact ih (pushes _ _ (clean_help "counter" clean named (by decide)) here) later

theorem fine_of_series {sample : Sample} (series : Series) (same : sample.name = series.name)
    (label : ∀ key value, sample.label = some (key, value) →
      ∀ char ∈ key ++ value, char ∉ ['{', '}', '"', '\n'])
    (exact_ : runtime.Exact sample.value) : sample.Fine runtime :=
  ⟨same ▸ series.named.some_, same ▸ series.named.plain, label, exact_⟩

theorem label_chars {labeled : Labeled} {reason : Text}
    (listed : reason ∈ labeled.reasons.map String.toList) :
    ∀ char ∈ "reason".toList ++ reason, char ∉ ['{', '}', '"', '\n'] := by
  have every : (labeled.reasons.map String.toList).all fun reason =>
      ("reason".toList ++ reason).all fun char => decide (char ∉ ['{', '}', '"', '\n']) := by
    cases labeled <;> decide
  exact forall_of_all (List.all_eq_true.mp every reason listed)

theorem fine_lifetime (exact_ : ∀ sample ∈ metrics.lifetimeSamples, runtime.Exact sample.value) :
    ∀ sample ∈ metrics.lifetimeSamples, sample.Fine runtime := by
  have suffix : ∀ rest ∈ ["_bucket", "_sum", "_count"], lifetimeName ++ rest.toList ≠ [] ∧
      (lifetimeName ++ rest.toList).all nameChar = true := by decide
  have bounds : ∀ text ∈ "+Inf" :: lifetimeBuckets.map Prod.snd, ("le".toList ++ text.toList).all
      (fun char => decide (char ∉ ['{', '}', '"', '\n'])) = true := by decide
  have named : ∀ rest ∈ ["_bucket", "_sum", "_count"], ∀ char ∈ lifetimeName ++ rest.toList,
      nameChar char = true := fun rest member => List.all_eq_true.mp (suffix rest member).2
  intro sample member
  have exact_ := exact_ sample member
  rcases List.mem_append.mp member with bucket | other
  · obtain ⟨index, inside, rfl⟩ := List.mem_iff_getElem.mp bucket
    rw [List.getElem_zipWith] at exact_ ⊢
    refine ⟨(suffix "_bucket" (by decide)).1, named "_bucket" (by decide), ?_, exact_⟩
    rintro key value ⟨⟩
    exact forall_of_all (bounds _ (List.mem_cons_of_mem _ (List.mem_map_of_mem (List.getElem_mem _))))
  · simp only [List.mem_cons, List.not_mem_nil, or_false] at other
    rcases other with rfl | rfl | rfl
    · refine ⟨(suffix "_bucket" (by decide)).1, named "_bucket" (by decide), ?_, exact_⟩
      rintro key value ⟨⟩
      exact forall_of_all (bounds "+Inf" List.mem_cons_self)
    · exact ⟨(suffix "_sum" (by decide)).1, named "_sum" (by decide),
        fun _ _ label => (nomatch label), exact_⟩
    · exact ⟨(suffix "_count" (by decide)).1, named "_count" (by decide),
        fun _ _ label => (nomatch label), exact_⟩

theorem fine_family (hosted : Hosted metrics) {family : Text × List (Text × Rat)}
    (member : family ∈ metrics.split.labeled.entries)
    (exact_ : ∀ sample ∈ labeledSamples runtime family, runtime.Exact sample.value) :
    '\n' ∉ family.1 ∧ ∀ sample ∈ labeledSamples runtime family, sample.Fine runtime := by
  obtain ⟨labeled, same⟩ := (split_hosted hosted).labeled family.1 (List.mem_map_of_mem member)
  have entries : family.2 = reasonsOf labeled.name metrics.counters.entries := by
    have found := (OrderedMap.entry_iff _ _ _).mpr member
    have listed := split_labeled labeled.name metrics.counters.entries
    rw [← same, ← Metrics.split, found] at listed
    rw [← same]
    exact listed
  constructor
  · rw [same]
    exact (Series.labeled labeled).named.apart (by decide)
  · intro sample inside
    obtain ⟨entry, sorted, rfl⟩ := List.mem_map.mp inside
    have listed : entry ∈ family.2 := (List.mergeSort_perm _ _).mem_iff.mp sorted
    rw [entries] at listed
    have reason := mem_reasonsOf (named_keys hosted) listed
    refine fine_of_series (.labeled labeled) same ?_ (exact_ _ inside)
    rintro key value ⟨⟩
    exact label_chars reason

theorem fine_plain (hosted : Hosted metrics)
    (exact_ : ∀ sample ∈ metrics.split.plain.entries.map plainSample, runtime.Exact sample.value) :
    ∀ sample ∈ metrics.split.plain.entries.map plainSample, sample.Fine runtime := by
  intro sample inside
  have exact_ := exact_ sample inside
  obtain ⟨entry, member, rfl⟩ := List.mem_map.mp inside
  obtain ⟨counter, same⟩ := (split_hosted hosted).plain entry.1 (List.mem_map_of_mem member)
  exact fine_of_series (.counter counter) same (fun _ _ label => nomatch label) exact_

theorem fine_gauge (exact_ : ∀ sample ∈ gauges.entries.map gaugeSample, runtime.Exact sample.value) :
    ∀ sample ∈ gauges.entries.map gaugeSample, sample.Fine runtime := by
  intro sample inside
  have exact_ := exact_ sample inside
  obtain ⟨entry, member, rfl⟩ := List.mem_map.mp inside
  exact fine_of_series (.gauge entry.1) rfl (fun _ _ label => nomatch label) exact_

theorem lines_clean (hosted : Hosted metrics)
    (exact_ : ∀ sample ∈ metrics.points runtime gauges, runtime.Exact sample.value) :
    ∀ line ∈ metrics.lines runtime gauges, line.Clean runtime := by
  simp only [Metrics.points, List.forall_mem_append] at exact_
  obtain ⟨⟨⟨plain, labeled⟩, gauged⟩, lifetimes⟩ := exact_
  have empty : Output.Clean runtime ⟨[], []⟩ := fun line member => absurd member List.not_mem_nil
  have counters := clean_singles "counter" empty (by decide) (fine_plain hosted plain)
  have families := clean_families counters fun family member => fine_family hosted member
    fun sample inside => labeled sample (List.mem_flatMap.mpr ⟨family, member, inside⟩)
  have gauges := clean_singles "gauge" families (by decide) (fine_gauge gauged)
  intro line member
  rcases List.mem_append.mp member with before | lifetime
  · rcases List.mem_append.mp before with before | heads
    · exact gauges line before
    · simp only [List.mem_cons, List.not_mem_nil, or_false] at heads
      rcases heads with rfl | rfl
      · exact (by decide : '\n' ∉ lifetimeName ++ "How long WebSocket connections lived.".toList)
      · exact (by decide : '\n' ∉ lifetimeName ++ "histogram".toList)
  · obtain ⟨sample, inside, rfl⟩ := List.mem_map.mp lifetime
    exact fine_lifetime lifetimes sample inside

end Clean

end Relay.Exposition
