import CompanionRelay.ExpositionSeries

/-!
What the pushed snapshot, the pulled text and the charted text say of a relay: both readers make of
the samples of a series what the snapshot says of it, and of the lifetimes a cumulative histogram.
-/

namespace Relay.Exposition

section Readers
variable {runtime : Runtime} {metrics : Metrics} {gauges : Gauges} {name : Text}

theorem pulled_fold (points : List (Text × Rat)) (out : OrderedMap Text Rat) (name : Text) :
    ((points.foldl addPoint out).get? name).getD 0 =
      (out.get? name).getD 0 + ((points.filter (·.1 = name)).map Prod.snd).sum := by
  induction points generalizing out with
  | nil => simp
  | cons point rest ih =>
      rw [List.foldl_cons, ih, addPoint, OrderedMap.get?_set_if]
      by_cases here : name = point.1
      · subst here
        rw [if_pos rfl, List.filter_cons_of_pos (by simp), List.map_cons, List.sum_cons,
          Option.getD_some, add_assoc]
      · rw [if_neg here, List.filter_cons_of_neg (by simpa using Ne.symm here)]

theorem pulled_mem (points : List (Text × Rat)) (out : OrderedMap Text Rat) (name : Text) :
    name ∈ points.foldl addPoint out ↔ name ∈ out ∨ name ∈ points.map Prod.fst := by
  induction points generalizing out with
  | nil => simp
  | cons point rest ih =>
      rw [List.foldl_cons, ih, addPoint, OrderedMap.mem_set, List.map_cons, List.mem_cons]
      tauto

/-- What a sample makes of a field. -/
def changes (field : Field) (sample : Sample) : Option (Rat → Rat) :=
  (effect ⟨"relay_".toList ++ sample.name, sample.labels, some sample.value⟩ sample.value).bind
    fun target => if target.1 = field then some target.2 else none

theorem charted_at (out : Field → Rat) (sample : Sample) (field : Field) :
    charted out sample field =
      ((changes field sample).map fun change => change (out field)).getD (out field) := by
  rw [charted, changes]
  cases effect ⟨"relay_".toList ++ sample.name, sample.labels, some sample.value⟩ sample.value with
  | none => rfl
  | some target =>
      obtain ⟨other, change⟩ := target
      simp only [Option.bind_some]
      by_cases here : other = field
      · subst here
        simp
      · simp [here, Function.update_of_ne (Ne.symm here)]

theorem charted_fold (samples : List Sample) (out : Field → Rat) (field : Field) :
    samples.foldl charted out field =
      (samples.filterMap (changes field)).foldl (fun value change => change value) (out field) := by
  induction samples generalizing out with
  | nil => rfl
  | cons sample rest ih =>
      rw [List.foldl_cons, ih, charted_at]
      cases change : changes field sample with
      | none => rw [List.filterMap_cons_none change, Option.map_none, Option.getD_none]
      | some change' =>
          rw [List.filterMap_cons_some change, List.foldl_cons, Option.map_some, Option.getD_some]

end Readers

section Fields
variable {sample : Sample} {key : String} {field : Field}

theorem plainFields_keys : (plainFields.map Prod.fst).Nodup := by decide

theorem plainFields_fields : (plainFields.map Prod.snd).Nodup := by decide

theorem plainFields_flat (listed : (key, field) ∈ plainFields) :
    field ≠ .wsRejected ∧ ∀ bound, field ≠ .lifeLe bound := by
  have every : plainFields.all (fun entry => match entry.2 with
      | .wsRejected | .lifeLe _ => false
      | _ => true) = true := by decide
  have flat := List.all_eq_true.mp every _ listed
  constructor
  · rintro rfl
    cases flat
  · rintro bound rfl
    cases flat

theorem effect_cases {parsed : Parsed} {value : Rat} {change : Rat → Rat}
    (found : effect parsed value = some (field, change)) :
    ((String.ofList parsed.name, field) ∈ plainFields ∧ change = fun _ => value) ∨
      (parsed.name = "relay_ws_upgrades_rejected_total".toList ∧ field = .wsRejected ∧
        change = fun total => total + value) ∨
      ∃ bound, parsed.name = "relay_socket_lifetime_seconds_bucket".toList ∧
        field = .lifeLe bound ∧
        (label "le".toList parsed.labels).bind (lifeBuckets.lookup ·) = some bound ∧
        change = fun _ => value := by
  rw [effect] at found
  cases known : plainFields.lookup (String.ofList parsed.name) with
  | some other =>
      rw [known] at found
      cases found
      exact .inl ⟨mem_of_lookup known, rfl⟩
  | none =>
      rw [known] at found
      refine .inr ?_
      generalize "relay_ws_upgrades_rejected_total".toList = rejected at found ⊢
      generalize "relay_socket_lifetime_seconds_bucket".toList = bucket at found ⊢
      by_cases here : parsed.name = rejected
      · simp only [if_pos here] at found
        cases found
        exact .inl ⟨here, rfl, rfl⟩
      · simp only [if_neg here, Option.ite_none_right_eq_some, Option.map_eq_some_iff] at found
        obtain ⟨there, bound, labeled, same⟩ := found
        cases same
        exact .inr ⟨bound, there, rfl, labeled, rfl⟩

theorem effect_plain {parsed : Parsed} (listed : (String.ofList parsed.name, field) ∈ plainFields)
    (value : Rat) :
    effect parsed value = some (field, fun _ => value) := by
  rw [effect]
  cases known : plainFields.lookup (String.ofList parsed.name) with
  | some other =>
      have same := List.inj_on_of_nodup_map plainFields_keys (mem_of_lookup known) listed rfl
      cases same
      rfl
  | none =>
      have missing := List.lookup_eq_none_iff.mp known _ listed
      rw [bne_self_eq_false] at missing
      cases missing

theorem changes_eq {change : Rat → Rat} : changes field sample = some change ↔
    effect ⟨"relay_".toList ++ sample.name, sample.labels, some sample.value⟩ sample.value =
      some (field, change) := by
  rw [changes, Option.bind_eq_some_iff]
  constructor
  · rintro ⟨⟨other, change'⟩, found, here⟩
    by_cases same : other = field
    · rw [if_pos same, Option.some.injEq] at here
      rw [found, ← same, ← here]
    · rw [if_neg same] at here
      cases here
  · intro found
    exact ⟨_, found, if_pos rfl⟩

theorem changes_flat (listed : (key, field) ∈ plainFields) (sample : Sample) :
    changes field sample =
      if String.ofList ("relay_".toList ++ sample.name) = key
        then some fun _ => sample.value else none := by
  by_cases here : String.ofList ("relay_".toList ++ sample.name) = key
  · rw [if_pos here, changes_eq]
    subst here
    exact effect_plain listed sample.value
  · rw [if_neg here, Option.eq_none_iff_forall_ne_some]
    intro change found
    obtain ⟨rejected, bucket⟩ := plainFields_flat listed
    rcases effect_cases (changes_eq.mp found) with ⟨member, _⟩ | ⟨_, other, _⟩ | ⟨bound, _, other, _⟩
    · have same := List.inj_on_of_nodup_map plainFields_fields member listed rfl
      exact here (congrArg Prod.fst same)
    · exact rejected other
    · exact bucket bound other

theorem changes_rejected (sample : Sample) :
    changes .wsRejected sample =
      if "relay_".toList ++ sample.name = "relay_ws_upgrades_rejected_total".toList
        then some fun total => total + sample.value else none := by
  by_cases here : "relay_".toList ++ sample.name = "relay_ws_upgrades_rejected_total".toList
  · have unlisted : plainFields.lookup (String.ofList "relay_ws_upgrades_rejected_total".toList) = none := by
      decide
    rw [if_pos here, changes_eq, effect, here, unlisted]
    exact if_pos rfl
  · rw [if_neg here, Option.eq_none_iff_forall_ne_some]
    intro change found
    rcases effect_cases (changes_eq.mp found) with ⟨member, _⟩ | ⟨same, _⟩ | ⟨_, _, other, _⟩
    · exact (plainFields_flat member).1 rfl
    · exact here same
    · cases other

theorem changes_bucket (bound : Nat) (sample : Sample) :
    changes (.lifeLe bound) sample =
      if "relay_".toList ++ sample.name = "relay_socket_lifetime_seconds_bucket".toList ∧
          (label "le".toList sample.labels).bind (lifeBuckets.lookup ·) = some bound
        then some fun _ => sample.value else none := by
  split
  · rename_i here
    have unlisted : plainFields.lookup (String.ofList "relay_socket_lifetime_seconds_bucket".toList) = none := by
      decide
    have apart : "relay_socket_lifetime_seconds_bucket".toList ≠
        "relay_ws_upgrades_rejected_total".toList := by decide
    rw [changes_eq, effect, here.1, unlisted]
    refine (if_neg apart).trans ((if_pos rfl).trans ?_)
    rw [here.2, Option.map_some]
  · rename_i other
    rw [Option.eq_none_iff_forall_ne_some]
    intro change found
    rcases effect_cases (changes_eq.mp found) with ⟨member, _⟩ | ⟨_, same, _⟩ | ⟨_, here, same, labeled, _⟩
    · exact (plainFields_flat member).2 bound rfl
    · cases same
    · cases same
      exact other ⟨here, labeled⟩

end Fields

section Shared

/-- The series that a key of the snapshot is about. -/
def Quantity.series : Quantity → Series
  | .wsUpgradesTotal => .counter .wsUpgradesTotal
  | .wsUpgradesRejectedTotal => .labeled .wsUpgradesRejectedTotal
  | .httpRequestsTotal => .counter .httpRequestsTotal
  | .httpErrorsTotal => .counter .httpErrorsTotal
  | .processExceptionsTotal => .counter .processExceptionsTotal
  | .quotaExceededTotal => .counter .quotaExceededTotal
  | .roomsLive => .gauge .roomsLive
  | .socketsLive => .gauge .socketsLive
  | .shardRejectTotal => .counter .shardRejectTotal
  | .shardMapReloadsTotal => .counter .shardMapReloadsTotal
  | .shardMapFetchErrorsTotal => .counter .shardMapFetchErrorsTotal
  | .shardMapVersion => .gauge .shardMapVersion
  | .shardOwnedBuckets => .gauge .shardOwnedBuckets
  | .shardDrainingBuckets => .gauge .shardDrainingBuckets

def Quantity.name (quantity : Quantity) : Text := quantity.series.name

/-- The field of a scrape that is the same quantity. -/
def Quantity.field : Quantity → Field
  | .wsUpgradesTotal => .wsUpgrades
  | .wsUpgradesRejectedTotal => .wsRejected
  | .httpRequestsTotal => .httpRequests
  | .httpErrorsTotal => .httpErrors
  | .processExceptionsTotal => .exceptions
  | .quotaExceededTotal => .quotaExceeded
  | .roomsLive => .roomsLive
  | .socketsLive => .socketsLive
  | .shardRejectTotal => .shardReject
  | .shardMapReloadsTotal => .shardMapReloads
  | .shardMapFetchErrorsTotal => .shardMapFetchErrors
  | .shardMapVersion => .shardMapVersion
  | .shardOwnedBuckets => .shardOwnedBuckets
  | .shardDrainingBuckets => .shardDrainingBuckets

variable {metrics : Metrics} {gauges : Gauges} {quantity : Quantity}

-- A quantity without reasons has one value or none, and the snapshot's is what the page starts
-- from where it has none.
theorem snapshot_single (metrics : Metrics) (gauges : Gauges)
    (single : quantity ≠ .wsUpgradesRejectedTotal) :
    ∃ value : Option Rat, quantity.series.values metrics gauges = value.toList ∧
      metrics.snapshot gauges quantity = value.getD (unset quantity.field) := by
  cases quantity with
  | wsUpgradesRejectedTotal => exact absurd rfl single
  | _ => exact ⟨_, rfl, rfl⟩

theorem snapshot_rejected : metrics.snapshot gauges .wsUpgradesRejectedTotal =
    ((Quantity.series .wsUpgradesRejectedTotal).values metrics gauges).sum := by
  exact congrArg List.sum (reasonsOf_values .wsUpgradesRejectedTotal metrics.counters.entries).symm

theorem quantity_listed (single : quantity ≠ .wsUpgradesRejectedTotal) :
    (String.ofList ("relay_".toList ++ quantity.name), quantity.field) ∈ plainFields := by
  have every : ∀ quantity ∈ ([.wsUpgradesTotal, .httpRequestsTotal, .httpErrorsTotal,
      .processExceptionsTotal, .quotaExceededTotal, .roomsLive, .socketsLive, .shardRejectTotal,
      .shardMapReloadsTotal, .shardMapFetchErrorsTotal, .shardMapVersion, .shardOwnedBuckets,
      .shardDrainingBuckets] : List Quantity),
      (String.ofList ("relay_".toList ++ quantity.name), quantity.field) ∈ plainFields := by decide
  apply every
  cases quantity with
  | wsUpgradesRejectedTotal => exact absurd rfl single
  | _ => decide

end Shared

section Pulled
variable {runtime : Runtime} {metrics : Metrics} {gauges : Gauges} {name : Text}
  {samples : List Sample}

theorem pulled_values (named : Named name) (samples : List Sample) :
    ((samples.filterMap pulled).filter (·.1 = name)).map Prod.snd = valuesOf name samples := by
  have only : ∀ sample : Sample, ((pulled sample).toList.filter (·.1 = name)).map Prod.snd =
      valuesOf name [sample] := by
    intro sample
    by_cases here : sample.name = name
    · have alive : pulled sample = some (sample.name, sample.value) := by
        rw [pulled, here, named.alive]
        rfl
      simp [alive, valuesOf, here]
    · rw [valuesOf_nil fun other member => List.mem_singleton.mp member ▸ here, pulled]
      split
      · rfl
      · simp [here]
  induction samples with
  | nil => rfl
  | cons sample rest ih =>
      have head : [sample].filterMap pulled = (pulled sample).toList := by
        cases found : pulled sample <;> simp [found]
      rw [← List.singleton_append, valuesOf_append, ← ih, ← only sample, List.filterMap_append,
        List.filter_append, List.map_append, head]

/-- What the monitor has of a text of some samples. -/
def pull (samples : List Sample) : OrderedMap Text Rat :=
  (samples.filterMap pulled).foldl addPoint .empty

theorem pull_mem (named : Named name) (samples : List Sample) :
    name ∈ pull samples ↔ valuesOf name samples ≠ [] := by
  rw [pull, pulled_mem, ← pulled_values named samples, Ne, List.map_eq_nil_iff,
    List.filter_eq_nil_iff]
  have empty : name ∉ (OrderedMap.empty : OrderedMap Text Rat) := List.not_mem_nil
  simp [empty]

theorem pull_sum (named : Named name) (samples : List Sample) :
    ((pull samples).get? name).getD 0 = (valuesOf name samples).sum := by
  rw [pull, pulled_fold, pulled_values named samples]
  exact zero_add _

theorem pull_single (named : Named name) {value : Option Rat}
    (single : valuesOf name samples = value.toList) : (pull samples).get? name = value := by
  have present := pull_mem named samples
  have summed := pull_sum named samples
  rw [OrderedMap.mem_iff] at present
  rw [single] at present summed
  cases value with
  | none =>
      rw [Option.eq_none_iff_forall_ne_some]
      intro stored found
      exact present.mp ⟨stored, found⟩ rfl
  | some number =>
      obtain ⟨stored, found⟩ := present.mpr (List.cons_ne_nil _ _)
      rw [found] at summed ⊢
      simpa using summed

end Pulled

section Charted
variable {samples : List Sample} {name : Text} {field : Field}

/-- What the page has of a text of some samples. -/
def chart (samples : List Sample) : Field → Rat := samples.foldl charted unset

theorem filterMap_named (form : Rat → Rat → Rat) (name : Text) (samples : List Sample) :
    samples.filterMap (fun sample => if sample.name = name then some (form sample.value) else none) =
      (valuesOf name samples).map form := by
  induction samples with
  | nil => rfl
  | cons sample rest ih =>
      rw [← List.singleton_append, valuesOf_append, List.filterMap_append, ih, List.map_append]
      by_cases here : sample.name = name
      · simp [valuesOf, here]
      · simp [valuesOf, here]

theorem chart_single (listed : (String.ofList ("relay_".toList ++ name), field) ∈ plainFields) {value : Option Rat}
    (single : valuesOf name samples = value.toList) :
    chart samples field = value.getD (unset field) := by
  have set : changes field = fun sample =>
      if sample.name = name then some fun _ => sample.value else none := by
    funext sample
    have named : String.ofList ("relay_".toList ++ sample.name) =
        String.ofList ("relay_".toList ++ name) ↔ sample.name = name := by
      rw [String.ofList_inj, List.append_right_inj]
    simp only [changes_flat listed sample, named]
  rw [chart, charted_fold, set, filterMap_named fun value _ => value, single]
  cases value <;> rfl

theorem rejected_name : "relay_ws_upgrades_rejected_total".toList =
    "relay_".toList ++ Labeled.wsUpgradesRejectedTotal.name := by decide

theorem chart_rejected (samples : List Sample) :
    chart samples .wsRejected = (valuesOf Labeled.wsUpgradesRejectedTotal.name samples).sum := by
  have added : changes .wsRejected = fun sample =>
      if sample.name = Labeled.wsUpgradesRejectedTotal.name
        then some fun total => total + sample.value else none := by
    funext sample
    rw [changes_rejected, rejected_name]
    simp only [List.append_right_inj]
  have summed : ∀ (values : List Rat) total,
      (values.map fun value total => total + value).foldl (fun total change => change total) total =
        total + values.sum := by
    intro values
    induction values with
    | nil => exact fun total => (add_zero total).symm
    | cons value rest ih =>
        intro total
        rw [List.map_cons, List.foldl_cons, ih, List.sum_cons, add_assoc]
  rw [chart, charted_fold, added, filterMap_named fun value total => total + value, summed]
  exact zero_add _

end Charted

section Lifetimes
variable {runtime : Runtime} {metrics : Metrics} {gauges : Gauges} {observed : List Rat}

def bucketName : Text := lifetimeName ++ "_bucket".toList

def countName : Text := lifetimeName ++ "_count".toList

theorem series_samples (runtime : Runtime) (gauges : Gauges) (hosted : Hosted metrics) :
    ∀ sample ∈ metrics.split.plain.entries.map plainSample ++
      metrics.split.labeled.entries.flatMap (labeledSamples runtime) ++
      gauges.entries.map gaugeSample, ∃ series : Series, sample.name = series.name := by
  intro sample member
  simp only [List.mem_append, List.mem_map, List.mem_flatMap] at member
  rcases member with (⟨entry, inside, rfl⟩ | ⟨family, inside, member⟩) | ⟨entry, _, rfl⟩
  · obtain ⟨counter, same⟩ := (split_hosted hosted).plain entry.1 (List.mem_map_of_mem inside)
    exact ⟨.counter counter, same⟩
  · obtain ⟨labeled, same⟩ := (split_hosted hosted).labeled family.1 (List.mem_map_of_mem inside)
    obtain ⟨_, _, rfl⟩ := List.mem_map.mp member
    exact ⟨.labeled labeled, same⟩
  · exact ⟨.gauge entry.1, rfl⟩

theorem series_apart (series : Series) (rest : Text) : series.name ≠ lifetimeName ++ rest := by
  intro same
  have begins : lifetimeName.isPrefixOf series.name = true := by
    rw [same, List.isPrefixOf_iff_prefix]
    exact List.prefix_append lifetimeName rest
  rw [series.named.alive] at begins
  cases begins

theorem bucket_name : "relay_socket_lifetime_seconds_bucket".toList =
    "relay_".toList ++ bucketName := by decide

theorem changes_labeled (bound : Nat) {text : Text} (plain : '"' ∉ text) (value : Rat) :
    changes (.lifeLe bound) ⟨bucketName, some ("le".toList, text), value⟩ =
      if lifeBuckets.lookup text = some bound then some fun _ => value else none := by
  have le : "le".toList = 'l' :: "e".toList := by decide
  have quoted : label "le".toList ("le".toList ++ "=\"".toList ++ text ++ ['"']) = some text := by
    rw [le]
    exact label_quoted plain
  rw [changes_bucket, bucket_name, Sample.labels]
  simp only [quoted, Option.bind_some, true_and]

theorem changes_other (bound : Nat) {sample : Sample} (other : sample.name ≠ bucketName) :
    changes (.lifeLe bound) sample = none := by
  rw [changes_bucket, bucket_name, if_neg]
  intro here
  exact other (List.append_cancel_left here.1)

/-- How many of the observed lifetimes are within a bound. -/
def within (observed : List Rat) (bound : Nat) : Nat :=
  observed.countP fun seconds => decide (seconds ≤ (bound : Rat))

theorem within_mono (observed : List Rat) {first second : Nat} (ordered : first ≤ second) :
    within observed first ≤ within observed second := by
  apply List.countP_mono_left
  intro seconds _ below
  have cast : (first : Rat) ≤ second := Nat.cast_le.mpr ordered
  rw [decide_eq_true_eq] at below ⊢
  exact below.trans cast

theorem bucket_samples (counts : metrics.bucketCounts =
      lifetimeBuckets.map fun bucket => within observed bucket.1) :
    metrics.lifetimeSamples =
      (lifetimeBuckets.map fun bucket =>
        ⟨bucketName, some ("le".toList, bucket.2.toList), within observed bucket.1⟩) ++
      [⟨bucketName, some ("le".toList, "+Inf".toList), metrics.lifetimeInf⟩,
        ⟨lifetimeName ++ "_sum".toList, none, metrics.lifetimeSum⟩,
        ⟨countName, none, metrics.lifetimeInf⟩] := by
  rw [Metrics.lifetimeSamples, counts, List.zipWith_map_right, List.zipWith_self]
  rfl

theorem count_values (counts : metrics.bucketCounts =
      lifetimeBuckets.map fun bucket => within observed bucket.1) :
    valuesOf countName metrics.lifetimeSamples = [(metrics.lifetimeInf : Rat)] := by
  have apart : bucketName ≠ countName ∧ lifetimeName ++ "_sum".toList ≠ countName := by
    decide
  rw [bucket_samples counts, valuesOf_append, valuesOf_nil, List.nil_append, valuesOf,
    List.filter_cons_of_neg (by simpa using apart.1),
    List.filter_cons_of_neg (by simpa using apart.2), List.filter_cons_of_pos (by simp)]
  · rfl
  · intro sample member
    obtain ⟨_, _, rfl⟩ := List.mem_map.mp member
    exact apart.1

-- A bucket is changed by its own sample alone, to what it has counted.
theorem bucket_changes (counts : metrics.bucketCounts =
      lifetimeBuckets.map fun bucket => within observed bucket.1) {bound : Nat}
    (listed : bound ∈ lifetimeBuckets.map Prod.fst) :
    metrics.lifetimeSamples.filterMap (changes (.lifeLe bound)) =
      [fun _ => (within observed bound : Rat)] := by
  have texts : ∀ bucket ∈ lifetimeBuckets, '"' ∉ bucket.2.toList ∧
      lifeBuckets.lookup bucket.2.toList = some bucket.1 := by decide
  have infinite : '"' ∉ "+Inf".toList ∧ lifeBuckets.lookup "+Inf".toList = none := by
    decide
  have apart : lifetimeName ++ "_sum".toList ≠ bucketName ∧ countName ≠ bucketName := by
    decide
  have own : ∀ bound ∈ lifetimeBuckets.map Prod.fst,
      (lifetimeBuckets.filter (·.1 = bound)).map Prod.fst = [bound] := by decide
  have others : [(⟨bucketName, some ("le".toList, "+Inf".toList), metrics.lifetimeInf⟩ : Sample),
      ⟨lifetimeName ++ "_sum".toList, none, metrics.lifetimeSum⟩,
      ⟨countName, none, metrics.lifetimeInf⟩].filterMap (changes (.lifeLe bound)) = [] := by
    rw [List.filterMap_cons_none, List.filterMap_cons_none (changes_other bound apart.1),
      List.filterMap_cons_none (changes_other bound apart.2), List.filterMap_nil]
    rw [changes_labeled bound infinite.1, infinite.2]
    exact if_neg nofun
  have each : ∀ buckets ⊆ lifetimeBuckets,
      (buckets.map fun bucket => (⟨bucketName, some ("le".toList, bucket.2.toList),
        within observed bucket.1⟩ : Sample)).filterMap (changes (.lifeLe bound)) =
      ((buckets.filter (·.1 = bound)).map Prod.fst).map fun bound _ => (within observed bound : Rat) := by
    intro buckets inside
    induction buckets with
    | nil => rfl
    | cons bucket rest ih =>
        obtain ⟨here, later⟩ := List.cons_subset.mp inside
        have text := texts bucket here
        have change := changes_labeled bound text.1 (within observed bucket.1)
        rw [text.2] at change
        rw [List.map_cons]
        by_cases same : bucket.1 = bound
        · rw [if_pos (congrArg some same)] at change
          rw [List.filterMap_cons_some change, ih later, List.filter_cons_of_pos (by simpa using same)]
          rfl
        · rw [if_neg (fun equal => same (Option.some.inj equal))] at change
          rw [List.filterMap_cons_none change, ih later, List.filter_cons_of_neg (by simpa using same)]
  rw [bucket_samples counts, List.filterMap_append, others, List.append_nil,
    each _ (List.Subset.refl _), own bound listed]
  rfl

theorem chart_bucket (runtime : Runtime) (gauges : Gauges) (hosted : Hosted metrics)
    (counts : metrics.bucketCounts = lifetimeBuckets.map fun bucket => within observed bucket.1)
    {bound : Nat} (listed : bound ∈ lifetimeBuckets.map Prod.fst) :
    chart (metrics.points runtime gauges) (.lifeLe bound) = within observed bound := by
  have none : (metrics.split.plain.entries.map plainSample ++
      metrics.split.labeled.entries.flatMap (labeledSamples runtime) ++
      gauges.entries.map gaugeSample).filterMap (changes (.lifeLe bound)) = [] := by
    rw [List.filterMap_eq_nil_iff]
    intro sample member
    obtain ⟨series, same⟩ := series_samples runtime gauges hosted sample member
    exact changes_other bound (same ▸ series_apart series "_bucket".toList)
  rw [chart, charted_fold, Metrics.points, List.filterMap_append, none, bucket_changes counts listed]
  rfl

theorem chart_count (runtime : Runtime) (gauges : Gauges) (hosted : Hosted metrics)
    (counts : metrics.bucketCounts = lifetimeBuckets.map fun bucket => within observed bucket.1) :
    chart (metrics.points runtime gauges) .lifeCount = metrics.lifetimeInf := by
  have listed : (String.ofList ("relay_".toList ++ countName), Field.lifeCount) ∈ plainFields := by decide
  have single : valuesOf countName (metrics.points runtime gauges) =
      (some (metrics.lifetimeInf : Rat)).toList := by
    rw [Metrics.points, valuesOf_append, count_values counts, valuesOf_nil]
    · rfl
    · intro sample member
      obtain ⟨series, same⟩ := series_samples runtime gauges hosted sample member
      exact same ▸ series_apart series "_count".toList
  exact chart_single listed single

end Lifetimes

section Whole
variable {runtime : Runtime} {metrics : Metrics} {gauges : Gauges} {quantity : Quantity}

/-- What a series that a text does not have is read as. -/
def Quantity.absent : Quantity → Rat
  | .shardMapVersion => -1
  | _ => 0

theorem unset_field (quantity : Quantity) : unset quantity.field = quantity.absent := by
  cases quantity <;> rfl

theorem single_values (runtime : Runtime) (hosted : Hosted metrics) {series : Series}
    {value : Option Rat} (single : series.values metrics gauges = value.toList) :
    valuesOf series.name (metrics.points runtime gauges) = value.toList := by
  have listed := values_series runtime gauges hosted series
  rw [single] at listed
  cases value with
  | none => exact List.perm_nil.mp listed
  | some number => exact List.perm_singleton.mp listed

theorem pull_quantity (runtime : Runtime) (gauges : Gauges) (hosted : Hosted metrics)
    (quantity : Quantity) :
    ((pull (metrics.points runtime gauges)).get? quantity.name).getD quantity.absent =
      metrics.snapshot gauges quantity := by
  by_cases labeled : quantity = .wsUpgradesRejectedTotal
  · subst labeled
    rw [snapshot_rejected, ← (values_series runtime gauges hosted _).sum_eq]
    exact pull_sum (Series.named _) _
  · obtain ⟨value, single, same⟩ := snapshot_single metrics gauges labeled
    rw [same, unset_field, Quantity.name,
      pull_single quantity.series.named (single_values runtime hosted single)]

theorem chart_quantity (runtime : Runtime) (gauges : Gauges) (hosted : Hosted metrics)
    (quantity : Quantity) :
    chart (metrics.points runtime gauges) quantity.field = metrics.snapshot gauges quantity := by
  by_cases labeled : quantity = .wsUpgradesRejectedTotal
  · subst labeled
    rw [snapshot_rejected, ← (values_series runtime gauges hosted _).sum_eq]
    exact chart_rejected _
  · obtain ⟨value, single, same⟩ := snapshot_single metrics gauges labeled
    rw [same, chart_single (quantity_listed labeled) (single_values runtime hosted single)]

theorem lines_some : metrics.lines runtime gauges ≠ [] := by
  rw [Metrics.lines]
  simp

-- Both readers go through the samples of the text.
theorem parse_render (clean : ∀ line ∈ metrics.lines runtime gauges, line.Clean runtime) :
    parseRelayMetrics runtime (metrics.render runtime gauges) =
        (if (pull (metrics.points runtime gauges)).entries = [] then none
          else some (pull (metrics.points runtime gauges))) ∧
      parseMetrics runtime (metrics.render runtime gauges) =
        chart (metrics.points runtime gauges) := by
  have split := splitOn_lines lines_some clean
  have blank := blank_unread runtime
  constructor
  · have read : ((metrics.render runtime gauges).splitOn '\n').filterMap (relayPoint runtime) =
        (metrics.points runtime gauges).filterMap pulled := by
      rw [Metrics.render, split, List.filterMap_append, pulled_lines clean, points_lines,
        List.filterMap_cons_none blank.1, List.filterMap_nil, List.append_nil]
    simp only [parseRelayMetrics, read]
    rfl
  · rw [parseMetrics, Metrics.render, split, List.foldl_append, charted_lines clean, points_lines,
      List.foldl_cons, List.foldl_nil, addLine, blank.2]
    rfl

theorem present_values (hosted : Hosted metrics)
    (present : metrics.counters.entries ≠ [] ∨ gauges.entries ≠ []) :
    ∃ series : Series, series.values metrics gauges ≠ [] := by
  rcases present with counted | gauged
  · obtain ⟨entry, member⟩ := List.exists_mem_of_ne_nil _ counted
    rcases (named_keys hosted entry member).split with
      ⟨counter, same, _⟩ | ⟨labeled, reason, _, _, whole⟩
    · refine ⟨.counter counter, ?_⟩
      have found := (OrderedMap.entry_iff _ _ _).mpr member
      rw [same] at found
      simp [Series.values, found]
    · refine ⟨.labeled labeled, ?_⟩
      have listed : (reason, entry.2) ∈ reasonsOf labeled.name metrics.counters.entries :=
        List.mem_filterMap.mpr ⟨entry, member, by simp [whole]⟩
      exact List.ne_nil_of_mem (List.mem_map_of_mem listed)
  · obtain ⟨entry, member⟩ := List.exists_mem_of_ne_nil _ gauged
    have found := (OrderedMap.entry_iff _ _ _).mpr member
    exact ⟨.gauge entry.1, by simp [Series.values, found]⟩

theorem pull_present (runtime : Runtime) (hosted : Hosted metrics)
    (present : metrics.counters.entries ≠ [] ∨ gauges.entries ≠ []) :
    (pull (metrics.points runtime gauges)).entries ≠ [] := by
  obtain ⟨series, some_⟩ := present_values hosted present
  have listed := values_series runtime gauges hosted series
  have member : series.name ∈ pull (metrics.points runtime gauges) := by
    rw [pull_mem series.named]
    intro none
    rw [none] at listed
    exact some_ (List.perm_nil.mp listed.symm)
  obtain ⟨_, found⟩ := (OrderedMap.mem_iff _ _).mp member
  exact List.ne_nil_of_mem ((OrderedMap.entry_iff _ _ _).mp found)

/-- What the monitor has pulled and the page charts of a text, beside the counters and the gauges
that it was written of. -/
structure Agrees (metrics : Metrics) (gauges : Gauges) (out : OrderedMap Text Rat)
    (scrape : Field → Rat) : Prop where
  pulled : ∀ quantity, (out.get? quantity.name).getD quantity.absent = metrics.snapshot gauges quantity
  charted : ∀ quantity, scrape quantity.field = metrics.snapshot gauges quantity
  plain : ∀ counter : Counter, (out.get? counter.name).getD 0 = metrics.count counter
  labeled : ∀ family : Labeled, (out.get? family.name).getD 0 =
    ((reasonsOf family.name metrics.counters.entries).map Prod.snd).sum
  cumulative : ∀ first ∈ lifeBuckets.map Prod.snd, ∀ second ∈ lifeBuckets.map Prod.snd,
    first ≤ second → scrape (.lifeLe first) ≤ scrape (.lifeLe second)
  counted : ∀ bound ∈ lifeBuckets.map Prod.snd, scrape (.lifeLe bound) ≤ scrape .lifeCount

theorem points_agree (runtime : Runtime) (gauges : Gauges) (hosted : Hosted metrics) :
    Agrees metrics gauges (pull (metrics.points runtime gauges))
      (chart (metrics.points runtime gauges)) := by
  have bounds : lifeBuckets.map Prod.snd = lifetimeBuckets.map Prod.fst := by decide
  obtain ⟨observed, length, counts⟩ := hosted.lifetimes
  have bucket := fun bound (listed : bound ∈ lifeBuckets.map Prod.snd) =>
    chart_bucket runtime gauges hosted counts (bounds ▸ listed)
  constructor
  case pulled => exact pull_quantity runtime gauges hosted
  case charted => exact chart_quantity runtime gauges hosted
  case plain =>
    intro counter
    have values : (Series.counter counter).values metrics gauges =
        (metrics.counters.get? counter.name).toList := rfl
    have single := single_values runtime hosted values
    exact congrArg (·.getD 0) (pull_single (Series.named (.counter counter)) single)
  case labeled =>
    intro family
    have listed := values_series runtime gauges hosted (.labeled family)
    exact (pull_sum (Series.named (.labeled family)) _).trans listed.sum_eq
  case cumulative =>
    intro first here second there ordered
    rw [bucket first here, bucket second there]
    exact Nat.cast_le.mpr (within_mono observed ordered)
  case counted =>
    intro bound listed
    rw [bucket bound listed, chart_count runtime gauges hosted counts, length]
    exact Nat.cast_le.mpr List.countP_le_length

theorem mem_points {sample : Sample} :
    Line.sample sample ∈ metrics.lines runtime gauges ↔ sample ∈ metrics.points runtime gauges := by
  rw [← points_lines, List.mem_filterMap]
  constructor
  · exact fun member => ⟨.sample sample, member, rfl⟩
  · rintro ⟨line, inside, found⟩
    cases line with
    | sample point =>
        cases found
        exact inside
    | _ => cases found

/-- Of every text that a relay writes, the monitor and the page read the numbers that the relay
would have pushed. -/
theorem metrics_agree (runtime : Runtime) (calls : List Call) (gauges : Gauges)
    (present : (Metrics.run calls).counters.entries ≠ [] ∨ gauges.entries ≠ [])
    (exact_ : ∀ sample, Line.sample sample ∈ (Metrics.run calls).lines runtime gauges →
      runtime.Exact sample.value) :
    ∃ out, parseRelayMetrics runtime ((Metrics.run calls).render runtime gauges) = some out ∧
      Agrees (Metrics.run calls) gauges out
        (parseMetrics runtime ((Metrics.run calls).render runtime gauges)) := by
  have hosted := hosted_run calls
  have clean := lines_clean hosted fun sample member => exact_ sample (mem_points.mpr member)
  obtain ⟨pulled, charted⟩ := parse_render clean
  refine ⟨pull ((Metrics.run calls).points runtime gauges), ?_, ?_⟩
  · rw [pulled, if_neg (pull_present runtime hosted present)]
  · rw [charted]
    exact points_agree runtime gauges hosted

theorem points_values (runtime : Runtime) (metrics : Metrics) (gauges : Gauges) :
    ∀ sample ∈ metrics.points runtime gauges, sample.value ∈
      metrics.split.plain.entries.map Prod.snd ++
        metrics.split.labeled.entries.flatMap (fun family => family.2.map Prod.snd) ++
        gauges.entries.map Prod.snd ++ metrics.lifetimeSamples.map Sample.value := by
  intro sample member
  simp only [Metrics.points, List.mem_append] at member ⊢
  rcases member with ((plain | labeled) | gauged) | lifetime
  · obtain ⟨entry, inside, rfl⟩ := List.mem_map.mp plain
    exact .inl (.inl (.inl (List.mem_map_of_mem inside)))
  · obtain ⟨family, inside, reasons⟩ := List.mem_flatMap.mp labeled
    obtain ⟨entry, sorted, rfl⟩ := List.mem_map.mp reasons
    have listed : entry ∈ family.2 := (List.mergeSort_perm _ _).mem_iff.mp sorted
    exact .inl (.inl (.inr (List.mem_flatMap.mpr ⟨family, inside, List.mem_map_of_mem listed⟩)))
  · obtain ⟨entry, inside, rfl⟩ := List.mem_map.mp gauged
    exact .inl (.inr (List.mem_map_of_mem inside))
  · exact .inr (List.mem_map_of_mem lifetime)

def lexLe : Text → Text → Bool
  | [], _ => true
  | _ :: _, [] => false
  | first :: rest, second :: others =>
      Nat.blt first.toNat second.toNat || (Nat.beq first.toNat second.toNat && lexLe rest others)

/-- A runtime for whole numbers. -/
def decimal : Runtime where
  print value :=
    match value.num with
    | .ofNat number => Nat.toDigits 10 number
    | .negSucc number => '-' :: Nat.toDigits 10 (number + 1)
  number text :=
    match text with
    | '-' :: digits =>
        if digits.all Char.isDigit then some (-(Nat.ofDigitChars 10 digits 0 : Rat)) else none
    | digits => if digits.all Char.isDigit then some (Nat.ofDigitChars 10 digits 0 : Rat) else none
  localeLe := lexLe

def rejecting : List Call :=
  [.inc .wsUpgradesTotal 2, .incReason .wsUpgradesRejectedTotal "ip_cap" (by decide),
    .incReason .wsUpgradesRejectedTotal "gate" (by decide), .inc .shardMapFetchErrorsTotal 1,
    .incReason .shardMapFetchErrorsByCauseTotal "dns" (by decide), .observeSocketLifetime 40]

def watching : Gauges := (OrderedMap.empty.set .socketsLive 3).set .shardMapVersion (-1)

theorem metrics_agree_rejecting : ∃ out,
    parseRelayMetrics decimal ((Metrics.run rejecting).render decimal watching) = some out ∧
      Agrees (Metrics.run rejecting) watching out
        (parseMetrics decimal ((Metrics.run rejecting).render decimal watching)) := by
  apply metrics_agree decimal rejecting watching (.inr (by decide))
  intro sample member
  have value := points_values decimal (Metrics.run rejecting) watching sample (mem_points.mp member)
  have every : (((Metrics.run rejecting).split.plain.entries.map Prod.snd ++
      (Metrics.run rejecting).split.labeled.entries.flatMap (fun family => family.2.map Prod.snd) ++
      watching.entries.map Prod.snd ++ (Metrics.run rejecting).lifetimeSamples.map Sample.value)).all
        (fun value => (decimal.print value).all (fun char => decide (char ∈ "+-.0123456789e".toList)) &&
          decide (decimal.print value ≠ []) &&
          decide (decimal.number (decimal.print value) = some value)) = true := by
    decide +kernel
  have exact_ := List.all_eq_true.mp every _ value
  simp only [Bool.and_eq_true, decide_eq_true_eq] at exact_
  exact ⟨forall_of_all exact_.1.1, exact_.1.2, exact_.2⟩

end Whole

end Relay.Exposition
