import CompanionRelay.MonitorDebounce

/-!
The weekly baseline over a run of the monitor: the hour that rollHour completes, which analyze
compares with the samples of its hour of the week and records there. The anchor is in the
state of the host, so the readings between its seed and the roll are those of the hour.
-/

namespace Relay.Monitor.Fleet

abbrev Met := State × Tick

section Samples

/-- The counters that a tick reads of a host, if its push is fresh. -/
def reading (host : String) (tick : Tick) : Option Counters :=
  ((freshSnapshot tick host).bind id).map fun snap => (normalizeSnapshot snap).counters

/-- A step of a run that completes and reads the counters of the host. -/
def Reads (host : String) (met : Met) (cur : Counters) : Prop :=
  Watched host met.1 met.2 ∧ reading host met.2 = some cur

/-- The count that analyze gets for a completed hour and compares with the baseline. -/
def Judges (host : String) (met : Met) (hour : Hour) : Prop :=
  ∃ cur, Reads host met cur ∧
    (rollHour (storedHost met.1 host).hourAnchor cur (hourKey met.2.now)).lastHour = some hour

/-- The count that analyze adds to the history. -/
def Records (host : String) (met : Met) (hour : Hour) : Prop :=
  Judges host met hour ∧ some hour.key ≠ (storedHost met.1 host).lastRecordedHour

/-- The readings of the host do not fall. -/
def Rising (host : String) (steps : List Met) : Prop :=
  steps.Pairwise fun first second => ∀ before after, Reads host first before →
    Reads host second after → before.requests ≤ after.requests

/-- The count of an hour at a step is the growth of the counter from an earlier reading to the
one of the step, and the readings from the one to the other do not fall and are all of that hour
or the next. -/
def GrowsWithin (host : String) (past : List Met) (met : Met) (hour : Hour) : Prop :=
  ∃ lead first during opening closing, past = lead ++ first :: during ∧
    Reads host first opening ∧ Reads host met closing ∧
    hour.requests = closing.requests - opening.requests ∧
    Rising host (first :: (during ++ [met])) ∧
    ∀ read ∈ first :: (during ++ [met]), (∃ cur, Reads host read cur) →
      hourKey read.2.now = hour.key ∨ hourKey read.2.now = hour.key + 1

structure HourlySamples (ticks : List Tick) : Prop where
  within : ∀ past met later, Machine.steps stored State.empty ticks = past ++ met :: later →
    ∀ host hour, Judges host met hour → GrowsWithin host past met hour
  once : ∀ past first during second later,
    Machine.steps stored State.empty ticks = past ++ first :: (during ++ second :: later) →
    ∀ host hour other, Records host first hour → Records host second other → hour.key ≠ other.key
  history : ∀ host slot, ∀ sample ∈ (storedHost (storedAfter ticks) host).history slot,
    ∃ met ∈ Machine.steps stored State.empty ticks, ∃ hour, Records host met hour ∧
      hourOfWeek hour.key = slot ∧ hour.requests = sample

/-- A reading that completes the hour of the anchor comes in the next hour, and since the last
reading with the count of the anchor none falls. -/
def Unbroken (host : String) (past : List Met) (met : Met) : Prop :=
  ∀ cur anchor, Reads host met cur → (storedHost met.1 host).hourAnchor = some anchor →
    anchor.requests ≤ cur.requests → hourKey met.2.now ≠ anchor.key →
    hourKey met.2.now ≤ anchor.key + 1 ∧
    ∀ lead first during opening, past = lead ++ first :: during → Reads host first opening →
      opening.requests = anchor.requests →
      (∀ read ∈ during, ∀ other, Reads host read other → other.requests ≠ anchor.requests) →
      Rising host (first :: (during ++ [met]))

end Samples

section Rolls
variable {anchor : Option Hour} {cur : Counters} {key : Nat} {hour : Hour}

theorem rollHour_lastHour :
    (rollHour anchor cur key).lastHour = some hour ↔
      ∃ seed, anchor = some seed ∧ seed.requests ≤ cur.requests ∧ key ≠ seed.key ∧
        hour = ⟨seed.key, cur.requests - seed.requests, cur.errors - seed.errors⟩ := by
  unfold rollHour
  cases anchor with
  | none => simp
  | some seed =>
      simp only [Option.some.injEq, exists_eq_left']
      split
      · rename_i below
        simp [not_le.mpr below]
      · rename_i above
        split
        · rename_i same
          simp [same]
        · rename_i rolled
          simp [not_lt.mp above, rolled, eq_comm]

theorem rollHour_anchor :
    ((rollHour anchor cur key).anchor.key = key ∧
        (rollHour anchor cur key).anchor.requests = cur.requests) ∨
      ∃ seed, anchor = some seed ∧ (rollHour anchor cur key).anchor = seed ∧ key = seed.key ∧
        seed.requests ≤ cur.requests ∧ (rollHour anchor cur key).lastHour = none := by
  unfold rollHour
  cases anchor with
  | none => exact .inl ⟨rfl, rfl⟩
  | some seed =>
      dsimp only
      split
      · exact .inl ⟨rfl, rfl⟩
      · rename_i above
        split
        · rename_i same
          exact .inr ⟨seed, rfl, rfl, same, not_lt.mp above, rfl⟩
        · exact .inl ⟨rfl, rfl⟩

end Rolls

section Steps
variable {state : State} {tick : Tick} {host : String}

theorem inboundSide_next (tick : Tick) (host : String) (hs : HostState)
    (report : Report HostState) :
    ∃ streak, (inboundSide tick host hs report).next =
      { report.next with probeFailStreak := streak } := by
  unfold inboundSide
  split
  · exact ⟨_, rfl⟩
  · split
    · exact ⟨_, rfl⟩
    · exact ⟨_, rfl⟩

-- The state of a host after a tick that does not watch it is what it was, if run() rejects, or
-- gone; after one that watches it it is what the push side makes of it, but for the probe's count.
theorem storedHost_stored (state : State) (tick : Tick) (host : String) :
    (¬ Watched host state tick ∧ storedHost (stored state tick) host = storedHost state host) ∨
      storedHost (stored state tick) host = HostState.empty ∨
      (Watched host state tick ∧ ∃ push streak,
        pushSide tick host (storedHost state host) = some push ∧
        storedHost (stored state tick) host = { push.next with probeFailStreak := streak }) := by
  cases done : run tick state with
  | none =>
      left
      constructor
      · rintro ⟨outcome, completed, _⟩
        rw [done] at completed
        cases completed
      · rw [stored, done]
  | some outcome =>
      have completes := run_completes done
      rw [stored_eq done]
      cases found : outcome.state.hosts.get? host with
      | none =>
          right
          left
          rw [storedHost, found]
          rfl
      | some hs =>
          right
          right
          have watched : host ∈ outcome.hosts := by
            by_contra outside
            rw [completes.host_dropped host outside] at found
            cases found
          obtain ⟨report, read⟩ := completes.watched host watched
          obtain ⟨push, pushed, rfl⟩ := Option.map_eq_some_iff.mp read
          obtain ⟨streak, next⟩ := inboundSide_next tick host (storedHost state host) push
          refine ⟨⟨outcome, done, watched⟩, push, streak, pushed, ?_⟩
          rw [storedHost, completes.host_stored host watched (Object.key_ordinary _ found), read,
            ← next]
          rfl

theorem mem_slice {Item : Type} {start : Int} {items : List Item} {item : Item}
    (inside : item ∈ slice start items) : item ∈ items := by
  unfold slice at inside
  split at inside <;> exact List.mem_of_mem_drop inside

theorem mem_pushSample {history : History} {how slot : Nat} {value sample : Int} {maxSamples : Rat}
    (inside : sample ∈ pushSample history how value maxSamples slot) :
    sample ∈ history slot ∨ (how = slot ∧ value = sample) := by
  unfold pushSample at inside
  by_cases here : slot = how
  · subst here
    rw [Function.update_self] at inside
    rcases List.mem_append.mp (mem_slice inside) with old | new
    · exact .inl old
    · exact .inr ⟨rfl, (List.mem_singleton.mp new).symm⟩
  · rw [Function.update_of_ne here] at inside
    exact .inl inside

theorem mem_analyze {gauges : Gauges} {interval : Interval} {lastHour : Option Hour}
    {hs : HostState} {config : Config} {slot : Nat} {sample : Int}
    (inside : sample ∈ (analyze gauges interval lastHour hs config).history slot) :
    sample ∈ hs.history slot ∨ ∃ hour, lastHour = some hour ∧
      some hour.key ≠ hs.lastRecordedHour ∧ hourOfWeek hour.key = slot ∧ hour.requests = sample := by
  cases lastHour with
  | none => exact .inl inside
  | some hour =>
      simp only [analyze] at inside
      split at inside
      · exact .inl inside
      · rename_i unrecorded
        rcases mem_pushSample inside with old | new
        · exact .inl old
        · exact .inr ⟨hour, rfl, unrecorded, new⟩

theorem history_stored {slot : Nat} {sample : Int}
    (inside : sample ∈ (storedHost (stored state tick) host).history slot) :
    sample ∈ (storedHost state host).history slot ∨ ∃ hour, Records host (state, tick) hour ∧
      hourOfWeek hour.key = slot ∧ hour.requests = sample := by
  rcases storedHost_stored state tick host with ⟨_, same⟩ | dropped |
    ⟨watched, push, streak, pushed, same⟩
  · rw [same] at inside
    exact .inl inside
  · rw [dropped] at inside
    exact absurd inside List.not_mem_nil
  · rw [same] at inside
    unfold pushSide at pushed
    split at pushed
    · cases pushed
      exact .inl inside
    · cases pushed
    · rename_i snap fresh
      cases pushed
      have reads : Reads host (state, tick) (normalizeSnapshot snap).counters :=
        ⟨watched, by rw [reading, fresh]; rfl⟩
      rcases mem_analyze inside with old | ⟨hour, rolled, unrecorded, made⟩
      · exact .inl old
      · exact .inr ⟨hour, ⟨⟨_, reads, rolled⟩, unrecorded⟩, made⟩

theorem history_recorded (ticks : List Tick) {slot : Nat} {sample : Int}
    (inside : sample ∈ (storedHost (storedAfter ticks) host).history slot) :
    ∃ met ∈ Machine.steps stored State.empty ticks, ∃ hour, Records host met hour ∧
      hourOfWeek hour.key = slot ∧ hour.requests = sample := by
  induction ticks using List.reverseRecOn with
  | nil => exact absurd inside List.not_mem_nil
  | append_singleton before tick ih =>
      rw [storedAfter, Machine.run_append] at inside
      rw [Machine.steps_append]
      rcases history_stored inside with old | ⟨hour, records⟩
      · obtain ⟨met, earlier, found⟩ := ih old
        exact ⟨met, List.mem_append_left _ earlier, found⟩
      · exact ⟨_, List.mem_append_right _ List.mem_cons_self, hour, records⟩

theorem anchor_stored {anchor : Hour}
    (kept : (storedHost (stored state tick) host).hourAnchor = some anchor) :
    ((storedHost state host).hourAnchor = some anchor ∧ ∀ cur, ¬ Reads host (state, tick) cur) ∨
      ∃ cur, Reads host (state, tick) cur ∧
        anchor = (rollHour (storedHost state host).hourAnchor cur (hourKey tick.now)).anchor := by
  rcases storedHost_stored state tick host with ⟨unwatched, same⟩ | dropped |
    ⟨watched, push, streak, pushed, same⟩
  · rw [same] at kept
    exact .inl ⟨kept, fun cur reads => unwatched reads.1⟩
  · rw [dropped] at kept
    cases kept
  · rw [same] at kept
    unfold pushSide at pushed
    split at pushed
    · rename_i missing
      cases pushed
      refine .inl ⟨kept, ?_⟩
      rintro cur ⟨_, found⟩
      rw [reading, missing] at found
      cases found
    · cases pushed
    · rename_i snap fresh
      cases pushed
      have reads : Reads host (state, tick) (normalizeSnapshot snap).counters :=
        ⟨watched, by rw [reading, fresh]; rfl⟩
      exact .inr ⟨_, reads, (Option.some.inj kept).symm⟩

end Steps

section Runs
variable {host : String} {past : List Met} {state : State} {tick : Tick} {hour : Hour}

theorem reads_unique {met : Met} {cur other : Counters} (first : Reads host met cur)
    (second : Reads host met other) : other = cur :=
  Option.some.inj (second.2.symm.trans first.2)

/-- Where the anchor of a host comes from, and that no roll of a step before was later. -/
structure Anchored (host : String) (past : List Met) (state : State) : Prop where
  opened : ∀ anchor, (storedHost state host).hourAnchor = some anchor →
    ∃ lead first during opening, past = lead ++ first :: during ∧ Reads host first opening ∧
      opening.requests = anchor.requests ∧
      ∀ read ∈ first :: during, ∀ cur, Reads host read cur →
        anchor.requests ≤ cur.requests ∧ hourKey read.2.now = anchor.key
  rolled : ∀ anchor, (storedHost state host).hourAnchor = some anchor →
    ∀ met ∈ past, ∀ hour, Judges host met hour → hourKey met.2.now ≤ anchor.key

theorem hourKey_mono {first second : Nat} (order : first ≤ second) : hourKey first ≤ hourKey second :=
  Nat.div_le_div_right order

theorem Anchored.stored (anchored : Anchored host past state)
    (times : ∀ met ∈ past, met.2.now ≤ tick.now) :
    Anchored host (past ++ [(state, tick)]) (Fleet.stored state tick) := by
  constructor
  case opened =>
    intro anchor kept
    rcases anchor_stored kept with ⟨before, silent⟩ | ⟨cur, reads, made⟩
    · obtain ⟨lead, first, during, opening, rfl, opens, same, hours⟩ := anchored.opened anchor before
      refine ⟨lead, first, during ++ [(state, tick)], opening, by simp, opens, same, ?_⟩
      rw [← List.cons_append]
      intro read inside
      rcases List.mem_append.mp inside with inside | last
      · exact hours read inside
      · obtain rfl := List.mem_singleton.mp last
        exact fun cur reads => absurd reads (silent cur)
    -- A reading seeds a new anchor, which it opens itself, or lies in the hour of the old one.
    · rcases rollHour_anchor with ⟨key, requests⟩ | ⟨seed, before, stays, key, above, _⟩
      · rw [← made] at key requests
        refine ⟨past, (state, tick), [], cur, rfl, reads, requests.symm, ?_⟩
        intro read inside other again
        obtain rfl := List.mem_singleton.mp inside
        obtain rfl := reads_unique reads again
        exact ⟨le_of_eq requests, key.symm⟩
      · obtain rfl : anchor = seed := made.trans stays
        obtain ⟨lead, first, during, opening, rfl, opens, same, hours⟩ :=
          anchored.opened anchor before
        refine ⟨lead, first, during ++ [(state, tick)], opening, by simp, opens, same, ?_⟩
        rw [← List.cons_append]
        intro read inside other again
        rcases List.mem_append.mp inside with inside | last
        · exact hours read inside other again
        · obtain rfl := List.mem_singleton.mp last
          obtain rfl := reads_unique reads again
          exact ⟨above, key⟩
  case rolled =>
    intro anchor kept met inside hour judges
    rcases anchor_stored kept with ⟨before, silent⟩ | ⟨cur, reads, made⟩
    · rcases List.mem_append.mp inside with inside | last
      · exact anchored.rolled anchor before met inside hour judges
      · obtain rfl := List.mem_singleton.mp last
        obtain ⟨cur, reads, _⟩ := judges
        exact absurd reads (silent cur)
    · rcases rollHour_anchor with ⟨key, _⟩ | ⟨seed, before, stays, _, _, unrolled⟩
      · rw [made, key]
        rcases List.mem_append.mp inside with inside | last
        · exact hourKey_mono (times met inside)
        · rw [List.mem_singleton.mp last]
      · rw [made, stays]
        rcases List.mem_append.mp inside with inside | last
        · exact anchored.rolled seed before met inside hour judges
        · obtain rfl := List.mem_singleton.mp last
          obtain ⟨other, again, judged⟩ := judges
          obtain rfl := reads_unique reads again
          rw [unrolled] at judged
          cases judged

-- The count of an hour is one of the anchor's hour, and that hour is over.
theorem Anchored.judged (anchored : Anchored host past state)
    (times : ∀ met ∈ past, met.2.now ≤ tick.now) (judges : Judges host (state, tick) hour) :
    ∃ anchor, (storedHost state host).hourAnchor = some anchor ∧ hour.key = anchor.key ∧
      hour.key < hourKey tick.now := by
  obtain ⟨cur, reads, judged⟩ := judges
  obtain ⟨seed, before, above, rolled, rfl⟩ := rollHour_lastHour.mp judged
  refine ⟨seed, before, rfl, ?_⟩
  obtain ⟨lead, first, during, opening, rfl, opens, same, hours⟩ := anchored.opened seed before
  have started : hourKey first.2.now = seed.key := (hours first List.mem_cons_self opening opens).2
  have order : hourKey first.2.now ≤ hourKey tick.now := hourKey_mono (times first (by simp))
  rw [started] at order
  exact lt_of_le_of_ne order (Ne.symm rolled)

theorem last_reading {requests : Int} {steps : List Met}
    (some_ : ∃ step ∈ steps, ∃ cur, Reads host step cur ∧ cur.requests = requests) :
    ∃ lead first during opening, steps = lead ++ first :: during ∧ Reads host first opening ∧
      opening.requests = requests ∧
      ∀ read ∈ during, ∀ other, Reads host read other → other.requests ≠ requests := by
  induction steps with
  | nil =>
      obtain ⟨step, inside, _⟩ := some_
      exact absurd inside List.not_mem_nil
  | cons step rest ih =>
      by_cases later : ∃ read ∈ rest, ∃ cur, Reads host read cur ∧ cur.requests = requests
      · obtain ⟨lead, first, during, opening, rfl, opens⟩ := ih later
        exact ⟨step :: lead, first, during, opening, rfl, opens⟩
      · obtain ⟨read, inside, cur, reads, same⟩ := some_
        rcases List.mem_cons.mp inside with rfl | inside
        · refine ⟨[], read, rest, cur, rfl, reads, same, ?_⟩
          exact fun other inside next again equal => later ⟨other, inside, next, again, equal⟩
        · exact absurd ⟨read, inside, cur, reads, same⟩ later

theorem last_suffix {requests : Int} {lead lead' : List Met} {first last : Met}
    {during tail : List Met} {opening : Counters}
    (whole : lead ++ first :: during = lead' ++ last :: tail) (opens : Reads host first opening)
    (same : opening.requests = requests)
    (latest : ∀ read ∈ tail, ∀ other, Reads host read other → other.requests ≠ requests) :
    last :: tail <:+ first :: during := by
  have shorter : first :: during <:+ lead' ++ last :: tail := ⟨lead, whole⟩
  have longer : last :: tail <:+ lead' ++ last :: tail := ⟨lead', rfl⟩
  rcases List.suffix_or_suffix_of_suffix longer shorter with inside | outside
  · exact inside
  · rcases List.suffix_cons_iff.mp outside with equal | before
    · exact equal ▸ List.suffix_refl _
    · exact absurd same (latest first (before.subset List.mem_cons_self) opening opens)

theorem Anchored.growsWithin (anchored : Anchored host past state)
    (times : ∀ met ∈ past, met.2.now ≤ tick.now) (unbroken : Unbroken host past (state, tick))
    (judges : Judges host (state, tick) hour) : GrowsWithin host past (state, tick) hour := by
  have ended := anchored.judged times judges
  obtain ⟨cur, reads, judged⟩ := judges
  obtain ⟨seed, before, above, rolled, rfl⟩ := rollHour_lastHour.mp judged
  obtain ⟨soon, rising⟩ := unbroken cur seed reads before above rolled
  obtain ⟨lead, first, during, opening, whole, opens, same, hours⟩ := anchored.opened seed before
  obtain ⟨_, _, _, late⟩ := ended
  have seeded : ∃ step ∈ past, ∃ cur, Reads host step cur ∧ cur.requests = seed.requests :=
    ⟨first, by simp [whole], opening, opens, same⟩
  obtain ⟨lead', last, tail, start, split, starts, equal, latest⟩ := last_reading seeded
  have suffix := last_suffix (whole.symm.trans split) opens same latest
  refine ⟨lead', last, tail, start, cur, split, starts, reads, by rw [equal],
    rising lead' last tail start split starts equal latest, ?_⟩
  rw [← List.cons_append]
  intro read inside
  rcases List.mem_append.mp inside with inside | closes
  · rintro ⟨other, again⟩
    exact .inl (hours read (suffix.subset inside) other again).2
  · rw [List.mem_singleton.mp closes]
    exact fun _ => .inr (le_antisymm soon late)

variable {ticks : List Tick}

theorem times_split {met : Met} {later : List Met} {start : State}
    (times : ticks.Pairwise fun first second => first.now ≤ second.now)
    (split : Machine.steps stored start ticks = past ++ met :: later) :
    ∀ earlier ∈ past, earlier.2.now ≤ met.2.now := by
  obtain ⟨before, after, rfl, rfl, _⟩ := Machine.steps_split _ _ _ _ _ _ split
  intro earlier inside
  obtain ⟨lead, rest, rfl, _⟩ := Machine.steps_mem _ _ _ _ inside
  exact (List.pairwise_append.mp times).2.2 earlier.2 (by simp) met.2 List.mem_cons_self

theorem anchored_run {met : Met} {later : List Met}
    (times : ticks.Pairwise fun first second => first.now ≤ second.now)
    (split : Machine.steps stored State.empty ticks = past ++ met :: later) (host : String) :
    Anchored host past met.1 := by
  obtain ⟨before, after, rfl, rfl, state, _⟩ := Machine.steps_split _ _ _ _ _ _ split
  have sorted := (List.pairwise_append.mp times).1
  have initially : Anchored host [] State.empty := by
    constructor <;> (intro anchor kept; cases kept)
  have kept := Machine.history_invariant stored (Anchored host)
    (fun past _ tick => ∀ met ∈ past, met.2.now ≤ tick.now)
    (fun past state tick anchored times => anchored.stored times) [] State.empty
    initially before
    (fun lead met rest split => times_split sorted split)
  rw [state]
  exact kept

/-- Over a run in order of time, the counts of the baseline are those of one hour each just when
each reading that completes an hour is of the next one, and none since the anchor's count falls. -/
theorem hourly_samples_iff (ticks : List Tick)
    (times : ticks.Pairwise fun first second => first.now ≤ second.now) :
    HourlySamples ticks ↔
      ∀ past met later, Machine.steps stored State.empty ticks = past ++ met :: later →
        ∀ host, Unbroken host past met := by
  constructor
  · intro samples past met later split host cur anchor reads before above rolled
    have judges : Judges host met
        ⟨anchor.key, cur.requests - anchor.requests, cur.errors - anchor.errors⟩ :=
      ⟨cur, reads, rollHour_lastHour.mpr ⟨anchor, before, above, rolled, rfl⟩⟩
    obtain ⟨lead, first, during, opening, closing, whole, opens, closes, count, rising, hours⟩ :=
      samples.within past met later split host _ judges
    obtain rfl := reads_unique reads closes
    have same : opening.requests = anchor.requests := by
      change closing.requests - anchor.requests = _ at count
      omega
    constructor
    · rcases hours met (by simp) ⟨closing, reads⟩ with here | next
      · exact absurd here rolled
      · exact le_of_eq next
    · intro lead' last tail start split starts equal latest
      have suffix := last_suffix (whole.symm.trans split) opens same latest
      rw [← List.cons_append] at rising ⊢
      exact rising.sublist (suffix.sublist.append_right [met])
  · intro unbroken
    constructor
    case within =>
      intro past met later split host hour judges
      exact (anchored_run times split host).growsWithin (times_split times split)
        (unbroken past met later split host) judges
    case once =>
      intro past first during second later split host hour other records again
      have early := (anchored_run times split host).judged (times_split times split) records.1
      have whole : Machine.steps stored State.empty ticks =
          (past ++ first :: during) ++ second :: later := by simpa using split
      have anchored := anchored_run times whole host
      -- The second count is of the anchor's hour, and that began when the first was rolled.
      obtain ⟨anchor, kept, key, _⟩ := anchored.judged (times_split times whole) again.1
      obtain ⟨_, _, _, ended⟩ := early
      have rolled := anchored.rolled anchor kept first (by simp) hour records.1
      rw [key]
      exact ne_of_lt (lt_of_lt_of_le ended rolled)
    case history =>
      exact fun host slot sample inside => history_recorded ticks inside

section Sample

/-- The one relay of the map pushes the number of its requests. -/
def countTick (now : Nat) (requests : Int) : Tick :=
  { fleetTick now (some wholeMap) with
    latest := fun _ => some ⟨now, some ⟨some requests, none, none, none, none, none⟩⟩ }

theorem next_hour_counted :
    HourlySamples [countTick 0 0, countTick 3600000 60] ↔
      ∀ past met later,
        Machine.steps stored State.empty [countTick 0 0, countTick 3600000 60] =
          past ++ met :: later → ∀ host, Unbroken host past met :=
  hourly_samples_iff _ (by decide +kernel)

theorem count_reads {state : State} {now : Nat} {requests : Int}
    (completes : (run (countTick now requests) state).map Outcome.hosts = some ["relay1"])
    (fresh : reading "relay1" (countTick now requests) = some ⟨requests, 0, 0, 0⟩) :
    Reads "relay1" (state, countTick now requests) ⟨requests, 0, 0, 0⟩ := by
  obtain ⟨outcome, done, hosts⟩ := Option.map_eq_some_iff.mp completes
  exact ⟨⟨outcome, done, hosts ▸ List.mem_singleton.mpr rfl⟩, fresh⟩

/-- A monitor that stops for five hours records the requests of all of them as the first's, and a
restart between two readings of an hour goes unseen if the counter has passed the anchor since. -/
theorem gap_recorded_as_one_hour :
    (storedHost (storedAfter [countTick 0 0, countTick 18000000 500]) "relay1").history 72 = [500] ∧
      ¬ HourlySamples [countTick 0 0, countTick 18000000 500] ∧
      (storedHost (storedAfter [countTick 0 100, countTick 60000 180, countTick 120000 120,
        countTick 3600000 160]) "relay1").history 72 = [60] ∧
      ¬ HourlySamples [countTick 0 100, countTick 60000 180, countTick 120000 120,
        countTick 3600000 160] := by
  refine ⟨by decide +kernel, ?_, by decide +kernel, ?_⟩
  · intro samples
    have reads : Reads "relay1" (storedAfter [countTick 0 0], countTick 18000000 500)
        ⟨500, 0, 0, 0⟩ := count_reads (by decide +kernel) (by decide +kernel)
    have judges : Judges "relay1" (storedAfter [countTick 0 0], countTick 18000000 500) ⟨0, 500, 0⟩ :=
      ⟨_, reads, by decide +kernel⟩
    obtain ⟨_, _, _, _, _, _, _, _, _, _, hours⟩ := samples.within [(State.empty, countTick 0 0)]
      (storedAfter [countTick 0 0], countTick 18000000 500) [] rfl _ _ judges
    exact absurd (hours _ (by simp) ⟨_, reads⟩) (by decide)
  · intro samples
    have rest : Reads "relay1" (storedAfter [countTick 0 100], countTick 60000 180) ⟨180, 0, 0, 0⟩ :=
      count_reads (by decide +kernel) (by decide +kernel)
    have fallen : Reads "relay1" (storedAfter [countTick 0 100, countTick 60000 180],
        countTick 120000 120) ⟨120, 0, 0, 0⟩ := count_reads (by decide +kernel) (by decide +kernel)
    have reads : Reads "relay1" (storedAfter [countTick 0 100, countTick 60000 180,
        countTick 120000 120], countTick 3600000 160) ⟨160, 0, 0, 0⟩ :=
      count_reads (by decide +kernel) (by decide +kernel)
    have judges : Judges "relay1" (storedAfter [countTick 0 100, countTick 60000 180,
        countTick 120000 120], countTick 3600000 160) ⟨0, 60, 0⟩ := ⟨_, reads, by decide +kernel⟩
    obtain ⟨lead, first, during, opening, closing, whole, opens, closes, count, rising, _⟩ :=
      samples.within [(State.empty, countTick 0 100),
        (storedAfter [countTick 0 100], countTick 60000 180),
        (storedAfter [countTick 0 100, countTick 60000 180], countTick 120000 120)]
        _ [] rfl _ _ judges
    obtain rfl := reads_unique reads closes
    -- The count is the growth from the first reading, and the third falls.
    rcases lead with _ | ⟨_, _ | ⟨_, _ | ⟨_, others⟩⟩⟩
    · simp only [List.nil_append, List.cons.injEq] at whole
      obtain ⟨_, rfl⟩ := whole
      have falls := (List.pairwise_cons.mp (List.pairwise_cons.mp rising).2).1 _ (by simp) _ _
        rest fallen
      exact absurd falls (by decide)
    · simp only [List.cons_append, List.nil_append, List.cons.injEq] at whole
      obtain ⟨_, rfl, _⟩ := whole
      obtain rfl := reads_unique rest opens
      exact absurd count (by decide)
    · simp only [List.cons_append, List.nil_append, List.cons.injEq] at whole
      obtain ⟨_, _, rfl, _⟩ := whole
      obtain rfl := reads_unique fallen opens
      exact absurd count (by decide)
    · simp at whole

end Sample

end Runs

end Relay.Monitor.Fleet
