import Mathlib.Data.List.Induction
import CompanionRelay.MonitorMap

/-!
The watcher of ops/watch: one tick of tick.mjs, which probes the relays from a box of its own and
comes to a verdict, and the loop of heartbeat.sh, which pokes the one who triages. A poke goes out
when enough ticks in a row have found a relay or the primary push server away, and none went out
in this incident or the last one was too long ago.
-/

namespace Relay.Watcher

open Monitor (Draw mapRanges ownedTotal bucketAt hexText padStart)

section Ticks

inductive Verdict
  | macOffline
  | mapUnreachable
  | pushUnreachable
  | pushDegraded
  | ok
  | allRelaysUnreachable
  | someRelaysUnreachable
  | tickError
  deriving DecidableEq

/-- A host of the list: a text, or another truthy value of the map. Two arrays or objects are not
the same, so one is named by the entry that it comes from. -/
inductive Host
  | text (host : String)
  | number (value : Rat)
  | yes
  | object (entry : Nat)
  deriving DecidableEq

/-- What a tick finds: which controls answer, the map if it could be fetched and parsed, which
hosts answer the handshake for a room, and which push servers answer, the primary first; none
where the url of the one or the other throws. -/
structure Tick where
  controls : List Bool
  map : Option Json
  relayHosts : List String
  forceFail : List String
  draw : Host → Draw
  randomRoom : Host → String
  probeRelay : Host → String → Option Bool
  pushes : List (Option Bool)

/-- A value that filter(Boolean) keeps. -/
def truthyHost (entry : Nat) : Json → Option Host
  | .null => none
  | .bool value => if value then some .yes else none
  | .num value => if value = 0 then none else some (.number value)
  | .str host => if host = "" then none else some (.text host)
  | .arr _ | .obj _ => some (.object entry)

/-- `r.host` of an entry, if it is truthy; none is the TypeError of a null entry. -/
def hostOf (entry : Nat) (r : Json) : Option (Option Host) :=
  (r.read "host").map fun value => value.bind (truthyHost entry)

/-- The hosts that a map names; only an array has the method map. -/
def mapHosts (map : Json) : Option (List Host) :=
  match mapRanges map with
  | .arr items => (items.zipIdx.mapM fun item => hostOf item.2 item.1).map fun hosts =>
      (OrderedSet.empty.addAll hosts.reduceOption).items
  | _ => none

/-- A range of the host with whole bounds in order. -/
def ownedRange (host : Host) (entry : Nat) (r : Json) : Option (Int × Int) :=
  match r.readInt "low", r.readInt "high" with
  | some low, some high =>
      if hostOf entry r = some (some host) ∧ low ≤ high then some (low, high) else none
  | _, _ => none

def ownedRanges (map : Json) (host : Host) : List (Int × Int) :=
  match mapRanges map with
  | .arr items => items.zipIdx.filterMap fun item => ownedRange host item.2 item.1
  | _ => []

/-- The copy of the monitor's function in tick.mjs, which takes any host. -/
def ownedRoomForHost (map : Json) (host : Host) (draw : Draw) : Option String :=
  let ranges := ownedRanges map host
  let total := ownedTotal ranges
  if total = 0 then none
  else
    let idx := min (total - 1) (max 0 ⌊draw.randUnit * total⌋)
    (bucketAt ranges idx).map fun bucket =>
      draw.prefix60 ++ String.ofList (padStart 4 '0' (hexText bucket))

/-- The map, where it is one. -/
def Tick.document (tick : Tick) : Option Json := tick.map.filter Json.truthy

def Tick.hostList (tick : Tick) : Option (List Host) :=
  match tick.document with
  | none => some (tick.relayHosts.map .text)
  | some map => mapHosts map

/-- FORCE_FAIL.has(host) -/
def Tick.forces (tick : Tick) : Host → Bool
  | .text host => host ∈ tick.forceFail
  | _ => false

/-- Whether a host is fine: one that owns nothing is skipped. -/
def Tick.reaches (tick : Tick) (host : Host) : Option Bool :=
  if tick.forces host then some false
  else
    match tick.document with
    | none => tick.probeRelay host (tick.randomRoom host)
    | some map =>
        match ownedRoomForHost map host (tick.draw host) with
        | none => some true
        | some room => tick.probeRelay host room

def Tick.relays (tick : Tick) : Option (List Bool) := tick.hostList.bind (·.mapM tick.reaches)

def Tick.servers (tick : Tick) : Option (List Bool) := tick.pushes.mapM id

def Tick.verdict (tick : Tick) : Verdict :=
  match tick.relays, tick.servers with
  | some relays, some servers =>
      let failed := relays.filter (! ·)
      if tick.controls.all (! ·) then .macOffline
      else if tick.map.isNone ∧ relays.length = 0 then .mapUnreachable
      else if failed.length = 0 then
        if servers.head? = some false then .pushUnreachable
        else if servers.any (! ·) then .pushDegraded
        else .ok
      else if failed.length = relays.length then .allRelaysUnreachable
      else .someRelaysUnreachable
  | _, _ => .tickError

end Ticks

section Loop

structure Config where
  confirmFails : Nat
  repokeSeconds : Int

structure Watch where
  fails : Nat
  incident : Bool
  lastPoke : Int
  offline : Bool

/-- One round of the loop: the tick, none if it died without a verdict, the clock, and whether a
poke lands. -/
structure Beat where
  tick : Option Tick
  now : Int
  lands : Bool

inductive Poke
  | resolved
  | triage
  deriving DecidableEq

def Watch.resolve (watch : Watch) : Watch × Option Poke :=
  ({ watch with fails := 0, incident := false }, if watch.incident then some .resolved else none)

def Watch.fail (config : Config) (watch : Watch) (beat : Beat) : Watch × Option Poke :=
  let fails := watch.fails + 1
  if fails < config.confirmFails then ({ watch with fails := fails }, none)
  else if watch.incident = false ∨ beat.now - watch.lastPoke ≥ config.repokeSeconds then
    if beat.lands then
      ({ watch with fails := fails, incident := true, lastPoke := beat.now }, some .triage)
    else ({ watch with fails := fails }, some .triage)
  else ({ watch with fails := fails }, none)

def Watch.beat (config : Config) (watch : Watch) (beat : Beat) : Watch × Option Poke :=
  match beat.tick.map Tick.verdict with
  | some .ok => { watch with offline := false }.resolve
  | some .pushDegraded => watch.resolve
  | some .macOffline => ({ watch with fails := 0, offline := true }, none)
  | some .tickError => ({ watch with fails := 0, offline := true }, none)
  | some .mapUnreachable => ({ watch with fails := 0, offline := true }, none)
  | _ => watch.fail config beat

def run (config : Config) (beats : List Beat) : Watch :=
  beats.foldl (fun watch beat => (watch.beat config beat).1) ⟨0, false, 0, false⟩

/-- The poke that goes out in a round, after some others. -/
def pokeAt (config : Config) (past : List Beat) (beat : Beat) : Option Poke :=
  ((run config past).beat config beat).2

end Loop

section Meaning

/-- The tick ends without an error and its box has internet: so its relays, the hosts of the map,
and its push servers answer. -/
structure Tick.Sees (tick : Tick) (relays servers : List Bool) : Prop where
  answers : tick.relays = some relays
  serves : tick.servers = some servers
  read : tick.map = none → relays ≠ []
  internet : true ∈ tick.controls

/-- Every relay and the primary push server answer. -/
def Tick.Calm (tick : Tick) : Prop :=
  ∃ relays servers, tick.Sees relays servers ∧ false ∉ relays ∧ servers.head? ≠ some false

/-- A relay or the primary push server does not answer. -/
def Tick.Trouble (tick : Tick) : Prop :=
  ∃ relays servers, tick.Sees relays servers ∧ (false ∈ relays ∨ servers.head? = some false)

/-- A tick that dies counts as a failed one. -/
def Beat.Trouble (beat : Beat) : Prop := ∀ tick, beat.tick = some tick → tick.Trouble

def Beat.Calm (beat : Beat) : Prop := ∃ tick, beat.tick = some tick ∧ tick.Calm

/-- The last rounds before this one and this one are failed ones, as many as confirm it. -/
def Confirmed (config : Config) (past : List Beat) (beat : Beat) : Prop :=
  ∃ recent, recent <:+ past ∧ config.confirmFails ≤ recent.length + 1 ∧
    ∀ other ∈ recent ++ [beat], other.Trouble

/-- A round pokes for triage, and the poke lands. -/
def Wakes (config : Config) (past : List Beat) (beat : Beat) : Prop :=
  beat.lands = true ∧ pokeAt config past beat = some .triage

/-- The last poke for triage landed at this time, and nothing has been calm since. -/
def Woken (config : Config) (past : List Beat) (at_ : Int) : Prop :=
  ∃ n beat, past[n]? = some beat ∧ beat.now = at_ ∧ Wakes config (past.take n) beat ∧
    ∀ m later, n < m → past[m]? = some later → ¬ later.Calm ∧ ¬ Wakes config (past.take m) later

end Meaning

section Verdicts
variable {tick : Tick} {relays servers : List Bool}

theorem controls_off : tick.controls.all (! ·) = true ↔ true ∉ tick.controls := by
  simp only [List.all_eq_true, Bool.not_eq_true']
  constructor
  · intro off member
    cases off true member
  · intro none control member
    cases control with
    | true => exact absurd member none
    | false => rfl

theorem Tick.Sees.unique {relays' servers' : List Bool} (sees : tick.Sees relays servers)
    (again : tick.Sees relays' servers') : relays' = relays ∧ servers' = servers :=
  ⟨Option.some.inj (again.answers.symm.trans sees.answers),
    Option.some.inj (again.serves.symm.trans sees.serves)⟩

theorem verdict_blind (blind : ¬ ∃ relays servers, tick.Sees relays servers) :
    tick.verdict = .tickError ∨ tick.verdict = .macOffline ∨ tick.verdict = .mapUnreachable := by
  rw [Tick.verdict]
  cases listed : tick.relays with
  | none => exact .inl rfl
  | some relays =>
      cases answered : tick.servers with
      | none => exact .inl rfl
      | some servers =>
          simp only [controls_off]
          by_cases internet : true ∈ tick.controls
          · have empty : tick.map = none ∧ relays = [] := by
              by_contra named
              exact blind ⟨relays, servers, listed, answered,
                fun gone empty => named ⟨gone, empty⟩, internet⟩
            simp [internet, empty]
          · simp [internet]

theorem verdict_seen (sees : tick.Sees relays servers) :
    (false ∉ relays ∧ servers.head? ≠ some false →
      tick.verdict = .ok ∨ tick.verdict = .pushDegraded) ∧
    (¬ (false ∉ relays ∧ servers.head? ≠ some false) →
      tick.verdict = .pushUnreachable ∨ tick.verdict = .allRelaysUnreachable ∨
        tick.verdict = .someRelaysUnreachable) := by
  have named : ¬ (tick.map.isNone = true ∧ relays.length = 0) := by
    rintro ⟨gone, empty⟩
    exact sees.read (by simpa using gone) (by simpa using empty)
  have fine : false ∉ relays ↔ (relays.filter (! ·)).length = 0 := by
    rw [List.length_eq_zero_iff, List.filter_eq_nil_iff]
    simp
  rw [Tick.verdict, sees.answers, sees.serves, fine]
  simp only [controls_off, sees.internet, not_true_eq_false, if_false, named]
  generalize (relays.filter (! ·)).length = failed
  by_cases none : failed = 0
  · by_cases primary : servers.head? = some false
    · simp [none, primary]
    · simp only [none, primary, ne_eq, not_false_eq_true, and_self, not_true_eq_false, if_true,
        if_false, false_implies, and_true, true_implies]
      split
      · exact .inr rfl
      · exact .inl rfl
  · simp only [none, false_and, not_false_eq_true, if_false, false_implies, true_and, true_implies]
    split
    · exact .inr (.inl rfl)
    · exact .inr (.inr rfl)

-- Every tick is calm, troubled or blind, and its verdict tells which.
theorem verdict_cases (tick : Tick) :
    tick.Calm ∧ ¬ tick.Trouble ∧ (tick.verdict = .ok ∨ tick.verdict = .pushDegraded) ∨
      tick.Trouble ∧ ¬ tick.Calm ∧ (tick.verdict = .pushUnreachable ∨
        tick.verdict = .allRelaysUnreachable ∨ tick.verdict = .someRelaysUnreachable) ∨
      ¬ tick.Calm ∧ ¬ tick.Trouble ∧ (tick.verdict = .tickError ∨ tick.verdict = .macOffline ∨
        tick.verdict = .mapUnreachable) := by
  by_cases seen : ∃ relays servers, tick.Sees relays servers
  · obtain ⟨relays, servers, sees⟩ := seen
    have told := verdict_seen sees
    have calm : tick.Calm ↔ false ∉ relays ∧ servers.head? ≠ some false := by
      constructor
      · rintro ⟨_, _, again, fine⟩
        obtain ⟨rfl, rfl⟩ := sees.unique again
        exact fine
      · exact fun fine => ⟨relays, servers, sees, fine⟩
    have trouble : tick.Trouble ↔ ¬ (false ∉ relays ∧ servers.head? ≠ some false) := by
      rw [not_and_or, not_not, ne_eq, not_not]
      constructor
      · rintro ⟨_, _, again, away⟩
        obtain ⟨rfl, rfl⟩ := sees.unique again
        exact away
      · exact fun away => ⟨relays, servers, sees, away⟩
    rw [calm, trouble, not_not]
    by_cases fine : false ∉ relays ∧ servers.head? ≠ some false
    · exact .inl ⟨fine, fine, told.1 fine⟩
    · exact .inr (.inl ⟨fine, fine, told.2 fine⟩)
  · refine .inr (.inr ⟨?_, ?_, verdict_blind seen⟩)
    · rintro ⟨relays, servers, sees, _⟩
      exact seen ⟨relays, servers, sees⟩
    · rintro ⟨relays, servers, sees, _⟩
      exact seen ⟨relays, servers, sees⟩

end Verdicts

section Pokes
variable {config : Config} {past : List Beat} {beat : Beat} {watch : Watch}

theorem beat_cases (config : Config) (watch : Watch) (beat : Beat) :
    (beat.Calm ∧ ¬ beat.Trouble ∧ ∃ offline, watch.beat config beat =
      (⟨0, false, watch.lastPoke, offline⟩, if watch.incident then some .resolved else none)) ∨
    (¬ beat.Calm ∧ ¬ beat.Trouble ∧ watch.beat config beat =
      (⟨0, watch.incident, watch.lastPoke, true⟩, none)) ∨
    (¬ beat.Calm ∧ beat.Trouble ∧ watch.beat config beat = watch.fail config beat) := by
  cases ran : beat.tick with
  | none =>
      refine .inr (.inr ⟨?_, ?_, by rw [Watch.beat, ran]; rfl⟩)
      · rintro ⟨tick, found, _⟩
        rw [ran] at found
        cases found
      · intro tick found
        rw [ran] at found
        cases found
  | some tick =>
      have calm : beat.Calm ↔ tick.Calm := by simp [Beat.Calm, ran]
      have trouble : beat.Trouble ↔ tick.Trouble := by simp [Beat.Trouble, ran]
      rw [calm, trouble, Watch.beat, ran, Option.map_some]
      rcases verdict_cases tick with ⟨is, isNot, told⟩ | ⟨is, isNot, told⟩ | ⟨isNot, nor, told⟩
      · refine .inl ⟨is, isNot, ?_⟩
        rcases told with told | told
        · exact ⟨false, by rw [told]; rfl⟩
        · exact ⟨watch.offline, by rw [told]; rfl⟩
      · refine .inr (.inr ⟨isNot, is, ?_⟩)
        rcases told with told | told | told <;> rw [told]
      · refine .inr (.inl ⟨isNot, nor, ?_⟩)
        rcases told with told | told | told <;> rw [told]

theorem run_snoc : run config (past ++ [beat]) = ((run config past).beat config beat).1 := by
  rw [run, run, List.foldl_append, List.foldl_cons, List.foldl_nil]

-- After one more round the last landed poke is that of the round, or one of before, if the
-- round was not calm.
theorem woken_snoc {at_ : Int} : Woken config (past ++ [beat]) at_ ↔
    beat.now = at_ ∧ Wakes config past beat ∨
      Woken config past at_ ∧ ¬ beat.Calm ∧ ¬ Wakes config past beat := by
  have here : (past ++ [beat])[past.length]? = some beat := List.getElem?_concat_length
  have whole : (past ++ [beat]).take past.length = past := List.take_left
  have before : ∀ {n : Nat} {other : Beat}, past[n]? = some other → n < past.length ∧
      (past ++ [beat])[n]? = some other ∧ (past ++ [beat]).take n = past.take n := by
    intro n other found
    have inside := (List.getElem?_eq_some_iff.mp found).1
    exact ⟨inside, (List.getElem?_append_left inside).trans found,
      List.take_append_of_le_length inside.le⟩
  have cases_ : ∀ {n : Nat} {other : Beat}, (past ++ [beat])[n]? = some other →
      n = past.length ∧ other = beat ∨ past[n]? = some other := by
    intro n other found
    rcases lt_or_ge n past.length with inside | after
    · exact .inr ((List.getElem?_append_left inside).symm.trans found)
    · rw [List.getElem?_append_right after, List.getElem?_singleton,
        Option.ite_none_right_eq_some, Option.some.injEq] at found
      exact .inl ⟨by omega, found.2.symm⟩
  constructor
  · rintro ⟨n, other, found, time, wakes, last⟩
    rcases cases_ found with ⟨rfl, rfl⟩ | old
    · exact .inl ⟨time, whole ▸ wakes⟩
    · obtain ⟨inside, _, same⟩ := before old
      refine .inr ⟨⟨n, other, old, time, same ▸ wakes, ?_⟩, whole ▸ last _ _ inside here⟩
      intro m later after found
      obtain ⟨_, still, same⟩ := before found
      exact same ▸ last m later after still
  · rintro (⟨time, wakes⟩ | ⟨⟨n, other, old, time, wakes, last⟩, quiet⟩)
    · refine ⟨past.length, beat, here, time, whole.symm ▸ wakes, ?_⟩
      intro m later after found
      have inside := (List.getElem?_eq_some_iff.mp found).1
      rw [List.length_append, List.length_singleton] at inside
      omega
    · obtain ⟨_, still, same⟩ := before old
      refine ⟨n, other, still, time, same.symm ▸ wakes, ?_⟩
      intro m later after found
      rcases cases_ found with ⟨rfl, rfl⟩ | kept
      · exact whole.symm ▸ quiet
      · obtain ⟨_, _, same⟩ := before kept
        exact same.symm ▸ last m later after kept

/-- The last rounds, of some number, all failed. -/
def Failing (past : List Beat) (n : Nat) : Prop :=
  ∃ recent, recent <:+ past ∧ recent.length = n ∧ ∀ other ∈ recent, other.Trouble

theorem failing_zero : Failing past 0 :=
  ⟨[], List.nil_suffix, rfl, fun _ member => absurd member List.not_mem_nil⟩

theorem failing_snoc {n : Nat} : Failing (past ++ [beat]) (n + 1) ↔ beat.Trouble ∧ Failing past n := by
  constructor
  · rintro ⟨recent, ends, length, failed⟩
    rcases List.suffix_concat_iff.mp ends with rfl | ⟨others, rfl, inner⟩
    · cases length
    · rw [List.length_append, List.length_singleton] at length
      exact ⟨failed beat (by simp), others, inner, by omega,
        fun other member => failed other (List.mem_append_left _ member)⟩
  · rintro ⟨here, recent, ends, length, failed⟩
    refine ⟨recent ++ [beat], List.suffix_concat_iff.mpr (.inr ⟨recent, rfl, ends⟩), by simp [length], ?_⟩
    intro other member
    rcases List.mem_append.mp member with before | last
    · exact failed other before
    · rw [List.mem_singleton.mp last]
      exact here

/-- A failed round pokes when it is confirmed and none was poked in time. -/
def Watch.Due (config : Config) (watch : Watch) (beat : Beat) : Prop :=
  config.confirmFails ≤ watch.fails + 1 ∧
    (watch.incident = false ∨ config.repokeSeconds ≤ beat.now - watch.lastPoke)

theorem fail_cases (config : Config) (watch : Watch) (beat : Beat) :
    (watch.fail config beat).1.fails = watch.fails + 1 ∧
    ((watch.Due config beat ∧ (watch.fail config beat).2 = some .triage ∧
        (if beat.lands then (watch.fail config beat).1.incident = true ∧
            (watch.fail config beat).1.lastPoke = beat.now
          else (watch.fail config beat).1.incident = watch.incident ∧
            (watch.fail config beat).1.lastPoke = watch.lastPoke)) ∨
      (¬ watch.Due config beat ∧ (watch.fail config beat).2 = none ∧
        (watch.fail config beat).1.incident = watch.incident ∧
        (watch.fail config beat).1.lastPoke = watch.lastPoke)) := by
  rw [Watch.fail]
  by_cases early : watch.fails + 1 < config.confirmFails
  · rw [if_pos early]
    exact ⟨rfl, .inr ⟨fun due => absurd due.1 (not_le.mpr early), rfl, rfl, rfl⟩⟩
  · rw [if_neg early]
    by_cases open_ : watch.incident = false ∨ beat.now - watch.lastPoke ≥ config.repokeSeconds
    · rw [if_pos open_]
      cases beat.lands with
      | true => exact ⟨rfl, .inl ⟨⟨not_lt.mp early, open_⟩, rfl, rfl, rfl⟩⟩
      | false => exact ⟨rfl, .inl ⟨⟨not_lt.mp early, open_⟩, rfl, rfl, rfl⟩⟩
    · rw [if_neg open_]
      exact ⟨rfl, .inr ⟨fun due => open_ due.2, rfl, rfl, rfl⟩⟩

/-- What the loop knows of the rounds so far. -/
structure Tracks (config : Config) (past : List Beat) (watch : Watch) : Prop where
  failing : ∀ n, Failing past n ↔ n ≤ watch.fails
  woken : ∀ at_, Woken config past at_ ↔ watch.incident = true ∧ watch.lastPoke = at_

theorem failing_over (quiet : ¬ beat.Trouble) (n : Nat) : Failing (past ++ [beat]) n ↔ n ≤ 0 := by
  cases n with
  | zero => exact ⟨fun _ => le_refl _, fun _ => failing_zero⟩
  | succ n =>
      rw [failing_snoc]
      exact ⟨fun failed => absurd failed.1 quiet, fun none => absurd none (by omega)⟩

theorem tracks_run (config : Config) (past : List Beat) : Tracks config past (run config past) := by
  induction past using List.reverseRecOn with
  | nil =>
      refine ⟨fun n => ?_, fun at_ => ?_⟩
      · cases n with
        | zero => exact ⟨fun _ => le_refl _, fun _ => failing_zero⟩
        | succ n =>
            refine ⟨?_, fun none => absurd none (by simp [run])⟩
            rintro ⟨recent, ends, length, _⟩
            rw [List.suffix_nil.mp ends] at length
            cases length
      · refine ⟨?_, fun woken => absurd woken.1 (by simp [run])⟩
        rintro ⟨n, beat, found, _⟩
        cases found
  | append_singleton past beat ih =>
      rw [run_snoc]
      rcases beat_cases config (run config past) beat with
        ⟨calm, quiet, offline, same⟩ | ⟨loud, quiet, same⟩ | ⟨loud, failed, same⟩
      · have idle : ¬ Wakes config past beat := by
          rintro ⟨_, poked⟩
          rw [pokeAt, same] at poked
          dsimp only at poked
          split at poked <;> cases poked
        refine ⟨fun n => ?_, fun at_ => ?_⟩
        · rw [failing_over quiet, same]
        · rw [woken_snoc, same]
          simp [calm, idle]
      · have idle : ¬ Wakes config past beat := by
          rintro ⟨_, poked⟩
          rw [pokeAt, same] at poked
          cases poked
        refine ⟨fun n => ?_, fun at_ => ?_⟩
        · rw [failing_over quiet, same]
        · rw [woken_snoc, ih.woken, same]
          simp [loud, idle]
      · obtain ⟨fails, poked⟩ := fail_cases config (run config past) beat
        rw [same]
        refine ⟨fun n => ?_, fun at_ => ?_⟩
        · rw [fails]
          cases n with
          | zero => exact ⟨fun _ => Nat.zero_le _, fun _ => failing_zero⟩
          | succ n =>
              rw [failing_snoc, ih.failing]
              exact ⟨fun failed => Nat.succ_le_succ failed.2, fun below => ⟨failed, Nat.le_of_succ_le_succ below⟩⟩
        · have wakes : Wakes config past beat ↔
              beat.lands = true ∧ ((run config past).fail config beat).2 = some .triage := by
            rw [Wakes, pokeAt, same]
          rw [woken_snoc, ih.woken, wakes]
          rcases poked with ⟨_, told, after⟩ | ⟨_, told, incident, last⟩
          · rw [told]
            cases landed : beat.lands with
            | true =>
                rw [landed, if_pos rfl] at after
                simp [after]
            | false =>
                rw [landed, if_neg (by simp)] at after
                simp [after, loud]
          · rw [told, incident, last]
            simp [loud]

/-- A round pokes for triage exactly when it and enough rounds before it have failed, and none of
the pokes that landed since the last calm is newer than the time between two of them; and it pokes
that all is well exactly when it is calm and a poke for triage has landed since the last calm. -/
theorem pokes_exact (config : Config) (past : List Beat) (beat : Beat) :
    (pokeAt config past beat = some .triage ↔ Confirmed config past beat ∧
      ∀ at_, Woken config past at_ → config.repokeSeconds ≤ beat.now - at_) ∧
    (pokeAt config past beat = some .resolved ↔ beat.Calm ∧ ∃ at_, Woken config past at_) := by
  have tracks := tracks_run config past
  have woken : (∃ at_, Woken config past at_) ↔ (run config past).incident = true := by
    simp [tracks.woken]
  have confirmed : Confirmed config past beat ↔
      beat.Trouble ∧ config.confirmFails ≤ (run config past).fails + 1 := by
    constructor
    · rintro ⟨recent, ends, enough, failed⟩
      have few := (tracks.failing recent.length).mp ⟨recent, ends, rfl, fun other member =>
        failed other (List.mem_append_left _ member)⟩
      exact ⟨failed beat (by simp), by omega⟩
    · rintro ⟨here, enough⟩
      obtain ⟨recent, ends, length, failed⟩ := (tracks.failing _).mpr (le_refl _)
      refine ⟨recent, ends, by omega, ?_⟩
      intro other member
      rcases List.mem_append.mp member with before | last
      · exact failed other before
      · rw [List.mem_singleton.mp last]
        exact here
  have due : beat.Trouble ∧ (run config past).Due config beat ↔ Confirmed config past beat ∧
      ∀ at_, Woken config past at_ → config.repokeSeconds ≤ beat.now - at_ := by
    rw [confirmed, Watch.Due, and_assoc]
    refine and_congr_right fun _ => and_congr_right fun _ => ?_
    simp only [tracks.woken, and_imp]
    cases (run config past).incident with
    | true => simp
    | false => simp
  rw [← due, woken, pokeAt]
  rcases beat_cases config (run config past) beat with
    ⟨calm, quiet, offline, same⟩ | ⟨loud, quiet, same⟩ | ⟨loud, failed, same⟩
  · rw [same]
    cases (run config past).incident with
    | true => simp [calm, quiet]
    | false => simp [quiet]
  · simp [same, loud, quiet]
  · rw [same]
    obtain ⟨_, ⟨ripe, told, _⟩ | ⟨early, told, _⟩⟩ := fail_cases config (run config past) beat
    · simp [told, loud, failed, ripe]
    · simp [told, loud, early]

end Pokes

end Relay.Watcher
