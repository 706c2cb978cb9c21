import CompanionRelay.ClientIp
import CompanionRelay.Exposition

/-!
The two readers of a relay's metrics text: parseRelayMetrics of monitor/src/monitor.js and
parseMetrics of dashboard/parse.js. Both go line by line; a line that the relay writes is read by
both as the sample that it was written for, and its comments by neither.
-/

namespace Relay.Exposition

open ClientIp (strip isBlank)
open Function (update)

section Monitor

def nameChar (char : Char) : Bool :=
  ('a' ≤ char && char ≤ 'z') || ('0' ≤ char && char ≤ '9') || char == '_'

/-- What is behind the labels, if there are any. -/
def skipLabels (text : Text) : Text :=
  match text with
  | '{' :: inner => if '}' ∈ inner then (inner.dropWhile (· ≠ '}')).drop 1 else text
  | _ => text

/-- The regular expression of parseRelayMetrics: the name and the text of the value. A shorter
name would be followed by one of its own characters, so only the longest can match. -/
def matchRelay (line : Text) : Option (Text × Text) :=
  if "relay_".toList.isPrefixOf line then
    let name := (line.drop 6).takeWhile nameChar
    let rest := skipLabels ((line.drop 6).dropWhile nameChar)
    let value := (rest.dropWhile isBlank).takeWhile (!isBlank ·)
    if name ≠ [] ∧ rest.dropWhile isBlank ≠ rest ∧ value ≠ [] then some (name, value) else none
  else none

def relayPoint (runtime : Runtime) (line : Text) : Option (Text × Rat) :=
  match matchRelay (strip isBlank line) with
  | none => none
  | some (name, value) =>
      if lifetimeName.isPrefixOf name then none
      else (runtime.number value).map fun number => (name, number)

def addPoint (out : OrderedMap Text Rat) (point : Text × Rat) : OrderedMap Text Rat :=
  out.set point.1 ((out.get? point.1).getD 0 + point.2)

/-- None is the error of a text without relay series. -/
def parseRelayMetrics (runtime : Runtime) (text : Text) : Option (OrderedMap Text Rat) :=
  let out := ((text.splitOn '\n').filterMap (relayPoint runtime)).foldl addPoint .empty
  if out.entries = [] then none else some out

end Monitor

section Dashboard

/-- The fields of a parsed scrape. -/
inductive Field
  | wsUpgrades
  | wsRejected
  | httpRequests
  | httpErrors
  | exceptions
  | pushErrors
  | quotaExceeded
  | roomsLive
  | socketsLive
  | roomsBoth
  | roomsMacOnly
  | roomsPhoneOnly
  | lifeSum
  | lifeCount
  | shardReject
  | shardMapReloads
  | shardMapFetchErrors
  | shardMapVersion
  | shardOwnedBuckets
  | shardDrainingBuckets
  | lifeLe (bound : Nat)
  deriving DecidableEq

/-- PLAIN -/
def plainFields : List (String × Field) :=
  [("relay_ws_upgrades_total", .wsUpgrades),
    ("relay_http_requests_total", .httpRequests),
    ("relay_http_errors_total", .httpErrors),
    ("relay_process_exceptions_total", .exceptions),
    ("relay_metrics_push_errors_total", .pushErrors),
    ("relay_quota_exceeded_total", .quotaExceeded),
    ("relay_rooms_live", .roomsLive),
    ("relay_sockets_live", .socketsLive),
    ("relay_rooms_both", .roomsBoth),
    ("relay_rooms_mac_only", .roomsMacOnly),
    ("relay_rooms_phone_only", .roomsPhoneOnly),
    ("relay_socket_lifetime_seconds_sum", .lifeSum),
    ("relay_socket_lifetime_seconds_count", .lifeCount),
    ("relay_shard_reject_total", .shardReject),
    ("relay_shard_map_reloads_total", .shardMapReloads),
    ("relay_shard_map_fetch_errors_total", .shardMapFetchErrors),
    ("relay_shard_map_version", .shardMapVersion),
    ("relay_shard_owned_buckets", .shardOwnedBuckets),
    ("relay_shard_draining_buckets", .shardDrainingBuckets)]

/-- LIFE_BUCKETS, each behind the text of its number. -/
def lifeBuckets : List (Text × Nat) :=
  [("1".toList, 1), ("5".toList, 5), ("15".toList, 15), ("60".toList, 60), ("300".toList, 300),
    ("1800".toList, 1800)]

/-- A line that parseLine reads; the value is none where it is not finite. -/
structure Parsed where
  name : Text
  labels : Text
  value : Option Rat

def parseLine (runtime : Runtime) (line : Text) : Option Parsed :=
  let s := strip isBlank line
  if s = [] ∨ s.head? = some '#' then none
  else if '{' ∈ s then
    let rest := (s.dropWhile (· ≠ '{')).drop 1
    if '}' ∈ rest then
      some ⟨s.takeWhile (· ≠ '{'), rest.takeWhile (· ≠ '}'),
        runtime.number (strip isBlank ((rest.dropWhile (· ≠ '}')).drop 1))⟩
    else none
  else if ' ' ∈ s then
    some ⟨s.takeWhile (· ≠ ' '), [],
      runtime.number (strip isBlank ((s.dropWhile (· ≠ ' ')).drop 1))⟩
  else none

/-- The first `key="value"` of the labels. -/
def label (key : Text) : Text → Option Text
  | [] => none
  | char :: rest =>
      let value := (char :: rest).drop (key.length + 2)
      if (key ++ "=\"".toList).isPrefixOf (char :: rest) ∧ '"' ∈ value
        then some (value.takeWhile (· ≠ '"')) else label key rest

/-- The field that a line is for, and what it makes of the field: the reasons of the rejections are
summed, any other value is set. The bucket +Inf repeats life_count. -/
def effect (parsed : Parsed) (value : Rat) : Option (Field × (Rat → Rat)) :=
  match plainFields.lookup (String.ofList parsed.name) with
  | some field => some (field, fun _ => value)
  | none =>
      if parsed.name = "relay_ws_upgrades_rejected_total".toList then
        some (.wsRejected, fun total => total + value)
      else if parsed.name = "relay_socket_lifetime_seconds_bucket".toList then
        ((label "le".toList parsed.labels).bind (lifeBuckets.lookup ·)).map fun bound =>
          (.lifeLe bound, fun _ => value)
      else none

def addLine (runtime : Runtime) (out : Field → Rat) (line : Text) : Field → Rat :=
  match parseLine runtime line with
  | none => out
  | some parsed =>
      match parsed.value.bind (effect parsed) with
      | none => out
      | some (field, change) => update out field (change (out field))

/-- No map is the version -1. -/
def unset : Field → Rat
  | .shardMapVersion => -1
  | _ => 0

def parseMetrics (runtime : Runtime) (text : Text) : Field → Rat :=
  (text.splitOn '\n').foldl (addLine runtime) unset

end Dashboard

section Lines
variable {runtime : Runtime} {sample : Sample} {char : Char} {text rest : Text}

/-- A number that is printed as one and reads back. -/
structure Runtime.Exact (runtime : Runtime) (value : Rat) : Prop where
  digits : ∀ char ∈ runtime.print value, char ∈ "+-.0123456789e".toList
  written : runtime.print value ≠ []
  reads : runtime.number (runtime.print value) = some value

/-- A sample whose parts have no character that stands between them. -/
structure Sample.Fine (runtime : Runtime) (sample : Sample) : Prop where
  named : sample.name ≠ []
  name : ∀ char ∈ sample.name, nameChar char = true
  label : ∀ key value, sample.label = some (key, value) →
    ∀ char ∈ key ++ value, char ∉ ['{', '}', '"', '\n']
  value : runtime.Exact sample.value

/-- The raw labels of a sample. -/
def Sample.labels (sample : Sample) : Text :=
  match sample.label with
  | none => []
  | some (key, value) => key ++ "=\"".toList ++ value ++ ['"']

theorem forall_of_all {holds : Char → Prop} [DecidablePred holds]
    (every : text.all (fun char => decide (holds char)) = true) : ∀ char ∈ text, holds char := by
  simpa using every

theorem nameChar_plain (named : nameChar char = true) :
    isBlank char = false ∧ char ∉ ['{', '}', '#', '\n', ' '] := by
  have bounds : (97 ≤ char.toNat ∧ char.toNat ≤ 122) ∨ (48 ≤ char.toNat ∧ char.toNat ≤ 57) ∨
      char.toNat = 95 := by
    simp only [nameChar, Bool.or_eq_true, Bool.and_eq_true, decide_eq_true_eq, beq_iff_eq] at named
    rcases named with (⟨low, high⟩ | ⟨low, high⟩) | rfl
    · exact .inl ⟨low, high⟩
    · exact .inr (.inl ⟨low, high⟩)
    · exact .inr (.inr rfl)
  constructor
  · rw [Bool.eq_false_iff]
    intro blank
    simp only [isBlank, List.mem_cons, List.not_mem_nil, or_false, Bool.or_eq_true,
      Bool.and_eq_true, decide_eq_true_eq] at blank
    omega
  · have apart : ∀ other ∈ ['{', '}', '#', '\n', ' '], ¬ ((97 ≤ other.toNat ∧ other.toNat ≤ 122) ∨
        (48 ≤ other.toNat ∧ other.toNat ≤ 57) ∨ other.toNat = 95) := forall_of_all (by decide)
    exact fun member => apart char member bounds

theorem printed_plain (exact : runtime.Exact sample.value) :
    ∀ char ∈ runtime.print sample.value, isBlank char = false ∧ char ∉ ['{', '}', '\n', ' '] := by
  have every : ∀ char ∈ "+-.0123456789e".toList,
      isBlank char = false ∧ char ∉ ['{', '}', '\n', ' '] := forall_of_all (by decide)
  exact fun char member => every char (exact.digits char member)

theorem labelText_eq (sample : Sample) : sample.labelText = [] ∧ sample.labels = [] ∧ sample.label = none ∨
    sample.labelText = '{' :: sample.labels ++ ['}'] ∧ sample.label ≠ none := by
  unfold Sample.labelText Sample.labels
  cases sample.label with
  | none => exact .inl ⟨rfl, rfl, rfl⟩
  | some label => exact .inr ⟨by simp, Option.some_ne_none label⟩

theorem Sample.Fine.labels (fine : sample.Fine runtime) :
    ∀ char ∈ sample.labels, char ∉ ['{', '}', '\n'] := by
  unfold Sample.labels
  cases label : sample.label with
  | none => simp
  | some pair =>
      obtain ⟨key, value⟩ := pair
      have plain := fine.label key value label
      intro char member
      simp only [List.mem_append, List.mem_singleton] at member
      rcases member with ((inside | quoted) | inside) | rfl
      · have apart := plain char (List.mem_append_left _ inside)
        simp_all
      · have plain : ∀ char ∈ "=\"".toList, char ∉ ['{', '}', '\n'] :=
          forall_of_all (by decide)
        exact plain char quoted
      · have apart := plain char (List.mem_append_right _ inside)
        simp_all
      · decide

theorem strip_framed {first last : Char} (middle : Text) (before : isBlank first = false)
    (after : isBlank last = false) :
    strip isBlank (first :: middle ++ [last]) = first :: middle ++ [last] := by
  rw [strip, List.cons_append, List.dropWhile_cons_of_neg (by simp [before]),
    ← List.cons_append, List.rdropWhile_concat_neg _ _ _ (by simp [after])]

theorem relay_cons : "relay_".toList = 'r' :: "elay_".toList := by decide

theorem text_sample : Line.text runtime (.sample sample) =
    "relay_".toList ++ sample.name ++ sample.labelText ++ ' ' :: runtime.print sample.value := rfl

theorem strip_sample (fine : sample.Fine runtime) :
    strip isBlank (Line.text runtime (.sample sample)) = Line.text runtime (.sample sample) := by
  obtain ⟨init, last, ends⟩ := (List.eq_nil_or_concat (runtime.print sample.value)).resolve_left
    fine.value.written
  have plain : isBlank last = false := (printed_plain fine.value last (by simp [ends])).1
  have framed : ∃ middle, Line.text runtime (.sample sample) = 'r' :: middle ++ [last] := by
    refine ⟨"elay_".toList ++ sample.name ++ sample.labelText ++ ' ' :: init, ?_⟩
    rw [text_sample, ends, relay_cons]
    generalize "elay_".toList = name
    simp only [List.cons_append, List.append_assoc, List.concat_eq_append]
  obtain ⟨middle, framed⟩ := framed
  rw [framed]
  exact strip_framed middle (by decide) plain

theorem takeWhile_stops {goes : Char → Bool} {front : Text} (stop : Char) (rest : Text)
    (on : ∀ char ∈ front, goes char = true) (ends : goes stop = false) :
    (front ++ stop :: rest).takeWhile goes = front ∧
      (front ++ stop :: rest).dropWhile goes = stop :: rest := by
  rw [List.takeWhile_append_of_pos on, List.dropWhile_append_of_pos on,
    List.takeWhile_cons_of_neg (by simp [ends]), List.dropWhile_cons_of_neg (by simp [ends])]
  exact ⟨List.append_nil _, rfl⟩

theorem before_stop {front : Text} (stop : Char) (rest : Text) (plain : stop ∉ front) :
    (front ++ stop :: rest).takeWhile (· ≠ stop) = front ∧
      (front ++ stop :: rest).dropWhile (· ≠ stop) = stop :: rest := by
  refine takeWhile_stops stop rest ?_ (by simp)
  intro char member
  rw [decide_eq_true_eq]
  rintro rfl
  exact plain member

theorem labelText_head (sample : Sample) (rest : Text) : ∃ stop tail, sample.labelText ++ ' ' :: rest = stop :: tail ∧
    nameChar stop = false := by
  rcases labelText_eq sample with ⟨text, _⟩ | ⟨text, _⟩
  · exact ⟨' ', rest, by rw [text, List.nil_append], by decide⟩
  · exact ⟨'{', _, by rw [text]; rfl, by decide⟩

theorem skip_labels (fine : sample.Fine runtime) (rest : Text) :
    skipLabels (sample.labelText ++ ' ' :: rest) = ' ' :: rest := by
  rcases labelText_eq sample with ⟨text, _⟩ | ⟨text, _⟩
  · rw [text]
    rfl
  · have inner : '}' ∉ sample.labels := fun member => fine.labels '}' member (by decide)
    have closes := before_stop '}' (' ' :: rest) inner
    rw [text]
    simp only [List.cons_append, List.append_assoc, List.nil_append, skipLabels]
    rw [if_pos (by simp), closes.2]
    rfl

-- The regular expression finds in a line the name and the value of its sample.
theorem match_sample (fine : sample.Fine runtime) :
    matchRelay (Line.text runtime (.sample sample)) =
      some (sample.name, runtime.print sample.value) := by
  obtain ⟨stop, tail, next, apart⟩ := labelText_head sample (runtime.print sample.value)
  have named := takeWhile_stops stop tail fine.name apart
  have skipped := skip_labels fine (runtime.print sample.value)
  rw [next] at skipped
  have plain : ∀ char ∈ runtime.print sample.value, (!isBlank char) = true := by
    intro char member
    simp [(printed_plain fine.value char member).1]
  have text : Line.text runtime (.sample sample) = "relay_".toList ++ (sample.name ++ stop :: tail) := by
    rw [text_sample, List.append_assoc, List.append_assoc, next]
  have begins : "relay_".toList.isPrefixOf (Line.text runtime (.sample sample)) = true := by
    rw [text, List.isPrefixOf_iff_prefix]
    exact List.prefix_append ..
  have rest : (Line.text runtime (.sample sample)).drop 6 = sample.name ++ stop :: tail := by
    rw [text]
    exact List.drop_left' rfl
  have blank : (' ' :: runtime.print sample.value).dropWhile isBlank = runtime.print sample.value := by
    rw [List.dropWhile_cons_of_pos (by decide), List.dropWhile_eq_self_iff]
    intro written
    simpa using plain _ (List.getElem_mem written)
  have value : (runtime.print sample.value).takeWhile (!isBlank ·) = runtime.print sample.value :=
    List.takeWhile_eq_self_iff.mpr plain
  unfold matchRelay
  simp only [begins, if_true, rest, named.1, named.2, skipped, blank, value]
  rw [if_pos ⟨fine.named, List.ne_cons_self, fine.value.written⟩]

theorem relayPoint_sample (fine : sample.Fine runtime) :
    relayPoint runtime (Line.text runtime (.sample sample)) =
      if lifetimeName.isPrefixOf sample.name then none else some (sample.name, sample.value) := by
  rw [relayPoint, strip_sample fine, match_sample fine]
  simp only [fine.value.reads, Option.map_some]

theorem full_name (fine : sample.Fine runtime) :
    ∀ char ∈ "relay_".toList ++ sample.name, char ∉ ['{', ' ', '\n'] := by
  have relay : ∀ char ∈ "relay_".toList, nameChar char = true :=
    forall_of_all (by decide)
  intro char member
  have named : nameChar char = true := by
    rcases List.mem_append.mp member with inside | inside
    · exact relay char inside
    · exact fine.name char inside
  have plain := (nameChar_plain named).2
  simp_all

theorem starts_sample (runtime : Runtime) (sample : Sample) :
    ∃ rest, Line.text runtime (.sample sample) = 'r' :: rest := by
  rw [text_sample, relay_cons]
  exact ⟨_, rfl⟩

theorem parseLine_sample (fine : sample.Fine runtime) :
    parseLine runtime (Line.text runtime (.sample sample)) =
      some ⟨"relay_".toList ++ sample.name, sample.labels, some sample.value⟩ := by
  have front := full_name fine
  have printed := printed_plain fine.value
  have value : strip isBlank (runtime.print sample.value) = runtime.print sample.value :=
    ClientIp.strip_plain fun char member => (printed char member).1
  have spaced : strip isBlank (' ' :: runtime.print sample.value) = runtime.print sample.value := by
    rw [ClientIp.strip_cons (by decide), value]
  obtain ⟨_, starts⟩ := starts_sample runtime sample
  have written : ¬ (Line.text runtime (.sample sample) = [] ∨
      (Line.text runtime (.sample sample)).head? = some '#') := by
    rw [starts]
    simp
  unfold parseLine
  simp only [strip_sample fine, written, if_false]
  rcases labelText_eq sample with ⟨text, labels, _⟩ | ⟨text, _⟩
  -- Without labels there is no brace, and the name ends at the space.
  · have line : Line.text runtime (.sample sample) =
        "relay_".toList ++ sample.name ++ ' ' :: runtime.print sample.value := by
      rw [text_sample, text, List.append_nil]
    have plain : '{' ∉ Line.text runtime (.sample sample) := by
      intro member
      rw [line, List.mem_append, List.mem_cons] at member
      rcases member with inside | same | inside
      · exact front '{' inside (by decide)
      · exact absurd same (by decide)
      · exact (printed '{' inside).2 (by decide)
    have ends := before_stop ' ' (runtime.print sample.value) fun member => front ' ' member (by decide)
    rw [if_neg plain, line, if_pos (by simp), ends.1, ends.2, labels]
    simp only [List.drop_succ_cons, List.drop_zero, value, fine.value.reads]
  · have line : Line.text runtime (.sample sample) = "relay_".toList ++ sample.name ++
        '{' :: (sample.labels ++ '}' :: ' ' :: runtime.print sample.value) := by
      rw [text_sample, text]
      simp only [List.cons_append, List.append_assoc, List.nil_append]
    have opens := before_stop '{' (sample.labels ++ '}' :: ' ' :: runtime.print sample.value)
      fun member => front '{' member (by decide)
    have closes := before_stop '}' (' ' :: runtime.print sample.value)
      fun member => fine.labels '}' member (by decide)
    rw [line, if_pos (by simp), opens.1, opens.2]
    simp only [List.drop_succ_cons, List.drop_zero, closes.1, closes.2, spaced, fine.value.reads]
    rw [if_pos (by simp)]

theorem comment_unread (runtime : Runtime) (text : Text) :
    relayPoint runtime ('#' :: text) = none ∧ parseLine runtime ('#' :: text) = none := by
  obtain ⟨rest, starts⟩ : ∃ rest, strip isBlank ('#' :: text) = '#' :: rest := by
    rw [strip, List.dropWhile_cons_of_neg (by decide)]
    induction text using List.reverseRecOn with
    | nil => exact ⟨[], by decide⟩
    | append_singleton text last ih =>
        rw [← List.cons_append]
        by_cases blank : isBlank last = true
        · rw [List.rdropWhile_concat_pos _ _ _ blank]
          exact ih
        · rw [List.rdropWhile_concat_neg _ _ _ blank]
          exact ⟨text ++ [last], rfl⟩
  constructor
  · simp [relayPoint, starts, matchRelay]
  · simp [parseLine, starts]

theorem blank_unread (runtime : Runtime) :
    relayPoint runtime [] = none ∧ parseLine runtime [] = none := by
  have empty : strip isBlank [] = [] := by decide
  constructor
  · simp [relayPoint, empty, matchRelay]
  · simp [parseLine, empty]

theorem label_quoted {char : Char} {key value : Text} (plain : '"' ∉ value) :
    label (char :: key) (char :: key ++ "=\"".toList ++ value ++ ['"']) = some value := by
  have dropped : (char :: key ++ "=\"".toList ++ value ++ ['"']).drop ((char :: key).length + 2) =
      value ++ ['"'] := by
    rw [List.append_assoc]
    exact List.drop_left' (by simp)
  have ends := before_stop '"' [] plain
  simp only [List.cons_append] at dropped ⊢
  rw [label]
  simp only [dropped, ends.1]
  rw [if_pos (by simp)]

theorem newline_apart (fine : sample.Fine runtime) :
    '\n' ∉ Line.text runtime (.sample sample) := by
  intro member
  have labeled : '\n' ∉ sample.labelText := by
    rcases labelText_eq sample with ⟨text, _⟩ | ⟨text, _⟩
    · simp [text]
    · have inner : '\n' ∉ sample.labels := fun member => fine.labels '\n' member (by decide)
      simp [text, inner]
  rw [text_sample, List.mem_append, List.mem_append, List.mem_cons] at member
  rcases member with (inside | inside) | same | inside
  · exact full_name fine '\n' inside (by decide)
  · exact labeled inside
  · exact absurd same (by decide)
  · exact (printed_plain fine.value '\n' inside).2 (by decide)

end Lines

section Whole
variable {runtime : Runtime} {lines : List Line}

def Line.point : Line → Option Sample
  | .sample point => some point
  | _ => none

/-- A line that the readers tell apart from the others. -/
def Line.Clean (runtime : Runtime) : Line → Prop
  | .help name text => '\n' ∉ name ++ text
  | .type name kind => '\n' ∉ name ++ kind
  | .sample point => point.Fine runtime

theorem newline_outside {line : Line} (clean : line.Clean runtime) : '\n' ∉ line.text runtime := by
  have heads : '\n' ∉ "# HELP relay_".toList ∧ '\n' ∉ "# TYPE relay_".toList := by decide
  cases line with
  | help name text =>
      change '\n' ∉ "# HELP relay_".toList ++ name ++ ' ' :: text
      change '\n' ∉ name ++ text at clean
      simp only [List.mem_append, List.mem_cons, not_or] at clean ⊢
      exact ⟨⟨heads.1, clean.1⟩, by decide, clean.2⟩
  | type name kind =>
      change '\n' ∉ "# TYPE relay_".toList ++ name ++ ' ' :: kind
      change '\n' ∉ name ++ kind at clean
      simp only [List.mem_append, List.mem_cons, not_or] at clean ⊢
      exact ⟨⟨heads.2, clean.1⟩, by decide, clean.2⟩
  | sample point => exact newline_apart clean

theorem splitOn_lines (some_ : lines ≠ []) (clean : ∀ line ∈ lines, line.Clean runtime) :
    (['\n'].intercalate (lines.map (Line.text runtime)) ++ ['\n']).splitOn '\n' =
      lines.map (Line.text runtime) ++ [[]] := by
  have plain : ∀ text ∈ lines.map (Line.text runtime), '\n' ∉ text := by
    intro text member
    obtain ⟨line, inside, rfl⟩ := List.mem_map.mp member
    exact newline_outside (clean line inside)
  rw [List.splitOn_append_cons_self, List.splitOn_intercalate '\n' plain (by simpa using some_),
    List.splitOn_nil]

def pulled (sample : Sample) : Option (Text × Rat) :=
  if lifetimeName.isPrefixOf sample.name then none else some (sample.name, sample.value)

def charted (out : Field → Rat) (sample : Sample) : Field → Rat :=
  match effect ⟨"relay_".toList ++ sample.name, sample.labels, some sample.value⟩ sample.value with
  | none => out
  | some (field, change) => update out field (change (out field))

theorem comment_text (runtime : Runtime) {line : Line} (comment : line.point = none) :
    ∃ text, line.text runtime = '#' :: text := by
  have heads : "# HELP relay_".toList = '#' :: " HELP relay_".toList ∧
      "# TYPE relay_".toList = '#' :: " TYPE relay_".toList := by decide
  cases line with
  | help name text =>
      refine ⟨" HELP relay_".toList ++ name ++ ' ' :: text, ?_⟩
      change "# HELP relay_".toList ++ name ++ ' ' :: text = _
      rw [heads.1]
      rfl
  | type name kind =>
      refine ⟨" TYPE relay_".toList ++ name ++ ' ' :: kind, ?_⟩
      change "# TYPE relay_".toList ++ name ++ ' ' :: kind = _
      rw [heads.2]
      rfl
  | sample point => cases comment

theorem pulled_lines (clean : ∀ line ∈ lines, line.Clean runtime) :
    (lines.map (Line.text runtime)).filterMap (relayPoint runtime) =
      (lines.filterMap Line.point).filterMap pulled := by
  rw [List.filterMap_map, List.filterMap_filterMap]
  apply List.filterMap_congr
  intro line member
  cases read : line.point with
  | none =>
      obtain ⟨text, comment⟩ := comment_text runtime read
      rw [Function.comp_apply, comment, (comment_unread runtime text).1]
      rfl
  | some point =>
      cases line with
      | sample point =>
          cases read
          exact relayPoint_sample (clean _ member)
      | _ => cases read

theorem charted_lines (clean : ∀ line ∈ lines, line.Clean runtime) (out : Field → Rat) :
    (lines.map (Line.text runtime)).foldl (addLine runtime) out =
      (lines.filterMap Line.point).foldl charted out := by
  induction lines generalizing out with
  | nil => rfl
  | cons line rest ih =>
      obtain ⟨here, later⟩ := List.forall_mem_cons.mp clean
      rw [List.map_cons, List.foldl_cons, ih later]
      cases read : line.point with
      | none =>
          obtain ⟨text, comment⟩ := comment_text runtime read
          rw [List.filterMap_cons_none read, addLine, comment, (comment_unread runtime text).2]
      | some point =>
          cases line with
          | sample point =>
              cases read
              rw [addLine, parseLine_sample here]
              rfl
          | _ => cases read

end Whole

end Relay.Exposition
