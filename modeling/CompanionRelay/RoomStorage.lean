import CompanionRelay.Encoding
import CompanionRelay.Machine
import CompanionRelay.Ordered
import CompanionRelay.SqlLike
import Mathlib.Data.List.Lex
import Mathlib.Data.List.Sort

/-!
host/storage.js: the statements of StorageBackend over the tables kv and alarms, and what
RoomStorage makes of them. Over it stands what a room should be: a map and an alarm of its
own. The statements keep that view of every room; what list answers departs from it where the
LIKE of its statement takes a key that begins with the prefix only up to case.
-/

namespace Relay
namespace RoomStorage

/-- JSON.stringify and JSON.parse, which throws on what is no JSON. -/
structure Json (Value : Type) where
  stringify : Value → String
  parse : String → Option Value
  lossless : ∀ value, parse (stringify value) = some value

theorem Json.stringify_inj {Value : Type} (json : Json Value) {first second : Value} :
    json.stringify first = json.stringify second ↔ first = second := by
  constructor
  · intro same
    have back := congrArg json.parse same
    rw [json.lossless, json.lossless] at back
    exact Option.some.inj back
  · exact congrArg json.stringify

/-- The rows of both tables, each under its primary key. -/
structure Tables where
  kv : OrderedMap (String × String) String := OrderedMap.empty
  alarms : OrderedMap String Int := OrderedMap.empty

/-- The operations of a RoomStorage, with what they are given. -/
inductive Op (Value : Type)
  | get (key : String)
  | put (key : String) (value : Value)
  | delete (key : String)
  | deleteAll
  | list (lead : Option String)
  | getAlarm
  | setAlarm (at_ : Int)
  | deleteAlarm

inductive Output (Value : Type)
  | done
  | value (found : Option Value)
  | changed (any : Bool)
  | entries (map : List (String × Value))
  | alarm (at_ : Option Int)
  | threw
  deriving DecidableEq

namespace Tables

/-- The order of the BINARY collation: by the bytes of the texts. -/
def binary (first second : String) : Prop :=
  (utf8 first).map UInt8.toNat ≤ (utf8 second).map UInt8.toNat

instance (first second : String) : Decidable (binary first second) :=
  inferInstanceAs (Decidable (_ ≤ _))

def selectList (tables : Tables) (room : String) (pattern : List Char) :
    List (String × String) :=
  ((tables.kv.entries.filter fun row =>
      row.1.1 = room && SqlLike.like '\\' pattern row.1.2.toList).map
    fun row => (row.1.2, row.2)).insertionSort fun first second => binary first.1 second.1

def del (tables : Tables) (room key : String) : Tables × Nat :=
  ({ tables with kv := tables.kv.delete (room, key) },
    (tables.kv.entries.filter (·.1 = (room, key))).length)

def deleteAll (tables : Tables) (room : String) : Tables :=
  { tables with
    kv := ⟨tables.kv.entries.filter (·.1.1 ≠ room),
      tables.kv.nodup.sublist (List.filter_sublist.map Prod.fst)⟩ }

end Tables

def likePrefix (lead : String) : List Char := lead.toList.flatMap (SqlLike.quoted '\\') ++ ['%']

section Operations
variable {Value : Type} (json : Json Value)

def perform (tables : Tables) (room : String) : Op Value → Tables × Output Value
  | .get key =>
      match tables.kv.get? (room, key) with
      | none => (tables, .value none)
      | some text =>
          match json.parse text with
          | none => (tables, .threw)
          | some value => (tables, .value (some value))
  | .put key value =>
      ({ tables with kv := tables.kv.set (room, key) (json.stringify value) }, .done)
  | .delete key =>
      let (after, changes) := tables.del room key
      (after, .changed (changes > 0))
  | .deleteAll => (tables.deleteAll room, .done)
  | .list lead =>
      let rows := tables.selectList room (likePrefix (lead.getD ""))
      match rows.mapM fun row => (json.parse row.2).map fun value => (row.1, value) with
      | none => (tables, .threw)
      | some entries => (tables, .entries entries)
  | .getAlarm => (tables, .alarm (tables.alarms.get? room))
  | .setAlarm at_ => ({ tables with alarms := tables.alarms.set room at_ }, .done)
  | .deleteAlarm => ({ tables with alarms := tables.alarms.delete room }, .done)

/-- An operation on the storage of a room. -/
abbrev Event (Value : Type) := String × Op Value

def step (tables : Tables) (event : Event Value) : Tables := (perform json tables event.1 event.2).1

abbrev running : Tables → List (Event Value) → Tables := Machine.run (step json)

/-- What a room is for: a map, and an alarm. -/
@[ext] structure Store (Value : Type) where
  values : String → Option Value := fun _ => none
  alarm : Option Int := none

namespace Store
variable {Value : Type}

def after (store : Store Value) : Op Value → Store Value
  | .put key value =>
      { store with values := fun other => if other = key then some value else store.values other }
  | .delete key =>
      { store with values := fun other => if other = key then none else store.values other }
  | .deleteAll => { store with values := fun _ => none }
  | .setAlarm at_ => { store with alarm := some at_ }
  | .deleteAlarm => { store with alarm := none }
  | .get _ | .list _ | .getAlarm => store

/-- The entries whose keys begin with the prefix, in key order. -/
structure Lists (store : Store Value) (lead : String) (entries : List (String × Value)) : Prop where
  sorted : entries.Pairwise fun first second => Tables.binary first.1 second.1
  distinct : (entries.map Prod.fst).Nodup
  exact : ∀ key value, (key, value) ∈ entries ↔
    store.values key = some value ∧ lead.toList <+: key.toList

def Answers (store : Store Value) : Op Value → Output Value → Prop
  | .get key, output => output = .value (store.values key)
  | .delete key, output => output = .changed (store.values key).isSome
  | .list lead, output => ∃ entries, output = .entries entries ∧ store.Lists (lead.getD "") entries
  | .getAlarm, output => output = .alarm store.alarm
  | .put _ _, output | .deleteAll, output | .setAlarm _, output | .deleteAlarm, output =>
      output = .done

/-- What a room is after the operations on it. -/
def run (ops : List (Op Value)) : Store Value := ops.foldl after {}

/-- No key that is there begins with the prefix only up to case. -/
def Cased (store : Store Value) (lead : String) : Prop :=
  ∀ key, (store.values key).isSome → SqlLike.BeginsAnyCase lead.toList key.toList →
    lead.toList <+: key.toList

end Store

/-- The operations on one room. -/
def own (room : String) (events : List (Event Value)) : List (Op Value) :=
  (events.filter (·.1 = room)).map Prod.snd

/-- Every room behaves as its map and alarm, as if the other rooms did not exist. -/
def Faithful (events : List (Event Value)) : Prop :=
  ∀ before room op after, events = before ++ (room, op) :: after →
    (Store.run (own room before)).Answers op (perform json (running json {} before) room op).2

end Operations

section View
variable {Value : Type} {json : Json Value} {tables : Tables} {room key text : String}

variable (json) in
/-- What the tables hold of a room. -/
def view (tables : Tables) (room : String) : Store Value :=
  ⟨fun key => (tables.kv.get? (room, key)).bind json.parse, tables.alarms.get? room⟩

variable (json) in
/-- The values of the table kv are those that stringify writes. -/
def Written (tables : Tables) : Prop :=
  ∀ place text, tables.kv.get? place = some text → ∃ value, text = json.stringify value

theorem view_some (written : Written json tables) (value : Value) :
    (view json tables room).values key = some value ↔
      tables.kv.get? (room, key) = some (json.stringify value) := by
  cases held : tables.kv.get? (room, key) with
  | none => simp [view, held]
  | some text =>
      obtain ⟨stored, rfl⟩ := written _ _ held
      simp only [view, held, Option.bind_some, json.lossless, Option.some.injEq,
        json.stringify_inj]

theorem get?_deleteAll (place : String × String) :
    (tables.deleteAll room).kv.get? place =
      if place.1 = room then none else tables.kv.get? place := by
  apply Option.ext
  intro held
  rw [OrderedMap.entry_iff, Tables.deleteAll, List.mem_filter, ← OrderedMap.entry_iff]
  by_cases same : place.1 = room <;> simp [same]

variable (json tables room) in
theorem step_kv (op : Op Value) (place : String × String) :
    (step json tables (room, op)).kv.get? place = match op with
      | .put key value =>
          if place = (room, key) then some (json.stringify value) else tables.kv.get? place
      | .delete key => if place = (room, key) then none else tables.kv.get? place
      | .deleteAll => if place.1 = room then none else tables.kv.get? place
      | _ => tables.kv.get? place := by
  cases op with
  | put key value => exact OrderedMap.get?_set_if _ _ _ _
  | delete key => exact OrderedMap.get?_delete_if _ _ _
  | deleteAll => exact get?_deleteAll _
  | get key =>
      simp only [step, perform]
      split
      · rfl
      · split <;> rfl
  | list lead =>
      simp only [step, perform]
      split <;> rfl
  | getAlarm => rfl
  | setAlarm at_ => rfl
  | deleteAlarm => rfl

variable (json tables room) in
theorem step_alarms (op : Op Value) (other : String) :
    (step json tables (room, op)).alarms.get? other = match op with
      | .setAlarm at_ => if other = room then some at_ else tables.alarms.get? other
      | .deleteAlarm => if other = room then none else tables.alarms.get? other
      | _ => tables.alarms.get? other := by
  cases op with
  | setAlarm at_ => exact OrderedMap.get?_set_if _ _ _ _
  | deleteAlarm => exact OrderedMap.get?_delete_if _ _ _
  | get key =>
      simp only [step, perform]
      split
      · rfl
      · split <;> rfl
  | list lead =>
      simp only [step, perform]
      split <;> rfl
  | put key value => rfl
  | delete key => rfl
  | deleteAll => rfl
  | getAlarm => rfl

theorem step_written (written : Written json tables) (op : Op Value) :
    Written json (step json tables (room, op)) := by
  intro place text held
  rw [step_kv] at held
  cases op with
  | put key value =>
      dsimp only at held
      by_cases same : place = (room, key)
      · rw [if_pos same] at held
        exact ⟨value, (Option.some.inj held).symm⟩
      · rw [if_neg same] at held
        exact written place text held
  | delete key =>
      dsimp only at held
      by_cases same : place = (room, key)
      · simp [same] at held
      · rw [if_neg same] at held
        exact written place text held
  | deleteAll =>
      dsimp only at held
      by_cases same : place.1 = room
      · simp [same] at held
      · rw [if_neg same] at held
        exact written place text held
  | get key => exact written place text held
  | list lead => exact written place text held
  | getAlarm => exact written place text held
  | setAlarm at_ => exact written place text held
  | deleteAlarm => exact written place text held

-- An operation does to its room what it does to a map and an alarm, and nothing to another.
theorem step_view (op : Op Value) (other : String) :
    view json (step json tables (room, op)) other =
      if other = room then (view json tables room).after op else view json tables other := by
  have kv := step_kv json tables room op
  have alarms := step_alarms json tables room op other
  by_cases same : other = room
  · subst same
    rw [if_pos rfl]
    apply Store.ext
    · funext key
      cases op <;> simp [view, kv, Store.after] <;> split <;> simp_all [json.lossless]
    · cases op <;> simp [view, alarms, Store.after]
  · rw [if_neg same]
    apply Store.ext
    · funext key
      cases op <;> simp [view, kv, same]
    · cases op <;> simp [view, alarms, same]

theorem running_written (written : Written json tables) (events : List (Event Value)) :
    Written json (running json tables events) := by
  induction events generalizing tables with
  | nil => exact written
  | cons event rest ih => exact ih (step_written written event.2)

theorem running_view (events : List (Event Value)) (room : String) :
    view json (running json tables events) room =
      (own room events).foldl Store.after (view json tables room) := by
  induction events generalizing tables with
  | nil => rfl
  | cons event rest ih =>
      obtain ⟨place, op⟩ := event
      rw [running, Machine.run_cons, ih, step_view]
      by_cases same : room = place
      · subst same
        simp [own]
      · rw [if_neg same]
        have others : own room ((place, op) :: rest) = own room rest := by
          simp [own, Ne.symm same]
        rw [others]

theorem written_empty : Written json {} := by
  intro place text held
  simp [OrderedMap.get?, OrderedMap.empty] at held

variable (json) in
theorem view_run (events : List (Event Value)) (room : String) :
    view json (running json {} events) room = Store.run (own room events) := by
  rw [running_view]
  rfl

theorem mem_selectList (pattern : List Char) : (key, text) ∈ tables.selectList room pattern ↔
    tables.kv.get? (room, key) = some text ∧ SqlLike.like '\\' pattern key.toList = true := by
  simp only [Tables.selectList, List.mem_insertionSort, List.mem_map, List.mem_filter,
    Bool.and_eq_true, decide_eq_true_eq, Prod.mk.injEq, OrderedMap.entry_iff]
  constructor
  · rintro ⟨⟨⟨place, other⟩, held⟩, ⟨member, same, matched⟩, rfl, rfl⟩
    obtain rfl : place = room := same
    exact ⟨member, matched⟩
  · rintro ⟨member, matched⟩
    exact ⟨((room, key), text), ⟨member, rfl, matched⟩, rfl, rfl⟩

theorem selectList_distinct (pattern : List Char) :
    ((tables.selectList room pattern).map Prod.fst).Nodup := by
  have own : ((tables.kv.entries.filter fun row =>
      row.1.1 = room && SqlLike.like '\\' pattern row.1.2.toList).map Prod.fst).Nodup :=
    tables.kv.nodup.sublist (List.filter_sublist.map Prod.fst)
  have keys := List.Nodup.map_on (f := Prod.snd) (by
    intro first one second two same
    obtain ⟨row, inside, rfl⟩ := List.mem_map.mp one
    obtain ⟨other, within, rfl⟩ := List.mem_map.mp two
    simp only [List.mem_filter, Bool.and_eq_true, decide_eq_true_eq] at inside within
    exact Prod.ext (inside.2.1.trans within.2.1.symm) same) own
  rw [List.map_map] at keys
  have sorted := (List.perm_insertionSort (fun first second => Tables.binary first.1 second.1)
    ((tables.kv.entries.filter fun row =>
      row.1.1 = room && SqlLike.like '\\' pattern row.1.2.toList).map
        fun row => (row.1.2, row.2))).map Prod.fst
  apply sorted.nodup_iff.mpr
  rw [List.map_map]
  exact keys

theorem selectList_sorted (pattern : List Char) :
    (tables.selectList room pattern).Pairwise fun first second =>
      Tables.binary first.1 second.1 := by
  have total : Std.Total fun first second : String × String => Tables.binary first.1 second.1 :=
    ⟨fun first second => le_total ((utf8 first.1).map UInt8.toNat) _⟩
  have trans : IsTrans (String × String) fun first second => Tables.binary first.1 second.1 :=
    ⟨fun first second third => le_trans (a := (utf8 first.1).map UInt8.toNat)⟩
  exact List.pairwise_insertionSort _ _

theorem parse_rows (rows : List (String × String))
    (written : ∀ row ∈ rows, ∃ value, row.2 = json.stringify value) :
    ∃ entries, (rows.mapM fun row => (json.parse row.2).map fun value => (row.1, value)) =
        some entries ∧ entries.map Prod.fst = rows.map Prod.fst ∧
      ∀ key value, (key, value) ∈ entries ↔ (key, json.stringify value) ∈ rows := by
  induction rows with
  | nil => exact ⟨[], rfl, rfl, by simp⟩
  | cons row rest ih =>
      obtain ⟨⟨value, same⟩, others⟩ := List.forall_mem_cons.mp written
      obtain ⟨entries, parsed, keys, members⟩ := ih others
      obtain ⟨key, text⟩ := row
      obtain rfl : text = json.stringify value := same
      refine ⟨(key, value) :: entries, ?_, ?_, ?_⟩
      · simp [json.lossless, parsed]
      · rw [List.map_cons, List.map_cons, keys]
      · intro other held
        rw [List.mem_cons, List.mem_cons, members, Prod.mk.injEq, Prod.mk.injEq,
          json.stringify_inj]

theorem begins_anyCase {lead text : List Char} (begins : lead <+: text) :
    SqlLike.BeginsAnyCase lead text := begins.map Char.toLower

-- What list answers: what it should, but for the keys that only begin alike.
theorem list_answers (written : Written json tables) (lead : Option String) :
    (view json tables room).Answers (.list lead) (perform json tables room (.list lead)).2 ↔
      (view json tables room).Cased (lead.getD "") := by
  obtain ⟨entries, parsed, keys, members⟩ := parse_rows (tables.selectList room (likePrefix (lead.getD ""))) (by
      rintro ⟨key, text⟩ member
      exact written _ _ ((mem_selectList _).mp member).1)
  have output : (perform json tables room (.list lead)).2 = .entries entries := by
    simp only [perform, parsed]
  have matched (key : String) (value : Value) : (key, value) ∈ entries ↔
      (view json tables room).values key = some value ∧
        SqlLike.BeginsAnyCase (lead.getD "").toList key.toList := by
    rw [members, mem_selectList, view_some written, likePrefix, SqlLike.like_lead (by decide)]
  rw [output]
  constructor
  · rintro ⟨other, same, lists⟩ key found begins
    cases same
    obtain ⟨value, found⟩ := Option.isSome_iff_exists.mp found
    exact ((lists.exact key value).mp ((matched key value).mpr ⟨found, begins⟩)).2
  · intro cased
    refine ⟨entries, rfl, ?_, ?_, ?_⟩
    · have sorted : (entries.map Prod.fst).Pairwise Tables.binary := by
        rw [keys]
        exact List.pairwise_map.mpr (selectList_sorted _)
      exact List.pairwise_map.mp sorted
    · rw [keys]
      exact selectList_distinct _
    · intro key value
      rw [matched]
      constructor
      · rintro ⟨found, begins⟩
        exact ⟨found, cased key (by rw [found]; rfl) begins⟩
      · rintro ⟨found, begins⟩
        exact ⟨found, begins_anyCase begins⟩

theorem other_answers (written : Written json tables) {op : Op Value}
    (apart : ∀ lead, op ≠ .list lead) :
    (view json tables room).Answers op (perform json tables room op).2 := by
  cases op with
  | list lead => exact absurd rfl (apart lead)
  | put key value => rfl
  | deleteAll => rfl
  | setAlarm at_ => rfl
  | deleteAlarm => rfl
  | getAlarm => rfl
  | get key =>
      change (perform json tables room (.get key)).2 = .value ((view json tables room).values key)
      cases held : tables.kv.get? (room, key) with
      | none => simp [perform, view, held]
      | some text =>
          obtain ⟨value, rfl⟩ := written _ _ held
          simp [perform, view, held, json.lossless]
  | delete key =>
      change (perform json tables room (.delete key)).2 =
        .changed ((view json tables room).values key).isSome
      have changed : (tables.del room key).2 > 0 ↔
          ((view json tables room).values key).isSome = true := by
        rw [Option.isSome_iff_exists, Tables.del, gt_iff_lt, List.length_pos_iff_exists_mem]
        constructor
        · rintro ⟨⟨place, text⟩, member⟩
          obtain ⟨inside, same⟩ := List.mem_filter.mp member
          obtain rfl : place = (room, key) := of_decide_eq_true same
          have held := (OrderedMap.entry_iff _ _ _).mpr inside
          obtain ⟨value, rfl⟩ := written _ _ held
          exact ⟨value, (view_some written value).mpr held⟩
        · rintro ⟨value, found⟩
          have inside := (OrderedMap.entry_iff _ _ _).mp ((view_some written value).mp found)
          exact ⟨_, List.mem_filter.mpr ⟨inside, decide_eq_true rfl⟩⟩
      simp [perform, changed]

/-- The storage keeps every room as a map and an alarm of its own; what it answers is that of the
map exactly where no list finds a key that begins with its prefix only up to case. -/
theorem storage_faithful (json : Json Value) (events : List (Event Value)) :
    Faithful json events ↔ ∀ before room lead after,
      events = before ++ (room, .list lead) :: after →
        (Store.run (own room before) : Store Value).Cased (lead.getD "") := by
  constructor
  · intro faithful before room lead after whole
    have written : Written json (running json {} before) := running_written written_empty before
    have answers := faithful before room _ after whole
    rw [← view_run json] at answers ⊢
    exact (list_answers written lead).mp answers
  · intro cased before room op after whole
    have written : Written json (running json {} before) := running_written written_empty before
    rw [← view_run json]
    by_cases lists : ∃ lead, op = .list lead
    · obtain ⟨lead, rfl⟩ := lists
      have exactly := cased before room lead after whole
      rw [← view_run json] at exactly
      exact (list_answers written lead).mpr exactly
    · exact other_answers written fun lead same => lists ⟨lead, same⟩

/-- The JSON of texts without a character that is escaped. -/
def plainJson : Json String where
  stringify text := "\"" ++ text ++ "\""
  parse text := some (String.ofList text.toList.tail.dropLast)
  lossless text := by simp

/-- The prefix "TICKET:" lists the key "ticket:a". -/
theorem list_ignores_case : ¬ Faithful plainJson
    [("room", .put "ticket:a" "x"), ("room", .list (some "TICKET:"))] := by
  intro faithful
  have answers := faithful [("room", .put "ticket:a" "x")] "room" _ [] rfl
  rw [← view_run plainJson] at answers
  have cased := (list_answers (running_written written_empty _) _).mp answers
  rw [view_run] at cased
  exact absurd (cased "ticket:a" rfl (by decide)) (by decide)

end View

end RoomStorage
end Relay
