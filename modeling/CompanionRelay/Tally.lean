import CompanionRelay.Exposition

/-!
The counters of host/metrics.js one at a time: what a call adds to each of them, and to the sum
over the reasons of one.
-/

namespace Relay

namespace OrderedMap
variable {Key Value : Type} [DecidableEq Key] [AddCommGroup Value]

/-- The sum of the values whose keys are of a kind. -/
def sumOver (map : OrderedMap Key Value) (kind : Key → Bool) : Value :=
  ((map.entries.filter fun entry => kind entry.1).map Prod.snd).sum

theorem sumOver_add (map : OrderedMap Key Value) (kind : Key → Bool) (key : Key) (value : Value) :
    (map.set key ((map.get? key).getD 0 + value)).sumOver kind =
      map.sumOver kind + if kind key then value else 0 := by
  obtain ⟨entries, nodup⟩ := map
  by_cases present : key ∈ entries.map Prod.fst
  · have whole : (set ⟨entries, nodup⟩ key ((get? ⟨entries, nodup⟩ key).getD 0 + value)).entries =
        entries.map fun entry => if entry.1 = key then
          (key, (entries.lookup key).getD 0 + value) else entry := by
      unfold set
      rw [dif_pos (show key ∈ keys ⟨entries, nodup⟩ from present)]
      rfl
    rw [sumOver, whole, sumOver]
    dsimp only
    clear whole
    induction entries with
    | nil => simp at present
    | cons entry rest ih =>
        obtain ⟨first, held⟩ := entry
        rw [List.map_cons, List.nodup_cons] at nodup
        by_cases here : first = key
        · subst here
          have others : (rest.map fun entry => if entry.1 = first then
              (first, (List.lookup first ((first, held) :: rest)).getD 0 + value) else entry) =
                rest := by
            conv_rhs => rw [← List.map_id rest]
            apply List.map_congr_left
            intro entry member
            rw [if_neg]
            · rfl
            · rintro same
              exact nodup.1 (List.mem_map.mpr ⟨entry, member, same⟩)
          rw [List.map_cons, others, if_pos rfl]
          cases listed : kind first with
          | true =>
              simp only [List.filter_cons, listed, if_true, List.map_cons, List.sum_cons,
                List.lookup_cons, beq_self_eq_true, Option.getD_some]
              rw [add_right_comm]
          | false => simp [listed]
        · have apart : (key == first) = false := by simpa using Ne.symm here
          have later : key ∈ rest.map Prod.fst := by
            simpa [Ne.symm here] using present
          have tail := ih nodup.2 later
          rw [List.map_cons, if_neg here, List.lookup_cons, apart]
          cases listed : kind first with
          | true =>
              simp only [List.filter_cons, listed, if_true, List.map_cons, List.sum_cons]
              rw [tail, add_assoc]
          | false =>
              simp only [List.filter_cons, listed, Bool.false_eq_true, if_false]
              exact tail
  · have whole : (set ⟨entries, nodup⟩ key ((get? ⟨entries, nodup⟩ key).getD 0 + value)).entries =
        entries ++ [(key, (get? ⟨entries, nodup⟩ key).getD 0 + value)] := by
      unfold set
      rw [dif_neg (show key ∉ keys ⟨entries, nodup⟩ from present)]
    have absent : get? ⟨entries, nodup⟩ key = none := by
      rw [Option.eq_none_iff_forall_ne_some]
      intro held found
      exact present (List.mem_map.mpr ⟨_, (entry_iff _ _ _).mp found, rfl⟩)
    rw [sumOver, whole, absent, List.filter_append, List.map_append, List.sum_append]
    cases listed : kind key with
    | true => simp [listed, sumOver]
    | false => simp [listed, sumOver]

end OrderedMap

namespace Exposition

section Counting
variable {metrics : Metrics} {name : Text} {value : Rat}

/-- What stands under a key. -/
def Metrics.valueOf (metrics : Metrics) (key : Text) : Rat := (metrics.counters.get? key).getD 0

theorem valueOf_inc (key : Text) :
    (metrics.inc name value).valueOf key =
      metrics.valueOf key + if key = name then value else 0 := by
  simp only [Metrics.valueOf, Metrics.inc, OrderedMap.get?_set_if]
  by_cases same : key = name
  · subst same
    simp
  · simp [same]

theorem name_inj {counter given : Counter} : counter.name = given.name ↔ given = counter := by
  constructor
  · intro same
    cases given <;> cases counter <;> first | rfl | exact absurd same (by decide)
  · rintro rfl
    rfl

theorem unseparated (counter : Counter) : '\x00' ∉ counter.name := by
  cases counter <;> decide

theorem reasonKey_ne (counter : Counter) (reason : Text) : counter.name ≠ reasonKey name reason := by
  intro same
  refine unseparated counter (same ▸ ?_)
  simp [reasonKey]

theorem count_inc (counter given : Counter) :
    (metrics.inc given.name value).count counter =
      metrics.count counter + if given = counter then value else 0 := by
  refine (valueOf_inc counter.name).trans ?_
  simp only [name_inj]
  rfl

theorem count_incReason (counter : Counter) (reason : Text) :
    (metrics.incReason name reason).count counter = metrics.count counter := by
  simp only [Metrics.count, Metrics.incReason, Metrics.inc, OrderedMap.get?_set_if]
  rw [if_neg (reasonKey_ne counter reason)]

def isRejection (key : Text) : Bool :=
  (reasonKey Labeled.wsUpgradesRejectedTotal.name []).isPrefixOf key

theorem rejected_inc (counter : Counter) :
    (metrics.inc counter.name value).rejected = metrics.rejected := by
  have unlisted : isRejection counter.name = false := by
    cases counter <;> decide
  have sum := metrics.counters.sumOver_add isRejection counter.name value
  rw [unlisted] at sum
  simpa [Metrics.rejected, Metrics.inc, OrderedMap.sumOver, isRejection] using sum

theorem rejected_incReason (reason : Text) :
    (metrics.incReason Labeled.wsUpgradesRejectedTotal.name reason).rejected =
      metrics.rejected + 1 := by
  have listed : isRejection (reasonKey Labeled.wsUpgradesRejectedTotal.name reason) = true := by
    rw [isRejection, List.isPrefixOf_iff_prefix]
    exact ⟨reason, by simp [reasonKey]⟩
  have sum := metrics.counters.sumOver_add isRejection
    (reasonKey Labeled.wsUpgradesRejectedTotal.name reason) 1
  rw [listed] at sum
  simpa [Metrics.rejected, Metrics.incReason, Metrics.inc, OrderedMap.sumOver, isRejection]
    using sum

@[simp] theorem lifetimes_inc : (metrics.inc name value).lifetimeInf = metrics.lifetimeInf := rfl

@[simp] theorem lifetimes_observe (seconds : Rat) :
    (metrics.observeSocketLifetime seconds).lifetimeInf = metrics.lifetimeInf + 1 := rfl

@[simp] theorem count_observe (counter : Counter) (seconds : Rat) :
    (metrics.observeSocketLifetime seconds).count counter = metrics.count counter := rfl

@[simp] theorem rejected_observe (seconds : Rat) :
    (metrics.observeSocketLifetime seconds).rejected = metrics.rejected := rfl

end Counting

end Exposition
end Relay
