import CompanionRelay.Accounts

/-!
The keepalive of the host over whole runs: which sockets a sweep terminates, and which it pings.
-/

namespace Relay.Gateway
open Exposition

section Statement
variable (config : Config)

def Server.openIds (server : Server) : List Nat := server.clients.map (·.id)

/-- A sweep has met the socket, and no pong of it has come since. -/
def Silent (before : List Event) (id : Nat) : Prop :=
  ∃ earlier between, before = earlier ++ .sweep :: between ∧ id ∈ (run config earlier).openIds ∧
    .pong id ∉ between

/-- The sockets that a step terminates. -/
def reaps (met : Server × Event) : Nat :=
  match met.2 with
  | .sweep => (terminated met.1).length
  | _ => 0

/-- What a sweep does that comes after a run. -/
structure Sweeps (before : List Event) : Prop where
  terminates : ∀ id, id ∈ terminated (run config before) ↔
    id ∈ (run config before).openIds ∧ Silent config before id
  pings : ∀ id, id ∈ pinged (run config before) ↔
    id ∈ (run config before).openIds ∧ ¬ Silent config before id
  -- the socket is open until its 'close' comes
  keeps : (run config (before ++ [.sweep])).openIds = (run config before).openIds
  counted : (run config before).metrics.count .wsKeepaliveTerminatedTotal =
    (((steps config before).map reaps).sum : Nat)

end Statement

section Steps
variable {config : Config} {server : Server} {id : Nat}

theorem given_step (given : id < server.nextId) (gone : id ∉ server.handshakes.map Prod.fst)
    (event : Event) :
    id < (step config server event).nextId ∧
      id ∉ (step config server event).handshakes.map Prod.fst := by
  have fewer : ∀ other : Nat, id ∉ (server.handshakes.filter (·.1 ≠ other)).map Prod.fst :=
    fun other member => gone ((List.filter_sublist.map _).subset member)
  cases event with
  | upgrade now headers socket around =>
      simp only [Gateway.step, handleUpgrade]
      cases (gate config server now (ClientIp.toHeaders headers) socket around).2 with
      | passes ip =>
          refine ⟨given.trans (Nat.lt_succ_self _), ?_⟩
          simp only [List.map_append, List.map_cons, List.map_nil, List.mem_append,
            List.mem_singleton, not_or]
          exact ⟨gone, given.ne⟩
      | _ => exact ⟨given, gone⟩
  | accepted now other =>
      simp only [Gateway.step]
      split
      · exact ⟨given, fewer other⟩
      · exact ⟨given, gone⟩
  | aborted other => exact ⟨given, fewer other⟩
  | pong other => exact ⟨given, gone⟩
  | closed now other =>
      simp only [Gateway.step]
      split <;> exact ⟨given, gone⟩
  | sweep =>
      simp only [Gateway.step, sweep_eq]
      exact ⟨given, gone⟩
  | request now pathname headers socket declared around =>
      have leaves := handleRequest_leaves config server now
        ⟨pathname, ClientIp.toHeaders headers, socket, declared⟩ around
      refine ⟨given.trans_le leaves.next, ?_⟩
      simp only [Gateway.step, leaves.handshakes]
      exact gone
  | finish other stream served =>
      simp only [Gateway.step, finishRequest]
      split
      · split <;> exact ⟨given, gone⟩
      · exact ⟨given, gone⟩

theorem opened_once {earlier : List Event} (opened : id ∈ (run config earlier).openIds)
    (between : List Event) :
    id ∉ (run config (earlier ++ between)).handshakes.map Prod.fst := by
  have sound := Sound.run config earlier
  have apart := (List.nodup_append.mp sound.distinct).2.2
  have given := sound.numbered id (List.mem_append_right _ opened)
  have kept := Machine.run_invariant (Gateway.step config)
    (fun server => id < server.nextId ∧ id ∉ server.handshakes.map Prod.fst) (fun _ _ => True)
    (fun _ event held _ => given_step held.1 held.2 event) _
    ⟨given, fun waits => apart id waits id opened rfl⟩ between (fun _ _ => trivial)
  rw [run, Machine.run_append]
  exact kept.2

theorem silent_sweep {before : List Event} (opened : id ∈ (run config before).openIds) :
    Silent config (before ++ [.sweep]) id :=
  ⟨before, [], rfl, opened, by simp⟩

theorem silent_append {before : List Event} {event : Event} (other : event ≠ .sweep) :
    Silent config (before ++ [event]) id ↔ Silent config before id ∧ event ≠ .pong id := by
  constructor
  · rintro ⟨earlier, between, split, opened, quiet⟩
    rcases List.eq_nil_or_concat between with rfl | ⟨others, last, rfl⟩
    · have same := (List.append_inj' split rfl).2
      exact absurd (List.cons.inj same).1 other
    · rw [List.concat_eq_append] at split quiet
      rw [← List.cons_append, ← List.append_assoc] at split
      obtain ⟨rfl, same⟩ := List.append_inj' split rfl
      obtain rfl := (List.cons.inj same).1
      rw [List.mem_append, not_or, List.mem_singleton] at quiet
      exact ⟨⟨earlier, others, rfl, opened, quiet.1⟩, Ne.symm quiet.2⟩
  · rintro ⟨⟨earlier, between, rfl, opened, quiet⟩, loud⟩
    refine ⟨earlier, between ++ [event], by simp, opened, ?_⟩
    simp only [List.mem_append, List.mem_singleton, not_or]
    exact ⟨quiet, Ne.symm loud⟩

-- The sockets that wait for a pong are those that are silent.
theorem alive_iff (config : Config) (before : List Event) :
    ∀ client ∈ (run config before).clients,
      client.isAlive = false ↔ Silent config before client.id := by
  induction before using List.reverseRecOn with
  | nil => simp [initial]
  | append_singleton before event ih =>
      have after : run config (before ++ [event]) = step config (run config before) event :=
        Machine.run_append ..
      have sound := Sound.run config before
      -- an event that is not a sweep and leaves the socket as it was
      have same : ∀ client ∈ (run config before).clients, event ≠ .sweep →
          event ≠ .pong client.id →
          (client.isAlive = false ↔ Silent config (before ++ [event]) client.id) := by
        intro client member other loud
        rw [silent_append other, ih client member, and_iff_left loud]
      intro client member
      rw [after] at member
      cases event with
      | upgrade now headers socket around =>
          refine same client ?_ (by simp) (by simp)
          simp only [Gateway.step, handleUpgrade] at member
          split at member <;> exact member
      | accepted now other =>
          simp only [Gateway.step] at member
          split at member
          · rename_i given ip found
            obtain rfl : given = other := by simpa using List.find?_some found
            rcases List.mem_append.mp member with early | late
            · exact same client early (by simp) (by simp)
            · obtain rfl := List.mem_singleton.mp late
              simp only [Bool.true_eq_false, false_iff]
              rintro ⟨earlier, between, split, opened, quiet⟩
              rcases List.eq_nil_or_concat between with rfl | ⟨others, last, rfl⟩
              · exact Event.noConfusion (List.cons.inj (List.append_inj' split rfl).2).1
              · rw [List.concat_eq_append, ← List.cons_append, ← List.append_assoc] at split
                obtain ⟨rfl, _⟩ := List.append_inj' split rfl
                exact opened_once opened _
                  (List.mem_map_of_mem (List.mem_of_find?_eq_some found))
          · exact same client member (by simp) (by simp)
      | aborted other => exact same client member (by simp) (by simp)
      | pong other =>
          obtain ⟨earlier, inside, rfl⟩ := List.mem_map.mp member
          by_cases here : earlier.id = other
          · subst here
            simp only [if_true, Bool.true_eq_false, false_iff]
            rw [silent_append (by simp)]
            exact fun silent => silent.2 rfl
          · rw [if_neg here]
            exact same earlier inside (by simp) (by simpa using Ne.symm here)
      | closed now other =>
          simp only [Gateway.step] at member
          split at member
          · exact same client (List.mem_of_mem_filter member) (by simp) (by simp)
          · exact same client member (by simp) (by simp)
      | sweep =>
          simp only [Gateway.step, sweep_eq] at member
          obtain ⟨earlier, inside, rfl⟩ := List.mem_map.mp member
          exact iff_of_true rfl (silent_sweep (List.mem_map.mpr ⟨earlier, inside, rfl⟩))
      | request now pathname headers socket declared around =>
          refine same client ?_ (by simp) (by simp)
          simp only [Gateway.step, (handleRequest_leaves ..).clients] at member
          exact member
      | finish other stream served =>
          refine same client ?_ (by simp) (by simp)
          simp only [Gateway.step, finishRequest] at member
          split at member
          · split at member <;> exact member
          · exact member

theorem reaped_step (event : Event) :
    (step config server event).metrics.count .wsKeepaliveTerminatedTotal =
      server.metrics.count .wsKeepaliveTerminatedTotal + (reaps (server, event) : Rat) := by
  cases event with
  | upgrade now headers socket around =>
      simp only [Gateway.step, handleUpgrade, reaps]
      cases (gate config server now (ClientIp.toHeaders headers) socket around).2 with
      | rejected status message reason => simp [count_incReason]
      | misdirected status => simp [count_inc]
      | passes ip => simp
  | accepted now other =>
      simp only [Gateway.step, reaps]
      split <;> simp [accept, count_inc]
  | closed now other =>
      simp only [Gateway.step, reaps]
      split <;> simp [close]
  | sweep =>
      simp [Gateway.step, sweep_eq, reaps, terminations_count, terminated,
        List.countP_eq_length_filter]
  | request now pathname headers socket declared around =>
      simpa [Gateway.step, reaps] using (handleRequest_leaves config server now
        ⟨pathname, ClientIp.toHeaders headers, socket, declared⟩ around).reaped
  | finish other stream served =>
      simp only [Gateway.step, finishRequest, reaps]
      split
      · split
        · simp
        · dsimp only
          split <;> simp [count_inc]
      · simp
  | _ => simp [Gateway.step, reaps]

theorem reaped_run (config : Config) (events : List Event) :
    (run config events).metrics.count .wsKeepaliveTerminatedTotal =
      (((steps config events).map reaps).sum : Nat) := by
  induction events using List.reverseRecOn with
  | nil => simp [initial, Metrics.count, Metrics.new, OrderedMap.get?, OrderedMap.empty]
  | append_singleton before event ih =>
      rw [run, Machine.run_append, steps, Machine.steps_append, List.map_append, List.sum_append]
      refine (reaped_step event).trans ?_
      rw [← run, ih]
      simp

end Steps

theorem keepalive_sweeps (config : Config) (before : List Event) : Sweeps config before := by
  have alive := alive_iff config before
  refine ⟨fun id => ?_, fun id => ?_, ?_, reaped_run config before⟩
  · constructor
    · intro reaped
      obtain ⟨client, listed, rfl⟩ := List.mem_map.mp reaped
      obtain ⟨member, dead⟩ := List.mem_filter.mp listed
      exact ⟨List.mem_map_of_mem member, (alive client member).mp (by simpa using dead)⟩
    · rintro ⟨opened, silent⟩
      obtain ⟨client, member, rfl⟩ := List.mem_map.mp opened
      exact List.mem_map_of_mem (List.mem_filter.mpr
        ⟨member, by simpa using (alive client member).mpr silent⟩)
  · constructor
    · intro asked
      obtain ⟨client, listed, rfl⟩ := List.mem_map.mp asked
      obtain ⟨member, live⟩ := List.mem_filter.mp listed
      refine ⟨List.mem_map_of_mem member, fun silent => ?_⟩
      rw [(alive client member).mpr silent] at live
      exact Bool.noConfusion live
    · rintro ⟨opened, loud⟩
      obtain ⟨client, member, rfl⟩ := List.mem_map.mp opened
      refine List.mem_map_of_mem (List.mem_filter.mpr ⟨member, ?_⟩)
      by_contra dead
      exact loud ((alive client member).mp (by simpa using dead))
  · rw [run, Machine.run_append]
    simp [Gateway.step, sweep_eq, Server.openIds]

end Relay.Gateway
