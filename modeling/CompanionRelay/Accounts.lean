import CompanionRelay.Gateway
import CompanionRelay.Tally
import Mathlib.Logic.Function.Iterate
import Mathlib.Tactic.Linarith
import Mathlib.Tactic.Ring

/-!
The books of the host. Every upgrade is counted once, as a rejection, a misdirected one, a
handshake under way or failed, or a socket that is open or has ended; the sockets are counted in
all and for each address; and the caps hold up to the handshakes that are under way together.
-/

namespace Relay.Gateway
open Exposition

section Statement
variable (config : Config)

def Event.isUpgrade : Event → Bool
  | .upgrade _ _ _ _ => true
  | _ => false

/-- A request that is answered with 421. -/
def turnedAway (met : Server × Event) : Bool :=
  match met.2 with
  | .request now pathname headers socket declared around =>
      (handleRequest config met.1 now ⟨pathname, ClientIp.toHeaders headers, socket, declared⟩
        around).2 = .plain rejectStatus "misdirected"
  | _ => false

/-- The failure of a handshake that was under way. -/
def fails (met : Server × Event) : Bool :=
  match met.2 with
  | .aborted id => met.1.handshakes.any (·.1 = id)
  | _ => false

/-- The open sockets of an address. -/
def Server.sockets (server : Server) (ip : Address) : Nat :=
  server.clients.countP (·.ip = ip)

/-- An upgrade charges the limiter if it names a room and the room's bucket is owned here. -/
def charges (met : Server × Event) : Option Limiter.Call :=
  match met.2 with
  | .upgrade now headers socket around =>
      let headers := ClientIp.toHeaders headers
      match entryReject headers with
      | .ok room =>
          if (ownershipGate config around room).admitted then
            some ⟨limiterKey (ClientIp.clientIp headers socket config.trust), now⟩
          else none
      | .error _ => none
  | _ => none

structure Ledger (events : List Event) : Prop where
  sockets : (run config events).totalSockets = (run config events).clients.length
  -- an address without an open socket has no entry
  addresses : ∀ ip, (run config events).ipSockets.get? ip =
    if (run config events).sockets ip = 0 then none else some ((run config events).sockets ip : Int)
  -- a socket that was opened is open, or its lifetime has been observed
  opened : (run config events).metrics.count .wsUpgradesTotal =
    (run config events).clients.length + (run config events).metrics.lifetimeInf
  -- every upgrade is in one of the books
  upgrades : ((events.countP Event.isUpgrade : Nat) : Rat) +
      ((steps config events).countP (turnedAway config) : Nat) =
    (run config events).metrics.rejected + (run config events).metrics.count .shardRejectTotal +
      (run config events).metrics.count .wsUpgradesTotal + (run config events).handshakes.length +
      ((steps config events).countP fails : Nat)
  charged : ∀ limits, config.wsLimit = some limits →
    (run config events).wsWindows =
      Limiter.calling limits .empty ((steps config events).filterMap (charges config))

end Statement

section Sweep

/-- What the sweep does at one socket. -/
def visit (server : Server) (client : Client) : Server :=
  if client.isAlive = false then
    { server with metrics := server.metrics.inc Counter.wsKeepaliveTerminatedTotal.name 1 }
  else
    { server with
        clients := server.clients.map fun other =>
          if other.id = client.id then { other with isAlive := false } else other }

/-- The metrics of so many sockets that are terminated. -/
def terminations (count : Nat) (metrics : Metrics) : Metrics :=
  (fun metrics : Metrics => metrics.inc Counter.wsKeepaliveTerminatedTotal.name 1)^[count] metrics

/-- The sockets that have been visited wait for a pong. -/
def waiting (visited : List Client) (other : Client) : Client :=
  if visited.any fun client => client.isAlive && client.id = other.id then
    { other with isAlive := false }
  else other

theorem sweep_visits (visited : List Client) (server : Server) :
    visited.foldl visit server =
      { server with
          metrics := terminations (visited.countP fun client => !client.isAlive) server.metrics
          clients := server.clients.map (waiting visited) } := by
  induction visited generalizing server with
  | nil =>
      have same : waiting [] = id := by
        funext other
        rfl
      simp [same, terminations]
  | cons client rest ih =>
      rw [List.foldl_cons, ih]
      cases alive : client.isAlive with
      | false =>
          have same : waiting (client :: rest) = waiting rest := by
            funext other
            simp [waiting, alive]
          simp only [visit, alive, if_true, same, Bool.not_false, List.countP_cons_of_pos]
          rfl
      | true =>
          have same : (waiting rest ∘ fun other : Client =>
              if other.id = client.id then { other with isAlive := false } else other) =
              waiting (client :: rest) := by
            funext other
            by_cases here : other.id = client.id
            · simp [waiting, alive, here]
            · simp [waiting, alive, here, Ne.symm here]
          simp only [visit, alive, Bool.true_eq_false, if_false, List.map_map, same,
            Bool.not_true, Bool.false_eq_true, not_false_eq_true, List.countP_cons_of_neg]

theorem sweep_eq (server : Server) :
    sweepKeepalive server =
      { server with
          metrics := terminations (server.clients.countP fun client => !client.isAlive)
            server.metrics
          clients := server.clients.map fun client => { client with isAlive := false } } := by
  have whole : sweepKeepalive server = server.clients.foldl visit server := rfl
  rw [whole, sweep_visits]
  congr 1
  apply List.map_congr_left
  intro client member
  unfold waiting
  split
  · rfl
  · rename_i unvisited
    cases alive : client.isAlive with
    | false => rw [← alive]
    | true =>
        refine absurd (List.any_eq_true.mpr ⟨client, member, ?_⟩) unvisited
        simp [alive]

theorem terminations_count (count : Nat) (metrics : Metrics) (counter : Counter) :
    (terminations count metrics).count counter = metrics.count counter +
      if counter = .wsKeepaliveTerminatedTotal then (count : Rat) else 0 := by
  induction count generalizing metrics with
  | zero => simp [terminations]
  | succ count ih =>
      rw [terminations, Function.iterate_succ_apply, ← terminations, ih, count_inc]
      by_cases same : counter = .wsKeepaliveTerminatedTotal
      · subst same
        simp only [if_true]
        push_cast
        ring
      · simp [same, Ne.symm same]

theorem terminations_rejected (count : Nat) (metrics : Metrics) :
    (terminations count metrics).rejected = metrics.rejected ∧
      (terminations count metrics).lifetimeInf = metrics.lifetimeInf := by
  induction count generalizing metrics with
  | zero => exact ⟨rfl, rfl⟩
  | succ count ih =>
      rw [terminations, Function.iterate_succ_apply, ← terminations]
      exact ⟨(ih _).1.trans (rejected_inc _), (ih _).2⟩

end Sweep

section Sound

/-- What holds of the host's counts in every state. -/
structure Sound (server : Server) : Prop where
  distinct : (server.handshakes.map Prod.fst ++ server.clients.map (·.id)).Nodup
  numbered : ∀ id ∈ server.handshakes.map Prod.fst ++ server.clients.map (·.id),
    id < server.nextId
  total : server.totalSockets = server.clients.length
  addresses : ∀ ip, server.ipSockets.get? ip =
    if server.sockets ip = 0 then none else some (server.sockets ip : Int)
  opened : server.metrics.count .wsUpgradesTotal =
    server.clients.length + server.metrics.lifetimeInf

theorem Sound.initial : Sound Gateway.initial :=
  ⟨by simp [Gateway.initial], by simp [Gateway.initial], rfl, by simp [Gateway.initial,
    Server.sockets, OrderedMap.get?, OrderedMap.empty], by simp [Gateway.initial, Metrics.count,
      Metrics.new, OrderedMap.get?, OrderedMap.empty]⟩

theorem Sound.mono {server after : Server} (sound : Sound server)
    (handshakes : after.handshakes = server.handshakes) (clients : after.clients = server.clients)
    (next : server.nextId ≤ after.nextId) (total : after.totalSockets = server.totalSockets)
    (addresses : after.ipSockets = server.ipSockets)
    (count : after.metrics.count .wsUpgradesTotal = server.metrics.count .wsUpgradesTotal)
    (lifetimes : after.metrics.lifetimeInf = server.metrics.lifetimeInf) : Sound after := by
  have sockets : after.sockets = server.sockets := by
    funext ip
    rw [Server.sockets, clients, ← Server.sockets]
  refine ⟨?_, ?_, ?_, ?_, ?_⟩
  · rw [handshakes, clients]
    exact sound.distinct
  · rw [handshakes, clients]
    exact fun id member => (sound.numbered id member).trans_le next
  · rw [total, clients]
    exact sound.total
  · rw [addresses, sockets]
    exact sound.addresses
  · rw [count, clients, lifetimes]
    exact sound.opened

theorem Sound.alive {server : Server} (sound : Sound server) {clients : List Client}
    (ids : clients.map (·.id) = server.clients.map (·.id))
    (ips : clients.map (·.ip) = server.clients.map (·.ip)) :
    Sound { server with clients := clients } := by
  have length : clients.length = server.clients.length := by
    rw [← List.length_map (·.id), ids, List.length_map]
  have sockets : ({ server with clients := clients } : Server).sockets = server.sockets := by
    funext ip
    have count : ∀ clients : List Client, clients.countP (·.ip = ip) =
        (clients.map (·.ip)).count ip := by
      intro clients
      rw [List.count, List.countP_map]
      exact List.countP_congr fun client _ => by simp
    rw [Server.sockets, Server.sockets, count, count, ips]
  refine ⟨by rw [ids]; exact sound.distinct, by rw [ids]; exact sound.numbered, ?_, ?_, ?_⟩
  · rw [length]
    exact sound.total
  · rw [sockets]
    exact sound.addresses
  · rw [length]
    exact sound.opened

theorem Sound.gate {server : Server} (sound : Sound server) (config : Config) (now : Nat)
    (headers : ClientIp.Headers) (socket : ClientIp.Socket) (around : Around) :
    Sound (handleUpgrade config server now headers socket around) := by
  unfold handleUpgrade
  dsimp only
  cases (Gateway.gate config server now headers socket around).2 with
  | rejected status message reason =>
      exact sound.mono rfl rfl le_rfl rfl rfl (count_incReason ..) rfl
  | misdirected status =>
      exact sound.mono rfl rfl le_rfl rfl rfl (by simp [count_inc]) rfl
  | passes ip =>
      refine ⟨?_, ?_, sound.total, sound.addresses, sound.opened⟩
      · simp only [List.map_append, List.map_cons, List.map_nil]
        rw [List.append_assoc, List.singleton_append, List.nodup_middle, List.nodup_cons]
        exact ⟨fun member => lt_irrefl _ (sound.numbered _ member), sound.distinct⟩
      · intro id member
        simp only [List.map_append, List.map_cons, List.map_nil, List.mem_append,
          List.mem_singleton] at member
        have below := sound.numbered id
        rw [List.mem_append] at below
        rcases member with (waits | rfl) | opened
        · exact (below (.inl waits)).trans (Nat.lt_succ_self _)
        · exact Nat.lt_succ_self _
        · exact (below (.inr opened)).trans (Nat.lt_succ_self _)

theorem Sound.accepts {server : Server} (sound : Sound server) {now id : Nat} {ip : Address}
    (found : (id, ip) ∈ server.handshakes) : Sound (accept server now id ip) := by
  have waits : id ∈ server.handshakes.map Prod.fst := List.mem_map_of_mem found
  obtain ⟨shaking, opened, apart⟩ := List.nodup_append.mp sound.distinct
  have sockets : ∀ other, (accept server now id ip).sockets other =
      server.sockets other + if ip = other then 1 else 0 := by
    intro other
    simp only [Server.sockets, accept, List.countP_append, List.countP_singleton,
      decide_eq_true_eq]
  refine ⟨?_, fun other member => sound.numbered other ?_, ?_, fun other => ?_, ?_⟩
  · simp only [accept, List.map_append, List.map_cons, List.map_nil]
    rw [← List.append_assoc, List.nodup_append_comm, List.singleton_append, List.nodup_cons]
    refine ⟨fun member => ?_, sound.distinct.sublist
      ((List.filter_sublist.map _).append_right _)⟩
    rcases List.mem_append.mp member with early | late
    · obtain ⟨other, inside, same⟩ := List.mem_map.mp early
      simpa [same] using (List.mem_filter.mp inside).2
    · exact apart id waits id late rfl
  · simp only [accept, List.map_append, List.map_cons, List.map_nil, List.mem_append,
      List.mem_singleton] at member
    rw [List.mem_append]
    rcases member with early | late | rfl
    · exact .inl ((List.filter_sublist.map _).subset early)
    · exact .inr late
    · exact .inl waits
  · simp [accept, sound.total]
  · rw [sockets other]
    simp only [accept, OrderedMap.get?_set_if, sound.addresses]
    by_cases same : other = ip
    · subst same
      by_cases none_ : server.sockets other = 0
      · simp [none_]
      · simp [none_]
    · simp [same, Ne.symm same]
  · simp only [accept, count_inc, if_true, sound.opened, List.length_append,
      List.length_singleton, lifetimes_inc]
    push_cast
    ring

theorem filter_without {Item : Type} [BEq Item] [LawfulBEq Item] {items : List Item} {item : Item}
    (key : Item → Nat) (distinct : (items.map key).Nodup) (member : item ∈ items) :
    items.filter (key · ≠ key item) = items.erase item := by
  rw [List.Nodup.erase_eq_filter distinct.of_map]
  refine List.filter_congr fun other inside => ?_
  by_cases same : other = item
  · simp [same]
  · have apart : key other ≠ key item :=
      fun id => same (List.inj_on_of_nodup_map distinct inside member id)
    simp [same, apart]

theorem Sound.closes {server : Server} (sound : Sound server) {now : Nat} {client : Client}
    (member : client ∈ server.clients) : Sound (close server now client) := by
  have rest := filter_without Client.id (List.nodup_append.mp sound.distinct).2.1 member
  have positive := List.length_pos_of_mem member
  have length : (close server now client).clients.length + 1 = server.clients.length := by
    simp only [close, rest, List.length_erase_of_mem member]
    omega
  have here : 0 < server.sockets client.ip :=
    List.countP_pos_iff.mpr ⟨client, member, by simp⟩
  have sockets : ∀ ip, server.sockets ip =
      (close server now client).sockets ip + if client.ip = ip then 1 else 0 := by
    intro ip
    rw [Server.sockets, (List.perm_cons_erase member).countP_eq, List.countP_cons]
    simp only [Server.sockets, close, rest, decide_eq_true_eq]
  refine ⟨?_, fun other inside => sound.numbered other ?_, ?_, fun ip => ?_, ?_⟩
  · exact sound.distinct.sublist ((List.filter_sublist.map _).append_left _)
  · exact ((List.filter_sublist.map _).append_left _).subset inside
  · have total := sound.total
    simp only [close] at length ⊢
    omega
  · have held := sound.addresses client.ip
    have others := sound.addresses ip
    rw [if_neg (by omega)] at held
    rw [sockets ip] at others
    rw [sockets client.ip, if_pos rfl] at held
    have books : (close server now client).ipSockets =
        if (server.ipSockets.get? client.ip).getD 1 - 1 ≤ 0 then server.ipSockets.delete client.ip
        else server.ipSockets.set client.ip ((server.ipSockets.get? client.ip).getD 1 - 1) := rfl
    rw [books, held, Option.getD_some]
    by_cases same : ip = client.ip
    · subst same
      generalize (close server now client).sockets client.ip = left
      by_cases last : left = 0
      · simp [last, OrderedMap.get?_delete_if]
      · rw [if_neg (by omega), OrderedMap.get?_set_if, if_pos rfl, if_neg last]
        congr 1
        omega
    · rw [if_neg (Ne.symm same), Nat.add_zero] at others
      rw [← others]
      split
      · rw [OrderedMap.get?_delete_if, if_neg same]
      · rw [OrderedMap.get?_set_if, if_neg same]
  · have opened := sound.opened
    rw [← length] at opened
    simp only [close, count_observe, lifetimes_observe] at opened ⊢
    rw [opened]
    push_cast
    ring

/-- What a request leaves of the books. -/
structure Leaves (server after : Server) (misdirected : Prop) : Prop where
  handshakes : after.handshakes = server.handshakes
  clients : after.clients = server.clients
  next : server.nextId ≤ after.nextId
  total : after.totalSockets = server.totalSockets
  addresses : after.ipSockets = server.ipSockets
  windows : after.wsWindows = server.wsWindows
  opened : after.metrics.count .wsUpgradesTotal = server.metrics.count .wsUpgradesTotal
  reaped : after.metrics.count .wsKeepaliveTerminatedTotal =
    server.metrics.count .wsKeepaliveTerminatedTotal
  rejected : after.metrics.rejected = server.metrics.rejected
  lifetimes : after.metrics.lifetimeInf = server.metrics.lifetimeInf
  counted : misdirected → after.metrics.count .shardRejectTotal =
    server.metrics.count .shardRejectTotal + 1
  uncounted : ¬ misdirected → after.metrics.count .shardRejectTotal =
    server.metrics.count .shardRejectTotal

theorem gate_status {config : Config} {around : Around} {room reason : String} {status : Nat}
    {bucket : Option Int}
    (rejects : ownershipGate config around room = .rejects status reason bucket) :
    status = rejectStatus := by
  unfold ownershipGate ownershipDecision at rejects
  split at rejects
  · simp at rejects
  · dsimp only at rejects
    split at rejects
    · simp only [Decision.rejects.injEq] at rejects
      exact rejects.1.symm
    · split at rejects
      · simp at rejects
      · simp only [Decision.rejects.injEq] at rejects
        exact rejects.1.symm

theorem entry_misdirects {headers : ClientIp.Headers} {rejected : Nat × String}
    (entry : entryReject headers = .error rejected) : rejected.1 ≠ rejectStatus := by
  unfold entryReject at entry
  split at entry
  · cases entry
    decide
  · split at entry
    · cases entry
      decide
    · split at entry
      · simp at entry
      · cases entry
        decide

-- A request changes the counters of requests, and that of 421s if it is answered with one.
theorem handleRequest_leaves (config : Config) (server : Server) (now : Nat) (request : Request)
    (around : Around) :
    Leaves server (handleRequest config server now request around).1
      ((handleRequest config server now request around).2 = .plain rejectStatus "misdirected") := by
  have quiet : ∀ {after : Server} {answer : Answer}, after.handshakes = server.handshakes →
      after.clients = server.clients → server.nextId ≤ after.nextId →
      after.totalSockets = server.totalSockets → after.ipSockets = server.ipSockets →
      after.wsWindows = server.wsWindows →
      (∃ counter : Counter,
        counter ∉ [.wsUpgradesTotal, .wsKeepaliveTerminatedTotal, .shardRejectTotal] ∧
        after.metrics = server.metrics.inc counter.name 1) →
      answer ≠ .plain rejectStatus "misdirected" →
      Leaves server after (answer = .plain rejectStatus "misdirected") := by
    intro after answer handshakes clients next total addresses windows counted other
    obtain ⟨counter, unlisted, same⟩ := counted
    simp only [List.mem_cons, List.not_mem_nil, or_false, not_or] at unlisted
    obtain ⟨upgrade, reaped, shard⟩ := unlisted
    refine ⟨handshakes, clients, next, total, addresses, windows, ?_, ?_, ?_, ?_, ?_, ?_⟩
    · rw [same, count_inc, if_neg upgrade, add_zero]
    · rw [same, count_inc, if_neg reaped, add_zero]
    · rw [same, rejected_inc]
    · rw [same, lifetimes_inc]
    · exact fun away => absurd away other
    · rw [same, count_inc, if_neg shard, add_zero]
      exact fun _ => rfl
  unfold handleRequest
  dsimp only
  split
  · exact quiet rfl rfl le_rfl rfl rfl rfl ⟨_, by decide, rfl⟩ (by simp)
  · split
    · refine ⟨rfl, rfl, le_rfl, rfl, rfl, rfl, rfl, rfl, rfl, rfl, ?_, fun _ => rfl⟩
      cases isLocalScrape request <;> simp
    · cases entry : entryReject request.headers with
      | error rejected =>
          exact ⟨rfl, rfl, le_rfl, rfl, rfl, rfl, rfl, rfl, rfl, rfl,
            fun same => absurd (Answer.plain.inj same).1 (entry_misdirects entry), fun _ => rfl⟩
      | ok room =>
          dsimp only
          cases gated : ownershipGate config around room with
          | rejects status reason bucket =>
              obtain rfl := gate_status gated
              exact ⟨rfl, rfl, le_rfl, rfl, rfl, rfl, by simp [count_inc], by simp [count_inc],
                by simp [rejected_inc], rfl, fun _ => by simp [count_inc],
                fun other => absurd rfl other⟩
          | admits bucket =>
              dsimp only
              generalize (if isAttest _ = true then _ else _ : Limiter.Windows × Bool) = charged
              split
              · exact quiet rfl rfl le_rfl rfl rfl rfl ⟨_, by decide, rfl⟩ (by simp)
              · split
                · exact quiet rfl rfl le_rfl rfl rfl rfl ⟨_, by decide, rfl⟩ (by simp)
                · split
                  · exact quiet rfl rfl le_rfl rfl rfl rfl ⟨_, by decide, rfl⟩ (by simp)
                  · exact quiet rfl rfl (Nat.le_succ _) rfl rfl rfl ⟨_, by decide, rfl⟩ (by simp)

theorem Sound.leaves {server after : Server} {misdirected : Prop} (sound : Sound server)
    (leaves : Leaves server after misdirected) : Sound after :=
  sound.mono leaves.handshakes leaves.clients leaves.next leaves.total leaves.addresses
    leaves.opened leaves.lifetimes

theorem Sound.step {server : Server} (sound : Sound server) (config : Config) (event : Event) :
    Sound (Gateway.step config server event) := by
  cases event with
  | upgrade now headers socket around => exact sound.gate ..
  | accepted now id =>
      simp only [Gateway.step]
      split
      · rename_i given ip found
        have same : given = id := by simpa using List.find?_some found
        exact sound.accepts (same ▸ List.mem_of_find?_eq_some found)
      · exact sound
  | aborted id =>
      refine ⟨?_, fun other member => sound.numbered other ?_, sound.total, sound.addresses,
        sound.opened⟩
      · exact sound.distinct.sublist ((List.filter_sublist.map _).append_right _)
      · exact ((List.filter_sublist.map _).append_right _).subset member
  | pong id =>
      refine sound.alive ?_ ?_
      · rw [List.map_map]
        refine List.map_congr_left fun client _ => ?_
        simp only [Function.comp_apply]
        split <;> rfl
      · rw [List.map_map]
        refine List.map_congr_left fun client _ => ?_
        simp only [Function.comp_apply]
        split <;> rfl
  | closed now id =>
      simp only [Gateway.step]
      split
      · rename_i client found
        exact sound.closes (List.mem_of_find?_eq_some found)
      · exact sound
  | sweep =>
      simp only [Gateway.step, sweep_eq]
      have alive : Sound { server with
          clients := server.clients.map fun client => { client with isAlive := false } } :=
        sound.alive (by simp) (by simp)
      refine alive.mono rfl rfl le_rfl rfl rfl ?_ (terminations_rejected _ _).2
      rw [terminations_count]
      simp
  | request now pathname headers socket declared around =>
      exact sound.leaves (handleRequest_leaves ..)
  | finish id stream served =>
      simp only [Gateway.step, finishRequest]
      split
      · split
        · exact sound
        · refine sound.mono rfl rfl le_rfl rfl rfl ?_ ?_
          · dsimp only
            split <;> simp [count_inc]
          · dsimp only
            split <;> rfl
      · exact sound

theorem Sound.run (config : Config) (events : List Event) : Sound (Gateway.run config events) :=
  Machine.run_invariant (Gateway.step config) Sound (fun _ _ => True)
    (fun _ event sound _ => sound.step config event) Gateway.initial Sound.initial events
    (fun _ _ => trivial)

end Sound

section Books
variable {config : Config} {server : Server} {id : Nat} {ip : Address}

/-- What the books of the upgrades add up to. -/
def Server.booked (server : Server) : Rat :=
  server.metrics.rejected + server.metrics.count .shardRejectTotal +
    server.metrics.count .wsUpgradesTotal + server.handshakes.length

theorem handshakes_without (distinct : (server.handshakes.map Prod.fst).Nodup)
    (waits : (id, ip) ∈ server.handshakes) :
    server.handshakes.filter (·.1 ≠ id) = server.handshakes.erase (id, ip) ∧
      (server.handshakes.filter (·.1 ≠ id)).length + 1 = server.handshakes.length := by
  have without := filter_without Prod.fst distinct waits
  refine ⟨without, ?_⟩
  have positive := List.length_pos_of_mem waits
  rw [without, List.length_erase_of_mem waits]
  omega

theorem gate_booked (now : Nat) (headers : ClientIp.Headers) (socket : ClientIp.Socket)
    (around : Around) :
    (handleUpgrade config server now headers socket around).booked = server.booked + 1 := by
  unfold handleUpgrade
  dsimp only
  cases (Gateway.gate config server now headers socket around).2 with
  | rejected status message reason =>
      simp only [Server.booked, rejected_incReason, count_incReason]
      ring
  | misdirected status =>
      simp only [Server.booked, rejected_inc, count_inc, if_true, reduceCtorEq, if_false]
      ring
  | passes ip =>
      simp only [Server.booked, List.length_append, List.length_singleton]
      push_cast
      ring

theorem booked_step (sound : Sound server) (event : Event) :
    (step config server event).booked + (if fails (server, event) then 1 else 0) =
      server.booked + (if event.isUpgrade then 1 else 0) +
        (if turnedAway config (server, event) then 1 else 0) := by
  have distinct := (List.nodup_append.mp sound.distinct).1
  cases event with
  | upgrade now headers socket around =>
      have booked : (handleUpgrade config server now (ClientIp.toHeaders headers) socket
          around).booked = server.booked + 1 := gate_booked ..
      simpa [Gateway.step, fails, turnedAway, Event.isUpgrade] using booked
  | accepted now id =>
      simp only [Gateway.step, fails, turnedAway, Event.isUpgrade]
      split
      · rename_i given ip found
        have same : given = id := by simpa using List.find?_some found
        obtain rfl := same
        have fewer := (handshakes_without distinct (List.mem_of_find?_eq_some found)).2
        simp only [Server.booked, accept, rejected_inc, count_inc, if_true, reduceCtorEq, if_false,
          ← fewer]
        push_cast
        ring
      · simp
  | aborted id =>
      simp only [Gateway.step, turnedAway, Event.isUpgrade, Server.booked]
      by_cases waits : id ∈ server.handshakes.map Prod.fst
      · have failed : fails (server, .aborted id) = true := by simpa [fails] using waits
        obtain ⟨⟨_, ip⟩, member, rfl⟩ := List.mem_map.mp waits
        rw [failed, ← (handshakes_without distinct member).2]
        push_cast
        simp
        ring
      · have nothing : fails (server, .aborted id) = false :=
          List.any_eq_false.mpr fun shake member same =>
            waits (List.mem_map.mpr ⟨shake, member, of_decide_eq_true same⟩)
        have all : server.handshakes.filter (·.1 ≠ id) = server.handshakes := by
          rw [List.filter_eq_self]
          intro shake member
          exact decide_eq_true fun same => waits (List.mem_map.mpr ⟨shake, member, same⟩)
        rw [nothing, all]
        simp
  | pong id => simp [Gateway.step, fails, turnedAway, Event.isUpgrade, Server.booked]
  | closed now id =>
      simp only [Gateway.step, fails, turnedAway, Event.isUpgrade]
      split
      · simp [Server.booked, close]
      · simp
  | sweep =>
      simp [Gateway.step, fails, turnedAway, Event.isUpgrade, sweep_eq, Server.booked,
        terminations_count, terminations_rejected]
  | request now pathname headers socket declared around =>
      have leaves := handleRequest_leaves config server now
        ⟨pathname, ClientIp.toHeaders headers, socket, declared⟩ around
      simp only [Gateway.step, fails, turnedAway, Event.isUpgrade, Server.booked, leaves.opened,
        leaves.rejected, leaves.handshakes]
      by_cases away : (handleRequest config server now
          ⟨pathname, ClientIp.toHeaders headers, socket, declared⟩ around).2 =
            .plain rejectStatus "misdirected"
      · simp [leaves.counted away, away]
        ring
      · simp [leaves.uncounted away, away]
  | finish id stream served =>
      simp only [Gateway.step, fails, turnedAway, Event.isUpgrade, finishRequest]
      split
      · split
        · simp
        · simp only [Server.booked]
          split <;> simp [rejected_inc, count_inc]
      · simp

theorem booked_run (config : Config) (events : List Event) :
    (run config events).booked + ((steps config events).countP fails : Nat) =
      (events.countP Event.isUpgrade : Nat) +
        ((steps config events).countP (turnedAway config) : Nat) := by
  induction events using List.reverseRecOn with
  | nil =>
      simp [Server.booked, initial, Metrics.rejected, Metrics.count, Metrics.new,
        OrderedMap.get?, OrderedMap.empty]
  | append_singleton before event ih =>
      have stepped := @booked_step config _ (Sound.run config before) event
      rw [run, Machine.run_append, steps, Machine.steps_append, List.countP_append,
        List.countP_append, List.countP_append]
      simp only [Machine.run_cons, Machine.run_nil, Machine.steps_cons, Machine.steps_nil,
        List.countP_singleton]
      push_cast
      linarith

theorem windows_step {limits : Limiter.Limits} (limited : config.wsLimit = some limits)
    (event : Event) :
    (step config server event).wsWindows =
      Limiter.calling limits server.wsWindows (charges config (server, event)).toList := by
  cases event with
  | upgrade now headers socket around =>
      have kept : ∀ headers, (handleUpgrade config server now headers socket around).wsWindows =
          (gate config server now headers socket around).1 := by
        intro headers
        unfold handleUpgrade
        dsimp only
        split <;> rfl
      simp only [Gateway.step, kept, gate, charges]
      cases entryReject (ClientIp.toHeaders headers) with
      | error rejected => rfl
      | ok room =>
          dsimp only
          cases ownershipGate config around room with
          | rejects status reason bucket => rfl
          | admits bucket =>
              simp only [charge, limited, apply_ite Prod.fst, ite_self]
              rfl
  | accepted now id =>
      simp only [Gateway.step]
      split <;> rfl
  | closed now id =>
      simp only [Gateway.step]
      split <;> rfl
  | sweep => simp [Gateway.step, sweep_eq, charges]
  | request now pathname headers socket declared around =>
      exact (handleRequest_leaves ..).windows
  | finish id stream served =>
      simp only [Gateway.step, finishRequest]
      split
      · split <;> rfl
      · rfl
  | _ => rfl

theorem charged_run {limits : Limiter.Limits} (limited : config.wsLimit = some limits)
    (events : List Event) :
    (run config events).wsWindows =
      Limiter.calling limits .empty ((steps config events).filterMap (charges config)) := by
  induction events using List.reverseRecOn with
  | nil => rfl
  | append_singleton before event ih =>
      rw [run, Machine.run_append, steps, Machine.steps_append, List.filterMap_append]
      refine (windows_step limited event).trans ?_
      rw [← run, ih]
      exact (Machine.run_append (Limiter.step limits) ..).symm

end Books

/-- The books are kept: what the host holds is what its events come to. -/
theorem ledger_kept (config : Config) (events : List Event) : Ledger config events := by
  have sound := Sound.run config events
  refine ⟨sound.total, sound.addresses, sound.opened, ?_,
    fun limits limited => charged_run limited events⟩
  have booked := booked_run config events
  rw [Server.booked] at booked
  linarith

section Caps
variable {config : Config} {server : Server} {kind : Address → Bool}

/-- The open sockets and the handshakes under way whose addresses are of a kind. -/
def Server.held (server : Server) (kind : Address → Bool) : Nat :=
  server.clients.countP (kind ·.ip)

def Server.shaking (server : Server) (kind : Address → Bool) : Nat :=
  server.handshakes.countP (kind ·.2)

/-- A cap is checked before the handshake and the socket is counted after it: as many as are under
way together can pass it, and the one that was last to pass it found room. -/
structure Capped (config : Config) (events : List Event) : Prop where
  total : ∀ width, (∀ lead, lead <+: events → (run config lead).handshakes.length ≤ width) →
    (run config events).clients.length + (run config events).handshakes.length ≤
      config.maxTotalSockets + width - 1
  address : ∀ ip width, (∀ lead, lead <+: events → (run config lead).shaking (· = ip) ≤ width) →
    (run config events).sockets ip + (run config events).shaking (· = ip) ≤
      config.maxSocketsPerIp + width - 1

theorem gate_passes (sound : Sound server) {now : Nat} {headers : ClientIp.Headers}
    {socket : ClientIp.Socket} {around : Around} {ip : Address}
    (passed : (gate config server now headers socket around).2 = .passes ip) :
    server.sockets ip < config.maxSocketsPerIp ∧
      server.clients.length < config.maxTotalSockets := by
  unfold gate at passed
  cases entry : entryReject headers with
  | error rejected => simp [entry] at passed
  | ok room =>
      rw [entry] at passed
      dsimp only at passed
      cases gated : ownershipGate config around room with
      | rejects status reason bucket => simp [gated] at passed
      | admits bucket =>
          rw [gated] at passed
          dsimp only at passed
          split at passed
          · simp at passed
          · split at passed
            · simp at passed
            · split at passed
              · simp at passed
              · split at passed
                · simp at passed
                · rename_i _ few roomy _
                  obtain rfl := Gate.passes.inj passed
                  rw [sound.total] at roomy
                  rw [sound.addresses] at few
                  refine ⟨?_, by omega⟩
                  split at few
                  · simp only [Option.getD_none] at few
                    omega
                  · simp only [Option.getD_some] at few
                    omega

-- Either a handshake of the kind begins below the cap, or there are no more than before.
theorem held_step (sound : Sound server) {cap : Nat}
    (checked : ∀ ip, server.sockets ip < config.maxSocketsPerIp →
      server.clients.length < config.maxTotalSockets → kind ip = true → server.held kind < cap)
    (event : Event) :
    let after := step config server event
    (server.held kind < cap ∧ after.held kind = server.held kind) ∨
      after.held kind + after.shaking kind ≤ server.held kind + server.shaking kind := by
  intro after
  have distinct := (List.nodup_append.mp sound.distinct).1
  have same : ∀ {given : Server}, given.clients.map Client.ip = server.clients.map Client.ip →
      given.handshakes = server.handshakes →
      given.held kind + given.shaking kind ≤ server.held kind + server.shaking kind := by
    intro given ips handshakes
    have count : ∀ clients : List Client,
        clients.countP (kind ·.ip) = (clients.map Client.ip).countP kind :=
      fun clients => List.countP_map.symm
    rw [Server.held, Server.held, count, count, ips, Server.shaking, handshakes, ← Server.shaking]
  cases event with
  | upgrade now headers socket around =>
      simp only [after, Gateway.step, handleUpgrade]
      cases passed : (gate config server now (ClientIp.toHeaders headers) socket around).2 with
      | rejected status message reason => exact .inr (same rfl rfl)
      | misdirected status => exact .inr (same rfl rfl)
      | passes ip =>
          obtain ⟨few, roomy⟩ := gate_passes sound passed
          cases listed : kind ip with
          | true => exact .inl ⟨checked ip few roomy listed, rfl⟩
          | false =>
              right
              simp [Server.held, Server.shaking, List.countP_append, listed]
  | accepted now id =>
      right
      simp only [after, Gateway.step]
      split
      · rename_i given ip found
        obtain rfl : given = id := by simpa using List.find?_some found
        have member := List.mem_of_find?_eq_some found
        have fewer := (List.perm_cons_erase member).countP_eq (kind ·.2)
        rw [← (handshakes_without distinct member).1, List.countP_cons] at fewer
        simp only [Server.held, Server.shaking, accept, List.countP_append, List.countP_singleton,
          fewer]
        omega
      · exact le_rfl
  | aborted id =>
      right
      exact Nat.add_le_add_left List.filter_sublist.countP_le _
  | pong id =>
      refine .inr (same ?_ rfl)
      simp only [after, Gateway.step, List.map_map]
      refine List.map_congr_left fun client _ => ?_
      simp only [Function.comp_apply]
      split <;> rfl
  | closed now id =>
      right
      simp only [after, Gateway.step]
      split
      · exact Nat.add_le_add_right List.filter_sublist.countP_le _
      · exact le_rfl
  | sweep =>
      refine .inr (same ?_ ?_)
      · simp [after, Gateway.step, sweep_eq]
      · simp [after, Gateway.step, sweep_eq]
  | request now pathname headers socket declared around =>
      have leaves := handleRequest_leaves config server now
        ⟨pathname, ClientIp.toHeaders headers, socket, declared⟩ around
      refine .inr (same ?_ leaves.handshakes)
      rw [← leaves.clients]
      rfl
  | finish id stream served =>
      refine .inr ?_
      simp only [after, Gateway.step, finishRequest]
      split
      · split <;> exact same rfl rfl
      · exact le_rfl

theorem held_run {cap : Nat} (config : Config)
    (checked : ∀ server ip, Sound server → server.sockets ip < config.maxSocketsPerIp →
      server.clients.length < config.maxTotalSockets → kind ip = true → server.held kind < cap)
    (width : Nat) (events : List Event)
    (narrow : ∀ lead, lead <+: events → (run config lead).shaking kind ≤ width) :
    (run config events).held kind + (run config events).shaking kind ≤ cap + width - 1 := by
  induction events using List.reverseRecOn with
  | nil => exact Nat.zero_le _
  | append_singleton before event ih =>
      have earlier := ih fun lead short => narrow lead (short.trans (List.prefix_append _ _))
      have now := narrow _ List.prefix_rfl
      have sound := Sound.run config before
      have stepped := held_step sound (checked _ · sound) event
      rw [run, Machine.run_append] at now ⊢
      simp only [Machine.run_cons, Machine.run_nil] at now ⊢
      rcases stepped with ⟨below, kept⟩ | fewer
      · rw [kept]
        omega
      · exact fewer.trans earlier

theorem caps_hold (config : Config) (events : List Event) : Capped config events := by
  have every : ∀ server : Server, server.held (fun _ => true) = server.clients.length ∧
      server.shaking (fun _ => true) = server.handshakes.length :=
    fun server => ⟨congrFun List.countP_true _, congrFun List.countP_true _⟩
  refine ⟨fun width narrow => ?_, fun ip width narrow => ?_⟩
  · rw [← (every _).1, ← (every _).2]
    refine held_run config (fun server _ _ _ roomy _ => ?_) width events fun lead short => ?_
    · rw [(every _).1]
      exact roomy
    · rw [(every _).2]
      exact narrow lead short
  · refine held_run config (fun server given _ few _ same => ?_) width events narrow
    rw [← of_decide_eq_true same]
    exact few

end Caps
end Relay.Gateway
