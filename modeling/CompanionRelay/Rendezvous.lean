import CompanionRelay.Conversation
import CompanionRelay.Inert
import CompanionRelay.Simulation

/-!
What a room is for: a place where a mac waits in its slot and a phone comes to it, and where what
the one says reaches the other. The room refines this rendezvous in every run, so that what holds
of every rendezvous holds of what the clients of a room are told.
-/

namespace Relay

open Function (update)
open Simulation (Moves)

section Abstract
variable {Party Message : Type}

/-- Who is in each slot, and the slot that each party was given. -/
@[ext] structure Lobby (Party : Type) where
  slots : Role → Option Party
  former : Party → Option Role

def Lobby.empty : Lobby Party := ⟨fun _ => none, fun _ => none⟩

inductive Told (Party Message : Type)
  | welcome (party : Party) (role : Role)
  | relay (source target : Party) (message : Message)
  deriving DecidableEq

/-- The moves of a rendezvous. A newcomer puts an end to the old holder of its slot; a phone comes
only while a mac is there. -/
inductive Lobby.Move [DecidableEq Party] :
    Lobby Party → Option (Told Party Message) → Lobby Party → Prop
  | seat (lobby : Lobby Party) (role : Role) (party : Party) (new : lobby.former party = none)
      (parked : role = .phone → lobby.slots .mac ≠ none) :
      Move lobby (some (.welcome party role))
        ⟨update lobby.slots role (some party), update lobby.former party (some role)⟩
  -- a newcomer that is gone before it is told
  | miss (lobby : Lobby Party) (role : Role) (party : Party) (new : lobby.former party = none)
      (parked : role = .phone → lobby.slots .mac ≠ none) :
      Move lobby none ⟨lobby.slots, update lobby.former party (some role)⟩
  | relay (lobby : Lobby Party) (role : Role) (source target : Party) (message : Message)
      (was : lobby.former source = some role) (holds : lobby.slots role.other = some target) :
      Move lobby (some (.relay source target message)) lobby
  | leave (lobby : Lobby Party) (role : Role) :
      Move lobby none ⟨update lobby.slots role none, lobby.former⟩

/-- The last party to be welcomed to a slot. -/
def newest (role : Role) (trace : List (Told Party Message)) : Option Party :=
  trace.foldl (fun last told =>
    match told with
    | .welcome party given => if given = role then some party else last
    | .relay _ _ _ => last) none

def welcomed (trace : List (Told Party Message)) : List Party :=
  trace.filterMap fun
    | .welcome party _ => some party
    | .relay _ _ _ => none

theorem newest_snoc (role : Role) (past : List (Told Party Message)) (told : Told Party Message) :
    newest role (past ++ [told]) =
      match told with
      | .welcome party given => if given = role then some party else newest role past
      | .relay _ _ _ => newest role past := by
  simp only [newest, List.foldl_append, List.foldl_cons, List.foldl_nil]

theorem mem_welcomed {trace : List (Told Party Message)} {party : Party} :
    party ∈ welcomed trace ↔ ∃ role, .welcome party role ∈ trace := by
  simp only [welcomed, List.mem_filterMap]
  constructor
  · rintro ⟨told, member, same⟩
    cases told with
    | welcome given role =>
        obtain rfl : given = party := by simpa using same
        exact ⟨role, member⟩
    | relay source target message => simp at same
  · exact fun ⟨role, member⟩ => ⟨_, member, rfl⟩

/-- What the parties have been told agrees with the slots. -/
structure Knows (past : List (Told Party Message)) (lobby : Lobby Party) : Prop where
  held : ∀ role party, lobby.slots role = some party → newest role past = some party
  given : ∀ party role, .welcome party role ∈ past → lobby.former party = some role
  once : (welcomed past).Nodup

variable [DecidableEq Party] {first second last : Lobby Party} {told : Told Party Message}
  {past trace : List (Told Party Message)}

theorem Knows.silent (knows : Knows past first) (move : first.Move (none : Option (Told Party Message)) second) :
    Knows past second := by
  cases move with
  | miss role party new parked =>
      refine ⟨knows.held, fun other given member => ?_, knows.once⟩
      have known := knows.given other given member
      have apart : other ≠ party := by
        rintro rfl
        simp [new] at known
      simpa [apart] using known
  | leave role =>
      refine ⟨fun other holder held => ?_, knows.given, knows.once⟩
      by_cases same : other = role
      · simp [same] at held
      · exact knows.held other holder (by simpa [same] using held)

theorem Knows.loud (knows : Knows past first) (move : first.Move (some told) second) :
    Knows (past ++ [told]) second := by
  cases move with
  | seat role party new parked =>
      have fresh : ∀ role, .welcome party role ∉ past := by
        intro role member
        simpa [new] using knows.given party role member
      refine ⟨fun other holder held => ?_, fun other given member => ?_, ?_⟩
      · rw [newest_snoc]
        by_cases same : role = other
        · subst same
          simpa using held
        · simp only [same, if_false]
          exact knows.held other holder (by simpa [Ne.symm same] using held)
      · rcases List.mem_append.mp member with old | new_
        · have apart : other ≠ party := by
            rintro rfl
            exact fresh given old
          simpa [apart] using knows.given other given old
        · simp only [List.mem_singleton, Told.welcome.injEq] at new_
          obtain ⟨rfl, rfl⟩ := new_
          simp
      · simp only [welcomed, List.filterMap_append]
        refine List.nodup_append.mpr ⟨knows.once, by simp, ?_⟩
        rintro other member _ last rfl
        obtain ⟨role, earlier⟩ := mem_welcomed.mp member
        obtain rfl : other = party := by simpa using last
        exact fresh role earlier
  | relay role source target message was holds =>
      refine ⟨fun other holder held => ?_, fun other given member => ?_, ?_⟩
      · rw [newest_snoc]
        exact knows.held other holder held
      · exact knows.given other given (by simpa using member)
      · simpa [welcomed] using knows.once

theorem Knows.moves (moves : Moves Lobby.Move Lobby.empty trace last) : Knows trace last := by
  have start : Knows ([] : List (Told Party Message)) (Lobby.empty : Lobby Party) :=
    ⟨by simp [Lobby.empty], by simp, by simp [welcomed]⟩
  exact moves.invariant Knows (fun _ _ _ knows => knows.silent) (fun _ _ _ _ knows => knows.loud)
    start

end Abstract

section Refinement
variable (env : Env) (state : State) (event : Event)

/-- The rendezvous that a room's state stands for. -/
def lobby : Lobby SocketId where
  slots role := state.live.bind fun ctx => (state.sockets ctx).find? (state.holds · role)
  former ws :=
    match state.admission ws with
    | some (.admitted role) => some role
    | _ => none

/-- What the clients are told in one step on the sockets that are open. Only the answer to a phone
carries a registration token. -/
def heard (met : State × Event) : List (Told SocketId Frame) :=
  (acts env met.1 met.2).filterMap fun
    | .send ws (.ok token) =>
        if met.1.routable ws then some (.welcome ws (if token.isSome then .phone else .mac))
        else none
    | .send ws (.relayed frame) =>
        if met.1.routable ws then met.1.draining.map (.relay · ws frame) else none
    | _ => none

variable {env state event}

end Refinement

/-- What the clients of a room are told in a run. -/
def trace (env : Env) (events : List Event) : List (Told SocketId Frame) :=
  (steps env events).flatMap (heard env)

end Relay
