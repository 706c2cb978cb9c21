import Mathlib.Algebra.GroupWithZero.Nat
import Mathlib.Data.Rat.Defs
import Mathlib.Data.List.AList

/-!
The data a room exchanges and stores: frames and parsed JSON, the socket
attachment of the admission state machine, the rows of the room's kv table, and
the constants of src/room.js. The keys `ticket:`, `regtoken:`, `attestchallenge:`
and `assertcounter:` are one table each, indexed by what follows the prefix.
-/

namespace Relay

abbrev Bytes := List UInt8
abbrev SocketId := Nat
-- One `RoomContext` object; a room name has a new one after each eviction.
abbrev ContextId := Nat

def protocolVersion : Rat := 1
def regTokenTtlMs : Nat := 5 * 60 * 1000
def attestChallengeTtlMs : Nat := 5 * 60 * 1000
def ticketTtlMs : Nat := 5 * 60 * 1000
def maxOutstandingChallenges : Nat := 16
def maxPreauthSockets : Nat := 4
def preauthDeadlineMs : Nat := 15 * 1000
def admissionWindowMs : Nat := 10 * 1000
def maxAdmissionAttempts : Nat := 40
def maxPairingCycles : Nat := 8
def maxFrameBytes : Nat := 256 * 1024
def maxControlBytes : Nat := 8 * 1024
def frameWindowMs : Nat := 1000
def maxFramesPerWindow : Nat := 500
def quotaWindowMs : Nat := 24 * 60 * 60 * 1000
def defaultDailyByteQuota : Int := 512 * 1024 * 1024
def quotaFlushBytes : Nat := 4 * 1024 * 1024
def housekeepingIntervalMs : Nat := 15 * 1000
def defaultEstablishedIdleTtlMs : Nat := 30 * 24 * 60 * 60 * 1000
-- host/runtime.js: the retry after an alarm() that throws.
def alarmRetryMs : Nat := 30 * 1000
-- sharding/wireCodes.js: the close code of a drained room.
def wsReshardCode : Nat := 4421

inductive Role
  | mac
  | phone
  deriving DecidableEq, Repr

def Role.other : Role → Role
  | .mac => .phone
  | .phone => .mac

@[simp] theorem Role.other_other (role : Role) : role.other.other = role := by
  cases role <;> rfl

@[simp] theorem Role.other_ne (role : Role) : role.other ≠ role := by
  cases role <;> decide

/-- A WebSocket message: text arrives as a string, binary as a buffer. -/
inductive Frame
  | text (content : String)
  | binary (content : Bytes)
  deriving DecidableEq

def utf16Length (text : String) : Nat :=
  (text.toList.map fun char => if char.toNat < 0x10000 then 1 else 2).sum

/-- `message.length` of a string, `message.byteLength` of a buffer. -/
def Frame.size : Frame → Nat
  | .text content => utf16Length content
  | .binary content => content.length

inductive Json
  | null
  | bool (value : Bool)
  | num (value : Rat)
  | str (value : String)
  | arr (items : List Json)
  | obj (fields : List (String × Json))

/-- Reading `value.key`: `none` is the TypeError of a read on null, `some none`
is undefined. -/
def Json.read (key : String) : Json → Option (Option Json)
  | .null => none
  | .obj fields => some (fields.lookup key)
  | _ => some none

/-- The two outcomes of `typeof value.key === "string"`, after the read itself. -/
def Json.readString (key : String) (value : Json) : Option (Option String) :=
  match value.read key with
  | none => none
  | some (some (.str text)) => some (some text)
  | some _ => some none

/-- JavaScript truth of a stored string: absent and empty are both false. -/
def truthy : Option String → Option String
  | some text => if text = "" then none else some text
  | none => none

inductive Admission
  | hello
  | challenged (role : Role) (nonce : String) (nonDisplacing : Bool)
  | admitted (role : Role)
  deriving DecidableEq

structure Attachment where
  admission : Admission
  roomName : String
  tag : Option String
  connectedAt : Nat
  deriving DecidableEq

structure Quota where
  dayStart : Nat
  bytes : Nat
  deriving DecidableEq

structure Window where
  start : Nat := 0
  count : Nat := 0
  deriving DecidableEq

structure TicketRec where
  expiresAt : Nat
  keyId : String
  publicKey : String
  deriving DecidableEq

structure AttestedKey where
  keyId : String
  publicKey : String
  deriving DecidableEq

structure RegTokenRec where
  expiresAt : Nat
  attested : Option AttestedKey
  deriving DecidableEq

abbrev Table (Row : Type) := AList fun _ : String => Row

/-- The rows of one room in the kv table. -/
structure Store where
  verifier : Option String := none
  lastActivity : Option Nat := none
  pairingCycles : Option Nat := none
  quota : Option Quota := none
  registrantKeyId : Option String := none
  assertCounters : Table Nat := ∅
  tickets : Table TicketRec := ∅
  regTokens : Table RegTokenRec := ∅
  challenges : Table Nat := ∅
  deriving DecidableEq

inductive Row
  | verifier (value : String)
  | lastActivity (time : Nat)
  | pairingCycles (count : Nat)
  | quota (value : Quota)
  | registrantKeyId (keyId : String)
  | assertCounter (keyId : String) (counter : Nat)
  | ticket (ticket : String) (rec : TicketRec)
  | regToken (token : String) (rec : RegTokenRec)
  | challenge (challenge : String) (expiresAt : Nat)
  deriving DecidableEq

/-- The keys room.js deletes one by one. -/
inductive Key
  | ticket (ticket : String)
  | regToken (token : String)
  | challenge (challenge : String)
  deriving DecidableEq

def Store.put (store : Store) : Row → Store
  | .verifier value => { store with verifier := some value }
  | .lastActivity time => { store with lastActivity := some time }
  | .pairingCycles count => { store with pairingCycles := some count }
  | .quota value => { store with quota := some value }
  | .registrantKeyId keyId => { store with registrantKeyId := some keyId }
  | .assertCounter keyId counter =>
      { store with assertCounters := store.assertCounters.insert keyId counter }
  | .ticket ticket rec => { store with tickets := store.tickets.insert ticket rec }
  | .regToken token rec => { store with regTokens := store.regTokens.insert token rec }
  | .challenge challenge expiresAt =>
      { store with challenges := store.challenges.insert challenge expiresAt }

def Store.delete (store : Store) : Key → Store
  | .ticket ticket => { store with tickets := store.tickets.erase ticket }
  | .regToken token => { store with regTokens := store.regTokens.erase token }
  | .challenge challenge => { store with challenges := store.challenges.erase challenge }

/-- Room.rateLimited: the bumped window, and whether it now exceeds `max`. -/
def rateLimited (window : Window) (now max windowMs : Nat) : Window × Bool :=
  let fresh : Window := if now - window.start > windowMs then ⟨now, 0⟩ else window
  let bumped : Window := ⟨fresh.start, fresh.count + 1⟩
  (bumped, bumped.count > max)

end Relay
