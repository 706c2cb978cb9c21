import CompanionRelay.Framing
import CompanionRelay.Utf8

/-!
canonicalEncode is length-prefixed concatenation, so a signed or hashed text has one
reading: its domain and its fields. The four kinds of text have four domains.
-/

namespace Relay

/-- The preimage of sharding/room.js roomName. -/
def roomPreimage (rs : Bytes) (pid : String) : Bytes :=
  canonicalEncode "iterm2-room" [rs, utf8 pid]

/-- Every element of an encoding has a length that four bytes can hold. -/
def Encodable (domain : String) (fields : List Bytes) : Prop :=
  ∀ elem ∈ utf8 domain :: fields, elem.length < 2 ^ 32

inductive Kind
  | join
  | delete
  | attest
  | room
  deriving DecidableEq

def Kind.domain : Kind → String
  | .join => "iterm2-relay-join"
  | .delete => "iterm2-relay-delete"
  | .attest => "iterm2-relay-attest"
  | .room => "iterm2-room"

/-- The texts that are signed or hashed, by what they are made of. -/
inductive Preimage
  | join (role : Role) (nonce : String) (roomName origin : String)
  | delete (challenge : String) (roomName origin : String)
  | attest (challenge : String) (origin : String)
  | room (rs : Bytes) (pid : String)

namespace Preimage

def kind : Preimage → Kind
  | .join _ _ _ _ => .join
  | .delete _ _ _ => .delete
  | .attest _ _ => .attest
  | .room _ _ => .room

def bytes : Preimage → Option Bytes
  | .join role nonce roomName origin => joinTranscript role nonce roomName origin
  | .delete challenge roomName origin => deleteTranscript challenge roomName origin
  | .attest challenge origin => attestData challenge origin
  | .room rs pid => some (roomPreimage rs pid)

def fields : Preimage → Option (List Bytes)
  | .join role nonce roomName origin =>
      (b64ToBytes nonce).map fun nonce => [[1], [roleByte role], nonce, utf8 roomName, utf8 origin]
  | .delete challenge roomName origin =>
      (b64ToBytes challenge).map fun challenge => [[1], challenge, utf8 roomName, utf8 origin]
  | .attest challenge origin => (b64ToBytes challenge).map fun challenge => [challenge, utf8 origin]
  | .room rs pid => some [rs, utf8 pid]

/-- Every field has a length that four bytes can hold. -/
def Fits (preimage : Preimage) : Prop :=
  ∀ fields, preimage.fields = some fields → ∀ field ∈ fields, field.length < 2 ^ 32

end Preimage

section Bytes

theorem len32be_width (length : Nat) : (len32be length).length = 4 := rfl

theorem len32be_apart (first second : Nat) (short : first < 2 ^ 32) (short' : second < 2 ^ 32)
    (same : len32be first = len32be second) : first = second := by
  simp only [len32be, List.cons.injEq, and_true] at same
  obtain ⟨byte3, byte2, byte1, byte0⟩ := same
  have byte3 := congrArg UInt8.toNat byte3
  have byte2 := congrArg UInt8.toNat byte2
  have byte1 := congrArg UInt8.toNat byte1
  have byte0 := congrArg UInt8.toNat byte0
  simp only [UInt8.toNat_ofNat'] at byte3 byte2 byte1 byte0
  omega

end Bytes

theorem canonicalEncode_frames (domain : String) (fields : List Bytes) :
    canonicalEncode domain fields = Framing.frames len32be (utf8 domain :: fields) := rfl

theorem encode_read {domain domain' : String} {fields fields' : List Bytes}
    (short : Encodable domain fields) (short' : Encodable domain' fields')
    (same : canonicalEncode domain fields = canonicalEncode domain' fields') :
    domain = domain' ∧ fields = fields' := by
  rw [canonicalEncode_frames, canonicalEncode_frames] at same
  have elems := Framing.frames_injective len32be_width len32be_apart (by decide) short short' same
  obtain ⟨domains, rest⟩ := List.cons.inj elems
  exact ⟨utf8_injective domains, rest⟩

theorem domain_read {domain domain' : String} {fields fields' : List Bytes}
    (short : (utf8 domain).length < 2 ^ 32) (short' : (utf8 domain').length < 2 ^ 32)
    (same : canonicalEncode domain fields = canonicalEncode domain' fields') :
    domain = domain' := by
  rw [canonicalEncode_frames, canonicalEncode_frames] at same
  exact utf8_injective (Framing.frames_head len32be_width len32be_apart short short' same)

namespace Preimage
variable {first second : Preimage} {text : Bytes}

theorem bytes_fields (preimage : Preimage) :
    preimage.bytes = preimage.fields.map (canonicalEncode preimage.kind.domain) := by
  cases preimage with
  | join role nonce roomName origin =>
      simp [bytes, fields, joinTranscript, kind, Kind.domain, Function.comp_def]
  | delete challenge roomName origin =>
      simp [bytes, fields, deleteTranscript, kind, Kind.domain, Function.comp_def]
  | attest challenge origin =>
      simp [bytes, fields, attestData, kind, Kind.domain, Function.comp_def]
  | room rs pid => rfl

theorem domain_short (kind : Kind) : (utf8 kind.domain).length < 2 ^ 32 := by
  rw [utf8_length]
  cases kind <;> decide

-- Texts of two kinds differ, whatever they are made of.
theorem kind_read (text_ : first.bytes = some text) (same : second.bytes = some text) :
    first.kind = second.kind := by
  rw [bytes_fields, Option.map_eq_some_iff] at text_ same
  obtain ⟨_, _, encoded⟩ := text_
  obtain ⟨_, _, encoded'⟩ := same
  have domains := domain_read (domain_short _) (domain_short _) (encoded.trans encoded'.symm)
  generalize first.kind = kind at domains
  generalize second.kind = other at domains
  revert domains
  cases kind <;> cases other <;> decide

theorem fields_read (fits : first.Fits) (fits' : second.Fits) (text_ : first.bytes = some text)
    (same : second.bytes = some text) : first.fields = second.fields := by
  rw [bytes_fields, Option.map_eq_some_iff] at text_ same
  obtain ⟨fields, found, encoded⟩ := text_
  obtain ⟨fields', found', encoded'⟩ := same
  have short : Encodable first.kind.domain fields :=
    List.forall_mem_cons.mpr ⟨domain_short _, fits fields found⟩
  have short' : Encodable second.kind.domain fields' :=
    List.forall_mem_cons.mpr ⟨domain_short _, fits' fields' found'⟩
  rw [found, found', (encode_read short short' (encoded.trans encoded'.symm)).2]

end Preimage

theorem roleByte_injective : Function.Injective roleByte := by
  intro first second same
  revert same
  cases first <;> cases second <;> decide

/-- canonicalEncode is injective, so a join or delete transcript has one reading, and no text
of one kind is a text of another kind. -/
theorem transcripts_read :
    (∀ domain domain' fields fields', Encodable domain fields → Encodable domain' fields' →
      canonicalEncode domain fields = canonicalEncode domain' fields' →
      domain = domain' ∧ fields = fields') ∧
    (∀ role role' nonce nonce' roomName roomName' origin origin' text,
      (Preimage.join role nonce roomName origin).Fits →
      (Preimage.join role' nonce' roomName' origin').Fits →
      joinTranscript role nonce roomName origin = some text →
      joinTranscript role' nonce' roomName' origin' = some text →
      role = role' ∧ b64ToBytes nonce = b64ToBytes nonce' ∧ roomName = roomName' ∧
        origin = origin') ∧
    (∀ challenge challenge' roomName roomName' origin origin' text,
      (Preimage.delete challenge roomName origin).Fits →
      (Preimage.delete challenge' roomName' origin').Fits →
      deleteTranscript challenge roomName origin = some text →
      deleteTranscript challenge' roomName' origin' = some text →
      b64ToBytes challenge = b64ToBytes challenge' ∧ roomName = roomName' ∧ origin = origin') ∧
    ∀ (first second : Preimage) text, first.bytes = some text → second.bytes = some text →
      first.kind = second.kind := by
  refine ⟨fun _ _ _ _ => encode_read, ?_, ?_, fun _ _ _ => Preimage.kind_read⟩
  · intro role role' nonce nonce' roomName roomName' origin origin' text fits fits' text_ same
    have fields := Preimage.fields_read fits fits' text_ same
    simp only [joinTranscript, Option.map_eq_some_iff] at text_ same
    obtain ⟨decoded, found, _⟩ := text_
    obtain ⟨decoded', found', _⟩ := same
    simp only [Preimage.fields, found, found', Option.map_some, Option.some.injEq, List.cons.injEq,
      true_and, and_true] at fields
    obtain ⟨roles, nonces, rooms, origins⟩ := fields
    exact ⟨roleByte_injective roles, by rw [found, found', nonces], utf8_injective rooms,
      utf8_injective origins⟩
  · intro challenge challenge' roomName roomName' origin origin' text fits fits' text_ same
    have fields := Preimage.fields_read fits fits' text_ same
    simp only [deleteTranscript, Option.map_eq_some_iff] at text_ same
    obtain ⟨decoded, found, _⟩ := text_
    obtain ⟨decoded', found', _⟩ := same
    simp only [Preimage.fields, found, found', Option.map_some, Option.some.injEq, List.cons.injEq,
      true_and, and_true] at fields
    obtain ⟨challenges, rooms, origins⟩ := fields
    exact ⟨by rw [found, found', challenges], utf8_injective rooms, utf8_injective origins⟩

theorem transcripts_read_one_field :
    "iterm2-room" = "iterm2-room" ∧ ([[7]] : List Bytes) = [[7]] := by
  have short : Encodable "iterm2-room" [[7]] := by
    simp only [Encodable, List.forall_mem_cons, utf8_length]
    decide
  exact transcripts_read.1 "iterm2-room" "iterm2-room" [[7]] [[7]] short short rfl

end Relay
