import CompanionRelay.Wire
import CompanionRelay.Base64

/-!
The byte strings of src/room.js that are signed or hashed: canonicalEncode, the
join and delete transcripts, and the data an attestation or an assertion binds.
-/

namespace Relay

def utf8 (text : String) : Bytes := text.toUTF8.toList

def b64 (bytes : Bytes) : String := Base64.btoa bytes

def b64ToBytes (text : String) : Option Bytes := Base64.atob text

def len32be (length : Nat) : Bytes :=
  [UInt8.ofNat (length / 2 ^ 24), UInt8.ofNat (length / 2 ^ 16), UInt8.ofNat (length / 2 ^ 8),
    UInt8.ofNat length]

def canonicalEncode (domain : String) (fields : List Bytes) : Bytes :=
  (utf8 domain :: fields).flatMap fun elem => len32be elem.length ++ elem

def roleByte : Role → UInt8
  | .mac => 1
  | .phone => 2

/-- `none` is the exception of atob on a nonce that is not base64. -/
def joinTranscript (role : Role) (nonceB64 roomName origin : String) : Option Bytes :=
  (b64ToBytes nonceB64).map fun nonce =>
    canonicalEncode "iterm2-relay-join" [[1], [roleByte role], nonce, utf8 roomName, utf8 origin]

def deleteTranscript (challengeB64 roomName origin : String) : Option Bytes :=
  (b64ToBytes challengeB64).map fun challenge =>
    canonicalEncode "iterm2-relay-delete" [[1], challenge, utf8 roomName, utf8 origin]

/-- The preimage of clientDataHash in handleAttest and handleRegister. -/
def attestData (challengeB64 origin : String) : Option Bytes :=
  (b64ToBytes challengeB64).map fun challenge =>
    canonicalEncode "iterm2-relay-attest" [challenge, utf8 origin]

@[simp] theorem b64ToBytes_b64 (bytes : Bytes) : b64ToBytes (b64 bytes) = some bytes :=
  Base64.atob_btoa bytes

end Relay
