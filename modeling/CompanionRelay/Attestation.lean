import CompanionRelay.Cbor
import CompanionRelay.NonceExtension

/-!
verifyAttestation of src/appattest.js, over what it takes from X.509 and WebCrypto. It
accepts an attestation that is right in every field, and two kinds that are not: authData
that ends with 32 bytes of a credentialId that declares more, and a nonce extension whose
other lengths are not those of DER.
-/

namespace Relay

open Cbor (Value)

section Platform

abbrev Digest := { bytes : Bytes // bytes.length = 32 }

/-- X.509 certificates and WebCrypto. -/
structure Platform (Certificate Key : Type) where
  -- new x509.X509Certificate, of DER and of PEM
  parse : Bytes → Except String Certificate
  parsePem : String → Except String Certificate
  notBefore : Certificate → Int
  notAfter : Certificate → Int
  exportKey : Certificate → Except String Key
  verify : Certificate → Key → Except String Bool
  getExtension : Certificate → String → Option Bytes
  exportRaw : Key → Except String Bytes
  digest : Bytes → Digest

structure AttestationRequest where
  attestationObject : Bytes
  clientDataHash : Bytes
  appId : String
  environment : String
  trustedRootPem : String
  now : Int

inductive AttestThrown
  | appAttest (message : String)
  -- AppAttestError("malformed attestation CBOR: " + the message of what was thrown)
  | malformed (thrown : Cbor.Thrown)
  -- AppAttestError("certificate parse failed: " + the message of what was thrown)
  | certificates (message : String)
  -- what X.509, WebCrypto or a method of a typed array throws
  | platform (message : String)
  deriving DecidableEq

end Platform

section Code
variable {Certificate Key : Type} (platform : Platform Certificate Key) (request : AttestationRequest)

def nonceOid : String := "1.2.840.113635.100.8.2"

def textToAaguid (text : String) : Bytes := utf8 text ++ List.replicate (16 - (utf8 text).length) 0

def aaguidProd : Bytes := textToAaguid "appattest"
def aaguidDev : Bytes := textToAaguid "appattestdevelop"

def expectedAaguid (environment : String) : Bytes :=
  if environment = "development" then aaguidDev else aaguidProd

def equalBytes (a b : Bytes) : Bool :=
  if a.length ≠ b.length then false
  else (a.zip b).foldl (fun diff (first, second) => diff ||| (first ^^^ second)) 0 == 0

def require (condition : Prop) [Decidable condition] (message : String) : Except AttestThrown Unit :=
  if condition then .ok () else .error (.appAttest message)

/-- The value of a property, own or inherited, that no built-in object has. -/
def Cbor.Value.get : Value → String → Option Value
  | .object fields, key => fields.lookup key
  | .derived proto fields, key => (fields.lookup key).or (proto.get key)
  | _, _ => none

def Cbor.Value.isTruthy : Value → Bool
  | .num number => number ≠ 0
  | .text content => content ≠ ""
  | _ => true

/-- What the attestation object has where it is looked for. -/
structure AttestationShape where
  authData : Value
  leaf : Value
  intermediate : Value

def readShape (obj : Value) : Except AttestThrown AttestationShape :=
  match obj.get "fmt" with
  | some (.text "apple-appattest") =>
      match obj.get "attStmt", obj.get "authData" with
      | some attStmt, some authData =>
          if attStmt.isTruthy ∧ authData.isUint8Array then
            match attStmt.get "x5c" with
            | some (.array (leaf :: intermediate :: _)) =>
                if leaf.isUint8Array ∧ intermediate.isUint8Array then .ok ⟨authData, leaf, intermediate⟩
                else .error (.appAttest "missing or malformed certificate chain")
            | _ => .error (.appAttest "missing or malformed certificate chain")
          else .error (.appAttest "bad attestation shape")
      | _, _ => .error (.appAttest "bad attestation shape")
  | _ => .error (.appAttest "unexpected attestation format")

structure Chain (Certificate : Type) where
  credCert : Certificate
  intermediate : Certificate
  root : Certificate

/-- An object that only inherits from a typed array has no bytes: the methods of one throw. -/
def contentOf : Value → Except String Bytes
  | .bytes content => .ok content
  | _ => .error "this is not a typed array."

def readChain (shape : AttestationShape) : Except String (Chain Certificate) := do
  let credCert ← platform.parse (← contentOf shape.leaf)
  let intermediate ← platform.parse (← contentOf shape.intermediate)
  let root ← platform.parsePem request.trustedRootPem
  pure ⟨credCert, intermediate, root⟩

def isValidAt (now : Int) (certificate : Certificate) : Prop :=
  ¬(now < platform.notBefore certificate ∨ now > platform.notAfter certificate)

instance (now : Int) (certificate : Certificate) : Decidable (isValidAt platform now certificate) :=
  inferInstanceAs (Decidable ¬_)

/-- `certificate.verify` with the key of the issuer. -/
def isSignedBy (certificate issuer : Certificate) : Except AttestThrown Bool := do
  let key ← (platform.exportKey issuer).mapError .platform
  (platform.verify certificate key).mapError .platform

/-- 2. Chain and validity. -/
def checkChain (chain : Chain Certificate) : Except AttestThrown Unit := do
  require (isValidAt platform request.now chain.credCert) "certificate is expired or not yet valid"
  require (isValidAt platform request.now chain.intermediate) "certificate is expired or not yet valid"
  let signed ← isSignedBy platform chain.intermediate chain.root
  require (signed = true) "intermediate not signed by the trusted root"
  let signed ← isSignedBy platform chain.credCert chain.intermediate
  require (signed = true) "leaf not signed by the intermediate"

/-- 3. Nonce. -/
def checkNonce (credCert : Certificate) (authData : Bytes) : Except AttestThrown Unit := do
  let expectedNonce := platform.digest (authData ++ request.clientDataHash)
  match platform.getExtension credCert nonceOid with
  | none => .error (.appAttest "missing nonce extension")
  | some value => do
      let certNonce ← (parseNonceExtension value).mapError .appAttest
      require (equalBytes certNonce expectedNonce = true) "nonce mismatch"

/-- 4. The key id, and the public key in front of it. -/
def readKey (credCert : Certificate) : Except AttestThrown (Bytes × Bytes) := do
  let credKey ← (platform.exportKey credCert).mapError .platform
  let publicKeyRaw ← (platform.exportRaw credKey).mapError .platform
  pure (publicKeyRaw, (platform.digest publicKeyRaw).val)

/-- The AAGUID as text, without the padding. -/
def aaguidText (aaguid : Bytes) : String :=
  String.ofList (((TextDecoder.decode aaguid).toList.reverse.dropWhile (· = '\x00')).reverse)

def credIdLen (authData : Bytes) : Nat :=
  ((authData[53]?.map UInt8.toNat).getD 0) * 256 + (authData[54]?.map UInt8.toNat).getD 0

/-- 5. authData. -/
def checkAuthData (authData keyId : Bytes) : Except AttestThrown Unit := do
  require (37 ≤ authData.length) "authData too short"
  require (equalBytes (subarray authData 0 32) (platform.digest (utf8 request.appId)) = true)
    "rpIdHash (app id) mismatch"
  let aaguid := subarray authData 37 53
  require (equalBytes aaguid (expectedAaguid request.environment) = true)
    ("AAGUID/environment mismatch: got \"" ++ aaguidText aaguid ++ "\", env=\"" ++
      request.environment ++ "\"")
  let credentialId := subarray authData 55 (55 + credIdLen authData)
  require (equalBytes credentialId keyId = true) "credentialId does not match keyId"

/-- The key id and the public key. -/
def verifyAttestation : Except AttestThrown (Bytes × Bytes) := do
  let obj ← (Cbor.decode request.attestationObject).mapError .malformed
  let shape ← readShape obj
  let chain ← (readChain platform request shape).mapError .certificates
  checkChain platform request chain
  let authData ← (contentOf shape.authData).mapError .platform
  checkNonce platform request chain.credCert authData
  let (publicKeyRaw, keyId) ← readKey platform chain.credCert
  checkAuthData platform request authData keyId
  pure (keyId, publicKeyRaw)

end Code

section Statement
variable {Certificate Key : Type} (platform : Platform Certificate Key) (request : AttestationRequest)

/-- What an attestation says: the object decodes to a shape, the certificates parse, and the
authenticator data is a byte string. -/
structure Parts (Certificate : Type) where
  chain : Chain Certificate
  authData : Bytes

def Reads (parts : Parts Certificate) : Prop :=
  ∃ obj shape, Cbor.decode request.attestationObject = .ok obj ∧ readShape obj = .ok shape ∧
    readChain platform request shape = .ok parts.chain ∧ shape.authData = .bytes parts.authData

def SignedBy (certificate issuer : Certificate) : Prop :=
  ∃ key, platform.exportKey issuer = .ok key ∧ platform.verify certificate key = .ok true

def nonceOf (authData : Bytes) : Bytes := platform.digest (authData ++ request.clientDataHash)

/-- What is right in an attestation, but for the declared length of the credentialId and the
form of the nonce extension. -/
structure Checked (parts : Parts Certificate) (keyId publicKeyRaw : Bytes) : Prop where
  reads : Reads platform request parts
  anchored : SignedBy platform parts.chain.intermediate parts.chain.root
  issued : SignedBy platform parts.chain.credCert parts.chain.intermediate
  validLeaf : platform.notBefore parts.chain.credCert ≤ request.now ∧
    request.now ≤ platform.notAfter parts.chain.credCert
  validIntermediate : platform.notBefore parts.chain.intermediate ≤ request.now ∧
    request.now ≤ platform.notAfter parts.chain.intermediate
  app : parts.authData.take 32 = platform.digest (utf8 request.appId)
  aaguid : (parts.authData.drop 37).take 16 = expectedAaguid request.environment
  key : ∃ key, platform.exportKey parts.chain.credCert = .ok key ∧
    platform.exportRaw key = .ok publicKeyRaw ∧ keyId = platform.digest publicKeyRaw
  -- the 32 bytes from the place of the credentialId on, all of them there
  credential : (parts.authData.drop 55).take 32 = keyId

/-- What the claim asks of an attestation that is accepted. -/
structure Genuine (parts : Parts Certificate) (keyId publicKeyRaw : Bytes) : Prop extends
    Checked platform request parts keyId publicKeyRaw where
  declared : credIdLen parts.authData = 32
  nonce : platform.getExtension parts.chain.credCert nonceOid =
    some (nonceExtension (nonceOf platform request parts.authData))

/-- Acceptance is sound on this request. -/
def SoundAttestation : Prop :=
  ∀ keyId publicKeyRaw, verifyAttestation platform request = .ok (keyId, publicKeyRaw) →
    ∃ parts, Genuine platform request parts keyId publicKeyRaw

/-- The authenticator data ends 32 bytes into a credentialId that declares more. -/
def CutOff (authData : Bytes) : Prop := authData.length = 87 ∧ 32 < credIdLen authData

/-- An attestation that is right but for what is declared: its credentialId is not cut off
after 32 bytes, and its nonce is not in an extension that DER encodes otherwise. -/
def WellDeclared : Prop :=
  ∀ parts keyId publicKeyRaw extension, Checked platform request parts keyId publicKeyRaw →
    platform.getExtension parts.chain.credCert nonceOid = some extension →
    Carries extension (nonceOf platform request parts.authData) →
    ¬CutOff parts.authData ∧
      (credIdLen parts.authData = 32 → extension = nonceExtension (nonceOf platform request parts.authData))

end Statement

section Checks
variable {Certificate Key : Type} {platform : Platform Certificate Key} {request : AttestationRequest}

theorem require_ok {condition : Prop} [Decidable condition] {message : String} :
    require condition message = .ok () ↔ condition := by
  rw [require]
  split <;> simp [*]

theorem mapError_ok {Error Error' Result : Type} {thrown : Error → Error'} {read : Except Error Result}
    {result : Result} : read.mapError thrown = .ok result ↔ read = .ok result := by
  cases read <;> simp [Except.mapError]

theorem differences_iff {a b : Bytes} (lengths : a.length = b.length) (diff : UInt8) :
    (a.zip b).foldl (fun diff (first, second) => diff ||| (first ^^^ second)) diff = 0 ↔
      diff = 0 ∧ a = b := by
  induction a generalizing b diff with
  | nil =>
      rw [List.length_nil, eq_comm, List.length_eq_zero_iff] at lengths
      simp [lengths]
  | cons first a ih =>
      cases b with
      | nil => cases lengths
      | cons second b =>
          rw [List.length_cons, List.length_cons, Nat.add_right_cancel_iff] at lengths
          rw [List.zip_cons_cons, List.foldl_cons, ih lengths, UInt8.or_eq_zero_iff,
            UInt8.xor_eq_zero_iff, List.cons.injEq, and_assoc]

theorem equalBytes_iff {a b : Bytes} : equalBytes a b = true ↔ a = b := by
  rw [equalBytes]
  split
  · rename_i lengths
    exact ⟨nofun, fun same => absurd (congrArg List.length same) lengths⟩
  · rename_i lengths
    rw [beq_iff_eq, differences_iff (not_not.mp lengths)]
    exact and_iff_right rfl

theorem subarray_slice (bytes : Bytes) (first count : Nat) :
    subarray bytes first (first + count) = (bytes.drop first).take count := by
  have start : clampIndex bytes.length first = min first bytes.length := by
    rw [clampIndex, if_neg (by omega), Int.toNat_natCast]
  have stop : clampIndex bytes.length (first + count) = min (first + count) bytes.length := by
    rw [clampIndex, if_neg (by omega)]
    omega
  rw [subarray, start, stop, List.drop_take]
  by_cases inside : first ≤ bytes.length
  · rw [Nat.min_eq_left inside, List.take_eq_take_iff, List.length_drop]
    omega
  · have past : bytes.length ≤ first := by omega
    rw [Nat.min_eq_right past, List.drop_eq_nil_of_le (Nat.le_refl _), List.drop_eq_nil_of_le past,
      List.take_nil, List.take_nil]

theorem isSignedBy_iff {certificate issuer : Certificate} :
    isSignedBy platform certificate issuer = .ok true ↔ SignedBy platform certificate issuer := by
  rw [isSignedBy, Reading.bind_eq_ok]
  simp only [mapError_ok]
  rfl

theorem isValidAt_iff {now : Int} {certificate : Certificate} : isValidAt platform now certificate ↔
    platform.notBefore certificate ≤ now ∧ now ≤ platform.notAfter certificate := by
  rw [isValidAt, not_or, Int.not_lt, Int.not_lt]

theorem require_bind {condition : Prop} [Decidable condition] {message : String} {Result : Type}
    {rest : Unit → Except AttestThrown Result} {result : Result} :
    (require condition message >>= rest) = .ok result ↔ condition ∧ rest () = .ok result := by
  rw [Reading.bind_eq_ok]
  exact ⟨fun ⟨_, passed, more⟩ => ⟨require_ok.mp passed, more⟩,
    fun ⟨passed, more⟩ => ⟨(), require_ok.mpr passed, more⟩⟩

theorem checkChain_iff {chain : Chain Certificate} : checkChain platform request chain = .ok () ↔
    (platform.notBefore chain.credCert ≤ request.now ∧ request.now ≤ platform.notAfter chain.credCert) ∧
    (platform.notBefore chain.intermediate ≤ request.now ∧
      request.now ≤ platform.notAfter chain.intermediate) ∧
    SignedBy platform chain.intermediate chain.root ∧ SignedBy platform chain.credCert chain.intermediate := by
  rw [checkChain, require_bind, require_bind, isValidAt_iff, isValidAt_iff, ← isSignedBy_iff,
    ← isSignedBy_iff, Reading.bind_eq_ok]
  refine and_congr_right' (and_congr_right' ⟨?_, ?_⟩)
  · rintro ⟨signed, first, rest⟩
    rw [require_bind] at rest
    obtain ⟨rfl, rest⟩ := rest
    obtain ⟨signed, second, rest⟩ := Reading.bind_eq_ok.mp rest
    rw [require_ok] at rest
    subst rest
    exact ⟨first, second⟩
  · rintro ⟨first, second⟩
    refine ⟨true, first, require_bind.mpr ⟨rfl, Reading.bind_eq_ok.mpr ⟨true, second, ?_⟩⟩⟩
    exact require_ok.mpr rfl

theorem checkNonce_iff {credCert : Certificate} {authData : Bytes} :
    checkNonce platform request credCert authData = .ok () ↔
      ∃ extension, platform.getExtension credCert nonceOid = some extension ∧
        Carries extension (nonceOf platform request authData) := by
  have whole : (nonceOf platform request authData).length = 32 := (platform.digest _).2
  rw [checkNonce]
  cases platform.getExtension credCert nonceOid with
  | none => exact ⟨nofun, nofun⟩
  | some value =>
      simp only [Reading.bind_eq_ok, mapError_ok, require_ok, equalBytes_iff, Option.some.injEq,
        exists_eq_left', ← parseNonceExtension_iff whole]
      constructor
      · rintro ⟨certNonce, parsed, rfl⟩
        exact parsed
      · intro parsed
        exact ⟨_, parsed, rfl⟩

theorem readKey_iff {credCert : Certificate} {keyId publicKeyRaw : Bytes} :
    readKey platform credCert = .ok (publicKeyRaw, keyId) ↔
      ∃ key, platform.exportKey credCert = .ok key ∧ platform.exportRaw key = .ok publicKeyRaw ∧
        keyId = platform.digest publicKeyRaw := by
  simp only [readKey, Reading.bind_eq_ok, mapError_ok, pure, Except.pure, Except.ok.injEq,
    Prod.mk.injEq]
  constructor
  · rintro ⟨key, exported, raw, raw', rfl, rfl⟩
    exact ⟨key, exported, raw', rfl⟩
  · rintro ⟨key, exported, raw', rfl⟩
    exact ⟨key, exported, _, raw', rfl, rfl⟩

theorem checkAuthData_iff {authData keyId : Bytes} (whole : keyId.length = 32) :
    checkAuthData platform request authData keyId = .ok () ↔
      authData.take 32 = platform.digest (utf8 request.appId) ∧
      (authData.drop 37).take 16 = expectedAaguid request.environment ∧
      (authData.drop 55).take 32 = keyId ∧ (credIdLen authData = 32 ∨ CutOff authData) := by
  have app : subarray authData 0 32 = authData.take 32 := subarray_slice authData 0 32
  have aaguid : subarray authData 37 53 = (authData.drop 37).take 16 := subarray_slice authData 37 16
  have credential : subarray authData 55 (55 + credIdLen authData) =
      (authData.drop 55).take (credIdLen authData) := subarray_slice authData 55 (credIdLen authData)
  simp only [checkAuthData, require_bind, require_ok, equalBytes_iff, app, aaguid, credential]
  constructor
  · rintro ⟨long, appHash, service, same⟩
    have lengths := congrArg List.length same
    rw [whole, List.length_take, List.length_drop] at lengths
    by_cases exact' : credIdLen authData = 32
    · rw [exact'] at same
      exact ⟨appHash, service, same, .inl exact'⟩
    · have cut : CutOff authData := ⟨by omega, by omega⟩
      have all : (authData.drop 55).length = 32 := by rw [List.length_drop, cut.1]
      rw [List.take_of_length_le (by omega)] at same
      rw [List.take_of_length_le all.le]
      exact ⟨appHash, service, same, .inr cut⟩
  · rintro ⟨appHash, service, same, declared⟩
    have lengths := congrArg List.length same
    rw [whole, List.length_take, List.length_drop] at lengths
    refine ⟨by omega, appHash, service, ?_⟩
    rcases declared with exact' | cut
    · rw [exact', same]
    · have all : (authData.drop 55).length = 32 := by rw [List.length_drop, cut.1]
      rw [List.take_of_length_le (by rw [all]; exact cut.2.le), ← same, List.take_of_length_le all.le]

theorem readChain_unique {parts parts' : Parts Certificate} (reads : Reads platform request parts)
    (reads' : Reads platform request parts') : parts = parts' := by
  obtain ⟨obj, shape, decoded, shaped, chain, data⟩ := reads
  obtain ⟨obj', shape', decoded', shaped', chain', data'⟩ := reads'
  rw [decoded] at decoded'
  cases decoded'
  rw [shaped] at shaped'
  cases shaped'
  rw [chain, Except.ok.injEq] at chain'
  rw [data, Value.bytes.injEq] at data'
  cases parts
  cases parts'
  congr

-- What verifyAttestation accepts: an attestation that is right but for the two lengths, when
-- the nonce is found and 32 bytes of the credentialId are.
theorem verifyAttestation_iff {keyId publicKeyRaw : Bytes} :
    verifyAttestation platform request = .ok (keyId, publicKeyRaw) ↔
      ∃ parts extension, Checked platform request parts keyId publicKeyRaw ∧
        platform.getExtension parts.chain.credCert nonceOid = some extension ∧
        Carries extension (nonceOf platform request parts.authData) ∧
        (credIdLen parts.authData = 32 ∨ CutOff parts.authData) := by
  constructor
  · intro accepted
    obtain ⟨obj, decoded, accepted⟩ := Reading.bind_eq_ok.mp accepted
    obtain ⟨shape, shaped, accepted⟩ := Reading.bind_eq_ok.mp accepted
    obtain ⟨chain, chained, accepted⟩ := Reading.bind_eq_ok.mp accepted
    obtain ⟨⟨⟩, checked, accepted⟩ := Reading.bind_eq_ok.mp accepted
    obtain ⟨authData, content, accepted⟩ := Reading.bind_eq_ok.mp accepted
    obtain ⟨⟨⟩, nonce, accepted⟩ := Reading.bind_eq_ok.mp accepted
    obtain ⟨⟨raw, key⟩, keyed, accepted⟩ := Reading.bind_eq_ok.mp accepted
    obtain ⟨⟨⟩, data, accepted⟩ := Reading.bind_eq_ok.mp accepted
    cases accepted
    rw [mapError_ok] at decoded chained content
    rw [checkChain_iff] at checked
    rw [checkNonce_iff] at nonce
    rw [readKey_iff] at keyed
    obtain ⟨credKey, exported, exportedRaw, hashed⟩ := keyed
    have whole : keyId.length = 32 := hashed ▸ (platform.digest publicKeyRaw).2
    rw [checkAuthData_iff whole] at data
    obtain ⟨extension, found, carried⟩ := nonce
    obtain ⟨validLeaf, validIntermediate, anchored, issued⟩ := checked
    obtain ⟨app, aaguid, credential, declared⟩ := data
    have bytes : shape.authData = .bytes authData := by
      unfold contentOf at content
      split at content
      · rename_i same
        cases content
        exact same
      · cases content
    exact ⟨⟨chain, authData⟩, extension,
      { reads := ⟨obj, shape, decoded, shaped, chained, bytes⟩
        anchored, issued, validLeaf, validIntermediate, app, aaguid, credential
        key := ⟨credKey, exported, exportedRaw, hashed⟩ }, found, carried, declared⟩
  · rintro ⟨⟨chain, authData⟩, extension, checked, found, carried, declared⟩
    obtain ⟨obj, shape, decoded, shaped, chained, bytes⟩ := checked.reads
    have keyed := readKey_iff.mpr checked.key
    obtain ⟨credKey, exported, exportedRaw, hashed⟩ := checked.key
    have whole : keyId.length = 32 := hashed ▸ (platform.digest publicKeyRaw).2
    have content : contentOf shape.authData = .ok authData := by rw [bytes]; rfl
    have chainChecked := checkChain_iff.mpr
      ⟨checked.validLeaf, checked.validIntermediate, checked.anchored, checked.issued⟩
    have nonce := checkNonce_iff.mpr ⟨extension, found, carried⟩
    have data := (checkAuthData_iff whole).mpr
      ⟨checked.app, checked.aaguid, checked.credential, declared⟩
    rw [verifyAttestation]
    simp only [Reading.bind_eq_ok, mapError_ok]
    exact ⟨obj, decoded, shape, shaped, chain, chained, (), chainChecked, authData, content, (), nonce,
      (publicKeyRaw, keyId), keyed, (), data, rfl⟩

end Checks

/-- Every attestation that is accepted is genuine if and only if no attestation that is right
otherwise has one of the two defects. -/
theorem sound_attestation_iff {Certificate Key : Type} (platform : Platform Certificate Key)
    (request : AttestationRequest) :
    SoundAttestation platform request ↔ WellDeclared platform request := by
  constructor
  · intro sound parts keyId publicKeyRaw extension checked found carried
    have genuine (declared : credIdLen parts.authData = 32 ∨ CutOff parts.authData) :
        Genuine platform request parts keyId publicKeyRaw := by
      obtain ⟨parts', genuine⟩ := sound keyId publicKeyRaw
        (verifyAttestation_iff.mpr ⟨parts, extension, checked, found, carried, declared⟩)
      rw [readChain_unique checked.reads genuine.reads]
      exact genuine
    constructor
    · intro cut
      have declared := (genuine (.inr cut)).declared
      have longer := cut.2
      omega
    · intro declared
      have nonce := (genuine (.inl declared)).nonce
      rw [found] at nonce
      exact Option.some.inj nonce
  · intro declares keyId publicKeyRaw accepted
    obtain ⟨parts, extension, checked, found, carried, declared⟩ := verifyAttestation_iff.mp accepted
    obtain ⟨whole, encoded⟩ := declares parts keyId publicKeyRaw extension checked found carried
    have exact' := declared.resolve_right whole
    exact ⟨parts, { checked with declared := exact', nonce := encoded exact' ▸ found }⟩

section Defects

/-- Certificates that hold nothing but the value of the nonce extension. -/
def plainPlatform : Platform Bytes Unit where
  parse certificate := .ok certificate
  parsePem _ := .ok []
  notBefore _ := 0
  notAfter _ := 1
  exportKey _ := .ok ()
  verify _ _ := .ok true
  getExtension certificate _ := some certificate
  exportRaw _ := .ok []
  digest _ := ⟨List.replicate 32 0, rfl⟩

def ascii (text : String) : Bytes := text.toList.map fun char => UInt8.ofNat char.toNat

def zeroAuthData (declared : UInt8) : Bytes :=
  List.replicate 37 0 ++ (ascii "appattest" ++ List.replicate 7 0) ++ [0, declared] ++ List.replicate 32 0

def attestationOf (extension : Bytes) (declared : UInt8) : AttestationRequest where
  attestationObject := [0xa3, 0x63] ++ ascii "fmt" ++ 0x6f :: ascii "apple-appattest" ++
    0x67 :: ascii "attStmt" ++ [0xa1, 0x63] ++ ascii "x5c" ++ [0x82, 0x58, 38] ++ extension ++ [0x40] ++
    0x68 :: ascii "authData" ++ [0x58, 87] ++ zeroAuthData declared
  clientDataHash := []
  appId := ""
  environment := "production"
  trustedRootPem := ""
  now := 0

def zeroNonce : Bytes := List.replicate 32 0

def attestationParts (extension : Bytes) (declared : UInt8) : Parts Bytes where
  chain := ⟨extension, [], []⟩
  authData := zeroAuthData declared

theorem attestationOf_reads {extension : Bytes} {declared : UInt8}
    (decoded : Cbor.decode (attestationOf extension declared).attestationObject =
      .ok (.object [("fmt", .text "apple-appattest"),
        ("attStmt", .object [("x5c", .array [.bytes extension, .bytes []])]),
        ("authData", .bytes (zeroAuthData declared))])) :
    Reads plainPlatform (attestationOf extension declared) (attestationParts extension declared) :=
  ⟨_, ⟨.bytes (zeroAuthData declared), .bytes extension, .bytes []⟩, decoded, rfl, rfl, rfl⟩

theorem attestationOf_accepted {extension : Bytes} {declared : UInt8}
    (reads : Reads plainPlatform (attestationOf extension declared) (attestationParts extension declared))
    (carried : Carries extension zeroNonce)
    (enough : credIdLen (zeroAuthData declared) = 32 ∨ CutOff (zeroAuthData declared)) :
    verifyAttestation plainPlatform (attestationOf extension declared) = .ok (zeroNonce, []) := by
  have service : expectedAaguid "production" = ascii "appattest" ++ List.replicate 7 0 := by
    have text : utf8 "appattest" = ascii "appattest" := by
      rw [utf8_chars]
      rfl
    rw [expectedAaguid, if_neg (by decide), aaguidProd, textToAaguid, text]
    rfl
  refine verifyAttestation_iff.mpr ⟨attestationParts extension declared, extension, ?_, rfl, carried, enough⟩
  exact
    { reads
      anchored := ⟨(), rfl, rfl⟩
      issued := ⟨(), rfl, rfl⟩
      validLeaf := ⟨Int.le_refl 0, Int.zero_le_ofNat 1⟩
      validIntermediate := ⟨Int.le_refl 0, Int.zero_le_ofNat 1⟩
      app := rfl
      aaguid := service.symm
      key := ⟨(), rfl, rfl, rfl⟩
      credential := rfl }

set_option maxRecDepth 8000 in
/-- An attestation whose credentialId declares 33 bytes, of which 32 are there, is accepted, and
so is one whose nonce extension says that its SEQUENCE and its element [1] are empty. -/
theorem misdeclared_accepted :
    ¬SoundAttestation plainPlatform (attestationOf (nonceExtension zeroNonce) 33) ∧
    ¬SoundAttestation plainPlatform (attestationOf ([0x30, 0, 0xa1, 0, 0x04, 0x20] ++ zeroNonce) 32) := by
  have cutOff : Reads plainPlatform (attestationOf (nonceExtension zeroNonce) 33) _ :=
    attestationOf_reads rfl
  have empty : Reads plainPlatform (attestationOf ([0x30, 0, 0xa1, 0, 0x04, 0x20] ++ zeroNonce) 32) _ :=
    attestationOf_reads rfl
  constructor
  · intro sound
    have carried : Carries (nonceExtension zeroNonce) zeroNonce :=
      ⟨0x24, 0x22, 0x20, [0x24], [0x22], [0x20], [], .short 0x24 (by decide), .short 0x22 (by decide),
        .short 0x20 (by decide), rfl, rfl⟩
    obtain ⟨parts, genuine⟩ := sound _ _
      (attestationOf_accepted cutOff carried (.inr ⟨rfl, by decide⟩))
    have declared := genuine.declared
    rw [← readChain_unique cutOff genuine.reads] at declared
    exact absurd declared (by decide)
  · intro sound
    have carried : Carries ([0x30, 0, 0xa1, 0, 0x04, 0x20] ++ zeroNonce) zeroNonce :=
      ⟨0, 0, 0x20, [0], [0], [0x20], [], .short 0 (by decide), .short 0 (by decide),
        .short 0x20 (by decide), rfl, rfl⟩
    obtain ⟨parts, genuine⟩ := sound _ _
      (attestationOf_accepted empty carried (.inl rfl))
    have nonce := genuine.nonce
    rw [← readChain_unique empty genuine.reads] at nonce
    exact absurd (Option.some.inj nonce) (by decide)

end Defects

end Relay
