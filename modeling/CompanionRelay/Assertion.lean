import CompanionRelay.Attestation
import CompanionRelay.CborRoundTrip
import CompanionRelay.Counters
import CompanionRelay.Signature

/-!
verifyAssertion of src/appattest.js, over what it takes from WebCrypto, and what becomes of the
counter that it reads. An assertion is accepted for what its key has signed; the room then takes
no signed counter twice, in whatever encoding the assertion comes again.
-/

namespace Relay

open Cbor (Value)

section Code

/-- The ECDSA keys and the digest of WebCrypto. -/
structure Signing (Key : Type) where
  importKey : (raw : Bytes) → Except String Key
  verify : Key → (rawSig data : Bytes) → Except String Bool
  digest : Bytes → Digest

structure AssertionRequest where
  assertion : Bytes
  clientDataHash : Bytes
  publicKeyRaw : Bytes
  appId : String

inductive AssertThrown
  | appAttest (message : String)
  -- AppAttestError("malformed assertion CBOR: " + the message of what was thrown)
  | malformed (thrown : Cbor.Thrown)
  -- AppAttestError("pinned key import failed: " + the message of what was thrown)
  | keyImport (message : String)
  -- what WebCrypto or a method of a typed array throws
  | platform (message : String)
  -- derEcdsaToRaw on an object that only inherits from a typed array
  | untyped
  deriving DecidableEq

variable {Key : Type} (signing : Signing Key) (request : AssertionRequest)

def demand (condition : Prop) [Decidable condition] (message : String) : Except AssertThrown Unit :=
  if condition then .ok () else .error (.appAttest message)

/-- The signature and the authenticatorData, both instances of Uint8Array. -/
def readAssertion (obj : Value) : Except AssertThrown (Value × Value) :=
  match obj.get "signature", obj.get "authenticatorData" with
  | some signatureDer, some authenticatorData =>
      if signatureDer.isUint8Array ∧ authenticatorData.isUint8Array then
        .ok (signatureDer, authenticatorData)
      else .error (.appAttest "bad assertion shape")
  | _, _ => .error (.appAttest "bad assertion shape")

def readSignature : Value → Except AssertThrown Bytes
  | .bytes der => (derEcdsaToRaw der 32).mapError .appAttest
  -- it throws at the bytes that it reads, or else at their subarray
  | _ => .error .untyped

/-- The sign count, as the bitwise operators of JavaScript put it together. -/
def signCount (authenticatorData : Bytes) : Nat :=
  let byte (index : Nat) : BitVec 32 :=
    ((authenticatorData[index]?.map UInt8.toBitVec).getD 0).setWidth 32
  ((byte 33 <<< 24) ||| (byte 34 <<< 16) ||| (byte 35 <<< 8) ||| byte 36).toNat

/-- The counter of the assertion. -/
def verifyAssertion : Except AssertThrown Nat := do
  let obj ← (Cbor.decode request.assertion).mapError .malformed
  let (signatureDer, authenticator) ← readAssertion obj
  let authenticatorData ← (contentOf authenticator).mapError .platform
  demand (37 ≤ authenticatorData.length) "assertion authenticatorData too short"
  let nonce := signing.digest (authenticatorData ++ request.clientDataHash)
  let key ← (signing.importKey request.publicKeyRaw).mapError .keyImport
  let rawSig ← readSignature signatureDer
  let verified ← (signing.verify key rawSig nonce).mapError .platform
  demand (verified = true) "assertion signature invalid"
  demand (equalBytes (subarray authenticatorData 0 32) (signing.digest (utf8 request.appId)) = true)
    "assertion rpIdHash mismatch"
  pure (signCount authenticatorData)

end Code

section Statement
variable {Key : Type} (signing : Signing Key) (request : AssertionRequest)

/-- The key has signed the authenticator data together with the client data. -/
structure Vouched (authenticatorData : Bytes) : Prop where
  signed : ∃ obj der key rawSig, Cbor.decode request.assertion = .ok obj ∧
    obj.get "signature" = some (.bytes der) ∧
    obj.get "authenticatorData" = some (.bytes authenticatorData) ∧
    signing.importKey request.publicKeyRaw = .ok key ∧ derEcdsaToRaw der 32 = .ok rawSig ∧
    signing.verify key rawSig (signing.digest (authenticatorData ++ request.clientDataHash)) =
      .ok true
  whole : 37 ≤ authenticatorData.length
  app : authenticatorData.take 32 = signing.digest (utf8 request.appId)

/-- What a device makes for the application: the hash of its id, flags, its counter, and
extensions if it has any. -/
def deviceData (flags : UInt8) (counter : Nat) (extensions : Bytes) : Bytes :=
  (signing.digest (utf8 request.appId)).val ++ flags :: BigEndian.digits 4 counter ++ extensions

def deviceAssertion (r s : Nat) (authenticatorData : Bytes) : Bytes :=
  Cbor.encode (.object [("signature", .bytes (derSequence (derInteger r ++ derInteger s))),
    ("authenticatorData", .bytes authenticatorData)])

structure AssertionRead : Prop where
  -- what is accepted is what the pinned key has signed, and the counter is the one signed
  exact_ : ∀ counter, verifyAssertion signing request = .ok counter ↔
    ∃ authenticatorData, Vouched signing request authenticatorData ∧
      counter = BigEndian.value ((authenticatorData.drop 33).take 4)
  -- the assertion of a device is accepted with its counter
  device : ∀ r s flags counter extensions key, r < 2 ^ 256 → s < 2 ^ 256 → counter < 2 ^ 32 →
    extensions.length + 37 < 2 ^ 32 → signing.importKey request.publicKeyRaw = .ok key →
    signing.verify key (BigEndian.digits 32 r ++ BigEndian.digits 32 s)
      (signing.digest (deviceData signing request flags counter extensions ++
        request.clientDataHash)) = .ok true →
    verifyAssertion signing { request with
      assertion := deviceAssertion r s (deviceData signing request flags counter extensions) } =
        .ok counter

variable (env : Env) (appId : String) (message : AssertThrown → String)

/-- A relay whose assertions are checked by verifyAssertion. -/
def asserting : Env :=
  { env with
    verifyAssertion := fun assertion clientDataHash publicKeyRaw =>
      (verifyAssertion signing ⟨assertion, clientDataHash, publicKeyRaw, appId⟩).mapError message }

/-- A registration of the key stores the counter of this authenticator data, which the attested
key has signed for the challenge of the call and the origin of the relay. -/
def Registers (met : State × Event) (keyId : String) (authenticatorData : Bytes) : Prop :=
  ∃ (call : RegisterCall) (assertion publicKeyRaw clientData : Bytes),
    call.key.keyId = keyId ∧ b64ToBytes call.assertion = some assertion ∧
    b64ToBytes call.key.publicKey = some publicKeyRaw ∧
    attestData call.challenge env.relayOrigin = some clientData ∧
    (∃ handler ∈ met.1.suspended, handler.await = .registerAssertion call) ∧
    Vouched signing ⟨assertion, env.sha256 clientData, publicKeyRaw, appId⟩ authenticatorData ∧
    .put (.assertCounter keyId (signCount authenticatorData)) ∈
      acts (asserting signing env appId message) met.1 met.2

structure AssertionsSpent (events : List Event) : Prop where
  -- with attestation the room registers nobody without an assertion of this kind
  vouched : attestationRequired env = true →
    ∀ met ∈ steps (asserting signing env appId message) events, ∀ id,
      .reply id .register 200 .ok ∈ acts (asserting signing env appId message) met.1 met.2 →
        ∃ keyId authenticatorData, Registers signing env appId message met keyId authenticatorData
  -- and takes the data of none again, unless it was wiped in between
  once : ∀ before first between second after,
    steps (asserting signing env appId message) events =
      before ++ first :: between ++ second :: after →
    (∀ met ∈ between, .deleteAll ∉ acts (asserting signing env appId message) met.1 met.2) →
    ∀ keyId old new, Registers signing env appId message first keyId old →
      Registers signing env appId message second keyId new → signCount old < signCount new

end Statement

section Checks
variable {Key : Type} {signing : Signing Key} {request : AssertionRequest}

theorem demand_ok {condition : Prop} [Decidable condition] {message : String} :
    demand condition message = .ok () ↔ condition := by
  rw [demand]
  split <;> simp [*]

theorem readAssertion_iff {obj signatureDer authenticator : Value} :
    readAssertion obj = .ok (signatureDer, authenticator) ↔
      obj.get "signature" = some signatureDer ∧ obj.get "authenticatorData" = some authenticator ∧
        signatureDer.isUint8Array = true ∧ authenticator.isUint8Array = true := by
  unfold readAssertion
  split
  · rename_i der data found found'
    split
    · rename_i typed
      simp only [Except.ok.injEq, Prod.mk.injEq, found, found', Option.some.injEq]
      constructor
      · rintro ⟨rfl, rfl⟩
        exact ⟨rfl, rfl, typed⟩
      · rintro ⟨rfl, rfl, _⟩
        exact ⟨rfl, rfl⟩
    · rename_i untyped
      simp only [reduceCtorEq, found, found', Option.some.injEq, false_iff]
      rintro ⟨rfl, rfl, typed⟩
      exact untyped typed
  · rename_i missing
    simp only [reduceCtorEq, false_iff]
    rintro ⟨found, found', _⟩
    exact missing _ _ found found'

theorem readSignature_iff {value : Value} {rawSig : Bytes} : readSignature value = .ok rawSig ↔
    ∃ der, value = .bytes der ∧ derEcdsaToRaw der 32 = .ok rawSig := by
  cases value <;> simp [readSignature, mapError_ok]

theorem contentOf_iff {value : Value} {content : Bytes} :
    contentOf value = .ok content ↔ value = .bytes content := by
  cases value <;> simp [contentOf]

theorem or_bytes (high low : Nat) {width : Nat} (small : low < 2 ^ width) :
    (high <<< width) ||| low = high * 2 ^ width + low := by
  rw [← Nat.shiftLeft_add_eq_or_of_lt small, Nat.shiftLeft_eq]

theorem count_bytes (a b c d : UInt8) :
    ((a.toBitVec.setWidth 32 <<< 24) ||| (b.toBitVec.setWidth 32 <<< 16) |||
        (c.toBitVec.setWidth 32 <<< 8) ||| d.toBitVec.setWidth 32).toNat =
      BigEndian.value [a, b, c, d] := by
  have small := And.intro (And.intro a.toNat_lt b.toNat_lt) (And.intro c.toNat_lt d.toNat_lt)
  have shifted : ∀ (byte : UInt8) {width : Nat}, width ≤ 24 →
      (byte.toBitVec.setWidth 32 <<< width).toNat = byte.toNat <<< width := by
    intro byte width narrow
    have bound := byte.toNat_lt
    have own : byte.toNat % 2 ^ 32 = byte.toNat := Nat.mod_eq_of_lt (by omega)
    rw [BitVec.toNat_shiftLeft, BitVec.toNat_setWidth, UInt8.toNat_toBitVec, own, Nat.mod_eq_of_lt]
    calc byte.toNat <<< width ≤ byte.toNat <<< 24 := by
          rw [Nat.shiftLeft_eq, Nat.shiftLeft_eq]
          exact Nat.mul_le_mul_left _ (Nat.pow_le_pow_right (by omega) narrow)
      _ < 2 ^ 32 := by
          rw [Nat.shiftLeft_eq]
          omega
  have last : (d.toBitVec.setWidth 32).toNat = d.toNat := by
    rw [BitVec.toNat_setWidth, UInt8.toNat_toBitVec]
    omega
  rw [BitVec.toNat_or, BitVec.toNat_or, BitVec.toNat_or, shifted a (by omega), shifted b (by omega),
    shifted c (by omega), last, Nat.or_assoc, Nat.or_assoc, or_bytes c.toNat d.toNat small.2.2,
    or_bytes b.toNat _ (by omega), or_bytes a.toNat _ (by omega)]
  simp only [BigEndian.value, List.foldl_cons, List.foldl_nil]
  omega

theorem signCount_eq {lead rest : Bytes} {a b c d : UInt8} (start : lead.length = 33) :
    signCount (lead ++ a :: b :: c :: d :: rest) = BigEndian.value [a, b, c, d] := by
  have at_ : ∀ index, (lead ++ a :: b :: c :: d :: rest)[33 + index]? =
      (a :: b :: c :: d :: rest)[index]? := by
    intro index
    rw [List.getElem?_append_right (by omega), start, Nat.add_sub_cancel_left]
  rw [← count_bytes, signCount]
  simp only [at_ 0, at_ 1, at_ 2, at_ 3]
  rfl

theorem signCount_slice {authenticatorData : Bytes} (whole : 37 ≤ authenticatorData.length) :
    signCount authenticatorData = BigEndian.value ((authenticatorData.drop 33).take 4) := by
  have cut := List.take_append_drop 33 authenticatorData
  have start : (authenticatorData.take 33).length = 33 := by
    rw [List.length_take]
    omega
  obtain ⟨a, b, c, d, rest, four⟩ : ∃ a b c d rest, authenticatorData.drop 33 =
      a :: b :: c :: d :: rest := by
    have long : 4 ≤ (authenticatorData.drop 33).length := by
      rw [List.length_drop]
      omega
    revert long
    rcases authenticatorData.drop 33 with _ | ⟨a, _ | ⟨b, _ | ⟨c, _ | ⟨d, rest⟩⟩⟩⟩ <;> simp
  rw [four] at cut ⊢
  rw [← cut, signCount_eq start]
  rfl

theorem app_iff {authenticatorData : Bytes} {appId : Bytes} :
    equalBytes (subarray authenticatorData 0 32) appId = true ↔ authenticatorData.take 32 = appId := by
  have slice := subarray_slice authenticatorData 0 32
  rw [List.drop_zero] at slice
  rw [equalBytes_iff]
  exact slice ▸ Iff.rfl

theorem verifyAssertion_iff {counter : Nat} : verifyAssertion signing request = .ok counter ↔
    ∃ authenticatorData, Vouched signing request authenticatorData ∧
      counter = signCount authenticatorData := by
  constructor
  · intro accepted
    obtain ⟨obj, decoded, accepted⟩ := Reading.bind_eq_ok.mp accepted
    obtain ⟨⟨signatureDer, authenticator⟩, shaped, accepted⟩ := Reading.bind_eq_ok.mp accepted
    obtain ⟨authenticatorData, content, accepted⟩ := Reading.bind_eq_ok.mp accepted
    obtain ⟨⟨⟩, whole, accepted⟩ := Reading.bind_eq_ok.mp accepted
    obtain ⟨key, imported, accepted⟩ := Reading.bind_eq_ok.mp accepted
    obtain ⟨rawSig, raw, accepted⟩ := Reading.bind_eq_ok.mp accepted
    obtain ⟨verified, checked, accepted⟩ := Reading.bind_eq_ok.mp accepted
    obtain ⟨⟨⟩, good, accepted⟩ := Reading.bind_eq_ok.mp accepted
    obtain ⟨⟨⟩, app, accepted⟩ := Reading.bind_eq_ok.mp accepted
    cases accepted
    rw [mapError_ok] at decoded content imported checked
    rw [demand_ok] at whole good app
    subst good
    obtain ⟨signature, data, _⟩ := readAssertion_iff.mp shaped
    obtain ⟨der, rfl, converted⟩ := readSignature_iff.mp raw
    rw [contentOf_iff.mp content] at data
    exact ⟨authenticatorData, ⟨⟨obj, der, key, rawSig, decoded, signature, data, imported, converted,
      checked⟩, whole, app_iff.mp app⟩, rfl⟩
  · rintro ⟨authenticatorData, ⟨⟨obj, der, key, rawSig, decoded, signature, data, imported, converted,
      checked⟩, whole, app⟩, rfl⟩
    have shaped : readAssertion obj = .ok (.bytes der, .bytes authenticatorData) :=
      readAssertion_iff.mpr ⟨signature, data, rfl, rfl⟩
    have raw : readSignature (.bytes der) = .ok rawSig := readSignature_iff.mpr ⟨der, rfl, converted⟩
    rw [verifyAssertion]
    simp only [Reading.bind_eq_ok, mapError_ok]
    exact ⟨obj, decoded, _, shaped, authenticatorData, rfl, (), demand_ok.mpr whole, key, imported,
      rawSig, raw, true, checked, (), demand_ok.mpr rfl, (), demand_ok.mpr (app_iff.mpr app), rfl⟩

end Checks

section Device
variable {Key : Type} {signing : Signing Key} {request : AssertionRequest}

theorem derSequence_short {r s : Nat} (boundR : r < 2 ^ 256) (boundS : s < 2 ^ 256) :
    (derSequence (derInteger r ++ derInteger s)).length < 128 := by
  have widths := And.intro (derContents_le boundR) (derContents_le boundS)
  have body : (derInteger r ++ derInteger s).length ≤ 70 := by
    rw [List.length_append, derInteger_length boundR, derInteger_length boundS]
    omega
  rw [derSequence, derLength_short (by omega)]
  simp only [List.cons_append, List.nil_append, List.length_cons]
  omega

theorem deviceAssertion_decoded {r s : Nat} {authenticatorData : Bytes} (boundR : r < 2 ^ 256)
    (boundS : s < 2 ^ 256) (short : authenticatorData.length < 2 ^ 32) :
    Cbor.decode (deviceAssertion r s authenticatorData) =
      .ok (.object [("signature", .bytes (derSequence (derInteger r ++ derInteger s))),
        ("authenticatorData", .bytes authenticatorData)]) := by
  have signature := derSequence_short boundR boundS
  have keys : (utf8 "signature").length < 2 ^ 32 ∧ (utf8 "authenticatorData").length < 2 ^ 32 := by
    decide +kernel
  have data : Cbor.Data (.object [("signature", .bytes (derSequence (derInteger r ++ derInteger s))),
      ("authenticatorData", .bytes authenticatorData)]) := by
    have listed : Cbor.listedBefore "authenticatorData" "signature" = true := by decide +kernel
    simp [Cbor.Data, Cbor.DataFields, Cbor.Listed, listed]
  rw [deviceAssertion, Cbor.decode_encoded (Cbor.encode_encodes data ?_), Cbor.value_itemOf_iff data]
  · simp only [Cbor.Portable, Cbor.PortableFields, Cbor.Unmarked]
    decide +kernel
  · simp only [Cbor.Short, Cbor.ShortFields]
    exact ⟨by simp, ⟨keys.1, by omega⟩, ⟨keys.2, short⟩, trivial⟩

theorem deviceData_count (flags : UInt8) {counter : Nat} (extensions : Bytes)
    (bound : counter < 2 ^ 32) :
    37 ≤ (deviceData signing request flags counter extensions).length ∧
      (deviceData signing request flags counter extensions).take 32 =
        signing.digest (utf8 request.appId) ∧
      BigEndian.value (((deviceData signing request flags counter extensions).drop 33).take 4) =
        counter := by
  have width := (signing.digest (utf8 request.appId)).2
  have count : (BigEndian.digits 4 counter).length = 4 := BigEndian.digits_length 4 counter
  refine ⟨?_, ?_, ?_⟩
  · simp only [deviceData, List.length_append, List.length_cons, count, width]
    omega
  · rw [deviceData, List.append_assoc]
    exact List.take_left' width
  · have front : ((signing.digest (utf8 request.appId)).val ++ [flags]).length = 33 := by
      rw [List.length_append, width]
      rfl
    have shape : deviceData signing request flags counter extensions =
        ((signing.digest (utf8 request.appId)).val ++ [flags]) ++
          (BigEndian.digits 4 counter ++ extensions) := by
      simp [deviceData]
    rw [shape, List.drop_left' front, List.take_left' count]
    exact BigEndian.value_digits_of_lt bound

end Device

theorem assertion_read {Key : Type} (signing : Signing Key) (request : AssertionRequest) :
    AssertionRead signing request := by
  constructor
  · intro counter
    rw [verifyAssertion_iff]
    constructor
    · rintro ⟨authenticatorData, vouched, rfl⟩
      exact ⟨authenticatorData, vouched, signCount_slice vouched.whole⟩
    · rintro ⟨authenticatorData, vouched, rfl⟩
      exact ⟨authenticatorData, vouched, (signCount_slice vouched.whole).symm⟩
  · intro r s flags counter extensions key boundR boundS bound short imported verified
    obtain ⟨whole, app, counted⟩ := deviceData_count flags extensions bound
    have length : (deviceData signing request flags counter extensions).length =
        37 + extensions.length := by
      have width := (signing.digest (utf8 request.appId)).2
      simp only [deviceData, List.length_append, List.length_cons, width, BigEndian.digits_length]
    refine verifyAssertion_iff.mpr ⟨_, ⟨⟨_, _, key, _, deviceAssertion_decoded boundR boundS ?_, rfl,
      rfl, imported, derEcdsaToRaw_minimal boundR boundS, verified⟩, whole, app⟩, ?_⟩
    · omega
    · rw [signCount_slice whole, counted]

section Room
variable {env : Env} {state : State} {event : Event} {keyId : String}

/-- The client data of a registration that waits for its assertion. -/
def Await.bound (env : Env) : Await → Prop
  | .registerDigest call | .registerAssertion call =>
      attestData call.challenge env.relayOrigin = some call.clientData
  | _ => True

theorem Await.bound_goes_on {await next : Await} (bound : await.bound env)
    (leads : await.leads next) : next.bound env := by
  cases next with
  | registerAssertion call =>
      cases await with
      | registerDigest given =>
          obtain rfl : call = given := leads
          exact bound
      | _ => exact leads.elim
  | registerDigest call => cases await <;> exact leads.elim
  | _ => trivial

theorem suspended_bound {id : Nat} {await : Await} (member : .suspend id await ∈ acts env state event)
    (bound : ∀ handler ∈ state.suspended, handler.await.bound env) : await.bound env := by
  rcases suspend_cases member with
    ⟨now, request, random, fault, rfl, rfl | begins⟩ | ⟨handler, waits, leads⟩ | ⟨ws, rfl⟩ |
    ⟨check, rfl⟩
  · trivial
  · cases await with
    | registerDigest call =>
        obtain ⟨met, turns, performed, ran⟩ := mem_script member (by simp)
        cases turns with
        | request now request random fault ctx resident =>
            cases request with
            | register body =>
                obtain ⟨_, _, _, _, _, _, _, _, made, _⟩ := handleRegister_suspends ran
                exact made
            | _ => simp [Await.begins, Request.endpoint] at begins
    | registerAssertion call => cases begins
    | _ => trivial
  · exact Await.bound_goes_on (bound handler waits) leads
  · trivial
  · trivial

theorem bound_run (env : Env) (events : List Event) :
    ∀ handler ∈ (run env events).suspended, handler.await.bound env := by
  induction events using List.reverseRecOn with
  | nil => exact fun handler waits => absurd waits List.not_mem_nil
  | append_singleton before event ih =>
      have ran : run env (before ++ [event]) = step env (run env before) event := by simp [run]
      intro handler waits
      rw [ran] at waits
      rcases step_suspended waits with old | fresh
      · exact ih handler old
      · exact suspended_bound fresh ih

theorem climb_kept {counter : Nat} {stored : List Nat} {script : List Act}
    (member : counter ∈ stored) (unwiped : .deleteAll ∉ script) :
    counter ∈ script.foldl (climb keyId) stored := by
  induction script generalizing stored with
  | nil => exact member
  | cons act rest ih =>
      rw [List.mem_cons, not_or] at unwiped
      refine ih ?_ unwiped.2
      cases act with
      | put row =>
          cases row with
          | assertCounter key other =>
              simp only [climb]
              split
              · exact List.mem_append_left _ member
              · exact member
          | _ => exact member
      | deleteAll => exact absurd rfl unwiped.1
      | _ => exact member

theorem stored_after {counter : Nat} {stored : List Nat}
    (member : .put (.assertCounter keyId counter) ∈ acts env state event) :
    counter ∈ (acts env state event).foldl (climb keyId) stored := by
  obtain ⟨call, other, rest, _, _, _, whole, plain⟩ := registers member (.inl (by simp))
  rw [whole] at member ⊢
  simp only [List.singleton_append, List.mem_cons, reduceCtorEq, Act.put.injEq,
    Row.assertCounter.injEq, false_or] at member
  have own : keyId = call.key.keyId ∧ counter = other :=
    member.resolve_right fun late => (plain _ late).1 (by simp)
  obtain ⟨rfl, rfl⟩ := own
  rw [List.singleton_append, List.foldl_cons, List.foldl_cons]
  refine climb_kept ?_ fun wiped => (plain _ wiped).2 rfl
  simp [climb]

end Room

section Spent
variable {Key : Type} {signing : Signing Key} {env : Env} {appId : String}
  {message : AssertThrown → String}

theorem verdict_iff {call : RegisterCall} {counter : Nat} :
    assertionVerdict (asserting signing env appId message) call = .ok counter ↔
      ∃ assertion publicKeyRaw, b64ToBytes call.assertion = some assertion ∧
        b64ToBytes call.key.publicKey = some publicKeyRaw ∧
        verifyAssertion signing ⟨assertion, env.sha256 call.clientData, publicKeyRaw, appId⟩ =
          .ok counter := by
  unfold assertionVerdict
  split
  · rename_i assertion publicKeyRaw given key
    simp [given, key, asserting, mapError_ok]
  · rename_i missing
    simp only [reduceCtorEq, false_iff]
    rintro ⟨assertion, publicKeyRaw, given, key, _⟩
    exact missing _ _ given key

theorem verdict_vouched {call : RegisterCall} {counter : Nat}
    (verdict : assertionVerdict (asserting signing env appId message) call = .ok counter) :
    ∃ assertion publicKeyRaw authenticatorData, b64ToBytes call.assertion = some assertion ∧
      b64ToBytes call.key.publicKey = some publicKeyRaw ∧
      Vouched signing ⟨assertion, env.sha256 call.clientData, publicKeyRaw, appId⟩
        authenticatorData ∧ counter = signCount authenticatorData := by
  obtain ⟨assertion, publicKeyRaw, given, key, accepted⟩ := verdict_iff.mp verdict
  obtain ⟨authenticatorData, vouched, same⟩ := verifyAssertion_iff.mp accepted
  exact ⟨assertion, publicKeyRaw, authenticatorData, given, key, vouched, same⟩

-- A counter is stored above all that were stored since the last wipe.
theorem stored_above {before : List Event} {event : Event} {keyId : String} {old new : Nat}
    (stored : old ∈ counters env before keyId)
    (member : .put (.assertCounter keyId new) ∈ acts env (run env before) event) : old < new := by
  obtain ⟨call, counter, rest, _, _, fresh, whole, plain⟩ := registers member (.inl (by simp))
  rw [whole] at member
  simp only [List.singleton_append, List.mem_cons, reduceCtorEq, Act.put.injEq,
    Row.assertCounter.injEq, false_or] at member
  obtain ⟨rfl, rfl⟩ : keyId = call.key.keyId ∧ new = counter :=
    member.resolve_right fun late => (plain _ late).1 (by simp)
  obtain ⟨increasing, last⟩ := climbing_run env before call.key.keyId
  obtain ⟨lead, top, split⟩ : ∃ lead top, counters env before call.key.keyId = lead ++ [top] :=
    ⟨_, _, (List.dropLast_append_getLast (List.ne_nil_of_mem stored)).symm⟩
  rw [split, List.getLast?_concat] at last
  have above : top < new := by simpa [freshCounter, last] using fresh
  rw [split] at stored increasing
  rcases List.mem_append.mp stored with early | here
  · exact ((List.pairwise_append.mp increasing).2.2 old early top (by simp)).trans above
  · exact List.mem_singleton.mp here ▸ above

/-- The room takes no signed counter of a key twice. -/
theorem assertions_spent {Key : Type} (signing : Signing Key) (env : Env) (appId : String)
    (message : AssertThrown → String) (events : List Event) :
    AssertionsSpent signing env appId message events := by
  constructor
  · intro attested met member id answered
    obtain ⟨call, counter, rest, waits, verdict, _, whole, _⟩ :=
      registers answered (.inr ⟨attested, by simp⟩)
    obtain ⟨assertion, publicKeyRaw, authenticatorData, given, key, vouched, rfl⟩ :=
      verdict_vouched verdict
    obtain ⟨earlier, later, _, state⟩ := Machine.steps_mem _ _ _ _ member
    obtain ⟨handler, suspended, await, _⟩ := waits
    have bound := bound_run (asserting signing env appId message) earlier handler
      (by rw [run, ← state]; exact suspended)
    rw [await] at bound
    exact ⟨call.key.keyId, authenticatorData, call, assertion, publicKeyRaw, call.clientData, rfl,
      given, key, bound, ⟨handler, suspended, await⟩, vouched, by rw [whole]; simp⟩
  · intro before first between second after split unwiped keyId old new oldStored newStored
    obtain ⟨_, _, _, _, _, _, _, _, _, _, oldPut⟩ := oldStored
    obtain ⟨_, _, _, _, _, _, _, _, _, _, newPut⟩ := newStored
    obtain ⟨lead, later, rfl, earlier, reached, _⟩ := Machine.steps_split _ _ _ _ _ _ split
    have kept : signCount old ∈ counters (asserting signing env appId message) lead keyId := by
      rw [counters, steps, ← earlier, List.flatMap_append, List.flatMap_cons, List.foldl_append,
        List.foldl_append]
      refine climb_kept (stored_after oldPut) fun wiped => ?_
      obtain ⟨met, inside, wipes⟩ := List.mem_flatMap.mp wiped
      exact unwiped met inside wipes
    rw [reached] at newPut
    exact stored_above kept newPut

end Spent
end Relay
