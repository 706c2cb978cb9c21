import Mathlib.Data.List.DropRight
import Mathlib.Tactic.Common

/-!
host/server.js: clientIp and toHeaders. A forwarded header is read as the list of its
non-empty parts; appending an address to it, on the same line or on one of its own, appends
to that list, whatever text was there. The part counted from the right is then the one that
the first trusted proxy has added.
-/

namespace Relay
namespace ClientIp

/-- What String.prototype.trim takes away. -/
def isBlank (char : Char) : Bool :=
  char.toNat ∈ [9, 10, 11, 12, 13, 32, 160, 5760, 8232, 8233, 8239, 8287, 12288, 65279] ||
    (8192 ≤ char.toNat && char.toNat ≤ 8202)

/-- What a header value is stripped of when it is appended. -/
def isHttpSpace (char : Char) : Bool := char.toNat ∈ [9, 10, 13, 32]

def strip (drops : Char → Bool) (text : List Char) : List Char :=
  (text.dropWhile drops).rdropWhile drops

def trim (text : String) : String := String.ofList (strip isBlank text.toList)

/-- xff.split(",").map((s) => s.trim()).filter(Boolean) -/
def parts (text : List Char) : List (List Char) :=
  ((text.splitOn ',').map (strip isBlank)).filter (· ≠ [])

def lower (name : String) : String := String.ofList (name.toList.map Char.toLower)

/-- The values of a Headers object under the names in lower case, in the order of append. -/
structure Headers where
  entries : List (String × String) := []

def Headers.append (headers : Headers) (name value : String) : Headers :=
  ⟨headers.entries ++ [(lower name, String.ofList (strip isHttpSpace value.toList))]⟩

def joined : List String → String
  | [] => ""
  | [value] => value
  | value :: rest => value ++ ", " ++ joined rest

def Headers.get (headers : Headers) (name : String) : Option String :=
  match (headers.entries.filter (·.1 = lower name)).map Prod.snd with
  | [] => none
  | values => some (joined values)

/-- A value as Node has it: of one line, of several, or undefined. -/
inductive NodeValue
  | one (value : String)
  | many (values : List String)
  | missing

def NodeValue.values : NodeValue → List String
  | .one value => [value]
  | .many values => values
  | .missing => []

def hopByHop : List String :=
  ["connection", "keep-alive", "transfer-encoding", "upgrade", "content-length", "host"]

def toHeaders (nodeHeaders : List (String × NodeValue)) : Headers :=
  nodeHeaders.foldl (fun headers entry =>
    if lower entry.1 ∈ hopByHop then headers
    else entry.2.values.foldl (fun headers value => headers.append entry.1 value) headers) {}

structure Socket where
  remoteAddress : Option String

structure Trust where
  trustProxy : Bool := false
  trustCloudflare : Bool := false
  trustedHops : Int := 1

/-- A value that is there and not the empty string. -/
def truthy (value : Option String) : Option String := value.filter (· ≠ "")

def peer (socket : Socket) : String := (truthy socket.remoteAddress).getD "unknown"

/-- The part of a forwarded header that counts: the one trustedHops from the right, or the
rightmost when there are not so many. -/
def forwardedFor (trustedHops : Int) (parts : List (List Char)) : Option String :=
  let index : Int := parts.length - trustedHops
  (parts[(if index ≥ 0 then index else parts.length - 1).toNat]?).map String.ofList

def clientIp (headers : Headers) (socket : Socket) (trust : Trust) : Option String :=
  match (if trust.trustCloudflare then truthy (headers.get "cf-connecting-ip") else none) with
  | some cf => some (trim cf)
  | none =>
      match (if trust.trustProxy || trust.trustCloudflare then
        truthy (headers.get "x-forwarded-for") else none) with
      | some xff =>
          if parts xff.toList = [] then some (peer socket)
          else forwardedFor trust.trustedHops (parts xff.toList)
      | none => some (peer socket)

/-- An address as a proxy appends it. -/
def Address (hop : String) : Prop :=
  hop ≠ "" ∧ ∀ char ∈ hop.toList, char ≠ ',' ∧ isBlank char = false

instance (hop : String) : Decidable (Address hop) :=
  @instDecidableAnd _ _ instDecidableNot (List.decidableBAll _ hop.toList)

/-- A proxy appends an address to what it has received, on the last line or on a new one. -/
inductive Appends (hop : String) : NodeValue → NodeValue → Prop
  | first : Appends hop .missing (.one hop)
  | line (value gap : String) (blank : ∀ char ∈ gap.toList, isBlank char = true) :
      Appends hop (.one value) (.one (value ++ "," ++ gap ++ hop))
  | again (value : String) : Appends hop (.one value) (.many [value, hop])
  | lines (values : List String) (last gap : String)
      (blank : ∀ char ∈ gap.toList, isBlank char = true) :
      Appends hop (.many (values ++ [last])) (.many (values ++ [last ++ "," ++ gap ++ hop]))
  | another (values : List String) : Appends hop (.many values) (.many (values ++ [hop]))

/-- What the proxies make of what the client has sent, the first of them first. -/
inductive Forwarded (client : NodeValue) : List String → NodeValue → Prop
  | direct : Forwarded client [] client
  | hop {hops : List String} {hop : String} {sent received : NodeValue}
      (before : Forwarded client hops sent) (appends : Appends hop sent received) :
      Forwarded client (hops ++ [hop]) received

/-- A request that has come through the proxies, whatever else it carries. -/
def Through (hops : List String) (request : List (String × NodeValue)) : Prop :=
  ∃ client received before after, Forwarded client hops received ∧
    request = before ++ ("x-forwarded-for", received) :: after ∧
    ∀ entry ∈ before ++ after, lower entry.1 ≠ "x-forwarded-for"

/-- No header text moves the address of a request that has come through the proxies, and none
is read where no proxy is trusted. -/
structure Unspoofable (hops : List String) (socket : Socket) : Prop where
  trusted : ∀ request, Through hops request →
    clientIp (toHeaders request) socket ⟨true, false, hops.length⟩ = hops.head?
  alike : ∀ one other, Through hops one → Through hops other →
    clientIp (toHeaders one) socket ⟨true, false, hops.length⟩ =
      clientIp (toHeaders other) socket ⟨true, false, hops.length⟩
  untrusted : ∀ one other trustedHops,
    clientIp (toHeaders one) socket ⟨false, false, trustedHops⟩ =
      clientIp (toHeaders other) socket ⟨false, false, trustedHops⟩

section Parts

theorem strip_cons {drops : Char → Bool} {char : Char} (dropped : drops char = true)
    (text : List Char) : strip drops (char :: text) = strip drops text := by
  rw [strip, List.dropWhile_cons_of_pos dropped, strip]

theorem strip_concat {drops : Char → Bool} {char : Char} (dropped : drops char = true)
    (text : List Char) : strip drops (text ++ [char]) = strip drops text := by
  unfold strip
  rw [List.dropWhile_append]
  by_cases gone : (text.dropWhile drops).isEmpty = true
  · rw [if_pos gone, List.isEmpty_iff.mp gone, List.dropWhile_cons_of_pos dropped]
    rfl
  · rw [if_neg gone, List.rdropWhile_concat_pos _ _ _ dropped]

theorem strip_plain {drops : Char → Bool} {text : List Char}
    (plain : ∀ char ∈ text, drops char = false) : strip drops text = text := by
  have front : text.dropWhile drops = text := by
    rw [List.dropWhile_eq_self_iff]
    intro nonempty
    simp [plain _ (List.getElem_mem nonempty)]
  rw [strip, front, List.rdropWhile_eq_self_iff]
  intro nonempty
  simp [plain _ (List.getLast_mem nonempty)]

@[simp] theorem parts_nil : parts [] = [] := by decide

@[simp] theorem parts_comma (before after : List Char) :
    parts (before ++ ',' :: after) = parts before ++ parts after := by
  simp [parts, List.splitOn_append_cons_self]

theorem blank_apart {char : Char} (blank : isBlank char = true) : char ≠ ',' := by
  rintro rfl
  simp [isBlank] at blank

theorem parts_cons {char : Char} (blank : isBlank char = true) (text : List Char) :
    parts (char :: text) = parts text := by
  have apart : (char == ',') = false := beq_eq_false_iff_ne.mpr (blank_apart blank)
  unfold parts
  rw [List.splitOn_cons_eq_if_modifyHead, apart, if_neg (by simp)]
  cases split : text.splitOn ',' with
  | nil => exact absurd split (List.splitOn_ne_nil _ _)
  | cons first rest =>
      rw [List.modifyHead_cons, List.map_cons, List.map_cons, strip_cons blank]

theorem splitOn_concat {char : Char} (apart : char ≠ ',') (text : List Char) :
    ∃ before last, text.splitOn ',' = before ++ [last] ∧
      (text ++ [char]).splitOn ',' = before ++ [last ++ [char]] := by
  induction text with
  | nil => exact ⟨[], [], rfl, List.splitOn_eq_singleton (by simp [apart.symm])⟩
  | cons first rest ih =>
      obtain ⟨before, last, split, appended⟩ := ih
      rw [List.cons_append, List.splitOn_cons_eq_if_modifyHead, List.splitOn_cons_eq_if_modifyHead,
        split, appended]
      by_cases comma : (first == ',') = true
      · rw [if_pos comma, if_pos comma]
        exact ⟨[] :: before, last, rfl, rfl⟩
      · rw [if_neg comma, if_neg comma]
        cases before with
        | nil => exact ⟨[], first :: last, rfl, rfl⟩
        | cons head others => exact ⟨(first :: head) :: others, last, rfl, rfl⟩

theorem parts_concat {char : Char} (blank : isBlank char = true) (text : List Char) :
    parts (text ++ [char]) = parts text := by
  obtain ⟨before, last, split, appended⟩ := splitOn_concat (blank_apart blank) text
  rw [parts, parts, split, appended, List.map_append, List.map_append, List.map_singleton,
    List.map_singleton, strip_concat blank]

theorem parts_gap {gap : List Char} (blank : ∀ char ∈ gap, isBlank char = true)
    (text : List Char) : parts (gap ++ text) = parts text := by
  induction gap with
  | nil => rfl
  | cons char rest ih =>
      rw [List.forall_mem_cons] at blank
      rw [List.cons_append, parts_cons blank.1]
      exact ih blank.2

theorem httpSpace_blank {char : Char} (space : isHttpSpace char = true) : isBlank char = true := by
  simp only [isHttpSpace, isBlank, List.mem_cons, List.not_mem_nil, or_false, decide_eq_true_eq,
    Bool.or_eq_true] at space ⊢
  omega

theorem parts_strip (text : List Char) : parts (strip isHttpSpace text) = parts text := by
  have front : parts (text.dropWhile isHttpSpace) = parts text := by
    induction text with
    | nil => rfl
    | cons char rest ih =>
        cases space : isHttpSpace char with
        | true => rw [List.dropWhile_cons_of_pos space, ih, parts_cons (httpSpace_blank space)]
        | false => rw [List.dropWhile_cons_of_neg (by simp [space])]
  rw [← front, strip]
  induction text.dropWhile isHttpSpace using List.reverseRecOn with
  | nil => rfl
  | append_singleton rest char ih =>
      cases space : isHttpSpace char with
      | true =>
          rw [List.rdropWhile_concat_pos _ _ _ space, ih, parts_concat (httpSpace_blank space)]
      | false => rw [List.rdropWhile_concat_neg _ _ _ (by simp [space])]

theorem parts_address {hop : String} (address : Address hop) :
    parts hop.toList = [hop.toList] := by
  have apart : ',' ∉ hop.toList := fun member => (address.2 _ member).1 rfl
  have nonempty : hop.toList ≠ [] := by simpa using address.1
  rw [parts, List.splitOn_eq_singleton apart, List.map_singleton,
    strip_plain fun char member => (address.2 char member).2]
  simp [nonempty]

theorem parts_joined (values : List String) :
    parts (joined values).toList = values.flatMap fun value => parts value.toList := by
  induction values with
  | nil => exact parts_nil
  | cons value rest ih =>
      cases rest with
      | nil => simp [joined]
      | cons next others =>
          have text : (joined (value :: next :: others)).toList =
              value.toList ++ ',' :: ([' '] ++ (joined (next :: others)).toList) := by
            simp [joined]
          rw [text, parts_comma, parts_gap (List.forall_mem_singleton.mpr (by decide)), ih]
          rfl

end Parts

section Chain
variable {hop : String} {hops : List String} {client sent received : NodeValue} {socket : Socket}

def NodeValue.parts (value : NodeValue) : List (List Char) :=
  value.values.flatMap fun line => ClientIp.parts line.toList

-- Whatever was sent, appending an address appends a part.
theorem Appends.parts (appends : Appends hop sent received) (address : Address hop) :
    received.parts = sent.parts ++ [hop.toList] := by
  have behind (value gap : String) (blank : ∀ char ∈ gap.toList, isBlank char = true) :
      ClientIp.parts (value ++ "," ++ gap ++ hop).toList =
        ClientIp.parts value.toList ++ [hop.toList] := by
    have text : (value ++ "," ++ gap ++ hop).toList =
        value.toList ++ ',' :: (gap.toList ++ hop.toList) := by simp
    rw [text, parts_comma, parts_gap blank, parts_address address]
  unfold NodeValue.parts
  cases appends with
  | first => simp [NodeValue.values, parts_address address]
  | line value gap blank => simpa [NodeValue.values] using behind value gap blank
  | again value => simp [NodeValue.values, parts_address address]
  | lines values last gap blank =>
      simp only [NodeValue.values, List.flatMap_append, List.flatMap_singleton]
      rw [behind last gap blank, List.append_assoc]
  | another values => simp [NodeValue.values, parts_address address]

theorem Forwarded.parts (forwarded : Forwarded client hops received)
    (addresses : ∀ hop ∈ hops, Address hop) :
    received.parts = client.parts ++ hops.map String.toList := by
  induction forwarded with
  | direct => rw [List.map_nil, List.append_nil]
  | hop before appends ih =>
      rw [List.forall_mem_append, List.forall_mem_singleton] at addresses
      rw [appends.parts addresses.2, ih addresses.1, List.map_append, List.append_assoc]
      rfl

/-- What toHeaders appends for one header. -/
def appended (entry : String × NodeValue) : List (String × String) :=
  if lower entry.1 ∈ hopByHop then []
  else entry.2.values.map fun value =>
    (lower entry.1, String.ofList (strip isHttpSpace value.toList))

theorem append_values (name : String) (values : List String) (headers : Headers) :
    (values.foldl (fun headers value => headers.append name value) headers).entries =
      headers.entries ++ values.map fun value =>
        (lower name, String.ofList (strip isHttpSpace value.toList)) := by
  induction values generalizing headers with
  | nil => simp
  | cons value rest ih =>
      rw [List.foldl_cons, ih, List.map_cons, Headers.append, List.append_assoc]
      rfl

theorem toHeaders_entries (request : List (String × NodeValue)) :
    (toHeaders request).entries = request.flatMap appended := by
  have whole (headers : Headers) :
      (request.foldl (fun headers entry =>
        if lower entry.1 ∈ hopByHop then headers
        else entry.2.values.foldl (fun headers value => headers.append entry.1 value) headers)
          headers).entries = headers.entries ++ request.flatMap appended := by
    induction request generalizing headers with
    | nil => simp
    | cons entry rest ih =>
        rw [List.foldl_cons, ih, List.flatMap_cons, ← List.append_assoc]
        by_cases skipped : lower entry.1 ∈ hopByHop
        · rw [if_pos skipped, appended, if_pos skipped, List.append_nil]
        · rw [if_neg skipped, appended, if_neg skipped, append_values]
  exact whole {}

theorem appended_apart {entries : List (String × NodeValue)} {name : String}
    (apart : ∀ entry ∈ entries, lower entry.1 ≠ name) :
    (entries.flatMap appended).filter (·.1 = name) = [] := by
  rw [List.filter_eq_nil_iff]
  intro pair member
  obtain ⟨entry, inside, made⟩ := List.mem_flatMap.mp member
  unfold appended at made
  by_cases skipped : lower entry.1 ∈ hopByHop
  · rw [if_pos skipped] at made
    exact absurd made List.not_mem_nil
  · rw [if_neg skipped] at made
    obtain ⟨_, _, rfl⟩ := List.mem_map.mp made
    simpa using apart entry inside

theorem forwarded_get {request before after : List (String × NodeValue)}
    (whole : request = before ++ ("x-forwarded-for", received) :: after)
    (apart : ∀ entry ∈ before ++ after, lower entry.1 ≠ "x-forwarded-for")
    (nonempty : received.parts ≠ []) :
    ∃ text, truthy ((toHeaders request).get "x-forwarded-for") = some text ∧
      parts text.toList = received.parts := by
  let stripped (value : String) : String := String.ofList (strip isHttpSpace value.toList)
  have name : lower "x-forwarded-for" = "x-forwarded-for" := by decide
  have kept : "x-forwarded-for" ∉ hopByHop := by decide
  rw [List.forall_mem_append] at apart
  have found : ((toHeaders request).entries.filter (·.1 = lower "x-forwarded-for")).map Prod.snd =
      received.values.map stripped := by
    have own : appended ("x-forwarded-for", received) =
        received.values.map fun value => ("x-forwarded-for", stripped value) := by
      rw [appended, name, if_neg kept]
    rw [toHeaders_entries, whole, List.flatMap_append, List.flatMap_cons, own, name,
      List.filter_append, List.filter_append, appended_apart apart.1, appended_apart apart.2,
      List.nil_append, List.append_nil, List.filter_eq_self.mpr (by simp), List.map_map]
    rfl
  have same : parts (joined (received.values.map stripped)).toList = received.parts := by
    rw [parts_joined, List.flatMap_map]
    apply List.flatMap_congr
    intro value _
    rw [String.toList_ofList, parts_strip]
  have filled : joined (received.values.map stripped) ≠ "" := by
    intro blank
    rw [blank] at same
    exact nonempty same.symm
  refine ⟨joined (received.values.map stripped), ?_, same⟩
  rw [Headers.get, found]
  cases values : received.values.map stripped with
  | nil =>
      rw [values] at filled
      exact absurd rfl filled
  | cons first rest =>
      rw [values] at filled
      simp [truthy, filled]

theorem through_trusted (proxied : hops ≠ []) (addresses : ∀ hop ∈ hops, Address hop)
    (request : List (String × NodeValue)) (through : Through hops request) :
    clientIp (toHeaders request) socket ⟨true, false, hops.length⟩ = hops.head? := by
  obtain ⟨client, received, before, after, forwarded, whole, apart⟩ := through
  have chain := forwarded.parts addresses
  have nonempty : received.parts ≠ [] := by
    rw [chain]
    simp [proxied]
  obtain ⟨text, found, same⟩ := forwarded_get whole apart nonempty
  have index : ((client.parts ++ hops.map String.toList).length : Int) - hops.length =
      client.parts.length := by
    rw [List.length_append, List.length_map]
    omega
  simp only [clientIp, found, same, nonempty, Bool.false_eq_true, if_false, Bool.or_false, if_true]
  rw [forwardedFor, chain, index, if_pos (Int.natCast_nonneg _), Int.toNat_natCast, List.getElem?_append_right
    (Nat.le_refl _), Nat.sub_self]
  cases hops with
  | nil => exact absurd rfl proxied
  | cons first rest => simp

/-- Client addresses cannot be spoofed through headers. -/
theorem client_ip_unspoofable (hops : List String) (proxied : hops ≠ [])
    (addresses : ∀ hop ∈ hops, Address hop) (socket : Socket) : Unspoofable hops socket := by
  constructor
  · exact through_trusted proxied addresses
  · intro one other first second
    rw [through_trusted proxied addresses one first, through_trusted proxied addresses other second]
  · intro one other trustedHops
    rfl

example : clientIp (toHeaders [("cf-connecting-ip", .one "6.6.6.6"),
    ("x-forwarded-for", .one "1.2.3.4,, ,evil , 203.0.113.7, 10.0.0.2")]) ⟨some "10.0.0.3"⟩
    ⟨true, false, 2⟩ = some "203.0.113.7" := by decide

theorem two_hops_unspoofable : Unspoofable ["203.0.113.7", "10.0.0.2"] ⟨some "10.0.0.3"⟩ :=
  client_ip_unspoofable _ (by decide) (by decide) _

end Chain

end ClientIp
end Relay
