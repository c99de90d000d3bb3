import AstraSystem.GoCommon.Security
import AstraSystem.Lib.Runs

/-!
# Requests that kiosks sign (`middleware/signing.go`)

Whoever sees a request may change it and send it again, in any order and as often as they like. What they cannot do is
sign.
-/

namespace ApiGateway.Signing

open GoCommon.Security

structure Packages extends GoCommon.Security.Packages where
  sha256 : List UInt8 → List UInt8

/-- The query is all that follows the path, with its question mark. -/
structure URL where
  path : Text
  query : Text
  line : newline ∉ path
  deriving DecidableEq

/-- A header that is missing is empty. -/
structure Request where
  method : Text
  url : URL
  body : List UInt8
  kioskID : Text
  timestamp : Text
  signature : Text
  deriving DecidableEq

structure Refusal where
  status : ℕ
  error : String
  detail : Option String
  deriving DecidableEq, Repr

def methodGet : Text := Bytes.utf8 "GET"

def methodHead : Text := Bytes.utf8 "HEAD"

/-- Reads are not signed. -/
def Request.isRead (c : Request) : Bool := c.method == methodGet || c.method == methodHead

/-- `strconv.ParseInt` to base ten and 64 bits. -/
def parseInt (s : Text) : Option Int64 :=
  match Decimal.parse (String.ofList (s.map fun b => Char.ofNat b.toNat)) with
  | none => none
  | some n => if -2 ^ 63 ≤ n ∧ n < 2 ^ 63 then some (Int64.ofInt n) else none

section
variable (pkg : Packages) (resolveKey : Text → Option (List UInt8))

def sha256Hex (data : List UInt8) : Text := Bytes.utf8 (Bytes.hex (pkg.sha256 data))

/-- What `c.Next()` is reached with, or the answer that is given in its place. -/
def requireSignedRequest (now : Int64) (c : Request) : Except Refusal Unit :=
  if c.isRead then .ok ()
  else if c.kioskID = [] ∨ c.timestamp = [] ∨ c.signature = [] then
    .error ⟨401, "missing_signature_headers", none⟩
  else
    match parseInt c.timestamp with
    | none => .error ⟨400, "invalid_timestamp", none⟩
    | some timestamp =>
      match resolveKey c.kioskID with
      | none => .error ⟨401, "unknown_kiosk", none⟩
      | some key =>
        (verifyRequest pkg.toPackages now key c.method c.url.path timestamp (sha256Hex pkg c.body) c.signature).mapError
          fun err => ⟨401, "signature_verification_failed", some err.message⟩

/-! ## Histories -/

/-- A request as the holder of a key means it. -/
structure Signed where
  key : List UInt8
  method : Text
  url : URL
  timestamp : Int64
  body : List UInt8
  deriving DecidableEq

def Signed.signature (s : Signed) : Text :=
  signRequest pkg.toPackages s.key s.method s.url.path s.timestamp (sha256Hex pkg s.body)

inductive Event where
  | sign (s : Signed)
  | arrive (now : Int64) (c : Request)

structure History where
  signed : List Signed
  arrived : List (Int64 × Request)
  /-- Each with the time it arrived at. -/
  passed : List (Int64 × Signed)
  deriving DecidableEq

def History.empty : History := ⟨[], [], []⟩

/-- What a request says it is. -/
def Request.claimed (c : Request) : Option Signed :=
  match resolveKey c.kioskID, parseInt c.timestamp with
  | some key, some timestamp => some ⟨key, c.method, c.url, timestamp, c.body⟩
  | _, _ => none

/-- What is passed on as signed. -/
def passes (now : Int64) (c : Request) : Option Signed :=
  if c.isRead then none
  else if requireSignedRequest pkg resolveKey now c = .ok () then c.claimed resolveKey
  else none

def step (h : History) : Event → History
  | .sign s => { h with signed := s :: h.signed }
  | .arrive now c =>
    { h with
      arrived := (now, c) :: h.arrived
      passed := ((passes pkg resolveKey now c).map (now, ·)).toList ++ h.passed }

/-- What was passed on was signed, as it is, for a time close by, and only once. -/
structure Authentic (h : History) : Prop where
  signed : ∀ p ∈ h.passed, p.2 ∈ h.signed ∧ distance p.1 p.2.timestamp ≤ 300
  once : (h.passed.map Prod.snd).Nodup

/-- Nobody but who holds a kiosk's key comes by a signature under it. -/
def Unforged (h : History) : Event → Prop
  | .sign _ => True
  | .arrive _ c => ∀ id key, resolveKey id = some key → ∀ message,
    c.signature = Bytes.utf8 (Bytes.hex (pkg.hmac key message)) →
      ∃ s ∈ h.signed, s.key = key ∧ s.signature pkg = c.signature

/-- The request agrees with a signed one in all that the signature is about, and has its signature. -/
structure Bears (c : Request) (s : Signed) : Prop where
  key : resolveKey c.kioskID = some s.key
  timestamp : parseInt c.timestamp = some s.timestamp
  method : pkg.toUpper c.method = pkg.toUpper s.method
  path : c.url.path = s.url.path
  body : c.body = s.body
  signature : c.signature = s.signature pkg

/-- The distance in nanoseconds is no more than 300 seconds where it is counted in 64 bits. -/
def Timely (now timestamp : Int64) : Prop := wrappedNanoseconds (distance now timestamp) ≤ 300000000000

instance (now timestamp : Int64) : Decidable (Timely now timestamp) := inferInstanceAs (Decidable (_ ≤ _))

/-- A request that bears a signature in time was not changed where the signature is about nothing, is in time also where
nothing wraps, and did not arrive in time before. -/
def Meets (h : History) : Event → Prop
  | .sign _ => True
  | .arrive now c => ∀ s ∈ h.signed, Bears pkg resolveKey c s → Timely now s.timestamp →
    c.method = s.method ∧ c.url.query = s.url.query ∧ distance now s.timestamp ≤ 300 ∧
      ∀ a ∈ h.arrived, Timely a.1 s.timestamp → ¬ Bears pkg resolveKey a.2 s

/-- What was passed on also arrived, bearing its signature in time. -/
structure Inv (h : History) : Prop extends Authentic h where
  arrived : ∀ p ∈ h.passed, ∃ c, (p.1, c) ∈ h.arrived ∧ Bears pkg resolveKey c p.2 ∧ Timely p.1 p.2.timestamp

section
variable {pkg resolveKey} {now : Int64} {c : Request} {s : Signed} {h : History}

theorem of_mapError_ok {α β : Type} {f : α → β} {x : Except α Unit} (h : x.mapError f = .ok ()) : x = .ok () := by
  cases x with
  | error err => cases h
  | ok => rfl

theorem accepted_of_next (write : c.isRead = false) (next : requireSignedRequest pkg resolveKey now c = .ok ()) :
    ∃ key timestamp, resolveKey c.kioskID = some key ∧ parseInt c.timestamp = some timestamp ∧
      verifyRequest pkg.toPackages now key c.method c.url.path timestamp (sha256Hex pkg c.body) c.signature = .ok () := by
  rw [requireSignedRequest, write, if_neg Bool.false_ne_true] at next
  by_cases missing : c.kioskID = [] ∨ c.timestamp = [] ∨ c.signature = []
  · rw [if_pos missing] at next
    cases next
  · rw [if_neg missing] at next
    cases time : parseInt c.timestamp with
    | none => simp only [time, reduceCtorEq] at next
    | some timestamp =>
      cases key : resolveKey c.kioskID with
      | none => simp only [time, key, reduceCtorEq] at next
      | some k =>
        simp only [time, key] at next
        exact ⟨k, timestamp, rfl, rfl, of_mapError_ok next⟩

/-- What is passed on has a signature of the holder, made of the same. -/
theorem bears_of_passes (hmac : ∀ key, Function.Injective (pkg.hmac key)) (sha256 : Function.Injective pkg.sha256)
    (unforged : Unforged pkg resolveKey h (.arrive now c)) {p : Signed}
    (passed : passes pkg resolveKey now c = some p) :
    c.claimed resolveKey = some p ∧ ∃ s ∈ h.signed, Bears pkg resolveKey c s ∧ Timely now s.timestamp := by
  unfold passes at passed
  cases write : c.isRead with
  | true =>
    rw [write, if_pos rfl] at passed
    cases passed
  | false =>
    rw [write, if_neg Bool.false_ne_true] at passed
    by_cases next : requireSignedRequest pkg resolveKey now c = .ok ()
    · rw [if_pos next] at passed
      obtain ⟨key, timestamp, resolved, parsed, verified⟩ := accepted_of_next write next
      obtain ⟨timely, signature⟩ := accepted_iff.mp verified
      obtain ⟨s, signed, rfl, same⟩ := unforged _ _ resolved _ signature.symm
      have hashed (data : List UInt8) : newline ∉ sha256Hex pkg data := Bytes.notMem_utf8_hex (by decide) _
      have canonical := hmac _ (Bytes.hex_injective (Bytes.utf8_inj.mp (signature.trans same.symm)))
      obtain ⟨method, path, rfl, body⟩ := canonicalForm_inj s.url.line (hashed _) c.url.line (hashed _) canonical
      have body := sha256 (Bytes.hex_injective (Bytes.utf8_inj.mp body))
      exact ⟨passed, s, signed, ⟨resolved, parsed, method, path, body, same.symm⟩, not_lt.mp timely⟩
    · rw [if_neg next] at passed
      cases passed

/-- A request that bears a signature and was not changed where it is about nothing is what was signed. -/
theorem claimed_of_bears (bears : Bears pkg resolveKey c s) (method : c.method = s.method)
    (query : c.url.query = s.url.query) : c.claimed resolveKey = some s := by
  have url : c.url = s.url := by
    cases h : c.url
    cases h' : s.url
    have path := bears.path
    rw [h, h'] at path query
    simp only at path query
    subst path query
    rfl
  simp only [Request.claimed, bears.key, bears.timestamp, method, url, bears.body]

theorem inv_step (hmac : ∀ key, Function.Injective (pkg.hmac key)) (sha256 : Function.Injective pkg.sha256)
    {e : Event} (inv : Inv pkg resolveKey h) (cond : Unforged pkg resolveKey h e ∧ Meets pkg resolveKey h e) :
    Inv pkg resolveKey (step pkg resolveKey h e) := by
  obtain ⟨unforged, meets⟩ := cond
  cases e with
  | sign s =>
    refine ⟨⟨fun p passed => ?_, inv.once⟩, inv.arrived⟩
    obtain ⟨signed, close⟩ := inv.signed p passed
    exact ⟨List.mem_cons_of_mem _ signed, close⟩
  | arrive now c =>
    have kept {p : Int64 × Signed} (passed : p ∈ h.passed) : ∃ c', (p.1, c') ∈ (now, c) :: h.arrived ∧
        Bears pkg resolveKey c' p.2 ∧ Timely p.1 p.2.timestamp := by
      obtain ⟨c', arrived, bears⟩ := inv.arrived p passed
      exact ⟨c', List.mem_cons_of_mem _ arrived, bears⟩
    cases passed : passes pkg resolveKey now c with
    | none =>
      simp only [step, passed, Option.map_none, Option.toList_none, List.nil_append]
      exact ⟨⟨inv.signed, inv.once⟩, fun p => kept⟩
    | some p =>
      obtain ⟨claimed, s, signed, bears, timely⟩ := bears_of_passes hmac sha256 unforged passed
      obtain ⟨method, query, close, fresh⟩ := meets s signed bears timely
      obtain rfl : p = s := Option.some.inj (claimed.symm.trans (claimed_of_bears bears method query))
      simp only [step, passed, Option.map_some, Option.toList_some, List.cons_append, List.nil_append]
      refine ⟨⟨?_, ?_⟩, ?_⟩
      · exact List.forall_mem_cons.mpr ⟨⟨signed, close⟩, inv.signed⟩
      · rw [List.map_cons]
        refine List.nodup_cons.mpr ⟨fun again => ?_, inv.once⟩
        -- it would have arrived before
        obtain ⟨q, mem, rfl⟩ := List.mem_map.mp again
        obtain ⟨c', arrived, bears', timely'⟩ := inv.arrived q mem
        exact fresh _ arrived timely' bears'
      · exact List.forall_mem_cons.mpr ⟨⟨c, List.mem_cons_self, bears, timely⟩, fun p => kept⟩

end

end

/-- **What is passed on is what was signed, and is passed on once**, as long as whoever sends a signed request changes
nothing that the signature is not about, does not send it again, and sends it centuries neither early nor late. -/
theorem authentic_of_meets (pkg : Packages) (resolveKey : Text → Option (List UInt8))
    (hmac : ∀ key, Function.Injective (pkg.hmac key)) (sha256 : Function.Injective pkg.sha256) (events : List Event)
    (unforged : Runs.EachStep (step pkg resolveKey) (Unforged pkg resolveKey) .empty events)
    (meets : Runs.EachStep (step pkg resolveKey) (Meets pkg resolveKey) .empty events) :
    Runs.Always (step pkg resolveKey) Authentic .empty events := by
  have start : Inv pkg resolveKey .empty := by
    constructor
    · exact ⟨fun p none => (by cases none), List.nodup_nil⟩
    · intro p none
      cases none
  exact Runs.always_of_eachStep (fun h inv => inv.toAuthentic) (fun h e inv cond => inv_step hmac sha256 inv cond) start
    (Runs.eachStep_and unforged meets)

namespace Till

/-- The text that is signed, and its tag. -/
def tags (key : List UInt8) : List (List UInt8 × List UInt8) :=
  if key = [107] then
    [(Bytes.utf8 "POST\n/c\n0\n44136fa355b3678a1146ad16f7e8649e94fb4fc21fe77e8310c060f61caaff8a",
      [0xb7, 0x21, 0x0d, 0xa7, 0x45, 0x72, 0x31, 0x15, 0xcb, 0xe2, 0x58, 0x67, 0x4c, 0x1c, 0x88, 0x53,
        0xf4, 0x42, 0xe1, 0x7b, 0xb2, 0x9e, 0x3c, 0xca, 0xd5, 0x85, 0x17, 0x67, 0x0a, 0xfe, 0xd5, 0xed])]
  else []

/-- The hash of `{}`. -/
def hashes : List (List UInt8 × List UInt8) :=
  [([123, 125],
    [0x44, 0x13, 0x6f, 0xa3, 0x55, 0xb3, 0x67, 0x8a, 0x11, 0x46, 0xad, 0x16, 0xf7, 0xe8, 0x64, 0x9e,
      0x94, 0xfb, 0x4f, 0xc2, 0x1f, 0xe7, 0x7e, 0x83, 0x10, 0xc0, 0x60, 0xf6, 0x1c, 0xaa, 0xff, 0x8a])]

/-- HMAC-SHA256 and SHA-256 of these, and collision free elsewhere; upper case of ASCII. -/
def packages : Packages where
  hmac key := Bytes.hashOf (tags key)
  toUpper := GoCommon.Security.Kitchen.packages.toUpper
  sha256 := Bytes.hashOf hashes

/-- The key that is used where no other is provisioned. -/
def resolveKey (kioskID : Text) : Option (List UInt8) := if kioskID = [] then none else some [107]

def cart : URL := ⟨[47, 99], [], by decide⟩

/-- `POST`. -/
def addItem : Signed := ⟨[107], [80, 79, 83, 84], cart, 0, [123, 125]⟩

/-- As the kiosk sends it. -/
def sent : Request := ⟨addItem.method, cart, addItem.body, [49], [48], addItem.signature packages⟩

/-- With `?x` behind its path. -/
def altered : Request := { sent with url := { cart with query := [63, 120] } }

theorem packages_hmac (key : List UInt8) : Function.Injective (packages.hmac key) := by
  show Function.Injective (Bytes.hashOf (tags key))
  unfold tags
  split
  · exact Bytes.hashOf_injective (List.nodup_singleton _) (by decide)
  · exact Bytes.hashOf_injective List.nodup_nil fun _ he => absurd he List.not_mem_nil

theorem packages_sha256 : Function.Injective packages.sha256 :=
  Bytes.hashOf_injective (List.nodup_singleton _) (by decide)

theorem unforged_of_signed {h : History} {now : Int64} {c : Request} (signed : addItem ∈ h.signed)
    (signature : c.signature = addItem.signature packages) : Unforged packages resolveKey h (.arrive now c) := by
  intro id key resolved _ _
  unfold resolveKey at resolved
  split at resolved
  · cases resolved
  · cases resolved
    exact ⟨addItem, signed, rfl, signature.symm⟩

theorem signed_authentic : (Runs.run (step packages resolveKey) .empty [.sign addItem, .arrive 0 sent]).passed =
      [(0, addItem)] ∧
    Runs.Always (step packages resolveKey) Authentic .empty [.sign addItem, .arrive 0 sent] := by
  refine ⟨by decide +kernel, authentic_of_meets packages resolveKey packages_hmac packages_sha256 _
    ⟨trivial, unforged_of_signed List.mem_cons_self rfl, trivial⟩ ⟨trivial, fun s signed bears timely => ?_, trivial⟩⟩
  obtain rfl := List.mem_singleton.mp signed
  refine ⟨rfl, rfl, by decide, fun a arrived => ?_⟩
  cases arrived

/-- Nothing is forged, and yet something is passed on that should not be. -/
def Breaks (events : List Event) : Prop :=
  Runs.EachStep (step packages resolveKey) (Unforged packages resolveKey) .empty events ∧
    ¬ Runs.Always (step packages resolveKey) Authentic .empty events

/-- A query that was not signed, a request sent twice, and one sent 584 years late. -/
theorem altered_and_resent : Breaks [.sign addItem, .arrive 0 altered] ∧
    Breaks [.sign addItem, .arrive 0 sent, .arrive 1 sent] ∧
    Breaks [.sign addItem, .arrive 18446744074 sent] := by
  refine ⟨⟨⟨trivial, unforged_of_signed List.mem_cons_self rfl, trivial⟩, fun always => ?_⟩,
    ⟨⟨trivial, unforged_of_signed List.mem_cons_self rfl, unforged_of_signed List.mem_cons_self rfl, trivial⟩,
      fun always => ?_⟩,
    ⟨⟨trivial, unforged_of_signed List.mem_cons_self rfl, trivial⟩, fun always => ?_⟩⟩
  · have passed : (Runs.run (step packages resolveKey) .empty [.sign addItem, .arrive 0 altered]).passed =
        [(0, { addItem with url := altered.url })] := by decide +kernel
    have signed := ((Runs.always_last always).signed _ (passed ▸ List.mem_singleton_self _)).1
    exact absurd signed (by decide)
  · have passed : (Runs.run (step packages resolveKey) .empty [.sign addItem, .arrive 0 sent, .arrive 1 sent]).passed =
        [(1, addItem), (0, addItem)] := by decide +kernel
    have once := (Runs.always_last always).once
    rw [passed] at once
    exact absurd once (by decide)
  · have passed : (Runs.run (step packages resolveKey) .empty [.sign addItem, .arrive 18446744074 sent]).passed =
        [(18446744074, addItem)] := by decide +kernel
    have close := ((Runs.always_last always).signed _ (passed ▸ List.mem_singleton_self _)).2
    exact absurd close (by decide)

end Till

end ApiGateway.Signing
