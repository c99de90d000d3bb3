import AstraSystem.Lib.Runs
import AstraSystem.PaymentService.Repository

/-!
# Whose an offline token is (`HandleOfflineToken`)

The signature covers the token's id, its cart, the amount and the opaque token. With it, a message may name any store,
kiosk, currency and method, and any expiry.
-/

namespace PaymentService

open Runs (Always EachStep)
open PaymentRepository (canonical unsettled)
open Postgres (Outcome varchar varchar_of_noBlank integer)

/-- What the holder of the key has signed, what was accepted, and the queue. -/
structure World where
  signed : List OfflineToken := []
  accepted : List OfflineToken := []
  table : OfflineTokens := .empty

inductive Act where
  | sign (token : OfflineToken)
  | handleOfflineToken (cmd : OfflineToken) (outcome : Outcome)
  | markOfflineSettled (now : ℤ) (tokenID : String) (result : SettlementResult) (outcome : Outcome)

section
variable (r : PaymentRepository)

def World.step (w : World) : Act → World
  | .sign token => { w with signed := w.signed ++ [{ token with hmacSignature := r.signature (canonical token) }] }
  | .handleOfflineToken cmd outcome =>
    let (table, reply) := r.queueOfflineToken w.table cmd outcome
    { w with table, accepted := if reply = .ok () then w.accepted ++ [cmd] else w.accepted }
  | .markOfflineSettled now tokenID result outcome =>
    { w with table := (r.markOfflineSettled w.table now tokenID result outcome).1 }

/-- What a query returns is what the holder of the key signed, and one signature is accepted for one message. -/
structure Authentic (w : World) : Prop where
  loaded : ∀ now order limit, ∀ row ∈ unsettled w.table now order limit,
    ∃ token ∈ w.signed, r.columns token = .ok row.toColumns
  one : w.accepted.Pairwise fun a b => a.hmacSignature = b.hmacSignature → a = b

/-- The message has the other columns of the signed token as well. -/
structure Carries (token cmd : OfflineToken) : Prop where
  tokenID : (r.uuid.parse token.tokenID).isOk
  cartID : (r.uuid.parse token.cartID).isOk
  unsigned : r.unsigned token = r.unsigned cmd

/-- Two messages differ in nothing that is left unsigned. -/
structure SameUnsigned (a b : OfflineToken) : Prop where
  storeID : a.storeID = b.storeID
  kioskID : a.kioskID = b.kioskID
  currency : a.currency = b.currency
  method : a.method = b.method
  expiresAt : a.expiresAt = b.expiresAt
  createdAt : a.createdAt = b.createdAt

/-- A message that is queued has the unsigned columns of a token with its signature, and one that is accepted has the
unsigned fields of those accepted with its signature before. -/
def Unaltered (w : World) : Act → Prop
  | .handleOfflineToken cmd outcome => r.Stores cmd outcome →
    ((∀ row ∈ w.table.rows, r.uuid.parse cmd.tokenID ≠ .ok row.tokenID) →
      ∃ token ∈ w.signed, token.hmacSignature = cmd.hmacSignature ∧ Carries r token cmd) ∧
    (outcome = .committed → ∀ earlier ∈ w.accepted, earlier.hmacSignature = cmd.hmacSignature →
      SameUnsigned earlier cmd)
  | _ => True

/-- The signatures are the holder's own, and what was accepted has columns. -/
structure World.Sound (w : World) : Prop where
  authentic : Authentic r w
  signed : ∀ token ∈ w.signed, token.hmacSignature = r.signature (canonical token)
  accepted : ∀ cmd ∈ w.accepted, cmd.hmacSignature = r.signature (canonical cmd) ∧ (r.columns cmd).isOk

end

/-! ## What the signature determines -/

section
variable {r : PaymentRepository} {a b token cmd : OfflineToken} {c : Columns}

theorem isOk_iff {A : Type} {x : Except String A} : x.isOk ↔ ∃ a, x = .ok a := by
  cases x <;> simp [Except.isOk, Except.toBool]

theorem noBlank_signature (text : String) : ' ' ∉ (r.signature text).toList :=
  Bytes.not_mem_hex (by decide) _

theorem columns_eq_ok : r.columns token = .ok c ↔ r.unsigned token = .ok c.toUnsigned ∧
    r.uuid.parse token.tokenID = .ok c.tokenID ∧ r.uuid.parse token.cartID = .ok c.cartID ∧
    integer token.amountCents = .ok c.amountCents ∧
    varchar 255 token.verifoneOpaqueToken = .ok c.verifoneOpaqueToken ∧
    varchar 64 token.hmacSignature = .ok c.hmacSignature := by
  constructor
  · intro h
    obtain ⟨unsigned, hu, h⟩ := Statement.bind_eq_ok.mp h
    obtain ⟨tokenID, ht, h⟩ := Statement.bind_eq_ok.mp h
    obtain ⟨cartID, hc, h⟩ := Statement.bind_eq_ok.mp h
    obtain ⟨amountCents, ha, h⟩ := Statement.bind_eq_ok.mp h
    obtain ⟨verifoneOpaqueToken, ho, h⟩ := Statement.bind_eq_ok.mp h
    obtain ⟨hmacSignature, hs, h⟩ := Statement.bind_eq_ok.mp h
    cases h
    exact ⟨hu, ht, hc, ha, ho, hs⟩
  · rintro ⟨hu, ht, hc, ha, ho, hs⟩
    rw [PaymentRepository.columns, hu, ht, hc, ha, ho, hs]
    rfl

theorem toList_canonical (token : OfflineToken) : (canonical token).toList = token.tokenID.toList ++ '|' ::
    (token.cartID.toList ++ '|' :: ((Decimal.format token.amountCents.toInt).toList ++ '|' ::
      token.verifoneOpaqueToken.toList)) := by
  rw [canonical, String.toList_ofList]
  rfl

/-- The signed text is cut at its first three bars, as ids and amounts have none. -/
theorem canonical_inj (h : canonical a = canonical b) (tokenA : '|' ∉ a.tokenID.toList)
    (tokenB : '|' ∉ b.tokenID.toList) (cartA : '|' ∉ a.cartID.toList) (cartB : '|' ∉ b.cartID.toList) :
    a.tokenID = b.tokenID ∧ a.cartID = b.cartID ∧ a.amountCents = b.amountCents ∧
      a.verifoneOpaqueToken = b.verifoneOpaqueToken := by
  have amount (n : ℤ) : (Decimal.format n).toList.count '|' = 0 :=
    List.count_eq_zero.mpr (Decimal.not_mem_format (by decide) (by decide) n)
  have chars := congrArg String.toList h
  rw [toList_canonical, toList_canonical] at chars
  obtain ⟨tokenID, chars⟩ := Separated.cut_inj
    ((List.count_eq_zero.mpr tokenA).trans (List.count_eq_zero.mpr tokenB).symm) chars
  obtain ⟨cartID, chars⟩ := Separated.cut_inj
    ((List.count_eq_zero.mpr cartA).trans (List.count_eq_zero.mpr cartB).symm) chars
  obtain ⟨amountCents, opaqueToken⟩ := Separated.cut_inj ((amount _).trans (amount _).symm) chars
  refine ⟨String.toList_inj.mp tokenID, String.toList_inj.mp cartID, ?_, String.toList_inj.mp opaqueToken⟩
  exact Int64.toInt_inj.mp (Decimal.format_injective (String.toList_inj.mp amountCents))

/-- Of messages that have columns, a signature determines what it is over. -/
theorem signature_inj (noBar : ∀ text id, r.uuid.parse text = .ok id → '|' ∉ text.toList)
    (injective : Function.Injective (r.hmacSHA256 r.hmacKey)) (same : token.hmacSignature = cmd.hmacSignature)
    (signed : token.hmacSignature = r.signature (canonical token))
    (signed' : cmd.hmacSignature = r.signature (canonical cmd))
    (ids : (r.uuid.parse token.tokenID).isOk ∧ (r.uuid.parse token.cartID).isOk)
    (ids' : (r.uuid.parse cmd.tokenID).isOk ∧ (r.uuid.parse cmd.cartID).isOk) :
    token.tokenID = cmd.tokenID ∧ token.cartID = cmd.cartID ∧ token.amountCents = cmd.amountCents ∧
      token.verifoneOpaqueToken = cmd.verifoneOpaqueToken := by
  have free {text : String} (h : (r.uuid.parse text).isOk) : '|' ∉ text.toList := by
    obtain ⟨id, parsed⟩ := isOk_iff.mp h
    exact noBar text id parsed
  have tags : r.signature (canonical token) = r.signature (canonical cmd) := by rw [← signed, same, signed']
  have texts := Bytes.utf8_inj.mp (injective (Bytes.hex_injective tags))
  exact canonical_inj texts (free ids.1) (free ids'.1) (free ids.2) (free ids'.2)

theorem ids_of_columns (h : (r.columns token).isOk) :
    (r.uuid.parse token.tokenID).isOk ∧ (r.uuid.parse token.cartID).isOk := by
  obtain ⟨c, h⟩ := isOk_iff.mp h
  obtain ⟨-, tokenID, cartID, -⟩ := columns_eq_ok.mp h
  exact ⟨isOk_iff.mpr ⟨_, tokenID⟩, isOk_iff.mpr ⟨_, cartID⟩⟩

/-- A message has the columns of a signed token exactly when it carries the signature, and what it is not over. -/
theorem columns_eq_iff (noBar : ∀ text id, r.uuid.parse text = .ok id → '|' ∉ text.toList)
    (injective : Function.Injective (r.hmacSHA256 r.hmacKey))
    (signed : token.hmacSignature = r.signature (canonical token))
    (signed' : cmd.hmacSignature = r.signature (canonical cmd)) (columns : r.columns cmd = .ok c) :
    r.columns token = .ok c ↔ token.hmacSignature = cmd.hmacSignature ∧ Carries r token cmd := by
  obtain ⟨unsigned, tokenID, cartID, amount, opaqueToken, signature⟩ := columns_eq_ok.mp columns
  constructor
  · intro h
    obtain ⟨unsigned', tokenID', cartID', -, -, signature'⟩ := columns_eq_ok.mp h
    have own := varchar_of_noBlank (signed ▸ noBlank_signature _) signature'
    have own' := varchar_of_noBlank (signed' ▸ noBlank_signature _) signature
    exact ⟨own.symm.trans own', isOk_iff.mpr ⟨_, tokenID'⟩, isOk_iff.mpr ⟨_, cartID'⟩, unsigned'.trans unsigned.symm⟩
  · rintro ⟨same, carries⟩
    have ids' := ids_of_columns (isOk_iff.mpr ⟨_, columns⟩)
    obtain ⟨tokenID', cartID', amount', opaque'⟩ :=
      signature_inj noBar injective same signed signed' ⟨carries.tokenID, carries.cartID⟩ ids'
    rw [columns_eq_ok, carries.unsigned, tokenID', cartID', amount', opaque', same]
    exact ⟨unsigned, tokenID, cartID, amount, opaqueToken, signature⟩

end

/-! ## Runs -/

section
variable {r : PaymentRepository} {w : World}

theorem World.Sound.sign (h : w.Sound r) (token : OfflineToken) : (w.step r (.sign token)).Sound r where
  authentic := by
    refine ⟨fun now order limit row mem => ?_, h.authentic.one⟩
    obtain ⟨token, mem, same⟩ := h.authentic.loaded now order limit row mem
    exact ⟨token, List.mem_append_left _ mem, same⟩
  signed := by
    intro t mem
    obtain old | new := List.mem_append.mp mem
    · exact h.signed t old
    · cases List.mem_singleton.mp new
      rfl
  accepted := h.accepted

/-- A row that is still unsettled was so before, and has its columns. -/
theorem mem_of_unsettled {table : OfflineTokens} {now : ℤ} {tokenID : String} {result : SettlementResult}
    {outcome : Outcome} {row : Row} (mem : row ∈ (r.markOfflineSettled table now tokenID result outcome).1.rows)
    (unsettled : row.settledAt = none) : row ∈ table.rows := by
  obtain same | ⟨id, -, -, updated⟩ := PaymentRepository.markOfflineSettled_cases (r := r) table now tokenID result outcome
  · rw [same] at mem
    exact mem
  · rw [updated] at mem
    obtain ⟨old, kept, rfl⟩ := Table.mem_update.mp mem
    by_cases own : old.tokenID = id
    · rw [PaymentRepository.settle_own own] at unsettled
      cases unsettled
    · rw [PaymentRepository.settle_other own]
      exact kept

theorem World.Sound.mark (h : w.Sound r) (now : ℤ) (tokenID : String) (result : SettlementResult) (outcome : Outcome) :
    (w.step r (.markOfflineSettled now tokenID result outcome)).Sound r where
  authentic := by
    refine ⟨fun now order limit row mem => ?_, h.authentic.one⟩
    obtain ⟨mem, open_⟩ := PaymentRepository.mem_unsettled mem
    obtain ⟨now, limit, found⟩ := PaymentRepository.exists_unsettled (mem_of_unsettled mem open_) open_
    exact h.authentic.loaded now _ limit row found
  signed := h.signed
  accepted := h.accepted

theorem handle_accepted {cmd : OfflineToken} {outcome : Outcome} :
    (w.step r (.handleOfflineToken cmd outcome)).accepted =
      if (r.queueOfflineToken w.table cmd outcome).2 = .ok () then w.accepted ++ [cmd] else w.accepted := rfl

theorem SameUnsigned.eq {a b : OfflineToken} (h : SameUnsigned a b) (signature : a.hmacSignature = b.hmacSignature)
    (signed : a.tokenID = b.tokenID ∧ a.cartID = b.cartID ∧ a.amountCents = b.amountCents ∧
      a.verifoneOpaqueToken = b.verifoneOpaqueToken) : a = b := by
  obtain ⟨tokenID, cartID, amountCents, opaqueToken⟩ := signed
  cases a
  cases b
  cases h
  simp_all

section
variable (noBar : ∀ text id, r.uuid.parse text = .ok id → '|' ∉ text.toList)
  (injective : Function.Injective (r.hmacSHA256 r.hmacKey)) (h : w.Sound r) {cmd : OfflineToken} {outcome : Outcome}
include noBar injective h

theorem World.Sound.handle (unaltered : Unaltered r w (.handleOfflineToken cmd outcome)) :
    (w.step r (.handleOfflineToken cmd outcome)).Sound r where
  authentic := by
    constructor
    · intro now order limit row mem
      obtain ⟨mem, open_⟩ := PaymentRepository.mem_unsettled mem
      obtain old | ⟨stores, c, columns, fresh, rfl⟩ := PaymentRepository.mem_queueOfflineToken.mp mem
      · obtain ⟨now, limit, found⟩ := PaymentRepository.exists_unsettled old open_
        exact h.authentic.loaded now _ limit row found
      · obtain ⟨-, parsed, -⟩ := columns_eq_ok.mp columns
        obtain ⟨token, mem, same⟩ := (unaltered stores).1 fun row mem eq =>
          fresh row mem (Except.ok.inj (eq.symm.trans parsed))
        exact ⟨token, mem, (columns_eq_iff noBar injective (h.signed token mem) stores.1 columns).mpr same⟩
    · rw [handle_accepted]
      split
      · rename_i accepted
        obtain ⟨stores, committed⟩ := PaymentRepository.queueOfflineToken_eq_ok.mp accepted
        rw [List.pairwise_append]
        refine ⟨h.authentic.one, List.pairwise_singleton _ _, fun earlier mem x new same => ?_⟩
        cases List.mem_singleton.mp new
        obtain ⟨signed, columns⟩ := h.accepted earlier mem
        exact ((unaltered stores).2 committed earlier mem same).eq same (signature_inj noBar injective same signed
          stores.1 (ids_of_columns columns) (ids_of_columns stores.2.1))
      · exact h.authentic.one
  signed := h.signed
  accepted := by
    rw [handle_accepted]
    split
    · rename_i accepted
      obtain ⟨stores, -⟩ := PaymentRepository.queueOfflineToken_eq_ok.mp accepted
      intro t mem
      obtain old | new := List.mem_append.mp mem
      · exact h.accepted t old
      · cases List.mem_singleton.mp new
        exact ⟨stores.1, stores.2.1⟩
    · exact h.accepted

theorem unaltered_of_authentic (authentic : Authentic r (w.step r (.handleOfflineToken cmd outcome))) :
    Unaltered r w (.handleOfflineToken cmd outcome) := by
  intro stores
  obtain ⟨c, columns⟩ := isOk_iff.mp stores.2.1
  obtain ⟨-, parsed, -⟩ := columns_eq_ok.mp columns
  constructor
  · intro fresh
    -- The new row is among the unsettled ones.
    have stored := PaymentRepository.mem_queueOfflineToken.mpr (.inr ⟨stores, c, columns,
      fun old mem same => fresh old mem (same ▸ parsed), rfl⟩)
    obtain ⟨now, limit, found⟩ := PaymentRepository.exists_unsettled stored rfl
    obtain ⟨token, mem, same⟩ := authentic.loaded now _ limit _ found
    exact ⟨token, mem, (columns_eq_iff noBar injective (h.signed token mem) stores.1 columns).mp same⟩
  · intro committed earlier mem same
    have accepted : (r.queueOfflineToken w.table cmd outcome).2 = .ok () :=
      PaymentRepository.queueOfflineToken_eq_ok.mpr ⟨stores, committed⟩
    have one := authentic.one
    rw [handle_accepted, if_pos accepted, List.pairwise_append] at one
    cases one.2.2 earlier mem cmd (List.mem_singleton_self _) same
    exact ⟨rfl, rfl, rfl, rfl, rfl, rfl⟩

end

end

theorem World.sound_empty (r : PaymentRepository) : World.Sound r {} := by
  refine ⟨⟨fun now order limit row mem => ?_, List.Pairwise.nil⟩, ?_, ?_⟩
  · cases (PaymentRepository.mem_unsettled mem).1
  · intro token mem
    cases mem
  · intro cmd mem
    cases mem

/-- **What is loaded was signed, and no signature is accepted for two messages, exactly in runs whose messages come with
the unsigned fields that they were signed with.** -/
theorem authentic_iff {r : PaymentRepository} (noBar : ∀ text id, r.uuid.parse text = .ok id → '|' ∉ text.toList)
    (injective : Function.Injective (r.hmacSHA256 r.hmacKey)) (acts : List Act) :
    Always (World.step r) (Authentic r) {} acts ↔ EachStep (World.step r) (Unaltered r) {} acts := by
  refine Runs.always_iff_eachStep (fun _ sound => sound.authentic) ?_ ?_ (World.sound_empty r) acts
  · intro w a sound unaltered
    cases a with
    | sign token => exact sound.sign token
    | handleOfflineToken cmd outcome => exact sound.handle noBar injective unaltered
    | markOfflineSettled now tokenID result outcome => exact sound.mark now tokenID result outcome
  · intro w a sound authentic
    cases a with
    | sign token => trivial
    | handleOfflineToken cmd outcome => exact unaltered_of_authentic noBar injective sound authentic
    | markOfflineSettled now tokenID result outcome => trivial

/-! ## A token in another currency -/

namespace Altered

def token : OfflineToken where
  tokenID := "00000000-0000-0000-0000-000000000001"
  storeID := "00000000-0000-0000-0000-000000000002"
  kioskID := "00000000-0000-0000-0000-000000000003"
  cartID := "00000000-0000-0000-0000-000000000004"
  amountCents := 1000
  currency := "USD"
  method := "credit_debit"
  verifoneOpaqueToken := "tok-1"
  hmacSignature := "5635659b072896ab4f2f784bd6816cda17c3f880f3bd5925d0c4aef5dc432e74"
  expiresAt := 1893456000 * 10 ^ 9
  createdAt := 0

def altered : OfflineToken := { token with currency := "KWD" }

def tag : List UInt8 :=
  [0x56, 0x35, 0x65, 0x9b, 0x07, 0x28, 0x96, 0xab, 0x4f, 0x2f, 0x78, 0x4b, 0xd6, 0x81, 0x6c, 0xda,
    0x17, 0xc3, 0xf8, 0x80, 0xf3, 0xbd, 0x59, 0x25, 0xd0, 0xc4, 0xae, 0xf5, 0xdc, 0x43, 0x2e, 0x74]

/-- The hash of the token under the key, and collision free elsewhere. -/
def mac (_ message : List UInt8) : List UInt8 :=
  if message = Bytes.utf8 (canonical token) then tag else tag ++ 0 :: message

def repository : PaymentRepository where
  uuid := .hyphenated
  hmacSHA256 := mac
  hmacKey := Bytes.utf8 "offline-secret"

theorem mac_injective : Function.Injective (repository.hmacSHA256 repository.hmacKey) := by
  intro m n h
  simp only [repository, mac] at h
  split at h <;> split at h <;> simp_all

theorem noBar (text : String) (id : UUID) (h : repository.uuid.parse text = .ok id) : '|' ∉ text.toList := by
  -- A text that is read is the one that is printed.
  have printed : repository.uuid.string id = text := by
    simp only [repository, UUIDText.hyphenated] at h ⊢
    split at h
    · split at h
      · rename_i same
        cases h
        exact same
      · cases h
    · cases h
  rw [← printed]
  exact UUIDText.not_mem_hyphenated (by decide) (by decide) id

theorem stores_altered : repository.Stores altered .committed :=
  ⟨by decide +kernel, by decide +kernel, rfl⟩

theorem authentic_unaltered : Always (World.step repository) (Authentic repository) {}
    [.sign token, .handleOfflineToken token .committed] := by
  refine (authentic_iff noBar mac_injective _).mpr ⟨trivial, fun stores => ⟨fun _ => ?_, ?_⟩, trivial⟩
  · refine ⟨_, List.mem_singleton_self _, stores.1.symm, ?_⟩
    exact ⟨by decide +kernel, by decide +kernel, rfl⟩
  · intro _ earlier mem
    cases mem

theorem altered_loaded : Function.Injective (repository.hmacSHA256 repository.hmacKey) ∧
    ¬ Always (World.step repository) (Authentic repository) {}
      [.sign token, .handleOfflineToken altered .committed] := by
  refine ⟨mac_injective, fun h => ?_⟩
  have sound := (World.sound_empty repository).sign token
  have last := Runs.always_last h
  rw [Runs.run_cons, Runs.run_cons, Runs.run_nil] at last
  have unaltered := unaltered_of_authentic noBar mac_injective sound last
  obtain ⟨signed, mem, -, carries⟩ := (unaltered stores_altered).1 fun row mem => by cases mem
  cases List.mem_singleton.mp mem
  exact absurd carries.unsigned (by decide +kernel)

end Altered

end PaymentService
