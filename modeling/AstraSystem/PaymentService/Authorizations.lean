import Mathlib.Logic.Function.Basic
import AstraSystem.Lib.Postgres
import AstraSystem.Lib.Runs
import AstraSystem.Lib.Table
import AstraSystem.Lib.UUID

/-!
# Authorizations that are recorded (`HandleRecordAuthorization`)

A command is looked up by its idempotency key, inserted and announced, in three statements that nothing locks.
Commands come again when a handler fails or dies, and any number of handlers are at work.
-/

namespace PaymentService.Authorizations

open Postgres (Outcome varchar integer)

/-! ## Commands and rows -/

structure RecordAuthorizationCommand where
  paymentID : String
  orderID : String
  kioskID : String
  idempotencyKey : String
  amountCents : Int64
  currency : String
  method : String
  status : String
  verifoneToken : String
  authCode : String := ""
  cardBrand : String := ""
  cardLastFour : String := ""
  declineReason : String := ""
  receiptText : Option String := none
  isOfflineToken : Bool
  offlineHMAC : String := ""
  deriving DecidableEq

/-- A row of `payments`. -/
structure Payment where
  paymentID : UUID
  orderID : UUID
  kioskID : UUID
  idempotencyKey : UUID
  amountCents : ℤ
  currency : String
  method : String
  status : String
  verifoneToken : String
  verifoneAuthCode : String
  cardBrand : String
  cardLastFour : String
  declineReason : String
  receiptText : String
  isOfflineToken : Bool
  offlineTokenHMAC : String
  createdAt : ℤ

abbrev Payments := Table Payment UUID Payment.paymentID

/-- How UUIDs are read, and the rows that others refer to. -/
structure Schema where
  uuid : UUIDText
  orders : List UUID
  kiosks : List UUID

def methods : List String := ["credit_debit", "nfc_apple_pay", "nfc_google_pay", "qr_code", "cash_recycler"]

def statuses : List String := ["pending", "authorized", "captured", "declined", "voided", "refunded"]

def check (holds : Prop) [Decidable holds] (err : String) : Except String Unit :=
  if holds then .ok () else .error err

def text (s : String) : Except String String :=
  if Char.ofNat 0 ∈ s.toList then .error "invalid byte sequence for encoding \"UTF8\": 0x00" else .ok s

variable (schema : Schema)

/-- The row of a command, if its columns take it. -/
def columns (cmd : RecordAuthorizationCommand) (createdAt : ℤ) : Except String Payment := do
  let paymentID ← schema.uuid.parse cmd.paymentID
  let orderID ← schema.uuid.parse cmd.orderID
  let kioskID ← schema.uuid.parse cmd.kioskID
  let idempotencyKey ← schema.uuid.parse cmd.idempotencyKey
  let amountCents ← integer cmd.amountCents
  let currency ← varchar 3 cmd.currency
  let method ← varchar 16 cmd.method
  let status ← varchar 16 cmd.status
  let verifoneToken ← varchar 255 cmd.verifoneToken
  let verifoneAuthCode ← varchar 16 cmd.authCode
  let cardBrand ← varchar 16 cmd.cardBrand
  let cardLastFour ← varchar 4 cmd.cardLastFour
  let declineReason ← varchar 255 cmd.declineReason
  let receiptText ← text (cmd.receiptText.getD "")
  let offlineTokenHMAC ← varchar 64 cmd.offlineHMAC
  check (0 < amountCents) "new row for relation \"payments\" violates check constraint \"payments_amount_cents_check\""
  check (method ∈ methods) "new row for relation \"payments\" violates check constraint \"payments_method_check\""
  check (status ∈ statuses) "new row for relation \"payments\" violates check constraint \"payments_status_check\""
  pure {
    paymentID, orderID, kioskID, idempotencyKey, amountCents, currency, method, status, verifoneToken,
    verifoneAuthCode, cardBrand, cardLastFour, declineReason, receiptText, offlineTokenHMAC, createdAt
    isOfflineToken := cmd.isOfflineToken }

/-- The payment of an idempotency key. -/
def byIdempotencyKey (table : Payments) (key : UUID) : Option Payment :=
  table.rows.find? fun p => p.idempotencyKey = key

/-- `strings.Contains`. -/
def contains (sub : List Char) : List Char → Bool
  | [] => sub.isEmpty
  | c :: cs => sub.isPrefixOf (c :: cs) || contains sub cs

def isUniqueViolation (msg : String) : Bool :=
  contains "23505".toList msg.toList || contains "unique constraint".toList msg.toList

/-- What an insertion has done, and what it reports. -/
inductive Recorded where
  | stored
  | duplicate
  | failed (err : String)
  deriving DecidableEq

def report (err : String) : Recorded := if isUniqueViolation err then .duplicate else .failed err

def foreignKey : String :=
  "insert or update on table \"payments\" violates foreign key constraint (SQLSTATE 23503)"

/-- Foreign keys are looked at after the unique ones. -/
def recordAuthorization (table : Payments) (cmd : RecordAuthorizationCommand) (now : ℤ) (outcome : Outcome) :
    Payments × Recorded :=
  match columns schema cmd now with
  | .error err => (table, report err)
  | .ok p =>
    if (table.find? p.paymentID).isSome ∨ (byIdempotencyKey table p.idempotencyKey).isSome then (table, .duplicate)
    else if p.orderID ∉ schema.orders ∨ p.kioskID ∉ schema.kiosks then
      (table, report foreignKey)
    else match outcome with
      | .committed => (table.insertNew p, .stored)
      | .failed err => (table, report err)
      | .lost err => (table.insertNew p, report err)

/-- What is published as `astra.payment.recorded.v1`. -/
structure Event where
  paymentID : String
  orderID : String
  status : String
  amountCents : Int64
  method : String
  recordedAt : ℤ
  deriving DecidableEq

def event (cmd : RecordAuthorizationCommand) (recordedAt : ℤ) : Event :=
  ⟨cmd.paymentID, cmd.orderID, cmd.status, cmd.amountCents, cmd.method, recordedAt⟩

/-! ## Handlers -/

inductive Phase where
  | idle
  /-- The key was not found. -/
  | looked (cmd : RecordAuthorizationCommand)
  /-- The row is inserted, and the event is to be published. -/
  | recorded (cmd : RecordAuthorizationCommand)
  deriving DecidableEq

structure World where
  table : Payments := .empty
  events : List Event := []
  calls : ℕ → Phase := fun _ => .idle
  /-- The commands whose handlers have returned without an error. -/
  acked : List RecordAuthorizationCommand := []

inductive Act where
  | deliver (t : ℕ) (cmd : RecordAuthorizationCommand) (fault : Option String)
  | insert (t : ℕ) (now : ℤ) (outcome : Outcome)
  | publish (t : ℕ) (now : ℤ) (published : Bool)
  | crash (t : ℕ)

namespace World

variable (w : World)

def goto (t : ℕ) (phase : Phase) : World := { w with calls := Function.update w.calls t phase }

def ack (cmd : RecordAuthorizationCommand) : World := { w with acked := w.acked ++ [cmd] }

def deliver (t : ℕ) (cmd : RecordAuthorizationCommand) (fault : Option String) : World :=
  match w.calls t, schema.uuid.parse cmd.idempotencyKey, fault with
  | .idle, .ok key, none => if (byIdempotencyKey w.table key).isSome then w.ack cmd else w.goto t (.looked cmd)
  | _, _, _ => w

/-- What the handler goes on with; a duplicate is a success. -/
def reported (t : ℕ) (cmd : RecordAuthorizationCommand) : Recorded → World
  | .stored => w.goto t (.recorded cmd)
  | .duplicate => (w.goto t .idle).ack cmd
  | .failed _ => w.goto t .idle

def insert (t : ℕ) (now : ℤ) (outcome : Outcome) : World :=
  match w.calls t with
  | .looked cmd =>
    let r := recordAuthorization schema w.table cmd now outcome
    { w with table := r.1 }.reported t cmd r.2
  | _ => w

def publish (t : ℕ) (now : ℤ) (published : Bool) : World :=
  match w.calls t with
  | .recorded cmd =>
    ({ w with events := if published then w.events ++ [event cmd now] else w.events }.goto t .idle).ack cmd
  | _ => w

def step (w : World) : Act → World
  | .deliver t cmd fault => w.deliver schema t cmd fault
  | .insert t now outcome => w.insert schema t now outcome
  | .publish t now published => w.publish t now published
  | .crash t => w.goto t .idle

end World

/-! ## What the statements do -/

section
variable {schema : Schema} {table : Payments} {cmd : RecordAuthorizationCommand} {now : ℤ} {outcome : Outcome}
  {p : Payment}

theorem byIdempotencyKey_eq_none {key : UUID} :
    byIdempotencyKey table key = none ↔ ∀ p ∈ table.rows, p.idempotencyKey ≠ key := by
  simp [byIdempotencyKey]

theorem isSome_byIdempotencyKey {key : UUID} (h : (byIdempotencyKey table key).isSome) :
    ∃ p ∈ table.rows, p.idempotencyKey = key := by
  by_contra missing
  have absent : byIdempotencyKey table key = none :=
    byIdempotencyKey_eq_none.mpr fun p hp same => missing ⟨p, hp, same⟩
  rw [absent] at h
  cases h

theorem short_known : (methods ++ statuses).all fun s => s.length < 16 := by decide

/-- A method or a status that is known was not cut. -/
theorem varchar_known {n : ℕ} {s s' : String} (known : s'.length < n) (h : varchar n s = .ok s') : s' = s := by
  unfold varchar at h
  split at h
  · cases h
  · split at h
    · exact (Except.ok.inj h).symm
    · rename_i long
      split at h
      · have cut := Except.ok.inj h
        rw [← cut, String.length_ofList, List.length_take, String.length_toList] at known
        omega
      · cases h

/-- The columns of a row are those of its command. -/
structure RowOf (schema : Schema) (cmd : RecordAuthorizationCommand) (p : Payment) : Prop where
  paymentID : schema.uuid.parse cmd.paymentID = .ok p.paymentID
  orderID : schema.uuid.parse cmd.orderID = .ok p.orderID
  idempotencyKey : schema.uuid.parse cmd.idempotencyKey = .ok p.idempotencyKey
  amountCents : p.amountCents = cmd.amountCents.toInt
  method : p.method = cmd.method
  status : p.status = cmd.status

theorem rowOf_columns (h : columns schema cmd now = .ok p) : RowOf schema cmd p := by
  unfold columns at h
  obtain ⟨paymentID, hp, h⟩ := Statement.bind_eq_ok.mp h
  obtain ⟨orderID, ho, h⟩ := Statement.bind_eq_ok.mp h
  obtain ⟨kioskID, -, h⟩ := Statement.bind_eq_ok.mp h
  obtain ⟨idempotencyKey, hi, h⟩ := Statement.bind_eq_ok.mp h
  obtain ⟨amountCents, ha, h⟩ := Statement.bind_eq_ok.mp h
  obtain ⟨currency, -, h⟩ := Statement.bind_eq_ok.mp h
  obtain ⟨method, hm, h⟩ := Statement.bind_eq_ok.mp h
  obtain ⟨status, hs, h⟩ := Statement.bind_eq_ok.mp h
  obtain ⟨verifoneToken, -, h⟩ := Statement.bind_eq_ok.mp h
  obtain ⟨verifoneAuthCode, -, h⟩ := Statement.bind_eq_ok.mp h
  obtain ⟨cardBrand, -, h⟩ := Statement.bind_eq_ok.mp h
  obtain ⟨cardLastFour, -, h⟩ := Statement.bind_eq_ok.mp h
  obtain ⟨declineReason, -, h⟩ := Statement.bind_eq_ok.mp h
  obtain ⟨receiptText, -, h⟩ := Statement.bind_eq_ok.mp h
  obtain ⟨offlineTokenHMAC, -, h⟩ := Statement.bind_eq_ok.mp h
  obtain ⟨_, -, h⟩ := Statement.bind_eq_ok.mp h
  obtain ⟨_, knownMethod, h⟩ := Statement.bind_eq_ok.mp h
  obtain ⟨_, knownStatus, h⟩ := Statement.bind_eq_ok.mp h
  cases h
  have known {holds : Prop} [Decidable holds] {err : String} {u : Unit} (ok : check holds err = .ok u) : holds := by
    unfold check at ok
    split at ok
    · assumption
    · cases ok
  have short (s : String) (known : s ∈ methods ++ statuses) : s.length < 16 :=
    of_decide_eq_true (List.all_eq_true.mp short_known s known)
  exact {
    paymentID := hp
    orderID := ho
    idempotencyKey := hi
    amountCents := by
      unfold integer at ha
      split at ha
      · exact (Except.ok.inj ha).symm
      · cases ha
    method := varchar_known (short _ (List.mem_append_left _ (known knownMethod))) hm
    status := varchar_known (short _ (List.mem_append_right _ (known knownStatus))) hs }

/-- Why an insertion adds no row. -/
def Taken (table : Payments) (p : Payment) : Prop :=
  (∃ q ∈ table.rows, q.paymentID = p.paymentID) ∨ ∃ q ∈ table.rows, q.idempotencyKey = p.idempotencyKey

def Refers (schema : Schema) (p : Payment) : Prop := p.orderID ∈ schema.orders ∧ p.kioskID ∈ schema.kiosks

theorem report_cases (err : String) :
    report err = .failed err ∨ report err = .duplicate ∧ isUniqueViolation err = true := by
  unfold report
  split
  · rename_i unique
    exact .inr ⟨rfl, unique⟩
  · exact .inl rfl

theorem isUniqueViolation_foreignKey : isUniqueViolation foreignKey = false := by decide

/-- A row is added whose id and key are new, and the reply says so or is lost; or nothing changes, and a duplicate
is reported of a row that is there, or of an error whose text says so. -/
theorem recordAuthorization_cases (schema : Schema) (table : Payments) (cmd : RecordAuthorizationCommand) (now : ℤ)
    (outcome : Outcome) :
    (∃ p, columns schema cmd now = .ok p ∧ ¬ Taken table p ∧ Refers schema p ∧
      (recordAuthorization schema table cmd now outcome).1.rows = table.rows ++ [p] ∧
      (outcome = .committed ∧ (recordAuthorization schema table cmd now outcome).2 = .stored ∨
        ∃ err, outcome = .lost err ∧ (recordAuthorization schema table cmd now outcome).2 = report err)) ∨
    (recordAuthorization schema table cmd now outcome).1 = table ∧
      ((∃ p, columns schema cmd now = .ok p ∧ Taken table p ∧
        (recordAuthorization schema table cmd now outcome).2 = .duplicate) ∨
      ∃ err, (columns schema cmd now = .error err ∨ outcome = .failed err ∨
          err = foreignKey ∧ ∀ p, columns schema cmd now = .ok p → ¬ Refers schema p) ∧
        (recordAuthorization schema table cmd now outcome).2 = report err) := by
  unfold recordAuthorization
  cases read : columns schema cmd now with
  | error err => exact .inr ⟨rfl, .inr ⟨err, .inl rfl, rfl⟩⟩
  | ok p =>
    dsimp only
    split
    · rename_i taken
      refine .inr ⟨rfl, .inl ⟨p, rfl, ?_, rfl⟩⟩
      apply taken.imp
      · intro stored
        obtain ⟨q, found⟩ := Option.isSome_iff_exists.mp stored
        exact ⟨q, Table.find?_eq_some.mp found⟩
      · exact isSome_byIdempotencyKey
    · rename_i free
      rw [not_or, Option.not_isSome_iff_eq_none, Option.not_isSome_iff_eq_none] at free
      have fresh : ¬ Taken table p := by
        rintro (⟨q, hq, same⟩ | ⟨q, hq, same⟩)
        · exact Table.find?_eq_none.mp free.1 q hq same
        · exact byIdempotencyKey_eq_none.mp free.2 q hq same
      have added : (table.insertNew p).rows = table.rows ++ [p] := by rw [Table.insertNew, dif_pos free.1]
      by_cases foreign : p.orderID ∉ schema.orders ∨ p.kioskID ∉ schema.kiosks
      · rw [if_pos foreign]
        have unrefers : ¬ Refers schema p := fun refers => foreign.elim (· refers.1) (· refers.2)
        dsimp only
        refine .inr ⟨rfl, .inr ⟨foreignKey, .inr (.inr ⟨rfl, ?_⟩), rfl⟩⟩
        intro q same
        exact Except.ok.inj same ▸ unrefers
      · rw [if_neg foreign]
        rw [not_or, not_not, not_not] at foreign
        cases outcome with
        | committed => exact .inl ⟨p, rfl, fresh, foreign, added, .inl ⟨rfl, rfl⟩⟩
        | failed err => exact .inr ⟨rfl, .inr ⟨err, .inr (.inl rfl), rfl⟩⟩
        | lost err => exact .inl ⟨p, rfl, fresh, foreign, added, .inr ⟨err, rfl, rfl⟩⟩

end

/-! ## What holds in every run -/

/-- The event tells of the row. -/
structure Tells (schema : Schema) (ev : Event) (p : Payment) : Prop where
  paymentID : schema.uuid.parse ev.paymentID = .ok p.paymentID
  orderID : schema.uuid.parse ev.orderID = .ok p.orderID
  status : ev.status = p.status
  amountCents : ev.amountCents.toInt = p.amountCents
  method : ev.method = p.method

/-- A handler that had looked the command up inserted it, and the error it got reads like a unique violation. -/
def Mistaken (schema : Schema) (acts : List Act) (cmd : RecordAuthorizationCommand) : Prop :=
  ∃ before t now outcome after err, acts = before ++ .insert t now outcome :: after ∧
    (Runs.run (World.step schema) {} before).calls t = .looked cmd ∧ isUniqueViolation err = true ∧
    (columns schema cmd now = .error err ∨ outcome = .failed err)

/-- What is behind a command that is acknowledged: a payment of its key, or of its id, or an error of its own that was
taken for one of these. -/
def Kept (schema : Schema) (acts : List Act) (table : Payments) (cmd : RecordAuthorizationCommand) : Prop :=
  (∃ p ∈ table.rows, schema.uuid.parse cmd.idempotencyKey = .ok p.idempotencyKey) ∨
  (∃ p ∈ table.rows, schema.uuid.parse cmd.paymentID = .ok p.paymentID) ∨
  Mistaken schema acts cmd

structure Inv (schema : Schema) (acts : List Act) (w : World) : Prop where
  keys : (w.table.rows.map Payment.idempotencyKey).Nodup
  recorded : ∀ t cmd, w.calls t = .recorded cmd → ∃ p ∈ w.table.rows, RowOf schema cmd p
  alone : ∀ t t' cmd cmd', w.calls t = .recorded cmd → w.calls t' = .recorded cmd' →
    schema.uuid.parse cmd.paymentID = schema.uuid.parse cmd'.paymentID → t = t'
  told : ∀ ev ∈ w.events, ∃ p ∈ w.table.rows, Tells schema ev p
  fresh : ∀ t cmd, w.calls t = .recorded cmd → ∀ ev ∈ w.events,
    schema.uuid.parse ev.paymentID ≠ schema.uuid.parse cmd.paymentID
  once : w.events.Pairwise fun a b => schema.uuid.parse a.paymentID ≠ schema.uuid.parse b.paymentID
  acked : ∀ cmd ∈ w.acked, Kept schema acts w.table cmd

section
variable {schema : Schema} {w : World} {acts : List Act} {cmd : RecordAuthorizationCommand} {t : ℕ} {p : Payment}
  {phase : Phase}

theorem Kept.grow {table table' : Payments} (h : Kept schema acts table cmd) (rows : ∀ p ∈ table.rows, p ∈ table'.rows) :
    Kept schema acts table' cmd := by
  obtain ⟨p, hp, key⟩ | ⟨p, hp, id⟩ | mistaken := h
  · exact .inl ⟨p, rows p hp, key⟩
  · exact .inr (.inl ⟨p, rows p hp, id⟩)
  · exact .inr (.inr mistaken)

theorem Kept.later {table : Payments} (h : Kept schema acts table cmd) (a : Act) :
    Kept schema (acts ++ [a]) table cmd := by
  obtain key | id | ⟨before, t, now, outcome, after, err, rfl, own⟩ := h
  · exact .inl key
  · exact .inr (.inl id)
  · exact .inr (.inr ⟨before, t, now, outcome, after ++ [a], err, by simp, own⟩)

theorem Inv.later (h : Inv schema acts w) (a : Act) : Inv schema (acts ++ [a]) w :=
  { h with acked := fun cmd hc => (h.acked cmd hc).later a }

theorem calls_goto (w : World) (t : ℕ) (phase : Phase) : (w.goto t phase).calls t = phase := Function.update_self ..

theorem calls_goto_of_ne {t' : ℕ} (w : World) (phase : Phase) (h : t' ≠ t) : (w.goto t phase).calls t' = w.calls t' :=
  Function.update_of_ne h ..

/-- Who is recorded after a handler has gone on was so before. -/
theorem recorded_of_goto {t' : ℕ} (other : ∀ cmd, phase ≠ .recorded cmd)
    (h : (w.goto t phase).calls t' = .recorded cmd) : t' ≠ t ∧ w.calls t' = .recorded cmd := by
  by_cases own : t' = t
  · rw [own, calls_goto] at h
    exact absurd h (other cmd)
  · rw [calls_goto_of_ne w phase own] at h
    exact ⟨own, h⟩

theorem recorded_of_idle {t' : ℕ} (h : (w.goto t .idle).calls t' = .recorded cmd) :
    t' ≠ t ∧ w.calls t' = .recorded cmd := recorded_of_goto (by simp) h

theorem Inv.goto (h : Inv schema acts w) (t : ℕ) (other : ∀ cmd, phase ≠ .recorded cmd) :
    Inv schema acts (w.goto t phase) where
  keys := h.keys
  recorded t' cmd at' := h.recorded t' cmd (recorded_of_goto other at').2
  alone t' t'' cmd cmd' at' at'' := h.alone t' t'' cmd cmd' (recorded_of_goto other at').2 (recorded_of_goto other at'').2
  told := h.told
  fresh t' cmd at' := h.fresh t' cmd (recorded_of_goto other at').2
  once := h.once
  acked := h.acked

theorem Inv.idle (h : Inv schema acts w) (t : ℕ) : Inv schema acts (w.goto t .idle) := h.goto t (by simp)

theorem Inv.ack (h : Inv schema acts w) (kept : Kept schema acts w.table cmd) : Inv schema acts (w.ack cmd) :=
  { h with
    acked := by
      intro cmd' hc
      obtain hc | hc := List.mem_append.mp hc
      · exact h.acked cmd' hc
      · rw [List.mem_singleton.mp hc]
        exact kept }

theorem Inv.grow (h : Inv schema acts w) {table : Payments} (free : ¬ Taken w.table p)
    (rows : table.rows = w.table.rows ++ [p]) : Inv schema acts { w with table } where
  keys := by
    rw [rows, List.map_append, List.nodup_append]
    refine ⟨h.keys, List.nodup_singleton _, ?_⟩
    intro key hk key' hk' same
    obtain ⟨q, hq, rfl⟩ := List.mem_map.mp hk
    rw [List.map_singleton, List.mem_singleton] at hk'
    exact free (.inr ⟨q, hq, same.trans hk'⟩)
  recorded t cmd at' := by
    obtain ⟨q, hq, row⟩ := h.recorded t cmd at'
    exact ⟨q, rows ▸ List.mem_append_left _ hq, row⟩
  alone := h.alone
  told ev he := by
    obtain ⟨q, hq, tells⟩ := h.told ev he
    exact ⟨q, rows ▸ List.mem_append_left _ hq, tells⟩
  fresh := h.fresh
  once := h.once
  acked cmd hc := (h.acked cmd hc).grow fun q hq => rows ▸ List.mem_append_left _ hq

/-- A new row is one that neither an event nor another handler tells of. -/
theorem Inv.record (h : Inv schema acts w) {table : Payments} (free : ¬ Taken w.table p)
    (rows : table.rows = w.table.rows ++ [p]) (row : RowOf schema cmd p) :
    Inv schema acts ({ w with table }.goto t (.recorded cmd)) := by
  have grown := h.grow free rows
  have others (t' : ℕ) (cmd' : RecordAuthorizationCommand) (at' : w.calls t' = .recorded cmd') :
      schema.uuid.parse cmd'.paymentID ≠ schema.uuid.parse cmd.paymentID := by
    intro same
    obtain ⟨q, hq, own⟩ := h.recorded t' cmd' at'
    rw [own.paymentID, row.paymentID] at same
    exact free (.inl ⟨q, hq, Except.ok.inj same⟩)
  have before (t' : ℕ) (cmd' : RecordAuthorizationCommand)
      (at' : ({ w with table }.goto t (.recorded cmd)).calls t' = .recorded cmd') :
      t' = t ∧ cmd' = cmd ∨ t' ≠ t ∧ w.calls t' = .recorded cmd' := by
    by_cases own : t' = t
    · rw [own, calls_goto] at at'
      cases at'
      exact .inl ⟨own, rfl⟩
    · rw [calls_goto_of_ne _ _ own] at at'
      exact .inr ⟨own, at'⟩
  refine ⟨grown.keys, ?_, ?_, grown.told, ?_, grown.once, grown.acked⟩
  · intro t' cmd' at'
    obtain ⟨rfl, rfl⟩ | ⟨-, at'⟩ := before t' cmd' at'
    · exact ⟨p, rows ▸ List.mem_append_right _ List.mem_cons_self, row⟩
    · exact grown.recorded t' cmd' at'
  · intro t' t'' cmd' cmd'' at' at'' same
    obtain ⟨rfl, rfl⟩ | ⟨-, was⟩ := before t' cmd' at'
    · obtain ⟨rfl, rfl⟩ | ⟨-, was'⟩ := before t'' cmd'' at''
      · rfl
      · exact absurd same.symm (others t'' cmd'' was')
    · obtain ⟨rfl, rfl⟩ | ⟨-, was'⟩ := before t'' cmd'' at''
      · exact absurd same (others t' cmd' was)
      · exact h.alone t' t'' cmd' cmd'' was was' same
  · intro t' cmd' at' ev he
    obtain ⟨rfl, rfl⟩ | ⟨-, at'⟩ := before t' cmd' at'
    · intro same
      obtain ⟨q, hq, tells⟩ := h.told ev he
      rw [tells.paymentID, row.paymentID] at same
      exact free (.inl ⟨q, hq, Except.ok.inj same⟩)
    · exact h.fresh t' cmd' at' ev he

theorem Inv.deliver (h : Inv schema acts w) (t : ℕ) (cmd : RecordAuthorizationCommand) (fault : Option String) :
    Inv schema acts (w.deliver schema t cmd fault) := by
  unfold World.deliver
  split
  · rename_i key _ parsed
    split
    · rename_i stored
      obtain ⟨p, hp, own⟩ := isSome_byIdempotencyKey stored
      exact h.ack (.inl ⟨p, hp, own ▸ parsed⟩)
    · exact h.goto t (by simp)
  · exact h

theorem Inv.insert (h : Inv schema acts w) (reached : w = Runs.run (World.step schema) {} acts) (t : ℕ) (now : ℤ)
    (outcome : Outcome) : Inv schema (acts ++ [.insert t now outcome]) (w.insert schema t now outcome) := by
  have h := h.later (.insert t now outcome)
  unfold World.insert
  split
  swap
  · exact h
  rename_i cmd looked
  obtain ⟨p, read, free, -, rows, ⟨-, reply⟩ | ⟨err, -, reply⟩⟩ | ⟨same, ⟨p, read, taken, reply⟩ | ⟨err, why, reply⟩⟩ :=
    recordAuthorization_cases schema w.table cmd now outcome
  · simp only [reply, World.reported]
    exact h.record free rows (rowOf_columns read)
  · have grown := (h.grow free rows).idle t
    have own : ∃ q ∈ (recordAuthorization schema w.table cmd now outcome).1.rows,
        schema.uuid.parse cmd.idempotencyKey = .ok q.idempotencyKey :=
      ⟨p, rows ▸ List.mem_append_right _ List.mem_cons_self, (rowOf_columns read).idempotencyKey⟩
    obtain failed | ⟨duplicate, -⟩ := report_cases err
    · simp only [reply, failed, World.reported]
      exact grown
    · simp only [reply, duplicate, World.reported]
      exact grown.ack (.inl own)
  · simp only [same, reply, World.reported]
    apply (h.goto t (by simp)).ack
    obtain ⟨q, hq, id⟩ | ⟨q, hq, key⟩ := taken
    · exact .inr (.inl ⟨q, hq, id ▸ (rowOf_columns read).paymentID⟩)
    · exact .inl ⟨q, hq, key ▸ (rowOf_columns read).idempotencyKey⟩
  · simp only [same, reply]
    obtain failed | ⟨duplicate, unique⟩ := report_cases err
    · simp only [failed, World.reported]
      exact h.goto t (by simp)
    · simp only [duplicate, World.reported]
      apply (h.goto t (by simp)).ack
      have mistaken (own : columns schema cmd now = .error err ∨ outcome = .failed err) :
          Mistaken schema (acts ++ [.insert t now outcome]) cmd :=
        ⟨acts, t, now, outcome, [], err, rfl, reached ▸ looked, unique, own⟩
      obtain read | failed | ⟨rfl, -⟩ := why
      · exact .inr (.inr (mistaken (.inl read)))
      · exact .inr (.inr (mistaken (.inr failed)))
      · rw [isUniqueViolation_foreignKey] at unique
        cases unique

theorem tells_event (row : RowOf schema cmd p) (now : ℤ) : Tells schema (event cmd now) p :=
  ⟨row.paymentID, row.orderID, row.status.symm, row.amountCents.symm, row.method.symm⟩

theorem Inv.publish (h : Inv schema acts w) (t : ℕ) (now : ℤ) (published : Bool) :
    Inv schema acts (w.publish t now published) := by
  unfold World.publish
  split
  swap
  · exact h
  rename_i cmd recorded
  obtain ⟨p, hp, row⟩ := h.recorded t cmd recorded
  have left : Inv schema acts (w.goto t .idle) := h.goto t (by simp)
  cases published with
  | false => exact left.ack (.inl ⟨p, hp, row.idempotencyKey⟩)
  | true =>
    refine Inv.ack ⟨left.keys, left.recorded, left.alone, ?_, ?_, ?_, left.acked⟩ (.inl ⟨p, hp, row.idempotencyKey⟩)
    · intro ev he
      obtain he | he := List.mem_append.mp he
      · exact h.told ev he
      · rw [List.mem_singleton.mp he]
        exact ⟨p, hp, tells_event row now⟩
    · intro t' cmd' at' ev he
      obtain ⟨other, was⟩ := recorded_of_goto (by simp) at'
      obtain he | he := List.mem_append.mp he
      · exact h.fresh t' cmd' was ev he
      · rw [List.mem_singleton.mp he]
        exact fun same => other (h.alone t' t cmd' cmd was recorded same.symm)
    · refine List.pairwise_append.mpr ⟨h.once, List.pairwise_singleton _ _, ?_⟩
      intro ev he new hn
      rw [List.mem_singleton.mp hn]
      exact h.fresh t cmd recorded ev he

theorem Inv.step (h : Inv schema acts w) (reached : w = Runs.run (World.step schema) {} acts) (a : Act) :
    Inv schema (acts ++ [a]) (w.step schema a) := by
  cases a with
  | deliver t cmd fault => exact (h.deliver t cmd fault).later _
  | insert t now outcome => exact h.insert reached t now outcome
  | publish t now published => exact (h.publish t now published).later _
  | crash t => exact (h.goto t (by simp)).later _

theorem inv_run (schema : Schema) (acts : List Act) : Inv schema acts (Runs.run (World.step schema) {} acts) := by
  induction acts using List.reverseRecOn with
  | nil => exact ⟨.nil, by simp, by simp, by simp, by simp, .nil, by simp⟩
  | append_singleton acts a ih =>
    rw [Runs.run_concat]
    exact ih.step rfl a

/-- However handlers fail, die and are called again, a key has one payment, a payment is announced once and as it is
stored, and what is acknowledged is stored, unless its id was taken or an error of its own was mistaken for that. -/
theorem recorded_once (schema : Schema) (acts : List Act) :
    let w := Runs.run (World.step schema) {} acts
    (w.table.rows.map Payment.idempotencyKey).Nodup ∧
    (∀ ev ∈ w.events, ∃ p ∈ w.table.rows, Tells schema ev p) ∧
    (w.events.Pairwise fun a b => schema.uuid.parse a.paymentID ≠ schema.uuid.parse b.paymentID) ∧
    ∀ cmd ∈ w.acked, Kept schema acts w.table cmd := by
  intro w
  have h := inv_run schema acts
  exact ⟨h.keys, h.told, h.once, h.acked⟩

end

/-! ## Payments that nobody hears of -/

/-- The payment is announced, or a handler is about to. -/
def Told (schema : Schema) (w : World) (p : Payment) : Prop :=
  (∃ ev ∈ w.events, schema.uuid.parse ev.paymentID = .ok p.paymentID) ∨
    ∃ t cmd, w.calls t = .recorded cmd ∧ schema.uuid.parse cmd.paymentID = .ok p.paymentID

def Announced (schema : Schema) (w : World) : Prop := ∀ p ∈ w.table.rows, Told schema w p

/-- No reply of an insertion is lost, and no handler fails or dies between a row and its event. -/
def Careful (schema : Schema) (w : World) : Act → Prop
  | .deliver _ _ _ => True
  | .insert t now outcome => ∀ cmd p err, w.calls t = .looked cmd → columns schema cmd now = .ok p →
      ¬ Taken w.table p → Refers schema p → outcome ≠ .lost err
  | .publish t _ published => published = true ∨ ∀ cmd, w.calls t ≠ .recorded cmd
  | .crash t => ∀ cmd, w.calls t ≠ .recorded cmd

section
variable {schema : Schema} {w : World} {acts : List Act} {t : ℕ} {p : Payment} {phase : Phase}

theorem Told.goto (h : Told schema w p) (idle : ∀ cmd, w.calls t ≠ .recorded cmd) (phase : Phase) :
    Told schema (w.goto t phase) p := by
  obtain event | ⟨t', cmd, recorded, id⟩ := h
  · exact .inl event
  · refine .inr ⟨t', cmd, ?_, id⟩
    have other : t' ≠ t := by
      rintro rfl
      exact idle cmd recorded
    rwa [calls_goto_of_ne w phase other]

theorem told_of_goto (other : ∀ cmd, phase ≠ .recorded cmd) (h : Told schema (w.goto t phase) p) :
    Told schema w p := by
  obtain event | ⟨t', cmd, recorded, id⟩ := h
  · exact .inl event
  · exact .inr ⟨t', cmd, (recorded_of_goto other recorded).2, id⟩

theorem told_of_idle (h : Told schema (w.goto t .idle) p) : Told schema w p := told_of_goto (by simp) h

/-- Nobody tells of a row that is not there. -/
theorem Inv.untold (h : Inv schema acts w) (free : ¬ Taken w.table p) : ¬ Told schema w p := by
  rintro (⟨ev, he, id⟩ | ⟨t, cmd, recorded, id⟩)
  · obtain ⟨q, hq, tells⟩ := h.told ev he
    exact free (.inl ⟨q, hq, Except.ok.inj (tells.paymentID.symm.trans id)⟩)
  · obtain ⟨q, hq, row⟩ := h.recorded t cmd recorded
    exact free (.inl ⟨q, hq, Except.ok.inj (row.paymentID.symm.trans id)⟩)

/-- When a handler goes away before it has told of its row, nobody tells of it. -/
theorem Inv.left (h : Inv schema acts w) {cmd : RecordAuthorizationCommand} (recorded : w.calls t = .recorded cmd) :
    ∃ p ∈ w.table.rows, ¬ Told schema (w.goto t .idle) p := by
  obtain ⟨p, hp, row⟩ := h.recorded t cmd recorded
  refine ⟨p, hp, ?_⟩
  rintro (⟨ev, he, id⟩ | ⟨t', cmd', recorded', id⟩)
  · exact h.fresh t cmd recorded ev he (id.trans row.paymentID.symm)
  · obtain ⟨other, was⟩ := recorded_of_goto (by simp) recorded'
    exact other (h.alone t' t cmd' cmd was recorded (id.trans row.paymentID.symm))

theorem Announced.step (h : Announced schema w) {a : Act} (careful : Careful schema w a) :
    Announced schema (w.step schema a) := by
  cases a with
  | deliver t cmd fault =>
    show Announced schema (w.deliver schema t cmd fault)
    unfold World.deliver
    split
    · rename_i _ idle _
      split
      · exact h
      · exact fun p hp => (h p hp).goto (by simp [idle]) _
    · exact h
  | insert t now outcome =>
    rw [World.step, World.insert]
    split
    swap
    · exact h
    rename_i cmd looked
    have idle (cmd' : RecordAuthorizationCommand) : w.calls t ≠ .recorded cmd' := by simp [looked]
    obtain ⟨p, read, free, refers, rows, ⟨-, reply⟩ | ⟨err, lost, -⟩⟩ | ⟨same, -⟩ :=
      recordAuthorization_cases schema w.table cmd now outcome
    · simp only [reply, World.reported]
      intro q hq
      have hq : q ∈ w.table.rows ++ [p] := rows ▸ hq
      obtain hq | hq := List.mem_append.mp hq
      · exact Told.goto (w := { w with table := _ }) (h q hq) idle _
      · rw [List.mem_singleton.mp hq]
        exact .inr ⟨t, cmd, calls_goto _ _ _, (rowOf_columns read).paymentID⟩
    · exact absurd lost (careful cmd p err looked read free refers)
    · simp only [same]
      generalize (recordAuthorization schema w.table cmd now outcome).2 = reply
      cases reply with
      | stored => exact fun q hq => (h q hq).goto idle _
      | duplicate => exact fun q hq => (h q hq).goto idle _
      | failed => exact fun q hq => (h q hq).goto idle _
  | publish t now published =>
    rw [World.step, World.publish]
    split
    swap
    · exact h
    rename_i cmd recorded
    obtain rfl | idle := careful
    · intro q hq
      obtain ⟨ev, he, id⟩ | ⟨t', cmd', recorded', id⟩ := h q hq
      · exact .inl ⟨ev, List.mem_append_left _ he, id⟩
      · by_cases own : t' = t
        · subst own
          cases recorded.symm.trans recorded'
          exact .inl ⟨event cmd now, List.mem_append_right _ List.mem_cons_self, id⟩
        · exact .inr ⟨t', cmd', (calls_goto_of_ne _ _ own).trans recorded', id⟩
    · exact absurd recorded (idle cmd)
  | crash t => exact fun p hp => (h p hp).goto careful _

theorem careful_of_announced (inv : Inv schema acts w) {a : Act} (h : Announced schema (w.step schema a)) :
    Careful schema w a := by
  cases a with
  | deliver t cmd fault => trivial
  | insert t now outcome =>
    rintro cmd p err looked read free refers rfl
    rw [World.step, World.insert, looked] at h
    obtain ⟨q, read', -, -, rows, ⟨lost, -⟩ | ⟨err', -, reply⟩⟩ | ⟨-, ⟨q, read', taken, -⟩ | ⟨err', why, -⟩⟩ :=
      recordAuthorization_cases schema w.table cmd now (.lost err)
    · cases lost
    · cases read.symm.trans read'
      have told := h p
      obtain failed | ⟨duplicate, -⟩ := report_cases err'
      · simp only [reply, failed, World.reported] at told
        have mem : p ∈ (recordAuthorization schema w.table cmd now (.lost err)).1.rows :=
          rows ▸ List.mem_append_right _ List.mem_cons_self
        exact inv.untold free (told_of_goto (by simp) (told mem))
      · simp only [reply, duplicate, World.reported] at told
        have mem : p ∈ (recordAuthorization schema w.table cmd now (.lost err)).1.rows :=
          rows ▸ List.mem_append_right _ List.mem_cons_self
        exact inv.untold free (told_of_goto (by simp) (told mem))
    · cases read.symm.trans read'
      exact free taken
    · obtain failed | lost | ⟨-, unrefers⟩ := why
      · cases read.symm.trans failed
      · cases lost
      · exact unrefers p read refers
  | publish t now published =>
    cases published with
    | true => exact .inl rfl
    | false =>
      refine .inr fun cmd recorded => ?_
      obtain ⟨p, hp, untold⟩ := inv.left recorded
      rw [World.step, World.publish, recorded] at h
      exact untold (h p hp)
  | crash t =>
    intro cmd recorded
    obtain ⟨p, hp, untold⟩ := inv.left recorded
    exact untold (h p hp)

/-- What was not told is not told later. -/
theorem told_of_step (hp : p ∈ w.table.rows) {a : Act}
    (h : Told schema (w.step schema a) p) : Told schema w p := by
  cases a with
  | deliver t cmd fault =>
    unfold World.step World.deliver at h
    dsimp only at h
    split at h
    · split at h
      · exact h
      · exact told_of_goto (by simp) h
    · exact h
  | insert t now outcome =>
    rw [World.step, World.insert] at h
    split at h
    swap
    · exact h
    rename_i cmd looked
    dsimp only at h
    cases reply : (recordAuthorization schema w.table cmd now outcome).2 with
    | stored =>
      rw [reply] at h
      obtain ⟨q, read, free, -, -, -⟩ | ⟨-, ⟨q, -, -, other⟩ | ⟨err, -, other⟩⟩ :=
        recordAuthorization_cases schema w.table cmd now outcome
      · obtain event | ⟨t', cmd', recorded, id⟩ := h
        · exact .inl event
        · by_cases own : t' = t
          · rw [World.reported, own, calls_goto] at recorded
            cases recorded
            exact absurd (.inl ⟨p, hp, Except.ok.inj (id.symm.trans (rowOf_columns read).paymentID)⟩) free
          · rw [World.reported, calls_goto_of_ne _ _ own] at recorded
            exact .inr ⟨t', cmd', recorded, id⟩
      · cases reply.symm.trans other
      · obtain failed | ⟨duplicate, -⟩ := report_cases err
        · cases reply.symm.trans (other.trans failed)
        · cases reply.symm.trans (other.trans duplicate)
    | duplicate =>
      rw [reply] at h
      exact told_of_idle h
    | failed err =>
      rw [reply] at h
      exact told_of_idle h
  | publish t now published =>
    rw [World.step, World.publish] at h
    split at h
    swap
    · exact h
    rename_i cmd recorded
    obtain ⟨ev, he, id⟩ | ⟨t', cmd', recorded', id⟩ := h
    · cases published with
      | false => exact .inl ⟨ev, he, id⟩
      | true =>
        obtain he | he := List.mem_append.mp he
        · exact .inl ⟨ev, he, id⟩
        · rw [List.mem_singleton.mp he] at id
          exact .inr ⟨t, cmd, recorded, id⟩
    · obtain ⟨-, was⟩ := recorded_of_idle recorded'
      exact .inr ⟨t', cmd', was, id⟩
  | crash t => exact told_of_goto (by simp) h

theorem rows_step (w : World) (a : Act) : ∀ p ∈ w.table.rows, p ∈ (w.step schema a).table.rows := by
  intro p hp
  cases a with
  | deliver t cmd fault =>
    show p ∈ (w.deliver schema t cmd fault).table.rows
    unfold World.deliver
    split
    · split <;> exact hp
    · exact hp
  | insert t now outcome =>
    rw [World.step, World.insert]
    split
    swap
    · exact hp
    rename_i cmd looked
    dsimp only
    have kept : p ∈ (recordAuthorization schema w.table cmd now outcome).1.rows := by
      obtain ⟨q, -, -, -, rows, -⟩ | ⟨same, -⟩ := recordAuthorization_cases schema w.table cmd now outcome
      · exact rows ▸ List.mem_append_left _ hp
      · rw [same]
        exact hp
    generalize (recordAuthorization schema w.table cmd now outcome).2 = reply
    cases reply <;> exact kept
  | publish t now published =>
    rw [World.step, World.publish]
    split <;> exact hp
  | crash t => exact hp

/-- Every payment is announced, or about to be, throughout a run exactly if no reply is lost and no handler fails or
dies in between. A payment that nobody tells of is announced by no later run: its command is a duplicate. -/
theorem announced_iff (schema : Schema) (acts : List Act) :
    (Runs.Always (World.step schema) (Announced schema) {} acts ↔
      Runs.EachStep (World.step schema) (Careful schema) {} acts) ∧
    ∀ later, ∀ p ∈ (Runs.run (World.step schema) {} acts).table.rows,
      ¬ Told schema (Runs.run (World.step schema) {} acts) p →
      p ∈ (Runs.run (World.step schema) {} (acts ++ later)).table.rows ∧
        ¬ Told schema (Runs.run (World.step schema) {} (acts ++ later)) p := by
  constructor
  · refine Runs.always_iff_eachStep
      (J := fun w => (∃ acts, w = Runs.run (World.step schema) {} acts) ∧ Announced schema w) ?_ ?_ ?_
      ⟨⟨[], rfl⟩, by simp [Announced, Table.empty]⟩ acts
    · exact fun w h => h.2
    · rintro _ a ⟨⟨acts, rfl⟩, told⟩ careful
      exact ⟨⟨acts ++ [a], (Runs.run_concat ..).symm⟩, told.step careful⟩
    · rintro _ a ⟨⟨acts, rfl⟩, -⟩ told
      exact careful_of_announced (inv_run schema acts) told
  · intro later p hp untold
    induction later using List.reverseRecOn with
    | nil =>
      rw [List.append_nil]
      exact ⟨hp, untold⟩
    | append_singleton later a ih =>
      rw [← List.append_assoc, Runs.run_concat]
      exact ⟨rows_step _ a p ih.1, fun told => ih.2 (told_of_step ih.1 told)⟩

end

end PaymentService.Authorizations
