import AstraSystem.OrderService.OneOrder
import AstraSystem.OrderService.Repository

/-!
# The life of an order (`service/service.go`)

Three methods move an order. Two of them move it forward; the third sets any status.
-/

namespace OrderService.Repository.Lifecycle

open RFC3339 (Time)

/-! ## Calls -/

inductive OrderStatus where
  | unspecified
  | pending
  | paid
  | fulfilled
  | cancelled
  | refunded
  /-- A number without a name. -/
  | unknown (n : Int32)
  deriving DecidableEq, Repr

def statusFromProto : OrderStatus → String
  | .pending => "pending"
  | .paid => "paid"
  | .fulfilled => "fulfilled"
  | .cancelled => "cancelled"
  | .refunded => "refunded"
  | .unspecified | .unknown _ => ""

inductive Code where
  | invalidArgument
  | notFound
  | failedPrecondition
  | internal
  deriving DecidableEq, Repr

structure Failure where
  code : Code
  message : String
  deriving DecidableEq, Repr

structure UpdateOrderStatusRequest where
  orderID : String
  status : OrderStatus
  reason : String
  deriving DecidableEq, Repr

structure FulfillOrderRequest where
  orderID : String
  fulfilledBy : String
  deriving DecidableEq, Repr

variable (uuid : UUIDText)

/-- The event of a call, with the id that it draws. -/
def event (eventID : UUID) (eventType : String) (now : Time) (fields : Json.Fields) : OutboxEvent where
  eventID := uuid.string eventID
  eventType
  payload := .object fields
  occurredAtMs := now.unixNano / 10 ^ 6

def updateOrderStatus (db : DB) (env : Env) (eventID : UUID) (req : UpdateOrderStatusRequest) :
    DB × Except Failure (Order String) :=
  if req.orderID = "" then (db, .error ⟨.invalidArgument, "order_id is required"⟩)
  else if req.status = .unspecified then (db, .error ⟨.invalidArgument, "status is required"⟩)
  else
    let newStatus := statusFromProto req.status
    let changed := event uuid eventID "astra.order.status_changed.v1" env.now
      [("order_id", .string req.orderID), ("reason", .string req.reason), ("status", .string newStatus),
        ("timestamp", .string env.now.format)]
    match Repository.updateOrderStatus uuid db env req.orderID newStatus changed with
    | (db, .ok order) => (db, .ok order)
    | (db, .error .orderNotFound) => (db, .error ⟨.notFound, "order " ++ req.orderID ++ " not found"⟩)
    | (db, .error err) => (db, .error ⟨.internal, "update status: " ++ err.message⟩)

def fulfillOrder (db : DB) (env : Env) (eventID : UUID) (req : FulfillOrderRequest) :
    DB × Except Failure (Order String) :=
  if req.orderID = "" then (db, .error ⟨.invalidArgument, "order_id is required"⟩)
  else
    let fulfilled := event uuid eventID "astra.order.fulfilled.v1" env.now
      [("fulfilled_at", .string env.now.format), ("fulfilled_by", .string req.fulfilledBy),
        ("order_id", .string req.orderID), ("timestamp", .string env.now.format)]
    match markFulfilled uuid db env req.orderID req.fulfilledBy env.now fulfilled with
    | (db, .ok order) => (db, .ok order)
    | (db, .error .orderNotFound) => (db, .error ⟨.notFound, "order " ++ req.orderID ++ " not found"⟩)
    | (db, .error (.invalidStatus context)) => (db, .error ⟨.failedPrecondition,
        "cannot fulfill order: " ++ (RepositoryError.invalidStatus context).message⟩)
    | (db, .error err) => (db, .error ⟨.internal, "fulfill order: " ++ err.message⟩)

/-! ## Runs -/

inductive Act where
  | markPaid (env : Env) (orderID : String) (paidAt : Time) (event : OutboxEvent)
  | fulfillOrder (env : Env) (eventID : UUID) (req : FulfillOrderRequest)
  | updateOrderStatus (env : Env) (eventID : UUID) (req : UpdateOrderStatusRequest)

def Act.orderID : Act → String
  | markPaid _ orderID _ _ => orderID
  | fulfillOrder _ _ req => req.orderID
  | updateOrderStatus _ _ req => req.orderID

/-- The database after a call, and whether the call succeeds. -/
def perform (db : DB) : Act → DB × Bool
  | .markPaid env orderID paidAt event =>
    let r := Repository.markPaid uuid db env orderID paidAt event
    (r.1, r.2.isOk)
  | .fulfillOrder env eventID req =>
    let r := fulfillOrder uuid db env eventID req
    (r.1, r.2.isOk)
  | .updateOrderStatus env eventID req =>
    let r := updateOrderStatus uuid db env eventID req
    (r.1, r.2.isOk)

/-- The orders, and every status that each of them has had. -/
structure World where
  db : DB
  reached : List (UUID × String)

def statusesOf (db : DB) : List (UUID × String) := db.orders.rows.map fun o => (o.orderID, o.status)

def World.start (db : DB) : World := ⟨db, statusesOf db⟩

def step (w : World) (a : Act) : World :=
  let db := (perform uuid w.db a).1
  ⟨db, w.reached ++ statusesOf db⟩

/-- An order that has just been created. -/
structure Fresh (o : Order UUID) : Prop where
  status : o.status = "pending"
  paidAt : o.paidAt = none
  fulfilledAt : o.fulfilledAt = none
  cancelledAt : o.cancelledAt = none

/-- Statuses that an order is not meant to leave for `pending` or `paid`. -/
def final : List String := ["fulfilled", "cancelled", "refunded"]

/-! ## What was claimed -/

/-- The timestamps follow the status, and no order comes back. -/
structure Consistent (reached : List (UUID × String)) (o : Order UUID) : Prop where
  status : o.status ∈ statuses
  paid : o.status ∈ ["paid", "fulfilled", "refunded"] → o.paidAt.isSome
  fulfilled : o.fulfilledAt.isSome ↔ (o.orderID, "fulfilled") ∈ reached
  cancelled : o.cancelledAt.isSome ↔ o.status = "cancelled"
  forward : (∃ s ∈ final, (o.orderID, s) ∈ reached) → o.status ∉ ["pending", "paid"]

/-! ## What holds -/

/-- The timestamps follow the status, but for orders that were set to be fulfilled. -/
structure Sound (reached : List (UUID × String)) (o : Order UUID) : Prop where
  status : o.status ∈ statuses
  paid : o.status ∈ ["paid", "fulfilled", "refunded"] → o.paidAt.isSome
  fulfilled : o.fulfilledAt.isSome → (o.orderID, "fulfilled") ∈ reached
  cancelled : o.cancelledAt.isSome ↔ o.status = "cancelled"

/-- A call that would break the law for an order. -/
def Breaks (o : Order UUID) : Act → Prop
  | .markPaid .. => o.status = "cancelled" ∨ o.status = "refunded"
  | .fulfillOrder .. => o.status ≠ "paid" ∧ o.status ≠ "fulfilled"
  | .updateOrderStatus _ _ req => statusFromProto req.status ∉ statuses ∨
    statusFromProto req.status ≠ o.status ∧
      statusFromProto req.status ∈ ["paid", "fulfilled", "refunded"] ∧ o.paidAt = none

/-- What a call does to an order. -/
structure Advances (a : Act) (old new : Order UUID) : Prop where
  /-- Only `UpdateOrderStatus` brings an order back. -/
  forward : old.status ∈ final → new.status ∈ ["pending", "paid"] → ∃ env eventID req,
    a = .updateOrderStatus env eventID req
  /-- The time of fulfillment stays, and `MarkFulfilled` sets it. -/
  fulfilledAt : old.fulfilledAt.isSome ∨ (new.status ≠ old.status ∧ ∃ env eventID req,
    a = .fulfillOrder env eventID req) → new.fulfilledAt.isSome

/-- No order is lost, and a call that would break the law is an error and changes nothing. -/
structure Lawful (w : World) (a : Act) : Prop where
  advances : ∀ old ∈ w.db.orders.rows, ∃ new ∈ (perform uuid w.db a).1.orders.rows,
    new.orderID = old.orderID ∧ Advances a old new
  refuses : ∀ o ∈ w.db.orders.rows, uuid.parse a.orderID = .ok o.orderID → Breaks o a →
    perform uuid w.db a = (w.db, false)

/-! ## Moves -/

/-- The rows that the calls write. -/
inductive Moves : Act → Order UUID → Order UUID → Prop where
  | paid {env orderID paidAt event old} (pending : old.status = "pending") :
    Moves (.markPaid env orderID paidAt event) old
      { old with status := "paid", paidAt := some paidAt, updatedAt := env.now }
  | fulfilled {env eventID req old metadata} (paid : old.status = "paid") :
    Moves (.fulfillOrder env eventID req) old
      { old with status := "fulfilled", fulfilledAt := some env.now, metadata, updatedAt := env.now }
  | updated {env eventID req old} (other : old.status ≠ statusFromProto req.status) :
    Moves (.updateOrderStatus env eventID req) old { old with
      status := statusFromProto req.status
      cancelledAt := if statusFromProto req.status = "cancelled" then some env.now else none
      updatedAt := env.now }

section
variable {uuid} {db : DB} {w : World} {a : Act} {o old row : Order UUID} {reached : List (UUID × String)}

/-- A reply in another form leaves the database alone. -/
theorem updateOrderStatus_db (uuid : UUIDText) (db : DB) (env : Env) (eventID : UUID)
    (req : UpdateOrderStatusRequest) : (updateOrderStatus uuid db env eventID req).1 = db ∨
      ∃ event, (updateOrderStatus uuid db env eventID req).1 =
        (Repository.updateOrderStatus uuid db env req.orderID (statusFromProto req.status) event).1 := by
  unfold updateOrderStatus
  split
  · exact .inl rfl
  split
  · exact .inl rfl
  extract_lets newStatus changed
  refine .inr ⟨changed, ?_⟩
  split <;> rename_i reply <;> exact (congrArg Prod.fst reply).symm

theorem fulfillOrder_db (uuid : UUIDText) (db : DB) (env : Env) (eventID : UUID)
    (req : FulfillOrderRequest) : (fulfillOrder uuid db env eventID req).1 = db ∨
      ∃ event, (fulfillOrder uuid db env eventID req).1 =
        (markFulfilled uuid db env req.orderID req.fulfilledBy env.now event).1 := by
  unfold fulfillOrder
  split
  · exact .inl rfl
  extract_lets fulfilled
  refine .inr ⟨fulfilled, ?_⟩
  split <;> rename_i reply <;> exact (congrArg Prod.fst reply).symm

/-- A call changes one order at most, by a move that the constraints take. -/
theorem perform_cases (uuid : UUIDText) (db : DB) (a : Act) : (perform uuid db a).1 = db ∨
    ∃ old row, db.orders.find? row.orderID = some old ∧ Moves a old row ∧ Checked row ∧
      (perform uuid db a).1.orders = db.orders.upsert (fun _ new => new) (fun _ _ => rfl) row := by
  cases a with
  | markPaid env orderID paidAt event =>
    obtain same | ⟨id, old, row, -, found, moved, checked, orders⟩ := change_cases uuid db env orderID
      "repository: mark paid: " event (Move.pay env paidAt)
    · exact .inl same
    obtain ⟨-, rfl⟩ := Table.find?_eq_some.mp found
    unfold Move.pay at moved
    split at moved
    · cases moved
    split at moved
    · cases moved
    · rename_i pending
      cases moved
      refine .inr ⟨old, _, ?_, .paid (not_not.mp pending), checked, orders⟩
      exact found
  | fulfillOrder env eventID req =>
    obtain same | ⟨event, same⟩ := fulfillOrder_db uuid db env eventID req
    · exact .inl same
    obtain none | ⟨id, old, row, -, found, moved, checked, orders⟩ := change_cases uuid db env req.orderID
      "repository: mark fulfilled: " event (Move.fulfill env req.fulfilledBy env.now)
    · exact .inl (same.trans none)
    obtain ⟨-, rfl⟩ := Table.find?_eq_some.mp found
    unfold Move.fulfill at moved
    split at moved
    · cases moved
    split at moved
    · cases moved
    · rename_i paid
      obtain ⟨metadata, -, moved⟩ := Statement.bind_eq_ok.mp moved
      cases moved
      refine .inr ⟨old, _, ?_, .fulfilled (not_not.mp paid), checked,
        (congrArg DB.orders same).trans orders⟩
      exact found
  | updateOrderStatus env eventID req =>
    obtain same | ⟨event, same⟩ := updateOrderStatus_db uuid db env eventID req
    · exact .inl same
    obtain none | ⟨id, old, row, -, found, moved, checked, orders⟩ := change_cases uuid db env req.orderID
      "repository: update status: " event (Move.set env (statusFromProto req.status))
    · exact .inl (same.trans none)
    obtain ⟨-, rfl⟩ := Table.find?_eq_some.mp found
    unfold Move.set at moved
    split at moved
    · cases moved
    · rename_i other
      cases moved
      refine .inr ⟨old, _, ?_, .updated other, checked, (congrArg DB.orders same).trans orders⟩
      exact found

/-! ## What every call keeps -/

theorem Sound.mono {reached' : List (UUID × String)} (h : Sound reached o)
    (sub : ∀ x ∈ reached, x ∈ reached') : Sound reached' o :=
  ⟨h.status, h.paid, fun set => sub _ (h.fulfilled set), h.cancelled⟩

theorem Fresh.sound (h : Fresh o) : Sound reached o := by
  obtain ⟨status, -, fulfilledAt, cancelledAt⟩ := h
  exact ⟨by rw [status]; decide, fun later => absurd later (by rw [status]; decide),
    fun set => (by rw [fulfilledAt] at set; cases set), by rw [status, cancelledAt]; decide⟩

theorem Moves.sound (h : Moves a old row) (checked : Checked row) (sound : Sound reached old)
    (noted : (row.orderID, row.status) ∈ reached) : Sound reached row := by
  have paid : row.status ∈ ["paid", "fulfilled", "refunded"] → row.paidAt.isSome := by
    intro later
    obtain early | set := checked.immutableAfterPaid
    · simp only [List.mem_cons, List.not_mem_nil, or_false] at early later
      obtain early | early := early <;> rw [early] at later <;> exact absurd later (by decide)
    · exact set
  refine ⟨checked.status, paid, ?_, ?_⟩
  · cases h with
    | paid => exact sound.fulfilled
    | fulfilled => exact fun _ => noted
    | updated => exact sound.fulfilled
  · cases h with
    | paid pending =>
      have cancelled := sound.cancelled
      rw [pending] at cancelled
      show old.cancelledAt.isSome ↔ "paid" = "cancelled"
      exact cancelled.trans (by decide)
    | fulfilled before =>
      have cancelled := sound.cancelled
      rw [before] at cancelled
      show old.cancelledAt.isSome ↔ "fulfilled" = "cancelled"
      exact cancelled.trans (by decide)
    | updated => split <;> simp [*]

theorem sound_step (uuid : UUIDText) (sound : ∀ o ∈ w.db.orders.rows, Sound w.reached o) (a : Act) :
    ∀ o ∈ (step uuid w a).db.orders.rows, Sound (step uuid w a).reached o := by
  intro o ho
  have earlier : ∀ x ∈ w.reached, x ∈ (step uuid w a).reached := fun x hx => List.mem_append_left _ hx
  have noted : (o.orderID, o.status) ∈ (step uuid w a).reached :=
    List.mem_append_right _ (List.mem_map_of_mem ho)
  have ho : o ∈ (perform uuid w.db a).1.orders.rows := ho
  obtain same | ⟨old, row, found, moved, checked, orders⟩ := perform_cases uuid w.db a
  · rw [same] at ho
    exact (sound o ho).mono earlier
  · rw [orders, Table.mem_upsert] at ho
    obtain ⟨hold, key⟩ := Table.find?_eq_some.mp found
    rcases ho with ⟨ho, -⟩ | ⟨_, -, -, rfl⟩ | ⟨-, rfl⟩
    · exact (sound o ho).mono earlier
    · exact moved.sound checked ((sound old hold).mono earlier) noted
    · exact moved.sound checked ((sound old hold).mono earlier) noted

theorem Moves.advances (h : Moves a old row) : Advances a old row := by
  cases h with
  | paid pending =>
    refine ⟨fun last => absurd last (by rw [pending]; decide), ?_⟩
    rintro (set | ⟨-, _, _, _, ⟨⟩⟩)
    exact set
  | fulfilled paid => exact ⟨fun last => absurd last (by rw [paid]; decide), fun _ => rfl⟩
  | updated =>
    refine ⟨fun _ _ => ⟨_, _, _, rfl⟩, ?_⟩
    rintro (set | ⟨-, _, _, _, ⟨⟩⟩)
    exact set

theorem advances_refl (a : Act) (o : Order UUID) : Advances a o o := by
  constructor
  · intro last early
    simp only [final, List.mem_cons, List.not_mem_nil, or_false] at last early
    obtain early | early := early <;> rw [early] at last <;> exact absurd last (by decide)
  · rintro (set | ⟨other, -⟩)
    · exact set
    · exact absurd rfl other

theorem advances_perform (uuid : UUIDText) (db : DB) (a : Act) : ∀ old ∈ db.orders.rows,
    ∃ new ∈ (perform uuid db a).1.orders.rows, new.orderID = old.orderID ∧ Advances a old new := by
  intro old hold
  obtain same | ⟨moved, row, found, moves, -, orders⟩ := perform_cases uuid db a
  · exact ⟨old, same.symm ▸ hold, rfl, advances_refl a old⟩
  obtain ⟨hmoved, key⟩ := Table.find?_eq_some.mp found
  rw [orders]
  by_cases own : old.orderID = row.orderID
  · obtain rfl := db.orders.unique hold hmoved (own.trans key.symm)
    exact ⟨row, Table.mem_upsert.mpr (.inr (.inl ⟨old, hold, own, rfl⟩)), own.symm, moves.advances⟩
  · exact ⟨old, Table.mem_upsert.mpr (.inl ⟨hold, own⟩), rfl, advances_refl a old⟩

/-! ## What is refused -/

theorem isOk_error {A E : Type} {x : Except E A} (h : ∃ err, x = .error err) : x.isOk = false := by
  obtain ⟨err, rfl⟩ := h
  rfl

theorem refuses_perform (uuid : UUIDText) {db : DB} (sound : ∀ o ∈ db.orders.rows, o.status ∈ statuses)
    (a : Act) : ∀ o ∈ db.orders.rows, uuid.parse a.orderID = .ok o.orderID → Breaks o a →
      perform uuid db a = (db, false) := by
  intro o ho parsed breaks
  have found : db.orders.find? o.orderID = some o := Table.find?_eq_some.mpr ⟨ho, rfl⟩
  cases a with
  | markPaid env orderID paidAt event =>
    obtain ⟨same, err⟩ := change_refused env "repository: mark paid: " event (Move.pay env paidAt)
      parsed found (.inl (by
        obtain status | status := breaks <;> rw [Move.pay, status] <;> exact ⟨_, rfl⟩))
    exact Prod.ext same (isOk_error err)
  | fulfillOrder env eventID req =>
    have refused (event : OutboxEvent) := change_refused env "repository: mark fulfilled: " event
      (Move.fulfill env req.fulfilledBy env.now) parsed found
      (.inl (by
        rw [Move.fulfill, if_neg breaks.2, if_pos breaks.1]
        exact ⟨_, rfl⟩))
    show ((fulfillOrder uuid db env eventID req).1, (fulfillOrder uuid db env eventID req).2.isOk) = _
    unfold fulfillOrder
    split
    · rfl
    extract_lets fulfilled
    obtain ⟨same, err, reply⟩ := refused fulfilled
    have reply : markFulfilled uuid db env req.orderID req.fulfilledBy env.now fulfilled =
      (db, .error err) := Prod.ext same reply
    rw [reply]
    cases err <;> rfl
  | updateOrderStatus env eventID req =>
    have other : o.status ≠ statusFromProto req.status := by
      obtain unknown | ⟨other, -⟩ := breaks
      · exact fun same => unknown (same ▸ sound o ho)
      · exact other.symm
    have refused (event : OutboxEvent) := change_refused env "repository: update status: " event
      (Move.set env (statusFromProto req.status)) parsed found
      (.inr (by
        refine ⟨_, if_neg other, ?_⟩
        rintro ⟨known, early | set⟩
        · obtain unknown | ⟨-, later, -⟩ := breaks
          · exact unknown known
          · simp only [List.mem_cons, List.not_mem_nil, or_false] at early later
            obtain early | early := early <;> rw [early] at later <;> exact absurd later (by decide)
        · obtain unknown | ⟨-, -, unset⟩ := breaks
          · exact unknown known
          · exact absurd (unset ▸ set : (none : Option Time).isSome = true) (by decide)))
    show ((updateOrderStatus uuid db env eventID req).1, (updateOrderStatus uuid db env eventID req).2.isOk) = _
    unfold updateOrderStatus
    split
    · rfl
    split
    · rfl
    extract_lets newStatus changed
    obtain ⟨same, err, reply⟩ := refused changed
    have reply : Repository.updateOrderStatus uuid db env req.orderID newStatus changed =
      (db, .error err) := Prod.ext same reply
    rw [reply]
    cases err <;> rfl

/-- From orders that have just been created, whatever the calls: the status is one of the five, and the
times of payment, cancellation and fulfillment go with it; only `UpdateOrderStatus` brings an order back; and
what the constraints or the other two methods refuse changes nothing. -/
theorem lifecycle (uuid : UUIDText) {db : DB} (fresh : ∀ o ∈ db.orders.rows, Fresh o) (acts : List Act) :
    Runs.Always (step uuid) (fun w => ∀ o ∈ w.db.orders.rows, Sound w.reached o) (World.start db) acts ∧
      Runs.EachStep (step uuid) (Lawful uuid) (World.start db) acts := by
  have sound : ∀ o ∈ (World.start db).db.orders.rows, Sound (World.start db).reached o :=
    fun o ho => (fresh o ho).sound
  have laws : Runs.EachStep (step uuid) (fun _ _ => True) (World.start db) acts :=
    Runs.eachStep_of_forall fun _ _ _ => trivial
  refine ⟨Runs.always_inv (I := fun w : World => ∀ o ∈ w.db.orders.rows, Sound w.reached o)
    (fun w a sound => sound_step uuid sound a) (fun _ sound => sound) sound acts, ?_⟩
  refine Runs.eachStep_of_eachStep (J := fun w => ∀ o ∈ w.db.orders.rows, Sound w.reached o) ?_
    (fun w a sound _ => sound_step uuid sound a) sound laws
  intro w a sound _
  exact ⟨advances_perform uuid w.db a, refuses_perform uuid (fun o ho => (sound o ho).status) a⟩

end

namespace Reopened

def order : Order UUID where
  orderID := 4
  storeID := 2
  kioskID := 3
  cartID := 1
  orderNumber := "A-001-0428"
  status := "pending"
  subtotalCents := 1000
  taxCents := 80
  discountCents := 0
  totalCents := 1080
  currency := "USD"
  items := []
  taxBreakdown := []
  metadata := some []
  idempotencyKey := ""
  paidAt := none
  fulfilledAt := none
  cancelledAt := none
  createdAt := Counter.env.now
  updatedAt := Counter.env.now

def db : DB := { orders := ⟨[order], List.nodup_singleton _⟩ }

def env : Env := ⟨Counter.env.now, .committed, none⟩

def orderID : String := "00000000-0000-0000-0000-000000000004"

/-- The order is paid and fulfilled, and set to be pending again. -/
def acts : List Act := [
  .markPaid env orderID env.now ⟨"00000000-0000-0000-0000-000000000005", "astra.order.paid.v1", .null, 0⟩,
  .fulfillOrder env 6 ⟨orderID, "crew"⟩,
  .updateOrderStatus env 7 ⟨orderID, .pending, "mistake"⟩]

theorem fresh : ∀ o ∈ db.orders.rows, Fresh o := by
  intro o ho
  obtain rfl := List.mem_singleton.mp ho
  exact ⟨rfl, rfl, rfl, rfl⟩

theorem lifecycle_reopened :
    Runs.Always (step .hyphenated) (fun w => ∀ o ∈ w.db.orders.rows, Sound w.reached o)
        (World.start db) acts ∧
      Runs.EachStep (step .hyphenated) (Lawful .hyphenated) (World.start db) acts :=
  lifecycle .hyphenated fresh acts

theorem comes_back : ¬ ∀ (uuid : UUIDText) (db : DB) (acts : List Act), uuid.Lawful →
    (∀ o ∈ db.orders.rows, Fresh o) →
      Runs.Always (step uuid) (fun w => ∀ o ∈ w.db.orders.rows, Consistent w.reached o)
        (World.start db) acts := by
  intro claim
  have last := Runs.always_last (claim .hyphenated db acts UUIDText.lawful_hyphenated fresh)
  have now : (4, "pending") ∈ (Runs.run (step .hyphenated) (World.start db) acts).db.orders.rows.map
      fun o => (o.orderID, o.status) := by
    decide +kernel
  have before : (4, "fulfilled") ∈ (Runs.run (step .hyphenated) (World.start db) acts).reached := by
    decide +kernel
  obtain ⟨o, ho, same⟩ := List.mem_map.mp now
  obtain ⟨id, status⟩ := Prod.mk.inj same
  refine (last o ho).forward ⟨"fulfilled", List.mem_cons_self, id ▸ before⟩ ?_
  rw [status]
  exact List.mem_cons_self

end Reopened

end OrderService.Repository.Lifecycle
