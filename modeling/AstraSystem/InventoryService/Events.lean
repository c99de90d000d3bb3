import AstraSystem.InventoryService.StockCache

/-!
# Inventory events and the changes they tell of

What a step does to the tables is read off them. The outbox tells of each change once, so that
the events mirror the changes as long as the service publishes none itself.
-/

namespace InventoryService

/-- A change of the tables. -/
inductive Change where
  | reserved (storeID itemID cartID : UUID) (quantity : Int32) (expiresAtMs : Int64)
  | released (storeID itemID cartID : UUID) (quantity : Int32)
  | adjusted (storeID itemID : UUID) (quantityDelta : Int32)
  deriving DecidableEq, Repr

namespace DB

/-- Reservations that are gone. -/
def releases (before after : DB) : List Change :=
  (before.reservations.rows.filter fun r => after.reservations.find? r.key = none).map fun r =>
    .released r.storeID r.itemID r.cartID r.quantity

/-- Reservations that are new, or that hold more. -/
def reserves (before after : DB) : List Change :=
  (after.reservations.rows.filter fun r => before.reservations.find? r.key ≠ some r).map fun r =>
    .reserved r.storeID r.itemID r.cartID
      (r.quantity - (before.reservations.find? r.key).elim 0 ReservationRow.quantity) r.expiresAtMs

/-- Rows of the ledger that no reservation comes with. -/
def adjusts (before after : DB) : List Change :=
  if after.reservations.rows = before.reservations.rows then
    (after.transactions.drop before.transactions.length).map fun r =>
      .adjusted r.storeID r.itemID r.quantityDelta
  else []

def changes (before after : DB) : List Change :=
  before.releases after ++ before.reserves after ++ before.adjusts after

end DB

/-! ## What the transactions put into the outbox -/

namespace DB

theorem releases_of_same {db db' : DB} (h : db'.reservations = db.reservations) :
    db.releases db' = [] := by
  rw [releases, List.map_eq_nil_iff, List.filter_eq_nil_iff]
  intro r hr
  simp [h, Table.find?_eq_some.mpr ⟨hr, rfl⟩]

theorem reserves_of_same {db db' : DB} (h : db'.reservations = db.reservations) :
    db.reserves db' = [] := by
  rw [reserves, List.map_eq_nil_iff, List.filter_eq_nil_iff, h]
  intro r hr
  simp [Table.find?_eq_some.mpr ⟨hr, rfl⟩]

/-- Nothing changes between equal tables. -/
@[simp] theorem changes_self (db : DB) : db.changes db = [] := by
  simp [changes, releases_of_same, reserves_of_same, adjusts]

variable {db db' : DB}

theorem changes_upsert {new : ReservationRow} (positive : 0 < new.quantity.toInt)
    (h : db'.reservations = db.reservations.upsert conflict (fun _ _ => rfl) new) :
    db.changes db' =
      [.reserved new.storeID new.itemID new.cartID new.quantity new.expiresAtMs] := by
  have nonzero : new.quantity ≠ 0 := by
    intro zero
    rw [zero] at positive
    exact absurd positive (by decide)
  have raised : ∀ old ∈ db.reservations.find? new.key, conflict old new ≠ old := by
    intro old _ same
    have same : old.quantity + new.quantity = old.quantity := congrArg ReservationRow.quantity same
    exact nonzero (Int32.add_eq_left.mp same)
  have gone : (db.reservations.rows.filter fun r => db'.reservations.find? r.key = none) = [] := by
    rw [h]
    exact Table.filter_upsert _ _
  have fresh : (db'.reservations.rows.filter fun r => db.reservations.find? r.key ≠ some r) =
      [(db.reservations.find? new.key).elim new (conflict · new)] := by
    rw [h]
    exact Table.filter_new_upsert raised
  have reserves : db.reserves db' =
      [.reserved new.storeID new.itemID new.cartID new.quantity new.expiresAtMs] := by
    rw [DB.reserves, fresh]
    cases found : db.reservations.find? new.key with
    | none => simp [found]
    | some old =>
      have own : db.reservations.find? (conflict old new).key = some old := found
      simp only [Option.elim_some, List.map_singleton, own]
      show [Change.reserved _ _ _ (old.quantity + new.quantity - old.quantity) _] = _
      rw [Int32.add_comm, Int32.add_sub_cancel]
      rfl
  have rest : db'.reservations.rows ≠ db.reservations.rows := by
    intro same
    have none := reserves_of_same (rfl : db.reservations = db.reservations)
    rw [DB.reserves, ← same] at none
    rw [DB.reserves, none] at reserves
    cases reserves
  rw [changes, reserves, releases, gone, adjusts, if_neg rest]
  rfl

theorem changes_delete {p : ReservationRow → Bool}
    (h : db'.reservations = db.reservations.delete p)
    (adjusts : db'.reservations.rows = db.reservations.rows → db'.transactions = db.transactions) :
    db.changes db' = (db.reservations.rows.filter p).map fun r =>
      .released r.storeID r.itemID r.cartID r.quantity := by
  have gone : (db.reservations.rows.filter fun r => db'.reservations.find? r.key = none) =
      db.reservations.rows.filter p := by
    rw [h]
    exact Table.filter_delete _ _
  have fresh : (db'.reservations.rows.filter fun r => db.reservations.find? r.key ≠ some r) = [] := by
    rw [h]
    exact Table.filter_new_delete _ _
  have none : db.adjusts db' = [] := by
    unfold DB.adjusts
    split
    · rename_i same
      simp [adjusts same]
    · rfl
  rw [changes, none, releases, reserves, gone, fresh]
  simp

theorem changes_concat {row : TransactionRow} (h : db'.reservations = db.reservations)
    (writes : db'.transactions = db.transactions ++ [row]) :
    db.changes db' = [.adjusted row.storeID row.itemID row.quantityDelta] := by
  rw [changes, releases_of_same h, reserves_of_same h, adjusts, h, if_pos rfl, writes,
    List.drop_left]
  rfl

theorem insertOutboxEvent_fresh {id : UUID} {event : Event} (fresh : ∀ e ∈ db.outbox, e.1 ≠ id) :
    (db.insertOutboxEvent id event).outbox = db.outbox ++ [(id, event)] := by
  rw [insertOutboxEvent, if_neg]
  rintro ⟨e, he, same⟩
  exact fresh e he same

end DB

theorem parseStoreItem_eq_ok {uuid : UUIDText} {storeID itemID : String} {store item : UUID}
    (h : parseStoreItem uuid storeID itemID = .ok (store, item)) :
    uuid.parse storeID = .ok store ∧ uuid.parse itemID = .ok item := by
  obtain ⟨store', hstore, h⟩ := Statement.bind_eq_ok.mp h
  obtain ⟨item', hitem, h⟩ := Statement.bind_eq_ok.mp h
  cases h
  exact ⟨Statement.mapError_eq_ok.mp hstore, Statement.mapError_eq_ok.mp hitem⟩

namespace Postgres

variable {uuid : UUIDText} {db db' : DB} {env : Env} {storeID itemID cartID kioskID : String}

theorem reserveTx_outbox {reservationID : String} {quantity : Int32}
    (h : reserveTx uuid db env storeID itemID cartID kioskID quantity = .ok (db', reservationID))
    (fresh : ∀ e ∈ db.outbox, e.1 ≠ env.eventIDs 0) :
    db'.outbox = db.outbox ++ [(env.eventIDs 0, reservedEvent env.occurredAtMs
      (uuid.string env.reservationID) storeID itemID cartID kioskID quantity
      (env.nowMs + 300000))] := by
  unfold reserveTx at h
  split at h
  · cases h
  · obtain ⟨⟨store, item⟩, -, h⟩ := Statement.bind_eq_ok.mp h
    obtain ⟨cart, -, h⟩ := Statement.bind_eq_ok.mp h
    obtain ⟨kiosk, -, h⟩ := Statement.bind_eq_ok.mp h
    obtain ⟨stock, -, h⟩ := Statement.bind_eq_ok.mp h
    split at h
    · cases h
    · obtain ⟨db₁, hupsert, h⟩ := Statement.bind_eq_ok.mp h
      obtain ⟨db₂, hinsert, h⟩ := Statement.bind_eq_ok.mp h
      obtain ⟨rfl, -⟩ := upsertReservation_eq_ok hupsert
      obtain ⟨row, -, rfl⟩ := insertTransactionWithinTx_eq_ok hinsert
      cases h
      exact DB.insertOutboxEvent_fresh fresh

theorem releaseTx_outbox (h : releaseTx uuid db env storeID itemID cartID = .ok db')
    (fresh : ∀ e ∈ db.outbox, e.1 ≠ env.eventIDs 0) {store item cart : UUID} {row : ReservationRow}
    (parsed : parseStoreItem uuid storeID itemID = .ok (store, item))
    (hcart : uuid.parse cartID = .ok cart)
    (found : db.reservations.find? (store, item, cart) = some row) :
    db'.outbox = db.outbox ++ [(env.eventIDs 0, releasedEvent cartID env.occurredAtMs
      (uuid.string row.reservationID) storeID itemID cartID row.quantity "explicit release")] := by
  unfold releaseTx at h
  obtain ⟨key, hkey, h⟩ := Statement.bind_eq_ok.mp h
  obtain rfl : key = (store, item) := Except.ok.inj (hkey.symm.trans parsed)
  obtain ⟨cart', hcart', h⟩ := Statement.bind_eq_ok.mp h
  obtain rfl : cart' = cart :=
    Except.ok.inj ((Statement.mapError_eq_ok.mp hcart').symm.trans hcart)
  dsimp only at h
  rw [found] at h
  obtain ⟨db₁, hinsert, h⟩ := Statement.bind_eq_ok.mp h
  obtain ⟨next, -, rfl⟩ := insertTransactionWithinTx_eq_ok hinsert
  cases h
  exact DB.insertOutboxEvent_fresh fresh

theorem adjustStockTx_outbox {delta : Int32} {typ : TransactionType}
    {referenceID referenceType notes : String}
    (h : adjustStockTx uuid db env storeID itemID delta typ referenceID referenceType notes =
      .ok db') (fresh : ∀ e ∈ db.outbox, e.1 ≠ env.eventIDs 0) :
    db'.outbox = db.outbox ++ [(env.eventIDs 0, adjustedEvent env.occurredAtMs storeID itemID delta
      typ referenceID referenceType notes)] := by
  obtain ⟨⟨store, item⟩, -, h⟩ := Statement.bind_eq_ok.mp h
  obtain ⟨reference, -, h⟩ := Statement.bind_eq_ok.mp h
  obtain ⟨db₁, hinsert, h⟩ := Statement.bind_eq_ok.mp h
  obtain ⟨row, -, rfl⟩ := insertTransactionWithinTx_eq_ok hinsert
  cases h
  exact DB.insertOutboxEvent_fresh fresh

/-- The event of a reservation that a sweep deletes. -/
def expiredEvent (uuid : UUIDText) (nowMs : Int64) (row : ReservationRow) : Event :=
  releasedEvent (uuid.string row.cartID) nowMs (uuid.string row.reservationID)
    (uuid.string row.storeID) (uuid.string row.itemID) (uuid.string row.cartID) row.quantity
    "ttl expiry"

theorem expireRows_outbox {nowMs : Int64} {rows : List ReservationRow} {k : ℕ}
    (h : expireRows uuid env nowMs db k rows = .ok db')
    (fresh : ∀ m < rows.length, (∀ e ∈ db.outbox, e.1 ≠ env.eventIDs (k + m)) ∧
      ∀ j < m, env.eventIDs (k + j) ≠ env.eventIDs (k + m)) :
    ∃ ids : List UUID, ids.length = rows.length ∧
      db'.outbox = db.outbox ++ ids.zip (rows.map (expiredEvent uuid nowMs)) := by
  induction rows generalizing db k with
  | nil =>
    cases h
    exact ⟨[], rfl, (List.append_nil _).symm⟩
  | cons row rows ih =>
    obtain ⟨db₁, hinsert, h⟩ := Statement.bind_eq_ok.mp h
    obtain ⟨next, -, rfl⟩ := insertTransactionWithinTx_eq_ok hinsert
    have own := (fresh 0 (Nat.zero_lt_succ _)).1
    have written : (DB.insertOutboxEvent { db with transactions := db.transactions ++ [next] }
        (env.eventIDs (k + 0)) (expiredEvent uuid nowMs row)).outbox =
          db.outbox ++ [(env.eventIDs k, expiredEvent uuid nowMs row)] :=
      DB.insertOutboxEvent_fresh own
    obtain ⟨ids, length, outbox⟩ := ih h (by
      intro m hm
      obtain ⟨old, other⟩ := fresh (m + 1) (Nat.succ_lt_succ hm)
      have shift (j : ℕ) : k + 1 + j = k + (j + 1) := by omega
      refine ⟨?_, fun j hj => ?_⟩
      · intro e he
        rw [shift]
        rcases List.mem_append.mp (written ▸ he) with he | he
        · exact old e he
        · rw [List.mem_singleton.mp he]
          exact other 0 (Nat.zero_lt_succ m)
      · rw [shift, shift]
        exact other (j + 1) (Nat.succ_lt_succ hj))
    refine ⟨env.eventIDs k :: ids, congrArg (· + 1) length, ?_⟩
    rw [outbox]
    exact (congrArg (· ++ _) written).trans (List.append_assoc ..)

end Postgres

/-- The message the relay makes of an event of the outbox. -/
def relayed (e : Event) : Service.Message where
  subject := "astra.inventory." ++ e.eventType
  payload := e.payload

namespace Service

/-- The id in a field of a message. -/
def Message.id (uuid : UUIDText) (m : Message) (field : String) : Option UUID :=
  match m.payload.lookup field with
  | some (.text s) => (uuid.parse s).toOption
  | _ => none

def Message.number (m : Message) (field : String) : Option ℤ :=
  match m.payload.lookup field with
  | some (.number n) => some n
  | _ => none

/-- A message carries what changed. -/
def Tells (uuid : UUIDText) (m : Message) : Change → Prop
  | .reserved storeID itemID cartID quantity expiresAtMs =>
    m.subject = "astra.inventory.InventoryReserved" ∧ m.id uuid "store_id" = some storeID ∧
      m.id uuid "item_id" = some itemID ∧ m.id uuid "cart_id" = some cartID ∧
      m.number "quantity" = some quantity.toInt ∧ m.number "expires_at_ms" = some expiresAtMs.toInt
  | .released storeID itemID cartID quantity =>
    m.subject = "astra.inventory.InventoryReleased" ∧ m.id uuid "store_id" = some storeID ∧
      m.id uuid "item_id" = some itemID ∧ m.id uuid "cart_id" = some cartID ∧
      m.number "quantity" = some quantity.toInt
  | .adjusted storeID itemID quantityDelta =>
    m.subject = "astra.inventory.InventoryAdjusted" ∧ m.id uuid "store_id" = some storeID ∧
      m.id uuid "item_id" = some itemID ∧ m.number "quantity_delta" = some quantityDelta.toInt

/-- A world with what has changed in its tables. -/
structure Record (Tid : Type*) where
  world : World Tid
  changes : List Change := []

variable {Tid : Type*} [DecidableEq Tid] (uuid : UUIDText)

def Record.step (r : Record Tid) (a : Act Tid) : Record Tid where
  world := Service.step uuid r.world a
  changes := r.changes ++ r.world.db.changes (Service.step uuid r.world a).db

/-- What has been published once the relay has come to the end of the outbox. -/
def Record.emitted (r : Record Tid) : List Message := (r.world.db.outbox.map Prod.snd).map relayed ++ r.world.published

/-- The messages and the changes come in pairs. -/
def Record.Mirrors (r : Record Tid) : Prop :=
  ∃ told, told.Perm r.emitted ∧ List.Forall₂ (Tells uuid) told r.changes

/-- The ids that are made for the events of a call are new. -/
def FreshFor (db : DB) (env : Env) : Call → Prop
  | .expireReservations nowMs => ∀ k < (Postgres.expiredRows db env nowMs).length,
      (∀ e ∈ db.outbox, e.1 ≠ env.eventIDs k) ∧ ∀ j < k, env.eventIDs j ≠ env.eventIDs k
  | _ => ∀ e ∈ db.outbox, e.1 ≠ env.eventIDs 0

/-- The generator of event ids repeats none. -/
def FreshIDs (r : Record Tid) : Act Tid → Prop
  | .request _ req env => FreshFor r.world.db env req.call
  | .sweep env nowMs => FreshFor r.world.db env (.expireReservations nowMs)
  | _ => True

instance decidableFreshFor (db : DB) (env : Env) : ∀ c, Decidable (FreshFor db env c)
  | .expireReservations nowMs => inferInstanceAs (Decidable
      (∀ k < (Postgres.expiredRows db env nowMs).length, (∀ e ∈ db.outbox, e.1 ≠ env.eventIDs k) ∧
        ∀ j < k, env.eventIDs j ≠ env.eventIDs k))
  | .reserve .. | .release .. | .adjustStock .. =>
    inferInstanceAs (Decidable (∀ e ∈ db.outbox, e.1 ≠ env.eventIDs 0))

instance decidableFreshIDs (r : Record Tid) : ∀ a, Decidable (FreshIDs r a)
  | .request _ req env => decidableFreshFor r.world.db env req.call
  | .sweep env nowMs => decidableFreshFor r.world.db env (.expireReservations nowMs)
  | .getStock .. | .readStock .. | .setStock .. | .invalidate .. | .publish .. | .expire .. =>
    .isTrue trivial

/-- The service does not publish an event itself. -/
def LeavesToOutbox (r : Record Tid) : Act Tid → Prop
  | .publish t _ fails => fails = true ∨ ∀ req reply, r.world.calls t ≠ .invalidated req reply
  | _ => True

/-! ## What the outbox tells -/

variable {uuid} {db db' : DB} {env : Env}

theorem Message.id_eq {m : Message} {field text : String} {id : UUID}
    (entry : m.payload.lookup field = some (.text text)) (parsed : uuid.parse text = .ok id) :
    m.id uuid field = some id := by
  simp only [Message.id, entry, parsed, Except.toOption]

theorem tells_expired (laws : uuid.Lawful) (nowMs : Int64) (row : ReservationRow) :
    Tells uuid (relayed (Postgres.expiredEvent uuid nowMs row))
      (.released row.storeID row.itemID row.cartID row.quantity) :=
  ⟨rfl, Message.id_eq rfl (laws.parse_string _), Message.id_eq rfl (laws.parse_string _),
    Message.id_eq rfl (laws.parse_string _), rfl⟩

/-- A transaction puts into the outbox what it changes. -/
theorem outbox_tells (laws : uuid.Lawful) {c : Call} (h : Postgres.tx uuid db env c = .ok db')
    (fresh : FreshFor db env c) :
    ∃ events told, db'.outbox = db.outbox ++ events ∧ told.Perm ((events.map Prod.snd).map relayed) ∧
      List.Forall₂ (Tells uuid) told (db.changes db') := by
  cases c with
  | reserve storeID itemID cartID kioskID quantity =>
    obtain ⟨⟨db₁, id⟩, htx, rfl⟩ := Statement.map_eq_ok.mp h
    obtain ⟨store, item, reserved, new, row, parsed, hcart, positive, -, -, hstore, hitem, hquantity,
      expires, -, -, -, -, reservations, -⟩ := Postgres.reserveTx_eq_ok htx
    obtain ⟨pstore, pitem⟩ := parseStoreItem_eq_ok parsed
    have positive : 0 < new.quantity.toInt := hquantity ▸ Int32.lt_iff_toInt_lt.mp positive
    refine ⟨_, _, Postgres.reserveTx_outbox htx fresh, .refl _, ?_⟩
    rw [DB.changes_upsert positive reservations, hstore, hitem, hquantity, expires]
    exact .cons ⟨rfl, Message.id_eq rfl pstore, Message.id_eq rfl pitem, Message.id_eq rfl hcart,
      rfl, rfl⟩ .nil
  | release storeID itemID cartID =>
    obtain ⟨store, item, cart, parsed, hcart, ⟨-, rfl⟩ |
      ⟨row, next, found, -, -, -, reservations⟩⟩ := Postgres.releaseTx_eq_ok h
    · exact ⟨[], [], (List.append_nil _).symm, .refl _, by rw [DB.changes_self]; exact .nil⟩
    · obtain ⟨pstore, pitem⟩ := parseStoreItem_eq_ok parsed
      obtain ⟨hrow, key⟩ := Table.find?_eq_some.mp found
      have gone : db'.reservations.rows ≠ db.reservations.rows := by
        intro same
        rw [← same, reservations] at hrow
        exact absurd key (of_decide_eq_false (Table.mem_delete.mp hrow).2)
      refine ⟨_, _, Postgres.releaseTx_outbox h fresh parsed hcart found, .refl _, ?_⟩
      rw [DB.changes_delete reservations fun same => absurd same gone, ← key,
        Table.rows_filter_key hrow]
      obtain ⟨rfl, rfl, rfl⟩ : row.storeID = store ∧ row.itemID = item ∧ row.cartID = cart := by
        simpa [ReservationRow.key] using key
      exact .cons ⟨rfl, Message.id_eq rfl pstore, Message.id_eq rfl pitem, Message.id_eq rfl hcart,
        rfl⟩ .nil
  | adjustStock storeID itemID delta typ referenceID referenceType notes =>
    obtain ⟨store, item, row, parsed, hnext, -, writes, rest⟩ := Postgres.adjustStockTx_eq_ok h
    obtain ⟨pstore, pitem⟩ := parseStoreItem_eq_ok parsed
    have quantity : row.quantityDelta = delta := Int32.toInt_inj.mp hnext.delta
    refine ⟨_, _, Postgres.adjustStockTx_outbox h fresh, .refl _, ?_⟩
    rw [DB.changes_concat rest writes, hnext.storeID, hnext.itemID, quantity]
    exact .cons ⟨rfl, Message.id_eq rfl pstore, Message.id_eq rfl pitem, rfl⟩ .nil
  | expireReservations nowMs =>
    have swept := Postgres.expireReservationsTx_eq_ok h
    obtain ⟨-, reservations, -, -⟩ := expireRows_eq_ok swept
    have fresh' : ∀ m < (Postgres.expiredRows db env nowMs).length,
        (∀ e ∈ db.outbox, e.1 ≠ env.eventIDs (0 + m)) ∧
          ∀ j < m, env.eventIDs (0 + j) ≠ env.eventIDs (0 + m) := by
      simpa only [Nat.zero_add, FreshFor] using fresh
    obtain ⟨ids, length, outbox⟩ := Postgres.expireRows_outbox swept fresh'
    have events : (ids.zip ((Postgres.expiredRows db env nowMs).map
        (Postgres.expiredEvent uuid nowMs))).map Prod.snd =
          (Postgres.expiredRows db env nowMs).map (Postgres.expiredEvent uuid nowMs) :=
      List.map_snd_zip (by simp [length])
    have still : db'.reservations.rows = db.reservations.rows → db'.transactions = db.transactions := by
      intro same
      have none : Postgres.expiredRows db env nowMs = [] := by
        refine List.eq_nil_iff_forall_not_mem.mpr fun r hr => ?_
        obtain ⟨hr, late⟩ := mem_expiredRows.mp hr
        rw [← same, reservations] at hr
        exact of_decide_eq_false (Table.mem_delete.mp hr).2 late
      rw [none] at swept
      cases swept
      rfl
    refine ⟨_, (db.reservations.rows.filter fun r => r.expiresAtMs < nowMs).map fun r =>
      relayed (Postgres.expiredEvent uuid nowMs r), outbox, ?_, ?_⟩
    · rw [events, List.map_map]
      exact ((env.returning.perm _).map _).symm
    · rw [DB.changes_delete reservations still, List.forall₂_map_left_iff,
        List.forall₂_map_right_iff, List.forall₂_same]
      exact fun r _ => tells_expired laws nowMs r

/-! ## Runs -/

/-- The tables change by calls of the repository only. -/
theorem db_of_step (uuid : UUIDText) (w : World Tid) (a : Act Tid) : (step uuid w a).db = w.db ∨ ∃ env c,
    (step uuid w a).db = (Postgres.call uuid w.db env c).1 ∧
      ((∃ t req, a = .request t req env ∧ c = req.call) ∨
        ∃ nowMs, a = .sweep env nowMs ∧ c = .expireReservations nowMs) := by
  cases a with
  | request t req env =>
    simp only [step, respond]
    split
    · split
      · exact .inl rfl
      · split <;> rename_i hcall <;>
          exact .inr ⟨env, req.call, (congrArg Prod.fst hcall).symm, .inl ⟨t, req, rfl, rfl⟩⟩
    · exact .inl rfl
  | sweep env nowMs => exact .inr ⟨env, _, rfl, .inr ⟨nowMs, rfl, rfl⟩⟩
  | getStock | readStock | setStock | invalidate | publish | expire =>
    left
    simp only [step, respond]
    repeat' split
    all_goals rfl

theorem published_of_step (uuid : UUIDText) (w : World Tid) (a : Act Tid) :
    (step uuid w a).published = w.published ∨
    ∃ t byDefault req reply, a = .publish t byDefault false ∧ w.calls t = .invalidated req reply ∧
      (step uuid w a).published = w.published ++ [req.message reply.reservationID byDefault] := by
  cases a with
  | publish t byDefault fails =>
    simp only [step, respond]
    split
    · rename_i req reply invalidated
      cases fails with
      | true => exact .inl rfl
      | false => exact .inr ⟨t, byDefault, req, reply, rfl, invalidated, rfl⟩
    · exact .inl rfl
  | getStock | readStock | setStock | request | invalidate | sweep | expire =>
    left
    simp only [step, respond]
    repeat' split
    all_goals rfl

namespace Record

variable {r : Record Tid} {a : Act Tid}

/-- The outbox tells of the changes, and the service has published nothing. -/
structure Relayed (uuid : UUIDText) (r : Record Tid) : Prop where
  published : r.world.published = []
  mirrors : r.Mirrors uuid

omit [DecidableEq Tid] in
theorem Mirrors.length (h : r.Mirrors uuid) :
    r.world.db.outbox.length + r.world.published.length = r.changes.length := by
  obtain ⟨told, perm, pairs⟩ := h
  rw [← pairs.length_eq, perm.length_eq]
  simp [emitted]

theorem Relayed.step (h : r.Relayed uuid) (laws : uuid.Lawful) (fresh : FreshIDs r a)
    (leaves : LeavesToOutbox r a) : (r.step uuid a).Relayed uuid := by
  have published : (r.step uuid a).world.published = [] := by
    rcases published_of_step uuid r.world a with same | ⟨t, byDefault, req, reply, rfl, at', -⟩
    · exact same.trans h.published
    · rcases leaves with fails | idle
      · cases fails
      · exact absurd at' (idle req reply)
  have tables : ∃ events told, (r.step uuid a).world.db.outbox = r.world.db.outbox ++ events ∧
      told.Perm ((events.map Prod.snd).map relayed) ∧
      List.Forall₂ (Tells uuid) told (r.world.db.changes (r.step uuid a).world.db) := by
    have still (same : (r.step uuid a).world.db = r.world.db) : ∃ events told,
        (r.step uuid a).world.db.outbox = r.world.db.outbox ++ events ∧
          told.Perm ((events.map Prod.snd).map relayed) ∧
          List.Forall₂ (Tells uuid) told (r.world.db.changes (r.step uuid a).world.db) := by
      rw [same, DB.changes_self]
      exact ⟨[], [], (List.append_nil _).symm, .refl _, .nil⟩
    rcases db_of_step uuid r.world a with same | ⟨env, c, hcall, act⟩
    · exact still same
    · rcases call_eq_or uuid r.world.db env c with same | ⟨-, htx⟩
      · exact still (hcall.trans same)
      · have fresh : FreshFor r.world.db env c := by
          obtain ⟨t, req, rfl, rfl⟩ | ⟨nowMs, rfl, rfl⟩ := act <;> exact fresh
        rw [← hcall] at htx
        exact outbox_tells laws htx fresh
  obtain ⟨told, perm, pairs⟩ := h.mirrors
  obtain ⟨events, more, outbox, perm', pairs'⟩ := tables
  refine ⟨published, told ++ more, ?_, List.rel_append pairs pairs'⟩
  rw [emitted, h.published, List.append_nil] at perm
  rw [emitted, published, outbox, List.append_nil, List.map_append, List.map_append]
  exact perm.append perm'

/-- An event that the service publishes itself is one too many. -/
theorem Relayed.leaves (h : r.Relayed uuid) (mirrors : (r.step uuid a).Mirrors uuid) :
    LeavesToOutbox r a := by
  rcases published_of_step uuid r.world a with same | ⟨t, byDefault, req, reply, rfl, at', more⟩
  · cases a with
    | publish t byDefault fails =>
      cases fails with
      | true => exact .inl rfl
      | false =>
        refine .inr fun req reply at' => ?_
        simp [Service.step, respond, at', World.goto] at same
    | getStock | readStock | setStock | request | invalidate | sweep | expire => trivial
  · exfalso
    have db : (r.step uuid (.publish t byDefault false)).world.db = r.world.db := by
      show (Service.step uuid r.world (.publish t byDefault false)).db = _
      simp only [Service.step, respond, at']
      rfl
    have before := h.mirrors.length
    have after := mirrors.length
    have changes : (r.step uuid (.publish t byDefault false)).changes = r.changes := by
      show r.changes ++ _ = _
      rw [show (Service.step uuid r.world (.publish t byDefault false)).db = _ from db,
        DB.changes_self, List.append_nil]
    have more : (r.step uuid (.publish t byDefault false)).world.published.length =
        r.world.published.length + 1 := by
      show (Service.step uuid r.world (.publish t byDefault false)).published.length = _
      rw [more, List.length_append, List.length_singleton]
    rw [db, changes, more] at after
    omega

end Record

theorem lawful_shelf : shelf.Lawful := by
  have same : shelf = .hyphenated := UUIDText.memo_eq UUIDText.lawful_hyphenated (by decide +kernel)
  exact same ▸ UUIDText.lawful_hyphenated

end Service

end InventoryService
