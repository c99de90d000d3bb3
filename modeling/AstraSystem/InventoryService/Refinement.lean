import AstraSystem.InventoryService.MemoryStock
import AstraSystem.InventoryService.StockConservation

/-!
# The in-memory inventory beside the Postgres one

The memory keeps what is left and what is reserved, so it takes a reservation
out once. The two agree while of every item all or nothing is reserved.
-/

namespace InventoryService

/-! ## What Postgres accepts -/

section
variable {db : DB} {now : Time} {id store item : UUID} {typ : TransactionType} {amount : Int32}
  {referenceID : Option UUID} {referenceType notes : Option String}

theorem insertTransactionWithinTx_accepts
    (positive : 0 ≤ (db.runningBalance store item).toInt + amount.toInt)
    (fresh : ∀ r ∈ db.transactions, r.transactionID ≠ id) :
    ∃ db', insertTransactionWithinTx db now id store item typ amount referenceID referenceType
      notes = .ok db' := by
  obtain ⟨next, hnext⟩ : ∃ next, applyDelta (db.runningBalance store item) amount typ = .ok next :=
    ⟨.ofInt _, applyDelta_eq_ok.mpr ⟨positive, Int32.toInt_ofInt⟩⟩
  have new : ¬ ∃ r ∈ db.transactions, r.transactionID = id := by
    rintro ⟨r, hr, same⟩
    exact fresh r hr same
  refine Statement.exists_bind (Statement.mapError_eq_ok.mpr hnext) ?_
  rw [DB.insertTransaction, if_neg new]
  exact ⟨_, rfl⟩

/-- The ids of the next transaction rows are new. -/
structure FreshIDs (db : DB) (ids : ℕ → UUID) (k n : ℕ) : Prop where
  new : ∀ j < n, k ≤ j → ∀ r ∈ db.transactions, r.transactionID ≠ ids j
  distinct : ∀ j < n, ∀ l < j, k ≤ l → ids l ≠ ids j

instance decidableFreshIDs (db : DB) (ids : ℕ → UUID) (k n : ℕ) : Decidable (FreshIDs db ids k n) :=
  decidable_of_iff ((∀ j < n, k ≤ j → ∀ r ∈ db.transactions, r.transactionID ≠ ids j) ∧
    ∀ j < n, ∀ l < j, k ≤ l → ids l ≠ ids j) ⟨fun h => ⟨h.1, h.2⟩, fun h => ⟨h.new, h.distinct⟩⟩

theorem expireRows_accepts (uuid : UUIDText) {env : Env} {nowMs : Int64}
    {rows : List ReservationRow} {k : ℕ} (ready : Sweepable db env rows k)
    (nonneg : ∀ s i, 0 ≤ db.total s i) (fresh : FreshIDs db env.transactionIDs k (k + rows.length)) :
    ∃ db', Postgres.expireRows uuid env nowMs db k rows = .ok db' := by
  induction rows generalizing db k with
  | nil => exact ⟨db, rfl⟩
  | cons row rows ih =>
    have positive := ready.positive row List.mem_cons_self
    have balance : 0 ≤ (db.runningBalance row.storeID row.itemID).toInt + row.quantity.toInt := by
      rw [ready.contiguous.toInt_runningBalance]
      have := nonneg row.storeID row.itemID
      omega
    obtain ⟨db₁, hinsert⟩ : ∃ db₁, insertTransactionWithinTx db env.now (env.transactionIDs k)
        row.storeID row.itemID .released row.quantity (some row.cartID) none (some "ttl expiry") =
          .ok db₁ :=
      insertTransactionWithinTx_accepts balance
        (fresh.new k (by rw [List.length_cons]; omega) le_rfl)
    obtain ⟨next, hnext, rfl⟩ := insertTransactionWithinTx_eq_ok hinsert
    have own : next.transactionID = env.transactionIDs k :=
      congrArg (fun stamp => (ofLex stamp).2) hnext.stamp
    let db₂ := DB.insertOutboxEvent { db with transactions := db.transactions ++ [next] }
      (env.eventIDs k) (releasedEvent (uuid.string row.cartID) nowMs (uuid.string row.reservationID)
        (uuid.string row.storeID) (uuid.string row.itemID) (uuid.string row.cartID) row.quantity
        "ttl expiry")
    have writes : db₂.transactions = db.transactions ++ [next] := DB.insertOutboxEvent_transactions ..
    have rest : ∃ db', Postgres.expireRows uuid env nowMs db₂ (k + 1) rows = .ok db' := by
      refine ih (ready.next hnext writes) ?_ ⟨?_, ?_⟩
      · intro s i
        have := nonneg s i
        rw [hnext.total writes]
        split <;> omega
      · intro j hj above r hr
        rw [writes] at hr
        rcases List.mem_append.mp hr with hr | hr
        · exact fresh.new j (by rw [List.length_cons]; omega) (by omega) r hr
        · rw [List.mem_singleton.mp hr, own]
          exact fresh.distinct j (by rw [List.length_cons]; omega) k (by omega) le_rfl
      · intro j hj l hl above
        exact fresh.distinct j (by rw [List.length_cons]; omega) l hl (by omega)
    exact Statement.exists_bind hinsert rest

theorem reserveTx_accepts {uuid : UUIDText} {env : Env} {storeID itemID cartID kioskID : String}
    {cart kiosk : UUID} {quantity : Int32} {stock : Stock}
    (parsed : parseStoreItem uuid storeID itemID = .ok (store, item))
    (hcart : uuid.parse cartID = .ok cart) (hkiosk : uuid.parse kioskID = .ok kiosk)
    (positive : 0 < quantity)
    (read : getStockWithinTx uuid db store item = .ok stock)
    (enough : quantity ≤ stock.quantityAvailable)
    (absent : db.reservations.find? (store, item, cart) = none)
    (new : ∀ r ∈ db.reservations.rows, r.reservationID ≠ env.reservationID)
    (balance : 0 ≤ (db.runningBalance store item).toInt + (-quantity).toInt)
    (fresh : ∀ r ∈ db.transactions, r.transactionID ≠ env.transactionIDs 0) :
    ∃ res, Postgres.reserveTx uuid db env storeID itemID cartID kioskID quantity = .ok res := by
  let row : ReservationRow := ⟨env.reservationID, store, kiosk, item, cart, quantity,
    env.nowMs + 300000, env.occurredAtMs⟩
  have upserts : db.upsertReservation row = .ok { db with
      reservations := db.reservations.upsert DB.conflict (fun _ _ => rfl) row } := by
    have absent' : db.reservations.find? row.key = none := absent
    have new' : ¬ ∃ r ∈ db.reservations.rows, r.reservationID = row.reservationID := by
      rintro ⟨r, hr, same⟩
      exact new r hr same
    rw [DB.upsertReservation, absent']
    exact if_neg new'
  obtain ⟨db', inserts⟩ : ∃ db', insertTransactionWithinTx { db with
      reservations := db.reservations.upsert DB.conflict (fun _ _ => rfl) row } env.now
      (env.transactionIDs 0) store item .reserved (-quantity) (some cart) none none = .ok db' :=
    insertTransactionWithinTx_accepts balance fresh
  rw [Postgres.reserveTx, if_neg (Int32.not_le.mpr positive)]
  refine Statement.exists_bind parsed ?_
  refine Statement.exists_bind (Statement.mapError_eq_ok.mpr hcart) ?_
  refine Statement.exists_bind (Statement.mapError_eq_ok.mpr hkiosk) ?_
  refine Statement.exists_bind read ?_
  rw [if_neg (Int32.not_lt.mpr enough)]
  exact Statement.exists_bind upserts (Statement.exists_bind inserts ⟨_, rfl⟩)

theorem releaseTx_accepts {uuid : UUIDText} {env : Env} {storeID itemID cartID : String} {cart : UUID}
    {row : ReservationRow} (parsed : parseStoreItem uuid storeID itemID = .ok (store, item))
    (hcart : uuid.parse cartID = .ok cart)
    (found : db.reservations.find? (store, item, cart) = some row)
    (balance : 0 ≤ (db.runningBalance store item).toInt + row.quantity.toInt)
    (fresh : ∀ r ∈ db.transactions, r.transactionID ≠ env.transactionIDs 0) :
    ∃ db', Postgres.releaseTx uuid db env storeID itemID cartID = .ok db' := by
  have inserts : ∃ db', insertTransactionWithinTx
      { db with reservations := db.reservations.delete (·.key = (store, item, cart)) } env.now
      (env.transactionIDs 0) store item .released row.quantity (some cart) none none = .ok db' :=
    insertTransactionWithinTx_accepts balance fresh
  obtain ⟨db', inserts⟩ := inserts
  refine Statement.exists_bind parsed ?_
  refine Statement.exists_bind (Statement.mapError_eq_ok.mpr hcart) ?_
  simp only [found]
  exact Statement.exists_bind inserts ⟨_, rfl⟩

theorem adjustStockTx_accepts {uuid : UUIDText} {env : Env} {storeID itemID : String} {delta : Int32}
    {referenceID referenceType notes : String} {reference : Option UUID}
    (parsed : parseStoreItem uuid storeID itemID = .ok (store, item))
    (hreference : parseReference uuid referenceID = .ok reference)
    (balance : 0 ≤ (db.runningBalance store item).toInt + delta.toInt)
    (fresh : ∀ r ∈ db.transactions, r.transactionID ≠ env.transactionIDs 0) :
    ∃ db', Postgres.adjustStockTx uuid db env storeID itemID delta typ referenceID referenceType
      notes = .ok db' := by
  obtain ⟨db', inserts⟩ : ∃ db', insertTransactionWithinTx db env.now (env.transactionIDs 0) store
      item typ delta reference (if referenceType = "" then none else some referenceType)
      (if notes = "" then none else some notes) = .ok db' :=
    insertTransactionWithinTx_accepts balance fresh
  refine Statement.exists_bind parsed ?_
  refine Statement.exists_bind hreference ?_
  exact Statement.exists_bind inserts ⟨_, rfl⟩

end

/-! ## Both, call by call -/

/-- A reservation row as the memory keeps it. -/
def ReservationRow.inMemory (uuid : UUIDText) (r : ReservationRow) : Reservation :=
  ⟨uuid.string r.reservationID, uuid.string r.storeID, uuid.string r.itemID, uuid.string r.cartID,
    uuid.string r.kioskID, r.quantity, r.expiresAtMs⟩

def DB.Lists (db : DB) (s i : UUID) : Prop := ∃ inv, db.inventory.find? (s, i) = some inv

/-- The two implementations. -/
structure Both where
  world : World
  memory : MemoryRepository

/-- A call of both, on one clock and with the same ids, that no connection cuts short. -/
structure SharedCall where
  call : Call
  env : Env
  walk : Assoc.Walk String Reservation
  wait : ℕ := 0

def SharedCall.action (a : SharedCall) : Action where
  call := a.call
  env := { a.env with fault := .none }
  wait := a.wait

namespace Both

variable (uuid : UUIDText)

def postgres (b : Both) (a : SharedCall) : DB × Except String Reply :=
  Postgres.call uuid b.world.db (b.world.env a.action) a.call

def inMemory (b : Both) (a : SharedCall) : MemoryRepository × Except String Reply :=
  b.memory.call uuid (b.world.env a.action) a.walk a.call

def step (b : Both) (a : SharedCall) : Both where
  world := InventoryService.step uuid b.world a.action
  memory := (inMemory uuid b a).1

end Both

def Stock.quantities (stock : Stock) : Int32 × Int32 :=
  (stock.quantityAvailable, stock.quantityReserved)

/-- The quantities a call returns, or the number of reservations that expired. -/
def Reply.quantities : Reply → (Int32 × Int32) ⊕ ℕ
  | .reserved _ left | .stock left => .inl left.quantities
  | .expired count => .inr count

/-- Both accept a call, and return the same quantities, or both reject it. -/
def RepliesAgree (uuid : UUIDText) (b : Both) (a : SharedCall) : Prop :=
  (b.postgres uuid a).2.toOption.map Reply.quantities =
    (b.inMemory uuid a).2.toOption.map Reply.quantities

/-- `GetStock` shows the same quantities of every item, or fails in both. -/
def StocksAgree (uuid : UUIDText) (b : Both) : Prop :=
  ∀ s i, (getStock uuid b.world.db (uuid.string s) (uuid.string i)).toOption.map Stock.quantities =
    (b.memory.getStock (uuid.string s) (uuid.string i)).toOption.map Stock.quantities

/-- The memory holds the reservations of the tables, and what the ledger leaves of the items. -/
structure Mirrored (uuid : UUIDText) (db : DB) (m : MemoryRepository) : Prop where
  shows : m.Shows uuid db.Lists db.total db.reserved (db.reservations.rows.map (·.inMemory uuid))
  listed : ∀ r ∈ db.reservations.rows, db.Lists r.storeID r.itemID

section
variable {uuid : UUIDText} {w : World} {b : Both} {a : SharedCall} {s i : UUID}

theorem parse_canonical (laws : uuid.Lawful) (s i : UUID) :
    parseStoreItem uuid (uuid.string s) (uuid.string i) = .ok (s, i) := by
  simp [parseStoreItem, laws.parse_string, Except.mapError, bind, Except.bind, pure, Except.pure]

theorem held_inMemory (laws : uuid.Lawful) (r : ReservationRow) (s i : UUID) :
    (r.inMemory uuid).held uuid s i = r.held s i := by
  simp only [Reservation.held, ReservationRow.inMemory, ReservationRow.held,
    laws.string_injective.eq_iff]

theorem Settled.getStock (h : Settled w) (laws : uuid.Lawful) (lists : w.db.Lists s i) :
    ∃ stock, getStock uuid w.db (uuid.string s) (uuid.string i) = .ok stock ∧
      stock.quantityAvailable.toInt = w.db.total s i ∧
      stock.quantityReserved.toInt = w.db.reserved s i := by
  obtain ⟨inv, found⟩ := lists
  obtain ⟨hinv, hkey⟩ := Table.find?_eq_some.mp found
  obtain ⟨rfl, rfl⟩ := Prod.mk.inj hkey
  obtain ⟨stock, read, reserved, available⟩ :=
    h.stockRight uuid inv hinv _ _ (parse_canonical laws _ _)
  have := h.total inv.storeID inv.itemID
  have := h.nonneg inv.storeID inv.itemID
  exact ⟨stock, read, by omega, reserved⟩

/-- The stock that the memory has of an item is the one that Postgres shows. -/
theorem Mirrored.getStock {m : MemoryRepository} (mirrored : Mirrored uuid w.db m) (h : Settled w)
    (laws : uuid.Lawful) {stock : Stock}
    (found : m.inventory.lookup (MemoryRepository.key (uuid.string s) (uuid.string i)) = some stock) :
    ∃ shown, InventoryService.getStock uuid w.db (uuid.string s) (uuid.string i) = .ok shown ∧
      shown.quantities = stock.quantities := by
  have lists : w.db.Lists s i := by
    by_contra unlisted
    rw [mirrored.shows.unlisted s i unlisted] at found
    cases found
  obtain ⟨shown, read, left, reserved⟩ := h.getStock laws lists
  obtain ⟨stock', found', left', reserved'⟩ := mirrored.shows.stock s i lists
  rw [found] at found'
  obtain rfl := Option.some.inj found'
  refine ⟨shown, read, Prod.ext (Int32.toInt_inj.mp ?_) (Int32.toInt_inj.mp ?_)⟩
  · exact left.trans left'.symm
  · exact reserved.trans reserved'.symm

theorem getStock_unlisted (laws : uuid.Lawful) {db : DB} (unlisted : ¬ db.Lists s i) :
    ∃ err, getStock uuid db (uuid.string s) (uuid.string i) = .error err := by
  have none : db.inventory.find? (s, i) = none := by
    cases found : db.inventory.find? (s, i) with
    | none => rfl
    | some inv => exact absurd ⟨inv, found⟩ unlisted
  simp only [getStock, parse_canonical laws, readStock, none, bind, Except.bind]
  exact ⟨_, rfl⟩

theorem stocksAgree (laws : uuid.Lawful) (h : Settled b.world)
    (mirrored : Mirrored uuid b.world.db b.memory) : StocksAgree uuid b := by
  intro s i
  unfold MemoryRepository.getStock
  cases found : b.memory.inventory.lookup
      (MemoryRepository.key (uuid.string s) (uuid.string i)) with
  | none =>
    have unlisted : ¬ b.world.db.Lists s i := by
      intro lists
      obtain ⟨stock, found', -⟩ := mirrored.shows.stock s i lists
      rw [found] at found'
      cases found'
    obtain ⟨err, failed⟩ := getStock_unlisted laws unlisted
    rw [failed]
    rfl
  | some stock =>
    obtain ⟨shown, read, same⟩ := mirrored.getStock h laws found
    rw [read]
    exact congrArg some same

end

/-! ## One call -/

/-- What agrees after a call. -/
def Agree (uuid : UUIDText) (b : Both) (a : SharedCall) : Prop :=
  RepliesAgree uuid b a ∧ Mirrored uuid (b.postgres uuid a).1 (b.inMemory uuid a).1

/-- How many rows of the ledger a call may write. -/
def rowsWritten (b : Both) (a : SharedCall) : ℕ :=
  match a.call with
  | .expireReservations nowMs =>
    (Postgres.expiredRows b.world.db (b.world.env a.action) nowMs).length
  | .reserve .. | .release .. | .adjustStock .. => 1

/-- The ids that a call draws are new. -/
structure NewIDs (b : Both) (a : SharedCall) : Prop where
  reservation : ∀ r ∈ b.world.db.reservations.rows, r.reservationID ≠ a.env.reservationID
  transactions : FreshIDs b.world.db a.env.transactionIDs 0 (rowsWritten b a)

section
variable {uuid : UUIDText} {b : Both} {a : SharedCall} {s i c k : UUID}

theorem postgres_of_ok {db' : DB}
    (h : Postgres.tx uuid b.world.db (b.world.env a.action) a.call = .ok db') :
    b.postgres uuid a = (db', Postgres.reply uuid b.world.db db' (b.world.env a.action) a.call) := by
  rw [Both.postgres, Postgres.call, h]
  rfl

theorem postgres_of_error {err : String}
    (h : Postgres.tx uuid b.world.db (b.world.env a.action) a.call = .error err) :
    b.postgres uuid a = (b.world.db, .error err) := by
  rw [Both.postgres, Postgres.call, h]

/-- A call that both reject. -/
theorem agree_of_errors (mirrored : Mirrored uuid b.world.db b.memory) {err err' : String}
    (postgres : Postgres.tx uuid b.world.db (b.world.env a.action) a.call = .error err)
    (memory : b.inMemory uuid a = (b.memory, .error err')) : Agree uuid b a := by
  rw [Agree, RepliesAgree, postgres_of_error postgres, memory]
  exact ⟨rfl, mirrored⟩

/-- A call that both accept, and that returns the stock of an item. -/
theorem agree_of_stock (laws : uuid.Lawful) (f : Stock → Reply) {db' : DB} {m' : MemoryRepository}
    {stock : Stock}
    (htx : Postgres.tx uuid b.world.db (b.world.env a.action) a.call = .ok db')
    (after : Settled (step uuid b.world a.action)) (mirrored : Mirrored uuid db' m')
    (stored : m'.inventory.lookup (MemoryRepository.key (uuid.string s) (uuid.string i)) =
      some stock)
    (reply : Postgres.reply uuid b.world.db db' (b.world.env a.action) a.call =
      (getStock uuid db' (uuid.string s) (uuid.string i)).map f)
    (memory : b.inMemory uuid a = (m', .ok (f stock)))
    (hf : ∀ stock, (f stock).quantities = .inl stock.quantities) : Agree uuid b a := by
  have now : (step uuid b.world a.action).db = db' := congrArg Prod.fst (postgres_of_ok htx)
  rw [← now] at mirrored
  obtain ⟨shown, read, same⟩ := mirrored.getStock after laws stored
  rw [now] at read mirrored
  rw [Agree, RepliesAgree, postgres_of_ok htx, memory, reply, read]
  refine ⟨?_, mirrored⟩
  simp only [Except.map, Except.toOption, Option.map_some, hf, same]

/-- New numbers and reservations, under the same inventory. -/
theorem Mirrored.of_shows {db : DB} {db' : DB} {m' : MemoryRepository}
    {left reserved : UUID → UUID → ℤ} {rs : List Reservation}
    (shows : m'.Shows uuid db.Lists left reserved rs) (inventory : db'.inventory = db.inventory)
    (total : ∀ s i, db'.total s i = left s i) (hreserved : ∀ s i, db'.reserved s i = reserved s i)
    (perm : rs.Perm (db'.reservations.rows.map (·.inMemory uuid)))
    (listed : ∀ r ∈ db'.reservations.rows, db.Lists r.storeID r.itemID) : Mirrored uuid db' m' := by
  have lists : db'.Lists = db.Lists := by
    funext s i
    rw [DB.Lists, inventory, DB.Lists]
  obtain rfl : db'.total = left := funext fun s => funext (total s)
  obtain rfl : db'.reserved = reserved := funext fun s => funext (hreserved s)
  constructor
  · rw [lists]
    exact shows.perm perm
  · rw [lists]
    exact listed

/-- A `Reserve` of all that is left of an item. -/
theorem reserve_accepted (laws : uuid.Lawful) (h : Settled b.world)
    (mirrored : Mirrored uuid b.world.db b.memory) {quantity : Int32}
    (hc : a.call = .reserve (uuid.string s) (uuid.string i) (uuid.string c) (uuid.string k) quantity)
    (positive : 0 < quantity) (lists : b.world.db.Lists s i)
    (all : quantity.toInt = b.world.db.total s i) (new : NewIDs b a)
    (after : Settled (step uuid b.world a.action)) : Agree uuid b a := by
  have q := Int32.lt_iff_toInt_lt.mp positive
  have total := h.total s i
  have bound := h.bound s i
  rw [Int32.toInt_zero] at q
  have unreserved : b.world.db.reserved s i = 0 := by
    have := h.exclusive s i
    omega
  have absent : b.world.db.reservations.find? (s, i, c) = none := by
    refine Table.find?_eq_none.mpr fun r hr same => ?_
    exact (quantityOf_eq_zero_iff h.positive s i).mp unreserved r hr
      ⟨congrArg Prod.fst same, congrArg (fun k => k.2.1) same⟩
  obtain ⟨inv, found⟩ := lists
  obtain ⟨stock, read, -, left⟩ := h.readStock found "repository: inventory not found"
  have balance : 0 ≤ (b.world.db.runningBalance s i).toInt + (-quantity).toInt := by
    rw [h.toInt_runningBalance, toInt_neg q]
    omega
  have once : rowsWritten b a = 1 := by rw [rowsWritten, hc]
  obtain ⟨⟨db', id⟩, reserves⟩ : ∃ res, Postgres.reserveTx uuid b.world.db (b.world.env a.action)
      (uuid.string s) (uuid.string i) (uuid.string c) (uuid.string k) quantity = .ok res :=
    reserveTx_accepts (parse_canonical laws s i) (laws.parse_string c) (laws.parse_string k) positive
      read (Int32.le_iff_toInt_le.mpr (by omega)) absent new.reservation balance
      (new.transactions.new 0 (by omega) le_rfl)
  obtain ⟨store, item, -, row, next, parsed, hcart, -, -, -, hs, hi, hq, expires, room, hnext,
    inventory, writes, reservations, hid, hkiosk, -⟩ := Postgres.reserveTx_eq_ok reserves
  rw [parse_canonical laws] at parsed
  obtain ⟨rfl, rfl⟩ := Prod.mk.inj (Except.ok.inj parsed)
  rw [laws.parse_string] at hcart hkiosk
  have hcart := Except.ok.inj hcart
  have hkiosk := Except.ok.inj hkiosk
  have hr : row.inMemory uuid = ⟨uuid.string a.env.reservationID, uuid.string s, uuid.string i,
      uuid.string c, uuid.string k, quantity, (b.world.env a.action).nowMs + 300000⟩ := by
    rw [ReservationRow.inMemory, hid, hs, hi, hq, expires, ← hcart, ← hkiosk]
    rfl
  have fresh : ∀ r ∈ b.world.db.reservations.rows.map (·.inMemory uuid),
      r.reservationID ≠ uuid.string a.env.reservationID := by
    intro r hr same
    obtain ⟨old, hold, rfl⟩ := List.mem_map.mp hr
    exact new.reservation old hold (laws.string_injective same)
  obtain ⟨m', stock', ran, stored, shows⟩ := mirrored.shows.reserve laws ⟨inv, found⟩ positive
    (by omega) (by omega) (by omega) fresh (b.world.env a.action) hr
  have key : row.key = (s, i, c) := by rw [ReservationRow.key, hs, hi, ← hcart]
  have rows : db'.reservations.rows = b.world.db.reservations.rows ++ [row] := by
    rw [reservations]
    exact Table.rows_upsert_of_none (key ▸ absent)
  have mirrored' : Mirrored uuid db' m' := by
    refine .of_shows shows inventory ?_ ?_ ?_ ?_
    · intro s' i'
      rw [hnext.total writes, held_inMemory laws, ReservationRow.held, hs, hi, hq, toInt_neg q]
      split <;> omega
    · intro s' i'
      rw [DB.reserved_upsert (hq ▸ q) (hq ▸ room) reservations, held_inMemory laws]
    · rw [rows, List.map_append]
      exact (List.perm_append_singleton _ _).symm
    · intro r hr
      rw [rows] at hr
      rcases List.mem_append.mp hr with hr | hr
      · exact mirrored.listed r hr
      · rw [List.mem_singleton.mp hr, hs, hi]
        exact ⟨inv, found⟩
  have htx : Postgres.tx uuid b.world.db (b.world.env a.action) a.call = .ok db' := by
    rw [hc]
    exact Statement.map_eq_ok.mpr ⟨_, reserves, rfl⟩
  refine agree_of_stock laws (.reserved (uuid.string a.env.reservationID)) htx after mirrored' stored
    (by rw [hc]; rfl) ?_ fun _ => rfl
  have ran : b.memory.reserve (b.world.env a.action)
      (uuid.string (b.world.env a.action).reservationID) (uuid.string s) (uuid.string i)
      (uuid.string c) (uuid.string k) quantity =
        (m', .ok (uuid.string a.env.reservationID, stock')) := ran
  rw [Both.inMemory, hc, MemoryRepository.call, ran]
  rfl

theorem reserve_rejected (laws : uuid.Lawful) (h : Settled b.world)
    (mirrored : Mirrored uuid b.world.db b.memory) {quantity : Int32}
    (hc : a.call = .reserve (uuid.string s) (uuid.string i) (uuid.string c) (uuid.string k) quantity)
    (reject : ¬ (0 < quantity ∧ b.world.db.Lists s i ∧ quantity.toInt ≤ b.world.db.total s i)) :
    Agree uuid b a := by
  obtain ⟨err', ran⟩ := mirrored.shows.reserve_rejects reject (b.world.env a.action)
    (uuid.string a.env.reservationID) (uuid.string c) (uuid.string k)
  cases htx : Postgres.tx uuid b.world.db (b.world.env a.action) a.call with
  | error err =>
    refine agree_of_errors mirrored htx (?_ : b.inMemory uuid a = (b.memory, .error err'))
    have ran : b.memory.reserve (b.world.env a.action)
        (uuid.string (b.world.env a.action).reservationID) (uuid.string s) (uuid.string i)
        (uuid.string c) (uuid.string k) quantity = (b.memory, .error err') := ran
    rw [Both.inMemory, hc, MemoryRepository.call, ran]
    rfl
  | ok db' =>
    rw [hc] at htx
    obtain ⟨⟨db₁, id⟩, reserves, -⟩ := Statement.map_eq_ok.mp htx
    obtain ⟨store, item, reserved, row, next, parsed, -, positive, hreserved, enough, -, -, -, -, -,
      -, -, -, -, -, -, lists⟩ := Postgres.reserveTx_eq_ok reserves
    rw [parse_canonical laws] at parsed
    obtain ⟨rfl, rfl⟩ := Prod.mk.inj (Except.ok.inj parsed)
    refine absurd ⟨positive, lists, ?_⟩ reject
    have total := h.total s i
    rw [DB.selectReserved_eq_ok hreserved, Int32.le_iff_toInt_le] at enough
    exact (enough.trans (h.quantityAvailable s i).le).trans total.ge

theorem release_agrees (laws : uuid.Lawful) (h : Settled b.world)
    (mirrored : Mirrored uuid b.world.db b.memory)
    (hc : a.call = .release (uuid.string s) (uuid.string i) (uuid.string c))
    (lists : b.world.db.Lists s i) (new : NewIDs b a)
    (after : Settled (step uuid b.world a.action)) : Agree uuid b a := by
  have once : rowsWritten b a = 1 := by rw [rowsWritten, hc]
  have same (row : ReservationRow) : row.key = (s, i, c) ↔
      (row.inMemory uuid).storeID = uuid.string s ∧ (row.inMemory uuid).itemID = uuid.string i ∧
        (row.inMemory uuid).cartID = uuid.string c := by
    simp only [ReservationRow.key, ReservationRow.inMemory, laws.string_injective.eq_iff,
      Prod.mk.injEq]
  have accepts {m' : MemoryRepository} {stock : Stock} (ran : b.memory.release (b.world.env a.action)
      a.walk (uuid.string s) (uuid.string i) (uuid.string c) = (m', .ok stock)) :
      b.inMemory uuid a = (m', .ok (.stock stock)) := by
    rw [Both.inMemory, hc, MemoryRepository.call, ran]
    rfl
  rcases mirrored.shows.release lists (uuid.string c) (b.world.env a.action) a.walk with
    ⟨stock, ran, stored, none⟩ | ⟨r, hr, hs, hi, hcart, ran⟩
  · have absent : b.world.db.reservations.find? (s, i, c) = Option.none :=
      Table.find?_eq_none.mpr fun row hrow key =>
        none _ (List.mem_map_of_mem hrow) ((same row).mp key)
    have htx : Postgres.tx uuid b.world.db (b.world.env a.action) a.call = .ok b.world.db := by
      rw [hc]
      refine Statement.bind_eq_ok.mpr ⟨_, parse_canonical laws s i, ?_⟩
      refine Statement.bind_eq_ok.mpr ⟨_, Statement.mapError_eq_ok.mpr (laws.parse_string c), ?_⟩
      simp only [absent]
      rfl
    exact agree_of_stock laws .stock htx after mirrored stored (by rw [hc]; rfl) (accepts ran)
      fun _ => rfl
  · obtain ⟨row, hrow, rfl⟩ := List.mem_map.mp hr
    have key := (same row).mpr ⟨hs, hi, hcart⟩
    have found := Table.find?_eq_some.mpr ⟨hrow, key⟩
    have positive := h.positive row hrow
    have balance : 0 ≤ (b.world.db.runningBalance s i).toInt + row.quantity.toInt := by
      have := h.nonneg s i
      rw [h.toInt_runningBalance]
      omega
    obtain ⟨db', releases⟩ : ∃ db', Postgres.releaseTx uuid b.world.db (b.world.env a.action)
        (uuid.string s) (uuid.string i) (uuid.string c) = .ok db' :=
      releaseTx_accepts (parse_canonical laws s i) (laws.parse_string c) found balance
        (new.transactions.new 0 (by omega) le_rfl)
    obtain ⟨store, item, cart, parsed, hcart', ⟨none, -⟩ | ⟨row', next, found', hnext, inventory,
      writes, rest⟩⟩ := Postgres.releaseTx_eq_ok releases
    · rw [parse_canonical laws] at parsed
      obtain ⟨rfl, rfl⟩ := Prod.mk.inj (Except.ok.inj parsed)
      rw [laws.parse_string] at hcart'
      rw [← Except.ok.inj hcart', found] at none
      cases none
    · rw [parse_canonical laws] at parsed
      obtain ⟨rfl, rfl⟩ := Prod.mk.inj (Except.ok.inj parsed)
      rw [laws.parse_string] at hcart'
      rw [← Except.ok.inj hcart'] at found' rest
      rw [found] at found'
      obtain rfl := Option.some.inj found'
      rw [← key] at rest
      have perm : (b.world.db.reservations.rows.map (·.inMemory uuid)).Perm
          (row.inMemory uuid :: db'.reservations.rows.map (·.inMemory uuid)) := by
        rw [rest]
        exact (Table.perm_delete hrow).map _
      have reserved (s' i' : UUID) :
          db'.reserved s' i' + row.held s' i' = b.world.db.reserved s' i' := by
        rw [← Settled.quantityOf_filter_key hrow]
        exact DB.reserved_delete rest s' i'
      have store : row.storeID = s := congrArg Prod.fst key
      have item : row.itemID = i := congrArg (fun k => k.2.1) key
      have held : row.held s i = row.quantity.toInt := if_pos ⟨store, item⟩
      have left : 0 ≤ db'.reserved s i := by
        refine quantityOf_nonneg (fun r hr => ?_) s i
        rw [rest] at hr
        exact h.positive r (Table.mem_delete.mp hr).1
      have total := h.total s i
      have bound := h.bound s i
      have within := reserved s i
      have freed := (mirrored.shows.perm perm).free laws hs hi lists (h.nonneg s i) positive.le
        (by change row.quantity.toInt ≤ _; omega) (by omega) (uuid.string c)
        (b.world.env a.action).occurredAtMs "explicit release"
      have mirrored' : Mirrored uuid db' (b.memory.free (row.inMemory uuid) (uuid.string c)
          (b.world.env a.action).occurredAtMs "explicit release").1 := by
        refine .of_shows freed inventory ?_ ?_ (.refl _) ?_
        · intro s' i'
          rw [hnext.total writes, held_inMemory laws, ReservationRow.held, store, item]
        · intro s' i'
          rw [held_inMemory laws, ← reserved s' i', add_sub_cancel_right]
        · intro r hr
          rw [rest] at hr
          exact mirrored.listed r (Table.mem_delete.mp hr).1
      refine agree_of_stock laws .stock (by rw [hc]; exact releases) after mirrored' ?_
        (by rw [hc]; rfl) (accepts ran) fun _ => rfl
      exact MemoryRepository.lookup_free hs hi

/-- An `AdjustStock` of an item of which nothing is reserved, or that adds nothing or takes more than
there is. -/
theorem adjustStock_agrees (laws : uuid.Lawful) (h : Settled b.world)
    (mirrored : Mirrored uuid b.world.db b.memory) {delta : Int32} {typ : TransactionType}
    {referenceID referenceType notes : String} {reference : Option UUID}
    (hc : a.call = .adjustStock (uuid.string s) (uuid.string i) delta typ referenceID referenceType
      notes)
    (hreference : parseReference uuid referenceID = .ok reference)
    (apart : b.world.db.reserved s i = 0 ∨ delta.toInt = 0 ∨ delta.toInt < -b.world.db.reserved s i)
    (room : b.world.adjusted s i + delta.toInt < 2 ^ 31) (new : NewIDs b a)
    (after : Settled (step uuid b.world a.action)) : Agree uuid b a := by
  have once : rowsWritten b a = 1 := by rw [rowsWritten, hc]
  have total := h.total s i
  have bound := h.bound s i
  have nonneg := h.nonneg s i
  have reserved := h.reserved_nonneg s i
  have exclusive := h.exclusive s i
  have balance := h.toInt_runningBalance s i
  have positive (s i : UUID) := And.intro (h.nonneg s i) (h.reserved_nonneg s i)
  have fits (s i : UUID) : b.world.db.total s i + b.world.db.reserved s i < 2 ^ 31 := by
    have := h.total s i
    have := h.bound s i
    omega
  have rejects (below : b.world.db.Lists s i →
      b.world.db.total s i + b.world.db.reserved s i + delta.toInt < 0) :
      ∃ err, b.inMemory uuid a = (b.memory, .error err) := by
    obtain ⟨err, ran⟩ := mirrored.shows.adjustStock_rejects positive fits below
      (b.world.env a.action) typ referenceID referenceType notes
    refine ⟨err, ?_⟩
    rw [Both.inMemory, hc, MemoryRepository.call, ran]
    rfl
  by_cases enough : 0 ≤ b.world.db.total s i + delta.toInt
  · obtain ⟨db', adjusts⟩ : ∃ db', Postgres.adjustStockTx uuid b.world.db (b.world.env a.action)
        (uuid.string s) (uuid.string i) delta typ referenceID referenceType notes = .ok db' :=
      adjustStockTx_accepts (parse_canonical laws s i) hreference (by omega)
        (new.transactions.new 0 (by omega) le_rfl)
    obtain ⟨store, item, next, parsed, hnext, inventory, writes, rest⟩ :=
      Postgres.adjustStockTx_eq_ok adjusts
    rw [parse_canonical laws] at parsed
    obtain ⟨rfl, rfl⟩ := Prod.mk.inj (Except.ok.inj parsed)
    have htx : Postgres.tx uuid b.world.db (b.world.env a.action) a.call = .ok db' := by
      rw [hc]
      exact adjusts
    have same (s' i' : UUID) : db'.reserved s' i' = b.world.db.reserved s' i' := by
      rw [DB.reserved_eq, DB.reserved_eq, rest]
    by_cases lists : b.world.db.Lists s i
    · obtain ⟨m', stock, ran, stored, shows⟩ := mirrored.shows.adjustStock laws lists reserved enough
        (by omega) nonneg (by omega) (b.world.env a.action) typ referenceID referenceType notes
      have mirrored' : Mirrored uuid db' m' :=
        .of_shows shows inventory (hnext.total writes) same (by rw [rest]) (rest ▸ mirrored.listed)
      refine agree_of_stock laws .stock htx after mirrored' stored (by rw [hc]; rfl) ?_ fun _ => rfl
      rw [Both.inMemory, hc, MemoryRepository.call, ran]
      rfl
    · -- the tables take the row of an item that the inventory does not list, and show nothing of it
      obtain ⟨err', memory⟩ := rejects fun listed => absurd listed lists
      have others (s' i' : UUID) (lists' : b.world.db.Lists s' i') :
          db'.total s' i' = b.world.db.total s' i' := by
        rw [hnext.total writes, if_neg, add_zero]
        rintro ⟨rfl, rfl⟩
        exact lists lists'
      have mirrored' : Mirrored uuid db' b.memory :=
        .of_shows (mirrored.shows.of_listed others) inventory (fun _ _ => rfl) same (by rw [rest])
          (rest ▸ mirrored.listed)
      have unlisted : ¬ db'.Lists s i := by
        rw [DB.Lists, inventory]
        exact lists
      obtain ⟨err, unread⟩ := getStock_unlisted laws unlisted
      have reply : Postgres.reply uuid b.world.db db' (b.world.env a.action) a.call = .error err := by
        rw [hc, Postgres.reply, unread]
        rfl
      rw [Agree, RepliesAgree, postgres_of_ok htx, memory, reply]
      exact ⟨rfl, mirrored'⟩
  · have reject : ∀ db', Postgres.tx uuid b.world.db (b.world.env a.action) a.call ≠ .ok db' := by
      intro db' htx
      rw [hc] at htx
      have adjusts : Postgres.adjustStockTx uuid b.world.db (b.world.env a.action) (uuid.string s)
          (uuid.string i) delta typ referenceID referenceType notes = .ok db' := htx
      obtain ⟨store, item, next, parsed, hnext, -⟩ := Postgres.adjustStockTx_eq_ok adjusts
      rw [parse_canonical laws] at parsed
      obtain ⟨rfl, rfl⟩ := Prod.mk.inj (Except.ok.inj parsed)
      have := hnext.positive
      omega
    obtain ⟨err', memory⟩ := rejects fun _ => by omega
    cases htx : Postgres.tx uuid b.world.db (b.world.env a.action) a.call with
    | ok db' => exact absurd htx (reject db')
    | error err => exact agree_of_errors mirrored htx memory

theorem expireReservations_agrees (laws : uuid.Lawful) (h : Settled b.world)
    (mirrored : Mirrored uuid b.world.db b.memory) {nowMs : Int64}
    (hc : a.call = .expireReservations nowMs)
    (passes : a.env.overlaps = true ∨ ∀ r ∈ b.world.db.reservations.rows, ¬ r.expiresAtMs < nowMs)
    (ready : Sweepable
      { b.world.db with reservations := b.world.db.reservations.delete (·.expiresAtMs < nowMs) }
      (b.world.env a.action)
      (Postgres.expiredRows b.world.db (b.world.env a.action) nowMs) 0)
    (new : NewIDs b a) : Agree uuid b a := by
  have count : rowsWritten b a =
      (Postgres.expiredRows b.world.db (b.world.env a.action) nowMs).length := by
    rw [rowsWritten, hc]
  have fresh := new.transactions
  rw [count, ← Nat.zero_add (List.length _)] at fresh
  obtain ⟨db', swept⟩ := expireRows_accepts uuid ready h.nonneg ⟨fresh.new, fresh.distinct⟩
  have expires : Postgres.expireReservationsTx uuid b.world.db (b.world.env a.action) nowMs =
      .ok db' := by
    refine (if_pos ?_).trans swept
    rw [Bool.or_eq_true]
    refine passes.symm.imp_left fun none => List.isEmpty_iff.mpr ?_
    exact List.eq_nil_iff_forall_not_mem.mpr fun r hr =>
      none r (mem_expiredRows.mp hr).1 (mem_expiredRows.mp hr).2
  obtain ⟨inventory, rest, total, -⟩ := expireRows_eq_ok swept
  let expired := (a.walk.values b.memory.reservations).filter fun r => r.expiresAtMs < nowMs
  have swept : expired.Perm ((b.world.db.reservations.rows.filter fun r =>
      r.expiresAtMs < nowMs).map (·.inMemory uuid)) := by
    have all := ((a.walk.perm _).trans mirrored.shows.reservations).filter
      fun r => r.expiresAtMs < nowMs
    rw [List.filter_map] at all
    exact all
  have perm : (b.world.db.reservations.rows.map (·.inMemory uuid)).Perm
      (expired ++ db'.reservations.rows.map (·.inMemory uuid)) := by
    have split := ((List.filter_append_perm (fun r => decide (r.expiresAtMs < nowMs))
      b.world.db.reservations.rows).map (·.inMemory uuid)).symm
    rw [List.map_append] at split
    rw [rest]
    exact split.trans (swept.symm.append_right _)
  have held (s i : UUID) : (expired.map (·.held uuid s i)).sum =
      quantityOf (b.world.db.reservations.rows.filter fun r => r.expiresAtMs < nowMs) s i := by
    rw [(swept.map _).sum_eq, List.map_map, quantityOf_eq_sum]
    exact congrArg List.sum (List.map_congr_left fun r _ => held_inMemory laws r s i)
  have reserved (s i : UUID) := DB.reserved_delete rest s i
  have origin (r : Reservation) (hr : r ∈ expired) :
      ∃ row ∈ b.world.db.reservations.rows, row.inMemory uuid = r := by
    obtain ⟨row, hrow, same⟩ := List.mem_map.mp (swept.mem_iff.mp hr)
    exact ⟨row, List.mem_of_mem_filter hrow, same⟩
  have kept (s i : UUID) : 0 ≤ db'.reserved s i := by
    refine quantityOf_nonneg (fun r hr => ?_) s i
    rw [rest] at hr
    exact h.positive r (Table.mem_delete.mp hr).1
  have shows := (mirrored.shows.perm perm).sweep laws
    (by
      intro r hr
      obtain ⟨row, hrow, rfl⟩ := origin r hr
      exact ⟨row.storeID, row.itemID, rfl, rfl, mirrored.listed row hrow⟩)
    (by
      intro r hr
      obtain ⟨row, hrow, rfl⟩ := origin r hr
      exact (h.positive row hrow).le)
    h.nonneg
    (by
      intro s i
      have sum : db'.reserved s i + quantityOf (b.world.db.reservations.rows.filter fun r =>
        r.expiresAtMs < nowMs) s i = b.world.db.reserved s i := reserved s i
      have := kept s i
      rw [held]
      omega)
    (by
      intro s i
      have := h.total s i
      have := h.bound s i
      omega) nowMs
  have htx : Postgres.tx uuid b.world.db (b.world.env a.action) a.call = .ok db' := by
    rw [hc]
    exact expires
  have length : (Postgres.expiredRows b.world.db (b.world.env a.action) nowMs).length =
      expired.length := by
    rw [swept.length_eq, List.length_map]
    exact ((b.world.env a.action).returning.perm _).length_eq
  rw [Agree, RepliesAgree, postgres_of_ok htx, Both.inMemory, hc]
  refine ⟨?_, .of_shows shows inventory ?_ ?_ (.refl _) ?_⟩
  · exact congrArg (fun n => some (Sum.inr n)) length
  · intro s i
    rw [held, total, quantityOf_expiredRows]
    rfl
  · intro s i
    rw [held]
    exact eq_sub_of_add_eq (reserved s i)
  · intro r hr
    rw [rest] at hr
    exact mirrored.listed r (Table.mem_delete.mp hr).1

end

/-! ## Histories -/

def Canonical (uuid : UUIDText) (text : String) : Prop := ∃ u, text = uuid.string u

/-- Every id that a call names is the text of a UUID, and every id that it draws is new. -/
def WellFormed (uuid : UUIDText) (b : Both) (a : SharedCall) : Prop :=
  NewIDs b a ∧ match a.call with
  | .reserve storeID itemID cartID kioskID _ =>
    Canonical uuid storeID ∧ Canonical uuid itemID ∧ Canonical uuid cartID ∧ Canonical uuid kioskID
  | .release storeID itemID cartID =>
    Canonical uuid storeID ∧ Canonical uuid itemID ∧ Canonical uuid cartID
  | .adjustStock storeID itemID _ _ referenceID .. =>
    Canonical uuid storeID ∧ Canonical uuid itemID ∧
      (referenceID = "" ∨ Canonical uuid referenceID)
  | .expireReservations _ => True

/-- Of every item all or nothing is reserved, an `AdjustStock` of a reserved item adds nothing or
takes more than there is, a `Release` names a listed item, and a sweep finds nothing that has expired,
unless the driver lets it write while it reads. -/
def TakesAll (uuid : UUIDText) (b : Both) (a : SharedCall) : Prop :=
  AllOrNothing uuid b.world a.action ∧ match a.call with
  | .release storeID itemID _ =>
    ∀ s i, parseStoreItem uuid storeID itemID = .ok (s, i) → b.world.db.Lists s i
  | .adjustStock storeID itemID delta .. =>
    ∀ s i, parseStoreItem uuid storeID itemID = .ok (s, i) →
      b.world.db.reserved s i = 0 ∨ delta.toInt = 0 ∨ delta.toInt < -b.world.db.reserved s i
  | .expireReservations nowMs =>
    a.env.overlaps = true ∨ ∀ r ∈ b.world.db.reservations.rows, ¬ r.expiresAtMs < nowMs
  | .reserve .. => True

/-- Any stock on hand in the ledger, the same in the memory, and nothing reserved. -/
structure Seeded (uuid : UUIDText) (b : Both) : Prop extends Settled b.world where
  unreserved : b.world.db.reservations.rows = []
  empty : b.memory.reservations = ∅
  stock : ∀ s i, b.world.db.Lists s i → ∃ stock,
    b.memory.inventory.lookup (MemoryRepository.key (uuid.string s) (uuid.string i)) = some stock ∧
      stock.quantityAvailable.toInt = b.world.db.total s i ∧ stock.quantityReserved = 0
  unlisted : ∀ s i, ¬ b.world.db.Lists s i →
    b.memory.inventory.lookup (MemoryRepository.key (uuid.string s) (uuid.string i)) = none

structure Simulates (uuid : UUIDText) (b : Both) : Prop extends
  Settled b.world, Mirrored uuid b.world.db b.memory

section
variable {uuid : UUIDText} {b : Both} {a : SharedCall}

theorem simulates_of_seeded (h : Seeded uuid b) : Simulates uuid b where
  toSettled := h.toSettled
  shows := by
    have reserved (s i : UUID) : b.world.db.reserved s i = 0 := by
      rw [DB.reserved_eq, h.unreserved]
      rfl
    refine ⟨?_, h.unlisted, ?_, ?_⟩
    · intro s i lists
      obtain ⟨stock, found, left, none⟩ := h.stock s i lists
      exact ⟨stock, found, left, by rw [none, reserved]; rfl⟩
    · rw [h.empty, h.unreserved]
      exact .refl _
    · intro id r found
      rw [h.empty] at found
      cases found
  listed r hr := by
    rw [h.unreserved] at hr
    cases hr

theorem call_agrees (laws : uuid.Lawful) (h : Simulates uuid b) (formed : WellFormed uuid b a)
    (guard : TakesAll uuid b a) : Agree uuid b a := by
  have after : Settled (step uuid b.world a.action) := settled_step h.toSettled guard.1
  obtain ⟨new, formed⟩ := formed
  have together := guard.1 rfl
  cases hc : a.call with
  | reserve storeID itemID cartID kioskID quantity =>
    rw [hc] at formed
    obtain ⟨⟨s, rfl⟩, ⟨i, rfl⟩, ⟨c, rfl⟩, ⟨k, rfl⟩⟩ := formed
    have whole : 0 < quantity → (b.world.db.runningBalance s i).toInt ≤ quantity.toInt := by
      simp only [SharedCall.action, hc] at together
      exact together s i (parse_canonical laws s i)
    rw [h.toSettled.toInt_runningBalance] at whole
    by_cases accepted : 0 < quantity ∧ b.world.db.Lists s i ∧
        quantity.toInt ≤ b.world.db.total s i
    · obtain ⟨positive, lists, enough⟩ := accepted
      exact reserve_accepted laws h.toSettled h.toMirrored hc positive lists
        (enough.antisymm (whole positive)) new after
    · exact reserve_rejected laws h.toSettled h.toMirrored hc accepted
  | release storeID itemID cartID =>
    rw [hc] at formed
    obtain ⟨⟨s, rfl⟩, ⟨i, rfl⟩, ⟨c, rfl⟩⟩ := formed
    have lists := guard.2
    simp only [hc] at lists
    exact release_agrees laws h.toSettled h.toMirrored hc (lists s i (parse_canonical laws s i)) new
      after
  | adjustStock storeID itemID delta typ referenceID referenceType notes =>
    rw [hc] at formed
    obtain ⟨⟨s, rfl⟩, ⟨i, rfl⟩, reference⟩ := formed
    have apart := guard.2
    simp only [hc] at apart
    simp only [SharedCall.action, hc] at together
    obtain ⟨r, hr⟩ : ∃ r, parseReference uuid referenceID = .ok r := by
      rcases reference with rfl | ⟨u, rfl⟩
      · exact ⟨none, rfl⟩
      · unfold parseReference
        rw [laws.parse_string]
        split
        · exact ⟨_, rfl⟩
        · exact ⟨_, rfl⟩
    exact adjustStock_agrees laws h.toSettled h.toMirrored hc hr
      (apart s i (parse_canonical laws s i)) (together s i (parse_canonical laws s i)).2 new after
  | expireReservations nowMs =>
    have order := h.toSettled.inOrder guard.1 rfl
    simp only [SharedCall.action, hc] at order
    have passes := guard.2
    simp only [hc] at passes
    exact expireReservations_agrees laws h.toSettled h.toMirrored hc passes
      (h.toSound.sweepable a.action order.1 order.2) new

theorem simulates_step (laws : uuid.Lawful) (h : Simulates uuid b)
    (guard : WellFormed uuid b a ∧ TakesAll uuid b a) : Simulates uuid (b.step uuid a) where
  toSettled := settled_step h.toSettled guard.2.1
  toMirrored := (call_agrees laws h guard.1 guard.2).2

end

/-- The item of `stocked` in both, with nothing on hand. -/
def bothStocked : Both where
  world := .start stocked
  memory := MemoryRepository.seedInventory {} { storeID := text 1, itemID := text 2 }

def shared (a : Action) : SharedCall := ⟨a.call, a.env, .inOrder _ _, a.wait⟩

theorem seeded_bothStocked : Seeded .hyphenated bothStocked where
  toSettled := settled_start stocked
  unreserved := rfl
  empty := rfl
  stock s i lists := by
    obtain ⟨inv, found⟩ := lists
    obtain ⟨hinv, key⟩ := Table.find?_eq_some.mp found
    rw [List.mem_singleton.mp hinv] at key
    obtain ⟨rfl, rfl⟩ := Prod.mk.inj key
    exact ⟨_, AList.lookup_insert _, rfl, rfl⟩
  unlisted s i unlisted := by
    refine (AList.lookup_insert_ne fun heq => unlisted ?_).trans (AList.lookup_empty _)
    obtain ⟨rfl, rfl⟩ := MemoryRepository.key_injective UUIDText.lawful_hyphenated heq
    exact ⟨_, rfl⟩

theorem canonical_text (u : UUID) : Canonical .hyphenated (text u) := ⟨u, rfl⟩

/-- A sweep over pgx, before the holds expire. -/
def earlySweep (id : UUID) : Action where
  call := .expireReservations 200000
  env := { demoEnv id id with overlaps := false }

end InventoryService
