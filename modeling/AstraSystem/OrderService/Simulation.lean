import Mathlib.Data.List.Find
import AstraSystem.Lib.Runs
import AstraSystem.OrderService.Memory

/-!
# The in-memory order repository beside the Postgres one

The two agree as long as the tables are those that the statements name, ids are written as UUIDs are printed, orders
and carts and numbers are new, statuses are those of the schema, a cancelled order stays cancelled, pages are of all
orders and hold one at most, and the database does not fail.
-/

namespace OrderService.Repository

open RFC3339 (Time)

/-! ## Conditions -/

/-- The event is new, and its id is written as UUIDs are printed. -/
def NewEvent (uuid : UUIDText) (db : DB) (event : OutboxEvent) : Prop :=
  ∃ u, uuid.string u = event.eventID ∧ ∀ r ∈ db.outbox, r.eventID ≠ u

/-- A text is read as an id, and if there is an order of that id it is the text of that order. -/
def Located (uuid : UUIDText) (db : DB) (key : Order UUID → UUID) (text : String) : Prop :=
  ∃ u, uuid.parse text = .ok u ∧ (uuid.string u = text ∨ ∀ o ∈ db.orders.rows, key o ≠ u)

/-- An item that `order_items` takes under an id. -/
structure Insertable (uuid : UUIDText) (item : OrderItem) (id : UUID) : Prop where
  own : uuid.parse item.orderItemID = .ok id
  menu : ∃ itemID, uuid.parse item.itemID = .ok itemID
  fits : fitsInt item.priceCentsSnapshot = true ∧ fitsInt item.lineTotalCents = true
  name : item.nameSnapshot.length ≤ 255
  some : 0 < item.quantity

/-- An order as the service creates it, but for its number and its ids. -/
structure Creatable (uuid : UUIDText) (db : DB) (order : Order String) : Prop where
  ids : ∃ orderID storeID kioskID cartID, uuid.string orderID = order.orderID ∧
    uuid.string storeID = order.storeID ∧ uuid.string kioskID = order.kioskID ∧
    uuid.string cartID = order.cartID
  bar : '|' ∉ order.cartID.toList
  fits : order.Fits
  items : ∃ ids, List.Forall₂ (Insertable uuid) order.items ids ∧ (db.items ++ ids).Nodup
  number : order.orderNumber.length ≤ orderNumberWidth
  unused : ∀ o ∈ db.orders.rows, o.orderNumber ≠ order.orderNumber
  fresh : ∀ o ∈ db.orders.rows, uuid.string o.orderID ≠ order.orderID ∧ uuid.string o.cartID ≠ order.cartID
  status : order.status ∈ ["pending", "cancelled"]
  paidAt : order.paidAt = none
  fulfilledAt : order.fulfilledAt = none
  cancelledAt : order.cancelledAt = none

/-- The page that is asked for, and its size. -/
def ListFilter.bounds (filter : ListFilter) : ℤ × ℤ :=
  (if filter.page < 1 then 1 else filter.page.toInt, if filter.pageSize < 1 then 20 else filter.pageSize.toInt)

/-- The filter is for all orders, the offset is a number of 32 bits, and there is one order at most or the page lies
behind the last. -/
structure Listable (db : DB) (filter : ListFilter) : Prop where
  all : filter.Empty
  offset : (filter.bounds.1 - 1) * filter.bounds.2 < 2 ^ 31
  single : db.orders.rows.length ≤ 1 ∨
    db.orders.rows.length ≤ (filter.bounds.1 - 1) * min filter.bounds.2 100

/-- The order that a call changes. -/
def Changes (uuid : UUIDText) (db : DB) (orderID : String) (may : Order UUID → Prop) : Prop :=
  Located uuid db Order.orderID orderID ∧
    ∀ o ∈ db.orders.rows, uuid.string o.orderID = orderID → may o

def Call.Permitted (uuid : UUIDText) (db : DB) : Call → Prop
  | .createOrder order event => Creatable uuid db order ∧ NewEvent uuid db event
  | .getOrder orderID => Located uuid db Order.orderID orderID
  | .getOrderByCartID cartID => Located uuid db Order.cartID cartID
  | .getOrderByIdempotencyKey cartID _ => '|' ∉ cartID.toList
  | .listOrders filter => Listable db filter
  | .updateOrderStatus orderID status event => Changes uuid db orderID fun o => o.status ≠ status →
      status ∈ statuses ∧ (status ∈ ["pending", "cancelled"] ∨ o.paidAt.isSome) ∧
        (status = "cancelled" ∨ o.cancelledAt = none) ∧ NewEvent uuid db event
  | .markPaid orderID _ event => Changes uuid db orderID fun o => o.status = "pending" →
      NewEvent uuid db event
  | .markFulfilled orderID fulfilledBy _ event => Changes uuid db orderID fun o => o.status = "paid" →
      (fulfilledBy = "" ∨ o.metadata.isSome) ∧ NewEvent uuid db event

/-- The database does what it is asked, and the call is one on which the two agree. -/
structure Permitted (uuid : UUIDText) (w : World) (a : Act) : Prop where
  committed : a.env.outcome = .committed
  reload : a.env.reload = none
  call : a.call.Permitted uuid w.db

/-! ## The relation -/

/-- A row as callers see it. -/
def Order.shown (uuid : UUIDText) (o : Order UUID) : Seen := (o.scan uuid).seen

/-- The maps of the memory hold what the tables do. -/
structure Simulates (uuid : UUIDText) (m : MemoryRepository) (db : DB) : Prop where
  tables : db.tables.Complete
  orders : m.orders.rows.map Order.seen = db.orders.rows.map (Order.shown uuid)
  carts : ∀ cartID, m.ordersByCart.lookup cartID =
    (m.orders.rows.find? fun o => o.cartID = cartID).map Order.orderID
  keys : ∀ scope key, '|' ∉ scope.toList → m.idempotency.lookup (scope ++ "|" ++ key) =
    (db.keys.find? fun row => row.scope = scope ∧ row.key = key).map fun row => uuid.string row.orderID
  scopes : ∀ row ∈ db.keys, ∃ o ∈ db.orders.rows, uuid.string o.cartID = row.scope
  outbox : m.outbox = db.outbox.map (OutboxRow.event uuid)
  checked : ∀ o ∈ db.orders.rows, Checked o

section
variable {uuid : UUIDText} {m : MemoryRepository} {db : DB} {text : String}

/-- Two results that are the same order to their callers. -/
def SameOrder (x y : Except RepositoryError (Order String)) : Prop :=
  seen (x.map .order) = seen (y.map .order)

theorem sameOrder_ok {o o' : Order String} (same : o.seen = o'.seen) : SameOrder (.ok o) (.ok o') :=
  congrArg (fun s => Except.ok (Answer.order s)) same

theorem sameOrder_error {err err' : RepositoryError} (same : err.kind = err'.kind) :
    SameOrder (.error err) (.error err') :=
  congrArg Except.error same

/-! ## Lookups -/

/-- A located text finds what its id finds. -/
theorem find?_located (laws : uuid.Lawful) {key : Order UUID → UUID} {u : UUID}
    (parsed : uuid.parse text = .ok u)
    (located : uuid.string u = text ∨ ∀ o ∈ db.orders.rows, key o ≠ u) :
    (db.orders.rows.find? fun o => uuid.string (key o) = text) =
      db.orders.rows.find? fun o => key o = u := by
  refine List.find?_congr fun o ho => decide_eq_decide.mpr ⟨?_, ?_⟩
  · rintro rfl
    exact Except.ok.inj ((laws.parse_string _).symm.trans parsed)
  · rintro rfl
    obtain printed | absent := located
    · exact printed
    · exact absurd rfl (absent o ho)

/-- A text finds orders that look the same. -/
theorem Simulates.find? (h : Simulates uuid m db) (text : String) :
    (m.orders.find? text).map Order.seen =
      (db.orders.rows.find? fun o => uuid.string o.orderID = text).map (Order.shown uuid) := by
  have rows := congrArg (List.find? fun s : Seen => s.orderID = text) h.orders
  rwa [List.find?_map, List.find?_map] at rows

theorem Simulates.getOrder (laws : uuid.Lawful) (h : Simulates uuid m db)
    (located : Located uuid db Order.orderID text) :
    SameOrder (m.getOrder text) (getOrder uuid db text) := by
  obtain ⟨u, parsed, located⟩ := located
  have same := h.find? text
  rw [find?_located laws parsed located] at same
  have columns := h.tables.orders
  simp only [MemoryRepository.getOrder, Repository.getOrder, queryOrder, columns, not_true_eq_false, ↓reduceIte, parsed,
    Table.find?] at same ⊢
  cases found : db.orders.rows.find? fun o => o.orderID = u with
  | none =>
    rw [found, Option.map_none, Option.map_eq_none_iff] at same
    rw [same]
    rfl
  | some row =>
    rw [found, Option.map_some, Option.map_eq_some_iff] at same
    obtain ⟨o, found', same⟩ := same
    rw [found']
    exact sameOrder_ok same

theorem Simulates.getOrderByCartID (laws : uuid.Lawful) (h : Simulates uuid m db)
    (located : Located uuid db Order.cartID text) :
    SameOrder (m.getOrderByCartID text) (getOrderByCartID uuid db text) := by
  obtain ⟨u, parsed, located⟩ := located
  have same := congrArg (List.find? fun s : Seen => s.cartID = text) h.orders
  rw [List.find?_map, List.find?_map] at same
  have same : (m.orders.rows.find? fun o => o.cartID = text).map Order.seen =
      (db.orders.rows.find? fun o => uuid.string o.cartID = text).map (Order.shown uuid) := same
  rw [find?_located laws parsed located] at same
  simp only [MemoryRepository.getOrderByCartID, Repository.getOrderByCartID, queryOrder, h.tables.orders,
    not_true_eq_false, ↓reduceIte, parsed, h.carts]
  cases found : db.orders.rows.find? fun o => o.cartID = u with
  | none =>
    rw [found, Option.map_none, Option.map_eq_none_iff] at same
    rw [same]
    rfl
  | some row =>
    rw [found, Option.map_some, Option.map_eq_some_iff] at same
    obtain ⟨o, found', same⟩ := same
    have own : m.orders.find? o.orderID = some o :=
      Table.find?_eq_some.mpr ⟨List.mem_of_find?_eq_some found', rfl⟩
    simp only [found', Option.map_some, MemoryRepository.getOrder, own]
    exact sameOrder_ok same

theorem Simulates.getOrderByIdempotencyKey (laws : uuid.Lawful) (h : Simulates uuid m db)
    (bar : '|' ∉ text.toList) (key : String) :
    SameOrder (m.getOrderByIdempotencyKey text key) (getOrderByIdempotencyKey uuid db text key) := by
  simp only [MemoryRepository.getOrderByIdempotencyKey, Repository.getOrderByIdempotencyKey,
    h.tables.idempotencyKeys, not_true_eq_false, ↓reduceIte, h.keys text key bar]
  cases db.keys.find? fun row => row.scope = text ∧ row.key = key with
  | none => rfl
  | some row => exact h.getOrder laws ⟨row.orderID, laws.parse_string _, .inl rfl⟩

/-! ## Changes -/

theorem Order.replaced_orderID (old new : Order UUID) : ((fun _ new => new) old new).orderID = new.orderID := rfl

/-- The database after a change. -/
def DB.changed (db : DB) (row : Order UUID) (event : OutboxRow) : DB := { db with
  orders := db.orders.upsert (fun _ new => new) Order.replaced_orderID row
  outbox := db.outbox ++ [event] }

/-- The same change to both. -/
theorem Simulates.put (laws : uuid.Lawful) (h : Simulates uuid m db) {o o' : Order String}
    {row row' : Order UUID} {event : OutboxEvent} {u : UUID} (found : m.orders.find? o.orderID = some o)
    (found' : db.orders.find? row.orderID = some row) (id : o'.orderID = o.orderID)
    (cart : o'.cartID = o.cartID) (same : o'.seen = row'.shown uuid) (id' : row'.orderID = row.orderID)
    (cart' : row'.cartID = row.cartID) (own : o.orderID = uuid.string row.orderID) (checked : Checked row')
    (printed : uuid.string u = event.eventID) :
    Simulates uuid (m.put o' event).1 (db.changed row' (event.row u row.orderID)) := by
  have found : m.orders.find? o'.orderID = some o := id ▸ found
  have found' : db.orders.find? row'.orderID = some row := id' ▸ found'
  have rows : (m.put o' event).1.orders.rows = m.orders.rows.map fun r =>
    if r.orderID = o'.orderID then o' else r := Table.rows_upsert_of_some found
  have rows' : (db.changed row' (event.row u row.orderID)).orders.rows = db.orders.rows.map fun r =>
    if r.orderID = row'.orderID then row' else r := Table.rows_upsert_of_some found'
  constructor
  · exact h.tables
  · let g (s : Seen) : Seen := if s.orderID = o'.orderID then o'.seen else s
    have left : m.orders.rows.map (Order.seen ∘ fun r => if r.orderID = o'.orderID then o' else r) =
        m.orders.rows.map (g ∘ Order.seen) := by
      refine List.map_congr_left fun r _ => ?_
      simp only [Function.comp_apply, g, show r.seen.orderID = r.orderID from rfl]
      split <;> rfl
    have right : db.orders.rows.map (Order.shown uuid ∘ fun r => if r.orderID = row'.orderID then row' else r) =
        db.orders.rows.map (g ∘ Order.shown uuid) := by
      refine List.map_congr_left fun r _ => ?_
      have key : (r.shown uuid).orderID = o'.orderID ↔ r.orderID = row'.orderID := by
        show uuid.string r.orderID = o'.orderID ↔ _
        rw [id, own, id', laws.string_injective.eq_iff]
      simp only [Function.comp_apply, g, key, same]
      split <;> rfl
    rw [rows, rows', List.map_map, List.map_map, left, right, ← List.map_map, ← List.map_map, h.orders]
  · intro cartID
    have keeps : ∀ r ∈ m.orders.rows, (if r.orderID = o'.orderID then o' else r).cartID = r.cartID ∧
        (if r.orderID = o'.orderID then o' else r).orderID = r.orderID := by
      intro r hr
      split
      · rename_i here
        obtain ⟨ho, -⟩ := Table.find?_eq_some.mp found
        obtain rfl := m.orders.unique hr ho (here.trans id)
        exact ⟨cart, id⟩
      · exact ⟨rfl, rfl⟩
    rw [rows, List.find?_map, Option.map_map]
    have walk : (m.orders.rows.find? ((fun r => decide (r.cartID = cartID)) ∘ fun r =>
        if r.orderID = o'.orderID then o' else r)) = m.orders.rows.find? fun r => r.cartID = cartID :=
      List.find?_congr fun r hr => by rw [Function.comp_apply, (keeps r hr).1]
    rw [walk]
    refine (h.carts cartID).trans (Option.map_congr fun r hr => ?_)
    exact (keeps r (List.mem_of_find?_eq_some hr)).2.symm
  · exact h.keys
  · intro key hkey
    obtain ⟨r, hr, scope⟩ := h.scopes key hkey
    refine ⟨_, rows' ▸ List.mem_map_of_mem hr, ?_⟩
    split
    · rename_i here
      obtain ⟨hrow, -⟩ := Table.find?_eq_some.mp found'
      obtain rfl := db.orders.unique hr hrow (here.trans id')
      rw [cart', scope]
    · exact scope
  · show m.outbox ++ [event] = (db.outbox ++ [event.row u row.orderID]).map _
    rw [List.map_append, ← h.outbox]
    simp [OutboxRow.event, OutboxEvent.row, printed]
  · intro r hr
    rw [rows'] at hr
    obtain ⟨old, hold, rfl⟩ := List.mem_map.mp hr
    split
    · exact checked
    · exact h.checked old hold

/-- An order of the memory and the row of the same order. -/
structure Finds (uuid : UUIDText) (m : MemoryRepository) (db : DB) (orderID : String) (o : Order String)
    (row : Order UUID) : Prop where
  parsed : uuid.parse orderID = .ok row.orderID
  printed : uuid.string row.orderID = orderID
  memory : m.orders.find? orderID = some o
  table : db.orders.find? row.orderID = some row
  same : o.seen = row.shown uuid

theorem Simulates.located (laws : uuid.Lawful) (h : Simulates uuid m db)
    (located : Located uuid db Order.orderID text) :
    (∃ u, uuid.parse text = .ok u ∧ db.orders.find? u = none ∧ m.orders.find? text = none) ∨
      ∃ o row, Finds uuid m db text o row := by
  obtain ⟨u, parsed, located⟩ := located
  have same := h.find? text
  rw [find?_located laws parsed located] at same
  cases found : db.orders.find? u with
  | none =>
    have none : (db.orders.rows.find? fun o => o.orderID = u) = none := found
    rw [none, Option.map_none, Option.map_eq_none_iff] at same
    exact .inl ⟨u, parsed, found, same⟩
  | some row =>
    have some : (db.orders.rows.find? fun o => o.orderID = u) = some row := found
    rw [some, Option.map_some, Option.map_eq_some_iff] at same
    obtain ⟨o, found', same⟩ := same
    obtain ⟨-, rfl⟩ := Table.find?_eq_some.mp found
    have own : o.orderID = text := (Table.find?_eq_some.mp found').2
    exact .inr ⟨o, row, parsed, (congrArg Seen.orderID same).symm.trans own, found', found, same⟩

variable {orderID : String} {event : OutboxEvent} {o o' : Order String} {row row' : Order UUID} {env : Env}
  {context : String} {move : Move}

theorem Finds.mem (f : Finds uuid m db orderID o row) : row ∈ db.orders.rows :=
  (Table.find?_eq_some.mp f.table).1

/-- What both make of an order leaves them the same. -/
theorem Finds.moves (laws : uuid.Lawful) (h : Simulates uuid m db) (f : Finds uuid m db orderID o row)
    (committed : env.outcome = .committed) (reload : env.reload = none) (moved : move row = .ok (some row'))
    (id : o'.orderID = o.orderID) (cart : o'.cartID = o.cartID) (same : o'.seen = row'.shown uuid)
    (checked : Checked row') (new : NewEvent uuid db event) :
    SameOrder (m.put o' event).2 (change uuid db env orderID context event move).2 ∧
      Simulates uuid (m.put o' event).1 (change uuid db env orderID context event move).1 := by
  obtain ⟨u, printed, fresh⟩ := new
  have own : o.orderID = uuid.string row.orderID := congrArg Seen.orderID f.same
  have id' : row'.orderID = row.orderID := by
    refine laws.string_injective ?_
    rw [← own, ← id]
    exact (congrArg Seen.orderID same).symm
  have cart' : row'.cartID = row.cartID := by
    have old : o.cartID = uuid.string row.cartID := congrArg Seen.cartID f.same
    refine laws.string_injective ?_
    rw [← old, ← cart]
    exact (congrArg Seen.cartID same).symm
  rw [change_moves committed reload f.parsed f.table h.tables.orders context moved checked id'
    (printed ▸ laws.parse_string u) fresh]
  have found : m.orders.find? o.orderID = some o := by
    rw [own, f.printed, f.memory]
  exact ⟨sameOrder_ok same, h.put laws found f.table id cart same id' cart' own checked printed⟩

theorem Simulates.updateOrderStatus (laws : uuid.Lawful) (h : Simulates uuid m db)
    (committed : env.outcome = .committed) (reload : env.reload = none) (now : Time) {status : String}
    (may : (Call.updateOrderStatus orderID status event).Permitted uuid db) :
    SameOrder (m.updateOrderStatus now orderID status event).2
        (updateOrderStatus uuid db env orderID status event).2 ∧
      Simulates uuid (m.updateOrderStatus now orderID status event).1
        (updateOrderStatus uuid db env orderID status event).1 := by
  obtain ⟨located, may⟩ := may
  unfold MemoryRepository.updateOrderStatus Repository.updateOrderStatus
  obtain ⟨u, parsed, absent, absent'⟩ | ⟨o, row, f⟩ := h.located laws located
  · rw [absent', change_absent committed parsed _ _ _ absent]
    exact ⟨rfl, h⟩
  have status_eq : o.status = row.status := congrArg Seen.status f.same
  simp only [f.memory, status_eq]
  split
  · rename_i same
    rw [change_stays committed reload f.parsed f.table h.tables.orders _ _ (if_pos same)]
    exact ⟨sameOrder_ok f.same, h⟩
  · rename_i other
    obtain ⟨known, early, stays, new⟩ := may row f.mem f.printed other
    refine f.moves laws h committed reload (if_neg other) rfl rfl ?_ ⟨known, early⟩ new
    have set : (if status = "cancelled" then some now else o.cancelledAt).isSome =
        (if status = "cancelled" then some env.now else none).isSome := by
      split
      · rfl
      · rename_i other
        have unset : o.cancelledAt.isSome = row.cancelledAt.isSome := congrArg Seen.cancelled f.same
        rw [unset, stays.resolve_left other]
    show { o.seen with
      status, cancelled := (if status = "cancelled" then some now else o.cancelledAt).isSome } =
        { row.shown uuid with
          status, cancelled := (if status = "cancelled" then some env.now else none).isSome }
    rw [f.same, set]

theorem Simulates.markPaid (laws : uuid.Lawful) (h : Simulates uuid m db)
    (committed : env.outcome = .committed) (reload : env.reload = none) (now : Time) {paidAt : Time}
    (may : (Call.markPaid orderID paidAt event).Permitted uuid db) :
    SameOrder (m.markPaid now orderID paidAt event).2 (markPaid uuid db env orderID paidAt event).2 ∧
      Simulates uuid (m.markPaid now orderID paidAt event).1
        (markPaid uuid db env orderID paidAt event).1 := by
  obtain ⟨located, may⟩ := may
  unfold MemoryRepository.markPaid Repository.markPaid
  obtain ⟨u, parsed, absent, absent'⟩ | ⟨o, row, f⟩ := h.located laws located
  · rw [absent', change_absent committed parsed _ _ _ absent]
    exact ⟨rfl, h⟩
  have status_eq : o.status = row.status := congrArg Seen.status f.same
  simp only [f.memory, status_eq]
  split
  · rename_i done
    rw [change_stays committed reload f.parsed f.table h.tables.orders _ _ (if_pos done)]
    exact ⟨sameOrder_ok f.same, h⟩
  rename_i undone
  split
  · rename_i other
    rw [change_error committed f.parsed f.table _ _ ((if_neg undone).trans (if_pos other))]
    exact ⟨sameOrder_error rfl, h⟩
  · rename_i pending
    have known : "paid" ∈ statuses := by decide
    refine f.moves laws h committed reload ((if_neg undone).trans (if_neg pending)) rfl rfl ?_ ⟨known, .inr rfl⟩
      (may row f.mem f.printed (not_not.mp pending))
    show { o.seen with status := "paid", paid := true } =
      { row.shown uuid with status := "paid", paid := true }
    rw [f.same]

theorem Simulates.markFulfilled (laws : uuid.Lawful) (h : Simulates uuid m db)
    (committed : env.outcome = .committed) (reload : env.reload = none) (now : Time) {fulfilledBy : String}
    {fulfilledAt : Time} (may : (Call.markFulfilled orderID fulfilledBy fulfilledAt event).Permitted uuid db) :
    SameOrder (m.markFulfilled now orderID fulfilledBy fulfilledAt event).2
        (markFulfilled uuid db env orderID fulfilledBy fulfilledAt event).2 ∧
      Simulates uuid (m.markFulfilled now orderID fulfilledBy fulfilledAt event).1
        (markFulfilled uuid db env orderID fulfilledBy fulfilledAt event).1 := by
  obtain ⟨located, may⟩ := may
  unfold MemoryRepository.markFulfilled Repository.markFulfilled
  obtain ⟨u, parsed, absent, absent'⟩ | ⟨o, row, f⟩ := h.located laws located
  · rw [absent', change_absent committed parsed _ _ _ absent]
    exact ⟨rfl, h⟩
  have status_eq : o.status = row.status := congrArg Seen.status f.same
  simp only [f.memory, status_eq]
  split
  · rename_i done
    rw [change_stays committed reload f.parsed f.table h.tables.orders _ _ (if_pos done)]
    exact ⟨sameOrder_ok f.same, h⟩
  rename_i undone
  split
  · rename_i other
    rw [change_error committed f.parsed f.table _ _ ((if_neg undone).trans (if_pos other))]
    exact ⟨sameOrder_error rfl, h⟩
  · rename_i paid
    have paid : row.status = "paid" := not_not.mp paid
    obtain ⟨noted, new⟩ := may row f.mem f.printed paid
    have metadata : o.metadata.getD [] = row.metadata.getD [] := congrArg Seen.metadata f.same
    obtain ⟨md, note, same⟩ : ∃ md, noteFulfilled row.metadata fulfilledBy = .ok md ∧
        (if fulfilledBy = "" then o.metadata
          else some (setEntry (o.metadata.getD []) "fulfilled_by" fulfilledBy)).getD [] = md.getD [] := by
      unfold noteFulfilled
      split
      · exact ⟨row.metadata, rfl, metadata⟩
      · rename_i somebody
        obtain ⟨entries, some⟩ := Option.isSome_iff_exists.mp (noted.resolve_left somebody)
        rw [metadata, some]
        exact ⟨_, rfl, rfl⟩
    have moved : Move.fulfill env fulfilledBy fulfilledAt row = .ok (some { row with
        status := "fulfilled", fulfilledAt := some fulfilledAt, metadata := md, updatedAt := env.now }) := by
      rw [Move.fulfill, if_neg undone, if_neg (not_not.mpr paid), note]
      rfl
    have known : "fulfilled" ∈ statuses := by decide
    have early : row.status ∉ ["pending", "cancelled"] := by
      rw [paid]
      decide
    have paidAt : row.paidAt.isSome := (h.checked row f.mem).immutableAfterPaid.resolve_left early
    have seen : { o.seen with
          status := "fulfilled", fulfilled := true
          metadata := (if fulfilledBy = "" then o.metadata
            else some (setEntry (o.metadata.getD []) "fulfilled_by" fulfilledBy)).getD [] } =
        { row.shown uuid with status := "fulfilled", fulfilled := true, metadata := md.getD [] } := by
      rw [f.same, same]
    exact f.moves laws h committed reload moved rfl rfl seen ⟨known, .inr paidAt⟩ new

end

end OrderService.Repository
