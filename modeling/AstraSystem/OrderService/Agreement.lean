import AstraSystem.OrderService.Simulation

/-!
# Runs of the two order repositories

New orders and pages of orders, and with the rest of the calls whole runs.
-/

namespace OrderService.Repository

open RFC3339 (Time)

section
variable {uuid : UUIDText} {m : MemoryRepository} {db : DB} {text : String} {event : OutboxEvent} {row : Order UUID}
  {env : Env}

/-! ## A new order -/

/-- Scope and key can be told apart in a key of the memory. -/
theorem bar_inj {scope scope' key key' : String} (bar : '|' ∉ scope.toList) (bar' : '|' ∉ scope'.toList) :
    scope ++ "|" ++ key = scope' ++ "|" ++ key' ↔ scope = scope' ∧ key = key' := by
  refine ⟨fun h => ?_, fun ⟨hs, hk⟩ => by rw [hs, hk]⟩
  have texts := congrArg String.toList h
  simp only [String.toList_append] at texts
  have cut {s : List Char} (none : '|' ∉ s) (rest : List Char) :
      (s ++ ['|'] ++ rest).takeWhile (· ≠ '|') = s ∧ (s ++ ['|'] ++ rest).dropWhile (· ≠ '|') = '|' :: rest := by
    have keeps : ∀ c ∈ s, decide (c ≠ '|') = true := fun c hc =>
      decide_eq_true fun same => none (same ▸ hc)
    rw [List.append_assoc, List.takeWhile_append_of_pos keeps, List.dropWhile_append_of_pos keeps]
    simp
  have scopes := congrArg (List.takeWhile (· ≠ '|')) texts
  have keys := congrArg (List.dropWhile (· ≠ '|')) texts
  have text : "|".toList = ['|'] := rfl
  rw [text, (cut bar _).1, (cut bar' _).1] at scopes
  rw [text, (cut bar _).2, (cut bar' _).2] at keys
  exact ⟨String.toList_inj.mp scopes, String.toList_inj.mp (List.cons.inj keys).2⟩

/-- The keys of the database with that of a new order. -/
def DB.keyed (db : DB) (order : Order String) (id : UUID) : List KeyRow :=
  if order.idempotencyKey ≠ "" then db.keys ++ [⟨order.cartID, order.idempotencyKey, id⟩] else db.keys

theorem insertItem_new (columns : db.tables.orderItems = true) {item : OrderItem} {id : UUID}
    (may : Insertable uuid item id) (new : id ∉ db.items) :
    db.insertItem uuid item = .ok { db with items := db.items ++ [id] } := by
  obtain ⟨itemID, menu⟩ := may.menu
  simp only [DB.insertItem, columns, not_true_eq_false, ↓reduceIte, may.own, menu, Except.mapError, may.fits, and_self,
    if_neg (not_lt.mpr may.name), if_neg (Int32.not_le.mpr may.some), if_neg new, bind, Except.bind, pure, Except.pure]

/-- The items of a new order, by induction on them. -/
theorem insertItems_new {items : List OrderItem} {ids : List UUID} (may : List.Forall₂ (Insertable uuid) items ids) :
    ∀ db : DB, db.tables.orderItems = true → (db.items ++ ids).Nodup →
      items.foldlM (DB.insertItem uuid) db = .ok { db with items := db.items ++ ids } := by
  induction may with
  | nil =>
    intro db _ _
    rw [List.append_nil]
    rfl
  | @cons item id items ids first _ ih =>
    intro db columns nodup
    have new : id ∉ db.items := fun old =>
      (List.nodup_append.mp nodup).2.2 id old id List.mem_cons_self rfl
    have rest : ((db.items ++ [id]) ++ ids).Nodup := by
      rw [List.append_assoc]
      exact nodup
    rw [List.foldlM_cons, insertItem_new columns first new]
    refine (ih { db with items := db.items ++ [id] } columns rest).trans ?_
    rw [List.append_assoc]
    rfl

theorem createOrder_new {order : Order String} {u : UUID} (committed : env.outcome = .committed)
    (read : order.row uuid = .ok row) (parsed : uuid.parse order.orderID = .ok row.orderID)
    (complete : db.tables.Complete) (fits : row.Fits) {ids : List UUID}
    (items : List.Forall₂ (Insertable uuid) order.items ids) (nodup : (db.items ++ ids).Nodup)
    (width : row.orderNumber.length ≤ orderNumberWidth) (checked : Checked row)
    (absent : db.orders.find? row.orderID = none) (unused : ∀ o ∈ db.orders.rows, o.orderNumber ≠ row.orderNumber)
    (scope : ∀ old ∈ db.keys, old.scope ≠ order.cartID) (event_parsed : uuid.parse event.eventID = .ok u)
    (fresh : ∀ r ∈ db.outbox, r.eventID ≠ u) : createOrder uuid db env order event = ({ db with
      orders := db.orders.upsert (fun _ new => new) Order.replaced_orderID row
      items := db.items ++ ids
      keys := db.keyed order row.orderID
      outbox := db.outbox ++ [event.row u row.orderID] }, .ok ()) := by
  let db₁ : DB := { db with orders := db.orders.upsert (fun _ new => new) Order.replaced_orderID row }
  let db₂ : DB := { db₁ with items := db.items ++ ids }
  let db₃ : DB := { db₂ with keys := db.keyed order row.orderID }
  have inserted : db.insertOrder uuid order = .ok db₁ := by
    have new : ¬ ((db.orders.find? row.orderID).isSome ∨ ∃ o ∈ db.orders.rows, o.orderNumber = row.orderNumber) := by
      rintro (some | ⟨o, ho, same⟩)
      · rw [absent] at some
        cases some
      · exact unused o ho same
    simp only [DB.insertOrder, complete.orders, read, bind, Except.bind, fits, if_neg (not_lt.mpr width), checked,
      not_true_eq_false, ↓reduceIte, if_neg new]
    rfl
  have bought : order.items.foldlM (DB.insertItem uuid) db₁ = .ok db₂ :=
    insertItems_new items db₁ complete.orderItems nodup
  have keyed : db₂.insertKeyOf order row.orderID = .ok db₃ := by
    simp only [DB.insertKeyOf, db₃, DB.keyed]
    split
    · have new : ¬ ∃ old ∈ db.keys, old.scope = order.cartID ∧ old.key = order.idempotencyKey := by
        rintro ⟨old, hold, same, -⟩
        exact scope old hold same
      have present : ¬ ¬ db₂.tables.idempotencyKeys = true := not_not.mpr complete.idempotencyKeys
      rw [DB.insertKey, if_neg present, if_neg new]
    · rfl
  have written : db₃.insertOutbox uuid row.orderID event = .ok { db₃ with
      outbox := db.outbox ++ [event.row u row.orderID] } := insertOutbox_new event_parsed fresh
  simp only [createOrder, committed, inserted, refused, Except.mapError, bind, Except.bind, parsed, bought, keyed,
    written]
  rfl

theorem Order.recreated_orderID (old new : Order String) : ((fun _ new => new) old new).orderID = new.orderID := rfl

/-- The memory with a new order. -/
def MemoryRepository.created (m : MemoryRepository) (order : Order String) (event : OutboxEvent) :
    MemoryRepository where
  orders := m.orders.upsert (fun _ new => new) Order.recreated_orderID order.clone
  ordersByCart := m.ordersByCart.insert order.cartID order.orderID
  idempotency := if order.idempotencyKey ≠ "" then
    m.idempotency.insert (order.cartID ++ "|" ++ order.idempotencyKey) order.orderID else m.idempotency
  outbox := m.outbox ++ [event]

/-- Among the orders of the memory none has a text that no row has. -/
theorem Simulates.absent (h : Simulates uuid m db) (key : Seen → String) {text : String}
    (absent : ∀ row ∈ db.orders.rows, key (row.shown uuid) ≠ text) : ∀ o ∈ m.orders.rows, key o.seen ≠ text := by
  intro o ho
  have there : o.seen ∈ db.orders.rows.map (Order.shown uuid) := h.orders ▸ List.mem_map_of_mem ho
  obtain ⟨row, hrow, same⟩ := List.mem_map.mp there
  exact same ▸ absent row hrow

theorem find?_concat {A : Type} {p : A → Bool} {l : List A} {a : A} (before : l.find? p = none) :
    (l ++ [a]).find? p = if p a then some a else none := by
  rw [List.find?_append, before, Option.none_or, List.find?_singleton]

/-- A new order on both sides. -/
theorem Simulates.create (h : Simulates uuid m db) {order : Order String} {u : UUID}
    (new : m.orders.find? order.orderID = none) (new' : db.orders.find? row.orderID = none)
    (cartless : ∀ o ∈ m.orders.rows, o.cartID ≠ order.cartID)
    (scope : ∀ old ∈ db.keys, old.scope ≠ order.cartID) (bar : '|' ∉ order.cartID.toList)
    (same : order.seen = row.shown uuid) (checked : Checked row) (printed : uuid.string u = event.eventID)
    (items : List UUID) : Simulates uuid (m.created order event) { db with
      orders := db.orders.upsert (fun _ new => new) Order.replaced_orderID row
      items
      keys := db.keyed order row.orderID
      outbox := db.outbox ++ [event.row u row.orderID] } := by
  have id : order.orderID = uuid.string row.orderID := congrArg Seen.orderID same
  have cart : order.cartID = uuid.string row.cartID := congrArg Seen.cartID same
  have rows : (m.created order event).orders.rows = m.orders.rows ++ [order.clone] :=
    Table.rows_upsert_of_none new
  have rows' : (db.orders.upsert (fun _ new => new) Order.replaced_orderID row).rows = db.orders.rows ++ [row] :=
    Table.rows_upsert_of_none new'
  constructor
  · exact h.tables
  · rw [rows, rows', List.map_append, List.map_append, h.orders]
    exact congrArg (_ ++ [·]) same
  · intro cartID
    rw [rows]
    by_cases own : cartID = order.cartID
    · subst own
      have before : (m.orders.rows.find? fun o => o.cartID = order.cartID) = none :=
        List.find?_eq_none.mpr fun o ho => by simpa using cartless o ho
      have own : decide (order.clone.cartID = order.cartID) = true := decide_eq_true rfl
      rw [find?_concat before, own, if_pos rfl]
      exact AList.lookup_insert _
    · have other : decide (order.clone.cartID = cartID) = false := decide_eq_false fun same => own same.symm
      rw [List.find?_append, List.find?_singleton, other]
      refine (AList.lookup_insert_ne own).trans ((h.carts cartID).trans ?_)
      simp
  · intro scope' key bar'
    show (if order.idempotencyKey ≠ "" then
      m.idempotency.insert (order.cartID ++ "|" ++ order.idempotencyKey) order.orderID
      else m.idempotency).lookup _ = _
    unfold DB.keyed
    split
    · by_cases own : scope' = order.cartID ∧ key = order.idempotencyKey
      · obtain ⟨rfl, rfl⟩ := own
        have before : (db.keys.find? fun row => row.scope = order.cartID ∧ row.key = order.idempotencyKey) = none :=
          List.find?_eq_none.mpr fun old hold => by simp [scope old hold]
        rw [AList.lookup_insert, find?_concat before, if_pos (by simp), Option.map_some, id]
      · have other : scope' ++ "|" ++ key ≠ order.cartID ++ "|" ++ order.idempotencyKey :=
          fun same => own ((bar_inj bar' bar).mp same)
        have unlike : decide (order.cartID = scope' ∧ order.idempotencyKey = key) = false :=
          decide_eq_false fun both => own ⟨both.1.symm, both.2.symm⟩
        rw [AList.lookup_insert_ne other, h.keys scope' key bar', List.find?_append, List.find?_singleton, unlike]
        simp
    · exact h.keys scope' key bar'
  · intro old hold
    unfold DB.keyed at hold
    rw [rows']
    have before (there : old ∈ db.keys) : ∃ o ∈ db.orders.rows ++ [row], uuid.string o.cartID = old.scope := by
      obtain ⟨o, ho, scope⟩ := h.scopes old there
      exact ⟨o, List.mem_append_left _ ho, scope⟩
    split at hold
    · obtain there | added := List.mem_append.mp hold
      · exact before there
      · obtain rfl := List.mem_singleton.mp added
        exact ⟨row, List.mem_append_right _ (List.mem_singleton_self _), cart.symm⟩
    · exact before hold
  · show m.outbox ++ [event] = (db.outbox ++ [event.row u row.orderID]).map _
    rw [List.map_append, ← h.outbox]
    simp [OutboxRow.event, OutboxEvent.row, printed]
  · intro o ho
    rw [rows'] at ho
    obtain old | added := List.mem_append.mp ho
    · exact h.checked o old
    · exact List.mem_singleton.mp added ▸ checked

theorem Simulates.createOrder (laws : uuid.Lawful) (h : Simulates uuid m db) (committed : env.outcome = .committed)
    {order : Order String} (may : (Call.createOrder order event).Permitted uuid db) :
    (m.createOrder order event).2 = .ok () ∧ (createOrder uuid db env order event).2 = .ok () ∧
      Simulates uuid (m.createOrder order event).1 (createOrder uuid db env order event).1 := by
  obtain ⟨may, u, printed, fresh⟩ := may
  obtain ⟨orderID, storeID, kioskID, cartID, order_eq, store_eq, kiosk_eq, cart_eq⟩ := may.ids
  obtain ⟨items, insertable, nodup⟩ := may.items
  let row : Order UUID := { order with
    orderID, storeID, kioskID, cartID
    idempotencyKey := "", paidAt := none, fulfilledAt := none, cancelledAt := none }
  have parse {id : UUID} {text : String} (printed : uuid.string id = text) : uuid.parse text = .ok id :=
    printed ▸ laws.parse_string id
  have read : order.row uuid = .ok row := by
    simp only [Order.row, parse order_eq, parse store_eq, parse kiosk_eq, parse cart_eq, Except.mapError, bind,
      Except.bind, pure, Except.pure]
    rfl
  have same : order.seen = row.shown uuid := by
    simp [Order.seen, Order.shown, Order.scan, row, order_eq, store_eq, kiosk_eq, cart_eq, may.paidAt, may.fulfilledAt,
      may.cancelledAt]
  have known : order.status ∈ statuses := by
    obtain pending | cancelled := List.mem_cons.mp may.status
    · rw [pending]
      decide
    · rw [List.mem_singleton.mp cancelled]
      decide
  have checked : Checked row := ⟨known, .inl may.status⟩
  have new' : db.orders.find? row.orderID = none :=
    Table.find?_eq_none.mpr fun o ho same => (may.fresh o ho).1 (same ▸ order_eq)
  have new : m.orders.find? order.orderID = none :=
    Table.find?_eq_none.mpr (h.absent Seen.orderID fun o ho => (may.fresh o ho).1)
  have cartless : ∀ o ∈ m.orders.rows, o.cartID ≠ order.cartID :=
    h.absent Seen.cartID fun o ho => (may.fresh o ho).2
  have scope : ∀ old ∈ db.keys, old.scope ≠ order.cartID := by
    rintro old hold same
    obtain ⟨o, ho, scope⟩ := h.scopes old hold
    exact (may.fresh o ho).2 (scope.trans same)
  have cart : m.ordersByCart.lookup order.cartID = none := by
    rw [h.carts, Option.map_eq_none_iff, List.find?_eq_none]
    exact fun o ho => by simpa using cartless o ho
  have memory : m.createOrder order event = (m.created order event, .ok ()) := by
    rw [MemoryRepository.createOrder, new, cart]
    rfl
  rw [memory, createOrder_new committed read (parse order_eq) h.tables may.fits insertable nodup may.number checked new' may.unused scope (parse printed)
    fresh]
  exact ⟨rfl, rfl, h.create new new' cartless scope may.bar same checked printed _⟩

/-! ## Pages -/

theorem toInt_offset {page size : Int32} (first : 1 ≤ page.toInt) (some : 1 ≤ size.toInt)
    (small : (page.toInt - 1) * size.toInt < 2 ^ 31) :
    ((page - 1) * size).toInt = (page.toInt - 1) * size.toInt := by
  have bound := Int32.toInt_lt page
  have before : (page - 1).toInt = page.toInt - 1 := by
    rw [Int32.toInt_sub, Int32.toInt_one]
    exact Int.bmod_eq_of_le (by omega) (by omega)
  have positive : 0 ≤ (page.toInt - 1) * size.toInt := Int.mul_nonneg (by omega) (by omega)
  rw [Int32.toInt_mul, before]
  exact Int.bmod_eq_of_le (by omega) (by omega)

/-- Pages of the same few things in any order are the same, and so are those behind the last. -/
theorem page_eq {A : Type} {l l' : List A} (perm : l.Perm l') {page size : ℤ} (first : 1 ≤ page) (some : 1 ≤ size)
    (single : l'.length ≤ 1 ∨ l'.length ≤ (page - 1) * min size 100) {start stop : ℤ}
    (start_eq : start = min ((page - 1) * size) l.length) (stop_eq : stop = min (start + size) l.length) :
    (l.drop start.toNat).take (stop - start).toNat =
      (l'.drop ((page - 1) * min size 100).toNat).take (min size 100).toNat := by
  have count : l.length = l'.length := perm.length_eq
  have least : (page - 1) * min size 100 ≤ (page - 1) * size :=
    Int.mul_le_mul_of_nonneg_left (by omega) (by omega)
  by_cases behind : (l'.length : ℤ) ≤ (page - 1) * min size 100
  · have none : l.drop start.toNat = [] := List.drop_eq_nil_of_le (by omega)
    have none' : l'.drop ((page - 1) * min size 100).toNat = [] := List.drop_eq_nil_of_le (by omega)
    rw [none, none', List.take_nil, List.take_nil]
  · have few : l'.length ≤ 1 := single.resolve_right behind
    have one : page = 1 := by
      by_contra other
      have more : 1 * 1 ≤ (page - 1) * min size 100 :=
        Int.mul_le_mul (by omega) (by omega) (by omega) (by omega)
      omega
    have same : l = l' := by
      match l', few with
      | [], _ => exact perm.eq_nil
      | [a], _ => exact List.perm_singleton.mp perm
    subst one same
    have zero : ((1 : ℤ) - 1) * min size 100 = 0 := by simp
    have start_zero : start = 0 := by
      have : ((1 : ℤ) - 1) * size = 0 := by simp
      omega
    rw [zero, start_zero]
    have all : (stop - 0).toNat = l.length := by omega
    rw [all, Int.toNat_zero, List.drop_zero, List.take_length]
    exact (List.take_of_length_le (by omega)).symm

theorem toInt_bounds (filter : ListFilter) : (if filter.page < 1 then 1 else filter.page).toInt = filter.bounds.1 ∧
    (if filter.pageSize < 1 then 20 else filter.pageSize).toInt = filter.bounds.2 ∧
    1 ≤ filter.bounds.1 ∧ 1 ≤ filter.bounds.2 := by
  have one : (1 : Int32).toInt = 1 := rfl
  have twenty : (20 : Int32).toInt = 20 := rfl
  simp only [ListFilter.bounds, Int32.lt_iff_toInt_lt, one]
  refine ⟨?_, ?_, ?_, ?_⟩ <;> split <;> simp_all

theorem toInt_clamp (filter : ListFilter) :
    (if filter.pageSize < 1 then 20 else if 100 < filter.pageSize then 100 else filter.pageSize).toInt =
      min filter.bounds.2 100 := by
  have one : (1 : Int32).toInt = 1 := rfl
  have twenty : (20 : Int32).toInt = 20 := rfl
  have hundred : (100 : Int32).toInt = 100 := rfl
  simp only [ListFilter.bounds, Int32.lt_iff_toInt_lt, one, hundred]
  split
  · exact twenty
  · split
    · rw [hundred]
      omega
    · omega

theorem Simulates.listOrders (h : Simulates uuid m db) (walk : Shuffle (Order String))
    (ties : Shuffle (Order UUID)) {filter : ListFilter} (may : Listable db filter) :
    seen ((m.listOrders walk filter).map fun page => .page page.1 page.2) =
      seen ((listOrders uuid db ties filter).map fun page => .page page.1 page.2) := by
  obtain ⟨page_int, size_int, first, least⟩ := toInt_bounds filter
  have clamp_int := toInt_clamp filter
  -- All orders on both sides, in the orders in which they are walked.
  let walked := walk.apply m.orders.rows
  let sorted := (ties.apply db.orders.rows).insertionSort fun a b => b.createdAt.unixNano ≤ a.createdAt.unixNano
  have perm : (walked.map Order.seen).Perm (sorted.map (Order.shown uuid)) := by
    have left : (walked.map Order.seen).Perm (m.orders.rows.map Order.seen) := (walk.perm m.orders.rows).map _
    have right : sorted.Perm db.orders.rows := (List.perm_insertionSort _ _).trans (ties.perm db.orders.rows)
    exact left.trans (h.orders ▸ (right.map (Order.shown uuid)).symm)
  have offset : (((if filter.page < 1 then 1 else filter.page) - 1) *
      if filter.pageSize < 1 then 20 else filter.pageSize).toInt = (filter.bounds.1 - 1) * filter.bounds.2 := by
    rw [toInt_offset (page_int ▸ first) (size_int ▸ least) (page_int ▸ size_int ▸ may.offset), page_int, size_int]
  have fewer : (filter.bounds.1 - 1) * min filter.bounds.2 100 ≤ (filter.bounds.1 - 1) * filter.bounds.2 :=
    Int.mul_le_mul_of_nonneg_left (by omega) (by omega)
  have offset' : (((if filter.page < 1 then 1 else filter.page) - 1) * if filter.pageSize < 1 then 20
      else if 100 < filter.pageSize then 100 else filter.pageSize).toInt =
        (filter.bounds.1 - 1) * min filter.bounds.2 100 := by
    have small := Int.lt_of_le_of_lt fewer may.offset
    rw [toInt_offset (page_int ▸ first) (clamp_int ▸ by omega) (page_int ▸ clamp_int ▸ small), page_int, clamp_int]
  have positive : 0 ≤ (filter.bounds.1 - 1) * min filter.bounds.2 100 := Int.mul_nonneg (by omega) (by omega)
  let start := min ((filter.bounds.1 - 1) * filter.bounds.2) walked.length
  let stop := min (start + filter.bounds.2) walked.length
  have memory : m.listOrders walk filter =
      .ok (((walked.drop start.toNat).take (stop - start).toNat).map Order.clone, walked.length) := by
    obtain ⟨store, kiosk, status⟩ := may.all
    unfold MemoryRepository.listOrders
    extract_lets page pageSize matched start' stop'
    have all : matched = walked :=
      List.filter_eq_self.mpr fun o _ => decide_eq_true ⟨.inl store, .inl kiosk, .inl status⟩
    have same : start' = start := by
      simp only [start', all]
      exact congrArg (min · _) offset
    have same' : stop' = stop := by
      simp only [stop', stop, same, all]
      exact congrArg (fun n => min (start + n) _) size_int
    rw [same, same', all, if_neg (by omega)]
  have table : Repository.listOrders uuid db ties filter = .ok (((sorted.drop
      ((filter.bounds.1 - 1) * min filter.bounds.2 100).toNat).take (min filter.bounds.2 100).toNat).map
        (Order.scan uuid), db.orders.rows.length) := by
    unfold Repository.listOrders
    simp only [may.all, h.tables.orders, not_true_eq_false, ↓reduceIte]
    rw [if_neg, offset', clamp_int]
    rw [Int32.lt_iff_toInt_lt, offset']
    exact not_lt.mpr positive
  have count : walked.length = db.orders.rows.length := by
    have same := perm.length_eq
    rwa [List.length_map, List.length_map, List.length_insertionSort, (ties.perm db.orders.rows).length_eq] at same
  have page : (((walked.drop start.toNat).take (stop - start).toNat).map Order.clone).map Order.seen =
      (((sorted.drop ((filter.bounds.1 - 1) * min filter.bounds.2 100).toNat).take
        (min filter.bounds.2 100).toNat).map (Order.scan uuid)).map Order.seen := by
    have clones : Order.seen ∘ Order.clone = Order.seen := rfl
    have scans : Order.seen ∘ Order.scan uuid = Order.shown uuid := rfl
    have length : (sorted.map (Order.shown uuid)).length = db.orders.rows.length := by
      rw [← perm.length_eq, List.length_map, count]
    rw [List.map_map, List.map_map, clones, scans, List.map_take, List.map_drop, List.map_take, List.map_drop]
    refine page_eq perm first least ?_ ?_ ?_
    · rw [length]
      exact may.single
    · rw [List.length_map]
    · rw [List.length_map]
  rw [memory, table]
  exact congrArg₂ (fun orders total => Except.ok (Answer.page orders total)) page count

end

/-! ## Runs -/

theorem Simulates.step {uuid : UUIDText} (laws : uuid.Lawful) {w : World} (h : Simulates uuid w.memory w.db) {a : Act}
    (may : Permitted uuid w a) :
    SameReply uuid w a ∧ Simulates uuid (step uuid w a).memory (step uuid w a).db := by
  obtain ⟨committed, reload, may⟩ := may
  obtain ⟨call, env, ties, now, walk⟩ := a
  have query {A : Type} (x : Except RepositoryError A) : env.query x = x := by
    rw [Env.query, committed]
  unfold SameReply memory postgres Repository.step memory postgres
  cases call with
  | createOrder order event =>
    obtain ⟨done, done', after⟩ := h.createOrder laws committed may
    exact ⟨by simp only [done, done'], after⟩
  | getOrder orderID =>
    simp only [query]
    exact ⟨h.getOrder laws may, h⟩
  | getOrderByCartID cartID =>
    simp only [query]
    exact ⟨h.getOrderByCartID laws may, h⟩
  | getOrderByIdempotencyKey cartID key =>
    simp only [query]
    exact ⟨h.getOrderByIdempotencyKey laws may key, h⟩
  | listOrders filter =>
    simp only [query]
    exact ⟨h.listOrders walk ties may, h⟩
  | updateOrderStatus orderID status event => exact h.updateOrderStatus laws committed reload now may
  | markPaid orderID paidAt event => exact h.markPaid laws committed reload now may
  | markFulfilled orderID fulfilledBy fulfilledAt event => exact h.markFulfilled laws committed reload now may

/-- Both repositories without orders, Postgres with these tables. -/
def World.on (tables : Tables) : World := { db := { tables } }

theorem simulates_on (uuid : UUIDText) {tables : Tables} (complete : tables.Complete) :
    Simulates uuid (World.on tables).memory (World.on tables).db where
  tables := complete
  orders := rfl
  carts := fun _ => rfl
  keys := fun _ _ _ => rfl
  scopes := fun _ h => absurd h List.not_mem_nil
  outbox := rfl
  checked := fun _ h => absurd h List.not_mem_nil

namespace Twice

def env : Env := ⟨Counter.env.now, .committed, none⟩

def order (orderID orderNumber : String) : Order String where
  orderID
  storeID := "00000000-0000-0000-0000-000000000002"
  kioskID := "00000000-0000-0000-0000-000000000003"
  cartID := "00000000-0000-0000-0000-000000000001"
  orderNumber
  status := "pending"
  subtotalCents := 1000
  taxCents := 80
  discountCents := 0
  totalCents := 1080
  currency := "USD"
  items := []
  taxBreakdown := []
  metadata := none
  idempotencyKey := "key"
  paidAt := none
  fulfilledAt := none
  cancelledAt := none
  createdAt := env.now
  updatedAt := env.now

def created (orderID orderNumber eventID : String) : Act where
  call := .createOrder (order orderID orderNumber) ⟨eventID, "astra.order.created.v1", .null, 0⟩
  env
  ties := .none _
  now := env.now
  walk := .none _

def first : Act :=
  created "00000000-0000-0000-0000-000000000004" "A-001-0428" "00000000-0000-0000-0000-000000000005"

/-- Another order of the same cart. -/
def second : Act :=
  created "00000000-0000-0000-0000-000000000006" "A-001-0429" "00000000-0000-0000-0000-000000000007"

end Twice

end OrderService.Repository
