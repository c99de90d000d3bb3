import AstraSystem.CartService.Cart
import AstraSystem.Lib.Table
import AstraSystem.Lib.UUID

/-!
# The cart repository (`repository/cart_repository.go`)

The tables are those of `001_schema.sql`. Other services' tables, the clock of
the database, fresh ids and the order of rows that tie come with a call. The
modifiers' JSON is read back as it was written.
-/

namespace CartService

/-- A `timestamptz`, in microseconds. -/
abbrev Timestamp := ℤ

def Time.timestamp (t : Time) : Timestamp := t / 1000

def Timestamp.time (t : Timestamp) : Time := t * 1000

structure CartRow where
  cartID : UUID
  storeID : UUID
  kioskID : UUID
  sessionID : UUID
  customerPhone : Option String
  status : CartStatus
  finalized : Bool
  version : Int32
  totalCents : Int32
  taxCents : Int32
  discountCents : Int32
  finalTotalCents : Int32
  reservedInventory : Bool
  expiresAt : Timestamp
  createdAt : Timestamp
  updatedAt : Timestamp
  createdAtMs : Int64
  updatedAtMs : Int64
  deriving DecidableEq, Repr

structure LineRow where
  lineID : UUID
  cartID : UUID
  menuItemID : UUID
  nameSnapshot : String
  unitPriceCentsSnapshot : Int32
  quantity : Int32
  modifiers : List Modifier
  addedAtMs : Int64
  deriving DecidableEq, Repr

/-- The payloads of `outbox/events.go`. -/
inductive Payload where
  | itemAddedToCart (cartID itemID nameSnapshot : String) (quantity : Int32)
      (unitPriceCentsSnapshot : Int64)
  | cartFinalized (cartID orderID : String) (finalTotalCents : Int64) (currency : String)
  deriving DecidableEq, Repr

structure Entry where
  eventID : String
  aggregateType : String
  aggregateID : String
  eventType : String
  payload : Payload
  occurredAtMs : Int64
  deriving DecidableEq, Repr

structure OutboxRow where
  eventID : UUID
  aggregateType : String
  aggregateID : UUID
  eventType : String
  payload : Payload
  occurredAtMs : Int64
  deriving DecidableEq, Repr

structure DB where
  carts : Table CartRow UUID CartRow.cartID := .empty
  lines : Table LineRow UUID LineRow.lineID := .empty
  outbox : Table OutboxRow UUID OutboxRow.eventID := .empty

/-- What other tables hold: the keys that carts and lines refer to, and the carts that orders and
reservations refer to. -/
structure Others where
  stores : List UUID
  kiosks : List UUID
  items : List UUID
  referenced : List UUID := []

inductive RepositoryError where
  | cartNotFound
  | versionConflict
  | failed (msg : String)
  deriving DecidableEq, Repr

def RepositoryError.error : RepositoryError → String
  | .cartNotFound => "cart: not found"
  | .versionConflict => "cart: optimistic locking conflict"
  | .failed msg => msg

/-- An error of the database, behind the words of the statement that failed. -/
def wrap (what err : String) : RepositoryError := .failed s!"cart_repository: {what}: {err}"

/-! ## Columns -/

def int4 (x : Int64) : Except String Int32 :=
  if -2 ^ 31 ≤ x.toInt ∧ x.toInt < 2 ^ 31 then .ok x.toInt32 else .error "integer out of range"

/-- Text holds no zero character. -/
def storable (s : String) : Bool := !s.toList.contains (Char.ofNat 0)

/-- Of text that is too long, spaces at the end are cut. -/
def varchar (n : ℕ) (s : String) : Except String String :=
  if !storable s then .error "invalid byte sequence for encoding"
  else if s.length ≤ n then .ok s
  else if (s.toList.drop n).all (· = ' ') then .ok (String.ofList (s.toList.take n))
  else .error "value too long"

def jsonb (modifiers : List Modifier) : Except String (List Modifier) :=
  if modifiers.all fun m =>
      storable m.modifierOptionID && storable m.nameSnapshot && storable m.modifierGroupID then
    .ok modifiers
  else .error "unsupported Unicode escape sequence"

def sqlNullString (s : String) : Option String := if s = "" then none else some s

/-- A null phone stays null. -/
def phoneColumn (s : String) : Except String (Option String) :=
  match sqlNullString s with
  | none => .ok none
  | some s => (varchar 16 s).map some

section
variable (uuid : UUIDText)

/-- The parameters of a statement that writes a cart. -/
def Cart.row (c : Cart) : Except String CartRow := do
  let cartID ← uuid.parse c.cartID
  let storeID ← uuid.parse c.storeID
  let kioskID ← uuid.parse c.kioskID
  let sessionID ← uuid.parse c.sessionID
  let customerPhone ← phoneColumn c.customerPhone
  let version ← int4 c.version
  let totalCents ← int4 c.totalCents
  let taxCents ← int4 c.taxCents
  let discountCents ← int4 c.discountCents
  let finalTotalCents ← int4 c.finalTotalCents
  pure {
    cartID, storeID, kioskID, sessionID, customerPhone, version, totalCents, taxCents,
    discountCents, finalTotalCents
    status := c.status
    finalized := c.finalized
    reservedInventory := c.reservedInventory
    expiresAt := c.expiresAt.timestamp
    createdAt := c.createdAt.timestamp
    updatedAt := c.updatedAt.timestamp
    createdAtMs := c.createdAtMs
    updatedAtMs := c.updatedAtMs }

/-- A line without an id gets a new one. -/
def Line.newLineID (l : Line) (newID : UUID) : Except String UUID :=
  if l.lineID = "" then .ok newID else uuid.parse l.lineID

/-- The parameters of the statement that writes a line of a cart. -/
def Line.row (l : Line) (cartID : UUID) (newID : UUID) : Except String LineRow := do
  let lineID ← l.newLineID uuid newID
  let menuItemID ← uuid.parse l.menuItemID
  let nameSnapshot ← varchar 255 l.nameSnapshot
  let unitPriceCentsSnapshot ← int4 l.unitPriceCentsSnapshot
  let quantity ← int4 l.quantity
  let modifiers ← jsonb l.modifiers
  pure {
    lineID, cartID, menuItemID, nameSnapshot, unitPriceCentsSnapshot, quantity, modifiers
    addedAtMs := l.addedAtMs }

/-- A cart as `GetCart` scans it; no column holds the lane. -/
def CartRow.cart (r : CartRow) (lines : List Line) : Cart where
  cartID := uuid.string r.cartID
  storeID := uuid.string r.storeID
  kioskID := uuid.string r.kioskID
  laneID := ""
  sessionID := uuid.string r.sessionID
  customerPhone := r.customerPhone.getD ""
  status := r.status
  finalized := r.finalized
  version := r.version.toInt64
  totalCents := r.totalCents.toInt64
  taxCents := r.taxCents.toInt64
  discountCents := r.discountCents.toInt64
  finalTotalCents := r.finalTotalCents.toInt64
  lines := lines
  reservedInventory := r.reservedInventory
  expiresAt := r.expiresAt.time
  createdAt := r.createdAt.time
  updatedAt := r.updatedAt.time
  createdAtMs := r.createdAtMs
  updatedAtMs := r.updatedAtMs

def LineRow.line (r : LineRow) : Line where
  cartID := uuid.string r.cartID
  lineID := uuid.string r.lineID
  menuItemID := uuid.string r.menuItemID
  nameSnapshot := r.nameSnapshot
  unitPriceCentsSnapshot := r.unitPriceCentsSnapshot.toInt64
  quantity := r.quantity.toInt64
  modifiers := r.modifiers
  addedAtMs := r.addedAtMs

end

/-- The trigger that keeps the status and the flag in step. -/
def CartRow.sync (r : CartRow) : CartRow :=
  if r.finalized = true ∧ r.status ≠ .finalized then { r with status := .finalized }
  else if r.status = .finalized ∧ r.finalized = false then { r with finalized := true }
  else r

/-- What an update makes of a row: the creation times stay, and a trigger stamps the row. -/
def CartRow.rewrite (old new : CartRow) (now : Timestamp) : CartRow :=
  { new with
    cartID := old.cartID
    createdAt := old.createdAt
    createdAtMs := old.createdAtMs
    updatedAt := now }.sync

@[simp] theorem CartRow.cartID_sync (r : CartRow) : r.sync.cartID = r.cartID := by
  unfold sync
  split
  · rfl
  · split <;> rfl

@[simp] theorem CartRow.cartID_rewrite (old new : CartRow) (now : Timestamp) :
    (old.rewrite new now).cartID = old.cartID := cartID_sync _

theorem CartRow.sync_active {r : CartRow} (flag : r.finalized = false) (status : r.status = .active) :
    r.sync = r := by
  simp [sync, flag, status]

/-! ## Statements -/

section
variable (uuid : UUIDText) (db : DB)

def DB.linesOf (cart : UUID) : List LineRow := db.lines.rows.filter fun l => l.cartID = cart

def selectCart (cartID : String) : Except RepositoryError Cart := do
  let id ← (uuid.parse cartID).mapError (wrap "select cart")
  match db.carts.find? id with
  | none => .error .cartNotFound
  | some row => .ok (row.cart uuid [])

/-- `ORDER BY added_at_ms ASC`: lines of one time come in any order. -/
def loadLines (ties : Shuffle LineRow) (cartID : String) : Except RepositoryError (List Line) := do
  let id ← (uuid.parse cartID).mapError (wrap "select lines")
  let rows := (ties.apply (db.linesOf id)).insertionSort fun a b => a.addedAtMs ≤ b.addedAtMs
  pure (rows.map (·.line uuid))

def getCart (ties : Shuffle LineRow) (cartID : String) : Except RepositoryError Cart := do
  let c ← selectCart uuid db cartID
  let lines ← loadLines uuid db ties cartID
  pure { c with lines }

variable (others : Others)

def updateCart (now : Timestamp) (c : Cart) : Except RepositoryError DB := do
  let new ← (c.row uuid).mapError (wrap "update cart")
  let expectedVersion ← (int4 (c.version - 1)).mapError (wrap "update cart")
  match db.carts.find? new.cartID with
  | none => .error .versionConflict
  | some old =>
    if old.version ≠ expectedVersion then .error .versionConflict
    else if (new.storeID = old.storeID ∨ new.storeID ∈ others.stores) ∧
        (new.kioskID = old.kioskID ∨ new.kioskID ∈ others.kiosks) then
      .ok { db with
        carts := db.carts.update
          (fun r => if r.cartID = new.cartID then r.rewrite new now else r)
          fun r => by split <;> simp }
    else .error (wrap "update cart" "violates foreign key constraint")

def insertCart (c : Cart) : Except RepositoryError DB := do
  let new ← (c.row uuid).mapError (wrap "insert cart")
  if (db.carts.find? new.cartID).isSome then .error .versionConflict
  else if new.storeID ∈ others.stores ∧ new.kioskID ∈ others.kiosks then
    .ok { db with carts := db.carts.upsert (fun _ new => new) (fun _ _ => rfl) new.sync }
  else .error (wrap "insert cart" "violates foreign key constraint")

def deleteLines (cart : UUID) : DB := { db with lines := db.lines.delete (·.cartID = cart) }

def insertLine (cart newID : UUID) (l : Line) : Except RepositoryError DB := do
  let row ← (l.row uuid cart newID).mapError (wrap "insert line")
  if row.quantity ≤ 0 then .error (wrap "insert line" "violates check constraint")
  else if (db.lines.find? row.lineID).isSome then
    .error (wrap "insert line" "duplicate key value violates unique constraint")
  else if (db.carts.find? cart).isSome ∧ row.menuItemID ∈ others.items then
    .ok { db with lines := db.lines.upsert (fun _ new => new) (fun _ _ => rfl) row }
  else .error (wrap "insert line" "violates foreign key constraint")

/-- `ON CONFLICT (event_id) DO NOTHING`. -/
def insertWithinTx (e : Entry) : Except RepositoryError DB := do
  let eventID ← (uuid.parse e.eventID).mapError (wrap "insert outbox: outbox: insert within tx")
  let aggregateID ← (uuid.parse e.aggregateID).mapError
    (wrap "insert outbox: outbox: insert within tx")
  match db.outbox.find? eventID with
  | some _ => pure db
  | none => pure { db with
      outbox := db.outbox.upsert (fun _ new => new) (fun _ _ => rfl) {
        eventID, aggregateID
        aggregateType := e.aggregateType
        eventType := e.eventType
        payload := e.payload
        occurredAtMs := e.occurredAtMs } }

/-- The lines of `replaceLines`, one after another. -/
def insertLines (cart : UUID) (newIDs : ℕ → UUID) : DB → ℕ → List Line → Except RepositoryError DB
  | db, _, [] => .ok db
  | db, k, l :: lines => do
    let db ← insertLine uuid db others cart (newIDs k) l
    insertLines cart newIDs db (k + 1) lines

def replaceLines (newIDs : ℕ → UUID) (c : Cart) : Except RepositoryError DB := do
  let cart ← (uuid.parse c.cartID).mapError (wrap "delete lines")
  insertLines uuid others cart newIDs (deleteLines db cart) 0 c.lines

/-! ## Transactions -/

def createCart (newIDs : ℕ → UUID) (c : Cart) : Except RepositoryError DB := do
  let db ← insertCart uuid db others c
  replaceLines uuid db others newIDs c

def saveCart (now : Timestamp) (newIDs : ℕ → UUID) (c : Cart) (event : Option Entry) :
    Except RepositoryError DB := do
  let db ← updateCart uuid db others now c
  let db ← replaceLines uuid db others newIDs c
  match event with
  | none => pure db
  | some e => insertWithinTx uuid db e

/-- The lines go with the cart; what other tables refer to stays. -/
def deleteCart (cartID : String) : Except RepositoryError DB := do
  let id ← (uuid.parse cartID).mapError (wrap "delete cart")
  if (db.carts.find? id).isSome ∧ id ∈ others.referenced then
    .error (wrap "delete cart" "violates foreign key constraint")
  else pure { db with carts := db.carts.delete (·.cartID = id), lines := db.lines.delete (·.cartID = id) }

end

/-! ## What they do -/

theorem int4_eq_ok {x : Int64} {y : Int32} (h : int4 x = .ok y) : y.toInt = x.toInt := by
  unfold int4 at h
  split at h
  · rename_i fits
    cases h
    rw [Int64.toInt_toInt32]
    exact Int.bmod_eq_of_le (by omega) (by omega)
  · cases h

theorem toInt64_of_int4 {x : Int64} {y : Int32} (h : int4 x = .ok y) : y.toInt64 = x := by
  rw [← Int64.toInt_inj, Int32.toInt_toInt64]
  exact int4_eq_ok h

theorem int4_accepts {x : Int64} (low : -2 ^ 31 ≤ x.toInt) (high : x.toInt < 2 ^ 31) :
    ∃ y, int4 x = .ok y :=
  ⟨x.toInt32, if_pos ⟨low, high⟩⟩

@[simp] theorem int4_toInt64 (y : Int32) : int4 y.toInt64 = .ok y := by
  have low := y.le_toInt
  have high := y.toInt_lt
  rw [int4, if_pos]
  · rw [Int32.toInt32_toInt64]
  · rw [Int32.toInt_toInt64]
    exact ⟨low, high⟩

namespace DB

variable {db : DB} {cart id : UUID}

theorem mem_linesOf {l : LineRow} : l ∈ db.linesOf cart ↔ l ∈ db.lines.rows ∧ l.cartID = cart := by
  simp [linesOf]

end DB

section
variable {uuid : UUIDText} {db db' : DB} {others : Others} {c : Cart} {ties : Shuffle LineRow}

/-- The stored row of a cart, with its lines in some order. -/
structure Stored (uuid : UUIDText) (db : DB) (row : CartRow) (c : Cart) : Prop where
  found : db.carts.find? row.cartID = some row
  loaded : ∃ rows : List LineRow, rows.Perm (db.linesOf row.cartID) ∧
    c = row.cart uuid (rows.map (·.line uuid))

/-- What `GetCart` returns is stored. -/
theorem getCart_eq_ok {cartID : String} (h : getCart uuid db ties cartID = .ok c) :
    ∃ row : CartRow, uuid.parse cartID = .ok row.cartID ∧ Stored uuid db row c := by
  obtain ⟨base, hbase, h⟩ := Statement.bind_eq_ok.mp h
  obtain ⟨lines, hlines, h⟩ := Statement.bind_eq_ok.mp h
  obtain ⟨id, parsed, hbase⟩ := Statement.bind_eq_ok.mp hbase
  obtain ⟨id', parsed', hlines⟩ := Statement.bind_eq_ok.mp hlines
  have parsed := Statement.mapError_eq_ok.mp parsed
  rw [Statement.mapError_eq_ok, parsed] at parsed'
  obtain rfl := Except.ok.inj parsed'
  split at hbase
  · cases hbase
  · rename_i row found
    cases hbase
    cases hlines
    cases h
    obtain ⟨-, rfl⟩ := Table.find?_eq_some.mp found
    exact ⟨row, parsed, found, _, (List.perm_insertionSort _ _).trans (ties.perm _), rfl⟩

/-- The rows of the lines that a cart is saved with. -/
def Written (uuid : UUIDText) (cart : UUID) (lines : List Line) (rows : List LineRow) : Prop :=
  List.Forall₂ (fun l r => 0 < r.quantity ∧ ∃ newID, l.row uuid cart newID = .ok r) lines rows

/-- The row of a line has its columns from the line. -/
theorem line_row_eq_ok {l : Line} {cart newID : UUID} {r : LineRow}
    (h : l.row uuid cart newID = .ok r) :
    l.newLineID uuid newID = .ok r.lineID ∧ r.cartID = cart ∧
      uuid.parse l.menuItemID = .ok r.menuItemID ∧ r.quantity.toInt = l.quantity.toInt ∧
      jsonb l.modifiers = .ok r.modifiers := by
  obtain ⟨_, lineID, h⟩ := Statement.bind_eq_ok.mp h
  obtain ⟨_, menuItemID, h⟩ := Statement.bind_eq_ok.mp h
  obtain ⟨_, -, h⟩ := Statement.bind_eq_ok.mp h
  obtain ⟨_, -, h⟩ := Statement.bind_eq_ok.mp h
  obtain ⟨_, quantity, h⟩ := Statement.bind_eq_ok.mp h
  obtain ⟨_, modifiers, h⟩ := Statement.bind_eq_ok.mp h
  cases h
  exact ⟨lineID, rfl, menuItemID, int4_eq_ok quantity, modifiers⟩

theorem Written.cartID {cart : UUID} {lines : List Line} {rows : List LineRow}
    (h : Written uuid cart lines rows) : ∀ r ∈ rows, r.cartID = cart := by
  induction h with
  | nil => exact fun _ hr => absurd hr List.not_mem_nil
  | cons first _ ih =>
    intro r hr
    rcases List.mem_cons.mp hr with rfl | hr
    · exact (line_row_eq_ok first.2.choose_spec).2.1
    · exact ih r hr

theorem insertLine_eq_ok {cart newID : UUID} {l : Line}
    (h : insertLine uuid db others cart newID l = .ok db') :
    ∃ r, 0 < r.quantity ∧ l.row uuid cart newID = .ok r ∧ db'.carts = db.carts ∧
      db'.outbox = db.outbox ∧ db'.lines.rows = db.lines.rows ++ [r] := by
  obtain ⟨r, hr, h⟩ := Statement.bind_eq_ok.mp h
  have hr := Statement.mapError_eq_ok.mp hr
  split at h
  · cases h
  · rename_i positive
    split at h
    · cases h
    · rename_i fresh
      split at h
      · cases h
        have absent : db.lines.find? r.lineID = none := by simpa using fresh
        exact ⟨r, Int32.not_le.mp positive, hr, rfl, rfl, Table.rows_upsert_of_none absent⟩
      · cases h

theorem insertLines_eq_ok {cart : UUID} {newIDs : ℕ → UUID} {k : ℕ} {lines : List Line}
    (h : insertLines uuid others cart newIDs db k lines = .ok db') :
    ∃ rows, Written uuid cart lines rows ∧ db'.carts = db.carts ∧ db'.outbox = db.outbox ∧
      db'.lines.rows = db.lines.rows ++ rows := by
  induction lines generalizing db k with
  | nil =>
    cases h
    exact ⟨[], .nil, rfl, rfl, (List.append_nil _).symm⟩
  | cons l lines ih =>
    obtain ⟨db₁, hinsert, h⟩ := Statement.bind_eq_ok.mp h
    obtain ⟨r, positive, hr, carts, outbox, first⟩ := insertLine_eq_ok hinsert
    obtain ⟨rows, written, carts', outbox', rest⟩ := ih h
    refine ⟨r :: rows, .cons ⟨positive, _, hr⟩ written, carts'.trans carts, outbox'.trans outbox, ?_⟩
    rw [rest, first, List.append_assoc]
    rfl

theorem insertWithinTx_eq_ok {e : Entry} (h : insertWithinTx uuid db e = .ok db') :
    db'.carts = db.carts ∧ db'.lines = db.lines := by
  obtain ⟨_, -, h⟩ := Statement.bind_eq_ok.mp h
  obtain ⟨_, -, h⟩ := Statement.bind_eq_ok.mp h
  split at h <;> cases h <;> exact ⟨rfl, rfl⟩

theorem row_eq_ok {new : CartRow} (h : c.row uuid = .ok new) :
    uuid.parse c.cartID = .ok new.cartID ∧ new.version.toInt = c.version.toInt ∧
      new.finalized = c.finalized ∧ new.status = c.status := by
  obtain ⟨_, cartID, h⟩ := Statement.bind_eq_ok.mp h
  obtain ⟨_, -, h⟩ := Statement.bind_eq_ok.mp h
  obtain ⟨_, -, h⟩ := Statement.bind_eq_ok.mp h
  obtain ⟨_, -, h⟩ := Statement.bind_eq_ok.mp h
  obtain ⟨_, -, h⟩ := Statement.bind_eq_ok.mp h
  obtain ⟨_, version, h⟩ := Statement.bind_eq_ok.mp h
  obtain ⟨_, -, h⟩ := Statement.bind_eq_ok.mp h
  obtain ⟨_, -, h⟩ := Statement.bind_eq_ok.mp h
  obtain ⟨_, -, h⟩ := Statement.bind_eq_ok.mp h
  obtain ⟨_, -, h⟩ := Statement.bind_eq_ok.mp h
  cases h
  exact ⟨cartID, int4_eq_ok version, rfl, rfl⟩

/-- The amounts of a row are those of the cart. -/
theorem amounts_of_row {new : CartRow} (h : c.row uuid = .ok new) :
    new.version.toInt64 = c.version ∧ new.totalCents.toInt64 = c.totalCents ∧
      new.taxCents.toInt64 = c.taxCents ∧ new.discountCents.toInt64 = c.discountCents ∧
      new.finalTotalCents.toInt64 = c.finalTotalCents := by
  obtain ⟨_, -, h⟩ := Statement.bind_eq_ok.mp h
  obtain ⟨_, -, h⟩ := Statement.bind_eq_ok.mp h
  obtain ⟨_, -, h⟩ := Statement.bind_eq_ok.mp h
  obtain ⟨_, -, h⟩ := Statement.bind_eq_ok.mp h
  obtain ⟨_, -, h⟩ := Statement.bind_eq_ok.mp h
  obtain ⟨_, version, h⟩ := Statement.bind_eq_ok.mp h
  obtain ⟨_, total, h⟩ := Statement.bind_eq_ok.mp h
  obtain ⟨_, tax, h⟩ := Statement.bind_eq_ok.mp h
  obtain ⟨_, discount, h⟩ := Statement.bind_eq_ok.mp h
  obtain ⟨_, final, h⟩ := Statement.bind_eq_ok.mp h
  cases h
  exact ⟨toInt64_of_int4 version, toInt64_of_int4 total, toInt64_of_int4 tax,
    toInt64_of_int4 discount, toInt64_of_int4 final⟩

/-- What the optimistic update writes: the row of the cart, at the next version. -/
theorem updateCart_eq_ok {now : Timestamp} (h : updateCart uuid db others now c = .ok db') :
    ∃ new old, c.row uuid = .ok new ∧ db.carts.find? new.cartID = some old ∧
      c.version.toInt = old.version.toInt + 1 ∧ db'.lines = db.lines ∧ db'.outbox = db.outbox ∧
      ∀ id, db'.carts.find? id =
        if id = new.cartID then some (old.rewrite new now) else db.carts.find? id := by
  obtain ⟨new, hnew, h⟩ := Statement.bind_eq_ok.mp h
  obtain ⟨expected, hexpected, h⟩ := Statement.bind_eq_ok.mp h
  have hnew := Statement.mapError_eq_ok.mp hnew
  have hexpected := int4_eq_ok (Statement.mapError_eq_ok.mp hexpected)
  split at h
  · cases h
  · rename_i old found
    split at h
    · cases h
    · rename_i same
      split at h
      · cases h
        refine ⟨new, old, hnew, found, ?_, rfl, rfl, ?_⟩
        · have least := old.version.le_toInt
          have most := old.version.toInt_lt
          rw [← not_not.mp same] at hexpected
          have next : c.version.toInt = ((c.version - 1).toInt + (1 : Int64).toInt).bmod (2 ^ 64) := by
            rw [← Int64.toInt_add, Int64.sub_add_cancel]
          rw [next, ← hexpected, Int64.toInt_one]
          exact Int.bmod_eq_of_le (by omega) (by omega)
        · intro id
          rw [Table.find?_update]
          split
          · rename_i own
            subst own
            rw [found, Option.map_some, if_pos (Table.find?_eq_some.mp found).2]
          · rename_i other
            cases hid : db.carts.find? id with
            | none => rfl
            | some r =>
              rw [Option.map_some, if_neg]
              rw [(Table.find?_eq_some.mp hid).2]
              exact other
      · cases h

theorem replaceLines_eq_ok {newIDs : ℕ → UUID} {cart : UUID} (parsed : uuid.parse c.cartID = .ok cart)
    (h : replaceLines uuid db others newIDs c = .ok db') :
    ∃ rows, Written uuid cart c.lines rows ∧ db'.carts = db.carts ∧ db'.outbox = db.outbox ∧
      db'.lines.rows = (db.lines.delete (·.cartID = cart)).rows ++ rows := by
  obtain ⟨id, hid, h⟩ := Statement.bind_eq_ok.mp h
  rw [Statement.mapError_eq_ok, parsed] at hid
  obtain rfl := Except.ok.inj hid
  exact insertLines_eq_ok h

/-- What a save that succeeds leaves in the tables. -/
structure Saved (uuid : UUIDText) (now : Timestamp) (db : DB) (c : Cart) (db' : DB)
    (new old : CartRow) (rows : List LineRow) : Prop where
  params : c.row uuid = .ok new
  found : db.carts.find? new.cartID = some old
  version : c.version.toInt = old.version.toInt + 1
  written : Written uuid new.cartID c.lines rows
  carts : ∀ id, db'.carts.find? id =
    if id = new.cartID then some (old.rewrite new now) else db.carts.find? id
  lines : db'.lines.rows = (db.lines.delete (·.cartID = new.cartID)).rows ++ rows

theorem saveCart_eq_ok {now : Timestamp} {newIDs : ℕ → UUID} {event : Option Entry}
    (h : saveCart uuid db others now newIDs c event = .ok db') :
    ∃ new old rows, Saved uuid now db c db' new old rows := by
  obtain ⟨db₁, hupdate, h⟩ := Statement.bind_eq_ok.mp h
  obtain ⟨db₂, hreplace, h⟩ := Statement.bind_eq_ok.mp h
  obtain ⟨new, old, hnew, found, version, lines, -, carts⟩ := updateCart_eq_ok hupdate
  obtain ⟨rows, written, same, -, replaced⟩ := replaceLines_eq_ok (row_eq_ok hnew).1 hreplace
  have rest : db'.carts = db₂.carts ∧ db'.lines = db₂.lines := by
    cases event with
    | none =>
      cases h
      exact ⟨rfl, rfl⟩
    | some e => exact insertWithinTx_eq_ok h
  refine ⟨new, old, rows, hnew, found, version, written, ?_, ?_⟩
  · rw [rest.1, same]
    exact carts
  · rw [rest.2, replaced, lines]

/-- Replacing the lines of a cart leaves those of others. -/
theorem linesOf_replaced {cart : UUID} {rows : List LineRow} (own : ∀ r ∈ rows, r.cartID = cart)
    (h : db'.lines.rows = (db.lines.delete (·.cartID = cart)).rows ++ rows) (id : UUID) :
    db'.linesOf id = if id = cart then rows else db.linesOf id := by
  rw [DB.linesOf, h, List.filter_append]
  show ((db.lines.rows.filter fun l => !decide (l.cartID = cart)).filter _) ++ _ = _
  rw [List.filter_filter]
  split
  · rename_i same
    subst same
    rw [List.filter_eq_nil_iff.mpr, List.filter_eq_self.mpr, List.nil_append]
    · intro r hr
      simpa using own r hr
    · intro r hr
      simp
  · rename_i other
    rw [List.filter_eq_nil_iff (l := rows) |>.mpr, List.append_nil, DB.linesOf]
    · refine List.filter_congr fun r _ => ?_
      by_cases hid : r.cartID = id
      · simp [hid, other]
      · simp [hid]
    · intro r hr
      simpa [own r hr] using fun h => other h.symm

theorem Saved.linesOf {now : Timestamp} {new old : CartRow} {rows : List LineRow}
    (h : Saved uuid now db c db' new old rows) (id : UUID) :
    db'.linesOf id = if id = new.cartID then rows else db.linesOf id :=
  linesOf_replaced h.written.cartID h.lines id

/-- What the creation of a cart leaves in the tables. -/
structure Created (uuid : UUIDText) (db : DB) (c : Cart) (db' : DB) (new : CartRow)
    (rows : List LineRow) : Prop where
  params : c.row uuid = .ok new
  absent : db.carts.find? new.cartID = none
  written : Written uuid new.cartID c.lines rows
  carts : ∀ id, db'.carts.find? id = if id = new.cartID then some new.sync else db.carts.find? id
  lines : db'.lines.rows = (db.lines.delete (·.cartID = new.cartID)).rows ++ rows

theorem createCart_eq_ok {newIDs : ℕ → UUID} (h : createCart uuid db others newIDs c = .ok db') :
    ∃ new rows, Created uuid db c db' new rows := by
  obtain ⟨db₁, hinsert, h⟩ := Statement.bind_eq_ok.mp h
  obtain ⟨new, hnew, hinsert⟩ := Statement.bind_eq_ok.mp hinsert
  have hnew := Statement.mapError_eq_ok.mp hnew
  split at hinsert
  · cases hinsert
  · rename_i absent
    split at hinsert
    · cases hinsert
      have absent : db.carts.find? new.cartID = none := by simpa using absent
      obtain ⟨rows, written, carts, -, replaced⟩ := replaceLines_eq_ok (row_eq_ok hnew).1 h
      refine ⟨new, rows, hnew, absent, written, fun id => ?_, replaced⟩
      rw [carts]
      split
      · rename_i own
        subst own
        have none : db.carts.find? new.sync.cartID = none := by rwa [CartRow.cartID_sync]
        rw [← CartRow.cartID_sync new]
        exact Table.find?_upsert_self none
      · rename_i other
        exact Table.find?_upsert_of_ne (by rwa [CartRow.cartID_sync])
    · cases hinsert

theorem Created.linesOf {new : CartRow} {rows : List LineRow} (h : Created uuid db c db' new rows)
    (id : UUID) : db'.linesOf id = if id = new.cartID then rows else db.linesOf id :=
  linesOf_replaced h.written.cartID h.lines id

theorem deleteCart_eq_ok {cartID : String} (h : deleteCart uuid db others cartID = .ok db') :
    ∃ id, uuid.parse cartID = .ok id ∧ ((db.carts.find? id).isSome → id ∉ others.referenced) ∧
      db' = { db with
        carts := db.carts.delete (·.cartID = id), lines := db.lines.delete (·.cartID = id) } := by
  obtain ⟨id, parsed, h⟩ := Statement.bind_eq_ok.mp h
  split at h
  · cases h
  · rename_i free
    cases h
    exact ⟨id, Statement.mapError_eq_ok.mp parsed, not_and.mp free, rfl⟩

theorem linesOf_delete_self (id : UUID) :
    ({ db with
      carts := db.carts.delete (·.cartID = id)
      lines := db.lines.delete (·.cartID = id) } : DB).linesOf id = [] := by
  refine List.filter_eq_nil_iff.mpr fun l hl => ?_
  exact (Table.mem_delete.mp hl).2 ▸ Bool.false_ne_true

/-- Deleting a cart leaves the lines of others. -/
theorem linesOf_delete {id other : UUID} (ne : other ≠ id) :
    ({ db with
      carts := db.carts.delete (·.cartID = id)
      lines := db.lines.delete (·.cartID = id) } : DB).linesOf other = db.linesOf other := by
  show ((db.lines.rows.filter fun l => !decide (l.cartID = id)).filter _) = _
  rw [List.filter_filter, DB.linesOf]
  refine List.filter_congr fun r _ => ?_
  by_cases hid : r.cartID = other
  · simp [hid, ne]
  · simp [hid]

/-! ## The schema -/

/-- Lines are of carts that exist, and of positive quantities. -/
structure DB.Valid (db : DB) : Prop where
  owned : ∀ l ∈ db.lines.rows, ∃ row, db.carts.find? l.cartID = some row
  positive : ∀ l ∈ db.lines.rows, 0 < l.quantity

theorem Written.positive {cart : UUID} {lines : List Line} {rows : List LineRow}
    (h : Written uuid cart lines rows) : ∀ r ∈ rows, 0 < r.quantity := by
  induction h with
  | nil => exact fun _ hr => absurd hr List.not_mem_nil
  | cons first _ ih =>
    intro r hr
    rcases List.mem_cons.mp hr with rfl | hr
    · exact first.1
    · exact ih r hr

/-- A cart whose row stays, or comes, may have its lines replaced. -/
theorem DB.Valid.replaced {cart : UUID} {lines : List Line} {rows : List LineRow} (valid : db.Valid)
    (written : Written uuid cart lines rows) (present : ∃ row, db'.carts.find? cart = some row)
    (others : ∀ id ≠ cart, db'.carts.find? id = db.carts.find? id)
    (replaced : db'.lines.rows = (db.lines.delete (·.cartID = cart)).rows ++ rows) : db'.Valid := by
  constructor
  · intro l hl
    rw [replaced] at hl
    rcases List.mem_append.mp hl with old | new
    · obtain ⟨mem, other⟩ := Table.mem_delete.mp old
      rw [others _ (of_decide_eq_false other)]
      exact valid.owned l mem
    · rw [written.cartID l new]
      exact present
  · intro l hl
    rw [replaced] at hl
    rcases List.mem_append.mp hl with old | new
    · exact valid.positive l (Table.mem_delete.mp old).1
    · exact written.positive l new

theorem Saved.valid {now : Timestamp} {new old : CartRow} {rows : List LineRow}
    (h : Saved uuid now db c db' new old rows) (valid : db.Valid) : db'.Valid :=
  valid.replaced h.written ⟨_, (h.carts _).trans (if_pos rfl)⟩
    (fun id other => (h.carts id).trans (if_neg other)) h.lines

theorem Created.valid {new : CartRow} {rows : List LineRow} (h : Created uuid db c db' new rows)
    (valid : db.Valid) : db'.Valid :=
  valid.replaced h.written ⟨_, (h.carts _).trans (if_pos rfl)⟩
    (fun id other => (h.carts id).trans (if_neg other)) h.lines

theorem DB.Valid.delete (valid : db.Valid) (id : UUID) :
    ({ db with
      carts := db.carts.delete (·.cartID = id)
      lines := db.lines.delete (·.cartID = id) } : DB).Valid := by
  constructor
  · intro l hl
    obtain ⟨mem, other⟩ := Table.mem_delete.mp hl
    obtain ⟨row, found⟩ := valid.owned l mem
    exact ⟨row, (Table.find?_delete_of_ne (of_decide_eq_false other)).trans found⟩
  · intro l hl
    exact valid.positive l (Table.mem_delete.mp hl).1

/-- A cart that does not exist has no lines. -/
theorem DB.Valid.linesOf_absent (valid : db.Valid) {id : UUID} (absent : db.carts.find? id = none) :
    db.linesOf id = [] := by
  refine List.filter_eq_nil_iff.mpr fun l hl => ?_
  obtain ⟨row, found⟩ := valid.owned l hl
  intro own
  rw [of_decide_eq_true own, absent] at found
  cases found

/-! ## What they accept -/

theorem updateCart_accepts {now : Timestamp} {new old : CartRow} (params : c.row uuid = .ok new)
    (found : db.carts.find? new.cartID = some old) (version : int4 (c.version - 1) = .ok old.version)
    (store : new.storeID = old.storeID) (kiosk : new.kioskID = old.kioskID) :
    ∃ db', updateCart uuid db others now c = .ok db' := by
  refine Statement.exists_bind (Statement.mapError_eq_ok.mpr params) ?_
  refine Statement.exists_bind (Statement.mapError_eq_ok.mpr version) ?_
  rw [found]
  simp only [ne_eq, not_true_eq_false, ↓reduceIte, store, kiosk, true_or, and_self]
  exact ⟨_, rfl⟩

theorem insertLine_accepts {cart newID : UUID} {l : Line} {r : LineRow}
    (params : l.row uuid cart newID = .ok r) (positive : 0 < r.quantity)
    (fresh : db.lines.find? r.lineID = none) (present : (db.carts.find? cart).isSome)
    (item : r.menuItemID ∈ others.items) :
    ∃ db', insertLine uuid db others cart newID l = .ok db' := by
  refine Statement.exists_bind (Statement.mapError_eq_ok.mpr params) ?_
  rw [if_neg (Int32.not_le.mpr positive), fresh]
  have accepted : (db.carts.find? cart).isSome ∧ r.menuItemID ∈ others.items := ⟨present, item⟩
  simp only [Option.isSome_none, Bool.false_eq_true, ↓reduceIte, accepted, and_self]
  exact ⟨_, rfl⟩

/-- Lines whose ids are new, and different, are inserted. -/
theorem insertLines_accepts {cart : UUID} {newIDs : ℕ → UUID} {lines : List Line}
    {rows : List LineRow}
    (written : List.Forall₂ (fun l r => 0 < r.quantity ∧ r.menuItemID ∈ others.items ∧
      ∀ newID, l.row uuid cart newID = .ok r) lines rows)
    (nodup : (rows.map LineRow.lineID).Nodup) :
    ∀ (db : DB) (k : ℕ), (db.carts.find? cart).isSome →
      (∀ r ∈ rows, db.lines.find? r.lineID = none) →
        ∃ db', insertLines uuid others cart newIDs db k lines = .ok db' := by
  induction written with
  | nil => exact fun db _ _ _ => ⟨db, rfl⟩
  | @cons l r lines rows first _ ih =>
    intro db k present fresh
    obtain ⟨positive, item, params⟩ := first
    obtain ⟨notIn, distinct⟩ := List.nodup_cons.mp nodup
    obtain ⟨db₁, hdb⟩ := insertLine_accepts (params (newIDs k)) positive
      (fresh r List.mem_cons_self) present item
    obtain ⟨r', -, hr', carts, -, added⟩ := insertLine_eq_ok hdb
    obtain rfl : r' = r := Except.ok.inj (hr'.symm.trans (params (newIDs k)))
    refine Statement.exists_bind hdb (ih distinct db₁ (k + 1) (carts ▸ present) fun s hs => ?_)
    rw [Table.find?_eq_none, added]
    intro other hother
    rcases List.mem_append.mp hother with old | new
    · exact Table.find?_eq_none.mp (fresh s (List.mem_cons_of_mem _ hs)) other old
    · rw [List.mem_singleton.mp new]
      exact fun same => notIn (List.mem_map.mpr ⟨s, hs, same.symm⟩)

theorem getCart_accepts {cartID : String} {row : CartRow} (parsed : uuid.parse cartID = .ok row.cartID)
    (found : db.carts.find? row.cartID = some row) : ∃ c, getCart uuid db ties cartID = .ok c := by
  have selected : selectCart uuid db cartID = .ok (row.cart uuid []) := by
    refine Statement.bind_eq_ok.mpr ⟨row.cartID, Statement.mapError_eq_ok.mpr parsed, ?_⟩
    rw [found]
  refine Statement.exists_bind selected ?_
  obtain ⟨lines, loaded⟩ : ∃ lines, loadLines uuid db ties cartID = .ok lines :=
    Statement.exists_bind (Statement.mapError_eq_ok.mpr parsed) ⟨_, rfl⟩
  exact Statement.exists_bind loaded ⟨_, rfl⟩

end

end CartService
