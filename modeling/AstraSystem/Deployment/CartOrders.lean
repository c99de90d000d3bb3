import Mathlib.Data.Multiset.Basic
import AstraSystem.CartService.Service
import AstraSystem.OrderService.Memory

/-!
# Orders and their carts

An order copies what the cart service answers. The answer takes two reads, and the cart may change before, between
and after them.
-/

namespace CartService

/-! ## The answer (`cart/proto.go`) -/

def Line.toProto (l : Line) : OrderService.CartLine where
  menuItemID := l.menuItemID
  nameSnapshot := l.nameSnapshot
  unitPriceCentsSnapshot := l.unitPriceCentsSnapshot
  quantity := l.quantity.toInt32
  modifiers := l.modifiers.map Modifier.modifierOptionID
  lineTotalCents := l.lineTotal

def Cart.toProto (c : Cart) : OrderService.Cart where
  cartID := c.cartID
  storeID := c.storeID
  kioskID := c.kioskID
  totalCents := c.totalCents
  taxCents := c.taxCents
  discountCents := c.discountCents
  finalTotalCents := c.finalTotalCents
  lines := c.lines.map Line.toProto

end CartService

namespace CartOrders

open CartService (CartRow DB LineRow Outcome Saved Written)
open OrderService (Call)
open OrderService.Repository (MemoryRepository Order)
open Runs (run Always EachStep)

/-! ## What a cart and an order have in common -/

structure Item where
  menuItemID : String
  quantity : Int32
  unitPriceCents : Int64
  modifiers : List String
  lineTotalCents : Int64
  deriving DecidableEq

structure Amounts where
  subtotalCents : Int64
  taxCents : Int64
  discountCents : Int64
  totalCents : Int64
  deriving DecidableEq

def Amounts.Balanced (a : Amounts) : Prop := a.totalCents = a.subtotalCents + a.taxCents - a.discountCents

instance decidableBalanced : DecidablePred Amounts.Balanced := fun a =>
  inferInstanceAs (Decidable (a.totalCents = a.subtotalCents + a.taxCents - a.discountCents))

/-- Lines of one time have no order. -/
structure Snapshot where
  amounts : Amounts
  items : Multiset Item
  deriving DecidableEq

def lineItem (l : OrderService.CartLine) : Item :=
  ⟨l.menuItemID, l.quantity, l.unitPriceCentsSnapshot, l.modifiers, l.lineTotalCents⟩

def orderItem (i : OrderService.OrderItem) : Item :=
  ⟨i.itemID, i.quantity, i.priceCentsSnapshot, i.modifierOptionIDs, i.lineTotalCents⟩

def cartAmounts (c : OrderService.Cart) : Amounts := ⟨c.totalCents, c.taxCents, c.discountCents, c.finalTotalCents⟩

def rowAmounts (row : CartRow) : Amounts :=
  ⟨row.totalCents.toInt64, row.taxCents.toInt64, row.discountCents.toInt64, row.finalTotalCents.toInt64⟩

def orderAmounts (o : Order String) : Amounts := ⟨o.subtotalCents, o.taxCents, o.discountCents, o.totalCents⟩

def cartSnapshot (c : OrderService.Cart) : Snapshot := ⟨cartAmounts c, c.lines.map lineItem⟩

def orderSnapshot (o : Order String) : Snapshot := ⟨orderAmounts o, o.items.map orderItem⟩

section
variable (uuid : UUIDText)

def rowItem (r : LineRow) : Item := lineItem (r.line uuid).toProto

/-- A stored cart. -/
def snapshot (db : DB) (id : UUID) : Option Snapshot :=
  (db.carts.find? id).map fun row => ⟨rowAmounts row, (db.linesOf id).map (rowItem uuid)⟩

end

/-! ## Both services -/

/-- How far a call of the order service has got. -/
inductive Phase where
  | idle
  | asking (c : Call)
  /-- The cart service has read the row of the cart. -/
  | selected (c : Call) (cart : CartService.Cart)
  | fetched (c : Call) (cart : OrderService.Cart)

structure World (Tid : Type*) where
  carts : CartService.World
  orders : MemoryRepository := {}
  calls : Tid → Phase := fun _ => .idle

inductive Act (Tid : Type*) where
  | cart (env : CartService.Env) (call : CartService.Call)
  | start (t : Tid) (c : Call)
  | select (t : Tid) (o : Outcome)
  | lines (t : Tid) (o : Outcome) (ties : Shuffle LineRow) (cache : Outcome)
  | create (t : Tid) (env : OrderService.Env) (payload : Json)

/-- The order that `CreateOrder` of the repository is given. -/
def newOrder (order : OrderService.Order String) (idempotencyKey : String) : Order String where
  orderID := order.orderID
  storeID := order.storeID
  kioskID := order.kioskID
  cartID := order.cartID
  orderNumber := order.orderNumber
  status := "pending"
  subtotalCents := order.subtotalCents
  taxCents := order.taxCents
  discountCents := order.discountCents
  totalCents := order.totalCents
  currency := order.currency
  items := order.items
  taxBreakdown := []
  metadata := some []
  idempotencyKey
  paidAt := none
  fulfilledAt := none
  cancelledAt := none
  createdAt := order.createdAt
  updatedAt := order.updatedAt

/-- The order that a call finds before it asks for the cart: of the repository's errors there is only ErrOrderNotFound. -/
def find (m : MemoryRepository) : Call → Option (Order String)
  | .createOrder req key => if key = "" then none else (m.getOrderByIdempotencyKey req.cartID key).toOption
  | .cartFinalized evt => (m.getOrderByCartID evt.cartID).toOption

variable {Tid : Type*} [DecidableEq Tid] (svc : CartService.Service)

namespace World

variable (w : World Tid)

def goto (t : Tid) (phase : Phase) : World Tid := { w with calls := fun t' => if t' = t then phase else w.calls t' }

def start (t : Tid) (c : Call) : World Tid :=
  match w.calls t with
  | .idle => if c.cartID = "" ∨ (find w.orders c).isSome then w else w.goto t (.asking c)
  | _ => w

def select (t : Tid) (o : Outcome) : World Tid :=
  match w.calls t with
  | .asking c =>
    match o.fetch (CartService.selectCart svc.uuid w.carts.db c.cartID) with
    | .ok cart => w.goto t (.selected c cart)
    | .error _ => w.goto t .idle
  | _ => w

def lines (t : Tid) (o : Outcome) (ties : Shuffle LineRow) (cache : Outcome) : World Tid :=
  match w.calls t with
  | .selected c cart =>
    match o.fetch (CartService.loadLines svc.uuid w.carts.db ties c.cartID) with
    | .ok lines =>
      match CartService.Service.cacheSet cache { cart with lines } w.carts with
      | (carts, .ok ()) => { w with carts }.goto t (.fetched c { cart with lines }.toProto)
      | (carts, .error _) => { w with carts }.goto t .idle
    | .error _ => w.goto t .idle
  | _ => w

/-- What is answered after it changes nothing. -/
def create (t : Tid) (env : OrderService.Env) (payload : Json) : World Tid :=
  match w.calls t with
  | .fetched c cart =>
    match c.order svc.uuid env cart with
    | .error _ => w.goto t .idle
    | .ok order =>
      { w with orders := (w.orders.createOrder (newOrder order c.idempotencyKey) {
          eventID := svc.uuid.string env.eventID
          eventType := "astra.order.created.v1"
          payload
          occurredAtMs := order.createdAt.unixNano / 10 ^ 6 }).1 }.goto t .idle
  | _ => w

def step : Act Tid → World Tid
  | .cart env call => { w with carts := svc.step w.carts (env, call) }
  | .start t c => w.start t c
  | .select t o => w.select svc t o
  | .lines t o ties cache => w.lines svc t o ties cache
  | .create t env payload => w.create svc t env payload

omit [DecidableEq Tid]

/-- An order has the items and the total of its cart. -/
def Agrees : Prop := ∀ o ∈ w.orders.orders.rows, ∀ row ∈ w.carts.db.carts.rows,
  svc.uuid.string row.cartID = o.cartID → row.finalized = true →
    snapshot svc.uuid w.carts.db row.cartID = some (orderSnapshot o) ∧ (orderAmounts o).Balanced

/-- A call in progress has read the cart, or it has an order. -/
def Read (id : UUID) : Prop :=
  (∃ t c cart, w.calls t = .selected c cart ∧ cart.cartID = svc.uuid.string id) ∨
    (∃ t c cart, w.calls t = .fetched c cart ∧ cart.cartID = svc.uuid.string id) ∨
      ∃ o ∈ w.orders.orders.rows, o.cartID = svc.uuid.string id

/-- A change that takes effect is of a cart that is not read. -/
def Unread (env : CartService.Env) (cartID : String) : Prop :=
  env.load = .ok → env.save.applies → ∀ row ∈ svc.row w.carts cartID, row.finalized = false → ¬ w.Read svc row.cartID

/-- What is read is not changed, and an event that is read for has the total of its cart. -/
def Spares : Act Tid → Prop
  | .cart env (.addItem req) => w.Unread svc env req.cartID
  | .cart env (.updateItem req) => w.Unread svc env req.cartID
  | .cart env (.removeItem req) => w.Unread svc env req.cartID
  | .cart env (.mergeGhostCart req) => env.load = .ok → env.loadGhost = .ok →
      ∀ target ∈ svc.row w.carts req.targetCartID, ∀ ghost ∈ svc.row w.carts req.ghostCartID,
        (env.save.applies → ¬ w.Read svc target.cartID) ∧
          (env.save = .ok → env.cache = .ok → env.delete.applies → ¬ w.Read svc ghost.cartID)
  | .select t o => o = .ok → ∀ evt, w.calls t = .asking (.cartFinalized evt) → 0 < evt.finalTotalCents →
      ∀ row ∈ svc.row w.carts evt.cartID, evt.finalTotalCents = row.finalTotalCents.toInt64
  | _ => True

end World

/-! ## What the cart service does to a cart -/

section
variable {svc} {uuid : UUIDText} {db db' : DB} {c : CartService.Cart} {new old : CartRow} {rows : List LineRow}
  {now : CartService.Timestamp}

theorem rowAmounts_sync (r : CartRow) : rowAmounts r.sync = rowAmounts r := by
  unfold CartRow.sync
  split
  · rfl
  · split <;> rfl

theorem rowAmounts_rewrite (old new : CartRow) (now : CartService.Timestamp) :
    rowAmounts (old.rewrite new now) = rowAmounts new := rowAmounts_sync _

theorem rowAmounts_of_row (h : c.row uuid = .ok new) : rowAmounts new = cartAmounts c.toProto := by
  obtain ⟨-, total, tax, discount, final⟩ := CartService.amounts_of_row h
  rw [rowAmounts, total, tax, discount, final]
  rfl

/-- A line that is read and written again is the same item. -/
theorem rowItem_of_row (laws : uuid.Lawful) {r r' : LineRow} {cart newID : UUID}
    (h : (r.line uuid).row uuid cart newID = .ok r') : rowItem uuid r' = rowItem uuid r := by
  obtain ⟨_, -, h⟩ := Statement.bind_eq_ok.mp h
  obtain ⟨menuItemID, item, h⟩ := Statement.bind_eq_ok.mp h
  obtain ⟨_, -, h⟩ := Statement.bind_eq_ok.mp h
  obtain ⟨price, priced, h⟩ := Statement.bind_eq_ok.mp h
  obtain ⟨quantity, counted, h⟩ := Statement.bind_eq_ok.mp h
  obtain ⟨modifiers, written, h⟩ := Statement.bind_eq_ok.mp h
  have same : menuItemID = r.menuItemID := Except.ok.inj (item.symm.trans (laws.parse_string _))
  have price_eq := CartService.toInt64_of_int4 priced
  have quantity_eq := CartService.toInt64_of_int4 counted
  have modifiers_eq : modifiers = r.modifiers := by
    unfold CartService.jsonb at written
    split at written <;> cases written
    rfl
  cases h
  simp only [rowItem, lineItem, LineRow.line, CartService.Line.toProto, CartService.Line.lineTotal, same, price_eq,
    quantity_eq, modifiers_eq]

theorem items_of_written (laws : uuid.Lawful) {cart : UUID} {lines : List LineRow}
    (h : Written uuid cart (lines.map (·.line uuid)) rows) : rows.map (rowItem uuid) = lines.map (rowItem uuid) := by
  rw [Written, List.forall₂_map_left_iff] at h
  induction h with
  | nil => rfl
  | cons first _ ih =>
    obtain ⟨-, newID, written⟩ := first
    rw [List.map_cons, List.map_cons, rowItem_of_row laws written, ih]

/-- A save leaves other carts. -/
theorem snapshot_of_saved (saved : Saved uuid now db c db' new old rows) {id : UUID} (other : id ≠ new.cartID) :
    snapshot uuid db' id = snapshot uuid db id := by
  rw [snapshot, snapshot, saved.carts, if_neg other, saved.linesOf, if_neg other]

variable {w : CartService.World} {env : CartService.Env} {o : Outcome} {ties : Shuffle LineRow} {cartID : String}
  {row : CartRow} {event : Option CartService.Entry}

/-- A save of a loaded cart leaves other carts. -/
theorem snapshot_of_loaded (laws : svc.uuid.Lawful) {c₀ : CartService.Cart}
    (loaded : CartService.Service.Loaded svc o ties w cartID row c₀) (same : c.cartID = c₀.cartID)
    (h : CartService.saveCart svc.uuid w.db env.others env.dbNow env.lineIDs c event = .ok db) {id : UUID}
    (other : id ≠ row.cartID) : snapshot svc.uuid db id = snapshot svc.uuid w.db id := by
  obtain ⟨new, old, rows, saved⟩ := CartService.saveCart_eq_ok h
  obtain ⟨own, -⟩ := loaded.of_saved laws same saved
  exact snapshot_of_saved saved (own ▸ other)

theorem amounts_of_finalize {c' : CartService.Cart} {time : CartService.Time} (h : c.finalize time = .ok c') :
    cartAmounts c'.toProto =
      { cartAmounts c.toProto with totalCents := c.totalCents + c.taxCents - c.discountCents } := by
  unfold CartService.Cart.finalize at h
  split at h <;> cases h
  rfl

/-- A cart whose total is balanced keeps it when it is finalized. -/
theorem snapshot_of_finalize (laws : svc.uuid.Lawful) {c₀ : CartService.Cart} {phone : String} {time : CartService.Time}
    (loaded : CartService.Service.Loaded svc o ties w cartID row c₀) (balanced : (rowAmounts row).Balanced)
    (h : (CartService.Service.withPhone c₀ phone).finalize time = .ok c)
    (hdb : CartService.saveCart svc.uuid w.db env.others env.dbNow env.lineIDs c event = .ok db) (id : UUID) :
    snapshot svc.uuid db id = snapshot svc.uuid w.db id := by
  obtain ⟨new, old, rows, saved⟩ := CartService.saveCart_eq_ok hdb
  obtain ⟨lines, perm, loads⟩ := loaded.stored.loaded
  have amounts := (rowAmounts_of_row saved.params).trans (amounts_of_finalize h)
  have kept := CartService.Cart.lines_of_finalize h
  have named := (CartService.Cart.advances_of_command .finalize h).cartID
  rw [CartService.Service.withPhone_eq] at amounts kept named
  obtain ⟨own, rfl⟩ := loaded.of_saved laws named saved
  subst loads
  by_cases same : id = new.cartID
  · have amounts : rowAmounts new = rowAmounts old := amounts.trans (congrArg (Amounts.mk _ _ _) balanced.symm)
    have written := saved.written
    rw [kept] at written
    have items := items_of_written laws written
    rw [snapshot, snapshot, saved.carts, if_pos same, saved.linesOf, if_pos same, same, own, loaded.stored.found]
    simp only [Option.map_some, rowAmounts_rewrite, amounts, items]
    rw [Multiset.coe_eq_coe.mpr (perm.map (rowItem svc.uuid))]
  · exact snapshot_of_saved saved same

/-! ## Balanced totals -/

def Totalled (db : DB) : Prop := ∀ id row, db.carts.find? id = some row → (rowAmounts row).Balanced

theorem Totalled.saved (h : Totalled db) (saved : Saved uuid now db c db' new old rows)
    (balanced : (cartAmounts c.toProto).Balanced) : Totalled db' := by
  intro id row found
  rw [saved.carts] at found
  split at found
  · cases found
    rwa [rowAmounts_rewrite, rowAmounts_of_row saved.params]
  · exact h id row found

theorem balanced_of_removeLine {c c' : CartService.Cart} {lineID : String} {time : CartService.Time}
    (h : c.removeLine lineID time = .ok c') : (cartAmounts c'.toProto).Balanced := by
  unfold CartService.Cart.removeLine at h
  split at h
  · cases h
  · split at h <;> cases h
    rfl

/-- Every command totals the cart. -/
theorem balanced_of_command {c c' : CartService.Cart} {time : CartService.Time} (cmd : CartService.Command)
    (h : c.command time cmd = .ok c') : (cartAmounts c'.toProto).Balanced := by
  cases cmd with
  | add line =>
    simp only [CartService.Cart.command, CartService.Cart.addLine] at h
    split at h
    · cases h
    · split at h <;> cases h
      rfl
  | update lineID quantity modifiers =>
    simp only [CartService.Cart.command, CartService.Cart.updateLine] at h
    split at h
    · cases h
    · split at h
      · exact balanced_of_removeLine h
      · split at h <;> cases h
        rfl
  | remove lineID => exact balanced_of_removeLine h
  | finalize =>
    simp only [CartService.Cart.command, CartService.Cart.finalize] at h
    split at h <;> cases h
    rfl

theorem balanced_merged (walk : CartService.Walk CartService.LineGroup) (target ghost : CartService.Cart) (sourceHLC : Int64)
    (time : CartService.Time) :
    (cartAmounts (CartService.merged svc.sha256 walk target ghost sourceHLC time).toProto).Balanced := rfl

theorem Totalled.saveCart (h : Totalled w.db) (balanced : (cartAmounts c.toProto).Balanced)
    (hdb : CartService.saveCart svc.uuid w.db env.others env.dbNow env.lineIDs c event = .ok db) : Totalled db := by
  obtain ⟨new, old, rows, saved⟩ := CartService.saveCart_eq_ok hdb
  exact h.saved saved balanced

theorem Totalled.step (h : Totalled w.db) (a : CartService.Env × CartService.Call) : Totalled (svc.step w a).db := by
  obtain ⟨env, call⟩ := a
  cases call with
  | createCart req =>
    refine CartService.Service.of_createCart (Q := fun w => Totalled w.db) h ?_
    intro db new rows cache _ created _ _ _ id row found
    rw [created.carts] at found
    split at found
    · cases found
      rw [rowAmounts_sync, rowAmounts_of_row created.params]
      exact (by decide : (0 : Int64) = 0 + 0 - 0)
    · exact h id row found
  | getCart cartID => exact CartService.Service.of_getCart (Q := fun w => Totalled w.db) h fun _ _ _ _ _ => h
  | addItem req =>
    refine CartService.Service.of_addItem (Q := fun w => Totalled w.db) h (fun _ _ _ _ _ _ _ _ _ _ _ => h) ?_
    intro row c₀ c held cart item db cache _ changed _ hdb _ _
    exact h.saveCart (balanced_of_command (.add _) changed) hdb
  | updateItem req =>
    refine CartService.Service.of_updateItem (Q := fun w => Totalled w.db) h ?_
    intro row c₀ c db cache _ _ changed hdb _ _
    exact h.saveCart (balanced_of_command (.update _ _ _) changed) hdb
  | removeItem req =>
    refine CartService.Service.of_removeItem (Q := fun w => Totalled w.db) h ?_
    intro row c₀ c db cache _ changed hdb _ _
    exact h.saveCart (balanced_of_command (.remove _) changed) hdb
  | finalizeCart req =>
    refine CartService.Service.of_finalizeCart (Q := fun w => Totalled w.db) h ?_
    intro row c₀ c db cache _ changed hdb _ _
    exact h.saveCart (balanced_of_command .finalize changed) hdb
  | mergeGhostCart req =>
    refine CartService.Service.of_mergeGhostCart (Q := fun w => Totalled w.db) h ?_ ?_
    · intro row t ghostRow g db cache _ _ hdb _ _
      exact h.saveCart (balanced_merged ..) hdb
    · intro row t ghostRow g db db' cache _ _ hdb hdb' _ _ _ _
      obtain ⟨id, -, -, rfl⟩ := CartService.deleteCart_eq_ok hdb'
      intro other row found
      have kept := Table.find?_eq_some.mp found
      exact h.saveCart (balanced_merged ..) hdb other row (Table.find?_eq_some.mpr ⟨(Table.mem_delete.mp kept.1).1, kept.2⟩)

end

/-! ## What is read stays -/

section
variable {svc} {w : World Tid} {id : UUID}

theorem snapshot_eq_some {uuid : UUIDText} {db : DB} {s : Snapshot} : snapshot uuid db id = some s ↔
    ∃ row, db.carts.find? id = some row ∧ rowAmounts row = s.amounts ∧
      ((db.linesOf id).map (rowItem uuid) : Multiset Item) = s.items := by
  rw [snapshot, Option.map_eq_some_iff]
  refine exists_congr fun row => and_congr_right fun _ => ?_
  constructor
  · rintro rfl
    exact ⟨rfl, rfl⟩
  · rintro ⟨amounts, items⟩
    rw [amounts, items]

omit [DecidableEq Tid] in
/-- A command that takes effect is on a cart that is not read. -/
theorem snapshot_command (laws : svc.uuid.Lawful) (cmd : CartService.Command) {env : CartService.Env} {cartID : String}
    {row : CartRow} {c₀ c : CartService.Cart} {event : Option CartService.Entry} {db : DB}
    (unread : w.Unread svc env cartID) (read : w.Read svc id)
    (loaded : CartService.Service.Loaded svc env.load env.ties w.carts cartID row c₀)
    (h : c₀.command env.now cmd = .ok c) (applies : env.save.applies)
    (hdb : CartService.saveCart svc.uuid w.carts.db env.others env.dbNow env.lineIDs c event = .ok db) :
    snapshot svc.uuid db id = snapshot svc.uuid w.carts.db id := by
  refine snapshot_of_loaded laws loaded (CartService.Cart.advances_of_command cmd h).cartID hdb ?_
  rintro rfl
  refine unread loaded.done applies row loaded.row_eq ?_ read
  rw [← loaded.finalized_eq]
  exact CartService.Cart.not_finalized_of_command cmd h

omit [DecidableEq Tid] in
theorem snapshot_cart (laws : svc.uuid.Lawful) (totalled : Totalled w.carts.db) {env : CartService.Env}
    {call : CartService.Call} (spares : w.Spares svc (.cart env call)) (read : w.Read svc id) {row : CartRow}
    (present : w.carts.db.carts.find? id = some row) :
    snapshot svc.uuid (svc.step w.carts (env, call)).db id = snapshot svc.uuid w.carts.db id := by
  let Q (w' : CartService.World) := snapshot svc.uuid w'.db id = snapshot svc.uuid w.carts.db id
  have same : Q w.carts := rfl
  cases call with
  | createCart req =>
    refine CartService.Service.of_createCart (Q := Q) same ?_
    intro db new rows cache _ created _ _ _
    have other : id ≠ new.cartID := by
      rintro rfl
      cases created.absent.symm.trans present
    show snapshot svc.uuid db id = _
    rw [snapshot, snapshot, created.carts, if_neg other, created.linesOf, if_neg other]
  | getCart cartID => exact CartService.Service.of_getCart (Q := Q) same fun _ _ _ _ _ => same
  | addItem req =>
    refine CartService.Service.of_addItem (Q := Q) same (fun _ _ _ _ _ _ _ _ _ _ _ => same) ?_
    intro row c₀ c held cart item db cache loaded changed _ hdb applies _
    exact snapshot_command laws (.add _) spares read loaded changed applies hdb
  | updateItem req =>
    refine CartService.Service.of_updateItem (Q := Q) same ?_
    intro row c₀ c db cache _ loaded changed hdb applies _
    exact snapshot_command laws (.update _ _ _) spares read loaded changed applies hdb
  | removeItem req =>
    refine CartService.Service.of_removeItem (Q := Q) same ?_
    intro row c₀ c db cache loaded changed hdb applies _
    exact snapshot_command laws (.remove _) spares read loaded changed applies hdb
  | finalizeCart req =>
    refine CartService.Service.of_finalizeCart (Q := Q) same ?_
    intro row c₀ c db cache loaded changed hdb _ _
    exact snapshot_of_finalize laws loaded (totalled _ _ loaded.stored.found) changed hdb id
  | mergeGhostCart req =>
    have apart {row : CartRow} (unread : ¬ w.Read svc row.cartID) : id ≠ row.cartID := by
      rintro rfl
      exact unread read
    refine CartService.Service.of_mergeGhostCart (Q := Q) same ?_ ?_
    · intro row t ghostRow g db cache target ghost hdb applies _
      have spared := spares target.done ghost.done row target.row_eq ghostRow ghost.row_eq
      exact snapshot_of_loaded laws target (CartService.advances_merged ..).cartID hdb (apart (spared.1 applies))
    · intro row t ghostRow g db db' cache target ghost hdb hdb' done cached applies _
      have spared := spares target.done ghost.done row target.row_eq ghostRow ghost.row_eq
      have saved := snapshot_of_loaded laws target (CartService.advances_merged ..).cartID hdb
        (apart (spared.1 (by rw [done]; trivial)))
      obtain ⟨other, parsed, -, rfl⟩ := CartService.deleteCart_eq_ok hdb'
      obtain rfl := ghost.id_eq laws parsed
      have ne := apart (spared.2 done cached applies)
      refine Eq.trans ?_ saved
      show snapshot svc.uuid _ id = _
      rw [snapshot, snapshot, Table.find?_delete_of_ne ne, CartService.linesOf_delete ne]

/-! ## Runs -/

/-- The total of an event that a call was made for. -/
def EventTotal (c : Call) (total : Int64) : Prop :=
  ∀ evt, c = .cartFinalized evt → 0 < evt.finalTotalCents → evt.finalTotalCents = total

/-- What a call has read is stored. -/
def Phase.Holds (uuid : UUIDText) (db : DB) : Phase → Prop
  | .selected c cart => EventTotal c cart.finalTotalCents ∧ ∃ id items, uuid.parse c.cartID = .ok id ∧
      cart.cartID = uuid.string id ∧ snapshot uuid db id = some ⟨cartAmounts cart.toProto, items⟩
  | .fetched c cart => EventTotal c cart.finalTotalCents ∧ ∃ id, cart.cartID = uuid.string id ∧
      snapshot uuid db id = some (cartSnapshot cart)
  | _ => True

structure World.Sound (svc : CartService.Service) (w : World Tid) : Prop where
  totalled : Totalled w.carts.db
  calls : ∀ t, (w.calls t).Holds svc.uuid w.carts.db
  ordered : ∀ o ∈ w.orders.orders.rows, ∃ id, o.cartID = svc.uuid.string id ∧
    snapshot svc.uuid w.carts.db id = some (orderSnapshot o)

omit [DecidableEq Tid] in
theorem World.Sound.agrees (laws : svc.uuid.Lawful) (h : w.Sound svc) : w.Agrees svc := by
  intro o mem row _ own _
  obtain ⟨id, named, stored⟩ := h.ordered o mem
  obtain rfl := laws.string_injective (own.trans named)
  obtain ⟨row', found, amounts, -⟩ := snapshot_eq_some.mp stored
  have balanced := h.totalled _ _ found
  rw [amounts] at balanced
  exact ⟨stored, balanced⟩

theorem World.Sound.cart (laws : svc.uuid.Lawful) (h : w.Sound svc) {env : CartService.Env} {call : CartService.Call}
    (spares : w.Spares svc (.cart env call)) : (w.step svc (.cart env call)).Sound svc := by
  have kept {id : UUID} {s : Snapshot} (read : w.Read svc id) (stored : snapshot svc.uuid w.carts.db id = some s) :
      snapshot svc.uuid (svc.step w.carts (env, call)).db id = some s := by
    obtain ⟨row, found, -⟩ := snapshot_eq_some.mp stored
    exact (snapshot_cart laws h.totalled spares read found).trans stored
  refine ⟨h.totalled.step (env, call), fun t => ?_, fun o mem => ?_⟩
  · show (w.calls t).Holds svc.uuid (svc.step w.carts (env, call)).db
    have holds := h.calls t
    cases phase : w.calls t with
    | idle | asking => trivial
    | selected c cart =>
      rw [phase] at holds
      obtain ⟨event, id, items, parsed, own, stored⟩ := holds
      exact ⟨event, id, items, parsed, own, kept (.inl ⟨t, c, cart, phase, own⟩) stored⟩
    | fetched c cart =>
      rw [phase] at holds
      obtain ⟨event, id, own, stored⟩ := holds
      exact ⟨event, id, own, kept (.inr (.inl ⟨t, c, cart, phase, own⟩)) stored⟩
  · obtain ⟨id, own, stored⟩ := h.ordered o mem
    exact ⟨id, own, kept (.inr (.inr ⟨o, mem, own⟩)) stored⟩

/-- A call goes on, while the tables of the cart service stay. -/
theorem World.Sound.goto (h : w.Sound svc) (t : Tid) {phase : Phase} {carts : CartService.World}
    {orders : MemoryRepository} (same : carts.db = w.carts.db) (holds : phase.Holds svc.uuid w.carts.db)
    (ordered : ∀ o ∈ orders.orders.rows, ∃ id, o.cartID = svc.uuid.string id ∧
      snapshot svc.uuid w.carts.db id = some (orderSnapshot o)) :
    (({ w with carts, orders } : World Tid).goto t phase).Sound svc := by
  refine ⟨?_, fun t' => ?_, fun o mem => ?_⟩
  · show Totalled carts.db
    rw [same]
    exact h.totalled
  · show (if t' = t then phase else w.calls t').Holds svc.uuid carts.db
    rw [same]
    split
    · exact holds
    · exact h.calls t'
  · show ∃ id, _ ∧ snapshot svc.uuid carts.db id = _
    rw [same]
    exact ordered o mem

theorem cacheSet_db (o : Outcome) (c : CartService.Cart) (w : CartService.World) :
    (CartService.Service.cacheSet o c w).1.db = w.db := by
  cases o <;> rfl

theorem fetch_eq_ok {A : Type} {o : Outcome} {x : Except CartService.RepositoryError A} {a : A}
    (h : o.fetch x = .ok a) : o = .ok ∧ x = .ok a := by
  cases o with
  | ok => exact ⟨rfl, h⟩
  | failed | lost => cases h

theorem World.Sound.select (h : w.Sound svc) {t : Tid} {o : Outcome}
    (spares : w.Spares svc (.select t o)) : (w.select svc t o).Sound svc := by
  unfold World.select
  split
  · rename_i c asking
    split
    · rename_i cart fetched
      obtain ⟨done, selected⟩ := fetch_eq_ok fetched
      obtain ⟨id, parsed, selected⟩ := Statement.bind_eq_ok.mp selected
      have parsed := Statement.mapError_eq_ok.mp parsed
      split at selected
      · cases selected
      · rename_i row found
        cases selected
        obtain ⟨-, rfl⟩ := Table.find?_eq_some.mp found
        refine h.goto t rfl ⟨?_, row.cartID, _, parsed, rfl, snapshot_eq_some.mpr ⟨row, found, rfl, rfl⟩⟩ h.ordered
        rintro evt rfl positive
        have parsed : svc.uuid.parse evt.cartID = .ok row.cartID := parsed
        refine spares done evt asking positive row ?_
        rw [CartService.Service.row, parsed]
        exact found
    · exact h.goto t rfl trivial h.ordered
  · exact h

theorem World.Sound.lines (h : w.Sound svc) (t : Tid) (o : Outcome) (ties : Shuffle LineRow) (cache : Outcome) :
    (w.lines svc t o ties cache).Sound svc := by
  unfold World.lines
  split
  · rename_i c cart selected
    have holds := h.calls t
    rw [selected] at holds
    obtain ⟨event, id, items, parsed, own, stored⟩ := holds
    split
    · rename_i lines fetched
      obtain ⟨id', parsed', read⟩ := Statement.bind_eq_ok.mp (fetch_eq_ok fetched).2
      have parsed' := Statement.mapError_eq_ok.mp parsed'
      obtain rfl := Except.ok.inj (parsed.symm.trans parsed')
      cases read
      obtain ⟨row, found, amounts, same⟩ := snapshot_eq_some.mp stored
      have perm := (List.perm_insertionSort (fun a b : LineRow => a.addedAtMs ≤ b.addedAtMs) _).trans
        (ties.perm (w.carts.db.linesOf id))
      split
      · rename_i carts cached
        have tables := congrArg (fun x => x.1.db) cached
        refine h.goto t ((tables.symm.trans (cacheSet_db ..)) ) ⟨event, id, own, ?_⟩ h.ordered
        refine snapshot_eq_some.mpr ⟨row, found, amounts, ?_⟩
        rw [← Multiset.coe_eq_coe.mpr (perm.map (rowItem svc.uuid))]
        simp only [cartSnapshot, CartService.Cart.toProto, List.map_map]
        rfl
      · rename_i carts err cached
        have tables := congrArg (fun x => x.1.db) cached
        exact h.goto t (tables.symm.trans (cacheSet_db ..)) trivial h.ordered
    · exact h.goto t rfl trivial h.ordered
  · exact h

/-- An order is built with the items and the amounts of the cart. -/
theorem snapshot_of_order {uuid : UUIDText} {c : Call} {env : OrderService.Env} {cart : OrderService.Cart}
    {order : OrderService.Order String} (event : EventTotal c cart.finalTotalCents)
    (h : c.order uuid env cart = .ok order) (key : String) :
    order.cartID = cart.cartID ∧ orderSnapshot (newOrder order key) = cartSnapshot cart := by
  obtain ⟨built, hb, h⟩ := Statement.bind_eq_ok.mp h
  have copied : built.cartID = cart.cartID ∧ orderSnapshot (newOrder built key) = cartSnapshot cart := by
    unfold OrderService.buildOrderFromCart at hb
    extract_lets storeID kioskID at hb
    split at hb
    · cases hb
    · cases hb
      refine ⟨rfl, ?_⟩
      have items : (cart.lines.mapIdx fun i line => ({
          orderItemID := uuid.string (env.itemID i)
          itemID := line.menuItemID
          nameSnapshot := line.nameSnapshot
          priceCentsSnapshot := line.unitPriceCentsSnapshot
          quantity := line.quantity
          modifierOptionIDs := line.modifiers
          lineTotalCents := line.lineTotalCents
          createdAt := env.now } : OrderService.OrderItem)).map orderItem = cart.lines.map lineItem := by
        refine List.ext_getElem (by simp) fun i _ _ => ?_
        rw [List.getElem_map, List.getElem_map, List.getElem_mapIdx]
        rfl
      rw [orderSnapshot, cartSnapshot, newOrder, items]
      rfl
  cases c with
  | createOrder => cases h; exact copied
  | cartFinalized evt =>
    cases h
    refine ⟨copied.1, Eq.trans ?_ copied.2⟩
    have total : (if 0 < evt.finalTotalCents then evt.finalTotalCents else built.totalCents) = built.totalCents := by
      split
      · rename_i positive
        have copy := congrArg (fun s => s.amounts.totalCents) copied.2
        exact (event evt rfl positive).trans copy.symm
      · rfl
    simp only [orderSnapshot, orderAmounts, newOrder, total]

theorem mem_createOrder {m : MemoryRepository} {order o : Order String} {event : OrderService.Repository.OutboxEvent}
    (mem : o ∈ (m.createOrder order event).1.orders.rows) :
    o ∈ m.orders.rows ∨ o = OrderService.Repository.Order.clone order := by
  unfold MemoryRepository.createOrder at mem
  split at mem
  · exact .inl mem
  · split at mem
    · exact .inl mem
    · obtain ⟨old, -⟩ | ⟨old, -, -, new⟩ | ⟨-, new⟩ := Table.mem_upsert.mp mem
      · exact .inl old
      · exact .inr new
      · exact .inr new

theorem World.Sound.create (h : w.Sound svc) (t : Tid) (env : OrderService.Env) (payload : Json) :
    (w.create svc t env payload).Sound svc := by
  unfold World.create
  split
  · rename_i c cart fetched
    have holds := h.calls t
    rw [fetched] at holds
    obtain ⟨event, id, own, stored⟩ := holds
    split
    · exact h.goto t rfl trivial h.ordered
    · rename_i order built
      obtain ⟨named, copied⟩ := snapshot_of_order event built c.idempotencyKey
      refine h.goto t rfl trivial fun o mem => ?_
      obtain old | rfl := mem_createOrder mem
      · exact h.ordered o old
      · exact ⟨id, named.trans own, stored.trans (congrArg some copied.symm)⟩
  · exact h

theorem World.Sound.step (laws : svc.uuid.Lawful) (h : w.Sound svc) {a : Act Tid} (spares : w.Spares svc a) :
    (w.step svc a).Sound svc := by
  cases a with
  | cart env call => exact h.cart laws spares
  | start t c =>
    simp only [World.step, World.start]
    split
    · split
      · exact h
      · exact h.goto t rfl trivial h.ordered
    · exact h
  | select t o => exact h.select spares
  | lines t o ties cache => exact h.lines t o ties cache
  | create t env payload => exact h.create t env payload

end

/-- No cart, no order and no call. -/
def initial : World Tid := { carts := { db := {}, cache := fun _ => none, held := fun _ _ => 0 } }

/-- **An order has the items and the total of its finalized cart, in runs in which no cart that was read is changed but
by its finalization.** -/
theorem agrees_of_spares {svc : CartService.Service} (laws : svc.uuid.Lawful) {actions : List (Act Tid)}
    (spares : EachStep (World.step svc) (World.Spares svc) initial actions) :
    Always (World.step svc) (World.Agrees svc) initial actions := by
  have sound : World.Sound svc (initial : World Tid) := by
    refine ⟨fun id row found => ?_, fun _ => trivial, fun o mem => ?_⟩
    · cases found
    · cases mem
  exact Runs.always_of_eachStep (fun _ h => h.agrees laws) (fun _ _ h spares => h.step laws spares) sound spares

/-! ## A cart with one order -/

namespace Counter

open CartService.Shop (create add finalize text)
open OrderService.Counter (env)

def cart (a : CartService.Env × CartService.Call) : Act Unit := .cart a.1 a.2

/-- The order of a cart, from its first step to its last. -/
def ordered : List (Act Unit) :=
  [.start () (.createOrder { cartID := text 1 } ""), .select () .ok, .lines () .ok (.none _) .ok, .create () env .null]

/-- An item is added, and the cart finalized, before it is ordered. -/
def before : List (Act Unit) := cart (create 1) :: cart (add 1 1 1 1) :: cart (finalize 2 1) :: ordered

/-- Another item is added after it is ordered, and the cart finalized then. -/
def after : List (Act Unit) :=
  cart (create 1) :: cart (add 1 1 1 1) :: ordered ++ [cart (add 2 1 2 1), cart (finalize 3 1)]

theorem unread_of_none {w : World Unit} (idle : ∀ t, w.calls t = .idle) (none : w.orders.orders.rows = [])
    (cartEnv : CartService.Env) (cartID : String) : w.Unread CartService.shop cartEnv cartID := by
  rintro - - row - - (⟨t, c, cart, held, -⟩ | ⟨t, c, cart, held, -⟩ | ⟨o, mem, -⟩)
  · cases held.symm.trans (idle t)
  · cases held.symm.trans (idle t)
  · rw [none] at mem
    cases mem

theorem agrees_before : Always (World.step CartService.shop) (World.Agrees CartService.shop) initial before := by
  refine agrees_of_spares CartService.lawful_shop
    ⟨trivial, unread_of_none (fun _ => rfl) rfl _ _, trivial, trivial, ?_, trivial, trivial, trivial⟩
  intro _ evt asking
  cases asking

instance decidableAgrees (w : World Unit) : Decidable (w.Agrees CartService.shop) :=
  inferInstanceAs (Decidable (∀ o ∈ w.orders.orders.rows, ∀ row ∈ w.carts.db.carts.rows, _ = _ → _ = _ →
    _ = _ ∧ Amounts.Balanced _))

/-- The order lacks the item that was added later. -/
theorem item_not_ordered :
    ¬ Always (World.step CartService.shop) (World.Agrees CartService.shop) initial after := by
  intro claim
  have last := Runs.always_last claim
  revert last
  decide +kernel

end Counter

end CartOrders
