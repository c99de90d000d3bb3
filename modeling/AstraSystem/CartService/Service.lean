import Mathlib.Logic.Function.Basic
import AstraSystem.CartService.Merge
import AstraSystem.CartService.Repository
import AstraSystem.Lib.Effect
import AstraSystem.Lib.Runs

/-!
# The cart service (`service/cart_service.go`)

A call reads and writes the tables, the session cache (`cache/cache.go`) and the
inventory (`inventory/client.go`). What the clocks, the random generator, other
services and the network contribute comes with the call.
-/

namespace CartService

/-- What becomes of a request over the network. -/
inductive Outcome where
  | ok
  | failed (err : String)
  /-- It takes effect, and its reply is lost. -/
  | lost (err : String)
  deriving DecidableEq, Repr

/-- It takes effect. -/
def Outcome.applies : Outcome → Prop
  | .failed _ => False
  | .ok | .lost _ => True

instance decidableApplies : DecidablePred Outcome.applies
  | .failed _ => .isFalse id
  | .ok | .lost _ => .isTrue trivial

/-- A request that fails reads nothing. -/
def Outcome.fetch {A : Type*} (o : Outcome) (x : Except RepositoryError A) :
    Except RepositoryError A :=
  match o with
  | .ok => x
  | .failed err | .lost err => .error (.failed err)

structure Env where
  /-- `time.Now()`, where a line is stamped and where the cart is changed. -/
  addedAt : Time
  now : Time
  /-- `now()` of the transaction. -/
  dbNow : Timestamp
  /-- The id of a new cart or line. -/
  newID : UUID
  eventID : UUID
  orderID : UUID
  lineIDs : ℕ → UUID
  ties : Shuffle LineRow := .none _
  ghostTies : Shuffle LineRow := .none _
  walk : Walk LineGroup := .inOrder _ _
  others : Others
  load : Outcome := .ok
  loadGhost : Outcome := .ok
  reserve : Outcome := .ok
  save : Outcome := .ok
  delete : Outcome := .ok
  cache : Outcome := .ok
  cacheAgain : Outcome := .ok

/-- The cart tables, the cache, and what the inventory holds for a cart of an item. -/
structure World where
  db : DB
  cache : String → Option Cart
  held : UUID → UUID → ℤ

inductive Code where
  | invalidArgument
  | notFound
  | failedPrecondition
  | internal
  deriving DecidableEq, Repr

structure Status where
  code : Code
  message : String
  deriving DecidableEq, Repr

abbrev Handler := Effect World Status

def invalidArgument {A : Type} (msg : String) : Handler A := Effect.fail ⟨.invalidArgument, msg⟩

def RepositoryError.internal (what : String) (err : RepositoryError) : Status :=
  ⟨.internal, s!"cart_service: {what}: {err.error}"⟩

def mapDomainError : CartError → Status
  | .cartNotFound => ⟨.notFound, "cart not found"⟩
  | .cartFinalized => ⟨.failedPrecondition, "cart is finalized"⟩
  | .lineNotFound => ⟨.notFound, "line not found"⟩
  | .quantityInvalid => ⟨.invalidArgument, "invalid quantity"⟩

/-- The key of a lane and a session. -/
def Key (laneID sessionID : String) : String := "cart:" ++ laneID ++ ":" ++ sessionID

/-! ## Requests -/

structure CreateCartRequest where
  storeID : String
  kioskID : String
  sessionID : String
  customerPhone : String

structure AddItemRequest where
  cartID : String
  menuItemID : String
  quantity : Int32
  modifiers : List Modifier

structure UpdateItemRequest where
  cartID : String
  lineID : String
  quantity : Int32
  modifiers : List Modifier

structure RemoveItemRequest where
  cartID : String
  lineID : String

structure FinalizeCartRequest where
  cartID : String
  customerPhone : String

structure MergeGhostCartRequest where
  targetCartID : String
  ghostCartID : String
  sourceHLC : Int64

/-- What a client asks. -/
inductive Call where
  | createCart (req : CreateCartRequest)
  | getCart (cartID : String)
  | addItem (req : AddItemRequest)
  | updateItem (req : UpdateItemRequest)
  | removeItem (req : RemoveItemRequest)
  | finalizeCart (req : FinalizeCartRequest)
  | mergeGhostCart (req : MergeGhostCartRequest)

/-- The service, with the packages that it uses. -/
structure Service where
  uuid : UUIDText
  sha256 : List UInt8 → List UInt8
  currency : String := "USD"

namespace Service

variable (svc : Service) (env : Env)

/-! ## What a call asks of the others -/

/-- `GetCart` of the repository, with the words for its two kinds of error. -/
def load (o : Outcome) (ties : Shuffle LineRow) (cartID notFound what : String) : Handler Cart :=
  Effect.read fun w =>
    (o.fetch (getCart svc.uuid w.db ties cartID)).mapError fun
      | .cartNotFound => ⟨.notFound, notFound⟩
      | err => err.internal what

def loadAndLock (cartID : String) : Handler Cart :=
  svc.load env.load env.ties cartID "cart not found" "load cart"

def mutate (x : Except CartError Cart) : Handler Cart := Effect.read fun _ => x.mapError mapDomainError

def mergeCarts (target ghost : Cart) (sourceHLC : Int64) : Handler MergeResult :=
  Effect.read fun _ =>
    (CartService.mergeCarts svc.sha256 env.walk (some target) (some ghost) sourceHLC env.now).mapError
      fun err => ⟨.internal, s!"cart_service: merge carts: {err.error}"⟩

/-- A request that writes. -/
def request (o : Outcome) (write : World → Except RepositoryError World)
    (status : RepositoryError → Status) : Handler Unit := fun w =>
  match o, write w with
  | .failed err, _ => (w, .error (status (.failed err)))
  | _, .error err => (w, .error (status err))
  | .ok, .ok w => (w, .ok ())
  | .lost err, .ok w => (w, .error (status (.failed err)))

def saveCart (c : Cart) (event : Option Entry) : Handler Unit :=
  request env.save (fun w => do
    let db ← CartService.saveCart svc.uuid w.db env.others env.dbNow env.lineIDs c event
    pure { w with db }) (·.internal "save cart")

def createCartRows (c : Cart) : Handler Unit :=
  request env.save (fun w => do
    let db ← CartService.createCart svc.uuid w.db env.others env.lineIDs c
    pure { w with db }) (·.internal "create cart")

def deleteCart (cartID : String) : Handler Unit :=
  request env.delete (fun w => do
    let db ← CartService.deleteCart svc.uuid w.db env.others cartID
    pure { w with db }) (·.internal "delete ghost cart")

/-- The snapshot of a cart, under the lane it names. -/
def cacheSet (o : Outcome) (c : Cart) : Handler Unit :=
  request o (fun w => pure { w with
    cache := Function.update w.cache (Key c.laneID c.sessionID) (some c) }) (·.internal "cache cart")

def cacheDelete (o : Outcome) (c : Cart) : Handler Unit :=
  request o (fun w => pure { w with
    cache := Function.update w.cache (Key c.laneID c.sessionID) none }) (·.internal "delete cache")

/-- The inventory takes ids of carts and items. -/
def reserve (c : Cart) (itemID : String) (quantity : Int64) : Handler Unit :=
  request env.reserve (fun w => do
    let cart ← (svc.uuid.parse c.cartID).mapError .failed
    let item ← (svc.uuid.parse itemID).mapError .failed
    pure { w with
      held := fun c i => w.held c i + if c = cart ∧ i = item then quantity.toInt32.toInt else 0 })
    fun err => ⟨.failedPrecondition, s!"cart_service: reserve inventory: {err.error}"⟩

def saveWithoutEvent (c : Cart) : Handler Unit := do
  svc.saveCart env c none
  cacheSet env.cache c

def newItemAddedToCart (c : Cart) (line : Line) : Entry where
  eventID := svc.uuid.string env.eventID
  aggregateType := "cart"
  aggregateID := c.cartID
  eventType := "ItemAddedToCart"
  payload := .itemAddedToCart c.cartID line.menuItemID line.nameSnapshot line.quantity.toInt32
    line.unitPriceCentsSnapshot
  occurredAtMs := c.updatedAtMs

def newCartFinalized (c : Cart) : Entry where
  eventID := svc.uuid.string env.eventID
  aggregateType := "cart"
  aggregateID := c.cartID
  eventType := "CartFinalized"
  payload := .cartFinalized c.cartID (svc.uuid.string env.orderID) c.finalTotalCents svc.currency
  occurredAtMs := c.updatedAtMs

/-! ## Calls -/

/-- The kiosk is the lane of a new cart. -/
def cartOf (req : CreateCartRequest) : Cart :=
  newCart (svc.uuid.string env.newID) req.storeID req.kioskID req.kioskID req.sessionID
    req.customerPhone env.now

def createCart (req : CreateCartRequest) : Handler Cart :=
  if req.storeID = "" ∨ req.kioskID = "" ∨ req.sessionID = "" then
    invalidArgument "store_id, kiosk_id, and session_id are required"
  else do
    let c := svc.cartOf env req
    svc.createCartRows env c
    cacheSet env.cache c
    pure c

def getCart (cartID : String) : Handler Cart :=
  if cartID = "" then invalidArgument "cart_id is required"
  else do
    let c ← svc.load env.load env.ties cartID "cart not found" "get cart"
    cacheSet env.cache c
    pure c

def newLine (req : AddItemRequest) : Line where
  cartID := ""
  lineID := svc.uuid.string env.newID
  menuItemID := req.menuItemID
  nameSnapshot := ""
  unitPriceCentsSnapshot := 0
  quantity := req.quantity.toInt64
  modifiers := req.modifiers
  addedAtMs := env.addedAt.unixMilli

def addItem (req : AddItemRequest) : Handler Cart :=
  if req.cartID = "" ∨ req.menuItemID = "" ∨ req.quantity ≤ 0 then
    invalidArgument "cart_id, menu_item_id, and positive quantity are required"
  else do
    let c ← svc.loadAndLock env req.cartID
    let line := svc.newLine env req
    let c ← mutate (c.addLine line env.now)
    svc.reserve env c line.menuItemID line.quantity
    svc.saveCart env c (some (svc.newItemAddedToCart env c line))
    cacheSet env.cache c
    pure c

def updateItem (req : UpdateItemRequest) : Handler Cart :=
  if req.cartID = "" ∨ req.lineID = "" ∨ req.quantity < 0 then
    invalidArgument "cart_id, line_id, and non-negative quantity are required"
  else do
    let c ← svc.loadAndLock env req.cartID
    let c ← mutate (c.updateLine req.lineID req.quantity.toInt64 req.modifiers env.now)
    svc.saveWithoutEvent env c
    pure c

def removeItem (req : RemoveItemRequest) : Handler Cart :=
  if req.cartID = "" ∨ req.lineID = "" then
    invalidArgument "cart_id and line_id are required"
  else do
    let c ← svc.loadAndLock env req.cartID
    let c ← mutate (c.removeLine req.lineID env.now)
    svc.saveWithoutEvent env c
    pure c

/-- The phone of the request, if it gives one. -/
def withPhone (c : Cart) (phone : String) : Cart :=
  if phone = "" then c else { c with customerPhone := phone }

def finalizeCart (req : FinalizeCartRequest) : Handler Cart :=
  if req.cartID = "" then invalidArgument "cart_id is required"
  else do
    let c ← svc.loadAndLock env req.cartID
    let c ← mutate ((withPhone c req.customerPhone).finalize env.now)
    svc.saveCart env c (some (svc.newCartFinalized env c))
    cacheDelete env.cache c
    pure c

def mergeGhostCart (req : MergeGhostCartRequest) : Handler Cart :=
  if req.targetCartID = "" ∨ req.ghostCartID = "" then
    invalidArgument "target_cart_id and ghost_cart_id are required"
  else do
    let target ← svc.loadAndLock env req.targetCartID
    let ghost ← svc.load env.loadGhost env.ghostTies req.ghostCartID "ghost cart not found"
      "get ghost cart"
    let res ← svc.mergeCarts env target ghost req.sourceHLC
    let c := res.cart
    svc.saveWithoutEvent env c
    svc.deleteCart env ghost.cartID
    cacheSet env.cacheAgain c
    pure c

def call : Call → Handler Cart
  | .createCart req => svc.createCart env req
  | .getCart cartID => svc.getCart env cartID
  | .addItem req => svc.addItem env req
  | .updateItem req => svc.updateItem env req
  | .removeItem req => svc.removeItem env req
  | .finalizeCart req => svc.finalizeCart env req
  | .mergeGhostCart req => svc.mergeGhostCart env req

/-- What a call leaves behind. -/
def step (w : World) (a : Env × Call) : World := (svc.call a.1 a.2 w).1

/-- The stored cart that an id names. -/
def row (w : World) (cartID : String) : Option CartRow :=
  (svc.uuid.parse cartID).toOption.bind w.db.carts.find?

theorem withPhone_eq (c : Cart) (phone : String) :
    withPhone c phone = { c with customerPhone := if phone = "" then c.customerPhone else phone } := by
  unfold withPhone
  split <;> rfl

/-- The cart that an id names, as a call reads it. -/
def cart? (o : Outcome) (ties : Shuffle LineRow) (w : World) (cartID : String) : Option Cart :=
  (o.fetch (CartService.getCart svc.uuid w.db ties cartID)).toOption

/-- `SaveCart` takes effect. -/
def Saves (w : World) (c : Cart) (event : Option Entry) : Prop :=
  env.save.applies ∧
    (CartService.saveCart svc.uuid w.db env.others env.dbNow env.lineIDs c event).isOk = true

/-- `DeleteCart` takes effect on a stored cart. -/
def Deletes (cartID : String) : Prop :=
  env.delete.applies ∧ ∀ id ∈ (svc.uuid.parse cartID).toOption, id ∉ env.others.referenced

instance decidableDeletes (cartID : String) : Decidable (svc.Deletes env cartID) :=
  inferInstanceAs (Decidable (_ ∧ ∀ id ∈ (svc.uuid.parse cartID).toOption, _))

instance decidableSaves (w : World) (c : Cart) (event : Option Entry) :
    Decidable (svc.Saves env w c event) :=
  inferInstanceAs (Decidable (_ ∧ _))

/-! ## What a call leaves behind -/

variable {svc : Service} {env : Env} {w : World} {Q : World → Prop}

theorem saves_of_saveCart {c : Cart} {event : Option Entry} {db : DB} (applies : env.save.applies)
    (h : CartService.saveCart svc.uuid w.db env.others env.dbNow env.lineIDs c event = .ok db) :
    svc.Saves env w c event :=
  ⟨applies, by rw [h]; rfl⟩

/-- A cart that was read by its id, as it is stored. -/
structure Loaded (svc : Service) (o : Outcome) (ties : Shuffle LineRow) (w : World) (cartID : String)
    (row : CartRow) (c : Cart) : Prop where
  read : svc.cart? o ties w cartID = some c
  parsed : svc.uuid.parse cartID = .ok row.cartID
  stored : Stored svc.uuid w.db row c

section
variable {o : Outcome} {ties : Shuffle LineRow} {cartID : String} {row : CartRow} {c : Cart}

theorem Loaded.done (h : Loaded svc o ties w cartID row c) : o = .ok := by
  cases o with
  | ok => rfl
  | failed | lost => cases h.read

theorem Loaded.row_eq (h : Loaded svc o ties w cartID row c) : svc.row w cartID = some row := by
  rw [Service.row, h.parsed]
  exact h.stored.found

/-- A loaded cart names its row. -/
theorem Loaded.id_eq (laws : svc.uuid.Lawful) (h : Loaded svc o ties w cartID row c) {id : UUID}
    (parsed : svc.uuid.parse c.cartID = .ok id) : id = row.cartID := by
  obtain ⟨_, -, rfl⟩ := h.stored.loaded
  exact Except.ok.inj (parsed.symm.trans (laws.parse_string _))

theorem Loaded.finalized_eq (h : Loaded svc o ties w cartID row c) : c.finalized = row.finalized := by
  obtain ⟨_, -, rfl⟩ := h.stored.loaded
  rfl

/-- A save of a loaded cart is a save of its row. -/
theorem Loaded.of_saved (laws : svc.uuid.Lawful) (h : Loaded svc o ties w cartID row c) {c' : Cart}
    {now : Timestamp} {db : DB} {new old : CartRow} {rows : List LineRow}
    (same : c'.cartID = c.cartID) (saved : Saved svc.uuid now w.db c' db new old rows) :
    new.cartID = row.cartID ∧ old = row := by
  have parsed := (row_eq_ok saved.params).1
  rw [same] at parsed
  have own : new.cartID = row.cartID := h.id_eq laws parsed
  have found := saved.found
  rw [own, h.stored.found] at found
  exact ⟨own, (Option.some.inj found).symm⟩

/-- After a save, a cart that was loaded is there to be deleted. -/
theorem Loaded.deletes (laws : svc.uuid.Lawful) (h : Loaded svc o ties w cartID row c) {t : Cart}
    {now : Timestamp} {db db' : DB} {new old : CartRow} {rows : List LineRow}
    (saved : Saved svc.uuid now w.db t db new old rows)
    (hdb : CartService.deleteCart svc.uuid db env.others c.cartID = .ok db')
    (applies : env.delete.applies) :
    svc.Deletes env c.cartID ∧ db' = { db with
      carts := db.carts.delete (·.cartID = row.cartID)
      lines := db.lines.delete (·.cartID = row.cartID) } := by
  obtain ⟨id, parsed, free, rfl⟩ := deleteCart_eq_ok hdb
  obtain rfl := h.id_eq laws parsed
  refine ⟨⟨applies, fun id hid => ?_⟩, rfl⟩
  rw [parsed] at hid
  obtain rfl := Option.some.inj hid
  refine free ?_
  rw [saved.carts]
  split
  · rfl
  · rw [h.stored.found]
    rfl

end

/-- Nothing but the entry of the cart differs. -/
def Apart (c : Cart) (cache cache' : String → Option Cart) : Prop :=
  ∀ key, key ≠ Key c.laneID c.sessionID → cache' key = cache key

theorem ensures_request {o : Outcome} {write : World → Except RepositoryError World}
    {status : RepositoryError → Status} {ok : World → Unit → Prop} {err : World → Prop}
    (before : (o.applies → ∀ w', write w ≠ .ok w') → err w)
    (after : ∀ w', write w = .ok w' → o.applies → o ≠ .ok → err w')
    (done : ∀ w', write w = .ok w' → o = .ok → ok w' ()) :
    Effect.Ensures (request o write status) w ok err := by
  unfold Effect.Ensures request
  cases o with
  | failed msg => exact before fun applies => applies.elim
  | ok =>
    cases h : write w with
    | error e => simpa only [h] using before fun _ _ hw => by rw [h] at hw; cases hw
    | ok w' => simpa only [h] using done w' h rfl
  | lost msg =>
    cases h : write w with
    | error e => simpa only [h] using before fun _ _ hw => by rw [h] at hw; cases hw
    | ok w' => simpa only [h] using after w' h trivial nofun

theorem ensures_load {o : Outcome} {ties : Shuffle LineRow} {cartID notFound what : String}
    {ok : World → Cart → Prop} {err : World → Prop} (before : err w)
    (done : ∀ row c, Loaded svc o ties w cartID row c → ok w c) :
    Effect.Ensures (svc.load o ties cartID notFound what) w ok err := by
  refine Effect.ensures_read.mpr ⟨?_, fun _ _ => before⟩
  intro c h
  have h := Statement.mapError_eq_ok.mp h
  cases o with
  | ok =>
    obtain ⟨row, parsed, stored⟩ := getCart_eq_ok h
    have read : svc.cart? .ok ties w cartID = some c := by
      show (CartService.getCart svc.uuid w.db ties cartID).toOption = some c
      rw [show CartService.getCart svc.uuid w.db ties cartID = .ok c from h]
      rfl
    exact done row c ⟨read, parsed, stored⟩
  | failed | lost => cases h

theorem ensures_mutate {x : Except CartError Cart} {ok : World → Cart → Prop} {err : World → Prop}
    (before : err w) (done : ∀ c, x = .ok c → ok w c) : Effect.Ensures (mutate x) w ok err :=
  Effect.ensures_read.mpr ⟨fun c h => done c (Statement.mapError_eq_ok.mp h), fun _ _ => before⟩

theorem ensures_cacheSet {o : Outcome} {c : Cart} {ok : World → Unit → Prop} {err : World → Prop}
    (missed : o ≠ .ok → ∀ cache, Apart c w.cache cache → err { w with cache })
    (set : o = .ok →
      ok { w with cache := Function.update w.cache (Key c.laneID c.sessionID) (some c) } ()) :
    Effect.Ensures (cacheSet o c) w ok err := by
  unfold Effect.Ensures cacheSet request
  cases o with
  | ok => exact set rfl
  | failed msg => exact missed nofun w.cache fun _ _ => rfl
  | lost msg => exact missed nofun _ fun key ne => Function.update_of_ne ne _ _

theorem ensures_saveWithoutEvent {c : Cart} {ok : World → Unit → Prop} {err : World → Prop}
    (before : err w)
    (saved : ∀ db cache, CartService.saveCart svc.uuid w.db env.others env.dbNow env.lineIDs c none =
      .ok db → env.save.applies → Apart c w.cache cache → err { w with db, cache })
    (done : ∀ db cache, CartService.saveCart svc.uuid w.db env.others env.dbNow env.lineIDs c none =
      .ok db → env.save = .ok → env.cache = .ok → Apart c w.cache cache → ok { w with db, cache } ()) :
    Effect.Ensures (svc.saveWithoutEvent env c) w ok err := by
  refine Effect.ensures_bind.mpr (ensures_request (fun _ => before) ?_ ?_)
  · intro w' h applies _
    obtain ⟨db, hdb, ⟨⟩⟩ := Statement.bind_eq_ok.mp h
    exact saved db w.cache hdb applies fun _ _ => rfl
  · intro w' h ran
    have applies : env.save.applies := by rw [ran]; trivial
    obtain ⟨db, hdb, ⟨⟩⟩ := Statement.bind_eq_ok.mp h
    refine ensures_cacheSet ?_ ?_
    · intro _ cache apart
      exact saved db cache hdb applies apart
    · intro cached
      exact done db _ hdb ran cached fun key ne => Function.update_of_ne ne _ _

theorem of_createCart {req : CreateCartRequest} (before : Q w)
    (created : ∀ db new rows cache, ¬ (req.storeID = "" ∨ req.kioskID = "" ∨ req.sessionID = "") →
      Created svc.uuid w.db (svc.cartOf env req) db new rows → env.save.applies →
      Apart (svc.cartOf env req) w.cache cache →
      (env.save = .ok → env.cache = .ok → cache = Function.update w.cache
        (Key req.kioskID req.sessionID) (some (svc.cartOf env req))) → Q { w with db, cache }) :
    Q (svc.createCart env req w).1 := by
  refine Effect.ensures_state.mp (Effect.ensures_ite.mpr ⟨fun _ => before, fun given => ?_⟩)
  have stored (w' : World) (h : (do
      let db ← CartService.createCart svc.uuid w.db env.others env.lineIDs (svc.cartOf env req)
      pure { w with db }) = .ok w') :
      ∃ db new rows, Created svc.uuid w.db (svc.cartOf env req) db new rows ∧ w' = { w with db } := by
    obtain ⟨db, hdb, h⟩ := Statement.bind_eq_ok.mp h
    obtain ⟨new, rows, rowsCreated⟩ := createCart_eq_ok hdb
    exact ⟨db, new, rows, rowsCreated, (Except.ok.inj h).symm⟩
  refine Effect.ensures_bind.mpr (ensures_request (fun _ => before) ?_ ?_)
  · intro w' h applies lost
    obtain ⟨db, new, rows, rowsCreated, rfl⟩ := stored w' h
    exact created db new rows w.cache given rowsCreated applies (fun _ _ => rfl)
      fun save => absurd save lost
  · intro w' h done
    obtain ⟨db, new, rows, rowsCreated, rfl⟩ := stored w' h
    have applies : env.save.applies := by rw [done]; trivial
    have at' := fun cache => created db new rows cache given rowsCreated applies
    refine Effect.ensures_bind.mpr (ensures_cacheSet ?_ fun _ => ?_)
    · intro missed cache apart
      exact at' cache apart fun _ cached => absurd cached missed
    · exact at' _ (fun key ne => Function.update_of_ne ne _ _) fun _ _ => rfl

theorem of_getCart {cartID : String} (before : Q w)
    (cached : ∀ row c cache, Loaded svc env.load env.ties w cartID row c → Apart c w.cache cache →
      Q { w with cache }) : Q (svc.getCart env cartID w).1 := by
  refine Effect.ensures_state.mp (Effect.ensures_ite.mpr ⟨fun _ => before, fun _ => ?_⟩)
  refine Effect.ensures_bind.mpr (ensures_load before fun row c loaded => ?_)
  refine Effect.ensures_bind.mpr (ensures_cacheSet ?_ fun _ => ?_)
  · intro _ cache apart
    exact cached row c cache loaded apart
  · exact cached row c _ loaded fun key ne => Function.update_of_ne ne _ _

/-- What the inventory holds after it has reserved an item for a cart. -/
structure Reserved (svc : Service) (w : World) (cartID itemID : String) (quantity : ℤ)
    (held : UUID → UUID → ℤ) (cart item : UUID) : Prop where
  parsedCart : svc.uuid.parse cartID = .ok cart
  parsedItem : svc.uuid.parse itemID = .ok item
  adds : ∀ c i, held c i = w.held c i + if c = cart ∧ i = item then quantity else 0

theorem of_addItem {req : AddItemRequest} (before : Q w)
    (reserved : ∀ row c₀ c held cart item, Loaded svc env.load env.ties w req.cartID row c₀ →
      c₀.addLine (svc.newLine env req) env.now = .ok c →
      Reserved svc w c.cartID req.menuItemID req.quantity.toInt held cart item →
      env.reserve.applies → (env.reserve = .ok → ¬ svc.Saves env w c
        (some (svc.newItemAddedToCart env c (svc.newLine env req)))) → Q { w with held })
    (saved : ∀ row c₀ c held cart item db cache, Loaded svc env.load env.ties w req.cartID row c₀ →
      c₀.addLine (svc.newLine env req) env.now = .ok c →
      Reserved svc w c.cartID req.menuItemID req.quantity.toInt held cart item →
      CartService.saveCart svc.uuid w.db env.others env.dbNow env.lineIDs c
        (some (svc.newItemAddedToCart env c (svc.newLine env req))) = .ok db →
      env.save.applies → Apart c w.cache cache → Q { w with held, db, cache }) :
    Q (svc.addItem env req w).1 := by
  have size : req.quantity.toInt64.toInt32.toInt = req.quantity.toInt := by
    rw [Int32.toInt32_toInt64]
  refine Effect.ensures_state.mp (Effect.ensures_ite.mpr ⟨fun _ => before, fun _ => ?_⟩)
  refine Effect.ensures_bind.mpr (ensures_load before fun row c₀ loaded => ?_)
  refine Effect.ensures_bind.mpr (ensures_mutate before fun c changed => ?_)
  have holds (w' : World) (h : (do
      let cart ← (svc.uuid.parse c.cartID).mapError RepositoryError.failed
      let item ← (svc.uuid.parse req.menuItemID).mapError RepositoryError.failed
      pure { w with held := fun c i => w.held c i +
        if c = cart ∧ i = item then req.quantity.toInt64.toInt32.toInt else 0 }) = .ok w') :
      ∃ held cart item, Reserved svc w c.cartID req.menuItemID req.quantity.toInt held cart item ∧
        w' = { w with held } := by
    obtain ⟨cart, hcart, h⟩ := Statement.bind_eq_ok.mp h
    obtain ⟨item, hitem, h⟩ := Statement.bind_eq_ok.mp h
    exact ⟨_, cart, item, ⟨Statement.mapError_eq_ok.mp hcart, Statement.mapError_eq_ok.mp hitem,
      fun _ _ => by rw [← size]⟩, (Except.ok.inj h).symm⟩
  refine Effect.ensures_bind.mpr (ensures_request (fun _ => before) ?_ ?_)
  · intro w' h applies lost
    obtain ⟨held, cart, item, hreserved, rfl⟩ := holds w' h
    exact reserved row c₀ c held cart item loaded changed hreserved applies fun done => absurd done lost
  · intro w' h done
    obtain ⟨held, cart, item, hreserved, rfl⟩ := holds w' h
    refine Effect.ensures_bind.mpr (ensures_request ?_ ?_ ?_)
    · intro unsaved
      refine reserved row c₀ c held cart item loaded changed hreserved (by rw [done]; trivial) ?_
      rintro - ⟨applies, saves⟩
      cases hdb : CartService.saveCart svc.uuid w.db env.others env.dbNow env.lineIDs c
          (some (svc.newItemAddedToCart env c (svc.newLine env req))) with
      | error e =>
        rw [hdb] at saves
        cases saves
      | ok db => exact unsaved applies _ (Statement.bind_eq_ok.mpr ⟨db, hdb, rfl⟩)
    · intro w'' h applies _
      obtain ⟨db, hdb, ⟨⟩⟩ := Statement.bind_eq_ok.mp h
      exact saved row c₀ c held cart item db w.cache loaded changed hreserved hdb applies fun _ _ => rfl
    · intro w'' h done
      obtain ⟨db, hdb, ⟨⟩⟩ := Statement.bind_eq_ok.mp h
      have any := fun cache => saved row c₀ c held cart item db cache loaded changed hreserved hdb
        (by rw [done]; trivial)
      refine Effect.ensures_bind.mpr (ensures_cacheSet (fun _ => any) fun _ => ?_)
      exact any _ fun key ne => Function.update_of_ne ne _ _

/-- A change of a loaded cart that is saved without an event. -/
theorem of_change {cartID : String} {f : Cart → Except CartError Cart} (before : Q w)
    (saved : ∀ row c₀ c db cache, Loaded svc env.load env.ties w cartID row c₀ → f c₀ = .ok c →
      CartService.saveCart svc.uuid w.db env.others env.dbNow env.lineIDs c none = .ok db →
      env.save.applies → Apart c w.cache cache → Q { w with db, cache }) :
    Effect.Ensures (do
      let c ← svc.loadAndLock env cartID
      let c ← mutate (f c)
      svc.saveWithoutEvent env c
      pure c) w (fun w _ => Q w) Q := by
  refine Effect.ensures_bind.mpr (ensures_load before fun row c₀ loaded => ?_)
  refine Effect.ensures_bind.mpr (ensures_mutate before fun c changed => ?_)
  refine Effect.ensures_bind.mpr (ensures_saveWithoutEvent before ?_ ?_)
  · intro db cache hdb applies apart
    exact saved row c₀ c db cache loaded changed hdb applies apart
  · intro db cache hdb done _ apart
    exact saved row c₀ c db cache loaded changed hdb (by rw [done]; trivial) apart

theorem of_updateItem {req : UpdateItemRequest} (before : Q w)
    (saved : ∀ row c₀ c db cache, ¬ (req.cartID = "" ∨ req.lineID = "" ∨ req.quantity < 0) →
      Loaded svc env.load env.ties w req.cartID row c₀ →
      c₀.updateLine req.lineID req.quantity.toInt64 req.modifiers env.now = .ok c →
      CartService.saveCart svc.uuid w.db env.others env.dbNow env.lineIDs c none = .ok db →
      env.save.applies → Apart c w.cache cache → Q { w with db, cache }) :
    Q (svc.updateItem env req w).1 :=
  Effect.ensures_state.mp (Effect.ensures_ite.mpr ⟨fun _ => before, fun given =>
    of_change (f := fun c => c.updateLine req.lineID req.quantity.toInt64 req.modifiers env.now) before
      fun row c₀ c db cache => saved row c₀ c db cache given⟩)

theorem of_removeItem {req : RemoveItemRequest} (before : Q w)
    (saved : ∀ row c₀ c db cache, Loaded svc env.load env.ties w req.cartID row c₀ →
      c₀.removeLine req.lineID env.now = .ok c →
      CartService.saveCart svc.uuid w.db env.others env.dbNow env.lineIDs c none = .ok db →
      env.save.applies → Apart c w.cache cache → Q { w with db, cache }) :
    Q (svc.removeItem env req w).1 :=
  Effect.ensures_state.mp (Effect.ensures_ite.mpr ⟨fun _ => before, fun _ =>
    of_change (f := fun c => c.removeLine req.lineID env.now) before saved⟩)

theorem of_finalizeCart {req : FinalizeCartRequest} (before : Q w)
    (saved : ∀ row c₀ c db cache, Loaded svc env.load env.ties w req.cartID row c₀ →
      (withPhone c₀ req.customerPhone).finalize env.now = .ok c →
      CartService.saveCart svc.uuid w.db env.others env.dbNow env.lineIDs c
        (some (svc.newCartFinalized env c)) = .ok db →
      env.save.applies → Apart c w.cache cache → Q { w with db, cache }) :
    Q (svc.finalizeCart env req w).1 := by
  refine Effect.ensures_state.mp (Effect.ensures_ite.mpr ⟨fun _ => before, fun _ => ?_⟩)
  refine Effect.ensures_bind.mpr (ensures_load before fun row c₀ loaded => ?_)
  refine Effect.ensures_bind.mpr (ensures_mutate before fun c changed => ?_)
  refine Effect.ensures_bind.mpr (ensures_request (fun _ => before) ?_ ?_)
  · intro w' h applies _
    obtain ⟨db, hdb, ⟨⟩⟩ := Statement.bind_eq_ok.mp h
    exact saved row c₀ c db w.cache loaded changed hdb applies fun _ _ => rfl
  · intro w' h done
    obtain ⟨db, hdb, ⟨⟩⟩ := Statement.bind_eq_ok.mp h
    have any := fun cache => saved row c₀ c db cache loaded changed hdb (by rw [done]; trivial)
    refine Effect.ensures_bind.mpr (ensures_request (fun _ => any _ fun _ _ => rfl) ?_ ?_)
    · rintro w'' ⟨⟩ - -
      exact any _ fun key ne => Function.update_of_ne ne _ _
    · rintro w'' ⟨⟩ -
      exact any _ fun key ne => Function.update_of_ne ne _ _

theorem of_mergeGhostCart {req : MergeGhostCartRequest} (before : Q w)
    (saved : ∀ row t ghostRow g db cache, Loaded svc env.load env.ties w req.targetCartID row t →
      Loaded svc env.loadGhost env.ghostTies w req.ghostCartID ghostRow g →
      CartService.saveCart svc.uuid w.db env.others env.dbNow env.lineIDs
        (merged svc.sha256 env.walk t g req.sourceHLC env.now) none = .ok db →
      env.save.applies → Apart t w.cache cache → Q { w with db, cache })
    (deleted : ∀ row t ghostRow g db db' cache, Loaded svc env.load env.ties w req.targetCartID row t →
      Loaded svc env.loadGhost env.ghostTies w req.ghostCartID ghostRow g →
      CartService.saveCart svc.uuid w.db env.others env.dbNow env.lineIDs
        (merged svc.sha256 env.walk t g req.sourceHLC env.now) none = .ok db →
      CartService.deleteCart svc.uuid db env.others g.cartID = .ok db' →
      env.save = .ok → env.cache = .ok → env.delete.applies → Apart t w.cache cache → Q { w with db := db', cache }) :
    Q (svc.mergeGhostCart env req w).1 := by
  refine Effect.ensures_state.mp (Effect.ensures_ite.mpr ⟨fun _ => before, fun _ => ?_⟩)
  refine Effect.ensures_bind.mpr (ensures_load before fun row t target => ?_)
  refine Effect.ensures_bind.mpr (ensures_load before fun ghostRow g ghost => ?_)
  refine Effect.ensures_bind.mpr (Effect.ensures_read.mpr ⟨?_, fun _ _ => before⟩)
  rintro res ⟨⟩
  refine Effect.ensures_bind.mpr (ensures_saveWithoutEvent before ?_ ?_)
  · intro db cache hdb applies apart
    exact saved row t ghostRow g db cache target ghost hdb applies apart
  · intro db cache hdb saveDone cached apart
    refine Effect.ensures_bind.mpr (ensures_request
      (fun _ => saved row t ghostRow g db cache target ghost hdb (by rw [saveDone]; trivial) apart)
      ?_ ?_)
    · intro w' h applies _
      obtain ⟨db', hdb', ⟨⟩⟩ := Statement.bind_eq_ok.mp h
      exact deleted row t ghostRow g db db' cache target ghost hdb hdb' saveDone cached applies apart
    · intro w' h done
      obtain ⟨db', hdb', ⟨⟩⟩ := Statement.bind_eq_ok.mp h
      have any := fun cache => deleted row t ghostRow g db db' cache target ghost hdb hdb' saveDone
        cached (by rw [done]; trivial)
      refine Effect.ensures_bind.mpr (ensures_cacheSet ?_ fun _ => ?_)
      · intro _ cache' apart'
        exact any cache' fun key ne => (apart' key ne).trans (apart key ne)
      · exact any _ fun key ne => (Function.update_of_ne ne _ _).trans (apart key ne)

/-- Calls keep to the schema. -/
theorem valid_step (a : Env × Call) (valid : w.db.Valid) : (svc.step w a).db.Valid := by
  obtain ⟨env, call⟩ := a
  have saved {c : Cart} {event : Option Entry} {db : DB}
      (h : CartService.saveCart svc.uuid w.db env.others env.dbNow env.lineIDs c event = .ok db) :
      db.Valid := by
    obtain ⟨_, _, _, saved⟩ := saveCart_eq_ok h
    exact saved.valid valid
  cases call with
  | createCart req =>
    refine of_createCart (Q := fun w => w.db.Valid) valid ?_
    intro db new rows cache _ created _ _ _
    exact created.valid valid
  | getCart cartID => exact of_getCart (Q := fun w => w.db.Valid) valid fun _ _ _ _ _ => valid
  | addItem req =>
    refine of_addItem (Q := fun w => w.db.Valid) valid (fun _ _ _ _ _ _ _ _ _ _ _ => valid) ?_
    intro row c₀ c held cart item db cache _ _ _ hdb _ _
    exact saved hdb
  | updateItem req =>
    refine of_updateItem (Q := fun w => w.db.Valid) valid ?_
    intro row c₀ c db cache _ _ _ hdb _ _
    exact saved hdb
  | removeItem req =>
    refine of_removeItem (Q := fun w => w.db.Valid) valid ?_
    intro row c₀ c db cache _ _ hdb _ _
    exact saved hdb
  | finalizeCart req =>
    refine of_finalizeCart (Q := fun w => w.db.Valid) valid ?_
    intro row c₀ c db cache _ _ hdb _ _
    exact saved hdb
  | mergeGhostCart req =>
    refine of_mergeGhostCart (Q := fun w => w.db.Valid) valid ?_ ?_
    · intro row t ghostRow g db cache _ _ hdb _ _
      exact saved hdb
    · intro row t ghostRow g db db' cache _ _ hdb hdb' _ _ _ _
      obtain ⟨id, -, -, rfl⟩ := deleteCart_eq_ok hdb'
      exact (saved hdb).delete id

theorem valid_run {calls : List (Env × Call)} (valid : w.db.Valid) :
    (Runs.run svc.step w calls).db.Valid :=
  Runs.run_inv (I := fun w : World => w.db.Valid) (fun _ a valid => valid_step a valid) valid calls

theorem loaded_of_cart? {o : Outcome} {ties : Shuffle LineRow} {cartID : String} {c : Cart}
    (h : svc.cart? o ties w cartID = some c) : ∃ row, Loaded svc o ties w cartID row c := by
  cases o with
  | ok =>
    obtain ⟨row, parsed, stored⟩ := getCart_eq_ok (Statement.toOption_eq_some.mp h)
    exact ⟨row, h, parsed, stored⟩
  | failed | lost => cases h

end Service

/-! ## A shop with one kiosk and two items -/

namespace Shop

def texts : List (UUID × String) := [
  (1, "00000000-0000-0000-0000-000000000001"), (2, "00000000-0000-0000-0000-000000000002"),
  (3, "00000000-0000-0000-0000-000000000003"), (4, "00000000-0000-0000-0000-000000000004"),
  (5, "00000000-0000-0000-0000-000000000005"), (6, "00000000-0000-0000-0000-000000000006")]

def text (u : UUID) : String := (texts.lookup u).getD ""

/-- What a call finds around it when it makes the id `n`. -/
def env (n : UUID) : Env where
  addedAt := 0
  now := 0
  dbNow := 0
  newID := n
  eventID := n
  orderID := n
  lineIDs _ := n
  others := { stores := [1], kiosks := [1], items := [1, 2] }

def empty : World where
  db := {}
  cache _ := none
  held _ _ := 0

def create (cart : UUID) : Env × Call := (env cart, .createCart ⟨text 1, text 1, text cart, ""⟩)

def add (line cart item : UUID) (quantity : Int32) : Env × Call :=
  (env line, .addItem ⟨text cart, text item, quantity, []⟩)

def remove (cart line : UUID) : Env × Call := (env 1, .removeItem ⟨text cart, text line⟩)

def finalize (order cart : UUID) : Env × Call := (env order, .finalizeCart ⟨text cart, ""⟩)

def merge (target ghost : UUID) : Env × Call :=
  (env 1, .mergeGhostCart ⟨text target, text ghost, 0⟩)

end Shop

def shop : Service where
  uuid := .memo .hyphenated Shop.texts
  sha256 := id

theorem shop_uuid : shop.uuid = .hyphenated :=
  UUIDText.memo_eq UUIDText.lawful_hyphenated (by decide +kernel)

theorem lawful_shop : shop.uuid.Lawful := shop_uuid ▸ UUIDText.lawful_hyphenated

end CartService
