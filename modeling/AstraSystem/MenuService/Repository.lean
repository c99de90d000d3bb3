import AstraSystem.Lib.Collation
import AstraSystem.Lib.UUID
import Mathlib.Data.Prod.Lex
import Mathlib.Order.WithBot

/-!
# The menu catalog in Postgres (`repository/repository.go`)

Categories and items are deleted softly. A list is ordered by the query, and rows
that tie stay in the order of the table. Metadata is its JSON text.
-/

namespace MenuService

structure Category where
  categoryID : UUID
  storeID : UUID
  parentID : Option UUID
  name : String
  description : Option String
  displayOrder : ℤ
  imageURL : Option String
  blurhash : Option String
  isActive : Bool
  deriving DecidableEq

structure ModifierOption where
  modifierOptionID : UUID
  modifierGroupID : UUID
  name : String
  priceDeltaCents : ℤ
  isDefault : Bool
  displayOrder : ℤ
  isActive : Bool
  deriving DecidableEq

structure ModifierGroup where
  modifierGroupID : UUID
  storeID : UUID
  name : String
  description : Option String
  minSelect : ℤ
  maxSelect : ℤ
  displayOrder : ℤ
  isActive : Bool
  options : List ModifierOption := []
  deriving DecidableEq

structure Item where
  itemID : UUID
  storeID : UUID
  categoryID : UUID
  name : String
  description : Option String
  priceCents : ℤ
  costCents : Option ℤ
  plu : Option String
  barcode : Option String
  sku : Option String
  imageURL : Option String
  blurhash : Option String
  taxCategory : String
  isWeightBased : Bool
  weightUnit : Option String
  isActive : Bool
  modifierGroups : List ModifierGroup := []
  metadata : Option String
  deriving DecidableEq

structure Menu where
  storeID : UUID
  categories : List Category
  items : List Item
  deriving DecidableEq

/-- A row of a table that has a `deleted_at`. -/
structure Row (A : Type) where
  value : A
  deleted : Bool
  deriving DecidableEq

/-- What the outbox is told. -/
inductive Event where
  | menuUpdated (entityType : String) (entityID storeID : UUID)
  | itemPriceChanged (itemID storeID : UUID) (previousPriceCents newPriceCents : ℤ)
  deriving DecidableEq

structure DB where
  categories : List (Row Category) := []
  items : List (Row Item) := []
  modifierGroups : List (Row ModifierGroup) := []
  modifierOptions : List (Row ModifierOption) := []
  itemModifierGroups : List (UUID × UUID) := []
  outbox : List Event := []
  deriving DecidableEq

/-! ## Reading -/

section
variable {K : Type} [LinearOrder K] (collate : String → K)

/-- `$2::boolean IS NULL OR is_active = $2`, the flag being unset where inactive rows are asked for too. -/
def shows (includeInactive isActive : Bool) : Bool := includeInactive || isActive

/-- The query does not select the store. -/
def getCategories (db : DB) (storeID : UUID) (includeInactive : Bool) : List Category :=
  let rows := db.categories.filter fun row =>
    row.value.storeID = storeID && !row.deleted && shows includeInactive row.value.isActive
  (Collation.sortBy (fun c => toLex (c.displayOrder, collate c.name)) (rows.map Row.value)).map fun c =>
    { c with storeID := 0 }

def getItems (db : DB) (storeID : UUID) (includeInactive : Bool) : List Item :=
  let rows := db.items.filter fun row =>
    row.value.storeID = storeID && !row.deleted && shows includeInactive row.value.isActive
  (Collation.sortBy (fun it => collate it.name) (rows.map Row.value)).map fun it => { it with modifierGroups := [] }

end

/-- At most one row has the id. -/
def getItemByID (db : DB) (itemID : UUID) : Option Item :=
  (db.items.find? fun row => row.value.itemID = itemID && !row.deleted).map fun row =>
    { row.value with modifierGroups := [] }

/-- `strings.ReplaceAll(query, "%", "\\%")` between two more. -/
def searchPattern (query : String) : String :=
  "%" ++ String.ofList (query.toList.flatMap fun c => if c = '%' then ['\\', '%'] else [c]) ++ "%"

/-- `ilike` is the operator of Postgres: a text, and the pattern it is held against. A description that is null does
not match. -/
def searchItems {K : Type} [LinearOrder K] (collate : String → K) (ilike : String → String → Bool) (uuid : UUIDText)
    (db : DB) (storeID : UUID) (query categoryID : String) (includeInactive : Bool) : Except String (List Item) := do
  let pattern := if query = "" then none else some (searchPattern query)
  let catID ← if categoryID = "" then .ok none
    else match uuid.parse categoryID with
      | .ok id => .ok (some id)
      | .error err => .error ("repository: invalid category_id: " ++ err)
  let rows := db.items.filter fun row =>
    row.value.storeID = storeID && !row.deleted && shows includeInactive row.value.isActive &&
      (pattern.elim true fun p => ilike row.value.name p || row.value.description.elim false (ilike · p)) &&
      (catID.elim true fun id => row.value.categoryID = id)
  .ok ((Collation.sortBy (fun it => collate it.name) (rows.map Row.value)).map fun it => { it with modifierGroups := [] })

/-- A row of the join: an item, a group of its, and an option of the group if there is one. -/
structure JoinRow where
  itemID : UUID
  group : ModifierGroup
  option : Option ModifierOption

/-- Rows without an option come last. -/
def JoinRow.order (row : JoinRow) : ℤ ×ₗ WithTop ℤ :=
  toLex (row.group.displayOrder, row.option.elim ⊤ fun o => o.displayOrder)

def DB.optionsOf (db : DB) (modifierGroupID : UUID) : List (Option ModifierOption) :=
  let options := (db.modifierOptions.filter fun row =>
    row.value.modifierGroupID = modifierGroupID && !row.deleted).map Row.value
  if options.isEmpty then [none] else options.map some

def DB.joinRows (db : DB) (itemIDs : List UUID) : List JoinRow :=
  let links := db.itemModifierGroups.filter fun link => link.1 ∈ itemIDs
  Collation.sortBy JoinRow.order <| links.flatMap fun link =>
    let groups := db.modifierGroups.filter fun row =>
      row.value.modifierGroupID = link.2 && !row.deleted && row.value.isActive
    groups.flatMap fun row => (db.optionsOf link.2).map fun option => ⟨link.1, row.value, option⟩

/-- The body of the loop over the rows. -/
def addRow (groups : UUID → List ModifierGroup) (row : JoinRow) (itemID : UUID) : List ModifierGroup :=
  if itemID ≠ row.itemID then groups itemID
  else
    let own := groups itemID
    let known := own.any fun g => g.modifierGroupID = row.group.modifierGroupID
    let own := if known then own else own ++ [{ row.group with options := [] }]
    own.map fun g =>
      if g.modifierGroupID = row.group.modifierGroupID then { g with options := g.options ++ row.option.toList } else g

def getModifierGroupsByItemIDs (db : DB) (itemIDs : List UUID) : UUID → List ModifierGroup :=
  (db.joinRows itemIDs).foldl addRow fun _ => []

def attachModifierGroups (db : DB) (items : List Item) : List Item :=
  let groups := getModifierGroupsByItemIDs db (items.map Item.itemID)
  items.map fun it => { it with modifierGroups := groups it.itemID }

/-! ## Writing -/

def errNoRows : String := "sql: no rows in result set"

/-- `UPDATE .. WHERE id = $1 AND deleted_at IS NULL` -/
def updateWhere {A : Type} (id : A → UUID) (own : UUID) (set : Row A → Row A) (rows : List (Row A)) :
    Except String (List (Row A)) :=
  let hit := fun row : Row A => decide (id row.value = own) && !row.deleted
  if rows.any hit then .ok (rows.map fun row => if hit row then set row else row) else .error errNoRows

def softDelete {A : Type} (row : Row A) : Row A := { row with deleted := true }

/-- `newID` is what `uuid.New` returns. -/
def createCategory (newID : UUID) (c : Category) (db : DB) : Except String DB :=
  let c := if c.categoryID = 0 then { c with categoryID := newID } else c
  .ok { db with
    categories := db.categories ++ [⟨c, false⟩]
    outbox := db.outbox ++ [.menuUpdated "category" c.categoryID c.storeID] }

def updateCategory (c : Category) (db : DB) : Except String DB := do
  let categories ← updateWhere Category.categoryID c.categoryID
    (fun row => { row with value := { c with storeID := row.value.storeID } }) db.categories
  pure { db with categories, outbox := db.outbox ++ [.menuUpdated "category" c.categoryID c.storeID] }

def deleteCategory (categoryID storeID : UUID) (db : DB) : Except String DB := do
  let categories ← updateWhere Category.categoryID categoryID softDelete db.categories
  pure { db with categories, outbox := db.outbox ++ [.menuUpdated "category" categoryID storeID] }

/-- The row that is written for an item: no metadata is an empty document, and its groups are other rows. -/
def Item.stored (it : Item) : Item :=
  { it with
    taxCategory := if it.taxCategory = "" then "standard" else it.taxCategory
    metadata := some (it.metadata.getD "\x7b\x7d")
    modifierGroups := [] }

def createItem (newID : UUID) (it : Item) (db : DB) : Except String DB :=
  let it := if it.itemID = 0 then { it with itemID := newID } else it
  .ok { db with
    items := db.items ++ [⟨it.stored, false⟩]
    outbox := db.outbox ++ [.menuUpdated "item" it.itemID it.storeID] }

def updateItem (it : Item) (db : DB) : Except String DB := do
  let items ← updateWhere Item.itemID it.itemID
    (fun row => { row with value := { it.stored with storeID := row.value.storeID } }) db.items
  pure { db with items, outbox := db.outbox ++ [.menuUpdated "item" it.itemID it.storeID] }

def updateItemPrice (itemID : UUID) (newPriceCents : ℤ) (db : DB) : Except String DB := do
  let previous ← match db.items.find? fun row => row.value.itemID = itemID && !row.deleted with
    | some row => .ok row.value
    | none => .error errNoRows
  let items ← updateWhere Item.itemID itemID
    (fun row => { row with value := { row.value with priceCents := newPriceCents } }) db.items
  pure { db with
    items
    outbox := db.outbox ++ [.itemPriceChanged itemID previous.storeID previous.priceCents newPriceCents] }

def deleteItem (itemID storeID : UUID) (db : DB) : Except String DB := do
  let items ← updateWhere Item.itemID itemID softDelete db.items
  pure { db with items, outbox := db.outbox ++ [.menuUpdated "item" itemID storeID] }

inductive Write where
  | createCategory (newID : UUID) (c : Category)
  | updateCategory (c : Category)
  | deleteCategory (categoryID storeID : UUID)
  | createItem (newID : UUID) (it : Item)
  | updateItem (it : Item)
  | updateItemPrice (itemID : UUID) (newPriceCents : ℤ)
  | deleteItem (itemID storeID : UUID)

def Write.tx : Write → DB → Except String DB
  | createCategory newID c => MenuService.createCategory newID c
  | updateCategory c => MenuService.updateCategory c
  | deleteCategory categoryID storeID => MenuService.deleteCategory categoryID storeID
  | createItem newID it => MenuService.createItem newID it
  | updateItem it => MenuService.updateItem it
  | updateItemPrice itemID newPriceCents => MenuService.updateItemPrice itemID newPriceCents
  | deleteItem itemID storeID => MenuService.deleteItem itemID storeID

/-- A transaction commits unless its result breaks a constraint of the tables. -/
def Write.commit (allowed : DB → Bool) (write : Write) (db : DB) : DB × Except String Unit :=
  match write.tx db with
  | .ok db' => if allowed db' then (db', .ok ()) else (db, .error "constraint")
  | .error err => (db, .error err)

end MenuService
