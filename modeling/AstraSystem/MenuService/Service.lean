import AstraSystem.Lib.Assoc
import AstraSystem.Lib.Runs
import AstraSystem.MenuService.Repository

/-!
# The menu requests and their cache (`service/service.go`, `cache/cache.go`)

A request answers with what is cached for the store, under either value of
`IncludeInactive`. Nothing that writes the catalog removes what is cached. The
conversion of a menu to its message is the same on both paths and is left out.
-/

namespace MenuService

/-- A JSON document of the cache. -/
inductive Document where
  | menu (m : Menu)
  | categories (l : List Category)
  deriving DecidableEq

abbrev Redis := Assoc.Map String Document

namespace Cache

def key (s : String) : String := "menu:" ++ s

def menuKey (storeID : String) : String := key ("menu:" ++ storeID)

def categoriesKey (storeID : String) : String := key ("categories:" ++ storeID)

def getMenu (redis : Redis) (storeID : String) : Except String (Option Menu) :=
  match redis.lookup (menuKey storeID) with
  | none => .ok none
  | some (.menu m) => .ok (some m)
  | some (.categories _) => .error "cache: unmarshal menu"

def setMenu (redis : Redis) (storeID : String) (m : Menu) : Redis := redis.insert (menuKey storeID) (.menu m)

def getCategories (redis : Redis) (storeID : String) : Except String (Option (List Category)) :=
  match redis.lookup (categoriesKey storeID) with
  | none => .ok none
  | some (.categories l) => .ok (some l)
  | some (.menu _) => .error "cache: unmarshal categories"

def setCategories (redis : Redis) (storeID : String) (l : List Category) : Redis :=
  redis.insert (categoriesKey storeID) (.categories l)

/-- Nothing calls it. -/
def invalidateMenu (redis : Redis) (storeID : String) : Redis :=
  (redis.erase (menuKey storeID)).erase (categoriesKey storeID)

theorem menuKey_inj {s t : String} : menuKey s = menuKey t ↔ s = t := by
  simp [menuKey, key, String.ext_iff]

theorem categoriesKey_inj {s t : String} : categoriesKey s = categoriesKey t ↔ s = t := by
  simp [categoriesKey, key, String.ext_iff]

/-- The two views of a store are apart. -/
theorem menuKey_ne_categoriesKey (s t : String) : menuKey s ≠ categoriesKey t := by
  intro same
  have letters := congrArg String.toList same
  simp only [menuKey, categoriesKey, key, String.toList_append] at letters
  exact absurd (congrArg (·[5]?) letters) (by simp)

/-- After an invalidation a store's requests load again, and those of other stores do not. -/
theorem lookup_invalidateMenu (redis : Redis) (storeID : String) :
    getMenu (invalidateMenu redis storeID) storeID = .ok none ∧
    getCategories (invalidateMenu redis storeID) storeID = .ok none ∧
    ∀ k, k ≠ menuKey storeID → k ≠ categoriesKey storeID → (invalidateMenu redis storeID).lookup k = redis.lookup k := by
  refine ⟨?_, ?_, ?_⟩
  · rw [getMenu, invalidateMenu, AList.lookup_erase_ne (menuKey_ne_categoriesKey _ _), AList.lookup_erase]
  · rw [getCategories, invalidateMenu, AList.lookup_erase]
  · intro k menu categories
    rw [invalidateMenu, AList.lookup_erase_ne categories, AList.lookup_erase_ne menu]

end Cache

/-- `allowed` are the constraints of the tables, `collate` orders names. -/
structure Env (K : Type) where
  uuid : UUIDText
  collate : String → K
  allowed : DB → Bool

section
variable {K : Type} [LinearOrder K] (env : Env K)

/-- What a request for the menu loads. -/
def loadMenu (db : DB) (storeID : UUID) (includeInactive : Bool) : Menu where
  storeID := storeID
  categories := getCategories env.collate db storeID includeInactive
  items := attachModifierGroups db (getItems env.collate db storeID includeInactive)

def loadCategories (db : DB) (storeID : UUID) (includeInactive : Bool) : List Category :=
  getCategories env.collate db storeID includeInactive

namespace Service

def getMenu (redis : Redis) (db : DB) (storeId : String) (includeInactive : Bool) : Redis × Except String Menu :=
  match env.uuid.parse storeId with
  | .error _ => (redis, .error "invalid store_id")
  | .ok storeID =>
    match Cache.getMenu redis (env.uuid.string storeID) with
    | .error err => (redis, .error ("cache error: " ++ err))
    | .ok (some cached) => (redis, .ok cached)
    | .ok none =>
      let menu := loadMenu env db storeID includeInactive
      (Cache.setMenu redis (env.uuid.string storeID) menu, .ok menu)

def getCategories (redis : Redis) (db : DB) (storeId : String) (includeInactive : Bool) :
    Redis × Except String (List Category) :=
  match env.uuid.parse storeId with
  | .error _ => (redis, .error "invalid store_id")
  | .ok storeID =>
    match Cache.getCategories redis (env.uuid.string storeID) with
    | .error err => (redis, .error ("cache error: " ++ err))
    | .ok (some cached) => (redis, .ok cached)
    | .ok none =>
      let categories := loadCategories env db storeID includeInactive
      (Cache.setCategories redis (env.uuid.string storeID) categories, .ok categories)

end Service

/-! ## Runs -/

/-- The flags under which what is cached was loaded are recorded beside it. -/
structure World where
  db : DB
  redis : Redis := ∅
  flags : Assoc.Map String Bool := ∅

/-- An entry expires in its own time. -/
inductive Act where
  | getMenu (storeId : String) (includeInactive : Bool)
  | getCategories (storeId : String) (includeInactive : Bool)
  | write (write : Write)
  | expire (key : String)

inductive Reply where
  | menu (result : Except String Menu)
  | categories (result : Except String (List Category))
  | written (result : Except String Unit)
  | silent
  deriving DecidableEq

def reply (w : World) : Act → Reply
  | .getMenu storeId includeInactive => .menu (Service.getMenu env w.redis w.db storeId includeInactive).2
  | .getCategories storeId includeInactive =>
    .categories (Service.getCategories env w.redis w.db storeId includeInactive).2
  | .write write => .written (write.commit env.allowed w.db).2
  | .expire _ => .silent

/-- The flag of an entry that a request has just set. -/
def World.flagged (w : World) (redis : Redis) (key : String) (includeInactive : Bool) : World :=
  { w with
    redis
    flags := if w.redis.lookup key = none then w.flags.insert key includeInactive else w.flags }

def step (w : World) : Act → World
  | .getMenu storeId includeInactive =>
    match env.uuid.parse storeId with
    | .ok storeID => w.flagged (Service.getMenu env w.redis w.db storeId includeInactive).1
      (Cache.menuKey (env.uuid.string storeID)) includeInactive
    | .error _ => w
  | .getCategories storeId includeInactive =>
    match env.uuid.parse storeId with
    | .ok storeID => w.flagged (Service.getCategories env w.redis w.db storeId includeInactive).1
      (Cache.categoriesKey (env.uuid.string storeID)) includeInactive
    | .error _ => w
  | .write write => { w with db := (write.commit env.allowed w.db).1 }
  | .expire key => { w with redis := w.redis.erase key, flags := w.flags.erase key }

/-- The reply is the one that an empty cache would have led to. -/
def Transparent (w : World) (a : Act) : Prop := reply env w a = reply env { w with redis := ∅ } a

/-- A request finds a view only that was loaded under its flag, or the flag makes no difference, and a write changes
nothing that a cached view shows. -/
def Regular (w : World) : Act → Prop
  | .getMenu storeId includeInactive => ∀ storeID, env.uuid.parse storeId = .ok storeID →
    ∀ flag, w.flags.lookup (Cache.menuKey (env.uuid.string storeID)) = some flag →
      loadMenu env w.db storeID flag = loadMenu env w.db storeID includeInactive
  | .getCategories storeId includeInactive => ∀ storeID, env.uuid.parse storeId = .ok storeID →
    ∀ flag, w.flags.lookup (Cache.categoriesKey (env.uuid.string storeID)) = some flag →
      loadCategories env w.db storeID flag = loadCategories env w.db storeID includeInactive
  | .write write => ∀ storeID flag,
    (w.flags.lookup (Cache.menuKey (env.uuid.string storeID)) = some flag →
      loadMenu env (write.commit env.allowed w.db).1 storeID flag = loadMenu env w.db storeID flag) ∧
    (w.flags.lookup (Cache.categoriesKey (env.uuid.string storeID)) = some flag →
      loadCategories env (write.commit env.allowed w.db).1 storeID flag = loadCategories env w.db storeID flag)
  | .expire _ => True

/-- What is cached is what its flag would load now. -/
structure World.Current (w : World) : Prop where
  menus : ∀ storeID, w.redis.lookup (Cache.menuKey (env.uuid.string storeID)) =
    (w.flags.lookup (Cache.menuKey (env.uuid.string storeID))).map fun flag => .menu (loadMenu env w.db storeID flag)
  categories : ∀ storeID, w.redis.lookup (Cache.categoriesKey (env.uuid.string storeID)) =
    (w.flags.lookup (Cache.categoriesKey (env.uuid.string storeID))).map fun flag =>
      .categories (loadCategories env w.db storeID flag)

end

end MenuService
