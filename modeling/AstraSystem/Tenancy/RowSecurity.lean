import AstraSystem.Lib.RowPolicy
import AstraSystem.Lib.UUID

/-!
# Row-level security (`001_schema.sql`, `002_schema_enhancements.sql`)

The tables that a tenant's session may read, with the columns that the policies read; `data` is the rest
of a row. The first schema left a policy on `stores` that lets every row pass, and the second one adds
the tenant's own beside it.
-/

namespace Tenancy

open RowPolicy (Truth visible)

variable {A : Type}

structure Store (A : Type) where
  storeID : UUID
  tenantID : Option UUID
  data : A
  deriving DecidableEq

structure Kiosk (A : Type) where
  tenantID : Option UUID
  data : A
  deriving DecidableEq

structure Location (A : Type) where
  locationID : UUID
  tenantID : UUID
  data : A
  deriving DecidableEq

structure Lane (A : Type) where
  locationID : UUID
  data : A
  deriving DecidableEq

structure Role (A : Type) where
  tenantID : UUID
  data : A
  deriving DecidableEq

structure User (A : Type) where
  tenantID : UUID
  data : A
  deriving DecidableEq

structure Order (A : Type) where
  orderID : UUID
  storeID : UUID
  data : A
  deriving DecidableEq

structure Payment (A : Type) where
  orderID : UUID
  data : A
  deriving DecidableEq

structure AuditLog (A : Type) where
  tenantID : Option UUID
  data : A
  deriving DecidableEq

@[ext] structure Database (A : Type) where
  stores : List (Store A) := []
  kiosks : List (Kiosk A) := []
  locations : List (Location A) := []
  lanes : List (Lane A) := []
  roles : List (Role A) := []
  users : List (User A) := []
  orders : List (Order A) := []
  payments : List (Payment A) := []
  auditLogs : List (AuditLog A) := []
  deriving DecidableEq

/-! ## The policies -/

section
variable (currentTenantID : Option UUID) (db : Database A)

/-- `tenant_id = current_tenant_id() OR current_tenant_id() IS NULL` -/
def ownOrUnset (tenantID : Option UUID) : Truth :=
  (Truth.eq tenantID currentTenantID).or (Truth.isNull currentTenantID)

/-- `id IN (SELECT ..) OR current_tenant_id() IS NULL` -/
def amongOrUnset (id : UUID) (selected : List UUID) : Truth :=
  (Truth.isIn (some id) (selected.map some)).or (Truth.isNull currentTenantID)

/-- `USING (true)` -/
def storeIsolation (_ : Store A) : Truth := some true

def tenantIsolationStores (s : Store A) : Truth := ownOrUnset currentTenantID s.tenantID

def tenantIsolationKiosks (k : Kiosk A) : Truth := ownOrUnset currentTenantID k.tenantID

def tenantIsolationLocations (l : Location A) : Truth := ownOrUnset currentTenantID (some l.tenantID)

def tenantIsolationRoles (r : Role A) : Truth := ownOrUnset currentTenantID (some r.tenantID)

def tenantIsolationUsers (u : User A) : Truth := ownOrUnset currentTenantID (some u.tenantID)

def tenantIsolationAuditLogs (a : AuditLog A) : Truth := ownOrUnset currentTenantID a.tenantID

def visibleStores : List (Store A) := visible [storeIsolation, tenantIsolationStores currentTenantID] db.stores

def visibleLocations : List (Location A) := visible [tenantIsolationLocations currentTenantID] db.locations

/-- `SELECT location_id FROM locations WHERE tenant_id = current_tenant_id()` -/
def locationsSelected : List UUID :=
  ((visibleLocations currentTenantID db).filter fun l => Truth.eq (some l.tenantID) currentTenantID = some true).map
    Location.locationID

def tenantIsolationLanes (l : Lane A) : Truth :=
  amongOrUnset currentTenantID l.locationID (locationsSelected currentTenantID db)

/-- `SELECT store_id FROM stores WHERE tenant_id = current_tenant_id()` -/
def storesSelected : List UUID :=
  ((visibleStores currentTenantID db).filter fun s => Truth.eq s.tenantID currentTenantID = some true).map Store.storeID

def tenantIsolationOrders (o : Order A) : Truth :=
  amongOrUnset currentTenantID o.storeID (storesSelected currentTenantID db)

def visibleOrders : List (Order A) := visible [tenantIsolationOrders currentTenantID db] db.orders

/-- `SELECT order_id FROM orders WHERE store_id IN (..)` -/
def ordersSelected : List UUID :=
  ((visibleOrders currentTenantID db).filter fun o =>
    Truth.isIn (some o.storeID) ((storesSelected currentTenantID db).map some) = some true).map Order.orderID

def tenantIsolationPayments (p : Payment A) : Truth :=
  amongOrUnset currentTenantID p.orderID (ordersSelected currentTenantID db)

/-- What the `SELECT`s of a session can return. -/
def seen : Database A where
  stores := visibleStores currentTenantID db
  kiosks := visible [tenantIsolationKiosks currentTenantID] db.kiosks
  locations := visibleLocations currentTenantID db
  lanes := visible [tenantIsolationLanes currentTenantID db] db.lanes
  roles := visible [tenantIsolationRoles currentTenantID] db.roles
  users := visible [tenantIsolationUsers currentTenantID] db.users
  orders := visibleOrders currentTenantID db
  payments := visible [tenantIsolationPayments currentTenantID db] db.payments
  auditLogs := visible [tenantIsolationAuditLogs currentTenantID] db.auditLogs

end

/-! ## Whose a row is -/

section
variable (t : UUID) (db : Database A)

def Location.Of (l : Location A) : Prop := l.tenantID = t

def Store.Of (s : Store A) : Prop := s.tenantID = some t

def Kiosk.Of (k : Kiosk A) : Prop := k.tenantID = some t

def Role.Of (r : Role A) : Prop := r.tenantID = t

def User.Of (u : User A) : Prop := u.tenantID = t

def AuditLog.Of (a : AuditLog A) : Prop := a.tenantID = some t

/-- Through its location. -/
def Lane.Of (l : Lane A) : Prop :=
  ∃ location ∈ db.locations, location.locationID = l.locationID ∧ location.tenantID = t

/-- Through its store. -/
def Order.Of (o : Order A) : Prop := ∃ s ∈ db.stores, s.storeID = o.storeID ∧ s.tenantID = some t

/-- Through its order. -/
def Payment.Of (p : Payment A) : Prop :=
  ∃ o ∈ db.orders, o.orderID = p.orderID ∧ ∃ s ∈ db.stores, s.storeID = o.storeID ∧ s.tenantID = some t

/-- The rows of a tenant. -/
def own : Database A where
  stores := db.stores.filter fun s => s.tenantID = some t
  kiosks := db.kiosks.filter fun k => k.tenantID = some t
  locations := db.locations.filter fun l => l.tenantID = t
  lanes := db.lanes.filter fun l =>
    ∃ location ∈ db.locations, location.locationID = l.locationID ∧ location.tenantID = t
  roles := db.roles.filter fun r => r.tenantID = t
  users := db.users.filter fun u => u.tenantID = t
  orders := db.orders.filter fun o => ∃ s ∈ db.stores, s.storeID = o.storeID ∧ s.tenantID = some t
  payments := db.payments.filter fun p =>
    ∃ o ∈ db.orders, o.orderID = p.orderID ∧ ∃ s ∈ db.stores, s.storeID = o.storeID ∧ s.tenantID = some t
  auditLogs := db.auditLogs.filter fun a => a.tenantID = some t

/-- A session of the tenant sees rows of the tenant only. -/
structure Isolated : Prop where
  stores : ∀ s ∈ (seen (some t) db).stores, s.Of t
  kiosks : ∀ k ∈ (seen (some t) db).kiosks, k.Of t
  locations : ∀ l ∈ (seen (some t) db).locations, l.Of t
  lanes : ∀ l ∈ (seen (some t) db).lanes, l.Of t db
  roles : ∀ r ∈ (seen (some t) db).roles, r.Of t
  users : ∀ u ∈ (seen (some t) db).users, u.Of t
  orders : ∀ o ∈ (seen (some t) db).orders, o.Of t db
  payments : ∀ p ∈ (seen (some t) db).payments, p.Of t db
  auditLogs : ∀ a ∈ (seen (some t) db).auditLogs, a.Of t

/-- Every store is the tenant's. -/
def SoleTenant : Prop := ∀ s ∈ db.stores, s.tenantID = some t

end

/-! ## What a session of a tenant sees -/

section
variable {t : UUID} {db db' : Database A}

theorem ownOrUnset_iff {tenantID : Option UUID} : ownOrUnset (some t) tenantID = some true ↔ tenantID = some t := by
  rw [ownOrUnset, Truth.or_eq_true, Truth.eq_some_eq_true]
  simp

theorem amongOrUnset_iff {id : UUID} {selected : List UUID} :
    amongOrUnset (some t) id selected = some true ↔ id ∈ selected := by
  rw [amongOrUnset, Truth.or_eq_true, Truth.isIn_eq_true]
  simp

theorem visibleStores_eq (currentTenantID : Option UUID) (db : Database A) :
    visibleStores currentTenantID db = db.stores :=
  RowPolicy.visible_of_open List.mem_cons_self fun _ => rfl

theorem visibleLocations_eq (t : UUID) (db : Database A) :
    visibleLocations (some t) db = db.locations.filter fun l => l.tenantID = t :=
  RowPolicy.visible_singleton fun l _ => by simp [tenantIsolationLocations, ownOrUnset_iff]

theorem mem_locationsSelected {id : UUID} :
    id ∈ locationsSelected (some t) db ↔ ∃ l ∈ db.locations, l.locationID = id ∧ l.tenantID = t := by
  simp only [locationsSelected, visibleLocations_eq, List.mem_map, List.mem_filter, decide_eq_true_eq,
    Truth.eq_some_eq_true, Option.some.injEq]
  constructor
  · rintro ⟨l, ⟨⟨mem, own⟩, -⟩, same⟩
    exact ⟨l, mem, same, own⟩
  · rintro ⟨l, mem, same, own⟩
    exact ⟨l, ⟨⟨mem, own⟩, own⟩, same⟩

theorem mem_storesSelected {id : UUID} :
    id ∈ storesSelected (some t) db ↔ ∃ s ∈ db.stores, s.storeID = id ∧ s.tenantID = some t := by
  simp only [storesSelected, visibleStores_eq, List.mem_map, List.mem_filter, decide_eq_true_eq,
    Truth.eq_some_eq_true]
  constructor
  · rintro ⟨s, ⟨mem, own⟩, same⟩
    exact ⟨s, mem, same, own⟩
  · rintro ⟨s, mem, same, own⟩
    exact ⟨s, ⟨mem, own⟩, same⟩

theorem visibleOrders_eq (t : UUID) (db : Database A) : visibleOrders (some t) db =
    db.orders.filter fun o => ∃ s ∈ db.stores, s.storeID = o.storeID ∧ s.tenantID = some t :=
  RowPolicy.visible_singleton fun o _ => by
    rw [tenantIsolationOrders, amongOrUnset_iff, mem_storesSelected, decide_eq_true_eq]

theorem mem_ordersSelected {id : UUID} : id ∈ ordersSelected (some t) db ↔
    ∃ o ∈ db.orders, o.orderID = id ∧ ∃ s ∈ db.stores, s.storeID = o.storeID ∧ s.tenantID = some t := by
  simp only [ordersSelected, visibleOrders_eq, List.mem_map, List.mem_filter, decide_eq_true_eq, Truth.isIn_eq_true]
  constructor
  · rintro ⟨o, ⟨⟨mem, own⟩, -⟩, same⟩
    exact ⟨o, mem, same, own⟩
  · rintro ⟨o, mem, same, own⟩
    exact ⟨o, ⟨⟨mem, own⟩, _, mem_storesSelected.mpr own, rfl⟩, same⟩

/-- All stores are seen, and of every other table the tenant's rows. -/
theorem seen_eq (t : UUID) (db : Database A) : seen (some t) db = { own t db with stores := db.stores } := by
  refine Database.ext ?_ ?_ ?_ ?_ ?_ ?_ ?_ ?_ ?_
  · exact visibleStores_eq (some t) db
  · exact RowPolicy.visible_singleton fun k _ => by simp [tenantIsolationKiosks, ownOrUnset_iff]
  · exact visibleLocations_eq t db
  · exact RowPolicy.visible_singleton fun l _ => by
      rw [tenantIsolationLanes, amongOrUnset_iff, mem_locationsSelected, decide_eq_true_eq]
  · exact RowPolicy.visible_singleton fun r _ => by simp [tenantIsolationRoles, ownOrUnset_iff]
  · exact RowPolicy.visible_singleton fun u _ => by simp [tenantIsolationUsers, ownOrUnset_iff]
  · exact visibleOrders_eq t db
  · exact RowPolicy.visible_singleton fun p _ => by
      rw [tenantIsolationPayments, amongOrUnset_iff, mem_ordersSelected, decide_eq_true_eq]
  · exact RowPolicy.visible_singleton fun a _ => by simp [tenantIsolationAuditLogs, ownOrUnset_iff]

theorem isolated_iff : Isolated t db ↔ SoleTenant t db := by
  constructor
  · intro h s mem
    have isolated := h.stores
    rw [seen_eq] at isolated
    exact isolated s mem
  · intro sole
    have picked {R : Type} {rows : List R} {P : R → Prop} [DecidablePred P] :
        ∀ row ∈ rows.filter (fun row => P row), P row := fun row mem => of_decide_eq_true (List.mem_filter.mp mem).2
    -- Of every table but the stores, exactly the tenant's rows are left.
    constructor <;> rw [seen_eq]
    · exact sole
    · exact picked
    · exact picked
    · exact picked
    · exact picked
    · exact picked
    · exact picked
    · exact picked
    · exact picked

/-- **Two databases show a tenant its own rows only, and alike where they differ in rows of others, exactly when
neither has a store of another tenant.** -/
theorem tenants_isolated_iff (t : UUID) (db db' : Database A) :
    (Isolated t db ∧ Isolated t db' ∧ (own t db = own t db' → seen (some t) db = seen (some t) db')) ↔
      SoleTenant t db ∧ SoleTenant t db' := by
  rw [isolated_iff, isolated_iff]
  constructor
  · rintro ⟨h, h', -⟩
    exact ⟨h, h'⟩
  · rintro ⟨h, h'⟩
    refine ⟨h, h', fun same => ?_⟩
    have all {db : Database A} (h : SoleTenant t db) : db.stores = (own t db).stores :=
      (List.filter_eq_self.mpr fun s mem => decide_eq_true (h s mem)).symm
    rw [seen_eq, seen_eq, all h, all h', same]

end

/-- A store of the second tenant. -/
def neighbour : Database Unit where
  stores := [⟨7, some 2, ()⟩]

theorem neighbour_seen : own 1 neighbour = own 1 ({} : Database Unit) ∧ ¬ Isolated 1 neighbour ∧
    seen (some 1) neighbour ≠ seen (some 1) ({} : Database Unit) := by
  refine ⟨by decide, ?_, by decide⟩
  rw [isolated_iff]
  intro sole
  exact absurd (sole ⟨7, some 2, ()⟩ List.mem_cons_self) (by decide)

end Tenancy
