import AstraSystem.Lib.Paging
import AstraSystem.OrderService.Agreement
import AstraSystem.OrderService.Lifecycle

/-!
# Orders page by page (`service/service.go`)

The service and the repository each make a size of the one that is sent, and an order that is newer than another comes
before it. Which of two equally old ones comes first the database decides anew for each page.
-/

namespace OrderService.Repository.Pages

open Lifecycle

structure PaginationRequest where
  page : Int32
  pageSize : Int32
  deriving DecidableEq, Repr

structure ListOrdersRequest where
  storeID : String
  kioskID : String
  status : OrderStatus
  pagination : Option PaginationRequest
  deriving DecidableEq, Repr

/-- The response, with the orders as they are before `toProto`. -/
structure ListOrdersResponse where
  orders : List (Order String)
  page : Int32
  pageSize : Int32
  total : ℕ
  hasMore : Bool

def normalize (pagination : Option PaginationRequest) : Int32 × Int32 :=
  match pagination with
  | none => (1, 20)
  | some p => (if 0 < p.page then p.page else 1, if 0 < p.pageSize then p.pageSize else 20)

def statusFilter (status : OrderStatus) : String :=
  if status ≠ .unspecified then statusFromProto status else ""

def listOrders (repo : ListFilter → Except RepositoryError (List (Order String) × ℕ)) (req : ListOrdersRequest) :
    Except Lifecycle.Failure ListOrdersResponse :=
  let (page, pageSize) := normalize req.pagination
  match repo ⟨req.storeID, req.kioskID, statusFilter req.status, page, pageSize⟩ with
  | .error err => .error ⟨.internal, "list orders: " ++ err.message⟩
  | .ok (orders, total) => .ok ⟨orders, page, pageSize, total, (page * pageSize).toInt < total⟩

/-! ## What a client asks for -/

/-- What stays the same from page to page. -/
structure Query where
  storeID : String
  kioskID : String
  status : OrderStatus
  pageSize : Int32

namespace Query

def request (q : Query) (page : ℕ) : ListOrdersRequest where
  storeID := q.storeID
  kioskID := q.kioskID
  status := q.status
  pagination := some ⟨.ofNat page, q.pageSize⟩

/-- The size of a page for the service. -/
def size (q : Query) : Int32 := if 0 < q.pageSize then q.pageSize else 20

/-- And for the Postgres repository. -/
def clamped (q : Query) : Int32 := if 100 < q.size then 100 else q.size

section
variable {ID : Type} (same : String → ID → Bool) (q : Query)

/-- An order of the store and of the kiosk, where they are named. -/
def Located (o : Order ID) : Prop :=
  (q.storeID = "" ∨ same q.storeID o.storeID = true) ∧ (q.kioskID = "" ∨ same q.kioskID o.kioskID = true)

/-- An order that matches: of the status that is asked for, too. -/
def Wants (o : Order ID) : Prop :=
  q.Located same o ∧ (q.status = .unspecified ∨ o.status = statusFromProto q.status)

/-- An order that the filter lets through. -/
def Keeps (o : Order ID) : Prop :=
  q.Located same o ∧ (statusFilter q.status = "" ∨ o.status = statusFilter q.status)

instance decidableLocated (o : Order ID) : Decidable (q.Located same o) := inferInstanceAs (Decidable (_ ∧ _))

instance decidableWants (o : Order ID) : Decidable (q.Wants same o) := inferInstanceAs (Decidable (_ ∧ _))

instance decidableKeeps (o : Order ID) : Decidable (q.Keeps same o) := inferInstanceAs (Decidable (_ ∧ _))

/-- A status without a name is asked for only where no order has another. -/
def Named (rows : List (Order ID)) : Prop :=
  ∀ n, q.status = .unknown n → ∀ o ∈ rows, q.Located same o → o.status = ""

end

end Query

/-- The page after which there are no more. -/
def lastPage (n size : ℕ) : ℕ := max 1 ((n + size - 1) / size)

def shown : Except Lifecycle.Failure ListOrdersResponse → List (Order String)
  | .ok resp => resp.orders
  | .error _ => []

/-- The products of a page and its size are those of the integers. -/
def Exact (size clamped : Int32) (page : ℕ) : Prop :=
  (Int32.ofNat page * size).toInt = page * size.toInt ∧
    ((Int32.ofNat page - 1) * clamped).toInt = (page - 1) * clamped.toInt

/-- The pages up to the first that has no more are the wanted orders, and every one says how many there are. -/
def Complete (answers : ℕ → Except Lifecycle.Failure ListOrdersResponse) (countable : ℕ → Prop)
    (wanted : List (Order String)) : Prop :=
  ∃ last, 0 < last ∧
    (∀ page, 0 < page → page ≤ last → countable page ∧
      ∃ resp, answers page = .ok resp ∧ resp.total = wanted.length ∧ (resp.hasMore = true ↔ page < last)) ∧
    ((List.range last).flatMap fun i => shown (answers (i + 1))).Perm wanted

section
variable {q : Query} {n s : ℕ} {answers : ℕ → Except Lifecycle.Failure ListOrdersResponse}
  {countable : ℕ → Prop} {wanted : List (Order String)}

/-! ## The last page -/

theorem mul_lt_iff {k : ℕ} (pos : 0 < s) (first : 0 < k) : k * s < n ↔ k < lastPage n s := by
  have quotient : k < (n + s - 1) / s ↔ k * s < n := by
    rw [← Nat.succ_le_iff, Nat.le_div_iff_mul_le pos, Nat.succ_mul]
    omega
  rw [lastPage, ← quotient]
  omega

theorem lastPage_pos : 0 < lastPage n s := Nat.lt_of_lt_of_le Nat.one_pos (Nat.le_max_left _ _)

/-- The last page is the only one after whose predecessors there are more. -/
theorem eq_lastPage {last : ℕ} (pos : 0 < s) (first : 0 < last)
    (more : ∀ k, 0 < k → k ≤ last → (k * s < n ↔ k < last)) : last = lastPage n s := by
  have here := more last first (Nat.le_refl _)
  rw [mul_lt_iff pos first] at here
  rcases Nat.lt_or_ge 1 last with several | one
  · have before := (more (last - 1) (by omega) (by omega)).mpr (by omega)
    rw [mul_lt_iff pos (by omega)] at before
    omega
  · have := lastPage_pos (n := n) (s := s)
    omega

/-- Answers that are pages, counted rightly as long as nothing overflows. -/
structure Serves (answers : ℕ → Except Lifecycle.Failure ListOrdersResponse) (countable : ℕ → Prop) (n s : ℕ)
    (pages : ℕ → List (Order String)) : Prop where
  countable_iff : ∀ k, 0 < k → (countable k ↔ k * s < 2 ^ 31)
  answer : ∀ k, 0 < k → k * s < 2 ^ 31 → ∃ resp, answers k = .ok resp ∧ resp.orders = pages (k - 1) ∧
    resp.total = n ∧ (resp.hasMore = true ↔ k * s < n)

theorem Serves.complete_iff {pages : ℕ → List (Order String)} (serves : Serves answers countable n s pages)
    (pos : 0 < s) : Complete answers countable wanted ↔
      n = wanted.length ∧ lastPage n s * s < 2 ^ 31 ∧
        ((List.range (lastPage n s)).flatMap pages).Perm wanted := by
  have small {k : ℕ} (le : k ≤ lastPage n s) (fits : lastPage n s * s < 2 ^ 31) : k * s < 2 ^ 31 :=
    Nat.lt_of_le_of_lt (Nat.mul_le_mul_right s le) fits
  have shows (fits : lastPage n s * s < 2 ^ 31) :
      ((List.range (lastPage n s)).flatMap fun i => shown (answers (i + 1))) =
        (List.range (lastPage n s)).flatMap pages := by
    refine List.flatMap_congr fun i hi => ?_
    obtain ⟨resp, answer, orders, -⟩ :=
      serves.answer (i + 1) (Nat.succ_pos i) (small (Nat.succ_le_of_lt (List.mem_range.mp hi)) fits)
    rw [answer, shown, orders, Nat.add_sub_cancel]
  constructor
  · rintro ⟨last, first, each, perm⟩
    have fits (k : ℕ) (some : 0 < k) (le : k ≤ last) : k * s < 2 ^ 31 :=
      (serves.countable_iff k some).mp (each k some le).1
    have counted (k : ℕ) (some : 0 < k) (le : k ≤ last) : n = wanted.length ∧ (k * s < n ↔ k < last) := by
      obtain ⟨-, resp, answer, total, more⟩ := each k some le
      obtain ⟨resp', answer', -, total', more'⟩ := serves.answer k some (fits k some le)
      cases answer.symm.trans answer'
      exact ⟨total'.symm.trans total, more'.symm.trans more⟩
    obtain rfl := eq_lastPage pos first fun k some le => (counted k some le).2
    have fit := fits _ first (Nat.le_refl _)
    rw [shows fit] at perm
    exact ⟨(counted _ first (Nat.le_refl _)).1, fit, perm⟩
  · rintro ⟨total, fits, perm⟩
    refine ⟨lastPage n s, lastPage_pos, fun k some le => ?_, ?_⟩
    · refine ⟨(serves.countable_iff k some).mpr (small le fits), ?_⟩
      obtain ⟨resp, answer, -, total', more⟩ := serves.answer k some (small le fits)
      exact ⟨resp, answer, total'.trans total, more.trans (mul_lt_iff pos some)⟩
    · rw [shows fits]
      exact perm

/-! ## The filter -/

section
variable {ID : Type} {same : String → ID → Bool} {rows : List (Order ID)} {o : Order ID}

theorem Query.Wants.keeps (h : q.Wants same o) : q.Keeps same o := by
  refine ⟨h.1, ?_⟩
  unfold statusFilter
  split
  · rename_i asked
    exact .inr (h.2.resolve_left asked)
  · exact .inl rfl

theorem Query.Keeps.wants (h : q.Keeps same o) (named : q.Named same rows) (mem : o ∈ rows) : q.Wants same o := by
  obtain ⟨located, kept⟩ := h
  refine ⟨located, ?_⟩
  unfold statusFilter at kept
  cases hs : q.status with
  | unspecified => exact .inl rfl
  | unknown n => exact .inr (named n hs o mem located)
  | pending | paid | fulfilled | cancelled | refunded =>
    rw [hs] at kept
    exact .inr (kept.resolve_left (by decide))

/-- Nothing else is counted only if no other status is let through. -/
theorem length_keeps_iff : (rows.filter (q.Keeps same ·)).length = (rows.filter (q.Wants same ·)).length ↔
    q.Named same rows := by
  have inner : rows.filter (q.Wants same ·) = (rows.filter (q.Keeps same ·)).filter (q.Wants same ·) := by
    rw [List.filter_filter]
    refine List.filter_congr fun o _ => ?_
    have keeps : q.Wants same o → q.Keeps same o := Query.Wants.keeps
    by_cases wants : q.Wants same o <;> simp [wants, keeps]
  rw [inner, eq_comm, List.length_filter_eq_length_iff]
  constructor
  · intro all n unknown o ho located
    have kept : q.Keeps same o := ⟨located, .inl (by rw [statusFilter, unknown]; rfl)⟩
    have wants : q.Wants same o := by simpa using all o (List.mem_filter.mpr ⟨ho, by simpa using kept⟩)
    rcases wants.2 with none | status
    · cases unknown.symm.trans none
    · rw [status, unknown]
      rfl
  · intro named o ho
    obtain ⟨mem, kept⟩ := List.mem_filter.mp ho
    simpa using Query.Keeps.wants (by simpa using kept) named mem

theorem Query.Named.filter_eq (named : q.Named same rows) :
    rows.filter (q.Keeps same ·) = rows.filter (q.Wants same ·) :=
  List.filter_congr fun _ ho => decide_eq_decide.mpr ⟨fun kept => kept.wants named ho, Query.Wants.keeps⟩

end

/-! ## Products -/

theorem Query.toInt_size (q : Query) : 1 ≤ q.size.toInt := by
  have twenty : (20 : Int32).toInt = 20 := rfl
  unfold Query.size
  split
  · rename_i positive
    rw [Int32.lt_iff_toInt_lt, Int32.toInt_zero] at positive
    omega
  · rw [twenty]
    decide

theorem Query.toInt_clamped (q : Query) : 1 ≤ q.clamped.toInt ∧ q.clamped.toInt ≤ q.size.toInt := by
  have hundred : (100 : Int32).toInt = 100 := rfl
  have least := q.toInt_size
  unfold Query.clamped
  split
  · rename_i more
    rw [Int32.lt_iff_toInt_lt, hundred] at more
    omega
  · exact ⟨least, le_refl _⟩

theorem exact_iff {size clamped : Int32} (some : 1 ≤ clamped.toInt) (le : clamped.toInt ≤ size.toInt) {k : ℕ}
    (first : 0 < k) : Exact size clamped k ↔ k * size.toInt.toNat < 2 ^ 31 := by
  have cast : ((k * size.toInt.toNat : ℕ) : ℤ) = k * size.toInt := by
    rw [Nat.cast_mul, Int.toNat_of_nonneg (by omega)]
  constructor
  · rintro ⟨product, -⟩
    have := (Int32.ofNat k * size).toInt_lt
    omega
  · intro small
    have bound : (k : ℤ) * size.toInt < 2 ^ 31 := by omega
    have page : (k : ℤ) * 1 ≤ k * size.toInt := Int.mul_le_mul_of_nonneg_left (by omega) (by omega)
    have number : (Int32.ofNat k).toInt = k := Int32.toInt_ofNat_of_lt (by omega)
    constructor
    · rw [Int32.toInt_mul, number]
      exact Int.bmod_eq_of_le (by omega) (by omega)
    · have less : ((k : ℤ) - 1) * clamped.toInt ≤ k * size.toInt :=
        Int.mul_le_mul (by omega) le (by omega) (by omega)
      rw [toInt_offset (by omega) some (by rw [number]; omega), number]

/-- A page that is sent stays as it is. -/
theorem normalize_request (q : Query) {k : ℕ} (first : 0 < k) (small : k < 2 ^ 31) :
    normalize (q.request k).pagination = (.ofNat k, q.size) := by
  have positive : 0 < Int32.ofNat k := by
    rw [Int32.lt_iff_toInt_lt, Int32.toInt_ofNat_of_lt small, Int32.toInt_zero]
    omega
  show (if 0 < Int32.ofNat k then Int32.ofNat k else 1, q.size) = _
  rw [if_pos positive]

/-- What the service makes of a page of the repository. -/
theorem listOrders_of_ok {repo : ListFilter → Except RepositoryError (List (Order String) × ℕ)} {k total : ℕ}
    {orders : List (Order String)} (first : 0 < k) (small : k * q.size.toInt.toNat < 2 ^ 31)
    (found : repo ⟨q.storeID, q.kioskID, statusFilter q.status, .ofNat k, q.size⟩ = .ok (orders, total)) :
    ∃ resp, listOrders repo (q.request k) = .ok resp ∧ resp.orders = orders ∧ resp.total = total ∧
      (resp.hasMore = true ↔ k * q.size.toInt.toNat < total) := by
  have least := q.toInt_size
  have product := ((exact_iff least (le_refl _) first).mpr small).1
  have page : k * 1 ≤ k * q.size.toInt.toNat := Nat.mul_le_mul_left k (by omega)
  have cast : ((k * q.size.toInt.toNat : ℕ) : ℤ) = k * q.size.toInt := by
    rw [Nat.cast_mul, Int.toNat_of_nonneg (by omega)]
  refine ⟨⟨orders, .ofNat k, q.size, total, (Int32.ofNat k * q.size).toInt < total⟩, ?_, rfl, rfl, ?_⟩
  · unfold listOrders
    rw [normalize_request q first (by omega)]
    show (match repo ⟨q.storeID, q.kioskID, statusFilter q.status, .ofNat k, q.size⟩ with
      | .error err => .error ⟨.internal, "list orders: " ++ err.message⟩
      | .ok (orders, total) => .ok ⟨orders, .ofNat k, q.size, total, (Int32.ofNat k * q.size).toInt < total⟩ :
        Except Lifecycle.Failure ListOrdersResponse) = _
    rw [found]
  · rw [decide_eq_true_iff, product]
    omega

/-- Every order of the rows can be had. -/
theorem exists_shuffle {R : Type} {l l' : List R} (perm : l'.Perm l) :
    ∃ shuffle : Shuffle R, shuffle.apply l = l' := by
  classical
  refine ⟨⟨fun x => if x = l then l' else x, fun x => ?_⟩, if_pos rfl⟩
  by_cases same : x = l
  · rw [if_pos same, same]
    exact perm
  · rw [if_neg same]

end

/-! ## Postgres -/

/-- A text is an id. -/
def reads (uuid : UUIDText) (text : String) (id : UUID) : Bool :=
  match uuid.parse text with
  | .ok u => u = id
  | .error _ => false

def Query.wanted (uuid : UUIDText) (db : DB) (q : Query) : List (Order UUID) :=
  db.orders.rows.filter (q.Wants (reads uuid) ·)

def newest (o : Order UUID) : ℤ := o.createdAt.unixNano

/-- The list that a page is cut out of. -/
def sorted (db : DB) (ties : Shuffle (Order UUID)) : List (Order UUID) :=
  (ties.apply db.orders.rows).insertionSort fun a b => b.createdAt.unixNano ≤ a.createdAt.unixNano

/-- Orders are asked for without a filter. -/
structure Query.All (q : Query) : Prop where
  store : q.storeID = ""
  kiosk : q.kioskID = ""
  status : statusFilter q.status = ""

section
variable {uuid : UUIDText} {db : DB} {q : Query}

/-- Without a filter none is left out. -/
theorem Query.All.filter_eq (all : q.All) (same : String → UUID → Bool) :
    db.orders.rows.filter (q.Keeps same ·) = db.orders.rows :=
  List.filter_eq_self.mpr fun _ _ => decide_eq_true ⟨⟨.inl all.store, .inl all.kiosk⟩, .inl all.status⟩

theorem arranged_sorted (db : DB) (ties : Shuffle (Order UUID)) :
    Paging.Arranged newest db.orders.rows (sorted db ties) where
  perm := (List.perm_insertionSort _ _).trans (ties.perm _)
  sorted := List.pairwise_insertionSort (fun a b : Order UUID => b.createdAt.unixNano ≤ a.createdAt.unixNano) _

theorem exists_sorted {L : List (Order UUID)} (arranged : Paging.Arranged newest db.orders.rows L) :
    ∃ ties, sorted db ties = L := by
  obtain ⟨ties, same⟩ := exists_shuffle arranged.perm
  refine ⟨ties, ?_⟩
  rw [sorted, same]
  exact List.Pairwise.insertionSort_eq arranged.sorted

theorem postgres_page (all : q.All) (columns : db.tables.orders = true) (ties : Shuffle (Order UUID)) {k : ℕ}
    (first : 0 < k) (small : k * q.size.toInt.toNat < 2 ^ 31) :
    Repository.listOrders uuid db ties ⟨q.storeID, q.kioskID, statusFilter q.status, .ofNat k, q.size⟩ =
      .ok ((Paging.page q.clamped.toInt.toNat (sorted db ties) (k - 1)).map (Order.scan uuid),
        db.orders.rows.length) := by
  have least := q.toInt_size
  obtain ⟨some, le⟩ := q.toInt_clamped
  have page : k * 1 ≤ k * q.size.toInt.toNat := Nat.mul_le_mul_left k (by omega)
  have number : (Int32.ofNat k).toInt = k := Int32.toInt_ofNat_of_lt (by omega)
  have offset := ((exact_iff some le first).mpr small).2
  have one : (1 : Int32).toInt = 1 := rfl
  have empty : ListFilter.Empty ⟨q.storeID, q.kioskID, statusFilter q.status, .ofNat k, q.size⟩ :=
    ⟨all.store, all.kiosk, all.status⟩
  have page_eq : (if Int32.ofNat k < 1 then 1 else Int32.ofNat k) = Int32.ofNat k :=
    if_neg (by rw [Int32.lt_iff_toInt_lt, number, one]; omega)
  have size_eq : (if q.size < 1 then 20 else if 100 < q.size then 100 else q.size) = q.clamped :=
    if_neg (by rw [Int32.lt_iff_toInt_lt, one]; omega)
  have nonneg : 0 ≤ ((k : ℤ) - 1) * q.clamped.toInt := Int.mul_nonneg (by omega) (by omega)
  have start : (((k : ℤ) - 1) * q.clamped.toInt).toNat = (k - 1) * q.clamped.toInt.toNat := by
    rw [Int.toNat_mul (by omega) (by omega)]
    congr 1
    omega
  unfold Repository.listOrders
  simp only [page_eq, size_eq, empty, columns, not_true_eq_false, ↓reduceIte]
  rw [if_neg (by rw [Int32.lt_iff_toInt_lt, offset, Int32.toInt_zero]; omega), offset, start]
  rfl

theorem serves_postgres (all : q.All) (columns : db.tables.orders = true) (ties : ℕ → Shuffle (Order UUID)) :
    Serves (fun k => listOrders (Repository.listOrders uuid db (ties k)) (q.request k)) (Exact q.size q.clamped)
      db.orders.rows.length q.size.toInt.toNat fun i =>
        (Paging.page q.clamped.toInt.toNat (sorted db (ties (i + 1))) i).map (Order.scan uuid) where
  countable_iff _ first := exact_iff q.toInt_clamped.1 q.toInt_clamped.2 first
  answer k first small := by
    obtain ⟨k, rfl⟩ : ∃ j, k = j + 1 := ⟨k - 1, by omega⟩
    exact listOrders_of_ok first small (postgres_page all columns (ties (k + 1)) first small)

theorem nodup_scan (laws : uuid.Lawful) (p : Order UUID → Bool) :
    ((db.orders.rows.filter p).map (Order.scan uuid)).Nodup := by
  have ids : (db.orders.rows.filter p).Pairwise fun a b => a.orderID ≠ b.orderID :=
    (List.pairwise_map.mp db.orders.nodup).filter p
  refine List.pairwise_map.mpr (ids.imp fun differ same => differ ?_)
  exact laws.string_injective (congrArg Order.orderID same)

/-- When the orders of the Postgres repository come completely: the table has what the query names, nothing is
filtered, a status without a name is of no consequence, nothing overflows, the pages that the service counts hold all
orders, though the repository makes them shorter, and no two orders on both sides of a boundary are equally old. -/
structure Pageable (uuid : UUIDText) (db : DB) (q : Query) : Prop where
  columns : db.tables.orders = true
  all : q.All
  named : q.Named (reads uuid) db.orders.rows
  fits : lastPage (q.wanted uuid db).length q.size.toInt.toNat * q.size.toInt.toNat < 2 ^ 31
  enough : (q.wanted uuid db).length ≤
    lastPage (q.wanted uuid db).length q.size.toInt.toNat * q.clamped.toInt.toNat
  apart : ∀ i, 0 < i → i < lastPage (q.wanted uuid db).length q.size.toInt.toNat →
    ¬ Paging.TiedAt newest (q.wanted uuid db) (i * q.clamped.toInt.toNat)

theorem empty_of_listed {ties : Shuffle (Order UUID)} {filter : ListFilter} {found : List (Order String) × ℕ}
    (h : Repository.listOrders uuid db ties filter = .ok found) : filter.Empty ∧ db.tables.orders = true := by
  unfold Repository.listOrders at h
  extract_lets at h
  split at h
  · cases h
  · rename_i empty
    split at h
    · cases h
    · rename_i columns
      exact ⟨not_not.mp empty, not_not.mp columns⟩

/-- A page says that there is no filter. -/
theorem all_of_complete {ties : ℕ → Shuffle (Order UUID)} {countable : ℕ → Prop} {wanted : List (Order String)}
    (h : Complete (fun k => listOrders (Repository.listOrders uuid db (ties k)) (q.request k)) countable wanted) :
    q.All ∧ db.tables.orders = true := by
  obtain ⟨last, first, each, -⟩ := h
  obtain ⟨-, resp, answer, -⟩ := each 1 Nat.one_pos first
  simp only [listOrders] at answer
  split at answer
  · cases answer
  · rename_i found
    obtain ⟨⟨store, kiosk, status⟩, columns⟩ := empty_of_listed found
    exact ⟨⟨store, kiosk, status⟩, columns⟩

theorem postgres_complete_iff (laws : uuid.Lawful) (db : DB) (q : Query) :
    (∀ ties : ℕ → Shuffle (Order UUID),
      Complete (fun k => listOrders (Repository.listOrders uuid db (ties k)) (q.request k)) (Exact q.size q.clamped)
        ((q.wanted uuid db).map (Order.scan uuid))) ↔ Pageable uuid db q := by
  have some := q.toInt_clamped.1
  have pos : 0 < q.size.toInt.toNat := by
    have := q.toInt_size
    omega
  have nodup : ((q.wanted uuid db).map (Order.scan uuid)).Nodup := nodup_scan laws _
  -- Without a filter, and with the statuses as they should be, the pages are those of the list.
  have pages (all : q.All) (named : q.Named (reads uuid) db.orders.rows) :
      (∀ ties : ℕ → Shuffle (Order UUID),
        ((List.range (lastPage (q.wanted uuid db).length q.size.toInt.toNat)).flatMap fun i =>
          (Paging.page q.clamped.toInt.toNat (sorted db (ties (i + 1))) i).map (Order.scan uuid)).Perm
            ((q.wanted uuid db).map (Order.scan uuid))) ↔
      (q.wanted uuid db).length ≤ lastPage (q.wanted uuid db).length q.size.toInt.toNat * q.clamped.toInt.toNat ∧
        ∀ i, 0 < i → i < lastPage (q.wanted uuid db).length q.size.toInt.toNat →
          ¬ Paging.TiedAt newest (q.wanted uuid db) (i * q.clamped.toInt.toNat) := by
    have same : db.orders.rows = q.wanted uuid db := (all.filter_eq _).symm.trans named.filter_eq
    rw [← Paging.pages_perm_iff nodup (by omega)]
    have joined (L : ℕ → List (Order UUID)) (count : ℕ) : ((List.range count).flatMap fun i =>
        (Paging.page q.clamped.toInt.toNat (L i) i).map (Order.scan uuid)) =
          (Paging.pages q.clamped.toInt.toNat count L).map (Order.scan uuid) := (List.map_flatMap ..).symm
    simp only [joined]
    constructor
    · intro complete L arranged
      choose ties same' using fun i => exists_sorted (same.symm ▸ arranged i)
      have pages := complete fun k => ties (k - 1)
      simpa only [Nat.add_sub_cancel, same'] using pages
    · intro complete ties
      exact complete _ fun i => same ▸ arranged_sorted db (ties (i + 1))
  constructor
  · intro complete
    obtain ⟨all, columns⟩ := all_of_complete (complete fun _ => .none _)
    have each (ties : ℕ → Shuffle (Order UUID)) :=
      ((serves_postgres all columns ties).complete_iff pos).mp (complete ties)
    have counted := (each fun _ => .none _).1
    rw [List.length_map] at counted
    have named : q.Named (reads uuid) db.orders.rows :=
      length_keeps_iff.mp ((congrArg List.length (all.filter_eq _)).trans counted)
    rw [counted] at each
    obtain ⟨enough, apart⟩ := (pages all named).mp fun ties => (each ties).2.2
    exact ⟨columns, all, named, (each fun _ => .none _).2.1, enough, apart⟩
  · rintro ⟨columns, all, named, fits, enough, apart⟩ ties
    have perm := (pages all named).mpr ⟨enough, apart⟩ ties
    have counted : db.orders.rows.length = (q.wanted uuid db).length :=
      (congrArg List.length (all.filter_eq _)).symm.trans (length_keeps_iff.mpr named)
    refine ((serves_postgres all columns ties).complete_iff pos).mpr ?_
    rw [counted, List.length_map]
    exact ⟨rfl, fits, perm⟩

/-! ## Memory -/

/-- Ids are compared as texts. -/
def spelled (text id : String) : Bool := id = text

def Query.wantedIn (m : MemoryRepository) (q : Query) : List (Order String) :=
  m.orders.rows.filter (q.Wants spelled ·)

/-- The list that a page is cut out of: the map as it is walked. -/
def walked (m : MemoryRepository) (q : Query) (walk : Shuffle (Order String)) : List (Order String) :=
  (walk.apply m.orders.rows).filter (q.Keeps spelled ·)

/-- When the orders of the memory repository come completely: on one page. -/
structure OnOnePage (m : MemoryRepository) (q : Query) : Prop where
  named : q.Named spelled m.orders.rows
  single : (q.wantedIn m).length ≤ q.size.toInt.toNat

section
variable {m : MemoryRepository}

/-- Nothing sorts the orders. -/
def unsorted (_ : Order String) : Unit := ()

theorem walked_perm (q : Query) (walk : Shuffle (Order String)) :
    (walked m q walk).Perm (m.orders.rows.filter (q.Keeps spelled ·)) := (walk.perm _).filter _

theorem exists_walked {L : List (Order String)} (perm : L.Perm (m.orders.rows.filter (q.Keeps spelled ·))) :
    ∃ walk, walked m q walk = L := by
  have whole : (L ++ m.orders.rows.filter fun o => !decide (q.Keeps spelled o)).Perm m.orders.rows :=
    (perm.append_right _).trans (List.filter_append_perm _ _)
  obtain ⟨walk, same⟩ := exists_shuffle whole
  refine ⟨walk, ?_⟩
  have kept : L.filter (q.Keeps spelled ·) = L :=
    List.filter_eq_self.mpr fun o ho => (List.mem_filter.mp (perm.mem_iff.mp ho)).2
  have others : (m.orders.rows.filter fun o => !decide (q.Keeps spelled o)).filter (q.Keeps spelled ·) = [] := by
    rw [List.filter_eq_nil_iff]
    intro o ho
    simpa using (List.mem_filter.mp ho).2
  rw [walked, same, List.filter_append, kept, others, List.append_nil]

/-- A slice that is cut short at the end of the list. -/
theorem slice_eq_page {A : Type} (l : List A) (i s : ℕ) :
    (l.drop (min ((i * s : ℕ) : ℤ) l.length).toNat).take
      (min (min ((i * s : ℕ) : ℤ) l.length + s) l.length - min ((i * s : ℕ) : ℤ) l.length).toNat =
        Paging.page s l i := by
  rw [Paging.page]
  by_cases inside : i * s ≤ l.length
  · rw [show (min ((i * s : ℕ) : ℤ) l.length).toNat = i * s by omega]
    rw [List.take_eq_take_iff, List.length_drop]
    omega
  · rw [List.drop_eq_nil_of_le (by omega), List.drop_eq_nil_of_le (by omega), List.take_nil, List.take_nil]

theorem memory_page (walk : Shuffle (Order String)) {k : ℕ} (first : 0 < k)
    (small : k * q.size.toInt.toNat < 2 ^ 31) :
    m.listOrders walk ⟨q.storeID, q.kioskID, statusFilter q.status, .ofNat k, q.size⟩ =
      .ok ((Paging.page q.size.toInt.toNat (walked m q walk) (k - 1)).map Order.clone,
        (m.orders.rows.filter (q.Keeps spelled ·)).length) := by
  have least := q.toInt_size
  have page : k * 1 ≤ k * q.size.toInt.toNat := Nat.mul_le_mul_left k (by omega)
  have number : (Int32.ofNat k).toInt = k := Int32.toInt_ofNat_of_lt (by omega)
  have offset := ((exact_iff least (le_refl _) first).mpr small).2
  have one : (1 : Int32).toInt = 1 := rfl
  have matched : ((walk.apply m.orders.rows).filter fun o => (q.storeID = "" ∨ o.storeID = q.storeID) ∧
      (q.kioskID = "" ∨ o.kioskID = q.kioskID) ∧ (statusFilter q.status = "" ∨ o.status = statusFilter q.status)) =
      walked m q walk := by
    refine List.filter_congr fun o _ => decide_eq_decide.mpr ?_
    simp only [Query.Keeps, Query.Located, spelled, decide_eq_true_eq, and_assoc]
  have page_eq : (if Int32.ofNat k < 1 then 1 else Int32.ofNat k) = Int32.ofNat k :=
    if_neg (by rw [Int32.lt_iff_toInt_lt, number, one]; omega)
  have size_eq : (if q.size < 1 then 20 else q.size) = q.size :=
    if_neg (by rw [Int32.lt_iff_toInt_lt, one]; omega)
  have start : ((k : ℤ) - 1) * q.size.toInt = (((k - 1) * q.size.toInt.toNat : ℕ) : ℤ) := by
    rw [Nat.cast_mul, Int.toNat_of_nonneg (by omega), Nat.cast_sub first, Nat.cast_one]
  have size : q.size.toInt = (q.size.toInt.toNat : ℤ) := (Int.toNat_of_nonneg (by omega)).symm
  unfold MemoryRepository.listOrders
  simp only [page_eq, size_eq, matched]
  rw [offset, start, if_neg (by omega), ← slice_eq_page, (walked_perm q walk).length_eq, ← size]

theorem serves_memory (m : MemoryRepository) (q : Query) (walks : ℕ → Shuffle (Order String)) :
    Serves (fun k => listOrders (m.listOrders (walks k)) (q.request k)) (Exact q.size q.size)
      (m.orders.rows.filter (q.Keeps spelled ·)).length q.size.toInt.toNat fun i =>
        (Paging.page q.size.toInt.toNat (walked m q (walks (i + 1))) i).map Order.clone where
  countable_iff _ first := exact_iff q.toInt_size (le_refl _) first
  answer k first small := by
    obtain ⟨k, rfl⟩ : ∃ j, k = j + 1 := ⟨k - 1, by omega⟩
    exact listOrders_of_ok first small (memory_page (walks (k + 1)) first small)

/-- Without a key every boundary inside the list is tied. -/
theorem tiedAt_unsorted {M : List (Order String)} {b : ℕ} : Paging.TiedAt unsorted M b ↔ b < M.length := by
  have length : (Paging.keys unsorted M).length = M.length := by
    rw [Paging.keys, List.length_insertionSort, List.length_map]
  constructor
  · intro tied
    by_contra behind
    exact Paging.not_tiedAt_of_le (not_lt.mp behind) tied
  · intro inside
    exact ⟨(), List.getElem?_eq_getElem (by omega), List.getElem?_eq_getElem (by omega)⟩

theorem memory_complete_iff (m : MemoryRepository) (q : Query) :
    (∀ walks : ℕ → Shuffle (Order String),
      Complete (fun k => listOrders (m.listOrders (walks k)) (q.request k)) (Exact q.size q.size)
        ((q.wantedIn m).map Order.clone)) ↔ OnOnePage m q := by
  have pos : 0 < q.size.toInt.toNat := by
    have := q.toInt_size
    omega
  have most : q.size.toInt.toNat < 2 ^ 31 := by
    have := q.size.toInt_lt
    omega
  have nodup : ((q.wantedIn m).map Order.clone).Nodup := by
    have ids : (q.wantedIn m).Pairwise fun a b => a.orderID ≠ b.orderID :=
      (List.pairwise_map.mp m.orders.nodup).filter _
    refine List.pairwise_map.mpr (ids.imp fun {a b} differ same => differ ?_)
    have ids := congrArg Order.orderID (show a.clone = b.clone from same)
    exact ids
  have one (single : (q.wantedIn m).length ≤ q.size.toInt.toNat) :
      lastPage (q.wantedIn m).length q.size.toInt.toNat = 1 := by
    by_contra several
    have := lastPage_pos (n := (q.wantedIn m).length) (s := q.size.toInt.toNat)
    have more := (mul_lt_iff (n := (q.wantedIn m).length) pos Nat.one_pos).mpr (by omega)
    omega
  constructor
  · intro complete
    have each (walks : ℕ → Shuffle (Order String)) :=
      ((serves_memory m q walks).complete_iff pos).mp (complete walks)
    have counted := (each fun _ => .none _).1
    rw [List.length_map] at counted
    have named := length_keeps_iff.mp counted
    have same : m.orders.rows.filter (q.Keeps spelled ·) = q.wantedIn m := named.filter_eq
    refine ⟨named, ?_⟩
    have whole (L : ℕ → List (Order String)) (arranged : ∀ i, Paging.Arranged unsorted (q.wantedIn m) (L i)) :
        ((Paging.pages q.size.toInt.toNat (lastPage (q.wantedIn m).length q.size.toInt.toNat) L).map Order.clone).Perm
          ((q.wantedIn m).map Order.clone) := by
      choose walks same' using fun i => exists_walked (q := q) (same.symm ▸ (arranged i).perm)
      have pages := (each fun k => walks (k - 1)).2.2
      rw [counted] at pages
      simpa only [Nat.add_sub_cancel, same', ← List.map_flatMap, Paging.pages] using pages
    by_contra several
    have first := (mul_lt_iff (n := (q.wantedIn m).length) pos Nat.one_pos).mp (by omega)
    have tied : Paging.TiedAt unsorted (q.wantedIn m) (1 * q.size.toInt.toNat) := tiedAt_unsorted.mpr (by omega)
    exact ((Paging.pages_perm_iff nodup pos).mp whole).2 1 Nat.one_pos first tied
  · rintro ⟨named, single⟩ walks
    refine ((serves_memory m q walks).complete_iff pos).mpr ?_
    have same : m.orders.rows.filter (q.Keeps spelled ·) = q.wantedIn m := named.filter_eq
    rw [same, one single, List.length_map]
    refine ⟨rfl, by omega, ?_⟩
    rw [List.range_one, List.flatMap_singleton, Paging.page, Nat.zero_mul, List.drop_zero]
    have perm : (walked m q (walks 1)).Perm (q.wantedIn m) := same ▸ walked_perm q (walks 1)
    rw [List.take_of_length_le (perm.length_eq.trans_le single)]
    exact perm.map _

end

end

/-- **Postgres pages are complete exactly without a filter, as long as the service's pages are no longer than the
repository's in all and no equally old orders stand on both sides of a boundary; memory's exactly if all orders fit on
one page.** -/
theorem paging_complete_iff {uuid : UUIDText} (laws : uuid.Lawful) (db : DB) (m : MemoryRepository) (q : Query) :
    ((∀ ties : ℕ → Shuffle (Order UUID),
      Complete (fun k => listOrders (Repository.listOrders uuid db (ties k)) (q.request k)) (Exact q.size q.clamped)
        ((q.wanted uuid db).map (Order.scan uuid))) ↔ Pageable uuid db q) ∧
      ((∀ walks : ℕ → Shuffle (Order String),
        Complete (fun k => listOrders (m.listOrders (walks k)) (q.request k)) (Exact q.size q.size)
          ((q.wantedIn m).map Order.clone)) ↔ OnOnePage m q) :=
  ⟨postgres_complete_iff laws db q, memory_complete_iff m q⟩

namespace Lunch

/-- An order of noon. -/
def order (orderID : UUID) : Order UUID where
  orderID
  storeID := 2
  kioskID := 3
  cartID := 1
  orderNumber := ""
  status := "pending"
  subtotalCents := 1000
  taxCents := 80
  discountCents := 0
  totalCents := 1080
  currency := "USD"
  items := []
  taxBreakdown := []
  metadata := none
  idempotencyKey := ""
  paidAt := none
  fulfilledAt := none
  cancelledAt := none
  createdAt := Twice.env.now
  updatedAt := Twice.env.now

def two : DB where
  orders := ⟨[order 4, order 5], by decide⟩

/-- All orders, one on a page. -/
def singly : Query := ⟨"", "", .unspecified, 1⟩

theorem two_complete_iff :
    ((∀ ties : ℕ → Shuffle (Order UUID),
      Complete (fun k => listOrders (Repository.listOrders .hyphenated two (ties k)) (singly.request k))
        (Exact singly.size singly.clamped) ((singly.wanted .hyphenated two).map (Order.scan .hyphenated))) ↔
          Pageable .hyphenated two singly) ∧
      ((∀ walks : ℕ → Shuffle (Order String),
        Complete (fun k => listOrders (MemoryRepository.listOrders {} (walks k)) (singly.request k))
          (Exact singly.size singly.size) ((singly.wantedIn {}).map Order.clone)) ↔ OnOnePage {} singly) :=
  paging_complete_iff UUIDText.lawful_hyphenated two {} singly

/-- One of two orders of the same time may come on both pages. -/
theorem one_comes_twice : ¬ ∀ ties : ℕ → Shuffle (Order UUID),
    Complete (fun k => listOrders (Repository.listOrders .hyphenated two (ties k)) (singly.request k))
      (Exact singly.size singly.clamped) ((singly.wanted .hyphenated two).map (Order.scan .hyphenated)) := by
  rw [postgres_complete_iff UUIDText.lawful_hyphenated]
  intro h
  exact h.apart 1 (by decide) (by decide +kernel) ⟨newest (order 4), by decide +kernel, by decide +kernel⟩

end Lunch

end OrderService.Repository.Pages
