import AstraSystem.InventoryService.Service
import AstraSystem.InventoryService.StockConservation

/-!
# Cached stock

While no call is in flight, `GetStock` returns what the repository has, provided that nothing
changed the stock behind the cache: a sweep, a commit whose call failed after it, a call under
another spelling of the ids, a reader that writes back what it read before a change.
-/

namespace InventoryService

/-! ## What a transaction leaves alone -/

/-- What the stock of an item is read from is the same. -/
structure SameStock (db db' : DB) (s i : UUID) : Prop where
  inventory : db'.inventory = db.inventory
  ledger : db'.ledger s i = db.ledger s i
  reserved : db'.reserved s i = db.reserved s i

/-- The items whose stock a call may change. -/
def Call.Touches (uuid : UUIDText) (db : DB) (s i : UUID) : Call → Prop
  | .reserve storeID itemID .. | .release storeID itemID _ | .adjustStock storeID itemID .. =>
    parseStoreItem uuid storeID itemID = .ok (s, i)
  | .expireReservations nowMs => ∃ r ∈ db.reservations.rows, r.expiresAtMs < nowMs ∧
      r.storeID = s ∧ r.itemID = i

section
variable {uuid : UUIDText} {db db' : DB} {env : Env} {s i : UUID}

theorem SameStock.readStock (h : SameStock db db' s i) (notFound : String) :
    readStock uuid notFound db' s i = readStock uuid notFound db s i := by
  unfold InventoryService.readStock DB.selectReserved DB.runningBalance DB.latestTransaction
  rw [h.inventory, h.ledger, h.reserved]

theorem getStock_congr {storeID itemID : String}
    (same : ∀ s i, parseStoreItem uuid storeID itemID = .ok (s, i) → SameStock db db' s i) :
    getStock uuid db' storeID itemID = getStock uuid db storeID itemID := by
  cases parsed : parseStoreItem uuid storeID itemID with
  | error err => simp only [getStock, parsed, bind, Except.bind]
  | ok item =>
    simp only [getStock, parsed, bind, Except.bind, (same item.1 item.2 parsed).readStock]

theorem expireRows_ledger {nowMs : Int64} {rows : List ReservationRow} {k : ℕ}
    (h : Postgres.expireRows uuid env nowMs db k rows = .ok db')
    (others : ∀ r ∈ rows, ¬ (r.storeID = s ∧ r.itemID = i)) : db'.ledger s i = db.ledger s i := by
  induction rows generalizing db k with
  | nil =>
    cases h
    rfl
  | cons row rows ih =>
    obtain ⟨db₁, next, hnext, writes, -, -, h⟩ := expireRows_cons_eq_ok h
    rw [ih h fun r hr => others r (List.mem_cons_of_mem row hr), hnext.ledger writes,
      if_neg (others row List.mem_cons_self)]

theorem sameStock_of_tx {c : Call} (h : Postgres.tx uuid db env c = .ok db')
    (untouched : ¬ c.Touches uuid db s i) : SameStock db db' s i := by
  have apart {store item : UUID} {storeID itemID : String}
      (parsed : parseStoreItem uuid storeID itemID = .ok (store, item))
      (untouched : ¬ parseStoreItem uuid storeID itemID = .ok (s, i)) : ¬ (store = s ∧ item = i) := by
    rintro ⟨rfl, rfl⟩
    exact untouched parsed
  cases c with
  | reserve storeID itemID cartID kioskID quantity =>
    obtain ⟨⟨db₁, id⟩, htx, rfl⟩ := Statement.map_eq_ok.mp h
    obtain ⟨store, item, reserved, new, row, parsed, -, positive, -, -, hstore, hitem, hquantity, -,
      room, hnext, inventory, writes, reservations, -⟩ := Postgres.reserveTx_eq_ok htx
    have other := apart parsed untouched
    have held : new.held s i = 0 := if_neg (hstore ▸ hitem ▸ other)
    have positive : 0 < new.quantity.toInt := hquantity ▸ Int32.lt_iff_toInt_lt.mp positive
    refine ⟨inventory, ?_, ?_⟩
    · rw [hnext.ledger writes, if_neg other]
    · rw [DB.reserved_upsert positive (hquantity ▸ room) reservations, held, add_zero]
  | release storeID itemID cartID =>
    obtain ⟨store, item, cart, parsed, -, ⟨-, rfl⟩ |
      ⟨row, next, found, hnext, inventory, writes, reservations⟩⟩ := Postgres.releaseTx_eq_ok h
    · exact ⟨rfl, rfl, rfl⟩
    · have other := apart parsed untouched
      refine ⟨inventory, ?_, ?_⟩
      · rw [hnext.ledger writes, if_neg other]
      · rw [← DB.reserved_delete reservations, quantityOf]
        suffices none : (List.filter _ (db.reservations.rows.filter _)) = [] by
          rw [none]
          exact (add_zero _).symm
        refine List.filter_eq_nil_iff.mpr fun r hr => ?_
        have key := of_decide_eq_true (List.mem_filter.mp hr).2
        obtain ⟨rfl, rfl, -⟩ : r.storeID = store ∧ r.itemID = item ∧ r.cartID = cart := by
          simpa [ReservationRow.key] using key
        simpa using other
  | adjustStock storeID itemID delta typ referenceID referenceType notes =>
    obtain ⟨store, item, row, parsed, hnext, inventory, writes, rest⟩ :=
      Postgres.adjustStockTx_eq_ok h
    refine ⟨inventory, ?_, ?_⟩
    · rw [hnext.ledger writes, if_neg (apart parsed untouched)]
    · rw [DB.reserved, DB.reserved, DB.reservationsOf, DB.reservationsOf, rest]
  | expireReservations nowMs =>
    have swept := Postgres.expireReservationsTx_eq_ok h
    obtain ⟨inventory, reservations, -, -⟩ := expireRows_eq_ok swept
    refine ⟨inventory, ?_, ?_⟩
    · have others (r : ReservationRow) (hr : r ∈ Postgres.expiredRows db env nowMs) :
          ¬ (r.storeID = s ∧ r.itemID = i) := by
        intro same
        obtain ⟨hr, late⟩ := mem_expiredRows.mp hr
        exact untouched ⟨r, hr, late, same⟩
      have kept := expireRows_ledger swept others
      exact kept
    · rw [← DB.reserved_delete reservations, quantityOf]
      suffices none : (List.filter _ (db.reservations.rows.filter _)) = [] by
        rw [none]
        exact (add_zero _).symm
      refine List.filter_eq_nil_iff.mpr fun r hr same => untouched ?_
      obtain ⟨hr, late⟩ := List.mem_filter.mp hr
      exact ⟨r, hr, of_decide_eq_true late, of_decide_eq_true same⟩

/-- A call whose transaction does not commit leaves the tables alone. -/
theorem call_eq_or (uuid : UUIDText) (db : DB) (env : Env) (c : Call) :
    (Postgres.call uuid db env c).1 = db ∨
      env.fault.commits = true ∧ Postgres.tx uuid db env c = .ok (Postgres.call uuid db env c).1 :=
  (call_cases uuid db env c).imp_left And.left

end

namespace Service

variable {Tid : Type*} [DecidableEq Tid] (uuid : UUIDText)

/-- What a `GetStock` that finds nothing in the cache returns. -/
def stockNow (db : DB) (storeID itemID : String) : Except String Stock :=
  (getStock uuid db storeID itemID).mapError ("service: get stock: " ++ ·)

/-- The actions of a `GetStock` that nothing comes between. -/
def undisturbed (t : Tid) (storeID itemID : String) : List (Act Tid) :=
  [.getStock t storeID itemID, .readStock t none, .setStock t]

def World.Quiet (w : World Tid) : Prop := ∀ t, w.calls t = .idle

/-- No call is in flight, and `GetStock` returns what the repository has. -/
def World.Current (w : World Tid) : Prop :=
  w.Quiet → ∀ t storeID itemID, storeID ≠ "" → itemID ≠ "" →
    replies uuid w (undisturbed t storeID itemID) = [stockNow uuid w.db storeID itemID]

/-- A call has yet to delete an entry. -/
def World.Pending (w : World Tid) (key : String) : Prop :=
  ∃ t req reply, w.calls t = .written req reply ∧ cacheKey req.storeID req.itemID = key

/-- An entry is what the repository has, for all ids it is looked up by. -/
def Agrees (db : DB) (key : String) (m : Hash) : Prop :=
  ∀ storeID itemID, storeID ≠ "" → itemID ≠ "" → cacheKey storeID itemID = key →
    getStock uuid db storeID itemID = .ok (m.stock storeID itemID)

/-- The stock of an item is cached under a key. -/
def StandsFor (key : String) (s i : UUID) : Prop :=
  ∃ storeID itemID, storeID ≠ "" ∧ itemID ≠ "" ∧ cacheKey storeID itemID = key ∧
    parseStoreItem uuid storeID itemID = .ok (s, i)

/-- A transaction that commits changes the stock of no item that stays cached. -/
def Spares (w : World Tid) (env : Env) (c : Call) (deletes : String → Prop) : Prop :=
  env.fault.commits = true → ∀ key, (w.cache key).isSome → w.Pending key ∨ deletes key ∨
    ∀ s i, StandsFor uuid key s i → ¬ c.Touches uuid w.db s i

/-- A reader caches what is still in the repository or is about to be deleted, and what a call or a
sweep changes is not cached, or only under the key that the call comes to delete. -/
def InTime (w : World Tid) : Act Tid → Prop
  | .setStock t => ∀ storeID itemID stock, w.calls t = .loaded storeID itemID stock →
      w.Pending (cacheKey stock.storeID stock.itemID) ∨
        Agrees uuid w.db (cacheKey stock.storeID stock.itemID) stock.hash
  | .request _ req env => Spares uuid w env req.call fun key =>
      cacheKey req.storeID req.itemID = key ∧
        (Postgres.call uuid w.db env req.call).2.isOk = true
  | .sweep env nowMs => Spares uuid w env (.expireReservations nowMs) fun _ => False
  | _ => True

def World.Coherent (w : World Tid) : Prop :=
  ∀ key m, w.cache key = some m → w.Pending key ∨ Agrees uuid w.db key m

variable {uuid} {w : World Tid} {t : Tid}

theorem World.Pending.goto {key : String} (h : w.Pending key) {phase : Phase}
    (before : ∀ req reply, w.calls t = .written req reply → cacheKey req.storeID req.itemID ≠ key) :
    (w.goto t phase).Pending key := by
  obtain ⟨t', req, reply, written, own⟩ := h
  refine ⟨t', req, reply, ?_, own⟩
  have other : t' ≠ t := by
    rintro rfl
    exact before req reply written own
  simpa only [World.goto, other, ↓reduceIte] using written

namespace World.Coherent

theorem goto (h : w.Coherent uuid) {phase : Phase}
    (before : ∀ req reply, w.calls t ≠ .written req reply) : (w.goto t phase).Coherent uuid :=
  fun key m hm => (h key m hm).imp_left (·.goto fun req reply hw => absurd hw (before req reply))

omit [DecidableEq Tid] in
/-- A transaction commits. -/
theorem commit (h : w.Coherent uuid) {env : Env} {c : Call} {deletes : String → Prop}
    (spares : Spares uuid w env c deletes) :
    ∀ key m, w.cache key = some m → w.Pending key ∨ deletes key ∨
      Agrees uuid (Postgres.call uuid w.db env c).1 key m := by
  intro key m hm
  rcases h key m hm with pending | agrees
  · exact .inl pending
  · rcases call_eq_or uuid w.db env c with same | ⟨commits, htx⟩
    · rw [same]
      exact .inr (.inr agrees)
    · rcases spares commits key (by rw [hm]; rfl) with pending | deletes | untouched
      · exact .inl pending
      · exact .inr (.inl deletes)
      · refine .inr (.inr fun storeID itemID hs hi own => ?_)
        rw [getStock_congr, agrees storeID itemID hs hi own]
        intro s i parsed
        exact sameStock_of_tx htx (untouched s i ⟨storeID, itemID, hs, hi, own, parsed⟩)

end World.Coherent

theorem coherent_step (h : w.Coherent uuid) {a : Act Tid} (inTime : InTime uuid w a) :
    (step uuid w a).Coherent uuid := by
  cases a with
  | getStock t storeID itemID =>
    simp only [step, respond]
    split
    · rename_i idle
      split
      · exact h
      · split
        · exact h
        · exact h.goto (by simp [idle])
    · exact h
  | readStock t fault =>
    simp only [step, respond]
    split
    · rename_i missed
      split <;> exact h.goto (by simp [missed])
    · exact h
  | setStock t =>
    simp only [step, respond]
    split
    · rename_i storeID itemID stock loaded
      intro key m hm
      by_cases own : key = cacheKey stock.storeID stock.itemID
      · obtain rfl : stock.hash = m := by simpa [World.goto, World.setEntry, own] using hm
        rw [own]
        exact (inTime storeID itemID stock loaded).imp_left (·.goto (by simp [loaded]))
      · have old : w.cache key = some m := by simpa [World.goto, World.setEntry, own] using hm
        exact (h key m old).imp_left (·.goto (by simp [loaded]))
    · exact h
  | request t req env =>
    simp only [step, respond]
    split
    · rename_i idle
      split
      · exact h
      · split
        · rename_i db err hcall
          intro key m hm
          rcases h.commit inTime key m hm with pending | ⟨-, ok⟩ | agrees
          · exact .inl pending
          · rw [hcall] at ok
            cases ok
          · rw [hcall] at agrees
            exact .inr agrees
        · rename_i db reply hcall
          intro key m hm
          rcases h.commit inTime key m hm with pending | ⟨own, -⟩ | agrees
          · exact .inl (pending.goto (by simp [idle]))
          · exact .inl ⟨t, req, reply, by simp [World.goto], own⟩
          · rw [hcall] at agrees
            exact .inr agrees
    · exact h
  | invalidate t =>
    simp only [step, respond]
    split
    · rename_i req reply written
      intro key m hm
      have other : cacheKey req.storeID req.itemID ≠ key := by
        rintro rfl
        simp [World.goto, World.setEntry] at hm
      have old : w.cache key = some m := by
        simpa [World.goto, World.setEntry, other.symm] using hm
      refine (h key m old).imp_left (·.goto ?_)
      intro req' reply' written'
      rw [written] at written'
      cases written'
      exact other
    · exact h
  | publish t byDefault fails =>
    simp only [step, respond]
    split
    · rename_i invalidated
      exact fun key m hm => (h key m hm).imp_left (·.goto (by simp [invalidated]))
    · exact h
  | sweep env nowMs =>
    intro key m hm
    rcases h.commit inTime key m hm with pending | none | agrees
    · exact .inl pending
    · exact none.elim
    · exact .inr agrees
  | expire key =>
    intro key' m hm
    have other : key' ≠ key := by
      rintro rfl
      simp [step, respond, World.setEntry] at hm
    exact h key' m (by simpa [step, respond, World.setEntry, other] using hm)

/-- Only readers fill the cache. -/
theorem cached_of_step {a : Act Tid} {key : String} (h : ((step uuid w a).cache key).isSome) :
    (w.cache key).isSome ∨ ∃ t storeID itemID stock, a = .setStock t ∧
      w.calls t = .loaded storeID itemID stock ∧ key = cacheKey stock.storeID stock.itemID := by
  have deleted {key' : String} (h : ((w.setEntry key' none).cache key).isSome) :
      (w.cache key).isSome := by
    by_cases own : key = key'
    · simp [World.setEntry, own] at h
    · simpa [World.setEntry, own] using h
  cases a with
  | setStock t =>
    simp only [step, respond] at h
    split at h
    · rename_i storeID itemID stock loaded
      by_cases own : key = cacheKey stock.storeID stock.itemID
      · exact .inr ⟨t, storeID, itemID, stock, rfl, loaded, own⟩
      · exact .inl (by simpa [World.goto, World.setEntry, own] using h)
    · exact .inl h
  | invalidate t =>
    simp only [step, respond] at h
    split at h
    · exact .inl (deleted h)
    · exact .inl h
  | expire key' => exact .inl (deleted h)
  | getStock | readStock | request | publish | sweep =>
    left
    revert h
    simp only [step, respond]
    repeat' split
    all_goals exact id

/-- Ids without a colon are read back from their key. -/
theorem cacheKey_inj {storeID itemID storeID' itemID' : String} (hs : ':' ∉ storeID.toList)
    (hi : ':' ∉ itemID.toList) (h : cacheKey storeID' itemID' = cacheKey storeID itemID) :
    storeID' = storeID ∧ itemID' = itemID := by
  have tails : storeID' ++ ":" ++ itemID' = storeID ++ ":" ++ itemID := by
    refine String.toList_inj.mp (@List.append_cancel_left _ "inventory:".toList _ _ ?_)
    simpa [cacheKey] using congrArg String.toList h
  obtain ⟨same, same'⟩ := String.colon_inj hs hi tails.symm
  exact ⟨same.symm, same'.symm⟩

/-- What such ids have in the repository may be cached. -/
theorem agrees_of_plain {db : DB} {storeID itemID : String} {stock : Stock}
    (hs : ':' ∉ storeID.toList) (hi : ':' ∉ itemID.toList)
    (read : getStock uuid db storeID itemID = .ok stock) (own : stock.storeID = storeID)
    (own' : stock.itemID = itemID) : Agrees uuid db (cacheKey storeID itemID) stock.hash := by
  intro storeID' itemID' _ _ key
  obtain ⟨rfl, rfl⟩ := cacheKey_inj hs hi key
  rw [read, Stock.stock_hash, ← own, ← own']

theorem World.Coherent.current (h : w.Coherent uuid) : w.Current uuid := by
  intro quiet t storeID itemID hs hi
  have named : ¬ (storeID = "" ∨ itemID = "") := by simp [hs, hi]
  cases cached : w.cached storeID itemID with
  | some stock =>
    obtain ⟨m, hm, rfl⟩ := Option.map_eq_some_iff.mp cached
    have agrees : Agrees uuid w.db (cacheKey storeID itemID) m := by
      refine (h _ m hm).resolve_left ?_
      rintro ⟨t', req, reply, written, -⟩
      rw [quiet t'] at written
      cases written
    simp [undisturbed, replies, step, respond, quiet t, named, cached, stockNow,
      agrees storeID itemID hs hi rfl, Except.mapError]
  | none =>
    cases read : getStock uuid w.db storeID itemID <;>
      simp [undisturbed, replies, step, respond, quiet t, named, cached, stockNow, World.goto,
        read, Except.mapError]

theorem stock_cache_current {db : DB} {acts : List (Act Tid)}
    (inTime : Runs.EachStep (step uuid) (InTime uuid) { db } acts) :
    Runs.Always (step uuid) (World.Current uuid) { db } acts := by
  have start : World.Coherent uuid ({ db } : World Tid) := by
    intro key m hm
    cases hm
  have kept (w : World Tid) (a : Act Tid) (h : w.Coherent uuid) (inTime : InTime uuid w a) :
      (step uuid w a).Coherent uuid := coherent_step h inTime
  exact Runs.always_of_eachStep (fun _ => World.Coherent.current) kept start inTime

/-! ## One shelf -/

def texts : List (UUID × String) := [
  (1, "00000000-0000-0000-0000-000000000001"), (2, "00000000-0000-0000-0000-000000000002"),
  (3, "00000000-0000-0000-0000-000000000003"), (5, "00000000-0000-0000-0000-000000000005")]

def shelf : UUIDText := UUIDText.hyphenated.memo texts

def text (u : UUID) : String := (texts.lookup u).getD ""

/-- A call from its request to its reply. -/
def full (req : Request) (id : UUID) : List (Act Unit) :=
  [.request () req (demoEnv id id), .invalidate (), .publish () 300000 false]

/-- A reader writes back what it read before ten were put on the shelf. -/
def overtaken : List (Act Bool) := [
  .getStock false (text 1) (text 2), .readStock false none,
  .request true (.adjustStock (text 1) (text 2) 10 .restock "" "" "") (demoEnv 10 10),
  .invalidate true, .publish true 300000 false, .setStock false]

/-- The level of the shelf before. -/
def unstocked : Stock where
  storeID := text 1
  itemID := text 2
  inventoryID := shelf.string 9

/-- A reader caches the stock of the shelf, and a call changes it under the same ids. -/
theorem stock_cache_current_restocked :
    Runs.Always (step shelf) (World.Current shelf) { db := { inventory := stocked } }
      (undisturbed () (text 1) (text 2) ++ full (.adjustStock (text 1) (text 2) 10 .restock "" "" "") 10) := by
  refine stock_cache_current ⟨trivial, trivial, ?_, ?_, trivial, trivial, trivial⟩
  · intro storeID itemID stock loaded
    have own : Phase.loaded storeID itemID stock = .loaded (text 1) (text 2) unstocked := by
      rw [← loaded]
      decide +kernel
    cases own
    exact .inr (agrees_of_plain (by decide +kernel) (by decide +kernel) (by decide +kernel) rfl rfl)
  · intro _ key cached
    rcases cached_of_step cached with cached | ⟨t, storeID, itemID, stock, act, loaded, rfl⟩
    · rcases cached_of_step cached with cached | ⟨_, _, _, _, act, -⟩
      · rcases cached_of_step cached with cached | ⟨_, _, _, _, act, -⟩
        · cases cached
        · cases act
      · cases act
    · cases t
      have own : Phase.loaded storeID itemID stock = .loaded (text 1) (text 2) unstocked := by
        rw [← loaded]
        decide +kernel
      cases own
      exact .inr (.inl ⟨rfl, by decide +kernel⟩)

theorem stock_cache_stale : ¬ ∀ (uuid : UUIDText) (db : DB) (acts : List (Act Bool)),
    Runs.Always (step uuid) (World.Current uuid) { db } acts := by
  intro claim
  have current := Runs.always_last (claim shelf { inventory := stocked } overtaken)
  have quiet : (Runs.run (step shelf) { db := { inventory := stocked } } overtaken).Quiet := by
    intro t
    cases t <;> decide +kernel
  have level := congrArg (·.map fun r => r.toOption.map Stock.quantityAvailable)
    (current quiet false (text 1) (text 2) (by decide) (by decide))
  revert level
  decide +kernel

end Service

end InventoryService
