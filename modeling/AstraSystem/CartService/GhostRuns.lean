import Mathlib.Algebra.BigOperators.Group.Finset.Basic
import AstraSystem.CartService.Conservation
import AstraSystem.CartService.FinalizedCarts
import AstraSystem.CartService.OptimisticLocking

/-!
# Ghost merges beside other calls

The calls of any number of clients, step by step; each save and each delete is a
transaction. A save compares the version of its cart, so the target of a merge is
stored as it was read. Of the ghost nothing is compared, and it is deleted by its
id after the target is stored.
-/

namespace CartService.GhostRuns

open Runs (run Always EachStep)

/-! ## The steps of the calls -/

/-- The calls that change the lines of one cart. -/
inductive Edit where
  | addItem (req : AddItemRequest)
  | updateItem (req : UpdateItemRequest)
  | removeItem (req : RemoveItemRequest)

section
variable (svc : Service) (env : Env)

def Edit.load : Edit → Handler Cart
  | .addItem req =>
    if req.cartID = "" ∨ req.menuItemID = "" ∨ req.quantity ≤ 0 then
      invalidArgument "cart_id, menu_item_id, and positive quantity are required"
    else svc.loadAndLock env req.cartID
  | .updateItem req =>
    if req.cartID = "" ∨ req.lineID = "" ∨ req.quantity < 0 then
      invalidArgument "cart_id, line_id, and non-negative quantity are required"
    else svc.loadAndLock env req.cartID
  | .removeItem req =>
    if req.cartID = "" ∨ req.lineID = "" then invalidArgument "cart_id and line_id are required"
    else svc.loadAndLock env req.cartID

/-- The cart to save, with the event to save beside it. -/
def Edit.change (c : Cart) : Edit → Handler (Cart × Option Entry)
  | .addItem req => do
    let line := svc.newLine env req
    let c ← Service.mutate (c.addLine line env.now)
    svc.reserve env c line.menuItemID line.quantity
    pure (c, some (svc.newItemAddedToCart env c line))
  | .updateItem req => do
    let c ← Service.mutate (c.updateLine req.lineID req.quantity.toInt64 req.modifiers env.now)
    pure (c, none)
  | .removeItem req => do
    let c ← Service.mutate (c.removeLine req.lineID env.now)
    pure (c, none)

/-- `SaveCart` and the snapshot in the cache. -/
def save (c : Cart × Option Entry) : Handler Cart := do
  svc.saveCart env c.1 c.2
  Service.cacheSet env.cache c.1
  pure c.1

def loadTarget (req : MergeGhostCartRequest) : Handler Cart :=
  if req.targetCartID = "" ∨ req.ghostCartID = "" then
    invalidArgument "target_cart_id and ghost_cart_id are required"
  else svc.loadAndLock env req.targetCartID

def loadGhost (req : MergeGhostCartRequest) : Handler Cart :=
  svc.load env.loadGhost env.ghostTies req.ghostCartID "ghost cart not found" "get ghost cart"

def storeMerged (req : MergeGhostCartRequest) (target ghost : Cart) : Handler Cart := do
  let res ← svc.mergeCarts env target ghost req.sourceHLC
  save svc env (res.cart, none)

def deleteGhost (c ghost : Cart) : Handler Cart := do
  svc.deleteCart env ghost.cartID
  Service.cacheSet env.cacheAgain c
  pure c

def Edit.call : Edit → Call
  | .addItem req => .addItem req
  | .updateItem req => .updateItem req
  | .removeItem req => .removeItem req

/-- A refused call does none of its steps. -/
theorem refused_bind {A B : Type} (bad : Prop) [Decidable bad] (msg : String) (x : Handler A)
    (next : A → Handler B) :
    (if bad then invalidArgument msg else x) >>= next = if bad then invalidArgument msg else x >>= next := by
  by_cases refused : bad
  · rw [if_pos refused, if_pos refused]
    rfl
  · rw [if_neg refused, if_neg refused]

/-- One after the other, the steps are the call. -/
theorem call_edit (edit : Edit) : svc.call env edit.call =
    (do let c ← edit.load svc env
        let c ← edit.change svc env c
        save svc env c) := by
  cases edit with
  | addItem req =>
    simp only [Edit.call, Service.call, Service.addItem, Edit.load, Edit.change, save, refused_bind,
      bind_assoc, pure_bind]
  | updateItem req =>
    simp only [Edit.call, Service.call, Service.updateItem, Edit.load, Edit.change, save, Service.saveWithoutEvent,
      refused_bind, bind_assoc, pure_bind]
  | removeItem req =>
    simp only [Edit.call, Service.call, Service.removeItem, Edit.load, Edit.change, save, Service.saveWithoutEvent,
      refused_bind, bind_assoc, pure_bind]

theorem call_mergeGhostCart (req : MergeGhostCartRequest) :
    svc.mergeGhostCart env req =
      (do let target ← loadTarget svc env req
          let ghost ← loadGhost svc env req
          let c ← storeMerged svc env req target ghost
          deleteGhost svc env c ghost) := by
  simp only [Service.mergeGhostCart, loadTarget, loadGhost, storeMerged, deleteGhost, save,
    Service.saveWithoutEvent, refused_bind, bind_assoc, pure_bind]

end

/-! ## The system -/

/-- How far the call of a client has come. -/
inductive Phase where
  | idle
  | editing (edit : Edit) (c : Cart)
  | target (req : MergeGhostCartRequest) (t : Cart)
  | carts (req : MergeGhostCartRequest) (t g : Cart)
  /-- The merged cart is stored, and the ghost is to be deleted. -/
  | stored (c g : Cart)

structure World (Tid : Type) where
  service : CartService.World
  phase : Tid → Phase := fun _ => .idle
  /-- What the calls that were answered have added, less what they have taken out. -/
  acknowledged : String → ℤ
  /-- The same of the calls that took effect and were not answered. -/
  unanswered : String → ℤ := 0

inductive Act (Tid : Type) where
  | loadCart (t : Tid) (env : Env) (edit : Edit)
  | saveCart (t : Tid) (env : Env)
  | loadTarget (t : Tid) (env : Env) (req : MergeGhostCartRequest)
  | loadGhost (t : Tid) (env : Env)
  | storeMerged (t : Tid) (env : Env)
  | deleteGhost (t : Tid) (env : Env)
  /-- The call ends where it is; the client may begin it again. -/
  | fail (t : Tid)

section
variable (svc : Service)

/-- A line as it is read back. -/
def readBack (l : Line) : Line :=
  { l with menuItemID := ((svc.uuid.parse l.menuItemID).toOption.map svc.uuid.string).getD l.menuItemID }

/-- The items of a fingerprint on lines. -/
def items (lines : List Line) (fp : String) : ℤ := held svc.sha256 (lines.map (readBack svc)) fp

/-- The items of a fingerprint in all stored carts. -/
def stored (db : DB) (fp : String) : ℤ := held svc.sha256 (db.lines.rows.map (·.line svc.uuid)) fp

def storedIn (db : DB) (cart : UUID) (fp : String) : ℤ :=
  held svc.sha256 ((db.linesOf cart).map (·.line svc.uuid)) fp

variable {Tid : Type}

def World.start (s : CartService.World) : World Tid := { service := s, acknowledged := stored svc s.db }

variable [DecidableEq Tid] (w : World Tid)

def World.goto (t : Tid) (s : CartService.World) (p : Phase) : World Tid :=
  { w with service := s, phase := Function.update w.phase t p }

/-- A call goes on with what it has got, or ends. -/
def World.attempt (t : Tid) (x : Handler Cart) (next : Cart → Phase) : World Tid :=
  let (s, result) := x w.service
  w.goto t s (match result with
    | .ok c => next c
    | .error _ => .idle)

def World.record (answered : Bool) (change : String → ℤ) : World Tid :=
  if answered then { w with acknowledged := w.acknowledged + change }
  else { w with unanswered := w.unanswered + change }

def step : Act Tid → World Tid
  | .loadCart t env edit =>
    match w.phase t with
    | .idle => w.attempt t (edit.load svc env) (.editing edit)
    | _ => w
  | .saveCart t env =>
    match w.phase t with
    | .editing edit c =>
      match edit.change svc env c w.service with
      | (s, .error _) => w.goto t s .idle
      | (s, .ok c') =>
        let saved := save svc env c' s
        let w := if svc.Saves env s c'.1 c'.2 then
            w.record saved.2.isOk (items svc c'.1.lines - items svc c.lines) else w
        w.goto t saved.1 .idle
    | _ => w
  | .loadTarget t env req =>
    match w.phase t with
    | .idle => w.attempt t (loadTarget svc env req) (.target req)
    | _ => w
  | .loadGhost t env =>
    match w.phase t with
    | .target req target => w.attempt t (loadGhost svc env req) (.carts req target)
    | _ => w
  | .storeMerged t env =>
    match w.phase t with
    | .carts req target ghost => w.attempt t (storeMerged svc env req target ghost) (.stored · ghost)
    | _ => w
  | .deleteGhost t env =>
    match w.phase t with
    | .stored c ghost => w.attempt t (deleteGhost svc env c ghost) fun _ => .idle
    | _ => w
  | .fail t => w.goto t w.service .idle

/-- No call is between its save and its delete. -/
def World.Settled : Prop := ∀ t c g, w.phase t ≠ .stored c g

/-- The stored carts hold every item once. -/
def World.Counted : Prop := w.Settled → ∀ fp, stored svc w.service.db fp = w.acknowledged fp + w.unanswered fp

/-- `DeleteCart` takes effect. -/
def Drops (env : Env) (db : DB) (cartID : String) : Prop :=
  env.delete.applies ∧ (deleteCart svc.uuid db env.others cartID).isOk = true

instance decidableDrops (env : Env) (db : DB) (cartID : String) : Decidable (Drops svc env db cartID) :=
  inferInstanceAs (Decidable (_ ∧ _))

/-- A merge that is stored keeps the items of both carts and goes on to delete the
ghost, which then still holds what was merged. Of a ghost without lines nothing
can be lost. -/
def World.Spares : Act Tid → Prop
  | .storeMerged t env => ∀ req target ghost, w.phase t = .carts req target ghost →
    svc.Saves env w.service (merged svc.sha256 env.walk target ghost req.sourceHLC env.now) none →
      Balanced svc.sha256 (decide (req.sourceHLC > target.updatedAtMs)) target.lines ghost.lines ∧
        (env.save = .ok ∧ env.cache = .ok ∨ ghost.lines = [])
  | .deleteGhost t env => ∀ c ghost, w.phase t = .stored c ghost →
    if Drops svc env w.service.db ghost.cartID then
      ∀ id, svc.uuid.parse ghost.cartID = .ok id → storedIn svc w.service.db id = items svc ghost.lines
    else ghost.lines = []
  | .fail t => ∀ c ghost, w.phase t = .stored c ghost → ghost.lines = []
  | _ => True

end

/-! ## Items of stored lines -/

section
variable {svc : Service} {db db' : DB} {c : Cart} {fp : String}

theorem readBack_line (laws : svc.uuid.Lawful) (r : LineRow) :
    readBack svc (r.line svc.uuid) = r.line svc.uuid := by
  simp only [readBack, LineRow.line, laws.parse_string, Except.toOption, Option.map_some, Option.getD_some]

theorem held_cons (l : Line) (lines : List Line) :
    held svc.sha256 (l :: lines) fp = held svc.sha256 [l] fp + held svc.sha256 lines fp :=
  held_append [l] lines fp

theorem items_written {cart : UUID} {lines : List Line} {rows : List LineRow}
    (h : Written svc.uuid cart lines rows) :
    held svc.sha256 (rows.map (·.line svc.uuid)) fp = items svc lines fp := by
  induction h with
  | nil => rfl
  | @cons l r lines rows first _ ih =>
    obtain ⟨-, newID, first⟩ := first
    obtain ⟨-, -, menuItemID, quantity, modifiers⟩ := line_row_eq_ok first
    have same : lineFingerprint svc.sha256 (r.line svc.uuid) = lineFingerprint svc.sha256 (readBack svc l) := by
      refine lineFingerprint_congr ?_ ?_
      · simp only [readBack, LineRow.line, menuItemID, Except.toOption, Option.map_some, Option.getD_some]
      · unfold jsonb at modifiers
        split at modifiers
        · exact (Except.ok.inj modifiers).symm
        · cases modifiers
    have amount : (r.line svc.uuid).quantity.toInt = (readBack svc l).quantity.toInt := by
      rw [LineRow.line, Int32.toInt_toInt64]
      exact quantity
    rw [items, List.map_cons, List.map_cons, held_cons, held_cons (readBack svc l), ← items, ih, held_singleton,
      held_singleton, same, amount]

/-- The items of rows are those of the rows of a cart and those of others. -/
theorem stored_split (db : DB) (cart : UUID) :
    stored svc db fp = held svc.sha256 ((db.lines.delete (·.cartID = cart)).rows.map (·.line svc.uuid)) fp +
      storedIn svc db cart fp := by
  have parts : (db.lines.rows.filter (fun r => !decide (r.cartID = cart)) ++ db.linesOf cart).Perm
      db.lines.rows := by
    have parts := List.filter_append_perm (fun r : LineRow => decide (r.cartID = cart)) db.lines.rows
    exact List.perm_append_comm.trans parts
  rw [stored, storedIn, ← held_append, ← List.map_append]
  exact (held_perm (parts.map _) fp).symm

theorem stored_saved {now : Timestamp} {new old : CartRow} {rows : List LineRow}
    (h : Saved svc.uuid now db c db' new old rows) :
    stored svc db' fp = stored svc db fp - storedIn svc db new.cartID fp + items svc c.lines fp := by
  rw [stored_split db new.cartID, stored, h.lines, List.map_append, held_append, items_written h.written]
  omega

theorem storedIn_saved {now : Timestamp} {new old : CartRow} {rows : List LineRow}
    (h : Saved svc.uuid now db c db' new old rows) {id : UUID} (ne : id ≠ new.cartID) :
    storedIn svc db' id = storedIn svc db id := by
  funext fp
  rw [storedIn, h.linesOf, if_neg ne, storedIn]

theorem stored_deleted (id : UUID) :
    stored svc { db with
      carts := db.carts.delete (·.cartID = id)
      lines := db.lines.delete (·.cartID = id) } fp = stored svc db fp - storedIn svc db id fp := by
  rw [stored_split db id]
  exact (add_sub_cancel_right _ _).symm

theorem storedIn_deleted {id other : UUID} (ne : other ≠ id) :
    storedIn svc { db with
      carts := db.carts.delete (·.cartID = id)
      lines := db.lines.delete (·.cartID = id) } other = storedIn svc db other := by
  funext fp
  rw [storedIn, linesOf_delete ne, storedIn]

theorem readBack_congr {l l' : Line} (same : l.menuItemID = l'.menuItemID) (h : readBack svc l' = l') :
    readBack svc l = l := by
  have menuItemID :
      ((svc.uuid.parse l'.menuItemID).toOption.map svc.uuid.string).getD l'.menuItemID = l'.menuItemID :=
    congrArg Line.menuItemID h
  unfold readBack
  rw [same, menuItemID, ← same]

theorem items_of_canonical {lines : List Line} (canonical : ∀ l ∈ lines, readBack svc l = l) :
    items svc lines = held svc.sha256 lines := by
  funext fp
  rw [items, List.map_congr_left canonical, List.map_id']

/-- The lines of a merge name items of the lines that were merged. -/
theorem canonical_merged {walk : Walk LineGroup} {target ghost : Cart} {sourceHLC : Int64} {now : Time}
    (ht : ∀ l ∈ target.lines, readBack svc l = l) (hg : ∀ l ∈ ghost.lines, readBack svc l = l) :
    ∀ l ∈ (merged svc.sha256 walk target ghost sourceHLC now).lines, readBack svc l = l := by
  intro l mem
  have perm := lines_merged svc.sha256 walk target ghost sourceHLC now
  obtain ⟨fp, -, line⟩ := List.mem_filterMap.mp (perm.mem_iff.mp mem)
  obtain ⟨-, -, none⟩ | ⟨b, s, at', base, -, some⟩ :=
    lineOf_cases svc.sha256 (decide (sourceHLC > target.updatedAtMs)) target.lines ghost.lines fp
  · rw [none] at line
    cases line
  · rw [some] at line
    cases line
    refine readBack_congr (show _ = b.menuItemID from rfl) ?_
    obtain own | other := List.mem_append.mp (baseLine_mem base).1
    · exact ht b own
    · exact hg b other

/-- A merge that conserves stores the items of both carts. -/
theorem items_merged {walk : Walk LineGroup} {target ghost : Cart} {sourceHLC : Int64} {now : Time}
    (ht : ∀ l ∈ target.lines, readBack svc l = l) (hg : ∀ l ∈ ghost.lines, readBack svc l = l)
    (balanced : Balanced svc.sha256 (decide (sourceHLC > target.updatedAtMs)) target.lines ghost.lines) :
    items svc (merged svc.sha256 walk target ghost sourceHLC now).lines =
      items svc target.lines + items svc ghost.lines := by
  rw [items_of_canonical (canonical_merged ht hg), items_of_canonical ht, items_of_canonical hg]
  funext fp
  exact (held_merged_iff walk target ghost sourceHLC now fp).mpr (balanced fp)

end

/-! ## Carts that were read -/

/-- What was read is older than the row, or it is what is stored. -/
structure Read (svc : Service) (db : DB) (c : Cart) : Prop where
  canonical : ∀ l ∈ c.lines, readBack svc l = l
  current : ∀ id row, svc.uuid.parse c.cartID = .ok id → db.carts.find? id = some row →
    c.version.toInt ≤ row.version.toInt ∧
      (row.version.toInt = c.version.toInt → storedIn svc db id = items svc c.lines)

section
variable {svc : Service} {db db' : DB} {c c' : Cart}

theorem Read.of_stored (laws : svc.uuid.Lawful) {row : CartRow}
    (h : Stored svc.uuid db row c) : Read svc db c := by
  obtain ⟨rows, perm, rfl⟩ := h.loaded
  have canonical : ∀ l ∈ rows.map (·.line svc.uuid), readBack svc l = l := by
    intro l mem
    obtain ⟨r, -, rfl⟩ := List.mem_map.mp mem
    exact readBack_line laws r
  refine ⟨canonical, fun id row' parsed found => ?_⟩
  obtain rfl : row.cartID = id := Except.ok.inj ((laws.parse_string _).symm.trans parsed)
  obtain rfl : row = row' := Option.some.inj (h.found.symm.trans found)
  refine ⟨(Int32.toInt_toInt64 _).le, fun _ => ?_⟩
  show _ = items svc (rows.map (·.line svc.uuid))
  rw [items_of_canonical canonical]
  funext fp
  exact held_perm (perm.map _).symm fp

theorem Read.saved (h : Read svc db c) {now : Timestamp} {new old : CartRow} {rows : List LineRow}
    (saved : Saved svc.uuid now db c' db' new old rows) : Read svc db' c := by
  refine ⟨h.canonical, fun id row parsed found => ?_⟩
  rw [saved.carts] at found
  split at found
  · rename_i own
    subst own
    obtain rfl := Option.some.inj found
    have notNewer := (h.current _ old parsed saved.found).1
    have version : (old.rewrite new now).version.toInt = old.version.toInt + 1 := by
      rw [OptimisticLocking.version_rewrite, (row_eq_ok saved.params).2.1, saved.version]
    exact ⟨by omega, fun same => by omega⟩
  · rename_i other
    rw [storedIn_saved saved other]
    exact h.current id row parsed found

theorem Read.deleted (h : Read svc db c) (id : UUID) :
    Read svc { db with
      carts := db.carts.delete (·.cartID = id)
      lines := db.lines.delete (·.cartID = id) } c := by
  refine ⟨h.canonical, fun other row parsed found => ?_⟩
  by_cases own : other = id
  · subst own
    rw [Table.find?_delete_self] at found
    cases found
  · rw [storedIn_deleted own]
    rw [Table.find?_delete_of_ne own] at found
    exact h.current other row parsed found

/-- A save of the next version of what was read replaces what was read. -/
theorem Read.replaced (h : Read svc db c) (next : c.Advances c') {now : Timestamp} {new old : CartRow}
    {rows : List LineRow} (saved : Saved svc.uuid now db c' db' new old rows) :
    storedIn svc db new.cartID = items svc c.lines := by
  have parsed := (row_eq_ok saved.params).1
  rw [next.cartID] at parsed
  obtain ⟨notNewer, same⟩ := h.current _ old parsed saved.found
  refine same ?_
  have version := saved.version
  have most := old.version.toInt_lt
  have least := c.version.le_toInt
  rw [next.version, Int64.toInt_add, Int64.toInt_one, Int.bmod_eq_of_le (by omega) (by omega)] at version
  omega

end

/-! ## What each step does -/

section
variable {svc : Service} {env : Env} {s : CartService.World}

theorem ensures_loadAndLock (laws : svc.uuid.Lawful) {o : Outcome} {ties : Shuffle LineRow}
    {cartID notFound what : String} : Effect.Ensures (svc.load o ties cartID notFound what) s
      (fun s' c => s' = s ∧ Read svc s.db c) (fun s' => s' = s) :=
  Service.ensures_load rfl fun _ _ loaded => ⟨rfl, .of_stored laws loaded.stored⟩

theorem ensures_editLoad (laws : svc.uuid.Lawful) (edit : Edit) :
    Effect.Ensures (edit.load svc env) s (fun s' c => s' = s ∧ Read svc s.db c) (fun s' => s' = s) := by
  cases edit with
  | addItem req => exact Effect.ensures_ite.mpr ⟨fun _ => rfl, fun _ => ensures_loadAndLock laws⟩
  | updateItem req => exact Effect.ensures_ite.mpr ⟨fun _ => rfl, fun _ => ensures_loadAndLock laws⟩
  | removeItem req => exact Effect.ensures_ite.mpr ⟨fun _ => rfl, fun _ => ensures_loadAndLock laws⟩

theorem ensures_loadTarget (laws : svc.uuid.Lawful) (req : MergeGhostCartRequest) :
    Effect.Ensures (loadTarget svc env req) s (fun s' c => s' = s ∧ Read svc s.db c) (fun s' => s' = s) :=
  Effect.ensures_ite.mpr ⟨fun _ => rfl, fun _ => ensures_loadAndLock laws⟩

/-- A change is one of the cart, and of no table. -/
theorem ensures_change (c : Cart) (edit : Edit) : Effect.Ensures (edit.change svc env c) s
    (fun s' c' => s'.db = s.db ∧ c.Advances c'.1) (fun s' => s'.db = s.db) := by
  cases edit with
  | addItem req =>
    refine Effect.ensures_bind.mpr (Service.ensures_mutate rfl fun c' changed => ?_)
    have next := Cart.advances_of_command (.add _) changed
    refine Effect.ensures_bind.mpr (Service.ensures_request (fun _ => rfl) ?_ ?_)
    · intro s' reserved _ _
      obtain ⟨_, -, reserved⟩ := Statement.bind_eq_ok.mp reserved
      obtain ⟨_, -, reserved⟩ := Statement.bind_eq_ok.mp reserved
      cases reserved
      rfl
    · intro s' reserved _
      obtain ⟨_, -, reserved⟩ := Statement.bind_eq_ok.mp reserved
      obtain ⟨_, -, reserved⟩ := Statement.bind_eq_ok.mp reserved
      cases reserved
      exact ⟨rfl, next⟩
  | updateItem req =>
    exact Effect.ensures_bind.mpr (Service.ensures_mutate rfl fun c' changed =>
      ⟨rfl, Cart.advances_of_command (.update _ _ _) changed⟩)
  | removeItem req =>
    exact Effect.ensures_bind.mpr (Service.ensures_mutate rfl fun c' changed =>
      ⟨rfl, Cart.advances_of_command (.remove _) changed⟩)

/-- A transaction leaves the tables alone unless it takes effect. -/
theorem ensures_tx {o : Outcome} (tx : DB → Except RepositoryError DB) {status : RepositoryError → Status}
    {ok : CartService.World → Unit → Prop} {err : CartService.World → Prop}
    (before : ¬ (o.applies ∧ (tx s.db).isOk = true) → err s)
    (after : ∀ db, o.applies ∧ (tx s.db).isOk = true → tx s.db = .ok db → o ≠ .ok → err { s with db })
    (done : ∀ db, o.applies ∧ (tx s.db).isOk = true → tx s.db = .ok db → o = .ok → ok { s with db } ()) :
    Effect.Ensures (Service.request o (fun w => do let db ← tx w.db; pure { w with db }) status) s ok err := by
  have accepted {db : DB} (applies : o.applies) (hdb : tx s.db = .ok db) : o.applies ∧ (tx s.db).isOk = true :=
    ⟨applies, by rw [hdb]; rfl⟩
  refine Service.ensures_request ?_ ?_ ?_
  · intro failed
    refine before fun effect => ?_
    cases hdb : tx s.db with
    | error err =>
      have isOk := effect.2
      rw [hdb] at isOk
      cases isOk
    | ok db =>
      refine failed effect.1 { s with db } ?_
      rw [hdb]
      rfl
  · intro s' h applies lost
    obtain ⟨db, hdb, ⟨⟩⟩ := Statement.bind_eq_ok.mp h
    exact after db (accepted applies hdb) hdb lost
  · intro s' h fine
    obtain ⟨db, hdb, ⟨⟩⟩ := Statement.bind_eq_ok.mp h
    exact done db (accepted (fine ▸ trivial) hdb) hdb fine

/-- Without a fault a save is answered. -/
theorem ensures_save (c : Cart × Option Entry) {ok : CartService.World → Cart → Prop}
    {err : CartService.World → Prop}
    (before : ¬ svc.Saves env s c.1 c.2 → err s)
    (after : ∀ db cache, svc.Saves env s c.1 c.2 →
      saveCart svc.uuid s.db env.others env.dbNow env.lineIDs c.1 c.2 = .ok db →
        ¬ (env.save = .ok ∧ env.cache = .ok) → err { s with db, cache })
    (done : ∀ db cache, svc.Saves env s c.1 c.2 →
      saveCart svc.uuid s.db env.others env.dbNow env.lineIDs c.1 c.2 = .ok db → ok { s with db, cache } c.1) :
    Effect.Ensures (save svc env c) s ok err := by
  refine Effect.ensures_bind.mpr (ensures_tx
    (fun db => saveCart svc.uuid db env.others env.dbNow env.lineIDs c.1 c.2) before ?_ ?_)
  · exact fun db saves hdb lost => after db s.cache saves hdb fun fine => lost fine.1
  · intro db saves hdb _
    refine Effect.ensures_bind.mpr (Service.ensures_cacheSet ?_ ?_)
    · intro missed cache _
      exact after db cache saves hdb fun fine => missed fine.2
    · intro set
      exact done db _ saves hdb

theorem ensures_deleteGhost (c ghost : Cart) {P : CartService.World → Prop}
    (before : ¬ Drops svc env s.db ghost.cartID → P s)
    (after : ∀ db cache, Drops svc env s.db ghost.cartID →
      deleteCart svc.uuid s.db env.others ghost.cartID = .ok db → P { s with db, cache }) :
    Effect.Ensures (deleteGhost svc env c ghost) s (fun s _ => P s) P := by
  refine Effect.ensures_bind.mpr (ensures_tx
    (fun db => deleteCart svc.uuid db env.others ghost.cartID) before ?_ ?_)
  · exact fun db drops hdb _ => after db s.cache drops hdb
  · intro db drops hdb _
    refine Effect.ensures_bind.mpr (Service.ensures_cacheSet ?_ ?_)
    · exact fun _ cache _ => after db cache drops hdb
    · exact fun _ => after db _ drops hdb

end

/-! ## Runs -/

/-- What is stored of a ghost besides its own lines. -/
def Phase.owed (svc : Service) : Phase → String → ℤ
  | .stored _ ghost => items svc ghost.lines
  | .idle | .editing _ _ | .target _ _ | .carts _ _ _ => 0

/-- What was read is current or will not be saved. -/
def Phase.Holds (svc : Service) (db : DB) : Phase → Prop
  | .editing _ c => Read svc db c
  | .target _ t => Read svc db t
  | .carts _ t g => Read svc db t ∧ Read svc db g
  | .idle | .stored _ _ => True

section
variable {Tid : Type} {svc : Service}

/-- The stored carts hold every item once, and again those of ghosts that are to be deleted. -/
structure World.Sound (svc : Service) (w : World Tid) : Prop where
  holds : ∀ t, (w.phase t).Holds svc w.service.db
  counted : ∃ pending : Finset Tid, (∀ t ∉ pending, (w.phase t).owed svc = 0) ∧
    ∀ fp, stored svc w.service.db fp =
      w.acknowledged fp + w.unanswered fp + ∑ t ∈ pending, (w.phase t).owed svc fp

theorem World.Sound.settled {w : World Tid} (h : w.Sound svc) : w.Counted svc := by
  intro settled fp
  obtain ⟨pending, -, counted⟩ := h.counted
  have none : ∑ t ∈ pending, (w.phase t).owed svc fp = 0 := by
    refine Finset.sum_eq_zero fun t _ => ?_
    cases phase : w.phase t with
    | stored c ghost => exact absurd phase (settled t c ghost)
    | idle | editing | target | carts => rfl
  rw [counted, none, add_zero]

theorem Phase.Holds.mono {db db' : DB} {p : Phase} (h : p.Holds svc db)
    (kept : ∀ c, Read svc db c → Read svc db' c) : p.Holds svc db' := by
  cases p with
  | editing edit c => exact kept c h
  | target req t => exact kept t h
  | carts req t g => exact ⟨kept t h.1, kept g h.2⟩
  | idle | stored => trivial

theorem phase_record {w : World Tid} (answered : Bool) (change : String → ℤ) :
    (w.record answered change).phase = w.phase := by
  cases answered <;> rfl

theorem ledger_record {w : World Tid} (answered : Bool) (change : String → ℤ) (fp : String) :
    (w.record answered change).acknowledged fp + (w.record answered change).unanswered fp =
      w.acknowledged fp + w.unanswered fp + change fp := by
  cases answered with
  | true => exact add_right_comm _ _ _
  | false => exact (add_assoc _ _ _).symm

variable [DecidableEq Tid] {w : World Tid} {t : Tid}

/-- What one client does is counted where it stores it, or owed by it. -/
theorem World.Sound.goto (h : w.Sound svc) {w' : World Tid} {s : CartService.World} {p : Phase}
    (phases : w'.phase = w.phase) (kept : ∀ c, Read svc w.service.db c → Read svc s.db c)
    (own : p.Holds svc s.db)
    (balance : ∀ fp, stored svc s.db fp + (w.phase t).owed svc fp + (w.acknowledged fp + w.unanswered fp) =
      stored svc w.service.db fp + p.owed svc fp + (w'.acknowledged fp + w'.unanswered fp)) :
    World.Sound svc (w'.goto t s p) := by
  obtain ⟨pending, none, counted⟩ := h.counted
  refine ⟨fun t' => ?_, insert t pending, fun t' out => ?_, fun fp => ?_⟩
  · show (Function.update w'.phase t p t').Holds svc s.db
    rw [phases]
    by_cases same : t' = t
    · subst same
      rw [Function.update_self]
      exact own
    · rw [Function.update_of_ne same]
      exact (h.holds t').mono kept
  · obtain ⟨other, out⟩ := not_or.mp (mt Finset.mem_insert.mpr out)
    show (Function.update w'.phase t p t').owed svc = 0
    rw [phases, Function.update_of_ne other]
    exact none t' out
  · have rest : ∑ t' ∈ pending.erase t, (Function.update w.phase t p t').owed svc fp =
        ∑ t' ∈ pending.erase t, (w.phase t').owed svc fp :=
      Finset.sum_congr rfl fun t' mem => by rw [Function.update_of_ne (Finset.ne_of_mem_erase mem)]
    have before : (w.phase t).owed svc fp + ∑ t' ∈ pending.erase t, (w.phase t').owed svc fp =
        ∑ t' ∈ pending, (w.phase t').owed svc fp := by
      by_cases mem : t ∈ pending
      · exact Finset.add_sum_erase pending (fun t' => (w.phase t').owed svc fp) mem
      · rw [none t mem, Finset.erase_eq_of_notMem mem]
        exact zero_add _
    have after : ∑ t' ∈ insert t pending, (Function.update w.phase t p t').owed svc fp =
        p.owed svc fp + ∑ t' ∈ pending.erase t, (w.phase t').owed svc fp := by
      rw [← Finset.insert_erase (Finset.mem_insert_self t pending), Finset.erase_insert_eq_erase,
        Finset.sum_insert (Finset.notMem_erase t pending), Function.update_self, rest]
    have counted := counted fp
    have balance := balance fp
    show _ = _ + ∑ t' ∈ insert t pending, (Function.update w'.phase t p t').owed svc fp
    rw [phases, after]
    show _ = w'.acknowledged fp + w'.unanswered fp + _
    show stored svc s.db fp = _
    omega

/-- A step that stores nothing and owes nothing. -/
theorem World.Sound.reads (h : w.Sound svc) {s : CartService.World} {p : Phase} (same : s.db = w.service.db)
    (own : p.Holds svc w.service.db) (owed : (w.phase t).owed svc = p.owed svc) :
    World.Sound svc (w.goto t s p) := by
  refine h.goto rfl (fun c read => by rwa [same]) (by rwa [same]) fun fp => ?_
  rw [same, owed]

theorem World.Sound.attempt {x : Handler Cart} {next : Cart → Phase}
    (h : Effect.Ensures x w.service (fun s c => World.Sound svc (w.goto t s (next c)))
      fun s => World.Sound svc (w.goto t s .idle)) : World.Sound svc (w.attempt t x next) := by
  unfold Effect.Ensures at h
  unfold World.attempt
  rcases hx : x w.service with ⟨s, err | c⟩ <;> rw [hx] at h <;> exact h

theorem owed_of_empty {c ghost : Cart} (empty : ghost.lines = []) : (Phase.stored c ghost).owed svc = 0 := by
  show items svc ghost.lines = 0
  rw [empty]
  rfl

theorem storeMerged_eq (env : Env) (req : MergeGhostCartRequest) (target ghost : Cart) :
    storeMerged svc env req target ghost =
      save svc env (merged svc.sha256 env.walk target ghost req.sourceHLC env.now, none) := rfl

theorem sound_saveCart (h : w.Sound svc) (env : Env) : (step svc w (.saveCart t env)).Sound svc := by
  simp only [step]
  split
  · rename_i edit c phase
    have read : Read svc w.service.db c := by
      have holds := h.holds t
      rwa [phase] at holds
    have owed : (w.phase t).owed svc = 0 := by
      rw [phase]
      rfl
    have changed := @ensures_change svc env w.service c edit
    unfold Effect.Ensures at changed
    split
    · rename_i s err hx
      rw [hx] at changed
      exact h.reads changed trivial owed
    · rename_i s c' hx
      rw [hx] at changed
      obtain ⟨same, next⟩ := changed
      let change := items svc c'.1.lines - items svc c.lines
      -- whatever the client is told
      have stores (answered : Bool) (db : DB) (cache : String → Option Cart) (saves : svc.Saves env s c'.1 c'.2)
          (hdb : saveCart svc.uuid s.db env.others env.dbNow env.lineIDs c'.1 c'.2 = .ok db) :
          World.Sound svc ((if svc.Saves env s c'.1 c'.2 then w.record answered change else w).goto t
            { s with db, cache } .idle) := by
        rw [same] at hdb
        obtain ⟨new, old, rows, saved⟩ := saveCart_eq_ok hdb
        rw [if_pos saves]
        refine h.goto (phase_record _ _) (fun _ read => read.saved saved) trivial fun fp => ?_
        have ledger := @ledger_record _ w answered change fp
        have none : (w.phase t).owed svc fp = 0 := congrFun owed fp
        have same : change fp = items svc c'.1.lines fp - items svc c.lines fp := rfl
        have idle : Phase.idle.owed svc fp = 0 := rfl
        rw [stored_saved saved, read.replaced next saved, none, idle, ledger]
        omega
      refine (Effect.ensures_state (P := fun s' => World.Sound svc ((if svc.Saves env s c'.1 c'.2 then
        w.record (save svc env c' s).2.isOk change else w).goto t s' .idle))).mp (ensures_save c' (fun kept => ?_)
          (fun db cache saves hdb _ => ?_) fun db cache saves hdb => ?_)
      · rw [if_neg kept]
        exact h.reads same trivial owed
      · exact stores _ db cache saves hdb
      · exact stores _ db cache saves hdb
  · exact h

theorem sound_storeMerged (h : w.Sound svc) (env : Env) (spares : w.Spares svc (.storeMerged t env)) :
    (step svc w (.storeMerged t env)).Sound svc := by
  simp only [step]
  split
  · rename_i req target ghost phase
    have owed : (w.phase t).owed svc = 0 := by
      rw [phase]
      rfl
    have holds := h.holds t
    rw [phase] at holds
    obtain ⟨ht, hg⟩ := holds
    have next : target.Advances (merged svc.sha256 env.walk target ghost req.sourceHLC env.now) :=
      advances_merged env.walk target ghost req.sourceHLC env.now
    refine .attempt ?_
    rw [storeMerged_eq]
    refine ensures_save _ (fun _ => h.reads rfl trivial owed) (fun db cache saves hdb lost => ?_)
      fun db cache saves hdb => ?_
    · obtain ⟨balanced, fine⟩ := spares req target ghost phase saves
      have empty := fine.resolve_left fun fine => lost ⟨fine.1, fine.2⟩
      obtain ⟨new, old, rows, saved⟩ := saveCart_eq_ok hdb
      refine h.goto rfl (fun _ read => read.saved saved) trivial fun fp => ?_
      have none : items svc ghost.lines = 0 := @owed_of_empty svc target ghost empty
      rw [stored_saved saved, ht.replaced next saved, items_merged ht.canonical hg.canonical balanced, none, owed]
      show _ - _ + (_ + (0 : ℤ)) + (0 : ℤ) + _ = _ + (0 : ℤ) + _
      omega
    · obtain ⟨balanced, -⟩ := spares req target ghost phase saves
      obtain ⟨new, old, rows, saved⟩ := saveCart_eq_ok hdb
      refine h.goto rfl (fun _ read => read.saved saved) trivial fun fp => ?_
      rw [stored_saved saved, ht.replaced next saved, items_merged ht.canonical hg.canonical balanced, owed]
      show _ - _ + (_ + _) + (0 : ℤ) + _ = _ + items svc ghost.lines fp + _
      omega
  · exact h

theorem sound_deleteGhost (h : w.Sound svc) (env : Env) (spares : w.Spares svc (.deleteGhost t env)) :
    (step svc w (.deleteGhost t env)).Sound svc := by
  simp only [step]
  split
  · rename_i c ghost phase
    have spares := spares c ghost phase
    refine .attempt (ensures_deleteGhost c ghost (fun kept => ?_) fun db cache drops hdb => ?_)
    · rw [if_neg kept] at spares
      exact h.reads rfl trivial (by rw [phase, owed_of_empty spares]; rfl)
    · rw [if_pos drops] at spares
      obtain ⟨id, parsed, -, rfl⟩ := deleteCart_eq_ok hdb
      refine h.goto rfl (fun _ read => read.deleted id) trivial fun fp => ?_
      rw [stored_deleted, spares id parsed, phase]
      show _ - _ + items svc ghost.lines fp + _ = _ + (0 : ℤ) + _
      omega
  · exact h

theorem sound_step (laws : svc.uuid.Lawful) (h : w.Sound svc) (a : Act Tid) (spares : w.Spares svc a) :
    (step svc w a).Sound svc := by
  cases a with
  | loadCart t env edit =>
    simp only [step]
    split
    · rename_i phase
      refine .attempt ((ensures_editLoad laws edit).mono ?_ ?_)
      · rintro s c ⟨rfl, read⟩
        exact h.reads rfl read (by rw [phase]; rfl)
      · rintro s rfl
        exact h.reads rfl trivial (by rw [phase])
    · exact h
  | saveCart t env => exact sound_saveCart h env
  | loadTarget t env req =>
    simp only [step]
    split
    · rename_i phase
      refine .attempt ((ensures_loadTarget laws req).mono ?_ ?_)
      · rintro s c ⟨rfl, read⟩
        exact h.reads rfl read (by rw [phase]; rfl)
      · rintro s rfl
        exact h.reads rfl trivial (by rw [phase])
    · exact h
  | loadGhost t env =>
    simp only [step]
    split
    · rename_i req target phase
      have holds := h.holds t
      rw [phase] at holds
      refine .attempt ((ensures_loadAndLock laws).mono ?_ ?_)
      · rintro s c ⟨rfl, read⟩
        exact h.reads rfl ⟨holds, read⟩ (by rw [phase]; rfl)
      · rintro s rfl
        exact h.reads rfl trivial (by rw [phase]; rfl)
    · exact h
  | storeMerged t env => exact sound_storeMerged h env spares
  | deleteGhost t env => exact sound_deleteGhost h env spares
  | fail t =>
    refine h.reads rfl trivial ?_
    cases phase : w.phase t with
    | stored c ghost => exact owed_of_empty (spares c ghost phase)
    | idle | editing | target | carts => rfl

/-- **Merges neither lose nor duplicate items in runs whose merges keep the items of both carts, go
on to delete the ghost they have stored, and find it as they have read it.** Whatever the clients do
in between, the stored carts then hold what the acknowledged calls and those that took effect
without an answer have made of them. -/
theorem items_counted (laws : svc.uuid.Lawful) (s : CartService.World) (acts : List (Act Tid))
    (spares : EachStep (step svc) (World.Spares svc) (World.start svc s) acts) :
    Always (step svc) (World.Counted svc) (World.start svc s : World Tid) acts := by
  have start : (World.start svc s : World Tid).Sound svc := by
    refine ⟨fun _ => trivial, ∅, fun _ _ => rfl, fun fp => ?_⟩
    rw [Finset.sum_empty]
    show stored svc s.db fp = stored svc s.db fp + 0 + 0
    omega
  exact Runs.always_of_eachStep (J := World.Sound svc) (fun _ h => h.settled)
    (fun _ a h spares => sound_step laws h a spares) start spares

end

/-! ## Two carts of one item -/

namespace Burgers

open Shop (text twoCarts)

def merges (target ghost : UUID) : List (Act Bool) :=
  [.loadTarget true (Shop.env 3) ⟨text target, text ghost, 0⟩, .loadGhost true (Shop.env 3),
    .storeMerged true (Shop.env 3), .deleteGhost true (Shop.env 3)]

/-- The other client adds items to a cart. -/
def adds (cart item : UUID) : List (Act Bool) :=
  [.loadCart false (Shop.env 4) (.addItem ⟨text cart, text item, 5, []⟩), .saveCart false (Shop.env 4)]

/-- The call fails before it deletes the ghost, and is made again. -/
def retried : List (Act Bool) := (merges 1 2).take 3 ++ .fail true :: merges 1 2

/-- The ghost gets items after the merge has read it. -/
def addedLate : List (Act Bool) := (merges 1 2).take 2 ++ adds 2 1 ++ (merges 1 2).drop 2

def after (acts : List (Act Bool)) : World Bool := run (step shop) (World.start shop twoCarts) acts

def burgers : String := lineFingerprint shop.sha256 ⟨"", "", text 1, "", 0, 0, [], 0⟩

def stored? : Phase → Option (Cart × Cart)
  | .stored c g => some (c, g)
  | .idle | .editing _ _ | .target _ _ | .carts _ _ _ => none

theorem not_counted {w : World Bool} (settled : ∀ t, stored? (w.phase t) = none)
    (differ : stored shop w.service.db burgers ≠ w.acknowledged burgers + w.unanswered burgers) :
    ¬ w.Counted shop := by
  intro counted
  refine differ (counted (fun t c g phase => ?_) burgers)
  have settled := settled t
  rw [phase] at settled
  cases settled

/-- Burgers are stored twice, a cart is merged into itself and is gone, and burgers are lost. -/
theorem burgers_not_counted :
    ¬ (after retried).Counted shop ∧ ¬ (after (merges 1 1)).Counted shop ∧
      ¬ (after addedLate).Counted shop :=
  ⟨not_counted (by decide +kernel) (by decide +kernel), not_counted (by decide +kernel) (by decide +kernel),
    not_counted (by decide +kernel) (by decide +kernel)⟩

/-- Another client adds fries to the target, and then the carts are merged. -/
def addedAndMerged : List (Act Bool) := adds 1 2 ++ merges 1 2

def carts? : Phase → Option (MergeGhostCartRequest × Cart × Cart)
  | .carts req t g => some (req, t, g)
  | .idle | .editing _ _ | .target _ _ | .stored _ _ => none

theorem spares_store : (after (addedAndMerged.take 4)).Spares shop (.storeMerged true (Shop.env 3)) := by
  have checked : ∀ x ∈ carts? ((after (addedAndMerged.take 4)).phase true),
      (∀ l ∈ x.2.1.lines ++ x.2.2.lines, 0 < l.quantity) ∧
        WrappingSum.exact Line.quantity (x.2.1.lines ++ x.2.2.lines) < 2 ^ 63 ∧
        decide (x.1.sourceHLC > x.2.1.updatedAtMs) = false ∧
        (x.2.1.lines.map (lineFingerprint shop.sha256)).Nodup := by
    decide +kernel
  intro req target ghost phase _
  obtain ⟨positive, fits, older, nodup⟩ := checked (req, target, ghost) (by rw [phase]; rfl)
  refine ⟨(balanced_iff_nodup positive fits ?_).mpr nodup, .inl ⟨rfl, rfl⟩⟩
  intro newer
  rw [older] at newer
  cases newer

theorem spares_delete : (after (addedAndMerged.take 5)).Spares shop (.deleteGhost true (Shop.env 3)) := by
  have checked : ∀ x ∈ stored? ((after (addedAndMerged.take 5)).phase true),
      Drops shop (Shop.env 3) (after (addedAndMerged.take 5)).service.db x.2.cartID ∧
        (shop.uuid.parse x.2.cartID).toOption = some 2 ∧
        ((after (addedAndMerged.take 5)).service.db.linesOf 2).map (·.line shop.uuid) =
          x.2.lines.map (readBack shop) := by
    decide +kernel
  intro c ghost phase
  obtain ⟨drops, named, same⟩ := checked (c, ghost) (by rw [phase]; rfl)
  rw [if_pos drops]
  intro id parsed
  rw [parsed] at named
  obtain rfl := Option.some.inj named
  funext fp
  rw [storedIn, same, items]

theorem items_counted_merged :
    Always (step shop) (World.Counted shop) (World.start shop twoCarts) addedAndMerged :=
  items_counted lawful_shop twoCarts addedAndMerged
    ⟨trivial, trivial, trivial, trivial, spares_store, spares_delete, trivial⟩

end Burgers

end CartService.GhostRuns
