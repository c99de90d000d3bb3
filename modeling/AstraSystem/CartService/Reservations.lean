import AstraSystem.CartService.Conservation
import AstraSystem.CartService.Service
import AstraSystem.Lib.Runs

/-!
# What the inventory holds for carts

Only `AddItem` talks to the inventory, and it does so before the cart is saved.
-/

namespace CartService

section
variable (uuid : UUIDText)

/-- How many of an item a row counts. -/
def LineRow.count (item : UUID) (r : LineRow) : ℤ := if r.menuItemID = item then r.quantity.toInt else 0

def Line.count (item : UUID) (l : Line) : ℤ :=
  if (uuid.parse l.menuItemID).toOption = some item then l.quantity.toInt else 0

/-- How many of an item the stored lines of a cart count. -/
def DB.count (db : DB) (cart item : UUID) : ℤ := ((db.linesOf cart).map (LineRow.count item)).sum

def count (lines : List Line) (item : UUID) : ℤ := (lines.map (Line.count uuid item)).sum

end

section
variable {uuid : UUIDText} {item : UUID} {db db' : DB} {c : Cart}

theorem count_line (laws : uuid.Lawful) (r : LineRow) : (r.line uuid).count uuid item = r.count item := by
  rw [Line.count, LineRow.count]
  simp only [LineRow.line, laws.parse_string, Except.toOption, Option.some.injEq, Int32.toInt_toInt64]

theorem count_row {l : Line} {cart newID : UUID} {r : LineRow} (h : l.row uuid cart newID = .ok r) :
    r.count item = l.count uuid item := by
  obtain ⟨-, -, menuItemID, quantity, -⟩ := line_row_eq_ok h
  rw [Line.count, LineRow.count, menuItemID, quantity]
  simp only [Except.toOption, Option.some.injEq]

theorem Written.count {cart : UUID} {lines : List Line} {rows : List LineRow}
    (h : Written uuid cart lines rows) :
    (rows.map (LineRow.count item)).sum = CartService.count uuid lines item := by
  induction h with
  | nil => rfl
  | cons first _ ih =>
    obtain ⟨-, newID, first⟩ := first
    rw [List.map_cons, List.sum_cons, ih, count_row first]
    rfl

/-- A cart that was loaded counts what is stored. -/
theorem Stored.count {row : CartRow} (laws : uuid.Lawful) (h : Stored uuid db row c) :
    CartService.count uuid c.lines item = db.count row.cartID item := by
  obtain ⟨rows, perm, rfl⟩ := h.loaded
  have same : (rows.map (·.line uuid)).map (Line.count uuid item) = rows.map (LineRow.count item) := by
    rw [List.map_map]
    exact List.map_congr_left fun r _ => count_line laws r
  rw [CartService.count, DB.count]
  simp only [CartRow.cart, same]
  exact (perm.map _).sum_eq

theorem Saved.count {now : Timestamp} {new old : CartRow} {rows : List LineRow}
    (h : Saved uuid now db c db' new old rows) (cart : UUID) :
    db'.count cart item =
      if cart = new.cartID then CartService.count uuid c.lines item else db.count cart item := by
  rw [DB.count, h.linesOf]
  split
  · exact h.written.count
  · rfl

end

section
variable {uuid : UUIDText} {item : UUID}

theorem count_append (lines lines' : List Line) :
    count uuid (lines ++ lines') item = count uuid lines item + count uuid lines' item := by
  rw [count, List.map_append, List.sum_append]
  rfl

theorem count_cons (l : Line) (lines : List Line) :
    count uuid (l :: lines) item = l.count uuid item + count uuid lines item := List.sum_cons

theorem count_perm {lines lines' : List Line} (h : lines.Perm lines') :
    count uuid lines item = count uuid lines' item := (h.map _).sum_eq

/-- What a merge counts of an item, by the lines that its groups start from. -/
def countMerged (uuid : UUIDText) (sha256 : List UInt8 → List UInt8) (target ghost : List Line)
    (item : UUID) : ℤ :=
  ((fingerprints sha256 (target ++ ghost)).map fun fp =>
    (baseLine (lastAt sha256 target fp) (linesAt sha256 ghost fp)).elim 0 fun b =>
      if (uuid.parse b.menuItemID).toOption = some item then groupItems sha256 target ghost fp
      else 0).sum

theorem count_filterMap (fps : List String) (line : String → Option Line) :
    count uuid (fps.filterMap line) item = (fps.map fun fp => (line fp).elim 0 (Line.count uuid item)).sum := by
  induction fps with
  | nil => rfl
  | cons fp fps ih =>
    rw [List.map_cons, List.sum_cons, ← ih, List.filterMap_cons]
    cases line fp with
    | none => exact (zero_add _).symm
    | some l => rfl

theorem count_merged {sha256 : List UInt8 → List UInt8} (walk : Walk LineGroup) (target ghost : Cart)
    (sourceHLC : Int64) (now : Time) :
    count uuid (merged sha256 walk target ghost sourceHLC now).lines item =
      countMerged uuid sha256 target.lines ghost.lines item := by
  rw [count_perm (lines_merged sha256 walk target ghost sourceHLC now), count_filterMap, countMerged]
  refine congrArg List.sum (List.map_congr_left fun fp _ => ?_)
  rcases lineOf_cases sha256 (decide (sourceHLC > target.updatedAtMs)) target.lines ghost.lines fp with
    ⟨hb, -, hl⟩ | ⟨b, s, at', hb, -, hl⟩
  · rw [hl, hb, Option.elim_none, Option.elim_none]
  · rw [hl, hb]
    simp only [Option.elim_some, Line.count, Line.takeSnapshot, groupItems, groupLines]

/-- Only items of the lines are counted. -/
theorem count_eq_zero {lines : List Line}
    (h : ∀ l ∈ lines, item ∉ (uuid.parse l.menuItemID).toOption) : count uuid lines item = 0 := by
  refine List.sum_eq_zero fun x hx => ?_
  obtain ⟨l, hl, rfl⟩ := List.mem_map.mp hx
  exact if_neg (h l hl)

theorem countMerged_eq_zero {sha256 : List UInt8 → List UInt8} {target ghost : List Line}
    (h : ∀ l ∈ target ++ ghost, item ∉ (uuid.parse l.menuItemID).toOption) :
    countMerged uuid sha256 target ghost item = 0 := by
  refine List.sum_eq_zero fun x hx => ?_
  obtain ⟨fp, -, rfl⟩ := List.mem_map.mp hx
  cases hb : baseLine (lastAt sha256 target fp) (linesAt sha256 ghost fp) with
  | none => rfl
  | some b => exact if_neg (h b (baseLine_mem hb).1)

end

/-- What the inventory holds for a cart is what its stored lines count. -/
def Matches (w : World) : Prop := ∀ cart item, w.held cart item = w.db.count cart item

namespace Service

variable {svc : Service} {w : World}

/-- The merge of two carts counts of each item what the target did. -/
def MergeKeepsCount (svc : Service) (t g : Cart) : Prop :=
  ∀ l ∈ t.lines ++ g.lines, ∀ item ∈ (svc.uuid.parse l.menuItemID).toOption,
    countMerged svc.uuid svc.sha256 t.lines g.lines item = count svc.uuid t.lines item

instance decidableMergeKeepsCount (svc : Service) (t g : Cart) : Decidable (svc.MergeKeepsCount t g) :=
  inferInstanceAs (Decidable (∀ l ∈ t.lines ++ g.lines, _))

/-- A call that changes what a cart counts reserves it, and one that reserves is saved. -/
def KeepsMatch (svc : Service) (w : World) (a : Env × Call) : Prop :=
  match a with
  | (env, .addItem req) =>
    env.reserve.applies → (svc.uuid.parse req.menuItemID).isOk = true →
      ∀ c₀ ∈ svc.cart? env.load env.ties w req.cartID,
      ∀ c ∈ (c₀.addLine (svc.newLine env req) env.now).toOption,
        env.reserve = .ok ∧
          svc.Saves env w c (some (svc.newItemAddedToCart env c (svc.newLine env req)))
  | (env, .updateItem req) =>
    ∀ c₀ ∈ svc.cart? env.load env.ties w req.cartID,
    ∀ c ∈ (c₀.updateLine req.lineID req.quantity.toInt64 req.modifiers env.now).toOption,
      svc.Saves env w c none →
        ∀ l ∈ c₀.lines, l.lineID = req.lineID → l.quantity = req.quantity.toInt64
  | (env, .removeItem req) =>
    ∀ c₀ ∈ svc.cart? env.load env.ties w req.cartID,
    ∀ c ∈ (c₀.removeLine req.lineID env.now).toOption, ¬ svc.Saves env w c none
  | (env, .mergeGhostCart req) =>
    ∀ t ∈ svc.cart? env.load env.ties w req.targetCartID,
    ∀ g ∈ svc.cart? env.loadGhost env.ghostTies w req.ghostCartID,
      svc.Saves env w (merged svc.sha256 env.walk t g req.sourceHLC env.now) none →
        svc.MergeKeepsCount t g ∧
        (env.save = .ok → env.cache = .ok → svc.Deletes env g.cartID → g.lines = [])
  | _ => True

instance decidableKeepsMatch (svc : Service) (w : World) : ∀ a, Decidable (svc.KeepsMatch w a)
  | (_, .addItem _) | (_, .updateItem _) | (_, .removeItem _) | (_, .mergeGhostCart _) => by
    dsimp only [KeepsMatch]
    infer_instance
  | (_, .createCart _) | (_, .getCart _) | (_, .finalizeCart _) => .isTrue trivial

/-- A save that counts what was stored changes no count. -/
theorem count_saveCart (laws : svc.uuid.Lawful) {o : Outcome} {ties : Shuffle LineRow}
    {cartID : String} {row : CartRow} {c₀ c : Cart} {now : Timestamp} {db : DB} {new old : CartRow}
    {rows : List LineRow} (loaded : Loaded svc o ties w cartID row c₀) (same : c.cartID = c₀.cartID)
    (saved : Saved svc.uuid now w.db c db new old rows)
    (counts : ∀ item, count svc.uuid c.lines item = count svc.uuid c₀.lines item) (cart item : UUID) :
    db.count cart item = w.db.count cart item := by
  rw [saved.count, (loaded.of_saved laws same saved).1]
  split
  · rename_i own
    rw [own, counts, loaded.stored.count laws]
  · rfl

theorem matches_of_count {db : DB} {cache : String → Option Cart} (h : Matches w)
    (counts : ∀ cart item, db.count cart item = w.db.count cart item) : Matches { w with db, cache } :=
  fun cart item => (h cart item).trans (counts cart item).symm

theorem matches_addItem (laws : svc.uuid.Lawful) (h : Matches w) {env : Env} {req : AddItemRequest}
    (keeps : svc.KeepsMatch w (env, .addItem req)) : Matches (svc.addItem env req w).1 := by
  refine of_addItem h ?_ ?_
  · intro row c₀ c held cart item loaded changed reserved applies unsaved
    obtain ⟨done, saves⟩ := keeps applies (by rw [reserved.parsedItem]; rfl) c₀ loaded.read c
      (by rw [changed]; rfl)
    exact absurd saves (unsaved done)
  · intro row c₀ c held cart item db cache loaded changed reserved hdb _ _
    obtain ⟨new, old, rows, saved⟩ := saveCart_eq_ok hdb
    have same := (Cart.advances_of_command (.add _) changed).cartID
    have own := (loaded.of_saved laws same saved).1
    have cart_eq : cart = row.cartID := loaded.id_eq laws (same ▸ reserved.parsedCart)
    have added (item' : UUID) : (svc.newLine env req).count svc.uuid item' =
        if item' = item then req.quantity.toInt else 0 := by
      rw [Line.count]
      simp only [newLine, reserved.parsedItem, Except.toOption, Option.some.injEq,
        Int32.toInt_toInt64, eq_comm]
    intro cart' item'
    show held cart' item' = db.count cart' item'
    rw [reserved.adds, h, saved.count, own, cart_eq]
    by_cases hcart : cart' = row.cartID
    · rw [if_pos hcart, Cart.lines_of_addLine changed, count_append, loaded.stored.count laws, hcart,
        count, List.map_singleton, List.sum_singleton, added]
      simp only [true_and]
    · rw [if_neg hcart, if_neg fun own => hcart own.1, add_zero]

theorem matches_mergeGhostCart (laws : svc.uuid.Lawful) (h : Matches w) {env : Env}
    {req : MergeGhostCartRequest} (keeps : svc.KeepsMatch w (env, .mergeGhostCart req)) :
    Matches (svc.mergeGhostCart env req w).1 := by
  have counts {row ghostRow : CartRow} {t g : Cart} {db : DB}
      (target : Loaded svc env.load env.ties w req.targetCartID row t)
      (ghost : Loaded svc env.loadGhost env.ghostTies w req.ghostCartID ghostRow g)
      (hdb : CartService.saveCart svc.uuid w.db env.others env.dbNow env.lineIDs
        (merged svc.sha256 env.walk t g req.sourceHLC env.now) none = .ok db)
      (applies : env.save.applies) (cart item : UUID) : db.count cart item = w.db.count cart item := by
    obtain ⟨new, old, rows, saved⟩ := saveCart_eq_ok hdb
    have kept := (keeps t target.read g ghost.read (saves_of_saveCart applies hdb)).1
    refine count_saveCart laws target (advances_merged ..).cartID saved (fun item => ?_) cart item
    rw [count_merged]
    by_cases named : ∃ l ∈ t.lines ++ g.lines, item ∈ (svc.uuid.parse l.menuItemID).toOption
    · obtain ⟨l, hl, hitem⟩ := named
      exact kept l hl item hitem
    · have none (l : Line) (hl : l ∈ t.lines ++ g.lines) :
          item ∉ (svc.uuid.parse l.menuItemID).toOption := fun hitem => named ⟨l, hl, hitem⟩
      rw [countMerged_eq_zero none, count_eq_zero fun l hl => none l (List.mem_append_left _ hl)]
  refine of_mergeGhostCart h ?_ ?_
  · intro row t ghostRow g db cache target ghost hdb applies _
    exact matches_of_count h (counts target ghost hdb applies)
  · intro row t ghostRow g db db' cache target ghost hdb hdb' done cached applies _
    have saves : env.save.applies := by rw [done]; trivial
    have spared := (keeps t target.read g ghost.read (saves_of_saveCart saves hdb)).2 done cached
    obtain ⟨new, old, rows, saved⟩ := saveCart_eq_ok hdb
    obtain ⟨deletes, rfl⟩ := ghost.deletes laws saved hdb' applies
    refine matches_of_count h fun cart item => ?_
    by_cases hcart : cart = ghostRow.cartID
    · rw [DB.count, hcart, linesOf_delete_self, ← ghost.stored.count laws, spared deletes]
      rfl
    · rw [DB.count, linesOf_delete hcart]
      exact counts target ghost hdb saves cart item

theorem matches_step (laws : svc.uuid.Lawful) (a : Env × Call) (h : Matches w) (valid : w.db.Valid)
    (keeps : svc.KeepsMatch w a) : Matches (svc.step w a) := by
  obtain ⟨env, call⟩ := a
  cases call with
  | createCart req =>
    refine of_createCart h ?_
    intro db new rows cache _ created _ _ _
    refine matches_of_count h fun cart item => ?_
    rw [DB.count, DB.count, created.linesOf]
    split
    · rename_i own
      have none : rows = [] := by
        cases created.written
        rfl
      rw [none, own, valid.linesOf_absent created.absent]
    · rfl
  | getCart cartID => exact of_getCart h fun _ _ _ _ _ => h
  | addItem req => exact matches_addItem laws h keeps
  | updateItem req =>
    refine of_updateItem h ?_
    intro row c₀ c db cache given loaded changed hdb applies _
    have quantity := keeps c₀ loaded.read c (by rw [changed]; rfl) (saves_of_saveCart applies hdb)
    obtain ⟨new, old, rows, saved⟩ := saveCart_eq_ok hdb
    have same := (Cart.advances_of_command (.update _ _ _) changed).cartID
    refine matches_of_count h (count_saveCart laws loaded same saved fun item => ?_)
    obtain ⟨before, l, after, lines, own, lines'⟩ := Cart.lines_of_updateLine changed
    have kept : l.quantity = req.quantity.toInt64 :=
      quantity l (lines ▸ List.mem_append_right _ List.mem_cons_self) own
    rw [lines, lines', count_append, count_append, count_append _ (l :: after),
      count_cons, add_assoc]
    congr 2
    split
    · rename_i gone
      have zero : l.quantity.toInt = 0 := by
        have least : ¬ req.quantity.toInt < 0 := fun neg => given (.inr (.inr (Int32.lt_iff_toInt_lt.mpr neg)))
        have most : l.quantity.toInt ≤ 0 := kept ▸ Int64.le_iff_toInt_le.mp gone
        rw [kept, Int32.toInt_toInt64] at most ⊢
        omega
      rw [Line.count, zero, ite_self]
      rfl
    · rw [count, List.map_singleton, List.sum_singleton, Line.count, Line.count, kept]
  | removeItem req =>
    refine of_removeItem h ?_
    intro row c₀ c db cache loaded changed hdb applies _
    exact absurd (saves_of_saveCart applies hdb) (keeps c₀ loaded.read c (by rw [changed]; rfl))
  | finalizeCart req =>
    refine of_finalizeCart h ?_
    intro row c₀ c db cache loaded changed hdb _ _
    obtain ⟨new, old, rows, saved⟩ := saveCart_eq_ok hdb
    have same : c.cartID = c₀.cartID := by
      rw [(Cart.advances_of_command .finalize changed).cartID, withPhone_eq]
    refine matches_of_count h (count_saveCart laws loaded same saved fun item => ?_)
    rw [Cart.lines_of_finalize changed, withPhone_eq]
  | mergeGhostCart req => exact matches_mergeGhostCart laws h keeps

/-- The inventory holds what the carts count throughout a run that keeps them in step. -/
theorem reservations_match (svc : Service) (laws : svc.uuid.Lawful) (w : World) (start : Matches w)
    (valid : w.db.Valid) (calls : List (Env × Call))
    (keeps : Runs.EachStep svc.step svc.KeepsMatch w calls) : Runs.Always svc.step Matches w calls :=
  Runs.always_of_eachStep (J := fun w => Matches w ∧ w.db.Valid) (fun _ h => h.1)
    (fun _ a h keeps => ⟨matches_step laws a h.1 h.2 keeps, valid_step a h.2⟩) ⟨start, valid⟩ keeps

end Service

namespace Shop

theorem matches_empty : Matches empty := fun _ _ => rfl

theorem valid_empty : empty.db.Valid := ⟨nofun, nofun⟩

/-- Two items are added, and a ghost that is empty is merged. -/
theorem reservations_match_added :
    Runs.Always shop.step Matches empty
      [create 1, add 1 1 1 2, add 2 1 2 1, create 2, merge 1 2] :=
  Service.reservations_match shop lawful_shop empty matches_empty valid_empty _ (by decide +kernel)

/-- What is removed stays reserved. -/
theorem reservation_outlives_line :
    ¬ ∀ w, Matches w → w.db.Valid → ∀ calls, Matches (Runs.run shop.step w calls) := by
  intro claim
  have start : Matches (shop.step empty (create 1)) :=
    Service.matches_step lawful_shop (create 1) matches_empty valid_empty trivial
  have matched := claim _ start (Service.valid_step _ valid_empty) [add 1 1 1 2, remove 1 1] 1 1
  exact absurd matched (by decide +kernel)

end Shop

end CartService
