import AstraSystem.CartService.Service
import AstraSystem.Lib.Runs

/-!
# Finalized carts

The aggregate refuses to change a finalized cart. A merge asks neither of its
two carts: it rewrites the target and deletes the ghost.
-/

namespace CartService

/-- The finalized carts of `db` are in `db'`, unchanged and with the same lines. -/
def KeepsFinalized (db db' : DB) : Prop :=
  ∀ id row, db.carts.find? id = some row → row.finalized = true →
    db'.carts.find? id = some row ∧ db'.linesOf id = db.linesOf id

theorem KeepsFinalized.refl (db : DB) : KeepsFinalized db db := fun _ _ found _ => ⟨found, rfl⟩

theorem KeepsFinalized.trans {db db' db'' : DB} (h : KeepsFinalized db db')
    (h' : KeepsFinalized db' db'') : KeepsFinalized db db'' := by
  intro id row found finalized
  obtain ⟨found', lines⟩ := h id row found finalized
  obtain ⟨found'', lines'⟩ := h' id row found' finalized
  exact ⟨found'', lines'.trans lines⟩

section
variable {uuid : UUIDText} {db db' : DB} {now : Timestamp} {c : Cart} {new old : CartRow}
  {rows : List LineRow}

theorem Saved.keepsFinalized (h : Saved uuid now db c db' new old rows)
    (unfinalized : old.finalized = false) : KeepsFinalized db db' := by
  intro id row found finalized
  have other : id ≠ new.cartID := by
    rintro rfl
    rw [h.found] at found
    obtain rfl := Option.some.inj found
    rw [unfinalized] at finalized
    cases finalized
  exact ⟨by rw [h.carts, if_neg other, found], by rw [h.linesOf, if_neg other]⟩

theorem Created.keepsFinalized (h : Created uuid db c db' new rows) : KeepsFinalized db db' := by
  intro id row found _
  have other : id ≠ new.cartID := by
    rintro rfl
    rw [h.absent] at found
    cases found
  exact ⟨by rw [h.carts, if_neg other, found], by rw [h.linesOf, if_neg other]⟩

/-- A cart may go that was not finalized before. -/
theorem KeepsFinalized.delete {db'' : DB} {id : UUID} (h : KeepsFinalized db db')
    (unfinalized : ∀ row, db.carts.find? id = some row → row.finalized = false)
    (hdb : db'' = { db' with
      carts := db'.carts.delete (·.cartID = id), lines := db'.lines.delete (·.cartID = id) }) :
    KeepsFinalized db db'' := by
  subst hdb
  intro other row found finalized
  have ne : other ≠ id := by
    rintro rfl
    rw [unfinalized row found] at finalized
    cases finalized
  obtain ⟨kept, lines⟩ := h other row found finalized
  exact ⟨(Table.find?_delete_of_ne ne).trans kept, (linesOf_delete ne).trans lines⟩

end

namespace Service

variable {svc : Service} {w : World}

/-- A merge that takes effect is into a cart that is not finalized, and deletes such a one. -/
def SparesFinalized (svc : Service) (w : World) (a : Env × Call) : Prop :=
  match a with
  | (env, .mergeGhostCart req) =>
    env.load = .ok → env.loadGhost = .ok →
      ∀ target ∈ svc.row w req.targetCartID, ∀ ghost ∈ svc.row w req.ghostCartID,
        (env.save.applies → target.finalized = false) ∧
        (env.save = .ok → env.cache = .ok → env.delete.applies → ghost.finalized = false)
  | _ => True

instance decidableSparesFinalized (svc : Service) (w : World) :
    ∀ a, Decidable (svc.SparesFinalized w a)
  | (env, .mergeGhostCart req) => inferInstanceAs (Decidable (env.load = .ok → env.loadGhost = .ok →
      ∀ target ∈ svc.row w req.targetCartID, ∀ ghost ∈ svc.row w req.ghostCartID,
        (env.save.applies → target.finalized = false) ∧
        (env.save = .ok → env.cache = .ok → env.delete.applies → ghost.finalized = false)))
  | (_, .createCart _) | (_, .getCart _) | (_, .addItem _) | (_, .updateItem _) | (_, .removeItem _)
  | (_, .finalizeCart _) => .isTrue trivial

/-- A save of a loaded cart that is not finalized. -/
theorem keepsFinalized_saveCart (laws : svc.uuid.Lawful) {env : Env} {cartID : String} {row : CartRow}
    {c₀ c : Cart} {event : Option Entry} {db : DB} (loaded : Loaded svc env.load env.ties w cartID row c₀)
    (same : c.cartID = c₀.cartID) (unfinalized : row.finalized = false)
    (h : CartService.saveCart svc.uuid w.db env.others env.dbNow env.lineIDs c event = .ok db) :
    KeepsFinalized w.db db := by
  obtain ⟨new, old, rows, saved⟩ := saveCart_eq_ok h
  obtain ⟨-, rfl⟩ := loaded.of_saved laws same saved
  exact saved.keepsFinalized unfinalized

/-- The cart a command changes is not finalized. -/
theorem keepsFinalized_command (laws : svc.uuid.Lawful) (cmd : Command) {env : Env} {cartID : String}
    {row : CartRow} {c₀ c₁ c : Cart} {event : Option Entry} {db : DB}
    (loaded : Loaded svc env.load env.ties w cartID row c₀) (same : c₁.cartID = c₀.cartID)
    (flag : c₁.finalized = c₀.finalized) (h : c₁.command env.now cmd = .ok c)
    (hdb : CartService.saveCart svc.uuid w.db env.others env.dbNow env.lineIDs c event = .ok db) :
    KeepsFinalized w.db db := by
  have unfinalized : row.finalized = false := by
    rw [← loaded.finalized_eq, ← flag]
    exact Cart.not_finalized_of_command cmd h
  exact keepsFinalized_saveCart laws loaded ((Cart.advances_of_command cmd h).cartID.trans same)
    unfinalized hdb

theorem keepsFinalized_mergeGhostCart (laws : svc.uuid.Lawful) {env : Env}
    {req : MergeGhostCartRequest} (spares : svc.SparesFinalized w (env, .mergeGhostCart req)) :
    KeepsFinalized w.db (svc.mergeGhostCart env req w).1.db := by
  have spared {row ghostRow : CartRow} {t g : Cart}
      (target : Loaded svc env.load env.ties w req.targetCartID row t)
      (ghost : Loaded svc env.loadGhost env.ghostTies w req.ghostCartID ghostRow g) :=
    spares target.done ghost.done row target.row_eq ghostRow ghost.row_eq
  refine of_mergeGhostCart (Q := fun w' => KeepsFinalized w.db w'.db) (.refl w.db) ?_ ?_
  · intro row t ghostRow g db cache target ghost hdb applies _
    exact keepsFinalized_saveCart laws target (advances_merged ..).cartID ((spared target ghost).1 applies) hdb
  · intro row t ghostRow g db db' cache target ghost hdb hdb' done cached applies _
    have spared := spared target ghost
    have saved := keepsFinalized_saveCart laws target (advances_merged ..).cartID
      (spared.1 (by rw [done]; trivial)) hdb
    obtain ⟨id, parsed, -, deleted⟩ := deleteCart_eq_ok hdb'
    refine saved.delete ?_ deleted
    intro other found
    rw [ghost.id_eq laws parsed, ghost.stored.found] at found
    rw [← Option.some.inj found]
    exact spared.2 done cached applies

theorem keepsFinalized_step (laws : svc.uuid.Lawful) (a : Env × Call)
    (spares : svc.SparesFinalized w a) : KeepsFinalized w.db (svc.step w a).db := by
  obtain ⟨env, call⟩ := a
  have same := KeepsFinalized.refl w.db
  cases call with
  | createCart req =>
    refine of_createCart (Q := fun w' => KeepsFinalized w.db w'.db) same ?_
    intro db new rows cache _ created _ _ _
    exact created.keepsFinalized
  | getCart cartID =>
    exact of_getCart (Q := fun w' => KeepsFinalized w.db w'.db) same fun _ _ _ _ _ => same
  | addItem req =>
    refine of_addItem (Q := fun w' => KeepsFinalized w.db w'.db) same (fun _ _ _ _ _ _ _ _ _ _ _ => same) ?_
    intro row c₀ c held cart item db cache loaded h _ hdb _ _
    exact keepsFinalized_command laws (.add _) loaded rfl rfl h hdb
  | updateItem req =>
    refine of_updateItem (Q := fun w' => KeepsFinalized w.db w'.db) same ?_
    intro row c₀ c db cache _ loaded h hdb _ _
    exact keepsFinalized_command laws (.update _ _ _) loaded rfl rfl h hdb
  | removeItem req =>
    refine of_removeItem (Q := fun w' => KeepsFinalized w.db w'.db) same ?_
    intro row c₀ c db cache loaded h hdb _ _
    exact keepsFinalized_command laws (.remove _) loaded rfl rfl h hdb
  | finalizeCart req =>
    refine of_finalizeCart (Q := fun w' => KeepsFinalized w.db w'.db) same ?_
    intro row c₀ c db cache loaded h hdb _ _
    have same : (withPhone c₀ req.customerPhone).cartID = c₀.cartID := by rw [withPhone_eq]
    have flag : (withPhone c₀ req.customerPhone).finalized = c₀.finalized := by rw [withPhone_eq]
    exact keepsFinalized_command laws .finalize loaded same flag h hdb
  | mergeGhostCart req => exact keepsFinalized_mergeGhostCart laws spares

/-- What each call spares, a run of calls leaves as it was when it was finalized. -/
theorem keepsFinalized_run (laws : svc.uuid.Lawful) {calls : List (Env × Call)}
    (spares : Runs.EachStep svc.step svc.SparesFinalized w calls) :
    KeepsFinalized w.db (Runs.run svc.step w calls).db := by
  induction calls generalizing w with
  | nil => exact .refl w.db
  | cons a calls ih => exact (keepsFinalized_step laws a spares.1).trans (ih spares.2)

/-- From where a cart is finalized to the end of the run it is the same. -/
theorem finalized_carts_immutable (svc : Service) (laws : svc.uuid.Lawful) (w : World)
    (before after : List (Env × Call))
    (spares : Runs.EachStep svc.step svc.SparesFinalized w (before ++ after)) :
    KeepsFinalized (Runs.run svc.step w before).db (Runs.run svc.step w (before ++ after)).db := by
  rw [Runs.run_append]
  exact keepsFinalized_run laws (Runs.eachStep_append.mp spares).2

end Service

open Shop in
/-- A merge of two other carts. -/
theorem finalized_carts_immutable_beside_a_merge :
    KeepsFinalized (Runs.run shop.step empty [create 1, add 1 1 1 1, finalize 2 1]).db
      (Runs.run shop.step empty ([create 1, add 1 1 1 1, finalize 2 1] ++
        [create 2, add 2 2 1 1, create 3, add 3 3 1 2, merge 2 3])).db :=
  Service.finalized_carts_immutable shop lawful_shop empty _ _ (by decide +kernel)

namespace Shop

def twoCarts : World := Runs.run shop.step empty [create 1, add 1 1 1 1, create 2, add 2 2 1 2]

/-- A merge into a finalized cart changes its lines. -/
theorem finalized_cart_changed_by_a_merge :
    ¬ ∀ w before after, KeepsFinalized (Runs.run shop.step w before).db
      (Runs.run shop.step w (before ++ after)).db := by
  intro claim
  have finalized : ((Runs.run shop.step twoCarts [finalize 3 1]).db.carts.find? 1).any
      (·.finalized) = true := by
    decide +kernel
  have changed : (Runs.run shop.step twoCarts ([finalize 3 1] ++ [merge 1 2])).db.linesOf 1 ≠
      (Runs.run shop.step twoCarts [finalize 3 1]).db.linesOf 1 := by
    decide +kernel
  obtain ⟨row, found, flag⟩ := (Option.any_eq_true _ _).mp finalized
  exact changed (claim twoCarts [finalize 3 1] [merge 1 2] 1 row found flag).2

end Shop

end CartService
