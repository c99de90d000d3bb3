import AstraSystem.CartService.Service
import AstraSystem.Lib.Runs

/-!
# The session cache and the carts

A new cart is cached under its lane. A cart that is read back names no lane, so
whatever is cached of it goes under another key, and the first entry stays as it
was until it expires.
-/

namespace CartService

/-- Nothing that the call asks of others fails. -/
structure Env.Faultless (env : Env) : Prop where
  load : env.load = .ok
  loadGhost : env.loadGhost = .ok
  reserve : env.reserve = .ok
  save : env.save = .ok
  delete : env.delete = .ok
  cache : env.cache = .ok
  cacheAgain : env.cacheAgain = .ok

/-- An entry shows a cart as it is stored, while it is not finalized. -/
structure Shows (uuid : UUIDText) (entry : Cart) (row : CartRow) (lines : List LineRow) : Prop where
  lines : entry.lines.Perm (lines.map (·.line uuid))
  version : entry.version = row.version.toInt64
  totalCents : entry.totalCents = row.totalCents.toInt64
  taxCents : entry.taxCents = row.taxCents.toInt64
  discountCents : entry.discountCents = row.discountCents.toInt64
  finalTotalCents : entry.finalTotalCents = row.finalTotalCents.toInt64
  unfinalized : row.finalized = false

/-- What a cache key may hold for a cart: no entry, or what is stored; of a cart that is gone, no
entry of its own. -/
def Agrees (uuid : UUIDText) (w : World) (id : UUID) (key : String) : Prop :=
  ∀ entry, w.cache key = some entry →
    match w.db.carts.find? id with
    | some row => Shows uuid entry row (w.db.linesOf id)
    | none => entry.cartID ≠ uuid.string id

theorem Agrees.congr {uuid : UUIDText} {w w' : World} {id : UUID} {key : String}
    (h : Agrees uuid w id key) (cache : w'.cache key = w.cache key)
    (found : w'.db.carts.find? id = w.db.carts.find? id) (lines : w'.db.linesOf id = w.db.linesOf id) :
    Agrees uuid w' id key := by
  intro entry hentry
  rw [cache] at hentry
  have agrees := h entry hentry
  rwa [← found, ← lines] at agrees

theorem agrees_of_absent {uuid : UUIDText} {w : World} {id : UUID} {key : String}
    (absent : w.cache key = none) : Agrees uuid w id key := by
  intro entry hentry
  rw [absent] at hentry
  cases hentry

theorem agrees_of_shown {uuid : UUIDText} {w : World} {id : UUID} {key : String}
    (h : ∀ entry, w.cache key = some entry →
      (∀ row, w.db.carts.find? id = some row → Shows uuid entry row (w.db.linesOf id)) ∧
      (w.db.carts.find? id = none → entry.cartID ≠ uuid.string id)) : Agrees uuid w id key := by
  intro entry hentry
  obtain ⟨stored, gone⟩ := h entry hentry
  split
  · rename_i row found
    exact stored row found
  · rename_i absent
    exact gone absent

/-- The world, and the key of each cart that was created in it. -/
structure Sessions where
  world : World
  keys : UUID → Option String := fun _ => none

inductive Act where
  | call (env : Env) (call : Call)
  /-- An entry's time to live ends. -/
  | expire (key : String)

/-- The entry of every cart created is absent, or is the cart. -/
def Sessions.Coherent (uuid : UUIDText) (t : Sessions) : Prop :=
  ∀ id key, t.keys id = some key → Agrees uuid t.world id key

/-- Keys of lanes that are given. -/
def Sessions.Named (t : Sessions) : Prop :=
  ∀ id key, t.keys id = some key → ∃ lane session, lane ≠ "" ∧ key = Key lane session

namespace Service

variable (svc : Service)

def act (t : Sessions) : Act → Sessions
  | .expire key => { t with world := { t.world with
      cache := Function.update t.world.cache key none } }
  | .call env (.createCart req) =>
    match svc.createCart env req t.world with
    | (world, .ok _) => ⟨world, Function.update t.keys env.newID (some (Key req.kioskID req.sessionID))⟩
    | (world, .error _) => { t with world }
  | .call env call => { t with world := svc.step t.world (env, call) }

/-- No entry is under the key that the cart was created with. -/
def Uncached (t : Sessions) (c : Cart) : Prop :=
  ∀ id ∈ (svc.uuid.parse c.cartID).toOption, ∀ key ∈ t.keys id, t.world.cache key = none

instance decidableUncached (t : Sessions) (c : Cart) : Decidable (svc.Uncached t c) :=
  inferInstanceAs (Decidable (∀ id ∈ (svc.uuid.parse c.cartID).toOption, ∀ key ∈ t.keys id, _))

/-- The entry under the key that the cart was created with is not its own. -/
def Disowned (t : Sessions) (c : Cart) : Prop :=
  ∀ id ∈ (svc.uuid.parse c.cartID).toOption, ∀ key ∈ t.keys id,
    ∀ entry ∈ t.world.cache key, entry.cartID ≠ c.cartID

/-- A cart that a call saves is not cached, a cart that it deletes has no entry, and a new cart looks
like the stored ones that share its key. -/
def KeepsCoherent (t : Sessions) : Act → Prop
  | .call env (.createCart req) =>
    (CartService.createCart svc.uuid t.world.db env.others env.lineIDs (svc.cartOf env req)).isOk =
      true →
      ∀ id row, id ≠ env.newID → t.keys id = some (Key req.kioskID req.sessionID) →
        t.world.db.carts.find? id = some row →
          Shows svc.uuid (svc.cartOf env req) row (t.world.db.linesOf id)
  | .call env (.addItem req) =>
    ∀ c₀ ∈ svc.cart? env.load env.ties t.world req.cartID,
    ∀ c ∈ (c₀.addLine (svc.newLine env req) env.now).toOption,
      svc.Saves env t.world c (some (svc.newItemAddedToCart env c (svc.newLine env req))) →
        svc.Uncached t c₀
  | .call env (.updateItem req) =>
    ∀ c₀ ∈ svc.cart? env.load env.ties t.world req.cartID,
    ∀ c ∈ (c₀.updateLine req.lineID req.quantity.toInt64 req.modifiers env.now).toOption,
      svc.Saves env t.world c none → svc.Uncached t c₀
  | .call env (.removeItem req) =>
    ∀ c₀ ∈ svc.cart? env.load env.ties t.world req.cartID,
    ∀ c ∈ (c₀.removeLine req.lineID env.now).toOption,
      svc.Saves env t.world c none → svc.Uncached t c₀
  | .call env (.finalizeCart req) =>
    ∀ c₀ ∈ svc.cart? env.load env.ties t.world req.cartID,
    ∀ c ∈ ((withPhone c₀ req.customerPhone).finalize env.now).toOption,
      svc.Saves env t.world c (some (svc.newCartFinalized env c)) → svc.Uncached t c₀
  | .call env (.mergeGhostCart req) =>
    ∀ c₀ ∈ svc.cart? env.load env.ties t.world req.targetCartID,
    ∀ g ∈ svc.cart? env.loadGhost env.ghostTies t.world req.ghostCartID,
      svc.Saves env t.world (merged svc.sha256 env.walk c₀ g req.sourceHLC env.now) none →
        svc.Uncached t c₀ ∧ (svc.Deletes env g.cartID → svc.Disowned t g)
  | _ => True

variable {svc}

/-- The creation of a cart when nothing fails. -/
theorem ensures_createCart {env : Env} {req : CreateCartRequest} {w : World} (faultless : env.Faultless) :
    Effect.Ensures (svc.createCart env req) w
      (fun w' _ => ∃ db new rows, req.kioskID ≠ "" ∧
        CartService.createCart svc.uuid w.db env.others env.lineIDs (svc.cartOf env req) = .ok db ∧
        Created svc.uuid w.db (svc.cartOf env req) db new rows ∧ w'.db = db ∧
        w'.cache = Function.update w.cache (Key req.kioskID req.sessionID)
          (some (svc.cartOf env req)))
      fun w' => w' = w := by
  refine Effect.ensures_ite.mpr ⟨fun _ => rfl, fun given => ?_⟩
  refine Effect.ensures_bind.mpr (ensures_request (fun _ => rfl) ?_ ?_)
  · intro w' _ _ failed
    exact absurd faultless.save failed
  · intro w' h _
    obtain ⟨db, hdb, ⟨⟩⟩ := Statement.bind_eq_ok.mp h
    obtain ⟨new, rows, created⟩ := createCart_eq_ok hdb
    refine Effect.ensures_bind.mpr (ensures_cacheSet ?_ fun _ => ?_)
    · intro failed
      exact absurd faultless.cache failed
    · exact ⟨db, new, rows, fun none => given (.inr (.inl none)), hdb, created, rfl, rfl⟩

/-- A key of a lane is not the key that a loaded cart is cached under. -/
theorem key_ne (laws : svc.uuid.Lawful) {lane session : String} {u : UUID} (named : lane ≠ "") :
    Key lane session ≠ Key "" (svc.uuid.string u) := by
  intro same
  have tails : "" ++ ":" ++ svc.uuid.string u = lane ++ ":" ++ session := by
    refine String.toList_inj.mp (@List.append_cancel_left _ "cart:".toList _ _ ?_)
    simpa [Key] using (congrArg String.toList same).symm
  exact named (String.colon_inj (by decide) (laws.no_colon u) tails).1.symm

/-- What is cached of a loaded cart leaves the entries of all lanes. -/
theorem cache_kept (laws : svc.uuid.Lawful) {t : Sessions} (named : t.Named) {o : Outcome}
    {ties : Shuffle LineRow} {cartID : String} {row : CartRow} {c₀ c : Cart}
    {cache : String → Option Cart} (loaded : Loaded svc o ties t.world cartID row c₀)
    (lane : c.laneID = c₀.laneID) (session : c.sessionID = c₀.sessionID)
    (apart : Apart c t.world.cache cache) {id : UUID} {key : String} (hkey : t.keys id = some key) :
    cache key = t.world.cache key := by
  obtain ⟨_, -, rfl⟩ := loaded.stored.loaded
  obtain ⟨lane', session', given, rfl⟩ := named id key hkey
  refine apart _ ?_
  rw [lane, session]
  exact key_ne laws given

/-- A call that saves a loaded cart leaves other carts and the entries of all lanes. -/
theorem agrees_saved (laws : svc.uuid.Lawful) {t : Sessions} (coherent : t.Coherent svc.uuid)
    {o : Outcome} {ties : Shuffle LineRow} {cartID : String} {row : CartRow} {c₀ c : Cart}
    {now : Timestamp} {db : DB} {new old : CartRow} {rows : List LineRow} {w' : World}
    (loaded : Loaded svc o ties t.world cartID row c₀) (sameID : c.cartID = c₀.cartID)
    (saved : Saved svc.uuid now t.world.db c db new old rows) (uncached : svc.Uncached t c₀)
    (hdb : w'.db = db)
    (kept : ∀ id key, t.keys id = some key → w'.cache key = t.world.cache key) :
    Sessions.Coherent svc.uuid { t with world := w' } := by
  intro id key hkey
  have own := (loaded.of_saved laws sameID saved).1
  by_cases same : id = row.cartID
  · refine agrees_of_absent ((kept id key hkey).trans (uncached id ?_ key hkey))
    obtain ⟨_, -, rfl⟩ := loaded.stored.loaded
    show id ∈ (svc.uuid.parse (svc.uuid.string row.cartID)).toOption
    rw [laws.parse_string, same]
    rfl
  · refine (coherent id key hkey).congr (kept id key hkey) ?_ ?_
    · rw [hdb, saved.carts, own, if_neg same]
    · rw [hdb, saved.linesOf, own, if_neg same]

theorem agrees_deleted {t : Sessions} {id : UUID} {w : World} (coherent : t.Coherent svc.uuid)
    (disowned : ∀ key, t.keys id = some key → ∀ entry, t.world.cache key = some entry →
      entry.cartID ≠ svc.uuid.string id)
    (hdb : w.db = { t.world.db with
      carts := t.world.db.carts.delete (·.cartID = id)
      lines := t.world.db.lines.delete (·.cartID = id) })
    (cache : w.cache = t.world.cache) : Sessions.Coherent svc.uuid { t with world := w } := by
  intro other key hkey
  by_cases same : other = id
  · subst same
    intro entry hentry
    have gone : w.db.carts.find? other = none := by
      rw [hdb]
      exact Table.find?_delete_self
    show match w.db.carts.find? other with
      | some row => Shows svc.uuid entry row (w.db.linesOf other)
      | none => entry.cartID ≠ svc.uuid.string other
    rw [gone]
    exact disowned key hkey entry (by rw [← cache]; exact hentry)
  · refine (coherent other key hkey).congr (by rw [cache]) ?_ ?_
    · rw [hdb]
      exact Table.find?_delete_of_ne same
    · rw [hdb]
      exact linesOf_delete same

/-- A new cart is stored as it is cached. -/
theorem shows_created {w : World} {env : Env} {req : CreateCartRequest} {db : DB} {new : CartRow}
    {rows : List LineRow} (created : Created svc.uuid w.db (svc.cartOf env req) db new rows) :
    db.carts.find? new.cartID = some new ∧
      Shows svc.uuid (svc.cartOf env req) new (db.linesOf new.cartID) := by
  obtain ⟨-, -, flag, status⟩ := row_eq_ok created.params
  obtain ⟨version, total, tax, discount, final⟩ := amounts_of_row created.params
  have none : rows = [] := by
    cases created.written
    rfl
  have lines : db.linesOf new.cartID = [] := by
    rw [created.linesOf, if_pos rfl, none]
  refine ⟨?_, ?_, version.symm, total.symm, tax.symm, discount.symm, final.symm, flag⟩
  · rw [created.carts, if_pos rfl, CartRow.sync_active flag status]
  · rw [lines]
    exact .nil

theorem coherent_createCart (laws : svc.uuid.Lawful) {t : Sessions} (coherent : t.Coherent svc.uuid) (named : t.Named)
    {env : Env} (faultless : env.Faultless) {req : CreateCartRequest}
    (keeps : svc.KeepsCoherent t (.call env (.createCart req))) :
    (svc.act t (.call env (.createCart req))).Coherent svc.uuid ∧
      (svc.act t (.call env (.createCart req))).Named := by
  have ensures : Effect.Ensures (svc.createCart env req) t.world _ _ := ensures_createCart faultless
  unfold Effect.Ensures at ensures
  rcases h : svc.createCart env req t.world with ⟨w', e | c⟩
  · rw [h] at ensures
    obtain rfl : w' = t.world := ensures
    simp only [act, h]
    exact ⟨coherent, named⟩
  · rw [h] at ensures
    obtain ⟨db, new, rows, given, hdb, created, rfl, cache⟩ := ensures
    simp only [act, h]
    have own : new.cartID = env.newID :=
      Except.ok.inj ((row_eq_ok created.params).1.symm.trans (laws.parse_string _))
    have key_cases (id : UUID) (key : String)
        (hkey : Function.update t.keys env.newID (some (Key req.kioskID req.sessionID)) id = some key) :
        id = env.newID ∧ key = Key req.kioskID req.sessionID ∨
          id ≠ env.newID ∧ t.keys id = some key := by
      rw [Function.update_apply] at hkey
      split at hkey
      · rename_i same
        exact .inl ⟨same, (Option.some.inj hkey).symm⟩
      · rename_i other
        exact .inr ⟨other, hkey⟩
    refine ⟨fun id key hkey => ?_, fun id key hkey => ?_⟩
    · obtain ⟨rfl, rfl⟩ | ⟨other, hkey⟩ := key_cases id key hkey
      · obtain ⟨found, shows⟩ := shows_created created
        rw [own] at found shows
        refine agrees_of_shown fun entry hentry => ?_
        rw [cache, Function.update_self] at hentry
        obtain rfl := Option.some.inj hentry
        refine ⟨fun row hrow => ?_, fun absent => ?_⟩
        · rw [found] at hrow
          exact Option.some.inj hrow ▸ shows
        · rw [found] at absent
          cases absent
      · have found : w'.db.carts.find? id = t.world.db.carts.find? id := by
          rw [created.carts, own, if_neg other]
        have lines : w'.db.linesOf id = t.world.db.linesOf id := by
          rw [created.linesOf, own, if_neg other]
        by_cases shared : key = Key req.kioskID req.sessionID
        · subst shared
          refine agrees_of_shown fun entry hentry => ?_
          rw [cache, Function.update_self] at hentry
          obtain rfl := Option.some.inj hentry
          refine ⟨fun row hrow => ?_, fun _ same => other (laws.string_injective same).symm⟩
          rw [lines]
          exact keeps (by rw [hdb]; rfl) id row other hkey (found.symm.trans hrow)
        · refine (coherent id key hkey).congr ?_ found lines
          rw [cache]
          exact Function.update_of_ne shared _ _
    · obtain ⟨-, rfl⟩ | ⟨-, hkey⟩ := key_cases id key hkey
      · exact ⟨_, _, given, rfl⟩
      · exact named id key hkey

theorem coherent_mergeGhostCart (laws : svc.uuid.Lawful) {t : Sessions}
    (coherent : t.Coherent svc.uuid) (named : t.Named) {env : Env} {req : MergeGhostCartRequest}
    (keeps : svc.KeepsCoherent t (.call env (.mergeGhostCart req))) :
    Sessions.Coherent svc.uuid { t with world := (svc.mergeGhostCart env req t.world).1 } := by
  refine of_mergeGhostCart (Q := fun w => Sessions.Coherent svc.uuid { t with world := w }) coherent
    ?_ ?_
  · intro row c₀ ghostRow g db cache target ghost hdb applies apart
    obtain ⟨new, old, rows, saved⟩ := saveCart_eq_ok hdb
    have uncached := (keeps c₀ target.read g ghost.read (saves_of_saveCart applies hdb)).1
    exact agrees_saved laws coherent target (advances_merged ..).cartID saved uncached rfl
      fun id key => cache_kept laws named target rfl rfl apart
  · intro row c₀ ghostRow g db db' cache target ghost hdb hdb' done _ applies apart
    obtain ⟨new, old, rows, saved⟩ := saveCart_eq_ok hdb
    have saves : env.save.applies := by rw [done]; trivial
    have keeps := keeps c₀ target.read g ghost.read (saves_of_saveCart saves hdb)
    obtain ⟨deletes, rfl⟩ := ghost.deletes laws saved hdb' applies
    have kept (id : UUID) (key : String) (hkey : t.keys id = some key) : cache key = t.world.cache key :=
      cache_kept laws named target rfl rfl apart hkey
    have saved : Sessions.Coherent svc.uuid { t with world := { t.world with db, cache } } :=
      agrees_saved laws coherent target (advances_merged ..).cartID saved keeps.1 rfl kept
    refine agrees_deleted (t := { t with world := { t.world with db, cache } }) saved ?_ rfl rfl
    intro key hkey entry hentry
    obtain ⟨_, -, rfl⟩ := ghost.stored.loaded
    refine keeps.2 deletes ghostRow.cartID ?_ key hkey entry ((kept _ key hkey).symm.trans hentry)
    show ghostRow.cartID ∈ (svc.uuid.parse (svc.uuid.string ghostRow.cartID)).toOption
    rw [laws.parse_string]
    rfl

/-- A step that keeps the entries right, and the carts' keys those of lanes. -/
theorem coherent_act (laws : svc.uuid.Lawful) {t : Sessions} (a : Act)
    (faultless : ∀ env call, a = .call env call → env.Faultless) (coherent : t.Coherent svc.uuid)
    (named : t.Named) (keeps : svc.KeepsCoherent t a) :
    (svc.act t a).Coherent svc.uuid ∧ (svc.act t a).Named := by
  cases a with
  | expire key =>
    refine ⟨fun id k hk entry hentry => coherent id k hk entry ?_, named⟩
    by_cases same : k = key
    · subst same
      cases (Function.update_self ..).symm.trans hentry
    · exact (Function.update_of_ne same ..).symm.trans hentry
  | call env call =>
    have changed {cartID : String} {row : CartRow} {c₀ c : Cart} {event : Option Entry} {db : DB}
        {cache : String → Option Cart} {w : World}
        (loaded : Loaded svc env.load env.ties t.world cartID row c₀) (advances : c₀.Advances c)
        (hsave : CartService.saveCart svc.uuid t.world.db env.others env.dbNow env.lineIDs c event =
          .ok db) (uncached : svc.Uncached t c₀) (apart : Apart c t.world.cache cache)
        (hdb : w.db = db) (hcache : w.cache = cache) :
        Sessions.Coherent svc.uuid { t with world := w } := by
      obtain ⟨new, old, rows, saved⟩ := saveCart_eq_ok hsave
      refine agrees_saved laws coherent loaded advances.cartID saved uncached hdb fun id key hkey => ?_
      rw [hcache]
      exact cache_kept laws named loaded advances.laneID advances.sessionID apart hkey
    cases call with
    | createCart req => exact coherent_createCart laws coherent named (faultless env _ rfl) keeps
    | getCart cartID =>
      refine ⟨?_, named⟩
      refine of_getCart (Q := fun w => Sessions.Coherent svc.uuid { t with world := w }) coherent ?_
      intro row c cache loaded apart id key hkey
      exact (coherent id key hkey).congr (cache_kept laws named loaded rfl rfl apart hkey) rfl rfl
    | addItem req =>
      refine ⟨?_, named⟩
      refine of_addItem (Q := fun w => Sessions.Coherent svc.uuid { t with world := w }) coherent ?_ ?_
      · intro _ _ _ held _ _ _ _ _ _ _ id key hkey
        exact (coherent id key hkey).congr rfl rfl rfl
      · intro row c₀ c held cart item db cache loaded h _ hdb applies apart
        exact changed loaded (Cart.advances_of_command (.add _) h) hdb (keeps c₀ loaded.read c
          (by rw [h]; rfl) (saves_of_saveCart applies hdb)) apart rfl rfl
    | updateItem req =>
      refine ⟨?_, named⟩
      refine of_updateItem (Q := fun w => Sessions.Coherent svc.uuid { t with world := w }) coherent ?_
      intro row c₀ c db cache _ loaded h hdb applies apart
      exact changed loaded (Cart.advances_of_command (.update _ _ _) h) hdb (keeps c₀ loaded.read c
        (by rw [h]; rfl) (saves_of_saveCart applies hdb)) apart rfl rfl
    | removeItem req =>
      refine ⟨?_, named⟩
      refine of_removeItem (Q := fun w => Sessions.Coherent svc.uuid { t with world := w }) coherent ?_
      intro row c₀ c db cache loaded h hdb applies apart
      exact changed loaded (Cart.advances_of_command (.remove _) h) hdb (keeps c₀ loaded.read c
        (by rw [h]; rfl) (saves_of_saveCart applies hdb)) apart rfl rfl
    | finalizeCart req =>
      refine ⟨?_, named⟩
      refine of_finalizeCart (Q := fun w => Sessions.Coherent svc.uuid { t with world := w }) coherent ?_
      intro row c₀ c db cache loaded h hdb applies apart
      have uncached := keeps c₀ loaded.read c (by rw [h]; rfl) (saves_of_saveCart applies hdb)
      have advances := Cart.advances_of_command .finalize h
      rw [withPhone_eq] at advances
      exact changed loaded ⟨advances.cartID, advances.laneID, advances.sessionID, advances.version⟩ hdb
        uncached apart rfl rfl
    | mergeGhostCart req => exact ⟨coherent_mergeGhostCart laws coherent named keeps, named⟩

/-- Throughout a run without faults that keeps the entries right, they are. -/
theorem session_cache_coherent (svc : Service) (laws : svc.uuid.Lawful) (w : World) (acts : List Act)
    (faultless : ∀ env call, Act.call env call ∈ acts → env.Faultless)
    (keeps : Runs.EachStep svc.act svc.KeepsCoherent { world := w } acts) :
    Runs.Always svc.act (Sessions.Coherent svc.uuid) { world := w } acts := by
  have calm : Runs.EachStep svc.act (fun _ a => ∀ env call, a = .call env call → env.Faultless)
      { world := w } acts :=
    Runs.eachStep_of_forall fun a ha _ env call h => faultless env call (h ▸ ha)
  refine Runs.always_of_eachStep (J := fun t => t.Coherent svc.uuid ∧ t.Named) (fun _ h => h.1) ?_
    ⟨nofun, nofun⟩ (Runs.eachStep_and keeps calm)
  intro t a h step
  exact coherent_act laws a step.2 h.1 h.2 step.1

end Service

namespace Shop

def call (a : Env × Call) : Act := .call a.1 a.2

theorem faultless_env (n : UUID) : (env n).Faultless := ⟨rfl, rfl, rfl, rfl, rfl, rfl, rfl⟩

/-- The first cart, its entry gone. -/
def expired : Sessions :=
  shop.act (shop.act { world := empty } (call (create 1))) (.expire (Key (text 1) (text 1)))

/-- An item is added to a cart whose entry is gone. -/
theorem session_cache_coherent_expired :
    Runs.Always shop.act (Sessions.Coherent shop.uuid) { world := empty }
      [call (create 1), .expire (Key (text 1) (text 1)), call (add 1 1 1 1)] := by
  refine Service.session_cache_coherent shop lawful_shop empty _ ?_ ⟨?_, trivial, ?_, trivial⟩
  · intro env call h
    simp only [List.mem_cons, reduceCtorEq, List.not_mem_nil, or_false, false_or] at h
    rcases h with h | h <;> cases h <;> exact faultless_env _
  · intro _ _ _ _ hkey
    cases hkey
  · have uncached : ∀ c ∈ shop.cart? .ok (.none _) expired.world (text 1), shop.Uncached expired c := by
      decide +kernel
    exact fun c hc _ _ _ => uncached c hc

def added : Sessions := Runs.run shop.act { world := empty } [call (create 1), call (add 1 1 1 1)]

/-- An item is added, and the entry of the new cart stays. -/
theorem entry_outlives_cart :
    ¬ ∀ w acts, (∀ env call, Act.call env call ∈ acts → env.Faultless) →
      (Runs.run shop.act { world := w } acts).Coherent shop.uuid := by
  intro claim
  have coherent : added.Coherent shop.uuid := claim empty _ fun env call h => by
    simp only [List.mem_cons, List.not_mem_nil, or_false] at h
    rcases h with h | h <;> cases h <;> exact faultless_env _
  have key : added.keys 1 = some (Key (text 1) (text 1)) := by decide +kernel
  have cached : (added.world.cache (Key (text 1) (text 1))).map Cart.version = some 0 := by
    decide +kernel
  have stored : (added.world.db.carts.find? 1).map CartRow.version = some 1 := by decide +kernel
  obtain ⟨entry, hentry, old⟩ := Option.map_eq_some_iff.mp cached
  obtain ⟨row, found, new⟩ := Option.map_eq_some_iff.mp stored
  have agrees := coherent 1 _ key entry hentry
  rw [found] at agrees
  have same := agrees.version
  rw [old, new] at same
  exact absurd same (by decide)

end Shop

end CartService
