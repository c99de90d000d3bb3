import AstraSystem.CartService.Service

/-!
# Optimistic locking (`GetCart` and `SaveCart` of the repository)

Any number of clients read, change and save one cart, a statement at a time and at READ COMMITTED. A save compares the
versions in its update, and the lock of the updated row keeps other saves out until its transaction has ended.
-/

namespace CartService.OptimisticLocking

open Runs (run Always EachStep)

structure Transaction where
  /-- The cart as it was read. -/
  base : Cart
  cart : Cart
  event : Option Entry
  newIDs : ℕ → UUID
  /-- What the transaction sees: what is committed, and its own writes. -/
  db : DB

/-- The statement that a transaction comes to next. -/
inductive Next where
  | deleteLines
  | insertLine (cart : UUID) (k : ℕ) (l : Line) (lines : List Line)
  | insertOutbox (e : Entry)
  | commit

inductive Phase where
  | idle
  /-- The row is read. -/
  | selected (c : Cart)
  | loaded (c : Cart)
  | changed (base c : Cart) (event : Option Entry)
  | saving (tx : Transaction) (next : Next)

structure World (Tid : Type*) where
  db : DB
  calls : Tid → Phase := fun _ => .idle
  /-- Who has updated the row and not committed it. -/
  lock : Option Tid := none
  /-- For the record, the cart that was saved last. -/
  committed : Option Cart := none

inductive Act (Tid : Type*) where
  | selectCart (t : Tid) (o : Outcome)
  | loadLines (t : Tid) (o : Outcome) (ties : Shuffle LineRow)
  | mutate (t : Tid) (phone : String) (cmd : Command) (now : Time) (event : Option Entry)
  | updateCart (t : Tid) (o : Outcome) (others : Others) (now : Timestamp) (newIDs : ℕ → UUID)
  | statement (t : Tid) (o : Outcome) (others : Others)
  | commit (t : Tid) (o : Outcome)

variable {Tid : Type*} [DecidableEq Tid] (uuid : UUIDText) (cartID : String)

/-- After the lines comes the event. -/
def Next.ofLines (event : Option Entry) (cart : UUID) (k : ℕ) : List Line → Next
  | l :: lines => .insertLine cart k l lines
  | [] => event.elim .commit .insertOutbox

def Transaction.exec (tx : Transaction) (others : Others) : Next → Except RepositoryError (DB × Next)
  | .deleteLines => do
    let cart ← (uuid.parse tx.cart.cartID).mapError (wrap "delete lines")
    pure (CartService.deleteLines tx.db cart, .ofLines tx.event cart 0 tx.cart.lines)
  | .insertLine cart k l lines => do
    let db ← insertLine uuid tx.db others cart (tx.newIDs k) l
    pure (db, .ofLines tx.event cart (k + 1) lines)
  | .insertOutbox e => do
    let db ← insertWithinTx uuid tx.db e
    pure (db, .commit)
  | .commit => pure (tx.db, .commit)

abbrev Reply := Except RepositoryError Unit

namespace World

variable (w : World Tid)

def goto (t : Tid) (phase : Phase) : World Tid := { w with calls := fun t' => if t' = t then phase else w.calls t' }

/-- The transaction of a client ends. -/
def finish (t : Tid) : World Tid := { w with lock := none }.goto t .idle

def save (tx : Transaction) : World Tid := { w with db := tx.db, committed := some tx.cart }

/-- A step, and what a save that ends with it returns. -/
def respond : Act Tid → World Tid × Option Reply
  | .selectCart t o =>
    match w.calls t with
    | .idle =>
      match o.fetch (CartService.selectCart uuid w.db cartID) with
      | .ok c => (w.goto t (.selected c), none)
      | .error _ => (w, none)
    | _ => (w, none)
  | .loadLines t o ties =>
    match w.calls t with
    | .selected c =>
      match o.fetch (CartService.loadLines uuid w.db ties cartID) with
      | .ok lines => (w.goto t (.loaded { c with lines }), none)
      | .error _ => (w.goto t .idle, none)
    | _ => (w, none)
  | .mutate t phone cmd now event =>
    match w.calls t with
    | .loaded base =>
      match (Service.withPhone base phone).command now cmd with
      | .ok c => (w.goto t (.changed base c event), none)
      | .error _ => (w.goto t .idle, none)
    | _ => (w, none)
  | .updateCart t o others now newIDs =>
    match w.calls t, w.lock with
    | .changed base cart event, none =>
      match o.fetch (CartService.updateCart uuid w.db others now cart) with
      | .ok db => ({ w with lock := some t }.goto t (.saving { base, cart, event, newIDs, db } .deleteLines), none)
      | .error err => (w.goto t .idle, some (.error err))
    | _, _ => (w, none)
  | .statement t o others =>
    match w.calls t with
    | .saving tx next =>
      match o.fetch (tx.exec uuid others next) with
      | .ok (db, next) => (w.goto t (.saving { tx with db } next), none)
      | .error err => (w.finish t, some (.error err))
    | _ => (w, none)
  | .commit t o =>
    match w.calls t with
    | .saving tx .commit =>
      match o with
      | .ok => ((w.save tx).finish t, some (.ok ()))
      | .failed err => (w.finish t, some (.error (wrap "commit save" err)))
      | .lost err => ((w.save tx).finish t, some (.error (wrap "commit save" err)))
    | _ => (w, none)

def step (a : Act Tid) : World Tid := (w.respond uuid cartID a).1

end World

/-! ## What a save replaces -/

/-- A cart that one command, and perhaps a phone number, has changed. -/
def Mutated (base c : Cart) : Prop := ∃ phone now cmd, (Service.withPhone base phone).command now cmd = .ok c

/-- A save replaces the cart and its lines as its client has read them, by the next version. -/
structure Replaces (db db' : DB) (tx : Transaction) : Prop where
  mutated : Mutated tx.base tx.cart
  saved : ∃ row new rows now, uuid.parse cartID = .ok row.cartID ∧ Stored uuid db row tx.base ∧
    Saved uuid now db tx.cart db' new row rows ∧ new.version.toInt = row.version.toInt + 1

/-- Nothing is written but by a save, and of saves that fail only by one whose commit has no answer. -/
structure Exact (w : World Tid) (a : Act Tid) : Prop where
  silent : (w.respond uuid cartID a).2 = none → (w.step uuid cartID a).db = w.db
  succeeds : (w.respond uuid cartID a).2 = some (.ok ()) → ∃ t tx, w.calls t = .saving tx .commit ∧
    a = .commit t .ok ∧ Replaces uuid cartID w.db (w.step uuid cartID a).db tx
  fails : ∀ err, (w.respond uuid cartID a).2 = some (.error err) → (w.step uuid cartID a).db = w.db ∨
    ∃ t tx err', w.calls t = .saving tx .commit ∧ a = .commit t (.lost err') ∧
      Replaces uuid cartID w.db (w.step uuid cartID a).db tx

omit [DecidableEq Tid] in
/-- The row has the version of the cart that was saved last, and the lines are that cart's. -/
def Current (w : World Tid) : Prop := ∀ c, w.committed = some c → ∃ row, uuid.parse cartID = .ok row.cartID ∧
  w.db.carts.find? row.cartID = some row ∧ row.version.toInt = c.version.toInt ∧
    Written uuid row.cartID c.lines (w.db.linesOf row.cartID)

/-! ## The invariant -/

/-- A cart that was read is no newer than the stored row, and the same where the versions are. -/
def Follows (db : DB) (c : Cart) (same : CartRow → Prop) : Prop := ∃ row, uuid.parse cartID = .ok row.cartID ∧
  c.cartID = uuid.string row.cartID ∧ db.carts.find? row.cartID = some row ∧
    c.version.toInt ≤ row.version.toInt ∧ (c.version.toInt = row.version.toInt → same row)

/-- The lines that a transaction has written when it comes to a statement. -/
def Next.Holds (db : DB) (tx : Transaction) (id : UUID) : Next → Prop
  | .deleteLines => tx.db.lines = db.lines
  | .insertLine cart _ l lines => cart = id ∧ ∃ done rows, tx.cart.lines = done ++ l :: lines ∧
      Written uuid id done rows ∧ tx.db.lines.rows = (db.lines.delete (·.cartID = id)).rows ++ rows
  | .insertOutbox _ | .commit => ∃ rows, Written uuid id tx.cart.lines rows ∧
      tx.db.lines.rows = (db.lines.delete (·.cartID = id)).rows ++ rows

/-- A transaction whose update has found the version that its client has read. -/
structure Pending (db : DB) (tx : Transaction) (next : Next) (row new : CartRow) (now : Timestamp) : Prop where
  parsed : uuid.parse cartID = .ok row.cartID
  stored : Stored uuid db row tx.base
  params : tx.cart.row uuid = .ok new
  found : db.carts.find? new.cartID = some row
  version : tx.cart.version.toInt = row.version.toInt + 1
  carts : ∀ id, tx.db.carts.find? id = if id = new.cartID then some (row.rewrite new now) else db.carts.find? id
  lines : next.Holds uuid db tx new.cartID

def Phase.Holds (db : DB) : Phase → Prop
  | .idle => True
  | .selected c => Follows uuid cartID db c fun row => c = row.cart uuid []
  | .loaded c => Follows uuid cartID db c fun row => Stored uuid db row c
  | .changed base c _ => Mutated base c ∧ Follows uuid cartID db base fun row => Stored uuid db row base
  | .saving tx next => Mutated tx.base tx.cart ∧ ∃ row new now, Pending uuid cartID db tx next row new now

structure World.Sound (w : World Tid) : Prop where
  locked : ∀ t tx next, w.calls t = .saving tx next → w.lock = some t
  calls : ∀ t, (w.calls t).Holds uuid cartID w.db
  current : Current uuid cartID w

/-! ## One transaction -/

section
variable {uuid cartID} {db db' : DB} {base c : Cart} {tx : Transaction} {next : Next} {row new : CartRow}
  {now : Timestamp} {o : Outcome} {others : Others}

theorem fetch_eq_ok {A : Type} {x : Except RepositoryError A} {a : A} (h : o.fetch x = .ok a) : x = .ok a := by
  cases o with
  | ok => exact h
  | failed | lost => cases h

theorem Mutated.version (h : Mutated base c) (room : base.version.toInt < 2 ^ 31) :
    c.cartID = base.cartID ∧ c.version.toInt = base.version.toInt + 1 := by
  obtain ⟨phone, time, cmd, h⟩ := h
  have advances := Cart.advances_of_command cmd h
  rw [Service.withPhone_eq] at advances
  have next : c.version = base.version + 1 := advances.version
  have least := base.version.le_toInt
  refine ⟨advances.cartID, ?_⟩
  rw [next, Int64.toInt_add, Int64.toInt_one]
  exact Int.bmod_eq_of_le (by omega) (by omega)

/-- The update finds the version that was read, so the row is the one that was read. -/
theorem Pending.of_update (laws : uuid.Lawful) (mutated : Mutated base c)
    (follows : Follows uuid cartID db base fun row => Stored uuid db row base)
    (h : updateCart uuid db others now c = .ok db') (event : Option Entry) (newIDs : ℕ → UUID) :
    ∃ row new, Pending uuid cartID db ⟨base, c, event, newIDs, db'⟩ .deleteLines row new now := by
  obtain ⟨row, parsed, named, found, notNewer, same⟩ := follows
  obtain ⟨new, old, params, found', version, lines, -, carts⟩ := updateCart_eq_ok h
  have most := row.version.toInt_lt
  obtain ⟨kept, next⟩ := mutated.version (by omega)
  have own : new.cartID = row.cartID := by
    have parsed' := (row_eq_ok params).1
    rw [kept, named, laws.parse_string] at parsed'
    exact (Except.ok.inj parsed').symm
  rw [own, found] at found'
  obtain rfl := Option.some.inj found'
  exact ⟨row, new, parsed, same (by omega), params, own ▸ found, version, carts, lines⟩

theorem Next.holds_ofLines {id : UUID} {k : ℕ} {lines done : List Line} {rows : List LineRow}
    (all : tx.cart.lines = done ++ lines) (written : Written uuid id done rows)
    (stored : tx.db.lines.rows = (db.lines.delete (·.cartID = id)).rows ++ rows) :
    (Next.ofLines tx.event id k lines).Holds uuid db tx id := by
  cases lines with
  | nil =>
    rw [List.append_nil] at all
    have whole : ∃ rows, Written uuid id tx.cart.lines rows ∧
        tx.db.lines.rows = (db.lines.delete (·.cartID = id)).rows ++ rows := ⟨rows, all ▸ written, stored⟩
    cases event : tx.event with
    | none => exact whole
    | some e => exact whole
  | cons l lines => exact ⟨rfl, done, rows, all, written, stored⟩

theorem Pending.exec (h : Pending uuid cartID db tx next row new now) {next' : Next}
    (ran : tx.exec uuid others next = .ok (db', next')) :
    Pending uuid cartID db { tx with db := db' } next' row new now := by
  have with_lines (carts : db'.carts = tx.db.carts)
      (lines : next'.Holds uuid db { tx with db := db' } new.cartID) :
      Pending uuid cartID db { tx with db := db' } next' row new now :=
    ⟨h.parsed, h.stored, h.params, h.found, h.version, fun id => (congrArg (·.find? id) carts).trans (h.carts id), lines⟩
  cases next with
  | deleteLines =>
    obtain ⟨cart, parsed, ran⟩ := Statement.bind_eq_ok.mp ran
    have parsed := Statement.mapError_eq_ok.mp parsed
    obtain rfl : cart = new.cartID := Except.ok.inj (parsed.symm.trans (row_eq_ok h.params).1)
    cases ran
    have untouched : tx.db.lines = db.lines := h.lines
    have none : Written uuid new.cartID [] [] := .nil
    refine with_lines rfl (Next.holds_ofLines rfl none ?_)
    rw [List.append_nil]
    exact congrArg (fun lines => (Table.delete lines (·.cartID = new.cartID)).rows) untouched
  | insertLine cart k l lines =>
    obtain ⟨rfl, done, rows, all, written, stored⟩ := h.lines
    obtain ⟨inserted, hinsert, ran⟩ := Statement.bind_eq_ok.mp ran
    obtain ⟨r, positive, params, carts, -, added⟩ := insertLine_eq_ok hinsert
    cases ran
    have written' : Written uuid new.cartID (done ++ [l]) (rows ++ [r]) :=
      List.rel_append written (.cons ⟨positive, _, params⟩ .nil)
    refine with_lines carts (Next.holds_ofLines ?_ written' ?_)
    · rw [List.append_assoc]
      exact all
    · show db'.lines.rows = _
      rw [added, stored, List.append_assoc]
  | insertOutbox e =>
    obtain ⟨rows, written, stored⟩ := h.lines
    obtain ⟨inserted, hinsert, ran⟩ := Statement.bind_eq_ok.mp ran
    obtain ⟨carts, lines⟩ := insertWithinTx_eq_ok hinsert
    cases ran
    refine with_lines carts ⟨rows, written, ?_⟩
    show db'.lines.rows = _
    rw [lines, stored]
  | commit =>
    cases ran
    exact h

theorem Pending.saved (h : Pending uuid cartID db tx .commit row new now) :
    ∃ rows, Saved uuid now db tx.cart tx.db new row rows := by
  obtain ⟨rows, written, lines⟩ := h.lines
  exact ⟨rows, h.params, h.found, h.version, written, h.carts, lines⟩

theorem Pending.replaces (h : Pending uuid cartID db tx .commit row new now) (mutated : Mutated tx.base tx.cart) :
    Replaces uuid cartID db tx.db tx := by
  obtain ⟨rows, saved⟩ := h.saved
  exact ⟨mutated, row, new, rows, now, h.parsed, h.stored, saved, (row_eq_ok h.params).2.1.trans h.version⟩

theorem version_rewrite (row new : CartRow) (now : Timestamp) : (row.rewrite new now).version = new.version := by
  unfold CartRow.rewrite CartRow.sync
  split
  · rfl
  · split <;> rfl

/-- After a commit, what others have read is older than the row. -/
theorem Follows.commit {same same' : CartRow → Prop} (follows : Follows uuid cartID db c same)
    (h : Pending uuid cartID db tx .commit row new now) : Follows uuid cartID tx.db c same' := by
  obtain ⟨old, parsed, named, found, notNewer, -⟩ := follows
  have own : old.cartID = row.cartID := Except.ok.inj (parsed.symm.trans h.parsed)
  have key : row.cartID = new.cartID := (Table.find?_eq_some.mp h.found).2
  obtain rfl : old = row := by
    rw [own, h.stored.found] at found
    exact (Option.some.inj found).symm
  have version := (row_eq_ok h.params).2.1.trans h.version
  refine ⟨old.rewrite new now, ?_, ?_, ?_, ?_, ?_⟩
  · rwa [CartRow.cartID_rewrite]
  · rwa [CartRow.cartID_rewrite]
  · rw [CartRow.cartID_rewrite, h.carts, if_pos key]
  · rw [version_rewrite]
    omega
  · rw [version_rewrite]
    omega

end

/-! ## Runs -/

section
variable {uuid cartID} {w : World Tid} {t : Tid}

namespace World.Sound

variable (h : w.Sound uuid cartID)
include h

theorem goto (t : Tid) {phase : Phase} (locked : ∀ tx next, phase = .saving tx next → w.lock = some t)
    (holds : phase.Holds uuid cartID w.db) : (w.goto t phase).Sound uuid cartID := by
  refine ⟨fun t' tx next saving => ?_, fun t' => ?_, h.current⟩
  · simp only [World.goto] at saving
    split at saving
    · rename_i own
      exact own ▸ locked tx next saving
    · exact h.locked t' tx next saving
  · simp only [World.goto]
    split
    · exact holds
    · exact h.calls t'

/-- A transaction that ends gives the lock back, and no other has it. -/
theorem finish (own : w.lock = some t) : (w.finish t).Sound uuid cartID := by
  refine ⟨fun t' tx next saving => ?_, fun t' => ?_, h.current⟩
  · simp only [World.finish, World.goto] at saving
    split at saving
    · cases saving
    · rename_i other
      have lock := h.locked t' tx next saving
      exact absurd (Option.some.inj (lock.symm.trans own)) other
  · simp only [World.finish, World.goto]
    split
    · trivial
    · exact h.calls t'

theorem commit {tx : Transaction} (saving : w.calls t = .saving tx .commit) :
    ((w.save tx).finish t).Sound uuid cartID ∧ Replaces uuid cartID w.db tx.db tx := by
  have own := h.locked t tx .commit saving
  have holds := h.calls t
  rw [saving] at holds
  obtain ⟨mutated, row, new, now, pending⟩ := holds
  obtain ⟨rows, saved⟩ := pending.saved
  refine ⟨⟨fun t' tx' next saving' => ?_, fun t' => ?_, ?_⟩, pending.replaces mutated⟩
  · simp only [World.finish, World.save, World.goto] at saving'
    split at saving'
    · cases saving'
    · rename_i other
      have lock := h.locked t' tx' next saving'
      exact absurd (Option.some.inj (lock.symm.trans own)) other
  · simp only [World.finish, World.save, World.goto]
    split
    · trivial
    · rename_i other
      have holds := h.calls t'
      cases phase : w.calls t' with
      | idle => trivial
      | selected c =>
        rw [phase] at holds
        exact Follows.commit holds pending
      | loaded c =>
        rw [phase] at holds
        exact Follows.commit holds pending
      | changed base c event =>
        rw [phase] at holds
        exact ⟨holds.1, holds.2.commit pending⟩
      | saving tx' next =>
        have lock := h.locked t' tx' next phase
        exact absurd (Option.some.inj (lock.symm.trans own)) other
  · intro c last
    obtain rfl := Option.some.inj last
    have key : row.cartID = new.cartID := (Table.find?_eq_some.mp pending.found).2
    refine ⟨row.rewrite new now, ?_, ?_, ?_, ?_⟩
    · rw [CartRow.cartID_rewrite]
      exact pending.parsed
    · rw [CartRow.cartID_rewrite]
      exact (pending.carts _).trans (if_pos key)
    · rw [version_rewrite]
      exact (row_eq_ok pending.params).2.1
    · rw [CartRow.cartID_rewrite, key]
      show Written uuid new.cartID tx.cart.lines (tx.db.linesOf new.cartID)
      rw [saved.linesOf, if_pos rfl]
      exact saved.written

end World.Sound

namespace World

/-- Whatever does not commit leaves the tables. -/
theorem kept (a : Act Tid) (open' : ∀ t o, a ≠ .commit t o) :
    (w.step uuid cartID a).db = w.db ∧ (w.respond uuid cartID a).2 ≠ some (.ok ()) := by
  cases a with
  | selectCart t o =>
    simp only [step, respond]
    split
    · split
      · exact ⟨rfl, fun reply => by cases reply⟩
      · exact ⟨rfl, fun reply => by cases reply⟩
    · exact ⟨rfl, fun reply => by cases reply⟩
  | loadLines t o ties =>
    simp only [step, respond]
    split
    · split
      · exact ⟨rfl, fun reply => by cases reply⟩
      · exact ⟨rfl, fun reply => by cases reply⟩
    · exact ⟨rfl, fun reply => by cases reply⟩
  | mutate t phone cmd now event =>
    simp only [step, respond]
    split
    · split
      · exact ⟨rfl, fun reply => by cases reply⟩
      · exact ⟨rfl, fun reply => by cases reply⟩
    · exact ⟨rfl, fun reply => by cases reply⟩
  | updateCart t o others now newIDs =>
    simp only [step, respond]
    split
    · split
      · exact ⟨rfl, fun reply => by cases reply⟩
      · exact ⟨rfl, fun reply => by cases reply⟩
    · exact ⟨rfl, fun reply => by cases reply⟩
  | statement t o others =>
    simp only [step, respond]
    split
    · split
      · exact ⟨rfl, fun reply => by cases reply⟩
      · exact ⟨rfl, fun reply => by cases reply⟩
    · exact ⟨rfl, fun reply => by cases reply⟩
  | commit t o => exact absurd rfl (open' t o)

end World

theorem exact_step (h : w.Sound uuid cartID) (a : Act Tid) : Exact uuid cartID w a := by
  by_cases commits : ∃ t o, a = .commit t o
  · obtain ⟨t, o, rfl⟩ := commits
    cases phase : w.calls t with
    | saving tx next =>
      cases next with
      | commit =>
        obtain ⟨-, replaces⟩ := h.commit phase
        cases o with
        | ok =>
          refine ⟨fun reply => ?_, fun _ => ⟨t, tx, phase, rfl, ?_⟩, fun err reply => ?_⟩
          · simp only [World.respond, phase, reduceCtorEq] at reply
          · simp only [World.step, World.respond, phase]
            exact replaces
          · simp only [World.respond, phase, Option.some.injEq, reduceCtorEq] at reply
        | failed err =>
          refine ⟨fun reply => ?_, fun reply => ?_, fun err' _ => .inl ?_⟩
          · simp only [World.respond, phase, reduceCtorEq] at reply
          · simp only [World.respond, phase, Option.some.injEq, reduceCtorEq] at reply
          · simp only [World.step, World.respond, phase]
            rfl
        | lost err =>
          refine ⟨fun reply => ?_, fun reply => ?_, fun err' _ => .inr ⟨t, tx, err, phase, rfl, ?_⟩⟩
          · simp only [World.respond, phase, reduceCtorEq] at reply
          · simp only [World.respond, phase, Option.some.injEq, reduceCtorEq] at reply
          · simp only [World.step, World.respond, phase]
            exact replaces
      | deleteLines | insertLine | insertOutbox =>
        refine ⟨fun _ => ?_, fun reply => ?_, fun err reply => ?_⟩
        · simp only [World.step, World.respond, phase]
        · simp only [World.respond, phase, reduceCtorEq] at reply
        · simp only [World.respond, phase, reduceCtorEq] at reply
    | idle | selected | loaded | changed =>
      refine ⟨fun _ => ?_, fun reply => ?_, fun err reply => ?_⟩
      · simp only [World.step, World.respond, phase]
      · simp only [World.respond, phase, reduceCtorEq] at reply
      · simp only [World.respond, phase, reduceCtorEq] at reply
  · obtain ⟨same, unanswered⟩ :
        (w.step uuid cartID a).db = w.db ∧ (w.respond uuid cartID a).2 ≠ some (.ok ()) :=
      World.kept a fun t o own => commits ⟨t, o, own⟩
    exact ⟨fun _ => same, fun reply => absurd reply unanswered, fun _ _ => .inl same⟩

namespace World.Sound

variable (h : w.Sound uuid cartID)
include h

theorem select (t : Tid) (o : Outcome) : (w.step uuid cartID (.selectCart t o)).Sound uuid cartID := by
  simp only [World.step, World.respond]
  split
  · split
    · rename_i c fetched
      obtain ⟨id, parsed, selected⟩ := Statement.bind_eq_ok.mp (fetch_eq_ok fetched)
      have parsed := Statement.mapError_eq_ok.mp parsed
      split at selected
      · cases selected
      · rename_i row found
        cases selected
        obtain ⟨-, rfl⟩ := Table.find?_eq_some.mp found
        have version : row.version.toInt64.toInt = row.version.toInt := Int32.toInt_toInt64 _
        exact h.goto t (fun tx next saving => by cases saving)
          ⟨row, parsed, rfl, found, version.le, fun _ => rfl⟩
    · exact h
  · exact h

theorem load (t : Tid) (o : Outcome) (ties : Shuffle LineRow) :
    (w.step uuid cartID (.loadLines t o ties)).Sound uuid cartID := by
  simp only [World.step, World.respond]
  split
  · rename_i c selected
    split
    · rename_i lines fetched
      have holds := h.calls t
      rw [selected] at holds
      obtain ⟨row, parsed, named, found, notNewer, same⟩ := holds
      obtain ⟨id, parsed', read⟩ := Statement.bind_eq_ok.mp (fetch_eq_ok fetched)
      obtain rfl := Except.ok.inj (parsed.symm.trans (Statement.mapError_eq_ok.mp parsed'))
      cases read
      refine h.goto t (fun tx next saving => by cases saving) ⟨row, parsed, named, found, notNewer, fun version => ?_⟩
      refine ⟨found, _, (List.perm_insertionSort (fun a b : LineRow => a.addedAtMs ≤ b.addedAtMs) _).trans
        (ties.perm _), ?_⟩
      rw [same version]
      rfl
    · exact h.goto t (fun tx next saving => by cases saving) trivial
  · exact h

theorem mutate (t : Tid) (phone : String) (cmd : Command) (now : Time) (event : Option Entry) :
    (w.step uuid cartID (.mutate t phone cmd now event)).Sound uuid cartID := by
  simp only [World.step, World.respond]
  split
  · rename_i base loaded
    split
    · rename_i c changed
      have holds := h.calls t
      rw [loaded] at holds
      exact h.goto t (fun tx next saving => by cases saving) ⟨⟨phone, now, cmd, changed⟩, holds⟩
    · exact h.goto t (fun tx next saving => by cases saving) trivial
  · exact h

theorem update (laws : uuid.Lawful) (t : Tid) (o : Outcome) (others : Others) (now : Timestamp) (newIDs : ℕ → UUID) :
    (w.step uuid cartID (.updateCart t o others now newIDs)).Sound uuid cartID := by
  simp only [World.step, World.respond]
  split
  · rename_i base c event changed free
    split
    · rename_i db fetched
      have holds := h.calls t
      rw [changed] at holds
      obtain ⟨mutated, follows⟩ := holds
      obtain ⟨row, new, pending⟩ := Pending.of_update laws mutated follows (fetch_eq_ok fetched) event newIDs
      have unlocked (t' : Tid) (tx : Transaction) (next : Next) : w.calls t' ≠ .saving tx next := fun saving => by
        cases free.symm.trans (h.locked t' tx next saving)
      have sound : ({ w with lock := some t } : World Tid).Sound uuid cartID :=
        ⟨fun t' tx next saving => absurd saving (unlocked t' tx next), h.calls, h.current⟩
      exact sound.goto t (fun _ _ _ => rfl) ⟨mutated, row, new, now, pending⟩
    · exact h.goto t (fun tx next saving => by cases saving) trivial
  · exact h

theorem statement (t : Tid) (o : Outcome) (others : Others) :
    (w.step uuid cartID (.statement t o others)).Sound uuid cartID := by
  simp only [World.step, World.respond]
  split
  · rename_i tx next saving
    have own := h.locked t tx next saving
    split
    · rename_i db next' fetched
      have holds := h.calls t
      rw [saving] at holds
      obtain ⟨mutated, row, new, now, pending⟩ := holds
      exact h.goto t (fun _ _ _ => own) ⟨mutated, row, new, now, pending.exec (fetch_eq_ok fetched)⟩
    · exact h.finish own
  · exact h

theorem step (laws : uuid.Lawful) (a : Act Tid) : (w.step uuid cartID a).Sound uuid cartID := by
  cases a with
  | selectCart t o => exact h.select t o
  | loadLines t o ties => exact h.load t o ties
  | mutate t phone cmd now event => exact h.mutate t phone cmd now event
  | updateCart t o others now newIDs => exact h.update laws t o others now newIDs
  | statement t o others => exact h.statement t o others
  | commit t o =>
    simp only [World.step, World.respond]
    split
    · rename_i tx saving
      cases o with
      | ok => exact (h.commit saving).1
      | failed err => exact h.finish (h.locked t tx .commit saving)
      | lost err => exact (h.commit saving).1
    · exact h

end World.Sound

end

/-- **A save that takes effect replaces the cart and the lines that its client has read by the next version, whatever
comes between its statements, and what is stored is at all times one version. A save that fails leaves everything,
unless its commit took effect and only the answer is lost.** -/
theorem no_update_lost {uuid : UUIDText} (laws : uuid.Lawful) (cartID : String) (db : DB) (actions : List (Act Tid)) :
    EachStep (World.step uuid cartID) (Exact uuid cartID) { db } actions ∧
      Always (World.step uuid cartID) (Current uuid cartID) { db } actions := by
  have start : World.Sound uuid cartID ({ db } : World Tid) := by
    refine ⟨fun t tx next saving => ?_, fun _ => trivial, fun c last => ?_⟩
    · cases saving
    · cases last
  have kept (w : World Tid) (a : Act Tid) (h : w.Sound uuid cartID) : (w.step uuid cartID a).Sound uuid cartID :=
    h.step laws a
  constructor
  · exact Runs.eachStep_of_eachStep (G := fun _ _ => True) (fun w a h _ => exact_step h a)
      (fun w a h _ => kept w a h) start (Runs.eachStep_of_forall fun _ _ _ => trivial)
  · exact Runs.always_inv kept (fun _ h => h.current) start actions

/-! ## Two clients -/

namespace Counter

open Shop (text)

/-- A cart that was created. -/
def db : DB := (run shop.step Shop.empty [Shop.create 1]).db

def line (n : UUID) : Line where
  cartID := ""
  lineID := text n
  menuItemID := text 1
  nameSnapshot := ""
  unitPriceCentsSnapshot := 0
  quantity := 1
  modifiers := []
  addedAtMs := 0

/-- A client reads the cart, adds a line and begins to save it. -/
def adds (t : Bool) (n : UUID) : List (Act Bool) :=
  [.selectCart t .ok, .loadLines t .ok (.none _), .mutate t "" (.add (line n)) 0 none,
    .updateCart t .ok (Shop.env n).others 0 fun _ => n]

def saves (t : Bool) (o : Outcome) : List (Act Bool) :=
  [.statement t .ok (Shop.env 1).others, .statement t .ok (Shop.env 1).others, .commit t o]

/-- One client saves between the read and the update of the other. -/
def together : List (Act Bool) :=
  (adds true 1).take 3 ++ adds false 2 ++ saves false .ok ++ (adds true 1).drop 3 ++ saves true .ok

theorem no_update_lost_together :
    EachStep (World.step shop.uuid (text 1)) (Exact shop.uuid (text 1)) { db } together ∧
      Always (World.step shop.uuid (text 1)) (Current shop.uuid (text 1)) { db } together :=
  no_update_lost lawful_shop (text 1) db together

/-- The save fails, and the line is stored. -/
theorem stored_by_a_failed_save : ¬ EachStep (World.step shop.uuid (text 1)) (fun w a =>
      ∀ err, (w.respond shop.uuid (text 1) a).2 = some (.error err) → (w.step shop.uuid (text 1) a).db = w.db)
    { db } (adds true 1 ++ saves true (.lost "driver: bad connection")) := by
  intro claim
  have last := Runs.eachStep_last (show EachStep _ _ _ ((adds true 1 ++ (saves true .ok).take 2) ++ [_]) from claim)
  have failed : ((run (World.step shop.uuid (text 1)) ({ db } : World Bool)
      (adds true 1 ++ (saves true .ok).take 2)).respond shop.uuid (text 1)
        (.commit true (.lost "driver: bad connection"))).2 =
      some (.error (wrap "commit save" "driver: bad connection")) := by
    decide +kernel
  have lines := congrArg (fun db => db.lines.rows.length) (last _ failed)
  revert lines
  decide +kernel

end Counter

end CartService.OptimisticLocking
