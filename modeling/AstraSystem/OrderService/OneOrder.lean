import AstraSystem.OrderService.Service

/-!
# Orders for carts

An order number has seventeen characters and its column sixteen: the database takes no order, and
every call that has a cart to process fails.
-/

namespace OrderService

variable (uuid : UUIDText) {Tid : Type*} [DecidableEq Tid]

omit [DecidableEq Tid] in
def HasOneOrder (w : World Tid) (cartID : String) : Prop :=
  ∃ o, (w.db.orders.rows.filter fun o => uuid.parse cartID = .ok o.cartID) = [o]

omit [DecidableEq Tid] in
/-- A call has returned a stored order, or AlreadyExists. -/
def Returned (w : World Tid) (reply : Reply) : Prop :=
  (∃ o ∈ w.db.orders.rows, reply = .ok (o.scan uuid)) ∨
    ∃ message, reply = .error (.status .alreadyExists message)

variable {uuid}

/-! ## No order is stored -/

theorem length_generateOrderNumber (now : RFC3339.Time) : (generateOrderNumber now).length = 17 := by
  rw [generateOrderNumber, String.length_ofList]
  simp

theorem orderNumber_of_order {c : Call} {env : Env} {cart : Cart} {order : Order String}
    (h : c.order uuid env cart = .ok order) : order.orderNumber = generateOrderNumber env.now := by
  obtain ⟨built, hb, h⟩ := Statement.bind_eq_ok.mp h
  have number : built.orderNumber = generateOrderNumber env.now := by
    unfold buildOrderFromCart at hb
    extract_lets storeID kioskID at hb
    split at hb
    · cases hb
    · cases hb
      rfl
  cases c <;> cases h <;> exact number

theorem insertOrder_refused (uuid : UUIDText) (db : DB) {order : Order String}
    (wide : 16 < order.orderNumber.length) :
    ∃ err, db.insertOrder uuid order = .error err := by
  cases row : order.row uuid with
  | error err => exact ⟨err, by rw [DB.insertOrder, row]; rfl⟩
  | ok r =>
    have number : r.orderNumber = order.orderNumber := by
      obtain ⟨_, -, h⟩ := Statement.bind_eq_ok.mp row
      obtain ⟨_, -, h⟩ := Statement.bind_eq_ok.mp h
      obtain ⟨_, -, h⟩ := Statement.bind_eq_ok.mp h
      obtain ⟨_, -, h⟩ := Statement.bind_eq_ok.mp h
      cases h
      rfl
    refine ⟨"value too long for type character varying(16)", ?_⟩
    rw [DB.insertOrder, row]
    exact if_pos (number ▸ wide)

theorem createOrder_refused {c : Call} {env : Env} {cart : Cart} {order : Order String}
    (h : c.order uuid env cart = .ok order) (db : DB) (idempotencyKey : String) (event : OutboxEvent) :
    ∃ message, createOrder uuid db order idempotencyKey event = (db, .error (.other message)) := by
  have wide : 16 < order.orderNumber.length := by
    rw [orderNumber_of_order h, length_generateOrderNumber]
    decide
  obtain ⟨err, refused⟩ := insertOrder_refused uuid db wide
  exact ⟨_, by rw [createOrder, refused]⟩

/-! ## Runs -/

/-- Nothing is stored, no call expects that anything is, and all that have processed a cart failed. -/
structure Barren (w : World Tid) : Prop where
  orders : w.db.orders.rows = []
  keys : w.db.keys = []
  calls : ∀ t, (∃ c, w.calls t = .asking c) ∨ (∃ c cart, w.calls t = .fetched c cart) ∨ w.calls t = .idle
  answers : ∀ x ∈ w.answers, ∃ f, x.2 = .error f ∧ ∀ message, f ≠ .status .alreadyExists message

variable {w : World Tid}

omit [DecidableEq Tid] in
theorem find_ne_some (h : Barren w) (c : Call) (order : Order String) :
    c.find uuid w.db ≠ .ok (some order) := by
  cases c with
  | createOrder req key =>
    have missing : getOrderByIdempotencyKey uuid w.db req.cartID key = .error .orderNotFound := by
      rw [getOrderByIdempotencyKey, h.keys]
      rfl
    simp only [Call.find, missing]
    split <;> exact nofun
  | cartFinalized evt =>
    simp only [Call.find, getOrderByCartID, h.orders, List.find?_nil]
    split
    · rename_i found
      split at found <;> cases found
    · exact nofun
    · exact nofun

theorem barren_goto (h : Barren w) (t : Tid) {phase : Phase}
    (past : (∃ c, phase = .asking c) ∨ (∃ c cart, phase = .fetched c cart) ∨ phase = .idle) :
    Barren (w.goto t phase) where
  orders := h.orders
  keys := h.keys
  calls t' := by
    by_cases own : t' = t
    · simpa only [World.goto, own, ↓reduceIte] using past
    · simpa only [World.goto, own, ↓reduceIte] using h.calls t'
  answers := h.answers

theorem barren_answer (h : Barren w) (t : Tid) (c : Call) {f : Failure}
    (failed : ∀ message, f ≠ .status .alreadyExists message) :
    Barren (w.answer t c (.error f)).1 := by
  have noted : Barren { w with answers := w.answers ++ [(c.cartID, .error f)] } := by
    refine ⟨h.orders, h.keys, h.calls, ?_⟩
    intro x hx
    rcases List.mem_append.mp hx with hx | hx
    · exact h.answers x hx
    · rw [List.mem_singleton.mp hx]
      exact ⟨f, rfl, failed⟩
  exact barren_goto noted t (.inr (.inr rfl))

theorem failure_ne {c : Call} {code : Code} {message : String} (h : code ≠ .alreadyExists) :
    ∀ message', c.failure code message ≠ .status .alreadyExists message' := by
  intro message' same
  cases c <;> cases same
  exact h rfl

theorem barren_step (h : Barren w) (a : Act Tid) : Barren (step uuid w a) := by
  cases a with
  | start t c =>
    simp only [step, respond]
    split
    · unfold start
      split
      · exact h
      · split
        · exact h
        · rename_i order found
          exact absurd found (find_ne_some h c order)
        · exact barren_goto h t (.inl ⟨c, rfl⟩)
    · exact h
  | getCart t cart =>
    simp only [step, respond]
    split
    · exact barren_goto h t (.inr (.inl ⟨_, _, rfl⟩))
    · exact barren_goto h t (.inr (.inr rfl))
    · exact h
  | create t env =>
    simp only [step, respond]
    split
    · rename_i c cart fetched
      unfold create
      split
      · exact barren_goto h t (.inr (.inr rfl))
      · rename_i order built
        obtain ⟨message, refused⟩ := createOrder_refused built w.db c.idempotencyKey (orderCreated env order)
        rw [refused]
        exact barren_answer h t c (failure_ne (by decide))
    · exact h
  | reload t =>
    simp only [step, respond]
    rcases h.calls t with ⟨c, phase⟩ | ⟨c, cart, phase⟩ | phase <;> rw [phase] <;> exact h

/-- No cart that was processed has an order, and no call that processed it has returned one. -/
theorem never_ordered (uuid : UUIDText) (acts : List (Act Tid)) :
    ∀ x ∈ (Runs.run (step uuid) {} acts).answers,
      ¬ HasOneOrder uuid (Runs.run (step uuid) {} acts) x.1 ∧
        ¬ Returned uuid (Runs.run (step uuid) {} acts) x.2 := by
  have start : Barren ({} : World Tid) :=
    ⟨rfl, rfl, fun _ => .inr (.inr rfl), fun _ none => absurd none List.not_mem_nil⟩
  have kept (w : World Tid) (a : Act Tid) (h : Barren w) : Barren (step uuid w a) := barren_step h a
  have barren := Runs.run_inv kept start acts
  intro x hx
  obtain ⟨f, failed, other⟩ := barren.answers x hx
  constructor
  · rintro ⟨o, one⟩
    rw [barren.orders] at one
    cases one
  · rintro (⟨o, stored, -⟩ | ⟨message, same⟩)
    · rw [barren.orders] at stored
      cases stored
    · rw [failed] at same
      exact other message (Except.error.inj same)

/-! ## One finalized cart -/

namespace Counter

def cart : Cart where
  cartID := "00000000-0000-0000-0000-000000000001"
  storeID := "00000000-0000-0000-0000-000000000002"
  kioskID := "00000000-0000-0000-0000-000000000003"
  totalCents := 1000
  taxCents := 80
  discountCents := 0
  finalTotalCents := 1080
  lines := []

def finalized : Call := .cartFinalized {
  cartID := cart.cartID
  orderID := "00000000-0000-0000-0000-000000000004"
  currency := "USD"
  finalTotalCents := 1080 }

def env : Env where
  now := {
    year := 2026, month := 7, day := 20, hour := 12, minute := 34, second := 56, nanosecond := 0
    zone := 0
    year_lt := by decide
    month_range := by decide
    day_range := by decide
    hour_lt := by decide
    minute_lt := by decide
    second_lt := by decide
    nanosecond_lt := RFC3339.whole_lt
    zone_le := RFC3339.utc_le }
  orderID := 4
  itemID i := Fin.ofNat _ (100 + i)
  eventID := 5

def delivered : List (Act Unit) := [.start () finalized, .getCart () (some cart), .create () env]

/-- What the handler returns, so that the event is delivered again. -/
def refused : Reply := .error (.error ("create order: repository: insert order: " ++
  "value too long for type character varying(16)"))

theorem never_ordered_delivered :
    ¬ HasOneOrder .hyphenated (Runs.run (step .hyphenated) {} delivered) cart.cartID ∧
      ¬ Returned .hyphenated (Runs.run (step .hyphenated) {} delivered) refused :=
  never_ordered .hyphenated delivered (cart.cartID, refused) (by decide +kernel)

theorem delivered_in_vain : ¬ ∀ (uuid : UUIDText) (acts : List (Act Unit)), uuid.Lawful →
    ∀ x ∈ (Runs.run (step uuid) {} acts).answers,
      HasOneOrder uuid (Runs.run (step uuid) {} acts) x.1 ∧
        Returned uuid (Runs.run (step uuid) {} acts) x.2 := by
  intro claim
  have served := claim .hyphenated delivered UUIDText.lawful_hyphenated (cart.cartID, refused)
    (by decide +kernel)
  obtain ⟨o, stored, same⟩ | ⟨message, same⟩ := served.2
  · cases same
  · cases same

end Counter

end OrderService
