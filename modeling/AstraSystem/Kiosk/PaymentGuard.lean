import AstraSystem.Kiosk.Sessions

/-!
# What the guard of the payment knows of the cart

Only the menu listens to `CART_UPDATED`, though the cart screen sends it too. Where nobody listens the guard goes on
with what it was told before.
-/

namespace Kiosk.Machine

variable {Item Order : Type}

/-- The machine, and whether the last of the events that tell of the cart has said that there are items. -/
structure Watched (Item Order : Type) where
  machine : Snapshot Item Order
  hasItems : Bool
  deriving DecidableEq

/-- What is known of the cart after an event, in whatever state it is sent. -/
def told (hasItems : Bool) : Input Item Order → Bool
  | .send (.cartUpdated cartHasItems) _ => cartHasItems
  | .send .addToCart _ => true
  | _ => hasItems

namespace Watched

def start (cartId : String) : Watched Item Order := ⟨initial cartId, false⟩

/-- At the attract screen there is no cart. -/
def step (w : Watched Item Order) (i : Input Item Order) : Watched Item Order :=
  let machine := Machine.step w.machine i
  ⟨machine, if w.machine.value ≠ .attract ∧ machine.value = .attract then false else told w.hasItems i⟩

/-- Who comes to the payment has items. -/
def PaysForItems (w : Watched Item Order) (i : Input Item Order) : Prop :=
  w.machine.value ≠ .payment → (w.step i).machine.value = .payment → (w.step i).hasItems = true

/-- That a cart has become empty is heard by the menu, or known already. -/
def Heard (w : Watched Item Order) : Input Item Order → Prop
  | .send (.cartUpdated false) _ => w.machine.value = .menu ∨ w.machine.context.cartHasItems = false
  | _ => True

instance decidablePaysForItems (w : Watched Item Order) (i : Input Item Order) : Decidable (w.PaysForItems i) :=
  inferInstanceAs (Decidable (_ → _ → _))

instance decidableHeard (w : Watched Item Order) (i : Input Item Order) : Decidable (w.Heard i) := by
  unfold Heard
  split <;> infer_instance

/-- The guard knows of no items but those that there are. -/
structure Sound (w : Watched Item Order) : Prop where
  machine : Machine.Sound w.machine
  known : w.machine.context.cartHasItems = true → w.hasItems = true

section
variable {w : Watched Item Order} {next : Snapshot Item Order} {event : KioskEvent Item Order} {cartId : String}

theorem sound_start (cartId : String) : (start cartId : Watched Item Order).Sound :=
  ⟨sound_initial cartId, fun none => by cases none⟩

/-- An event tells the guard of items only if there are some. -/
theorem known_moves (known : w.machine.context.cartHasItems = true → w.hasItems = true)
    (heard : w.Heard (.send event cartId)) (moves : Moves cartId w.machine event next)
    (has : next.context.cartHasItems = true) : told w.hasItems (.send event cartId) = true := by
  cases w with | mk s hasItems =>
    cases moves with
    | updated => exact has
    | add => rfl
    | leave => cases has
    | unpaid =>
      cases event with
      | cartUpdated cartHasItems =>
        cases cartHasItems with
        | true => rfl
        | false =>
          obtain menu | none := heard
          · cases menu
          · cases none.symm.trans has
      | addToCart => rfl
      | _ => exact known has
    | start _ _ _ sessionId laneMode starts =>
      obtain rfl | rfl := starts <;> exact known has
    | _ => exact known has

/-- Nobody listens to an event that leaves the machine alone. -/
theorem known_ignored (known : w.machine.context.cartHasItems = true → w.hasItems = true)
    (heard : w.Heard (.send event cartId)) (ignored : send w.machine event cartId = w.machine)
    (has : w.machine.context.cartHasItems = true) : told w.hasItems (.send event cartId) = true := by
  cases event with
  | cartUpdated cartHasItems =>
    cases cartHasItems with
    | true => rfl
    | false =>
      obtain menu | none := heard
      · obtain ⟨⟨value, c, a⟩, hasItems⟩ := w
        obtain rfl : value = .menu := menu
        have flag : c.cartHasItems = false := congrArg (fun s => s.context.cartHasItems) ignored.symm
        cases flag.symm.trans has
      · cases none.symm.trans has
  | addToCart => rfl
  | _ => exact known has

theorem known_settle (known : w.machine.context.cartHasItems = true → w.hasItems = true)
    (reply : Except Thrown Order) (has : (Machine.step w.machine (.settle reply)).context.cartHasItems = true) :
    w.hasItems = true := by
  refine known ?_
  revert has
  simp only [Machine.step]
  split
  · exact id
  · split <;> exact id

/-- Whoever enters the attract screen has left the flag behind. -/
theorem Sound.at_attract (sound : Machine.Sound next) (attract : next.value = .attract) :
    next.context.cartHasItems = false := by
  have needs := sound.needs
  rw [attract] at needs
  exact congrArg KioskContext.cartHasItems (show next.context = next.context.fresh from needs)

theorem sound_step (h : w.Sound) (i : Input Item Order) (heard : w.Heard i) : (w.step i).Sound := by
  have machine := Machine.sound_step h.machine i
  refine ⟨machine, fun has => ?_⟩
  show (if w.machine.value ≠ .attract ∧ (Machine.step w.machine i).value = .attract then false
    else told w.hasItems i) = true
  split
  · rename_i entered
    cases (Sound.at_attract machine entered.2).symm.trans has
  · cases i with
    | settle reply => exact known_settle h.known reply has
    | send event cartId =>
      obtain ignored | moves := send_cases w.machine event cartId
      · refine known_ignored h.known heard ignored ?_
        rw [← ignored]
        exact has
      · exact known_moves h.known heard moves has

/-- The payment is entered from the cart, by the guard. -/
theorem paysForItems (h : w.Sound) (i : Input Item Order) : w.PaysForItems i := by
  intro elsewhere paying
  obtain ⟨⟨value, c, a⟩, hasItems⟩ := w
  cases i with
  | settle reply =>
    cases actor : a with
    | none =>
      rw [actor] at elsewhere paying
      exact absurd paying elsewhere
    | some input =>
      rw [actor] at paying
      simp only [step, Machine.step] at paying
      split at paying <;> cases paying
  | send event cartId =>
    obtain ignored | moves := send_cases ⟨value, c, a⟩ event cartId
    · have same : (Machine.step ⟨value, c, a⟩ (.send event cartId)).value = value :=
        congrArg Snapshot.value ignored
      exact absurd (same.symm.trans paying) elsewhere
    · have paying : (send ⟨value, c, a⟩ event cartId).value = .payment := paying
      generalize reached : send ⟨value, c, a⟩ event cartId = next at moves paying
      cases moves with
      | proceed c a items =>
        have entered : (Machine.step ⟨.cart, c, a⟩ (.send .proceedToPayment cartId)).value = .payment :=
          congrArg Snapshot.value reached
        show (if State.cart ≠ .attract ∧ (Machine.step ⟨.cart, c, a⟩ (.send .proceedToPayment cartId)).value = .attract
          then false else hasItems) = true
        rw [entered]
        exact h.known items
      | offline | online => exact absurd paying elsewhere
      | _ => cases paying

end

/-- **Nobody pays for an empty cart in runs in which the menu hears of every cart that becomes
empty.** There whoever enters the payment was last told of has items. -/
theorem pays_for_items (cartId : String) (inputs : List (Input Item Order))
    (heard : Runs.EachStep step Heard (start cartId) inputs) :
    Runs.EachStep step PaysForItems (start cartId) inputs :=
  Runs.eachStep_of_eachStep (J := Sound) (fun _ i h _ => paysForItems h i) (fun _ i h heard => sound_step h i heard)
    (sound_start cartId) heard

end Watched

namespace Supper

/-- An item is added, and the customer pays. -/
def served : List (Input String String) :=
  [sent (.setLanguage .en), sent (.tapStart "session-1" none), sent (.selectItem "soup"), sent .addToCart,
    sent .goToCart, sent .proceedToPayment]

theorem pays_for_soup : Runs.EachStep Watched.step Watched.PaysForItems (.start "cart-1") served :=
  Watched.pays_for_items "cart-1" served (by decide)

/-- The last item is taken out on the cart screen. -/
def emptied : List (Input String String) :=
  [sent (.setLanguage .en), sent (.tapStart "session-1" none), sent (.selectItem "soup"), sent .addToCart,
    sent .goToCart, sent (.cartUpdated false), sent .proceedToPayment]

theorem pays_for_nothing : (Runs.run Watched.step (.start "cart-1") emptied).machine.value = .payment ∧
    (Runs.run Watched.step (.start "cart-1") emptied).hasItems = false ∧
    ¬ Runs.EachStep Watched.step Watched.PaysForItems (.start "cart-1") emptied := by
  decide

end Supper

end Kiosk.Machine
