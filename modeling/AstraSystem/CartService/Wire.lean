import AstraSystem.CartService.Cart

/-!
# A cart as a message (`cart/proto.go`)

The status crosses the wire as a number of the enum. The constants of the domain
are not among its names, so every cart arrives with the unspecified status. The
lane of a cart and the cart of a line are no fields of the messages.
-/

namespace CartService.Wire

/-! ## The messages (`cart.proto`) -/

/-- The names of the enum; each stands for its index. -/
def cartStatusNames : List String :=
  ["CART_STATUS_UNSPECIFIED", "CART_STATUS_ACTIVE", "CART_STATUS_FINALIZED", "CART_STATUS_ABANDONED",
    "CART_STATUS_EXPIRED"]

/-- `CartStatus_value[name]`; a missing key gives zero. -/
def cartStatusValue (name : String) : ℕ := (cartStatusNames.idxOf? name).getD 0

/-- `String()`; a number without a name gives its digits. -/
def cartStatusString (value : ℕ) : String := cartStatusNames.getD value value.repr

structure ModifierMessage where
  modifierOptionId : String
  nameSnapshot : String
  priceDeltaCentsSnapshot : Int64
  modifierGroupId : String
  deriving DecidableEq, Repr

structure LineMessage where
  lineId : String
  menuItemId : String
  nameSnapshot : String
  unitPriceCentsSnapshot : Int64
  quantity : Int32
  modifiers : List ModifierMessage
  lineTotalCents : Int64
  addedAtMs : Int64
  deriving DecidableEq, Repr

structure CartMessage where
  cartId : String
  storeId : String
  kioskId : String
  sessionId : String
  customerPhone : String
  status : ℕ
  finalized : Bool
  version : Int32
  totalCents : Int64
  taxCents : Int64
  discountCents : Int64
  finalTotalCents : Int64
  lines : List (Option LineMessage)
  reservedInventory : Bool
  expiresAt : String
  createdAt : String
  updatedAt : String
  deriving DecidableEq, Repr

/-! ## The domain, where a status is any string -/

structure DomainCart where
  cartID : String
  storeID : String
  kioskID : String
  laneID : String := ""
  sessionID : String
  customerPhone : String
  status : String
  finalized : Bool
  version : Int64
  totalCents : Int64
  taxCents : Int64
  discountCents : Int64
  finalTotalCents : Int64
  lines : List Line
  reservedInventory : Bool
  -- the zero time, on the first day of the year 1
  expiresAt : Time := -62135596800000000000
  createdAt : Time := -62135596800000000000
  updatedAt : Time := -62135596800000000000
  createdAtMs : Int64 := 0
  updatedAtMs : Int64 := 0
  deriving DecidableEq, Repr

/-- The constants of `CartStatus`. -/
def statusString : CartStatus → String
  | .active => "active"
  | .finalized => "finalized"
  | .abandoned => "abandoned"
  | .expired => "expired"

/-- A cart whose status is one of the constants. -/
def domainCart (c : Cart) : DomainCart :=
  { c with status := statusString c.status }

variable (format : Time → String)

def modifierToProto (m : Modifier) : ModifierMessage where
  modifierOptionId := m.modifierOptionID
  nameSnapshot := m.nameSnapshot
  priceDeltaCentsSnapshot := m.priceDeltaCentsSnapshot
  modifierGroupId := m.modifierGroupID

def lineToProto (l : Line) : LineMessage where
  lineId := l.lineID
  menuItemId := l.menuItemID
  nameSnapshot := l.nameSnapshot
  unitPriceCentsSnapshot := l.unitPriceCentsSnapshot
  quantity := l.quantity.toInt32
  modifiers := l.modifiers.map modifierToProto
  lineTotalCents := l.lineTotal
  addedAtMs := l.addedAtMs

/-- `format` is `time.Time.Format` with the layout of RFC 3339. -/
def toProto (c : Option DomainCart) : Option CartMessage := c.map fun c =>
  { cartId := c.cartID
    storeId := c.storeID
    kioskId := c.kioskID
    sessionId := c.sessionID
    customerPhone := c.customerPhone
    status := cartStatusValue c.status
    finalized := c.finalized
    version := c.version.toInt32
    totalCents := c.totalCents
    taxCents := c.taxCents
    discountCents := c.discountCents
    finalTotalCents := c.finalTotalCents
    lines := c.lines.map fun l => some (lineToProto l)
    reservedInventory := c.reservedInventory
    expiresAt := format c.expiresAt
    createdAt := format c.createdAt
    updatedAt := format c.updatedAt }

def modifierFromProto (m : ModifierMessage) : Modifier where
  modifierOptionID := m.modifierOptionId
  nameSnapshot := m.nameSnapshot
  priceDeltaCentsSnapshot := m.priceDeltaCentsSnapshot
  modifierGroupID := m.modifierGroupId

def lineFromProto : Option LineMessage → Line
  | none => ⟨"", "", "", "", 0, 0, [], 0⟩
  | some pb =>
    { cartID := ""
      lineID := pb.lineId
      menuItemID := pb.menuItemId
      nameSnapshot := pb.nameSnapshot
      unitPriceCentsSnapshot := pb.unitPriceCentsSnapshot
      quantity := pb.quantity.toInt64
      modifiers := pb.modifiers.map modifierFromProto
      addedAtMs := pb.addedAtMs }

def fromProto (pb : Option CartMessage) : Option DomainCart := pb.map fun pb =>
  { cartID := pb.cartId
    storeID := pb.storeId
    kioskID := pb.kioskId
    sessionID := pb.sessionId
    customerPhone := pb.customerPhone
    status := cartStatusString pb.status
    finalized := pb.finalized
    version := pb.version.toInt64
    totalCents := pb.totalCents
    taxCents := pb.taxCents
    discountCents := pb.discountCents
    finalTotalCents := pb.finalTotalCents
    lines := pb.lines.map lineFromProto
    reservedInventory := pb.reservedInventory }

/-! ## What arrives -/

/-- The columns are `INT`. -/
def Fits (n : Int64) : Prop := -2 ^ 31 ≤ n.toInt ∧ n.toInt < 2 ^ 31

/-- Everything the claims of a cart rest on but its status. -/
structure SameContents (c d : DomainCart) : Prop where
  cartID : c.cartID = d.cartID
  storeID : c.storeID = d.storeID
  kioskID : c.kioskID = d.kioskID
  laneID : c.laneID = d.laneID
  sessionID : c.sessionID = d.sessionID
  customerPhone : c.customerPhone = d.customerPhone
  finalized : c.finalized = d.finalized
  version : c.version = d.version
  totalCents : c.totalCents = d.totalCents
  taxCents : c.taxCents = d.taxCents
  discountCents : c.discountCents = d.discountCents
  finalTotalCents : c.finalTotalCents = d.finalTotalCents
  lines : c.lines = d.lines
  reservedInventory : c.reservedInventory = d.reservedInventory

/-- The cart arrives as it was sent. -/
def Survives (c : DomainCart) : Prop :=
  ∃ arrived, fromProto (toProto format (some c)) = some arrived ∧
    SameContents arrived c ∧ arrived.status = c.status

theorem toInt64_toInt32 {n : Int64} (fits : Fits n) : n.toInt32.toInt64 = n := by
  obtain ⟨low, high⟩ := fits
  rw [← Int64.toInt_inj, Int32.toInt_toInt64, Int64.toInt_toInt32]
  exact Int.bmod_eq_of_le (by omega) (by omega)

/-- A line arrives as it was sent, but for the cart it is in. -/
theorem lineFromProto_toProto {l : Line} (fits : Fits l.quantity) :
    lineFromProto (some (lineToProto l)) = { l with cartID := "" } := by
  have modifiers : (l.modifiers.map modifierToProto).map modifierFromProto = l.modifiers := by
    rw [List.map_map]
    exact List.map_id _
  simp only [lineFromProto, lineToProto, toInt64_toInt32 fits, modifiers]

/-- A status arrives as it was sent exactly when it is a name of the enum. -/
theorem cartStatusString_value (name : String) :
    cartStatusString (cartStatusValue name) = name ↔ name ∈ cartStatusNames := by
  constructor
  · intro same
    by_contra missing
    have unspecified : cartStatusValue name = 0 := by
      rw [cartStatusValue, List.idxOf?_eq_none_iff.mpr missing]
      rfl
    rw [unspecified] at same
    exact missing (same ▸ List.mem_cons_self)
  · intro known
    simp only [cartStatusNames, List.mem_cons, List.not_mem_nil, or_false] at known
    rcases known with rfl | rfl | rfl | rfl | rfl <;> decide

/-- No constant of the domain is a name of the enum. -/
theorem cartStatusValue_constant (status : CartStatus) : cartStatusValue (statusString status) = 0 := by
  cases status <;> decide

theorem statusString_lost (status : CartStatus) :
    cartStatusString (cartStatusValue (statusString status)) ≠ statusString status := by
  rw [cartStatusValue_constant]
  cases status <;> decide

/-- The lines arrive as they were sent exactly when they named no cart. -/
theorem lines_survive {lines : List Line} (fits : ∀ l ∈ lines, Fits l.quantity) :
    (lines.map fun l => some (lineToProto l)).map lineFromProto = lines ↔ ∀ l ∈ lines, l.cartID = "" := by
  have arrived : (lines.map fun l => some (lineToProto l)).map lineFromProto =
      lines.map fun l => { l with cartID := "" } := by
    rw [List.map_map]
    exact List.map_congr_left fun l mem => lineFromProto_toProto (fits l mem)
  conv_lhs => rw [arrived, ← List.map_id lines, List.map_map]
  rw [List.map_inj_left]
  refine forall₂_congr fun l _ => ?_
  constructor
  · intro same
    exact (congrArg Line.cartID same).symm
  · intro empty
    show ({ l with cartID := "" } : Line) = l
    rw [← empty]

/-- What arrives of a cart but its status: all of it exactly when it was in no
lane and its lines named no cart. -/
theorem contents_survive {c arrived : DomainCart} (version : Fits c.version)
    (quantities : ∀ l ∈ c.lines, Fits l.quantity)
    (sent : fromProto (toProto format (some c)) = some arrived) :
    SameContents arrived c ↔ c.laneID = "" ∧ ∀ l ∈ c.lines, l.cartID = "" := by
  cases sent
  constructor
  · intro same
    exact ⟨same.laneID.symm, (lines_survive quantities).mp same.lines⟩
  · rintro ⟨lane, lines⟩
    exact
      { cartID := rfl, storeID := rfl, kioskID := rfl, laneID := lane.symm, sessionID := rfl
        customerPhone := rfl, finalized := rfl, version := toInt64_toInt32 version
        totalCents := rfl, taxCents := rfl, discountCents := rfl, finalTotalCents := rfl
        lines := (lines_survive quantities).mpr lines, reservedInventory := rfl }

/-- A cart never arrives as it was sent: it loses its status, and besides its
lane and what its lines say of their cart. -/
theorem never_survives (c : Cart) (version : Fits c.version)
    (quantities : ∀ l ∈ c.lines, Fits l.quantity) :
    ¬ Survives format (domainCart c) ∧
      ∃ arrived, fromProto (toProto format (some (domainCart c))) = some arrived ∧
        arrived.status = "CART_STATUS_UNSPECIFIED" ∧
        (SameContents arrived (domainCart c) ↔ c.laneID = "" ∧ ∀ l ∈ c.lines, l.cartID = "") := by
  constructor
  · rintro ⟨arrived, sent, -, status⟩
    cases sent
    exact statusString_lost c.status status
  · refine ⟨_, rfl, ?_, contents_survive format version quantities rfl⟩
    show cartStatusString (cartStatusValue (statusString c.status)) = _
    rw [cartStatusValue_constant]
    rfl

/-- One burger in lane 2, as the service stores it. -/
def lunch : Cart :=
  { newCart "cart" "store" "kiosk" "lane-2" "session" "" 0 with
    lines := [⟨"cart", "line", "burger", "Burger", 1000, 2, [], 0⟩], version := 1 }

theorem never_survives_lunch :
    (Fits lunch.version ∧ ∀ l ∈ lunch.lines, Fits l.quantity) ∧
      ¬ Survives (fun _ => "1970-01-01T00:00:00Z") (domainCart lunch) := by
  have version : Fits lunch.version := by
    unfold Fits
    decide
  have quantities : ∀ l ∈ lunch.lines, Fits l.quantity := by
    unfold Fits
    decide
  exact ⟨⟨version, quantities⟩, (never_survives _ lunch version quantities).1⟩

/-- An active cart arrives with the unspecified status, in no lane. -/
theorem lunch_lost :
    ((fromProto (toProto (fun _ => "1970-01-01T00:00:00Z") (some (domainCart lunch)))).map
        fun arrived => (arrived.status, arrived.laneID, arrived.lines.map Line.cartID)) =
      some ("CART_STATUS_UNSPECIFIED", "", [""]) ∧
    (domainCart lunch).status = "active" ∧ (domainCart lunch).laneID = "lane-2" ∧
    ¬ Survives (fun _ => "1970-01-01T00:00:00Z") (domainCart lunch) := by
  refine ⟨by decide, rfl, rfl, ?_⟩
  rintro ⟨arrived, sent, -, status⟩
  cases sent
  exact statusString_lost .active status

end CartService.Wire
