import AstraSystem.CartService.FinalizedCarts
import AstraSystem.CartService.Reservations
import AstraSystem.CartService.SessionCache

/-!
# Storing a merge

A group that the ghost brings keeps the id of the ghost's line, and the ghost's
rows are still there when the target's lines are written.
-/

namespace CartService

/-- The rest of the schema: the types of the columns, and the items that lines refer to. -/
structure DB.Schema (others : Others) (db : DB) : Prop extends db.Valid where
  names : ∀ l ∈ db.lines.rows, varchar 255 l.nameSnapshot = .ok l.nameSnapshot
  modifiers : ∀ l ∈ db.lines.rows, jsonb l.modifiers = .ok l.modifiers
  items : ∀ l ∈ db.lines.rows, l.menuItemID ∈ others.items
  phones : ∀ r ∈ db.carts.rows, ∀ phone ∈ r.customerPhone, varchar 16 phone = .ok phone

/-- An amount that an `INTEGER` column holds. -/
def FitsInt4 (x : Int64) : Prop := -2 ^ 31 ≤ x.toInt ∧ x.toInt < 2 ^ 31

instance decidableFitsInt4 : DecidablePred FitsInt4 := fun _ => inferInstanceAs (Decidable (_ ∧ _))

theorem int4_isOk {x : Int64} : (∃ y, int4 x = .ok y) ↔ FitsInt4 x := by
  constructor
  · rintro ⟨y, h⟩
    rw [FitsInt4, ← int4_eq_ok h]
    exact ⟨y.le_toInt, y.toInt_lt⟩
  · intro h
    exact int4_accepts h.1 h.2

section
variable (sha256 : List UInt8 → List UInt8)

/-- The price of the lines that the groups become. -/
def mergedTotal (newer : Bool) (target ghost : List Line) : Int64 :=
  (((fingerprints sha256 (target ++ ghost)).filterMap (lineOf sha256 newer target ghost)).map
    Line.lineTotal).sum

/-- What the tables ask of a merge: no group of its own for the ghost, quantities, amounts and the
version in range, and a ghost that nothing refers to. -/
structure Storable (others : Others) (newer : Bool) (t g : Cart) (ghost : UUID) : Prop where
  covered : ∀ l ∈ g.lines, ∃ own ∈ t.lines, lineFingerprint sha256 own = lineFingerprint sha256 l
  quantities : ∀ fp ∈ fingerprints sha256 (t.lines ++ g.lines),
    0 < groupItems sha256 t.lines g.lines fp ∧ groupItems sha256 t.lines g.lines fp < 2 ^ 31
  total : FitsInt4 (mergedTotal sha256 newer t.lines g.lines)
  finalTotal : FitsInt4 (mergedTotal sha256 newer t.lines g.lines + t.taxCents - t.discountCents)
  version : t.version.toInt + 1 < 2 ^ 31
  free : ghost ∉ others.referenced

end

section
variable {uuid : UUIDText} {db : DB} {others : Others} {sha256 : List UInt8 → List UInt8}
  {newer : Bool} {t g : Cart}

/-- The row of a merged line: the id of one stored line, with the snapshot of another. -/
def LineRow.mergedRow (base snapshot : LineRow) (cart : UUID) (quantity : Int32) (addedAtMs : Int64) :
    LineRow :=
  { snapshot with
    lineID := base.lineID
    cartID := cart
    menuItemID := base.menuItemID
    quantity := quantity
    addedAtMs := addedAtMs }

theorem row_mergedLine (laws : uuid.Lawful) (printed : ∀ u, uuid.string u ≠ "")
    (base : LineRow) {snapshot : LineRow} {quantity : Int64} {q : Int32} (addedAtMs : Int64)
    (cart newID : UUID) (name : varchar 255 snapshot.nameSnapshot = .ok snapshot.nameSnapshot)
    (modifiers : jsonb snapshot.modifiers = .ok snapshot.modifiers) (hq : int4 quantity = .ok q) :
    Line.row uuid { (base.line uuid).takeSnapshot (snapshot.line uuid) with quantity, addedAtMs } cart
      newID = .ok (base.mergedRow snapshot cart q addedAtMs) := by
  simp only [Line.row, Line.newLineID, Line.takeSnapshot, LineRow.line, printed, laws.parse_string,
    name, modifiers, hq, int4_toInt64, ↓reduceIte]
  rfl

/-- What is written of a merged line is read back as the line. -/
theorem line_mergedRow {base snapshot : LineRow} {quantity : Int64} {q : Int32} {addedAtMs : Int64}
    (hq : int4 quantity = .ok q) :
    (base.mergedRow snapshot base.cartID q addedAtMs).line uuid =
      { (base.line uuid).takeSnapshot (snapshot.line uuid) with quantity, addedAtMs } := by
  simp only [LineRow.line, LineRow.mergedRow, Line.takeSnapshot, toInt64_of_int4 hq]

theorem snapshotLine_mem {target source : List Line} {fp : String} {s : Line}
    (h : snapshotLine newer (lastAt sha256 target fp) (linesAt sha256 source fp) = some s) :
    s ∈ target ++ source := by
  cases newer with
  | false => exact (baseLine_mem h).1
  | true =>
    rcases Option.or_eq_some_iff.mp h with last | ⟨-, last⟩
    · exact List.mem_append_right _ (mem_linesAt.mp (List.mem_of_getLast? last)).1
    · exact List.mem_append_left _ (mem_linesAt.mp (List.mem_of_getLast? last)).1

/-- Where the target has every fingerprint, its lines are what the groups start from. -/
theorem baseLine_covered (covered : ∀ l ∈ g.lines, ∃ own ∈ t.lines,
      lineFingerprint sha256 own = lineFingerprint sha256 l) {fp : String} {b : Line}
    (h : baseLine (lastAt sha256 t.lines fp) (linesAt sha256 g.lines fp) = some b) : b ∈ t.lines := by
  rcases Option.or_eq_some_iff.mp h with last | ⟨none, head⟩
  · exact (mem_linesAt.mp (List.mem_of_getLast? last)).1
  · obtain ⟨hb, own⟩ := mem_linesAt.mp (List.mem_of_head? head)
    obtain ⟨l, hl, same⟩ := covered b hb
    have at_fp : l ∈ linesAt sha256 t.lines fp := mem_linesAt.mpr ⟨hl, same.trans own⟩
    rw [lastAt, List.getLast?_eq_none_iff] at none
    rw [none] at at_fp
    cases at_fp

theorem Stored.mem_lines {row : CartRow} (h : Stored uuid db row t) {l : Line} (hl : l ∈ t.lines) :
    ∃ r ∈ db.lines.rows, r.cartID = row.cartID ∧ l = r.line uuid := by
  obtain ⟨rows, perm, rfl⟩ := h.loaded
  obtain ⟨r, hr, rfl⟩ := List.mem_map.mp hl
  obtain ⟨mem, own⟩ := DB.mem_linesOf.mp (perm.mem_iff.mp hr)
  exact ⟨r, mem, own, rfl⟩

theorem Stored.unique {row : CartRow} (laws : uuid.Lawful) (h : Stored uuid db row t) {l l' : Line}
    (hl : l ∈ t.lines) (hl' : l' ∈ t.lines) (same : l.lineID = l'.lineID) : l = l' := by
  obtain ⟨r, hr, -, rfl⟩ := h.mem_lines hl
  obtain ⟨r', hr', -, rfl⟩ := h.mem_lines hl'
  rw [db.lines.unique hr hr' (laws.string_injective same)]

theorem fits_toInt64 (x : Int32) : FitsInt4 x.toInt64 := int4_isOk.mp ⟨x, int4_toInt64 x⟩

theorem toInt_next {x : Int32} (room : x.toInt + 1 < 2 ^ 31) : (x.toInt64 + 1).toInt = x.toInt + 1 := by
  have least := x.le_toInt
  rw [Int64.toInt_add, Int32.toInt_toInt64, Int64.toInt_one]
  exact Int.bmod_eq_of_le (by omega) (by omega)

theorem ids_of_row {c : Cart} {new : CartRow} (h : c.row uuid = .ok new) :
    uuid.parse c.storeID = .ok new.storeID ∧ uuid.parse c.kioskID = .ok new.kioskID := by
  obtain ⟨_, -, h⟩ := Statement.bind_eq_ok.mp h
  obtain ⟨_, store, h⟩ := Statement.bind_eq_ok.mp h
  obtain ⟨_, kiosk, h⟩ := Statement.bind_eq_ok.mp h
  obtain ⟨_, -, h⟩ := Statement.bind_eq_ok.mp h
  obtain ⟨_, -, h⟩ := Statement.bind_eq_ok.mp h
  obtain ⟨_, -, h⟩ := Statement.bind_eq_ok.mp h
  obtain ⟨_, -, h⟩ := Statement.bind_eq_ok.mp h
  obtain ⟨_, -, h⟩ := Statement.bind_eq_ok.mp h
  obtain ⟨_, -, h⟩ := Statement.bind_eq_ok.mp h
  obtain ⟨_, -, h⟩ := Statement.bind_eq_ok.mp h
  cases h
  exact ⟨store, kiosk⟩

theorem phoneColumn_stored {row : CartRow} (h : ∀ phone ∈ row.customerPhone,
    varchar 16 phone = .ok phone) : ∃ phone, phoneColumn (row.customerPhone.getD "") = .ok phone := by
  cases hp : row.customerPhone with
  | none => exact ⟨none, rfl⟩
  | some phone =>
    by_cases empty : phone = ""
    · exact ⟨none, by simp [phoneColumn, sqlNullString, empty]⟩
    · refine ⟨some phone, ?_⟩
      simp only [phoneColumn, sqlNullString, Option.getD_some, empty, ↓reduceIte, h phone hp]
      rfl

/-- A stored cart with other amounts and lines has its parameters, if they fit. -/
theorem row_accepts (laws : uuid.Lawful) (row : CartRow) (lines : List Line) {c : Cart}
    (ids : c.cartID = (row.cart uuid lines).cartID ∧ c.storeID = (row.cart uuid lines).storeID ∧
      c.kioskID = (row.cart uuid lines).kioskID ∧ c.sessionID = (row.cart uuid lines).sessionID ∧
      c.customerPhone = (row.cart uuid lines).customerPhone)
    (phone : ∀ phone ∈ row.customerPhone, varchar 16 phone = .ok phone)
    (version : FitsInt4 c.version) (total : FitsInt4 c.totalCents) (tax : FitsInt4 c.taxCents)
    (discount : FitsInt4 c.discountCents) (final : FitsInt4 c.finalTotalCents) :
    ∃ new, c.row uuid = .ok new := by
  obtain ⟨cartID, storeID, kioskID, sessionID, customerPhone⟩ := ids
  have column {x : Int64} (h : FitsInt4 x) := int4_isOk.mpr h
  have printed {s : String} {u : UUID} (h : s = uuid.string u) : uuid.parse s = .ok u :=
    h ▸ laws.parse_string u
  obtain ⟨p, hphone⟩ := phoneColumn_stored phone
  have hphone : phoneColumn c.customerPhone = .ok p := by rw [customerPhone]; exact hphone
  refine Statement.exists_bind (printed cartID) ?_
  refine Statement.exists_bind (printed storeID) ?_
  refine Statement.exists_bind (printed kioskID) ?_
  refine Statement.exists_bind (printed sessionID) ?_
  refine Statement.exists_bind hphone ?_
  refine Statement.exists_bind (column version).choose_spec ?_
  refine Statement.exists_bind (column total).choose_spec ?_
  refine Statement.exists_bind (column tax).choose_spec ?_
  refine Statement.exists_bind (column discount).choose_spec ?_
  exact Statement.exists_bind (column final).choose_spec ⟨_, rfl⟩

theorem forall₂_map_eq {A B C : Type*} {f : A → C} {g : B → C} {as : List A} {bs : List B}
    (h : List.Forall₂ (fun a b => g b = f a) as bs) : bs.map g = as.map f := by
  induction h with
  | nil => rfl
  | cons first _ ih => rw [List.map_cons, List.map_cons, first, ih]

theorem forall₂_mem_right {A B : Type*} {P : A → B → Prop} {as : List A} {bs : List B}
    (h : List.Forall₂ P as bs) {b : B} (hb : b ∈ bs) : ∃ a ∈ as, P a b := by
  induction h with
  | nil => cases hb
  | cons first _ ih =>
    rcases List.mem_cons.mp hb with rfl | hb
    · exact ⟨_, List.mem_cons_self, first⟩
    · obtain ⟨a, ha, h⟩ := ih hb
      exact ⟨a, List.mem_cons_of_mem _ ha, h⟩

theorem forall₂_mem_left {A B : Type*} {P : A → B → Prop} {as : List A} {bs : List B}
    (h : List.Forall₂ P as bs) {a : A} (ha : a ∈ as) : ∃ b ∈ bs, P a b := by
  obtain ⟨b, hb, h⟩ := forall₂_mem_right h.flip ha
  exact ⟨b, hb, h⟩

theorem exists_forall₂ {A B : Type*} {P : A → B → Prop} {as : List A} (h : ∀ a ∈ as, ∃ b, P a b) :
    ∃ bs, List.Forall₂ P as bs := by
  induction as with
  | nil => exact ⟨[], .nil⟩
  | cons a as ih =>
    obtain ⟨b, hb⟩ := h a List.mem_cons_self
    obtain ⟨bs, hbs⟩ := ih fun a ha => h a (List.mem_cons_of_mem _ ha)
    exact ⟨b :: bs, .cons hb hbs⟩

end

namespace Service

variable {svc : Service} {env : Env} {w : World}

/-- Two carts that are read to be merged, from a database that keeps to the schema. -/
structure TwoCarts (svc : Service) (env : Env) (w : World) (req : MergeGhostCartRequest)
    (row ghostRow : CartRow) (t g : Cart) : Prop where
  target : Loaded svc env.load env.ties w req.targetCartID row t
  ghost : Loaded svc env.loadGhost env.ghostTies w req.ghostCartID ghostRow g
  distinct : row.cartID ≠ ghostRow.cartID
  schema : w.db.Schema env.others

section
variable {req : MergeGhostCartRequest} {row ghostRow : CartRow} {t g : Cart} {newer : Bool}

/-- Where a merge can be stored, its lines are those of the target, with other quantities and
snapshots. -/
theorem TwoCarts.mem_merged (carts : TwoCarts svc env w req row ghostRow t g) {walk : Walk LineGroup}
    (covered : ∀ l ∈ g.lines, ∃ own ∈ t.lines,
      lineFingerprint svc.sha256 own = lineFingerprint svc.sha256 l) {l : Line}
    (hl : l ∈ (merged svc.sha256 walk t g req.sourceHLC env.now).lines) :
    ∃ fp base snapshot addedAtMs, fp ∈ fingerprints svc.sha256 (t.lines ++ g.lines) ∧
      lineOf svc.sha256 (decide (req.sourceHLC > t.updatedAtMs)) t.lines g.lines fp = some l ∧
      base ∈ w.db.lines.rows ∧ base.cartID = row.cartID ∧ snapshot ∈ w.db.lines.rows ∧
      l = { (base.line svc.uuid).takeSnapshot (snapshot.line svc.uuid) with
        quantity := ((groupLines svc.sha256 t.lines g.lines fp).map Line.quantity).sum, addedAtMs } := by
  obtain ⟨fp, hfp, hline⟩ := List.mem_filterMap.mp ((lines_merged ..).mem_iff.mp hl)
  rcases lineOf_cases svc.sha256 (decide (req.sourceHLC > t.updatedAtMs)) t.lines g.lines fp with
    ⟨-, -, none⟩ | ⟨b, s, at', hb, hs, hl⟩
  · rw [none] at hline
    cases hline
  · obtain ⟨base, hbase, own, rfl⟩ := carts.target.stored.mem_lines (baseLine_covered covered hb)
    have stored : ∃ snapshot ∈ w.db.lines.rows, s = snapshot.line svc.uuid := by
      rcases List.mem_append.mp (snapshotLine_mem hs) with hs | hs
      · obtain ⟨r, hr, -, rfl⟩ := carts.target.stored.mem_lines hs
        exact ⟨r, hr, rfl⟩
      · obtain ⟨r, hr, -, rfl⟩ := carts.ghost.stored.mem_lines hs
        exact ⟨r, hr, rfl⟩
    obtain ⟨snapshot, hsnapshot, rfl⟩ := stored
    refine ⟨fp, base, snapshot, at', hfp, hline, hbase, own, hsnapshot, ?_⟩
    exact Option.some.inj (hline.symm.trans hl)

/-- The lines of such a merge have different ids. -/
theorem TwoCarts.nodup_merged (carts : TwoCarts svc env w req row ghostRow t g) (laws : svc.uuid.Lawful)
    (walk : Walk LineGroup)
    (covered : ∀ l ∈ g.lines, ∃ own ∈ t.lines,
      lineFingerprint svc.sha256 own = lineFingerprint svc.sha256 l) :
    ((merged svc.sha256 walk t g req.sourceHLC env.now).lines.map Line.lineID).Nodup := by
  rw [((lines_merged svc.sha256 walk t g req.sourceHLC env.now).map _).nodup_iff, List.map_filterMap]
  refine (List.nodup_dedup _).filterMap ?_
  intro fp fp' id hid hid'
  have started (fp : String) (h : id ∈ (lineOf svc.sha256 (decide (req.sourceHLC > t.updatedAtMs))
      t.lines g.lines fp).map Line.lineID) :
      ∃ b ∈ t.lines, lineFingerprint svc.sha256 b = fp ∧ b.lineID = id := by
    obtain ⟨l, hl, own⟩ := Option.map_eq_some_iff.mp h
    rcases lineOf_cases svc.sha256 (decide (req.sourceHLC > t.updatedAtMs)) t.lines g.lines fp with
      ⟨-, -, none⟩ | ⟨b, s, at', hb, -, hline⟩
    · rw [none] at hl
      cases hl
    · rw [hline] at hl
      obtain rfl := Option.some.inj hl
      exact ⟨b, baseLine_covered covered hb, (baseLine_mem hb).2, own⟩
  obtain ⟨b, hb, rfl, own⟩ := started fp hid
  obtain ⟨b', hb', rfl, own'⟩ := started fp' hid'
  rw [carts.target.stored.unique laws hb hb' (own.trans own'.symm)]

/-- A row that a line of the merge is written as. -/
def RowOf (svc : Service) (env : Env) (w : World) (row : CartRow) (l : Line) (r : LineRow) : Prop :=
  0 < r.quantity ∧ r.menuItemID ∈ env.others.items ∧
    (∀ newID, l.row svc.uuid row.cartID newID = .ok r) ∧ svc.uuid.string r.lineID = l.lineID ∧
    (deleteLines w.db row.cartID).lines.find? r.lineID = none

theorem TwoCarts.exists_rowOf (carts : TwoCarts svc env w req row ghostRow t g) (laws : svc.uuid.Lawful)
    (printed : ∀ u, svc.uuid.string u ≠ "") {walk : Walk LineGroup}
    (covered : ∀ l ∈ g.lines, ∃ own ∈ t.lines,
      lineFingerprint svc.sha256 own = lineFingerprint svc.sha256 l)
    (quantities : ∀ fp ∈ fingerprints svc.sha256 (t.lines ++ g.lines),
      0 < groupItems svc.sha256 t.lines g.lines fp ∧ groupItems svc.sha256 t.lines g.lines fp < 2 ^ 31)
    {l : Line} (hl : l ∈ (merged svc.sha256 walk t g req.sourceHLC env.now).lines) :
    ∃ r, RowOf svc env w row l r := by
  obtain ⟨fp, base, snapshot, addedAtMs, hfp, -, hbase, own, hsnapshot, rfl⟩ := carts.mem_merged covered hl
  obtain ⟨positive, small⟩ := quantities fp hfp
  rw [groupItems] at positive small
  obtain ⟨q, hq⟩ := int4_accepts (by omega) small
  refine ⟨base.mergedRow snapshot row.cartID q addedAtMs, ?_, carts.schema.items base hbase,
    fun newID => row_mergedLine laws printed base addedAtMs _ newID (carts.schema.names snapshot hsnapshot)
      (carts.schema.modifiers snapshot hsnapshot) hq, rfl, ?_⟩
  · rw [Int32.lt_iff_toInt_lt]
    show (0 : Int32).toInt < q.toInt
    rw [int4_eq_ok hq]
    exact positive
  · rw [Table.find?_eq_none]
    intro other hother same
    obtain ⟨mem, apart⟩ := Table.mem_delete.mp hother
    rw [w.db.lines.unique mem hbase same] at apart
    exact of_decide_eq_false apart own

/-- The amounts and the version of a merge. -/
theorem amounts_merged (svc : Service) (env : Env) (req : MergeGhostCartRequest) (t g : Cart)
    (walk : Walk LineGroup) :
    (merged svc.sha256 walk t g req.sourceHLC env.now).totalCents =
        mergedTotal svc.sha256 (decide (req.sourceHLC > t.updatedAtMs)) t.lines g.lines ∧
      (merged svc.sha256 walk t g req.sourceHLC env.now).finalTotalCents =
        mergedTotal svc.sha256 (decide (req.sourceHLC > t.updatedAtMs)) t.lines g.lines +
          t.taxCents - t.discountCents := by
  have total : (merged svc.sha256 walk t g req.sourceHLC env.now).totalCents =
      mergedTotal svc.sha256 (decide (req.sourceHLC > t.updatedAtMs)) t.lines g.lines := by
    rw [totalCents_merged, mergedTotal]
    exact ((lines_merged ..).map _).sum_eq
  refine ⟨total, ?_⟩
  rw [← total]
  rfl

theorem columns_merged (svc : Service) (env : Env) (req : MergeGhostCartRequest) (t g : Cart)
    (walk : Walk LineGroup) :
    let c := merged svc.sha256 walk t g req.sourceHLC env.now
    c.storeID = t.storeID ∧ c.kioskID = t.kioskID ∧ c.customerPhone = t.customerPhone ∧
      c.taxCents = t.taxCents ∧ c.discountCents = t.discountCents := by
  unfold merged touch recomputeTotals Cart.touch Cart.recomputeTotals
  refine ⟨?_, ?_, ?_, ?_, ?_⟩ <;> dsimp only

/-- A merge that can be stored is. -/
theorem TwoCarts.saves (carts : TwoCarts svc env w req row ghostRow t g) (laws : svc.uuid.Lawful)
    (printed : ∀ u, svc.uuid.string u ≠ "")
    (storable : Storable svc.sha256 env.others (decide (req.sourceHLC > t.updatedAtMs)) t g
      ghostRow.cartID) :
    ∃ db, CartService.saveCart svc.uuid w.db env.others env.dbNow env.lineIDs
      (merged svc.sha256 env.walk t g req.sourceHLC env.now) none = .ok db := by
  have advances : t.Advances (merged svc.sha256 env.walk t g req.sourceHLC env.now) :=
    advances_merged ..
  obtain ⟨storeID, kioskID, customerPhone, tax, discount⟩ :=
    columns_merged svc env req t g env.walk
  obtain ⟨total, final⟩ := amounts_merged svc env req t g env.walk
  have row_of (l : Line) (hl : l ∈ (merged svc.sha256 env.walk t g req.sourceHLC env.now).lines) :
      ∃ r, RowOf svc env w row l r :=
    carts.exists_rowOf laws printed storable.covered storable.quantities hl
  have written := exists_forall₂ row_of
  have distinct := carts.nodup_merged laws env.walk storable.covered
  generalize merged svc.sha256 env.walk t g req.sourceHLC env.now = c at *
  obtain ⟨rows, written⟩ := written
  obtain ⟨stored, -, ht⟩ := carts.target.stored.loaded
  have found := carts.target.stored.found
  have ids : c.cartID = svc.uuid.string row.cartID ∧ c.storeID = svc.uuid.string row.storeID ∧
      c.kioskID = svc.uuid.string row.kioskID ∧ c.sessionID = svc.uuid.string row.sessionID ∧
      c.customerPhone = row.customerPhone.getD "" := by
    rw [advances.cartID, storeID, kioskID, advances.sessionID, customerPhone, ht]
    exact ⟨rfl, rfl, rfl, rfl, rfl⟩
  have room : row.version.toInt + 1 < 2 ^ 31 := by
    have room := storable.version
    rw [ht] at room
    simpa only [CartRow.cart, Int32.toInt_toInt64] using room
  have next : c.version = row.version.toInt64 + 1 := by
    rw [advances.version, ht]
    rfl
  have version : FitsInt4 c.version := by
    have least := row.version.le_toInt
    rw [FitsInt4, next, toInt_next room]
    omega
  have taxFits : FitsInt4 c.taxCents := by
    rw [tax, ht]
    exact fits_toInt64 row.taxCents
  have discountFits : FitsInt4 c.discountCents := by
    rw [discount, ht]
    exact fits_toInt64 row.discountCents
  obtain ⟨new, params⟩ := row_accepts laws row [] ids
    (carts.schema.phones row (Table.find?_eq_some.mp found).1) version (total ▸ storable.total)
    taxFits discountFits (final ▸ storable.finalTotal)
  have parsed : svc.uuid.parse c.cartID = .ok row.cartID := by rw [ids.1, laws.parse_string]
  have own : new.cartID = row.cartID := Except.ok.inj ((row_eq_ok params).1.symm.trans parsed)
  have expected : int4 (c.version - 1) = .ok row.version := by
    rw [next, Int64.add_sub_cancel, int4_toInt64]
  have store : new.storeID = row.storeID := by
    have h := (ids_of_row params).1
    rw [ids.2.1, laws.parse_string] at h
    exact (Except.ok.inj h).symm
  have kiosk : new.kioskID = row.kioskID := by
    have h := (ids_of_row params).2
    rw [ids.2.2.1, laws.parse_string] at h
    exact (Except.ok.inj h).symm
  obtain ⟨db₁, updated⟩ : ∃ db₁, updateCart svc.uuid w.db env.others env.dbNow c = .ok db₁ :=
    updateCart_accepts params (own ▸ found) expected store kiosk
  obtain ⟨new', _, params', -, -, lines, -, carts'⟩ := updateCart_eq_ok updated
  obtain rfl : new' = new := Except.ok.inj (params'.symm.trans params)
  have present : (db₁.carts.find? row.cartID).isSome := by
    rw [carts', own, if_pos rfl]
    rfl
  have nodup : (rows.map LineRow.lineID).Nodup := by
    have texts : (rows.map LineRow.lineID).map svc.uuid.string = c.lines.map Line.lineID := by
      rw [List.map_map]
      exact forall₂_map_eq (written.imp fun l r h => h.2.2.2.1)
    exact .of_map svc.uuid.string (texts ▸ distinct)
  have fresh (r : LineRow) (hr : r ∈ rows) :
      (deleteLines db₁ row.cartID).lines.find? r.lineID = none := by
    obtain ⟨l, -, h⟩ := forall₂_mem_right written hr
    rw [deleteLines, lines]
    exact h.2.2.2.2
  obtain ⟨db₂, inserted⟩ : ∃ db₂, insertLines svc.uuid env.others row.cartID env.lineIDs
      (deleteLines db₁ row.cartID) 0 c.lines = .ok db₂ :=
    insertLines_accepts (written.imp fun l r h => ⟨h.1, h.2.1, h.2.2.1⟩) nodup _ 0 present fresh
  have replaced : replaceLines svc.uuid db₁ env.others env.lineIDs c = .ok db₂ :=
    Statement.bind_eq_ok.mpr ⟨row.cartID, Statement.mapError_eq_ok.mpr parsed, inserted⟩
  exact Statement.exists_bind updated (Statement.exists_bind replaced ⟨_, rfl⟩)

/-- The line of a fingerprint that either cart has. -/
theorem exists_lineOf (newer : Bool) {target ghost : List Line} {fp : String}
    (h : fp ∈ fingerprints svc.sha256 (target ++ ghost)) :
    ∃ b l, baseLine (lastAt svc.sha256 target fp) (linesAt svc.sha256 ghost fp) = some b ∧
      lineOf svc.sha256 newer target ghost fp = some l ∧ l.lineID = b.lineID ∧
      l.quantity.toInt = groupItems svc.sha256 target ghost fp := by
  rcases lineOf_cases svc.sha256 newer target ghost fp with
    ⟨hb, -, -⟩ | ⟨b, s, at', hb, -, hl⟩
  · rw [baseLine, Option.or_eq_none_iff, List.head?_eq_none_iff, ← not_mem_fingerprints] at hb
    exact absurd h hb
  · exact ⟨b, _, hb, hl, rfl, rfl⟩

/-- A merge that was saved, and whose ghost was deleted, could be stored. -/
theorem TwoCarts.storable (carts : TwoCarts svc env w req row ghostRow t g) (laws : svc.uuid.Lawful)
    (printed : ∀ u, svc.uuid.string u ≠ "") {db db' : DB}
    (hdb : CartService.saveCart svc.uuid w.db env.others env.dbNow env.lineIDs
      (merged svc.sha256 env.walk t g req.sourceHLC env.now) none = .ok db)
    (hdb' : CartService.deleteCart svc.uuid db env.others g.cartID = .ok db')
    (applies : env.delete.applies) :
    Storable svc.sha256 env.others (decide (req.sourceHLC > t.updatedAtMs)) t g ghostRow.cartID := by
  obtain ⟨new, old, rows, saved⟩ := saveCart_eq_ok hdb
  have advances : t.Advances (merged svc.sha256 env.walk t g req.sourceHLC env.now) :=
    advances_merged ..
  obtain ⟨own, rfl⟩ := carts.target.of_saved laws advances.cartID saved
  obtain ⟨total, final⟩ := amounts_merged svc env req t g env.walk
  obtain ⟨version, totalRow, -, -, finalRow⟩ := amounts_of_row saved.params
  have line {fp : String} (h : fp ∈ fingerprints svc.sha256 (t.lines ++ g.lines)) :
      ∃ b r newID, baseLine (lastAt svc.sha256 t.lines fp) (linesAt svc.sha256 g.lines fp) = some b ∧
        r ∈ rows ∧ 0 < r.quantity ∧ b.newLineID svc.uuid newID = .ok r.lineID ∧
        r.quantity.toInt = groupItems svc.sha256 t.lines g.lines fp := by
    obtain ⟨b, l, hb, hl, id, items⟩ := exists_lineOf (decide (req.sourceHLC > t.updatedAtMs)) h
    have mem : l ∈ (merged svc.sha256 env.walk t g req.sourceHLC env.now).lines :=
      (lines_merged ..).mem_iff.mpr (List.mem_filterMap.mpr ⟨fp, h, hl⟩)
    obtain ⟨r, hr, positive, newID, params⟩ := forall₂_mem_left saved.written mem
    obtain ⟨lineID, -, -, quantity, -⟩ := line_row_eq_ok params
    rw [Line.newLineID, id] at lineID
    exact ⟨b, r, newID, hb, hr, positive, lineID, quantity.trans items⟩
  refine ⟨?_, ?_, ?_, ?_, ?_, ?_⟩
  · intro l hl
    by_contra uncovered
    have known : lineFingerprint svc.sha256 l ∈ fingerprints svc.sha256 (t.lines ++ g.lines) := by
      refine mem_fingerprints.mpr fun none => ?_
      exact List.not_mem_nil (none ▸ mem_linesAt.mpr ⟨List.mem_append_right _ hl, rfl⟩)
    obtain ⟨b, r, newID, hb, hr, -, lineID, -⟩ := line known
    rcases Option.or_eq_some_iff.mp hb with last | ⟨-, head⟩
    · obtain ⟨mem, same⟩ := mem_linesAt.mp (List.mem_of_getLast? last)
      exact uncovered ⟨b, mem, same⟩
    -- The row of the ghost's line is still there when its id is written again.
    · obtain ⟨rb, hrb, ghostLine, rfl⟩ :=
        carts.ghost.stored.mem_lines (mem_linesAt.mp (List.mem_of_head? head)).1
      have same : r.lineID = rb.lineID := by
        rw [Line.newLineID] at lineID
        simp only [LineRow.line, printed, ↓reduceIte, laws.parse_string] at lineID
        exact (Except.ok.inj lineID).symm
      have kept : rb ∈ db.lines.rows := by
        rw [saved.lines, own]
        refine List.mem_append_left _ (Table.mem_delete.mpr ⟨hrb, ?_⟩)
        rw [ghostLine]
        exact decide_eq_false carts.distinct.symm
      have written : r ∈ db.lines.rows := by
        rw [saved.lines]
        exact List.mem_append_right _ hr
      have targetLine := saved.written.cartID r hr
      rw [db.lines.unique written kept same, ghostLine, own] at targetLine
      exact carts.distinct targetLine.symm
  · intro fp hfp
    obtain ⟨b, r, newID, -, -, positive, -, items⟩ := line hfp
    rw [Int32.lt_iff_toInt_lt] at positive
    rw [← items]
    exact ⟨positive, r.quantity.toInt_lt⟩
  · rw [← total, ← totalRow]
    exact fits_toInt64 _
  · rw [← final, ← finalRow]
    exact fits_toInt64 _
  · have most := new.version.toInt_lt
    have next := saved.version
    rw [← version, Int32.toInt_toInt64] at next
    obtain ⟨_, -, rfl⟩ := carts.target.stored.loaded
    simp only [CartRow.cart, Int32.toInt_toInt64]
    omega
  · obtain ⟨⟨-, free⟩, -⟩ := carts.ghost.deletes laws saved hdb' applies
    refine free _ ?_
    obtain ⟨_, -, rfl⟩ := carts.ghost.stored.loaded
    show ghostRow.cartID ∈ (svc.uuid.parse (svc.uuid.string ghostRow.cartID)).toOption
    rw [laws.parse_string]
    rfl

end

/-- The merge returns, the target is read back with the merged lines, and the ghost is gone. -/
structure MergeStored (svc : Service) (env : Env) (w : World) (req : MergeGhostCartRequest)
    (t g : Cart) : Prop where
  returns : (svc.mergeGhostCart env req w).2 =
    .ok (merged svc.sha256 env.walk t g req.sourceHLC env.now)
  target : ∀ ties, ∃ c, CartService.getCart svc.uuid (svc.mergeGhostCart env req w).1.db ties
    req.targetCartID = .ok c ∧
      c.lines.Perm (merged svc.sha256 env.walk t g req.sourceHLC env.now).lines
  ghost : ∀ ties, CartService.getCart svc.uuid (svc.mergeGhostCart env req w).1.db ties
    req.ghostCartID = .error .cartNotFound

theorem request_eq_ok {o : Outcome} {write : World → Except RepositoryError World}
    {status : RepositoryError → Status} {w' : World} :
    request o write status w = (w', .ok ()) ↔ o = .ok ∧ write w = .ok w' := by
  unfold request
  cases o <;> cases h : write w <;> simp

theorem load_eq_ok {o : Outcome} {ties : Shuffle LineRow} {cartID notFound what : String} {w' : World}
    {c : Cart} : svc.load o ties cartID notFound what w = (w', .ok c) ↔
      w' = w ∧ svc.cart? o ties w cartID = some c := by
  rw [load, Effect.read, Prod.mk.injEq, Statement.mapError_eq_ok, cart?, Statement.toOption_eq_some,
    eq_comm (a := w)]

/-- A merge returns if it is saved and the ghost is deleted. -/
theorem mergeGhostCart_eq_ok {req : MergeGhostCartRequest} {t g : Cart} (final : DB) (c : Cart)
    (faultless : env.Faultless) (named : ¬ (req.targetCartID = "" ∨ req.ghostCartID = ""))
    (target : svc.cart? env.load env.ties w req.targetCartID = some t)
    (ghost : svc.cart? env.loadGhost env.ghostTies w req.ghostCartID = some g) :
    (∃ w', svc.mergeGhostCart env req w = (w', .ok c) ∧ w'.db = final) ↔
      c = merged svc.sha256 env.walk t g req.sourceHLC env.now ∧
        ∃ db, CartService.saveCart svc.uuid w.db env.others env.dbNow env.lineIDs c none = .ok db ∧
          CartService.deleteCart svc.uuid db env.others g.cartID = .ok final := by
  rw [mergeGhostCart, if_neg named]
  constructor
  · rintro ⟨w', h, rfl⟩
    obtain ⟨w₁, t', ht, h⟩ := Effect.bind_eq_ok.mp h
    obtain ⟨rfl, ht⟩ := load_eq_ok.mp ht
    obtain rfl := Option.some.inj (target.symm.trans ht)
    obtain ⟨w₂, g', hg, h⟩ := Effect.bind_eq_ok.mp h
    obtain ⟨rfl, hg⟩ := load_eq_ok.mp hg
    obtain rfl := Option.some.inj (ghost.symm.trans hg)
    obtain ⟨w₃, res, ⟨⟩, h⟩ := Effect.bind_eq_ok.mp h
    obtain ⟨w₄, _, hsave, h⟩ := Effect.bind_eq_ok.mp h
    obtain ⟨w₅, _, hsave, hset⟩ := Effect.bind_eq_ok.mp hsave
    obtain ⟨db, hdb, ⟨⟩⟩ := Statement.bind_eq_ok.mp (request_eq_ok.mp hsave).2
    obtain ⟨⟩ := (request_eq_ok.mp hset).2
    obtain ⟨w₆, _, hdelete, h⟩ := Effect.bind_eq_ok.mp h
    obtain ⟨db', hdb', ⟨⟩⟩ := Statement.bind_eq_ok.mp (request_eq_ok.mp hdelete).2
    obtain ⟨w₇, _, hset, ⟨⟩⟩ := Effect.bind_eq_ok.mp h
    obtain ⟨⟩ := (request_eq_ok.mp hset).2
    exact ⟨rfl, db, hdb, hdb'⟩
  · rintro ⟨rfl, db, hdb, hdb'⟩
    have save : svc.saveWithoutEvent env (merged svc.sha256 env.walk t g req.sourceHLC env.now) w =
        (_, .ok ()) :=
      Effect.bind_eq_ok.mpr ⟨{ w with db }, (),
        request_eq_ok.mpr ⟨faultless.save, Statement.bind_eq_ok.mpr ⟨db, hdb, rfl⟩⟩,
        request_eq_ok.mpr ⟨faultless.cache, rfl⟩⟩
    refine Effect.exists_bind (load_eq_ok.mpr ⟨rfl, target⟩) ?_
    refine Effect.exists_bind (load_eq_ok.mpr ⟨rfl, ghost⟩) ?_
    refine Effect.exists_bind rfl ?_
    refine Effect.exists_bind save ?_
    refine Effect.exists_bind (request_eq_ok.mpr
      ⟨faultless.delete, Statement.bind_eq_ok.mpr ⟨final, hdb', rfl⟩⟩) ?_
    exact Effect.exists_bind (request_eq_ok.mpr ⟨faultless.cacheAgain, rfl⟩) ⟨_, rfl, rfl⟩

theorem getCart_absent {db : DB} {ties : Shuffle LineRow} {cartID : String} {id : UUID}
    (parsed : svc.uuid.parse cartID = .ok id) (absent : db.carts.find? id = none) :
    CartService.getCart svc.uuid db ties cartID = .error .cartNotFound := by
  have selected : selectCart svc.uuid db cartID = .error .cartNotFound := by
    simp only [selectCart, parsed, Except.mapError, bind, Except.bind, absent]
  rw [CartService.getCart, selected]
  rfl

section
variable {req : MergeGhostCartRequest} {row ghostRow : CartRow} {t g : Cart}

/-- What is written of a merge is read back as its lines. -/
theorem TwoCarts.lines_written (carts : TwoCarts svc env w req row ghostRow t g)
    (laws : svc.uuid.Lawful) (printed : ∀ u, svc.uuid.string u ≠ "") {walk : Walk LineGroup}
    (covered : ∀ l ∈ g.lines, ∃ own ∈ t.lines,
      lineFingerprint svc.sha256 own = lineFingerprint svc.sha256 l) {rows : List LineRow}
    (written : Written svc.uuid row.cartID (merged svc.sha256 walk t g req.sourceHLC env.now).lines
      rows) :
    rows.map (·.line svc.uuid) = (merged svc.sha256 walk t g req.sourceHLC env.now).lines := by
  have back (l : Line) (hl : l ∈ (merged svc.sha256 walk t g req.sourceHLC env.now).lines)
      (r : LineRow) (newID : UUID) (params : l.row svc.uuid row.cartID newID = .ok r) :
      r.line svc.uuid = l := by
    obtain ⟨fp, base, snapshot, addedAtMs, -, -, hbase, own, hsnapshot, rfl⟩ :=
      carts.mem_merged covered hl
    obtain ⟨-, -, -, quantity, -⟩ := line_row_eq_ok params
    have widened : r.quantity.toInt64 =
        ((groupLines svc.sha256 t.lines g.lines fp).map Line.quantity).sum :=
      Int64.toInt_inj.mp ((Int32.toInt_toInt64 _).trans quantity)
    have hq : int4 (((groupLines svc.sha256 t.lines g.lines fp).map Line.quantity).sum) =
        .ok r.quantity := widened ▸ int4_toInt64 r.quantity
    have same := row_mergedLine laws printed base addedAtMs row.cartID newID
      (carts.schema.names snapshot hsnapshot) (carts.schema.modifiers snapshot hsnapshot) hq
    rw [← Except.ok.inj (same.symm.trans params), ← own, line_mergedRow hq]
  have known := (List.forall₂_and_left _ _).mpr ⟨fun l hl => hl, written⟩
  have same := forall₂_map_eq (f := id) (g := (·.line svc.uuid)) (known.imp fun l r h => by
    obtain ⟨hl, -, newID, params⟩ := h
    exact back l hl r newID params)
  rw [same, List.map_id]

theorem merge_stored_iff (svc : Service) (laws : svc.uuid.Lawful)
    (printed : ∀ u, svc.uuid.string u ≠ "") (w : World) (env : Env) (faultless : env.Faultless)
    (req : MergeGhostCartRequest) (named : ¬ (req.targetCartID = "" ∨ req.ghostCartID = ""))
    (row ghostRow : CartRow) (t g : Cart) (carts : TwoCarts svc env w req row ghostRow t g) :
    MergeStored svc env w req t g ↔
      Storable svc.sha256 env.others (decide (req.sourceHLC > t.updatedAtMs)) t g ghostRow.cartID := by
  have eq_ok {final : DB} {c : Cart} :=
    mergeGhostCart_eq_ok final c faultless named carts.target.read carts.ghost.read
  have applies : env.delete.applies := by rw [faultless.delete]; trivial
  constructor
  · intro h
    obtain ⟨-, db, hdb, hdb'⟩ := eq_ok.mp ⟨_, Prod.ext rfl h.returns, rfl⟩
    exact carts.storable laws printed hdb hdb' applies
  · intro storable
    obtain ⟨db, hdb⟩ := carts.saves laws printed storable
    obtain ⟨new, old, rows, saved⟩ := saveCart_eq_ok hdb
    obtain ⟨own, -⟩ := carts.target.of_saved laws (advances_merged ..).cartID saved
    have parsed : svc.uuid.parse g.cartID = .ok ghostRow.cartID := by
      obtain ⟨_, -, rfl⟩ := carts.ghost.stored.loaded
      exact laws.parse_string _
    obtain ⟨final, hfinal⟩ : ∃ final, CartService.deleteCart svc.uuid db env.others g.cartID = .ok final := by
      refine Statement.exists_bind (Statement.mapError_eq_ok.mpr parsed) ?_
      rw [if_neg fun refers => storable.free refers.2]
      exact ⟨_, rfl⟩
    obtain ⟨-, deleted⟩ := carts.ghost.deletes laws saved hfinal applies
    obtain ⟨w', returned, rfl⟩ := eq_ok.mpr ⟨rfl, db, hdb, hfinal⟩
    have state : (svc.mergeGhostCart env req w).1.db = w'.db := by rw [returned]
    refine ⟨by rw [returned], fun ties => ?_, fun ties => ?_⟩
    · have found : w'.db.carts.find? new.cartID = some (old.rewrite new env.dbNow) := by
        rw [deleted]
        refine (Table.find?_delete_of_ne (own ▸ carts.distinct)).trans ?_
        rw [saved.carts, if_pos rfl]
      have same : (old.rewrite new env.dbNow).cartID = new.cartID := (Table.find?_eq_some.mp found).2
      have parsed : svc.uuid.parse req.targetCartID = .ok (old.rewrite new env.dbNow).cartID := by
        rw [same, own]
        exact carts.target.parsed
      obtain ⟨c, hc⟩ : ∃ c, CartService.getCart svc.uuid w'.db ties req.targetCartID = .ok c :=
        getCart_accepts parsed (same ▸ found)
      refine ⟨c, state ▸ hc, ?_⟩
      obtain ⟨row', parsed', stored⟩ := getCart_eq_ok hc
      obtain ⟨rows', perm, rfl⟩ := stored.loaded
      have lines : w'.db.linesOf row'.cartID = rows := by
        have same' : row'.cartID = row.cartID := Except.ok.inj (parsed'.symm.trans carts.target.parsed)
        rw [same', deleted, linesOf_delete carts.distinct, saved.linesOf, if_pos own.symm]
      rw [lines] at perm
      show (rows'.map (·.line svc.uuid)).Perm _
      rw [← carts.lines_written laws printed storable.covered (own ▸ saved.written)]
      exact perm.map _
    · rw [state]
      refine getCart_absent carts.ghost.parsed ?_
      rw [deleted]
      exact Table.find?_delete_self

end

end Service

namespace Shop

theorem printed_shop (u : UUID) : shop.uuid.string u ≠ "" :=
  shop_uuid ▸ UUIDText.hyphenated_ne_empty u

/-- The first two carts of a shop, to be merged. -/
theorem exists_twoCarts {w : World} (valid : w.db.Valid)
    (first : (shop.cart? .ok (.none _) w (text 1)).any (!·.finalized))
    (second : (shop.cart? .ok (.none _) w (text 2)).any (!·.finalized))
    (columns : ∀ l ∈ w.db.lines.rows, (varchar 255 l.nameSnapshot).toOption = some l.nameSnapshot ∧
      (jsonb l.modifiers).toOption = some l.modifiers ∧ l.menuItemID ∈ (env 3).others.items)
    (phones : ∀ r ∈ w.db.carts.rows, r.customerPhone = none) :
    ∃ row ghostRow t g, Service.TwoCarts shop (env 3) w ⟨text 1, text 2, 0⟩ row ghostRow t g ∧
      row.finalized = false ∧ ghostRow.finalized = false := by
  obtain ⟨t, ht, open'⟩ := (Option.any_eq_true _ _).mp first
  obtain ⟨g, hg, openGhost⟩ := (Option.any_eq_true _ _).mp second
  obtain ⟨row, target⟩ := Service.loaded_of_cart? ht
  obtain ⟨ghostRow, ghost⟩ := Service.loaded_of_cart? hg
  have one : shop.uuid.parse (text 1) = .ok 1 := Statement.toOption_eq_some.mp (by decide +kernel)
  have two : shop.uuid.parse (text 2) = .ok 2 := Statement.toOption_eq_some.mp (by decide +kernel)
  have distinct : row.cartID ≠ ghostRow.cartID := by
    rw [← Except.ok.inj (one.symm.trans target.parsed), ← Except.ok.inj (two.symm.trans ghost.parsed)]
    decide
  have schema : w.db.Schema (env 3).others := {
    toValid := valid
    names := fun l hl => Statement.toOption_eq_some.mp (columns l hl).1
    modifiers := fun l hl => Statement.toOption_eq_some.mp (columns l hl).2.1
    items := fun l hl => (columns l hl).2.2
    phones := fun r hr phone h => by
      rw [phones r hr] at h
      cases h }
  refine ⟨row, ghostRow, t, g, ⟨target, ghost, distinct, schema⟩, ?_, ?_⟩
  · rw [← target.finalized_eq]
    simpa using open'
  · rw [← ghost.finalized_eq]
    simpa using openGhost

/-- Two carts of one item are merged. -/
theorem merge_stored_twoCarts :
    ∃ t g, Service.MergeStored shop (env 3) twoCarts ⟨text 1, text 2, 0⟩ t g := by
  obtain ⟨row, ghostRow, t, g, carts, -, -⟩ := exists_twoCarts (w := twoCarts)
    (Service.valid_run valid_empty) (by decide +kernel) (by decide +kernel) (by decide +kernel)
    (by decide +kernel)
  refine ⟨t, g, (Service.merge_stored_iff shop lawful_shop printed_shop twoCarts (env 3)
    (faultless_env 3) ⟨text 1, text 2, 0⟩ (by decide +kernel) row ghostRow t g carts).mpr ?_⟩
  have storable : ∀ t ∈ shop.cart? .ok (.none _) twoCarts (text 1),
      ∀ g ∈ shop.cart? .ok (.none _) twoCarts (text 2),
      (∀ l ∈ g.lines, ∃ own ∈ t.lines, lineFingerprint id own = lineFingerprint id l) ∧
      (∀ fp ∈ fingerprints id (t.lines ++ g.lines),
        0 < groupItems id t.lines g.lines fp ∧ groupItems id t.lines g.lines fp < 2 ^ 31) ∧
      FitsInt4 (mergedTotal id (decide (0 > t.updatedAtMs)) t.lines g.lines) ∧
      FitsInt4 (mergedTotal id (decide (0 > t.updatedAtMs)) t.lines g.lines + t.taxCents -
        t.discountCents) ∧ t.version.toInt + 1 < 2 ^ 31 := by
    decide +kernel
  obtain ⟨covered, quantities, total, final, version⟩ := storable t carts.target.read g carts.ghost.read
  exact ⟨covered, quantities, total, final, version, nofun⟩

def twoItems : World := Runs.run shop.step empty [create 1, add 1 1 1 1, create 2, add 2 2 2 2]

/-- A ghost whose item the target lacks is not merged. -/
theorem merge_of_new_item_fails :
    ¬ ∀ w env, env.Faultless → ∀ req, ¬ (req.targetCartID = "" ∨ req.ghostCartID = "") →
      ∀ row ghostRow t g, Service.TwoCarts shop env w req row ghostRow t g →
        row.finalized = false → ghostRow.finalized = false →
          Service.MergeStored shop env w req t g := by
  intro claim
  obtain ⟨row, ghostRow, t, g, carts, open', openGhost⟩ := exists_twoCarts (w := twoItems)
    (Service.valid_run valid_empty) (by decide +kernel) (by decide +kernel) (by decide +kernel)
    (by decide +kernel)
  have stored := claim twoItems (env 3) (faultless_env 3) ⟨text 1, text 2, 0⟩ (by decide +kernel) row
    ghostRow t g carts open' openGhost
  have fails : (shop.mergeGhostCart (env 3) ⟨text 1, text 2, 0⟩ twoItems).2.isOk = false := by
    decide +kernel
  rw [stored.returns] at fails
  cases fails

end Shop

end CartService
