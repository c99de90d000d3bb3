import AstraSystem.MenuService.Service

/-!
# One item, read in three ways (`service/service.go`)

A menu, a search and a request for one item answer with the same message. Rows that tie come back in any order, and in
another one for each query.
-/

namespace MenuService

open Collation

/-! ## Messages -/

namespace Pb

structure ModifierOption where
  modifierOptionId : String
  modifierGroupId : String
  name : String
  priceDeltaCents : Int64
  isDefault : Bool
  displayOrder : Int32
  isActive : Bool
  deriving DecidableEq

structure ModifierGroup where
  modifierGroupId : String
  storeId : String
  name : String
  description : String
  minSelect : Int32
  maxSelect : Int32
  displayOrder : Int32
  isActive : Bool
  options : List ModifierOption
  deriving DecidableEq

inductive ItemTaxCategory where
  | unspecified | standard | exempt | reduced
  deriving DecidableEq, Repr

inductive WeightUnit where
  | unspecified | gram | kilogram | pound | ounce
  deriving DecidableEq, Repr

structure Item where
  itemId : String
  storeId : String
  categoryId : String
  name : String
  description : String
  priceCents : Int64
  costCents : Int64
  plu : String
  barcode : String
  sku : String
  imageUrl : String
  blurhash : String
  taxCategory : ItemTaxCategory
  isWeightBased : Bool
  weightUnit : WeightUnit
  isActive : Bool
  modifierGroups : List ModifierGroup
  metadata : List (String × String)
  deriving DecidableEq

end Pb

def nullString (s : Option String) : String := s.getD ""

def nullInt64 (v : Option ℤ) : Int64 := v.elim 0 Int64.ofInt

def taxCategoryToProto (s : String) : Pb.ItemTaxCategory :=
  match s with
  | "exempt" => .exempt
  | "reduced" => .reduced
  | "standard" => .standard
  | _ => .unspecified

def weightUnitToProto (s : String) : Pb.WeightUnit :=
  match s with
  | "g" => .gram
  | "kg" => .kilogram
  | "lb" => .pound
  | "oz" => .ounce
  | _ => .unspecified

/-- Besides the requests' own environment, the operator that a search uses, and what is read from a document of metadata
and printed with `%v`. -/
structure ReadEnv (K : Type) extends Env K where
  ilike : String → String → Bool
  metadata : String → List (String × String)

section
variable {K : Type} [LinearOrder K] (env : ReadEnv K)

def modifierOptionToProto (o : ModifierOption) : Pb.ModifierOption where
  modifierOptionId := env.uuid.string o.modifierOptionID
  modifierGroupId := env.uuid.string o.modifierGroupID
  name := o.name
  priceDeltaCents := Int64.ofInt o.priceDeltaCents
  isDefault := o.isDefault
  displayOrder := Int32.ofInt o.displayOrder
  isActive := o.isActive

def modifierGroupToProto (g : ModifierGroup) : Pb.ModifierGroup where
  modifierGroupId := env.uuid.string g.modifierGroupID
  storeId := env.uuid.string g.storeID
  name := g.name
  description := nullString g.description
  minSelect := Int32.ofInt g.minSelect
  maxSelect := Int32.ofInt g.maxSelect
  displayOrder := Int32.ofInt g.displayOrder
  isActive := g.isActive
  options := g.options.map (modifierOptionToProto env)

def itemToProto (it : Item) : Pb.Item where
  itemId := env.uuid.string it.itemID
  storeId := env.uuid.string it.storeID
  categoryId := env.uuid.string it.categoryID
  name := it.name
  description := nullString it.description
  priceCents := Int64.ofInt it.priceCents
  costCents := nullInt64 it.costCents
  plu := nullString it.plu
  barcode := nullString it.barcode
  sku := nullString it.sku
  imageUrl := nullString it.imageURL
  blurhash := nullString it.blurhash
  taxCategory := taxCategoryToProto it.taxCategory
  isWeightBased := it.isWeightBased
  weightUnit := it.weightUnit.elim .unspecified weightUnitToProto
  isActive := it.isActive
  modifierGroups := it.modifierGroups.map (modifierGroupToProto env)
  metadata := it.metadata.elim [] env.metadata

/-! ## Answers -/

/-- The groups that the rows of the join add up to. -/
def attachRows (rows : List JoinRow) (items : List Item) : List Item :=
  let groups := rows.foldl addRow fun _ => []
  items.map fun it => { it with modifierGroups := groups it.itemID }

/-- `rows` are those of the join for this item. -/
def getItem (db : DB) (rows : List JoinRow) (itemId : String) : Except String Pb.Item :=
  match env.uuid.parse itemId with
  | .error _ => .error "invalid item_id"
  | .ok itemID =>
    match getItemByID db itemID with
    | none => .error "item not found"
    | some item =>
      -- the slice holds a copy, and what is attached to it is dropped
      let _copies := attachRows rows [item]
      .ok (itemToProto env item)

/-- What a list may be answered with, the items and the rows of the join each in any order that their query allows. -/
def Lists (db : DB) (selected : List Item) (answer : List Pb.Item) : Prop :=
  ∃ items rows, Returns (fun it => env.collate it.name) selected items ∧
    Returns JoinRow.order (db.joinRows (items.map Item.itemID)) rows ∧
    answer = (attachRows rows items).map (itemToProto env)

/-- `GetItem` answers with an item. -/
def Gets (db : DB) (itemID : UUID) (answer : Pb.Item) : Prop :=
  ∃ itemId, env.uuid.parse itemId = .ok itemID ∧ ∃ rows, Returns JoinRow.order (db.joinRows [itemID]) rows ∧
    getItem env db rows itemId = .ok answer

/-- `SearchItems` answers with a list, whatever it is asked for. -/
def Finds (db : DB) (answer : List Pb.Item) : Prop :=
  ∃ storeId storeID, env.uuid.parse storeId = .ok storeID ∧ ∃ query categoryId includeInactive selected,
    searchItems env.collate env.ilike env.uuid db storeID query categoryId includeInactive = .ok selected ∧
      Lists env db selected answer

/-- `GetMenu` answers with a list, where nothing is cached. -/
def Shows (db : DB) (answer : List Pb.Item) : Prop :=
  ∃ storeId storeID, env.uuid.parse storeId = .ok storeID ∧ ∃ includeInactive,
    Lists env db (getItems env.collate db storeID includeInactive) answer

/-- However the item is read, it is the same. -/
def ReadsAgree (db : DB) (itemID : UUID) : Prop :=
  ∀ one, Gets env db itemID one →
    (∀ found, Finds env db found → ∀ e ∈ found, e.itemId = env.uuid.string itemID → e = one) ∧
    ∀ menu, Shows env db menu → ∀ e ∈ menu, e.itemId = env.uuid.string itemID → e = one

/-- A group that is neither deleted nor inactive belongs to the item. -/
def DB.Modified (db : DB) (itemID : UUID) : Prop :=
  ∃ link ∈ db.itemModifierGroups, link.1 = itemID ∧
    ∃ row ∈ db.modifierGroups, row.value.modifierGroupID = link.2 ∧ row.deleted = false ∧ row.value.isActive = true

instance (db : DB) (itemID : UUID) : Decidable (db.Modified itemID) :=
  inferInstanceAs (Decidable (∃ link ∈ db.itemModifierGroups, _ ∧ ∃ row ∈ db.modifierGroups, _ ∧ _ ∧ _))

/-- The primary key of the items. -/
def DB.Keyed (db : DB) : Prop := (db.items.map fun row => row.value.itemID).Nodup

end

/-! ## The loop over the rows -/

section
variable {rows : List JoinRow} {row : JoinRow} {groups : UUID → List ModifierGroup} {itemID : UUID}

theorem addRow_other (other : row.itemID ≠ itemID) : addRow groups row itemID = groups itemID := by
  rw [addRow, if_pos other.symm]

theorem addRow_congr {groups' : UUID → List ModifierGroup} (same : groups itemID = groups' itemID) :
    addRow groups row itemID = addRow groups' row itemID := by
  simp only [addRow, same]

theorem addRow_own_ne_nil (own : row.itemID = itemID) : addRow groups row itemID ≠ [] := by
  simp only [addRow, own, ne_eq, not_true_eq_false, ↓reduceIte, List.map_eq_nil_iff]
  split
  · rename_i known
    intro none
    rw [none] at known
    cases known
  · simp

theorem addRow_ne_nil (some : groups itemID ≠ []) : addRow groups row itemID ≠ [] := by
  by_cases own : row.itemID = itemID
  · exact addRow_own_ne_nil own
  · rw [addRow_other own]
    exact some

theorem foldl_addRow_congr {groups' : UUID → List ModifierGroup} (same : groups itemID = groups' itemID) :
    rows.foldl addRow groups itemID = rows.foldl addRow groups' itemID := by
  induction rows generalizing groups groups' with
  | nil => exact same
  | cons row rows ih => exact ih (addRow_congr same)

/-- An item's groups come from its own rows. -/
theorem foldl_addRow_filter : rows.foldl addRow groups itemID =
    (rows.filter fun row => row.itemID = itemID).foldl addRow groups itemID := by
  induction rows generalizing groups with
  | nil => rfl
  | cons row rows ih =>
    rw [List.foldl_cons, List.filter_cons]
    by_cases own : row.itemID = itemID
    · rw [if_pos (decide_eq_true own), List.foldl_cons]
      exact ih
    · rw [if_neg (by simpa using own), ← ih]
      exact foldl_addRow_congr (addRow_other own)

theorem foldl_addRow_ne_nil (some : groups itemID ≠ []) : rows.foldl addRow groups itemID ≠ [] := by
  induction rows generalizing groups with
  | nil => exact some
  | cons row rows ih => exact ih (addRow_ne_nil some)

/-- There are none only where there are no rows. -/
theorem foldl_addRow_eq_nil_iff :
    rows.foldl addRow (fun _ => []) itemID = [] ↔ ∀ row ∈ rows, row.itemID ≠ itemID := by
  constructor
  · intro none row mem own
    obtain ⟨before, after, rfl⟩ := List.append_of_mem mem
    rw [List.foldl_append, List.foldl_cons] at none
    exact foldl_addRow_ne_nil (addRow_own_ne_nil own) none
  · intro others
    rw [foldl_addRow_filter, List.filter_eq_nil_iff.mpr (by simpa using others)]
    rfl

end

/-! ## The rows of the join -/

section
variable {db : DB} {itemIDs : List UUID} {itemID : UUID}

/-- The rows of a link. -/
def DB.linkRows (db : DB) (link : UUID × UUID) : List JoinRow :=
  (db.modifierGroups.filter fun row =>
    row.value.modifierGroupID = link.2 && !row.deleted && row.value.isActive).flatMap fun row =>
      (db.optionsOf link.2).map fun option => ⟨link.1, row.value, option⟩

/-- The rows of an item. -/
def DB.rowsOf (db : DB) (itemID : UUID) : List JoinRow :=
  (db.itemModifierGroups.filter fun link => link.1 = itemID).flatMap db.linkRows

theorem joinRows_perm (db : DB) (itemIDs : List UUID) :
    (db.joinRows itemIDs).Perm ((db.itemModifierGroups.filter fun link => link.1 ∈ itemIDs).flatMap db.linkRows) :=
  perm_sortBy _ _

theorem itemID_of_mem_linkRows {link : UUID × UUID} {row : JoinRow} (mem : row ∈ db.linkRows link) :
    row.itemID = link.1 := by
  obtain ⟨group, -, mem⟩ := List.mem_flatMap.mp mem
  obtain ⟨option, -, rfl⟩ := List.mem_map.mp mem
  rfl

theorem optionsOf_ne_nil (db : DB) (modifierGroupID : UUID) : db.optionsOf modifierGroupID ≠ [] := by
  unfold DB.optionsOf
  simp only
  split
  · exact List.cons_ne_nil _ _
  · rename_i some
    rw [ne_eq, List.map_eq_nil_iff, ← List.isEmpty_iff]
    exact some

/-- A group without options has a row too. -/
theorem linkRows_ne_nil_iff {link : UUID × UUID} : db.linkRows link ≠ [] ↔
    ∃ row ∈ db.modifierGroups, row.value.modifierGroupID = link.2 ∧ row.deleted = false ∧ row.value.isActive = true := by
  simp only [DB.linkRows, ne_eq, List.flatMap_eq_nil_iff, List.map_eq_nil_iff, optionsOf_ne_nil, imp_false,
    List.mem_filter, Bool.and_eq_true, decide_eq_true_eq, Bool.not_eq_true', not_forall, not_not, and_assoc]

/-- The rows of an item are the same among those of others. -/
theorem own_joinRows_perm (asked : itemID ∈ itemIDs) :
    ((db.joinRows itemIDs).filter fun row => row.itemID = itemID).Perm (db.rowsOf itemID) := by
  have own (link : UUID × UUID) : (db.linkRows link).filter (fun row => row.itemID = itemID) =
      if link.1 = itemID then db.linkRows link else [] := by
    split
    · rename_i own
      exact List.filter_eq_self.mpr fun row mem => decide_eq_true ((itemID_of_mem_linkRows mem).trans own)
    · rename_i other
      exact List.filter_eq_nil_iff.mpr fun row mem same =>
        other ((itemID_of_mem_linkRows mem).symm.trans (of_decide_eq_true same))
  refine ((joinRows_perm db itemIDs).filter _).trans (List.Perm.of_eq ?_)
  rw [List.filter_flatMap, DB.rowsOf]
  simp only [own]
  induction db.itemModifierGroups with
  | nil => rfl
  | cons link links ih =>
    simp only [List.filter_cons, decide_eq_true_eq]
    by_cases same : link.1 = itemID
    · rw [if_pos (same ▸ asked), if_pos same, List.flatMap_cons, List.flatMap_cons, if_pos same, ih]
    · rw [if_neg same, ← ih]
      split
      · rw [List.flatMap_cons, if_neg same, List.nil_append]
      · rfl

theorem modified_iff (asked : itemID ∈ itemIDs) :
    (∃ row ∈ db.joinRows itemIDs, row.itemID = itemID) ↔ db.Modified itemID := by
  constructor
  · rintro ⟨row, mem, rfl⟩
    obtain ⟨link, linked, mem⟩ := List.mem_flatMap.mp ((joinRows_perm db itemIDs).mem_iff.mp mem)
    exact ⟨link, (List.mem_filter.mp linked).1, (itemID_of_mem_linkRows mem).symm,
      linkRows_ne_nil_iff.mp (List.ne_nil_of_mem mem)⟩
  · rintro ⟨link, linked, rfl, group⟩
    obtain ⟨row, mem⟩ := List.exists_mem_of_ne_nil _ (linkRows_ne_nil_iff.mpr group)
    refine ⟨row, (joinRows_perm db itemIDs).mem_iff.mpr (List.mem_flatMap.mpr ⟨link, ?_, mem⟩), itemID_of_mem_linkRows mem⟩
    exact List.mem_filter.mpr ⟨linked, decide_eq_true asked⟩

end

/-! ## The three reads -/

section
variable {K : Type} {env : ReadEnv K} {db : DB} {row : Row Item}

theorem getItemByID_eq (keyed : db.Keyed) (mem : row ∈ db.items) (live : row.deleted = false) :
    getItemByID db row.value.itemID = some { row.value with modifierGroups := [] } := by
  have found : db.items.find? (fun r => r.value.itemID = row.value.itemID && !r.deleted) = some row := by
    cases h : db.items.find? fun r => r.value.itemID = row.value.itemID && !r.deleted with
    | none =>
      have hit := List.find?_eq_none.mp h row mem
      simp only [live, decide_true, Bool.not_false, Bool.and_true, not_true_eq_false] at hit
    | some row' =>
      have hit := List.find?_some h
      simp only [Bool.and_eq_true, decide_eq_true_eq] at hit
      exact congrArg some (List.inj_on_of_nodup_map keyed (List.mem_of_find?_eq_some h) mem hit.1)
  rw [getItemByID, found]
  rfl

/-- A request for one item answers without its groups. -/
theorem gets_iff (keyed : db.Keyed) (mem : row ∈ db.items) (live : row.deleted = false) (laws : env.uuid.Lawful)
    {answer : Pb.Item} : Gets env db row.value.itemID answer ↔
      answer = itemToProto env { row.value with modifierGroups := [] } := by
  constructor
  · rintro ⟨itemId, parsed, rows, -, gets⟩
    simp only [getItem, parsed, getItemByID_eq keyed mem live] at gets
    exact (Except.ok.inj gets).symm
  · rintro rfl
    refine ⟨_, laws.parse_string _, _, returns_sortBy _ _, ?_⟩
    simp only [getItem, laws.parse_string, getItemByID_eq keyed mem live]

/-- The items of a list are rows of the table. -/
def Selects (db : DB) (selected : List Item) : Prop :=
  ∀ it ∈ selected, ∃ row ∈ db.items, it = { row.value with modifierGroups := [] }

/-- It is what the request for the item answers with where it has no groups. -/
theorem entry_iff {itemIDs : List UUID} {rows : List JoinRow} (asked : row.value.itemID ∈ itemIDs)
    (joined : Returns JoinRow.order (db.joinRows itemIDs) rows) :
    itemToProto env { row.value with modifierGroups := rows.foldl addRow (fun _ => []) row.value.itemID } =
      itemToProto env { row.value with modifierGroups := [] } ↔ ¬ db.Modified row.value.itemID := by
  rw [← modified_iff asked]
  trans rows.foldl addRow (fun _ => []) row.value.itemID = []
  · constructor
    · intro same
      have groups := congrArg Pb.Item.modifierGroups same
      exact List.map_eq_nil_iff.mp groups
    · intro none
      rw [none]
  · rw [foldl_addRow_eq_nil_iff]
    simp only [joined.1.mem_iff, not_exists, not_and, ne_eq]

variable [LinearOrder K]

theorem selects_sorted (p : Row Item → Bool) : Selects db
    ((sortBy (fun it => env.collate it.name) ((db.items.filter p).map Row.value)).map fun it =>
      { it with modifierGroups := [] }) := by
  intro it mem
  obtain ⟨_, sorted, rfl⟩ := List.mem_map.mp mem
  obtain ⟨row, stored, rfl⟩ := List.mem_map.mp (mem_sortBy.mp sorted)
  exact ⟨row, (List.mem_filter.mp stored).1, rfl⟩

theorem selects_getItems (storeID : UUID) (includeInactive : Bool) :
    Selects db (getItems env.collate db storeID includeInactive) := selects_sorted _

theorem selects_searchItems {storeID : UUID} {query categoryId : String} {includeInactive : Bool} {selected : List Item}
    (found : searchItems env.collate env.ilike env.uuid db storeID query categoryId includeInactive = .ok selected) :
    Selects db selected := by
  unfold searchItems at found
  by_cases all : categoryId = ""
  · rw [if_pos all] at found
    obtain rfl := Except.ok.inj found
    exact selects_sorted _
  · rw [if_neg all] at found
    cases parsed : env.uuid.parse categoryId with
    | error err =>
      rw [parsed] at found
      cases found
    | ok id =>
      rw [parsed] at found
      obtain rfl := Except.ok.inj found
      exact selects_sorted _

/-- What stands in a list for an item has the groups that the rows of the join add up to. -/
theorem entry_eq (keyed : db.Keyed) (mem : row ∈ db.items) (laws : env.uuid.Lawful) {selected : List Item}
    (selects : Selects db selected) {answer : List Pb.Item} (lists : Lists env db selected answer) {e : Pb.Item}
    (entry : e ∈ answer) (own : e.itemId = env.uuid.string row.value.itemID) :
    ∃ itemIDs, row.value.itemID ∈ itemIDs ∧ ∃ rows, Returns JoinRow.order (db.joinRows itemIDs) rows ∧
      e = itemToProto env { row.value with modifierGroups := rows.foldl addRow (fun _ => []) row.value.itemID } := by
  obtain ⟨items, rows, returned, joined, rfl⟩ := lists
  obtain ⟨_, attached, rfl⟩ := List.mem_map.mp entry
  obtain ⟨it, listed, rfl⟩ := List.mem_map.mp attached
  obtain ⟨row', stored, same⟩ := selects it (returned.1.mem_iff.mp listed)
  have asked : it.itemID ∈ items.map Item.itemID := List.mem_map_of_mem listed
  subst same
  obtain rfl : row' = row := List.inj_on_of_nodup_map keyed stored mem (laws.string_injective own)
  exact ⟨_, asked, rows, joined, rfl⟩

/-- What is answered where rows that tie keep the order of the table. -/
theorem shows_getMenu {storeId : String} {includeInactive : Bool} {menu : Menu}
    (loaded : (Service.getMenu env.toEnv ∅ db storeId includeInactive).2 = .ok menu) :
    Shows env db (menu.items.map (itemToProto env)) := by
  unfold Service.getMenu at loaded
  cases parsed : env.uuid.parse storeId with
  | error err =>
    rw [parsed] at loaded
    cases loaded
  | ok storeID =>
    rw [parsed] at loaded
    obtain rfl := Except.ok.inj loaded
    refine ⟨storeId, storeID, parsed, includeInactive, _, _, ⟨.refl _, ?_⟩, ⟨.refl _, sorted_sortBy _ _⟩, rfl⟩
    exact List.pairwise_map.mpr (sorted_sortBy _ _)

/-- A menu that shows inactive items too has the item. -/
theorem shows_entry (mem : row ∈ db.items) (live : row.deleted = false) (laws : env.uuid.Lawful) :
    ∃ menu, Shows env db menu ∧ ∃ e ∈ menu, e.itemId = env.uuid.string row.value.itemID := by
  refine ⟨_, ⟨_, row.value.storeID, laws.parse_string _, true, _, _, returns_sortBy _ _, returns_sortBy _ _, rfl⟩, ?_⟩
  have selected : ({ row.value with modifierGroups := [] } : Item) ∈ getItems env.collate db row.value.storeID true := by
    refine List.mem_map.mpr ⟨row.value, mem_sortBy.mpr (List.mem_map_of_mem (List.mem_filter.mpr ⟨mem, ?_⟩)), rfl⟩
    simp [live, shows]
  exact ⟨_, List.mem_map_of_mem (List.mem_map_of_mem (mem_sortBy.mpr selected)), rfl⟩

/-- A menu and a search agree on an item no two rows of which tie. -/
theorem lists_agree (keyed : db.Keyed) (mem : row ∈ db.items) (laws : env.uuid.Lawful)
    (apart : ∀ a ∈ db.rowsOf row.value.itemID, ∀ b ∈ db.rowsOf row.value.itemID, a.order = b.order → a = b)
    {found menu : List Pb.Item} (finds : Finds env db found) (shows : Shows env db menu) {e e' : Pb.Item}
    (entry : e ∈ found) (own : e.itemId = env.uuid.string row.value.itemID)
    (entry' : e' ∈ menu) (own' : e'.itemId = env.uuid.string row.value.itemID) : e = e' := by
  obtain ⟨_, storeID, -, query, categoryId, includeInactive, selected, searched, lists⟩ := finds
  obtain ⟨_, storeID', -, includeInactive', lists'⟩ := shows
  obtain ⟨ids, asked, rows, joined, rfl⟩ := entry_eq keyed mem laws (selects_searchItems searched) lists entry own
  obtain ⟨ids', asked', rows', joined', rfl⟩ := entry_eq keyed mem laws (selects_getItems _ _) lists' entry' own'
  have same := ((joined.filter _).of_perm (own_joinRows_perm asked)).unique
    ((joined'.filter _).of_perm (own_joinRows_perm asked')) apart
  rw [foldl_addRow_filter, same, ← foldl_addRow_filter]

theorem plain_of_agree (keyed : db.Keyed) (mem : row ∈ db.items) (live : row.deleted = false) (laws : env.uuid.Lawful)
    (agree : ReadsAgree env db row.value.itemID) : ¬ db.Modified row.value.itemID := by
  obtain ⟨menu, shows, e, entry, own⟩ := shows_entry mem live laws
  have same := (agree _ ((gets_iff keyed mem live laws).mpr rfl)).2 menu shows e entry own
  obtain ⟨_, storeID, -, includeInactive, lists⟩ := shows
  obtain ⟨ids, asked, rows, joined, rfl⟩ := entry_eq keyed mem laws (selects_getItems _ _) lists entry own
  exact (entry_iff asked joined).mp same

end

/-- **The reads agree on an item just if it has no groups**: the request for it never answers with any. -/
theorem reads_agree_iff {K : Type} [LinearOrder K] (env : ReadEnv K) (laws : env.uuid.Lawful) (db : DB)
    (keyed : db.Keyed) (row : Row Item) (mem : row ∈ db.items) (live : row.deleted = false) :
    ReadsAgree env db row.value.itemID ↔ ¬ db.Modified row.value.itemID := by
  refine ⟨plain_of_agree keyed mem live laws, fun plain one gets => ?_⟩
  obtain rfl := (gets_iff keyed mem live laws).mp gets
  constructor
  · rintro found ⟨_, storeID, -, query, categoryId, includeInactive, selected, searched, lists⟩ e entry own
    obtain ⟨ids, asked, rows, joined, rfl⟩ := entry_eq keyed mem laws (selects_searchItems searched) lists entry own
    exact (entry_iff asked joined).mpr plain
  · rintro menu ⟨_, storeID, -, includeInactive, lists⟩ e entry own
    obtain ⟨ids, asked, rows, joined, rfl⟩ := entry_eq keyed mem laws (selects_getItems _ _) lists entry own
    exact (entry_iff asked joined).mpr plain

/-! ## A burger with a sauce -/

namespace Sauce

def env : ReadEnv ℕ where
  uuid := .hyphenated
  collate := String.length
  allowed _ := true
  ilike _ _ := false
  metadata _ := []

def burger : Row Item := ⟨⟨3, 1, 2, "Burger", none, 450, none, none, none, none, none, none, "standard", false, none, true,
  [], none⟩, false⟩

def fries : Row Item := { burger with value := { burger.value with itemID := 4, name := "Fries" } }

/-- A sauce comes with the burger, and none with the fries. -/
def db : DB where
  items := [burger, fries]
  modifierGroups := [⟨⟨5, 1, "Sauce", none, 0, 1, 0, true, []⟩, false⟩]
  modifierOptions := [⟨⟨6, 5, "Ketchup", 0, false, 0, true⟩, false⟩]
  itemModifierGroups := [(3, 5)]

theorem fries_agree : ReadsAgree env db fries.value.itemID :=
  (reads_agree_iff env UUIDText.lawful_hyphenated db (by unfold DB.Keyed; decide) fries (by decide) rfl).mpr (by decide)

theorem sauce_dropped : ¬ ReadsAgree env db burger.value.itemID := by
  intro agree
  have modified : db.Modified burger.value.itemID := by decide
  exact plain_of_agree (by unfold DB.Keyed; decide) (by decide) rfl UUIDText.lawful_hyphenated agree modified

end Sauce

end MenuService
