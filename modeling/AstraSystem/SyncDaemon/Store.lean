import AstraSystem.Lib.Table
import AstraSystem.SyncDaemon.Crdt.LwwElementSet
import AstraSystem.SyncDaemon.Types

/-!
# Inventory counts in SQL and in the element set (`store/sqlite.rs`)

The table takes a count over when its wall clock, cast to `i64`, is not smaller;
the element set takes it over when its timestamp dominates. So the table keeps
the last of the writes with the greatest wall clock, and the set the first of
those with the greatest timestamp.
-/

namespace SyncDaemon

open Crdt (Hlc LwwElementSet ElementEntry)

/-- A row of `local_inventory`. -/
structure InventoryRow where
  sku : String
  count : Int64
  hlcJson : String
  updatedAtMs : Int64
  deriving DecidableEq, Repr

structure Store where
  inventory : Table InventoryRow String InventoryRow.sku

/-- `serde_json` on timestamps. -/
structure HlcJson where
  toString : Hlc → Except String String
  fromStr : String → Except String Hlc

namespace Store

/-- `hlc.wallclock_ms as i64` -/
def now (hlc : Hlc) : Int64 := hlc.wallclockMs.toInt64

/-- `DO UPDATE SET … WHERE excluded.updated_at_ms >= local_inventory.updated_at_ms` -/
def onConflict (old excluded : InventoryRow) : InventoryRow :=
  if excluded.updatedAtMs ≥ old.updatedAtMs then excluded else { old with sku := excluded.sku }

theorem sku_onConflict (old excluded : InventoryRow) :
    (onConflict old excluded).sku = excluded.sku := by
  unfold onConflict
  split <;> rfl

variable (json : HlcJson)

/-- The store after its migrations. -/
def empty : Store := ⟨.empty⟩

def setInventory (self : Store) (sku : String) (count : Int64) (hlc : Hlc) :
    Except AstraSyncError Store := do
  let hlcJson ← (json.toString hlc).mapError .serialization
  .ok ⟨self.inventory.upsert onConflict sku_onConflict ⟨sku, count, hlcJson, now hlc⟩⟩

def getInventory (self : Store) (sku : String) : Except AstraSyncError (Option (Int64 × Hlc)) :=
  match self.inventory.find? sku with
  | none => .ok none
  | some row => do
    let hlc ← (json.fromStr row.hlcJson).mapError .serialization
    .ok (some (row.count, hlc))

/-! ## Both sides of a sequence of writes -/

structure Write where
  sku : String
  count : Int64
  hlc : Hlc
  deriving DecidableEq, Repr

def Write.entry (w : Write) : ElementEntry Int64 := ⟨some w.count, w.hlc, false⟩

def Write.row (text : Hlc → String) (w : Write) : InventoryRow :=
  ⟨w.sku, w.count, text w.hlc, now w.hlc⟩

/-- The store after the writes. -/
def setAll (ws : List Write) : Except AstraSyncError Store :=
  ws.foldlM (fun s w => setInventory json s w.sku w.count w.hlc) empty

/-- The element set after the writes. -/
def addAll (ws : List Write) : LwwElementSet String Int64 :=
  ws.foldl (fun s w => (s.add w.sku w.count w.hlc).1) .new

/-- The count an element set holds for a SKU, and since when. -/
def held (s : LwwElementSet String Int64) (sku : String) : Option (Int64 × Hlc) :=
  (s.entries.lookup sku).bind fun entry => entry.value.map fun count => (count, entry.hlc)

def writesTo (ws : List Write) (sku : String) : List Write := ws.filter fun w => w.sku = sku

/-- Reading the SKU back gives what the element set holds for it. -/
def Agree (ws : List Write) (sku : String) : Prop :=
  ∃ s, setAll json ws = .ok s ∧ getInventory json s sku = .ok (held (addAll ws) sku)

/-- The element set takes over what is strictly newer. -/
def Newer (old w : Write) : Prop := old.hlc.stamp < w.hlc.stamp

/-- The table takes over what is of no smaller wall clock. -/
def NotOlder (old w : Write) : Prop := now old.hlc ≤ now w.hlc

instance decidableNewer : DecidableRel Newer := fun old w =>
  inferInstanceAs (Decidable (old.hlc.stamp < w.hlc.stamp))

instance decidableNotOlder : DecidableRel NotOlder := fun old w =>
  inferInstanceAs (Decidable (now old.hlc ≤ now w.hlc))

/-- One write is the newest for both: all before it are older and of no greater wall clock, none
behind it is newer, and all behind it are of a smaller wall clock. -/
def InOrder (ws : List Write) : Prop :=
  ws = [] ∨ ∃ before w after, ws = before ++ w :: after ∧
    (∀ x ∈ before, Newer x w ∧ NotOlder x w) ∧ ∀ x ∈ after, ¬ Newer w x ∧ ¬ NotOlder w x

/-! ## What each side keeps -/

theorem writesTo_concat (ws : List Write) (w : Write) (sku : String) :
    writesTo (ws ++ [w]) sku = if w.sku = sku then writesTo ws sku ++ [w] else writesTo ws sku := by
  by_cases h : w.sku = sku <;> simp [writesTo, List.filter_append, h]

/-- The element set holds the first of the writes with the greatest timestamp. -/
theorem lookup_addAll (ws : List Write) (sku : String) :
    (addAll ws).entries.lookup sku =
      ((writesTo ws sku).foldl (Newest.take Newer) none).map Write.entry := by
  have kept (o : Option Write) (w : Write) :
      Crdt.newer (o.map Write.entry) w.entry = (Newest.take Newer o w).map Write.entry := by
    cases o with
    | none => rfl
    | some o =>
      by_cases h : o.hlc.stamp < w.hlc.stamp <;>
        simp [Newest.take, Newest.keep, Newer, Write.entry, h]
  induction ws using List.reverseRecOn with
  | nil => rfl
  | append_singleton ws w ih =>
    rw [addAll, List.foldl_concat, ← addAll, LwwElementSet.lookup_add, writesTo_concat]
    by_cases h : sku = w.sku
    · subst h
      rw [if_pos rfl, if_pos rfl, ih, List.foldl_concat]
      exact kept _ w
    · rw [if_neg h, if_neg (Ne.symm h), ih]

section
variable {json}

/-- The table holds the last of the writes with the greatest wall clock. -/
theorem find?_setAll {text : Hlc → String} {ws : List Write}
    (writes : ∀ w ∈ ws, json.toString w.hlc = .ok (text w.hlc)) :
    ∃ s, setAll json ws = .ok s ∧ ∀ sku, s.inventory.find? sku =
      ((writesTo ws sku).foldl (Newest.take NotOlder) none).map (Write.row text) := by
  have kept (o : Option Write) (w : Write) (own : ∀ x ∈ o, x.sku = w.sku) :
      some ((o.map (Write.row text)).elim (w.row text) (onConflict · (w.row text))) =
        (Newest.take NotOlder o w).map (Write.row text) := by
    cases o with
    | none => rfl
    | some o =>
      have same := own o rfl
      by_cases h : now o.hlc ≤ now w.hlc <;>
        simp [Newest.take, onConflict, NotOlder, Write.row, h, same]
  induction ws using List.reverseRecOn with
  | nil => exact ⟨empty, rfl, fun _ => rfl⟩
  | append_singleton ws w ih =>
    obtain ⟨s, all, rows⟩ := ih fun x hx => writes x (List.mem_append_left _ hx)
    have written := writes w (List.mem_append_right _ (List.mem_singleton_self w))
    refine ⟨⟨s.inventory.upsert onConflict sku_onConflict (w.row text)⟩, ?_, ?_⟩
    · rw [setAll, List.foldlM_append, ← setAll, all]
      simp only [bind, Except.bind, List.foldlM_cons, List.foldlM_nil, setInventory, written,
        Except.mapError, pure, Except.pure]
      rfl
    · intro sku
      rw [writesTo_concat]
      by_cases h : sku = w.sku
      · subst h
        rw [if_pos rfl, List.foldl_concat, ← kept, ← rows]
        · exact @Table.find?_upsert _ _ _ _ _ sku_onConflict _ _
        · intro x hx
          have found := rows w.sku
          rw [Option.mem_def.mp hx] at found
          exact (Table.find?_eq_some.mp found).2
      · rw [if_neg (Ne.symm h), ← rows]
        exact @Table.find?_upsert_of_ne _ _ _ _ _ sku_onConflict _ _ _ h

theorem survives_newer {ws : List Write} {w : Write} :
    ws.foldl (Newest.take Newer) none = some w ↔ Newest.Survives Newer ws w := by
  apply Newest.foldl_take
  · intro x y z xy yz
    exact lt_trans (α := ℕ ×ₗ ℕ) xy yz
  · intro x y z first last
    exact lt_of_le_of_lt (α := ℕ ×ₗ ℕ) (not_lt.mp first) last

theorem survives_notOlder {ws : List Write} {w : Write} :
    ws.foldl (Newest.take NotOlder) none = some w ↔ Newest.Survives NotOlder ws w := by
  apply Newest.foldl_take
  · intro x y z xy yz
    exact Int64.le_trans xy yz
  · intro x y z first last
    exact Int64.le_of_lt (Int64.lt_of_lt_of_le (Int64.not_le.mp first) last)

theorem mem_of_survives {r : Write → Write → Prop} {ws : List Write} {w : Write}
    (h : Newest.Survives r ws w) : w ∈ ws := by
  obtain ⟨before, after, rfl, -⟩ := h
  exact List.mem_append_right _ List.mem_cons_self

/-- Both sides keep one write exactly when the writes are in order. -/
theorem inOrder_iff {ws : List Write} (distinct : (ws.map Write.hlc).Nodup) :
    InOrder ws ↔
      ws.foldl (Newest.take NotOlder) none = ws.foldl (Newest.take Newer) none := by
  constructor
  · rintro (rfl | ⟨before, w, after, split, hb, ha⟩)
    · rfl
    · have table := survives_notOlder.mpr ⟨before, after, split, fun x hx => (hb x hx).2,
        fun x hx => (ha x hx).2⟩
      rw [table]
      exact (survives_newer.mpr ⟨before, after, split, fun x hx => (hb x hx).1,
        fun x hx => (ha x hx).1⟩).symm
  · intro same
    cases ws with
    | nil => exact .inl rfl
    | cons o ws =>
      right
      obtain ⟨w, set⟩ : ∃ w, (o :: ws).foldl (Newest.take Newer) none = some w := Newest.exists_foldl_take o ws
      obtain ⟨before, after, split, hb, ha⟩ := survives_newer.mp set
      obtain ⟨before', after', split', hb', ha'⟩ := survives_notOlder.mp (same.trans set)
      -- no write occurs twice, so both find it at one place
      have once := distinct.of_map
      rw [split'] at once
      obtain ⟨-, fresh, apart⟩ := List.nodup_append.mp once
      have absent : w ∉ before' := fun hw => apart w hw w List.mem_cons_self rfl
      obtain ⟨rfl, -, rfl⟩ := (List.append_cons_inj_of_notMem absent (List.nodup_cons.mp fresh).1).mp
        (split'.symm.trans split)
      exact ⟨before', w, after', split, fun x hx => ⟨hb x hx, hb' x hx⟩,
        fun x hx => ⟨ha x hx, ha' x hx⟩⟩

/-- **The table and the element set agree exactly on writes in order.** Of the writes to a SKU one
must be the newest for both: `set_inventory` takes over every write of no smaller wall clock, and
`add` only what dominates. -/
theorem sources_agree_iff {ws : List Write} (sku : String)
    (readable : ∀ w ∈ ws, ∃ text, json.toString w.hlc = .ok text ∧ json.fromStr text = .ok w.hlc)
    (distinct : ((writesTo ws sku).map Write.hlc).Nodup) :
    Agree json ws sku ↔ InOrder (writesTo ws sku) := by
  let text (h : Hlc) : String := (json.toString h).toOption.getD ""
  have writes (w : Write) (hw : w ∈ ws) : json.toString w.hlc = .ok (text w.hlc) ∧
      json.fromStr (text w.hlc) = .ok w.hlc := by
    obtain ⟨json', written, read⟩ := readable w hw
    have same : text w.hlc = json' := by
      show (json.toString w.hlc).toOption.getD "" = json'
      rw [written]
      rfl
    rw [same]
    exact ⟨written, read⟩
  obtain ⟨s, all, rows⟩ := find?_setAll fun w hw => (writes w hw).1
  let view (w : Write) : Int64 × Hlc := (w.count, w.hlc)
  have table : getInventory json s sku =
      .ok (((writesTo ws sku).foldl (Newest.take NotOlder) none).map view) := by
    rw [getInventory, rows]
    cases kept : (writesTo ws sku).foldl (Newest.take NotOlder) none with
    | none => rfl
    | some w =>
      have hw : w ∈ ws := List.mem_of_mem_filter (mem_of_survives (survives_notOlder.mp kept))
      simp only [Option.map_some, Write.row, (writes w hw).2, Except.mapError, bind, Except.bind]
      rfl
  have set : held (addAll ws) sku = ((writesTo ws sku).foldl (Newest.take Newer) none).map view := by
    rw [held, lookup_addAll]
    cases (writesTo ws sku).foldl (Newest.take Newer) none with
    | none => rfl
    | some w => rfl
  have agree : Agree json ws sku ↔ ((writesTo ws sku).foldl (Newest.take NotOlder) none).map view =
      ((writesTo ws sku).foldl (Newest.take Newer) none).map view := by
    rw [Agree, all, set]
    simp only [Except.ok.injEq, exists_eq_left', table]
  rw [agree, inOrder_iff distinct]
  constructor
  · intro same
    cases hs : (writesTo ws sku).foldl (Newest.take Newer) none with
    | none =>
      rw [hs, Option.map_none, Option.map_eq_none_iff] at same
      exact same
    | some w =>
      rw [hs, Option.map_some, Option.map_eq_some_iff] at same
      obtain ⟨v, hv, equal⟩ := same
      have one : v = w := List.inj_on_of_nodup_map distinct
        (mem_of_survives (survives_notOlder.mp hv)) (mem_of_survives (survives_newer.mp hs))
        (congrArg Prod.snd equal)
      rw [hv, one]
  · intro same
    rw [same]

end

/-! ## Two kiosks in one millisecond -/

def counted : Write := ⟨"sku-1", 7, ⟨1700000000000, 0, "k2"⟩⟩

def recounted : Write := ⟨"sku-1", 10, ⟨1700000000000, 1, "k1"⟩⟩

def hlcText (h : Hlc) : String :=
  "\x7b\"wallclock_ms\":" ++ h.wallclockMs.toNat.repr ++ ",\"counter\":" ++ h.counter.toNat.repr ++
    ",\"node_id\":\"" ++ h.nodeId ++ "\"\x7d"

/-- `serde_json` on the timestamps of these writes. -/
def bothJson : HlcJson where
  toString h := .ok (hlcText h)
  fromStr text := match [counted.hlc, recounted.hlc].find? fun h => hlcText h = text with
    | some h => .ok h
    | none => .error "missing field"

theorem agree_counted_recounted : Agree bothJson [counted, recounted] "sku-1" := by
  refine (sources_agree_iff "sku-1" ?_ (by decide)).mpr (.inr ⟨[counted], recounted, [], rfl, ?_, by simp⟩)
  · intro w hw
    obtain rfl | rfl : w = counted ∨ w = recounted := by simpa using hw
    · exact ⟨_, rfl, by decide +kernel⟩
    · exact ⟨_, rfl, by decide +kernel⟩
  · intro x hx
    obtain rfl : x = counted := by simpa using hx
    exact ⟨by decide, by decide⟩

/-- The older count arrives late: the table takes it over, the element set does not. -/
theorem disagree_recounted_counted :
    ¬ ∀ (ws : List Write) (sku : String), ((writesTo ws sku).map Write.hlc).Nodup →
      Agree bothJson ws sku := by
  intro h
  obtain ⟨s, all, read⟩ := h [recounted, counted] "sku-1" (by decide)
  have table : (setAll bothJson [recounted, counted]).bind (getInventory bothJson · "sku-1") =
      .ok (some (7, counted.hlc)) := by decide +kernel
  rw [all] at table
  have set : held (addAll [recounted, counted]) "sku-1" = some (10, recounted.hlc) := by decide +kernel
  rw [set] at read
  exact absurd (table.symm.trans read) (by decide)

end Store

end SyncDaemon
