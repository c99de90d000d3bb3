import AstraSystem.MenuService.Service

/-!
# When the menu cache is transparent

A cached view keeps its flag and its rows for as long as it lives, so replies are
right for as long as requests keep to that flag and writes to other rows.
-/

namespace MenuService

open Runs

section
variable {K : Type} [LinearOrder K] {env : Env K} {w : World}

namespace World.Current

theorem getMenu (h : w.Current env) (storeID : UUID) :
    Cache.getMenu w.redis (env.uuid.string storeID) =
      .ok ((w.flags.lookup (Cache.menuKey (env.uuid.string storeID))).map (loadMenu env w.db storeID)) := by
  rw [Cache.getMenu, h.menus]
  cases w.flags.lookup (Cache.menuKey (env.uuid.string storeID)) <;> rfl

theorem getCategories (h : w.Current env) (storeID : UUID) :
    Cache.getCategories w.redis (env.uuid.string storeID) =
      .ok ((w.flags.lookup (Cache.categoriesKey (env.uuid.string storeID))).map (loadCategories env w.db storeID)) := by
  rw [Cache.getCategories, h.categories]
  cases w.flags.lookup (Cache.categoriesKey (env.uuid.string storeID)) <;> rfl

/-- A reply shows what the request's own flag loads. -/
theorem transparent (h : w.Current env) (a : Act) (regular : Regular env w a) : Transparent env w a := by
  cases a with
  | getMenu storeId includeInactive =>
    simp only [Transparent, reply, Service.getMenu]
    cases parsed : env.uuid.parse storeId with
    | error _ => rfl
    | ok storeID =>
      simp only [h.getMenu]
      cases found : w.flags.lookup (Cache.menuKey (env.uuid.string storeID)) with
      | none => rfl
      | some flag => exact congrArg (fun m => Reply.menu (.ok m)) (regular storeID parsed flag found)
  | getCategories storeId includeInactive =>
    simp only [Transparent, reply, Service.getCategories]
    cases parsed : env.uuid.parse storeId with
    | error _ => rfl
    | ok storeID =>
      simp only [h.getCategories]
      cases found : w.flags.lookup (Cache.categoriesKey (env.uuid.string storeID)) with
      | none => rfl
      | some flag => exact congrArg (fun l => Reply.categories (.ok l)) (regular storeID parsed flag found)
  | write write => rfl
  | expire key => rfl

theorem setMenu (laws : env.uuid.Lawful) (h : w.Current env) (storeID : UUID) (flag : Bool) :
    World.Current env { w with
      redis := Cache.setMenu w.redis (env.uuid.string storeID) (loadMenu env w.db storeID flag)
      flags := w.flags.insert (Cache.menuKey (env.uuid.string storeID)) flag } where
  menus other := by
    by_cases own : other = storeID
    · subst own
      rw [Cache.setMenu, AList.lookup_insert, AList.lookup_insert]
      rfl
    · have apart : Cache.menuKey (env.uuid.string other) ≠ Cache.menuKey (env.uuid.string storeID) :=
        fun same => own (laws.string_injective (Cache.menuKey_inj.mp same))
      rw [Cache.setMenu, AList.lookup_insert_ne apart, AList.lookup_insert_ne apart]
      exact h.menus other
  categories other := by
    have apart := (Cache.menuKey_ne_categoriesKey (env.uuid.string storeID) (env.uuid.string other)).symm
    rw [Cache.setMenu, AList.lookup_insert_ne apart, AList.lookup_insert_ne apart]
    exact h.categories other

theorem setCategories (laws : env.uuid.Lawful) (h : w.Current env) (storeID : UUID) (flag : Bool) :
    World.Current env { w with
      redis := Cache.setCategories w.redis (env.uuid.string storeID) (loadCategories env w.db storeID flag)
      flags := w.flags.insert (Cache.categoriesKey (env.uuid.string storeID)) flag } where
  menus other := by
    have apart := Cache.menuKey_ne_categoriesKey (env.uuid.string other) (env.uuid.string storeID)
    rw [Cache.setCategories, AList.lookup_insert_ne apart, AList.lookup_insert_ne apart]
    exact h.menus other
  categories other := by
    by_cases own : other = storeID
    · subst own
      rw [Cache.setCategories, AList.lookup_insert, AList.lookup_insert]
      rfl
    · have apart : Cache.categoriesKey (env.uuid.string other) ≠ Cache.categoriesKey (env.uuid.string storeID) :=
        fun same => own (laws.string_injective (Cache.categoriesKey_inj.mp same))
      rw [Cache.setCategories, AList.lookup_insert_ne apart, AList.lookup_insert_ne apart]
      exact h.categories other

theorem erase (h : w.Current env) (key : String) :
    World.Current env { w with redis := w.redis.erase key, flags := w.flags.erase key } := by
  have both {k : String} {load : Bool → Document} (there : w.redis.lookup k = (w.flags.lookup k).map load) :
      (w.redis.erase key).lookup k = ((w.flags.erase key).lookup k).map load := by
    by_cases own : k = key
    · subst own
      rw [AList.lookup_erase, AList.lookup_erase]
      rfl
    · rw [AList.lookup_erase_ne own, AList.lookup_erase_ne own]
      exact there
  exact ⟨fun storeID => both (h.menus storeID), fun storeID => both (h.categories storeID)⟩

theorem step (laws : env.uuid.Lawful) (h : w.Current env) (a : Act) (regular : Regular env w a) :
    (MenuService.step env w a).Current env := by
  cases a with
  | getMenu storeId includeInactive =>
    simp only [MenuService.step, Service.getMenu]
    cases parsed : env.uuid.parse storeId with
    | error _ => exact h
    | ok storeID =>
      simp only [h.getMenu, World.flagged, h.menus storeID, Option.map_eq_none_iff]
      cases w.flags.lookup (Cache.menuKey (env.uuid.string storeID)) with
      | none => exact h.setMenu laws storeID includeInactive
      | some flag => exact h
  | getCategories storeId includeInactive =>
    simp only [MenuService.step, Service.getCategories]
    cases parsed : env.uuid.parse storeId with
    | error _ => exact h
    | ok storeID =>
      simp only [h.getCategories, World.flagged, h.categories storeID, Option.map_eq_none_iff]
      cases w.flags.lookup (Cache.categoriesKey (env.uuid.string storeID)) with
      | none => exact h.setCategories laws storeID includeInactive
      | some flag => exact h
  | write write =>
    constructor
    · intro storeID
      refine (h.menus storeID).trans (Option.map_congr fun flag found => ?_)
      exact congrArg Document.menu ((regular storeID flag).1 found).symm
    · intro storeID
      refine (h.categories storeID).trans (Option.map_congr fun flag found => ?_)
      exact congrArg Document.categories ((regular storeID flag).2 found).symm
  | expire key => exact h.erase key

end World.Current

end

/-! ## A burger gets dearer -/

namespace Burger

def storeId : String := "00000000-0000-0000-0000-000000000001"

def env : Env ℕ where
  uuid := .memo .hyphenated [(1, storeId)]
  collate := String.length
  allowed _ := true

theorem lawful_env : env.uuid.Lawful := by
  have same : env.uuid = .hyphenated := UUIDText.memo_eq UUIDText.lawful_hyphenated (by decide +kernel)
  exact same ▸ UUIDText.lawful_hyphenated

def db : DB where
  categories := [⟨⟨2, 1, none, "Mains", none, 0, none, none, true⟩, false⟩]
  items := [⟨⟨3, 1, 2, "Burger", none, 450, none, none, none, none, none, none, "standard", false, none, true, [],
    some "\x7b\x7d"⟩, false⟩]

def dearer : Act := .write (.updateItemPrice 3 500)

def ask : Act := .getMenu storeId false

end Burger

end MenuService
