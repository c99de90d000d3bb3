import AstraSystem.CartService.Merge

/-!
# Carts over whole histories (`cart/cart.go`, `crdt/merge.go`)

Every cart that was ever made can be worked on and merged into any other one.
The aggregate's own methods keep what a cart promises; a merge adds quantities
without the check they all make, and takes over a line of the ghost without a
look at the ids the target has.
-/

namespace CartService.Aggregate

variable (sha256 : List UInt8 → List UInt8)

/-- A cart, and the number of calls that made it what it is. -/
structure Version where
  cart : Cart
  calls : ℕ

/-- Every version of every cart, and the line ids that `AddLine` was given. -/
structure World where
  versions : List Version
  given : List String

inductive Action where
  | create (cartID storeID kioskID laneID sessionID customerPhone : String) (now : Time)
  | command (of : ℕ) (cmd : Command) (now : Time)
  | merge (target source : ℕ) (sourceHLC : Int64) (now : Time) (walk : Walk LineGroup)

namespace World

def start : World := ⟨[], []⟩

def push (w : World) (v : Version) : World := { w with versions := w.versions ++ [v] }

/-- What a call makes of the version it was made on; one that fails makes nothing. -/
def call (w : World) (v : Version) : Except CartError Cart → World
  | .ok cart => w.push ⟨cart, v.calls + 1⟩
  | .error _ => w

def give (w : World) : Command → World
  | .add line => { w with given := w.given ++ [line.lineID] }
  | _ => w

def step (w : World) : Action → World
  | .create cartID storeID kioskID laneID sessionID customerPhone now =>
    w.push ⟨newCart cartID storeID kioskID laneID sessionID customerPhone now, 0⟩
  | .command i cmd now =>
    match w.versions[i]? with
    | some v => (w.give cmd).call v (v.cart.command now cmd)
    | none => w
  | .merge i j sourceHLC now walk =>
    match w.versions[i]?, w.versions[j]? with
    | some v, some source =>
      w.call v ((mergeCarts sha256 walk (some v.cart) (some source.cart) sourceHLC now).map (·.cart))
    | _, _ => w

end World

/-! ## What a cart promises -/

def ids (c : Cart) : List String := c.lines.map Line.lineID

/-- The totals are those of the lines, every line is of a positive quantity, every successful call
counts once, and no id is given to two lines unless `AddLine` was given it twice. -/
structure Version.Holds (given : List String) (v : Version) : Prop where
  sound : v.cart.Sound
  version : v.cart.version = Int64.ofNat v.calls
  distinct : given.Nodup → (ids v.cart).Nodup

def World.Holds (w : World) : Prop := ∀ v ∈ w.versions, v.Holds w.given

/-- The quantities that a merge adds up come out positive, for every fingerprint. -/
def Positive (target source : List Line) : Prop :=
  ∀ fp, summedLines (lastAt sha256 target fp) (linesAt sha256 source fp) ≠ [] →
    0 < ((summedLines (lastAt sha256 target fp) (linesAt sha256 source fp)).map Line.quantity).sum

/-- The line is the first one of its fingerprint in the source, and the target has none. -/
def Opens (target source : List Line) (l : Line) : Prop :=
  lastAt sha256 target (lineFingerprint sha256 l) = none ∧
    (linesAt sha256 source (lineFingerprint sha256 l)).head? = some l

/-- No line that the source opens a group with has the id of a line that the target keeps. -/
def Apart (target source : List Line) : Prop :=
  ∀ x ∈ target, ∀ y ∈ source, lastAt sha256 target (lineFingerprint sha256 x) = some x →
    Opens sha256 target source y → x.lineID ≠ y.lineID

/-- A merge adds up positive quantities, and mixes up no ids unless `AddLine` has. -/
def World.Spares (w : World) : Action → Prop
  | .merge i j _ _ _ => ∀ v ∈ w.versions[i]?, ∀ source ∈ w.versions[j]?,
    Positive sha256 v.cart.lines source.cart.lines ∧
      (w.given.Nodup → Apart sha256 v.cart.lines source.cart.lines)
  | _ => True

/-! ## The lines of a merge -/

section
variable {sha256} {target source : List Line} {fp fp' : String} {a b : Line}

theorem baseLine_of_opens (h : Opens sha256 target source b) :
    baseLine (lastAt sha256 target (lineFingerprint sha256 b))
      (linesAt sha256 source (lineFingerprint sha256 b)) = some b := by
  rw [baseLine, h.1, h.2]
  rfl

/-- A group starts from a line that the target keeps, or from one that the source opens it with. -/
theorem baseLine_cases
    (h : baseLine (lastAt sha256 target fp) (linesAt sha256 source fp) = some b) :
    lineFingerprint sha256 b = fp ∧ (b ∈ target ∧ lastAt sha256 target fp = some b ∨
      b ∈ source ∧ Opens sha256 target source b) := by
  rw [baseLine, Option.or_eq_some_iff] at h
  obtain last | ⟨none, head⟩ := h
  · obtain ⟨hb, own⟩ := mem_linesAt.mp (List.mem_of_getLast? last)
    exact ⟨own, .inl ⟨hb, last⟩⟩
  · obtain ⟨hb, own⟩ := mem_linesAt.mp (List.mem_of_head? head)
    exact ⟨own, .inr ⟨hb, by rw [Opens, own]; exact ⟨none, head⟩⟩⟩

theorem lineID_inj {l : List Line} (nodup : (l.map Line.lineID).Nodup) (ha : a ∈ l) (hb : b ∈ l)
    (same : a.lineID = b.lineID) : a = b :=
  List.inj_on_of_nodup_map nodup ha hb same

/-- Groups start from lines of different ids exactly when source and target are apart. -/
theorem apart_iff (ht : (target.map Line.lineID).Nodup) (hs : (source.map Line.lineID).Nodup) :
    Apart sha256 target source ↔ ∀ fp fp' a b, fp ≠ fp' →
      baseLine (lastAt sha256 target fp) (linesAt sha256 source fp) = some a →
      baseLine (lastAt sha256 target fp') (linesAt sha256 source fp') = some b →
      a.lineID ≠ b.lineID := by
  constructor
  · intro apart fp fp' a b ne ha hb same
    obtain ⟨fpa, ⟨ina, lasta⟩ | ⟨ina, opensa⟩⟩ := baseLine_cases ha
    · obtain ⟨fpb, ⟨inb, -⟩ | ⟨inb, opensb⟩⟩ := baseLine_cases hb
      · obtain rfl := lineID_inj ht ina inb same
        exact ne (fpa.symm.trans fpb)
      · exact apart a ina b inb (fpa.symm ▸ lasta) opensb same
    · obtain ⟨fpb, ⟨inb, lastb⟩ | ⟨inb, -⟩⟩ := baseLine_cases hb
      · exact apart b inb a ina (fpb.symm ▸ lastb) opensa same.symm
      · obtain rfl := lineID_inj hs ina inb same
        exact ne (fpa.symm.trans fpb)
  · intro different x hx y hy last opens
    refine different (lineFingerprint sha256 x) _ x y ?_ ?_ (baseLine_of_opens opens)
    · intro same
      rw [same, opens.1] at last
      cases last
    · rw [baseLine, last]
      rfl

variable {t s : Cart} {sourceHLC : Int64} {now : Time}

/-- What each fingerprint has in the merge, by the line its group starts from. -/
theorem lineOf_baseLine (newer : Bool) (target source : List Line) (fp : String) :
    (lineOf sha256 newer target source fp).map Line.lineID =
      (baseLine (lastAt sha256 target fp) (linesAt sha256 source fp)).map Line.lineID := by
  obtain ⟨hb, -, hl⟩ | ⟨b, s, at', hb, -, hl⟩ := lineOf_cases sha256 newer target source fp
  · rw [hb, hl]
  · rw [hb, hl]
    rfl

theorem nodup_merged_iff (walk : Walk LineGroup) :
    (ids (merged sha256 walk t s sourceHLC now)).Nodup ↔ ∀ fp fp' a b, fp ≠ fp' →
      baseLine (lastAt sha256 t.lines fp) (linesAt sha256 s.lines fp) = some a →
      baseLine (lastAt sha256 t.lines fp') (linesAt sha256 s.lines fp') = some b →
      a.lineID ≠ b.lineID := by
  have perm := (lines_merged sha256 walk t s sourceHLC now).map Line.lineID
  rw [List.map_filterMap] at perm
  simp only [lineOf_baseLine] at perm
  rw [ids, perm.nodup_iff, List.Nodup, List.pairwise_filterMap]
  have listed (fp : String) (a : Line)
      (h : baseLine (lastAt sha256 t.lines fp) (linesAt sha256 s.lines fp) = some a) :
      fp ∈ fingerprints sha256 (t.lines ++ s.lines) := by
    by_contra absent
    obtain ⟨last, lines⟩ := not_mem_fingerprints.mp absent
    rw [last, lines] at h
    cases h
  constructor
  · intro pairwise fp fp' a b ne ha hb
    have symm : Std.Symm fun fp fp' : String =>
        ∀ id, (baseLine (lastAt sha256 t.lines fp) (linesAt sha256 s.lines fp)).map Line.lineID = some id →
          ∀ id', (baseLine (lastAt sha256 t.lines fp') (linesAt sha256 s.lines fp')).map
            Line.lineID = some id' → id ≠ id' :=
      ⟨fun fp fp' h id hid id' hid' same => h id' hid' id hid same.symm⟩
    exact pairwise.forall (listed fp a ha) (listed fp' b hb) ne _ (by rw [ha]; rfl) _ (by rw [hb]; rfl)
  · intro different
    refine List.Nodup.pairwise_of_forall_ne (List.nodup_dedup _) ?_
    intro fp _ fp' _ ne id hid id' hid'
    obtain ⟨a, ha, rfl⟩ := Option.map_eq_some_iff.mp hid
    obtain ⟨b, hb, rfl⟩ := Option.map_eq_some_iff.mp hid'
    exact different fp fp' a b ne ha hb

theorem positive_merged_iff (walk : Walk LineGroup) :
    (∀ l ∈ (merged sha256 walk t s sourceHLC now).lines, 0 < l.quantity) ↔
      Positive sha256 t.lines s.lines := by
  have perm := lines_merged sha256 walk t s sourceHLC now
  constructor
  · intro positive fp filled
    obtain ⟨hb, -, -⟩ | ⟨b, x, at', -, -, hl⟩ := lineOf_cases sha256
      (decide (sourceHLC > t.updatedAtMs)) t.lines s.lines fp
    · rw [baseLine, Option.or_eq_none_iff] at hb
      rw [hb.1, List.head?_eq_none_iff.mp hb.2] at filled
      exact absurd rfl filled
    · have listed : fp ∈ fingerprints sha256 (t.lines ++ s.lines) := by
        by_contra absent
        obtain ⟨last, lines⟩ := not_mem_fingerprints.mp absent
        rw [last, lines] at filled
        exact filled rfl
      have counted := positive _ (perm.mem_iff.mpr (List.mem_filterMap.mpr ⟨fp, listed, hl⟩))
      exact counted
  · intro positive l hl
    obtain ⟨fp, mem, hl⟩ := List.mem_filterMap.mp (perm.mem_iff.mp hl)
    obtain ⟨-, -, none⟩ | ⟨b, x, at', -, -, own⟩ := lineOf_cases sha256
      (decide (sourceHLC > t.updatedAtMs)) t.lines s.lines fp
    · rw [none] at hl
      cases hl
    · obtain rfl := Option.some.inj (own.symm.trans hl)
      have filled : summedLines (lastAt sha256 t.lines fp) (linesAt sha256 s.lines fp) ≠ [] := by
        intro empty
        rw [summedLines, List.append_eq_nil_iff, Option.toList_eq_nil_iff] at empty
        exact not_mem_fingerprints.mpr empty mem
      exact positive fp filled

theorem sound_merged_iff (walk : Walk LineGroup) :
    (merged sha256 walk t s sourceHLC now).Sound ↔ Positive sha256 t.lines s.lines := by
  have lines : (∀ l ∈ (merged sha256 walk t s sourceHLC now).lines, 0 < l.quantity) ↔
      Positive sha256 t.lines s.lines := positive_merged_iff walk
  rw [← lines]
  exact ⟨fun sound => sound.positive, fun positive => ⟨positive, totalCents_merged walk t s _ _, rfl⟩⟩

theorem ids_merged (walk : Walk LineGroup) {id : String}
    (h : id ∈ ids (merged sha256 walk t s sourceHLC now)) : id ∈ ids t ∨ id ∈ ids s := by
  have perm := (lines_merged sha256 walk t s sourceHLC now).map Line.lineID
  rw [List.map_filterMap] at perm
  obtain ⟨fp, -, hid⟩ := List.mem_filterMap.mp (perm.mem_iff.mp h)
  rw [lineOf_baseLine] at hid
  obtain ⟨b, hb, rfl⟩ := Option.map_eq_some_iff.mp hid
  obtain ⟨-, ⟨mem, -⟩ | ⟨mem, -⟩⟩ := baseLine_cases hb
  · exact .inl (List.mem_map_of_mem mem)
  · exact .inr (List.mem_map_of_mem mem)

end

/-! ## What commands do to the ids -/

theorem sound_command {c c' : Cart} {cmd : Command} {now : Time} (sound : c.Sound)
    (h : c.command now cmd = .ok c') : c'.Sound := by
  have handled := Cart.sound_handle c (cmd, now) sound
  rwa [Cart.handle, h] at handled

/-- A command adds the id of the line it adds, or none. -/
theorem ids_command {c c' : Cart} {cmd : Command} {now : Time} (h : c.command now cmd = .ok c') :
    (∃ line, cmd = .add line ∧ ids c' = ids c ++ [line.lineID]) ∨ (ids c').Sublist (ids c) := by
  cases cmd with
  | add line =>
    refine .inl ⟨line, rfl, ?_⟩
    rw [ids, Cart.lines_of_addLine h, List.map_append]
    rfl
  | update lineID quantity modifiers =>
    right
    obtain ⟨before, l, after, lines, -, updated⟩ := Cart.lines_of_updateLine h
    rw [ids, ids, lines, updated]
    split
    · simp only [List.append_nil, List.map_append, List.map_cons]
      exact (List.Sublist.refl _).append (List.sublist_cons_self _ _)
    · simp
  | remove lineID =>
    right
    obtain ⟨before, l, after, lines, -, removed⟩ := Cart.lines_of_removeLine h
    rw [ids, ids, lines, removed, List.map_append, List.map_append]
    exact (List.Sublist.refl _).append (List.sublist_cons_self _ _)
  | finalize =>
    right
    rw [ids, ids, Cart.lines_of_finalize h]

/-! ## Steps -/

/-- All that is promised holds, and every id comes from `AddLine`. -/
structure World.Kept (w : World) : Prop where
  holds : w.Holds
  given : ∀ v ∈ w.versions, ∀ id ∈ ids v.cart, id ∈ w.given

namespace World

variable {w : World} {v : Version}

theorem holds_push (h : (w.push v).Holds) : v.Holds w.given :=
  h v (List.mem_append_right _ (List.mem_singleton_self v))

theorem Kept.push (h : w.Kept) (hv : v.Holds w.given) (given : ∀ id ∈ ids v.cart, id ∈ w.given) :
    (w.push v).Kept := by
  constructor
  · intro u hu
    obtain hu | hu := List.mem_append.mp hu
    · exact h.holds u hu
    · exact List.mem_singleton.mp hu ▸ hv
  · intro u hu
    obtain hu | hu := List.mem_append.mp hu
    · exact h.given u hu
    · exact List.mem_singleton.mp hu ▸ given

theorem Kept.give (h : w.Kept) (cmd : Command) : (w.give cmd).Kept := by
  cases cmd with
  | add line =>
    constructor
    · intro v hv
      obtain ⟨sound, version, distinct⟩ := h.holds v hv
      exact ⟨sound, version, fun once => distinct (List.nodup_append.mp once).1⟩
    · intro v hv id hid
      exact List.mem_append_left _ (h.given v hv id hid)
  | update => exact h
  | remove => exact h
  | finalize => exact h

theorem ofNat_succ (n : ℕ) : Int64.ofNat (n + 1) = Int64.ofNat n + 1 := Int64.ofNat_add n 1

theorem Kept.command {c : Cart} {cmd : Command} {now : Time} (h : w.Kept) (hv : v ∈ w.versions)
    (hc : v.cart.command now cmd = .ok c) : ((w.give cmd).push ⟨c, v.calls + 1⟩).Kept := by
  obtain ⟨sound, version, distinct⟩ := (h.give cmd).holds v (by cases cmd <;> exact hv)
  have old := h.given v hv
  refine (h.give cmd).push ⟨sound_command sound hc, ?_, ?_⟩ ?_
  · rw [(Cart.advances_of_command cmd hc).version, version, ofNat_succ]
  · intro once
    obtain ⟨line, rfl, added⟩ | kept := ids_command hc
    · show (ids c).Nodup
      rw [added]
      refine List.nodup_append.mpr ⟨distinct once, List.nodup_singleton _, ?_⟩
      rintro a ha b hb rfl
      -- the new id was not given before
      exact (List.nodup_append.mp once).2.2 a (old a ha) a hb rfl
    · exact (distinct once).sublist kept
  · intro id hid
    obtain ⟨line, rfl, added⟩ | kept := ids_command hc
    · rw [show ids (Version.mk c _).cart = _ from added] at hid
      obtain hid | hid := List.mem_append.mp hid
      · exact List.mem_append_left _ (old id hid)
      · exact List.mem_append_right _ hid
    · have hid := old id (kept.subset hid)
      cases cmd with
      | add => exact List.mem_append_left _ hid
      | update => exact hid
      | remove => exact hid
      | finalize => exact hid

variable {sha256} {source : Version} {sourceHLC : Int64} {now : Time}

theorem merge_holds_iff (h : w.Kept) (hv : v ∈ w.versions) (hs : source ∈ w.versions)
    (walk : Walk LineGroup) :
    (Version.mk (merged sha256 walk v.cart source.cart sourceHLC now) (v.calls + 1)).Holds w.given ↔
      Positive sha256 v.cart.lines source.cart.lines ∧
        (w.given.Nodup → Apart sha256 v.cart.lines source.cart.lines) := by
  have target := h.holds v hv
  have ghost := h.holds source hs
  have apart (once : w.given.Nodup) : (ids (merged sha256 walk v.cart source.cart sourceHLC now)).Nodup ↔
      Apart sha256 v.cart.lines source.cart.lines :=
    (nodup_merged_iff walk).trans (apart_iff (target.distinct once) (ghost.distinct once)).symm
  constructor
  · intro kept
    exact ⟨(sound_merged_iff walk).mp kept.sound, fun once => (apart once).mp (kept.distinct once)⟩
  · rintro ⟨positive, ids⟩
    refine ⟨(sound_merged_iff walk).mpr positive, ?_, fun once => (apart once).mpr (ids once)⟩
    rw [(advances_merged walk v.cart source.cart sourceHLC now).version, target.version, ofNat_succ]

theorem version_newCart (cartID storeID kioskID laneID sessionID customerPhone : String)
    (now : Time) (given : List String) :
    (Version.mk (newCart cartID storeID kioskID laneID sessionID customerPhone now) 0).Holds given :=
  ⟨Cart.sound_newCart _ _ _ _ _ _ _, rfl, fun _ => .nil⟩

theorem step_merge {i j : ℕ} (hv : w.versions[i]? = some v) (hs : w.versions[j]? = some source)
    (walk : Walk LineGroup) : w.step sha256 (.merge i j sourceHLC now walk) =
      w.push ⟨merged sha256 walk v.cart source.cart sourceHLC now, v.calls + 1⟩ := by
  simp only [step, hv, hs, mergeCarts]
  rfl

theorem kept_step (a : Action) (h : w.Kept) (spares : w.Spares sha256 a) : (w.step sha256 a).Kept := by
  cases a with
  | create => exact h.push (version_newCart ..) fun _ hid => absurd hid List.not_mem_nil
  | command i cmd now =>
    unfold step
    dsimp only
    split
    · rename_i v found
      cases hc : v.cart.command now cmd with
      | ok c => exact h.command (List.mem_of_getElem? found) hc
      | error e => exact h.give cmd
    · exact h
  | merge i j sourceHLC now walk =>
    cases hv : w.versions[i]? with
    | none =>
      simp only [step, hv]
      exact h
    | some v =>
      cases hs : w.versions[j]? with
      | none =>
        simp only [step, hv, hs]
        exact h
      | some source =>
        have target := List.mem_of_getElem? hv
        have ghost := List.mem_of_getElem? hs
        rw [step_merge hv hs]
        refine h.push ((merge_holds_iff h target ghost walk).mpr (spares v hv source hs)) ?_
        intro id hid
        obtain hid | hid := ids_merged walk hid
        · exact h.given v target id hid
        · exact h.given source ghost id hid

theorem spares_of_holds (a : Action) (h : w.Kept) (after : (w.step sha256 a).Holds) :
    w.Spares sha256 a := by
  cases a with
  | create => trivial
  | command => trivial
  | merge i j sourceHLC now walk =>
    intro v hv source hs
    rw [step_merge hv hs] at after
    exact (merge_holds_iff h (List.mem_of_getElem? hv) (List.mem_of_getElem? hs) walk).mp
      (holds_push after)

theorem kept_start : start.Kept :=
  ⟨fun _ h => absurd h List.not_mem_nil, fun _ h => absurd h List.not_mem_nil⟩

theorem always_iff_spares (actions : List Action) :
    Runs.Always (step sha256) Holds start actions ↔
      Runs.EachStep (step sha256) (Spares sha256) start actions := by
  apply Runs.always_iff_eachStep (J := Kept)
  · exact fun w h => h.holds
  · exact fun w a h spares => kept_step a h spares
  · exact fun w a h after => spares_of_holds a h after
  · exact kept_start

end World

def fries (modifiers : List Modifier) : Line :=
  ⟨"", "line-1", "item-fries", "Fries", 300, 1, modifiers, 1000⟩

def ketchup : Modifier := ⟨"opt-ketchup", "Ketchup", 50, "grp-sauce"⟩

def target : Cart := newCart "cart-1" "store-1" "kiosk-1" "lane-1" "session-1" "" 0

def ghost : Cart :=
  (newCart "cart-2" "store-1" "kiosk-1" "lane-1" "session-1" "" 0).handle (.add (fries []), 0)

/-- The fries get ketchup between the two merges. -/
def mergedTwice : List Action :=
  [.create "cart-1" "store-1" "kiosk-1" "lane-1" "session-1" "" 0,
    .create "cart-2" "store-1" "kiosk-1" "lane-1" "session-1" "" 0,
    .command 1 (.add (fries [])) 0,
    .merge 0 2 1000 1000000000 (.inOrder _ _),
    .command 3 (.update "line-1" 1 [ketchup]) 2000000000,
    .merge 4 2 1000 3000000000 (.inOrder _ _)]

theorem lines_first_merge (walk : Walk LineGroup) (now : Time) :
    (merged sha256 walk target ghost 1000 now).lines = [fries []] := by
  have lines : ghost.lines = [fries []] := rfl
  have perm := lines_merged sha256 walk target ghost 1000 now
  have one : fingerprints sha256 ([] ++ [fries []]) = [lineFingerprint sha256 (fries [])] :=
    List.dedup_eq_self.mpr (List.nodup_singleton _)
  have own (newer : Bool) :
      lineOf sha256 newer [] [fries []] (lineFingerprint sha256 (fries [])) = some (fries []) := by
    rw [lineOf, linesAt_singleton, if_pos rfl]
    rfl
  rw [lines, show target.lines = [] from rfl, one, List.filterMap_cons_some (own _)] at perm
  exact List.perm_singleton.mp perm

end CartService.Aggregate
