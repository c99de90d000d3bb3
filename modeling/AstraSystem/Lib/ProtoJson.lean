import AstraSystem.Lib.JsonRespelling
import Mathlib.Data.List.Sort
import Mathlib.Data.String.Basic

/-!
# Messages and the documents that show them

A message is given by the names and kinds of its fields, and the values of a kind are those that such a message can
have. A document shows a message if each field stands in it under its name, in whatever order; the names may be
spelled otherwise.
-/

namespace Json

mutual

/-- Every name of a field meets `p`. -/
def allNames (p : String → Bool) : Json → Bool
  | .array xs => allNamesIn p xs
  | .object fields => allNamesOf p fields
  | .null | .bool _ | .number _ | .string _ => true

def allNamesIn (p : String → Bool) : List Json → Bool
  | [] => true
  | x :: xs => allNames p x && allNamesIn p xs

def allNamesOf (p : String → Bool) : List (String × Json) → Bool
  | [] => true
  | (name, x) :: fields => p name && allNames p x && allNamesOf p fields

end

variable {p : String → Bool}

theorem allNamesIn_iff {xs : List Json} : allNamesIn p xs = true ↔ ∀ x ∈ xs, allNames p x = true := by
  induction xs with
  | nil => simp [allNamesIn]
  | cons x xs ih => rw [allNamesIn, Bool.and_eq_true, ih, List.forall_mem_cons]

theorem allNamesOf_iff {fields : Fields} :
    allNamesOf p fields = true ↔ ∀ f ∈ fields, p f.1 = true ∧ allNames p f.2 = true := by
  induction fields with
  | nil => simp [allNamesOf]
  | cons f fields ih => rw [allNamesOf, Bool.and_eq_true, Bool.and_eq_true, ih, List.forall_mem_cons]

end Json

namespace ProtoJson

inductive Kind where
  | string
  | int32
  | int64
  | bool
  | enum (names : List (Int32 × String))
  | repeated (k : Kind)
  | message (fields : List (String × Kind))
  | map

/-- Strings by strings. A map has no order, so its entries come in that of their keys. -/
structure StringMap where
  entries : List (String × String)
  sorted : (entries.map Prod.fst).Pairwise (· < ·)

mutual

def Kind.Value : Kind → Type
  | .string => String
  | .int32 => Int32
  | .int64 => Int64
  | .bool => Bool
  | .enum _ => Int32
  | .repeated k => List k.Value
  | .message fields => FieldsValue fields
  | .map => StringMap

def FieldsValue : List (String × Kind) → Type
  | [] => Unit
  | (_, k) :: fields => k.Value × FieldsValue fields

end

/-- By its name, if it has one. -/
def enumDoc (names : List (Int32 × String)) (n : Int32) : Json :=
  match names.lookup n with
  | some name => .string name
  | none => .number (Decimal.format n.toInt)

def mapDoc (m : StringMap) : Json.Fields := m.entries.map fun e => (e.1, .string e.2)

mutual

/-- The document with the fields in the order of the message. -/
def doc : (k : Kind) → k.Value → Json
  | .string, s => .string s
  | .int32, n => .number (Decimal.format (Int32.toInt n))
  | .int64, n => .string (Decimal.format (Int64.toInt n))
  | .bool, b => .bool b
  | .enum names, n => enumDoc names n
  | .repeated k, vs => .array (List.map (doc k) vs)
  | .message fields, v => .object (docFields fields v)
  | .map, m => .object (mapDoc m)

def docFields : (fields : List (String × Kind)) → FieldsValue fields → Json.Fields
  | [], _ => []
  | (name, k) :: fields, (v, vs) => (name, doc k v) :: docFields fields vs

end

mutual

/-- The document shows the value, the names of fields spelled by `f`. -/
def Shows (f : String → String) : (k : Kind) → k.Value → Json → Prop
  | .string, s, d => d = .string s
  | .int32, n, d => d = .number (Decimal.format (Int32.toInt n))
  | .int64, n, d => d = .string (Decimal.format (Int64.toInt n))
  | .bool, b, d => d = .bool b
  | .enum names, n, d => d = enumDoc names n
  | .repeated k, vs, d => ∃ ds, d = .array ds ∧ List.Forall₂ (Shows f k) vs ds
  | .message fields, v, d => ∃ shown l, d = .object shown ∧ shown.Perm l ∧ ShowsFields f fields v l
  | .map, m, d => ∃ shown, d = .object shown ∧ shown.Perm (mapDoc m)

def ShowsFields (f : String → String) : (fields : List (String × Kind)) → FieldsValue fields → Json.Fields → Prop
  | [], _, l => l = []
  | (name, k) :: fields, (v, vs), l => ∃ d rest, l = (f name, d) :: rest ∧ Shows f k v d ∧ ShowsFields f fields vs rest

end

mutual

/-- The strings of the value, those of maps apart. -/
def strings : (k : Kind) → k.Value → List String
  | .string, s => [s]
  | .repeated k, vs => List.flatMap (strings k) vs
  | .message fields, v => stringsOf fields v
  | .int32, _ | .int64, _ | .bool, _ | .enum _, _ | .map, _ => []

def stringsOf : (fields : List (String × Kind)) → FieldsValue fields → List String
  | [], _ => []
  | (_, k) :: fields, (v, vs) => strings k v ++ stringsOf fields vs

end

mutual

def mapKeys : (k : Kind) → k.Value → List String
  | .map, m => m.entries.map Prod.fst
  | .repeated k, vs => List.flatMap (mapKeys k) vs
  | .message fields, v => mapKeysOf fields v
  | .string, _ | .int32, _ | .int64, _ | .bool, _ | .enum _, _ => []

def mapKeysOf : (fields : List (String × Kind)) → FieldsValue fields → List String
  | [], _ => []
  | (_, k) :: fields, (v, vs) => mapKeys k v ++ mapKeysOf fields vs

end

mutual

/-- Maps stay as they are. -/
def mapStrings (f : String → String) : (k : Kind) → k.Value → k.Value
  | .string, s => f s
  | .repeated k, vs => List.map (mapStrings f k) vs
  | .message fields, v => mapStringsOf f fields v
  | .int32, v | .int64, v | .bool, v | .enum _, v | .map, v => v

def mapStringsOf (f : String → String) : (fields : List (String × Kind)) → FieldsValue fields → FieldsValue fields
  | [], v => v
  | (_, k) :: fields, (v, vs) => (mapStrings f k v, mapStringsOf f fields vs)

end

mutual

/-- Every kind that the kind is made of has the property. -/
def Kind.all (p : Kind → Bool) : Kind → Bool
  | .repeated k => p (.repeated k) && k.all p
  | .message fields => p (.message fields) && allOf p fields
  | .string => p .string
  | .int32 => p .int32
  | .int64 => p .int64
  | .bool => p .bool
  | .enum names => p (.enum names)
  | .map => p .map

def allOf (p : Kind → Bool) : List (String × Kind) → Bool
  | [] => true
  | (_, k) :: fields => k.all p && allOf p fields

end

/-- No two fields of a message have one name, spelled by `f`. -/
def Kind.distinct (f : String → String) : Kind → Bool
  | .message fields => (fields.map fun e => f e.1).Nodup
  | _ => true

/-- No two numbers of an enumeration have one name. -/
def Kind.labelled : Kind → Bool
  | .enum names => (names.map Prod.snd).Nodup
  | _ => true

/-- There is no map, and `f` gives back each name that `g` spells, and each name of a number. -/
def Kind.returns (f g : String → String) : Kind → Bool
  | .message fields => fields.all fun e => f (g e.1) = e.1
  | .enum names => names.all fun e => f e.2 = e.2
  | .map => false
  | _ => true

/-! ## The document of a message -/

mutual

theorem shows_doc : ∀ (k : Kind) (v : k.Value), Shows id k v (doc k v)
  | .string, _ | .int32, _ | .int64, _ | .bool, _ | .enum _, _ => rfl
  | .repeated k, _ => ⟨_, rfl, List.forall₂_map_right_iff.mpr (List.forall₂_same.mpr fun v _ => shows_doc k v)⟩
  | .message fields, v => ⟨_, _, rfl, .refl _, showsFields_doc fields v⟩
  | .map, _ => ⟨_, rfl, .refl _⟩

theorem showsFields_doc : ∀ (fields : List (String × Kind)) (v : FieldsValue fields),
    ShowsFields id fields v (docFields fields v)
  | [], _ => rfl
  | (_, k) :: fields, (v, vs) => ⟨_, _, rfl, shows_doc k v, showsFields_doc fields vs⟩

end

/-! ## Numbers -/

theorem numbers_enumDoc (names : List (Int32 × String)) (n : Int32) :
    (enumDoc names n).allNumbers Json.Numeric = true := by
  unfold enumDoc
  split
  · rfl
  · exact Json.numeric_format _

variable {f : String → String}

theorem numbers_of_perm {l l' : Json.Fields} (perm : l.Perm l') (h : Json.allNumbersOf Json.Numeric l' = true) :
    Json.allNumbersOf Json.Numeric l = true :=
  Json.allNumbersOf_iff.mpr fun e mem => Json.allNumbersOf_iff.mp h e (perm.mem_iff.mp mem)

mutual

theorem Shows.numbers : ∀ (k : Kind) (v : k.Value) (d : Json), Shows f k v d → d.allNumbers Json.Numeric = true
  | .string, _, _, rfl | .int64, _, _, rfl | .bool, _, _, rfl => rfl
  | .int32, _, _, rfl => Json.numeric_format _
  | .enum names, n, _, rfl => numbers_enumDoc names n
  | .repeated k, vs, _, ⟨ds, rfl, all⟩ => by
    refine Json.allNumbersIn_iff.mpr fun d mem => ?_
    obtain ⟨i, bound, rfl⟩ := List.mem_iff_getElem.mp mem
    exact Shows.numbers k _ _ (all.get (all.length_eq ▸ bound) bound)
  | .message fields, v, _, ⟨shown, l, rfl, perm, each⟩ => numbers_of_perm perm (ShowsFields.numbers fields v l each)
  | .map, m, _, ⟨shown, rfl, perm⟩ => by
    refine numbers_of_perm perm (Json.allNumbersOf_iff.mpr fun e mem => ?_)
    obtain ⟨e, -, rfl⟩ := List.mem_map.mp mem
    rfl

theorem ShowsFields.numbers : ∀ (fields : List (String × Kind)) (v : FieldsValue fields) (l : Json.Fields),
    ShowsFields f fields v l → Json.allNumbersOf Json.Numeric l = true
  | [], _, _, rfl => rfl
  | (_, k) :: fields, (v, vs), _, ⟨d, rest, rfl, own, later⟩ => by
    rw [Json.allNumbersOf, Shows.numbers k v d own, ShowsFields.numbers fields vs rest later]
    rfl

end

/-! ## Strings -/

theorem map_eq_self_iff {α : Type} {g : α → α} {own : α → List String}
    (each : ∀ a, g a = a ↔ ∀ s ∈ own a, f s = s) (l : List α) : l.map g = l ↔ ∀ s ∈ l.flatMap own, f s = s := by
  induction l with
  | nil => exact iff_of_true rfl fun _ none => (by cases none)
  | cons a l ih => rw [List.map_cons, List.cons.injEq, ih, each, List.flatMap_cons, List.forall_mem_append]

mutual

theorem mapStrings_eq_iff : ∀ (k : Kind) (v : k.Value), mapStrings f k v = v ↔ ∀ s ∈ strings k v, f s = s
  | .string, s => (List.forall_mem_singleton (α := String) (p := fun t => f t = t)).symm
  | .int32, _ | .int64, _ | .bool, _ | .enum _, _ | .map, _ => iff_of_true rfl fun _ none => (by cases none)
  | .repeated k, vs => map_eq_self_iff (fun v => mapStrings_eq_iff k v) vs
  | .message fields, v => mapStringsOf_eq_iff fields v

theorem mapStringsOf_eq_iff : ∀ (fields : List (String × Kind)) (v : FieldsValue fields),
    mapStringsOf f fields v = v ↔ ∀ s ∈ stringsOf fields v, f s = s
  | [], _ => iff_of_true rfl fun _ none => (by cases none)
  | (_, k) :: fields, (v, vs) => by
    show ((mapStrings f k v, mapStringsOf f fields vs) : k.Value × FieldsValue fields) = (v, vs) ↔ _
    rw [Prod.mk.injEq, mapStrings_eq_iff k v, mapStringsOf_eq_iff fields vs]
    exact List.forall_mem_append.symm

end

theorem mem_of_lookup {names : List (Int32 × String)} {n : Int32} {name : String}
    (found : names.lookup n = some name) : (n, name) ∈ names := by
  obtain ⟨before, after, rfl, -⟩ := List.lookup_eq_some_iff.mp found
  exact List.mem_append_right _ List.mem_cons_self

/-! ## Names given back -/

theorem forall₂_mapStrings {α : Type} {R R' : α → Json → Prop} {g : α → α}
    (each : ∀ a d, R a d → R' (g a) (d.mapStrings f)) {vs : List α} {ds : List Json} (all : List.Forall₂ R vs ds) :
    List.Forall₂ R' (vs.map g) (Json.mapStringsIn f ds) := by
  induction all with
  | nil => exact .nil
  | cons own _ ih => exact .cons (each _ _ own) ih

theorem mapStrings_enumDoc {names : List (Int32 × String)} (returns : ∀ e ∈ names, f e.2 = e.2) (n : Int32) :
    (enumDoc names n).mapStrings f = enumDoc names n := by
  unfold enumDoc
  split
  · rename_i name found
    exact congrArg Json.string (returns (n, name) (mem_of_lookup found))
  · rfl

mutual

/-- Where `f` gives back what `g` spells, what shows a value by the names of `g` shows it by its own names, with the
strings that `f` gives. -/
theorem Shows.mapStrings {g : String → String} (numbers : ∀ n, f (Decimal.format n) = Decimal.format n) :
    ∀ (k : Kind) (v : k.Value) (d : Json), k.all (Kind.returns f g) = true → Shows g k v d →
      Shows id k (ProtoJson.mapStrings f k v) (d.mapStrings f)
  | .string, _, _, _, rfl | .int32, _, _, _, rfl | .bool, _, _, _, rfl => rfl
  | .int64, n, _, _, rfl => congrArg Json.string (numbers _)
  | .enum names, n, _, returns, rfl => mapStrings_enumDoc (by simpa [Kind.all, Kind.returns] using returns) n
  | .repeated k, vs, _, returns, ⟨ds, rfl, all⟩ =>
    ⟨_, rfl, forall₂_mapStrings (fun v d => Shows.mapStrings numbers k v d (Bool.and_eq_true_iff.mp returns).2) all⟩
  | .message fields, v, _, returns, ⟨shown, l, rfl, perm, each⟩ => by
    obtain ⟨names, rest⟩ := Bool.and_eq_true_iff.mp returns
    refine ⟨_, _, rfl, ?_, ShowsFields.mapStrings numbers fields v l (by simpa [Kind.returns] using names) rest each⟩
    rw [Json.mapStringsOf_eq, Json.mapStringsOf_eq]
    exact perm.map _
  | .map, _, _, returns, _ => by cases returns

theorem ShowsFields.mapStrings {g : String → String} (numbers : ∀ n, f (Decimal.format n) = Decimal.format n) :
    ∀ (fields : List (String × Kind)) (v : FieldsValue fields) (l : Json.Fields), (∀ e ∈ fields, f (g e.1) = e.1) →
      allOf (Kind.returns f g) fields = true → ShowsFields g fields v l →
      ShowsFields id fields (mapStringsOf f fields v) (Json.mapStringsOf f l)
  | [], _, _, _, _, rfl => rfl
  | (name, k) :: fields, (v, vs), _, names, returns, ⟨d, rest, rfl, own, later⟩ => by
    obtain ⟨first, names⟩ := List.forall_mem_cons.mp names
    obtain ⟨here, returns⟩ := Bool.and_eq_true_iff.mp returns
    rw [Json.mapStringsOf, first]
    exact ⟨_, _, rfl, Shows.mapStrings numbers k v d here own,
      ShowsFields.mapStrings numbers fields vs rest names returns later⟩

end

/-! ## The keys of maps -/

mutual

theorem mapKeys_eq_nil {g : String → String} : ∀ (k : Kind) (v : k.Value), k.all (Kind.returns f g) = true →
    mapKeys k v = []
  | .string, _, _ | .int32, _, _ | .int64, _, _ | .bool, _, _ | .enum _, _, _ => rfl
  | .repeated k, _, returns =>
    List.flatMap_eq_nil_iff.mpr fun v _ => mapKeys_eq_nil k v (Bool.and_eq_true_iff.mp returns).2
  | .message fields, v, returns => mapKeysOf_eq_nil fields v (Bool.and_eq_true_iff.mp returns).2
  | .map, _, returns => by cases returns

theorem mapKeysOf_eq_nil {g : String → String} : ∀ (fields : List (String × Kind)) (v : FieldsValue fields),
    allOf (Kind.returns f g) fields = true → mapKeysOf fields v = []
  | [], _, _ => rfl
  | (_, k) :: fields, (v, vs), returns => by
    obtain ⟨here, returns⟩ := Bool.and_eq_true_iff.mp returns
    rw [mapKeysOf, mapKeys_eq_nil k v here, mapKeysOf_eq_nil fields vs returns]
    rfl

end

theorem forall_mem_mapKeys_of_all {α : Type} {R : α → Json → Prop} {p : String → Bool} {keys : α → List String}
    (each : ∀ a d, R a d → d.allNames p = true → ∀ key ∈ keys a, p key = true) {vs : List α} {ds : List Json}
    (all : List.Forall₂ R vs ds) (named : ∀ d ∈ ds, d.allNames p = true) : ∀ key ∈ vs.flatMap keys, p key = true := by
  induction all with
  | nil => exact fun _ none => (by cases none)
  | cons own _ ih =>
    obtain ⟨first, rest⟩ := List.forall_mem_cons.mp named
    exact List.forall_mem_append.mpr ⟨each _ _ own first, ih rest⟩

mutual

/-- The keys of the maps are names of the document. -/
theorem Shows.mapKeys {p : String → Bool} : ∀ (k : Kind) (v : k.Value) (d : Json), Shows f k v d →
    d.allNames p = true → ∀ key ∈ ProtoJson.mapKeys k v, p key = true
  | .string, _, _, _, _ | .int32, _, _, _, _ | .int64, _, _, _, _ | .bool, _, _, _, _ | .enum _, _, _, _, _ =>
    fun _ none => (by cases none)
  | .repeated k, _, _, ⟨_, rfl, all⟩, named =>
    forall_mem_mapKeys_of_all (fun v d => Shows.mapKeys k v d) all ((Json.allNamesIn_iff (p := p)).mp named)
  | .message fields, v, _, ⟨_, l, rfl, perm, each⟩, named => by
    refine ShowsFields.mapKeys fields v l each (Json.allNamesOf_iff.mpr fun e mem => ?_)
    exact Json.allNamesOf_iff.mp named e (perm.mem_iff.mpr mem)
  | .map, m, _, ⟨_, rfl, perm⟩, named => by
    intro key mem
    obtain ⟨e, entry, rfl⟩ := List.mem_map.mp mem
    exact (Json.allNamesOf_iff.mp named _ (perm.mem_iff.mpr (List.mem_map.mpr ⟨e, entry, rfl⟩))).1

theorem ShowsFields.mapKeys {p : String → Bool} : ∀ (fields : List (String × Kind)) (v : FieldsValue fields)
    (l : Json.Fields), ShowsFields f fields v l → Json.allNamesOf p l = true → ∀ key ∈ mapKeysOf fields v, p key = true
  | [], _, _, _, _ => fun _ none => (by cases none)
  | (_, k) :: fields, (v, vs), _, ⟨d, rest, rfl, own, later⟩, named => by
    obtain ⟨first, named⟩ := List.forall_mem_cons.mp (Json.allNamesOf_iff.mp named)
    exact List.forall_mem_append.mpr
      ⟨Shows.mapKeys k v d own first.2, ShowsFields.mapKeys fields vs rest later (Json.allNamesOf_iff.mpr named)⟩

end

/-! ## One document shows one value -/

theorem enumDoc_inj {names : List (Int32 × String)} (labelled : (names.map Prod.snd).Nodup) {m n : Int32}
    (same : enumDoc names m = enumDoc names n) : m = n := by
  unfold enumDoc at same
  split at same
  · rename_i name found
    split at same
    · rename_i name' found'
      obtain rfl := Json.string.inj same
      exact congrArg Prod.fst (List.inj_on_of_nodup_map labelled (mem_of_lookup found) (mem_of_lookup found') rfl)
    · cases same
  · split at same
    · cases same
    · exact Int32.toInt_inj.mp (Decimal.format_injective (Json.number.inj same))

theorem forall₂_unique {α : Type} {R : α → Json → Prop} (each : ∀ a b d, R a d → R b d → a = b) {vs ws : List α}
    {ds : List Json} (all : List.Forall₂ R vs ds) (all' : List.Forall₂ R ws ds) : vs = ws := by
  induction all generalizing ws with
  | nil =>
    cases all'
    rfl
  | cons own _ ih =>
    cases all' with
    | cons own' rest => rw [each _ _ _ own own', ih rest]

theorem names_of_showsFields : ∀ (fields : List (String × Kind)) (v : FieldsValue fields) (l : Json.Fields),
    ShowsFields f fields v l → l.map Prod.fst = fields.map fun e => f e.1
  | [], _, _, rfl => rfl
  | (_, k) :: fields, (v, vs), _, ⟨d, rest, rfl, own, later⟩ => by
    rw [List.map_cons, List.map_cons, names_of_showsFields fields vs rest later]

/-- Fields with the same names in the same order, none of them twice, are the same if they are in any order. -/
theorem eq_of_perm_of_names {l l' : Json.Fields} (perm : l.Perm l') (names : l.map Prod.fst = l'.map Prod.fst)
    (distinct : (l.map Prod.fst).Nodup) : l = l' := by
  apply List.ext_getElem perm.length_eq
  intro i bound bound'
  have mem : l[i] ∈ l' := perm.mem_iff.mp (List.getElem_mem bound)
  have name : l[i].1 = l'[i].1 := by
    have at' := congrArg (fun names : List String => names[i]?) names
    simpa [bound, bound'] using at'
  exact List.inj_on_of_nodup_map (names ▸ distinct) mem (List.getElem_mem bound') name

theorem map_mapDoc (m : StringMap) (g : String → String) :
    ((mapDoc m).map fun e => g e.1) = m.entries.map fun e => g e.1 := by
  rw [mapDoc, List.map_map]
  rfl

theorem eq_of_perm_mapDoc {m m' : StringMap} (perm : (mapDoc m).Perm (mapDoc m')) : m = m' := by
  have names (m : StringMap) : (mapDoc m).map Prod.fst = m.entries.map Prod.fst := map_mapDoc m id
  have keys : m.entries.map Prod.fst = m'.entries.map Prod.fst := by
    have perm' := perm.map Prod.fst
    rw [names, names] at perm'
    exact perm'.eq_of_pairwise (fun _ _ _ _ low high => absurd (lt_trans low high) (lt_irrefl _)) m.sorted m'.sorted
  have distinct : ((mapDoc m).map Prod.fst).Nodup := by
    rw [names]
    exact m.sorted.imp fun low => ne_of_lt low
  have same := eq_of_perm_of_names perm (by rw [names, names, keys]) distinct
  obtain ⟨entries, sorted⟩ := m
  obtain ⟨entries', sorted'⟩ := m'
  have own : entries = entries' := by
    refine List.map_injective_iff.mpr ?_ same
    rintro ⟨key, s⟩ ⟨key', s'⟩ pair
    cases pair
    rfl
  subst own
  rfl

mutual

theorem Shows.unique : ∀ (k : Kind) (v w : k.Value) (d : Json),
    k.all (fun k => k.distinct f && k.labelled) = true → Shows f k v d → Shows f k w d → v = w
  | .string, _, _, _, _, rfl, same => Json.string.inj same
  | .int32, _, _, _, _, rfl, same => Int32.toInt_inj.mp (Decimal.format_injective (Json.number.inj same))
  | .int64, _, _, _, _, rfl, same => Int64.toInt_inj.mp (Decimal.format_injective (Json.string.inj same))
  | .bool, _, _, _, _, rfl, same => Json.bool.inj same
  | .enum _, _, _, _, labelled, rfl, same =>
    enumDoc_inj (by simpa [Kind.all, Kind.distinct, Kind.labelled] using labelled) same
  | .repeated k, _, _, _, labelled, ⟨_, rfl, all⟩, ⟨_, same, all'⟩ => by
    obtain rfl := Json.array.inj same
    exact forall₂_unique (fun v w d => Shows.unique k v w d (Bool.and_eq_true_iff.mp labelled).2) all all'
  | .message fields, v, w, _, labelled, ⟨_, l, rfl, perm, each⟩, ⟨_, l', same, perm', each'⟩ => by
    obtain rfl := Json.object.inj same
    obtain ⟨own, rest⟩ := Bool.and_eq_true_iff.mp labelled
    have distinct : (fields.map fun e => f e.1).Nodup := by simpa [Kind.distinct, Kind.labelled] using own
    have names := names_of_showsFields fields v l each
    have names' := names_of_showsFields fields w l' each'
    obtain rfl := eq_of_perm_of_names (perm.symm.trans perm') (names.trans names'.symm) (names ▸ distinct)
    exact ShowsFields.unique fields v w l rest each each'
  | .map, m, m', _, _, ⟨_, rfl, perm⟩, ⟨_, same, perm'⟩ => by
    obtain rfl := Json.object.inj same
    exact eq_of_perm_mapDoc (perm.symm.trans perm')

theorem ShowsFields.unique : ∀ (fields : List (String × Kind)) (v w : FieldsValue fields) (l : Json.Fields),
    allOf (fun k => k.distinct f && k.labelled) fields = true → ShowsFields f fields v l → ShowsFields f fields w l →
      v = w
  | [], _, _, _, _, _, _ => rfl
  | (_, k) :: fields, (v, vs), (w, ws), _, labelled, ⟨d, rest, rfl, own, later⟩, ⟨_, _, same, own', later'⟩ => by
    obtain ⟨here, labelled⟩ := Bool.and_eq_true_iff.mp labelled
    obtain ⟨first, rfl⟩ := List.cons.inj same
    cases first
    rw [Shows.unique k v w d here own own', ShowsFields.unique fields vs ws rest labelled later later']

end

end ProtoJson
