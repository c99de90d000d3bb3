import AstraSystem.GoCommon.Redaction
import AstraSystem.Lib.ProtoJson
import AstraSystem.Lib.Separated
import AstraSystem.UpdateServer.Manifest

/-!
# Names of fields on the way in and out (`gateway/internal/routes/routes.go`)

What a client sends has its upper-case letters replaced wherever they stand behind a lower-case letter or a digit, and
is then read by protojson. What protojson writes has all its names spelled in camel case, those of maps included.
-/

namespace ApiGateway.Translation

open Regex ProtoJson
open GoCommon.Redaction (Rune)
open UpdateServer (marshalByNumber short_marshal)

/-! ## The messages (`proto/*.proto`) -/

def CreateCartRequest : Kind :=
  .message [("store_id", .string), ("kiosk_id", .string), ("session_id", .string), ("customer_phone", .string)]

def CartModifier : Kind :=
  .message [("modifier_option_id", .string), ("name_snapshot", .string), ("price_delta_cents_snapshot", .int64),
    ("modifier_group_id", .string)]

def AddItemRequest : Kind :=
  .message [("cart_id", .string), ("menu_item_id", .string), ("quantity", .int32), ("modifiers", .repeated CartModifier)]

def UpdateItemRequest : Kind :=
  .message [("cart_id", .string), ("line_id", .string), ("quantity", .int32), ("modifiers", .repeated CartModifier)]

def FinalizeCartRequest : Kind := .message [("cart_id", .string), ("customer_phone", .string)]

def PaymentMethod : Kind :=
  .enum [(0, "PAYMENT_METHOD_UNSPECIFIED"), (1, "PAYMENT_METHOD_CREDIT_DEBIT"), (2, "PAYMENT_METHOD_NFC_APPLE_PAY"),
    (3, "PAYMENT_METHOD_NFC_GOOGLE_PAY"), (4, "PAYMENT_METHOD_QR_CODE"), (5, "PAYMENT_METHOD_CASH_RECYCLER")]

def PaymentIntent : Kind :=
  .message [("payment_id", .string), ("order_id", .string), ("kiosk_id", .string), ("idempotency_key", .string),
    ("amount_cents", .int64), ("currency", .string), ("method", PaymentMethod), ("is_offline_token", .bool)]

def CreateOrderRequest : Kind :=
  .message [("cart_id", .string), ("store_id", .string), ("kiosk_id", .string), ("customer_phone", .string)]

/-- What handlers read. -/
def requests : List Kind :=
  [CreateCartRequest, AddItemRequest, UpdateItemRequest, FinalizeCartRequest, PaymentIntent, CreateOrderRequest]

def OrderStatus : Kind :=
  .enum [(0, "ORDER_STATUS_UNSPECIFIED"), (1, "ORDER_STATUS_PENDING"), (2, "ORDER_STATUS_PAID"),
    (3, "ORDER_STATUS_FULFILLED"), (4, "ORDER_STATUS_CANCELLED"), (5, "ORDER_STATUS_REFUNDED")]

def OrderItem : Kind :=
  .message [("order_item_id", .string), ("item_id", .string), ("name_snapshot", .string),
    ("price_cents_snapshot", .int64), ("quantity", .int32), ("modifier_option_ids", .repeated .string),
    ("line_total_cents", .int64)]

def Order : Kind :=
  .message [("order_id", .string), ("store_id", .string), ("kiosk_id", .string), ("cart_id", .string),
    ("order_number", .string), ("status", OrderStatus), ("subtotal_cents", .int64), ("tax_cents", .int64),
    ("discount_cents", .int64), ("total_cents", .int64), ("items", .repeated OrderItem), ("tax_breakdown", .map),
    ("metadata", .map), ("paid_at", .string), ("fulfilled_at", .string), ("cancelled_at", .string),
    ("created_at", .string)]

def Category : Kind :=
  .message [("category_id", .string), ("store_id", .string), ("parent_id", .string), ("name", .string),
    ("description", .string), ("display_order", .int32), ("image_url", .string), ("blurhash", .string),
    ("is_active", .bool)]

def ModifierOption : Kind :=
  .message [("modifier_option_id", .string), ("modifier_group_id", .string), ("name", .string),
    ("price_delta_cents", .int64), ("is_default", .bool), ("display_order", .int32), ("is_active", .bool)]

def ModifierGroup : Kind :=
  .message [("modifier_group_id", .string), ("store_id", .string), ("name", .string), ("description", .string),
    ("min_select", .int32), ("max_select", .int32), ("display_order", .int32), ("is_active", .bool),
    ("options", .repeated ModifierOption)]

def ItemTaxCategory : Kind :=
  .enum [(0, "ITEM_TAX_CATEGORY_UNSPECIFIED"), (1, "ITEM_TAX_CATEGORY_STANDARD"), (2, "ITEM_TAX_CATEGORY_EXEMPT"),
    (3, "ITEM_TAX_CATEGORY_REDUCED")]

def WeightUnit : Kind :=
  .enum [(0, "WEIGHT_UNIT_UNSPECIFIED"), (1, "WEIGHT_UNIT_GRAM"), (2, "WEIGHT_UNIT_KILOGRAM"), (3, "WEIGHT_UNIT_POUND"),
    (4, "WEIGHT_UNIT_OUNCE")]

def Item : Kind :=
  .message [("item_id", .string), ("store_id", .string), ("category_id", .string), ("name", .string),
    ("description", .string), ("price_cents", .int64), ("cost_cents", .int64), ("plu", .string), ("barcode", .string),
    ("sku", .string), ("image_url", .string), ("blurhash", .string), ("tax_category", ItemTaxCategory),
    ("is_weight_based", .bool), ("weight_unit", WeightUnit), ("is_active", .bool),
    ("modifier_groups", .repeated ModifierGroup), ("metadata", .map)]

def MenuResponse : Kind :=
  .message [("store_id", .string), ("categories", .repeated Category), ("items", .repeated Item)]

/-- What handlers answer with that has maps. -/
def responses : List Kind := [MenuResponse, Order]

/-! ## On the way in -/

def camelToSnakeRe : Pattern Char := ⟨.chars fun c => c.isLower || c.isDigit, .chars Char.isUpper⟩

def camelToSnakeJSON (body : List Char) : List Char :=
  (camelToSnakeRe.pieces body).flatMap fun
    | .plain c => [c]
    | .found group value => group ++ value.flatMap fun c => ['_', c.toLower]

def protoUnmarshal (unmarshal : (k : Kind) → List Char → Option k.Value) (k : Kind) (body : List Char) :
    Option k.Value :=
  unmarshal k (camelToSnakeJSON body)

/-! ## On the way out -/

/-- `strings.ToUpper` of the first byte. Where that is no character of its own, it becomes U+FFFD, and the bytes after
it are left behind. -/
def title : List Char → List Rune
  | [] => []
  | c :: rest =>
    (if c.toNat < 128 then [.char c.toUpper]
      else .char (Char.ofNat 0xFFFD) :: (String.utf8EncodeChar c).tail.map .invalid) ++ rest.map .char

def snakeToCamel (s : String) : List Rune :=
  match s.toList.splitOn '_' with
  | [] => []
  | first :: rest => first.map .char ++ rest.flatMap title

/-- What `any` holds. A string that names a field may be no UTF-8; all numbers are of 32 bits, so that a float64 is the
number that was read. -/
inductive Any where
  | null
  | bool (b : Bool)
  | number (literal : String)
  | string (s : String)
  | array (xs : List Any)
  | object (fields : List (List Rune × Any))

/-- `out[k] = v`. -/
def assign (out : List (List Rune × Any)) (e : List Rune × Any) : List (List Rune × Any) :=
  if e.1 ∈ out.map Prod.fst then out.map fun o => if o.1 = e.1 then e else o else out ++ [e]

mutual

/-- A map is gone through in the order in which its fields are given, which is any. -/
def convertKeysToCamel : Json → Any
  | .object fields => .object ((convertFields fields).foldl assign [])
  | .array xs => .array (convertItems xs)
  | .null => .null
  | .bool b => .bool b
  | .number literal => .number literal
  | .string s => .string s

def convertItems : List Json → List Any
  | [] => []
  | x :: xs => convertKeysToCamel x :: convertItems xs

def convertFields : List (String × Json) → List (List Rune × Any)
  | [] => []
  | (k, x) :: fields => (snakeToCamel k, convertKeysToCamel x) :: convertFields fields

end

/-- Of what protojson writes and `json.Unmarshal` reads. -/
def protojsonMarshal (marshal : (k : Kind) → k.Value → Json) (k : Kind) (msg : k.Value) : Any :=
  convertKeysToCamel (marshal k msg)

/-! ## The text that is sent (`c.JSON`) -/

def Rune.bytes : Rune → List UInt8
  | .char c => String.utf8EncodeChar c
  | .invalid b => [b]

/-- What is no UTF-8 is written as U+FFFD. -/
def Rune.shown : Rune → Char
  | .char c => c
  | .invalid _ => Char.ofNat 0xFFFD

def shownName (name : List Rune) : String := String.ofList (name.map Rune.shown)

def sortByName (fields : List (List Rune × Json)) : List (List Rune × Json) :=
  fields.insertionSort fun a b => a.1.flatMap Rune.bytes ≤ b.1.flatMap Rune.bytes

mutual

def jsonMarshal : Any → Json
  | .object fields => .object ((sortByName (marshalFields fields)).map fun e => (shownName e.1, e.2))
  | .array xs => .array (marshalItems xs)
  | .null => .null
  | .bool b => .bool b
  | .number literal => .number literal
  | .string s => .string s

def marshalItems : List Any → List Json
  | [] => []
  | x :: xs => jsonMarshal x :: marshalItems xs

def marshalFields : List (List Rune × Any) → List (List Rune × Json)
  | [] => []
  | (name, x) :: fields => (name, jsonMarshal x) :: marshalFields fields

end

def sent (a : Any) : List Char := (jsonMarshal a).write marshalByNumber

def camelName (name : String) : String := shownName (snakeToCamel name)

/-! ## The way out -/

def translated (d : Json) : Json := jsonMarshal (convertKeysToCamel d)

theorem convertItems_eq (xs : List Json) : convertItems xs = xs.map convertKeysToCamel := by
  induction xs with
  | nil => rfl
  | cons x xs ih => rw [convertItems, ih, List.map_cons]

theorem convertFields_eq (fields : Json.Fields) :
    convertFields fields = fields.map fun e => (snakeToCamel e.1, convertKeysToCamel e.2) := by
  induction fields with
  | nil => rfl
  | cons e fields ih => rw [convertFields, ih, List.map_cons]

theorem marshalItems_eq (xs : List Any) : marshalItems xs = xs.map jsonMarshal := by
  induction xs with
  | nil => rfl
  | cons x xs ih => rw [marshalItems, ih, List.map_cons]

theorem marshalFields_eq (fields : List (List Rune × Any)) :
    marshalFields fields = fields.map fun e => (e.1, jsonMarshal e.2) := by
  induction fields with
  | nil => rfl
  | cons e fields ih => rw [marshalFields, ih, List.map_cons]

theorem foldl_assign {out l : List (List Rune × Any)} (distinct : ((out ++ l).map Prod.fst).Nodup) :
    l.foldl assign out = out ++ l := by
  induction l generalizing out with
  | nil => rw [List.foldl_nil, List.append_nil]
  | cons e l ih =>
    have new : e.1 ∉ out.map Prod.fst := by
      rw [List.map_append, List.map_cons] at distinct
      exact fun mem => (List.nodup_append.mp distinct).2.2 _ mem _ List.mem_cons_self rfl
    rw [List.append_cons] at distinct
    rw [List.foldl_cons, assign, if_neg new, ih distinct, List.append_assoc]
    rfl

theorem mem_foldl_assign {out l : List (List Rune × Any)} {e : List Rune × Any} (mem : e ∈ l.foldl assign out) :
    e ∈ out ∨ e ∈ l := by
  induction l generalizing out with
  | nil => exact .inl mem
  | cons a l ih =>
    obtain mem | mem := ih mem
    · unfold assign at mem
      split at mem
      · obtain ⟨o, own, same⟩ := List.mem_map.mp mem
        split at same
        · exact .inr (same ▸ List.mem_cons_self)
        · exact .inl (same ▸ own)
      · obtain mem | mem := List.mem_append.mp mem
        · exact .inl mem
        · exact .inr (List.mem_singleton.mp mem ▸ List.mem_cons_self)
    · exact .inr (List.mem_cons_of_mem _ mem)

theorem translated_array (xs : List Json) : translated (.array xs) = .array (xs.map translated) := by
  rw [translated, convertKeysToCamel, jsonMarshal, marshalItems_eq, convertItems_eq, List.map_map]
  rfl

/-- Where no two names are spelled alike, each field is there under the name that it gets. -/
theorem translated_object {fields : Json.Fields} (distinct : (fields.map fun e => camelName e.1).Nodup) :
    ∃ shown, translated (.object fields) = .object shown ∧
      shown.Perm (fields.map fun e => (camelName e.1, translated e.2)) := by
  have apart : ((convertFields fields).map Prod.fst).Nodup := by
    rw [convertFields_eq, List.map_map]
    apply List.Nodup.of_map shownName
    rw [List.map_map]
    exact distinct
  refine ⟨_, rfl, ?_⟩
  have kept : (convertFields fields).foldl assign [] = [] ++ convertFields fields := foldl_assign apart
  rw [kept, List.nil_append, marshalFields_eq, convertFields_eq, List.map_map]
  apply ((List.perm_insertionSort _ _).map _).trans
  rw [List.map_map]
  exact .refl _

/-! ## Names without underscores -/

theorem snakeToCamel_of_notMem {s : String} (none : '_' ∉ s.toList) : snakeToCamel s = s.toList.map .char := by
  rw [snakeToCamel, Separated.splitOn_eq_singleton.mpr ⟨rfl, none⟩]
  exact List.append_nil _

theorem camelName_of_notMem {s : String} (none : '_' ∉ s.toList) : camelName s = s := by
  rw [camelName, snakeToCamel_of_notMem none, shownName, List.map_map]
  have same : Rune.shown ∘ Rune.char = id := rfl
  rw [same, List.map_id, String.ofList_toList]

theorem toUpper_ne {c : Char} (small : c.toNat < 128) (other : c ≠ '_') : c.toUpper ≠ '_' := by
  have all : ∀ n < 128, Char.ofNat n ≠ '_' → (Char.ofNat n).toUpper ≠ '_' := by decide +kernel
  have own := all c.toNat small
  rw [Char.ofNat_toNat] at own
  exact own other

theorem notMem_title {part : List Char} (none : '_' ∉ part) : '_' ∉ (title part).map Rune.shown := by
  cases part with
  | nil => exact List.not_mem_nil
  | cons c rest =>
    obtain ⟨other, none⟩ := List.ne_and_not_mem_of_not_mem_cons none
    have same : Rune.shown ∘ Rune.char = id := rfl
    rw [title, List.map_append, List.map_map, same, List.map_id, List.mem_append, not_or]
    refine ⟨?_, none⟩
    split
    · rename_i small
      exact fun mem => toUpper_ne small (Ne.symm other) (List.mem_singleton.mp mem).symm
    · intro mem
      rw [List.map_cons, List.map_map, List.mem_cons] at mem
      obtain own | own := mem
      · exact absurd own (by decide)
      · obtain ⟨b, -, own⟩ := List.mem_map.mp own
        exact absurd own (show Char.ofNat 0xFFFD ≠ '_' by decide)

/-- No name keeps an underscore. -/
theorem notMem_camelName (s : String) : '_' ∉ (camelName s).toList := by
  rw [camelName, shownName, String.toList_ofList, snakeToCamel]
  split
  · exact List.not_mem_nil
  · rename_i first rest parts
    have none {part : List Char} (mem : part ∈ first :: rest) : '_' ∉ part :=
      Separated.notMem_of_mem_splitOn (parts ▸ mem)
    have same : Rune.shown ∘ Rune.char = id := rfl
    rw [List.map_append, List.map_map, same, List.map_id, List.mem_append, not_or]
    refine ⟨none List.mem_cons_self, fun mem => ?_⟩
    rw [List.map_flatMap, List.mem_flatMap] at mem
    obtain ⟨part, own, mem⟩ := mem
    exact notMem_title (none (List.mem_cons_of_mem _ own)) mem

def unscored (name : String) : Bool := '_' ∉ name.toList

mutual

theorem allNames_translated : ∀ d : Json, (translated d).allNames unscored = true
  | .null | .bool _ | .number _ | .string _ => rfl
  | .array xs => by
    rw [translated_array]
    exact allNames_map_translated xs
  | .object fields => by
    show Json.allNamesOf unscored ((sortByName (marshalFields ((convertFields fields).foldl assign []))).map
      fun e => (shownName e.1, e.2)) = true
    refine Json.allNamesOf_iff.mpr fun e mem => ?_
    obtain ⟨sorted, mem₁, rfl⟩ := List.mem_map.mp mem
    have mem₂ := (List.perm_insertionSort _ _).mem_iff.mp mem₁
    rw [marshalFields_eq] at mem₂
    obtain ⟨assigned, mem₃, rfl⟩ := List.mem_map.mp mem₂
    have mem₄ := (mem_foldl_assign mem₃).resolve_left List.not_mem_nil
    rw [convertFields_eq] at mem₄
    obtain ⟨own, mem₅, rfl⟩ := List.mem_map.mp mem₄
    exact ⟨decide_eq_true (notMem_camelName own.1), allNames_fields_translated fields own mem₅⟩

theorem allNames_map_translated : ∀ xs : List Json, Json.allNamesIn unscored (xs.map translated) = true
  | [] => rfl
  | x :: xs => by
    rw [List.map_cons, Json.allNamesIn, allNames_translated x, allNames_map_translated xs]
    rfl

theorem allNames_fields_translated : ∀ fields : List (String × Json), ∀ e ∈ fields,
    (translated e.2).allNames unscored = true
  | [], _, mem => by cases mem
  | (_, x) :: fields, e, mem => by
    obtain rfl | mem := List.mem_cons.mp mem
    · exact allNames_translated x
    · exact allNames_fields_translated fields e mem

end

/-! ## What is sent shows the message -/

theorem translated_enumDoc (names : List (Int32 × String)) (n : Int32) :
    translated (enumDoc names n) = enumDoc names n := by
  unfold enumDoc
  split <;> rfl

theorem forall₂_translated {α : Type} {R R' : α → Json → Prop} {vs : List α} {ds : List Json}
    (all : List.Forall₂ R vs ds) (each : ∀ a ∈ vs, ∀ d, R a d → R' a (translated d)) :
    List.Forall₂ R' vs (ds.map translated) := by
  induction all with
  | nil => exact .nil
  | cons own _ ih =>
    exact .cons (each _ List.mem_cons_self _ own) (ih fun a mem => each a (List.mem_cons_of_mem _ mem))

mutual

/-- A document keeps showing its message, under the names that the fields get, where no key of a map is spelled
otherwise. -/
theorem shows_translated : ∀ (k : Kind) (v : k.Value) (d : Json), k.all (Kind.distinct camelName) = true →
    (∀ key ∈ mapKeys k v, '_' ∉ key.toList) → Shows id k v d → Shows camelName k v (translated d)
  | .string, _, _, _, _, rfl | .int32, _, _, _, _, rfl | .int64, _, _, _, _, rfl | .bool, _, _, _, _, rfl => rfl
  | .enum names, n, _, _, _, rfl => translated_enumDoc names n
  | .repeated k, vs, _, distinct, keys, ⟨ds, rfl, all⟩ => by
    refine ⟨_, translated_array ds, forall₂_translated all fun v mem d => ?_⟩
    exact shows_translated k v d (Bool.and_eq_true_iff.mp distinct).2
      fun key own => keys key (List.mem_flatMap.mpr ⟨v, mem, own⟩)
  | .message fields, v, _, distinct, keys, ⟨shown, l, rfl, perm, each⟩ => by
    obtain ⟨names, rest⟩ := Bool.and_eq_true_iff.mp distinct
    have apart : (shown.map fun e => camelName e.1).Nodup := by
      have own : (fields.map fun e => camelName e.1).Nodup := of_decide_eq_true names
      have same : (l.map fun e => camelName e.1) = fields.map fun e => camelName e.1 := by
        have names := names_of_showsFields fields v l each
        have spelled := congrArg (List.map camelName) names
        rw [List.map_map, List.map_map] at spelled
        exact spelled
      exact (perm.map _).nodup_iff.mpr (same ▸ own)
    obtain ⟨res, same, perm'⟩ := translated_object apart
    exact ⟨res, _, same, perm'.trans (perm.map _), showsFields_translated fields v l rest keys each⟩
  | .map, m, _, _, keys, ⟨shown, rfl, perm⟩ => by
    have kept : ∀ e ∈ mapDoc m, (camelName e.1, translated e.2) = e := by
      intro e mem
      obtain ⟨e, own, rfl⟩ := List.mem_map.mp mem
      have none : '_' ∉ e.1.toList := keys e.1 (List.mem_map.mpr ⟨e, own, rfl⟩)
      exact congrArg (·, _) (camelName_of_notMem none)
    have apart : (shown.map fun e => camelName e.1).Nodup := by
      have own : ((mapDoc m).map fun e => camelName e.1) = m.entries.map Prod.fst :=
        (map_mapDoc m camelName).trans <| List.map_congr_left fun e mem =>
          camelName_of_notMem (keys e.1 (List.mem_map.mpr ⟨e, mem, rfl⟩))
      rw [(perm.map _).nodup_iff, own]
      exact m.sorted.imp fun low => ne_of_lt low
    obtain ⟨res, same, perm'⟩ := translated_object apart
    refine ⟨res, same, (perm'.trans (perm.map _)).trans ?_⟩
    rw [List.map_congr_left kept, List.map_id']

theorem showsFields_translated : ∀ (fields : List (String × Kind)) (v : FieldsValue fields) (l : Json.Fields),
    allOf (Kind.distinct camelName) fields = true → (∀ key ∈ mapKeysOf fields v, '_' ∉ key.toList) →
    ShowsFields id fields v l → ShowsFields camelName fields v (l.map fun e => (camelName e.1, translated e.2))
  | [], _, _, _, _, rfl => rfl
  | (_, k) :: fields, (v, vs), _, distinct, keys, ⟨d, rest, rfl, own, later⟩ => by
    obtain ⟨here, distinct⟩ := Bool.and_eq_true_iff.mp distinct
    obtain ⟨first, keys⟩ := List.forall_mem_append.mp keys
    exact ⟨_, _, rfl, shows_translated k v d here first own, showsFields_translated fields vs rest distinct keys later⟩

end

/-! ## The way in -/

/-- What camelToSnakeJSON does to a letter. -/
def spelling : Json.Spelling where
  behind c := c.isLower || c.isDigit
  letter c := ['_', c.toLower]

theorem camelToSnakeJSON_eq (body : List Char) : camelToSnakeJSON body = spelling.text body := by
  refine congrArg (fun replace => (camelToSnakeRe.pieces body).flatMap replace) (funext fun piece => ?_)
  cases piece <;> rfl

/-- A property of the twenty-six letters. -/
theorem upper_of_decide {P : Char → Prop} (all : ∀ i < 26, P (Char.ofNat (i + 65))) {c : Char}
    (upper : c.isUpper = true) : P c := by
  have upper : c.val ≥ 'A'.val ∧ c.val ≤ 'Z'.val := of_decide_eq_true upper
  have low : 65 ≤ c.toNat := UInt32.le_iff_toNat_le.mp upper.1
  have high : c.toNat ≤ 90 := UInt32.le_iff_toNat_le.mp upper.2
  have own := all (c.toNat - 65) (by omega)
  rwa [Nat.sub_add_cancel low, Char.ofNat_toNat] at own

theorem plain_spelling : spelling.Plain marshalByNumber where
  upper _ := upper_of_decide (P := fun c => marshalByNumber c = false) (by decide)
  letter _ upper := by
    have all := upper_of_decide
      (P := fun c => (spelling.letter c).all (fun d => Json.escape marshalByNumber d = [d]) = true) (by decide) upper
    simpa using all

theorem apart_spelling (c : Char) : c.isUpper = true → spelling.behind c = false :=
  upper_of_decide (P := fun c => spelling.behind c = false) (by decide)

/-- No request has a map, and each of its names is given back. -/
theorem returns_of_mem {k : Kind} (mem : k ∈ requests) :
    k.all (Kind.returns (spelling.string marshalByNumber) camelName) = true := by
  have all : requests.all (fun k => k.all (Kind.returns (spelling.string marshalByNumber) camelName)) = true := by
    decide +kernel
  exact List.all_eq_true.mp all k mem

theorem distinct_of_mem {k : Kind} (mem : k ∈ requests ++ responses) : k.all (Kind.distinct camelName) = true := by
  have all : (requests ++ responses).all (Kind.all (Kind.distinct camelName)) = true := by decide +kernel
  exact List.all_eq_true.mp all k mem

/-- What protojson is documented to do: it writes the fields of a message under their names, and reads them in any
order. -/
structure Documented (marshal : (k : Kind) → k.Value → Json) (unmarshal : (k : Kind) → List Char → Option k.Value) :
    Prop where
  shows : ∀ k v, Shows id k v (marshal k v)
  reads : ∀ k ∈ requests, ∀ v d, Shows id k v d → unmarshal k (d.write marshalByNumber) = some v

section
variable {marshal : (k : Kind) → k.Value → Json} {unmarshal : (k : Kind) → List Char → Option k.Value} {k : Kind}

/-- A message that is sent comes back with its strings spelled otherwise. -/
theorem protoUnmarshal_sent (documented : Documented marshal unmarshal) (mem : k ∈ requests) (v : k.Value) :
    protoUnmarshal unmarshal k (sent (protojsonMarshal marshal k v)) =
      some (mapStrings (spelling.string marshalByNumber) k v) := by
  have returns := returns_of_mem mem
  have distinct := distinct_of_mem (List.mem_append_left responses mem)
  have keys : ∀ key ∈ mapKeys k v, '_' ∉ key.toList := by
    rw [mapKeys_eq_nil k v returns]
    exact fun _ none => (by cases none)
  have out := shows_translated k v _ distinct keys (documented.shows k v)
  have numbers : (translated (marshal k v)).allNumbers Json.Numeric = true := out.numbers k v _
  have back := Shows.mapStrings Json.Spelling.string_format k v _ returns out
  have text : camelToSnakeJSON (sent (protojsonMarshal marshal k v)) =
      ((translated (marshal k v)).mapStrings (spelling.string marshalByNumber)).write marshalByNumber := by
    rw [camelToSnakeJSON_eq]
    exact Json.Spelling.text_write plain_spelling apart_spelling numbers
  rw [protoUnmarshal, text]
  exact documented.reads k mem _ _ back

/-- A request comes back as it was just if no string of it, as it is written, has an upper-case letter behind a
lower-case letter or a digit; an answer is sent with nothing but its fields spelled otherwise just if no key of a map
has an underscore. -/
theorem only_renames_iff (documented : Documented marshal unmarshal) :
    (∀ k ∈ requests, ∀ v : k.Value, protoUnmarshal unmarshal k (sent (protojsonMarshal marshal k v)) = some v ↔
      ∀ s ∈ strings k v, spelling.Kept (Json.writeString marshalByNumber s)) ∧
    ∀ k ∈ responses, ∀ v : k.Value, Shows camelName k v (jsonMarshal (protojsonMarshal marshal k v)) ↔
      ∀ key ∈ mapKeys k v, '_' ∉ key.toList := by
  constructor
  · intro k mem v
    have longer (c : Char) : 1 < (spelling.letter c).length := Nat.lt_add_one 1
    rw [protoUnmarshal_sent documented mem, Option.some_inj, mapStrings_eq_iff]
    exact forall₂_congr fun s _ => Json.Spelling.string_eq_iff plain_spelling longer s
  · intro k mem v
    constructor
    · intro shows key own
      exact of_decide_eq_true (Shows.mapKeys k v _ shows (allNames_translated _) key own)
    · intro keys
      exact shows_translated k v _ (distinct_of_mem (List.mem_append_right requests mem)) keys (documented.shows k v)

end

/-! ## A protojson as it is documented -/

theorem labelled_of_mem {k : Kind} (mem : k ∈ requests) : k.all (fun k => k.distinct id && k.labelled) = true := by
  have all : requests.all (Kind.all fun k => k.distinct id && k.labelled) = true := by decide +kernel
  exact List.all_eq_true.mp all k mem

open Classical in
/-- The message that a text shows, if it shows one. -/
noncomputable def read (k : Kind) (text : List Char) : Option k.Value :=
  if h : ∃ v d, Shows id k v d ∧ d.write marshalByNumber = text then some h.choose else none

theorem documented : Documented doc read where
  shows := shows_doc
  reads k mem v d shows := by
    have some' : ∃ w d', Shows id k w d' ∧ d'.write marshalByNumber = d.write marshalByNumber := ⟨v, d, shows, rfl⟩
    obtain ⟨d', shows', same⟩ := some'.choose_spec
    obtain ⟨rfl, -⟩ := (Json.write_eq_iff short_marshal short_marshal (shows'.numbers k _ _) (shows.numbers k v d)).mp same
    rw [read, dif_pos some', Shows.unique k _ v _ (labelled_of_mem mem) shows' shows]

namespace Till

def checkout : FinalizeCartRequest.Value := ("c-7", "+44 20 7946 0000", ())

def order (taxes : StringMap) : Order.Value :=
  ("o-1", "s-1", "k-1", "c-1", "17", (2 : Int32), (100 : Int64), (8 : Int64), (0 : Int64), (108 : Int64), [], taxes,
    ⟨[], .nil⟩, "", "", "", "", ())

def vat : StringMap where
  entries := [("VAT", "8")]
  sorted := by decide

theorem checkout_returns_and_vat_shown :
    protoUnmarshal read FinalizeCartRequest (sent (protojsonMarshal doc FinalizeCartRequest checkout)) = some checkout ∧
      Shows camelName Order (order vat) (jsonMarshal (protojsonMarshal doc Order (order vat))) :=
  ⟨((only_renames_iff documented).1 FinalizeCartRequest (by simp [requests]) checkout).mpr (by decide +kernel),
    ((only_renames_iff documented).2 Order (by simp [responses]) (order vat)).mpr (by decide)⟩

def payment : PaymentIntent.Value := ("p-1", "o-1", "k-1", "kioskA-1", (100 : Int64), "USD", (1 : Int32), false, ())

def taxes : StringMap where
  entries := [("salesTax", "10"), ("sales_tax", "8")]
  sorted := by decide

/-- The key `kioskA-1` comes back as `kiosk_a-1`, and two taxes are sent under one name. -/
theorem key_altered_and_taxes_collapsed :
    protoUnmarshal read PaymentIntent (sent (protojsonMarshal doc PaymentIntent payment)) ≠ some payment ∧
      jsonMarshal (protojsonMarshal doc .map taxes) = .object [("salesTax", .string "8")] ∧
      ¬ Shows camelName Order (order taxes) (jsonMarshal (protojsonMarshal doc Order (order taxes))) := by
  refine ⟨?_, rfl, fun shows => ?_⟩
  · rw [protoUnmarshal_sent documented (by simp [requests]), Ne, Option.some_inj, mapStrings_eq_iff]
    intro kept
    exact absurd (kept "kioskA-1" (by decide)) (by decide +kernel)
  · have own := Shows.mapKeys Order (order taxes) _ shows (allNames_translated _) "sales_tax" (by decide)
    exact absurd own (by decide)

end Till

end ApiGateway.Translation
