import AstraSystem.Lib.Runs
import Mathlib.Algebra.Ring.Int.Defs
import Mathlib.Logic.Function.Basic

/-!
# Reads of the API client (`state/apiClient.ts`)

Reads of one key share a request while it is in flight, and a response is kept for a while. An answer carries the version
of the server that gave it, so that answers can be compared. The time limit of a request ends with its headers.
-/

namespace Kiosk.ApiClient

/-! ## Calls -/

structure RequestConfig where
  timeoutMs : ℤ
  deduplicate : Bool
  cacheTtlMs : ℤ
  deriving DecidableEq, Repr

def readConfig : RequestConfig := ⟨15000, true, 30000⟩

def mutateConfig : RequestConfig := ⟨20000, false, 0⟩

def healthConfig : RequestConfig := ⟨5000, false, 0⟩

def menuConfig : RequestConfig := ⟨20000, true, 60000⟩

/-- The methods of the client, with the bodies that they make of their other arguments. -/
inductive Call
  | checkHealth
  | getMenuCatalog
  | getCart (cartId : String)
  | createCart (body : String)
  | addItemToCart (cartId body : String)
  | updateCart (cartId body : String)
  | checkoutCart (cartId body : String)
  | processPayment (body : String)
  | getOrder (orderId : String)
  | createOrder (body : String)
  | sendKioskHeartbeat (kioskId body : String)
  | getAnnouncements
  | adminLogin (body : String)
  | getAdminDashboard
  | p2pSync (body : String)
  | getDebugInfo
  deriving DecidableEq, Repr

namespace Call

def method : Call → String
  | checkHealth | getMenuCatalog | getCart _ | getOrder _ | getAnnouncements | getAdminDashboard | getDebugInfo => "GET"
  | updateCart _ _ => "PUT"
  | createCart _ | addItemToCart _ _ | checkoutCart _ _ | processPayment _ | createOrder _ | sendKioskHeartbeat _ _ |
    adminLogin _ | p2pSync _ => "POST"

def endpoint : Call → String
  | checkHealth => "/health"
  | getMenuCatalog => "/v1/menu"
  | getCart cartId => "/v1/carts/" ++ cartId
  | createCart _ => "/v1/carts"
  | addItemToCart cartId _ => "/v1/carts/" ++ cartId ++ "/items"
  | updateCart cartId _ => "/v1/carts/" ++ cartId
  | checkoutCart cartId _ => "/v1/carts/" ++ cartId ++ "/checkout"
  | processPayment _ => "/v1/payments"
  | getOrder orderId => "/v1/orders/" ++ orderId
  | createOrder _ => "/v1/orders"
  | sendKioskHeartbeat kioskId _ => "/v1/kiosks/" ++ kioskId ++ "/heartbeat"
  | getAnnouncements => "/v1/announcements"
  | adminLogin _ => "/v1/admin/auth/login"
  | getAdminDashboard => "/v1/admin/dashboard"
  | p2pSync _ => "/v1/p2p/sync"
  | getDebugInfo => "/v1/debug/info"

def body : Call → Option String
  | checkHealth | getMenuCatalog | getCart _ | getOrder _ | getAnnouncements | getAdminDashboard | getDebugInfo => none
  | createCart body | addItemToCart _ body | updateCart _ body | checkoutCart _ body | processPayment body |
    createOrder body | sendKioskHeartbeat _ body | adminLogin body | p2pSync body => some body

def config : Call → RequestConfig
  | checkHealth => healthConfig
  | getMenuCatalog => menuConfig
  | getCart _ | getOrder _ | getAnnouncements | getAdminDashboard | getDebugInfo => readConfig
  | createCart _ | addItemToCart _ _ | updateCart _ _ | createOrder _ | adminLogin _ | p2pSync _ => mutateConfig
  | checkoutCart _ _ | processPayment _ => ⟨30000, false, 0⟩
  | sendKioskHeartbeat _ _ => ⟨5000, true, 0⟩

end Call

def cacheKey (method endpoint : String) (body : Option String) : String :=
  method ++ ":" ++ endpoint ++
    match body with
    | some body => if body = "" then "" else ":" ++ body
    | none => ""

def Call.key (c : Call) : String := cacheKey c.method c.endpoint c.body

/-- A response to it is kept. -/
def Call.Kept (c : Call) : Prop := 0 < c.config.cacheTtlMs

theorem Call.kept_getMenuCatalog : getMenuCatalog.Kept := by
  simp [Call.Kept, Call.config, menuConfig]

theorem Call.take_key_of_kept {c : Call} (kept : c.Kept) : c.key.toList.take 7 = "GET:/v1".toList := by
  cases c with
  | getMenuCatalog | getCart | getOrder | getAnnouncements | getAdminDashboard | getDebugInfo =>
    simp [Call.key, cacheKey, Call.method, Call.endpoint, Call.body]
  | _ => simp [Call.Kept, Call.config, healthConfig, mutateConfig] at kept

theorem Call.config_of_take_key {c : Call} (h : c.key.toList.take 7 = "GET:/v1".toList) :
    c.config = if c.key.toList.take 9 = "GET:/v1/m".toList then menuConfig else readConfig := by
  cases c <;> simp [Call.key, cacheKey, Call.method, Call.endpoint, Call.body, Call.config] at h ⊢

/-- What is kept under a key is asked for in one way. -/
theorem Call.config_eq_of_key {c c' : Call} (kept : c.Kept) (same : c'.key = c.key) : c'.config = c.config := by
  have own := take_key_of_kept kept
  rw [config_of_take_key own, config_of_take_key (same ▸ own), same]

/-! ## The client -/

/-- What the server says, and in which of its versions. -/
structure Answer (D : Type*) where
  data : D
  version : ℕ
  deriving DecidableEq, Repr

/-- A response: data, or a status that is no success. -/
inductive Reply (D : Type*)
  | ok (answer : Answer D)
  | refused
  deriving DecidableEq, Repr

/-- How far a request is: on its way, handled by the server, or its headers are there and its time limit is off. -/
inductive Phase (D : Type*)
  | asked
  | answered (reply : Reply D)
  | arriving (reply : Reply D)
  deriving DecidableEq, Repr

structure Fetch (D : Type*) where
  call : Call
  token : Option String
  phase : Phase D
  deriving DecidableEq, Repr

structure CacheEntry (D : Type*) where
  answer : Answer D
  expiresAt : ℤ
  deriving DecidableEq, Repr

/-- What the callers of a key are given, and until when it was kept if it was kept. -/
structure Given (D : Type*) where
  key : String
  answer : Answer D
  now : ℤ
  expiresAt : Option ℤ
  deriving DecidableEq, Repr

structure State (D : Type*) where
  version : ℕ := 0
  authToken : Option String := none
  responseCache : String → Option (CacheEntry D) := fun _ => none
  inflightRequests : String → Option ℕ := fun _ => none
  fetches : ℕ → Option (Fetch D) := fun _ => none
  next : ℕ := 0
  given : List (Given D) := []

variable {D : Type*}

/-- What the server has answered. -/
def Phase.answer? : Phase D → Option (Answer D)
  | .answered (.ok answer) | .arriving (.ok answer) => some answer
  | .asked | .answered .refused | .arriving .refused => none

namespace State

variable (s : State D)

/-- `getCached`, which drops what has expired. -/
def sweep (key : String) (now : ℤ) : State D :=
  match s.responseCache key with
  | some entry =>
    if now > entry.expiresAt then { s with responseCache := Function.update s.responseCache key none } else s
  | none => s

def give (given : Given D) : State D := { s with given := s.given ++ [given] }

def setCache (key : String) (answer : Answer D) (now ttlMs : ℤ) : State D :=
  if ttlMs ≤ 0 then s
  else { s with responseCache := Function.update s.responseCache key (some ⟨answer, now + ttlMs⟩) }

/-- A request is sent. -/
def start (c : Call) : State D :=
  { s with
    fetches := Function.update s.fetches s.next (some ⟨c, s.authToken, .asked⟩)
    next := s.next + 1
    inflightRequests :=
      if c.config.deduplicate then Function.update s.inflightRequests c.key (some s.next) else s.inflightRequests }

/-- The caller waits for a request of the key that is in flight, or for one of its own. -/
def join (c : Call) : State D :=
  if c.config.deduplicate ∧ (s.inflightRequests c.key).isSome then s else s.start c

/-- `request`. What is kept is given only if it is `truthy`. -/
def request (truthy : D → Bool) (c : Call) (now : ℤ) : State D :=
  if c.method = "GET" ∧ 0 < c.config.cacheTtlMs then
    match (s.sweep c.key now).responseCache c.key with
    | some entry =>
      if truthy entry.answer.data then (s.sweep c.key now).give ⟨c.key, entry.answer, now, some entry.expiresAt⟩
      else (s.sweep c.key now).join c
    | none => (s.sweep c.key now).join c
  else s.join c

/-- The request is over, whatever has come of it. -/
def finish (i : ℕ) (c : Call) : State D :=
  { s with
    fetches := Function.update s.fetches i none
    inflightRequests :=
      if c.config.deduplicate then Function.update s.inflightRequests c.key none else s.inflightRequests }

/-- The body is there, and is JSON or not. -/
def settle (i : ℕ) (f : Fetch D) (reply : Reply D) (now : ℤ) (parses : Bool) : State D :=
  match reply, parses with
  | .ok answer, true =>
    ((s.give ⟨f.call.key, answer, now, none⟩).setCache f.call.key answer now f.call.config.cacheTtlMs).finish i f.call
  | _, _ => s.finish i f.call

def setPhase (i : ℕ) (f : Fetch D) (phase : Phase D) : State D :=
  { s with fetches := Function.update s.fetches i (some { f with phase }) }

end State

/-- What callers, the server and the network do. The server may change at any time; `fails` is the network's. -/
inductive Act (D : Type*)
  | request (c : Call) (now : ℤ)
  | setAuthToken (token : Option String)
  | change
  | serve (i : ℕ) (reply : Option D)
  | headers (i : ℕ)
  | body (i : ℕ) (now : ℤ) (parses : Bool)
  | timeout (i : ℕ)
  | fails (i : ℕ)
  deriving DecidableEq, Repr

/-- What an act does to the request it is about. -/
def State.onFetch (s : State D) (f : Fetch D) : Act D → State D
  | .serve i reply =>
    match f.phase with
    | .asked => s.setPhase i f (.answered (match reply with | some data => .ok ⟨data, s.version⟩ | none => .refused))
    | _ => s
  | .headers i =>
    match f.phase with
    | .answered reply => s.setPhase i f (.arriving reply)
    | _ => s
  | .body i now parses =>
    match f.phase with
    | .arriving reply => s.settle i f reply now parses
    | _ => s
  | .timeout i =>
    match f.phase with
    | .asked | .answered _ => s.finish i f.call
    | .arriving _ => s
  | .fails i => s.finish i f.call
  | .request _ _ | .setAuthToken _ | .change => s

def Act.about : Act D → Option ℕ
  | .serve i _ | .headers i | .body i _ _ | .timeout i | .fails i => some i
  | .request _ _ | .setAuthToken _ | .change => none

def step (truthy : D → Bool) (s : State D) (a : Act D) : State D :=
  match a with
  | .request c now => s.request truthy c now
  | .setAuthToken token => { s with authToken := token }
  | .change => { s with version := s.version + 1 }
  | a =>
    match a.about.bind s.fetches with
    | some f => s.onFetch f a
    | none => s

/-- What is about a request that is not there changes nothing. -/
theorem step_about (truthy : D → Bool) (s : State D) {a : Act D} {i : ℕ} (about : a.about = some i) :
    step truthy s a = (s.fetches i).elim s fun f => s.onFetch f a := by
  cases a with
  | request | setAuthToken | change => cases about
  | serve | headers | body | timeout | fails =>
    cases about
    unfold step
    cases found : s.fetches i <;> simp only [Act.about, Option.bind_some, found, Option.elim]

/-! ## Versions -/

/-- What was given, what is kept, what is on its way and what the server has now, in this order of age. -/
def InOrder (given : List ℕ) (kept flying : Option ℕ) (version : ℕ) : Prop :=
  (given ++ kept.toList ++ flying.toList ++ [version]).Pairwise (· ≤ ·)

namespace InOrder

variable {given : List ℕ} {kept flying : Option ℕ} {version : ℕ}

theorem start : InOrder [] none none version := List.pairwise_singleton _ _

theorem of_eq {given' : List ℕ} {kept' flying' : Option ℕ} (h : InOrder given kept flying version)
    (sameGiven : given' = given) (sameKept : kept' = kept) (sameFlying : flying' = flying) :
    InOrder given' kept' flying' version := by
  rwa [sameGiven, sameKept, sameFlying]

theorem given_le (h : InOrder given kept flying version) : given.Pairwise (· ≤ ·) := by
  simp only [InOrder, List.append_assoc] at h
  exact (List.pairwise_append.mp h).1

theorem drop_kept (h : InOrder given kept flying version) : InOrder given none flying version := by
  apply List.Pairwise.sublist _ h
  simp only [List.append_assoc, Option.toList_none, List.nil_append]
  exact (List.Sublist.refl given).append (List.sublist_append_right ..)

theorem drop_flying (h : InOrder given kept flying version) : InOrder given kept none version := by
  apply List.Pairwise.sublist _ h
  simp only [List.append_assoc, Option.toList_none, List.nil_append]
  exact (List.Sublist.refl given).append ((List.Sublist.refl kept.toList).append (List.sublist_append_right ..))

theorem change (h : InOrder given kept flying version) : InOrder given kept flying (version + 1) := by
  simp only [InOrder, List.pairwise_append, List.mem_singleton, List.pairwise_singleton, true_and] at h ⊢
  refine ⟨h.1, ?_⟩
  rintro a mem b rfl
  exact Nat.le_succ_of_le (h.2 a mem version rfl)

theorem served (h : InOrder given kept none version) : InOrder given kept (some version) version := by
  simp only [InOrder, Option.toList_none, Option.toList_some, List.append_nil, List.pairwise_append,
    List.mem_append, List.mem_singleton, List.pairwise_singleton, true_and] at h ⊢
  refine ⟨h, ?_⟩
  rintro a (mem | rfl) b rfl
  · exact h.2 a mem b rfl
  · exact Nat.le_refl _

/-- What is kept is given again. -/
theorem again {v : ℕ} (h : InOrder given (some v) flying version) : InOrder (given ++ [v]) (some v) flying version := by
  simp only [InOrder, Option.toList_some, List.append_assoc, List.singleton_append] at h ⊢
  rw [List.pairwise_append] at h ⊢
  refine ⟨h.1, ?_, ?_⟩
  · exact List.pairwise_cons.mpr ⟨fun b mem => (List.mem_cons.mp mem).elim (fun same => same ▸ Nat.le_refl _)
      ((List.pairwise_cons.mp h.2.1).1 b), h.2.1⟩
  · intro a mem b mem'
    exact h.2.2 a mem b (by simpa using mem')

/-- What was on its way is given, and kept. -/
theorem settle {v : ℕ} (h : InOrder given kept (some v) version) : InOrder (given ++ [v]) (some v) none version := by
  apply again
  apply drop_kept at h
  simpa [InOrder] using h

end InOrder

namespace State

variable (s : State D) (key : String)

/-- The answers that callers of the key were given, the one that is kept, and the one that is on its way. -/
def answers : List ℕ := (s.given.filter fun g => g.key = key).map fun g => g.answer.version

def kept : Option ℕ := (s.responseCache key).map fun entry => entry.answer.version

def flying : Option ℕ :=
  (s.inflightRequests key).bind fun i => (s.fetches i).bind fun f => f.phase.answer?.map Answer.version

/-- The answer came from the server under the key, and is to be kept until then. -/
def FromServer (c : Call) (answer : Answer D) (until' : ℤ) : Prop :=
  ∃ g ∈ s.given, g.key = c.key ∧ g.expiresAt = none ∧ g.answer = answer ∧ until' = g.now + c.config.cacheTtlMs

end State

/-- Requests of the key are in flight one at a time, and its answers are in order. -/
structure Inv (c : Call) (s : State D) : Prop where
  flight : ∀ i, s.inflightRequests c.key = some i ↔ ∃ f, s.fetches i = some f ∧ f.call.key = c.key
  below : ∀ i f, s.fetches i = some f → i < s.next
  inOrder : InOrder (s.answers c.key) (s.kept c.key) (s.flying c.key) s.version
  kept : ∀ entry, s.responseCache c.key = some entry → s.FromServer c entry.answer entry.expiresAt
  given : ∀ g ∈ s.given, g.key = c.key → ∀ t, g.expiresAt = some t → g.now ≤ t ∧ s.FromServer c g.answer t

theorem Call.deduplicate_of_kept {c : Call} (kept : c.Kept) : c.config.deduplicate = true := by
  cases c <;> first | rfl | simp [Call.Kept, Call.config, healthConfig, mutateConfig] at kept

section
variable {c : Call} {s : State D}

theorem Inv.empty : Inv c ({} : State D) where
  flight i := by simp
  below i f h := by cases h
  inOrder := InOrder.start
  kept entry h := by cases h
  given g h := by cases h

theorem State.FromServer.mono {s' : State D} {answer : Answer D} {t : ℤ} (h : s.FromServer c answer t)
    (grown : ∀ g ∈ s.given, g ∈ s'.given) : s'.FromServer c answer t := by
  obtain ⟨g, mem, rest⟩ := h
  exact ⟨g, grown g mem, rest⟩

theorem sweep_cases (key : String) (now : ℤ) :
    s.sweep key now = s ∨
      s.sweep key now = { s with responseCache := Function.update s.responseCache key none } := by
  unfold State.sweep
  split
  · split
    · exact .inr rfl
    · exact .inl rfl
  · exact .inl rfl

/-- What has expired changes no order. -/
theorem Inv.sweep (h : Inv c s) (key : String) (now : ℤ) : Inv c (s.sweep key now) := by
  obtain same | swept := sweep_cases (s := s) key now
  · rwa [same]
  · rw [swept]
    by_cases own : c.key = key
    · subst own
      refine ⟨h.flight, h.below, h.inOrder.drop_kept.of_eq rfl (by simp [State.kept]) rfl, ?_, h.given⟩
      intro entry found
      simp at found
    · refine ⟨h.flight, h.below, h.inOrder.of_eq rfl (by simp [State.kept, own]) rfl, ?_, h.given⟩
      intro entry found
      simp only [Function.update_of_ne own] at found
      exact h.kept entry found

theorem of_mem_sweep {key : String} {now : ℤ} {entry : CacheEntry D}
    (found : (s.sweep key now).responseCache key = some entry) : now ≤ entry.expiresAt := by
  unfold State.sweep at found
  split at found
  · rename_i old has
    split at found
    · simp at found
    · rename_i young
      rw [has] at found
      cases found
      omega
  · rename_i none
    rw [none] at found
    cases found

/-- What is kept is given. -/
theorem Inv.give (h : Inv c s) {key : String} {now : ℤ} {entry : CacheEntry D}
    (found : s.responseCache key = some entry) (young : now ≤ entry.expiresAt) :
    Inv c (s.give ⟨key, entry.answer, now, some entry.expiresAt⟩) := by
  have grown : ∀ g ∈ s.given, g ∈ s.given ++ [⟨key, entry.answer, now, some entry.expiresAt⟩] :=
    fun g mem => List.mem_append_left _ mem
  refine ⟨h.flight, h.below, ?_, fun e has => (h.kept e has).mono grown, ?_⟩
  · by_cases own : key = c.key
    · have same : s.kept c.key = some entry.answer.version := by simp [State.kept, ← own, found]
      have order := h.inOrder
      rw [same] at order
      exact order.again.of_eq (by simp [State.answers, State.give, own]) same rfl
    · exact h.inOrder.of_eq (by simp [State.answers, State.give, own]) rfl rfl
  · intro g mem own t until'
    rcases List.mem_append.mp mem with mem | mem
    · obtain ⟨le, source⟩ := h.given g mem own t until'
      exact ⟨le, source.mono grown⟩
    · obtain rfl := List.mem_singleton.mp mem
      cases until'
      cases own
      exact ⟨young, (h.kept entry found).mono grown⟩

theorem Inv.start (h : Inv c s) (kept : c.Kept) {c' : Call}
    (free : c'.config.deduplicate = true → s.inflightRequests c'.key = none) : Inv c (s.start c') := by
  have unused : s.fetches s.next = none := by
    cases found : s.fetches s.next with
    | none => rfl
    | some f => exact absurd (h.below _ f found) (Nat.lt_irrefl _)
  have below : ∀ i f, (s.start c').fetches i = some f → i < (s.start c').next := by
    intro i f found
    by_cases new : i = s.next
    · exact new ▸ Nat.lt_succ_self _
    · simp only [State.start, Function.update_of_ne new] at found
      exact Nat.lt_succ_of_lt (h.below i f found)
  by_cases own : c'.key = c.key
  · have dedup : c'.config.deduplicate = true := by
      rw [Call.config_eq_of_key kept own]
      exact Call.deduplicate_of_kept kept
    have grounded := free dedup
    rw [own] at grounded
    refine ⟨?_, below, ?_, h.kept, h.given⟩
    · intro i
      by_cases new : i = s.next
      · subst new
        simp [State.start, dedup, own]
      · have none := (h.flight i).not.mp (by simp [grounded])
        simpa [State.start, dedup, own, Function.update_of_ne new, Ne.symm new] using none
    · exact h.inOrder.drop_flying.of_eq rfl rfl (by simp [State.flying, State.start, dedup, own, Phase.answer?])
  · have same : (s.start c').inflightRequests c.key = s.inflightRequests c.key := by
      simp only [State.start]
      split
      · exact Function.update_of_ne (Ne.symm own) ..
      · rfl
    refine ⟨?_, below, h.inOrder.of_eq rfl rfl ?_, h.kept, h.given⟩
    · intro i
      rw [same, h.flight]
      by_cases new : i = s.next
      · subst new
        simp [State.start, unused, own]
      · simp [State.start, Function.update_of_ne new]
    · rw [State.flying, same, State.flying]
      cases flies : s.inflightRequests c.key with
      | none => rfl
      | some i =>
        obtain ⟨f, found, -⟩ := (h.flight i).mp flies
        have older : i ≠ s.next := Nat.ne_of_lt (h.below i f found)
        simp [State.start, Function.update_of_ne older]

theorem Inv.join (h : Inv c s) (kept : c.Kept) (c' : Call) : Inv c (s.join c') := by
  unfold State.join
  split
  · exact h
  · rename_i alone
    apply h.start kept
    intro dedup
    simpa [dedup] using alone

theorem Inv.request (h : Inv c s) (kept : c.Kept) (truthy : D → Bool) (c' : Call) (now : ℤ) :
    Inv c (s.request truthy c' now) := by
  unfold State.request
  have swept := h.sweep c'.key now
  split
  · split
    · rename_i entry found
      split
      · exact swept.give found (of_mem_sweep found)
      · exact swept.join kept c'
    · exact swept.join kept c'
  · exact h.join kept c'

/-! ## A request in flight -/

variable {i : ℕ} {f : Fetch D}

theorem Inv.flying_of_own (h : Inv c s) (found : s.fetches i = some f) (own : f.call.key = c.key) :
    s.inflightRequests c.key = some i ∧ s.flying c.key = f.phase.answer?.map Answer.version := by
  have flies := (h.flight i).mpr ⟨f, found, own⟩
  exact ⟨flies, by simp [State.flying, flies, found]⟩

/-- What is in flight for the key is another request. -/
theorem Inv.ne_of_foreign (h : Inv c s) (found : s.fetches i = some f) (foreign : f.call.key ≠ c.key) {j : ℕ}
    (flies : s.inflightRequests c.key = some j) : j ≠ i := by
  rintro rfl
  obtain ⟨g, found', own⟩ := (h.flight j).mp flies
  rw [found] at found'
  cases found'
  exact foreign own

theorem fetches_finish_of_ne {j : ℕ} (s : State D) (c : Call) (h : j ≠ i) :
    (s.finish i c).fetches j = s.fetches j :=
  Function.update_of_ne h ..

/-- Without it, no request of its key is in flight, and those of the others still are. -/
theorem Inv.flight_finish (h : Inv c s) (kept : c.Kept) (found : s.fetches i = some f) (j : ℕ) :
    (s.finish i f.call).inflightRequests c.key = some j ↔
      ∃ g, (s.finish i f.call).fetches j = some g ∧ g.call.key = c.key := by
  by_cases own : f.call.key = c.key
  · have dedup : f.call.config.deduplicate = true := by
      rw [Call.config_eq_of_key kept own]
      exact Call.deduplicate_of_kept kept
    simp only [State.finish, dedup, if_true, own, Function.update_self, reduceCtorEq, false_iff]
    rintro ⟨g, found', own'⟩
    by_cases this : j = i
    · subst this
      simp at found'
    · rw [Function.update_of_ne this] at found'
      have flies := (h.flight j).mpr ⟨g, found', own'⟩
      rw [(h.flying_of_own found own).1] at flies
      exact this (Option.some.inj flies).symm
  · have same : (s.finish i f.call).inflightRequests c.key = s.inflightRequests c.key := by
      simp only [State.finish]
      split
      · exact Function.update_of_ne (Ne.symm own) ..
      · rfl
    rw [same]
    constructor
    · intro flies
      rw [fetches_finish_of_ne s f.call (h.ne_of_foreign found own flies)]
      exact (h.flight j).mp flies
    · rintro ⟨g, found', own'⟩
      by_cases this : j = i
      · subst this
        simp [State.finish] at found'
      · rw [fetches_finish_of_ne s f.call this] at found'
        exact (h.flight j).mpr ⟨g, found', own'⟩

theorem Inv.below_finish (h : Inv c s) (c' : Call) (j : ℕ) (g : Fetch D)
    (found : (s.finish i c').fetches j = some g) : j < s.next := by
  by_cases this : j = i
  · subst this
    simp [State.finish] at found
  · rw [fetches_finish_of_ne s c' this] at found
    exact h.below j g found

theorem Inv.flying_finish (h : Inv c s) (kept : c.Kept) (found : s.fetches i = some f) :
    (s.finish i f.call).flying c.key = if f.call.key = c.key then none else s.flying c.key := by
  have flight := h.flight_finish kept found
  split
  · rename_i own
    have none : (s.finish i f.call).inflightRequests c.key = none := by
      rw [Option.eq_none_iff_forall_ne_some]
      intro j flies
      obtain ⟨g, found', own'⟩ := (flight j).mp flies
      by_cases this : j = i
      · subst this
        simp [State.finish] at found'
      · rw [fetches_finish_of_ne s f.call this] at found'
        have other := (h.flight j).mpr ⟨g, found', own'⟩
        rw [(h.flying_of_own found own).1] at other
        exact this (Option.some.inj other).symm
    simp [State.flying, none]
  · rename_i foreign
    have same : (s.finish i f.call).inflightRequests c.key = s.inflightRequests c.key := by
      simp only [State.finish]
      split
      · exact Function.update_of_ne (Ne.symm foreign) ..
      · rfl
    rw [State.flying, same, State.flying]
    cases flies : s.inflightRequests c.key with
    | none => rfl
    | some j => simp [fetches_finish_of_ne s f.call (h.ne_of_foreign found foreign flies)]

theorem Inv.finish (h : Inv c s) (kept : c.Kept) (found : s.fetches i = some f) : Inv c (s.finish i f.call) := by
  refine ⟨h.flight_finish kept found, h.below_finish f.call, ?_, h.kept, h.given⟩
  have flying := h.flying_finish kept found
  split at flying
  · exact h.inOrder.drop_flying.of_eq rfl rfl flying
  · exact h.inOrder.of_eq rfl rfl flying

theorem Inv.setPhase (h : Inv c s) (found : s.fetches i = some f) (phase : Phase D)
    (order : f.call.key = c.key →
      InOrder (s.answers c.key) (s.kept c.key) (phase.answer?.map Answer.version) s.version) :
    Inv c (s.setPhase i f phase) := by
  have flight (j : ℕ) : (∃ g, (s.setPhase i f phase).fetches j = some g ∧ g.call.key = c.key) ↔
      ∃ g, s.fetches j = some g ∧ g.call.key = c.key := by
    by_cases this : j = i
    · subst this
      simp [State.setPhase, found]
    · simp [State.setPhase, Function.update_of_ne this]
  refine ⟨fun j => (h.flight j).trans (flight j).symm, ?_, ?_, h.kept, h.given⟩
  · intro j g found'
    by_cases this : j = i
    · exact h.below j f (this ▸ found)
    · simp only [State.setPhase, Function.update_of_ne this] at found'
      exact h.below j g found'
  · by_cases own : f.call.key = c.key
    · have flies := (h.flying_of_own found own).1
      exact (order own).of_eq rfl rfl (by simp [State.flying, State.setPhase, flies])
    · refine h.inOrder.of_eq rfl rfl ?_
      rw [State.flying, State.flying]
      cases flies : s.inflightRequests c.key with
      | none => simp [State.setPhase, flies]
      | some j => simp [State.setPhase, flies, Function.update_of_ne (h.ne_of_foreign found own flies)]

theorem setCache_cases (s : State D) (key : String) (answer : Answer D) (now ttlMs : ℤ) :
    s.setCache key answer now ttlMs = s ∧ ttlMs ≤ 0 ∨
      s.setCache key answer now ttlMs =
        { s with responseCache := Function.update s.responseCache key (some ⟨answer, now + ttlMs⟩) } ∧ 0 < ttlMs := by
  unfold State.setCache
  split
  · exact .inl ⟨rfl, by assumption⟩
  · exact .inr ⟨rfl, by omega⟩

/-- Giving and keeping an answer of another key. -/
theorem Inv.other (h : Inv c s) {key : String} (foreign : key ≠ c.key) (answer : Answer D) (now ttlMs : ℤ) :
    Inv c ((s.give ⟨key, answer, now, none⟩).setCache key answer now ttlMs) := by
  have grown : ∀ g ∈ s.given, g ∈ s.given ++ [⟨key, answer, now, none⟩] := fun g mem => List.mem_append_left _ mem
  have given : Inv c (s.give ⟨key, answer, now, none⟩) := by
    refine ⟨h.flight, h.below, h.inOrder.of_eq (by simp [State.answers, State.give, foreign]) rfl rfl,
      fun e has => (h.kept e has).mono grown, ?_⟩
    intro g mem own t until'
    rcases List.mem_append.mp mem with mem | mem
    · obtain ⟨le, source⟩ := h.given g mem own t until'
      exact ⟨le, source.mono grown⟩
    · obtain rfl := List.mem_singleton.mp mem
      exact absurd own foreign
  obtain ⟨same, -⟩ | ⟨set, -⟩ := setCache_cases (s.give ⟨key, answer, now, none⟩) key answer now ttlMs
  · rwa [same]
  · rw [set]
    have elsewhere : c.key ≠ key := Ne.symm foreign
    refine ⟨given.flight, given.below, given.inOrder.of_eq rfl (by simp [State.kept, elsewhere]) rfl, ?_, given.given⟩
    intro entry found
    simp only [Function.update_of_ne elsewhere] at found
    exact given.kept entry found

theorem Inv.settle (h : Inv c s) (kept : c.Kept) (found : s.fetches i = some f) {reply : Reply D}
    (phase : f.phase = .arriving reply) (now : ℤ) (parses : Bool) : Inv c (s.settle i f reply now parses) := by
  unfold State.settle
  split
  · rename_i answer
    by_cases own : f.call.key = c.key
    · have flying := (h.flying_of_own found own).2
      rw [phase] at flying
      have order := h.inOrder
      rw [flying] at order
      have config := Call.config_eq_of_key kept own
      have grown : ∀ g ∈ s.given, g ∈ s.given ++ [⟨f.call.key, answer, now, none⟩] :=
        fun g mem => List.mem_append_left _ mem
      have new : (⟨f.call.key, answer, now, none⟩ : Given D) ∈ s.given ++ [⟨f.call.key, answer, now, none⟩] :=
        List.mem_append_right _ List.mem_cons_self
      obtain ⟨-, never⟩ | ⟨set, -⟩ := setCache_cases (s.give ⟨f.call.key, answer, now, none⟩) f.call.key answer now
        f.call.config.cacheTtlMs
      · rw [config] at never
        unfold Call.Kept at kept
        omega
      · rw [set]
        refine ⟨h.flight_finish kept found, h.below_finish f.call, ?_, ?_, ?_⟩
        · have landed := h.flying_finish kept found
          rw [if_pos own] at landed
          refine order.settle.of_eq ?_ ?_ landed
          · simp [State.answers, State.finish, State.give, own]
          · simp [State.kept, State.finish, own]
        · intro entry has
          simp only [State.finish, own, Function.update_self] at has
          cases has
          exact ⟨_, new, own, rfl, rfl, by rw [config]⟩
        · intro g mem key t until'
          rcases List.mem_append.mp mem with mem | mem
          · obtain ⟨le, source⟩ := h.given g mem key t until'
            exact ⟨le, source.mono grown⟩
          · obtain rfl := List.mem_singleton.mp mem
            cases until'
    · apply (h.other own answer now f.call.config.cacheTtlMs).finish kept
      obtain ⟨same, -⟩ | ⟨set, -⟩ := setCache_cases (s.give ⟨f.call.key, answer, now, none⟩) f.call.key answer now
        f.call.config.cacheTtlMs
      · rw [same]
        exact found
      · rw [set]
        exact found
  · exact h.finish kept found

theorem Inv.onFetch (h : Inv c s) (kept : c.Kept) (found : s.fetches i = some f) {a : Act D} (about : a.about = some i) :
    Inv c (s.onFetch f a) := by
  cases a with
  | request | setAuthToken | change => cases about
  | serve j reply =>
    cases about
    unfold State.onFetch
    cases phase : f.phase with
    | asked =>
      apply h.setPhase found
      intro own
      have flying := (h.flying_of_own found own).2
      rw [phase] at flying
      have order := h.inOrder.of_eq rfl rfl (show none = _ from flying.symm)
      cases reply with
      | none => exact order
      | some data => exact order.served
    | answered | arriving => exact h
  | headers j =>
    cases about
    unfold State.onFetch
    cases phase : f.phase with
    | answered reply =>
      apply h.setPhase found
      intro own
      have flying := (h.flying_of_own found own).2
      rw [phase] at flying
      exact h.inOrder.of_eq rfl rfl (by rw [flying]; cases reply <;> rfl)
    | asked | arriving => exact h
  | body j now parses =>
    cases about
    unfold State.onFetch
    cases phase : f.phase with
    | arriving reply => exact h.settle kept found phase now parses
    | asked | answered => exact h
  | timeout j =>
    cases about
    unfold State.onFetch
    cases phase : f.phase with
    | asked | answered => exact h.finish kept found
    | arriving => exact h
  | fails j =>
    cases about
    exact h.finish kept found

theorem Inv.step (h : Inv c s) (kept : c.Kept) (truthy : D → Bool) (a : Act D) : Inv c (step truthy s a) := by
  have fetch (i : ℕ) (about : a.about = some i) : Inv c (Kiosk.ApiClient.step truthy s a) := by
    rw [step_about truthy s about]
    cases found : s.fetches i with
    | none => exact h
    | some f => exact h.onFetch kept found about
  cases a with
  | request c' now => exact h.request kept truthy c' now
  | setAuthToken => exact ⟨h.flight, h.below, h.inOrder, h.kept, h.given⟩
  | change => exact ⟨h.flight, h.below, h.inOrder.change, h.kept, h.given⟩
  | serve i | headers i | body i | timeout i | fails i => exact fetch i rfl

end

theorem inv_run {c : Call} (kept : c.Kept) (truthy : D → Bool) (acts : List (Act D)) :
    Inv c (Runs.run (step truthy) {} acts) :=
  Runs.run_inv (fun _ a h => h.step kept truthy a) Inv.empty acts

/-- However calls, the server and the network interleave, the requests of a key whose responses are kept are in flight
one at a time, what its callers are given never goes back to an older version of the server, and what they are given
from the cache came from the server within its time to live. -/
theorem reads_never_go_back (truthy : D → Bool) (acts : List (Act D)) {c : Call} (kept : c.Kept) :
    let s := Runs.run (step truthy) {} acts
    (∀ i j f g, s.fetches i = some f → s.fetches j = some g → f.call.key = c.key → g.call.key = c.key → i = j) ∧
    (s.answers c.key).Pairwise (· ≤ ·) ∧
    ∀ g ∈ s.given, g.key = c.key → g.expiresAt = none ∨
      ∃ g' ∈ s.given, g'.key = c.key ∧ g'.expiresAt = none ∧ g'.answer = g.answer ∧
        g.now ≤ g'.now + c.config.cacheTtlMs := by
  intro s
  have h := inv_run kept truthy acts
  refine ⟨?_, h.inOrder.given_le, ?_⟩
  · intro i j f g found found' own own'
    have flies := (h.flight i).mpr ⟨f, found, own⟩
    rw [(h.flight j).mpr ⟨g, found', own'⟩] at flies
    exact (Option.some.inj flies).symm
  · intro g mem own
    cases t : g.expiresAt with
    | none => exact .inl rfl
    | some t' =>
      obtain ⟨le, g', mem', key, fresh, same, rfl⟩ := h.given g mem own t' t
      exact .inr ⟨g', mem', key, fresh, same, le⟩

/-! ## A menu that changes -/

def menuChanges : List (Act String) :=
  [.request .getMenuCatalog 0, .serve 0 (some "lunch"), .headers 0, .body 0 5 true, .request .getMenuCatalog 70000,
    .change, .serve 1 (some "dinner"), .headers 1]

theorem menu_in_order : let s := Runs.run (step fun data => data != "") {} (menuChanges ++ [.body 1 71000 true])
    s.answers Call.getMenuCatalog.key = [0, 1] ∧ (s.answers Call.getMenuCatalog.key).Pairwise (· ≤ ·) := by
  obtain ⟨-, ordered, -⟩ := reads_never_go_back (fun data => data != "") (menuChanges ++ [.body 1 71000 true])
    Call.kept_getMenuCatalog
  exact ⟨by decide +kernel, ordered⟩

end Kiosk.ApiClient
