import AstraSystem.Lib.Runs
import Mathlib.Data.Int.Notation

/-!
# The session of a ghost cart (`ghost-cart/dataChannel.ts`)

Callbacks of the channel, of the connection and of three timers run in any order, between calls of the session's own
functions. What handlers do is left out.
-/

namespace Kiosk.GhostCart

inductive MessageType where
  | cartSnapshot | cartOp | ping | pong
  | other (type : String)
  deriving DecidableEq, Repr

structure GhostCartMessage (P : Type) where
  type : MessageType
  payload : Option P

/-- What an event brings: text that is no JSON, `null`, or a value. -/
inductive Data (P : Type) where
  | malformed
  | null
  | value (message : GhostCartMessage P)

inductive ReadyState where
  | connecting | open | closing | closed
  deriving DecidableEq, Repr

/-- `RTCPeerConnectionState`. -/
inductive ConnectionState where
  | new | connecting | connected | disconnected | failed | closed
  deriving DecidableEq, Repr

inductive Timer where
  | ping | stale | handshake
  deriving DecidableEq, Repr

/-- What a callback finds: the clock, the channel, the connection, and which messages the channel refuses. -/
structure Surroundings (P : Type) where
  now : ℤ
  readyState : ReadyState
  connectionState : ConnectionState
  throws : GhostCartMessage P → Bool

structure Session (P : Type) where
  closed : Bool
  lastSeen : ℤ
  pingTimer : Option ℕ
  staleTimer : Option ℕ
  handshakeTimer : Option ℕ
  /-- The timers that will fire, whether or not a variable names them. -/
  pending : List (ℕ × Timer)
  nextTimer : ℕ
  outboundQueue : List (GhostCartMessage P)
  messageHandlers : List ℕ
  stateHandlers : List ℕ

/-- What a callback does outside. -/
inductive Effect (P : Type) where
  | sent (message : GhostCartMessage P)
  | told (handler : ℕ) (message : GhostCartMessage P)
  | notified (handler : ℕ) (state : ConnectionState)

def staleTimeoutMs : ℤ := 15000

def maxQueuedMessages : ℕ := 64

section
variable {P : Type}

def createGhostCartSession (now : ℤ) : Session P where
  closed := false
  lastSeen := now
  pingTimer := none
  staleTimer := none
  handshakeTimer := some 0
  pending := [(0, .handshake)]
  nextTimer := 1
  outboundQueue := []
  messageHandlers := []
  stateHandlers := []

namespace Session

variable (w : Surroundings P) (s : Session P)

def markSeen : Session P := { s with lastSeen := w.now }

/-- `channel.send` inside of a `try`. -/
def channelSend (m : GhostCartMessage P) : List (Effect P) := if w.throws m then [] else [.sent m]

def flushQueue : Session P × List (Effect P) :=
  if w.readyState ≠ .open then (s, [])
  else ({ s with outboundQueue := [] }, s.outboundQueue.flatMap (channelSend w))

def clearHandshake : Session P :=
  { s with pending := s.pending.filter fun t => some t.1 ≠ s.handshakeTimer, handshakeTimer := none }

/-- The timers that a variable names. -/
def handles : List ℕ := s.pingTimer.toList ++ s.staleTimer.toList ++ s.handshakeTimer.toList

def clearTimers : Session P :=
  { s with
    pending := s.pending.filter fun t => t.1 ∉ s.handles
    pingTimer := none
    staleTimer := none
    handshakeTimer := none }

def close : Session P := if s.closed then s else clearTimers { s with closed := true }

def startKeepalive : Session P :=
  { s with
    pending := s.pending ++ [(s.nextTimer, .ping), (s.nextTimer + 1, .stale)]
    pingTimer := some s.nextTimer
    staleTimer := some (s.nextTimer + 1)
    nextTimer := s.nextTimer + 2 }

def notify (state : ConnectionState) : List (Effect P) := s.stateHandlers.map fun h => .notified h state

def handleMessage : Data P → Session P × List (Effect P)
  | .malformed => (s, [])
  | .null => (s.markSeen w, [])
  | .value m =>
    if m.type = .ping then (s.markSeen w, if w.readyState = .open then channelSend w ⟨.pong, none⟩ else [])
    else (s.markSeen w, s.messageHandlers.map fun h => .told h m)

def handleOpen : Session P × List (Effect P) :=
  let flushed := (s.markSeen w).clearHandshake.flushQueue w
  let s := flushed.1.startKeepalive
  (s, flushed.2 ++ s.notify w.connectionState)

def handleConnectionStateChange : Session P × List (Effect P) :=
  let s := if w.connectionState = .connected then s.clearHandshake else s
  if w.connectionState = .failed then (s.close, []) else (s, s.notify w.connectionState)

def drop (t : ℕ × Timer) : Session P := { s with pending := s.pending.filter (· ≠ t) }

/-- A timeout is gone when it fires, and an interval stays. -/
def fire (t : ℕ × Timer) : Session P × List (Effect P) :=
  if t ∉ s.pending then (s, [])
  else
    match t.2 with
    | .handshake => ((s.drop t).close, [])
    | .ping => (s, if w.readyState = .open then channelSend w ⟨.ping, none⟩ else [])
    | .stale => (if staleTimeoutMs < w.now - s.lastSeen then s.close else s, [])

def send (m : GhostCartMessage P) : Session P × List (Effect P) :=
  if w.readyState = .open then (s, channelSend w m)
  else if s.closed then (s, [])
  else if s.outboundQueue.length < maxQueuedMessages then ({ s with outboundQueue := s.outboundQueue ++ [m] }, [])
  else (s, [])

end Session

/-- A handler that is registered already is not registered again. -/
def add (handlers : List ℕ) (h : ℕ) : List ℕ := if h ∈ handlers then handlers else handlers ++ [h]

inductive Act (P : Type) where
  | open (w : Surroundings P)
  | message (w : Surroundings P) (data : Data P)
  | connectionStateChange (w : Surroundings P)
  | fire (w : Surroundings P) (t : ℕ × Timer)
  | send (w : Surroundings P) (m : GhostCartMessage P)
  | close
  | onMessage (h : ℕ)
  | offMessage (h : ℕ)
  | onStateChange (h : ℕ)
  | offStateChange (h : ℕ)

def respond (s : Session P) : Act P → Session P × List (Effect P)
  | .open w => s.handleOpen w
  | .message w data => s.handleMessage w data
  | .connectionStateChange w => s.handleConnectionStateChange w
  | .fire w t => s.fire w t
  | .send w m => s.send w m
  | .close => (s.close, [])
  | .onMessage h => ({ s with messageHandlers := add s.messageHandlers h }, [])
  | .offMessage h => ({ s with messageHandlers := s.messageHandlers.erase h }, [])
  | .onStateChange h => ({ s with stateHandlers := add s.stateHandlers h }, [])
  | .offStateChange h => ({ s with stateHandlers := s.stateHandlers.erase h }, [])

def step (s : Session P) (a : Act P) : Session P := (respond s a).1

/-! ## What is promised -/

/-- A session that is not closed waits for no more than the handshake or the silence of the peer, and one that is closed
waits for nothing. -/
structure Bounded (s : Session P) : Prop where
  waits : s.closed = false → ∃ t ∈ s.pending, t.2 = .handshake ∨ t.2 = .stale
  rests : s.closed = true → s.pending = []

/-- A session that closes by itself tells every handler. -/
def Announced (s : Session P) (a : Act P) : Prop :=
  s.closed = false → (step s a).closed = true → a ≠ .close →
    ∀ h ∈ s.stateHandlers, ∃ state, .notified h state ∈ (respond s a).2

def Sound (s : Session P) (a : Act P) : Prop := Bounded (step s a) ∧ Announced s a

/-- The step closes the session by itself. -/
def AutoCloses (s : Session P) : Act P → Prop
  | .connectionStateChange w => s.closed = false ∧ w.connectionState = .failed
  | .fire w t => s.closed = false ∧ t ∈ s.pending ∧
    (t.2 = .handshake ∨ t.2 = .stale ∧ staleTimeoutMs < w.now - s.lastSeen)
  | _ => False

/-- The step closes the session. -/
def Closes (s : Session P) (a : Act P) : Prop := s.closed = false ∧ a = .close ∨ AutoCloses s a

/-- Every timer that will fire is named by a variable. -/
def Named (s : Session P) : Prop := ∀ t ∈ s.pending, t.1 ∈ s.handles

/-- The channel does not open after the session is closed, the connection is not there while the handshake is all that is
waited for, no timer is unnamed when the session closes, and when it closes by itself there is nobody to tell. -/
structure Meets (s : Session P) (a : Act P) : Prop where
  early : ∀ w, a = .open w → s.closed = false
  ordered : ∀ w, a = .connectionStateChange w → w.connectionState = .connected → s.closed = false →
    s.handshakeTimer = none ∨ ∃ t ∈ s.pending, t.2 = .stale
  named : Closes s a → Named s
  nobody : AutoCloses s a → s.stateHandlers = []

/-- The handshake timer has its own number, and is the only one of its kind. -/
structure Inv (s : Session P) : Prop extends Bounded s where
  fresh : ∀ i, s.handshakeTimer = some i → i < s.nextTimer
  own : ∀ t ∈ s.pending, s.handshakeTimer = some t.1 → t.2 = .handshake
  only : ∀ t ∈ s.pending, t.2 = .handshake → s.handshakeTimer = some t.1

section
variable {w : Surroundings P} {s : Session P} {a : Act P}

theorem inv_create (now : ℤ) : Inv (createGhostCartSession now : Session P) where
  waits _ := ⟨_, List.mem_singleton_self _, .inl rfl⟩
  rests h := by cases h
  fresh _ h := by cases h; exact Nat.one_pos
  own t mem _ := by rw [List.mem_singleton.mp mem]
  only t mem _ := by rw [List.mem_singleton.mp mem]; rfl

/-! ## Closing -/

@[simp] theorem close_of_closed (h : s.closed = true) : s.close = s := by rw [Session.close, if_pos h]

theorem close_of_open (h : s.closed = false) : s.close = Session.clearTimers { s with closed := true } := by
  rw [Session.close, h, if_neg Bool.false_ne_true]

theorem closed_close (s : Session P) : s.close.closed = true := by
  cases h : s.closed with
  | true => rw [close_of_closed h, h]
  | false => rw [close_of_open h]; rfl

/-- A session that has just closed waits for nothing just if every timer was named. -/
theorem rests_close_iff (h : s.closed = false) : s.close.pending = [] ↔ Named s := by
  rw [close_of_open h]
  exact List.filter_eq_nil_iff.trans (forall₂_congr fun t _ => (not_congr decide_eq_true_iff).trans not_not)

/-! ## What a step does to the timers -/

/-- The two wait for the same. -/
structure Same (s s' : Session P) : Prop where
  closed : s'.closed = s.closed
  pending : s'.pending = s.pending
  handshakeTimer : s'.handshakeTimer = s.handshakeTimer
  nextTimer : s'.nextTimer = s.nextTimer

theorem Same.refl (s : Session P) : Same s s := ⟨rfl, rfl, rfl, rfl⟩

theorem Same.bounded_iff {s' : Session P} (same : Same s s') : Bounded s' ↔ Bounded s := by
  constructor
  · intro h
    exact ⟨same.closed ▸ same.pending ▸ h.waits, same.closed ▸ same.pending ▸ h.rests⟩
  · intro h
    exact ⟨same.closed ▸ same.pending ▸ h.waits, same.closed ▸ same.pending ▸ h.rests⟩

/-- The steps that are not about any timer. -/
structure Idle (s : Session P) (a : Act P) : Prop where
  same : Same s (step s a)
  closes : ¬ Closes s a
  opens : ∀ w, a ≠ .open w
  connects : ∀ w, a = .connectionStateChange w → w.connectionState ≠ .connected

theorem alive_of_closes (h : Closes s a) : s.closed = false := by
  obtain ⟨alive, -⟩ | auto := h
  · exact alive
  · cases a with
    | connectionStateChange | fire => exact auto.1
    | _ => cases auto

theorem not_closes_of_closed (h : s.closed = true) : ¬ Closes s a := fun closes =>
  absurd (h.symm.trans (alive_of_closes closes)) (by decide)

/-- Closing, after a timeout that fires is gone, clears what closing clears. -/
theorem same_close_drop (inv : Inv s) (h : s.closed = false) {t : ℕ × Timer} (mem : t ∈ s.pending)
    (handshake : t.2 = .handshake) : Same s.close (s.drop t).close := by
  have named : t.1 ∈ s.handles := by
    simp only [Session.handles, List.mem_append, Option.mem_toList]
    exact .inr (inv.only t mem handshake)
  rw [close_of_open h, close_of_open (show (s.drop t).closed = false from h)]
  refine ⟨rfl, ?_, rfl, rfl⟩
  refine List.filter_filter.trans (List.filter_congr fun u _ => ?_)
  have kept : u.1 ∉ s.handles → u ≠ t := fun other same => other (same ▸ named)
  show (decide (u.1 ∉ s.handles) && decide (u ≠ t)) = decide (u.1 ∉ s.handles)
  by_cases cleared : u.1 ∈ s.handles
  · rw [decide_eq_false (not_not.mpr cleared), Bool.false_and]
  · rw [decide_eq_true (kept cleared), Bool.and_true]

/-- The acts that are about no timer, whatever the session. -/
def Act.untimed : Act P → Bool
  | .open _ | .connectionStateChange _ | .fire _ _ | .close => false
  | _ => true

theorem idle_of_untimed (untimed : a.untimed = true) (same : Same s (step s a)) : Idle s a := by
  refine ⟨same, ?_, ?_, ?_⟩
  · rintro (⟨-, rfl⟩ | auto)
    · cases untimed
    · cases a with
      | connectionStateChange | fire => cases untimed
      | _ => cases auto
  · rintro w rfl
    cases untimed
  · rintro w rfl
    cases untimed

theorem message_cases (w : Surroundings P) (data : Data P) : Idle s (.message w data) := by
  apply idle_of_untimed rfl
  cases data with
  | malformed => exact .refl s
  | null => exact ⟨rfl, rfl, rfl, rfl⟩
  | value m =>
    simp only [step, respond, Session.handleMessage]
    split <;> exact ⟨rfl, rfl, rfl, rfl⟩

theorem send_cases (w : Surroundings P) (m : GhostCartMessage P) : Idle s (.send w m) := by
  apply idle_of_untimed rfl
  simp only [step, respond, Session.send]
  split
  · exact .refl s
  · split
    · exact .refl s
    · split <;> exact ⟨rfl, rfl, rfl, rfl⟩

theorem close_cases (s : Session P) : Idle s .close ∨ Closes s .close ∧ Same s.close (step s .close) := by
  cases h : s.closed with
  | false => exact .inr ⟨.inl ⟨h, rfl⟩, .refl _⟩
  | true =>
    refine .inl ⟨?_, not_closes_of_closed h, fun _ other => (by cases other), fun _ other => (by cases other)⟩
    show Same s s.close
    rw [close_of_closed h]
    exact .refl s

theorem change_cases (other : w.connectionState ≠ .connected) : Idle s (.connectionStateChange w) ∨
    Closes s (.connectionStateChange w) ∧ Same s.close (step s (.connectionStateChange w)) := by
  have result : step s (.connectionStateChange w) = if w.connectionState = .failed then s.close else s := by
    simp only [step, respond, Session.handleConnectionStateChange, if_neg other]
    split <;> rfl
  have idle (same : Same s (step s (.connectionStateChange w))) (closes : ¬ Closes s (.connectionStateChange w)) :
      Idle s (.connectionStateChange w) := by
    refine ⟨same, closes, fun _ none => (by cases none), ?_⟩
    rintro _ ⟨⟩
    exact other
  by_cases failed : w.connectionState = .failed
  · rw [if_pos failed] at result
    cases h : s.closed with
    | false => exact .inr ⟨.inr ⟨h, failed⟩, result ▸ .refl _⟩
    | true => exact .inl (idle (by rw [result, close_of_closed h]; exact .refl s) (not_closes_of_closed h))
  · rw [if_neg failed] at result
    refine .inl (idle (by rw [result]; exact .refl s) ?_)
    rintro (⟨-, none⟩ | auto)
    · cases none
    · exact failed auto.2

theorem fire_cases (inv : Inv s) (w : Surroundings P) (t : ℕ × Timer) :
    Idle s (.fire w t) ∨ Closes s (.fire w t) ∧ Same s.close (step s (.fire w t)) := by
  have idle (same : Same s (step s (.fire w t))) (closes : ¬ AutoCloses s (.fire w t)) : Idle s (.fire w t) := by
    refine ⟨same, ?_, fun _ none => (by cases none), fun _ none => (by cases none)⟩
    rintro (⟨-, none⟩ | auto)
    · cases none
    · exact closes auto
  simp only [step, respond, Session.fire] at idle ⊢
  by_cases mem : t ∈ s.pending
  · have alive : s.closed = false := by
      rw [← Bool.not_eq_true]
      intro h
      rw [inv.rests h] at mem
      cases mem
    simp only [mem, not_true_eq_false, if_false] at idle ⊢
    obtain ⟨i, kind⟩ := t
    cases kind with
    | ping =>
      refine .inl (idle (.refl s) ?_)
      rintro ⟨-, -, none | ⟨none, -⟩⟩ <;> cases none
    | stale =>
      by_cases silent : staleTimeoutMs < w.now - s.lastSeen
      · simp only [silent, if_true] at idle ⊢
        exact .inr ⟨.inr ⟨alive, mem, .inr ⟨rfl, silent⟩⟩, .refl _⟩
      · simp only [silent, if_false] at idle ⊢
        refine .inl (idle (.refl s) ?_)
        rintro ⟨-, -, none | ⟨-, late⟩⟩
        · cases none
        · exact silent late
    | handshake => exact .inr ⟨.inr ⟨alive, mem, .inl rfl⟩, same_close_drop inv alive mem rfl⟩
  · simp only [mem, not_false_eq_true, if_true] at idle ⊢
    exact .inl (idle (.refl s) fun auto => mem auto.2.1)

/-- A step opens the channel, connects, closes, or leaves the timers as they are. -/
theorem step_cases (inv : Inv s) (a : Act P) : (∃ w, a = .open w) ∨
    (∃ w, a = .connectionStateChange w ∧ w.connectionState = .connected) ∨
    Idle s a ∨ Closes s a ∧ Same s.close (step s a) := by
  cases a with
  | «open» w => exact .inl ⟨w, rfl⟩
  | connectionStateChange w =>
    by_cases connected : w.connectionState = .connected
    · exact .inr (.inl ⟨w, rfl, connected⟩)
    · exact .inr (.inr (change_cases connected))
  | message w data => exact .inr (.inr (.inl (message_cases w data)))
  | send w m => exact .inr (.inr (.inl (send_cases w m)))
  | fire w t => exact .inr (.inr (fire_cases inv w t))
  | close => exact .inr (.inr (close_cases s))
  | onMessage | offMessage | onStateChange | offStateChange =>
    exact .inr (.inr (.inl (idle_of_untimed rfl ⟨rfl, rfl, rfl, rfl⟩)))

/-- When a session closes by itself nobody is told. -/
theorem effects_of_autoCloses (auto : AutoCloses s a) : (respond s a).2 = [] := by
  cases a with
  | connectionStateChange w =>
    simp only [respond, Session.handleConnectionStateChange, if_pos auto.2]
  | fire w t =>
    obtain ⟨-, mem, kind⟩ := auto
    obtain ⟨i, kind'⟩ := t
    simp only [respond, Session.fire, mem, not_true_eq_false, if_false]
    cases kind' with
    | ping => obtain none | ⟨none, -⟩ := kind <;> cases none
    | stale => rfl
    | handshake => rfl
  | _ => cases auto

/-! ## One step -/

theorem idle_sound_iff (inv : Inv s) (idle : Idle s a) : Sound s a ↔ Meets s a := by
  constructor
  · intro _
    exact ⟨fun w h => absurd h (idle.opens w), fun w h connected => absurd connected (idle.connects w h),
      fun closes => absurd closes idle.closes, fun auto => absurd (.inr auto) idle.closes⟩
  · intro _
    refine ⟨idle.same.bounded_iff.mpr inv.toBounded, fun alive closed => ?_⟩
    rw [idle.same.closed, alive] at closed
    cases closed

/-- When the channel opens, the two intervals are there in place of the handshake timer. -/
theorem opened (s : Session P) (w : Surroundings P) : (step s (.open w)).closed = s.closed ∧
    (step s (.open w)).handshakeTimer = none ∧ (step s (.open w)).pending =
      s.clearHandshake.pending ++ [(s.nextTimer, .ping), (s.nextTimer + 1, .stale)] := by
  simp only [step, respond, Session.handleOpen, Session.flushQueue]
  split <;> exact ⟨rfl, rfl, rfl⟩

theorem connected_eq (connected : w.connectionState = .connected) :
    step s (.connectionStateChange w) = s.clearHandshake := by
  have alive : w.connectionState ≠ .failed := by
    rw [connected]
    decide
  simp only [step, respond, Session.handleConnectionStateChange, if_pos connected, if_neg alive]

/-- What is cleared is the handshake timer alone. -/
theorem mem_clearHandshake (inv : Inv s) {t : ℕ × Timer} :
    t ∈ s.clearHandshake.pending ↔ t ∈ s.pending ∧ t.2 ≠ .handshake := by
  refine List.mem_filter.trans (and_congr_right fun mem => decide_eq_true_iff.trans (not_congr ?_))
  exact ⟨fun same => inv.own t mem same.symm, fun handshake => (inv.only t mem handshake).symm⟩

theorem open_sound_iff (w : Surroundings P) : Sound s (.open w) ↔ Meets s (.open w) := by
  obtain ⟨closed, -, pending⟩ := opened s w
  trans s.closed = false
  · constructor
    · rintro ⟨bounded, -⟩
      rw [← Bool.not_eq_true]
      intro h
      have rests := bounded.rests (closed.trans h)
      rw [pending] at rests
      exact List.cons_ne_nil _ _ (List.append_eq_nil_iff.mp rests).2
    · intro alive
      refine ⟨⟨fun _ => ⟨(s.nextTimer + 1, .stale), ?_, .inr rfl⟩, fun h => ?_⟩, fun _ h => ?_⟩
      · rw [pending]
        simp
      · rw [closed, alive] at h
        cases h
      · rw [closed, alive] at h
        cases h
  · constructor
    · intro alive
      refine ⟨fun _ _ => alive, fun _ none => (by cases none), ?_, fun auto => (by cases auto)⟩
      rintro (⟨-, none⟩ | auto)
      · cases none
      · cases auto
    · intro meets
      exact meets.early w rfl

theorem connected_sound_iff (inv : Inv s) (connected : w.connectionState = .connected) :
    Sound s (.connectionStateChange w) ↔ Meets s (.connectionStateChange w) := by
  have quiet : ¬ AutoCloses s (.connectionStateChange w) := by
    rintro ⟨-, failed⟩
    rw [connected] at failed
    cases failed
  trans s.closed = false → ∃ t ∈ s.pending, t.2 = .stale
  · rw [Sound, Announced, connected_eq connected]
    constructor
    · rintro ⟨bounded, -⟩ alive
      obtain ⟨t, mem, kind⟩ := bounded.waits alive
      obtain ⟨mem, other⟩ := (mem_clearHandshake inv).mp mem
      exact ⟨t, mem, kind.resolve_left other⟩
    · intro stale
      refine ⟨⟨fun alive => ?_, fun h => ?_⟩, fun alive h => absurd (alive.symm.trans h) (by decide)⟩
      · obtain ⟨t, mem, kind⟩ := stale alive
        exact ⟨t, (mem_clearHandshake inv).mpr ⟨mem, by rw [kind]; decide⟩, .inr kind⟩
      · show s.pending.filter _ = []
        rw [inv.rests h]
        rfl
  · constructor
    · intro stale
      refine ⟨fun _ none => (by cases none), fun _ _ _ alive => .inr (stale alive), ?_, fun auto => absurd auto quiet⟩
      rintro (⟨-, none⟩ | auto)
      · cases none
      · exact absurd auto quiet
    · intro meets alive
      obtain none | stale := meets.ordered w rfl connected alive
      · obtain ⟨t, mem, kind⟩ := inv.waits alive
        refine ⟨t, mem, kind.resolve_left fun handshake => ?_⟩
        cases none.symm.trans (inv.only t mem handshake)
      · exact stale

theorem closes_sound_iff (closes : Closes s a) (same : Same s.close (step s a)) : Sound s a ↔ Meets s a := by
  have alive := alive_of_closes closes
  have bounded : Bounded (step s a) ↔ Named s := by
    rw [same.bounded_iff, ← rests_close_iff alive]
    constructor
    · intro h
      exact h.rests (closed_close s)
    · intro none
      exact ⟨fun h => absurd ((closed_close s).symm.trans h) (by decide), fun _ => none⟩
  have announced : Announced s a ↔ (AutoCloses s a → s.stateHandlers = []) := by
    constructor
    · intro told auto
      refine List.eq_nil_iff_forall_not_mem.mpr fun h mem => ?_
      have other : a ≠ .close := by
        rintro rfl
        cases auto
      obtain ⟨state, effect⟩ := told alive (same.closed.trans (closed_close s)) other h mem
      rw [effects_of_autoCloses auto] at effect
      cases effect
    · intro nobody _ _ other h mem
      have auto := closes.resolve_left fun h => other h.2
      rw [nobody auto] at mem
      cases mem
  rw [Sound, bounded, announced]
  constructor
  · rintro ⟨named, nobody⟩
    refine ⟨?_, ?_, fun _ => named, nobody⟩
    · rintro w rfl
      exact alive
    · rintro w rfl connected
      obtain ⟨-, none⟩ | ⟨-, failed⟩ := closes
      · cases none
      · cases connected.symm.trans failed
  · intro meets
    exact ⟨meets.named closes, meets.nobody⟩

theorem sound_iff_meets (inv : Inv s) (a : Act P) : Sound s a ↔ Meets s a := by
  obtain ⟨w, rfl⟩ | ⟨w, rfl, connected⟩ | idle | ⟨closes, same⟩ := step_cases inv a
  · exact open_sound_iff w
  · exact connected_sound_iff inv connected
  · exact idle_sound_iff inv idle
  · exact closes_sound_iff closes same

theorem inv_step (inv : Inv s) (a : Act P) (meets : Meets s a) : Inv (step s a) := by
  have bounded := ((sound_iff_meets inv a).mpr meets).1
  obtain ⟨w, rfl⟩ | ⟨w, rfl, connected⟩ | idle | ⟨closes, same⟩ := step_cases inv a
  · obtain ⟨-, handshakeTimer, pending⟩ := opened s w
    refine ⟨bounded, fun i h => ?_, fun t _ h => ?_, fun t mem kind => ?_⟩
    · cases handshakeTimer.symm.trans h
    · cases handshakeTimer.symm.trans h
    · rw [pending, List.mem_append] at mem
      obtain mem | mem := mem
      · exact absurd kind ((mem_clearHandshake inv).mp mem).2
      · simp only [List.mem_cons, List.not_mem_nil, or_false] at mem
        obtain rfl | rfl := mem <;> cases kind
  · rw [connected_eq connected] at bounded ⊢
    refine ⟨bounded, fun i h => (by cases h), fun t _ h => (by cases h), fun t mem kind => ?_⟩
    exact absurd kind ((mem_clearHandshake inv).mp mem).2
  · obtain ⟨-, pending, handshakeTimer, nextTimer⟩ := idle.same
    refine ⟨bounded, ?_, ?_, ?_⟩
    · rw [handshakeTimer, nextTimer]
      exact inv.fresh
    · rw [handshakeTimer, pending]
      exact inv.own
    · rw [handshakeTimer, pending]
      exact inv.only
  · have rests := bounded.rests (same.closed.trans (closed_close s))
    have cleared : (step s a).handshakeTimer = none := by
      rw [same.handshakeTimer, close_of_open (alive_of_closes closes)]
      rfl
    refine ⟨bounded, fun i h => ?_, fun t mem => ?_, fun t mem => ?_⟩
    · cases cleared.symm.trans h
    · rw [rests] at mem
      cases mem
    · rw [rests] at mem
      cases mem

end

end

/-- **A session never hangs and never ends silently** just if the channel does not open after it is closed, the connection
is not there before the channel opens, nothing is left unnamed when it closes, and nobody listens when it closes by
itself. -/
theorem session_sound_iff {P : Type} (now : ℤ) (acts : List (Act P)) :
    Bounded (createGhostCartSession now : Session P) ∧
      (Runs.EachStep step Sound (createGhostCartSession now) acts ↔
        Runs.EachStep step Meets (createGhostCartSession now) acts) := by
  refine ⟨(inv_create now).toBounded, ?_⟩
  apply Runs.eachStep_iff (J := Inv)
  · exact fun s a inv => sound_iff_meets inv a
  · exact fun s a inv => inv_step inv a
  · exact inv_create now

/-! ## A phone that is there before its channel -/

namespace Phone

def surroundings (connectionState : ConnectionState) : Surroundings Unit := ⟨0, .connecting, connectionState, fun _ => false⟩

def connect : Act Unit := .connectionStateChange (surroundings .connected)

def opens : Act Unit := .open (surroundings .connected)

def timesOut : Act Unit := .fire (surroundings .connecting) (0, .handshake)

/-- Connecting ends the wait for the handshake; opening after closing starts the intervals; opening twice leaves two that
closing does not clear; and a handshake that times out tells no handler. -/
theorem hangs_and_ends_silently :
    ¬ Runs.EachStep step Sound (createGhostCartSession 0) [connect] ∧
    ¬ Runs.EachStep step Sound (createGhostCartSession 0) [.close, opens] ∧
    ¬ Runs.EachStep step Sound (createGhostCartSession 0) [opens, opens, .close] ∧
    ¬ Runs.EachStep step Sound (createGhostCartSession 0) [.onStateChange 1, timesOut] := by
  refine ⟨?_, ?_, ?_, ?_⟩
  · rintro ⟨⟨bounded, -⟩, -⟩
    obtain ⟨t, mem, -⟩ := bounded.waits rfl
    cases mem
  · rintro ⟨-, ⟨bounded, -⟩, -⟩
    cases bounded.rests rfl
  · rintro ⟨-, -, ⟨bounded, -⟩, -⟩
    cases bounded.rests rfl
  · rintro ⟨-, ⟨-, announced⟩, -⟩
    obtain ⟨state, told⟩ := announced rfl rfl (fun none => by cases none) 1 (List.mem_singleton_self 1)
    cases told

end Phone

end Kiosk.GhostCart
