import Mathlib.Data.Finset.Erase
import Mathlib.Data.Finset.Insert
import Mathlib.Data.List.Chain
import Mathlib.Logic.Function.Basic
import AstraSystem.Lib.Runs
import AstraSystem.SyncDaemon.Protocol

/-!
# The peers a mesh reports (`p2p/mesh.rs`)

The event loop keeps the set of connected peers and tells its subscribers when a
peer comes or goes. It does not count connections, so it is right as long as no
peer has two of them at once and none that is connected expires from discovery.
A shutdown ends the loop; a run is what it has processed by then.
-/

namespace SyncDaemon.P2P

open Protocol (SyncProtocol)

inductive MeshEvent (PeerId : Type) where
  | gossip (dataType : DataType) (payload : List UInt8) (source : PeerId)
  | syncRequest (request : SyncProtocol) (source : PeerId)
  | syncResponse (response : SyncProtocol) (source : PeerId)
  | peerConnected (peerId : PeerId)
  | peerDisconnected (peerId : PeerId)
  deriving DecidableEq

inductive MeshCommand (PeerId : Type) where
  | gossip (dataType : DataType) (payload : List UInt8)
  | sendRequest (peer : PeerId) (request : SyncProtocol)

/-- `request_response::Message` -/
inductive SyncMessage where
  | request (request : SyncProtocol)
  | response (response : SyncProtocol)

inductive SwarmEvent (PeerId : Type) where
  | newListenAddr (address : String)
  | discovered (list : List (PeerId × String))
  | expired (list : List (PeerId × String))
  | gossip (propagationSource : PeerId) (topic : String) (data : List UInt8)
  | sync (peer : PeerId) (message : SyncMessage)
  | outboundFailure (peer : PeerId) (error : String)
  | inboundFailure (peer : PeerId) (error : String)
  | connectionEstablished (peerId : PeerId)
  | connectionClosed (peerId : PeerId)
  | other

/-- What the loop hands to the swarm. -/
inductive Outgoing (PeerId : Type) where
  | publish (topic : String) (payload : List UInt8)
  | request (peer : PeerId) (request : SyncProtocol)

/-- What one turn of the loop selects. -/
inductive Input (PeerId : Type) where
  | command (cmd : MeshCommand PeerId)
  | event (event : SwarmEvent PeerId)

structure P2PMesh (PeerId : Type) where
  connectedPeers : Finset PeerId
  sent : List (MeshEvent PeerId)
  outgoing : List (Outgoing PeerId)

def dataTypeTopic (dataType : DataType) : String := "astra/sync/" ++ dataType.asStr

def dataTypeFromTopicHash (topicHash : String) : Option DataType :=
  [DataType.inventory, .cart, .transaction, .analytics].find? fun d => dataTypeTopic d = topicHash

namespace P2PMesh

variable {PeerId : Type} [DecidableEq PeerId]

def new : P2PMesh PeerId := ⟨∅, [], []⟩

def send (self : P2PMesh PeerId) (event : MeshEvent PeerId) : P2PMesh PeerId :=
  { self with sent := self.sent ++ [event] }

def command (self : P2PMesh PeerId) : MeshCommand PeerId → P2PMesh PeerId
  | .gossip dataType payload =>
    { self with outgoing := self.outgoing ++ [.publish (dataTypeTopic dataType) payload] }
  | .sendRequest peer request =>
    { self with outgoing := self.outgoing ++ [.request peer request] }

/-- The body of the loop over a list of expired peers. -/
def expire (self : P2PMesh PeerId) (entry : PeerId × String) : P2PMesh PeerId :=
  if entry.1 ∈ self.connectedPeers then
    { self with connectedPeers := self.connectedPeers.erase entry.1 }.send
      (.peerDisconnected entry.1)
  else self

/-- The baggage of a handshake is attached for no longer than this takes. -/
def event (self : P2PMesh PeerId) : SwarmEvent PeerId → P2PMesh PeerId
  | .expired list => list.foldl expire self
  | .gossip source topic data =>
    match dataTypeFromTopicHash topic with
    | some dataType => self.send (.gossip dataType data source)
    | none => self
  | .sync peer (.request request) => self.send (.syncRequest request peer)
  | .sync peer (.response response) => self.send (.syncResponse response peer)
  | .connectionEstablished peerId =>
    { self with connectedPeers := insert peerId self.connectedPeers }.send (.peerConnected peerId)
  | .connectionClosed peerId =>
    { self with connectedPeers := self.connectedPeers.erase peerId }.send (.peerDisconnected peerId)
  | .newListenAddr _ | .discovered _ | .outboundFailure _ _ | .inboundFailure _ _ | .other => self

def turn (self : P2PMesh PeerId) : Input PeerId → P2PMesh PeerId
  | .command cmd => self.command cmd
  | .event e => self.event e

end P2PMesh

/-! ## The mesh and the connections there are -/

variable {PeerId : Type} [DecidableEq PeerId]

/-- The mesh, and how many connections of each peer are open. -/
structure World (PeerId : Type) where
  mesh : P2PMesh PeerId
  conns : PeerId → ℕ

namespace World

def start : World PeerId := ⟨.new, fun _ => 0⟩

/-- The open connections after an event of the swarm. -/
def connections (conns : PeerId → ℕ) : Input PeerId → PeerId → ℕ
  | .event (.connectionEstablished p) => Function.update conns p (conns p + 1)
  | .event (.connectionClosed p) => Function.update conns p (conns p - 1)
  | _ => conns

def step (w : World PeerId) (input : Input PeerId) : World PeerId :=
  ⟨w.mesh.turn input, connections w.conns input⟩

/-- Only open connections close. -/
def Legal (w : World PeerId) : Input PeerId → Prop
  | .event (.connectionClosed p) => 0 < w.conns p
  | _ => True

/-- A peer that connects had no connection, and peers that expire have none. -/
def Single (w : World PeerId) : Input PeerId → Prop
  | .event (.connectionEstablished p) => w.conns p = 0
  | .event (.expired list) => ∀ entry ∈ list, w.conns entry.1 = 0
  | _ => True

end World

/-- What the subscribers heard of a peer: `true` where it connected. -/
def notices (sent : List (MeshEvent PeerId)) (p : PeerId) : List Bool :=
  sent.filterMap fun e => match e with
    | .peerConnected q => if q = p then some true else none
    | .peerDisconnected q => if q = p then some false else none
    | _ => none

/-- The notices alternate, the first one is of a connection, and the last one is `last`. -/
structure Alternates (l : List Bool) (last : Bool) : Prop where
  first : l.head?.getD true = true
  chain : l.IsChain (· ≠ ·)
  last : l.getLast?.getD false = last

/-- The mesh shows exactly the peers there are, and has told so. -/
structure World.Exact (w : World PeerId) : Prop where
  members : ∀ p, p ∈ w.mesh.connectedPeers ↔ 0 < w.conns p
  told : ∀ p, Alternates (notices w.mesh.sent p) (decide (p ∈ w.mesh.connectedPeers))

/-! ## Notices -/

theorem alternates_nil : Alternates [] false := ⟨rfl, .nil, rfl⟩

/-- The next notice has to be the other one. -/
theorem alternates_concat {l : List Bool} {last b c : Bool} (h : Alternates l last) :
    Alternates (l ++ [b]) c ↔ b = !last ∧ c = b := by
  obtain ⟨first, chain, last⟩ := h
  cases l using List.reverseRecOn with
  | nil =>
    subst last
    constructor
    · rintro ⟨first, -, last⟩
      exact ⟨first, last.symm⟩
    · rintro ⟨rfl, rfl⟩
      exact ⟨rfl, .singleton _, rfl⟩
  | append_singleton l x =>
    rw [List.getLast?_concat, Option.getD_some] at last
    subst last
    have head : (l ++ [x] ++ [b]).head? = (l ++ [x]).head? := by
      cases l <;> rfl
    constructor
    · rintro ⟨-, chain', last'⟩
      rw [List.getLast?_concat, Option.getD_some] at last'
      have apart : x ≠ b := by
        refine (List.isChain_append.mp chain').2.2 x ?_ b rfl
        rw [List.getLast?_concat]
        rfl
      cases x <;> cases b <;> simp_all
    · rintro ⟨rfl, rfl⟩
      refine ⟨head ▸ first, List.isChain_append.mpr ⟨chain, .singleton _, ?_⟩, ?_⟩
      · intro y hy z hz
        rw [List.getLast?_concat] at hy
        obtain rfl := Option.mem_some.mp hy
        obtain rfl := Option.mem_some.mp hz
        cases x <;> simp
      · rw [List.getLast?_concat, Option.getD_some]

theorem notices_concat (sent : List (MeshEvent PeerId)) (e : MeshEvent PeerId) (p : PeerId) :
    notices (sent ++ [e]) p = notices sent p ++ notices [e] p := List.filterMap_append

theorem notices_connected (p q : PeerId) :
    notices [.peerConnected q] p = if q = p then [true] else [] := by
  by_cases h : q = p <;> simp [notices, h]

theorem notices_disconnected (p q : PeerId) :
    notices [.peerDisconnected q] p = if q = p then [false] else [] := by
  by_cases h : q = p <;> simp [notices, h]

/-! ## What a turn of the loop changes -/

namespace World

variable {w w' : World PeerId}

/-- A turn without a notice about a connection. -/
theorem Exact.of_same (h : w.Exact) (peers : w'.mesh.connectedPeers = w.mesh.connectedPeers)
    (sent : ∀ p, notices w'.mesh.sent p = notices w.mesh.sent p) (conns : w'.conns = w.conns) :
    w'.Exact := by
  constructor
  · intro p
    rw [peers, conns]
    exact h.members p
  · intro p
    rw [peers, sent]
    exact h.told p

/-- A turn that notices that a peer came (`b`) or went is right if it did so, and only then. -/
theorem exact_notice {q : PeerId} {b : Bool} (h : w.Exact)
    (peers : ∀ p, p ∈ w'.mesh.connectedPeers ↔ if p = q then b = true else p ∈ w.mesh.connectedPeers)
    (sent : ∀ p, notices w'.mesh.sent p = notices w.mesh.sent p ++ if q = p then [b] else [])
    (conns : ∀ p, p ≠ q → w'.conns p = w.conns p) :
    w'.Exact ↔ (b = true ↔ 0 < w'.conns q) ∧ (q ∈ w.mesh.connectedPeers ↔ b = false) := by
  have own : q ∈ w'.mesh.connectedPeers ↔ b = true := by simp [peers]
  have told : Alternates (notices w'.mesh.sent q) (decide (q ∈ w'.mesh.connectedPeers)) ↔
      (q ∈ w.mesh.connectedPeers ↔ b = false) := by
    rw [sent, if_pos rfl, alternates_concat (h.told q)]
    by_cases before : q ∈ w.mesh.connectedPeers <;> cases b <;> simp [before, own]
  constructor
  · intro exact
    exact ⟨own.symm.trans (exact.members q), told.mp (exact.told q)⟩
  · rintro ⟨there, noticed⟩
    constructor
    · intro p
      by_cases hp : p = q
      · subst hp
        exact own.trans there
      · rw [peers, if_neg hp, conns p hp]
        exact h.members p
    · intro p
      by_cases hp : p = q
      · subst hp
        exact told.mpr noticed
      · rw [sent, if_neg (Ne.symm hp), List.append_nil]
        have same : decide (p ∈ w'.mesh.connectedPeers) = decide (p ∈ w.mesh.connectedPeers) := by
          rw [decide_eq_decide, peers, if_neg hp]
        rw [same]
        exact h.told p

theorem exact_established {q : PeerId} (h : w.Exact) :
    (w.step (.event (.connectionEstablished q))).Exact ↔ w.conns q = 0 := by
  rw [exact_notice (q := q) (b := true) h]
  · have members := h.members q
    simp only [step, connections, Function.update_self]
    have := Nat.succ_pos (w.conns q)
    constructor
    · rintro ⟨-, absent⟩
      by_contra there
      exact Bool.noConfusion (absent.mp (members.mpr (Nat.pos_of_ne_zero there)))
    · intro none
      refine ⟨by simp, ?_⟩
      rw [members, none]
      simp
  · intro p
    by_cases hp : p = q <;> simp [step, P2PMesh.turn, P2PMesh.event, P2PMesh.send, hp]
  · intro p
    exact (notices_concat _ _ p).trans (by rw [notices_connected])
  · intro p hp
    exact Function.update_of_ne hp _ _

theorem exact_closed {q : PeerId} (h : w.Exact) (legal : 0 < w.conns q) :
    (w.step (.event (.connectionClosed q))).Exact ↔ w.conns q = 1 := by
  rw [exact_notice (q := q) (b := false) h]
  · have there := (h.members q).mpr legal
    simp only [step, connections, Function.update_self, there, and_true, Bool.false_eq_true, false_iff]
    omega
  · intro p
    by_cases hp : p = q <;> simp [step, P2PMesh.turn, P2PMesh.event, P2PMesh.send, hp]
  · intro p
    exact (notices_concat _ _ p).trans (by rw [notices_disconnected])
  · intro p hp
    exact Function.update_of_ne hp _ _

theorem mem_foldl_expire {list : List (PeerId × String)} {m : P2PMesh PeerId} {p : PeerId}
    (h : p ∈ (list.foldl P2PMesh.expire m).connectedPeers) :
    p ∈ m.connectedPeers ∧ ∀ entry ∈ list, entry.1 ≠ p := by
  induction list generalizing m with
  | nil => exact ⟨h, by simp⟩
  | cons entry list ih =>
    obtain ⟨kept, rest⟩ := ih h
    rw [List.forall_mem_cons]
    unfold P2PMesh.expire at kept
    split at kept
    · have kept : p ∈ m.connectedPeers.erase entry.1 := kept
      rw [Finset.mem_erase] at kept
      exact ⟨kept.2, Ne.symm kept.1, rest⟩
    · rename_i absent
      refine ⟨kept, ?_, rest⟩
      rintro rfl
      exact absent kept

theorem foldl_expire_of_absent {list : List (PeerId × String)} {m : P2PMesh PeerId}
    (h : ∀ entry ∈ list, entry.1 ∉ m.connectedPeers) : list.foldl P2PMesh.expire m = m := by
  induction list with
  | nil => rfl
  | cons entry list ih =>
    rw [List.forall_mem_cons] at h
    rw [List.foldl_cons, P2PMesh.expire, if_neg h.1]
    exact ih h.2

theorem exact_expired {list : List (PeerId × String)} (h : w.Exact) :
    (w.step (.event (.expired list))).Exact ↔ ∀ entry ∈ list, w.conns entry.1 = 0 := by
  constructor
  · intro exact entry mem
    by_contra there
    have kept := (exact.members entry.1).mpr (Nat.pos_of_ne_zero there)
    exact (mem_foldl_expire kept).2 entry mem rfl
  · intro none
    have absent : ∀ entry ∈ list, entry.1 ∉ w.mesh.connectedPeers := by
      intro entry mem there
      have := (h.members entry.1).mp there
      have := none entry mem
      omega
    have same : w.step (.event (.expired list)) = w := by
      show (⟨list.foldl P2PMesh.expire w.mesh, w.conns⟩ : World PeerId) = w
      rw [foldl_expire_of_absent absent]
    rw [same]
    exact h

/-- No other turn notices a connection. -/
theorem exact_step {input : Input PeerId} (h : w.Exact) (single : w.Single input)
    (le : ∀ p, w.conns p ≤ 1) (legal : w.Legal input) : (w.step input).Exact := by
  cases input with
  | command cmd => cases cmd <;> exact h.of_same rfl (fun _ => rfl) rfl
  | event e =>
    have silent (m : MeshEvent PeerId) (none : ∀ p, notices [m] p = []) :
        (⟨w.mesh.send m, w.conns⟩ : World PeerId).Exact :=
      h.of_same rfl (fun p => (notices_concat _ _ p).trans (by rw [none, List.append_nil])) rfl
    cases e with
    | newListenAddr => exact h
    | discovered => exact h
    | expired => exact (exact_expired h).mpr single
    | gossip source topic data =>
      show (⟨w.mesh.event (.gossip source topic data), w.conns⟩ : World PeerId).Exact
      unfold P2PMesh.event
      dsimp only
      split
      · exact silent _ fun _ => rfl
      · exact h
    | sync peer message => cases message <;> exact silent _ fun _ => rfl
    | outboundFailure => exact h
    | inboundFailure => exact h
    | connectionEstablished => exact (exact_established h).mpr single
    | connectionClosed q =>
      have := le q
      have legal : 0 < w.conns q := legal
      exact (exact_closed h legal).mpr (by omega)
    | other => exact h

theorem conns_step {input : Input PeerId} (single : w.Single input) (le : ∀ p, w.conns p ≤ 1)
    (p : PeerId) : (w.step input).conns p ≤ 1 := by
  have rest := le p
  show connections w.conns input p ≤ 1
  unfold connections
  split
  · rename_i q
    have single : w.conns q = 0 := single
    by_cases hp : p = q <;> simp [hp, single, rest]
  · rename_i q
    by_cases hp : p = q
    · subst hp
      rw [Function.update_self]
      omega
    · rw [Function.update_of_ne hp]
      exact rest
  · exact rest

theorem single_of_exact {input : Input PeerId} (h : w.Exact) (after : (w.step input).Exact) :
    w.Single input := by
  cases input with
  | command => trivial
  | event e =>
    cases e with
    | expired => exact (exact_expired h).mp after
    | connectionEstablished => exact (exact_established h).mp after
    | _ => trivial

theorem exact_start : (start : World PeerId).Exact :=
  ⟨fun p => by simp [start, P2PMesh.new], fun _ => alternates_nil⟩

/-- **The mesh shows its peers as long as none has two connections or expires.** In every run, what
it shows and has told is right all the time exactly when every peer that connects had no
connection, and no peer with one expires from discovery. -/
theorem exact_iff_single (inputs : List (Input PeerId))
    (legal : Runs.EachStep step Legal (start : World PeerId) inputs) :
    Runs.Always step Exact (start : World PeerId) inputs ↔
      Runs.EachStep step Single (start : World PeerId) inputs := by
  apply Runs.always_iff_eachStep_of (J := fun w => w.Exact ∧ ∀ p, w.conns p ≤ 1) (H := Legal)
  · exact fun w h => h.1
  · intro w input h legal single
    exact ⟨exact_step h.1 single h.2 legal, conns_step single h.2⟩
  · intro w input h _ after
    exact single_of_exact h.1 after
  · exact ⟨exact_start, fun _ => Nat.zero_le 1⟩
  · exact legal

/-- A peer dials while the mesh dials it; one of the two connections is closed. -/
def dialledTwice : List (Input String) :=
  [.event (.connectionEstablished "k2"), .event (.connectionEstablished "k2"),
    .event (.connectionClosed "k2")]

theorem dialled_twice_lost :
    ¬ ∀ inputs : List (Input String), Runs.EachStep step Legal start inputs →
      Runs.Always step Exact start inputs := by
  intro h
  have exact := Runs.always_last (h dialledTwice ⟨trivial, trivial, (by decide : 0 < 2), trivial⟩)
  have shown := (exact.members "k2").mpr (by decide)
  exact absurd shown (by decide)

theorem exact_dialled_once :
    Runs.Always step Exact start [Input.event (.connectionEstablished "k2"),
      .event (.connectionEstablished "k3"), .event (.connectionClosed "k2"),
      .event (.expired [("k2", "/ip4/10.0.0.2/udp/4001/quic-v1")])] := by
  apply (exact_iff_single _ _).mpr
  · exact ⟨rfl, rfl, trivial, List.forall_mem_singleton.mpr rfl, trivial⟩
  · exact ⟨trivial, trivial, (by decide : 0 < 1), trivial, trivial⟩

end World

end SyncDaemon.P2P
