import AstraSystem.PaymentOrchestrator.StateMachine

/-!
# What a payment's events tell

`Create` writes number 1 and `UpdateStatus` number 2, and `Create` writes PaymentInitiated whatever
the gateway has answered. The events tell the stored status as long as payments are created
authorised and change once.
-/

namespace PaymentOrchestrator

/-- The status a payment has after the event. -/
def Payload.tells : Payload → String
  | .initiated .. => "AUTHORIZING"
  | .confirmed _ _ status => status
  | .failed .. => "FAILED"

def told (entries : List Entry) : Option String := entries.foldl (fun _ e => some e.payload.tells) none

/-- Entries numbered 1, 2, 3, ... after which a payment has the status. -/
structure Story (entries : List Entry) (status : Option PaymentStatus) : Prop where
  numbers : entries.map Entry.sequenceNumber = (List.range entries.length).map fun i : ℕ => (i : ℤ) + 1
  status : told entries = status.map PaymentStatus.string

/-- The entries about a payment, in the order of their commits. -/
def DB.stream (uuid : UUIDText) (db : DB) (id : UUID) : List Entry :=
  db.outbox.filter fun e => e.aggregateID = uuid.string id

def DB.Tells (uuid : UUIDText) (db : DB) : Prop :=
  ∀ id, Story (db.stream uuid id) ((db.payments.find? id).map Payment.status)

section
variable {Tid : Type*}

/-- No event id is drawn twice. -/
def FreshIDs (w : World Tid) : Act Tid → Prop
  | .create _ env | .update _ env => ∀ e ∈ w.db.outbox, e.eventID ≠ env.eventID
  | _ => True

instance decidableFreshIDs (w : World Tid) : DecidablePred (FreshIDs w)
  | .create _ env | .update _ env =>
    inferInstanceAs (Decidable (∀ e ∈ w.db.outbox, e.eventID ≠ env.eventID))
  | .initiatePayment .. | .authorize .. | .unlock .. | .read .. | .move .. | .webhook .. | .recheck ..
  | .wait .. => .isTrue trivial

/-- Payments are stored authorised, and only the first change of a status is committed. -/
def FirstChanges (uuid : UUIDText) (w : World Tid) : Act Tid → Prop
  | .create t env => ∀ p answer, Creates w t env p answer → p.status = .authorizing
  | .update t env => ∀ p target declineReason q payload,
      Updates uuid w t env p target declineReason q payload → q.status = .authorizing
  | _ => True

end

/-! ## One more entry -/

theorem story_nil : Story [] none := ⟨rfl, rfl⟩

theorem told_concat (entries : List Entry) (e : Entry) : told (entries ++ [e]) = some e.payload.tells := by
  simp [told]

theorem PaymentStatus.string_injective : Function.Injective PaymentStatus.string := by
  intro s t h
  cases s <;> cases t <;> first | rfl | exact absurd h (by decide)

theorem story_concat {entries : List Entry} {status : Option PaymentStatus} (h : Story entries status)
    {e : Entry} {status' : PaymentStatus} :
    Story (entries ++ [e]) (some status') ↔
      e.sequenceNumber = entries.length + 1 ∧ e.payload.tells = status'.string := by
  constructor
  · rintro ⟨numbers, told⟩
    rw [told_concat] at told
    rw [List.map_append, List.length_append, List.length_singleton, List.range_succ, List.map_append,
      h.numbers] at numbers
    exact ⟨by simpa using numbers, Option.some.inj told⟩
  · rintro ⟨number, tells⟩
    refine ⟨?_, by rw [told_concat, tells]; rfl⟩
    rw [List.map_append, List.length_append, List.length_singleton, List.range_succ, List.map_append,
      h.numbers]
    simp [number]

/-- A payment that is not stored has no entries. -/
theorem eq_nil_of_story {entries : List Entry} (h : Story entries none) : entries = [] := by
  rcases entries.eq_nil_or_concat' with rfl | ⟨before, e, rfl⟩
  · rfl
  · have told := h.status
    rw [told_concat] at told
    cases told

section
variable {uuid : UUIDText} {db : DB} {env : Env} {p : Payment}

theorem outbox_insertOutbox {e : Entry} (fresh : ∀ old ∈ db.outbox, old.eventID ≠ e.eventID) :
    (db.insertOutbox e).outbox = db.outbox ++ [e] := by
  have new : ¬ ∃ old ∈ db.outbox, old.eventID = e.eventID := by
    rintro ⟨old, hold, same⟩
    exact fresh old hold same
  rw [DB.insertOutbox, if_neg new]

theorem stream_insertOutbox (laws : uuid.Lawful) (db : DB) (e : Entry)
    (fresh : ∀ old ∈ db.outbox, old.eventID ≠ e.eventID) {owner : UUID}
    (own : e.aggregateID = uuid.string owner) (id : UUID) :
    (db.insertOutbox e).stream uuid id =
      if id = owner then db.stream uuid id ++ [e] else db.stream uuid id := by
  rw [DB.stream, outbox_insertOutbox fresh, List.filter_append]
  split
  · rename_i same
    simp [DB.stream, own, same]
  · rename_i other
    have : uuid.string owner ≠ uuid.string id := fun same => other (laws.string_injective same).symm
    simp [DB.stream, own, this]

/-- A payment is stored anew together with an entry. -/
theorem tells_iff (h : db.Tells uuid) {db' : DB} {owner : UUID} {e : Entry} {p' : Payment}
    (stream : ∀ id, db'.stream uuid id =
      if id = owner then db.stream uuid id ++ [e] else db.stream uuid id)
    (stored : ∀ id, db'.payments.find? id = if id = owner then some p' else db.payments.find? id) :
    db'.Tells uuid ↔ e.sequenceNumber = (db.stream uuid owner).length + 1 ∧
      e.payload.tells = p'.status.string := by
  constructor
  · intro tells
    have own := tells owner
    rw [stream, stored, if_pos rfl, if_pos rfl] at own
    exact (story_concat (h owner)).mp own
  · intro next id
    rw [stream, stored]
    split
    · rename_i own
      rw [own]
      exact (story_concat (h owner)).mpr next
    · exact h id

theorem stream_created (laws : uuid.Lawful) (fresh : ∀ e ∈ db.outbox, e.eventID ≠ env.eventID)
    (id : UUID) : (db.created uuid env p).stream uuid id =
      if id = p.paymentID then db.stream uuid id ++ [initiatedEntry uuid env p] else db.stream uuid id :=
  stream_insertOutbox laws (db.insertPayment p.row) (initiatedEntry uuid env p) fresh rfl id

theorem stream_updated (laws : uuid.Lawful) (fresh : ∀ e ∈ db.outbox, e.eventID ≠ env.eventID)
    {target : PaymentStatus} {verifoneToken declineReason : String} {payload : Payload} (id : UUID) :
    (db.updated uuid env p target verifoneToken declineReason payload).stream uuid id =
      if id = p.paymentID then db.stream uuid id ++ [statusEntry uuid env p payload]
      else db.stream uuid id :=
  stream_insertOutbox laws (db.setStatus p.paymentID target verifoneToken declineReason env.now)
    (statusEntry uuid env p payload) fresh rfl id

theorem tells_created (laws : uuid.Lawful) (h : db.Tells uuid) (free : db.Free p)
    (fresh : ∀ e ∈ db.outbox, e.eventID ≠ env.eventID) :
    (db.created uuid env p).Tells uuid ↔ p.status = .authorizing := by
  have empty : db.stream uuid p.paymentID = [] := by
    have story := h p.paymentID
    rw [free.id] at story
    exact eq_nil_of_story story
  rw [tells_iff h (stream_created laws fresh) (find?_created free), empty]
  constructor
  · rintro ⟨-, tells⟩
    have tells : PaymentStatus.authorizing.string = p.status.string := tells
    exact (PaymentStatus.string_injective tells).symm
  · intro status
    exact ⟨rfl, (congrArg PaymentStatus.string status).symm⟩

theorem tells_updated (laws : uuid.Lawful) (h : db.Tells uuid)
    (found : db.payments.find? p.paymentID = some p)
    (fresh : ∀ e ∈ db.outbox, e.eventID ≠ env.eventID) {target : PaymentStatus}
    {verifoneToken declineReason : String} {payload : Payload}
    (envelope : statusEnvelope uuid p target declineReason = .ok payload) :
    (db.updated uuid env p target verifoneToken declineReason payload).Tells uuid ↔
      (db.stream uuid p.paymentID).length = 1 := by
  have tells : payload.tells = target.string := by
    cases target <;> cases envelope <;> rfl
  rw [tells_iff h (stream_updated laws fresh) (find?_updated found)]
  constructor
  · rintro ⟨number, -⟩
    have number : (2 : ℤ) = (db.stream uuid p.paymentID).length + 1 := number
    omega
  · intro one
    rw [one]
    exact ⟨rfl, tells⟩

/-! ## Runs -/

/-- What holds as long as statuses change once: the first entry alone tells AUTHORIZING. -/
structure Steady (uuid : UUIDText) (db : DB) : Prop where
  tells : db.Tells uuid
  first : ∀ id p, db.payments.find? id = some p →
    (p.status = .authorizing ↔ (db.stream uuid id).length = 1)

theorem steady_created (laws : uuid.Lawful) (h : Steady uuid db) (free : db.Free p)
    (fresh : ∀ e ∈ db.outbox, e.eventID ≠ env.eventID) (status : p.status = .authorizing) :
    Steady uuid (db.created uuid env p) where
  tells := (tells_created laws h.tells free fresh).mpr status
  first id q stored := by
    rw [find?_created free] at stored
    rw [stream_created laws fresh]
    split at stored
    · rename_i own
      cases stored
      have story := h.tells p.paymentID
      rw [free.id] at story
      rw [if_pos own, own, eq_nil_of_story story]
      exact ⟨fun _ => rfl, fun _ => status⟩
    · rename_i other
      rw [if_neg other]
      exact h.first id q stored

theorem steady_updated (laws : uuid.Lawful) (h : Steady uuid db)
    (found : db.payments.find? p.paymentID = some p)
    (fresh : ∀ e ∈ db.outbox, e.eventID ≠ env.eventID) {target : PaymentStatus}
    {verifoneToken declineReason : String} {payload : Payload}
    (envelope : statusEnvelope uuid p target declineReason = .ok payload)
    (status : p.status = .authorizing) :
    Steady uuid (db.updated uuid env p target verifoneToken declineReason payload) where
  tells := (tells_updated laws h.tells found fresh envelope).mpr ((h.first _ p found).mp status)
  first id q stored := by
    rw [find?_updated found] at stored
    rw [stream_updated laws fresh]
    split at stored
    · rename_i own
      cases stored
      have one : (db.stream uuid id).length = 1 := own ▸ (h.first _ p found).mp status
      have changed : target ≠ .authorizing := by
        rintro rfl
        cases envelope
      rw [if_pos own, List.length_append, one]
      exact ⟨fun same => absurd same changed, fun two => by cases two⟩
    · rename_i other
      rw [if_neg other]
      exact h.first id q stored

variable {Tid : Type*} [DecidableEq Tid] {w : World Tid} {a : Act Tid}

theorem steady_step (laws : uuid.Lawful) (h : Steady uuid w.db) (fresh : FreshIDs w a)
    (guard : FirstChanges uuid w a) : Steady uuid (step uuid w a).db := by
  rcases db_step uuid w a with same | ⟨t, env, p, answer, rfl, creates, new⟩ |
    ⟨t, env, p, target, declineReason, q, payload, rfl, updates, new⟩
  · rwa [same]
  · rw [new]
    exact steady_created laws h creates.free fresh (guard p answer creates)
  · have own : q.paymentID = p.paymentID := (Table.find?_eq_some.mp updates.found).2
    rw [new]
    exact steady_updated laws h (own ▸ updates.found) fresh updates.envelope
      (guard p target declineReason q payload updates)

theorem firstChanges_of_tells (laws : uuid.Lawful) (h : Steady uuid w.db) (fresh : FreshIDs w a)
    (tells : (step uuid w a).db.Tells uuid) : FirstChanges uuid w a := by
  cases a with
  | create t env =>
    intro p answer creates
    have new : (step uuid w (.create t env)).db = w.db.created uuid env p := by
      rcases create_cases uuid w.db env p with ⟨-, -, busy⟩ | ⟨-, -, new⟩
      · exact absurd ⟨creates.free, creates.applies⟩ busy
      · simp only [step, respond, creates.phase]
        split <;> rename_i h <;> exact (congrArg Prod.fst h).symm.trans new
    rw [new] at tells
    exact (tells_created laws h.tells creates.free fresh).mp tells
  | update t env =>
    intro p target declineReason q payload updates
    have own : q.paymentID = p.paymentID := (Table.find?_eq_some.mp updates.found).2
    have new := db_of_updates updates
    rw [new] at tells
    exact (h.first _ q updates.found).mpr
      (own ▸ (tells_updated laws h.tells (own ▸ updates.found) fresh updates.envelope).mp tells)
  | initiatePayment | authorize | unlock | read | move | webhook | recheck | wait => trivial

/-- The entries about every payment are numbered in order and tell its status exactly as long as
payments are created authorised and change their status once. -/
theorem stream_tells_iff (laws : uuid.Lawful) {acts : List (Act Tid)}
    (fresh : Runs.EachStep (step uuid) FreshIDs {} acts) :
    Runs.Always (step uuid) (fun w => w.db.Tells uuid) {} acts ↔
      Runs.EachStep (step uuid) (FirstChanges uuid) {} acts := by
  have start : Steady uuid ({} : World Tid).db :=
    ⟨fun _ => story_nil, fun _ _ stored => by cases stored⟩
  have kept (w : World Tid) (a : Act Tid) (h : Steady uuid w.db) (fresh : FreshIDs w a)
      (guard : FirstChanges uuid w a) : Steady uuid (step uuid w a).db := steady_step laws h fresh guard
  have only (w : World Tid) (a : Act Tid) (h : Steady uuid w.db) (fresh : FreshIDs w a)
      (tells : (step uuid w a).db.Tells uuid) : FirstChanges uuid w a :=
    firstChanges_of_tells laws h fresh tells
  exact Runs.always_iff_eachStep_of (fun _ h => h.tells) kept only start fresh

end

/-! ## One payment -/

/-- The payment that a call comes to create. -/
def Phase.creates : Phase → Option Payment
  | .authorized p _ => some p
  | _ => none

namespace Till

def captured : List (Act Unit) := initiate 1 4 11 "tok-1" ++ call .capturePayment 1 12

theorem stream_tells_captured :
    Runs.Always (step till) (fun w => w.db.Tells till) {} captured := by
  refine (stream_tells_iff lawful_till (by decide +kernel)).mpr ⟨trivial, trivial, ?_, trivial, trivial, trivial, ?_, trivial⟩
  · intro p answer creates
    have status : (Phase.creates _).map Payment.status = _ :=
      congrArg (fun phase => phase.creates.map Payment.status) creates.phase
    exact Option.some.inj (status.symm.trans (by decide +kernel))
  · intro p target declineReason q payload updates
    have status := congrArg (Option.map fun change => change.2.1) updates.phase
    exact Option.some.inj (status.symm.trans (by decide +kernel))

/-- The gateway declines, and the payment is stored FAILED without a PaymentFailed. -/
def declined : List (Act Unit) :=
  [.initiatePayment () (intent 1 4) .committed 0, .authorize () (.ok { status := "DECLINED" }) 0,
    .create () (env 11)]

theorem failed_untold : ¬ ∀ (uuid : UUIDText) (acts : List (Act Unit)), uuid.Lawful →
    Runs.EachStep (step uuid) FreshIDs {} acts →
      Runs.Always (step uuid) (fun w => w.db.Tells uuid) {} acts := by
  intro claim
  have story := Runs.always_last (claim till declined lawful_till (by decide +kernel)) 1
  have status := story.status
  revert status
  decide +kernel

end Till

end PaymentOrchestrator
