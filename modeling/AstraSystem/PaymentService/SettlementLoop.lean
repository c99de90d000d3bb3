import AstraSystem.PaymentService.Authenticity

/-!
# The settlement loops (`RunSettlementLoop`, `settleBatch`)

A loop loads a batch, hands each token to the processor and then marks its row, in three statements that nothing locks.
-/

namespace PaymentService

open Runs (Always EachStep)
open PaymentRepository (settle)
open Postgres (Outcome)

/-- What is left of a loop's batch, and the result for the first of it, while that is not marked yet. -/
structure Loop where
  tokens : List OfflineToken := []
  result : Option SettlementResult := none

/-- The loop has handed the token to the processor, and not marked it yet. -/
def Loop.InFlight (l : Loop) (tokenID : String) (result : SettlementResult) : Prop :=
  l.result = some result ∧ l.tokens.head?.map OfflineToken.tokenID = some tokenID

/-- A call to the processor. -/
structure Call where
  tokenID : String
  result : SettlementResult
  deriving DecidableEq

structure State where
  table : OfflineTokens := .empty
  loops : ℕ → Loop := fun _ => {}
  calls : List Call := []

inductive Action where
  | queueOfflineToken (token : OfflineToken) (outcome : Outcome)
  | load (i : ℕ) (now : ℤ) (order : Shuffle Row) (fault : Option String)
  | call (i : ℕ) (settledAt : ℤ)
  | mark (i : ℕ) (now : ℤ) (outcome : Outcome)
  | crash (i : ℕ)

def batchSize : ℕ := 50

/-- The processor is simulated. -/
def settlementResult (settledAt : ℤ) : SettlementResult where
  settledAt
  success := true
  processorID := "simulated-settlement"

namespace State

variable (r : PaymentRepository) (s : State)

def setLoop (i : ℕ) (l : Loop) : State := { s with loops := Function.update s.loops i l }

/-- A tick finds the last batch done, and is given up where the query fails. -/
def load (i : ℕ) (now : ℤ) (order : Shuffle Row) (fault : Option String) : State :=
  match (s.loops i).tokens, r.loadUnsettledOfflineTokens s.table now order batchSize fault with
  | [], .ok tokens => s.setLoop i { tokens }
  | _, _ => s

theorem load_table (i : ℕ) (now : ℤ) (order : Shuffle Row) (fault : Option String) :
    (s.load r i now order fault).table = s.table := by
  unfold load
  split <;> rfl

def call (i : ℕ) (settledAt : ℤ) : State :=
  match s.loops i with
  | ⟨token :: tokens, none⟩ =>
    let result := settlementResult settledAt
    { s.setLoop i ⟨token :: tokens, some result⟩ with calls := s.calls ++ [⟨token.tokenID, result⟩] }
  | _ => s

/-- Where marking fails the loop goes on with the next token. -/
def mark (i : ℕ) (now : ℤ) (outcome : Outcome) : State :=
  match s.loops i with
  | ⟨token :: tokens, some result⟩ =>
    { s.setLoop i { tokens } with table := (r.markOfflineSettled s.table now token.tokenID result outcome).1 }
  | _ => s

def step : Action → State
  | .queueOfflineToken token outcome => { s with table := (r.queueOfflineToken s.table token outcome).1 }
  | .load i now order fault => s.load r i now order fault
  | .call i settledAt => s.call i settledAt
  | .mark i now outcome => s.mark r i now outcome
  | .crash i => s.setLoop i {}

/-- No token is handed over twice, and one that was is marked, or about to be. -/
structure Once : Prop where
  once : (s.calls.map Call.tokenID).Nodup
  marked : ∀ c ∈ s.calls, (∃ i, (s.loops i).InFlight c.tokenID c.result) ∨
    ∃ row ∈ s.table.rows, r.uuid.string row.tokenID = c.tokenID ∧ row.settlementResult = some c.result

/-- A recorded result stays. -/
def Keeps (a : Action) : Prop := ∀ row ∈ s.table.rows, row.settlementResult.isSome →
  ∃ row' ∈ (s.step r a).table.rows, row'.tokenID = row.tokenID ∧ row'.settlementResult = row.settlementResult

/-- A token is handed over while its row is unsettled and in no loop's hands, and is then marked: its loop does not crash
in between, and the update takes effect. -/
def Undisturbed : Action → Prop
  | .call i _ => ∀ token tokens, s.loops i = ⟨token :: tokens, none⟩ →
    (∀ row ∈ s.table.rows, r.uuid.string row.tokenID = token.tokenID → row.settledAt = none) ∧
      ∀ j result, ¬ (s.loops j).InFlight token.tokenID result
  | .mark i _ outcome => ∀ tokenID result, (s.loops i).InFlight tokenID result → outcome.applies = true
  | .crash i => ∀ tokenID result, ¬ (s.loops i).InFlight tokenID result
  | _ => True

structure Sound : Prop where
  once : s.Once r
  recorded : ∀ row ∈ s.table.rows, row.settledAt = none ↔ row.settlementResult = none
  called : ∀ row ∈ s.table.rows, row.settledAt ≠ none → r.uuid.string row.tokenID ∈ s.calls.map Call.tokenID
  inFlight : ∀ i tokenID result, (s.loops i).InFlight tokenID result → ⟨tokenID, result⟩ ∈ s.calls ∧
    ∀ row ∈ s.table.rows, r.uuid.string row.tokenID = tokenID → row.settledAt = none
  apart : ∀ i j tokenID result result', (s.loops i).InFlight tokenID result → (s.loops j).InFlight tokenID result' → i = j
  queued : ∀ i, ∀ token ∈ (s.loops i).tokens, ∃ row ∈ s.table.rows, r.uuid.string row.tokenID = token.tokenID

end State

/-! ## The steps -/

section
variable {r : PaymentRepository} {s : State} {i j : ℕ} {tokenID : String} {result : SettlementResult}
  {token : OfflineToken} {tokens : List OfflineToken}

theorem Loop.not_inFlight (tokens : List OfflineToken) (tokenID : String) (result : SettlementResult) :
    ¬ Loop.InFlight { tokens } tokenID result := fun h => by cases h.1

theorem Loop.inFlight_iff {given : SettlementResult} : Loop.InFlight ⟨token :: tokens, some given⟩ tokenID result ↔
    given = result ∧ token.tokenID = tokenID := by
  simp [Loop.InFlight]

namespace State

@[simp] theorem setLoop_self {l : Loop} : (s.setLoop i l).loops i = l := Function.update_self ..

theorem setLoop_of_ne {l : Loop} (other : j ≠ i) : (s.setLoop i l).loops j = s.loops j := Function.update_of_ne other ..

/-- With a loop that hands nothing over any more, what was in flight elsewhere still is. -/
theorem inFlight_idle : ((s.setLoop i { tokens }).loops j).InFlight tokenID result ↔
    j ≠ i ∧ (s.loops j).InFlight tokenID result := by
  by_cases same : j = i
  · subst same
    rw [setLoop_self]
    exact ⟨fun h => absurd h (Loop.not_inFlight tokens tokenID result), fun h => absurd rfl h.1⟩
  · rw [setLoop_of_ne same]
    exact (and_iff_right same).symm

theorem Sound.queueOfflineToken (h : s.Sound r) (token : OfflineToken) (outcome : Outcome) :
    (s.step r (.queueOfflineToken token outcome)).Sound r := by
  have added {row : Row} (mem : row ∈ (s.step r (.queueOfflineToken token outcome)).table.rows) :
      row ∈ s.table.rows ∨ row.settledAt = none ∧ row.settlementResult = none := by
    obtain old | ⟨-, c, -, -, rfl⟩ := PaymentRepository.mem_queueOfflineToken.mp mem
    · exact .inl old
    · exact .inr ⟨rfl, rfl⟩
  have kept {row : Row} (mem : row ∈ s.table.rows) : row ∈ (s.step r (.queueOfflineToken token outcome)).table.rows :=
    PaymentRepository.mem_queueOfflineToken.mpr (.inl mem)
  refine ⟨⟨h.once.once, fun c mem => ?_⟩, fun row mem => ?_, fun row mem settled => ?_, ?_, h.apart, ?_⟩
  · obtain flying | ⟨row, mem, own, marked⟩ := h.once.marked c mem
    · exact .inl flying
    · exact .inr ⟨row, kept mem, own, marked⟩
  · obtain old | ⟨settledAt, result⟩ := added mem
    · exact h.recorded row old
    · exact iff_of_true settledAt result
  · obtain old | ⟨settledAt, -⟩ := added mem
    · exact h.called row old settled
    · exact absurd settledAt settled
  · intro i tokenID result flying
    refine ⟨(h.inFlight i tokenID result flying).1, fun row mem own => ?_⟩
    obtain old | ⟨settledAt, -⟩ := added mem
    · exact (h.inFlight i tokenID result flying).2 row old own
    · exact settledAt
  · intro i token mem
    obtain ⟨row, mem, own⟩ := h.queued i token mem
    exact ⟨row, kept mem, own⟩

/-- A loop that has nothing in flight is given other tokens. -/
theorem Sound.setLoop (h : s.Sound r) (idle : ∀ tokenID result, ¬ (s.loops i).InFlight tokenID result)
    (queued : ∀ token ∈ tokens, ∃ row ∈ s.table.rows, r.uuid.string row.tokenID = token.tokenID) :
    (s.setLoop i { tokens }).Sound r := by
  have elsewhere {j : ℕ} {tokenID : String} {result : SettlementResult} :
      ((s.setLoop i { tokens }).loops j).InFlight tokenID result ↔ (s.loops j).InFlight tokenID result := by
    refine inFlight_idle.trans (and_iff_right_of_imp ?_)
    rintro flying rfl
    exact idle tokenID result flying
  refine ⟨⟨h.once.once, fun c mem => ?_⟩, h.recorded, h.called, ?_, ?_, ?_⟩
  · exact (h.once.marked c mem).imp_left fun ⟨j, flying⟩ => ⟨j, elsewhere.mpr flying⟩
  · intro j tokenID result flying
    exact h.inFlight j tokenID result (elsewhere.mp flying)
  · intro j k tokenID result result' flying flying'
    exact h.apart j k tokenID result result' (elsewhere.mp flying) (elsewhere.mp flying')
  · intro j token mem
    by_cases same : j = i
    · subst same
      rw [setLoop_self] at mem
      exact queued token mem
    · rw [setLoop_of_ne same] at mem
      exact h.queued j token mem

theorem Sound.load (h : s.Sound r) (i : ℕ) (now : ℤ) (order : Shuffle Row) (fault : Option String) :
    (s.load r i now order fault).Sound r := by
  unfold State.load
  split
  · rename_i tokens empty loaded
    refine h.setLoop (fun tokenID result flying => ?_) fun token mem => ?_
    · have head := flying.2
      rw [empty] at head
      cases head
    · unfold PaymentRepository.loadUnsettledOfflineTokens at loaded
      split at loaded
      · cases loaded
      · cases loaded
        obtain ⟨row, found, rfl⟩ := List.mem_map.mp mem
        exact ⟨row, (PaymentRepository.mem_unsettled found).1, rfl⟩
  · exact h

theorem Sound.call (h : s.Sound r) {settledAt : ℤ} (undisturbed : s.Undisturbed r (.call i settledAt)) :
    (s.call i settledAt).Sound r := by
  unfold State.call
  split
  · rename_i token tokens held
    obtain ⟨unsettled, free⟩ := undisturbed token tokens held
    have after (j : ℕ) (tokenID : String) (result : SettlementResult) :
        ((s.setLoop i ⟨token :: tokens, some (settlementResult settledAt)⟩).loops j).InFlight tokenID result ↔
          (j = i ∧ token.tokenID = tokenID ∧ settlementResult settledAt = result) ∨
            (s.loops j).InFlight tokenID result := by
      by_cases same : j = i
      · subst same
        rw [setLoop_self, Loop.inFlight_iff, held]
        simp [Loop.InFlight, and_comm]
      · rw [setLoop_of_ne same]
        simp [same]
    have new : token.tokenID ∉ s.calls.map Call.tokenID := by
      intro mem
      obtain ⟨c, mem, same⟩ := List.mem_map.mp mem
      obtain ⟨j, flying⟩ | ⟨row, mem, own, marked⟩ := h.once.marked c mem
      · exact free j c.result (same ▸ flying)
      · have settled := (h.recorded row mem).mp (unsettled row mem (own.trans same))
        rw [marked] at settled
        cases settled
    refine ⟨⟨?_, fun c mem => ?_⟩, h.recorded, fun row mem settled => ?_, ?_, ?_, ?_⟩
    · rw [List.map_append]
      refine List.nodup_append.mpr ⟨h.once.once, List.nodup_singleton _, ?_⟩
      rintro a mem b single rfl
      cases List.mem_singleton.mp single
      exact new mem
    · obtain old | single := List.mem_append.mp mem
      · exact (h.once.marked c old).imp_left fun ⟨j, flying⟩ => ⟨j, (after j _ _).mpr (.inr flying)⟩
      · cases List.mem_singleton.mp single
        exact .inl ⟨i, (after i _ _).mpr (.inl ⟨rfl, rfl, rfl⟩)⟩
    · rw [List.map_append]
      exact List.mem_append_left _ (h.called row mem settled)
    · intro j tokenID result flying
      obtain ⟨-, rfl, rfl⟩ | flying := (after j tokenID result).mp flying
      · exact ⟨List.mem_append_right _ (List.mem_singleton_self _), unsettled⟩
      · exact ⟨List.mem_append_left _ (h.inFlight j tokenID result flying).1, (h.inFlight j tokenID result flying).2⟩
    · intro j k tokenID result result' flying flying'
      obtain ⟨rfl, rfl, -⟩ | old := (after j tokenID result).mp flying
      · obtain ⟨rfl, -⟩ | old' := (after k token.tokenID result').mp flying'
        · rfl
        · exact absurd old' (free k result')
      · obtain ⟨rfl, rfl, -⟩ | old' := (after k tokenID result').mp flying'
        · exact absurd old (free j result)
        · exact h.apart j k tokenID result result' old old'
    · intro j t mem
      by_cases same : j = i
      · subst same
        have mem : t ∈ token :: tokens := by simpa using mem
        exact h.queued j t (by rw [held]; exact mem)
      · exact h.queued j t (by rw [← setLoop_of_ne same]; exact mem)
  · exact h

/-- Marking a token in flight records its result in its row, and leaves the others. -/
theorem Sound.mark (laws : r.uuid.Lawful) (h : s.Sound r) {now : ℤ} {outcome : Outcome}
    (undisturbed : s.Undisturbed r (.mark i now outcome)) : (s.mark r i now outcome).Sound r := by
  unfold State.mark
  split
  · rename_i token tokens result held
    have flying : (s.loops i).InFlight token.tokenID result := held ▸ Loop.inFlight_iff.mpr ⟨rfl, rfl⟩
    obtain ⟨called, unsettled⟩ := h.inFlight i token.tokenID result flying
    obtain ⟨own, ownMem, ownID⟩ := h.queued i token (by rw [held]; exact List.mem_cons_self)
    have rows (row : Row) : row ∈ (r.markOfflineSettled s.table now token.tokenID result outcome).1.rows ↔
        ∃ old ∈ s.table.rows, settle own.tokenID now result old = row := by
      refine PaymentRepository.mem_markOfflineSettled ?_ (undisturbed token.tokenID result flying)
      rw [← ownID, laws.parse_string]
    have kept {row : Row} (mem : row ∈ s.table.rows) : settle own.tokenID now result row ∈
        (r.markOfflineSettled s.table now token.tokenID result outcome).1.rows := (rows _).mpr ⟨row, mem, rfl⟩
    have self {row : Row} (same : row.tokenID = own.tokenID) : r.uuid.string row.tokenID = token.tokenID := same ▸ ownID
    refine ⟨⟨h.once.once, fun c mem => ?_⟩, fun row mem => ?_, fun row mem settled => ?_, ?_, ?_, ?_⟩
    · obtain ⟨j, old⟩ | ⟨row, mem, same, marked⟩ := h.once.marked c mem
      · by_cases other : j = i
        · subst other
          rw [held, Loop.inFlight_iff] at old
          refine .inr ⟨_, kept ownMem, ?_, ?_⟩
          · rw [PaymentRepository.settle_tokenID, ownID, old.2]
          · rw [PaymentRepository.settle_own rfl, old.1]
        · exact .inl ⟨j, inFlight_idle.mpr ⟨other, old⟩⟩
      · have other : row.tokenID ≠ own.tokenID := fun same => by
          have unmarked := (h.recorded row mem).mp (unsettled row mem (self same))
          rw [marked] at unmarked
          cases unmarked
        have unchanged : settle own.tokenID now result row = row := PaymentRepository.settle_other other
        exact .inr ⟨row, unchanged ▸ kept mem, same, marked⟩
    · obtain ⟨old, found, rfl⟩ := (rows row).mp mem
      by_cases same : old.tokenID = own.tokenID
      · rw [PaymentRepository.settle_own same]
        simp
      · rw [PaymentRepository.settle_other same]
        exact h.recorded old found
    · obtain ⟨old, found, rfl⟩ := (rows row).mp mem
      by_cases same : old.tokenID = own.tokenID
      · rw [PaymentRepository.settle_tokenID, self same]
        exact List.mem_map.mpr ⟨_, called, rfl⟩
      · rw [PaymentRepository.settle_other same] at settled ⊢
        exact h.called old found settled
    · intro j tokenID result' flying'
      obtain ⟨other, old⟩ := inFlight_idle.mp flying'
      refine ⟨(h.inFlight j tokenID result' old).1, fun row mem same => ?_⟩
      obtain ⟨row, found, rfl⟩ := (rows row).mp mem
      rw [PaymentRepository.settle_tokenID] at same
      have apart : row.tokenID ≠ own.tokenID := fun eq => by
        rw [self eq] at same
        subst same
        exact other (h.apart j i _ result' result old flying)
      rw [PaymentRepository.settle_other apart]
      exact (h.inFlight j tokenID result' old).2 row found same
    · intro j k tokenID result result' flying flying'
      exact h.apart j k tokenID result result' (inFlight_idle.mp flying).2 (inFlight_idle.mp flying').2
    · intro j t mem
      have mem : t ∈ (s.loops j).tokens := by
        by_cases same : j = i
        · subst same
          have mem : t ∈ tokens := by simpa using mem
          rw [held]
          exact List.mem_cons_of_mem _ mem
        · rw [← setLoop_of_ne same]
          exact mem
      obtain ⟨row, mem, same⟩ := h.queued j t mem
      refine ⟨_, kept mem, ?_⟩
      rw [PaymentRepository.settle_tokenID]
      exact same
  · exact h

theorem Sound.step (laws : r.uuid.Lawful) (h : s.Sound r) {a : Action} (undisturbed : s.Undisturbed r a) :
    (s.step r a).Sound r := by
  cases a with
  | queueOfflineToken token outcome => exact h.queueOfflineToken token outcome
  | load i now order fault => exact h.load i now order fault
  | call i settledAt => exact h.call undisturbed
  | mark i now outcome => exact h.mark laws undisturbed
  | crash i => exact h.setLoop undisturbed fun token mem => by cases mem

/-- A token that a loop drops while its result is in no row was handed over for nothing. -/
theorem Sound.dropped (h : s.Sound r) (flying : (s.loops i).InFlight tokenID result) (tokens : List OfflineToken)
    {after : State} (loops : after.loops = (s.setLoop i { tokens }).loops) (calls : after.calls = s.calls)
    (table : after.table = s.table) : ¬ after.Once r := by
  intro once
  obtain ⟨called, unsettled⟩ := h.inFlight i tokenID result flying
  obtain ⟨j, still⟩ | ⟨row, mem, own, marked⟩ := once.marked _ (calls ▸ called)
  · rw [loops] at still
    obtain ⟨other, still⟩ := inFlight_idle.mp still
    exact other (h.apart j i tokenID result result still flying)
  · rw [table] at mem
    have unmarked := (h.recorded row mem).mp (unsettled row mem own)
    rw [marked] at unmarked
    cases unmarked

theorem Sound.undisturbed (h : s.Sound r) {a : Action} (once : (s.step r a).Once r) : s.Undisturbed r a := by
  cases a with
  | queueOfflineToken token outcome => trivial
  | load i now order fault => trivial
  | call i settledAt =>
    intro token tokens held
    have new : token.tokenID ∉ s.calls.map Call.tokenID := by
      have nodup := once.once
      rw [State.step, State.call, held] at nodup
      rw [List.map_append] at nodup
      exact fun mem => (List.nodup_append.mp nodup).2.2 _ mem _ (List.mem_singleton_self _) rfl
    constructor
    · intro row mem own
      by_contra settled
      exact new (own ▸ h.called row mem settled)
    · intro j result flying
      exact new (List.mem_map.mpr ⟨_, (h.inFlight j token.tokenID result flying).1, rfl⟩)
  | mark i now outcome =>
    intro tokenID result flying
    by_contra failed
    cases held : s.loops i with
    | mk tokens given =>
      rw [held] at flying
      obtain ⟨rfl, head⟩ := flying
      cases tokens with
      | nil => cases head
      | cons token tokens =>
        have flying : (s.loops i).InFlight token.tokenID result := held ▸ Loop.inFlight_iff.mpr ⟨rfl, rfl⟩
        have marked : s.step r (.mark i now outcome) = { s.setLoop i { tokens } with
            table := (r.markOfflineSettled s.table now token.tokenID result outcome).1 } := by
          rw [State.step, State.mark, held]
        refine h.dropped flying tokens ?_ ?_ ?_ once
        · rw [marked]
        · rw [marked]
          rfl
        · rw [marked]
          obtain same | ⟨-, -, applies, -⟩ :=
            PaymentRepository.markOfflineSettled_cases s.table now token.tokenID result outcome
          · exact same
          · exact absurd applies failed
  | crash i =>
    intro tokenID result flying
    exact h.dropped flying [] rfl rfl rfl once

/-- The row of a token in flight has no result yet. -/
theorem Sound.keeps (laws : r.uuid.Lawful) (h : s.Sound r) (a : Action) : s.Keeps r a := by
  intro row mem recorded
  have stays (same : (s.step r a).table = s.table) : ∃ row' ∈ (s.step r a).table.rows, row'.tokenID = row.tokenID ∧
      row'.settlementResult = row.settlementResult := ⟨row, same ▸ mem, rfl, rfl⟩
  cases a with
  | queueOfflineToken token outcome =>
    exact ⟨row, PaymentRepository.mem_queueOfflineToken.mpr (.inl mem), rfl, rfl⟩
  | load i now order fault =>
    refine stays ?_
    rw [State.step, State.load]
    split <;> rfl
  | call i settledAt =>
    refine stays ?_
    rw [State.step, State.call]
    split <;> rfl
  | mark i now outcome =>
    rw [State.step, State.mark]
    split
    · rename_i token tokens result held
      obtain ⟨-, unsettled⟩ := h.inFlight i token.tokenID result (held ▸ Loop.inFlight_iff.mpr ⟨rfl, rfl⟩)
      obtain ⟨own, -, ownID⟩ := h.queued i token (by rw [held]; exact List.mem_cons_self)
      by_cases applies : outcome.applies
      · have other : row.tokenID ≠ own.tokenID := fun same => by
          have none := (h.recorded row mem).mp (unsettled row mem (same ▸ ownID))
          rw [none] at recorded
          cases recorded
        have parsed : r.uuid.parse token.tokenID = .ok own.tokenID := by rw [← ownID, laws.parse_string]
        refine ⟨row, (PaymentRepository.mem_markOfflineSettled parsed applies).mpr ⟨row, mem, ?_⟩, rfl, rfl⟩
        exact PaymentRepository.settle_other other
      · obtain same | ⟨-, -, applied, -⟩ :=
          PaymentRepository.markOfflineSettled_cases (r := r) s.table now token.tokenID result outcome
        · exact ⟨row, same.symm ▸ mem, rfl, rfl⟩
        · exact absurd applied applies
    · exact ⟨row, mem, rfl, rfl⟩
  | crash i => exact stays rfl

end State

end

/-- **No token is settled twice, each is marked with the result of its settlement, and results stay, exactly in runs that
hand over tokens whose rows are unsettled and in no loop's hands, with no crash or failure before they are marked.** -/
theorem once_iff {r : PaymentRepository} (laws : r.uuid.Lawful) (actions : List Action) :
    (Always (State.step r) (State.Once r) {} actions ∧ EachStep (State.step r) (State.Keeps r) {} actions) ↔
      EachStep (State.step r) (State.Undisturbed r) {} actions := by
  have idle (i : ℕ) (tokenID : String) (result : SettlementResult) :
      ¬ (({} : State).loops i).InFlight tokenID result := Loop.not_inFlight [] tokenID result
  have start : State.Sound r {} := by
    refine ⟨⟨List.nodup_nil, ?_⟩, ?_, ?_, ?_, ?_, ?_⟩
    · intro c mem
      cases mem
    · intro row mem
      cases mem
    · intro row mem
      cases mem
    · exact fun i tokenID result flying => absurd flying (idle i tokenID result)
    · exact fun i j tokenID result result' flying => absurd flying (idle i tokenID result)
    · intro i token mem
      cases mem
  have step (s : State) (a : Action) (h : s.Sound r) (undisturbed : s.Undisturbed r a) : (s.step r a).Sound r :=
    h.step laws undisturbed
  have always := Runs.always_iff_eachStep (fun _ h => h.once) step (fun _ _ h once => h.undisturbed once) start actions
  refine ⟨fun h => always.mp h.1, fun h => ⟨always.mpr h, ?_⟩⟩
  exact Runs.eachStep_of_eachStep (fun s a h _ => h.keeps laws a) step start h

/-! ## One token, one loop and two -/

namespace Altered

theorem settled_once :
    Always (State.step repository) (State.Once repository) {} [.queueOfflineToken token .committed,
        .load 0 0 (.none Row) none, .call 0 0, .mark 0 0 .committed] ∧
      EachStep (State.step repository) (State.Keeps repository) {} [.queueOfflineToken token .committed,
        .load 0 0 (.none Row) none, .call 0 0, .mark 0 0 .committed] := by
  refine (once_iff (r := repository) UUIDText.lawful_hyphenated _).mpr ⟨trivial, trivial, ?_, fun _ _ _ => rfl, trivial⟩
  intro t tokens _
  constructor
  · have unsettled : ∀ row ∈ (repository.queueOfflineToken .empty token .committed).1.rows, row.settledAt = none := by
      intro row mem
      obtain old | ⟨-, c, -, -, rfl⟩ := PaymentRepository.mem_queueOfflineToken.mp mem
      · cases old
      · rfl
    intro row mem _
    simp only [State.step, State.load_table] at mem
    exact unsettled row mem
  · intro j result flying
    cases j with
    | zero => cases flying.1
    | succ j => cases flying.1

/-- Both loops have the token when they come to the processor. -/
theorem settled_again :
    ¬ (Always (State.step repository) (State.Once repository) {} [.queueOfflineToken token .committed,
        .load 0 0 (.none Row) none, .load 1 0 (.none Row) none, .call 0 0, .call 1 0] ∧
      EachStep (State.step repository) (State.Keeps repository) {} [.queueOfflineToken token .committed,
        .load 0 0 (.none Row) none, .load 1 0 (.none Row) none, .call 0 0, .call 1 0]) := by
  rintro ⟨h, -⟩
  have once := (Runs.always_last h).once
  revert once
  decide +kernel

end Altered

end PaymentService
