import AstraSystem.Lib.Table
import AstraSystem.PaymentOrchestrator.OfflineToken

/-!
# Settlement of offline tokens (`offline/offline.go`, `handler/handler.go`)

The settler keeps nothing between tokens: each is verified, checked and settled on its own. What it
would take to refuse a token that comes again is in the tokens alone.
-/

namespace PaymentOrchestrator

structure SettlementResult where
  tokenID : UUID
  status : PaymentStatus
  declineReason : String := ""
  /-- `none` is the zero time. -/
  settledAt : Option ℤ := none
  deriving DecidableEq, Repr

/-- What the settler finds when it comes to a token. -/
structure Turn where
  /-- Nanoseconds since 1970, as the next. -/
  now : ℤ
  settledAt : ℤ
  /-- What the gateway answers, or an error, with which it may have settled the token `unseen`. -/
  answer : Except String Unit
  unseen : Bool := false

/-- Whether the gateway has settled the token, told or not. -/
def Turn.accepted (turn : Turn) : Bool :=
  match turn.answer with
  | .ok () => true
  | .error _ => turn.unseen

/-- A call of the gateway's `Settle`. -/
structure SettleCall where
  tokenID : String
  verifoneOpaqueToken : String
  accepted : Bool
  deriving DecidableEq, Repr

/-- The keys of a service and of what it runs on. -/
structure Settler where
  uuid : UUIDText
  hmacSHA256 : List UInt8 → List UInt8 → List UInt8
  secret : List UInt8

namespace Settler

variable (s : Settler)

/-- The body of the loop. -/
def settle (token : OfflineToken) (turn : Turn) : SettlementResult × List SettleCall :=
  match verify s.uuid s.hmacSHA256 s.secret token with
  | .error err => (⟨token.tokenID, .failed, err, none⟩, [])
  | .ok () =>
    if token.expiresAt.unixNano < turn.now then
      (⟨token.tokenID, .failed, "offline: token expired", none⟩, [])
    else
      let call : SettleCall :=
        ⟨s.uuid.string token.tokenID, token.verifoneOpaqueToken, turn.accepted⟩
      match turn.answer with
      | .error err => (⟨token.tokenID, .failed, err, none⟩, [call])
      | .ok () => (⟨token.tokenID, .settled, "", some turn.settledAt⟩, [call])

def settleBatch (tokens : List (OfflineToken × Turn)) : List SettlementResult × List SettleCall :=
  tokens.foldl (fun (results, calls) (token, turn) =>
    let (result, call) := s.settle token turn
    (results ++ [result], calls ++ call)) ([], [])

/-- A request: its tokens, and what the settler will find at each. -/
structure Batch where
  now : ℤ
  tokens : List (OfflineTokenRequest × Turn)

def parseBatch (req : Batch) : Except String (List (OfflineToken × Turn)) :=
  req.tokens.mapM fun (t, turn) => do
    let token ← parseOfflineToken s.uuid req.now t
    pure (token, turn)

def settleOfflineTokens (req : Batch) :
    Except (ℕ × String) (List SettlementResult) × List SettleCall :=
  if req.tokens = [] then (.error (400, "empty_batch"), [])
  else
    match s.parseBatch req with
    | .error err => (.error (400, err), [])
    | .ok tokens =>
      let (results, calls) := s.settleBatch tokens
      (.ok results, calls)

/-! ## Histories -/

/-- The tokens that the settler comes to over a number of requests. -/
def submitted (history : List Batch) : List (OfflineToken × Turn) :=
  history.flatMap fun req => (s.parseBatch req).toOption.getD []

/-- The calls that the gateway receives. -/
def received (history : List Batch) : List SettleCall :=
  history.flatMap fun req => (s.settleOfflineTokens req).2

/-- A token passes the checks before the gateway. -/
def passes (x : OfflineToken × Turn) : Bool :=
  (verify s.uuid s.hmacSHA256 s.secret x.1).isOk ∧ x.2.now ≤ x.1.expiresAt.unixNano

/-- No token that passes the checks is submitted once the gateway has settled its id. -/
def NoReplay (history : List Batch) : Prop :=
  (s.submitted history).Pairwise fun x y =>
    s.passes x = true → x.2.accepted = true → s.passes y = true → x.1.tokenID ≠ y.1.tokenID

end Settler

/-- The gateway settles each token once, and is asked no more after that. -/
structure SettledOnce (calls : List SettleCall) : Prop where
  once : ∀ tokenID, calls.countP (fun c => c.accepted ∧ c.tokenID = tokenID) ≤ 1
  silent : calls.Pairwise fun c d => c.accepted = true → c.tokenID ≠ d.tokenID

/-- The results of a response. An error has none. -/
def Settler.results (s : Settler) (req : Settler.Batch) : List SettlementResult :=
  (s.settleOfflineTokens req).1.toOption.getD []

/-- A response has one result for each token, in order, settled or failed as that token alone
decides. -/
def Settler.Answers (s : Settler) (req : Settler.Batch) : Prop :=
  List.Forall₂ (fun (x : OfflineTokenRequest × Turn) result => ∃ token,
    parseOfflineToken s.uuid req.now x.1 = .ok token ∧ result = (s.settle token x.2).1 ∧
      (result.status = .settled ∨ result.status = .failed)) req.tokens (s.results req)

/-- Every token of a request is read. -/
def Settler.Readable (s : Settler) (req : Settler.Batch) : Prop :=
  ∀ x ∈ req.tokens, (parseOfflineToken s.uuid req.now x.1).isOk = true

/-! ## One token at a time -/

variable {s : Settler}

theorem settleBatch_eq (tokens : List (OfflineToken × Turn)) :
    s.settleBatch tokens = (tokens.map fun x => (s.settle x.1 x.2).1,
      tokens.flatMap fun x => (s.settle x.1 x.2).2) := by
  have general (results : List SettlementResult) (calls : List SettleCall) :
      tokens.foldl (fun (acc : List SettlementResult × List SettleCall) (x : OfflineToken × Turn) =>
        (acc.1 ++ [(s.settle x.1 x.2).1], acc.2 ++ (s.settle x.1 x.2).2)) (results, calls) =
      (results ++ tokens.map fun x => (s.settle x.1 x.2).1,
        calls ++ tokens.flatMap fun x => (s.settle x.1 x.2).2) := by
    induction tokens generalizing results calls with
    | nil => simp
    | cons x tokens ih => simp [ih]
  exact general [] []

theorem settle_status (token : OfflineToken) (turn : Turn) :
    (s.settle token turn).1.status = .settled ∨ (s.settle token turn).1.status = .failed := by
  unfold Settler.settle
  repeat' split
  all_goals first
    | exact .inl rfl
    | exact .inr rfl

/-- A token that is not read takes the results of the whole request away. -/
theorem answers_iff (s : Settler) (req : Settler.Batch) : s.Answers req ↔ s.Readable req := by
  constructor
  · intro answers
    have each : List.Forall₂ (fun (x : OfflineTokenRequest × Turn) (_ : SettlementResult) =>
        (parseOfflineToken s.uuid req.now x.1).isOk = true ∧ True) req.tokens (s.results req) := by
      refine answers.imp ?_
      rintro x result ⟨token, read, -⟩
      exact ⟨by rw [read]; rfl, trivial⟩
    exact ((List.forall₂_and_left _ _).mp each).1
  · intro readable
    obtain ⟨tokens, parsed⟩ : ∃ tokens, s.parseBatch req = .ok tokens := by
      apply Statement.mapM_ok
      rintro ⟨t, turn⟩ hx
      have ok := readable (t, turn) hx
      cases read : parseOfflineToken s.uuid req.now t with
      | error err => simp [read, Except.isOk, Except.toBool] at ok
      | ok token => exact ⟨(token, turn), by simp only [read]; rfl⟩
    have each := Statement.forall₂_of_mapM parsed
    unfold Settler.Answers Settler.results Settler.settleOfflineTokens
    split
    · rename_i empty
      rw [empty]
      exact .nil
    · rw [parsed]
      simp only [settleBatch_eq, Except.toOption, Option.getD_some, List.forall₂_map_right_iff]
      refine each.imp ?_
      rintro ⟨t, turn⟩ x hx
      obtain ⟨token, accepted, same⟩ := Statement.bind_eq_ok.mp hx
      cases same
      exact ⟨token, accepted, rfl, settle_status token turn⟩

/-! ## The gateway -/

/-- The call that a token makes. -/
def Settler.call (s : Settler) (x : OfflineToken × Turn) : Option SettleCall :=
  if s.passes x then some ⟨s.uuid.string x.1.tokenID, x.1.verifoneOpaqueToken, x.2.accepted⟩
  else none

theorem settle_calls (x : OfflineToken × Turn) : (s.settle x.1 x.2).2 = (s.call x).toList := by
  unfold Settler.settle Settler.call
  split
  · rename_i err refused
    have passes : s.passes x = false := by simp [Settler.passes, refused, Except.isOk, Except.toBool]
    rw [passes]
    rfl
  · rename_i verified
    split
    · rename_i expired
      have passes : s.passes x = false := by simp [Settler.passes, expired]
      rw [passes]
      rfl
    · rename_i current
      have passes : s.passes x = true := by
        simp [Settler.passes, verified, not_lt.mp current, Except.isOk, Except.toBool]
      rw [passes]
      split <;> rfl

theorem received_eq (history : List Settler.Batch) :
    s.received history = (s.submitted history).filterMap s.call := by
  have one (req : Settler.Batch) : (s.settleOfflineTokens req).2 =
      ((s.parseBatch req).toOption.getD []).flatMap fun x => (s.call x).toList := by
    unfold Settler.settleOfflineTokens
    split
    · rename_i empty
      have parsed : s.parseBatch req = .ok [] := by rw [Settler.parseBatch, empty]; rfl
      rw [parsed]
      rfl
    · split <;> rename_i parsed <;> rw [parsed]
      · rfl
      · rw [settleBatch_eq]
        simp only [settle_calls, Except.toOption, Option.getD_some]
  rw [Settler.received, Settler.submitted, List.filterMap_eq_flatMap_toList, List.flatMap_assoc]
  simp only [one]

theorem settledOnce_iff {calls : List SettleCall} : SettledOnce calls ↔
    calls.Pairwise fun c d => c.accepted = true → c.tokenID ≠ d.tokenID := by
  refine ⟨fun h => h.silent, fun silent => ⟨fun tokenID => ?_, silent⟩⟩
  induction silent with
  | nil => exact Nat.zero_le 1
  | @cons c calls later _ ih =>
    rw [List.countP_cons]
    split
    · rename_i own
      obtain ⟨accepted, rfl⟩ := of_decide_eq_true own
      have none : calls.countP (fun d => d.accepted ∧ d.tokenID = c.tokenID) = 0 := by
        rw [List.countP_eq_zero]
        intro d hd same
        exact later d hd accepted (of_decide_eq_true same).2.symm
      omega
    · exact ih

namespace Slip

def settler : Settler where
  uuid := .hyphenated
  hmacSHA256 := mac
  secret

/-- The first hour of 2030 is not over. -/
def turn : Turn where
  now := 0
  settledAt := 0
  answer := .ok ()

def once : Settler.Batch where
  now := 0
  tokens := [(request "2030-01-01T00:00:00Z", turn)]

def twice : Settler.Batch where
  now := 0
  tokens := [(request "2030-01-01T00:00:00Z", turn), (request "2030-01-01T00:00:00Z", turn)]

theorem parse_once : settler.parseBatch once = .ok [(early, turn)] := by
  simp only [Settler.parseBatch, once, settler, List.mapM_cons, List.mapM_nil, parse_early]
  rfl

theorem parse_twice : settler.parseBatch twice = .ok [(early, turn), (early, turn)] := by
  simp only [Settler.parseBatch, twice, settler, List.mapM_cons, List.mapM_nil, parse_early]
  rfl

theorem passes_early : settler.passes (early, turn) = true := by
  have verified : verify .hyphenated mac secret early = .ok () := by
    have tagged : mac secret (Bytes.utf8 (canonicalForm .hyphenated early)) = tag := if_pos rfl
    have signature : Bytes.hex tag = early.hmacSignature := by decide +kernel
    rw [verify, if_neg (by decide), tagged, signature]
    exact if_pos (Bytes.constantTimeEq_iff.mpr rfl)
  have current : turn.now ≤ early.expiresAt.unixNano := by decide +kernel
  exact decide_eq_true ⟨congrArg Except.isOk verified, current⟩

end Slip

end PaymentOrchestrator
