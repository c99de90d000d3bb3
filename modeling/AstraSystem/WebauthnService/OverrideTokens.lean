import AstraSystem.Lib.Decimal
import AstraSystem.Lib.Separated
import AstraSystem.WebauthnService.Ceremonies

/-!
# What an override token speaks for

The store and the tenant of a token are those that the client named when it began the ceremony. The credential that the
assertion is verified for has a store or a tenant of its own, which nothing compares with them.
-/

namespace WebauthnService

open Postgres (Outcome)
open Runs (run Always EachStep)

variable {R P : Type}

/-- A signed token is read back, and is no empty text. -/
structure JWT.Lawful (jwt : JWT) : Prop where
  parse_sign : ∀ claims, jwt.parse (jwt.sign claims) = some claims
  sign_ne_empty : ∀ claims, jwt.sign claims ≠ ""

/-- A valid token names an actor whose assertion was verified, and no store or tenant but the actor's. -/
structure Speaks (verified : List Verified) (x : Issued) (now : ℤ) (response : ValidateResponse) : Prop where
  actor : ⟨response.actorID, response.actorType, x.holder.credential⟩ ∈ verified
  storeID : response.actorType = .employee → response.storeID = "" ∨ response.storeID = x.holder.credential.storeID
  tenantID : response.actorType = .user → response.tenantID = "" ∨ response.tenantID = x.holder.credential.tenantID
  current : now < x.expiresAt

section
variable (s : Service R P) (w : State R)

/-- Only issued tokens have the signature. -/
def Scoped : Prop := ∀ x ∈ w.issued, ∀ now response, s.validateOverrideToken x.token now = .ok response →
  response.valid = true → Speaks w.verified x now response

/-- The store of an employee and the tenant of a user. -/
structure InScope (actorType : ActorType) (storeID tenantID : String) (cred : Credential) : Prop where
  storeID : actorType = .employee → storeID = "" ∨ storeID = cred.storeID
  tenantID : actorType = .user → tenantID = "" ∨ tenantID = cred.tenantID

/-- `VerifyAssertion` comes to its end with a session that names the credential's own store or tenant. -/
def OwnScope : Action R → Prop
  | .touch i outcome _ => ∀ req response session cred,
    w.calls i = some ⟨.verifyAssertion, req, response, session, .deleted cred⟩ →
      touchCredential s.uuid req.actorID (actorTypeFromProto req.actorType) outcome = .ok () →
        InScope (actorTypeFromProto req.actorType) session.storeID session.tenantID cred
  | _ => True

/-- A call that has come so far has verified its assertion. -/
structure State.Verifies : Prop where
  scope : Scoped s w
  verified : ∀ i call cred, w.calls i = some call → call.stage = .verified cred ∨ call.stage = .deleted cred →
    ⟨call.req.actorID, actorTypeFromProto call.req.actorType, cred⟩ ∈ w.verified

end

/-! ## One token -/

section
variable {s : Service R P} {w : State R} {i : ℕ} {call : Option (Call R)} {db : DB} {actorID : String}
  {actorType : ActorType} {storeID tenantID : String} {cred : Credential} {issuedAt : ℤ}

theorem actorTypeFromString_string (actorType : ActorType) : actorTypeFromString actorType.string = actorType := by
  cases actorType <;> decide

theorem validate_issued (laws : s.jwt.Lawful) {now : ℤ} {response : ValidateResponse}
    (h : s.validateOverrideToken (s.issueOverrideToken actorID actorType storeID tenantID issuedAt).1 now = .ok response)
    (valid : response.valid = true) : now < issuedAt + s.ttl ∧ response.actorID = actorID ∧
      response.actorType = actorType ∧ response.storeID = storeID ∧ response.tenantID = tenantID := by
  rw [Service.issueOverrideToken, Service.validateOverrideToken, if_neg (laws.sign_ne_empty _)] at h
  simp only [laws.parse_sign] at h
  split at h
  · rename_i current
    split at h
    · cases h
      cases valid
    · cases h
      refine ⟨?_, rfl, actorTypeFromString_string actorType, rfl, rfl⟩
      have below := current.2
      omega
  · cases h
    cases valid

/-- A token is valid right before its last second. -/
theorem exists_valid (laws : s.jwt.Lawful) (actorID : String) (actorType : ActorType) (storeID tenantID : String)
    (issuedAt : ℤ) : ∃ now response, s.validateOverrideToken
      (s.issueOverrideToken actorID actorType storeID tenantID issuedAt).1 now = .ok response ∧ response.valid = true ∧
    response.actorType = actorType ∧ response.storeID = storeID ∧ response.tenantID = tenantID := by
  refine ⟨(issuedAt + s.ttl) / 10 ^ 9 * 10 ^ 9 - 1,
    { valid := true, actorID, actorType := actorTypeFromString actorType.string, storeID, tenantID,
      expiresAt := (issuedAt + s.ttl) / 10 ^ 9 * 10 ^ 9 }, ?_, rfl, actorTypeFromString_string actorType, rfl, rfl⟩
  rw [Service.issueOverrideToken, Service.validateOverrideToken, if_neg (laws.sign_ne_empty _)]
  simp only [laws.parse_sign]
  rw [if_pos ⟨trivial, by omega⟩, if_neg (by omega)]

theorem speaks_of_inScope (laws : s.jwt.Lawful) {verified : List Verified} (actor : ⟨actorID, actorType, cred⟩ ∈ verified)
    (own : InScope actorType storeID tenantID cred) {now : ℤ} {response : ValidateResponse}
    (h : s.validateOverrideToken (s.issueOverrideToken actorID actorType storeID tenantID issuedAt).1 now = .ok response)
    (valid : response.valid = true) : Speaks verified
      ⟨(s.issueOverrideToken actorID actorType storeID tenantID issuedAt).1, ⟨actorID, actorType, cred⟩,
        (s.issueOverrideToken actorID actorType storeID tenantID issuedAt).2⟩ now response := by
  obtain ⟨current, sub, type, store, tenant⟩ := validate_issued laws h valid
  refine ⟨?_, ?_, ?_, current⟩
  · rw [sub, type]
    exact actor
  · rw [type, store]
    exact own.storeID
  · rw [type, tenant]
    exact own.tenantID

/-! ## The steps -/

namespace State.Verifies

variable (h : w.Verifies s)
include h

theorem setCall (created : List Created) (verified : List Verified) (successes : List Success)
    (more : ∀ v ∈ w.verified, v ∈ verified)
    (next : ∀ x, call = some x → ∀ cred, x.stage = .verified cred ∨ x.stage = .deleted cred →
      ⟨x.req.actorID, actorTypeFromProto x.req.actorType, cred⟩ ∈ verified) :
    ({ w.setCall i call with db, created, verified, successes } : State R).Verifies s where
  scope x mem now response validated valid := by
    obtain ⟨actor, storeID, tenantID, current⟩ := h.scope x mem now response validated valid
    exact ⟨more _ actor, storeID, tenantID, current⟩
  verified j x cred given stage := by
    obtain ⟨-, new⟩ | ⟨-, old⟩ := setCall_eq_some.mp given
    · exact next x new cred stage
    · exact more _ (h.verified j x cred old stage)

theorem drop {successes : List Success} : ({ w.setCall i none with db, successes } : State R).Verifies s :=
  h.setCall w.created w.verified successes (fun v mem => mem) fun x none => by cases none

theorem verify (i : ℕ) (fault : Option String) (outcome : Outcome) : (w.verify s i fault outcome).Verifies s := by
  unfold State.verify
  split
  · rename_i req response session given
    split
    · exact h.drop
    · exact h.drop
    · simp only
      split
      · exact h.drop
      · refine h.setCall w.created w.verified w.successes (fun v mem => mem) fun x new cred stage => ?_
        cases new
        obtain stage | stage := stage <;> cases stage
  · rename_i op req response session _ given
    split
    · exact h.drop
    · exact h.drop
    · refine h.setCall w.created _ w.successes (fun v mem => List.mem_append_left _ mem) fun x new cred stage => ?_
      cases new
      obtain stage | stage := stage <;> cases stage
      exact List.mem_append_right _ (List.mem_singleton_self _)
  · exact h

theorem load (i : ℕ) (op : Operation) (req : FinishRequest R) (now : ℤ) (order : Shuffle SessionRow)
    (fault : Option String) : (w.load s i op req now order fault).Verifies s := by
  unfold State.load
  split
  · refine h.setCall w.created w.verified w.successes (fun v mem => mem) fun x new cred stage => ?_
    cases new
    obtain stage | stage := stage <;> cases stage
  · exact h

theorem delete (i : ℕ) (outcome : Outcome) : (w.delete s i outcome).Verifies s := by
  unfold State.delete
  split
  · rename_i op req response session cred given
    simp only
    split
    · exact h.drop
    · refine h.setCall w.created w.verified w.successes (fun v mem => mem) fun x new cred' stage => ?_
      cases new
      obtain stage | stage := stage <;> cases stage
      have verified := h.verified i _ cred given (.inl rfl)
      exact verified
  · simp only
    split
    · exact h.drop
    · exact h.drop
  · exact h

theorem start (ceremony : Ceremony) (req : BeginRequest) (draw : Draw) : (w.start s ceremony req draw).Verifies s := by
  unfold State.start
  split
  · exact h
  · simp only
    split
    · exact ⟨h.scope, h.verified⟩
    · exact ⟨h.scope, h.verified⟩

theorem touch (laws : s.jwt.Lawful) {outcome : Outcome} {now : ℤ} (own : OwnScope s w (.touch i outcome now)) :
    (w.touch s i outcome now).Verifies s := by
  unfold State.touch
  split
  · rename_i op req response session cred given
    simp only
    split
    · exact h.drop
    · rename_i touched
      split
      · have actor := h.verified i _ cred given (.inr rfl)
        have inScope := own _ _ _ _ given touched
        have calls : ({ w.setCall i none with db := w.db, successes := [] } : State R).Verifies s := h.drop
        refine ⟨fun x mem now' response validated valid => ?_, calls.verified⟩
        obtain old | new := List.mem_append.mp mem
        · exact h.scope x old now' response validated valid
        · cases List.mem_singleton.mp new
          exact speaks_of_inScope laws actor inScope validated valid
      · exact h.drop
  · exact h

theorem step (laws : s.jwt.Lawful) {a : Action R} (own : OwnScope s w a) : (w.step s a).Verifies s := by
  cases a with
  | start ceremony req draw => exact h.start ceremony req draw
  | load i op req now order fault => exact h.load i op req now order fault
  | verify i fault outcome => exact h.verify i fault outcome
  | delete i outcome => exact h.delete i outcome
  | touch i outcome now => exact h.touch laws own
  | administer employees users => exact ⟨h.scope, h.verified⟩

end State.Verifies

/-- The token of a touch speaks for what the session names. -/
theorem ownScope_of_scoped (laws : s.jwt.Lawful) {a : Action R} (h : Scoped s (w.step s a)) : OwnScope s w a := by
  cases a with
  | touch i outcome now =>
    intro req response session cred given touched
    have issued : (w.step s (.touch i outcome now)).issued = w.issued ++
        [⟨(s.issueOverrideToken req.actorID (actorTypeFromProto req.actorType) session.storeID session.tenantID now).1,
          ⟨req.actorID, actorTypeFromProto req.actorType, cred⟩, now + s.ttl⟩] := by
      simp only [State.step, State.touch, given, touched]
      rfl
    obtain ⟨time, answer, validated, valid, type, store, tenant⟩ :=
      exists_valid laws req.actorID (actorTypeFromProto req.actorType) session.storeID session.tenantID now
    have speaks := h _ (issued ▸ List.mem_append_right _ (List.mem_singleton_self _)) time answer validated valid
    rw [← type, ← store, ← tenant]
    exact ⟨speaks.storeID, speaks.tenantID⟩
  | _ => trivial

end

/-- **A token that is reported valid speaks for an actor that was verified, and for the actor's own store or tenant,
exactly in runs whose verifications end with sessions that name the store or the tenant of the credential.** -/
theorem scoped_iff {s : Service R P} (laws : s.jwt.Lawful) (actions : List (Action R)) :
    Always (State.step s) (Scoped s) {} actions ↔ EachStep (State.step s) (OwnScope s) {} actions := by
  have start : State.Verifies s ({} : State R) := by
    constructor
    · intro x mem
      cases mem
    · intro i call cred given
      cases given
  exact Runs.always_iff_eachStep (fun _ h => h.scope) (fun _ _ h own => h.step laws own)
    (fun _ _ _ h => ownScope_of_scoped laws h) start actions

/-! ## An employee of another store -/

namespace Override

/-- The fields in hexadecimal digits, with points between them. -/
def sign (claims : Claims) : String :=
  let text (s : String) : List Char := (Bytes.hex (Bytes.utf8 s)).toList
  String.ofList ('.' :: Separated.join '.' [text claims.iss, text claims.sub, text claims.actorType, text claims.storeID,
    text claims.tenantID, (Decimal.format claims.iat).toList, (Decimal.format claims.exp).toList])

theorem sign_injective : Function.Injective sign := by
  intro a b h
  have noPoint (s : String) : (Bytes.hex (Bytes.utf8 s)).toList.count '.' = 0 :=
    List.count_eq_zero.mpr (Bytes.not_mem_hex (by decide) _)
  have noPoint' (n : ℤ) : (Decimal.format n).toList.count '.' = 0 :=
    List.count_eq_zero.mpr (Decimal.not_mem_format (by decide) (by decide) n)
  have text {s t : String} (h : (Bytes.hex (Bytes.utf8 s)).toList = (Bytes.hex (Bytes.utf8 t)).toList) : s = t :=
    Bytes.utf8_inj.mp (Bytes.hex_injective (String.toList_inj.mp h))
  have number {n m : ℤ} (h : (Decimal.format n).toList = (Decimal.format m).toList) : n = m :=
    Decimal.format_injective (String.toList_inj.mp h)
  have joined := (List.cons.inj (String.ofList_injective h)).2
  rw [Separated.join_inj (by simp [noPoint, noPoint'])] at joined
  simp only [List.cons.injEq, and_true] at joined
  obtain ⟨iss, sub, actorType, storeID, tenantID, iat, exp⟩ := joined
  cases a
  cases b
  rw [Claims.mk.injEq]
  exact ⟨text iss, text sub, text actorType, text storeID, text tenantID, number iat, number exp⟩

open Classical in
/-- What is signed is read back, and nothing else is read. -/
noncomputable def jwt : JWT where
  sign
  parse text := if h : ∃ claims, sign claims = text then some h.choose else none

theorem jwt_lawful : jwt.Lawful where
  parse_sign claims := by
    have signed : ∃ c, sign c = sign claims := ⟨claims, rfl⟩
    exact (dif_pos signed).trans (congrArg some (sign_injective signed.choose_spec))
  sign_ne_empty claims h := by
    have chars := congrArg String.toList h
    simp [jwt, sign] at chars

noncomputable def tokens : Service String String := { service with jwt }

/-- The employee names a store. -/
def inStore (storeID : String) : List (Action String) :=
  [.administer employees .empty, .start .verification { beginRequest with storeID } draw]

/-- All but the last step. -/
noncomputable def accepted (storeID : String) : State String :=
  run (State.step tokens) {} (inStore storeID ++ (finished 0 .verifyAssertion).take 3)

/-- The actor of a verification whose session is deleted, and the stores of the session and of the credential. -/
def names : Call String → Option (String × ActorType × String × String)
  | ⟨.verifyAssertion, req, _, session, .deleted cred⟩ =>
    some (req.actorID, actorTypeFromProto req.actorType, session.storeID, cred.storeID)
  | _ => none

theorem touched_last (storeID : String) : inStore storeID ++ finished 0 .verifyAssertion =
    (inStore storeID ++ (finished 0 .verifyAssertion).take 3) ++ [.touch 0 .committed 0] := rfl

theorem scoped_own : Always (State.step tokens) (Scoped tokens) {}
    (inStore "00000000-0000-0000-0000-000000000007" ++ finished 0 .verifyAssertion) := by
  have own : OwnScope tokens (accepted "00000000-0000-0000-0000-000000000007") (.touch 0 .committed 0) := by
    intro req response session cred given _
    have found : ((accepted "00000000-0000-0000-0000-000000000007").calls 0).bind names =
        some ("00000000-0000-0000-0000-000000000005", .employee, "00000000-0000-0000-0000-000000000007",
          "00000000-0000-0000-0000-000000000007") := by
      decide +kernel
    rw [given] at found
    simp only [Option.bind_some, names, Option.some.injEq, Prod.mk.injEq] at found
    obtain ⟨-, employee, named, own⟩ := found
    exact ⟨fun _ => .inr (named.trans own.symm), fun user => by cases employee.symm.trans user⟩
  rw [scoped_iff (s := tokens) jwt_lawful, touched_last, Runs.eachStep_append]
  exact ⟨⟨trivial, trivial, trivial, trivial, trivial, trivial⟩, own, trivial⟩

/-- The employee is of store 7, and the token speaks for store 6. -/
theorem scoped_foreign : ¬ Always (State.step tokens) (Scoped tokens) {}
    (inStore "00000000-0000-0000-0000-000000000006" ++ finished 0 .verifyAssertion) := by
  intro h
  rw [touched_last] at h
  have last := Runs.always_last h
  rw [Runs.run_concat] at last
  have found : ((accepted "00000000-0000-0000-0000-000000000006").calls 0).bind names =
      some ("00000000-0000-0000-0000-000000000005", .employee, "00000000-0000-0000-0000-000000000006",
        "00000000-0000-0000-0000-000000000007") := by
    decide +kernel
  obtain ⟨call, given, named⟩ := Option.bind_eq_some_iff.mp found
  unfold names at named
  split at named
  · rename_i req response session cred
    simp only [Option.some.injEq, Prod.mk.injEq] at named
    obtain ⟨actorID, employee, storeID, own⟩ := named
    have touched : touchCredential tokens.uuid req.actorID (actorTypeFromProto req.actorType) .committed = .ok () := by
      rw [actorID, employee]
      decide +kernel
    have scope := ownScope_of_scoped (s := tokens) (w := accepted "00000000-0000-0000-0000-000000000006")
      jwt_lawful last _ _ _ _ given touched
    obtain empty | same := scope.storeID employee
    · exact absurd (storeID.symm.trans empty) (by decide)
    · exact absurd ((storeID.symm.trans same).trans own) (by decide)
  · cases named

end Override

end WebauthnService
