import AstraSystem.Lib.Runs
import AstraSystem.SyncDaemon.Daemon

/-!
# The queue of offline payments

A token that is queued again keeps its flushed flag, and a call of the cloud
flush marks tokens by id after it has published what it loaded for them. A
payment stays safe exactly as long as neither touches one that is unpublished.
-/

namespace SyncDaemon

open Runs Cloud Sync

variable {P : Type}

namespace Daemon

def Paid (w : Daemon P) (p : OfflinePayment) : Prop := p ∈ w.stream.filterMap Published.payment?

/-- What was last queued for a token has been published, or `load_offline_queue` returns it where
its limit is large enough. -/
def PaymentsSafe (w : Daemon P) : Prop :=
  ∀ p ∈ w.accepted, w.Paid p ∨ ∃ n, ∀ limit ≥ n, p ∈ w.db.loadOfflineQueue limit

/-- No payment is queued for a token that is flushed already, nor a token marked flushed, before
the payment has been published. -/
def Guarded (w : Daemon P) : DaemonAction P → Prop
  | .queueOfflinePayment p _ =>
    (∃ r ∈ w.db.payments.rows, r.tokenId = p.tokenId ∧ r.flushed = true) → w.Paid p
  | .advance i _ _ =>
    ∀ ids, (w.call i).phase = .mark ids → ∀ p ∈ w.accepted, p.tokenId ∈ ids → w.Paid p
  | _ => True

/-- Every accepted payment has its row, which is unflushed until it has been published. -/
def Rowed (w : Daemon P) : Prop :=
  ∀ p ∈ w.accepted, ∃ r ∈ w.db.payments.rows, r.payment = p ∧ (r.flushed = false ∨ w.Paid p)

variable {codec : Codec P} {cfg : CloudConfig} {w : Daemon P}

theorem Rowed.safe (h : w.Rowed) : w.PaymentsSafe := by
  intro p hp
  obtain ⟨r, hr, rfl, unflushed | paid⟩ := h p hp
  · exact .inr ⟨_, fun limit hl => SyncDatabase.mem_loadOfflineQueue hl hr unflushed⟩
  · exact .inl paid

/-- A step queues a payment, or marks tokens flushed, or leaves the payments alone. -/
inductive PaymentEffect (w next : Daemon P) : DaemonAction P → Prop
  | queue (p : OfflinePayment) (now : Int64) : PaymentEffect w next (.queueOfflinePayment p now)
  | mark (i draw : ℕ) (ok : Bool) (ids : List String) (phase : (w.call i).phase = .mark ids)
      (accepted : next.accepted = w.accepted) (stream : next.stream = w.stream)
      (payments : next.db.payments = (w.db.markOfflineFlushed ids).1.payments) :
      PaymentEffect w next (.advance i draw ok)
  | other (a : DaemonAction P) (new : List (Published P))
      (notMark : ∀ i draw ok ids, a = .advance i draw ok → (w.call i).phase ≠ .mark ids)
      (accepted : next.accepted = w.accepted) (stream : next.stream = w.stream ++ new)
      (payments : next.db.payments = w.db.payments) : PaymentEffect w next a

variable (codec cfg) in
theorem step_paymentEffect (w : Daemon P) (a : DaemonAction P) :
    w.PaymentEffect (w.step codec cfg a) a := by
  have same : w.stream = w.stream ++ [] := (List.append_nil _).symm
  cases a with
  | queueOfflinePayment p now => exact .queue p now
  | upsert record => exact .other _ [] (by simp) rfl same rfl
  | flushToCloud i =>
    simp only [step]
    split <;> exact .other _ [] (by simp) rfl same rfl
  | advance i draw ok =>
    simp only [step]
    cases Flushing.advance_effect codec cfg draw ok ⟨w.db, w.stream, w.call i⟩ with
    | clean d rest hp hdb hs =>
      refine .other _ [] ?_ rfl (hs.trans same) (by rw [hdb]; rfl)
      intro _ _ _ ids heq hm
      cases heq
      cases hm.symm.trans hp
    | mark ids hp hdb hs => exact .mark i draw ok ids hp rfl hs (by rw [hdb])
    | other _ notMark new hdb hs =>
      refine .other _ new ?_ rfl hs (by rw [hdb])
      intro _ _ _ ids heq
      cases heq
      exact notMark ids
  | tick k t =>
    simp only [step]
    split <;> exact .other _ [] (by simp) rfl same rfl
  | markClean k =>
    simp only [step]
    split <;> exact .other _ [] (by simp) rfl same rfl

theorem Rowed.queue (h : w.Rowed) (p : OfflinePayment) (now : Int64)
    (guarded : w.Guarded (.queueOfflinePayment p now)) :
    (w.step codec cfg (.queueOfflinePayment p now)).Rowed := by
  simp only [step]
  intro q hq
  cases List.mem_append.mp hq with
  | inl earlier =>
    obtain ⟨hq, hne⟩ := List.mem_filter.mp earlier
    obtain ⟨r, hr, rfl, state⟩ := h q hq
    have stays : r ∈ (w.db.queueOfflinePayment p now).payments.rows :=
      SyncDatabase.mem_queueOfflinePayment.mpr (.inl ⟨hr, of_decide_eq_true hne⟩)
    exact ⟨r, stays, rfl, state⟩
  | inr queued =>
    obtain rfl := List.mem_singleton.mp queued
    by_cases again : ∃ old ∈ w.db.payments.rows, old.tokenId = q.tokenId
    · obtain ⟨old, hold, heq⟩ := again
      refine ⟨⟨q.tokenId, q.payloadJson, q.hmac, now, old.flushed⟩, ?_, rfl, ?_⟩
      · exact SyncDatabase.mem_queueOfflinePayment.mpr (.inr (.inl ⟨old, hold, heq, rfl⟩))
      · cases hf : old.flushed
        · exact .inl rfl
        · exact .inr (guarded ⟨old, hold, heq, hf⟩)
    · push Not at again
      exact ⟨_, SyncDatabase.mem_queueOfflinePayment.mpr (.inr (.inr ⟨again, rfl⟩)), rfl, .inl rfl⟩

theorem Rowed.step (h : w.Rowed) (a : DaemonAction P) (guarded : w.Guarded a) :
    (w.step codec cfg a).Rowed := by
  have effect := w.step_paymentEffect codec cfg a
  cases effect with
  | queue p now => exact h.queue p now guarded
  | mark i draw ok ids hphase hacc hstream hrows =>
    intro p hp
    rw [hacc] at hp
    obtain ⟨r, hr, rfl, state⟩ := h p hp
    have paid (hw : w.Paid r.payment) :
        (w.step codec cfg (.advance i draw ok)).Paid r.payment := by
      unfold Paid
      rw [hstream]
      exact hw
    refine ⟨_, hrows ▸ SyncDatabase.mem_markOfflineFlushed.mpr ⟨r, hr, rfl⟩, ?_⟩
    by_cases marked : r.tokenId ∈ ids
    · rw [if_pos marked]
      exact ⟨rfl, .inr (paid (guarded ids hphase _ hp marked))⟩
    · rw [if_neg marked]
      exact ⟨rfl, state.imp_right paid⟩
  | other _ new _ hacc hstream hrows =>
    intro p hp
    obtain ⟨r, hr, eq, state⟩ := h p (hacc ▸ hp)
    refine ⟨r, hrows ▸ hr, eq, state.imp_right ?_⟩
    intro paid
    rw [Paid, hstream, List.filterMap_append]
    exact List.mem_append_left _ paid

/-- A step that is not guarded puts a payment out of reach. -/
theorem guarded_of_safe (w : Daemon P) (a : DaemonAction P)
    (after : (w.step codec cfg a).PaymentsSafe) : w.Guarded a := by
  cases a with
  | queueOfflinePayment p now =>
    intro requeued
    obtain ⟨old, hold, heq, hf⟩ := requeued
    cases after p (List.mem_append_right _ (by simp)) with
    | inl paid => exact paid
    | inr loaded =>
      -- the row of the token is the old one, flushed as before
      obtain ⟨n, hn⟩ := loaded
      obtain ⟨r, hr, unflushed, rfl⟩ := SyncDatabase.mem_of_mem_loadOfflineQueue (hn n le_rfl)
      obtain ⟨_, hne⟩ | ⟨old', hold', heq', eq⟩ | ⟨none, _⟩ :=
        SyncDatabase.mem_queueOfflinePayment.mp hr
      · exact absurd rfl hne
      · have same := w.db.payments.unique hold' hold (heq'.trans heq.symm)
        rw [eq, same, hf] at unflushed
        cases unflushed
      · exact absurd heq (none old hold)
  | advance i draw ok =>
    intro ids hphase p hp marked
    have effect := w.step_paymentEffect codec cfg (.advance i draw ok)
    generalize w.step codec cfg (.advance i draw ok) = next at after effect
    cases effect with
    | mark _ _ _ ids' hphase' hacc hstream hrows =>
      obtain rfl : ids = ids' := Phase.mark.inj (hphase.symm.trans hphase')
      cases after p (hacc ▸ hp) with
      | inl paid => rwa [Paid, hstream] at paid
      | inr loaded =>
        obtain ⟨n, hn⟩ := loaded
        obtain ⟨r, hr, unflushed, rfl⟩ := SyncDatabase.mem_of_mem_loadOfflineQueue (hn n le_rfl)
        rw [hrows] at hr
        obtain ⟨old, _, eq⟩ := SyncDatabase.mem_markOfflineFlushed.mp hr
        by_cases hm : old.tokenId ∈ ids
        · rw [eq, if_pos hm] at unflushed; cases unflushed
        · rw [if_neg hm] at eq
          exact absurd (eq ▸ marked) hm
    | other _ _ notMark => exact absurd hphase (notMark i draw ok ids rfl)
  | _ => trivial

/-- **Queued payments stay safe throughout a run exactly when its steps are guarded.** -/
theorem payments_safe_iff (codec : Codec P) (cfg : CloudConfig) (db : SyncDatabase P)
    (caches : Caches P) (acts : List (DaemonAction P)) :
    Always (step codec cfg) PaymentsSafe (.start db caches) acts ↔
      EachStep (step codec cfg) Guarded (.start db caches) acts :=
  always_iff_eachStep (J := Rowed) (fun _ => Rowed.safe) (fun _ a h => h.step a)
    (fun w a _ => w.guarded_of_safe a) (fun _ hp => absurd hp List.not_mem_nil) acts

/-- A payment is flushed, and then the amount of its token is corrected. -/
def corrected : List (DaemonAction String) :=
  [.queueOfflinePayment ⟨"t1", "10", []⟩ 1, .flushToCloud 0, .advance 0 0 true, .advance 0 0 true,
    .advance 0 0 true, .advance 0 0 true, .advance 0 0 true, .advance 0 0 true, .advance 0 0 true,
    .advance 0 0 true, .advance 0 0 true, .advance 0 0 true, .advance 0 0 true,
    .queueOfflinePayment ⟨"t1", "20", []⟩ 2]

theorem correction_lost :
    ¬ Always (step plainCodec defaultCloud) PaymentsSafe (.start .empty .empty) corrected := by
  intro h
  cases always_last h ⟨"t1", "20", []⟩ (by decide +kernel) with
  | inl paid =>
    revert paid
    unfold Paid
    decide +kernel
  | inr loaded =>
    obtain ⟨n, hn⟩ := loaded
    obtain ⟨r, hr, unflushed, _⟩ := SyncDatabase.mem_of_mem_loadOfflineQueue (hn n le_rfl)
    revert r
    decide +kernel

end Daemon

end SyncDaemon
