import Mathlib.Data.List.Forall2

/-!
# Decoding a stream that arrives in pieces

A decoder looks at a buffer. Either it takes something off the front and returns
a result, or it waits and leaves the buffer alone. What it takes does not depend
on what follows, so neither do the results of decoding a whole stream depend on
where the stream was cut.
-/

namespace Framing

structure Decoder (β ρ : Type*) where
  decode : List β → Option ρ × List β
  waits : ∀ {buf rest}, decode buf = (none, rest) → rest = buf
  takes : ∀ {buf r rest}, decode buf = (some r, rest) → rest.length < buf.length
  stable : ∀ {buf r rest} (more : List β), decode buf = (some r, rest) →
    decode (buf ++ more) = (some r, rest ++ more)

variable {β ρ : Type*}

namespace Decoder

/-- Decode until the decoder waits. -/
def drain (D : Decoder β ρ) (buf : List β) : List ρ × List β :=
  match _h : D.decode buf with
  | (none, rest) => ([], rest)
  | (some r, rest) => (r :: (D.drain rest).1, (D.drain rest).2)
termination_by buf.length
decreasing_by all_goals exact D.takes ‹_›

/-- Append chunks to the buffer one after another, and drain it after each. -/
def feed (D : Decoder β ρ) (buf : List β) : List (List β) → List ρ × List β
  | [] => ([], buf)
  | chunk :: chunks =>
    ((D.drain (buf ++ chunk)).1 ++ (D.feed (D.drain (buf ++ chunk)).2 chunks).1,
      (D.feed (D.drain (buf ++ chunk)).2 chunks).2)

variable {D : Decoder β ρ} {buf rest : List β} {r : ρ}

theorem drain_wait (h : D.decode buf = (none, rest)) : D.drain buf = ([], buf) := by
  have same := D.waits h
  rw [drain]
  split
  · rename_i rest' h'
    rw [D.waits h']
  · rename_i r rest' h'
    rw [h] at h'
    cases h'

theorem drain_take (h : D.decode buf = (some r, rest)) :
    D.drain buf = (r :: (D.drain rest).1, (D.drain rest).2) := by
  rw [drain]
  split
  · rename_i rest' h'
    rw [h] at h'
    cases h'
  · rename_i r' rest' h'
    rw [h] at h'
    cases h'
    rfl

/-- A buffer that draining leaves alone is one the decoder waits on. -/
theorem waiting_of_drain (h : D.drain buf = ([], buf)) : (D.decode buf).1 = none := by
  cases hd : D.decode buf with
  | mk result rest =>
    cases result with
    | none => rfl
    | some r =>
      rw [drain_take hd] at h
      cases h

/-- Draining stops in a buffer on which the decoder waits. -/
theorem drain_rest (D : Decoder β ρ) (buf : List β) :
    D.drain (D.drain buf).2 = ([], (D.drain buf).2) := by
  cases h : D.decode buf with
  | mk result rest =>
    cases result with
    | none =>
      rw [drain_wait h]
      exact drain_wait h
    | some r =>
      have := D.takes h
      rw [drain_take h]
      exact D.drain_rest rest
termination_by buf.length

/-- Draining a longer buffer starts by draining its front. -/
theorem drain_append (D : Decoder β ρ) (buf more : List β) :
    D.drain (buf ++ more) =
      ((D.drain buf).1 ++ (D.drain ((D.drain buf).2 ++ more)).1,
        (D.drain ((D.drain buf).2 ++ more)).2) := by
  cases h : D.decode buf with
  | mk result rest =>
    cases result with
    | none => rw [drain_wait h, List.nil_append]
    | some r =>
      have := D.takes h
      rw [drain_take (D.stable more h), drain_take h, D.drain_append rest more]
      rfl
termination_by buf.length

/-- **Where the stream is cut does not matter.** -/
theorem feed_eq_drain (D : Decoder β ρ) (waiting : D.drain buf = ([], buf))
    (chunks : List (List β)) : D.feed buf chunks = D.drain (buf ++ chunks.flatten) := by
  induction chunks generalizing buf with
  | nil => rw [List.flatten_nil, List.append_nil, waiting, feed]
  | cons chunk chunks ih =>
    have assoc : buf ++ (chunk :: chunks).flatten = buf ++ chunk ++ chunks.flatten := by
      rw [List.flatten_cons, List.append_assoc]
    rw [assoc, D.drain_append, feed, ih (D.drain_rest (buf ++ chunk))]

/-- Frames that decode one at a time decode in a row. -/
theorem drain_frames {frames : List (List β)} {results : List ρ}
    (decodes : List.Forall₂ (fun frame r => D.decode frame = (some r, [])) frames results)
    (empty : D.decode [] = (none, [])) : D.drain frames.flatten = (results, []) := by
  induction decodes with
  | nil => exact drain_wait empty
  | cons first _ ih =>
    rename_i frames _ _
    have front := D.stable frames.flatten first
    rw [List.nil_append] at front
    rw [List.flatten_cons, drain_take front, ih]

end Decoder

end Framing
