import Mathlib.Data.List.Basic

/-!
# Subjects and streams (`go-common/eventbus/eventbus.go`)
-/

namespace EventBus

/-- The parts of a subject between its points. -/
def tokens : List Char → List (List Char)
  | [] => [[]]
  | c :: cs =>
    if c = '.' then [] :: tokens cs
    else match tokens cs with
      | [] => [[c]]
      | t :: ts => (c :: t) :: ts

/-- `*` stands for one token and `>` for all that follow, of which there is one at least. -/
def matchTokens : List (List Char) → List (List Char) → Bool
  | [['>']], _ :: _ => true
  | p :: ps, t :: ts => (p = ['*'] || p = t) && matchTokens ps ts
  | [], [] => true
  | _, _ => false

def subjectMatches (filter subject : String) : Bool :=
  matchTokens (tokens filter.toList) (tokens subject.toList)

structure StreamConfig where
  name : String
  subjects : List String

def streamConfig : List StreamConfig := [
  ⟨"ASTRA_CART", ["astra.cart.>"]⟩,
  ⟨"ASTRA_INVENTORY", ["astra.inventory.>"]⟩,
  ⟨"ASTRA_PAYMENT", ["astra.payment.>"]⟩,
  ⟨"ASTRA_ORDER", ["astra.order.>"]⟩,
  ⟨"ASTRA_MENU", ["astra.menu.>"]⟩,
  ⟨"ASTRA_SYSTEM", ["astra.sync.>", "astra.kiosk.>"]⟩]

/-- Some stream takes what is published on the subject. -/
def takes (subject : String) : Bool := streamConfig.any (·.subjects.any (subjectMatches · subject))

example : takes "astra.cart.finalized.v1" = true ∧ takes "CartFinalized" = false := by decide

/-- The consumer of a durable subscription gets what its stream takes and its filter matches. -/
def delivers (streamName filterSubject subject : String) : Bool :=
  streamConfig.any (fun s => s.name = streamName && s.subjects.any (subjectMatches · subject)) &&
    subjectMatches filterSubject subject

end EventBus
