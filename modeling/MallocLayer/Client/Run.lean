import MallocLayer.Client.Session

/-!
# Running programs

The answers to the steps of a program. With each answer goes what an observer
sees of the session after the request; of a loop, the answers of the last round
and the number of errors in all rounds are kept.
-/

namespace MallocLayer.Client

/-- The outcome of a step, with observations in `ω`. -/
inductive Outcome (ω : Type) where
  | answered (answer : Answer) (seen : ω)
  | repeated (errors : Nat) (last : Option (List (Outcome ω)))

namespace Outcome

/-- Whether the outcome is an answer that reports an error. -/
def isError {ω : Type} : Outcome ω → Bool
  | .answered answer _ => answer.isError
  | .repeated _ _ => false

end Outcome

namespace Session

variable {σ ω : Type} [Primitive σ]

/-- The rounds of a loop, from round `index` on. -/
def rounds (body : Session (Recorded σ) → List (Outcome ω) × Session (Recorded σ)) (index : Nat)
    (errors : Nat) (last : Option (List (Outcome ω))) (s : Session (Recorded σ)) :
    (left : Nat) → Outcome ω × Session (Recorded σ)
  | 0 => (.repeated errors last, s)
  | left + 1 =>
    let (outcomes, s) := body { s with registers.iteration := some index }
    rounds body (index + 1) (errors + outcomes.countP Outcome.isError) (some outcomes) s left

/-- Forgets the primitive calls made so far. -/
def forgetCalls (s : Session (Recorded σ)) : Session (Recorded σ) :=
  { s with layer.heap.state.calls := #[] }

mutual

/-- Runs a step. Observations count primitive calls from the start of the
request. -/
def runStep (observe : Session (Recorded σ) → ω) :
    Step → Session (Recorded σ) → Outcome ω × Session (Recorded σ)
  | .command c, s =>
    let (answer, s) := s.forgetCalls.request c
    (.answered answer (observe s), s)
  | .repeated count body, s =>
    let outer := s.registers.iteration
    let (outcome, s) := rounds (runSteps observe body) 0 0 none s count
    (outcome, { s with registers.iteration := outer })

/-- Runs steps one after the other. -/
def runSteps (observe : Session (Recorded σ) → ω) :
    List Step → Session (Recorded σ) → List (Outcome ω) × Session (Recorded σ)
  | [], s => ([], s)
  | step :: rest, s =>
    let (outcome, s) := runStep observe step s
    let (outcomes, s) := runSteps observe rest s
    (outcome :: outcomes, s)

end

end Session

end MallocLayer.Client
