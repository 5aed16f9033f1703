import Enclosure.Fault
import Enclosure.Text.Letters

/-!
# Which of several nested units wins

When several structural units contain a range of lines, the policy decides.
Candidates are met in reading order, parents before children. `outermost` keeps
the earlier of two equally large candidates and `innermost` the later one, so
that both lean the way their name says.
-/

set_option autoImplicit false

namespace Enclosure

/-- Which of several candidates is selected. -/
inductive Policy where
  | outermost
  | innermost
deriving DecidableEq, Inhabited

namespace Policy

/-- The name of a policy. -/
def name : Policy → String
  | outermost => "outermost"
  | innermost => "innermost"

/-- A candidate of size `candidate` replaces one of size `current`. -/
def prefers : Policy → (candidate current : Nat) → Bool
  | outermost, candidate, current => current < candidate
  | innermost, candidate, current => candidate ≤ current

/-- The policy with exactly this name. -/
def ofName? : String → Option Policy
  | "outermost" => some outermost
  | "innermost" => some innermost
  | _ => none

/-- The policy that a person means by a text: letter case does not matter, and
`largest` and `smallest` are other words for the two policies. -/
def ofText (text : String) : Except Fault Policy :=
  match Text.lower text with
  | "outermost" | "largest" => .ok outermost
  | "innermost" | "smallest" => .ok innermost
  | other => .error (.settings (.unknownPolicy other))

end Policy

end Enclosure
