import ClusterAgent.Membership.Error
import ClusterAgent.Membership.Snapshot
namespace ClusterAgent
namespace Membership
namespace Wait

/-! ## Waiting for the membership -/

inductive Outcome
  | converged (snapshot : Snapshot)
  | cancelled
  | timedOut
  deriving DecidableEq, Repr

/-- How a wait ended, the time it took and the times at which it read. -/
structure Result where
  outcome : Outcome
  elapsed : Nat
  reads : List Nat
  deriving DecidableEq, Repr

/-- What the membership file holds at each time after the start of a wait. -/
abbrev History := Nat → Except MembershipError Snapshot

/-- The snapshot at a time, if it is the one waited for. Errors are passed over. -/
def wanted? (history : History) (wanted : Snapshot → Bool) (time : Nat) : Option Snapshot :=
  match history time with
  | .ok snapshot => if wanted snapshot then some snapshot else none
  | .error _ => none

/-- Polls from the time `elapsed` on. The last pause ends when the time is up, at which there
is one more read. -/
def pollFrom (history : History) (wanted : Snapshot → Bool) (interval timeout : Nat)
    (cancelAt : Option Nat) (elapsed : Nat) : Result :=
  match wanted? history wanted elapsed with
  | some snapshot => ⟨.converged snapshot, elapsed, [elapsed]⟩
  | none =>
      if timeout ≤ elapsed then ⟨.timedOut, elapsed, [elapsed]⟩
      else
        let next := elapsed + min (max interval 1) (timeout - elapsed)
        match cancelAt.filter (· ≤ next) with
        | some time => ⟨.cancelled, max elapsed time, [elapsed]⟩
        | none =>
            let later := pollFrom history wanted interval timeout cancelAt next
            { later with reads := elapsed :: later.reads }
termination_by timeout - elapsed

/-- Polls the membership until it is the one waited for, the time is up or the wait is
cancelled. A wait that is cancelled at its start does not read. -/
def poll (history : History) (wanted : Snapshot → Bool) (interval timeout : Nat)
    (cancelAt : Option Nat) : Result :=
  if cancelAt = some 0 then ⟨.cancelled, 0, []⟩
  else pollFrom history wanted interval timeout cancelAt 0

/-- The result of a wait as an answer. -/
def Result.answer (result : Result) : Except MembershipError Snapshot :=
  match result.outcome with
  | .converged snapshot => .ok snapshot
  | .cancelled => .error .cancelled
  | .timedOut => .error (.timeout result.elapsed)

end Wait
end Membership
end ClusterAgent
