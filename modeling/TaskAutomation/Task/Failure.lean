import TaskAutomation.Id.Basic
import TaskAutomation.Json.Decode
import TaskAutomation.Validation

/-!
This file defines failures of work: what went wrong and whether another attempt may help. Refused
values are permanent failures, and faults of a store count against the infrastructure.
-/

namespace TaskAutomation

/-- What a failure means for further attempts. -/
inductive FailureKind where
  | transient
  | permanent
  | infrastructure
  deriving DecidableEq, Repr, Inhabited

namespace FailureKind

/-- The kinds by name. -/
def named : List (String × FailureKind) :=
  [("transient", transient), ("permanent", permanent), ("infrastructure", infrastructure)]

def name : FailureKind → String
  | transient => "transient"
  | permanent => "permanent"
  | infrastructure => "infrastructure"

/-- Another attempt may help. -/
def isRetryable : FailureKind → Bool
  | permanent => false
  | _ => true

def encode (kind : FailureKind) : Json := .string kind.name

def decode : Json → Decoded FailureKind := Json.toChoice named

end FailureKind

/-- A failure of some work. -/
structure Failure where
  kind : FailureKind
  message : String
  deriving DecidableEq, Repr, Inhabited

namespace Failure

def transient (message : String) : Failure := ⟨.transient, message⟩

def permanent (message : String) : Failure := ⟨.permanent, message⟩

end Failure

/-- The failure that a refused value causes. -/
def Invalid.failure (invalid : Invalid) : Failure := .permanent invalid.message

/-- Why a store refuses an operation. -/
inductive StoreFault where
  | backend (why : String)
  | undecodable (why : String)
  | notInProcess (id : TaskId)
  | notFound (what : String)
  deriving DecidableEq, Repr

namespace StoreFault

def message : StoreFault → String
  | backend why => "storage backend error: " ++ why
  | undecodable why => "stored row could not be decoded: " ++ why
  | notInProcess id => "task " ++ id.display ++ " is not in process"
  | notFound what => what ++ " not found"

/-- The failure that a fault of a store causes in the work that needed it. -/
def failure (fault : StoreFault) : Failure := ⟨.infrastructure, fault.message⟩

end StoreFault

end TaskAutomation
