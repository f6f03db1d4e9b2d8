/-!
This file defines registries of handlers: for each kind of work at most one handler.
-/

namespace TaskAutomation

/-- Why a handler cannot be registered or found. -/
inductive RegistryFault where
  | alreadyRegistered (name : String)
  | notFound (name : String)
  deriving DecidableEq, Repr

def RegistryFault.message : RegistryFault → String
  | alreadyRegistered name => "Handler '" ++ name ++ "' is already registered"
  | notFound name => "Handler '" ++ name ++ "' not found"

/-- Handlers by kind. -/
structure Registry (Kind Handler : Type) where
  entries : List (Kind × Handler)

namespace Registry

variable {Kind Handler : Type} [BEq Kind]

/-- A registry without handlers. -/
def empty : Registry Kind Handler := ⟨[]⟩

/-- The handler of a kind. -/
def find? (registry : Registry Kind Handler) (kind : Kind) : Option Handler :=
  registry.entries.lookup kind

/-- Adds a handler for a kind that has none. -/
def register (registry : Registry Kind Handler) (name : Kind → String) (kind : Kind)
    (handler : Handler) : Except RegistryFault (Registry Kind Handler) :=
  if (registry.find? kind).isSome then .error (.alreadyRegistered (name kind))
  else .ok ⟨registry.entries ++ [(kind, handler)]⟩

/-- Adds handlers one after the other. -/
def registerAll (registry : Registry Kind Handler) (name : Kind → String)
    (handlers : List (Kind × Handler)) : Except RegistryFault (Registry Kind Handler) :=
  handlers.foldlM (fun registry entry => registry.register name entry.1 entry.2) registry

/-- The handler of a kind, or the fault that there is none. -/
def resolve (registry : Registry Kind Handler) (name : Kind → String) (kind : Kind) :
    Except RegistryFault Handler :=
  match registry.find? kind with
  | some handler => .ok handler
  | none => .error (.notFound (name kind))

/-- Those of all kinds that have a handler. -/
def registered (registry : Registry Kind Handler) (all : List Kind) : List Kind :=
  all.filter fun kind => (registry.find? kind).isSome

end Registry

end TaskAutomation
