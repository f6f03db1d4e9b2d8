import TaskAutomation.Id.Ulid
import TaskAutomation.Time.Instant

/-!
This file defines the identifiers of the records, one type per kind of record, and the source that
issues them. An identifier is shown with the name of its kind in front, and read with or without it.
-/

namespace TaskAutomation

/-- The kinds of records that have an identifier. -/
inductive IdKind where
  | task
  | trigger
  | condition
  | action
  | call
  | wallet
  deriving DecidableEq, Repr

/-- What stands in front of an identifier when it is shown. -/
def IdKind.tag : IdKind → String
  | task => "task-"
  | trigger => "trigger-"
  | condition => "condition-"
  | action => "action-"
  | call => "call-"
  | wallet => "wallet-"

/-- An identifier of one kind of record. -/
structure Id (kind : IdKind) where
  ulid : Ulid
  deriving DecidableEq, Repr, Inhabited

abbrev TaskId := Id .task
abbrev TriggerId := Id .trigger
abbrev ConditionId := Id .condition
abbrev ActionId := Id .action
abbrev CallId := Id .call
abbrev WalletId := Id .wallet

/-- A text that is no identifier. -/
structure MalformedId where
  text : String
  deriving DecidableEq, Repr

def MalformedId.message (refusal : MalformedId) : String := "malformed id: " ++ refusal.text

namespace Id

variable {kind : IdKind}

/-- The text without the name of the kind, as records hold it. -/
def bare (id : Id kind) : String := id.ulid.text

/-- The text with the name of the kind. -/
def display (id : Id kind) : String := kind.tag ++ id.ulid.text

/-- The rest of a text after a given beginning. -/
def dropTag? : List Char → List Char → Option (List Char)
  | [], text => some text
  | _ :: _, [] => none
  | t :: tag, c :: text => if t = c then dropTag? tag text else none

/-- Reads an identifier with or without the name of its kind. -/
def read (text : String) : Except MalformedId (Id kind) :=
  let digits := (dropTag? kind.tag.toList text.toList).elim text String.ofList
  match Ulid.read digits with
  | .ok ulid => .ok ⟨ulid⟩
  | .error _ => .error ⟨text⟩

end Id

/-! ### Issuing identifiers -/

/-- A source of identifiers remembers the last one it issued. -/
structure IdSource where
  last : Option Ulid
  deriving DecidableEq, Repr, Inhabited

namespace IdSource

/-- A source that has issued nothing. -/
def fresh : IdSource := ⟨none⟩

/-- Issues an identifier for the time `now` with the random bits `draw`. If that would not come
after the last one, the next after the last one is issued in its place. -/
def issue (source : IdSource) (now : Instant) (draw : Nat) : Ulid × IdSource :=
  let fresh := Ulid.ofParts now.millis.toNat draw
  let next :=
    match source.last with
    | some last => if fresh.le last then last.next?.getD fresh else fresh
    | none => fresh
  (next, ⟨some next⟩)

end IdSource

end TaskAutomation
