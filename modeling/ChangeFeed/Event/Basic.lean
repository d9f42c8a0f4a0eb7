import ChangeFeed.Failure

/-!
Events and subscriptions: what a commit tells its followers.

Two events are the same when their ids are, whatever else they say. The events of a commit consist
of texts; data from elsewhere may have any value in the place of a text.
-/

namespace ChangeFeed

/-- What happened to the subject of an event. -/
inductive EventType where
  | modified
  | referenced
  deriving DecidableEq, Repr

namespace EventType

/-- The name of a type. -/
def name : EventType → Text
  | modified => "modified"
  | referenced => "referenced"

/-- The type that a value names. -/
def ofValue (v : Value) : Except Failure EventType :=
  if v.isText modified.name then .ok modified
  else if v.isText referenced.name then .ok referenced
  else .error (.unknownMember "EventType" v)

end EventType

/-- One change of a symbol. -/
structure Event where
  id : Value
  title : Value
  body : Value
  url : Value
  type : EventType
  time : Instant
  deriving DecidableEq, Repr

namespace Event

/-- Type and title in one line. -/
def summary (e : Event) : Text := e.type.name ++ ": " ++ e.title.display

/-- Whether two events are the same. -/
def same (a b : Event) : Bool := Value.sameKey a.id b.id

/-- Events with each one kept only where it first comes up. -/
def unique (es : List Event) : List Event := es.eraseDupsBy same

/-- Events with each one kept only where it first comes up; their ids have to be keys. -/
def distinct (es : List Event) : Except Misuse (List Event) :=
  match es.find? fun e => !e.id.isKey with
  | some e => .error (.notKey e.id.kindName)
  | none => .ok (unique es)

end Event

/-- An actor, and the subjects that the actor follows from now on. -/
structure Subscription where
  source : Value
  targets : List Value
  deriving DecidableEq, Repr

/-- All that is to be told about a commit. -/
structure Batch where
  events : List Event := []
  subscriptions : List Subscription := []
  deriving DecidableEq, Repr

end ChangeFeed
