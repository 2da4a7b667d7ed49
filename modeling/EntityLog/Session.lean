import EntityLog.Recording.Setup

namespace EntityLog

structure Session where
  types : TypeRegistry := .empty
  streams : List Stream

namespace Session

def registry (s : Session) (stream : Nat) : TypeRegistry :=
  ((s.streams[stream]?).bind (·.types)).getD s.types

def setRegistry (s : Session) (stream : Nat) (types : TypeRegistry) : Session :=
  match s.streams[stream]? with
  | some ⟨recorder, some _⟩ =>
    { s with streams := s.streams.set stream ⟨recorder, some types⟩ }
  | _ => { s with types }

def setStream (s : Session) (index : Nat) (stream : Stream) : Session :=
  { s with streams := s.streams.set index stream }

def typing {α : Type} (s : Session) (stream : Option Nat) (steps : Typing α) :
    Except (Failure DynamicError) α × Session × List Note :=
  let before := match stream with
    | some stream => s.registry stream
    | none => s.types
  let (result, after) := steps.run.run { registry := before }
  let s := match stream with
    | some stream => s.setRegistry stream after.registry
    | none => { s with types := after.registry }
  (result, s, after.notes)

end Session

end EntityLog
