import EntityLog.Recording.Stream

namespace EntityLog

structure Environment where
  enabled : Option String := none
  strict : Option String := none

namespace Environment

def readSwitch (text : String) : Option Bool :=
  let word := String.ofList (text.toList.map Char.toLower)
  if word = "0" ∨ word = "false" ∨ word = "off" then some false
  else if word = "1" ∨ word = "true" ∨ word = "on" then some true
  else none

def switch (name : String) : Option String → Option Bool × List Note
  | none => (none, [])
  | some text =>
    match readSwitch text with
    | some value => (some value, [])
    | none =>
      (none, [⟨.warn, "Invalid value for environment variable " ++ name ++ "=" ++
        Text.quoted text ++ ". Expected 'on' or 'off'. It will be ignored"⟩])

def isEnabled (e : Environment) : Option Bool × List Note := switch "RERUN" e.enabled

def isStrict (e : Environment) : Option Bool × List Note := switch "RERUN_STRICT" e.strict

end Environment

structure StreamSetup where
  applicationId : String
  defaultEnabled : Bool := true
  enabled : Option Bool := none
  strict : Option Bool := none
  ownTypes : Bool := false
  sink : SinkKind

namespace StreamSetup

def decide (asked : Option Bool) (environment : Option Bool × List Note) (default : Bool) :
    Bool × List Note :=
  match asked with
  | some value => (value, [])
  | none => (environment.1.getD default, environment.2)

def build (setup : StreamSetup) (e : Environment) (clock : Nat → Int) : Stream × List Note :=
  let (enabled, notes) := decide setup.enabled e.isEnabled setup.defaultEnabled
  if enabled then
    let (strict, strictNotes) := decide setup.strict e.isStrict false
    let recorder : Recorder :=
      { applicationId := setup.applicationId, strict, clock, sink := { kind := setup.sink } }
    let created := "Creating recording stream for " ++ Text.quoted setup.applicationId ++
      " (strict: " ++ toString strict ++ ")"
    ({ recorder := some recorder, types := if setup.ownTypes then some .empty else none },
      notes ++ strictNotes ++ [⟨.debug, created⟩])
  else
    (.disabled, notes ++ [⟨.debug, "Rerun disabled - recording stream created as a no-op"⟩])

end StreamSetup

end EntityLog
