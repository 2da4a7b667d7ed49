import EntityLog.Recording.Call

/-!
Logging rows. Bundles are merged into one row: of each component the first batch counts. A single
instance in a longer row holds for all instances; such splats are sent ahead of the row, marked by
an instance key.
-/

namespace EntityLog

structure LogOptions where
  isStatic : Bool := false
  instances : Option Nat := none
  strict : Option Bool := none

inductive RowPart
  | bundle (bundle : Bundle)
  | raw (batches : List (Option ComponentBatch))

namespace RowPart

def batches : RowPart → List ComponentBatch
  | bundle b => b.batches
  | raw batches => batches.filterMap id

def errors : RowPart → List SerializationError
  | bundle b => b.errors
  | raw _ => []

def notes : RowPart → List Note
  | bundle b => b.notes
  | raw _ => []

end RowPart

def instanceKey : String := "rerun.components.InstanceKey"

def instanceKeyDescriptor : ComponentDescriptor where
  component := instanceKey
  componentType := some instanceKey

def splatKey : TypedArray := .flat (.integers .uint64 [some IntegerType.uint64.maxValue])

structure MergedRow where
  splats : Entries ComponentDescriptor TypedArray
  instanced : Entries ComponentDescriptor TypedArray
  repeats : List ComponentIdentifier

namespace MergedRow

def firsts (seen : List ComponentIdentifier) :
    List ComponentBatch → List ComponentBatch × List ComponentIdentifier
  | [] => ([], [])
  | b :: bs =>
    let component := b.descriptor.component
    if component ∈ seen then
      let (kept, repeats) := firsts seen bs
      (kept, component :: repeats)
    else
      let (kept, repeats) := firsts (component :: seen) bs
      (b :: kept, repeats)

def isSplat (instances : Nat) (b : ComponentBatch) : Bool := b.length = 1 && 1 < instances

def withKey (splats : Entries ComponentDescriptor TypedArray) :
    Entries ComponentDescriptor TypedArray :=
  if splats.isEmpty ∨ (splats.get? instanceKeyDescriptor).isSome then splats
  else splats ++ [(instanceKeyDescriptor, splatKey)]

def ofBatches (batches : List ComponentBatch) (instances : Option Nat) : MergedRow :=
  let (kept, repeats) := firsts [] batches
  let instances := instances.getD ((kept.map ComponentBatch.length).foldl max 0)
  let entry (b : ComponentBatch) := (b.descriptor, b.array)
  { splats := withKey ((kept.filter (isSplat instances)).map entry)
    instanced := (kept.filter (!isSplat instances ·)).map entry
    repeats }

end MergedRow

def repeatedInRow (path : EntityPath) (component : ComponentIdentifier) : Complaint :=
  .usage ("Component " ++ component ++ " was included multiple times when logging to " ++
    path.display ++ ". Only the first one is kept.")

namespace Call

def sendRow (path : EntityPath) (time : TimePoint) (isStatic : Bool)
    (components : Entries ComponentDescriptor TypedArray) : Call Unit :=
  if components.isEmpty then return else send (.row { path, time, isStatic, components })

def logParts (path : EntityPath) (parts : List RowPart) (options : LogOptions) : Call Unit := do
  let merged := MergedRow.ofBatches (parts.flatMap RowPart.batches) options.instances
  note (parts.flatMap RowPart.notes)
  report ((← read).policy options.strict)
    (((parts.flatMap RowPart.errors).map fun cause => .failure (.serialization cause)) ++
      merged.repeats.map (repeatedInRow path))
  let time ← if options.isStatic then pure .empty else stamp
  sendRow path time options.isStatic merged.splats
  sendRow path time options.isStatic merged.instanced

def logBatches (path : EntityPath) (batches : List ComponentBatch) (options : LogOptions) :
    Call Unit :=
  logParts path [.raw (batches.map some)] options

/-- Logs a bundle. Its batches are asked for once its errors are reported. -/
def logBundle (path : EntityPath) (bundle : Bundle) (options : LogOptions) : Call Unit := do
  report ((← read).policy options.strict)
    (bundle.errors.map fun cause => .failure (.serialization cause))
  note bundle.notes
  logBatches path bundle.batches options

end Call

end EntityLog
