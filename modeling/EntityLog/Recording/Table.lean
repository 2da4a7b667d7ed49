import EntityLog.Recording.Submission

/-!
Logging tables: the metadata of each column says what it is for. Data columns are gathered entity
by entity, and each entity is submitted with all the time columns.
-/

namespace EntityLog

structure TableColumn where
  field : Field
  array : TypedArray

abbrev Table := List TableColumn

structure EntityColumns where
  columns : List ComponentColumn := []
  archetypes : List ArchetypeName := []

def EntityColumns.addArchetype (e : EntityColumns) (archetype : Option ArchetypeName) :
    EntityColumns :=
  match archetype with
  | some archetype =>
    if archetype ∈ e.archetypes then e else { e with archetypes := e.archetypes ++ [archetype] }
  | none => e

def EntityColumns.inputs (e : EntityColumns) : List ColumnInput :=
  e.columns.map .column ++ e.archetypes.map .indicator

structure Regrouping where
  times : List TimeColumn := []
  entities : Entries EntityPath EntityColumns := []
  complaints : List Complaint := []

namespace Regrouping

def fail (g : Regrouping) (cause : SubmissionError) : Regrouping :=
  { g with complaints := g.complaints ++ [.failure (.submission cause)] }

def update (g : Regrouping) (path : EntityPath) (change : EntityColumns → EntityColumns) :
    Regrouping :=
  { g with entities := g.entities.put path (change ((g.entities.get? path).getD {})) }

/-- Markers are left out: the archetypes bring them back. -/
def addData (g : Regrouping) (name : String) (c : DataColumn) (array : TypedArray) : Regrouping :=
  let g := g.update c.entityPath (·.addArchetype c.descriptor.archetype)
  if c.isIndicator || c.descriptor.isIndicator then g
  else
    match array with
    | .lists .regular _ skipped slots items =>
      match ComponentColumn.ofLists skipped slots items c.descriptor with
      | .ok column => g.update c.entityPath fun e => { e with columns := e.columns ++ [column] }
      | .error cause => g.fail (.partition cause)
    | array => g.fail (.column (.notAList name array.type))

def add (g : Regrouping) (c : TableColumn) : Regrouping :=
  match ColumnDescriptor.ofField c.field with
  | .error cause => g.fail (.column cause)
  | .ok none => g
  | .ok (some (.time index)) =>
    match TimeColumn.read index.timeline c.array with
    | .ok times => { g with times := g.times ++ [times] }
    | .error cause => g.fail (.time cause)
  | .ok (some (.component data)) => g.addData c.field.name data c.array

def ofTable (table : Table) : Regrouping := table.foldl add {}

end Regrouping

namespace Call

def sendTable (table : Table) (strict : Option Bool) : Call Unit := do
  let g := Regrouping.ofTable table
  report ((← read).policy strict) g.complaints
  g.entities.forM fun (path, e) => sendColumns path g.times e.inputs strict

def sendTables (tables : List (Except ArrayError Table)) (strict : Option Bool) : Call Unit :=
  tables.forM fun
    | .ok table => sendTable table strict
    | .error cause => throw (.table cause)

end Call

end EntityLog
