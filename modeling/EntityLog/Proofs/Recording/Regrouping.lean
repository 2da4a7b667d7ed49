import EntityLog.Proofs.Recording.Tables

namespace EntityLog

namespace DataColumn

/-- Is a column left out, as it comes back with its archetype? -/
def isMarker (d : DataColumn) : Bool := d.isIndicator || d.descriptor.isIndicator

def column (d : DataColumn) : TypedArray → ComponentColumn
  | .lists .regular _ skipped slots items =>
    ⟨{ array := items.slice skipped slots.total, descriptor := d.descriptor }, slots⟩
  | a => ⟨{ array := a, descriptor := d.descriptor }, .plain []⟩

@[simp] theorem descriptor_column (d : DataColumn) (a : TypedArray) :
    (d.column a).descriptor = d.descriptor := by
  unfold column
  split <;> rfl

theorem toLists_column {a : TypedArray} {item : Field} (type : a.type = .list .regular item)
    (fit : a.ListsFit) (d : DataColumn) :
    ∃ skipped slots items, a = .lists .regular item skipped slots items ∧
      ComponentColumn.ofLists skipped slots items d.descriptor = .ok (d.column a) ∧
      (d.column a).toLists = .ok a.trimmed := by
  obtain ⟨skipped, slots, items, rfl, enough, bounded⟩ := fit item type
  obtain ⟨made, written⟩ := ComponentColumn.ofLists_of_fit enough bounded d.descriptor
  exact ⟨skipped, slots, items, rfl, made, written⟩

end DataColumn

namespace TableColumn

def times? (c : TableColumn) : Option TimeColumn :=
  match ColumnDescriptor.ofField c.field with
  | .ok (some (.time index)) => (TimeColumn.read index.timeline c.array).toOption
  | _ => none

def data? (c : TableColumn) : Option (DataColumn × TypedArray) :=
  match ColumnDescriptor.ofField c.field with
  | .ok (some (.component data)) => some (data, c.array)
  | _ => none

end TableColumn

namespace Table

def times (table : Table) : List TimeColumn := table.filterMap TableColumn.times?

def data (table : Table) : List (DataColumn × TypedArray) := table.filterMap TableColumn.data?

def paths (table : Table) : List EntityPath := (table.data.map (·.1.entityPath)).eraseDups

def columnsOf (table : Table) (path : EntityPath) : List (DataColumn × TypedArray) :=
  table.data.filter fun e => e.1.entityPath = path && !e.1.isMarker

def archetypesOf (table : Table) (path : EntityPath) : List ArchetypeName :=
  ((table.data.filter (·.1.entityPath = path)).filterMap (·.1.descriptor.archetype)).eraseDups

def entity (table : Table) (path : EntityPath) : EntityColumns where
  columns := (table.columnsOf path).map fun e => e.1.column e.2
  archetypes := table.archetypesOf path

end Table

namespace EntityColumns

theorem columns_addArchetype (e : EntityColumns) (archetype : Option ArchetypeName) :
    (e.addArchetype archetype).columns = e.columns := by
  unfold addArchetype
  split
  · split <;> rfl
  · rfl

def addData (e : EntityColumns) (data : DataColumn × TypedArray) : EntityColumns where
  columns := e.columns ++ if data.1.isMarker then [] else [data.1.column data.2]
  archetypes := (e.addArchetype data.1.descriptor.archetype).archetypes

theorem addData_of_marker {data : DataColumn × TypedArray} (marker : data.1.isMarker = true)
    (e : EntityColumns) : e.addData data = e.addArchetype data.1.descriptor.archetype := by
  rw [addData, if_pos marker, List.append_nil, ← columns_addArchetype e]

theorem addData_of_not_marker {data : DataColumn × TypedArray} (unmarked : ¬data.1.isMarker = true)
    (e : EntityColumns) :
    e.addData data =
      { e.addArchetype data.1.descriptor.archetype with
        columns := (e.addArchetype data.1.descriptor.archetype).columns ++
          [data.1.column data.2] } := by
  rw [addData, if_neg unmarked, columns_addArchetype]

end EntityColumns

namespace Table

variable {table : Table} {c : TableColumn} {path : EntityPath}

theorem mem_paths : path ∈ table.paths ↔ ∃ data ∈ table.data, data.1.entityPath = path := by
  rw [paths, List.mem_eraseDups, List.mem_map]

theorem mem_columnsOf {data : DataColumn × TypedArray} :
    data ∈ table.columnsOf path ↔
      data ∈ table.data ∧ data.1.entityPath = path ∧ data.1.isMarker = false := by
  simp [columnsOf]

theorem mem_archetypesOf {archetype : ArchetypeName} :
    archetype ∈ table.archetypesOf path ↔ ∃ data ∈ table.data,
      data.1.entityPath = path ∧ data.1.descriptor.archetype = some archetype := by
  simp [archetypesOf, List.mem_filterMap, and_assoc]

theorem nodup_paths (table : Table) : table.paths.Nodup := nodup_eraseDups _

theorem times_concat (table : Table) (c : TableColumn) :
    times (table ++ [c]) = table.times ++ c.times?.toList := by
  rw [times, List.filterMap_append, ← times, List.filterMap_cons]
  cases c.times? <;> rfl

theorem data_concat (table : Table) (c : TableColumn) :
    data (table ++ [c]) = table.data ++ c.data?.toList := by
  rw [data, List.filterMap_append, ← data, List.filterMap_cons]
  cases c.data? <;> rfl

theorem entity_of_notMem (unknown : path ∉ table.paths) : table.entity path = {} := by
  have other : ∀ data ∈ table.data, data.1.entityPath ≠ path :=
    fun data member same => unknown (mem_paths.2 ⟨data, member, same⟩)
  have none : table.data.filter (·.1.entityPath = path) = [] := by
    simpa using other
  have columns : table.columnsOf path = [] := by
    rw [columnsOf, List.filter_eq_nil_iff]
    intro data member
    simp [other data member]
  rw [entity, columns, archetypesOf, none]
  rfl

theorem paths_concat {data : DataColumn × TypedArray} (decoded : c.data? = some data)
    (table : Table) :
    paths (table ++ [c]) =
      if data.1.entityPath ∈ table.paths then table.paths
      else table.paths ++ [data.1.entityPath] := by
  rw [paths, data_concat, decoded, Option.toList_some, List.map_append, List.map_singleton,
    eraseDups_concat]
  simp only [paths, List.mem_eraseDups]
  split <;> simp

theorem columnsOf_concat {data : DataColumn × TypedArray} (decoded : c.data? = some data)
    (table : Table) :
    columnsOf (table ++ [c]) data.1.entityPath =
      table.columnsOf data.1.entityPath ++ if data.1.isMarker then [] else [data] := by
  rw [columnsOf, data_concat, decoded, List.filter_append, ← columnsOf]
  cases marker : data.1.isMarker <;> simp [marker]

theorem archetypesOf_concat {data : DataColumn × TypedArray} (decoded : c.data? = some data)
    (table : Table) :
    archetypesOf (table ++ [c]) data.1.entityPath =
      ((table.entity data.1.entityPath).addArchetype data.1.descriptor.archetype).archetypes := by
  have own : [data].filter (·.1.entityPath = data.1.entityPath) = [data] := by simp
  rw [archetypesOf, data_concat, decoded, Option.toList_some, List.filter_append, own,
    List.filterMap_append]
  cases named : data.1.descriptor.archetype with
  | none => simp [named, entity, archetypesOf, EntityColumns.addArchetype]
  | some archetype =>
    simp only [List.filterMap_cons, named, List.filterMap_nil, eraseDups_concat]
    simp only [entity, archetypesOf, EntityColumns.addArchetype, List.mem_eraseDups]
    split <;> simp

theorem entity_concat {data : DataColumn × TypedArray} (decoded : c.data? = some data)
    (table : Table) (path : EntityPath) :
    entity (table ++ [c]) path =
      if path = data.1.entityPath then (table.entity data.1.entityPath).addData data
      else table.entity path := by
  by_cases same : path = data.1.entityPath
  · rw [if_pos same, same, entity, columnsOf_concat decoded, archetypesOf_concat decoded,
      List.map_append, EntityColumns.addData]
    cases data.1.isMarker <;> rfl
  · simp [same, entity, columnsOf, archetypesOf, data_concat, decoded, Ne.symm same]

end Table

theorem ColumnDescriptor.type_of_component {f : Field} {data : DataColumn}
    (decoded : ofField f = .ok (some (.component data))) : ∃ item, f.type = .list .regular item := by
  rw [ofField, bind_eq_ok] at decoded
  obtain ⟨kind, _, read⟩ := decoded
  cases kind with
  | control => cases read
  | index => cases read
  | component =>
    dsimp only at read
    split at read
    case h_1 item type => exact ⟨item, type⟩
    case h_2 => cases read

namespace Regrouping

variable {rows : Nat}

theorem update_update (g : Regrouping) (path : EntityPath)
    (first next : EntityColumns → EntityColumns) :
    (g.update path first).update path next = g.update path fun e => next (first e) := by
  simp only [update, Entries.get?_put, if_true, Option.getD_some, Entries.put_put]

theorem addData_eq {a : TypedArray} {item : Field} (type : a.type = .list .regular item)
    (fit : a.ListsFit) (g : Regrouping) (name : String) (data : DataColumn) :
    g.addData name data a = g.update data.entityPath (·.addData (data, a)) := by
  obtain ⟨skipped, slots, items, array, made, _⟩ := data.toLists_column type fit
  have split : (data.isIndicator || data.descriptor.isIndicator) = data.isMarker := rfl
  unfold addData
  dsimp only
  rw [split]
  by_cases marker : data.isMarker = true
  · rw [if_pos marker]
    exact congrArg _ (funext fun e => (@EntityColumns.addData_of_marker (data, a) marker e).symm)
  · rw [if_neg marker]
    simp only [array, made, update_update]
    rw [← array]
    exact congrArg _ (funext fun e => (@EntityColumns.addData_of_not_marker (data, a) marker e).symm)

theorem add_spec {c : TableColumn} (valid : c.IsValid rows) (g : Regrouping) :
    (g.add c).times = g.times ++ c.times?.toList ∧
      (g.add c).entities =
        match c.data? with
        | none => g.entities
        | some data => g.entities.put data.1.entityPath
            (((g.entities.get? data.1.entityPath).getD {}).addData data) := by
  unfold add TableColumn.times? TableColumn.data?
  cases decoded : ColumnDescriptor.ofField c.field with
  | error cause => exact ⟨(List.append_nil _).symm, rfl⟩
  | ok what =>
    match what with
    | none => exact ⟨(List.append_nil _).symm, rfl⟩
    | some (.time index) =>
      dsimp only
      cases TimeColumn.read index.timeline c.array with
      | error cause => exact ⟨(List.append_nil _).symm, rfl⟩
      | ok times => exact ⟨rfl, rfl⟩
    | some (.component data) =>
      obtain ⟨item, type⟩ := ColumnDescriptor.type_of_component decoded
      dsimp only
      rw [addData_eq (valid.type.trans type) valid.lists]
      exact ⟨(List.append_nil _).symm, rfl⟩

theorem ofTable_spec {table : Table} (valid : ∀ c ∈ table, c.IsValid rows) :
    (ofTable table).times = table.times ∧
      (ofTable table).entities = table.paths.map fun path => (path, table.entity path) := by
  induction table using List.reverseRecOn with
  | nil => exact ⟨rfl, rfl⟩
  | append_singleton table c ih =>
    obtain ⟨times, entities⟩ := ih fun c member => valid c (List.mem_append_left _ member)
    obtain ⟨addedTimes, addedData⟩ :=
      add_spec (valid c (List.mem_append_right _ (List.mem_singleton_self c))) (ofTable table)
    have next : ofTable (table ++ [c]) = (ofTable table).add c := by
      rw [ofTable, List.foldl_append]
      rfl
    rw [next]
    refine ⟨addedTimes.trans (times ▸ (Table.times_concat table c).symm), addedData.trans ?_⟩
    cases decoded : c.data? with
    | none =>
      have same : Table.data (table ++ [c]) = Table.data table := by
        simp [Table.data_concat, decoded]
      simp only [entities, Table.paths, Table.entity, Table.columnsOf, Table.archetypesOf, same]
    | some data =>
      have before : ((ofTable table).entities.get? data.1.entityPath).getD {} =
          Table.entity table data.1.entityPath := by
        rw [entities, Entries.get?_map]
        split
        case isTrue => rfl
        case isFalse unknown => exact (Table.entity_of_notMem unknown).symm
      dsimp only
      rw [before, entities, Entries.put_map (Table.nodup_paths table), Table.paths_concat decoded]
      apply List.map_congr_left
      intro path _
      rw [Table.entity_concat decoded]

end Regrouping

end EntityLog
