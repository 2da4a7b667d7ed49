import EntityLog.Proofs.Recording.Submissions

/-!
What becomes of each column that is offered to a submission. It is kept if it has as many rows as
the first one and no column before it that does has its name; of each other there is one complaint.
-/

namespace EntityLog

section

variable {α β : Type}

def inTurn (f : List α → α → List β) (values : List α) : List β :=
  values.zipIdx.flatMap fun place => f (values.take place.2) place.1

theorem inTurn_concat (f : List α → α → List β) (values : List α) (a : α) :
    inTurn f (values ++ [a]) = inTurn f values ++ f values a := by
  have earlier : ∀ place ∈ values.zipIdx,
      f ((values ++ [a]).take place.2) place.1 = f (values.take place.2) place.1 := by
    intro place inside
    rw [List.take_append_of_le_length (Nat.le_of_lt (List.snd_lt_of_mem_zipIdx inside))]
  rw [inTurn, List.zipIdx_append, List.flatMap_append, List.flatMap_congr earlier]
  simp [inTurn]

end

/-- A column that is offered to a submission. -/
inductive Offer
  | time (column : TimeColumn)
  | lists (descriptor : ComponentDescriptor) (lists : TypedArray)
  | marker (archetype : ArchetypeName)
  | failed (cause : PartitionError)

namespace Offer

def ofColumn : Except PartitionError ComponentColumn → Offer
  | .error cause => failed cause
  | .ok column =>
    match column.toLists with
    | .error cause => failed cause
    | .ok array => lists column.descriptor array

/-- The name under which an offer is kept, and its rows; markers are made to fit. -/
def measure (rows : Nat) : Offer → Except PartitionError (ColumnName × Nat)
  | time c => .ok (.timeline c.name, c.rowCount)
  | lists d array => .ok (.component d, array.length)
  | marker archetype => .ok (.component (.indicator archetype), rows)
  | failed cause => .error cause

def own? : Offer → Option (ColumnName × Nat)
  | time c => some (.timeline c.name, c.rowCount)
  | lists d array => some (.component d, array.length)
  | marker _ | failed _ => none

def name? (rows : Nat) (o : Offer) : Option ColumnName :=
  match o.measure rows with
  | .ok (name, length) => if length = rows then some name else none
  | .error _ => none

def taken (rows : Nat) (offers : List Offer) : List ColumnName := offers.filterMap (name? rows)

/-- The first offer with rows of its own, which sets their number for all. -/
def first? (offers : List Offer) : Option (ColumnName × Nat) := offers.findSome? own?

def rowsBy (first : Option (ColumnName × Nat)) : Nat := first.elim 0 (·.2)

def refusal? (path : EntityPath) (first : Option (ColumnName × Nat)) (before : List Offer)
    (o : Offer) : Option Complaint :=
  match o.measure (rowsBy first) with
  | .error cause => some (.failure (.submission (.partition cause)))
  | .ok (name, length) =>
    if name ∈ taken (rowsBy first) before then some (Submission.repeated path name)
    else if length = rowsBy first then none
    else some (.failure (.submission
      (.lengthMismatch name length (first.elim name (·.1)) (rowsBy first))))

def isKept (rows : Nat) (before : List Offer) (o : Offer) : Bool :=
  match o.name? rows with
  | some name => name ∉ taken rows before
  | none => false

theorem isKept_iff {rows : Nat} {before : List Offer} {o : Offer} :
    isKept rows before o = true ↔ ∃ name, o.name? rows = some name ∧ name ∉ taken rows before := by
  unfold isKept
  cases o.name? rows <;> simp

def kept (rows : Nat) (offers : List Offer) : List Offer :=
  inTurn (fun before o => if isKept rows before o then [o] else []) offers

def refusals (path : EntityPath) (first : Option (ColumnName × Nat)) (offers : List Offer) :
    List Complaint :=
  inTurn (fun before o => (refusal? path first before o).toList) offers

def time? : Offer → Option (TimelineName × TimeColumn)
  | time c => some (c.name, c)
  | lists .. | marker _ | failed _ => none

def component? (rows : Nat) : Offer → Option (ComponentDescriptor × TypedArray)
  | lists d array => some (d, array)
  | marker archetype => some (.indicator archetype, .nullLists .null rows)
  | time _ | failed _ => none

variable {path : EntityPath} {first : Option (ColumnName × Nat)} {rows : Nat} {offers : List Offer}

theorem kept_concat (rows : Nat) (offers : List Offer) (o : Offer) :
    kept rows (offers ++ [o]) = kept rows offers ++ if isKept rows offers o then [o] else [] :=
  inTurn_concat _ offers o

theorem refusals_concat (path : EntityPath) (first : Option (ColumnName × Nat))
    (offers : List Offer) (o : Offer) :
    refusals path first (offers ++ [o]) =
      refusals path first offers ++ (refusal? path first offers o).toList :=
  inTurn_concat _ offers o

section

variable {before : List Offer} {o : Offer} {name : ColumnName} {length : Nat}

theorem refusal?_of_taken (measured : o.measure (rowsBy first) = .ok (name, length))
    (known : name ∈ taken (rowsBy first) before) (path : EntityPath) :
    refusal? path first before o = some (Submission.repeated path name) := by
  rw [refusal?, measured]
  exact if_pos known

theorem refusal?_of_fits (measured : o.measure (rowsBy first) = .ok (name, rowsBy first))
    (new : name ∉ taken (rowsBy first) before) (path : EntityPath) :
    refusal? path first before o = none := by
  rw [refusal?, measured]
  exact (if_neg new).trans (if_pos rfl)

theorem refusal?_of_misfits (measured : o.measure (rowsBy first) = .ok (name, length))
    (new : name ∉ taken (rowsBy first) before) (other : length ≠ rowsBy first)
    (path : EntityPath) :
    refusal? path first before o = some (.failure (.submission
      (.lengthMismatch name length (first.elim name (·.1)) (rowsBy first)))) := by
  rw [refusal?, measured]
  exact (if_neg new).trans (if_neg other)

end

theorem refusal?_eq_none (path : EntityPath) (first : Option (ColumnName × Nat))
    (before : List Offer) (o : Offer) :
    refusal? path first before o = none ↔ isKept (rowsBy first) before o = true := by
  cases measured : o.measure (rowsBy first) with
  | error cause => simp [refusal?, isKept, name?, measured]
  | ok measure =>
    obtain ⟨name, length⟩ := measure
    by_cases known : name ∈ taken (rowsBy first) before
    · by_cases fits : length = rowsBy first <;>
        simp [refusal?, isKept, name?, measured, known, fits]
    · by_cases fits : length = rowsBy first <;>
        simp [refusal?, isKept, name?, measured, known, fits]

theorem not_isKept_of_refused {before : List Offer} {o : Offer} {complaint : Complaint}
    (refused : refusal? path first before o = some complaint) :
    ¬isKept (rowsBy first) before o = true := by
  rw [← refusal?_eq_none path, refused]
  exact Option.some_ne_none complaint

theorem length_refusals_add (path : EntityPath) (first : Option (ColumnName × Nat))
    (offers : List Offer) :
    (refusals path first offers).length + (kept (rowsBy first) offers).length =
      offers.length := by
  induction offers using List.reverseRecOn with
  | nil => rfl
  | append_singleton offers o ih =>
    have one : (refusal? path first offers o).toList.length +
        (if isKept (rowsBy first) offers o then [o] else []).length = 1 := by
      cases refused : refusal? path first offers o with
      | none => rw [if_pos ((refusal?_eq_none ..).1 refused)]; rfl
      | some complaint => rw [if_neg (not_isKept_of_refused refused)]; rfl
    rw [refusals_concat, kept_concat, List.length_append, List.length_append, List.length_append,
      List.length_singleton]
    omega

theorem find?_kept (rows : Nat) (offers : List Offer) (name : ColumnName) :
    (kept rows offers).find? (·.name? rows = some name) =
      offers.find? (·.name? rows = some name) := by
  induction offers using List.reverseRecOn with
  | nil => rfl
  | append_singleton offers o ih =>
    rw [kept_concat, List.find?_append, List.find?_append, ih]
    cases found : offers.find? (·.name? rows = some name) with
    | some earlier => rfl
    | none =>
      rw [Option.none_or, Option.none_or]
      by_cases same : o.name? rows = some name
      · have new : name ∉ taken rows offers := by
          intro known
          obtain ⟨earlier, member, named⟩ := List.mem_filterMap.1 known
          exact List.find?_eq_none.1 found earlier member (decide_eq_true named)
        simp [isKept, same, new]
      · split <;> simp [same]

theorem name?_of_mem_kept {o : Offer} (member : o ∈ kept rows offers) :
    ∃ name, o.name? rows = some name := by
  induction offers using List.reverseRecOn with
  | nil => cases member
  | append_singleton offers last ih =>
    rw [kept_concat] at member
    rcases List.mem_append.1 member with early | here
    · exact ih early
    · split at here
      case isFalse => cases here
      case isTrue keeps =>
        obtain rfl := List.mem_singleton.1 here
        obtain ⟨name, named, _⟩ := isKept_iff.1 keeps
        exact ⟨name, named⟩

theorem kept_sublist (rows : Nat) (offers : List Offer) : (kept rows offers).Sublist offers := by
  induction offers using List.reverseRecOn with
  | nil => exact .slnil
  | append_singleton offers o ih =>
    rw [kept_concat]
    refine ih.append ?_
    split
    · exact List.Sublist.refl _
    · exact List.nil_sublist _

theorem name?_eq_some {o : Offer} {name : ColumnName} :
    o.name? rows = some name ↔ o.measure rows = .ok (name, rows) := by
  unfold name?
  cases o.measure rows with
  | error cause => simp
  | ok measure => by_cases fits : measure.2 = rows <;> simp [fits, Prod.ext_iff]

theorem name?_time {c : TimeColumn} {name : ColumnName} :
    (time c).name? rows = some name ↔ .timeline c.name = name ∧ c.rowCount = rows := by
  simp [name?_eq_some, measure]

theorem name?_lists {d : ComponentDescriptor} {array : TypedArray} {name : ColumnName} :
    (lists d array).name? rows = some name ↔ .component d = name ∧ array.length = rows := by
  simp [name?_eq_some, measure]

theorem name?_marker {archetype : ArchetypeName} {name : ColumnName} :
    (marker archetype).name? rows = some name ↔ .component (.indicator archetype) = name := by
  simp [name?_eq_some, measure]

theorem name?_failed (cause : PartitionError) : (failed cause).name? rows = none := rfl

section

variable {κ β : Type} [DecidableEq κ] {entry : Offer → Option (κ × β)} {label : κ → ColumnName}

def Labels (rows : Nat) (entry : Offer → Option (κ × β)) (label : κ → ColumnName) : Prop :=
  ∀ o name, o.name? rows = some name →
    ∀ key, (∃ value, entry o = some (key, value)) ↔ name = label key

theorem get?_filterMap (labels : Labels rows entry label) {values : List Offer}
    (named : ∀ o ∈ values, ∃ name, o.name? rows = some name) (key : κ) :
    Entries.get? key (values.filterMap entry) =
      (values.find? (·.name? rows = some (label key))).bind fun o => (entry o).map (·.2) := by
  induction values with
  | nil => rfl
  | cons o values ih =>
    obtain ⟨⟨name, own⟩, others⟩ := List.forall_mem_cons.1 named
    have has := labels o name own key
    rw [List.filterMap_cons, List.find?_cons, own]
    by_cases same : name = label key
    · obtain ⟨value, here⟩ := has.2 same
      simp [here, same, Entries.get?]
    · have other : decide (some name = some (label key)) = false := by simpa using same
      rw [other, ← ih others]
      cases here : entry o with
      | none => rfl
      | some e =>
        have apart : e.1 ≠ key := fun is => same (has.1 ⟨e.2, is ▸ here⟩)
        exact if_neg apart

theorem get?_kept (labels : Labels rows entry label) (offers : List Offer) (key : κ) :
    Entries.get? key ((kept rows offers).filterMap entry) =
      (offers.find? (·.name? rows = some (label key))).bind fun o => (entry o).map (·.2) := by
  rw [get?_filterMap labels fun _ => name?_of_mem_kept, find?_kept]

theorem mem_keys_kept (labels : Labels rows entry label) {key : κ} :
    key ∈ Entries.keys ((kept rows offers).filterMap entry) ↔ label key ∈ taken rows offers := by
  have found : label key ∈ taken rows offers ↔
      (offers.find? (·.name? rows = some (label key))).isSome := by
    simp [taken, List.find?_isSome]
  rw [← Entries.get?_isSome, get?_kept labels, found]
  cases first : offers.find? (·.name? rows = some (label key)) with
  | none => rfl
  | some o =>
    have named : o.name? rows = some (label key) := by simpa using List.find?_some first
    obtain ⟨value, here⟩ := (labels o _ named key).2 rfl
    simp [here]

theorem nodup_keys_kept (labels : Labels rows entry label) (offers : List Offer) :
    (Entries.keys ((kept rows offers).filterMap entry)).Nodup := by
  induction offers using List.reverseRecOn with
  | nil => exact List.nodup_nil
  | append_singleton offers o ih =>
    rw [kept_concat]
    split
    case isFalse => rwa [List.append_nil]
    case isTrue keeps =>
      rw [List.filterMap_append, List.filterMap_cons, List.filterMap_nil]
      cases here : entry o with
      | none => rwa [List.append_nil]
      | some e =>
        obtain ⟨name, named, new⟩ := isKept_iff.1 keeps
        have key : name = label e.1 := (labels o name named e.1).1 ⟨e.2, here⟩
        rw [key, ← mem_keys_kept labels] at new
        simpa [Entries.keys] using ih.concat new

end

theorem labels_time (rows : Nat) : Labels rows time? .timeline := by
  intro o name named key
  cases o with
  | time c =>
    cases (name?_time.1 named).1
    simp [time?, eq_comm]
  | lists d array =>
    cases (name?_lists.1 named).1
    simp [time?]
  | marker archetype =>
    cases name?_marker.1 named
    simp [time?]
  | failed cause => cases named

theorem labels_component (rows : Nat) : Labels rows (component? rows) .component := by
  intro o name named key
  cases o with
  | time c =>
    cases (name?_time.1 named).1
    simp [component?]
  | lists d array =>
    cases (name?_lists.1 named).1
    simp [component?]
  | marker archetype =>
    cases name?_marker.1 named
    simp [component?]
  | failed cause => cases named

theorem length_filterMap_kept (rows : Nat) (offers : List Offer) :
    ((kept rows offers).filterMap time?).length +
        ((kept rows offers).filterMap (component? rows)).length = (kept rows offers).length := by
  have each (values : List Offer) (named : ∀ o ∈ values, ∃ name, o.name? rows = some name) :
      (values.filterMap time?).length + (values.filterMap (component? rows)).length =
        values.length := by
    induction values with
    | nil => rfl
    | cons o values ih =>
      obtain ⟨⟨name, own⟩, others⟩ := List.forall_mem_cons.1 named
      rw [List.filterMap_cons, List.filterMap_cons, List.length_cons, ← ih others]
      cases o with
      | time c => exact Nat.succ_add ..
      | lists d array => rfl
      | marker archetype => rfl
      | failed cause => cases own
  exact each _ fun _ => name?_of_mem_kept

theorem measure_of_own {o : Offer} {measure : ColumnName × Nat} (own : o.own? = some measure)
    (rows : Nat) : o.measure rows = .ok measure := by
  cases o with
  | time c => exact congrArg _ (Option.some.inj own)
  | lists d array => exact congrArg _ (Option.some.inj own)
  | marker archetype => cases own
  | failed cause => cases own

theorem first?_append (offers later : List Offer) :
    first? (offers ++ later) = (first? offers).or (first? later) :=
  List.findSome?_append

theorem first?_concat (offers : List Offer) (o : Offer) :
    first? (offers ++ [o]) = (first? offers).or o.own? := by
  rw [first?_append, first?, first?, List.findSome?_singleton]

theorem first?_markers (archetypes : List ArchetypeName) : first? (archetypes.map .marker) = none :=
  List.findSome?_eq_none_iff.2 (List.forall_mem_map.2 fun _ _ => rfl)

end Offer

def ColumnInput.offer? : ColumnInput → Option Offer
  | batch b => some (.ofColumn (b.intoStorage.partition none))
  | column c => some (.ofColumn (.ok c))
  | indicator _ => none

theorem ColumnInput.offer?_cases (input : ColumnInput) :
    (∃ archetype, input = .indicator archetype ∧ input.lists? = none ∧ input.offer? = none) ∨
    (∃ e, input.lists? = some e ∧ input.offer? = some (.lists e.1 e.2)) ∨
    ∃ cause, input.lists? = none ∧ input.offer? = some (.failed cause) := by
  have column (column : Except PartitionError ComponentColumn) :
      (∃ e, listsOf column = some e ∧ Offer.ofColumn column = .lists e.1 e.2) ∨
        ∃ cause, listsOf column = none ∧ Offer.ofColumn column = .failed cause := by
    cases column with
    | error cause => exact .inr ⟨cause, rfl, rfl⟩
    | ok column =>
      rw [listsOf, Offer.ofColumn]
      cases column.toLists with
      | error cause => exact .inr ⟨cause, rfl, rfl⟩
      | ok lists => exact .inl ⟨_, rfl, rfl⟩
  cases input with
  | batch b =>
    simp only [lists?, offer?, Option.some.injEq]
    exact .inr (column _)
  | column c =>
    simp only [lists?, offer?, Option.some.injEq]
    exact .inr (column _)
  | indicator archetype => exact .inl ⟨archetype, rfl, rfl, rfl⟩

namespace Submission

open Offer

def offers (times : List TimeColumn) (inputs : List ColumnInput) : List Offer :=
  times.map .time ++ inputs.filterMap ColumnInput.offer? ++ (indicators inputs).map .marker

def addOffer (path : EntityPath) (s : Submission) : Offer → Submission
  | .time c => addTime path s c
  | .lists d array => addLists path s d array
  | .marker archetype => addIndicator path s archetype
  | .failed cause => s.fail (.partition cause)

theorem addColumn_eq (path : EntityPath) (s : Submission)
    (column : Except PartitionError ComponentColumn) :
    addColumn path s column = addOffer path s (.ofColumn column) := by
  unfold addColumn Offer.ofColumn
  cases column with
  | error cause => rfl
  | ok column =>
    dsimp only
    cases column.toLists <;> rfl

theorem ofInputs_eq_foldl (path : EntityPath) (times : List TimeColumn)
    (inputs : List ColumnInput) :
    ofInputs path times inputs = (offers times inputs).foldl (addOffer path) {} := by
  have columns (s : Submission) : inputs.foldl (addInput path) s =
      (inputs.filterMap ColumnInput.offer?).foldl (addOffer path) s := by
    induction inputs generalizing s with
    | nil => rfl
    | cons input inputs ih =>
      rw [List.foldl_cons, ih]
      cases input with
      | batch b => rw [addInput, addColumn_eq]; rfl
      | column c => rw [addInput, addColumn_eq]; rfl
      | indicator archetype => rfl
  rw [offers, List.foldl_append, List.foldl_append, List.foldl_map, List.foldl_map, ← columns]
  rfl

end Submission

end EntityLog
