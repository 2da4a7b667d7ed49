import EntityLog.Proofs.Recording.Offers

namespace EntityLog

namespace Submission

open Offer

/-- Does a submission keep what is kept of the offers, and complain of the others? -/
structure Accounts (path : EntityPath) (first : Option (ColumnName × Nat)) (offers : List Offer)
    (s : Submission) : Prop where
  set : s.first = first? offers
  timelines : s.timelines = (kept (rowsBy first) offers).filterMap time?
  components : s.components =
    (kept (rowsBy first) offers).filterMap (component? (rowsBy first))
  complaints : s.complaints = refusals path first offers

namespace Accounts

variable {path : EntityPath} {first : Option (ColumnName × Nat)} {offers : List Offer}
  {s : Submission} {o : Offer}

theorem empty (path : EntityPath) (first : Option (ColumnName × Nat)) : Accounts path first [] {} :=
  ⟨rfl, rfl, rfl, rfl⟩

theorem refuse (accounts : Accounts path first offers s) {complaint : Complaint}
    (refused : refusal? path first offers o = some complaint)
    (set : first? (offers ++ [o]) = first? offers) :
    Accounts path first (offers ++ [o]) (s.complain complaint) := by
  have same : kept (rowsBy first) (offers ++ [o]) = kept (rowsBy first) offers := by
    rw [kept_concat, if_neg (not_isKept_of_refused refused), List.append_nil]
  refine ⟨accounts.set.trans set.symm, ?_, ?_, ?_⟩
  · rw [same]
    exact accounts.timelines
  · rw [same]
    exact accounts.components
  · rw [refusals_concat, refused, ← accounts.complaints]
    rfl

theorem keep (accounts : Accounts path first offers s)
    (accepted : refusal? path first offers o = none) {after : Submission}
    (set : after.first = first? (offers ++ [o]))
    (timelines : after.timelines = s.timelines ++ o.time?.toList)
    (components : after.components = s.components ++ (o.component? (rowsBy first)).toList)
    (complaints : after.complaints = s.complaints) :
    Accounts path first (offers ++ [o]) after := by
  have more : kept (rowsBy first) (offers ++ [o]) =
      kept (rowsBy first) offers ++ [o] := by
    rw [kept_concat, if_pos ((refusal?_eq_none ..).1 accepted)]
  refine ⟨set, ?_, ?_, ?_⟩
  · rw [timelines, accounts.timelines, more, List.filterMap_append, List.filterMap_cons]
    cases o.time? <;> rfl
  · rw [components, accounts.components, more, List.filterMap_append, List.filterMap_cons]
    cases o.component? (rowsBy first) <;> rfl
  · rw [complaints, accounts.complaints, refusals_concat, accepted]
    exact (List.append_nil _).symm

theorem fit (accounts : Accounts path first offers s) {name : ColumnName} {length : Nat}
    (own : o.own? = some (name, length)) (leads : first? (offers ++ [o]) = first) :
    if length = rowsBy first then s.fit name length = .ok { s with first }
    else s.first = first ∧
      s.fit name length =
        .error (.lengthMismatch name length (first.elim name (·.1)) (rowsBy first)) := by
  rw [first?_concat, own, ← accounts.set] at leads
  unfold Submission.fit
  cases set : s.first with
  | none =>
    rw [set, Option.none_or] at leads
    subst leads
    exact (if_pos rfl).mpr rfl
  | some measure =>
    rw [set, Option.some_or] at leads
    subst leads
    have unchanged : { s with first := some measure } = s := by rw [← set]
    by_cases same : length = measure.2 <;> simp [rowsBy, same, unchanged]

theorem first?_of_taken (unmarked : ∀ archetype, .marker archetype ∉ offers) {name : ColumnName}
    (known : name ∈ taken (rowsBy first) offers) (o : Offer) :
    first? (offers ++ [o]) = first? offers := by
  obtain ⟨earlier, member, named⟩ := List.mem_filterMap.1 known
  have set : ∃ measure, earlier.own? = some measure := by
    cases earlier with
    | time c => exact ⟨_, rfl⟩
    | lists d array => exact ⟨_, rfl⟩
    | marker archetype => exact absurd member (unmarked archetype)
    | failed cause => cases named
  have some : (first? offers).isSome := List.findSome?_isSome_iff.2
    ⟨earlier, member, Option.isSome_iff_exists.2 set⟩
  obtain ⟨measure, is⟩ := Option.isSome_iff_exists.1 some
  rw [first?_concat, is, Option.some_or]

theorem column (accounts : Accounts path first offers s)
    (unmarked : ∀ archetype, .marker archetype ∉ offers) {name : ColumnName} {length : Nat}
    (own : o.own? = some (name, length)) (leads : first? (offers ++ [o]) = first)
    {after : Submission}
    (again : name ∈ taken (rowsBy first) offers → after = s.complain (repeated path name))
    (misfit : name ∉ taken (rowsBy first) offers →
      ∀ cause, s.fit name length = .error cause → after = s.fail cause)
    (fits : name ∉ taken (rowsBy first) offers →
      ∀ fitted, s.fit name length = .ok fitted → after.first = fitted.first ∧
        after.timelines = s.timelines ++ o.time?.toList ∧
        after.components = s.components ++ (o.component? (rowsBy first)).toList ∧
        after.complaints = s.complaints) :
    Accounts path first (offers ++ [o]) after := by
  have measured := measure_of_own own (rowsBy first)
  by_cases known : name ∈ taken (rowsBy first) offers
  · rw [again known]
    exact accounts.refuse (refusal?_of_taken measured known path)
      (first?_of_taken unmarked known o)
  · have fit := accounts.fit own leads
    split at fit
    case isTrue same =>
      obtain ⟨set, timelines, components, complaints⟩ := fits known _ fit
      subst same
      exact accounts.keep (refusal?_of_fits measured known path) (set.trans leads.symm) timelines
        components complaints
    case isFalse other =>
      rw [misfit known _ fit.2]
      exact accounts.refuse (refusal?_of_misfits measured known other path)
        (leads.trans (fit.1.symm.trans accounts.set))

theorem time (accounts : Accounts path first offers s)
    (unmarked : ∀ archetype, .marker archetype ∉ offers) {c : TimeColumn}
    (leads : first? (offers ++ [.time c]) = first) :
    Accounts path first (offers ++ [.time c]) (addTime path s c) := by
  have keys : c.name ∈ s.timelines.keys ↔ .timeline c.name ∈ taken (rowsBy first) offers := by
    rw [accounts.timelines, mem_keys_kept (labels_time _)]
  refine accounts.column unmarked rfl leads (fun known => addTime_of_mem (keys.2 known) path) ?_ ?_
  · intro new cause tried
    rw [addTime, Entries.get?_of_notMem (mt keys.1 new), tried]
  · intro new fitted tried
    have none := Entries.get?_of_notMem (mt keys.1 new)
    obtain ⟨timelines, components, _⟩ := fit_eq_ok tried
    have complaints := complaints_fit tried
    rw [addTime, none, tried]
    refine ⟨rfl, ?_, components.trans (List.append_nil _).symm, complaints⟩
    exact (congrArg (Entries.put c.name c) timelines).trans (Entries.put_of_get?_eq_none none c)

theorem lists (accounts : Accounts path first offers s)
    (unmarked : ∀ archetype, .marker archetype ∉ offers) {d : ComponentDescriptor}
    {array : TypedArray} (leads : first? (offers ++ [.lists d array]) = first) :
    Accounts path first (offers ++ [.lists d array]) (addLists path s d array) := by
  have keys : d ∈ s.components.keys ↔ .component d ∈ taken (rowsBy first) offers := by
    rw [accounts.components, mem_keys_kept (labels_component _)]
  refine accounts.column unmarked rfl leads
    (fun known => addLists_of_mem (keys.2 known) path array) ?_ ?_
  · intro new cause tried
    rw [addLists, Entries.get?_of_notMem (mt keys.1 new), tried]
  · intro new fitted tried
    have none := Entries.get?_of_notMem (mt keys.1 new)
    obtain ⟨timelines, components, _⟩ := fit_eq_ok tried
    have complaints := complaints_fit tried
    rw [addLists, none, tried]
    refine ⟨rfl, timelines.trans (List.append_nil _).symm, ?_, complaints⟩
    exact (congrArg (Entries.put d array) components).trans (Entries.put_of_get?_eq_none none array)

theorem failed (accounts : Accounts path first offers s) (cause : PartitionError) :
    Accounts path first (offers ++ [.failed cause]) (s.fail (.partition cause)) :=
  accounts.refuse rfl ((first?_concat _ _).trans Option.or_none)

theorem marker (accounts : Accounts path first offers s) (leads : first? offers = first)
    (archetype : ArchetypeName) :
    Accounts path first (offers ++ [.marker archetype]) (addIndicator path s archetype) := by
  have same : first? (offers ++ [.marker archetype]) = first? offers :=
    (first?_concat _ _).trans Option.or_none
  by_cases known : .component (.indicator archetype) ∈ taken (rowsBy first) offers
  · have there : .indicator archetype ∈ s.components.keys := by
      rwa [accounts.components, mem_keys_kept (labels_component _)]
    rw [addIndicator_of_mem there]
    exact accounts.refuse (refusal?_of_taken rfl known path) same
  · have new : .indicator archetype ∉ s.components.keys := by
      rwa [accounts.components, mem_keys_kept (labels_component _)]
    have rows : s.rowCount = rowsBy first := congrArg rowsBy (accounts.set.trans leads)
    rw [addIndicator_of_notMem new, rows]
    exact accounts.keep (refusal?_of_fits rfl known path) (accounts.set.trans same.symm)
      (List.append_nil _).symm rfl rfl

theorem foldl_unmarked (unmarked : ∀ archetype, .marker archetype ∉ offers)
    (leads : first? offers = none ∨ first? offers = first) :
    Accounts path first offers (offers.foldl (addOffer path) {}) := by
  -- What comes before a column that sets the number has set none, or else that very number.
  induction offers using List.reverseRecOn with
  | nil => exact empty path first
  | append_singleton offers o ih =>
    have earlier : ∀ archetype, .marker archetype ∉ offers :=
      fun archetype member => unmarked archetype (List.mem_append_left _ member)
    have sets {measure : ColumnName × Nat} (own : o.own? = some measure) :
        first? (offers ++ [o]) = first := by
      refine leads.resolve_left fun unset => ?_
      rw [first?_concat, own] at unset
      cases set : first? offers <;> simp [set] at unset
    have before : first? offers = none ∨ first? offers = first := by
      cases set : first? offers with
      | none => exact .inl rfl
      | some measure =>
        rw [first?_concat, set, Option.some_or] at leads
        exact leads
    have accounts := ih earlier before
    rw [List.foldl_append, List.foldl_cons, List.foldl_nil]
    cases o with
    | time c => exact accounts.time earlier (sets rfl)
    | lists d array => exact accounts.lists earlier (sets rfl)
    | marker archetype =>
      exact absurd (List.mem_append_right offers (List.mem_singleton_self _)) (unmarked archetype)
    | failed cause => exact accounts.failed cause

theorem foldl_markers (accounts : Accounts path first offers s) (leads : first? offers = first)
    (archetypes : List ArchetypeName) :
    Accounts path first (offers ++ archetypes.map .marker)
      (archetypes.foldl (addIndicator path) s) := by
  induction archetypes generalizing offers s with
  | nil => exact (List.append_nil offers).symm ▸ accounts
  | cons archetype archetypes ih =>
    have same : first? (offers ++ [.marker archetype]) = first :=
      (first?_concat _ _).trans (Option.or_none.trans leads)
    have further := ih (accounts.marker leads archetype) same
    rw [List.append_assoc] at further
    exact further

end Accounts

theorem accounts_ofInputs (path : EntityPath) (times : List TimeColumn)
    (inputs : List ColumnInput) :
    Accounts path (first? (offers times inputs)) (offers times inputs)
      (ofInputs path times inputs) := by
  have unmarked (archetype : ArchetypeName) :
      .marker archetype ∉ times.map Offer.time ++ inputs.filterMap ColumnInput.offer? := by
    intro member
    rcases List.mem_append.1 member with time | column
    · obtain ⟨c, _, is⟩ := List.mem_map.1 time
      cases is
    · obtain ⟨input, _, is⟩ := List.mem_filterMap.1 column
      rcases input.offer?_cases with ⟨_, _, _, same⟩ | ⟨_, _, same⟩ | ⟨_, _, same⟩ <;>
        cases same.symm.trans is
  have same : first? (times.map Offer.time ++ inputs.filterMap ColumnInput.offer?) =
      first? (offers times inputs) := by
    rw [offers, first?_append _ ((indicators inputs).map _), first?_markers, Option.or_none]
  rw [ofInputs_eq_foldl, offers, List.foldl_append, List.foldl_map]
  exact (Accounts.foldl_unmarked unmarked (.inr same)).foldl_markers same (indicators inputs)

section

variable (times : List TimeColumn) (inputs : List ColumnInput)

theorem length_offers : (offers times inputs).length = times.length + inputs.length := by
  have split : (inputs.filterMap ColumnInput.offer?).length + (indicators inputs).length =
      inputs.length := by
    induction inputs with
    | nil => rfl
    | cons input inputs ih =>
      rw [indicators, List.filterMap_cons, List.filterMap_cons, List.length_cons, ← ih]
      cases input with
      | batch b => exact Nat.succ_add ..
      | column c => exact Nat.succ_add ..
      | indicator archetype => rfl
  simp only [offers, List.length_append, List.length_map]
  omega

theorem rowsBy_offers : rowsBy (first? (offers times inputs)) = rowsOf times inputs := by
  have columns : (first? (inputs.filterMap ColumnInput.offer?)).map (·.2) =
      (inputs.filterMap ColumnInput.rowCount?).head? := by
    induction inputs with
    | nil => rfl
    | cons input inputs ih =>
      rw [List.filterMap_cons, List.filterMap_cons, ColumnInput.rowCount?]
      rcases input.offer?_cases with
        ⟨_, _, none, same⟩ | ⟨e, lists, same⟩ | ⟨cause, none, same⟩
      · rw [none, same]
        exact ih
      · rw [lists, same]
        rfl
      · rw [none, same]
        exact ih
  have rows (first : Option (ColumnName × Nat)) : rowsBy first = (first.map (·.2)).getD 0 := by
    cases first <;> rfl
  rw [rows, rowsOf, ← columns, offers, first?_append, first?_append, first?_markers, Option.or_none]
  cases times <;> rfl

theorem filterMap_time_offers :
    (offers times inputs).filterMap time? = times.map fun c => (c.name, c) := by
  have columns : (inputs.filterMap ColumnInput.offer?).filterMap time? = [] := by
    refine List.filterMap_eq_nil_iff.2 fun o member => ?_
    obtain ⟨input, _, is⟩ := List.mem_filterMap.1 member
    rcases input.offer?_cases with ⟨_, _, _, same⟩ | ⟨_, _, same⟩ | ⟨_, _, same⟩ <;>
      cases same.symm.trans is <;> rfl
  have markers : ((indicators inputs).map Offer.marker).filterMap time? = [] :=
    List.filterMap_eq_nil_iff.2 (List.forall_mem_map.2 fun _ _ => rfl)
  rw [offers, List.filterMap_append, List.filterMap_append, columns, markers, List.filterMap_map]
  simp [Function.comp_def, time?]

theorem filterMap_component_offers (rows : Nat) :
    (offers times inputs).filterMap (component? rows) =
      listsIn inputs ++
        (indicators inputs).map fun archetype => (.indicator archetype, .nullLists .null rows) := by
  have columns : (inputs.filterMap ColumnInput.offer?).filterMap (component? rows) =
      listsIn inputs := by
    rw [listsIn, List.filterMap_filterMap]
    refine List.filterMap_congr fun input _ => ?_
    rcases input.offer?_cases with ⟨_, _, none, same⟩ | ⟨_, lists, same⟩ | ⟨_, none, same⟩
    · rw [none, same]; rfl
    · rw [lists, same]; rfl
    · rw [none, same]; rfl
  have none : (times.map Offer.time).filterMap (component? rows) = [] :=
    List.filterMap_eq_nil_iff.2 (List.forall_mem_map.2 fun _ _ => rfl)
  rw [offers, List.filterMap_append, List.filterMap_append, columns, none, List.filterMap_map]
  simp [Function.comp_def, component?]

end

theorem find?_filterMap {κ β : Type} [DecidableEq κ] {entry : Offer → Option (κ × β)}
    {label : κ → ColumnName} {count : β → Nat} {rows : Nat} {key : κ}
    (named : ∀ o, o.name? rows = some (label key) ↔
      ∃ value, entry o = some (key, value) ∧ count value = rows) (offers : List Offer) :
    (offers.find? (·.name? rows = some (label key))).bind (fun o => (entry o).map (·.2)) =
      ((offers.filterMap entry).find? fun e => e.1 = key ∧ count e.2 = rows).map (·.2) := by
  have same : (fun o => decide (o.name? rows = some (label key))) =
      fun o => (entry o).any fun e => e.1 = key ∧ count e.2 = rows := by
    funext o
    rw [Bool.eq_iff_iff, decide_eq_true_iff, named o]
    cases entry o <;> simp [Prod.ext_iff]
  rw [List.find?_filterMap, same, Option.map_bind]
  rfl

variable {rows : Nat} (times : List TimeColumn) (inputs : List ColumnInput)

theorem get?_kept_time (name : TimelineName) :
    Entries.get? name ((kept rows (offers times inputs)).filterMap time?) =
      times.find? fun c => c.name = name ∧ c.rowCount = rows := by
  have named (o : Offer) : o.name? rows = some (.timeline name) ↔
      ∃ c, o.time? = some (name, c) ∧ c.rowCount = rows := by
    cases o with
    | time c => simp [name?_time, time?]
    | lists d array => simp [name?_lists, time?]
    | marker archetype => simp [name?_marker, time?]
    | failed cause => simp [name?_failed, time?]
  rw [get?_kept (labels_time rows), find?_filterMap named, filterMap_time_offers, List.find?_map,
    Option.map_map]
  exact Option.map_id'

theorem get?_kept_component (d : ComponentDescriptor) :
    Entries.get? d ((kept rows (offers times inputs)).filterMap (component? rows)) =
      (((listsIn inputs).find? fun e => e.1 = d ∧ e.2.length = rows).map (·.2)).or
        (((indicators inputs).find? (.indicator · = d)).map fun _ => .nullLists .null rows) := by
  have named (o : Offer) : o.name? rows = some (.component d) ↔
      ∃ array, o.component? rows = some (d, array) ∧ array.length = rows := by
    cases o with
    | time c => simp [name?_time, component?]
    | lists d array => simp [name?_lists, component?]
    | marker archetype => simp [name?_marker, component?, TypedArray.length_nullLists]
    | failed cause => simp [name?_failed, component?]
  rw [get?_kept (labels_component rows), find?_filterMap named, filterMap_component_offers,
    List.find?_append, List.find?_map, Option.map_or, Option.map_map]
  simp [Function.comp_def, TypedArray.length_nullLists]

end Submission

/-- Do some columns keep, in their order, exactly the times and inputs that have as many rows as the
first one, of each name the first, and a marker for each archetype whose name is not taken? -/
structure Columns.Keeps (c : Columns) (times : List TimeColumn) (inputs : List ColumnInput) :
    Prop where
  timeline : ∀ name, c.timelines.get? name =
    times.find? fun t => t.name = name ∧ t.rowCount = Submission.rowsOf times inputs
  component : ∀ d, c.components.get? d =
    (((Submission.listsIn inputs).find? fun e =>
        e.1 = d ∧ e.2.length = Submission.rowsOf times inputs).map (·.2)).or
      (((Submission.indicators inputs).find? (.indicator · = d)).map fun _ =>
        .nullLists .null (Submission.rowsOf times inputs))
  timelines : c.timelines.keys.Nodup ∧
    List.Sublist c.timelines (times.map fun t => (t.name, t))
  components : c.components.keys.Nodup ∧
    List.Sublist c.components (Submission.listsIn inputs ++
      (Submission.indicators inputs).map fun archetype =>
        (.indicator archetype, .nullLists .null (Submission.rowsOf times inputs)))

def Columns.ofOffers (path : EntityPath) (rows : Nat) (offers : List Offer) : Columns where
  path
  timelines := (Offer.kept rows offers).filterMap Offer.time?
  components := (Offer.kept rows offers).filterMap (Offer.component? rows)

theorem Columns.keeps_ofOffers (path : EntityPath) (times : List TimeColumn)
    (inputs : List ColumnInput) :
    (ofOffers path (Submission.rowsOf times inputs) (Submission.offers times inputs)).Keeps
      times inputs where
  timeline := Submission.get?_kept_time times inputs
  component := Submission.get?_kept_component times inputs
  timelines := by
    refine ⟨Offer.nodup_keys_kept (Offer.labels_time _) _, ?_⟩
    rw [← Submission.filterMap_time_offers times inputs]
    exact (Offer.kept_sublist _ _).filterMap _
  components := by
    refine ⟨Offer.nodup_keys_kept (Offer.labels_component _) _, ?_⟩
    rw [← Submission.filterMap_component_offers]
    exact (Offer.kept_sublist _ _).filterMap _

/-- A lenient call on a stream that is on goes through. It warns of each offer that it does not keep
and of no other, and then sends what it keeps, unless no component is kept. -/
theorem Stream.run_sendColumns_accounts (r : Recorder) (types : Option TypeRegistry)
    (path : EntityPath) (times : List TimeColumn) (inputs : List ColumnInput) {strict : Option Bool}
    (lenient : r.policy strict = false) :
    let offers := Submission.offers times inputs
    let refused := Offer.refusals path (Offer.first? offers) offers
    let kept := Columns.ofOffers path (Submission.rowsOf times inputs) offers
    ∃ after notes,
      (Stream.mk (some r) types).run (Call.sendColumns path times inputs strict) =
        (.ok (), ⟨some after, types⟩, notes) ∧
      after.sink.held = r.sink.held ++ r.warnings r.tick (refused.map Complaint.text) ++
        (if kept.components = [] then [] else [.columns kept]) ∧
      kept.Keeps times inputs ∧
      (∀ before o, Offer.refusal? path (Offer.first? offers) before o = none ↔
        Offer.isKept (Submission.rowsOf times inputs) before o = true) ∧
      refused.length + kept.timelines.length + kept.components.length =
        times.length + inputs.length := by
  intro offers refused kept
  have accounts := Submission.accounts_ofInputs path times inputs
  have rows : Offer.rowsBy (Offer.first? offers) = Submission.rowsOf times inputs :=
    Submission.rowsBy_offers times inputs
  have timelines := accounts.timelines
  have components := accounts.components
  rw [rows] at timelines components
  have mild : r.policy strict = true →
      ∀ complaint ∈ (Submission.ofInputs path times inputs).complaints, ¬complaint.IsFailure := by
    intro policy
    rw [lenient] at policy
    cases policy
  have done := Call.exec_sendColumns_mild mild { tick := r.tick }
  refine ⟨_, _, @run_eq ⟨some r, types⟩ r rfl _ _ _ done, ?_,
    Columns.keeps_ofOffers path times inputs, ?_, ?_⟩
  · change r.sink.held ++ ([] ++ r.warnings r.tick _ ++ _) = _
    rw [Submission.messages, timelines, components, accounts.complaints, List.nil_append,
      List.append_assoc]
    rfl
  · rw [← rows]
    exact Offer.refusal?_eq_none path _
  · have all := Offer.length_refusals_add path (Offer.first? offers) offers
    have kinds := Offer.length_filterMap_kept (Submission.rowsOf times inputs) offers
    rw [rows, Submission.length_offers times inputs] at all
    rw [← all, ← kinds]
    exact Nat.add_assoc ..

theorem Stream.run_sendColumns_dropped :
    let r : Recorder := ⟨"points", false, [], 5, .empty, fun _ => 0, ⟨.memory, [], 0⟩⟩
    r.policy none = false ∧
      ∃ after notes,
        (Stream.mk (some r) none).run
          (Call.sendColumns ⟨["points"]⟩
            [⟨⟨"frame", .sequence⟩, [4, 2]⟩, ⟨⟨"frame", .sequence⟩, [4, 3]⟩]
            [.indicator "Points", .batch ⟨.flat (.nulls 3), .partialOf "color", none⟩,
              .batch ⟨.flat (.nulls 2), .partialOf "color", none⟩,
              .batch ⟨.flat (.nulls 2), .partialOf "color", none⟩, .indicator "Points"] none) =
          (.ok (), ⟨some after, none⟩, notes) ∧
        after.sink.held.map (fun m => (m.path.parts, m.components.keys.map (·.component))) =
          List.replicate 4
              (["rerun"], ["rerun.archetypes.TextLogIndicator", "TextLog:text", "TextLog:level"]) ++
            [(["points"], ["color", "PointsIndicator"])] := by
  intro r
  obtain ⟨after, notes, ran, held, _⟩ := @run_sendColumns_accounts r none ⟨["points"]⟩
    [⟨⟨"frame", .sequence⟩, [4, 2]⟩, ⟨⟨"frame", .sequence⟩, [4, 3]⟩]
    [.indicator "Points", .batch ⟨.flat (.nulls 3), .partialOf "color", none⟩,
      .batch ⟨.flat (.nulls 2), .partialOf "color", none⟩,
      .batch ⟨.flat (.nulls 2), .partialOf "color", none⟩, .indicator "Points"] none rfl
  refine ⟨rfl, after, notes, ran, ?_⟩
  rw [held]
  decide +kernel

end EntityLog
