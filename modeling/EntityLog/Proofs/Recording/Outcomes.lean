import EntityLog.Proofs.Recording.Entities
import EntityLog.Proofs.Recording.Keeping
import EntityLog.Proofs.Recording.Ticks

namespace EntityLog

theorem Stage.failure?_false (stage : Stage) : stage.failure? false = none := by
  rcases stage with ⟨_ | _⟩ | _ | _ <;> rfl

theorem perform_prefix (r : Recorder) (strict : Bool) (tick : Nat) (script : List Stage) :
    (perform r strict tick script).emissions <+: (perform r false tick script).emissions ∧
      ((perform r strict tick script).result = .ok () →
        perform r strict tick script = perform r false tick script) := by
  induction script generalizing tick with
  | nil => exact ⟨List.prefix_refl _, fun _ => rfl⟩
  | cons stage script ih =>
    rw [perform_cons stage.failure?_false]
    cases failure : stage.failure? strict with
    | some cause =>
      rw [perform_failure failure]
      exact ⟨List.nil_prefix, nofun⟩
    | none =>
      obtain ⟨earlier, same⟩ := ih (stage.nextTick tick)
      rw [perform_cons failure]
      exact ⟨(List.prefix_append_right_inj _).2 earlier,
        fun done => congrArg (Performance.after · _) (same done)⟩

/-- A script under the lenient policy goes through. Of what it emits the warnings tell all
complaints, tick by tick, and the rest is the data. -/
structure GoesThrough (r : Recorder) (tick : Nat) (script : List Stage)
    (complaints : List Complaint) (data : List Message) : Prop where
  result : (perform r false tick script).result = .ok ()
  warnings : ((perform r false tick script).emissions.filter (·.role = .warning)).map
    Emission.message = r.warnings tick (complaints.map Complaint.text)
  data : ((perform r false tick script).emissions.filter (·.role ≠ .warning)).map
    Emission.message = data

def GoesQuietly (r : Recorder) (script : List Stage) (complaints : List Complaint)
    (data : List Message) : Prop :=
  ∀ tick, GoesThrough r tick script complaints data ∧
    (perform r false tick script).tick = tick + complaints.length

section

variable {r : Recorder} {script later : List Stage} {complaints others : List Complaint}
  {data more : List Message}

theorem GoesThrough.nil (r : Recorder) (tick : Nat) : GoesThrough r tick [] [] [] := ⟨rfl, rfl, rfl⟩

namespace GoesQuietly

theorem andThen (quiet : GoesQuietly r script complaints data) {tick : Nat}
    (through : GoesThrough r (tick + complaints.length) later others more) :
    GoesThrough r tick (script ++ later) (complaints ++ others) (data ++ more) ∧
      (perform r false tick (script ++ later)).tick =
        (perform r false (tick + complaints.length) later).tick := by
  obtain ⟨⟨result, warnings, sent⟩, next⟩ := quiet tick
  have joined : perform r false tick (script ++ later) =
      (perform r false (tick + complaints.length) later).after
        (perform r false tick script).emissions := by
    rw [perform_append, ← next]
    generalize perform r false tick script = p at result
    obtain ⟨emissions, tick, _⟩ := p
    cases result
    rfl
  refine ⟨⟨?_, ?_, ?_⟩, joined ▸ rfl⟩
  · rw [joined]
    exact through.result
  · rw [joined, Performance.after, List.filter_append, List.map_append, warnings, through.warnings,
      List.map_append, Recorder.warnings_append, List.length_map]
  · rw [joined, Performance.after, List.filter_append, List.map_append, sent, through.data]

theorem nil (r : Recorder) : GoesQuietly r [] [] [] := fun tick => ⟨.nil r tick, rfl⟩

theorem append (first : GoesQuietly r script complaints data)
    (second : GoesQuietly r later others more) :
    GoesQuietly r (script ++ later) (complaints ++ others) (data ++ more) := by
  intro tick
  obtain ⟨through, next⟩ := second (tick + complaints.length)
  obtain ⟨both, tick⟩ := first.andThen through
  refine ⟨both, tick.trans (next.trans ?_)⟩
  rw [List.length_append, Nat.add_assoc]

theorem flatMap {α : Type} {items : List α} {script : α → List Stage}
    {complaints : α → List Complaint} {data : α → List Message}
    (each : ∀ item ∈ items, GoesQuietly r (script item) (complaints item) (data item)) :
    GoesQuietly r (items.flatMap script) (items.flatMap complaints) (items.flatMap data) := by
  induction items with
  | nil => exact nil r
  | cons item items ih =>
    obtain ⟨first, others⟩ := List.forall_mem_cons.1 each
    exact first.append (ih others)

theorem complain (r : Recorder) (complaint : Complaint) :
    GoesQuietly r [.complain complaint] [complaint] [] := by
  intro tick
  have done : perform r false tick [.complain complaint] =
      ⟨[⟨.warning, r.warning tick complaint.text⟩], tick + 1, .ok ()⟩ :=
    perform_cons (Stage.failure?_false _)
  refine ⟨⟨?_, ?_, ?_⟩, ?_⟩ <;> rw [done] <;> simp

theorem complainAll (r : Recorder) (complaints : List Complaint) :
    GoesQuietly r (complaints.map .complain) complaints [] := by
  induction complaints with
  | nil => exact nil r
  | cons complaint complaints ih => exact (complain r complaint).append ih

theorem columns (r : Recorder) (c : Columns) : GoesQuietly r [.columns c] [] [.columns c] :=
  fun _ => ⟨⟨rfl, rfl, rfl⟩, rfl⟩

end GoesQuietly

theorem Emission.warnings_of_data {role : Role} (data : role ≠ .warning) (messages : List Message) :
    (messages.map (Emission.mk role)).filter (·.role = .warning) = [] := by
  simp [data]

theorem Emission.data_of_data {role : Role} (data : role ≠ .warning) (messages : List Message) :
    (messages.map (Emission.mk role)).filter (·.role ≠ .warning) =
      messages.map (Emission.mk role) := by
  simp [data]

theorem GoesThrough.rows (r : Recorder) (tick : Nat) (path : EntityPath) (options : LogOptions)
    (batches : List ComponentBatch) :
    GoesThrough r tick [.rows path options (.ofBatches batches options.instances)] []
      (Call.rowMessages path options (options.time r tick) batches) := by
  let stage := Stage.rows path options (.ofBatches batches options.instances)
  have done : perform r false tick [stage] = ⟨stage.emit r tick, stage.nextTick tick, .ok ()⟩ := by
    rw [perform_cons rfl, perform, Performance.after, List.append_nil]
  have splat : Role.splat ≠ .warning := by decide
  have instanced : Role.instanced ≠ .warning := by decide
  refine ⟨?_, ?_, ?_⟩ <;> rw [done]
  · rw [Stage.emit, List.filter_append, Emission.warnings_of_data splat,
      Emission.warnings_of_data instanced]
    rfl
  · rw [Stage.emit, List.filter_append, Emission.data_of_data splat,
      Emission.data_of_data instanced]
    simp [MergedRow.ofBatches_eq, Call.rowMessages, Function.comp_def]

end

namespace RecordingCall

def IsValid : RecordingCall → Prop
  | table t _ => ∃ rows, ∀ c ∈ t, c.IsValid rows
  | bundle .. | batches .. | parts .. | columns .. => True

def complaints : RecordingCall → List Complaint
  | bundle path b _ => Call.rowComplaints path [.bundle b]
  | batches path bs _ => Call.rowComplaints path [.raw (bs.map some)]
  | parts path ps _ => Call.rowComplaints path ps
  | columns path times inputs _ =>
    let offers := Submission.offers times inputs
    Offer.refusals path (Offer.first? offers) offers
  | table t _ =>
    (t.filterMap TableColumn.refusal?).map (fun cause => .failure (.submission cause)) ++
      t.paths.flatMap t.repeats

def data (r : Recorder) (tick : Nat) : RecordingCall → List Message
  | bundle path b options => rows path [.bundle b] options
  | batches path bs options => rows path [.raw (bs.map some)] options
  | parts path ps options => rows path ps options
  | columns path times inputs _ =>
    let kept := Columns.ofOffers path (Submission.rowsOf times inputs)
      (Submission.offers times inputs)
    if kept.components = [] then [] else [.columns kept]
  | table t _ => (t.paths.filter t.isSent).map fun path => .columns (t.message path)
where
  rows (path : EntityPath) (parts : List RowPart) (options : LogOptions) : List Message :=
    Call.rowMessages path options
      (options.time r (tick + (Call.rowComplaints path parts).length))
      (parts.flatMap RowPart.batches)

variable {r : Recorder}

theorem goesThrough_rowScript (r : Recorder) (tick : Nat) (path : EntityPath)
    (parts : List RowPart) (options : LogOptions) :
    GoesThrough r tick (rowScript path parts options) (Call.rowComplaints path parts)
      (data.rows r tick path parts options) := by
  have both := ((GoesQuietly.complainAll r (Call.rowComplaints path parts)).andThen
    (GoesThrough.rows r (tick + (Call.rowComplaints path parts).length) path options
      (parts.flatMap RowPart.batches))).1
  rwa [List.append_nil] at both

theorem goesQuietly_columnsScript (r : Recorder) (path : EntityPath) (s : Submission) :
    GoesQuietly r (columnsScript path s) s.complaints (s.messages path) := by
  have columns : GoesQuietly r
      (if s.components.isEmpty then [] else [.columns ⟨path, s.timelines, s.components⟩]) []
      (s.messages path) := by
    unfold Submission.messages
    cases s.components with
    | nil => exact GoesQuietly.nil r
    | cons e components => exact GoesQuietly.columns r _
  have both := (GoesQuietly.complainAll r s.complaints).append columns
  rwa [List.append_nil] at both

theorem goesQuietly_table {t : Table} {strict : Option Bool} (valid : (table t strict).IsValid)
    (r : Recorder) (tick : Nat) :
    GoesQuietly r (table t strict).script (table t strict).complaints
      ((table t strict).data r tick) := by
  obtain ⟨rows, valid⟩ := valid
  obtain ⟨times, entities⟩ := Regrouping.ofTable_spec valid
  have entity (path : EntityPath) : GoesQuietly r
      (columnsScript path (.ofInputs path t.times (t.entity path).inputs)) (t.repeats path)
      (if t.isSent path then [.columns (t.message path)] else []) := by
    obtain ⟨timelines, components, complaints⟩ := Table.ofInputs_entity valid path
    have quiet := goesQuietly_columnsScript r path (.ofInputs path t.times (t.entity path).inputs)
    rw [complaints, Submission.messages, components, timelines] at quiet
    cases sent : t.isSent path with
    | false => rwa [if_pos (Table.components_message.2 sent)] at quiet
    | true =>
      have some : (t.message path).components ≠ [] := by
        rw [ne_eq, Table.components_message, sent]
        decide
      rwa [if_neg some] at quiet
  have both := (GoesQuietly.complainAll r (Regrouping.ofTable t).complaints).append
    (GoesQuietly.flatMap fun path (_ : path ∈ t.paths) => entity path)
  rw [(Regrouping.even_ofTable valid).2, flatMap_ite, List.nil_append] at both
  rw [script, times, entities, List.flatMap_map, (Regrouping.even_ofTable valid).2]
  exact both

theorem goesThrough_script {c : RecordingCall} (valid : c.IsValid) (r : Recorder) (tick : Nat) :
    GoesThrough r tick c.script c.complaints (c.data r tick) := by
  cases c with
  | bundle path b options => exact goesThrough_rowScript r tick path _ options
  | batches path bs options => exact goesThrough_rowScript r tick path _ options
  | parts path ps options => exact goesThrough_rowScript r tick path ps options
  | columns path times inputs strict =>
    have accounts := Submission.accounts_ofInputs path times inputs
    have quiet := (goesQuietly_columnsScript r path (.ofInputs path times inputs) tick).1
    rw [Submission.messages, accounts.complaints, accounts.timelines, accounts.components,
      Submission.rowsBy_offers] at quiet
    exact quiet
  | table t strict => exact (goesQuietly_table valid r tick tick).1

end RecordingCall

/-- Between two states of a recorder warnings of some complaints were sent, and some data, and
nothing else. -/
def Recorder.Tells (r after : Recorder) (complaints : List Complaint) (data : List Message) :
    Prop :=
  ∃ sent : List Emission,
    after.sink.held = r.sink.held ++ sent.map Emission.message ∧
    (sent.filter (·.role = .warning)).map Emission.message =
      r.warnings r.tick (complaints.map Complaint.text) ∧
    (sent.filter (·.role ≠ .warning)).map Emission.message = data

namespace Call

theorem plays_sendTables (tables : List Table) (strict : Option Bool) (r : Recorder) :
    (sendTables (tables.map .ok) strict).Plays r (r.policy strict)
      (tables.flatMap fun t => (RecordingCall.table t strict).script) := by
  have same : sendTables (tables.map .ok) strict = tables.forM (sendTable · strict) := by
    induction tables with
    | nil => rfl
    | cons t tables ih => exact congrArg (sendTable t strict >>= fun _ => ·) ih
  rw [same]
  exact Plays.forM fun t => (RecordingCall.table t strict).plays_steps

theorem exec_sendTables_error {tables : List Table} {strict : Option Bool} {r : Recorder}
    {t after : Trail} (done : exec (sendTables (tables.map .ok) strict) r t = (.ok (), after))
    (cause : ArrayError) (rest : List (Except ArrayError Table)) :
    exec (sendTables (tables.map .ok ++ .error cause :: rest) strict) r t =
      (.error (.table cause), after) := by
  induction tables generalizing t with
  | nil =>
    cases done
    rfl
  | cons table tables ih =>
    change exec (sendTable table strict >>= fun _ =>
      sendTables (tables.map .ok ++ .error cause :: rest) strict) r t = _
    change exec (sendTable table strict >>= fun _ => sendTables (tables.map .ok) strict) r t = _
      at done
    rw [exec_bind] at done ⊢
    rcases first : exec (sendTable table strict) r t with ⟨result, between⟩
    rw [first] at done
    cases result with
    | error _ => cases done
    | ok _ => exact ih done

end Call

namespace Stream

variable {r : Recorder} {call : Call Unit} {script : List Stage} {complaints : List Complaint}
  {data : List Message}

theorem run_of_goesThrough (plays : call.Plays r false script)
    (through : GoesThrough r r.tick script complaints data) (types : Option TypeRegistry) :
    ∃ t after, call.exec r { tick := r.tick } = (.ok (), t) ∧
      (Stream.mk (some r) types).run call = (.ok (), ⟨some after, types⟩, t.notes) ∧
      r.Tells after complaints data := by
  obtain ⟨notes, done⟩ := plays { tick := r.tick }
  rw [through.result] at done
  refine ⟨_, _, done, @run_eq ⟨some r, types⟩ r rfl _ _ _ done, _, ?_, through.warnings,
    through.data⟩
  exact congrArg (r.sink.held ++ ·) (List.nil_append _)

end Stream

/-- Lenient calls on a stream that is on. Each of them goes through, warns of all that there is to
complain of, and sends the data that are left. So do calls with many tables, one after the other;
but one that could not be had ends the call, and those behind it are not sent. -/
theorem Stream.run_lenient (r : Recorder) (types : Option TypeRegistry) :
    (∀ c : RecordingCall, c.IsValid → r.policy c.strict = false →
      ∃ after notes, (Stream.mk (some r) types).run c.steps = (.ok (), ⟨some after, types⟩, notes) ∧
        r.Tells after c.complaints (c.data r r.tick)) ∧
    ∀ (tables : List Table) (strict : Option Bool),
      (∀ t ∈ tables, (RecordingCall.table t strict).IsValid) → r.policy strict = false →
        ∃ after notes,
          (Stream.mk (some r) types).sendTables (tables.map .ok) strict =
            (.ok (), ⟨some after, types⟩, notes) ∧
          r.Tells after (tables.flatMap fun t => (RecordingCall.table t strict).complaints)
            (tables.flatMap fun t => (RecordingCall.table t strict).data r r.tick) ∧
          ∀ cause rest,
            (Stream.mk (some r) types).sendTables (tables.map .ok ++ .error cause :: rest) strict =
              (.error (.table cause), ⟨some after, types⟩, notes) := by
  refine ⟨fun c valid lenient => ?_, fun tables strict valid lenient => ?_⟩
  · have plays := c.plays_steps (r := r)
    rw [lenient] at plays
    obtain ⟨t, after, _, ran, tells⟩ :=
      run_of_goesThrough plays (RecordingCall.goesThrough_script valid r r.tick) types
    exact ⟨after, t.notes, ran, tells⟩
  · have plays := Call.plays_sendTables tables strict r
    rw [lenient] at plays
    have quiet := GoesQuietly.flatMap fun t member =>
      RecordingCall.goesQuietly_table (valid t member) r r.tick
    obtain ⟨t, after, done, ran, tells⟩ := run_of_goesThrough plays (quiet r.tick).1 types
    refine ⟨after, t.notes, ran, tells, fun cause rest => ?_⟩
    have failed := @run_eq ⟨some r, types⟩ r rfl _ _ _ (Call.exec_sendTables_error done cause rest)
    have went := @run_eq ⟨some r, types⟩ r rfl _ _ _ done
    rw [ran] at went
    exact failed.trans (congrArg (_, ·) (congrArg Prod.snd went).symm)

theorem Stream.run_lenient_mixed :
    let r : Recorder := ⟨"arm", false, [], 5, .empty, fun _ => 0, ⟨.memory, [], 0⟩⟩
    let pose : ComponentBatch := ⟨.flat (.nulls 2), .partialOf "pose", none⟩
    let c : RecordingCall := .parts ⟨["arm"]⟩
      [.bundle (.stated [pose] [.conversion "no type"]), .raw [some pose]] {}
    let speed : TableColumn := ⟨⟨"arm:speed", .listOf .int64, true, []⟩,
      .lists .regular (.item .int64) 0 (.plain [1]) (.flat (.integers .int64 [some 9]))⟩
    let load : TableColumn := ⟨⟨"arm:load", .int64, true, []⟩, .flat (.integers .int64 [some 4])⟩
    (r.policy c.strict = false ∧ c.complaints.length = 2 ∧ (c.data r 5).length = 1 ∧
      ∃ after notes, (Stream.mk (some r) none).run c.steps = (.ok (), ⟨some after, none⟩, notes) ∧
        r.Tells after c.complaints (c.data r 5)) ∧
    (∀ column ∈ [load, speed], column.IsValid 1) ∧ r.policy none = false ∧
      ∃ after notes,
        (Stream.mk (some r) none).sendTables [.ok [load, speed], .ok [speed]] none =
          (.ok (), ⟨some after, none⟩, notes) ∧
        (Stream.mk (some after) none).arrived.map (fun m => (m.path.parts, m.components.length)) =
          [(["rerun"], 3), (["arm"], 1), (["arm"], 1)] := by
  intro r pose c speed load
  have lists : speed.IsValid 1 :=
    ⟨rfl, rfl, TypedArray.listsFit_lists (by decide) (by decide)⟩
  have flat : load.IsValid 1 := ⟨rfl, rfl, TypedArray.listsFit_flat _⟩
  have both : ∀ column ∈ [load, speed], column.IsValid 1 :=
    List.forall_mem_cons.2 ⟨flat, List.forall_mem_singleton.2 lists⟩
  have valid : ∀ t ∈ [[load, speed], [speed]], (RecordingCall.table t none).IsValid :=
    List.forall_mem_cons.2 ⟨⟨1, both⟩,
      List.forall_mem_singleton.2 ⟨1, List.forall_mem_singleton.2 lists⟩⟩
  obtain ⟨calls, tables⟩ := run_lenient r none
  obtain ⟨after, notes, ran, _⟩ := tables [[load, speed], [speed]] none valid rfl
  refine ⟨⟨rfl, by decide +kernel, by decide +kernel, calls c trivial rfl⟩, both, rfl, after, notes,
    ran, ?_⟩
  have arrived : ((Stream.mk (some r) none).sendTables [.ok [load, speed], .ok [speed]]
      none).2.1.arrived = (Stream.mk (some after) none).arrived :=
    congrArg (·.2.1.arrived) ran
  rw [← arrived]
  decide +kernel

/-- Even a lenient call fails at a table that could not be had, and does not send the good one that
comes behind it. -/
theorem Stream.sendTables_lost :
    let r : Recorder := ⟨"arm", false, [], 5, .empty, fun _ => 0, ⟨.memory, [], 0⟩⟩
    let speed : TableColumn := ⟨⟨"arm:speed", .listOf .int64, true, []⟩,
      .lists .regular (.item .int64) 0 (.plain [1]) (.flat (.integers .int64 [some 9]))⟩
    let gone : ArrayError := .reported .external "gone"
    r.policy none = false ∧
      ((Stream.mk (some r) none).sendTables [.ok [speed]] none).2.1.arrived.length = 1 ∧
      ((Stream.mk (some r) none).sendTables [.error gone, .ok [speed]] none).1 =
        .error (.table gone) ∧
      ((Stream.mk (some r) none).sendTables [.error gone, .ok [speed]] none).2.1.arrived = [] := by
  refine ⟨rfl, by decide +kernel, rfl, rfl⟩

theorem Recorder.run_eq_of_plays {r : Recorder} {call other : Call Unit} {strict : Bool}
    {script : List Stage} (plays : call.Plays r strict script)
    (same : other.Plays r strict script) :
    ∃ result after notes more, r.run call = (result, after, notes) ∧
      r.run other = (result, after, more) := by
  obtain ⟨notes, done⟩ := plays { tick := r.tick }
  obtain ⟨more, alike⟩ := same { tick := r.tick }
  exact ⟨_, _, notes, more, run_eq done, run_eq alike⟩

/-- A bundle that is logged by itself comes to the same as the only part of a row: the same result,
and the same state of the stream, with all that was sent and the tick. -/
theorem Stream.run_logBundle (s : Stream) (path : EntityPath) (b : Bundle) (options : LogOptions) :
    ∃ result after notes more,
      s.run (Call.logBundle path b options) = (result, after, notes) ∧
      s.run (Call.logParts path [.bundle b] options) = (result, after, more) := by
  obtain ⟨recorder, types⟩ := s
  cases recorder with
  | none => exact ⟨.ok (), ⟨none, types⟩, [], [], rfl, rfl⟩
  | some r =>
    obtain ⟨result, after, notes, more, alone, part⟩ := Recorder.run_eq_of_plays
      (RecordingCall.bundle path b options).plays_steps
      (RecordingCall.parts path [.bundle b] options).plays_steps
    refine ⟨result, ⟨some after, types⟩, notes, more, ?_, ?_⟩
    · exact congrArg (fun ran => (ran.1, Stream.mk (some ran.2.1) types, ran.2.2)) alone
    · exact congrArg (fun ran => (ran.1, Stream.mk (some ran.2.1) types, ran.2.2)) part

end EntityLog
