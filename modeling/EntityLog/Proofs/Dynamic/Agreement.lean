import EntityLog.Proofs.Coercion.Tensors
import EntityLog.Proofs.Dynamic.Pins

/-!
Logging a value again. The array that a value becomes without a target it becomes for the type of
that array too: whatever strategy gave it gives it once more, and those that refused refuse. So a
value gives the same batch whether it pins the type of its component or finds it pinned.
-/

namespace EntityLog

variable {v : Value} {target : Option DataType} {t own : DataType} {a : TypedArray}

theorem tryStrategies_cons_eq_ok {s : Strategy} {rest : List Strategy} :
    (tryStrategies v target (s :: rest)).result = .ok a ↔
      s.run v target = .ok a ∨
        (∃ cause, s.run v target = .error (.error cause)) ∧
          (tryStrategies v target rest).result = .ok a := by
  rw [tryStrategies]
  cases s.run v target with
  | ok b => simp
  | error failure => cases failure <;> simp

theorem itemsOf_eq_ok {items : List Value} (h : itemsOf v target = .ok items)
    (other : Option DataType) : itemsOf v other = .ok items := by
  cases v with
  | tensor tensor => exact convertError_eq_ok.2 (convertError_eq_ok.1 h)
  | null | bool _ | int _ | uint _ | float _ | text _ | bytes _ | list _ | array _ => exact h

theorem fromItems_own_type (h : fromItems v none = .ok a) : fromItems v (some a.type) = .ok a := by
  obtain ⟨items, t, own, known, built⟩ := fromItems_eq_ok.1 h
  rw [type_buildArray built]
  exact fromItems_eq_ok.2 ⟨items, t, itemsOf_eq_ok own _, rfl, built⟩

namespace Strategy

theorem fromTensor_none_eq_ok {tensor : Tensor} :
    fromTensor (.tensor tensor) none = .ok a ↔ ∃ cells, tensor.flatArray = .ok cells ∧ .flat cells = a := by
  simp only [fromTensor, bind_eq_ok, convertError_eq_ok, pure_eq_ok]

theorem run_own_type {s : Strategy} (h : s.run v none = .ok a) : s.run v (some a.type) = .ok a := by
  cases s with
  | tensor =>
    cases v with
    | tensor tensor =>
      obtain ⟨cells, read, rfl⟩ := fromTensor_none_eq_ok.1 h
      exact Tensor.fromTensor_eq_ok.2 ⟨cells, read, .inl ⟨rfl, rfl⟩⟩
    | null | bool _ | int _ | uint _ | float _ | text _ | bytes _ | list _ | array _ => cases h
  | text =>
    cases v with
    | text s => cases h; rfl
    | bytes b => cases h; rfl
    | null | bool _ | int _ | uint _ | float _ | list _ | tensor _ | array _ => cases h
  | scalar =>
    obtain ⟨own, scalar, built⟩ := fromScalar_eq_ok.1 h
    rw [Option.getD_none] at built
    rw [type_buildArray built]
    exact fromScalar_eq_ok.2 ⟨own, scalar, built⟩

theorem refuses {s : Strategy} {cause : CoercionError} (h : s.run v none = .error (.error cause))
    (same : ∀ own, scalarType v = some own → t = own) :
    ∃ cause, s.run v (some t) = .error (.error cause) := by
  cases s with
  | tensor =>
    cases v with
    | tensor tensor =>
      simp only [run, fromTensor] at h ⊢
      cases read : tensor.flatArray with
      | ok cells =>
        rw [read] at h
        cases h
      | error failure =>
        rw [read] at h
        cases failure with
        | error cause => exact ⟨_, rfl⟩
        | fault _ => cases h
    | null | bool _ | int _ | uint _ | float _ | text _ | bytes _ | list _ | array _ => exact ⟨_, rfl⟩
  | text =>
    cases v with
    | text s => cases h
    | bytes b => cases h
    | null | bool _ | int _ | uint _ | float _ | list _ | tensor _ | array _ => exact ⟨_, rfl⟩
  | scalar =>
    cases scalar : scalarType v with
    | none =>
      simp only [run, fromScalar, scalar]
      exact ⟨_, rfl⟩
    | some own =>
      obtain rfl := same own scalar
      simp only [run, fromScalar, scalar, Option.getD_none, Option.getD_some] at h ⊢
      exact ⟨cause, h⟩

theorem type_of_scalar (scalar : scalarType v = some own) {strategies : List Strategy}
    (h : (tryStrategies v none strategies).result = .ok a) : a.type = own := by
  rcases tryStrategies_eq_ok h with ⟨s, _, done⟩ | last
  · cases s with
    | tensor | text =>
      cases v with
      | bool _ | int _ | uint _ | float _ => cases done
      | null | text _ | bytes _ | list _ | tensor _ | array _ => cases scalar
    | scalar =>
      obtain ⟨_, same, built⟩ := fromScalar_eq_ok.1 done
      cases scalar.symm.trans same
      exact type_buildArray built
  · obtain ⟨items, t, alone, known, built⟩ := fromItems_eq_ok.1 last
    rw [type_buildArray built]
    cases v <;> cases scalar <;> cases alone <;> exact (Except.ok.inj known).symm

end Strategy

theorem tryStrategies_own_type {strategies : List Strategy}
    (h : (tryStrategies v none strategies).result = .ok a) :
    (tryStrategies v (some a.type) strategies).result = .ok a := by
  induction strategies with
  | nil => exact fromItems_own_type h
  | cons s strategies ih =>
    rcases tryStrategies_cons_eq_ok.1 h with done | ⟨⟨cause, refused⟩, later⟩
    · exact tryStrategies_cons_eq_ok.2 (.inl (Strategy.run_own_type done))
    · have refuses := Strategy.refuses refused fun own scalar => Strategy.type_of_scalar scalar later
      exact tryStrategies_cons_eq_ok.2 (.inr ⟨refuses, ih later⟩)

theorem isNothing_eq_false (native : ∀ array, v ≠ .array array)
    (h : (coerce v none).result = .ok a) : v.isNothing = false := by
  cases v with
  | null => cases h
  | list items =>
    cases items with
    | nil => cases h
    | cons item items => rfl
  | bool _ | int _ | uint _ | float _ | text _ | bytes _ | tensor _ | array _ => rfl

theorem coerce_own_type (h : (coerce v none).result = .ok a) :
    (coerce v (some a.type)).result = .ok a := by
  by_cases array : ∃ b, v = .array b
  · obtain ⟨b, rfl⟩ := array
    cases h
    exact if_pos rfl
  · have native (b : TypedArray) : v ≠ .array b := fun is => array ⟨b, is⟩
    rw [coerce_some_eq native, isNothing_eq_false native h]
    rw [coerce_none_eq native] at h
    exact tryStrategies_own_type h

namespace TypeRegistry

variable {r : TypeRegistry} {c : TypingCall} {b : ComponentBatch}

theorem call_array (array : c.value = .array a) : (r.call c).1 = .ok ⟨c.descriptor, some a⟩ := by
  obtain ⟨d, v, drops⟩ := c
  cases array
  rfl

theorem call_of_pinned {known : RegisteredType} (native : c.IsNative)
    (pinned : r.get? c.descriptor = some known) :
    (r.call c).1 = ((coerce c.value (some known.type)).result.mapError
      (Failure.mapError (.inconsistent c.descriptor known.type))).map fun a =>
        ⟨c.descriptor, some a⟩ := by
  obtain ⟨d, v, drops⟩ := c
  have typed := @exec_typedArray_pinned d v drops { registry := r } native known pinned
  simp only [call, DynamicBatch.ofValue, Typing.exec_bind, typed]
  cases (coerce v (some known.type)).result <;> rfl

theorem call_pinned {known : RegisteredType} (native : c.IsNative)
    (pinned : r.get? c.descriptor = some known)
    (done : (coerce c.value (some known.type)).result = .ok a) :
    (r.call c).1 = .ok ⟨c.descriptor, some a⟩ := by
  rw [call_of_pinned native pinned, done]
  rfl

theorem Gives.mk (done : (r.call c).1 = .ok ⟨c.descriptor, some a⟩) :
    r.Gives c { array := a, descriptor := c.descriptor } :=
  ⟨_, done, rfl⟩

theorem Gives.again (given : r.Gives c b) (later : List TypingCall) :
    (r.run (c :: later)).Gives c b := by
  obtain ⟨dynamic, done, valid⟩ := given
  have step := step_call r c
  rw [done] at step
  rw [run, List.foldl_cons]
  generalize (r.call c).2 = after at step ⊢
  cases step with
  | array a array =>
    cases valid
    exact .mk (call_array array)
  | dropped _ => cases valid
  | pinned t a native known coerced =>
    cases valid
    exact .mk (call_pinned native (retains_run known later) coerced)
  | first a native unknown coerced =>
    cases valid
    have pinned : (r.pin c.descriptor (.ofType a.type)).get? c.descriptor = some (.ofType a.type) := by
      rw [get?_pin, if_pos rfl, unknown, Option.getD_none]
    exact .mk (call_pinned native (retains_run pinned later) (coerce_own_type coerced))

/-- First and later logs of a value agree: what it becomes without a target it becomes for a target
of that type and for a component that is pinned to it, and a call that gave a batch gives the same
one after any calls. -/
theorem logs_agree {v : Value} {a : TypedArray} (h : (coerce v none).result = .ok a) :
    (coerce v (some a.type)).result = .ok a ∧
    (∀ (r : TypeRegistry) d drops t, (∀ array, v ≠ .array array) → r.get? d = some t →
      t.type = a.type → r.Gives ⟨d, v, drops⟩ { array := a, descriptor := d }) ∧
    ∀ (r : TypeRegistry) d drops b, r.Gives ⟨d, v, drops⟩ b →
      ∀ later, (r.run (⟨d, v, drops⟩ :: later)).Gives ⟨d, v, drops⟩ b := by
  refine ⟨coerce_own_type h, ?_, fun r d drops b given => given.again⟩
  intro r d drops t native known same
  exact .mk (call_pinned native known (same ▸ coerce_own_type h))

theorem logs_agree_lists :
    let v : Value := .list [.list [.int 1, .null], .list [], .null, .list [.uint 2]]
    let a : TypedArray := .lists .regular (.item (.integer .uint64)) 0
      (.masked [⟨2, true⟩, ⟨0, true⟩, ⟨0, false⟩, ⟨1, true⟩])
      (.flat (.integers .uint64 [some 1, none, some 2]))
    (coerce v none).result = .ok a ∧ (coerce v (some a.type)).result = .ok a ∧
      (empty.run [⟨{ component := "ids" }, v, true⟩]).Gives ⟨{ component := "ids" }, v, true⟩
        { array := a, descriptor := { component := "ids" } } := by
  intro v a
  have first : (coerce v none).result = .ok a := by with_unfolding_all rfl
  obtain ⟨again, -, later⟩ := logs_agree first
  refine ⟨first, again, later empty _ true _ ⟨⟨_, some a⟩, ?_, rfl⟩ []⟩
  with_unfolding_all rfl

end TypeRegistry

end EntityLog
