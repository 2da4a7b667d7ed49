import EntityLog.Dynamic.Batch
import EntityLog.Proofs.Coercion.Types
import EntityLog.Proofs.Entries

namespace EntityLog

namespace Typing

variable {α β : Type}

def exec (steps : Typing α) (s : TypingState) : Except (Failure DynamicError) α × TypingState :=
  steps.run.run s

@[simp] theorem exec_pure (a : α) (s : TypingState) : exec (pure a) s = (.ok a, s) := rfl

@[simp] theorem exec_throw (failure : Failure DynamicError) (s : TypingState) :
    exec (throw failure : Typing α) s = (.error failure, s) := rfl

theorem exec_bind (steps : Typing α) (next : α → Typing β) (s : TypingState) :
    exec (steps >>= next) s =
      match exec steps s with
      | (.ok a, s) => exec (next a) s
      | (.error failure, s) => (.error failure, s) := by
  rcases done : exec steps s with ⟨result, after⟩
  cases result with
  | ok a => exact run_run_bind_ok done next
  | error failure => exact run_run_bind_error done next

@[simp] theorem exec_note (notes : List Note) (s : TypingState) :
    exec (note notes) s = (.ok (), { s with notes := s.notes ++ notes }) := rfl

@[simp] theorem exec_registry (s : TypingState) : exec registry s = (.ok s.registry, s) := rfl

@[simp] theorem exec_pin (d : ComponentDescriptor) (t : RegisteredType) (s : TypingState) :
    exec (pin d t) s = (.ok (), {
      registry := s.registry.pin d t
      notes := s.notes ++ s.registry.pinNotes d t }) := rfl

@[simp] theorem exec_ofCoercion (blame : CoercionError → DynamicError) (c : Coercion)
    (s : TypingState) : exec (ofCoercion blame c) s =
      (c.result.mapError (Failure.mapError blame), { s with notes := s.notes ++ c.notes }) := by
  obtain ⟨attempts, result⟩ := c
  cases result <;> rfl

end Typing

section

open Typing

variable {d : ComponentDescriptor} {v : Value} {drops : Bool} {s : TypingState}

theorem exec_typedArray_pinned (native : ∀ a, v ≠ .array a) {t : RegisteredType}
    (known : s.registry.get? d = some t) :
    exec (typedArray d v drops) s =
      (((coerce v (some t.type)).result.mapError
          (Failure.mapError (.inconsistent d t.type))).map some,
        { s with notes := s.notes ++ (coerce v (some t.type)).notes }) := by
  unfold typedArray
  split
  case h_1 a => exact absurd rfl (native a)
  case h_2 =>
    simp only [exec_bind, exec_registry, known, exec_ofCoercion]
    cases (coerce v (some t.type)).result <;> rfl

theorem exec_typedArray_unpinned (native : ∀ a, v ≠ .array a)
    (unknown : s.registry.get? d = none) {result : Except (Failure DynamicError) (Option TypedArray)}
    {after : TypingState} (h : exec (typedArray d v drops) s = (result, after)) :
    (∃ failure, result = .error failure ∧ after.registry = s.registry) ∨
    (result = .ok none ∧ after.registry = s.registry) ∨
    ∃ a, (coerce v none).result = .ok a ∧ result = .ok (some a) ∧
      after.registry = s.registry.pin d (.ofType a.type) := by
  unfold typedArray at h
  split at h
  case h_1 a => exact absurd rfl (native a)
  case h_2 =>
    simp only [exec_bind, exec_registry, unknown] at h
    cases content : v.isEmpty with
    | error fault =>
      simp only [content] at h
      cases h
      exact .inl ⟨_, rfl, rfl⟩
    | ok empty =>
      cases empty with
      | true =>
        cases drops with
        | true =>
          simp only [content] at h
          cases h
          exact .inr (.inl ⟨rfl, rfl⟩)
        | false =>
          simp only [content] at h
          cases h
          exact .inl ⟨_, rfl, rfl⟩
      | false =>
        simp only [content, exec_bind, exec_ofCoercion] at h
        cases coerced : (coerce v none).result with
        | error failure =>
          rw [coerced] at h
          cases h
          exact .inl ⟨_, rfl, rfl⟩
        | ok a =>
          rw [coerced] at h
          cases h
          exact .inr (.inr ⟨a, rfl, rfl, rfl⟩)

end

structure TypingCall where
  descriptor : ComponentDescriptor
  value : Value
  dropsUntyped : Bool

def TypingCall.IsNative (c : TypingCall) : Prop := ∀ a, c.value ≠ .array a

namespace TypeRegistry

def call (r : TypeRegistry) (c : TypingCall) :
    Except (Failure DynamicError) DynamicBatch × TypeRegistry :=
  let (result, s) :=
    Typing.exec (DynamicBatch.ofValue c.descriptor c.value c.dropsUntyped) { registry := r }
  (result, s.registry)

def run (r : TypeRegistry) (calls : List TypingCall) : TypeRegistry :=
  calls.foldl (fun r c => (r.call c).2) r

def Gives (r : TypeRegistry) (c : TypingCall) (b : ComponentBatch) : Prop :=
  ∃ dynamic, (r.call c).1 = .ok dynamic ∧ dynamic.batch = some b

/-- All that a call can give, and what becomes of the registry. -/
inductive Step (r : TypeRegistry) (c : TypingCall) :
    Except (Failure DynamicError) DynamicBatch → TypeRegistry → Prop
  | array (a : TypedArray) : c.value = .array a → Step r c (.ok ⟨c.descriptor, some a⟩) r
  | failure (failure : Failure DynamicError) : c.IsNative → Step r c (.error failure) r
  | dropped : c.IsNative → Step r c (.ok ⟨c.descriptor, none⟩) r
  | pinned (t : RegisteredType) (a : TypedArray) : c.IsNative → r.get? c.descriptor = some t →
      (coerce c.value (some t.type)).result = .ok a → Step r c (.ok ⟨c.descriptor, some a⟩) r
  | first (a : TypedArray) : c.IsNative → r.get? c.descriptor = none →
      (coerce c.value none).result = .ok a →
      Step r c (.ok ⟨c.descriptor, some a⟩) (r.pin c.descriptor (.ofType a.type))

theorem step_call (r : TypeRegistry) (c : TypingCall) : Step r c (r.call c).1 (r.call c).2 := by
  obtain ⟨d, v, drops⟩ := c
  simp only [call, DynamicBatch.ofValue, Typing.exec_bind]
  by_cases array : ∃ a, v = .array a
  case pos =>
    obtain ⟨a, rfl⟩ := array
    exact .array a rfl
  case neg =>
    have native : TypingCall.IsNative ⟨d, v, drops⟩ := fun a is => array ⟨a, is⟩
    cases known : r.get? d with
    | some t =>
      rw [exec_typedArray_pinned native known]
      cases coerced : (coerce v (some t.type)).result with
      | error failure => exact .failure _ native
      | ok a => exact .pinned t a native known coerced
    | none =>
      rcases typed : Typing.exec (typedArray d v drops) { registry := r } with ⟨result, after⟩
      rcases exec_typedArray_unpinned native known typed with
        ⟨failure, rfl, kept⟩ | ⟨rfl, kept⟩ | ⟨a, coerced, rfl, pinned⟩
      · exact kept ▸ .failure failure native
      · exact kept ▸ .dropped native
      · exact pinned ▸ .first a native known coerced

theorem run_append (r : TypeRegistry) (calls later : List TypingCall) :
    r.run (calls ++ later) = (r.run calls).run later :=
  List.foldl_append

theorem pins_pin {r : TypeRegistry} {d : ComponentDescriptor} (h : r.get? d = none)
    (t : RegisteredType) : (r.pin d t).pins = r.pins ++ [(d, t)] := by
  rw [pin, h]
  exact Entries.put_of_get?_eq_none h t

theorem get?_pin_of_some {r : TypeRegistry} {d e : ComponentDescriptor} {t u : RegisteredType}
    (h : r.get? e = some u) : (r.pin d t).get? e = some u := by
  rw [get?_pin]
  split
  case isTrue same => rw [← same, h, Option.getD_some]
  case isFalse => exact h

def IsSound (r : TypeRegistry) : Prop :=
  ∀ pin ∈ r.pins, pin.2.native = NativeType.ofType pin.2.type ∧ pin.2.type.IsNative

theorem isSound_empty : empty.IsSound := fun _ none => absurd none List.not_mem_nil

theorem IsSound.get? {r : TypeRegistry} (sound : r.IsSound) {d : ComponentDescriptor}
    {t : RegisteredType} (known : r.get? d = some t) : t.type.IsNative :=
  (sound _ (Entries.mem_of_get? known)).2

namespace Step

variable {r after : TypeRegistry} {c : TypingCall}
  {result : Except (Failure DynamicError) DynamicBatch}

theorem retains (step : Step r c result after) {d : ComponentDescriptor} {t : RegisteredType}
    (known : r.get? d = some t) : after.get? d = some t := by
  cases step with
  | array _ _ => exact known
  | failure _ _ => exact known
  | dropped _ => exact known
  | pinned _ _ _ _ _ => exact known
  | first _ _ _ _ => exact get?_pin_of_some known

theorem forall_pins {P : RegisteredType → Prop} (step : Step r c result after)
    (first : ∀ v a, (∀ array, v ≠ .array array) → (coerce v none).result = .ok a → P (.ofType a.type))
    (all : ∀ pin ∈ r.pins, P pin.2) : ∀ pin ∈ after.pins, P pin.2 := by
  cases step with
  | array _ _ => exact all
  | failure _ _ => exact all
  | dropped _ => exact all
  | pinned _ _ _ _ _ => exact all
  | first a native unknown coerced =>
    rw [pins_pin unknown, List.forall_mem_append, List.forall_mem_singleton]
    exact ⟨all, first _ _ native coerced⟩

theorem type_eq (step : Step r c result after) (sound : r.IsSound) (native : c.IsNative)
    {dynamic : DynamicBatch} (done : result = .ok dynamic) {b : ComponentBatch}
    (valid : dynamic.batch = some b) :
    b.descriptor = c.descriptor ∧ ∃ t, after.get? c.descriptor = some t ∧ b.array.type = t.type := by
  cases step with
  | array a array => exact absurd array (native a)
  | failure _ _ => cases done
  | dropped _ => cases done; cases valid
  | pinned t a _ known coerced =>
    cases done
    cases valid
    exact ⟨rfl, t, known, type_coerce native (sound.get? known).cases coerced⟩
  | first a _ unknown _ =>
    cases done
    cases valid
    refine ⟨rfl, .ofType a.type, ?_, rfl⟩
    rw [get?_pin, if_pos rfl, unknown, Option.getD_none]

theorem unchanged_or_pins (step : Step r c result after) :
    after = r ∨ c.IsNative ∧ (∃ dynamic, result = .ok dynamic ∧ dynamic.isValid = true) ∧
      r.get? c.descriptor = none ∧ ∃ t, after.pins = r.pins ++ [(c.descriptor, t)] := by
  cases step with
  | array _ _ => exact .inl rfl
  | failure _ _ => exact .inl rfl
  | dropped _ => exact .inl rfl
  | pinned _ _ _ _ _ => exact .inl rfl
  | first a native unknown _ =>
    exact .inr ⟨native, ⟨_, rfl, rfl⟩, unknown, .ofType a.type, pins_pin unknown _⟩

end Step

theorem retains_run {r : TypeRegistry} {d : ComponentDescriptor} {t : RegisteredType}
    (known : r.get? d = some t) (calls : List TypingCall) : (r.run calls).get? d = some t := by
  induction calls generalizing r with
  | nil => exact known
  | cons c calls ih => exact ih ((step_call r c).retains known)

theorem forall_pins_run {P : RegisteredType → Prop}
    (first : ∀ v a, (∀ array, v ≠ .array array) → (coerce v none).result = .ok a → P (.ofType a.type))
    {r : TypeRegistry} (all : ∀ pin ∈ r.pins, P pin.2) (calls : List TypingCall) :
    ∀ pin ∈ (r.run calls).pins, P pin.2 := by
  induction calls generalizing r with
  | nil => exact all
  | cons c calls ih => exact ih ((step_call r c).forall_pins first all)

theorem IsSound.run {r : TypeRegistry} (sound : r.IsSound) (calls : List TypingCall) :
    (r.run calls).IsSound :=
  forall_pins_run (P := fun t => t.native = NativeType.ofType t.type ∧ t.type.IsNative)
    (fun _ _ native coerced => ⟨rfl, (isInferred_coerce native coerced).isNative⟩) sound calls

theorem isInferred_of_pin {calls : List TypingCall} {d : ComponentDescriptor} {t : RegisteredType}
    (known : (empty.run calls).get? d = some t) : t.type.IsInferred :=
  forall_pins_run (P := fun t => t.type.IsInferred) (fun _ _ => isInferred_coerce)
    (fun _ none => absurd none List.not_mem_nil) calls _ (Entries.mem_of_get? known)

theorem type_eq_of_gives {r : TypeRegistry} (sound : r.IsSound) {c : TypingCall}
    (native : c.IsNative) {b : ComponentBatch} (given : r.Gives c b) (later : List TypingCall) :
    b.descriptor = c.descriptor ∧
      ∃ t, (r.run (c :: later)).get? c.descriptor = some t ∧ b.array.type = t.type := by
  obtain ⟨dynamic, done, valid⟩ := given
  obtain ⟨own, t, known, same⟩ := (step_call r c).type_eq sound native done valid
  exact ⟨own, t, retains_run known later, same⟩

/-- A component keeps the type of its first array through every run. -/
theorem types_stay_pinned (calls later : List TypingCall) :
    (∀ d t, (empty.run calls).get? d = some t → (empty.run (calls ++ later)).get? d = some t) ∧
    (∀ c b, c.IsNative → (empty.run calls).Gives c b → b.descriptor = c.descriptor ∧
      ∃ t, (empty.run (calls ++ c :: later)).get? c.descriptor = some t ∧ b.array.type = t.type) ∧
    (∀ c b c' b', c.IsNative → (empty.run calls).Gives c b → c'.IsNative →
      (empty.run (calls ++ c :: later)).Gives c' b' → b.descriptor = b'.descriptor →
        b.array.type = b'.array.type) ∧
    (∀ c, (∀ failure, ((empty.run calls).call c).1 = .error failure →
        ((empty.run calls).call c).2 = empty.run calls) ∧
      (∀ dynamic, ((empty.run calls).call c).1 = .ok dynamic → dynamic.batch = none →
        ((empty.run calls).call c).2 = empty.run calls) ∧
      (¬c.IsNative → ((empty.run calls).call c).2 = empty.run calls) ∧
      (((empty.run calls).call c).2 = empty.run calls ∨
        (empty.run calls).get? c.descriptor = none ∧ ∃ t,
          ((empty.run calls).call c).2.pins = (empty.run calls).pins ++ [(c.descriptor, t)])) ∧
    (∀ pin ∈ (empty.run calls).pins,
      ∃ native, pin.2.native = some native ∧ native.type = pin.2.type.innermost) := by
  have sound : (empty.run calls).IsSound := isSound_empty.run calls
  refine ⟨?retained, ?typed, ?alike, ?changes, ?native⟩
  case retained =>
    intro d t known
    rw [run_append]
    exact retains_run known later
  case typed =>
    intro c b native given
    rw [run_append]
    exact type_eq_of_gives sound native given later
  case alike =>
    intro c b c' b' native given native' given' same
    rw [run_append] at given'
    -- Each batch is of the type that is pinned after the later call.
    obtain ⟨own, t, known, eq⟩ := type_eq_of_gives sound native given (later ++ [c'])
    obtain ⟨own', t', known', eq'⟩ := type_eq_of_gives (sound.run (c :: later)) native' given' []
    rw [← List.cons_append, run_append, ← own, same, own', known'] at known
    cases known
    rw [eq, eq']
  case changes =>
    intro c
    rcases (step_call (empty.run calls) c).unchanged_or_pins with
      kept | ⟨native, ⟨dynamic, done, valid⟩, unknown, t, pins⟩
    · exact ⟨fun _ _ => kept, fun _ _ _ => kept, fun _ => kept, .inl kept⟩
    · refine ⟨?_, ?_, fun array => absurd native array, .inr ⟨unknown, t, pins⟩⟩
      · intro failure failed
        rw [done] at failed
        cases failed
      · intro dynamic' done' invalid
        cases done.symm.trans done'
        rw [DynamicBatch.isValid, Option.isSome_iff_exists] at valid
        obtain ⟨a, is⟩ := valid
        rw [DynamicBatch.batch, is] at invalid
        cases invalid
  case native =>
    intro pin member
    obtain ⟨told, native, known, inner⟩ := sound pin member
    exact ⟨native, told.trans known, inner⟩

theorem types_stay_pinned_counts :
    (empty.run [⟨{ component := "count" }, .list [.int 1, .null], true⟩,
        ⟨{ component := "count" }, .text "two", true⟩,
        ⟨{ component := "count" }, .list [], true⟩]).get? { component := "count" } =
      some ⟨some (.integer .int64), .integer .int64⟩ := by
  apply (types_stay_pinned [⟨{ component := "count" }, .list [.int 1, .null], true⟩]
    [⟨{ component := "count" }, .text "two", true⟩, ⟨{ component := "count" }, .list [], true⟩]).1
  decide +kernel

end TypeRegistry

end EntityLog
