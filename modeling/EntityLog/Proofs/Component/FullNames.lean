import EntityLog.Component.Descriptor
import Mathlib.Data.List.TakeWhile
import Mathlib.Data.Set.Function

/-!
Full names of components, `archetype:type#component`. A name is no more than its parts with marks
between them, and parts may have marks of their own; without these it can be read, so that no two
descriptors have one name.
-/

namespace EntityLog

def cutAt (mark : Char) (text : List Char) : Option (List Char) × List Char :=
  match text.dropWhile (· ≠ mark) with
  | [] => (none, text)
  | _ :: rest => (some (text.takeWhile (· ≠ mark)), rest)

section

variable {mark : Char} {text : List Char}

theorem forall_ne_mark (without : mark ∉ text) : ∀ c ∈ text, decide (c ≠ mark) = true := by
  refine fun c member => decide_eq_true ?_
  rintro rfl
  exact without member

theorem cutAt_of_notMem (without : mark ∉ text) : cutAt mark text = (none, text) := by
  have all : text.dropWhile (· ≠ mark) = [] := List.dropWhile_eq_nil_iff.2 (forall_ne_mark without)
  rw [cutAt, all]

theorem cutAt_append (without : mark ∉ text) (rest : List Char) :
    cutAt mark (text ++ mark :: rest) = (some text, rest) := by
  have before := forall_ne_mark without
  rw [cutAt, List.dropWhile_append_of_pos before, List.takeWhile_append_of_pos before]
  simp

end

namespace ComponentDescriptor

/-- Archetype and type have no marks, nor has the component one that would be taken for theirs. -/
structure IsReadable (d : ComponentDescriptor) : Prop where
  archetype : ∀ name ∈ d.archetype, ':' ∉ name.toList ∧ '#' ∉ name.toList
  componentType : ∀ name ∈ d.componentType, ':' ∉ name.toList ∧ '#' ∉ name.toList
  untyped : d.componentType = none → '#' ∉ d.component.toList
  alone : d.componentType = none → d.archetype = none → ':' ∉ d.component.toList

def ofFullName (name : String) : ComponentDescriptor :=
  match cutAt '#' name.toList with
  | (none, rest) =>
    let (archetype, component) := cutAt ':' rest
    ⟨archetype.map String.ofList, String.ofList component, none⟩
  | (some before, component) =>
    let (archetype, type) := cutAt ':' before
    ⟨archetype.map String.ofList, String.ofList component, some (String.ofList type)⟩

theorem ofFullName_fullName {d : ComponentDescriptor} (readable : d.IsReadable) :
    ofFullName d.fullName = d := by
  obtain ⟨archetype, component, type⟩ := d
  obtain ⟨clear, clear', untyped, alone⟩ := readable
  cases archetype with
  | none =>
    cases type with
    | none =>
      simp [fullName, ofFullName, cutAt_of_notMem (untyped rfl), cutAt_of_notMem (alone rfl rfl)]
    | some type =>
      obtain ⟨colon, hash⟩ := clear' type rfl
      simp [fullName, ofFullName, cutAt_append hash, cutAt_of_notMem colon]
  | some archetype =>
    obtain ⟨colon, hash⟩ := clear archetype rfl
    cases type with
    | none =>
      have without : '#' ∉ archetype.toList ++ ':' :: component.toList := by
        simp [hash, untyped rfl]
      simp [fullName, ofFullName, cutAt_of_notMem without, cutAt_append colon]
    | some type =>
      have without : '#' ∉ archetype.toList ++ ':' :: type.toList := by
        simp [hash, (clear' type rfl).2]
      have cut : cutAt '#' (archetype.toList ++ ':' :: (type.toList ++ '#' :: component.toList)) =
          (some (archetype.toList ++ ':' :: type.toList), component.toList) := by
        simpa using cutAt_append without component.toList
      simp [fullName, ofFullName, cut, cutAt_append colon]

theorem injOn_fullName : Set.InjOn fullName {d | d.IsReadable} := by
  intro d readable e readable' same
  rw [← ofFullName_fullName readable, same, ofFullName_fullName readable']

end ComponentDescriptor

end EntityLog
