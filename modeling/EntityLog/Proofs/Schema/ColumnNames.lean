import EntityLog.Proofs.Path.RoundTrip
import EntityLog.Schema.ColumnDescriptor
import Mathlib.Data.List.TakeDrop
import Mathlib.Data.List.TakeWhile

/-!
Names of data columns, `entity:component`. A name is cut at its first colon before the path in it is
read, and a path is written with a backslash before each colon of its parts. So the path comes back
where no part has a colon; or else it ends in the first one that has.
-/

namespace EntityLog

namespace EntityPath

theorem escapeChar_colon : escapeChar ':' = ['\\', ':'] := by
  have plain : isPlain ':' = false := isPlain_mark (by simp)
  simp [escapeChar, plain]

theorem colon_notMem_escapeChar {c : Char} (other : c ≠ ':') : ':' ∉ escapeChar c := by
  unfold escapeChar
  split_ifs <;> simp [other.symm]

theorem colon_notMem_escape {part : List Char} (without : ':' ∉ part) : ':' ∉ escape part := by
  intro inside
  obtain ⟨c, member, written⟩ := List.mem_flatMap.1 inside
  have other : c ≠ ':' := fun same => without (same ▸ member)
  exact colon_notMem_escapeChar other written

def upToColon (text : List Char) : List Char := text.takeWhile (· ≠ ':')

theorem upToColon_append {text : List Char} (without : ':' ∉ text) (rest : List Char) :
    upToColon (text ++ rest) = text ++ upToColon rest := by
  apply List.takeWhile_append_of_pos
  intro c member
  exact decide_eq_true fun same => without (same ▸ member)

theorem upToColon_colon (rest : List Char) : upToColon (':' :: rest) = [] := by
  simp [upToColon]

/-- The parts up to the first one with a colon, which ends there in a backslash. -/
def cutParts : List (List Char) → List (List Char)
  | [] => []
  | part :: parts =>
    if ':' ∈ part then [upToColon part ++ ['\\']] else part :: cutParts parts

theorem cutParts_eq_self {parts : List (List Char)} :
    cutParts parts = parts ↔ ∀ part ∈ parts, ':' ∉ part := by
  induction parts with
  | nil => simp [cutParts]
  | cons part parts ih =>
    by_cases colon : ':' ∈ part
    · -- The cut part has a backslash where the part itself has a colon.
      obtain ⟨before, after, rfl, without⟩ := List.eq_append_cons_of_mem colon
      simp [cutParts, upToColon_append without, upToColon_colon]
    · simp [cutParts, colon, ih]

theorem upToColon_escape {before : List Char} (without : ':' ∉ before) (after rest : List Char) :
    upToColon (escape (before ++ ':' :: after) ++ rest) = escape before ++ ['\\'] := by
  have written : escape (before ++ ':' :: after) ++ rest =
      (escape before ++ ['\\']) ++ ':' :: (escape after ++ rest) := by
    simp [escape, escapeChar_colon]
  have clear : ':' ∉ escape before ++ ['\\'] := by simpa using colon_notMem_escape without
  rw [written, upToColon_append clear, upToColon_colon, List.append_nil]

theorem parseChars_escape {part : List Char} (some : part ≠ []) : parseChars (escape part) = [part] := by
  have whole := segments_escape [] part []
  rw [List.append_nil, List.nil_append, segments_nil] at whole
  simp [parseChars, whole, escape_ne_nil some, unescape_escape]

theorem parseChars_escape_backslash (part : List Char) :
    parseChars (escape part ++ ['\\']) = [part ++ ['\\']] := by
  have whole := segments_escape [] part ['\\']
  rw [List.nil_append, segments] at whole
  simp [parseChars, whole, unescape_escape_append, unescape]

theorem parseChars_escape_slash {part : List Char} (some : part ≠ []) (rest : List Char) :
    parseChars (escape part ++ '/' :: rest) = part :: parseChars rest := by
  have whole := segments_escape [] part ('/' :: rest)
  rw [List.nil_append, segments_slash] at whole
  simp [parseChars, whole, escape_ne_nil some, unescape_escape]

theorem parseChars_upToColon_escape {part : List Char} (colon : ':' ∈ part) (rest : List Char) :
    parseChars (upToColon (escape part ++ rest)) = [upToColon part ++ ['\\']] := by
  obtain ⟨before, after, rfl, without⟩ := List.eq_append_cons_of_mem colon
  rw [upToColon_escape without, parseChars_escape_backslash, upToColon_append without,
    upToColon_colon, List.append_nil]

theorem parseChars_upToColon {part : List Char} {parts : List (List Char)}
    (proper : ∀ chars ∈ part :: parts, chars ≠ []) (rest : List Char) :
    parseChars (upToColon (['/'].intercalate ((part :: parts).map escape) ++ ':' :: rest)) =
      cutParts (part :: parts) := by
  induction parts generalizing part with
  | nil =>
    have some := proper part List.mem_cons_self
    rw [List.map_singleton, List.intercalate_singleton, cutParts]
    split
    case isTrue colon => exact parseChars_upToColon_escape colon _
    case isFalse without =>
      rw [upToColon_append (colon_notMem_escape without), upToColon_colon, List.append_nil,
        parseChars_escape some]
      rfl
  | cons next parts ih =>
    have some := proper part List.mem_cons_self
    rw [List.map_cons, List.map_cons, List.intercalate_cons_cons, ← List.map_cons, List.append_assoc,
      List.append_assoc, cutParts]
    split
    case isTrue colon => exact parseChars_upToColon_escape colon _
    case isFalse without =>
      rw [upToColon_append (colon_notMem_escape without), upToColon_append (by decide),
        List.singleton_append, parseChars_escape_slash some,
        ih fun chars member => proper chars (List.mem_cons_of_mem _ member)]

def cutAtColon (p : EntityPath) : EntityPath :=
  ⟨(cutParts (p.parts.map String.toList)).map String.ofList⟩

theorem cutAtColon_eq_self {p : EntityPath} :
    p.cutAtColon = p ↔ ∀ part ∈ p.parts, ':' ∉ part.toList := by
  obtain ⟨parts⟩ := p
  have chars : parts = (parts.map String.toList).map String.ofList := by simp [Function.comp_def]
  have injective : Function.Injective (List.map String.ofList) :=
    List.map_injective_iff.2 fun a b same => by simpa using congrArg String.toList same
  calc cutAtColon ⟨parts⟩ = ⟨parts⟩
      ↔ (cutParts (parts.map String.toList)).map String.ofList =
          (parts.map String.toList).map String.ofList := by rw [cutAtColon, EntityPath.mk.injEq, ← chars]
    _ ↔ cutParts (parts.map String.toList) = parts.map String.toList := injective.eq_iff
    _ ↔ ∀ part ∈ parts, ':' ∉ part.toList := by rw [cutParts_eq_self, List.forall_mem_map]

theorem parse_upToColon {p : EntityPath} (proper : p.IsProper) (rest : List Char) :
    parse (String.ofList (upToColon (p.display.toList ++ ':' :: rest))) = p.cutAtColon := by
  obtain ⟨parts⟩ := p
  cases parts with
  | nil =>
    have slash : upToColon ((display ⟨[]⟩).toList ++ ':' :: rest) = ['/'] := by
      rw [show (display ⟨[]⟩).toList = ['/'] from rfl, upToColon_append (by decide), upToColon_colon]
      rfl
    rw [slash]
    rfl
  | cons part parts =>
    have written : (display ⟨part :: parts⟩).toList =
        ['/'].intercalate (((part :: parts).map String.toList).map escape) := by
      simp [display, isRoot, escaped, Function.comp_def]
    have some : ∀ chars ∈ (part :: parts).map String.toList, chars ≠ [] := by
      rw [List.forall_mem_map]
      intro text member
      simpa using proper text member
    rw [parse, String.toList_ofList, written, cutAtColon, List.map_cons, parseChars_upToColon some]

end EntityPath

open EntityPath

theorem DataColumn.beforeColon_append (path component : String) :
    beforeColon (path ++ ":" ++ component) =
      some (String.ofList (upToColon (path.toList ++ ':' :: component.toList))) := by
  have text : (path ++ ":" ++ component).toList = path.toList ++ ':' :: component.toList := by simp
  have rest : List.dropWhile (· ≠ ':') (path.toList ++ ':' :: component.toList) ≠ [] := by
    rw [ne_eq, List.dropWhile_eq_nil_iff]
    intro none
    have colon := none ':' (List.mem_append_right _ List.mem_cons_self)
    simp at colon
  rw [beforeColon, text, List.span_eq_takeWhile_dropWhile]
  simp only [List.isEmpty_iff, if_neg rest]
  rfl

/-- A list field that is named after a path and a component, and has no metadata on either, is read
as a column of the path cut at its first colon: of the path itself, if no part has a colon. -/
theorem ColumnDescriptor.ofField_named {p : EntityPath} (proper : p.IsProper) (component : String)
    {f : Field} {item : Field} (lists : f.type = .list .regular item)
    (kind : f.metadata.get? Metadata.kindKey = none)
    (path : f.metadata.get? Metadata.entityPathKey = none)
    (named : f.name = p.display ++ ":" ++ component) :
    ofField f = .ok (some (.component (.ofField f))) ∧
      (DataColumn.ofField f).entityPath = p.cutAtColon ∧
      ((DataColumn.ofField f).entityPath = p ↔ ∀ part ∈ p.parts, ':' ∉ part.toList) := by
  have read : ofField f = .ok (some (.component (.ofField f))) := by
    simp [ofField, ColumnKind.ofField, kind, lists]
    rfl
  have cut : (DataColumn.ofField f).entityPath = p.cutAtColon := by
    simp only [DataColumn.ofField, path, named, DataColumn.beforeColon_append]
    exact parse_upToColon proper component.toList
  refine ⟨read, cut, ?_⟩
  rw [cut, cutAtColon_eq_self]

theorem ColumnDescriptor.ofField_named_escaped :
    let p : EntityPath := ⟨["left/arm", "tool tip"]⟩
    let f : Field := ⟨"left\\/arm/tool\\ tip:Pose:angle", .listOf .int64, true, []⟩
    p.IsProper ∧ f.name = p.display ++ ":" ++ "Pose:angle" ∧ (DataColumn.ofField f).entityPath = p := by
  intro p f
  have proper : p.IsProper := by simp [p, IsProper]
  have named : f.name = p.display ++ ":" ++ "Pose:angle" := by decide +kernel
  refine ⟨proper, named, ?_⟩
  exact (ofField_named proper "Pose:angle" rfl rfl rfl named).2.2.2 (by decide)

/-- A colon within a part is taken for the end of the path. -/
theorem ColumnDescriptor.ofField_named_colon :
    let p : EntityPath := ⟨["camera:left"]⟩
    let f : Field := ⟨p.display ++ ":" ++ "pose", .listOf .int64, true, []⟩
    p.IsProper ∧ f.name = "camera\\:left:pose" ∧
      (DataColumn.ofField f).entityPath = ⟨["camera\\"]⟩ ∧ (DataColumn.ofField f).entityPath ≠ p := by
  intro p f
  have read : (DataColumn.ofField f).entityPath = ⟨["camera\\"]⟩ := by decide +kernel
  refine ⟨by simp [p, IsProper], by decide +kernel, read, ?_⟩
  rw [read]
  decide

end EntityLog
