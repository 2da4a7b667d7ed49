import EntityLog.Path
import Mathlib.Data.List.Basic

namespace EntityLog.EntityPath

def IsProper (p : EntityPath) : Prop := ∀ part ∈ p.parts, part ≠ ""

theorem isPlain_mark {c : Char} (mark : c ∈ ['/', '\\', ':']) : isPlain c = false := by
  have marks : ['/', '\\', ':'].all (!isPlain ·) = true := by decide +kernel
  simpa using List.all_eq_true.1 marks c mark

theorem isPlain_letter {c : Char} (letter : c ∈ ['n', 'r', 't']) : isPlain c = true :=
  have letters : ['n', 'r', 't'].all isPlain = true := rfl
  List.all_eq_true.1 letters c letter

theorem ne_of_isPlain {c d : Char} (plain : isPlain c = true) (other : isPlain d = false) : c ≠ d := by
  intro same
  rw [same, other] at plain
  cases plain

theorem unescape_bare {c : Char} (bare : c ≠ '\\') (rest : List Char) :
    unescape (c :: rest) = c :: unescape rest := by
  simp [unescape, bare]

theorem segments_bare {c : Char} (bare : c ≠ '\\') (inner : c ≠ '/') (current rest : List Char) :
    segments current (c :: rest) = segments (current ++ [c]) rest := by
  simp [segments, bare]

theorem segments_backslash (current : List Char) (c : Char) (rest : List Char) :
    segments current ('\\' :: c :: rest) = segments (current ++ ['\\', c]) rest := by
  simp [segments]

theorem segments_nil (current : List Char) : segments current [] = [current] := rfl

theorem segments_slash (current rest : List Char) :
    segments current ('/' :: rest) = current :: segments [] rest := by
  simp [segments]

theorem escapeChar_cases (c : Char) :
    (escapeChar c = [c] ∧ c ≠ '\\' ∧ c ≠ '/') ∨
      ∃ d, escapeChar c = ['\\', d] ∧ ∀ rest, unescape ('\\' :: d :: rest) = c :: unescape rest := by
  by_cases plain : isPlain c = true
  · exact .inl ⟨if_pos plain, ne_of_isPlain plain (isPlain_mark (by simp)),
      ne_of_isPlain plain (isPlain_mark (by simp))⟩
  · right
    by_cases newline : c = '\n'
    · exact ⟨'n', by rw [escapeChar, if_neg plain, if_pos newline], by simp [unescape, newline]⟩
    by_cases carriage : c = '\r'
    · exact ⟨'r', by rw [escapeChar, if_neg plain, if_neg newline, if_pos carriage],
        by simp [unescape, carriage]⟩
    by_cases tab : c = '\t'
    · exact ⟨'t', by rw [escapeChar, if_neg plain, if_neg newline, if_neg carriage, if_pos tab],
        by simp [unescape, tab]⟩
    -- The letters of the control characters are plain, so none of them is written behind a backslash.
    have n : c ≠ 'n' := fun same => plain (isPlain_letter (by simp [same]))
    have r : c ≠ 'r' := fun same => plain (isPlain_letter (by simp [same]))
    have t : c ≠ 't' := fun same => plain (isPlain_letter (by simp [same]))
    exact ⟨c, by simp [escapeChar, plain, newline, carriage, tab], by simp [unescape, n, r, t]⟩

theorem escape_cons (c : Char) (part : List Char) : escape (c :: part) = escapeChar c ++ escape part :=
  List.flatMap_cons

theorem unescape_escape_append (part rest : List Char) :
    unescape (escape part ++ rest) = part ++ unescape rest := by
  induction part with
  | nil => rfl
  | cons c part ih =>
    rw [escape_cons]
    rcases escapeChar_cases c with ⟨written, bare, _⟩ | ⟨d, written, back⟩
    · rw [written, List.append_assoc, List.singleton_append, unescape_bare bare, ih, List.cons_append]
    · rw [written, List.append_assoc, List.cons_append, List.singleton_append, back, ih,
        List.cons_append]

theorem unescape_escape (part : List Char) : unescape (escape part) = part := by
  have back := unescape_escape_append part []
  rwa [List.append_nil, unescape, List.append_nil] at back

theorem segments_escape (current part rest : List Char) :
    segments current (escape part ++ rest) = segments (current ++ escape part) rest := by
  induction part generalizing current with
  | nil => simp [escape]
  | cons c part ih =>
    rw [escape_cons]
    rcases escapeChar_cases c with ⟨written, bare, inner⟩ | ⟨d, written, _⟩
    · rw [written, List.append_assoc, List.singleton_append, segments_bare bare inner, ih,
        List.append_assoc]
    · rw [written, List.append_assoc, List.cons_append, List.singleton_append, segments_backslash, ih,
        List.append_assoc]

theorem escape_ne_nil {part : List Char} (some : part ≠ []) : escape part ≠ [] := by
  intro none
  apply some
  rw [← unescape_escape part, none]
  rfl

theorem unescape_ne_nil {segment : List Char} (some : segment ≠ []) : unescape segment ≠ [] := by
  fun_cases unescape segment with
  | case1 => exact absurd rfl some
  | case2 => exact List.cons_ne_nil _ _
  | case3 => exact List.cons_ne_nil _ _
  | case4 => exact List.cons_ne_nil _ _

theorem isProper_parse (text : String) : (parse text).IsProper := by
  intro part member
  obtain ⟨chars, inside, rfl⟩ := List.mem_map.1 member
  obtain ⟨segment, kept, rfl⟩ := List.mem_map.1 inside
  have some : segment ≠ [] := by simpa using (List.mem_filter.1 kept).2
  intro empty
  apply unescape_ne_nil some
  rw [← @String.toList_ofList (unescape segment), empty]
  rfl

theorem segments_intercalate {tail : List Char} {more : List (List Char)}
    (ends : ∀ current, segments current tail = current :: more) (part : List Char)
    (parts : List (List Char)) :
    segments [] (['/'].intercalate ((part :: parts).map escape) ++ tail) =
      (part :: parts).map escape ++ more := by
  induction parts generalizing part with
  | nil =>
    rw [List.map_singleton, List.intercalate_singleton, segments_escape, List.nil_append, ends]
    rfl
  | cons next parts ih =>
    rw [List.map_cons, List.map_cons, List.intercalate_cons_cons, ← List.map_cons, List.append_assoc,
      List.append_assoc, segments_escape, List.nil_append, List.singleton_append, segments_slash, ih]
    rfl

theorem parseChars_display {p : EntityPath} (proper : p.IsProper) {tail : List Char}
    {more : List (List Char)} (ends : ∀ current, segments current tail = current :: more) :
    parseChars (p.display.toList ++ tail) =
      p.parts.map String.toList ++ (more.filter (!·.isEmpty)).map unescape := by
  obtain ⟨parts⟩ := p
  cases parts with
  | nil =>
    have root : segments [] ((display ⟨[]⟩).toList ++ tail) = [] :: [] :: more := by
      rw [← ends, ← segments_slash]
      rfl
    rw [parseChars, root]
    rfl
  | cons part parts =>
    have written : (display ⟨part :: parts⟩).toList =
        ['/'].intercalate (((part :: parts).map String.toList).map escape) := by
      simp [display, isRoot, escaped, Function.comp_def]
    have kept : (((part :: parts).map String.toList).map escape).filter (!·.isEmpty) =
        ((part :: parts).map String.toList).map escape := by
      apply List.filter_eq_self.2
      intro segment member
      obtain ⟨chars, inside, rfl⟩ := List.mem_map.1 member
      obtain ⟨text, here, rfl⟩ := List.mem_map.1 inside
      have some : text.toList ≠ [] := by simpa using proper text here
      simpa using escape_ne_nil some
    have back : (((part :: parts).map String.toList).map escape).map unescape =
        (part :: parts).map String.toList := by
      simp [Function.comp_def, unescape_escape]
    rw [parseChars, written, List.map_cons, segments_intercalate ends, ← List.map_cons,
      List.filter_append, kept, List.map_append, back]

theorem parse_display {p : EntityPath} (proper : p.IsProper) : parse p.display = p := by
  have chars := parseChars_display proper segments_nil
  rw [List.append_nil] at chars
  rw [parse, chars]
  simp [Function.comp_def]

theorem parse_display_append {p q : EntityPath} (proper : p.IsProper) (proper' : q.IsProper) :
    parse (p.display ++ "/" ++ q.display) = p.join q := by
  have chars := parseChars_display proper (segments_slash · q.display.toList)
  have rest : parseChars q.display.toList = q.parts.map String.toList := by
    simpa using parseChars_display proper' segments_nil
  rw [← parseChars, rest] at chars
  have text : (p.display ++ "/" ++ q.display).toList = p.display.toList ++ '/' :: q.display.toList := by
    simp
  rw [parse, text, chars, join]
  simp [Function.comp_def]

/-- Reading leaves no part empty, and on paths without empty parts it takes back what writing did;
so do two of them with a slash between. -/
theorem display_round_trip :
    (∀ text, (parse text).IsProper) ∧
    (∀ p q : EntityPath, p.IsProper → q.IsProper →
      parse p.display = p ∧ parse (p.display ++ "/" ++ q.display) = p.join q ∧
        (p.display = q.display → p = q)) ∧
    ∀ text, (parse (parse text).display).display = (parse text).display := by
  refine ⟨isProper_parse, ?paths, ?texts⟩
  case paths =>
    intro p q proper proper'
    refine ⟨parse_display proper, parse_display_append proper proper', ?_⟩
    intro same
    rw [← parse_display proper, same, parse_display proper']
  case texts =>
    intro text
    rw [parse_display (isProper_parse text)]

theorem display_round_trip_escaped :
    display ⟨["a/b", "\\n", "c \n"]⟩ = "a\\/b/\\\\n/c\\ \\n" ∧
      parse (display ⟨["a/b", "\\n", "c \n"]⟩ ++ "/" ++ root.display) =
        ⟨["a/b", "\\n", "c \n"]⟩ :=
  ⟨by decide +kernel,
    (display_round_trip.2.1 ⟨["a/b", "\\n", "c \n"]⟩ root (by simp [IsProper])
      (by simp [IsProper, root])).2.1⟩

end EntityLog.EntityPath
