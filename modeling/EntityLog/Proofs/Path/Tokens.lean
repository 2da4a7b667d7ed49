import EntityLog.Proofs.Path.RoundTrip

/-!
Written paths, token by token. Reading a path comes to one pass over its text: a backslash is one
token with the character behind it, bare slashes cut the tokens into groups, and each group that has
any is a part. What is cut first keeps its backslashes until it is read, and that second reading sees
the same tokens.
-/

namespace EntityLog

inductive PathToken
  | plain (c : Char)
  | escaped (c : Char)
  | dangling
  deriving DecidableEq

namespace PathToken

def ofChars : List Char → List PathToken
  | [] => []
  | ['\\'] => [dangling]
  | '\\' :: c :: rest => escaped c :: ofChars rest
  | c :: rest => plain c :: ofChars rest

def written : PathToken → List Char
  | plain c => [c]
  | escaped c => ['\\', c]
  | dangling => ['\\']

def char : PathToken → Char
  | plain c => c
  | escaped c => if c = 'n' then '\n' else if c = 'r' then '\r' else if c = 't' then '\t' else c
  | dangling => '\\'

def slash : PathToken := plain '/'

def groups (tokens : List PathToken) : List (List PathToken) :=
  (tokens.splitOn slash).filter (!·.isEmpty)

end PathToken

def EntityPath.ofTokens (tokens : List PathToken) : EntityPath :=
  ⟨(PathToken.groups tokens).map fun group => String.ofList (group.map PathToken.char)⟩

namespace PathToken

variable {tokens : List PathToken}

theorem ofChars_bare {c : Char} (bare : c ≠ '\\') (rest : List Char) :
    ofChars (c :: rest) = plain c :: ofChars rest := by
  simp [ofChars, bare]

theorem isEmpty_written (group : List PathToken) :
    (group.flatMap written).isEmpty = group.isEmpty := by
  cases group with
  | nil => rfl
  | cons t group => cases t <;> rfl

theorem splitOn_slash (tokens : List PathToken) :
    (slash :: tokens).splitOn slash = [] :: tokens.splitOn slash := by
  simp [List.splitOn_cons_eq_if_modifyHead]

theorem splitOn_cons {t : PathToken} {tokens group : List PathToken} {groups : List (List PathToken)}
    (inner : t ≠ slash) (split : tokens.splitOn slash = group :: groups) :
    (t :: tokens).splitOn slash = (t :: group) :: groups := by
  rw [List.splitOn_cons_eq_if_modifyHead, if_neg (by simpa using inner), split, List.modifyHead_cons]

theorem groups_append (tokens later : List PathToken) :
    groups (tokens ++ slash :: later) = groups tokens ++ groups later := by
  rw [groups, List.splitOn_append_cons_self, List.filter_append, groups, groups]

theorem bare_of_not {c : Char} {rest : List Char} (last : c = '\\' → rest = [] → False)
    (pair : ∀ d later, c = '\\' → rest = d :: later → False) : c ≠ '\\' := by
  intro backslash
  cases rest with
  | nil => exact last backslash rfl
  | cons d later => exact pair d later backslash rfl

theorem flatMap_written (text : List Char) : (ofChars text).flatMap written = text := by
  fun_induction ofChars text with
  | case1 => rfl
  | case2 => rfl
  | case3 c rest ih => rw [List.flatMap_cons, ih]; rfl
  | case4 c rest last pair ih => rw [List.flatMap_cons, ih]; rfl

theorem ofChars_append {text : List Char} (whole : dangling ∉ ofChars text) (later : List Char) :
    ofChars (text ++ later) = ofChars text ++ ofChars later := by
  fun_induction ofChars text with
  | case1 => rfl
  | case2 => exact absurd List.mem_cons_self whole
  | case3 c rest ih =>
    rw [List.cons_append, List.cons_append, ofChars, ih (List.not_mem_of_not_mem_cons whole),
      List.cons_append]
  | case4 c rest last pair ih =>
    rw [List.cons_append, ofChars_bare (bare_of_not last pair),
      ih (List.not_mem_of_not_mem_cons whole), List.cons_append]

end PathToken

namespace EntityPath

open PathToken

theorem exists_segments (current text : List Char) :
    ∃ group groups, (ofChars text).splitOn slash = group :: groups ∧
      segments current text = (current ++ group.flatMap written) :: groups.map (·.flatMap written) := by
  fun_induction segments current text with
  | case1 current => exact ⟨[], [], rfl, by simp⟩
  | case2 current => exact ⟨[dangling], [], rfl, rfl⟩
  | case3 current c rest ih =>
    obtain ⟨group, groups, split, cut⟩ := ih
    refine ⟨.escaped c :: group, groups, ?_, by rw [cut, List.append_assoc]; rfl⟩
    exact splitOn_cons (t := .escaped c) nofun split
  | case4 current rest ih =>
    obtain ⟨group, groups, split, cut⟩ := ih
    refine ⟨[], group :: groups, ?_, by simp [cut]⟩
    rw [ofChars_bare (by decide), ← slash, splitOn_slash, split]
  | case5 current c rest last pair inner ih =>
    obtain ⟨group, groups, split, cut⟩ := ih
    refine ⟨plain c :: group, groups, ?_, by rw [cut, List.append_assoc]; rfl⟩
    rw [ofChars_bare (bare_of_not last pair)]
    refine splitOn_cons (fun same => inner ?_) split
    cases same
    rfl

theorem unescape_written {text : List Char} :
    ∀ group ∈ (ofChars text).splitOn slash, unescape (group.flatMap written) = group.map char := by
  fun_induction ofChars text with
  | case1 => exact List.forall_mem_singleton.2 rfl
  | case2 => exact List.forall_mem_singleton.2 rfl
  | case3 c rest ih =>
    obtain ⟨group, groups, split⟩ :=
      List.exists_cons_of_ne_nil (List.splitOn_ne_nil slash (ofChars rest))
    rw [splitOn_cons (t := .escaped c) nofun split]
    rw [split] at ih
    obtain ⟨first, later⟩ := List.forall_mem_cons.1 ih
    refine List.forall_mem_cons.2 ⟨?_, later⟩
    rw [List.flatMap_cons, List.map_cons, ← first]
    rfl
  | case4 c rest last pair ih =>
    have bare : c ≠ '\\' := bare_of_not last pair
    by_cases cut : c = '/'
    · subst cut
      exact splitOn_slash _ ▸ List.forall_mem_cons.2 ⟨rfl, ih⟩
    obtain ⟨group, groups, split⟩ :=
      List.exists_cons_of_ne_nil (List.splitOn_ne_nil slash (ofChars rest))
    rw [splitOn_cons (t := plain c) (by simpa [slash] using cut) split]
    rw [split] at ih
    obtain ⟨first, later⟩ := List.forall_mem_cons.1 ih
    refine List.forall_mem_cons.2 ⟨?_, later⟩
    rw [List.flatMap_cons, List.map_cons, ← first]
    exact unescape_bare bare _

theorem parse_eq_ofTokens (text : String) :
    parse text = ofTokens (PathToken.ofChars text.toList) := by
  obtain ⟨group, groups, split, cut⟩ := exists_segments [] text.toList
  have kept : (segments [] text.toList).filter (!·.isEmpty) =
      (PathToken.groups (ofChars text.toList)).map (·.flatMap written) := by
    rw [cut, List.nil_append, ← List.map_cons, ← split, List.filter_map, PathToken.groups]
    congr 2
    funext group
    exact congrArg (!·) (isEmpty_written group)
  have read : ∀ group ∈ PathToken.groups (ofChars text.toList),
      unescape (group.flatMap written) = group.map char :=
    fun group member => unescape_written group (List.mem_filter.1 member).1
  rw [parse, parseChars, kept, ofTokens, List.map_map, List.map_map]
  exact congrArg EntityPath.mk (List.map_congr_left fun group member =>
    congrArg String.ofList (read group member))

theorem join_ofTokens (tokens later : List PathToken) :
    (ofTokens tokens).join (ofTokens later) = ofTokens (tokens ++ slash :: later) := by
  rw [ofTokens, ofTokens, ofTokens, join, groups_append, List.map_append]

/-- Reading a path is reading its tokens, whatever is written. So a slash behind any text joins what
is read before it and after it, unless the text ends in a backslash that the slash is read with. -/
theorem parse_tokens :
    (∀ text, (ofChars text.toList).flatMap written = text.toList ∧
      parse text = ofTokens (ofChars text.toList)) ∧
    ∀ text later : String, dangling ∉ ofChars text.toList →
      parse (text ++ "/" ++ later) = (parse text).join (parse later) := by
  refine ⟨fun text => ⟨flatMap_written text.toList, parse_eq_ofTokens text⟩,
    fun text later whole => ?_⟩
  have slashed : (text ++ "/" ++ later).toList = text.toList ++ '/' :: later.toList := by simp
  rw [parse_eq_ofTokens, parse_eq_ofTokens, parse_eq_ofTokens, join_ofTokens, slashed,
    ofChars_append whole, ofChars_bare (by decide), slash]

theorem parse_tokens_backslashes :
    dangling ∉ ofChars "a\\\\".toList ∧
      parse ("a\\\\" ++ "/" ++ "/\\/b\\t\\") = (parse "a\\\\").join (parse "/\\/b\\t\\") ∧
      parse ("a\\\\" ++ "/" ++ "/\\/b\\t\\") = ⟨["a\\", "/b\t\\"]⟩ := by
  have whole : dangling ∉ ofChars "a\\\\".toList := by decide +kernel
  exact ⟨whole, parse_tokens.2 _ _ whole, by decide +kernel⟩

example : parse ("a\\" ++ "/" ++ "b") = ⟨["a/b"]⟩ := by decide +kernel

end EntityPath

end EntityLog
