import EntityLog.Text.Alphanumeric

/-!
Entity paths: parts of text, written with slashes between them. In writing, every character of a
part that is neither a letter nor a number nor one of `_-.` is escaped with a backslash. Reading
accepts any text.
-/

namespace EntityLog

structure EntityPath where
  parts : List String
  deriving DecidableEq

namespace EntityPath

/-- Reads one written part. A backslash stands for the letter's control character before `n`, `r`
or `t`, for nothing before another character, and for itself at the end. -/
def unescape : List Char → List Char
  | [] => []
  | ['\\'] => ['\\']
  | '\\' :: c :: rest =>
    (if c = 'n' then '\n' else if c = 'r' then '\r' else if c = 't' then '\t' else c) :: unescape rest
  | c :: rest => c :: unescape rest

def isPlain (c : Char) : Bool := Text.isAlphanumeric c || c = '_' || c = '-' || c = '.'

def escapeChar (c : Char) : List Char :=
  if isPlain c then [c]
  else if c = '\n' then ['\\', 'n']
  else if c = '\r' then ['\\', 'r']
  else if c = '\t' then ['\\', 't']
  else ['\\', c]

def escape (part : List Char) : List Char := part.flatMap escapeChar

def segments (current : List Char) : List Char → List (List Char)
  | [] => [current]
  | ['\\'] => [current ++ ['\\']]
  | '\\' :: c :: rest => segments (current ++ ['\\', c]) rest
  | '/' :: rest => current :: segments [] rest
  | c :: rest => segments (current ++ [c]) rest

def parseChars (text : List Char) : List (List Char) :=
  ((segments [] text).filter (!·.isEmpty)).map unescape

def parse (text : String) : EntityPath :=
  ⟨(parseChars text.toList).map String.ofList⟩

def root : EntityPath := ⟨[]⟩

def isRoot (p : EntityPath) : Bool := p.parts.isEmpty

def escaped (p : EntityPath) : List String :=
  p.parts.map fun part => String.ofList (escape part.toList)

def display (p : EntityPath) : String :=
  if p.isRoot then "/" else "/".intercalate p.escaped

def debug (p : EntityPath) : String := "EntityPath(" ++ p.display ++ ")"

def join (p q : EntityPath) : EntityPath := ⟨p.parts ++ q.parts⟩

def parent (p : EntityPath) : Option EntityPath :=
  if p.isRoot then none else some ⟨p.parts.dropLast⟩

def compareParts : List String → List String → Ordering
  | [], [] => .eq
  | [], _ :: _ => .lt
  | _ :: _, [] => .gt
  | a :: as, b :: bs => (compare a b).then (compareParts as bs)

instance : Ord EntityPath := ⟨fun p q => compareParts p.parts q.parts⟩

end EntityPath

end EntityLog
