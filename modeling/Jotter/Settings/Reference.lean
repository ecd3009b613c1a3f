import Jotter.Settings.Value

/-!
References to environment variables in the texts of a settings file. A reference is a dollar sign with
an ASCII identifier, or with any name in braces and perhaps a fallback behind `:-`. References are
found from left to right and never in what was put in for another one. Reading loses nothing: the
pieces of a text, written one after the other, are the text.
-/

namespace Jotter

/-- A reference as it stands in a text. -/
inductive Reference where
  | bare (initial : Char) (others : List Char)
  | braced (name : List Char) (fallback : Option (List Char))
  deriving DecidableEq, Repr

/-- The environment variables that are set. -/
structure Environment where
  entries : List (String × String)
  deriving DecidableEq, Repr, Inhabited

namespace Environment

def value? (environment : Environment) (name : String) : Option String :=
  environment.entries.lookup name

/-- Why a variable cannot be set, if it cannot. -/
def refusal? (name value : String) : Option Failure :=
  if name.toList.contains '\x00' || value.toList.contains '\x00' then some .nullInName
  else if name.toList.contains '=' then some .badVariableName
  else if name.isEmpty then some .emptyVariableName
  else none

/-- Sets a variable, or removes it if there is no value. -/
def set (environment : Environment) (name : String) (value : Option String) :
    Except Failure Environment :=
  let others := environment.entries.filter (·.1 != name)
  match value with
  | none => .ok ⟨others⟩
  | some value =>
    match refusal? name value with
    | some failure => .error failure
    | none => .ok ⟨(name, value) :: others⟩

end Environment

namespace Reference

def name : Reference → List Char
  | bare initial others => initial :: others
  | braced name _ => name

def fallback? : Reference → Option (List Char)
  | bare _ _ => none
  | braced _ fallback => fallback

/-- How a reference is written. -/
def source : Reference → List Char
  | bare initial others => '$' :: initial :: others
  | braced name none => '$' :: '\x7b' :: (name ++ ['\x7d'])
  | braced name (some fallback) =>
    '$' :: '\x7b' :: (name ++ ':' :: '-' :: (fallback ++ ['\x7d']))

def isInitial (c : Char) : Bool :=
  c.isAlpha || c == '_'

def isContinuing (c : Char) : Bool :=
  c.isAlphanum || c == '_'

/-- The characters of a name in braces. -/
def isInside (c : Char) : Bool :=
  c != '\x7d' && c != ':'

/-- The characters of a fallback. -/
def isFallback (c : Char) : Bool :=
  c != '\x7d' && c != '\n'

/-- Reads what follows the name in a reference with braces. -/
def readEnd? (name : List Char) : List Char → Option (Reference × List Char)
  | '\x7d' :: rest => some (braced name none, rest)
  | ':' :: '-' :: cs =>
    match cs.dropWhile isFallback with
    | '\x7d' :: rest => some (braced name (some (cs.takeWhile isFallback)), rest)
    | _ => none
  | _ => none

/-- Reads what follows a dollar sign as a reference; the second part is what is left. -/
def read? : List Char → Option (Reference × List Char)
  | [] => none
  | '\x7b' :: cs =>
    let name := cs.takeWhile isInside
    if name.isEmpty then none else readEnd? name (cs.dropWhile isInside)
  | c :: cs =>
    if isInitial c then some (bare c (cs.takeWhile isContinuing), cs.dropWhile isContinuing)
    else none

theorem source_of_readEnd? {name cs rest : List Char} {reference : Reference}
    (h : readEnd? name cs = some (reference, rest)) :
    '$' :: '\x7b' :: (name ++ cs) = reference.source ++ rest := by
  unfold readEnd? at h
  split at h
  · simp only [Option.some.injEq, Prod.mk.injEq] at h
    obtain ⟨rfl, rfl⟩ := h
    simp [source]
  · rename_i tail
    split at h
    · rename_i after hdrop
      simp only [Option.some.injEq, Prod.mk.injEq] at h
      obtain ⟨rfl, rfl⟩ := h
      have htail := List.takeWhile_append_dropWhile (p := isFallback) (l := tail)
      rw [hdrop] at htail
      simp only [source, List.cons_append, List.append_assoc, List.nil_append]
      rw [htail]
    · exact absurd h (by simp)
  · exact absurd h (by simp)

/-- Reading takes exactly what the reference is written as. -/
theorem source_of_read? {cs rest : List Char} {reference : Reference}
    (h : read? cs = some (reference, rest)) : '$' :: cs = reference.source ++ rest := by
  unfold read? at h
  split at h
  · exact absurd h (by simp)
  · rename_i tail
    simp only at h
    split at h
    · exact absurd h (by simp)
    · have := source_of_readEnd? h
      rwa [List.takeWhile_append_dropWhile] at this
  · rename_i c tail _
    split at h
    · simp only [Option.some.injEq, Prod.mk.injEq] at h
      obtain ⟨rfl, rfl⟩ := h
      simp [source, List.takeWhile_append_dropWhile]
    · exact absurd h (by simp)

theorem two_le_length_source (reference : Reference) : 2 ≤ reference.source.length := by
  cases reference with
  | bare initial others => simp only [source, List.length_cons]; omega
  | braced name fallback => cases fallback <;> simp only [source, List.length_cons] <;> omega

/-- A reference leaves less than there was. -/
theorem length_lt_of_read? {cs rest : List Char} {reference : Reference}
    (h : read? cs = some (reference, rest)) : rest.length < cs.length := by
  have hsource := congrArg List.length (source_of_read? h)
  have hlength := two_le_length_source reference
  simp only [List.length_cons, List.length_append] at hsource
  omega

/-- What stands for a reference: the value of the variable, or else the fallback, or else the
reference as it is written. -/
def resolve (environment : Environment) (reference : Reference) : List Char :=
  match environment.value? (.ofList reference.name), reference.fallback? with
  | some value, _ => value.toList
  | none, some fallback => fallback
  | none, none => reference.source

end Reference

/-- A piece of a text: a character that stands for itself, or a reference. -/
inductive Piece where
  | character (c : Char)
  | reference (found : Reference)
  deriving DecidableEq, Repr

namespace Piece

def source : Piece → List Char
  | character c => [c]
  | reference found => found.source

def resolve (environment : Environment) : Piece → List Char
  | character c => [c]
  | reference found => found.resolve environment

/-- The pieces of a text. -/
def all : List Char → List Piece
  | [] => []
  | c :: cs =>
    if c = '$' then
      match h : Reference.read? cs with
      | some (found, rest) =>
        have := Reference.length_lt_of_read? h
        reference found :: all rest
      | none => character c :: all cs
    else character c :: all cs
termination_by cs => cs.length

/-- Reading loses nothing. -/
theorem flatMap_source_all (cs : List Char) : (all cs).flatMap source = cs := by
  fun_induction all cs with
  | case1 => rfl
  | case2 cs found rest h _ ih =>
    rw [List.flatMap_cons, ih, Reference.source_of_read? h]
    rfl
  | case3 cs h ih => rw [List.flatMap_cons, ih]; rfl
  | case4 c cs hc ih => rw [List.flatMap_cons, ih]; rfl

end Piece

namespace Environment

/-- A text with its references resolved. -/
def expand (environment : Environment) (text : String) : String :=
  .ofList ((Piece.all text.toList).flatMap (·.resolve environment))

end Environment

namespace Setting

mutual

/-- A value with the references in all its texts resolved; keys stay as they are. -/
def expand (environment : Environment) : Setting → Setting
  | text value => text (environment.expand value)
  | list items => list (expandItems environment items)
  | mapping entries => mapping (expandEntries environment entries)
  | value => value

def expandItems (environment : Environment) : List Setting → List Setting
  | [] => []
  | item :: items => item.expand environment :: expandItems environment items

def expandEntries (environment : Environment) : List (String × Setting) → List (String × Setting)
  | [] => []
  | (key, value) :: entries => (key, value.expand environment) :: expandEntries environment entries

end

end Setting

end Jotter
