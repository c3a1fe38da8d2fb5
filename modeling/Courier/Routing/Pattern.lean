import Courier.Text.Basic

/-
  This file defines the patterns of routes. A pattern is literal
  text in which `{name}` stands for a part of one segment and a
  last `{*name}` stands for everything that is left.

  Key definitions include:
    * `Pattern`
    * `Pattern.ofPath`
    * `Pattern.conflicts`
    * `Pattern.Fits`
-/

namespace Courier.Routing

/-
  One place of a pattern: a character, a parameter that takes a
  part of a segment, or a parameter that takes the rest.
-/
inductive Token where
  | lit (char : Char)
  | param (name : String)
  | rest (name : String)
deriving DecidableEq, Repr

/- The places of a pattern in order. -/
abbrev Pattern :=
  List Token

/- Why a path is no pattern. -/
inductive PatternError where
  | invalidParam
  | invalidParamSegment
  | invalidCatchAll
deriving DecidableEq, Repr

/- The wording of a path that is no pattern. -/
def PatternError.message : PatternError → String
  | invalidParam =>
      "Parameters must be registered with a valid name"
  | invalidParamSegment =>
      "Only one parameter is allowed per path segment"
  | invalidCatchAll =>
      "Catch-all parameters are only allowed at the end of a route"

namespace Pattern

------------------------------------------------------------
-- Reading
------------------------------------------------------------

/- The brace that opens a parameter. -/
def openBrace : Char := '\x7b'

/- The brace that closes a parameter. -/
def closeBrace : Char := '\x7d'

/-
  A character, and whether it is escaped: a brace that is stands
  for itself. Doubled braces are escaped.
-/
structure Mark where
  char : Char
  isEscaped : Bool
deriving DecidableEq, Repr

/- True for a brace that opens a parameter. -/
def Mark.opens
    (m : Mark) : Bool :=
  m.char = openBrace && !m.isEscaped

/- True for a brace that closes a parameter. -/
def Mark.closes
    (m : Mark) : Bool :=
  m.char = closeBrace && !m.isEscaped

/- Take doubled braces together, from left to right. -/
def unescape : List Char → List Mark
  | [] => []
  | [c] => [⟨c, false⟩]
  | c :: d :: rest =>
      if c = d && (c = openBrace || c = closeBrace) then
        ⟨c, true⟩ :: unescape rest
      else
        ⟨c, false⟩ :: unescape (d :: rest)

/-
  The name after its first character, up to the closing brace,
  and what follows the brace. A name holds no star and no slash
  from its second character on.
-/
def nameTail :
    List Mark → Option (List Char × List Mark)
  | [] => none
  | m :: rest =>
      if m.closes then
        some ([], rest)
      else if m.char = '*' || m.char = '/' then
        none
      else
        (nameTail rest).map fun (name, after) =>
          (m.char :: name, after)

/-
  The parameter of a brace that has just been opened. A star in
  front makes it take the rest, and is no name by itself.
-/
def parameter :
    List Mark → Option (Token × List Mark)
  | [] => none
  | m :: rest =>
      if m.char = closeBrace then
        none
      else
        match nameTail rest with
        | none => none
        | some (name, after) =>
            if m.char = '*' then
              if name.isEmpty then none
              else some (.rest (String.ofList name), after)
            else
              some (.param (String.ofList (m.char :: name)),
                after)

/- What follows the name is shorter than what it stood in. -/
theorem length_of_nameTail
    {marks after : List Mark}
    {name : List Char}
    (h : nameTail marks = some (name, after)) :
    after.length < marks.length := by
  induction marks generalizing name with
  | nil => simp [nameTail] at h
  | cons m rest ih =>
      unfold nameTail at h
      split at h
      · simp only [Option.some.injEq, Prod.mk.injEq] at h
        simp [h.2]
      · split at h
        · simp at h
        · simp only [Option.map_eq_some_iff] at h
          obtain ⟨⟨tail, left⟩, hTail, hEq⟩ := h
          cases hEq
          have := ih hTail
          simp only [List.length_cons] at this ⊢
          omega

/- A parameter takes up characters. -/
theorem length_of_parameter
    {marks after : List Mark}
    {token : Token}
    (h : parameter marks = some (token, after)) :
    after.length < marks.length := by
  cases marks with
  | nil => simp [parameter] at h
  | cons m rest =>
      simp only [parameter] at h
      split at h
      · simp at h
      · cases hTail : nameTail rest with
        | none => simp [hTail] at h
        | some found =>
            have := length_of_nameTail hTail
            simp only [hTail] at h
            grind

/- Escape the character that begins so many bytes further on. -/
def escapeAfter
    (bytes : Nat) : List Mark → List Mark
  | [] => []
  | m :: rest =>
      if bytes = 0 then
        { m with isEscaped := true } :: rest
      else if m.char.utf8Size ≤ bytes then
        m :: escapeAfter (bytes - m.char.utf8Size) rest
      else
        m :: rest

/-
  When the first character is escaped, escape the one that
  begins so many bytes behind it in its place.
-/
def moveEscape
    (bytes : Nat) : List Mark → List Mark
  | [] => []
  | m :: rest =>
      if m.isEscaped then
        escapeAfter bytes ({ m with isEscaped := false } :: rest)
      else
        m :: rest

/-
  How many bytes an escape right behind a parameter moves on:
  as many as its name has besides the first.
-/
def escapeShift : Token → Nat
  | .param name => name.utf8ByteSize - 1
  | _ => 0

/- Escaping a character adds none. -/
theorem length_escapeAfter
    (bytes : Nat)
    (marks : List Mark) :
    (escapeAfter bytes marks).length = marks.length := by
  induction marks generalizing bytes with
  | nil => rfl
  | cons m rest ih =>
      simp only [escapeAfter]
      split
      · rfl
      · split
        · simp only [List.length_cons, ih]
        · rfl

/- Moving an escape keeps all characters. -/
theorem length_moveEscape
    (bytes : Nat)
    (marks : List Mark) :
    (moveEscape bytes marks).length = marks.length := by
  cases marks with
  | nil => rfl
  | cons m rest =>
      simp only [moveEscape]
      split
      · simp only [length_escapeAfter, List.length_cons]
      · rfl

/- The places of a path, none when a parameter has no name. -/
def places
    (marks : List Mark) : Option (List Token) :=
  match marks with
  | [] => some []
  | m :: rest =>
      if m.closes then
        none
      else if m.opens then
        match _h : parameter rest with
        | none => none
        | some (token, after) =>
            (places (moveEscape (escapeShift token) after)).map
              (token :: ·)
      else
        (places rest).map (.lit m.char :: ·)
termination_by marks.length
decreasing_by
  · have := length_of_parameter _h
    simp only [List.length_cons, length_moveEscape]
    omega
  · simp

/-
  Look for a second parameter in a segment, and for anything
  after a parameter that takes the rest. `inSegment` tells that
  the segment has a parameter already.
-/
def check
    (inSegment : Bool) : List Token → Option PatternError
  | [] => none
  | .lit c :: tokens => check (inSegment && c ≠ '/') tokens
  | .param _ :: tokens =>
      if inSegment then some .invalidParamSegment
      else check true tokens
  | .rest _ :: tokens =>
      if inSegment then some .invalidParamSegment
      else if tokens.isEmpty then none
      else some .invalidCatchAll

/- The pattern that a path is written for. -/
def ofPath
    (path : String) : Except PatternError Pattern :=
  match places (unescape path.toList) with
  | none => .error .invalidParam
  | some tokens =>
      match check false tokens with
      | none => .ok tokens
      | some e => .error e

------------------------------------------------------------
-- Conflicts
------------------------------------------------------------

/-
  True when two patterns cannot stand beside each other: they
  differ at most in the names of parameters, or one takes the
  rest where the other has a parameter.
-/
def conflicts : Pattern → Pattern → Bool
  | [], [] => true
  | .lit c :: p, .lit d :: q => c = d && conflicts p q
  | .param _ :: p, .param _ :: q => conflicts p q
  | .rest _ :: _, .rest _ :: _ => true
  | .rest _ :: _, .param _ :: _ => true
  | .param _ :: _, .rest _ :: _ => true
  | _, _ => false

------------------------------------------------------------
-- Matching
------------------------------------------------------------

/-
  A path fits a pattern when each parameter takes a part of one
  segment, or the rest, and no parameter takes nothing.
-/
inductive Fits :
    Pattern → List Char → List (String × String) → Prop where
  | nil : Fits [] [] []
  | lit {c : Char} {p : Pattern} {path : List Char}
      {params : List (String × String)} :
      Fits p path params →
        Fits (.lit c :: p) (c :: path) params
  | param {name : String} {p : Pattern}
      {value path : List Char}
      {params : List (String × String)} :
      value ≠ [] → '/' ∉ value → Fits p path params →
        Fits (.param name :: p) (value ++ path)
          ((name, String.ofList value) :: params)
  | rest {name : String} {value : List Char} :
      value ≠ [] →
        Fits [.rest name] value [(name, String.ofList value)]

end Pattern

end Courier.Routing
