import Courier.Routing.Pattern

/-
  This file finds the route of a path.

  All routes are followed at once, one character at a time:
  a literal character comes before a parameter, and a parameter
  before one that takes the rest. When a choice turns out to
  lead nowhere the next one is tried.

  Key definitions include:
    * `Candidate`
    * `Candidate.find`
    * `Router`
    * `Router.clashes`
    * `Router.find?`
    * `InsertError`
    * `PathRouter`
-/

namespace Courier.Routing

/-
  A route that agrees with the path so far: the places that are
  left, the parameters taken, and what the route stands for.
-/
structure Candidate (α : Type) where
  tokens : Pattern
  params : List (String × String) := []
  value : α

namespace Candidate

variable {α : Type}

------------------------------------------------------------
-- Going on
------------------------------------------------------------

/- Go past a literal character. -/
def pastLit?
    (char : Char)
    (r : Candidate α) : Option (Candidate α) :=
  match r.tokens with
  | .lit c :: tokens =>
      if c = char then some { r with tokens } else none
  | _ => none

/-
  The literal text behind a parameter, up to the end of its
  segment and with the slash that ends it.
-/
def literalRun : Pattern → List Char
  | .lit c :: tokens =>
      if c = '/' then [c] else c :: literalRun tokens
  | _ => []

/- The literal text behind the parameter that comes next. -/
def nextRun?
    (r : Candidate α) : Option (List Char) :=
  match r.tokens with
  | .param _ :: tokens => some (literalRun tokens)
  | _ => none

/- Go past a parameter and the literal text behind it. -/
def pastParam?
    (value run : List Char)
    (r : Candidate α) : Option (Candidate α) :=
  match r.tokens with
  | .param name :: tokens =>
      if literalRun tokens = run then
        some
          { r with
            tokens := tokens.drop run.length
            params := r.params ++ [(name, String.ofList value)] }
      else
        none
  | _ => none

/- Go past a parameter that takes the rest. -/
def pastRest?
    (path : List Char)
    (r : Candidate α) : Option (Candidate α) :=
  match r.tokens with
  | [.rest name] =>
      some
        { r with
          tokens := []
          params := r.params ++ [(name, String.ofList path)] }
  | _ => none

------------------------------------------------------------
-- Segments
------------------------------------------------------------

/- The first segment of a path, without the slash behind it. -/
def segment
    (path : List Char) : List Char :=
  path.takeWhile (· ≠ '/')

/- The first segment of a path and the slash behind it. -/
def slashedSegment
    (path : List Char) : List Char :=
  path.take ((segment path).length + 1)

/- The longer of two texts, the first of two equally long. -/
def longer
    (a b : List Char) : List Char :=
  if a.length < b.length then b else a

/-
  The longest literal text behind a parameter that a segment
  ends with, when it leaves something for the parameter.
-/
def longestRun
    (segment : List Char)
    (routes : List (Candidate α)) : List Char :=
  ((routes.filterMap nextRun?).filter fun run =>
    run.length < segment.length && run.isSuffixOf segment).foldl
      longer []

------------------------------------------------------------
-- Finding
------------------------------------------------------------

/- The first candidate that has nothing left to match. -/
def complete?
    (routes : List (Candidate α)) : Option (Candidate α) :=
  routes.find? (·.tokens.isEmpty)

/-
  The route of a path among candidates, if any are left. A
  parameter takes as little as the literal text behind it allows,
  and takes a whole last segment when no such text fits.
-/
def find
    (path : List Char)
    (routes : List (Candidate α)) : Option (Candidate α) :=
  match path, routes with
  | _, [] => none
  | [], routes => complete? routes
  | c :: rest, routes =>
      match find rest (routes.filterMap (pastLit? c)) with
      | some hit => some hit
      | none =>
          match
            if c = '/' || (routes.filterMap nextRun?).isEmpty then
              none
            else
              let slashed := slashedSegment (c :: rest)
              let run := longestRun slashed routes
              let value :=
                slashed.take (slashed.length - run.length)
              if run.isEmpty && rest.contains '/' then
                none
              else
                find ((c :: rest).drop slashed.length)
                  (routes.filterMap (pastParam? value run))
          with
          | some hit => some hit
          | none =>
              complete?
                (routes.filterMap (pastRest? (c :: rest)))
termination_by path.length
decreasing_by
  · simp
  · simp only [slashedSegment, List.length_drop,
      List.length_take, List.length_cons]
    omega

end Candidate

------------------------------------------------------------
-- Routers
------------------------------------------------------------

/- Patterns and what they stand for. -/
structure Router (α : Type) where
  routes : List (Pattern × α) := []

namespace Router

variable {α : Type}

/- True when a pattern conflicts with one that is registered. -/
def clashes
    (router : Router α)
    (pattern : Pattern) : Bool :=
  router.routes.any (Pattern.conflicts pattern ·.1)

/- Register a pattern. -/
def insert
    (router : Router α)
    (pattern : Pattern)
    (value : α) : Router α :=
  ⟨router.routes ++ [(pattern, value)]⟩

/- What a path leads to, and the parameters taken from it. -/
def find?
    (router : Router α)
    (path : String) : Option (α × List (String × String)) :=
  let start :=
    router.routes.map fun (tokens, value) =>
      ({ tokens, value } : Candidate α)
  (Candidate.find path.toList start).map fun hit =>
    (hit.value, hit.params)

end Router

------------------------------------------------------------
-- Any router
------------------------------------------------------------

/- Why a path is not taken up. -/
inductive InsertError where
  | conflict
  | invalid (cause : PatternError)
deriving DecidableEq, Repr

/-
  What a server asks of a router, for values of any type: it
  takes up paths one by one, and finds a value for a path
  together with the parameters taken from it.
-/
class PathRouter (ρ : Type → Type) where
  empty : {α : Type} → ρ α
  insert? :
    {α : Type} → ρ α → String → α → Except InsertError (ρ α)
  find? :
    {α : Type} → ρ α → String →
      Option (α × List (String × String))

instance : PathRouter Router where
  empty := {}
  insert? router path value :=
    match Pattern.ofPath path with
    | .error cause => .error (.invalid cause)
    | .ok pattern =>
        if router.clashes pattern then .error .conflict
        else .ok (router.insert pattern value)
  find? := Router.find?

end Courier.Routing
