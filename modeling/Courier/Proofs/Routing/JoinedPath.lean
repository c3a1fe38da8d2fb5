import Courier.Proofs.Text.Trimming
import Courier.Routing.Path

/-
  Joining paths, one below the other. A path that is joined to
  nothing or to a path from the root is a path from the root,
  and the root adds nothing to what stands below it. It makes no
  difference in which order several paths are joined.

  Key definitions include:
    * `Routing.IsRooted`

  Main statements:
    * `Routing.isRooted_foldl_joinPath`
    * `Routing.foldl_joinPath_root`
    * `Routing.joinPath_ne_empty`
    * `Routing.joinPath_assoc`
-/

namespace Courier.Routing

------------------------------------------------------------
-- Paths from the root
------------------------------------------------------------

/- The path leads from the root. -/
def IsRooted
    (path : String) : Prop :=
  Text.startsWith "/" path

theorem isRooted_iff
    (path : String) :
    IsRooted path ↔ ['/'] <+: path.toList :=
  Text.startsWith_iff "/" path

/- Trimming leaves the first slash or nothing at all. -/
theorem trimEnd_eq_nil_or_prefix
    {base : List Char}
    (hBase : base = [] ∨ ['/'] <+: base) :
    Text.trimEnd isSlash base = [] ∨
      ['/'] <+: Text.trimEnd isSlash base := by
  have hTrim := Text.trimEnd_prefix_self isSlash base
  cases hEnd : Text.trimEnd isSlash base with
  | nil => exact Or.inl rfl
  | cons c cs =>
      rw [hEnd] at hTrim
      rcases hTrim with ⟨cut, rfl⟩
      rcases hBase with hNone | hSlash
      · cases hNone
      · right
        simpa using hSlash

theorem prefix_joinChars
    {base : List Char}
    (hBase : base = [] ∨ ['/'] <+: base)
    (path : List Char) :
    ['/'] <+: joinChars base path := by
  unfold joinChars
  split
  · -- nothing is added
    rcases hBase with rfl | hSlash
    · exact List.prefix_rfl
    · split
      · exact List.prefix_rfl
      · exact hSlash
  · rcases trimEnd_eq_nil_or_prefix hBase with hNone | hSlash
    · rw [hNone]
      exact List.prefix_append ['/'] _
    · exact hSlash.trans (List.prefix_append _ _)

/- What is joined to a path from the root is one. -/
theorem isRooted_joinPath
    {base : String}
    (hBase : base = "" ∨ IsRooted base)
    (path : String) :
    IsRooted (joinPath base path) := by
  have hChars : base.toList = [] ∨ ['/'] <+: base.toList := by
    rcases hBase with rfl | hRooted
    · exact Or.inl rfl
    · exact Or.inr ((isRooted_iff base).mp hRooted)
  rw [isRooted_iff, joinPath, String.toList_ofList]
  exact prefix_joinChars hChars path.toList

/- Some paths that are joined in a row. -/
theorem isRooted_foldl_joinPath
    {paths : List String}
    (hPaths : paths ≠ []) :
    IsRooted (paths.foldl joinPath "") := by
  have hRest :
      ∀ (rest : List String) (base : String),
        IsRooted base → IsRooted (rest.foldl joinPath base) := by
    intro rest
    induction rest with
    | nil => exact fun _ hBase => hBase
    | cons path rest ih =>
        intro base hBase
        exact ih _ (isRooted_joinPath (Or.inr hBase) path)
  cases paths with
  | nil => exact absurd rfl hPaths
  | cons path rest =>
      exact hRest rest _ (isRooted_joinPath (Or.inl rfl) path)

------------------------------------------------------------
-- The root
------------------------------------------------------------

/- The root adds nothing to a path below it. -/
theorem joinPath_root
    (path : String) :
    joinPath (joinPath "" "") path = joinPath "" path := by
  have hRoot : joinPath "" "" = "/" := by decide
  have hChars :
      ∀ cs : List Char, joinChars ['/'] cs = joinChars [] cs := by
    intro cs
    cases hTrim : Text.trimStart isSlash cs with
    | nil => simp [joinChars, hTrim]
    | cons c cs => simp [joinChars, hTrim, Text.trimEnd, isSlash]
  rw [hRoot]
  exact congrArg String.ofList (hChars path.toList)

/- The root adds nothing to paths that are joined in a row. -/
theorem foldl_joinPath_root
    {paths : List String}
    (hPaths : paths ≠ []) :
    paths.foldl joinPath (joinPath "" "") =
      paths.foldl joinPath "" := by
  cases paths with
  | nil => exact absurd rfl hPaths
  | cons path rest =>
      exact congrArg (rest.foldl joinPath) (joinPath_root path)

------------------------------------------------------------
-- Paths below paths
------------------------------------------------------------

/- Slashes alone add what nothing adds. -/
theorem joinChars_of_slashes
    {path : List Char}
    (hPath : Text.trimStart isSlash path = [])
    (base : List Char) :
    joinChars base path = joinChars base [] := by
  rw [joinChars, hPath]
  rfl

/- What is added stands behind one slash. -/
theorem joinChars_of_trimStart
    {path rest : List Char}
    {c : Char}
    (hPath : Text.trimStart isSlash path = c :: rest)
    (base : List Char) :
    joinChars base path =
      Text.trimEnd isSlash base ++ '/' :: c :: rest := by
  rw [joinChars, hPath]

theorem joinChars_nil_of_ne_nil
    {base : List Char}
    (hBase : base ≠ []) :
    joinChars base [] = base := by
  cases base with
  | nil => exact absurd rfl hBase
  | cons c rest => rfl

theorem joinChars_ne_nil
    (base path : List Char) :
    joinChars base path ≠ [] := by
  cases hPath : Text.trimStart isSlash path with
  | nil =>
      rw [joinChars_of_slashes hPath]
      cases base <;> simp [joinChars, Text.trimStart]
  | cons c rest =>
      rw [joinChars_of_trimStart hPath]
      simp

/- A path that is joined to nothing ends as it does alone. -/
theorem trimEnd_joinChars_nil
    (base : List Char) :
    Text.trimEnd isSlash (joinChars base []) =
      Text.trimEnd isSlash base := by
  cases base <;> rfl

/- A path that holds more than slashes is kept in its place. -/
theorem trimEnd_joinChars_of_trimStart
    {path rest : List Char}
    {c : Char}
    (hPath : Text.trimStart isSlash path = c :: rest)
    (base : List Char) :
    Text.trimEnd isSlash (joinChars base path) =
      Text.trimEnd isSlash base
        ++ '/' :: Text.trimEnd isSlash (c :: rest) := by
  have hKept := (Text.exists_of_trimStart_eq_cons hPath).1
  have hSome : Text.trimEnd isSlash (c :: rest) ≠ [] := by
    rcases Text.exists_trimEnd_cons hKept rest with ⟨_, hEnd⟩
    rw [hEnd]
    exact List.cons_ne_nil _ _
  rw [joinChars_of_trimStart hPath, List.append_cons,
    Text.trimEnd_append_of_ne_nil hSome, ← List.append_cons]

/- The two ends of a path are trimmed in either order. -/
theorem trimStart_trimEnd_append
    {path rest : List Char}
    {c : Char}
    (hPath : Text.trimStart isSlash path = c :: rest)
    (after : List Char) :
    Text.trimStart isSlash
        (Text.trimEnd isSlash path ++ after) =
      Text.trimEnd isSlash (c :: rest) ++ after := by
  rcases Text.exists_of_trimStart_eq_cons hPath with
    ⟨hKept, front, hFront, rfl⟩
  rcases Text.exists_trimEnd_cons hKept rest with
    ⟨kept, hEnd⟩
  have hSome : Text.trimEnd isSlash (c :: rest) ≠ [] := by
    rw [hEnd]
    exact List.cons_ne_nil _ _
  rw [Text.trimEnd_append_of_ne_nil hSome, hEnd,
    List.append_assoc, List.cons_append,
    Text.trimStart_append_cons hFront hKept]

theorem joinChars_assoc
    (a b c : List Char) :
    joinChars (joinChars a b) c =
      joinChars a (joinChars b c) := by
  cases hc : Text.trimStart isSlash c with
  | nil =>
      -- Nothing is added at the end.
      rw [joinChars_of_slashes hc (joinChars a b),
        joinChars_of_slashes hc b,
        joinChars_nil_of_ne_nil (joinChars_ne_nil a b)]
      cases b with
      | nil => exact (joinChars_of_slashes rfl a).symm
      | cons first rest => rfl
  | cons y ys =>
      rw [joinChars_of_trimStart hc (joinChars a b),
        joinChars_of_trimStart hc b]
      have hKept := (Text.exists_of_trimStart_eq_cons hc).1
      cases hb : Text.trimStart isSlash b with
      | nil =>
          -- The path in the middle is slashes alone.
          have hSlashes : Text.trimEnd isSlash b = [] :=
            Text.trimEnd_append
              (List.dropWhile_eq_nil_iff.mp hb) []
          have hSlash :
              Text.trimStart isSlash ('/' :: y :: ys) =
                y :: ys :=
            @Text.trimStart_append_cons isSlash ['/']
              (by simp [isSlash]) y hKept ys
          rw [joinChars_of_slashes hb, trimEnd_joinChars_nil,
            hSlashes, List.nil_append,
            joinChars_of_trimStart hSlash]
      | cons x xs =>
          rcases Text.exists_trimEnd_cons
              (Text.exists_of_trimStart_eq_cons hb).1 xs with
            ⟨kept, hEnd⟩
          have hMiddle :=
            trimStart_trimEnd_append hb ('/' :: y :: ys)
          rw [hEnd, List.cons_append] at hMiddle
          rw [trimEnd_joinChars_of_trimStart hb, hEnd,
            joinChars_of_trimStart hMiddle, List.append_assoc,
            List.cons_append, List.cons_append]

theorem joinPath_assoc
    (a b c : String) :
    joinPath (joinPath a b) c = joinPath a (joinPath b c) := by
  simp only [joinPath, String.toList_ofList, joinChars_assoc]

theorem joinPath_ne_empty
    (base path : String) :
    joinPath base path ≠ "" := by
  intro hEmpty
  apply joinChars_ne_nil base.toList path.toList
  simpa [joinPath] using hEmpty

end Courier.Routing
