import Courier.Source.FileTree

/-
  Walks along the segments of a path. A walk along two lists of
  segments is a walk along the first and then along the second;
  it fails where its first step fails, and a step fails behind a
  file, at an entry that is missing and at a name that is too
  long. Without a double dot a walk only goes down.

  Key definitions include:
    * `FileTree.Descends`
    * `FileTree.Obstacle`
    * `FileTree.Meets`

  Main statements:
    * `FileTree.Place.walk_append`
    * `FileTree.Place.step_eq_error_iff`
    * `FileTree.Place.walk_eq_error_iff`
    * `FileTree.Place.descends_of_walk`
    * `FileTree.lookup_eq_ok_iff`
    * `FileTree.lookup_eq_error_iff`
-/

namespace Courier.FileTree

------------------------------------------------------------
-- Steps
------------------------------------------------------------

/- A segment that names an entry of a directory. -/
def IsEntryName
    (name : String) : Prop :=
  DiskPath.staysPut name = false ∧ name ≠ DiskPath.parentName

/-
  What stops a walk at a place before the next segment, and the
  error that it is reported with.
-/
inductive Obstacle : Place → String → IoError → Prop where
  | file
      {p : Place}
      {content : ByteArray}
      {modified : FileTime}
      (hEntry : p.entry = .file content modified)
      (name : String) :
      Obstacle p name .notDirectory
  | tooLong
      {p : Place}
      {entries : List (String × FileTree)}
      {name : String}
      (hEntry : p.entry = .directory entries)
      (hName : IsEntryName name)
      (hSize : maxName < name.utf8ByteSize) :
      Obstacle p name .nameTooLong
  | missing
      {p : Place}
      {entries : List (String × FileTree)}
      {name : String}
      (hEntry : p.entry = .directory entries)
      (hName : IsEntryName name)
      (hSize : name.utf8ByteSize ≤ maxName)
      (hMissing : entries.lookup name = none) :
      Obstacle p name .notFound

namespace Place

theorem step_of_staysPut
    {p : Place}
    {entries : List (String × FileTree)}
    {name : String}
    (hEntry : p.entry = .directory entries)
    (hStay : DiskPath.staysPut name = true) :
    p.step name = .ok p := by
  rw [step, hEntry]
  simp [hStay]

/- A step that succeeds was made in a directory. -/
theorem exists_entries_of_step
    {p q : Place}
    {name : String}
    (hStep : p.step name = .ok q) :
    ∃ entries, p.entry = .directory entries := by
  cases hEntry : p.entry with
  | file content modified =>
      rw [step, hEntry] at hStep
      cases hStep
  | directory entries => exact ⟨entries, rfl⟩

/- A name leads down to the entry that it stands for. -/
theorem step_name
    {p : Place}
    {entries : List (String × FileTree)}
    {name : String}
    (hEntry : p.entry = .directory entries)
    (hName : IsEntryName name) :
    p.step name =
      if maxName < name.utf8ByteSize then .error .nameTooLong
      else
        match entries.lookup name with
        | none => .error .notFound
        | some child => .ok (p.down child) := by
  have hStays : ¬ DiskPath.staysPut name = true := by
    simp [hName.1]
  rw [step, hEntry]
  exact (if_neg hStays).trans (if_neg hName.2)

/- A step fails for its obstacle and for nothing else. -/
theorem step_eq_error_iff
    (p : Place)
    (name : String)
    (cause : IoError) :
    p.step name = .error cause ↔ Obstacle p name cause := by
  constructor
  · intro hFails
    cases hEntry : p.entry with
    | file content modified =>
        rw [step, hEntry] at hFails
        cases hFails
        exact .file hEntry name
    | directory entries =>
        by_cases hName : IsEntryName name
        · rw [step_name hEntry hName] at hFails
          by_cases hSize : maxName < name.utf8ByteSize
          · rw [if_pos hSize] at hFails
            cases hFails
            exact .tooLong hEntry hName hSize
          · rw [if_neg hSize] at hFails
            cases hChild : entries.lookup name with
            | none =>
                rw [hChild] at hFails
                cases hFails
                exact .missing hEntry hName
                  (Nat.le_of_not_lt hSize) hChild
            | some child =>
                rw [hChild] at hFails
                cases hFails
        · -- neither a single nor a double dot can fail
          rw [step, hEntry] at hFails
          by_cases hStay : DiskPath.staysPut name = true
          · simp [hStay] at hFails
          · have hParent : name = DiskPath.parentName := by
              simpa [IsEntryName, hStay] using hName
            simp only [hStay, if_pos hParent] at hFails
            cases hFails
  · intro hObstacle
    cases hObstacle with
    | file hEntry => rw [step, hEntry]
    | tooLong hEntry hName hSize =>
        rw [step_name hEntry hName, if_pos hSize]
    | missing hEntry hName hSize hMissing =>
        rw [step_name hEntry hName,
          if_neg (Nat.not_lt.mpr hSize), hMissing]

------------------------------------------------------------
-- Walks
------------------------------------------------------------

/- A walk goes on from where its first part has led. -/
theorem walk_append
    (p : Place)
    (before after : List String) :
    p.walk (before ++ after) =
      (p.walk before).bind (·.walk after) := by
  induction before generalizing p with
  | nil => rfl
  | cons name rest ih =>
      rw [List.cons_append, walk, walk]
      cases p.step name with
      | error cause => rfl
      | ok q => exact ih q

theorem walk_cons_eq_ok_iff
    (p r : Place)
    (name : String)
    (rest : List String) :
    p.walk (name :: rest) = .ok r ↔
      ∃ q, p.step name = .ok q ∧ q.walk rest = .ok r := by
  rw [walk]
  cases p.step name <;> simp

/- A walk succeeds when both of its parts do. -/
theorem walk_append_eq_ok_iff
    (p r : Place)
    (before after : List String) :
    p.walk (before ++ after) = .ok r ↔
      ∃ q, p.walk before = .ok q ∧ q.walk after = .ok r := by
  rw [walk_append]
  cases p.walk before <;> simp [Except.bind]

/- A walk fails where the first of its steps fails. -/
theorem walk_eq_error_iff
    (p : Place)
    (segments : List String)
    (cause : IoError) :
    p.walk segments = .error cause ↔
      ∃ before name after q,
        segments = before ++ name :: after ∧
        p.walk before = .ok q ∧ Obstacle q name cause := by
  constructor
  · intro hFails
    induction segments generalizing p with
    | nil => cases hFails
    | cons name rest ih =>
        rw [walk] at hFails
        cases hStep : p.step name with
        | error first =>
            rw [hStep] at hFails
            cases hFails
            exact ⟨[], name, rest, p, rfl, rfl,
              (step_eq_error_iff p name cause).mp hStep⟩
        | ok q =>
            rw [hStep] at hFails
            rcases ih q hFails with
              ⟨before, next, after, r, hRest, hWalk, hStop⟩
            refine ⟨name :: before, next, after, r,
              by rw [hRest, List.cons_append], ?_, hStop⟩
            exact (walk_cons_eq_ok_iff p r name before).mpr
              ⟨q, hStep, hWalk⟩
  · rintro ⟨before, name, after, q, rfl, hWalk, hStop⟩
    have hStep := (step_eq_error_iff q name cause).mpr hStop
    rw [walk_append, hWalk]
    change q.walk (name :: after) = .error cause
    rw [walk, hStep]

/- Segments that stay where they are change no walk. -/
theorem walk_filter_of_walk
    {p r : Place}
    {names : List String}
    (hWalk : p.walk names = .ok r) :
    p.walk (names.filter (!DiskPath.staysPut ·)) = .ok r := by
  induction names generalizing p with
  | nil => exact hWalk
  | cons name rest ih =>
      rcases (walk_cons_eq_ok_iff p r name rest).mp hWalk with
        ⟨q, hStep, hRest⟩
      by_cases hStay : DiskPath.staysPut name = true
      · rcases exists_entries_of_step hStep with
          ⟨entries, hEntry⟩
        rw [step_of_staysPut hEntry hStay, Except.ok.injEq]
          at hStep
        subst hStep
        rw [List.filter_cons_of_neg (by simp [hStay])]
        exact ih hRest
      · rw [List.filter_cons_of_pos (by simp [hStay])]
        exact (walk_cons_eq_ok_iff p r name _).mpr
          ⟨q, hStep, ih hRest⟩

end Place

------------------------------------------------------------
-- Going down
------------------------------------------------------------

/- The names by which one goes down from a place to another. -/
inductive Descends : Place → List String → Place → Prop where
  | here
      (p : Place) :
      Descends p [] p
  | down
      {p q : Place}
      {entries : List (String × FileTree)}
      {name : String}
      {names : List String}
      {child : FileTree}
      (hEntry : p.entry = .directory entries)
      (hChild : entries.lookup name = some child)
      (hRest : Descends (p.down child) names q) :
      Descends p (name :: names) q

namespace Place

/- A walk along names only goes down. -/
theorem descends_of_walk
    {p q : Place}
    {names : List String}
    (hNames : ∀ name ∈ names, IsEntryName name)
    (hWalk : p.walk names = .ok q) :
    Descends p names q := by
  induction names generalizing p with
  | nil =>
      cases hWalk
      exact .here _
  | cons name rest ih =>
      rw [List.forall_mem_cons] at hNames
      rcases (walk_cons_eq_ok_iff p q name rest).mp hWalk with
        ⟨next, hStep, hRest⟩
      rcases exists_entries_of_step hStep with
        ⟨entries, hEntry⟩
      rw [step_name hEntry hNames.1] at hStep
      split at hStep
      · cases hStep
      · split at hStep
        · cases hStep
        · next child hChild =>
            cases hStep
            exact .down hEntry hChild (ih hNames.2 hRest)

end Place

------------------------------------------------------------
-- Looking up
------------------------------------------------------------

/- A walk along the segments of a path is stopped. -/
def Meets
    (tree : FileTree)
    (path : String)
    (cause : IoError) : Prop :=
  ∃ before name after place,
    Text.pieces '/' path = before ++ name :: after ∧
    (Place.top tree).walk before = .ok place ∧
    Obstacle place name cause

/- What is found is what stands where the segments lead. -/
theorem lookup_eq_ok_iff
    (tree : FileTree)
    (path : String)
    (entry : FileTree) :
    tree.lookup path = .ok entry ↔
      refusal? path = none ∧
      ∃ place,
        (Place.top tree).walk (Text.pieces '/' path) =
          .ok place ∧
        place.entry = entry := by
  rw [lookup]
  cases refusal? path with
  | some cause => simp
  | none =>
      cases (Place.top tree).walk (Text.pieces '/' path) <;>
        simp [Except.map]

/- A path is refused, or the walk along it is stopped. -/
theorem lookup_eq_error_iff
    (tree : FileTree)
    (path : String)
    (cause : IoError) :
    tree.lookup path = .error cause ↔
      refusal? path = some cause ∨
      (refusal? path = none ∧ tree.Meets path cause) := by
  rw [Meets, ← Place.walk_eq_error_iff, lookup]
  cases refusal? path with
  | some first => simp
  | none =>
      cases (Place.top tree).walk (Text.pieces '/' path) <;>
        simp [Except.map]

end Courier.FileTree
