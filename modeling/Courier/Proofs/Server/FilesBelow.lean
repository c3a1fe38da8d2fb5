import Courier.Proofs.Source.Paths
import Courier.Proofs.Source.Walks
import Courier.Server.StaticFiles

/-
  Which files a directory is served with. A path is taken when
  it cannot leave the directory, and what it finds stands below
  the directory, under the segments of the path. A path under
  which nothing or a directory stands is answered with 404, and
  one that the system cannot follow with 500.

  Key definitions include:
    * `FileTree.EndsAt`
    * `FileTree.FindsNothing`
    * `FileTree.IsBarred`

  Main statements:
    * `StaticFiles.resolve?_stays_below`
    * `StaticFiles.execute_of_no_file_iff`
-/

namespace Courier

------------------------------------------------------------
-- Paths that stay below the directory
------------------------------------------------------------

namespace StaticFiles

open DiskPath FileTree

theorem resolve?_eq_some_iff
    (directory file path : String) :
    resolve? directory file = some path ↔
      (parts file).all Part.isName = true ∧
        join directory file = path := by
  by_cases h : (parts file).all Part.isName = true <;>
    simp [resolve?, h]

/-
  What is found at a joined path stands below the directory: one
  gets there from the directory by going down, under the
  segments of the path.
-/
theorem exists_descends_of_lookup
    {tree entry : FileTree}
    {directory file : String}
    (hNames : (parts file).all Part.isName = true)
    (hFound : tree.lookup (join directory file) = .ok entry) :
    ∃ place found,
      (Place.top tree).walk (segments directory) = .ok place ∧
      Descends place (segments file) found ∧
      found.entry = entry := by
  rcases (all_isName_parts_iff file).mp hNames with
    ⟨hBelow, _, hParent⟩
  rcases (lookup_eq_ok_iff tree _ entry).mp hFound with
    ⟨_, found, hWalk, hEntry⟩
  have hSegments := Place.walk_filter_of_walk hWalk
  change (Place.top tree).walk
    (segments (join directory file)) = .ok found at hSegments
  rw [segments_join hBelow, Place.walk_append_eq_ok_iff]
    at hSegments
  rcases hSegments with ⟨place, hDirectory, hFile⟩
  have hEntryNames :
      ∀ name ∈ segments file, IsEntryName name := by
    intro name hName
    refine ⟨staysPut_of_mem_segments hName, ?_⟩
    rintro rfl
    exact hParent
      ((parentName_mem_segments_iff file).mp hName)
  exact ⟨place, found, hDirectory,
    Place.descends_of_walk hEntryNames hFile, hEntry⟩

/-
  A path is taken exactly when it starts neither at the root nor
  with a single dot and has no double dot. Its parts are those
  of the directory and then the names of its own segments that
  are neither empty nor a single dot. Whatever is found there,
  in any tree, stands below the directory under these names.
-/
theorem resolve?_stays_below
    (directory file : String) :
    ((resolve? directory file).isSome = true ↔
      Text.startsWith "/" file = false ∧
      (Text.pieces '/' file).head? ≠ some "." ∧
      ".." ∉ Text.pieces '/' file) ∧
    ∀ path, resolve? directory file = some path →
      parts path =
        parts directory ++ (segments file).map Part.name ∧
      segments path = segments directory ++ segments file ∧
      ∀ tree entry, tree.lookup path = .ok entry →
        ∃ place found,
          (Place.top tree).walk (segments directory) =
            .ok place ∧
          Descends place (segments file) found ∧
          found.entry = entry := by
  constructor
  · have hTaken :
        (resolve? directory file).isSome = true ↔
          (parts file).all Part.isName = true := by
      rw [Option.isSome_iff_exists]
      simp only [resolve?_eq_some_iff]
      exact ⟨fun ⟨_, hNames, _⟩ => hNames,
        fun hNames => ⟨_, hNames, rfl⟩⟩
    rw [hTaken, all_isName_parts_iff]
    simp [isAbsolute, startsHere, parentName]
  · intro path hPath
    rcases (resolve?_eq_some_iff directory file path).mp
        hPath with
      ⟨hNames, rfl⟩
    have hBelow := ((all_isName_parts_iff file).mp hNames).1
    exact ⟨parts_join hNames, segments_join hBelow,
      fun _ _ hFound => exists_descends_of_lookup hNames hFound⟩

/- A file in a subdirectory is looked for there. -/
theorem resolve?_stays_below_of_stylesheet :
    resolve? "public" "css//./site.css" =
      some "public/css//./site.css" ∧
    parts "public/css//./site.css" =
      [.name "public", .name "css", .name "site.css"] := by
  have hPath :
      resolve? "public" "css//./site.css" =
        some "public/css//./site.css" := by decide
  have hParts :=
    ((resolve?_stays_below "public" "css//./site.css").2
      _ hPath).1
  exact ⟨hPath, hParts.trans (by decide)⟩

end StaticFiles

------------------------------------------------------------
-- Paths that find no file
------------------------------------------------------------

namespace FileTree

/- The segments of a path lead to an entry. -/
def EndsAt
    (tree : FileTree)
    (path : String)
    (entry : FileTree) : Prop :=
  refusal? path = none ∧
  ∃ place,
    (Place.top tree).walk (Text.pieces '/' path) = .ok place ∧
    place.entry = entry

/- Nothing stands under a path, or a directory. -/
inductive FindsNothing
    (tree : FileTree)
    (path : String) : Prop where
  | empty
      (hPath : path = "")
  | missing
      (hTaken : refusal? path = none)
      (hMissing : tree.Meets path .notFound)
  | directory
      (entries : List (String × FileTree))
      (hEnd : tree.EndsAt path (.directory entries))

/-
  A path cannot be followed: it has a zero character, it or one
  of its names is too long, or it goes on behind a file.
-/
inductive IsBarred
    (tree : FileTree)
    (path : String) : Prop where
  | refused
      (cause : IoError)
      (hRefused : refusal? path = some cause)
      (hOther : cause ≠ .notFound)
  | longName
      (hTaken : refusal? path = none)
      (hLong : tree.Meets path .nameTooLong)
  | behindFile
      (hTaken : refusal? path = none)
      (hFile : tree.Meets path .notDirectory)

theorem refusal?_eq_notFound_iff
    (path : String) :
    refusal? path = some .notFound ↔ path = "" := by
  constructor
  · intro hRefused
    unfold refusal? at hRefused
    split at hRefused
    · cases hRefused
    · split at hRefused
      · next hNone => exact String.isEmpty_iff.mp hNone
      · split at hRefused <;> cases hRefused
  · rintro rfl
    decide

/- Only three obstacles stop a walk. -/
theorem Meets.cause_eq
    {tree : FileTree}
    {path : String}
    {cause : IoError}
    (hMeets : tree.Meets path cause) :
    cause = .notDirectory ∨ cause = .nameTooLong ∨
      cause = .notFound := by
  rcases hMeets with ⟨_, _, _, _, _, _, hObstacle⟩
  cases hObstacle <;> simp

theorem findsNothing_iff
    (tree : FileTree)
    (path : String) :
    tree.FindsNothing path ↔
      tree.lookup path = .error .notFound ∨
        ∃ entries, tree.lookup path = .ok (.directory entries)
    := by
  simp only [lookup_eq_error_iff, lookup_eq_ok_iff,
    refusal?_eq_notFound_iff]
  constructor
  · intro hNothing
    cases hNothing with
    | empty hPath => exact Or.inl (Or.inl hPath)
    | missing hTaken hMissing =>
        exact Or.inl (Or.inr ⟨hTaken, hMissing⟩)
    | directory entries hEnd => exact Or.inr ⟨entries, hEnd⟩
  · rintro ((hPath | ⟨hTaken, hMissing⟩) | ⟨entries, hEnd⟩)
    · exact .empty hPath
    · exact .missing hTaken hMissing
    · exact .directory entries hEnd

theorem isBarred_iff
    (tree : FileTree)
    (path : String) :
    tree.IsBarred path ↔
      ∃ cause, tree.lookup path = .error cause ∧
        cause ≠ .notFound := by
  simp only [lookup_eq_error_iff]
  constructor
  · intro hBarred
    cases hBarred with
    | refused cause hRefused hOther =>
        exact ⟨cause, Or.inl hRefused, hOther⟩
    | longName hTaken hLong =>
        exact ⟨_, Or.inr ⟨hTaken, hLong⟩, by simp⟩
    | behindFile hTaken hFile =>
        exact ⟨_, Or.inr ⟨hTaken, hFile⟩, by simp⟩
  · rintro ⟨cause, hRefused | ⟨hTaken, hMeets⟩, hOther⟩
    · exact .refused cause hRefused hOther
    · rcases hMeets.cause_eq with rfl | rfl | rfl
      · exact .behindFile hTaken hMeets
      · exact .longName hTaken hMeets
      · exact absurd rfl hOther

end FileTree

------------------------------------------------------------
-- Answers without a file
------------------------------------------------------------

namespace StaticFiles

/- A file is sent with the status for success. -/
theorem status_sendFile
    (s : StaticFiles)
    (path : String)
    (content : ByteArray) :
    (s.sendFile path content).status = 200 := by
  unfold sendFile
  split <;> rfl

theorem serveFile_ne_ofStatus
    {status : Nat}
    (hStatus : status ≠ 200)
    (s : StaticFiles)
    (path : String)
    (content : ByteArray)
    (modified : FileTime) :
    s.serveFile path content modified ≠
      .ok (.ofStatus status) := by
  intro hServe
  rw [serveFile, modified.httpDate?_instant] at hServe
  have hSame :=
    congrArg Response.status (Except.ok.inj hServe)
  change (s.sendFile path content).status = status at hSame
  rw [status_sendFile] at hSame
  exact hStatus hSame.symm

/- Without a path that is taken there is nothing to look up. -/
theorem respond_of_none
    {s : StaticFiles}
    {file : Option String}
    (hPath : file.bind (resolve? s.directory) = none) :
    s.respond file = .ok (.ofStatus 404) := by
  rw [respond, hPath]

/- What is answered for a path that is looked up. -/
theorem respond_of_resolve?
    {s : StaticFiles}
    {file : Option String}
    {path : String}
    (hPath : file.bind (resolve? s.directory) = some path) :
    (s.respond file = .ok (.ofStatus 404) ↔
      s.tree.FindsNothing path) ∧
    (s.respond file = .ok (.ofStatus 500) ↔
      s.tree.IsBarred path) := by
  rw [FileTree.findsNothing_iff, FileTree.isBarred_iff,
    respond, hPath]
  dsimp only
  cases s.tree.lookup path with
  | ok entry =>
      cases entry with
      | directory entries => simp [Response.ofStatus]
      | file content modified =>
          have hOther :=
            fun status (h : status ≠ 200) =>
              serveFile_ne_ofStatus h s path content modified
          simp [hOther]
  | error cause =>
      cases cause <;> simp [Response.ofStatus]

/-
  When a request is answered with 404, and when with 500. Both
  answers are empty. It is 404 when no file is named, when the
  path could leave the directory, and when nothing or a
  directory stands there; it is 500 when the path cannot be
  followed, be it only because it goes on behind a file.
-/
theorem execute_of_no_file_iff
    {ω δ : Type}
    (s : StaticFiles)
    (settings : EndpointSettings ω δ)
    (request : Request δ)
    (world : ω) :
    let path? :=
      (request.params.get? fileParam).bind
        (resolve? s.directory)
    let answer := (s.endpoint settings).execute request world
    (answer = (.ok (.ofStatus 404), world) ↔
      path? = none ∨
        ∃ path, path? = some path ∧
          s.tree.FindsNothing path) ∧
    (answer = (.ok (.ofStatus 500), world) ↔
      ∃ path, path? = some path ∧ s.tree.IsBarred path) := by
  intro path? answer
  have hAnswer :
      answer =
        (s.respond (request.params.get? fileParam), world) :=
    rfl
  rw [hAnswer, Prod.mk.injEq, Prod.mk.injEq]
  simp only [and_true]
  cases hPath : path? with
  | none =>
      have hNone := respond_of_none hPath
      simp [hNone, Response.ofStatus]
  | some path =>
      have hLooked := respond_of_resolve? hPath
      simp [hLooked.1, hLooked.2]

/- A directory with one file. -/
def stylesheetOnly : StaticFiles where
  mount := "/static"
  tree := .directory
    [("site.css", .file "a\x7b\x7d".toUTF8 (.ofInstant ⟨5, 0⟩))]
  directory := ""

/-
  A path that goes on behind a file names no file, and still it
  is not answered with 404.
-/
theorem behind_file_is_server_error :
    resolve? stylesheetOnly.directory "site.css/x" =
      some "site.css/x" ∧
    stylesheetOnly.tree.Meets "site.css/x" .notDirectory ∧
    ((stylesheetOnly.endpoint {} : Endpoint Unit Unit).execute
      { head := .ofParts "GET" "/static/site.css/x" [],
        params := ⟨[("file", "site.css/x")]⟩ } ()).1 =
        .ok (.ofStatus 500) := by
  refine ⟨by decide, ?_, ?_⟩
  · refine ⟨["site.css"], "x", [],
      (FileTree.Place.top stylesheetOnly.tree).down
        (.file "a\x7b\x7d".toUTF8 (.ofInstant ⟨5, 0⟩)),
      by decide, ?_,
      .file rfl "x"⟩
    rfl
  · rfl

end StaticFiles

end Courier
