import Mathlib.Data.List.Basic
import Courier.Source.Path

/-
  Paths and their parts. A path that is joined to a directory
  has the segments of both, one after the other, and starts
  where the directory starts.

  Main statements:
    * `DiskPath.all_isName_parts_iff`
    * `DiskPath.segments_join`
    * `DiskPath.parts_join`
-/

namespace Courier.DiskPath

------------------------------------------------------------
-- Segments
------------------------------------------------------------

theorem pieces_ne_nil
    (sep : Char)
    (s : String) :
    Text.pieces sep s ≠ [] := by
  simp [Text.pieces, List.splitOn_ne_nil]

/- A separator parts a text in two. -/
theorem pieces_append_singleton_append
    (sep : Char)
    (before after : String) :
    Text.pieces sep (before ++ String.ofList [sep] ++ after) =
      Text.pieces sep before ++ Text.pieces sep after := by
  simp [Text.pieces, List.splitOn_append_cons_self]

/- A double dot does not stay where it is. -/
theorem parentName_mem_segments_iff
    (path : String) :
    parentName ∈ segments path ↔
      parentName ∈ Text.pieces '/' path := by
  have hMoves : staysPut parentName = false := by decide
  simp [segments, hMoves]

theorem staysPut_of_mem_segments
    {path name : String}
    (hName : name ∈ segments path) :
    staysPut name = false := by
  simpa using (List.mem_filter.mp hName).2

------------------------------------------------------------
-- Parts
------------------------------------------------------------

theorem isName_partOf_iff
    (segment : String) :
    (partOf segment).isName = true ↔ segment ≠ parentName := by
  by_cases h : segment = parentName <;>
    simp [partOf, h, Part.isName]

theorem all_isName_lead_iff
    (path : String) :
    (lead path).all Part.isName = true ↔
      isAbsolute path = false ∧ startsHere path = false := by
  cases hRoot : isAbsolute path <;>
    cases hHere : startsHere path <;>
    simp [lead, hRoot, hHere, Part.isName]

/-
  A path names nothing but entries exactly when it starts
  neither at the root nor with a single dot and has no double
  dot.
-/
theorem all_isName_parts_iff
    (path : String) :
    (parts path).all Part.isName = true ↔
      isAbsolute path = false ∧ startsHere path = false ∧
        parentName ∉ Text.pieces '/' path := by
  have hSegments :
      ((segments path).map partOf).all Part.isName = true ↔
        parentName ∉ segments path := by
    simp only [List.all_map, List.all_eq_true,
      Function.comp_apply, isName_partOf_iff]
    exact ⟨fun h hMem => h _ hMem rfl,
      fun h name hName hParent => h (hParent ▸ hName)⟩
  rw [parts, List.all_append, Bool.and_eq_true,
    all_isName_lead_iff, hSegments,
    parentName_mem_segments_iff, and_assoc]

/- Without a double dot the segments are names. -/
theorem map_partOf_eq_map_name
    {names : List String}
    (hNames : parentName ∉ names) :
    names.map partOf = names.map Part.name := by
  apply List.map_congr_left
  intro name hName
  have hOther : name ≠ parentName := by
    rintro rfl
    exact hNames hName
  rw [partOf, if_neg hOther]

------------------------------------------------------------
-- Joining
------------------------------------------------------------

/-
  How a join parts into segments: those of the directory, but
  for an empty one that its last slash leaves behind, and those
  of the path.
-/
theorem exists_pieces_join
    {directory path : String}
    (hSome : directory ≠ "")
    (hBelow : isAbsolute path = false) :
    ∃ before last,
      before ≠ [] ∧
      (∀ name ∈ last, staysPut name = true) ∧
      Text.pieces '/' directory = before ++ last ∧
      Text.pieces '/' (join directory path) =
        before ++ Text.pieces '/' path := by
  have hText : directory.isEmpty = false := by
    simpa using hSome
  have hSlash : "/" = String.ofList ['/'] := rfl
  by_cases hLast : directory.toList.getLast? = some '/'
  · -- the directory brings its own slash
    rcases List.getLast?_eq_some_iff.mp hLast with
      ⟨cs, hChars⟩
    have hDirectory :
        directory =
          String.ofList cs ++ String.ofList ['/'] := by
      rw [← String.ofList_append, ← hChars,
        String.ofList_toList]
    refine ⟨Text.pieces '/' (String.ofList cs), [""],
      pieces_ne_nil _ _, by simp [staysPut], ?_, ?_⟩
    · have hParted := pieces_append_singleton_append '/'
        (String.ofList cs) ""
      rw [String.append_empty, ← hDirectory] at hParted
      exact hParted
    · rw [join, hBelow, hText, if_pos hLast]
      simp only [Bool.false_eq_true, if_false]
      rw [hDirectory, pieces_append_singleton_append]
  · refine ⟨Text.pieces '/' directory, [],
      pieces_ne_nil _ _, by simp, by simp, ?_⟩
    rw [join, hBelow, hText, if_neg hLast]
    simp only [Bool.false_eq_true, if_false]
    rw [hSlash, pieces_append_singleton_append]

/- A join has the segments of both, one after the other. -/
theorem segments_join
    {directory path : String}
    (hBelow : isAbsolute path = false) :
    segments (join directory path) =
      segments directory ++ segments path := by
  by_cases hSome : directory = ""
  · subst hSome
    have hNone : segments "" = [] := by decide
    simp [join, hBelow, hNone]
  · rcases exists_pieces_join hSome hBelow with
      ⟨before, last, _, hStay, hDirectory, hJoin⟩
    have hLast : last.filter (!staysPut ·) = [] := by
      simpa [List.filter_eq_nil_iff] using hStay
    simp only [segments, hDirectory, hJoin,
      List.filter_append, hLast, List.append_nil]

/- A join goes on where the text of the directory ends. -/
theorem prefix_join
    {directory path : String}
    (hBelow : isAbsolute path = false) :
    directory.toList <+: (join directory path).toList := by
  rw [join, hBelow]
  simp only [Bool.false_eq_true, if_false]
  split
  · next hNone =>
      rw [String.isEmpty_iff.mp hNone]
      exact List.nil_prefix
  · split
    · rw [String.toList_append]
      exact List.prefix_append _ _
    · rw [String.append_assoc, String.toList_append]
      exact List.prefix_append _ _

/- More text at its end leaves a path where it starts. -/
theorem isAbsolute_of_prefix
    {directory path : String}
    (hSome : directory ≠ "")
    (hPrefix : directory.toList <+: path.toList) :
    isAbsolute path = isAbsolute directory := by
  rcases hPrefix with ⟨rest, hRest⟩
  cases hChars : directory.toList with
  | nil => exact absurd (String.toList_eq_nil_iff.mp hChars) hSome
  | cons c cs =>
      simp [isAbsolute, Text.startsWith, ← hRest, hChars,
        List.isPrefixOf]

/- A join starts where the directory starts. -/
theorem lead_join
    {directory path : String}
    (hBelow : isAbsolute path = false)
    (hNamed : startsHere path = false) :
    lead (join directory path) = lead directory := by
  by_cases hSome : directory = ""
  · subst hSome
    have hNone : lead "" = [] := by decide
    have hJoin : join "" path = path := by
      simp [join, hBelow]
    rw [hNone, hJoin, lead, hBelow, hNamed]
    rfl
  · have hRoot :=
      isAbsolute_of_prefix hSome
        (prefix_join hBelow)
    have hHere :
        startsHere (join directory path) =
          startsHere directory := by
      rcases exists_pieces_join hSome hBelow with
        ⟨before, last, hStart, _, hDirectory, hJoin⟩
      rw [startsHere, startsHere, hDirectory, hJoin,
        List.head?_append_of_ne_nil before hStart,
        List.head?_append_of_ne_nil before hStart]
    rw [lead, lead, hRoot, hHere]

/-
  The parts of a join: those of the directory, followed by the
  segments of the path as names.
-/
theorem parts_join
    {directory path : String}
    (hNames : (parts path).all Part.isName = true) :
    parts (join directory path) =
      parts directory ++ (segments path).map Part.name := by
  rcases (all_isName_parts_iff path).mp hNames with
    ⟨hBelow, hNamed, hParent⟩
  rw [← parentName_mem_segments_iff] at hParent
  rw [parts, parts, lead_join hBelow hNamed,
    segments_join hBelow, List.map_append,
    map_partOf_eq_map_name hParent, List.append_assoc]

end Courier.DiskPath
