import Courier.Text.Basic
import Mathlib.Data.List.Basic

/-
  Cutting a text at every occurrence of a separator, each of
  them found from the left behind the one before. What is put
  together with a separator whose first character stands in none
  of the pieces is cut into the same pieces again.

  Key definitions include:
    * `Text.cutAll`
    * `Text.piecesAt`

  Main statements:
    * `Text.cutAll_intercalate`
    * `Text.piecesAt_intercalate`
    * `Text.not_mem_intercalate`
-/

namespace Courier.Text

/-
  The pieces of a text between the occurrences of a separator,
  after passing over so many characters. Those of a separator
  that was found are passed over.
-/
def cutAll
    (sep : List Char) : Nat → List Char → List (List Char)
  | _, [] => [[]]
  | n + 1, _ :: rest => cutAll sep n rest
  | 0, c :: rest =>
      if sep.isPrefixOf (c :: rest) then
        [] :: cutAll sep (sep.length - 1) rest
      else
        (cutAll sep 0 rest).modifyHead (c :: ·)

/- The pieces of a text between the occurrences of another. -/
def piecesAt
    (sep s : String) : List String :=
  (cutAll sep.toList 0 s.toList).map String.ofList

variable {c : Char} {rest : List Char}

/- Passing over characters is dropping them. -/
theorem cutAll_eq_cutAll_drop
    (sep : List Char)
    (n : Nat)
    (cs : List Char) :
    cutAll sep n cs = cutAll sep 0 (cs.drop n) := by
  induction n generalizing cs with
  | zero => rfl
  | succ n ih =>
      cases cs with
      | nil => rfl
      | cons c cs => exact ih cs

/- A separator is cut out where it stands first. -/
theorem cutAll_append
    (after : List Char) :
    cutAll (c :: rest) 0 (c :: rest ++ after) =
      [] :: cutAll (c :: rest) 0 after := by
  have hPrefix :
      (c :: rest).isPrefixOf (c :: (rest ++ after)) = true := by
    rw [List.isPrefixOf_iff_prefix, ← List.cons_append]
    exact List.prefix_append _ _
  rw [List.cons_append, cutAll, if_pos hPrefix,
    cutAll_eq_cutAll_drop, List.length_cons,
    Nat.add_sub_cancel, List.drop_left]

/- No separator begins in a piece without its first character. -/
theorem cutAll_append_of_not_mem
    {piece : List Char}
    (hPiece : c ∉ piece)
    (after : List Char) :
    cutAll (c :: rest) 0 (piece ++ after) =
      (cutAll (c :: rest) 0 after).modifyHead (piece ++ ·) := by
  induction piece with
  | nil =>
      rw [List.nil_append]
      cases cutAll (c :: rest) 0 after <;> rfl
  | cons d piece ih =>
      rw [List.mem_cons, not_or] at hPiece
      have hOther :
          ¬ (c :: rest).isPrefixOf (d :: (piece ++ after)) := by
        rw [List.isPrefixOf_iff_prefix, List.cons_prefix_cons]
        exact fun hPrefix => hPiece.1 hPrefix.1
      rw [List.cons_append, cutAll, if_neg hOther,
        ih hPiece.2, List.modifyHead_modifyHead]
      rfl

/- Pieces that are put together are found again. -/
theorem cutAll_intercalate
    {pieces : List (List Char)}
    (hNone : pieces ≠ [])
    (hPieces : ∀ piece ∈ pieces, c ∉ piece) :
    cutAll (c :: rest) 0 ((c :: rest).intercalate pieces) =
      pieces := by
  induction pieces with
  | nil => exact absurd rfl hNone
  | cons piece later ih =>
      have hPiece : c ∉ piece := hPieces piece List.mem_cons_self
      cases later with
      | nil =>
          have hAlone :
              cutAll (c :: rest) 0 (piece ++ []) = [piece ++ []] :=
            cutAll_append_of_not_mem hPiece []
          rw [List.append_nil] at hAlone
          simpa [List.intercalate] using hAlone
      | cons second later =>
          have hLater :=
            ih (List.cons_ne_nil _ _)
              fun p hp => hPieces p (List.mem_cons_of_mem _ hp)
          have hText :
              (c :: rest).intercalate (piece :: second :: later) =
                piece ++ (c :: rest ++
                  (c :: rest).intercalate (second :: later)) := by
            simp [List.intercalate]
          rw [hText, cutAll_append_of_not_mem hPiece,
            cutAll_append, hLater]
          simp

/- Pieces without the start of the separator are found again. -/
theorem piecesAt_intercalate
    {sep : String}
    (hSep : sep.toList = c :: rest)
    {pieces : List String}
    (hNone : pieces ≠ [])
    (hPieces : ∀ piece ∈ pieces, c ∉ piece.toList) :
    piecesAt sep (sep.intercalate pieces) = pieces := by
  have hLists :
      cutAll (c :: rest) 0
          ((c :: rest).intercalate (pieces.map String.toList)) =
        pieces.map String.toList := by
    apply cutAll_intercalate
    · simpa using hNone
    · simpa using hPieces
  rw [piecesAt, String.toList_intercalate, hSep, hLists,
    List.map_map]
  simp

/- What is put together holds what its parts hold, no more. -/
theorem not_mem_intercalate
    {sep : String}
    (hSep : c ∉ sep.toList)
    {pieces : List String}
    (hPieces : ∀ piece ∈ pieces, c ∉ piece.toList) :
    c ∉ (sep.intercalate pieces).toList := by
  induction pieces with
  | nil => simp [String.intercalate_nil]
  | cons first later ih =>
      have hFirst := hPieces first List.mem_cons_self
      have hLater :=
        ih fun p hp => hPieces p (List.mem_cons_of_mem _ hp)
      cases later with
      | nil => simpa using hFirst
      | cons second later =>
          simp only [String.intercalate_cons_cons,
            String.toList_append, List.mem_append, not_or]
          exact ⟨⟨hFirst, hSep⟩, hLater⟩

/- A comma without a blank cuts nothing. -/
example :
    piecesAt ", " "a,, b,c, " = ["a,", "b,c", ""] := by
  decide

end Courier.Text
