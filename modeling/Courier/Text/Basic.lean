/-
  This file defines the operations on plain text that header
  values and paths are read with: cutting at a separator,
  trimming, and substring search.

  Text is a `String` at the interface and a list of characters
  inside, so that every operation is a recursion on the data.

  Key definitions include:
    * `Text.cutFirst`
    * `Text.pieces`
    * `Text.trimStart`
    * `Text.trimEnd`
    * `Text.trimBlanks`
    * `Text.occursIn`
    * `Text.startsWith`
    * `Text.contains`
    * `Text.afterStart?`

  Lower case is that of ASCII, and `Text.toLower_toLower` says
  that lowering twice is lowering once.
-/

namespace Courier.Text

------------------------------------------------------------
-- Lower case
------------------------------------------------------------

/- A lowered character stays as it is. -/
theorem toLower_toLower_char
    (c : Char) :
    c.toLower.toLower = c.toLower := by
  by_cases h : c.val ≥ 'A'.val ∧ c.val ≤ 'Z'.val
  · have hLow : c.toLower.val = c.val + ('a'.val - 'A'.val) :=
      congrArg Char.val (dif_pos h)
    have hNot :
        ¬ (c.toLower.val ≥ 'A'.val ∧
          c.toLower.val ≤ 'Z'.val) := by
      rw [hLow]
      simp only [ge_iff_le, UInt32.le_iff_toNat_le,
        UInt32.toNat_add] at h ⊢
      simp at h ⊢
      omega
    exact dif_neg hNot
  · have hSame : c.toLower = c := dif_neg h
    rw [hSame, hSame]

/- A lowered text stays as it is. -/
@[simp] theorem toLower_toLower
    (s : String) :
    s.toLower.toLower = s.toLower := by
  have hTwice : Char.toLower ∘ Char.toLower = Char.toLower :=
    funext toLower_toLower_char
  change (s.map Char.toLower).map Char.toLower =
    s.map Char.toLower
  rw [String.map_map, hTwice]

------------------------------------------------------------
-- Cutting
------------------------------------------------------------

/-
  What stands before the first separator and, when there is
  one, what stands after it.
-/
def cutFirst
    {α : Type}
    [DecidableEq α]
    (sep : α) : List α → List α × Option (List α)
  | [] => ([], none)
  | c :: rest =>
      if c = sep then
        ([], some rest)
      else
        let (before, after) := cutFirst sep rest
        (c :: before, after)

/-
  The pieces between the separators, in order. A text with `n`
  separators has `n + 1` pieces, empty ones included.
-/
def pieces
    (sep : Char)
    (s : String) : List String :=
  (s.toList.splitOn sep).map String.ofList

/- The separator ends the first piece, so it is not in it. -/
theorem not_mem_cutFirst
    {α : Type}
    [DecidableEq α]
    (sep : α)
    (cs : List α) :
    sep ∉ (cutFirst sep cs).1 := by
  induction cs with
  | nil => simp [cutFirst]
  | cons c rest ih =>
      by_cases h : c = sep
      · simp [cutFirst, h]
      · simp [cutFirst, h, ih, Ne.symm h]

/- A text is what its two parts and the separator make up. -/
theorem eq_of_cutFirst
    {α : Type}
    [DecidableEq α]
    (sep : α)
    (cs : List α) :
    cs = (cutFirst sep cs).1
      ++ ((cutFirst sep cs).2.map (sep :: ·)).getD [] := by
  induction cs with
  | nil => rfl
  | cons c rest ih =>
      by_cases h : c = sep
      · simp [cutFirst, h]
      · simpa [cutFirst, h] using ih

theorem cutFirst_of_not_mem
    {α : Type}
    [DecidableEq α]
    {sep : α}
    {cs : List α}
    (hSep : sep ∉ cs) :
    cutFirst sep cs = (cs, none) := by
  induction cs with
  | nil => rfl
  | cons c rest ih =>
      rw [List.mem_cons, not_or] at hSep
      simp [cutFirst, Ne.symm hSep.1, ih hSep.2]

theorem cutFirst_append_cons
    {α : Type}
    [DecidableEq α]
    {sep : α}
    {cs : List α}
    (hSep : sep ∉ cs)
    (rest : List α) :
    cutFirst sep (cs ++ sep :: rest) = (cs, some rest) := by
  induction cs with
  | nil => simp [cutFirst]
  | cons c cs ih =>
      rw [List.mem_cons, not_or] at hSep
      simp [cutFirst, Ne.symm hSep.1, ih hSep.2]

------------------------------------------------------------
-- Trimming
------------------------------------------------------------

/- The blanks that header text may hold. -/
def isBlank
    (c : Char) : Bool :=
  c = ' ' || c = '\t'

/- The text without its leading characters of a class. -/
def trimStart
    (drop : Char → Bool)
    (cs : List Char) : List Char :=
  cs.dropWhile drop

/- The text without its trailing characters of a class. -/
def trimEnd
    (drop : Char → Bool)
    (cs : List Char) : List Char :=
  (cs.reverse.dropWhile drop).reverse

/- The text without the blanks around it. -/
def trimBlanks
    (cs : List Char) : List Char :=
  trimEnd isBlank (trimStart isBlank cs)

------------------------------------------------------------
-- Search
------------------------------------------------------------

/- True when the needle stands somewhere in the text. -/
def occursIn
    (needle : List Char) : List Char → Bool
  | [] => needle.isEmpty
  | c :: rest =>
      needle.isPrefixOf (c :: rest) || occursIn needle rest

/- True when the text starts with the given one. -/
def startsWith
    (start s : String) : Bool :=
  start.toList.isPrefixOf s.toList

/- True when the first text stands somewhere in the second. -/
def contains
    (needle s : String) : Bool :=
  occursIn needle.toList s.toList

/- The text after a given start, when it starts so. -/
def afterStart?
    (start s : String) : Option String :=
  if startsWith start s then
    some (String.ofList (s.toList.drop start.length))
  else
    none

theorem startsWith_iff
    (start s : String) :
    startsWith start s = true ↔ start.toList <+: s.toList := by
  simp [startsWith]

/- What stands after a start is the rest of the text. -/
theorem afterStart?_eq_some_iff
    (start s rest : String) :
    afterStart? start s = some rest ↔
      s.toList = start.toList ++ rest.toList := by
  unfold afterStart?
  by_cases hStart : startsWith start s
  · rw [if_pos hStart, Option.some.injEq]
    rcases (startsWith_iff start s).mp hStart with ⟨cs, hcs⟩
    have hDrop : s.toList.drop start.length = cs := by
      rw [← hcs, ← String.length_toList, List.drop_left]
    rw [hDrop, ← hcs, List.append_cancel_left_eq]
    constructor
    · rintro rfl
      simp
    · intro h
      simp [h]
  · rw [if_neg hStart]
    constructor
    · intro h
      cases h
    · intro h
      exact absurd
        ((startsWith_iff start s).mpr ⟨rest.toList, h.symm⟩)
        hStart

/- `occursIn` is the infix relation. -/
theorem occursIn_iff
    (needle cs : List Char) :
    occursIn needle cs = true ↔ needle <:+: cs := by
  induction cs with
  | nil => simp [occursIn]
  | cons c rest ih =>
      simp [occursIn, ih, List.infix_cons_iff]

end Courier.Text
