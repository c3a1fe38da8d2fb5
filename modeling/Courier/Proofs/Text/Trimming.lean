import Courier.Text.Basic
import Mathlib.Data.List.TakeWhile

/-
  Trimming a text at its ends. What is trimmed off plays no part
  in the result, and a character that is kept protects all that
  stands on its other side.

  Main statements:
    * `Text.trimStart_append`
    * `Text.trimEnd_append`
    * `Text.trimEnd_append_of_ne_nil`
    * `Text.trimBlanks_surrounded`
-/

namespace Courier.Text

variable {drop : Char → Bool}

------------------------------------------------------------
-- At the start
------------------------------------------------------------

theorem trimStart_append
    {front : List Char}
    (hFront : ∀ c ∈ front, drop c = true)
    (cs : List Char) :
    trimStart drop (front ++ cs) = trimStart drop cs :=
  List.dropWhile_append_of_pos hFront

/- A text that starts with a kept character stays as it is. -/
theorem trimStart_eq_self
    {cs : List Char}
    (hHead : ∀ c ∈ cs.head?, drop c = false) :
    trimStart drop cs = cs := by
  cases cs with
  | nil => rfl
  | cons c rest =>
      have hKept := hHead c rfl
      exact List.dropWhile_cons_of_neg (by simp [hKept])

/- The first kept character and all behind it are kept. -/
theorem trimStart_append_cons
    {front : List Char}
    (hFront : ∀ c ∈ front, drop c = true)
    {c : Char}
    (hKept : drop c = false)
    (rest : List Char) :
    trimStart drop (front ++ c :: rest) = c :: rest := by
  have hHead : ∀ d ∈ (c :: rest).head?, drop d = false := by
    simpa using hKept
  rw [trimStart_append hFront, trimStart_eq_self hHead]

/- A trimmed text is what stands behind the trimmed part. -/
theorem exists_of_trimStart_eq_cons
    {cs rest : List Char}
    {c : Char}
    (hTrim : trimStart drop cs = c :: rest) :
    drop c = false ∧
      ∃ front, (∀ d ∈ front, drop d = true) ∧
        cs = front ++ c :: rest := by
  have hNone : cs.dropWhile drop ≠ [] := by
    rw [← trimStart, hTrim]
    exact List.cons_ne_nil c rest
  have hHead : (cs.dropWhile drop).head hNone = c := by
    simp only [← trimStart.eq_def, hTrim, List.head_cons]
  refine ⟨hHead ▸ List.head_dropWhile_not drop hNone,
    cs.takeWhile drop, fun _ hd => List.mem_takeWhile_imp hd,
    ?_⟩
  rw [← hTrim]
  exact List.takeWhile_append_dropWhile.symm

------------------------------------------------------------
-- At the end
------------------------------------------------------------

/- A text is trimmed to a start of it. -/
theorem trimEnd_prefix_self
    (drop : Char → Bool)
    (cs : List Char) :
    trimEnd drop cs <+: cs := by
  have hSuffix :
      cs.reverse.dropWhile drop <:+ cs.reverse :=
    List.dropWhile_suffix drop
  simpa [trimEnd] using List.reverse_prefix.mpr hSuffix

theorem trimEnd_append
    {back : List Char}
    (hBack : ∀ c ∈ back, drop c = true)
    (cs : List Char) :
    trimEnd drop (cs ++ back) = trimEnd drop cs := by
  have hReverse : ∀ c ∈ back.reverse, drop c = true :=
    fun c hc => hBack c (List.mem_reverse.mp hc)
  rw [trimEnd, List.reverse_append,
    List.dropWhile_append_of_pos hReverse, trimEnd]

/- A text that ends with a kept character stays as it is. -/
theorem trimEnd_eq_self
    {cs : List Char}
    (hLast : ∀ c ∈ cs.getLast?, drop c = false) :
    trimEnd drop cs = cs := by
  rw [← List.head?_reverse] at hLast
  have hReverse : cs.reverse.dropWhile drop = cs.reverse :=
    trimStart_eq_self hLast
  rw [trimEnd, hReverse, List.reverse_reverse]

/- Nothing is trimmed before a character that is kept. -/
theorem trimEnd_append_of_ne_nil
    {cs : List Char}
    (hKept : trimEnd drop cs ≠ [])
    (front : List Char) :
    trimEnd drop (front ++ cs) = front ++ trimEnd drop cs := by
  unfold trimEnd at hKept ⊢
  rw [ne_eq, List.reverse_eq_nil_iff] at hKept
  rw [List.reverse_append, List.dropWhile_append, if_neg]
  · simp
  · simpa using hKept

/- A first character that is kept stays the first. -/
theorem exists_trimEnd_cons
    {c : Char}
    (hKept : drop c = false)
    (cs : List Char) :
    ∃ rest, trimEnd drop (c :: cs) = c :: rest := by
  unfold trimEnd
  rw [List.reverse_cons, List.dropWhile_append]
  split
  · exact ⟨[], by simp [hKept]⟩
  · exact ⟨_, by rw [List.reverse_append]; rfl⟩

------------------------------------------------------------
-- At both ends
------------------------------------------------------------

/- Trimming adds no characters. -/
theorem trimBlanks_subset
    (cs : List Char) :
    trimBlanks cs ⊆ cs := by
  have hEnd := trimEnd_prefix_self isBlank (trimStart isBlank cs)
  have hStart : trimStart isBlank cs <:+ cs :=
    List.dropWhile_suffix isBlank
  exact fun _ hc => hStart.subset (hEnd.subset hc)

/- Blanks around a text without blanks at its ends. -/
theorem trimBlanks_surrounded
    {before cs after : List Char}
    (hBefore : ∀ c ∈ before, isBlank c = true)
    (hHead : ∀ c ∈ cs.head?, isBlank c = false)
    (hLast : ∀ c ∈ cs.getLast?, isBlank c = false)
    (hAfter : ∀ c ∈ after, isBlank c = true) :
    trimBlanks (before ++ cs ++ after) = cs := by
  have hStart :
      trimStart isBlank (before ++ (cs ++ after)) =
        trimStart isBlank (cs ++ after) :=
    trimStart_append hBefore _
  rw [trimBlanks, List.append_assoc, hStart]
  cases cs with
  | nil =>
      have hNothing : trimStart isBlank after = [] :=
        List.dropWhile_eq_nil_iff.mpr hAfter
      rw [List.nil_append, hNothing]
      rfl
  | cons c rest =>
      have hFirst :
          ∀ d ∈ (c :: rest ++ after).head?, isBlank d = false :=
        hHead
      rw [trimStart_eq_self hFirst, trimEnd_append hAfter,
        trimEnd_eq_self hLast]

end Courier.Text
