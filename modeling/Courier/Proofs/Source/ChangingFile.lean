import Courier.Proofs.Source.File
import Mathlib.Data.List.Induction

/-
  Files that change while they are read. A source keeps to the
  length that the file had when it was opened: it answers what
  the file holds when it is read, gives up where the file ends
  early, and never looks behind its length.

  Key definitions include:
    * `FileSource.Step`
    * `FileSource.step`
    * `FileSource.afterSteps`
    * `FileSource.heldAfter`
    * `FileSource.Moves`
    * `FileSource.AnswersHeld`
    * `FileSource.Keeps`

  Main statements:
    * `FileSource.moves_step`
    * `FileSource.answersHeld_of_open`
    * `FileSource.keeps_afterSteps`
-/

namespace Courier.FileSource

------------------------------------------------------------
-- Steps
------------------------------------------------------------

/-
  A call on the source of a file, or a change of what the file
  holds behind its back: cutting it off, appending to it, or
  anything else.
-/
inductive Step where
  | read (portions : List Portion) (upTo : Nat)
  | skip (count : Nat)
  | close
  | change (edit : ByteArray → ByteArray)

/- The source behind a step. -/
def step
    (s : FileSource) : Step → FileSource
  | .read portions upTo => (s.readIn portions upTo).2
  | .skip count => (s.skip count).2
  | .close => s.close.2
  | .change edit => { s with content := edit s.content }

/- Changing the size of a file is such a change. -/
theorem resize_eq_step
    (s : FileSource)
    (size : Nat) :
    s.resize size =
      s.step (.change fun content =>
        content.extract 0 size ++ zeros (size - content.size)) :=
  rfl

/- The source over a file, opened before these steps. -/
def afterSteps
    (content : ByteArray)
    (steps : List Step) : FileSource :=
  steps.foldl step (ofContent content)

/- What the file holds behind a step. -/
def heldBehind
    (content : ByteArray) : Step → ByteArray
  | .change edit => edit content
  | _ => content

/- What the file holds behind these steps. -/
def heldAfter
    (content : ByteArray)
    (steps : List Step) : ByteArray :=
  steps.foldl heldBehind content

theorem afterSteps_snoc
    (content : ByteArray)
    (steps : List Step)
    (last : Step) :
    afterSteps content (steps ++ [last]) =
      (afterSteps content steps).step last := by
  simp [afterSteps]

theorem heldAfter_snoc
    (content : ByteArray)
    (steps : List Step)
    (last : Step) :
    heldAfter content (steps ++ [last]) =
      heldBehind (heldAfter content steps) last := by
  simp [heldAfter]

------------------------------------------------------------
-- One step
------------------------------------------------------------

variable {s : FileSource} {portions : List Portion} {upTo : Nat}

/-
  A read of an open source ends with bytes that the file holds,
  or fails with the system and leaves the source as it was.
-/
theorem readIn_of_open
    (hOpen : s.isOpen = true)
    (hWithin : s.cursor.position ≤ s.cursor.length)
    (portions : List Portion)
    (upTo : Nat) :
    let chunk :=
      s.content.extract s.cursor.position
        (min (s.cursor.position + upTo) s.cursor.length)
    let position :=
      reached s.cursor.position
        (min upTo (s.cursor.length - s.cursor.position))
        s.cursor.length chunk
    s.readIn portions upTo =
        (.ok (chunk, decide (position = s.cursor.length)),
          { s with cursor := ⟨position, s.cursor.length⟩ }) ∨
      ∃ cause,
        .failed cause ∈ portions ∧
          s.readIn portions upTo = (.error cause, s) := by
  intro chunk position
  rcases s.readIn_eq_or_failed portions upTo with
    hRead | hFailed
  · left
    rw [hRead]
    exact read_of_open hOpen hWithin upTo
  · exact Or.inr hFailed

/- A read ends behind where it starts, within the length. -/
theorem le_reached
    {position length : Nat}
    (hWithin : position ≤ length)
    (upTo : Nat)
    (content : ByteArray) :
    let chunk :=
      content.extract position (min (position + upTo) length)
    position ≤
        reached position (min upTo (length - position)) length
          chunk ∧
      reached position (min upTo (length - position)) length
          chunk ≤
        length := by
  intro chunk
  have hSize :
      chunk.size =
        min (min (position + upTo) length) content.size
          - position :=
    ByteArray.size_extract
  unfold reached
  split
  · exact ⟨hWithin, Nat.le_refl length⟩
  · omega

/-
  What a step does to a source: it may move the cursor on within
  the length, close the source or change the file.
-/
structure Moves
    (s s' : FileSource)
    (st : Step) : Prop where
  content_eq : s'.content = heldBehind s.content st
  isOpen_iff : s'.isOpen = true ↔ s.isOpen = true ∧ st ≠ .close
  length_eq : s'.cursor.length = s.cursor.length
  position_le : s.cursor.position ≤ s'.cursor.position
  within : s'.cursor.position ≤ s.cursor.length

/- Moving the cursor on is such a step. -/
theorem Moves.of_cursor
    {position : Nat}
    {st : Step}
    (hHeld : heldBehind s.content st = s.content)
    (hOpen : st ≠ .close)
    (hForward : s.cursor.position ≤ position)
    (hWithin : position ≤ s.cursor.length) :
    Moves s
      { s with cursor := ⟨position, s.cursor.length⟩ } st where
  content_eq := hHeld.symm
  isOpen_iff := by simp [hOpen]
  length_eq := rfl
  position_le := hForward
  within := hWithin

/- Every step of a source within its length is of this kind. -/
theorem moves_step
    (hWithin : s.cursor.position ≤ s.cursor.length)
    (st : Step) :
    Moves s (s.step st) st := by
  cases st with
  | read portions upTo =>
      have hStays : Moves s s (.read portions upTo) :=
        .of_cursor rfl (by simp) (Nat.le_refl _) hWithin
      simp only [step]
      by_cases hOpen : s.isOpen
      · have hReached := le_reached hWithin upTo s.content
        rcases readIn_of_open hOpen hWithin portions upTo with
          hRead | ⟨cause, _, hFailed⟩
        · rw [hRead]
          exact .of_cursor rfl (by simp) hReached.1 hReached.2
        · rw [hFailed]
          exact hStays
      · rw [Bool.not_eq_true] at hOpen
        rw [readIn_of_closed hOpen]
        exact hStays
  | skip count =>
      exact .of_cursor rfl (by simp)
        (Cursor.le_position_advance hWithin count)
        (s.cursor.position_advance_le count)
  | close =>
      exact
        { content_eq := rfl
          isOpen_iff := by simp [step, close]
          length_eq := rfl
          position_le := Nat.le_refl _
          within := hWithin }
  | change edit =>
      exact
        { content_eq := rfl
          isOpen_iff := by simp [step]
          length_eq := rfl
          position_le := Nat.le_refl _
          within := hWithin }

------------------------------------------------------------
-- All steps
------------------------------------------------------------

variable (content : ByteArray) (steps : List Step)

/- The length stays, and the cursor stays within it. -/
theorem within_afterSteps :
    (afterSteps content steps).cursor.length = content.size ∧
      (afterSteps content steps).cursor.position ≤
        content.size := by
  induction steps using List.reverseRecOn with
  | nil => exact ⟨rfl, Nat.zero_le _⟩
  | append_singleton steps st ih =>
      rcases ih with ⟨hLength, hWithin⟩
      rw [← hLength] at hWithin
      have hMoves := moves_step hWithin st
      rw [afterSteps_snoc, hMoves.length_eq, hLength]
      exact ⟨rfl, hLength ▸ hMoves.within⟩

/- The source reads what the file holds by now. -/
theorem content_afterSteps :
    (afterSteps content steps).content =
      heldAfter content steps := by
  induction steps using List.reverseRecOn with
  | nil => rfl
  | append_singleton steps st ih =>
      rcases within_afterSteps content steps with
        ⟨hLength, hWithin⟩
      rw [← hLength] at hWithin
      rw [afterSteps_snoc, heldAfter_snoc,
        (moves_step hWithin st).content_eq, ih]

/- The source is open until it is closed. -/
theorem isOpen_afterSteps_iff :
    (afterSteps content steps).isOpen = true ↔
      .close ∉ steps := by
  induction steps using List.reverseRecOn with
  | nil => simp [afterSteps, ofContent]
  | append_singleton steps st ih =>
      rcases within_afterSteps content steps with
        ⟨hLength, hWithin⟩
      rw [← hLength] at hWithin
      rw [afterSteps_snoc, (moves_step hWithin st).isOpen_iff,
        ih]
      simp [eq_comm]

/- The cursor never moves back. -/
theorem position_le_afterSteps
    (later : List Step) :
    (afterSteps content steps).cursor.position ≤
      (afterSteps content (steps ++ later)).cursor.position := by
  induction later using List.reverseRecOn with
  | nil => simp
  | append_singleton later st ih =>
      rcases within_afterSteps content (steps ++ later) with
        ⟨hLength, hWithin⟩
      rw [← hLength] at hWithin
      rw [← List.append_assoc, afterSteps_snoc]
      exact Nat.le_trans ih (moves_step hWithin st).position_le

------------------------------------------------------------
-- Keeping to the length
------------------------------------------------------------

/-
  What reading an open source answers and leaves, of a file that
  holds these bytes now and had this length when it was opened:
  the bytes from the position on, cut at that length and at the
  current end. When they are too few they are the last ones.
-/
inductive AnswersHeld
    (held : ByteArray)
    (length : Nat)
    (s : FileSource)
    (portions : List Portion)
    (upTo : Nat) : ReadAnswer × FileSource → Prop where
  | failed
      {cause : IoError}
      (hCause : .failed cause ∈ portions) :
      AnswersHeld held length s portions upTo (.error cause, s)
  | short
      {chunk : ByteArray} {s' : FileSource}
      (hChunk :
        chunk =
          held.extract (ByteSource.position s)
            (min (ByteSource.position s + upTo) length))
      (hShort :
        chunk.size <
          min upTo (length - ByteSource.position s))
      (hEnd : ByteSource.position s' = length) :
      AnswersHeld held length s portions upTo
        (.ok (chunk, true), s')
  | complete
      {chunk : ByteArray} {s' : FileSource}
      (hChunk :
        chunk =
          held.extract (ByteSource.position s)
            (min (ByteSource.position s + upTo) length))
      (hComplete :
        chunk.size =
          min upTo (length - ByteSource.position s))
      (hNext :
        ByteSource.position s' =
          ByteSource.position s + chunk.size) :
      AnswersHeld held length s portions upTo
        (.ok (chunk, decide (ByteSource.position s' = length)),
          s')

/- Every read of an open source is of this kind. -/
theorem answersHeld_of_open
    (hOpen : s.isOpen = true)
    (hWithin : s.cursor.position ≤ s.cursor.length)
    (portions : List Portion)
    (upTo : Nat) :
    AnswersHeld s.content s.cursor.length s portions upTo
      (s.readIn portions upTo) := by
  rcases readIn_of_open hOpen hWithin portions upTo with
    hRead | ⟨cause, hMem, hFailed⟩
  · rw [hRead]
    have hSize :=
      ByteArray.size_extract (a := s.content)
        (b := s.cursor.position)
        (e := min (s.cursor.position + upTo) s.cursor.length)
    generalize hChunk :
      s.content.extract s.cursor.position
        (min (s.cursor.position + upTo) s.cursor.length) = chunk
        at hSize ⊢
    by_cases hShort :
        chunk.size <
          min upTo (s.cursor.length - s.cursor.position)
    · have hEnd :
          reached s.cursor.position
              (min upTo (s.cursor.length - s.cursor.position))
              s.cursor.length chunk =
            s.cursor.length :=
        if_pos hShort
      simp only [hEnd, decide_true]
      exact .short hChunk.symm hShort rfl
    · have hBehind :
          reached s.cursor.position
              (min upTo (s.cursor.length - s.cursor.position))
              s.cursor.length chunk =
            s.cursor.position + chunk.size :=
        if_neg hShort
      have hComplete :
          chunk.size =
            min upTo (s.cursor.length - s.cursor.position) := by
        omega
      rw [hBehind]
      let s' : FileSource :=
        { s with
          cursor :=
            ⟨s.cursor.position + chunk.size, s.cursor.length⟩ }
      have hNext :
          ByteSource.position s' =
            ByteSource.position s + chunk.size := rfl
      exact .complete hChunk.symm hComplete hNext
  · rw [hFailed]
    exact .failed hMem

/- At its end an open source answers that there is no more. -/
theorem readIn_of_ended
    (hOpen : s.isOpen = true)
    (hEnd : s.cursor.position = s.cursor.length)
    (portions : List Portion)
    (upTo : Nat) :
    s.readIn portions upTo = (.ok (.empty, true), s) := by
  have hNext : s.cursor.nextRead upTo = 0 := by
    simp [Cursor.nextRead, Cursor.remaining, hEnd]
  -- No byte is wanted, so that the system is not asked.
  have hFill :
      fill s.content s.cursor.position 0 portions =
        .ok .empty := by
    unfold fill
    rfl
  have hStays : s.cursor.advance 0 = s.cursor := by
    simp only [Cursor.advance, Nat.add_zero]
    rw [Nat.min_eq_left (Nat.le_of_eq hEnd)]
  have hExhausted : s.cursor.isExhausted = true :=
    decide_eq_true (Nat.le_of_eq hEnd.symm)
  rw [readIn, if_pos hOpen]
  simp only [hNext, hFill, ByteArray.size_empty, Nat.lt_irrefl,
    if_false, hStays, hExhausted]

/-
  What holds of the source over a file after calls on it and
  changes of the file, in any order.
-/
structure Keeps
    (content : ByteArray)
    (steps : List Step) : Prop where
  length_eq :
    ByteSource.length (afterSteps content steps) = content.size
  position_le :
    ByteSource.position (afterSteps content steps) ≤
      content.size
  position_mono :
    ∀ later,
      ByteSource.position (afterSteps content steps) ≤
        ByteSource.position
          (afterSteps content (steps ++ later))
  -- until it is closed it answers what the file holds by then
  answersHeld :
    .close ∉ steps →
      ∀ portions upTo,
        AnswersHeld (heldAfter content steps) content.size
          (afterSteps content steps) portions upTo
          ((afterSteps content steps).readIn portions upTo)
  -- from its end on it answers nothing, whatever the file holds
  ended :
    ByteSource.position (afterSteps content steps) =
        content.size →
      ∀ later,
        .close ∉ steps ++ later →
          ∀ portions upTo,
            let s := afterSteps content (steps ++ later)
            s.readIn portions upTo = (.ok (.empty, true), s)
  -- once it is closed it fails and stays where it is
  closed :
    .close ∈ steps →
      ∀ portions upTo,
        let s := afterSteps content steps
        ∃ cause : IoError,
          cause.kind = .notConnected ∧
            s.readIn portions upTo = (.error cause, s)

/-
  Whatever calls are made on the source over a file, and however
  the file changes between them, the source keeps to the length
  that the file had when it was opened.
-/
theorem keeps_afterSteps
    (content : ByteArray)
    (steps : List Step) :
    Keeps content steps := by
  rcases within_afterSteps content steps with
    ⟨hLength, hWithin⟩
  have hHeld := content_afterSteps content steps
  exact
    { length_eq := hLength
      position_le := hWithin
      position_mono := position_le_afterSteps content steps
      answersHeld := by
        intro hOpen portions upTo
        rw [← hHeld, ← hLength]
        rw [← hLength] at hWithin
        exact answersHeld_of_open
          ((isOpen_afterSteps_iff content steps).mpr hOpen)
          hWithin portions upTo
      ended := by
        intro hEnd later hOpen portions upTo
        rcases within_afterSteps content (steps ++ later) with
          ⟨hLength', hWithin'⟩
        have hForward :=
          position_le_afterSteps content steps later
        have hStill :
            (afterSteps content (steps ++ later)).cursor.position
              = content.size :=
          Nat.le_antisymm hWithin' (hEnd ▸ hForward)
        exact readIn_of_ended
          ((isOpen_afterSteps_iff content _).mpr hOpen)
          (hStill.trans hLength'.symm) portions upTo
      closed := by
        intro hClosed portions upTo
        refine ⟨.sourceClosed, rfl,
          readIn_of_closed ?_ portions upTo⟩
        rw [← Bool.not_eq_true, isOpen_afterSteps_iff]
        exact not_not_intro hClosed }

end Courier.FileSource
