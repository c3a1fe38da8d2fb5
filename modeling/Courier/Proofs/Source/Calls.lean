import Courier.Source.Basic

/-
  Calls on byte sources in order, and sources that cannot be
  told apart by them. Two states of sources are alike when each
  call is answered the same and leaves states that are alike
  again; the answers to any number of calls are the same then.

  Key definitions include:
    * `SourceCall`
    * `SourceAnswer`
    * `SourceAnswer.chunks`
    * `ByteSource.call`
    * `ByteSource.answers`
    * `ByteSource.after`
    * `ByteSource.Alike`
    * `ClosedWith`

  Main statements:
    * `ByteSource.Alike.answers_eq`
    * `ByteSource.Alike.after`
    * `ClosedWith.alike`
-/

namespace Courier

/- A call that moves the cursor of a source. -/
inductive SourceCall where
  | read (upTo : Nat)
  | skip (count : Nat)
deriving DecidableEq, Repr

/- What such a call answers. -/
inductive SourceAnswer where
  | read (answer : ReadAnswer)
  | skip (exhausted : Bool)

namespace SourceAnswer

/- The chunk of a read that succeeded. -/
def chunk? : SourceAnswer → Option ByteArray
  | read (.ok (chunk, _)) => some chunk
  | _ => none

/- The chunks of answers, in order. -/
def chunks
    (answers : List SourceAnswer) : List ByteArray :=
  answers.filterMap chunk?

@[simp] theorem chunks_nil : chunks [] = [] := rfl

@[simp] theorem chunks_cons_read
    (chunk : ByteArray)
    (last : Bool)
    (rest : List SourceAnswer) :
    chunks (read (.ok (chunk, last)) :: rest) =
      chunk :: chunks rest := rfl

end SourceAnswer

namespace ByteSource

variable {σ ρ : Type} [ByteSource σ] [ByteSource ρ]

------------------------------------------------------------
-- Calls in order
------------------------------------------------------------

/- What a call answers, and the source behind it. -/
def call
    (s : σ) : SourceCall → SourceAnswer × σ
  | .read upTo =>
      (.read (ByteSource.read upTo s).1,
        (ByteSource.read upTo s).2)
  | .skip count =>
      (.skip (ByteSource.skip count s).1,
        (ByteSource.skip count s).2)

/- The answers to calls in order. -/
def answers
    (s : σ) : List SourceCall → List SourceAnswer
  | [] => []
  | c :: rest => (call s c).1 :: answers (call s c).2 rest

/- The source behind calls in order. -/
def after
    (s : σ)
    (calls : List SourceCall) : σ :=
  calls.foldl (fun s c => (call s c).2) s

@[simp] theorem after_nil
    (s : σ) :
    after s [] = s := rfl

@[simp] theorem after_cons
    (s : σ)
    (c : SourceCall)
    (rest : List SourceCall) :
    after s (c :: rest) = after (call s c).2 rest := rfl

@[simp] theorem after_append
    (s : σ)
    (calls later : List SourceCall) :
    after s (calls ++ later) = after (after s calls) later := by
  simp [after]

------------------------------------------------------------
-- Sources that are alike
------------------------------------------------------------

/-
  Related states have the same length and the same position, and
  answer each call alike; what they leave is related again.
  Nothing is said about how they are closed.
-/
structure Alike
    (R : σ → ρ → Prop) : Prop where
  length_eq :
    ∀ {s : σ} {t : ρ},
      R s t → ByteSource.length s = ByteSource.length t
  position_eq :
    ∀ {s : σ} {t : ρ},
      R s t → ByteSource.position s = ByteSource.position t
  read :
    ∀ (n : Nat) {s : σ} {t : ρ},
      R s t →
        (ByteSource.read n s).1 = (ByteSource.read n t).1 ∧
          R (ByteSource.read n s).2 (ByteSource.read n t).2
  skip :
    ∀ (n : Nat) {s : σ} {t : ρ},
      R s t →
        (ByteSource.skip n s).1 = (ByteSource.skip n t).1 ∧
          R (ByteSource.skip n s).2 (ByteSource.skip n t).2

namespace Alike

variable {R : σ → ρ → Prop} {s : σ} {t : ρ}

/- A source is like itself. -/
theorem refl
    (σ : Type) [ByteSource σ] :
    Alike fun s t : σ => t = s where
  length_eq := by
    rintro s _ rfl
    rfl
  position_eq := by
    rintro s _ rfl
    rfl
  read := by
    rintro n s _ rfl
    exact ⟨rfl, rfl⟩
  skip := by
    rintro n s _ rfl
    exact ⟨rfl, rfl⟩

/- One call is answered alike. -/
theorem call
    (hAlike : Alike R)
    (hRelated : R s t)
    (c : SourceCall) :
    (ByteSource.call s c).1 = (ByteSource.call t c).1 ∧
      R (ByteSource.call s c).2 (ByteSource.call t c).2 := by
  cases c with
  | read upTo =>
      rcases hAlike.read upTo hRelated with ⟨hAnswer, hNext⟩
      exact ⟨congrArg SourceAnswer.read hAnswer, hNext⟩
  | skip count =>
      rcases hAlike.skip count hRelated with ⟨hAnswer, hNext⟩
      exact ⟨congrArg SourceAnswer.skip hAnswer, hNext⟩

/- So are calls in order. -/
theorem answers_eq
    (hAlike : Alike R)
    (hRelated : R s t)
    (calls : List SourceCall) :
    answers s calls = answers t calls := by
  induction calls generalizing s t with
  | nil => rfl
  | cons c rest ih =>
      rcases hAlike.call hRelated c with ⟨hAnswer, hNext⟩
      simp only [answers]
      rw [hAnswer, ih hNext]

/- What calls in order leave is alike. -/
theorem after
    (hAlike : Alike R)
    (hRelated : R s t)
    (calls : List SourceCall) :
    R (ByteSource.after s calls) (ByteSource.after t calls) := by
  induction calls generalizing s t with
  | nil => exact hRelated
  | cons c rest ih => exact ih (hAlike.call hRelated c).2

end Alike

/- Related states are alike, and closed alike as well. -/
structure Interchangeable
    (R : σ → ρ → Prop) : Prop extends Alike R where
  close_eq :
    ∀ {s : σ} {t : ρ},
      R s t → (ByteSource.close s).1 = (ByteSource.close t).1

/- A source can take its own place. -/
theorem Interchangeable.refl
    (σ : Type) [ByteSource σ] :
    Interchangeable fun s t : σ => t = s where
  toAlike := .refl σ
  close_eq := by
    rintro s _ rfl
    rfl

end ByteSource

------------------------------------------------------------
-- Sources that are closed differently
------------------------------------------------------------

/- A source whose closing is answered by this answer. -/
structure ClosedWith (σ : Type) where
  source : σ
  answer : Except IoError Unit

namespace ClosedWith

variable {σ : Type} [ByteSource σ]

instance : ByteSource (ClosedWith σ) where
  read upTo s :=
    let (answer, source) := ByteSource.read upTo s.source
    (answer, { s with source })
  skip count s :=
    let (exhausted, source) := ByteSource.skip count s.source
    (exhausted, { s with source })
  close s := (s.answer, s)
  length s := ByteSource.length s.source
  position s := ByteSource.position s.source

/- It is like the source until it is closed. -/
theorem alike
    (σ : Type) [ByteSource σ] :
    ByteSource.Alike
      fun (s : σ) (t : ClosedWith σ) => t.source = s where
  length_eq := by
    rintro _ t rfl
    rfl
  position_eq := by
    rintro _ t rfl
    rfl
  read := by
    rintro n _ t rfl
    exact ⟨rfl, rfl⟩
  skip := by
    rintro n _ t rfl
    exact ⟨rfl, rfl⟩

end ClosedWith

end Courier
