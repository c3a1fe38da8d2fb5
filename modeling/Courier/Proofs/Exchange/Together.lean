import Courier.Proofs.Exchange.Edits
import Courier.Proofs.Source.Calls

/-
  Acts that are carried out side by side, on two exchanges over
  two connections. A judgement relates what both end with, and
  it composes as acts do.

  Two connections are in lockstep when the calls that make up a
  response are answered the same by both, in the order in which
  a response makes them. What is sent over one is then sent over
  the other, with the same result.

  Key definitions include:
    * `Exchange.Together`
    * `Exchange.Same`
    * `Exchange.Drawn`
    * `Exchange.KeepsNotes`
    * `Exchange.Lockstep`

  Main statements:
    * `Exchange.Together.bind`
    * `Exchange.Lockstep.together_edited`
-/

namespace Courier

/-
  An event that records something besides the connection: a call
  on a source, or the answer to a producer.
-/
def Event.IsNote : Event → Prop
  | .read _ _ | .skip _ _ | .close _ | .reply _ => True
  | _ => False

namespace Exchange

variable {τ ρ α α' β β' : Type}

------------------------------------------------------------
-- Side by side
------------------------------------------------------------

/-
  From exchanges that are related so, two acts end with values
  and exchanges that are related so.
-/
def Together
    (pre : Exchange τ → Exchange ρ → Prop)
    (act : Act τ α)
    (act' : Act ρ α')
    (post : α → α' → Exchange τ → Exchange ρ → Prop) : Prop :=
  ∀ x y,
    pre x y →
      post (perform act x).1 (perform act' y).1
        (perform act x).2 (perform act' y).2

/- The values are the same and the exchanges are related. -/
def Same
    (P : Exchange τ → Exchange ρ → Prop)
    (v v' : α)
    (x : Exchange τ)
    (y : Exchange ρ) : Prop :=
  v' = v ∧ P x y

/-
  The values are the same, and so are the exchanges and the
  states of sources that come with them related.
-/
def Drawn
    {σ σ' : Type}
    (R : σ → σ' → Prop)
    (P : Exchange τ → Exchange ρ → Prop)
    (v : α × σ)
    (v' : α × σ')
    (x : Exchange τ)
    (y : Exchange ρ) : Prop :=
  v'.1 = v.1 ∧ R v.2 v'.2 ∧ P x y

namespace Together

variable {pre : Exchange τ → Exchange ρ → Prop}
variable {P Q : Exchange τ → Exchange ρ → Prop}
variable {act : Act τ α} {act' : Act ρ α'}
variable {mid : α → α' → Exchange τ → Exchange ρ → Prop}
variable {post : β → β' → Exchange τ → Exchange ρ → Prop}

/- Values that are related are answered side by side. -/
theorem pure
    {v : β} {v' : β'}
    (hRelated : ∀ x y, pre x y → post v v' x y) :
    Together pre (Pure.pure v : Act τ β)
      (Pure.pure v' : Act ρ β') post :=
  hRelated

/- Acts that follow each other are side by side in turn. -/
theorem bind
    {next : α → Act τ β}
    {next' : α' → Act ρ β'}
    (hFirst : Together pre act act' mid)
    (hNext :
      ∀ v v', Together (mid v v') (next v) (next' v') post) :
    Together pre (act >>= next) (act' >>= next') post := by
  intro x y hPre
  exact hNext _ _ _ _ (hFirst x y hPre)

/- Behind the same value it is enough to go on from it. -/
theorem bind_same
    {act : Act τ α} {act' : Act ρ α}
    {next : α → Act τ β}
    {next' : α → Act ρ β'}
    (hFirst : Together pre act act' (Same P))
    (hNext : ∀ v, Together P (next v) (next' v) post) :
    Together pre (act >>= next) (act' >>= next') post := by
  refine hFirst.bind ?_
  rintro v _ x y ⟨rfl, hRelated⟩
  exact hNext _ x y hRelated

/- Behind the same value and related states of sources, too. -/
theorem bind_drawn
    {σ σ' : Type} {R : σ → σ' → Prop}
    {act : Act τ (α × σ)} {act' : Act ρ (α × σ')}
    {next : α × σ → Act τ β}
    {next' : α × σ' → Act ρ β'}
    (hFirst : Together pre act act' (Drawn R P))
    (hNext :
      ∀ v s t,
        R s t → Together P (next (v, s)) (next' (v, t)) post) :
    Together pre (act >>= next) (act' >>= next') post := by
  refine hFirst.bind ?_
  rintro ⟨v, s⟩ ⟨_, t⟩ x y ⟨rfl, hStates, hRelated⟩
  exact hNext _ s t hStates x y hRelated

/- What both end with may be told less of. -/
theorem weaken
    {act' : Act ρ α}
    {act : Act τ α}
    (hActs : Together pre act act' (Same P))
    (hWeaker : ∀ x y, P x y → Q x y) :
    Together pre act act' (Same Q) := by
  intro x y hPre
  rcases hActs x y hPre with ⟨hValue, hRelated⟩
  exact ⟨hValue, hWeaker _ _ hRelated⟩

end Together

/- Notes can be taken on both sides at any time. -/
def KeepsNotes
    (P : Exchange τ → Exchange ρ → Prop) : Prop :=
  ∀ e : Event,
    e.IsNote →
      Together P (log e : Act τ Unit) (log e : Act ρ Unit)
        (Same P)

------------------------------------------------------------
-- Calls on sources
------------------------------------------------------------

section Sources

variable {σ σ' : Type} [ByteSource σ] [ByteSource σ']
variable {R : σ → σ' → Prop} {s : σ} {t : σ'}
variable {P : Exchange τ → Exchange ρ → Prop}

/- What is noted alike on both sides is answered alike. -/
omit [ByteSource σ] [ByteSource σ'] in
theorem KeepsNotes.together_pure
    (hNotes : KeepsNotes P)
    {e e' : Event}
    (hNote : e.IsNote)
    (hEvent : e = e')
    {v v' : α}
    (hAnswer : v = v')
    (hStates : R s t) :
    Together P (log e >>= fun _ => pure (v, s) : Act τ _)
      (log e' >>= fun _ => pure (v', t) : Act ρ _)
      (Drawn R P) := by
  subst hEvent
  refine (hNotes e hNote).bind_same fun _ => ?_
  exact .pure fun x y hRelated =>
    ⟨hAnswer.symm, hStates, hRelated⟩

/- Sources that are alike are read alike. -/
theorem together_readFrom
    (hNotes : KeepsNotes P)
    (hAlike : ByteSource.Alike R)
    (hStates : R s t)
    (n : Nat) :
    Together P (readFrom n s : Act τ _) (readFrom n t : Act ρ _)
      (Drawn R P) := by
  rcases hAlike.read n hStates with ⟨hAnswer, hNext⟩
  have hNote :
      (Event.read n (ByteSource.read n s).1).IsNote :=
    trivial
  have hEvent := congrArg (Event.read n) hAnswer
  exact hNotes.together_pure hNote hEvent hAnswer hNext

/- They are skipped alike, too. -/
theorem together_skipIn
    (hNotes : KeepsNotes P)
    (hAlike : ByteSource.Alike R)
    (hStates : R s t)
    (n : Nat) :
    Together P (skipIn n s : Act τ _) (skipIn n t : Act ρ _)
      (Drawn R P) := by
  rcases hAlike.skip n hStates with ⟨hAnswer, hNext⟩
  have hNote :
      (Event.skip n (ByteSource.skip n s).1).IsNote :=
    trivial
  have hEvent := congrArg (Event.skip n) hAnswer
  exact hNotes.together_pure hNote hEvent hAnswer hNext

end Sources

------------------------------------------------------------
-- Connections in lockstep
------------------------------------------------------------

/-
  Two connections that answer alike what a response calls them
  for. Exchanges over them are related in one way before the
  head, in another while a body is streamed, and in a third when
  the response is complete.
-/
structure Lockstep
    (τ ρ : Type)
    [Connection τ] [Connection ρ] where
  Unsent : Exchange τ → Exchange ρ → Prop
  Streaming : Exchange τ → Exchange ρ → Prop
  Complete : Exchange τ → Exchange ρ → Prop
  edit :
    ∀ change x y,
      Unsent x y →
        Unsent (editHeaders change x) (editHeaders change y)
  notes_unsent : KeepsNotes Unsent
  notes_streaming : KeepsNotes Streaming
  notes_complete : KeepsNotes Complete
  sendHead :
    ∀ status,
      Together Unsent (Exchange.sendHead status)
        (Exchange.sendHead status) (Same Streaming)
  sendFull :
    ∀ status body,
      Together Unsent (Exchange.sendFull status body)
        (Exchange.sendFull status body) (Same Complete)
  writeAndFlush :
    ∀ chunk,
      Together Streaming (Exchange.writeAndFlush chunk)
        (Exchange.writeAndFlush chunk) (Same Streaming)
  isClosed :
    Together Streaming Exchange.isClosed Exchange.isClosed
      (Same Streaming)
  complete : ∀ x y, Streaming x y → Complete x y

namespace Lockstep

variable [Connection τ] [Connection ρ] (k : Lockstep τ ρ)

/- The same changes are made to the headers of both. -/
theorem unsent_edited
    {x : Exchange τ} {y : Exchange ρ}
    (edits : List HeaderEdit)
    (hUnsent : k.Unsent x y) :
    k.Unsent (edited edits x) (edited edits y) := by
  induction edits generalizing x y with
  | nil => exact hUnsent
  | cons change rest ih => exact ih (k.edit change x y hUnsent)

/- Acts that only make these changes are side by side. -/
theorem together_edited
    {act : Act τ α} {act' : Act ρ α}
    {v : α} {edits : List HeaderEdit}
    (hAct : ∀ x, perform act x = (v, edited edits x))
    (hAct' : ∀ y, perform act' y = (v, edited edits y)) :
    Together k.Unsent act act' (Same k.Unsent) := by
  intro x y hUnsent
  rw [hAct, hAct']
  exact ⟨rfl, k.unsent_edited edits hUnsent⟩

/- A connection is in lockstep with itself. -/
def refl
    (τ : Type) [Connection τ] : Lockstep τ τ where
  Unsent x y := y = x
  Streaming x y := y = x
  Complete x y := y = x
  edit := by
    rintro change x _ rfl
    rfl
  notes_unsent := by
    rintro e _ x _ rfl
    exact ⟨rfl, rfl⟩
  notes_streaming := by
    rintro e _ x _ rfl
    exact ⟨rfl, rfl⟩
  notes_complete := by
    rintro e _ x _ rfl
    exact ⟨rfl, rfl⟩
  sendHead := by
    rintro status x _ rfl
    exact ⟨rfl, rfl⟩
  sendFull := by
    rintro status body x _ rfl
    exact ⟨rfl, rfl⟩
  writeAndFlush := by
    rintro chunk x _ rfl
    exact ⟨rfl, rfl⟩
  isClosed := by
    rintro x _ rfl
    exact ⟨rfl, rfl⟩
  complete _ _ hSame := hSame

end Lockstep

end Exchange

end Courier
