import Courier.Proofs.Delivery.Pushed

/-
  The calls of everybody who holds a writer. A handler gives
  clones of its writer away; all of them get to it in any order,
  and the clones may hold it longer than the handler runs. What
  they call together are the calls that each of them makes by
  itself, in its own order.

  Key definitions include:
    * `Pushed.Call`
    * `Pushed.Makes`
    * `Pushed.interleave`
    * `Pushed.together`
    * `Pushed.ClonesMake`
    * `Pushed.SharedBy`

  Main statements:
    * `Pushed.Makes.of_interleave`
    * `Pushed.sharedBy_of_together`
-/

namespace Courier.Pushed

------------------------------------------------------------
-- Calls
------------------------------------------------------------

/- A call on a writer and what it was answered. -/
inductive Call where
  | write (chunk : ByteArray) (closed : Bool)
  | sent (bytes : Nat)
  | isClosed (closed : Bool)

namespace Call

/- The reply as it stands in a trace. -/
def reply : Call → Reply
  | .write _ closed | .isClosed closed => .closed closed
  | .sent bytes => .count bytes

/- The chunk of a write that found the client there. -/
def delivered? : Call → Option ByteArray
  | .write chunk false => some chunk
  | _ => none

/- A write that was told that the client is gone. -/
def IsRefused : Call → Prop
  | .write _ true => True
  | _ => False

/- Whoever asks or writes is told that the client is gone. -/
def Denies : Call → Prop
  | .write _ closed | .isClosed closed => closed = true
  | .sent _ => True

/- Nothing is delivered to a client that is gone. -/
theorem Denies.delivered?_eq
    {call : Call}
    (hDenies : call.Denies) :
    call.delivered? = none := by
  cases call with
  | write => cases hDenies; rfl
  | _ => rfl

end Call

section Trees

variable {α β : Type}

/- The next call of a tree is this, and what is left of it. -/
inductive Calls : CallTree α → Call → CallTree α → Prop where
  | write
      {chunk : ByteArray} {next : Bool → CallTree α}
      (closed : Bool) :
      Calls (.write chunk next) (.write chunk closed)
        (next closed)
  | sent
      {next : Nat → CallTree α}
      (bytes : Nat) :
      Calls (.sent next) (.sent bytes) (next bytes)
  | isClosed
      {next : Bool → CallTree α}
      (closed : Bool) :
      Calls (.isClosed next) (.isClosed closed) (next closed)

/- These are the first calls of a tree, and what is left. -/
inductive Makes : CallTree α → List Call → CallTree α → Prop where
  | nil
      {tree : CallTree α} :
      Makes tree [] tree
  | cons
      {tree tree' tree'' : CallTree α} {call : Call}
      {made : List Call}
      (hCall : Calls tree call tree')
      (hRest : Makes tree' made tree'') :
      Makes tree (call :: made) tree''

/- Nothing is called by what has stopped. -/
theorem Makes.of_done
    {value : α} {made : List Call} {tree : CallTree α}
    (h : Makes (.done value) made tree) :
    made = [] ∧ tree = .done value := by
  cases h with
  | nil => exact ⟨rfl, rfl⟩
  | cons hCall => cases hCall

theorem Makes.append
    {tree tree' tree'' : CallTree α} {made more : List Call}
    (h : Makes tree made tree')
    (hMore : Makes tree' more tree'') :
    Makes tree (made ++ more) tree'' := by
  induction h with
  | nil => exact hMore
  | cons hCall _ ih => exact .cons hCall (ih hMore)

------------------------------------------------------------
-- Several holders
------------------------------------------------------------

/- Make one call and go on with what is left, or stop. -/
def step
    (tree : CallTree α)
    (stop : α → CallTree β)
    (go : CallTree α → CallTree β) : CallTree β :=
  match tree with
  | .done value => stop value
  | .write chunk next => .write chunk fun closed => go (next closed)
  | .sent next => .sent fun bytes => go (next bytes)
  | .isClosed next => .isClosed fun closed => go (next closed)

/- One step is a call of the tree, unless it has stopped. -/
theorem Makes.of_step
    {tree : CallTree α} {stop : α → CallTree β}
    {go : CallTree α → CallTree β}
    {made : List Call} {last : β}
    (h : Makes (step tree stop go) made (.done last)) :
    (∃ value,
      tree = .done value ∧
        Makes (stop value) made (.done last)) ∨
      ∃ call tree' rest,
        made = call :: rest ∧ Calls tree call tree' ∧
          Makes (go tree') rest (.done last) := by
  cases tree with
  | done value => exact Or.inl ⟨value, rfl, h⟩
  | write chunk next =>
      cases h with
      | cons hCall hRest =>
          cases hCall with
          | write closed =>
              exact Or.inr ⟨_, _, _, rfl, .write closed, hRest⟩
  | sent next =>
      cases h with
      | cons hCall hRest =>
          cases hCall with
          | sent bytes =>
              exact Or.inr ⟨_, _, _, rfl, .sent bytes, hRest⟩
  | isClosed next =>
      cases h with
      | cons hCall hRest =>
          cases hCall with
          | isClosed closed =>
              exact Or.inr ⟨_, _, _, rfl, .isClosed closed, hRest⟩

/- Go on with what calls stopped with, changed. -/
def mapped
    (change : α → β)
    (tree : CallTree α) : CallTree β :=
  tree.bind fun value => .done (change value)

theorem mapped_eq_step
    (change : α → β)
    (tree : CallTree α) :
    mapped change tree =
      step tree (fun value => .done (change value))
        (mapped change) := by
  cases tree <;> rfl

/- The same calls are made, and only the value is changed. -/
theorem Makes.of_mapped
    {change : α → β} {tree : CallTree α}
    {made : List Call} {last : β}
    (h : Makes (mapped change tree) made (.done last)) :
    ∃ value,
      last = change value ∧ Makes tree made (.done value) := by
  induction made generalizing tree with
  | nil =>
      rw [mapped_eq_step] at h
      rcases h.of_step with
        ⟨value, rfl, hStop⟩ | ⟨_, _, _, hMade, _⟩
      · cases hStop.of_done.2
        exact ⟨value, rfl, .nil⟩
      · cases hMade
  | cons call made ih =>
      rw [mapped_eq_step] at h
      rcases h.of_step with
        ⟨value, rfl, hStop⟩ | ⟨_, _, _, hMade, hCall, hRest⟩
      · cases hStop.of_done.1
      · cases hMade
        rcases ih hRest with ⟨value, hLast, hMakes⟩
        exact ⟨value, hLast, .cons hCall hMakes⟩

/-
  A task and the clones of its writer get to the writer in this
  order: the task by the number zero, and the clones by those
  above it. Who has stopped lets the turn pass, and when the
  task that has stopped is next, the rest of the order is left.
  A task behind the order goes on alone.
-/
def interleave
    (task : CallTree α)
    (clones : List (CallTree Unit)) :
    List Nat → CallTree (α × List (CallTree Unit) × List Nat)
  | [] => mapped (fun value => (value, clones, [])) task
  | 0 :: order =>
      step task (fun value => .done (value, clones, order))
        fun task => interleave task clones order
  | (i + 1) :: order =>
      match clones[i]? with
      | none => interleave task clones order
      | some clone =>
          step clone (fun _ => interleave task clones order)
            fun clone =>
              interleave task (clones.set i clone) order

end Trees

/-
  A handler and the clones of its writer, in this order. The
  stream takes the turns of its handler, which has ended: the
  first to look up the bytes sent, and the second to ask for
  the client.
-/
def together
    (handler : CallTree (Except String Unit))
    (clones : List (CallTree Unit))
    (order : List Nat) : Producer :=
  mapped
    (fun (result, clones, order) =>
      { result
        later :=
          mapped
            (fun (_, clones, order) =>
              mapped (fun _ => ())
                (interleave (.done ()) clones order))
            (interleave (.done ()) clones order) })
    (interleave handler clones order)

/- The calls that one of the holders made. -/
def callsBy
    (i : Nat)
    (made : List (Nat × Call)) : List Call :=
  (made.filter (·.1 = i)).map Prod.snd

theorem callsBy_cons
    (j i : Nat)
    (call : Call)
    (made : List (Nat × Call)) :
    callsBy j ((i, call) :: made) =
      if i = j then call :: callsBy j made
      else callsBy j made := by
  by_cases hSame : i = j <;> simp [callsBy, hSame]

theorem callsBy_append
    (i : Nat)
    (made more : List (Nat × Call)) :
    callsBy i (made ++ more) = callsBy i made ++ callsBy i more := by
  simp [callsBy]

/- What only one holder makes are its calls. -/
theorem callsBy_map
    (i j : Nat)
    (made : List Call) :
    callsBy i (made.map fun call => (j, call)) =
      if j = i then made else [] := by
  by_cases hSame : j = i <;>
    simp [callsBy, List.filter_map, Function.comp_def, hSame]

/-
  Of these calls, which are those of a task and of clones, each
  clone makes its own, in its own order, and this is left of
  the clones.
-/
structure ClonesMake
    (clones : List (CallTree Unit))
    (parts : List (Nat × Call))
    (left : List (CallTree Unit)) : Prop where
  length_eq : left.length = clones.length
  holder_le : ∀ part ∈ parts, part.1 ≤ clones.length
  makes :
    ∀ i clone, clones[i]? = some clone →
      ∃ clone',
        left[i]? = some clone' ∧
          Makes clone (callsBy (i + 1) parts) clone'

namespace ClonesMake

variable {clones left : List (CallTree Unit)}
variable {parts : List (Nat × Call)}

theorem append
    {left' : List (CallTree Unit)} {more : List (Nat × Call)}
    (h : ClonesMake clones parts left)
    (hMore : ClonesMake left more left') :
    ClonesMake clones (parts ++ more) left' where
  length_eq := hMore.length_eq.trans h.length_eq
  holder_le part hMem := by
    rcases List.mem_append.mp hMem with hFirst | hLater
    · exact h.holder_le part hFirst
    · rw [← h.length_eq]
      exact hMore.holder_le part hLater
  makes i clone hClone := by
    rcases h.makes i clone hClone with ⟨clone', hLeft, hMakes⟩
    rcases hMore.makes i clone' hLeft with
      ⟨clone'', hLast, hMakes'⟩
    rw [callsBy_append]
    exact ⟨clone'', hLast, hMakes.append hMakes'⟩

/- While a task calls alone, the clones make no calls. -/
theorem of_task
    (clones : List (CallTree Unit))
    (made : List Call) :
    ClonesMake clones (made.map fun call => (0, call))
      clones where
  length_eq := rfl
  holder_le part hMem := by
    rcases List.mem_map.mp hMem with ⟨call, _, rfl⟩
    exact Nat.zero_le _
  makes i clone hClone := by
    rw [callsBy_map, if_neg (Nat.succ_ne_zero i).symm]
    exact ⟨clone, hClone, .nil⟩

/- A clone that calls goes on with what is left of it. -/
theorem cons
    {i : Nat} {clone clone' : CallTree Unit} {call : Call}
    (hClone : clones[i]? = some clone)
    (hCall : Calls clone call clone')
    (h : ClonesMake (clones.set i clone') parts left) :
    ClonesMake clones ((i + 1, call) :: parts) left := by
  rcases List.getElem?_eq_some_iff.mp hClone with ⟨hIndex, _⟩
  constructor
  · rw [h.length_eq, List.length_set]
  · intro part hMem
    rcases List.mem_cons.mp hMem with rfl | hRest
    · exact hIndex
    · simpa using h.holder_le part hRest
  · intro j other hOther
    rw [callsBy_cons]
    by_cases hSame : i = j
    · subst hSame
      rcases h.makes i clone' (List.getElem?_set_self hIndex)
        with ⟨last, hLast, hMakes⟩
      rw [hClone] at hOther
      cases hOther
      rw [if_pos rfl]
      exact ⟨last, hLast, .cons hCall hMakes⟩
    · rw [if_neg fun h => hSame (Nat.succ.inj h)]
      exact h.makes j other (by
        rw [List.getElem?_set_ne hSame, hOther])

end ClonesMake

/-
  What a task and clones make together are the calls that each
  of them makes by itself.
-/
theorem Makes.of_interleave
    {α : Type}
    {task : CallTree α} {clones left : List (CallTree Unit)}
    {order rest : List Nat} {made : List Call} {value : α}
    (h :
      Makes (interleave task clones order) made
        (.done (value, left, rest))) :
    ∃ parts : List (Nat × Call),
      parts.map Prod.snd = made ∧
        Makes task (callsBy 0 parts) (.done value) ∧
        ClonesMake clones parts left := by
  induction order generalizing task clones made with
  | nil =>
      rcases h.of_mapped with ⟨value', hLast, hMakes⟩
      cases hLast
      refine ⟨made.map fun call => (0, call), ?_, ?_,
        .of_task _ made⟩
      · simp [Function.comp_def]
      · rwa [callsBy_map, if_pos rfl]
  | cons number order ih =>
      cases number with
      | zero =>
          rcases h.of_step with
            ⟨value', rfl, hStop⟩ |
              ⟨call, task', made', rfl, hCall, hRest⟩
          · rcases hStop.of_done with ⟨rfl, hLast⟩
            cases hLast
            exact ⟨[], rfl, .nil, .of_task _ []⟩
          · rcases ih hRest with ⟨parts, rfl, hTask, hClones⟩
            refine ⟨(0, call) :: parts, rfl, ?_,
              (ClonesMake.of_task clones [call]).append hClones⟩
            rw [callsBy_cons, if_pos rfl]
            exact .cons hCall hTask
      | succ i =>
          rw [interleave] at h
          cases hHolder : clones[i]? with
          | none =>
              rw [hHolder] at h
              exact ih h
          | some clone =>
              rw [hHolder] at h
              rcases h.of_step with
                ⟨_, rfl, hStop⟩ |
                  ⟨call, clone', made', rfl, hCall, hRest⟩
              · exact ih hStop
              · rcases ih hRest with
                  ⟨parts, rfl, hTask, hClones⟩
                refine ⟨(i + 1, call) :: parts, rfl, ?_,
                  hClones.cons hHolder hCall⟩
                rwa [callsBy_cons, if_neg (Nat.succ_ne_zero i)]

/-
  Calls are those of a handler and of clones: each of them makes
  its own, in its own order, and behind the first calls, with
  which the handler ends, only clones call.
-/
def SharedBy
    (handler : CallTree (Except String Unit))
    (clones : List (CallTree Unit))
    (result : Except String Unit)
    (made later : List Call) : Prop :=
  ∃ (first second : List (Nat × Call))
      (left : List (CallTree Unit)),
    first.map Prod.snd = made ∧
      second.map Prod.snd = later ∧
      Makes handler (callsBy 0 first) (.done result) ∧
      callsBy 0 second = [] ∧
      ClonesMake clones (first ++ second) left

/- Whoever calls together shares the calls so. -/
theorem sharedBy_of_together
    {handler : CallTree (Except String Unit)}
    {clones : List (CallTree Unit)} {order : List Nat}
    {before between after : List Call}
    {ending : Ending} {rest : CallTree Unit}
    (hFirst :
      Makes (together handler clones order) before
        (.done ending))
    (hBetween : Makes ending.later between (.done rest))
    (hAfter : Makes rest after (.done ())) :
    SharedBy handler clones ending.result before
      (between ++ after) := by
  rcases hFirst.of_mapped with
    ⟨⟨result, clones₁, order₁⟩, rfl, hMakes₁⟩
  rcases hBetween.of_mapped with
    ⟨⟨_, clones₂, order₂⟩, rfl, hMakes₂⟩
  rcases hAfter.of_mapped with
    ⟨⟨_, clones₃, order₃⟩, _, hMakes₃⟩
  rcases hMakes₁.of_interleave with
    ⟨first, hParts₁, hTask₁, hClones₁⟩
  rcases hMakes₂.of_interleave with
    ⟨second, hParts₂, hTask₂, hClones₂⟩
  rcases hMakes₃.of_interleave with
    ⟨third, hParts₃, hTask₃, hClones₃⟩
  refine ⟨first, second ++ third, clones₃, hParts₁, ?_, hTask₁,
    ?_, hClones₁.append (hClones₂.append hClones₃)⟩
  · rw [List.map_append, hParts₂, hParts₃]
  · rw [callsBy_append, hTask₂.of_done.1, hTask₃.of_done.1]
    rfl

end Courier.Pushed
