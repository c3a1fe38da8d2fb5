import Courier.Routing.Router

/-
  What the search for the route of a path finds. Whatever it
  ends with is a route whose pattern fits the path, with the
  parameters that the path gives to it. As long as parameters
  fill their segments it ends with nothing only if no pattern
  fits, and what it ends with is never less specific than
  another pattern that fits.

  Key definitions include:
    * `Pattern.precedes`
    * `Pattern.fillsSegments`
    * `Candidate.runOf`
    * `Candidate.valueOf`
    * `Candidate.Arrives`
    * `Router.IsSpecificAt`

  Main statements:
    * `Candidate.find_cons`
    * `Candidate.arrives_of_find`
    * `Candidate.find_answers`
    * `Router.isSpecificAt_of_fillsSegments`
-/

namespace Courier.Routing

------------------------------------------------------------
-- Patterns
------------------------------------------------------------

namespace Pattern

/-
  One pattern is more specific than another: where they differ
  first, it has a literal character and the other a parameter,
  or it has a parameter and the other takes the rest. The names
  of parameters make no difference.
-/
def precedes : Pattern → Pattern → Bool
  | .lit c :: p, .lit d :: q => c = d && precedes p q
  | .param _ :: p, .param _ :: q => precedes p q
  | .lit _ :: _, .param _ :: _ => true
  | .lit _ :: _, .rest _ :: _ => true
  | .param _ :: _, .rest _ :: _ => true
  | _, _ => false

/- Every parameter reaches to the end of its segment. -/
def fillsSegments : Pattern → Bool
  | [] => true
  | .param _ :: tokens =>
      tokens.head?.all (· = .lit '/') && fillsSegments tokens
  | _ :: tokens => fillsSegments tokens

/- Literal text in front of a pattern fits itself. -/
theorem Fits.literal
    {p : Pattern} {path : List Char}
    {params : List (String × String)}
    (h : Fits p path params)
    (run : List Char) :
    Fits (run.map .lit ++ p) (run ++ path) params := by
  induction run with
  | nil => exact h
  | cons c rest ih => exact .lit ih

/- What is equal at first differs where the rests differ. -/
theorem precedes_literal
    (run : List Char)
    (p q : Pattern) :
    precedes (run.map .lit ++ p) (run.map .lit ++ q) =
      precedes p q := by
  induction run with
  | nil => rfl
  | cons c rest ih => simpa [precedes] using ih

theorem fillsSegments_drop
    {p : Pattern}
    (h : p.fillsSegments)
    (n : Nat) :
    fillsSegments (p.drop n) := by
  induction p generalizing n with
  | nil => simpa using h
  | cons token rest ih =>
      have hRest : fillsSegments rest := by
        cases token with
        | param =>
            rw [fillsSegments, Bool.and_eq_true] at h
            exact h.2
        | lit => exact h
        | rest => exact h
      cases n with
      | zero => exact h
      | succ n => exact ih hRest n

end Pattern

namespace Candidate

variable {α : Type}

------------------------------------------------------------
-- Segments
------------------------------------------------------------

theorem slashedSegment_of_last
    {value : List Char}
    (hValue : '/' ∉ value) :
    slashedSegment value = value := by
  have hSegment : segment value = value := by
    have hAll : ∀ c ∈ value, decide (c ≠ '/') = true := by
      intro c hMem
      simpa using ne_of_mem_of_not_mem hMem hValue
    rw [segment, ← List.append_nil value,
      List.takeWhile_append_of_pos (by simpa using hAll)]
    simp
  rw [slashedSegment, hSegment]
  exact List.take_of_length_le (Nat.le_succ _)

theorem slashedSegment_of_slash
    {value : List Char}
    (hValue : '/' ∉ value)
    (rest : List Char) :
    slashedSegment (value ++ '/' :: rest) = value ++ ['/'] := by
  have hSegment : segment (value ++ '/' :: rest) = value := by
    rw [segment, List.takeWhile_append_of_pos]
    · simp
    · intro c hMem
      simpa using ne_of_mem_of_not_mem hMem hValue
  rw [slashedSegment, hSegment, List.take_append,
    List.take_of_length_le (Nat.le_succ _)]
  simp

/- The first segment of a path is its last, or a slash ends it. -/
theorem last_or_slash
    (path : List Char) :
    '/' ∉ path ∨
      ∃ value rest,
        '/' ∉ value ∧ path = value ++ '/' :: rest := by
  by_cases hMem : '/' ∈ path
  · rcases List.eq_append_cons_of_mem hMem with
      ⟨value, rest, hPath, hValue⟩
    exact .inr ⟨value, rest, hValue, hPath⟩
  · exact .inl hMem

theorem slashedSegment_append_drop
    (path : List Char) :
    slashedSegment path ++
        path.drop (slashedSegment path).length =
      path := by
  rcases last_or_slash path with hLast | ⟨value, rest, hValue, rfl⟩
  · simp [slashedSegment_of_last hLast]
  · simp [slashedSegment_of_slash hValue]

theorem slashedSegment_ne_nil
    {path : List Char}
    (hPath : path ≠ []) :
    slashedSegment path ≠ [] := by
  rcases last_or_slash path with hLast | ⟨value, rest, hValue, rfl⟩
  · rwa [slashedSegment_of_last hLast]
  · simp [slashedSegment_of_slash hValue]

------------------------------------------------------------
-- What a parameter takes
------------------------------------------------------------

/- The longest of several texts is one of them. -/
theorem foldl_longer_eq_or_mem
    (first : List Char)
    (texts : List (List Char)) :
    texts.foldl longer first = first ∨
      texts.foldl longer first ∈ texts := by
  induction texts generalizing first with
  | nil => exact .inl rfl
  | cons text rest ih =>
      rw [List.foldl_cons, List.mem_cons]
      have hLonger :
          longer first text = first ∨ longer first text = text := by
        unfold longer
        split
        · exact .inr rfl
        · exact .inl rfl
      rcases ih (longer first text) with hFound | hMem
      · rw [hFound]
        exact hLonger.imp_right .inl
      · exact .inr (.inr hMem)

theorem length_le_foldl_longer
    {first : List Char}
    {texts : List (List Char)}
    {text : List Char}
    (hText : text = first ∨ text ∈ texts) :
    text.length ≤ (texts.foldl longer first).length := by
  induction texts generalizing first text with
  | nil => simp_all
  | cons next rest ih =>
      rw [List.foldl_cons]
      have hLonger :
          first.length ≤ (longer first next).length ∧
            next.length ≤ (longer first next).length := by
        unfold longer
        split <;> omega
      have hBetter :
          (longer first next).length ≤
            (rest.foldl longer (longer first next)).length :=
        ih (.inl rfl)
      rcases hText with rfl | hMem
      · omega
      · rcases List.mem_cons.mp hMem with rfl | hLater
        · omega
        · exact ih (.inr hLater)

/- The literal text that the parameter in front leaves. -/
def runOf
    (path : List Char)
    (routes : List (Candidate α)) : List Char :=
  longestRun (slashedSegment path) routes

/- What the parameter in front takes. -/
def valueOf
    (path : List Char)
    (routes : List (Candidate α)) : List Char :=
  (slashedSegment path).take
    ((slashedSegment path).length - (runOf path routes).length)

section Runs

variable (path : List Char) (routes : List (Candidate α))

/- No literal text, or one that some parameter leaves. -/
theorem runOf_eq_or_mem :
    runOf path routes = [] ∨
      runOf path routes ∈ routes.filterMap nextRun? ∧
        (runOf path routes).length <
          (slashedSegment path).length ∧
        runOf path routes <:+ slashedSegment path := by
  rcases foldl_longer_eq_or_mem []
      ((routes.filterMap nextRun?).filter fun run =>
        run.length < (slashedSegment path).length &&
          run.isSuffixOf (slashedSegment path)) with
    hNone | hMem
  · exact .inl hNone
  · rw [List.mem_filter, Bool.and_eq_true, decide_eq_true_eq,
      List.isSuffixOf_iff_suffix] at hMem
    exact .inr hMem

/- Any literal text that could be left is no longer. -/
theorem length_le_runOf
    {run : List Char}
    (hMem : run ∈ routes.filterMap nextRun?)
    (hLength : run.length < (slashedSegment path).length)
    (hSuffix : run <:+ slashedSegment path) :
    run.length ≤ (runOf path routes).length := by
  refine length_le_foldl_longer (.inr ?_)
  rw [List.mem_filter, Bool.and_eq_true, decide_eq_true_eq,
    List.isSuffixOf_iff_suffix]
  exact ⟨hMem, hLength, hSuffix⟩

/- The value and the literal text make up the segment. -/
theorem valueOf_append_runOf :
    valueOf path routes ++ runOf path routes =
      slashedSegment path := by
  rcases runOf_eq_or_mem path routes with
    hNone | ⟨_, _, before, hSuffix⟩
  · simp [valueOf, hNone]
  · rw [valueOf, ← hSuffix]
    simp

theorem valueOf_ne_nil
    (hPath : path ≠ []) :
    valueOf path routes ≠ [] := by
  intro hNone
  have hAll := valueOf_append_runOf path routes
  rw [hNone, List.nil_append] at hAll
  rcases runOf_eq_or_mem path routes with
    hEmpty | ⟨_, hLess, _⟩
  · exact slashedSegment_ne_nil hPath (hAll.symm.trans hEmpty)
  · rw [hAll] at hLess
    exact Nat.lt_irrefl _ hLess

/- The value, the literal text, and what is behind them. -/
theorem valueOf_append_runOf_append_drop :
    valueOf path routes ++
        (runOf path routes ++
          path.drop (slashedSegment path).length) =
      path := by
  rw [← List.append_assoc, valueOf_append_runOf,
    slashedSegment_append_drop]

end Runs

/-
  The value goes beyond the segment just when the path begins
  with a slash, or when it goes on behind the segment and no
  literal text is left of that.
-/
theorem mem_valueOf_iff
    (c : Char)
    (rest : List Char)
    (routes : List (Candidate α)) :
    '/' ∈ valueOf (c :: rest) routes ↔
      c = '/' ∨ runOf (c :: rest) routes = [] ∧ '/' ∈ rest := by
  have hAll := valueOf_append_runOf (c :: rest) routes
  rcases last_or_slash (c :: rest) with
    hLast | ⟨before, after, hBefore, hPath⟩
  · rw [slashedSegment_of_last hLast] at hAll
    rw [List.mem_cons, not_or] at hLast
    have hValue : '/' ∉ valueOf (c :: rest) routes := by
      intro hMem
      have hPath := List.mem_append_left
        (runOf (c :: rest) routes) hMem
      rw [hAll, List.mem_cons] at hPath
      exact hPath.elim hLast.1 hLast.2
    simp [hValue, hLast.2, Ne.symm hLast.1]
  · have hSlashed :
        slashedSegment (c :: rest) = before ++ ['/'] := by
      rw [hPath, slashedSegment_of_slash hBefore]
    rw [hSlashed] at hAll
    cases before with
    | nil =>
        have hFirst : c = '/' := (List.cons.inj hPath).1
        rcases List.append_eq_singleton_iff.mp hAll with
          ⟨hNone, _⟩ | ⟨hWhole, _⟩
        · exact absurd hNone
            (valueOf_ne_nil _ _ (List.cons_ne_nil _ _))
        · exact iff_of_true (by simp [hWhole]) (.inl hFirst)
    | cons first more =>
        have hFirst : c ≠ '/' := by
          rw [(List.cons.inj hPath).1]
          exact ne_of_mem_of_not_mem List.mem_cons_self hBefore
        have hRest : '/' ∈ rest := by
          rw [(List.cons.inj hPath).2]
          simp
        rcases List.eq_nil_or_concat
            (runOf (c :: rest) routes) with hNone | ⟨run, last, hRun⟩
        · rw [hNone, List.append_nil] at hAll
          simp [hAll, hNone, hRest]
        · -- the slash is the end of the literal text
          rw [hRun, List.concat_eq_append,
            ← List.append_assoc] at hAll
          have hValue := (List.append_inj' hAll rfl).1
          have hNot : '/' ∉ valueOf (c :: rest) routes := by
            intro hMem
            apply hBefore
            rw [← hValue]
            exact List.mem_append_left _ hMem
          simp [hNot, hFirst, hRun]

------------------------------------------------------------
-- The search
------------------------------------------------------------

theorem find_nil
    (path : List Char) :
    find path ([] : List (Candidate α)) = none := by
  rw [find]

theorem find_at_end
    (routes : List (Candidate α)) :
    find [] routes = complete? routes := by
  cases routes with
  | nil => rw [find]; rfl
  | cons first rest => rw [find]; simp

/- Whoever goes past a parameter has one in front. -/
theorem filterMap_pastParam?_eq_nil
    {routes : List (Candidate α)}
    (hNone : routes.filterMap nextRun? = [])
    (value run : List Char) :
    routes.filterMap (pastParam? value run) = [] := by
  rw [List.filterMap_eq_nil_iff] at hNone ⊢
  intro r hMem
  have hNext := hNone r hMem
  unfold nextRun? at hNext
  unfold pastParam?
  split at hNext
  · cases hNext
  · rfl

/- The search past a parameter, said by its value alone. -/
theorem past_eq
    (c : Char)
    (rest : List Char)
    (routes : List (Candidate α)) :
    (if c = '/' || (routes.filterMap nextRun?).isEmpty then none
      else
        let slashed := slashedSegment (c :: rest)
        let run := longestRun slashed routes
        let value :=
          slashed.take (slashed.length - run.length)
        if run.isEmpty && rest.contains '/' then none
        else
          find ((c :: rest).drop slashed.length)
            (routes.filterMap (pastParam? value run))) =
      if '/' ∈ valueOf (c :: rest) routes then none
      else
        find
          ((c :: rest).drop (slashedSegment (c :: rest)).length)
          (routes.filterMap
            (pastParam? (valueOf (c :: rest) routes)
              (runOf (c :: rest) routes))) := by
  have hValue := mem_valueOf_iff c rest routes
  by_cases hSlash : '/' ∈ valueOf (c :: rest) routes
  · rw [if_pos hSlash]
    rcases hValue.mp hSlash with hFirst | ⟨hRun, hRest⟩
    · simp [hFirst]
    · have hRun' :
          longestRun (slashedSegment (c :: rest)) routes = [] :=
        hRun
      simp [hRun', hRest]
  · rw [if_neg hSlash]
    rw [hValue, not_or, not_and] at hSlash
    by_cases hNone : routes.filterMap nextRun? = []
    · simp [hNone, filterMap_pastParam?_eq_nil hNone, find_nil]
    · have hRun :
          ¬ (longestRun (slashedSegment (c :: rest)) routes = [] ∧
            '/' ∈ rest) :=
        not_and.mpr hSlash.2
      simp [hSlash.1, hNone, hRun, valueOf, runOf]

/-
  The search tries literal text first, then a parameter whose
  value stays in its segment, and then one that takes the rest.
-/
theorem find_cons
    (c : Char)
    (rest : List Char)
    (routes : List (Candidate α)) :
    find (c :: rest) routes =
      ((find rest (routes.filterMap (pastLit? c))).or
        (if '/' ∈ valueOf (c :: rest) routes then none
          else
            find
              ((c :: rest).drop
                (slashedSegment (c :: rest)).length)
              (routes.filterMap
                (pastParam? (valueOf (c :: rest) routes)
                  (runOf (c :: rest) routes))))).or
        (complete?
          (routes.filterMap (pastRest? (c :: rest)))) := by
  cases routes with
  | nil => simp [find_nil, complete?]
  | cons first more =>
      rw [find]
      · generalize first :: more = routes
        rw [past_eq]
        cases find rest (routes.filterMap (pastLit? c)) with
        | some hit => rfl
        | none =>
            rw [Option.none_or]
            by_cases hSlash : '/' ∈ valueOf (c :: rest) routes
            · rw [if_pos hSlash]
              rfl
            · rw [if_neg hSlash]
              cases find
                  ((c :: rest).drop
                    (slashedSegment (c :: rest)).length)
                  (routes.filterMap
                    (pastParam? (valueOf (c :: rest) routes)
                      (runOf (c :: rest) routes))) <;>
                rfl
      · simp

------------------------------------------------------------
-- What is found fits
------------------------------------------------------------

/-
  A candidate arrives at a hit by a path: what is left of its
  pattern fits the path, and the hit stands for the same and has
  the parameters of both.
-/
def Arrives
    (r : Candidate α)
    (path : List Char)
    (hit : Candidate α) : Prop :=
  ∃ params,
    Pattern.Fits r.tokens path params ∧
      hit.value = r.value ∧
      hit.params = r.params ++ params

section Steps

variable {c : Char} {value run path : List Char}
variable {r r' hit : Candidate α}

theorem pastLit?_eq_some_iff :
    pastLit? c r = some r' ↔
      r.tokens = .lit c :: r'.tokens ∧
        r'.params = r.params ∧ r'.value = r.value := by
  rcases r with ⟨tokens, params, v⟩
  rcases r' with ⟨tokens', params', v'⟩
  unfold pastLit?
  split
  · split <;> simp_all [eq_comm]
  · simp_all

theorem pastParam?_eq_some
    (hPast : pastParam? value run r = some r') :
    ∃ name tokens,
      r.tokens = .param name :: tokens ∧
        literalRun tokens = run ∧
        r'.tokens = tokens.drop run.length ∧
        r'.params = r.params ++ [(name, String.ofList value)] ∧
        r'.value = r.value := by
  unfold pastParam? at hPast
  split at hPast
  · next name tokens hTokens =>
      split at hPast
      · next hRun =>
          cases hPast
          exact ⟨name, tokens, hTokens, hRun, rfl, rfl, rfl⟩
      · cases hPast
  · cases hPast

theorem pastRest?_eq_some
    (hPast : pastRest? path r = some r') :
    ∃ name,
      r.tokens = [.rest name] ∧
        r'.tokens = [] ∧
        r'.params = r.params ++ [(name, String.ofList path)] ∧
        r'.value = r.value := by
  unfold pastRest? at hPast
  split at hPast
  · next name hTokens =>
      cases hPast
      exact ⟨name, hTokens, rfl, rfl, rfl⟩
  · cases hPast

/- The literal text behind a parameter stands in the pattern. -/
theorem map_lit_literalRun_append_drop
    (tokens : Pattern) :
    (literalRun tokens).map .lit ++
        tokens.drop (literalRun tokens).length =
      tokens := by
  induction tokens with
  | nil => rfl
  | cons token rest ih =>
      cases token with
      | lit c =>
          rw [literalRun]
          split
          · rfl
          · simpa using ih
      | param => rfl
      | rest => rfl

end Steps

section Arrivals

variable {c : Char} {value run path : List Char}
variable {r r' hit : Candidate α}

/- A literal character is taken from the path. -/
theorem Arrives.of_pastLit?
    (hPast : pastLit? c r = some r')
    (h : r'.Arrives path hit) :
    r.Arrives (c :: path) hit := by
  rcases pastLit?_eq_some_iff.mp hPast with
    ⟨hTokens, hParams, hValue⟩
  rcases h with ⟨params, hFits, hStands, hTaken⟩
  refine ⟨params, ?_, hStands.trans hValue, ?_⟩
  · rw [hTokens]
    exact .lit hFits
  · rw [hTaken, hParams]

/- A parameter takes its value, and the text behind it follows. -/
theorem Arrives.of_pastParam?
    (hPast : pastParam? value run r = some r')
    (hValue : value ≠ [])
    (hSlash : '/' ∉ value)
    (h : r'.Arrives path hit) :
    r.Arrives (value ++ (run ++ path)) hit := by
  rcases pastParam?_eq_some hPast with
    ⟨name, tokens, hTokens, hRun, hLeft, hParams, hStand⟩
  rcases h with ⟨params, hFits, hStands, hTaken⟩
  refine ⟨(name, String.ofList value) :: params, ?_,
    hStands.trans hStand, ?_⟩
  · rw [hLeft] at hFits
    have hBehind := hFits.literal run
    rw [← hRun, map_lit_literalRun_append_drop, hRun] at hBehind
    rw [hTokens]
    exact .param hValue hSlash hBehind
  · rw [hTaken, hParams, List.append_assoc,
      List.singleton_append]

/- A parameter that takes the rest takes all that is left. -/
theorem Arrives.of_pastRest?
    (hPast : pastRest? path r = some r')
    (hPath : path ≠ []) :
    r.Arrives path r' := by
  rcases pastRest?_eq_some hPast with
    ⟨name, hTokens, _, hParams, hValue⟩
  refine ⟨[(name, String.ofList path)], ?_, hValue, hParams⟩
  rw [hTokens]
  exact .rest hPath

end Arrivals

/- A candidate that has nothing left has arrived at the end. -/
theorem arrives_of_complete?
    {routes : List (Candidate α)}
    {hit : Candidate α}
    (hFound : complete? routes = some hit) :
    hit ∈ routes ∧ hit.Arrives [] hit := by
  have hDone := List.find?_some hFound
  rw [List.isEmpty_iff] at hDone
  refine ⟨List.mem_of_find?_eq_some hFound, [], ?_, rfl,
    (List.append_nil _).symm⟩
  rw [hDone]
  exact .nil

/- The three ways to go on, one of which the search took. -/
theorem find_cons_eq_some
    {c : Char} {rest : List Char}
    {routes : List (Candidate α)} {hit : Candidate α}
    (hFind : find (c :: rest) routes = some hit) :
    find rest (routes.filterMap (pastLit? c)) = some hit ∨
      '/' ∉ valueOf (c :: rest) routes ∧
        find
            ((c :: rest).drop
              (slashedSegment (c :: rest)).length)
            (routes.filterMap
              (pastParam? (valueOf (c :: rest) routes)
                (runOf (c :: rest) routes))) = some hit ∨
      complete? (routes.filterMap (pastRest? (c :: rest))) =
        some hit := by
  rw [find_cons, Option.or_eq_some_iff, Option.or_eq_some_iff]
    at hFind
  rcases hFind with (hLit | ⟨_, hParam⟩) | ⟨_, hRest⟩
  · exact .inl hLit
  · split at hParam
    · cases hParam
    · next hSlash => exact .inr (.inl ⟨hSlash, hParam⟩)
  · exact .inr (.inr hRest)

/- Behind the first segment of a path less is left of it. -/
theorem length_drop_slashedSegment
    {path : List Char}
    (hPath : path ≠ []) :
    (path.drop (slashedSegment path).length).length <
      path.length := by
  have hSome :=
    List.length_pos_iff.mpr (slashedSegment_ne_nil hPath)
  have hAll := List.length_pos_iff.mpr hPath
  rw [List.length_drop]
  omega

/- What the search ends with is arrived at by a candidate. -/
theorem arrives_of_find
    {path : List Char}
    {routes : List (Candidate α)}
    {hit : Candidate α}
    (hFind : find path routes = some hit) :
    ∃ r ∈ routes, r.Arrives path hit := by
  -- The search goes on with what is left of the path.
  induction hLength : path.length using Nat.strongRecOn
    generalizing path routes with
  | ind length ih =>
    cases path with
    | nil =>
        rw [find_at_end] at hFind
        exact ⟨hit, arrives_of_complete? hFind⟩
    | cons c rest =>
        have hPath : c :: rest ≠ [] := List.cons_ne_nil c rest
        rcases find_cons_eq_some hFind with
          hLit | ⟨hSlash, hParam⟩ | hRest
        · rcases ih _ (by simp [← hLength]) hLit rfl with
            ⟨r', hMem, hArrives⟩
          rcases List.mem_filterMap.mp hMem with ⟨r, hr, hPast⟩
          exact ⟨r, hr, hArrives.of_pastLit? hPast⟩
        · have hShorter := length_drop_slashedSegment hPath
          rw [hLength] at hShorter
          rcases ih _ hShorter hParam rfl with
            ⟨r', hMem, hArrives⟩
          rcases List.mem_filterMap.mp hMem with ⟨r, hr, hPast⟩
          have hAll := hArrives.of_pastParam? hPast
            (valueOf_ne_nil _ _ hPath) hSlash
          rw [valueOf_append_runOf_append_drop] at hAll
          exact ⟨r, hr, hAll⟩
        · rcases List.mem_filterMap.mp
              (arrives_of_complete? hRest).1 with ⟨r, hr, hPast⟩
          exact ⟨r, hr, .of_pastRest? hPast hPath⟩

------------------------------------------------------------
-- What is found is most specific
------------------------------------------------------------

/- What is left of the pattern of a candidate fits the path. -/
def Fits
    (r : Candidate α)
    (path : List Char) : Prop :=
  ∃ params, Pattern.Fits r.tokens path params

/-
  What the search answers about a path: nothing when no
  candidate fits it, and otherwise what a candidate arrives at
  that no other one that fits precedes.
-/
inductive Answers
    (path : List Char)
    (routes : List (Candidate α)) :
    Option (Candidate α) → Prop where
  | nothing
      (hNone : ∀ r ∈ routes, ¬ r.Fits path) :
      Answers path routes none
  | hit
      {hit picked : Candidate α}
      (hMem : picked ∈ routes)
      (hArrives : picked.Arrives path hit)
      (hFirst :
        ∀ r ∈ routes, r.Fits path →
          Pattern.precedes r.tokens picked.tokens = false) :
      Answers path routes (some hit)

section Filling

variable {path : List Char} {routes : List (Candidate α)}

/- Behind a parameter that fills its segment, at most a slash. -/
theorem tokens_of_fills
    {name : String} {tokens : Pattern}
    (hFills :
      Pattern.fillsSegments (.param name :: tokens) = true) :
    tokens = [] ∨ ∃ more, tokens = .lit '/' :: more := by
  rw [Pattern.fillsSegments, Bool.and_eq_true] at hFills
  cases tokens with
  | nil => exact .inl rfl
  | cons token more =>
      have hSlash : token = .lit '/' := by simpa using hFills.1
      exact .inr ⟨more, by rw [hSlash]⟩

theorem nextRun?_of_fills
    {r : Candidate α} {run : List Char}
    (hFills : Pattern.fillsSegments r.tokens = true)
    (hNext : nextRun? r = some run) :
    run = [] ∨ run = ['/'] := by
  unfold nextRun? at hNext
  split at hNext
  · next name tokens hTokens =>
      cases hNext
      rw [hTokens] at hFills
      rcases tokens_of_fills hFills with rfl | ⟨more, rfl⟩
      · exact .inl rfl
      · exact .inr rfl
  · cases hNext

variable
    (hFills :
      ∀ r ∈ routes, Pattern.fillsSegments r.tokens = true)

include hFills

/- No literal text is left, or the slash behind the segment. -/
theorem runOf_of_fills
    (path : List Char) :
    runOf path routes = [] ∨
      runOf path routes = ['/'] ∧
        ['/'] <:+ slashedSegment path := by
  rcases runOf_eq_or_mem path routes with
    hNone | ⟨hMem, _, hSuffix⟩
  · exact .inl hNone
  · rcases List.mem_filterMap.mp hMem with ⟨r, hr, hNext⟩
    refine (nextRun?_of_fills (hFills r hr) hNext).imp_right ?_
    intro hRun
    rw [hRun] at hSuffix
    exact ⟨hRun, hSuffix⟩

/-
  A parameter that fills its segment takes what the search takes
  it to, and leaves the same literal text.
-/
theorem fits_past_param
    {r : Candidate α}
    (hMem : r ∈ routes)
    {name : String} {tokens : Pattern}
    (hTokens : r.tokens = .param name :: tokens)
    (hFits : r.Fits path) :
    '/' ∉ valueOf path routes ∧
      literalRun tokens = runOf path routes ∧
      ∃ params,
        Pattern.Fits (tokens.drop (runOf path routes).length)
          (path.drop (slashedSegment path).length) params := by
  rcases hFits with ⟨params, hFits⟩
  rw [hTokens] at hFits
  have hRuns := runOf_of_fills hFills path
  have hShape := tokens_of_fills (hTokens ▸ hFills r hMem)
  have hValue := valueOf_append_runOf path routes
  cases hFits with
  | @param _ _ value left params hSome hSlash hLeft =>
      rcases hShape with rfl | ⟨more, rfl⟩
      · -- the parameter takes all that there is
        cases hLeft
        rw [List.append_nil] at hRuns hValue ⊢
        rw [slashedSegment_of_last hSlash] at hRuns hValue ⊢
        have hRun : runOf value routes = [] := by
          refine hRuns.resolve_right ?_
          rintro ⟨_, hSuffix⟩
          exact hSlash (hSuffix.subset List.mem_cons_self)
        rw [hRun, List.append_nil] at hValue
        rw [hRun, hValue, List.drop_length]
        exact ⟨hSlash, rfl, [], .nil⟩
      · -- and here all in front of the slash
        cases hLeft with
        | @lit _ _ path params hBehind =>
            rw [slashedSegment_of_slash hSlash]
              at hRuns hValue ⊢
            have hNext :
                ['/'] ∈ routes.filterMap nextRun? := by
              refine List.mem_filterMap.mpr ⟨r, hMem, ?_⟩
              rw [nextRun?, hTokens]
              rfl
            have hRun :
                runOf (value ++ '/' :: path) routes = ['/'] := by
              refine (hRuns.resolve_left ?_).1
              intro hNone
              have hLess := length_le_runOf
                (value ++ '/' :: path) routes hNext
              rw [slashedSegment_of_slash hSlash, hNone] at hLess
              exact absurd (hLess
                (by simpa [List.length_pos_iff] using hSome)
                ⟨value, rfl⟩) (by decide)
            rw [hRun] at hValue ⊢
            have hTaken := (List.append_inj' hValue rfl).1
            rw [hTaken]
            refine ⟨hSlash, rfl, params, ?_⟩
            simpa using hBehind

end Filling

section Steps

variable {c : Char} {rest : List Char}
variable {routes : List (Candidate α)}

/- A candidate that fits a path has one of three in front. -/
theorem Fits.front
    {r : Candidate α}
    (hFits : r.Fits (c :: rest)) :
    (∃ r', pastLit? c r = some r' ∧ r'.Fits rest) ∨
      (∃ name tokens, r.tokens = .param name :: tokens) ∨
      ∃ name, r.tokens = [.rest name] := by
  rcases hFits with ⟨params, hFits⟩
  generalize hTokens : r.tokens = tokens at hFits
  generalize hPath : c :: rest = path at hFits
  cases hFits with
  | nil => cases hPath
  | @lit _ p _ _ hBehind =>
      cases hPath
      refine .inl ⟨{ r with tokens := p }, ?_, params, hBehind⟩
      exact pastLit?_eq_some_iff.mpr ⟨hTokens, rfl, rfl⟩
  | param => exact .inr (.inl ⟨_, _, rfl⟩)
  | rest => exact .inr (.inr ⟨_, rfl⟩)

/- At the end of the path nothing may be left of a pattern. -/
theorem tokens_of_fits_nil
    {r : Candidate α}
    (hFits : r.Fits []) :
    r.tokens = [] := by
  rcases hFits with ⟨params, hFits⟩
  generalize r.tokens = tokens at hFits
  generalize hPath : ([] : List Char) = path at hFits
  cases hFits with
  | nil => rfl
  | lit => cases hPath
  | param hSome =>
      exact absurd (List.append_eq_nil_iff.mp hPath.symm).1 hSome
  | rest hSome => exact absurd hPath.symm hSome

/- The answer at the end of the path. -/
theorem answers_at_end :
    Answers [] routes (complete? routes) := by
  cases hFound : complete? routes with
  | none =>
      refine .nothing ?_
      intro r hMem hFits
      have hLeft := List.find?_eq_none.mp hFound r hMem
      rw [tokens_of_fits_nil hFits] at hLeft
      exact hLeft rfl
  | some hit =>
      rcases arrives_of_complete? hFound with ⟨hMem, hArrives⟩
      refine .hit hMem hArrives ?_
      intro r _ hFits
      rw [tokens_of_fits_nil hFits, Pattern.precedes]
      all_goals simp

/- What is found past a literal character comes first. -/
theorem Answers.of_pastLit?
    {hit : Candidate α}
    (h :
      Answers rest (routes.filterMap (pastLit? c)) (some hit)) :
    Answers (c :: rest) routes (some hit) := by
  cases h with
  | @hit _ picked' hMem hArrives hFirst =>
      rcases List.mem_filterMap.mp hMem with
        ⟨picked, hPicked, hPast⟩
      refine .hit hPicked (hArrives.of_pastLit? hPast) ?_
      intro r hr hFits
      have hTokens := (pastLit?_eq_some_iff.mp hPast).1
      rcases hFits.front with
        ⟨r', hPast', hFits'⟩ | ⟨_, _, hParam⟩ | ⟨_, hRest⟩
      · have hLess := hFirst r'
          (List.mem_filterMap.mpr ⟨r, hr, hPast'⟩) hFits'
        rw [(pastLit?_eq_some_iff.mp hPast').1, hTokens]
        simpa [Pattern.precedes] using hLess
      · rw [hParam, hTokens]
        rfl
      · rw [hRest, hTokens]
        rfl

/- Without a hit there, no literal character leads on. -/
theorem not_fits_of_pastLit?
    (h : Answers rest (routes.filterMap (pastLit? c)) none)
    {r r' : Candidate α}
    (hMem : r ∈ routes)
    (hPast : pastLit? c r = some r') :
    ¬ r'.Fits rest := by
  cases h with
  | nothing hNone =>
      exact hNone r' (List.mem_filterMap.mpr ⟨r, hMem, hPast⟩)

end Steps

section Params

variable {path : List Char} {routes : List (Candidate α)}

/- A parameter that takes the rest comes last. -/
theorem answers_of_rests
    (hPath : path ≠ [])
    (hFront :
      ∀ r ∈ routes, r.Fits path →
        ∃ name, r.tokens = [.rest name]) :
    Answers path routes
      (complete? (routes.filterMap (pastRest? path))) := by
  cases hFound :
      complete? (routes.filterMap (pastRest? path)) with
  | none =>
      refine .nothing ?_
      intro r hMem hFits
      rcases hFront r hMem hFits with ⟨name, hTokens⟩
      have hPast :
          pastRest? path r =
            some
              { r with
                tokens := []
                params := r.params ++
                  [(name, String.ofList path)] } := by
        rw [pastRest?, hTokens]
      exact List.find?_eq_none.mp hFound _
        (List.mem_filterMap.mpr ⟨r, hMem, hPast⟩) rfl
  | some hit =>
      rcases List.mem_filterMap.mp (arrives_of_complete? hFound).1
        with ⟨picked, hPicked, hPast⟩
      rcases pastRest?_eq_some hPast with ⟨_, hTokens, _⟩
      refine .hit hPicked (.of_pastRest? hPast hPath) ?_
      intro r hr hFits
      rcases hFront r hr hFits with ⟨_, hRest⟩
      rw [hRest, hTokens]
      rfl

variable
    (hFills :
      ∀ r ∈ routes, Pattern.fillsSegments r.tokens = true)

include hFills

/- A parameter that fits leads past its value. -/
theorem pastParam?_of_fits
    {r : Candidate α}
    (hMem : r ∈ routes)
    {name : String} {tokens : Pattern}
    (hTokens : r.tokens = .param name :: tokens)
    (hFits : r.Fits path) :
    ∃ r' ∈ routes.filterMap
        (pastParam? (valueOf path routes) (runOf path routes)),
      r'.Fits (path.drop (slashedSegment path).length) ∧
        r'.tokens = tokens.drop (runOf path routes).length := by
  rcases fits_past_param hFills hMem hTokens hFits with
    ⟨_, hRun, params, hBehind⟩
  have hPast :
      pastParam? (valueOf path routes) (runOf path routes) r =
        some
          { r with
            tokens := tokens.drop (runOf path routes).length
            params := r.params ++
              [(name, String.ofList (valueOf path routes))] } := by
    rw [pastParam?, hTokens]
    exact if_pos hRun
  exact ⟨_, List.mem_filterMap.mpr ⟨r, hMem, hPast⟩,
    ⟨params, hBehind⟩, rfl⟩

/- What is found past a parameter comes first, too. -/
theorem Answers.of_pastParam?
    (hPath : path ≠ [])
    (hSlash : '/' ∉ valueOf path routes)
    (hFront :
      ∀ r ∈ routes, r.Fits path →
        (∃ name tokens, r.tokens = .param name :: tokens) ∨
          ∃ name, r.tokens = [.rest name])
    {hit : Candidate α}
    (h :
      Answers (path.drop (slashedSegment path).length)
        (routes.filterMap
          (pastParam? (valueOf path routes) (runOf path routes)))
        (some hit)) :
    Answers path routes (some hit) := by
  cases h with
  | @hit _ picked' hMem hArrives hFirst =>
      rcases List.mem_filterMap.mp hMem with
        ⟨picked, hPicked, hPast⟩
      rcases pastParam?_eq_some hPast with
        ⟨name, tokens, hTokens, hRun, hLeft, _⟩
      have hAll := hArrives.of_pastParam? hPast
        (valueOf_ne_nil _ _ hPath) hSlash
      rw [valueOf_append_runOf_append_drop] at hAll
      refine .hit hPicked hAll ?_
      intro r hr hFits
      rw [hTokens]
      rcases hFront r hr hFits with
        ⟨name', tokens', hParam⟩ | ⟨_, hRest⟩
      · rcases pastParam?_of_fits hFills hr hParam hFits with
          ⟨r', hMem', hFits', hLeft'⟩
        have hRun' := (fits_past_param hFills hr hParam hFits).2.1
        -- the same literal text stands behind both
        have hLess := hFirst r' hMem' hFits'
        rw [hLeft, hLeft',
          ← Pattern.precedes_literal (runOf path routes)] at hLess
        rw [hParam, Pattern.precedes,
          ← map_lit_literalRun_append_drop tokens,
          ← map_lit_literalRun_append_drop tokens', hRun, hRun']
        exact hLess
      · rw [hRest]
        rfl

/- Without a hit there, no parameter leads on. -/
theorem not_fits_of_pastParam?
    (h :
      Answers (path.drop (slashedSegment path).length)
        (routes.filterMap
          (pastParam? (valueOf path routes) (runOf path routes)))
        none)
    {r : Candidate α}
    (hMem : r ∈ routes)
    {name : String} {tokens : Pattern}
    (hTokens : r.tokens = .param name :: tokens) :
    ¬ r.Fits path := by
  intro hFits
  rcases pastParam?_of_fits hFills hMem hTokens hFits with
    ⟨r', hMem', hFits', _⟩
  cases h with
  | nothing hNone => exact hNone r' hMem' hFits'

/- Where no literal character leads on. -/
theorem answers_past_lits
    (hPath : path ≠ [])
    (hFront :
      ∀ r ∈ routes, r.Fits path →
        (∃ name tokens, r.tokens = .param name :: tokens) ∨
          ∃ name, r.tokens = [.rest name])
    {past : Option (Candidate α)}
    (hPast :
      Answers (path.drop (slashedSegment path).length)
        (routes.filterMap
          (pastParam? (valueOf path routes) (runOf path routes)))
        past) :
    Answers path routes
      ((if '/' ∈ valueOf path routes then none else past).or
        (complete? (routes.filterMap (pastRest? path)))) := by
  by_cases hSlash : '/' ∈ valueOf path routes
  · rw [if_pos hSlash, Option.none_or]
    refine answers_of_rests hPath ?_
    intro r hr hFits
    refine (hFront r hr hFits).resolve_left ?_
    rintro ⟨_, _, hParam⟩
    exact (fits_past_param hFills hr hParam hFits).1 hSlash
  · rw [if_neg hSlash]
    cases past with
    | some hit =>
        exact hPast.of_pastParam? hFills hPath hSlash hFront
    | none =>
        rw [Option.none_or]
        refine answers_of_rests hPath ?_
        intro r hr hFits
        refine (hFront r hr hFits).resolve_left ?_
        rintro ⟨_, _, hParam⟩
        exact not_fits_of_pastParam? hFills hPast hr hParam hFits

end Params

section Kept

variable {routes : List (Candidate α)} {r' : Candidate α}

variable
    (hFills :
      ∀ r ∈ routes, Pattern.fillsSegments r.tokens = true)

include hFills

theorem fillsSegments_of_pastLit?
    {c : Char}
    (hMem : r' ∈ routes.filterMap (pastLit? c)) :
    Pattern.fillsSegments r'.tokens = true := by
  rcases List.mem_filterMap.mp hMem with ⟨r, hr, hPast⟩
  have hLeft := Pattern.fillsSegments_drop (hFills r hr) 1
  rw [(pastLit?_eq_some_iff.mp hPast).1] at hLeft
  exact hLeft

theorem fillsSegments_of_pastParam?
    {value run : List Char}
    (hMem : r' ∈ routes.filterMap (pastParam? value run)) :
    Pattern.fillsSegments r'.tokens = true := by
  rcases List.mem_filterMap.mp hMem with ⟨r, hr, hPast⟩
  rcases pastParam?_eq_some hPast with
    ⟨_, _, hTokens, _, hBehind, _⟩
  have hLeft :=
    Pattern.fillsSegments_drop (hFills r hr) (run.length + 1)
  rw [hTokens, List.drop_succ_cons] at hLeft
  rw [hBehind]
  exact hLeft

end Kept

/-
  Among patterns whose parameters fill their segments the search
  misses nothing, and ends with one that is most specific.
-/
theorem find_answers
    {routes : List (Candidate α)}
    (hFills :
      ∀ r ∈ routes, Pattern.fillsSegments r.tokens = true)
    (path : List Char) :
    Answers path routes (find path routes) := by
  -- Again with what is left of the path.
  induction hLength : path.length using Nat.strongRecOn
    generalizing path routes with
  | ind length ih =>
    cases path with
    | nil =>
        rw [find_at_end]
        exact answers_at_end
    | cons c rest =>
        have hPath : c :: rest ≠ [] := List.cons_ne_nil c rest
        have hLit := ih rest.length (by simp [← hLength])
          (fun _ => fillsSegments_of_pastLit? hFills (c := c))
          rest rfl
        rw [find_cons, Option.or_assoc]
        cases hFound : find rest (routes.filterMap (pastLit? c)) with
        | some hit =>
            rw [hFound] at hLit
            exact hLit.of_pastLit?
        | none =>
            rw [hFound] at hLit
            rw [Option.none_or]
            refine answers_past_lits hFills hPath ?_ ?_
            · intro r hr hFits
              refine hFits.front.resolve_left ?_
              rintro ⟨r', hPast, hFits'⟩
              exact not_fits_of_pastLit? hLit hr hPast hFits'
            · have hShorter := length_drop_slashedSegment hPath
              rw [hLength] at hShorter
              exact ih _ hShorter
                (fun _ => fillsSegments_of_pastParam? hFills) _ rfl

end Candidate

------------------------------------------------------------
-- Routers
------------------------------------------------------------

namespace Router

variable {α : Type}

/- What the search of a router starts from. -/
theorem find?_eq_some
    {router : Router α} {path : String}
    {value : α} {params : List (String × String)}
    (hFound : router.find? path = some (value, params)) :
    ∃ hit,
      Candidate.find path.toList
          (router.routes.map fun (tokens, value) =>
            { tokens, value }) = some hit ∧
        hit.value = value ∧ hit.params = params := by
  rw [find?, Option.map_eq_some_iff] at hFound
  rcases hFound with ⟨hit, hFind, hEq⟩
  cases hEq
  exact ⟨hit, hFind, rfl, rfl⟩

/- A path leads to what is registered for a pattern it fits. -/
theorem fits_of_find?
    {router : Router α} {path : String}
    {value : α} {params : List (String × String)}
    (hFound : router.find? path = some (value, params)) :
    ∃ pattern,
      (pattern, value) ∈ router.routes ∧
        Pattern.Fits pattern path.toList params := by
  rcases find?_eq_some hFound with ⟨hit, hFind, rfl, rfl⟩
  rcases Candidate.arrives_of_find hFind with
    ⟨r, hMem, params, hFits, hStands, hTaken⟩
  rcases List.mem_map.mp hMem with ⟨⟨pattern, value⟩, hr, rfl⟩
  rw [hStands, hTaken]
  exact ⟨pattern, hr, hFits⟩

/-
  A router is specific at a path: if some pattern fits, it finds
  what stands at one of those that no other precedes.
-/
def IsSpecificAt
    (router : Router α)
    (path : String) : Prop :=
  ∀ q ∈ router.routes,
    (∃ params, Pattern.Fits q.1 path.toList params) →
      ∃ pattern value params,
        router.find? path = some (value, params) ∧
          (pattern, value) ∈ router.routes ∧
          Pattern.Fits pattern path.toList params ∧
          ∀ q' ∈ router.routes,
            (∃ params, Pattern.Fits q'.1 path.toList params) →
              Pattern.precedes q'.1 pattern = false

/- It is where all parameters fill their segments. -/
theorem isSpecificAt_of_fillsSegments
    {router : Router α}
    (hFills :
      ∀ q ∈ router.routes, Pattern.fillsSegments q.1 = true)
    (path : String) :
    router.IsSpecificAt path := by
  intro q hq hFits
  let start : List (Candidate α) :=
    router.routes.map fun (tokens, value) => { tokens, value }
  have hMemStart :
      ∀ q' ∈ router.routes,
        ({ tokens := q'.1, value := q'.2 } : Candidate α) ∈
          start :=
    fun q' hMem => List.mem_map_of_mem hMem
  have hStart :
      ∀ r ∈ start, Pattern.fillsSegments r.tokens = true := by
    intro r hMem
    rcases List.mem_map.mp hMem with ⟨q', hq', rfl⟩
    exact hFills q' hq'
  have hAnswers := Candidate.find_answers hStart path.toList
  generalize hFind : Candidate.find path.toList start = found
    at hAnswers
  cases hAnswers with
  | nothing hNone => exact absurd hFits (hNone _ (hMemStart q hq))
  | @hit hit picked hMem hArrives hFirst =>
      rcases List.mem_map.mp hMem with ⟨⟨pattern, value⟩, hp, rfl⟩
      rcases hArrives with ⟨params, hFitsPicked, hStands, hTaken⟩
      refine ⟨pattern, value, params, ?_, hp, hFitsPicked, ?_⟩
      · rw [find?, hFind, Option.map_some, hStands, hTaken]
        rfl
      · intro q' hq' hFits'
        exact hFirst _ (hMemStart q' hq') hFits'

end Router

end Courier.Routing
