import Courier.Proofs.Routing.Search

/-
  What a server relies on in its router, whichever it is. What
  is found for a path has been inserted for a pattern that the
  path fits; and at some paths no other pattern which fits is
  more specific. The first holds of the router here at every
  path, the second where parameters fill their segments.

  Key definitions include:
    * `PathRouter.Holds`
    * `PathRouter.FitsPath`
    * `PathRouter.FindsInserted`
    * `PathRouter.IsSpecificAt`

  Main statements:
    * `Router.mem_routes_iff`
    * `Router.findsInserted`
    * `Router.isSpecificAt_of_patterns`
-/

namespace Courier.Routing

------------------------------------------------------------
-- Any router
------------------------------------------------------------

namespace PathRouter

variable {ρ : Type → Type} [PathRouter ρ] {α : Type}

/-
  A router holds paths and values in the order in which it has
  taken them up.
-/
inductive Holds : ρ α → List (String × α) → Prop where
  | empty :
      Holds PathRouter.empty []
  | insert
      {router router' : ρ α} {entries : List (String × α)}
      {path : String} {value : α}
      (hHolds : Holds router entries)
      (hInsert : insert? router path value = .ok router') :
      Holds router' (entries ++ [(path, value)])

/- Read as a pattern, one path fits another. -/
def FitsPath
    (written path : String)
    (pattern : Pattern)
    (params : List (String × String)) : Prop :=
  Pattern.ofPath written = .ok pattern ∧
    Pattern.Fits pattern path.toList params

/-
  A router finds what was inserted for a pattern that the path
  fits, with the parameters that it takes from the path.
-/
structure FindsInserted
    (ρ : Type → Type) [PathRouter ρ] : Prop where
  of_find? :
    ∀ {α : Type} {router : ρ α} {entries : List (String × α)}
      {path : String} {value : α}
      {params : List (String × String)},
      Holds router entries →
        find? router path = some (value, params) →
          ∃ written pattern,
            (written, value) ∈ entries ∧
              FitsPath written path pattern params

/-
  A router is specific at a path: if some pattern fits, it finds
  what stands at one of those that no other precedes.
-/
def IsSpecificAt
    (router : ρ α)
    (path : String) : Prop :=
  ∀ entries, Holds router entries →
    ∀ entry ∈ entries,
      (∃ pattern params,
        FitsPath entry.1 path pattern params) →
        ∃ written pattern value params,
          find? router path = some (value, params) ∧
            (written, value) ∈ entries ∧
            FitsPath written path pattern params ∧
            ∀ other ∈ entries, ∀ pattern' params',
              FitsPath other.1 path pattern' params' →
                Pattern.precedes pattern' pattern = false

end PathRouter

------------------------------------------------------------
-- The router here
------------------------------------------------------------

namespace Router

open PathRouter

variable {α : Type} {router : Router α}
variable {entries : List (String × α)}

/- What is taken up is read as a pattern. -/
theorem insert?_eq_ok
    {router' : Router α} {path : String} {value : α}
    (hInsert : insert? router path value = .ok router') :
    ∃ pattern,
      Pattern.ofPath path = .ok pattern ∧
        router' = router.insert pattern value := by
  simp only [insert?] at hInsert
  split at hInsert
  · cases hInsert
  · next pattern hPattern =>
      split at hInsert
      · cases hInsert
      · cases hInsert
        exact ⟨pattern, hPattern, rfl⟩

/- The patterns of a router are those of the paths it holds. -/
theorem mem_routes_iff
    (hHolds : Holds router entries)
    {route : Pattern × α} :
    route ∈ router.routes ↔
      ∃ written,
        (written, route.2) ∈ entries ∧
          Pattern.ofPath written = .ok route.1 := by
  induction hHolds with
  | empty => simp [PathRouter.empty]
  | @insert _ _ _ path value _ hInsert ih =>
      rcases insert?_eq_ok hInsert with ⟨pattern, hPattern, rfl⟩
      rw [insert, List.mem_append, ih, List.mem_singleton]
      constructor
      · rintro (⟨written, hMem, hReads⟩ | rfl)
        · exact ⟨written, List.mem_append_left _ hMem, hReads⟩
        · exact ⟨path, List.mem_append_right _ (by simp),
            hPattern⟩
      · rintro ⟨written, hMem, hReads⟩
        rcases List.mem_append.mp hMem with hMem | hLast
        · exact .inl ⟨written, hMem, hReads⟩
        · right
          rw [List.mem_singleton, Prod.mk.injEq] at hLast
          rw [hLast.1, hPattern] at hReads
          cases hReads
          rw [← hLast.2]

/- The router finds what was inserted. -/
theorem findsInserted : FindsInserted Router where
  of_find? hHolds hFind := by
    rcases fits_of_find? hFind with ⟨pattern, hMem, hFits⟩
    rcases (mem_routes_iff hHolds).mp hMem with
      ⟨written, hIn, hPattern⟩
    exact ⟨written, pattern, hIn, hPattern, hFits⟩

/- It is specific where its patterns are. -/
theorem isSpecificAt_of_patterns
    {path : String}
    (hSpecific : router.IsSpecificAt path) :
    PathRouter.IsSpecificAt router path := by
  rintro entries hHolds entry hEntry ⟨p, params, hReads, hFits⟩
  have hRegistered :
      ∀ other ∈ entries, ∀ pattern,
        Pattern.ofPath other.1 = .ok pattern →
          (pattern, other.2) ∈ router.routes :=
    fun other hOther _ hReads =>
      (mem_routes_iff hHolds).mpr ⟨other.1, hOther, hReads⟩
  rcases hSpecific _ (hRegistered entry hEntry p hReads)
      ⟨params, hFits⟩ with
    ⟨pattern, value, taken, hFind, hMem, hFitsTaken, hFirst⟩
  rcases (mem_routes_iff hHolds).mp hMem with
    ⟨written, hIn, hPattern⟩
  refine ⟨written, pattern, value, taken, hFind, hIn,
    ⟨hPattern, hFitsTaken⟩, ?_⟩
  rintro other hOther pattern' params' ⟨hReads', hFits'⟩
  exact hFirst _ (hRegistered other hOther _ hReads')
    ⟨params', hFits'⟩

end Router

end Courier.Routing
