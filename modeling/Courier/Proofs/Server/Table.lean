import Courier.Proofs.Association
import Courier.Proofs.Routing.Inserted
import Courier.Server.Basic

/-
  What building a server makes of a tree of routes. Routes are
  sorted by path, each path keeping its routes in order, and the
  router holds these groups. Two routes of one path and one
  method stop the build.

  Key definitions include:
    * `ResolvedRoute.Twins`
    * `Server.Distinct`
    * `Server.routesAt`
    * `Server.Groups`

  Main statements:
    * `Server.tabulate_cases`
    * `Server.holds_of_register`
    * `Server.groups_of_build`
    * `Server.build_of_twins`
-/

namespace Courier

variable {ω δ : Type}

/- Two routes take the same requests of one path. -/
def ResolvedRoute.Twins
    (a b : ResolvedRoute ω δ) : Prop :=
  a.path = b.path ∧ a.method = b.method

instance
    (a b : ResolvedRoute ω δ) : Decidable (a.Twins b) :=
  inferInstanceAs (Decidable (_ ∧ _))

namespace Server

open Association Routing

/- No two routes are twins. -/
def Distinct
    (routes : List (ResolvedRoute ω δ)) : Prop :=
  routes.Pairwise fun a b => ¬ a.Twins b

instance
    (routes : List (ResolvedRoute ω δ)) :
    Decidable (Distinct routes) :=
  inferInstanceAs (Decidable (List.Pairwise _ _))

/- The routes of a path, in order of registration. -/
def routesAt
    (routes : List (ResolvedRoute ω δ))
    (path : String) : List (ResolvedRoute ω δ) :=
  routes.filter (·.path = path)

/- The routes that a server is built from. -/
def registered
    (codec : Codec)
    (auth : Option (Authenticator ω δ))
    (middlewares : List (Middleware ω δ))
    (routes : List (RouteTree ω δ)) : List (ResolvedRoute ω δ) :=
  (RouteTree.group "" auth middlewares routes).resolve codec {}

------------------------------------------------------------
-- Sorting by path
------------------------------------------------------------

section Tables

variable {routes : List (ResolvedRoute ω δ)}
variable {table : PathTable ω δ}

theorem lookup_addRoute
    (route : ResolvedRoute ω δ)
    (table : PathTable ω δ)
    (path : String) :
    (addRoute route table).lookup path =
      if path = route.path then
        some ((table.lookup path).getD [] ++ [route])
      else
        table.lookup path := by
  induction table with
  | nil => exact lookup_cons_eq _ _ _ _
  | cons entry rest ih =>
      rcases entry with ⟨first, listed⟩
      rw [addRoute]
      by_cases hFirst : first = route.path
      · rw [if_pos hFirst, lookup_cons_eq, lookup_cons_eq, hFirst]
        by_cases hPath : path = route.path
        · rw [if_pos hPath, if_pos hPath, if_pos hPath]
          rfl
        · rw [if_neg hPath, if_neg hPath, if_neg hPath]
      · rw [if_neg hFirst, lookup_cons_eq, lookup_cons_eq, ih]
        by_cases hPath : path = first
        · rw [hPath, if_pos rfl, if_neg hFirst, if_pos rfl]
        · rw [if_neg hPath, if_neg hPath]

theorem mem_keys_addRoute
    (route : ResolvedRoute ω δ)
    (table : PathTable ω δ)
    (path : String) :
    path ∈ (addRoute route table).map Prod.fst ↔
      path = route.path ∨ path ∈ table.map Prod.fst := by
  induction table with
  | nil => simp [addRoute]
  | cons entry rest ih =>
      rw [addRoute]
      split
      · next hFirst =>
          rw [List.map_cons, List.map_cons, List.mem_cons, hFirst]
          simp
      · rw [List.map_cons, List.mem_cons, ih, List.map_cons,
          List.mem_cons]
        exact or_left_comm

theorem nodup_keys_addRoute
    (route : ResolvedRoute ω δ)
    (hKeys : (table.map Prod.fst).Nodup) :
    ((addRoute route table).map Prod.fst).Nodup := by
  induction table with
  | nil => simp [addRoute]
  | cons entry rest ih =>
      rw [List.map_cons, List.nodup_cons] at hKeys
      rw [addRoute]
      split
      · exact List.nodup_cons.mpr hKeys
      · next hFirst =>
          refine List.nodup_cons.mpr ⟨?_, ih hKeys.2⟩
          rw [mem_keys_addRoute]
          exact not_or.mpr ⟨hFirst, hKeys.1⟩

/-
  A table groups routes: it has the path of every route once,
  and beside it all routes of this path.
-/
structure Groups
    (table : PathTable ω δ)
    (routes : List (ResolvedRoute ω δ)) : Prop where
  keys_nodup : (table.map Prod.fst).Nodup
  lookup_eq :
    ∀ path, table.lookup path =
      if routesAt routes path = [] then none
      else some (routesAt routes path)

/- The routes of a path that a table knows. -/
theorem Groups.known_eq
    (h : Groups table routes)
    (path : String) :
    (table.lookup path).getD [] = routesAt routes path := by
  rw [h.lookup_eq]
  split
  · next hNone => exact hNone.symm
  · rfl

theorem Groups.addRoute
    (h : Groups table routes)
    (route : ResolvedRoute ω δ) :
    Groups (addRoute route table) (routes ++ [route]) where
  keys_nodup := nodup_keys_addRoute route h.keys_nodup
  lookup_eq path := by
    rw [lookup_addRoute, h.known_eq, h.lookup_eq]
    by_cases hPath : path = route.path
    · simp [routesAt, hPath]
    · simp [routesAt, hPath, Ne.symm hPath]

/- What stands in a table are the routes of some path. -/
theorem Groups.of_mem
    (h : Groups table routes)
    {path : String}
    {listed : List (ResolvedRoute ω δ)}
    (hMem : (path, listed) ∈ table) :
    listed = routesAt routes path ∧ listed ≠ [] := by
  have hLookup := lookup_of_mem h.keys_nodup hMem
  rw [h.lookup_eq] at hLookup
  split at hLookup
  · cases hLookup
  · next hSome =>
      cases hLookup
      exact ⟨rfl, hSome⟩

/- Every route stands in the table, with the others of its path. -/
theorem Groups.mem_of_mem
    (h : Groups table routes)
    {route : ResolvedRoute ω δ}
    (hMem : route ∈ routes) :
    (route.path, routesAt routes route.path) ∈ table := by
  have hAt : route ∈ routesAt routes route.path :=
    List.mem_filter.mpr ⟨hMem, by simp⟩
  have hLookup := h.lookup_eq route.path
  rw [if_neg (List.ne_nil_of_mem hAt),
    List.lookup_eq_some_iff] at hLookup
  rcases hLookup with ⟨before, after, hTable, _⟩
  rw [hTable]
  simp

end Tables

/-
  Sorting groups the routes if they are distinct. If not, it
  fails at the first that is the twin of an earlier one.
-/
theorem tabulate_cases
    {table : PathTable ω δ}
    {done : List (ResolvedRoute ω δ)}
    (hGroups : Groups table done)
    (hDone : Distinct done)
    (routes : List (ResolvedRoute ω δ)) :
    (Distinct (done ++ routes) ∧
        ∃ table',
          tabulate table routes = .ok table' ∧
            Groups table' (done ++ routes)) ∨
      ∃ before route after,
        routes = before ++ route :: after ∧
          (∃ earlier ∈ done ++ before, earlier.Twins route) ∧
          tabulate table routes =
            .error
              (.duplicateRoute (methodName route.method)
                route.path) := by
  induction routes generalizing table done with
  | nil =>
      rw [List.append_nil]
      exact .inl ⟨hDone, table, rfl, hGroups⟩
  | cons route rest ih =>
      rw [tabulate, hGroups.known_eq]
      by_cases hTaken :
          (routesAt done route.path).any (·.method = route.method)
      · rcases List.any_eq_true.mp hTaken with
          ⟨earlier, hMem, hMethod⟩
        rcases List.mem_filter.mp hMem with ⟨hEarlier, hPath⟩
        refine .inr ⟨[], route, rest, rfl, ⟨earlier, ?_, ?_⟩, ?_⟩
        · rw [List.append_nil]
          exact hEarlier
        · exact ⟨of_decide_eq_true hPath,
            of_decide_eq_true hMethod⟩
        · exact if_pos hTaken
      · have hNext : Distinct (done ++ [route]) := by
          refine List.pairwise_append.mpr
            ⟨hDone, List.pairwise_singleton _ _, ?_⟩
          intro earlier hEarlier last hLast hTwins
          rw [List.mem_singleton.mp hLast] at hTwins
          apply hTaken
          refine List.any_eq_true.mpr ⟨earlier, ?_, ?_⟩
          · exact List.mem_filter.mpr
              ⟨hEarlier, decide_eq_true hTwins.1⟩
          · exact decide_eq_true hTwins.2
        simp only [if_neg hTaken]
        rcases ih (hGroups.addRoute route) hNext with
          ⟨hAll, table', hTabulate, hGroups'⟩ |
            ⟨before, twin, after, hRest, hEarlier, hFails⟩
        · rw [List.append_assoc] at hAll hGroups'
          exact .inl ⟨hAll, table', hTabulate, hGroups'⟩
        · refine .inr ⟨route :: before, twin, after, ?_, ?_,
            hFails⟩
          · rw [hRest]
            rfl
          · rwa [List.append_assoc] at hEarlier

/- No routes are grouped by no table. -/
theorem groups_nil : Groups ([] : PathTable ω δ) [] where
  keys_nodup := .nil
  lookup_eq _ := rfl

------------------------------------------------------------
-- Registering
------------------------------------------------------------

/- Registering adds the entries of a table. -/
theorem holds_of_register
    {ρ : Type → Type} [PathRouter ρ]
    {router router' : ρ (List (ResolvedRoute ω δ))}
    {before table : PathTable ω δ}
    (hHolds : PathRouter.Holds router before)
    (hRegister : register router table = .ok router') :
    PathRouter.Holds router' (before ++ table) := by
  induction table generalizing router before with
  | nil =>
      cases hRegister
      rwa [List.append_nil]
  | cons entry rest ih =>
      rcases entry with ⟨path, listed⟩
      rw [register] at hRegister
      split at hRegister
      · cases hRegister
      · next next hInsert =>
          have hRest := ih (hHolds.insert hInsert) hRegister
          rwa [List.append_assoc] at hRest

------------------------------------------------------------
-- Building
------------------------------------------------------------

section Builds

variable {ρ : Type → Type} [PathRouter ρ] {codec : Codec}
variable {auth : Option (Authenticator ω δ)}
variable {middlewares : List (Middleware ω δ)}
variable {routes : List (RouteTree ω δ)}

/- The router of a server holds distinct routes, grouped. -/
theorem groups_of_build
    {server : Server ρ ω δ}
    (hBuild :
      build ρ codec auth middlewares routes = .ok server) :
    let all := registered codec auth middlewares routes
    Distinct all ∧
      ∃ table,
        Groups table all ∧
          PathRouter.Holds server.router table := by
  intro all
  unfold build at hBuild
  split at hBuild
  · cases hBuild
  · rcases tabulate_cases groups_nil .nil all with
      ⟨hDistinct, table, hTable, hGroups⟩ |
        ⟨_, _, _, _, _, hFails⟩
    · rw [List.nil_append] at hDistinct hGroups
      change (tabulate [] all >>= fun table => _) = _ at hBuild
      rw [hTable] at hBuild
      change (register PathRouter.empty table
        >>= fun router => _) = _ at hBuild
      cases hRouter :
          register (PathRouter.empty : ρ _) table with
      | error e =>
          rw [hRouter] at hBuild
          cases hBuild
      | ok router =>
          rw [hRouter] at hBuild
          cases hBuild
          exact ⟨hDistinct, table, hGroups,
            holds_of_register .empty hRouter⟩
    · change (tabulate [] all >>= fun table => _) = _ at hBuild
      rw [hFails] at hBuild
      cases hBuild

/-
  Twins stop the build, whatever stands between them. It fails
  at the first route that is the twin of an earlier one.
-/
theorem build_of_twins
    (hTwins :
      ¬ Distinct (registered codec auth middlewares routes)) :
    ∃ before route after,
      registered codec auth middlewares routes =
          before ++ route :: after ∧
        (∃ earlier ∈ before, earlier.Twins route) ∧
        build ρ codec auth middlewares routes =
          .error
            (.duplicateRoute (methodName route.method)
              route.path) := by
  rcases tabulate_cases groups_nil .nil
      (registered codec auth middlewares routes) with
    ⟨hDistinct, _⟩ | ⟨before, route, after, hAll, hEarlier, hFails⟩
  · exact absurd hDistinct hTwins
  · refine ⟨before, route, after, hAll, hEarlier, ?_⟩
    have hRoutes : routes.isEmpty = false := by
      cases routes with
      | nil => exact absurd .nil hTwins
      | cons => rfl
    unfold build
    rw [hRoutes]
    change (tabulate [] (registered codec auth middlewares routes)
      >>= fun table => _) = _
    rw [hFails]
    rfl

end Builds

end Server

end Courier
