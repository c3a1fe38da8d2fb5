import Courier.Proofs.Server.Flattening
import Mathlib.Logic.Relation

/-
  Groups that hold nothing but another group. Such a group and
  the one in it can be joined to one group at the joined path,
  anywhere in a tree and any number of times: but for what lets
  requests through, every endpoint is resolved as before.

  Key definitions include:
    * `ResolvedRoute.unguarded`
    * `RouteTree.Joins`

  Main statements:
    * `RouteTree.unguarded_resolveAll_congr`
    * `RouteTree.Joins.unguarded_resolve`
    * `RouteTree.joinPath_nests`
-/

namespace Courier

variable {ω δ : Type}

/- A route without its authenticators and middlewares. -/
def ResolvedRoute.unguarded
    (route : ResolvedRoute ω δ) : ResolvedRoute ω δ :=
  { route with auths := [], middlewares := [] }

namespace RouteTree

------------------------------------------------------------
-- Joined groups
------------------------------------------------------------

/-
  In one place of a tree, a group that holds nothing but another
  group is made one group with it, at the joined path. Who is
  let into the one group is left open.
-/
inductive Joins :
    RouteTree ω δ → RouteTree ω δ → Prop where
  | here
      {outer inner : String}
      {auth auth' auth'' : Option (Authenticator ω δ)}
      {middlewares middlewares' middlewares'' :
        List (Middleware ω δ)}
      {routes : List (RouteTree ω δ)} :
      Joins
        (.group outer auth middlewares
          [.group inner auth' middlewares' routes])
        (.group (Routing.joinPath outer inner) auth''
          middlewares'' routes)
  | inside
      {path : String}
      {auth : Option (Authenticator ω δ)}
      {middlewares : List (Middleware ω δ)}
      {before after : List (RouteTree ω δ)}
      {tree joined : RouteTree ω δ}
      (hTree : Joins tree joined) :
      Joins
        (.group path auth middlewares
          (before ++ tree :: after))
        (.group path auth middlewares
          (before ++ joined :: after))

variable (codec : Codec)

theorem resolveAll_append
    (scope : Scope ω δ)
    (routes later : List (RouteTree ω δ)) :
    resolveAll codec scope (routes ++ later) =
      resolveAll codec scope routes
        ++ resolveAll codec scope later := by
  induction routes with
  | nil => rfl
  | cons route rest ih =>
      rw [List.cons_append, resolveAll, ih, resolveAll,
        List.append_assoc]

/- But for what lets requests through, the path decides. -/
theorem unguarded_resolveAll_congr
    {scope other : Scope ω δ}
    (hPath : scope.path = other.path)
    (routes : List (RouteTree ω δ)) :
    (resolveAll codec scope routes).map
        ResolvedRoute.unguarded =
      (resolveAll codec other routes).map
        ResolvedRoute.unguarded := by
  simp only [resolveAll_eq_map_places, List.map_map]
  apply List.map_congr_left
  intro place _
  simp only [Function.comp_apply, resolveEndpoint,
    ResolvedRoute.unguarded, Enclosure.foldl_enter, hPath]

/- One join changes nothing else, in any scope. -/
theorem Joins.unguarded_resolve
    {tree joined : RouteTree ω δ}
    (hJoins : Joins tree joined)
    (scope : Scope ω δ) :
    (tree.resolve codec scope).map ResolvedRoute.unguarded =
      (joined.resolve codec scope).map
        ResolvedRoute.unguarded := by
  induction hJoins generalizing scope with
  | here =>
      simp only [resolve, resolveAll, List.append_nil]
      apply unguarded_resolveAll_congr
      exact Routing.joinPath_assoc _ _ _
  | inside _ ih =>
      simp only [resolve, resolveAll_append, resolveAll,
        List.map_append, ih]

/-
  To nest groups is to join their paths. It makes no difference
  in which order paths are joined; a joined path is never empty,
  and it leads from the root when the first path does or is
  empty. So joining groups with the only group in them, wherever
  they stand and however often, leaves the endpoints in their
  order, each at its path and with all that it is but for those
  that let requests through.
-/
theorem joinPath_nests
    {tree joined : RouteTree ω δ}
    (hJoins : Relation.ReflTransGen Joins tree joined)
    (scope : Scope ω δ) :
    (∀ a b c,
      Routing.joinPath (Routing.joinPath a b) c =
        Routing.joinPath a (Routing.joinPath b c)) ∧
    (∀ a b, Routing.joinPath a b ≠ "") ∧
    (∀ a b, a = "" ∨ Routing.IsRooted a →
      Routing.IsRooted (Routing.joinPath a b)) ∧
    (tree.resolve codec scope).map ResolvedRoute.unguarded =
      (joined.resolve codec scope).map
        ResolvedRoute.unguarded := by
  refine ⟨Routing.joinPath_assoc, Routing.joinPath_ne_empty,
    fun _ b hBase => Routing.isRooted_joinPath hBase b, ?_⟩
  induction hJoins with
  | refl => rfl
  | tail _ hLast ih =>
      rw [ih, hLast.unguarded_resolve codec scope]

/- An endpoint of a path, which answers that all is well. -/
def idle
    (path : String) : RouteTree Nat Unit :=
  .endpoint
    { method := none
      path := path
      execute := fun _ => pure (.ok (.ofStatus 200)) }

/-
  Two nested groups of users, the first without a path: what is
  joined is one of the routes of an outer group.
-/
theorem joinPath_nests_of_users :
    let group (path : String) (routes : List (RouteTree Nat Unit)) :=
      RouteTree.group path none [] routes
    let users := [idle "/", idle "{id}"]
    let nested := group "" [group "//users/" users]
    let tree := group "/api/" [idle "health", nested]
    let joined :=
      group "/api/" [idle "health", group "/users/" users]
    Relation.ReflTransGen Joins tree joined ∧
      (tree.resolve .standard {}).map ResolvedRoute.unguarded =
        (joined.resolve .standard {}).map
          ResolvedRoute.unguarded ∧
      (tree.resolve .standard {}).map (·.path) =
        ["/api/health", "/api/users/", "/api/users/{id}"] := by
  intro group users nested tree joined
  have hHere : Joins nested (group "/users/" users) := .here
  have hJoins : Joins tree joined :=
    @Joins.inside _ _ "/api/" none [] [idle "health"] [] _ _ hHere
  have hAll := Relation.ReflTransGen.single hJoins
  exact ⟨hAll, (joinPath_nests .standard hAll {}).2.2.2,
    by decide⟩

end RouteTree

end Courier
