import Courier.Proofs.Routing.JoinedPath
import Courier.Server.RouteTree

/-
  What a tree of routes is flattened to. An endpoint stands at a
  place: the position of each group around it and its own, the
  groups from the outermost to the innermost, and the endpoint.
  Two places of a tree differ in their addresses, and the order
  of the addresses is that of registration, depth first.

  Key definitions include:
    * `Enclosure`
    * `Place`
    * `Place.StandsIn`
    * `RouteTree.places`
    * `Place.flattened`

  Main statements:
    * `RouteTree.mem_places_iff`
    * `RouteTree.pairwise_places`
    * `RouteTree.resolveAll_eq_map_places`
    * `RouteTree.resolve_flattens`
-/

namespace Courier

variable {ω δ : Type}

------------------------------------------------------------
-- Places
------------------------------------------------------------

/- What one group gives to the routes in it. -/
structure Enclosure (ω δ : Type) where
  path : String
  auth : Option (Authenticator ω δ)
  middlewares : List (Middleware ω δ)

/-
  Where an endpoint stands. The address has the number of each
  group among the routes that it stands with, and then that of
  the endpoint. The groups are those around the endpoint, the
  outermost first.
-/
structure Place (ω δ : Type) where
  address : List Nat
  groups : List (Enclosure ω δ)
  endpoint : Endpoint ω δ

namespace Place

/- An endpoint that stands in no group, as route `index`. -/
def bare
    (index : Nat)
    (e : Endpoint ω δ) : Place ω δ :=
  ⟨[index], [], e⟩

/- A place as seen from outside of group number `index`. -/
def inside
    (place : Place ω δ)
    (index : Nat)
    (group : Enclosure ω δ) : Place ω δ where
  address := index :: place.address
  groups := group :: place.groups
  endpoint := place.endpoint

/- The same place, with one more route in front. -/
def later
    (place : Place ω δ) : Place ω δ :=
  { place with address := place.address.modifyHead (· + 1) }

/- There is an endpoint at the place among the routes. -/
inductive StandsIn :
    Place ω δ → List (RouteTree ω δ) → Prop where
  | bare
      {routes : List (RouteTree ω δ)} {index : Nat}
      {e : Endpoint ω δ}
      (hRoute : routes[index]? = some (.endpoint e)) :
      StandsIn (bare index e) routes
  | inside
      {routes inner : List (RouteTree ω δ)} {index : Nat}
      {path : String} {auth : Option (Authenticator ω δ)}
      {middlewares : List (Middleware ω δ)} {place : Place ω δ}
      (hRoute :
        routes[index]? =
          some (.group path auth middlewares inner))
      (hPlace : StandsIn place inner) :
      StandsIn (place.inside index ⟨path, auth, middlewares⟩)
        routes

/- Nothing stands among no routes. -/
theorem not_standsIn_nil
    (place : Place ω δ) :
    ¬ place.StandsIn [] := by
  intro hPlace
  cases hPlace with
  | bare hRoute => cases hRoute
  | inside hRoute _ => cases hRoute

/- A place has a number among the routes. -/
theorem StandsIn.exists_address_eq
    {place : Place ω δ}
    {routes : List (RouteTree ω δ)}
    (hPlace : place.StandsIn routes) :
    ∃ index address, place.address = index :: address := by
  cases hPlace with
  | bare _ => exact ⟨_, _, rfl⟩
  | inside _ _ => exact ⟨_, _, rfl⟩

/- Routes in front move a place on. -/
theorem StandsIn.later
    {place : Place ω δ}
    {rest : List (RouteTree ω δ)}
    (hPlace : place.StandsIn rest)
    (route : RouteTree ω δ) :
    place.later.StandsIn (route :: rest) := by
  cases hPlace with
  | bare hRoute => exact StandsIn.bare hRoute
  | inside hRoute hInner => exact StandsIn.inside hRoute hInner

/- A first endpoint has the first place. -/
theorem standsIn_endpoint_cons
    {place : Place ω δ}
    {e : Endpoint ω δ}
    {rest : List (RouteTree ω δ)} :
    place.StandsIn (.endpoint e :: rest) ↔
      place = bare 0 e ∨
        ∃ next : Place ω δ,
          next.StandsIn rest ∧ next.later = place := by
  constructor
  · intro hPlace
    cases hPlace with
    | @bare _ index _ hRoute =>
        cases index with
        | zero => cases hRoute; exact Or.inl rfl
        | succ index => exact Or.inr ⟨_, .bare hRoute, rfl⟩
    | @inside _ _ index _ _ _ _ hRoute hInner =>
        cases index with
        | zero => cases hRoute
        | succ index =>
            exact Or.inr ⟨_, .inside hRoute hInner, rfl⟩
  · rintro (rfl | ⟨next, hNext, rfl⟩)
    · exact .bare rfl
    · exact hNext.later _

/- The places in a first group come first. -/
theorem standsIn_group_cons
    {place : Place ω δ}
    {path : String}
    {auth : Option (Authenticator ω δ)}
    {middlewares : List (Middleware ω δ)}
    {inner rest : List (RouteTree ω δ)} :
    place.StandsIn
        (.group path auth middlewares inner :: rest) ↔
      (∃ within : Place ω δ,
        within.StandsIn inner ∧
          within.inside 0 ⟨path, auth, middlewares⟩ = place) ∨
        ∃ next : Place ω δ,
          next.StandsIn rest ∧ next.later = place := by
  constructor
  · intro hPlace
    cases hPlace with
    | @bare _ index _ hRoute =>
        cases index with
        | zero => cases hRoute
        | succ index => exact Or.inr ⟨_, .bare hRoute, rfl⟩
    | @inside _ _ index _ _ _ _ hRoute hInner =>
        cases index with
        | zero => cases hRoute; exact Or.inl ⟨_, hInner, rfl⟩
        | succ index =>
            exact Or.inr ⟨_, .inside hRoute hInner, rfl⟩
  · rintro (⟨within, hWithin, rfl⟩ | ⟨next, hNext, rfl⟩)
    · exact .inside rfl hWithin
    · exact hNext.later _

/- A later place has a higher number. -/
theorem later_address
    {place : Place ω δ}
    {index : Nat}
    {address : List Nat}
    (hAddress : place.address = index :: address) :
    place.later.address = (index + 1) :: address := by
  rw [later, hAddress]
  rfl

end Place

------------------------------------------------------------
-- All places
------------------------------------------------------------

namespace RouteTree

/- The places of all endpoints among the routes, depth first. -/
def places :
    List (RouteTree ω δ) → List (Place ω δ)
  | [] => []
  | endpoint e :: rest =>
      Place.bare 0 e :: (places rest).map Place.later
  | group path auth middlewares inner :: rest =>
      (places inner).map (·.inside 0 ⟨path, auth, middlewares⟩)
        ++ (places rest).map Place.later

/- Every place that there is, and no other, is listed. -/
theorem mem_places_iff
    {routes : List (RouteTree ω δ)}
    {place : Place ω δ} :
    place ∈ places routes ↔ place.StandsIn routes := by
  fun_induction places routes generalizing place with
  | case1 => simp [Place.not_standsIn_nil place]
  | case2 e rest ih =>
      simp [Place.standsIn_endpoint_cons, ih]
  | case3 path auth middlewares inner rest ihInner ih =>
      simp [Place.standsIn_group_cons, ihInner, ih]

/- Later places keep their order. -/
theorem pairwise_later
    {routes : List (RouteTree ω δ)}
    (hPlaces :
      (places routes).Pairwise (·.address < ·.address)) :
    ((places routes).map Place.later).Pairwise
      (·.address < ·.address) := by
  rw [List.pairwise_map]
  refine hPlaces.imp_of_mem ?_
  intro left right hLeft hRight hLess
  rcases (mem_places_iff.mp hLeft).exists_address_eq with
    ⟨i, leftRest, hLeftAddress⟩
  rcases (mem_places_iff.mp hRight).exists_address_eq with
    ⟨j, rightRest, hRightAddress⟩
  rw [hLeftAddress, hRightAddress,
    List.cons_lt_cons_iff] at hLess
  rw [Place.later_address hLeftAddress,
    Place.later_address hRightAddress, List.cons_lt_cons_iff]
  rcases hLess with hIndex | ⟨hIndex, hRest⟩
  · exact Or.inl (Nat.succ_lt_succ hIndex)
  · exact Or.inr ⟨congrArg Nat.succ hIndex, hRest⟩

/- An address that starts with zero is before a later place. -/
theorem lt_later_address
    {routes : List (RouteTree ω δ)}
    (address : List Nat) :
    ∀ place ∈ (places routes).map Place.later,
      0 :: address < place.address := by
  intro place hPlace
  rcases List.mem_map.mp hPlace with ⟨next, hNext, rfl⟩
  rcases (mem_places_iff.mp hNext).exists_address_eq with
    ⟨index, rest, hAddress⟩
  rw [Place.later_address hAddress]
  exact List.cons_lt_cons_iff.mpr (Or.inl index.succ_pos)

/-
  The addresses are in order, so that no place is listed twice
  and the places are listed as they were registered.
-/
theorem pairwise_places
    (routes : List (RouteTree ω δ)) :
    (places routes).Pairwise (·.address < ·.address) := by
  fun_induction places routes with
  | case1 => exact List.Pairwise.nil
  | case2 e rest ih =>
      exact List.pairwise_cons.mpr
        ⟨lt_later_address [], pairwise_later ih⟩
  | case3 path auth middlewares inner rest ihInner ih =>
      have hInner :
          ((places inner).map
              (·.inside 0 ⟨path, auth, middlewares⟩)).Pairwise
            (·.address < ·.address) := by
        rw [List.pairwise_map]
        refine ihInner.imp ?_
        intro left right hLess
        exact List.cons_lt_cons_iff.mpr (Or.inr ⟨rfl, hLess⟩)
      refine List.pairwise_append.mpr
        ⟨hInner, pairwise_later ih, ?_⟩
      intro place hPlace
      rcases List.mem_map.mp hPlace with ⟨within, _, rfl⟩
      exact lt_later_address within.address

end RouteTree

------------------------------------------------------------
-- Scopes
------------------------------------------------------------

/- The scope of what stands in a group. -/
def Enclosure.enter
    (scope : Scope ω δ)
    (group : Enclosure ω δ) : Scope ω δ :=
  scope.enter group.path group.auth group.middlewares

/- What several groups, one in the other, give together. -/
theorem Enclosure.foldl_enter
    (groups : List (Enclosure ω δ))
    (scope : Scope ω δ) :
    groups.foldl Enclosure.enter scope =
      { path :=
          (groups.map (·.path)).foldl Routing.joinPath scope.path
        auths := scope.auths ++ groups.flatMap (·.auth.toList)
        middlewares :=
          scope.middlewares ++ groups.flatMap (·.middlewares) } := by
  induction groups generalizing scope with
  | nil => simp
  | cons group rest ih =>
      simp [ih, Enclosure.enter, Scope.enter]

/-
  The endpoint at a place with what stands around it: the root,
  the groups from the outermost to the innermost, and its own
  settings.
-/
def Place.flattened
    (place : Place ω δ)
    (codec : Codec)
    (auth : Option (Authenticator ω δ))
    (middlewares : List (Middleware ω δ)) : ResolvedRoute ω δ where
  method := place.endpoint.method
  path :=
    (place.groups.map (·.path) ++ [place.endpoint.path]).foldl
      Routing.joinPath ""
  auths :=
    auth.toList ++ place.groups.flatMap (·.auth.toList)
      ++ place.endpoint.settings.auth.toList
  middlewares :=
    middlewares ++ place.groups.flatMap (·.middlewares)
      ++ place.endpoint.settings.middlewares
  execute := place.endpoint.execute
  delivery := place.endpoint.settings.delivery codec

namespace RouteTree

variable (codec : Codec)

/- Each endpoint is resolved in the scope of its groups. -/
theorem resolveAll_eq_map_places
    (scope : Scope ω δ)
    (routes : List (RouteTree ω δ)) :
    resolveAll codec scope routes =
      (places routes).map fun place =>
        resolveEndpoint codec
          (place.groups.foldl Enclosure.enter scope)
          place.endpoint := by
  fun_induction places routes generalizing scope with
  | case1 => rfl
  | case2 e rest ih =>
      rw [resolveAll, resolve, ih, List.map_cons, List.map_map]
      rfl
  | case3 path auth middlewares inner rest ihInner ih =>
      rw [resolveAll, resolve, ihInner, ih, List.map_append,
        List.map_map, List.map_map]
      rfl

/- A scope below the root adds what the root gives. -/
theorem resolveEndpoint_eq_flattened
    (auth : Option (Authenticator ω δ))
    (middlewares : List (Middleware ω δ))
    (place : Place ω δ) :
    resolveEndpoint codec
        (place.groups.foldl Enclosure.enter
          (Scope.enter {} "" auth middlewares))
        place.endpoint =
      place.flattened codec auth middlewares := by
  have hPaths :
      place.groups.map (·.path) ++ [place.endpoint.path] ≠ [] :=
    by simp
  have hPath := Routing.foldl_joinPath_root hPaths
  simp only [List.foldl_append, List.foldl_cons,
    List.foldl_nil] at hPath
  simp [Enclosure.foldl_enter, resolveEndpoint,
    Place.flattened, Scope.enter, hPath]

/-
  Flattening what is registered below a root gives every
  endpoint once, in the order of registration, depth first. Each
  has what the root gives, then what the groups around it give,
  the outermost first, and then what it has itself; its path is
  that of the groups and its own joined in this order, and it
  leads from the root.
-/
theorem resolve_flattens
    (auth : Option (Authenticator ω δ))
    (middlewares : List (Middleware ω δ))
    (routes : List (RouteTree ω δ)) :
    let root := RouteTree.group "" auth middlewares routes
    let resolved := root.resolve codec {}
    (∀ place, place ∈ places routes ↔ place.StandsIn routes) ∧
      (places routes).Pairwise (·.address < ·.address) ∧
      resolved =
        (places routes).map
          (·.flattened codec auth middlewares) ∧
      ∀ route ∈ resolved, Routing.IsRooted route.path := by
  intro root resolved
  have hResolved :
      resolved =
        (places routes).map
          (·.flattened codec auth middlewares) := by
    change resolveAll codec (Scope.enter {} "" auth middlewares)
      routes = _
    rw [resolveAll_eq_map_places]
    simp only [resolveEndpoint_eq_flattened]
  refine ⟨fun _ => mem_places_iff, pairwise_places routes,
    hResolved, ?_⟩
  intro route hRoute
  rw [hResolved] at hRoute
  rcases List.mem_map.mp hRoute with ⟨place, _, rfl⟩
  exact Routing.isRooted_foldl_joinPath (by simp)

end RouteTree

end Courier
