import Courier.Proofs.Header.Lookup
import Mathlib.Data.List.Nodup
import Mathlib.Data.Set.Card

/-
  A header collection is a multimap of lowered names that
  remembers the order of its names. The multimap is kept beside
  the collection as a function from names to values, with a
  clock that says since when a name has been held; it stores no
  list of names and no entry.

  The statement is about every program of changes to any number
  of collections, which may be copied into each other.

  Key definitions include:
    * `Multimap`
    * `Multimap.store`
    * `Multimap.copyInto`
    * `HeaderStep`
    * `HeaderList.Refines`

  Main statements:
    * `HeaderList.entries_copyInto`
    * `Multimap.Keeps.upsert`
    * `Multimap.Keeps.copyInto`
    * `HeaderList.refines_after`
-/

namespace Courier

------------------------------------------------------------
-- The reference
------------------------------------------------------------

/-
  The values under each lowered name, and the moment from which
  a name with values has been held without a break. The clock is
  later than all of these moments.
-/
structure Multimap where
  clock : Nat
  values : String → List String
  since : String → Nat

namespace Multimap

/- Nothing is held. -/
def empty : Multimap where
  clock := 0
  values _ := []
  since _ := 0

/-
  Put values under a name. A name that was held stays held since
  the same moment.
-/
def store
    (m : Multimap)
    (n : String)
    (vs : List String) : Multimap where
  clock := m.clock + 1
  values := Function.update m.values n vs
  since :=
    if m.values n = [] then Function.update m.since n m.clock
    else m.since

/- Hold nothing under a name. -/
def remove
    (m : Multimap)
    (n : String) : Multimap :=
  { m with values := Function.update m.values n [] }

@[simp] theorem values_store
    (m : Multimap)
    (n : String)
    (vs : List String)
    (other : String) :
    (m.store n vs).values other =
      if other = n then vs else m.values other :=
  Function.update_apply _ _ _ _

@[simp] theorem values_remove
    (m : Multimap)
    (n other : String) :
    (m.remove n).values other =
      if other = n then [] else m.values other :=
  Function.update_apply _ _ _ _

instance : HeaderTarget Multimap where
  set name value m := m.store name.toLower [value]
  add name value m :=
    m.store name.toLower (m.values name.toLower ++ [value])
  del name m := m.remove name.toLower

/-
  Replace what a target holds under the names that are held
  here. These count as stored anew, in the order they have here,
  after all that the target has held so far.
-/
def copyInto
    (m target : Multimap) : Multimap where
  clock := target.clock + m.clock
  values n :=
    if m.values n = [] then target.values n else m.values n
  since n :=
    if m.values n = [] then target.since n
    else target.clock + m.since n

end Multimap

------------------------------------------------------------
-- Programs
------------------------------------------------------------

/- A change of one of several numbered collections. -/
inductive HeaderStep where
  | set (place : Nat) (name value : String)
  | add (place : Nat) (name value : String)
  | del (place : Nat) (name : String)
  | copy (source target : Nat)

/- Carry out a change on targets of any kind. -/
def HeaderStep.carryOut
    {τ : Type}
    [HeaderTarget τ]
    (copy : τ → τ → τ)
    (held : Nat → τ) : HeaderStep → Nat → τ
  | .set i name value =>
      Function.update held i
        (HeaderTarget.set name value (held i))
  | .add i name value =>
      Function.update held i
        (HeaderTarget.add name value (held i))
  | .del i name =>
      Function.update held i (HeaderTarget.del name (held i))
  | .copy i j =>
      Function.update held j (copy (held i) (held j))

/- The collections that changes lead to, all empty at first. -/
def HeaderList.after
    (steps : List HeaderStep) : Nat → HeaderList :=
  steps.foldl (HeaderStep.carryOut HeaderList.copyInto)
    fun _ => .empty

/- The multimaps that the same changes lead to. -/
def Multimap.after
    (steps : List HeaderStep) : Nat → Multimap :=
  steps.foldl (HeaderStep.carryOut Multimap.copyInto)
    fun _ => .empty

/- All that can be asked of a collection is in the multimap. -/
structure HeaderList.Refines
    (h : HeaderList)
    (m : Multimap) : Prop where
  names_lower : ∀ n ∈ h.names, n.toLower = n
  names_nodup : h.names.Nodup
  values_ne_nil : ∀ e ∈ h.entries, e.values ≠ []
  getAll_eq : ∀ name, h.getAll name = m.values name.toLower
  get?_eq :
    ∀ name, h.get? name = (m.values name.toLower).getLast?
  has_iff :
    ∀ name, h.has name = true ↔ m.values name.toLower ≠ []
  size_eq : h.size = {n | m.values n ≠ []}.ncard
  -- the listing: these names, with their values, in this order
  mem_names_iff : ∀ n, n ∈ h.names ↔ m.values n ≠ []
  entries_eq : h.entries = h.names.map fun n => ⟨n, m.values n⟩
  names_in_order :
    h.names.Pairwise fun a b => m.since a < m.since b

------------------------------------------------------------
-- Entries after a copy
------------------------------------------------------------

namespace HeaderEntry

/- The name at the end is changed in place. -/
theorem upsert_append_self
    {n : String}
    {entries : List HeaderEntry}
    (hNew : n ∉ entries.map name)
    (change : List String → List String)
    (fresh values : List String) :
    upsert n change fresh (entries ++ [⟨n, values⟩]) =
      entries ++ [⟨n, change values⟩] := by
  induction entries with
  | nil => simp [upsert]
  | cons entry rest ih =>
      rw [List.map_cons, List.mem_cons, not_or] at hNew
      rw [List.cons_append, upsert, if_neg (Ne.symm hNew.1),
        ih hNew.2, List.cons_append]

/- A name that is not in front is held as it is behind. -/
theorem valuesOf_append_of_not_mem_left
    {entries : List HeaderEntry}
    {n : String}
    (hName : n ∉ entries.map name)
    (later : List HeaderEntry) :
    valuesOf (entries ++ later) n = valuesOf later n := by
  induction entries with
  | nil => rfl
  | cons entry rest ih =>
      rw [List.map_cons, List.mem_cons, not_or] at hName
      rw [List.cons_append, valuesOf_cons,
        if_neg (Ne.symm hName.1), ih hName.2]

/- A name that is not behind is held as it is in front. -/
theorem valuesOf_append_of_not_mem_right
    {later : List HeaderEntry}
    {n : String}
    (hName : n ∉ later.map name)
    (entries : List HeaderEntry) :
    valuesOf (entries ++ later) n = valuesOf entries n := by
  induction entries with
  | nil => exact valuesOf_eq_nil_of_not_mem hName
  | cons entry rest ih =>
      rw [List.cons_append, valuesOf_cons, ih, valuesOf_cons]

/- Entries of distinct names are their names with the values. -/
theorem eq_map_valuesOf
    {entries : List HeaderEntry}
    (hNodup : (entries.map name).Nodup) :
    entries =
      (entries.map name).map
        fun n => ⟨n, valuesOf entries n⟩ := by
  induction entries with
  | nil => rfl
  | cons entry rest ih =>
      rw [List.map_cons, List.nodup_cons] at hNodup
      have hRest :
          (rest.map name).map
              (fun n => ⟨n, valuesOf (entry :: rest) n⟩) =
            (rest.map name).map
              fun n => (⟨n, valuesOf rest n⟩ : HeaderEntry) := by
        apply List.map_congr_left
        intro n hn
        have hName : entry.name ≠ n := by
          rintro rfl
          exact hNodup.1 hn
        rw [valuesOf_cons, if_neg hName]
      rw [List.map_cons, List.map_cons, hRest, ← ih hNodup.2,
        valuesOf_cons, if_pos rfl]

/-
  Copies of entries take the place of those with their names,
  when the copy of each entry does and is put at the end. What
  is kept of an entry may be nothing.
-/
theorem entries_foldl
    {τ : Type}
    (held : τ → List HeaderEntry)
    (copy : τ → HeaderEntry → τ)
    (kept : HeaderEntry → Option HeaderEntry)
    (hName : ∀ e, ∀ k ∈ kept e, k.name = e.name)
    (hCopy :
      ∀ {e : HeaderEntry},
        e.name.toLower = e.name → e.values ≠ [] → ∀ t,
          held (copy t e) =
            (held t).filter (·.name ≠ e.name)
              ++ (kept e).toList)
    {entries : List HeaderEntry}
    (hEntries : IsProper entries)
    (t : τ) :
    held (entries.foldl copy t) =
      (held t).filter (·.name ∉ entries.map name)
        ++ entries.filterMap kept := by
  induction entries generalizing t with
  | nil => simp
  | cons entry rest ih =>
      have hFirst : entry.name ∉ rest.map name :=
        (List.nodup_cons.mp hEntries.names_nodup).1
      have hKept :
          (kept entry).toList.filter (·.name ∉ rest.map name) =
            (kept entry).toList := by
        rw [List.filter_eq_self]
        intro k hk
        rw [hName entry k (Option.mem_toList.mp hk)]
        simpa using hFirst
      have hOthers :
          (held t).filter (fun e =>
              decide (e.name ∉ rest.map name) &&
                decide (e.name ≠ entry.name)) =
            (held t).filter
              (·.name ∉ (entry :: rest).map name) := by
        apply List.filter_congr
        intro e _
        simp only [List.map_cons, List.mem_cons, not_or]
        rw [Bool.decide_and, Bool.and_comm]
      have hBehind :
          (entry :: rest).filterMap kept =
            (kept entry).toList ++ rest.filterMap kept := by
        cases hEntry : kept entry with
        | none => rw [List.filterMap_cons_none hEntry]; rfl
        | some k => rw [List.filterMap_cons_some hEntry]; rfl
      rw [List.foldl_cons, ih hEntries.tail,
        hCopy (hEntries.name_lower entry.name List.mem_cons_self)
          (hEntries.values_ne_nil entry List.mem_cons_self),
        List.filter_append, List.filter_filter, hKept, hOthers,
        hBehind, List.append_assoc]

/- A name with values is one that is stored. -/
theorem IsProper.mem_names_iff
    {entries : List HeaderEntry}
    (hEntries : IsProper entries)
    {n : String} :
    n ∈ entries.map name ↔ valuesOf entries n ≠ [] := by
  constructor
  · exact valuesOf_ne_nil_of_mem hEntries
  · intro hValues
    by_contra hName
    exact hValues (valuesOf_eq_nil_of_not_mem hName)

end HeaderEntry

namespace HeaderList

/- Values are appended to the entry at the end. -/
theorem entries_foldl_add
    {n : String}
    (hLower : n.toLower = n)
    {before : List HeaderEntry}
    (hNew : n ∉ before.map HeaderEntry.name)
    (later : List String)
    {h : HeaderList}
    {values : List String}
    (hEntries : h.entries = before ++ [⟨n, values⟩]) :
    (later.foldl
        (fun t value => HeaderTarget.add n value t)
        h).entries =
      before ++ [⟨n, values ++ later⟩] := by
  induction later generalizing h values with
  | nil => simpa using hEntries
  | cons value later ih =>
      have hAdded :
          (h.add n value).entries =
            before ++ [⟨n, values ++ [value]⟩] := by
        change HeaderEntry.upsert n.toLower _ _ h.entries = _
        rw [hEntries, hLower,
          HeaderEntry.upsert_append_self hNew]
      rw [List.foldl_cons]
      change (later.foldl _ (h.add n value)).entries = _
      simpa using ih hAdded

/- A copied entry takes the place of those with its name. -/
theorem entries_copyEntry
    {entry : HeaderEntry}
    (hLower : entry.name.toLower = entry.name)
    (hValues : entry.values ≠ [])
    (target : HeaderList) :
    (copyEntry target entry).entries =
      target.entries.filter (·.name ≠ entry.name)
        ++ [entry] := by
  rcases entry with ⟨n, values⟩
  have hDel :
      (target.del n).entries =
        target.entries.filter (·.name ≠ n) := by
    change target.entries.filter (·.name ≠ n.toLower) = _
    rw [hLower]
  have hNew : n ∉ (target.del n).entries.map HeaderEntry.name :=
    by simp [hDel]
  have hFirst (value : String) (change) :
      HeaderEntry.upsert n.toLower change [value]
          (target.del n).entries =
        (target.del n).entries ++ [⟨n, [value]⟩] := by
    rw [hLower, HeaderEntry.upsert_of_not_mem hNew]
  match values with
  | [] => exact absurd rfl hValues
  | [value] =>
      rw [← hDel]
      exact hFirst value _
  | value :: second :: rest =>
      have hAdded :
          ((target.del n).add n value).entries =
            (target.del n).entries ++ [⟨n, [value]⟩] :=
        hFirst value _
      rw [← hDel]
      exact entries_foldl_add hLower hNew (second :: rest)
        hAdded

/- Copied entries take the place of those with their names. -/
theorem entries_foldl_copyEntry
    {entries : List HeaderEntry}
    (hEntries : HeaderEntry.IsProper entries)
    (target : HeaderList) :
    (entries.foldl copyEntry target).entries =
      target.entries.filter
          (·.name ∉ entries.map HeaderEntry.name)
        ++ entries := by
  have hFold :=
    HeaderEntry.entries_foldl HeaderList.entries copyEntry some
      (by simp) entries_copyEntry hEntries target
  rwa [List.filterMap_some] at hFold

/-
  A copy leaves the target's other entries in front and puts
  its own behind them.
-/
theorem entries_copyInto
    (h target : HeaderList) :
    (h.copyInto target).entries =
      target.entries.filter (·.name ∉ h.names)
        ++ h.entries :=
  entries_foldl_copyEntry h.isProper target

end HeaderList

------------------------------------------------------------
-- One change
------------------------------------------------------------

namespace Multimap

open HeaderEntry

/-
  What a change keeps: the entries hold the values of the
  multimap, in the order of its moments, and these have passed.
-/
structure Keeps
    (m : Multimap)
    (entries : List HeaderEntry) : Prop where
  values_eq : ∀ n, valuesOf entries n = m.values n
  in_order :
    (entries.map name).Pairwise fun a b => m.since a < m.since b
  since_lt : ∀ n ∈ entries.map name, m.since n < m.clock

namespace Keeps

variable {m : Multimap} {entries : List HeaderEntry}

theorem nil : Keeps empty [] where
  values_eq _ := rfl
  in_order := by simp
  since_lt := by simp

/- A name is stored when the multimap has values for it. -/
theorem mem_names_iff
    (hKeeps : Keeps m entries)
    (hEntries : IsProper entries)
    {n : String} :
    n ∈ entries.map name ↔ m.values n ≠ [] := by
  rw [hEntries.mem_names_iff, hKeeps.values_eq]

/- Storing values is a change of the entry of their name. -/
theorem upsert
    (hKeeps : Keeps m entries)
    (hEntries : IsProper entries)
    (n : String)
    (change : List String → List String) :
    Keeps (m.store n (change (m.values n)))
      (HeaderEntry.upsert n change (change []) entries) := by
  have hNames := names_upsert n change (change []) entries
  by_cases hHeld : n ∈ entries.map name
  · rw [if_pos hHeld] at hNames
    have hSince :
        (m.store n (change (m.values n))).since = m.since :=
      if_neg ((hKeeps.mem_names_iff hEntries).mp hHeld)
    refine ⟨?_, ?_, ?_⟩
    · intro other
      rw [valuesOf_upsert, hKeeps.values_eq, hKeeps.values_eq,
        values_store]
    · rw [hNames, hSince]
      exact hKeeps.in_order
    · rw [hNames, hSince]
      intro other hOther
      exact Nat.lt_succ_of_lt (hKeeps.since_lt other hOther)
  · rw [if_neg hHeld] at hNames
    have hSince :
        (m.store n (change (m.values n))).since =
          Function.update m.since n m.clock :=
      if_pos (by
        rw [hKeeps.mem_names_iff hEntries, not_not] at hHeld
        exact hHeld)
    have hOld :
        ∀ other ∈ entries.map name,
          Function.update m.since n m.clock other =
            m.since other := by
      intro other hOther
      have hName : other ≠ n := by
        rintro rfl
        exact hHeld hOther
      exact Function.update_of_ne hName _ _
    refine ⟨?_, ?_, ?_⟩
    · intro other
      rw [valuesOf_upsert, hKeeps.values_eq, hKeeps.values_eq,
        values_store]
    · rw [hNames, hSince, List.pairwise_append]
      refine ⟨?_, by simp, ?_⟩
      · refine hKeeps.in_order.imp_of_mem ?_
        intro a b ha hb hLt
        rwa [hOld a ha, hOld b hb]
      · intro a ha b hb
        rw [List.mem_singleton.mp hb, hOld a ha,
          Function.update_self]
        exact hKeeps.since_lt a ha
    · rw [hNames, hSince]
      intro other hOther
      change _ < m.clock + 1
      rcases List.mem_append.mp hOther with hOther | hNew
      · rw [hOld other hOther]
        exact Nat.lt_succ_of_lt (hKeeps.since_lt other hOther)
      · rw [List.mem_singleton.mp hNew, Function.update_self]
        exact Nat.lt_succ_self m.clock

/- Removing a name leaves its entry out. -/
theorem filter
    (hKeeps : Keeps m entries)
    (n : String) :
    Keeps (m.remove n) (entries.filter (·.name ≠ n)) := by
  have hNames :
      ((entries.filter (·.name ≠ n)).map name).Sublist
        (entries.map name) :=
    List.filter_sublist.map name
  exact
    { values_eq := by
        intro other
        rw [valuesOf_filter (· ≠ n), hKeeps.values_eq,
          values_remove]
        simp
      in_order := hKeeps.in_order.sublist hNames
      since_lt := by
        intro other hOther
        exact hKeeps.since_lt other (hNames.subset hOther) }

/-
  A copy replaces what the target holds under the names of the
  source and lists them last.
-/
theorem copyInto
    {h target : HeaderList}
    {mt : Multimap}
    (hSource : Keeps m h.entries)
    (hTarget : Keeps mt target.entries) :
    Keeps (m.copyInto mt) (h.copyInto target).entries := by
  have hEntries := HeaderList.entries_copyInto h target
  have hHeld (n : String) : n ∈ h.names ↔ m.values n ≠ [] :=
    hSource.mem_names_iff h.isProper
  have hLeft :
      ((target.entries.filter (·.name ∉ h.names)).map
          name).Sublist
        (target.entries.map name) :=
    List.filter_sublist.map name
  have hOther :
      ∀ n ∈ (target.entries.filter (·.name ∉ h.names)).map name,
        (m.copyInto mt).since n = mt.since n := by
    intro n hn
    rcases List.mem_map.mp hn with ⟨e, he, rfl⟩
    have hName := (List.mem_filter.mp he).2
    rw [decide_eq_true_eq, hHeld, not_not] at hName
    exact if_pos hName
  have hOwn :
      ∀ n ∈ h.entries.map name,
        (m.copyInto mt).since n = mt.clock + m.since n :=
    fun n hn => if_neg ((hHeld n).mp hn)
  refine ⟨?_, ?_, ?_⟩
  · intro n
    rw [hEntries]
    by_cases hName : n ∈ h.names
    · have hFree :
          n ∉ (target.entries.filter (·.name ∉ h.names)).map
            name := by
        intro hIn
        rcases List.mem_map.mp hIn with ⟨e, he, rfl⟩
        exact of_decide_eq_true (List.mem_filter.mp he).2 hName
      rw [valuesOf_append_of_not_mem_left hFree,
        hSource.values_eq]
      exact (if_neg ((hHeld n).mp hName)).symm
    · rw [valuesOf_append_of_not_mem_right hName,
        valuesOf_filter (· ∉ h.names), if_pos (by simpa),
        hTarget.values_eq]
      rw [hHeld, not_not] at hName
      exact (if_pos hName).symm
  · rw [hEntries, List.map_append, List.pairwise_append]
    refine ⟨?_, ?_, ?_⟩
    · refine (hTarget.in_order.sublist hLeft).imp_of_mem ?_
      intro a b ha hb hLt
      rwa [hOther a ha, hOther b hb]
    · refine hSource.in_order.imp_of_mem ?_
      intro a b ha hb hLt
      rw [hOwn a ha, hOwn b hb]
      exact Nat.add_lt_add_left hLt mt.clock
    · intro a ha b hb
      rw [hOther a ha, hOwn b hb]
      exact Nat.lt_add_right (m.since b)
        (hTarget.since_lt a (hLeft.subset ha))
  · rw [hEntries, List.map_append]
    intro n hn
    change _ < mt.clock + m.clock
    rcases List.mem_append.mp hn with hn | hn
    · rw [hOther n hn]
      exact Nat.lt_add_right m.clock
        (hTarget.since_lt n (hLeft.subset hn))
    · rw [hOwn n hn]
      exact Nat.add_lt_add_left (hSource.since_lt n hn) mt.clock

end Keeps

------------------------------------------------------------
-- Every program
------------------------------------------------------------

/- A change keeps every collection beside its multimap. -/
theorem keeps_carryOut
    {held : Nat → HeaderList}
    {kept : Nat → Multimap}
    (hKeeps : ∀ i, Keeps (kept i) (held i).entries)
    (step : HeaderStep)
    (i : Nat) :
    Keeps (step.carryOut Multimap.copyInto kept i)
      (step.carryOut HeaderList.copyInto held i).entries := by
  -- What is not changed is kept, so only the place of the
  -- change is looked at.
  have hPlace
      {j : Nat} {m : Multimap} {h : HeaderList}
      (hNew : Keeps m h.entries) :
      Keeps (Function.update kept j m i)
        (Function.update held j h i).entries := by
    by_cases hi : i = j
    · subst hi
      rwa [Function.update_self, Function.update_self]
    · rw [Function.update_of_ne hi, Function.update_of_ne hi]
      exact hKeeps i
  cases step with
  | set j name value =>
      exact hPlace ((hKeeps j).upsert (held j).isProper
        name.toLower fun _ => [value])
  | add j name value =>
      exact hPlace ((hKeeps j).upsert (held j).isProper
        name.toLower (· ++ [value]))
  | del j name =>
      exact hPlace ((hKeeps j).filter name.toLower)
  | copy j k =>
      exact hPlace ((hKeeps j).copyInto (hKeeps k))

/- Every program keeps the collections and the multimaps alike. -/
theorem keeps_after
    (steps : List HeaderStep)
    (i : Nat) :
    Keeps (Multimap.after steps i)
      (HeaderList.after steps i).entries := by
  induction steps using List.reverseRecOn generalizing i with
  | nil => exact .nil
  | append_singleton steps step ih =>
      rw [Multimap.after, HeaderList.after, List.foldl_append,
        List.foldl_append]
      exact keeps_carryOut ih step i

end Multimap

/-
  Whatever changes were made to collections that were empty at
  first, each of them refines the multimap that the same changes
  lead to.
-/
theorem HeaderList.refines_after
    (steps : List HeaderStep)
    (place : Nat) :
    (HeaderList.after steps place).Refines
      (Multimap.after steps place) := by
  have hKeeps := Multimap.keeps_after steps place
  generalize HeaderList.after steps place = h at hKeeps ⊢
  generalize Multimap.after steps place = m at hKeeps ⊢
  have hMem (n : String) : n ∈ h.names ↔ m.values n ≠ [] :=
    hKeeps.mem_names_iff h.isProper
  have hGetAll (name : String) :
      h.getAll name = m.values name.toLower := by
    rw [getAll_eq_valuesOf, hKeeps.values_eq]
  -- the names are all that the multimap has values for
  have hHeld :
      {n | m.values n ≠ []} = ↑h.names.toFinset := by
    ext n
    simp [hMem]
  have hNodup : h.names.Nodup := h.isProper.names_nodup
  have hListed :
      h.entries =
        h.names.map
          fun n => ⟨n, HeaderEntry.valuesOf h.entries n⟩ :=
    HeaderEntry.eq_map_valuesOf hNodup
  exact
    { names_lower := h.isProper.name_lower
      names_nodup := hNodup
      values_ne_nil := h.isProper.values_ne_nil
      getAll_eq := hGetAll
      get?_eq := by
        intro name
        rw [get?, hGetAll]
      has_iff := by
        intro name
        simp [has, hGetAll]
      size_eq := by
        rw [hHeld, Set.ncard_coe_finset,
          List.toFinset_card_of_nodup hNodup]
        exact (List.length_map HeaderEntry.name).symm
      mem_names_iff := hMem
      entries_eq := by
        simpa only [hKeeps.values_eq] using hListed
      names_in_order := hKeeps.in_order }

end Courier
