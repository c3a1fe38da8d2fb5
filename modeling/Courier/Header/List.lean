import Courier.Text.Basic

/-
  This file defines the header collection of a pending
  response: an ordered list of names, each with the list of its
  values. Names are case-insensitive and stored in lower case.
  Every collection carries the proof that its names are in lower
  case and distinct and that each of them has a value.

  A collection can be copied into any target that knows how to
  replace, append and delete.

  Key definitions include:
    * `HeaderEntry`
    * `HeaderEntry.IsProper`
    * `HeaderList`
    * `HeaderList.getAll`
    * `HeaderList.get?`
    * `HeaderList.set`
    * `HeaderList.add`
    * `HeaderList.del`
    * `HeaderTarget`
    * `HeaderList.copyInto`
-/

namespace Courier

/- One name with its values, in the order they were added. -/
structure HeaderEntry where
  name : String
  values : List String
deriving DecidableEq, Repr

namespace HeaderEntry

/-
  Change the values stored under a name, or store fresh ones at
  the end when the name is absent.
-/
def upsert
    (name : String)
    (change : List String → List String)
    (fresh : List String) : List HeaderEntry → List HeaderEntry
  | [] => [⟨name, fresh⟩]
  | entry :: rest =>
      if entry.name = name then
        ⟨entry.name, change entry.values⟩ :: rest
      else
        entry :: upsert name change fresh rest

/-
  The entries that a collection may hold: names in lower case,
  each of them once and with at least one value.
-/
structure IsProper
    (entries : List HeaderEntry) : Prop where
  name_lower : ∀ n ∈ entries.map name, n.toLower = n
  names_nodup : (entries.map name).Nodup
  values_ne_nil : ∀ e ∈ entries, e.values ≠ []

/- The names after a change: a new one stands at the end. -/
theorem names_upsert
    (n : String)
    (change : List String → List String)
    (fresh : List String)
    (entries : List HeaderEntry) :
    (upsert n change fresh entries).map name =
      if n ∈ entries.map name then
        entries.map name
      else
        entries.map name ++ [n] := by
  induction entries with
  | nil => simp [upsert]
  | cons entry rest ih =>
      by_cases hName : entry.name = n
      · simp [upsert, hName]
      · rw [upsert, if_neg hName, List.map_cons, ih]
        by_cases hMem : n ∈ rest.map name
        · simp [hMem]
        · simp [hMem, Ne.symm hName]

/- Every entry after a change has a value. -/
theorem values_upsert_ne_nil
    {n : String}
    {change : List String → List String}
    {fresh : List String}
    (hChange : ∀ vs, change vs ≠ [])
    (hFresh : fresh ≠ [])
    {entries : List HeaderEntry}
    (hEntries : ∀ e ∈ entries, e.values ≠ []) :
    ∀ e ∈ upsert n change fresh entries, e.values ≠ [] := by
  induction entries with
  | nil => simpa [upsert] using hFresh
  | cons entry rest ih =>
      have hRest : ∀ e ∈ rest, e.values ≠ [] :=
        fun e he => hEntries e (List.mem_cons_of_mem _ he)
      intro e he
      by_cases hName : entry.name = n
      · rw [upsert, if_pos hName, List.mem_cons] at he
        rcases he with rfl | he
        · exact hChange entry.values
        · exact hRest e he
      · rw [upsert, if_neg hName, List.mem_cons] at he
        rcases he with rfl | he
        · exact hEntries e List.mem_cons_self
        · exact ih hRest e he

namespace IsProper

/- No entries are proper. -/
theorem nil : IsProper [] where
  name_lower := by simp
  names_nodup := by simp
  values_ne_nil := by simp

/- What stands behind a proper entry is proper. -/
theorem tail
    {entry : HeaderEntry}
    {rest : List HeaderEntry}
    (hEntries : IsProper (entry :: rest)) :
    IsProper rest where
  name_lower n hn :=
    hEntries.name_lower n (List.mem_cons_of_mem _ hn)
  names_nodup := (List.nodup_cons.mp hEntries.names_nodup).2
  values_ne_nil e he :=
    hEntries.values_ne_nil e (List.mem_cons_of_mem _ he)

/- A change under a lowered name keeps entries proper. -/
theorem upsert
    {entries : List HeaderEntry}
    (hEntries : IsProper entries)
    (n : String)
    {change : List String → List String}
    {fresh : List String}
    (hChange : ∀ vs, change vs ≠ [])
    (hFresh : fresh ≠ []) :
    IsProper (upsert n.toLower change fresh entries) where
  name_lower m hm := by
    rw [names_upsert] at hm
    split at hm
    · exact hEntries.name_lower m hm
    · rcases List.mem_append.mp hm with hOld | hNew
      · exact hEntries.name_lower m hOld
      · simp [List.mem_singleton.mp hNew]
  names_nodup := by
    rw [names_upsert]
    split
    · exact hEntries.names_nodup
    · next hNew =>
        rw [List.nodup_append]
        refine ⟨hEntries.names_nodup, by simp, ?_⟩
        intro a ha b hb hab
        rw [List.mem_singleton.mp hb] at hab
        exact hNew (hab ▸ ha)
  values_ne_nil :=
    values_upsert_ne_nil hChange hFresh
      hEntries.values_ne_nil

/- Leaving entries out keeps them proper. -/
theorem filter
    {entries : List HeaderEntry}
    (hEntries : IsProper entries)
    (keep : HeaderEntry → Bool) :
    IsProper (entries.filter keep) where
  name_lower n hn := by
    rcases List.mem_map.mp hn with ⟨e, he, rfl⟩
    exact hEntries.name_lower e.name
      (List.mem_map_of_mem (List.mem_filter.mp he).1)
  names_nodup :=
    hEntries.names_nodup.sublist
      (List.filter_sublist.map name)
  values_ne_nil e he :=
    hEntries.values_ne_nil e (List.mem_filter.mp he).1

end IsProper

end HeaderEntry

/- The headers of a pending response, in order. -/
structure HeaderList where
  entries : List HeaderEntry
  isProper : HeaderEntry.IsProper entries
deriving DecidableEq, Repr

/- A target that headers can be copied into. -/
class HeaderTarget (τ : Type) where
  set : String → String → τ → τ
  add : String → String → τ → τ
  del : String → τ → τ

namespace HeaderList

/- The collection without headers. -/
def empty : HeaderList :=
  ⟨[], .nil⟩

------------------------------------------------------------
-- Looking up
------------------------------------------------------------

/- The entry stored under a name. -/
def find?
    (h : HeaderList)
    (name : String) : Option HeaderEntry :=
  h.entries.find? (·.name = name.toLower)

/- Every value stored under a name, in order. -/
def getAll
    (h : HeaderList)
    (name : String) : List String :=
  ((h.find? name).map HeaderEntry.values).getD []

/- The last value stored under a name. -/
def get?
    (h : HeaderList)
    (name : String) : Option String :=
  (h.getAll name).getLast?

/- True when a value is stored under the name. -/
def has
    (h : HeaderList)
    (name : String) : Bool :=
  !(h.getAll name).isEmpty

/- The number of names. -/
def size
    (h : HeaderList) : Nat :=
  h.entries.length

/- True when there is no name. -/
def isEmpty
    (h : HeaderList) : Bool :=
  h.entries.isEmpty

/- The stored names, in order. -/
def names
    (h : HeaderList) : List String :=
  h.entries.map HeaderEntry.name

------------------------------------------------------------
-- Changing
------------------------------------------------------------

/- Replace all values of a name by one. -/
def set
    (h : HeaderList)
    (name value : String) : HeaderList where
  entries :=
    HeaderEntry.upsert name.toLower (fun _ => [value]) [value]
      h.entries
  isProper := h.isProper.upsert name (by simp) (by simp)

/- Append a value to those of a name. -/
def add
    (h : HeaderList)
    (name value : String) : HeaderList where
  entries :=
    HeaderEntry.upsert name.toLower (· ++ [value]) [value]
      h.entries
  isProper := h.isProper.upsert name (by simp) (by simp)

/- Remove a name and all of its values. -/
def del
    (h : HeaderList)
    (name : String) : HeaderList where
  entries := h.entries.filter (·.name ≠ name.toLower)
  isProper := h.isProper.filter _

/- The collection of a list of headers, added one by one. -/
def ofList
    (pairs : List (String × String)) : HeaderList :=
  pairs.foldl (fun h (name, value) => h.add name value) empty

instance : HeaderTarget HeaderList where
  set name value h := h.set name value
  add name value h := h.add name value
  del name h := h.del name

------------------------------------------------------------
-- Copying
------------------------------------------------------------

/-
  Copy one entry: the name is deleted from the target, then a
  single value replaces and several values are appended. An
  entry without values changes nothing.
-/
def copyEntry
    {τ : Type}
    [HeaderTarget τ]
    (target : τ)
    (entry : HeaderEntry) : τ :=
  match entry.values with
  | [] => target
  | [value] =>
      HeaderTarget.set entry.name value
        (HeaderTarget.del entry.name target)
  | values =>
      values.foldl
        (fun t value => HeaderTarget.add entry.name value t)
        (HeaderTarget.del entry.name target)

/- Copy every entry into a target, in order. -/
def copyInto
    {τ : Type}
    [HeaderTarget τ]
    (h : HeaderList)
    (target : τ) : τ :=
  h.entries.foldl copyEntry target

end HeaderList

end Courier
