/-
  Lists of keys and values. What is looked up is the value of
  the first entry with the key, and of any entry with it when
  the keys are distinct. Entries that are written in the order
  of their keys, each so that its key and its value can be told,
  tell the value of every key.

  Main statements:
    * `Association.lookup_cons_eq`
    * `Association.lookup_of_mem`
    * `Association.mem_written_iff`
    * `Association.eq_of_written_eq`
-/

namespace Courier.Association

section Lookup

variable {κ α : Type} [DecidableEq κ]

/- The first entry decides about its key. -/
theorem lookup_cons_eq
    (first key : κ)
    (value : α)
    (entries : List (κ × α)) :
    ((first, value) :: entries).lookup key =
      if key = first then some value
      else entries.lookup key := by
  rw [List.lookup_cons]
  by_cases hKey : key = first
  · simp [hKey]
  · simp [hKey, beq_eq_false_iff_ne.mpr hKey]

/- Among distinct keys every entry is looked up by its key. -/
theorem lookup_of_mem
    {entries : List (κ × α)}
    (hKeys : (entries.map Prod.fst).Nodup)
    {key : κ} {value : α}
    (hMem : (key, value) ∈ entries) :
    entries.lookup key = some value := by
  rcases List.append_of_mem hMem with ⟨before, after, rfl⟩
  refine List.lookup_eq_some_iff.mpr ⟨before, after, rfl, ?_⟩
  rw [List.map_append, List.nodup_append] at hKeys
  intro entry hEntry
  have hOther := hKeys.2.2 entry.1
    (List.mem_map_of_mem hEntry) key (by simp)
  simpa using Ne.symm hOther

end Lookup

section Written

variable {κ α τ : Type} {order : List κ} {text : κ → α → τ}

/- An entry is written for its key and value alone. -/
theorem mem_written_iff
    (hText :
      ∀ {k l v w}, text k v = text l w → k = l ∧ v = w)
    {values : κ → Option α}
    {key : κ} {value : α} :
    text key value ∈
        order.filterMap (fun k => (values k).map (text k)) ↔
      key ∈ order ∧ values key = some value := by
  simp only [List.mem_filterMap, Option.map_eq_some_iff]
  constructor
  · rintro ⟨k, hOrder, v, hValue, hSame⟩
    rcases hText hSame with ⟨rfl, rfl⟩
    exact ⟨hOrder, hValue⟩
  · rintro ⟨hOrder, hValue⟩
    exact ⟨key, hOrder, value, hValue, rfl⟩

/- What is written tells the value of every key. -/
theorem eq_of_written_eq
    (hText :
      ∀ {k l v w}, text k v = text l w → k = l ∧ v = w)
    {values others : κ → Option α}
    (hSame :
      order.filterMap (fun k => (values k).map (text k)) =
        order.filterMap (fun k => (others k).map (text k)))
    {key : κ}
    (hOrder : key ∈ order) :
    values key = others key := by
  have hTold (f : κ → Option α) (value : α) :
      text key value ∈
          order.filterMap (fun k => (f k).map (text k)) ↔
        f key = some value := by
    rw [mem_written_iff hText]
    exact and_iff_right hOrder
  apply Option.ext
  intro value
  rw [← hTold values, hSame, hTold others]

end Written

end Courier.Association
