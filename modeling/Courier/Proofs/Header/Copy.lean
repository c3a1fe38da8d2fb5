import Courier.Proofs.Header.Lookup

/-
  What a message carries after the headers of a response were
  copied into it: under a name that the response holds, those
  of its values that a message can carry, and under any other
  name what was there before. This is so for every header map
  that keeps to a few laws.

  Key definitions include:
    * `HeaderMap.Lawful`

  Main statements:
    * `HeaderMap.Lawful.getAll_copyInto`
    * `WireHeaders.lawful`
    * `HeaderList.getAll_copyInto`
    * `HeaderList.getAll_copyInto_of_has_eq_false`
-/

namespace Courier

------------------------------------------------------------
-- Laws
------------------------------------------------------------

/-
  What is seen of a header map: a value that is inserted takes
  the place of all values of its name, one that is appended
  stands behind them, and a name that is removed has none. The
  casing of names plays no part.
-/
structure HeaderMap.Lawful
    (μ : Type) [HeaderMap μ] : Prop where
  getAll_insert :
    ∀ {name value : String},
      Header.isToken name → Header.isFieldText value →
        ∀ (m : μ) (other : String),
          getAll other (insert name value m) =
            if other.toLower = name.toLower then [value]
            else getAll other m
  getAll_append :
    ∀ {name value : String},
      Header.isToken name → Header.isFieldText value →
        ∀ (m : μ) (other : String),
          getAll other (append name value m) =
            if other.toLower = name.toLower then
              getAll other m ++ [value]
            else
              getAll other m
  getAll_remove :
    ∀ (m : μ) (name other : String),
      getAll other (remove name m) =
        if other.toLower = name.toLower then []
        else getAll other m

namespace HeaderMap.Lawful

open HeaderMap HeaderList

variable {μ : Type} [HeaderMap μ] (hMap : Lawful μ) (m : μ)

include hMap

------------------------------------------------------------
-- One change
------------------------------------------------------------

theorem getAll_set
    (name value other : String) :
    getAll other (HeaderTarget.set name value m) =
      if Header.isSendable name value ∧
          other.toLower = name.toLower then
        [value]
      else
        getAll other m := by
  simp only [HeaderTarget.set]
  by_cases hSend : Header.isSendable name value
  · have hParts := hSend
    rw [Header.isSendable, Bool.and_eq_true] at hParts
    rw [if_pos hSend, hMap.getAll_insert hParts.1 hParts.2]
    simp [hSend]
  · simp [hSend]

theorem getAll_add
    (name value other : String) :
    getAll other (HeaderTarget.add name value m) =
      if Header.isSendable name value ∧
          other.toLower = name.toLower then
        getAll other m ++ [value]
      else
        getAll other m := by
  simp only [HeaderTarget.add]
  by_cases hSend : Header.isSendable name value
  · have hParts := hSend
    rw [Header.isSendable, Bool.and_eq_true] at hParts
    rw [if_pos hSend, hMap.getAll_append hParts.1 hParts.2]
    simp [hSend]
  · simp [hSend]

theorem getAll_del
    (name other : String) :
    getAll other (HeaderTarget.del name m) =
      if other.toLower = name.toLower then []
      else getAll other m := by
  simp only [HeaderTarget.del]
  rw [hMap.getAll_remove, Text.toLower_toLower]

/- Appending values appends those that can be carried. -/
theorem getAll_foldl_add
    (name : String)
    (values : List String)
    (other : String) :
    getAll other
        (values.foldl
          (fun t value => HeaderTarget.add name value t) m) =
      if other.toLower = name.toLower then
        getAll other m
          ++ values.filter (Header.isSendable name)
      else
        getAll other m := by
  induction values generalizing m with
  | nil => simp
  | cons value rest ih =>
      rw [List.foldl_cons, ih, hMap.getAll_add]
      by_cases hName : other.toLower = name.toLower
      · by_cases hSend : Header.isSendable name value <;>
          simp [hName, hSend]
      · simp [hName]

------------------------------------------------------------
-- Copies
------------------------------------------------------------

/- Copying one entry is seen under its name only. -/
theorem getAll_copyEntry
    {entry : HeaderEntry}
    (hLower : entry.name.toLower = entry.name)
    (hValues : entry.values ≠ [])
    (name : String) :
    getAll name (copyEntry m entry) =
      if name.toLower = entry.name then
        entry.values.filter (Header.isSendable entry.name)
      else
        getAll name m := by
  unfold copyEntry
  split
  · next hNone => exact absurd hNone hValues
  · next value hOne =>
      rw [hMap.getAll_set, hMap.getAll_del, hLower, hOne]
      by_cases hName : name.toLower = entry.name <;>
        by_cases hSend : Header.isSendable entry.name value <;>
        simp [hName, hSend]
  · rw [hMap.getAll_foldl_add, hMap.getAll_del, hLower]
    by_cases hName : name.toLower = entry.name <;>
      simp [hName]

/- Copying entries of distinct names, each seen as its own. -/
theorem getAll_foldl_copyEntry
    {entries : List HeaderEntry}
    (hEntries : HeaderEntry.IsProper entries)
    (name : String) :
    getAll name (entries.foldl copyEntry m) =
      if name.toLower ∈ entries.map HeaderEntry.name then
        (HeaderEntry.valuesOf entries name.toLower).filter
          (Header.isSendable name.toLower)
      else
        getAll name m := by
  induction entries generalizing m with
  | nil => simp
  | cons entry rest ih =>
      have hFirst :
          entry.name ∉ rest.map HeaderEntry.name := by
        have hNodup := hEntries.names_nodup
        rw [List.map_cons, List.nodup_cons] at hNodup
        exact hNodup.1
      rw [List.foldl_cons, ih _ hEntries.tail,
        hMap.getAll_copyEntry m
          (hEntries.name_lower entry.name (by simp))
          (hEntries.values_ne_nil entry (by simp)),
        HeaderEntry.valuesOf_cons]
      by_cases hName : name.toLower = entry.name
      · simp [hName, hFirst]
      · simp [hName, Ne.symm hName]

/- What a map holds under a name after copying. -/
theorem getAll_copyInto
    (h : HeaderList)
    (name : String) :
    getAll name (h.copyInto m) =
      if h.has name then
        (h.getAll name).filter
          (Header.isSendable name.toLower)
      else
        getAll name m := by
  rw [copyInto, hMap.getAll_foldl_copyEntry m h.isProper,
    getAll_eq_valuesOf]
  by_cases hName :
      name.toLower ∈ h.entries.map HeaderEntry.name
  · rw [if_pos hName,
      if_pos (h.has_iff_mem_names.mpr hName)]
  · rw [if_neg hName,
      if_neg (fun hHas =>
        hName (h.has_iff_mem_names.mp hHas))]

/- Under a token all field text is carried. -/
theorem getAll_copyInto_of_isToken
    (h : HeaderList)
    {name : String}
    (hToken : Header.isToken name) :
    getAll name (h.copyInto m) =
      if h.has name then
        (h.getAll name).filter Header.isFieldText
      else
        getAll name m := by
  have hSendable :
      Header.isSendable name.toLower = Header.isFieldText := by
    funext value
    simp [Header.isSendable, hToken]
  rw [hMap.getAll_copyInto, hSendable]

end HeaderMap.Lawful

------------------------------------------------------------
-- Messages
------------------------------------------------------------

/- The headers of a message are such a map. -/
theorem WireHeaders.lawful :
    HeaderMap.Lawful WireHeaders where
  getAll_insert _ _ w other :=
    HeaderList.getAll_set w.fields _ _ other
  getAll_append _ _ w other := by
    refine (HeaderList.getAll_add w.fields _ _ other).trans ?_
    split
    · next hName =>
        rw [← HeaderList.getAll_toLower, ← hName,
          HeaderList.getAll_toLower]
        rfl
    · rfl
  getAll_remove w name other :=
    HeaderList.getAll_del w.fields name other

namespace HeaderList

/- What a message carries under a name after copying. -/
theorem getAll_copyInto
    (h : HeaderList)
    (w : WireHeaders)
    {name : String}
    (hToken : Header.isToken name.toLower) :
    (h.copyInto w).getAll name =
      if h.has name then
        (h.getAll name).filter Header.isFieldText
      else
        w.getAll name := by
  rw [Header.isToken_toLower] at hToken
  exact WireHeaders.lawful.getAll_copyInto_of_isToken w h hToken

/- A name that is not held is left alone. -/
theorem getAll_copyInto_of_has_eq_false
    {h : HeaderList}
    {name : String}
    (hHas : h.has name = false)
    (w : WireHeaders)
    (hToken : Header.isToken name.toLower) :
    (h.copyInto w).getAll name = w.getAll name := by
  simp [getAll_copyInto h w hToken, hHas]

end HeaderList

end Courier
