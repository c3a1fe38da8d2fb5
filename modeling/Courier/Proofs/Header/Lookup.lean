import Courier.Header.Wire
import Mathlib.Tactic.ByContra

/-
  What is stored under a name after each change of a header
  collection. `HeaderList.getAll` is the view through which all
  other modules see a collection: names compare in lower case,
  and a change touches no other name.

  Main statements:
    * `HeaderList.getAll_set`
    * `HeaderList.getAll_add`
    * `HeaderList.getAll_del`
    * `Header.isToken_toLower`
    * `WireHeaders.getAll_set`
    * `WireHeaders.getAll_add`
-/

------------------------------------------------------------
-- Entries
------------------------------------------------------------

namespace Courier

namespace HeaderEntry

/- The values that the first entry of a name holds. -/
def valuesOf
    (entries : List HeaderEntry)
    (n : String) : List String :=
  ((entries.find? (·.name = n)).map HeaderEntry.values).getD []

@[simp] theorem valuesOf_nil
    (n : String) :
    valuesOf [] n = [] := rfl

theorem valuesOf_cons
    (entry : HeaderEntry)
    (rest : List HeaderEntry)
    (n : String) :
    valuesOf (entry :: rest) n =
      if entry.name = n then entry.values
      else valuesOf rest n := by
  by_cases hName : entry.name = n <;>
    simp [valuesOf, hName]

/- Nothing is held under a name that no entry has. -/
theorem valuesOf_eq_nil_of_not_mem
    {entries : List HeaderEntry}
    {n : String}
    (hName : n ∉ entries.map name) :
    valuesOf entries n = [] := by
  induction entries with
  | nil => rfl
  | cons entry rest ih =>
      rw [List.map_cons, List.mem_cons, not_or] at hName
      rw [valuesOf_cons, if_neg (Ne.symm hName.1),
        ih hName.2]

/- What is held under a name is held by an entry of it. -/
theorem exists_of_mem_valuesOf
    {entries : List HeaderEntry}
    {n value : String}
    (hValue : value ∈ valuesOf entries n) :
    ∃ e ∈ entries, e.name = n ∧ value ∈ e.values := by
  induction entries with
  | nil => cases hValue
  | cons entry rest ih =>
      rw [valuesOf_cons] at hValue
      split at hValue
      · next hName =>
          exact ⟨entry, List.mem_cons_self, hName, hValue⟩
      · rcases ih hValue with ⟨e, he, hHeld⟩
        exact ⟨e, List.mem_cons_of_mem _ he, hHeld⟩

/- Something is held under a name that an entry has. -/
theorem valuesOf_ne_nil_of_mem
    {entries : List HeaderEntry}
    (hEntries : IsProper entries)
    {n : String}
    (hName : n ∈ entries.map name) :
    valuesOf entries n ≠ [] := by
  induction entries with
  | nil => simp at hName
  | cons entry rest ih =>
      rw [valuesOf_cons]
      by_cases hEntry : entry.name = n
      · rw [if_pos hEntry]
        exact hEntries.values_ne_nil entry List.mem_cons_self
      · rw [if_neg hEntry]
        rw [List.map_cons, List.mem_cons] at hName
        exact ih hEntries.tail
          (hName.resolve_left (Ne.symm hEntry))

/-
  A change under a name is seen under that name only. Fresh
  values must be those that the change makes of none.
-/
theorem valuesOf_upsert
    (n : String)
    (change : List String → List String)
    (entries : List HeaderEntry)
    (m : String) :
    valuesOf (upsert n change (change []) entries) m =
      if m = n then change (valuesOf entries n)
      else valuesOf entries m := by
  induction entries with
  | nil =>
      by_cases hName : m = n
      · simp [upsert, valuesOf_cons, hName]
      · simp [upsert, valuesOf_cons, hName, Ne.symm hName]
  | cons entry rest ih =>
      by_cases hEntry : entry.name = n
      · by_cases hName : m = n
        · simp [upsert, valuesOf_cons, hEntry, hName]
        · simp [upsert, valuesOf_cons, hEntry, hName,
            Ne.symm hName]
      · rw [upsert, if_neg hEntry, valuesOf_cons, ih,
          valuesOf_cons, valuesOf_cons, if_neg hEntry]
        by_cases hName : m = n
        · subst hName
          simp [hEntry]
        · simp [hName]

/- A new name is stored at the end. -/
theorem upsert_of_not_mem
    {n : String}
    {entries : List HeaderEntry}
    (hNew : n ∉ entries.map name)
    (change : List String → List String)
    (fresh : List String) :
    upsert n change fresh entries =
      entries ++ [⟨n, fresh⟩] := by
  induction entries with
  | nil => rfl
  | cons entry rest ih =>
      rw [List.map_cons, List.mem_cons, not_or] at hNew
      rw [upsert, if_neg (Ne.symm hNew.1), ih hNew.2,
        List.cons_append]

/- Leaving names out is seen under these names only. -/
theorem valuesOf_filter
    (keep : String → Bool)
    (entries : List HeaderEntry)
    (n : String) :
    valuesOf (entries.filter fun e => keep e.name) n =
      if keep n then valuesOf entries n else [] := by
  induction entries with
  | nil => simp
  | cons entry rest ih =>
      rw [List.filter_cons, valuesOf_cons]
      by_cases hName : entry.name = n
      · by_cases hKeep : keep n <;>
          simp [hName, hKeep, valuesOf_cons, ih]
      · by_cases hKeep : keep entry.name <;>
          simp [hName, hKeep, valuesOf_cons, ih]

end HeaderEntry

------------------------------------------------------------
-- Collections
------------------------------------------------------------

namespace HeaderList

theorem getAll_eq_valuesOf
    (h : HeaderList)
    (name : String) :
    h.getAll name =
      HeaderEntry.valuesOf h.entries name.toLower := rfl

@[simp] theorem getAll_empty
    (name : String) :
    empty.getAll name = [] := rfl

/- The casing of the name asked for plays no part. -/
@[simp] theorem getAll_toLower
    (h : HeaderList)
    (name : String) :
    h.getAll name.toLower = h.getAll name := by
  simp [getAll_eq_valuesOf]

theorem getAll_set
    (h : HeaderList)
    (name value other : String) :
    (h.set name value).getAll other =
      if other.toLower = name.toLower then [value]
      else h.getAll other := by
  simpa [getAll_eq_valuesOf, set] using
    HeaderEntry.valuesOf_upsert name.toLower
      (fun _ => [value]) h.entries other.toLower

theorem getAll_add
    (h : HeaderList)
    (name value other : String) :
    (h.add name value).getAll other =
      if other.toLower = name.toLower then
        h.getAll name ++ [value]
      else
        h.getAll other := by
  simpa [getAll_eq_valuesOf, add] using
    HeaderEntry.valuesOf_upsert name.toLower
      (· ++ [value]) h.entries other.toLower

theorem getAll_del
    (h : HeaderList)
    (name other : String) :
    (h.del name).getAll other =
      if other.toLower = name.toLower then []
      else h.getAll other := by
  rw [getAll_eq_valuesOf, getAll_eq_valuesOf, del,
    HeaderEntry.valuesOf_filter (· ≠ name.toLower)]
  simp

/- A name is held when there is a value under it. -/
theorem has_eq_false_iff
    (h : HeaderList)
    (name : String) :
    h.has name = false ↔ h.getAll name = [] := by
  simp [has]

/- A name with the same values is held alike. -/
theorem has_congr
    {h h' : HeaderList}
    {name : String}
    (hValues : h.getAll name = h'.getAll name) :
    h.has name = h'.has name := by
  rw [has, hValues, has]

/- A name is held when it is among the stored ones. -/
theorem has_iff_mem_names
    (h : HeaderList)
    {name : String} :
    h.has name ↔
      name.toLower ∈ h.entries.map HeaderEntry.name := by
  constructor
  · intro hHas
    by_contra hName
    have hNone :=
      HeaderEntry.valuesOf_eq_nil_of_not_mem hName
    rw [← getAll_eq_valuesOf, ← has_eq_false_iff] at hNone
    simp [hNone] at hHas
  · intro hName
    have hSome :=
      HeaderEntry.valuesOf_ne_nil_of_mem h.isProper hName
    simpa [has, getAll_eq_valuesOf] using hSome

/- A name that is not held is stored at the end. -/
theorem entries_set_of_getAll_eq_nil
    (h : HeaderList)
    {name : String}
    (hNone : h.getAll name = [])
    (value : String) :
    (h.set name value).entries =
      h.entries ++ [⟨name.toLower, [value]⟩] := by
  apply HeaderEntry.upsert_of_not_mem
  intro hName
  rw [← has_iff_mem_names,
    (h.has_eq_false_iff name).mpr hNone] at hName
  cases hName

end HeaderList

------------------------------------------------------------
-- Names
------------------------------------------------------------

namespace Header

/- A letter in lower case is as good in a token. -/
theorem isTokenChar_toLower
    (c : Char) :
    isTokenChar c.toLower = isTokenChar c := by
  by_cases h : c.val ≥ 'A'.val ∧ c.val ≤ 'Z'.val
  · have hLow : c.toLower.val = c.val + ('a'.val - 'A'.val) :=
      congrArg Char.val (dif_pos h)
    have hRange :
        c.toLower.val ≥ 'a'.val ∧ c.toLower.val ≤ 'z'.val := by
      rw [hLow]
      simp only [ge_iff_le, UInt32.le_iff_toNat_le,
        UInt32.toNat_add] at h ⊢
      simp at h ⊢
      omega
    have hUpper : c.isUpper = true :=
      decide_eq_true h
    have hLower : c.toLower.isLower = true :=
      Bool.and_eq_true_iff.mpr
        ⟨decide_eq_true hRange.1, decide_eq_true hRange.2⟩
    have hLetter : c.isAlpha = true :=
      Bool.or_eq_true_iff.mpr (.inl hUpper)
    have hLowLetter : c.toLower.isAlpha = true :=
      Bool.or_eq_true_iff.mpr (.inr hLower)
    simp only [isTokenChar, Char.isAlphanum, hLetter,
      hLowLetter, Bool.true_or]
  · have hSame : c.toLower = c := dif_neg h
    rw [hSame]

/- The casing of a name plays no part. -/
@[simp] theorem isToken_toLower
    (name : String) :
    isToken name.toLower = isToken name := by
  have hEach : isTokenChar ∘ Char.toLower = isTokenChar :=
    funext isTokenChar_toLower
  have hEmpty :
      (name.map Char.toLower).isEmpty = name.isEmpty := by
    rw [Bool.eq_iff_iff, String.isEmpty_iff, String.isEmpty_iff,
      String.map_eq_empty]
  change isToken (name.map Char.toLower) = isToken name
  simp [isToken, hEach, hEmpty]

end Header

------------------------------------------------------------
-- Outgoing headers
------------------------------------------------------------

namespace WireHeaders

@[simp] theorem getAll_empty
    (name : String) :
    empty.getAll name = [] := rfl

theorem set_eq
    (w : WireHeaders)
    (name value : String) :
    w.set name value =
      if Header.isSendable name value then
        ⟨w.fields.set name value⟩
      else
        w := rfl

theorem add_eq
    (w : WireHeaders)
    (name value : String) :
    w.add name value =
      if Header.isSendable name value then
        ⟨w.fields.add name value⟩
      else
        w := rfl

theorem del_eq
    (w : WireHeaders)
    (name : String) :
    w.del name = ⟨w.fields.del name.toLower⟩ := rfl

theorem getAll_eq
    (w : WireHeaders)
    (name : String) :
    w.getAll name = w.fields.getAll name := rfl

theorem getAll_set
    (w : WireHeaders)
    (name value other : String) :
    (w.set name value).getAll other =
      if Header.isSendable name value ∧
          other.toLower = name.toLower then
        [value]
      else
        w.getAll other := by
  rw [set_eq, getAll_eq, getAll_eq]
  by_cases hSend : Header.isSendable name value
  · simp [hSend, HeaderList.getAll_set]
  · simp [hSend]

theorem getAll_add
    (w : WireHeaders)
    (name value other : String) :
    (w.add name value).getAll other =
      if Header.isSendable name value ∧
          other.toLower = name.toLower then
        w.getAll name ++ [value]
      else
        w.getAll other := by
  rw [add_eq, getAll_eq, getAll_eq, getAll_eq]
  by_cases hSend : Header.isSendable name value
  · simp [hSend, HeaderList.getAll_add]
  · simp [hSend]

theorem getAll_del
    (w : WireHeaders)
    (name other : String) :
    (w.del name).getAll other =
      if other.toLower = name.toLower then []
      else w.getAll other := by
  rw [del_eq, getAll_eq, getAll_eq, HeaderList.getAll_del,
    Text.toLower_toLower]

end WireHeaders

end Courier
