import Courier.Proofs.Header.Copy
import Courier.Proofs.Header.Multimap

/-
  Merging a collection of headers into what is there already.
  A header map keeps of each entry what it can be given, and
  nothing of an entry whose name is no token; apart from that a
  map and a collection take in the same headers. A second copy
  changes nothing more.

  Key definitions include:
    * `HeaderEntry.carried?`
    * `HeaderList.tokens`
    * `HeaderList.IsSendable`
    * `WireHeaders.HasTokens`
    * `HeaderList.Merges`

  Main statements:
    * `WireHeaders.entries_copyEntry`
    * `WireHeaders.entries_copyInto`
    * `HeaderList.getAll_copyInto_alike`
    * `HeaderList.merges`
-/

namespace Courier

------------------------------------------------------------
-- What a message keeps of an entry
------------------------------------------------------------

namespace HeaderEntry

/-
  What a message can carry of an entry: its values that are
  field text, when there are some and the name is a token.
-/
def carried?
    (entry : HeaderEntry) : Option HeaderEntry :=
  let values := entry.values.filter (Header.isSendable entry.name)
  if values.isEmpty then none else some ⟨entry.name, values⟩

theorem name_of_mem_carried
    (entry : HeaderEntry) :
    ∀ kept ∈ entry.carried?, kept.name = entry.name := by
  intro kept hKept
  unfold carried? at hKept
  simp only [Option.mem_def, Option.ite_none_left_eq_some,
    Option.some.injEq] at hKept
  rcases hKept with ⟨_, rfl⟩
  rfl

/- Nothing is carried under a name that is no token. -/
theorem carried?_of_not_isToken
    (entry : HeaderEntry)
    (hToken : Header.isToken entry.name = false) :
    entry.carried? = none := by
  simp [carried?, Header.isSendable, hToken]

/- Entries in the place of others leave when it is cleared. -/
theorem filter_replaced
    {names : List String}
    {old own : List HeaderEntry}
    (hOwn : ∀ e ∈ own, e.name ∈ names) :
    (old.filter (·.name ∉ names) ++ own).filter
        (·.name ∉ names) =
      old.filter (·.name ∉ names) := by
  have hCleared : own.filter (·.name ∉ names) = [] := by
    rw [List.filter_eq_nil_iff]
    intro e he
    simpa using hOwn e he
  rw [List.filter_append, hCleared, List.append_nil,
    List.filter_filter]
  simp only [Bool.and_self]

end HeaderEntry

namespace WireHeaders

/- Messages with the same entries are the same. -/
theorem eq_of_entries_eq
    {w w' : WireHeaders}
    (hEntries : w.fields.entries = w'.fields.entries) :
    w = w' := by
  rcases w with ⟨⟨entries, _⟩⟩
  rcases w' with ⟨⟨entries', _⟩⟩
  cases hEntries
  rfl

/- Appending values is appending those that are sendable. -/
theorem fields_foldl_add
    (name : String)
    (values : List String)
    (w : WireHeaders) :
    (values.foldl
        (fun t value => HeaderTarget.add name value t)
        w).fields =
      (values.filter (Header.isSendable name)).foldl
        (fun t value => HeaderTarget.add name value t)
        w.fields := by
  induction values generalizing w with
  | nil => rfl
  | cons value rest ih =>
      rw [List.foldl_cons, ih]
      change List.foldl _ (w.add name value).fields _ = _
      by_cases hSend : Header.isSendable name value
      · rw [List.filter_cons_of_pos hSend, List.foldl_cons,
          add_eq, if_pos hSend]
        rfl
      · rw [List.filter_cons_of_neg hSend, add_eq,
          if_neg hSend]

/- Replacing the values of a name that is not held adds one. -/
theorem set_eq_add_of_del
    (w : WireHeaders)
    (name value : String) :
    (w.del name).set name value =
      (w.del name).add name value := by
  have hNew :
      name.toLower ∉
        (w.del name).fields.entries.map HeaderEntry.name := by
    change _ ∉ (w.fields.entries.filter _).map _
    simp
  rw [set_eq, add_eq]
  split
  · apply eq_of_entries_eq
    change HeaderEntry.upsert _ _ _ _ =
      HeaderEntry.upsert _ _ _ _
    rw [HeaderEntry.upsert_of_not_mem hNew,
      HeaderEntry.upsert_of_not_mem hNew]
  · rfl

/- A copied entry takes the place of those with its name. -/
theorem entries_copyEntry
    {entry : HeaderEntry}
    (hLower : entry.name.toLower = entry.name)
    (hValues : entry.values ≠ [])
    (w : WireHeaders) :
    (HeaderList.copyEntry w entry).fields.entries =
      w.fields.entries.filter (·.name ≠ entry.name)
        ++ entry.carried?.toList := by
  rcases entry with ⟨n, values⟩
  have hDel :
      (w.del n).fields.entries =
        w.fields.entries.filter (·.name ≠ n) := by
    change
      w.fields.entries.filter (·.name ≠ n.toLower.toLower) = _
    rw [hLower, hLower]
  have hNew :
      n ∉ (w.del n).fields.entries.map HeaderEntry.name := by
    simp [hDel]
  -- One value is set and several are added, which is the same.
  have hCopy :
      HeaderList.copyEntry w ⟨n, values⟩ =
        values.foldl
          (fun t value => HeaderTarget.add n value t)
          (w.del n) := by
    match values with
    | [] => exact absurd rfl hValues
    | [value] => exact set_eq_add_of_del w n value
    | _ :: _ :: _ => rfl
  rw [hCopy, fields_foldl_add, ← hDel]
  cases hKept : values.filter (Header.isSendable n) with
  | nil => simp [HeaderEntry.carried?, hKept]
  | cons value rest =>
      have hAdded :
          ((w.del n).fields.add n value).entries =
            (w.del n).fields.entries ++ [⟨n, [value]⟩] := by
        change HeaderEntry.upsert n.toLower _ _ _ = _
        rw [hLower, HeaderEntry.upsert_of_not_mem hNew]
      rw [List.foldl_cons]
      change (List.foldl _ ((w.del n).fields.add n value)
        _).entries = _
      rw [HeaderList.entries_foldl_add hLower hNew rest hAdded]
      simp [HeaderEntry.carried?, hKept]

/-
  A copy leaves the other entries in front and puts behind them
  what can be carried of its own.
-/
theorem entries_copyInto
    (h : HeaderList)
    (w : WireHeaders) :
    (h.copyInto w).fields.entries =
      w.fields.entries.filter (·.name ∉ h.names)
        ++ h.entries.filterMap HeaderEntry.carried? :=
  HeaderEntry.entries_foldl (fun w => w.fields.entries)
    HeaderList.copyEntry HeaderEntry.carried?
    HeaderEntry.name_of_mem_carried entries_copyEntry
    h.isProper w

/- Every name that is held is a token. -/
def HasTokens
    (w : WireHeaders) : Prop :=
  ∀ n ∈ w.fields.names, Header.isToken n

end WireHeaders

------------------------------------------------------------
-- Copies
------------------------------------------------------------

namespace HeaderList

/- Collections with the same entries are the same. -/
theorem eq_of_entries_eq
    {h k : HeaderList}
    (hEntries : h.entries = k.entries) :
    h = k := by
  rcases h with ⟨entries, _⟩
  rcases k with ⟨entries', _⟩
  cases hEntries
  rfl

/- The entries whose names are tokens. -/
def tokens
    (h : HeaderList) : HeaderList where
  entries := h.entries.filter (Header.isToken ·.name)
  isProper := h.isProper.filter _

/- A message can carry all names and values. -/
def IsSendable
    (h : HeaderList) : Prop :=
  ∀ e ∈ h.entries, ∀ value ∈ e.values,
    Header.isSendable e.name value

theorem mem_names_tokens
    (h : HeaderList)
    (n : String) :
    n ∈ h.tokens.names ↔ n ∈ h.names ∧ Header.isToken n := by
  simp only [names, tokens, List.mem_map, List.mem_filter]
  constructor
  · rintro ⟨e, ⟨hEntry, hToken⟩, rfl⟩
    exact ⟨⟨e, hEntry, rfl⟩, hToken⟩
  · rintro ⟨⟨e, hEntry, rfl⟩, hToken⟩
    exact ⟨e, ⟨hEntry, hToken⟩, rfl⟩

/- What is carried of an entry has its name, a token. -/
theorem mem_tokens_of_carried
    {h : HeaderList}
    {kept : HeaderEntry}
    (hKept : kept ∈ h.entries.filterMap HeaderEntry.carried?) :
    kept.name ∈ h.names ∧ Header.isToken kept.name := by
  rcases List.mem_filterMap.mp hKept with ⟨entry, hEntry, hSome⟩
  have hName := entry.name_of_mem_carried kept hSome
  refine ⟨hName ▸ List.mem_map_of_mem hEntry, ?_⟩
  rw [hName]
  unfold HeaderEntry.carried? at hSome
  simp only [Option.ite_none_left_eq_some, List.isEmpty_iff]
    at hSome
  rcases List.exists_mem_of_ne_nil _ hSome.1 with ⟨value, hValue⟩
  have hSend := (List.mem_filter.mp hValue).2
  rw [Header.isSendable, Bool.and_eq_true] at hSend
  exact hSend.1

/- Only tokens are added to a message. -/
theorem hasTokens_copyInto
    (h : HeaderList)
    {w : WireHeaders}
    (hTokens : w.HasTokens) :
    (h.copyInto w).HasTokens := by
  intro n hn
  rw [names, WireHeaders.entries_copyInto, List.map_append,
    List.mem_append] at hn
  rcases hn with hOld | hNew
  · rcases List.mem_map.mp hOld with ⟨e, he, rfl⟩
    exact hTokens e.name
      (List.mem_map_of_mem (List.mem_filter.mp he).1)
  · rcases List.mem_map.mp hNew with ⟨e, he, rfl⟩
    exact (mem_tokens_of_carried he).2

/- Entries whose names are no tokens change nothing. -/
theorem copyInto_eq_tokens
    (h : HeaderList)
    {w : WireHeaders}
    (hTokens : w.HasTokens) :
    h.copyInto w = h.tokens.copyInto w := by
  apply WireHeaders.eq_of_entries_eq
  rw [WireHeaders.entries_copyInto, WireHeaders.entries_copyInto]
  congr 1
  · apply List.filter_congr
    intro e he
    have hToken : Header.isToken e.name :=
      hTokens e.name (List.mem_map_of_mem he)
    simp only [mem_names_tokens, hToken, and_true]
  · rw [tokens, List.filterMap_filter]
    apply List.filterMap_congr
    intro e _
    cases hToken : Header.isToken e.name with
    | false => exact e.carried?_of_not_isToken hToken
    | true => rfl

/- A second copy into a message changes nothing. -/
theorem copyInto_copyInto_wire
    (h : HeaderList)
    (w : WireHeaders) :
    h.copyInto (h.copyInto w) = h.copyInto w := by
  apply WireHeaders.eq_of_entries_eq
  have hOwn :
      ∀ e ∈ h.entries.filterMap HeaderEntry.carried?,
        e.name ∈ h.names :=
    fun e he => (mem_tokens_of_carried he).1
  rw [WireHeaders.entries_copyInto, WireHeaders.entries_copyInto,
    HeaderEntry.filter_replaced hOwn]

/- A second copy into a collection keeps it, order included. -/
theorem copyInto_copyInto_list
    (h target : HeaderList) :
    h.copyInto (h.copyInto target) = h.copyInto target := by
  apply eq_of_entries_eq
  have hOwn : ∀ e ∈ h.entries, e.name ∈ h.names :=
    fun _ he => List.mem_map_of_mem he
  rw [entries_copyInto, entries_copyInto,
    HeaderEntry.filter_replaced hOwn]

/- A copy replaces what is held under the copied names. -/
theorem getAll_copyInto_list
    (h target : HeaderList)
    (name : String) :
    (h.copyInto target).getAll name =
      if h.has name then h.getAll name
      else target.getAll name := by
  rw [getAll_eq_valuesOf, entries_copyInto]
  by_cases hHas : h.has name
  · have hFree :
        name.toLower ∉
          (target.entries.filter (·.name ∉ h.names)).map
            HeaderEntry.name := by
      intro hIn
      rcases List.mem_map.mp hIn with ⟨e, he, hName⟩
      have hOut := of_decide_eq_true (List.mem_filter.mp he).2
      rw [hName] at hOut
      exact hOut (h.has_iff_mem_names.mp hHas)
    rw [if_pos hHas,
      HeaderEntry.valuesOf_append_of_not_mem_left hFree]
    rfl
  · have hName : name.toLower ∉ h.names :=
      fun hIn => hHas (h.has_iff_mem_names.mpr hIn)
    rw [if_neg hHas,
      HeaderEntry.valuesOf_append_of_not_mem_right hName,
      HeaderEntry.valuesOf_filter (· ∉ h.names),
      if_pos (decide_eq_true hName)]
    rfl

/- A map and a collection that agree do so after a copy. -/
theorem getAll_copyInto_alike
    {μ : Type} [HeaderMap μ]
    (hMap : HeaderMap.Lawful μ)
    {h : HeaderList}
    (hSendable : h.IsSendable)
    {m : μ}
    {target : HeaderList}
    (hAlike :
      ∀ name, HeaderMap.getAll name m = target.getAll name)
    (name : String) :
    HeaderMap.getAll name (h.copyInto m) =
      (h.copyInto target).getAll name := by
  rw [hMap.getAll_copyInto, getAll_copyInto_list, hAlike]
  by_cases hHas : h.has name
  · rw [if_pos hHas, if_pos hHas, List.filter_eq_self]
    intro value hValue
    rw [getAll_eq_valuesOf] at hValue
    rcases HeaderEntry.exists_of_mem_valuesOf hValue with
      ⟨e, he, hName, hIn⟩
    exact hName ▸ hSendable e he value hIn
  · rw [if_neg hHas, if_neg hHas]

/- Only entries whose names are tokens are seen in a map. -/
theorem getAll_copyInto_tokens
    {μ : Type} [HeaderMap μ]
    (hMap : HeaderMap.Lawful μ)
    (h : HeaderList)
    (m : μ)
    {name : String}
    (hToken : Header.isToken name) :
    HeaderMap.getAll name (h.copyInto m) =
      HeaderMap.getAll name (h.tokens.copyInto m) := by
  have hHas : h.tokens.has name = h.has name := by
    rw [Bool.eq_iff_iff, has_iff_mem_names, has_iff_mem_names]
    refine (mem_names_tokens h _).trans ?_
    rw [Header.isToken_toLower, and_iff_left hToken]
    rfl
  have hValues : h.tokens.getAll name = h.getAll name := by
    rw [getAll_eq_valuesOf, getAll_eq_valuesOf, tokens,
      HeaderEntry.valuesOf_filter Header.isToken,
      if_pos (by rwa [Header.isToken_toLower])]
  rw [hMap.getAll_copyInto, hMap.getAll_copyInto, hHas, hValues]

/- A second copy shows nothing new. -/
theorem getAll_copyInto_copyInto
    {μ : Type} [HeaderMap μ]
    (hMap : HeaderMap.Lawful μ)
    (h : HeaderList)
    (m : μ)
    (name : String) :
    HeaderMap.getAll name (h.copyInto (h.copyInto m)) =
      HeaderMap.getAll name (h.copyInto m) := by
  simp only [hMap.getAll_copyInto]
  split <;> rfl

------------------------------------------------------------
-- Merging
------------------------------------------------------------

/-
  What copying a collection makes of the targets: of any header
  map, of a message, which also keeps its order, and of another
  collection.
-/
structure Merges
    (μ : Type) [HeaderMap μ]
    (h : HeaderList) : Prop where
  -- values that no map can be given are left out, and a name
  -- with no other value is gone
  values :
    ∀ (m : μ) (name : String),
      Header.isToken name →
        HeaderMap.getAll name (h.copyInto m) =
          if h.has name then
            (h.getAll name).filter Header.isFieldText
          else
            HeaderMap.getAll name m
  tokens :
    ∀ (m : μ) (name : String),
      Header.isToken name →
        HeaderMap.getAll name (h.copyInto m) =
          HeaderMap.getAll name (h.tokens.copyInto m)
  twice :
    ∀ (m : μ) (name : String),
      HeaderMap.getAll name (h.copyInto (h.copyInto m)) =
        HeaderMap.getAll name (h.copyInto m)
  alike :
    h.IsSendable →
      ∀ (m : μ) (target : HeaderList),
        (∀ name,
          HeaderMap.getAll name m = target.getAll name) →
          ∀ name,
            HeaderMap.getAll name (h.copyInto m) =
              (h.copyInto target).getAll name
  wire_tokens :
    ∀ w : WireHeaders,
      w.HasTokens →
        (h.copyInto w).HasTokens ∧
          h.copyInto w = h.tokens.copyInto w
  wire_twice :
    ∀ w : WireHeaders,
      h.copyInto (h.copyInto w) = h.copyInto w
  list_twice :
    ∀ target : HeaderList,
      h.copyInto (h.copyInto target) = h.copyInto target

/-
  Every collection merges so: under the names that it holds it
  replaces what was there by what can be carried, it leaves all
  other names alone, and a second copy changes nothing. A map
  and a collection are told apart only by what a map cannot be
  given.
-/
theorem merges
    {μ : Type} [HeaderMap μ]
    (hMap : HeaderMap.Lawful μ)
    (h : HeaderList) :
    h.Merges μ where
  values m _ hToken :=
    hMap.getAll_copyInto_of_isToken m h hToken
  tokens m _ hToken := getAll_copyInto_tokens hMap h m hToken
  twice := getAll_copyInto_copyInto hMap h
  alike hSendable _ _ hAlike :=
    getAll_copyInto_alike hMap hSendable hAlike
  wire_tokens _ hTokens :=
    ⟨h.hasTokens_copyInto hTokens, h.copyInto_eq_tokens hTokens⟩
  wire_twice := h.copyInto_copyInto_wire
  list_twice := h.copyInto_copyInto_list

/- Headers with valid and invalid names and values. -/
def mixed : HeaderList :=
  .ofList
    [("a", "1"), ("a", "a\nb"), ("b", "\n"), ("c d", "v")]

/- What a message holds already. -/
def earlier : WireHeaders where
  fields := .ofList [("a", "0"), ("b", "old"), ("c", "yes")]

/-
  Of two values one is kept, a name without a valid one is gone,
  and what no entry names is left alone.
-/
theorem merges_of_mixed :
    HeaderMap.Lawful WireHeaders ∧
      mixed.Merges WireHeaders ∧
      HeaderMap.getAll "a" (mixed.copyInto earlier) = ["1"] ∧
      HeaderMap.getAll "b" (mixed.copyInto earlier) = [] ∧
      HeaderMap.getAll "c" (mixed.copyInto earlier) =
        ["yes"] := by
  have hMap := WireHeaders.lawful
  have hMerges := merges hMap mixed
  refine ⟨hMap, hMerges, ?_, ?_, ?_⟩
  · rw [hMerges.values earlier "a" (by decide)]
    decide +kernel
  · rw [hMerges.values earlier "b" (by decide)]
    decide +kernel
  · rw [hMerges.values earlier "c" (by decide)]
    decide +kernel

end HeaderList

end Courier
