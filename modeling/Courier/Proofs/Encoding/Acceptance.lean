import Courier.Header.Wire
import Courier.Proofs.Encoding.Selection
import Mathlib.Tactic.ByContra

/-
  What a client accepts, by the grammar of `Accept-Encoding`: a
  list of names with weights. Selection searches the text for
  the token of a coding, so it goes by the names that contain
  the token, whatever their weight. The main statement says for
  which lists this respects what the client accepts.

  Key definitions include:
    * `WeightedCoding`
    * `WeightedCoding.ReadsList`
    * `Coding.AcceptedBy`

  Main statements:
    * `WeightedCoding.ReadsList.infix_iff`
    * `EncodingRules.selects_accepted_iff`
-/

namespace Courier

------------------------------------------------------------
-- The grammar
------------------------------------------------------------

/-
  A name in a list of codings, with its weight in thousandths.
  The name `*` stands for every coding that is not named.
-/
structure WeightedCoding where
  name : String
  weight : Nat
deriving DecidableEq, Repr

namespace WeightedCoding

/- Blanks alone. -/
def IsGap
    (cs : List Char) : Prop :=
  ∀ c ∈ cs, Text.isBlank c = true

/- The characters of a name, which has at least one. -/
def IsName
    (cs : List Char) : Prop :=
  cs ≠ [] ∧ ∀ c ∈ cs, Header.isTokenChar c = true

/- A number from zero to one with at most three places. -/
inductive IsWeight : List Char → Nat → Prop where
  | zero : IsWeight ['0'] 0
  | one : IsWeight ['1'] 1000
  | part
      {digits : List Char}
      (hDigits : ∀ c ∈ digits, c.isDigit = true)
      (hPlaces : digits.length ≤ 3) :
      IsWeight ('0' :: '.' :: digits)
        (Nat.ofDigitChars 10 (digits.rightpad 3 '0') 0)
  | whole
      {zeros : List Char}
      (hZeros : ∀ c ∈ zeros, c = '0')
      (hPlaces : zeros.length ≤ 3) :
      IsWeight ('1' :: '.' :: zeros) 1000

/- What stands behind a name; without a weight it is one. -/
inductive IsSuffix : List Char → Nat → Prop where
  | absent : IsSuffix [] 1000
  | weighted
      {gap gap' number : List Char} {letter : Char}
      {weight : Nat}
      (hGap : IsGap gap)
      (hGap' : IsGap gap')
      (hLetter : letter = 'q' ∨ letter = 'Q')
      (hNumber : IsWeight number weight) :
      IsSuffix (gap ++ ';' :: gap' ++ letter :: '=' :: number)
        weight

/- What stands between two commas: one coding or nothing. -/
inductive ReadsPiece :
    List Char → List WeightedCoding → Prop where
  | nothing
      {gap : List Char}
      (hGap : IsGap gap) :
      ReadsPiece gap []
  | coding
      {gap name suffix gap' : List Char} {weight : Nat}
      (hGap : IsGap gap)
      (hName : IsName name)
      (hSuffix : IsSuffix suffix weight)
      (hGap' : IsGap gap') :
      ReadsPiece (gap ++ (name ++ (suffix ++ gap')))
        [⟨String.ofList name, weight⟩]

/- The codings that a text lists between its commas. -/
inductive ReadsList :
    List Char → List WeightedCoding → Prop where
  | last
      {piece : List Char} {codings : List WeightedCoding}
      (hPiece : ReadsPiece piece codings) :
      ReadsList piece codings
  | more
      {piece rest : List Char}
      {codings later : List WeightedCoding}
      (hPiece : ReadsPiece piece codings)
      (hRest : ReadsList rest later) :
      ReadsList (piece ++ ',' :: rest) (codings ++ later)

theorem IsGap.nil : IsGap [] := by
  simp [IsGap]

theorem isName_token
    (coding : Coding) :
    IsName coding.token.toList := by
  cases coding <;>
    exact ⟨by decide, List.all_eq_true.mp (by decide)⟩

/- A weight may stand behind a name without blanks. -/
theorem IsSuffix.of_weight
    {number : List Char} {weight : Nat}
    (hNumber : IsWeight number weight) :
    IsSuffix (';' :: 'q' :: '=' :: number) weight :=
  .weighted .nil .nil (Or.inl rfl) hNumber

/- The token of a coding is read as its name. -/
theorem ReadsPiece.of_token
    (coding : Coding)
    {gap suffix : List Char} {weight : Nat}
    (hGap : IsGap gap)
    (hSuffix : IsSuffix suffix weight) :
    ReadsPiece (gap ++ (coding.token.toList ++ suffix))
      [⟨coding.token, weight⟩] := by
  simpa using
    ReadsPiece.coding hGap (isName_token coding) hSuffix .nil

end WeightedCoding

namespace Coding

/- The list names the coding, in any casing. -/
def IsNamed
    (coding : Coding)
    (listed : WeightedCoding) : Prop :=
  listed.name.toLower = coding.token

/-
  A client accepts a coding that it names with a weight, and
  one that it does not name when it gives a weight to `*`.
-/
def AcceptedBy
    (coding : Coding)
    (list : List WeightedCoding) : Prop :=
  (∃ listed ∈ list,
      coding.IsNamed listed ∧ listed.weight ≠ 0) ∨
    (∀ listed ∈ list, ¬ coding.IsNamed listed) ∧
      ∃ listed ∈ list, listed.name = "*" ∧ listed.weight ≠ 0

instance
    (coding : Coding)
    (list : List WeightedCoding) :
    Decidable (coding.AcceptedBy list) := by
  unfold AcceptedBy IsNamed
  infer_instance

end Coding

------------------------------------------------------------
-- Searching the text of a list
------------------------------------------------------------

namespace WeightedCoding

/- The characters around the names of a list. -/
def isFrame
    (c : Char) : Bool :=
  Text.isBlank c || c.isDigit || ";=.qQ,".toList.contains c

/- What is searched for has characters, none of the frame. -/
structure Sought
    (needle : List Char) : Prop where
  ne_nil : needle ≠ []
  not_frame : ∀ c ∈ needle, isFrame c = false

theorem sought_token
    (coding : Coding) :
    Sought coding.token.toList := by
  cases coding <;>
    exact ⟨by decide,
      by simp [Coding.token, isFrame, Text.isBlank]⟩

variable {needle : List Char}

/- Nothing of what is searched for stands in the frame. -/
theorem Sought.not_infix
    (hSought : Sought needle)
    {frame : List Char}
    (hFrame : ∀ c ∈ frame, isFrame c = true) :
    ¬ needle <:+: frame := by
  intro hInfix
  rcases List.exists_mem_of_ne_nil needle hSought.ne_nil with
    ⟨c, hc⟩
  have hIn := hFrame c (hInfix.subset hc)
  rw [hSought.not_frame c hc] at hIn
  cases hIn

/- Frame behind a text plays no part in the search. -/
theorem Sought.infix_append_frame
    (hSought : Sought needle)
    {text frame : List Char}
    (hFrame : ∀ c ∈ frame, isFrame c = true) :
    needle <:+: text ++ frame ↔ needle <:+: text := by
  constructor
  · intro hInfix
    rcases List.infix_append_iff_ne_nil.mp hInfix with
      hText | hIn | ⟨front, back, _, hBack, rfl, _, hPrefix⟩
    · exact hText
    · exact absurd hIn (hSought.not_infix hFrame)
    · rcases List.exists_mem_of_ne_nil back hBack with ⟨c, hc⟩
      have hNot :=
        hSought.not_frame c (List.mem_append_right front hc)
      rw [hFrame c (hPrefix.subset hc)] at hNot
      cases hNot
  · exact fun hText => List.infix_append_of_infix_left hText

/- Nor does frame in front of it. -/
theorem Sought.infix_frame_append
    (hSought : Sought needle)
    {frame text : List Char}
    (hFrame : ∀ c ∈ frame, isFrame c = true) :
    needle <:+: frame ++ text ↔ needle <:+: text := by
  constructor
  · intro hInfix
    rcases List.infix_append_iff_ne_nil.mp hInfix with
      hIn | hText | ⟨front, back, hFront, _, rfl, hSuffix, _⟩
    · exact absurd hIn (hSought.not_infix hFrame)
    · exact hText
    · rcases List.exists_mem_of_ne_nil front hFront with
        ⟨c, hc⟩
      have hNot :=
        hSought.not_frame c (List.mem_append_left back hc)
      rw [hFrame c (hSuffix.subset hc)] at hNot
      cases hNot
  · exact fun hText => List.infix_append_of_infix_right hText

/- A comma separates what is found before and behind it. -/
theorem Sought.infix_comma_iff
    (hSought : Sought needle)
    {piece rest : List Char} :
    needle <:+: piece ++ ',' :: rest ↔
      needle <:+: piece ∨ needle <:+: rest := by
  constructor
  · intro hInfix
    have hComma :
        ∀ {back : List Char}, back ≠ [] →
          (∀ c ∈ back, isFrame c = false) →
          ¬ back <+: ',' :: rest := by
      intro back hBack hNot hPrefix
      rcases List.exists_cons_of_ne_nil hBack with
        ⟨c, tail, rfl⟩
      rw [(List.cons_prefix_cons.mp hPrefix).1] at hNot
      exact absurd (hNot ',' List.mem_cons_self) (by decide)
    rcases List.infix_append_iff_ne_nil.mp hInfix with
      hPiece | hRest | ⟨front, back, _, hBack, rfl, _, hPrefix⟩
    · exact Or.inl hPiece
    · rcases List.infix_cons_iff.mp hRest with hPrefix | hRest
      · exact absurd hPrefix
          (hComma hSought.ne_nil hSought.not_frame)
      · exact Or.inr hRest
    · have hNot :
          ∀ c ∈ back, isFrame c = false := fun c hc =>
        hSought.not_frame c (List.mem_append_right front hc)
      exact absurd hPrefix (hComma hBack hNot)
  · rintro (hPiece | hRest)
    · exact List.infix_append_of_infix_left hPiece
    · exact List.infix_append_of_infix_right
        (List.infix_cons hRest)

/- Blanks, weights and what surrounds them are frame. -/
theorem IsGap.isFrame
    {gap : List Char}
    (hGap : IsGap gap) :
    ∀ c ∈ gap, isFrame c = true := by
  intro c hc
  simp [WeightedCoding.isFrame, hGap c hc]

theorem IsWeight.isFrame
    {number : List Char} {weight : Nat}
    (hNumber : IsWeight number weight) :
    ∀ c ∈ number, isFrame c = true := by
  cases hNumber with
  | zero => exact List.all_eq_true.mp (by decide)
  | one => exact List.all_eq_true.mp (by decide)
  | part hDigits =>
      simp only [List.forall_mem_cons]
      refine ⟨by decide, by decide, ?_⟩
      intro c hc
      simp [WeightedCoding.isFrame, hDigits c hc]
  | whole hZeros =>
      simp only [List.forall_mem_cons]
      refine ⟨by decide, by decide, ?_⟩
      intro c hc
      rw [hZeros c hc]
      decide

theorem IsSuffix.isFrame
    {suffix : List Char} {weight : Nat}
    (hSuffix : IsSuffix suffix weight) :
    ∀ c ∈ suffix, isFrame c = true := by
  cases hSuffix with
  | absent => simp
  | weighted hGap hGap' hLetter hNumber =>
      simp only [List.forall_mem_append,
        List.forall_mem_cons]
      refine ⟨⟨hGap.isFrame, by decide, hGap'.isFrame⟩, ?_,
        by decide, hNumber.isFrame⟩
      rcases hLetter with rfl | rfl <;> decide

/- What is searched for is found in the name of a piece. -/
theorem ReadsPiece.infix_iff
    {piece : List Char} {codings : List WeightedCoding}
    (hPiece : ReadsPiece piece codings)
    (hSought : Sought needle) :
    needle <:+: piece ↔
      ∃ listed ∈ codings, needle <:+: listed.name.toList := by
  cases hPiece with
  | nothing hGap =>
      simpa using hSought.not_infix hGap.isFrame
  | @coding _ name _ _ weight hGap _ hSuffix hGap' =>
      rw [hSought.infix_frame_append hGap.isFrame,
        ← List.append_assoc,
        hSought.infix_append_frame hGap'.isFrame,
        hSought.infix_append_frame hSuffix.isFrame]
      simp

/- What is searched for is found in the name of a coding. -/
theorem ReadsList.infix_iff
    {text : List Char} {list : List WeightedCoding}
    (hReads : ReadsList text list)
    (hSought : Sought needle) :
    needle <:+: text ↔
      ∃ listed ∈ list, needle <:+: listed.name.toList := by
  induction hReads with
  | last hPiece => exact hPiece.infix_iff hSought
  | more hPiece _ ih =>
      rw [hSought.infix_comma_iff, hPiece.infix_iff hSought, ih]
      simp only [List.mem_append, or_and_right, exists_or]

end WeightedCoding

------------------------------------------------------------
-- Selection
------------------------------------------------------------

namespace EncodingRules

open WeightedCoding

/- Rules that set no minimum size. -/
def anySize : EncodingRules where
  brotliMinSize := 0
  deflateMinSize := 0
  gzipMinSize := 0

/-
  For a list, only a coding that the client accepts is ever
  selected if and only if the client accepts the coding as soon
  as some name contains its token, be the name another one or
  its weight zero.
-/
theorem selects_accepted_iff
    {value : String}
    {list : List WeightedCoding}
    (hReads : ReadsList value.toList list)
    (coding : Coding) :
    (∀ (rules : EncodingRules) encoding contentType size,
        rules.select encoding contentType (some value) size =
            some coding →
          coding.AcceptedBy list) ↔
      ∀ listed ∈ list,
        coding.token.toList <:+: listed.name.toList →
          coding.AcceptedBy list := by
  have hFound :=
    hReads.infix_iff (sought_token coding)
  constructor
  · intro hSafe listed hListed hContains
    -- asked for by name and at any size, it is selected
    apply hSafe anySize (.only coding) none 0
    rw [select_eq_some_iff]
    refine ⟨⟨hFound.mpr ⟨listed, hListed, hContains⟩, ?_⟩, rfl⟩
    cases coding <;> decide
  · intro hNames rules encoding contentType size hSelect
    rw [select_eq_some_iff] at hSelect
    rcases hFound.mp hSelect.1.occurs with
      ⟨listed, hListed, hContains⟩
    exact hNames listed hListed hContains

/-
  A list that gives brotli half a weight and names gzip: brotli
  is selected only as the client accepts it.
-/
theorem selects_accepted_iff_of_half_brotli :
    ReadsList "gzip, br;q=0.5".toList
        [⟨"gzip", 1000⟩, ⟨"br", 500⟩] ∧
      ((∀ (rules : EncodingRules) encoding contentType size,
          rules.select encoding contentType
              (some "gzip, br;q=0.5") size = some .brotli →
            Coding.brotli.AcceptedBy
              [⟨"gzip", 1000⟩, ⟨"br", 500⟩]) ↔
        ∀ listed ∈
            [WeightedCoding.mk "gzip" 1000, ⟨"br", 500⟩],
          Coding.brotli.token.toList <:+: listed.name.toList →
            Coding.brotli.AcceptedBy
              [⟨"gzip", 1000⟩, ⟨"br", 500⟩]) := by
  have hGap : IsGap [' '] := by
    simp [IsGap, Text.isBlank]
  have hHalf : IsWeight "0.5".toList 500 :=
    @IsWeight.part ['5'] (by simp) (by decide)
  have hReads :
      ReadsList "gzip, br;q=0.5".toList
        [⟨"gzip", 1000⟩, ⟨"br", 500⟩] :=
    .more (.of_token .gzip .nil .absent)
      (.last (.of_token .brotli hGap (.of_weight hHalf)))
  exact ⟨hReads, selects_accepted_iff hReads .brotli⟩

/-
  A client that refuses gzip names it, with the weight zero, and
  gzip is selected.
-/
theorem selects_refused_gzip :
    ReadsList "gzip;q=0".toList [⟨"gzip", 0⟩] ∧
      ({} : EncodingRules).select (.only .gzip) none
          (some "gzip;q=0") 1024 = some .gzip ∧
      ¬ Coding.gzip.AcceptedBy [⟨"gzip", 0⟩] :=
  ⟨.last (.of_token .gzip .nil (.of_weight .zero)),
    by decide +kernel, by decide +kernel⟩

end EncodingRules

end Courier
