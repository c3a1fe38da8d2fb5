import Courier.Proofs.Association
import Courier.Proofs.Text.Percent
import Courier.Proofs.Text.Trimming
import Courier.Request.Head
import Mathlib.Data.List.Basic

/-
  Cookies that a client sends. They stand in its `Cookie`
  headers in order, between semicolons and blanks, and perhaps
  beside pieces and whole headers that are no cookies. What is
  looked up is the value of the first cookie with the name.

  Key definitions include:
    * `RequestHead.IsSendable`
    * `RequestHead.PieceOf`
    * `RequestHead.TextOf`
    * `RequestHead.Carries`

  Main statements:
    * `RequestHead.visible?_of_encode`
    * `RequestHead.TextOf.cookiePairs_eq`
    * `RequestHead.Carries.cookiePairs_eq`
    * `RequestHead.cookie?_eq_lookup`
-/

namespace Courier.RequestHead

------------------------------------------------------------
-- Headers of cookies
------------------------------------------------------------

/- A name and a value as they are sent. -/
abbrev SentCookie :=
  String × String

/- Tabs and printable ASCII alone. -/
def IsVisibleText
    (cs : List Char) : Prop :=
  ∀ c ∈ cs, c = '\t' ∨ 32 ≤ c.toNat ∧ c.toNat ≤ 126

instance
    (cs : List Char) :
    Decidable (IsVisibleText cs) :=
  decidable_of_iff
    (cs.all fun c =>
      c = '\t' || 32 ≤ c.toNat && c.toNat ≤ 126)
    (by simp [IsVisibleText])

/- There is no blank at either end. -/
def IsTrimmed
    (cs : List Char) : Prop :=
  (∀ c ∈ cs.head?, Text.isBlank c = false) ∧
    ∀ c ∈ cs.getLast?, Text.isBlank c = false

instance
    (cs : List Char) :
    Decidable (IsTrimmed cs) :=
  decidable_of_iff
    (cs.head?.all (!Text.isBlank ·) &&
      cs.getLast?.all (!Text.isBlank ·))
    (by simp [IsTrimmed, Option.all_eq_true])

/-
  A cookie that can be told from what stands around it. Behind
  the first `=` its value may hold further ones.
-/
structure IsSendable
    (cookie : SentCookie) : Prop where
  visible :
    IsVisibleText cookie.1.toList ∧
      IsVisibleText cookie.2.toList
  named : '=' ∉ cookie.1.toList
  whole : ';' ∉ cookie.1.toList ∧ ';' ∉ cookie.2.toList
  trimmed :
    IsTrimmed cookie.1.toList ∧ IsTrimmed cookie.2.toList

/-
  What stands between two semicolons: a cookie with any blanks
  around it, or some text that is none.
-/
inductive PieceOf :
    List SentCookie → List Char → Prop where
  | cookie
      {before after : List Char} {cookie : SentCookie}
      (hBefore : ∀ c ∈ before, Text.isBlank c = true)
      (hCookie : IsSendable cookie)
      (hAfter : ∀ c ∈ after, Text.isBlank c = true) :
      PieceOf [cookie]
        (before ++ (cookie.1.toList ++ '=' :: cookie.2.toList)
          ++ after)
  | stray
      {piece : List Char}
      (hVisible : IsVisibleText piece)
      (hNone : '=' ∉ piece)
      (hWhole : ';' ∉ piece) :
      PieceOf [] piece

/- The text of a header that holds the cookies in order. -/
inductive TextOf :
    List SentCookie → List Char → Prop where
  | last
      {cookies : List SentCookie} {piece : List Char}
      (hPiece : PieceOf cookies piece) :
      TextOf cookies piece
  | more
      {cookies later : List SentCookie}
      {piece rest : List Char}
      (hPiece : PieceOf cookies piece)
      (hRest : TextOf later rest) :
      TextOf (cookies ++ later) (piece ++ ';' :: rest)

/-
  The values of headers that hold the cookies in order, some of
  them perhaps no text at all.
-/
inductive Carries :
    List SentCookie → List ByteArray → Prop where
  | none : Carries [] []
  | text
      {cookies later : List SentCookie} {text : List Char}
      {value : ByteArray} {values : List ByteArray}
      (hText : TextOf cookies text)
      (hBytes : value.toList = Utf8.encode text)
      (hLater : Carries later values) :
      Carries (cookies ++ later) (value :: values)
  | unreadable
      {cookies : List SentCookie}
      {value : ByteArray} {values : List ByteArray}
      {b : UInt8}
      (hByte : b ∈ value.toList)
      (hUnreadable : isVisible b = false)
      (hLater : Carries cookies values) :
      Carries cookies (value :: values)

------------------------------------------------------------
-- Bytes
------------------------------------------------------------

/- Visible text is ASCII. -/
theorem IsVisibleText.lt
    {text : List Char}
    (hVisible : IsVisibleText text) :
    ∀ c ∈ text, c.toNat < 128 := by
  intro c hc
  rcases hVisible c hc with rfl | hPrintable
  · decide
  · omega

/- A visible character has a visible byte. -/
theorem isVisible_ofNat
    {c : Char}
    (hVisible : c = '\t' ∨ 32 ≤ c.toNat ∧ c.toNat ≤ 126) :
    isVisible (UInt8.ofNat c.toNat) = true := by
  rcases hVisible with rfl | hPrintable
  · rfl
  · have hByte : (UInt8.ofNat c.toNat).toNat = c.toNat :=
      Utf8.toNat_ofNat_of_lt (by omega)
    simp [isVisible, UInt8.le_iff_toNat_le, hByte, hPrintable]

/- Visible text is read from its bytes. -/
theorem visible?_of_encode
    {value : ByteArray}
    {text : List Char}
    (hBytes : value.toList = Utf8.encode text)
    (hVisible : IsVisibleText text) :
    visible? value = some (String.ofList text) := by
  rw [Percent.encode_eq_asciiBytes hVisible.lt] at hBytes
  have hAll : (Percent.asciiBytes text).all isVisible := by
    simp only [Percent.asciiBytes, List.all_map,
      List.all_eq_true]
    exact fun c hc => isVisible_ofNat (hVisible c hc)
  simp only [visible?, hBytes, hAll, if_true,
    Percent.map_ofNat_asciiBytes hVisible.lt]

theorem visible?_of_unreadable
    {value : ByteArray}
    {b : UInt8}
    (hByte : b ∈ value.toList)
    (hUnreadable : isVisible b = false) :
    visible? value = none := by
  have hAll : value.toList.all isVisible = false :=
    List.all_eq_false.mpr ⟨b, hByte, by simp [hUnreadable]⟩
  simp [visible?, hAll]

------------------------------------------------------------
-- Pieces
------------------------------------------------------------

/- The ends of a cookie are those of its name and its value. -/
theorem IsTrimmed.pair
    {name value : List Char}
    (hName : IsTrimmed name)
    (hValue : IsTrimmed value) :
    IsTrimmed (name ++ '=' :: value) := by
  have hEquals : Text.isBlank '=' = false := by
    decide
  constructor
  · cases name with
    | nil => simpa using hEquals
    | cons c rest => exact hName.1
  · cases value with
    | nil => simpa using hEquals
    | cons c rest =>
        simpa [List.getLast?_append] using hValue.2

/- A cookie is read from its piece. -/
theorem cookiePair?_of_sendable
    {before after : List Char}
    {cookie : SentCookie}
    (hBefore : ∀ c ∈ before, Text.isBlank c = true)
    (hCookie : IsSendable cookie)
    (hAfter : ∀ c ∈ after, Text.isBlank c = true) :
    cookiePair?
        (before ++ (cookie.1.toList ++ '=' :: cookie.2.toList)
          ++ after) =
      some (cookie.1.toList, cookie.2.toList) := by
  have hEnds := hCookie.trimmed.1.pair hCookie.trimmed.2
  rw [cookiePair?,
    Text.trimBlanks_surrounded hBefore hEnds.1 hEnds.2 hAfter,
    Text.cutFirst_append_cons hCookie.named]

theorem cookiePair?_of_not_mem
    {piece : List Char}
    (hNone : '=' ∉ piece) :
    cookiePair? piece = none := by
  have hTrimmed : '=' ∉ Text.trimBlanks piece :=
    fun hMem => hNone (Text.trimBlanks_subset piece hMem)
  rw [cookiePair?, Text.cutFirst_of_not_mem hTrimmed]

/- A cookie as two lists of characters. -/
def pairOf
    (cookie : SentCookie) : List Char × List Char :=
  (cookie.1.toList, cookie.2.toList)

theorem PieceOf.cookiePair?_eq
    {cookies : List SentCookie}
    {piece : List Char}
    (hPiece : PieceOf cookies piece) :
    (cookiePair? piece).toList = cookies.map pairOf := by
  cases hPiece with
  | cookie hBefore hCookie hAfter =>
      rw [cookiePair?_of_sendable hBefore hCookie hAfter]
      rfl
  | stray _ hNone _ =>
      rw [cookiePair?_of_not_mem hNone]
      rfl

/- What holds of each part of a piece holds of the piece. -/
theorem forall_mem_piece
    {good : Char → Prop}
    (hEquals : good '=')
    (hBlank : ∀ c, Text.isBlank c = true → good c)
    {before after name value : List Char}
    (hBefore : ∀ c ∈ before, Text.isBlank c = true)
    (hName : ∀ c ∈ name, good c)
    (hValue : ∀ c ∈ value, good c)
    (hAfter : ∀ c ∈ after, Text.isBlank c = true) :
    ∀ c ∈ before ++ (name ++ '=' :: value) ++ after,
      good c := by
  simp only [List.forall_mem_append, List.forall_mem_cons]
  exact ⟨⟨fun c hc => hBlank c (hBefore c hc), hName, hEquals,
    hValue⟩, fun c hc => hBlank c (hAfter c hc)⟩

/- No piece is cut further. -/
theorem PieceOf.not_mem
    {cookies : List SentCookie}
    {piece : List Char}
    (hPiece : PieceOf cookies piece) :
    ';' ∉ piece := by
  cases hPiece with
  | stray _ _ hWhole => exact hWhole
  | @cookie before after cookie hBefore hCookie hAfter =>
      have hBlank :
          ∀ c, Text.isBlank c = true → c ≠ ';' := by
        rintro c hBlank rfl
        exact absurd hBlank (by decide)
      have hName : ∀ c ∈ cookie.1.toList, c ≠ ';' :=
        fun c hc hSame => hCookie.whole.1 (hSame ▸ hc)
      have hValue : ∀ c ∈ cookie.2.toList, c ≠ ';' :=
        fun c hc hSame => hCookie.whole.2 (hSame ▸ hc)
      intro hMem
      exact forall_mem_piece (by decide) hBlank hBefore hName
        hValue hAfter ';' hMem rfl

theorem PieceOf.isVisibleText
    {cookies : List SentCookie}
    {piece : List Char}
    (hPiece : PieceOf cookies piece) :
    IsVisibleText piece := by
  cases hPiece with
  | stray hVisible => exact hVisible
  | cookie hBefore hCookie hAfter =>
      apply forall_mem_piece (Or.inr (by decide)) ?_ hBefore
        hCookie.visible.1 hCookie.visible.2 hAfter
      intro c hBlank
      simp only [Text.isBlank, Bool.or_eq_true,
        decide_eq_true_eq] at hBlank
      rcases hBlank with rfl | rfl
      · exact Or.inr (by decide)
      · exact Or.inl rfl

------------------------------------------------------------
-- Headers
------------------------------------------------------------

theorem TextOf.isVisibleText
    {cookies : List SentCookie}
    {text : List Char}
    (hText : TextOf cookies text) :
    IsVisibleText text := by
  induction hText with
  | last hPiece => exact hPiece.isVisibleText
  | more hPiece _ ih =>
      simp only [IsVisibleText, List.forall_mem_append,
        List.forall_mem_cons]
      exact ⟨hPiece.isVisibleText, Or.inr (by decide), ih⟩

/- The cookies of a header are read from its text. -/
theorem TextOf.cookiePairs_eq
    {cookies : List SentCookie}
    {text : List Char}
    (hText : TextOf cookies text) :
    cookiePairs (String.ofList text) = cookies.map pairOf := by
  rw [cookiePairs, String.toList_ofList,
    List.filterMap_eq_flatMap_toList]
  induction hText with
  | last hPiece =>
      rw [List.splitOn_eq_singleton hPiece.not_mem,
        List.flatMap_singleton, hPiece.cookiePair?_eq]
  | more hPiece _ ih =>
      rw [List.splitOn_append_cons_self,
        List.splitOn_eq_singleton hPiece.not_mem,
        List.flatMap_append, List.flatMap_singleton,
        hPiece.cookiePair?_eq, ih, List.map_append]

theorem Carries.cookiePairs_eq
    {cookies : List SentCookie}
    {values : List ByteArray}
    (hCarries : Carries cookies values) :
    (values.filterMap visible?).flatMap cookiePairs =
      cookies.map pairOf := by
  induction hCarries with
  | none => rfl
  | text hText hBytes _ ih =>
      have hVisible :=
        visible?_of_encode hBytes hText.isVisibleText
      rw [List.filterMap_cons_some hVisible, List.flatMap_cons,
        hText.cookiePairs_eq, ih, List.map_append]
  | unreadable hByte hUnreadable _ ih =>
      rw [List.filterMap_cons_none
        (visible?_of_unreadable hByte hUnreadable), ih]

------------------------------------------------------------
-- Looking up
------------------------------------------------------------

/- The first pair with the name is that of the first cookie. -/
theorem find?_map_pairOf
    (cookies : List SentCookie)
    (name : String) :
    ((cookies.map pairOf).find? (·.1 = name.toList)).map
        (String.ofList ·.2) =
      cookies.lookup name := by
  induction cookies with
  | nil => rfl
  | cons cookie rest ih =>
      rcases cookie with ⟨first, value⟩
      rw [Association.lookup_cons_eq, List.map_cons]
      by_cases hName : name = first
      · simp [pairOf, hName]
      · have hOther : ¬ first.toList = name.toList :=
          fun hList => hName (String.toList_inj.mp hList).symm
        rw [if_neg hName, ← ih, List.find?_cons_of_neg]
        exact fun hList => hOther (of_decide_eq_true hList)

/-
  Looking up a cookie finds the first one with the name among
  all that the client sent, in the order of its headers and in
  the order within each, and gives its whole value; there is
  none only when no cookie has the name.
-/
theorem cookie?_eq_lookup
    {q : RequestHead}
    {cookies : List SentCookie}
    (hCarries : Carries cookies (q.values "Cookie"))
    (name : String) :
    q.cookie? name = cookies.lookup name := by
  rw [cookie?, hCarries.cookiePairs_eq, find?_map_pairOf]

/-
  A piece that is no pair, a header that is no text, a value
  with a second `=` and a name that is sent twice.
-/
theorem cookie?_eq_lookup_of_session :
    let q :=
      RequestHead.ofParts "GET" "/"
        [("Cookie", "new; theme=dark ;session=a=b".toUTF8),
          ("COOKIE", "session=\u00fc".toUTF8),
          ("cookie", "\tsession=late".toUTF8)]
    let cookies :=
      [("theme", "dark"), ("session", "a=b"),
        ("session", "late")]
    Carries cookies (q.values "Cookie") ∧
      q.cookie? "session" = some "a=b" ∧
      q.cookie? "sess" = none := by
  intro q cookies
  have hSpace : ∀ c ∈ [' '], Text.isBlank c = true :=
    List.all_eq_true.mp (by decide)
  have hTab : ∀ c ∈ ['\t'], Text.isBlank c = true :=
    List.all_eq_true.mp (by decide)
  have hNew : PieceOf [] "new".toList :=
    .stray (by decide) (by decide) (by decide)
  have hTheme :
      PieceOf [("theme", "dark")] " theme=dark ".toList :=
    @PieceOf.cookie [' '] [' '] ("theme", "dark") hSpace
      (by constructor <;> decide) hSpace
  have hSession :
      PieceOf [("session", "a=b")] "session=a=b".toList :=
    @PieceOf.cookie [] [] ("session", "a=b") (by simp)
      (by constructor <;> decide) (by simp)
  have hLate :
      PieceOf [("session", "late")] "\tsession=late".toList :=
    @PieceOf.cookie ['\t'] [] ("session", "late") hTab
      (by constructor <;> decide) (by simp)
  have hText :
      TextOf [("theme", "dark"), ("session", "a=b")]
        "new; theme=dark ;session=a=b".toList :=
    .more hNew (.more hTheme (.last hSession))
  have hUnreadable :
      0xC3 ∈ "session=\u00fc".toUTF8.toList := by
    decide +kernel
  have hValues :
      q.values "Cookie" =
        ["new; theme=dark ;session=a=b".toUTF8,
          "session=\u00fc".toUTF8,
          "\tsession=late".toUTF8] := by
    have hLower :
        "Cookie".toLower = "cookie" ∧
          "COOKIE".toLower = "cookie" ∧
          "cookie".toLower = "cookie" := by
      decide +kernel
    simp [q, values, ofParts, hLower]
  have hCarries : Carries cookies (q.values "Cookie") := by
    rw [hValues]
    refine Carries.text hText (by decide +kernel) ?_
    refine Carries.unreadable hUnreadable (by decide) ?_
    exact Carries.text (.last hLate) (by decide +kernel) .none
  have hFound : cookies.lookup "session" = some "a=b" := by
    decide
  have hNone : cookies.lookup "sess" = none := by
    decide
  refine ⟨hCarries, ?_, ?_⟩
  · rw [cookie?_eq_lookup hCarries, hFound]
  · rw [cookie?_eq_lookup hCarries, hNone]

end Courier.RequestHead
