import Courier.Cookie
import Courier.Proofs.Association
import Courier.Proofs.Calendar.HttpDate

/-
  What the written form of a cookie says of the cookie. It is
  cut at its separators into the pair of name and value and one
  piece for each attribute that is set, in a fixed order. Each
  attribute stands there under a name of its own, so that a
  piece is told apart from the others whatever its value is, and
  two cookies with one written form are the same but for parts
  of a second. How dates are written does not matter, as long as
  a date tells its second.

  Key definitions include:
    * `Cookie.Attribute`
    * `Cookie.Attribute.text`
    * `DateFormat.TellsSeconds`
    * `Cookie.tells`
    * `Cookie.IsPlain`
    * `Cookie.AgreesWith`

  Main statements:
    * `Cookie.Attribute.text_inj`
    * `Cookie.pieces?_eq`
    * `Cookie.agreesWith_iff`
    * `Calendar.tellsSeconds_httpDate?`
    * `Cookie.renderWith?_decodes`
-/

namespace Courier

------------------------------------------------------------
-- Dates
------------------------------------------------------------

/- A time with a year of four digits, from 1970 on. -/
def Instant.IsDatable
    (t : Instant) : Prop :=
  0 ≤ t.seconds ∧ t.seconds < Calendar.endOfYears

instance
    (t : Instant) : Decidable t.IsDatable :=
  inferInstanceAs (Decidable (_ ∧ _))

/-
  A format writes dates that tell their second: each such time
  has a date without separators, and two of them are written
  alike just when they differ in parts of a second at most.
-/
structure DateFormat.TellsSeconds
    (date : DateFormat) : Prop where
  written :
    ∀ t : Instant, t.IsDatable →
      ∃ text, date t = some text ∧ ';' ∉ text.toList
  seconds_eq :
    ∀ t u : Instant, t.IsDatable → u.IsDatable →
      date t = date u → t.seconds = u.seconds
  of_seconds_eq :
    ∀ t u : Instant, t.seconds = u.seconds → date t = date u

/- The dates of HTTP do. -/
theorem Calendar.tellsSeconds_httpDate? :
    DateFormat.TellsSeconds httpDate? := by
  have hDate {t : Instant} (hTime : t.IsDatable) :
      httpDate? t = some (httpDate t.seconds.toNat) := by
    simp [httpDate?, hTime.1, hTime.2]
  constructor
  · intro t hTime
    exact ⟨_, hDate hTime,
      not_mem_httpDate (by decide) (by decide) _⟩
  · intro t u hTime hOther hSame
    rw [hDate hTime, hDate hOther] at hSame
    have hSeconds := httpDate_inj (Option.some.inj hSame)
    have hStart := hTime.1
    have hStart' := hOther.1
    omega
  · intro t u hSeconds
    rw [httpDate?, httpDate?, hSeconds]

namespace Cookie

------------------------------------------------------------
-- Attributes
------------------------------------------------------------

/- What a cookie may say besides its name and its value. -/
inductive Attribute where
  | path
  | domain
  | expires
  | maxAge
  | httpOnly
  | secure
  | sameSite
deriving DecidableEq, Repr

namespace Attribute

/- The attributes in the order in which they are written. -/
def order : List Attribute :=
  [path, domain, expires, maxAge, httpOnly, secure, sameSite]

/- What an attribute is called. -/
def key : Attribute → String
  | path => "Path"
  | domain => "Domain"
  | expires => "Expires"
  | maxAge => "Max-Age"
  | httpOnly => "HttpOnly"
  | secure => "Secure"
  | sameSite => "SameSite"

/- An attribute as it is written, with its value if any. -/
def text
    (a : Attribute) : Option String → String
  | none => a.key
  | some value => a.key ++ "=" ++ value

theorem mem_order
    (a : Attribute) :
    a ∈ order := by
  cases a <;> decide

theorem key_inj
    {a b : Attribute}
    (hKey : a.key = b.key) :
    a = b := by
  cases a <;> cases b <;>
    first | rfl | exact absurd hKey (by decide)

/- A name has neither of the characters that end it. -/
theorem not_mem_key
    {c : Char}
    (hEnds : c = '=' ∨ c = ';')
    (a : Attribute) :
    c ∉ a.key.toList := by
  rcases hEnds with rfl | rfl <;> cases a <;> decide

/- The name of an attribute is what comes before its value. -/
theorem cutFirst_text
    (a : Attribute)
    (value : Option String) :
    Text.cutFirst '=' (a.text value).toList =
      (a.key.toList, value.map String.toList) := by
  have hKey : '=' ∉ a.key.toList :=
    not_mem_key (.inl rfl) a
  cases value with
  | none => exact Text.cutFirst_of_not_mem hKey
  | some value =>
      have hText :
          (a.text (some value)).toList =
            a.key.toList ++ '=' :: value.toList := by
        simp [text]
      rw [hText]
      exact Text.cutFirst_append_cons hKey _

/- No two attributes, and no two values, are written alike. -/
theorem text_inj
    {a b : Attribute}
    {v w : Option String}
    (hText : a.text v = b.text w) :
    a = b ∧ v = w := by
  have hCut := cutFirst_text a v
  rw [hText, cutFirst_text, Prod.mk.injEq] at hCut
  have hList : Function.Injective String.toList :=
    fun _ _ => String.toList_inj.mp
  exact ⟨key_inj (String.toList_inj.mp hCut.1.symm),
    Option.map_injective hList hCut.2.symm⟩

/- An attribute holds a separator only in its value. -/
theorem not_mem_text
    (a : Attribute)
    {value : Option String}
    (hValue : ∀ v ∈ value, ';' ∉ v.toList) :
    ';' ∉ (a.text value).toList := by
  have hKey : ';' ∉ a.key.toList :=
    not_mem_key (.inr rfl) a
  cases value with
  | none => exact hKey
  | some value => simp [text, hKey, hValue value rfl]

end Attribute

------------------------------------------------------------
-- What a cookie tells
------------------------------------------------------------

/- A mark that is set has no value. -/
def marked
    (active : Bool) : Option (Option String) :=
  if active then some none else none

/-
  Whether a cookie has an attribute and, when it does, with
  which value. Parts of a second are not told.
-/
def tells
    (date : DateFormat)
    (c : Cookie) : Attribute → Option (Option String)
  | .path => c.path.map some
  | .domain => c.domain.map some
  | .expires => c.expires.map date
  | .maxAge => c.maxAge.map fun d => some (toString d.seconds)
  | .httpOnly => marked c.httpOnly
  | .secure => marked c.secure
  | .sameSite => c.sameSite.map fun s => some s.token

/-
  A cookie without separators in its parts, whose date has a
  year of four digits.
-/
structure IsPlain
    (c : Cookie) : Prop where
  name : ';' ∉ c.name.toList ∧ '=' ∉ c.name.toList
  value : ';' ∉ c.value.toList
  path : ∀ path ∈ c.path, ';' ∉ path.toList
  domain : ∀ domain ∈ c.domain, ';' ∉ domain.toList
  expires : ∀ t ∈ c.expires, t.IsDatable

/- Two cookies that differ in parts of a second at most. -/
structure AgreesWith
    (c d : Cookie) : Prop where
  name : c.name = d.name
  value : c.value = d.value
  path : c.path = d.path
  domain : c.domain = d.domain
  expires :
    c.expires.map (·.seconds) = d.expires.map (·.seconds)
  maxAge : c.maxAge.map (·.seconds) = d.maxAge.map (·.seconds)
  secure : c.secure = d.secure
  httpOnly : c.httpOnly = d.httpOnly
  sameSite : c.sameSite = d.sameSite

variable {date : DateFormat} {c d : Cookie}

theorem toList_toString
    (n : Nat) :
    (toString n).toList = Nat.toDigits 10 n := by
  rw [Nat.toString_eq_repr, Nat.toList_repr]

/- No value of a plain cookie has a separator. -/
theorem IsPlain.not_mem_tells
    (hDates : date.TellsSeconds)
    (hPlain : c.IsPlain)
    {a : Attribute}
    {told : Option String}
    (hTells : c.tells date a = some told) :
    ∀ value ∈ told, ';' ∉ value.toList := by
  intro value hValue
  subst hValue
  cases a with
  | path =>
      rcases Option.map_eq_some_iff.mp hTells with
        ⟨path, hPath, hTold⟩
      rw [← Option.some.inj hTold]
      exact hPlain.path path hPath
  | domain =>
      rcases Option.map_eq_some_iff.mp hTells with
        ⟨domain, hDomain, hTold⟩
      rw [← Option.some.inj hTold]
      exact hPlain.domain domain hDomain
  | expires =>
      rcases Option.map_eq_some_iff.mp hTells with
        ⟨t, hExpires, hTold⟩
      rcases hDates.written t (hPlain.expires t hExpires) with
        ⟨text, hText, hFree⟩
      rw [hText] at hTold
      rw [← Option.some.inj hTold]
      exact hFree
  | maxAge =>
      rcases Option.map_eq_some_iff.mp hTells with
        ⟨age, -, hTold⟩
      rw [← Option.some.inj hTold, toList_toString]
      exact Numeral.not_mem_toDigits (by decide) _
  | httpOnly => simp [tells, marked] at hTells
  | secure => simp [tells, marked] at hTells
  | sameSite =>
      rcases Option.map_eq_some_iff.mp hTells with
        ⟨site, -, hTold⟩
      rw [← Option.some.inj hTold]
      cases site <;> decide

theorem valued_eq
    (a : Attribute)
    (value : Option String) :
    valued a.key value =
      ((value.map some).map a.text).toList := by
  cases value <;> rfl

theorem mark_eq
    (a : Attribute)
    (active : Bool) :
    mark a.key active =
      ((marked active).map a.text).toList := by
  cases active <;> rfl

/- A plain cookie writes its pair and what else it tells. -/
theorem pieces?_eq
    (hDates : date.TellsSeconds)
    (hPlain : c.IsPlain) :
    c.pieces? date =
      some ((c.name ++ "=" ++ c.value) ::
        Attribute.order.filterMap
          fun a => (c.tells date a).map a.text) := by
  have hExpires :
      ∃ written,
        c.pieces? date = some (c.piecesWith written) ∧
          written.map some = c.expires.map date := by
    unfold pieces?
    cases hTime : c.expires with
    | none => exact ⟨none, rfl, rfl⟩
    | some t =>
        rcases hDates.written t (hPlain.expires t hTime) with
          ⟨text, hText, -⟩
        refine ⟨some text, ?_, ?_⟩
        · simp only [hText, Option.map_some]
        · rw [Option.map_some, Option.map_some, hText]
  have hWith (written : Option String) :
      c.piecesWith written =
        [c.name ++ "=" ++ c.value]
          ++ valued Attribute.path.key c.path
          ++ valued Attribute.domain.key c.domain
          ++ valued Attribute.expires.key written
          ++ valued Attribute.maxAge.key
            (c.maxAge.map (toString ·.seconds))
          ++ mark Attribute.httpOnly.key c.httpOnly
          ++ mark Attribute.secure.key c.secure
          ++ valued Attribute.sameSite.key
            (c.sameSite.map SameSite.token) :=
    rfl
  rcases hExpires with ⟨written, hPieces, hWritten⟩
  rw [hPieces, hWith, List.filterMap_eq_flatMap_toList]
  simp only [valued_eq, mark_eq, hWritten, Attribute.order,
    tells, List.flatMap_cons, List.flatMap_nil,
    List.append_nil, List.append_assoc, List.singleton_append,
    Option.map_map]
  rfl

/- The written form is cut into what it was made of. -/
theorem exists_renderWith?_eq
    (hDates : date.TellsSeconds)
    (hPlain : c.IsPlain) :
    ∃ text, c.renderWith? date = some text ∧
      Text.piecesAt "; " text =
        (c.name ++ "=" ++ c.value) ::
          Attribute.order.filterMap
            fun a => (c.tells date a).map a.text := by
  rw [renderWith?, pieces?_eq hDates hPlain]
  refine ⟨_, rfl, ?_⟩
  apply Text.piecesAt_intercalate (c := ';') rfl
  · exact List.cons_ne_nil _ _
  · intro piece hPiece
    rcases List.mem_cons.mp hPiece with rfl | hPiece
    · simp [hPlain.name.1, hPlain.value]
    · rcases List.mem_filterMap.mp hPiece with ⟨a, -, hText⟩
      rcases Option.map_eq_some_iff.mp hText with
        ⟨told, hTells, rfl⟩
      exact a.not_mem_text (hPlain.not_mem_tells hDates hTells)

------------------------------------------------------------
-- Agreement
------------------------------------------------------------

/- A name without `=` is told from the value behind it. -/
theorem pair_inj
    (hPlain : c.IsPlain)
    (hPlain' : d.IsPlain)
    (hPair :
      c.name ++ "=" ++ c.value = d.name ++ "=" ++ d.value) :
    c.name = d.name ∧ c.value = d.value := by
  have hCut {e : Cookie} (he : e.IsPlain) :
      Text.cutFirst '=' (e.name ++ "=" ++ e.value).toList =
        (e.name.toList, some e.value.toList) := by
    have hList :
        (e.name ++ "=" ++ e.value).toList =
          e.name.toList ++ '=' :: e.value.toList := by
      simp
    rw [hList]
    exact Text.cutFirst_append_cons he.name.2 _
  have hSame := hCut hPlain
  rw [hPair, hCut hPlain', Prod.mk.injEq,
    Option.some.injEq] at hSame
  exact ⟨String.toList_inj.mp hSame.1.symm,
    String.toList_inj.mp hSame.2.symm⟩

/- Dates of plain cookies tell their seconds. -/
theorem tells_expires_eq_iff
    (hDates : date.TellsSeconds)
    (hPlain : c.IsPlain)
    (hPlain' : d.IsPlain) :
    c.tells date .expires = d.tells date .expires ↔
      c.expires.map (·.seconds) = d.expires.map (·.seconds) := by
  cases hc : c.expires with
  | none => cases hd : d.expires <;> simp [tells, hc, hd]
  | some t =>
      cases hd : d.expires with
      | none => simp [tells, hc, hd]
      | some u =>
          simp only [tells, hc, hd, Option.map_some,
            Option.some.injEq]
          exact
            ⟨hDates.seconds_eq t u (hPlain.expires t hc)
              (hPlain'.expires u hd),
            hDates.of_seconds_eq t u⟩

theorem tells_maxAge_eq_iff :
    c.tells date .maxAge = d.tells date .maxAge ↔
      c.maxAge.map (·.seconds) = d.maxAge.map (·.seconds) := by
  have hNumber :
      Function.Injective fun n : Nat => some (toString n) := by
    intro m n hText
    have hDigits :=
      congrArg String.toList (Option.some.inj hText)
    rw [toList_toString, toList_toString] at hDigits
    exact Numeral.toDigits_inj (by decide) (by decide) hDigits
  rw [← (Option.map_injective hNumber).eq_iff]
  simp only [tells, Option.map_map, Function.comp_def]

theorem marked_inj
    {active active' : Bool}
    (hMarked : marked active = marked active') :
    active = active' := by
  cases active <;> cases active' <;> simp_all [marked]

theorem token_inj
    {site site' : SameSite}
    (hToken : site.token = site'.token) :
    site = site' := by
  cases site <;> cases site' <;>
    first | rfl | exact absurd hToken (by decide)

/- To agree is to have one pair and to tell the same. -/
theorem agreesWith_iff
    (hDates : date.TellsSeconds)
    (hPlain : c.IsPlain)
    (hPlain' : d.IsPlain) :
    c.AgreesWith d ↔
      c.name = d.name ∧ c.value = d.value ∧
        ∀ a, c.tells date a = d.tells date a := by
  constructor
  · intro hAgree
    refine ⟨hAgree.name, hAgree.value, fun a => ?_⟩
    cases a with
    | path => rw [tells, hAgree.path, tells]
    | domain => rw [tells, hAgree.domain, tells]
    | expires =>
        exact (tells_expires_eq_iff hDates hPlain hPlain').mpr
          hAgree.expires
    | maxAge => exact tells_maxAge_eq_iff.mpr hAgree.maxAge
    | httpOnly => rw [tells, hAgree.httpOnly, tells]
    | secure => rw [tells, hAgree.secure, tells]
    | sameSite => rw [tells, hAgree.sameSite, tells]
  · rintro ⟨hName, hValue, hTells⟩
    have hText : Function.Injective (some : String → _) :=
      fun _ _ => Option.some.inj
    have hSite :
        Function.Injective fun s : SameSite => some s.token :=
      fun _ _ hToken => token_inj (Option.some.inj hToken)
    exact {
      name := hName
      value := hValue
      path := Option.map_injective hText (hTells .path)
      domain := Option.map_injective hText (hTells .domain)
      expires :=
        (tells_expires_eq_iff hDates hPlain hPlain').mp
          (hTells .expires)
      maxAge := tells_maxAge_eq_iff.mp (hTells .maxAge)
      secure := marked_inj (hTells .secure)
      httpOnly := marked_inj (hTells .httpOnly)
      sameSite :=
        Option.map_injective hSite (hTells .sameSite) }

/-
  The written form of a cookie decodes to the cookie. It is cut
  at `; ` into the pair and then one piece for each attribute
  that is set, in order. A cookie that is written alike agrees
  on every part: on times to the second, on all else exactly.
-/
theorem renderWith?_decodes
    (hDates : date.TellsSeconds)
    (hPlain : c.IsPlain) :
    ∃ text, c.renderWith? date = some text ∧
      Text.piecesAt "; " text =
        (c.name ++ "=" ++ c.value) ::
          Attribute.order.filterMap
            (fun a => (c.tells date a).map a.text) ∧
      ∀ other : Cookie, other.IsPlain →
        (other.renderWith? date = some text ↔
          c.AgreesWith other) := by
  rcases exists_renderWith?_eq hDates hPlain with
    ⟨text, hText, hPieces⟩
  refine ⟨text, hText, hPieces, ?_⟩
  intro other hOther
  rw [agreesWith_iff hDates hPlain hOther]
  constructor
  · intro hSame
    rcases exists_renderWith?_eq hDates hOther with
      ⟨text', hText', hPieces'⟩
    cases hText'.symm.trans hSame
    rw [hPieces, List.cons.injEq] at hPieces'
    rcases pair_inj hPlain hOther hPieces'.1 with
      ⟨hName, hValue⟩
    exact ⟨hName, hValue, fun a =>
      Association.eq_of_written_eq Attribute.text_inj
        hPieces'.2 a.mem_order⟩
  · rintro ⟨hName, hValue, hTells⟩
    rw [← hText, renderWith?, renderWith?,
      pieces?_eq hDates hPlain, pieces?_eq hDates hOther]
    simp only [hName, hValue, hTells]

/-
  A cookie whose value, path and domain look like attributes,
  and which expires within the first second of 1970.
-/
theorem renderWith?_decodes_of_imitation :
    let c : Cookie :=
      { name := "Path"
        value := "Secure="
        path := some " HttpOnly"
        domain := some "Path=Max-Age=7"
        expires := some ⟨0, 5⟩
        secure := true
        sameSite := some .lax }
    DateFormat.TellsSeconds Calendar.httpDate? ∧
      c.IsPlain ∧
      ∃ text, c.render? = some text ∧
        Text.piecesAt "; " text =
          ["Path=Secure=", "Path= HttpOnly",
            "Domain=Path=Max-Age=7",
            "Expires=Thu, 01 Jan 1970 00:00:00 GMT",
            "Secure", "SameSite=Lax"] ∧
        ∀ other : Cookie, other.IsPlain →
          (other.render? = some text ↔ c.AgreesWith other) := by
  intro c
  have hDates := Calendar.tellsSeconds_httpDate?
  have hPlain : c.IsPlain := by
    constructor <;> decide
  exact ⟨hDates, hPlain, renderWith?_decodes hDates hPlain⟩

end Cookie

end Courier
