import Courier.Cache.Policy
import Courier.Proofs.Association
import Courier.Proofs.Text.Pieces
import Courier.Proofs.Text.Digits

/-
  What a `Cache-Control` value says of the policy that it was
  rendered from. Each directive stands in it under a name of its
  own, so a directive with its value is a piece of the text
  exactly when the policy asks for it, and two policies with the
  same text ask for the same directives.

  Key definitions include:
    * `Directive`
    * `Directive.text`
    * `CachePolicy.asks`
    * `CachePolicy.AgreesWith`

  Main statements:
    * `Directive.text_inj`
    * `CachePolicy.directives_eq_filterMap`
    * `CachePolicy.text_mem_directives`
    * `CachePolicy.piecesAt_render`
    * `CachePolicy.render_tells`
-/

namespace Courier

------------------------------------------------------------
-- Directives
------------------------------------------------------------

/- What a policy may say besides who may store the response. -/
inductive Directive where
  | maxAge
  | sharedMaxAge
  | noStore
  | noCache
  | immutable
  | mustRevalidate
  | proxyRevalidate
  | mustUnderstand
  | noTransform
  | staleWhileRevalidate
  | staleIfError
deriving DecidableEq, Repr

namespace Directive

/- The directives in the order in which they are written. -/
def order : List Directive :=
  [maxAge, sharedMaxAge, noStore, noCache, immutable,
    mustRevalidate, proxyRevalidate, mustUnderstand,
    noTransform, staleWhileRevalidate, staleIfError]

/- What a directive is called. -/
def name : Directive → String
  | maxAge => "max-age"
  | sharedMaxAge => "s-maxage"
  | noStore => "no-store"
  | noCache => "no-cache"
  | immutable => "immutable"
  | mustRevalidate => "must-revalidate"
  | proxyRevalidate => "proxy-revalidate"
  | mustUnderstand => "must-understand"
  | noTransform => "no-transform"
  | staleWhileRevalidate => "stale-while-revalidate"
  | staleIfError => "stale-if-error"

/- A directive as it is written, with its value if any. -/
def text
    (d : Directive) : Option Nat → String
  | none => d.name
  | some n => d.name ++ "=" ++ toString n

theorem mem_order
    (d : Directive) :
    d ∈ order := by
  cases d <;> decide

theorem name_inj
    {d e : Directive}
    (hName : d.name = e.name) :
    d = e := by
  cases d <;> cases e <;>
    first | rfl | exact absurd hName (by decide)

/- A name has neither of the characters that end it. -/
theorem not_mem_name
    {c : Char}
    (hEnds : c = '=' ∨ c = ',')
    (d : Directive) :
    c ∉ d.name.toList := by
  rcases hEnds with rfl | rfl <;> cases d <;> decide

theorem toList_text_some
    (d : Directive)
    (n : Nat) :
    (d.text (some n)).toList =
      d.name.toList ++ '=' :: Nat.toDigits 10 n := by
  simp [text, Nat.toString_eq_repr, Nat.repr]

/- The name of a directive is what comes before its value. -/
theorem cutFirst_text
    (d : Directive)
    (value : Option Nat) :
    Text.cutFirst '=' (d.text value).toList =
      (d.name.toList, value.map (Nat.toDigits 10)) := by
  have hName : '=' ∉ d.name.toList :=
    not_mem_name (.inl rfl) d
  cases value with
  | none => exact Text.cutFirst_of_not_mem hName
  | some n =>
      rw [toList_text_some]
      exact Text.cutFirst_append_cons hName _

/- No two directives, and no two values, are written alike. -/
theorem text_inj
    {d e : Directive}
    {v w : Option Nat}
    (hText : d.text v = e.text w) :
    d = e ∧ v = w := by
  have hCut :
      (d.name.toList, v.map (Nat.toDigits 10)) =
        (e.name.toList, w.map (Nat.toDigits 10)) := by
    rw [← cutFirst_text, ← cutFirst_text, hText]
  rcases Prod.ext_iff.mp hCut with ⟨hName, hValue⟩
  have hDigits :
      Function.Injective (Nat.toDigits 10) :=
    fun _ _ => Numeral.toDigits_inj (by decide) (by decide)
  exact ⟨name_inj (String.toList_inj.mp hName),
    Option.map_injective hDigits hValue⟩

/- A word without a value is a directive by its name alone. -/
theorem text_ne
    {word : String}
    (hWord : '=' ∉ word.toList)
    (d : Directive)
    (hName : d.name ≠ word)
    (value : Option Nat) :
    d.text value ≠ word := by
  intro hText
  have hCut := cutFirst_text d value
  rw [hText, Text.cutFirst_of_not_mem hWord,
    Prod.mk.injEq] at hCut
  exact hName (String.toList_inj.mp hCut.1.symm)

/- No directive contains what separates two of them. -/
theorem not_mem_text
    (d : Directive)
    (value : Option Nat) :
    ',' ∉ (d.text value).toList := by
  have hName : ',' ∉ d.name.toList :=
    not_mem_name (.inr rfl) d
  cases value with
  | none => exact hName
  | some n =>
      rw [toList_text_some, List.mem_append, List.mem_cons]
      rintro (hc | hc | hc)
      · exact hName hc
      · exact absurd hc (by decide)
      · exact Numeral.not_mem_toDigits (by decide) n hc

end Directive

namespace CachePolicy

------------------------------------------------------------
-- Requests
------------------------------------------------------------

/- A span asks for its whole seconds, unless it is zero. -/
def timed
    (t : Duration) : Option (Option Nat) :=
  if t.isZero then none else some (some t.seconds)

/- A flag that is raised asks for a directive without value. -/
def raised
    (active : Bool) : Option (Option Nat) :=
  if active then some none else none

/-
  Whether a policy asks for a directive and, when it does, with
  which value.
-/
def asks
    (p : CachePolicy) : Directive → Option (Option Nat)
  | .maxAge => timed p.maxAge
  | .sharedMaxAge => timed p.sharedMaxAge
  | .noStore => raised p.noStore
  | .noCache => raised p.noCache
  | .immutable => raised p.immutable
  | .mustRevalidate => raised p.mustRevalidate
  | .proxyRevalidate => raised p.proxyRevalidate
  | .mustUnderstand => raised p.mustUnderstand
  | .noTransform => raised p.noTransform
  | .staleWhileRevalidate => timed p.staleWhileRevalidate
  | .staleIfError => timed p.staleIfError

theorem span_eq
    (d : Directive)
    (t : Duration) :
    span d.name t = ((timed t).map d.text).toList := by
  unfold span timed
  cases t.isZero <;> rfl

theorem flag_eq
    (d : Directive)
    (active : Bool) :
    flag d.name active =
      ((raised active).map d.text).toList := by
  cases active <;> rfl

/- A policy writes what it asks for, in order. -/
theorem directives_eq_filterMap
    (p : CachePolicy) :
    p.directives =
      Directive.order.filterMap
        fun d => (p.asks d).map d.text := by
  have hDirectives :
      p.directives =
        span Directive.maxAge.name p.maxAge
          ++ span Directive.sharedMaxAge.name p.sharedMaxAge
          ++ flag Directive.noStore.name p.noStore
          ++ flag Directive.noCache.name p.noCache
          ++ flag Directive.immutable.name p.immutable
          ++ flag Directive.mustRevalidate.name p.mustRevalidate
          ++ flag Directive.proxyRevalidate.name
            p.proxyRevalidate
          ++ flag Directive.mustUnderstand.name p.mustUnderstand
          ++ flag Directive.noTransform.name p.noTransform
          ++ span Directive.staleWhileRevalidate.name
            p.staleWhileRevalidate
          ++ span Directive.staleIfError.name p.staleIfError :=
    rfl
  rw [hDirectives, List.filterMap_eq_flatMap_toList]
  simp only [span_eq, flag_eq, Directive.order, asks,
    List.flatMap_cons, List.flatMap_nil, List.append_nil,
    List.append_assoc]

/- What is written is what some directive was asked for with. -/
theorem mem_directives
    {p : CachePolicy}
    {s : String} :
    s ∈ p.directives ↔
      ∃ d value, p.asks d = some value ∧ d.text value = s := by
  rw [directives_eq_filterMap, List.mem_filterMap]
  simp [Directive.mem_order]

/-
  A directive is written with a value exactly when the policy
  asks for it with that value.
-/
theorem text_mem_directives
    {p : CachePolicy}
    {d : Directive}
    {value : Option Nat} :
    d.text value ∈ p.directives ↔ p.asks d = some value := by
  rw [directives_eq_filterMap,
    Association.mem_written_iff Directive.text_inj]
  exact and_iff_right d.mem_order

/- The text of the directives tells what is asked for. -/
theorem asks_eq_of_directives_eq
    {p q : CachePolicy}
    (hDirectives : p.directives = q.directives)
    (d : Directive) :
    p.asks d = q.asks d := by
  rw [directives_eq_filterMap,
    directives_eq_filterMap] at hDirectives
  exact Association.eq_of_written_eq Directive.text_inj
    hDirectives d.mem_order

/- No directive is written twice. -/
theorem nodup_directives
    (p : CachePolicy) :
    p.directives.Nodup := by
  rw [directives_eq_filterMap]
  have hOrder : Directive.order.Nodup := by
    decide
  refine List.Pairwise.filterMap _ ?_ hOrder
  intro d e hOther s hs t ht hSame
  rcases Option.map_eq_some_iff.mp hs with ⟨v, -, hs⟩
  rcases Option.map_eq_some_iff.mp ht with ⟨w, -, ht⟩
  rw [← hs, ← ht] at hSame
  exact hOther (Directive.text_inj hSame).1

------------------------------------------------------------
-- Pieces
------------------------------------------------------------

theorem visibility_inj
    {p q : CachePolicy}
    (hVisibility : p.visibility = q.visibility) :
    p.isPrivate = q.isPrivate := by
  unfold visibility at hVisibility
  cases hp : p.isPrivate <;> cases hq : q.isPrivate <;>
    simp_all

/- Who may store a response is no directive. -/
theorem text_ne_visibility
    (p : CachePolicy)
    (d : Directive)
    (value : Option Nat) :
    d.text value ≠ p.visibility := by
  unfold visibility
  cases p.isPrivate with
  | false =>
      have hName : d.name ≠ "public" := by
        cases d <;> decide
      exact d.text_ne (by decide) hName value
  | true =>
      have hName : d.name ≠ "private" := by
        cases d <;> decide
      exact d.text_ne (by decide) hName value

/- A value is cut at its separators into what it was made of. -/
theorem piecesAt_render
    (p : CachePolicy) :
    Text.piecesAt ", " p.render =
      p.visibility :: p.directives := by
  apply Text.piecesAt_intercalate (c := ',') rfl
  · exact List.cons_ne_nil _ _
  · intro piece hPiece
    rcases List.mem_cons.mp hPiece with rfl | hPiece
    · unfold visibility
      cases p.isPrivate <;> decide
    · rcases mem_directives.mp hPiece with ⟨d, value, -, rfl⟩
      exact d.not_mem_text value

/- No piece of a value stands in it twice. -/
theorem nodup_piecesAt_render
    (p : CachePolicy) :
    (Text.piecesAt ", " p.render).Nodup := by
  rw [piecesAt_render, List.nodup_cons]
  refine ⟨?_, p.nodup_directives⟩
  intro hMem
  rcases mem_directives.mp hMem with ⟨d, value, -, hText⟩
  exact text_ne_visibility p d value hText

------------------------------------------------------------
-- Agreement
------------------------------------------------------------

/- Both spans are zero, or both last the same whole seconds. -/
def SameSpan
    (t u : Duration) : Prop :=
  (t.isZero = true ∧ u.isZero = true) ∨
    (t.isZero = false ∧ u.isZero = false ∧
      t.seconds = u.seconds)

/- Two policies that a cache is told the same by. -/
structure AgreesWith
    (p q : CachePolicy) : Prop where
  isPrivate : p.isPrivate = q.isPrivate
  noStore : p.noStore = q.noStore
  noCache : p.noCache = q.noCache
  immutable : p.immutable = q.immutable
  mustRevalidate : p.mustRevalidate = q.mustRevalidate
  proxyRevalidate : p.proxyRevalidate = q.proxyRevalidate
  mustUnderstand : p.mustUnderstand = q.mustUnderstand
  noTransform : p.noTransform = q.noTransform
  maxAge : SameSpan p.maxAge q.maxAge
  sharedMaxAge : SameSpan p.sharedMaxAge q.sharedMaxAge
  staleWhileRevalidate :
    SameSpan p.staleWhileRevalidate q.staleWhileRevalidate
  staleIfError : SameSpan p.staleIfError q.staleIfError

theorem timed_eq_iff
    {t u : Duration} :
    timed t = timed u ↔ SameSpan t u := by
  unfold timed SameSpan
  cases t.isZero <;> cases u.isZero <;> simp

theorem raised_eq_iff
    {a b : Bool} :
    raised a = raised b ↔ a = b := by
  cases a <;> cases b <;> decide

/- To agree is to ask for the same. -/
theorem agreesWith_iff
    {p q : CachePolicy} :
    p.AgreesWith q ↔
      p.isPrivate = q.isPrivate ∧
        ∀ d, p.asks d = q.asks d := by
  constructor
  · intro hAgree
    refine ⟨hAgree.isPrivate, fun d => ?_⟩
    cases d with
    | maxAge => exact timed_eq_iff.mpr hAgree.maxAge
    | sharedMaxAge => exact timed_eq_iff.mpr hAgree.sharedMaxAge
    | noStore => exact raised_eq_iff.mpr hAgree.noStore
    | noCache => exact raised_eq_iff.mpr hAgree.noCache
    | immutable => exact raised_eq_iff.mpr hAgree.immutable
    | mustRevalidate =>
        exact raised_eq_iff.mpr hAgree.mustRevalidate
    | proxyRevalidate =>
        exact raised_eq_iff.mpr hAgree.proxyRevalidate
    | mustUnderstand =>
        exact raised_eq_iff.mpr hAgree.mustUnderstand
    | noTransform => exact raised_eq_iff.mpr hAgree.noTransform
    | staleWhileRevalidate =>
        exact timed_eq_iff.mpr hAgree.staleWhileRevalidate
    | staleIfError => exact timed_eq_iff.mpr hAgree.staleIfError
  · rintro ⟨hPrivate, hAsks⟩
    exact {
      isPrivate := hPrivate
      noStore := raised_eq_iff.mp (hAsks .noStore)
      noCache := raised_eq_iff.mp (hAsks .noCache)
      immutable := raised_eq_iff.mp (hAsks .immutable)
      mustRevalidate := raised_eq_iff.mp (hAsks .mustRevalidate)
      proxyRevalidate :=
        raised_eq_iff.mp (hAsks .proxyRevalidate)
      mustUnderstand := raised_eq_iff.mp (hAsks .mustUnderstand)
      noTransform := raised_eq_iff.mp (hAsks .noTransform)
      maxAge := timed_eq_iff.mp (hAsks .maxAge)
      sharedMaxAge := timed_eq_iff.mp (hAsks .sharedMaxAge)
      staleWhileRevalidate :=
        timed_eq_iff.mp (hAsks .staleWhileRevalidate)
      staleIfError := timed_eq_iff.mp (hAsks .staleIfError) }

/- Policies are rendered alike exactly when they agree. -/
theorem render_eq_iff
    {p q : CachePolicy} :
    p.render = q.render ↔ p.AgreesWith q := by
  rw [agreesWith_iff]
  constructor
  · intro hRender
    have hPieces := congrArg (Text.piecesAt ", ") hRender
    rw [piecesAt_render, piecesAt_render,
      List.cons.injEq] at hPieces
    exact ⟨visibility_inj hPieces.1,
      asks_eq_of_directives_eq hPieces.2⟩
  · rintro ⟨hPrivate, hAsks⟩
    have hVisibility : p.visibility = q.visibility := by
      rw [visibility, visibility, hPrivate]
    have hDirectives : p.directives = q.directives := by
      simp only [directives_eq_filterMap, hAsks]
    rw [render, render, hVisibility, hDirectives]

/-
  A rendered policy loses nothing that a cache is told: two
  policies have one text exactly when they agree, and the text
  is cut at its separators into who may store the response and
  the directives that are asked for, in order and each once.
-/
theorem render_tells
    (p : CachePolicy) :
    (∀ q : CachePolicy,
      p.render = q.render ↔ p.AgreesWith q) ∧
    Text.piecesAt ", " p.render =
      (if p.isPrivate then "private" else "public") ::
        Directive.order.filterMap
          (fun d => (p.asks d).map d.text) ∧
    (Text.piecesAt ", " p.render).Nodup := by
  refine ⟨fun q => render_eq_iff, ?_, nodup_piecesAt_render p⟩
  rw [piecesAt_render, directives_eq_filterMap, visibility]

/- A span of less than a second is asked for, and says zero. -/
example :
    render { maxAge := { nanos := 5 }, noStore := true } =
      "public, max-age=0, no-store" := by
  decide

end CachePolicy

end Courier
