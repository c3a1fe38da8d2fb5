import Courier.Proofs.Encoding.Selection
import Courier.Proofs.Header.Lookup

/-
  What becomes of a body that is to be encoded: it stays as it
  is, or it is packed in one coding, which its headers name.
  Either way the bytes and the codings that are named stand for
  the body that was given.

  Key definitions include:
    * `Compressor.Represents`
    * `Codec.Suits`
    * `Codec.Packs`

  Main statements:
    * `Codec.apply_cases`
    * `Codec.represents_apply`
    * `Codec.body_apply_nonempty`
    * `Codec.apply_spares_or_packs`
-/

namespace Courier

/-
  Bytes under the codings that are named for them stand for a
  body: they are its bytes when none is named, and are read back
  as them under the one that is.
-/
def Compressor.Represents
    (compressor : Compressor)
    (named : List String)
    (bytes body : ByteArray) : Prop :=
  (named = [] ∧ bytes = body) ∨
    ∃ coding : Coding,
      named = [coding.token] ∧
        compressor.decode coding bytes = some body

namespace Codec

/-
  A coding that a body can be packed in: no coding is named for
  the body, which has bytes, and this one is picked for it.
-/
structure Suits
    (codec : Codec)
    (encoding : Encoding)
    (headers : HeaderList)
    (body : ByteArray)
    (accept : Option String)
    (coding : Coding) : Prop where
  unnamed : headers.getAll "Content-Encoding" = []
  nonempty : body.isEmpty = false
  picks :
    codec.rules.Picks ((headers.get? "Content-Type").getD "")
      (accept.getD "") body.size encoding coding

/-
  A body stays as it is, since it cannot be packed in a coding
  that suits it, or is packed in one and the coding named.
-/
theorem apply_cases
    (codec : Codec)
    (encoding : Encoding)
    (headers : HeaderList)
    (body : ByteArray)
    (accept : Option String) :
    (codec.apply encoding headers body accept =
          ⟨none, headers, body⟩ ∧
        ∀ coding,
          codec.Suits encoding headers body accept coding →
            codec.compressor.encode coding body = none) ∨
      ∃ coding packed,
        codec.Suits encoding headers body accept coding ∧
          codec.compressor.encode coding body = some packed ∧
          codec.apply encoding headers body accept =
            ⟨some coding,
              headers.set "Content-Encoding" coding.token,
              packed⟩ := by
  unfold apply
  simp only
  by_cases hSkip :
      (headers.has "Content-Encoding" || body.isEmpty) = true
  · rw [if_pos hSkip]
    refine Or.inl ⟨rfl, ?_⟩
    intro coding hSuits
    rw [(headers.has_eq_false_iff _).mpr hSuits.unnamed,
      hSuits.nonempty] at hSkip
    cases hSkip
  rw [if_neg hSkip]
  rw [Bool.or_eq_true, not_or, Bool.not_eq_true,
    Bool.not_eq_true, headers.has_eq_false_iff] at hSkip
  cases hSelect : codec.rules.select encoding
      (headers.get? "Content-Type") accept body.size with
  | none =>
      refine Or.inl ⟨rfl, ?_⟩
      intro coding hSuits
      rw [EncodingRules.select_eq_some_iff.mpr hSuits.picks]
        at hSelect
      cases hSelect
  | some coding =>
      have hSuits :
          codec.Suits encoding headers body accept coding :=
        ⟨hSkip.1, hSkip.2,
          EncodingRules.select_eq_some_iff.mp hSelect⟩
      cases hPacked : codec.compressor.encode coding body with
      | none =>
          simp only [hPacked]
          refine Or.inl ⟨trivial, ?_⟩
          intro other hOther
          -- no other coding suits
          rw [EncodingRules.select_eq_some_iff.mpr hOther.picks,
            Option.some.injEq] at hSelect
          rw [hSelect, hPacked]
      | some packed =>
          simp only [hPacked]
          exact Or.inr ⟨coding, packed, hSuits, hPacked, rfl⟩

section Fields

variable (codec : Codec) (encoding : Encoding)
variable (headers : HeaderList) (body : ByteArray)
variable (accept : Option String)

/- Every other name keeps its values. -/
theorem getAll_apply
    {name : String}
    (hName : name.toLower ≠ "Content-Encoding".toLower) :
    (codec.apply encoding headers body accept).headers.getAll
        name =
      headers.getAll name := by
  rcases codec.apply_cases encoding headers body accept with
    ⟨hSame, _⟩ | ⟨coding, packed, _, _, hApplied⟩
  · rw [hSame]
  · rw [hApplied]
    exact (headers.getAll_set _ _ name).trans (if_neg hName)

/- A body does not lose all of its bytes. -/
theorem body_apply_nonempty
    (hBody : body.isEmpty = false) :
    (codec.apply encoding headers body accept).body.isEmpty =
      false := by
  rcases codec.apply_cases encoding headers body accept with
    ⟨hSame, _⟩ | ⟨coding, packed, _, hPacked, hApplied⟩
  · rw [hSame]
    exact hBody
  · rw [hApplied]
    exact codec.compressor.encode_nonempty coding body packed
      hPacked

/- What is sent stands for the body that was given. -/
theorem represents_apply
    (hNone : headers.getAll "Content-Encoding" = []) :
    codec.compressor.Represents
      ((codec.apply encoding headers body accept).headers.getAll
        "Content-Encoding")
      (codec.apply encoding headers body accept).body body := by
  rcases codec.apply_cases encoding headers body accept with
    ⟨hSame, _⟩ | ⟨coding, packed, _, hPacked, hApplied⟩
  · rw [hSame]
    exact Or.inl ⟨hNone, rfl⟩
  · have hNamed :
        (headers.set "Content-Encoding" coding.token).getAll
            "Content-Encoding" = [coding.token] :=
      (headers.getAll_set _ _ _).trans (if_pos rfl)
    rw [hApplied]
    exact Or.inr ⟨coding, hNamed,
      codec.compressor.decode_encode coding body packed hPacked⟩

end Fields

/-
  A body was packed in a coding: it reads back as the body that
  was given, and the headers have one entry more, which names
  the coding. From then on nothing happens to them again.
-/
structure Packs
    (codec : Codec)
    (headers : HeaderList)
    (body : ByteArray)
    (coding : Coding)
    (after : Encoded) : Prop where
  coding_eq : after.coding = some coding
  entries_eq :
    after.headers.entries =
      headers.entries ++ [⟨"content-encoding", [coding.token]⟩]
  decodes :
    codec.compressor.decode coding after.body = some body
  spares_again :
    ∀ (codec' : Codec) encoding' accept',
      codec'.apply encoding' after.headers after.body accept' =
        ⟨none, after.headers, after.body⟩

/-
  A body stays as it is, headers included, when no coding that
  suits it can pack it; else it is packed in one that does.
-/
theorem apply_spares_or_packs
    (codec : Codec)
    (encoding : Encoding)
    (headers : HeaderList)
    (body : ByteArray)
    (accept : Option String) :
    (codec.apply encoding headers body accept =
          ⟨none, headers, body⟩ ∧
        ∀ coding,
          codec.Suits encoding headers body accept coding →
            codec.compressor.encode coding body = none) ∨
      ∃ coding,
        codec.Suits encoding headers body accept coding ∧
          codec.Packs headers body coding
            (codec.apply encoding headers body accept) := by
  rcases codec.apply_cases encoding headers body accept with
    hSpared | ⟨coding, packed, hSuits, hPacked, hApplied⟩
  · exact Or.inl hSpared
  · have hLower :
        "Content-Encoding".toLower = "content-encoding" := by
      decide +kernel
    have hEntries :
        (headers.set "Content-Encoding" coding.token).entries =
          headers.entries ++
            [⟨"content-encoding", [coding.token]⟩] := by
      rw [headers.entries_set_of_getAll_eq_nil hSuits.unnamed,
        hLower]
    have hNamed :
        (headers.set "Content-Encoding" coding.token).has
          "Content-Encoding" = true := by
      rw [HeaderList.has_iff_mem_names, hEntries, hLower]
      simp
    rw [hApplied]
    exact Or.inr ⟨coding, hSuits,
      { coding_eq := rfl
        entries_eq := hEntries
        decodes :=
          codec.compressor.decode_encode coding body packed
            hPacked
        spares_again := by
          intro codec' encoding' accept'
          unfold apply
          rw [hNamed, Bool.true_or]
          rfl }⟩

end Codec

end Courier
