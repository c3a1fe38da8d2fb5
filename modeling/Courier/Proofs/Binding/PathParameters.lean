import Courier.Binding.Request
import Courier.Proofs.Text.Percent

/-
  The parameters of a path in front of a query. Whatever their
  names and values hold, each of them is one piece of the text
  that is bound, and the pieces of the query follow as they were
  sent. Both ways to read such a text, as a query and as a form,
  go piece by piece, so they find the parameters first.

  Key definitions include:
    * `Formats.WritesForms`
    * `Query.PieceByPiece`
    * `Query.pieces`
    * `Query.readPiece?`

  Main statements:
    * `Query.PieceByPiece.intercalate_eq`
    * `Query.PieceByPiece.parameterText_eq`
    * `Query.readPiece?_of_writesPair`
    * `Form.pairs_of_writesPair`
    * `Request.bindParams_params_first`
-/

namespace Courier

/- Any names and values are written, and as a form. -/
def Formats.WritesForms
    (f : Formats) : Prop :=
  ∀ pairs, ∃ written,
    f.writeForm? pairs = some written ∧
      Percent.WritesPairs pairs written

theorem Formats.writesForms_standard :
    Formats.standard.WritesForms :=
  fun pairs => ⟨_, rfl, Percent.writesPairs_encodePairs pairs⟩

namespace Query

open Percent

------------------------------------------------------------
-- Piece by piece
------------------------------------------------------------

/-
  What is read from a text is read from its pieces, in order;
  nothing is read from the text without characters.
-/
structure PieceByPiece
    {α : Type}
    (read : List Char → List α) : Prop where
  nil : read [] = []
  parted :
    ∀ {before after : List Char},
      before ≠ [] → after ≠ [] →
        read (before ++ '&' :: after) =
          read before ++ read after

namespace PieceByPiece

variable {α : Type} {read : List Char → List α}

/- Pieces are read one by one. -/
theorem intercalate_eq
    (hRead : PieceByPiece read)
    {pieces : List (List Char)}
    (hPieces : [] ∉ pieces) :
    read (['&'].intercalate pieces) = pieces.flatMap read := by
  induction pieces with
  | nil => exact hRead.nil
  | cons piece rest ih =>
      rw [List.mem_cons, not_or] at hPieces
      rcases hPieces with ⟨hFirst, hRest⟩
      cases rest with
      | nil =>
          rw [List.intercalate_singleton, List.flatMap_singleton]
      | cons next rest =>
          have hParted :
              ['&'].intercalate (piece :: next :: rest) =
                piece ++ '&' :: ['&'].intercalate (next :: rest) :=
            rfl
          have hMore : ['&'].intercalate (next :: rest) ≠ [] := by
            have hNext : next ≠ [] := by
              rintro rfl
              exact hRest List.mem_cons_self
            cases rest <;> simp [List.intercalate, hNext]
          rw [hParted, hRead.parted (Ne.symm hFirst) hMore,
            ih hRest]
          rfl

/- Both parts are read, also when one of them is empty. -/
theorem parameterText_eq
    (hRead : PieceByPiece read)
    (own : List Char)
    (query : Option String) :
    read (Request.parameterText own query) =
      read own ++ read (query.getD "").toList := by
  unfold Request.parameterText
  by_cases hSent : (query.getD "").toList = []
  · simp only [hSent, List.isEmpty_nil, if_true, hRead.nil,
      List.append_nil]
  by_cases hOwn : own = []
  · simp only [List.isEmpty_iff, hSent, hOwn, hRead.nil,
      List.nil_append, if_true, if_false]
  · simp only [List.isEmpty_iff, hSent, hOwn, if_false]
    exact hRead.parted hOwn hSent

end PieceByPiece

------------------------------------------------------------
-- Pieces of a query
------------------------------------------------------------

/- The pieces of a query; a text without characters has none. -/
def pieces
    (text : List Char) : List (List Char) :=
  if text.isEmpty then [] else text.splitOn '&'

theorem pieces_of_ne_nil
    {text : List Char}
    (hText : text ≠ []) :
    pieces text = text.splitOn '&' := by
  rw [pieces, if_neg (by simpa using hText)]

theorem pieceByPiece_pieces : PieceByPiece pieces where
  nil := rfl
  parted hBefore hAfter := by
    rw [pieces_of_ne_nil (by simp), pieces_of_ne_nil hBefore,
      pieces_of_ne_nil hAfter, List.splitOn_append_cons_self]

/-
  The name and the value of a piece: the texts before and after
  its first equals sign. They are none when they are no text.
-/
def readPiece?
    (piece : List Char) : Option (String × String) :=
  let (name, value) := Text.cutFirst '=' piece
  match QueryStep.decode? (Utf8.encode name),
    QueryStep.decode? (Utf8.encode (value.getD [])) with
  | some name, some value => some (name, value)
  | _, _ => none

section Written

variable {pair : String × String} {piece : List Char}
variable {pairs : List (String × String)}
variable {written : List (List Char)}

theorem ne_nil_of_writesPair
    (hWrites : WritesPair pair piece) :
    piece ≠ [] := by
  rcases hWrites with ⟨name, value, _, _, rfl⟩
  simp

/- No written pair is without characters. -/
theorem nil_not_mem_of_writes
    (hWrites : List.Forall₂ WritesPair pairs written) :
    [] ∉ written := by
  intro hMem
  induction hWrites with
  | nil => cases hMem
  | cons hPair _ ih =>
      rcases List.mem_cons.mp hMem with hNil | hRest
      · exact ne_nil_of_writesPair hPair hNil.symm
      · exact ih hRest

theorem amp_not_mem_of_writesPair
    (hWrites : WritesPair pair piece) :
    '&' ∉ piece := by
  rcases hWrites with ⟨name, value, hName, hValue, rfl⟩
  have hBefore : '&' ∉ name := hName.not_mem rfl
  have hAfter : '&' ∉ value := hValue.not_mem rfl
  simp [hBefore, hAfter]

/- A pair is written as one piece. -/
theorem pieces_of_writesPair
    (hWrites : WritesPair pair piece) :
    pieces piece = [piece] := by
  rw [pieces_of_ne_nil (ne_nil_of_writesPair hWrites),
    List.splitOn_eq_singleton (amp_not_mem_of_writesPair hWrites)]

/- What is written of a text is read back as this text. -/
theorem decode?_of_writesText
    {s : String}
    (hWrites : WritesText s piece) :
    QueryStep.decode? (Utf8.encode piece) = some s := by
  rw [QueryStep.decode?, encode_eq_asciiBytes hWrites.ascii,
    hWrites.decodeBytes_eq]
  exact Utf8.decode?_encode s

/- A written piece is read as the pair that it was made of. -/
theorem readPiece?_of_writesPair
    (hWrites : WritesPair pair piece) :
    readPiece? piece = some pair := by
  rcases hWrites with ⟨name, value, hName, hValue, rfl⟩
  have hEquals : '=' ∉ name := hName.not_mem rfl
  rw [readPiece?, Text.cutFirst_append_cons hEquals]
  simp only [Option.getD_some, decode?_of_writesText hName,
    decode?_of_writesText hValue]

/- Written pairs are as many pieces, each read as its pair. -/
theorem pieces_of_writes
    (hWrites : List.Forall₂ WritesPair pairs written) :
    pieces (['&'].intercalate written) = written ∧
      written.map readPiece? = pairs.map some := by
  have hPieces :=
    pieceByPiece_pieces.intercalate_eq
      (nil_not_mem_of_writes hWrites)
  rw [hPieces]
  clear hPieces
  induction hWrites with
  | nil => exact ⟨rfl, rfl⟩
  | cons hPair _ ih =>
      rw [List.flatMap_cons, pieces_of_writesPair hPair, ih.1,
        List.map_cons, List.map_cons, ih.2,
        readPiece?_of_writesPair hPair]
      exact ⟨rfl, rfl⟩

end Written

end Query

------------------------------------------------------------
-- Pairs of a form
------------------------------------------------------------

namespace Form

open Percent Query

theorem pieceByPiece_pairs :
    PieceByPiece fun text => pairs (Utf8.encode text) where
  nil := rfl
  parted {before after} _ _ := by
    have hBytes :
        Utf8.encode (before ++ '&' :: after) =
          Utf8.encode before ++ 38 :: Utf8.encode after := by
      rw [Utf8.encode_append, Utf8.encode_cons]
      rfl
    rw [hBytes]
    simp [pairs, Percent.readPairs, Percent.split,
      List.splitOn_append_cons_self]

/- A form has a written pair as this pair. -/
theorem pairs_of_writesPair
    {pair : String × String}
    {piece : List Char}
    (hWrites : WritesPair pair piece) :
    pairs (Utf8.encode piece) = [pair] := by
  have hAmp := amp_not_mem_of_writesPair hWrites
  rcases hWrites with ⟨name, value, hName, hValue, rfl⟩
  have hAscii : ∀ c ∈ name ++ '=' :: value, c.toNat < 128 := by
    intro c hc
    rcases List.mem_append.mp hc with hc | hc
    · exact hName.ascii c hc
    rcases List.mem_cons.mp hc with rfl | hc
    · decide
    · exact hValue.ascii c hc
  have hBytes :
      Utf8.encode (name ++ '=' :: value) =
        asciiBytes name ++ 61 :: asciiBytes value := by
    rw [encode_eq_asciiBytes hAscii]
    exact List.map_append
  have hOne : 38 ∉ Utf8.encode (name ++ '=' :: value) := by
    rw [encode_eq_asciiBytes hAscii]
    exact not_mem_asciiBytes hAscii (by decide) hAmp
  have hSign : '=' ∉ name := hName.not_mem rfl
  have hEquals : 61 ∉ asciiBytes name :=
    not_mem_asciiBytes hName.ascii (by decide) hSign
  rw [pairs, Percent.readPairs, Percent.split,
    List.splitOn_eq_singleton hOne, hBytes]
  simp [Text.cutFirst_append_cons hEquals,
    hName.decodeBytes_eq, hValue.decodeBytes_eq,
    Utf8.decodeLossy_encode]

/- A form has written pairs as these pairs. -/
theorem pairs_of_writes
    {sent : List (String × String)}
    {written : List (List Char)}
    (hWrites : List.Forall₂ WritesPair sent written) :
    pairs (Utf8.encode (['&'].intercalate written)) = sent := by
  rw [pieceByPiece_pairs.intercalate_eq
    (nil_not_mem_of_writes hWrites)]
  induction hWrites with
  | nil => rfl
  | cons hPair _ ih =>
      rw [List.flatMap_cons, pairs_of_writesPair hPair, ih]
      rfl

end Form

------------------------------------------------------------
-- The bound text
------------------------------------------------------------

namespace Request

variable {δ : Type}

/- A value that looks like a query stays one value. -/
example :
    parameterText (Percent.encodePairs [("id", "7&role=admin")])
        (some "page=2") =
      "id=7%26role%3Dadmin&page=2".toList := by
  decide +kernel

/-
  The parameters of the path and the query are bound as one
  text. Its first pieces are read as just the parameters, by
  name and value and in order, and the others are the pieces of
  the query, unchanged. Read as a form, it has the parameters
  and then what the query alone has.
-/
theorem bindParams_params_first
    {f : Formats}
    (hForms : f.WritesForms)
    (q : Request δ) :
    ∃ written,
      f.writeForm? q.params.entries = some written ∧
        let text := parameterText written q.query?
        let sent := (q.query?.getD "").toList
        (∀ schema,
            q.bindParams f schema =
              bindQueryText f schema text) ∧
          (∃ own,
            Query.pieces text = own ++ Query.pieces sent ∧
              own.map Query.readPiece? =
                q.params.entries.map some) ∧
          Form.pairs (Utf8.encode text) =
            q.params.entries
              ++ Form.pairs (Utf8.encode sent) := by
  rcases hForms q.params.entries with
    ⟨_, hWritten, own, hOwn, rfl⟩
  refine ⟨_, hWritten, ?_, ⟨own, ?_, ?_⟩, ?_⟩
  · intro schema
    rw [bindParams, hWritten]
  · rw [Query.pieceByPiece_pieces.parameterText_eq,
      (Query.pieces_of_writes hOwn).1]
  · exact (Query.pieces_of_writes hOwn).2
  · rw [Form.pieceByPiece_pairs.parameterText_eq,
      Form.pairs_of_writes hOwn]

/- A parameter whose value looks like a query. -/
theorem bindParams_params_first_of_role :
    let q : Request Unit :=
      { head := .ofParts "GET" "/users/7?page=2" []
        params := ⟨[("id", "7&role=admin")]⟩ }
    Formats.standard.WritesForms ∧
      ∃ written,
        Formats.standard.writeForm? q.params.entries =
            some written ∧
          q.bindParams .standard .nothing =
            bindQueryText .standard .nothing
              (parameterText written q.query?) ∧
          Form.pairs
              (Utf8.encode (parameterText written q.query?)) =
            [("id", "7&role=admin"), ("page", "2")] := by
  intro q
  have hForms := Formats.writesForms_standard
  rcases bindParams_params_first hForms q with
    ⟨written, hWritten, hBound, _, hPairs⟩
  refine ⟨hForms, written, hWritten, hBound .nothing, ?_⟩
  rw [hPairs]
  decide +kernel

end Request

end Courier
