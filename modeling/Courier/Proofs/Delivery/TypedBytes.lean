import Courier.Proofs.Delivery.Partial

/-
  Bytes of a content type, delivered to a client that accepts no
  coding and has nothing already. Whether they are buffered,
  promoted or streamed from the start, the client sees the same:
  all of them with their length, or the part that it asked for
  with its place, and in both cases the content type.

  Key definitions include:
    * `Message.IsWhole`
    * `Message.IsPart`
    * `Assembly.Typed`

  Main statements:
    * `Codec.apply_of_no_accept`
    * `Ranged.getAll_contentType_announceEdits`
    * `Delivery.deliver_shows_typed_whole`
    * `Delivery.deliver_shows_typed_part`
-/

namespace Courier

open Exchange Trace MemorySource

------------------------------------------------------------
-- Messages
------------------------------------------------------------

/- All of some bytes, with their type and their length. -/
structure Message.IsWhole
    (m : Message)
    (type : String)
    (data : ByteArray) : Prop where
  body_eq : m.body = data
  type_eq : m.headers.getAll "Content-Type" = [type]
  length_eq :
    data.isEmpty = false →
      m.headers.getAll "Content-Length" = [toString data.size]

/- A part of some bytes, with their type and its place. -/
structure Message.IsPart
    (m : Message)
    (type : String)
    (data : ByteArray)
    (start stop : Nat) : Prop where
  status_eq : m.status = 206
  body_eq : m.body = data.extract start (stop + 1)
  type_eq : m.headers.getAll "Content-Type" = [type]
  range_eq :
    m.headers.getAll "Content-Range" =
      [Ranged.contentRange start stop data.size]

-- The headers are a variable here, so that no proof has to look
-- into how they were made.
theorem Message.isWhole_mk
    {status : Nat}
    {headers : WireHeaders}
    {type : String}
    {data : ByteArray}
    (hType : headers.getAll "Content-Type" = [type])
    (hLength :
      data.isEmpty = false →
        headers.getAll "Content-Length" =
          [toString data.size]) :
    Message.IsWhole ⟨status, headers, data⟩ type data :=
  ⟨rfl, hType, hLength⟩

theorem Message.isPart_mk
    {headers : WireHeaders}
    {type : String}
    {data : ByteArray}
    {start stop : Nat}
    (hType : headers.getAll "Content-Type" = [type])
    (hRange :
      headers.getAll "Content-Range" =
        [Ranged.contentRange start stop data.size]) :
    Message.IsPart
      ⟨206, headers, data.extract start (stop + 1)⟩ type data
      start stop :=
  ⟨rfl, rfl, hType, hRange⟩

------------------------------------------------------------
-- Nothing accepted and nothing known
------------------------------------------------------------

/- A client that accepts no coding gets the body as it is. -/
theorem Codec.apply_of_no_accept
    (codec : Codec)
    (encoding : Encoding)
    (headers : HeaderList)
    (body : ByteArray) :
    codec.apply encoding headers body none =
      ⟨none, headers, body⟩ := by
  rcases codec.apply_cases encoding headers body none with
    ⟨hSame, _⟩ | ⟨coding, _, hSuits, _⟩
  · exact hSame
  · -- no coding is named by the empty text
    have hToken := hSuits.picks.1.occurs.length_le
    cases coding <;> exact absurd hToken (by decide)

/- A client that has nothing is not told to use it. -/
theorem Delivery.answersFresh_of_no_tag
    {σ : Type}
    {q : RequestHead}
    (hNone : q.header? "If-None-Match" = none)
    (d : Delivery)
    (r : Response σ) :
    d.answersFresh r q = false := by
  have hFresh :
      ∀ policy (s : Response σ),
        isFresh policy s q = false := by
    intro policy s
    simp [isFresh, Tag.isNotModified, hNone]
  unfold answersFresh
  cases d.policy? r q <;> simp [hFresh]

/- What is not there is not read. -/
theorem RequestHead.header?_of_has_eq_false
    {q : RequestHead}
    {name : String}
    (hNone : q.has name = false) :
    q.header? name = none := by
  have hValues : q.values name = [] := by
    simpa [has] using hNone
  rw [header?, hValues]
  rfl

------------------------------------------------------------
-- Announced parts
------------------------------------------------------------

namespace Ranged

/- The type that a part is announced with. -/
theorem getAll_contentType_announceEdits
    {type : String}
    (hText : Header.isFieldText type)
    (settings : StreamSettings)
    (start stop length : Nat)
    (w : WireHeaders) :
    (applyEdits w
        (announceEdits (some type) settings start stop
          length)).getAll "Content-Type" =
      [type] := by
  have hToken : Header.isToken "Content-Type" = true := by
    decide +kernel
  have hOther :
      "Content-Type".toLower ∉
        ["Content-Length", "Content-Range"].map
          String.toLower := by
    decide +kernel
  rw [announceEdits, applyEdits_append,
    (editsOnly_partEdits start stop
      length).getAll_applyEdits hOther]
  simp [streamEdits, applyEdit, WireHeaders.getAll_set,
    Header.isSendable, hToken, hText]

end Ranged

------------------------------------------------------------
-- Typed bytes
------------------------------------------------------------

namespace Assembly

/-
  A response with bytes of a content type, in a buffer or as a
  source. An empty source is not among them.
-/
structure Typed
    (type : String)
    (data : ByteArray)
    (r : Response MemorySource) : Prop where
  held :
    r.payload = .body data ∨
      (r.payload = .source (ofBytes data) ∧
        data.isEmpty = false)
  type_eq : r.headers.getAll "Content-Type" = [type]
  type_text : Header.isFieldText type

/- A buffer without bytes is a head alone. -/
theorem Pays.shows_of_isEmpty
    {τ : Type} [Connection τ] [Connection.NeverFails τ]
    {σ : Type} [ByteSource σ]
    {r : Response σ} {q : RequestHead}
    {w : WireHeaders} {es : List Event} {result : Result}
    {data : ByteArray}
    (hPays : Pays r q w es result)
    (hAnswered : Answered τ es)
    (hPayload : r.payload = .body data)
    (hData : data.isEmpty = true) :
    Shows (signals es) ⟨r.status, w, data⟩ := by
  have hNever :
      ∀ {bytes : ByteArray},
        r.payload = .body bytes → bytes.isEmpty = true := by
    intro bytes hBytes
    rw [hPayload] at hBytes
    cases hBytes
    exact hData
  cases hPays with
  | bare _ hCalls =>
      rw [eq_empty_of_isEmpty hData]
      exact shows_of_fullCalls hCalls hAnswered
  | buffered hOther hBytes =>
      rw [hNever hOther] at hBytes
      cases hBytes
  | promoted hOther hBytes =>
      rw [hNever hOther] at hBytes
      cases hBytes
  | sourced hOther =>
      rw [hPayload] at hOther
      cases hOther
  | pushed hOther =>
      rw [hPayload] at hOther
      cases hOther

namespace Typed

variable {type : String} {data : ByteArray}
variable {r : Response MemorySource} {q : RequestHead}

/- The type is the one that the engine is handed. -/
theorem get?_eq
    (hTyped : Typed type data r) :
    r.headers.get? "Content-Type" = some type := by
  rw [HeaderList.get?, hTyped.type_eq]
  rfl

/- Settling the response leaves the bytes and their type. -/
theorem settled
    (hTyped : Typed type data r)
    {d : Delivery}
    (hFresh : d.answersFresh r q = false) :
    Typed type data (d.settled r q) where
  held := by
    rw [(d.payload_settled r q hFresh).1]
    exact hTyped.held
  type_eq := by
    rw [Delivery.getAll_settled d r q (by decide +kernel)]
    exact hTyped.type_eq
  type_text := hTyped.type_text

/- So does encoding it for a client that accepts no coding. -/
theorem encoded
    (hTyped : Typed type data r)
    (hAccept : q.header? "Accept-Encoding" = none)
    (codec : Codec) :
    Typed type data (encoded codec r q) where
  held := by
    rcases hTyped.held with hBody | ⟨hSource, hData⟩
    · have hPacked := (encoded_of_body codec r q hBody).1
      rw [hAccept, codec.apply_of_no_accept] at hPacked
      exact Or.inl hPacked
    · have hKept :=
        payload_encoded codec r q (by simp [hSource])
      exact Or.inr ⟨hKept.trans hSource, hData⟩
  type_eq := by
    rw [getAll_encoded codec r q (by decide +kernel)]
    exact hTyped.type_eq
  type_text := hTyped.type_text

variable {w : WireHeaders} {es : List Event} {result : Result}
variable {τ : Type} [Connection τ] [Connection.NeverFails τ]

/- The headers of a part of the bytes. -/
def partHeaders
    (data : ByteArray)
    (r : Response MemorySource)
    (start stop : Nat)
    (w : WireHeaders) : WireHeaders :=
  applyEdits w
    (Ranged.announceEdits (r.headers.get? "Content-Type")
      (streamSettings r) start stop data.size)

theorem getAll_contentType_partHeaders
    (hTyped : Typed type data r)
    (start stop : Nat)
    (w : WireHeaders) :
    (partHeaders data r start stop w).getAll "Content-Type" =
      [type] := by
  rw [partHeaders, hTyped.get?_eq]
  exact Ranged.getAll_contentType_announceEdits
    hTyped.type_text _ _ _ _ w

theorem getAll_contentLength_partHeaders
    (data : ByteArray)
    (r : Response MemorySource)
    (start stop : Nat)
    (w : WireHeaders) :
    (partHeaders data r start stop w).getAll "Content-Length" =
      [toString (stop - start + 1)] := by
  rw [partHeaders, Ranged.announceEdits, applyEdits_append]
  exact Ranged.getAll_contentLength_partEdits start stop _ _

theorem getAll_contentRange_partHeaders
    (data : ByteArray)
    (r : Response MemorySource)
    (start stop : Nat)
    (w : WireHeaders) :
    (partHeaders data r start stop w).getAll "Content-Range" =
      [Ranged.contentRange start stop data.size] := by
  rw [partHeaders, Ranged.announceEdits, applyEdits_append]
  exact Ranged.getAll_contentRange_partEdits start stop _ _

/- Bytes that the engine is handed go out whole. -/
theorem shows_whole_of_streams
    (hTyped : Typed type data r)
    (hStreams : Streams data r q w es)
    (hAnswered : Answered τ es)
    (hData : data.isEmpty = false)
    (hChunk : 0 < (streamSettings r).chunkSize)
    (hRange :
      ByteRange.ofHeader (q.header? "Range") = .ok none) :
    ∃ m,
      Shows (signals es) m ∧ m.status = r.status ∧
        m.IsWhole type data := by
  have hSize : data.size ≠ 0 := by
    simpa [ByteArray.isEmpty] using hData
  have hVerdict :
      Ranged.verdict data.size (streamSettings r).chunkSize
          (q.header? "Range") =
        .part 0 (data.size - 1) false := by
    rw [Ranged.verdict_of_whole hRange,
      if_neg (Nat.pos_iff_ne_zero.mp hChunk), if_neg hSize]
  have hLast : data.size - 1 + 1 = data.size :=
    Nat.sub_add_cancel (Nat.pos_of_ne_zero hSize)
  have hShows := hStreams.shows_part hAnswered hVerdict
  rw [hLast, ByteArray.extract_zero_size] at hShows
  have hLength :=
    getAll_contentLength_partHeaders data r 0 (data.size - 1) w
  rw [Nat.sub_zero, hLast] at hLength
  exact ⟨_, hShows, rfl,
    Message.isWhole_mk
      (hTyped.getAll_contentType_partHeaders _ _ w)
      fun _ => hLength⟩

/- Bytes that the engine is handed go out in part. -/
theorem shows_part_of_streams
    (hTyped : Typed type data r)
    (hStreams : Streams data r q w es)
    (hAnswered : Answered τ es)
    (hChunk : 0 < (streamSettings r).chunkSize)
    {range : ByteRange}
    (hRange :
      ByteRange.ofHeader (q.header? "Range") = .ok (some range))
    {start stop : Nat}
    (hResolve : range.resolve data.size = some (start, stop)) :
    ∃ m,
      Shows (signals es) m ∧ m.IsPart type data start stop := by
  have hVerdict :=
    Ranged.verdict_of_resolve hRange hChunk hResolve
  have hShows := hStreams.shows_part hAnswered hVerdict
  exact ⟨_, hShows,
    Message.isPart_mk
      (hTyped.getAll_contentType_partHeaders _ _ w)
      (getAll_contentRange_partHeaders data r start stop w)⟩

/- Without a range the bytes are seen whole, however held. -/
theorem shows_whole
    (hTyped : Typed type data r)
    (hPays : Pays r q w es result)
    (hAnswered : Answered τ es)
    (hCarried : w.getAll "Content-Type" = [type])
    (hChunk : 0 < (streamSettings r).chunkSize)
    (hRange :
      ByteRange.ofHeader (q.header? "Range") = .ok none) :
    ∃ m,
      Shows (signals es) m ∧ m.status = r.status ∧
        m.IsWhole type data := by
  rcases hTyped.held with hBody | ⟨hSource, hData⟩
  · cases hData : data.isEmpty with
    | true =>
        have hShows :=
          hPays.shows_of_isEmpty hAnswered hBody hData
        refine ⟨_, hShows, rfl,
          Message.isWhole_mk hCarried fun hSome => ?_⟩
        rw [hData] at hSome
        cases hSome
    | false =>
        rcases hPays.cases_body hBody hData with
          ⟨_, hStreams⟩ |
            ⟨_, length, answer, sent, rfl, rfl, hCalls⟩
        · exact hTyped.shows_whole_of_streams hStreams hAnswered
            hData hChunk hRange
        · rw [answered_cons] at hAnswered
          have hShows := shows_of_fullCalls hCalls hAnswered.2
          refine ⟨_, hShows, rfl,
            Message.isWhole_mk ?_ fun _ => ?_⟩
          · have hOther :
                "Content-Type".toLower ≠
                  "Content-Length".toLower := by
              decide +kernel
            simp [applyEdit, WireHeaders.getAll_set, hOther,
              hCarried]
          · exact Ranged.getAll_contentLength_append []
              (Header.isFieldText_repr _) w
  · have hStreams := hPays.streams_of_source hSource
    exact hTyped.shows_whole_of_streams hStreams hAnswered hData
      hChunk hRange

end Typed

/- Without a coding the same bytes may be asked for in part. -/
theorem Offers.encoded_of_no_accept
    {data : ByteArray}
    {r : Response MemorySource}
    {q : RequestHead}
    (hOffers : Offers data r)
    (hAccept : q.header? "Accept-Encoding" = none)
    (codec : Codec) :
    Offers data (Assembly.encoded codec r q) where
  nonempty := hOffers.nonempty
  success := by
    rw [status_encoded]
    exact hOffers.success
  held := by
    have hAllow :
        (Assembly.encoded codec r q).allowStreaming =
          r.allowStreaming := by
      rw [encoded_eq]
    rcases hOffers.held with ⟨hBody, hStreaming⟩ | hSource
    · have hPacked := (encoded_of_body codec r q hBody).1
      rw [hAccept, codec.apply_of_no_accept] at hPacked
      exact Or.inl ⟨hPacked, hAllow.trans hStreaming⟩
    · have hKept :=
        payload_encoded codec r q (by simp [hSource])
      exact Or.inr (hKept.trans hSource)

end Assembly

------------------------------------------------------------
-- Deliveries
------------------------------------------------------------

namespace Delivery

open Assembly

variable {τ : Type} [Connection τ] [Connection.NeverFails τ]
variable {type : String} {data : ByteArray}
variable {r : Response MemorySource} {d : Delivery}
variable {q : RequestHead}

/- The type is carried before the payload is sent. -/
theorem getAll_contentType_sent
    (hTyped : Typed type data r) :
    (applyEdits .empty
        (carryEdits d.codec (d.settled r q) q)).getAll
        "Content-Type" =
      [type] := by
  rw [getAll_sent (by decide +kernel) (by decide +kernel),
    getAll_settled d r q (by decide +kernel), hTyped.type_eq]
  simp [hTyped.type_text]

/- Without a range the client sees all of the bytes. -/
theorem deliver_shows_typed_whole
    (hTyped : Typed type data r)
    (hHandler : r.handler = none)
    (hDated : Dated r.cookies)
    (hAccept : q.header? "Accept-Encoding" = none)
    (hTag : q.header? "If-None-Match" = none)
    (hChunk : 0 < (streamSettings (d.fillSettings r)).chunkSize)
    (hRange :
      ByteRange.ofHeader (q.header? "Range") = .ok none)
    (c : τ) :
    ∃ m,
      Shows
          (signals
            (since (.start c)
              (perform (d.deliver r q) (.start c)).2)) m ∧
        m.status = r.status ∧ m.IsWhole type data := by
  have hFresh := d.answersFresh_of_no_tag hTag r
  rcases exists_pays_of_dated hHandler hDated d q c with
    ⟨result, es, _, _, hSignals, hAnswered, hPays⟩
  have hSent := (hTyped.settled hFresh).encoded hAccept d.codec
  rw [← streamSettings_sent hFresh] at hChunk
  rcases hSent.shows_whole hPays hAnswered
      (getAll_contentType_sent hTyped) hChunk hRange with
    ⟨m, hShows, hStatus, hWhole⟩
  rw [status_encoded, (d.payload_settled r q hFresh).2]
    at hStatus
  rw [hSignals]
  exact ⟨m, hShows, hStatus, hWhole⟩

/- With a range that comes to something it sees its part. -/
theorem deliver_shows_typed_part
    (hTyped : Typed type data r)
    (hOffers : Offers data r)
    (hHandler : r.handler = none)
    (hDated : Dated r.cookies)
    (hAccept : q.header? "Accept-Encoding" = none)
    (hTag : q.header? "If-None-Match" = none)
    (hChunk : 0 < (streamSettings (d.fillSettings r)).chunkSize)
    {range : ByteRange}
    (hRange :
      ByteRange.ofHeader (q.header? "Range") = .ok (some range))
    {start stop : Nat}
    (hResolve : range.resolve data.size = some (start, stop))
    (c : τ) :
    ∃ m,
      Shows
          (signals
            (since (.start c)
              (perform (d.deliver r q) (.start c)).2)) m ∧
        m.IsPart type data start stop := by
  have hFresh := d.answersFresh_of_no_tag hTag r
  rcases exists_pays_of_dated hHandler hDated d q c with
    ⟨result, es, _, _, hSignals, hAnswered, hPays⟩
  have hSent := (hTyped.settled hFresh).encoded hAccept d.codec
  have hStreams :=
    ((hOffers.settled hFresh).encoded_of_no_accept hAccept
      d.codec).streams hPays hRange
  rw [← streamSettings_sent hFresh] at hChunk
  rw [hSignals]
  exact hSent.shows_part_of_streams hStreams hAnswered hChunk
    hRange hResolve

end Delivery

end Courier
