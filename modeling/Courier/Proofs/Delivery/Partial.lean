import Courier.Compression.Standard
import Courier.Proofs.Delivery.Integrity

/-
  Partial content agrees with full content. Two requests that
  differ in their range alone are answered from the same bytes
  under the same coding, so that a part is cut from just the
  body that is sent without a range.

  Key definitions include:
    * `RequestHead.AgreeButRange`
    * `RequestHead.asking`
    * `Assembly.Offers`
    * `Delivery.CutsFrom`

  Main statements:
    * `Ranged.verdict_of_resolve`
    * `Assembly.Offers.shows_whole`
    * `Assembly.Offers.streams`
    * `Delivery.deliver_part_of_whole`
-/

namespace Courier

open Exchange Trace MemorySource

------------------------------------------------------------
-- Requests that differ in their range
------------------------------------------------------------

namespace RequestHead

/- One method, and the same values but for the range. -/
structure AgreeButRange
    (q q' : RequestHead) : Prop where
  method_eq : q'.method = q.method
  header_eq :
    ∀ name, name.toLower ≠ "Range".toLower →
      q'.header? name = q.header? name

/- The request with a value for the range added. -/
def asking
    (q : RequestHead)
    (value : ByteArray) : RequestHead :=
  { q with headers := q.headers ++ [("range", value)] }

theorem values_asking
    (q : RequestHead)
    (value : ByteArray)
    (name : String) :
    (q.asking value).values name =
      q.values name ++
        if "range" = name.toLower then [value] else [] := by
  unfold values asking
  rw [List.filter_append, List.map_append]
  by_cases hName : "range" = name.toLower
  · simp [hName]
  · simp [hName]

theorem agreeButRange_asking
    (q : RequestHead)
    (value : ByteArray) :
    AgreeButRange q (q.asking value) where
  method_eq := rfl
  header_eq name hName := by
    have hRange : "Range".toLower = "range" := by
      decide +kernel
    rw [hRange] at hName
    unfold header?
    rw [values_asking, if_neg (Ne.symm hName),
      List.append_nil]

/- The value is the one that is read. -/
theorem header?_asking
    {q : RequestHead}
    (hPlain : q.has "Range" = false)
    (value : ByteArray) :
    (q.asking value).header? "Range" = visible? value := by
  have hRange : "range" = "Range".toLower := by
    decide +kernel
  have hNone : q.values "Range" = [] := by
    simpa [has] using hPlain
  unfold header?
  rw [values_asking, if_pos hRange, hNone]
  rfl

end RequestHead

namespace Delivery

open Assembly RequestHead

variable {σ : Type} {q q' : RequestHead}

/- Which range is asked for plays no part in the settings. -/
theorem settled_of_agreeButRange
    (hAgree : AgreeButRange q q')
    (d : Delivery)
    (r : Response σ) :
    d.settled r q' = d.settled r q ∧
      d.answersFresh r q' = d.answersFresh r q := by
  have hTag :
      q'.header? "If-None-Match" = q.header? "If-None-Match" :=
    hAgree.header_eq _ (by decide +kernel)
  have hGet : q'.isGet = q.isGet := by
    rw [isGet, isGet, hAgree.method_eq]
  have hPolicy : d.policy? r q' = d.policy? r q := by
    rw [policy?, policy?, hGet]
  have hSame :
      ∀ policy (s : Response σ),
        isFresh policy s q' = isFresh policy s q := by
    intro policy s
    rw [isFresh, isFresh, hTag]
  unfold settled answersFresh
  rw [hPolicy]
  cases d.policy? r q with
  | none => exact ⟨rfl, rfl⟩
  | some policy =>
      simp only [Option.any_some]
      rw [hSame]
      exact ⟨rfl, rfl⟩

/- Nor does it in the choice of a coding. -/
theorem encoded_of_agreeButRange
    (hAgree : AgreeButRange q q')
    (codec : Codec)
    (r : Response σ) :
    encoded codec r q' = encoded codec r q ∧
      carryEdits codec r q' = carryEdits codec r q := by
  have hAccept :
      q'.header? "Accept-Encoding" =
        q.header? "Accept-Encoding" :=
    hAgree.header_eq _ (by decide +kernel)
  have hEncoded : encoded codec r q' = encoded codec r q := by
    simp only [encoded, encodeBody, hAccept]
  constructor
  · exact hEncoded
  · rw [carryEdits, carryEdits, hEncoded]

end Delivery

------------------------------------------------------------
-- Ranges that come to something
------------------------------------------------------------

/- A range that comes to something is the part that is sent. -/
theorem Ranged.verdict_of_resolve
    {length chunkSize start stop : Nat}
    {rangeHeader : Option String}
    {range : ByteRange}
    (hHeader :
      ByteRange.ofHeader rangeHeader = .ok (some range))
    (hChunk : 0 < chunkSize)
    (hResolve : range.resolve length = some (start, stop)) :
    verdict length chunkSize rangeHeader =
      .part start stop true := by
  rcases (range.resolve_eq_some_iff _ _ _).mp hResolve with
    ⟨hLength, hStart, hStop, hLe⟩
  have hLast := range.lastOf_lt hLength
  have hWithin : ¬ length ≤ range.start.getD 0 := by omega
  have hOrder :
      ¬ range.lastOf length < range.start.getD 0 := by omega
  rw [verdict_of_range hHeader,
    if_neg (Nat.pos_iff_ne_zero.mp hChunk),
    if_neg (Nat.pos_iff_ne_zero.mp hLength),
    if_neg hWithin, if_neg hOrder, hStart, hStop]

/- A header that a range is read from is not empty. -/
theorem ByteRange.isEmpty_of_ofHeader
    {header : Option String}
    {range : ByteRange}
    (hHeader : ofHeader header = .ok (some range)) :
    header.any (!·.isEmpty) = true := by
  cases header with
  | none => cases hHeader
  | some text =>
      by_cases hText : text = ""
      · rw [hText] at hHeader
        have hEmpty : Text.afterStart? "bytes=" "" = none := by
          decide +kernel
        simp [ofHeader, hEmpty] at hHeader
      · simpa using hText

namespace Assembly

------------------------------------------------------------
-- Responses that ranges are offered of
------------------------------------------------------------

/-
  A successful response whose bytes may be asked for in part: a
  body that allows streaming, or a buffer that is streamed.
-/
structure Offers
    (data : ByteArray)
    (r : Response MemorySource) : Prop where
  nonempty : data.isEmpty = false
  success : r.status < 300
  held :
    (r.payload = .body data ∧ r.allowStreaming = true) ∨
      r.payload = .source (ofBytes data)

namespace Offers

variable {data : ByteArray} {r : Response MemorySource}

/- Settling a response leaves its bytes alone. -/
theorem settled
    (hOffers : Offers data r)
    {d : Delivery}
    {q : RequestHead}
    (hFresh : d.answersFresh r q = false) :
    Offers data (d.settled r q) := by
  rw [d.settled_eq r q hFresh]
  exact ⟨hOffers.nonempty, hOffers.success, hOffers.held⟩

/- An encoded response offers the bytes that it is sent in. -/
theorem encoded
    (hOffers : Offers data r)
    (codec : Codec)
    (q : RequestHead) :
    ∃ packed, Offers packed (encoded codec r q) := by
  have hStatus : (Assembly.encoded codec r q).status < 300 := by
    rw [status_encoded]
    exact hOffers.success
  have hAllow :
      (Assembly.encoded codec r q).allowStreaming =
        r.allowStreaming := by
    rw [encoded_eq]
  rcases hOffers.held with ⟨hBody, hStreaming⟩ | hSource
  · have hPacked := (encoded_of_body codec r q hBody).1
    rw [← hAllow] at hStreaming
    exact ⟨_,
      codec.body_apply_nonempty _ _ _ _ hOffers.nonempty,
      hStatus, Or.inl ⟨hPacked, hStreaming⟩⟩
  · have hKept :
        (Assembly.encoded codec r q).payload = r.payload :=
      payload_encoded codec r q (by simp [hSource])
    rw [← hKept] at hSource
    exact ⟨data, hOffers.nonempty, hStatus, Or.inr hSource⟩

variable {q : RequestHead} {w : WireHeaders}
variable {es : List Event} {result : Result}

/- Without a range the bytes go out whole. -/
theorem shows_whole
    {τ : Type} [Connection τ] [Connection.NeverFails τ]
    (hOffers : Offers data r)
    (hPays : Pays r q w es result)
    (hAnswered : Answered τ es)
    (hChunk : 0 < (streamSettings r).chunkSize)
    (hRange :
      ByteRange.ofHeader (q.header? "Range") = .ok none) :
    ShowsWhole data r w (signals es) := by
  rcases hOffers.held with ⟨hBody, _⟩ | hSource
  · exact hPays.shows_body hAnswered hBody hOffers.nonempty
      hChunk hRange
  · have hStreams := hPays.streams_of_source hSource
    exact hStreams.shows_whole hAnswered hOffers.nonempty
      hChunk hRange

/- With a range the engine is handed them. -/
theorem streams
    (hOffers : Offers data r)
    (hPays : Pays r q w es result)
    {range : ByteRange}
    (hRange :
      ByteRange.ofHeader (q.header? "Range") =
        .ok (some range)) :
    Streams data r q w es := by
  rcases hOffers.held with ⟨hBody, hStreaming⟩ | hSource
  · have hAsked := ByteRange.isEmpty_of_ofHeader hRange
    have hPromoted : isPromoted r q data = true := by
      simp [isPromoted, hStreaming, hOffers.success, hAsked]
    rcases hPays.cases_body hBody hOffers.nonempty with
      ⟨_, hStreams⟩ | ⟨hKept, _⟩
    · exact hStreams
    · rw [hPromoted] at hKept
      cases hKept
  · exact hPays.streams_of_source hSource

end Offers

end Assembly

------------------------------------------------------------
-- Two deliveries
------------------------------------------------------------

namespace Delivery

open Assembly

variable {τ τ' : Type}
variable [Connection τ] [Connection.NeverFails τ]
variable [Connection τ'] [Connection.NeverFails τ']

section Stale

variable {data : ByteArray} {r : Response MemorySource}
variable {d : Delivery} {q : RequestHead}

/- Without a range the bytes of a response are seen whole. -/
theorem deliver_shows_whole
    (hHandler : r.handler = none)
    (hDated : Dated r.cookies)
    (hFresh : d.answersFresh r q = false)
    (hChunk : 0 < (streamSettings (d.fillSettings r)).chunkSize)
    (hOffers :
      Offers data (encoded d.codec (d.settled r q) q))
    (hRange :
      ByteRange.ofHeader (q.header? "Range") = .ok none)
    (c : τ) :
    ShowsWhole data (encoded d.codec (d.settled r q) q)
      (applyEdits .empty
        (carryEdits d.codec (d.settled r q) q))
      (signals
        (since (.start c)
          (perform (d.deliver r q) (.start c)).2)) := by
  rcases exists_pays_of_dated hHandler hDated d q c with
    ⟨result, es, _, _, hSignals, hAnswered, hPays⟩
  rw [← streamSettings_sent hFresh] at hChunk
  rw [hSignals]
  exact hOffers.shows_whole hPays hAnswered hChunk hRange

/- With a range that comes to something its part is seen. -/
theorem deliver_shows_part
    (hHandler : r.handler = none)
    (hDated : Dated r.cookies)
    (hFresh : d.answersFresh r q = false)
    (hChunk : 0 < (streamSettings (d.fillSettings r)).chunkSize)
    (hOffers :
      Offers data (encoded d.codec (d.settled r q) q))
    {range : ByteRange}
    (hRange :
      ByteRange.ofHeader (q.header? "Range") = .ok (some range))
    {start stop : Nat}
    (hResolve : range.resolve data.size = some (start, stop))
    (c : τ) :
    ∃ edits headers,
      EditsOnly Ranged.partNames edits ∧
        headers =
          applyEdits
            (applyEdits .empty
              (carryEdits d.codec (d.settled r q) q))
            edits ∧
        headers.getAll "Content-Range" =
          [Ranged.contentRange start stop data.size] ∧
        Shows
          (signals
            (since (.start c)
              (perform (d.deliver r q) (.start c)).2))
          ⟨206, headers, data.extract start (stop + 1)⟩ := by
  rcases exists_pays_of_dated hHandler hDated d q c with
    ⟨result, es, _, _, hSignals, hAnswered, hPays⟩
  rw [← streamSettings_sent hFresh] at hChunk
  have hStreams := hOffers.streams hPays hRange
  have hVerdict :=
    Ranged.verdict_of_resolve hRange hChunk hResolve
  have hShows := hStreams.shows_part hAnswered hVerdict
  rw [← hSignals] at hShows
  refine ⟨_, _, Ranged.editsOnly_announceEdits _ _ _ _ _, rfl,
    ?_, hShows⟩
  rw [Ranged.announceEdits, applyEdits_append]
  exact Ranged.getAll_contentRange_partEdits _ _ _ _

end Stale

/-
  One client sees a message with this status, and when a range
  comes to anything in its body, another sees just that part of
  it: with status 206, under the same coding, and with the place
  of the part announced.
-/
def CutsFrom
    (range : ByteRange)
    (status : Nat)
    (whole part : List Signal) : Prop :=
  ∃ headers full,
    Shows whole ⟨status, headers, full⟩ ∧
      ∀ start stop,
        range.resolve full.size = some (start, stop) →
          ∃ headers',
            Shows part
                ⟨206, headers',
                  full.extract start (stop + 1)⟩ ∧
              headers'.getAll "Content-Encoding" =
                headers.getAll "Content-Encoding" ∧
              headers'.getAll "Content-Range" =
                [Ranged.contentRange start stop full.size]

/-
  A successful response whose bytes may be asked for in part is
  delivered for two requests, of which one asks for a range in
  addition. Unless the client has the response already, the part
  is cut from the body that is sent without the range. If it
  has, both requests are answered with a 304 without any bytes.
-/
theorem deliver_part_of_whole
    {data : ByteArray}
    {r : Response MemorySource}
    (hHandler : r.handler = none)
    (hOffers : Offers data r)
    (hDated : Dated r.cookies)
    {d : Delivery}
    (hChunk : 0 < (streamSettings (d.fillSettings r)).chunkSize)
    {q : RequestHead}
    (hPlain : q.has "Range" = false)
    {value : ByteArray}
    {range : ByteRange}
    (hValue :
      ByteRange.ofHeader (RequestHead.visible? value) =
        .ok (some range))
    (c : τ)
    (c' : τ') :
    let x := Exchange.start c
    let x' := Exchange.start c'
    let whole := perform (d.deliver r q) x
    let part := perform (d.deliver r (q.asking value)) x'
    let seen := signals (since x whole.2)
    let seen' := signals (since x' part.2)
    (d.answersFresh r q = true →
        whole.1 = .ok .notModified ∧
          part.1 = .ok .notModified ∧
          (∃ headers, Shows seen ⟨304, headers, .empty⟩) ∧
          ∃ headers, Shows seen' ⟨304, headers, .empty⟩) ∧
      (d.answersFresh r q = false →
        CutsFrom range r.status seen seen') := by
  intro x x' whole part seen seen'
  have hAgree := q.agreeButRange_asking value
  rcases settled_of_agreeButRange hAgree d r with
    ⟨hSettled, hAnswers⟩
  constructor
  · intro hFresh
    rcases deliver_shows_notModified hHandler hDated hFresh c
      with ⟨hResult, hShows⟩
    rw [← hAnswers] at hFresh
    rcases deliver_shows_notModified hHandler hDated hFresh c'
      with ⟨hResult', hShows'⟩
    exact ⟨hResult, hResult', hShows, hShows'⟩
  · intro hFresh
    rcases (hOffers.settled hFresh).encoded d.codec q with
      ⟨full, hFull⟩
    have hWhole :
        ByteRange.ofHeader (q.header? "Range") = .ok none := by
      have hNone : q.values "Range" = [] := by
        simpa [RequestHead.has] using hPlain
      rw [RequestHead.header?, hNone]
      rfl
    rcases deliver_shows_whole hHandler hDated hFresh hChunk
        hFull hWhole c with ⟨edits, hEdits, hShows⟩
    rw [status_encoded, (d.payload_settled r q hFresh).2]
      at hShows
    refine ⟨_, full, hShows, ?_⟩
    intro start stop hResolve
    -- the response is settled and encoded as it was before
    rcases encoded_of_agreeButRange hAgree d.codec
        (d.settled r q) with ⟨hEncoded, hCarried⟩
    rw [← hAnswers] at hFresh
    rw [← RequestHead.header?_asking hPlain value] at hValue
    rw [← hEncoded, ← hSettled] at hFull
    rcases deliver_shows_part hHandler hDated hFresh hChunk
        hFull hValue hResolve c' with
      ⟨edits', headers', hEdits', rfl, hPlace, hPart⟩
    refine ⟨_, hPart, ?_, hPlace⟩
    rw [hSettled, hCarried,
      hEdits'.getAll_applyEdits (by decide +kernel),
      hEdits.getAll_applyEdits (by decide +kernel)]

/- Three bytes of a text that is too short to be packed. -/
theorem deliver_part_of_text :
    let d : Delivery := { codec := .standard }
    let r : Response MemorySource :=
      { (Response.ofStatus 200).text "hello" "text/plain" with
        allowStreaming := true }
    let q : RequestHead :=
      .ofParts "GET" "/" [("Accept-Encoding", "br".toUTF8)]
    let x : Exchange OpenConnection := .start .fresh
    let whole := perform (d.deliver r q) x
    let part :=
      perform (d.deliver r (q.asking "bytes=1-3".toUTF8)) x
    d.answersFresh r q = false ∧
      (∃ headers,
        Shows (signals (since x whole.2))
          ⟨200, headers, "hello".toUTF8⟩) ∧
      ∃ headers,
        Shows (signals (since x part.2))
            ⟨206, headers, "ell".toUTF8⟩ ∧
          headers.getAll "Content-Range" = ["bytes 1-3/5"] := by
  intro d r q x whole part
  have hOffers : Offers "hello".toUTF8 r :=
    { nonempty := by decide
      success := by decide
      held := Or.inl ⟨rfl, rfl⟩ }
  have hDated : Dated r.cookies := by decide
  have hChunk :
      0 < (streamSettings (d.fillSettings r)).chunkSize := by
    decide
  have hPlain : q.has "Range" = false := by
    decide +kernel
  have hText :
      RequestHead.visible? "bytes=1-3".toUTF8 =
        some "bytes=1-3" := by
    decide +kernel
  have hValue :
      ByteRange.ofHeader
          (RequestHead.visible? "bytes=1-3".toUTF8) =
        .ok (some ⟨some 1, some 3⟩) := by
    rw [hText]
    rfl
  have hFresh : d.answersFresh r q = false := by
    decide +kernel
  rcases deliver_part_of_whole rfl hOffers hDated hChunk hPlain
      hValue OpenConnection.fresh OpenConnection.fresh with
    ⟨_, hCuts⟩
  rcases hCuts hFresh with ⟨headers, full, hWhole, hPart⟩
  -- the body that is seen whole is the text itself
  have hKept :
      (encoded d.codec (d.settled r q) q).payload =
        .body "hello".toUTF8 := by
    rcases d.payload_settled r q hFresh with ⟨hBody, _⟩
    rw [(encoded_of_body d.codec _ q hBody).1]
    exact congrArg _ (by decide +kernel)
  have hRange :
      ByteRange.ofHeader (q.header? "Range") = .ok none := by
    have hNone : q.header? "Range" = none := by
      decide +kernel
    rw [hNone]
    rfl
  have hFull : full = "hello".toUTF8 := by
    rcases deliver_shows_body rfl hDated hFresh hChunk hKept
        hOffers.nonempty hRange OpenConnection.fresh with
      ⟨edits, _, hShows⟩
    exact congrArg Message.body (hWhole.unique hShows)
  subst hFull
  rcases hPart 1 3 rfl with ⟨headers', hShows, _, hPlace⟩
  exact ⟨hFresh, ⟨headers, hWhole⟩, headers', hShows, hPlace⟩

end Delivery

end Courier
