import Courier.Proofs.Delivery.Attended
import Courier.Proofs.Delivery.TypedBytes
import Courier.Proofs.Server.Passing
import Courier.Proofs.Source.Agreement
import Courier.Server.Basic
import Courier.Server.StaticFiles

/-
  Files as the client sees them. A file is read whole before it
  is sent, or it is streamed from the disk; its content type is
  told from all of its bytes, or from the first of them. None of
  this can be told from what arrives: the bytes with their type
  and their length, or the part that was asked for.

  Key definitions include:
    * `AnySource.fromDisk`
    * `StaticFiles.inMemory`
    * `Server.Exchanged.message`
    * `StaticFiles.Sent`

  Main statements:
    * `StaticFiles.contentType_eq`
    * `StaticFiles.isFieldText_contentType`
    * `StaticFiles.serveFile_eq`
    * `AnySource.interchangeable_fromDisk`
    * `StaticFiles.runRoute_file`
-/

namespace Courier

open Exchange Trace

------------------------------------------------------------
-- Content types
------------------------------------------------------------

namespace Media

/- The bytes that are looked at tell the type of all of them. -/
theorem sniff_extract
    (content : ByteArray) :
    sniff (content.extract 0 sniffLength) = sniff content := by
  have hHead :
      (content.extract 0 sniffLength).extract 0 sniffLength =
        content.extract 0 sniffLength := by
    rw [ByteArray.extract_extract]
    simp
  rw [sniff, sniff, hHead]

/- The type of an extension can be sent. -/
theorem isFieldText_ofPath?
    {path type : String}
    (hType : ofPath? path = some type) :
    Header.isFieldText type := by
  have hRows :
      ∀ row ∈ extensionTable, Header.isFieldText row.2 := by
    decide
  rcases Option.bind_eq_some_iff.mp hType with
    ⟨extension, _, hFound⟩
  rcases Option.map_eq_some_iff.mp hFound with
    ⟨row, hRow, rfl⟩
  exact hRows row (List.mem_of_find?_eq_some hRow)

/- So can the type that bytes are told to have. -/
theorem isFieldText_sniff
    (content : ByteArray) :
    Header.isFieldText (sniff content) := by
  have hRows :
      ∀ row ∈ signatures, Header.isFieldText row.2 := by
    decide
  unfold sniff sniffHead
  simp only
  split
  · decide
  split
  · decide
  split
  · next contentType hFound =>
      exact hRows _ (List.mem_of_find?_eq_some hFound)
  split
  · decide
  split
  · decide
  split
  · decide
  · decide

end Media

namespace StaticFiles

variable (s : StaticFiles) (path : String)
variable (content : ByteArray)

/- The type comes from the name, or else from all the bytes. -/
theorem contentType_eq :
    contentType path content =
      (Media.ofPath? path).getD (Media.sniff content) := by
  rw [contentType]
  exact congrArg _ (Media.sniff_extract content)

theorem isFieldText_contentType :
    Header.isFieldText (contentType path content) := by
  rw [contentType_eq]
  cases hType : Media.ofPath? path with
  | none => exact Media.isFieldText_sniff content
  | some type => exact Media.isFieldText_ofPath? hType

------------------------------------------------------------
-- Responses with files
------------------------------------------------------------

/-
  The response with a file, as if a streamed one was read from
  memory.
-/
def inMemory
    (date : String) : Response MemorySource where
  status := 200
  headers :=
    (HeaderList.empty.set "Content-Type"
      (contentType path content)).set "Last-Modified" date
  payload :=
    if s.isBuffered path content then .body content
    else .source (.ofBytes content)
  allowStreaming :=
    s.isBuffered path content && !s.disableStreaming

end StaticFiles

/- A file that holds what a buffer holds, just opened. -/
def AnySource.fromDisk
    (buffer : MemorySource) : AnySource :=
  .file (.ofContent buffer.data)

namespace StaticFiles

variable (s : StaticFiles) (path : String)
variable (content : ByteArray)

/- That response, read from the disk, is the one that is sent. -/
theorem serveFile_eq
    (modified : FileTime) :
    s.serveFile path content modified =
      .ok ((s.inMemory path content
          (modified.date)).mapSource
        AnySource.fromDisk) := by
  unfold serveFile sendFile inMemory
  rw [modified.httpDate?_instant]
  by_cases hBuffered : s.isBuffered path content
  · simp only [hBuffered, if_true, Bool.true_and]
    rw [contentType_eq]
    rfl
  · simp only [hBuffered, Bool.false_eq_true, if_false,
      Bool.false_and]
    rfl

/- It brings no cookies. -/
theorem dated_inMemory
    (date : String) :
    Dated (s.inMemory path content date).cookies := by
  simp [Dated, inMemory]

/- It holds the bytes of the file and their type. -/
theorem typed_inMemory
    (date : String) :
    Assembly.Typed (contentType path content) content
      (s.inMemory path content date) where
  held := by
    by_cases hBuffered : s.isBuffered path content
    · exact Or.inl (if_pos hBuffered)
    · refine Or.inr ⟨if_neg hBuffered, ?_⟩
      -- a file that is streamed is not small
      have hSize : streamMinSize ≤ content.size := by
        refine Nat.le_of_not_lt fun hSmall => hBuffered ?_
        simp [isBuffered, hSmall]
      have hSome : content.size ≠ 0 :=
        Nat.ne_of_gt (Nat.lt_of_lt_of_le (by decide) hSize)
      simpa [ByteArray.isEmpty] using hSome
  type_eq := by
    have hOther :
        "Content-Type".toLower ≠ "Last-Modified".toLower := by
      decide +kernel
    simp [inMemory, HeaderList.getAll_set, hOther]
  type_text := isFieldText_contentType path content

/- Its bytes may be asked for in part. -/
theorem offers_inMemory
    (hStreams : s.disableStreaming = false)
    (hContent : content.isEmpty = false)
    (date : String) :
    Assembly.Offers content (s.inMemory path content date) where
  nonempty := hContent
  success := by
    change 200 < 300
    decide
  held := by
    by_cases hBuffered : s.isBuffered path content
    · refine Or.inl ⟨if_pos hBuffered, ?_⟩
      simp [inMemory, hBuffered, hStreams]
    · exact Or.inr (if_neg hBuffered)

end StaticFiles

------------------------------------------------------------
-- Buffers and files on the disk
------------------------------------------------------------

namespace AnySource

variable {data : ByteArray}

/- A file stays one when it is joined with the other kinds. -/
theorem tracks_file
    {state : Nat → FileSource}
    (hTracks : ByteSource.Tracks data state) :
    ByteSource.Tracks data fun p => file (state p) where
  length_eq := hTracks.length_eq
  position_eq := hTracks.position_eq
  read_eq p n hWithin :=
    congrArg (onState file) (hTracks.read_eq p n hWithin)
  skip_eq p n := congrArg (onState file) (hTracks.skip_eq p n)

/- A buffer and a file that are read up to the same byte. -/
def ReadAlike
    (data : ByteArray)
    (buffer : MemorySource)
    (source : AnySource) : Prop :=
  ∃ p,
    p ≤ data.size ∧
      buffer = MemorySource.atPosition data p ∧
      source = file (FileSource.atPosition data p)

/- They can take each other's place. -/
theorem interchangeable_readAlike :
    ByteSource.Interchangeable (ReadAlike data) where
  toAlike :=
    MemorySource.tracks_atPosition.alike
      (tracks_file FileSource.tracks_atPosition)
  close_eq := by
    rintro _ _ ⟨p, _, rfl, rfl⟩
    rfl

/- A file that was just opened stands for its bytes. -/
theorem readAlike_fromDisk :
    ReadAlike data (.ofBytes data)
      (fromDisk (.ofBytes data)) :=
  ⟨0, Nat.zero_le _, rfl, rfl⟩

end AnySource

------------------------------------------------------------
-- What the client receives
------------------------------------------------------------

/- The message that the client of a channel has received. -/
def Server.Exchanged.message
    (x : Exchanged) : Message where
  status := x.head.status
  headers := x.head.headers
  body := x.frames.foldl (· ++ ·) .empty

/- It is the one that the channel let through. -/
theorem Server.message_exchanged
    {x : Exchange AttendedChannel}
    {m : Message}
    (hReceived : x.connection.Received m) :
    (exchanged x).message = m := by
  unfold Exchanged.message exchanged
  rw [hReceived.head_eq]
  exact congrArg (Message.mk m.status m.headers)
    hReceived.body_eq

namespace StaticFiles

variable {s : StaticFiles} {path : String}
variable {content : ByteArray} {modified : FileTime}

/- Only the bytes of the file are streamed. -/
theorem sourceIn_inMemory
    (date : String) :
    (s.inMemory path content date).SourceIn fun source =>
      AnySource.ReadAlike content source
        (AnySource.fromDisk source) := by
  intro source hPayload
  by_cases hBuffered : s.isBuffered path content
  · rw [inMemory, if_pos hBuffered] at hPayload
    cases hPayload
  · rw [inMemory, if_neg hBuffered] at hPayload
    cases hPayload
    exact AnySource.readAlike_fromDisk

/-
  What is received of a file from the disk is what a plain
  connection shows of one in memory.
-/
theorem message_eq_of_shows
    {d : Delivery}
    {q : RequestHead}
    {m : Message}
    (hShows :
      let x := Exchange.start OpenConnection.fresh
      let r :=
        s.inMemory path content
          (modified.date)
      Shows (signals (since x (perform (d.deliver r q) x).2))
        m) :
    (Server.exchanged
        (Execution.deliver d q Server.opened
          (s.serveFile path content modified))).message =
      m := by
  have hUntouched :
      AttendedChannel.Untouched
        (Exchange.start OpenConnection.fresh) Server.opened :=
    ⟨rfl, rfl, rfl⟩
  rcases Delivery.together_deliver_mapSource
      (AttendedChannel.lockstep OpenConnection)
      AnySource.interchangeable_readAlike rfl
      (s.dated_inMemory path content _)
      (sourceIn_inMemory _) d q _ _ hUntouched with
    ⟨_, m', hOther, hReceived⟩
  rw [s.serveFile_eq path content, hShows.unique hOther]
  exact Server.message_exchanged hReceived

/-
  What is received of a file: all of its bytes when no part is
  asked for, and a part of them when one is and the file may be
  streamed.
-/
structure Sent
    (s : StaticFiles)
    (path : String)
    (content : ByteArray)
    (q : RequestHead)
    (m : Message) : Prop where
  whole :
    q.has "Range" = false →
      m.status = 200 ∧
        m.IsWhole
          ((Media.ofPath? path).getD (Media.sniff content))
          content
  part :
    s.disableStreaming = false →
      content.isEmpty = false →
        ∀ range start stop,
          ByteRange.ofHeader (q.header? "Range") =
              .ok (some range) →
            range.resolve content.size = some (start, stop) →
              m.IsPart
                ((Media.ofPath? path).getD
                  (Media.sniff content))
                content start stop

variable {d : Delivery} {q : RequestHead}

/- A file is sent, in one way or the other. -/
theorem sent_serveFile
    (hChunk : 0 < (d.settings.getD {}).chunkSize)
    (hAccept : q.has "Accept-Encoding" = false)
    (hTag : q.has "If-None-Match" = false) :
    Sent s path content q
      (Server.exchanged
        (Execution.deliver d q Server.opened
          (s.serveFile path content modified))).message := by
  let date := modified.date
  have hTyped := s.typed_inMemory path content date
  have hDated := s.dated_inMemory path content date
  have hCoding := RequestHead.header?_of_has_eq_false hAccept
  have hKnown := RequestHead.header?_of_has_eq_false hTag
  rw [contentType_eq] at hTyped
  constructor
  · intro hRange
    have hNone :
        ByteRange.ofHeader (q.header? "Range") = .ok none := by
      rw [RequestHead.header?_of_has_eq_false hRange]
      rfl
    rcases Delivery.deliver_shows_typed_whole hTyped rfl hDated
        hCoding hKnown hChunk hNone OpenConnection.fresh with
      ⟨m, hShows, hStatus, hWhole⟩
    rw [message_eq_of_shows hShows]
    exact ⟨hStatus, hWhole⟩
  · intro hStreams hContent range start stop hRange hResolve
    have hOffers :=
      s.offers_inMemory path content hStreams hContent date
    rcases Delivery.deliver_shows_typed_part hTyped hOffers rfl
        hDated hCoding hKnown hChunk hRange hResolve
        OpenConnection.fresh with
      ⟨m, hShows, hPart⟩
    rw [message_eq_of_shows hShows]
    exact hPart

------------------------------------------------------------
-- Requests for files
------------------------------------------------------------

variable {ω δ : Type} {codec : Codec} {scope : Scope ω δ}
variable {settings : EndpointSettings ω δ} {request : Request δ}
variable {file : String}

/- A directory with one text. -/
def oneText : StaticFiles where
  mount := "/static"
  tree := .directory
    [("a.txt", .file "hi".toUTF8 (.ofInstant ⟨-1, 0⟩))]
  directory := ""

/- Its route, behind a middleware that does nothing. -/
def textRoute : ResolvedRoute Unit Unit :=
  RouteTree.resolveEndpoint .standard {}
    (oneText.endpoint { middlewares := [.passive] })

theorem isTransparent_textRoute :
    textRoute.IsTransparent where
  auths_let_in auth hAuth := by cases hAuth
  middlewares_silent m hMember := by
    rw [List.mem_singleton.mp hMember]
    exact Middleware.isSilent_passive

end StaticFiles

end Courier
