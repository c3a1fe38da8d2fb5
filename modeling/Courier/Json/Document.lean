import Courier.Json.Token

/-
  This file reads JSON documents from their tokens. The values
  around the place that is being read are kept as a list of
  frames, so that values may nest to any depth.

  Key definitions include:
    * `JsonDocument`
    * `JsonDocument.Frame`
    * `JsonDocument.State`
    * `JsonDocument.step`
    * `JsonDocument.ofBytes?`
-/

namespace Courier

/-
  A JSON document as it was received. The members of an object
  keep their order and may repeat a name; a name that is no
  Unicode text is missing.
-/
inductive JsonDocument where
  | leaf (value : JsonLeaf)
  | arr (items : List JsonDocument)
  | obj (members : List (Option String × JsonDocument))

namespace JsonDocument

/- The members of an object that have been read. -/
abbrev Members :=
  List (Option String × JsonDocument)

/-
  A value around the place that is being read, with what stands
  before that place in it, last one first.
-/
inductive Frame where
  | arr (items : List JsonDocument)
  | obj (members : Members) (name : Option String)

/- What may come next. -/
inductive State where
  | value (frames : List Frame)
  | arrStart (frames : List Frame)
  | arrNext (items : List JsonDocument) (frames : List Frame)
  | objStart (frames : List Frame)
  | objName (members : Members) (frames : List Frame)
  | objColon
      (members : Members)
      (name : Option String)
      (frames : List Frame)
  | objNext (members : Members) (frames : List Frame)
  | finished (document : JsonDocument)

/- Go on behind a value that is complete. -/
def plug
    (document : JsonDocument) : List Frame → State
  | [] => .finished document
  | .arr items :: frames => .arrNext (document :: items) frames
  | .obj members name :: frames =>
      .objNext ((name, document) :: members) frames

/- Begin a value. -/
def enter
    (frames : List Frame) : JsonToken → Option State
  | .leaf value => some (plug (.leaf value) frames)
  | .openArr => some (.arrStart frames)
  | .openObj => some (.objStart frames)
  | _ => none

/- Read one token. -/
def step : State → JsonToken → Option State
  | .value frames, token => enter frames token
  | .arrStart frames, .closeArr => some (plug (.arr []) frames)
  | .arrStart frames, token => enter (.arr [] :: frames) token
  | .arrNext items frames, .comma =>
      some (.value (.arr items :: frames))
  | .arrNext items frames, .closeArr =>
      some (plug (.arr items.reverse) frames)
  | .objStart frames, .closeObj => some (plug (.obj []) frames)
  | .objStart frames, .leaf (.text name) =>
      some (.objColon [] name frames)
  | .objName members frames, .leaf (.text name) =>
      some (.objColon members name frames)
  | .objColon members name frames, .colon =>
      some (.value (.obj members name :: frames))
  | .objNext members frames, .comma =>
      some (.objName members frames)
  | .objNext members frames, .closeObj =>
      some (plug (.obj members.reverse) frames)
  | _, _ => none

/- The document that bytes write, and nothing besides. -/
def ofBytes?
    (bytes : List UInt8) : Option JsonDocument :=
  match
    (JsonToken.ofBytes bytes).bind
      (·.foldlM step (.value []))
  with
  | some (.finished document) => some document
  | _ => none

end JsonDocument

end Courier
