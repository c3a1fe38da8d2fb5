import Courier.Binding.Format
import Courier.Request.Basic
import Courier.Response.Basic

/-
  This file binds the parts of a request.

  Key definitions include:
    * `Request.parameterText`
    * `Request.bindParams`
    * `Request.bindBody`
    * `BindError.toResponse`
-/

namespace Courier

namespace Request

variable {δ : Type}

/- A value, or an error in its place. -/
def orFail
    (error : BindError)
    (value : Option Bound) : Except BindError Bound :=
  match value with
  | some bound => .ok bound
  | none => .error error

/- Bind a query string. -/
def bindQueryText
    (f : Formats)
    (schema : Schema)
    (query : List Char) : Except BindError Bound :=
  orFail .query (f.query.bind? schema (Utf8.encode query))

/- Bind the query of a request. -/
def bindQuery
    (f : Formats)
    (schema : Schema)
    (q : Request δ) : Except BindError Bound :=
  bindQueryText f schema (q.query?.getD "").toList

/- Bind the body of a request as JSON. -/
def bindJson
    (f : Formats)
    (schema : Schema)
    (q : Request δ) : Except BindError Bound :=
  orFail .json (f.json.bind? schema q.body.toList)

/- Bind the body of a request as a form. -/
def bindForm
    (f : Formats)
    (schema : Schema)
    (q : Request δ) : Except BindError Bound :=
  orFail .form (f.form.bind? schema q.body.toList)

/-
  The parameters of the path, written as a form, and the query
  of the request behind them.
-/
def parameterText
    (own : List Char)
    (query : Option String) : List Char :=
  let sent := (query.getD "").toList
  if sent.isEmpty then own
  else if own.isEmpty then sent
  else own ++ '&' :: sent

/- Bind the parameters of the path and the query together. -/
def bindParams
    (f : Formats)
    (schema : Schema)
    (q : Request δ) : Except BindError Bound :=
  match f.writeForm? q.params.entries with
  | none => .error .pathParams
  | some own =>
      bindQueryText f schema (parameterText own q.query?)

/- The content type that JSON bodies announce. -/
def jsonType : String :=
  "application/json"

/- The content type that forms announce. -/
def formType : String :=
  "application/x-www-form-urlencoded"

/-
  Bind the body as its content type says. No body at all is a
  form without fields, whatever the content type is.
-/
def bindBody
    (f : Formats)
    (schema : Schema)
    (q : Request δ) : Except BindError Bound :=
  if q.body.isEmpty then
    orFail .form (f.form.bind? schema [])
  else
    match q.header? "Content-Type" with
    | none => .error (.unsupportedType none)
    | some t =>
        if Text.startsWith jsonType t then
          bindJson f schema q
        else if Text.startsWith formType t then
          bindForm f schema q
        else .error (.unsupportedType (some t))

end Request

/- The response to a request that could not be bound. -/
def BindError.toResponse
    {σ : Type}
    (e : BindError) : Response σ :=
  (Response.ofStatus 400).text e.answerText "text/plain"

end Courier
