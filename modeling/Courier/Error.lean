/-
  This file names everything that can go wrong between a
  response and the client, by cause, with one wording for each.

  Key definitions include:
    * `IoError`
    * `IoError.Kind`
    * `SendError`
    * `Misuse`
    * `DeliveryError`
-/

namespace Courier

------------------------------------------------------------
-- Input and output
------------------------------------------------------------

/- A failed read, open or write. -/
inductive IoError where
  | notFound
  | notDirectory
  | isDirectory
  | nameTooLong
  | nulInName
  | sourceClosed
  | headAlreadySent
  | writeBeforeHead
  | other (message : String)
deriving DecidableEq, Repr

namespace IoError

/- The wording of a failed read, open or write. -/
def message : IoError → String
  | notFound => "No such file or directory (os error 2)"
  | notDirectory => "Not a directory (os error 20)"
  | isDirectory => "path is a directory"
  | nameTooLong => "File name too long (os error 36)"
  | nulInName => "file name contained an unexpected NUL byte"
  | sourceClosed => "file source is closed"
  | headAlreadySent => "response head already sent"
  | writeBeforeHead => "write before response head"
  | other m => m

/- The kinds that the system sorts its failures into. -/
inductive Kind where
  | notFound
  | notADirectory
  | invalidInput
  | invalidFilename
  | notConnected
  | other
deriving DecidableEq, Repr

/- The kind of a failed read, open or write. -/
def kind : IoError → Kind
  | notFound => .notFound
  | notDirectory => .notADirectory
  | isDirectory => .invalidInput
  | nameTooLong => .invalidFilename
  | nulInName => .invalidInput
  | sourceClosed => .notConnected
  | headAlreadySent | writeBeforeHead | other _ => .other

end IoError

------------------------------------------------------------
-- Sending
------------------------------------------------------------

/- A failure to hand bytes over to the connection. -/
inductive SendError where
  | closed
  | io (cause : IoError)
deriving DecidableEq, Repr

namespace SendError

/- True when the peer went away. -/
def isClosed : SendError → Bool
  | closed => true
  | io _ => false

/- The wording of a failure to send. -/
def message : SendError → String
  | closed => "connection closed by peer"
  | io cause => "io error: " ++ cause.message

end SendError

------------------------------------------------------------
-- Delivering
------------------------------------------------------------

/- A setting that no response can be delivered with. -/
inductive Misuse where
  | zeroChunkSize
deriving DecidableEq, Repr

/- The wording of a misuse. -/
def Misuse.message : Misuse → String
  | zeroChunkSize => "streaming chunk size must not be zero"

/-
  A failure of one delivery. `dateOutOfRange` is a date that
  an HTTP date cannot write, found in a cookie or a file time;
  it stops the delivery before anything is sent.
-/
inductive DeliveryError where
  | send (cause : SendError)
  | io (cause : IoError)
  | handler (message : String)
  | misuse (what : Misuse)
  | dateOutOfRange
deriving DecidableEq, Repr

/- The wording of a failed delivery. -/
def DeliveryError.message : DeliveryError → String
  | send cause => "send error: " ++ cause.message
  | io cause => "io error: " ++ cause.message
  | handler m => "handler error: " ++ m
  | misuse what => "misuse: " ++ what.message
  | dateOutOfRange => "date out of range"

end Courier
