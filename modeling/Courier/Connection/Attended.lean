import Courier.Connection.Channel

/-
  This file defines the channel with a client that takes the
  response and every chunk as soon as they are there.

  Key definitions include:
    * `AttendedChannel`
    * `AttendedChannel.attend`
-/

namespace Courier

/- A channel and what its client has received so far. -/
structure AttendedChannel where
  channel : Channel := {}
  head : Option ReceivedHead := none
  frames : Array ByteArray := #[]

namespace AttendedChannel

/- A channel whose client gave up before anything was sent. -/
def abandoned : AttendedChannel where
  channel := { receiver := .gone }

/- Take the response, when it is there. -/
def takeHead
    (a : AttendedChannel) : AttendedChannel :=
  match a.channel.receiver with
  | .ready head _ =>
      { a with
        channel := a.channel.takeResponse.2
        head := some head }
  | _ => a

/- Take at most `fuel` frames. -/
def takeFrames
    (fuel : Nat)
    (a : AttendedChannel) : AttendedChannel :=
  match fuel with
  | 0 => a
  | fuel + 1 =>
      match a.channel.takeFrame with
      | (.frame (.ok chunk), channel) =>
          takeFrames fuel
            { a with channel, frames := a.frames.push chunk }
      | _ => a

/- Take everything that is there. -/
def attend
    (a : AttendedChannel) : AttendedChannel :=
  let a := a.takeHead
  a.takeFrames (a.channel.queue.length + 1)

/-
  A call that is answered at once. With a client that attends no
  call has to wait, so the other case does not arise.
-/
def settled : Channel.Polled Sent → Sent
  | .ready answer => answer
  | .pending => .error .closed

/- Go on with a channel after a call, and attend to it. -/
def after
    (a : AttendedChannel)
    (result : Sent × Channel) : Sent × AttendedChannel :=
  (result.1, { a with channel := result.2 }.attend)

instance : Connection AttendedChannel where
  sendHead status headers a :=
    a.after ({ a.channel with headers }.sendHead status)
  sendFull? := some fun status headers body a =>
    a.after ({ a.channel with headers }.sendFull status body)
  write chunk a :=
    let (answer, channel) := a.channel.write chunk
    a.after (settled answer, channel)
  flush a := (settled a.channel.flush, a)
  isClosed a := (a.channel.isClosed, a)

/- The body as the client has received it. -/
def body
    (a : AttendedChannel) : ByteArray :=
  a.frames.foldl (· ++ ·) .empty

end AttendedChannel

end Courier
