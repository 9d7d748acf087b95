/-
Moving messages over byte streams.

A `Source` is what a reader will see: pieces of data, none of which a single read crosses, and
failures between them; behind the last piece the stream has ended.  A `Sink` is what a writer will
see: how much each write takes, or how it fails; behind the last entry every write takes all.
Interrupted reads and writes are tried again.

* `readExact` takes exactly as many bytes as asked, or fails with the stream's end;
* `readMessage` takes exactly one frame;
* `writeAll` hands over everything or reports how far it got.
-/
import PipelineWorker.Message.Frame

namespace PipelineWorker

/-! ### Reading -/

/-- What one or more reads on a stream meet next. -/
inductive Piece
  | data (bs : Bytes)
  | failure (f : OsFailure)
  deriving DecidableEq, Repr

/-- All that is still to come on a stream. -/
abbrev Source := List Piece

namespace Source

/-- Takes exactly `n` bytes off the stream.  What was taken before a failure is lost. -/
def readExact : Nat → Source → Except OsFailure Bytes × Source
  | 0, src => (.ok [], src)
  | _ + 1, [] => (.error (.plain .unexpectedEof), [])
  | n + 1, .failure f :: src =>
    if f.kind = .interrupted then readExact (n + 1) src else (.error f, src)
  | n + 1, .data bs :: src =>
    if bs.isEmpty then
      (.error (.plain .unexpectedEof), src)
    else if n + 1 < bs.length then
      (.ok (bs.take (n + 1)), .data (bs.drop (n + 1)) :: src)
    else
      let (more, src) := readExact (n + 1 - bs.length) src
      (more.map (bs ++ ·), src)

/-- Takes exactly one frame off the stream.  After a refused header the payload is still there. -/
def readMessage (src : Source) : Except CodecError Message × Source :=
  match readExact Frame.headerLength src with
  | (.error f, src) => (.error (.stream f), src)
  | (.ok header, src) =>
    match Frame.parseHeader header with
    | .error e => (.error e, src)
    | .ok (kind, length) =>
      match readExact length src with
      | (.error f, src) => (.error (.stream f), src)
      | (.ok payload, src) => (.ok (.ofBytes kind payload), src)

/-- The first `n` results of reading messages off the stream. -/
def readMessages : Nat → Source → List (Except CodecError Message)
  | 0, _ => []
  | n + 1, src => let (r, src) := readMessage src; r :: readMessages n src

end Source

/-! ### Writing -/

/-- What one write on a stream meets. -/
inductive Acceptance
  /-- At most so many bytes are taken. -/
  | upTo (n : Nat)
  | failure (f : OsFailure)
  deriving DecidableEq, Repr

/-- What the coming writes on a stream meet. -/
abbrev Sink := List Acceptance

/-- How an attempt to write ended. -/
structure WriteOutcome where
  result : Except OsFailure Unit
  /-- The bytes that the stream took. -/
  written : Bytes
  /-- How often it was asked to. -/
  calls : Nat
  /-- What later writes will meet. -/
  sink : Sink
  deriving Repr

namespace Sink

/-- Writes until all of `bs` is taken.  A write that takes nothing is a failure. -/
def writeAll : Bytes → Sink → WriteOutcome
  | [], sink => { result := .ok (), written := [], calls := 0, sink }
  | bs, [] => { result := .ok (), written := bs, calls := 1, sink := [] }
  | bs, .failure f :: sink =>
    if f.kind = .interrupted then
      let o := writeAll bs sink
      { o with calls := o.calls + 1 }
    else
      { result := .error f, written := [], calls := 1, sink }
  | bs, .upTo n :: sink =>
    if n = 0 then
      { result := .error (.plain .writeZero), written := [], calls := 1, sink }
    else
      let o := writeAll (bs.drop n) sink
      { o with written := bs.take n ++ o.written, calls := o.calls + 1 }

/-- Writes the frame of a message and flushes the stream; `flush` is how the flush ends. -/
def writeMessage (m : Message) (flush : Except OsFailure Unit) (sink : Sink) :
    Except CodecError Unit × WriteOutcome :=
  match Frame.encode m with
  | .error e => (.error e, { result := .ok (), written := [], calls := 0, sink })
  | .ok frame =>
    let o := writeAll frame sink
    match o.result, flush with
    | .error f, _ => (.error (.stream f), o)
    | .ok (), .error f => (.error (.stream f), o)
    | .ok (), .ok () => (.ok (), o)

end Sink

end PipelineWorker
