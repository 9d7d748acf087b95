/-
The kinds of control messages and their tags on the wire.

Every signed 32-bit tag names exactly one kind: the fifteen assigned tags name the known kinds,
any other tag is kept in `Kind.unknown`, so that a message of a kind this library does not know is
passed on unchanged.

* `tag_ofTag` — a kind read off a tag is written as that tag again;
* `ofTag_tag` — a kind is read back from its tag, unless it is an `unknown` with an assigned tag.
-/

namespace PipelineWorker

/-- What a control message asks for or reports. -/
inductive Kind
  | quit | start | finished | error | warning | info | parinfo | render | newObject
  | deleteObject
  /-- Stands for a connection that went away; no reply has this kind. -/
  | socketClosed
  /-- The controller names the port of the datamanager to contact. -/
  | appContactDm
  /-- Asks for, and answers with, the key of the working segment. -/
  | getShmKey
  /-- The datamanager announces a fresh segment. -/
  | newSharedSegment
  /-- A worker reports its process id. -/
  | sendApplProcId
  /-- A kind known by its tag only. -/
  | unknown (tag : Int32)
  deriving DecidableEq, Repr, Inhabited

namespace Kind

/-- The kind that a tag names. -/
def ofTag (tag : Int32) : Kind :=
  match tag.toInt with
  | 1 => quit
  | 2 => start
  | 3 => finished
  | 4 => error
  | 5 => warning
  | 6 => info
  | 7 => parinfo
  | 8 => render
  | 9 => newObject
  | 10 => deleteObject
  | 11 => socketClosed
  | 12 => appContactDm
  | 13 => getShmKey
  | 14 => newSharedSegment
  | 15 => sendApplProcId
  | _ => unknown tag

/-- The tag that a kind is written as. -/
def tag : Kind → Int32
  | quit => 1
  | start => 2
  | finished => 3
  | error => 4
  | warning => 5
  | info => 6
  | parinfo => 7
  | render => 8
  | newObject => 9
  | deleteObject => 10
  | socketClosed => 11
  | appContactDm => 12
  | getShmKey => 13
  | newSharedSegment => 14
  | sendApplProcId => 15
  | unknown t => t

/-- Whether the kind has a meaning of its own. -/
def isKnown : Kind → Bool
  | unknown _ => false
  | _ => true

/-- The name of a known kind, or the word and tag of another. -/
private def named (unassigned : String) : Kind → String
  | quit => "Quit"
  | start => "Start"
  | finished => "Finished"
  | error => "Error"
  | warning => "Warning"
  | info => "Info"
  | parinfo => "Parinfo"
  | render => "Render"
  | newObject => "NewObject"
  | deleteObject => "DeleteObject"
  | socketClosed => "SocketClosed"
  | appContactDm => "AppContactDm"
  | getShmKey => "GetShmKey"
  | newSharedSegment => "NewSharedSegment"
  | sendApplProcId => "SendApplProcId"
  | unknown t => s!"{unassigned}({t.toInt})"

/-- The text of a kind in messages and logs. -/
def display (k : Kind) : String := named "UNKNOWN" k

/-- The text of a kind where values are spelled out. -/
def detail (k : Kind) : String := named "Unknown" k

theorem tag_ofTag (t : Int32) : (ofTag t).tag = t := by
  rw [ofTag]
  split
  case h_16 => rfl
  all_goals exact Int32.toInt_inj.1 (Eq.symm ‹_›)

theorem ofTag_tag {k : Kind} (h : k.isKnown) : ofTag k.tag = k := by
  cases k with
  | unknown t => exact absurd h Bool.false_ne_true
  | _ => rfl

end Kind

end PipelineWorker
