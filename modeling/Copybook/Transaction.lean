import Copybook.Layout.Template
import Copybook.Record.Access

/-!
Calls of a transaction program: a record is prepared and sent, and the reply is read with the same layout.
-/

namespace Copybook

-- A program called by its name with the bytes of a record, and what it returns.
abbrev Executor := Text → Bytes → Except AccessFault Bytes

-- A call that has been made: the request as it is afterwards, what has been sent, and the reply.
structure Call where
  request : Bytes
  sent : Option Bytes
  reply : Except AccessFault Bytes

namespace Layout

-- A reply may be longer than the record, but not shorter.
def checkReply (layout : Layout) (program : Text) (reply : Bytes) : Except AccessFault Bytes :=
  if reply.length < layout.length then .error (.shortReply program reply.length layout.length) else .ok reply

-- Sets the fields of the request and sends it. A request that cannot be prepared is not sent, but keeps
-- the fields that have been set.
def call (layout : Layout) (executor : Executor) (program : Text) (request : Bytes)
    (prepare : List (Text × Value)) : Call :=
  match layout.assignAll request prepare with
  | (.error fault, request) => ⟨request, none, .error fault⟩
  | (.ok (), request) => ⟨request, some request, executor program request >>= layout.checkReply program⟩

-- Calls with the same record one after another, each preparing it as the one before has left it.
def callAgain (layout : Layout) (executor : Executor) (program : Text) (prepare : List (Text × Value))
    (request : Bytes) : (times : Nat) → List Call
  | 0 => []
  | times + 1 =>
    let c := layout.call executor program request prepare
    c :: callAgain layout executor program prepare c.request times

-- Calls each with a new record.
def callAnew (layout : Layout) (executor : Executor) (program : Text) (prepare : List (Text × Value))
    (times : Nat) : List Call :=
  List.replicate times (layout.call executor program layout.template prepare)

end Layout

-- The value of the reply.
def Call.value (layout : Layout) (c : Call) : Except AccessFault Value :=
  c.reply >>= layout.value

end Copybook
