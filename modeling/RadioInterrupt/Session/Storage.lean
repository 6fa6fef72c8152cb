import RadioInterrupt.Inbox

/-!
Sessions with one inbox.

The buffers of a session are either handed in with their bytes, or taken in order from the windows
that a storage region has been cut into.
-/

namespace RadioInterrupt.Session

inductive Destination where
  | given (bytes : Bytes)
  | nextWindow
  deriving DecidableEq, Repr

/-- The buffer of a destination, if there is one left, and the windows left after it. -/
def Destination.take (spare : List Window) : Destination → Option Buffer × List Window
  | .given bytes => (some (.owned bytes), spare)
  | .nextWindow =>
      match spare with
      | [] => (none, [])
      | window :: rest => (some (.window window), rest)

structure Storage where
  inbox : Inbox := {}
  spare : List Window := []
  deriving DecidableEq, Repr

namespace Storage

def ofRegion (region : Bytes) (lengths : List Nat) : Storage where
  inbox := { region }
  spare := Window.cut 0 lengths

inductive Step where
  | set (destination : Destination)
  | take
  | fill (payload : Bytes)
  deriving DecidableEq, Repr

inductive Answer where
  | buffer (bytes : Option Bytes)
  | copy (copy : Option Copy)
  deriving DecidableEq, Repr

def step (storage : Storage) : Step → Answer × Storage
  | .set destination =>
      let (buffer, spare) := destination.take storage.spare
      (.buffer storage.inbox.registered,
        { inbox := buffer.elim storage.inbox storage.inbox.set, spare })
  | .take => (.buffer storage.inbox.registered, { storage with inbox := storage.inbox.clear })
  | .fill payload =>
      let (inbox, copy) := storage.inbox.fill payload
      (.copy copy, { storage with inbox })

end Storage

end RadioInterrupt.Session
