import RadioInterrupt.Outcome

/-!
The destination of the next received frame.

An inbox holds at most one buffer.  A buffer is either a run of bytes of its own or a window of a
storage region that the inbox was given.  Filling overlays the frame on the buffer: the buffer keeps
its length, a longer frame is cut, and what a shorter frame does not reach stays as it was.
-/

namespace RadioInterrupt

def overlay (payload bytes : Bytes) : Bytes :=
  payload.take bytes.length ++ bytes.drop payload.length

@[simp] theorem length_overlay (payload bytes : Bytes) :
    (overlay payload bytes).length = bytes.length := by
  simp only [overlay, List.length_append, List.length_take, List.length_drop]
  omega

@[simp] theorem overlay_nil (bytes : Bytes) : overlay [] bytes = bytes := by
  simp [overlay]

structure Copy where
  copied : Nat
  received : Nat
  deriving DecidableEq, Repr

def Copy.truncated (copy : Copy) : Bool :=
  decide (copy.copied < copy.received)

structure Window where
  start : Nat
  length : Nat
  deriving DecidableEq, Repr

namespace Window

def read (window : Window) (region : Bytes) : Bytes :=
  (region.drop window.start).take window.length

def write (window : Window) (bytes region : Bytes) : Bytes :=
  region.take window.start ++ bytes ++ region.drop (window.start + window.length)

/-- Cuts a region from its start into consecutive windows of the given lengths. -/
def cut : Nat → List Nat → List Window
  | _, [] => []
  | start, length :: lengths => ⟨start, length⟩ :: cut (start + length) lengths

theorem length_read (window : Window) (region : Bytes) :
    (window.read region).length = min window.length (region.length - window.start) := by
  simp only [read, List.length_take, List.length_drop]

theorem read_write {window : Window} {region bytes : Bytes}
    (h : bytes.length = (window.read region).length) :
    window.read (window.write bytes region) = bytes := by
  rw [length_read] at h
  by_cases inside : window.start ≤ region.length
  · have skipped : (region.take window.start).length = window.start := by
      rw [List.length_take]
      omega
    rw [read, write, List.append_assoc, List.drop_left' skipped]
    by_cases fits : window.start + window.length ≤ region.length
    · rw [List.take_left' (by omega)]
    · rw [List.drop_eq_nil_of_le (by omega), List.append_nil]
      exact List.take_of_length_le (by omega)
  · have empty : bytes = [] := List.eq_nil_of_length_eq_zero (by omega)
    subst empty
    have past : region.length ≤ window.start + window.length := by omega
    rw [read, write, List.append_nil, List.drop_eq_nil_of_le past, List.append_nil,
      List.drop_eq_nil_of_le (by rw [List.length_take]; omega), List.take_nil]

theorem length_write {window : Window} {region bytes : Bytes}
    (h : bytes.length = (window.read region).length) :
    (window.write bytes region).length = region.length := by
  rw [length_read] at h
  simp only [write, List.length_append, List.length_take, List.length_drop]
  omega

@[simp] theorem length_cut (start : Nat) (lengths : List Nat) :
    (cut start lengths).length = lengths.length := by
  induction lengths generalizing start with
  | nil => rfl
  | cons length lengths ih => simp [cut, ih]

end Window

inductive Buffer where
  | owned (bytes : Bytes)
  | window (window : Window)
  deriving DecidableEq, Repr

structure Inbox where
  buffer : Option Buffer := none
  region : Bytes := []
  deriving DecidableEq, Repr

namespace Inbox

/-- The bytes of a buffer, as the inbox's region has them now. -/
def contents (inbox : Inbox) : Buffer → Bytes
  | .owned bytes => bytes
  | .window window => window.read inbox.region

def registered (inbox : Inbox) : Option Bytes :=
  inbox.buffer.map inbox.contents

def set (inbox : Inbox) (buffer : Buffer) : Inbox :=
  { inbox with buffer := some buffer }

def clear (inbox : Inbox) : Inbox :=
  { inbox with buffer := none }

def fill (inbox : Inbox) (payload : Bytes) : Inbox × Option Copy :=
  match inbox.buffer with
  | none => (inbox, none)
  | some (.owned bytes) =>
      ({ inbox with buffer := some (.owned (overlay payload bytes)) },
        some ⟨min payload.length bytes.length, payload.length⟩)
  | some (.window window) =>
      let bytes := window.read inbox.region
      ({ inbox with region := window.write (overlay payload bytes) inbox.region },
        some ⟨min payload.length bytes.length, payload.length⟩)

@[simp] theorem registered_clear (inbox : Inbox) : inbox.clear.registered = none := rfl

@[simp] theorem registered_set_owned (inbox : Inbox) (bytes : Bytes) :
    (inbox.set (.owned bytes)).registered = some bytes := rfl

theorem registered_fill (inbox : Inbox) (payload : Bytes) :
    (inbox.fill payload).1.registered = inbox.registered.map (overlay payload) := by
  obtain ⟨buffer, region⟩ := inbox
  cases buffer with
  | none => rfl
  | some buffer =>
      cases buffer with
      | owned bytes => rfl
      | window window =>
          simp only [fill, registered, contents, Option.map_some]
          rw [Window.read_write (length_overlay _ _)]

theorem length_region_fill (inbox : Inbox) (payload : Bytes) :
    (inbox.fill payload).1.region.length = inbox.region.length := by
  obtain ⟨buffer, region⟩ := inbox
  cases buffer with
  | none => rfl
  | some buffer =>
      cases buffer with
      | owned bytes => rfl
      | window window => exact Window.length_write (length_overlay _ _)

theorem copy_fill (inbox : Inbox) (payload : Bytes) :
    (inbox.fill payload).2 =
      inbox.registered.map fun bytes => ⟨min payload.length bytes.length, payload.length⟩ := by
  unfold fill registered
  split <;> simp_all [contents]

end Inbox

end RadioInterrupt
