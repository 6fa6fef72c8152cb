import RadioInterrupt.Inbox

/-!
# Windows of a storage region

Writing a window changes no byte outside it, so windows without a common byte do not disturb each
other.  The windows that a region is cut into have no byte in common.
-/

namespace RadioInterrupt

/-! ## Overlays in sequence -/

theorem overlay_eq_min (payload bytes : Bytes) :
    overlay payload bytes =
      payload.take (min payload.length bytes.length) ++
        bytes.drop (min payload.length bytes.length) := by
  by_cases fits : payload.length ≤ bytes.length
  · rw [overlay, Nat.min_eq_left fits, List.take_of_length_le fits, List.take_length]
  · have longer : bytes.length ≤ payload.length := by omega
    rw [overlay, Nat.min_eq_right longer, List.drop_length, List.drop_eq_nil_of_le longer]

/-- Lays payloads over bytes, one after the other. -/
def overlays (payloads : List Bytes) (bytes : Bytes) : Bytes :=
  payloads.foldl (fun bytes payload => overlay payload bytes) bytes

@[simp] theorem overlays_nil (bytes : Bytes) : overlays [] bytes = bytes := rfl

theorem overlays_concat (payloads : List Bytes) (payload bytes : Bytes) :
    overlays (payloads ++ [payload]) bytes = overlay payload (overlays payloads bytes) := by
  rw [overlays, List.foldl_append]
  rfl

@[simp] theorem length_overlays (payloads : List Bytes) (bytes : Bytes) :
    (overlays payloads bytes).length = bytes.length := by
  induction payloads generalizing bytes with
  | nil => rfl
  | cons payload payloads ih =>
      change (overlays payloads (overlay payload bytes)).length = bytes.length
      rw [ih, length_overlay]

namespace Window

/-! ## Bytes inside and outside -/

def Covers (window : Window) (place : Nat) : Prop :=
  window.start ≤ place ∧ place < window.start + window.length

def Apart (window other : Window) : Prop :=
  ∀ place, window.Covers place → ¬ other.Covers place

theorem getElem?_read (window : Window) (region : Bytes) (offset : Nat) :
    (window.read region)[offset]? =
      if offset < window.length then region[window.start + offset]? else none := by
  rw [read, List.getElem?_take]
  split
  · rw [List.getElem?_drop]
  · rfl

theorem read_congr {window : Window} {region other : Bytes}
    (same : ∀ place, window.Covers place → region[place]? = other[place]?) :
    window.read region = window.read other := by
  apply List.ext_getElem?
  intro offset
  rw [getElem?_read, getElem?_read]
  split
  · next inside =>
      apply same
      constructor <;> omega
  · rfl

theorem getElem?_write_of_not_covers {window : Window} {region bytes : Bytes} {place : Nat}
    (fits : bytes.length = (window.read region).length) (outside : ¬ window.Covers place) :
    (window.write bytes region)[place]? = region[place]? := by
  have kept := length_write fits
  rw [length_read] at fits
  rw [Covers] at outside
  by_cases inside : place < region.length
  · rw [write, List.append_assoc]
    by_cases before : place < window.start
    · rw [List.getElem?_append_left (by rw [List.length_take]; omega), List.getElem?_take,
        if_pos before]
    · have beyond : window.start + window.length ≤ place := by omega
      have skipped : (region.take window.start).length = window.start := by
        rw [List.length_take]
        omega
      have filled : bytes.length = window.length := by omega
      rw [List.getElem?_append_right (by omega), skipped,
        List.getElem?_append_right (by omega), List.getElem?_drop]
      congr 1
      omega
  · rw [List.getElem?_eq_none (by omega), List.getElem?_eq_none (by omega)]

theorem read_write_of_apart {window other : Window} {region bytes : Bytes}
    (apart : window.Apart other) (fits : bytes.length = (other.read region).length) :
    window.read (other.write bytes region) = window.read region := by
  apply read_congr
  intro place inside
  exact getElem?_write_of_not_covers fits (apart place inside)

/-! ## Cuts -/

theorem le_start_of_mem_cut {window : Window} {start : Nat} {lengths : List Nat}
    (h : window ∈ cut start lengths) : start ≤ window.start := by
  induction lengths generalizing start with
  | nil => cases h
  | cons length lengths ih =>
      rcases List.mem_cons.mp h with rfl | later
      · exact Nat.le_refl _
      · have behind := ih later
        omega

theorem eq_or_apart_of_mem_cut {window other : Window} {start : Nat} {lengths : List Nat}
    (h : window ∈ cut start lengths) (hother : other ∈ cut start lengths) :
    window = other ∨ window.Apart other := by
  induction lengths generalizing start with
  | nil => cases h
  | cons length lengths ih =>
      rcases List.mem_cons.mp h with rfl | later
      · rcases List.mem_cons.mp hother with rfl | laterOther
        · exact .inl rfl
        · right
          rintro place ⟨_, inside⟩ ⟨reached, _⟩
          have behind := le_start_of_mem_cut laterOther
          simp only at inside
          omega
      · rcases List.mem_cons.mp hother with rfl | laterOther
        · right
          rintro place ⟨reached, _⟩ ⟨_, inside⟩
          have behind := le_start_of_mem_cut later
          simp only at inside
          omega
        · exact ih later laterOther

end Window

end RadioInterrupt
