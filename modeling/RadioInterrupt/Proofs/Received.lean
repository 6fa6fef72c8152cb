import RadioInterrupt.Proofs.Course
import RadioInterrupt.Proofs.Windows
import RadioInterrupt.Script

/-!
# Where received bytes go

The journal tells which buffer is registered, the bytes that it had when it was registered, and the
frames that were accepted since then.  The registered buffer holds those frames laid over those
bytes, and this is what is handed back.  The bytes of the storage region change only where a window
is registered.
-/

namespace RadioInterrupt

/-! ## Filling a window -/

def Buffer.window? : Buffer → Option Window
  | .owned _ => none
  | .window lent => some lent

namespace Inbox

def window? (inbox : Inbox) : Option Window :=
  inbox.buffer.bind Buffer.window?

@[simp] theorem window?_fill (inbox : Inbox) (payload : Bytes) :
    (inbox.fill payload).1.window? = inbox.window? := by
  obtain ⟨buffer, region⟩ := inbox
  cases buffer with
  | none => rfl
  | some buffer => cases buffer <;> rfl

theorem region_fill (inbox : Inbox) (payload : Bytes) :
    (inbox.fill payload).1.region =
      inbox.window?.elim inbox.region fun window =>
        window.write (overlay payload (window.read inbox.region)) inbox.region := by
  obtain ⟨buffer, region⟩ := inbox
  cases buffer with
  | none => rfl
  | some buffer => cases buffer <;> rfl

theorem getElem?_region_fill {inbox : Inbox} {place : Nat}
    (outside : ∀ window, inbox.window? = some window → ¬ window.Covers place) (payload : Bytes) :
    (inbox.fill payload).1.region[place]? = inbox.region[place]? := by
  rw [region_fill]
  cases hwindow : inbox.window? with
  | none => rfl
  | some window =>
      exact Window.getElem?_write_of_not_covers (length_overlay _ _) (outside window hwindow)

end Inbox

/-! ## The journal of a buffer -/

/-- A buffer that is registered, with the bytes that it had then and the frames accepted since. -/
structure Tenancy where
  buffer : Buffer
  bytes : Bytes
  payloads : List Bytes

def Tenancy.contents (tenancy : Tenancy) : Bytes :=
  overlays tenancy.payloads tenancy.bytes

namespace Entry

def payload? : Entry → Option Bytes
  | .dispatched made => made.accepted.map (·.payload)
  | _ => none

def releases : Entry → Bool
  | .bufferSet _ _ _ | .bufferTaken _ | .installed _ _ => true
  | _ => false

def handedBack : Entry → Option (Option Bytes)
  | .bufferSet _ _ back => some back
  | .bufferTaken back => some back
  | _ => none

def window? : Entry → Option Window
  | .bufferSet (.window window) _ _ => some window
  | _ => none

def payloads (journal : List Entry) : List Bytes :=
  journal.reverse.filterMap payload?

def windows (journal : List Entry) : List Window :=
  journal.filterMap window?

def tenancy : List Entry → Option Tenancy
  | [] => none
  | .bufferSet buffer bytes _ :: _ => some ⟨buffer, bytes, []⟩
  | .bufferTaken _ :: _ => none
  | .installed _ _ :: _ => none
  | entry :: earlier =>
      (tenancy earlier).map fun held =>
        { held with payloads := held.payloads ++ entry.payload?.toList }

def payloadsInto (window : Window) : List Entry → List Bytes
  | [] => []
  | entry :: earlier =>
      payloadsInto window earlier ++
        if (tenancy earlier).bind (·.buffer.window?) = some window then entry.payload?.toList
        else []

theorem payloads_cons (entry : Entry) (journal : List Entry) :
    payloads (entry :: journal) = payloads journal ++ entry.payload?.toList := by
  rw [payloads, List.reverse_cons, List.filterMap_append]
  cases h : entry.payload? <;> simp [h, payloads]

theorem tenancy_cons_of_stays {entry : Entry} (h : entry.releases = false)
    (journal : List Entry) :
    tenancy (entry :: journal) = (tenancy journal).map fun held =>
      { held with payloads := held.payloads ++ entry.payload?.toList } := by
  cases entry with
  | registered request answer => rfl
  | countersReset => rfl
  | dispatched made => rfl
  | installed requests succeeded => cases h
  | bufferSet buffer bytes back => cases h
  | bufferTaken back => cases h

theorem handedBack_of_stays {entry : Entry} (h : entry.releases = false) :
    entry.handedBack = none := by
  cases entry with
  | registered request answer => rfl
  | countersReset => rfl
  | dispatched made => rfl
  | installed requests succeeded => rfl
  | bufferSet buffer bytes back => cases h
  | bufferTaken back => cases h

theorem tenancy_append {later : List Entry} (h : ∀ entry ∈ later, entry.releases = false)
    (journal : List Entry) :
    tenancy (later ++ journal) = (tenancy journal).map fun held =>
      { held with payloads := held.payloads ++ payloads later } := by
  induction later with
  | nil =>
      cases hheld : tenancy journal <;> simp [hheld, payloads]
  | cons entry later ih =>
      have stays := h entry List.mem_cons_self
      have rest := ih fun other hother => h other (List.mem_cons_of_mem _ hother)
      rw [List.cons_append, tenancy_cons_of_stays stays, rest, Option.map_map, payloads_cons]
      simp only [Function.comp_def, List.append_assoc]

theorem tenancy_set {later : List Entry} (h : ∀ entry ∈ later, entry.releases = false)
    (buffer : Buffer) (bytes : Bytes) (back : Option Bytes) (earlier : List Entry) :
    tenancy (later ++ .bufferSet buffer bytes back :: earlier) =
      some ⟨buffer, bytes, payloads later⟩ := by
  rw [tenancy_append h]
  simp [tenancy]

theorem mem_windows_cons {window : Window} {journal : List Entry} (h : window ∈ windows journal)
    (entry : Entry) : window ∈ windows (entry :: journal) := by
  obtain ⟨found, hfound, hwindow⟩ := List.mem_filterMap.mp h
  exact List.mem_filterMap.mpr ⟨found, List.mem_cons_of_mem _ hfound, hwindow⟩

theorem mem_windows_of_tenancy {journal : List Entry} {window : Window}
    (h : (tenancy journal).bind (·.buffer.window?) = some window) : window ∈ windows journal := by
  induction journal with
  | nil => cases h
  | cons entry journal ih =>
      cases hstays : entry.releases with
      | false =>
          rw [tenancy_cons_of_stays hstays, Option.bind_map] at h
          exact mem_windows_cons (ih h) entry
      | true =>
          cases entry with
          | bufferSet buffer bytes back =>
              cases buffer with
              | owned bytes => cases h
              | window registered =>
                  cases h
                  exact List.mem_cons_self
          | installed requests succeeded => cases h
          | bufferTaken back => cases h
          | registered request answer => cases hstays
          | countersReset => cases hstays
          | dispatched made => cases hstays

theorem tenancy_cons_of_silent {entry : Entry} (hstays : entry.releases = false)
    (hsilent : entry.payload? = none) (journal : List Entry) :
    tenancy (entry :: journal) = tenancy journal := by
  rw [tenancy_cons_of_stays hstays, hsilent]
  cases h : tenancy journal <;> simp

theorem tenancy_dispatched {made : Dispatched} {frame : Frame} (h : made.accepted = some frame)
    (journal : List Entry) :
    tenancy (.dispatched made :: journal) = (tenancy journal).map fun held =>
      { held with payloads := held.payloads ++ [frame.payload] } := by
  rw [tenancy_cons_of_stays rfl, payload?, h]
  rfl

theorem payloadsInto_cons_of_silent {entry : Entry} (h : entry.payload? = none) (window : Window)
    (journal : List Entry) :
    payloadsInto window (entry :: journal) = payloadsInto window journal := by
  rw [payloadsInto, h]
  split <;> exact List.append_nil _

theorem payloadsInto_dispatched {made : Dispatched} {frame : Frame}
    (h : made.accepted = some frame) (window : Window) (journal : List Entry) :
    payloadsInto window (.dispatched made :: journal) =
      if (tenancy journal).bind (·.buffer.window?) = some window then
        payloadsInto window journal ++ [frame.payload]
      else payloadsInto window journal := by
  rw [payloadsInto, payload?, h]
  split
  · rfl
  · exact List.append_nil _

def Faithful (journal : List Entry) : Prop :=
  ∀ entry earlier answer, entry :: earlier <:+ journal → entry.handedBack = some answer →
    answer = (tenancy earlier).map Tenancy.contents

theorem faithful_cons {entry : Entry} {journal : List Entry} (h : Faithful journal)
    (first : ∀ answer, entry.handedBack = some answer →
      answer = (tenancy journal).map Tenancy.contents) : Faithful (entry :: journal) := by
  intro found earlier answer hfound hback
  rcases List.suffix_cons_iff.mp hfound with same | before
  · cases same
    exact first answer hback
  · exact h found earlier answer before hback

end Entry

/-! ## The registered buffer of a course -/

namespace Course

structure Traced (course : Course) : Prop where
  registered : course.dispatcher.inbox.registered =
    (Entry.tenancy course.journal).map Tenancy.contents
  window : course.dispatcher.inbox.window? =
    (Entry.tenancy course.journal).bind (·.buffer.window?)
  faithful : Entry.Faithful course.journal

theorem traced_start (region : Bytes) (bench : Bench) : (start region bench).Traced := by
  refine ⟨rfl, rfl, ?_⟩
  intro entry earlier answer h
  have short := h.length_le
  simp [start] at short

theorem Traced.cons_of_silent {course next : Course} {entry : Entry} (h : course.Traced)
    (hstays : entry.releases = false) (hsilent : entry.payload? = none)
    (hinbox : next.dispatcher.inbox = course.dispatcher.inbox)
    (hjournal : next.journal = entry :: course.journal) : next.Traced := by
  have same := Entry.tenancy_cons_of_silent hstays hsilent course.journal
  constructor
  · rw [hinbox, hjournal, same]
    exact h.registered
  · rw [hinbox, hjournal, same]
    exact h.window
  · rw [hjournal]
    apply Entry.faithful_cons h.faithful
    intro answer hback
    rw [Entry.handedBack_of_stays hstays] at hback
    cases hback

theorem inbox_install {δ β ε : Type} [Driver δ β ε] (course : Course) (driver : δ) (board : β) :
    (course.install driver board).dispatcher.inbox = course.dispatcher.inbox.clear := by
  change (course.dispatcher.install driver board course.bench).dispatcher.inbox = _
  rw [Dispatcher.dispatcher_install]
  rfl

theorem inbox_dispatch (course : Course) (event : Event) :
    (course.dispatch event).dispatcher.inbox =
      (course.dispatcher.observe event course.bench).accepted.elim course.dispatcher.inbox
        fun frame => (course.dispatcher.inbox.fill frame.payload).1 :=
  course.dispatcher.inbox_dispatch event course.bench

theorem Traced.dispatch {course : Course} (h : course.Traced) (event : Event) :
    (course.dispatch event).Traced := by
  have inbox := course.inbox_dispatch event
  cases haccepted : (course.dispatcher.observe event course.bench).accepted with
  | none =>
      rw [haccepted] at inbox
      refine h.cons_of_silent rfl ?_ inbox rfl
      rw [Entry.payload?, haccepted]
      rfl
  | some frame =>
      rw [haccepted] at inbox
      have tenancy := Entry.tenancy_dispatched haccepted course.journal
      constructor
      · rw [inbox, Option.elim_some, Inbox.registered_fill, h.registered]
        change _ = (Entry.tenancy (.dispatched _ :: course.journal)).map _
        rw [tenancy, Option.map_map, Option.map_map]
        simp [Function.comp_def, Tenancy.contents, overlays_concat]
      · rw [inbox, Option.elim_some, Inbox.window?_fill, h.window]
        change _ = (Entry.tenancy (.dispatched _ :: course.journal)).bind _
        rw [tenancy, Option.bind_map]
        rfl
      · apply Entry.faithful_cons h.faithful
        intro answer hback
        cases hback

theorem invariant_traced : Invariant Traced where
  register course request h := h.cons_of_silent rfl rfl rfl rfl
  install course driver board h := by
    constructor
    · rw [inbox_install]
      rfl
    · rw [inbox_install]
      rfl
    · apply Entry.faithful_cons h.faithful
      intro answer hback
      cases hback
  setBuffer course buffer h := by
    constructor
    · cases buffer <;> rfl
    · rfl
    · apply Entry.faithful_cons h.faithful
      intro answer hback
      cases hback
      exact h.registered
  takeBuffer course h := by
    refine ⟨rfl, rfl, ?_⟩
    apply Entry.faithful_cons h.faithful
    intro answer hback
    cases hback
    exact h.registered
  resetCounters course h := h.cons_of_silent rfl rfl rfl rfl
  dispatch course event h := h.dispatch event
  arrange course change h := ⟨h.registered, h.window, h.faithful⟩

/-! ## The storage region of a course -/

/-- Each window that has no byte in common with another one that was registered holds the frames
that were accepted while it was registered, and the region keeps its length. -/
structure Lent (region : Bytes) (course : Course) : Prop extends Traced course where
  length : course.dispatcher.inbox.region.length = region.length
  read : ∀ window,
    (∀ other ∈ Entry.windows course.journal, window = other ∨ window.Apart other) →
    window.read course.dispatcher.inbox.region =
      overlays (Entry.payloadsInto window course.journal) (window.read region)

theorem lent_start (region : Bytes) (bench : Bench) : (start region bench).Lent region where
  toTraced := traced_start region bench
  length := rfl
  read _ _ := rfl

variable {region : Bytes} {course : Course}

theorem Lent.cons_of_silent {next : Course} {entry : Entry} (h : course.Lent region)
    (traced : next.Traced) (hsilent : entry.payload? = none)
    (hregion : next.dispatcher.inbox.region = course.dispatcher.inbox.region)
    (hjournal : next.journal = entry :: course.journal) : next.Lent region where
  toTraced := traced
  length := by
    rw [hregion]
    exact h.length
  read window compatible := by
    rw [hregion, hjournal, Entry.payloadsInto_cons_of_silent hsilent]
    apply h.read
    intro other hother
    apply compatible
    rw [hjournal]
    exact Entry.mem_windows_cons hother entry

theorem Lent.dispatch (h : course.Lent region) (event : Event) :
    (course.dispatch event).Lent region := by
  have traced := h.toTraced.dispatch event
  have inbox := course.inbox_dispatch event
  cases haccepted : (course.dispatcher.observe event course.bench).accepted with
  | none =>
      rw [haccepted] at inbox
      refine h.cons_of_silent traced ?_ (congrArg Inbox.region inbox) rfl
      rw [Entry.payload?, haccepted]
      rfl
  | some frame =>
      rw [haccepted, Option.elim_some] at inbox
      refine ⟨traced, ?_, ?_⟩
      · rw [inbox, Inbox.length_region_fill]
        exact h.length
      · intro window compatible
        have before := h.read window fun other hother =>
          compatible other (Entry.mem_windows_cons hother _)
        rw [inbox, Inbox.region_fill]
        change _ = overlays (Entry.payloadsInto window (.dispatched _ :: course.journal)) _
        rw [Entry.payloadsInto_dispatched haccepted, ← h.window]
        cases hwindow : course.dispatcher.inbox.window? with
        | none =>
            rw [if_neg nofun]
            exact before
        | some lent =>
            have known : lent ∈ Entry.windows course.journal := by
              apply Entry.mem_windows_of_tenancy
              rw [← h.window]
              exact hwindow
            -- The frame goes into this window, or into one that has no byte in common with it.
            by_cases same : window = lent
            · rw [← same, if_pos rfl, overlays_concat, ← before]
              exact Window.read_write (length_overlay _ _)
            · have apart : window.Apart lent :=
                (compatible lent (Entry.mem_windows_cons known _)).resolve_left same
              rw [if_neg (by simpa using Ne.symm same), ← before]
              exact Window.read_write_of_apart apart (length_overlay _ _)

theorem invariant_lent (region : Bytes) : Invariant (Lent region) where
  register course request h :=
    h.cons_of_silent (invariant_traced.register course request h.toTraced) rfl rfl rfl
  install course driver board h := by
    refine h.cons_of_silent (invariant_traced.install course driver board h.toTraced) rfl ?_ rfl
    rw [inbox_install]
    rfl
  setBuffer course buffer h :=
    h.cons_of_silent (invariant_traced.setBuffer course buffer h.toTraced) rfl rfl rfl
  takeBuffer course h :=
    h.cons_of_silent (invariant_traced.takeBuffer course h.toTraced) rfl rfl rfl
  resetCounters course h :=
    h.cons_of_silent (invariant_traced.resetCounters course h.toTraced) rfl rfl rfl
  dispatch course event h := h.dispatch event
  arrange course change h :=
    ⟨invariant_traced.arrange course change h.toTraced, h.length, h.read⟩

/-! ## Bytes without a registered window -/

def Exposes (inbox : Inbox) (place : Nat) : Prop :=
  ∃ window, inbox.window? = some window ∧ window.Covers place

/-- A byte changes after `base` only where a window covers it that was registered then or later. -/
def Spares (base course : Course) : Prop :=
  ∃ later, course.journal = later ++ base.journal ∧
    ∀ place, ¬ Exposes base.dispatcher.inbox place →
      (∀ window ∈ Entry.windows later, ¬ window.Covers place) →
      ¬ Exposes course.dispatcher.inbox place ∧
        course.dispatcher.inbox.region[place]? = base.dispatcher.inbox.region[place]?

theorem spares_refl (course : Course) : Spares course course :=
  ⟨[], rfl, fun _ hidden _ => ⟨hidden, rfl⟩⟩

variable {base : Course}

theorem Spares.cons {next : Course} {entry : Entry} (h : Spares base course)
    (hjournal : next.journal = entry :: course.journal)
    (hexposes : ∀ place, Exposes next.dispatcher.inbox place →
      Exposes course.dispatcher.inbox place ∨
        ∃ window, entry.window? = some window ∧ window.Covers place)
    (hregion : ∀ place, ¬ Exposes course.dispatcher.inbox place →
      next.dispatcher.inbox.region[place]? = course.dispatcher.inbox.region[place]?) :
    Spares base next := by
  obtain ⟨later, happend, hlater⟩ := h
  refine ⟨entry :: later, by rw [hjournal, happend, List.cons_append], ?_⟩
  intro place hidden uncovered
  obtain ⟨still, same⟩ := hlater place hidden fun window hwindow =>
    uncovered window (Entry.mem_windows_cons hwindow entry)
  constructor
  · intro exposed
    rcases hexposes place exposed with old | ⟨window, hwindow, covers⟩
    · exact still old
    · exact uncovered window (List.mem_filterMap.mpr ⟨entry, List.mem_cons_self, hwindow⟩) covers
  · rw [hregion place still]
    exact same

theorem Spares.dispatch (h : Spares base course) (event : Event) :
    Spares base (course.dispatch event) := by
  have inbox := course.inbox_dispatch event
  cases haccepted : (course.dispatcher.observe event course.bench).accepted with
  | none =>
      rw [haccepted, Option.elim_none] at inbox
      apply h.cons rfl
      · intro place exposed
        rw [inbox] at exposed
        exact .inl exposed
      · intro place _
        rw [inbox]
  | some frame =>
      rw [haccepted, Option.elim_some] at inbox
      apply h.cons rfl
      · intro place exposed
        rw [inbox, Exposes, Inbox.window?_fill] at exposed
        exact .inl exposed
      · intro place hidden
        rw [inbox]
        apply Inbox.getElem?_region_fill
        intro window hwindow covers
        exact hidden ⟨window, hwindow, covers⟩

theorem not_exposes_clear (inbox : Inbox) (place : Nat) : ¬ Exposes inbox.clear place := by
  rintro ⟨window, hwindow, _⟩
  cases hwindow

theorem invariant_spares (base : Course) : Invariant (Spares base) where
  register course request h := h.cons rfl (fun _ => .inl) fun _ _ => rfl
  install course driver board h := by
    apply h.cons rfl
    · intro place exposed
      rw [inbox_install] at exposed
      exact absurd exposed (not_exposes_clear _ place)
    · intro place _
      rw [inbox_install]
      rfl
  setBuffer course buffer h := by
    apply h.cons rfl
    · rintro place ⟨window, hwindow, covers⟩
      cases buffer with
      | owned bytes => cases hwindow
      | window lent => exact .inr ⟨window, hwindow, covers⟩
    · intro place _
      rfl
  takeBuffer course h := by
    apply h.cons rfl
    · intro place exposed
      exact absurd exposed (not_exposes_clear _ place)
    · intro place _
      rfl
  resetCounters course h := h.cons rfl (fun _ => .inl) fun _ _ => rfl
  dispatch course event h := h.dispatch event
  arrange course change h := h

end Course

/-! ## Buffers of a course -/

/-- After every course a registered buffer, and each buffer when it was handed back, holds the
frames that were accepted while it was registered, laid over the bytes that it had before.  A byte
of the region changes only while a window that covers it is registered, and each window of a cut
holds the frames that were accepted while it was registered. -/
theorem Course.buffers_receive (region : Bytes) (bench : Bench) (operations : List Operation) :
    let course := (start region bench).run operations
    let inbox := course.dispatcher.inbox
    (∀ payload bytes, overlay payload bytes =
      payload.take (min payload.length bytes.length) ++
        bytes.drop (min payload.length bytes.length)) ∧
    (∀ later buffer bytes back earlier,
      course.journal = later ++ .bufferSet buffer bytes back :: earlier →
      (∀ entry ∈ later, entry.releases = false) →
      inbox.registered = some (overlays (Entry.payloads later) bytes) ∧
        (overlays (Entry.payloads later) bytes).length = bytes.length) ∧
    (∀ entry answer later buffer bytes back earlier,
      entry :: (later ++ .bufferSet buffer bytes back :: earlier) <:+ course.journal →
      (∀ other ∈ later, other.releases = false) →
      entry.handedBack = some answer →
      answer = some (overlays (Entry.payloads later) bytes)) ∧
    (∀ more, Spares course (course.run more)) ∧
    inbox.region.length = region.length ∧
    (∀ place, (∀ window ∈ Entry.windows course.journal, ¬ window.Covers place) →
      inbox.region[place]? = region[place]?) ∧
    (∀ lengths, (∀ window ∈ Entry.windows course.journal, window ∈ Window.cut 0 lengths) →
      ∀ window ∈ Window.cut 0 lengths,
        window.read inbox.region =
          overlays (Entry.payloadsInto window course.journal) (window.read region)) := by
  intro course inbox
  have lent : course.Lent region :=
    (invariant_lent region).run (lent_start region bench) operations
  have spared : Spares (start region bench) course :=
    (invariant_spares _).run (spares_refl _) operations
  refine ⟨overlay_eq_min, ?_, ?_, ?_, lent.length, ?_, ?_⟩
  · intro later buffer bytes back earlier hjournal stays
    refine ⟨?_, length_overlays _ _⟩
    rw [lent.registered, hjournal, Entry.tenancy_set stays]
    rfl
  · intro entry answer later buffer bytes back earlier hjournal stays hback
    rw [lent.faithful entry _ answer hjournal hback, Entry.tenancy_set stays]
    rfl
  · intro more
    exact (invariant_spares course).run (spares_refl course) more
  · intro place uncovered
    obtain ⟨later, hjournal, hlater⟩ := spared
    have same : course.journal = later := by
      rw [hjournal]
      exact List.append_nil later
    rw [same] at uncovered
    exact (hlater place (fun ⟨_, hwindow, _⟩ => nomatch hwindow) uncovered).2
  · intro lengths known window hwindow
    apply lent.read
    intro other hother
    exact Window.eq_or_apart_of_mem_cut hwindow (known other hother)

theorem Course.buffers_receive_cut :
    let probe : Script := { id := "probe", runs :=
      [[.report (.rxDone ⟨[1, 2, 3, 4, 5], 0, 0⟩), .report (.rxDone ⟨[8, 8], 0, 0⟩)],
        [.report (.rxDone ⟨[9], 0, 0⟩)]] }
    let filled := (start [0, 0, 0, 0, 0, 0] {}).run
      [.register (.line 2 probe.handler), .setBuffer (.window ⟨0, 4⟩), .dispatch (.line 2),
        .dispatch (.line 2)]
    let taken := filled.run [.takeBuffer]
    filled.dispatcher.inbox.registered = some [9, 2, 3, 4] ∧
      taken.journal.head?.bind Entry.handedBack = some (some [9, 2, 3, 4]) ∧
      (taken.run [.dispatch (.line 2)]).dispatcher.inbox.region[0]? = some 9 ∧
      filled.dispatcher.inbox.region[5]? = some 0 ∧
      Window.read ⟨4, 2⟩ filled.dispatcher.inbox.region = [0, 0] := by
  intro probe filled taken
  obtain ⟨_, held, _, _, _, outside, cut⟩ := buffers_receive [0, 0, 0, 0, 0, 0] {}
    [.register (.line 2 probe.handler), .setBuffer (.window ⟨0, 4⟩), .dispatch (.line 2),
      .dispatch (.line 2)]
  obtain ⟨_, _, back, spared, _, _, _⟩ := buffers_receive [0, 0, 0, 0, 0, 0] {}
    [.register (.line 2 probe.handler), .setBuffer (.window ⟨0, 4⟩), .dispatch (.line 2),
      .dispatch (.line 2), .takeBuffer]
  have journal : filled.journal = filled.journal.take 2 ++
      .bufferSet (.window ⟨0, 4⟩) [0, 0, 0, 0] none :: filled.journal.drop 3 := rfl
  have stays : ∀ entry ∈ filled.journal.take 2, entry.releases = false := by
    intro entry hentry
    have all : (filled.journal.take 2).all (!·.releases) = true := rfl
    simpa using List.all_eq_true.mp all entry hentry
  have windows : Entry.windows filled.journal = [⟨0, 4⟩] := rfl
  refine ⟨(held _ _ _ _ _ journal stays).1, ?_, ?_, ?_, ?_⟩
  · have answer := back _ _ (filled.journal.take 2) (.window ⟨0, 4⟩) [0, 0, 0, 0] none
      (filled.journal.drop 3) (List.suffix_refl taken.journal) stays rfl
    exact congrArg some answer
  · obtain ⟨later, hjournal, hlater⟩ := spared [.dispatch (.line 2)]
    have opened : (taken.run [.dispatch (.line 2)]).journal =
        (taken.run [.dispatch (.line 2)]).journal.take 1 ++ taken.journal := rfl
    have one : (taken.run [.dispatch (.line 2)]).journal.take 1 = later :=
      List.append_cancel_right (opened.symm.trans hjournal)
    have empty : Entry.windows later = [] := by
      rw [← one]
      rfl
    rw [empty] at hlater
    have nine : taken.dispatcher.inbox.region[0]? = some 9 := rfl
    exact (hlater 0 (not_exposes_clear _ 0) nofun).2.trans nine
  · refine outside 5 ?_
    rw [windows]
    simp [Window.Covers]
  · refine cut [4, 2] ?_ ⟨4, 2⟩ (by decide)
    rw [windows]
    decide

end RadioInterrupt
