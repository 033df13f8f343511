import XochiSdk.Library.Traces
import XochiSdk.Solver.EventFeed

/-!
# The feed's cursor

The cursor passes a batch only once each of its entries is done with: an event once the consumer
has asked for the next one, any other entry once it was reported. A run that stops before that
leaves the cursor where it was, and the next one asks by it again.
-/

namespace XochiSdk.Solver.Feed

open XochiSdk.Library

variable {Raw Event : Type}

abbrev FeedHistory (Raw : Type) : Type := List (FeedMark Raw)

/-! ## Histories -/

/-- The cursor that a mark leaves. -/
def FeedMark.cursorAfter (cursor : String) : FeedMark Raw → String
  | .advanced batch => batch.cursor
  | _ => cursor

/-- The cursor after a history that started at `since`. -/
def lastCursor (since : String) (h : FeedHistory Raw) : String :=
  h.foldl FeedMark.cursorAfter since

/-- The listeners that a mark leaves. -/
def FeedMark.listenersAfter (audience : Audience) (listeners : List Nat) : FeedMark Raw → List Nat
  | .subscribed other listener => if other = audience then listeners ++ [listener] else listeners
  | .unsubscribed other listener =>
    if other = audience then listeners.filter (· ≠ listener) else listeners
  | _ => listeners

/-- The listeners subscribed after a history. -/
def listening (audience : Audience) (h : FeedHistory Raw) : List Nat :=
  h.foldl (FeedMark.listenersAfter audience) []

def FeedMark.warnedKey : FeedMark Raw → Option (List UInt16)
  | .skipped _ _ (.warning key) => some key
  | _ => none

/-- The unknown types warned about. -/
def warnedKeys (h : FeedHistory Raw) : List (List UInt16) := h.filterMap FeedMark.warnedKey

/-- Every listener subscribed when the topic was told has heard of it. -/
def Told (h : FeedHistory Raw) (topic : Topic Raw) : Prop :=
  ∃ a b, h = a ++ .told topic :: b ∧
    ∀ listener ∈ listening topic.audience a, FeedMark.heard topic listener ∈ a

/-- The last warning was given. -/
def LastWarned (h : FeedHistory Raw) : Prop :=
  ∃ batch i, FeedMark.skipped batch i .lastWarning ∈ h

/-- How an entry of an unknown type is skipped after a history: by the handler where there is one;
else by the type's one warning while fewer than the cap were given, by the one last warning at the
cap, and in silence after either. -/
def Noticed (opts : FeedOptions Raw Event) (h : FeedHistory Raw) (type : List UInt16) :
    Notice → Prop
  | .handler => opts.onInvalidEvent = true
  | .warning key => opts.onInvalidEvent = false ∧ key = type.take 64 ∧ key ∉ warnedKeys h ∧
      (warnedKeys h).length < maxWarnedUnknownTypes
  | .lastWarning => opts.onInvalidEvent = false ∧ type.take 64 ∉ warnedKeys h ∧
      maxWarnedUnknownTypes ≤ (warnedKeys h).length ∧ ¬LastWarned h
  | .silent => opts.onInvalidEvent = false ∧ (type.take 64 ∈ warnedKeys h ∨ LastWarned h)

/-- The entry at `i` may be skipped so after a history: it is of an unknown type that every
listener was told of, or it is invalid and the handler took it. -/
def Skips (opts : FeedOptions Raw Event) (h : FeedHistory Raw) (batch : FeedBatch Raw) (i : Nat)
    (notice : Notice) : Prop :=
  ∃ raw, batch.events[i]? = some raw ∧
    match opts.parseSolverEvent raw with
    | .event _ => False
    | .unknownType type => Told h (.unknown batch i type) ∧ Noticed opts h type notice
    | .invalid => notice = .handler ∧ opts.onInvalidEvent = true

/-- An entry is done with: an event was yielded and the next one asked for, and any other entry
was skipped, an invalid one through the handler. -/
def Disposed (opts : FeedOptions Raw Event) (h : FeedHistory Raw) (batch : FeedBatch Raw) (i : Nat)
    (raw : Raw) : Prop :=
  match opts.parseSolverEvent raw with
  | .event _ => FeedMark.yielded batch i ∈ h ∧ FeedMark.resumed batch i ∈ h
  | .unknownType type => Told h (.unknown batch i type) ∧
      ∃ notice, FeedMark.skipped batch i notice ∈ h
  | .invalid => FeedMark.skipped batch i .handler ∈ h ∧ opts.onInvalidEvent = true

/-- Every entry before the `i`th is done with. -/
def DisposedTo (opts : FeedOptions Raw Event) (h : FeedHistory Raw) (batch : FeedBatch Raw)
    (i : Nat) : Prop :=
  ∀ j < i, ∀ raw, batch.events[j]? = some raw → Disposed opts h batch j raw

/-- A gap or reset of the batch has reached the handler and every listener. -/
def GapTold (opts : FeedOptions Raw Event) (h : FeedHistory Raw) (batch : FeedBatch Raw) : Prop :=
  batch.gap = true →
    (opts.onFeedGap = true → FeedMark.gapHandled batch ∈ h) ∧ Told h (.gap batch)

/-- What an event is yielded after. -/
structure InOrder (opts : FeedOptions Raw Event) (h : FeedHistory Raw) (batch : FeedBatch Raw)
    (i : Nat) : Prop where
  isEvent : ∃ raw event, batch.events[i]? = some raw ∧ opts.parseSolverEvent raw = .event event
  earlier : DisposedTo opts h batch i
  once : FeedMark.yielded batch i ∉ h
  gap : GapTold opts h batch

/-- The law of a history: a request carries the cursor of the last batch that was passed, no batch
is passed before all its entries are done with, and none is skipped that need not be or by another
notice than its own. -/
structure AtLeastOnce (opts : FeedOptions Raw Event) (since : String) (h : FeedHistory Raw) :
    Prop where
  asked : ∀ cursor, Preceded (· = .asked cursor) (fun before => cursor = lastCursor since before) h
  received : ∀ batch, Preceded (· = .received batch)
    (fun before => batch.requestedCursor = lastCursor since before) h
  yielded : ∀ batch i, Preceded (· = .yielded batch i)
    (fun before => InOrder opts before batch i) h
  skipped : ∀ batch i notice, Preceded (· = .skipped batch i notice)
    (fun before => Skips opts before batch i notice) h
  advanced : ∀ batch, Preceded (· = .advanced batch)
    (fun before => DisposedTo opts before batch batch.events.length) h

/-! ## One mark more -/

section

variable {opts : FeedOptions Raw Event} {h : FeedHistory Raw} {m : FeedMark Raw}
  {batch : FeedBatch Raw} {i : Nat}

theorem lastCursor_snoc (since : String) :
    lastCursor since (h ++ [m]) = m.cursorAfter (lastCursor since h) := by
  unfold lastCursor
  rw [List.foldl_append]
  rfl

theorem listening_snoc (audience : Audience) :
    listening audience (h ++ [m]) = m.listenersAfter audience (listening audience h) := by
  unfold listening
  rw [List.foldl_append]
  rfl

theorem warnedKeys_snoc : warnedKeys (h ++ [m]) = warnedKeys h ++ m.warnedKey.toList := by
  unfold warnedKeys
  rw [List.filterMap_append]
  cases key : m.warnedKey <;> simp [key]

theorem Told.snoc {topic : Topic Raw} (told : Told h topic) : Told (h ++ [m]) topic := by
  obtain ⟨a, b, rfl, heard⟩ := told
  exact ⟨a, b ++ [m], by simp, heard⟩

theorem lastWarned_snoc :
    LastWarned (h ++ [m]) ↔ LastWarned h ∨ ∃ batch i, m = .skipped batch i .lastWarning := by
  unfold LastWarned
  constructor
  · rintro ⟨batch, i, mem⟩
    rcases List.mem_append.mp mem with before | last
    · exact .inl ⟨batch, i, before⟩
    · exact .inr ⟨batch, i, (List.mem_singleton.mp last).symm⟩
  · rintro (⟨batch, i, mem⟩ | ⟨batch, i, rfl⟩)
    · exact ⟨batch, i, List.mem_append_left _ mem⟩
    · exact ⟨batch, i, List.mem_append_right _ List.mem_cons_self⟩

theorem Disposed.snoc {raw : Raw} (disposed : Disposed opts h batch i raw) :
    Disposed opts (h ++ [m]) batch i raw := by
  unfold Disposed at disposed ⊢
  split at disposed
  · exact ⟨List.mem_append_left _ disposed.1, List.mem_append_left _ disposed.2⟩
  · obtain ⟨told, notice, skipped⟩ := disposed
    exact ⟨told.snoc, notice, List.mem_append_left _ skipped⟩
  · exact ⟨List.mem_append_left _ disposed.1, disposed.2⟩

theorem DisposedTo.snoc (disposed : DisposedTo opts h batch i) :
    DisposedTo opts (h ++ [m]) batch i :=
  fun j less raw at_ => (disposed j less raw at_).snoc

/-- One entry further. -/
theorem DisposedTo.next (disposed : DisposedTo opts h batch i)
    (last : ∀ raw, batch.events[i]? = some raw → Disposed opts h batch i raw) :
    DisposedTo opts h batch (i + 1) := by
  intro j less raw at_
  rcases Nat.lt_succ_iff_lt_or_eq.mp less with less | rfl
  · exact disposed j less raw at_
  · exact last raw at_

theorem GapTold.snoc (told : GapTold opts h batch) : GapTold opts (h ++ [m]) batch := by
  intro gap
  obtain ⟨handled, told⟩ := told gap
  exact ⟨fun given => List.mem_append_left _ (handled given), told.snoc⟩

theorem AtLeastOnce.snoc {since : String} (law : AtLeastOnce opts since h)
    (asked : ∀ cursor, m = .asked cursor → cursor = lastCursor since h)
    (received : ∀ batch, m = .received batch → batch.requestedCursor = lastCursor since h)
    (yielded : ∀ batch i, m = .yielded batch i → InOrder opts h batch i)
    (skipped : ∀ batch i notice, m = .skipped batch i notice → Skips opts h batch i notice)
    (advanced : ∀ batch, m = .advanced batch →
      DisposedTo opts h batch batch.events.length) : AtLeastOnce opts since (h ++ [m]) where
  asked cursor := (law.asked cursor).snoc (asked cursor)
  received batch := (law.received batch).snoc (received batch)
  yielded batch i := (law.yielded batch i).snoc (yielded batch i)
  skipped batch i notice := (law.skipped batch i notice).snoc (skipped batch i notice)
  advanced batch := (law.advanced batch).snoc (advanced batch)

end

/-! ## What a feed keeps -/

namespace EventFeed

variable (opts : FeedOptions Raw Event)

/-- What the feed knows is what has happened. -/
structure Kept (since : String) (s : EventFeed Raw) : Prop where
  cursor : s.cursor = lastCursor since s.history
  listeners : ∀ audience, s.listeners audience = listening audience s.history
  warned : s.warnedUnknownTypes = warnedKeys s.history
  capped : s.unknownTypeWarningsCapped = true ↔ LastWarned s.history
  placed : ∀ batch i, FeedMark.yielded batch i ∈ s.history → batch.place < s.batches
  law : AtLeastOnce opts since s.history

/-- The batch is being read: it is done with up to `i`, and nothing from `n` on was yielded. -/
structure Reading (s : EventFeed Raw) (batch : FeedBatch Raw) (i n : Nat) : Prop where
  current : batch.requestedCursor = s.cursor
  placed : batch.place < s.batches
  earlier : DisposedTo opts s.history batch i
  fresh : ∀ j, FeedMark.yielded batch j ∈ s.history → j < n

/-- The entry at `i` parses so. -/
def Parses (batch : FeedBatch Raw) (i : Nat) (parsed : Parsed Event) : Prop :=
  ∃ raw, batch.events[i]? = some raw ∧ opts.parseSolverEvent raw = parsed

/-- What holds where the generator stands. -/
def Stands (s : EventFeed Raw) : FeedPhase Raw → Prop
  | .stopped | .loop => True
  | .sent cursor => cursor = s.cursor
  | .gapHandler batch => Reading opts s batch 0 0
  | .telling (.gap batch) done => Reading opts s batch 0 0 ∧
      (opts.onFeedGap = true → FeedMark.gapHandled batch ∈ s.history) ∧
      ∀ listener ∈ done, FeedMark.heard (.gap batch) listener ∈ s.history
  | .telling (.unknown batch i type) done => Reading opts s batch i i ∧
      GapTold opts s.history batch ∧ Parses opts batch i (.unknownType type) ∧
      ∀ listener ∈ done, FeedMark.heard (.unknown batch i type) listener ∈ s.history
  | .entry batch i => Reading opts s batch i i ∧ GapTold opts s.history batch
  | .invalidHandler batch i => Reading opts s batch i i ∧ GapTold opts s.history batch ∧
      opts.onInvalidEvent = true ∧ (Parses opts batch i .invalid ∨
        ∃ type, Parses opts batch i (.unknownType type) ∧
          Told s.history (.unknown batch i type))
  | .yielded batch i => Reading opts s batch i (i + 1) ∧ GapTold opts s.history batch ∧
      FeedMark.yielded batch i ∈ s.history ∧
      ∃ event, Parses opts batch i (.event event)

/-- The invariant of a feed. -/
def Holds (since : String) (s : EventFeed Raw) : Prop := Kept opts since s ∧ Stands opts s s.phase

/-- A mark that no set and no cursor is read from. -/
structure Calm (m : FeedMark Raw) : Prop where
  cursor : ∀ cursor, m.cursorAfter cursor = cursor
  listeners : ∀ audience listeners, m.listenersAfter audience listeners = listeners
  unskipped : ∀ batch i notice, m ≠ .skipped batch i notice

section

variable {opts} {since : String} {s s' : EventFeed Raw} {m : FeedMark Raw}
  {batch : FeedBatch Raw} {i n n' : Nat}

@[simp] theorem goes_nil (phase : FeedPhase Raw) : s.goes phase [] = { s with phase := phase } := by
  simp [goes]

theorem Calm.key (calm : Calm m) : m.warnedKey = none := by
  cases m with
  | skipped batch i notice => exact absurd rfl (calm.unskipped batch i notice)
  | _ => rfl

theorem Kept.phase (kept : Kept opts since s) (phase : FeedPhase Raw) :
    Kept opts since { s with phase := phase } := ⟨kept.1, kept.2, kept.3, kept.4, kept.5, kept.6⟩

/-- A calm mark, of a step that meets the law. -/
theorem Kept.goes (kept : Kept opts since s) (phase : FeedPhase Raw) (calm : Calm m)
    (asked : ∀ cursor, m = .asked cursor → cursor = s.cursor)
    (received : ∀ batch, m = .received batch → batch.requestedCursor = s.cursor)
    (yielded : ∀ batch i, m = .yielded batch i →
      InOrder opts s.history batch i ∧ batch.place < s.batches) :
    Kept opts since (s.goes phase [m]) where
  cursor := by
    change s.cursor = lastCursor since (s.history ++ [m])
    rw [lastCursor_snoc, calm.cursor, kept.cursor]
  listeners audience := by
    change s.listeners audience = listening audience (s.history ++ [m])
    rw [listening_snoc, calm.listeners, kept.listeners]
  warned := by
    change s.warnedUnknownTypes = warnedKeys (s.history ++ [m])
    rw [warnedKeys_snoc, calm.key, kept.warned]
    simp
  capped := by
    change s.unknownTypeWarningsCapped = true ↔ LastWarned (s.history ++ [m])
    rw [lastWarned_snoc, kept.capped]
    exact (or_iff_left fun ⟨batch, i, same⟩ => calm.unskipped batch i _ same).symm
  placed batch i mem := by
    rcases List.mem_append.mp mem with mem | mem
    · exact kept.placed batch i mem
    · exact (yielded batch i (List.mem_singleton.mp mem).symm).2
  law := by
    refine kept.law.snoc ?_ ?_ (fun batch i same => (yielded batch i same).1)
      (fun batch i notice same => absurd same (calm.unskipped batch i notice)) ?_
    · rw [← kept.cursor]
      exact asked
    · rw [← kept.cursor]
      exact received
    · rintro batch rfl
      have moved := calm.cursor (batch.cursor ++ "0")
      have := congrArg String.length moved
      simp [FeedMark.cursorAfter] at this

/-- A calm mark that no law is about. -/
theorem Kept.goes_other (kept : Kept opts since s) (phase : FeedPhase Raw) (calm : Calm m)
    (other : ∀ cursor, m ≠ .asked cursor) (other' : ∀ batch, m ≠ .received batch)
    (other'' : ∀ batch i, m ≠ .yielded batch i) : Kept opts since (s.goes phase [m]) :=
  kept.goes phase calm (fun cursor same => absurd same (other cursor))
    (fun batch same => absurd same (other' batch))
    (fun batch i same => absurd same (other'' batch i))

theorem Reading.moved (reading : Reading opts s batch i n) (cursor : s'.cursor = s.cursor)
    (batches : s'.batches = s.batches) (history : s'.history = s.history ++ [m])
    (fresh : ∀ j, m = .yielded batch j → j < n') (wider : n ≤ n') :
    Reading opts s' batch i n' where
  current := by rw [cursor, reading.current]
  placed := by
    rw [batches]
    exact reading.placed
  earlier := by
    rw [history]
    exact reading.earlier.snoc
  fresh j mem := by
    rw [history] at mem
    rcases List.mem_append.mp mem with mem | mem
    · exact Nat.lt_of_lt_of_le (reading.fresh j mem) wider
    · exact fresh j (List.mem_singleton.mp mem).symm

/-- A mark that yields nothing keeps a batch being read. -/
theorem Reading.goes (reading : Reading opts s batch i n) (phase : FeedPhase Raw)
    (other : ∀ batch j, m ≠ .yielded batch j) : Reading opts (s.goes phase [m]) batch i n :=
  reading.moved rfl rfl rfl (fun j same => absurd same (other batch j)) (Nat.le_refl n)

/-- The entry at `i` is done with too. -/
theorem Reading.next (reading : Reading opts s batch i n)
    (last : ∀ raw, batch.events[i]? = some raw → Disposed opts s.history batch i raw) :
    Reading opts s batch (i + 1) n :=
  ⟨reading.current, reading.placed, reading.earlier.next last, reading.fresh⟩

theorem Reading.wider (reading : Reading opts s batch i n) (wider : n ≤ n') :
    Reading opts s batch i n' :=
  ⟨reading.current, reading.placed, reading.earlier,
    fun j mem => Nat.lt_of_lt_of_le (reading.fresh j mem) wider⟩

/-- A mark of a set, which yields nothing, changes nothing where the generator stands. -/
theorem Stands.moved {phase : FeedPhase Raw} (stands : Stands opts s phase)
    (cursor : s'.cursor = s.cursor) (batches : s'.batches = s.batches)
    (history : s'.history = s.history ++ [m]) (other : ∀ batch j, m ≠ .yielded batch j) :
    Stands opts s' phase := by
  have reads {batch : FeedBatch Raw} {i n : Nat} (reading : Reading opts s batch i n) :
      Reading opts s' batch i n :=
    reading.moved cursor batches history (fun j same => absurd same (other batch j)) (Nat.le_refl n)
  have later {m' : FeedMark Raw} (mem : m' ∈ s.history) : m' ∈ s'.history := by
    rw [history]
    exact List.mem_append_left _ mem
  have gapped {batch : FeedBatch Raw} (gap : GapTold opts s.history batch) :
      GapTold opts s'.history batch := by
    rw [history]
    exact gap.snoc
  cases phase with
  | stopped => trivial
  | loop => trivial
  | sent requested => exact Eq.trans stands cursor.symm
  | gapHandler batch => exact reads stands
  | telling topic done =>
    cases topic with
    | gap batch =>
      obtain ⟨reading, handled, heard⟩ := stands
      exact ⟨reads reading, fun given => later (handled given),
        fun listener mem => later (heard listener mem)⟩
    | unknown batch i type =>
      obtain ⟨reading, gap, parses, heard⟩ := stands
      exact ⟨reads reading, gapped gap, parses, fun listener mem => later (heard listener mem)⟩
  | entry batch i => exact ⟨reads stands.1, gapped stands.2⟩
  | invalidHandler batch i =>
    obtain ⟨reading, gap, given, parses⟩ := stands
    refine ⟨reads reading, gapped gap, given, ?_⟩
    rcases parses with parses | ⟨type, parses, told⟩
    · exact .inl parses
    · refine .inr ⟨type, parses, ?_⟩
      rw [history]
      exact told.snoc
  | yielded batch i =>
    obtain ⟨reading, gap, yielded, parses⟩ := stands
    exact ⟨reads reading, gapped gap, later yielded, parses⟩

/-! ## One step -/

theorem Kept.subscribes (kept : Kept opts since s) (audience : Audience) (listener : Nat) :
    Kept opts since
      { s with
        listeners := Function.update s.listeners audience (s.listeners audience ++ [listener])
        history := s.history ++ [.subscribed audience listener] } where
  cursor := by
    rw [lastCursor_snoc, kept.cursor]
    rfl
  listeners other := by
    rw [listening_snoc, ← kept.listeners]
    by_cases same : audience = other
    · subst same
      simp [FeedMark.listenersAfter]
    · simp [FeedMark.listenersAfter, same, Function.update_of_ne (Ne.symm same)]
  warned := by
    rw [warnedKeys_snoc, kept.warned]
    simp [FeedMark.warnedKey]
  capped := by
    rw [lastWarned_snoc, kept.capped]
    exact (or_iff_left nofun).symm
  placed batch i mem := kept.placed batch i (by simpa using mem)
  law := kept.law.snoc nofun nofun nofun nofun nofun

theorem Kept.unsubscribes (kept : Kept opts since s) (audience : Audience) (listener : Nat)
    (phase : FeedPhase Raw) :
    Kept opts since
      { s with
        listeners :=
          Function.update s.listeners audience ((s.listeners audience).filter (· ≠ listener))
        phase := phase
        history := s.history ++ [.unsubscribed audience listener] } where
  cursor := by
    rw [lastCursor_snoc, kept.cursor]
    rfl
  listeners other := by
    rw [listening_snoc, ← kept.listeners]
    by_cases same : audience = other
    · subst same
      simp [FeedMark.listenersAfter]
    · simp [FeedMark.listenersAfter, same, Function.update_of_ne (Ne.symm same)]
  warned := by
    rw [warnedKeys_snoc, kept.warned]
    simp [FeedMark.warnedKey]
  capped := by
    rw [lastWarned_snoc, kept.capped]
    exact (or_iff_left nofun).symm
  placed batch i mem := kept.placed batch i (by simpa using mem)
  law := kept.law.snoc nofun nofun nofun nofun nofun

/-- A listener that leaves is called again if it comes back: fewer are known to have heard. -/
theorem Stands.unsubscribes {phase : FeedPhase Raw} (stands : Stands opts s phase)
    (audience : Audience) (listener : Nat) :
    Stands opts s (unsubscribePhase audience listener phase) := by
  cases phase with
  | telling topic done =>
    change Stands opts s (if topic.audience = audience then .telling topic
      (done.filter (· ≠ listener)) else .telling topic done)
    by_cases same : topic.audience = audience
    · rw [if_pos same]
      cases topic with
      | gap batch =>
        obtain ⟨reading, handled, heard⟩ := stands
        exact ⟨reading, handled, fun other mem => heard other (List.mem_of_mem_filter mem)⟩
      | unknown batch i type =>
        obtain ⟨reading, gap, parses, heard⟩ := stands
        exact ⟨reading, gap, parses, fun other mem => heard other (List.mem_of_mem_filter mem)⟩
    · rw [if_neg same]
      exact stands
  | _ => exact stands

/-- Nobody is left to tell: every listener has heard. -/
theorem Kept.told (kept : Kept opts since s) {topic : Topic Raw} {done : List Nat}
    (none_ : s.nextListener topic.audience done = none)
    (heard : ∀ listener ∈ done, FeedMark.heard topic listener ∈ s.history) :
    Told (s.history ++ [.told topic]) topic := by
  refine ⟨s.history, [], rfl, ?_⟩
  intro listener mem
  rw [← kept.listeners] at mem
  have called := List.find?_eq_none.mp none_ listener mem
  simp only [Bool.not_eq_true', Bool.not_eq_false, List.contains_iff_mem] at called
  exact heard listener called

/-- An entry is skipped, with whatever is remembered of the warning. -/
theorem Kept.skips (kept : Kept opts since s) (notice : Notice) (warned : List (List UInt16))
    (capped : Bool) (phase : FeedPhase Raw)
    (keys : warned = s.warnedUnknownTypes ++ (FeedMark.skipped batch i notice).warnedKey.toList)
    (last : capped = true ↔ s.unknownTypeWarningsCapped = true ∨ notice = .lastWarning)
    (skips : Skips opts s.history batch i notice) :
    Kept opts since
      { s with
        phase := phase
        warnedUnknownTypes := warned
        unknownTypeWarningsCapped := capped
        history := s.history ++ [.skipped batch i notice] } where
  cursor := by
    rw [lastCursor_snoc, kept.cursor]
    rfl
  listeners audience := by
    rw [listening_snoc, kept.listeners]
    rfl
  warned := by
    rw [warnedKeys_snoc, ← kept.warned]
    exact keys
  capped := by
    rw [lastWarned_snoc, ← kept.capped, last]
    refine or_congr_right ⟨?_, ?_⟩
    · rintro rfl
      exact ⟨batch, i, rfl⟩
    · rintro ⟨_, _, same⟩
      cases same
      rfl
  placed batch i mem := kept.placed batch i (by simpa using mem)
  law := by
    refine kept.law.snoc nofun nofun nofun ?_ nofun
    rintro _ _ _ same
    cases same
    exact skips

/-- Past an entry of an unknown type that everyone was told of. -/
theorem Holds.skips (kept : Kept opts since s) {type : List UInt16} (notice : Notice)
    (warned : List (List UInt16)) (capped : Bool)
    (keys : warned = s.warnedUnknownTypes ++ (FeedMark.skipped batch i notice).warnedKey.toList)
    (last : capped = true ↔ s.unknownTypeWarningsCapped = true ∨ notice = .lastWarning)
    (reading : Reading opts s batch i i) (gap : GapTold opts s.history batch)
    (parses : Parses opts batch i (.unknownType type))
    (told : Told s.history (.unknown batch i type)) (noticed : Noticed opts s.history type notice) :
    Holds opts since
      { s with
        phase := .entry batch (i + 1)
        warnedUnknownTypes := warned
        unknownTypeWarningsCapped := capped
        history := s.history ++ [.skipped batch i notice] } := by
  have skips : Skips opts s.history batch i notice := by
    obtain ⟨raw, at_, parsed⟩ := parses
    refine ⟨raw, at_, ?_⟩
    rw [parsed]
    exact ⟨told, noticed⟩
  refine ⟨kept.skips notice warned capped _ keys last skips, ?_, gap.snoc⟩
  refine Reading.next ?_ ?_
  · exact reading.moved rfl rfl rfl nofun (Nat.le_succ i)
  · intro raw at_
    obtain ⟨raw', at_', parsed⟩ := parses
    rw [at_] at at_'
    cases at_'
    unfold Disposed
    rw [parsed]
    exact ⟨told.snoc, notice, List.mem_append_right _ List.mem_cons_self⟩

theorem Holds.warns (kept : Kept opts since s) {type : List UInt16}
    (unhandled : opts.onInvalidEvent = false) (reading : Reading opts s batch i i)
    (gap : GapTold opts s.history batch) (parses : Parses opts batch i (.unknownType type))
    (told : Told s.history (.unknown batch i type)) :
    Holds opts since (s.warnUnknownType batch i type) := by
  unfold warnUnknownType
  dsimp only
  split
  · next warned =>
    refine Holds.skips kept .silent _ _ (by simp [FeedMark.warnedKey]) (by simp) reading gap
      parses told ⟨unhandled, .inl ?_⟩
    rw [← kept.warned]
    exact List.contains_iff_mem.mp warned
  · next unwarned =>
    have unwarned : type.take 64 ∉ warnedKeys s.history := by
      rw [← kept.warned]
      exact fun mem => unwarned (List.contains_iff_mem.mpr mem)
    split
    · next full =>
      rw [kept.warned] at full
      split
      · next capped =>
        exact Holds.skips kept .silent _ _ (by simp [FeedMark.warnedKey]) (by simp) reading
          gap parses told ⟨unhandled, .inr (kept.capped.mp capped)⟩
      · next uncapped =>
        exact Holds.skips kept .lastWarning _ _ (by simp [FeedMark.warnedKey, goes]) (by simp)
          reading gap parses told
          ⟨unhandled, unwarned, full, fun last => uncapped (kept.capped.mpr last)⟩
    · next room =>
      rw [kept.warned] at room
      exact Holds.skips kept (.warning (type.take 64)) _ _ rfl (by simp [goes]) reading gap parses
        told ⟨unhandled, rfl, unwarned, Nat.lt_of_not_le room⟩

theorem Holds.allTold (kept : Kept opts since s) {topic : Topic Raw} {done : List Nat}
    (stands : Stands opts s (.telling topic done))
    (none_ : s.nextListener topic.audience done = none) :
    Holds opts since (s.allTold opts topic) := by
  cases topic with
  | gap batch =>
    obtain ⟨reading, handled, heard⟩ := stands
    have told := kept.told none_ heard
    refine ⟨kept.goes_other _ ⟨fun _ => rfl, fun _ _ => rfl, nofun⟩ nofun nofun nofun,
      reading.goes _ nofun, ?_⟩
    intro _
    exact ⟨fun given => List.mem_append_left _ (handled given), told⟩
  | unknown batch i type =>
    obtain ⟨reading, gap, parses, heard⟩ := stands
    have told := kept.told none_ heard
    have kept' : Kept opts since
        (s.goes (.invalidHandler batch i) [.told (.unknown batch i type)]) :=
      kept.goes_other _ ⟨fun _ => rfl, fun _ _ => rfl, nofun⟩ nofun nofun nofun
    unfold EventFeed.allTold
    dsimp only
    split
    · next given =>
      exact ⟨kept', reading.goes _ nofun, gap.snoc, given, .inr ⟨type, parses, told⟩⟩
    · next unhandled =>
      exact Holds.warns kept' (by simpa using unhandled) (reading.goes _ nofun) gap.snoc parses told

/-- The cursor passes a batch whose entries are all done with. -/
theorem Kept.advances (kept : Kept opts since s)
    (through : DisposedTo opts s.history batch batch.events.length) :
    Kept opts since { s.goes .loop [.advanced batch] with cursor := batch.cursor } where
  cursor := by
    change _ = lastCursor since (s.history ++ _)
    rw [lastCursor_snoc]
    rfl
  listeners audience := by
    change s.listeners audience = listening audience (s.history ++ _)
    rw [listening_snoc, kept.listeners]
    rfl
  warned := by
    change s.warnedUnknownTypes = warnedKeys (s.history ++ _)
    rw [warnedKeys_snoc, kept.warned]
    simp [FeedMark.warnedKey]
  capped := by
    change s.unknownTypeWarningsCapped = true ↔ LastWarned (s.history ++ _)
    rw [lastWarned_snoc, kept.capped]
    exact (or_iff_left nofun).symm
  placed batch' i mem := by
    have before : FeedMark.yielded batch' i ∈ s.history ++ [.advanced batch] := mem
    exact kept.placed batch' i (by simpa using before)
  law := by
    refine kept.law.snoc nofun nofun nofun nofun ?_
    rintro _ same
    cases same
    exact through

theorem Holds.readEntry (kept : Kept opts since s) (reading : Reading opts s batch i i)
    (gap : GapTold opts s.history batch) : Holds opts since (s.readEntry opts batch i) := by
  unfold EventFeed.readEntry
  split
  · next ended =>
    have through : DisposedTo opts s.history batch batch.events.length := by
      intro j less raw at_
      have bound := List.getElem?_eq_none_iff.mp ended
      exact reading.earlier j (Nat.lt_of_lt_of_le less bound) raw at_
    exact ⟨kept.advances through, trivial⟩
  · next raw at_ =>
    split
    · next event parsed =>
      have inOrder : InOrder opts s.history batch i :=
        ⟨⟨raw, event, at_, parsed⟩, reading.earlier,
          fun mem => absurd (reading.fresh i mem) (Nat.lt_irrefl i), gap⟩
      refine ⟨kept.goes _ ⟨fun _ => rfl, fun _ _ => rfl, nofun⟩ nofun nofun ?_, ?_, gap.snoc,
        List.mem_append_right _ List.mem_cons_self, event, raw, at_, parsed⟩
      · rintro _ _ same
        cases same
        exact ⟨inOrder, reading.placed⟩
      · refine reading.moved rfl rfl rfl ?_ (Nat.le_succ i)
        rintro j same
        cases same
        exact Nat.lt_succ_self i
    · next type parsed =>
      rw [goes_nil]
      exact ⟨kept.phase _, ⟨reading.1, reading.2, reading.3, reading.4⟩, gap, ⟨raw, at_, parsed⟩,
        by simp⟩
    · next parsed =>
      split
      · next given =>
        rw [goes_nil]
        exact ⟨kept.phase _, ⟨reading.1, reading.2, reading.3, reading.4⟩, gap, given,
          .inl ⟨raw, at_, parsed⟩⟩
      · rw [goes_nil]
        exact ⟨kept.phase _, trivial⟩

theorem Holds.receive (kept : Kept opts since s) (batch : FeedBatch Raw)
    (current : batch.requestedCursor = s.cursor) (placed : batch.place = s.batches) :
    Holds opts since (s.receive opts batch) := by
  have kept' (phase : FeedPhase Raw) : Kept opts since
      { s.goes phase [.received batch] with batches := s.batches + 1 } := by
    have one : Kept opts since (s.goes phase [.received batch]) := by
      refine kept.goes _ ⟨fun _ => rfl, fun _ _ => rfl, nofun⟩ nofun ?_ nofun
      rintro _ same
      cases same
      exact current
    exact ⟨one.cursor, one.listeners, one.warned, one.capped,
      fun batch i mem => Nat.lt_succ_of_lt (one.placed batch i mem), one.law⟩
  have reading (phase : FeedPhase Raw) : Reading opts
      { s.goes phase [.received batch] with batches := s.batches + 1 } batch 0 0 := by
    refine ⟨current, ?_, fun j less => absurd less (Nat.not_lt_zero j), ?_⟩
    · change batch.place < s.batches + 1
      omega
    · intro j mem
      have before := kept.placed batch j (by simpa [goes] using mem)
      omega
  unfold EventFeed.receive
  dsimp only
  refine ⟨kept' _, ?_⟩
  by_cases gap : batch.gap = true
  · by_cases given : opts.onFeedGap = true
    · simp only [gap, given, if_true]
      exact reading _
    · simp only [gap, given, if_true]
      exact ⟨reading _, fun given' => absurd given' given, by simp⟩
  · simp only [gap]
    exact ⟨reading _, fun gap' => absurd gap' gap⟩

theorem Holds.returns (kept : Kept opts since s) (stands : Stands opts s s.phase)
    (stepped : s.step opts .returns = some s') : Holds opts since s' := by
  have calm {m : FeedMark Raw} (phase : FeedPhase Raw) (calm : Calm m)
      (other : ∀ cursor, m ≠ .asked cursor) (other' : ∀ batch, m ≠ .received batch)
      (other'' : ∀ batch i, m ≠ .yielded batch i) : Kept opts since (s.goes phase [m]) :=
    kept.goes_other phase calm other other' other''
  unfold EventFeed.step at stepped
  dsimp only at stepped
  split at stepped
  · next batch at_ =>
    cases stepped
    rw [at_] at stands
    have reading : Reading opts s batch 0 0 := stands
    exact ⟨calm _ ⟨fun _ => rfl, fun _ _ => rfl, nofun⟩ nofun nofun nofun, reading.goes _ nofun,
      fun _ => List.mem_append_right _ List.mem_cons_self, by simp⟩
  · next topic done at_ =>
    obtain ⟨listener, -, rfl⟩ := Option.map_eq_some_iff.mp stepped
    rw [at_] at stands
    refine ⟨calm _ ⟨fun _ => rfl, fun _ _ => rfl, nofun⟩ nofun nofun nofun, ?_⟩
    have hears (heard : ∀ other ∈ done, FeedMark.heard topic other ∈ s.history) :
        ∀ other ∈ done ++ [listener],
          FeedMark.heard topic other ∈ s.history ++ [.heard topic listener] := by
      intro other mem
      rcases List.mem_append.mp mem with mem | mem
      · exact List.mem_append_left _ (heard other mem)
      · rw [List.mem_singleton.mp mem]
        exact List.mem_append_right _ List.mem_cons_self
    cases topic with
    | gap batch =>
      obtain ⟨reading, handled, heard⟩ := stands
      exact ⟨reading.goes _ nofun, fun given => List.mem_append_left _ (handled given),
        hears heard⟩
    | unknown batch i type =>
      obtain ⟨reading, gap, parses, heard⟩ := stands
      exact ⟨reading.goes _ nofun, gap.snoc, parses, hears heard⟩
  · next batch i at_ =>
    cases stepped
    rw [at_] at stands
    obtain ⟨reading, gap, given, parses⟩ := stands
    have skips : Skips opts s.history batch i .handler := by
      rcases parses with ⟨raw, at_, parsed⟩ | ⟨type, ⟨raw, at_, parsed⟩, told⟩
      · refine ⟨raw, at_, ?_⟩
        rw [parsed]
        exact ⟨rfl, given⟩
      · refine ⟨raw, at_, ?_⟩
        rw [parsed]
        exact ⟨told, given⟩
    refine ⟨kept.skips .handler _ _ _ (by simp [FeedMark.warnedKey]) (by simp) skips, ?_, gap.snoc⟩
    have moved :
        Reading opts (s.goes (.entry batch (i + 1)) [.skipped batch i .handler]) batch i i :=
      reading.goes _ nofun
    refine (moved.wider (Nat.le_succ i)).next ?_
    intro raw at_
    have skipped : FeedMark.skipped batch i .handler ∈
        s.history ++ [.skipped batch i .handler] :=
      List.mem_append_right _ List.mem_cons_self
    unfold Disposed
    rcases parses with ⟨raw', at_', parsed⟩ | ⟨type, ⟨raw', at_', parsed⟩, told⟩
    · rw [at_] at at_'
      cases at_'
      rw [parsed]
      exact ⟨skipped, given⟩
    · rw [at_] at at_'
      cases at_'
      rw [parsed]
      exact ⟨told.snoc, .handler, skipped⟩
  · next batch i at_ =>
    cases stepped
    rw [at_] at stands
    obtain ⟨reading, gap, yielded, event, raw', at_', parsed⟩ := stands
    refine ⟨calm _ ⟨fun _ => rfl, fun _ _ => rfl, nofun⟩ nofun nofun nofun, ?_, gap.snoc⟩
    have moved : Reading opts (s.goes (.entry batch (i + 1)) [.resumed batch i]) batch i (i + 1) :=
      reading.goes _ nofun
    refine moved.next ?_
    intro raw at_
    rw [at_] at at_'
    cases at_'
    unfold Disposed
    rw [parsed]
    exact ⟨List.mem_append_left _ yielded, List.mem_append_right _ List.mem_cons_self⟩
  · cases stepped

/-- Every step keeps the invariant. -/
theorem Holds.step (holds : Holds opts since s) {input : FeedInput Raw}
    (stepped : s.step opts input = some s') : Holds opts since s' := by
  obtain ⟨kept, stands⟩ := holds
  cases input with
  | subscribe audience listener =>
    unfold EventFeed.step at stepped
    dsimp only at stepped
    split at stepped
    · cases stepped
    · cases stepped
      exact ⟨kept.subscribes audience listener, stands.moved rfl rfl rfl nofun⟩
  | unsubscribe audience listener =>
    cases stepped
    exact ⟨kept.unsubscribes audience listener _,
      (stands.unsubscribes audience listener).moved rfl rfl rfl nofun⟩
  | start =>
    unfold EventFeed.step at stepped
    dsimp only at stepped
    split at stepped
    · cases stepped
      rw [goes_nil]
      exact ⟨kept.phase _, trivial⟩
    · cases stepped
  | turn aborted =>
    unfold EventFeed.step at stepped
    dsimp only at stepped
    split at stepped
    · split at stepped
      · cases stepped
        rw [goes_nil]
        exact ⟨kept.phase _, trivial⟩
      · cases stepped
        refine ⟨kept.goes _ ⟨fun _ => rfl, fun _ _ => rfl, nofun⟩ ?_ nofun nofun, rfl⟩
        rintro _ same
        cases same
        rfl
    · next topic done at_ =>
      split at stepped
      · cases stepped
      · next none_ =>
        cases stepped
        rw [at_] at stands
        exact Holds.allTold kept stands none_
    · next batch i at_ =>
      cases stepped
      rw [at_] at stands
      exact Holds.readEntry kept stands.1 stands.2
    · cases stepped
  | answer events cursor dropped reset =>
    unfold EventFeed.step at stepped
    dsimp only at stepped
    split at stepped
    · next requested at_ =>
      cases stepped
      rw [at_] at stands
      exact Holds.receive kept _ stands rfl
    · cases stepped
  | fail =>
    unfold EventFeed.step at stepped
    dsimp only at stepped
    split at stepped
    · cases stepped
      rw [goes_nil]
      exact ⟨kept.phase _, trivial⟩
    · cases stepped
  | returns => exact Holds.returns kept stands stepped
  | throws =>
    unfold EventFeed.step at stepped
    dsimp only at stepped
    split at stepped
    · cases stepped
      rw [goes_nil]
      exact ⟨kept.phase _, trivial⟩
    · cases stepped
      rw [goes_nil]
      exact ⟨kept.phase _, trivial⟩
    · cases stepped
      rw [goes_nil]
      exact ⟨kept.phase _, trivial⟩
    · obtain ⟨_, -, rfl⟩ := Option.map_eq_some_iff.mp stepped
      rw [goes_nil]
      exact ⟨kept.phase _, trivial⟩
    · cases stepped

theorem start_holds : Holds opts since (start since : EventFeed Raw) := by
  have law : AtLeastOnce opts since ([] : FeedHistory Raw) :=
    ⟨fun _ => .nil, fun _ => .nil, fun _ _ => .nil, fun _ _ _ => .nil, fun _ => .nil⟩
  have uncapped : false = true ↔ LastWarned ([] : FeedHistory Raw) := by
    unfold LastWarned
    simp
  refine ⟨⟨rfl, fun _ => rfl, rfl, uncapped, ?_, law⟩, trivial⟩
  intro batch i mem
  cases mem

/-- A run keeps what its steps keep. -/
theorem runFrom_keeps {P : EventFeed Raw → Prop} (inputs : List (FeedInput Raw)) (held : P s)
    (keeps : ∀ s s' input, input ∈ inputs → P s → s.step opts input = some s' → P s') :
    P (s.runFrom opts inputs) := by
  unfold runFrom
  induction inputs generalizing s with
  | nil => exact held
  | cons input rest ih =>
    rw [List.foldl_cons]
    apply ih
    · cases stepped : s.step opts input with
      | none => exact held
      | some s' => exact keeps s s' input List.mem_cons_self held stepped
    · intro s s' other mem
      exact keeps s s' other (List.mem_cons_of_mem _ mem)

theorem run_holds (inputs : List (FeedInput Raw)) : Holds opts since (run opts since inputs) :=
  runFrom_keeps inputs start_holds fun _ _ _ _ holds stepped => holds.step stepped

/-! ## A run cut short -/

end

end EventFeed

/-- The batch that the generator is in. -/
def FeedPhase.batch : FeedPhase Raw → Option (FeedBatch Raw)
  | .stopped | .loop | .sent _ => none
  | .telling (.gap batch) _ | .telling (.unknown batch _ _) _ => some batch
  | .gapHandler batch | .entry batch _ | .invalidHandler batch _ | .yielded batch _ => some batch

/-- The venue answers with a batch. -/
def FeedInput.answers : FeedInput Raw → Bool
  | .answer .. => true
  | _ => false

namespace EventFeed

section

variable {opts : FeedOptions Raw Event} {since : String} {s s' : EventFeed Raw}
  {batch : FeedBatch Raw}

/-- A batch is asked for by the cursor as it stands. -/
theorem Stands.current {phase : FeedPhase Raw} (stands : Stands opts s phase)
    (within : phase.batch = some batch) : batch.requestedCursor = s.cursor := by
  cases phase with
  | stopped => cases within
  | loop => cases within
  | sent cursor => cases within
  | gapHandler other =>
    cases within
    exact Reading.current stands
  | telling topic done =>
    cases topic with
    | gap other =>
      cases within
      exact stands.1.current
    | unknown other i type =>
      cases within
      exact stands.1.current
  | entry other i =>
    cases within
    exact stands.1.current
  | invalidHandler other i =>
    cases within
    exact stands.1.current
  | yielded other i =>
    cases within
    exact stands.1.current

theorem warnUnknownType_cursor (type : List UInt16) (i : Nat) :
    (s.warnUnknownType batch i type).cursor = s.cursor := by
  unfold warnUnknownType
  dsimp only
  split
  · rfl
  · split
    · split
      · rfl
      · rfl
    · rfl

/-- A step that stops the run leaves the cursor. -/
theorem step_stops {input : FeedInput Raw} (stepped : s.step opts input = some s')
    (stops : s'.phase = .stopped) : s'.cursor = s.cursor := by
  cases input with
  | subscribe audience listener =>
    unfold EventFeed.step at stepped
    dsimp only at stepped
    split at stepped
    · cases stepped
    · cases stepped
      rfl
  | unsubscribe audience listener =>
    cases stepped
    rfl
  | turn aborted =>
    unfold EventFeed.step at stepped
    dsimp only at stepped
    split at stepped
    · split at stepped
      · cases stepped
        rfl
      · cases stepped
        rfl
    · next topic done _ =>
      split at stepped
      · cases stepped
      · cases stepped
        cases topic with
        | gap batch => rfl
        | unknown batch i type =>
          unfold EventFeed.allTold
          dsimp only
          split
          · rfl
          · exact warnUnknownType_cursor type i
    · next batch i _ =>
      cases stepped
      unfold EventFeed.readEntry at stops ⊢
      split at stops
      · cases stops
      · split
        · rfl
        · rfl
        · split
          · rfl
          · rfl
    · cases stepped
  | _ =>
    unfold EventFeed.step at stepped
    dsimp only at stepped
    split at stepped <;> first
      | cases stepped; rfl
      | cases stepped
      | (obtain ⟨_, -, rfl⟩ := Option.map_eq_some_iff.mp stepped; rfl)

/-- Between batches: the cursor stands, and requests carry it. -/
structure Between (since : String) (before : FeedHistory Raw) (s : EventFeed Raw) : Prop where
  cursor : s.cursor = since
  outside : s.phase.batch = none
  asked : ∀ cursor, FeedMark.asked cursor ∈ s.history →
    FeedMark.asked cursor ∈ before ∨ cursor = since

theorem Between.goes {before : FeedHistory Raw} (between : Between since before s)
    (phase : FeedPhase Raw) (outside : phase.batch = none) :
    Between since before (s.goes phase []) := by
  rw [goes_nil]
  exact ⟨between.cursor, outside, between.asked⟩

/-- Without an answer nothing but requests and subscriptions comes between. -/
theorem Between.step {before : FeedHistory Raw} (between : Between since before s)
    {input : FeedInput Raw} (silent : input.answers = false)
    (stepped : s.step opts input = some s') : Between since before s' := by
  have outside := between.outside
  cases input with
  | answer events cursor dropped reset => cases silent
  | subscribe audience listener =>
    unfold EventFeed.step at stepped
    dsimp only at stepped
    split at stepped
    · cases stepped
    · cases stepped
      refine ⟨between.cursor, outside, ?_⟩
      intro cursor mem
      exact between.asked cursor (by simpa using mem)
  | unsubscribe audience listener =>
    cases stepped
    refine ⟨between.cursor, ?_, ?_⟩
    · change (unsubscribePhase audience listener s.phase).batch = none
      cases at_ : s.phase with
      | telling topic done =>
        rw [at_] at outside
        cases topic with
        | gap batch => cases outside
        | unknown batch i type => cases outside
      | _ =>
        rw [at_] at outside
        exact outside
    · intro cursor mem
      exact between.asked cursor (by simpa using mem)
  | start =>
    unfold EventFeed.step at stepped
    dsimp only at stepped
    split at stepped
    · cases stepped
      exact between.goes _ rfl
    · cases stepped
  | fail =>
    unfold EventFeed.step at stepped
    dsimp only at stepped
    split at stepped
    · cases stepped
      exact between.goes _ rfl
    · cases stepped
  | turn aborted =>
    unfold EventFeed.step at stepped
    dsimp only at stepped
    cases at_ : s.phase with
    | loop =>
      rw [at_] at stepped
      dsimp only at stepped
      split at stepped
      · cases stepped
        exact between.goes _ rfl
      · cases stepped
        refine ⟨between.cursor, rfl, ?_⟩
        intro cursor mem
        rcases List.mem_append.mp mem with mem | mem
        · exact between.asked cursor mem
        · cases List.mem_singleton.mp mem
          exact .inr between.cursor
    | telling topic done =>
      rw [at_] at outside
      cases topic with
      | gap batch => cases outside
      | unknown batch i type => cases outside
    | entry batch i =>
      rw [at_] at outside
      cases outside
    | _ =>
      rw [at_] at stepped
      cases stepped
  | returns =>
    unfold EventFeed.step at stepped
    dsimp only at stepped
    cases at_ : s.phase with
    | telling topic done =>
      rw [at_] at outside
      cases topic with
      | gap batch => cases outside
      | unknown batch i type => cases outside
    | stopped =>
      rw [at_] at stepped
      cases stepped
    | loop =>
      rw [at_] at stepped
      cases stepped
    | sent cursor =>
      rw [at_] at stepped
      cases stepped
    | _ =>
      rw [at_] at outside
      cases outside
  | throws =>
    unfold EventFeed.step at stepped
    dsimp only at stepped
    split at stepped
    · cases stepped
      exact between.goes _ rfl
    · cases stepped
      exact between.goes _ rfl
    · cases stepped
      exact between.goes _ rfl
    · obtain ⟨_, -, rfl⟩ := Option.map_eq_some_iff.mp stepped
      exact between.goes _ rfl
    · cases stepped

end

end EventFeed

/-- The law of a feed: its history is at least once, and a run cut short within a batch leaves the
cursor that the batch was asked by, which every request carries until the next answer. -/
structure FeedLaw (opts : FeedOptions Raw Event) (since : String) (s : EventFeed Raw) : Prop where
  history : AtLeastOnce opts since s.history
  again : ∀ batch input s', s.phase.batch = some batch → s.step opts input = some s' →
    s'.phase = .stopped → ∀ later : List (FeedInput Raw),
      (∀ input ∈ later, input.answers = false) →
      EventFeed.Between batch.requestedCursor s'.history (s'.runFrom opts later)

/-- Whatever the venue, the handlers and the consumer do, the cursor is at least once. Without
`onInvalidEvent` an invalid entry stops the run (`Skips` lets none be passed), and the next run
asks by the same cursor. -/
theorem feed_at_least_once (opts : FeedOptions Raw Event) (since : String)
    (inputs : List (FeedInput Raw)) : FeedLaw opts since (EventFeed.run opts since inputs) := by
  obtain ⟨kept, stands⟩ : EventFeed.Holds opts since (EventFeed.run opts since inputs) :=
    EventFeed.run_holds inputs
  refine ⟨kept.law, ?_⟩
  intro batch input s' within stepped stops later silent
  have current := stands.current within
  have stood := EventFeed.step_stops stepped stops
  refine EventFeed.runFrom_keeps later ⟨stood.trans current.symm, by rw [stops]; rfl, ?_⟩ ?_
  · exact fun _ => .inl
  · exact fun _ _ other mem between stepped => between.step (silent other mem) stepped

/-! ## An entry that nobody hears of -/

/-- The mark accounts for the entry: it was yielded, or somebody heard that it is skipped. -/
def FeedMark.accounts [DecidableEq Raw] (batch : FeedBatch Raw) (i : Nat) : FeedMark Raw → Bool
  | .yielded other j => decide (other = batch ∧ j = i)
  | .heard (.unknown other j _) _ => decide (other = batch ∧ j = i)
  | .skipped other j notice => decide (other = batch ∧ j = i ∧ notice ≠ .silent)
  | _ => false

/-- No handler and no listeners, and every entry of one unknown type. -/
def bareOptions : FeedOptions Nat Nat where
  parseSolverEvent _ := .unknownType [104, 105]
  onFeedGap := false
  onInvalidEvent := false

def bareInputs : List (FeedInput Nat) :=
  [.start, .turn false, .answer [0, 1] "2" none none, .turn false, .turn false, .turn false,
    .turn false, .turn false]

/-- The cursor passes the second entry of a type that was already warned about, and nobody has
heard of it. -/
theorem second_of_type_unheard :
    ∃ batch, FeedMark.advanced batch ∈ (EventFeed.run bareOptions "0" bareInputs).history ∧
      1 < batch.events.length ∧
      ∀ m ∈ (EventFeed.run bareOptions "0" bareInputs).history, m.accounts batch 1 = false := by
  refine ⟨⟨0, "0", [0, 1], "2", none, none⟩, ?_⟩
  decide +kernel

end XochiSdk.Solver.Feed
