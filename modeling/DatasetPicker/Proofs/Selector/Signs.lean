import DatasetPicker.Proofs.Selector.Regions

/-!
# What becomes of a rejection

A history tells in order which rejections there were, when nothing was edited, and for which
ids the time was up. It decides which rejection is shown: the last one, if nothing ended the
edit and it did not expire since. The ids of the rejections are numbered without a gap.
-/

namespace DatasetPicker.Selector

/-- What decides which rejection is shown. -/
inductive Sign where
  /-- A commit was refused under this id. -/
  | rejected (id : ErrorId)
  /-- A mode was reached in which nothing is edited. -/
  | outside
  /-- The time of this id was up, whatever is shown. -/
  | expired (id : ErrorId)
  deriving DecidableEq, Repr

/-- The id of the rejection that a sign tells of. -/
def Sign.rejection? : Sign → Option ErrorId
  | .rejected id => some id
  | _ => none

/-- The sign of an effect. -/
def Effect.sign? : Effect → Option Sign
  | .rejected error => some (.rejected error.id)
  | .committed _ => none

/-- The signs of events in order: of each event its rejections, and then whether nothing is
edited after it. -/
def Session.signs (session : Session) (fresh : ErrorId) : List Event → List Sign
  | [] => []
  | event :: rest =>
    let first := session.send event fresh
    first.effects.filterMap Effect.sign? ++
      (if first.session.mode.isEditing then [] else [.outside]) ++
      first.session.signs first.fresh rest

/-! ## Histories -/

/-- The id is that of the last rejection of a history, and since this rejection something was
edited all the time and it did not expire. -/
def Latest (id : ErrorId) (history : List Sign) : Prop :=
  ∃ before after, history = before ++ .rejected id :: after ∧
    (∀ other, .rejected other ∉ after) ∧ .outside ∉ after ∧ .expired id ∉ after

/-- The rejection that is shown after a sign, from the one that was shown before. -/
def Sign.mark (shown : Option ErrorId) : Sign → Option ErrorId
  | .rejected id => some id
  | .outside => none
  | .expired id => shown.filter (· ≠ id)

/-- The rejection that is shown after a history. -/
def current (history : List Sign) : Option ErrorId := history.foldl Sign.mark none

/-- The last sign decides, or else the signs before it do. -/
theorem latest_concat (id : ErrorId) (history : List Sign) (sign : Sign) :
    Latest id (history ++ [sign]) ↔
      sign = .rejected id ∨
        Latest id history ∧ (∀ other, sign ≠ .rejected other) ∧ sign ≠ .outside ∧
          sign ≠ .expired id := by
  constructor
  · rintro ⟨before, after, whole, newest, editing, lasting⟩
    obtain rfl | ⟨others, last, rfl⟩ := List.eq_nil_or_concat' after
    · obtain ⟨-, same⟩ := List.append_inj' whole rfl
      exact .inl (List.singleton_inj.mp same)
    · rw [← List.cons_append, ← List.append_assoc] at whole
      obtain ⟨earlier, same⟩ := List.append_inj' whole rfl
      obtain rfl : sign = last := List.singleton_inj.mp same
      simp only [List.mem_append, List.mem_singleton, not_or] at newest editing lasting
      refine .inr ⟨⟨before, others, earlier, ?_, editing.1, lasting.1⟩, ?_, ?_, ?_⟩
      · exact fun other => (newest other).1
      · exact fun other => Ne.symm (newest other).2
      · exact Ne.symm editing.2
      · exact Ne.symm lasting.2
  · rintro (rfl | ⟨⟨before, after, rfl, newest, editing, lasting⟩, unlike, within, kept⟩)
    · exact ⟨history, [], rfl, nofun, nofun, nofun⟩
    · refine ⟨before, after ++ [sign], by simp, ?_, ?_, ?_⟩
      · intro other
        simp [newest other, Ne.symm (unlike other)]
      · simp [editing, Ne.symm within]
      · simp [lasting, Ne.symm kept]

/-- The rejection that is shown is the last one, if it was neither left behind nor expired. -/
theorem current_eq_some_iff (id : ErrorId) (history : List Sign) :
    current history = some id ↔ Latest id history := by
  -- What is shown is made from the left, so the last sign is split off.
  induction history using List.reverseRecOn with
  | nil =>
    constructor
    · nofun
    · rintro ⟨before, after, whole, -⟩
      simp at whole
  | append_singleton history sign ih =>
    have step : current (history ++ [sign]) = sign.mark (current history) := by
      simp only [current, List.foldl_append, List.foldl_cons, List.foldl_nil]
    rw [step, latest_concat, ← ih]
    cases sign with
    | rejected other => simp [Sign.mark]
    | outside => simp [Sign.mark]
    | expired other =>
      by_cases same : other = id
      · simp [Sign.mark, Option.filter_eq_some_iff, same]
      · simp [Sign.mark, Option.filter_eq_some_iff, same, Ne.symm same]

/-! ## Ids -/

/-- The ids are numbered from the first one on without a gap, and the next one follows. -/
structure Numbered (first : ErrorId) (ids : List ErrorId) (next : ErrorId) : Prop where
  consecutive : ids.map ErrorId.number = List.range' first.number ids.length
  next : next.number = first.number + ids.length

namespace Numbered

variable {first next last : ErrorId} {ids others : List ErrorId}

/-- No ids are used up. -/
theorem none_used (first : ErrorId) : Numbered first [] first := ⟨rfl, rfl⟩

/-- One id is used up. -/
theorem one_used (first : ErrorId) : Numbered first [first] first.next := ⟨rfl, rfl⟩

/-- What is numbered in two parts is numbered as a whole. -/
theorem append (begun : Numbered first ids next) (ended : Numbered next others last) :
    Numbered first (ids ++ others) last := by
  refine ⟨?_, ?_⟩
  · rw [List.map_append, begun.consecutive, ended.consecutive, begun.next, List.length_append,
      List.range'_append_1]
  · rw [ended.next, begun.next, List.length_append, Nat.add_assoc]

/-- Later ids have greater numbers. -/
theorem increasing (numbered : Numbered first ids next) :
    ids.Pairwise (fun earlier later => earlier.number < later.number) := by
  rw [← List.pairwise_map (f := ErrorId.number), numbered.consecutive]
  exact List.pairwise_lt_range'

/-- Each number lies between the first and the next. -/
theorem bounded (numbered : Numbered first ids next) (id : ErrorId) (listed : id ∈ ids) :
    first.number ≤ id.number ∧ id.number < next.number := by
  have among := List.mem_map_of_mem (f := ErrorId.number) listed
  rw [numbered.consecutive, List.mem_range'_1] at among
  rw [numbered.next]
  exact among

end Numbered

namespace Session

/-- The rejections of an event use up the next ids. -/
theorem send_numbered (session : Session) (event : Event) (fresh : ErrorId) :
    Numbered fresh
      (((session.send event fresh).effects.filterMap Effect.sign?).filterMap Sign.rejection?)
      (session.send event fresh).fresh := by
  cases feed : (Operation.send event).isFeed with
  | true =>
    cases event with
    | setValues value values listener => exact .none_used fresh
    | _ => contradiction
  | false =>
    cases session.send_course event fresh feed with
    | passes quiet =>
      rw [quiet.effects, quiet.fresh]
      exact .none_used fresh
    | chooses value known changed ended unused effects told =>
      rw [effects, unused]
      exact .none_used fresh
    | refuses value editing marked used effects told =>
      rw [effects, used]
      exact .one_used fresh

/-- The rejections of events use up the next ids in order. -/
theorem signs_numbered (session : Session) (fresh : ErrorId) (events : List Event) :
    Numbered fresh ((session.signs fresh events).filterMap Sign.rejection?)
      (session.sendAll fresh events).fresh := by
  induction events generalizing session fresh with
  | nil => exact .none_used fresh
  | cons event rest ih =>
    have none_outside (editing : Bool) :
        (if editing then [] else [Sign.outside]).filterMap Sign.rejection? = [] := by
      cases editing <;> rfl
    simp only [signs, sendAll, List.filterMap_append, none_outside, List.append_nil]
    exact (session.send_numbered event fresh).append (ih _ _)

/-! ## What is shown -/

/-- Where nothing is edited, nothing is edited after events that do not begin an edit. -/
theorem sendAll_reading (session : Session) (fresh : ErrorId) (events : List Event)
    (reading : session.mode = .reading) (idle : .edit ∉ events) :
    (session.sendAll fresh events).session.mode = .reading := by
  induction events generalizing session fresh with
  | nil => exact reading
  | cons event rest ih =>
    obtain ⟨other, later⟩ := not_or.mp (mt List.mem_cons.mpr idle)
    have still : (session.send event fresh).session.mode = .reading := by
      cases mode : (session.send event fresh).session.mode with
      | reading => rfl
      | editing input results =>
        exact absurd (send_edits session event fresh reading (by rw [mode]; rfl)).symm other
    exact ih _ _ still later

/-- Of an operation only the first event can begin an edit. -/
theorem events_begin (session : Session) (operation : Operation) :
    .edit ∉ (session.events operation).tail := by
  cases operation with
  | send event => exact List.not_mem_nil
  | unfocus => simp only [events]; split <;> decide
  | select index => exact mt List.mem_of_mem_tail (by simp [events])
  | complete => exact mt List.mem_of_mem_tail (by simp [events])
  | submit => exact List.not_mem_nil
  | typeText text => simp only [events]; split <;> simp

/-- What the signs of events show is what their effects show, if something is edited in the end,
and nothing otherwise. -/
theorem signs_mark (session : Session) (fresh : ErrorId) (events : List Event)
    (shown : Option ErrorId) (entry : .edit ∉ events.tail)
    (hidden : session.mode = .reading → shown = none) :
    (session.signs fresh events).foldl Sign.mark shown =
      if (session.sendAll fresh events).session.mode.isEditing then
        ((session.sendAll fresh events).effects.filterMap Effect.sign?).foldl Sign.mark shown
      else none := by
  induction events generalizing session fresh shown with
  | nil =>
    cases mode : session.mode with
    | reading => simp [signs, sendAll, mode, Mode.isEditing, hidden mode]
    | editing input results => simp [signs, sendAll, mode, Mode.isEditing]
  | cons event rest ih =>
    have idle : .edit ∉ rest := entry
    have tail : .edit ∉ rest.tail := mt List.mem_of_mem_tail idle
    simp only [signs, sendAll, List.filterMap_append, List.foldl_append]
    cases mode : (session.send event fresh).session.mode with
    | reading =>
      -- The edit is left for good, because none of the other events begins another one.
      have ended := sendAll_reading _ (session.send event fresh).fresh rest mode idle
      have rest_shows := ih (session.send event fresh).session (session.send event fresh).fresh
        none tail (fun _ => rfl)
      rw [ended] at rest_shows ⊢
      exact rest_shows
    | editing input results =>
      refine ih _ _ _ tail ?_
      intro reading
      rw [reading] at mode
      contradiction

end Session

end DatasetPicker.Selector
