import TronGateway.Observer
import Mathlib.Data.List.Basic
set_option autoImplicit false

/-!
# The observer notes everything

Whatever is sent, however the senders go and whichever queue the observer turns to next, what has
been sent to a queue is what was noted of it and what is still in it, in one order. The observer is
done only when all senders have gone and all queues are empty. The end of one queue changes nothing
about the others, and each turn that comes to something uses up an item or the end of a queue.
-/

namespace TronGateway.Observer

namespace Feed

inductive Event (α : Type) where
  | send (item : α)
  /-- The last sender goes. -/
  | close
  /-- The observer turns to the queue. -/
  | take

variable {α : Type} {feed : Feed α}

def step (feed : Feed α) : Event α → Feed α
  | .send item => feed.send item
  | .close => feed.close
  | .take => feed.take.2

def follow (feed : Feed α) (events : List (Event α)) : Feed α :=
  events.foldl step feed

def gain (feed : Feed α) : Event α → List α
  | .take => feed.take.1.toList
  | _ => []

/-- What the observer takes out. -/
def taken : Feed α → List (Event α) → List α
  | _, [] => []
  | feed, event :: rest => feed.gain event ++ taken (feed.step event) rest

/-- What is sent while there is a sender. -/
def sent : List (Event α) → List α
  | [] => []
  | .send item :: rest => item :: sent rest
  | .close :: _ => []
  | .take :: rest => sent rest

/-- A queue that is not listened to has nothing left to give. -/
def IsSound (feed : Feed α) : Prop :=
  feed.isHeard = false → feed.items = [] ∧ feed.hasSenders = false

/-- A turn to the queue comes to something: an item or the end. -/
def isReady (feed : Feed α) : Bool :=
  feed.isHeard && (!feed.items.isEmpty || !feed.hasSenders)

/-- The turns that the queue is good for, one for each item and one for the end. -/
def left (feed : Feed α) : Nat :=
  feed.items.length + if feed.isHeard then 1 else 0

theorem isSound_initial : (initial : Feed α).IsSound := nofun

theorem IsSound.step (sound : feed.IsSound) (event : Event α) : (feed.step event).IsSound := by
  obtain ⟨items, hasSenders, isHeard⟩ := feed
  cases isHeard with
  | false =>
      obtain ⟨rfl, rfl⟩ := sound rfl
      cases event with
      | send item => exact sound
      | close => exact sound
      | take => exact sound
  | true =>
      cases event with
      | send item =>
          cases hasSenders with
          | false => exact sound
          | true => exact nofun
      | close => exact nofun
      | take =>
          cases items with
          | nil => exact fun ended => ⟨rfl, ended⟩
          | cons item rest => exact nofun

theorem IsSound.follow (sound : feed.IsSound) (events : List (Event α)) :
    (feed.follow events).IsSound := by
  induction events generalizing feed with
  | nil => exact sound
  | cons event rest ih => exact ih (sound.step event)

@[simp] theorem hasSenders_send (item : α) : (feed.send item).hasSenders = feed.hasSenders := by
  unfold send
  split
  · rfl
  · rfl

@[simp] theorem hasSenders_take : feed.take.2.hasSenders = feed.hasSenders := by
  unfold take
  split
  · split
    · rfl
    · rfl
  · rfl

theorem hasSenders_step (feed : Feed α) (event : Event α) :
    (feed.step event).hasSenders = true ↔ feed.hasSenders = true ∧ event ≠ .close := by
  cases event with
  | send item => simp [step]
  | close => simp [step, close]
  | take => simp [step]

theorem hasSenders_follow (feed : Feed α) (events : List (Event α)) :
    (feed.follow events).hasSenders = true ↔ feed.hasSenders = true ∧ .close ∉ events := by
  induction events generalizing feed with
  | nil => simp [follow]
  | cons event rest ih =>
      rw [follow, List.foldl_cons, ← follow, ih, hasSenders_step, List.mem_cons, not_or, and_assoc,
        ne_comm]

/-- What is still to be sent to the queue. -/
def upcoming (feed : Feed α) (events : List (Event α)) : List α :=
  if feed.hasSenders then sent events else []

theorem step_conserves (sound : feed.IsSound) (event : Event α) (rest : List (Event α)) :
    feed.items ++ feed.upcoming (event :: rest) =
      feed.gain event ++ ((feed.step event).items ++ (feed.step event).upcoming rest) := by
  obtain ⟨items, hasSenders, isHeard⟩ := feed
  cases event with
  | send item =>
      cases hasSenders with
      | false => rfl
      | true =>
          cases isHeard with
          | false => cases (sound rfl).2
          | true => exact (List.append_assoc items [item] (sent rest)).symm
  | close =>
      cases hasSenders with
      | false => rfl
      | true => rfl
  | take =>
      cases isHeard with
      | false => rfl
      | true =>
          cases items with
          | nil => rfl
          | cons item behind => rfl

theorem conserved (sound : feed.IsSound) (events : List (Event α)) :
    feed.items ++ feed.upcoming events = feed.taken events ++ (feed.follow events).items := by
  induction events generalizing feed with
  | nil =>
      unfold upcoming
      rw [sent, ite_self, List.append_nil]
      rfl
  | cons event rest ih =>
      rw [step_conserves sound event rest, ih (sound.step event), taken, List.append_assoc]
      rfl

theorem sent_eq (events : List (Event α)) :
    sent events = taken initial events ++ ((initial : Feed α).follow events).items :=
  conserved isSound_initial events

theorem sent_append (events : List (Event α)) {more : List (Event α)} (quiet : sent more = []) :
    sent (events ++ more) = sent events := by
  induction events with
  | nil => exact quiet
  | cons event rest ih =>
      cases event with
      | send item => exact congrArg (item :: ·) ih
      | close => rfl
      | take => exact ih

theorem take_of_items (sound : feed.IsSound) {item : α} {rest : List α}
    (items : feed.items = item :: rest) :
    feed.isReady = true ∧ feed.take = (some item, { feed with items := rest }) := by
  obtain ⟨found, hasSenders, isHeard⟩ := feed
  cases items
  cases isHeard with
  | false => cases (sound rfl).1
  | true => exact ⟨rfl, rfl⟩

theorem isReady_of_unheard (unheard : feed.isHeard = false) : feed.isReady = false := by
  unfold isReady
  rw [unheard, Bool.false_and]

theorem take_of_not_ready (waits : feed.isReady = false) : feed.take = (none, feed) := by
  obtain ⟨items, hasSenders, isHeard⟩ := feed
  cases isHeard with
  | false => rfl
  | true =>
      cases items with
      | cons item rest => cases waits
      | nil =>
          cases hasSenders with
          | false => cases waits
          | true => rfl

theorem left_take (ready : feed.isReady = true) : feed.take.2.left + 1 = feed.left := by
  obtain ⟨items, hasSenders, isHeard⟩ := feed
  cases isHeard with
  | false => cases ready
  | true =>
      cases items with
      | cons item rest => rfl
      | nil =>
          cases hasSenders with
          | false => rfl
          | true => cases ready

theorem items_of_not_ready (sound : feed.IsSound) (waits : feed.isReady = false) :
    feed.items = [] := by
  cases found : feed.items with
  | nil => rfl
  | cons item rest =>
      rw [(take_of_items sound found).1] at waits
      cases waits

theorem isHeard_of_not_ready (waits : feed.isReady = false) (ended : feed.hasSenders = false) :
    feed.isHeard = false := by
  unfold isReady at waits
  rw [ended, Bool.not_false, Bool.or_true, Bool.and_true] at waits
  exact waits

theorem follow_takes_of_not_ready (waits : feed.isReady = false) (turns : Nat) :
    feed.follow (List.replicate turns .take) = feed := by
  induction turns with
  | zero => rfl
  | succ turns ih =>
      rw [List.replicate_succ, follow, List.foldl_cons, ← follow, step, take_of_not_ready waits]
      exact ih

theorem isReady_follow_takes {turns : Nat} (enough : feed.left ≤ turns) :
    (feed.follow (List.replicate turns .take)).isReady = false := by
  cases ready : feed.isReady with
  | false => rw [follow_takes_of_not_ready ready, ready]
  | true =>
      have fewer := left_take ready
      induction turns generalizing feed with
      | zero => omega
      | succ turns ih =>
          rw [List.replicate_succ, follow, List.foldl_cons, ← follow, step]
          cases behind : feed.take.2.isReady with
          | false => rw [follow_takes_of_not_ready behind, behind]
          | true => exact ih (by omega) behind (left_take behind)

end Feed

/-! ### What happens to the three queues -/

inductive Event where
  | reports (event : Feed.Event BlockReport)
  | fees (event : Feed.Event NetworkFee)
  | solvency (event : Feed.Event Solvency)

namespace Event

def report? : Event → Option (Feed.Event BlockReport)
  | reports event => some event
  | _ => none

def fee? : Event → Option (Feed.Event NetworkFee)
  | fees event => some event
  | _ => none

def solvency? : Event → Option (Feed.Event Solvency)
  | solvency event => some event
  | _ => none

theorem report?_eq_some_iff {event : Event} {found : Feed.Event BlockReport} :
    event.report? = some found ↔ event = .reports found := by
  cases event <;> simp [report?]

theorem fee?_eq_some_iff {event : Event} {found : Feed.Event NetworkFee} :
    event.fee? = some found ↔ event = .fees found := by
  cases event <;> simp [fee?]

theorem solvency?_eq_some_iff {event : Event} {found : Feed.Event Solvency} :
    event.solvency? = some found ↔ event = .solvency found := by
  cases event <;> simp [solvency?]

def closing : Source → Event
  | .reports => reports .close
  | .fees => fees .close
  | .solvency => solvency .close

def turning : Source → Event
  | .reports => reports .take
  | .fees => fees .take
  | .solvency => solvency .take

end Event

/-- What is sent as long as there are senders, by queue. -/
def sentReports (events : List Event) : List BlockReport :=
  Feed.sent (events.filterMap Event.report?)

def sentFees (events : List Event) : List NetworkFee := Feed.sent (events.filterMap Event.fee?)

def sentSolvency (events : List Event) : List Solvency :=
  Feed.sent (events.filterMap Event.solvency?)

namespace Note

def transfer? : Note → Option Transfer
  | transfer value => some value
  | _ => none

def fee? : Note → Option NetworkFee
  | fee value => some value
  | _ => none

def solvency? : Note → Option Solvency
  | solvency value => some value
  | _ => none

end Note

def transfersIn (notes : List Note) : List Transfer := notes.filterMap Note.transfer?

def feesIn (notes : List Note) : List NetworkFee := notes.filterMap Note.fee?

def solvencyIn (notes : List Note) : List Solvency := notes.filterMap Note.solvency?

theorem transfersIn_append (notes others : List Note) :
    transfersIn (notes ++ others) = transfersIn notes ++ transfersIn others :=
  List.filterMap_append

theorem feesIn_append (notes others : List Note) :
    feesIn (notes ++ others) = feesIn notes ++ feesIn others :=
  List.filterMap_append

theorem solvencyIn_append (notes others : List Note) :
    solvencyIn (notes ++ others) = solvencyIn notes ++ solvencyIn others :=
  List.filterMap_append

@[simp] theorem transfersIn_transfers (transfers : List Transfer) :
    transfersIn (transfers.map .transfer) = transfers := by
  simp only [transfersIn, List.filterMap_map, Function.comp_def, Note.transfer?,
    List.filterMap_some]

@[simp] theorem feesIn_fees (fees : List NetworkFee) : feesIn (fees.map .fee) = fees := by
  simp only [feesIn, List.filterMap_map, Function.comp_def, Note.fee?, List.filterMap_some]

@[simp] theorem solvencyIn_solvency (reports : List Solvency) :
    solvencyIn (reports.map .solvency) = reports := by
  simp only [solvencyIn, List.filterMap_map, Function.comp_def, Note.solvency?,
    List.filterMap_some]

namespace State

def step (state : State) : Event → State
  | .reports .take => state.turn .reports
  | .reports event => { state with reports := state.reports.step event }
  | .fees .take => state.turn .fees
  | .fees event => { state with fees := state.fees.step event }
  | .solvency .take => state.turn .solvency
  | .solvency event => { state with solvency := state.solvency.step event }

def follow (state : State) (events : List Event) : State :=
  events.foldl step state

variable {state : State}

theorem step_reports (state : State) (event : Feed.Event BlockReport) :
    state.step (.reports event) = { state with
      reports := state.reports.step event
      notes := state.notes ++ (state.reports.gain event).flatMap reportNotes } := by
  cases event with
  | send report => exact congrArg _ (List.append_nil _).symm
  | close => exact congrArg _ (List.append_nil _).symm
  | take => rfl

theorem step_fees (state : State) (event : Feed.Event NetworkFee) :
    state.step (.fees event) = { state with
      fees := state.fees.step event
      notes := state.notes ++ (state.fees.gain event).map .fee } := by
  cases event with
  | send fee => exact congrArg _ (List.append_nil _).symm
  | close => exact congrArg _ (List.append_nil _).symm
  | take => rfl

theorem step_solvency (state : State) (event : Feed.Event Solvency) :
    state.step (.solvency event) = { state with
      solvency := state.solvency.step event
      notes := state.notes ++ (state.solvency.gain event).map .solvency } := by
  cases event with
  | send report => exact congrArg _ (List.append_nil _).symm
  | close => exact congrArg _ (List.append_nil _).symm
  | take => rfl

theorem transfersIn_reportNotes (reports : List BlockReport) :
    transfersIn (reports.flatMap reportNotes) = reports.flatMap BlockReport.transfers := by
  unfold transfersIn reportNotes
  rw [List.filterMap_flatMap]
  exact congrArg (List.flatMap · reports) (funext fun report => transfersIn_transfers _)

theorem exists_transfer_of_reportNotes {reports : List BlockReport} {note : Note}
    (noted : note ∈ reports.flatMap reportNotes) : ∃ transfer, note = .transfer transfer := by
  obtain ⟨report, -, among⟩ := List.mem_flatMap.mp noted
  obtain ⟨transfer, -, same⟩ := List.mem_map.mp among
  exact ⟨transfer, same.symm⟩

theorem feesIn_reportNotes (reports : List BlockReport) :
    feesIn (reports.flatMap reportNotes) = [] := by
  refine List.filterMap_eq_nil_iff.mpr fun note noted => ?_
  obtain ⟨transfer, rfl⟩ := exists_transfer_of_reportNotes noted
  rfl

theorem solvencyIn_reportNotes (reports : List BlockReport) :
    solvencyIn (reports.flatMap reportNotes) = [] := by
  refine List.filterMap_eq_nil_iff.mpr fun note noted => ?_
  obtain ⟨transfer, rfl⟩ := exists_transfer_of_reportNotes noted
  rfl

theorem transfersIn_fees (fees : List NetworkFee) : transfersIn (fees.map .fee) = [] :=
  List.filterMap_eq_nil_iff.mpr (List.forall_mem_map.mpr fun _ _ => rfl)

theorem solvencyIn_fees (fees : List NetworkFee) : solvencyIn (fees.map .fee) = [] :=
  List.filterMap_eq_nil_iff.mpr (List.forall_mem_map.mpr fun _ _ => rfl)

theorem transfersIn_solvency (reports : List Solvency) :
    transfersIn (reports.map .solvency) = [] :=
  List.filterMap_eq_nil_iff.mpr (List.forall_mem_map.mpr fun _ _ => rfl)

theorem feesIn_solvency (reports : List Solvency) : feesIn (reports.map .solvency) = [] :=
  List.filterMap_eq_nil_iff.mpr (List.forall_mem_map.mpr fun _ _ => rfl)

/-! ### Runs -/

/-- Each queue goes its own way, and the notes about it are what is taken out of it. -/
structure Follows (state : State) (events : List Event) (after : State) : Prop where
  reports : after.reports = state.reports.follow (events.filterMap Event.report?)
  fees : after.fees = state.fees.follow (events.filterMap Event.fee?)
  solvency : after.solvency = state.solvency.follow (events.filterMap Event.solvency?)
  transfers : transfersIn after.notes = transfersIn state.notes ++
    (state.reports.taken (events.filterMap Event.report?)).flatMap BlockReport.transfers
  feeNotes : feesIn after.notes =
    feesIn state.notes ++ state.fees.taken (events.filterMap Event.fee?)
  solvencyNotes : solvencyIn after.notes =
    solvencyIn state.notes ++ state.solvency.taken (events.filterMap Event.solvency?)

theorem follows (state : State) (events : List Event) :
    Follows state events (state.follow events) := by
  induction events generalizing state with
  | nil =>
      exact ⟨rfl, rfl, rfl, (List.append_nil _).symm, (List.append_nil _).symm,
        (List.append_nil _).symm⟩
  | cons event rest ih =>
      obtain ⟨reports, fees, solvency, transfers, feeNotes, solvencyNotes⟩ := ih (state.step event)
      change Follows state (event :: rest) ((state.step event).follow rest)
      cases event with
      | reports event =>
          rw [step_reports] at reports fees solvency transfers feeNotes solvencyNotes ⊢
          rw [transfersIn_append, transfersIn_reportNotes, List.append_assoc] at transfers
          rw [feesIn_append, feesIn_reportNotes, List.append_nil] at feeNotes
          rw [solvencyIn_append, solvencyIn_reportNotes, List.append_nil] at solvencyNotes
          refine ⟨reports, fees, solvency, transfers.trans ?_, feeNotes, solvencyNotes⟩
          rw [← List.flatMap_append]
          rfl
      | fees event =>
          rw [step_fees] at reports fees solvency transfers feeNotes solvencyNotes ⊢
          rw [transfersIn_append, transfersIn_fees, List.append_nil] at transfers
          rw [feesIn_append, feesIn_fees, List.append_assoc] at feeNotes
          rw [solvencyIn_append, solvencyIn_fees, List.append_nil] at solvencyNotes
          exact ⟨reports, fees, solvency, transfers, feeNotes, solvencyNotes⟩
      | solvency event =>
          rw [step_solvency] at reports fees solvency transfers feeNotes solvencyNotes ⊢
          rw [transfersIn_append, transfersIn_solvency, List.append_nil] at transfers
          rw [feesIn_append, feesIn_solvency, List.append_nil] at feeNotes
          rw [solvencyIn_append, solvencyIn_solvency, List.append_assoc] at solvencyNotes
          exact ⟨reports, fees, solvency, transfers, feeNotes, solvencyNotes⟩

def view {β : Type} (state : State) (look : {α : Type} → Feed α → β) : Source → β
  | .reports => look state.reports
  | .fees => look state.fees
  | .solvency => look state.solvency

/-- The observer can turn to the queue without waiting. -/
def isReady (state : State) (source : Source) : Bool := state.view Feed.isReady source

def left (state : State) : Nat := state.reports.left + state.fees.left + state.solvency.left

def pending (state : State) : Source → List (List Note)
  | .reports => state.reports.items.map reportNotes
  | .fees => state.fees.items.map fun fee => [.fee fee]
  | .solvency => state.solvency.items.map fun report => [.solvency report]

structure IsSound (state : State) : Prop where
  reports : state.reports.IsSound
  fees : state.fees.IsSound
  solvency : state.solvency.IsSound

theorem isSound_follow (events : List Event) : (initial.follow events).IsSound := by
  obtain ⟨reports, fees, solvency, -⟩ := follows initial events
  refine ⟨?_, ?_, ?_⟩
  · rw [reports]
    exact Feed.isSound_initial.follow _
  · rw [fees]
    exact Feed.isSound_initial.follow _
  · rw [solvency]
    exact Feed.isSound_initial.follow _

theorem others_unchanged {source other : Source} (apart : other ≠ source) (state : State) :
    (state.step (.closing source)).isReady other = state.isReady other ∧
    (state.step (.closing source)).pending other = state.pending other ∧
    (state.turn source).isReady other = state.isReady other ∧
    (state.turn source).pending other = state.pending other := by
  cases source with
  | reports =>
      cases other with
      | reports => cases apart rfl
      | fees => exact ⟨rfl, rfl, rfl, rfl⟩
      | solvency => exact ⟨rfl, rfl, rfl, rfl⟩
  | fees =>
      cases other with
      | reports => exact ⟨rfl, rfl, rfl, rfl⟩
      | fees => cases apart rfl
      | solvency => exact ⟨rfl, rfl, rfl, rfl⟩
  | solvency =>
      cases other with
      | reports => exact ⟨rfl, rfl, rfl, rfl⟩
      | fees => exact ⟨rfl, rfl, rfl, rfl⟩
      | solvency => cases apart rfl

theorem turn_of_pending (sound : state.IsSound) {source : Source} {first : List Note}
    {rest : List (List Note)} (pending : state.pending source = first :: rest) :
    state.isReady source = true ∧ (state.turn source).notes = state.notes ++ first ∧
      (state.turn source).pending source = rest := by
  cases source with
  | reports =>
      obtain ⟨report, behind, items, rfl, rfl⟩ := List.map_eq_cons_iff.mp pending
      obtain ⟨ready, taken⟩ := Feed.take_of_items sound.reports items
      unfold turn State.pending
      rw [taken]
      exact ⟨ready, congrArg (state.notes ++ ·) (List.append_nil _), rfl⟩
  | fees =>
      obtain ⟨fee, behind, items, rfl, rfl⟩ := List.map_eq_cons_iff.mp pending
      obtain ⟨ready, taken⟩ := Feed.take_of_items sound.fees items
      unfold turn State.pending
      rw [taken]
      exact ⟨ready, rfl, rfl⟩
  | solvency =>
      obtain ⟨report, behind, items, rfl, rfl⟩ := List.map_eq_cons_iff.mp pending
      obtain ⟨ready, taken⟩ := Feed.take_of_items sound.solvency items
      unfold turn State.pending
      rw [taken]
      exact ⟨ready, rfl, rfl⟩

theorem left_turn {source : Source} (ready : state.isReady source = true) :
    (state.turn source).left + 1 = state.left := by
  cases source with
  | reports =>
      have fewer : state.reports.take.2.left + 1 = state.reports.left := Feed.left_take ready
      change state.reports.take.2.left + state.fees.left + state.solvency.left + 1 = _
      unfold left
      omega
  | fees =>
      have fewer : state.fees.take.2.left + 1 = state.fees.left := Feed.left_take ready
      change state.reports.left + state.fees.take.2.left + state.solvency.left + 1 = _
      unfold left
      omega
  | solvency =>
      have fewer : state.solvency.take.2.left + 1 = state.solvency.left := Feed.left_take ready
      change state.reports.left + state.fees.left + state.solvency.take.2.left + 1 = _
      unfold left
      omega

/-- The turns never wait. -/
def NeverWaits (state : State) : List Source → Prop
  | [] => True
  | source :: rest => state.isReady source = true ∧ (state.turn source).NeverWaits rest

theorem left_turns {sources : List Source} (busy : state.NeverWaits sources) :
    (sources.foldl turn state).left + sources.length = state.left := by
  induction sources generalizing state with
  | nil => rfl
  | cons source rest ih =>
      obtain ⟨ready, behind⟩ := busy
      rw [List.foldl_cons, List.length_cons, ← Nat.add_assoc, ih behind]
      exact left_turn ready

/-- What has been sent is what is noted of it and what is still in its queue. -/
structure Accounts (events : List Event) (state : State) : Prop where
  reports : ∃ taken, sentReports events = taken ++ state.reports.items ∧
    transfersIn state.notes = taken.flatMap BlockReport.transfers
  fees : sentFees events = feesIn state.notes ++ state.fees.items
  solvency : sentSolvency events = solvencyIn state.notes ++ state.solvency.items

/-- All that has been sent is noted, once and in the order of its queue. -/
structure NotesAll (events : List Event) (state : State) : Prop where
  reports : transfersIn state.notes = (sentReports events).flatMap BlockReport.transfers
  fees : feesIn state.notes = sentFees events
  solvency : solvencyIn state.notes = sentSolvency events

theorem accounts (events : List Event) : Accounts events (initial.follow events) := by
  obtain ⟨reports, fees, solvency, transfers, feeNotes, solvencyNotes⟩ := follows initial events
  refine ⟨⟨_, ?_, transfers⟩, ?_, ?_⟩
  · rw [reports]
    exact Feed.sent_eq _
  · rw [fees, feeNotes]
    exact Feed.sent_eq _
  · rw [solvency, solvencyNotes]
    exact Feed.sent_eq _

theorem Accounts.notesAll {events : List Event} (accounts : Accounts events state)
    (sound : state.IsSound) (waits : ∀ source, state.isReady source = false) :
    NotesAll events state := by
  obtain ⟨⟨taken, sent, transfers⟩, fees, solvency⟩ := accounts
  rw [Feed.items_of_not_ready sound.reports (waits .reports), List.append_nil] at sent
  rw [Feed.items_of_not_ready sound.fees (waits .fees), List.append_nil] at fees
  rw [Feed.items_of_not_ready sound.solvency (waits .solvency), List.append_nil] at solvency
  refine ⟨?_, fees.symm, solvency.symm⟩
  rw [transfers, sent]

/-! ### The end -/

theorem isDone_iff : state.isDone = true ↔ ∀ source, state.view Feed.isHeard source = false := by
  unfold isDone
  rw [Bool.and_eq_true, Bool.and_eq_true, Bool.not_eq_true', Bool.not_eq_true', Bool.not_eq_true']
  constructor
  · rintro ⟨⟨reports, fees⟩, solvency⟩ source
    cases source with
    | reports => exact reports
    | fees => exact fees
    | solvency => exact solvency
  · intro unheard
    exact ⟨⟨unheard .reports, unheard .fees⟩, unheard .solvency⟩

theorem hasSenders_follow (events : List Event) (source : Source) :
    (initial.follow events).view Feed.hasSenders source = true ↔ .closing source ∉ events := by
  obtain ⟨reports, fees, solvency, -⟩ := follows initial events
  cases source with
  | reports =>
      change (initial.follow events).reports.hasSenders = true ↔ .reports .close ∉ events
      rw [reports, Feed.hasSenders_follow]
      simp only [List.mem_filterMap, Event.report?_eq_some_iff, exists_eq_right]
      exact and_iff_right rfl
  | fees =>
      change (initial.follow events).fees.hasSenders = true ↔ .fees .close ∉ events
      rw [fees, Feed.hasSenders_follow]
      simp only [List.mem_filterMap, Event.fee?_eq_some_iff, exists_eq_right]
      exact and_iff_right rfl
  | solvency =>
      change (initial.follow events).solvency.hasSenders = true ↔ .solvency .close ∉ events
      rw [solvency, Feed.hasSenders_follow]
      simp only [List.mem_filterMap, Event.solvency?_eq_some_iff, exists_eq_right]
      exact and_iff_right rfl

/-- A queue that is not listened to has ended, and there is nothing to turn to it for. -/
theorem IsSound.ended (sound : state.IsSound) {source : Source}
    (unheard : state.view Feed.isHeard source = false) :
    state.view Feed.hasSenders source = false ∧ state.isReady source = false := by
  cases source with
  | reports => exact ⟨(sound.reports unheard).2, Feed.isReady_of_unheard unheard⟩
  | fees => exact ⟨(sound.fees unheard).2, Feed.isReady_of_unheard unheard⟩
  | solvency => exact ⟨(sound.solvency unheard).2, Feed.isReady_of_unheard unheard⟩

theorem isHeard_of_not_ready {source : Source} (waits : state.isReady source = false)
    (ended : state.view Feed.hasSenders source = false) :
    state.view Feed.isHeard source = false := by
  cases source with
  | reports => exact Feed.isHeard_of_not_ready waits ended
  | fees => exact Feed.isHeard_of_not_ready waits ended
  | solvency => exact Feed.isHeard_of_not_ready waits ended

theorem isDone_of_not_ready {events : List Event}
    (waits : ∀ source, (initial.follow events).isReady source = false)
    (closed : ∀ source, .closing source ∈ events) : (initial.follow events).isDone = true := by
  refine isDone_iff.mpr fun source => isHeard_of_not_ready (waits source) ?_
  rw [← Bool.not_eq_true, hasSenders_follow]
  exact not_not_intro (closed source)

def closings : List Event := [.closing .reports, .closing .fees, .closing .solvency]

def rounds : Nat → List Event
  | 0 => []
  | count + 1 => .turning .reports :: .turning .fees :: .turning .solvency :: rounds count

theorem rotate_eq (count : Nat) (state : State) :
    rotate count state = state.follow (rounds count) := by
  induction count generalizing state with
  | zero => rfl
  | succ count ih => exact ih _

theorem filterMap_rounds (count : Nat) :
    (rounds count).filterMap Event.report? = List.replicate count .take ∧
    (rounds count).filterMap Event.fee? = List.replicate count .take ∧
    (rounds count).filterMap Event.solvency? = List.replicate count .take := by
  induction count with
  | zero => exact ⟨rfl, rfl, rfl⟩
  | succ count ih =>
      simp only [rounds, Event.turning, List.filterMap_cons, Event.report?, Event.fee?,
        Event.solvency?, ih, List.replicate_succ, and_self]

theorem isReady_settle (state : State) (source : Source) : state.settle.isReady source = false := by
  have left_le {α : Type} (feed : Feed α) : feed.left ≤ feed.items.length + 1 := by
    unfold Feed.left
    split
    · exact Nat.le_refl _
    · exact Nat.le_succ _
  unfold settle
  rw [rotate_eq]
  generalize turns : state.reports.items.length + state.fees.items.length +
    state.solvency.items.length + 1 = count
  obtain ⟨reports, fees, solvency, -⟩ := follows state (rounds count)
  obtain ⟨reportTurns, feeTurns, solvencyTurns⟩ := filterMap_rounds count
  cases source with
  | reports =>
      have few := left_le state.reports
      change (state.follow (rounds count)).reports.isReady = false
      rw [reports, reportTurns]
      exact Feed.isReady_follow_takes (by omega)
  | fees =>
      have few := left_le state.fees
      change (state.follow (rounds count)).fees.isReady = false
      rw [fees, feeTurns]
      exact Feed.isReady_follow_takes (by omega)
  | solvency =>
      have few := left_le state.solvency
      change (state.follow (rounds count)).solvency.isReady = false
      rw [solvency, solvencyTurns]
      exact Feed.isReady_follow_takes (by omega)

theorem exists_turns (state : State) : ∃ turns, state.settle = state.follow turns :=
  ⟨rounds _, rotate_eq _ state⟩

theorem exists_settled (events : List Event) : ∃ turns,
    (initial.follow events).close.settle = initial.follow (events ++ (closings ++ turns)) := by
  obtain ⟨turns, settled⟩ := exists_turns (initial.follow events).close
  refine ⟨turns, settled.trans ?_⟩
  rw [follow, follow, follow, List.foldl_append, List.foldl_append]
  rfl

theorem sent_closed (events turns : List Event) :
    sentReports (events ++ (closings ++ turns)) = sentReports events ∧
    sentFees (events ++ (closings ++ turns)) = sentFees events ∧
    sentSolvency (events ++ (closings ++ turns)) = sentSolvency events := by
  unfold sentReports sentFees sentSolvency
  simp only [List.filterMap_append]
  exact ⟨Feed.sent_append _ rfl, Feed.sent_append _ rfl, Feed.sent_append _ rfl⟩

theorem settles_closed (events : List Event) :
    (initial.follow events).close.settle.isDone = true ∧
      NotesAll events (initial.follow events).close.settle := by
  obtain ⟨turns, settled⟩ := exists_settled events
  have waits := isReady_settle (initial.follow events).close
  rw [settled] at waits ⊢
  have closed (source : Source) : .closing source ∈ events ++ (closings ++ turns) := by
    refine List.mem_append_right _ (List.mem_append_left _ ?_)
    cases source with
    | reports => exact List.mem_cons_self
    | fees => exact List.mem_cons_of_mem _ List.mem_cons_self
    | solvency => exact List.mem_cons_of_mem _ (List.mem_cons_of_mem _ List.mem_cons_self)
  refine ⟨isDone_of_not_ready waits closed, ?_⟩
  obtain ⟨reports, fees, solvency⟩ := (accounts _).notesAll (isSound_follow _) waits
  obtain ⟨sameReports, sameFees, sameSolvency⟩ := sent_closed events turns
  exact ⟨sameReports ▸ reports, sameFees ▸ fees, sameSolvency ▸ solvency⟩

/-! ### Every run -/

/-- However sends, the ends of the queues and the turns of the observer follow on one another: what
has been sent to a queue is what is noted of it and then what is still in it. When the observer is
done, all senders have gone and all that was sent is noted, once and in the order of its queue. A
queue with items is listened to, and a turn to it notes the first one, whatever has become of the
others; neither its end nor a turn to it changes another queue. Each turn that need not wait uses up
an item or the end of a queue. When the observer can but wait, everything is noted, and it is done
if all senders have gone. Once they have, turning to the queues in rotation gets it there. -/
theorem observer_loses_nothing (events : List Event) :
    let state := initial.follow events
    Accounts events state ∧
    (state.isDone = true → (∀ source, .closing source ∈ events) ∧ NotesAll events state) ∧
    (∀ source first rest, state.pending source = first :: rest →
      state.isReady source = true ∧ (state.turn source).notes = state.notes ++ first ∧
        (state.turn source).pending source = rest) ∧
    (∀ source other, other ≠ source →
      (state.step (.closing source)).isReady other = state.isReady other ∧
      (state.step (.closing source)).pending other = state.pending other ∧
      (state.turn source).isReady other = state.isReady other ∧
      (state.turn source).pending other = state.pending other) ∧
    (∀ sources, state.NeverWaits sources →
      (sources.foldl turn state).left + sources.length = state.left) ∧
    ((∀ source, state.isReady source = false) → NotesAll events state ∧
      ((∀ source, .closing source ∈ events) → state.isDone = true)) ∧
    state.close.settle.isDone = true ∧ NotesAll events state.close.settle := by
  intro state
  have sound : state.IsSound := isSound_follow events
  have accounted : Accounts events state := accounts events
  refine ⟨accounted, ?_, fun source first rest => turn_of_pending sound,
    fun source other apart => others_unchanged apart state, fun sources => left_turns, ?_,
    settles_closed events⟩
  · intro done
    have unheard := isDone_iff.mp done
    constructor
    · intro source
      by_contra absent
      have senders := (hasSenders_follow events source).mpr absent
      rw [(sound.ended (unheard source)).1] at senders
      cases senders
    · exact accounted.notesAll sound fun source => (sound.ended (unheard source)).2
  · intro waits
    exact ⟨accounted.notesAll sound waits, isDone_of_not_ready waits⟩

end State
end TronGateway.Observer
