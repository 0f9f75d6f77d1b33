import TronGateway.Proofs.Runner.Step
import Mathlib.Data.List.Basic
set_option autoImplicit false

/-!
# What a run has fetched and delivered

The heights that a run fetches ascend from its start by ones, a height being repeated after a
failure only, and stay below the last final height that was read. What it delivers are the reports
of the completed heights, and a cursor that it writes has only completed heights before it. The
invariant of the run is `Progress`: the cursor stands behind as many heights as were fetched, and
all their reports have been taken.
-/

namespace TronGateway.Runner

def Event.fetch? : Event → Option (Int64 × Option (Except Error BlockReport))
  | .fetched height reply => some (height, reply)
  | _ => none

def Event.success? : Event → Option (Int64 × BlockReport)
  | .fetched height (some (.ok report)) => some (height, report)
  | _ => none

def Event.accepted? : Event → Option BlockReport
  | .delivered report (some (.ok ())) => some report
  | _ => none

def Event.height? : Event → Option Int64
  | .measured (some (.ok height)) => some height
  | _ => none

/-- The heights handed to the scanner, in order. -/
def fetches (log : List Event) : List (Int64 × Option (Except Error BlockReport)) :=
  log.filterMap Event.fetch?

def successes (log : List Event) : List (Int64 × BlockReport) :=
  log.filterMap Event.success?

def accepted (log : List Event) : List BlockReport :=
  log.filterMap Event.accepted?

def lastHeight (log : List Event) : Option Int64 :=
  (log.filterMap Event.height?).getLast?

/-- The start of a run: the stored cursor, else the configured height, else the first final height
that was read. -/
def resolvedStart (settings : Settings) : List Event → Option Int64
  | .got _ (some reply) :: rest =>
    match cursorOf (some reply) with
    | some cursor => some cursor
    | none =>
      if 0 < settings.startHeight then some settings.startHeight
      else (rest.filterMap Event.height?).head?
  | _ => none

/-- Heights that begin at `height`, repeat after a failure and else go on by one. -/
def InOrder : Int → List (Int64 × Option (Except Error BlockReport)) → Prop
  | _, [] => True
  | height, (asked, some (.ok _)) :: rest => asked.toInt = height ∧ InOrder (height + 1) rest
  | height, (asked, _) :: rest => asked.toInt = height ∧ InOrder height rest

/-- Each event satisfies a condition on what was before it. -/
def Each (condition : List Event → Event → Prop) (log : List Event) : Prop :=
  ∀ before event after, log = before ++ event :: after → condition before event

/-- A height is fetched only up to the last final height that was read. -/
def Confirmed (before : List Event) : Event → Prop
  | .fetched height _ => ∃ final, lastHeight before = some final ∧ height ≤ final
  | _ => True

/-- The height was fetched, and its report was taken if there was something in it. -/
def Completed (log : List Event) (height : Int) : Prop :=
  ∃ fetched report, fetched.toInt = height ∧ (fetched, report) ∈ successes log ∧
    (HasTransfers report → report ∈ accepted log)

/-- A cursor is written only behind completed heights. -/
def Earned (settings : Settings) (start : Int64) (before : List Event) : Event → Prop
  | .put key text _ => ∃ cursor : Int64, key = Cursor.key settings.chain ∧
    text = Decimal.ofInt cursor.toInt ∧ start ≤ cursor ∧
    ∀ height, start.toInt ≤ height → height < cursor.toInt → Completed before height
  | _ => True

/-- Every delivery among the events has been taken. -/
def AllTaken (events : List Event) : Prop :=
  ∀ report reply, .delivered report reply ∈ events → reply = some (.ok ())

/-- Nothing comes behind a delivery that was refused or broken off. -/
def Going (before : List Event) (_ : Event) : Prop :=
  AllTaken before

/-- The reports among them that have something to deliver. -/
def deliverable (found : List (Int64 × BlockReport)) : List BlockReport :=
  (found.map Prod.snd).filter fun report => !report.transfers.isEmpty

/-- At most one height has been fetched whose report was not taken, and it was the last one. -/
def IsLeft (log : List Event) (left : List (Int64 × BlockReport)) : Prop :=
  left = [] ∨ ∃ before height report reply, left = [(height, report)] ∧ HasTransfers report ∧
    reply ≠ some (.ok ()) ∧
    log = before ++ [.fetched height (some (.ok report)), .delivered report reply]

/-- The heights of a run that has a start, and the cursors that it writes. -/
structure Ordered (settings : Settings) (start : Int64) (log : List Event) : Prop where
  started : resolvedStart settings log = some start
  inOrder : InOrder start.toInt (fetches log)
  confirmed : Each Confirmed log
  earned : Each (Earned settings start) log
  going : Each Going log

structure ScansFrom (settings : Settings) (start : Int64) (log : List Event) : Prop extends
    Ordered settings start log where
  /-- The heights that were fetched are the start and those behind it, each once. -/
  ascending : (successes log).map (fun found => found.1.toInt) =
    (List.range (successes log).length).map fun (index : Nat) => start.toInt + (index : Int)
  delivered : ∃ completed left, successes log = completed ++ left ∧
    accepted log = deliverable completed ∧ IsLeft log left

def Event.Quiet (event : Event) : Prop :=
  event.fetch? = none ∧ (∀ report reply, event ≠ .delivered report reply) ∧
    ∀ key text reply, event ≠ .put key text reply

structure Idle (settings : Settings) (log : List Event) : Prop where
  unresolved : resolvedStart settings log = none
  quiet : ∀ event ∈ log, event.Quiet

/-! ### One more event -/

theorem each_append_singleton {condition : List Event → Event → Prop} {log : List Event}
    {event : Event} (held : Each condition log) (last : condition log event) :
    Each condition (log ++ [event]) := by
  intro before other after same
  rcases List.eq_nil_or_concat after with rfl | ⟨more, final, rfl⟩
  · obtain ⟨rfl, single⟩ := List.append_inj' same rfl
    cases single
    exact last
  · rw [List.concat_eq_append, ← List.cons_append, ← List.append_assoc] at same
    exact held before other more (List.append_inj' same rfl).1

theorem fetches_append (first second : List Event) :
    fetches (first ++ second) = fetches first ++ fetches second :=
  List.filterMap_append

theorem successes_append (first second : List Event) :
    successes (first ++ second) = successes first ++ successes second :=
  List.filterMap_append

theorem accepted_append (first second : List Event) :
    accepted (first ++ second) = accepted first ++ accepted second :=
  List.filterMap_append

theorem Completed.append {log : List Event} {height : Int} (completed : Completed log height)
    (more : List Event) : Completed (log ++ more) height := by
  obtain ⟨fetched, report, same, found, taken⟩ := completed
  refine ⟨fetched, report, same, ?_, fun full => ?_⟩
  · rw [successes_append]
    exact List.mem_append_left _ found
  · rw [accepted_append]
    exact List.mem_append_left _ (taken full)

theorem successes_append_other {log : List Event} {event : Event}
    (other : event.success? = none) : successes (log ++ [event]) = successes log := by
  unfold successes
  rw [List.filterMap_append, List.filterMap_cons_none other, List.filterMap_nil, List.append_nil]

theorem accepted_append_other {log : List Event} {event : Event}
    (other : event.accepted? = none) : accepted (log ++ [event]) = accepted log := by
  unfold accepted
  rw [List.filterMap_append, List.filterMap_cons_none other, List.filterMap_nil, List.append_nil]

theorem deliverable_append (first second : List (Int64 × BlockReport)) :
    deliverable (first ++ second) = deliverable first ++ deliverable second := by
  unfold deliverable
  rw [List.map_append, List.filter_append]

theorem handing_cases (report : BlockReport) :
    (report.transfers.isEmpty = true ∧ handing report = []) ∨
      (HasTransfers report ∧ handing report = [.delivered report (some (.ok ()))]) := by
  cases empty : report.transfers.isEmpty with
  | true => exact Or.inl ⟨rfl, if_pos empty⟩
  | false => exact Or.inr ⟨empty, handing_of_full empty⟩

theorem successes_completed (log : List Event) (height : Int64) (report : BlockReport) :
    successes (log ++ .fetched height (some (.ok report)) :: handing report) =
      successes log ++ [(height, report)] := by
  rw [successes_append]
  rcases handing_cases report with ⟨-, none⟩ | ⟨-, handed⟩
  · rw [none]
    rfl
  · rw [handed]
    rfl

theorem accepted_completed (log : List Event) (height : Int64) (report : BlockReport) :
    accepted (log ++ .fetched height (some (.ok report)) :: handing report) =
      accepted log ++ deliverable [(height, report)] := by
  rw [accepted_append]
  unfold deliverable
  rcases handing_cases report with ⟨empty, none⟩ | ⟨full, handed⟩
  · simp only [none, List.map_cons, List.map_nil, List.filter_cons, empty]
    rfl
  · unfold HasTransfers at full
    simp only [handed, List.map_cons, List.map_nil, List.filter_cons, full]
    rfl

theorem lastHeight_append_measured (log : List Event) (final : Int64) :
    lastHeight (log ++ [.measured (some (.ok final))]) = some final := by
  unfold lastHeight
  rw [List.filterMap_append]
  exact List.getLast?_concat

theorem lastHeight_append_other {log : List Event} {event : Event} (other : event.height? = none) :
    lastHeight (log ++ [event]) = lastHeight log := by
  unfold lastHeight
  rw [List.filterMap_append, List.filterMap_cons_none other, List.filterMap_nil, List.append_nil]

theorem resolvedStart_append {settings : Settings} {log : List Event} {start : Int64}
    (known : resolvedStart settings log = some start) (more : List Event) :
    resolvedStart settings (log ++ more) = some start := by
  cases log with
  | nil => cases known
  | cons event rest =>
      cases event with
      | got key reply =>
          cases reply with
          | none => cases known
          | some reply =>
              rw [List.cons_append]
              cases found : cursorOf (some reply) with
              | some cursor =>
                  simp only [resolvedStart, found] at known ⊢
                  exact known
              | none =>
                  simp only [resolvedStart, found] at known ⊢
                  by_cases positive : 0 < settings.startHeight
                  · rw [if_pos positive] at known ⊢
                    exact known
                  · rw [if_neg positive] at known ⊢
                    rw [List.filterMap_append, List.head?_append, known, Option.some_or]
      | put key text reply => cases known
      | measured reply => cases known
      | fetched height reply => cases known
      | delivered report reply => cases known

def position : Int → List (Int64 × Option (Except Error BlockReport)) → Int
  | height, [] => height
  | height, (_, some (.ok _)) :: rest => position (height + 1) rest
  | height, _ :: rest => position height rest

theorem inOrder_append {height : Int}
    {first second : List (Int64 × Option (Except Error BlockReport))}
    (before : InOrder height first) (behind : InOrder (position height first) second) :
    InOrder height (first ++ second) := by
  induction first generalizing height with
  | nil => exact behind
  | cons fetch rest ih =>
      obtain ⟨asked, reply⟩ := fetch
      rcases reply with none | failure | report
      · exact ⟨before.1, ih before.2 behind⟩
      · exact ⟨before.1, ih before.2 behind⟩
      · exact ⟨before.1, ih before.2 behind⟩

theorem position_fetches (height : Int) (log : List Event) :
    position height (fetches log) = height + (successes log).length := by
  induction log generalizing height with
  | nil => exact (Int.add_zero height).symm
  | cons event rest ih =>
      cases event with
      | fetched asked reply =>
          rcases reply with none | failure | report
          · exact ih height
          · exact ih height
          · change position (height + 1) (fetches rest) =
              height + ((successes rest).length + 1 : Nat)
            rw [ih (height + 1)]
            omega
      | got key reply => exact ih height
      | put key text reply => exact ih height
      | measured reply => exact ih height
      | delivered report reply => exact ih height

theorem ascending_of_inOrder {height : Int} {log : List Event}
    (inOrder : InOrder height (fetches log)) :
    (successes log).map (fun found => found.1.toInt) =
      (List.range (successes log).length).map fun (index : Nat) => height + (index : Int) := by
  induction log generalizing height with
  | nil => rfl
  | cons event rest ih =>
      cases event with
      | fetched asked reply =>
          rcases reply with none | failure | report
          · exact ih inOrder.2
          · exact ih inOrder.2
          · have next : InOrder (height + 1) (fetches rest) := inOrder.2
            have behind := ih next
            change asked.toInt :: (successes rest).map (fun found => found.1.toInt) =
              (List.range ((successes rest).length + 1)).map fun (index : Nat) =>
                height + (index : Int)
            rw [behind, List.range_succ_eq_map, List.map_cons, List.map_map, inOrder.1]
            congr 1
            · omega
            · apply List.map_congr_left
              intro index _
              change height + 1 + (index : Int) = height + ((index + 1 : Nat) : Int)
              omega
      | got key reply => exact ih inOrder
      | put key text reply => exact ih inOrder
      | measured reply => exact ih inOrder
      | delivered report reply => exact ih inOrder

/-! ### The invariant -/

theorem inOrder_append_other {start : Int} {log : List Event}
    (inOrder : InOrder start (fetches log)) {event : Event} (noFetch : event.fetch? = none) :
    InOrder start (fetches (log ++ [event])) := by
  unfold fetches
  rw [List.filterMap_append, List.filterMap_cons_none noFetch, List.filterMap_nil,
    List.append_nil]
  exact inOrder

theorem Ordered.append {settings : Settings} {start : Int64} {log : List Event}
    (ordered : Ordered settings start log) {event : Event}
    (inOrder : InOrder start.toInt (fetches (log ++ [event]))) (confirmed : Confirmed log event)
    (earned : Earned settings start log event) (taken : AllTaken log) :
    Ordered settings start (log ++ [event]) where
  started := resolvedStart_append ordered.started _
  inOrder := inOrder
  confirmed := each_append_singleton ordered.confirmed confirmed
  earned := each_append_singleton ordered.earned earned
  going := each_append_singleton ordered.going taken

theorem AllTaken.append {log : List Event} (taken : AllTaken log) {event : Event}
    (last : ∀ report reply, event = .delivered report reply → reply = some (.ok ())) :
    AllTaken (log ++ [event]) := by
  intro report reply member
  rcases List.mem_append.mp member with before | same
  · exact taken report reply before
  · exact last report reply (List.mem_singleton.mp same).symm

/-- Every height from the start up to the cursor has been fetched and its report taken. -/
structure Progress (settings : Settings) (start : Int64) (cursor : Int) (log : List Event) :
    Prop extends Ordered settings start log where
  reached : cursor = start.toInt + (successes log).length
  taken : accepted log = deliverable (successes log)
  allTaken : AllTaken log

namespace Progress

variable {settings : Settings} {start : Int64} {cursor : Int} {log : List Event}

theorem scansFrom (progress : Progress settings start cursor log) :
    ScansFrom settings start log where
  toOrdered := progress.toOrdered
  ascending := ascending_of_inOrder progress.inOrder
  delivered := ⟨successes log, [], (List.append_nil _).symm, progress.taken, Or.inl rfl⟩

theorem completed (progress : Progress settings start cursor log) {height : Int}
    (from_start : start.toInt ≤ height) (before : height < cursor) : Completed log height := by
  have ascending := ascending_of_inOrder progress.inOrder
  have reached := progress.reached
  have within : (height - start.toInt).toNat < (successes log).length := by omega
  have member : height ∈ (successes log).map (fun found => found.1.toInt) := by
    rw [ascending]
    refine List.mem_map.mpr ⟨(height - start.toInt).toNat, List.mem_range.mpr within, ?_⟩
    omega
  obtain ⟨⟨fetched, report⟩, found, same⟩ := List.mem_map.mp member
  refine ⟨fetched, report, same, found, ?_⟩
  intro full
  rw [progress.taken]
  unfold deliverable
  refine List.mem_filter.mpr ⟨List.mem_map.mpr ⟨_, found, rfl⟩, ?_⟩
  unfold HasTransfers at full
  rw [full]
  rfl

theorem append_quiet (progress : Progress settings start cursor log) {event : Event}
    (noSuccess : event.success? = none) (noDelivery : event.accepted? = none)
    (other : ∀ report reply, event ≠ .delivered report reply)
    (ordered : Ordered settings start (log ++ [event])) :
    Progress settings start cursor (log ++ [event]) where
  toOrdered := ordered
  allTaken := progress.allTaken.append fun report reply same => absurd same (other report reply)
  reached := by
    rw [successes_append_other noSuccess]
    exact progress.reached
  taken := by
    rw [successes_append_other noSuccess, accepted_append_other noDelivery]
    exact progress.taken

theorem measured (progress : Progress settings start cursor log)
    (reply : Option (Except Error Int64)) :
    Progress settings start cursor (log ++ [.measured reply]) :=
  progress.append_quiet rfl rfl (fun _ _ same => by cases same)
    (progress.toOrdered.append (inOrder_append_other progress.inOrder rfl) trivial trivial
      progress.allTaken)

theorem put (progress : Progress settings start cursor log) {next : Int64}
    (same : next.toInt = cursor) (reply : Option (Except Error Unit)) :
    Progress settings start cursor
      (log ++ [.put (Cursor.key settings.chain) (Decimal.ofInt next.toInt) reply]) := by
  have reached := progress.reached
  have later : start ≤ next := by
    rw [Int64.le_iff_toInt_le]
    omega
  have earned : ∀ height, start.toInt ≤ height → height < next.toInt → Completed log height := by
    intro height from_start before
    rw [same] at before
    exact progress.completed from_start before
  exact progress.append_quiet rfl rfl (fun _ _ same => by cases same)
    (progress.toOrdered.append (inOrder_append_other progress.inOrder rfl) trivial
      ⟨next, rfl, rfl, later, earned⟩ progress.allTaken)

theorem ordered_fetched (progress : Progress settings start cursor log) {height final : Int64}
    (same : height.toInt = cursor) (last : lastHeight log = some final) (ahead : height ≤ final)
    (reply : Option (Except Error BlockReport)) :
    Ordered settings start (log ++ [.fetched height reply]) := by
  refine progress.toOrdered.append ?_ ⟨final, last, ahead⟩ trivial progress.allTaken
  rw [fetches_append]
  refine inOrder_append progress.inOrder ?_
  rw [position_fetches, ← progress.reached]
  rcases reply with none | failure | report
  · exact ⟨same, trivial⟩
  · exact ⟨same, trivial⟩
  · exact ⟨same, trivial⟩

theorem fetchFailed (progress : Progress settings start cursor log) {height final : Int64}
    (same : height.toInt = cursor) (last : lastHeight log = some final) (ahead : height ≤ final)
    {reply : Option (Except Error BlockReport)} (failed : ∀ report, reply ≠ some (.ok report)) :
    Progress settings start cursor (log ++ [.fetched height reply]) := by
  have noSuccess : (Event.fetched height reply).success? = none := by
    rcases reply with none | failure | report
    · rfl
    · rfl
    · exact absurd rfl (failed report)
  exact progress.append_quiet noSuccess rfl (fun _ _ same => by cases same)
    (progress.ordered_fetched same last ahead reply)

theorem fetched (progress : Progress settings start cursor log) {height final : Int64}
    (same : height.toInt = cursor) (last : lastHeight log = some final) (ahead : height ≤ final)
    (report : BlockReport) :
    Progress settings start (cursor + 1)
      (log ++ .fetched height (some (.ok report)) :: handing report) := by
  have reached := progress.reached
  have ordered := progress.ordered_fetched same last ahead (some (.ok report))
  have allTaken : AllTaken (log ++ [.fetched height (some (.ok report))]) :=
    progress.allTaken.append fun _ _ same => by cases same
  refine ⟨?_, ?_, ?_, ?_⟩
  · rcases handing_cases report with ⟨-, none⟩ | ⟨-, handed⟩
    · rw [none]
      exact ordered
    · rw [handed, ← List.singleton_append, ← List.append_assoc]
      exact ordered.append (inOrder_append_other ordered.inOrder rfl) trivial trivial allTaken
  · rw [successes_completed, List.length_append, List.length_singleton]
    omega
  · rw [successes_completed, accepted_completed, deliverable_append, progress.taken]
  · rcases handing_cases report with ⟨-, none⟩ | ⟨-, handed⟩
    · rw [none]
      exact allTaken
    · rw [handed, ← List.singleton_append, ← List.append_assoc]
      refine allTaken.append ?_
      intro delivered reply same
      cases same
      rfl

theorem notDelivered (progress : Progress settings start cursor log) {height final : Int64}
    (same : height.toInt = cursor) (last : lastHeight log = some final) (ahead : height ≤ final)
    {report : BlockReport} (full : HasTransfers report) {reply : Option (Except Error Unit)}
    (refused : reply ≠ some (.ok ())) :
    ScansFrom settings start
      (log ++ [.fetched height (some (.ok report)), .delivered report reply]) := by
  have ordered := progress.ordered_fetched same last ahead (some (.ok report))
  have noDelivery : (Event.delivered report reply).accepted? = none := by
    rcases reply with none | failure | taken
    · rfl
    · rfl
    · exact absurd rfl refused
  have whole : Ordered settings start
      (log ++ [.fetched height (some (.ok report)), .delivered report reply]) := by
    have behind : Ordered settings start
        ((log ++ [.fetched height (some (.ok report))]) ++ [.delivered report reply]) :=
      ordered.append (inOrder_append_other ordered.inOrder rfl) trivial trivial
        (progress.allTaken.append fun _ _ same => by cases same)
    rw [List.append_assoc] at behind
    exact behind
  refine { toOrdered := whole, ascending := ascending_of_inOrder whole.inOrder, delivered := ?_ }
  refine ⟨successes log, [(height, report)], ?_, ?_,
    Or.inr ⟨log, height, report, reply, rfl, full, refused, rfl⟩⟩
  · rw [successes_append]
    rfl
  · have none : accepted [.fetched height (some (.ok report)), .delivered report reply] = [] := by
      unfold accepted
      rw [List.filterMap_cons_none rfl, List.filterMap_cons_none noDelivery, List.filterMap_nil]
    rw [accepted_append, none, List.append_nil, progress.taken]

end Progress

/-! ### Before the start -/

theorem quiet_got (key : String) (reply : Option (Except Error (Option String))) :
    (Event.got key reply).Quiet := by
  refine ⟨rfl, ?_, ?_⟩
  · intro report reply same
    cases same
  · intro key text reply same
    cases same

theorem quiet_measured (reply : Option (Except Error Int64)) : (Event.measured reply).Quiet := by
  refine ⟨rfl, ?_, ?_⟩
  · intro report reply same
    cases same
  · intro key text reply same
    cases same

theorem Event.Quiet.accepted? {event : Event} (quiet : event.Quiet) : event.accepted? = none := by
  cases event with
  | delivered report reply => exact absurd rfl (quiet.2.1 report reply)
  | got key reply => rfl
  | put key text reply => rfl
  | measured reply => rfl
  | fetched height reply => rfl

theorem Event.Quiet.success? {event : Event} (quiet : event.Quiet) : event.success? = none := by
  cases event with
  | fetched height reply => cases quiet.1
  | got key reply => rfl
  | put key text reply => rfl
  | measured reply => rfl
  | delivered report reply => rfl

theorem progress_of_quiet {settings : Settings} {start : Int64} {log : List Event}
    (started : resolvedStart settings log = some start) (quiet : ∀ event ∈ log, event.Quiet) :
    Progress settings start start.toInt log := by
  have noFetches : fetches log = [] :=
    List.filterMap_eq_nil_iff.mpr fun event member => (quiet event member).1
  have noSuccesses : successes log = [] :=
    List.filterMap_eq_nil_iff.mpr fun event member => (quiet event member).success?
  have noneAccepted : accepted log = [] :=
    List.filterMap_eq_nil_iff.mpr fun event member => (quiet event member).accepted?
  have member {before after : List Event} {event : Event}
      (same : log = before ++ event :: after) : event ∈ log := by
    rw [same]
    exact List.mem_append_right _ List.mem_cons_self
  have ordered : Ordered settings start log := by
    refine ⟨started, ?_, ?_, ?_, ?_⟩
    · rw [noFetches]
      trivial
    · intro before event after same
      cases event with
      | fetched height reply => cases (quiet _ (member same)).1
      | _ => trivial
    · intro before event after same
      cases event with
      | put key text reply => exact absurd rfl ((quiet _ (member same)).2.2 key text reply)
      | _ => trivial
    · intro before event after same report reply delivered
      have inside : .delivered report reply ∈ log := by
        rw [same]
        exact List.mem_append_left _ delivered
      exact absurd rfl ((quiet _ inside).2.1 report reply)
  refine ⟨ordered, ?_, ?_, ?_⟩
  · rw [noSuccesses]
    exact (Int.add_zero _).symm
  · rw [noneAccepted, noSuccesses]
    rfl
  · intro report reply inside
    exact absurd rfl ((quiet _ inside).2.1 report reply)

/-- The run has no cursor and no configured height, and has not learned the final height yet. -/
def Seeking (settings : Settings) (log : List Event) : Prop :=
  ∃ key reply rest, log = .got key (some reply) :: rest ∧ cursorOf (some reply) = none ∧
    ¬ 0 < settings.startHeight ∧
    ∀ event ∈ rest, ∃ failure, event = .measured failure ∧ ∀ height, failure ≠ some (.ok height)

namespace Seeking

variable {settings : Settings} {log : List Event}

theorem quiet (seeking : Seeking settings log) : ∀ event ∈ log, event.Quiet := by
  obtain ⟨key, reply, rest, rfl, -, -, failures⟩ := seeking
  intro event member
  rcases List.mem_cons.mp member with rfl | later
  · exact quiet_got key _
  · obtain ⟨failure, rfl, -⟩ := failures event later
    exact quiet_measured failure

theorem resolvedStart_append (seeking : Seeking settings log) (more : List Event) :
    resolvedStart settings (log ++ more) = (more.filterMap Event.height?).head? := by
  obtain ⟨key, reply, rest, rfl, unknown, notPositive, failures⟩ := seeking
  have noHeights : rest.filterMap Event.height? = [] := by
    refine List.filterMap_eq_nil_iff.mpr ?_
    intro event member
    obtain ⟨failure, rfl, failed⟩ := failures event member
    rcases failure with none | failure | height
    · rfl
    · rfl
    · exact absurd rfl (failed height)
  rw [List.cons_append]
  simp only [resolvedStart, unknown, if_neg notPositive]
  rw [List.filterMap_append, noHeights, List.nil_append]

theorem idle (seeking : Seeking settings log) : Idle settings log where
  unresolved := by
    have resolved := seeking.resolvedStart_append []
    rw [List.append_nil] at resolved
    exact resolved
  quiet := seeking.quiet

theorem append (seeking : Seeking settings log) {failure : Option (Except Error Int64)}
    (failed : ∀ height, failure ≠ some (.ok height)) :
    Seeking settings (log ++ [.measured failure]) := by
  obtain ⟨key, reply, rest, rfl, unknown, notPositive, failures⟩ := seeking
  refine ⟨key, reply, rest ++ [.measured failure], rfl, unknown, notPositive, ?_⟩
  intro event member
  rcases List.mem_append.mp member with before | last
  · exact failures event before
  · exact ⟨failure, List.mem_singleton.mp last, failed⟩

theorem found (seeking : Seeking settings log) (cursor : Int64) :
    Progress settings cursor cursor.toInt (log ++ [.measured (some (.ok cursor))]) := by
  refine progress_of_quiet (seeking.resolvedStart_append _) ?_
  intro event member
  rcases List.mem_append.mp member with before | last
  · exact seeking.quiet event before
  · rw [List.mem_singleton.mp last]
    exact quiet_measured _

end Seeking

/-! ### Steps and runs -/

/-- What holds of a run wherever it ends. -/
def Sound (settings : Settings) (log : List Event) : Prop :=
  Idle settings log ∨ ∃ start, ScansFrom settings start log

/-- What holds of a run between two steps. -/
def Holds (settings : Settings) : State → List Event → Prop
  | .starting, log => log = []
  | .seeking, log => Seeking settings log
  | .waiting cursor, log => ∃ start, Progress settings start cursor.toInt log
  | .scanning cursor final, log =>
    ∃ start, Progress settings start cursor.toInt log ∧ lastHeight log = some final
  | .stopped, log => Sound settings log

theorem Holds.sound {settings : Settings} {state : State} {log : List Event}
    (held : Holds settings state log) : Sound settings log := by
  cases state with
  | starting =>
      unfold Holds at held
      subst held
      exact Or.inl ⟨rfl, fun event member => absurd member List.not_mem_nil⟩
  | seeking => exact Or.inl (Seeking.idle held)
  | waiting cursor =>
      obtain ⟨start, progress⟩ := held
      exact Or.inr ⟨start, progress.scansFrom⟩
  | scanning cursor final =>
      obtain ⟨start, progress, -⟩ := held
      exact Or.inr ⟨start, progress.scansFrom⟩
  | stopped => exact held

def HoldsAfter (settings : Settings) : Outcome State → List Event → Prop
  | .finished state, log => Holds settings state log
  | .overflowed _, log => Sound settings log
  | .stalled, log => Sound settings log

theorem Holds.after {settings : Settings} {state : State} {log : List Event}
    {outcome : Outcome State} (held : Holds settings state log)
    (ends : EndsOrStays state outcome) : HoldsAfter settings outcome log := by
  rcases ends with rfl | rfl | rfl
  · exact held
  · exact held.sound
  · exact held.sound

theorem Sound.after {settings : Settings} {log : List Event} {outcome : Outcome State}
    (sound : Sound settings log) (ends : outcome = .finished .stopped ∨ outcome = .stalled) :
    HoldsAfter settings outcome log := by
  rcases ends with rfl | rfl
  · exact sound
  · exact sound

theorem lastHeight_completed {log : List Event} {final : Int64}
    (last : lastHeight log = some final) (height : Int64) (report : BlockReport)
    (key text : String) (reply : Option (Except Error Unit)) :
    lastHeight ((log ++ .fetched height (some (.ok report)) :: handing report) ++
      [.put key text reply]) = some final := by
  have noHeights : (Event.fetched height (some (.ok report)) :: handing report).filterMap
      Event.height? = [] := by
    rcases handing_cases report with ⟨-, none⟩ | ⟨-, handed⟩
    · rw [none]
      rfl
    · rw [handed]
      rfl
  rw [lastHeight_append_other rfl]
  unfold lastHeight at last ⊢
  rw [List.filterMap_append, noHeights, List.append_nil, last]

theorem Holds.step {settings : Settings} {state : State} {log events : List Event}
    {outcome : Outcome State} (held : Holds settings state log)
    (steps : Steps settings state events outcome) :
    HoldsAfter settings outcome (log ++ events) := by
  cases steps with
  | unread =>
      unfold Holds at held
      subst held
      refine Or.inl ⟨rfl, fun event member => ?_⟩
      rw [List.mem_singleton.mp member]
      exact quiet_got _ _
  | stored reply cursor known =>
      unfold Holds at held
      subst held
      have started : resolvedStart settings [.got (Cursor.key settings.chain) (some reply)] =
          some cursor := by
        simp only [resolvedStart, known]
      refine ⟨cursor, progress_of_quiet started fun event member => ?_⟩
      rw [List.mem_singleton.mp member]
      exact quiet_got _ _
  | configured reply unknown positive =>
      unfold Holds at held
      subst held
      have started : resolvedStart settings [.got (Cursor.key settings.chain) (some reply)] =
          some settings.startHeight := by
        simp only [resolvedStart, unknown, if_pos positive]
      refine ⟨settings.startHeight, progress_of_quiet started fun event member => ?_⟩
      rw [List.mem_singleton.mp member]
      exact quiet_got _ _
  | unconfigured reply unknown notPositive =>
      unfold Holds at held
      subst held
      exact ⟨_, reply, [], rfl, unknown, notPositive,
        fun event member => absurd member List.not_mem_nil⟩
  | sought cursor => exact ⟨cursor, Seeking.found held cursor⟩
  | seekFailed reply outcome failed ends =>
      exact Holds.after (show Holds settings .seeking _ from Seeking.append held failed) ends
  | idle cursor outcome ends =>
      rw [List.append_nil]
      exact held.sound.after ends
  | measured cursor final =>
      obtain ⟨start, progress⟩ := held
      exact ⟨start, progress.measured _, lastHeight_append_measured log final⟩
  | measureFailed cursor reply outcome failed ends =>
      obtain ⟨start, progress⟩ := held
      exact Holds.after
        (show Holds settings (.waiting cursor) _ from ⟨start, progress.measured reply⟩) ends
  | caughtUp cursor final behind =>
      obtain ⟨start, progress, -⟩ := held
      rw [List.append_nil]
      exact ⟨start, progress⟩
  | halted cursor final outcome ends =>
      rw [List.append_nil]
      exact held.sound.after ends
  | fetchFailed cursor final reply outcome ahead failed ends =>
      obtain ⟨start, progress, last⟩ := held
      have kept : Holds settings (.scanning cursor final) (log ++ [.fetched cursor reply]) :=
        ⟨start, progress.fetchFailed rfl last ahead failed,
          (lastHeight_append_other rfl).trans last⟩
      exact kept.after ends
  | notDelivered cursor final report reply outcome ahead full refused ends =>
      obtain ⟨start, progress, last⟩ := held
      exact Sound.after (Or.inr ⟨start, progress.notDelivered rfl last ahead full refused⟩) ends
  | noNext cursor final report overflow ahead =>
      obtain ⟨start, progress, last⟩ := held
      exact Or.inr ⟨start, (progress.fetched rfl last ahead report).scansFrom⟩
  | advanced cursor final next report reply outcome ahead follows ends =>
      obtain ⟨start, progress, last⟩ := held
      have moved := (progress.fetched rfl last ahead report).put follows reply
      have known := lastHeight_completed last cursor report
        (Cursor.key settings.chain) (Decimal.ofInt next.toInt) reply
      rw [List.append_assoc, List.cons_append] at moved known
      rcases ends with rfl | rfl | ⟨overflow, rfl⟩
      · exact ⟨start, follows ▸ moved, known⟩
      · exact Or.inr ⟨start, moved.scansFrom⟩
      · exact Or.inr ⟨start, moved.scansFrom⟩

theorem Holds.iterate {World : Type} {settings : Settings}
    (answer : (question : Question) → World → Option question.Answer × World) (fuel : Nat)
    {state : State} {log : List Event} (held : Holds settings state log) (world : World) :
    ∃ events, Sound settings (log ++ events) ∧
      iterate (Program.noting see answer) (Runner.step settings) fuel state (world, log) =
        ((iterate answer (Runner.step settings) fuel state world).1,
          ((iterate answer (Runner.step settings) fuel state world).2, log ++ events)) := by
  -- The log so far is free: a step hands the invariant on together with what it added.
  induction fuel generalizing state log world with
  | zero => exact ⟨[], by rw [List.append_nil]; exact held.sound, by rw [List.append_nil]; rfl⟩
  | succ fuel ih =>
      by_cases halted : state = .stopped
      · subst halted
        exact ⟨[], by rw [List.append_nil]; exact held, by rw [List.append_nil]; rfl⟩
      · obtain ⟨events, leaves, ran⟩ :=
          Program.run_noting answer (Runner.step settings state) (world, log)
        have after := held.step (steps_of_leaves halted leaves)
        rw [Runner.iterate.eq_3 _ _ _ _ _ halted, Runner.iterate.eq_3 _ _ _ _ _ halted, ran]
        cases stepped : (Runner.step settings state).run answer world with
        | mk outcome between =>
            rw [stepped] at after
            cases outcome with
            | finished next =>
                obtain ⟨more, sound, went⟩ := ih after between
                refine ⟨events ++ more, ?_, ?_⟩
                · rw [← List.append_assoc]
                  exact sound
                · rw [← List.append_assoc]
                  exact went
            | overflowed overflow => exact ⟨events, after, rfl⟩
            | stalled => exact ⟨events, after, rfl⟩

/-- Every run, wherever it ends and whoever answers, is idle or scans from its start: it fetches
ascending heights up to the final one, delivers exactly the reports of the completed heights, and
writes cursors with nothing but completed heights before them. -/
theorem observe_scansFrom {World : Type}
    (answer : (question : Question) → World → Option question.Answer × World)
    (settings : Settings) (fuel : Nat) (world : World) :
    ∃ log, observe answer settings fuel world =
        ((run answer settings fuel world).1, ((run answer settings fuel world).2, log)) ∧
      (Idle settings log ∨ ∃ start, ScansFrom settings start log) := by
  have nothing : Holds settings .starting [] := rfl
  obtain ⟨log, sound, went⟩ := nothing.iterate answer fuel world
  exact ⟨log, went, sound⟩

def payingReport : BlockReport :=
  ⟨"TRON", [⟨"c0ffee", 101, "sender", "vault", [⟨Asset.trx, ⟨100, by decide⟩, 6⟩], [], "memo"⟩],
    false, false⟩

/-- Block 100 is empty, and block 101, the final one, has a transfer. -/
def twoBlocks : (question : Question) → Unit → Option question.Answer × Unit
  | .store (.get _), world => (some (.ok none), world)
  | .store (.put _ _), world => (some (.ok ()), world)
  | .store (.delete _), world => (some (.ok ()), world)
  | .height, world => (some (.ok 101), world)
  | .fetch height, world =>
    (some (.ok (if height = 101 then payingReport else ⟨"TRON", [], false, false⟩)), world)
  | .setHealthy _, world => (some (), world)
  | .deliver _, world => (some (.ok ()), world)
  | .wait _, world => (some .elapsed, world)
  | .isStopped, world => (some false, world)

example : observe twoBlocks ⟨"TRON", 100, 30⟩ 4 () =
    (.finished (.scanning 102 101), (),
      [.got (Cursor.key "TRON") (some (.ok none)), .measured (some (.ok 101)),
        .fetched 100 (some (.ok ⟨"TRON", [], false, false⟩)),
        .put (Cursor.key "TRON") "101" (some (.ok ())),
        .fetched 101 (some (.ok payingReport)), .delivered payingReport (some (.ok ())),
        .put (Cursor.key "TRON") "102" (some (.ok ()))]) := by
  rfl

end TronGateway.Runner
