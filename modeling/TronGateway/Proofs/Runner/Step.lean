import TronGateway.Proofs.Number.Checked
import TronGateway.Proofs.Runner.Trace
set_option autoImplicit false

/-!
# The steps of the runner

Everything that one step can leave behind, and the state that it goes on from when it goes on. A
step that waits forever or overflows ends the run where it stands.
-/

namespace TronGateway.Runner

open Program (Leaves leaves_done leaves_abort leaves_ask)

/-- A report that has something to deliver. -/
def HasTransfers (report : BlockReport) : Prop :=
  report.transfers.isEmpty = false

/-- The cursor that a reply carries. -/
def cursorOf : Option (Except Error (Option String)) → Option Int64
  | some (.ok (some text)) => (Cursor.parse text).toOption
  | _ => none

/-- What is left behind by taking a report off the runner's hands. -/
def handing (report : BlockReport) : List Event :=
  if report.transfers.isEmpty then [] else [.delivered report (some (.ok ()))]

/-- The step ends the run, or goes on from its own state. -/
def EndsOrStays (state : State) (outcome : Outcome State) : Prop :=
  outcome = .finished state ∨ outcome = .finished .stopped ∨ outcome = .stalled

/-- What one step leaves behind, and how it ends. -/
inductive Steps (settings : Settings) : State → List Event → Outcome State → Prop where
  | unread : Steps settings .starting [.got (Cursor.key settings.chain) none] .stalled
  | stored (reply : Except Error (Option String)) (cursor : Int64)
    (known : cursorOf (some reply) = some cursor) :
    Steps settings .starting [.got (Cursor.key settings.chain) (some reply)]
      (.finished (.waiting cursor))
  | configured (reply : Except Error (Option String)) (unknown : cursorOf (some reply) = none)
    (positive : 0 < settings.startHeight) :
    Steps settings .starting [.got (Cursor.key settings.chain) (some reply)]
      (.finished (.waiting settings.startHeight))
  | unconfigured (reply : Except Error (Option String)) (unknown : cursorOf (some reply) = none)
    (notPositive : ¬ 0 < settings.startHeight) :
    Steps settings .starting [.got (Cursor.key settings.chain) (some reply)] (.finished .seeking)
  | sought (cursor : Int64) :
    Steps settings .seeking [.measured (some (.ok cursor))] (.finished (.waiting cursor))
  | seekFailed (reply : Option (Except Error Int64)) (outcome : Outcome State)
    (failed : ∀ height, reply ≠ some (.ok height)) (ends : EndsOrStays .seeking outcome) :
    Steps settings .seeking [.measured reply] outcome
  | idle (cursor : Int64) (outcome : Outcome State)
    (ends : outcome = .finished .stopped ∨ outcome = .stalled) :
    Steps settings (.waiting cursor) [] outcome
  | measured (cursor final : Int64) :
    Steps settings (.waiting cursor) [.measured (some (.ok final))]
      (.finished (.scanning cursor final))
  | measureFailed (cursor : Int64) (reply : Option (Except Error Int64)) (outcome : Outcome State)
    (failed : ∀ height, reply ≠ some (.ok height)) (ends : EndsOrStays (.waiting cursor) outcome) :
    Steps settings (.waiting cursor) [.measured reply] outcome
  | caughtUp (cursor final : Int64) (behind : final < cursor) :
    Steps settings (.scanning cursor final) [] (.finished (.waiting cursor))
  | halted (cursor final : Int64) (outcome : Outcome State)
    (ends : outcome = .finished .stopped ∨ outcome = .stalled) :
    Steps settings (.scanning cursor final) [] outcome
  | fetchFailed (cursor final : Int64) (reply : Option (Except Error BlockReport))
    (outcome : Outcome State) (ahead : cursor ≤ final)
    (failed : ∀ report, reply ≠ some (.ok report))
    (ends : EndsOrStays (.scanning cursor final) outcome) :
    Steps settings (.scanning cursor final) [.fetched cursor reply] outcome
  | notDelivered (cursor final : Int64) (report : BlockReport) (reply : Option (Except Error Unit))
    (outcome : Outcome State) (ahead : cursor ≤ final) (full : HasTransfers report)
    (refused : reply ≠ some (.ok ())) (ends : outcome = .finished .stopped ∨ outcome = .stalled) :
    Steps settings (.scanning cursor final)
      [.fetched cursor (some (.ok report)), .delivered report reply] outcome
  | noNext (cursor final : Int64) (report : BlockReport) (overflow : Overflow)
    (ahead : cursor ≤ final) :
    Steps settings (.scanning cursor final)
      (.fetched cursor (some (.ok report)) :: handing report) (.overflowed overflow)
  | advanced (cursor final next : Int64) (report : BlockReport) (reply : Option (Except Error Unit))
    (outcome : Outcome State) (ahead : cursor ≤ final) (follows : next.toInt = cursor.toInt + 1)
    (ends : outcome = .finished (.scanning next final) ∨ outcome = .stalled ∨
      ∃ overflow, outcome = .overflowed overflow) :
    Steps settings (.scanning cursor final)
      (.fetched cursor (some (.ok report)) :: (handing report ++
        [.put (Cursor.key settings.chain) (Decimal.ofInt next.toInt) reply])) outcome

theorem error_ne_ok {α : Type} (failure : Error) (value : α) :
    (some (.error failure) : Option (Except Error α)) ≠ some (.ok value) := by
  intro same
  cases same

theorem none_ne_ok {α : Type} (value : α) :
    (none : Option (Except Error α)) ≠ some (.ok value) := by
  intro same
  cases same

variable {settings : Settings} {events : List Event} {outcome : Outcome State}

def startingPoint (settings : Settings) (reply : Except Error (Option String)) : State :=
  match cursorOf (some reply) with
  | some cursor => .waiting cursor
  | none => if 0 < settings.startHeight then .waiting settings.startHeight else .seeking

def cursorResult : Except Error (Option String) → Except Error (Option Int64)
  | .error failure => .error failure
  | .ok none => .ok none
  | .ok (some text) => (Cursor.parse text).map some

theorem read_eq (chain : String) : (Cursor.read chain).run =
    .ask (.get (Cursor.key chain)) fun reply => .done (cursorResult reply) := by
  change Program.ask _ _ = _
  congr 1
  funext reply
  rcases reply with failure | text
  · rfl
  · cases text with
    | none => rfl
    | some text =>
        change ExceptT.run (do
          let cursor ← (liftM (Cursor.parse text) : Stored Int64)
          pure (some cursor)) = Program.done ((Cursor.parse text).map some)
        cases Cursor.parse text with
        | error failure => rfl
        | ok cursor => rfl

theorem start_eq : start settings =
    .ask (.store (.get (Cursor.key settings.chain))) fun reply =>
      .done (startingPoint settings reply) := by
  unfold start
  rw [read_eq]
  change Program.ask _ _ = _
  congr 1
  funext reply
  unfold startingPoint
  rcases reply with failure | text
  · rfl
  · cases text with
    | none => rfl
    | some text =>
        have known : cursorOf (some (.ok (some text))) = (Cursor.parse text).toOption := rfl
        change Program.bind (.done ((Cursor.parse text).map some)) _ = _
        rw [known]
        cases Cursor.parse text with
        | error failure => rfl
        | ok cursor => rfl

theorem steps_starting (leaves : Leaves see (start settings) events outcome) :
    Steps settings .starting events outcome := by
  rw [start_eq] at leaves
  rcases leaves_ask.mp leaves with ⟨rfl, rfl⟩ | ⟨reply, rest, rfl, behind⟩
  · exact .unread
  · obtain ⟨rfl, rfl⟩ := leaves_done.mp behind
    unfold startingPoint
    cases known : cursorOf (some reply) with
    | some cursor => exact .stored reply cursor known
    | none =>
        by_cases positive : 0 < settings.startHeight
        · simp only [if_pos positive]
          exact .configured reply known positive
        · simp only [if_neg positive]
          exact .unconfigured reply known positive

theorem steps_seeking (leaves : Leaves see seek events outcome) :
    Steps settings .seeking events outcome := by
  rcases leaves_ask.mp leaves with ⟨rfl, rfl⟩ | ⟨reply, rest, rfl, behind⟩
  · exact .seekFailed none _ none_ne_ok (Or.inr (Or.inr rfl))
  · cases reply with
    | ok cursor =>
        obtain ⟨rfl, rfl⟩ := leaves_done.mp behind
        exact .sought cursor
    | error failure =>
        have failed := error_ne_ok (α := Int64) failure
        rcases leaves_ask.mp behind with ⟨rfl, rfl⟩ | ⟨wake, rest, rfl, ended⟩
        · exact .seekFailed _ _ failed (Or.inr (Or.inr rfl))
        · cases wake with
          | elapsed =>
              obtain ⟨rfl, rfl⟩ := leaves_done.mp ended
              exact .seekFailed _ _ failed (Or.inl rfl)
          | stopped =>
              obtain ⟨rfl, rfl⟩ := leaves_done.mp ended
              exact .seekFailed _ _ failed (Or.inr (Or.inl rfl))

theorem steps_waiting {cursor : Int64} (leaves : Leaves see (measure cursor) events outcome) :
    Steps settings (.waiting cursor) events outcome := by
  rcases leaves_ask.mp leaves with ⟨rfl, rfl⟩ | ⟨wake, rest, rfl, behind⟩
  · exact .idle cursor _ (Or.inr rfl)
  · cases wake with
    | stopped =>
        obtain ⟨rfl, rfl⟩ := leaves_done.mp behind
        exact .idle cursor _ (Or.inl rfl)
    | elapsed =>
        rcases leaves_ask.mp behind with ⟨rfl, rfl⟩ | ⟨reply, rest, rfl, measured⟩
        · exact .measureFailed cursor none _ none_ne_ok (Or.inr (Or.inr rfl))
        · cases reply with
          | ok final =>
              obtain ⟨rfl, rfl⟩ := leaves_done.mp measured
              exact .measured cursor final
          | error failure =>
              have failed := error_ne_ok (α := Int64) failure
              rcases leaves_ask.mp measured with ⟨rfl, rfl⟩ | ⟨_, rest, rfl, ended⟩
              · exact .measureFailed cursor _ _ failed (Or.inr (Or.inr rfl))
              · obtain ⟨rfl, rfl⟩ := leaves_done.mp ended
                exact .measureFailed cursor _ _ failed (Or.inl rfl)

/-! ### Scanning -/

/-- What advancing leaves behind: nothing where the heights end, else the new cursor. -/
theorem of_advance {cursor final : Int64} {outcome : Outcome State}
    (leaves : Leaves see (advance settings cursor final) events outcome) :
    (events = [] ∧ ∃ overflow, outcome = .overflowed overflow) ∨
    ∃ next reply, next.toInt = cursor.toInt + 1 ∧
      events = [.put (Cursor.key settings.chain) (Decimal.ofInt next.toInt) reply] ∧
      (outcome = .finished (.scanning next final) ∨ outcome = .stalled ∨
        ∃ overflow, outcome = .overflowed overflow) := by
  unfold advance at leaves
  cases summed : Checked.add cursor 1 with
  | error overflow =>
      rw [summed] at leaves
      obtain ⟨rfl, rfl⟩ := leaves_abort.mp leaves
      exact Or.inl ⟨rfl, overflow, rfl⟩
  | ok next =>
      have follows : next.toInt = cursor.toInt + 1 := Checked.toInt_of_add summed
      rw [summed] at leaves
      refine Or.inr ⟨next, ?_⟩
      rcases leaves_ask.mp leaves with ⟨rfl, rfl⟩ | ⟨reply, rest, rfl, behind⟩
      · exact ⟨none, follows, rfl, Or.inr (Or.inl rfl)⟩
      · refine ⟨some reply, follows, ?_⟩
        change Leaves see (do
          let lag ← Program.check (Checked.sub final next)
          query (.setHealthy (lag ≤ settings.maxHealthyLag))
          return State.scanning next final) rest outcome at behind
        cases lagged : Checked.sub final next with
        | error overflow =>
            rw [lagged] at behind
            obtain ⟨rfl, rfl⟩ := leaves_abort.mp behind
            exact ⟨rfl, Or.inr (Or.inr ⟨overflow, rfl⟩)⟩
        | ok lag =>
            rw [lagged] at behind
            rcases leaves_ask.mp behind with ⟨rfl, rfl⟩ | ⟨_, rest, rfl, ended⟩
            · exact ⟨rfl, Or.inr (Or.inl rfl)⟩
            · obtain ⟨rfl, rfl⟩ := leaves_done.mp ended
              exact ⟨rfl, Or.inl rfl⟩

theorem deliver_of_empty {report : BlockReport} (empty : report.transfers.isEmpty = true) :
    deliver report = .done (.ok ()) :=
  if_pos empty

theorem deliver_of_full {report : BlockReport} (full : HasTransfers report) :
    deliver report = .ask (.deliver report) .done := by
  unfold HasTransfers at full
  unfold deliver
  rw [full]
  rfl

theorem handing_of_full {report : BlockReport} (full : HasTransfers report) :
    handing report = [.delivered report (some (.ok ()))] := by
  unfold HasTransfers at full
  unfold handing
  rw [full]
  rfl

theorem steps_advance {cursor final : Int64} (report : BlockReport) (ahead : cursor ≤ final)
    (leaves : Leaves see (advance settings cursor final) events outcome) :
    Steps settings (.scanning cursor final)
      (.fetched cursor (some (.ok report)) :: (handing report ++ events)) outcome := by
  rcases of_advance leaves with ⟨rfl, overflow, rfl⟩ | ⟨next, reply, follows, rfl, ends⟩
  · rw [List.append_nil]
    exact .noNext cursor final report overflow ahead
  · exact .advanced cursor final next report reply outcome ahead follows ends

theorem steps_fetch {cursor final : Int64} (ahead : cursor ≤ final)
    (leaves : Leaves see (fetch settings cursor final) events outcome) :
    Steps settings (.scanning cursor final) events outcome := by
  rcases leaves_ask.mp leaves with ⟨rfl, rfl⟩ | ⟨reply, rest, rfl, behind⟩
  · exact .fetchFailed cursor final none _ ahead none_ne_ok (Or.inr (Or.inr rfl))
  · cases reply with
    | error failure =>
        have failed := error_ne_ok (α := BlockReport) failure
        rcases leaves_ask.mp behind with ⟨rfl, rfl⟩ | ⟨_, rest, rfl, behind⟩
        · exact .fetchFailed cursor final _ _ ahead failed (Or.inr (Or.inr rfl))
        · rcases leaves_ask.mp behind with ⟨rfl, rfl⟩ | ⟨wake, rest, rfl, ended⟩
          · exact .fetchFailed cursor final _ _ ahead failed (Or.inr (Or.inr rfl))
          · cases wake with
            | elapsed =>
                obtain ⟨rfl, rfl⟩ := leaves_done.mp ended
                exact .fetchFailed cursor final _ _ ahead failed (Or.inl rfl)
            | stopped =>
                obtain ⟨rfl, rfl⟩ := leaves_done.mp ended
                exact .fetchFailed cursor final _ _ ahead failed (Or.inr (Or.inl rfl))
    | ok report =>
        change Leaves see (deliver report >>= _) rest outcome at behind
        cases empty : report.transfers.isEmpty with
        | true =>
            have handed : handing report = [] := if_pos empty
            rw [deliver_of_empty empty] at behind
            have steps := steps_advance report ahead behind
            rw [handed] at steps
            exact steps
        | false =>
            rw [deliver_of_full empty] at behind
            rcases leaves_ask.mp behind with ⟨rfl, rfl⟩ | ⟨delivery, rest, rfl, answered⟩
            · exact .notDelivered cursor final report none _ ahead empty (none_ne_ok ())
                (Or.inr rfl)
            · cases delivery with
              | error failure =>
                  obtain ⟨rfl, rfl⟩ := leaves_done.mp answered
                  exact .notDelivered cursor final report _ _ ahead empty
                    (error_ne_ok failure ()) (Or.inl rfl)
              | ok =>
                  have steps := steps_advance report ahead answered
                  rw [handing_of_full empty] at steps
                  exact steps

theorem steps_of_leaves {state : State} (going : state ≠ .stopped)
    (leaves : Leaves see (step settings state) events outcome) :
    Steps settings state events outcome := by
  cases state with
  | starting => exact steps_starting leaves
  | seeking => exact steps_seeking leaves
  | waiting cursor => exact steps_waiting leaves
  | scanning cursor final =>
      unfold step at leaves
      dsimp only at leaves
      by_cases behind : final < cursor
      · rw [if_pos behind] at leaves
        obtain ⟨rfl, rfl⟩ := leaves_done.mp leaves
        exact .caughtUp cursor final behind
      · rw [if_neg behind] at leaves
        rcases leaves_ask.mp leaves with ⟨rfl, rfl⟩ | ⟨told, rest, rfl, going⟩
        · exact .halted cursor final _ (Or.inr rfl)
        · cases told with
          | true =>
              obtain ⟨rfl, rfl⟩ := leaves_done.mp going
              exact .halted cursor final _ (Or.inl rfl)
          | false => exact steps_fetch (Int64.not_lt.mp behind) going
  | stopped => exact absurd rfl going

end TronGateway.Runner
