import TronGateway.Proofs.Runner.History
set_option autoImplicit false

/-!
# What a step tells about health

The runner tells the scanner whether it is healthy at three places: where the final height cannot be
read between two beats, where a block cannot be fetched, and behind each completed height. What it
tells stands between the events of the step, so that a step is known by its signs.
-/

namespace TronGateway.Runner

open Program (Leaves leaves_done leaves_abort leaves_ask)

/-- Something left behind, or something told to the scanner about its health. -/
inductive Sign where
  | left (event : Event)
  | told (healthy : Bool)

def Sign.event? : Sign → Option Event
  | .left event => some event
  | .told _ => none

def watch : (question : Question) → Option question.Answer → Option Sign
  | .setHealthy healthy, _ => some (.told healthy)
  | question, reply => (see question reply).map .left

theorem watch_of_other {question : Question} (other : ∀ healthy, question ≠ .setHealthy healthy)
    (reply : Option question.Answer) : watch question reply = (see question reply).map .left := by
  cases question with
  | setHealthy healthy => exact absurd rfl (other healthy)
  | _ => rfl

theorem see_eq_watch (question : Question) (reply : Option question.Answer) :
    (see question reply).toList = (watch question reply).toList.filterMap Sign.event? := by
  by_cases tells : ∃ healthy, question = .setHealthy healthy
  · obtain ⟨healthy, rfl⟩ := tells
    rfl
  · rw [watch_of_other (not_exists.mp tells)]
    rcases see question reply with _ | event
    · rfl
    · rfl

/-- What was told last, else what was known before. -/
def lastTold : Bool → List Sign → Bool
  | healthy, [] => healthy
  | _, .told healthy :: rest => lastTold healthy rest
  | healthy, .left _ :: rest => lastTold healthy rest

@[simp] theorem lastTold_left (healthy : Bool) (events : List Event) :
    lastTold healthy (events.map .left) = healthy := by
  induction events with
  | nil => rfl
  | cons event rest ih => exact ih

theorem lastTold_append (healthy : Bool) (first second : List Sign) :
    lastTold healthy (first ++ second) = lastTold (lastTold healthy first) second := by
  induction first generalizing healthy with
  | nil => rfl
  | cons sign rest ih =>
      cases sign with
      | left event => exact ih healthy
      | told healthy => exact ih healthy

theorem lastTold_watch {question : Question} (other : ∀ healthy, question ≠ .setHealthy healthy)
    (healthy : Bool) (reply : Option question.Answer) :
    lastTold healthy (watch question reply).toList = healthy := by
  rw [watch_of_other other]
  rcases see question reply with _ | event
  · rfl
  · rfl

@[simp] theorem filterMap_left (events : List Event) :
    (events.map Sign.left).filterMap Sign.event? = events := by
  induction events with
  | nil => rfl
  | cons event rest ih => exact congrArg (event :: ·) ih

/-- A failed query for the final height between two beats, or a failed fetch. A query that fails
while the start is sought is none of these. -/
def Event.Fails : State → Event → Prop
  | .waiting _, .measured (some (.error _)) => True
  | _, .fetched _ (some (.error _)) => True
  | _, _ => False

/-- The store has replied to a cursor, in whatever way. -/
def Event.Completes : Event → Prop
  | .put _ _ (some _) => True
  | _ => False

/-- The event is none that moves the flag. -/
def Event.Calm (state : State) (event : Event) : Prop :=
  ¬ event.Fails state ∧ ¬ event.Completes

def taking (cursor : Int64) (report : BlockReport) : List Event :=
  .fetched cursor (some (.ok report)) :: handing report

def storing (settings : Settings) (next : Int64) (reply : Option (Except Error Unit)) : Event :=
  .put (Cursor.key settings.chain) (Decimal.ofInt next.toInt) reply

def completion (settings : Settings) (cursor next : Int64) (report : BlockReport)
    (reply : Except Error Unit) : List Event :=
  taking cursor report ++ [storing settings next (some reply)]

/-- What one step tells the scanner, together with what it leaves behind. -/
inductive Tells (settings : Settings) : State → List Sign → Outcome State → Prop where
  | nothing {state : State} {outcome : Outcome State} (events : List Event)
    (calm : ∀ event ∈ events, event.Calm state) :
    Tells settings state (events.map .left) outcome
  | heightFailed {outcome : Outcome State} (cursor : Int64) (failure : Error) :
    Tells settings (.waiting cursor) [.left (.measured (some (.error failure))), .told false]
      outcome
  | fetchFailed {outcome : Outcome State} (cursor final : Int64) (failure : Error) :
    Tells settings (.scanning cursor final)
      [.left (.fetched cursor (some (.error failure))), .told false] outcome
  | completed {outcome : Outcome State} (cursor final next lag : Int64) (report : BlockReport)
    (reply : Except Error Unit) (follows : next.toInt = cursor.toInt + 1)
    (lagged : Checked.sub final next = .ok lag) :
    Tells settings (.scanning cursor final)
      ((completion settings cursor next report reply).map .left ++
        [.told (decide (lag ≤ settings.maxHealthyLag))]) outcome
  | tooFar (cursor final next : Int64) (report : BlockReport) (reply : Except Error Unit)
    (overflow : Overflow) (follows : next.toInt = cursor.toInt + 1)
    (far : Checked.sub final next = .error overflow) :
    Tells settings (.scanning cursor final)
      ((completion settings cursor next report reply).map .left) (.overflowed overflow)

variable {settings : Settings} {signs : List Sign} {outcome : Outcome State}

theorem Tells.silent {state : State} : Tells settings state [] outcome :=
  .nothing [] nofun

theorem Tells.single {state : State} {event : Event} (calm : event.Calm state) :
    Tells settings state [.left event] outcome :=
  .nothing [event] fun _ member => List.mem_singleton.mp member ▸ calm

theorem calm_taking {state : State} {cursor : Int64} {report : BlockReport} {event : Event}
    (member : event ∈ taking cursor report) : event.Calm state := by
  rcases List.mem_cons.mp member with rfl | handed
  · cases state with
    | _ => exact ⟨id, id⟩
  · rcases handing_cases report with ⟨-, none⟩ | ⟨-, delivered⟩
    · rw [none] at handed
      cases handed
    · rw [delivered] at handed
      rw [List.mem_singleton.mp handed]
      cases state with
      | _ => exact ⟨id, id⟩

theorem Tells.delivered (cursor final : Int64) (report : BlockReport)
    (reply : Option (Except Error Unit)) :
    Tells settings (.scanning cursor final)
      [.left (.fetched cursor (some (.ok report))), .left (.delivered report reply)] outcome := by
  refine .nothing [_, _] fun event member => ?_
  rcases List.mem_pair.mp member with rfl | rfl
  · exact ⟨id, id⟩
  · exact ⟨id, id⟩

/-! ### Each state -/

theorem tells_starting (leaves : Leaves watch (start settings) signs outcome) :
    Tells settings .starting signs outcome := by
  rw [start_eq] at leaves
  rcases leaves_ask.mp leaves with ⟨rfl, rfl⟩ | ⟨reply, rest, rfl, behind⟩
  · exact .single ⟨id, id⟩
  · obtain ⟨rfl, rfl⟩ := leaves_done.mp behind
    exact .single ⟨id, id⟩

theorem tells_seeking (leaves : Leaves watch seek signs outcome) :
    Tells settings .seeking signs outcome := by
  rcases leaves_ask.mp leaves with ⟨rfl, rfl⟩ | ⟨reply, rest, rfl, behind⟩
  · exact .single ⟨id, id⟩
  · cases reply with
    | ok cursor =>
        obtain ⟨rfl, rfl⟩ := leaves_done.mp behind
        exact .single ⟨id, id⟩
    | error failure =>
        rcases leaves_ask.mp behind with ⟨rfl, rfl⟩ | ⟨wake, rest, rfl, ended⟩
        · exact .single ⟨id, id⟩
        · cases wake with
          | elapsed =>
              obtain ⟨rfl, rfl⟩ := leaves_done.mp ended
              exact .single ⟨id, id⟩
          | stopped =>
              obtain ⟨rfl, rfl⟩ := leaves_done.mp ended
              exact .single ⟨id, id⟩

theorem tells_waiting {cursor : Int64} (leaves : Leaves watch (measure cursor) signs outcome) :
    Tells settings (.waiting cursor) signs outcome := by
  rcases leaves_ask.mp leaves with ⟨rfl, rfl⟩ | ⟨wake, rest, rfl, behind⟩
  · exact .silent
  · cases wake with
    | stopped =>
        obtain ⟨rfl, rfl⟩ := leaves_done.mp behind
        exact .silent
    | elapsed =>
        rcases leaves_ask.mp behind with ⟨rfl, rfl⟩ | ⟨reply, rest, rfl, measured⟩
        · exact .single ⟨id, id⟩
        · cases reply with
          | ok final =>
              obtain ⟨rfl, rfl⟩ := leaves_done.mp measured
              exact .single ⟨id, id⟩
          | error failure =>
              rcases leaves_ask.mp measured with ⟨rfl, rfl⟩ | ⟨_, rest, rfl, ended⟩
              · exact .heightFailed cursor failure
              · obtain ⟨rfl, rfl⟩ := leaves_done.mp ended
                exact .heightFailed cursor failure

theorem tells_advance {cursor final : Int64} (report : BlockReport)
    (leaves : Leaves watch (advance settings cursor final) signs outcome) :
    Tells settings (.scanning cursor final) ((taking cursor report).map .left ++ signs)
      outcome := by
  unfold advance at leaves
  cases summed : Checked.add cursor 1 with
  | error overflow =>
      rw [summed] at leaves
      obtain ⟨rfl, rfl⟩ := leaves_abort.mp leaves
      rw [List.append_nil]
      exact .nothing _ fun _ member => calm_taking member
  | ok next =>
      have follows : next.toInt = cursor.toInt + 1 := Checked.toInt_of_add summed
      rw [summed] at leaves
      rcases leaves_ask.mp leaves with ⟨rfl, rfl⟩ | ⟨reply, rest, rfl, behind⟩
      · have calm : ∀ event ∈ taking cursor report ++ [storing settings next none],
            event.Calm (.scanning cursor final) := by
          intro event member
          rcases List.mem_append.mp member with taken | last
          · exact calm_taking taken
          · rw [List.mem_singleton.mp last]
            exact ⟨id, id⟩
        have told : Tells settings (.scanning cursor final) _ .stalled := .nothing _ calm
        rw [List.map_append] at told
        exact told
      · change Leaves watch (do
          let lag ← Program.check (Checked.sub final next)
          query (.setHealthy (lag ≤ settings.maxHealthyLag))
          return State.scanning next final) rest outcome at behind
        cases lagged : Checked.sub final next with
        | error overflow =>
            rw [lagged] at behind
            obtain ⟨rfl, rfl⟩ := leaves_abort.mp behind
            have told : Tells settings (.scanning cursor final) _ (.overflowed overflow) :=
              .tooFar cursor final next report reply overflow follows lagged
            rw [completion, List.map_append] at told
            exact told
        | ok lag =>
            rw [lagged] at behind
            have told (ended : Outcome State) : Tells settings (.scanning cursor final) _ ended :=
              .completed cursor final next lag report reply follows lagged
            rw [completion, List.map_append, List.append_assoc] at told
            rcases leaves_ask.mp behind with ⟨rfl, rfl⟩ | ⟨_, rest, rfl, ended⟩
            · exact told _
            · obtain ⟨rfl, rfl⟩ := leaves_done.mp ended
              exact told _

theorem tells_fetch {cursor final : Int64}
    (leaves : Leaves watch (fetch settings cursor final) signs outcome) :
    Tells settings (.scanning cursor final) signs outcome := by
  rcases leaves_ask.mp leaves with ⟨rfl, rfl⟩ | ⟨reply, rest, rfl, behind⟩
  · exact .single ⟨id, id⟩
  · cases reply with
    | error failure =>
        have told (ended : Outcome State) : Tells settings (.scanning cursor final) _ ended :=
          .fetchFailed cursor final failure
        rcases leaves_ask.mp behind with ⟨rfl, rfl⟩ | ⟨_, rest, rfl, waits⟩
        · exact told _
        · rcases leaves_ask.mp waits with ⟨rfl, rfl⟩ | ⟨wake, rest, rfl, ended⟩
          · exact told _
          · cases wake with
            | elapsed =>
                obtain ⟨rfl, rfl⟩ := leaves_done.mp ended
                exact told _
            | stopped =>
                obtain ⟨rfl, rfl⟩ := leaves_done.mp ended
                exact told _
    | ok report =>
        change Leaves watch (deliver report >>= _) rest outcome at behind
        cases empty : report.transfers.isEmpty with
        | true =>
            have none : handing report = [] := if_pos empty
            rw [deliver_of_empty empty] at behind
            have told := tells_advance report behind
            rw [taking, none] at told
            exact told
        | false =>
            rw [deliver_of_full empty] at behind
            rcases leaves_ask.mp behind with ⟨rfl, rfl⟩ | ⟨delivery, rest, rfl, answered⟩
            · exact .delivered cursor final report none
            · cases delivery with
              | error failure =>
                  obtain ⟨rfl, rfl⟩ := leaves_done.mp answered
                  exact .delivered cursor final report _
              | ok =>
                  have told := tells_advance report answered
                  rw [taking, handing_of_full empty] at told
                  exact told

theorem tells_of_leaves {state : State}
    (leaves : Leaves watch (step settings state) signs outcome) :
    Tells settings state signs outcome := by
  cases state with
  | starting => exact tells_starting leaves
  | seeking => exact tells_seeking leaves
  | waiting cursor => exact tells_waiting leaves
  | scanning cursor final =>
      unfold step at leaves
      dsimp only at leaves
      by_cases behind : final < cursor
      · rw [if_pos behind] at leaves
        obtain ⟨rfl, rfl⟩ := leaves_done.mp leaves
        exact .silent
      · rw [if_neg behind] at leaves
        rcases leaves_ask.mp leaves with ⟨rfl, rfl⟩ | ⟨told, rest, rfl, going⟩
        · exact .silent
        · cases told with
          | true =>
              obtain ⟨rfl, rfl⟩ := leaves_done.mp going
              exact .silent
          | false => exact tells_fetch going
  | stopped =>
      obtain ⟨rfl, rfl⟩ := leaves_done.mp leaves
      exact .silent

end TronGateway.Runner
