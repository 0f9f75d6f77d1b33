import TronGateway.Node.Service
import TronGateway.Proofs.Interleaving.Step
import TronGateway.Proofs.Runner.Medium
import TronGateway.Proofs.Scanner.Questions
set_option autoImplicit false

/-!
# Payments one after the other

Calls that sign, calls that broadcast and steps of runners come one after the other over one store
that takes every write. The node is reached over HTTP, a read of the store may fail, and everything
else may be answered in any way. Calls that sign and runners leave the record of payments alone.
-/

namespace TronGateway.Payment

variable {Rest : Type}

/-- The store, and whatever else the answers depend on. -/
structure Archive (Rest : Type) where
  store : Store
  rest : Rest

/-- A node over HTTP, the reads of a store, and everything else that is asked. -/
structure Backend (Rest : Type) where
  service : Service
  exchange : Http.Request → StateM Rest Http.Reply
  /-- Whether the text under a key can be read. -/
  access : String → StateM Rest (Except Error Unit)
  respond : (question : TronGateway.Question) → Rest → Option question.Answer × Rest

namespace Backend

def answer (backend : Backend Rest) :
    (question : TronGateway.Question) → Archive Rest → Option question.Answer × Archive Rest
  | .node call, archive =>
    let (reply, rest) := (call.via backend.service backend.exchange).run archive.rest
    (some reply, { archive with rest })
  | .store (.get key), archive =>
    let (access, rest) := (backend.access key).run archive.rest
    (some (access.map fun _ => archive.store.get? key), { archive with rest })
  | .store call, archive =>
    (some (.ok (archive.store.answer call).1),
      { archive with store := (archive.store.answer call).2 })
  | question, archive =>
    let (reply, rest) := backend.respond question archive.rest
    (reply, { archive with rest })

end Backend

inductive Operation where
  | sign (payer : Payer) (order : Order) (now : Int64)
  | broadcast (order : Order) (payload : String)
  /-- A step of a runner. -/
  | scan (settings : Runner.Settings) (tokens : List Token) (state : Runner.State)

/-- An order that was broadcast, with the id under which that succeeded. -/
structure Paid where
  order : Order
  id : String

structure History (Rest : Type) where
  archive : Archive Rest
  /-- The latest payment is the last one. -/
  payments : List Paid

namespace Backend

def sign (backend : Backend Rest) (payer : Payer) (order : Order) (now : Int64)
    (archive : Archive Rest) : Outcome (Except Error String) × Archive Rest :=
  (signOrder payer order now).run.run backend.answer archive

def broadcast (backend : Backend Rest) (order : Order) (payload : String)
    (archive : Archive Rest) : Outcome (Except Error String) × Archive Rest :=
  (Payment.broadcast order payload).run.run backend.answer archive

def perform (backend : Backend Rest) (history : History Rest) : Operation → History Rest
  | .sign payer order now =>
    { history with archive := (backend.sign payer order now history.archive).2 }
  | .broadcast order payload =>
    match backend.broadcast order payload history.archive with
    | (.finished (.ok id), archive) => ⟨archive, history.payments ++ [⟨order, id⟩]⟩
    | (_, archive) => { history with archive }
  | .scan settings tokens state =>
    { history with
      archive := ((Runner.scanStep settings tokens state).run backend.answer history.archive).2 }

theorem perform_of_broadcast {backend : Backend Rest} {order : Order} {payload id : String}
    {before after : Archive Rest} (payments : List Paid)
    (ended : backend.broadcast order payload before = (.finished (.ok id), after)) :
    backend.perform ⟨before, payments⟩ (.broadcast order payload) =
      ⟨after, payments ++ [⟨order, id⟩]⟩ := by
  unfold perform
  dsimp only
  rw [ended]

/-- Performs operations one after the other. -/
def performAll (backend : Backend Rest) (operations : List Operation) (archive : Archive Rest) :
    History Rest :=
  operations.foldl backend.perform ⟨archive, []⟩

end Backend

/-- The id of the latest payment among those with a certain vault or fingerprint. -/
def lastId? (trait : Order → String) (value : String) (payments : List Paid) : Option String :=
  (payments.reverse.find? fun paid => trait paid.order = value).map Paid.id

theorem lastId?_concat (trait : Order → String) (value : String) (payments : List Paid)
    (paid : Paid) :
    lastId? trait value (payments ++ [paid]) =
      if trait paid.order = value then some paid.id else lastId? trait value payments := by
  unfold lastId?
  rw [List.reverse_concat, List.find?_cons]
  by_cases same : trait paid.order = value
  · rw [decide_eq_true same, if_pos same]
    rfl
  · rw [decide_eq_false same, if_neg same]

theorem isSome_lastId? (trait : Order → String) {payments : List Paid} {paid : Paid}
    (member : paid ∈ payments) : (lastId? trait (trait paid.order) payments).isSome := by
  unfold lastId?
  rw [Option.isSome_map, List.find?_isSome]
  exact ⟨paid, List.mem_reverse.mpr member, decide_eq_true rfl⟩

/-! ### What spares the record -/

/-- The question changes no text but the cursor of a chain. -/
def SparesRecord : TronGateway.Question → Prop
  | .store (.get _) => True
  | .store (.put key _) => ∃ chain, key = Cursor.key chain
  | .store (.delete _) => False
  | _ => True

theorem sparesRecord_of_isQuiet {question : TronGateway.Question} (quiet : IsQuiet question) :
    SparesRecord question := by
  cases question with
  | store call => cases quiet
  | _ => trivial

theorem sparesRecord_of_isSurveying {question : TronGateway.Question}
    (surveying : Scanner.IsSurveying question) : SparesRecord question := by
  cases question with
  | store call =>
      rcases surveying with preparing | reporting
      · cases preparing
      · cases reporting
  | _ => trivial

theorem asks_signOrder (payer : Payer) (order : Order) (now : Int64) :
    (signOrder payer order now).run.Asks SparesRecord := by
  rw [run_signOrder]
  refine .ask _ _ trivial fun reply => ?_
  exact (asks_afterRecord payer order now reply).mono fun _ => sparesRecord_of_isQuiet

theorem asks_scannerHeight : Scanner.height.run.Asks SparesRecord := by
  apply Action.asks_bind (Action.asks_node trivial)
  intro tip
  apply Action.asks_bind (Action.asks_check _)
  intro final
  exact Action.asks_pure _

theorem asks_scannerFetch (tokens : List Token) (height : Int64) :
    (Scanner.fetch tokens height).run.Asks SparesRecord := by
  rw [Scanner.run_fetch]
  refine .ask _ _ trivial fun reply => ?_
  cases reply with
  | error failure => exact .done _
  | ok block =>
      have surveys : (Scanner.survey tokens height block).Asks SparesRecord :=
        (Scanner.asks_survey block).mono fun _ => sparesRecord_of_isSurveying
      exact surveys.bind fun transfers => .ask _ _ trivial fun _ => .done _

theorem asks_onScanner (tokens : List Token) {chain : String} (question : Runner.Question)
    (minds : question.Minds chain) : (Runner.onScanner tokens question).Asks SparesRecord := by
  cases question with
  | store call =>
      cases call with
      | get key => exact .ask _ _ trivial fun _ => .done _
      | put key text => exact .ask _ _ ⟨chain, minds⟩ fun _ => .done _
      | delete key => cases minds
  | height => exact asks_scannerHeight
  | fetch height => exact asks_scannerFetch tokens height
  | setHealthy healthy => exact .ask _ _ trivial fun _ => .done _
  | deliver report => exact .ask _ _ trivial fun _ => .done _
  | wait pause => exact .ask _ _ trivial fun _ => .done _
  | isStopped => exact .ask _ _ trivial fun _ => .done _

theorem asks_scanStep (settings : Runner.Settings) (tokens : List Token) (state : Runner.State) :
    (Runner.scanStep settings tokens state).Asks SparesRecord :=
  (Runner.asks_step settings state).relay (asks_onScanner tokens)

structure SameRecord (before after : Store) : Prop where
  order : ∀ fingerprint, after.get? (PaymentRecord.orderKey fingerprint) =
    before.get? (PaymentRecord.orderKey fingerprint)
  vault : ∀ vault, after.get? (PaymentRecord.vaultKey vault) =
    before.get? (PaymentRecord.vaultKey vault)

variable (backend : Backend Rest)

theorem SameRecord.answered {before : Store} {archive : Archive Rest}
    (same : SameRecord before archive.store) {question : TronGateway.Question}
    (spares : SparesRecord question) :
    SameRecord before (backend.answer question archive).2.store := by
  cases question with
  | store call =>
      cases call with
      | get key => exact same
      | put key text =>
          -- A cursor has a key that is neither an order's nor a vault's.
          obtain ⟨chain, rfl⟩ := spares
          exact {
            order := fun fingerprint =>
              (Store.get?_put_other _ (PaymentRecord.orderKey_ne_cursorKey _ _) text).trans
                (same.order fingerprint)
            vault := fun vault =>
              (Store.get?_put_other _ (PaymentRecord.vaultKey_ne_cursorKey _ _) text).trans
                (same.vault vault) }
      | delete key => cases spares
  | _ => exact same

theorem sameRecord_of_asks {α : Type} {activity : Activity α} (asks : activity.Asks SparesRecord)
    (archive : Archive Rest) :
    SameRecord archive.store (activity.run backend.answer archive).2.store := by
  let invariant (later : Archive Rest) : Prop := SameRecord archive.store later.store
  have unchanged : invariant archive := ⟨fun _ => rfl, fun _ => rfl⟩
  have kept : ∀ question later, SparesRecord question → invariant later →
      invariant (backend.answer question later).2 :=
    fun _ _ spares same => same.answered backend spares
  exact asks.keeps kept unchanged

end TronGateway.Payment
