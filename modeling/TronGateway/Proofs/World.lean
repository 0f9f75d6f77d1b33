import TronGateway.Proofs.Action
set_option autoImplicit false

/-!
# The scanner's surroundings

The shared memory and the two queues of the scanner are kept here; how everything else answers is
left open. A queue gains a fee or a statement when it takes it, and whether it takes it is left open
too.
-/

namespace TronGateway

/-- The memory, what the queues have taken so far, and whatever else the answers depend on. -/
structure World (Rest : Type) where
  memory : Memory
  fees : List NetworkFee
  reports : List Solvency
  rest : Rest

namespace World

variable {Rest : Type}

def opening (rest : Rest) : World Rest := ⟨.initial, [], [], rest⟩

def answer (respond : (question : Question) → Rest → Option question.Answer × Rest) :
    (question : Question) → World Rest → Option question.Answer × World Rest
  | .memory, world => (some world.memory, world)
  | .remember change, world => (some (), { world with memory := world.memory.apply change })
  | .publishFee fee, world =>
    match respond (.publishFee fee) world.rest with
    | (some (.ok ()), rest) => (some (.ok ()), { world with fees := world.fees ++ [fee], rest })
    | (reply, rest) => (reply, { world with rest })
  | .offerSolvency report, world =>
    match respond (.offerSolvency report) world.rest with
    | (some .taken, rest) =>
      (some .taken, { world with reports := world.reports ++ [report], rest })
    | (reply, rest) => (reply, { world with rest })
  | question, world =>
    ((respond question world.rest).1, { world with rest := (respond question world.rest).2 })

variable {respond : (question : Question) → Rest → Option question.Answer × Rest}
  {world : World Rest}

theorem answer_publishFee (respond : (question : Question) → Rest → Option question.Answer × Rest)
    (world : World Rest) (fee : NetworkFee) :
    (∃ rest, answer respond (.publishFee fee) world =
        (some (.ok ()), { world with fees := world.fees ++ [fee], rest })) ∨
      ∃ reply rest, reply ≠ some (.ok ()) ∧
        answer respond (.publishFee fee) world = (reply, { world with rest }) := by
  rw [answer]
  rcases respond (.publishFee fee) world.rest with ⟨_ | failure | _, rest⟩
  · exact .inr ⟨none, rest, nofun, rfl⟩
  · exact .inr ⟨some (.error failure), rest, nofun, rfl⟩
  · exact .inl ⟨rest, rfl⟩

theorem answer_offerSolvency
    (respond : (question : Question) → Rest → Option question.Answer × Rest)
    (world : World Rest) (report : Solvency) :
    ∃ reply pushed rest, answer respond (.offerSolvency report) world =
      (reply, { world with reports := world.reports ++ pushed, rest }) := by
  rw [answer]
  rcases respond (.offerSolvency report) world.rest with ⟨_ | _ | _ | _, rest⟩
  · exact ⟨none, [], rest, by rw [List.append_nil]⟩
  · exact ⟨some .taken, [report], rest, rfl⟩
  · exact ⟨some .closed, [], rest, by rw [List.append_nil]⟩
  · exact ⟨some .timedOut, [], rest, by rw [List.append_nil]⟩

/-- The memory changes only where something is to be remembered. -/
theorem memory_answer (question : Question) (world : World Rest) :
    (answer respond question world).2.memory = world.memory ∨
      ∃ change, question = .remember change ∧
        (answer respond question world).2.memory = world.memory.apply change := by
  cases question with
  | publishFee fee =>
      rcases answer_publishFee respond world fee with
        ⟨rest, answered⟩ | ⟨reply, rest, -, answered⟩
      · exact .inl (by rw [answered])
      · exact .inl (by rw [answered])
  | offerSolvency report =>
      obtain ⟨reply, pushed, rest, answered⟩ := answer_offerSolvency respond world report
      exact .inl (by rw [answered])
  | remember change => exact .inr ⟨change, rfl, rfl⟩
  | _ => exact .inl rfl

theorem answered (replies : ∀ question rest, ∃ reply after,
      respond question rest = (some reply, after)) (question : Question) (world : World Rest) :
    ∃ reply after, answer respond question world = (some reply, after) := by
  obtain ⟨reply, rest, replied⟩ := replies question world.rest
  cases question with
  | publishFee fee =>
      rw [answer, replied]
      rcases reply with failure | done
      · exact ⟨_, _, rfl⟩
      · exact ⟨_, _, rfl⟩
  | offerSolvency report =>
      rw [answer, replied]
      cases reply with
      | taken => exact ⟨_, _, rfl⟩
      | closed => exact ⟨_, _, rfl⟩
      | timedOut => exact ⟨_, _, rfl⟩
  | memory => exact ⟨_, _, rfl⟩
  | remember change => exact ⟨_, _, rfl⟩
  | _ =>
      rw [answer, replied]
      · exact ⟨_, _, rfl⟩
      all_goals nofun

end World
end TronGateway
