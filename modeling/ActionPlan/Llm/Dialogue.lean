import Mathlib.Data.List.GetD
import ActionPlan.Foundation.Procedures
import ActionPlan.Llm.Replies

/-! # The dialogue of a structured call

`chat_json` of `llm/provider.py` with the model that it talks to, whose answers can depend on all
that was said before. A reply that is rejected is answered with the same instruction and a
correction more.
-/

namespace ActionPlan.Llm

open ActionPlan.Foundation ActionPlan.Foundation.Procedure ActionPlan.Models

/-- A chat model with whatever its answers depend on; a request can fail. -/
abbrev Chat (World : Type) := World → List Char → Except Exn (List Char) × World

/-- The model, with what it was sent and what it replied. -/
structure Conversation (World : Type) where
  world : World
  prompts : List (List Char) := []
  replies : List (List Char) := []

/-- A call of `chat_json`: the instruction of its schema, the prompt, and what `_error_summary`
says of a reply that is rejected. -/
structure StructuredCall (Model : Type) where
  loads : Decoder
  schema : ResponseModel Model
  instruction : List Char
  prompt : List Char
  errorSummary : List Char → Rejection → List Char

/-- What a rejection adds to the instruction. -/
def correction (summary : List Char) : List Char :=
  "\nYour previous response was rejected:\n".toList ++ summary ++
    ("\n\nSend ONLY a corrected JSON object now. Start it with '\x7b' and end it with '\x7d'. " ++
      "Include every field named in the SCHEMA above with real content for this scenario. " ++
      "Do NOT output a schema, and do NOT return an empty object or empty lists unless there is " ++
      "genuinely nothing to report.").toList

section Loop

variable {World Model : Type} (chat : Chat World) (call : StructuredCall Model)

/-- `chat`. -/
def ask (prompt : List Char) : Procedure (Conversation World) Exn (List Char) := fun conversation =>
  match chat conversation.world prompt with
  | (.ok reply, world) =>
    (.ok reply,
      { world
        prompts := conversation.prompts ++ [prompt]
        replies := conversation.replies ++ [reply] })
  | (.error failure, world) =>
    (.error failure, { conversation with world, prompts := conversation.prompts ++ [prompt] })

/-- The prompt with an instruction. -/
def StructuredCall.full (instruction : List Char) : List Char :=
  instruction ++ "\n\n".toList ++ call.prompt

/-- What is raised in the end. -/
def StructuredCall.invalid (reply : List Char) (rejection : Rejection) : Exn :=
  .runtimeError ("LLM returned invalid structured output: " ++
    String.ofList (call.errorSummary reply rejection))

/-- The loop of `chat_json`. -/
def attempts : Nat → List Char → Procedure (Conversation World) Exn Model
  | 0, instruction => do
    let raw ← ask chat (call.full instruction)
    match attempt call.loads call.schema raw with
    | .ok model => pure model
    | .error rejection => throw (call.invalid raw rejection)
  | retries + 1, instruction => do
    let raw ← ask chat (call.full instruction)
    match attempt call.loads call.schema raw with
    | .ok model => pure model
    | .error rejection =>
      attempts retries (instruction ++ correction (call.errorSummary raw rejection))

/-- `chat_json`. -/
def StructuredCall.run (retries : Nat) : Procedure (Conversation World) Exn Model :=
  attempts chat call retries call.instruction

end Loop

section Dialogue

variable {World Model : Type} (call : StructuredCall Model)

/-- A reply that is answered with a correction. -/
def StructuredCall.Rejects (reply : List Char) : Prop :=
  ∃ rejection, attempt call.loads call.schema reply = .error rejection

/-- The correction of a reply. -/
def StructuredCall.answerTo (reply : List Char) : List Char :=
  match attempt call.loads call.schema reply with
  | .ok _ => []
  | .error rejection => correction (call.errorSummary reply rejection)

/-- The prompt after replies: the instruction with the corrections of all of them. -/
def StructuredCall.promptAfter (replies : List (List Char)) : List Char :=
  call.full (call.instruction ++ replies.flatMap call.answerTo)

/-- Each prompt is the one after the replies before it. -/
def Prompted (conversation : Conversation World) : Prop :=
  ∀ number < conversation.prompts.length,
    conversation.prompts[number]? = some (call.promptAfter (conversation.replies.take number))

/-- All replies were rejected, and the next prompt is due. -/
structure Open (conversation : Conversation World) : Prop where
  prompted : Prompted call conversation
  answered : conversation.prompts.length = conversation.replies.length
  rejected : ∀ reply ∈ conversation.replies, call.Rejects reply

/-- The model is read from the last reply, the first that was not rejected. -/
def Returns (limit : Nat) (model : Model) (conversation : Conversation World) : Prop :=
  Prompted call conversation ∧
    ∃ earlier reply, conversation.replies = earlier ++ [reply] ∧
      conversation.prompts.length = earlier.length + 1 ∧ earlier.length < limit ∧
      (∀ other ∈ earlier, call.Rejects other) ∧
      attempt call.loads call.schema reply = .ok model

/-- Either every reply was rejected until the limit, or the last request has failed. -/
def Raises (chat : Chat World) (limit : Nat) (failure : Exn) (conversation : Conversation World) :
    Prop :=
  Prompted call conversation ∧ (∀ reply ∈ conversation.replies, call.Rejects reply) ∧
    ((conversation.prompts.length = limit ∧
        ∃ earlier reply rejection, conversation.replies = earlier ++ [reply] ∧
          earlier.length + 1 = limit ∧
          attempt call.loads call.schema reply = .error rejection ∧
          failure = call.invalid reply rejection) ∨
      (conversation.prompts.length = conversation.replies.length + 1 ∧
        conversation.prompts.length ≤ limit ∧
        ∃ before prompt, conversation.prompts.getLast? = some prompt ∧
          chat before prompt = (.error failure, conversation.world)))

variable {call} {conversation : Conversation World} {chat : Chat World}

/-- The prompt that is due is the next one, whatever comes of it. -/
theorem Open.prompted_next (opened : Open call conversation) (world : World)
    (more : List (List Char)) : Prompted call
      { world
        prompts := conversation.prompts ++ [call.promptAfter conversation.replies]
        replies := conversation.replies ++ more } := by
  intro number bound
  dsimp only at bound ⊢
  rw [List.length_append, List.length_singleton] at bound
  rcases Nat.lt_succ_iff_lt_or_eq.mp bound with earlier | same
  · have upto : number ≤ conversation.replies.length := opened.answered ▸ earlier.le
    rw [List.getElem?_append_left earlier, List.take_append_of_le_length upto]
    exact opened.prompted number earlier
  · rw [same, List.getElem?_concat_length, opened.answered, List.take_left]

/-- A rejected reply leaves the next prompt due. -/
theorem Open.reject (opened : Open call conversation) (world : World) {reply : List Char}
    (rejected : call.Rejects reply) : Open call
      { world
        prompts := conversation.prompts ++ [call.promptAfter conversation.replies]
        replies := conversation.replies ++ [reply] } where
  prompted := opened.prompted_next world [reply]
  answered := by
    dsimp only
    rw [List.length_append, List.length_append, opened.answered, List.length_singleton,
      List.length_singleton]
  rejected other member := by
    rcases List.mem_append.mp member with earlier | same
    · exact opened.rejected other earlier
    · rw [List.mem_singleton.mp same]
      exact rejected

/-- A request that fails within the limit. -/
theorem Open.raises (opened : Open call conversation) {limit : Nat}
    (room : conversation.replies.length < limit) {failure : Exn} {world : World}
    (broken : chat conversation.world (call.promptAfter conversation.replies) =
      (.error failure, world)) :
    Raises call chat limit failure
      { conversation with
        world
        prompts := conversation.prompts ++ [call.promptAfter conversation.replies] } := by
  have prompted := opened.prompted_next world []
  rw [List.append_nil] at prompted
  refine ⟨prompted, opened.rejected, .inr ⟨?_, ?_, conversation.world, _, ?_, broken⟩⟩
  · rw [List.length_append, opened.answered, List.length_singleton]
  · rw [List.length_append, opened.answered, List.length_singleton]
    exact room
  · exact List.getLast?_concat

/-- A reply within the limit that is accepted. -/
theorem Open.returns (opened : Open call conversation) {limit : Nat}
    (room : conversation.replies.length < limit) (world : World) {reply : List Char} {model : Model}
    (accepted : attempt call.loads call.schema reply = .ok model) : Returns call limit model
      { world
        prompts := conversation.prompts ++ [call.promptAfter conversation.replies]
        replies := conversation.replies ++ [reply] } := by
  refine ⟨opened.prompted_next world [reply], conversation.replies, reply, rfl, ?_, room,
    opened.rejected, accepted⟩
  rw [List.length_append, opened.answered, List.length_singleton]

theorem ends_ask (prompt : List Char) {returned : List Char → Conversation World → Prop}
    {raised : Exn → Conversation World → Prop}
    (replied : ∀ reply world, returned reply
      { world
        prompts := conversation.prompts ++ [prompt]
        replies := conversation.replies ++ [reply] })
    (failed : ∀ failure world, chat conversation.world prompt = (.error failure, world) →
      raised failure { conversation with world, prompts := conversation.prompts ++ [prompt] }) :
    (ask chat prompt).Ends conversation returned raised := by
  unfold Ends ask
  cases answer : chat conversation.world prompt with
  | mk result world =>
    cases result with
    | ok reply => exact replied reply world
    | error failure => exact failed failure world answer

/-- The attempts that are left go on with the dialogue. -/
theorem ends_attempts (retries : Nat) (opened : Open call conversation) {limit : Nat}
    (room : conversation.replies.length + retries + 1 = limit) {instruction : List Char}
    (corrected : instruction = call.instruction ++ conversation.replies.flatMap call.answerTo) :
    (attempts chat call retries instruction).Ends conversation (Returns call limit)
      (Raises call chat limit) := by
  have within : conversation.replies.length < limit := by omega
  induction retries generalizing conversation instruction with
  | zero =>
    rw [attempts, corrected, ends_bind]
    refine ends_ask _ (fun reply world => ?_) fun _ _ => opened.raises within
    cases read : attempt call.loads call.schema reply with
    | ok model => exact opened.returns within world read
    | error rejection =>
      have later := opened.reject world ⟨rejection, read⟩
      refine ⟨later.prompted, later.rejected, .inl ⟨?_, ?_⟩⟩
      · refine later.answered.trans (List.length_append.trans ?_)
        exact room
      · exact ⟨conversation.replies, reply, rejection, rfl, room, read, rfl⟩
  | succ retries ih =>
    rw [attempts, corrected, ends_bind]
    refine ends_ask _ (fun reply world => ?_) fun _ _ => opened.raises within
    cases read : attempt call.loads call.schema reply with
    | ok model => exact opened.returns within world read
    | error rejection =>
      have later := opened.reject world ⟨rejection, read⟩
      have longer : (conversation.replies ++ [reply]).length = conversation.replies.length + 1 :=
        List.length_append
      refine ih later ?_ ?_ ?_
      · dsimp only
        omega
      · rw [List.flatMap_append, List.flatMap_singleton, ← List.append_assoc,
          StructuredCall.answerTo, read]
      · dsimp only
        omega

/-- The attempts with given replies end with the first that is accepted. -/
theorem attemptsFrom_of_first {loads : Decoder} {schema : ResponseModel Model}
    {replies : Nat → List Char} {number skipped retries : Nat} {model : Model}
    (within : skipped ≤ retries)
    (rejected : ∀ earlier < skipped, ∃ rejection,
      attempt loads schema (replies (number + earlier)) = .error rejection)
    (accepted : attempt loads schema (replies (number + skipped)) = .ok model) :
    attemptsFrom loads schema replies number retries = .ok model := by
  induction skipped generalizing number retries with
  | zero =>
    rw [Nat.add_zero] at accepted
    cases retries with
    | zero => exact accepted
    | succ retries => rw [attemptsFrom, accepted]
  | succ skipped ih =>
    obtain ⟨retries, rfl⟩ := Nat.exists_eq_add_of_lt within
    obtain ⟨rejection, first⟩ := rejected 0 (Nat.succ_pos skipped)
    rw [Nat.add_zero] at first
    rw [attemptsFrom, first]
    refine ih (by omega) (fun earlier less => ?_) ?_
    · have later := rejected (earlier + 1) (by omega)
      rwa [show number + (earlier + 1) = number + 1 + earlier by omega] at later
    · rwa [show number + (skipped + 1) = number + 1 + skipped by omega] at accepted

/-- What is returned is the answer to the replies taken by themselves. -/
theorem Returns.chatJson {retries : Nat} {model : Model}
    (returns : Returns call (retries + 1) model conversation) :
    chatJson call.loads call.schema (fun number => conversation.replies.getD number []) retries =
      .ok model := by
  obtain ⟨-, earlier, reply, replies, -, within, rejected, accepted⟩ := returns
  refine attemptsFrom_of_first (Nat.lt_succ_iff.mp within) (fun number less => ?_) ?_
  · refine rejected _ ?_
    rw [Nat.zero_add, replies, List.getD_append _ _ _ _ less, List.getD_eq_getElem _ _ less]
    exact List.getElem_mem less
  · rw [Nat.zero_add, replies, List.getD_append_right _ _ _ _ (Nat.le_refl _), Nat.sub_self]
    exact accepted

variable (chat call) in
/-- **A structured call.** Whatever the model replies, and however this depends on what it was
sent, it is sent at most one prompt more than there are retries, and each is the instruction with
the corrections of all replies so far, then the prompt. The call returns what it reads of the
first reply that is not rejected, and asks no further; it raises when a request fails, or when as
many replies as it allows were rejected, with the error of the last. -/
theorem chat_json_dialogue (retries : Nat) (world : World) :
    (call.run chat retries).Ends { world }
      (fun model next => Returns call (retries + 1) model next ∧
        chatJson call.loads call.schema (fun number => next.replies.getD number []) retries =
          .ok model)
      (Raises call chat (retries + 1)) := by
  have opened : Open call ({ world } : Conversation World) := by
    refine ⟨?_, rfl, ?_⟩
    · intro number impossible
      exact absurd impossible (Nat.not_lt_zero number)
    · intro reply absent
      cases absent
  refine (ends_attempts retries opened ?_ ?_).mono (fun _ _ returns => ⟨returns, returns.chatJson⟩)
    fun _ _ => id
  · exact congrArg (· + 1) (Nat.zero_add retries)
  · exact (List.append_nil _).symm

end Dialogue

end ActionPlan.Llm
