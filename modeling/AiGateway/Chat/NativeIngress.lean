import AiGateway.Chat.RequestDto
import AiGateway.Lib.ClassValidator
import AiGateway.Lib.JsString

/- What the native chat endpoints accept: `ValidationPipe` over `ChatRequestDto`, then
   `validateChatIngress`. The rules of `content` are the place to look at: its two `@ValidateIf`
   conditions, one for each pair of decorators, name different roles, and so never hold
   together (`content_unvalidated`). What is left of the checks on a content is the length test
   of `validateChatIngress`, which asks any value for its `length`. -/
namespace AiGateway.NativeIngress

open ClassValidator
open Json (Value)

/-! ## The DTOs -/

def gatewayToolCallRules : Rules :=
  [⟨"id", [], [isString]⟩, ⟨"name", [], [isString]⟩, ⟨"arguments", [], [isString]⟩]

/-- `message.role === role`. -/
def roleIs (role : String) (message : Value) : Bool := Json.isText (message.get? "role") role

section Rules
variable (isLength : ℕ → String → Bool)

/-- The two pairs of decorators are rules of one property. -/
def contentRules : ClassValidator.Property where
  name := "content"
  conditions := [validateIf fun message => roleIs "user" message || roleIs "assistant" message,
    validateIf (roleIs "tool")]
  validators := [isString, maxLength isLength 3000, maxLength isLength 32000]

def chatMessageRules : Rules :=
  [⟨"role", [], [isIn ["user", "assistant", "tool"]]⟩,
    ⟨"toolCallId", [validateIf (roleIs "tool")], [isNotEmpty, isString]⟩,
    ⟨"toolCalls", [validateIf (roleIs "assistant"), isOptional], [validateNested gatewayToolCallRules]⟩,
    contentRules isLength]

/-- The validators of the optional properties of a request. -/
structure OptionalProperties where
  params : Option Value → Bool
  conversationId : Option Value → Bool
  tooling : Option Value → Bool
  metadata : Option Value → Bool

def chatRequestRules (optional : OptionalProperties) : Rules :=
  [⟨"modelAlias", [], [isString]⟩,
    ⟨"messages", [], [isArray, arrayMinSize 1, arrayMaxSize 150, validateNested (chatMessageRules isLength)]⟩,
    ⟨"params", [isOptional], [optional.params]⟩,
    ⟨"conversationId", [isOptional], [optional.conversationId]⟩,
    ⟨"tooling", [isOptional], [optional.tooling]⟩,
    ⟨"metadata", [isOptional], [optional.metadata]⟩]

/-- `ValidationPipe` on a parsed body. The parser lets only objects and arrays through; an array
is held to the rules of the DTO as well, and has no `modelAlias`. -/
def validationPipe (optional : OptionalProperties) : Value → Bool
  | .obj members => acceptsObject (chatRequestRules isLength optional) members
  | _ => false

end Rules

/-! ## `validateChatIngress` -/

inductive ChatIngressProfile where
  | native | facadeOpenai | facadeAnthropic
  deriving DecidableEq, Repr

def ChatIngressProfile.text : ChatIngressProfile → String
  | .native => "native"
  | .facadeOpenai => "facade-openai"
  | .facadeAnthropic => "facade-anthropic"

structure IngressLimits where
  maxMessages : ℕ
  maxContentUser : ℕ
  maxContentAssistant : ℕ
  maxContentTool : ℕ

/-- `INGRESS_LIMITS`. -/
def ingressLimits : ChatIngressProfile → IngressLimits
  | .native => ⟨150, 3000, 3000, 32000⟩
  | .facadeOpenai | .facadeAnthropic => ⟨15000, 128000, 128000, 128000⟩

/-- An `HttpException` with its field and issue, or the `TypeError` of a property that is read
on `null` or `undefined`. -/
inductive IngressError where
  | invalid (message field issue : String)
  | typeError (value property : String)
  deriving DecidableEq, Repr

/-- JavaScript's view of a `length` that is not a number: `v > max`, and its text. -/
structure LooseLength where
  exceeds : Value → ℕ → Bool
  text : Value → String

section Ingress
variable (js : LooseLength) (profile : ChatIngressProfile)

/-- `content.length > max`, with the text of the length. -/
def lengthOver (content : Value) (max : ℕ) : Option String :=
  match content with
  | .str s => if max < (JsString.units s).length then some (toString (JsString.units s).length) else none
  | .arr items => if max < items.length then some (toString items.length) else none
  | .obj members =>
    match Value.get? (.obj members) "length" with
    | none => none
    | some (.num n) => if max < n.value then some (js.text (.num n)) else none
    | some v => if js.exceeds v max then some (js.text v) else none
  | _ => none

/-- The limit of a message, and its role; a message of another role is passed over. -/
def roleLimit (message : Value) : Option (ℕ × String) :=
  if roleIs "tool" message then some ((ingressLimits profile).maxContentTool, "tool")
  else if roleIs "user" message then some ((ingressLimits profile).maxContentUser, "user")
  else if roleIs "assistant" message then some ((ingressLimits profile).maxContentAssistant, "assistant")
  else none

def checkMessage (i : ℕ) (message : Value) : Except IngressError Unit :=
  match message with
  | .null => .error (.typeError "null" "role")
  | _ =>
    match roleLimit profile message with
    | none => .ok ()
    | some (maxLength, role) =>
      match (message.get? "content").filter Value.truthy with
      | none => .ok ()
      | some content =>
        match lengthOver js content maxLength with
        | none => .ok ()
        | some length =>
          .error (.invalid ("Message content too long for " ++ profile.text ++ " and role " ++ role ++ ".")
            ("messages[" ++ toString i ++ "].content")
            ("Content length " ++ length ++ " exceeds maximum " ++ toString maxLength))

def checkMessages : ℕ → List Value → Except IngressError Unit
  | _, [] => .ok ()
  | i, message :: messages => do
    checkMessage js profile i message
    checkMessages (i + 1) messages

/-- An array body has no `messages`; after the pipe those of an object are an array. -/
def validateChatIngress (dto : Value) : Except IngressError Unit :=
  match dto.get? "messages" with
  | some (.arr messages) =>
    if (ingressLimits profile).maxMessages < messages.length then
      .error (.invalid ("Too many messages for " ++ profile.text ++ ". Maximum allowed: " ++
        toString (ingressLimits profile).maxMessages) "messages"
        ("Array length " ++ toString messages.length ++ " exceeds maximum " ++
          toString (ingressLimits profile).maxMessages))
    else checkMessages js profile 0 messages
  | _ => .error (.typeError "undefined" "length")

end Ingress

/-! ## Accepted bodies -/

/-- What is not read from the source: the count of characters of class-validator, the validators
of the optional properties, and comparisons with a `length` that is not a number. -/
structure Environment where
  isLength : ℕ → String → Bool
  optional : OptionalProperties
  js : LooseLength

/-- The body passes the pipe and the ingress checks of the native profile. -/
def Accepted (env : Environment) (body : Value) : Prop :=
  validationPipe env.isLength env.optional body = true ∧ validateChatIngress env.js .native body = .ok ()

def messagesOf (body : Value) : List Value :=
  match body.get? "messages" with
  | some (.arr messages) => messages
  | _ => []

/-- The content is a string within the limit of the message's role. -/
def ContentWithinLimits (message : Value) : Prop :=
  ∃ s, message.get? "content" = some (.str s) ∧
    (roleIs "user" message || roleIs "assistant" message → (JsString.units s).length ≤ 3000) ∧
    (roleIs "tool" message → (JsString.units s).length ≤ 32000)

theorem roles_exclusive {first second : String} (hne : first ≠ second) {message : Value}
    (h : roleIs first message = true) : roleIs second message = false := by
  unfold roleIs Json.isText at h ⊢
  split at h
  · simp only [decide_eq_true_eq] at h
    subst h
    simpa using hne
  · cases h

/-- The decorators of `content` check nothing. -/
theorem content_unvalidated (isLength : ℕ → String → Bool) (message : Value) :
    (contentRules isLength).accepts message = true := by
  refine accepts_of_exclusive message (List.mem_cons_self ..) (List.mem_cons_of_mem _ (List.mem_cons_self ..)) ?_
  intro h
  rw [Bool.or_eq_true] at h
  obtain huser | hassistant := h
  · exact roles_exclusive (by decide) huser
  · exact roles_exclusive (by decide) hassistant

section Accepted
variable {js : LooseLength} {profile : ChatIngressProfile}

theorem checkMessages_ok {i : ℕ} {messages : List Value} (h : checkMessages js profile i messages = .ok ()) :
    ∀ message ∈ messages, ∃ j, checkMessage js profile j message = .ok () := by
  induction messages generalizing i with
  | nil =>
    intro message hmem
    cases hmem
  | cons first rest ih =>
    obtain ⟨_, hfirst, hrest⟩ := Fallible.bind_eq_ok.mp h
    intro message hmem
    obtain rfl | hmem := List.mem_cons.mp hmem
    · exact ⟨i, hfirst⟩
    · exact ih hrest message hmem

/-- Each message of an accepted body has passed its own check. -/
theorem checked_of_accepted {env : Environment} {body : Value} (haccepted : Accepted env body) :
    ∀ message ∈ messagesOf body, ∃ i, checkMessage env.js .native i message = .ok () := by
  obtain ⟨-, hingress⟩ := haccepted
  unfold messagesOf
  unfold validateChatIngress at hingress
  split
  · next messages hmessages =>
    rw [hmessages] at hingress
    simp only at hingress
    split at hingress
    · cases hingress
    · exact checkMessages_ok hingress
  · intro message hmem
    cases hmem

/-- What the decorators do make sure of: an accepted message has one of the three roles. An array
in its place passes as a list of messages of its own, and has none. -/
theorem role_of_accepted {env : Environment} {body : Value} (haccepted : Accepted env body) :
    ∀ message ∈ messagesOf body,
      (∃ items, message = .arr items) ∨ ∃ role ∈ ["user", "assistant", "tool"], roleIs role message = true := by
  intro message hmem
  obtain ⟨i, hchecked⟩ := checked_of_accepted haccepted message hmem
  obtain ⟨hpipe, -⟩ := haccepted
  unfold messagesOf at hmem
  split at hmem
  · next messages hmessages =>
    cases body with
    | obj members =>
      have hnested : validateNested (chatMessageRules env.isLength) (some (.arr messages)) = true := by
        have hproperty := property_of_accepted hpipe (List.mem_cons_of_mem _ (List.mem_cons_self ..))
        have hvalid := valid_of_unconditional hproperty rfl (validateNested (chatMessageRules env.isLength)) (by simp)
        rwa [hmessages] at hvalid
      have hmessage : acceptsNested (chatMessageRules env.isLength) message = true :=
        acceptsItems_iff.mp hnested message hmem
      cases message with
      -- class-validator looks into the items of an inner array and asks nothing of the array.
      | arr items => exact .inl ⟨items, rfl⟩
      | obj members =>
        have hrole := valid_of_unconditional (property_of_accepted hmessage (List.mem_cons_self ..)) rfl
          (isIn ["user", "assistant", "tool"]) (by simp)
        right
        unfold isIn at hrole
        split at hrole
        · next s hs =>
          refine ⟨s, List.contains_iff_mem.mp hrole, ?_⟩
          simp [roleIs, hs, Json.isText]
        · cases hrole
      | null => cases hmessage
      | bool b => cases hmessage
      | num n => cases hmessage
      | str s => cases hmessage
    | arr items => cases hmessages
    | null => cases hmessages
    | bool b => cases hmessages
    | num n => cases hmessages
    | str s => cases hmessages
  · cases hmem

/-- A string that has passed is within the limit of the role. -/
theorem length_of_checked {i max : ℕ} {role s : String} {message : Value}
    (hlimit : roleLimit profile message = some (max, role)) (hcontent : message.get? "content" = some (.str s))
    (hchecked : checkMessage js profile i message = .ok ()) : (JsString.units s).length ≤ max := by
  by_cases hempty : s = ""
  · subst hempty
    exact Nat.zero_le _
  · have htruthy : (some (Value.str s)).filter Value.truthy = some (.str s) := by
      simp [Option.filter, Value.truthy, hempty]
    unfold checkMessage at hchecked
    split at hchecked
    · cases hchecked
    · simp only [hlimit, hcontent, htruthy] at hchecked
      split at hchecked
      · next hover =>
        simp only [lengthOver] at hover
        split_ifs at hover with hmax
        omega
      · cases hchecked

theorem limits_of_checked {i : ℕ} {s : String} {message : Value} (hcontent : message.get? "content" = some (.str s))
    (hchecked : checkMessage js .native i message = .ok ()) : ContentWithinLimits message := by
  refine ⟨s, hcontent, ?_, ?_⟩
  · intro hrole
    have hnotTool : roleIs "tool" message = false := by
      obtain huser | hassistant := (Bool.or_eq_true _ _).mp hrole
      · exact roles_exclusive (by decide) huser
      · exact roles_exclusive (by decide) hassistant
    cases huser : roleIs "user" message with
    | true =>
      have hlimit : roleLimit .native message = some (3000, "user") := by
        simp [roleLimit, hnotTool, huser, ingressLimits]
      exact length_of_checked hlimit hcontent hchecked
    | false =>
      have hassistant : roleIs "assistant" message = true := by simpa [huser] using hrole
      have hlimit : roleLimit .native message = some (3000, "assistant") := by
        simp [roleLimit, hnotTool, huser, hassistant, ingressLimits]
      exact length_of_checked hlimit hcontent hchecked
  · intro htool
    have hlimit : roleLimit .native message = some (32000, "tool") := by simp [roleLimit, htool, ingressLimits]
    exact length_of_checked hlimit hcontent hchecked

end Accepted

/-- The contents of an accepted body are as they should be exactly where they are strings to
begin with: nothing on the way has made sure of that. -/
theorem content_within_limits_iff (env : Environment) (body : Value) (haccepted : Accepted env body) :
    (∀ message ∈ messagesOf body, ContentWithinLimits message) ↔
      ∀ message ∈ messagesOf body, ∃ s, message.get? "content" = some (.str s) := by
  constructor
  · intro h message hmem
    obtain ⟨s, hs, -⟩ := h message hmem
    exact ⟨s, hs⟩
  · intro h message hmem
    obtain ⟨s, hs⟩ := h message hmem
    obtain ⟨i, hchecked⟩ := checked_of_accepted haccepted message hmem
    exact limits_of_checked hs hchecked

/-! ## Two bodies -/

/-- `length` counts, and none of the optional properties is sent. -/
def plainEnvironment : Environment where
  isLength := fun max s => (JsString.units s).length ≤ max
  optional := ⟨fun _ => true, fun _ => true, fun _ => true, fun _ => true⟩
  js := ⟨fun _ _ => false, fun _ => ""⟩

def bodyWith (content : Value) : Value :=
  .obj [("modelAlias", .str "chat-default"),
    ("messages", .arr [.obj [("role", .str "user"), ("content", content)]])]

theorem accepted_hi : Accepted plainEnvironment (bodyWith (.str "hi")) := ⟨by decide, by decide⟩

theorem content_within_limits_iff_hi : Accepted plainEnvironment (bodyWith (.str "hi")) ∧
    ∀ message ∈ messagesOf (bodyWith (.str "hi")), ContentWithinLimits message := by
  refine ⟨accepted_hi, ?_⟩
  refine (content_within_limits_iff plainEnvironment (bodyWith (.str "hi")) accepted_hi).mpr ?_
  intro message hmem
  obtain rfl := List.mem_singleton.mp hmem
  exact ⟨"hi", rfl⟩

/-- A user message whose content is `true` is accepted. -/
theorem content_not_a_string : Accepted plainEnvironment (bodyWith (.bool true)) ∧
    ¬ ∀ message ∈ messagesOf (bodyWith (.bool true)), ContentWithinLimits message := by
  refine ⟨⟨by decide, by decide⟩, ?_⟩
  intro h
  obtain ⟨s, hs, -⟩ := h (.obj [("role", .str "user"), ("content", .bool true)]) (List.mem_singleton.mpr rfl)
  cases hs

end AiGateway.NativeIngress
