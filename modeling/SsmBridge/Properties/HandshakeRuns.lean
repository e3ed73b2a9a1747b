import SsmBridge.Construction.Deliver
import SsmBridge.Framework.Machine

/-!
# The handshake as a state machine

What holds of a `HandshakeHandler` over every sequence of `on_request` and `on_complete` calls, with
any requests and any answers of KMS.  `HandshakeRun` keeps the requests that were answered, with
their responses; `HandshakeRun.Negotiated` is the invariant that connects them to the state of the
handler.  It rests on `processActions_spec`, by induction over the requested actions: whatever is
mixed and repeated among them, a list of results without a failure leaves the cipher that the last
encryption action negotiated.
-/

namespace SsmBridge

open Machine

/-! ## Runs -/

/-- A call of the handler. -/
inductive HandshakeCall
  | request (request : HandshakeRequest)
  | complete (complete : HandshakeComplete)

/-- A handler and the requests it has answered. -/
structure HandshakeRun where
  handler : HandshakeHandler
  /-- KMS calls made so far. -/
  calls : ℕ
  answered : List (HandshakeRequest × HandshakeResponse)

namespace HandshakeRun

def new (kms : KmsSupport) : HandshakeRun where
  handler := .new kms
  calls := 0
  answered := []

/-- `on_request`. -/
def request (codec : HandshakeCodec) (kms : KmsOracle) (w : HandshakeRun)
    (request : HandshakeRequest) : Except Error (Option HandshakeResponse) × HandshakeRun :=
  let (result, handler, calls) := w.handler.onRequest codec kms w.calls request
  let answered :=
    match result with
    | .ok (some response) => w.answered ++ [(request, response)]
    | _ => w.answered
  (result, ⟨handler, calls, answered⟩)

/-- `on_complete`. -/
def complete (w : HandshakeRun) (complete : HandshakeComplete) :
    Except Error (Option String) × HandshakeRun :=
  let (result, handler) := w.handler.onComplete complete
  (result, { w with handler })

def step (codec : HandshakeCodec) (kms : KmsOracle) (w : HandshakeRun) :
    HandshakeCall → Option HandshakeRun
  | .request r => some (w.request codec kms r).2
  | .complete c => some (w.complete c).2

end HandshakeRun

/-! ## The requested actions -/

/-- The encryption action that was performed last. -/
def lastKmsEncryption (results : List ProcessedClientAction) : Option ProcessedClientAction :=
  (results.filter (fun a => decide (a.actionType = .kmsEncryption))).getLast?

/-- The action was performed. -/
def ProcessedClientAction.succeeded (a : ProcessedClientAction) : Bool :=
  decide (a.actionStatus = .success)

/-- The cipher is the one of the last encryption action, or the one there was before. -/
def Negotiates (codec : HandshakeCodec) (results : List ProcessedClientAction)
    (before after : Option SessionCrypto) : Prop :=
  match lastKmsEncryption results with
  | some action => ∃ crypto, after = some crypto ∧
      action.actionResult = some (codec.kmsCipherTextKey crypto.cipherTextBlob)
  | none => after = before

section

variable {codec : HandshakeCodec} {kms : KmsOracle} {h : HandshakeHandler} {calls : ℕ}
  {a : ProcessedClientAction} {results : List ProcessedClientAction}
  {action : RequestedClientAction} {x y z : Option SessionCrypto}

lemma Negotiates.nil : Negotiates codec [] x x := rfl

lemma lastKmsEncryption_sessionType (ha : a.actionType = .sessionType) :
    lastKmsEncryption (a :: results) = lastKmsEncryption results := by
  simp [lastKmsEncryption, ha]

/-- An action that leaves the cipher alone, followed by others. -/
lemma Negotiates.sessionType (ha : a.actionType = .sessionType)
    (hrest : Negotiates codec results x y) : Negotiates codec (a :: results) x y := by
  rw [Negotiates, lastKmsEncryption_sessionType ha]
  exact hrest

/-- An encryption action, followed by others. -/
lemma Negotiates.kmsEncryption {crypto : SessionCrypto} (ha : a.actionType = .kmsEncryption)
    (hresult : a.actionResult = some (codec.kmsCipherTextKey crypto.cipherTextBlob))
    (hrest : Negotiates codec results (some crypto) y) : Negotiates codec (a :: results) x y := by
  have hlast : lastKmsEncryption (a :: results) = some ((lastKmsEncryption results).getD a) := by
    simp [lastKmsEncryption, ha, List.getLast?_cons]
  rw [Negotiates, hlast]
  unfold Negotiates at hrest
  cases hrest' : lastKmsEncryption results with
  | none =>
    rw [hrest'] at hrest
    exact ⟨crypto, hrest, hresult⟩
  | some b =>
    rw [hrest'] at hrest
    exact hrest

/-- What performing a list of actions comes to. -/
structure Performed (codec : HandshakeCodec) (h : HandshakeHandler)
    (actions : List RequestedClientAction) (results : List ProcessedClientAction)
    (h' : HandshakeHandler) : Prop where
  types : results.map (·.actionType) = actions.map (·.actionType)
  errors : ∀ a ∈ results, a.error.isNone = a.succeeded
  state : h'.state = h.state
  crypto : (∀ a ∈ results, a.succeeded = true) → Negotiates codec results h.crypto h'.crypto

section

variable {rest : List RequestedClientAction} {h' : HandshakeHandler}

/-- An action that failed, followed by others. -/
lemma Performed.failed (hrest : Performed codec h rest results h')
    (htype : a.actionType = action.actionType) (hfailed : a.succeeded = false)
    (herror : a.error.isNone = false) : Performed codec h (action :: rest) (a :: results) h' where
  types := by simp [hrest.types, htype]
  errors := by simpa [herror, hfailed] using hrest.errors
  state := hrest.state
  crypto hall := by
    have hsucceeded := hall a List.mem_cons_self
    simp [hfailed] at hsucceeded

lemma handleSessionType_spec (haction : action.actionType = .sessionType)
    (hrest : Performed codec (h.handleSessionType codec action).2 rest results h') :
    Performed codec h (action :: rest) ((h.handleSessionType codec action).1 :: results) h' := by
  cases hraw : codec.sessionType action.actionParameters with
  | error e =>
    simp only [HandshakeHandler.handleSessionType, hraw] at hrest ⊢
    exact hrest.failed haction.symm rfl rfl
  | ok raw =>
    simp only [HandshakeHandler.handleSessionType, hraw] at hrest ⊢
    refine ⟨?_, ?_, hrest.state, fun hall => ?_⟩
    · simp [hrest.types, haction, success]
    · simpa [success, ProcessedClientAction.succeeded] using hrest.errors
    · exact .sessionType rfl (hrest.crypto fun a ha => hall a (List.mem_cons_of_mem _ ha))

lemma handleKmsEncryption_spec (haction : action.actionType = .kmsEncryption)
    (hrest : Performed codec (h.handleKmsEncryption codec kms calls action).2.1 rest results h') :
    Performed codec h (action :: rest)
      ((h.handleKmsEncryption codec kms calls action).1 :: results) h' := by
  cases hkms : h.kms with
  | notCompiled =>
    simp only [HandshakeHandler.handleKmsEncryption, hkms] at hrest ⊢
    exact hrest.failed haction.symm rfl rfl
  | noClient =>
    simp only [HandshakeHandler.handleKmsEncryption, hkms] at hrest ⊢
    exact hrest.failed haction.symm rfl rfl
  | client context =>
    cases hkey : codec.kmsKeyId action.actionParameters with
    | error e =>
      simp only [HandshakeHandler.handleKmsEncryption, hkms, hkey] at hrest ⊢
      exact hrest.failed haction.symm rfl rfl
    | ok keyId =>
      cases hcrypto : SessionCrypto.negotiate (kms calls keyId context) with
      | error e =>
        simp only [HandshakeHandler.handleKmsEncryption, hkms, hkey, hcrypto] at hrest ⊢
        exact hrest.failed haction.symm rfl rfl
      | ok crypto =>
        simp only [HandshakeHandler.handleKmsEncryption, hkms, hkey, hcrypto] at hrest ⊢
        refine ⟨?_, ?_, hrest.state, fun hall => ?_⟩
        · simp [hrest.types, haction, success]
        · simpa [success, ProcessedClientAction.succeeded] using hrest.errors
        · exact .kmsEncryption rfl rfl
            (hrest.crypto fun a ha => hall a (List.mem_cons_of_mem _ ha))

end

/-- The requested actions, in order. -/
theorem processActions_spec (codec : HandshakeCodec) (kms : KmsOracle) (calls : ℕ)
    (h : HandshakeHandler) (actions : List RequestedClientAction) :
    Performed codec h actions (HandshakeHandler.processActions codec kms calls h actions).1
      (HandshakeHandler.processActions codec kms calls h actions).2.1 := by
  induction actions generalizing calls h with
  | nil => exact ⟨rfl, fun a ha => (by cases ha), rfl, fun _ => .nil⟩
  | cons action rest ih =>
    cases haction : action.actionType with
    | sessionType =>
      simp only [HandshakeHandler.processActions, haction]
      exact handleSessionType_spec haction (ih _ _)
    | kmsEncryption =>
      simp only [HandshakeHandler.processActions, haction]
      exact handleKmsEncryption_spec haction (ih _ _)

end

/-! ## Over whole runs -/

/-- The response answers every action, in order, and lists the errors of those that failed. -/
structure Answers (request : HandshakeRequest) (response : HandshakeResponse) : Prop where
  types : response.processedClientActions.map (·.actionType) =
    request.requestedClientActions.map (·.actionType)
  errors : response.errors.map some =
    (response.processedClientActions.filter (fun a => !a.succeeded)).map (·.error)

/-- Where the handler is after a response. -/
def stateAfter (response : HandshakeResponse) : HandshakeState :=
  if response.processedClientActions.all ProcessedClientAction.succeeded then .awaitingComplete
  else .failed

/-- The state of the handler and what it has answered. -/
structure HandshakeRun.Negotiated (codec : HandshakeCodec) (w : HandshakeRun) : Prop where
  waiting : w.handler.state = .awaitingRequest → w.answered = [] ∧ w.handler.crypto = none
  answered : w.handler.state ≠ .awaitingRequest → ∃ request response,
    w.answered = [(request, response)] ∧ Answers request response ∧
    (w.handler.state = .awaitingComplete ∨ w.handler.state = .completed →
      stateAfter response = .awaitingComplete ∧
      Negotiates codec response.processedClientActions none w.handler.crypto)

section

variable {codec : HandshakeCodec} {kms : KmsOracle} {w w' : HandshakeRun}
  {request : HandshakeRequest} {response : HandshakeResponse}

lemma stateAfter_cases (response : HandshakeResponse) :
    (∀ a ∈ response.processedClientActions, a.succeeded = true) ∧
        stateAfter response = .awaitingComplete ∨ stateAfter response = .failed := by
  unfold stateAfter
  split
  · next hall => exact .inl ⟨List.all_eq_true.mp hall, rfl⟩
  · exact .inr rfl

/-- The errors of a list of results. -/
lemma map_some_errors {results : List ProcessedClientAction}
    (h : ∀ a ∈ results, a.error.isNone = a.succeeded) :
    (results.filterMap (·.error)).map some =
      (results.filter (fun a => !a.succeeded)).map (·.error) := by
  induction results with
  | nil => rfl
  | cons a results ih =>
    have ha := h a List.mem_cons_self
    have hrest := ih fun b hb => h b (List.mem_cons_of_mem _ hb)
    cases herror : a.error with
    | none =>
      rw [herror] at ha
      simp only [List.filterMap_cons, herror, List.filter_cons, ← ha, Option.isNone_none]
      exact hrest
    | some message =>
      rw [herror] at ha
      simp only [List.filterMap_cons, herror, List.filter_cons, ← ha, Option.isNone_some]
      simpa [herror] using hrest

/-- What `on_request` can do. -/
lemma request_cases (codec : HandshakeCodec) (kms : KmsOracle) (w : HandshakeRun)
    (request : HandshakeRequest) :
    (w.handler.state ≠ .awaitingRequest ∧ (w.request codec kms request).2 = w ∧
      ∀ response, (w.request codec kms request).1 ≠ .ok (some response)) ∨
    w.handler.state = .awaitingRequest ∧ ∃ response handler calls,
      w.request codec kms request =
        (.ok (some response), ⟨handler, calls, w.answered ++ [(request, response)]⟩) ∧
      Answers request response ∧ handler.state = stateAfter response ∧
      (stateAfter response = .awaitingComplete →
        Negotiates codec response.processedClientActions w.handler.crypto handler.crypto) := by
  cases hstate : w.handler.state with
  | awaitingComplete | completed =>
    refine .inl ⟨by simp, ?_, fun response => ?_⟩
    · simp [HandshakeRun.request, HandshakeHandler.onRequest, hstate]
    · simp [HandshakeRun.request, HandshakeHandler.onRequest, hstate]
  | failed =>
    refine .inl ⟨by simp, ?_, fun response => ?_⟩
    · simp [HandshakeRun.request, HandshakeHandler.onRequest, hstate]
    · simp [HandshakeRun.request, HandshakeHandler.onRequest, hstate]
  | awaitingRequest =>
    have hspec := processActions_spec codec kms w.calls
      { w.handler with agentVersion := some request.agentVersion } request.requestedClientActions
    obtain ⟨results, handler, calls, hresults⟩ : ∃ results handler calls,
        HandshakeHandler.processActions codec kms w.calls
          { w.handler with agentVersion := some request.agentVersion }
          request.requestedClientActions = (results, handler, calls) := ⟨_, _, _, rfl⟩
    rw [hresults] at hspec
    let response : HandshakeResponse := ⟨clientProtocolVersion, results, results.filterMap (·.error)⟩
    have hstateAfter : (if results.any (fun a => decide (a.actionStatus ≠ .success)) then
        HandshakeState.failed else .awaitingComplete) = stateAfter response := by
      have hall : results.all ProcessedClientAction.succeeded =
          !results.any (fun a => decide (a.actionStatus ≠ .success)) := by
        rw [List.not_any_eq_all_not]
        congr 1
        funext a
        simp [ProcessedClientAction.succeeded]
      rw [stateAfter, hall]
      cases results.any (fun a => decide (a.actionStatus ≠ .success)) <;> rfl
    refine .inr ⟨rfl, response, { handler with state := stateAfter response }, calls, ?_,
      ⟨hspec.types, map_some_errors hspec.errors⟩, rfl, fun hsucceeded => ?_⟩
    · simp only [hstate] at hresults
      simp only [HandshakeRun.request, HandshakeHandler.onRequest, hstate, hresults, hstateAfter]
      rfl
    · rcases stateAfter_cases response with ⟨hall, -⟩ | hfailed
      · exact hspec.crypto hall
      · rw [hfailed] at hsucceeded
        cases hsucceeded

/-- What `on_complete` can do. -/
lemma complete_cases (w : HandshakeRun) (complete : HandshakeComplete) :
    (w.handler.state = .awaitingComplete ∧ ∃ banner,
      w.complete complete = (.ok banner, { w with handler := { w.handler with state := .completed } })) ∨
    w.handler.state ≠ .awaitingComplete ∧ ∃ e, w.complete complete = (.error e, w) := by
  by_cases hstate : w.handler.state = .awaitingComplete
  · refine .inl ⟨hstate, complete.customerMessage.filter (fun m => decide (m ≠ "")), ?_⟩
    simp [HandshakeRun.complete, HandshakeHandler.onComplete, hstate]
  · exact .inr ⟨hstate, .protocol s!"HandshakeComplete received in state {w.handler.state.debug}",
      by simp [HandshakeRun.complete, HandshakeHandler.onComplete, hstate]⟩

namespace HandshakeRun.Negotiated

lemma new (support : KmsSupport) : (HandshakeRun.new support).Negotiated codec where
  waiting _ := ⟨rfl, rfl⟩
  answered h := absurd rfl h

theorem step {call : HandshakeCall} (h : w.Negotiated codec)
    (hstep : w.step codec kms call = some w') : w'.Negotiated codec := by
  cases call with
  | request request =>
    cases hstep
    rcases request_cases codec kms w request with
      ⟨-, hsame, -⟩ | ⟨hstate, response, handler, calls, hrequest, hanswers, hafter, hcrypto⟩
    · rw [hsame]
      exact h
    · obtain ⟨hanswered, hnone⟩ := h.waiting hstate
      rw [hrequest, hanswered]
      have hmoved : handler.state ≠ .awaitingRequest := by
        rw [hafter]
        rcases stateAfter_cases response with ⟨-, hs⟩ | hs <;> simp [hs]
      refine ⟨fun hs => absurd hs hmoved, fun _ => ⟨request, response, rfl, hanswers, fun hs => ?_⟩⟩
      have hsucceeded : stateAfter response = .awaitingComplete := by
        rcases stateAfter_cases response with ⟨-, hs'⟩ | hs'
        · exact hs'
        · rw [show handler.state = .failed from hafter.trans hs'] at hs
          simp at hs
      exact ⟨hsucceeded, hnone ▸ hcrypto hsucceeded⟩
  | complete complete =>
    cases hstep
    rcases complete_cases w complete with ⟨hstate, banner, hcomplete⟩ | ⟨-, e, hcomplete⟩
    · rw [hcomplete]
      obtain ⟨request, response, hanswered, hanswers, hcrypto⟩ := h.answered (by simp [hstate])
      refine ⟨fun hs => ?_, fun _ => ⟨request, response, hanswered, hanswers, fun _ => ?_⟩⟩
      · cases hs
      · exact hcrypto (.inl hstate)
    · rw [hcomplete]
      exact h

end HandshakeRun.Negotiated

end

/-- What holds between any two calls, and of the next call, whatever it is. -/
structure HandshakeRun.Sound (codec : HandshakeCodec) (kms : KmsOracle) (w : HandshakeRun) :
    Prop where
  /-- At most one request is answered. -/
  once : w.answered.length ≤ 1
  /-- It is answered action by action. -/
  answers : ∀ request response, (request, response) ∈ w.answered → Answers request response
  response : ∀ request response, (w.request codec kms request).1 = .ok (some response) →
    (w.request codec kms request).2.handler.state = stateAfter response ∧
    (request, response) ∈ (w.request codec kms request).2.answered
  entered : ∀ call w', w.step codec kms call = some w' → w'.handler.state = .completed →
    w.handler.state = .completed ∨ w.handler.state = .awaitingComplete
  final : ∀ call w', w.step codec kms call = some w' →
    w.handler.state = .completed ∨ w.handler.state = .failed → w'.handler.state = w.handler.state
  /-- No encryption action that was asked for is left out. -/
  crypto : w.handler.state = .awaitingComplete ∨ w.handler.state = .completed →
    ∃ request response, w.answered = [(request, response)] ∧
      ((∃ action ∈ request.requestedClientActions, action.actionType = .kmsEncryption) →
        ∃ action crypto, lastKmsEncryption response.processedClientActions = some action ∧
          action.actionResult = some (codec.kmsCipherTextKey crypto.cipherTextBlob) ∧
          w.handler.crypto = some crypto) ∧
      ((∀ action ∈ request.requestedClientActions, action.actionType ≠ .kmsEncryption) →
        w.handler.crypto = none)
  requestFailed : ∀ request e, (w.request codec kms request).1 = .error e →
    (w.request codec kms request).2 = w
  completeFailed : ∀ complete e, (w.complete complete).1 = .error e → (w.complete complete).2 = w

section

variable {codec : HandshakeCodec} {kms : KmsOracle} {w w' : HandshakeRun}

/-- The types of the results tell whether encryption was asked for. -/
lemma lastKmsEncryption_eq_none {request : HandshakeRequest} {response : HandshakeResponse}
    (h : Answers request response) :
    lastKmsEncryption response.processedClientActions = none ↔
      ∀ action ∈ request.requestedClientActions, action.actionType ≠ .kmsEncryption := by
  have htypes : (∀ a ∈ response.processedClientActions, a.actionType ≠ .kmsEncryption) ↔
      ∀ action ∈ request.requestedClientActions, action.actionType ≠ .kmsEncryption := by
    rw [← List.forall_mem_map (f := fun a : ProcessedClientAction => a.actionType)
      (P := fun t => t ≠ .kmsEncryption), h.types, List.forall_mem_map]
  rw [← htypes, lastKmsEncryption, List.getLast?_eq_none_iff, List.filter_eq_nil_iff]
  simp

/-- The states that a step leads to. -/
lemma HandshakeRun.state_of_step {call : HandshakeCall} (hstep : w.step codec kms call = some w') :
    w'.handler.state = w.handler.state ∨
      w.handler.state = .awaitingRequest ∧ w'.handler.state ≠ .completed ∨
      w.handler.state = .awaitingComplete := by
  cases call with
  | request request =>
    cases hstep
    rcases request_cases codec kms w request with
      ⟨-, hsame, -⟩ | ⟨hstate, response, handler, calls, hrequest, -, hafter, -⟩
    · rw [hsame]
      exact .inl rfl
    · rw [hrequest]
      refine .inr (.inl ⟨hstate, ?_⟩)
      show handler.state ≠ .completed
      rw [hafter]
      rcases stateAfter_cases response with ⟨-, hs⟩ | hs <;> simp [hs]
  | complete complete =>
    cases hstep
    rcases complete_cases w complete with ⟨hstate, -⟩ | ⟨-, e, hcomplete⟩
    · exact .inr (.inr hstate)
    · rw [hcomplete]
      exact .inl rfl

theorem HandshakeRun.Negotiated.sound (h : w.Negotiated codec) : w.Sound codec kms where
  once := by
    by_cases hstate : w.handler.state = .awaitingRequest
    · simp [(h.waiting hstate).1]
    · obtain ⟨request, response, hanswered, -⟩ := h.answered hstate
      simp [hanswered]
  answers request response hmem := by
    by_cases hstate : w.handler.state = .awaitingRequest
    · rw [(h.waiting hstate).1] at hmem
      cases hmem
    · obtain ⟨request', response', hanswered, hanswers, -⟩ := h.answered hstate
      rw [hanswered, List.mem_singleton, Prod.mk.injEq] at hmem
      rw [hmem.1, hmem.2]
      exact hanswers
  response request response hresponse := by
    rcases request_cases codec kms w request with
      ⟨-, -, hnone⟩ | ⟨-, response', handler, calls, hrequest, -, hafter, -⟩
    · exact absurd hresponse (hnone response)
    · rw [hrequest] at hresponse ⊢
      cases hresponse
      exact ⟨hafter, List.mem_append_right _ (List.mem_singleton_self _)⟩
  entered call w' hstep hcompleted := by
    rcases HandshakeRun.state_of_step hstep with hsame | ⟨-, hne⟩ | hwaiting
    · exact .inl (hsame ▸ hcompleted)
    · exact absurd hcompleted hne
    · exact .inr hwaiting
  final call w' hstep hfinal := by
    rcases HandshakeRun.state_of_step hstep with hsame | ⟨hstate, -⟩ | hstate
    · exact hsame
    · simp [hstate] at hfinal
    · simp [hstate] at hfinal
  crypto hstate := by
    have hmoved : w.handler.state ≠ .awaitingRequest := by rcases hstate with hs | hs <;> simp [hs]
    obtain ⟨request, response, hanswered, hanswers, hcrypto⟩ := h.answered hmoved
    have hnegotiates := (hcrypto hstate).2
    refine ⟨request, response, hanswered, ?_, ?_⟩
    · rintro ⟨asked, hasked, htype⟩
      unfold Negotiates at hnegotiates
      cases hlast : lastKmsEncryption response.processedClientActions with
      | none => exact absurd htype ((lastKmsEncryption_eq_none hanswers).mp hlast asked hasked)
      | some action =>
        rw [hlast] at hnegotiates
        obtain ⟨crypto, hsome, hresult⟩ := hnegotiates
        exact ⟨action, crypto, rfl, hresult, hsome⟩
    · intro hnone
      rw [Negotiates, (lastKmsEncryption_eq_none hanswers).mpr hnone] at hnegotiates
      exact hnegotiates
  requestFailed request e herror := by
    rcases request_cases codec kms w request with
      ⟨-, hsame, -⟩ | ⟨-, response, handler, calls, hrequest, -⟩
    · exact hsame
    · rw [hrequest] at herror
      cases herror
  completeFailed complete e herror := by
    rcases complete_cases w complete with ⟨-, banner, hcomplete⟩ | ⟨-, e', hcomplete⟩
    · rw [hcomplete] at herror
      cases herror
    · rw [hcomplete]

end

/-- **The handshake state machine**, over every sequence of calls. -/
theorem handshake_sound {codec : HandshakeCodec} {kms : KmsOracle} {support : KmsSupport}
    {w : HandshakeRun} (h : Reachable (HandshakeRun.step codec kms) free (.new support) w) :
    w.Sound codec kms := by
  have hinv : w.Negotiated codec := h.invariant (.new support) fun _ _ _ hs hstep _ => hs.step hstep
  exact hinv.sound

/-- A completion that comes too early, a request for encryption, its duplicate and the completion. -/
theorem handshake_sound_encrypted :
    ∃ w, Reachable (HandshakeRun.step sampleEnv.codec sampleEnv.kms) free
        (.new (.client ⟨"s", "t"⟩)) w ∧
      w.handler.state = .completed ∧ w.handler.crypto.map (·.cipherTextBlob) = some [9] ∧
      w.answered.length = 1 ∧ w.Sound sampleEnv.codec sampleEnv.kms := by
  let request : HandshakeRequest := ⟨"3.3.0", [⟨.kmsEncryption, ⟨"KMSKeyId k"⟩⟩]⟩
  have hrun : (run (HandshakeRun.step sampleEnv.codec sampleEnv.kms) (.new (.client ⟨"s", "t"⟩))
      [.complete ⟨1, none⟩, .request request, .request request, .complete ⟨1, none⟩]).any (fun w =>
        decide (w.handler.state = .completed ∧
          w.handler.crypto.map (·.cipherTextBlob) = some [9] ∧ w.answered.length = 1)) = true := by
    decide +kernel
  obtain ⟨w, hw, hp⟩ := exists_of_run hrun
  obtain ⟨hstate, hcrypto, hanswered⟩ := of_decide_eq_true hp
  exact ⟨w, hw, hstate, hcrypto, hanswered, handshake_sound hw⟩

end SsmBridge
