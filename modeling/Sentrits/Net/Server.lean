import Sentrits.Net.HttpInput
import Sentrits.Net.SessionRoutes

/-!
# The server

All entry points at once: the session manager, what the daemon keeps, the requests of both HTTP
listeners and the sockets of three kinds, however many there are. One handler runs at a time; which
one is next is open.

* `Server`, `ServerEvent`, `step`: the server, and one handler of one entry point.
* `step_inputControlled_iff`: what one handler sends is in order, unless it is a request that gets
  through.
* `input_controlled_iff`: **over whole runs**, all input comes from the client that has control at
  that moment, or is refused, exactly when no request with input or with a message gets through.

Sources: `src/net/http_server.cpp`, `src/net/http_shared.cpp`.
-/

namespace Sentrits.Net

open Found Found.Bytes Found.Json Found.Runs Session Service
open Http (Daemon AttachedClient Exchange HttpAnswers HttpRouteContext HttpRequest)

/-! ### Events -/

/-- Source: `http_server.cpp` `HttpServer`. A local socket comes with the client id it will draw. -/
structure Server where
  manager : SessionManager := {}
  daemon : Daemon := {}
  watchers : List WebSocketSession := []
  controllers : List RemoteControllerSession := []
  locals : List (String × LocalControllerSession) := []

/-- What can happen next. -/
inductive ServerEvent
  /-- Anything else that happens to the manager. -/
  | manager (call : Call)
  /-- Other sockets are attached than before. -/
  | attached (clients : List AttachedClient)
  | request (answers : HttpAnswers) (context : HttpRouteContext) (request : HttpRequest)
  | openWatcher (sessionId clientId : String) (rawOutputMode : Bool) (activity : SessionActivity)
  | watcher (i : ℕ) (event : WebSocketSession.Event)
  | openController (sessionId : String)
  | controller (i : ℕ) (event : RemoteControllerSession.Event)
  | openLocal (drawn : String)
  | localController (i : ℕ) (event : LocalControllerSession.Event)

namespace Server

/-- A handler of one of the sockets of a kind. -/
def runSocket {σ τ : Type} (m : SessionManager) (sockets : List τ) (i : ℕ) (socketOf : τ → σ)
    (withSocket : τ → σ → τ) (handler : τ → Turn σ → Option (Turn σ)) : Option (Turn (List τ)) := do
  let entry ← sockets[i]?
  let t ← handler entry { manager := m, socket := socketOf entry }
  some { manager := t.manager, socket := sockets.set i (withSocket entry t.socket), issued := t.issued }

/-- One handler, and the calls it makes. -/
def step (lib : JsonLibrary) (s : Server) : ServerEvent → Option (Server × List IssuedCall)
  | .manager call => some ({ s with manager := (s.manager.perform call.storeOk call.op).1 }, [])
  | .attached clients => some ({ s with daemon := { s.daemon with clients := clients } }, [])
  | .request answers context request =>
      let t := (Exchange.handleRequest { lib, answers, context, request }
        { manager := s.manager, socket := s.daemon }).1
      some ({ s with manager := t.manager, daemon := t.socket }, t.issued)
  | .openWatcher sessionId clientId rawOutputMode activity =>
      some ({ s with
        watchers := s.watchers ++
          [.connect s.manager sessionId clientId rawOutputMode activity] }, [])
  | .watcher i event =>
      (runSocket s.manager s.watchers i id (fun _ socket => socket)
        fun _ t => WebSocketSession.handle lib t event).map fun t =>
          ({ s with manager := t.manager, watchers := t.socket }, t.issued)
  | .openController sessionId =>
      some ({ s with controllers := s.controllers ++ [{ sessionId := sessionId }] }, [])
  | .controller i event =>
      (runSocket s.manager s.controllers i id (fun _ socket => socket)
        fun _ t => RemoteControllerSession.handle lib t event).map fun t =>
          ({ s with manager := t.manager, controllers := t.socket }, t.issued)
  | .openLocal drawn => some ({ s with locals := s.locals ++ [(drawn, {})] }, [])
  | .localController i event =>
      (runSocket s.manager s.locals i Prod.snd (fun entry socket => (entry.1, socket))
        fun entry t => LocalControllerSession.handle lib entry.1 t event).map fun t =>
          ({ s with manager := t.manager, locals := t.socket }, t.issued)

/-! ### One step -/

/-- A request with input, or with a message, gets through. -/
def PassesInput (lib : JsonLibrary) (s : Server) : ServerEvent → Prop
  | .request answers context request =>
      Exchange.PassesInput { lib, answers, context, request }
        { manager := s.manager, socket := s.daemon }
  | _ => False

/-- What holds of the calls of a handler, holds of those of the sockets of its kind. -/
theorem inputControlled_runSocket {σ τ : Type} {m : SessionManager} {sockets : List τ} {i : ℕ}
    {socketOf : τ → σ} {withSocket : τ → σ → τ} {handler : τ → Turn σ → Option (Turn σ)}
    {t : Turn (List τ)}
    (h : ∀ entry t t', t.InputControlled → handler entry t = some t' → t'.InputControlled)
    (hrun : runSocket m sockets i socketOf withSocket handler = some t) : t.InputControlled := by
  obtain ⟨entry, -, hrun⟩ := Option.bind_eq_some_iff.mp hrun
  obtain ⟨t', ht', heq⟩ := Option.bind_eq_some_iff.mp hrun
  obtain rfl := Option.some.inj heq
  exact h entry _ t' (Turn.inputControlled_start _ _) ht'

/-- **What one handler sends** is in order, unless it is a request that gets through. -/
theorem step_inputControlled_iff {lib : JsonLibrary} {s s' : Server} {event : ServerEvent}
    {calls : List IssuedCall} (h : step lib s event = some (s', calls)) :
    (∀ c ∈ calls, c.InputControlled) ↔ ¬ PassesInput lib s event := by
  cases event with
  | manager call | attached clients | openWatcher | openController sessionId | openLocal drawn =>
      obtain ⟨-, rfl⟩ := Prod.mk.inj (Option.some.inj h)
      exact iff_of_true (by simp) not_false
  | request answers context request =>
      obtain ⟨-, rfl⟩ := Prod.mk.inj (Option.some.inj h)
      exact Exchange.inputControlled_handleRequest_iff (Turn.inputControlled_start _ _)
  | watcher i event =>
      obtain ⟨t, hrun, heq⟩ := Option.map_eq_some_iff.mp h
      obtain ⟨-, rfl⟩ := Prod.mk.inj heq
      apply iff_of_true _ not_false
      apply inputControlled_runSocket _ hrun
      intro _ t t' ht hstep
      exact WebSocketSession.inputControlled_handle ht hstep
  | controller i event =>
      obtain ⟨t, hrun, heq⟩ := Option.map_eq_some_iff.mp h
      obtain ⟨-, rfl⟩ := Prod.mk.inj heq
      apply iff_of_true _ not_false
      apply inputControlled_runSocket _ hrun
      intro _ t t' ht hstep
      exact RemoteControllerSession.inputControlled_handle ht hstep
  | localController i event =>
      obtain ⟨t, hrun, heq⟩ := Option.map_eq_some_iff.mp h
      obtain ⟨-, rfl⟩ := Prod.mk.inj heq
      apply iff_of_true _ not_false
      apply inputControlled_runSocket _ hrun
      intro entry t t' ht hstep
      exact LocalControllerSession.inputControlled_handle ht hstep

/-! ### Whole runs -/

/-- **Who owns the terminal**: from any server, in any order of requests and events of sockets, all
input comes from the client that has control at that moment, or is refused, exactly when no request
with input or with a message gets through. -/
theorem input_controlled_iff (lib : JsonLibrary) (s : Server) (events : List ServerEvent) :
    (∀ c ∈ emitted (step lib) s events, c.InputControlled) ↔
      AllSteps (silent (step lib)) (fun s event => ¬ PassesInput lib s event) s events := by
  apply forall_emitted_iff_allSteps (fun _ => True)
  · intro _ _ _ _ _ _
    trivial
  · intro s event s' calls _ hstep
    exact step_inputControlled_iff hstep
  · trivial

/-- The body of a request with input. -/
def inputMessage : Json := .object [("data", .string "ls\n")]

/-- The text of the message is read. -/
theorem parseInputRequest_inputMessage (lib : JsonLibrary) :
    parseInputRequest lib (lib.serialize inputMessage) = some "ls\n" := by
  simp [parseInputRequest, lib.parse_serialize, inputMessage, ifContains, required]

/-- An approved device sends input to a session. -/
def inputRequest (body : String) : HttpRequest where
  method := .post
  target := utf8 "/sessions/s_1/input"
  authorization := some (utf8 "Bearer a1")
  body := utf8 body

/-- The request is for the input of the session. -/
theorem route_inputRequest (context : HttpRouteContext) (body : String) :
    Http.route context (inputRequest body) = .input (utf8 "s_1") := by
  have hpath : StaticAssets.stripQueryString (inputRequest body).target =
      utf8 "/sessions/" ++ utf8 "s_1/input" := by
    show StaticAssets.stripQueryString (utf8 "/sessions/s_1/input") = _
    decide +kernel
  have hdot : StaticAssets.isUiStaticAssetPath
      (StaticAssets.stripQueryString (inputRequest body).target) = false := by
    rw [hpath]
    decide +kernel
  have hclear : Http.isRequest (inputRequest body) .post "/sessions/clear-inactive" = false := by
    have hne : utf8 "/sessions/s_1/input" ≠ utf8 "/sessions/clear-inactive" := by decide +kernel
    simp [Http.isRequest, inputRequest, hne]
  have hpre : utf8 "/sessions/" <+: StaticAssets.stripQueryString (inputRequest body).target := by
    rw [hpath]
    exact List.prefix_append _ _
  have hinput : Http.sessionRoute { method := .post, target := [] } (utf8 "s_1/input") =
      .input (utf8 "s_1") := by
    decide +kernel
  rw [route_of_sessions hpre (by simp [inputRequest]) hclear _ hdot, hpath, List.drop_left,
    ← hinput]
  rfl

/-- A request on its own. -/
theorem forall_emitted_request_iff {lib : JsonLibrary} {s : Server} {answers : HttpAnswers}
    {context : HttpRouteContext} {request : HttpRequest} :
    (∀ c ∈ emitted (step lib) s [.request answers context request], c.InputControlled) ↔
      ¬ Exchange.PassesInput { lib, answers, context, request }
        { manager := s.manager, socket := s.daemon } := by
  rw [emitted_cons rfl, emitted_nil, List.append_nil]
  exact Exchange.inputControlled_handleRequest_iff (Turn.inputControlled_start _ _)

/-- Input that gets through is passed on. -/
theorem passesInput_of_route {lib : JsonLibrary} {answers : HttpAnswers}
    {context : HttpRouteContext} {request : HttpRequest} {t : Turn Daemon} {sessionId : Bytes}
    (hroute : Http.route context request = .input sessionId)
    (h : Exchange.GetsThrough { lib, answers, context, request } t (parseInputRequest lib)
      sessionId) :
    Exchange.PassesInput { lib, answers, context, request } t := by
  unfold Exchange.PassesInput
  rw [hroute]
  exact h

/-- A host with an approved device and with a session that a remote controller has. -/
def controlledHost : List ServerEvent :=
  [.manager (SessionManager.startCall "s_1"), .openController "s_1",
    .controller 0 (.accepted (.ready "remote-controller-1") {})]

/-- The device sends input to that session, and it is written to the terminal. -/
theorem types_without_control :
    ¬ ∀ c ∈ emitted (step JsonText.compactJson) { daemon := Exchange.approvedHost.socket }
      (controlledHost ++
        [.request .idle {} (inputRequest (JsonText.compactJson.serialize inputMessage))]),
      c.InputControlled := by
  intro h
  have hparse := parseInputRequest_inputMessage JsonText.compactJson
  generalize JsonText.compactJson.serialize inputMessage = body at h hparse
  simp only [controlledHost, List.cons_append, List.nil_append] at h
  rw [emitted_cons rfl, emitted_cons rfl, emitted_cons rfl] at h
  have hrequest := forall_emitted_request_iff.mp fun c hc =>
    h c (List.mem_append_right _ (List.mem_append_right _ (List.mem_append_right _ hc)))
  have hbody : ((inputRequest body).parsedBody
      (parseInputRequest JsonText.compactJson)).isSome = true := by
    unfold HttpRequest.parsedBody
    rw [inputRequest, textOf_utf8]
    exact Option.isSome_iff_exists.mpr ⟨_, hparse⟩
  have hroute := route_inputRequest {} body
  exact hrequest (passesInput_of_route hroute ⟨by rfl, hbody, by decide +kernel⟩)

end Server

end Sentrits.Net
