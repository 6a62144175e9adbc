import Sentrits.Net.LocalController

/-!
# Control that nobody has

The manager keeps on record which client controls a session, and the socket of a local terminal
keeps a flag that says whether that is its own client. Control leaks when the record names a client
whose socket is closed, or whose socket does not know.

* `NoLeak`: nothing is recorded for a closed socket, and an open one knows what is recorded.
* `Quiet`: a part of a handler after which control leaks exactly if it did before.
* `leaks_ensureControlForInput`, `leaks_reacquireControl`: the two places where control is claimed
  again.
* `noLeak_iff`: **over whole runs**, control is never leaked exactly when no claim is granted to a
  socket that then fails to resize the session, or that is closed already.

Source: `src/net/http_server.cpp`.
-/

namespace Sentrits.Net

open Found Found.Json Found.Runs Session Service

namespace LocalControllerSession

/-! ### Leaks -/

/-- **Control is not leaked.** -/
structure NoLeak (clientId : String) (s : SessionManager × LocalControllerSession) : Prop where
  /-- A closed socket is not on record. -/
  ofClosed : s.2.closed = true → ¬ s.1.RecordsController clientId
  /-- An open socket that is on record knows it. -/
  ofOpen : s.2.closed = false → s.1.RecordsController clientId → s.2.hasControl = true

/-- The client of this socket is on record, and the socket is closed or does not know. -/
def Leaks (c : String) (t : Handler) : Prop :=
  t.manager.RecordsController c ∧ (t.socket.closed = true ∨ t.socket.hasControl = false)

/-- The property of a state, as what has not happened. -/
theorem noLeak_iff_not_leaks (c : String) (t : Handler) :
    NoLeak c (t.manager, t.socket) ↔ ¬ Leaks c t := by
  constructor
  · rintro ⟨hclosed, hopen⟩ ⟨hrecords, hoff | hoff⟩
    · exact hclosed hoff hrecords
    · rcases h : t.socket.closed
      · have hflag := hopen h hrecords
        rw [hoff] at hflag
        exact absurd hflag (by decide)
      · exact hclosed h hrecords
  · intro h
    refine ⟨fun hclosed hrecords => h ⟨hrecords, Or.inl hclosed⟩, fun _ hrecords => ?_⟩
    by_contra hflag
    exact h ⟨hrecords, Or.inr (by simpa using hflag)⟩

/-- **Invariant of a claimed session**: the client of the socket is on record for the session of the
socket only, as its host. -/
structure Own (c : String) (t : Handler) : Prop where
  begun : t.socket.handshaking = false
  inv : t.manager.Inv
  drawn : t.socket.clientId = c
  host : t.manager.HostOnly t.socket.sessionId c

/-- Without control by the manager nothing is on record. -/
theorem Own.not_recorded {c : String} {t : Handler} (h : Own c t)
    (hcontrol : t.manager.hasControl t.socket.sessionId t.socket.clientId = false) :
    ¬ t.manager.RecordsController c := by
  intro hrecords
  rw [h.drawn, SessionManager.hasControl_of_recorded h.inv h.host hrecords] at hcontrol
  exact absurd hcontrol (by decide)

/-- Two states of a socket that agree in what control depends on. -/
structure SameFlags (s s' : LocalControllerSession) : Prop where
  handshaking : s'.handshaking = s.handshaking
  sessionId : s'.sessionId = s.sessionId
  clientId : s'.clientId = s.clientId
  closed : s'.closed = s.closed
  hasControl : s'.hasControl = s.hasControl

/-! ### Parts of a handler that leak nothing new -/

/-- After this part of a handler control leaks exactly if it did before. -/
def Quiet (c : String) (t t' : Handler) : Prop :=
  Own c t → Own c t' ∧ (Leaks c t' ↔ Leaks c t)

namespace Quiet

variable {c : String} {t t' t'' : Handler}

/-- What changes nothing leaks nothing new. -/
theorem refl (t : Handler) : Quiet c t t := fun h => ⟨h, Iff.rfl⟩

/-- One part after the other. -/
theorem trans (h : Quiet c t t') (h' : Quiet c t' t'') : Quiet c t t'' := by
  intro hown
  obtain ⟨hown', hiff⟩ := h hown
  obtain ⟨hown'', hiff'⟩ := h' hown'
  exact ⟨hown'', hiff'.trans hiff⟩

/-- Changes of the socket beside its flags are quiet. -/
theorem modify (t : Handler) (f : LocalControllerSession → LocalControllerSession)
    (hsame : SameFlags t.socket (f t.socket)) : Quiet c t (t.modify f) := by
  intro hown
  refine ⟨⟨hsame.handshaking.trans hown.begun, hown.inv, hsame.clientId.trans hown.drawn, ?_⟩, ?_⟩
  · rw [Turn.socket_modify, hsame.sessionId]
    exact hown.host
  · simp only [Leaks, Turn.manager_modify, Turn.socket_modify, hsame.closed, hsame.hasControl]

/-- A socket that does not have control may take down its flag. -/
theorem dropFlag (t : Handler) (h : controls t = false) :
    Quiet c t (t.modify ({ · with hasControl := false })) := by
  intro hown
  refine ⟨⟨hown.begun, hown.inv, hown.drawn, hown.host⟩, ?_⟩
  unfold controls at h
  rw [Bool.and_eq_false_iff] at h
  rcases h with hflag | hcontrol
  · simp [Leaks, hflag]
  · have hnone := hown.not_recorded hcontrol
    exact iff_of_false (fun h => hnone h.1) (fun h => hnone h.1)

/-- An operation that leaves the controller of every session is quiet. -/
theorem perform (t : Handler) (answers : CallAnswers) {op : Op}
    (hother : ∀ id kind, op ≠ .requestControl id c kind)
    (hsame : ∀ e ∈ t.manager.sessions, ∃ e', e.after op = some e' ∧ e.SameController e') :
    Quiet c t (t.perform answers op).1 := by
  intro hown
  refine ⟨⟨hown.begun, SessionManager.inv_perform hown.inv _ _, hown.drawn,
    SessionManager.hostOnly_perform hown.inv hown.host hother⟩, ?_⟩
  exact and_congr_left fun _ => SessionManager.recorded_perform_iff hown.inv hother hsame

/-- Noting a call is quiet. -/
theorem note (t : Handler) (clientId : Option String) (sessionId : String) (call : ManagerCall) :
    Quiet c t (t.note clientId sessionId call) :=
  fun hown => ⟨⟨hown.begun, hown.inv, hown.drawn, hown.host⟩, Iff.rfl⟩

/-- A new size leaks nothing new. -/
theorem resizeSession (t : Handler) (answers : CallAnswers) (clientId sessionId : String)
    (size : TerminalSize) : Quiet c t (t.resizeSession answers clientId sessionId size).1 :=
  (note t _ _ _).trans (perform (t.note _ _ _) answers (by simp)
    (SessionManager.sameController_resizeSession t.manager sessionId size answers.ptyResized))

/-- A poll leaks nothing new. -/
theorem pollSession (t : Handler) (answers : CallAnswers) (sessionId : String) :
    Quiet c t (t.pollSession answers sessionId) := by
  refine perform t answers (by simp) fun e _ => ⟨_, by rfl, ?_⟩
  split_ifs
  · exact SessionEntry.poll_sameController e _
  · exact .refl e

/-- **Closing** releases what the socket knows of. -/
theorem forceClose (t : Handler) (answers : LocalAnswers) : Quiet c t (forceClose t answers) := by
  intro hown
  unfold LocalControllerSession.forceClose releaseControlIfHeld
  by_cases hclosed : t.socket.closed = true
  · rw [if_pos hclosed]
    exact Quiet.refl t hown
  · rw [if_neg hclosed]
    by_cases hflag : t.socket.hasControl = true
    · rw [if_neg (by simpa using hflag)]
      have hrelease := SessionManager.not_recorded_releaseControl hown.inv answers.storeOk
        hown.host
      rw [← hown.drawn] at hrelease
      refine ⟨⟨hown.begun, SessionManager.inv_perform hown.inv _ _, hown.drawn,
        SessionManager.hostOnly_perform hown.inv hown.host (by simp)⟩, iff_of_false ?_ ?_⟩
      · intro hleaks
        rw [← hown.drawn] at hleaks
        exact hrelease hleaks.1
      · rintro ⟨-, hoff | hoff⟩
        · exact hclosed hoff
        · rw [hflag] at hoff
          exact absurd hoff (by decide)
    · rw [if_pos (by simpa using hflag)]
      have hoff : t.socket.hasControl = false := by simpa using hflag
      refine ⟨⟨hown.begun, hown.inv, hown.drawn, hown.host⟩, ?_⟩
      simp [Leaks, hoff]

/-- Writing to the client leaks nothing new. -/
theorem doWrite (t : Handler) (answers : LocalAnswers) : Quiet c t (doWrite t answers) := by
  unfold LocalControllerSession.doWrite
  split_ifs
  · dsimp only
    split_ifs
    · exact (modify t _ ⟨rfl, rfl, rfl, rfl, rfl⟩).trans (forceClose _ answers)
    · exact modify t _ ⟨rfl, rfl, rfl, rfl, rfl⟩
  · exact modify t _ ⟨rfl, rfl, rfl, rfl, rfl⟩

/-- Queueing output leaks nothing new. -/
theorem queueOutput (t : Handler) (answers : LocalAnswers) (payload : Bytes) :
    Quiet c t (queueOutput t answers payload) := by
  unfold LocalControllerSession.queueOutput
  split_ifs
  · exact .refl t
  · dsimp only
    split_ifs
    · exact modify t _ ⟨rfl, rfl, rfl, rfl, rfl⟩
    · exact (modify t _ ⟨rfl, rfl, rfl, rfl, rfl⟩).trans (doWrite _ answers)

/-- Following the descriptor of the session leaks nothing new. -/
theorem syncReadableDescriptor (t : Handler) (answers : LocalAnswers) :
    Quiet c t (syncReadableDescriptor t answers) := by
  unfold LocalControllerSession.syncReadableDescriptor
  dsimp only
  split_ifs
  · exact modify t _ ⟨rfl, rfl, rfl, rfl, rfl⟩
  · exact .refl t
  · exact modify t _ ⟨rfl, rfl, rfl, rfl, rfl⟩

/-- Waiting for the session leaks nothing new. -/
theorem armReadableWait (t : Handler) : Quiet c t (armReadableWait t) := by
  unfold LocalControllerSession.armReadableWait
  split_ifs
  · exact .refl t
  · exact modify t _ ⟨rfl, rfl, rfl, rfl, rfl⟩

/-- Asking for the next part of a frame leaks nothing new. -/
theorem startRead (t : Handler) (part : FramePart) : Quiet c t (startRead t part) :=
  modify t _ ⟨rfl, rfl, rfl, rfl, rfl⟩

/-- Asking for the next frame leaks nothing new. -/
theorem readFrameHeader (t : Handler) : Quiet c t (readFrameHeader t) := startRead t .header

/-- The answer to the handshake leaks nothing new. -/
theorem writeHandshakeResponse (t : Handler) (response : HandshakeResponse) :
    Quiet c t (writeHandshakeResponse t response) :=
  modify t _ ⟨rfl, rfl, rfl, rfl, rfl⟩

/-- New output leaks nothing new. -/
theorem flushOutput (t : Handler) (answers : LocalAnswers) : Quiet c t (flushOutput t answers) := by
  unfold LocalControllerSession.flushOutput
  split
  · exact .refl t
  · split_ifs
    · exact .refl t
    · exact (modify t _ ⟨rfl, rfl, rfl, rfl, rfl⟩).trans (queueOutput _ answers _)

/-- A rendered view leaks nothing new. -/
theorem flushViewportSnapshot (t : Handler) (answers : LocalAnswers)
    (summary : Option SessionEntry) : Quiet c t (flushViewportSnapshot t answers summary) := by
  unfold LocalControllerSession.flushViewportSnapshot
  dsimp only
  split
  · exact modify t _ ⟨rfl, rfl, rfl, rfl, rfl⟩
  · split_ifs
    · exact modify t _ ⟨rfl, rfl, rfl, rfl, rfl⟩
    · exact ((modify t _ ⟨rfl, rfl, rfl, rfl, rfl⟩).trans (modify _ _ ⟨rfl, rfl, rfl, rfl, rfl⟩)).trans
        (queueOutput _ answers _)

/-- A flush as a whole leaks nothing new. -/
theorem flush (t : Handler) (answers : LocalAnswers) (hadControl : Bool)
    (summary : Option SessionEntry) : Quiet c t (flush t answers hadControl summary) := by
  unfold LocalControllerSession.flush
  split_ifs
  · exact flushOutput t answers
  · exact ((queueOutput t answers _).trans (modify _ _ ⟨rfl, rfl, rfl, rfl, rfl⟩)).trans
      (flushViewportSnapshot _ answers summary)
  · exact flushViewportSnapshot t answers summary

/-- Waiting again leaks nothing new. -/
theorem rearm (t : Handler) (answers : LocalAnswers) : Quiet c t (rearm t answers) := by
  unfold LocalControllerSession.rearm
  dsimp only
  split_ifs
  · exact (syncReadableDescriptor t answers).trans (armReadableWait _)
  · exact (syncReadableDescriptor t answers).trans (forceClose _ answers)
  · exact syncReadableDescriptor t answers

/-- Noticing that control is lost leaks nothing new. -/
theorem noticeLostControl (t : Handler) : Quiet c t (noticeLostControl t) := by
  unfold LocalControllerSession.noticeLostControl
  split_ifs with hlost
  · refine dropFlag t ?_
    simp only [Bool.and_eq_true, Bool.not_eq_true'] at hlost
    simp [controls, hlost.2]
  · exact .refl t

/-- The end of the handshake leaks nothing new. -/
theorem handleResponded (t : Handler) (answers : LocalAnswers) (ok success : Bool) :
    Quiet c t (handleResponded t answers ok success) := by
  unfold LocalControllerSession.handleResponded
  split_ifs
  · exact forceClose t answers
  · dsimp only
    exact ((((modify t _ ⟨rfl, rfl, rfl, rfl, rfl⟩).trans (queueOutput _ answers _)).trans
      (readFrameHeader _)).trans (syncReadableDescriptor _ answers)).trans (armReadableWait _)

/-- The end of a write leaks nothing new: a socket that is closed gives control up. -/
theorem handleWritten (t : Handler) (answers : LocalAnswers) (ok : Bool) :
    Quiet c t (handleWritten t answers ok) := by
  unfold LocalControllerSession.handleWritten
  split_ifs
  · exact (modify t _ ⟨rfl, rfl, rfl, rfl, rfl⟩).trans (doWrite _ answers)
  · exact forceClose t answers

/-- A frame of input leaks nothing new. -/
theorem handleInputFrame (t : Handler) (answers : LocalAnswers) (payload : Bytes) :
    Quiet c t (handleInputFrame t answers payload) := by
  unfold LocalControllerSession.handleInputFrame
  by_cases hcontrols : controls t = true
  · rw [if_neg (by simpa using hcontrols)]
    dsimp only
    have hsent : Quiet c t (t.sendInput answers.toCallAnswers (some t.socket.clientId)
        t.socket.sessionId payload).1 := note t _ _ _
    split_ifs
    · exact hsent.trans (readFrameHeader _)
    · exact hsent.trans (forceClose _ answers)
  · rw [if_pos (by simpa using hcontrols)]
    exact (dropFlag t (by simpa using hcontrols)).trans (readFrameHeader _)

/-- A frame with a new size leaks nothing new. -/
theorem handleResizeFrame (t : Handler) (answers : LocalAnswers) (payload : Bytes) :
    Quiet c t (handleResizeFrame t answers payload) := by
  unfold LocalControllerSession.handleResizeFrame
  split
  · dsimp only
    generalize hsized : Turn.modify t _ = sized
    have hquiet : Quiet c t sized := hsized ▸ modify t _ ⟨rfl, rfl, rfl, rfl, rfl⟩
    refine hquiet.trans ?_
    split_ifs with hfree hresized
    · exact (dropFlag _ (by simpa using hfree)).trans (readFrameHeader _)
    · exact (resizeSession _ answers.toCallAnswers _ _ _).trans (readFrameHeader _)
    · exact (resizeSession _ answers.toCallAnswers _ _ _).trans (forceClose _ answers)
  · exact forceClose t answers

end Quiet

/-! ### Claiming control -/

/-- Asks for control of the session. -/
def ask (t : Handler) (answers : LocalAnswers) : Handler × Bool :=
  t.requestControl answers.toCallAnswers t.socket.sessionId t.socket.clientId .host

/-- What a socket knows for itself is still its own after it asked for control. -/
theorem own_ask {c : String} {t : Handler} (answers : LocalAnswers) (h : Own c t) :
    Own c (ask t answers).1 := by
  refine ⟨h.begun, SessionManager.inv_perform h.inv _ _, h.drawn, ?_⟩
  have hhost := SessionManager.hostOnly_requestControl h.inv answers.storeOk h.host
  rw [← h.drawn] at hhost ⊢
  exact hhost

/-- A claim of the socket that is granted. -/
def claimed (t : Handler) (answers : LocalAnswers) : Handler :=
  (ask t answers).1.modify ({ · with hasControl := true })

/-- **A claim that is granted** puts the client on record, so control leaks if the socket is
closed. -/
theorem claimed_spec {c : String} {t : Handler} (answers : LocalAnswers) (h : Own c t)
    {e : SessionEntry} (hfind : t.manager.findEntry t.socket.sessionId = some e)
    (hactive : e.status.isInteractive = true) :
    (ask t answers).2 = true ∧ Own c (claimed t answers) ∧
      (claimed t answers).manager.RecordsController c ∧
      (claimed t answers).manager.findEntry t.socket.sessionId =
        some { e with controllerClientId := some c, controllerKind := .host } := by
  obtain ⟨hgranted, hfound⟩ :=
    SessionManager.requestControl_granted h.inv answers.storeOk c hfind hactive
  have hown := own_ask answers h
  rw [← h.drawn] at hgranted hfound ⊢
  rw [← h.drawn] at hown
  exact ⟨hgranted, ⟨hown.begun, hown.inv, hown.drawn, hown.host⟩,
    ⟨_, List.mem_of_find?_eq_some hfound, rfl⟩, hfound⟩

/-- **A claim that is refused** puts nobody on record. -/
theorem ask_refused {c : String} {t : Handler} (answers : LocalAnswers) (h : Own c t)
    (hrefused : ¬ t.manager.TakesInput t.socket.sessionId)
    (hnone : ¬ t.manager.RecordsController c) :
    (ask t answers).2 = false ∧ ¬ (ask t answers).1.manager.RecordsController c := by
  obtain ⟨hanswer, hrecords⟩ :=
    SessionManager.requestControl_refused h.inv answers.storeOk c hrefused
  rw [← h.drawn] at hanswer hrecords hnone ⊢
  exact ⟨hanswer, fun h => hnone (hrecords h)⟩

/-- A socket that does not control its session is not on record, unless control leaks. -/
theorem not_recorded_of_controls {c : String} {t : Handler} (h : Own c t) (hleaks : ¬ Leaks c t)
    (hcontrols : controls t = false) : ¬ t.manager.RecordsController c := by
  intro hrecords
  unfold controls at hcontrols
  rw [h.drawn, SessionManager.hasControl_of_recorded h.inv h.host hrecords, Bool.and_true]
    at hcontrols
  exact hleaks ⟨hrecords, Or.inr hcontrols⟩

/-- A resize does not look at the controller. -/
theorem result_resize_controller (e : SessionEntry) (c : String) (size : TerminalSize)
    (ptyResized : Bool) :
    (SessionEntry.resize { e with controllerClientId := some c, controllerKind := .host } size
      ptyResized).result = (e.resize size ptyResized).result := by
  rcases hr : e.runtime with _ | r
  · simp [SessionEntry.resize, hr]
  · simp [SessionEntry.resize, hr]

/-- The session that is found says whether it was resized. -/
theorem result_resizeSession {t : Handler} {sessionId : String} {e : SessionEntry}
    (hfind : t.manager.findEntry sessionId = some e) (answers : CallAnswers) (clientId : String)
    (size : TerminalSize) :
    (t.resizeSession answers clientId sessionId size).2 =
      (e.resize size answers.ptyResized).result := by
  simp [Turn.resizeSession, Turn.perform, Turn.note, SessionManager.perform,
    SessionManager.applyOne, hfind]

/-- The size of the local terminal is put on a session just claimed. -/
def resized (t : Handler) (answers : LocalAnswers) : Handler × Bool :=
  (claimed t answers).resizeSession answers.toCallAnswers t.socket.clientId t.socket.sessionId
    t.socket.currentTerminalSize

/-- What is done to get control: it is asked for, and the size is set. -/
theorem ensureControlForInput_eq {t : Handler} (answers : LocalAnswers)
    (hfree : controls t = false) :
    ensureControlForInput t answers =
      if (ask t answers).2 = true then
        if (resized t answers).2 = true then ((resized t answers).1, true)
        else ((resized t answers).1.modify ({ · with hasControl := false }), false)
      else ((ask t answers).1.modify ({ · with hasControl := false }), false) := by
  unfold ensureControlForInput
  rw [if_neg (by simp [hfree])]
  show (if (!(ask t answers).2) = true then _ else
    if (!(resized t answers).2) = true then _ else _) = _
  cases (ask t answers).2 with
  | false => rfl
  | true => cases (resized t answers).2 <;> rfl

/-- The socket claims control that it then leaks: it is closed, or the session is not resized. -/
def ClaimsInVain (t : Handler) (answers : LocalAnswers) : Prop :=
  controls t = false ∧ ∃ e, t.manager.findEntry t.socket.sessionId = some e ∧
    e.status.isInteractive = true ∧ (t.socket.closed = true ∨
      (e.resize t.socket.currentTerminalSize answers.ptyResized).result = false)

/-- **When a claim is given and then forgotten**: the size is refused. -/
theorem claimsInVain_iff {t : Handler} {answers : LocalAnswers} {e : SessionEntry}
    (hfree : controls t = false) (hfind : t.manager.findEntry t.socket.sessionId = some e)
    (hactive : e.status.isInteractive = true) :
    ClaimsInVain t answers ↔ (t.socket.closed = true ∨
      (e.resize t.socket.currentTerminalSize answers.ptyResized).result = false) := by
  constructor
  · rintro ⟨-, e', hfind', -, hvain⟩
    rw [hfind] at hfind'
    obtain rfl := Option.some.inj hfind'
    exact hvain
  · exact fun hvain => ⟨hfree, e, hfind, hactive, hvain⟩

/-- Resizing leaves the client on record. -/
theorem recorded_resizeSession {c : String} {t : Handler} (h : Own c t) (answers : CallAnswers)
    (clientId sessionId : String) (size : TerminalSize) :
    (t.resizeSession answers clientId sessionId size).1.manager.RecordsController c ↔
      t.manager.RecordsController c :=
  SessionManager.recorded_perform_iff h.inv (by simp)
    (SessionManager.sameController_resizeSession t.manager sessionId size answers.ptyResized)

/-- **Control claimed by a frame** leaks exactly when it is claimed in vain. -/
theorem leaks_ensureControlForInput {c : String} {t : Handler} (answers : LocalAnswers)
    (h : Own c t) (hleaks : ¬ Leaks c t) :
    Own c (ensureControlForInput t answers).1 ∧
      (Leaks c (ensureControlForInput t answers).1 ↔ ClaimsInVain t answers) := by
  by_cases hcontrols : controls t = true
  · rw [ensureControlForInput, if_pos hcontrols]
    exact ⟨h, iff_of_false hleaks fun hvain => by simp [hvain.1] at hcontrols⟩
  · have hfree : controls t = false := by simpa using hcontrols
    have hnone := not_recorded_of_controls h hleaks hfree
    rw [ensureControlForInput_eq answers hfree]
    by_cases htakes : t.manager.TakesInput t.socket.sessionId
    · obtain ⟨e, hfind, hactive⟩ := htakes
      obtain ⟨hgranted, hown, hrecords, hfound⟩ := claimed_spec answers h hfind hactive
      have hresult : (resized t answers).2 =
          (e.resize t.socket.currentTerminalSize answers.ptyResized).result :=
        (result_resizeSession hfound answers.toCallAnswers _ _).trans
          (result_resize_controller e c _ _)
      have hown' : Own c (resized t answers).1 :=
        (Quiet.resizeSession (claimed t answers) answers.toCallAnswers _ _ _ hown).1
      have hrecords' : (resized t answers).1.manager.RecordsController c :=
        (recorded_resizeSession hown answers.toCallAnswers _ _ _).mpr hrecords
      rw [claimsInVain_iff hfree hfind hactive, if_pos hgranted, ← hresult]
      by_cases hresized : (resized t answers).2 = true
      · rw [if_pos hresized, hresized]
        refine ⟨hown', ?_⟩
        show (_ ∧ (t.socket.closed = true ∨ true = false)) ↔ (t.socket.closed = true ∨ true = false)
        exact and_iff_right hrecords'
      · rw [if_neg hresized]
        refine ⟨⟨hown'.begun, hown'.inv, hown'.drawn, hown'.host⟩, iff_of_true ?_ ?_⟩
        · exact ⟨hrecords', Or.inr rfl⟩
        · exact Or.inr (by simpa using hresized)
    · obtain ⟨hanswer, hrecords⟩ := ask_refused answers h htakes hnone
      have hown := own_ask answers h
      rw [if_neg (by simp [hanswer])]
      refine ⟨⟨hown.begun, hown.inv, hown.drawn, hown.host⟩, iff_of_false ?_ ?_⟩
      · exact fun hleaks => hrecords hleaks.1
      · rintro ⟨-, e, hfind, hactive, -⟩
        exact htakes ⟨e, hfind, hactive⟩

/-- The socket is closed and takes back control of a session that nobody has. -/
def RetakesClosed (t : Handler) : Prop :=
  t.socket.closed = true ∧ t.socket.hasControl = false ∧
    ∃ e, t.manager.findEntry t.socket.sessionId = some e ∧ e.status.isInteractive = true ∧
      free e = true

/-- Control is taken back unless the session is over. -/
theorem reacquireControl_eq (t : Handler) (answers : LocalAnswers) (e : SessionEntry) :
    reacquireControl t answers (some e) =
      if e.status.isTerminal then t.modify ({ · with closeAfterWrites := true })
      else if !t.socket.hasControl && free e then
        if (ask t answers).2 then (resized t answers).1 else (ask t answers).1
      else t := rfl

/-- **Control taken back** leaks exactly when the socket that takes it is closed. -/
theorem leaks_reacquireControl {c : String} {t : Handler} (answers : LocalAnswers) (h : Own c t)
    (hleaks : ¬ Leaks c t) :
    Own c (reacquireControl t answers (t.manager.findEntry t.socket.sessionId)) ∧
      (Leaks c (reacquireControl t answers (t.manager.findEntry t.socket.sessionId)) ↔
        RetakesClosed t) := by
  have hkeeps : ∀ {t' : Handler}, Quiet c t t' → ¬ RetakesClosed t →
      Own c t' ∧ (Leaks c t' ↔ RetakesClosed t) := by
    intro t' hquiet hno
    obtain ⟨hown, hiff⟩ := hquiet h
    exact ⟨hown, iff_of_false (fun h => hleaks (hiff.mp h)) hno⟩
  rcases hfind : t.manager.findEntry t.socket.sessionId with _ | e
  · refine hkeeps (Quiet.modify t ({ · with closeAfterWrites := true })
      ⟨rfl, rfl, rfl, rfl, rfl⟩) ?_
    rintro ⟨-, -, e, hfind', -⟩
    rw [hfind] at hfind'
    exact absurd hfind' (by simp)
  · have honly : RetakesClosed t → e.status.isInteractive = true ∧ free e = true ∧
        t.socket.hasControl = false := by
      rintro ⟨-, hflag, e', hfind', hactive, hfree⟩
      rw [hfind] at hfind'
      obtain rfl := Option.some.inj hfind'
      exact ⟨hactive, hfree, hflag⟩
    rw [reacquireControl_eq]
    by_cases hover : e.status.isTerminal = true
    · rw [if_pos hover]
      refine hkeeps (Quiet.modify t _ ⟨rfl, rfl, rfl, rfl, rfl⟩) fun hretakes => ?_
      rw [SessionStatus.isTerminal_of_isInteractive (honly hretakes).1] at hover
      exact absurd hover (by decide)
    · rw [if_neg hover]
      by_cases htakes : (!t.socket.hasControl && free e) = true
      · rw [if_pos htakes]
        simp only [Bool.and_eq_true, Bool.not_eq_true'] at htakes
        have hnone : ¬ t.manager.RecordsController c :=
          fun hrecords => hleaks ⟨hrecords, Or.inr htakes.1⟩
        by_cases hactive : e.status.isInteractive = true
        · obtain ⟨hgranted, hown, hrecords, -⟩ := claimed_spec answers h hfind hactive
          rw [if_pos hgranted]
          have hown' : Own c (resized t answers).1 :=
            (Quiet.resizeSession (claimed t answers) answers.toCallAnswers _ _ _ hown).1
          have hrecords' : (resized t answers).1.manager.RecordsController c :=
            (recorded_resizeSession hown answers.toCallAnswers _ _ _).mpr hrecords
          refine ⟨hown', ?_⟩
          constructor
          · rintro ⟨-, hclosed | hflag⟩
            · exact ⟨hclosed, htakes.1, e, hfind, hactive, htakes.2⟩
            · have hset : (resized t answers).1.socket.hasControl = true := rfl
              rw [hset] at hflag
              exact absurd hflag (by decide)
          · exact fun hretakes => ⟨hrecords', Or.inl hretakes.1⟩
        · have hrefused : ¬ t.manager.TakesInput t.socket.sessionId := by
            rintro ⟨e', hfind', hactive'⟩
            rw [hfind] at hfind'
            obtain rfl := Option.some.inj hfind'
            exact hactive hactive'
          obtain ⟨hanswer, hrecords⟩ := ask_refused answers h hrefused hnone
          rw [if_neg (by simp [hanswer])]
          exact ⟨own_ask answers h, iff_of_false (fun hleaks => hrecords hleaks.1)
            fun hretakes => hactive (honly hretakes).1⟩
      · rw [if_neg htakes]
        refine hkeeps (.refl t) fun hretakes => htakes ?_
        obtain ⟨-, hfree, hflag⟩ := honly hretakes
        simp [hfree, hflag]

/-! ### What one handler leaks -/

/-- **A frame leaks exactly when** it is a claim in vain. -/
theorem leaks_handleFrame {c : String} {t : Handler} (answers : LocalAnswers) (type : UInt8)
    (payload : Bytes) (h : Own c t) (hleaks : ¬ Leaks c t) :
    Own c (handleFrame t answers type payload) ∧
      (Leaks c (handleFrame t answers type payload) ↔
        type = claimFrame ∧ ClaimsInVain t answers) := by
  have hkeeps : ∀ {t' : Handler}, type ≠ claimFrame → Quiet c t t' →
      Own c t' ∧ (Leaks c t' ↔ type = claimFrame ∧ ClaimsInVain t answers) := by
    intro t' hother hquiet
    obtain ⟨hown, hiff⟩ := hquiet h
    exact ⟨hown, iff_of_false (fun h => hleaks (hiff.mp h)) fun h => hother h.1⟩
  unfold handleFrame
  by_cases hclaim : type = claimFrame
  · rw [if_pos hclaim]
    obtain ⟨hown, hiff⟩ := leaks_ensureControlForInput answers h hleaks
    obtain ⟨hown', hiff'⟩ := Quiet.readFrameHeader _ hown
    exact ⟨hown', hiff'.trans (hiff.trans (and_iff_right hclaim).symm)⟩
  · rw [if_neg hclaim]
    split_ifs
    · exact hkeeps hclaim (.handleInputFrame t answers payload)
    · exact hkeeps hclaim (.handleResizeFrame t answers payload)
    · exact hkeeps hclaim (.forceClose t answers)

/-- The session is there, takes input, is the host's and has no controller, and a poll does not find
its end: a socket that is closed takes it. -/
def RetakesAfterPoll (t : Handler) (answers : LocalAnswers) : Prop :=
  t.socket.closed = true ∧ ∃ e, t.manager.findEntry t.socket.sessionId = some e ∧
    e.status.isInteractive = true ∧ free e = true ∧ e.findsExit answers.poll = false

/-- A poll changes the session that is found, and only as far as its process goes. -/
theorem findEntry_pollSession {m : SessionManager} (h : m.Inv) (storeOk : String → Bool)
    {sessionId : String} (answers : PollAnswers) :
    (m.perform storeOk (.pollSession sessionId answers)).1.findEntry sessionId =
      (m.findEntry sessionId).map fun e => (e.poll answers).entry := by
  rcases hfind : m.findEntry sessionId with _ | e
  · simp [SessionManager.perform, SessionManager.applyOne, hfind]
  · obtain rfl : e.id = sessionId := by simpa using List.find?_some hfind
    have he := List.mem_of_find?_eq_some hfind
    have hkeeps := SessionEntry.poll_keeps (h.entries e he) answers
    have hmem := SessionManager.mem_perform_of_after h storeOk (.pollSession e.id answers) he
      (by rfl)
    rw [if_pos rfl] at hmem
    have hfound := SessionManager.findEntry_of_mem (SessionManager.inv_perform h storeOk
      (.pollSession e.id answers)).nodup hmem
    rw [hkeeps.id_eq] at hfound
    exact hfound

/-- A poll leaves a session taking input exactly when it does not find its end. -/
theorem isInteractive_poll {e : SessionEntry} (h : e.Inv) (answers : PollAnswers) :
    (e.poll answers).entry.status.isInteractive = true ↔
      e.status.isInteractive = true ∧ e.findsExit answers = false := by
  rcases SessionEntry.status_poll h answers with ⟨hfinds, hover⟩ | ⟨hfinds, hstatus⟩
  · rw [SessionStatus.isInteractive_of_isTerminal hover, hfinds]
    simp
  · rw [hstatus, hfinds]
    simp

/-- A poll does not change who has control. -/
theorem free_poll (e : SessionEntry) (answers : PollAnswers) :
    free (e.poll answers).entry = free e := by
  obtain ⟨hkind, hclient⟩ := SessionEntry.poll_sameController e answers
  unfold free
  rw [hkind, hclient]

/-- Noticing that control is lost changes nothing in the manager. -/
theorem manager_noticeLostControl (t : Handler) : (noticeLostControl t).manager = t.manager := by
  unfold noticeLostControl
  split_ifs <;> rfl

/-- Noticing that control is lost closes nothing. -/
theorem closed_noticeLostControl (t : Handler) :
    (noticeLostControl t).socket.closed = t.socket.closed := by
  unfold noticeLostControl
  split_ifs <;> rfl

/-- Noticing that control is lost is about the same session. -/
theorem sessionId_noticeLostControl (t : Handler) :
    (noticeLostControl t).socket.sessionId = t.socket.sessionId := by
  unfold noticeLostControl
  split_ifs <;> rfl

/-- After the check the flag says what the manager says. -/
theorem hasControl_noticeLostControl (t : Handler) :
    (noticeLostControl t).socket.hasControl = controls t := by
  unfold noticeLostControl controls
  rcases hflag : t.socket.hasControl
  · simp [hflag]
  · rcases t.manager.hasControl t.socket.sessionId t.socket.clientId <;> simp [hflag]

/-- A closed socket has no control, unless control leaks. -/
theorem controls_of_closed {c : String} {t : Handler} (h : Own c t) (hleaks : ¬ Leaks c t)
    (hclosed : t.socket.closed = true) : controls t = false := by
  by_contra hcontrols
  simp only [controls, Bool.not_eq_false, Bool.and_eq_true] at hcontrols
  rw [h.drawn] at hcontrols
  exact hleaks ⟨SessionManager.recorded_of_hasControl hcontrols.2, Or.inl hclosed⟩

/-- What a handler finds after it polled its session and looked whether it lost control. -/
def polled (t : Handler) (answers : LocalAnswers) : Handler :=
  noticeLostControl (t.pollSession answers.toCallAnswers t.socket.sessionId)

/-- What the poll leaves to be taken back, said of the state before it. -/
theorem retakesClosed_polled {c : String} {t : Handler} (answers : LocalAnswers) (h : Own c t)
    (hleaks : ¬ Leaks c t) : RetakesClosed (polled t answers) ↔ RetakesAfterPoll t answers := by
  have hfind : (polled t answers).manager.findEntry (polled t answers).socket.sessionId =
      (t.manager.findEntry t.socket.sessionId).map fun e => (e.poll answers.poll).entry := by
    unfold polled
    rw [manager_noticeLostControl, sessionId_noticeLostControl]
    exact findEntry_pollSession h.inv _ _
  have hclosed : (polled t answers).socket.closed = t.socket.closed := closed_noticeLostControl _
  unfold RetakesClosed RetakesAfterPoll
  rw [hclosed, hfind]
  refine and_congr_right fun hoff => ?_
  have hflag : (polled t answers).socket.hasControl = false := by
    obtain ⟨hown, hiff⟩ := Quiet.pollSession t answers.toCallAnswers t.socket.sessionId h
    unfold polled
    rw [hasControl_noticeLostControl]
    exact controls_of_closed hown (fun h => hleaks (hiff.mp h)) hoff
  rw [and_iff_right hflag]
  constructor
  · rintro ⟨e', hfound, hactive, hfree⟩
    obtain ⟨e, he, rfl⟩ := Option.map_eq_some_iff.mp hfound
    rw [isInteractive_poll (h.inv.entries e (List.mem_of_find?_eq_some he))] at hactive
    rw [free_poll] at hfree
    exact ⟨e, he, hactive.1, hfree, hactive.2⟩
  · rintro ⟨e, he, hactive, hfree, hfinds⟩
    refine ⟨_, Option.map_eq_some_iff.mpr ⟨e, he, rfl⟩, ?_, ?_⟩
    · rw [isInteractive_poll (h.inv.entries e (List.mem_of_find?_eq_some he))]
      exact ⟨hactive, hfinds⟩
    · rw [free_poll]
      exact hfree

/-- **A wait that ends leaks exactly when** control is taken back in vain. -/
theorem leaks_handleReadable {c : String} {t : Handler} (answers : LocalAnswers)
    (result : WaitResult) (h : Own c t) (hleaks : ¬ Leaks c t) :
    Own c (handleReadable t answers result) ∧
      (Leaks c (handleReadable t answers result) ↔
        result = .ready ∧ RetakesAfterPoll t answers) := by
  cases result with
  | aborted => exact ⟨h, iff_of_false hleaks (by simp)⟩
  | failed =>
      obtain ⟨hown, hiff⟩ := Quiet.forceClose t answers h
      exact ⟨hown, iff_of_false (fun h => hleaks (hiff.mp h)) (by simp)⟩
  | ready =>
      unfold handleReadable
      dsimp only
      obtain ⟨hown, hiff⟩ : Own c (polled t answers) ∧ (Leaks c (polled t answers) ↔ Leaks c t) :=
        ((Quiet.pollSession t _ _).trans (Quiet.noticeLostControl _)) h
      obtain ⟨hown', hiff'⟩ := leaks_reacquireControl answers hown fun h => hleaks (hiff.mp h)
      obtain ⟨hown'', hiff''⟩ := ((Quiet.flush _ answers _ _).trans (Quiet.rearm _ answers)) hown'
      refine ⟨hown'', hiff''.trans (hiff'.trans ?_)⟩
      rw [retakesClosed_polled answers h hleaks]
      exact (and_iff_right rfl).symm

/-! ### Before a session is claimed -/

/-- **Invariant before a session is claimed**: nothing is on record, and nothing is read but the
handshake. -/
structure Unclaimed (c : String) (t : Handler) : Prop where
  inv : t.manager.Inv
  nobody : ¬ t.manager.RecordsController c
  flag : t.socket.hasControl = false
  reading : t.socket.reading = none
  waiting : t.socket.waiting = false
  writing : t.socket.writeInProgress = false
  refused : ∀ response ∈ t.socket.responding, response.success = false
  begins : t.socket.handshaking = true → t.socket.closed = false ∧ t.socket.responding = none

/-- Who has claimed nothing leaks nothing. -/
theorem Unclaimed.not_leaks {c : String} {t : Handler} (h : Unclaimed c t) : ¬ Leaks c t :=
  fun hleaks => h.nobody hleaks.1

/-- Closing a socket that claimed nothing. -/
theorem Unclaimed.forceClose {c : String} {t : Handler} (h : Unclaimed c t)
    (hbegun : t.socket.handshaking = false) (answers : LocalAnswers) :
    Unclaimed c (forceClose t answers) := by
  unfold LocalControllerSession.forceClose releaseControlIfHeld
  split_ifs with hclosed hflag
  · exact h
  · refine ⟨h.inv, h.nobody, h.flag, h.reading, h.waiting, h.writing, h.refused, fun hbegins => ?_⟩
    rw [Turn.socket_modify, hbegun] at hbegins
    exact absurd hbegins (by decide)
  · rw [Turn.socket_modify, h.flag] at hflag
    exact absurd rfl hflag

/-- A session was claimed, or not yet. -/
def Inv (c : String) (t : Handler) : Prop := Own c t ∨ Unclaimed c t

/-- Control is claimed while the socket is open, so nothing leaks in the handshake. -/
theorem claimInHandshake_spec {c : String} {t : Handler} (answers : LocalAnswers) (h : Own c t)
    (hnone : ¬ t.manager.RecordsController c) (hopen : t.socket.closed = false)
    (summary : SessionEntry) :
    Own c (claimInHandshake t answers summary) ∧ ¬ Leaks c (claimInHandshake t answers summary) := by
  have hquiet : ∀ {t₁ t₂ : Handler}, Own c t₁ → ¬ Leaks c t₁ → Quiet c t₁ t₂ →
      Own c t₂ ∧ ¬ Leaks c t₂ := by
    intro t₁ t₂ hown hleaks hquiet
    obtain ⟨hown', hiff⟩ := hquiet hown
    exact ⟨hown', fun h => hleaks (hiff.mp h)⟩
  unfold claimInHandshake
  show Own c (if (!(ask t answers).2) = true then _ else _) ∧
    ¬ Leaks c (if (!(ask t answers).2) = true then _ else _)
  by_cases htakes : t.manager.TakesInput t.socket.sessionId
  · obtain ⟨e, hfind, hactive⟩ := htakes
    obtain ⟨hgranted, hown, -, -⟩ := claimed_spec answers h hfind hactive
    have hleaks : ¬ Leaks c (claimed t answers) := by
      rintro ⟨-, hclosed | hflag⟩
      · have hsame : (claimed t answers).socket.closed = t.socket.closed := rfl
        rw [hsame, hopen] at hclosed
        exact absurd hclosed (by decide)
      · have hset : (claimed t answers).socket.hasControl = true := rfl
        rw [hset] at hflag
        exact absurd hflag (by decide)
    rw [if_neg (by simp [hgranted])]
    refine hquiet hown hleaks ?_
    have hresized : Quiet c (claimed t answers) ((claimed t answers).resizeSession
        answers.toCallAnswers t.socket.clientId t.socket.sessionId t.socket.initialTerminalSize).1 :=
      Quiet.resizeSession _ _ _ _ _
    refine hresized.trans ?_
    dsimp only
    split_ifs
    · exact Quiet.writeHandshakeResponse _ _
    · exact (Quiet.modify _ _ ⟨rfl, rfl, rfl, rfl, rfl⟩).trans (Quiet.writeHandshakeResponse _ _)
  · obtain ⟨hanswer, hrecords⟩ := ask_refused answers h htakes hnone
    rw [if_pos (by simp [hanswer])]
    exact hquiet (own_ask answers h) (fun hleaks => hrecords hleaks.1)
      (Quiet.writeHandshakeResponse _ _)

/-- **The handshake** leaks nothing. -/
theorem handleHandshake_spec {c : String} {t : Handler} (lib : JsonLibrary) (answers : LocalAnswers)
    (line : Option String) (h : Unclaimed c t) (hbegun : t.socket.handshaking = false)
    (hopen : t.socket.closed = false) :
    Inv c (handleHandshake lib c t answers line) ∧
      ¬ Leaks c (handleHandshake lib c t answers line) := by
  cases line with
  | none =>
      have hclosed := h.forceClose hbegun answers
      exact ⟨Or.inr hclosed, hclosed.not_leaks⟩
  | some line =>
      unfold handleHandshake
      dsimp only
      split
      · next response _ =>
        have hrefused : Unclaimed c (writeHandshakeResponse t { response }) := by
          refine ⟨h.inv, h.nobody, h.flag, h.reading, h.waiting, h.writing, ?_, ?_⟩
          · intro answer hanswer
            obtain rfl := Option.some.inj hanswer
            rfl
          · intro hbegins
            exact absurd (hbegun.symm.trans hbegins) (by decide)
        exact ⟨Or.inr hrefused, hrefused.not_leaks⟩
      · next handshake _ =>
        generalize hnamed : Turn.modify t _ = named
        have hown : Own c named := by
          rw [← hnamed]
          exact ⟨hbegun, h.inv, rfl, SessionManager.hostOnly_of_not_recorded h.nobody _⟩
        have hnone : ¬ named.manager.RecordsController c := hnamed ▸ h.nobody
        split
        · obtain ⟨hown', hiff⟩ := Quiet.writeHandshakeResponse named
            { response := "ERROR session not found\n" } hown
          exact ⟨Or.inl hown', fun hleaks => hnone (hiff.mp hleaks).1⟩
        · next summary _ =>
          obtain ⟨hown', hleaks⟩ :=
            claimInHandshake_spec answers hown hnone (hnamed ▸ hopen) summary
          exact ⟨Or.inl hown', hleaks⟩

/-! ### Runs -/

/-- The step leaks control: a claim is granted in vain, or a closed socket takes a session that
nobody has. -/
def LeaksControl (s : SessionManager × LocalControllerSession) : Event → Prop
  | .header (some header) answers =>
      header.size = 0 ∧ header.type = claimFrame ∧
        ClaimsInVain { manager := s.1, socket := s.2 } answers
  | .payload (some _) answers =>
      (∃ size, s.2.reading = some (.payload claimFrame size)) ∧
        ClaimsInVain { manager := s.1, socket := s.2 } answers
  | .readable .ready answers => RetakesAfterPoll { manager := s.1, socket := s.2 } answers
  | _ => False

/-- A call of somebody else that does not ask for this client's control. -/
theorem other_spec {c : String} {t : Handler} {call : Call} (hinv : Inv c t)
    (hleaks : ¬ Leaks c t) (hother : ¬ asksFor c call.op = true) :
    Inv c { t with manager := (t.manager.perform call.storeOk call.op).1 } ∧
      ¬ Leaks c { t with manager := (t.manager.perform call.storeOk call.op).1 } := by
  have hop : ∀ id kind, call.op ≠ .requestControl id c kind := by
    intro id kind heq
    rw [heq] at hother
    simp [asksFor] at hother
  rcases hinv with h | h
  · refine ⟨Or.inl ⟨h.begun, SessionManager.inv_perform h.inv _ _, h.drawn,
      SessionManager.hostOnly_perform h.inv h.host hop⟩, ?_⟩
    rintro ⟨hrecords, hoff⟩
    exact hleaks ⟨SessionManager.recorded_of_perform h.inv hop hrecords, hoff⟩
  · have hnobody : ¬ (t.manager.perform call.storeOk call.op).1.RecordsController c := by
      intro hrecords
      exact h.nobody (SessionManager.recorded_of_perform h.inv hop hrecords)
    exact ⟨Or.inr ⟨SessionManager.inv_perform h.inv _ _, hnobody, h.flag, h.reading, h.waiting,
      h.writing, h.refused, h.begins⟩, fun hleaks => hnobody hleaks.1⟩

/-- **One step** keeps the invariant, and leaks control exactly if it is one of those. -/
theorem handle_spec {lib : JsonLibrary} {c : String} {t t' : Handler} {event : Event}
    (hinv : Inv c t) (hleaks : ¬ Leaks c t) (hhandle : handle lib c t event = some t') :
    Inv c t' ∧ (Leaks c t' ↔ LeaksControl (t.manager, t.socket) event) := by
  have hnone : ∀ {t'' : Handler}, Inv c t'' ∧ ¬ Leaks c t'' →
      ¬ LeaksControl (t.manager, t.socket) event →
      Inv c t'' ∧ (Leaks c t'' ↔ LeaksControl (t.manager, t.socket) event) :=
    fun h hno => ⟨h.1, iff_of_false h.2 hno⟩
  have hquiet : ∀ {t'' : Handler}, Own c t → Quiet c t t'' → Inv c t'' ∧ ¬ Leaks c t'' := by
    intro t'' hown hquiet
    obtain ⟨hown', hiff⟩ := hquiet hown
    exact ⟨Or.inl hown', fun h => hleaks (hiff.mp h)⟩
  cases event with
  | other call =>
      simp only [handle, Option.ite_none_left_eq_some] at hhandle
      obtain ⟨hother, heq⟩ := hhandle
      obtain rfl := Option.some.inj heq
      exact hnone (other_spec hinv hleaks hother) not_false
  | handshake line answers =>
      simp only [handle, Option.ite_none_right_eq_some] at hhandle
      obtain ⟨hbegins, heq⟩ := hhandle
      obtain rfl := Option.some.inj heq
      rcases hinv with h | h
      · rw [h.begun] at hbegins
        exact absurd hbegins (by decide)
      · have hunclaimed : Unclaimed c (t.modify ({ · with handshaking := false })) :=
          ⟨h.inv, h.nobody, h.flag, h.reading, h.waiting, h.writing, h.refused,
            fun hoff => absurd hoff (by simp)⟩
        exact hnone (handleHandshake_spec lib answers line hunclaimed rfl (h.begins hbegins).1)
          not_false
  | responded ok answers =>
      simp only [handle] at hhandle
      rcases hresponding : t.socket.responding with _ | response
      · rw [hresponding] at hhandle
        exact absurd hhandle (by simp)
      · rw [hresponding] at hhandle
        obtain rfl := Option.some.inj hhandle
        rcases hinv with h | h
        · exact hnone (hquiet h ((Quiet.modify t _ ⟨rfl, rfl, rfl, rfl, rfl⟩).trans
            (Quiet.handleResponded _ answers ok _))) not_false
        · have hbegun : t.socket.handshaking = false := by
            by_contra hbegins
            rw [(h.begins (by simpa using hbegins)).2] at hresponding
            exact absurd hresponding (by simp)
          have hrefused := h.refused response hresponding
          have hunclaimed : Unclaimed c (t.modify ({ · with responding := none })) :=
            ⟨h.inv, h.nobody, h.flag, h.reading, h.waiting, h.writing,
              fun _ hanswer => absurd hanswer (by simp), fun hbegins => by
                rw [Turn.socket_modify, hbegun] at hbegins
                exact absurd hbegins (by decide)⟩
          have hclosed := hunclaimed.forceClose hbegun answers
          unfold handleResponded
          rw [if_pos (by simp [hrefused])]
          exact hnone ⟨Or.inr hclosed, hclosed.not_leaks⟩ not_false
  | header header answers =>
      simp only [handle] at hhandle
      split at hhandle
      · next hreading =>
        rw [Option.ite_none_left_eq_some] at hhandle
        obtain ⟨-, heq⟩ := hhandle
        obtain rfl := Option.some.inj heq
        rcases hinv with h | h
        · have hstart : Quiet c t (t.modify ({ · with reading := none })) :=
            Quiet.modify t _ ⟨rfl, rfl, rfl, rfl, rfl⟩
          rcases header with _ | header
          · exact hnone (hquiet h (hstart.trans (Quiet.forceClose _ answers))) not_false
          · unfold handleHeader
            dsimp only
            split_ifs with hlarge hempty
            · refine hnone (hquiet h (hstart.trans (Quiet.forceClose _ answers))) fun hbad => ?_
              rw [hbad.1] at hlarge
              exact absurd hlarge (by simp)
            · obtain ⟨hown, hiff⟩ := hstart h
              obtain ⟨hown', hiff'⟩ := leaks_handleFrame answers header.type [] hown
                fun h => hleaks (hiff.mp h)
              exact ⟨Or.inl hown', hiff'.trans (and_iff_right hempty).symm⟩
            · exact hnone (hquiet h (hstart.trans (Quiet.startRead _ _)))
                fun hbad => hempty hbad.1
        · rw [h.reading] at hreading
          exact absurd hreading (by simp)
      · exact absurd hhandle (by simp)
  | payload payload answers =>
      simp only [handle] at hhandle
      split at hhandle
      · next type size hreading =>
        rw [Option.ite_none_left_eq_some] at hhandle
        obtain ⟨-, heq⟩ := hhandle
        obtain rfl := Option.some.inj heq
        rcases hinv with h | h
        · have hstart : Quiet c t (t.modify ({ · with reading := none })) :=
            Quiet.modify t _ ⟨rfl, rfl, rfl, rfl, rfl⟩
          rcases payload with _ | payload
          · exact hnone (hquiet h (hstart.trans (Quiet.forceClose _ answers))) not_false
          · obtain ⟨hown, hiff⟩ := hstart h
            obtain ⟨hown', hiff'⟩ := leaks_handleFrame answers type payload hown
              fun h => hleaks (hiff.mp h)
            refine ⟨Or.inl hown', hiff'.trans (and_congr_left fun _ => ?_)⟩
            simp [hreading]
        · rw [h.reading] at hreading
          exact absurd hreading (by simp)
      · exact absurd hhandle (by simp)
  | written ok answers =>
      simp only [handle, Option.ite_none_right_eq_some] at hhandle
      obtain ⟨hwriting, heq⟩ := hhandle
      obtain rfl := Option.some.inj heq
      rcases hinv with h | h
      · exact hnone (hquiet h (Quiet.handleWritten t answers ok)) not_false
      · rw [h.writing] at hwriting
        exact absurd hwriting (by decide)
  | readable result answers =>
      simp only [handle, Option.ite_none_right_eq_some] at hhandle
      obtain ⟨hwaiting, heq⟩ := hhandle
      obtain rfl := Option.some.inj heq
      rcases hinv with h | h
      · have hstart : Quiet c t (t.modify ({ · with waiting := false })) :=
          Quiet.modify t _ ⟨rfl, rfl, rfl, rfl, rfl⟩
        obtain ⟨hown, hiff⟩ := hstart h
        obtain ⟨hown', hiff'⟩ := leaks_handleReadable answers result hown
          fun h => hleaks (hiff.mp h)
        refine ⟨Or.inl hown', hiff'.trans ?_⟩
        cases result with
        | ready => exact and_iff_right rfl
        | aborted | failed => exact iff_of_false (by simp) not_false
      · rw [h.waiting] at hwaiting
        exact absurd hwaiting (by decide)

/-- **Over whole runs**: whatever the client of a socket sends, whatever else happens to the manager
and wherever the connection ends, control is never leaked exactly when no step leaks it. -/
theorem noLeak_iff (lib : JsonLibrary) (clientId : String)
    (store : Option (List Store.PersistedSessionRecord)) (events : List Event) :
    AllStates (step lib clientId) (NoLeak clientId) ({ sessionStore := store }, {}) events ↔
      AllSteps (step lib clientId) (fun s event => ¬ LeaksControl s event)
        ({ sessionStore := store }, {}) events := by
  have hstep : ∀ s event s', Inv clientId { manager := s.1, socket := s.2 } → NoLeak clientId s →
      step lib clientId s event = some s' →
      Inv clientId { manager := s'.1, socket := s'.2 } ∧
        (NoLeak clientId s' ↔ ¬ LeaksControl s event) := by
    intro s event s' hinv hgood hstep
    obtain ⟨t', hhandle, rfl⟩ := Option.map_eq_some_iff.mp hstep
    have hleaks := (noLeak_iff_not_leaks clientId { manager := s.1, socket := s.2 }).mp hgood
    obtain ⟨hinv', hiff⟩ := handle_spec hinv hleaks hhandle
    refine ⟨?_, ?_⟩
    · rcases hinv' with h | h
      · exact Or.inl ⟨h.begun, h.inv, h.drawn, h.host⟩
      · exact Or.inr ⟨h.inv, h.nobody, h.flag, h.reading, h.waiting, h.writing, h.refused, h.begins⟩
    · exact (noLeak_iff_not_leaks clientId t').trans (not_congr hiff)
  have hnobody : ¬ SessionManager.RecordsController { sessionStore := store } clientId := by
    rintro ⟨e, he, -⟩
    exact absurd he List.not_mem_nil
  refine allStates_iff_allSteps (fun s => Inv clientId { manager := s.1, socket := s.2 })
    (fun s event s' hinv hgood h => (hstep s event s' hinv hgood h).1)
    (fun s event s' hinv hgood h => (hstep s event s' hinv hgood h).2) ?_ ?_ events
  · refine Or.inr ⟨SessionManager.inv_of_init rfl, hnobody, rfl, rfl, rfl, rfl, ?_, ?_⟩
    · exact fun _ hanswer => absurd hanswer (by simp)
    · exact fun _ => ⟨rfl, rfl⟩
  · exact ⟨fun _ => hnobody, fun _ hrecords => absurd hrecords hnobody⟩

/-! ### Control that is leaked -/

/-- What a local terminal sends to attach to a session. -/
def attachMessage (sessionId : String) : Json := .object [("sessionId", .string sessionId)]

/-- The handshake is read as it is written. -/
theorem parseHandshake_attachMessage (lib : JsonLibrary) (sessionId : String) :
    parseHandshake lib (lib.serialize (attachMessage sessionId)) =
      .ok { sessionId, terminalSize := {} } := by
  simp [parseHandshake, lib.parse_serialize, attachMessage, ifContains, List.lookup_cons, required,
    asObject, asString, handshakeSize]

/-- A terminal loses its session to a second one, claims it back with a size that is refused, and
disconnects. -/
def resizedInVain (lib : JsonLibrary) : List Event :=
  [.other (SessionManager.startCall "s_1"),
    .handshake (some (lib.serialize (attachMessage "s_1"))) {}, .responded true {},
    .other { op := .requestControl "s_1" "local-controller-2" .host },
    .header (some ⟨claimFrame, 0, 0, 0, 0⟩) { ptyResized := false }, .header none {}]

/-- The socket is closed, and its client is on record. -/
theorem leaks_resizedInVain :
    ¬ ∀ store events, AllStates (step JsonText.compactJson "local-controller-1")
      (NoLeak "local-controller-1") ({ sessionStore := store }, {}) events := by
  intro h
  have hrun := h none (resizedInVain JsonText.compactJson)
  have hparse := parseHandshake_attachMessage JsonText.compactJson "s_1"
  rw [resizedInVain] at hrun
  generalize JsonText.compactJson.serialize (attachMessage "s_1") = line at hrun hparse
  have hreaches : Reaches (step JsonText.compactJson "local-controller-1") ({}, {})
      [.other (SessionManager.startCall "s_1"), .handshake (some line) {}, .responded true {},
        .other { op := .requestControl "s_1" "local-controller-2" .host },
        .header (some ⟨claimFrame, 0, 0, 0, 0⟩) { ptyResized := false }, .header none {}] _ :=
    .cons (by rfl) (.cons (by simp only [step, handle, handleHandshake, hparse]; rfl)
      (.cons (by rfl) (.cons (by rfl) (.cons (by rfl) (.cons (by rfl) (.refl _))))))
  exact absurd ((hrun _ _ (List.prefix_refl _) hreaches).ofClosed (by decide)) (by decide)

end LocalControllerSession

end Sentrits.Net
