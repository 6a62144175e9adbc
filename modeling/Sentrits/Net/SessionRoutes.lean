import Sentrits.Net.HttpRoutes

/-!
# Targets below `/sessions/`

A target below `/sessions/` passes none of the tests the router makes before it looks for a session,
unless its last piece has a dot in it.

* `route_of_sessions`: **a target below `/sessions/` is that of a session.**
* `sessionRoute_evidence`: **what names a session and an operation goes where evidence is made.**

Source: `src/net/http_shared.cpp`.
-/

namespace Sentrits.Net

open Found Found.Bytes Http

section Route

variable {request : HttpRequest}
  (hpre : utf8 "/sessions/" <+: StaticAssets.stripQueryString request.target)

include hpre

/-- The target of the request begins as those of sessions do. -/
theorem prefix_target : utf8 "/sessions/" <+: request.target :=
  hpre.trans (List.takeWhile_prefix _)

/-- A path that goes elsewhere is not that of the request. -/
theorem getsPath_eq_false (path : String) (h : ¬utf8 "/sessions/" <+: utf8 path) :
    getsPath request path = false := by
  unfold getsPath
  rw [decide_eq_false_iff_not]
  rintro ⟨-, heq⟩
  exact h (heq ▸ hpre)

/-- A target that goes elsewhere is not that of the request. -/
theorem isRequest_eq_false (method : HttpVerb) (target : String)
    (h : ¬utf8 "/sessions/" <+: utf8 target) : isRequest request method target = false := by
  unfold isRequest
  rw [decide_eq_false_iff_not]
  rintro ⟨-, heq⟩
  exact h (heq ▸ prefix_target hpre)

/-- A directory that is elsewhere is not that of the request. -/
theorem not_isPrefix (directory : String)
    (h : ¬utf8 "/sessions/" <+: utf8 directory ∧ ¬utf8 directory <+: utf8 "/sessions/") :
    ¬utf8 directory <+: request.target := by
  intro hdirectory
  rcases List.prefix_or_prefix_of_prefix hdirectory (prefix_target hpre) with hle | hle
  · exact h.2 hle
  · exact h.1 hle

omit hpre in
/-- Where the front is none, nothing stands behind it. -/
theorem between_eq_none (front back : String) (h : ¬utf8 front <+: request.target) :
    between (utf8 front) (utf8 back) request.target = none :=
  if_neg fun hboth => h hboth.1

/-- **A target below `/sessions/` whose last piece has no dot is none of a page.** -/
theorem pageRoute_eq_none (hoptions : request.method ≠ .options) (context : HttpRouteContext)
    (hdot : StaticAssets.isUiStaticAssetPath (StaticAssets.stripQueryString request.target) =
      false) :
    pageRoute context request = none := by
  have hgets := getsPath_eq_false hpre
  have htemplates : ¬(StaticAssets.stripQueryString request.target = utf8 "/templates" ∨
      utf8 "/templates/" <+: request.target) := by
    rintro (h | h)
    · exact absurd (h ▸ hpre) (by decide +kernel)
    · exact not_isPrefix hpre "/templates/" (by decide +kernel) h
  have hassets : ¬utf8 "/assets/" <+: StaticAssets.stripQueryString request.target :=
    fun h =>
      not_isPrefix hpre "/assets/" (by decide +kernel) (h.trans (List.takeWhile_prefix _))
  have hterminal := not_isPrefix hpre "/ui/terminal?" (by decide +kernel)
  unfold pageRoute
  dsimp only
  rw [if_neg hoptions, isRequest_eq_false hpre .get "/health" (by decide +kernel),
    if_neg Bool.false_ne_true, if_neg htemplates, hgets "/" (by decide +kernel),
    hgets "/ui" (by decide +kernel), hgets "/client" (by decide +kernel),
    hgets "/remote" (by decide +kernel), hgets "/remote/app.js" (by decide +kernel),
    hgets "/remote/app.css" (by decide +kernel),
    hgets "/assets/xterm/xterm.css" (by decide +kernel),
    hgets "/assets/xterm/xterm.js" (by decide +kernel),
    hgets "/assets/xterm/addon-fit.js" (by decide +kernel),
    hgets "/ui/terminal" (by decide +kernel), hgets "/ui/app.js" (by decide +kernel),
    hgets "/ui/app.css" (by decide +kernel), hgets "/ui/terminal.js" (by decide +kernel), hdot]
  simp [hassets, hterminal]

/-- No target below `/sessions/` is one of the host. -/
theorem hostRoute_eq_none : hostRoute request = none := by
  have hgets := isRequest_eq_false hpre .get
  have hposts := isRequest_eq_false hpre .post
  have hobservations := not_isPrefix hpre "/observations?" (by decide +kernel)
  unfold hostRoute
  rw [hposts "/pairing/request" (by decide +kernel), hgets "/pairing/pending" (by decide +kernel),
    hposts "/pairing/approve" (by decide +kernel), hposts "/pairing/reject" (by decide +kernel),
    hposts "/pairing/claim" (by decide +kernel), hposts "/host/config" (by decide +kernel),
    hgets "/host/records" (by decide +kernel), hgets "/host/tls/certificate" (by decide +kernel),
    hgets "/host/info" (by decide +kernel), hgets "/host/logs" (by decide +kernel),
    hgets "/observations" (by decide +kernel), hgets "/discovery/info" (by decide +kernel),
    hgets "/host/local-token" (by decide +kernel), hgets "/host/sessions" (by decide +kernel),
    hposts "/host/sessions" (by decide +kernel), hgets "/host/clients" (by decide +kernel),
    hgets "/host/trusted-devices" (by decide +kernel)]
  simp [hobservations]

/-- Nor is it one of the host with a name. -/
theorem hostNameRoute_eq_none : hostNameRoute request = none := by
  unfold hostNameRoute
  dsimp only
  split_ifs with hpost hclear hdelete
  · have hclears : utf8 "/host/sessions/clear-inactive" <+: request.target := by
      rw [hclear]
    exact absurd hclears (not_isPrefix hpre _ (by decide +kernel))
  · have hdevices := not_isPrefix hpre "/host/trusted-devices/" (by decide +kernel)
    rw [between_eq_none _ _ (not_isPrefix hpre "/host/sessions/" (by decide +kernel)),
      between_eq_none _ _ (not_isPrefix hpre "/host/clients/" (by decide +kernel)),
      between_eq_none _ _ hdevices, between_eq_none _ _ hdevices]
    rfl
  · have hrecords := hdelete.2.trans (List.takeWhile_prefix _)
    exact absurd hrecords (not_isPrefix hpre "/host/records/" (by decide +kernel))
  · rfl

/-- The target is not that of all sessions, unless inactive ones are cleared. -/
theorem sessionsRoute_eq_none
    (hclear : isRequest request .post "/sessions/clear-inactive" = false) :
    sessionsRoute request = none := by
  unfold sessionsRoute
  rw [isRequest_eq_false hpre .get "/sessions" (by decide +kernel),
    isRequest_eq_false hpre .post "/sessions" (by decide +kernel),
    isRequest_eq_false hpre .post "/log-sessions" (by decide +kernel), hclear]
  rfl

/-- **A target below `/sessions/` is that of a session.** -/
theorem route_of_sessions (hoptions : request.method ≠ .options)
    (hclear : isRequest request .post "/sessions/clear-inactive" = false)
    (context : HttpRouteContext)
    (hdot : StaticAssets.isUiStaticAssetPath (StaticAssets.stripQueryString request.target) =
      false) :
    route context request = sessionRoute request
      ((StaticAssets.stripQueryString request.target).drop (utf8 "/sessions/").length) := by
  unfold route
  dsimp only
  rw [pageRoute_eq_none hpre hoptions context hdot, hostRoute_eq_none hpre,
    hostNameRoute_eq_none hpre, sessionsRoute_eq_none hpre hclear, if_pos hpre]
  rfl

end Route

/-! ### Pieces of a path -/

/-- A marker is found where it is first, behind a name it cannot begin in. -/
theorem aroundMarker_append {name marker rest : Bytes} {sign : UInt8} (hsign : sign ∉ name) :
    aroundMarker (sign :: marker) (name ++ (sign :: marker) ++ rest) = some (name, rest) := by
  induction name with
  | nil =>
      have hfound : sign :: marker <+: sign :: (marker ++ rest) :=
        List.prefix_append (sign :: marker) rest
      rw [List.nil_append, List.cons_append, aroundMarker, if_pos hfound]
      simp
  | cons ch name ih =>
      have hne : ch ≠ sign := fun heq => hsign (heq ▸ List.mem_cons_self)
      have hnot : ¬sign :: marker <+: ch :: (name ++ sign :: marker ++ rest) := by
        rw [List.cons_prefix_cons]
        exact fun h => hne h.1.symm
      rw [List.cons_append, List.cons_append, aroundMarker, if_neg hnot,
        ih fun h => hsign (List.mem_cons_of_mem ch h)]
      rfl

/-- The last piece of a path. -/
theorem rtakeWhile_append_slash {front name : Bytes} (h : LexicalPath.slash ∉ name) :
    (front ++ LexicalPath.slash :: name).rtakeWhile (· != LexicalPath.slash) = name := by
  unfold List.rtakeWhile
  rw [List.reverse_append, List.reverse_cons, List.append_assoc, List.singleton_append,
    takeWhile_append_sign (by simpa using h), List.reverse_reverse]

/-- **What names a session and one of the operations goes where evidence is made.** -/
theorem sessionRoute_evidence {request : HttpRequest} (hget : request.method = .get)
    {sessionId operation : Bytes} (hid : LexicalPath.slash ∉ sessionId)
    (hoperation : operation ∈ ["tail", "search", "range", "context"].map utf8) :
    sessionRoute request (sessionId ++ utf8 "/evidence/" ++ operation) =
      .evidence sessionId operation := by
  have hapart : ∀ suffix ∈ ["/snapshot", "/file"].map utf8,
      ∀ operation ∈ ["tail", "search", "range", "context"].map utf8,
        ¬suffix <:+ utf8 "/evidence/" ++ operation ∧
          ¬utf8 "/evidence/" ++ operation <:+ suffix := by
    decide +kernel
  have hback : utf8 "/evidence/" ++ operation <:+
      sessionId ++ utf8 "/evidence/" ++ operation := by
    rw [List.append_assoc]
    exact List.suffix_append _ _
  have hending : ∀ suffix ∈ ["/snapshot", "/file"].map utf8,
      beforeSuffix suffix (sessionId ++ utf8 "/evidence/" ++ operation) = none := by
    intro suffix hsuffix
    obtain ⟨hshort, hlong⟩ := hapart suffix hsuffix operation hoperation
    unfold beforeSuffix
    rw [if_neg]
    rintro ⟨-, h⟩
    rcases List.suffix_or_suffix_of_suffix h hback with hsuf | hsuf
    · exact hshort hsuf
    · exact hlong hsuf
  have hmarker : aroundMarker (utf8 "/evidence/") (sessionId ++ utf8 "/evidence/" ++ operation) =
      some (sessionId, operation) := aroundMarker_append hid
  unfold sessionRoute
  dsimp only
  rw [hending _ (by simp), hending _ (by simp), if_pos hget, hmarker]
  rfl

end Sentrits.Net
