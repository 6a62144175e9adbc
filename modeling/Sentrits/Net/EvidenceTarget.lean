import Sentrits.Found.JsonText
import Sentrits.Net.SessionRoutes
import Sentrits.Net.UrlEncoding

/-!
# The target of an evidence request

The command line asks for evidence with a target: the session and the operation in the path, the
options behind the question mark. The client writes it, the daemon reads it.

* `buildEvidenceTarget`: the client; `isSome_buildEvidenceTarget` says when it builds a target.
* `parseQueryValue_withItems`: the value of a key, in a target that was put together of items.
* `evidence_target_recovered`: **the daemon reads what the client asked for.**

Sources: `src/cli/daemon_client_http.cpp`, `src/net/request_parsing.cpp`, `src/net/http_shared.cpp`.
-/

namespace Sentrits.Net

open Found Found.Bytes Http
open Service (EvidenceQuery)

/-! ### The client -/

/-- Source: `daemon_client.h` `EvidenceCliRequest`. -/
structure EvidenceCliRequest where
  sessionId : Bytes
  operation : Bytes
  lines : Option UInt64 := none
  query : Option Bytes := none
  revisionStart : Option UInt64 := none
  revisionEnd : Option UInt64 := none
  revision : Option UInt64 := none
  before : Option UInt64 := none
  after : Option UInt64 := none
  limit : Option UInt64 := none
  deriving DecidableEq

/-- The target so far, with the sign before the next item.
Source: `daemon_client_http.cpp` the lambda `append_query` of `BuildEvidenceTarget`. -/
def appendQuery (target : Bytes × UInt8) (key : String) (value : Bytes) : Bytes × UInt8 :=
  (target.1 ++ target.2 :: (utf8 key ++ equalsSign :: urlEncode value), ampersand)

/-- Source: `daemon_client_http.cpp` the lambdas `append_size` and `append_revision` of
`BuildEvidenceTarget`. -/
def appendSize (target : Bytes × UInt8) (key : String) (value : Option UInt64) : Bytes × UInt8 :=
  match value with
  | none => target
  | some value => appendQuery target key (decimal value.toNat)

/-- Source: `daemon_client_http.cpp` `BuildEvidenceTarget`. -/
def buildEvidenceTarget (request : EvidenceCliRequest) : Option Bytes :=
  if request.sessionId.isEmpty || request.operation.isEmpty then none
  else
    let target : Bytes × UInt8 :=
      (utf8 "/sessions/" ++ urlEncode request.sessionId ++ utf8 "/evidence/" ++
        urlEncode request.operation, questionMark)
    if request.operation = utf8 "tail" then some (appendSize target "lines" request.lines).1
    else if request.operation = utf8 "search" then
      match request.query with
      | none => none
      | some query => some (appendSize (appendQuery target "query" query) "limit" request.limit).1
    else if request.operation = utf8 "range" then
      match request.revisionStart, request.revisionEnd with
      | some _, some _ =>
          some (appendSize (appendSize (appendSize target "start" request.revisionStart) "end"
            request.revisionEnd) "limit" request.limit).1
      | _, _ => none
    else if request.operation = utf8 "context" then
      match request.revision with
      | none => none
      | some _ =>
          some (appendSize (appendSize (appendSize target "revision" request.revision) "before"
            request.before) "after" request.after).1
    else none

/-! ### Targets that are put together of items -/

/-- An item: a key, and what its value stands for. -/
abbrev QueryItem : Type := String × Bytes

/-- An item as it is written. -/
def QueryItem.render (item : QueryItem) : Bytes := utf8 item.1 ++ equalsSign :: urlEncode item.2

/-- A path and the items behind it. -/
def withItems (path : Bytes) (items : List QueryItem) : Bytes :=
  match items with
  | [] => path
  | item :: items =>
      path ++ questionMark :: [ampersand].intercalate ((item :: items).map QueryItem.render)

/-- A number as an item, when there is one. -/
def sizeItem (key : String) (value : Option UInt64) : List QueryItem :=
  (value.map fun value => (key, decimal value.toNat)).toList

/-- The items of a request. -/
def EvidenceCliRequest.items (request : EvidenceCliRequest) : List QueryItem :=
  if request.operation = utf8 "tail" then sizeItem "lines" request.lines
  else if request.operation = utf8 "search" then
    (request.query.map fun query => ("query", query)).toList ++ sizeItem "limit" request.limit
  else if request.operation = utf8 "range" then
    sizeItem "start" request.revisionStart ++ sizeItem "end" request.revisionEnd ++
      sizeItem "limit" request.limit
  else
    sizeItem "revision" request.revision ++ sizeItem "before" request.before ++
      sizeItem "after" request.after

/-- The path of a request. -/
def EvidenceCliRequest.path (request : EvidenceCliRequest) : Bytes :=
  utf8 "/sessions/" ++ urlEncode request.sessionId ++ utf8 "/evidence/" ++
    urlEncode request.operation

/-- One item more. -/
theorem appendQuery_eq (target : Bytes × UInt8) (item : QueryItem) :
    appendQuery target item.1 item.2 = (target.1 ++ target.2 :: item.render, ampersand) := by
  rfl

/-- A number is appended as its item. -/
theorem appendSize_eq (target : Bytes × UInt8) (key : String) (value : Option UInt64) :
    appendSize target key value =
      (sizeItem key value).foldl (fun target item => appendQuery target item.1 item.2) target := by
  cases value with
  | none => rfl
  | some value => rfl

/-- Items behind the first sign. -/
theorem foldl_appendQuery (front : Bytes) (sign : UInt8) (item : QueryItem)
    (items : List QueryItem) :
    ((item :: items).foldl (fun target item => appendQuery target item.1 item.2)
        (front, sign)).1 =
      front ++ sign :: [ampersand].intercalate ((item :: items).map QueryItem.render) := by
  induction items generalizing front sign item with
  | nil => simp [appendQuery_eq]
  | cons item' items ih =>
      rw [List.foldl_cons, appendQuery_eq]
      dsimp only
      rw [ih, List.map_cons (l := item' :: items), List.map_cons, List.intercalate_cons_cons]
      simp

/-- **Items put one behind another are a target with its items.** -/
theorem foldl_eq_withItems (path : Bytes) (items : List QueryItem) :
    (items.foldl (fun target item => appendQuery target item.1 item.2) (path, questionMark)).1 =
      withItems path items := by
  rcases items with _ | ⟨item, items⟩
  · rfl
  · exact foldl_appendQuery path questionMark item items

/-- What is built is the path of the request with its items, of one of the four operations. -/
theorem withItems_of_build {request : EvidenceCliRequest} {target : Bytes}
    (h : buildEvidenceTarget request = some target) :
    target = withItems request.path request.items ∧
      (request.operation = utf8 "tail" ∨
        (request.operation = utf8 "search" ∧ request.query.isSome) ∨
        (request.operation = utf8 "range" ∧ request.revisionStart.isSome ∧
          request.revisionEnd.isSome) ∨
        (request.operation = utf8 "context" ∧ request.revision.isSome)) := by
  have hsearch : utf8 "search" ≠ utf8 "tail" := by decide
  have hrange : utf8 "range" ≠ utf8 "tail" ∧ utf8 "range" ≠ utf8 "search" := by decide
  have hcontext : utf8 "context" ≠ utf8 "tail" ∧ utf8 "context" ≠ utf8 "search" ∧
      utf8 "context" ≠ utf8 "range" := by decide
  unfold buildEvidenceTarget at h
  split_ifs at h with hempty htail hs hr hc
  · refine ⟨?_, Or.inl htail⟩
    rw [← foldl_eq_withItems, EvidenceCliRequest.items, if_pos htail, ← appendSize_eq]
    exact (Option.some.inj h).symm
  · rcases hquery : request.query with _ | query
    · rw [hquery] at h
      exact absurd h (by simp)
    · rw [hquery] at h
      refine ⟨?_, Or.inr (Or.inl ⟨hs, by rfl⟩)⟩
      rw [← foldl_eq_withItems, EvidenceCliRequest.items, if_neg (by rw [hs]; exact hsearch),
        if_pos hs, hquery, List.foldl_append, ← appendSize_eq]
      exact (Option.some.inj h).symm
  · rcases hstart : request.revisionStart with _ | revisionStart
    · rw [hstart] at h
      exact absurd h (by simp)
    rcases hend : request.revisionEnd with _ | revisionEnd
    · rw [hstart, hend] at h
      exact absurd h (by simp)
    rw [hstart, hend] at h
    refine ⟨?_, Or.inr (Or.inr (Or.inl ⟨hr, by rfl, by rfl⟩))⟩
    rw [← foldl_eq_withItems, EvidenceCliRequest.items, if_neg (by rw [hr]; exact hrange.1),
      if_neg (by rw [hr]; exact hrange.2), if_pos hr, hstart, hend, List.foldl_append,
      List.foldl_append, ← appendSize_eq, ← appendSize_eq, ← appendSize_eq]
    exact (Option.some.inj h).symm
  · rcases hrevision : request.revision with _ | revision
    · rw [hrevision] at h
      exact absurd h (by simp)
    rw [hrevision] at h
    refine ⟨?_, Or.inr (Or.inr (Or.inr ⟨hc, by rfl⟩))⟩
    rw [← foldl_eq_withItems, EvidenceCliRequest.items, if_neg (by rw [hc]; exact hcontext.1),
      if_neg (by rw [hc]; exact hcontext.2.1), if_neg (by rw [hc]; exact hcontext.2.2),
      hrevision, List.foldl_append, List.foldl_append, ← appendSize_eq, ← appendSize_eq,
      ← appendSize_eq]
    exact (Option.some.inj h).symm

/-- **A target is built exactly when** there is a session, and one of the four operations with what
it cannot do without. -/
theorem isSome_buildEvidenceTarget (request : EvidenceCliRequest) :
    (buildEvidenceTarget request).isSome = true ↔
      request.sessionId ≠ [] ∧
        (request.operation = utf8 "tail" ∨
          (request.operation = utf8 "search" ∧ request.query.isSome) ∨
          (request.operation = utf8 "range" ∧ request.revisionStart.isSome ∧
            request.revisionEnd.isSome) ∨
          (request.operation = utf8 "context" ∧ request.revision.isSome)) := by
  have hsearch : utf8 "search" ≠ utf8 "tail" := by decide
  have hrange : utf8 "range" ≠ utf8 "tail" ∧ utf8 "range" ≠ utf8 "search" := by decide
  have hcontext : utf8 "context" ≠ utf8 "tail" ∧ utf8 "context" ≠ utf8 "search" ∧
      utf8 "context" ≠ utf8 "range" := by decide
  constructor
  · intro h
    obtain ⟨target, htarget⟩ := Option.isSome_iff_exists.mp h
    refine ⟨?_, (withItems_of_build htarget).2⟩
    rintro hid
    rw [buildEvidenceTarget, hid] at htarget
    exact absurd htarget.symm (Option.some_ne_none _)
  · rintro ⟨hid, hoperation⟩
    have hnamed : request.operation ≠ [] := by
      rcases hoperation with h | ⟨h, -⟩ | ⟨h, -⟩ | ⟨h, -⟩ <;> rw [h] <;> decide
    have hempty : ¬(request.sessionId.isEmpty || request.operation.isEmpty) = true := by
      simp [hid, hnamed]
    unfold buildEvidenceTarget
    rw [if_neg hempty]
    dsimp only
    rcases hoperation with h | ⟨h, hquery⟩ | ⟨h, hstart, hend⟩ | ⟨h, hrevision⟩
    · rw [if_pos h]
      rfl
    · obtain ⟨query, hquery⟩ := Option.isSome_iff_exists.mp hquery
      rw [h, if_neg hsearch, if_pos rfl, hquery]
      rfl
    · obtain ⟨first, hstart⟩ := Option.isSome_iff_exists.mp hstart
      obtain ⟨last, hend⟩ := Option.isSome_iff_exists.mp hend
      rw [h, if_neg hrange.1, if_neg hrange.2, if_pos rfl, hstart, hend]
      rfl
    · obtain ⟨revision, hrevision⟩ := Option.isSome_iff_exists.mp hrevision
      rw [h, if_neg hcontext.1, if_neg hcontext.2.1, if_neg hcontext.2.2, if_pos rfl, hrevision]
      rfl

/-! ### Reading items -/

/-- A key without a sign that means something in a query. -/
def IsPlainKey (key : String) : Prop := equalsSign ∉ utf8 key ∧ ampersand ∉ utf8 key

/-- An item's key and value. -/
theorem render_key {item : QueryItem} (h : IsPlainKey item.1) :
    item.render.takeWhile (· != equalsSign) = utf8 item.1 := by
  exact takeWhile_append_sign h.1 _

/-- Behind the equals sign stands the encoded value. -/
theorem render_value {item : QueryItem} (h : IsPlainKey item.1) :
    (item.render.dropWhile (· != equalsSign)).drop 1 = urlEncode item.2 := by
  exact drop_dropWhile_append_sign h.1 _

/-- An item holds no sign between items. -/
theorem ampersand_notMem_render {item : QueryItem} (h : IsPlainKey item.1) :
    ampersand ∉ item.render := by
  intro hmem
  rcases List.mem_append.mp hmem with hkey | hrest
  · exact h.2 hkey
  rcases List.mem_cons.mp hrest with hsign | hvalue
  · exact absurd hsign (by decide)
  · exact notMem_urlEncode (by decide) (by decide) item.2 hvalue

/-- The item that is found among what is written is the first with the key. -/
theorem find?_render (key : String) {items : List QueryItem}
    (h : ∀ item ∈ items, IsPlainKey item.1) :
    (items.map QueryItem.render).find? (fun item => item.takeWhile (· != equalsSign) = utf8 key) =
      (items.find? (·.1 = key)).map QueryItem.render := by
  induction items with
  | nil => rfl
  | cons item items ih =>
      have hkey := render_key (h item List.mem_cons_self)
      rw [List.map_cons, List.find?_cons, List.find?_cons, hkey]
      by_cases heq : item.1 = key
      · simp [heq]
      · have hne : utf8 item.1 ≠ utf8 key := fun hutf => heq (utf8_injective hutf)
        simp only [hne, heq, decide_false]
        exact ih fun other hother => h other (List.mem_cons_of_mem item hother)

/-- **The value of a key is that of the first item that has it.** -/
theorem parseQueryValue_withItems {path : Bytes} {items : List QueryItem}
    (hpath : questionMark ∉ path) (h : ∀ item ∈ items, IsPlainKey item.1) (key : String) :
    parseQueryValue (withItems path items) key =
      ((items.find? (·.1 = key)).map fun item => urlEncode item.2).getD [] := by
  rcases items with _ | ⟨item, items⟩
  · have hnone : path.dropWhile (· != questionMark) = [] := by
      rw [List.dropWhile_eq_nil_iff]
      intro ch hch
      simpa using fun heq : ch = questionMark => hpath (heq ▸ hch)
    unfold parseQueryValue withItems
    rw [hnone]
    dsimp only
    rw [List.drop_nil, List.splitOn_nil]
    by_cases hempty : [] = utf8 key
    · simp [← hempty]
    · simp [hempty]
  · have hquery : ((withItems path (item :: items)).dropWhile (· != questionMark)).drop 1 =
        [ampersand].intercalate ((item :: items).map QueryItem.render) := by
      exact drop_dropWhile_append_sign hpath _
    have hsplit : ([ampersand].intercalate ((item :: items).map QueryItem.render)).splitOn
        ampersand = (item :: items).map QueryItem.render := by
      apply List.splitOn_intercalate
      · intro written hwritten
        obtain ⟨other, hother, rfl⟩ := List.mem_map.mp hwritten
        exact ampersand_notMem_render (h other hother)
      · simp
    unfold parseQueryValue
    dsimp only
    rw [hquery, hsplit, find?_render key h]
    rcases hfind : (item :: items).find? (·.1 = key) with _ | found
    · rw [hfind]
      rfl
    · rw [hfind]
      exact render_value (h found (List.mem_of_find?_eq_some hfind))

/-- The key of a number. -/
theorem key_of_mem_sizeItem {key : String} {value : Option UInt64} {item : QueryItem}
    (h : item ∈ sizeItem key value) : item.1 = key := by
  unfold sizeItem at h
  simp only [Option.mem_toList, Option.map_eq_some_iff] at h
  obtain ⟨-, -, rfl⟩ := h
  rfl

/-- The item of a number, among items of which none is in front of it. -/
theorem find?_sizeItem (key key' : String) (value : Option UInt64) :
    (sizeItem key value).find? (·.1 = key') =
      if key = key' then value.map fun value => (key, decimal value.toNat) else none := by
  cases value with
  | none => simp [sizeItem]
  | some value =>
      by_cases h : key = key'
      · simp [sizeItem, h]
      · simp [sizeItem, h]

/-- The keys a request may have. -/
def evidenceKeys : List String :=
  ["lines", "query", "limit", "start", "end", "revision", "before", "after"]

/-- The keys of a request are among them. -/
theorem key_of_mem_items {request : EvidenceCliRequest} {item : QueryItem}
    (h : item ∈ request.items) : item.1 ∈ evidenceKeys := by
  unfold EvidenceCliRequest.items at h
  unfold evidenceKeys
  split_ifs at h
  · simp [key_of_mem_sizeItem h]
  · rcases List.mem_append.mp h with hquery | hlimit
    · simp only [Option.mem_toList, Option.map_eq_some_iff] at hquery
      obtain ⟨-, -, rfl⟩ := hquery
      simp
    · simp [key_of_mem_sizeItem hlimit]
  · rcases List.mem_append.mp h with hrange | hlimit
    · rcases List.mem_append.mp hrange with hstart | hend
      · simp [key_of_mem_sizeItem hstart]
      · simp [key_of_mem_sizeItem hend]
    · simp [key_of_mem_sizeItem hlimit]
  · rcases List.mem_append.mp h with hfront | hafter
    · rcases List.mem_append.mp hfront with hrevision | hbefore
      · simp [key_of_mem_sizeItem hrevision]
      · simp [key_of_mem_sizeItem hbefore]
    · simp [key_of_mem_sizeItem hafter]

/-- All keys are plain. -/
theorem isPlainKey_items (request : EvidenceCliRequest) :
    ∀ item ∈ request.items, IsPlainKey item.1 := by
  have hplain : ∀ key ∈ evidenceKeys, equalsSign ∉ utf8 key ∧ ampersand ∉ utf8 key := by
    decide
  exact fun item hitem => hplain item.1 (key_of_mem_items hitem)

/-- A key that is none of them has no value. -/
theorem parseQueryValue_of_notMem {request : EvidenceCliRequest} {path : Bytes}
    (hpath : questionMark ∉ path) {key : String} (h : key ∉ evidenceKeys) :
    parseQueryValue (withItems path request.items) key = [] := by
  have hnone : request.items.find? (·.1 = key) = none := by
    rw [List.find?_eq_none]
    intro item hitem heq
    exact h (of_decide_eq_true heq ▸ key_of_mem_items hitem)
  rw [parseQueryValue_withItems hpath (isPlainKey_items request), hnone]
  rfl

section Values

variable {path : Bytes} {items : List QueryItem} (hpath : questionMark ∉ path)
  (hplain : ∀ item ∈ items, IsPlainKey item.1)

include hpath hplain

/-- The value of a number that is there, and of one that is not. -/
theorem parseQueryValue_number (key : String) (value : Option UInt64)
    (hfind : (items.find? (·.1 = key)).map (·.2) = value.map fun value => decimal value.toNat) :
    parseQueryValue (withItems path items) key =
      (value.map fun value => decimal value.toNat).getD [] := by
  have hmap : (items.find? (·.1 = key)).map (fun item => urlEncode item.2) =
      ((items.find? (·.1 = key)).map (·.2)).map urlEncode := by
    rw [Option.map_map]
    rfl
  rw [parseQueryValue_withItems hpath hplain, hmap, hfind, Option.map_map]
  congr 1
  apply Option.map_congr
  intro number _
  exact urlEncode_decimal number.toNat

/-- **A number that may be left out.** -/
theorem parseSizeQueryValue_withItems (key : String) (value : Option UInt64)
    (hfind : (items.find? (·.1 = key)).map (·.2) = value.map fun value => decimal value.toNat)
    (defaultValue : ℕ) :
    parseSizeQueryValue (withItems path items) key defaultValue =
      some ((value.map UInt64.toNat).getD defaultValue) := by
  have hraw := parseQueryValue_number hpath hplain key value hfind
  unfold parseSizeQueryValue
  dsimp only
  rw [hraw]
  cases value with
  | none => rfl
  | some value =>
      dsimp only [Option.map_some, Option.getD_some]
      rw [if_neg (by simpa using decimal_ne_nil value.toNat)]
      exact stoull_decimal value.toNat_lt

/-- **A number that has to be there.** -/
theorem parseRequiredRevisionQueryValue_withItems (key : String) (value : UInt64)
    (hfind : (items.find? (·.1 = key)).map (·.2) = some (decimal value.toNat)) :
    parseRequiredRevisionQueryValue (withItems path items) key = some value.toNat := by
  have hraw := parseQueryValue_number hpath hplain key (some value) hfind
  unfold parseRequiredRevisionQueryValue
  dsimp only
  rw [hraw]
  dsimp only [Option.map_some, Option.getD_some]
  rw [if_neg (by simpa using decimal_ne_nil value.toNat)]
  exact stoull_decimal value.toNat_lt

end Values

/-! ### The query -/

/-- What a request asks; what it leaves out is up to the daemon. -/
def EvidenceCliRequest.asked (request : EvidenceCliRequest) : Option EvidenceQuery :=
  let number (value : Option UInt64) (defaultValue : ℕ) :=
    (value.map UInt64.toNat).getD defaultValue
  if request.operation = utf8 "tail" then some (.tail (number request.lines 200))
  else if request.operation = utf8 "search" then
    request.query.map fun query => .search query (number request.limit 200)
  else if request.operation = utf8 "range" then
    request.revisionStart.bind fun revisionStart => request.revisionEnd.map fun revisionEnd =>
      .range revisionStart.toNat revisionEnd.toNat (number request.limit 200)
  else if request.operation = utf8 "context" then
    request.revision.map fun revision =>
      .context revision.toNat (number request.before 80) (number request.after 120)
  else none

/-- What is encoded is empty when it was. -/
theorem urlEncode_eq_nil_iff {input : Bytes} : urlEncode input = [] ↔ input = [] := by
  refine ⟨fun h => ?_, fun h => by rw [h]; rfl⟩
  have hdecoded := urlDecode_urlEncode input
  rw [h] at hdecoded
  exact (Option.some.inj hdecoded).symm

/-- The path holds no question mark. -/
theorem questionMark_notMem_path (request : EvidenceCliRequest) :
    questionMark ∉ request.path := by
  have hencoded : ∀ input, questionMark ∉ urlEncode input :=
    notMem_urlEncode (by decide) (by decide)
  have hsessions : questionMark ∉ utf8 "/sessions/" := by decide
  have hevidence : questionMark ∉ utf8 "/evidence/" := by decide
  unfold EvidenceCliRequest.path
  simp only [List.mem_append, not_or]
  exact ⟨⟨⟨hsessions, hencoded request.sessionId⟩, hevidence⟩, hencoded request.operation⟩

section Requested

variable (x : Exchange) {request : EvidenceCliRequest}
  (htarget : x.request.target = withItems request.path request.items)

include htarget

/-- A tail is asked for, and it is a tail that is read. -/
theorem requestedQuery_tail (htail : request.operation = utf8 "tail") :
    ∃ query, request.asked = some query ∧ x.requestedQuery request.operation = .ok query := by
  have hpath := questionMark_notMem_path request
  have hplain := isPlainKey_items request
  have hitems : request.items = sizeItem "lines" request.lines := by
    simp [EvidenceCliRequest.items, htail]
  unfold EvidenceCliRequest.asked Exchange.requestedQuery
  rw [htarget]
  dsimp only
  rw [hitems] at hplain ⊢
  have hlines := parseSizeQueryValue_withItems hpath hplain "lines" request.lines (by
    rw [find?_sizeItem]
    cases request.lines <;> rfl)
  rw [hlines, htail]
  exact ⟨_, by rfl, by rfl⟩

/-- A search for something is asked for, and it is that search that is read. -/
theorem requestedQuery_search (hsearch : request.operation = utf8 "search") {query : Bytes}
    (hq : request.query = some query) (hne : query ≠ []) :
    ∃ query, request.asked = some query ∧ x.requestedQuery request.operation = .ok query := by
  have hpath := questionMark_notMem_path request
  have hplain := isPlainKey_items request
  have hitems : request.items = ("query", query) :: sizeItem "limit" request.limit := by
    rw [EvidenceCliRequest.items, hsearch, hq]
    rfl
  unfold EvidenceCliRequest.asked Exchange.requestedQuery
  rw [htarget]
  dsimp only
  rw [hitems] at hplain ⊢
  have hlimit := parseSizeQueryValue_withItems hpath hplain "limit" request.limit (by
    rw [List.find?_cons_of_neg (by simp), find?_sizeItem]
    cases request.limit <;> rfl)
  have hraw : parseQueryValue (withItems request.path
      (("query", query) :: sizeItem "limit" request.limit)) "query" = urlEncode query := by
    rw [parseQueryValue_withItems hpath hplain, List.find?_cons_of_pos (by simp)]
    rfl
  have hempty : (urlEncode query).isEmpty = false := by
    simpa using fun h => hne (urlEncode_eq_nil_iff.mp h)
  rw [hlimit, hraw, urlDecode_urlEncode, hsearch, hq]
  refine ⟨_, by rfl, ?_⟩
  rw [if_neg (by decide), if_pos rfl, hempty]
  rfl

/-- A range is asked for, and it is that range that is read. -/
theorem requestedQuery_range (hrange : request.operation = utf8 "range")
    {revisionStart revisionEnd : UInt64} (hs : request.revisionStart = some revisionStart)
    (he : request.revisionEnd = some revisionEnd) :
    ∃ query, request.asked = some query ∧ x.requestedQuery request.operation = .ok query := by
  have hpath := questionMark_notMem_path request
  have hplain := isPlainKey_items request
  have hitems : request.items = ("start", decimal revisionStart.toNat) ::
      ("end", decimal revisionEnd.toNat) :: sizeItem "limit" request.limit := by
    rw [EvidenceCliRequest.items, hrange, hs, he]
    rfl
  unfold EvidenceCliRequest.asked Exchange.requestedQuery
  rw [htarget]
  dsimp only
  rw [hitems] at hplain ⊢
  have hlimit := parseSizeQueryValue_withItems hpath hplain "limit" request.limit (by
    rw [List.find?_cons_of_neg (by simp), List.find?_cons_of_neg (by simp), find?_sizeItem]
    cases request.limit <;> rfl)
  have hfirst := parseRequiredRevisionQueryValue_withItems hpath hplain "start" revisionStart (by
    rw [List.find?_cons_of_pos (by simp)]
    rfl)
  have hlast := parseRequiredRevisionQueryValue_withItems hpath hplain "end" revisionEnd (by
    rw [List.find?_cons_of_neg (by simp), List.find?_cons_of_pos (by simp)]
    rfl)
  rw [hlimit, hfirst, hlast, hrange, hs, he]
  exact ⟨_, by rfl, by rfl⟩

/-- What is around a revision is asked for, and it is what is read. -/
theorem requestedQuery_context (hcontext : request.operation = utf8 "context")
    {revision : UInt64} (hr : request.revision = some revision) :
    ∃ query, request.asked = some query ∧ x.requestedQuery request.operation = .ok query := by
  have hpath := questionMark_notMem_path request
  have hplain := isPlainKey_items request
  have hitems : request.items = ("revision", decimal revision.toNat) ::
      (sizeItem "before" request.before ++ sizeItem "after" request.after) := by
    rw [EvidenceCliRequest.items, hcontext, hr]
    rfl
  unfold EvidenceCliRequest.asked Exchange.requestedQuery
  rw [htarget]
  dsimp only
  rw [hitems] at hplain ⊢
  have hrevision := parseRequiredRevisionQueryValue_withItems hpath hplain "revision" revision (by
    rw [List.find?_cons_of_pos (by simp)]
    rfl)
  have hbefore := parseSizeQueryValue_withItems hpath hplain "before" request.before (by
    rw [List.find?_cons_of_neg (by simp), List.find?_append, find?_sizeItem, find?_sizeItem]
    cases request.before <;> rfl)
  have hafter := parseSizeQueryValue_withItems hpath hplain "after" request.after (by
    rw [List.find?_cons_of_neg (by simp), List.find?_append, find?_sizeItem, find?_sizeItem]
    cases request.after <;> rfl)
  rw [hrevision, hbefore, hafter, hcontext, hr]
  exact ⟨_, by rfl, by rfl⟩

end Requested

/-- **The daemon reads the query that was asked.** -/
theorem requestedQuery_built (x : Exchange) {request : EvidenceCliRequest} {target : Bytes}
    (hquery : request.query ≠ some []) (hbuild : buildEvidenceTarget request = some target)
    (htarget : x.request.target = target) :
    ∃ query, request.asked = some query ∧ x.requestedQuery request.operation = .ok query := by
  obtain ⟨rfl, hoperation⟩ := withItems_of_build hbuild
  rcases hoperation with htail | ⟨hsearch, hsome⟩ | ⟨hrange, hstart, hend⟩ | ⟨hcontext, hsome⟩
  · exact requestedQuery_tail x htarget htail
  · obtain ⟨query, hq⟩ := Option.isSome_iff_exists.mp hsome
    have hne : query ≠ [] := by
      rintro rfl
      exact hquery hq
    exact requestedQuery_search x htarget hsearch hq hne
  · obtain ⟨revisionStart, hs⟩ := Option.isSome_iff_exists.mp hstart
    obtain ⟨revisionEnd, he⟩ := Option.isSome_iff_exists.mp hend
    exact requestedQuery_range x htarget hrange hs he
  · obtain ⟨revision, hr⟩ := Option.isSome_iff_exists.mp hsome
    exact requestedQuery_context x htarget hcontext hr

/-! ### The path -/

/-- What is put between a path and its items is behind a question mark. -/
theorem stripQueryString_withItems {path : Bytes} (hpath : questionMark ∉ path)
    (items : List QueryItem) : StaticAssets.stripQueryString (withItems path items) = path := by
  rcases items with _ | ⟨item, items⟩
  · unfold StaticAssets.stripQueryString withItems
    rw [List.takeWhile_eq_self_iff]
    intro ch hch
    have hne : ch ≠ questionMark := fun heq => hpath (heq ▸ hch)
    exact bne_iff_ne.mpr hne
  · exact takeWhile_append_sign hpath _

/-! ### The target -/

/-- A byte a session's id may have. -/
theorem slash_notMem {sessionId : Bytes} (h : ∀ ch ∈ sessionId, isUnreserved ch = true) :
    LexicalPath.slash ∉ sessionId := by
  intro hmem
  exact absurd (h _ hmem) (by decide)

/-- The four operations, as they are written. -/
theorem path_of_operation {request : EvidenceCliRequest}
    (hid : ∀ ch ∈ request.sessionId, isUnreserved ch = true)
    (hoperation : request.operation ∈ ["tail", "search", "range", "context"].map utf8) :
    request.path =
        utf8 "/sessions/" ++ (request.sessionId ++ utf8 "/evidence/" ++ request.operation) ∧
      StaticAssets.isUiStaticAssetPath request.path = false := by
  have hplain : ∀ operation ∈ ["tail", "search", "range", "context"].map utf8,
      urlEncode operation = operation ∧ LexicalPath.slash ∉ operation ∧
        operation.contains 46 = false := by
    decide
  obtain ⟨hencoded, hslash, hdot⟩ := hplain request.operation hoperation
  have hpath : request.path =
      utf8 "/sessions/" ++ (request.sessionId ++ utf8 "/evidence/" ++ request.operation) := by
    unfold EvidenceCliRequest.path
    rw [urlEncode_of_unreserved hid, hencoded]
    simp only [List.append_assoc]
  have hlast : request.path = (utf8 "/sessions/" ++ request.sessionId ++ utf8 "/evidence") ++
      LexicalPath.slash :: request.operation := by
    have hmarker : utf8 "/evidence/" = utf8 "/evidence" ++ [LexicalPath.slash] := by decide
    rw [hpath, hmarker]
    simp only [List.append_assoc, List.singleton_append]
  refine ⟨hpath, ?_⟩
  unfold StaticAssets.isUiStaticAssetPath
  rw [hlast, rtakeWhile_append_slash hslash]
  exact hdot

/-- **What is encoded is decoded, and the daemon reads what the client asked for:** the session, the
operation, the query and every number, each left out or not; and nothing it did not ask for. -/
theorem evidence_target_recovered :
    (∀ input, urlDecode (urlEncode input) = some input) ∧
      ∀ (x : Exchange) (request : EvidenceCliRequest) (target : Bytes),
        (∀ ch ∈ request.sessionId, isUnreserved ch = true) → request.query ≠ some [] →
        buildEvidenceTarget request = some target →
        x.request.method = .get → x.request.target = target →
          route x.context x.request = .evidence request.sessionId request.operation ∧
            (∃ query, request.asked = some query ∧
              x.requestedQuery request.operation = .ok query) ∧
            parseBoolQueryValue target "persist" false = some false ∧
            x.requestedTitle = .ok none := by
  refine ⟨urlDecode_urlEncode, ?_⟩
  intro x request target hid hquery hbuild hget htarget
  have hasked := requestedQuery_built x hquery hbuild htarget
  obtain ⟨rfl, hbuilt⟩ := withItems_of_build hbuild
  have hoperation : request.operation ∈ ["tail", "search", "range", "context"].map utf8 := by
    rcases hbuilt with h | ⟨h, -⟩ | ⟨h, -⟩ | ⟨h, -⟩ <;> simp [h]
  have hpath := questionMark_notMem_path request
  have hstrip : StaticAssets.stripQueryString x.request.target = request.path := by
    rw [htarget, stripQueryString_withItems hpath]
  obtain ⟨hwritten, hdot⟩ := path_of_operation hid hoperation
  have hpre : utf8 "/sessions/" <+: StaticAssets.stripQueryString x.request.target := by
    rw [hstrip, hwritten]
    exact List.prefix_append _ _
  refine ⟨?_, hasked, ?_, ?_⟩
  · rw [route_of_sessions hpre (by simp [hget]) (by simp [Http.isRequest, hget]) x.context
      (by rw [hstrip]; exact hdot), hstrip, hwritten, List.drop_left]
    exact sessionRoute_evidence hget (slash_notMem hid) hoperation
  · unfold parseBoolQueryValue
    rw [parseQueryValue_of_notMem hpath (by decide)]
    rfl
  · unfold Exchange.requestedTitle
    rw [htarget, parseQueryValue_of_notMem hpath (by decide)]
    rfl

/-- A search for three bytes that all mean something in a target. -/
def signsRequest : EvidenceCliRequest where
  sessionId := utf8 "s_1"
  operation := utf8 "search"
  query := some [percentSign, ampersand, 0xFF]
  limit := some 5

/-- The target it is asked with, as a request to the daemon. -/
def signsExchange : Exchange where
  lib := JsonText.compactJson
  answers := .idle
  context := {}
  request :=
    { method := .get
      target := utf8 "/sessions/s_1/evidence/search?query=%25%26%FF&limit=5" }

/-- The three bytes arrive. -/
theorem evidence_target_recovered_signs :
    route signsExchange.context signsExchange.request = .evidence (utf8 "s_1") (utf8 "search") ∧
      signsExchange.requestedQuery (utf8 "search") =
        .ok (.search [percentSign, ampersand, 0xFF] 5) := by
  obtain ⟨hroute, ⟨query, hasked, hquery⟩, -, -⟩ :=
    evidence_target_recovered.2 signsExchange signsRequest _
      (List.all_eq_true.mp (by decide +kernel)) (by decide +kernel)
      (by decide +kernel : buildEvidenceTarget signsRequest =
        some (utf8 "/sessions/s_1/evidence/search?query=%25%26%FF&limit=5")) rfl rfl
  have hthree : signsRequest.asked = some (.search [percentSign, ampersand, 0xFF] 5) := by decide +kernel
  rw [hthree] at hasked
  obtain rfl := Option.some.inj hasked
  exact ⟨hroute, hquery⟩

end Sentrits.Net
