import Mathlib.Data.List.DropRight
import Mathlib.Data.List.Nodup

/-!
# Session types

The enumerations and records every part of the daemon shares, and the normalisation of group tags.

* `normalizeGroupTags_idem`: normalising a second time changes nothing, so a list that went through
  a request, a file and a request again is the list it was.

Sources: `include/vibe/session/session_types.h`, `src/session/session_types.cpp`.
-/

namespace Sentrits.Session

/-- Source: `session_types.h` `ProviderType`. -/
inductive ProviderType
  | codex
  | claude
  deriving DecidableEq

/-- Source: `session_types.h` `SessionStatus`. -/
inductive SessionStatus
  | created
  | starting
  | running
  | awaitingInput
  | exited
  | error
  deriving DecidableEq

/-- Source: `session_types.h` `ControllerKind`. -/
inductive ControllerKind
  | none
  | host
  | remote
  deriving DecidableEq

/-- Source: `session_types.cpp` `ToString(ProviderType)`. -/
def ProviderType.toString : ProviderType → String
  | .codex => "codex"
  | .claude => "claude"

/-- Source: `session_types.cpp` `ToString(SessionStatus)`. -/
def SessionStatus.toString : SessionStatus → String
  | .created => "Created"
  | .starting => "Starting"
  | .running => "Running"
  | .awaitingInput => "AwaitingInput"
  | .exited => "Exited"
  | .error => "Error"

/-- Source: `session_types.cpp` `ToString(ControllerKind)`. -/
def ControllerKind.toString : ControllerKind → String
  | .none => "none"
  | .host => "host"
  | .remote => "remote"

namespace SessionStatus

/-- A session in this state takes input.
Source: `session_manager.cpp` `IsInteractiveStatus`, `session_runtime.cpp` `IsInteractiveState`. -/
def isInteractive (status : SessionStatus) : Bool :=
  status == .running || status == .awaitingInput

/-- The session is over. -/
def isTerminal (status : SessionStatus) : Bool :=
  status == .exited || status == .error

/-- A session that has exited is over. -/
@[simp] theorem isTerminal_exited : isTerminal .exited = true := rfl

/-- A session that failed is over. -/
@[simp] theorem isTerminal_error : isTerminal .error = true := rfl

/-- A running session takes input. -/
@[simp] theorem isInteractive_running : isInteractive .running = true := rfl

/-- A session that waits for input takes it. -/
@[simp] theorem isInteractive_awaitingInput : isInteractive .awaitingInput = true := rfl

/-- A session is over when it has exited or failed. -/
theorem isTerminal_iff {status : SessionStatus} :
    status.isTerminal = true ↔ status = .exited ∨ status = .error := by
  cases status <;> decide

/-- A session that takes input is not over. -/
theorem isTerminal_of_isInteractive {status : SessionStatus} (h : status.isInteractive = true) :
    status.isTerminal = false := by
  cases status <;> first | rfl | exact absurd h (by decide)

/-- A session that is over takes no input. -/
theorem isInteractive_of_isTerminal {status : SessionStatus} (h : status.isTerminal = true) :
    status.isInteractive = false := by
  cases status <;> first | rfl | exact absurd h (by decide)

end SessionStatus

/-! ### Session ids -/

/-- Source: `session_types.cpp` `IsValidSessionIdChar`. -/
def isValidSessionIdChar (ch : Char) : Bool :=
  ch.isAlphanum || ch == '_' || ch == '-'

/-- The id a string names, when it is one.
Source: `session_types.cpp` `SessionId::TryCreate`. -/
def SessionId.tryCreate (value : String) : Option String :=
  if value.isEmpty then none
  else if value.toList.all isValidSessionIdChar then some value
  else none

/-- An id is the text it was made of. -/
theorem SessionId.tryCreate_eq_some {value id : String} (h : tryCreate value = some id) :
    id = value := by
  unfold tryCreate at h
  split_ifs at h
  exact (Option.some.inj h).symm

/-- An id is not empty. -/
theorem SessionId.nonempty_of_tryCreate {value id : String} (h : tryCreate value = some id) :
    id.isEmpty = false := by
  obtain rfl := tryCreate_eq_some h
  unfold tryCreate at h
  split_ifs at h with hempty
  simpa using hempty

/-! ### Group tags -/

/-- Source: `session_types.cpp` `IsAsciiWhitespace`. -/
def isAsciiWhitespace (ch : Char) : Bool :=
  ch == ' ' || ch == '\t' || ch == '\n' || ch == '\x0b' || ch == '\x0c' || ch == '\r'

/-- `std::tolower` of the C locale. -/
def toLowerAscii (ch : Char) : Char :=
  if 'A' ≤ ch ∧ ch ≤ 'Z' then Char.ofNat (ch.toNat + 32) else ch

/-- What the two index loops of `NormalizeGroupTag` leave of the tag. -/
def trimAscii (tag : List Char) : List Char :=
  ((tag.dropWhile isAsciiWhitespace).reverse.dropWhile isAsciiWhitespace).reverse

/-- Source: `session_types.cpp` `NormalizeGroupTag`. -/
def normalizeGroupTag (tag : String) : String :=
  String.ofList ((trimAscii tag.toList).map toLowerAscii)

/-- The loop of `NormalizeGroupTags`. -/
def normalizeGroupTagsLoop (normalizedTags : List String) : List String → List String
  | [] => normalizedTags
  | tag :: tags =>
      let normalized := normalizeGroupTag tag
      if normalized.isEmpty then normalizeGroupTagsLoop normalizedTags tags
      else if normalized ∈ normalizedTags then normalizeGroupTagsLoop normalizedTags tags
      else normalizeGroupTagsLoop (normalizedTags ++ [normalized]) tags

/-- Source: `session_types.cpp` `NormalizeGroupTags`. -/
def normalizeGroupTags (tags : List String) : List String :=
  normalizeGroupTagsLoop [] tags

/-! ### Metadata and sizes -/

/-- Source: `session_types.h` `SessionMetadata`. -/
structure SessionMetadata where
  id : String
  provider : ProviderType
  workspaceRoot : String
  title : String
  status : SessionStatus := .created
  conversationId : Option String := none
  groupTags : List String := []
  deriving DecidableEq

/-- Source: `launch_spec.h` `TerminalSize`. -/
structure TerminalSize where
  columns : UInt16 := 120
  rows : UInt16 := 40
  deriving DecidableEq

/-! ### Normalised tags stay as they are -/

/-- The capital letters, one by one. -/
theorem exists_of_upper {ch : Char} (h : 'A' ≤ ch ∧ ch ≤ 'Z') :
    ∃ k < 26, ch = Char.ofNat (65 + k) := by
  have hlow : 65 ≤ ch.toNat := Char.le_def.mp h.1
  have hhigh : ch.toNat ≤ 90 := Char.le_def.mp h.2
  refine ⟨ch.toNat - 65, by omega, ?_⟩
  rw [Nat.add_sub_cancel' hlow, Char.ofNat_toNat]

/-- Small letters stay small. -/
theorem toLowerAscii_idem (ch : Char) : toLowerAscii (toLowerAscii ch) = toLowerAscii ch := by
  have hupper : ∀ k < 26, toLowerAscii (toLowerAscii (Char.ofNat (65 + k))) =
      toLowerAscii (Char.ofNat (65 + k)) := by
    decide
  by_cases h : 'A' ≤ ch ∧ ch ≤ 'Z'
  · obtain ⟨k, hk, rfl⟩ := exists_of_upper h
    exact hupper k hk
  · have hid : toLowerAscii ch = ch := if_neg h
    rw [hid, hid]

/-- A blank is no letter. -/
theorem isAsciiWhitespace_toLowerAscii (ch : Char) :
    isAsciiWhitespace (toLowerAscii ch) = isAsciiWhitespace ch := by
  have hupper : ∀ k < 26, isAsciiWhitespace (toLowerAscii (Char.ofNat (65 + k))) =
      isAsciiWhitespace (Char.ofNat (65 + k)) := by
    decide
  by_cases h : 'A' ≤ ch ∧ ch ≤ 'Z'
  · obtain ⟨k, hk, rfl⟩ := exists_of_upper h
    exact hupper k hk
  · have hid : toLowerAscii ch = ch := if_neg h
    rw [hid]

/-- It does not matter whether one trims or lowers first. -/
theorem trimAscii_map_toLowerAscii (tag : List Char) :
    trimAscii (tag.map toLowerAscii) = (trimAscii tag).map toLowerAscii := by
  have hp : isAsciiWhitespace ∘ toLowerAscii = isAsciiWhitespace :=
    funext isAsciiWhitespace_toLowerAscii
  unfold trimAscii
  rw [List.dropWhile_map, ← List.map_reverse, List.dropWhile_map, hp, ← List.map_reverse]

/-- What is trimmed stays as it is. -/
theorem trimAscii_idem (tag : List Char) : trimAscii (trimAscii tag) = trimAscii tag := by
  have hbegins : trimAscii tag <+: tag.dropWhile isAsciiWhitespace := List.rdropWhile_prefix _ _
  have hfront : (trimAscii tag).dropWhile isAsciiWhitespace = trimAscii tag := by
    rw [List.dropWhile_eq_self_iff]
    intro hlen
    have hfront' := List.dropWhile_idempotent isAsciiWhitespace tag
    rw [List.dropWhile_eq_self_iff] at hfront'
    rw [hbegins.getElem hlen]
    exact hfront' (hlen.trans_le hbegins.length_le)
  have hback : ((trimAscii tag).reverse.dropWhile isAsciiWhitespace).reverse = trimAscii tag :=
    List.rdropWhile_idempotent isAsciiWhitespace (tag.dropWhile isAsciiWhitespace)
  rw [trimAscii, hfront, hback]

/-- A normal tag stays as it is. -/
theorem normalizeGroupTag_idem (tag : String) :
    normalizeGroupTag (normalizeGroupTag tag) = normalizeGroupTag tag := by
  unfold normalizeGroupTag
  rw [String.toList_ofList, trimAscii_map_toLowerAscii, trimAscii_idem, List.map_map]
  congr 2
  funext ch
  exact toLowerAscii_idem ch

/-- A list of group tags as a store may hold it. -/
structure NormalTags (tags : List String) : Prop where
  nodup : tags.Nodup
  nonempty : ∀ tag ∈ tags, tag.isEmpty = false
  normal : ∀ tag ∈ tags, normalizeGroupTag tag = tag

/-- No tags are normal. -/
theorem NormalTags.nil : NormalTags [] where
  nodup := List.nodup_nil
  nonempty := by simp
  normal := by simp

/-- The loop keeps the tags normal. -/
theorem normalTags_normalizeGroupTagsLoop {done : List String} (h : NormalTags done)
    (tags : List String) : NormalTags (normalizeGroupTagsLoop done tags) := by
  induction tags generalizing done with
  | nil => exact h
  | cons tag tags ih =>
      unfold normalizeGroupTagsLoop
      dsimp only
      split_ifs with hempty hmem
      · exact ih h
      · exact ih h
      · refine ih ⟨?_, ?_, ?_⟩
        · exact List.nodup_append.mpr ⟨h.nodup, List.nodup_singleton _, by
            rintro a ha b hb rfl
            exact hmem (List.mem_singleton.mp hb ▸ ha)⟩
        · intro t ht
          rcases List.mem_append.mp ht with ht | ht
          · exact h.nonempty t ht
          · rw [List.mem_singleton.mp ht]
            simpa using hempty
        · intro t ht
          rcases List.mem_append.mp ht with ht | ht
          · exact h.normal t ht
          · rw [List.mem_singleton.mp ht]
            exact normalizeGroupTag_idem tag

/-- Normalisation gives normal tags. -/
theorem normalTags_normalizeGroupTags (tags : List String) :
    NormalTags (normalizeGroupTags tags) :=
  normalTags_normalizeGroupTagsLoop .nil tags

/-- The loop leaves normal tags as they are. -/
theorem normalizeGroupTagsLoop_of_normalTags (done tags : List String)
    (h : NormalTags (done ++ tags)) : normalizeGroupTagsLoop done tags = done ++ tags := by
  induction tags generalizing done with
  | nil => simp [normalizeGroupTagsLoop]
  | cons tag tags ih =>
      have hnormal : normalizeGroupTag tag = tag := h.normal tag (by simp)
      have hempty : tag.isEmpty = false := h.nonempty tag (by simp)
      have hmem : tag ∉ done := fun hin =>
        List.disjoint_of_nodup_append h.nodup hin (List.mem_cons_self)
      have happend : done ++ tag :: tags = (done ++ [tag]) ++ tags := by simp
      unfold normalizeGroupTagsLoop
      dsimp only
      rw [hnormal, hempty, if_neg (by simp), if_neg hmem, happend]
      exact ih (done ++ [tag]) (happend ▸ h)

/-- **Normal tags stay as they are.** -/
theorem normalizeGroupTags_of_normalTags {tags : List String} (h : NormalTags tags) :
    normalizeGroupTags tags = tags :=
  normalizeGroupTagsLoop_of_normalTags [] tags h

/-- **Normal tags stay as they are.** -/
theorem normalizeGroupTags_idem (tags : List String) :
    normalizeGroupTags (normalizeGroupTags tags) = normalizeGroupTags tags :=
  normalizeGroupTags_of_normalTags (normalTags_normalizeGroupTags tags)

end Sentrits.Session
