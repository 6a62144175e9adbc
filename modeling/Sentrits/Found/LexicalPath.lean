import Mathlib.Data.List.DropRight
import Sentrits.Found.Bytes

/-!
# Lexical paths

POSIX paths as byte strings, and what can be said of them without a file system: joining two,
taking the parent, and the lexical normal form, which drops dots and cancels a name against the
double dot behind it.

* `walk`: the cancelling itself, over the names of a path; `walk_of_contained` and `walk_escapes`
  say what becomes of a base when names are walked from it.
* `components_join`, `normalComponents_join`: **joining and normalising**.
* `inside_join`: a path joined with a contained one stays inside.
* `not_mem_join`: **a path that is not contained leaves** a directory at the root whose name does
  not occur in it.
* `parentPath_append`: the parent of a joined path.
-/

namespace Found.LexicalPath

open Bytes

/-- The separator. -/
def slash : UInt8 := 47

/-- The name of the directory itself. -/
def dot : Bytes := [46]

/-- The name of the directory above. -/
def dotdot : Bytes := [46, 46]

/-! ### Strings -/

/-- Reads the names of a path; `name` is the one begun. -/
def componentsFrom (name : Bytes) : Bytes → List Bytes
  | [] => if name = [] then [] else [name]
  | ch :: path =>
      if ch = slash then
        if name = [] then componentsFrom [] path else name :: componentsFrom [] path
      else componentsFrom (name ++ [ch]) path

/-- The names in a path, dots included. -/
def components (path : Bytes) : List Bytes := componentsFrom [] path

/-- The path begins at the root. -/
def isAbsolute (path : Bytes) : Bool := path.head? == some slash

/-- The path ends with a name. -/
def hasFilename (path : Bytes) : Bool := path.getLast?.any (· != slash)

/-- The path `lhs / rhs`: an absolute right-hand side replaces the left one. -/
def join (lhs rhs : Bytes) : Bytes :=
  if isAbsolute rhs then rhs
  else if hasFilename lhs then lhs ++ slash :: rhs
  else lhs ++ rhs

/-- The path without its last name. -/
def parentPath (path : Bytes) : Bytes :=
  if path.all (· == slash) then path
  else
    let directory := path.rdropWhile (· != slash)
    let trimmed := directory.rdropWhile (· == slash)
    if trimmed.isEmpty && !directory.isEmpty then [slash] else trimmed

/-! ### The normal form -/

/-- The directory above (its names, the last one first): at the root there is none, and a double dot
that has nothing to cancel stays. -/
def ascend (absolute : Bool) : List Bytes → List Bytes
  | [] => if absolute then [] else [dotdot]
  | top :: below => if top = dotdot then dotdot :: top :: below else below

/-- One name, walked from a directory. -/
def enter (absolute : Bool) (base : List Bytes) (name : Bytes) : List Bytes :=
  if name = dot then base
  else if name = dotdot then ascend absolute base
  else name :: base

/-- Some names, walked from the directory `base`. -/
def walk (absolute : Bool) (base names : List Bytes) : List Bytes :=
  names.foldl (enter absolute) base

/-- The names of the lexical normal form. -/
def normalComponents (path : Bytes) : List Bytes :=
  (walk (isAbsolute path) [] (components path)).reverse

/-- The last piece of a path is a dot, a double dot, or nothing: its normal form is a directory. -/
def namesDirectory (path : Bytes) : Bool :=
  let piece := path.rtakeWhile (· != slash)
  piece == [] || piece == dot || piece == dotdot

/-- The lexical normal form. -/
def lexicallyNormal (path : Bytes) : Bytes :=
  if path.isEmpty then []
  else
    let names := normalComponents path
    let root := if isAbsolute path then [slash] else []
    if names.isEmpty then if isAbsolute path then root else dot
    else
      root ++ List.intercalate [slash] names ++
        (if namesDirectory path && names.getLast? != some dotdot then [slash] else [])

/-- The normal form of the path is below that of the directory, or is it. -/
def Inside (directory path : Bytes) : Prop :=
  isAbsolute directory = isAbsolute path ∧ normalComponents directory <+: normalComponents path

instance (directory path : Bytes) : Decidable (Inside directory path) := by
  unfold Inside
  infer_instance

/-- A relative path that never climbs above where it starts. -/
def Contained (path : Bytes) : Prop :=
  isAbsolute path = false ∧ dotdot ∉ normalComponents path

instance (path : Bytes) : Decidable (Contained path) := by
  unfold Contained
  infer_instance

/-! ### Walking -/

/-- One step, and the rest of the way. -/
theorem walk_cons (absolute : Bool) (base : List Bytes) (name : Bytes) (names : List Bytes) :
    walk absolute base (name :: names) = walk absolute (enter absolute base name) names := by
  rfl

/-- One way after the other. -/
theorem walk_append (absolute : Bool) (base names names' : List Bytes) :
    walk absolute base (names ++ names') = walk absolute (walk absolute base names) names' := by
  exact List.foldl_append

/-- One goes up to what is below. -/
theorem ascend_cons {top : Bytes} (h : top ≠ dotdot) (absolute : Bool) (below : List Bytes) :
    ascend absolute (top :: below) = below := by
  exact if_neg h

/-- A dot stays where it is. -/
theorem enter_dot (absolute : Bool) (base : List Bytes) : enter absolute base dot = base := by
  unfold enter
  rw [if_pos rfl]

/-- Two dots go up. -/
theorem enter_dotdot (absolute : Bool) (base : List Bytes) :
    enter absolute base dotdot = ascend absolute base := by
  unfold enter
  rw [if_neg (by decide), if_pos rfl]

/-- A name goes down. -/
theorem enter_name {name : Bytes} (hdot : name ≠ dot) (hdotdot : name ≠ dotdot) (absolute : Bool)
    (base : List Bytes) : enter absolute base name = name :: base := by
  unfold enter
  rw [if_neg hdot, if_neg hdotdot]

/-- What there is after one name was there, or is the name. -/
theorem mem_enter {absolute : Bool} {base : List Bytes} {name other : Bytes}
    (h : other ∈ enter absolute base name) : other ∈ base ∨ other = name := by
  by_cases hdot : name = dot
  · subst hdot
    rw [enter_dot] at h
    exact Or.inl h
  by_cases hdotdot : name = dotdot
  · subst hdotdot
    rw [enter_dotdot] at h
    unfold ascend at h
    rcases base with _ | ⟨top, below⟩
    · dsimp only at h
      split_ifs at h
      · exact Or.inl h
      · exact Or.inr (List.mem_singleton.mp h)
    · dsimp only at h
      split_ifs at h
      · exact (List.mem_cons.mp h).symm
      · exact Or.inl (List.mem_cons_of_mem top h)
  · rw [enter_name hdot hdotdot] at h
    exact (List.mem_cons.mp h).symm

/-- What a walk ends with was there or was walked. -/
theorem mem_walk {absolute : Bool} {base names : List Bytes} {name : Bytes}
    (h : name ∈ walk absolute base names) : name ∈ base ∨ name ∈ names := by
  induction names generalizing base with
  | nil => exact Or.inl h
  | cons first names ih =>
      rw [walk_cons] at h
      rcases ih h with hin | hin
      · rcases mem_enter hin with hin | rfl
        · exact Or.inl hin
        · exact Or.inr List.mem_cons_self
      · exact Or.inr (List.mem_cons_of_mem first hin)

/-- Off the root a double dot that was left stays. -/
theorem dotdot_mem_enter {base : List Bytes} (h : dotdot ∈ base) (name : Bytes) :
    dotdot ∈ enter false base name := by
  by_cases hdot : name = dot
  · subst hdot
    rw [enter_dot]
    exact h
  by_cases hdotdot : name = dotdot
  · subst hdotdot
    rw [enter_dotdot]
    rcases base with _ | ⟨top, below⟩
    · exact absurd h List.not_mem_nil
    · by_cases htop : top = dotdot
      · simp only [ascend, if_pos htop, List.mem_cons, true_or]
      · rw [ascend_cons htop]
        exact (List.mem_cons.mp h).resolve_left fun heq => htop heq.symm
  · rw [enter_name hdot hdotdot]
    exact List.mem_cons_of_mem name h

/-- Two dots that are left over are never taken back. -/
theorem dotdot_mem_walk {base : List Bytes} (h : dotdot ∈ base) (names : List Bytes) :
    dotdot ∈ walk false base names := by
  induction names generalizing base with
  | nil => exact h
  | cons first names ih => exact ih (dotdot_mem_enter h first)

/-- **Names that climb nowhere** are walked from any base as from nothing. -/
theorem walk_of_contained (absolute : Bool) (base : List Bytes) {above names : List Bytes}
    (habove : dotdot ∉ above) (h : dotdot ∉ walk false above names) :
    walk absolute (above ++ base) names = walk false above names ++ base := by
  induction names generalizing above with
  | nil => rfl
  | cons first names ih =>
      rw [walk_cons] at h ⊢
      have hstays : dotdot ∉ enter false above first := fun hin => h (dotdot_mem_walk hin names)
      have hsame : enter absolute (above ++ base) first = enter false above first ++ base := by
        by_cases hdot : first = dot
        · subst hdot
          rw [enter_dot, enter_dot]
        by_cases hdotdot : first = dotdot
        · subst hdotdot
          rw [enter_dotdot] at hstays
          rw [enter_dotdot, enter_dotdot]
          rcases above with _ | ⟨top, below⟩
          · exact absurd List.mem_cons_self hstays
          · have htop : top ≠ dotdot := fun heq => habove (heq ▸ List.mem_cons_self)
            rw [List.cons_append, ascend_cons htop, ascend_cons htop]
        · rw [enter_name hdot hdotdot, enter_name hdot hdotdot, List.cons_append]
      rw [hsame, walk_cons]
      exact ih hstays h

/-- **Names that climb out** of a directory at the root leave nothing of it. -/
theorem walk_escapes {base : Bytes} (hbase : base ≠ dotdot) {above names : List Bytes}
    (habove : dotdot ∉ above) (hfresh : base ∉ above) (hnames : base ∉ names)
    (h : dotdot ∈ walk false above names) : base ∉ walk true (above ++ [base]) names := by
  induction names generalizing above with
  | nil => exact absurd h habove
  | cons first names ih =>
      have hrest : base ∉ names := fun hin => hnames (List.mem_cons_of_mem first hin)
      have hfirst : base ≠ first := fun heq => hnames (heq ▸ List.mem_cons_self)
      rw [walk_cons] at h ⊢
      by_cases hdot : first = dot
      · subst hdot
        rw [enter_dot] at h ⊢
        exact ih habove hfresh hrest h
      by_cases hdotdot : first = dotdot
      · subst hdotdot
        rw [enter_dotdot] at h ⊢
        rcases above with _ | ⟨top, below⟩
        · -- here the base itself is cancelled
          rw [List.nil_append, ascend_cons hbase]
          intro hin
          rcases mem_walk hin with hnil | hin
          · exact absurd hnil List.not_mem_nil
          · exact hrest hin
        · have htop : top ≠ dotdot := fun heq => habove (heq ▸ List.mem_cons_self)
          rw [ascend_cons htop] at h
          rw [List.cons_append, ascend_cons htop]
          exact ih (fun hin => habove (List.mem_cons_of_mem top hin))
            (fun hin => hfresh (List.mem_cons_of_mem top hin)) hrest h
      · rw [enter_name hdot hdotdot] at h ⊢
        rw [← List.cons_append]
        refine ih (fun hin => ?_) (fun hin => ?_) hrest h
        · rcases List.mem_cons.mp hin with heq | hin
          · exact hdotdot heq.symm
          · exact habove hin
        · rcases List.mem_cons.mp hin with heq | hin
          · exact hfirst heq
          · exact hfresh hin

/-! ### Joining -/

/-- A slash separates. -/
theorem componentsFrom_append_slash (name xs ys : Bytes) :
    componentsFrom name (xs ++ slash :: ys) = componentsFrom name xs ++ components ys := by
  induction xs generalizing name with
  | nil =>
      by_cases hname : name = []
      · simp only [List.nil_append, componentsFrom, if_pos hname, if_true, components]
      · simp only [List.nil_append, componentsFrom, if_neg hname, if_true, components,
          List.cons_append]
  | cons ch xs ih =>
      rw [List.cons_append]
      unfold componentsFrom
      split_ifs
      · exact ih []
      · rw [ih [], List.cons_append]
      · exact ih (name ++ [ch])

/-- A name is no longer than its path. -/
theorem length_le_of_mem_componentsFrom {part name path : Bytes}
    (h : part ∈ componentsFrom name path) : part.length ≤ name.length + path.length := by
  induction path generalizing name with
  | nil =>
      unfold componentsFrom at h
      split_ifs at h
      · exact absurd h List.not_mem_nil
      · rw [List.mem_singleton.mp h]
        exact Nat.le_add_right _ _
  | cons ch path ih =>
      unfold componentsFrom at h
      rw [List.length_cons]
      split_ifs at h
      · have hlater := ih h
        rw [List.length_nil] at hlater
        omega
      · rcases List.mem_cons.mp h with rfl | hin
        · exact Nat.le_add_right _ _
        · have hlater := ih hin
          rw [List.length_nil] at hlater
          omega
      · have hlater := ih h
        rw [List.length_append, List.length_singleton] at hlater
        omega

/-- A name is the only one in the path it is. -/
theorem componentsFrom_of_slash_notMem {name path : Bytes} (h : slash ∉ path)
    (hne : name ++ path ≠ []) : componentsFrom name path = [name ++ path] := by
  induction path generalizing name with
  | nil =>
      rw [List.append_nil] at hne ⊢
      exact if_neg hne
  | cons ch path ih =>
      have hch : ch ≠ slash := fun heq => h (heq ▸ List.mem_cons_self)
      have hsame : name ++ [ch] ++ path = name ++ ch :: path := by
        rw [List.append_assoc, List.singleton_append]
      unfold componentsFrom
      rw [if_neg hch, ih (fun hin => h (List.mem_cons_of_mem ch hin)) (hsame ▸ hne), hsame]

/-- An absolute path stays as it is. -/
theorem join_of_isAbsolute (lhs : Bytes) {rhs : Bytes} (h : isAbsolute rhs = true) :
    join lhs rhs = rhs := by
  exact if_pos h

/-- A path that is joined to another is not empty. -/
theorem join_ne_nil {lhs : Bytes} (h : lhs ≠ []) (rhs : Bytes) : join lhs rhs ≠ [] := by
  unfold join
  split_ifs with habs
  · rintro rfl
    exact absurd habs (by decide)
  · exact List.append_ne_nil_of_left_ne_nil h _
  · exact List.append_ne_nil_of_left_ne_nil h _

/-- A relative path comes behind a slash. -/
theorem join_of_hasFilename {lhs rhs : Bytes} (hlhs : hasFilename lhs = true)
    (hrhs : isAbsolute rhs = false) : join lhs rhs = lhs ++ slash :: rhs := by
  unfold join
  rw [hrhs, if_neg Bool.false_ne_true, if_pos hlhs]

/-- Joining puts the names of a relative path behind those of the directory. -/
theorem components_join (lhs : Bytes) {rhs : Bytes} (h : isAbsolute rhs = false) :
    components (join lhs rhs) = components lhs ++ components rhs := by
  unfold join
  rw [h, if_neg Bool.false_ne_true]
  split_ifs with hname
  · exact componentsFrom_append_slash [] lhs rhs
  rcases List.eq_nil_or_concat lhs with rfl | ⟨front, last, rfl⟩
  · rfl
  · rw [List.concat_eq_append] at hname ⊢
    have hlast : last = slash := by
      simpa [hasFilename, List.getLast?_append] using hname
    rw [hlast, List.append_assoc, List.singleton_append]
    unfold components
    rw [componentsFrom_append_slash, componentsFrom_append_slash]
    exact congrArg (· ++ _) (List.append_nil _).symm

/-- What is joined is absolute if what it is joined to is. -/
theorem isAbsolute_join (lhs : Bytes) {rhs : Bytes} (h : isAbsolute rhs = false) :
    isAbsolute (join lhs rhs) = isAbsolute lhs := by
  unfold join
  rw [h, if_neg Bool.false_ne_true]
  rcases lhs with _ | ⟨ch, lhs⟩
  · exact h
  · split_ifs <;> rfl

/-- The double dots of a contained path never reach the directory it is joined to. -/
theorem normalComponents_join (lhs : Bytes) {rhs : Bytes} (h : Contained rhs) :
    normalComponents (join lhs rhs) = normalComponents lhs ++ normalComponents rhs := by
  rcases h with ⟨hrel, hstays⟩
  unfold normalComponents at hstays ⊢
  rw [hrel, List.mem_reverse] at hstays
  rw [isAbsolute_join lhs hrel, components_join lhs hrel, walk_append, hrel]
  have hwalk := walk_of_contained (isAbsolute lhs) (walk (isAbsolute lhs) [] (components lhs))
    List.not_mem_nil hstays
  rw [List.nil_append] at hwalk
  rw [hwalk, List.reverse_append]

/-- **A contained path stays inside** the directory it is joined to. -/
theorem inside_join (lhs : Bytes) {rhs : Bytes} (h : Contained rhs) :
    Inside lhs (join lhs rhs) := by
  refine ⟨(isAbsolute_join lhs h.1).symm, ?_⟩
  rw [normalComponents_join lhs h]
  exact List.prefix_append _ _

/-- What is inside a directory has the directory's names in it. -/
theorem mem_of_inside {directory path name : Bytes} (h : Inside directory path)
    (hname : name ∈ normalComponents directory) : name ∈ normalComponents path := by
  exact h.2.subset hname

/-- What is in the normal form was in the path. -/
theorem mem_components_of_mem_normalComponents {path name : Bytes}
    (h : name ∈ normalComponents path) : name ∈ components path := by
  exact (mem_walk (List.mem_reverse.mp h)).resolve_left List.not_mem_nil

/-! ### Plain names -/

/-- A name that is neither nothing nor a dot nor a double dot. -/
structure PlainName (name : Bytes) : Prop where
  ne_nil : name ≠ []
  noSlash : slash ∉ name
  ne_dot : name ≠ dot
  ne_dotdot : name ≠ dotdot

/-- A plain name that is in no path of this length. -/
theorem exists_plainName (path : Bytes) : ∃ name, PlainName name ∧ name ∉ components path := by
  refine ⟨List.replicate (path.length + 3) 120, ⟨?_, ?_, ?_, ?_⟩, ?_⟩
  · exact List.cons_ne_nil _ _
  · exact fun hin => absurd (List.eq_of_mem_replicate hin) (by decide)
  · exact fun heq => absurd (congrArg List.length heq) (by simp [dot])
  · exact fun heq => absurd (congrArg List.length heq) (by simp [dotdot])
  · intro hin
    have hlen := length_le_of_mem_componentsFrom hin
    rw [List.length_replicate, List.length_nil] at hlen
    omega

namespace PlainName

variable {name : Bytes}

/-- A plain name is one component. -/
theorem components_eq (h : PlainName name) : components name = [name] := by
  exact componentsFrom_of_slash_notMem h.noSlash h.ne_nil

/-- A plain name behind a slash is one component. -/
theorem components_cons (h : PlainName name) : components (slash :: name) = [name] := by
  have happend := componentsFrom_append_slash [] [] name
  rw [List.nil_append, h.components_eq] at happend
  exact happend

/-- A plain name leads one step down. -/
theorem walk_eq (h : PlainName name) (absolute : Bool) : walk absolute [] [name] = [name] := by
  rw [walk_cons, enter_name h.ne_dot h.ne_dotdot]
  rfl

/-- A plain name behind a slash is in normal form. -/
theorem normalComponents_cons (h : PlainName name) : normalComponents (slash :: name) = [name] := by
  unfold normalComponents
  rw [h.components_cons, h.walk_eq]
  rfl

/-- A plain name is relative. -/
theorem isAbsolute_eq (h : PlainName name) : isAbsolute name = false := by
  rcases name with _ | ⟨ch, name⟩
  · rfl
  · have hch : ch ≠ slash := fun heq => h.noSlash (heq ▸ List.mem_cons_self)
    simpa [isAbsolute] using hch

/-- A plain name leads nowhere else. -/
theorem contained (h : PlainName name) : Contained name := by
  refine ⟨h.isAbsolute_eq, ?_⟩
  unfold normalComponents
  rw [h.components_eq, h.walk_eq]
  exact fun hin => h.ne_dotdot (List.mem_singleton.mp hin).symm

/-- A path that ends with a plain name has a file name. -/
theorem hasFilename_append (h : PlainName name) (front : Bytes) :
    hasFilename (front ++ slash :: name) = true := by
  rcases List.eq_nil_or_concat name with rfl | ⟨head, last, rfl⟩
  · exact absurd rfl h.ne_nil
  · have hlast : last ≠ slash := fun heq => h.noSlash (by simp [heq])
    simp [hasFilename, List.getLast?_append, List.getLast?_cons, hlast]

/-- A plain name behind a slash is a file name. -/
theorem hasFilename_cons (h : PlainName name) : hasFilename (slash :: name) = true := by
  exact h.hasFilename_append []

/-- **A path that is absolute or climbs out** leaves nothing of a directory at the root whose name
it does not have. -/
theorem not_mem_join (h : PlainName name) {rel : Bytes} (hfresh : name ∉ components rel)
    (hrel : ¬ Contained rel) : name ∉ normalComponents (join (slash :: name) rel) := by
  by_cases habs : isAbsolute rel = true
  · rw [join_of_isAbsolute _ habs]
    exact fun hin => hfresh (mem_components_of_mem_normalComponents hin)
  rw [Bool.not_eq_true] at habs
  have hclimbs : dotdot ∈ walk false [] (components rel) := by
    by_contra hstays
    refine hrel ⟨habs, ?_⟩
    unfold normalComponents
    rw [habs, List.mem_reverse]
    exact hstays
  have hroot : isAbsolute (slash :: name) = true := rfl
  unfold normalComponents
  rw [isAbsolute_join _ habs, hroot, components_join _ habs, h.components_cons, walk_append,
    h.walk_eq, List.mem_reverse]
  exact walk_escapes h.ne_dotdot List.not_mem_nil List.not_mem_nil hfresh hclimbs

end PlainName

/-- The parent of a directory's entry is the directory. -/
theorem parentPath_append {directory name : Bytes} (hdirectory : hasFilename directory = true)
    (hname : PlainName name) : parentPath (directory ++ slash :: name) = directory := by
  rcases List.eq_nil_or_concat directory with rfl | ⟨front, last, rfl⟩
  · exact absurd hdirectory (by decide)
  rw [List.concat_eq_append] at hdirectory ⊢
  have hlast : last ≠ slash := by
    simpa [hasFilename, List.getLast?_append] using hdirectory
  have hall : (front ++ [last] ++ slash :: name).all (· == slash) = false := by
    simp [hlast]
  have hdropped : (front ++ [last] ++ slash :: name).rdropWhile (· != slash) =
      front ++ [last] ++ [slash] := by
    have hreverse : ∀ ch ∈ name.reverse, (ch != slash) = true := by
      intro ch hch
      have hne : ch ≠ slash := fun heq => hname.noSlash (heq ▸ List.mem_reverse.mp hch)
      exact bne_iff_ne.mpr hne
    rw [List.rdropWhile, List.reverse_append, List.reverse_cons, List.append_assoc,
      List.dropWhile_append_of_pos hreverse]
    simp
  have htrimmed : (front ++ [last] ++ [slash]).rdropWhile (· == slash) = front ++ [last] := by
    rw [List.rdropWhile_concat_pos (fun ch => ch == slash) _ slash (beq_self_eq_true slash),
      List.rdropWhile_concat_neg]
    exact fun heq => hlast (eq_of_beq heq)
  unfold parentPath
  rw [hall, if_neg Bool.false_ne_true]
  dsimp only
  rw [hdropped, htrimmed, if_neg]
  simp

end Found.LexicalPath
