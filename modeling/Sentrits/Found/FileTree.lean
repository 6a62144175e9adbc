import Sentrits.Found.LexicalPath

/-!
# Files and symbolic links

A tree of files that nobody changes, the way a path is looked up in it, and the canonical form of a
path. A path is kept as the elements it consists of; where it is passed on as a C string it ends at
the first NUL.

* `Tree.resolve`: the lookup, which follows symbolic links; `Tree.status` begins at the root.
* `Tree.canonical_of_resolve`: **a lookup ends at a place that no link leads to**, and
  `Tree.resolve_of_canonical` says that such a place is found under its own names.
* `Tree.weaklyCanonical`: what exists of a path is made canonical, the rest is normalised.
* `Tree.place_of_weaklyCanonical`: **a weakly canonical path with nothing at the front of it taken
  back is that of the place it leads to,** if it leads anywhere.
-/

namespace Found.FileTree

open Bytes LexicalPath

/-! ### Paths -/

/-- A path: whether it begins at the root, its names, and whether it ends with a separator behind
the last of them. -/
structure Path where
  absolute : Bool
  names : List Bytes
  trailing : Bool := false
  deriving DecidableEq

namespace Path

/-- The path that is written so. -/
def ofBytes (text : Bytes) : Path where
  absolute := isAbsolute text
  names := components text
  trailing := !hasFilename text && !(components text).isEmpty

/-- The elements of the path, in their order. -/
def elements (path : Path) : List Bytes :=
  (if path.absolute then [[slash]] else []) ++ path.names ++ (if path.trailing then [[]] else [])

/-- The empty path. -/
def isEmpty (path : Path) : Bool := !path.absolute && path.names.isEmpty

/-- The path `lhs / rhs`: an absolute right-hand side replaces the left one, and an empty one only
adds the separator. -/
def join (lhs rhs : Path) : Path :=
  if rhs.absolute then rhs
  else if rhs.names.isEmpty then { lhs with trailing := !lhs.names.isEmpty }
  else { absolute := lhs.absolute, names := lhs.names ++ rhs.names, trailing := rhs.trailing }

/-- The lexical normal form. -/
def lexicallyNormal (path : Path) : Path :=
  if path.isEmpty then path
  else
    let names := (walk path.absolute [] path.names).reverse
    let last := path.names.getLast?
    if names.isEmpty then
      if path.absolute then { absolute := true, names := [] }
      else { absolute := false, names := [dot] }
    else
      { absolute := path.absolute
        names
        trailing := (path.trailing || last == some dot || last == some dotdot) &&
          names.getLast? != some dotdot }

/-- What a lookup gets to see of some names: they end at the first NUL, and a separator behind them
asks for a directory, as a dot does. -/
def seen : List Bytes → Bool → List Bytes
  | [], trailing => if trailing then [dot] else []
  | name :: names, trailing =>
      if nul ∈ name then [if (cString name).isEmpty then dot else cString name]
      else name :: seen names trailing

end Path

/-! ### Lookups -/

/-- A file, and what can go wrong with it. -/
structure File where
  /-- What is said about its size. -/
  size : Option ℕ
  opens : Bool := true
  reads : Bool := true
  content : Bytes
  deriving DecidableEq

/-- What there is at a place. -/
inductive Entry
  | absent
  /-- It is not known, since asking for it is an error. -/
  | denied
  | directory
  | regular (file : File)
  | symlink (target : Bytes)
  | other
  deriving DecidableEq

/-- A place is the names that lead to it from the root, the last one first; nothing has an empty
name. -/
structure Tree where
  entry : List Bytes → Entry
  unnamed : ∀ place, entry ([] :: place) = .absent

/-- What a lookup comes to. -/
inductive Lookup
  | found (place : List Bytes)
  | missing
  | failed
  deriving DecidableEq

namespace Tree

variable (t : Tree)

/-- The root is a directory. -/
def entryAt : List Bytes → Entry
  | [] => .directory
  | place => t.entry place

/-- What looking up one name comes to. -/
inductive Step
  | missing
  | failed
  | entered (place : List Bytes)
  /-- A link: these names are to be looked up from there instead. -/
  | linked (place names : List Bytes)

/-- One name looked up at a place. -/
def step (place : List Bytes) (name : Bytes) : Step :=
  if t.entryAt place ≠ .directory then .missing
  else if name = dot then .entered place
  else if name = dotdot then .entered place.tail
  else
    match t.entryAt (name :: place) with
    | .absent => .missing
    | .denied => .failed
    | .symlink target =>
        let path := Path.ofBytes target
        .linked (if path.absolute then [] else place) (Path.seen path.names path.trailing)
    | _ => .entered (name :: place)

/-- Names looked up from a place, given how a link is followed. -/
def resolveWith (follow : List Bytes → List Bytes → Lookup) : List Bytes → List Bytes → Lookup
  | place, [] => .found place
  | place, name :: names =>
      match t.step place name with
      | .missing => .missing
      | .failed => .failed
      | .entered place' => resolveWith follow place' names
      | .linked place' target => follow place' (target ++ names)

/-- Names looked up from a place, when so many links may be followed. -/
def resolve : ℕ → List Bytes → List Bytes → Lookup
  | 0 => t.resolveWith fun _ _ => .failed
  | links + 1 => t.resolveWith (resolve links)

/-- How many links are followed in one lookup. -/
def maxLinks : ℕ := 40

/-- What an absolute path leads to. -/
def status (path : Path) : Lookup := t.resolve maxLinks [] (Path.seen path.names path.trailing)

/-- The path of a place. -/
def pathOf (place : List Bytes) : Path := { absolute := true, names := place.reverse }

/-- The leading names of an absolute path that lead somewhere, and the others. -/
def leading (done : List Bytes) : List Bytes → Option (List Bytes × List Bytes)
  | [] => some (done, [])
  | name :: names =>
      match t.status { absolute := true, names := done ++ [name] } with
      | .found _ => leading (done ++ [name]) names
      | .missing => some (done, name :: names)
      | .failed => none

/-- The path of what an absolute path leads to. -/
def canonical (path : Path) : Option Path :=
  match t.status path with
  | .found place => some (pathOf place)
  | _ => none

/-- What exists of an absolute path is made canonical, and the rest is put behind it. -/
def weaklyCanonical (path : Path) : Option Path :=
  match t.status path with
  | .found place => some (pathOf place)
  | .failed => none
  | .missing => do
      let (existing, rest) ← t.leading [] path.names
      let front ← t.canonical { absolute := true, names := existing }
      some (Path.lexicallyNormal
        { absolute := true, names := front.names ++ rest, trailing := path.trailing })

/-- The entry is there, and it is no link. -/
def Settled (place : List Bytes) : Prop :=
  match t.entryAt place with
  | .absent | .denied | .symlink _ => False
  | _ => True

/-- A place that is reached from the root through directories alone. -/
def Canonical : List Bytes → Prop
  | [] => True
  | name :: place =>
      name ≠ dot ∧ name ≠ dotdot ∧ nul ∉ name ∧ t.entryAt place = .directory ∧
        t.Settled (name :: place) ∧ Canonical place

/-! ### What is seen -/

/-- No name that is seen has a NUL. -/
theorem nul_notMem_seen {names : List Bytes} {trailing : Bool} {name : Bytes}
    (h : name ∈ Path.seen names trailing) : nul ∉ name := by
  induction names with
  | nil =>
      unfold Path.seen at h
      split_ifs at h
      · rw [List.mem_singleton.mp h]
        decide
      · exact absurd h List.not_mem_nil
  | cons first names ih =>
      unfold Path.seen at h
      split_ifs at h with hnul hempty
      · rw [List.mem_singleton.mp h]
        decide
      · rw [List.mem_singleton.mp h]
        exact nul_notMem_cString first
      · rcases List.mem_cons.mp h with rfl | hin
        · exact hnul
        · exact ih hin

/-- Names with no NUL in them are seen as they are. -/
theorem seen_append {names : List Bytes} (h : ∀ name ∈ names, nul ∉ name) (rest : List Bytes)
    (trailing : Bool) :
    Path.seen (names ++ rest) trailing = names ++ Path.seen rest trailing := by
  induction names with
  | nil => rfl
  | cons first names ih =>
      rw [List.forall_mem_cons] at h
      rw [List.cons_append, Path.seen, if_neg h.1, ih h.2, List.cons_append]

/-- Nothing is seen behind a NUL. -/
theorem seen_append_of_nul {names : List Bytes} (h : ∃ name ∈ names, nul ∈ name)
    (rest : List Bytes) (trailing trailing' : Bool) :
    Path.seen (names ++ rest) trailing = Path.seen names trailing' := by
  induction names with
  | nil => simp at h
  | cons first names ih =>
      rw [List.cons_append, Path.seen, Path.seen]
      by_cases hnul : nul ∈ first
      · rw [if_pos hnul, if_pos hnul]
      · rw [if_neg hnul, if_neg hnul, ih]
        obtain ⟨name, hin, hname⟩ := h
        rcases List.mem_cons.mp hin with rfl | hin
        · exact absurd hname hnul
        · exact ⟨name, hin, hname⟩

/-! ### Canonical places -/

namespace Canonical

variable {t} {place : List Bytes}

/-- What a canonical place is in is canonical. -/
theorem tail (h : t.Canonical place) : t.Canonical place.tail := by
  rcases place with _ | ⟨name, place⟩
  · exact h
  · exact h.2.2.2.2.2

/-- A canonical place has no dots. -/
theorem ne_dot (h : t.Canonical place) : ∀ name ∈ place, name ≠ dot ∧ name ≠ dotdot := by
  induction place with
  | nil => simp
  | cons name place ih =>
      rw [List.forall_mem_cons]
      exact ⟨⟨h.1, h.2.1⟩, ih h.tail⟩

/-- A canonical place has no NUL. -/
theorem nul_notMem (h : t.Canonical place) : ∀ name ∈ place, nul ∉ name := by
  induction place with
  | nil => simp
  | cons name place ih =>
      rw [List.forall_mem_cons]
      exact ⟨h.2.2.1, ih h.tail⟩

/-- All that it is in is canonical. -/
theorem of_suffix {place' : List Bytes} (h : t.Canonical place) (hsuffix : place' <:+ place) :
    t.Canonical place' := by
  induction place with
  | nil =>
      rw [List.suffix_nil.mp hsuffix]
      exact h
  | cons name place ih =>
      rcases List.suffix_cons_iff.mp hsuffix with rfl | hsuffix
      · exact h
      · exact ih h.tail hsuffix

/-- No name of a canonical place is empty. -/
theorem nil_notMem (h : t.Canonical place) : [] ∉ place := by
  induction place with
  | nil => exact List.not_mem_nil
  | cons name place ih =>
      rw [List.mem_cons, not_or]
      refine ⟨?_, ih h.tail⟩
      rintro rfl
      have hsettled := h.2.2.2.2.1
      unfold Settled at hsettled
      rw [entryAt, t.unnamed place] at hsettled
      · exact hsettled
      · exact List.cons_ne_nil _ _

end Canonical

variable {t}

/-! ### One name -/

/-- There is nothing below what is no directory. -/
theorem step_of_not_directory {place : List Bytes} (h : t.entryAt place ≠ .directory)
    (name : Bytes) : t.step place name = .missing := by
  exact if_pos h

/-- In a directory a dot is found. -/
theorem step_dot {place : List Bytes} (h : t.entryAt place = .directory) :
    t.step place dot = .entered place := by
  unfold step
  rw [if_neg (not_not_intro h), if_pos rfl]

/-- A settled entry is entered, whatever it is. -/
theorem step_of_canonical {name : Bytes} {place : List Bytes} (h : t.Canonical (name :: place)) :
    t.step place name = .entered (name :: place) := by
  obtain ⟨hdot, hdotdot, -, hdirectory, hsettled, -⟩ := h
  unfold Settled at hsettled
  unfold step
  rw [if_neg (not_not_intro hdirectory), if_neg hdot, if_neg hdotdot]
  rcases hentry : t.entryAt (name :: place) with _ | _ | _ | _ | _ | _
  all_goals first
    | rfl
    | simp [hentry] at hsettled

/-- What is entered from a canonical place is one. -/
theorem canonical_of_entered {name : Bytes} {place place' : List Bytes}
    (h : t.step place name = .entered place') (hplace : t.Canonical place) (hname : nul ∉ name) :
    t.Canonical place' := by
  unfold step at h
  split_ifs at h with hdirectory hdot hdotdot
  · injection h with hsame
    exact hsame ▸ hplace
  · injection h with hsame
    exact hsame ▸ hplace.tail
  · rw [not_not] at hdirectory
    have hsettled : place' = name :: place ∧ t.Settled (name :: place) := by
      unfold Settled
      rcases hentry : t.entryAt (name :: place) with _ | _ | _ | _ | _ | _
      all_goals
        rw [hentry] at h
        first
          | exact ⟨(Step.entered.inj h).symm, trivial⟩
          | simp at h
    rw [hsettled.1]
    exact ⟨hdot, hdotdot, hname, hdirectory, hsettled.2, hplace⟩

/-- A link is followed from a canonical place, and its names have no NUL. -/
theorem canonical_of_linked {name : Bytes} {place place' target : List Bytes}
    (h : t.step place name = .linked place' target) (hplace : t.Canonical place) :
    t.Canonical place' ∧ ∀ name ∈ target, nul ∉ name := by
  unfold step at h
  split_ifs at h
  rcases hentry : t.entryAt (name :: place) with _ | _ | _ | _ | text | _
  all_goals simp only [hentry, reduceCtorEq] at h
  injection h with hstart htarget
  refine ⟨?_, fun name hname => nul_notMem_seen (htarget ▸ hname)⟩
  rw [← hstart]
  split_ifs
  · trivial
  · exact hplace

/-! ### Lookups -/

/-- Where there is no further name, one has arrived. -/
theorem resolve_nil (links : ℕ) (place : List Bytes) : t.resolve links place [] = .found place := by
  rcases links with _ | links <;> rfl

/-- **A lookup takes one name after the other.** -/
theorem resolve_cons (links : ℕ) (place : List Bytes) (name : Bytes) (names : List Bytes) :
    t.resolve links place (name :: names) =
      match t.step place name with
      | .missing => .missing
      | .failed => .failed
      | .entered place' => t.resolve links place' names
      | .linked place' target =>
          match links with
          | 0 => .failed
          | links + 1 => t.resolve links place' (target ++ names) := by
  rcases links with _ | links
  all_goals
    conv_lhs => unfold resolve resolveWith
    rcases t.step place name with _ | _ | _ | _
    all_goals rfl

/-- Nothing is found below what is no directory. -/
theorem resolve_of_not_directory {place : List Bytes} (h : t.entryAt place ≠ .directory)
    (links : ℕ) {names : List Bytes} (hnames : names ≠ []) :
    t.resolve links place names = .missing := by
  rcases names with _ | ⟨name, names⟩
  · exact absurd rfl hnames
  · rw [resolve_cons, step_of_not_directory h]

/-- What holds of no names, and of some names when it holds of those that are looked up next, holds
of every lookup. -/
theorem resolve_induction {motive : ℕ → List Bytes → List Bytes → Prop}
    (nil : ∀ links place, motive links place [])
    (cons : ∀ links place name names,
      (∀ place', t.step place name = .entered place' → motive links place' names) →
      (∀ fewer place' target, links = fewer + 1 → t.step place name = .linked place' target →
        motive fewer place' (target ++ names)) →
      motive links place (name :: names))
    (links : ℕ) (place names : List Bytes) : motive links place names := by
  induction links generalizing place names with
  | zero =>
      induction names generalizing place with
      | nil => exact nil 0 place
      | cons name names ih =>
          exact cons 0 place name names (fun place' _ => ih place') (by simp)
  | succ links ihlinks =>
      induction names generalizing place with
      | nil => exact nil (links + 1) place
      | cons name names ih =>
          refine cons (links + 1) place name names (fun place' _ => ih place') ?_
          intro fewer place' target hfewer _
          rw [← Nat.succ.inj hfewer]
          exact ihlinks place' (target ++ names)

/-- **A lookup that begins at a canonical place ends at one.** -/
theorem canonical_of_resolve {links : ℕ} {place names place' : List Bytes}
    (hplace : t.Canonical place) (hnames : ∀ name ∈ names, nul ∉ name)
    (h : t.resolve links place names = .found place') : t.Canonical place' := by
  induction links, place, names using t.resolve_induction with
  | nil links place =>
      rw [resolve_nil] at h
      exact Lookup.found.inj h ▸ hplace
  | cons links place name names ihentered ihlinked =>
      rw [List.forall_mem_cons] at hnames
      rw [resolve_cons] at h
      rcases hstep : t.step place name with _ | _ | entered | ⟨start, target⟩
      all_goals simp only [hstep, reduceCtorEq] at h
      · exact ihentered entered hstep (canonical_of_entered hstep hplace hnames.1) hnames.2 h
      · rcases links with _ | fewer
        · exact absurd h (by simp)
        · obtain ⟨hstart, htarget⟩ := canonical_of_linked hstep hplace
          refine ihlinked fewer start target rfl hstep hstart (fun other hother => ?_) h
          rcases List.mem_append.mp hother with hin | hin
          · exact htarget other hin
          · exact hnames.2 other hin

/-- What some names lead to, with others behind them: the lookup of the others goes on from the
place the first lead to. -/
theorem resolve_append {links : ℕ} {place names mid : List Bytes}
    (h : t.resolve links place names = .found mid) (rest : List Bytes) :
    ∃ left, left ≤ links ∧
      t.resolve links place (names ++ rest) = t.resolve left mid rest := by
  induction links, place, names using t.resolve_induction with
  | nil links place =>
      rw [resolve_nil] at h
      exact ⟨links, le_refl links, Lookup.found.inj h ▸ rfl⟩
  | cons links place name names ihentered ihlinked =>
      rw [resolve_cons] at h
      rw [List.cons_append, resolve_cons]
      rcases hstep : t.step place name with _ | _ | entered | ⟨start, target⟩
      all_goals simp only [hstep, reduceCtorEq] at h ⊢
      · exact ihentered entered hstep h
      · rcases links with _ | fewer
        · exact absurd h (by simp)
        · obtain ⟨left, hleft, hsame⟩ := ihlinked fewer start target rfl hstep h
          rw [List.append_assoc] at hsame
          exact ⟨left, by omega, hsame⟩

/-- Names that lead somewhere begin with names that do. -/
theorem found_of_append {links : ℕ} {place names rest place' : List Bytes}
    (h : t.resolve links place (names ++ rest) = .found place') :
    ∃ mid, t.resolve links place names = .found mid := by
  induction links, place, names using t.resolve_induction with
  | nil links place => exact ⟨place, resolve_nil links place⟩
  | cons links place name names ihentered ihlinked =>
      rw [List.cons_append, resolve_cons] at h
      rw [resolve_cons]
      rcases hstep : t.step place name with _ | _ | entered | ⟨start, target⟩
      all_goals simp only [hstep, reduceCtorEq] at h ⊢
      · exact ihentered entered hstep h
      · rcases links with _ | fewer
        · exact absurd h (by simp)
        · rw [← List.append_assoc] at h
          exact ihlinked fewer start target rfl hstep h

/-- When more links may be followed, what was missing is missing still. -/
theorem missing_of_le {links more : ℕ} {place names : List Bytes} (hle : links ≤ more)
    (h : t.resolve links place names = .missing) : t.resolve more place names = .missing := by
  induction links, place, names using t.resolve_induction generalizing more with
  | nil links place =>
      rw [resolve_nil] at h
      exact absurd h (by simp)
  | cons links place name names ihentered ihlinked =>
      rw [resolve_cons] at h ⊢
      rcases hstep : t.step place name with _ | _ | entered | ⟨start, target⟩
      all_goals simp only [hstep, reduceCtorEq] at h ⊢
      · exact ihentered entered hstep hle h
      · rcases links with _ | fewer
        · exact absurd h (by simp)
        · obtain ⟨less, rfl⟩ : ∃ less, more = less + 1 := ⟨more - 1, by omega⟩
          exact ihlinked fewer start target rfl hstep (by omega) h

/-- **A canonical place is found under its own names.** -/
theorem resolve_of_canonical {place : List Bytes} (h : t.Canonical place) (links : ℕ)
    (names : List Bytes) :
    t.resolve links [] (place.reverse ++ names) = t.resolve links place names := by
  induction place generalizing names with
  | nil => rfl
  | cons name place ih =>
      rw [List.reverse_cons, List.append_assoc, List.singleton_append, ih h.tail, resolve_cons,
        step_of_canonical h]

/-- The names of a canonical place are seen as they are. -/
theorem status_of_canonical {place : List Bytes} (h : t.Canonical place) (rest : List Bytes)
    (trailing : Bool) :
    t.status { absolute := true, names := place.reverse ++ rest, trailing := trailing } =
      t.resolve maxLinks place (Path.seen rest trailing) := by
  unfold status
  rw [seen_append fun name hname => h.nul_notMem name (List.mem_reverse.mp hname),
    resolve_of_canonical h]

/-- **The path of a canonical place leads there.** -/
theorem status_pathOf {place : List Bytes} (h : t.Canonical place) :
    t.status (pathOf place) = .found place := by
  have hstatus := status_of_canonical h [] false
  rw [List.append_nil] at hstatus
  unfold pathOf
  rw [hstatus]
  exact resolve_nil maxLinks place

/-- Wherever a path leads is canonical. -/
theorem canonical_of_status {path : Path} {place : List Bytes}
    (h : t.status path = .found place) : t.Canonical place := by
  exact canonical_of_resolve (show t.Canonical [] from trivial)
    (fun _ hname => nul_notMem_seen hname) h

/-! ### Weakly canonical paths -/

/-- Names with no double dot among them lose their dots. -/
theorem walk_of_noDotdot (absolute : Bool) {base names : List Bytes} (h : dotdot ∉ names) :
    walk absolute base names = (names.filter (· ≠ dot)).reverse ++ base := by
  induction names generalizing base with
  | nil => rfl
  | cons name names ih =>
      have hname : name ≠ dotdot := fun heq => h (heq ▸ List.mem_cons_self)
      rw [walk_cons, ih fun hin => h (List.mem_cons_of_mem name hin)]
      by_cases hdot : name = dot
      · rw [hdot, enter_dot]
        simp
      · rw [enter_name hdot hname]
        simp [hdot]

/-- The normal form of such names has a separator at the end where it had one, or a dot. -/
theorem lexicallyNormal_of_noDotdot {names : List Bytes} (h : dotdot ∉ names) (trailing : Bool) :
    Path.lexicallyNormal { absolute := true, names, trailing } =
      { absolute := true
        names := names.filter (· ≠ dot)
        trailing := !(names.filter (· ≠ dot)).isEmpty &&
          (trailing || names.getLast? == some dot) } := by
  have hlast : ∀ {others : List Bytes}, dotdot ∉ others → (others.getLast? == some dotdot) = false :=
    fun hothers => beq_eq_false_iff_ne.mpr fun heq => hothers (List.mem_of_getLast? heq)
  have hfilter : dotdot ∉ names.filter (· ≠ dot) := fun hin => h (List.mem_filter.mp hin).1
  unfold Path.lexicallyNormal
  rw [if_neg (by simp [Path.isEmpty])]
  dsimp only
  rw [walk_of_noDotdot true h, List.append_nil, List.reverse_reverse]
  by_cases hempty : (names.filter (· ≠ dot)).isEmpty = true
  · rw [if_pos hempty, if_pos rfl, hempty, List.isEmpty_iff.mp hempty]
    rfl
  · rw [if_neg hempty, hlast h, bne, hlast hfilter, Bool.eq_false_iff.mpr hempty,
      Bool.or_false, Bool.not_false, Bool.and_true, Bool.true_and]

/-- Where the leading names that lead somewhere end. -/
theorem leading_spec {done names existing rest : List Bytes}
    (hdone : ∃ mid, t.status { absolute := true, names := done } = .found mid)
    (h : t.leading done names = some (existing, rest)) :
    existing ++ rest = done ++ names ∧
      (∃ mid, t.status { absolute := true, names := existing } = .found mid) ∧
      ∀ next others, rest = next :: others →
        t.status { absolute := true, names := existing ++ [next] } = .missing := by
  induction names generalizing done with
  | nil =>
      obtain ⟨rfl, rfl⟩ := Prod.mk.inj (Option.some.inj h)
      exact ⟨rfl, hdone, by simp⟩
  | cons name names ih =>
      unfold leading at h
      rcases hstatus : t.status { absolute := true, names := done ++ [name] } with mid | _ | _
      all_goals simp only [hstatus, reduceCtorEq] at h
      · obtain ⟨hsame, hrest⟩ := ih ⟨mid, hstatus⟩ h
        rw [List.append_assoc, List.singleton_append] at hsame
        exact ⟨hsame, hrest⟩
      · obtain ⟨rfl, rfl⟩ := Prod.mk.inj (Option.some.inj h)
        refine ⟨rfl, hdone, fun next others hnext => ?_⟩
        rw [(List.cons.inj hnext).1] at hstatus
        exact hstatus

/-- The names of a canonical place, with others behind them, lose the dots of the others. -/
theorem lexicallyNormal_of_canonical {mid rest : List Bytes} (hmid : t.Canonical mid)
    (hrest : dotdot ∉ rest) (trailing : Bool) :
    Path.lexicallyNormal { absolute := true, names := mid.reverse ++ rest, trailing } =
      { absolute := true
        names := mid.reverse ++ rest.filter (· ≠ dot)
        trailing := !(mid.reverse ++ rest.filter (· ≠ dot)).isEmpty &&
          (trailing || (mid.reverse ++ rest).getLast? == some dot) } := by
  have hplain : ∀ name ∈ mid.reverse, name ≠ dot ∧ name ≠ dotdot := fun name hin =>
    hmid.ne_dot name (List.mem_reverse.mp hin)
  have hnames : dotdot ∉ mid.reverse ++ rest := by
    intro hin
    rcases List.mem_append.mp hin with hin | hin
    · exact (hplain dotdot hin).2 rfl
    · exact hrest hin
  have hfilter : mid.reverse.filter (· ≠ dot) = mid.reverse :=
    List.filter_eq_self.mpr fun name hin => decide_eq_true (hplain name hin).1
  rw [lexicallyNormal_of_noDotdot hnames, List.filter_append, hfilter]

/-- What leads nowhere from a place, since its first name does not, leads nowhere when it is
normalised. -/
theorem status_normalised_ne_found {mid rest : List Bytes} {trailing : Bool}
    (hmid : t.Canonical mid) (hrest : dotdot ∉ rest)
    (hmissing : t.resolve maxLinks mid (Path.seen rest trailing) = .missing)
    (hnext : ∀ next others, rest = next :: others →
      t.resolve maxLinks mid (Path.seen [next] false) = .missing) (place : List Bytes) :
    t.status (Path.lexicallyNormal
      { absolute := true, names := mid.reverse ++ rest, trailing }) ≠ .found place := by
  rw [lexicallyNormal_of_canonical hmid hrest, status_of_canonical hmid]
  by_cases hdirectory : t.entryAt mid = .directory
  · have hdot : t.resolve maxLinks mid [dot] = .found mid := by
      rw [resolve_cons, step_dot hdirectory]
      exact resolve_nil maxLinks mid
    rcases rest with _ | ⟨next, others⟩
    · unfold Path.seen at hmissing
      split_ifs at hmissing
      · exact absurd (hdot.symm.trans hmissing) (by simp)
      · exact absurd ((resolve_nil maxLinks mid).symm.trans hmissing) (by simp)
    · have hfirst := hnext next others rfl
      by_cases hnextdot : next = dot
      · subst hnextdot
        exact absurd (hdot.symm.trans hfirst) (by simp)
      · have hfilter : (next :: others).filter (· ≠ dot) = next :: others.filter (· ≠ dot) :=
          List.filter_cons_of_pos (by simpa using hnextdot)
        rw [hfilter]
        intro hfound
        by_cases hnul : nul ∈ next
        · -- the rest is cut off behind the first name
          rw [Path.seen, if_pos hnul] at hfound hfirst
          exact absurd (hfirst.symm.trans hfound) (by simp)
        · rw [Path.seen, if_neg hnul] at hfound hfirst
          rw [← List.singleton_append] at hfound
          obtain ⟨other, hother⟩ := found_of_append hfound
          exact absurd (hfirst.symm.trans hother) (by simp)
  · have hnames : Path.seen (rest.filter (· ≠ dot))
        (!(mid.reverse ++ rest.filter (· ≠ dot)).isEmpty &&
          (trailing || (mid.reverse ++ rest).getLast? == some dot)) ≠ [] := by
      rcases hfilter : rest.filter (· ≠ dot) with _ | ⟨name, names⟩
      · have hmidne : mid ≠ [] := fun hroot => hdirectory (hroot ▸ rfl)
        have hends : (trailing || (mid.reverse ++ rest).getLast? == some dot) = true := by
          rcases List.eq_nil_or_concat rest with rfl | ⟨others, last, rfl⟩
          · rcases trailing with _ | _
            · exact absurd ((resolve_nil maxLinks mid).symm.trans hmissing) (by simp)
            · rfl
          · have hlast : last = dot := by
              have hnone := List.filter_eq_nil_iff.mp hfilter last (by simp)
              simpa using hnone
            simp [hlast]
        rw [hends, List.append_nil]
        simp [Path.seen, hmidne]
      · unfold Path.seen
        split_ifs <;> simp
    rw [resolve_of_not_directory hdirectory _ hnames]
    simp

/-- A weakly canonical path that leads somewhere is made of a path that does: what is put behind the
existing names leads nowhere. -/
theorem status_of_weaklyCanonical {path q : Path} {place : List Bytes}
    (hnames : dotdot ∉ path.names) (h : t.weaklyCanonical path = some q)
    (hfound : t.status q = .found place) : ∃ place', t.status path = .found place' := by
  unfold weaklyCanonical at h
  rcases hstatus : t.status path with place' | _ | _
  · exact ⟨place', rfl⟩
  · exfalso
    rw [hstatus] at h
    obtain ⟨⟨existing, rest⟩, hleading, h⟩ := Option.bind_eq_some_iff.mp h
    obtain ⟨front, hfront, h⟩ := Option.bind_eq_some_iff.mp h
    obtain ⟨hsame, ⟨mid, hmid⟩, hnext⟩ := leading_spec ⟨[], rfl⟩ hleading
    rw [List.nil_append] at hsame
    unfold canonical at hfront
    rw [hmid] at hfront
    obtain rfl := Option.some.inj hfront
    obtain rfl := Option.some.inj h
    -- the existing names are seen in full: nothing is missing behind a NUL
    have hnul : ∀ name ∈ existing, nul ∉ name := by
      intro name hin hname
      unfold status at hmid hstatus
      rw [← hsame, seen_append_of_nul ⟨name, hin, hname⟩ rest path.trailing false, hmid] at hstatus
      exact absurd hstatus (by simp)
    have hbehind : ∀ names trailing,
        t.status { absolute := true, names := existing ++ names, trailing } = .missing →
          t.resolve maxLinks mid (Path.seen names trailing) = .missing := by
      intro names trailing hmissing
      have hexisting : t.resolve maxLinks [] existing = .found mid := by
        have hseen := seen_append hnul [] false
        rw [List.append_nil] at hseen
        unfold status at hmid
        rw [hseen] at hmid
        exact (List.append_nil existing) ▸ hmid
      unfold status at hmissing
      rw [seen_append hnul] at hmissing
      obtain ⟨left, hleft, hresolve⟩ := resolve_append hexisting (Path.seen names trailing)
      exact missing_of_le hleft (hresolve.symm.trans hmissing)
    have hpath : t.status { absolute := true, names := existing ++ rest, trailing := path.trailing } =
        .missing := by
      rw [hsame]
      exact hstatus
    have hrest : dotdot ∉ rest := fun hin => hnames (hsame ▸ List.mem_append_right existing hin)
    exact status_normalised_ne_found (canonical_of_status hmid) hrest (hbehind rest _ hpath)
      (fun next others heq => hbehind [next] false (hnext next others heq)) place hfound
  · rw [hstatus] at h
    exact absurd h (by simp)

/-- **A weakly canonical path that leads somewhere is that of the place it leads to,** where no name
of the path is a double dot; and the path leads there too. -/
theorem place_of_weaklyCanonical {path q : Path} {place : List Bytes}
    (hnames : dotdot ∉ path.names) (h : t.weaklyCanonical path = some q)
    (hfound : t.status q = .found place) :
    q = pathOf place ∧ t.Canonical place ∧ t.status path = .found place := by
  obtain ⟨place', hstatus⟩ := status_of_weaklyCanonical hnames h hfound
  unfold weaklyCanonical at h
  rw [hstatus] at h
  obtain rfl := Option.some.inj h
  rw [status_pathOf (canonical_of_status hstatus)] at hfound
  obtain rfl := Lookup.found.inj hfound
  exact ⟨rfl, canonical_of_status hstatus, hstatus⟩

/-- From the root no double dot is left over. -/
theorem dotdot_notMem_walk {base names : List Bytes} (h : dotdot ∉ base) :
    dotdot ∉ walk true base names := by
  induction names generalizing base with
  | nil => exact h
  | cons name names ih =>
      rw [walk_cons]
      apply ih
      unfold enter
      split_ifs with hdot hdotdot
      · exact h
      · rcases base with _ | ⟨top, below⟩
        · exact h
        · rw [List.mem_cons, not_or] at h
          rw [ascend_cons (Ne.symm h.1)]
          exact h.2
      · rw [List.mem_cons, not_or]
        exact ⟨Ne.symm hdotdot, h⟩

/-- A weakly canonical path begins at the root, and there is no double dot in it. -/
theorem absolute_of_weaklyCanonical {path q : Path} (h : t.weaklyCanonical path = some q) :
    q.absolute = true ∧ dotdot ∉ q.names := by
  unfold weaklyCanonical at h
  rcases hstatus : t.status path with place | _ | _
  all_goals simp only [hstatus, reduceCtorEq] at h
  · rw [← Option.some.inj h]
    refine ⟨rfl, fun hin => ?_⟩
    exact ((canonical_of_status hstatus).ne_dot dotdot (List.mem_reverse.mp hin)).2 rfl
  · obtain ⟨⟨existing, rest⟩, -, h⟩ := Option.bind_eq_some_iff.mp h
    obtain ⟨front, -, h⟩ := Option.bind_eq_some_iff.mp h
    rw [← Option.some.inj h]
    unfold Path.lexicallyNormal
    rw [if_neg (by simp [Path.isEmpty])]
    dsimp only
    rw [if_pos rfl]
    split_ifs
    · exact ⟨rfl, List.not_mem_nil⟩
    · refine ⟨rfl, fun hin => ?_⟩
      exact dotdot_notMem_walk List.not_mem_nil (List.mem_reverse.mp hin)

/-- An absolute path whose elements are the first ones of the path of a canonical place is that of a
place above it. -/
theorem pathOf_of_elements_prefix {path : Path} {place : List Bytes} (habsolute : path.absolute = true)
    (hplace : t.Canonical place) (h : path.elements <+: (pathOf place).elements) :
    ∃ above, path = pathOf above ∧ above <:+ place := by
  rcases path with ⟨absolute, names, trailing⟩
  dsimp only at habsolute
  subst habsolute
  have hnames : names ++ (if trailing then [[]] else []) <+: place.reverse := by
    simpa [Path.elements, pathOf] using h
  rcases trailing with _ | _
  · rw [if_neg Bool.false_ne_true, List.append_nil] at hnames
    refine ⟨names.reverse, ?_, ?_⟩
    · rw [pathOf, List.reverse_reverse]
    · rw [← List.reverse_prefix, List.reverse_reverse]
      exact hnames
  · have hin : [] ∈ place.reverse := hnames.subset (by simp)
    exact absurd (List.mem_reverse.mp hin) hplace.nil_notMem

end Tree

end Found.FileTree
