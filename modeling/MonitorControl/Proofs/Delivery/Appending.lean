/-
Adding text to a file, and what the file holds then.

A command file is only ever added to, and what a run leaves in it can be said as soon as
a single addition is understood: all of a text stands at the end of the file, or nothing
of it does (`Outlets.AppendsWhole`). That is assumed of the outside of a program. For the
files of a site it is a theorem (`Site.appendsWhole`): a path leads to the same place
before and after, and only the file that was named has grown (`find?_extend`).
-/
import MonitorControl.Delivery.Site

set_option autoImplicit false

namespace MonitorControl

/-! ## Files that grow -/

/-- **What a file holds** once `t` has been added to the file `name`. -/
def grownContent (name t key content : Text) : Text :=
  if key == name then content ++ t else content

/-- **What a place has become** then. -/
def Place.grown (place : Place) (name t : Text) : Place :=
  match place with
  | .file key content => .file key (grownContent name t key content)
  | place => place

namespace Files

variable (files : Files) (name t : Text)

/-- Adding to a file changes what stands under its name, and no names. -/
theorem extend_eq_map :
    files.extend name t =
      files.map fun entry => (entry.1, entry.2.map (grownContent name t entry.1)) := by
  unfold extend
  apply List.map_congr_left
  intro entry _
  by_cases hname : (entry.1 == name) = true
  · have hgrown : grownContent name t entry.1 = (· ++ t) := by
      funext content
      exact if_pos hname
    rw [if_pos hname, hgrown, eq_of_beq hname]
  · have hgrown : grownContent name t entry.1 = id := by
      funext content
      exact if_neg hname
    rw [if_neg hname, hgrown, Option.map_id, id_eq]

theorem lookup_extend (file : Text) :
    (files.extend name t).lookup file =
      (files.lookup file).map (Option.map (grownContent name t file)) := by
  rw [extend_eq_map]
  induction files with
  | nil => rfl
  | cons entry files ih =>
    obtain ⟨key, content?⟩ := entry
    rw [List.map_cons, List.lookup_cons, List.lookup_cons]
    cases hkey : file == key with
    | true =>
      rw [eq_of_beq hkey]
      rfl
    | false => exact ih

theorem any_extend (p : Text → Bool) :
    ((files.extend name t).any fun entry => p entry.1) = files.any fun entry => p entry.1 := by
  rw [extend_eq_map, List.any_map]
  rfl

/-! ## Paths through them

A path takes the same steps before and after; where it comes to a file, that may have grown. -/

theorem entry?_extend (steps : List Text) :
    Files.entry? (files.extend name t) steps = (·.grown name t) <$> files.entry? steps := by
  unfold entry?
  simp only [lookup_extend, any_extend files name t]
  cases files.lookup (Text.join ['/'] steps) with
  | some entry => cases entry <;> rfl
  | none =>
    show (if _ then _ else _) = Option.map _ (if _ then _ else _)
    split
    · rfl
    · rfl

/-- What every host has does not grow. -/
theorem hostEntry?_grown (steps : List Text) (step : Text) :
    hostEntry? steps step = (·.grown name t) <$> hostEntry? steps step := by
  unfold hostEntry?
  split
  · rfl
  · split
    · rfl
    · rfl

theorem step?_extend (place : Place) (step : Text) :
    (files.extend name t).step? (place.grown name t) step =
      (files.step? place step).map (·.grown name t) := by
  cases place with
  | file file content => rfl
  | nullDevice => rfl
  | directory steps =>
    show (if _ then _ else _) = Option.map _ (if _ then _ else _)
    split
    · rfl
    · split
      · split
        · rfl
        · rfl
      · -- the only step that looks at the files
        exact entry?_extend files name t _
  | hostDirectory steps =>
    show (if _ then _ else _) = Option.map _ (if _ then _ else _)
    split
    · rfl
    · split
      · rfl
      · exact hostEntry?_grown name t steps step
  | above =>
    show (if _ then _ else _) = Option.map _ (if _ then _ else _)
    split
    · rfl
    · rfl

theorem foldlM_step?_extend (steps : List Text) (place : Place) :
    steps.foldlM (files.extend name t).step? (place.grown name t) =
      (steps.foldlM files.step? place).map (·.grown name t) := by
  induction steps generalizing place with
  | nil => rfl
  | cons step steps ih =>
    rw [List.foldlM_cons, List.foldlM_cons, step?_extend]
    cases files.step? place step with
    | none => rfl
    | some next => exact ih next

/-- **Paths lead to the same places** once a text has been added to a file, and that has grown. -/
theorem find?_extend (path : Text) :
    (files.extend name t).find? path = (files.find? path).map (·.grown name t) := by
  unfold find?
  by_cases hpath : (path.isEmpty || pathLimit ≤ path.byteLength) = true
  · rw [if_pos hpath, if_pos hpath]
    rfl
  · rw [if_neg hpath, if_neg hpath]
    by_cases hroot : (path.head? == some '/') = true
    · simp only [hroot, if_true]
      exact foldlM_step?_extend files name t _ (.hostDirectory [])
    · simp only [hroot, if_false, Bool.false_eq_true]
      exact foldlM_step?_extend files name t _ (.directory [])

/-! ## Relative paths

A path without a slash in front stays below the directory of the files or climbs above it, and comes
to nothing that every host has. So it cannot end at the file that keeps nothing. -/

end Files

/-- A place that is not among what every host has. -/
def Place.isOwn : Place → Bool
  | .hostDirectory _ | .nullDevice => false
  | .directory _ | .above | .file _ _ => true

namespace Files

variable {files : Files}

theorem isOwn_entry? {steps : List Text} {place : Place} (h : files.entry? steps = some place) :
    place.isOwn = true := by
  unfold entry? at h
  simp only at h
  split at h
  · cases h
    rfl
  · cases h
    rfl
  · split at h
    · cases h
      rfl
    · cases h

theorem isOwn_step? {place next : Place} {step : Text} (hplace : place.isOwn = true)
    (h : files.step? place step = some next) : next.isOwn = true := by
  unfold step? at h
  cases place with
  | file key content => cases h
  | nullDevice => cases h
  | hostDirectory steps => cases hplace
  | directory steps =>
    simp only at h
    split at h
    · cases h
      rfl
    · split at h
      · split at h
        · cases h
          rfl
        · cases h
          rfl
      · exact isOwn_entry? h
  | above =>
    simp only at h
    split at h
    · cases h
      rfl
    · cases h

theorem isOwn_foldlM_step? {steps : List Text} {place next : Place} (hplace : place.isOwn = true)
    (h : steps.foldlM files.step? place = some next) : next.isOwn = true := by
  induction steps generalizing place with
  | nil =>
    cases h
    exact hplace
  | cons step steps ih =>
    rw [List.foldlM_cons] at h
    obtain ⟨middle, hmiddle, hnext⟩ := Option.bind_eq_some_iff.1 h
    exact ih (isOwn_step? hplace hmiddle) hnext

theorem isOwn_find? {path : Text} {place : Place} (hrelative : path.head? ≠ some '/')
    (h : files.find? path = some place) : place.isOwn = true := by
  unfold find? at h
  split at h
  · cases h
  · have hroot : ¬ (path.head? == some '/') = true := fun hslash => hrelative (eq_of_beq hslash)
    rw [if_neg hroot] at h
    exact isOwn_foldlM_step? rfl h

/-- **Adding a text to a file** on a relative path: the file holds the text behind what it held. -/
theorem read_append {files' : Files} {path t : Text} (hrelative : path.head? ≠ some '/')
    (h : files.append path t = .ok files') :
    ∃ content, files.read path = .content content ∧
      files'.read path = .content (content ++ t) := by
  unfold append at h
  cases hfind : files.find? path with
  | none =>
    rw [hfind] at h
    cases h
  | some place =>
    rw [hfind] at h
    have hown := isOwn_find? hrelative hfind
    cases place with
    | directory steps => cases h
    | hostDirectory steps => cases h
    | above => cases h
    | nullDevice => cases hown
    | file name content =>
      refine ⟨content, ?_, ?_⟩
      · rw [read, hfind]
      · have hgrown : (Place.file name content).grown name t = .file name (content ++ t) := by
          show Place.file name (if (name == name) = true then content ++ t else content) = _
          rw [if_pos (beq_self_eq_true name)]
        rw [← Except.ok.inj h, read, find?_extend, hfind, Option.map_some, hgrown]

end Files

/-! ## Main results -/

/-- **An outside that adds a whole text to a file or nothing.** `content` is what the file holds. -/
structure Outlets.AppendsWhole {σ : Type} (outlets : Outlets (StateM σ)) (path : Text)
    (content : σ → Text) : Prop where
  /-- To look at the clock changes no file. -/
  now : ∀ s, content (outlets.now s).2 = content s
  written : ∀ t s, (outlets.append path t s).1 = .ok () →
    content (outlets.append path t s).2 = content s ++ t
  failed : ∀ t s reason, (outlets.append path t s).1 = .error reason →
    content (outlets.append path t s).2 = content s

namespace Site

variable {site : Site} {path t : Text}

/-- What is read in a file of a site; nothing, if it cannot be read. -/
def contentOf (path : Text) (site : Site) : Text :=
  match site.files.read path with
  | .content t => t
  | _ => []

theorem contentOf_of_read {content : Text} (h : site.files.read path = .content content) :
    site.contentOf path = content := by
  unfold contentOf
  rw [h]

theorem append_of_ok {files : Files} (h : site.files.append path t = .ok files) :
    Site.outlets.append path t site = (.ok (), { site with files }) := by
  simp only [outlets, h]

theorem append_of_error {reason : Text} (h : site.files.append path t = .error reason) :
    Site.outlets.append path t site = (.error reason, site) := by
  simp only [outlets, h]

/-- **A site adds a whole text to a file or nothing**, wherever a relative path leads. -/
theorem appendsWhole (hrelative : path.head? ≠ some '/') :
    Site.outlets.AppendsWhole path (contentOf path) where
  now _ := rfl
  written t site := by
    intro hok
    cases happend : site.files.append path t with
    | error reason =>
      rw [append_of_error happend] at hok
      cases hok
    | ok files =>
      obtain ⟨content, hbefore, hafter⟩ := Files.read_append hrelative happend
      rw [append_of_ok happend, contentOf_of_read hbefore]
      exact contentOf_of_read hafter
  failed t site reason := by
    intro herror
    cases happend : site.files.append path t with
    | error reason' => rw [append_of_error happend]
    | ok files =>
      rw [append_of_ok happend] at herror
      cases herror

end Site

end MonitorControl
