import LogicalBackup.Proofs.Storage.Tree
import LogicalBackup.Storage
import Mathlib.Data.List.Basic
import Mathlib.Tactic.SplitIfs

/-!
# Where stored objects lie

A name may be given to an object if it is a path from the storage's directory whose components are
all names (`IsObjectName`, `isPlain_iff`).  Such an object lies strictly below that directory, at
the segments of its name that lead on (`ahead`), and whatever its name, nothing else changes when
it is stored (`objects_lie_below_root`).
-/

namespace LogicalBackup

/-- What a name of a stored object is, by its segments. -/
structure IsObjectName (name : String) : Prop where
  ne_empty : name ≠ ""
  head_ne_separator : name.toList.head? ≠ some '/'
  head_ne_dot : (segments name).head? ≠ some "."
  not_up : ".." ∉ segments name

/-- The segments that lead on, which are neither empty nor a dot. -/
def ahead (name : String) : List String := (segments name).filter fun s => s ≠ "" ∧ s ≠ "."

/-! ## Segments and components -/

/-- The first segment is empty before a separator only, or if there is nothing else. -/
theorem head?_segments_eq_empty_iff (path : String) :
    (segments path).head? = some "" ↔ path = "" ∨ path.toList.head? = some '/' := by
  unfold segments
  rw [← String.toList_inj]
  cases path.toList with
  | nil => exact iff_of_true rfl (.inl rfl)
  | cons c s =>
    rw [List.splitOn_cons_eq_if_modifyHead]
    obtain ⟨first, rest, parts⟩ := List.exists_cons_of_ne_nil (List.splitOn_ne_nil '/' s)
    by_cases hc : c = '/'
    · rw [if_pos (by simpa using hc), hc]
      exact iff_of_true rfl (.inr rfl)
    · rw [if_neg (by simpa using hc), parts]
      refine iff_of_false ?_ (by simp [hc])
      rw [List.modifyHead_cons, List.map_cons, List.head?_cons, Option.some.injEq,
        ← String.toList_inj, String.toList_ofList]
      exact List.cons_ne_nil _ _

/-- Segments without a way up have names for components. -/
theorem filterMap_ofSegment? {ss : List String} (h : ".." ∉ ss) :
    ss.filterMap PathComponent.ofSegment? =
      (ss.filter fun s => s ≠ "" ∧ s ≠ ".").map .normal := by
  induction ss with
  | nil => rfl
  | cons s ss ih =>
    rw [List.mem_cons, not_or] at h
    by_cases skip : s = "" ∨ s = "."
    · have none : PathComponent.ofSegment? s = none := if_pos skip
      have left : ¬(s ≠ "" ∧ s ≠ ".") := fun both => skip.elim both.1 both.2
      rw [List.filterMap_cons_none none, ih h.2, List.filter_cons_of_neg (by simpa using left)]
    · have some : PathComponent.ofSegment? s = some (.normal s) := by
        rw [PathComponent.ofSegment?, if_neg skip, if_neg (Ne.symm h.1)]
      rw [List.filterMap_cons_some some, ih h.2, List.filter_cons_of_pos (by simpa using skip)]
      rfl

theorem up_mem_filterMap_ofSegment? {ss : List String} (h : ".." ∈ ss) :
    PathComponent.up ∈ ss.filterMap PathComponent.ofSegment? :=
  List.mem_filterMap.2 ⟨"..", h, by decide⟩

/-- Names are plain that begin neither with a separator nor with a dot and have no way up. -/
theorem isPlain_iff {name : String} : LocalStorage.isPlain name ↔ IsObjectName name := by
  have plain : LocalStorage.isPlain name ↔
      name ≠ "" ∧ ∀ c ∈ pathComponents name, c.isNormal := by
    simp [LocalStorage.isPlain]
  rw [plain, pathComponents]
  constructor
  · rintro ⟨ne, normal⟩
    split_ifs at normal with root here
    · exact absurd (normal .root List.mem_cons_self) (by decide)
    · exact absurd (normal .here List.mem_cons_self) (by decide)
    · exact ⟨ne, root, here, fun up =>
        absurd (normal .up (up_mem_filterMap_ofSegment? up)) (by decide)⟩
  · rintro ⟨ne, root, here, up⟩
    rw [if_neg root, if_neg here, filterMap_ofSegment? up]
    refine ⟨ne, fun c hc => ?_⟩
    obtain ⟨s, -, rfl⟩ := List.mem_map.1 hc
    rfl

namespace IsObjectName

variable {name : String}

theorem pathComponents_eq (h : IsObjectName name) :
    pathComponents name = (ahead name).map .normal := by
  rw [pathComponents, if_neg h.head_ne_separator, if_neg h.head_ne_dot,
    filterMap_ofSegment? h.not_up, ahead]

/-- The first segment leads on. -/
theorem ahead_ne_nil (h : IsObjectName name) : ahead name ≠ [] := by
  have first : (segments name).head? ≠ some "" := fun empty =>
    ((head?_segments_eq_empty_iff name).1 empty).elim h.ne_empty h.head_ne_separator
  have dot := h.head_ne_dot
  unfold ahead
  cases parts : segments name with
  | nil => exact absurd (List.map_eq_nil_iff.1 parts) (List.splitOn_ne_nil _ _)
  | cons s ss =>
    rw [parts, List.head?_cons, ne_eq, Option.some.injEq] at first dot
    rw [List.filter_cons_of_pos (by simpa using ⟨first, dot⟩)]
    exact List.cons_ne_nil _ _

theorem up_not_mem_ahead (h : IsObjectName name) : ".." ∉ ahead name := fun up =>
  h.not_up (List.mem_of_mem_filter up)

end IsObjectName

/-- Names lead into directories of these names. -/
theorem treePath_append_names (base : List PathComponent) (names : List String) :
    treePath (base ++ names.map .normal) = treePath base ++ names := by
  unfold treePath
  rw [List.foldl_append, List.foldl_map]
  generalize base.foldl PathComponent.follow [] = place
  induction names generalizing place with
  | nil => exact (List.append_nil place).symm
  | cons n names ih => rw [List.foldl_cons, ih, PathComponent.follow, List.append_assoc,
      List.singleton_append]

theorem joinPath_names (base : List PathComponent) (names : List String) :
    joinPath base (names.map .normal) = base ++ names.map .normal := by
  have relative : (names.map PathComponent.normal).head? ≠ some .root := by
    cases names <;> simp
  have kept : (names.map PathComponent.normal).filter (· ≠ .here) = names.map .normal := by
    rw [List.filter_eq_self]
    intro c hc
    obtain ⟨n, -, rfl⟩ := List.mem_map.1 hc
    rfl
  unfold joinPath
  split_ifs with h
  · rcases h with root | rfl
    · exact absurd root relative
    · rfl
  · rw [kept]

namespace LocalStorage

variable (storage : LocalStorage) {name : String}

theorem resolve_eq (h : IsObjectName name) :
    storage.resolve name = .ok (storage.root ++ (ahead name).map .normal) := by
  rw [resolve, if_pos (isPlain_iff.2 h), h.pathComponents_eq, joinPath_names]

theorem resolve_eq_error (h : ¬IsObjectName name) :
    storage.resolve name = .error (invalidName name) := by
  rw [resolve, if_neg (isPlain_iff.not.2 h)]

/-- The path of a file that is stored under this name. -/
theorem exists_filePath_eq (h : IsObjectName name) : ∃ target : Tree.FilePath,
    storage.filePath name = .ok target ∧ target.path = treePath storage.root ++ ahead name := by
  rw [filePath, storage.resolve_eq h]
  exact ⟨_, rfl, treePath_append_names _ _⟩

theorem filePath_eq_error (h : ¬IsObjectName name) :
    storage.filePath name = .error (invalidName name) := by
  rw [filePath, storage.resolve_eq_error h]
  rfl

/-- What a storage is refused leaves the tree as it is. -/
theorem push_eq_error (h : ¬IsObjectName name) (t : Tree) (file : Tree.FilePath) :
    storage.push t name file = (.error (invalidName name), t) := by
  rw [push, storage.filePath_eq_error h]

theorem pull_eq_error (h : ¬IsObjectName name) (t : Tree) (file : Tree.FilePath) :
    storage.pull t name file = (.error (invalidName name), t) := by
  rw [pull, storage.filePath_eq_error h]

/-- Beside the file itself a storage changes at most the missing directories before it. -/
theorem entry?_push (h : IsObjectName name) (t : Tree) (file : Tree.FilePath) {q : TreePath}
    (hq : q ≠ treePath storage.root ++ ahead name) :
    Tree.entry? (storage.push t name file).2 q = t.entry? q ∨
      Tree.MadeOn (treePath storage.root ++ (ahead name).dropLast) q t
        (storage.push t name file).2 := by
  obtain ⟨target, found, path⟩ := storage.exists_filePath_eq h
  have parent : target.path.dropLast = treePath storage.root ++ (ahead name).dropLast := by
    rw [path, List.dropLast_append_of_ne_nil h.ahead_ne_nil]
  have made := t.entry?_makeDirectories target.path.dropLast q
  rw [push, found, ← parent]
  dsimp only
  generalize t.makeDirectories target.path.dropLast = result at made ⊢
  obtain ⟨fault | _, t'⟩ := result
  · exact made
  · have copied : Tree.entry? (t'.copy file target).2 q = t'.entry? q :=
      t'.entry?_copy_of_ne file target (path ▸ hq)
    exact made.imp copied.trans fun ⟨missing, directory, onWay⟩ =>
      ⟨missing, copied.trans directory, onWay⟩

/-- Only the file that is fetched into changes. -/
theorem entry?_pull (t : Tree) (file : Tree.FilePath) {q : TreePath} (hq : q ≠ file.path) :
    Tree.entry? (storage.pull t name file).2 q = t.entry? q := by
  unfold pull
  split
  · rfl
  · exact t.entry?_copy_of_ne _ file hq

end LocalStorage

/-- A name is accepted if it begins neither with a separator nor with a dot and has no way up.  What
is stored under it lies strictly below the directory of the storage, at the segments that lead on:
two names are of one object just if these are the same.  Nothing is stored or fetched under any
other name. -/
theorem objects_lie_below_root (storage : LocalStorage) :
    (∀ name, (∃ path, storage.resolve name = .ok path) ↔ IsObjectName name) ∧
    (∀ name path, storage.resolve name = .ok path →
      path = storage.root ++ (ahead name).map .normal ∧
      treePath path = treePath storage.root ++ ahead name ∧
      ahead name ≠ [] ∧ ".." ∉ ahead name ∧
      ∀ t file q,
        (q ≠ treePath path → Tree.entry? (storage.push t name file).2 q = t.entry? q ∨
          Tree.MadeOn (treePath path).dropLast q t (storage.push t name file).2) ∧
        (q ≠ file.path → Tree.entry? (storage.pull t name file).2 q = t.entry? q)) ∧
    (∀ name name' path path', storage.resolve name = .ok path →
      storage.resolve name' = .ok path' → (path = path' ↔ ahead name = ahead name')) ∧
    ∀ name, ¬IsObjectName name →
      let fault := Fault.storage ("invalid object name: " ++ Text.quoted name)
      storage.resolve name = .error fault ∧
        ∀ t file, storage.push t name file = (.error fault, t) ∧
          storage.pull t name file = (.error fault, t) := by
  have accepted {name : String} {path : List PathComponent}
      (h : storage.resolve name = .ok path) :
      IsObjectName name ∧ path = storage.root ++ (ahead name).map .normal := by
    by_cases isName : IsObjectName name
    · rw [storage.resolve_eq isName] at h
      exact ⟨isName, (Except.ok.inj h).symm⟩
    · rw [storage.resolve_eq_error isName] at h
      cases h
  refine ⟨fun name => ⟨?_, fun h => ⟨_, storage.resolve_eq h⟩⟩, ?_, ?_, fun name h =>
    ⟨storage.resolve_eq_error h, fun t file =>
      ⟨storage.push_eq_error h t file, storage.pull_eq_error h t file⟩⟩⟩
  · rintro ⟨path, h⟩
    exact (accepted h).1
  · intro name path h
    obtain ⟨isName, rfl⟩ := accepted h
    rw [treePath_append_names, List.dropLast_append_of_ne_nil isName.ahead_ne_nil]
    exact ⟨rfl, rfl, isName.ahead_ne_nil, isName.up_not_mem_ahead, fun t file q =>
      ⟨storage.entry?_push isName t file, storage.entry?_pull t file⟩⟩
  · intro name name' path path' h h'
    obtain ⟨-, rfl⟩ := accepted h
    obtain ⟨-, rfl⟩ := accepted h'
    rw [List.append_cancel_left_eq]
    exact (List.map_injective_iff.2 fun _ _ => PathComponent.normal.inj).eq_iff

/-- Two spellings of one name, and one that leads out of a directory again. -/
theorem objects_lie_below_root_of_spellings :
    let storage : LocalStorage := { root := [.root, .normal "srv"] }
    let path : List PathComponent := [.root, .normal "srv", .normal "daily", .normal "x.sql"]
    storage.resolve "daily//./x.sql" = .ok path ∧ storage.resolve "daily/x.sql/." = .ok path ∧
      ahead "daily//./x.sql" = ahead "daily/x.sql/." ∧ treePath path = ["srv", "daily", "x.sql"] ∧
      ∀ t file, storage.push t "a/../b" file =
        (.error (.storage "invalid object name: \"a/../b\""), t) := by
  intro storage path
  have first : storage.resolve "daily//./x.sql" = .ok path := by decide
  have second : storage.resolve "daily/x.sql/." = .ok path := by decide
  have out : ¬IsObjectName "a/../b" := fun h => h.not_up (by decide)
  obtain ⟨-, below, same, refused⟩ := objects_lie_below_root storage
  exact ⟨first, second, (same _ _ _ _ first second).1 rfl, (below _ _ first).2.1,
    fun t file => ((refused _ out).2 t file).1⟩

end LogicalBackup
