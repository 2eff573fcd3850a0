import LogicalBackup.Storage.Tree
import Mathlib.Data.List.Infix

/-!
# What file operations leave alone

Directories are only made where nothing stands, and only on the way to the path that they are made
for (`entry?_makeDirectories`).  A copy changes the entry of its target and no other
(`entry?_copy_of_ne`).
-/

namespace LogicalBackup.Tree

theorem entry?_put_of_ne (t : Tree) {p q : TreePath} (h : q ≠ p) (entry : TreeEntry) :
    Tree.entry? (t.put p entry) q = t.entry? q := by
  have lookup (entries : List (TreePath × TreeEntry)) :
      (entries.filter (·.1 != p)).lookup q = entries.lookup q := by
    induction entries with
    | nil => rfl
    | cons e entries ih =>
      by_cases he : e.1 = p
      · have other : (q == e.1) = false := by simpa [he] using h
        rw [List.filter_cons_of_neg (by simpa using he), ih, List.lookup_cons, other]
      · rw [List.filter_cons_of_pos (by simpa using he), List.lookup_cons, List.lookup_cons, ih]
  have other : (q == p) = false := by simpa using h
  simp only [put, entry?, List.lookup_cons, other, lookup]

theorem entry?_put_self (t : Tree) {p : TreePath} (h : p ≠ []) (entry : TreeEntry) :
    Tree.entry? (t.put p entry) p = some entry := by
  have full : ¬p.isEmpty := by simpa using h
  simp only [put, entry?, full, List.lookup_cons_self]
  rfl

/-- At a path of `way` there was nothing, and there is a directory now. -/
def MadeOn (way q : TreePath) (t t' : Tree) : Prop :=
  t.entry? q = none ∧ t'.entry? q = some .directory ∧ q <+: way

/-- The directories of a path are made one after another, each where nothing stands. -/
theorem entry?_makeBelow (t : Tree) (base path q : TreePath) :
    Tree.entry? (t.makeBelow base path).2 q = t.entry? q ∨
      MadeOn (base ++ path) q t (t.makeBelow base path).2 := by
  induction path generalizing t base with
  | nil => exact .inl rfl
  | cons name rest ih =>
    have way : base ++ name :: rest = base ++ [name] ++ rest := by simp
    rw [makeBelow, way]
    by_cases long : maxNameLength < (utf8 name).length
    · rw [if_pos long]
      exact .inl rfl
    · rw [if_neg long]
      dsimp only
      split
      · next found =>
        rcases ih (t.put (base ++ [name]) .directory) (base ++ [name]) with same | made
        · rw [same]
          by_cases hq : q = base ++ [name]
          · subst hq
            have put := t.entry?_put_self (p := base ++ [name]) (by simp) .directory
            exact .inr ⟨found, same.trans put, List.prefix_append _ _⟩
          · exact .inl (t.entry?_put_of_ne hq _)
        · obtain ⟨missing, directory, onWay⟩ := made
          refine .inr ⟨?_, directory, onWay⟩
          by_cases hq : q = base ++ [name]
          · rw [hq, found]
          · rwa [t.entry?_put_of_ne hq] at missing
      · exact ih t (base ++ [name])
      · exact .inl rfl

theorem entry?_makeDirectories (t : Tree) (path q : TreePath) :
    Tree.entry? (t.makeDirectories path).2 q = t.entry? q ∨
      MadeOn path q t (t.makeDirectories path).2 := by
  unfold makeDirectories
  split_ifs
  · exact .inl rfl
  · exact t.entry?_makeBelow [] path q

/-- A file is written at its path and nowhere else. -/
theorem write_eq_ok {t t' : Tree} {p : FilePath} {content : Bytes}
    (h : t.write p content = .ok t') : t' = t.put p.path (.file content) := by
  obtain ⟨path, separator, dot⟩ := p
  unfold write at h
  cases found : t.find path with
  | error fault =>
    rw [found] at h
    cases h
  | ok entry =>
    rw [found] at h
    -- It is written only where no directory stands and if the path ends in a name.
    rcases entry with _ | (_ | old) <;> cases dot <;> cases separator <;> cases h <;> rfl

theorem entry?_copy_of_ne (t : Tree) (source target : FilePath) {q : TreePath}
    (h : q ≠ target.path) : Tree.entry? (t.copy source target).2 q = t.entry? q := by
  unfold copy
  split
  · rfl
  · split
    · rfl
    · next t' written => rw [write_eq_ok written, entry?_put_of_ne t h]

end LogicalBackup.Tree
