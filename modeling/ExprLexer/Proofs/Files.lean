import Mathlib
import ExprLexer.Files

/-!
# Reading what was written

A file written to a tree reads back as written (`Tree.readFile_of_writeFile`), whatever the
path and whatever stood in the tree before.

A place of a tree exists when it is on the way to the working directory or to an entry
(`Tree.lookup_ne_none_iff`), so the places above one that exists exist too. Putting an entry at
one place takes no place away and changes nothing found at another (`Tree.lookup_put_of_ne`).
A walk stands on a directory before each step and ends at a place that exists; so a walk that
meets no directory at the written place takes the same way after the write (`Tree.walk_put`).
That is why a write is read back: the walk to the file's directory is unchanged, and the last
step finds the file.
-/

namespace ExprLexer.Tree

variable {t : Tree} {ps q : List String} {e : Entry}

/-! ### Places that exist -/

/-- A place exists when it is on the way to the working directory or to an entry. -/
theorem lookup_ne_none_iff :
    t.lookup q ≠ none ↔ q <+: t.cwd ∨ ∃ x ∈ t.entries, q <+: x.1 := by
  unfold lookup
  split
  next x h =>
    have : (t.entries.lookup q).isSome := by simp [h]
    obtain ⟨p, hp, hq⟩ := List.lookup_isSome_iff.1 this
    simp only [ne_eq, reduceCtorEq, not_false_eq_true, true_iff]
    exact Or.inr ⟨p, hp, by rw [beq_iff_eq.1 hq]⟩
  next h =>
    simp only [ne_eq, ite_eq_right_iff, reduceCtorEq, imp_false, not_not, Bool.or_eq_true,
      List.isPrefixOf_iff_prefix, List.any_eq_true]

/-- Above a place that exists, a directory exists. -/
theorem lookup_dropLast_ne_none (h : t.lookup q ≠ none) : t.lookup q.dropLast ≠ none := by
  rw [lookup_ne_none_iff] at h ⊢
  rcases h with h | ⟨x, hx, h⟩
  · exact Or.inl ((List.dropLast_prefix q).trans h)
  · exact Or.inr ⟨x, hx, (List.dropLast_prefix q).trans h⟩

/-! ### Putting an entry -/

theorem entries_lookup_cons_of_ne {k : List String} {v : Entry} {es : List (List String × Entry)}
    (h : q ≠ k) : ((k, v) :: es).lookup q = es.lookup q := by
  rw [List.lookup_cons, beq_false_of_ne h]

/-- Dropping the entries at one place leaves what the others find. -/
theorem entries_lookup_filter_ne (es : List (List String × Entry)) :
    (es.filter (·.1 != ps)).lookup q = if q = ps then none else es.lookup q := by
  induction es with
  | nil => simp
  | cons x es ih =>
    obtain ⟨k, v⟩ := x
    by_cases hk : k = ps
    · -- the entry is dropped
      subst hk
      rw [List.filter_cons_of_neg (by simp), ih]
      split_ifs with hq
      · rfl
      · rw [entries_lookup_cons_of_ne hq]
    · rw [List.filter_cons_of_pos (by simpa using hk)]
      by_cases hq : q = k
      · subst hq
        simp [hk]
      · rw [entries_lookup_cons_of_ne hq, entries_lookup_cons_of_ne hq, ih]

theorem entries_lookup_put : (t.put ps e).entries.lookup q =
    if q = ps then some e else t.entries.lookup q := by
  rw [put, List.lookup_append, entries_lookup_filter_ne]
  split_ifs with hq
  · subst hq
    simp
  · rw [entries_lookup_cons_of_ne hq, List.lookup_nil]
    cases t.entries.lookup q <;> rfl

theorem lookup_put_self : (t.put ps e).lookup ps = some e := by
  rw [lookup, entries_lookup_put, if_pos rfl]

theorem exists_mem_put {x : List String × Entry} (hx : x ∈ t.entries) :
    ∃ y ∈ (t.put ps e).entries, x.1 = y.1 := by
  by_cases hk : x.1 = ps
  · exact ⟨(ps, e), by simp [put], hk⟩
  · exact ⟨x, by simp [put, hx, hk], rfl⟩

/-- Writing an entry takes no place away. -/
theorem lookup_put_ne_none (h : t.lookup q ≠ none) : (t.put ps e).lookup q ≠ none := by
  rw [lookup_ne_none_iff] at h ⊢
  rcases h with h | ⟨x, hx, h⟩
  · exact Or.inl h
  · obtain ⟨y, hy, hxy⟩ := @exists_mem_put t ps e x hx
    exact Or.inr ⟨y, hy, hxy ▸ h⟩

/-- Writing an entry changes nothing that stood at another place. -/
theorem lookup_put_of_ne {x : Entry} (hne : q ≠ ps) (h : t.lookup q = some x) :
    (t.put ps e).lookup q = some x := by
  have hne' := @lookup_put_ne_none t ps q e (h ▸ Option.some_ne_none x)
  unfold lookup at h hne' ⊢
  rw [entries_lookup_put, if_neg hne] at hne' ⊢
  cases hl : t.entries.lookup q with
  | some y => simpa [hl] using h
  | none =>
    -- only a directory is found through the paths below a place
    simp only [hl] at h hne' ⊢
    split_ifs at h hne' ⊢ <;> simp_all
/-! ### Walks -/

/-- Where a walk stands before it takes a step: a directory. -/
theorem lookup_of_walk_cons {pos : List String} {part : String} {rest : List String}
    {r : List String} (hpos : t.lookup pos ≠ none) (hw : t.walk pos (part :: rest) = .ok r) :
    t.lookup pos = some .dir := by
  rw [walk] at hw
  cases h : t.lookup pos with
  | none => exact absurd h hpos
  | some x =>
    cases x with
    | dir => rfl
    | file bs => rw [h] at hw; cases hw

theorem walk_append (pos xs ys : List String) :
    t.walk pos (xs ++ ys) = (t.walk pos xs >>= fun q => t.walk q ys) := by
  induction xs generalizing pos with
  | nil => rfl
  | cons part rest ih =>
    rw [List.cons_append, walk, walk]
    split
    · rfl
    · split_ifs
      · exact ih pos
      · exact ih pos.dropLast
      · dsimp only
        split
        · exact ih _
        · rfl

/-- A walk ends at a place that exists. -/
theorem lookup_walk_ne_none {pos parts r : List String} (hpos : t.lookup pos ≠ none)
    (hw : t.walk pos parts = .ok r) : t.lookup r ≠ none := by
  induction parts generalizing pos with
  | nil => cases hw; exact hpos
  | cons part rest ih =>
    have hd := lookup_of_walk_cons hpos hw
    rw [walk, hd] at hw
    simp only at hw
    split_ifs at hw
    · exact ih hpos hw
    · exact ih (lookup_dropLast_ne_none hpos) hw
    · split at hw
      · rename_i x hx
        exact ih (by simp [hx]) hw
      · cases hw

/-- A walk that passes through no directory at `ps` takes the same way once an entry is written
at `ps`. -/
theorem walk_put {pos parts r : List String} (hps : t.lookup ps ≠ some .dir)
    (hpos : t.lookup pos ≠ none) (hw : t.walk pos parts = .ok r) :
    (t.put ps e).walk pos parts = .ok r := by
  induction parts generalizing pos with
  | nil => exact hw
  | cons part rest ih =>
    have hd := lookup_of_walk_cons hpos hw
    have hd' : (t.put ps e).lookup pos = some .dir :=
      lookup_put_of_ne (by rintro rfl; exact hps hd) hd
    rw [walk, hd] at hw
    rw [walk, hd']
    simp only at hw ⊢
    split_ifs at hw ⊢
    · exact ih hpos hw
    · exact ih (lookup_dropLast_ne_none hpos) hw
    · split at hw
      · rename_i x hx
        obtain ⟨y, hy⟩ := Option.ne_none_iff_exists'.1
          (@lookup_put_ne_none t ps (pos ++ [part]) e (by simp [hx]))
        rw [hy]
        exact ih (by simp [hx]) hw
      · cases hw

/-! ### Writing a file -/

/-- Every path starts from a place that exists: the working directory or the root. -/
theorem lookup_start_ne_none (p : String) : t.lookup (t.start p).1 ≠ none := by
  rw [lookup_ne_none_iff]
  unfold start
  split
  · split_ifs
    · exact Or.inl (List.prefix_refl _)
    · exact Or.inl (List.nil_prefix)
  · exact Or.inl (List.prefix_refl _)

theorem start_put (p : String) : (t.put ps e).start p = t.start p := rfl

/-- What a successful write did: the last component of the path names the file, the others lead
to its directory, and the file is put there, where no directory stood. -/
theorem writeFile_eq_ok {p : String} {bs : List UInt8} {t' : Tree} (h : t.writeFile p bs = .ok t') :
    ∃ name dir, p.isEmpty = false ∧ (t.start p).2.getLast? = some name ∧
      (name == "" || name == "." || name == "..") = false ∧
      t.walk (t.start p).1 (t.start p).2.dropLast = .ok dir ∧
      (∀ b, t.lookup dir ≠ some (.file b)) ∧ t.lookup (dir ++ [name]) ≠ some .dir ∧
      t' = t.put (dir ++ [name]) (.file bs) := by
  unfold writeFile at h
  split_ifs at h with hp
  generalize t.start p = sp at h ⊢
  obtain ⟨pos, parts⟩ := sp
  dsimp only at h ⊢
  split at h
  next name hname =>
    split_ifs at h with hn
    · cases h' : t.walk pos parts <;> rw [h'] at h <;> cases h
    · cases hw : t.walk pos parts.dropLast with
      | error err => rw [hw] at h; cases h
      | ok dir =>
        rw [hw] at h
        dsimp only [bind, Except.bind] at h
        split at h
        · cases h
        · cases h
        · next hf hd =>
          cases h
          exact ⟨name, dir, by simpa using hp, hname, by simpa using hn, rfl, hf, hd, rfl⟩
  next => cases h
/-- A written path names the written file. -/
theorem resolve_of_writeFile {p : String} {bs : List UInt8} {t' : Tree}
    (h : t.writeFile p bs = .ok t') : ∃ ps, t'.resolve p = .ok ps ∧ t'.lookup ps = some (.file bs) := by
  obtain ⟨name, dir, hp, hname, hn, hw, hf, hd, rfl⟩ := writeFile_eq_ok h
  have hdir : t.lookup dir = some .dir := by
    have := lookup_walk_ne_none (lookup_start_ne_none p) hw
    cases hl : t.lookup dir with
    | none => exact absurd hl this
    | some x => cases x with
      | dir => rfl
      | file b => exact absurd hl (hf b)
  have hself : (t.put (dir ++ [name]) (.file bs)).lookup (dir ++ [name]) = some (.file bs) :=
    lookup_put_self
  refine ⟨dir ++ [name], ?_, hself⟩
  rw [resolve, if_neg (by simpa using hp), start_put]
  dsimp only
  rw [← List.dropLast_append_getLast? name hname, walk_append,
    walk_put hd (lookup_start_ne_none p) hw]
  -- the last step goes down from the directory to the file
  have hdir' : (t.put (dir ++ [name]) (.file bs)).lookup dir = some .dir :=
    lookup_put_of_ne (by simp) hdir
  rw [Bool.or_eq_false_iff] at hn
  show (t.put (dir ++ [name]) (.file bs)).walk dir [name] = _
  rw [walk, hdir']
  simp only [hn.1, hn.2, Bool.false_eq_true, if_false]
  rw [hself]
  rfl

/-- Read after write: once a file is written, its path exists and reads back the bytes
written. -/
theorem readFile_of_writeFile {p : String} {bs : List UInt8} {t' : Tree}
    (h : t.writeFile p bs = .ok t') : t'.pathExists p = true ∧ t'.readFile p = .ok bs := by
  obtain ⟨ps, hr, hl⟩ := resolve_of_writeFile h
  refine ⟨by rw [pathExists, hr], ?_⟩
  rw [readFile, hr]
  simp only [bind, Except.bind, hl]

end ExprLexer.Tree
