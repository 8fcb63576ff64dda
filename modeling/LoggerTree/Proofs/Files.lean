import LoggerTree.Files
import LoggerTree.Proofs.Text

/-! # What opening and appending do to files

    A text names a path if it leads there by way of folders that exist. For such a path,
    putting a file there changes what this path leads to, and what no other path leads to.
-/

namespace LoggerTree.Files

variable {files before after : Files} {path q : FilePath} {text : List Char}

/-! ### Placed paths -/

/-- All that a path goes through exists. Otherwise putting a file there would make folders. -/
def Placed (files : Files) (path : FilePath) : Prop :=
  ∀ p, p <+: path → p ≠ path → (files.find? p).isSome

/-- The working directory and the folders above it are always there. -/
theorem isSome_find?_of_isAbove (h : path.isAbove = true) : (files.find? path).isSome := by
  unfold find?
  cases files.entries.find? (·.1 = path) with
  | some entry => rfl
  | none => simp [h]

theorem Placed.concat (h : files.Placed path) (hfound : (files.find? path).isSome)
    (part : List Char) : files.Placed (path ++ [part]) := by
  intro p hp hne
  rcases List.prefix_concat_iff.1 hp with rfl | hp
  · exact absurd rfl hne
  · by_cases hself : p = path
    · exact hself ▸ hfound
    · exact h p hp hself

theorem placed_root (files : Files) : files.Placed .root := by
  intro p hp hne
  rcases List.prefix_concat_iff.1 (show p <+: [] ++ [['/']] from hp) with rfl | hp
  · exact absurd rfl hne
  · obtain rfl := List.prefix_nil.1 hp
    exact isSome_find?_of_isAbove rfl

theorem Placed.up (h : files.Placed path) : files.Placed path.up := by
  unfold FilePath.up
  split
  · exact placed_root files
  next hroot =>
    split
    · next habove =>
      -- Two dots lead to folders only, and so do all starts of them.
      have hdots : ∀ part ∈ path, part = ['.', '.'] := by
        simpa [FilePath.isAbove, hroot] using habove
      intro p hp hne
      apply isSome_find?_of_isAbove
      rcases List.prefix_concat_iff.1 hp with rfl | hp
      · exact absurd rfl hne
      · simp only [FilePath.isAbove, Bool.or_eq_true, List.all_eq_true, decide_eq_true_eq]
        exact .inr fun part hpart => hdots part (hp.subset hpart)
    · intro p hp hne
      apply h p (hp.trans path.dropLast_prefix)
      rintro rfl
      exact hne (hp.eq_of_length_le (by simp))

/-! ### Following names -/

/-- Following names leads to a placed path. -/
theorem placed_of_follow {here : FilePath} {parts : List (List Char)} (hhere : files.Placed here)
    (h : files.follow here parts = .ok path) : files.Placed path := by
  -- One case for each name: it fails, stays (`case5`), goes up (`case6`) or goes down (`case7`).
  fun_induction files.follow here parts with
  | case1 here =>
    cases h
    exact hhere
  | case2 | case3 | case4 => cases h
  | case5 _ _ _ _ _ _ ih => exact ih hhere h
  | case6 _ _ _ _ _ ih => exact ih hhere.up h
  | case7 here part _ hfound _ _ _ ih =>
    exact ih (hhere.concat (by rw [hfound]; rfl) part) h

/-- Names lead to the same path where all the folders still are. -/
theorem follow_of_folders {here : FilePath} {parts : List (List Char)}
    (hfolders : ∀ p, before.find? p = some .folder → after.find? p = some .folder)
    (h : before.follow here parts = .ok path) : after.follow here parts = .ok path := by
  fun_induction before.follow here parts with
  | case1 => exact h
  | case2 | case3 | case4 => cases h
  | case5 here _ _ hfound hlong hstay ih =>
    rw [follow, hfolders here hfound]
    simpa [hlong, hstay] using ih h
  | case6 here _ hfound hlong hstay ih =>
    rw [follow, hfolders here hfound]
    simpa only [if_neg hlong, if_neg hstay, if_pos] using ih h
  | case7 here part _ hfound hlong hstay hup ih =>
    rw [follow, hfolders here hfound]
    simpa [hlong, hstay, hup] using ih h

/-- What a text names is a placed path. -/
theorem placed_of_resolve (h : files.resolve text = .ok path) : files.Placed path := by
  have hstart : files.Placed (if text.head? = some '/' then .root else []) := by
    split
    · exact placed_root files
    · intro p hp hne
      exact absurd (List.prefix_nil.1 hp) hne
  unfold resolve at h
  split at h
  · cases h
  · split at h
    · cases h
    · split at h
      · cases h
      · exact placed_of_follow hstart h

theorem resolve_of_folders
    (hfolders : ∀ p, before.find? p = some .folder → after.find? p = some .folder)
    (h : before.resolve text = .ok path) : after.resolve text = .ok path := by
  unfold resolve at h ⊢
  split at h
  · cases h
  next hnul =>
    split at h
    · cases h
    next hlong =>
      split at h
      · cases h
      next hempty =>
        rw [if_neg hnul, if_neg hlong, if_neg hempty]
        exact follow_of_folders hfolders h

/-! ### Putting files -/

@[simp] theorem find?_put_self (files : Files) (path : FilePath) (bytes : ByteArray) :
    (files.put path bytes).find? path = some (.file bytes) := by
  have hkept : (files.entries.filter (·.1 ≠ path)).find? (·.1 = path) = none := by
    simp [List.find?_eq_none]
  simp only [find?, put, List.find?_append, hkept]
  simp

/-- The entries of other paths stay. -/
theorem find?_entries_put_of_ne (bytes : ByteArray) (hne : q ≠ path) :
    (files.put path bytes).entries.find? (·.1 = q) = files.entries.find? (·.1 = q) := by
  -- An entry with the path `q` is not the one that is taken out.
  have hkept : (fun e : FilePath × FileNode => !decide (e.1 = path) && decide (e.1 = q)) =
      fun e => decide (e.1 = q) := by
    funext e
    by_cases he : e.1 = q
    · simp [he, hne]
    · simp [he]
  simp [put, List.find?_append, List.find?_filter, hkept, Ne.symm hne]

/-- A file is below the paths on the way to it, and below no others. -/
theorem any_entries_put_of_not_below (bytes : ByteArray) (hbelow : ¬q <+: path) :
    (files.put path bytes).entries.any (fun e => q.isPrefixOf e.1) =
      files.entries.any (fun e => q.isPrefixOf e.1) := by
  have hprefix : q.isPrefixOf path = false :=
    Bool.eq_false_iff.2 (mt List.isPrefixOf_iff_prefix.1 hbelow)
  simp only [put, List.any_append, List.any_cons, hprefix, List.any_nil, Bool.or_false,
    List.any_filter]
  congr 1
  funext e
  by_cases he : e.1 = path
  · simp [he, hprefix]
  · simp [he]

theorem find?_put_of_ne (h : files.Placed path) (bytes : ByteArray) (hne : q ≠ path) :
    (files.put path bytes).find? q = files.find? q := by
  unfold find?
  rw [find?_entries_put_of_ne bytes hne]
  cases hfound : files.entries.find? (·.1 = q) with
  | some entry => rfl
  | none =>
    -- Without an entry of its own, `q` can only be a folder, by what is below it.
    by_cases hbelow : q <+: path
    · have hsome := h q hbelow hne
      simp only [find?, hfound] at hsome
      have hprefix : q.isPrefixOf path = true := List.isPrefixOf_iff_prefix.2 hbelow
      simp only [put, List.any_append, List.any_cons, hprefix, Bool.true_or, Bool.or_true,
        if_true]
      split at hsome
      next hthere => rw [if_pos hthere]
      · cases hsome
    · rw [any_entries_put_of_not_below bytes hbelow]

/-! ### Files that grow -/

/-- What a file holds. One that is missing holds nothing. -/
def content (files : Files) (path : FilePath) : ByteArray :=
  match files.find? path with
  | some (.file bytes) => bytes
  | some .folder | none => .empty

/-- The file at a path has got more bytes at its end, and nothing else has changed. If it was
    missing it has been made. -/
structure Grows (before after : Files) (path : FilePath) (more : ByteArray) : Prop where
  not_folder : before.find? path ≠ some .folder
  self : after.find? path = some (.file (before.content path ++ more))
  others : ∀ p, p ≠ path → after.find? p = before.find? p

theorem content_of_find? {bytes : ByteArray} (h : files.find? path = some (.file bytes)) :
    files.content path = bytes := by
  simp only [content, h]

namespace Grows

variable {more : ByteArray}

/-- Opening a file that is there changes nothing. -/
theorem of_find? {bytes : ByteArray} (h : files.find? path = some (.file bytes)) :
    Grows files files path .empty where
  not_folder := by simp [h]
  self := by rw [content_of_find? h, ByteArray.append_empty, h]
  others _ _ := rfl

theorem trans {last : Files} {rest : ByteArray} (h : Grows before after path more)
    (hlast : Grows after last path rest) : Grows before last path (more ++ rest) where
  not_folder := h.not_folder
  self := by rw [hlast.self, content_of_find? h.self, ByteArray.append_assoc]
  others p hp := (hlast.others p hp).trans (h.others p hp)

/-- A folder stays a folder. -/
theorem folder {p : FilePath} (h : Grows before after path more)
    (hfolder : before.find? p = some .folder) : after.find? p = some .folder := by
  have hne : p ≠ path := by
    rintro rfl
    exact h.not_folder hfolder
  rw [h.others p hne, hfolder]

/-- So texts go on naming what they named. -/
theorem resolve {q : FilePath} (h : Grows before after path more)
    (hnamed : before.resolve text = .ok q) : after.resolve text = .ok q :=
  resolve_of_folders (fun _ => h.folder) hnamed

end Grows

theorem grows_put (hplaced : files.Placed path) (hfolder : files.find? path ≠ some .folder)
    (more : ByteArray) : Grows files (files.put path (files.content path ++ more)) path more where
  not_folder := hfolder
  self := find?_put_self files path _
  others _ hne := find?_put_of_ne hplaced _ hne

theorem grows_append {bytes : ByteArray} (hplaced : files.Placed path)
    (h : files.find? path = some (.file bytes)) (s : String) :
    Grows files (files.append path s) path s.toUTF8 := by
  have hgrows := grows_put hplaced (by simp [h]) s.toUTF8
  rw [content_of_find? h] at hgrows
  simpa only [append, h] using hgrows

/-- Opening for appending finds the file that a text names, or makes it where it is missing. -/
theorem openAppend_eq_ok (h : before.openAppend text = .ok (path, after)) :
    before.resolve text = .ok path ∧ Grows before after path .empty := by
  change Except.bind (before.resolve _) _ = _ at h
  cases hresolve : before.resolve (if (Text.dropEndWhile (· == '/') text).isEmpty then text
      else Text.dropEndWhile (· == '/') text) with
  | error e =>
    rw [hresolve] at h
    cases h
  | ok found =>
    rw [hresolve] at h
    change (if _ then _ else _) = _ at h
    split at h
    · cases h
    next hlast =>
      -- Without a slash at its end the text stands for itself.
      have hname : Text.dropEndWhile (· == '/') text = text := by
        rcases List.eq_nil_or_concat text with rfl | ⟨init, c, rfl⟩
        · rfl
        · rw [List.concat_eq_append] at hlast ⊢
          rw [Text.dropEndWhile_concat, if_neg (by simpa using hlast)]
      rw [hname, ite_self] at hresolve
      cases hnode : before.find? found with
      | none =>
        simp only [hnode] at h
        cases h
        have hgrows := grows_put (placed_of_resolve hresolve) (by simp [hnode]) .empty
        have hcontent : before.content path = .empty := by simp only [content, hnode]
        rw [hcontent, ByteArray.append_empty] at hgrows
        exact ⟨hresolve, hgrows⟩
      | some node =>
        cases node with
        | folder => simp [hnode] at h
        | file bytes =>
          simp only [hnode] at h
          cases h
          exact ⟨hresolve, Grows.of_find? hnode⟩

end LoggerTree.Files
